/-
# ChatTemplate.Message.Token -- the tokens of messages

A message is text with tokens in it.  `Token` says what a token is replaced by;
the `Gate` tokens are replaced by nothing, they decide whether the message is
shown at all.
-/
namespace ChatTemplate

set_option autoImplicit false

/-- Whom a random viewer is picked from. -/
inductive Pool where
  | viewer
  | follower
  | subscriber
  deriving DecidableEq

/-- How much is heard of a variable that is set. -/
inductive VariableMode where
  /-- The variable's own response. -/
  | normal
  /-- The new value is shown, nothing is sent. -/
  | quiet
  /-- Nothing is shown or sent. -/
  | silent
  deriving DecidableEq

/-- What is told of another channel's stream. -/
inductive StreamField where
  | game
  | title
  | viewers
  deriving DecidableEq

/-- When a message is shown. -/
inductive Gate where
  | online
  | offline
  deriving DecidableEq

inductive Token where
  | price
  | topTip
  | game
  | status
  | randomUser (online : Bool) (pool : Pool)
  | randomNumber
  | trueOrFalse
  | condition
  | customVariable (mode : VariableMode)
  | script
  | toUser
  | argument
  | argumentOrNone
  | arithmetic
  | usageOf
  | usage
  | dispatch (quiet : Bool)
  | query
  | address
  | list
  | stream (field : StreamField)
  deriving DecidableEq

end ChatTemplate
