/-
# ChatTemplate.Message.Context -- whom and what a message answers
-/
import ChatTemplate.Viewer

namespace ChatTemplate

set_option autoImplicit false

structure Context where
  sender : Sender := {}
  /-- What was written after the command that is being answered. -/
  argument : Option String := none
  /-- The command that is being answered. -/
  command : Option String := none
  /-- Lines sent on behalf of the command are suppressed. -/
  quiet : Bool := false
  /-- Texts to be put in place of further `$key` tokens. -/
  attributes : List (String × String) := []
  deriving DecidableEq

namespace Context

/-- The argument, with none counting as the empty one. -/
def argumentText (context : Context) : String :=
  context.argument.getD ""

/-- The argument, with the empty one counting as none. -/
def given? (context : Context) : Option String :=
  context.argument.filter fun text => !text.isEmpty

end Context

end ChatTemplate
