/-
# ChatTemplate.Viewer -- the people in a chat

A message is rendered for a `Sender`.  The directory of viewers holds `User`
records, with the flags that pools of viewers are chosen by (`UserFilter`).
Scripts see a user as a map with the flags under `is`.
-/
import ChatTemplate.Script.Value

namespace ChatTemplate

set_option autoImplicit false

/-- The user a message is rendered for. -/
structure Sender where
  name : String := ""
  id : String := ""
  deriving DecidableEq

structure User where
  id : String
  name : String
  online : Bool := false
  follower : Bool := false
  subscriber : Bool := false
  deriving DecidableEq

namespace User

/-- The flags of a user as scripts see them. -/
def flags (user : User) : Script.Value :=
  .map
    [ ("follower", .bool user.follower), ("online", .bool user.online),
      ("subscriber", .bool user.subscriber) ]

/-- A user as scripts see it. -/
def toValue (user : User) : Script.Value :=
  .map [("is", user.flags), ("userId", .str user.id), ("username", .str user.name)]

end User

/-- Which users to choose; a flag that is not given does not matter. -/
structure UserFilter where
  online : Option Bool := none
  follower : Option Bool := none
  subscriber : Option Bool := none
  deriving DecidableEq

namespace UserFilter

/-- Whether a flag is as it is wanted. -/
def allows (wanted : Option Bool) (flag : Bool) : Bool :=
  wanted.all (· == flag)

def accepts (filter : UserFilter) (user : User) : Bool :=
  allows filter.online user.online && allows filter.follower user.follower &&
    allows filter.subscriber user.subscriber

end UserFilter

end ChatTemplate
