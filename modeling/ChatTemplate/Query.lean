/-
# ChatTemplate.Query -- what rendering asks of the bot around it

Rendering a message never touches storage, the network or the chat itself.  It
asks: every lookup and every effect is a `Query`, put to the collaborator that
is responsible for it, and `Query.Answer` is the type of what comes back.  All
collaborators can fail, but there is always a phrase for a key, and chance.
-/
import ChatTemplate.Broadcast
import ChatTemplate.CustomVariable
import ChatTemplate.Dice
import ChatTemplate.Event
import ChatTemplate.Failure
import ChatTemplate.Json.Reader
import ChatTemplate.Registry
import ChatTemplate.Viewer

namespace ChatTemplate

set_option autoImplicit false

structure DispatchOptions where
  /-- Neither cooldowns nor permissions are checked. -/
  skipChecks : Bool := false
  /-- The command's own output is suppressed. -/
  quiet : Bool := false
  deriving DecidableEq

structure WebReply where
  status : Nat
  body : String
  deriving DecidableEq

/-- The document in the body of a reply, if it is one. -/
def WebReply.json? (reply : WebReply) : Option Json :=
  Json.read? reply.body.toList

inductive Query where
  | userNamed (name : String)
  | userWithId (id : String)
  | createUser (id name : String)
  | allUsers
  | usersWhere (filter : UserFilter)
  /-- The latest event of one of some kinds. -/
  | latestEvent (kinds : List String)
  /-- The events of a kind, the latest first. -/
  | eventsOf (kind : String)
  | usageOf (command : String)
  | convert (amount : Float) (source target : String)
  | dispatch (sender : Sender) (text : String) (options : DispatchOptions)
  | readVariable (name : String)
  | writeVariable (name value : String)
  | isVariableSet (name : String)
  | fetch (address : String) (headers : List (String × String))
  | stats
  | credentials
  | aliases
  | commands
  | cooldowns
  | prices
  | ranks
  /-- The id of a permission group. -/
  | permission (name : String)
  | pointsLabel (amount : Int64)
  | send (text : String) (sender : Sender) (quiet : Bool)
  /-- The wording that the channel uses for something. -/
  | phrase (key : String)
  /-- A fresh source of random numbers. -/
  | chance

/-- The type of the answer to a query. -/
@[reducible] def Query.Answer : Query → Type
  | userNamed _ => Except Failure (Option User)
  | userWithId _ => Except Failure (Option User)
  | createUser _ _ => Except Failure User
  | allUsers => Except Failure (List User)
  | usersWhere _ => Except Failure (List User)
  | latestEvent _ => Except Failure (Option Event)
  | eventsOf _ => Except Failure (List Event)
  | usageOf _ => Except Failure UInt64
  | convert _ _ _ => Except Failure Float
  | dispatch _ _ _ => Except Failure Unit
  | readVariable _ => Except Failure String
  | writeVariable _ _ => Except Failure SetOutcome
  | isVariableSet _ => Except Failure Bool
  | fetch _ _ => Except Failure WebReply
  | stats => Except Failure Stats
  | credentials => Except Failure (Option Credentials)
  | aliases => Except Failure (List AliasEntry)
  | commands => Except Failure (List CommandEntry)
  | cooldowns => Except Failure (List CooldownEntry)
  | prices => Except Failure (List PriceEntry)
  | ranks => Except Failure (List RankEntry)
  | permission _ => Except Failure (Option String)
  | pointsLabel _ => Except Failure String
  | send _ _ _ => Except Failure Unit
  | phrase _ => String
  | chance => Dice

/-- Those who answer, apart from the wordings and chance. -/
inductive Collaborator where
  | users
  | events
  | usage
  | currency
  | dispatcher
  | customs
  | web
  | broadcast
  | registry
  | points
  | chat
  deriving DecidableEq

end ChatTemplate
