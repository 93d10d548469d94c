/-
# ChatTemplate.World -- a bot kept in memory

A `World` holds everything that messages can ask about: viewers, events, usage
counters, exchange rates, variables, web pages, statistics and the registry.  It
also keeps what messages did: commands dispatched, lines sent, pages fetched.

`World.answer` is the answer of a world to each query, with the world after it.
Only five queries change anything: creating a user, dispatching a command,
setting a variable, fetching a page and sending a line; chance counts how often
it was asked.
-/
import ChatTemplate.Dialogue
import ChatTemplate.Table
import ChatTemplate.Text.Case
import ChatTemplate.Text.Search

namespace ChatTemplate

set_option autoImplicit false

/-- A command that was handed to the dispatcher. -/
structure Dispatched where
  sender : Sender
  text : String
  options : DispatchOptions
  deriving DecidableEq

/-- A line that was sent to the chat. -/
structure SentLine where
  text : String
  sender : Sender
  quiet : Bool
  deriving DecidableEq

/-- A page that was asked for, whether or not it was there. -/
structure Fetched where
  address : String
  headers : List (String × String)
  deriving DecidableEq

/-- What points are called, for one of them and for several. -/
structure PointsNames where
  singular : String := "point"
  plural : String := "points"
  deriving DecidableEq

/-- The wordings of a channel that sets none of its own. -/
def defaultPhrases : List (String × String) :=
  [ ("songs.not-playing", "not playing"),
    ("core.api.error", "API error"),
    ("core.api.not-available", "not available"),
    ("filters.setVariable", "$variable was set to $value.") ]

/-- The permission groups; the id of a group is its name. -/
def permissionGroups : List String :=
  ["casters", "moderators", "vip", "subscribers", "followers", "viewers"]

structure World where
  users : List User := []
  events : List Event := []
  usage : Table UInt64 := {}
  /-- The value of one unit of each currency, all in one base. -/
  rates : Table Float := {}
  customs : Table CustomVariable := {}
  routes : Table WebReply := {}
  stats : Stats := {}
  credentials : Option Credentials := none
  aliases : List AliasEntry := []
  commands : List CommandEntry := []
  cooldowns : List CooldownEntry := []
  prices : List PriceEntry := []
  ranks : List RankEntry := []
  points : PointsNames := {}
  phrases : Table String := ⟨defaultPhrases⟩
  dispatched : List Dispatched := []
  sent : List SentLine := []
  fetched : List Fetched := []
  /-- How many sources of random numbers have been given out. -/
  chances : Nat := 0

namespace World

/-! ## Looking up -/

/-- Names are compared without regard to the case of ASCII letters. -/
def userNamed? (world : World) (name : String) : Option User :=
  world.users.find? fun user => Text.sameIgnoringAsciiCase user.name name

def userWithId? (world : World) (id : String) : Option User :=
  world.users.find? fun user => user.id = id

/-- The latest of some events, the last of those that happened at one moment. -/
def latestOf (events : List Event) : Option Event :=
  events.foldl
    (fun latest event =>
      match latest with
      | some best => if event.time.before best.time then some best else some event
      | none => some event)
    none

def latestEvent? (world : World) (kinds : List String) : Option Event :=
  latestOf (world.events.filter fun event => kinds.contains event.kind)

/-- The events of a kind, the latest first; events of one moment stay in order. -/
def eventsOf (world : World) (kind : String) : List Event :=
  (world.events.filter fun event => event.kind = kind).mergeSort
    fun a b => !a.time.before b.time

def usageOf (world : World) (command : String) : UInt64 :=
  (world.usage.get? command).getD 0

/-- A currency without a rate is worth one unit of the base. -/
def rateOf (world : World) (currency : String) : Float :=
  (world.rates.get? (Text.upperString currency)).getD 1.0

def convert (world : World) (amount : Float) (source target : String) : Except Failure Float :=
  let targetRate := world.rateOf target
  if targetRate == 0.0 then .error (.noExchangeRate target)
  else .ok (amount * world.rateOf source / targetRate)

def variableValue (world : World) (name : String) : String :=
  ((world.customs.get? name).map (·.value)).getD ""

def permission? (name : String) : Option String :=
  let name := Text.lowerString name
  if permissionGroups.contains name then some name else none

def pointsLabel (world : World) (amount : Int64) : String :=
  if amount = 1 ∨ amount = -1 then world.points.singular else world.points.plural

def phrase (world : World) (key : String) : String :=
  (world.phrases.get? key).getD key

/-! ## Effects -/

/-- Adds a user in place of the one with the same id. -/
def addUser (world : World) (user : User) : World :=
  { world with users := (world.users.filter fun other => other.id ≠ user.id) ++ [user] }

/-- A new user, who is no follower or subscriber and not known to be online. -/
def createUser (world : World) (id name : String) : User × World :=
  let user : User := { id, name }
  (user, { world with users := world.users ++ [user] })

/-- The word of a command that its uses are counted under. -/
def commandWord (text : String) : String :=
  String.ofList (Text.firstWord text.toList)

def dispatch (world : World) (sender : Sender) (text : String) (options : DispatchOptions) :
    World :=
  let command := commandWord text
  { world with
    usage := world.usage.set command (world.usageOf command + 1)
    dispatched := world.dispatched ++ [{ sender, text, options }] }

/-- Gives a variable a value; all else about it stays as it is. -/
def writeVariable (world : World) (name value : String) : SetOutcome × World :=
  let custom := { (world.customs.get? name).getD {} with value := value }
  ({ accepted := true
     scripted := custom.scripted
     newValue := value
     response := custom.response
     responseText := custom.responseText
     currentValue := custom.value },
    { world with customs := world.customs.set name custom })

def fetch (world : World) (address : String) (headers : List (String × String)) :
    Except Failure WebReply × World :=
  let reply :=
    match world.routes.get? address with
    | some reply => .ok reply
    | none => .error (.noRoute address)
  (reply, { world with fetched := world.fetched ++ [{ address, headers }] })

def send (world : World) (text : String) (sender : Sender) (quiet : Bool) : World :=
  { world with sent := world.sent ++ [{ text, sender, quiet }] }

/-! ## Answers -/

/-- The answer to a query and the world after it.  The sources of random numbers
are given from outside, one for each time that chance is asked. -/
def answer (sources : Nat → Dice) : Dialogue.Responder World
  | .userNamed name, world => (.ok (world.userNamed? name), world)
  | .userWithId id, world => (.ok (world.userWithId? id), world)
  | .createUser id name, world =>
      let (user, world) := world.createUser id name
      (.ok user, world)
  | .allUsers, world => (.ok world.users, world)
  | .usersWhere filter, world => (.ok (world.users.filter filter.accepts), world)
  | .latestEvent kinds, world => (.ok (world.latestEvent? kinds), world)
  | .eventsOf kind, world => (.ok (world.eventsOf kind), world)
  | .usageOf command, world => (.ok (world.usageOf command), world)
  | .convert amount source target, world => (world.convert amount source target, world)
  | .dispatch sender text options, world => (.ok (), world.dispatch sender text options)
  | .readVariable name, world => (.ok (world.variableValue name), world)
  | .writeVariable name value, world =>
      let (outcome, world) := world.writeVariable name value
      (.ok outcome, world)
  | .isVariableSet name, world => (.ok (world.customs.contains name), world)
  | .fetch address headers, world => world.fetch address headers
  | .stats, world => (.ok world.stats, world)
  | .credentials, world => (.ok world.credentials, world)
  | .aliases, world => (.ok world.aliases, world)
  | .commands, world => (.ok world.commands, world)
  | .cooldowns, world => (.ok world.cooldowns, world)
  | .prices, world => (.ok world.prices, world)
  | .ranks, world => (.ok world.ranks, world)
  | .permission name, world => (.ok (permission? name), world)
  | .pointsLabel amount, world => (.ok (world.pointsLabel amount), world)
  | .send text sender quiet, world => (.ok (), world.send text sender quiet)
  | .phrase key, world => (world.phrase key, world)
  | .chance, world => (sources world.chances, { world with chances := world.chances + 1 })

end World

end ChatTemplate
