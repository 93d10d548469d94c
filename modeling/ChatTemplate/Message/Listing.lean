/-
# ChatTemplate.Message.Listing -- `(list.system)` and `(list.command.group)`

Lists of what the channel offers: aliases, commands, cooldowns, prices and
ranks.  Only what is enabled is listed, and of aliases and commands only what is
visible.  A list without entries is a single space, so that it does not clear
the message.
-/
import ChatTemplate.Dialogue
import ChatTemplate.Script.Value
import ChatTemplate.Text.Search

namespace ChatTemplate.Listing

set_option autoImplicit false

/-- Texts in the order of their characters. -/
def sorted (names : List String) : List String :=
  names.mergeSort fun a b => !(b < a)

/-- The name of a command without its mark. -/
def unmarked (name : String) : String :=
  String.ofList (Text.replaceFirst ['!'] [] name.toList)

def shownName (marked : Bool) (name : String) : String :=
  if marked then name else unmarked name

def aliases (marked : Bool) : Chat (List String) := do
  let entries ← Chat.ask (Query.put .aliases)
  let entries := entries.filter fun entry => entry.visible && entry.enabled
  return sorted (entries.map fun entry => shownName marked entry.name)

/-- The commands that a group may use. -/
def ofGroup (entries : List CommandEntry) (group : String) : Chat (List CommandEntry) := do
  match ← Chat.ask (Query.put (.permission group)) with
  | some id => return entries.filter fun entry => entry.permissions.contains id
  | none => return []

def commands (marked : Bool) (group : Option String) : Chat (List String) := do
  let entries ← Chat.ask (Query.put .commands)
  let entries := entries.filter fun entry => entry.visible && entry.enabled
  let entries ←
    match group with
    | some group => ofGroup entries group
    | none => pure entries
  return sorted (entries.map fun entry => shownName marked entry.name)

/-- A number of milliseconds in seconds. -/
def secondsText (milliseconds : UInt64) : String :=
  Script.formatNumber (Decimal.ofInt milliseconds.toNat / 1000.0)

def cooldowns : Chat (List String) := do
  let entries ← Chat.ask (Query.put .cooldowns)
  let entries := entries.filter (·.enabled)
  return sorted
    (entries.map fun entry => entry.name ++ ": " ++ secondsText entry.milliseconds ++ "s")

def priceText (entry : PriceEntry) : Chat String := do
  let label ← Chat.ask (Query.put (.pointsLabel entry.price))
  return entry.command ++ " (" ++ Text.int64Text entry.price ++ label ++ ")"

def prices : Chat (List String) := do
  let entries ← Chat.ask (Query.put .prices)
  (entries.filter (·.enabled)).mapM priceText

def ranks : Chat (List String) := do
  let entries ← Chat.ask (Query.put .ranks)
  let entries := entries.mergeSort fun a b => a.hours ≤ b.hours
  return entries.map fun entry => entry.name ++ " (" ++ Text.uint64Text entry.hours ++ "h)"

/-- The entries in one line. -/
def line (entries : List String) : List Char :=
  if entries.isEmpty then [' ']
  else Text.join ", ".toList (entries.map String.toList)

/-- The names in a token, between its points. -/
def requested (token : List Char) : List String :=
  let body := (Text.stripPrefix? "(list.".toList token).bind (Text.stripSuffix? [')'])
  (Text.splitOn ['.'] (body.getD [])).map String.ofList

def resolve (token : List Char) : Chat (List Char) := do
  let names := requested token
  let group := (names[1]?).filter fun name => !name.isEmpty
  match names.headD "" with
  | "alias" => line <$> aliases false
  | "!alias" => line <$> aliases true
  | "command" => line <$> commands false group
  | "!command" => line <$> commands true group
  | "cooldown" => line <$> cooldowns
  | "price" => line <$> prices
  | "ranks" => line <$> ranks
  | _ => return []

end ChatTemplate.Listing
