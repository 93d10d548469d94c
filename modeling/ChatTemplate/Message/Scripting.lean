/-
# ChatTemplate.Message.Scripting -- `(eval script)`

A script in a message sees the sender's flags (`is`), the sender as a mention
(`sender`), the argument (`param`), the known users (`users`) and random picks
among them (`random`).  Users are only looked up for a script that speaks of
them.  Every call `url("…")` is fetched beforehand and replaced by a fresh name
that is bound to the page.
-/
import ChatTemplate.Message.RandomPick
import ChatTemplate.Script.Sandbox
import ChatTemplate.Template

namespace ChatTemplate.Scripting

set_option autoImplicit false

/-- The script of a token. -/
def sourceOf (token : List Char) : List Char :=
  (Text.replaceFirst "(eval ".toList [] token).dropLast

/-! ## What a script speaks of -/

/-- The text without its calls of random functions, which are no picks. -/
def withoutRandomFunctions (text : List Char) : List Char :=
  go 0 text
where
  go : Nat → List Char → List Char
    | _, [] => []
    | covered + 1, _ :: text => go covered text
    | 0, c :: text =>
        if Text.startsWith "Math.random".toList (c :: text) then go 10 text
        else if Text.startsWith "_.random".toList (c :: text) then go 7 text
        else c :: go 0 text

/-- Whether a script can see all users, itself or through a pick. -/
def needsUsers (source : List Char) : Bool :=
  Text.contains "users".toList source ||
    Text.contains "random".toList (withoutRandomFunctions source)

def needsOnline (source : List Char) : Bool :=
  Text.contains "online".toList source

/-! ## Pages -/

/-- A call `url("…")`, with quotes of either kind. -/
def urlPattern : Pattern :=
  Pattern.literal "url(" ++
    [.oneOf ['\'', '"'], .run .inLine 0 false, .oneOf ['\'', '"'], .char ')']

/-- The address in a call. -/
def addressOf (call : List Char) : String :=
  String.ofList ((call.drop 5).dropLast.dropLast)

/-- The number of names that a page can be given: those of five hexadecimal
digits. -/
def pageNames : Nat := 0x100000

/-- A name for a page: `url` and five hexadecimal digits. -/
def pageName (n : Nat) : String :=
  let digits := Nat.toDigits 16 (n % pageNames)
  "url" ++ String.ofList (List.replicate (5 - digits.length) '0' ++ digits)

/-- The value of a page: its document, or else its text. -/
def pageValue (reply : WebReply) : Script.Value :=
  match reply.json? with
  | some json => Script.Value.ofJson json
  | none => .str reply.body

/-- A script and the pages its names are bound to. -/
structure Prepared where
  source : List Char
  pages : List (String × Script.Value) := []

/-- Fetches the page of one call and puts a name in the place of the call. -/
def fetchCall (prepared : Prepared) (call : List Char) : Chat Prepared := do
  let dice ← Query.put .chance
  let name := pageName (dice.below pageNames).1
  let reply ← Chat.ask (Query.put (.fetch (addressOf call) []))
  return ⟨Text.replaceFirst call name.toList prepared.source,
    prepared.pages ++ [(name, pageValue reply)]⟩

/-- A script whose pages have been fetched. -/
def prepare (source : List Char) : Chat Prepared :=
  (urlPattern.findAll source).foldlM fetchCall { source }

/-! ## Picks -/

def pickValue (names : List String) : Dialogue Script.Value := do
  match ← RandomPick.pick names with
  | some name => return .str name
  | none => return .null

/-- The `random` object of a script. -/
def picks (settings : Settings) (users online : List User) : Dialogue Script.Value := do
  let eligible := RandomPick.eligible settings
  let onlineViewer ← pickValue (eligible online)
  let onlineFollower ← pickValue (eligible (online.filter (·.follower)))
  let onlineSubscriber ← pickValue (eligible (online.filter (·.subscriber)))
  let viewer ← pickValue (users.map (·.name))
  let follower ← pickValue ((users.filter (·.follower)).map (·.name))
  let subscriber ← pickValue ((users.filter (·.subscriber)).map (·.name))
  return .map
    [ ("follower", follower),
      ("online",
        .map
          [ ("follower", onlineFollower), ("subscriber", onlineSubscriber),
            ("viewer", onlineViewer) ]),
      ("subscriber", subscriber), ("viewer", viewer) ]

/-! ## Running -/

/-- The sender's record, which is made if there is none. -/
def senderRecord (sender : Sender) : Chat User := do
  match ← Chat.ask (Query.put (.userNamed sender.name)) with
  | some user => return user
  | none => Chat.ask (Query.put (.createUser sender.id sender.name))

def argumentValue (context : Context) : Script.Value :=
  match context.argument with
  | some text => .str text
  | none => .null

def resolve (settings : Settings) (context : Context) (token : List Char) :
    Chat (List Char) := do
  let source := sourceOf token
  let prepared ← prepare source
  let users ← if needsUsers source then Chat.ask (Query.put .allUsers) else pure []
  let sender ← senderRecord context.sender
  let online ←
    if needsOnline source then Chat.ask (Query.put (.usersWhere { online := some true }))
    else pure []
  let random ← picks settings users online
  let bindings :=
    prepared.pages ++
      [ ("users", .list (users.map User.toValue)), ("is", sender.flags), ("random", random),
        ("sender", .str (settings.mention context.sender.name)),
        ("param", argumentValue context) ]
  let dice ← Query.put .chance
  match Script.script prepared.source bindings dice with
  | .ok value => return value.chars
  | .error cause => throw (.badScript cause)

end ChatTemplate.Scripting
