/-
# ChatTemplate.WorldFile.Setup -- what directives do

A world file sets up a world and the settings of its channel.  A directive works
on them as it is read.  When something is wrong with it, it stops, and what it has
changed until then stays changed (`Work`), so every directive looks at all of its
arguments before it changes anything.

Some settings are also kept in the world: the names of points and the
credentials.  `showSetting` keeps the two in step.
-/
import ChatTemplate.Settings
import ChatTemplate.World
import ChatTemplate.WorldFile.Argument
import ChatTemplate.WorldFile.Error

namespace ChatTemplate.WorldFile

set_option autoImplicit false

/-- The settings of a channel and its world. -/
structure Setup where
  settings : SettingTable := {}
  world : World := {}

/-- Work on a setup that may fail, leaving a setup in either case. -/
abbrev Work := ExceptT LineFault (StateM Setup)

def changeWorld (change : World → World) : Work Unit :=
  modify fun setup => { setup with world := change setup.world }

def changeStats (change : Stats → Stats) : Work Unit :=
  changeWorld fun world => { world with stats := change world.stats }

/-! ## Reading arguments -/

/-- The number in an argument, or what is wrong with it. -/
def readArgument {α : Type} (read? : List Char → Option α) (directive : Directive)
    (what text : String) : Except LineFault α :=
  match read? text.toList with
  | some value => .ok value
  | none => .error (.invalid directive what text)

/-- Exactly one argument. -/
def oneArgument (directive : Directive) : List String → Except LineFault String
  | [a] => .ok a
  | _ => .error (.wrongArguments directive)

/-- Exactly two arguments. -/
def twoArguments (directive : Directive) : List String → Except LineFault (String × String)
  | [a, b] => .ok (a, b)
  | _ => .error (.wrongArguments directive)

/-! ## Settings -/

/-- The song in a text `title|artist`. -/
def songOf (text : String) : Song :=
  match Text.breakOn? ['|'] text.toList with
  | some (title, artist) =>
      { title := String.ofList (Text.trim title), artist := String.ofList (Text.trim artist) }
  | none => { title := Text.trimString text, artist := "" }

/-- Marks a stream as live or not; one that goes live now began now. -/
def setOnline (now : Instant) (text : String) (stats : Stats) : Stats :=
  let online := ["1", "on", "true", "yes"].contains text
  { stats with
    online
    onlineSince := if online && stats.onlineSince.isNone then some now else stats.onlineSince }

/-- Puts the count in an argument where it belongs. -/
def setCount (text : String) (put : UInt64 → Stats → Stats) : Work Unit := do
  let count ← readArgument Text.readUInt64? .set "count" text
  changeStats (put count)

def setStatistic (now : Instant) (field text : String) : Work Unit := do
  match field with
  | "game" => changeStats fun stats => { stats with game := some text }
  | "title" => changeStats fun stats => { stats with title := some text }
  | "viewers" => setCount text fun viewers stats => { stats with viewers }
  | "views" => setCount text fun views stats => { stats with views }
  | "followers" => setCount text fun followers stats => { stats with followers }
  | "hosts" => setCount text fun hosts stats => { stats with hosts }
  | "subscribers" => setCount text fun subscribers stats => { stats with subscribers }
  | "bits" => setCount text fun bits stats => { stats with bits }
  | "online" => changeStats (setOnline now text)
  | "online_since" => do
      let since ← readArgument Instant.read? .set "timestamp" text
      changeStats fun stats => { stats with onlineSince := some since }
  | "ytsong" => changeStats fun stats => { stats with songRequest := some text }
  | "spotify" => changeStats fun stats => { stats with song := some (songOf text) }
  | _ => throw (.unknownStatistic field)

/-- The names of points that belong to some settings. -/
def pointsOf (settings : SettingTable) : PointsNames where
  singular := (settings.get? "points.singular").getD "point"
  plural := (settings.get? "points.plural").getD "points"

/-- What a world shows of a setting that is given a text. -/
def showSetting (settings : SettingTable) (name text : String) (world : World) : World :=
  match name with
  | "points.singular" => { world with points := { pointsOf settings with singular := text } }
  | "points.plural" => { world with points := { pointsOf settings with plural := text } }
  | "access_token" =>
      { world with credentials := some { world.credentials.getD {} with accessToken := text } }
  | "client_id" =>
      { world with credentials := some { world.credentials.getD {} with clientId := text } }
  | _ => world

/-- Gives a setting a text. -/
def define (name text : String) : Work Unit := do
  let settings := (← get).settings
  changeWorld (showSetting settings name text)
  modify fun setup => { setup with settings := setup.settings.set name text }

def setVariable (name : String) (entry : CustomVariable) : Work Unit :=
  changeWorld fun world => { world with customs := world.customs.set name entry }

/-- Gives a name a text, where the name says what kind of thing it is. -/
def assign (now : Instant) (name text : String) : Work Unit := do
  match Text.stripPrefix? "stats.".toList name.toList with
  | some field => setStatistic now (String.ofList field) text
  | none =>
      if Text.startsWith "$_".toList name.toList then
        setVariable name { value := text }
      else
        match Text.stripPrefix? "rate.".toList name.toList with
        | some currency => do
            let rate ← readArgument Decimal.read? .set "rate" text
            let code := String.ofList (Text.upper currency)
            changeWorld fun world => { world with rates := world.rates.set code rate }
        | none =>
            match Text.stripPrefix? "translate.".toList name.toList with
            | some key =>
                changeWorld fun world =>
                  { world with phrases := world.phrases.set (String.ofList key) text }
            | none => define name text

/-- The name and the text of a setting, as `name=text` or as two arguments. -/
def settingOf : List String → Except LineFault (String × String)
  | [] => .error .noSetting
  | first :: rest =>
      match Text.breakOn? ['='] first.toList with
      | some (name, text) =>
          .ok (String.ofList name, " ".intercalate (String.ofList text :: rest))
      | none =>
          if rest.isEmpty then .error (.noValue first) else .ok (first, " ".intercalate rest)

def setUp (now : Instant) (arguments : List String) : Work Unit := do
  let (name, text) ← settingOf arguments
  if name.isEmpty then throw .emptyName else assign now name text

/-! ## Entries of the world -/

def addUser (arguments : List String) : Work Unit := do
  let options := Options.read [] arguments
  let (name, id) ← twoArguments .user options.positional
  let user : User :=
    { id
      name
      online := options.has 'o'
      follower := options.has 'f'
      subscriber := options.has 's' }
  changeWorld fun world => world.addUser user

/-- The time of an event, if it is not now. -/
def readTime (now : Instant) : Option String → Except LineFault Instant
  | some text => readArgument Instant.read? .event "timestamp" text
  | none => .ok now

def readPayload (text : List Char) : Except LineFault Json :=
  if text.isEmpty then .ok .null
  else
    match Json.read? text with
    | some json => .ok json
    | none => .error .invalidDocument

/-- The payload of an event is everything from the first brace on. -/
def addEvent (now : Instant) (text : List Char) : Work Unit := do
  let head := text.takeWhile (· != '\x7b')
  let options := Options.read ['t'] (splitArguments head)
  let (kind, userName) ← twoArguments .event options.positional
  let time ← readTime now (options.value? 't')
  let payload ← readPayload (text.dropWhile (· != '\x7b'))
  changeWorld fun world =>
    { world with events := world.events ++ [{ kind, userName, time, payload }] }

def addAlias (arguments : List String) : Work Unit := do
  let options := Options.read [] arguments
  let name ← oneArgument .aliasEntry options.positional
  changeWorld fun world =>
    { world with aliases := world.aliases ++ [{ name, visible := !options.has 'h' }] }

def addCommand (arguments : List String) : Work Unit := do
  let options := Options.read ['P'] arguments
  let name ← oneArgument .command options.positional
  let permissions := (options.valuesOf 'P').map Text.lowerString
  let entry : CommandEntry := { name, visible := !options.has 'h', permissions }
  changeWorld fun world => { world with commands := world.commands ++ [entry] }

def addCooldown (arguments : List String) : Work Unit := do
  let (name, text) ← twoArguments .cooldown arguments
  let milliseconds ← readArgument Text.readUInt64? .cooldown "duration" text
  changeWorld fun world => { world with cooldowns := world.cooldowns ++ [{ name, milliseconds }] }

def addPrice (arguments : List String) : Work Unit := do
  let (command, text) ← twoArguments .price arguments
  let price ← readArgument Text.readInt64? .price "price" text
  changeWorld fun world => { world with prices := world.prices ++ [{ command, price }] }

def addRank (arguments : List String) : Work Unit := do
  let (name, text) ← twoArguments .rank arguments
  let hours ← readArgument Text.readUInt64? .rank "hours" text
  changeWorld fun world => { world with ranks := world.ranks ++ [{ name, hours }] }

def responseOf? (text : String) : Option Response :=
  match text with
  | "default" => some .announced
  | "custom" => some .custom
  | "command" => some .silent
  | _ => none

def addVariable (arguments : List String) : Work Unit := do
  let options := Options.read ['r', 'm'] arguments
  match options.positional with
  | [] => throw .noVariable
  | name :: value =>
      if Text.startsWith "$_".toList name.toList then
        let mode := (options.value? 'r').getD "default"
        match responseOf? mode with
        | none => throw (.unknownResponse mode)
        | some response =>
            setVariable name
              { value := " ".intercalate value
                response
                responseText := (options.value? 'm').getD ""
                scripted := options.has 'e' }
      else throw (.noVariableName name)

def addUsage (arguments : List String) : Work Unit := do
  let (command, text) ← twoArguments .usage arguments
  let count ← readArgument Text.readUInt64? .usage "count" text
  changeWorld fun world => { world with usage := world.usage.set command count }

/-- The number of statuses that a page can have, two to the power of 16. -/
def statusLimit : Nat := 0x10000

/-- The body of a page is everything after its status. -/
def addRoute (text : List Char) : Work Unit := do
  match Text.breakWhere? Text.isAsciiBlank text with
  | none => throw (.wrongArguments .route)
  | some (address, rest) =>
      if address.isEmpty then throw (.wrongArguments .route)
      else
        let (digits, body) := (Text.breakWhere? Text.isAsciiBlank rest).getD (rest, [])
        let status ←
          readArgument (Text.readNatural? 10 statusLimit) .route "status" (String.ofList digits)
        let reply : WebReply := { status, body := String.ofList (Text.trim body) }
        changeWorld fun world =>
          { world with routes := world.routes.set (String.ofList address) reply }

/-! ## Directives -/

/-- What a directive with its arguments does. -/
def apply (now : Instant) (directive : Directive) (text : List Char) : Work Unit :=
  let arguments := splitArguments text
  match directive with
  | .set => setUp now arguments
  | .user => addUser arguments
  | .event => addEvent now text
  | .aliasEntry => addAlias arguments
  | .command => addCommand arguments
  | .cooldown => addCooldown arguments
  | .price => addPrice arguments
  | .rank => addRank arguments
  | .customVariable => addVariable arguments
  | .usage => addUsage arguments
  | .route => addRoute text

end ChatTemplate.WorldFile
