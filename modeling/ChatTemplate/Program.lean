/-
# ChatTemplate.Program -- the command-line program

The program renders one text in the world of a file and reports what the message
did on its way.  Everything but the reading of files and the printing is here:
`Program.paths` are the files that may be needed, and `Program.run` is what is
printed, given what those files hold.
-/
import ChatTemplate.CommandLine
import ChatTemplate.Overlay
import ChatTemplate.World.Host
import ChatTemplate.WorldFile.Load

namespace ChatTemplate.Program

set_option autoImplicit false

open CommandLine (Invocation)

/-! ## Surroundings -/

/-- Why a file cannot be read. -/
inductive FileFault where
  | missing
  | noDirectory
  | isDirectory
  | longName
  | noText
  deriving DecidableEq

def FileFault.message : FileFault → String
  | missing => "No such file or directory (os error 2)"
  | noDirectory => "Not a directory (os error 20)"
  | isDirectory => "Is a directory (os error 21)"
  | longName => "File name too long (os error 36)"
  | noText => "stream did not contain valid UTF-8"

/-- What the program is started in. -/
structure Surroundings where
  /-- The world file of the user, if the user has a directory for it. -/
  userFile : Option String
  files : String → Except FileFault String
  clock : Nat → Instant
  sources : Nat → Dice

structure Output where
  status : Nat := 0
  printed : String := ""
  errors : String := ""
  deriving DecidableEq

/-- The output of a program that stops with an error. -/
def Output.failure (message : String) : Output where
  status := 1
  errors := "chatmsg: " ++ message ++ "\n"

/-! ## The world -/

/-- The places where a world file is looked for. -/
def usualPlaces (userFile : Option String) : List String :=
  userFile.toList ++ ["./chatmsg.rc", "./.chatmsgrc"]

/-- The files that an invocation may need. -/
def pathsOf (userFile : Option String) (invocation : Invocation) : List String :=
  match invocation.world with
  | .search => usualPlaces userFile
  | .skip => []
  | .file path => [path]

/-- The files that some arguments may need. -/
def paths (userFile : Option String) (arguments : List String) : List String :=
  match CommandLine.read arguments with
  | .ok invocation => pathsOf userFile invocation
  | .error _ => []

/-- Whether there is something at a path. -/
def isThere : Except FileFault String → Bool
  | .error .missing | .error .noDirectory | .error .longName => false
  | _ => true

/-- The text of the world file, which is empty when there is none. -/
def worldText (surroundings : Surroundings) (invocation : Invocation) :
    Except FileFault String :=
  match invocation.world with
  | .file path => surroundings.files path
  | .skip => .ok ""
  | .search =>
      let files := (usualPlaces surroundings.userFile).map surroundings.files
      (files.find? isThere).getD (.ok "")

/-! ## Rendering -/

/-- The context of a message; the id of a sender for whom none is given is looked
up. -/
def contextOf (settings : Settings) (invocation : Invocation) : Chat Context := do
  let name := invocation.sender.getD settings.broadcasterName
  let id ←
    match invocation.userId with
    | some id => pure id
    | none => do
        let user ← Chat.ask (Query.put (.userNamed name))
        pure ((user.map (·.id)).getD name)
  let sender : Sender := { name, id }
  return ⟨sender, invocation.argument, invocation.command, invocation.quiet, []⟩

def render (settings : Settings) (invocation : Invocation) : Chat (List Char) := do
  let text := invocation.text.toList
  if invocation.placeholdersOnly then
    Message.renderPlaceholders settings (invocation.escape.getD "") text
  else if invocation.overlay then Overlay.render settings text
  else do
    let context ← contextOf settings invocation
    Message.render settings context text

def dispatchedLine (dispatched : Dispatched) : String :=
  "dispatched: " ++ dispatched.text ++ " (as " ++ dispatched.sender.name ++ ")\n"

def sentLine (sent : SentLine) : String :=
  "sent: " ++ sent.text ++ (if sent.quiet then " [quiet]" else "") ++ "\n"

/-- What a message did. -/
def report (world : World) : String :=
  String.join (world.dispatched.map dispatchedLine ++ world.sent.map sentLine)

/-- Renders a text in the world of a file.  There is no access to the web, so a
page that is to come from there is not available. -/
def runIn (surroundings : Surroundings) (invocation : Invocation) (text : String) : Output :=
  let setup := (WorldFile.load surroundings.clock text.toList).setup
  let host : Host :=
    { down := if invocation.live then [.web] else [], sources := surroundings.sources }
  let rendering := Chat.attempt (render (Settings.ofTable setup.settings) invocation)
  match host.run rendering setup.world with
  | (.ok rendered, world) =>
      { printed := String.ofList rendered ++ "\n", errors := report world }
  | (.error failure, _) => Output.failure failure.message

/-- **What the program prints**, and the status it ends with. -/
def run (surroundings : Surroundings) (arguments : List String) : Output :=
  match CommandLine.read arguments with
  | .error fault =>
      let failure := Output.failure fault.message
      { failure with errors := failure.errors ++ CommandLine.usage ++ "\n" }
  | .ok invocation =>
      if invocation.help then { printed := CommandLine.usage ++ "\n" }
      else
        match worldText surroundings invocation with
        | .error fault => Output.failure fault.message
        | .ok text => runIn surroundings invocation text

end ChatTemplate.Program
