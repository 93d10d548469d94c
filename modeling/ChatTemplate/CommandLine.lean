/-
# ChatTemplate.CommandLine -- the arguments of the program

Options are single letters after a hyphen and may be combined; an option with a
value takes it from the rest of its argument, or else from the next argument.
`--` ends the options, and everything that is no option is text.
-/
namespace ChatTemplate.CommandLine

set_option autoImplicit false

/-- Where the world of a message comes from. -/
inductive WorldChoice where
  /-- The first file found in the usual places. -/
  | search
  /-- No file: an empty world. -/
  | skip
  | file (path : String)
  deriving DecidableEq

structure Invocation where
  world : WorldChoice := .search
  sender : Option String := none
  userId : Option String := none
  argument : Option String := none
  command : Option String := none
  /-- What is escaped in song titles when only placeholders are replaced. -/
  escape : Option String := none
  quiet : Bool := false
  placeholdersOnly : Bool := false
  overlay : Bool := false
  /-- Pages are fetched from the web and not from the world. -/
  live : Bool := false
  debug : Bool := false
  help : Bool := false
  words : List String := []
  deriving DecidableEq

/-- The text to be rendered. -/
def Invocation.text (invocation : Invocation) : String :=
  " ".intercalate invocation.words

def Invocation.addWords (invocation : Invocation) (words : List String) : Invocation :=
  { invocation with words := invocation.words ++ words }

inductive Fault where
  | missingValue (option : Char)
  | unknownOption (option : Char)
  | noText
  deriving DecidableEq

def Fault.message : Fault → String
  | missingValue option => "-" ++ String.singleton option ++ " requires an argument"
  | unknownOption option => "unknown option: -" ++ String.singleton option
  | noText => "missing text to render"

def usage : String :=
  "Usage: chatmsg [-f[<file>]] [-s<sender>] [-u<id>] [-p<param>] " ++
    "[-c<cmd>] [-e<esc>] [-qgordh] <text...>"

/-! ## Options -/

/-- The options without a value. -/
def switch? (option : Char) (invocation : Invocation) : Option Invocation :=
  match option with
  | 'q' => some { invocation with quiet := true }
  | 'g' => some { invocation with placeholdersOnly := true }
  | 'o' => some { invocation with overlay := true }
  | 'r' => some { invocation with live := true }
  | 'd' => some { invocation with debug := true }
  | 'h' => some { invocation with help := true }
  | _ => none

/-- The options with a value. -/
def valued? (option : Char) (value : String) (invocation : Invocation) : Option Invocation :=
  match option with
  | 's' => some { invocation with sender := some value }
  | 'u' => some { invocation with userId := some value }
  | 'p' => some { invocation with argument := some value }
  | 'c' => some { invocation with command := some value }
  | 'e' => some { invocation with escape := some value }
  | _ => none

def isHyphened (argument : String) : Bool :=
  argument.toList.head? == some '-'

/-- The options whose letters stand in one argument.  The result says whether the
next argument was taken as a value. -/
def readLetters (next : Option String) :
    List Char → Invocation → Except Fault (Invocation × Bool)
  | [], invocation => .ok (invocation, false)
  | 'f' :: [], invocation =>
      match next.filter fun path => !isHyphened path with
      | some path => .ok ({ invocation with world := .file path }, true)
      | none => .ok ({ invocation with world := .skip }, false)
  | 'f' :: path, invocation =>
      .ok ({ invocation with world := .file (String.ofList path) }, false)
  | option :: letters, invocation =>
      match switch? option invocation with
      | some invocation => readLetters next letters invocation
      | none =>
          match valued? option (String.ofList letters) invocation with
          | none => .error (.unknownOption option)
          | some withRest =>
              if !letters.isEmpty then .ok (withRest, false)
              else
                match next.bind fun value => valued? option value invocation with
                | some withNext => .ok (withNext, true)
                | none => .error (.missingValue option)

/-- Reads arguments one after the other; `taken` says that the first of them was
the value of an option. -/
def readFrom (invocation : Invocation) : (taken : Bool) → List String → Except Fault Invocation
  | _, [] => .ok invocation
  | true, _ :: arguments => readFrom invocation false arguments
  | false, argument :: arguments =>
      if argument = "--" then .ok (invocation.addWords arguments)
      else
        match argument.toList with
        | '-' :: letter :: letters =>
            match readLetters arguments.head? (letter :: letters) invocation with
            | .ok (invocation, taken) => readFrom invocation taken arguments
            | .error fault => .error fault
        | _ => readFrom (invocation.addWords [argument]) false arguments

/-- What some arguments ask for.  There must be text, unless help is asked for. -/
def read (arguments : List String) : Except Fault Invocation := do
  let invocation ← readFrom {} false arguments
  if invocation.words.isEmpty && !invocation.help then throw .noText
  return invocation

end ChatTemplate.CommandLine
