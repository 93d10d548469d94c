/-
# ChatTemplate.WorldFile.Load -- loading a world file

A world file is read line by line.  A line that begins with a slash is a
directive; comments, blank lines and unknown directives are skipped.  A
directive that fails is reported with the number of its line, and the next line
goes on from what it leaves.
-/
import ChatTemplate.WorldFile.Setup

namespace ChatTemplate.WorldFile

set_option autoImplicit false

/-- The directive of a line and the text after it. -/
def directiveOf? (line : List Char) : Option (Directive × List Char) :=
  match Text.trim line with
  | '/' :: rest =>
      let (word, text) := (Text.breakWhere? Text.isAsciiBlank rest).getD (rest, [])
      (Directive.ofWord? (String.ofList word)).map fun directive => (directive, Text.trim text)
  | _ => none

/-- What has been loaded so far. -/
structure Loaded where
  setup : Setup := {}
  errors : List LineError := []

def loadLine (clock : Nat → Instant) (loaded : Loaded) (numbered : List Char × Nat) : Loaded :=
  let (line, number) := numbered
  match directiveOf? line with
  | none => loaded
  | some (directive, text) =>
      match ExceptT.run (apply (clock number) directive text) loaded.setup with
      | (.ok _, setup) => { loaded with setup }
      | (.error fault, setup) =>
          { setup, errors := loaded.errors ++ [{ line := number, fault }] }

/-- **What a world file sets up**, given what the clock says at each line. -/
def load (clock : Nat → Instant) (text : List Char) : Loaded :=
  ((Text.splitOn ['\n'] text).zipIdx 1).foldl (loadLine clock) {}

end ChatTemplate.WorldFile
