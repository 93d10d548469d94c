/-
# ChatTemplate.Main -- running the program

Reads the files that the arguments call for, and prints what `Program.run` says.
-/
import ChatTemplate.Program
import Std.Time.DateTime.Timestamp

set_option autoImplicit false

open ChatTemplate

/-- The text of a file, or why it cannot be read.  A path that leads through a file
fails when the file is opened, so the fault names the path; a directory fails only
when it is read. -/
def readFile (path : String) : IO (Except Program.FileFault String) := do
  try
    let bytes ← IO.FS.readBinFile path
    match String.fromUTF8? bytes with
    | some text => return .ok text
    | none => return .error .noText
  catch failure =>
    match failure with
    | .inappropriateType (some _) .. => return .error .noDirectory
    | .inappropriateType none .. => return .error .isDirectory
    | .unsupportedOperation .. => return .error .isDirectory
    | .invalidArgument .. => return .error .longName
    | _ => return .error .missing

/-- The world file of the user: in the directory that is set for such files, or
else in the usual one. -/
def userFile : IO (Option String) := do
  let set := (← IO.getEnv "XDG_CONFIG_HOME").filter (·.startsWith "/")
  let usual := (← IO.getEnv "HOME").map (· ++ "/.config")
  return (set.or usual).map (· ++ "/chatmsg/chatmsg.rc")

/-- The present moment. -/
def now : IO Instant := do
  let timestamp ← Std.Time.Timestamp.now
  return { seconds := timestamp.val.second.val, nanos := timestamp.val.nano.val.toNat }

def main (arguments : List String) : IO UInt32 := do
  let user ← userFile
  let files ← (Program.paths user arguments).mapM fun path => return (path, ← readFile path)
  let start ← now
  let seed ← IO.rand 0 0x3fffffffffffffff
  let surroundings : Program.Surroundings :=
    { userFile := user
      files := fun path => (files.lookup path).getD (.error .missing)
      clock := fun line => { start with nanos := start.nanos + line }
      sources := fun n => Dice.shuffled (seed + n) }
  let output := Program.run surroundings arguments
  IO.print output.printed
  IO.eprint output.errors
  return output.status.toUInt32
