/-
# ChatTemplate.WorldFile.Argument -- the arguments of a directive

Arguments are separated by white space.  Double quotes keep white space inside
an argument, and between them a backslash stands before a character that is
meant as it is (`splitArguments`).

Options stand before all other arguments (`Options.read`).  Those that take a
value take it from the rest of their argument, or else the next one.
-/
import ChatTemplate.Text.Blank

namespace ChatTemplate.WorldFile

set_option autoImplicit false

/-! ## Splitting -/

/-- The arguments of a text, with the characters of the current one in reverse.
`quoted` says that the current argument has had quotes, so that it counts even
when it is empty; `inside` says that they are still open. -/
def splitFrom (current : List Char) (quoted inside : Bool) : List Char → List (List Char)
  | [] => if current.isEmpty && !quoted then [] else [current.reverse]
  | '"' :: text => splitFrom current true (!inside) text
  | '\\' :: text =>
      if inside then
        match text with
        | c :: text => splitFrom (c :: current) quoted true text
        | [] => splitFrom current quoted true []
      else splitFrom ('\\' :: current) quoted false text
  | c :: text =>
      if Text.isAsciiBlank c && !inside then
        let rest := splitFrom [] false false text
        if current.isEmpty && !quoted then rest else current.reverse :: rest
      else splitFrom (c :: current) quoted inside text

def splitArguments (text : List Char) : List String :=
  (splitFrom [] false false text).map String.ofList

/-! ## Options -/

structure Options where
  switches : List Char := []
  /-- The options that take a value, each with its value. -/
  values : List (Char × String) := []
  /-- The arguments that are no options. -/
  positional : List String := []

namespace Options

def has (options : Options) (switch : Char) : Bool :=
  options.switches.contains switch

/-- The first value of an option. -/
def value? (options : Options) (option : Char) : Option String :=
  options.values.lookup option

/-- All values of an option. -/
def valuesOf (options : Options) (option : Char) : List String :=
  (options.values.filter fun entry => entry.1 = option).map (·.2)

def addSwitches (options : Options) (switches : List Char) : Options :=
  { options with switches := switches ++ options.switches }

def addValue (options : Options) (option : Char) (value : String) : Options :=
  { options with values := (option, value) :: options.values }

/-- The letters of an argument that is made of options. -/
def letters? (argument : String) : Option (List Char) :=
  match argument.toList with
  | '-' :: c :: rest => some (c :: rest)
  | _ => none

/-- The options at the front of some arguments, given the letters of those that
take a value. -/
def read (valued : List Char) : List String → Options
  | [] => {}
  | argument :: arguments =>
      match letters? argument with
      | none => { positional := argument :: arguments }
      | some letters =>
          let switches := letters.takeWhile fun c => !valued.contains c
          match letters.dropWhile fun c => !valued.contains c with
          | [] => (read valued arguments).addSwitches switches
          | [option] =>
              match arguments with
              | value :: arguments =>
                  ((read valued arguments).addValue option value).addSwitches switches
              | [] => { switches }
          | option :: value =>
              ((read valued arguments).addValue option (String.ofList value)).addSwitches switches

end Options

end ChatTemplate.WorldFile
