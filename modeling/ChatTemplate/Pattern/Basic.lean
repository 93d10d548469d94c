/-
# ChatTemplate.Pattern.Basic -- patterns and what matches at one place

A pattern is a sequence of pieces: fixed characters, runs of characters of a
class, and word boundaries.  Matching is by preference: of the matches that begin
at one place a lazy run takes the shortest and a greedy run the longest piece of
text for which the rest still matches.  `matchLength?` says how many characters
that is.
-/
import ChatTemplate.Text.Blank
import ChatTemplate.Text.Word

namespace ChatTemplate

set_option autoImplicit false

/-- The classes of characters that runs are made of. -/
inductive CharClass where
  /-- Everything on one line. -/
  | inLine
  | nonBlank
  /-- Characters that are not white space, and the plain space. -/
  | nonBlankOrSpace
  /-- ASCII letters, digits and the underscore. -/
  | name
  /-- The word characters of every script. -/
  | word
  deriving DecidableEq

def CharClass.contains : CharClass → Char → Bool
  | .inLine, c => c != '\n'
  | .nonBlank, c => !Text.isBlank c
  | .nonBlankOrSpace, c => !Text.isBlank c || c == ' '
  | .name, c => Text.isNameChar c
  | .word, c => Text.isWordChar c

inductive Piece where
  | char (c : Char)
  /-- An ASCII letter in either case, given in lower case. -/
  | letter (c : Char)
  | oneOf (choices : List Char)
  /-- At least `least` characters of a class. -/
  | run (cls : CharClass) (least : Nat) (greedy : Bool)
  /-- A place where a word begins or ends. -/
  | boundary
  deriving DecidableEq

abbrev Pattern := List Piece

/-- What matches after a run: given the character before and the text after, the
length of the match. -/
abbrev Continuation := Option Char → List Char → Option Nat

/-- A run of a class followed by something else, the shortest run first. -/
def lazyRun (cls : CharClass) (next : Continuation) : Continuation
  | before, [] => next before []
  | before, c :: text =>
      match next before (c :: text) with
      | some n => some n
      | none => if cls.contains c then (lazyRun cls next (some c) text).map (· + 1) else none

/-- A run of a class followed by something else, the longest run first. -/
def greedyRun (cls : CharClass) (next : Continuation) : Continuation
  | before, [] => next before []
  | before, c :: text =>
      if cls.contains c then
        match greedyRun cls next (some c) text with
        | some n => some (n + 1)
        | none => next before (c :: text)
      else next before (c :: text)

/-- A run with a least number of characters. -/
def atLeast (cls : CharClass) (next : Continuation) : Nat → Continuation
  | 0, before, text => next before text
  | _ + 1, _, [] => none
  | least + 1, _, c :: text =>
      if cls.contains c then (atLeast cls next least (some c) text).map (· + 1) else none

/-- One character that passes a test, followed by something else. -/
def oneChar (test : Char → Bool) (next : Continuation) : Continuation
  | _, [] => none
  | _, c :: text => if test c then (next (some c) text).map (· + 1) else none

namespace Pattern

/-- How many characters match at one place, given the character before it and
the text after it. -/
def matchLength? : Pattern → Continuation
  | [] => fun _ _ => some 0
  | .char d :: pieces => oneChar (· == d) (matchLength? pieces)
  | .letter d :: pieces => oneChar (fun c => c.toLower == d) (matchLength? pieces)
  | .oneOf choices :: pieces => oneChar choices.contains (matchLength? pieces)
  | .run cls least true :: pieces => atLeast cls (greedyRun cls (matchLength? pieces)) least
  | .run cls least false :: pieces => atLeast cls (lazyRun cls (matchLength? pieces)) least
  | .boundary :: pieces => fun before text =>
      if Text.isBoundary before text then matchLength? pieces before text else none

/-- The pattern of a fixed text. -/
def literal (text : String) : Pattern :=
  text.toList.map Piece.char

/-- The pattern of a fixed text in letters of either case. -/
def anyCase (text : String) : Pattern :=
  text.toList.map fun c => if c.isAlpha then .letter c.toLower else .char c

end Pattern

end ChatTemplate
