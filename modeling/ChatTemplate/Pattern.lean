/-
# ChatTemplate.Pattern -- finding tokens in text

`findAll` lists the matches of a pattern from left to right, none overlapping
another: the leftmost match counts, and of the matches that begin at one place
the one that `matchLength?` prefers.

A text in which a match cannot even begin is left at once; for any other the
column of the pattern is read.  Main statement: either way the matches are those
of a scan that tries the pattern at one place after another (`findAll_eq_scan`).
-/
import ChatTemplate.Pattern.Column

namespace ChatTemplate

set_option autoImplicit false

/-! ## Scanning -/

/-- Every match of a text, tried at one place after another.  `covered` counts the
characters that the last match still covers, and `ended` says that it ended just
here; an empty match is not taken at the end of another one. -/
def Continuation.scan (next : Continuation) :
    Nat → Bool → Option Char → List Char → List (List Char)
  | covered + 1, _, _, c :: text => next.scan covered (covered == 0) (some c) text
  | _ + 1, _, _, [] => []
  | 0, ended, before, [] =>
      match next before [] with
      | some _ => if ended then [] else [[]]
      | none => []
  | 0, ended, before, c :: text =>
      match next before (c :: text) with
      | some (n + 1) => (c :: text.take n) :: next.scan n (n == 0) (some c) text
      | some 0 =>
          let rest := next.scan 0 false (some c) text
          if ended then rest else [] :: rest
      | none => next.scan 0 false (some c) text

/-- Every match of a text whose column is known. -/
def Column.scan : Nat → Bool → Column → List Char → List (List Char)
  | covered + 1, _, column, _ :: text => scan covered (covered == 0) column.tail text
  | _ + 1, _, _, [] => []
  | 0, ended, column, [] =>
      match column.first with
      | some _ => if ended then [] else [[]]
      | none => []
  | 0, ended, column, c :: text =>
      match column.first with
      | some (n + 1) => (c :: text.take n) :: scan n (n == 0) column.tail text
      | some 0 =>
          let rest := scan 0 false column.tail text
          if ended then rest else [] :: rest
      | none => scan 0 false column.tail text

/-- Whether there is a match at any place. -/
def Continuation.occurs (next : Continuation) : Option Char → List Char → Bool
  | before, [] => (next before []).isSome
  | before, c :: text => (next before (c :: text)).isSome || next.occurs (some c) text

namespace Pattern

/-- The pieces before the first run.  Where they do not match, nothing does. -/
def opening : Pattern → Pattern
  | [] => []
  | .run .. :: _ => []
  | piece :: pieces => piece :: opening pieces

/-- Every match of a text, from left to right. -/
def findAll (pattern : Pattern) (text : List Char) : List (List Char) :=
  if pattern.opening.matchLength?.occurs none text then
    (pattern.column none text).scan 0 false text
  else []

/-- The first match of a text. -/
def find? (pattern : Pattern) (text : List Char) : Option (List Char) :=
  (pattern.findAll text).head?

def isMatch (pattern : Pattern) (text : List Char) : Bool :=
  (pattern.find? text).isSome

end Pattern

/-! ## Reading a column is scanning -/

theorem Column.scan_column (next : Continuation) (covered : Nat) (ended : Bool)
    (before : Option Char) (text : List Char) :
    (next.column before text).scan covered ended text = next.scan covered ended before text := by
  induction text generalizing covered ended before with
  | nil => cases covered <;> rfl
  | cons c text ih =>
      cases covered with
      | succ covered => exact ih covered (covered == 0) (some c)
      | zero =>
          rw [Column.scan, Continuation.scan, Column.first_column]
          cases next before (c :: text) with
          | none => exact ih 0 false (some c)
          | some n =>
              cases n with
              | zero =>
                  exact congrArg (fun rest => if ended then rest else [] :: rest)
                    (ih 0 false (some c))
              | succ n => exact congrArg ((c :: text.take n) :: ·) (ih n (n == 0) (some c))

theorem Continuation.scan_of_not_occurs {next : Continuation} {before : Option Char}
    {text : List Char} (ended : Bool) (h : next.occurs before text = false) :
    next.scan 0 ended before text = [] := by
  induction text generalizing before ended with
  | nil =>
      rw [Continuation.occurs] at h
      rw [Continuation.scan, Option.isSome_eq_false_iff.1 h |> Option.isNone_iff_eq_none.1]
  | cons c text ih =>
      rw [Continuation.occurs, Bool.or_eq_false_iff] at h
      rw [Continuation.scan, Option.isSome_eq_false_iff.1 h.1 |> Option.isNone_iff_eq_none.1]
      exact ih false h.2

theorem Continuation.occurs_mono {next other : Continuation}
    (h : ∀ before text, (next before text).isSome = true → (other before text).isSome = true)
    (before : Option Char) (text : List Char) (found : next.occurs before text = true) :
    other.occurs before text = true := by
  induction text generalizing before with
  | nil => exact h before [] found
  | cons c text ih =>
      rw [Continuation.occurs, Bool.or_eq_true] at found ⊢
      exact found.imp (h before (c :: text)) (ih (some c))

theorem oneChar_isSome_mono {test : Char → Bool} {next other : Continuation}
    (h : ∀ before text, (next before text).isSome = true → (other before text).isSome = true)
    (before : Option Char) (text : List Char)
    (found : (oneChar test next before text).isSome = true) :
    (oneChar test other before text).isSome = true := by
  cases text with
  | nil => exact found
  | cons c text =>
      rw [oneChar] at found ⊢
      cases hc : test c with
      | false => rw [hc] at found; exact found
      | true =>
          rw [hc, if_pos rfl, Option.isSome_map] at found
          rw [if_pos rfl, Option.isSome_map]
          exact h (some c) text found

namespace Pattern

/-- Where the pieces before the first run do not match, nothing does. -/
theorem opening_isSome (pattern : Pattern) (before : Option Char) (text : List Char)
    (found : (pattern.matchLength? before text).isSome = true) :
    (pattern.opening.matchLength? before text).isSome = true := by
  induction pattern generalizing before text with
  | nil => exact found
  | cons piece pieces ih =>
      cases piece with
      | char d => exact oneChar_isSome_mono ih before text found
      | letter d => exact oneChar_isSome_mono ih before text found
      | oneOf choices => exact oneChar_isSome_mono ih before text found
      | run cls least greedy => rfl
      | boundary =>
          simp only [matchLength?, opening] at found ⊢
          cases hb : Text.isBoundary before text with
          | false => rw [hb] at found; exact found
          | true =>
              rw [hb, if_pos rfl] at found
              exact ih before text found

/-- **Finding all matches** is scanning the text from place to place. -/
theorem findAll_eq_scan (pattern : Pattern) (text : List Char) :
    pattern.findAll text = pattern.matchLength?.scan 0 false none text := by
  rw [findAll]
  split
  · rw [column_eq, Column.scan_column]
  · next h =>
      refine (Continuation.scan_of_not_occurs false ?_).symm
      cases found : pattern.matchLength?.occurs none text with
      | false => rfl
      | true => exact absurd (Continuation.occurs_mono pattern.opening_isSome none text found) h

end Pattern

end ChatTemplate
