/-
# ChatTemplate.Pattern.Column -- matching at every place at once

A column holds what matches at each place of a text, the end included.  The
column of a pattern is made from the column of the pattern without its first
piece, so the work grows with the length of the text times that of the pattern,
however often a run has to be tried.

Main statement: the column of a pattern holds what `matchLength?` says of each
place (`column_eq`).
-/
import ChatTemplate.Pattern.Basic

namespace ChatTemplate

set_option autoImplicit false

/-- What matches at each place of a text, the end included. -/
abbrev Column := List (Option Nat)

/-- What a continuation gives at each place. -/
def Continuation.column (next : Continuation) : Option Char → List Char → Column
  | before, [] => [next before []]
  | before, c :: text => next before (c :: text) :: next.column (some c) text

namespace Column

/-- What matches at the first place. -/
def first (column : Column) : Option Nat := column.head?.join

/-- One character more than at the first place. -/
def longer (column : Column) : Option Nat := column.first.map (· + 1)

/-- One character that passes a test before what is in the column. -/
def oneChar (test : Char → Bool) (text : List Char) (column : Column) : Column :=
  List.zipWith (fun c next => if test c then next.map (· + 1) else none) text column.tail ++ [none]

/-- The column of a run, from the end of the text to its beginning: `choose` takes
what follows the run here, and what the run gives one character on. -/
def run (choose : Char → Option Nat → Column → Option Nat) (text : List Char)
    (column : Column) : Column :=
  (text.zip column).foldr (fun place later => choose place.1 place.2 later :: later)
    (column.drop text.length)

def lazyRun (cls : CharClass) : List Char → Column → Column :=
  run fun c here later => here.or (if cls.contains c then later.longer else none)

def greedyRun (cls : CharClass) : List Char → Column → Column :=
  run fun c here later => (if cls.contains c then later.longer else none).or here

def atLeast (cls : CharClass) (text : List Char) (column : Column) : Nat → Column
  | 0 => column
  | least + 1 => oneChar cls.contains text (atLeast cls text column least)

/-- The places where a word begins or ends. -/
def boundary (before : Option Char) (text : List Char) (column : Column) : Column :=
  let befores := before :: text.map some
  let afters := text.map (fun c => [c]) ++ [[]]
  List.zipWith (fun place next => if Text.isBoundary place.1 place.2 then next else none)
    (befores.zip afters) column

end Column

/-- **What matches at each place of a text**, given the character before it. -/
def Pattern.column (before : Option Char) (text : List Char) : Pattern → Column
  | [] => List.replicate (text.length + 1) (some 0)
  | .char d :: pieces => (column before text pieces).oneChar (· == d) text
  | .letter d :: pieces => (column before text pieces).oneChar (fun c => c.toLower == d) text
  | .oneOf choices :: pieces => (column before text pieces).oneChar choices.contains text
  | .run cls least true :: pieces =>
      ((column before text pieces).greedyRun cls text).atLeast cls text least
  | .run cls least false :: pieces =>
      ((column before text pieces).lazyRun cls text).atLeast cls text least
  | .boundary :: pieces => (column before text pieces).boundary before text

/-! ## Columns of pieces -/

theorem Continuation.column_cons (next : Continuation) (before : Option Char) (text : List Char) :
    next.column before text = next before text :: (next.column before text).tail := by
  cases text <;> rfl

theorem Column.first_column (next : Continuation) (before : Option Char) (text : List Char) :
    (next.column before text).first = next before text := by
  cases text <;> rfl

theorem Column.oneChar_column (test : Char → Bool) (next : Continuation) (before : Option Char)
    (text : List Char) :
    (next.column before text).oneChar test text =
      (ChatTemplate.oneChar test next).column before text := by
  induction text generalizing before with
  | nil => rfl
  | cons c text ih =>
      have step := ih (some c)
      rw [Column.oneChar] at step
      rw [Column.oneChar, Continuation.column, Continuation.column, ← step, List.tail_cons,
        Continuation.column_cons next (some c) text]
      rfl

theorem Column.run_cons (choose : Char → Option Nat → Column → Option Nat) (c : Char)
    (here : Option Nat) (text : List Char) (column : Column) :
    Column.run choose (c :: text) (here :: column) =
      choose c here (Column.run choose text column) :: Column.run choose text column := rfl

theorem Column.lazyRun_column (cls : CharClass) (next : Continuation) (before : Option Char)
    (text : List Char) :
    (next.column before text).lazyRun cls text =
      (ChatTemplate.lazyRun cls next).column before text := by
  induction text generalizing before with
  | nil => rfl
  | cons c text ih =>
      have step := ih (some c)
      rw [Column.lazyRun] at step
      rw [Column.lazyRun, Continuation.column, Continuation.column, Column.run_cons, step,
        Column.longer, Column.first_column, ChatTemplate.lazyRun]
      cases next before (c :: text) <;> rfl

theorem Column.greedyRun_column (cls : CharClass) (next : Continuation) (before : Option Char)
    (text : List Char) :
    (next.column before text).greedyRun cls text =
      (ChatTemplate.greedyRun cls next).column before text := by
  induction text generalizing before with
  | nil => rfl
  | cons c text ih =>
      have step := ih (some c)
      rw [Column.greedyRun] at step
      rw [Column.greedyRun, Continuation.column, Continuation.column, Column.run_cons, step,
        Column.longer, Column.first_column, ChatTemplate.greedyRun]
      cases cls.contains c with
      | false => rfl
      | true => cases ChatTemplate.greedyRun cls next (some c) text <;> rfl

theorem atLeast_succ (cls : CharClass) (next : Continuation) (least : Nat) :
    atLeast cls next (least + 1) = oneChar cls.contains (atLeast cls next least) := by
  funext before text
  cases text <;> rfl

theorem Column.atLeast_column (cls : CharClass) (next : Continuation) (least : Nat)
    (before : Option Char) (text : List Char) :
    (next.column before text).atLeast cls text least =
      (ChatTemplate.atLeast cls next least).column before text := by
  induction least with
  | zero => rfl
  | succ least ih => rw [Column.atLeast, ih, Column.oneChar_column, atLeast_succ]

theorem Column.boundary_column (next : Continuation) (before : Option Char) (text : List Char) :
    (next.column before text).boundary before text =
      Continuation.column
        (fun before text => if Text.isBoundary before text then next before text else none)
        before text := by
  induction text generalizing before with
  | nil => rfl
  | cons c text ih =>
      rw [Continuation.column, Continuation.column, ← ih]
      rfl

/-! ## Columns of patterns -/

theorem column_matchLength_nil (before : Option Char) (text : List Char) :
    (Pattern.matchLength? []).column before text = List.replicate (text.length + 1) (some 0) := by
  induction text generalizing before with
  | nil => rfl
  | cons c text ih =>
      rw [Continuation.column, ih]
      rfl

/-- **The column of a pattern** holds what matches at each place. -/
theorem Pattern.column_eq (pattern : Pattern) (before : Option Char) (text : List Char) :
    pattern.column before text = pattern.matchLength?.column before text := by
  induction pattern with
  | nil => exact (column_matchLength_nil before text).symm
  | cons piece pieces ih =>
      cases piece with
      | char d => rw [Pattern.column, ih, Column.oneChar_column, matchLength?]
      | letter d => rw [Pattern.column, ih, Column.oneChar_column, matchLength?]
      | oneOf choices => rw [Pattern.column, ih, Column.oneChar_column, matchLength?]
      | run cls least greedy =>
          cases greedy with
          | true =>
              rw [Pattern.column, ih, Column.greedyRun_column, Column.atLeast_column,
                matchLength?]
          | false =>
              rw [Pattern.column, ih, Column.lazyRun_column, Column.atLeast_column, matchLength?]
      | boundary => rw [Pattern.column, ih, Column.boundary_column, matchLength?]

end ChatTemplate
