/-
# ChatTemplate.Proofs.Matching -- where a template can match

The text of a template before its first wildcard, its stem, stands for itself.
A template therefore matches only where its stem stands, and a template with a
stem has no empty match.

* `Continuation.Lists`: the matches of a text, put together from the gaps between
  them (`skip`) and the matches (`hit`);
* `matchLength_literal_append`: fixed characters match exactly where they stand;
* `Template.findAll_eq_nil`: no match without the stem;
* `Template.ne_nil_of_mem_findAll`: no empty match with one.
-/
import Mathlib.Data.List.TakeWhile
import ChatTemplate.Template

namespace ChatTemplate

set_option autoImplicit false

/-! ## Scanning -/

/-- Every match takes at least one character. -/
structure Continuation.Advances (next : Continuation) : Prop where
  at_end : ∀ before, next before [] = none
  ne_zero : ∀ before text, next before text ≠ some 0

theorem oneChar_advances (test : Char → Bool) (next : Continuation) :
    (oneChar test next).Advances := by
  refine ⟨fun before => rfl, fun before text => ?_⟩
  cases text with
  | nil => simp [oneChar]
  | cons c text => rw [oneChar]; split <;> simp

theorem Continuation.ne_nil_of_mem_scan {next : Continuation} (advances : next.Advances)
    {covered : Nat} {ended : Bool} {before : Option Char} {text found : List Char}
    (member : found ∈ next.scan covered ended before text) : found ≠ [] := by
  induction text generalizing covered ended before with
  | nil =>
      cases covered with
      | succ covered => simp [scan] at member
      | zero => simp [scan, advances.at_end] at member
  | cons c text ih =>
      cases covered with
      | succ covered => exact ih member
      | zero =>
          rw [scan] at member
          split at member
          · rcases List.mem_cons.1 member with rfl | later
            · simp
            · exact ih later
          · next h => exact absurd h (advances.ne_zero before (c :: text))
          · exact ih member

/-- A continuation that occurs matches some end of the text. -/
theorem Continuation.exists_suffix_of_occurs {next : Continuation} {before : Option Char}
    {text : List Char} (found : next.occurs before text = true) :
    ∃ previous rest, rest <:+ text ∧ (next previous rest).isSome = true := by
  induction text generalizing before with
  | nil => exact ⟨before, [], List.suffix_rfl, found⟩
  | cons c text ih =>
      rw [occurs, Bool.or_eq_true] at found
      rcases found with now | later
      · exact ⟨before, c :: text, List.suffix_rfl, now⟩
      · obtain ⟨previous, rest, suffix, here⟩ := ih later
        exact ⟨previous, rest, suffix.trans (List.suffix_cons c text), here⟩

/-- **The matches of a text**, wherever a scan that reaches it comes from. -/
def Continuation.Lists (next : Continuation) (text : List Char) (found : List (List Char)) :
    Prop :=
  ∀ ended before, next.scan 0 ended before text = found

namespace Continuation.Lists

variable {next : Continuation} {text : List Char} {found : List (List Char)}

theorem nil (advances : next.Advances) : next.Lists [] [] := by
  intro ended before
  simp [scan, advances.at_end]

/-- Text that no match begins in is passed over. -/
theorem skip {gap : List Char} (rest : next.Lists text found)
    (fails : ∀ later, later <:+ gap → later ≠ [] → ∀ before, next before (later ++ text) = none) :
    next.Lists (gap ++ text) found := by
  induction gap with
  | nil => exact rest
  | cons c gap ih =>
      intro ended before
      have here := fails (c :: gap) List.suffix_rfl (by simp) before
      rw [List.cons_append] at here ⊢
      rw [scan, here]
      exact ih (fun later suffix => fails later (suffix.trans (List.suffix_cons c gap)))
        false (some c)

theorem covered {matched : List Char} (rest : next.Lists text found) (ended : Bool)
    (before : Option Char) :
    next.scan matched.length ended before (matched ++ text) = found := by
  induction matched generalizing ended before with
  | nil => exact rest ended before
  | cons c matched ih => exact ih _ _

/-- A match is listed, and the scan goes on after it. -/
theorem hit {matched : List Char} (rest : next.Lists text found) (some_ : matched ≠ [])
    (here : ∀ before, next before (matched ++ text) = some matched.length) :
    next.Lists (matched ++ text) (matched :: found) := by
  intro ended before
  cases matched with
  | nil => exact absurd rfl some_
  | cons c matched =>
      have now := here before
      rw [List.cons_append, List.length_cons] at now
      rw [List.cons_append, scan, now]
      have after : next.scan matched.length (matched.length == 0) (some c) (matched ++ text) =
          found := rest.covered _ _
      simpa using after

end Continuation.Lists

/-! ## Fixed characters -/

namespace Pattern

/-- **Fixed characters match where they stand**, and nowhere else. -/
theorem matchLength_literal_append (fixed : List Char) (pieces : Pattern) (before : Option Char)
    (text : List Char) :
    (matchLength? (fixed.map Piece.char ++ pieces) before text).isSome = true →
      fixed <+: text := by
  induction fixed generalizing before text with
  | nil => exact fun _ => List.nil_prefix
  | cons d fixed ih =>
      intro found
      rw [List.map_cons, List.cons_append, matchLength?] at found
      cases text with
      | nil => simp [oneChar] at found
      | cons c text =>
          rw [oneChar] at found
          split at found
          · next same =>
              rw [Option.isSome_map] at found
              rw [eq_of_beq same]
              exact List.cons_prefix_cons.2 ⟨rfl, ih (some c) text found⟩
          · simp at found

theorem matchLength_literal_eq_none {fixed text : List Char} (absent : ¬ fixed <+: text)
    (pieces : Pattern) (before : Option Char) :
    matchLength? (fixed.map Piece.char ++ pieces) before text = none := by
  cases found : matchLength? (fixed.map Piece.char ++ pieces) before text with
  | none => rfl
  | some n =>
      exact absurd (matchLength_literal_append fixed pieces before text (by rw [found]; rfl)) absent

/-- A pattern that matches no end of a text has no matches in it. -/
theorem findAll_eq_nil {pattern : Pattern} {text : List Char}
    (fails : ∀ before rest, rest <:+ text → pattern.matchLength? before rest = none) :
    pattern.findAll text = [] := by
  rw [findAll_eq_scan]
  refine Continuation.scan_of_not_occurs false (Bool.eq_false_iff.2 fun found => ?_)
  obtain ⟨before, rest, suffix, here⟩ := Continuation.exists_suffix_of_occurs found
  simp [fails before rest suffix] at here

/-- After fixed characters a pattern matches as its other pieces do. -/
theorem matchLength_literal {fixed text : List Char} {pieces : Pattern} {n : Nat}
    (rest : ∀ before, pieces.matchLength? before text = some n) (before : Option Char) :
    matchLength? (fixed.map Piece.char ++ pieces) before (fixed ++ text) =
      some (fixed.length + n) := by
  induction fixed generalizing before with
  | nil => simpa using rest before
  | cons d fixed ih =>
      rw [List.map_cons, List.cons_append, List.cons_append, matchLength?, oneChar, ih (some d)]
      simp only [beq_self_eq_true, if_true, Option.map_some, List.length_cons, Option.some.injEq]
      omega

/-- A lazy run stops at the first character that may follow it. -/
theorem lazyRun_stops {cls : CharClass} {stop : Char} {inside rest : List Char}
    (within : ∀ c ∈ inside, cls.contains c = true ∧ c ≠ stop) (before : Option Char) :
    lazyRun cls (matchLength? [.char stop]) before (inside ++ stop :: rest) =
      some (inside.length + 1) := by
  induction inside generalizing before with
  | nil => simp [lazyRun, matchLength?, oneChar]
  | cons c inside ih =>
      obtain ⟨contained, apart⟩ := within c (by simp)
      have later := ih (fun d member => within d (by simp [member])) (some c)
      have not_here : matchLength? [.char stop] before (c :: (inside ++ stop :: rest)) = none := by
        simp [matchLength?, oneChar, apart]
      rw [List.cons_append, lazyRun, not_here, contained, if_pos rfl, later]
      simp

theorem matchLength_char_advances (d : Char) (pieces : Pattern) :
    (matchLength? (.char d :: pieces)).Advances :=
  oneChar_advances (· == d) pieces.matchLength?

end Pattern

/-! ## Templates -/

namespace Template

/-- The text of a template before its first wildcard. -/
def stem (template : Template) : List Char :=
  template.text.toList.takeWhile (· ≠ mark)

/-- The pieces after the stem. -/
def body (template : Template) : Pattern :=
  (template.text.toList.dropWhile (· ≠ mark)).flatMap fun c =>
    if c = mark then template.wildcard.pieces else [.char c]

theorem flatMap_of_no_mark {text : List Char} (pieces : Pattern) (none : ∀ c ∈ text, c ≠ mark) :
    (text.flatMap fun c => if c = mark then pieces else [Piece.char c]) =
      text.map Piece.char := by
  induction text with
  | nil => rfl
  | cons c text ih =>
      have head : c ≠ mark := none c (by simp)
      rw [List.flatMap_cons, if_neg head, ih fun d member => none d (by simp [member])]
      rfl

/-- A template's pattern is its stem and the rest of it. -/
theorem pattern_eq (template : Template) :
    template.pattern = template.stem.map Piece.char ++ template.body := by
  have unmarked : ∀ c ∈ template.stem, c ≠ mark := by
    intro c member
    simpa using List.mem_takeWhile_imp member
  rw [← flatMap_of_no_mark template.wildcard.pieces unmarked, body, ← List.flatMap_append, stem,
    List.takeWhile_append_dropWhile, pattern]

/-- **No match without the stem.** -/
theorem findAll_eq_nil {template : Template} {text : List Char}
    (absent : ¬ template.stem <:+: text) : template.findAll text = [] := by
  rw [findAll, pattern_eq]
  refine Pattern.findAll_eq_nil fun before rest suffix => ?_
  exact Pattern.matchLength_literal_eq_none
    (fun stands => absent (stands.isInfix.trans suffix.isInfix)) template.body before

theorem matchLength_advances {template : Template} (stemmed : template.stem ≠ []) :
    template.pattern.matchLength?.Advances := by
  rw [pattern_eq]
  cases h : template.stem with
  | nil => exact absurd h stemmed
  | cons d fixed => exact Pattern.matchLength_char_advances d _

theorem findAll_of_lists {template : Template} {text : List Char} {found : List (List Char)}
    (lists : template.pattern.matchLength?.Lists text found) : template.findAll text = found := by
  rw [findAll, Pattern.findAll_eq_scan]
  exact lists false none

/-- **A template with a stem has no empty match.** -/
theorem ne_nil_of_mem_findAll {template : Template} (stemmed : template.stem ≠ [])
    {text found : List Char} (member : found ∈ template.findAll text) : found ≠ [] := by
  rw [findAll, Pattern.findAll_eq_scan] at member
  exact Continuation.ne_nil_of_mem_scan (matchLength_advances stemmed) member

theorem findAll_nil {template : Template} (stemmed : template.stem ≠ []) :
    template.findAll [] = [] := by
  refine findAll_eq_nil fun found => stemmed ?_
  exact List.infix_nil.1 found

end Template

end ChatTemplate
