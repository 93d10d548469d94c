/-
# ChatTemplate.Proofs.TemplateInstances -- what a template matches

The instances of a template are the texts that it becomes when every wildcard in
it is filled in (`Template.IsInstance`).  Matching finds just these: a text
matches when an instance stands somewhere in it, whatever a run prefers and
however often it is tried again, and the matches of a text are instances that
stand in it one after the other.

* `Pattern.Admits`: the texts that the pieces of a pattern can take up;
* `Pattern.admits_of_matchLength`, `Pattern.matchLength_isSome`: matching takes up
  admitted text, and fails only where none stands;
* `Continuation.exists_occurrences`: the matches of a scan do not overlap;
* `Template.admits_pattern_iff`: what the pattern of a template admits.

Main statement: `Template.matches_are_instances`.
-/
import ChatTemplate.Proofs.Matching

namespace ChatTemplate

set_option autoImplicit false

/-! ## What pieces take up -/

/-- The texts that a piece can take up.  A boundary takes up nothing. -/
def Piece.Admits : Piece → List Char → Prop
  | .char c, text => text = [c]
  | .letter d, text => ∃ c, text = [c] ∧ c.toLower = d
  | .oneOf choices, text => ∃ c, text = [c] ∧ c ∈ choices
  | .run cls least _, text => least ≤ text.length ∧ ∀ c ∈ text, cls.contains c = true
  | .boundary, text => text = []

/-- **The texts that a pattern can take up**, piece by piece. -/
def Pattern.Admits : Pattern → List Char → Prop
  | [], text => text = []
  | piece :: pieces, text =>
      ∃ part rest, text = part ++ rest ∧ piece.Admits part ∧ Pattern.Admits pieces rest

/-- A match of some length that takes up a part of the text first and goes on with
the rest of it. -/
def Continuation.MatchesAfter (next : Continuation) (first : List Char → Prop)
    (text : List Char) (n : Nat) : Prop :=
  ∃ part rest previous k,
    text = part ++ rest ∧ first part ∧ next previous rest = some k ∧ n = part.length + k

section

variable {cls : CharClass} {next : Continuation} {before : Option Char} {text : List Char}
  {n : Nat}

theorem matchesAfter_oneChar {test : Char → Bool} (found : oneChar test next before text = some n) :
    next.MatchesAfter (fun part => ∃ c, part = [c] ∧ test c = true) text n := by
  cases text with
  | nil => simp [oneChar] at found
  | cons c text =>
      rw [oneChar] at found
      split at found
      · next passes =>
          obtain ⟨k, rest, rfl⟩ := Option.map_eq_some_iff.1 found
          exact ⟨[c], text, some c, k, rfl, ⟨c, rfl, passes⟩, rest, Nat.add_comm _ _⟩
      · simp at found

/-- Text before a part of a class that is of the class, too. -/
theorem Continuation.MatchesAfter.cons {c : Char} (contained : cls.contains c = true)
    (later : next.MatchesAfter (fun part => ∀ c ∈ part, cls.contains c = true) text n) :
    next.MatchesAfter (fun part => ∀ c ∈ part, cls.contains c = true) (c :: text) (n + 1) := by
  obtain ⟨part, rest, previous, k, rfl, within, found, rfl⟩ := later
  refine ⟨c :: part, rest, previous, k, rfl, List.forall_mem_cons.2 ⟨contained, within⟩, found, ?_⟩
  rw [List.length_cons]
  omega

theorem matchesAfter_nothing (found : next before text = some n) :
    next.MatchesAfter (fun part => ∀ c ∈ part, cls.contains c = true) text n :=
  ⟨[], text, before, n, rfl, nofun, found, (Nat.zero_add n).symm⟩

theorem matchesAfter_lazyRun (found : lazyRun cls next before text = some n) :
    next.MatchesAfter (fun part => ∀ c ∈ part, cls.contains c = true) text n := by
  induction text generalizing before n with
  | nil => exact matchesAfter_nothing found
  | cons c text ih =>
      rw [lazyRun] at found
      split at found
      · next here => exact matchesAfter_nothing (here.trans found)
      · split at found
        · next contained =>
            obtain ⟨k, later, rfl⟩ := Option.map_eq_some_iff.1 found
            exact (ih later).cons contained
        · simp at found

theorem matchesAfter_greedyRun (found : greedyRun cls next before text = some n) :
    next.MatchesAfter (fun part => ∀ c ∈ part, cls.contains c = true) text n := by
  induction text generalizing before n with
  | nil => exact matchesAfter_nothing found
  | cons c text ih =>
      rw [greedyRun] at found
      split at found
      · next contained =>
          split at found
          · next k later =>
              obtain rfl := Option.some.inj found
              exact (ih later).cons contained
          · exact matchesAfter_nothing found
      · exact matchesAfter_nothing found

/-- A run with a least number of characters is these characters and a run. -/
theorem matchesAfter_atLeast {run : Continuation} {least : Nat}
    (runs : ∀ {before text n}, run before text = some n →
      next.MatchesAfter (fun part => ∀ c ∈ part, cls.contains c = true) text n)
    (found : atLeast cls run least before text = some n) :
    next.MatchesAfter (fun part => least ≤ part.length ∧ ∀ c ∈ part, cls.contains c = true)
      text n := by
  induction least generalizing before text n with
  | zero =>
      obtain ⟨part, rest, previous, k, split, within, later, sum⟩ := runs found
      exact ⟨part, rest, previous, k, split, ⟨Nat.zero_le _, within⟩, later, sum⟩
  | succ least ih =>
      rw [atLeast_succ] at found
      obtain ⟨-, text, previous, k, rfl, ⟨c, rfl, contained⟩, later, rfl⟩ :=
        matchesAfter_oneChar found
      obtain ⟨part, rest, previous, k, rfl, ⟨enough, within⟩, further, rfl⟩ := ih later
      refine ⟨c :: part, rest, previous, k, rfl, ⟨?_, ?_⟩, further, ?_⟩
      · rw [List.length_cons]
        omega
      · exact List.forall_mem_cons.2 ⟨contained, within⟩
      · simp only [List.length_cons, List.length_nil]
        omega

end

namespace Pattern

/-- **A match is that of its first piece and of the others after it.** -/
theorem matchesAfter_piece {piece : Piece} {pieces : Pattern} {before : Option Char}
    {text : List Char} {n : Nat} (found : matchLength? (piece :: pieces) before text = some n) :
    (matchLength? pieces).MatchesAfter piece.Admits text n := by
  cases piece with
  | char d =>
      obtain ⟨part, rest, previous, k, split, ⟨c, one, same⟩, later⟩ := matchesAfter_oneChar found
      exact ⟨part, rest, previous, k, split, by rw [one, eq_of_beq same]; rfl, later⟩
  | letter d =>
      obtain ⟨part, rest, previous, k, split, ⟨c, one, same⟩, later⟩ := matchesAfter_oneChar found
      exact ⟨part, rest, previous, k, split, ⟨c, one, eq_of_beq same⟩, later⟩
  | oneOf choices =>
      obtain ⟨part, rest, previous, k, split, ⟨c, one, chosen⟩, later⟩ :=
        matchesAfter_oneChar found
      exact ⟨part, rest, previous, k, split, ⟨c, one, List.contains_iff_mem.1 chosen⟩, later⟩
  | run cls least greedy =>
      cases greedy with
      | true => exact matchesAfter_atLeast matchesAfter_greedyRun found
      | false => exact matchesAfter_atLeast matchesAfter_lazyRun found
  | boundary =>
      simp only [matchLength?] at found
      split at found
      · exact ⟨[], text, before, n, rfl, rfl, found, (Nat.zero_add n).symm⟩
      · simp at found

/-- **What is matched is admitted.** -/
theorem admits_of_matchLength {pattern : Pattern} {before : Option Char} {text : List Char}
    {n : Nat} (found : pattern.matchLength? before text = some n) :
    n ≤ text.length ∧ pattern.Admits (text.take n) := by
  induction pattern generalizing before text n with
  | nil =>
      rw [matchLength?, Option.some.injEq] at found
      obtain rfl := found
      exact ⟨Nat.zero_le _, rfl⟩
  | cons piece pieces ih =>
      obtain ⟨part, rest, previous, k, rfl, admits, later, rfl⟩ := matchesAfter_piece found
      obtain ⟨within, others⟩ := ih later
      refine ⟨by rw [List.length_append]; omega, part, rest.take k, ?_, admits, others⟩
      rw [List.take_length_add_append]

end Pattern

/-! ## Where something admitted stands, something matches -/

section

variable {cls : CharClass} {next : Continuation} {part rest : List Char}

theorem lazyRun_isSome (goesOn : ∀ before, (next before rest).isSome = true)
    (within : ∀ c ∈ part, cls.contains c = true) (before : Option Char) :
    (lazyRun cls next before (part ++ rest)).isSome = true := by
  induction part generalizing before with
  | nil =>
      obtain ⟨n, here⟩ := Option.isSome_iff_exists.1 (goesOn before)
      cases rest with
      | nil => exact goesOn before
      | cons c rest => rw [List.nil_append, lazyRun, here]; rfl
  | cons c part ih =>
      obtain ⟨contained, later⟩ := List.forall_mem_cons.1 within
      rw [List.cons_append, lazyRun, contained, if_pos rfl]
      split
      · rfl
      · rw [Option.isSome_map]
        exact ih later (some c)

theorem greedyRun_isSome (goesOn : ∀ before, (next before rest).isSome = true)
    (within : ∀ c ∈ part, cls.contains c = true) (before : Option Char) :
    (greedyRun cls next before (part ++ rest)).isSome = true := by
  induction part generalizing before with
  | nil =>
      cases rest with
      | nil => exact goesOn before
      | cons c rest =>
          rw [List.nil_append, greedyRun]
          split
          · split
            · rfl
            · exact goesOn before
          · exact goesOn before
  | cons c part ih =>
      obtain ⟨contained, later⟩ := List.forall_mem_cons.1 within
      obtain ⟨n, found⟩ := Option.isSome_iff_exists.1 (ih later (some c))
      rw [List.cons_append, greedyRun, contained, if_pos rfl, found]
      rfl

theorem atLeast_isSome {run : Continuation}
    (runs : ∀ {part}, (∀ c ∈ part, cls.contains c = true) →
      ∀ before, (run before (part ++ rest)).isSome = true)
    {least : Nat} (enough : least ≤ part.length) (within : ∀ c ∈ part, cls.contains c = true)
    (before : Option Char) : (atLeast cls run least before (part ++ rest)).isSome = true := by
  induction least generalizing part before with
  | zero => exact runs within before
  | succ least ih =>
      cases part with
      | nil => simp at enough
      | cons c part =>
          obtain ⟨contained, later⟩ := List.forall_mem_cons.1 within
          rw [List.cons_append, atLeast, contained, if_pos rfl, Option.isSome_map]
          exact ih (Nat.le_of_succ_le_succ enough) later (some c)

theorem oneChar_isSome (test : Char → Bool) {c : Char} (passes : test c = true)
    (goesOn : ∀ before, (next before rest).isSome = true) (before : Option Char) :
    (oneChar test next before ([c] ++ rest)).isSome = true := by
  rw [List.singleton_append, oneChar, passes, if_pos rfl, Option.isSome_map]
  exact goesOn (some c)

end

/-- **Where something admitted stands, something matches**, unless the pattern looks
at the boundaries of words. -/
theorem Pattern.matchLength_isSome {pattern : Pattern} (anywhere : .boundary ∉ pattern)
    {part : List Char} (admits : pattern.Admits part) (before : Option Char) (text : List Char) :
    (pattern.matchLength? before (part ++ text)).isSome = true := by
  induction pattern generalizing part before with
  | nil => rfl
  | cons piece pieces ih =>
      rw [List.mem_cons, not_or] at anywhere
      obtain ⟨first, rest, rfl, admitted, others⟩ := admits
      have goesOn := fun before => ih anywhere.2 others before
      rw [List.append_assoc]
      cases piece with
      | char d =>
          obtain rfl := admitted
          exact oneChar_isSome (· == d) (beq_self_eq_true d) goesOn before
      | letter d =>
          obtain ⟨c, rfl, same⟩ := admitted
          exact oneChar_isSome (fun c => c.toLower == d) (beq_iff_eq.2 same) goesOn before
      | oneOf choices =>
          obtain ⟨c, rfl, chosen⟩ := admitted
          exact oneChar_isSome choices.contains (List.contains_iff_mem.2 chosen) goesOn before
      | run cls least greedy =>
          cases greedy with
          | true => exact atLeast_isSome (greedyRun_isSome goesOn) admitted.1 admitted.2 before
          | false => exact atLeast_isSome (lazyRun_isSome goesOn) admitted.1 admitted.2 before
      | boundary => exact absurd rfl anywhere.1

/-! ## Scanning -/

/-- A part of a text, with the text on either side of it. -/
structure Occurrence (text : List Char) where
  before : List Char
  part : List Char
  after : List Char
  whole : before ++ part ++ after = text

/-- One occurrence begins after another one and no earlier than that one ends. -/
def Occurrence.Precedes {text : List Char} (first second : Occurrence text) : Prop :=
  first.before.length < second.before.length ∧
    first.before.length + first.part.length ≤ second.before.length

namespace Continuation

variable {next : Continuation}

/-- **The matches of a scan do not overlap.**  `read` is the text before the place
that the scan has come to. -/
theorem exists_occurrences
    (bounded : ∀ {before text n}, next before text = some n → n ≤ text.length)
    {whole read text : List Char} (split : read ++ text = whole) (covered : Nat) (ended : Bool)
    (before : Option Char) :
    ∃ occurrences : List (Occurrence whole),
      occurrences.map (·.part) = next.scan covered ended before text ∧
        occurrences.Pairwise Occurrence.Precedes ∧
        ∀ occurrence ∈ occurrences, read.length + covered ≤ occurrence.before.length := by
  induction text generalizing read covered ended before with
  | nil =>
      let last : Occurrence whole := ⟨read, [], [], by rw [← split, List.append_nil]⟩
      cases covered with
      | succ covered => exact ⟨[], rfl, .nil, nofun⟩
      | zero =>
          rw [scan]
          split
          · cases ended with
            | true => exact ⟨[], rfl, .nil, nofun⟩
            | false => exact ⟨[last], rfl, List.pairwise_singleton _ _, by simp [last]⟩
          · exact ⟨[], rfl, .nil, nofun⟩
  | cons c text ih =>
      have onward : (read ++ [c]) ++ text = whole := by
        rw [← split, List.append_assoc, List.singleton_append]
      have further := fun covered ended => ih onward covered ended (some c)
      simp only [List.length_append, List.length_singleton] at further
      cases covered with
      | succ covered =>
          obtain ⟨occurrences, listed, apart, beyond⟩ := further covered (covered == 0)
          refine ⟨occurrences, listed, apart, fun occurrence member => ?_⟩
          have := beyond occurrence member
          omega
      | zero =>
          rw [scan]
          split
          · next n found =>
              have fits := bounded found
              rw [List.length_cons] at fits
              obtain ⟨occurrences, listed, apart, beyond⟩ := further n (n == 0)
              let here : Occurrence whole := ⟨read, c :: text.take n, text.drop n, by
                rw [← split, List.append_assoc, List.cons_append, List.take_append_drop]⟩
              refine ⟨here :: occurrences, congrArg (here.part :: ·) listed,
                List.pairwise_cons.2 ⟨fun occurrence member => ?_, apart⟩,
                List.forall_mem_cons.2 ⟨le_rfl, fun occurrence member => ?_⟩⟩
              · have := beyond occurrence member
                simp only [Occurrence.Precedes, here, List.length_cons, List.length_take]
                omega
              · have := beyond occurrence member
                omega
          · obtain ⟨occurrences, listed, apart, beyond⟩ := further 0 false
            have later : ∀ occurrence ∈ occurrences,
                read.length + 0 ≤ occurrence.before.length := fun occurrence member => by
              have := beyond occurrence member
              omega
            let here : Occurrence whole := ⟨read, [], c :: text, by rw [← split, List.append_nil]⟩
            cases ended with
            | true => exact ⟨occurrences, listed, apart, later⟩
            | false =>
                refine ⟨here :: occurrences, congrArg (here.part :: ·) listed,
                  List.pairwise_cons.2 ⟨fun occurrence member => ?_, apart⟩,
                  List.forall_mem_cons.2 ⟨le_rfl, later⟩⟩
                have := beyond occurrence member
                simp only [Occurrence.Precedes, here, List.length_nil]
                omega
          · obtain ⟨occurrences, listed, apart, beyond⟩ := further 0 false
            refine ⟨occurrences, listed, apart, fun occurrence member => ?_⟩
            have := beyond occurrence member
            omega

/-- A scan lists what it takes up at some place of the text. -/
theorem exists_match_of_mem_scan {covered : Nat} {ended : Bool} {before : Option Char}
    {text found : List Char} (member : found ∈ next.scan covered ended before text) :
    ∃ previous rest n, rest <:+ text ∧ next previous rest = some n ∧ found = rest.take n := by
  induction text generalizing covered ended before with
  | nil =>
      cases covered with
      | succ covered => simp [scan] at member
      | zero =>
          rw [scan] at member
          split at member
          · next n here =>
              have empty : found = [] := by
                cases ended <;> simp_all
              exact ⟨before, [], n, List.suffix_rfl, here, by rw [empty, List.take_nil]⟩
          · simp at member
  | cons c text ih =>
      have further : ∀ {covered ended before}, found ∈ next.scan covered ended before text →
          ∃ previous rest n, rest <:+ c :: text ∧ next previous rest = some n ∧
            found = rest.take n := by
        intro covered ended before later
        obtain ⟨previous, rest, n, suffix, here⟩ := ih later
        exact ⟨previous, rest, n, suffix.trans (List.suffix_cons c text), here⟩
      cases covered with
      | succ covered => exact further member
      | zero =>
          rw [scan] at member
          split at member
          · next n here =>
              rcases List.mem_cons.1 member with rfl | later
              · exact ⟨before, c :: text, n + 1, List.suffix_rfl, here, rfl⟩
              · exact further later
          · next here =>
              cases ended with
              | true => exact further member
              | false =>
                  rcases List.mem_cons.1 member with rfl | later
                  · exact ⟨before, c :: text, 0, List.suffix_rfl, here, rfl⟩
                  · exact further later
          · exact further member

/-- A scan finds something just when there is a match at some place. -/
theorem scan_ne_nil_iff {before : Option Char} {text : List Char} :
    next.scan 0 false before text ≠ [] ↔ next.occurs before text = true := by
  constructor
  · intro some_
    by_contra none
    exact some_ (scan_of_not_occurs false (Bool.eq_false_iff.2 none))
  · intro found
    induction text generalizing before with
    | nil =>
        obtain ⟨n, here⟩ := Option.isSome_iff_exists.1 found
        simp [scan, here]
    | cons c text ih =>
        rw [occurs, Bool.or_eq_true] at found
        rw [scan]
        split
        · simp
        · simp
        · next absent =>
            rw [absent] at found
            exact ih (found.resolve_left (by simp))

/-- What matches at some end of a text occurs in it. -/
theorem occurs_of_suffix {rest text : List Char} (suffix : rest <:+ text)
    (here : ∀ before, (next before rest).isSome = true) (before : Option Char) :
    next.occurs before text = true := by
  obtain ⟨earlier, rfl⟩ := suffix
  induction earlier generalizing before with
  | nil =>
      cases rest with
      | nil => exact here before
      | cons c rest =>
          rw [List.nil_append, occurs, here before]
          rfl
  | cons c earlier ih => rw [List.cons_append, occurs, ih (some c), Bool.or_true]

end Continuation

/-! ## Templates -/

/-- **What a wildcard can stand for.**  That a word begins and ends at boundaries is
no matter of its own characters and is not said here. -/
def Wildcard.Admits : Wildcard → List Char → Prop
  | .word, text => text ≠ [] ∧ ∀ c ∈ text, c ≠ '\n'
  | .lazy, text => text ≠ [] ∧ ∀ c ∈ text, c = ' ' ∨ Text.isBlank c = false
  | .gate, text => text ≠ [] ∧ ∀ c ∈ text, Text.isBlank c = false
  | .name, text => text ≠ [] ∧ ∀ c ∈ text, Text.isNameChar c = true
  | .greedy, text => text ≠ [] ∧ ∀ c ∈ text, c = ' ' ∨ Text.isBlank c = false
  | .any, text => ∀ c ∈ text, c ≠ '\n'

/-- A template's text with its wildcards filled in. -/
inductive Wildcard.Fills (wildcard : Wildcard) : List Char → List Char → Prop
  | done : Fills wildcard [] []
  | fixed {c : Char} {template text : List Char} (literal : c ≠ Template.mark)
      (rest : Fills wildcard template text) : Fills wildcard (c :: template) (c :: text)
  | filled {template filler text : List Char} (allowed : wildcard.Admits filler)
      (rest : Fills wildcard template text) :
      Fills wildcard (Template.mark :: template) (filler ++ text)

theorem Wildcard.Fills.ends {wildcard : Wildcard} {template text : List Char} {c : Char}
    (filled : wildcard.Fills (template ++ [c]) text) (other : c ≠ Template.mark) :
    [c] <:+ text := by
  induction template generalizing text with
  | nil =>
      cases filled with
      | fixed literal rest => cases rest; exact List.suffix_rfl
      | filled allowed rest => exact absurd rfl other
  | cons d template ih =>
      cases filled with
      | fixed literal rest => exact (ih rest).trans (List.suffix_cons _ _)
      | filled allowed rest => exact (ih rest).trans (List.suffix_append _ _)

/-- **The instances of a template**: every wildcard stands for a text of its own, and
everything else for itself. -/
def Template.IsInstance (template : Template) (text : List Char) : Prop :=
  template.wildcard.Fills template.text.toList text

/-- Every instance begins with the stem. -/
theorem Template.stem_prefix_of_isInstance {template : Template} {text : List Char}
    (filled : template.IsInstance text) : template.stem <+: text := by
  rw [IsInstance] at filled
  rw [stem]
  generalize template.text.toList = literal at filled ⊢
  induction filled with
  | done => exact List.nil_prefix
  | fixed literal rest ih =>
      rw [List.takeWhile_cons_of_pos (by simpa using literal)]
      exact List.cons_prefix_cons.2 ⟨rfl, ih⟩
  | filled allowed rest ih =>
      rw [List.takeWhile_cons_of_neg (by simp)]
      exact List.nil_prefix

theorem Piece.admits_run_one {cls : CharClass} {greedy : Bool} {text : List Char} :
    (Piece.run cls 1 greedy).Admits text ↔
      text ≠ [] ∧ ∀ c ∈ text, cls.contains c = true := by
  rw [Admits, Nat.one_le_iff_ne_zero, ne_eq, List.length_eq_zero_iff]

/-- The pieces of a wildcard take up what it can stand for. -/
theorem Wildcard.admits_pieces_iff {wildcard : Wildcard} {pieces : Pattern} {text : List Char} :
    Pattern.Admits (wildcard.pieces ++ pieces) text ↔
      ∃ filler rest, text = filler ++ rest ∧ wildcard.Admits filler ∧
        Pattern.Admits pieces rest := by
  cases wildcard with
  | word =>
      simp only [Wildcard.pieces, List.cons_append, List.nil_append, Pattern.Admits]
      constructor
      · rintro ⟨-, -, rfl, rfl, filler, -, rfl, run, -, rest, rfl, rfl, others⟩
        have allowed := Piece.admits_run_one.1 run
        exact ⟨filler, rest, rfl, by simpa [Admits, CharClass.contains] using allowed, others⟩
      · rintro ⟨filler, rest, rfl, allowed, others⟩
        have run : (Piece.run .inLine 1 false).Admits filler :=
          Piece.admits_run_one.2 (by simpa [Admits, CharClass.contains] using allowed)
        exact ⟨[], _, rfl, rfl, filler, rest, rfl, run, [], rest, rfl, rfl, others⟩
  | any => simp [Wildcard.pieces, Pattern.Admits, Admits, Piece.Admits, CharClass.contains]
  | _ =>
      simp [Wildcard.pieces, Pattern.Admits, Admits, Piece.admits_run_one, CharClass.contains,
        or_comm]

namespace Template

/-- **The pattern of a template takes up its instances.** -/
theorem admits_pattern_iff {template : Template} {text : List Char} :
    template.pattern.Admits text ↔ template.IsInstance text := by
  rw [pattern, IsInstance]
  generalize template.text.toList = written
  induction written generalizing text with
  | nil =>
      constructor
      · rintro rfl
        exact .done
      · intro filled
        cases filled
        rfl
  | cons c written ih =>
      rw [List.flatMap_cons]
      by_cases marked : c = mark
      · subst marked
        rw [if_pos rfl, Wildcard.admits_pieces_iff]
        constructor
        · rintro ⟨filler, rest, rfl, allowed, others⟩
          exact .filled allowed (ih.1 others)
        · intro filled
          cases filled with
          | fixed literal rest => exact absurd rfl literal
          | filled allowed rest => exact ⟨_, _, rfl, allowed, ih.2 rest⟩
      · rw [if_neg marked, List.singleton_append]
        constructor
        · rintro ⟨part, rest, rfl, rfl, others⟩
          exact .fixed marked (ih.1 others)
        · intro filled
          cases filled with
          | fixed literal rest => exact ⟨[c], _, rfl, rfl, ih.2 rest⟩
          | filled allowed rest => exact absurd rfl marked

/-- Only words look at boundaries. -/
theorem boundary_not_mem_pattern {template : Template} (plain : template.wildcard ≠ .word) :
    .boundary ∉ template.pattern := by
  intro member
  obtain ⟨c, -, inside⟩ := List.mem_flatMap.1 member
  split at inside
  · cases h : template.wildcard <;> simp_all [Wildcard.pieces]
  · simp at inside

theorem isMatch_iff_occurs {template : Template} {text : List Char} :
    template.isMatch text = true ↔ template.pattern.matchLength?.occurs none text = true := by
  rw [isMatch, Pattern.isMatch, Pattern.find?, Pattern.findAll_eq_scan, List.isSome_head?,
    ← Continuation.scan_ne_nil_iff]

/-- Matches are instances. -/
theorem isInstance_of_mem_findAll {template : Template} {text found : List Char}
    (member : found ∈ template.findAll text) : template.IsInstance found := by
  rw [findAll, Pattern.findAll_eq_scan] at member
  obtain ⟨previous, rest, n, -, here, rfl⟩ := Continuation.exists_match_of_mem_scan member
  exact admits_pattern_iff.1 (Pattern.admits_of_matchLength here).2

/-- A match begins with the stem of its template. -/
theorem stem_begins_of_mem_findAll {template : Template} {text found : List Char}
    (member : found ∈ template.findAll text) : template.stem <+: found :=
  stem_prefix_of_isInstance (isInstance_of_mem_findAll member)

/-- A match ends with the last character of its template. -/
theorem ends_of_mem_findAll {template : Template} {front : List Char} {c : Char} (other : c ≠ mark)
    (shape : template.text.toList = front ++ [c]) {text found : List Char}
    (member : found ∈ template.findAll text) : [c] <:+ found := by
  have filled := isInstance_of_mem_findAll member
  rw [IsInstance, shape] at filled
  exact filled.ends other

/-- Matches stand in the text. -/
theorem infix_of_mem_findAll {template : Template} {text found : List Char}
    (member : found ∈ template.findAll text) : found <:+: text := by
  rw [findAll, Pattern.findAll_eq_scan] at member
  obtain ⟨-, rest, n, suffix, -, rfl⟩ := Continuation.exists_match_of_mem_scan member
  exact (rest.take_prefix n).isInfix.trans suffix.isInfix

/-- **Matching finds the instances of a template.**  A text matches just when an
instance stands somewhere in it; and the matches of a text are instances that
stand in it from left to right, none overlapping another. -/
theorem matches_are_instances {template : Template} (plain : template.wildcard ≠ .word)
    (text : List Char) :
    (template.isMatch text = true ↔ ∃ part, part <:+: text ∧ template.IsInstance part) ∧
      (∀ found ∈ template.findAll text, template.IsInstance found) ∧
      ∃ occurrences : List (Occurrence text),
        occurrences.map (·.part) = template.findAll text ∧
          occurrences.Pairwise Occurrence.Precedes := by
  refine ⟨?_, fun found => isInstance_of_mem_findAll, ?_⟩
  · rw [isMatch_iff_occurs]
    constructor
    · intro found
      obtain ⟨before, rest, suffix, here⟩ := Continuation.exists_suffix_of_occurs found
      obtain ⟨n, matched⟩ := Option.isSome_iff_exists.1 here
      exact ⟨rest.take n, (rest.take_prefix n).isInfix.trans suffix.isInfix,
        admits_pattern_iff.1 (Pattern.admits_of_matchLength matched).2⟩
    · rintro ⟨part, ⟨earlier, later, rfl⟩, filled⟩
      have suffix : part ++ later <:+ earlier ++ part ++ later :=
        ⟨earlier, (List.append_assoc ..).symm⟩
      refine Continuation.occurs_of_suffix suffix (fun before => ?_) none
      exact Pattern.matchLength_isSome (boundary_not_mem_pattern plain)
        (admits_pattern_iff.2 filled) before later
  · have bounded : ∀ {before text n}, template.pattern.matchLength? before text = some n →
        n ≤ text.length := fun found => (Pattern.admits_of_matchLength found).1
    obtain ⟨occurrences, listed, apart, -⟩ :=
      Continuation.exists_occurrences bounded (List.nil_append text) 0 false none
    rw [findAll, Pattern.findAll_eq_scan]
    exact ⟨occurrences, listed, apart⟩

/-- The upper bound of a range may itself look like the beginning of a range. -/
theorem range_in_a_range_matches :
    let template : Template := ⟨"(random.number-#-to-#)", .lazy⟩
    let text := "roll (random.number-1-to-(random.number-2-to-6) now".toList
    let found := "(random.number-1-to-(random.number-2-to-6)".toList
    template.wildcard ≠ .word ∧ template.findAll text = [found] ∧
      (∃ part, part <:+: text ∧ template.IsInstance part) ∧ template.IsInstance found ∧
      ∃ occurrences : List (Occurrence text),
        occurrences.map (·.part) = [found] ∧ occurrences.Pairwise Occurrence.Precedes := by
  intro template text found
  have plain : template.wildcard ≠ .word := by decide
  have listed : template.findAll text = [found] := by decide +kernel
  obtain ⟨matching, instances, ordered⟩ := matches_are_instances plain text
  rw [listed] at instances ordered
  exact ⟨plain, listed, matching.1 (by decide +kernel), instances found (by simp), ordered⟩

end Template

end ChatTemplate
