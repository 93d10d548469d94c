/-
# ChatTemplate.Proofs.NameRuns -- where the names of variables end

Three patterns find the variables of a text: the one of variable tokens, that of overlays and that
of formulas.  Each of them takes `$_` and the longest run of characters behind it, wherever `$_` and
one such character stand (`namesIn`, `findAll_run`).

For tokens and overlays these are the characters of names.  Formulas take the word characters of
every script.  So they find the same variables as long as no other word character stands where a
name ends or could begin (`namesIn_eq_iff`).

Main statement: `variables_are_runs`.
-/
import Mathlib.Data.List.Infix
import ChatTemplate.Message.Calculation
import ChatTemplate.Message.Pipeline
import ChatTemplate.Proofs.CharCodes
import ChatTemplate.Proofs.VariableNames

namespace ChatTemplate

set_option autoImplicit false

/-! ## Names in a text -/

variable {belongs narrow wide : Char → Bool} {text : List Char}

/-- The name at the front of a text: `$_` and the characters behind it that belong to names, as many
as stand there, but at least one. -/
def nameAt? (belongs : Char → Bool) : List Char → Option (List Char)
  | '$' :: '_' :: text =>
      if (text.takeWhile belongs).isEmpty then none
      else some ('$' :: '_' :: text.takeWhile belongs)
  | _ => none

/-- **The names that stand in a text**, from left to right. -/
def namesIn (belongs : Char → Bool) (text : List Char) : List (List Char) :=
  text.tails.filterMap (nameAt? belongs)

theorem namesIn_cons (c : Char) (text : List Char) :
    namesIn belongs (c :: text) = (nameAt? belongs (c :: text)).toList ++ namesIn belongs text := by
  rw [namesIn, List.tails_cons, List.filterMap_cons, namesIn]
  cases nameAt? belongs (c :: text) <;> rfl

theorem nameAt?_eq_none_of_ne {c : Char} (other : c ≠ '$') (text : List Char) :
    nameAt? belongs (c :: text) = none := by
  rw [nameAt?]
  rintro _ ⟨⟩
  exact other rfl

theorem nameAt?_eq_some {name : List Char} (found : nameAt? belongs text = some name) :
    ∃ rest, text = '$' :: '_' :: rest ∧ name = '$' :: '_' :: rest.takeWhile belongs := by
  rw [nameAt?.eq_def] at found
  split at found
  · next rest =>
      split at found
      · cases found
      · exact ⟨rest, rfl, (Option.some.inj found).symm⟩
  · cases found

/-! ## What patterns find -/

/-- The pattern of names that are made of a class of characters. -/
def runPattern (cls : CharClass) : Pattern :=
  Pattern.literal "$_" ++ [.run cls 1 true]

theorem matchLength_run (cls : CharClass) (before : Option Char) (text : List Char) :
    Pattern.matchLength? [.run cls 1 true] before text =
      if (text.takeWhile cls.contains).isEmpty then none
      else some (text.takeWhile cls.contains).length := by
  split
  · next empty =>
      cases text with
      | nil => rfl
      | cons c text =>
          have other : cls.contains c = false := by
            rw [List.isEmpty_iff, List.takeWhile_cons] at empty
            cases here : cls.contains c with
            | false => rfl
            | true => rw [here] at empty; cases empty
          rw [Pattern.matchLength?, atLeast, other, if_neg Bool.false_ne_true]
  · next some_ =>
      have ends : ∀ c ∈ (text.dropWhile cls.contains).head?, cls.contains c = false := by
        intro c first
        have stopped := List.head?_dropWhile_not cls.contains text
        rw [Option.mem_def.1 first] at stopped
        simpa using stopped
      have taken := atLeast_greedyRun_takes (fun none => some_ (List.isEmpty_iff.2 none))
        (fun c => List.mem_takeWhile_imp) ends before
      rwa [List.takeWhile_append_dropWhile] at taken

/-- A name matches at the place where it stands, and it matches whole. -/
theorem matchLength_runPattern (cls : CharClass) (before : Option Char) (text : List Char) :
    (runPattern cls).matchLength? before text = (nameAt? cls.contains text).map List.length := by
  rw [nameAt?.eq_def]
  split
  · next rest =>
      simp only [runPattern, Pattern.literal, String.reduceToList, List.map_cons, List.map_nil,
        List.cons_append, List.nil_append]
      rw [Pattern.matchLength?, oneChar, Pattern.matchLength?, oneChar, matchLength_run]
      simp only [beq_self_eq_true, if_true]
      split <;> rfl
  · next other =>
      refine Pattern.matchLength_literal_eq_none ?_ _ before
      rintro ⟨rest, same⟩
      exact other rest same.symm

/-- A scan finds the names of the text that is not covered by the last of them. -/
theorem scan_names {next : Continuation} (dollar : belongs '$' = false)
    (matching : ∀ before text, next before text = (nameAt? belongs text).map List.length)
    {covered : Nat} (plain : '$' ∉ text.take covered) (ended : Bool) (before : Option Char) :
    next.scan covered ended before text = namesIn belongs text := by
  induction text generalizing covered ended before with
  | nil =>
      cases covered with
      | succ covered => rfl
      | zero => rw [Continuation.scan, matching]; rfl
  | cons c text ih =>
      rw [namesIn_cons]
      cases covered with
      | succ covered =>
          rw [List.take_succ_cons, List.mem_cons, not_or] at plain
          rw [Continuation.scan, ih plain.2, nameAt?_eq_none_of_ne (Ne.symm plain.1)]
          rfl
      | zero =>
          have onward : ∀ ended before, next.scan 0 ended before text = namesIn belongs text :=
            ih List.not_mem_nil
          rw [Continuation.scan, matching]
          cases found : nameAt? belongs (c :: text) with
          | none => exact onward false (some c)
          | some name =>
              obtain ⟨rest, same, rfl⟩ := nameAt?_eq_some found
              obtain ⟨rfl, rfl⟩ := List.cons.inj same
              have taken : ('_' :: rest).take ((rest.takeWhile belongs).length + 1) =
                  '_' :: rest.takeWhile belongs := by
                rw [List.take_succ_cons,
                  ← List.prefix_iff_eq_take.1 (List.takeWhile_prefix belongs)]
              have covers : '$' ∉ ('_' :: rest).take ((rest.takeWhile belongs).length + 1) := by
                rw [taken, List.mem_cons, not_or]
                refine ⟨by decide, fun member => ?_⟩
                rw [List.mem_takeWhile_imp member] at dollar
                cases dollar
              exact congrArg₂ List.cons (congrArg ('$' :: ·) taken) (ih covers _ _)

/-- **A pattern finds the names of its class**, as long as no name goes on with `$`. -/
theorem findAll_run (cls : CharClass) (dollar : cls.contains '$' = false) (text : List Char) :
    (runPattern cls).findAll text = namesIn cls.contains text := by
  rw [Pattern.findAll_eq_scan]
  exact scan_names dollar (matchLength_runPattern cls) List.not_mem_nil false none

/-! ## Where two kinds of names agree -/

/-- Two selections, one of which takes whatever the other takes, are the same just when both take
the same everywhere. -/
theorem filterMap_eq_iff {α β : Type} {f g : α → Option β} {items : List α}
    (wider : ∀ item ∈ items, (g item).isSome = true → (f item).isSome = true) :
    items.filterMap f = items.filterMap g ↔ ∀ item ∈ items, f item = g item := by
  refine ⟨fun same => ?_, List.filterMap_congr⟩
  induction items with
  | nil => exact nofun
  | cons item items ih =>
      obtain ⟨here, others⟩ := List.forall_mem_cons.1 wider
      cases taken : g item with
      | some b =>
          obtain ⟨b', taken'⟩ := Option.isSome_iff_exists.1 (here (by rw [taken]; rfl))
          rw [List.filterMap_cons_some taken, List.filterMap_cons_some taken', List.cons.injEq] at same
          exact List.forall_mem_cons.2 ⟨by rw [taken, taken', same.1], ih others same.2⟩
      | none =>
          rw [List.filterMap_cons_none taken] at same
          cases taken' : f item with
          | none =>
              rw [List.filterMap_cons_none taken'] at same
              exact List.forall_mem_cons.2 ⟨by rw [taken, taken'], ih others same⟩
          | some b =>
              -- One selection has an element here that the other cannot make up for.
              have fewer : (items.filterMap g).length ≤ (items.filterMap f).length := by
                rw [List.length_filterMap_eq_countP, List.length_filterMap_eq_countP]
                exact List.countP_mono_left others
              have lengths := congrArg List.length same
              rw [List.filterMap_cons_some taken', List.length_cons] at lengths
              omega

/-- The longest runs of two kinds of characters are the same just when none of the wider kind goes
on with a run of the narrower one. -/
theorem takeWhile_eq_iff (within : ∀ c, narrow c = true → wide c = true) :
    text.takeWhile wide = text.takeWhile narrow ↔
      ∀ run c after, text = run ++ c :: after → (∀ d ∈ run, narrow d = true) →
        wide c = true → narrow c = true := by
  induction text with
  | nil => simp
  | cons e text ih =>
      cases here : narrow e with
      | true =>
          rw [List.takeWhile_cons_of_pos (within e here), List.takeWhile_cons_of_pos here,
            List.cons_inj_right, ih]
          constructor
          · rintro later (_ | ⟨d, run⟩) c after split inRun goesOn
            · obtain ⟨rfl, -⟩ := List.cons.inj split
              exact here
            · obtain ⟨-, split⟩ := List.cons.inj split
              exact later run c after split (List.forall_mem_cons.1 inRun).2 goesOn
          · intro whole run c after split inRun
            exact whole (e :: run) c after (congrArg (e :: ·) split)
              (List.forall_mem_cons.2 ⟨here, inRun⟩)
      | false =>
          rw [List.takeWhile_cons_of_neg (p := narrow) (by simp [here])]
          constructor
          · rintro nothing (_ | ⟨d, run⟩) c after split inRun goesOn
            · obtain ⟨rfl, -⟩ := List.cons.inj split
              rw [List.takeWhile_cons_of_pos goesOn] at nothing
              cases nothing
            · obtain ⟨rfl, -⟩ := List.cons.inj split
              rw [inRun e List.mem_cons_self] at here
              cases here
          · intro whole
            refine List.takeWhile_cons_of_neg fun goesOn => ?_
            rw [whole [] e text rfl nofun goesOn] at here
            cases here

theorem nameAt?_eq_iff (within : ∀ c, narrow c = true → wide c = true) :
    nameAt? wide text = nameAt? narrow text ↔
      ∀ run c after, text = '$' :: '_' :: (run ++ c :: after) → (∀ d ∈ run, narrow d = true) →
        wide c = true → narrow c = true := by
  rw [nameAt?.eq_def, nameAt?.eq_def]
  split
  · next rest =>
      simp only [List.cons.injEq, true_and]
      rw [← takeWhile_eq_iff within]
      cases rest.takeWhile wide <;> cases rest.takeWhile narrow <;> simp
  · next other =>
      refine iff_of_true rfl fun run c after same => ?_
      exact absurd same (other (run ++ c :: after))

/-- **Two kinds of names are found alike** just when no character of the wider kind goes on with a
name of the narrower one, or with `$_` alone. -/
theorem namesIn_eq_iff (within : ∀ c, narrow c = true → wide c = true) :
    namesIn wide text = namesIn narrow text ↔
      ∀ before run c after, text = before ++ '$' :: '_' :: (run ++ c :: after) →
        (∀ d ∈ run, narrow d = true) → wide c = true → narrow c = true := by
  have wider : ∀ rest ∈ text.tails,
      (nameAt? narrow rest).isSome = true → (nameAt? wide rest).isSome = true := by
    intro rest _ found
    obtain ⟨name, found⟩ := Option.isSome_iff_exists.1 found
    obtain ⟨after, rfl, -⟩ := nameAt?_eq_some found
    cases after with
    | nil => cases found
    | cons c after =>
        have begins : narrow c = true := by
          cases here : narrow c with
          | true => rfl
          | false => rw [nameAt?, List.takeWhile_cons_of_neg (by simp [here])] at found; cases found
        rw [nameAt?, List.takeWhile_cons_of_pos (within c begins)]
        rfl
  rw [namesIn, namesIn, filterMap_eq_iff wider]
  constructor
  · intro same before run c after split
    have behind : '$' :: '_' :: (run ++ c :: after) ∈ text.tails :=
      (List.mem_tails _ _).2 ⟨before, split.symm⟩
    exact (nameAt?_eq_iff within).1 (same _ behind) run c after rfl
  · intro whole rest member
    obtain ⟨before, split⟩ := (List.mem_tails _ _).1 member
    exact (nameAt?_eq_iff within).2 fun run c after same =>
      whole before run c after (same ▸ split.symm)

/-! ## The three patterns -/

/-- **The variables of a text are runs**: of characters of names for the tokens and for overlays, of
word characters for formulas.  They are the same just when no other word character stands behind
`$_` and any characters of names. -/
theorem variables_are_runs (text : List Char) :
    (∀ rule ∈ Pipeline.variableRules, rule.token = .customVariable .normal →
        rule.template.findAll text = namesIn Text.isNameChar text) ∧
      variablePattern.findAll text = namesIn Text.isNameChar text ∧
      Calculation.namePattern.findAll text = namesIn Text.isWordChar text ∧
      (Calculation.namePattern.findAll text = variablePattern.findAll text ↔
        ∀ before run c after, text = before ++ '$' :: '_' :: (run ++ c :: after) →
          (∀ d ∈ run, Text.isNameChar d = true) →
          Text.isWordChar c = true → Text.isNameChar c = true) := by
  have overlays : variablePattern.findAll text = namesIn Text.isNameChar text :=
    findAll_run .name (by decide) text
  have formulas : Calculation.namePattern.findAll text = namesIn Text.isWordChar text :=
    findAll_run .word (by decide) text
  refine ⟨fun rule member normal => ?_, overlays, formulas, ?_⟩
  · have first : rule.template = ⟨"$_#", .name⟩ := by
      simp only [Pipeline.variableRules, List.mem_cons, List.not_mem_nil, or_false] at member
      rcases member with rfl | rfl | rfl
      · rfl
      · cases normal
      · cases normal
    rw [first, findAll_variableTemplate, overlays]
  · rw [formulas, overlays]
    exact namesIn_eq_iff fun c => Text.isWordChar_of_isNameChar

/-- A letter that is none of the English ones belongs to the variables of formulas only. -/
theorem accented_letter_goes_on_in_formulas :
    variablePattern.findAll "$_é + $_wé".toList = ["$_w".toList] ∧
      Calculation.namePattern.findAll "$_é + $_wé".toList = ["$_é".toList, "$_wé".toList] := by
  decide +kernel

end ChatTemplate
