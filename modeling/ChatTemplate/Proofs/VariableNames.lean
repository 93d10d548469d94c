/-
# ChatTemplate.Proofs.VariableNames -- variables written in a text

A text with variables is some text, the name of a variable, the text up to the next
name, and so on (`Mention`).  A name goes on as long as there are characters of names,
so it is known where it ends (`Mention.Proper`).

Main statement: `findAll_mentions`, the names that are found in a text are those that
are written in it.
-/
import ChatTemplate.Proofs.Matching
import ChatTemplate.Proofs.Occurrence

namespace ChatTemplate

set_option autoImplicit false

/-- **A variable in a text**, and the text from there up to the next one. -/
structure Mention where
  /-- The name of the variable after `$_`. -/
  name : List Char
  gap : List Char

namespace Mention

/-- The name as it is written. -/
def word (mention : Mention) : List Char :=
  "$_".toList ++ mention.name

/-- A name ends where no character of names goes on with it. -/
structure Proper (mention : Mention) : Prop where
  some_ : mention.name ≠ []
  name : ∀ c ∈ mention.name, Text.isNameChar c = true
  ends : ∀ c ∈ mention.gap.head?, Text.isNameChar c = false
  gap : '$' ∉ mention.gap

instance (mention : Mention) : Decidable mention.Proper :=
  decidable_of_iff
    (mention.name ≠ [] ∧ mention.name.all Text.isNameChar ∧
      mention.gap.head?.any Text.isNameChar = false ∧ '$' ∉ mention.gap) <| by
    have no_more : mention.gap.head?.any Text.isNameChar = false ↔
        ∀ c ∈ mention.gap.head?, Text.isNameChar c = false := by
      cases mention.gap <;> simp
    rw [List.all_eq_true, no_more]
    exact ⟨fun ⟨some_, name, ends, gap⟩ => ⟨some_, name, ends, gap⟩,
      fun proper => ⟨proper.some_, proper.name, proper.ends, proper.gap⟩⟩

theorem word_eq (mention : Mention) : mention.word = '$' :: '_' :: mention.name := rfl

/-- Behind its first character a name has characters of names only. -/
theorem Proper.not_mem {mention : Mention} (proper : mention.Proper) {c : Char}
    (other : Text.isNameChar c = false) : c ∉ '_' :: mention.name := by
  intro member
  have inside : Text.isNameChar c = true := by
    rcases List.mem_cons.1 member with rfl | member
    · decide
    · exact proper.name c member
  rw [inside] at other
  nomatch other

theorem word_ne_nil (mention : Mention) : mention.word ≠ [] := List.cons_ne_nil _ _

end Mention

/-- The text with some variables in it. -/
def writeMentions (mentions : List Mention) : List Char :=
  mentions.flatMap fun mention => mention.word ++ mention.gap

theorem writeMentions_cons (mention : Mention) (mentions : List Mention) :
    writeMentions (mention :: mentions) =
      mention.word ++ (mention.gap ++ writeMentions mentions) := by
  rw [writeMentions, List.flatMap_cons, List.append_assoc]
  rfl

/-! ## Where names end -/

/-- No character of names stands at the front of a text. -/
def EndsNames (text : List Char) : Prop :=
  ∀ c ∈ text.head?, Text.isNameChar c = false

namespace EndsNames

theorem nil : EndsNames [] := nofun

theorem cons {c : Char} (other : Text.isNameChar c = false) (text : List Char) :
    EndsNames (c :: text) := by
  intro d first
  obtain rfl := Option.some.inj first
  exact other

theorem append {text later : List Char} (ends : EndsNames text) (after : EndsNames later) :
    EndsNames (text ++ later) := by
  cases text with
  | nil => exact after
  | cons c text => exact ends

/-- The next variable is no part of a name before it. -/
theorem writeMentions (mentions : List Mention) : EndsNames (writeMentions mentions) := by
  cases mentions with
  | nil => exact nil
  | cons mention mentions => exact cons (by decide) _

end EndsNames

/-- A name stands in front of a text only if it stands in front of the name there. -/
theorem prefix_of_prefix_append {name other rest : List Char}
    (chars : ∀ c ∈ name, Text.isNameChar c = true) (ends : EndsNames rest)
    (stands : name <+: other ++ rest) : name <+: other := by
  obtain ⟨after, same⟩ := stands
  rcases List.append_eq_append_iff.1 same with ⟨left, whole, -⟩ | ⟨beyond, whole, later⟩
  · exact ⟨left, whole.symm⟩
  · cases beyond with
    | nil => simp [whole]
    | cons c beyond =>
        have outside := ends c (by simp [later])
        rw [chars c (by simp [whole])] at outside
        nomatch outside

theorem Mention.prefix_of_prefix_append {mention other : Mention} {rest : List Char}
    (proper : mention.Proper) (ends : EndsNames rest)
    (stands : mention.word <+: other.word ++ rest) : mention.word <+: other.word := by
  simp only [word_eq, List.cons_append, List.cons_prefix_cons, true_and] at stands ⊢
  exact ChatTemplate.prefix_of_prefix_append proper.name ends stands

/-! ## Finding variables -/

theorem greedyRun_takes {cls : CharClass} {inside rest : List Char}
    (within : ∀ c ∈ inside, cls.contains c = true)
    (ends : ∀ c ∈ rest.head?, cls.contains c = false) (before : Option Char) :
    greedyRun cls (Pattern.matchLength? []) before (inside ++ rest) = some inside.length := by
  induction inside generalizing before with
  | nil =>
      cases rest with
      | nil => rfl
      | cons c rest =>
          rw [List.nil_append, greedyRun, ends c rfl]
          rfl
  | cons c inside ih =>
      obtain ⟨here, later⟩ := List.forall_mem_cons.1 within
      rw [List.cons_append, greedyRun, if_pos here, ih later (some c)]
      rfl

/-- A run of at least one character takes all that it can. -/
theorem atLeast_greedyRun_takes {cls : CharClass} {inside rest : List Char} (some_ : inside ≠ [])
    (within : ∀ c ∈ inside, cls.contains c = true)
    (ends : ∀ c ∈ rest.head?, cls.contains c = false) (before : Option Char) :
    Pattern.matchLength? [.run cls 1 true] before (inside ++ rest) = some inside.length := by
  cases inside with
  | nil => exact absurd rfl some_
  | cons c inside =>
      obtain ⟨here, later⟩ := List.forall_mem_cons.1 within
      rw [List.cons_append, Pattern.matchLength?, atLeast, if_pos here]
      exact congrArg (Option.map (· + 1)) (greedyRun_takes later ends (some c))

theorem matchLength_variable {mention : Mention} (proper : mention.Proper) {rest : List Char}
    (ends : EndsNames rest) (before : Option Char) :
    variablePattern.matchLength? before (mention.word ++ rest) = some mention.word.length := by
  have run : ∀ before, Pattern.matchLength? [.run .name 1 true] before (mention.name ++ rest) =
      some mention.name.length := atLeast_greedyRun_takes proper.some_ proper.name ends
  rw [Mention.word, List.append_assoc, List.length_append]
  exact Pattern.matchLength_literal run before

/-- No variable begins where there is no dollar sign. -/
theorem matchLength_variable_eq_none {gap : List Char} (plain : '$' ∉ gap) {later : List Char}
    (suffix : later <:+ gap) (some_ : later ≠ []) (rest : List Char) (before : Option Char) :
    variablePattern.matchLength? before (later ++ rest) = none := by
  have absent : ¬ "$_".toList <+: later ++ rest := by
    intro stands
    obtain ⟨c, later, rfl⟩ := List.exists_cons_of_ne_nil some_
    obtain rfl : '$' = c := (List.cons_prefix_cons.1 stands).1
    exact plain (suffix.subset List.mem_cons_self)
  exact Pattern.matchLength_literal_eq_none absent _ before

theorem lists_mentions {mentions : List Mention} (proper : ∀ mention ∈ mentions, mention.Proper) :
    variablePattern.matchLength?.Lists (writeMentions mentions) (mentions.map Mention.word) := by
  induction mentions with
  | nil => exact .nil (Pattern.matchLength_char_advances '$' _)
  | cons mention mentions ih =>
      obtain ⟨here, later⟩ := List.forall_mem_cons.1 proper
      have ends : EndsNames (mention.gap ++ writeMentions mentions) :=
        EndsNames.append here.ends (.writeMentions mentions)
      rw [writeMentions_cons, List.map_cons]
      refine .hit (.skip (ih later) fun left suffix some_ before => ?_) mention.word_ne_nil
        (matchLength_variable here ends)
      exact matchLength_variable_eq_none here.gap suffix some_ _ before

/-- **The variables that are found are those that are written.** -/
theorem findAll_mentions {first : List Char} (plain : '$' ∉ first) {mentions : List Mention}
    (proper : ∀ mention ∈ mentions, mention.Proper) :
    variablePattern.findAll (first ++ writeMentions mentions) = mentions.map Mention.word := by
  rw [Pattern.findAll_eq_scan]
  refine Continuation.Lists.skip (lists_mentions proper) (fun left suffix some_ before => ?_) _ _
  exact matchLength_variable_eq_none plain suffix some_ _ before

/-- The template of a variable has the same pattern. -/
theorem findAll_variableTemplate (text : List Char) :
    (⟨"$_#", .name⟩ : Template).findAll text = variablePattern.findAll text := by
  have same : (⟨"$_#", .name⟩ : Template).pattern = variablePattern := by decide
  rw [Template.findAll, same]

/-- In a text with variables dollar signs stand where variables begin. -/
theorem underscore_of_dollar {first : List Char} (plain : '$' ∉ first) {mentions : List Mention}
    (proper : ∀ mention ∈ mentions, mention.Proper) {c : Char}
    (stands : ['$', c] <:+: first ++ writeMentions mentions) : c = '_' := by
  have inMentions := Text.infix_of_infix_append plain stands
  clear stands
  induction mentions with
  | nil => exact absurd (List.infix_nil.1 inMentions) (by simp)
  | cons mention mentions ih =>
      obtain ⟨here, later⟩ := List.forall_mem_cons.1 proper
      rw [writeMentions_cons, mention.word_eq, List.cons_append] at inMentions
      rcases List.infix_cons_iff.1 inMentions with begins | behind
      · have second := (List.cons_prefix_cons.1 begins).2
        exact (List.cons_prefix_cons.1 second).1
      · refine ih later ?_
        have inName : '$' ∉ '_' :: mention.name := here.not_mem (by decide)
        exact Text.infix_of_infix_append here.gap (Text.infix_of_infix_append inName behind)

end ChatTemplate
