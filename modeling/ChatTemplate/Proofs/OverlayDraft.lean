/-
# ChatTemplate.Proofs.OverlayDraft -- variables put into an overlay

An overlay looks for its variables by name and then replaces one name after the other,
each wherever it stands in what the text has become by then.  Two kinds of names can
be taken for others: one with which a later name begins, and one that becomes a longer
name when a value is put right after it.  Where there are none (`Unmistakable`), what is
replaced are the variables of that name (`replaceAll_partlyHeld`).

Main statement: `drafted_foldl`, in the end the place of every variable is held by its
value or, if it is not set, by a marker of its own (`Drafted`).
-/
import ChatTemplate.Overlay
import ChatTemplate.Proofs.Occurrence
import ChatTemplate.Proofs.VariableNames
import ChatTemplate.World

namespace ChatTemplate.Overlay

set_option autoImplicit false

/-! ## Texts and values -/

/-- Nothing in a text is a token, a reference or a marker. -/
def Plain (text : List Char) : Prop :=
  '$' ∉ text ∧ '(' ∉ text ∧ '&' ∉ text ∧ markerEdge ∉ text

instance (text : List Char) : Decidable (Plain text) :=
  inferInstanceAs (Decidable (_ ∧ _))

/-- The values of all variables are plain. -/
def PlainValues (world : World) : Prop :=
  ∀ binding ∈ world.customs.bindings, Plain binding.2.value.toList

instance (world : World) : Decidable (PlainValues world) :=
  inferInstanceAs (Decidable (∀ binding ∈ world.customs.bindings, _))

/-- The value of a variable that is set. -/
def valueOf? (world : World) (word : List Char) : Option (List Char) :=
  if world.customs.contains (String.ofList word) then
    some (world.variableValue (String.ofList word)).toList
  else none

/-! ## Names that cannot be mistaken -/

/-- **No name is taken for another**: with none begins a later one, and one with which
an earlier one begins does not touch the next variable. -/
structure Unmistakable (mentions : List Mention) : Prop where
  later : (mentions.map Mention.word).Pairwise fun word other => word <+: other → word = other
  touching : ∀ pair ∈ mentions.zip mentions.tail, pair.1.gap = [] →
    ∀ other ∈ mentions, pair.1.word <+: other.word → pair.1.word = other.word

instance (mentions : List Mention) : Decidable (Unmistakable mentions) :=
  decidable_of_iff
    (((mentions.map Mention.word).Pairwise fun word other => word <+: other → word = other) ∧
      ∀ pair ∈ mentions.zip mentions.tail, pair.1.gap = [] →
        ∀ other ∈ mentions, pair.1.word <+: other.word → pair.1.word = other.word)
    ⟨fun ⟨later, touching⟩ => ⟨later, touching⟩,
      fun unmistakable => ⟨unmistakable.later, unmistakable.touching⟩⟩

/-! ## Putting values and markers -/

/-- What holds the place of a variable: its value or its marker. -/
def held (world : World) (unset : List (List Char)) (word : List Char) : List Char :=
  (valueOf? world word).getD (marker (unset.idxOf word))

/-- The text in which some variables have been replaced, from the first variable on. -/
def partlyHeld (world : World) (unset done : List (List Char)) (mentions : List Mention) :
    List Char :=
  mentions.flatMap fun mention =>
    (if mention.word ∈ done then held world unset mention.word else mention.word) ++ mention.gap

variable {world : World} {mentions : List Mention} {unset done : List (List Char)}

theorem partlyHeld_cons (mention : Mention) :
    partlyHeld world unset done (mention :: mentions) =
      (if mention.word ∈ done then held world unset mention.word else mention.word) ++
        (mention.gap ++ partlyHeld world unset done mentions) := by
  rw [partlyHeld, List.flatMap_cons, List.append_assoc]
  rfl

theorem not_mem_marker {c : Char} (other : c.isDigit = false) (inside : c ≠ markerEdge) (n : Nat) :
    c ∉ marker n := by
  have digits : c ∉ Text.writeNat n := by
    intro member
    rw [Nat.isDigit_of_mem_toDigits (by decide) (by decide) member] at other
    nomatch other
  simp [marker, inside, digits]

theorem PlainValues.plain (values : PlainValues world) {word value : List Char}
    (set : valueOf? world word = some value) : Plain value := by
  unfold valueOf? at set
  split at set
  · next known =>
      obtain ⟨custom, found⟩ := Option.isSome_iff_exists.1 known
      obtain rfl := Option.some.inj set
      obtain ⟨before, after, bindings, -⟩ := List.lookup_eq_some_iff.1 found
      rw [World.variableValue, found]
      exact values _ (by rw [bindings]; exact List.mem_append_right _ List.mem_cons_self)
  · simp at set

/-- What holds the place of a variable is neither a token nor a reference. -/
theorem held_unmarked (values : PlainValues world) (word : List Char) :
    '$' ∉ held world unset word ∧ '(' ∉ held world unset word ∧ '&' ∉ held world unset word := by
  unfold held
  cases set : valueOf? world word with
  | some value =>
      have plain := values.plain set
      exact ⟨plain.1, plain.2.1, plain.2.2.1⟩
  | none =>
      exact ⟨not_mem_marker (by decide) (by decide) _, not_mem_marker (by decide) (by decide) _,
        not_mem_marker (by decide) (by decide) _⟩

/-! ### Where a name stands -/

/-- A name stands only where a variable has not yet been replaced. -/
theorem exists_mention_of_infix (values : PlainValues world)
    (proper : ∀ mention ∈ mentions, mention.Proper) {name : List Char}
    (within : '$' :: name <:+: partlyHeld world unset done mentions) :
    ∃ mention later, mention :: later <:+ mentions ∧ mention.word ∉ done ∧
      '$' :: name <+: mention.word ++ (mention.gap ++ partlyHeld world unset done later) := by
  induction mentions with
  | nil => simp [partlyHeld] at within
  | cons mention mentions ih =>
      obtain ⟨here, later⟩ := List.forall_mem_cons.1 proper
      have behind : '$' :: name <:+: partlyHeld world unset done mentions →
          ∃ other others, other :: others <:+ mention :: mentions ∧ other.word ∉ done ∧
            '$' :: name <+: other.word ++ (other.gap ++ partlyHeld world unset done others) := by
        intro within
        obtain ⟨other, others, suffix, found⟩ := ih later within
        exact ⟨other, others, suffix.trans (List.suffix_cons _ _), found⟩
      rw [partlyHeld_cons] at within
      by_cases replaced : mention.word ∈ done
      · rw [if_pos replaced] at within
        have afterValue := Text.infix_of_infix_append (held_unmarked values _).1 within
        exact behind (Text.infix_of_infix_append here.gap afterValue)
      · rw [if_neg replaced] at within
        rcases List.infix_cons_iff.1 within with stands | inside
        · exact ⟨mention, mentions, List.suffix_rfl, replaced, stands⟩
        · have afterName := Text.infix_of_infix_append (here.not_mem (by decide)) inside
          exact behind (Text.infix_of_infix_append here.gap afterName)

/-- Neighbours in a list. -/
theorem mem_zip_tail {α : Type} {one next : α} {others items : List α}
    (suffix : one :: next :: others <:+ items) : (one, next) ∈ items.zip items.tail := by
  obtain ⟨before, rfl⟩ := suffix
  induction before with
  | nil => simp
  | cons item before ih =>
      cases before with
      | nil => simp
      | cons other before => exact List.mem_cons_of_mem _ ih

/-- What stands in front of a variable that has not been replaced is its name, if no name
can be taken for another. -/
theorem word_eq_of_prefix (unmistakable : Unmistakable mentions)
    (proper : ∀ mention ∈ mentions, mention.Proper) {other mention : Mention}
    {words : List (List Char)} {later : List Mention}
    (names : mentions.map Mention.word = done ++ other.word :: words) (member : other ∈ mentions)
    (suffix : mention :: later <:+ mentions) (left : mention.word ∉ done)
    (stands : other.word <+: mention.word ++ (mention.gap ++ partlyHeld world unset done later)) :
    mention.word = other.word := by
  have inText : mention ∈ mentions := suffix.subset List.mem_cons_self
  have begins : other.word <+: mention.word → mention.word = other.word := by
    intro begins
    have listed : mention.word ∈ other.word :: words := by
      have known : mention.word ∈ done ++ other.word :: words := names ▸ List.mem_map_of_mem inText
      exact (List.mem_append.1 known).resolve_left left
    rcases List.mem_cons.1 listed with same | after
    · exact same
    · have ordered := unmistakable.later
      rw [names] at ordered
      have first := List.rel_of_pairwise_cons (List.pairwise_append.1 ordered).2.1 after
      exact (first begins).symm
  rcases List.prefix_or_prefix_of_prefix stands (List.prefix_append _ _) with short | long
  · exact begins short
  · by_cases touches : mention.gap = [] ∧ later ≠ []
    · obtain ⟨empty, some_⟩ := touches
      obtain ⟨next, others, rfl⟩ := List.exists_cons_of_ne_nil some_
      exact unmistakable.touching _ (mem_zip_tail suffix) empty other member long
    · refine begins (Mention.prefix_of_prefix_append (proper other member) ?_ stands)
      cases gap : mention.gap with
      | cons c gap => exact .cons ((proper mention inText).ends c (by rw [gap]; rfl)) _
      | nil =>
          have last : later = [] := Classical.not_not.1 fun some_ => touches ⟨gap, some_⟩
          rw [last]
          exact .nil

/-- **Replacing one name** replaces the variables of that name. -/
theorem replaceAll_partlyHeld (values : PlainValues world)
    (proper : ∀ mention ∈ mentions, mention.Proper) {other : Mention}
    (only : ∀ mention later, mention :: later <:+ mentions → mention.word ∉ done →
      other.word <+: mention.word ++ (mention.gap ++ partlyHeld world unset done later) →
      mention.word = other.word) (value : List Char) :
    Text.replaceAll other.word value (partlyHeld world unset done mentions) =
      mentions.flatMap fun mention =>
        (if mention.word ∈ done then held world unset mention.word
          else if mention.word = other.word then value else mention.word) ++ mention.gap := by
  induction mentions with
  | nil => rfl
  | cons mention mentions ih =>
      obtain ⟨here, later⟩ := List.forall_mem_cons.1 proper
      have rest := ih later fun next others suffix =>
        only next others (suffix.trans (List.suffix_cons _ _))
      have gap := Text.replaceAll_skip_of_not_mem here.gap ('_' :: other.name) value
        (partlyHeld world unset done mentions)
      rw [← Mention.word_eq, rest] at gap
      rw [partlyHeld_cons, List.flatMap_cons, List.append_assoc]
      by_cases replaced : mention.word ∈ done
      · rw [if_pos replaced, if_pos replaced, Mention.word_eq other,
          Text.replaceAll_skip_of_not_mem (held_unmarked values _).1, ← Mention.word_eq, gap]
      · rw [if_neg replaced, if_neg replaced]
        by_cases same : mention.word = other.word
        · rw [if_pos same, same, Text.replaceAll_append other.word_ne_nil, gap]
        · have absent : ¬ other.word <+: '$' :: ('_' :: mention.name ++
              (mention.gap ++ partlyHeld world unset done mentions)) :=
            fun stands => same (only mention mentions List.suffix_rfl replaced stands)
          rw [if_neg same, mention.word_eq, List.cons_append, Text.replaceAll_cons absent,
            other.word_eq, Text.replaceAll_skip_of_not_mem (here.not_mem (by decide)),
            ← Mention.word_eq, gap]
          rfl

/-! ### One name after the other -/

/-- What becomes of a draft when a variable is put into it. -/
def putDraft (world : World) (draft : Draft) (name : List Char) : Draft :=
  if Text.contains name draft.text then
    match valueOf? world name with
    | some value => { draft with text := Text.replaceAll name value draft.text }
    | none =>
        ⟨Text.replaceAll name (marker draft.unset.length) draft.text, draft.unset ++ [name]⟩
  else draft

/-- The variables without a value among those that have been replaced. -/
structure Marked (world : World) (unset done : List (List Char)) : Prop where
  nodup : unset.Nodup
  within : ∀ word ∈ unset, word ∈ done
  all : ∀ word ∈ done, valueOf? world word = none → word ∈ unset

/-- **A draft in which some variables have been replaced.** -/
structure Drafted (world : World) (first : List Char) (mentions : List Mention)
    (done : List (List Char)) (draft : Draft) : Prop where
  text : draft.text = first ++ partlyHeld world draft.unset done mentions
  marked : Marked world draft.unset done

variable {first : List Char}

theorem Marked.held_append (marked : Marked world unset done) {word : List Char}
    (replaced : word ∈ done) (name : List Char) :
    held world (unset ++ [name]) word = held world unset word := by
  unfold held
  cases set : valueOf? world word with
  | some value => rfl
  | none => rw [List.idxOf_append_of_mem (marked.all word replaced set)]

theorem infix_partlyHeld {mention : Mention} (member : mention ∈ mentions)
    (left : mention.word ∉ done) : mention.word <:+: partlyHeld world unset done mentions := by
  obtain ⟨before, after, rfl⟩ := List.append_of_mem member
  rw [partlyHeld, List.flatMap_append, List.flatMap_cons, if_neg left, List.append_assoc]
  exact List.infix_append' _ _ _

/-- The same variables have been replaced by the same values. -/
theorem partlyHeld_congr {words : List (List Char)} (same : ∀ word, word ∈ words ↔ word ∈ done) :
    partlyHeld world unset words mentions = partlyHeld world unset done mentions := by
  simp only [partlyHeld, same]

/-- A variable that is put into a draft again is no longer there. -/
theorem drafted_putDraft_again (values : PlainValues world) (plain : '$' ∉ first)
    (proper : ∀ mention ∈ mentions, mention.Proper) (unmistakable : Unmistakable mentions)
    {other : Mention} (member : other ∈ mentions) {words : List (List Char)}
    (names : mentions.map Mention.word = done ++ other.word :: words) {draft : Draft}
    (drafted : Drafted world first mentions done draft) (again : other.word ∈ done) :
    Drafted world first mentions (done ++ [other.word]) (putDraft world draft other.word) := by
  have same : ∀ word, word ∈ done ++ [other.word] ↔ word ∈ done := by
    intro word
    rw [List.mem_append, List.mem_singleton]
    exact ⟨fun either => either.elim id fun same => same ▸ again, .inl⟩
  have absent : Text.contains other.word draft.text = false := by
    refine Bool.eq_false_iff.2 fun found => ?_
    have within := Text.infix_of_contains found
    rw [drafted.text] at within
    have behind := Text.infix_of_infix_append plain within
    obtain ⟨mention, later, suffix, left, stands⟩ := exists_mention_of_infix values proper behind
    have only := word_eq_of_prefix unmistakable proper names member suffix left stands
    exact left (only ▸ again)
  rw [putDraft, absent, if_neg Bool.false_ne_true]
  refine ⟨?_, drafted.marked.nodup, fun word inUnset => ?_, fun word replaced => ?_⟩
  · rw [drafted.text, partlyHeld_congr same]
  · exact (same word).2 (drafted.marked.within word inUnset)
  · exact drafted.marked.all word ((same word).1 replaced)

/-- **A variable that is put into a draft** is replaced there and nowhere else. -/
theorem drafted_putDraft (values : PlainValues world) (plain : '$' ∉ first)
    (proper : ∀ mention ∈ mentions, mention.Proper) (unmistakable : Unmistakable mentions)
    {word : List Char} {words : List (List Char)}
    (names : mentions.map Mention.word = done ++ word :: words) {draft : Draft}
    (drafted : Drafted world first mentions done draft) :
    Drafted world first mentions (done ++ [word]) (putDraft world draft word) := by
  obtain ⟨other, member, rfl⟩ : ∃ other ∈ mentions, other.word = word :=
    List.mem_map.1 (by rw [names]; simp)
  by_cases again : other.word ∈ done
  · exact drafted_putDraft_again values plain proper unmistakable member names drafted again
  have unmarked : other.word ∉ draft.unset := fun marked => again (drafted.marked.within _ marked)
  have present : Text.contains other.word draft.text = true := by
    rw [drafted.text]
    exact Text.contains_of_infix ((infix_partlyHeld member again).trans
      (List.suffix_append _ _).isInfix)
  have replaced : ∀ value, Text.replaceAll other.word value draft.text = first ++
      mentions.flatMap fun mention =>
        (if mention.word ∈ done then held world draft.unset mention.word
          else if mention.word = other.word then value else mention.word) ++ mention.gap := by
    intro value
    rw [drafted.text, other.word_eq, Text.replaceAll_skip_of_not_mem plain, ← other.word_eq,
      replaceAll_partlyHeld values proper fun _ _ =>
        word_eq_of_prefix unmistakable proper names member]
  rw [putDraft, present, if_pos rfl]
  cases set : valueOf? world other.word with
  | some value =>
      refine ⟨?_, drafted.marked.nodup, fun word inUnset => ?_, fun word inDone unset => ?_⟩
      · refine (replaced value).trans ?_
        refine congrArg (first ++ ·) (List.flatMap_congr fun mention _ => ?_)
        by_cases before : mention.word ∈ done
        · simp [before]
        · by_cases same : mention.word = other.word
          · simp [same, again, held, set]
          · simp [before, same]
      · exact List.mem_append_left _ (drafted.marked.within word inUnset)
      · rcases List.mem_append.1 inDone with before | now
        · exact drafted.marked.all word before unset
        · obtain rfl := List.mem_singleton.1 now
          rw [set] at unset
          nomatch unset
  | none =>
      refine ⟨?_, ?_, fun word inUnset => ?_, fun word inDone unset => ?_⟩
      · refine (replaced _).trans ?_
        refine congrArg (first ++ ·) (List.flatMap_congr fun mention _ => ?_)
        by_cases before : mention.word ∈ done
        · simp [before, drafted.marked.held_append before]
        · by_cases same : mention.word = other.word
          · simp [same, again, held, set, List.idxOf_append_of_notMem unmarked]
          · simp [before, same]
      · exact List.nodup_append.2 ⟨drafted.marked.nodup, List.pairwise_singleton _ _, by
          rintro word inUnset _ now rfl
          exact unmarked (List.mem_singleton.1 now ▸ inUnset)⟩
      · refine List.mem_append.2 ((List.mem_append.1 inUnset).imp ?_ id)
        exact drafted.marked.within word
      · refine List.mem_append.2 ((List.mem_append.1 inDone).imp (fun before => ?_) id)
        exact drafted.marked.all word before unset

theorem drafted_foldl (values : PlainValues world) (plain : '$' ∉ first)
    (proper : ∀ mention ∈ mentions, mention.Proper) (unmistakable : Unmistakable mentions)
    {words : List (List Char)} (names : mentions.map Mention.word = done ++ words) {draft : Draft}
    (drafted : Drafted world first mentions done draft) :
    Drafted world first mentions (mentions.map Mention.word)
      (words.foldl (putDraft world) draft) := by
  induction words generalizing done draft with
  | nil =>
      rw [List.append_nil] at names
      rwa [names]
  | cons word words ih =>
      have next := drafted_putDraft values plain proper unmistakable names drafted
      exact ih (by rw [names, List.append_assoc]; rfl) next

end ChatTemplate.Overlay
