/-
# ChatTemplate.Proofs.OverlayVariables -- variables in an overlay

The text of an overlay in which values and markers hold the places of the variables is
rendered and then gets the names of the variables for their markers.  The edges of two
markers can be taken for a third marker if there are but digits between them; where that
is not so (`Separate`), every marker is replaced by the name of its variable
(`restore_held`).

Main statement: `render_shows_variables`.  What becomes of other texts is seen in
`variables_are_taken_for_others`.
-/
import ChatTemplate.Proofs.CharCodes
import ChatTemplate.Proofs.DialogueFold
import ChatTemplate.Proofs.Ignored
import ChatTemplate.Proofs.OverlayDraft
import ChatTemplate.World.Host

namespace ChatTemplate.Overlay

set_option autoImplicit false

variable {world : World} {mentions : List Mention} {unset : List (List Char)} {first : List Char}

/-! ## Markers that cannot be mistaken -/

/-- What an overlay shows of a variable: its value or, if it is not set, its name. -/
def shown (world : World) (word : List Char) : List Char :=
  (valueOf? world word).getD (emphasised word)

/-- What an overlay shows before the next variable that is not set, if there is one. -/
def beforeUnset? (world : World) : List Mention → Option (List Char)
  | [] => none
  | mention :: mentions =>
      match valueOf? world mention.word with
      | some value => (beforeUnset? world mentions).map fun text => value ++ (mention.gap ++ text)
      | none => some []

/-- **No marker is taken for another**: between two variables that are not set there is
nothing at all, or something that is no digit. -/
def Separate (world : World) : List Mention → Prop
  | [] => True
  | mention :: mentions =>
      (valueOf? world mention.word = none → ∀ text ∈ beforeUnset? world mentions,
        mention.gap ++ text = [] ∨ ∃ c ∈ mention.gap ++ text, c.isDigit = false) ∧
        Separate world mentions

instance decidableSeparate (world : World) :
    (mentions : List Mention) → Decidable (Separate world mentions)
  | [] => inferInstanceAs (Decidable True)
  | _ :: mentions =>
      have := decidableSeparate world mentions
      inferInstanceAs (Decidable (_ ∧ _))

/-! ## Putting names in place of markers -/

/-- What holds the place of a variable when some markers have been replaced. -/
def heldFrom (world : World) (unset : List (List Char)) (n : Nat) (word : List Char) : List Char :=
  (valueOf? world word).getD
    (if unset.idxOf word < n then emphasised word else marker (unset.idxOf word))

/-- The text in which some markers have been replaced, from the first variable on. -/
def partlyRestored (world : World) (unset : List (List Char)) (n : Nat)
    (mentions : List Mention) : List Char :=
  mentions.flatMap fun mention => heldFrom world unset n mention.word ++ mention.gap

theorem partlyRestored_cons (n : Nat) (mention : Mention) :
    partlyRestored world unset n (mention :: mentions) =
      heldFrom world unset n mention.word ++
        (mention.gap ++ partlyRestored world unset n mentions) := by
  rw [partlyRestored, List.flatMap_cons, List.append_assoc]
  rfl

theorem edge_not_mem_emphasised {mention : Mention} (proper : mention.Proper) :
    markerEdge ∉ emphasised mention.word := by
  have inName := proper.not_mem (show Text.isNameChar markerEdge = false by decide)
  have inWord : markerEdge ∉ mention.word := by
    rw [mention.word_eq]
    exact List.not_mem_cons_of_ne_of_not_mem (by decide) inName
  have opening : markerEdge ∉ "<strong>".toList := by decide
  have closing : markerEdge ∉ "</strong>".toList := by decide
  have opened : markerEdge ∉ "<strong>".toList ++ mention.word :=
    fun member => (List.mem_append.1 member).elim opening inWord
  exact fun member => (List.mem_append.1 member).elim opened closing

/-- A character that a text does not have is found behind it. -/
theorem exists_behind {c : Char} {text digits rest : List Char} (absent : c ∉ text)
    (stands : digits ++ [c] <+: text ++ rest) :
    ∃ more, digits = text ++ more ∧ more ++ [c] <+: rest := by
  obtain ⟨after, same⟩ := stands
  rw [List.append_assoc] at same
  rcases List.append_eq_append_iff.1 same with ⟨beyond, whole, later⟩ | ⟨more, whole, later⟩
  · cases beyond with
    | nil => exact ⟨[], by simpa using whole.symm, ⟨after, later⟩⟩
    | cons d beyond =>
        obtain rfl : c = d := (List.cons.inj later).1
        exact absurd (by simp [whole]) absent
  · exact ⟨more, whole, ⟨after, by rw [later, List.append_assoc]⟩⟩

/-- Digits before the edge of a marker are all that stands before the next variable that is
not set. -/
theorem beforeUnset_of_prefix (values : PlainValues world)
    (gaps : ∀ mention ∈ mentions, markerEdge ∉ mention.gap) {n : Nat} {digits : List Char}
    (all : ∀ c ∈ digits, c.isDigit = true)
    (stands : digits ++ [markerEdge] <+: partlyRestored world unset n mentions) :
    beforeUnset? world mentions = some digits := by
  induction mentions generalizing digits with
  | nil => simp [partlyRestored] at stands
  | cons mention mentions ih =>
      obtain ⟨here, later⟩ := List.forall_mem_cons.1 gaps
      rw [partlyRestored_cons, heldFrom] at stands
      rw [beforeUnset?]
      cases set : valueOf? world mention.word with
      | some value =>
          rw [set, Option.getD_some] at stands
          obtain ⟨more, rfl, afterValue⟩ := exists_behind (values.plain set).2.2.2 stands
          obtain ⟨more, rfl, afterGap⟩ := exists_behind here afterValue
          simp only [List.forall_mem_append] at all
          rw [ih later all.2.2 afterGap]
          rfl
      | none =>
          rw [set, Option.getD_none] at stands
          cases digits with
          | nil => rfl
          | cons d digits =>
              have digit : d.isDigit = true := all d List.mem_cons_self
              rw [List.cons_append] at stands
              split at stands
              · obtain rfl : d = '<' := (List.cons_prefix_cons.1 stands).1
                exact absurd digit (by decide)
              · obtain rfl : d = markerEdge := (List.cons_prefix_cons.1 stands).1
                exact absurd digit (by decide)

theorem marker_eq (n : Nat) : marker n = markerEdge :: (Text.writeNat n ++ [markerEdge]) := rfl

theorem marker_ne_nil (n : Nat) : marker n ≠ [] := List.cons_ne_nil _ _

theorem writeNat_injective {n m : Nat} (same : Text.writeNat n = Text.writeNat m) : n = m := by
  have read := congrArg (Nat.ofDigitChars 10 · 0) same
  simpa only [Text.writeNat, Nat.ofDigitChars_ten_toDigits] using read

theorem edge_not_mem_writeNat (n : Nat) : markerEdge ∉ Text.writeNat n := fun member =>
  absurd (Text.isDigit_of_mem_writeNat member) (by decide)

/-- One marker is not taken for another, nor is its edge and what follows it. -/
theorem marker_absent (values : PlainValues world) {mention : Mention}
    (gaps : ∀ other ∈ mention :: mentions, markerEdge ∉ other.gap)
    (separate : Separate world (mention :: mentions)) (missing : valueOf? world mention.word = none)
    {n m : Nat} (apart : n ≠ m) {later : List Char} (suffix : later <:+ marker m)
    (some_ : later ≠ []) :
    ¬ marker n <+: later ++ (mention.gap ++ partlyRestored world unset n mentions) := by
  obtain ⟨here, others⟩ := List.forall_mem_cons.1 gaps
  intro stands
  rw [marker_eq] at suffix stands
  rcases List.suffix_cons_iff.1 suffix with rfl | inside
  · -- at the edge in front
    rw [List.cons_append, List.append_assoc] at stands
    have digits := (List.cons_prefix_cons.1 stands).2
    obtain ⟨more, same, behind⟩ := exists_behind (edge_not_mem_writeNat m) digits
    cases more with
    | nil => exact apart (writeNat_injective (by simpa using same))
    | cons c more =>
        obtain rfl : c = markerEdge := (List.cons_prefix_cons.1 behind).1
        exact edge_not_mem_writeNat n (by simp [same])
  · rcases List.suffix_concat_iff.1 inside with rfl | ⟨digits, rfl, within⟩
    · exact some_ rfl
    · cases digits with
      | cons c digits =>
          -- inside
          obtain rfl : markerEdge = c := (List.cons_prefix_cons.1 stands).1
          exact edge_not_mem_writeNat m (within.subset List.mem_cons_self)
      | nil =>
          -- at the edge behind
          have afterEdge := (List.cons_prefix_cons.1 stands).2
          obtain ⟨more, same, behind⟩ := exists_behind here afterEdge
          have all : ∀ c ∈ more, c.isDigit = true := fun c member =>
            Text.isDigit_of_mem_writeNat (show c ∈ Text.writeNat n by simp [same, member])
          have between := beforeUnset_of_prefix values others all behind
          rcases separate.1 missing more between with empty | other
          · exact Nat.toDigits_ne_nil (same.trans empty)
          · obtain ⟨c, member, noDigit⟩ := other
            rw [← same] at member
            rw [Text.isDigit_of_mem_writeNat member] at noDigit
            nomatch noDigit

/-- **Replacing one marker** puts the name of its variable in its place. -/
theorem replaceAll_partlyRestored (values : PlainValues world)
    (proper : ∀ mention ∈ mentions, mention.Proper)
    (gaps : ∀ mention ∈ mentions, markerEdge ∉ mention.gap) (separate : Separate world mentions)
    (known : ∀ mention ∈ mentions, valueOf? world mention.word = none → mention.word ∈ unset)
    {n : Nat} {word : List Char} (nth : unset[n]? = some word) :
    Text.replaceAll (marker n) (emphasised word) (partlyRestored world unset n mentions) =
      partlyRestored world unset (n + 1) mentions := by
  induction mentions with
  | nil => rfl
  | cons mention mentions ih =>
      obtain ⟨properHere, properLater⟩ := List.forall_mem_cons.1 proper
      obtain ⟨gapHere, gapsLater⟩ := List.forall_mem_cons.1 gaps
      obtain ⟨knownHere, knownLater⟩ := List.forall_mem_cons.1 known
      have rest := ih properLater gapsLater separate.2 knownLater
      have skip : ∀ gap text, markerEdge ∉ gap → Text.replaceAll (marker n) (emphasised word)
          (gap ++ text) = gap ++ Text.replaceAll (marker n) (emphasised word) text :=
        fun gap text absent => Text.replaceAll_skip_of_not_mem absent _ _ text
      rw [partlyRestored_cons, partlyRestored_cons, heldFrom, heldFrom]
      cases set : valueOf? world mention.word with
      | some value =>
          rw [Option.getD_some, Option.getD_some, skip _ _ (values.plain set).2.2.2,
            skip _ _ gapHere, rest]
      | none =>
          have listed : mention.word ∈ unset := knownHere set
          rw [Option.getD_none, Option.getD_none]
          rcases Nat.lt_trichotomy (unset.idxOf mention.word) n with before | now | after
          · rw [if_pos before, if_pos (by omega), skip _ _ (edge_not_mem_emphasised properHere),
              skip _ _ gapHere, rest]
          · have found := List.getElem?_idxOf listed
            rw [now, nth] at found
            obtain rfl := Option.some.inj found
            rw [if_neg (by omega), if_pos (by omega), now,
              Text.replaceAll_append (marker_ne_nil n), skip _ _ gapHere, rest]
          · rw [if_neg (by omega), if_neg (by omega),
              Text.replaceAll_skip fun later suffix some_ =>
                marker_absent values gaps separate set (Nat.ne_of_lt after) suffix some_,
              skip _ _ gapHere, rest]

/-- **All markers are replaced** by the names of their variables. -/
theorem restore_held (values : PlainValues world) (plain : markerEdge ∉ first)
    (proper : ∀ mention ∈ mentions, mention.Proper)
    (gaps : ∀ mention ∈ mentions, markerEdge ∉ mention.gap) (separate : Separate world mentions)
    (marked : Marked world unset (mentions.map Mention.word)) :
    restore unset (first ++ partlyHeld world unset (mentions.map Mention.word) mentions) =
      first ++ mentions.flatMap fun mention => shown world mention.word ++ mention.gap := by
  have known : ∀ mention ∈ mentions, valueOf? world mention.word = none → mention.word ∈ unset :=
    fun mention member => marked.all _ (List.mem_map_of_mem member)
  have start : partlyHeld world unset (mentions.map Mention.word) mentions =
      partlyRestored world unset 0 mentions :=
    List.flatMap_congr fun mention member => by
      rw [if_pos (List.mem_map_of_mem member)]
      rfl
  have final : partlyRestored world unset unset.length mentions =
      mentions.flatMap fun mention => shown world mention.word ++ mention.gap := by
    refine List.flatMap_congr fun mention member => ?_
    unfold heldFrom shown
    cases set : valueOf? world mention.word with
    | some value => rfl
    | none => simp [List.idxOf_lt_length_of_mem (known mention member set)]
  have along : ∀ (words : List (List Char)) (n : Nat), unset.drop n = words →
      (words.zipIdx n).foldl
          (fun text item => Text.replaceAll (marker item.2) (emphasised item.1) text)
          (first ++ partlyRestored world unset n mentions) =
        first ++ partlyRestored world unset (n + words.length) mentions := by
    intro words
    induction words with
    | nil => exact fun n _ => rfl
    | cons word words ih =>
        intro n left
        have nth : unset[n]? = some word := by
          rw [← List.head?_drop, left]
          rfl
        have next : unset.drop (n + 1) = words := by
          rw [← List.tail_drop, left]
          rfl
        rw [List.zipIdx_cons, List.foldl_cons, marker_eq,
          Text.replaceAll_skip_of_not_mem plain, ← marker_eq,
          replaceAll_partlyRestored values proper gaps separate known nth, ih (n + 1) next,
          List.length_cons, Nat.add_right_comm, Nat.add_assoc]
  rw [restore, start, along unset 0 rfl, Nat.zero_add, final]

/-! ## Overlays -/

section

variable {host : Host} (up : Collaborator.customs ∉ host.down)
include up

theorem run_putVariable (draft : Draft) (name : List Char) :
    host.run (Chat.attempt (putVariable draft name)) world =
      (.ok (putDraft world draft name), world) := by
  have isSet : host.answer (.isVariableSet (String.ofList name)) world =
      (.ok (world.customs.contains (String.ofList name)), world) :=
    Host.answer_of_responsible rfl up world
  have read : host.answer (.readVariable (String.ofList name)) world =
      (.ok (world.variableValue (String.ofList name)), world) :=
    Host.answer_of_responsible rfl up world
  unfold putVariable putDraft
  cases present : Text.contains name draft.text with
  | false => rfl
  | true =>
      have asked : ∀ next : Bool → Chat Draft,
          host.run (Chat.attempt (Chat.ask (Query.put (.isVariableSet (String.ofList name))) >>=
            next)) world =
            host.run (Chat.attempt (next (world.customs.contains (String.ofList name)))) world :=
        fun next => Chat.run_bind_of_ok isSet
      rw [valueOf?]
      cases known : world.customs.contains (String.ofList name) with
      | false =>
          refine (asked _).trans ?_
          rw [known]
          rfl
      | true =>
          refine (asked _).trans ?_
          rw [known]
          exact Chat.run_bind_of_ok read

omit up in
theorem unmarked_of_held (values : PlainValues world) (plain : Plain first)
    (gaps : ∀ mention ∈ mentions, Plain mention.gap) :
    let text := first ++ partlyHeld world unset (mentions.map Mention.word) mentions
    '$' ∉ text ∧ '(' ∉ text ∧ '&' ∉ text := by
  have part : ∀ c, c ∉ first → (∀ mention ∈ mentions, c ∉ held world unset mention.word ∧
      c ∉ mention.gap) →
      c ∉ first ++ partlyHeld world unset (mentions.map Mention.word) mentions := by
    intro c inFirst absent member
    rcases List.mem_append.1 member with member | member
    · exact inFirst member
    · obtain ⟨mention, inText, member⟩ := List.mem_flatMap.1 member
      rw [if_pos (List.mem_map_of_mem inText)] at member
      exact (List.mem_append.1 member).elim (absent mention inText).1 (absent mention inText).2
  refine ⟨part _ plain.1 fun mention member => ?_, part _ plain.2.1 fun mention member => ?_,
    part _ plain.2.2.1 fun mention member => ?_⟩
  · exact ⟨(held_unmarked values _).1, (gaps mention member).1⟩
  · exact ⟨(held_unmarked values _).2.1, (gaps mention member).2.1⟩
  · exact ⟨(held_unmarked values _).2.2, (gaps mention member).2.2.1⟩

/-- **An overlay shows its variables at their own places.**  For a text with variables in
which else nothing is a token, a reference or a marker, and for values of which the same
is true, an overlay replaces every variable by its value or, if it is not set, by its
emphasised name; all other text stays as it is, and so does the world.  No name must be
taken for another, and no marker. -/
theorem render_shows_variables (settings : Settings) (values : PlainValues world)
    (plain : Plain first) (proper : ∀ mention ∈ mentions, mention.Proper ∧ Plain mention.gap)
    (unmistakable : Unmistakable mentions) (separate : Separate world mentions) :
    host.run (Chat.attempt (render settings (first ++ writeMentions mentions))) world =
      (.ok (first ++ mentions.flatMap fun mention => shown world mention.word ++ mention.gap),
        world) := by
  have named : ∀ mention ∈ mentions, mention.Proper := fun mention member =>
    (proper mention member).1
  have gaps : ∀ mention ∈ mentions, markerEdge ∉ mention.gap := fun mention member =>
    (proper mention member).2.2.2.2
  have names : mentions.map Mention.word = [] ++ mentions.map Mention.word := rfl
  have start : Drafted world first mentions [] { text := first ++ writeMentions mentions } := by
    refine ⟨?_, List.nodup_nil, by simp, by simp⟩
    simp [partlyHeld, writeMentions]
  have drafted := drafted_foldl values plain.1 named unmistakable names start
  have found : (Chat.attempt ((mentions.map Mention.word).foldlM putVariable
        { text := first ++ writeMentions mentions })).run host.answer world =
      (.ok ((mentions.map Mention.word).foldl (putDraft world)
        { text := first ++ writeMentions mentions }), world) :=
    Chat.run_foldlM_of_ok (run_putVariable up) _ _
  generalize (mentions.map Mention.word).foldl (putDraft world) _ = draft at drafted found
  obtain ⟨text, unset⟩ := draft
  obtain ⟨written, marked⟩ := drafted
  dsimp only at written marked
  obtain ⟨dollar, paren, ampersand⟩ : '$' ∉ text ∧ '(' ∉ text ∧ '&' ∉ text := by
    rw [written]
    exact unmarked_of_held values plain fun mention member => (proper mention member).2
  have rendered : Message.render settings {} text = .done text :=
    Message.render_plain settings {} dollar paren ampersand
  rw [render, findAll_mentions plain.1 named]
  refine (Chat.run_bind_of_ok found).trans ?_
  rw [rendered, ← restore_held values plain.2.2.2 named gaps separate marked, ← written]
  rfl

end

/-! ## Some overlays -/

/-- A world with some variables. -/
def setting (customs : List (String × String)) : World where
  customs := ⟨customs.map fun custom => (custom.1, { value := custom.2 })⟩

/-- What an overlay makes of a text when nobody is down. -/
def rendered (customs : List (String × String)) (text : List Char) : Option (List Char) :=
  let host : Host := { sources := fun _ => { rolls := id } }
  (host.run (Chat.attempt (render {} text)) (setting customs)).1.toOption

theorem wins_are_shown :
    let customs := [("$_win", "2"), ("$_wins", "35")]
    let mentions : List Mention :=
      [⟨"wins".toList, ", ".toList⟩, ⟨"win".toList, ":".toList⟩, ⟨"x".toList, []⟩, ⟨"y".toList, []⟩]
    (Plain [] ∧ PlainValues (setting customs) ∧ Unmistakable mentions ∧
        Separate (setting customs) mentions ∧
        ∀ mention ∈ mentions, mention.Proper ∧ Plain mention.gap) ∧
      rendered customs "$_wins, $_win:$_x$_y".toList =
        some "35, 2:<strong>$_x</strong><strong>$_y</strong>".toList := by
  intro customs mentions
  have fits : Plain [] ∧ PlainValues (setting customs) ∧ Unmistakable mentions ∧
      Separate (setting customs) mentions ∧
      ∀ mention ∈ mentions, mention.Proper ∧ Plain mention.gap := by decide
  have written : "$_wins, $_win:$_x$_y".toList = [] ++ writeMentions mentions := by decide
  have shows : "35, 2:<strong>$_x</strong><strong>$_y</strong>".toList =
      [] ++ mentions.flatMap fun mention =>
        shown (setting customs) mention.word ++ mention.gap := by decide
  obtain ⟨plain, values, unmistakable, separate, proper⟩ := fits
  refine ⟨⟨plain, values, unmistakable, separate, proper⟩, ?_⟩
  rw [written, shows, rendered,
    render_shows_variables List.not_mem_nil {} values plain proper unmistakable separate]
  rfl

/-- A name with which a later one begins, a name that becomes another one with the value
after it, and a value between two variables that are not set. -/
theorem variables_are_taken_for_others :
    rendered [("$_a", "1"), ("$_ab", "2")] "$_a $_ab".toList = some "1 1b".toList ∧
      rendered [("$_a", "1"), ("$_ab", "2"), ("$_v", "b")] "$_v $_ab $_a$_v".toList =
        some "b 2 2".toList ∧
      rendered [("$_v", "0")] "$_x $_a$_v$_a".toList =
        some "<strong>$_x</strong> \x011<strong>$_x</strong>1\x01".toList ∧
      ¬ ∀ customs first mentions, PlainValues (setting customs) → Plain first →
        (∀ mention ∈ mentions, mention.Proper ∧ Plain mention.gap) →
        rendered customs (first ++ writeMentions mentions) =
          some (first ++ mentions.flatMap fun mention =>
            shown (setting customs) mention.word ++ mention.gap) := by
  have later : rendered [("$_a", "1"), ("$_ab", "2")] "$_a $_ab".toList = some "1 1b".toList := by
    decide +kernel
  refine ⟨later, by decide +kernel, by decide +kernel, fun all => ?_⟩
  have claimed := all [("$_a", "1"), ("$_ab", "2")] [] [⟨"a".toList, " ".toList⟩, ⟨"ab".toList, []⟩]
    (by decide) (by decide) (by decide)
  have written : [] ++ writeMentions [⟨"a".toList, " ".toList⟩, ⟨"ab".toList, []⟩] =
      "$_a $_ab".toList := by decide
  rw [written, later] at claimed
  exact absurd claimed (by decide)

end ChatTemplate.Overlay
