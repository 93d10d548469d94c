/-
# ChatTemplate.Proofs.OneToken -- messages with one token in them

Let a token begin in a message at one place only, and let the text from there on be known
(`BeginsOnlyWith`).  A stage can have a match in the message only if one of its keys can be
compared with that text.  So the message passes by all stages whose keys cannot
(`Stage.ignores_of_apart`), and the rule that the token belongs to has one match in it
(`Template.findAll_single`).

* `Pipeline.Place`: what is known of a rule that an opening belongs to;
* `Template.matchLength_closed`: a match goes as far as the character that closes it;
* `Message.runStages_of_value`: nothing is done with a value in which no token begins.

Main statement: `Message.render_of_one_token`.
-/
import ChatTemplate.Proofs.Substitution

namespace ChatTemplate

set_option autoImplicit false

/-! ## Where a token can begin -/

theorem BeginsNoToken.append {one other : List Char} (first : BeginsNoToken one)
    (second : BeginsNoToken other) : BeginsNoToken (one ++ other) := by
  simp only [BeginsNoToken, List.mem_append, not_or] at *
  exact ⟨⟨first.1, second.1⟩, first.2, second.2⟩

theorem BeginsNoToken.trim {text : List Char} (plain : BeginsNoToken text) :
    BeginsNoToken (Text.trim text) :=
  ⟨fun member => plain.1 (Text.mem_of_mem_trim member),
    fun member => plain.2 (Text.mem_of_mem_trim member)⟩

theorem Text.not_blank_of_mem {text : List Char} {c : Char} (member : c ∈ text)
    (solid : isBlank c = false) : isBlankText text = false :=
  List.all_eq_false.2 ⟨c, member, by simp [solid]⟩

/-- One text begins like the other. -/
def Comparable (one other : List Char) : Prop :=
  one <+: other ∨ other <+: one

instance (one other : List Char) : Decidable (Comparable one other) :=
  inferInstanceAs (Decidable (_ ∨ _))

/-- **A token begins in a text at one place only**, where some opening stands. -/
structure BeginsOnlyWith (opening text : List Char) : Prop where
  split : ∃ before after, text = before ++ opening ++ after ∧ BeginsNoToken before ∧
    BeginsNoToken (opening.tail ++ after)

variable {opening text : List Char}

/-- Whatever begins like a token and stands in the text can be compared with the opening. -/
theorem BeginsOnlyWith.comparable (only : BeginsOnlyWith opening text) {key : List Char}
    (token : key.head? = some '$' ∨ key.head? = some '(') (found : key <:+: text) :
    Comparable key opening := by
  obtain ⟨before, after, rfl, here, behind⟩ := only.split
  obtain ⟨mark, rest, rfl, begins⟩ : ∃ mark rest, key = mark :: rest ∧ (mark = '$' ∨ mark = '(') := by
    cases key with
    | nil => simp at token
    | cons mark rest => exact ⟨mark, rest, rfl, by simpa using token⟩
  have absent : ∀ {text : List Char}, BeginsNoToken text → mark ∉ text := by
    intro text plain
    rcases begins with rfl | rfl
    · exact plain.1
    · exact plain.2
  rw [List.append_assoc] at found
  have stands : mark :: rest <:+: opening ++ after :=
    Text.infix_of_infix_append (absent here) found
  cases opening with
  | nil => exact .inr List.nil_prefix
  | cons first opening =>
      rcases List.infix_cons_iff.1 stands with now | later
      · exact List.prefix_or_prefix_of_prefix now (List.prefix_append (first :: opening) after)
      · exact absurd (later.subset List.mem_cons_self) (absent behind)

/-- The texts with which the matches of a stage begin. -/
def Stage.keys : Stage → List (List Char)
  | .placeholders => Placeholder.all.map Placeholder.key
  | stage => stage.templates.map Template.stem

/-- A stage looks for nothing that could begin where the opening stands.  The last two kinds of
stages do not look for keys. -/
def Stage.Apart (opening : List Char) (stage : Stage) : Prop :=
  (∀ key ∈ stage.keys, ¬ Comparable key opening) ∧ stage ≠ .attributes ∧ stage ≠ .page

instance (opening : List Char) (stage : Stage) : Decidable (stage.Apart opening) :=
  inferInstanceAs (Decidable (_ ∧ _))

/-- **A stage passes over a message that none of its keys could begin in.** -/
theorem Stage.ignores_of_apart {stage : Stage} (standard : stage ∈ Pipeline.stages)
    (apart : stage.Apart opening) (only : BeginsOnlyWith opening text)
    (decoded : CharReference.decode text = text) : stage.Ignores text := by
  obtain ⟨keys, notAttributes, notPage⟩ := apart
  have absent : ∀ template ∈ stage.templates,
      (stage.keys = stage.templates.map Template.stem) → template.findAll text = [] := by
    intro template member listed
    refine Template.findAll_eq_nil fun found => ?_
    have comparable := only.comparable (stem_head standard member) found
    exact keys template.stem (listed ▸ List.mem_map_of_mem member) comparable
  cases stage with
  | placeholders =>
      refine ⟨List.filter_eq_nil_iff.2 fun placeholder member found => ?_, decoded⟩
      have comparable :=
        only.comparable (.inl placeholder.head_key) (Text.infix_of_contains found)
      exact keys placeholder.key (List.mem_map_of_mem member) comparable
  | pass name policy rules => exact fun rule member => absent _ (List.mem_map_of_mem member) rfl
  | gates name rules => exact fun rule member => absent _ (List.mem_map_of_mem member) rfl
  | attributes => exact absurd rfl notAttributes
  | page => exact absurd rfl notPage

/-! ## One match -/

/-- **A match goes as far as the character that closes it**, if that stands at the end only. -/
theorem Pattern.matchLength_closed {pattern : Pattern} {inside : List Char} {stop : Char}
    (anywhere : .boundary ∉ pattern) (admits : pattern.Admits (inside ++ [stop]))
    (ends : pattern.EndsIn (· = stop)) (once : stop ∉ inside) (before : Option Char) :
    pattern.matchLength? before (inside ++ [stop]) = some (inside.length + 1) := by
  have found := matchLength_isSome anywhere admits before []
  rw [List.append_nil] at found
  obtain ⟨n, here⟩ := Option.isSome_iff_exists.1 found
  obtain ⟨within, -⟩ := admits_of_matchLength here
  obtain ⟨c, last, rfl⟩ := ends before _ n here
  rw [List.length_append, List.length_singleton] at within
  rw [here, Option.some.injEq]
  by_contra short
  have fewer : n ≤ inside.length := by omega
  rw [List.take_append_of_le_length fewer] at last
  exact once ((List.take_prefix n inside).subset (List.mem_of_getLast? last))

namespace Template

variable {template : Template} {mark : Char} {before token after : List Char}

/-- **One match, and nothing else.**  What a template begins with stands at one place, and
there a token matches. -/
theorem findAll_single (begins : template.stem.head? = some mark) (here : mark ∉ before)
    (behind : mark ∉ after) (nonempty : token ≠ [])
    (matched : ∀ previous,
      template.pattern.matchLength? previous (token ++ after) = some token.length) :
    template.findAll (before ++ token ++ after) = [token] := by
  obtain ⟨rest, stem⟩ := List.head?_eq_some_iff.1 begins
  have fails : ∀ gap text, mark ∉ gap → ∀ later, later <:+ gap → later ≠ [] → ∀ previous,
      template.pattern.matchLength? previous (later ++ text) = none := by
    intro gap text absent later suffix left previous
    obtain ⟨c, later, rfl⟩ := List.exists_cons_of_ne_nil left
    rw [pattern_eq, stem]
    refine Pattern.matchLength_literal_eq_none (fun stands => ?_) template.body previous
    obtain rfl : mark = c := (List.cons_prefix_cons.1 stands).1
    exact absent (suffix.subset List.mem_cons_self)
  have advances : template.pattern.matchLength?.Advances :=
    matchLength_advances (by rw [stem]; exact List.cons_ne_nil _ _)
  have nothing : template.pattern.matchLength?.Lists (after ++ []) [] :=
    .skip (.nil advances) (fails after [] behind)
  rw [List.append_nil] at nothing
  have one : template.pattern.matchLength?.Lists (before ++ (token ++ after)) [token] :=
    .skip (.hit nothing nonempty matched) (fails before (token ++ after) here)
  rw [List.append_assoc]
  exact findAll_of_lists one

/-- **An instance is matched up to the character that closes its template**, if that stands at
the end only. -/
theorem matchLength_closed {inside : List Char} {stop : Char} (anywhere : template.wildcard ≠ .word)
    (ends : template.text.toList.getLast? = some stop) (literal : stop ≠ Template.mark)
    (filled : template.IsInstance (inside ++ [stop])) (once : stop ∉ inside)
    (previous : Option Char) :
    template.pattern.matchLength? previous (inside ++ [stop]) = some (inside.length + 1) := by
  obtain ⟨start, split⟩ := List.getLast?_eq_some_iff.1 ends
  have last : Pattern.EndsIn (· = stop) [.char stop] := Pattern.endsIn_char rfl
  have closes : template.pattern.EndsIn (· = stop) := by
    rw [pattern, split, List.flatMap_append, List.flatMap_singleton, if_neg literal]
    exact last.append _
  exact Pattern.matchLength_closed (boundary_not_mem_pattern anywhere)
    (admits_pattern_iff.2 filled) closes once previous

/-- A template without wildcards matches its own text. -/
theorem matchLength_fixed (whole : template.body = []) (previous : Option Char) :
    template.pattern.matchLength? previous (template.stem ++ after) =
      some template.stem.length := by
  rw [pattern_eq, whole]
  exact Pattern.matchLength_literal (fun _ => by rw [Pattern.matchLength?]) previous

end Template

/-! ## The message -/

/-- **The place of a rule in the pipeline**: nothing that is looked for before it could begin
where the opening stands. -/
structure Pipeline.Place (rule : Rule Token) (opening : List Char) where
  early : List Stage
  name : String
  passed : List (Rule Token)
  left : List (Rule Token)
  later : List Stage
  stages : early ++ .pass name .clearWhenEmpty (passed ++ rule :: left) :: later = Pipeline.stages
  apart : ∀ stage ∈ early, stage.Apart opening
  others : ∀ rule ∈ passed, ¬ Comparable rule.template.stem opening
  decoded : .placeholders ∉ later

namespace Pipeline.Place

variable {rule : Rule Token} (place : Place rule opening)

def stage : Stage :=
  .pass place.name .clearWhenEmpty (place.passed ++ rule :: place.left)

theorem stage_mem : place.stage ∈ Pipeline.stages := by
  rw [← place.stages]
  exact List.mem_append_right _ List.mem_cons_self

theorem template_mem : rule.template ∈ place.stage.templates :=
  List.mem_map_of_mem (List.mem_append_right _ List.mem_cons_self)

theorem early_mem {stage : Stage} (member : stage ∈ place.early) : stage ∈ Pipeline.stages := by
  rw [← place.stages]
  exact List.mem_append_left _ member

theorem later_mem {stage : Stage} (member : stage ∈ place.later) : stage ∈ Pipeline.stages := by
  rw [← place.stages]
  exact List.mem_append_right _ (List.mem_cons_of_mem _ member)

end Pipeline.Place

namespace Message

variable {settings : Settings} {context : Context} {rule : Rule Token} {token : List Char}

/-- What is left of a pass, and the stages after it, leave a value alone in which no token
begins. -/
theorem runStages_of_value (place : Pipeline.Place rule opening) {value : List Char}
    (plain : BeginsNoToken value) :
    (place.left.foldlM (runRule settings context .clearWhenEmpty) value >>=
      runStages settings context place.later) = .done value := by
  have ignores : Stage.Ignores value place.stage :=
    Stage.ignores_of_no_token place.stage_mem plain.1 plain.2 nofun
  have rulesLeft : place.left.foldlM (runRule settings context .clearWhenEmpty) value =
      .done value :=
    Dialogue.foldlM_eq_done fun rule member =>
      runRule_of_no_match (ignores rule (List.mem_append_right _ (List.mem_cons_of_mem _ member)))
  have stagesLeft : runStages settings context place.later value = .done value := by
    refine runStages_of_ignores fun stage member => ?_
    refine Stage.ignores_of_no_token (place.later_mem member) plain.1 plain.2 fun first => ?_
    exact absurd (first ▸ member) place.decoded
  rw [rulesLeft]
  exact stagesLeft

/-- A message with one match is what this is resolved to, as the rules and the stages take it
that are left. -/
theorem render_of_one_match (place : Pipeline.Place rule opening)
    (only : BeginsOnlyWith opening text) (decoded : CharReference.decode text = text)
    (shown : Text.isBlankText text = false) (matched : rule.template.findAll text = [token]) :
    render settings context text =
      Chat.attempt (resolve settings context rule.token token) >>= fun result =>
        place.left.foldlM (runRule settings context .clearWhenEmpty)
          (settle .clearWhenEmpty token result.toOption text) >>=
        runStages settings context place.later := by
  have ignored : ∀ stage ∈ place.early, stage.Ignores text := fun stage member =>
    Stage.ignores_of_apart (place.early_mem member) (place.apart stage member) only decoded
  have unmatched : ∀ rule ∈ place.passed, rule.template.findAll text = [] := by
    intro other member
    refine Template.findAll_eq_nil fun found => place.others other member ?_
    have listed : other.template ∈ place.stage.templates :=
      List.mem_map_of_mem (List.mem_append_left _ member)
    exact only.comparable (Stage.stem_head place.stage_mem listed) found
  have before : place.passed.foldlM (runRule settings context .clearWhenEmpty) text =
      .done text :=
    Dialogue.foldlM_eq_done fun rule member => runRule_of_no_match (unmatched rule member)
  have here : runRule settings context .clearWhenEmpty text rule =
      Chat.attempt (resolve settings context rule.token token) >>= fun result =>
        pure (settle .clearWhenEmpty token result.toOption text) := by
    rw [runRule, matched, List.foldlM_cons]
    exact bind_pure _
  rw [render, decoded, ← place.stages, runStages_append_of_ignores ignored, runStages,
    List.foldlM_cons, runStage, runPass, shown, if_neg Bool.false_ne_true, List.foldlM_append,
    before]
  rw [← Dialogue.pure_eq, pure_bind, List.foldlM_cons, here]
  simp only [bind_assoc, pure_bind]
  rfl

/-- **A message with one token** shows the token's value in its place, whatever had to be asked
to find the value. -/
theorem render_of_one_token {α : Type} {before after : List Char}
    (place : Pipeline.Place rule opening) (opens : opening <+: token)
    (begins : opening.head? = rule.template.stem.head?)
    (inside : BeginsNoToken token.tail ∧ '&' ∉ token)
    (here : BeginsNoToken before ∧ '&' ∉ before) (behind : BeginsNoToken after ∧ '&' ∉ after)
    (matched : ∀ previous,
      rule.template.pattern.matchLength? previous (token ++ after) = some token.length)
    {asked : Dialogue α} {value : α → List Char}
    (resolved : Chat.attempt (resolve settings context rule.token token) =
      asked >>= fun answer => pure (.ok (value answer)))
    (nonempty : ∀ answer, value answer ≠ []) (plain : ∀ answer, BeginsNoToken (value answer)) :
    render settings context (before ++ token ++ after) =
      asked >>= fun answer => pure (Text.trim (before ++ value answer ++ after)) := by
  obtain ⟨mark, stem, solid, absent⟩ : ∃ mark, rule.template.stem.head? = some mark ∧
      Text.isBlank mark = false ∧ ∀ text, BeginsNoToken text → mark ∉ text := by
    rcases Stage.stem_head place.stage_mem place.template_mem with dollar | paren
    · exact ⟨'$', dollar, by decide, fun _ plain => plain.1⟩
    · exact ⟨'(', paren, by decide, fun _ plain => plain.2⟩
  obtain ⟨body, rfl⟩ := List.head?_eq_some_iff.1 (begins.trans stem)
  obtain ⟨rest, rfl⟩ := opens
  have only : BeginsOnlyWith (mark :: body) (before ++ (mark :: body ++ rest) ++ after) :=
    ⟨before, rest ++ after, by simp, here.1, by simpa using inside.1.append behind.1⟩
  have decoded : CharReference.decode (before ++ (mark :: body ++ rest) ++ after) =
      before ++ (mark :: body ++ rest) ++ after := by
    refine CharReference.decode_eq_self ?_
    rw [List.mem_append, List.mem_append, not_or, not_or]
    exact ⟨⟨here.2, inside.2⟩, behind.2⟩
  have shown : Text.isBlankText (before ++ (mark :: body ++ rest) ++ after) = false :=
    Text.not_blank_of_mem (by simp) solid
  have found : rule.template.findAll (before ++ (mark :: body ++ rest) ++ after) =
      [mark :: body ++ rest] :=
    Template.findAll_single stem (absent _ here.1) (absent _ behind.1) (List.cons_ne_nil _ _)
      matched
  rw [render_of_one_match place only decoded shown found, resolved, bind_assoc]
  refine congrArg (asked >>= ·) (funext fun answer => ?_)
  rw [pure_bind]
  have spliced : settle .clearWhenEmpty (mark :: body ++ rest) (some (value answer))
      (before ++ (mark :: body ++ rest) ++ after) =
        Text.trim (before ++ value answer ++ after) := by
    rw [settle, List.isEmpty_eq_false_iff.2 (nonempty answer), if_neg Bool.false_ne_true]
    exact splice_match rfl (absent _ here.1) (value answer) after
  have plain : BeginsNoToken (Text.trim (before ++ value answer ++ after)) :=
    ((here.1.append (plain answer)).append behind.1).trim
  rw [show (Except.ok (value answer) : Except Failure (List Char)).toOption =
    some (value answer) from rfl, spliced]
  exact runStages_of_value place plain

end Message

end ChatTemplate
