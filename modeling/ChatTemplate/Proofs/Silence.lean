/-
# ChatTemplate.Proofs.Silence -- a silenced message stays silent

A token of a clearing pass that resolves to nothing, or a gate that does not
open, clears the message.  The text then stays empty to the end, although the
pass that cleared it goes on resolving and splicing, and no later stage asks
anything of anybody.

`Silences` says that a stage meets such a token, with whatever the responder has
answered until then.  Main statement: `render_of_silenced`.
-/
import ChatTemplate.Proofs.Ignored
import ChatTemplate.World.Host

namespace ChatTemplate.Message

open Dialogue (Responder Reaches)

set_option autoImplicit false

/-! ## What silences a message -/

section

variable {σ : Type} (settings : Settings) (context : Context) (responder : Responder σ)

/-- A match resolves to nothing: its lookup fails, or its value is empty. -/
def ResolvesToNothing (token : Token) (matched : List Char) (state : σ) : Prop :=
  ∀ value, ((Chat.attempt (resolve settings context token matched)).run responder state).1 =
    .ok value → value = []

/-- A gate is closed, or it cannot be checked. -/
def StaysShut (gate : Gate) (state : σ) : Prop :=
  ((isOpen gate).run responder state).1 = false

/-- **A stage meets a token that silences the message.**  The stage works on a
text that is not blank; it has come to a rule, and of the matches of that rule to
one that resolves to nothing, or whose gate stays shut. -/
inductive Silences : Stage → List Char → σ → Prop
  | pass {name : String} {rule : Rule Token} {rules laterRules : List (Rule Token)}
      {text text₁ text₂ matched : List Char} {laterMatches : List (List Char)}
      {state state₁ state₂ : σ} (shown : Text.isBlankText text = false)
      (atRule : Reaches responder (runRule settings context .clearWhenEmpty) rules text state
        (rule :: laterRules) text₁ state₁)
      (atMatch : Reaches responder (runMatch settings context .clearWhenEmpty rule.token)
        (rule.template.findAll text₁) text₁ state₁ (matched :: laterMatches) text₂ state₂)
      (nothing : ResolvesToNothing settings context responder rule.token matched state₂) :
      Silences (.pass name .clearWhenEmpty rules) text state
  | gates {name : String} {rule : Rule Gate} {rules laterRules : List (Rule Gate)}
      {text text₁ text₂ matched : List Char} {laterMatches : List (List Char)}
      {state state₁ state₂ : σ} (shown : Text.isBlankText text = false)
      (atRule : Reaches responder runGate rules text state (rule :: laterRules) text₁ state₁)
      (atMatch : Reaches responder (runGateMatch rule.token) (rule.template.findAll text₁)
        text₁ state₁ (matched :: laterMatches) text₂ state₂)
      (shut : StaysShut responder rule.token state₂) :
      Silences (.gates name rules) text state

end

variable {σ : Type} {settings : Settings} {context : Context} {responder : Responder σ}

/-! ## The empty text -/

theorem splice_nil {matched : List Char} (some_ : matched ≠ []) (value : List Char) :
    splice matched value [] = [] := by
  rw [splice, Text.replaceFirst_eq_self fun found => some_ (List.infix_nil.1 found)]
  rfl

/-! ## One match -/

theorem runMatch_run (policy : Policy) (token : Token) (text matched : List Char) (state : σ) :
    ((runMatch settings context policy token text matched).run responder state).1 =
      settle policy matched
        ((Chat.attempt (resolve settings context token matched)).run responder state).1.toOption
        text := by
  rw [runMatch, Dialogue.run_bind]
  rfl

/-- A match that resolves to nothing clears the text. -/
theorem runMatch_of_nothing {token : Token} {matched : List Char} {state : σ}
    (nothing : ResolvesToNothing settings context responder token matched state)
    (text : List Char) :
    ((runMatch settings context .clearWhenEmpty token text matched).run responder state).1 =
      [] := by
  rw [runMatch_run]
  rw [ResolvesToNothing] at nothing
  cases h : ((Chat.attempt (resolve settings context token matched)).run responder state).1 with
  | error failure => rfl
  | ok value =>
      rw [nothing value h]
      rfl

/-- Later matches of a clearing pass leave a cleared text empty. -/
theorem runMatch_nil (token : Token) {matched : List Char} (some_ : matched ≠ []) (state : σ) :
    ((runMatch settings context .clearWhenEmpty token [] matched).run responder state).1 =
      [] := by
  rw [runMatch_run]
  cases ((Chat.attempt (resolve settings context token matched)).run responder state).1 with
  | error failure => rfl
  | ok value =>
      rw [Except.toOption, settle, splice_nil some_]
      exact ite_self []

theorem runGateMatch_run (gate : Gate) (text matched : List Char) (state : σ) :
    ((runGateMatch gate text matched).run responder state).1 =
      if ((isOpen gate).run responder state).1 then splice matched [] text else [] := by
  rw [runGateMatch, Dialogue.run_bind]
  split <;> rfl

theorem runGateMatch_nil (gate : Gate) {matched : List Char} (some_ : matched ≠ [])
    (state : σ) : ((runGateMatch gate [] matched).run responder state).1 = [] := by
  rw [runGateMatch_run, splice_nil some_]
  exact ite_self []

/-! ## One rule -/

theorem runRule_nil (policy : Policy) {rule : Rule Token} (stemmed : rule.template.stem ≠ [])
    (state : σ) : ((runRule settings context policy [] rule).run responder state).1 = [] := by
  rw [runRule_of_no_match (Template.findAll_nil stemmed)]
  rfl

/-- A rule with a match that resolves to nothing leaves the empty text. -/
theorem runRule_of_nothing {rule : Rule Token} (stemmed : rule.template.stem ≠ [])
    {text text' matched : List Char} {laterMatches : List (List Char)} {state state' : σ}
    (atMatch : Reaches responder (runMatch settings context .clearWhenEmpty rule.token)
      (rule.template.findAll text) text state (matched :: laterMatches) text' state')
    (nothing : ResolvesToNothing settings context responder rule.token matched state') :
    ((runRule settings context .clearWhenEmpty text rule).run responder state).1 = [] := by
  refine atMatch.run_fixed (runMatch_of_nothing nothing text') fun found member => ?_
  exact runMatch_nil rule.token (Template.ne_nil_of_mem_findAll stemmed member)

theorem runGate_nil {rule : Rule Gate} (stemmed : rule.template.stem ≠ []) (state : σ) :
    ((runGate [] rule).run responder state).1 = [] := by
  rw [runGate_of_no_match (Template.findAll_nil stemmed)]
  rfl

/-! ## The stage and what follows it -/

/-- A stage that meets a silencing token leaves the empty text. -/
theorem runStage_of_silences {stage : Stage} (standard : stage ∈ Pipeline.stages)
    {text : List Char} {state : σ} (silenced : Silences settings context responder stage text state) :
    ((runStage settings context text stage).run responder state).1 = [] := by
  cases silenced with
  | @pass name rule rules laterRules _ text₁ _ _ _ _ state₁ _ shown atRule atMatch nothing =>
      have stemmed : ∀ rule ∈ rules, rule.template.stem ≠ [] := fun rule member =>
        Stage.stem_ne_nil standard (List.mem_map_of_mem member)
      have here : rule ∈ rules := atRule.left_suffix.subset List.mem_cons_self
      have cleared := runRule_of_nothing (stemmed rule here) atMatch nothing
      rw [runStage, runPass, shown]
      exact atRule.run_fixed cleared fun rule member => runRule_nil _ (stemmed rule member)
  | @gates name rule rules laterRules _ text₁ _ _ _ _ state₁ _ shown atRule atMatch shut =>
      have stemmed : ∀ rule ∈ rules, rule.template.stem ≠ [] := fun rule member =>
        Stage.stem_ne_nil standard (List.mem_map_of_mem member)
      have here : rule ∈ rules := atRule.left_suffix.subset List.mem_cons_self
      have cleared : ((runGate text₁ rule).run responder state₁).1 = [] := by
        refine atMatch.run_fixed ?_ fun found member =>
          runGateMatch_nil rule.token (Template.ne_nil_of_mem_findAll (stemmed rule here) member)
        rw [runGateMatch_run, shut]
        rfl
      rw [runStage, runGates, shown]
      exact atRule.run_fixed cleared fun rule member => runGate_nil (stemmed rule member)

/-- **A silenced message stays silent.**  Once a stage has met a token that
silences the message, its text is empty, the stages after it ask nothing, and the
message is the empty text: the responder is left as that stage left it. -/
theorem render_of_silenced (raw : List Char) (start : σ) {stage : Stage} {later : List Stage}
    {text : List Char} {state : σ}
    (reached : Reaches responder (runStage settings context) Pipeline.stages
      (CharReference.decode raw) start (stage :: later) text state)
    (silenced : Silences settings context responder stage text state) :
    let after := (runStage settings context text stage).run responder state
    after.1 = [] ∧ runStages settings context later after.1 = .done [] ∧
      (render settings context raw).run responder start = ([], after.2) := by
  have left : stage :: later <:+ Pipeline.stages := reached.left_suffix
  have cleared := runStage_of_silences (left.subset List.mem_cons_self) silenced
  have still : runStages settings context later [] = .done [] :=
    runStages_of_ignores fun other member =>
      Stage.ignores_nil (left.subset (List.mem_cons_of_mem stage member))
  refine ⟨cleared, ?_, ?_⟩
  · rw [cleared, still]
  · have rest : later.foldlM (runStage settings context) [] = .done [] := still
    rw [render, runStages, reached.run_eq, Dialogue.run_foldlM_cons, cleared, rest]
    rfl

/-- A host that cannot tell the state of the channel. -/
def statsDown : Host where
  down := [.broadcast]
  sources := fun _ => { rolls := fun _ => 0 }

/-- The game cannot be looked up, so nothing is shown and nobody is hugged. -/
theorem game_without_stats_is_silent :
    let text := "(game) (!hug)".toList
    let world : World := {}
    let stage := Stage.pass "info" .clearWhenEmpty Pipeline.infoRules
    let silent := (render {} {} text).run statsDown.answer world
    Reaches statsDown.answer (runStage {} {}) Pipeline.stages (CharReference.decode text) world
        (stage :: Pipeline.stages.drop 3) text world ∧
      Silences {} {} statsDown.answer stage text world ∧
      silent.1 = [] ∧ silent.2.dispatched = [] := by
  intro text world stage silent
  have decoded : CharReference.decode text = text := by decide
  have reached : Reaches statsDown.answer (runStage {} {}) Pipeline.stages
      (CharReference.decode text) world (stage :: Pipeline.stages.drop 3) text world := by
    have ignored : ∀ stage ∈ Pipeline.stages.take 2, stage.Ignores text := by decide +kernel
    rw [decoded]
    exact Reaches.past (fun stage member => runStage_of_ignores (ignored stage member)) world
  have silenced : Silences {} {} statsDown.answer stage text world := by
    have unmatched : ∀ rule ∈ Pipeline.infoRules.take 2, rule.template.findAll text = [] := by
      decide +kernel
    have matched : (Pipeline.keyed "(game)" Token.game).template.findAll text =
        ["(game)".toList] := by decide +kernel
    have atRule : Reaches statsDown.answer (runRule {} {} .clearWhenEmpty) Pipeline.infoRules
        text world (Pipeline.infoRules.drop 2) text world :=
      Reaches.past (fun rule member => runRule_of_no_match (unmatched rule member)) world
    have atMatch : Reaches statsDown.answer (runMatch {} {} .clearWhenEmpty Token.game)
        ((Pipeline.keyed "(game)" Token.game).template.findAll text) text world
        ["(game)".toList] text world := by
      rw [matched]
      exact .start
    refine .pass (by decide) atRule atMatch fun value answered => ?_
    exact absurd answered nofun
  obtain ⟨-, -, ended⟩ := render_of_silenced text world reached silenced
  refine ⟨reached, silenced, ?_⟩
  rw [show silent = ([], _) from ended]
  exact ⟨rfl, by decide +kernel⟩

end ChatTemplate.Message
