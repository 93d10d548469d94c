/-
# ChatTemplate.Proofs.Ignored -- text that a stage has nothing to do with

A stage `Ignores` a text when nothing in it is a token of that stage; it then
gives the text back as it is and asks nobody (`runStage_of_ignores`).

Every token begins with a dollar sign or with an opening parenthesis, and the
parenthesis of every token but a command stands before something other than `!`.
Text that keeps clear of these beginnings is ignored (`ignores_of_clear`), and a
message that begins no token at all is shown as it is written (`render_plain`), but
for its references, which are decoded twice (`render_decodes_twice`).
-/
import ChatTemplate.Message.Render
import ChatTemplate.Proofs.DialogueFold
import ChatTemplate.Proofs.Matching
import ChatTemplate.Proofs.Occurrence
import ChatTemplate.World.Host

namespace ChatTemplate

set_option autoImplicit false

/-! ## Ignoring -/

/-- **A stage has nothing to do with a text.** -/
def Stage.Ignores (text : List Char) : Stage → Prop
  | .placeholders => Placeholder.present text = [] ∧ CharReference.decode text = text
  | .pass _ _ rules => ∀ rule ∈ rules, rule.template.findAll text = []
  | .gates _ rules => ∀ rule ∈ rules, rule.template.findAll text = []
  | .attributes => '$' ∉ text
  | .page => Page.callPattern.find? text = none

instance (text : List Char) (stage : Stage) : Decidable (stage.Ignores text) :=
  match stage with
  | .placeholders => inferInstanceAs (Decidable (_ ∧ _))
  | .pass _ _ rules =>
      inferInstanceAs (Decidable (∀ rule ∈ rules, rule.template.findAll text = []))
  | .gates _ rules =>
      inferInstanceAs (Decidable (∀ rule ∈ rules, rule.template.findAll text = []))
  | .attributes => inferInstanceAs (Decidable ('$' ∉ text))
  | .page => inferInstanceAs (Decidable (_ = none))

namespace Message

variable {settings : Settings} {context : Context} {text : List Char}

theorem applyAttributes_eq_self (plain : '$' ∉ text) :
    applyAttributes settings context text = text := by
  rw [applyAttributes]
  generalize attributes settings context = entries
  induction entries with
  | nil => rfl
  | cons entry entries ih =>
      have absent : ¬ '$' :: entry.1.toList <:+: text := fun found =>
        plain (found.subset List.mem_cons_self)
      rw [List.foldl_cons, applyAttribute, Text.replaceAll_eq_self absent]
      exact ih

theorem runRule_of_no_match {policy : Policy} {rule : Rule Token}
    (none : rule.template.findAll text = []) :
    runRule settings context policy text rule = .done text := by
  rw [runRule, none]
  rfl

theorem runGate_of_no_match {rule : Rule Gate} (none : rule.template.findAll text = []) :
    runGate text rule = .done text := by
  rw [runGate, none]
  rfl

/-- **A stage that ignores a text** gives it back and asks nobody. -/
theorem runStage_of_ignores {stage : Stage} (ignores : stage.Ignores text) :
    runStage settings context text stage = .done text := by
  cases stage with
  | placeholders =>
      obtain ⟨absent, plain⟩ := ignores
      rw [runStage, Placeholder.apply, absent, plain]
      rfl
  | pass name policy rules =>
      rw [runStage, runPass]
      split
      · rfl
      · exact Dialogue.foldlM_eq_done fun rule member => runRule_of_no_match (ignores rule member)
  | gates name rules =>
      rw [runStage, runGates]
      split
      · rfl
      · exact Dialogue.foldlM_eq_done fun rule member => runGate_of_no_match (ignores rule member)
  | attributes => exact congrArg Dialogue.done (applyAttributes_eq_self ignores)
  | page =>
      rw [Stage.Ignores] at ignores
      rw [runStage, runPage, Page.apply, ignores]
      exact ite_self _

theorem runStages_of_ignores {stages : List Stage}
    (ignores : ∀ stage ∈ stages, stage.Ignores text) :
    runStages settings context stages text = .done text :=
  Dialogue.foldlM_eq_done fun stage member => runStage_of_ignores (ignores stage member)

/-- Stages that ignore a text can be left out. -/
theorem runStages_append_of_ignores {early : List Stage}
    (ignores : ∀ stage ∈ early, stage.Ignores text) (rest : List Stage) :
    runStages settings context (early ++ rest) text = runStages settings context rest text := by
  have ignored : early.foldlM (runStage settings context) text = .done text :=
    runStages_of_ignores ignores
  rw [runStages, List.foldlM_append, ignored]
  rfl

end Message

/-! ## The templates of the pipeline -/

/-- The templates of a stage. -/
def Stage.templates : Stage → List Template
  | .pass _ _ rules => rules.map (·.template)
  | .gates _ rules => rules.map (·.template)
  | _ => []

/-- Whether a template begins with a dollar sign, or with a parenthesis that opens
something other than a command. -/
def Template.opensNoCommand (template : Template) : Bool :=
  match template.stem with
  | '$' :: _ => true
  | '(' :: c :: _ => c != '!'
  | _ => false

/-- The stage of inline commands and of their counts. -/
def Pipeline.commandStage : Stage :=
  .pass "command" .keepWhenEmpty commandRules

theorem Template.stem_head_of_opensNoCommand {template : Template}
    (opens : template.opensNoCommand = true) :
    template.stem.head? = some '$' ∨ template.stem.head? = some '(' := by
  rw [opensNoCommand] at opens
  split at opens
  · next h => exact .inl (by rw [h, List.head?_cons])
  · next h => exact .inr (by rw [h, List.head?_cons])
  · simp at opens

theorem Stage.opensNoCommand {stage : Stage} (standard : stage ∈ Pipeline.stages)
    (other : stage ≠ Pipeline.commandStage) {template : Template}
    (member : template ∈ stage.templates) : template.opensNoCommand = true := by
  have all : ∀ stage ∈ Pipeline.stages, stage ≠ Pipeline.commandStage →
      ∀ template ∈ stage.templates, template.opensNoCommand = true := by
    decide
  exact all stage standard other template member

theorem Stage.stem_head {stage : Stage} (standard : stage ∈ Pipeline.stages)
    {template : Template} (member : template ∈ stage.templates) :
    template.stem.head? = some '$' ∨ template.stem.head? = some '(' := by
  by_cases command : stage = Pipeline.commandStage
  · have all : ∀ template ∈ Pipeline.commandStage.templates,
        template.stem.head? = some '$' ∨ template.stem.head? = some '(' := by decide
    exact all template (command ▸ member)
  · exact Template.stem_head_of_opensNoCommand (opensNoCommand standard command member)

theorem Stage.stem_ne_nil {stage : Stage} (standard : stage ∈ Pipeline.stages)
    {template : Template} (member : template ∈ stage.templates) : template.stem ≠ [] := by
  rcases stem_head standard member with h | h <;> exact fun empty => by simp [empty] at h

/-! ## Text that is clear of tokens -/

theorem CharReference.decode_eq_self {text : List Char} (plain : '&' ∉ text) :
    decode text = text := by
  rw [decode]
  induction text with
  | nil => rfl
  | cons c text ih =>
      rw [List.mem_cons, not_or] at plain
      obtain ⟨apart, rest⟩ := plain
      rw [decode.go, if_neg (Ne.symm apart), ih rest]

theorem Placeholder.head_key (placeholder : Placeholder) : placeholder.key.head? = some '$' := by
  cases placeholder <;> rfl

theorem Placeholder.present_eq_nil {text : List Char} (plain : '$' ∉ text) :
    present text = [] := by
  refine List.filter_eq_nil_iff.2 fun placeholder _ found => plain ?_
  exact (Text.infix_of_contains found).subset (List.mem_of_head? (head_key placeholder))

/-- Every call of a page begins with a parenthesis and a letter. -/
theorem Page.find_callPattern_eq_none {text : List Char}
    (clear : ∀ c, ['(', c] <:+: text → c.toLower ≠ 'a') : callPattern.find? text = none := by
  have opening : ∃ pieces, callPattern = .char '(' :: .letter 'a' :: pieces := ⟨_, rfl⟩
  obtain ⟨pieces, shape⟩ := opening
  rw [Pattern.find?, shape, Pattern.findAll_eq_nil, List.head?_nil]
  intro before rest suffix
  match rest with
  | [] => rfl
  | [c] => simp [Pattern.matchLength?, oneChar]
  | c :: d :: rest =>
      rw [Pattern.matchLength?, Pattern.matchLength?, oneChar, oneChar]
      split
      · next paren =>
          have stands : ['(', d] <:+: text := by
            rw [← eq_of_beq paren]
            exact (List.prefix_append [c, d] rest).isInfix.trans suffix.isInfix
          simp [clear d stands]
      · rfl

/-- A stage ignores text in which its templates do not stand; the first stage has to do
with placeholders and references, and that of attributes with every dollar sign. -/
theorem Stage.ignores_of_absent {text : List Char} {stage : Stage}
    (placeholders : stage = .placeholders →
      Placeholder.present text = [] ∧ CharReference.decode text = text)
    (attributes : stage = .attributes → '$' ∉ text)
    (paren : ∀ c, ['(', c] <:+: text → c.toLower ≠ 'a')
    (absent : ∀ template ∈ stage.templates, ¬ template.stem <:+: text) :
    stage.Ignores text := by
  cases stage with
  | placeholders => exact placeholders rfl
  | pass name policy rules =>
      exact fun rule member => Template.findAll_eq_nil (absent _ (List.mem_map_of_mem member))
  | gates name rules =>
      exact fun rule member => Template.findAll_eq_nil (absent _ (List.mem_map_of_mem member))
  | attributes => exact attributes rfl
  | page => exact Page.find_callPattern_eq_none paren

/-- **Text that opens nothing but commands** is ignored by all stages but one. -/
theorem Stage.ignores_of_clear {text : List Char} {stage : Stage}
    (standard : stage ∈ Pipeline.stages) (other : stage ≠ Pipeline.commandStage)
    (dollar : '$' ∉ text) (ampersand : '&' ∉ text)
    (paren : ∀ c, ['(', c] <:+: text → c = '!') : stage.Ignores text := by
  have decoded := CharReference.decode_eq_self ampersand
  refine ignores_of_absent (fun _ => ⟨Placeholder.present_eq_nil dollar, decoded⟩)
    (fun _ => dollar) (fun c found => by rw [paren c found]; decide) ?_
  intro template member found
  have opens := opensNoCommand standard other member
  rw [Template.opensNoCommand] at opens
  split at opens
  · next rest h => exact dollar (found.subset (by rw [h]; simp))
  · next c rest h =>
      have stands : ['(', c] <:+: text := by
        rw [h] at found
        exact (List.prefix_append ['(', c] rest).isInfix.trans found
      simp [paren c stands] at opens
  · simp at opens

/-- Text without dollar signs and parentheses is ignored by every stage that is not
about its references. -/
theorem Stage.ignores_of_no_token {text : List Char} {stage : Stage}
    (standard : stage ∈ Pipeline.stages) (dollar : '$' ∉ text) (paren : '(' ∉ text)
    (decoded : stage = .placeholders → CharReference.decode text = text) :
    stage.Ignores text := by
  have unopened : ∀ c, ¬ ['(', c] <:+: text := fun c found =>
    paren (found.subset List.mem_cons_self)
  refine ignores_of_absent (fun first => ⟨Placeholder.present_eq_nil dollar, decoded first⟩)
    (fun _ => dollar) (fun c found => absurd found (unopened c)) ?_
  intro template member found
  rcases stem_head standard member with h | h
  · exact dollar (found.subset (List.mem_of_head? h))
  · exact paren (found.subset (List.mem_of_head? h))

/-- **Text without dollar signs, parentheses and references** is ignored by all. -/
theorem Stage.ignores_of_plain {text : List Char} {stage : Stage}
    (standard : stage ∈ Pipeline.stages) (dollar : '$' ∉ text) (ampersand : '&' ∉ text)
    (paren : '(' ∉ text) : stage.Ignores text := by
  have decoded := CharReference.decode_eq_self ampersand
  exact ignores_of_no_token standard dollar paren fun _ => decoded

theorem Stage.ignores_nil {stage : Stage} (standard : stage ∈ Pipeline.stages) :
    stage.Ignores [] :=
  ignores_of_plain standard (by simp) (by simp) (by simp)

/-! ## Literal messages -/

/-- **Literal text is shown as it is**, the white space around it included, and
nothing is asked of anybody. -/
theorem Message.render_plain (settings : Settings) (context : Context) {text : List Char}
    (dollar : '$' ∉ text) (paren : '(' ∉ text) (ampersand : '&' ∉ text) :
    render settings context text = .done text := by
  rw [render, CharReference.decode_eq_self ampersand]
  exact runStages_of_ignores fun stage standard =>
    Stage.ignores_of_plain standard dollar ampersand paren

/-- Neither an argument nor an attribute gets into it, and it does not matter who
is down. -/
theorem Message.greeting_is_shown_as_it_is :
    let text := "  :) 100% param !hug #1  ".toList
    let context : Context :=
      { sender := ⟨"ann", "1"⟩, argument := some "(!hug)", attributes := [("1", "one"), ("", "!")] }
    let host : Host := { down := [.broadcast, .dispatcher], sources := fun _ => { rolls := id } }
    let world : World := {}
    ('$' ∉ text ∧ '(' ∉ text ∧ '&' ∉ text) ∧ render {} context text = .done text ∧
      host.run (render {} context text) world = (text, world) := by
  intro text context host world
  have plain : '$' ∉ text ∧ '(' ∉ text ∧ '&' ∉ text := by simp [text]
  have shown := render_plain {} context plain.1 plain.2.1 plain.2.2
  refine ⟨plain, shown, ?_⟩
  rw [shown]
  rfl

/-! ## Messages of references -/

/-- A message without placeholders is decoded once more in the first stage, and nothing
is looked up for it there. -/
theorem Message.render_of_no_placeholder (settings : Settings) (context : Context)
    {raw : List Char} (dollar : '$' ∉ CharReference.decode raw) :
    render settings context raw =
      runStages settings context Pipeline.stages.tail
        (CharReference.decode (CharReference.decode raw)) := by
  have stages : Pipeline.stages = .placeholders :: Pipeline.stages.tail := rfl
  have first : runStage settings context (CharReference.decode raw) .placeholders =
      .done (CharReference.decode (CharReference.decode raw)) := by
    rw [runStage, Placeholder.apply, Placeholder.present_eq_nil dollar]
    rfl
  rw [render, runStages, stages, List.foldlM_cons, first]
  rfl

/-- **References are decoded twice**, when a message is read and with the placeholders,
so a reference that is escaped once is shown as its character.  Unless one of the two
texts begins a token, that is all that becomes of a message. -/
theorem Message.render_decodes_twice (settings : Settings) (context : Context) {raw : List Char}
    (dollar : '$' ∉ CharReference.decode raw)
    (dollar' : '$' ∉ CharReference.decode (CharReference.decode raw))
    (paren' : '(' ∉ CharReference.decode (CharReference.decode raw)) :
    render settings context raw = .done (CharReference.decode (CharReference.decode raw)) := by
  have later : ∀ stage ∈ Pipeline.stages.tail, stage ≠ .placeholders := by
    simp [Pipeline.stages]
  rw [render_of_no_placeholder settings context dollar]
  refine runStages_of_ignores fun stage member => ?_
  have standard : stage ∈ Pipeline.stages := List.mem_of_mem_tail member
  refine Stage.ignores_of_no_token standard dollar' paren' ?_
  intro first
  exact absurd first (later stage member)

/-- One reference is escaped and one is not; both are shown as characters. -/
theorem Message.chips_are_shown_without_references :
    let raw := "fish &amp;amp; chips &lt;3".toList
    let decoded := CharReference.decode raw
    let shown := "fish & chips <3".toList
    ('$' ∉ decoded ∧ '$' ∉ CharReference.decode decoded ∧ '(' ∉ CharReference.decode decoded) ∧
      CharReference.decode decoded = shown ∧ render {} {} raw = .done shown := by
  intro raw decoded shown
  have twice : CharReference.decode decoded = shown := rfl
  have plain : '$' ∉ decoded ∧ '$' ∉ shown ∧ '(' ∉ shown := ⟨by decide, by simp [shown]⟩
  obtain ⟨dollar, dollar', paren'⟩ := plain
  rw [← twice] at dollar' paren'
  have rendered := render_decodes_twice {} {} dollar dollar' paren'
  refine ⟨⟨dollar, dollar', paren'⟩, twice, ?_⟩
  rw [rendered, twice]

/-- An escaped reference is not shown as the reference, whoever it is for. -/
theorem Message.escaped_reference_is_lost :
    let raw := "&amp;lt;".toList
    CharReference.decode raw = "&lt;".toList ∧
      ('$' ∉ CharReference.decode raw ∧ '(' ∉ CharReference.decode raw) ∧
      ('$' ∉ CharReference.decode (CharReference.decode raw) ∧
        '(' ∉ CharReference.decode (CharReference.decode raw)) ∧
      ∀ settings context, render settings context raw = .done "<".toList ∧
        render settings context raw ≠ .done (CharReference.decode raw) := by
  intro raw
  have once : CharReference.decode raw = "&lt;".toList := rfl
  have twice : CharReference.decode "&lt;".toList = "<".toList := rfl
  rw [once, twice]
  refine ⟨rfl, by decide, by decide, fun settings context => ?_⟩
  have ignored : ∀ stage ∈ Pipeline.stages.tail, stage.Ignores ['<'] := fun stage later =>
    Stage.ignores_of_plain (List.mem_of_mem_tail later) (by decide) (by decide) (by decide)
  have shown : render settings context raw = .done "<".toList := by
    rw [render_of_no_placeholder settings context (by rw [once]; decide), once, twice]
    exact runStages_of_ignores ignored
  refine ⟨shown, ?_⟩
  rw [shown]
  intro same
  exact absurd (Dialogue.done.inj same) (by decide)

end ChatTemplate
