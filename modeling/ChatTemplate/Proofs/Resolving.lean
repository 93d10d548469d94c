/-
# ChatTemplate.Proofs.Resolving -- which matches a pass resolves

A rule collects its matches and then resolves each of them once, from left to right,
whatever has become of the text in between (`course_runRule`).  But the next rule
collects its own in the text as it then stands: so a pass resolves, rule by rule, the
matches that the rule finds (`resolved`), and asks nothing besides
(`exchanges_runRules`).

Hence a clearing pass goes on after a token has cleared the message, but no further than
to the end of the rule at hand.  The rules after it find no match in the empty text, and
what they would have resolved in the text that the pass began with is left undone
(`cleared_pass_leaves_matches`).

Main statement: `cleared_pass_finishes_its_rule`.
-/
import ChatTemplate.Proofs.Exchange
import ChatTemplate.Proofs.Silence

namespace ChatTemplate

set_option autoImplicit false

/-! ## The course of a dialogue -/

namespace Dialogue

variable {σ α β : Type} {responder : Responder σ}

/-- **What a dialogue asks**, apart from its result. -/
def course (dialogue : Dialogue α) : Dialogue Unit :=
  dialogue >>= fun _ => pure ()

@[simp] theorem course_pure (result : α) : (pure result : Dialogue α).course = pure () := rfl

theorem course_bind (first : Dialogue α) (next : α → Dialogue β) :
    (first >>= next).course = first >>= fun result => (next result).course := by
  rw [course, bind_assoc]
  rfl

/-- A dialogue goes on in one way, whatever the result of its first part. -/
theorem course_bind_of_same {first : Dialogue α} {next : α → Dialogue β}
    {later : Dialogue Unit} (same : ∀ result, (next result).course = later) :
    (first >>= next).course = first.course >>= fun _ => later := by
  have goesOn : (fun result => (next result).course) = fun _ => later := funext same
  rw [course_bind, goesOn, course, bind_assoc]
  rfl

theorem exchanges_course (dialogue : Dialogue α) (state : σ) :
    dialogue.course.exchanges responder state = dialogue.exchanges responder state := by
  rw [course, exchanges_bind]
  exact List.append_nil _

theorem run_course (dialogue : Dialogue α) (state : σ) :
    (dialogue.course.run responder state).2 = (dialogue.run responder state).2 := by
  rw [course, run_bind]
  rfl

end Dialogue

namespace Message

open Dialogue (Responder Reaches)

variable {σ : Type} {settings : Settings} {context : Context} {responder : Responder σ}

/-! ## One rule -/

/-- A token and a piece of text that it stands for. -/
structure Match where
  token : Token
  text : List Char
  deriving DecidableEq

/-- The matches of a rule in a text, from left to right. -/
def matchesOf (rule : Rule Token) (text : List Char) : List Match :=
  (rule.template.findAll text).map (Match.mk rule.token)

/-- **Resolves matches**, each of them once and one after the other. -/
def resolveAll (settings : Settings) (context : Context) (found : List Match) : Dialogue Unit :=
  found.forM fun one => (Chat.attempt (resolve settings context one.token one.text)).course

theorem resolveAll_append (found more : List Match) :
    resolveAll settings context (found ++ more) =
      resolveAll settings context found >>= fun _ => resolveAll settings context more :=
  List.forM_append

/-- What becomes of the text has no part in what a match asks. -/
theorem course_runMatch (policy : Policy) (token : Token) (text matched : List Char) :
    (runMatch settings context policy token text matched).course =
      (Chat.attempt (resolve settings context token matched)).course := by
  rw [runMatch, Dialogue.course_bind]
  rfl

theorem course_runMatches (policy : Policy) (token : Token) (found : List (List Char))
    (text : List Char) :
    (found.foldlM (runMatch settings context policy token) text).course =
      resolveAll settings context (found.map (Match.mk token)) := by
  induction found generalizing text with
  | nil => rfl
  | cons matched found ih =>
      rw [List.foldlM_cons, Dialogue.course_bind_of_same ih, course_runMatch]
      rfl

/-- **A rule resolves each of its matches once**, from left to right, and asks nothing
else; that holds in particular of the matches after one that clears the text. -/
theorem course_runRule (policy : Policy) (text : List Char) (rule : Rule Token) :
    (runRule settings context policy text rule).course =
      resolveAll settings context (matchesOf rule text) := by
  rw [runRule, course_runMatches]
  rfl

/-! ## One rule after the other -/

section

variable (settings : Settings) (context : Context) (responder : Responder σ) (policy : Policy)

/-- **The matches that rules resolve** for a responder, in order: those of each rule in
the text as it stands when the rule has its turn. -/
def resolved : List (Rule Token) → List Char → σ → List Match
  | [], _, _ => []
  | rule :: rules, text, state =>
      let after := (runRule settings context policy text rule).run responder state
      matchesOf rule text ++ resolved rules after.1 after.2

end

/-- **What rules ask is what the matches ask that they resolve**, each of them once and
one after the other. -/
theorem exchanges_runRules (policy : Policy) (rules : List (Rule Token)) (text : List Char)
    (state : σ) :
    (rules.foldlM (runRule settings context policy) text).exchanges responder state =
      (resolveAll settings context
        (resolved settings context responder policy rules text state)).exchanges responder
          state := by
  induction rules generalizing text state with
  | nil => rfl
  | cons rule rules ih =>
      have here : (runRule settings context policy text rule).course =
          resolveAll settings context (matchesOf rule text) := course_runRule policy text rule
      have asked : (resolveAll settings context (matchesOf rule text)).exchanges responder state =
          (runRule settings context policy text rule).exchanges responder state := by
        rw [← here, Dialogue.exchanges_course]
      have left : ((resolveAll settings context (matchesOf rule text)).run responder state).2 =
          ((runRule settings context policy text rule).run responder state).2 := by
        rw [← here, Dialogue.run_course]
      rw [List.foldlM_cons, Dialogue.exchanges_bind, ih, resolved, resolveAll_append,
        Dialogue.exchanges_bind, asked, left]

/-- What is resolved before some rules have their turn, and from then on. -/
theorem resolved_of_reaches {policy : Policy} {rules left : List (Rule Token)}
    {text text₁ : List Char} {state state₁ : σ}
    (reached : Reaches responder (runRule settings context policy) rules text state
      left text₁ state₁) :
    ∃ earlier, rules = earlier ++ left ∧
      resolved settings context responder policy rules text state =
        resolved settings context responder policy earlier text state ++
          resolved settings context responder policy left text₁ state₁ := by
  induction reached with
  | start => exact ⟨[], rfl, rfl⟩
  | @next rule rules left text text₁ state state₁ rest ih =>
      obtain ⟨earlier, split, parts⟩ := ih
      refine ⟨rule :: earlier, by rw [split]; rfl, ?_⟩
      rw [resolved, parts, resolved, List.append_assoc]

/-- In the empty text no rule finds anything. -/
theorem resolved_nil {policy : Policy} {rules : List (Rule Token)}
    (stemmed : ∀ rule ∈ rules, rule.template.stem ≠ []) (state : σ) :
    resolved settings context responder policy rules [] state = [] := by
  induction rules generalizing state with
  | nil => rfl
  | cons rule rules ih =>
      obtain ⟨here, later⟩ := List.forall_mem_cons.1 stemmed
      have none : matchesOf rule [] = [] := by
        rw [matchesOf, Template.findAll_nil here]
        rfl
      rw [resolved, none, runRule_nil policy here]
      exact ih later _

/-! ## A pass that is cleared -/

/-- **A pass that is cleared finishes the rule at hand.**  Let a pass come to a rule,
and of its matches to one that resolves to nothing.  Then what the pass asks is what the
matches ask of the rules before, and all those of this rule, each once and in order; the
rules after it resolve nothing, and the message is empty. -/
theorem cleared_pass_finishes_its_rule {name : String} {rules : List (Rule Token)}
    (standard : .pass name .clearWhenEmpty rules ∈ Pipeline.stages) {text : List Char}
    (shown : Text.isBlankText text = false) {rule : Rule Token} {later : List (Rule Token)}
    {text₁ text₂ matched : List Char} {laterMatches : List (List Char)} {state state₁ state₂ : σ}
    (atRule : Reaches responder (runRule settings context .clearWhenEmpty) rules text state
      (rule :: later) text₁ state₁)
    (atMatch : Reaches responder (runMatch settings context .clearWhenEmpty rule.token)
      (rule.template.findAll text₁) text₁ state₁ (matched :: laterMatches) text₂ state₂)
    (nothing : ResolvesToNothing settings context responder rule.token matched state₂) :
    ∃ earlier, rules = earlier ++ rule :: later ∧
      (runPass settings context .clearWhenEmpty rules text).exchanges responder state =
        (resolveAll settings context
          (resolved settings context responder .clearWhenEmpty earlier text state ++
            matchesOf rule text₁)).exchanges responder state ∧
      ((runPass settings context .clearWhenEmpty rules text).run responder state).1 = [] := by
  have stemmed : ∀ rule ∈ rules, rule.template.stem ≠ [] := fun rule member =>
    Stage.stem_ne_nil standard (List.mem_map_of_mem member)
  obtain ⟨earlier, split, parts⟩ := resolved_of_reaches atRule
  have here : rule.template.stem ≠ [] := stemmed rule (by simp [split])
  have rest : ∀ other ∈ later, other.template.stem ≠ [] := by
    intro other member
    exact stemmed other (by simp [split, member])
  have cleared := runRule_of_nothing here atMatch nothing
  -- the rules after this one have the empty text to search
  have finished : resolved settings context responder .clearWhenEmpty (rule :: later) text₁
      state₁ = matchesOf rule text₁ := by
    rw [resolved, cleared, resolved_nil rest, List.append_nil]
  refine ⟨earlier, split, ?_, ?_⟩
  · rw [← finished, ← parts, ← exchanges_runRules, runPass, shown]
    rfl
  · exact runStage_of_silences standard (.pass shown atRule atMatch nothing)

/-- Someone who sets variables. -/
def setter : Context where
  sender := ⟨"ann", "1"⟩
  argument := some "5"

/-- A channel with a variable that is answered with a text of its own. -/
def answering : World where
  customs := ⟨[("$_a", { response := .custom, responseText := "noted" })]⟩

/-- The second variable is set although the first one has cleared the message; the third
is not, since it belongs to another rule. -/
theorem cleared_message_sets_two_of_three :
    let text := "$_a $_c $!_b".toList
    let rule : Rule Token := ⟨⟨"$_#", .name⟩, .customVariable .normal⟩
    let responder := World.answer fun _ => { rolls := id }
    let pass := runPass {} setter .clearWhenEmpty Pipeline.variableRules text
    .pass "custom" .clearWhenEmpty Pipeline.variableRules ∈ Pipeline.stages ∧
      ResolvesToNothing {} setter responder rule.token "$_a".toList answering ∧
      pass.exchanges responder answering =
        (resolveAll {} setter
          [⟨rule.token, "$_a".toList⟩, ⟨rule.token, "$_c".toList⟩]).exchanges responder answering ∧
      (pass.run responder answering).1 = [] ∧
      (pass.run responder answering).2.customs.get? "$_c" = some { value := "5" } ∧
      (pass.run responder answering).2.customs.get? "$_b" = none := by
  intro text rule responder pass
  have standard : .pass "custom" .clearWhenEmpty Pipeline.variableRules ∈ Pipeline.stages := by
    decide
  have found : rule.template.findAll text = ["$_a".toList, "$_c".toList] := by
    decide +kernel
  have nothing : ResolvesToNothing {} setter responder rule.token "$_a".toList answering := by
    intro value answered
    cases answered
    rfl
  have atRule : Reaches responder (runRule {} setter .clearWhenEmpty) Pipeline.variableRules text
      answering (rule :: Pipeline.variableRules.tail) text answering := .start
  have atMatch : Reaches responder (runMatch {} setter .clearWhenEmpty rule.token)
      (rule.template.findAll text) text answering ["$_a".toList, "$_c".toList] text answering := by
    rw [found]
    exact .start
  obtain ⟨earlier, split, asked, empty⟩ :=
    cleared_pass_finishes_its_rule standard (by decide) atRule atMatch nothing
  have first : earlier = [] := by
    have lengths := congrArg List.length split
    rw [List.length_append, List.length_cons, List.length_tail,
      show Pipeline.variableRules.length = 3 from rfl] at lengths
    exact List.eq_nil_of_length_eq_zero (by omega)
  rw [first, resolved, List.nil_append, matchesOf, found] at asked
  exact ⟨standard, nothing, asked, empty, by decide +kernel, by decide +kernel⟩

/-- **A pass that is cleared leaves matches of later rules unresolved**, although they
stood in the text at its start and overlap with no other match, and no value begins a
token: the second variable is not set. -/
theorem cleared_pass_leaves_matches :
    let text := "$_a $!_b".toList
    let responder := World.answer fun _ => { rolls := id }
    let pass := runPass {} setter .clearWhenEmpty Pipeline.variableRules text
    let one : Match := ⟨.customVariable .normal, "$_a".toList⟩
    let two : Match := ⟨.customVariable .quiet, "$!_b".toList⟩
    let value (found : Match) :=
      ((Chat.attempt (resolve {} setter found.token found.text)).run responder answering).1
    .pass "custom" .clearWhenEmpty Pipeline.variableRules ∈ Pipeline.stages ∧
      text = one.text ++ ' ' :: two.text ∧
      Pipeline.variableRules.flatMap (matchesOf · text) = [one, two] ∧
      value one = .ok [] ∧ value two = .ok "5".toList ∧
      resolved {} setter responder .clearWhenEmpty Pipeline.variableRules text answering = [one] ∧
      (pass.run responder answering).2.customs.get? "$_b" = none ∧
      ((resolveAll {} setter [one, two]).run responder answering).2.customs.get? "$_b" =
        some { value := "5" } := by
  intro text responder pass one two value
  refine ⟨by decide +kernel, rfl, by decide +kernel, rfl, rfl, by decide +kernel, ?_, ?_⟩
  · decide +kernel
  · decide

end Message

end ChatTemplate
