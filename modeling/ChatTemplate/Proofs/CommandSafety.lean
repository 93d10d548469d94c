/-
# ChatTemplate.Proofs.CommandSafety -- messages that run no command

A command is run where `(!` stands in what the text has become when commands are
looked for.  By then the text of others has come into the message: what viewers
wrote, what was looked up for it.  The order of the stages keeps no such text out
of the commands (`viewer_text_is_run`).

A message runs no command when one of the two marks is tame in it and nothing
brings that mark: the exclamation mark is then nowhere, and no parenthesis comes to
stand before one.  Every stage before the commands keeps the mark tame
(`keeps_early`); the stages from the commands on run nothing but commands that
stand in the text (`keeps_commands`, `harmless_late`).

Main statement: `render_runs_no_command`.
-/
import ChatTemplate.Proofs.LateLookup
import ChatTemplate.Proofs.PlaceholderMark
import ChatTemplate.Proofs.TemplateInstances

namespace ChatTemplate

set_option autoImplicit false

variable {c : Char} {banned : List Char} {settings : Settings} {context : Context}
  {text : List Char}

/-! ## The stages around the commands -/

namespace Pipeline

/-- The stages before the one of inline commands. -/
def beforeCommands : List Stage :=
  stages.takeWhile (· ≠ commandStage)

/-- The stages after it. -/
def afterCommands : List Stage :=
  (stages.dropWhile (· ≠ commandStage)).tail

theorem stages_eq : stages = beforeCommands ++ commandStage :: afterCommands := by
  decide

theorem beforeCommands_subset : beforeCommands ⊆ stages :=
  (List.takeWhile_prefix _).subset

end Pipeline

/-- Whether a token is one of an address, a list or another channel's stream, which
are replaced after the commands. -/
def Token.isLate : Token → Bool
  | .query | .address | .list | .stream _ => true
  | _ => false

/-- Whether a token is an inline command. -/
def Token.isCommand : Token → Bool
  | .dispatch _ => true
  | _ => false

/-- The rules of a stage for tokens. -/
def Stage.rules : Stage → List (Rule Token)
  | .pass _ _ rules => rules
  | _ => []

theorem Stage.template_mem {stage : Stage} {rule : Rule Token} (known : rule ∈ stage.rules) :
    rule.template ∈ stage.templates := by
  cases stage with
  | pass name policy rules => exact List.mem_map_of_mem known
  | _ => nomatch known

theorem Stage.early_rules : ∀ stage ∈ Pipeline.beforeCommands, ∀ rule ∈ stage.rules,
    rule.token.isLate = false ∧ rule.token.isCommand = false := by
  decide

theorem Stage.late_rules : ∀ stage ∈ Pipeline.afterCommands, ∀ rule ∈ stage.rules,
    rule.token.isLate = true := by
  decide

/-- A condition ends with a parenthesis. -/
theorem Stage.condition_ends : ∀ stage ∈ Pipeline.beforeCommands, ∀ rule ∈ stage.rules,
    rule.token = .condition →
      rule.template.text.toList = rule.template.text.toList.dropLast ++ [')'] := by
  decide

/-- A script begins with a parenthesis that is not sealed. -/
theorem Stage.script_begins : ∀ stage ∈ Pipeline.beforeCommands, ∀ rule ∈ stage.rules,
    rule.token = .script → ['(', 'e'] <+: rule.template.stem := by
  decide

theorem Stage.opens_stem {stage : Stage} (standard : stage ∈ Pipeline.stages)
    {template : Template} (member : template ∈ stage.templates) : Text.Opens template.stem := by
  rcases stem_head standard member with dollar | paren
  · exact ⟨'$', dollar, by decide⟩
  · exact ⟨'(', paren, by decide⟩

theorem Template.opens_of_mem_findAll {template : Template} (opens : Text.Opens template.stem)
    {matched : List Char} (member : matched ∈ template.findAll text) : Text.Opens matched := by
  obtain ⟨rest, rfl⟩ := stem_begins_of_mem_findAll member
  exact opens.append rest

/-! ## Replacing -/

namespace Message

theorem tame_splice {matched value : List Char} (opens : Text.Opens matched)
    (fits : Fits c value) (tame : Tame c [] text) : Tame c [] (splice matched value text) :=
  (tame.replaceFirst opens fits).trim

theorem tame_settle {policy : Policy} {matched : List Char} {value? : Option (List Char)}
    (opens : Text.Opens matched) (fits : ∀ value ∈ value?, Fits c value)
    (tame : Tame c [] text) : Tame c [] (settle policy matched value? text) := by
  have cleared : Tame c [] [] := .of_not_mem List.not_mem_nil
  unfold settle
  split
  · exact tame_splice opens (fits _ rfl) tame
  · exact tame
  · split
    · exact cleared
    · exact tame_splice opens (fits _ rfl) tame
  · exact cleared

/-- **A rule keeps a mark tame**, when the value of every match fits in. -/
theorem keeps_runRule {policy : Policy} {rule : Rule Token}
    (opens : Text.Opens rule.template.stem)
    (value : ∀ matched ∈ rule.template.findAll text,
      Chat.Keeps (.harmless banned) (Fits c) (resolve settings context rule.token matched))
    (tame : Tame c [] text) :
    (runRule settings context policy text rule).Keeps (.harmless banned) (Tame c []) := by
  refine (Dialogue.Keeps.sequential _).foldlM (fun matched member current here => ?_) tame
  refine Dialogue.Keeps.bind (value matched member) fun result fits => .pure ?_
  refine tame_settle (Template.opens_of_mem_findAll opens member) (fun value given => ?_) here
  cases result with
  | ok other => exact fits _ (congrArg Except.ok (Option.some.inj given))
  | error cause => nomatch given

theorem keeps_runPass {policy : Policy} {rules : List (Rule Token)}
    (each : ∀ rule ∈ rules, ∀ text, Tame c [] text →
      (runRule settings context policy text rule).Keeps (.harmless banned) (Tame c []))
    (tame : Tame c [] text) :
    (runPass settings context policy rules text).Keeps (.harmless banned) (Tame c []) := by
  unfold runPass
  split
  · exact .pure tame
  · exact (Dialogue.Keeps.sequential _).foldlM
      (fun rule member text here => each rule member text here) tame

theorem keeps_isOpen (gate : Gate) : (isOpen gate).Keeps (.harmless banned) fun _ => True := by
  have asked : (Query.put .stats).Keeps (.harmless banned) fun _ => True :=
    .asks rfl
  refine asked.bind fun answer _ => ?_
  split
  · split <;> exact .pure trivial
  · exact .pure trivial

theorem keeps_runGates {rules : List (Rule Gate)}
    (opens : ∀ rule ∈ rules, Text.Opens rule.template.stem) (tame : Tame c [] text) :
    (runGates rules text).Keeps (.harmless banned) (Tame c []) := by
  have each : ∀ rule ∈ rules, ∀ text, Tame c [] text →
      (runGate text rule).Keeps (.harmless banned) (Tame c []) := by
    intro rule known text tame
    refine (Dialogue.Keeps.sequential _).foldlM (fun matched member text here => ?_) tame
    refine (keeps_isOpen rule.token).bind fun opened _ => ?_
    split
    · exact .pure (tame_splice (Template.opens_of_mem_findAll (opens rule known) member)
        (.of_not_mem List.not_mem_nil) here)
    · exact .pure (.of_not_mem List.not_mem_nil)
  unfold runGates
  split
  · exact .pure tame
  · exact (Dialogue.Keeps.sequential _).foldlM
      (fun rule known text here => each rule known text here) tame

theorem tame_applyAttributes (without : Context.Without c settings context)
    (tame : Tame c [] text) : Tame c [] (applyAttributes settings context text) :=
  List.foldlRecOn (motive := Tame c []) _ _ tame
    fun _ here entry member => here.replaceAll (Text.opens_cons _ (by decide))
      (.of_not_mem (without entry member))

/-! ## Before the commands -/

/-- **The value of a token that comes before the commands** fits in: it brings a mark
only from the token, the settings and the context of the message, or an answer. -/
theorem keeps_resolve (mark : IsMark c) (listed : c ∈ banned)
    (without : Context.Without c settings context) {token : Token}
    (early : token.isLate = false) (other : token.isCommand = false) {matched : List Char}
    (tame : Tame c [] matched) (ends : token = .condition → [')'] <:+ matched)
    (script : token = .script → c ∉ matched) :
    Chat.Keeps (.harmless banned) (Fits c) (resolve settings context token matched) := by
  have free : ∀ {value : Chat (List Char)}, value.Keeps (.harmless banned) (c ∉ ·) →
      value.Keeps (.harmless banned) (Fits c) := fun keeps => keeps.mono fun _ => .of_not_mem
  cases token with
  | price => exact free (Information.keeps_price mark listed settings context)
  | topTip => exact free (Information.keeps_topTip mark listed settings matched)
  | game => exact free (Information.keeps_game mark listed)
  | status => exact free (Information.keeps_status mark listed)
  | randomUser online pool =>
      exact free (RandomPick.keeps_viewer mark listed settings online pool)
  | randomNumber => exact free (.lift (RandomPick.keeps_number mark context matched))
  | trueOrFalse => exact free (.lift (RandomPick.keeps_coin mark))
  | condition => exact .lift (Condition.keeps_resolve without tame (ends rfl))
  | customVariable mode => exact free (VariableToken.keeps_resolve listed context mode matched)
  | script => exact free (Scripting.keeps_resolve mark listed without (script rfl))
  | toUser => exact .pure (.of_not_mem (Argument.not_mem_toUser mark without))
  | argument => exact .pure (.of_not_mem without.argumentText)
  | argumentOrNone => exact .pure (.of_not_mem (Argument.not_mem_writtenOrNone mark without))
  | arithmetic => exact free (Calculation.keeps_resolve mark matched)
  | usageOf => exact free (Commands.keeps_usageOf mark matched)
  | usage => exact free (Commands.keeps_usage mark context)
  | dispatch quiet => nomatch other
  | query | address | list | stream => nomatch early

theorem keeps_earlyRule (mark : IsMark c) (listed : c ∈ banned)
    (without : Context.Without c settings context) {stage : Stage}
    (early : stage ∈ Pipeline.beforeCommands) {rule : Rule Token} (known : rule ∈ stage.rules)
    (policy : Policy) (tame : Tame c [] text) :
    (runRule settings context policy text rule).Keeps (.harmless banned) (Tame c []) := by
  have opens := Stage.opens_stem (Pipeline.beforeCommands_subset early) (Stage.template_mem known)
  obtain ⟨notLate, noCommand⟩ := Stage.early_rules stage early rule known
  refine keeps_runRule opens (fun matched member => ?_) tame
  have inMatch : Tame c [] matched := tame.part (Template.infix_of_mem_findAll member)
  have ends : rule.token = .condition → [')'] <:+ matched := fun condition =>
    Template.ends_of_mem_findAll (by decide) (Stage.condition_ends stage early rule known condition)
      member
  have script : rule.token = .script → c ∉ matched := by
    intro script
    by_cases paren : c = '('
    · -- the parenthesis of the script itself is not sealed
      have begins := (Stage.script_begins stage early rule known script).trans
        (Template.stem_begins_of_mem_findAll member)
      have sealed := (inMatch.part begins.isInfix).sealed paren
      exact absurd sealed (by decide)
    · exact inMatch.absent paren
  exact keeps_resolve mark listed without notLate noCommand inMatch ends script

/-- **A stage before the commands keeps a mark tame.**  The placeholders come first
and are apart, as they decode what they have put in. -/
theorem keeps_early (mark : IsMark c) (listed : c ∈ banned)
    (without : Context.Without c settings context) {stage : Stage}
    (early : stage ∈ Pipeline.beforeCommands) (other : stage ≠ .placeholders)
    (tame : Tame c [] text) :
    (runStage settings context text stage).Keeps (.harmless banned) (Tame c []) := by
  cases stage with
  | placeholders => exact absurd rfl other
  | pass name policy rules =>
      exact keeps_runPass (fun rule known text here =>
        keeps_earlyRule mark listed without early known policy here) tame
  | gates name rules =>
      exact keeps_runGates (fun rule known => Stage.opens_stem
        (Pipeline.beforeCommands_subset early) (List.mem_map_of_mem known)) tame
  | attributes => exact .pure (tame_applyAttributes without tame)
  | page => exact absurd early (by decide)

/-! ## The commands -/

/-- **Where a mark is tame no command is found**; that a command was used so many
times is a number. -/
theorem keeps_commands (opens : c = '(' ∨ c = '!') (tame : Tame c [] text) :
    (runStage settings context text Pipeline.commandStage).Harmless := by
  have mark : IsMark c := opens.imp id .inl
  have kinds : ∀ rule ∈ Pipeline.commandRules, rule.token = .usageOf ∨ rule.token = .usage ∨
      ['(', '!'] <+: rule.template.stem := by
    decide
  refine (keeps_runPass (c := c) (fun rule member text here => ?_) tame).mono fun _ _ => trivial
  have standard : Pipeline.commandStage ∈ Pipeline.stages := by decide
  have opensStem := Stage.opens_stem standard (Stage.template_mem member)
  rcases kinds rule member with usageOf | usage | command
  · exact keeps_runRule opensStem (fun matched _ => usageOf ▸
      (Commands.keeps_usageOf mark matched).mono fun _ => .of_not_mem) here
  · exact keeps_runRule opensStem (fun matched _ => usage ▸
      (Commands.keeps_usage mark context).mono fun _ => .of_not_mem) here
  · have absent : ¬ rule.template.stem <:+: text := fun found =>
      here.no_command opens (command.isInfix.trans found)
    rw [runRule_of_no_match (Template.findAll_eq_nil absent)]
    exact .pure here

/-! ## After the commands -/

/-- **After the commands no command is run**, whatever the text. -/
theorem harmless_late {stage : Stage} (late : stage ∈ Pipeline.afterCommands) (text : List Char) :
    (runStage settings context text stage).Harmless := by
  have value : ∀ token : Token, token.isLate = true → ∀ matched,
      (resolve settings context token matched).Harmless := by
    intro token late matched
    cases token with
    | query => exact .pure trivial
    | address => exact .pure trivial
    | list => exact Listing.harmless_resolve matched
    | stream field => exact .lift (StreamLookup.harmless_resolve field matched)
    | _ => nomatch late
  have kind : ∀ stage ∈ Pipeline.afterCommands, (stage matches .pass .. | .page) = true := by
    decide
  cases stage with
  | pass name policy rules =>
      rw [runStage, runPass]
      split
      · exact .pure trivial
      · refine (Dialogue.Keeps.sequential _).foldlM (fun rule member text _ => ?_) trivial
        have lateToken := Stage.late_rules _ late rule member
        exact (Dialogue.Keeps.sequential _).foldlM (fun matched _ text _ =>
          Dialogue.Keeps.bind (value _ lateToken matched) fun _ _ => .pure trivial) trivial
  | page =>
      rw [runStage, runPage]
      split
      · exact .pure trivial
      · exact Page.harmless_apply text
  | placeholders | gates | attributes => exact absurd (kind _ late) Bool.false_ne_true

/-- **From the commands on no command is run**, where one of the marks is tame. -/
theorem harmless_from_commands (opens : c = '(' ∨ c = '!') (tame : Tame c [] text) :
    (runStages settings context (Pipeline.commandStage :: Pipeline.afterCommands)
      text).Harmless := by
  rw [runStages, List.foldlM_cons]
  refine (keeps_commands opens tame).bind fun text _ => ?_
  exact (Dialogue.Keeps.sequential _).foldlM (fun stage late text _ => harmless_late late text)
    trivial

/-! ## Rendering -/

/-- **A message that brings no command together.**  Of the two marks of commands, either
the exclamation mark is not in the text or every parenthesis is followed by something
solid; what the settings and the context put into the text is without the mark; and
there is no character reference that could stand for it. -/
structure Guarded (c : Char) (settings : Settings) (context : Context) (raw : List Char) :
    Prop where
  guard : c = '!' ∧ '!' ∉ raw ∨ c = '(' ∧ Text.Sealed raw
  noReference : '&' ∉ raw
  inSettings : Lacks c [settings.version, settings.songFormat]
  noReferenceInSettings : Lacks '&' [settings.version, settings.songFormat]
  inContext : Context.Without c settings context

section

variable {σ : Type} {responder : Dialogue.Responder σ} {start : σ} {raw : List Char}

theorem Guarded.opens (guarded : Guarded c settings context raw) : c = '(' ∨ c = '!' :=
  guarded.guard.elim (fun bang => .inr bang.1) fun paren => .inl paren.1

theorem Guarded.tame (guarded : Guarded c settings context raw) : Tame c [] raw := by
  rcases guarded.guard with ⟨rfl, absent⟩ | ⟨rfl, sealed⟩
  · exact .of_not_mem absent
  · exact ⟨fun _ => by rwa [List.append_nil], fun other => absurd rfl other⟩

/-- **The stages before the commands** run none and keep the mark tame, when no answer
brings it. -/
theorem before_commands (guarded : Guarded c settings context raw)
    (answers : ∀ exchange ∈
      (runStages settings context Pipeline.beforeCommands raw).exchanges responder start,
      Lacks c exchange.texts)
    (references : ∀ exchange ∈ (Placeholder.apply settings "" raw).exchanges responder start,
      Lacks '&' exchange.texts) :
    (∀ exchange ∈
      (runStages settings context Pipeline.beforeCommands raw).exchanges responder start,
      exchange.query.runsCommand = false) ∧
      Tame c [] ((runStages settings context Pipeline.beforeCommands raw).run responder start).1 := by
  have mark : IsMark c := guarded.opens.imp id .inl
  obtain ⟨others, opening, apart, early⟩ : ∃ others,
      Pipeline.beforeCommands = .placeholders :: others ∧ .placeholders ∉ others ∧
        ∀ stage ∈ others, stage ∈ Pipeline.beforeCommands :=
    ⟨Pipeline.beforeCommands.tail, by decide⟩
  have both : runStages settings context Pipeline.beforeCommands raw =
      Placeholder.apply settings "" raw >>= runStages settings context others := by
    rw [opening]
    rfl
  rw [both] at answers ⊢
  rw [Dialogue.forall_exchanges_bind] at answers ⊢
  obtain ⟨shown, later⟩ := answers
  have placing : (Placeholder.apply settings "" raw).Keeps (.harmless [c, '&']) (Tame c []) :=
    Placeholder.keeps_apply mark (by simp) (by simp) guarded.inSettings
      guarded.noReferenceInSettings guarded.tame guarded.noReference
  obtain ⟨placed, tame⟩ := placing.run fun exchange asked => List.forall_mem_cons.2
    ⟨shown exchange asked, List.forall_mem_singleton.2 (references exchange asked)⟩
  have replacing : ∀ text, Tame c [] text →
      (runStages settings context others text).Keeps (.harmless [c]) (Tame c []) := fun text =>
    (Dialogue.Keeps.sequential _).foldlM fun stage member text here =>
      keeps_early mark List.mem_cons_self guarded.inContext (early stage member)
        (fun same => apart (same ▸ member)) here
  obtain ⟨replaced, tameAfter⟩ := (replacing _ tame).run fun exchange asked =>
    List.forall_mem_singleton.2 (later exchange asked)
  rw [Dialogue.run_bind]
  exact ⟨⟨placed, replaced⟩, tameAfter⟩

/-- **A message that brings no command together runs none**, whatever is written by
viewers or looked up for it without the mark: no answer given before commands are
looked for may bring the mark, and none that placeholders show a character
reference. -/
theorem render_runs_no_command (guarded : Guarded c settings context raw)
    (answers : ∀ exchange ∈
      (runStages settings context Pipeline.beforeCommands raw).exchanges responder start,
      Lacks c exchange.texts)
    (references : ∀ exchange ∈ (Placeholder.apply settings "" raw).exchanges responder start,
      Lacks '&' exchange.texts) :
    ∀ exchange ∈ (render settings context raw).exchanges responder start,
      exchange.query.runsCommand = false := by
  have both : render settings context raw =
      runStages settings context Pipeline.beforeCommands raw >>=
        runStages settings context (Pipeline.commandStage :: Pipeline.afterCommands) := by
    rw [render, CharReference.decode_eq_self guarded.noReference, Pipeline.stages_eq]
    exact List.foldlM_append ..
  obtain ⟨early, tame⟩ := before_commands guarded answers references
  rw [both, Dialogue.forall_exchanges_bind]
  refine ⟨early, ((harmless_from_commands guarded.opens tame).run fun exchange _ => ?_).1⟩
  exact List.forall_mem_nil _

/-- An argument and a tip that are spelled like commands, behind a token. -/
theorem spelled_commands_are_shown :
    let context : Context := { sender := ⟨"ann", "1"⟩, argument := some "!ban bob)" }
    let tip : Event :=
      { kind := "tip", userName := "!mod ann", time := ⟨0, 0⟩, payload := .object [] }
    let world : World := { events := [tip], stats := { game := some "Chess" } }
    let responder := World.answer fun _ => { rolls := id }
    let raw := "(game)! $param $latestTip :(".toList
    (Guarded '(' {} context raw ∧
      (∀ exchange ∈
        (runStages {} context Pipeline.beforeCommands raw).exchanges responder world,
        Lacks '(' exchange.texts) ∧
      ∀ exchange ∈ (Placeholder.apply {} "" raw).exchanges responder world,
        Lacks '&' exchange.texts) ∧
    (∀ exchange ∈ (render {} context raw).exchanges responder world,
      exchange.query.runsCommand = false) ∧
    ((render {} context raw).run responder world).1 =
      "Chess! !ban bob) !mod ann :(".toList := by
  intro context tip world responder raw
  have guarded : Guarded '(' {} context raw :=
    ⟨.inr ⟨rfl, by decide +kernel⟩, by decide +kernel, by decide +kernel, by decide +kernel,
      by unfold Context.Without; decide +kernel⟩
  have answers : ∀ exchange ∈
      (runStages {} context Pipeline.beforeCommands raw).exchanges responder world,
      Lacks '(' exchange.texts := by decide +kernel
  have references : ∀ exchange ∈ (Placeholder.apply {} "" raw).exchanges responder world,
      Lacks '&' exchange.texts := by decide +kernel
  exact ⟨⟨guarded, answers, references⟩, render_runs_no_command guarded answers references,
    by decide +kernel⟩

end

/-- **What a viewer writes can be run as a command.**  The message has neither a
command nor a character reference in it, only the viewer's words. -/
theorem viewer_text_is_run :
    let context : Context := { sender := ⟨"ann", "1"⟩, argument := some "(!ban bob)" }
    let raw := "$param".toList
    let responder := World.answer fun _ => { rolls := id }
    '&' ∉ raw ∧ ¬ "(!".toList <:+: raw ∧
      ((render {} context raw).run responder {}).2.dispatched =
        [⟨context.sender, "!ban bob", { skipChecks := true, quiet := false }⟩] := by
  decide +kernel

end Message

end ChatTemplate
