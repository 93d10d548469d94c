/-
# ChatTemplate.Proofs.Announcement -- what is announced when a variable is set

A variable that is set announces its new value in one line, and it is the only token that sends
lines of its own.  Every other token is resolved in one way whether its context is quiet or not
(`resolve_quiet`), while a line is sent as quietly as its context is: so whatever a message makes
of the new value, it sends no second line (`asks_no_line`).

The line is made of a phrase by replacing `$value` and then `$variable` in the whole of it, so
it tells the value as it is just when no `$variable` stands in it (`announcement_eq_iff`).

Main statement: `Message.announced_value`.
-/
import ChatTemplate.Proofs.Footprint
import ChatTemplate.Proofs.OneToken
import ChatTemplate.Proofs.VariableNames
import ChatTemplate.Proofs.DialogueFold

namespace ChatTemplate

set_option autoImplicit false

/-! ## Sending lines -/

/-- A query sends no line, unless it is as quiet as this. -/
def Query.SendsOnly (quiet : Bool) : Query → Prop
  | .send _ _ heard => heard = quiet
  | _ => True

/-- A query sends no line. -/
def Query.SendsNothing : Query → Prop
  | .send _ _ _ => False
  | _ => True

theorem Query.sendsNothing_of_both {query : Query} (both : ∀ quiet, query.SendsOnly quiet) :
    query.SendsNothing := by
  cases query with
  | send text sender heard =>
      have one : heard = true := both true
      have other : heard = false := both false
      rw [one] at other
      cases other
  | _ => trivial

variable {context : Context}

theorem Context.MayAsk.sendsOnly {query : Query} (permitted : context.MayAsk query) :
    query.SendsOnly context.quiet := by
  cases query with
  | send text sender heard => exact permitted.2
  | _ => trivial

namespace Message

variable {settings : Settings}

/-- What a message sends is as quiet as the message, whatever token it is for. -/
theorem asks_quietly (settings : Settings) (context : Context) (token : Token)
    (matched : List Char) :
    (Chat.attempt (resolve settings context token matched)).Asks
      (Query.SendsOnly context.quiet) := by
  have rules := Dialogue.Asks.compositional (Query.SendsOnly context.quiet)
  have each : ∀ query, context.MayAsk query →
      (Query.put query).Asks (Query.SendsOnly context.quiet) :=
    fun query permitted => .asks permitted.sendsOnly
  exact holds_resolve rules settings context (fun query permitted => each query permitted.mayAsk)
    (rules.of_asks each Scripting.asks_senderRecord)
    (Listing.holds_aliases rules (.asks trivial))
    (Listing.holds_commands rules (fun query permitted => each query permitted.mayAsk)
      (.asks trivial))
    token matched

/-- Only a variable that is set looks at whether the message is quiet. -/
theorem resolve_quiet {token : Token} (other : token ≠ .customVariable .normal) (quiet : Bool)
    (matched : List Char) :
    resolve settings { context with quiet } token matched =
      resolve settings context token matched := by
  cases token with
  | customVariable mode =>
      cases mode with
      | normal => exact absurd rfl other
      | quiet => rfl
      | silent => rfl
  | _ => rfl

/-- **Nothing but a variable that is set sends a line.** -/
theorem asks_no_line {token : Token} (other : token ≠ .customVariable .normal)
    (matched : List Char) :
    (Chat.attempt (resolve settings context token matched)).Asks Query.SendsNothing := by
  have each : ∀ quiet, (Chat.attempt (resolve settings context token matched)).Asks
      (Query.SendsOnly quiet) := by
    intro quiet
    rw [← resolve_quiet other quiet matched]
    exact asks_quietly settings { context with quiet } token matched
  exact (Dialogue.Asks.compositional Query.SendsNothing).of_asks
    (fun _ both => .asks (Query.sendsNothing_of_both both)) (Dialogue.Asks.forall each)

/-- Rules and stages without such a token send no line. -/
theorem rules_ask_no_line {rules : List (Rule Token)} {stages : List Stage}
    (inRules : ∀ rule ∈ rules, rule.token ≠ .customVariable .normal)
    (inStages : ∀ stage ∈ stages, .customVariable .normal ∉ stage.tokens) (policy : Policy)
    (text : List Char) :
    (rules.foldlM (runRule settings context policy) text >>=
      runStages settings context stages).Asks Query.SendsNothing := by
  have compositional := Dialogue.Asks.compositional Query.SendsNothing
  have unheard : ∀ query, context.MayAskUnheard query →
      (Query.put query).Asks Query.SendsNothing := fun query permitted =>
    .asks (Query.sendsNothing_of_both fun quiet => (permitted quiet).mayAsk.sendsOnly)
  refine compositional.bind (compositional.foldlM (fun rule member =>
    holds_runRule compositional settings (asks_no_line (inRules rule member)) policy) text) ?_
  exact compositional.foldlM fun stage member =>
    holds_runStage compositional settings context unheard fun token among =>
      asks_no_line fun same => inStages stage member (same ▸ among)

end Message

/-! ## The announcement -/

namespace VariableToken

/-- What is announced of a variable and a value. -/
def announced (name value : List Char) : List Char :=
  name ++ " was set to ".toList ++ value ++ ['.']

/-- The wording of a channel that sets none of its own. -/
def wording : String :=
  "$variable was set to $value."

theorem announcement_wording (name value : String) :
    announcement wording name value = String.ofList
      (announced name.toList (Text.replaceAll "$variable".toList name.toList value.toList)) := by
  have pieces : Text.splitOn "$value".toList wording.toList =
      ["$variable was set to ".toList, ['.']] := by decide
  have filled : Text.replaceAll "$value".toList value.toList wording.toList =
      "$variable".toList ++ (" was set to ".toList ++ (value.toList ++ ['.'])) := by
    rw [Text.replaceAll, pieces, Text.join_cons_of_ne_nil _ (List.cons_ne_nil _ _)]
    simp [Text.join]
  have absent : '$' ∉ " was set to ".toList := by decide
  have skipped := Text.replaceAll_skip_of_not_mem absent "variable".toList name.toList
    (value.toList ++ ['.'])
  rw [announcement, filled, Text.replaceAll_append (by decide)]
  change String.ofList (_ ++ Text.replaceAll ('$' :: "variable".toList) _ _) = _
  rw [skipped]
  change String.ofList (_ ++ (_ ++ Text.replaceAll "$variable".toList _ _)) = _
  rw [Text.replaceAll_concat (by decide) (by decide), announced]
  simp only [List.append_assoc]

/-- **An announcement tells the value as it is** just when no `$variable` stands in it. -/
theorem announced_eq_iff (name value : List Char) :
    announced ('$' :: '_' :: name)
        (Text.replaceAll "$variable".toList ('$' :: '_' :: name) value) =
      announced ('$' :: '_' :: name) value ↔ ¬ "$variable".toList <:+: value := by
  have shorter : ¬ '$' :: '_' :: name <+: "$variable".toList := by
    intro stands
    have second := (List.cons_prefix_cons.1 (List.cons_prefix_cons.1 stands).2).1
    exact absurd second (by decide)
  have longer : ¬ "$variable".toList <+: '$' :: '_' :: name := by
    intro stands
    have second := (List.cons_prefix_cons.1 (List.cons_prefix_cons.1 stands).2).1
    exact absurd second (by decide)
  rw [announced, announced, List.append_left_inj, List.append_right_inj,
    Text.replaceAll_eq_self_iff (by decide) shorter longer]

end VariableToken

/-! ## The message -/

theorem Context.given_of_argument {value : String} (argument : context.argument = some value)
    (nonempty : value ≠ "") : context.given? = some value := by
  rw [given?, argument, Option.filter_eq_some_iff]
  exact ⟨rfl, by simpa using nonempty⟩

/-- Nothing that is looked for before the variables begins like one. -/
def Pipeline.variablePlace : Place ⟨⟨"$_#", .name⟩, .customVariable .normal⟩ "$_".toList where
  early := stages.take 5
  name := "custom"
  passed := []
  left := variableRules.tail
  later := stages.drop 6
  stages := rfl
  apart := by decide
  others := nofun
  decoded := by decide

namespace Message

variable {host : Host} {settings : Settings} {world : World}

/-- A dialogue that sends nothing leaves the lines as they are. -/
theorem sent_of_sendsNothing {α : Type} {dialogue : Dialogue α}
    (asks : dialogue.Asks Query.SendsNothing) (world : World) :
    (host.run dialogue world).2.sent = world.sent := by
  refine Dialogue.Keeps.run_preserves (fun now : World => now.sent = world.sent)
    (fun query now nothing same => ?_) asks rfl
  rcases host.answer_world query now with kept | answered
  · rw [kept]
    exact same
  · rw [answered]
    cases query with
    | send text sender quiet => exact nothing.elim
    | _ => exact same

theorem run_writeVariable (up : Collaborator.customs ∉ host.down) (name value : String)
    (world : World) :
    (Chat.attempt (Chat.ask (Query.put (.writeVariable name value)))).run host.answer world =
      (.ok (world.writeVariable name value).1, (world.writeVariable name value).2) := by
  have answered : host.answer (.writeVariable name value) world =
      (.ok (world.writeVariable name value).1, (world.writeVariable name value).2) :=
    Host.answer_of_responsible rfl up world
  exact answered

theorem run_send (up : Collaborator.chat ∉ host.down) (line : String) (sender : Sender)
    (quiet : Bool) (world : World) :
    (Chat.attempt (Chat.ask (Query.put (.send line sender quiet)))).run host.answer world =
      (.ok (), world.send line sender quiet) := by
  have answered : host.answer (.send line sender quiet) world =
      (.ok (), world.send line sender quiet) :=
    Host.answer_of_responsible rfl up world
  exact answered

/-- The value is announced and shown. -/
theorem run_respond (up : Collaborator.chat ∉ host.down) {outcome : SetOutcome}
    (announces : outcome.response = .announced) (accepted : outcome.accepted = true)
    (unscripted : outcome.scripted = false) (name : String) (world : World) :
    (Chat.attempt (VariableToken.respond context name outcome)).run host.answer world =
      (.ok outcome.currentValue.toList,
        world.send (VariableToken.announcement (world.phrase "filters.setVariable") name
          outcome.newValue) context.sender context.quiet) := by
  have worded : (Chat.attempt (liftM (Query.put (.phrase "filters.setVariable")))).run
      host.answer world = (.ok (world.phrase "filters.setVariable"), world) := rfl
  rw [VariableToken.respond, announces]
  dsimp only
  rw [accepted, unscripted, if_pos (by decide), Chat.run_bind_of_ok worded,
    Chat.run_bind_of_ok (run_send up _ _ _ world)]
  rfl

/-- A variable is written, its new value announced and shown. -/
theorem run_set {name : List Char} {value : String} (given : context.given? = some value)
    (stored : Collaborator.customs ∉ host.down) (heard : Collaborator.chat ∉ host.down)
    (announces : ((world.customs.get? ("$_" ++ String.ofList name)).getD {}).response = .announced)
    (unscripted : ((world.customs.get? ("$_" ++ String.ofList name)).getD {}).scripted = false) :
    (Chat.attempt (resolve settings context (.customVariable .normal)
        ('$' :: '_' :: name))).run host.answer world =
      (.ok value.toList,
        (world.writeVariable ("$_" ++ String.ofList name) value).2.send
          (VariableToken.announcement (world.phrase "filters.setVariable")
            ("$_" ++ String.ofList name) value) context.sender context.quiet) := by
  have named : VariableToken.nameOf ('$' :: '_' :: name) = "$_" ++ String.ofList name := rfl
  have sets : VariableToken.resolve context .normal ('$' :: '_' :: name) = (do
      let outcome ← Chat.ask (Query.put (.writeVariable ("$_" ++ String.ofList name) value))
      VariableToken.respond context ("$_" ++ String.ofList name) outcome) := by
    unfold VariableToken.resolve
    rw [named, given]
  rw [Message.resolve, sets, Chat.run_bind_of_ok (run_writeVariable stored _ _ world),
    run_respond heard announces rfl unscripted]
  rfl

/-- Once a variable has been resolved, nothing more is sent. -/
theorem behind_variables_ask_no_line (settings : Settings) (context : Context)
    (text : List Char) :
    (Pipeline.variablePlace.left.foldlM (runRule settings context .clearWhenEmpty) text >>=
      runStages settings context Pipeline.variablePlace.later).Asks Query.SendsNothing :=
  rules_ask_no_line (by decide) (by decide) .clearWhenEmpty text

/-- A message that is one variable is resolved, and the rest follows. -/
theorem render_variable {name : List Char} (some_ : name ≠ [])
    (chars : ∀ c ∈ name, Text.isNameChar c = true) :
    render settings context ('$' :: '_' :: name) =
      Chat.attempt (resolve settings context (.customVariable .normal) ('$' :: '_' :: name)) >>=
        fun result => Pipeline.variablePlace.left.foldlM (runRule settings context .clearWhenEmpty)
          (settle .clearWhenEmpty ('$' :: '_' :: name) result.toOption ('$' :: '_' :: name)) >>=
        runStages settings context Pipeline.variablePlace.later := by
  have proper : Mention.Proper ⟨name, []⟩ := ⟨some_, chars, nofun, List.not_mem_nil⟩
  have absent : ∀ {c}, Text.isNameChar c = false → c ∉ '_' :: name := proper.not_mem
  have plain : BeginsNoToken ('_' :: name) := ⟨absent (by decide), absent (by decide)⟩
  have only : BeginsOnlyWith "$_".toList ('$' :: '_' :: name) :=
    ⟨[], name, rfl, ⟨List.not_mem_nil, List.not_mem_nil⟩, plain⟩
  have decoded : CharReference.decode ('$' :: '_' :: name) = '$' :: '_' :: name :=
    CharReference.decode_eq_self <| by
      rw [List.mem_cons, not_or]
      exact ⟨by decide, absent (by decide)⟩
  have found := findAll_mentions List.not_mem_nil
    (List.forall_mem_singleton.2 proper)
  have written : writeMentions [⟨name, []⟩] = '$' :: '_' :: name := by
    simp [writeMentions, Mention.word]
  rw [List.nil_append, written, List.map_singleton, ← findAll_variableTemplate] at found
  exact render_of_one_match Pipeline.variablePlace only decoded rfl found

/-- **A variable is announced with its new value.**  A message that is the name of a variable
sends, when it has an argument, one line and no more, whatever the argument is and whatever
becomes of it in the later stages.  The line tells the argument with the name in place of every
`$variable`; so it is `$_name was set to value.` just when none stands there. -/
theorem announced_value (settings : Settings) {name : List Char} {value : String}
    (some_ : name ≠ []) (chars : ∀ c ∈ name, Text.isNameChar c = true)
    (argument : context.argument = some value) (nonempty : value ≠ "")
    (stored : Collaborator.customs ∉ host.down) (heard : Collaborator.chat ∉ host.down)
    (worded : world.phrase "filters.setVariable" = VariableToken.wording)
    (announces : ((world.customs.get? ("$_" ++ String.ofList name)).getD {}).response = .announced)
    (unscripted : ((world.customs.get? ("$_" ++ String.ofList name)).getD {}).scripted = false) :
    let line := VariableToken.announced ('$' :: '_' :: name)
      (Text.replaceAll "$variable".toList ('$' :: '_' :: name) value.toList)
    (host.run (render settings context ('$' :: '_' :: name)) world).2.sent =
        world.sent ++ [⟨String.ofList line, context.sender, context.quiet⟩] ∧
      (line = VariableToken.announced ('$' :: '_' :: name) value.toList ↔
        ¬ "$variable".toList <:+: value.toList) := by
  intro line
  have given := Context.given_of_argument argument nonempty
  have spelled : ("$_" ++ String.ofList name).toList = '$' :: '_' :: name := by simp
  have told : VariableToken.announcement VariableToken.wording ("$_" ++ String.ofList name) value =
      String.ofList line := by
    rw [VariableToken.announcement_wording, spelled]
  refine ⟨?_, VariableToken.announced_eq_iff name value.toList⟩
  rw [render_variable some_ chars, Host.run, Dialogue.run_bind,
    run_set given stored heard announces unscripted, worded, told]
  exact sent_of_sendsNothing (behind_variables_ask_no_line settings context _) _

/-- An argument with a command in it is announced as it is, and once. -/
theorem five_hugs_are_announced :
    let host : Host := { sources := fun _ => { rolls := id } }
    let context : Context := { argument := some "5 (!hug)" }
    let world : World := {}
    ((∀ c ∈ ['n'], Text.isNameChar c = true) ∧ context.argument = some "5 (!hug)" ∧
        world.phrase "filters.setVariable" = VariableToken.wording ∧
        ((world.customs.get? ("$_" ++ String.ofList ['n'])).getD {}).response = .announced ∧
        ((world.customs.get? ("$_" ++ String.ofList ['n'])).getD {}).scripted = false) ∧
      (host.run (render {} context ['$', '_', 'n']) world).2.sent =
        [⟨"$_n was set to 5 (!hug).", {}, false⟩] := by
  intro host context world
  have some_ : ['n'] ≠ [] := by decide
  have chars : ∀ c ∈ ['n'], Text.isNameChar c = true := List.forall_mem_singleton.2 (by decide)
  have argument : context.argument = some "5 (!hug)" := rfl
  have nonempty : "5 (!hug)" ≠ "" := by decide
  have stored : Collaborator.customs ∉ host.down := List.not_mem_nil
  have heard : Collaborator.chat ∉ host.down := List.not_mem_nil
  have worded : world.phrase "filters.setVariable" = VariableToken.wording := by decide
  have announces : ((world.customs.get? ("$_" ++ String.ofList ['n'])).getD {}).response =
      .announced := rfl
  have unscripted : ((world.customs.get? ("$_" ++ String.ofList ['n'])).getD {}).scripted =
      false := rfl
  obtain ⟨sent, verbatim⟩ := announced_value {} some_ chars argument nonempty stored heard worded
    announces unscripted
  have absent : ¬ "$variable".toList <:+: "5 (!hug)".toList := fun found =>
    absurd (found.subset (show '$' ∈ "$variable".toList by decide)) (by decide)
  have line : String.ofList (VariableToken.announced ['$', '_', 'n'] "5 (!hug)".toList) =
      "$_n was set to 5 (!hug)." := by decide
  rw [verbatim.2 absent, line] at sent
  exact ⟨⟨chars, argument, worded, announces, unscripted⟩, sent⟩

/-- In the new value a `$variable` is taken for that of the wording. -/
theorem variable_in_value_is_replaced :
    let host : Host := { sources := fun _ => { rolls := id } }
    let context : Context := { argument := some "a $variable b" }
    let world : World := {}
    (host.run (render {} context ['$', '_', 'n']) world).2.sent.map SentLine.text =
        ["$_n was set to a $_n b."] ∧
      "$_n was set to a $_n b." ≠
        String.ofList (VariableToken.announced ['$', '_', 'n'] "a $variable b".toList) := by
  intro host context world
  exact ⟨by decide +kernel, by decide⟩

end Message

end ChatTemplate
