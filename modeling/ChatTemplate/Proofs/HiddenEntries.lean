/-
# ChatTemplate.Proofs.HiddenEntries -- entries that no message shows

Lists leave out the aliases and commands that are hidden or disabled.  Nothing
else looks at aliases and commands, so a message cannot tell two worlds apart that
differ in such entries only (`World.Alike`).

A dialogue is `Blind` when it goes on in the same way after answers that differ in
entries only that are not listed (`Query.Alike`).  Every message is blind
(`Message.blind_render`), and a blind dialogue takes the same course in two worlds
that are alike (`Dialogue.Blind.run_alike`).

Main statement: `Message.hidden_entries_never_show`.
-/
import ChatTemplate.Proofs.Asking
import ChatTemplate.World.Host

namespace ChatTemplate

set_option autoImplicit false

/-! ## What is listed -/

/-- Whether lists show an alias. -/
def AliasEntry.listed (entry : AliasEntry) : Bool :=
  entry.visible && entry.enabled

/-- Whether lists show a command. -/
def CommandEntry.listed (entry : CommandEntry) : Bool :=
  entry.visible && entry.enabled

/-- **Answers that differ in entries only that are not listed.** -/
def Query.Alike : (query : Query) → query.Answer → query.Answer → Prop
  | .aliases, one, other =>
      one.map (List.filter AliasEntry.listed) = other.map (List.filter AliasEntry.listed)
  | .commands, one, other =>
      one.map (List.filter CommandEntry.listed) = other.map (List.filter CommandEntry.listed)
  | _, one, other => one = other

theorem Query.Alike.refl (query : Query) (answer : query.Answer) : query.Alike answer answer := by
  cases query <;> rfl

/-- **Worlds that differ in entries only that are not listed**: those that are come in
the same order, and all else is equal. -/
structure World.Alike (world other : World) : Prop where
  rest : other = { world with aliases := other.aliases, commands := other.commands }
  aliases : world.aliases.filter AliasEntry.listed = other.aliases.filter AliasEntry.listed
  commands : world.commands.filter CommandEntry.listed = other.commands.filter CommandEntry.listed

/-! ## Dialogues that do not see other entries -/

namespace Dialogue

variable {α : Type}

/-- **A dialogue goes on in the same way after answers that are alike.** -/
def Blind : Dialogue α → Prop
  | done _ => True
  | ask query next =>
      (∀ one other, query.Alike one other → next one = next other) ∧
        ∀ answer, (next answer).Blind

theorem Blind.compositional : Compositional fun dialogue => dialogue.Blind where
  pure _ := trivial
  bind {_ _ first next} one two := by
    induction first with
    | done result => exact two result
    | ask query rest ih =>
        refine ⟨fun here there alike => ?_, fun answer => ih answer (one.2 answer)⟩
        exact congrArg (fun dialogue => dialogue.andThen next) (one.1 here there alike)

/-- **A blind dialogue takes the same course with responders who answer alike**: it
ends with the same result, asks the same queries in the same order and leaves the
responders in states that are related as before. -/
theorem Blind.run_alike {σ : Type} {responder : Responder σ} {related : σ → σ → Prop}
    (step : ∀ query one other, related one other →
      query.Alike (responder query one).1 (responder query other).1 ∧
        related (responder query one).2 (responder query other).2)
    {dialogue : Dialogue α} (blind : dialogue.Blind) {one other : σ} (start : related one other) :
    (dialogue.run responder one).1 = (dialogue.run responder other).1 ∧
      related (dialogue.run responder one).2 (dialogue.run responder other).2 ∧
      (dialogue.exchanges responder one).map (·.query) =
        (dialogue.exchanges responder other).map (·.query) := by
  induction dialogue generalizing one other with
  | done result => exact ⟨rfl, start, rfl⟩
  | ask query next ih =>
      obtain ⟨alike, later⟩ := step query one other start
      have same := blind.1 _ _ alike
      have goesOn := ih _ (blind.2 (responder query one).1) later
      rw [same] at goesOn
      obtain ⟨result, after, asked⟩ := goesOn
      simp only [run, exchanges, List.map_cons, same]
      exact ⟨result, after, congrArg _ asked⟩

end Dialogue

/-! ## Messages -/

/-- What is made of the entries that are listed is the same for entries alike. -/
theorem Chat.same_of_listed {τ α : Type} {listed : τ → τ} {one other : Except Failure τ}
    (alike : one.map listed = other.map listed) (next : τ → Chat α) :
    ExceptT.bindCont (fun entries => next (listed entries)) one =
      ExceptT.bindCont (fun entries => next (listed entries)) other := by
  cases one with
  | error cause =>
      cases other with
      | error cause' => cases alike; rfl
      | ok entries => cases alike
  | ok entries =>
      cases other with
      | error cause => cases alike
      | ok entries' =>
          have same : listed entries = listed entries' := Except.ok.inj alike
          simp only [ExceptT.bindCont, same]

theorem Chat.blind_listed_aliases {α : Type} (next : List AliasEntry → Chat α)
    (blind : ∀ entries, (Chat.attempt (next entries)).Blind) :
    (Chat.attempt (do
      let entries ← Chat.ask (Query.put .aliases)
      next (entries.filter AliasEntry.listed))).Blind := by
  refine ⟨fun one other alike => Chat.same_of_listed alike next, fun answer => ?_⟩
  cases answer with
  | ok entries => exact blind _
  | error cause => exact trivial

theorem Chat.blind_listed_commands {α : Type} (next : List CommandEntry → Chat α)
    (blind : ∀ entries, (Chat.attempt (next entries)).Blind) :
    (Chat.attempt (do
      let entries ← Chat.ask (Query.put .commands)
      next (entries.filter CommandEntry.listed))).Blind := by
  refine ⟨fun one other alike => Chat.same_of_listed alike next, fun answer => ?_⟩
  cases answer with
  | ok entries => exact blind _
  | error cause => exact trivial

theorem blind_put {context : Context} {query : Query} (permitted : context.MayAsk query) :
    (Query.put query).Blind := by
  cases query with
  | aliases => exact permitted.elim
  | commands => exact permitted.elim
  | _ => exact ⟨fun _ _ same => congrArg Dialogue.done same, fun _ => trivial⟩

namespace Listing

theorem blind_aliases (marked : Bool) : (Chat.attempt (aliases marked)).Blind := by
  have shown : ∀ entries : List AliasEntry, (Chat.attempt
      (return sorted (entries.map fun entry => shownName marked entry.name))).Blind :=
    fun _ => trivial
  exact Chat.blind_listed_aliases _ shown

theorem blind_commands (marked : Bool) (group : Option String) :
    (Chat.attempt (commands marked group)).Blind := by
  have shown : ∀ entries : List CommandEntry, (Chat.attempt
      (return sorted (entries.map fun entry => shownName marked entry.name))).Blind :=
    fun _ => trivial
  cases group with
  | none => exact Chat.blind_listed_commands _ shown
  | some group =>
      have chosen : ∀ entries, (Chat.attempt (ofGroup entries group)).Blind := by
        intro entries
        have asks : (ofGroup entries group).Asks (Context.MayAskUnlabelled {}) :=
          asks_ofGroup entries group
        exact Dialogue.Blind.compositional.of_asks (fun _ permitted => blind_put permitted.mayAsk)
          asks
      exact Chat.blind_listed_commands _ fun entries =>
        Dialogue.Blind.compositional.attempt_bind (chosen entries) shown

end Listing

/-- **No message sees an entry that is not listed.** -/
theorem Message.blind_render (settings : Settings) (context : Context) (text : List Char) :
    (render settings context text).Blind :=
  holds_render Dialogue.Blind.compositional settings context (fun _ => blind_put)
    Listing.blind_aliases Listing.blind_commands text

/-! ## Worlds -/

namespace World

variable {world other : World}

/-- No answer changes what the channel offers. -/
theorem answer_entries (sources : Nat → Dice) (query : Query) (world : World) :
    (answer sources query world).2.aliases = world.aliases ∧
      (answer sources query world).2.commands = world.commands := by
  cases query <;> exact ⟨rfl, rfl⟩

/-- **Worlds that are alike answer alike**, and are alike afterwards. -/
theorem Alike.answer (alike : world.Alike other) (sources : Nat → Dice) (query : Query) :
    query.Alike (World.answer sources query world).1 (World.answer sources query other).1 ∧
      (World.answer sources query world).2.Alike (World.answer sources query other).2 := by
  obtain ⟨rest, sameAliases, sameCommands⟩ := alike
  obtain ⟨aliases, commands, rfl⟩ :
      ∃ aliases commands, other = { world with aliases := aliases, commands := commands } :=
    ⟨_, _, rest⟩
  cases query with
  | aliases => exact ⟨congrArg Except.ok sameAliases, rfl, sameAliases, sameCommands⟩
  | commands => exact ⟨congrArg Except.ok sameCommands, rfl, sameAliases, sameCommands⟩
  | _ => exact ⟨rfl, rfl, sameAliases, sameCommands⟩

end World

namespace Host

theorem answer_alike (host : Host) (query : Query) (world other : World)
    (alike : world.Alike other) :
    query.Alike (host.answer query world).1 (host.answer query other).1 ∧
      (host.answer query world).2.Alike (host.answer query other).2 := by
  unfold answer
  split
  · split
    · exact ⟨.refl query _, alike⟩
    · exact alike.answer host.sources query
  · exact alike.answer host.sources query

/-- No dialogue changes what the channel offers. -/
theorem run_entries {α : Type} (host : Host) (dialogue : Dialogue α) (world : World) :
    (host.run dialogue world).2.aliases = world.aliases ∧
      (host.run dialogue world).2.commands = world.commands := by
  have step : ∀ query (now : World),
      (host.answer query now).2.aliases = now.aliases ∧
        (host.answer query now).2.commands = now.commands := by
    intro query now
    rcases host.answer_world query now with same | answered
    · rw [same]
      exact ⟨rfl, rfl⟩
    · rw [answered]
      exact World.answer_entries host.sources query now
  refine Dialogue.run_preserves host.answer
    (fun now => now.aliases = world.aliases ∧ now.commands = world.commands)
    (fun query now kept => ?_) dialogue world ⟨rfl, rfl⟩
  exact ⟨(step query now).1.trans kept.1, (step query now).2.trans kept.2⟩

end Host

namespace Message

/-- **Hidden entries never show.**  In two worlds that differ in aliases and commands
only that are hidden or disabled, with the same collaborators down and the same
random numbers, a text is rendered as the same message, asks the same queries in the
same order and leaves all but those entries equal. -/
theorem hidden_entries_never_show (host : Host) (settings : Settings) (context : Context)
    (text : List Char) {world other : World} (alike : world.Alike other) :
    (host.run (render settings context text) other).1 =
        (host.run (render settings context text) world).1 ∧
      (host.run (render settings context text) other).2 =
        { (host.run (render settings context text) world).2 with
          aliases := other.aliases, commands := other.commands } ∧
      ((render settings context text).exchanges host.answer other).map (·.query) =
        ((render settings context text).exchanges host.answer world).map (·.query) := by
  have course := (blind_render settings context text).run_alike host.answer_alike alike
  obtain ⟨result, after, asked⟩ := course
  obtain ⟨sameAliases, sameCommands⟩ :=
    host.run_entries (render settings context text) other
  refine ⟨result.symm, ?_, asked.symm⟩
  rw [← sameAliases, ← sameCommands]
  exact after.rest

/-- A channel with one command that everyone knows, and some others. -/
def offering (others : List CommandEntry) : World where
  commands := { name := "!hug" } :: others

theorem secret_commands_are_not_listed :
    let host : Host := { sources := fun _ => { rolls := id } }
    let text := "do: (list.!command)".toList
    let hidden : List CommandEntry :=
      [{ name := "!secret", visible := false }, { name := "!old", enabled := false }]
    (offering []).Alike (offering hidden) ∧
      (host.run (render {} {} text) (offering hidden)).1 = "do: !hug".toList := by
  intro host text hidden
  have alike : (offering []).Alike (offering hidden) := ⟨rfl, rfl, rfl⟩
  have shown : (host.run (render {} {} text) (offering [])).1 = "do: !hug".toList := by
    decide +kernel
  obtain ⟨same, -, -⟩ := hidden_entries_never_show host {} {} text alike
  exact ⟨alike, same.trans shown⟩

end Message

end ChatTemplate
