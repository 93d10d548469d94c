/-
# ChatTemplate.Proofs.NewUsers -- who becomes a user

Messages and overlays make no user but their sender, and the sender only if there is
no user of that name.  So the users after a message are those before it, or those and
the sender (`World.JoinedBy`).

That is so of the record of the sender (`Scripting.letsJoin_senderRecord`), which is
made after a look for the name.  No other query that a message may put makes a user
(`letsJoin_put`), and once the sender has joined there is a user of that name, so what
holds of the parts of a message holds of all of it (`Dialogue.LetsJoin.compositional`).

Main statements: `Message.joinedBy_render` and `Overlay.joinedBy_render`.
-/
import ChatTemplate.Overlay
import ChatTemplate.Proofs.Asking
import ChatTemplate.World.Host

namespace ChatTemplate

set_option autoImplicit false

/-! ## Users before and after -/

/-- The user that a sender becomes. -/
def Sender.asUser (sender : Sender) : User where
  id := sender.id
  name := sender.name

/-- **The users are those that there were, or these and the sender**, whose name was
nobody's. -/
def World.JoinedBy (sender : Sender) (before after : World) : Prop :=
  after.users = before.users ∨
    before.userNamed? sender.name = none ∧ after.users = before.users ++ [sender.asUser]

variable {sender : Sender} {context : Context}

namespace World

theorem userNamed?_congr {world other : World} (same : other.users = world.users)
    (name : String) : other.userNamed? name = world.userNamed? name := by
  rw [userNamed?, userNamed?, same]

/-- A sender who has joined is known by name. -/
theorem userNamed?_of_joined {world other : World}
    (joined : other.users = world.users ++ [sender.asUser]) :
    other.userNamed? sender.name ≠ none := by
  intro unknown
  rw [userNamed?, joined, List.find?_eq_none] at unknown
  refine unknown sender.asUser (by simp) ?_
  simp [Sender.asUser, Text.sameIgnoringAsciiCase]

theorem JoinedBy.trans {before between after : World} (one : before.JoinedBy sender between)
    (two : between.JoinedBy sender after) : before.JoinedBy sender after := by
  rcases two with same | ⟨unknown, joined⟩
  · unfold JoinedBy
    rwa [same]
  · rcases one with same | ⟨-, earlier⟩
    · right
      rw [← userNamed?_congr same, ← same]
      exact ⟨unknown, joined⟩
    -- the sender does not join twice
    · exact absurd unknown (userNamed?_of_joined earlier)

end World

/-! ## Dialogues -/

/-- Only one query makes a user. -/
theorem Host.users_answer (host : Host) {query : Query}
    (other : ∀ id name, query ≠ .createUser id name) (world : World) :
    (host.answer query world).2.users = world.users := by
  rcases host.answer_world query world with same | answered
  · rw [same]
  · rw [answered]
    cases query with
    | createUser id name => exact absurd rfl (other id name)
    | _ => rfl

theorem Context.MayAskElsewhere.makes_no_user {query : Query}
    (permitted : context.MayAskElsewhere query) : ∀ id name, query ≠ .createUser id name := by
  rintro id name rfl
  exact permitted

/-- **A dialogue lets nobody but the sender join**, whoever answers. -/
def Dialogue.LetsJoin {α : Type} (sender : Sender) (dialogue : Dialogue α) : Prop :=
  ∀ (host : Host) (world : World), world.JoinedBy sender (host.run dialogue world).2

theorem Dialogue.LetsJoin.compositional (sender : Sender) :
    Compositional fun dialogue => dialogue.LetsJoin sender where
  pure result := fun host world => .inl rfl
  bind {_ _ first next} one two := by
    intro host world
    rw [Host.run, Dialogue.run_bind]
    exact (one host world).trans (two _ host _)

theorem letsJoin_put {query : Query} (other : ∀ id name, query ≠ .createUser id name) :
    (Query.put query).LetsJoin sender :=
  fun host world => .inl (host.users_answer other world)

/-- Whether there is a user of a name is answered truly or not at all. -/
theorem Host.answer_userNamed (host : Host) (name : String) (world : World) :
    host.answer (.userNamed name) world = (.error .unavailable, world) ∨
      host.answer (.userNamed name) world = (.ok (world.userNamed? name), world) := by
  unfold answer
  split
  · exact .inl rfl
  · exact .inr rfl

/-- The record of the sender is made if nobody has the sender's name. -/
theorem Scripting.letsJoin_senderRecord (sender : Sender) :
    (Chat.attempt (senderRecord sender)).LetsJoin sender := by
  intro host world
  have record : Chat.attempt (senderRecord sender) =
      (Query.put (.userNamed sender.name) >>= fun found =>
        match found with
        | .ok (some user) => pure (.ok user)
        | .ok none => Query.put (.createUser sender.id sender.name)
        | .error cause => pure (.error cause)) := by
    show Dialogue.ask _ _ = Dialogue.ask _ _
    congr 1
    funext found
    rcases found with cause | _ | user <;> rfl
  have asked : (Query.put (.userNamed sender.name)).run host.answer world =
      host.answer (.userNamed sender.name) world := rfl
  rw [record, Host.run, Dialogue.run_bind, asked]
  rcases host.answer_userNamed sender.name world with down | answered
  · rw [down]
    exact .inl rfl
  · rw [answered]
    cases known : world.userNamed? sender.name with
    | some user => exact .inl rfl
    | none =>
        rcases host.answer_world (.createUser sender.id sender.name) world with same | made
        · exact .inl (congrArg World.users same)
        · exact .inr ⟨known, congrArg World.users made⟩

/-! ## Messages and overlays -/

/-- **The only user that a message makes is its sender**, if nobody has that name. -/
theorem Message.joinedBy_render (host : Host) (settings : Settings) (context : Context)
    (text : List Char) (world : World) :
    world.JoinedBy context.sender (host.run (render settings context text) world).2 := by
  have rules := Dialogue.LetsJoin.compositional context.sender
  have each : ∀ query, context.MayAskElsewhere query → (Query.put query).LetsJoin context.sender :=
    fun query permitted => letsJoin_put permitted.makes_no_user
  have letsJoin : (render settings context text).LetsJoin context.sender :=
    holds_render_of_sender rules settings context each
      (Scripting.letsJoin_senderRecord context.sender)
      (Listing.holds_aliases rules (letsJoin_put (by simp)))
      (Listing.holds_commands rules (fun query permitted => each query permitted.elsewhere)
        (letsJoin_put (by simp))) text
  exact letsJoin host world

/-- Placeholders make no user at all. -/
theorem Message.users_renderPlaceholders (host : Host) (settings : Settings) (escape : String)
    (text : List Char) (world : World) :
    (host.run (renderPlaceholders settings escape text) world).2.users = world.users := by
  have asks : (renderPlaceholders settings escape text).Asks (Context.MayAskElsewhere {}) :=
    (Placeholder.asks_apply settings escape _).widen fun _ permitted => permitted.elsewhere
  have step : ∀ query (now : World), Context.MayAskElsewhere {} query → now.users = world.users →
      (host.answer query now).2.users = world.users :=
    fun query now permitted kept => (host.users_answer permitted.makes_no_user now).trans kept
  exact asks.run_preserves (fun now : World => now.users = world.users) step rfl

namespace Overlay

theorem asks_putVariable (draft : Draft) (name : List Char) :
    (putVariable draft name).Asks context.MayAskUnlabelled := by
  have isSet : (Chat.ask (Query.put (.isVariableSet (String.ofList name)))).Asks
      context.MayAskUnlabelled := .asks (.asks trivial)
  unfold putVariable
  split
  · exact .pure trivial
  · refine isSet.bind fun isSet _ => ?_
    split
    · exact (asks_readVariable _).bind fun _ _ => .pure trivial
    · exact .pure trivial

/-- **The only user that an overlay makes is one without a name**, if there is none. -/
theorem joinedBy_render (host : Host) (settings : Settings) (text : List Char) (world : World) :
    world.JoinedBy {} (host.run (Chat.attempt (render settings text)) world).2 := by
  have rules := Dialogue.LetsJoin.compositional {}
  have drafted : ((variablePattern.findAll text).foldlM putVariable { text }).Asks
      (Context.MayAskUnlabelled {}) := Chat.Asks.foldlM asks_putVariable _
  have each : ∀ query, Context.MayAskUnlabelled {} query → (Query.put query).LetsJoin {} :=
    fun query permitted => letsJoin_put permitted.elsewhere.makes_no_user
  have rendered : ∀ text, (Message.render settings {} text).LetsJoin {} :=
    fun text host world => Message.joinedBy_render host settings {} text world
  have letsJoin : (Chat.attempt (render settings text)).LetsJoin {} := by
    refine rules.attempt_bind (rules.of_asks each drafted) fun draft => ?_
    refine rules.attempt_bind ?_ fun _ => rules.pure _
    exact rules.bind (rendered draft.text) fun _ => rules.pure _
  exact letsJoin host world

end Overlay

end ChatTemplate
