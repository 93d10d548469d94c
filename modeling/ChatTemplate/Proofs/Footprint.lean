/-
# ChatTemplate.Proofs.Footprint -- what a message leaves behind

A message may look at all of a world and changes little of it: it counts and keeps
what it did, it may add a user, and it may give variables the argument of its
context (`World.LeftBy`).  All else is as it was, whoever is down and however the
message ends.

One answer leaves a world so if the query sets no variable to anything but the
argument (`LeftBy.answer`); no message asks more (`Context.MayAsk`), and what one
answer leaves a whole dialogue leaves (`Dialogue.Modest.compositional`).

Main statement: `Message.render_leaves`.
-/
import ChatTemplate.Proofs.Asking
import ChatTemplate.World.Host

namespace ChatTemplate

set_option autoImplicit false

/-! ## Worlds before and after -/

/-- **What may become of a variable**: nothing, or it gets the argument of the context
for its value.  Its response is the one that it had, and so is all else about it; a
new variable has what variables have at first. -/
def Context.MayTurn (context : Context) (before after : Option CustomVariable) : Prop :=
  after = before ∨
    ∃ value, context.argument = some value ∧ value ≠ "" ∧
      after = some { before.getD {} with value := value }

/-- **What a message may make of a world.**  The users that there were stay where they
were, variables turn into nothing but what they may, and the rest is equal. -/
structure World.LeftBy (context : Context) (before after : World) : Prop where
  users : before.users <+: after.users
  events : after.events = before.events
  rates : after.rates = before.rates
  routes : after.routes = before.routes
  stats : after.stats = before.stats
  credentials : after.credentials = before.credentials
  aliases : after.aliases = before.aliases
  commands : after.commands = before.commands
  cooldowns : after.cooldowns = before.cooldowns
  prices : after.prices = before.prices
  ranks : after.ranks = before.ranks
  points : after.points = before.points
  phrases : after.phrases = before.phrases
  customs (name : String) : context.MayTurn (before.customs.get? name) (after.customs.get? name)
  customs_of_none : context.given? = none → after.customs = before.customs

/-- A query sets no variable to anything but the argument. -/
def Context.MaySet (context : Context) : Query → Prop
  | .writeVariable _ value => context.given? = some value
  | _ => True

variable {context : Context} {start now : World}

theorem Context.MayAsk.maySet {query : Query} (permitted : context.MayAsk query) :
    context.MaySet query := by
  cases query with
  | writeVariable name value => exact permitted
  | _ => trivial

theorem Context.argument_of_given {value : String} (given : context.given? = some value) :
    context.argument = some value ∧ value ≠ "" := by
  obtain ⟨written, some_⟩ := Option.filter_eq_some_iff.1 given
  refine ⟨written, ?_⟩
  rintro rfl
  simp at some_

/-- A variable that has turned may be set to the argument again. -/
theorem Context.MayTurn.set {before after : Option CustomVariable}
    (turned : context.MayTurn before after) {value : String}
    (given : context.given? = some value) :
    context.MayTurn before (some { after.getD {} with value := value }) := by
  obtain ⟨written, some_⟩ := argument_of_given given
  right
  refine ⟨value, written, some_, ?_⟩
  rcases turned with rfl | ⟨earlier, -, -, rfl⟩
  · rfl
  · rfl

namespace World.LeftBy

theorem refl (world : World) : world.LeftBy context world where
  users := List.prefix_rfl
  events := rfl
  rates := rfl
  routes := rfl
  stats := rfl
  credentials := rfl
  aliases := rfl
  commands := rfl
  cooldowns := rfl
  prices := rfl
  ranks := rfl
  points := rfl
  phrases := rfl
  customs _ := .inl rfl
  customs_of_none _ := rfl

/-- **One answer leaves a world as a message may leave it.** -/
theorem answer (left : start.LeftBy context now) (sources : Nat → Dice) {query : Query}
    (permitted : context.MaySet query) :
    start.LeftBy context (World.answer sources query now).2 := by
  cases query with
  | createUser id name =>
      have more : start.users <+: now.users ++ [{ id := id, name := name }] :=
        left.users.trans (List.prefix_append _ _)
      exact { left with users := more }
  | writeVariable name value =>
      have given : context.given? = some value := permitted
      have turned : ∀ other, context.MayTurn (start.customs.get? other)
          ((now.writeVariable name value).2.customs.get? other) := by
        intro other
        by_cases same : other = name
        · subst same
          simp only [writeVariable, Table.get?_set, if_true]
          exact (left.customs other).set given
        · simp only [writeVariable, Table.get?_set, if_neg same]
          exact left.customs other
      have some_ : context.given? ≠ none := by simp [given]
      exact { left with customs := turned, customs_of_none := fun none => absurd none some_ }
  | _ => exact { left with }

end World.LeftBy

/-! ## Dialogues -/

/-- **A dialogue goes on leaving a world as a message may leave it.** -/
def Dialogue.Modest {α : Type} (context : Context) (dialogue : Dialogue α) : Prop :=
  ∀ (host : Host) (start now : World), start.LeftBy context now →
    start.LeftBy context (host.run dialogue now).2

theorem Dialogue.Modest.compositional (context : Context) :
    Compositional fun dialogue => dialogue.Modest context where
  pure result := by
    intro host start now left
    exact left
  bind {_ _ first next} one two := by
    intro host start now left
    have between := one host start now left
    rw [Host.run, Dialogue.run_bind]
    exact two _ host start _ between

theorem modest_put {query : Query} (permitted : context.MaySet query) :
    (Query.put query).Modest context := by
  intro host start now left
  show start.LeftBy context (host.answer query now).2
  rcases host.answer_world query now with same | answered
  · rw [same]
    exact left
  · rw [answered]
    exact left.answer host.sources permitted

/-! ## Messages -/

namespace Message

/-- **What a message may change.**  With any collaborators down and any random numbers,
a message leaves the users that there were, the events, rates, pages, statistics,
credentials, entries, points and phrases of the world as they were.  A variable is as
it was or, if the context has an argument that is not empty, has that for its value
and all else as before; without one no variable changes. -/
theorem render_leaves (host : Host) (settings : Settings) (context : Context) (text : List Char)
    (world : World) : world.LeftBy context (host.run (render settings context text) world).2 := by
  have rules := Dialogue.Modest.compositional context
  have each : ∀ query, context.MayAsk query → (Query.put query).Modest context :=
    fun query permitted => modest_put permitted.maySet
  have modest : (render settings context text).Modest context :=
    holds_render rules settings context each (Listing.holds_aliases rules (modest_put trivial))
      (Listing.holds_commands rules (fun query permitted => each query permitted.mayAsk)
        (modest_put trivial))
      text
  exact modest host world world (.refl world)

end Message

end ChatTemplate
