/-
# ChatTemplate.World.Host -- a world with collaborators that may be down

A host answers for a world, except that every query to a collaborator that is
down goes unanswered and has no effect.
-/
import ChatTemplate.World

namespace ChatTemplate

set_option autoImplicit false

/-- Who is responsible for a query. -/
def Query.collaborator? : Query → Option Collaborator
  | userNamed _ | userWithId _ | createUser _ _ | allUsers | usersWhere _ => some .users
  | latestEvent _ | eventsOf _ => some .events
  | usageOf _ => some .usage
  | convert _ _ _ => some .currency
  | dispatch _ _ _ => some .dispatcher
  | readVariable _ | writeVariable _ _ | isVariableSet _ => some .customs
  | fetch _ _ => some .web
  | stats | credentials => some .broadcast
  | aliases | commands | cooldowns | prices | ranks | permission _ => some .registry
  | pointsLabel _ => some .points
  | send _ _ _ => some .chat
  | phrase _ | chance => none

/-- The answer of a collaborator that is down. -/
def Query.refusal? : (query : Query) → Option query.Answer
  | userNamed _ => some (.error .unavailable)
  | userWithId _ => some (.error .unavailable)
  | createUser _ _ => some (.error .unavailable)
  | allUsers => some (.error .unavailable)
  | usersWhere _ => some (.error .unavailable)
  | latestEvent _ => some (.error .unavailable)
  | eventsOf _ => some (.error .unavailable)
  | usageOf _ => some (.error .unavailable)
  | convert _ _ _ => some (.error .unavailable)
  | dispatch _ _ _ => some (.error .unavailable)
  | readVariable _ => some (.error .unavailable)
  | writeVariable _ _ => some (.error .unavailable)
  | isVariableSet _ => some (.error .unavailable)
  | fetch _ _ => some (.error .unavailable)
  | stats => some (.error .unavailable)
  | credentials => some (.error .unavailable)
  | aliases => some (.error .unavailable)
  | commands => some (.error .unavailable)
  | cooldowns => some (.error .unavailable)
  | prices => some (.error .unavailable)
  | ranks => some (.error .unavailable)
  | permission _ => some (.error .unavailable)
  | pointsLabel _ => some (.error .unavailable)
  | send _ _ _ => some (.error .unavailable)
  | phrase _ => none
  | chance => none

structure Host where
  down : List Collaborator := []
  /-- The sources of random numbers, in the order in which they are given out. -/
  sources : Nat → Dice

namespace Host

def isDown (host : Host) (query : Query) : Bool :=
  query.collaborator?.any host.down.contains

def answer (host : Host) : Dialogue.Responder World := fun query world =>
  if host.isDown query then
    match query.refusal? with
    | some refusal => (refusal, world)
    | none => World.answer host.sources query world
  else World.answer host.sources query world

/-- A host leaves its world as the world's answer does, or as it is. -/
theorem answer_world (host : Host) (query : Query) (world : World) :
    (host.answer query world).2 = world ∨
      (host.answer query world).2 = (World.answer host.sources query world).2 := by
  unfold answer
  split
  · split
    · exact .inl rfl
    · exact .inr rfl
  · exact .inr rfl

/-- Collaborators who are not down answer as the world does. -/
theorem answer_of_up {host : Host} {query : Query} (up : host.isDown query = false)
    (world : World) : host.answer query world = World.answer host.sources query world := by
  rw [answer, up, if_neg Bool.false_ne_true]

/-- So does the collaborator who is responsible for a query and not down. -/
theorem answer_of_responsible {host : Host} {query : Query} {collaborator : Collaborator}
    (responsible : query.collaborator? = some collaborator) (up : collaborator ∉ host.down)
    (world : World) : host.answer query world = World.answer host.sources query world :=
  answer_of_up (by simpa [isDown, responsible] using up) world

/-- The result of a dialogue with a world, and the world after it. -/
def run {α : Type} (host : Host) (dialogue : Dialogue α) (world : World) : α × World :=
  dialogue.run host.answer world

end Host

end ChatTemplate
