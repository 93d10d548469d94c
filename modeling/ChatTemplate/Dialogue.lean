/-
# ChatTemplate.Dialogue -- computations that ask

A dialogue is a computation that either has its result or asks a query and goes
on with the answer, whatever it is.  What a render may ask and in which order is
therefore visible in the dialogue itself, before any collaborator is chosen: a
dialogue that is `pure` asks nothing.

`Dialogue.run` lets a responder answer, who keeps a state of its own.  What every
answer preserves, the whole run preserves (`run_preserves`), and the parts of a
dialogue run one after the other (`run_bind`).
-/
import ChatTemplate.Query

namespace ChatTemplate

set_option autoImplicit false

inductive Dialogue (α : Type) where
  | done (result : α)
  | ask (query : Query) (next : query.Answer → Dialogue α)

namespace Dialogue

variable {α β γ : Type}

/-- Goes on with a second dialogue when the first has its result. -/
def andThen : Dialogue α → (α → Dialogue β) → Dialogue β
  | done result, next => next result
  | ask query rest, next => ask query fun answer => (rest answer).andThen next

instance : Monad Dialogue where
  pure := done
  bind := andThen

/-! ## The laws of sequencing -/

theorem pure_eq (result : α) : (pure result : Dialogue α) = done result := rfl

theorem bind_eq (dialogue : Dialogue α) (next : α → Dialogue β) :
    dialogue >>= next = dialogue.andThen next := rfl

@[simp] theorem done_andThen (result : α) (next : α → Dialogue β) :
    (done result).andThen next = next result := rfl

@[simp] theorem ask_andThen (query : Query) (rest : query.Answer → Dialogue α)
    (next : α → Dialogue β) :
    (ask query rest).andThen next = ask query fun answer => (rest answer).andThen next := rfl

@[simp] theorem andThen_done (dialogue : Dialogue α) : dialogue.andThen done = dialogue := by
  induction dialogue with
  | done result => rfl
  | ask query rest ih => exact congrArg (ask query) (funext ih)

theorem andThen_assoc (dialogue : Dialogue α) (next : α → Dialogue β)
    (last : β → Dialogue γ) :
    (dialogue.andThen next).andThen last = dialogue.andThen fun a => (next a).andThen last := by
  induction dialogue with
  | done result => rfl
  | ask query rest ih => exact congrArg (ask query) (funext ih)

instance : LawfulMonad Dialogue :=
  LawfulMonad.mk' Dialogue andThen_done (fun _ _ => rfl) andThen_assoc

/-! ## Answering -/

/-- Someone who answers queries and keeps a state. -/
abbrev Responder (σ : Type) := (query : Query) → σ → query.Answer × σ

/-- The result of a dialogue with a responder, and the responder's last state. -/
def run {σ : Type} (responder : Responder σ) : Dialogue α → σ → α × σ
  | done result, state => (result, state)
  | ask query next, state =>
      let (answer, state) := responder query state
      run responder (next answer) state

theorem run_bind {σ : Type} (responder : Responder σ) (dialogue : Dialogue α)
    (next : α → Dialogue β) (state : σ) :
    (dialogue >>= next).run responder state =
      (next (dialogue.run responder state).1).run responder (dialogue.run responder state).2 := by
  induction dialogue generalizing state with
  | done result => rfl
  | ask query rest ih => exact ih _ _

/-- **What every answer preserves, a run preserves.** -/
theorem run_preserves {σ : Type} (responder : Responder σ) (holds : σ → Prop)
    (step : ∀ query state, holds state → holds (responder query state).2)
    (dialogue : Dialogue α) (state : σ) (start : holds state) :
    holds (dialogue.run responder state).2 := by
  induction dialogue generalizing state with
  | done result => exact start
  | ask query rest ih => exact ih _ _ (step query state start)

end Dialogue

/-! ## Asking -/

/-- A dialogue that can fail. -/
abbrev Chat := ExceptT Failure Dialogue

/-- The result of a dialogue, or what it failed with. -/
def Chat.attempt {α : Type} (chat : Chat α) : Dialogue (Except Failure α) :=
  ExceptT.run chat

/-- Fails unless there is a result. -/
def Chat.ofExcept {α : Type} : Except Failure α → Chat α
  | .ok result => return result
  | .error failure => throw failure

/-- Asks a query that may go unanswered. -/
def Chat.ask {α : Type} (dialogue : Dialogue (Except Failure α)) : Chat α :=
  ExceptT.mk dialogue

namespace Query

/-- The dialogue that asks one query. -/
def put (query : Query) : Dialogue query.Answer :=
  .ask query .done

end Query

end ChatTemplate
