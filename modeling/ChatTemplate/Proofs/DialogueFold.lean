/-
# ChatTemplate.Proofs.DialogueFold -- dialogues that work through a list

A message is rendered by folds: over the stages, over the rules of a pass, over
the matches of a rule.  `Reaches` says how far such a fold has come with some
responder: which items are left, which value it has made so far, and what state
the responder is in.

* `Reaches.run_eq`: what is left decides how the fold ends;
* `foldlM_eq_done`: a fold whose steps ask nothing asks nothing;
* `run_foldlM_fixed`: a value that every step keeps is what the fold ends with;
* `Reaches.run_fixed`: so is one that the fold comes to and every later step keeps;
* `Chat.run_foldlM_of_ok`: when no step fails or changes anything, a fold is one of values;
* `Chat.run_mapM_of_ok`: when no item fails, a list has a result for each of them.
-/
import ChatTemplate.Dialogue
import Mathlib.Data.List.Forall2

namespace ChatTemplate

set_option autoImplicit false

namespace Dialogue

section

variable {σ α β : Type} (responder : Responder σ) (step : β → α → Dialogue β)

/-! ## How far a fold has come -/

/-- **A fold over the first list comes to where the second list is left**, with
the value and the responder's state at that moment. -/
inductive Reaches : List α → β → σ → List α → β → σ → Prop
  | start {items : List α} {value : β} {state : σ} : Reaches items value state items value state
  | next {item : α} {items left : List α} {value value' : β} {state state' : σ}
      (rest : Reaches items ((step value item).run responder state).1
        ((step value item).run responder state).2 left value' state') :
      Reaches (item :: items) value state left value' state'

end

variable {σ α β : Type} {responder : Responder σ} {step : β → α → Dialogue β}

theorem run_foldlM_cons (item : α) (items : List α) (value : β) (state : σ) :
    ((item :: items).foldlM step value).run responder state =
      (items.foldlM step ((step value item).run responder state).1).run responder
        ((step value item).run responder state).2 := by
  rw [List.foldlM_cons, run_bind]

/-- What is left decides how the fold ends. -/
theorem Reaches.run_eq {items left : List α} {value value' : β} {state state' : σ}
    (reached : Reaches responder step items value state left value' state') :
    (items.foldlM step value).run responder state =
      (left.foldlM step value').run responder state' := by
  induction reached with
  | start => rfl
  | next rest ih => rw [run_foldlM_cons, ih]

/-- What is left was there at the start. -/
theorem Reaches.left_suffix {items left : List α} {value value' : β} {state state' : σ}
    (reached : Reaches responder step items value state left value' state') :
    left <:+ items := by
  induction reached with
  | start => exact List.suffix_rfl
  | next rest ih => exact ih.trans (List.suffix_cons _ _)

/-! ## Folds that change nothing -/

theorem foldlM_eq_done {items : List α} {value : β}
    (still : ∀ item ∈ items, step value item = done value) :
    items.foldlM step value = done value := by
  induction items with
  | nil => rfl
  | cons item items ih =>
      rw [List.foldlM_cons, still item (by simp), bind_eq, done_andThen]
      exact ih fun other member => still other (by simp [member])

/-- A fold comes past items whose steps ask nothing and keep the value. -/
theorem Reaches.past {items left : List α} {value : β}
    (still : ∀ item ∈ items, step value item = done value) (state : σ) :
    Reaches responder step (items ++ left) value state left value state := by
  induction items with
  | nil => exact .start
  | cons item items ih =>
      refine .next ?_
      rw [still item (by simp)]
      exact ih fun other member => still other (by simp [member])

/-- A value that every step keeps, whatever state it starts in, is kept. -/
theorem run_foldlM_fixed {items : List α} {value : β}
    (kept : ∀ item ∈ items, ∀ state, ((step value item).run responder state).1 = value)
    (state : σ) : ((items.foldlM step value).run responder state).1 = value := by
  induction items generalizing state with
  | nil => rfl
  | cons item items ih =>
      rw [run_foldlM_cons, kept item (by simp)]
      exact ih (fun other member => kept other (by simp [member])) _

/-- A fold that makes a value at some item ends with it when all items keep it. -/
theorem Reaches.run_fixed {item : α} {items left : List α} {value before fixed : β}
    {state state' : σ}
    (reached : Reaches responder step items value state (item :: left) before state')
    (made : ((step before item).run responder state').1 = fixed)
    (kept : ∀ item ∈ items, ∀ state, ((step fixed item).run responder state).1 = fixed) :
    ((items.foldlM step value).run responder state).1 = fixed := by
  rw [reached.run_eq, run_foldlM_cons, made]
  refine run_foldlM_fixed (fun other member => kept other ?_) _
  exact reached.left_suffix.subset (List.mem_cons_of_mem item member)

end Dialogue

/-! ## Dialogues that can fail -/

namespace Chat

open Dialogue (Responder)

variable {σ α β : Type} {responder : Responder σ}

/-- After a result the dialogue goes on with it. -/
theorem run_bind_of_ok {first : Chat α} {next : α → Chat β} {state after : σ} {result : α}
    (done : (Chat.attempt first).run responder state = (.ok result, after)) :
    (Chat.attempt (first >>= next)).run responder state =
      (Chat.attempt (next result)).run responder after := by
  have parts : Chat.attempt (first >>= next) =
      (Chat.attempt first >>= ExceptT.bindCont next) := rfl
  rw [parts, Dialogue.run_bind, done]
  rfl

/-- What is asked for and answered is the result. -/
theorem run_ask {dialogue : Dialogue (Except Failure α)} {state after : σ} {result : α}
    (answered : dialogue.run responder state = (.ok result, after)) :
    (Chat.attempt (Chat.ask dialogue)).run responder state = (.ok result, after) :=
  answered

/-- After a failure it does not go on. -/
theorem run_bind_of_error {first : Chat α} {next : α → Chat β} {state after : σ} {cause : Failure}
    (done : (Chat.attempt first).run responder state = (.error cause, after)) :
    (Chat.attempt (first >>= next)).run responder state = (.error cause, after) := by
  have parts : Chat.attempt (first >>= next) =
      (Chat.attempt first >>= ExceptT.bindCont next) := rfl
  rw [parts, Dialogue.run_bind, done]
  rfl

/-- Two ways to go on are the same when they are after the result that there is. -/
theorem run_bind_congr {first : Chat α} {next other : α → Chat β} {state : σ}
    (same : ∀ result after, (Chat.attempt first).run responder state = (.ok result, after) →
      (Chat.attempt (next result)).run responder after =
        (Chat.attempt (other result)).run responder after) :
    (Chat.attempt (first >>= next)).run responder state =
      (Chat.attempt (first >>= other)).run responder state := by
  have parts : ∀ next : α → Chat β, Chat.attempt (first >>= next) =
      (Chat.attempt first >>= ExceptT.bindCont next) := fun _ => rfl
  rw [parts, parts, Dialogue.run_bind, Dialogue.run_bind]
  cases done : (Chat.attempt first).run responder state with
  | mk outcome after =>
      cases outcome with
      | ok result => exact same result after done
      | error cause => rfl

/-- A fold whose steps give results and leave the responder as it is. -/
theorem run_foldlM_of_ok {step : β → α → Chat β} {f : β → α → β} {state : σ}
    (each : ∀ value item,
      (Chat.attempt (step value item)).run responder state = (.ok (f value item), state))
    (items : List α) (value : β) :
    (Chat.attempt (items.foldlM step value)).run responder state =
      (.ok (items.foldl f value), state) := by
  induction items generalizing value with
  | nil => rfl
  | cons item items ih =>
      rw [List.foldlM_cons, run_bind_of_ok (each value item), ih, List.foldl_cons]

/-- A list whose items give results, in states that are as they should be. -/
theorem run_mapM_of_ok {f : α → Chat β} {kept : σ → Prop} {holds : α → β → Prop}
    {items : List α}
    (each : ∀ item ∈ items, ∀ state, kept state → ∃ result after,
      (Chat.attempt (f item)).run responder state = (.ok result, after) ∧
        kept after ∧ holds item result)
    {state : σ} (start : kept state) :
    ∃ results after, (Chat.attempt (items.mapM f)).run responder state = (.ok results, after) ∧
      kept after ∧ List.Forall₂ holds items results := by
  induction items generalizing state with
  | nil => exact ⟨[], state, rfl, start, .nil⟩
  | cons item items ih =>
      obtain ⟨here, later⟩ := List.forall_mem_cons.1 each
      obtain ⟨result, after, ran, still, first⟩ := here state start
      obtain ⟨results, last, ranOn, still, others⟩ := ih later still
      refine ⟨result :: results, last, ?_, still, .cons first others⟩
      rw [List.mapM_cons, run_bind_of_ok ran, run_bind_of_ok ranOn]
      rfl

end Chat

end ChatTemplate
