/-
# ChatTemplate.Proofs.Exchange -- what is asked and how it is answered

With a responder a dialogue is a sequence of exchanges: what it asked, and the
answers that it got.  A `Contract` says what may be asked and what is expected of
an answer, and a dialogue `Keeps` it when it asks nothing else for as long as the
answers are as expected; it then ends with a result that has some property.

`Keeps` goes through dialogues as they are put together, one after the other
(`Keeps.bind`) and along a list (`Keeps.foldlM`, `Keeps.mapM`), whether they can
fail or not.

When all answers are known beforehand a dialogue is a plain value
(`Dialogue.given`), and a run that is told these answers ends with it
(`run_eq_given`).

Main statement: `Keeps.run`, what a dialogue that keeps a contract asks of a
responder and ends with.
-/
import ChatTemplate.Dialogue
import ChatTemplate.Proofs.Gives

namespace ChatTemplate

set_option autoImplicit false

/-! ## Exchanges -/

/-- A query and its answer. -/
structure Exchange where
  query : Query
  answer : query.Answer

namespace Dialogue

variable {σ α β : Type}

/-- **What a dialogue asks of a responder, and the answers**, in order. -/
def exchanges (responder : Responder σ) : Dialogue α → σ → List Exchange
  | done _, _ => []
  | ask query next, state =>
      let (answer, state) := responder query state
      ⟨query, answer⟩ :: exchanges responder (next answer) state

theorem exchanges_bind (responder : Responder σ) (dialogue : Dialogue α) (next : α → Dialogue β)
    (state : σ) :
    (dialogue >>= next).exchanges responder state =
      dialogue.exchanges responder state ++
        (next (dialogue.run responder state).1).exchanges responder
          (dialogue.run responder state).2 := by
  induction dialogue generalizing state with
  | done result => rfl
  | ask query rest ih => exact congrArg (List.cons _) (ih _ _)

/-- All that two dialogues ask, one after the other, has a property. -/
theorem forall_exchanges_bind {responder : Responder σ} {dialogue : Dialogue α}
    {next : α → Dialogue β} {state : σ} {holds : Exchange → Prop} :
    (∀ exchange ∈ (dialogue >>= next).exchanges responder state, holds exchange) ↔
      (∀ exchange ∈ dialogue.exchanges responder state, holds exchange) ∧
        ∀ exchange ∈ (next (dialogue.run responder state).1).exchanges responder
          (dialogue.run responder state).2, holds exchange := by
  rw [exchanges_bind, List.forall_mem_append]

end Dialogue

/-! ## Known answers -/

/-- One answer to every query. -/
abbrev Answers := (query : Query) → query.Answer

namespace Dialogue

variable {σ α β : Type} {answers : Answers}

/-- **The result of a dialogue when the answers are known.** -/
def given (answers : Answers) : Dialogue α → α
  | done result => result
  | ask query next => (next (answers query)).given answers

@[simp] theorem given_pure (result : α) : (pure result : Dialogue α).given answers = result := rfl

@[simp] theorem given_put (query : Query) : (Query.put query).given answers = answers query := rfl

@[simp] theorem given_bind (dialogue : Dialogue α) (next : α → Dialogue β) :
    (dialogue >>= next).given answers = (next (dialogue.given answers)).given answers := by
  induction dialogue with
  | done result => rfl
  | ask query rest ih => exact ih (answers query)

theorem given_mapM (f : α → Dialogue β) (items : List α) :
    (items.mapM f).given answers = items.map fun item => (f item).given answers := by
  induction items with
  | nil => rfl
  | cons item items ih =>
      rw [List.mapM_cons, given_bind, given_bind, ih]
      rfl

/-- A responder who always gives these answers is found to give them. -/
theorem told_of_steady (dialogue : Dialogue α) (state : σ) :
    ∀ exchange ∈ dialogue.exchanges (fun query state => (answers query, state)) state,
      exchange.answer = answers exchange.query := by
  induction dialogue with
  | done result => exact List.forall_mem_nil _
  | ask query rest ih => exact List.forall_mem_cons.2 ⟨rfl, ih (answers query)⟩

/-- A responder who is found to give these answers makes no other result. -/
theorem run_eq_given {responder : Responder σ} {dialogue : Dialogue α} {state : σ}
    (told : ∀ exchange ∈ dialogue.exchanges responder state,
      exchange.answer = answers exchange.query) :
    (dialogue.run responder state).1 = dialogue.given answers := by
  induction dialogue generalizing state with
  | done result => rfl
  | ask query rest ih =>
      obtain ⟨here, later⟩ := List.forall_mem_cons.1 told
      have same : (responder query state).1 = answers query := here
      change ((rest (responder query state).1).run responder (responder query state).2).1 = _
      rw [ih _ later, same]
      rfl

end Dialogue

/-! ## Contracts -/

/-- What may be asked, and what is expected of the answers. -/
structure Contract where
  asked : Query → Prop
  answered : (query : Query) → query.Answer → Prop

variable {α β : Type} {contract : Contract} {ends : α → Prop} {after : β → Prop}

/-- **A dialogue asks only what it may**, and its result is as it should be, as long
as the answers are as expected. -/
def Dialogue.Keeps (contract : Contract) (ends : α → Prop) : Dialogue α → Prop
  | done result => ends result
  | ask query next =>
      contract.asked query ∧
        ∀ answer, contract.answered query answer → (next answer).Keeps contract ends

namespace Dialogue.Keeps

theorem pure {result : α} (here : ends result) :
    Dialogue.Keeps contract ends (Pure.pure result) := here

theorem put {query : Query} {ends : query.Answer → Prop} (asked : contract.asked query)
    (answered : ∀ answer, contract.answered query answer → ends answer) :
    (Query.put query).Keeps contract ends :=
  ⟨asked, answered⟩

/-- Asking, with nothing expected of the answer. -/
theorem asks {query : Query} (asked : contract.asked query) :
    (Query.put query).Keeps contract fun _ => True :=
  put asked fun _ _ => trivial

theorem bind {first : Dialogue α} {next : α → Dialogue β} (one : first.Keeps contract ends)
    (two : ∀ result, ends result → (next result).Keeps contract after) :
    (first >>= next).Keeps contract after := by
  induction first with
  | done result => exact two result one
  | ask query rest ih => exact ⟨one.1, fun answer expected => ih answer (one.2 answer expected)⟩

theorem mono {ends more : α → Prop} {dialogue : Dialogue α} (keeps : dialogue.Keeps contract ends)
    (weaker : ∀ result, ends result → more result) : dialogue.Keeps contract more := by
  induction dialogue with
  | done result => exact weaker result keeps
  | ask query rest ih => exact ⟨keeps.1, fun answer expected => ih answer (keeps.2 answer expected)⟩

theorem and {ends also : α → Prop} {dialogue : Dialogue α} (one : dialogue.Keeps contract ends)
    (two : dialogue.Keeps contract also) :
    dialogue.Keeps contract fun result => ends result ∧ also result := by
  induction dialogue with
  | done result => exact ⟨one, two⟩
  | ask query rest ih =>
      exact ⟨one.1, fun answer expected => ih answer (one.2 answer expected) (two.2 answer expected)⟩

/-- **What a dialogue that keeps a contract asks of a responder, and ends with.** -/
theorem run {σ : Type} {responder : Responder σ} {dialogue : Dialogue α} {state : σ}
    (keeps : dialogue.Keeps contract ends)
    (answered : ∀ exchange ∈ dialogue.exchanges responder state,
      contract.answered exchange.query exchange.answer) :
    (∀ exchange ∈ dialogue.exchanges responder state, contract.asked exchange.query) ∧
      ends (dialogue.run responder state).1 := by
  induction dialogue generalizing state with
  | done result => exact ⟨List.forall_mem_nil _, keeps⟩
  | ask query rest ih =>
      obtain ⟨expected, later⟩ := List.forall_mem_cons.1 answered
      obtain ⟨asked, result⟩ := ih _ (keeps.2 _ expected) later
      exact ⟨List.forall_mem_cons.2 ⟨keeps.1, asked⟩, result⟩

end Dialogue.Keeps

/-! ## Dialogues that can fail -/

/-- **A dialogue that can fail keeps a contract**, and what it gives has a
property. -/
def Chat.Keeps (contract : Contract) (ends : α → Prop) (chat : Chat α) : Prop :=
  (Chat.attempt chat).Keeps contract (Gives ends)

namespace Chat.Keeps

theorem pure {result : α} (here : ends result) : Chat.Keeps contract ends (Pure.pure result) :=
  Gives.ok here

theorem throw (cause : Failure) : Chat.Keeps contract ends (MonadExcept.throw cause) :=
  Gives.error

theorem bind {first : Chat α} {next : α → Chat β} (one : first.Keeps contract ends)
    (two : ∀ result, ends result → (next result).Keeps contract after) :
    (first >>= next).Keeps contract after := by
  refine Dialogue.Keeps.bind one fun outcome here => ?_
  cases outcome with
  | ok result => exact two result (here result rfl)
  | error cause => exact Gives.error

/-- A dialogue that cannot fail, as part of one that can. -/
theorem lift {dialogue : Dialogue α} (keeps : dialogue.Keeps contract ends) :
    Chat.Keeps contract ends (liftM dialogue) :=
  keeps.bind fun _ here => pure here

theorem mono {more : α → Prop} {chat : Chat α} (keeps : chat.Keeps contract ends)
    (weaker : ∀ result, ends result → more result) : chat.Keeps contract more :=
  Dialogue.Keeps.mono keeps fun _ here result same => weaker result (here result same)

theorem map {f : α → β} {chat : Chat α} (keeps : chat.Keeps contract ends)
    (image : ∀ result, ends result → after (f result)) : (f <$> chat).Keeps contract after := by
  rw [map_eq_pure_bind]
  exact keeps.bind fun result here => pure (image result here)

/-- Asking a query that may go unanswered. -/
theorem ask {dialogue : Dialogue (Except Failure α)} (keeps : dialogue.Keeps contract (Gives ends)) :
    Chat.Keeps contract ends (Chat.ask dialogue) := keeps

/-- The same, with nothing expected of the answer. -/
theorem asks {dialogue : Dialogue (Except Failure α)}
    (keeps : dialogue.Keeps contract fun _ => True) :
    Chat.Keeps contract (fun _ => True) (Chat.ask dialogue) :=
  Dialogue.Keeps.mono keeps fun _ _ _ _ => trivial

end Chat.Keeps

/-! ## Along a list -/

/-- The two rules that a way of keeping something needs to go along a list. -/
structure Sequential (m : Type → Type) [Monad m]
    (keeps : {α : Type} → (α → Prop) → m α → Prop) : Prop where
  pure {α : Type} {ends : α → Prop} {result : α} : ends result → keeps ends (Pure.pure result)
  bind {α β : Type} {ends : α → Prop} {after : β → Prop} {first : m α} {next : α → m β} :
    keeps ends first → (∀ result, ends result → keeps after (next result)) →
      keeps after (first >>= next)

namespace Sequential

variable {m : Type → Type} [Monad m] {keeps : {α : Type} → (α → Prop) → m α → Prop}

theorem foldlM (rules : Sequential m keeps) {items : List α} {step : β → α → m β}
    (each : ∀ item ∈ items, ∀ value, after value → keeps after (step value item)) {value : β}
    (start : after value) : keeps after (items.foldlM step value) := by
  induction items generalizing value with
  | nil => exact rules.pure start
  | cons item items ih =>
      obtain ⟨here, later⟩ := List.forall_mem_cons.1 each
      rw [List.foldlM_cons]
      exact rules.bind (here value start) fun next kept => ih later kept

theorem mapM [LawfulMonad m] (rules : Sequential m keeps) {items : List α} {f : α → m β}
    (each : ∀ item ∈ items, keeps after (f item)) :
    keeps (fun results => ∀ result ∈ results, after result) (items.mapM f) := by
  induction items with
  | nil => exact rules.pure nofun
  | cons item items ih =>
      obtain ⟨here, later⟩ := List.forall_mem_cons.1 each
      rw [List.mapM_cons]
      exact rules.bind here fun result first => rules.bind (ih later) fun results others =>
        rules.pure (List.forall_mem_cons.2 ⟨first, others⟩)

end Sequential

theorem Dialogue.Keeps.sequential (contract : Contract) :
    Sequential Dialogue fun ends => Dialogue.Keeps contract ends :=
  ⟨.pure, .bind⟩

theorem Chat.Keeps.sequential (contract : Contract) :
    Sequential Chat fun ends => Chat.Keeps contract ends :=
  ⟨.pure, .bind⟩

end ChatTemplate
