/-
# ChatTemplate.Proofs.PickedNames -- what picking a viewer can come to

The sources of chance are given from outside, so the results that picking a viewer can have form a
set (`RandomPick.outcomes`): the names of all users who qualify (`RandomPick.Qualifies`), or, when
there is none, the one word that says so.  Since a user can be called by that word, it does not
always mean that nobody qualifies (`RandomPick.user_named_unknown_is_picked`).

Main statement: `RandomPick.viewer_outcomes`.
-/
import Mathlib.Data.Set.Image
import ChatTemplate.Proofs.RandomUsers

namespace ChatTemplate.RandomPick

set_option autoImplicit false

variable {settings : Settings} {down : List Collaborator} {world : World} {online : Bool}
  {pool : Pool}

/-! ## Users and results -/

/-- Who may be picked: a user of the pool, there if that is asked for, and not excluded. -/
def Qualifies (settings : Settings) (online : Bool) (pool : Pool) (user : User) : Prop :=
  (online = true → user.online = true) ∧ pool.includes user = true ∧
    settings.isExcluded user.name = false

/-- The names of the users who qualify. -/
def qualifyingNames (settings : Settings) (world : World) (online : Bool) (pool : Pool) :
    Set String :=
  {name | ∃ user ∈ world.users, Qualifies settings online pool user ∧ user.name = name}

/-- A name as the result of a pick. -/
def shown (name : String) : Except Failure (List Char) :=
  .ok name.toList

/-- **All that picking a viewer can come to**, whatever the sources of chance. -/
def outcomes (settings : Settings) (down : List Collaborator) (world : World) (online : Bool)
    (pool : Pool) : Set (Except Failure (List Char)) :=
  Set.range fun sources =>
    (({ down, sources } : Host).run (Chat.attempt (viewer settings online pool)) world).1

theorem shown_injective : Function.Injective shown := by
  intro first second same
  exact String.toList_inj.1 (Except.ok.inj same)

theorem mem_qualifyingNames {name : String} :
    name ∈ qualifyingNames settings world online pool ↔
      name ∈ tokenNames settings world online pool := by
  rw [mem_tokenNames]
  constructor
  · rintro ⟨user, known, ⟨there, included, allowed⟩, rfl⟩
    exact ⟨user, known, rfl, there, included, allowed⟩
  · rintro ⟨user, known, rfl, there, included, allowed⟩
    exact ⟨user, known, ⟨there, included, allowed⟩, rfl⟩

theorem qualifyingNames_eq {names : List String}
    (picked : tokenNames settings world online pool = names) :
    qualifyingNames settings world online pool = {name | name ∈ names} := by
  ext name
  rw [mem_qualifyingNames, picked]
  exact Iff.rfl

/-- A pick that can be made has a name for its result. -/
theorem exists_shown (up : Collaborator.users ∉ down) {result : Except Failure (List Char)}
    (possible : result ∈ outcomes settings down world online pool) :
    ∃ name, result = shown name := by
  obtain ⟨sources, rfl⟩ := possible
  simp only [run_viewer, if_neg up]
  exact ⟨_, rfl⟩

theorem shown_mem_outcomes (up : Collaborator.users ∉ down) {name : String} :
    shown name ∈ outcomes settings down world online pool ↔
      name ∈ tokenNames settings world online pool ∨
        tokenNames settings world online pool = [] ∧ name = "unknown" := by
  rw [outcomes, Set.mem_range]
  exact token_shows_iff.trans (and_iff_right up)

/-! ## The set of results -/

/-- When someone qualifies, the results are the names of those who do. -/
theorem outcomes_of_nonempty (up : Collaborator.users ∉ down)
    (some_ : (qualifyingNames settings world online pool).Nonempty) :
    outcomes settings down world online pool =
      shown '' qualifyingNames settings world online pool := by
  obtain ⟨one, qualifies⟩ := some_
  have any : tokenNames settings world online pool ≠ [] :=
    List.ne_nil_of_mem (mem_qualifyingNames.1 qualifies)
  ext result
  constructor
  · intro possible
    obtain ⟨name, rfl⟩ := exists_shown up possible
    rcases (shown_mem_outcomes up).1 possible with member | ⟨none, -⟩
    · exact ⟨name, mem_qualifyingNames.2 member, rfl⟩
    · exact absurd none any
  · rintro ⟨name, member, rfl⟩
    exact (shown_mem_outcomes up).2 (.inl (mem_qualifyingNames.1 member))

/-- When nobody qualifies, the one result says so. -/
theorem outcomes_of_empty (up : Collaborator.users ∉ down)
    (none : qualifyingNames settings world online pool = ∅) :
    outcomes settings down world online pool = {shown "unknown"} := by
  have nobody : tokenNames settings world online pool = [] := by
    rw [List.eq_nil_iff_forall_not_mem]
    intro name member
    have qualifies := mem_qualifyingNames.2 member
    rw [none] at qualifies
    exact qualifies
  ext result
  rw [Set.mem_singleton_iff]
  constructor
  · intro possible
    obtain ⟨name, rfl⟩ := exists_shown up possible
    rcases (shown_mem_outcomes up).1 possible with member | ⟨-, rfl⟩
    · rw [nobody] at member
      cases member
    · rfl
  · rintro rfl
    exact (shown_mem_outcomes up).2 (.inr ⟨nobody, rfl⟩)

/-- **What picking a viewer can come to.**  The results are exactly the names of the users who
qualify, if there are any, and else `unknown` alone.  So that is the only result exactly when all
who qualify are called by it. -/
theorem viewer_outcomes (settings : Settings) {down : List Collaborator}
    (up : Collaborator.users ∉ down) (world : World) (online : Bool) (pool : Pool) :
    ((qualifyingNames settings world online pool).Nonempty →
        outcomes settings down world online pool =
          shown '' qualifyingNames settings world online pool) ∧
      (qualifyingNames settings world online pool = ∅ →
        outcomes settings down world online pool = {shown "unknown"}) ∧
      (outcomes settings down world online pool = {shown "unknown"} ↔
        ∀ user ∈ world.users, Qualifies settings online pool user → user.name = "unknown") := by
  refine ⟨outcomes_of_nonempty up, outcomes_of_empty up, ?_, ?_⟩
  · intro only user known qualifies
    have named : user.name ∈ qualifyingNames settings world online pool :=
      ⟨user, known, qualifies, rfl⟩
    have possible : shown user.name ∈ outcomes settings down world online pool := by
      rw [outcomes_of_nonempty up ⟨_, named⟩]
      exact Set.mem_image_of_mem shown named
    rw [only, Set.mem_singleton_iff] at possible
    exact shown_injective possible
  · intro called
    rcases (qualifyingNames settings world online pool).eq_empty_or_nonempty with none | some_
    · exact outcomes_of_empty up none
    · have only : qualifyingNames settings world online pool = {"unknown"} := by
        apply some_.subset_singleton_iff.1
        rintro name ⟨user, known, qualifies, rfl⟩
        exact called user known qualifies
      rw [outcomes_of_nonempty up some_, only, Set.image_singleton]

/-- Of four followers one is the bot and one is away; nobody subscribes. -/
theorem followers_online_are_picked :
    let settings : Settings := { botName := "Bot" }
    let world : World :=
      { users :=
          [ { id := "1", name := "ann", online := true, follower := true },
            { id := "2", name := "bot", online := true, follower := true },
            { id := "3", name := "cyd", follower := true },
            { id := "4", name := "dan", online := true, follower := true } ] }
    Collaborator.users ∉ [Collaborator.events] ∧
      outcomes settings [.events] world true .follower = {shown "ann", shown "dan"} ∧
      outcomes settings [.events] world true .subscriber = {shown "unknown"} := by
  intro settings world
  have up : Collaborator.users ∉ [Collaborator.events] := by decide
  have followers : qualifyingNames settings world true .follower = {"ann", "dan"} := by
    have names : tokenNames settings world true .follower = ["ann", "dan"] := by decide +kernel
    simp [qualifyingNames_eq names, Set.insert_def]
  have subscribers : qualifyingNames settings world true .subscriber = ∅ := by
    have names : tokenNames settings world true .subscriber = [] := by decide +kernel
    simp [qualifyingNames_eq names]
  obtain ⟨picked, -, -⟩ := viewer_outcomes settings up world true .follower
  obtain ⟨-, nobody, -⟩ := viewer_outcomes settings up world true .subscriber
  refine ⟨up, ?_, nobody subscribers⟩
  rw [picked (by rw [followers]; exact Set.insert_nonempty ..), followers, Set.image_pair]

/-- **A user is called by the word for nobody**, and so is picked, though it looks as if nobody
qualified. -/
theorem user_named_unknown_is_picked :
    let world : World := { users := [{ id := "1", name := "unknown" }] }
    outcomes {} [] world false .viewer = {shown "unknown"} ∧
      ∃ user ∈ world.users, Qualifies {} false .viewer user := by
  intro world
  have qualifies : ∃ user ∈ world.users, Qualifies {} false .viewer user :=
    ⟨_, List.mem_singleton_self _, nofun, rfl, by decide +kernel⟩
  have names : qualifyingNames {} world false .viewer = {"unknown"} := by
    have names : tokenNames {} world false .viewer = ["unknown"] := by decide +kernel
    simp [qualifyingNames_eq names]
  refine ⟨?_, qualifies⟩
  rw [outcomes_of_nonempty List.not_mem_nil (by rw [names]; exact Set.singleton_nonempty _), names,
    Set.image_singleton]

end ChatTemplate.RandomPick
