/-
# ChatTemplate.Proofs.EventOrder -- the latest event and the events, latest first

A world is asked for its latest event of some kinds, and for all events of a kind with the
latest first.  The latest event is found in one pass that lets a later entry of the log win over
an earlier one of the same moment (`last_of_latestOf`); the list is sorted in a way that leaves
the events of a moment in the order of the log (`happenedAt_eventsOf`).  So the two agree about the
moment, but of the events of that moment one gives the last and the other the first.

Main statement: `World.latest_of_newest_moment`.
-/
import ChatTemplate.World
import Mathlib.Data.List.Induction

namespace ChatTemplate

set_option autoImplicit false

/-! ## The order of moments -/

namespace Instant

theorem before_eq_true_iff {a b : Instant} :
    a.before b = true ↔ a.seconds < b.seconds ∨ a.seconds = b.seconds ∧ a.nanos < b.nanos := by
  simp [before]

theorem before_eq_false_iff {a b : Instant} :
    a.before b = false ↔ b.seconds < a.seconds ∨ b.seconds = a.seconds ∧ b.nanos ≤ a.nanos := by
  rw [← Bool.not_eq_true, before_eq_true_iff]
  omega

theorem eq_of_not_before {a b : Instant} (not_before : a.before b = false)
    (not_after : b.before a = false) : a = b := by
  rw [before_eq_false_iff] at not_before not_after
  have seconds : a.seconds = b.seconds := by omega
  have nanos : a.nanos = b.nanos := by omega
  cases a
  cases b
  cases seconds
  cases nanos
  rfl

theorem not_before_self (a : Instant) : a.before a = false :=
  before_eq_false_iff.2 (.inr ⟨rfl, Nat.le_refl _⟩)

theorem not_before_trans {a b c : Instant} (first : a.before b = false)
    (second : b.before c = false) : a.before c = false := by
  rw [before_eq_false_iff] at first second ⊢
  omega

theorem not_before_of_before {a b : Instant} (earlier : a.before b = true) :
    b.before a = false := by
  rw [before_eq_true_iff] at earlier
  rw [before_eq_false_iff]
  omega

end Instant

namespace World

/-- The order that events are listed in: an event need not come later than those it is not
before. -/
abbrev listedBefore (a b : Event) : Bool :=
  !a.time.before b.time

theorem listedBefore_trans (a b c : Event) (first : listedBefore a b = true)
    (second : listedBefore b c = true) : listedBefore a c = true := by
  rw [Bool.not_eq_true'] at first second ⊢
  exact Instant.not_before_trans first second

theorem listedBefore_total (a b : Event) : (listedBefore a b || listedBefore b a) = true := by
  cases earlier : a.time.before b.time with
  | false => simp [earlier]
  | true => simp [Instant.not_before_of_before earlier]

/-! ## The events of one moment -/

/-- The events of a log that happened at one moment. -/
def happenedAt (time : Instant) (events : List Event) : List Event :=
  events.filter fun event => event.time = time

theorem mem_happenedAt {time : Instant} {events : List Event} {event : Event} :
    event ∈ happenedAt time events ↔ event ∈ events ∧ event.time = time := by
  simp [happenedAt]

/-- Sorting does not change the order of the events of one moment. -/
theorem happenedAt_mergeSort (time : Instant) (events : List Event) :
    happenedAt time (events.mergeSort listedBefore) = happenedAt time events := by
  have tied : (happenedAt time events).Pairwise fun a b => listedBefore a b = true := by
    refine List.pairwise_of_forall_mem_list fun a among b among' => ?_
    rw [listedBefore, (mem_happenedAt.1 among).2, (mem_happenedAt.1 among').2,
      Instant.not_before_self]
    rfl
  have kept : (happenedAt time events).Sublist (events.mergeSort listedBefore) :=
    List.sublist_mergeSort listedBefore_trans listedBefore_total tied List.filter_sublist
  have inside :
      (happenedAt time events).Sublist (happenedAt time (events.mergeSort listedBefore)) := by
    have filtered := kept.filter fun event => event.time = time
    simpa only [happenedAt, List.filter_filter, Bool.and_self] using filtered
  have as_many := ((List.mergeSort_perm events listedBefore).filter
    fun event => event.time = time).length_eq
  exact (inside.eq_of_length as_many.symm).symm

/-- The events of a kind, in the order of the log. -/
def logOf (world : World) (kind : String) : List Event :=
  world.events.filter fun event => event.kind = kind

/-- **Listing the events keeps those of one moment** as the log has them. -/
theorem happenedAt_eventsOf (world : World) (kind : String) (time : Instant) :
    happenedAt time (world.eventsOf kind) = happenedAt time (world.logOf kind) :=
  happenedAt_mergeSort time _

/-! ## The latest event -/

/-- What one more entry of the log makes of the latest event. -/
theorem latestOf_concat (events : List Event) (event : Event) :
    latestOf (events ++ [event]) =
      match latestOf events with
      | some best => if event.time.before best.time then some best else some event
      | none => some event := by
  rw [latestOf, List.foldl_append]
  rfl

theorem latestOf_eq_none_iff {events : List Event} : latestOf events = none ↔ events = [] := by
  induction events using List.reverseRecOn with
  | nil => simp [latestOf]
  | append_singleton events event ih =>
      rw [latestOf_concat]
      cases latestOf events with
      | none => simp
      | some best => by_cases earlier : event.time.before best.time <;> simp [earlier]

/-- **The latest event is the last one of a moment that no event is after.** -/
theorem last_of_latestOf {events : List Event} {latest : Event}
    (found : latestOf events = some latest) :
    (∀ event ∈ events, latest.time.before event.time = false) ∧
      (happenedAt latest.time events).getLast? = some latest := by
  induction events using List.reverseRecOn generalizing latest with
  | nil => cases found
  | append_singleton events event ih =>
      have newest : ∀ other ∈ events, (∀ best, latestOf events = some best →
          event.time.before best.time = false) → event.time.before other.time = false := by
        intro other among no_better
        cases best : latestOf events with
        | none =>
            rw [latestOf_eq_none_iff.1 best] at among
            cases among
        | some best' =>
            exact Instant.not_before_trans (no_better best' best) ((ih best).1 other among)
      have becomes : (∀ best, latestOf events = some best → event.time.before best.time = false) →
          (∀ other ∈ events ++ [event], event.time.before other.time = false) ∧
            (happenedAt event.time (events ++ [event])).getLast? = some event := by
        intro no_better
        refine ⟨List.forall_mem_append.2 ⟨fun other among => newest other among no_better, ?_⟩, ?_⟩
        · exact List.forall_mem_singleton.2 (Instant.not_before_self _)
        · simp [happenedAt]
      rw [latestOf_concat] at found
      cases best : latestOf events with
      | none =>
          rw [best] at found
          cases found
          exact becomes fun other none_ => by rw [best] at none_; cases none_
      | some best' =>
          rw [best] at found
          dsimp only at found
          split at found
          · next earlier =>
              cases found
              refine ⟨List.forall_mem_append.2 ⟨(ih best).1, ?_⟩, ?_⟩
              · exact List.forall_mem_singleton.2 (Instant.not_before_of_before earlier)
              · have other : event.time ≠ latest.time := fun same => by
                  rw [same, Instant.not_before_self] at earlier
                  cases earlier
                simpa [happenedAt, other] using (ih best).2
          · next later =>
              cases found
              exact becomes fun other some_ => by
                rw [best] at some_
                cases some_
                exact Bool.eq_false_iff.2 later

/-! ## Both queries -/

theorem latestEvent_singleton (world : World) (kind : String) :
    world.latestEvent? [kind] = latestOf (world.logOf kind) := by
  simp [latestEvent?, logOf]

theorem mem_eventsOf {world : World} {kind : String} {event : Event} :
    event ∈ world.eventsOf kind ↔ event ∈ world.logOf kind :=
  List.mem_mergeSort

theorem eventsOf_eq_nil_iff {world : World} {kind : String} :
    world.eventsOf kind = [] ↔ world.logOf kind = [] := by
  simp only [List.eq_nil_iff_forall_not_mem, mem_eventsOf]

/-- No event is after the first of the list, which is the first of its moment in the log. -/
theorem first_of_eventsOf {world : World} {kind : String} {newest : Event}
    (first : (world.eventsOf kind).head? = some newest) :
    (∀ event ∈ world.logOf kind, newest.time.before event.time = false) ∧
      (happenedAt newest.time (world.logOf kind)).head? = some newest := by
  obtain ⟨others, listed⟩ := List.head?_eq_some_iff.1 first
  have sorted := List.pairwise_mergeSort listedBefore_trans listedBefore_total (world.logOf kind)
  change (world.eventsOf kind).Pairwise _ at sorted
  rw [listed, List.pairwise_cons] at sorted
  constructor
  · intro event among
    rw [← mem_eventsOf, listed, List.mem_cons] at among
    rcases among with rfl | behind
    · exact Instant.not_before_self _
    · exact (Bool.not_eq_true' _).mp (sorted.1 event behind)
  · have kept := happenedAt_eventsOf world kind newest.time
    rw [listed] at kept
    rw [← kept]
    simp [happenedAt]

/-- **Of the events of the newest moment the list has the first of the log in front, and the
latest event is the last of the log**; there is none exactly when the list is empty.  So both
queries agree exactly when the event in front is the last of its moment, as when no other event of
the kind happened at that moment. -/
theorem latest_of_newest_moment (world : World) (kind : String) :
    (world.latestEvent? [kind] = none ↔ world.eventsOf kind = []) ∧
    (∀ newest, (world.eventsOf kind).head? = some newest →
      (happenedAt newest.time (world.logOf kind)).head? = some newest ∧
      (happenedAt newest.time (world.logOf kind)).getLast? = world.latestEvent? [kind]) ∧
    (world.latestEvent? [kind] = (world.eventsOf kind).head? ↔
      ∀ newest, (world.eventsOf kind).head? = some newest →
        (happenedAt newest.time (world.logOf kind)).getLast? = some newest) := by
  have none_ : world.latestEvent? [kind] = none ↔ world.eventsOf kind = [] := by
    rw [latestEvent_singleton, latestOf_eq_none_iff, eventsOf_eq_nil_iff]
  have ends : ∀ newest, (world.eventsOf kind).head? = some newest →
      (happenedAt newest.time (world.logOf kind)).head? = some newest ∧
      (happenedAt newest.time (world.logOf kind)).getLast? = world.latestEvent? [kind] := by
    intro newest first
    obtain ⟨no_later, in_front⟩ := first_of_eventsOf first
    refine ⟨in_front, ?_⟩
    have listed : world.eventsOf kind ≠ [] := fun empty => by
      rw [empty] at first
      cases first
    obtain ⟨latest, found⟩ := Option.ne_none_iff_exists'.1 (mt none_.1 listed)
    rw [found]
    rw [latestEvent_singleton] at found
    obtain ⟨none_later, last⟩ := last_of_latestOf found
    have among : newest ∈ world.logOf kind := mem_eventsOf.1 (List.mem_of_head? first)
    have among' : latest ∈ world.logOf kind :=
      (mem_happenedAt.1 (List.mem_of_getLast? last)).1
    have moment : newest.time = latest.time :=
      Instant.eq_of_not_before (no_later latest among') (none_later newest among)
    rw [moment, last]
  refine ⟨none_, ends, ?_⟩
  cases first : (world.eventsOf kind).head? with
  | none => simp [none_.2 (List.head?_eq_none_iff.1 first)]
  | some newest =>
      rw [← (ends newest first).2]
      exact ⟨fun same other here => Option.some.inj here ▸ same, fun same => same newest rfl⟩

/-- Two tips of one moment, of ann and then of bob. -/
def twoTips : World where
  events := [⟨"tip", "ann", ⟨0, 0⟩, .null⟩, ⟨"tip", "bob", ⟨0, 0⟩, .null⟩]

/-- **The latest event need not be the first of the list**: of two tips of one moment it is the
last, and the first of the list is the first. -/
theorem tips_of_one_moment_are_ordered_twice :
    (twoTips.latestEvent? ["tip"]).map (·.userName) = some "bob" ∧
      (twoTips.eventsOf "tip").head?.map (·.userName) = some "ann" ∧
      twoTips.latestEvent? ["tip"] ≠ (twoTips.eventsOf "tip").head? := by
  have latest : (twoTips.latestEvent? ["tip"]).map (·.userName) = some "bob" := rfl
  have first : (twoTips.eventsOf "tip").head?.map (·.userName) = some "ann" := by
    rw [eventsOf, List.mergeSort_of_pairwise (by decide)]
    rfl
  refine ⟨latest, first, fun same => ?_⟩
  rw [same, first] at latest
  exact absurd latest (by decide)

end World

end ChatTemplate
