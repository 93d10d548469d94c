/-
# ChatTemplate.Proofs.UserNames -- users with names of their own

Names tell users apart, whatever the case of their ASCII letters.  A sender becomes a user only
after a look for the name, so in a session in which nobody creates users by hand the list of
users grows at its end, and only by senders whose name was nobody's (`World.GrownBy`).  Names
that were apart stay apart, and one name is made a user at most once, however many messages its
sender has rendered and whichever collaborators fail meanwhile.

* `Session.Step.grownBy`: one step;
* `Session.grownBy_after`: any number of them.

Main statement: `Session.renders_only_append_users`.
-/
import ChatTemplate.Proofs.NewUsers
import ChatTemplate.Proofs.UsageAccounts

namespace ChatTemplate

set_option autoImplicit false

/-! ## Names -/

namespace Text

variable {a b c : String}

theorem sameIgnoringAsciiCase_iff :
    sameIgnoringAsciiCase a b = true ↔ asciiLower a.toList = asciiLower b.toList :=
  beq_iff_eq

theorem sameIgnoringAsciiCase_of_both (one : sameIgnoringAsciiCase a c = true)
    (other : sameIgnoringAsciiCase b c = true) : sameIgnoringAsciiCase a b = true := by
  rw [sameIgnoringAsciiCase_iff] at one other ⊢
  exact one.trans other.symm

end Text

/-- Whether a user goes by a name, in letters of either case. -/
def User.goesBy (name : String) (user : User) : Bool :=
  Text.sameIgnoringAsciiCase user.name name

namespace World

/-- **No two users have the same name**, not even in letters of the other case. -/
def UniqueNames (world : World) : Prop :=
  world.users.Pairwise fun one other => Text.sameIgnoringAsciiCase one.name other.name = false

instance (world : World) : Decidable world.UniqueNames :=
  inferInstanceAs (Decidable (world.users.Pairwise _))

variable {before between after : World}

/-- A sender joins under a name that nobody has. -/
theorem UniqueNames.of_joinedBy {sender : Sender} (unique : before.UniqueNames)
    (joined : before.JoinedBy sender after) : after.UniqueNames := by
  unfold UniqueNames
  rcases joined with same | ⟨unknown, joined⟩
  · rwa [same]
  · rw [joined, List.pairwise_append]
    refine ⟨unique, List.pairwise_singleton _ _, ?_⟩
    intro user member newcomer only
    rw [List.mem_singleton] at only
    rw [only]
    exact Bool.eq_false_iff.2 (List.find?_eq_none.1 unknown user member)

/-- Of users with names of their own, one name has at most one. -/
theorem countP_name_le_one {users : List User}
    (unique : users.Pairwise fun one other =>
      Text.sameIgnoringAsciiCase one.name other.name = false) (name : String) :
    users.countP (User.goesBy name) ≤ 1 := by
  induction users with
  | nil => exact Nat.zero_le 1
  | cons user users ih =>
      obtain ⟨apart, later⟩ := List.pairwise_cons.1 unique
      rw [List.countP_cons]
      split
      · next own =>
          have others : users.countP (User.goesBy name) = 0 := by
            rw [List.countP_eq_zero]
            intro other member same
            have together := Text.sameIgnoringAsciiCase_of_both own same
            rw [apart other member] at together
            nomatch together
          exact Nat.le_of_eq (congrArg (· + 1) others)
      · exact ih later

/-! ## Growing -/

/-- **The users are those that there were and, after them, some of the senders**; names that
were apart still are. -/
structure GrownBy (senders : List Sender) (before after : World) (joined : List User) : Prop where
  appended : after.users = before.users ++ joined
  fromSenders : ∀ user ∈ joined, ∃ sender ∈ senders, user = sender.asUser
  unique : before.UniqueNames → after.UniqueNames

namespace GrownBy

theorem of_unchanged (senders : List Sender) (same : after.users = before.users) :
    before.GrownBy senders after [] where
  appended := by rw [same, List.append_nil]
  fromSenders := by simp
  unique unique := by rwa [UniqueNames, same]

theorem of_joinedBy {sender : Sender} (joined : before.JoinedBy sender after) :
    ∃ users, before.GrownBy [sender] after users := by
  rcases joined with same | ⟨unknown, joined⟩
  · exact ⟨[], of_unchanged _ same⟩
  · exact ⟨[sender.asUser],
      { appended := joined
        fromSenders := by simp
        unique := fun unique => unique.of_joinedBy (.inr ⟨unknown, joined⟩) }⟩

theorem trans {first second : List Sender} {one two : List User}
    (early : before.GrownBy first between one) (late : between.GrownBy second after two) :
    before.GrownBy (first ++ second) after (one ++ two) where
  appended := by rw [late.appended, early.appended, List.append_assoc]
  fromSenders := by
    intro user member
    rcases List.mem_append.1 member with member | member
    · obtain ⟨sender, listed, same⟩ := early.fromSenders user member
      exact ⟨sender, List.mem_append_left _ listed, same⟩
    · obtain ⟨sender, listed, same⟩ := late.fromSenders user member
      exact ⟨sender, List.mem_append_right _ listed, same⟩
  unique unique := late.unique (early.unique unique)

end GrownBy

end World

/-! ## Sessions -/

namespace Session

/-- Who may join in a step: the sender of a message, and for an overlay one without a name. -/
def Step.senders : Step → List Sender
  | .message _ context _ => [context.sender]
  | .overlay _ _ => [{}]
  | .placeholders _ _ _ | .ask _ | .stream _ => []

/-- **Nobody creates a user by hand** in a step. -/
def Step.CreatesNoUser : Step → Prop
  | .ask query => ∀ id name, query ≠ .createUser id name
  | .message _ _ _ | .placeholders _ _ _ | .overlay _ _ | .stream _ => True

/-- The senders of some steps, in order. -/
def sendersOf (steps : List (Host × Step)) : List Sender :=
  steps.flatMap fun step => step.2.senders

theorem Step.grownBy (host : Host) (world : World) {step : Step} (leaves : step.CreatesNoUser) :
    ∃ joined, world.GrownBy step.senders (step.after host world) joined := by
  cases step with
  | message settings context text =>
      exact World.GrownBy.of_joinedBy
        (Message.joinedBy_render host settings context text world)
  | placeholders settings escape text =>
      exact ⟨[], .of_unchanged _
        (Message.users_renderPlaceholders host settings escape text world)⟩
  | overlay settings text =>
      exact World.GrownBy.of_joinedBy (Overlay.joinedBy_render host settings text world)
  | ask query => exact ⟨[], .of_unchanged _ (host.users_answer leaves world)⟩
  | stream stats => exact ⟨[], .of_unchanged _ rfl⟩

theorem grownBy_after (world : World) (steps : List (Host × Step))
    (leave : ∀ step ∈ steps, step.2.CreatesNoUser) :
    ∃ joined, world.GrownBy (sendersOf steps) (after world steps) joined := by
  induction steps generalizing world with
  | nil => exact ⟨[], .of_unchanged _ rfl⟩
  | cons step steps ih =>
      obtain ⟨here, later⟩ := List.forall_mem_cons.1 leave
      obtain ⟨first, early⟩ := step.2.grownBy step.1 world here
      obtain ⟨second, late⟩ := ih (step.2.after step.1 world) later
      exact ⟨first ++ second, early.trans late⟩

/-- **Renders only append users, with new names.**  Whoever joins was the sender of a step, no
name joins twice, and of a session for one sender at most one user is left. -/
theorem renders_only_append_users {before : World} (unique : before.UniqueNames)
    (steps : List (Host × Step)) (leave : ∀ step ∈ steps, step.2.CreatesNoUser) :
    ∃ joined,
      (after before steps).users = before.users ++ joined ∧
      (after before steps).UniqueNames ∧
      (∀ user ∈ joined, ∃ sender ∈ sendersOf steps, user = sender.asUser) ∧
      (∀ name, joined.countP (User.goesBy name) ≤ 1) ∧
      ∀ name, (∀ sender ∈ sendersOf steps, sender.asUser.goesBy name = true) →
        joined.length ≤ 1 := by
  obtain ⟨joined, grown⟩ := grownBy_after before steps leave
  have apart := grown.unique unique
  have once : ∀ name, joined.countP (User.goesBy name) ≤ 1 := by
    intro name
    rw [World.UniqueNames, grown.appended] at apart
    exact World.countP_name_le_one (List.pairwise_append.1 apart).2.1 name
  refine ⟨joined, grown.appended, apart, grown.fromSenders, once, fun name one => ?_⟩
  have all : joined.countP (User.goesBy name) = joined.length := by
    rw [List.countP_eq_length]
    intro user member
    obtain ⟨sender, listed, rfl⟩ := grown.fromSenders user member
    exact one sender listed
  exact all ▸ once name

/-- A channel on which ann is known. -/
def annsChannel : World :=
  { users := [{ id := "1", name := "ann" }] }

/-- Scripts for a newcomer, first with no users to be had, then twice under one name; then one
for ann. -/
def scripts : List (Host × Step) :=
  let up : Host := { sources := fun _ => { rolls := id } }
  let script (name id : String) : Step := .message {} { sender := { name, id } } "(eval 1)".toList
  [ ({ up with down := [.users] }, script "Bob" "2"), (up, script "Bob" "2"),
    (up, script "bob" "3"), (up, script "ANN" "4") ]

theorem newcomer_joins_once :
    annsChannel.UniqueNames ∧ (∀ step ∈ scripts, step.2.CreatesNoUser) ∧
      (after annsChannel scripts).users =
        [{ id := "1", name := "ann" }, { id := "2", name := "Bob" }] ∧
      (after annsChannel scripts).UniqueNames := by
  have unique : annsChannel.UniqueNames := by decide
  have leave : ∀ step ∈ scripts, step.2.CreatesNoUser := by simp [scripts, Step.CreatesNoUser]
  obtain ⟨_, _, apart, _⟩ := renders_only_append_users unique scripts leave
  exact ⟨unique, leave, by decide +kernel, apart⟩

end Session

end ChatTemplate
