/-
# ChatTemplate.Proofs.UserIds -- users with ids of their own

A world file gives an id to one user at a time: a user who is added takes the place of
the one who has that id.  A sender who becomes a user takes nobody's place, so ids stay
apart as long as messages are rendered for senders who are known by name or bring an id
that no user has (`World.Welcomes`).  For others they need not
(`stranger_takes_the_id_of_a_user`).

* `WorldFile.Change.ids_stay_apart`: every change that a directive makes keeps ids apart;
* `World.UniqueIds.of_joinedBy`: so does a message for a sender who is welcome.

Main statement: `World.Reachable.uniqueIds`.
-/
import ChatTemplate.Proofs.Loading
import ChatTemplate.Proofs.NewUsers
import Mathlib.Data.List.Nodup

namespace ChatTemplate

set_option autoImplicit false

/-- **No two users have the same id.** -/
def World.UniqueIds (world : World) : Prop :=
  (world.users.map (·.id)).Nodup

instance (world : World) : Decidable world.UniqueIds :=
  inferInstanceAs (Decidable (world.users.map (·.id)).Nodup)

/-! ## World files -/

theorem World.UniqueIds.addUser {world : World} (unique : world.UniqueIds) (user : User) :
    (world.addUser user).UniqueIds := by
  unfold UniqueIds World.addUser
  rw [List.map_append, List.map_singleton, List.nodup_append]
  refine ⟨unique.sublist (List.filter_sublist.map _), List.nodup_singleton _, ?_⟩
  rintro id kept other only same
  obtain ⟨user', member, rfl⟩ := List.mem_map.1 kept
  have apart := (List.mem_filter.1 member).2
  rw [List.mem_singleton] at only
  simp [same, only] at apart

namespace WorldFile

theorem showSetting_users (settings : SettingTable) (name text : String) (world : World) :
    (showSetting settings name text world).users = world.users := by
  unfold showSetting
  split <;> rfl

/-- **Every change keeps ids apart.** -/
theorem Change.ids_stay_apart {setup after : Setup} (change : Change setup after)
    (unique : setup.world.UniqueIds) : after.world.UniqueIds := by
  cases change with
  | nothing => exact unique
  | setting name text => rwa [World.UniqueIds, showSetting_users]
  | user user => exact unique.addUser user
  | other users => rwa [World.UniqueIds, users]

theorem uniqueIds_load (clock : Nat → Instant) (text : List Char) :
    (load clock text).setup.world.UniqueIds :=
  holds_load clock text (List.nodup_nil : ({} : Setup).world.UniqueIds) Change.ids_stay_apart

end WorldFile

/-! ## Messages -/

namespace World

/-- **A sender is known by name, or brings an id that no user has.** -/
def Welcomes (world : World) (sender : Sender) : Prop :=
  world.userNamed? sender.name ≠ none ∨ world.userWithId? sender.id = none

/-- A sender who is welcome may join. -/
theorem UniqueIds.of_joinedBy {before after : World} {sender : Sender} (unique : before.UniqueIds)
    (welcome : before.Welcomes sender) (joined : before.JoinedBy sender after) :
    after.UniqueIds := by
  unfold UniqueIds
  rcases joined with same | ⟨unknown, joined⟩
  · rwa [same]
  · have fresh : before.userWithId? sender.id = none := welcome.resolve_left (absurd unknown)
    rw [joined, List.map_append, List.map_singleton, List.nodup_append]
    refine ⟨unique, List.nodup_singleton _, ?_⟩
    rintro id taken other only same
    obtain ⟨user, member, rfl⟩ := List.mem_map.1 taken
    have apart := List.find?_eq_none.1 fresh user member
    rw [List.mem_singleton] at only
    simp [same, only, Sender.asUser] at apart

/-! ## Runs of messages -/

/-- **The worlds that some world file, messages, placeholders and overlays lead to**, when
messages are rendered only for senders whom the world at that time admits.  An overlay is
rendered for a sender with neither name nor id. -/
inductive Reachable (admits : World → Sender → Prop) : World → Prop
  | loaded (clock : Nat → Instant) (text : List Char) :
      Reachable admits (WorldFile.load clock text).setup.world
  | message {world : World} (host : Host) (settings : Settings) (context : Context)
      (text : List Char) :
      Reachable admits world → admits world context.sender →
        Reachable admits (host.run (Message.render settings context text) world).2
  | placeholders {world : World} (host : Host) (settings : Settings) (escape : String)
      (text : List Char) :
      Reachable admits world →
        Reachable admits (host.run (Message.renderPlaceholders settings escape text) world).2
  | overlay {world : World} (host : Host) (settings : Settings) (text : List Char) :
      Reachable admits world → admits world {} →
        Reachable admits (host.run (Chat.attempt (Overlay.render settings text)) world).2

/-- **Ids stay apart** in all worlds that world files and messages lead to, with any
collaborators down and any random numbers, as long as each sender is known by name or
brings an id that no user has. -/
theorem Reachable.uniqueIds {world : World} (reachable : world.Reachable Welcomes) :
    world.UniqueIds := by
  induction reachable with
  | loaded clock text => exact WorldFile.uniqueIds_load clock text
  | message host settings context text _ welcome ih =>
      exact ih.of_joinedBy welcome (Message.joinedBy_render host settings context text _)
  | placeholders host settings escape text _ ih =>
      rwa [UniqueIds, Message.users_renderPlaceholders]
  | overlay host settings text _ welcome ih =>
      exact ih.of_joinedBy welcome (Overlay.joinedBy_render host settings text _)

/-- A world in which ann is known. -/
def ofAnn : World :=
  (WorldFile.load (fun _ => ⟨0, 0⟩) "/adduser ann 1".toList).setup.world

/-- That world after a script has been run for a sender. -/
def afterScriptOf (sender : Sender) : World :=
  let host : Host := { sources := fun _ => { rolls := id } }
  (host.run (Message.render {} { sender } "(eval 1)".toList) ofAnn).2

theorem newcomer_has_an_id :
    ofAnn.Welcomes { name := "bob", id := "2" } ∧
      (afterScriptOf { name := "bob", id := "2" }).users =
        [{ id := "1", name := "ann" }, { id := "2", name := "bob" }] ∧
      (afterScriptOf { name := "bob", id := "2" }).UniqueIds := by
  have welcome : ofAnn.Welcomes { name := "bob", id := "2" } := .inr (by decide)
  have reachable := Reachable.message { sources := fun _ => { rolls := id } } {}
    { sender := { name := "bob", id := "2" } } "(eval 1)".toList (.loaded _ _) welcome
  exact ⟨welcome, by decide +kernel, reachable.uniqueIds⟩

/-- Someone who is not known and has ann's id becomes a second user of that id. -/
theorem stranger_takes_the_id_of_a_user :
    (afterScriptOf { name := "bob", id := "1" }).users =
        [{ id := "1", name := "ann" }, { id := "1", name := "bob" }] ∧
      ¬ ∀ world : World, (world.Reachable fun _ _ => True) → world.UniqueIds := by
  have users : (afterScriptOf { name := "bob", id := "1" }).users =
      [{ id := "1", name := "ann" }, { id := "1", name := "bob" }] := by decide +kernel
  have reachable : (afterScriptOf { name := "bob", id := "1" }).Reachable fun _ _ => True :=
    .message _ _ _ _ (.loaded _ _) trivial
  refine ⟨users, fun unique => ?_⟩
  have apart := unique _ reachable
  rw [UniqueIds, users] at apart
  exact absurd apart (by decide)

end World

end ChatTemplate
