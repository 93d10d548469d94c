/-
# ChatTemplate.Proofs.RandomUsers -- who is picked at random

Users are picked in twelve places: by six tokens of a message, and for six fields of the object
that scripts see.  What can be picked in a place are exactly the names of the users of its pool.
The tokens and the fields of users online leave out the bot, the broadcaster and those who are
ignored (`RandomPick.eligible`); the other three fields do not, though settings exclude these
accounts from every pick.

Main statement: `RandomPick.who_is_picked`; `Message.bot_is_picked_by_a_script` shows what the
difference comes to.
-/
import ChatTemplate.Message.Render
import ChatTemplate.World.Host

namespace ChatTemplate

set_option autoImplicit false

/-! ## Pools -/

/-- Who belongs to a pool. -/
def Pool.includes : Pool → User → Bool
  | .viewer, _ => true
  | .follower, user => user.follower
  | .subscriber, user => user.subscriber

/-- Its name in scripts. -/
def Pool.key : Pool → String
  | .viewer => "viewer"
  | .follower => "follower"
  | .subscriber => "subscriber"

/-! ## Dice -/

namespace Dice

variable {α : Type} {items : List α}

/-- **Any element can be picked**, and nothing else. -/
theorem exists_pick_iff {item : α} :
    (∃ dice : Dice, (dice.pick items).1 = some item) ↔ item ∈ items := by
  constructor
  · rintro ⟨dice, found⟩
    exact List.mem_of_getElem? found
  · intro member
    obtain ⟨i, within, here⟩ := List.mem_iff_getElem.1 member
    refine ⟨{ rolls := fun _ => i }, ?_⟩
    show items[i % items.length]? = some item
    rw [Nat.mod_eq_of_lt within, List.getElem?_eq_getElem within, here]

theorem pick_eq_none_iff {dice : Dice} : (dice.pick items).1 = none ↔ items = [] := by
  show items[dice.rolls dice.used % items.length]? = none ↔ items = []
  rw [List.getElem?_eq_none_iff]
  constructor
  · intro past
    cases items with
    | nil => rfl
    | cons item items =>
        have below := Nat.mod_lt (dice.rolls dice.used) (Nat.succ_pos items.length)
        exact absurd below (Nat.not_lt.2 past)
  · rintro rfl
    exact Nat.zero_le _

end Dice

namespace RandomPick

variable {settings : Settings} {name : String}

theorem mem_eligible {users : List User} :
    name ∈ eligible settings users ↔
      ∃ user ∈ users, user.name = name ∧ settings.isExcluded name = false := by
  simp only [eligible, List.mem_filter, List.mem_map, Bool.not_eq_true']
  constructor
  · rintro ⟨⟨user, member, rfl⟩, shown⟩
    exact ⟨user, member, rfl, shown⟩
  · rintro ⟨user, member, rfl, shown⟩
    exact ⟨⟨user, member, rfl⟩, shown⟩

theorem accepts_filterOf {online : Bool} {pool : Pool} {user : User} :
    (filterOf online pool).accepts user = true ↔
      (online = true → user.online = true) ∧ pool.includes user = true := by
  cases online <;> cases pool <;>
    simp [filterOf, UserFilter.accepts, UserFilter.allows, Pool.includes]

/-! ## Tokens -/

/-- The names that a token can pick. -/
def tokenNames (settings : Settings) (world : World) (online : Bool) (pool : Pool) :
    List String :=
  eligible settings (world.users.filter (filterOf online pool).accepts)

theorem mem_tokenNames {world : World} {online : Bool} {pool : Pool} :
    name ∈ tokenNames settings world online pool ↔
      ∃ user ∈ world.users, user.name = name ∧ (online = true → user.online = true) ∧
        pool.includes user = true ∧ settings.isExcluded name = false := by
  rw [tokenNames, mem_eligible]
  constructor
  · rintro ⟨user, member, own, shown⟩
    obtain ⟨known, accepted⟩ := List.mem_filter.1 member
    obtain ⟨there, included⟩ := accepts_filterOf.1 accepted
    exact ⟨user, known, own, there, included, shown⟩
  · rintro ⟨user, known, own, there, included, shown⟩
    exact ⟨user, List.mem_filter.2 ⟨known, accepts_filterOf.2 ⟨there, included⟩⟩, own, shown⟩

/-- Users who may be picked are picked by chance, and nobody is when users are down. -/
theorem run_viewer (host : Host) (settings : Settings) (online : Bool) (pool : Pool)
    (world : World) :
    (host.run (Chat.attempt (viewer settings online pool)) world).1 =
      if Collaborator.users ∈ host.down then .error .unavailable
      else .ok ((((host.sources world.chances).pick
        (tokenNames settings world online pool)).1.getD "unknown").toList) := by
  have asks : host.run (Chat.attempt (viewer settings online pool)) world =
      host.run (ExceptT.bindCont (fun users => do
          let name ← liftM (pick (eligible settings users))
          return (name.getD "unknown").toList)
        (host.answer (.usersWhere (filterOf online pool)) world).1)
        (host.answer (.usersWhere (filterOf online pool)) world).2 := rfl
  by_cases down : Collaborator.users ∈ host.down
  · have refused : host.answer (.usersWhere (filterOf online pool)) world =
        (.error .unavailable, world) := by
      simp [Host.answer, Host.isDown, Query.collaborator?, Query.refusal?, down]
    rw [asks, refused, if_pos down]
    rfl
  · have answered : host.answer (.usersWhere (filterOf online pool)) world =
        (.ok (world.users.filter (filterOf online pool).accepts), world) :=
      Host.answer_of_responsible rfl down world
    rw [asks, answered, if_neg down]
    rfl

/-- A token can pick nobody when all users of its pool are left out. -/
theorem tokenNames_eq_nil {world : World} {online : Bool} {pool : Pool} :
    tokenNames settings world online pool = [] ↔
      ∀ user ∈ world.users, (online = true → user.online = true) → pool.includes user = true →
        settings.isExcluded user.name = true := by
  rw [List.eq_nil_iff_forall_not_mem]
  simp only [mem_tokenNames]
  constructor
  · intro nobody user known there included
    refine eq_true_of_ne_false fun shown => ?_
    exact nobody user.name ⟨user, known, rfl, there, included, shown⟩
  · rintro excluded name ⟨user, known, rfl, there, included, shown⟩
    simp [excluded user known there included] at shown

/-- **What a token shows** is a name that it can pick, or that nobody is known. -/
theorem token_shows_iff {down : List Collaborator} {world : World} {online : Bool} {pool : Pool} :
    (∃ sources, (({ down, sources } : Host).run
        (Chat.attempt (viewer settings online pool)) world).1 = .ok name.toList) ↔
      Collaborator.users ∉ down ∧ (name ∈ tokenNames settings world online pool ∨
        tokenNames settings world online pool = [] ∧ name = "unknown") := by
  simp only [run_viewer]
  constructor
  · rintro ⟨sources, shown⟩
    split at shown
    · nomatch shown
    · next up =>
        refine ⟨up, ?_⟩
        have own := String.toList_inj.1 (Except.ok.inj shown)
        cases found : ((sources world.chances).pick (tokenNames settings world online pool)).1 with
        | none => exact .inr ⟨Dice.pick_eq_none_iff.1 found, by rw [← own, found]; rfl⟩
        | some picked =>
            rw [found] at own
            exact .inl (Dice.exists_pick_iff.1 ⟨_, found.trans (congrArg some own)⟩)
  · rintro ⟨up, member | ⟨nobody, rfl⟩⟩
    · obtain ⟨dice, found⟩ := Dice.exists_pick_iff.2 member
      exact ⟨fun _ => dice, by rw [if_neg up, found]; rfl⟩
    · refine ⟨fun _ => { rolls := id }, ?_⟩
      rw [if_neg up, Dice.pick_eq_none_iff.2 nobody]
      rfl

/-! ## Fields -/

/-- A field of the object that scripts see, with the users online under a name of their own. -/
def field (online : Bool) (pool : Pool) (random : Script.Value) : Script.Value :=
  (if online then random.member "online" else random).member pool.key

/-- The names that a field can pick, of all users or of those online. -/
def fieldNames (settings : Settings) (users present : List User) (online : Bool) (pool : Pool) :
    List String :=
  if online then eligible settings (present.filter pool.includes)
  else (users.filter pool.includes).map (·.name)

theorem mem_fieldNames {users present : List User} {online : Bool} {pool : Pool} :
    name ∈ fieldNames settings users present online pool ↔
      ∃ user ∈ (if online then present else users), user.name = name ∧
        pool.includes user = true ∧ (online = true → settings.isExcluded name = false) := by
  cases online with
  | true => simp [fieldNames, mem_eligible, and_assoc, and_left_comm]
  | false =>
      rw [fieldNames, if_neg Bool.false_ne_true, if_neg Bool.false_ne_true, List.mem_map]
      constructor
      · rintro ⟨user, member, own⟩
        obtain ⟨known, included⟩ := List.mem_filter.1 member
        exact ⟨user, known, own, included, nofun⟩
      · rintro ⟨user, known, own, included, -⟩
        exact ⟨user, List.mem_filter.2 ⟨known, included⟩, own⟩

/-- How many fields are picked before. -/
def turn (online : Bool) (pool : Pool) : Nat :=
  (if online then 0 else 3) +
    match pool with
    | .viewer => 0
    | .follower => 1
    | .subscriber => 2

/-- What dice pick, as scripts see it. -/
def valueOf (picked : Option String) : Script.Value :=
  picked.elim .null .str

theorem run_pickValue (host : Host) (names : List String) (world : World) :
    host.run (Scripting.pickValue names) world =
      (valueOf ((host.sources world.chances).pick names).1,
        { world with chances := world.chances + 1 }) := by
  have picked : host.run (RandomPick.pick names) world =
      (((host.sources world.chances).pick names).1,
        { world with chances := world.chances + 1 }) := rfl
  rw [Scripting.pickValue, Host.run, Dialogue.run_bind]
  rw [Host.run] at picked
  rw [picked]
  cases ((host.sources world.chances).pick names).1 <;> rfl

/-- **Each field is picked by dice of its own.** -/
theorem field_run_picks (host : Host) (users present : List User) (online : Bool) (pool : Pool)
    (world : World) :
    field online pool (host.run (Scripting.picks settings users present) world).1 =
      valueOf ((host.sources (world.chances + turn online pool)).pick
        (fieldNames settings users present online pool)).1 := by
  have step : ∀ (names : List String) (next : Script.Value → Dialogue Script.Value)
      (world : World), host.run (Scripting.pickValue names >>= next) world =
        host.run (next (valueOf ((host.sources world.chances).pick names).1))
          { world with chances := world.chances + 1 } := by
    intro names next world
    have bound : host.run (Scripting.pickValue names >>= next) world =
        host.run (next (host.run (Scripting.pickValue names) world).1)
          (host.run (Scripting.pickValue names) world).2 := Dialogue.run_bind ..
    rw [bound, run_pickValue]
  have everyone : ∀ users : List User, users.filter Pool.viewer.includes = users :=
    fun users => List.filter_eq_self.2 fun _ _ => rfl
  rw [Scripting.picks, step, step, step, step, step, step]
  cases online <;> cases pool <;> simp only [fieldNames, everyone] <;> rfl

theorem field_shows_iff {down : List Collaborator} {world : World} {users present : List User}
    {online : Bool} {pool : Pool} :
    (∃ sources, field online pool (({ down, sources } : Host).run
        (Scripting.picks settings users present) world).1 = .str name) ↔
      name ∈ fieldNames settings users present online pool := by
  simp only [field_run_picks]
  rw [← Dice.exists_pick_iff]
  constructor
  · rintro ⟨sources, shown⟩
    refine ⟨sources (world.chances + turn online pool), ?_⟩
    cases found : ((sources (world.chances + turn online pool)).pick
        (fieldNames settings users present online pool)).1 with
    | none => simp [found, valueOf] at shown
    | some picked => simpa [found, valueOf] using shown
  · rintro ⟨dice, found⟩
    exact ⟨fun _ => dice, by rw [found]; rfl⟩

/-- **Who is picked at random.**  Tokens show the users of their pool who are not excluded, or
else that nobody is known; the fields of users online hold those who are not excluded, too.  The
other fields hold any user of their pool. -/
theorem who_is_picked (settings : Settings) (context : Context) (matched : List Char)
    (down : List Collaborator) (world : World) (online : Bool) (pool : Pool) (name : String) :
    ((∃ sources, (({ down, sources } : Host).run (Chat.attempt
          (Message.resolve settings context (.randomUser online pool) matched)) world).1 =
            .ok name.toList) ↔
        Collaborator.users ∉ down ∧
          ((∃ user ∈ world.users, user.name = name ∧ (online = true → user.online = true) ∧
              pool.includes user = true ∧ settings.isExcluded name = false) ∨
            (∀ user ∈ world.users, (online = true → user.online = true) →
              pool.includes user = true → settings.isExcluded user.name = true) ∧
                name = "unknown")) ∧
      ∀ users present : List User,
        (∃ sources, field online pool (({ down, sources } : Host).run
            (Scripting.picks settings users present) world).1 = .str name) ↔
          ∃ user ∈ (if online then present else users), user.name = name ∧
            pool.includes user = true ∧ (online = true → settings.isExcluded name = false) := by
  constructor
  · rw [← mem_tokenNames, ← tokenNames_eq_nil]
    exact token_shows_iff
  · intro users present
    rw [← mem_fieldNames]
    exact field_shows_iff

end RandomPick

/-- **The bot is picked by a script**, though never by a token. -/
theorem Message.bot_is_picked_by_a_script :
    let host : Host := { sources := fun _ => { rolls := id } }
    let settings : Settings := { botName := "bot" }
    let world : World := { users := [{ id := "1", name := "bot" }] }
    let shown (token : Token) (matched : String) : Option (List Char) :=
      (host.run (Chat.attempt (resolve settings {} token matched.toList)) world).1.toOption
    settings.isExcluded "bot" = true ∧
      shown (.randomUser false .viewer) "(random.viewer)" = some "unknown".toList ∧
      shown .script "(eval return random.viewer)" = some "bot".toList := by
  decide +kernel

end ChatTemplate
