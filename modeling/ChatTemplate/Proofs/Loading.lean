/-
# ChatTemplate.Proofs.Loading -- what a world file can do to a setup

A directive that fails keeps what it has changed until then, so a property of setups is
sure to outlast a directive only if every change that is made on the way preserves it.
There are few ways to change a setup (`Change`): a directive gives a setting a text, adds a
user, or changes something in the world that is neither a user nor shown of a setting.  As
directives check their arguments first, each makes one change at most.

* `change_apply`: what becomes of a setup by a directive, whether or not it fails.

Main statement: `holds_load`, what every change preserves holds of whatever a world file
sets up.
-/
import ChatTemplate.WorldFile.Load

namespace ChatTemplate.WorldFile

set_option autoImplicit false

/-! ## Changes of a setup -/

/-- **What a directive can make of a setup.** -/
inductive Change (setup : Setup) : Setup → Prop
  | nothing : Change setup setup
  | setting (name text : String) :
      Change setup
        { settings := setup.settings.set name text
          world := showSetting setup.settings name text setup.world }
  | user (user : User) : Change setup { setup with world := setup.world.addUser user }
  | other {world : World} (users : world.users = setup.world.users)
      (points : world.points = setup.world.points)
      (credentials : world.credentials = setup.world.credentials) :
      Change setup { setup with world }

/-- Work makes one change at most, whether or not it fails. -/
def Changes {α : Type} (work : Work α) : Prop :=
  ∀ setup, Change setup (ExceptT.run work setup).2

namespace Changes

variable {α β : Type}

theorem throw (fault : LineFault) : Changes (MonadExcept.throw fault : Work α) :=
  fun _ => .nothing

theorem check {result : Except LineFault α} {next : α → Work β}
    (later : ∀ value, Changes (next value)) : Changes ((liftM result : Work α) >>= next) := by
  cases result with
  | ok value => exact later value
  | error fault => exact throw fault

/-- Changing the world besides its users and what it shows of settings. -/
theorem changeWorld {change : World → World}
    (same : ∀ world, (change world).users = world.users ∧
      (change world).points = world.points ∧ (change world).credentials = world.credentials) :
    Changes (changeWorld change) :=
  fun setup => .other (same setup.world).1 (same setup.world).2.1 (same setup.world).2.2

theorem changeStats (change : Stats → Stats) : Changes (changeStats change) :=
  changeWorld fun _ => ⟨rfl, rfl, rfl⟩

end Changes

/-! ## Settings -/

theorem changes_define (name text : String) : Changes (define name text) :=
  fun _ => .setting name text

theorem changes_setCount (text : String) (put : UInt64 → Stats → Stats) :
    Changes (setCount text put) :=
  .check fun count => .changeStats (put count)

theorem changes_setStatistic (now : Instant) (field text : String) :
    Changes (setStatistic now field text) := by
  unfold setStatistic
  split
  · exact .changeStats _
  · exact .changeStats _
  · exact changes_setCount text _
  · exact changes_setCount text _
  · exact changes_setCount text _
  · exact changes_setCount text _
  · exact changes_setCount text _
  · exact changes_setCount text _
  · exact .changeStats _
  · exact .check fun _ => .changeStats _
  · exact .changeStats _
  · exact .changeStats _
  · exact .throw _

theorem changes_assign (now : Instant) (name text : String) : Changes (assign now name text) := by
  unfold assign
  split
  · exact changes_setStatistic now _ text
  · split
    · exact .changeWorld fun _ => ⟨rfl, rfl, rfl⟩
    · split
      · exact .check fun _ => .changeWorld fun _ => ⟨rfl, rfl, rfl⟩
      · split
        · exact .changeWorld fun _ => ⟨rfl, rfl, rfl⟩
        · exact changes_define name text

theorem changes_setUp (now : Instant) (arguments : List String) :
    Changes (setUp now arguments) := by
  refine .check fun setting => ?_
  dsimp only
  split
  · exact .throw _
  · exact changes_assign now _ _

/-! ## Entries -/

theorem changes_addUser (arguments : List String) : Changes (addUser arguments) :=
  .check fun _ _ => .user _

theorem changes_addVariable (arguments : List String) : Changes (addVariable arguments) := by
  unfold addVariable
  dsimp only
  split
  · exact .throw _
  · split
    · split
      · exact .throw _
      · exact .changeWorld fun _ => ⟨rfl, rfl, rfl⟩
    · exact .throw _

theorem changes_addRoute (text : List Char) : Changes (addRoute text) := by
  unfold addRoute
  split
  · exact .throw _
  · split
    · exact .throw _
    · exact .check fun _ => .changeWorld fun _ => ⟨rfl, rfl, rfl⟩

/-- **A directive makes one change at most.** -/
theorem change_apply (now : Instant) (directive : Directive) (text : List Char) :
    Changes (apply now directive text) := by
  cases directive with
  | set => exact changes_setUp now _
  | user => exact changes_addUser _
  | event =>
      exact .check fun _ => .check fun _ => .check fun _ => .changeWorld fun _ => ⟨rfl, rfl, rfl⟩
  | aliasEntry => exact .check fun _ => .changeWorld fun _ => ⟨rfl, rfl, rfl⟩
  | command => exact .check fun _ => .changeWorld fun _ => ⟨rfl, rfl, rfl⟩
  | cooldown => exact .check fun _ => .check fun _ => .changeWorld fun _ => ⟨rfl, rfl, rfl⟩
  | price => exact .check fun _ => .check fun _ => .changeWorld fun _ => ⟨rfl, rfl, rfl⟩
  | rank => exact .check fun _ => .check fun _ => .changeWorld fun _ => ⟨rfl, rfl, rfl⟩
  | customVariable => exact changes_addVariable _
  | usage => exact .check fun _ => .check fun _ => .changeWorld fun _ => ⟨rfl, rfl, rfl⟩
  | route => exact changes_addRoute text

/-! ## Whole files -/

variable {holds : Setup → Prop}

/-- A line is skipped, or it does what its directive does. -/
theorem change_loadLine (clock : Nat → Instant) (loaded : Loaded) (numbered : List Char × Nat) :
    Change loaded.setup (loadLine clock loaded numbered).setup := by
  obtain ⟨line, number⟩ := numbered
  rw [loadLine]
  split
  · exact .nothing
  · next directive text _ =>
      have change := change_apply (clock number) directive text loaded.setup
      split
      · next worked => rwa [worked] at change
      · next worked => rwa [worked] at change

/-- **What every change preserves holds of whatever a world file sets up**, if it holds of
the setup that a file begins with. -/
theorem holds_load (clock : Nat → Instant) (text : List Char) (start : holds {})
    (each : ∀ {setup after : Setup}, Change setup after → holds setup → holds after) :
    holds (load clock text).setup := by
  have along : ∀ (lines : List (List Char × Nat)) (loaded : Loaded), holds loaded.setup →
      holds (lines.foldl (loadLine clock) loaded).setup := by
    intro lines
    induction lines with
    | nil => exact fun _ before => before
    | cons numbered lines ih =>
        exact fun loaded before => ih _ (each (change_loadLine clock loaded numbered) before)
  exact along _ _ start

end ChatTemplate.WorldFile
