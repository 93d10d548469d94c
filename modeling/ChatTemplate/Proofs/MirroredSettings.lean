/-
# ChatTemplate.Proofs.MirroredSettings -- settings that the world keeps, too

The names of points and the credentials are settings, but it is the world that is asked for
them.  So a world file writes them twice, and what it writes to the world it puts together
from what it finds in either store: one name of points from the settings, one part of the
credentials from the world.  `InStep` says that the two stores agree, and it is kept by
every change of a setup, whichever setting is given a text for the first time or anew
(`InStep.setting`).

Main statement: `settings_and_world_in_step`.
-/
import ChatTemplate.Proofs.Loading

namespace ChatTemplate.WorldFile

set_option autoImplicit false

/-- The credentials that belong to some settings, of which the missing part is empty.
There are none when both parts are missing. -/
def credentialsOf (settings : SettingTable) : Option Credentials :=
  match settings.get? "access_token", settings.get? "client_id" with
  | none, none => none
  | token, id => some { accessToken := token.getD "", clientId := id.getD "" }

/-- **A world keeps what belongs to the settings.** -/
structure InStep (setup : Setup) : Prop where
  points : setup.world.points = pointsOf setup.settings
  credentials : setup.world.credentials = credentialsOf setup.settings

variable {settings : SettingTable} {setup after : Setup}

theorem credentialsOf_eq_none_iff :
    credentialsOf settings = none ↔
      settings.get? "access_token" = none ∧ settings.get? "client_id" = none := by
  unfold credentialsOf
  cases settings.get? "access_token" <;> cases settings.get? "client_id" <;> simp

/-- Credentials that are none count as empty. -/
theorem getD_credentialsOf :
    (credentialsOf settings).getD {} =
      { accessToken := (settings.get? "access_token").getD ""
        clientId := (settings.get? "client_id").getD "" } := by
  unfold credentialsOf
  cases settings.get? "access_token" <;> cases settings.get? "client_id" <;> rfl

/-! ## One setting -/

variable {world : World}

theorem showSetting_points (points : world.points = pointsOf settings) (name text : String) :
    (showSetting settings name text world).points = pointsOf (settings.set name text) := by
  unfold showSetting
  split
  · simp [pointsOf]
  · simp [pointsOf]
  · simp [points, pointsOf]
  · simp [points, pointsOf]
  · next singular plural _ _ => simp [points, pointsOf, Ne.symm singular, Ne.symm plural]

/-- One part of the credentials is new, and the other one is what the world has had. -/
theorem showSetting_credentials (credentials : world.credentials = credentialsOf settings)
    (name text : String) :
    (showSetting settings name text world).credentials =
      credentialsOf (settings.set name text) := by
  unfold showSetting
  split
  · simp [credentials, credentialsOf]
  · simp [credentials, credentialsOf]
  · dsimp only
    rw [credentials, getD_credentialsOf]
    simp [credentialsOf]
  · dsimp only
    rw [credentials, getD_credentialsOf]
    simp [credentialsOf]
  · next token id => simp [credentials, credentialsOf, Ne.symm token, Ne.symm id]

/-- A setting that is given a text is shown by the world. -/
theorem InStep.setting (inStep : InStep setup) (name text : String) :
    InStep
      { settings := setup.settings.set name text
        world := showSetting setup.settings name text setup.world } :=
  ⟨showSetting_points inStep.points name text,
    showSetting_credentials inStep.credentials name text⟩

/-! ## A whole file -/

theorem Change.inStep (change : Change setup after) (inStep : InStep setup) : InStep after := by
  cases change with
  | nothing => exact inStep
  | setting name text => exact inStep.setting name text
  | user user => exact ⟨inStep.points, inStep.credentials⟩
  | other _ points credentials =>
      exact ⟨points.trans inStep.points, credentials.trans inStep.credentials⟩

theorem inStep_load (clock : Nat → Instant) (text : List Char) :
    InStep (load clock text).setup :=
  holds_load clock text ⟨rfl, rfl⟩ Change.inStep

/-- **Settings and world stay in step**, whatever a world file says.  The world calls points
by the names that the settings give them, and otherwise `point` and `points`.  It has
credentials exactly when one part of them is set, and then these parts, of which one that
is not set is empty. -/
theorem settings_and_world_in_step (clock : Nat → Instant) (text : List Char) :
    let setup := (load clock text).setup
    setup.world.points =
        { singular := (setup.settings.get? "points.singular").getD "point"
          plural := (setup.settings.get? "points.plural").getD "points" } ∧
      (setup.world.credentials = none ↔
        setup.settings.get? "access_token" = none ∧ setup.settings.get? "client_id" = none) ∧
      ∀ credentials, setup.world.credentials = some credentials →
        credentials =
          { accessToken := (setup.settings.get? "access_token").getD ""
            clientId := (setup.settings.get? "client_id").getD "" } := by
  intro setup
  obtain ⟨points, kept⟩ := inStep_load clock text
  refine ⟨points, ?_, ?_⟩
  · rw [kept, credentialsOf_eq_none_iff]
  · intro credentials some_
    rw [kept] at some_
    rw [← getD_credentialsOf, some_, Option.getD_some]

end ChatTemplate.WorldFile
