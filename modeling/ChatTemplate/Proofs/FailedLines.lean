/-
# ChatTemplate.Proofs.FailedLines -- lines that fail change nothing else

A directive that fails keeps what it has changed until then; but every directive is
`Atomic`, it looks at all of its arguments before it changes anything.  So a line
that fails leaves settings and world as they were.  What becomes of a line depends
on the settings and the world before it and on nothing else (`outcome`), and the
other lines do what they would do if it were blank.

* `atomic_apply`: a directive that fails changes nothing;
* `loadFrom_blanked`: along some lines, those that failed can be blanked;
* `numberedLines_blanked`: the other lines of the text stay as they are, with their
  numbers.

Main statement: `errors_are_isolated`.
-/
import ChatTemplate.Proofs.Occurrence
import ChatTemplate.WorldFile.Load
import Mathlib.Data.List.Nodup

namespace ChatTemplate

set_option autoImplicit false

namespace WorldFile

variable {clock : Nat → Instant}

/-! ## Work that fails -/

section

variable {α β : Type}

/-- **Work that changes nothing when it fails.** -/
def Atomic (work : Work α) : Prop :=
  ∀ setup fault, (ExceptT.run work setup).1 = .error fault → (ExceptT.run work setup).2 = setup

namespace Atomic

theorem throw (fault : LineFault) : Atomic (MonadExcept.throw fault : Work α) :=
  fun _ _ _ => rfl

/-- What cannot fail may change everything. -/
theorem of_ok {work : Work α} (done : ∀ setup, ∃ result, (ExceptT.run work setup).1 = .ok result) :
    Atomic work := by
  intro setup fault failed
  obtain ⟨result, succeeded⟩ := done setup
  rw [succeeded] at failed
  cases failed

theorem changeWorld (change : World → World) : Atomic (changeWorld change) :=
  of_ok fun _ => ⟨(), rfl⟩

theorem changeStats (change : Stats → Stats) : Atomic (changeStats change) :=
  changeWorld _

/-- Checks come first: nothing has been changed when one fails. -/
theorem check {result : Except LineFault α} {next : α → Work β}
    (later : ∀ value, Atomic (next value)) : Atomic ((liftM result : Work α) >>= next) := by
  cases result with
  | ok value => exact later value
  | error fault => exact throw fault

end Atomic

end

/-! ## Settings -/

theorem atomic_setCount (text : String) (put : UInt64 → Stats → Stats) :
    Atomic (setCount text put) :=
  .check fun count => .changeStats (put count)

theorem atomic_setStatistic (now : Instant) (field text : String) :
    Atomic (setStatistic now field text) := by
  have since : Atomic (do
      let since ← readArgument Instant.read? .set "timestamp" text
      changeStats fun stats => { stats with onlineSince := some since }) :=
    .check fun _ => .changeStats _
  unfold setStatistic
  split
  · exact .changeStats _
  · exact .changeStats _
  · exact atomic_setCount text _
  · exact atomic_setCount text _
  · exact atomic_setCount text _
  · exact atomic_setCount text _
  · exact atomic_setCount text _
  · exact atomic_setCount text _
  · exact .changeStats _
  · exact since
  · exact .changeStats _
  · exact .changeStats _
  · exact .throw _

/-- A setting is written in two places, and neither can fail. -/
theorem atomic_define (name text : String) : Atomic (define name text) :=
  .of_ok fun _ => ⟨(), rfl⟩

theorem atomic_setVariable (name : String) (entry : CustomVariable) :
    Atomic (setVariable name entry) :=
  .changeWorld _

theorem atomic_assign (now : Instant) (name text : String) : Atomic (assign now name text) := by
  unfold assign
  split
  · exact atomic_setStatistic now _ text
  · split
    · exact atomic_setVariable name _
    · split
      · exact .check fun _ => .changeWorld _
      · split
        · exact .changeWorld _
        · exact atomic_define name text

theorem atomic_setUp (now : Instant) (arguments : List String) :
    Atomic (setUp now arguments) := by
  refine .check fun setting => ?_
  dsimp only
  split
  · exact .throw _
  · exact atomic_assign now _ _

/-! ## Entries -/

theorem atomic_addVariable (arguments : List String) : Atomic (addVariable arguments) := by
  unfold addVariable
  dsimp only
  split
  · exact .throw _
  · split
    · split
      · exact .throw _
      · exact atomic_setVariable _ _
    · exact .throw _

theorem atomic_addRoute (text : List Char) : Atomic (addRoute text) := by
  unfold addRoute
  split
  · exact .throw _
  · split
    · exact .throw _
    · exact .check fun _ => .changeWorld _

/-- **A directive that fails changes nothing**, wherever it fails. -/
theorem atomic_apply (now : Instant) (directive : Directive) (text : List Char) :
    Atomic (apply now directive text) := by
  cases directive with
  | set => exact atomic_setUp now _
  | user => exact .check fun _ => .changeWorld _
  | event => exact .check fun _ => .check fun _ => .check fun _ => .changeWorld _
  | aliasEntry => exact .check fun _ => .changeWorld _
  | command => exact .check fun _ => .changeWorld _
  | cooldown => exact .check fun _ => .check fun _ => .changeWorld _
  | price => exact .check fun _ => .check fun _ => .changeWorld _
  | rank => exact .check fun _ => .check fun _ => .changeWorld _
  | customVariable => exact atomic_addVariable _
  | usage => exact .check fun _ => .check fun _ => .changeWorld _
  | route => exact atomic_addRoute text

/-! ## One line -/

/-- **What a line makes of a setup**, or what is wrong with it. -/
def outcome (clock : Nat → Instant) (setup : Setup) (numbered : List Char × Nat) :
    Except LineFault Setup :=
  match directiveOf? numbered.1 with
  | none => .ok setup
  | some (directive, text) =>
      let worked := ExceptT.run (apply (clock numbered.2) directive text) setup
      worked.1.map fun _ => worked.2

/-- A line that fails leaves the setup as it was. -/
theorem loadLine_eq (loaded : Loaded) (numbered : List Char × Nat) :
    loadLine clock loaded numbered =
      match outcome clock loaded.setup numbered with
      | .ok setup => { loaded with setup }
      | .error fault =>
          { loaded with errors := loaded.errors ++ [{ line := numbered.2, fault }] } := by
  obtain ⟨line, number⟩ := numbered
  rw [loadLine, outcome]
  cases directiveOf? line with
  | none => rfl
  | some found =>
      obtain ⟨directive, text⟩ := found
      have unchanged := atomic_apply (clock number) directive text loaded.setup
      dsimp only
      generalize ExceptT.run (apply (clock number) directive text) loaded.setup = worked
        at unchanged ⊢
      obtain ⟨result, after⟩ := worked
      cases result with
      | ok _ => rfl
      | error fault =>
          have same : after = loaded.setup := unchanged fault rfl
          subst same
          rfl

/-! ## Some lines -/

/-- **What some lines make of a setup, and what is wrong with them.**  A line that
fails is left out. -/
def loadFrom (clock : Nat → Instant) (setup : Setup) : List (List Char × Nat) → Loaded
  | [] => { setup }
  | numbered :: lines =>
      match outcome clock setup numbered with
      | .ok after => loadFrom clock after lines
      | .error fault =>
          let later := loadFrom clock setup lines
          { later with errors := { line := numbered.2, fault } :: later.errors }

theorem loadFrom_of_ok {setup after : Setup} {numbered : List Char × Nat}
    (done : outcome clock setup numbered = .ok after) (lines : List (List Char × Nat)) :
    loadFrom clock setup (numbered :: lines) = loadFrom clock after lines := by
  rw [loadFrom, done]

theorem loadFrom_of_error {setup : Setup} {numbered : List Char × Nat} {fault : LineFault}
    (failed : outcome clock setup numbered = .error fault) (lines : List (List Char × Nat)) :
    loadFrom clock setup (numbered :: lines) =
      { loadFrom clock setup lines with
        errors := { line := numbered.2, fault } :: (loadFrom clock setup lines).errors } := by
  rw [loadFrom, failed]

theorem foldl_loadLine (lines : List (List Char × Nat)) (loaded : Loaded) :
    lines.foldl (loadLine clock) loaded =
      { setup := (loadFrom clock loaded.setup lines).setup
        errors := loaded.errors ++ (loadFrom clock loaded.setup lines).errors } := by
  induction lines generalizing loaded with
  | nil => simp [loadFrom]
  | cons numbered lines ih =>
      rw [List.foldl_cons]
      cases result : outcome clock loaded.setup numbered with
      | ok after => rw [loadLine_eq, result, loadFrom_of_ok result, ih]
      | error fault =>
          rw [loadLine_eq, result, loadFrom_of_error result, ih]
          simp only [List.append_assoc, List.singleton_append]

/-- The numbers of the errors are numbers of lines, in order. -/
theorem lines_sublist (setup : Setup) (lines : List (List Char × Nat)) :
    ((loadFrom clock setup lines).errors.map (·.line)).Sublist (lines.map (·.2)) := by
  induction lines generalizing setup with
  | nil => exact List.Sublist.slnil
  | cons numbered lines ih =>
      rw [loadFrom]
      split
      · exact (ih _).cons _
      · exact (ih setup).cons_cons _

/-! ## Blank lines in place of others -/

/-- A line, or a blank one in its place. -/
def blankLine (numbers : List Nat) (numbered : List Char × Nat) : List Char × Nat :=
  if numbers.contains numbered.2 then ([], numbered.2) else numbered

theorem blankLine_snd (numbers : List Nat) (numbered : List Char × Nat) :
    (blankLine numbers numbered).2 = numbered.2 := by
  unfold blankLine
  split <;> rfl

/-- **Lines that failed can be blanked.**  All other lines do what they did before. -/
theorem loadFrom_blanked {numbers : List Nat} {lines : List (List Char × Nat)} {setup : Setup}
    (increasing : (lines.map (·.2)).Pairwise (· < ·))
    (failed : ∀ number ∈ numbers, number ∈ lines.map (·.2) →
      number ∈ (loadFrom clock setup lines).errors.map (·.line)) :
    loadFrom clock setup (lines.map (blankLine numbers)) =
      { setup := (loadFrom clock setup lines).setup
        errors := (loadFrom clock setup lines).errors.filter
          fun error => !numbers.contains error.line } := by
  induction lines generalizing setup with
  | nil => rfl
  | cons numbered lines ih =>
      obtain ⟨line, number⟩ := numbered
      obtain ⟨least, increasing⟩ := List.pairwise_cons.1 increasing
      rw [List.map_cons]
      cases result : outcome clock setup (line, number) with
      | ok after =>
          rw [loadFrom_of_ok result] at failed ⊢
          have unlisted : number ∉ numbers := by
            intro listed
            have reported := failed number listed List.mem_cons_self
            exact Nat.lt_irrefl number (least number ((lines_sublist after lines).subset reported))
          have kept : blankLine numbers (line, number) = (line, number) := by
            simp [blankLine, unlisted]
          rw [kept, loadFrom_of_ok result]
          exact ih increasing fun other listed member =>
            failed other listed (List.mem_cons_of_mem _ member)
      | error fault =>
          rw [loadFrom_of_error result] at failed ⊢
          have laterFailed : ∀ other ∈ numbers, other ∈ lines.map (·.2) →
              other ∈ (loadFrom clock setup lines).errors.map (·.line) := by
            intro other listed member
            rcases List.mem_cons.1 (failed other listed (List.mem_cons_of_mem _ member)) with
              same | later
            · subst same
              exact absurd (least other member) (Nat.lt_irrefl other)
            · exact later
          have rest := ih increasing laterFailed
          by_cases listed : number ∈ numbers
          · have blank : blankLine numbers (line, number) = ([], number) := by
              simp [blankLine, listed]
            rw [blank, loadFrom_of_ok rfl, rest]
            simp [listed]
          · have kept : blankLine numbers (line, number) = (line, number) := by
              simp [blankLine, listed]
            rw [kept, loadFrom_of_error result, rest]
            simp [listed]

/-! ## Whole files -/

/-- The lines of a text with their numbers. -/
def numberedLines (text : List Char) : List (List Char × Nat) :=
  (Text.splitOn ['\n'] text).zipIdx 1

/-- **The text with some of its lines made empty.** -/
def blanked (numbers : List Nat) (text : List Char) : List Char :=
  Text.join ['\n'] ((numberedLines text).map fun numbered => (blankLine numbers numbered).1)

example : blanked [2] "/addrank a 1\n/addrank b x\n# end".toList = "/addrank a 1\n\n# end".toList := by
  decide

theorem load_eq (text : List Char) : load clock text = loadFrom clock {} (numberedLines text) := by
  rw [load, foldl_loadLine]
  rfl

theorem numbers_increase (text : List Char) :
    ((numberedLines text).map (·.2)).Pairwise (· < ·) := by
  rw [numberedLines, List.zipIdx_map_snd]
  exact List.pairwise_lt_range'

/-- All other lines of the text are still there, with their numbers. -/
theorem numberedLines_blanked (numbers : List Nat) (text : List Char) :
    numberedLines (blanked numbers text) = (numberedLines text).map (blankLine numbers) := by
  have cut : Text.splitOn ['\n'] (blanked numbers text) =
      (numberedLines text).map fun numbered => (blankLine numbers numbered).1 := by
    apply Text.splitOn_join
    · simp [numberedLines, Text.splitOn_singleton]
    · intro piece member
      obtain ⟨⟨line, number⟩, known, rfl⟩ := List.mem_map.1 member
      obtain ⟨-, -, same⟩ := List.mem_zipIdx known
      have isLine : line ∈ text.splitOn '\n' := by
        rw [same, ← Text.splitOn_singleton]
        exact List.getElem_mem _
      unfold blankLine
      split
      · exact List.not_mem_nil
      · exact Text.not_mem_of_mem_splitOn line isLine
  rw [numberedLines, cut]
  apply List.ext_getElem
  · simp
  · intro i here there
    simp only [numberedLines, List.getElem_zipIdx, List.getElem_map, Prod.ext_iff, blankLine_snd,
      and_self]

theorem errors_increase (clock : Nat → Instant) (text : List Char) :
    ((load clock text).errors.map (·.line)).Pairwise (· < ·) := by
  rw [load_eq]
  exact (numbers_increase text).sublist (lines_sublist {} _)

/-- No two errors are of one line, so the line of an error is among those that are
chosen exactly if the error is. -/
theorem line_mem_chosen {clock : Nat → Instant} {text : List Char} {error : LineError}
    (reported : error ∈ (load clock text).errors) (chosen : LineError → Bool) :
    error.line ∈ ((load clock text).errors.filter chosen).map (·.line) ↔ chosen error := by
  have apart : ((load clock text).errors.map (·.line)).Nodup :=
    (errors_increase clock text).imp Nat.ne_of_lt
  constructor
  · intro listed
    obtain ⟨other, member, same⟩ := List.mem_map.1 listed
    obtain ⟨known, wanted⟩ := List.mem_filter.1 member
    rwa [← List.inj_on_of_nodup_map apart known reported same]
  · intro wanted
    exact List.mem_map_of_mem (List.mem_filter.2 ⟨reported, wanted⟩)

/-- **Whichever of the lines that failed are made empty**, all else stays as it is. -/
theorem load_blanked (clock : Nat → Instant) (text : List Char) (chosen : LineError → Bool) :
    load clock (blanked (((load clock text).errors.filter chosen).map (·.line)) text) =
      { load clock text with
        errors := (load clock text).errors.filter fun error => !chosen error } := by
  rw [load_eq, numberedLines_blanked, loadFrom_blanked (numbers_increase text), ← load_eq]
  · congr 1
    apply List.filter_congr
    intro error reported
    have same := line_mem_chosen reported chosen
    rw [← List.contains_iff_mem, ← Bool.eq_iff_iff] at same
    rw [same]
  · intro number listed _
    rw [← load_eq]
    obtain ⟨error, member, rfl⟩ := List.mem_map.1 listed
    exact List.mem_map_of_mem (List.mem_of_mem_filter member)

/-- **Errors are isolated.**  They come in the order of their lines, and a directive that
fails changes nothing.  Whichever of the lines that failed are made empty, the file sets
up the same settings and the same world and all other errors are as before; without all
of them there is no error. -/
theorem errors_are_isolated (clock : Nat → Instant) (text : List Char) :
    (load clock text).errors.Pairwise (fun one other => one.line < other.line) ∧
      (∀ now directive arguments, Atomic (apply now directive arguments)) ∧
      load clock (blanked ((load clock text).errors.map (·.line)) text) =
        { load clock text with errors := [] } ∧
      ∀ chosen : LineError → Bool,
        load clock (blanked (((load clock text).errors.filter chosen).map (·.line)) text) =
          { load clock text with
            errors := (load clock text).errors.filter fun error => !chosen error } := by
  refine ⟨List.pairwise_map.1 (errors_increase clock text), atomic_apply, ?_,
    load_blanked clock text⟩
  have all := load_blanked clock text fun _ => true
  simpa using all

end WorldFile

end ChatTemplate
