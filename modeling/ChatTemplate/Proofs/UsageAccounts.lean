/-
# ChatTemplate.Proofs.UsageAccounts -- counters and the commands they count

A world keeps a counter for each command and a list of what was handed to the dispatcher.  Both
are changed by the same query only, so counters and list go together whatever is done in a
session (`World.AccountsFor`): a counter grows by one for each new record of its command, up to
the end of the words that counters are.

* `Text.firstWord_eq`: the command of a record is the first of its words;
* `World.AccountsFor.answer`: one answer, also of a host with collaborators down;
* `World.AccountsFor.run`: any dialogue.

Main statement: `Session.usage_accounts_for_dispatches`.
-/
import ChatTemplate.Message.Render
import ChatTemplate.Overlay
import ChatTemplate.World.Host

namespace ChatTemplate

set_option autoImplicit false

/-! ## Words -/

namespace Text

/-- The words of a text, which white space separates. -/
def words (text : List Char) : List (List Char) :=
  (text.splitOnP isBlank).filter fun word => !word.isEmpty

theorem words_cons_blank {c : Char} (blank : isBlank c = true) (text : List Char) :
    words (c :: text) = words text := by
  rw [words, List.splitOnP_cons_eq_if_modifyHead, if_pos blank, List.filter_cons_of_neg (by simp)]
  rfl

/-- The characters up to the first that separates make the first piece. -/
theorem head_splitOnP (separates : Char → Bool) (text : List Char) :
    (text.splitOnP separates).head? = some (text.takeWhile fun c => !separates c) := by
  induction text with
  | nil => rfl
  | cons c text ih =>
      rw [List.splitOnP_cons_eq_if_modifyHead]
      cases here : separates c with
      | true => rw [if_pos rfl, List.takeWhile_cons_of_neg (by simp [here]), List.head?_cons]
      | false =>
          rw [if_neg Bool.false_ne_true, List.head?_modifyHead, ih,
            List.takeWhile_cons_of_pos (by simp [here])]
          rfl

/-- **What counters look at is the first word**, or nothing when there is none. -/
theorem firstWord_eq (text : List Char) : firstWord text = (words text).headD [] := by
  induction text with
  | nil => rfl
  | cons c text ih =>
      cases blank : isBlank c with
      | true =>
          rw [words_cons_blank blank, ← ih, firstWord, firstWord, trimStart,
            List.dropWhile_cons_of_pos blank]
          rfl
      | false =>
          obtain ⟨pieces, split⟩ := List.head?_eq_some_iff.1 (head_splitOnP isBlank text)
          rw [firstWord, trimStart, List.dropWhile_cons_of_neg (by simp [blank]),
            List.takeWhile_cons_of_pos (by simp [blank]), words,
            List.splitOnP_cons_eq_if_modifyHead, blank, if_neg Bool.false_ne_true, split]
          rfl

end Text

/-- The command of a record: the first word of its text, empty when there is none. -/
def Dispatched.command (record : Dispatched) : String :=
  String.ofList ((Text.words record.text.toList).headD [])

theorem World.commandWord_eq (record : Dispatched) :
    commandWord record.text = record.command := by
  rw [commandWord, Text.firstWord_eq, Dispatched.command]

/-! ## What a world does -/

namespace World

/-- How many records there are of a command. -/
def recordsOf (command : String) (records : List Dispatched) : Nat :=
  (records.map Dispatched.command).count command

/-- **The counters account for what was dispatched** from one world to another. -/
def AccountsFor (before after : World) : Prop :=
  ∃ appended, after.dispatched = before.dispatched ++ appended ∧ ∀ command,
    after.usageOf command = before.usageOf command + UInt64.ofNat (recordsOf command appended)

namespace AccountsFor

variable {before between after : World}

theorem of_unchanged (usage : after.usage = before.usage)
    (dispatched : after.dispatched = before.dispatched) : before.AccountsFor after := by
  refine ⟨[], by rw [dispatched, List.append_nil], fun command => ?_⟩
  rw [usageOf, usageOf, usage]
  exact (UInt64.add_zero _).symm

theorem trans (one : before.AccountsFor between) (other : between.AccountsFor after) :
    before.AccountsFor after := by
  obtain ⟨first, listed, counted⟩ := one
  obtain ⟨second, listed', counted'⟩ := other
  refine ⟨first ++ second, by rw [listed', listed, List.append_assoc], fun command => ?_⟩
  rw [counted', counted, recordsOf, recordsOf, recordsOf, List.map_append, List.count_append,
    UInt64.ofNat_add, UInt64.add_assoc]

theorem dispatch (world : World) (sender : Sender) (text : String) (options : DispatchOptions) :
    world.AccountsFor (world.dispatch sender text options) := by
  refine ⟨[⟨sender, text, options⟩], rfl, fun command => ?_⟩
  have own : (Dispatched.mk sender text options).command = commandWord text :=
    (commandWord_eq ⟨sender, text, options⟩).symm
  have counter : (world.dispatch sender text options).usageOf command =
      if command = commandWord text then world.usageOf command + 1 else world.usageOf command := by
    rw [usageOf, World.dispatch, Table.get?_set]
    split
    · next same => rw [same, Option.getD_some]
    · rfl
  rw [counter, recordsOf, List.map_singleton, own, List.count_singleton]
  by_cases same : command = commandWord text
  · rw [if_pos same, if_pos (by simp [same])]
    rfl
  · rw [if_neg same, if_neg (by simpa using Ne.symm same)]
    exact (UInt64.add_zero _).symm

theorem answer (host : Host) (query : Query) (world : World) :
    world.AccountsFor (host.answer query world).2 := by
  rcases host.answer_world query world with same | answered
  · rw [same]
    exact of_unchanged rfl rfl
  · rw [answered]
    cases query with
    | dispatch sender text options => exact dispatch world sender text options
    | _ => exact of_unchanged rfl rfl

/-- **Whatever is asked**, the counters account for it. -/
theorem run {α : Type} (host : Host) (dialogue : Dialogue α) (world : World) :
    world.AccountsFor (host.run dialogue world).2 :=
  Dialogue.run_preserves host.answer world.AccountsFor
    (fun query _ known => known.trans (answer host query _)) dialogue world (of_unchanged rfl rfl)

end AccountsFor

end World

/-! ## Sessions -/

namespace Session

/-- **What can be done with a bot**: rendering, asking a collaborator, and taking the stream on
or off the air. -/
inductive Step where
  | message (settings : Settings) (context : Context) (text : List Char)
  | placeholders (settings : Settings) (escape : String) (text : List Char)
  | overlay (settings : Settings) (text : List Char)
  | ask (query : Query)
  | stream (stats : Stats)

/-- The world after a step. -/
def Step.after (host : Host) (world : World) : Step → World
  | .message settings context text => (host.run (Message.render settings context text) world).2
  | .placeholders settings escape text =>
      (host.run (Message.renderPlaceholders settings escape text) world).2
  | .overlay settings text =>
      (host.run (Chat.attempt (Overlay.render settings text)) world).2
  | .ask query => (host.run (Query.put query) world).2
  | .stream stats => { world with stats }

/-- The world after some steps, each with a host of its own: collaborators may fail and come
back. -/
def after (world : World) (steps : List (Host × Step)) : World :=
  steps.foldl (fun world step => step.2.after step.1 world) world

theorem Step.accountsFor (host : Host) (world : World) (step : Step) :
    world.AccountsFor (step.after host world) := by
  cases step with
  | message settings context text => exact .run host _ world
  | placeholders settings escape text => exact .run host _ world
  | overlay settings text => exact .run host _ world
  | ask query => exact .run host _ world
  | stream stats => exact .of_unchanged rfl rfl

theorem accountsFor_after (world : World) (steps : List (Host × Step)) :
    world.AccountsFor (after world steps) := by
  induction steps generalizing world with
  | nil => exact .of_unchanged rfl rfl
  | cons step steps ih => exact (step.2.accountsFor step.1 world).trans (ih _)

/-- **Usage counters account for every dispatch.** -/
theorem usage_accounts_for_dispatches (before : World) (steps : List (Host × Step)) :
    ∃ appended, (after before steps).dispatched = before.dispatched ++ appended ∧
      ∀ command, (before.usageOf command).toNat + World.recordsOf command appended < UInt64.size →
        ((after before steps).usageOf command).toNat =
          (before.usageOf command).toNat + World.recordsOf command appended := by
  obtain ⟨appended, listed, counted⟩ := accountsFor_after before steps
  refine ⟨appended, listed, fun command bounded => ?_⟩
  have small : World.recordsOf command appended < UInt64.size := Nat.lt_of_add_left_lt bounded
  rw [counted, UInt64.toNat_add, UInt64.toNat_ofNat_of_lt' small, Nat.mod_eq_of_lt bounded]

/-- A channel on which hugs have been counted. -/
def hugged : World :=
  { usage := ⟨[("!hug", 3)]⟩ }

/-- Three hugs more, one of them while the dispatcher is down. -/
def hugs : List (Host × Step) :=
  let up : Host := { sources := fun _ => { rolls := id } }
  let ann : Sender := ⟨"ann", "1"⟩
  [ (up, .message {} { sender := ann } "(!hug)(!!slap)".toList),
    ({ up with down := [.dispatcher] }, .ask (.dispatch ann "!hug carl" {})),
    (up, .ask (.dispatch ann " !hug\tdan" {})) ]

theorem hugs_are_counted :
    (after hugged hugs).dispatched.map (·.text) = ["!slap", "!hug", " !hug\tdan"] ∧
      (hugged.usageOf "!hug").toNat + 2 < UInt64.size ∧
      ((after hugged hugs).usageOf "!hug").toNat = (hugged.usageOf "!hug").toNat + 2 := by
  have texts : (after hugged hugs).dispatched.map (·.text) = ["!slap", "!hug", " !hug\tdan"] := by
    decide +kernel
  have bounded : (hugged.usageOf "!hug").toNat + 2 < UInt64.size := by decide
  obtain ⟨appended, listed, counted⟩ := usage_accounts_for_dispatches hugged hugs
  have none_ : hugged.dispatched = [] := rfl
  rw [none_, List.nil_append] at listed
  have records : World.recordsOf "!hug" appended = 2 := by
    have commands : appended.map Dispatched.command =
        (appended.map (·.text)).map World.commandWord := by
      simp [World.commandWord_eq]
    rw [World.recordsOf, commands, ← listed, texts]
    decide
  have counter := counted "!hug"
  rw [records] at counter
  exact ⟨texts, bounded, counter bounded⟩

end Session

end ChatTemplate
