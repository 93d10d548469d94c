/-
# ChatTemplate.Proofs.WorldArithmetic -- whether the numbers of a world stay in their words

A world computes with two numbers: the magnitude of an amount whose name it is asked for, and the
counter of a command that is dispatched.  Each is put to it at some moment of a session
(`Session.moments`), and whether it fits is a question about that moment (`Moment.LabelFits`,
`Moment.CounterFits`).

* `World.pointsLabel_eq`: the name of an amount is looked up by its magnitude.
* `Message.keeps_render`: messages ask for the names of prices only, which no answer changes.
* `Session.named`: so the amounts of a session are zero, enabled prices and what is asked directly.
* `Session.counted_after`: counters fit at all moments just when their sums do at the end.

Main statement: `Session.world_arithmetic`.
-/
import ChatTemplate.Proofs.NewUsers
import ChatTemplate.Proofs.UsageAccounts
import ChatTemplate.WorldFile.Load

namespace ChatTemplate

set_option autoImplicit false

/-! ## Moments -/

/-- A query when it is put: who answers, and for which world. -/
structure Moment where
  host : Host
  query : Query
  world : World

/-- **The moments of a dialogue**, in order. -/
def Dialogue.moments {α : Type} (host : Host) : Dialogue α → World → List Moment
  | done _, _ => []
  | ask query next, world =>
      let (answer, after) := host.answer query world
      ⟨host, query, world⟩ :: (next answer).moments host after

namespace Session

/-- The moments of a step; nobody is asked when the stream goes on or off the air. -/
def Step.moments (host : Host) (world : World) : Step → List Moment
  | .message settings context text => (Message.render settings context text).moments host world
  | .placeholders settings escape text =>
      (Message.renderPlaceholders settings escape text).moments host world
  | .overlay settings text => (Chat.attempt (Overlay.render settings text)).moments host world
  | .ask query => (Query.put query).moments host world
  | .stream _ => []

/-- **The moments of a session.** -/
def moments (world : World) : List (Host × Step) → List Moment
  | [] => []
  | (host, step) :: steps => step.moments host world ++ moments (step.after host world) steps

end Session

namespace Moment

/-- The name of this amount is looked up. -/
def looksUp (amount : Int64) : Moment → Bool
  | ⟨host, .pointsLabel other, _⟩ => !host.isDown (.pointsLabel other) && other == amount
  | _ => false

theorem query_of_looksUp {amount : Int64} {moment : Moment}
    (looked : moment.looksUp amount = true) : moment.query = .pointsLabel amount := by
  obtain ⟨host, query, world⟩ := moment
  cases query with
  | pointsLabel other =>
      rw [looksUp, Bool.and_eq_true, beq_iff_eq] at looked
      exact congrArg _ looked.2
  | _ => cases looked

/-- **The magnitude of an amount fits a word** when its name is looked up. -/
def LabelFits (moment : Moment) : Prop :=
  ∀ amount, moment.looksUp amount = true → amount.abs.toInt = amount.toInt.natAbs

/-- **The counter of a command fits a word** when the command is dispatched: it is one more. -/
def CounterFits (moment : Moment) : Prop :=
  ∀ sender text options, moment.query = .dispatch sender text options →
    moment.host.isDown moment.query = false →
      ((moment.host.answer moment.query moment.world).2.usageOf (World.commandWord text)).toNat =
        (moment.world.usageOf (World.commandWord text)).toNat + 1

end Moment

/-! ## Magnitudes -/

theorem toInt_abs (n : Int64) :
    n.abs.toInt = if n = Int64.minValue then Int64.minValue.toInt else n.toInt.natAbs := by
  have bits : n.abs.toInt = n.toBitVec.abs.toInt := rfl
  have least : n.toBitVec = BitVec.intMin 64 ↔ n = Int64.minValue := by
    rw [← Int64.toBitVec_inj]
    rfl
  rw [bits, BitVec.toInt_abs_eq_natAbs, Int64.toInt_toBitVec]
  simp only [least]
  rfl

/-- Only the least of all words has no magnitude. -/
theorem toInt_abs_eq_natAbs_iff (n : Int64) :
    n.abs.toInt = n.toInt.natAbs ↔ n ≠ Int64.minValue := by
  rw [toInt_abs]
  constructor
  · rintro same rfl
    exact absurd same (by decide)
  · exact fun other => if_neg other

/-- **The name of an amount** is looked up by its magnitude. -/
theorem World.pointsLabel_eq (world : World) (amount : Int64) :
    world.pointsLabel amount =
      if amount.abs = 1 then world.points.singular else world.points.plural := by
  have one : amount.abs = 1 ↔ amount = 1 ∨ amount = -1 := by
    have values : (1 : Int64).toInt = 1 ∧ (-1 : Int64).toInt = -1 := by decide
    have least : Int64.minValue.toInt = -9223372036854775808 := by decide
    rw [← Int64.toInt_inj, ← Int64.toInt_inj, ← Int64.toInt_inj, values.1, values.2, toInt_abs]
    split
    · next same =>
        rw [same, least]
        omega
    · omega
  rw [pointsLabel]
  simp only [one]

/-! ## Naming prices -/

/-- An amount that is nothing or a price that is asked. -/
def Priced (entries : List PriceEntry) (amount : Int64) : Prop :=
  amount = 0 ∨ ∃ entry ∈ entries, entry.enabled = true ∧ entry.price = amount

/-- When these are the prices that are told, only prices are named. -/
def Contract.priced (entries : List PriceEntry) : Contract where
  asked query := ∀ amount, query = .pointsLabel amount → Priced entries amount
  answered
    | .prices, answer => ∀ told, answer = .ok told → told = entries
    | _, _ => True

variable {entries : List PriceEntry}

/-- **A dialogue names only prices.** -/
abbrev Dialogue.NamesPrices {α : Type} (entries : List PriceEntry) (dialogue : Dialogue α) :
    Prop :=
  dialogue.Keeps (.priced entries) fun _ => True

theorem namesPrices (entries : List PriceEntry) :
    Compositional fun dialogue => Dialogue.NamesPrices entries dialogue where
  pure _ := trivial
  bind one two := one.bind fun result _ => two result

/-- So do all queries but one. -/
theorem namesPrices_put {query : Query} (other : ∀ amount, query ≠ .pointsLabel amount) :
    (Query.put query).NamesPrices entries :=
  .asks fun amount same => absurd same (other amount)

theorem Context.MayAskUnlabelled.names_no_points {context : Context} {query : Query}
    (permitted : context.MayAskUnlabelled query) : ∀ amount, query ≠ .pointsLabel amount := by
  rintro amount rfl
  exact permitted

/-- The prices that are told are these. -/
theorem keeps_told :
    (Chat.ask (Query.put .prices)).Keeps (.priced entries) fun told => told = entries :=
  .ask (.put nofun fun _ told => told)

/-- An amount that may be named, and what is made of its name. -/
theorem keeps_label {α : Type} {amount : Int64} (priced : Priced entries amount)
    (shown : String → α) :
    Chat.Keeps (.priced entries) (fun _ => True) (do
      let label ← Chat.ask (Query.put (.pointsLabel amount))
      return shown label) := by
  have named : (Chat.ask (Query.put (.pointsLabel amount))).Keeps (.priced entries)
      fun _ => True := .asks (.asks fun _ same => by cases same; exact priced)
  exact named.bind fun _ _ => .pure trivial

namespace Information

theorem priced_priceOf (command : String) : Priced entries (priceOf command entries) := by
  unfold priceOf
  split
  · next entry found =>
      have wanted := List.find?_some found
      rw [Bool.and_eq_true] at wanted
      exact .inr ⟨entry, List.mem_of_find?_eq_some found, wanted.1, rfl⟩
  · exact .inl rfl

theorem keeps_priced (settings : Settings) (context : Context) :
    (price settings context).Keeps (.priced entries) fun _ => True := by
  have free : Priced entries 0 := .inl rfl
  unfold price
  split
  · split
    · refine keeps_told.bind fun told same => ?_
      subst same
      exact keeps_label (priced_priceOf _) _
    · exact keeps_label free _
  · exact keeps_label free _

end Information

theorem Listing.keeps_priced : prices.Keeps (.priced entries) fun _ => True := by
  refine keeps_told.bind fun told same => ?_
  subst same
  have each : ∀ entry ∈ told.filter (·.enabled),
      (priceText entry).Keeps (.priced told) fun _ => True := by
    intro entry member
    obtain ⟨among, enabled⟩ := List.mem_filter.1 member
    exact keeps_label (.inr ⟨entry, among, enabled, rfl⟩) _
  exact Chat.Keeps.mono ((Chat.Keeps.sequential _).mapM each) fun _ _ => trivial

/-- The record of a sender names nothing. -/
theorem Scripting.keeps_priced (sender : Sender) :
    (senderRecord sender).Keeps (.priced entries) fun _ => True := by
  have known : (Chat.ask (Query.put (.userNamed sender.name))).Keeps (.priced entries)
      fun _ => True := .asks (.asks nofun)
  refine known.bind fun user _ => ?_
  split
  · exact .pure trivial
  · exact .asks (.asks nofun)

/-- What names no prices when it asks for none may be attempted. -/
theorem namesPrices_attempt {α : Type} {chat : Chat α}
    (keeps : chat.Keeps (.priced entries) fun _ => True) :
    (Chat.attempt chat).NamesPrices entries :=
  Dialogue.Keeps.mono keeps fun _ _ => trivial

/-- **Messages name only prices.** -/
theorem Message.keeps_render (settings : Settings) (context : Context) (text : List Char) :
    (render settings context text).NamesPrices entries := by
  have rules := namesPrices entries
  have each : ∀ query, context.MayAskUnlabelled query → (Query.put query).NamesPrices entries :=
    fun query permitted => namesPrices_put permitted.names_no_points
  exact holds_render_of_prices rules settings context each
    (namesPrices_attempt (Information.keeps_priced settings context))
    (namesPrices_attempt Listing.keeps_priced)
    (namesPrices_attempt (Scripting.keeps_priced context.sender))
    (Listing.holds_aliases rules (namesPrices_put nofun))
    (Listing.holds_commands rules each (namesPrices_put nofun)) text

/-- So do placeholders, which name none. -/
theorem Message.keeps_renderPlaceholders (settings : Settings) (escape : String)
    (text : List Char) : (renderPlaceholders settings escape text).NamesPrices entries := by
  have asks : (renderPlaceholders settings escape text).Asks (Context.MayAskUnlabelled {}) :=
    Placeholder.asks_apply settings escape _
  exact (namesPrices entries).of_asks
    (fun query permitted => namesPrices_put permitted.names_no_points) asks

/-- And overlays. -/
theorem Overlay.keeps_render (settings : Settings) (text : List Char) :
    (Chat.attempt (render settings text)).NamesPrices entries := by
  have rules := namesPrices entries
  have drafted : ((variablePattern.findAll text).foldlM putVariable { text }).Asks
      (Context.MayAskUnlabelled {}) := Chat.Asks.foldlM asks_putVariable _
  have each : ∀ query, Context.MayAskUnlabelled {} query → (Query.put query).NamesPrices entries :=
    fun query permitted => namesPrices_put permitted.names_no_points
  refine rules.attempt_bind (rules.of_asks each drafted) fun draft => ?_
  refine rules.attempt_bind ?_ fun _ => rules.pure _
  exact rules.bind (Message.keeps_render settings {} draft.text) fun _ => rules.pure _

namespace Host

variable (host : Host)

/-- No answer changes a price. -/
theorem prices_answer (query : Query) (world : World) :
    (host.answer query world).2.prices = world.prices := by
  rcases host.answer_world query world with same | answered
  · rw [same]
  · rw [answered]
    cases query <;> rfl

theorem prices_run {α : Type} (dialogue : Dialogue α) (world : World) :
    (host.run dialogue world).2.prices = world.prices :=
  Dialogue.run_preserves host.answer (fun now => now.prices = world.prices)
    (fun query now kept => (host.prices_answer query now).trans kept) dialogue world rfl

/-- The prices that are told are those of the world. -/
theorem told_prices (world : World) :
    ∀ told, (host.answer .prices world).1 = .ok told → told = world.prices := by
  unfold answer
  split
  · nofun
  · rintro told ⟨⟩
    rfl

end Host

/-- What names only prices names those of the world. -/
theorem Dialogue.NamesPrices.named {α : Type} {dialogue : Dialogue α} {world : World}
    (names : dialogue.NamesPrices world.prices) (host : Host) :
    ∀ moment ∈ dialogue.moments host world, ∀ amount, moment.query = .pointsLabel amount →
      Priced world.prices amount := by
  induction dialogue generalizing world with
  | done result => exact List.forall_mem_nil _
  | ask query next ih =>
      have same := host.prices_answer query world
      have answered : (Contract.priced world.prices).answered query
          (host.answer query world).1 := by
        cases query with
        | prices => exact host.told_prices world
        | _ => trivial
      have later := names.2 _ answered
      rw [← same] at later
      refine List.forall_mem_cons.2 ⟨names.1, ?_⟩
      rw [← same]
      exact ih _ later

namespace Session

theorem Step.prices_after (host : Host) (world : World) (step : Step) :
    (step.after host world).prices = world.prices := by
  cases step with
  | stream stats => rfl
  | _ => exact host.prices_run _ world

/-- A step names only prices, unless it asks for a name itself. -/
theorem Step.named (host : Host) (world : World) (step : Step) :
    ∀ moment ∈ step.moments host world, ∀ amount, moment.query = .pointsLabel amount →
      Priced world.prices amount ∨ step = .ask (.pointsLabel amount) := by
  intro moment member amount asked
  cases step with
  | message settings context text =>
      exact .inl ((Message.keeps_render settings context text).named host moment member amount
        asked)
  | placeholders settings escape text =>
      exact .inl ((Message.keeps_renderPlaceholders settings escape text).named host moment member
        amount asked)
  | overlay settings text =>
      exact .inl ((Overlay.keeps_render settings text).named host moment member amount asked)
  | ask query =>
      rw [List.mem_singleton.1 member] at asked
      exact .inr (congrArg _ asked)
  | stream stats => cases member

/-- **The amounts that a session names** are prices of its world, or asked directly. -/
theorem named (world : World) (steps : List (Host × Step)) :
    ∀ moment ∈ moments world steps, ∀ amount, moment.query = .pointsLabel amount →
      Priced world.prices amount ∨ ∃ host, (host, .ask (.pointsLabel amount)) ∈ steps := by
  induction steps generalizing world with
  | nil => exact List.forall_mem_nil _
  | cons first steps ih =>
      obtain ⟨host, step⟩ := first
      intro moment member amount asked
      rcases List.mem_append.1 member with now | later
      · refine (step.named host world moment now amount asked).imp_right fun direct => ⟨host, ?_⟩
        rw [direct]
        exact List.mem_cons_self
      · have known := ih _ moment later amount asked
        rw [step.prices_after] at known
        exact known.imp_right fun ⟨host, among⟩ => ⟨host, List.mem_cons_of_mem _ among⟩

end Session

/-! ## Counting -/

/-- **A world is left as a dispatch leaves it, or with its counters as they were.** -/
theorem Host.counts (host : Host) (query : Query) (world : World) :
    (∃ sender text options, query = .dispatch sender text options ∧ host.isDown query = false ∧
      (host.answer query world).2 = world.dispatch sender text options) ∨
    (∀ sender text options, query = .dispatch sender text options → host.isDown query = true) ∧
      (host.answer query world).2.dispatched = world.dispatched ∧
      (host.answer query world).2.usage = world.usage := by
  by_cases dispatches : ∃ sender text options, query = .dispatch sender text options
  · obtain ⟨sender, text, options, rfl⟩ := dispatches
    cases down : host.isDown (.dispatch sender text options) with
    | false => exact .inl ⟨sender, text, options, rfl, rfl, by rw [host.answer_of_up down]; rfl⟩
    | true =>
        have same : (host.answer (.dispatch sender text options) world).2 = world := by
          rw [answer, down, if_pos rfl]
          rfl
        rw [same]
        exact .inr ⟨fun _ _ _ _ => rfl, rfl, rfl⟩
  · refine .inr ⟨fun sender text options same =>
      absurd ⟨sender, text, options, same⟩ dispatches, ?_⟩
    rcases host.answer_world query world with same | answered
    · rw [same]
      exact ⟨rfl, rfl⟩
    · rw [answered]
      cases query with
      | dispatch sender text options => exact absurd ⟨sender, text, options, rfl⟩ dispatches
      | _ => exact ⟨rfl, rfl⟩

namespace World

/-- **The moments from one world to another account for its counters**, and these fit at each of
them just when none of the sums is too large for a word. -/
def Counted (before after : World) (moments : List Moment) : Prop :=
  ∃ appended, after.dispatched = before.dispatched ++ appended ∧
    (∀ command,
      after.usageOf command = before.usageOf command + UInt64.ofNat (recordsOf command appended)) ∧
    ((∀ moment ∈ moments, moment.CounterFits) ↔
      ∀ command, (before.usageOf command).toNat + recordsOf command appended < UInt64.size)

/-- A record counts for its command. -/
theorem recordsOf_dispatch (command : String) (sender : Sender) (text : String)
    (options : DispatchOptions) :
    recordsOf command [⟨sender, text, options⟩] = if command = commandWord text then 1 else 0 := by
  rw [recordsOf, List.map_singleton, ← commandWord_eq, List.count_singleton]
  by_cases same : command = commandWord text
  · rw [if_pos same, if_pos (beq_iff_eq.2 same.symm)]
  · rw [if_neg same, if_neg (mt beq_iff_eq.1 (Ne.symm same))]

namespace Counted

variable {before between after : World} {moments others : List Moment}

theorem of_unchanged (usage : after.usage = before.usage)
    (dispatched : after.dispatched = before.dispatched)
    (uncounted : ∀ moment ∈ moments, moment.CounterFits) : before.Counted after moments := by
  refine ⟨[], by rw [dispatched, List.append_nil], fun command => ?_, ?_⟩
  · rw [usageOf, usageOf, usage]
    exact (UInt64.add_zero _).symm
  · exact iff_of_true uncounted fun command => (before.usageOf command).toNat_lt

/-- What fits goes on from where it has got to. -/
theorem trans (one : before.Counted between moments) (other : between.Counted after others) :
    before.Counted after (moments ++ others) := by
  obtain ⟨first, listed, counted, fits⟩ := one
  obtain ⟨second, listed', counted', fits'⟩ := other
  have sum : ∀ command, recordsOf command (first ++ second) =
      recordsOf command first + recordsOf command second := by
    intro command
    rw [recordsOf, List.map_append, List.count_append]
    rfl
  refine ⟨first ++ second, by rw [listed', listed, List.append_assoc], fun command => ?_, ?_⟩
  · rw [counted', counted, sum, UInt64.ofNat_add, UInt64.add_assoc]
  rw [List.forall_mem_append, fits, fits', ← forall_and]
  refine forall_congr' fun command => ?_
  -- a sum that fits is the counter that the rest begins with
  have reached : (before.usageOf command).toNat + recordsOf command first < UInt64.size →
      (between.usageOf command).toNat =
        (before.usageOf command).toNat + recordsOf command first := by
    intro small
    rw [counted, UInt64.toNat_add, UInt64.toNat_ofNat_of_lt' (Nat.lt_of_add_left_lt small),
      Nat.mod_eq_of_lt small]
  rw [sum]
  constructor
  · rintro ⟨small, later⟩
    rw [reached small] at later
    omega
  · intro small
    have here : (before.usageOf command).toNat + recordsOf command first < UInt64.size := by omega
    refine ⟨here, ?_⟩
    rw [reached here]
    omega

theorem answer (host : Host) (query : Query) (world : World) :
    world.Counted (host.answer query world).2 [⟨host, query, world⟩] := by
  rcases host.counts query world with ⟨sender, text, options, rfl, up, left⟩ | ⟨down, same, same'⟩
  · obtain ⟨appended, listed, counted⟩ := AccountsFor.dispatch world sender text options
    have record : appended = [⟨sender, text, options⟩] := (List.append_cancel_left listed).symm
    subst record
    rw [← left] at listed counted
    refine ⟨_, listed, counted, ?_⟩
    rw [List.forall_mem_singleton]
    constructor
    · intro fits command
      by_cases same : command = commandWord text
      · have more := fits sender text options rfl up
        have small := ((host.answer (.dispatch sender text options) world).2.usageOf
          (commandWord text)).toNat_lt
        dsimp only at more
        rw [more] at small
        rwa [same, recordsOf_dispatch, if_pos rfl]
      · rw [recordsOf_dispatch, if_neg same]
        exact (world.usageOf command).toNat_lt
    · rintro small _ _ _ ⟨⟩ -
      have here := small (commandWord text)
      rw [recordsOf_dispatch, if_pos rfl] at here
      dsimp only
      rw [counted, recordsOf_dispatch, if_pos rfl, UInt64.toNat_add]
      exact Nat.mod_eq_of_lt here
  · refine of_unchanged same' same (List.forall_mem_singleton.2 ?_)
    intro sender text options asked up
    rw [down sender text options asked] at up
    cases up

/-- **What a dialogue asks** is counted moment by moment. -/
theorem run {α : Type} (host : Host) (dialogue : Dialogue α) (world : World) :
    world.Counted (host.run dialogue world).2 (dialogue.moments host world) := by
  induction dialogue generalizing world with
  | done result => exact of_unchanged rfl rfl (List.forall_mem_nil _)
  | ask query next ih => exact (answer host query world).trans (ih _ _)

end Counted

end World

namespace Session

theorem Step.counted_after (host : Host) (world : World) (step : Step) :
    world.Counted (step.after host world) (step.moments host world) := by
  cases step with
  | stream stats => exact .of_unchanged rfl rfl (List.forall_mem_nil _)
  | _ => exact .run host _ world

/-- **A session** is counted step by step. -/
theorem counted_after (world : World) (steps : List (Host × Step)) :
    world.Counted (after world steps) (moments world steps) := by
  induction steps generalizing world with
  | nil => exact .of_unchanged rfl rfl (List.forall_mem_nil _)
  | cons first steps ih => exact (first.2.counted_after first.1 world).trans (ih _)

/-! ## All that a world computes -/

/-- **What a world computes in a session.**  All magnitudes fit a word if the least of all words is
no enabled price and its name is not asked for directly.  All counters do just when no command is
dispatched so often that its count, on top of what has been counted before, is too large. -/
theorem world_arithmetic (world : World) (steps : List (Host × Step)) :
    ((∀ entry ∈ world.prices, entry.enabled = true → entry.price ≠ Int64.minValue) →
      (∀ host, (host, Step.ask (.pointsLabel Int64.minValue)) ∉ steps) →
        ∀ moment ∈ moments world steps, moment.LabelFits) ∧
      ∃ appended, (after world steps).dispatched = world.dispatched ++ appended ∧
        ((∀ moment ∈ moments world steps, moment.CounterFits) ↔
          ∀ command,
            (world.usageOf command).toNat + World.recordsOf command appended < UInt64.size) := by
  refine ⟨fun moderate undirected moment member amount looked => ?_, ?_⟩
  · rw [toInt_abs_eq_natAbs_iff]
    rintro rfl
    have asked := Moment.query_of_looksUp looked
    rcases named world steps moment member _ asked with
      (zero | ⟨entry, among, enabled, same⟩) | ⟨host, direct⟩
    · exact absurd zero (by decide)
    · exact moderate entry among enabled same
    · exact undirected host direct
  · obtain ⟨appended, listed, -, fits⟩ := counted_after world steps
    exact ⟨appended, listed, fits⟩

/-- Everyone answers. -/
def everyone : Host :=
  { sources := fun _ => { rolls := id } }

/-- A channel with a price and a counter that has room for two more. -/
def nearlyFull : World :=
  (WorldFile.load (fun _ => ⟨0, 0⟩)
    "/addprice !hug -9223372036854775807\n/addusage !hug 18446744073709551613".toList).setup.world

/-- The price is shown, and the room is used up. -/
def lastHugs : List (Host × Step) :=
  [ (everyone, .message {} { sender := ⟨"ann", "1"⟩, command := some "!hug" }
      "(price) (!hug)".toList),
    (everyone, .ask (.dispatch ⟨"ann", "1"⟩ "!hug carl" {})) ]

theorem last_hugs_fit :
    (∀ entry ∈ nearlyFull.prices, entry.enabled = true → entry.price ≠ Int64.minValue) ∧
      (∀ host, (host, Step.ask (.pointsLabel Int64.minValue)) ∉ lastHugs) ∧
      (∀ moment ∈ moments nearlyFull lastHugs, moment.LabelFits) ∧
      ∀ moment ∈ moments nearlyFull lastHugs, moment.CounterFits := by
  have moderate : ∀ entry ∈ nearlyFull.prices,
      entry.enabled = true → entry.price ≠ Int64.minValue := by decide +kernel
  have undirected : ∀ host, (host, Step.ask (.pointsLabel Int64.minValue)) ∉ lastHugs := by
    simp [lastHugs]
  have bound : nearlyFull.usage.bindings = [("!hug", 18446744073709551613)] := by
    decide +kernel
  have none_ : nearlyFull.dispatched.length = 0 := by decide +kernel
  have two : (after nearlyFull lastHugs).dispatched.length = 2 := by decide +kernel
  obtain ⟨labels, appended, listed, counters⟩ := world_arithmetic nearlyFull lastHugs
  refine ⟨moderate, undirected, labels moderate undirected, counters.2 fun command => ?_⟩
  have few : World.recordsOf command appended ≤ 2 := by
    rw [listed, List.length_append, none_, Nat.zero_add] at two
    rw [World.recordsOf, ← two, ← List.length_map Dispatched.command]
    exact List.count_le_length
  have counted : (nearlyFull.usageOf command).toNat ≤ 18446744073709551613 := by
    rw [World.usageOf, Table.get?, bound, Table.lookup_pair]
    split
    · decide
    · exact Nat.zero_le _
  have size : UInt64.size = 18446744073709551616 := rfl
  omega

/-- A channel with the least of all words for a price and a counter that is full. -/
def full : World :=
  (WorldFile.load (fun _ => ⟨0, 0⟩)
    "/addprice !hug -9223372036854775808\n/addusage !hug 18446744073709551615".toList).setup.world

/-- Its price has no magnitude, and after another hug it has counted none. -/
theorem full_numbers_do_not_fit :
    (∃ moment ∈ moments full [(everyone, .message {}
        { sender := ⟨"ann", "1"⟩, command := some "!hug" } "(price)".toList)],
      ¬ moment.LabelFits) ∧
    (∃ moment ∈ moments full [(everyone, .ask (.dispatch ⟨"ann", "1"⟩ "!hug" {}))],
      ¬ moment.CounterFits) ∧
    (after full [(everyone, .ask (.dispatch ⟨"ann", "1"⟩ "!hug" {}))]).usageOf "!hug" = 0 := by
  refine ⟨?_, ?_, by decide +kernel⟩
  · have found : (moments full [(everyone, .message {}
        { sender := ⟨"ann", "1"⟩, command := some "!hug" } "(price)".toList)]).any
        (Moment.looksUp Int64.minValue) = true := by
      decide +kernel
    obtain ⟨moment, member, asked⟩ := List.any_eq_true.1 found
    exact ⟨moment, member, fun fits => absurd (fits _ asked) (by decide)⟩
  · refine ⟨_, List.mem_singleton_self _, fun fits => ?_⟩
    exact absurd (fits _ _ _ rfl (by decide +kernel)) (by decide +kernel)

end Session

end ChatTemplate
