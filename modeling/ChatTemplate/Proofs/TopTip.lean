/-
# ChatTemplate.Proofs.TopTip -- the highest tip

Tips are ranked by what they are worth in the main currency.  An amount is read loosely, so it can
be no number at all, and then so is its worth.  Such a tip is not less than any other, and no other
is less than it: the order of the tips falls apart at it, and a tip behind it does not get past.
If all that was tipped is worth a number, an infinite one included, then worths are in a line
(`WorthNumbers`), and no tip is worth more than the one in front.

* `run_rankedTips`: what is known of ranked tips (`Ranked`);
* `Ranked.not_worthMore_of_head`: no tip is worth more than the first of them.

Main statement: `top_tip_is_worth_most`.
-/
import ChatTemplate.Proofs.DialogueFold
import ChatTemplate.Proofs.EventOrder
import ChatTemplate.Proofs.FloatOrder
import ChatTemplate.Proofs.Ranking
import ChatTemplate.World.Host

namespace ChatTemplate

set_option autoImplicit false

/-! ## Tokens -/

/-- What the highest tip is taken from: all tips, or those of the stream. -/
inductive TipScope where
  | overall
  | stream
  deriving DecidableEq

/-- What is shown of a tip. -/
inductive TipDetail where
  | username
  | amount
  | message
  | currency
  deriving DecidableEq

def TipScope.word : TipScope → String
  | overall => "overall"
  | stream => "stream"

def TipDetail.word : TipDetail → String
  | username => "username"
  | amount => "amount"
  | message => "message"
  | currency => "currency"

namespace Information

/-- The token for a detail of the highest tip, in brackets or after a dollar sign. -/
def tipToken (bracketed : Bool) (scope : TipScope) (detail : TipDetail) : List Char :=
  let body := "toptip.".toList ++ scope.word.toList ++ '.' :: detail.word.toList
  if bracketed then '(' :: body ++ [')'] else '$' :: body

theorem tipRequest_token (bracketed : Bool) (scope : TipScope) (detail : TipDetail) :
    tipRequest? (tipToken bracketed scope detail) = some (scope.word, detail.word) := by
  cases bracketed <;> cases scope <;> cases detail <;> rfl

end Information

/-! ## Worth -/

namespace World

/-- What a tip is worth in the main currency. -/
def worth (world : World) (settings : Settings) (tip : Event) : Except Failure Float :=
  world.convert tip.amount ((tip.text? "currency").getD settings.mainCurrency)
    settings.mainCurrency

/-- The tips of a scope: those of the log, or those of them since the stream went live. -/
def IsTip (world : World) : TipScope → Event → Prop
  | .overall, tip => tip ∈ world.logOf "tip"
  | .stream, tip => tip ∈ world.logOf "tip" ∧ world.stats.online = true ∧
      ∃ since, world.stats.onlineSince = some since ∧ tip.time.before since = false

theorem IsTip.logged {world : World} {scope : TipScope} {tip : Event}
    (one : world.IsTip scope tip) : tip ∈ world.logOf "tip" := by
  cases scope with
  | overall => exact one
  | stream => exact one.1

/-- All that was tipped is worth a number, if an infinite one. -/
def WorthNumbers (world : World) (settings : Settings) : Prop :=
  ∀ tip ∈ world.logOf "tip", ∀ amount, world.worth settings tip = .ok amount →
    amount.isNaN = false

/-- One tip is worth more than another. -/
def WorthMore (world : World) (settings : Settings) (tip other : Event) : Prop :=
  ∃ more less, world.worth settings tip = .ok more ∧ world.worth settings other = .ok less ∧
    less < more

/-- Every tip has a worth if a unit of the main currency has one. -/
theorem worth_of_rate {world : World} {settings : Settings}
    (rated : (world.rateOf settings.mainCurrency == 0.0) = false) (tip : Event) :
    world.worth settings tip =
      .ok (tip.amount * world.rateOf ((tip.text? "currency").getD settings.mainCurrency) /
        world.rateOf settings.mainCurrency) := by
  rw [worth, convert, rated]
  rfl

end World

namespace Information

variable {host : Host} {settings : Settings} {world : World}

/-! ## Ranked tips -/

/-- **Some tips with their worths**, the highest first if these are numbers. -/
structure Ranked (world : World) (settings : Settings) (chosen : Event → Prop)
    (tips : List RankedTip) : Prop where
  worth : ∀ ranked ∈ tips, world.worth settings ranked.tip = .ok ranked.converted
  chosen_iff : ∀ tip, chosen tip ↔ ∃ ranked ∈ tips, ranked.tip = tip
  sorted : world.WorthNumbers settings →
    IsSorted (fun ranked => Decimal.position ranked.converted) tips

namespace Ranked

variable {chosen left : Event → Prop} {tips : List RankedTip}

theorem filter (ranked : Ranked world settings chosen tips) {keep : Event → Bool}
    (left_iff : ∀ tip, left tip ↔ chosen tip ∧ keep tip = true) :
    Ranked world settings left (tips.filter fun ranked => keep ranked.tip) where
  worth entry among := ranked.worth entry (List.mem_of_mem_filter among)
  chosen_iff tip := by
    rw [left_iff, ranked.chosen_iff]
    constructor
    · rintro ⟨⟨entry, among, rfl⟩, kept⟩
      exact ⟨entry, List.mem_filter.2 ⟨among, kept⟩, rfl⟩
    · rintro ⟨entry, among, rfl⟩
      obtain ⟨among, kept⟩ := List.mem_filter.1 among
      exact ⟨⟨entry, among, rfl⟩, kept⟩
  sorted numbers := (ranked.sorted numbers).filter _

theorem nil (nothing : ∀ tip, ¬ chosen tip) : Ranked world settings chosen [] where
  worth := List.forall_mem_nil _
  chosen_iff tip := iff_of_false (nothing tip) (by simp)
  sorted _ := .nil

/-- **Ranking puts tips in order** if their worths are numbers. -/
theorem rank (worth : ∀ ranked ∈ tips, world.worth settings ranked.tip = .ok ranked.converted)
    (logged : ∀ tip, world.IsTip .overall tip ↔ ∃ ranked ∈ tips, ranked.tip = tip) :
    Ranked world settings (world.IsTip .overall)
      (rank (fun a b => b.converted < a.converted) tips) where
  worth ranked among := worth ranked ((rank_perm _ _).subset among)
  chosen_iff tip := by simp only [logged, (rank_perm _ _).mem_iff]
  sorted numbers := rank_sorted fun a among b among' => by
    have number : ∀ ranked ∈ tips, ranked.converted.isNaN = false := fun ranked among =>
      numbers ranked.tip ((logged _).2 ⟨ranked, among, rfl⟩) _ (worth ranked among)
    rw [decide_eq_true_iff]
    exact Decimal.lt_iff_position (number b among') (number a among)

/-- **No tip is worth more than the first of ranked ones** if their worths are numbers. -/
theorem not_worthMore_of_head {scope : TipScope} {entry : RankedTip}
    (ranked : Ranked world settings (world.IsTip scope) tips) (first : tips.head? = some entry)
    (numbers : world.WorthNumbers settings) {other : Event} (one : world.IsTip scope other) :
    ¬ world.WorthMore settings other entry.tip := by
  rintro ⟨more, less, same, same', above⟩
  have front := List.mem_of_head? first
  obtain ⟨behind, among, rfl⟩ := (ranked.chosen_iff other).1 one
  rw [ranked.worth behind among] at same
  rw [ranked.worth entry front] at same'
  cases same
  cases same'
  have number : ∀ ranked' ∈ tips, ranked'.converted.isNaN = false := fun ranked' among =>
    numbers ranked'.tip ((ranked.chosen_iff _).2 ⟨ranked', among, rfl⟩).logged _
      (ranked.worth ranked' among)
  rw [Decimal.lt_iff_position (number entry front) (number behind among)] at above
  exact above.not_ge ((ranked.sorted numbers).le_of_head first among)

end Ranked

/-! ## Runs -/

theorem run_convertTip (currency : .currency ∉ host.down) {tip : Event} {amount : Float}
    (worth : world.worth settings tip = .ok amount) :
    (Chat.attempt (convertTip settings tip)).run host.answer world =
      (.ok ⟨amount, tip⟩, world) := by
  have answered : (Query.put (.convert tip.amount ((tip.text? "currency").getD
      settings.mainCurrency) settings.mainCurrency)).run host.answer world =
        (world.worth settings tip, world) :=
    Host.answer_of_responsible rfl currency world
  rw [worth] at answered
  rw [convertTip, Chat.run_bind_of_ok (Chat.run_ask answered)]
  rfl

/-- **Tips are ranked by their worth** when each of them has one. -/
theorem run_rankedTips (events : .events ∉ host.down) (currency : .currency ∉ host.down)
    (worths : ∀ tip ∈ world.logOf "tip", ∃ amount, world.worth settings tip = .ok amount) :
    ∃ tips, (Chat.attempt (rankedTips settings)).run host.answer world = (.ok tips, world) ∧
      Ranked world settings (world.IsTip .overall) tips := by
  have answered : (Query.put (.eventsOf "tip")).run host.answer world =
      (.ok (world.eventsOf "tip"), world) :=
    Host.answer_of_responsible rfl events world
  have each : ∀ tip ∈ world.eventsOf "tip", ∀ state, state = world → ∃ ranked after,
      (Chat.attempt (convertTip settings tip)).run host.answer state = (.ok ranked, after) ∧
        after = world ∧
          world.worth settings ranked.tip = .ok ranked.converted ∧ ranked.tip = tip := by
    rintro tip among _ rfl
    obtain ⟨amount, worth⟩ := worths tip (World.mem_eventsOf.1 among)
    exact ⟨_, _, run_convertTip currency worth, rfl, worth, rfl⟩
  obtain ⟨converted, after, ran, still, pairs⟩ := Chat.run_mapM_of_ok each rfl
  rw [still] at ran
  refine ⟨rank (fun a b => b.converted < a.converted) converted, ?_, ?_⟩
  · rw [rankedTips, Chat.run_bind_of_ok (Chat.run_ask answered), Chat.run_bind_of_ok ran]
    rfl
  · obtain ⟨worth, same⟩ := (List.forall₂_and_left _ _).1 pairs.flip
    have tips : converted.map RankedTip.tip = world.eventsOf "tip" := by
      rwa [← List.forall₂_eq_eq_eq, List.forall₂_map_left_iff]
    exact .rank worth fun tip => by rw [World.IsTip, ← World.mem_eventsOf, ← tips, List.mem_map]

/-- The tips since the stream went live are still ranked. -/
theorem run_tipsOfStream (broadcast : .broadcast ∉ host.down) {tips : List RankedTip}
    (ranked : Ranked world settings (world.IsTip .overall) tips) :
    ∃ left, (Chat.attempt (tipsOfStream tips)).run host.answer world = (.ok left, world) ∧
      Ranked world settings (world.IsTip .stream) left := by
  have answered : (Query.put .stats).run host.answer world = (.ok world.stats, world) :=
    Host.answer_of_responsible rfl broadcast world
  rw [tipsOfStream, Chat.run_bind_of_ok (Chat.run_ask answered)]
  cases started : world.stats.onlineSince with
  | none => exact ⟨[], rfl, .nil fun tip => by simp [World.IsTip, started]⟩
  | some since =>
      cases online : world.stats.online with
      | false => exact ⟨[], rfl, .nil fun tip => by simp [World.IsTip, online]⟩
      | true =>
          have left_iff : ∀ tip, world.IsTip .stream tip ↔
              world.IsTip .overall tip ∧ (!tip.time.before since) = true := fun tip => by
            simp [World.IsTip, online, started]
          exact ⟨_, rfl, ranked.filter left_iff⟩

/-- Every token of a scope shows a detail of the first of the scope's tips. -/
theorem run_topTip (scope : TipScope) (events : .events ∉ host.down)
    (currency : .currency ∉ host.down) (broadcast : scope = .stream → .broadcast ∉ host.down)
    (worths : ∀ tip ∈ world.logOf "tip", ∃ amount, world.worth settings tip = .ok amount) :
    ∃ tips, Ranked world settings (world.IsTip scope) tips ∧
      ∀ (bracketed : Bool) (detail : TipDetail),
        (Chat.attempt (topTip settings (tipToken bracketed scope detail))).run host.answer world =
          (.ok (tips.head?.elim [] fun ranked => (tipField detail.word ranked.tip).toList),
            world) := by
  obtain ⟨tips, ran, ranked⟩ := run_rankedTips events currency worths
  cases scope with
  | overall =>
      refine ⟨tips, ranked, fun bracketed detail => ?_⟩
      rw [topTip, tipRequest_token]
      dsimp only
      rw [Chat.run_bind_of_ok ran]
      cases tips <;> rfl
  | stream =>
      obtain ⟨left, ranOn, ranked⟩ := run_tipsOfStream (broadcast rfl) ranked
      refine ⟨left, ranked, fun bracketed detail => ?_⟩
      rw [topTip, tipRequest_token]
      dsimp only
      rw [Chat.run_bind_of_ok ran]
      refine (Chat.run_bind_of_ok ranOn).trans ?_
      cases left <;> rfl

end Information

/-- **The top tip is a highest one if there is an order.**  When the tips can be read and each of
them converted, all tokens of a scope show details of one tip of the scope; they are replaced by
nothing only if the scope has no tip.  No tip of the scope is worth more than the one that is
shown, provided that all that was tipped is worth a number. -/
theorem top_tip_is_worth_most (host : Host) (settings : Settings) (world : World)
    (scope : TipScope) (events : .events ∉ host.down) (currency : .currency ∉ host.down)
    (broadcast : scope = .stream → .broadcast ∉ host.down)
    (worths : ∀ tip ∈ world.logOf "tip", ∃ amount, world.worth settings tip = .ok amount) :
    (∃ tip, world.IsTip scope tip ∧
        (world.WorthNumbers settings →
          ∀ other, world.IsTip scope other → ¬ world.WorthMore settings other tip) ∧
        ∀ (bracketed : Bool) (detail : TipDetail),
          host.run (Chat.attempt
            (Information.topTip settings (Information.tipToken bracketed scope detail))) world =
              (.ok (Information.tipField detail.word tip).toList, world)) ∨
      (∀ tip, ¬ world.IsTip scope tip) ∧ ∀ (bracketed : Bool) (detail : TipDetail),
        host.run (Chat.attempt
          (Information.topTip settings (Information.tipToken bracketed scope detail))) world =
            (.ok [], world) := by
  obtain ⟨tips, ranked, ran⟩ := Information.run_topTip scope events currency broadcast worths
  cases first : tips.head? with
  | some entry =>
      rw [first] at ran
      have shown : world.IsTip scope entry.tip :=
        (ranked.chosen_iff _).2 ⟨entry, List.mem_of_head? first, rfl⟩
      exact .inl
        ⟨entry.tip, shown, fun numbers _ => ranked.not_worthMore_of_head first numbers, ran⟩
  | none =>
      rw [first] at ran
      rw [List.head?_eq_none_iff] at first
      subst first
      exact .inr ⟨fun tip one => by simpa using (ranked.chosen_iff tip).1 one, ran⟩

/-- A tip that was given at some second. -/
def tipAt (seconds : Int) (name : String) (fields : List (String × Json)) : Event where
  kind := "tip"
  userName := name
  time := ⟨seconds, 0⟩
  payload := .object fields

/-- The stream has three tips, of which the one in dollars is worth most; a higher one was given
before it went live. -/
theorem tip_of_the_stream_is_shown :
    let host : Host := { down := [.web], sources := fun _ => { rolls := id } }
    let settings : Settings := { mainCurrency := "CZK" }
    let world : World :=
      { events :=
          [ tipAt 1 "ann" [("amount", .int 900), ("currency", .str "EUR")],
            tipAt 2 "bob" [("amount", .int 20)],
            tipAt 3 "cyd" [("amount", .str "10"), ("currency", .str "USD")],
            tipAt 4 "dan" [("amount", .str "-inf"), ("currency", .str "EUR")] ]
        rates := ⟨[("CZK", 0.25), ("USD", 5.5), ("EUR", 6.0)]⟩
        stats := { online := true, onlineSince := some ⟨2, 0⟩ } }
    world.WorthNumbers settings ∧
      ∃ tip, world.IsTip .stream tip ∧
        (∀ other, world.IsTip .stream other → ¬ world.WorthMore settings other tip) ∧
        (host.run (Chat.attempt
          (Information.topTip settings "(toptip.stream.username)".toList)) world).1 =
            .ok (Information.tipField "username" tip).toList := by
  intro host settings world
  have rated : (world.rateOf settings.mainCurrency == 0.0) = false := by decide +kernel
  have numbers : world.WorthNumbers settings := by
    intro tip among amount same
    rw [World.worth_of_rate rated] at same
    cases same
    revert tip
    decide +kernel
  obtain ⟨shown, one, highest, ran⟩ | ⟨nothing, -⟩ :=
    top_tip_is_worth_most host settings world .stream (by decide) (by decide) (fun _ => by decide)
      fun tip _ => ⟨_, World.worth_of_rate rated tip⟩
  · exact ⟨numbers, shown, one, highest numbers, congrArg Prod.fst (ran true .username)⟩
  · refine absurd ?_ (nothing (tipAt 2 "bob" [("amount", .int 20)]))
    exact ⟨List.mem_filter.2 ⟨.tail _ (.head _), rfl⟩, rfl, _, rfl, rfl⟩

/-- **A tip behind one that is no number is not seen**: the highest tip was given first. -/
theorem tip_behind_none_is_not_seen :
    let host : Host := { sources := fun _ => { rolls := id } }
    let world : World :=
      { events :=
          [ tipAt 3 "ann" [("amount", .int 5)], tipAt 2 "bob" [("amount", .str "NaN")],
            tipAt 1 "cyd" [("amount", .int 10)] ] }
    (∀ tip ∈ world.logOf "tip", ∃ amount, world.worth {} tip = .ok amount) ∧
      (host.run (Chat.attempt
        (Information.topTip {} "$toptip.overall.username".toList)) world).1.toOption =
          some "ann".toList ∧
      ¬ ∃ tip, world.IsTip .overall tip ∧
        (∀ other, world.IsTip .overall other → ¬ world.WorthMore {} other tip) ∧
        Information.tipField "username" tip = "ann" := by
  intro host world
  have rated : (world.rateOf ({} : Settings).mainCurrency == 0.0) = false := by decide +kernel
  have listed : world.eventsOf "tip" = world.events := by
    rw [World.eventsOf, List.mergeSort_of_pairwise (by decide)]
    rfl
  have answered : (Query.put (.eventsOf "tip")).run host.answer world = (.ok world.events, world) :=
    listed ▸ rfl
  refine ⟨fun tip _ => ⟨_, World.worth_of_rate rated tip⟩, ?_, ?_⟩
  · have request : Information.tipRequest? "$toptip.overall.username".toList =
        some ("overall", "username") := rfl
    rw [Host.run, Information.topTip, request]
    dsimp only
    rw [Information.rankedTips, bind_assoc, Chat.run_bind_of_ok (Chat.run_ask answered)]
    decide +kernel
  · rintro ⟨shown, one, highest, same⟩
    have above : ¬ world.WorthMore {} (tipAt 1 "cyd" [("amount", .int 10)]) shown :=
      highest _ (List.mem_filter.2 ⟨by simp [world], rfl⟩)
    have among : shown ∈ world.events := List.mem_of_mem_filter one
    simp only [world, List.mem_cons, List.not_mem_nil, or_false] at among
    rcases among with rfl | rfl | rfl
    · exact above ⟨_, _, World.worth_of_rate rated _, World.worth_of_rate rated _,
        by decide +kernel⟩
    · exact absurd same (by decide)
    · exact absurd same (by decide)

end ChatTemplate
