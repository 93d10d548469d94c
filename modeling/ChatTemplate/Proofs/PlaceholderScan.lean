/-
# ChatTemplate.Proofs.PlaceholderScan -- placeholders in one scan

Placeholders are looked for with some care not to do too much: only those that
stand in the text are looked for, and only what they show is looked up.  None of
this can be seen in the result.  `Scanned` says what one scan from left to right
makes of a text when every placeholder has its value:

* where a placeholder stands, the longest one there gives way to its value, and the
  scan goes on behind it;
* where none stands, the character stays.

`Scanned` speaks of all placeholders and of their values for the whole channel
(`Channel.whole`).  A scan always has exactly one outcome (`scanned_iff`), a value
depends on no more of the channel than is looked up for it (`value_congr`), and
fillings for those placeholders that occur are enough (`Scanned.fill_eq`).

Main statement: `apply_scans`.
-/
import ChatTemplate.Proofs.PlaceholderMark

namespace ChatTemplate

set_option autoImplicit false

/-! ## The whole channel -/

/-- The latest event of some kinds, missing when there is none or no answer. -/
def Answers.latest (answers : Answers) (kinds : List String) : Option Event :=
  (answers (.latestEvent kinds)).toOption.join

/-- **The channel with everything looked up** that any placeholder shows; what was not
answered counts as missing. -/
def Channel.whole (answers : Answers) : Channel where
  stats := (answers .stats).toOption.getD {}
  follower := answers.latest ["follow"]
  subscriber := answers.latest ["sub", "resub", "subgift"]
  tip := answers.latest ["tip"]
  cheer := answers.latest ["cheer"]

namespace Channel

variable {answers : Answers}

theorem given_latestIf (needed : Bool) (kinds : List String) :
    (latestIf needed kinds).given answers = if needed then answers.latest kinds else none := by
  unfold latestIf
  split
  · rw [Dialogue.given_bind, Dialogue.given_put, Answers.latest]
    cases answers (.latestEvent kinds) <;> rfl
  · rfl

/-- **What is looked up** for some placeholders is part of the whole channel. -/
theorem given_load (placeholders : List Placeholder) :
    (load placeholders).given answers =
      { stats := (whole answers).stats
        follower :=
          if placeholders.contains .latestFollower then (whole answers).follower else none
        subscriber :=
          if placeholders.contains .latestSubscriber then (whole answers).subscriber else none
        tip := if placeholders.any Placeholder.showsTip then (whole answers).tip else none
        cheer := if placeholders.any Placeholder.showsCheer then (whole answers).cheer else none } := by
  have asked : (Query.put .stats).given answers = answers .stats := rfl
  unfold load
  rw [Dialogue.given_bind, asked]
  cases found : answers .stats with
  | ok stats =>
      simp only [Dialogue.given_bind, Dialogue.given_pure, given_latestIf, whole, found]
      rfl
  | error failure =>
      simp only [Dialogue.given_bind, Dialogue.given_pure, given_latestIf, whole, found]
      rfl

end Channel

namespace Placeholder

variable {settings : Settings} {escape : String} {answers : Answers}

/-- A value depends on no more of the channel than is looked up for its placeholder. -/
theorem value_congr {channel other : Channel} {placeholder : Placeholder}
    (stats : channel.stats = other.stats)
    (follower : placeholder = .latestFollower → channel.follower = other.follower)
    (subscriber : placeholder = .latestSubscriber → channel.subscriber = other.subscriber)
    (tip : placeholder.showsTip = true → channel.tip = other.tip)
    (cheer : placeholder.showsCheer = true → channel.cheer = other.cheer) :
    value settings escape channel placeholder = value settings escape other placeholder := by
  cases placeholder with
  | latestFollower => simp only [value, follower rfl]
  | latestSubscriber => simp only [value, subscriber rfl]
  | latestTipAmount | latestTipCurrency | latestTipMessage | latestTip =>
      simp only [value, tip rfl]
  | latestCheerAmount | latestCheerMessage | latestCheer => simp only [value, cheer rfl]
  | _ => simp only [value, stats]

/-- **What a placeholder shows of the whole channel.** -/
def shown (settings : Settings) (escape : String) (answers : Answers)
    (placeholder : Placeholder) : List Char :=
  ((value settings escape (Channel.whole answers) placeholder).given answers).toList

theorem value_of_loaded {placeholders : List Placeholder} {placeholder : Placeholder}
    (wanted : placeholder ∈ placeholders) :
    value settings escape ((Channel.load placeholders).given answers) placeholder =
      value settings escape (Channel.whole answers) placeholder := by
  rw [Channel.given_load]
  refine value_congr rfl (fun same => ?_) (fun same => ?_) (fun shows => ?_) (fun shows => ?_)
  · subst same
    exact if_pos (List.contains_iff_mem.2 wanted)
  · subst same
    exact if_pos (List.contains_iff_mem.2 wanted)
  · exact if_pos (List.any_eq_true.2 ⟨placeholder, wanted, shows⟩)
  · exact if_pos (List.any_eq_true.2 ⟨placeholder, wanted, shows⟩)

/-! ## One scan -/

/-- **What one scan from left to right makes of a text**, given the value of every
placeholder. -/
inductive Scanned (values : Placeholder → List Char) : List Char → List Char → Prop
  | done : Scanned values [] []
  | kept {c : Char} {text result : List Char}
      (nothing : ∀ placeholder, ¬ key placeholder <+: c :: text)
      (rest : Scanned values text result) : Scanned values (c :: text) (c :: result)
  | replaced {placeholder : Placeholder} {text result : List Char}
      (longest : ∀ other, key other <+: key placeholder ++ text →
        (key other).length ≤ (key placeholder).length)
      (rest : Scanned values text result) :
      Scanned values (key placeholder ++ text) (values placeholder ++ result)

theorem mem_all (placeholder : Placeholder) : placeholder ∈ all := by
  cases placeholder <;> decide

theorem key_eq_cons (placeholder : Placeholder) : ∃ rest, key placeholder = '$' :: rest :=
  List.head?_eq_some_iff.1 placeholder.head_key

theorem key_injective : Function.Injective key := by
  -- the placeholder can be found again by its key
  have found : ∀ placeholder, all.find? (fun other => key other == key placeholder) =
      some placeholder := by
    intro placeholder
    cases placeholder <;> rfl
  intro one other same
  have two := found other
  rw [← same, found one] at two
  exact Option.some.inj two

/-! ## The longest filling -/

/-- No filling whose key stands at the beginning of a text is longer than the longest. -/
theorem exists_longest {fillings : List Filling} {text : List Char} {filling : Filling}
    (known : filling ∈ fillings) (begins : filling.1 <+: text) :
    ∃ best, longest? fillings text = some best ∧ filling.1.length ≤ best.1.length := by
  have starts : Text.startsWith filling.1 text = true := by
    obtain ⟨rest, rfl⟩ := begins
    rw [Text.startsWith, Text.stripPrefix_append]
    rfl
  have candidate : filling ∈ fillings.filter fun filling => Text.startsWith filling.1 text :=
    List.mem_filter.2 ⟨known, starts⟩
  unfold longest?
  generalize fillings.filter (fun filling => Text.startsWith filling.1 text) = candidates
    at candidate
  -- from the back, since the fold ends with the last candidate
  induction candidates using List.reverseRecOn with
  | nil => exact absurd candidate List.not_mem_nil
  | append_singleton candidates last ih =>
      rw [List.foldl_append, List.foldl_cons, List.foldl_nil]
      rcases List.mem_append.1 candidate with early | late
      · obtain ⟨best, chosen, longer⟩ := ih early
        rw [chosen]
        by_cases shorter : last.1.length ≤ best.1.length
        · exact ⟨best, if_pos shorter, longer⟩
        · exact ⟨last, if_neg shorter, by omega⟩
      · obtain rfl := List.mem_singleton.1 late
        split
        · next other _ =>
            by_cases shorter : filling.1.length ≤ other.1.length
            · exact ⟨other, if_pos shorter, shorter⟩
            · exact ⟨filling, if_neg shorter, le_rfl⟩
        · exact ⟨filling, rfl, le_rfl⟩

/-- The fillings that put the values of some placeholders in their place. -/
def fillingsOf (values : Placeholder → List Char) (placeholders : List Placeholder) :
    List Filling :=
  placeholders.map fun placeholder => (key placeholder, values placeholder)

theorem mem_fillingsOf (values : Placeholder → List Char) {placeholders : List Placeholder}
    {placeholder : Placeholder} (member : placeholder ∈ placeholders) :
    (key placeholder, values placeholder) ∈ fillingsOf values placeholders :=
  List.mem_map.2 ⟨placeholder, member, rfl⟩

theorem begins_of_longest {fillings : List Filling} {text : List Char} {filling : Filling}
    (found : longest? fillings text = some filling) :
    filling ∈ fillings ∧ filling.1 <+: text := by
  obtain ⟨known, starts⟩ := mem_of_longest found
  obtain ⟨rest, stripped⟩ := Option.isSome_iff_exists.1 starts
  exact ⟨known, rest, (Text.eq_append_of_stripPrefix stripped).symm⟩

/-! ## Filling is scanning -/

theorem go_covered (fillings : List Filling) (covered text : List Char) :
    fill.go fillings covered.length (covered ++ text) = fill.go fillings 0 text := by
  induction covered with
  | nil => rfl
  | cons c covered ih =>
      rw [List.length_cons, List.cons_append, fill.go]
      exact ih

/-- **Fillings for the placeholders that occur** in a text are enough to scan it. -/
theorem Scanned.fill_eq {values : Placeholder → List Char} {text result : List Char}
    (scanned : Scanned values text result) {placeholders : List Placeholder}
    (occurring : ∀ placeholder, key placeholder <:+: text → placeholder ∈ placeholders) :
    fill (fillingsOf values placeholders) text = result := by
  change fill.go _ 0 text = result
  induction scanned with
  | done => rfl
  | @kept c text result nothing rest ih =>
      have unfilled : longest? (fillingsOf values placeholders) (c :: text) = none := by
        cases found : longest? (fillingsOf values placeholders) (c :: text) with
        | none => rfl
        | some filling =>
            obtain ⟨known, begins⟩ := begins_of_longest found
            obtain ⟨placeholder, -, rfl⟩ := List.mem_map.1 known
            exact absurd begins (nothing placeholder)
      have later : fill.go (fillingsOf values placeholders) 0 text = result :=
        ih fun placeholder found =>
          occurring placeholder (found.trans (List.suffix_cons c text).isInfix)
      rw [fill.go, unfilled, later]
  | @replaced placeholder text result longest rest ih =>
      obtain ⟨tail, shape⟩ := key_eq_cons placeholder
      have here : key placeholder <+: key placeholder ++ text := List.prefix_append _ _
      have present := occurring placeholder here.isInfix
      obtain ⟨best, found, longer⟩ := exists_longest (mem_fillingsOf values present) here
      obtain ⟨known, begins⟩ := begins_of_longest found
      obtain ⟨other, -, rfl⟩ := List.mem_map.1 known
      -- of two keys at one place the shorter begins the longer, and these are equally long
      have shorter : (key other).length ≤ (key placeholder).length := longest other begins
      have same : other = placeholder :=
        key_injective ((List.prefix_of_prefix_length_le begins here shorter).eq_of_length
          (Nat.le_antisymm shorter longer))
      subst same
      have later : fill.go (fillingsOf values placeholders) 0 text = result :=
        ih fun placeholder found =>
          occurring placeholder (found.trans (List.suffix_append _ _).isInfix)
      rw [shape, List.cons_append] at found ⊢
      rw [fill.go, found]
      dsimp only
      rw [List.length_cons, Nat.add_sub_cancel, go_covered, later]

/-- Some placeholder at the beginning of a text is the longest one there, if any is. -/
theorem exists_longest_key {text : List Char} {placeholder : Placeholder}
    (begins : key placeholder <+: text) :
    ∃ longest, key longest <+: text ∧
      ∀ other, key other <+: text → (key other).length ≤ (key longest).length := by
  have every : ∀ other, (key other, []) ∈ fillingsOf (fun _ => []) all := fun other =>
    mem_fillingsOf _ (mem_all other)
  obtain ⟨best, found, -⟩ := exists_longest (every placeholder) begins
  obtain ⟨known, starts⟩ := begins_of_longest found
  obtain ⟨longest, -, rfl⟩ := List.mem_map.1 known
  refine ⟨longest, starts, fun other otherBegins => ?_⟩
  obtain ⟨same, again, longer⟩ := exists_longest (every other) otherBegins
  rw [found] at again
  obtain rfl := Option.some.inj again
  exact longer

theorem exists_scanned (values : Placeholder → List Char) (text : List Char) :
    ∃ result, Scanned values text result := by
  -- on the length, since a key takes several characters at once
  induction size : text.length using Nat.strong_induction_on generalizing text with
  | _ n ih =>
      by_cases begun : ∃ placeholder, key placeholder <+: text
      · obtain ⟨placeholder, begins⟩ := begun
        obtain ⟨longest, ⟨rest, rfl⟩, most⟩ := exists_longest_key begins
        obtain ⟨tail, shape⟩ := key_eq_cons longest
        have shorter : rest.length < n := by
          rw [← size, List.length_append, shape, List.length_cons]
          omega
        obtain ⟨result, scanned⟩ := ih _ shorter rest rfl
        exact ⟨_, .replaced most scanned⟩
      · cases text with
        | nil => exact ⟨[], .done⟩
        | cons c text =>
            have shorter : text.length < n := by
              rw [← size, List.length_cons]
              omega
            obtain ⟨result, scanned⟩ := ih _ shorter text rfl
            exact ⟨_, .kept (fun placeholder begins => begun ⟨placeholder, begins⟩) scanned⟩

/-- **A scan has exactly one outcome**, which fillings for all placeholders that occur
come to. -/
theorem scanned_iff {values : Placeholder → List Char} {text result : List Char}
    {placeholders : List Placeholder}
    (occurring : ∀ placeholder, key placeholder <:+: text → placeholder ∈ placeholders) :
    Scanned values text result ↔ result = fill (fillingsOf values placeholders) text := by
  constructor
  · intro scanned
    exact (scanned.fill_eq occurring).symm
  · intro same
    obtain ⟨other, scanned⟩ := exists_scanned values text
    rw [same, scanned.fill_eq occurring]
    exact scanned

/-! ## The stage -/

theorem fill_nothing (text : List Char) : fill [] text = text := by
  change fill.go [] 0 text = text
  induction text with
  | nil => rfl
  | cons c text ih => exact congrArg (List.cons c) ih

theorem mem_present {placeholder : Placeholder} {text : List Char}
    (found : key placeholder <:+: text) : placeholder ∈ present text :=
  List.mem_filter.2 ⟨mem_all placeholder, Text.contains_of_infix found⟩

theorem given_fillingOf {placeholders : List Placeholder} {placeholder : Placeholder}
    (wanted : placeholder ∈ placeholders) :
    (fillingOf settings escape ((Channel.load placeholders).given answers) placeholder).given
        answers = (key placeholder, shown settings escape answers placeholder) := by
  rw [fillingOf, value_of_loaded wanted, Dialogue.given_bind]
  rfl

/-- The stage fills in what the whole channel shows, for the placeholders that occur. -/
theorem given_apply (text : List Char) :
    (apply settings escape text).given answers =
      CharReference.decode
        (fill (fillingsOf (shown settings escape answers) (present text)) text) := by
  unfold apply
  dsimp only
  split
  · next absent =>
      have nobody : present text = [] := List.isEmpty_iff.1 absent
      rw [nobody, fillingsOf, List.map_nil, fill_nothing]
      rfl
  · have same : ((present text).mapM
        (fillingOf settings escape ((Channel.load (present text)).given answers))).given answers =
        fillingsOf (shown settings escape answers) (present text) := by
      rw [Dialogue.given_mapM]
      exact List.map_congr_left fun placeholder wanted => given_fillingOf wanted
    rw [Dialogue.given_bind, Dialogue.given_bind, same]
    rfl

/-- **Placeholders are replaced in one scan of the text**, whatever the text, the settings
and the escape, and whoever answers or fails to.  The values are those of the whole
channel: that only some of it is looked up, and only some placeholders are looked for,
makes no difference. -/
theorem apply_scans {σ : Type} (settings : Settings) (escape : String) (text : List Char)
    (responder : Dialogue.Responder σ) (state : σ) (answers : Answers)
    (told : ∀ exchange ∈ (apply settings escape text).exchanges responder state,
      exchange.answer = answers exchange.query) :
    ∃ scanned, (∀ result, Scanned (shown settings escape answers) text result ↔
        result = scanned) ∧
      ((apply settings escape text).run responder state).1 = CharReference.decode scanned := by
  refine ⟨fill (fillingsOf (shown settings escape answers) (present text)) text, ?_, ?_⟩
  · intro result
    exact scanned_iff fun placeholder found => mem_present found
  · rw [Dialogue.run_eq_given told]
    exact given_apply text

/-- Collaborators whose statistics are down; the latest tip came with the name of a
placeholder. -/
def tipped : Answers := fun query =>
  let tip : Event :=
    { kind := "tip", userName := "ann", time := ⟨0, 0⟩,
      payload := .object [("message", .str "$latestTip")] }
  let host : Host := { down := [.broadcast], sources := fun _ => { rolls := fun _ => 0 } }
  (host.answer query { events := [tip] }).1

theorem message_of_a_tip_stays :
    let text := "$latestTipMessages: $latestTip, $viewers".toList
    let responder : Dialogue.Responder Unit := fun query state => (tipped query, state)
    (∀ exchange ∈ (apply {} "" text).exchanges responder (),
        exchange.answer = tipped exchange.query) ∧
      (∃ scanned, (∀ result, Scanned (shown {} "" tipped) text result ↔ result = scanned) ∧
        ((apply {} "" text).run responder ()).1 = CharReference.decode scanned) ∧
      ((apply {} "" text).run responder ()).1 = "$latestTips: ann, 0".toList := by
  intro text responder
  have told : ∀ exchange ∈ (apply {} "" text).exchanges responder (),
      exchange.answer = tipped exchange.query := Dialogue.told_of_steady _ ()
  exact ⟨told, apply_scans {} "" text responder () tipped told, by decide⟩

end Placeholder

end ChatTemplate
