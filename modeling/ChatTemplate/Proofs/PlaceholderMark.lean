/-
# ChatTemplate.Proofs.PlaceholderMark -- what placeholders bring into a message

The first stage puts statistics, latest events and songs in the place of
placeholders and then decodes character references.  If neither the text nor what
is put into it has an ampersand there is nothing to decode, and a mark that is tame
in the text and brought by nothing stays tame (`keeps_apply`).
-/
import ChatTemplate.Proofs.Ignored
import ChatTemplate.Proofs.LookupMark

namespace ChatTemplate

set_option autoImplicit false

variable {c : Char} {banned : List Char}

/-! ## The channel -/

/-- The texts of all that placeholders show of a channel. -/
def Channel.texts (channel : Channel) : List String :=
  channel.stats.texts ++
    ([channel.follower, channel.subscriber, channel.tip, channel.cheer].flatMap Option.toList).flatMap
      Event.texts

theorem Channel.lacks_event {channel : Channel} (lacks : Lacks c channel.texts) {event : Event}
    (shown : some event ∈ [channel.follower, channel.subscriber, channel.tip, channel.cheer]) :
    Lacks c event.texts := by
  intro text member
  refine lacks text (List.mem_append_right _ (List.mem_flatMap.2 ⟨event, ?_, member⟩))
  exact List.mem_flatMap.2 ⟨some event, shown, by simp⟩

/-- All of some events are without some characters. -/
abbrev EventLacks (banned : List Char) (event : Option Event) : Prop :=
  ∀ c ∈ banned, Lacks c (event.toList.flatMap Event.texts)

theorem Channel.keeps_latestIf (needed : Bool) (kinds : List String) :
    (latestIf needed kinds).Keeps (.harmless banned) (EventLacks banned) := by
  have latest : (Query.put (.latestEvent kinds)).Keeps (.harmless banned)
      fun answer => ∀ event, answer = .ok event → EventLacks banned event :=
    .put rfl fun answer lacks event same => by
      subst same
      exact lacks
  unfold latestIf
  split
  · refine latest.bind fun answer lacks => ?_
    split
    · next event => exact .pure (lacks event rfl)
    · exact .pure fun c _ => List.forall_mem_nil _
  · exact .pure fun c _ => List.forall_mem_nil _

theorem Channel.keeps_load (placeholders : List Placeholder) :
    (load placeholders).Keeps (.harmless banned) fun channel : Channel =>
      ∀ c ∈ banned, Lacks c channel.texts := by
  have asked : (Query.put .stats).Keeps (.harmless banned)
      fun answer => ∀ stats, answer = .ok stats → ∀ c ∈ banned, Lacks c stats.texts :=
    .put rfl fun answer lacks stats same => by
      subst same
      exact lacks
  have loaded : ∀ stats : Stats, (∀ c ∈ banned, Lacks c stats.texts) →
      Dialogue.Keeps (.harmless banned)
        (fun channel : Channel => ∀ c ∈ banned, Lacks c channel.texts) (do
        let follower ← latestIf (placeholders.contains .latestFollower) ["follow"]
        let subscriber ← latestIf (placeholders.contains .latestSubscriber)
          ["sub", "resub", "subgift"]
        let tip ← latestIf (placeholders.any Placeholder.showsTip) ["tip"]
        let cheer ← latestIf (placeholders.any Placeholder.showsCheer) ["cheer"]
        return { stats, follower, subscriber, tip, cheer }) := by
    intro stats inStats
    refine (keeps_latestIf _ _).bind fun follower one => ?_
    refine (keeps_latestIf _ _).bind fun subscriber two => ?_
    refine (keeps_latestIf _ _).bind fun tip three => ?_
    refine (keeps_latestIf _ _).bind fun cheer four => .pure fun c listed => ?_
    simp only [Channel.texts, List.flatMap_cons, List.flatMap_nil, List.flatMap_append,
      List.append_nil]
    simp only [Lacks, List.forall_mem_append]
    exact ⟨inStats c listed, one c listed, two c listed, three c listed, four c listed⟩
  unfold load
  refine asked.bind fun answer lacks => ?_
  split
  · next stats => exact loaded stats (lacks stats rfl)
  · exact loaded {} fun c _ => List.forall_mem_nil _

namespace Placeholder

/-! ## Values -/

theorem not_mem_orUnknown (mark : IsMark c) {text : Option String}
    (lacks : ∀ shown ∈ text, c ∉ shown.toList) : c ∉ (orUnknown text).toList := by
  cases text with
  | none => exact mark.not_mem (by decide)
  | some text => exact lacks text rfl

theorem not_mem_songText {settings : Settings} {song : Song}
    (inFormat : c ∉ settings.songFormat.toList) (inTitle : c ∉ song.title.toList)
    (inArtist : c ∉ song.artist.toList) : c ∉ (songText settings "" song).toList := by
  have unescaped : ∀ text, escapeIn "" text = text := fun text => rfl
  rw [songText, String.toList_ofList, unescaped, unescaped]
  exact Text.not_mem_replaceAll inArtist (Text.not_mem_replaceAll inTitle inFormat)

/-- **The value of a placeholder** is without a mark that neither the settings nor
the channel nor the wordings bring. -/
theorem keeps_value (mark : IsMark c) (listed : c ∈ banned) {settings : Settings}
    (inVersion : c ∉ settings.version.toList) (inFormat : c ∉ settings.songFormat.toList)
    {channel : Channel} (lacks : Lacks c channel.texts) (placeholder : Placeholder) :
    (value settings "" channel placeholder).Keeps (.harmless banned) (c ∉ ·.toList) := by
  have inStats : Lacks c channel.stats.texts := fun text member =>
    lacks text (List.mem_append_left _ member)
  have silent : notPlaying.Keeps (.harmless banned) (c ∉ ·.toList) :=
    .put rfl fun wording lacks => lacks c listed wording List.mem_cons_self
  -- what one of the latest events shows of itself
  have part : ∀ {event : Option Event} {field : String},
      event ∈ [channel.follower, channel.subscriber, channel.tip, channel.cheer] →
      c ∉ (orUnknown (event.bind (·.text? field))).toList := by
    intro event field shown
    refine not_mem_orUnknown mark fun text found => ?_
    obtain ⟨event, rfl, found⟩ := Option.bind_eq_some_iff.1 found
    exact Event.not_mem_text mark (Channel.lacks_event lacks shown) found
  have whole : ∀ {event : Option Event} {shows : Event → String},
      event ∈ [channel.follower, channel.subscriber, channel.tip, channel.cheer] →
      (∀ event : Event, Lacks c event.texts → c ∉ (shows event).toList) →
      c ∉ (orUnknown (event.map shows)).toList := by
    intro event shows shown inShown
    refine not_mem_orUnknown mark fun text found => ?_
    obtain ⟨event, rfl, rfl⟩ := Option.map_eq_some_iff.1 found
    exact inShown event (Channel.lacks_event lacks shown)
  have userName : ∀ event : Event, Lacks c event.texts → c ∉ event.userName.toList :=
    fun event lacks => (List.forall_mem_cons.1 lacks).1
  have giver : ∀ event : Event, Lacks c event.texts → c ∉ event.giver.toList :=
    fun event lacks => Event.not_mem_giver mark lacks
  have number : ∀ n : UInt64, Dialogue.Keeps (.harmless banned) (c ∉ ·.toList)
      (pure (Text.uint64Text n)) := fun n => .pure (not_mem_uint64Text mark.unspelled n)
  cases placeholder with
  | game =>
      exact .pure (not_mem_orUnknown mark fun text found => inStats text (by
        simp [Stats.texts, Option.mem_def.1 found]))
  | title =>
      exact .pure (not_mem_orUnknown mark fun text found => inStats text (by
        simp [Stats.texts, Option.mem_def.1 found]))
  | viewers => exact number _
  | views => exact number _
  | followers => exact number _
  | hosts => exact number _
  | subscribers => exact number _
  | bits => exact number _
  | version => exact .pure inVersion
  | latestFollower => exact .pure (whole (by simp) userName)
  | latestSubscriber => exact .pure (whole (by simp) userName)
  | latestTipAmount =>
      exact .pure (whole (by simp) fun event _ => Decimal.not_mem_fixed mark.unspelled 2 event.amount)
  | latestTipCurrency => exact .pure (part (by simp))
  | latestTipMessage => exact .pure (part (by simp))
  | latestTip => exact .pure (whole (by simp) giver)
  | latestCheerAmount =>
      exact .pure (whole (by simp) fun event _ => not_mem_int64Text mark.unspelled _)
  | latestCheerMessage => exact .pure (part (by simp))
  | latestCheer => exact .pure (whole (by simp) giver)
  | song =>
      rw [value]
      split
      · next heard found =>
          have inHeard : Lacks c [heard.title, heard.artist] := fun text member =>
            inStats text (by
              simp only [Stats.texts, found, Option.toList_some, List.flatMap_singleton,
                List.mem_append]
              exact .inl (.inr member))
          split
          · exact .pure (not_mem_songText inFormat (inHeard _ (by simp)) (inHeard _ (by simp)))
          · exact silent
      · exact silent
  | songRequest =>
      rw [value]
      split
      · next request found =>
          split
          · exact .pure (inStats request (by simp [Stats.texts, found]))
          · exact silent
      · exact silent

/-! ## Replacing -/

theorem opens_key (placeholder : Placeholder) : Text.Opens placeholder.key :=
  ⟨'$', placeholder.head_key, by decide⟩

theorem mem_of_longest {fillings : List Filling} {text : List Char} {filling : Filling}
    (found : longest? fillings text = some filling) :
    filling ∈ fillings ∧ Text.startsWith filling.1 text = true := by
  have chosen : ∀ filling ∈ longest? fillings text,
      filling ∈ fillings.filter fun filling => Text.startsWith filling.1 text := by
    unfold longest?
    refine List.foldlRecOn (motive := fun best => ∀ filling ∈ best, filling ∈ fillings.filter _)
      _ _ (by simp) fun best inBest next member => ?_
    have candidate : ∀ filling ∈ some next, filling ∈ fillings.filter _ := fun filling same =>
      Option.mem_some.1 same ▸ member
    split
    · split
      · exact inBest
      · exact candidate
    · exact candidate
  exact List.mem_filter.1 (chosen filling found)

theorem not_mem_fill {fillings : List Filling} (inValues : ∀ filling ∈ fillings, c ∉ filling.2)
    {text : List Char} (inText : c ∉ text) : c ∉ fill fillings text := by
  have going : ∀ covered, c ∉ fill.go fillings covered text := by
    induction text with
    | nil => exact fun covered => by cases covered <;> exact List.not_mem_nil
    | cons first text ih =>
        obtain ⟨apart, inRest⟩ := not_or.1 (mt List.mem_cons.2 inText)
        intro covered
        cases covered with
        | succ covered => exact ih inRest covered
        | zero =>
            rw [fill.go]
            split
            · next key value found =>
                rw [List.mem_append, not_or]
                exact ⟨inValues _ (mem_of_longest found).1, ih inRest _⟩
            · exact mt List.mem_cons.1 (not_or.2 ⟨apart, ih inRest 0⟩)
  exact going 0

theorem sealed_fill {fillings : List Filling} (keys : ∀ filling ∈ fillings, Text.Opens filling.1)
    (values : ∀ filling ∈ fillings, Text.Sealed (filling.2 ++ [')'])) {text : List Char}
    (sealed : Text.Sealed text) : Text.Sealed (fill fillings text) := by
  -- keys begin like tokens, so that nothing is put right behind a sealed parenthesis
  have unfilled : ∀ d rest, Text.Solid d → longest? fillings (d :: rest) = none := by
    intro d rest solid
    cases found : longest? fillings (d :: rest) with
    | none => rfl
    | some filling =>
        obtain ⟨member, starts⟩ := mem_of_longest found
        obtain ⟨first, begins, open_⟩ := keys filling member
        obtain ⟨after, stripped⟩ := Option.isSome_iff_exists.1 starts
        have whole := Text.eq_append_of_stripPrefix stripped
        have same : d = first := by
          simpa [List.head?_append, Option.mem_def.1 begins] using congrArg List.head? whole
        exact absurd (same ▸ solid) open_
  have going : ∀ covered, Text.Sealed (fill.go fillings covered text) := by
    induction text with
    | nil => exact fun covered => by cases covered <;> exact .nil
    | cons d text ih =>
        have later := ih (List.IsChain.tail sealed)
        intro covered
        cases covered with
        | succ covered => exact later covered
        | zero =>
            rw [fill.go]
            split
            · next key value found =>
                obtain ⟨inValue, ends⟩ := (values _ (mem_of_longest found).1).of_closed
                exact inValue.append (later _) ends
            · refine List.IsChain.cons (later 0) fun next first same => ?_
              cases text with
              | nil => nomatch first
              | cons e rest =>
                  have solid : Text.Solid e := List.IsChain.rel sealed same
                  rw [fill.go, unfilled e rest solid] at first
                  exact Option.some.inj first ▸ solid
  exact going 0

theorem tame_fill {fillings : List Filling} (keys : ∀ filling ∈ fillings, Text.Opens filling.1)
    (values : ∀ filling ∈ fillings, Fits c filling.2) {text : List Char} (tame : Tame c [] text) :
    Tame c [] (fill fillings text) where
  sealed paren := by
    have whole := tame.sealed paren
    rw [List.append_nil] at whole ⊢
    exact sealed_fill keys (fun filling member => (values filling member).sealed paren) whole
  absent other := not_mem_fill (fun filling member => (values filling member).absent other)
    (tame.absent other)

/-- **Placeholders keep a mark tame** that the settings and the answers do not bring,
when neither brings an ampersand. -/
theorem keeps_apply (mark : IsMark c) (listed : c ∈ banned) (reference : '&' ∈ banned)
    {settings : Settings} (inSettings : Lacks c [settings.version, settings.songFormat])
    (noReference : Lacks '&' [settings.version, settings.songFormat]) {text : List Char} (tame : Tame c [] text) (bare : '&' ∉ text) :
    (apply settings "" text).Keeps (.harmless banned) (Tame c []) := by
  have decoded : ∀ filled : List Char, Tame c [] filled ∧ '&' ∉ filled →
      Dialogue.Keeps (.harmless banned) (Tame c []) (Pure.pure (CharReference.decode filled)) := by
    intro filled lacks
    rw [CharReference.decode_eq_self lacks.2]
    exact .pure lacks.1
  simp only [List.forall_mem_cons, Lacks] at inSettings noReference
  obtain ⟨inVersion, inFormat, -⟩ := inSettings
  obtain ⟨noReferenceInVersion, noReferenceInFormat, -⟩ := noReference
  unfold apply
  dsimp only
  split
  · exact decoded text ⟨tame, bare⟩
  · refine (Channel.keeps_load _).bind fun channel lacks => ?_
    have filling : ∀ placeholder, (fillingOf settings "" channel placeholder).Keeps
        (.harmless banned)
        fun filling => Text.Opens filling.1 ∧ c ∉ filling.2 ∧ '&' ∉ filling.2 := fun placeholder =>
      ((keeps_value mark listed inVersion inFormat (lacks c listed) placeholder).and
        (keeps_value (.inr (.inr rfl)) reference noReferenceInVersion noReferenceInFormat
          (lacks '&' reference) placeholder)).bind fun value inValue =>
            .pure ⟨opens_key placeholder, inValue⟩
    refine ((Dialogue.Keeps.sequential _).mapM fun placeholder _ => filling placeholder).bind
      fun fillings inFillings => decoded _ ⟨?_, ?_⟩
    · exact tame_fill (fun filling member => (inFillings filling member).1)
        (fun filling member => .of_not_mem (inFillings filling member).2.1) tame
    · exact not_mem_fill (fun filling member => (inFillings filling member).2.2) bare

end Placeholder

end ChatTemplate
