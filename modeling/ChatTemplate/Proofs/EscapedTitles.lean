/-
# ChatTemplate.Proofs.EscapedTitles -- escapes in the titles of songs

Where the title of a song request is shown, a backslash is put before every occurrence of the
escape, and then the whole text is decoded.  Decoding keeps every backslash that was put there:
no reference has one in it.  But a reference to the escape is not an occurrence of it, so what
comes from one has a backslash before it only if the title has.

`isEscaped_decode_iff` says so of any text, and `Message.song_request_is_escaped` of the message.
-/
import ChatTemplate.Message.Render
import ChatTemplate.Proofs.References
import ChatTemplate.World.Host

namespace ChatTemplate

set_option autoImplicit false

/-- Every occurrence of a character is directly behind a backslash. -/
def Text.IsEscaped (c : Char) (text : List Char) : Prop :=
  ∀ before after, text = before ++ c :: after → ['\\'] <:+ before

/-- The text with a backslash before every occurrence of a character. -/
def Text.escaped (c : Char) (text : List Char) : List Char :=
  Text.replaceAll [c] ['\\', c] text

theorem Placeholder.escapeIn_singleton (c : Char) (text : String) :
    escapeIn (String.singleton c) text = String.ofList (Text.escaped c text.toList) := by
  have some_ : (String.singleton c).isEmpty = false := by simp
  rw [escapeIn, some_, if_neg Bool.false_ne_true, String.toList_singleton, Text.escaped]

/-! ## Putting backslashes -/

namespace Text

variable {e : Char}

@[simp] theorem escaped_nil (e : Char) : escaped e [] = [] :=
  replaceAll_nil _ _

@[simp] theorem escaped_cons_self (e : Char) (text : List Char) :
    escaped e (e :: text) = '\\' :: e :: escaped e text :=
  replaceAll_append (List.cons_ne_nil e []) ['\\', e] text

theorem escaped_cons {c : Char} (other : c ≠ e) (text : List Char) :
    escaped e (c :: text) = c :: escaped e text :=
  replaceAll_cons (fun stands => other (List.cons_prefix_cons.1 stands).1.symm) _

theorem escaped_append (e : Char) (before after : List Char) :
    escaped e (before ++ after) = escaped e before ++ escaped e after := by
  induction before with
  | nil => simp
  | cons c before ih =>
      by_cases same : c = e
      · subst same
        rw [List.cons_append, escaped_cons_self, ih, escaped_cons_self]
        rfl
      · rw [List.cons_append, escaped_cons same, ih, escaped_cons same]
        rfl

theorem escaped_eq_self {text : List Char} (absent : e ∉ text) : escaped e text = text :=
  replaceAll_eq_self (fun found => absent (found.subset List.mem_cons_self)) _

theorem isEscaped_escaped (other : e ≠ '\\') (text : List Char) :
    IsEscaped e (escaped e text) := by
  induction text with
  | nil => intro before after same; simp at same
  | cons c text ih =>
      intro before after same
      by_cases here : c = e
      · subst here
        rw [escaped_cons_self] at same
        rcases before with - | ⟨b, - | ⟨b', before⟩⟩
        · exact absurd (List.cons.inj same).1.symm other
        · obtain rfl := (List.cons.inj same).1
          exact List.suffix_rfl
        · exact (ih before after (List.cons.inj (List.cons.inj same).2).2).trans ⟨[b, b'], rfl⟩
      · rw [escaped_cons here] at same
        cases before with
        | nil => exact absurd (List.cons.inj same).1 here
        | cons b before => exact (ih before after (List.cons.inj same).2).trans ⟨[b], rfl⟩

/-- A piece with neither the character nor a backslash in it was there before. -/
theorem prefix_of_escaped {text piece after : List Char} (absent : e ∉ piece)
    (plain : '\\' ∉ piece) (same : escaped e text = piece ++ after) : piece <+: text := by
  induction piece generalizing text with
  | nil => exact List.nil_prefix
  | cons p piece ih =>
      rw [List.mem_cons, not_or] at absent plain
      cases text with
      | nil => simp at same
      | cons c text =>
          by_cases here : c = e
          · subst here
            rw [escaped_cons_self] at same
            exact absurd (List.cons.inj same).1 plain.1
          · rw [escaped_cons here] at same
            obtain ⟨rfl, rest⟩ := List.cons.inj same
            exact List.cons_prefix_cons.2 ⟨rfl, ih absent.2 plain.2 rest⟩

/-- And what stands before it comes from what stood before it. -/
theorem exists_of_escaped {text before piece after : List Char} (some_ : piece ≠ [])
    (absent : e ∉ piece) (plain : '\\' ∉ piece)
    (same : escaped e text = before ++ (piece ++ after)) :
    ∃ earlier later, text = earlier ++ piece ++ later ∧ escaped e earlier = before := by
  induction text generalizing before with
  | nil => simp [some_] at same
  | cons c text ih =>
      cases before with
      | nil =>
          obtain ⟨later, whole⟩ := prefix_of_escaped absent plain same
          exact ⟨[], later, whole.symm, escaped_nil e⟩
      | cons b before =>
          by_cases here : c = e
          · subst here
            rw [escaped_cons_self] at same
            obtain ⟨rfl, rest⟩ := List.cons.inj same
            cases before with
            | nil =>
                obtain ⟨p, piece, rfl⟩ := List.exists_cons_of_ne_nil some_
                exact absurd ((List.cons.inj rest).1 ▸ List.mem_cons_self) absent
            | cons b' before =>
                obtain ⟨rfl, behind⟩ := List.cons.inj rest
                obtain ⟨earlier, later, rfl, rfl⟩ := ih behind
                exact ⟨c :: earlier, later, rfl, escaped_cons_self c earlier⟩
          · rw [escaped_cons here] at same
            obtain ⟨rfl, rest⟩ := List.cons.inj same
            obtain ⟨earlier, later, rfl, rfl⟩ := ih rest
            exact ⟨c :: earlier, later, rfl, escaped_cons here earlier⟩

end Text

/-! ## Decoding what has backslashes -/

namespace CharReference

open Text (escaped IsEscaped)

theorem Refers.backslash_not_mem {written : List Char} {c : Char} (refers : Refers written c) :
    '\\' ∉ written := by
  intro among
  rcases refers.mem among with same | same | body
  · exact absurd same (by decide)
  · exact absurd same (by decide)
  · exact absurd body (by decide)

/-- A backslash at the end is decoded to itself. -/
theorem backslash_suffix_decode {text : List Char} (behind : ['\\'] <:+ text) :
    ['\\'] <:+ decode text := by
  obtain ⟨before, rfl⟩ := behind
  rw [decode_append (by decide) (by decide)]
  exact List.suffix_append _ _

/-- Where a piece of an escaped text has the character in it, the piece is behind a backslash:
it begins with the character, since it has no backslash of its own. -/
theorem backslash_suffix_of_mem {e : Char} {text before piece after : List Char}
    (each : IsEscaped e text) (same : text = before ++ (piece ++ after)) (among : e ∈ piece)
    (plain : '\\' ∉ piece) : ['\\'] <:+ before := by
  obtain ⟨start, rest, rfl⟩ := List.append_of_mem among
  have behind : ['\\'] <:+ before ++ start := each _ (rest ++ after) (by simp [same])
  cases start using List.reverseRecOn with
  | nil => simpa using behind
  | append_singleton start c _ =>
      obtain ⟨more, same⟩ := behind
      rw [← List.append_assoc] at same
      obtain rfl : '\\' = c := (List.cons.inj (List.append_inj_right' same rfl)).1
      exact absurd (by simp) plain

/-- **A decoded text is escaped** just when every reference to the escape that does not have
the escape in it comes behind a backslash. -/
theorem isEscaped_decode_iff {e : Char} (other : e ≠ '\\') (text : List Char) :
    IsEscaped e (decode (escaped e text)) ↔
      ∀ before written after, text = before ++ written ++ after → Refers written e →
        e ∉ written → ['\\'] <:+ decode (escaped e before) := by
  constructor
  · rintro each before written after rfl refers absent
    refine each _ (decode (escaped e after)) ?_
    rw [Text.escaped_append, Text.escaped_append, Text.escaped_eq_self absent,
      decode_around refers]
  · intro each before after decoded
    obtain ⟨earlier, piece, later, same, rfl, from_⟩ := exists_piece decoded
    rw [List.append_assoc] at same
    have plain : '\\' ∉ piece := by
      rcases from_ with rfl | refers
      · simpa using other.symm
      · exact refers.backslash_not_mem
    by_cases among : e ∈ piece
    · exact backslash_suffix_decode
        (backslash_suffix_of_mem (Text.isEscaped_escaped other text) same among plain)
    · have refers : Refers piece e := from_.resolve_left fun same => among (by simp [same])
      have some_ : piece ≠ [] := by
        obtain ⟨body, rfl, -⟩ := refers
        exact List.cons_ne_nil _ _
      obtain ⟨before, after, rfl, rfl⟩ := Text.exists_of_escaped some_ among plain same
      exact each before piece after rfl refers among

end CharReference

/-! ## The message -/

namespace Message

open Text (escaped IsEscaped)

variable {host : Host} {settings : Settings} {world : World} {title : String}

/-- For the title of the song request nothing but the statistics is asked for. -/
theorem run_load_songRequest (up : Collaborator.broadcast ∉ host.down) :
    (Channel.load [.songRequest]).run host.answer world = ({ stats := world.stats }, world) := by
  have answered : (Query.put .stats).run host.answer world = (.ok world.stats, world) :=
    Host.answer_of_responsible rfl up world
  rw [Channel.load, Dialogue.run_bind, answered]
  rfl

/-- **The title of the song request** is escaped, then decoded with the text it stands in. -/
theorem run_songRequest (enabled : settings.songsEnabled = true)
    (up : Collaborator.broadcast ∉ host.down) (playing : world.stats.songRequest = some title)
    (escape : String) :
    host.run (renderPlaceholders settings escape "$ytSong".toList) world =
      (CharReference.decode (Placeholder.escapeIn escape title).toList, world) := by
  have decoded : CharReference.decode "$ytSong".toList = "$ytSong".toList := rfl
  have present : Placeholder.present "$ytSong".toList = [.songRequest] := by decide
  have value : Placeholder.value settings escape { stats := world.stats } .songRequest =
      return Placeholder.escapeIn escape title := by
    rw [Placeholder.value, playing]
    dsimp only
    rw [if_pos enabled]
  have filled (value : List Char) :
      Placeholder.fill [("$ytSong".toList, value)] "$ytSong".toList = value :=
    calc Placeholder.fill [("$ytSong".toList, value)] "$ytSong".toList = value ++ [] := rfl
      _ = value := List.append_nil value
  rw [renderPlaceholders, decoded, Placeholder.apply, present, if_neg (by decide), Host.run,
    Dialogue.run_bind, run_load_songRequest up, List.mapM_cons, List.mapM_nil,
    Placeholder.fillingOf, value]
  exact congrArg (fun text => (CharReference.decode text, world)) (filled _)

/-- **The escape in the title of a song request.**  Every occurrence in what is shown has a
backslash before it just when every reference to the escape in the title, unless the escape
stands in the reference itself, comes behind a backslash. -/
theorem song_request_is_escaped {escape : Char} (other : escape ≠ '\\')
    (enabled : settings.songsEnabled = true) (up : Collaborator.broadcast ∉ host.down)
    (playing : world.stats.songRequest = some title) :
    let shown :=
      (host.run (renderPlaceholders settings (String.singleton escape) "$ytSong".toList) world).1
    shown = CharReference.decode (escaped escape title.toList) ∧
      (IsEscaped escape shown ↔ ∀ before written after, title.toList = before ++ written ++ after →
        CharReference.Refers written escape → escape ∉ written →
          ['\\'] <:+ CharReference.decode (escaped escape before)) := by
  intro shown
  have decoded : shown = CharReference.decode (escaped escape title.toList) := by
    simp only [shown]
    rw [run_songRequest enabled up playing, Placeholder.escapeIn_singleton, String.toList_ofList]
  refine ⟨decoded, ?_⟩
  rw [decoded]
  exact CharReference.isEscaped_decode_iff other title.toList

/-- A title without references is escaped. -/
theorem quoted_title_is_escaped :
    let host : Host := { sources := fun _ => { rolls := id } }
    let settings : Settings := {}
    let world : World := { stats := { songRequest := some "say \"hi\"" } }
    let shown :=
      (host.run (renderPlaceholders settings (String.singleton '"') "$ytSong".toList) world).1
    ('"' ≠ '\\' ∧ settings.songsEnabled = true ∧
        world.stats.songRequest = some "say \"hi\"") ∧
      shown = "say \\\"hi\\\"".toList ∧ IsEscaped '"' shown := by
  intro host settings world shown
  have other : '"' ≠ '\\' := by decide
  have enabled : settings.songsEnabled = true := rfl
  have up : Collaborator.broadcast ∉ host.down := List.not_mem_nil
  have playing : world.stats.songRequest = some "say \"hi\"" := rfl
  obtain ⟨decoded, escaped_iff⟩ := song_request_is_escaped other enabled up playing
  have text : CharReference.decode (escaped '"' "say \"hi\"".toList) =
      "say \\\"hi\\\"".toList := by decide
  have ampersand : '&' ∉ "say \"hi\"".toList := by decide
  refine ⟨⟨other, enabled, playing⟩, decoded.trans text, escaped_iff.2 ?_⟩
  rintro before written after same ⟨body, rfl, -⟩ -
  exact absurd (same ▸ by simp) ampersand

/-- A quotation mark that the title has as a reference is shown without a backslash. -/
theorem quote_reference_is_not_escaped :
    let host : Host := { sources := fun _ => { rolls := id } }
    let settings : Settings := {}
    let world : World := { stats := { songRequest := some "&quot;" } }
    let shown :=
      (host.run (renderPlaceholders settings (String.singleton '"') "$ytSong".toList) world).1
    ('"' ≠ '\\' ∧ settings.songsEnabled = true ∧ Collaborator.broadcast ∉ host.down ∧
        world.stats.songRequest = some "&quot;") ∧
      shown = ['"'] ∧ ¬ IsEscaped '"' shown := by
  intro host settings world shown
  have text : shown = ['"'] := by decide +kernel
  refine ⟨⟨by decide, rfl, List.not_mem_nil, rfl⟩, text, fun each => ?_⟩
  have behind := each [] [] text
  exact absurd behind (by decide)

end Message

end ChatTemplate
