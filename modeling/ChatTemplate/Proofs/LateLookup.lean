/-
# ChatTemplate.Proofs.LateLookup -- lookups that run no command

What is put in after the commands -- lists, another channel's stream, a page -- is
text in which no command is looked for any more.  It is enough that looking it up
has none run, whatever the answers (`Dialogue.Harmless`).
-/
import ChatTemplate.Proofs.LookupMark

namespace ChatTemplate

set_option autoImplicit false

/-- A dialogue that has no command run, whatever the answers. -/
abbrev Dialogue.Harmless {α : Type} (dialogue : Dialogue α) : Prop :=
  dialogue.Keeps (.harmless []) fun _ => True

/-- A dialogue that can fail and has no command run, whatever the answers. -/
abbrev Chat.Harmless {α : Type} (chat : Chat α) : Prop :=
  chat.Keeps (.harmless []) fun _ => True

namespace Listing

theorem harmless_aliases (marked : Bool) : (aliases marked).Harmless := by
  have asked : (Chat.ask (Query.put .aliases)).Harmless := .asks (.asks rfl)
  exact asked.bind fun _ _ => .pure trivial

theorem harmless_ofGroup (entries : List CommandEntry) (group : String) :
    (ofGroup entries group).Harmless := by
  have asked : (Chat.ask (Query.put (.permission group))).Harmless :=
    .asks (.asks rfl)
  refine asked.bind fun id _ => ?_
  split <;> exact .pure trivial

theorem harmless_commands (marked : Bool) (group : Option String) :
    (commands marked group).Harmless := by
  have asked : (Chat.ask (Query.put .commands)).Harmless := .asks (.asks rfl)
  refine asked.bind fun entries _ => ?_
  cases group with
  | some group => exact (harmless_ofGroup _ group).bind fun _ _ => .pure trivial
  | none => exact .pure trivial

theorem harmless_cooldowns : cooldowns.Harmless := by
  have asked : (Chat.ask (Query.put .cooldowns)).Harmless := .asks (.asks rfl)
  exact asked.bind fun _ _ => .pure trivial

theorem harmless_prices : prices.Harmless := by
  have asked : (Chat.ask (Query.put .prices)).Harmless := .asks (.asks rfl)
  have priced : ∀ entry, (priceText entry).Harmless := by
    intro entry
    have label : (Chat.ask (Query.put (.pointsLabel entry.price))).Harmless :=
      .asks (.asks rfl)
    exact label.bind fun _ _ => .pure trivial
  refine asked.bind fun entries _ => ?_
  exact Dialogue.Keeps.mono ((Chat.Keeps.sequential _).mapM fun entry _ => priced entry)
    fun _ _ _ _ => trivial

theorem harmless_ranks : ranks.Harmless := by
  have asked : (Chat.ask (Query.put .ranks)).Harmless := .asks (.asks rfl)
  exact asked.bind fun _ _ => .pure trivial

theorem harmless_resolve (token : List Char) : (resolve token).Harmless := by
  have lined : ∀ {entries : Chat (List String)}, entries.Harmless →
      Chat.Harmless (line <$> entries) := fun harmless => harmless.map fun _ _ => trivial
  unfold resolve
  dsimp only
  split
  · exact lined (harmless_aliases _)
  · exact lined (harmless_aliases _)
  · exact lined (harmless_commands _ _)
  · exact lined (harmless_commands _ _)
  · exact lined harmless_cooldowns
  · exact lined harmless_prices
  · exact lined harmless_ranks
  · exact .pure trivial

end Listing

namespace StreamLookup

theorem harmless_request (credentials : Credentials) (address : String) :
    (request credentials address).Harmless := by
  have fetched : ∀ headers, (Chat.ask (Query.put (.fetch address headers))).Harmless :=
    fun _ => .asks (.asks rfl)
  unfold request
  refine (fetched _).bind fun reply _ => ?_
  dsimp only
  split
  · exact Gives.error
  · split
    · exact .pure trivial
    · exact .throw _

theorem harmless_requestEntry (credentials : Credentials) (path : String) :
    (requestEntry credentials path).Harmless := by
  refine (harmless_request credentials _).bind fun json _ => ?_
  unfold firstEntry
  split
  · exact .pure trivial
  · exact .throw _

theorem harmless_textField (entry : Json) (name : String) : (textField entry name).Harmless := by
  unfold textField
  split
  · exact .pure trivial
  · exact .throw _

theorem harmless_lookUp (channel : List Char) (field : StreamField) :
    (lookUp channel field).Harmless := by
  have asked : (Chat.ask (Query.put .credentials)).Harmless :=
    .asks (.asks rfl)
  unfold lookUp
  refine asked.bind fun known _ => ?_
  cases known with
  | none => exact .throw _
  | some credentials =>
      dsimp only
      split
      · exact Gives.error
      · refine (harmless_requestEntry credentials _).bind fun user _ => ?_
        refine (harmless_textField user "id").bind fun userId _ => ?_
        refine (harmless_requestEntry credentials _).bind fun stream _ => ?_
        cases field with
        | title => exact (harmless_textField stream "title").bind fun _ _ => .pure trivial
        | viewers => exact .pure trivial
        | game =>
            refine (harmless_textField stream "game_id").bind fun gameId _ => ?_
            refine (harmless_requestEntry credentials _).bind fun game _ => ?_
            exact (harmless_textField game "name").bind fun _ _ => .pure trivial

theorem harmless_resolve (field : StreamField) (token : List Char) :
    (resolve field token).Harmless := by
  refine Dialogue.Keeps.bind (harmless_lookUp (channelOf field token) field) fun outcome _ => ?_
  split <;> exact .pure trivial

end StreamLookup

namespace Page

theorem harmless_putPage (reply : WebReply) (text : List Char) : (putPage reply text).Harmless := by
  have phrase : ∀ key, (Query.put (.phrase key)).Harmless := fun _ => .asks rfl
  have part : ∀ json text token, (putPart json text token).Harmless := by
    intro json text token
    unfold putPart
    split
    · exact .pure trivial
    · exact (phrase _).bind fun _ _ => .pure trivial
  unfold putPage
  dsimp only
  split
  · exact .pure trivial
  · exact (Dialogue.Keeps.sequential _).foldlM (fun token _ text _ => part _ text token) trivial

theorem harmless_apply (text : List Char) : (apply text).Harmless := by
  have note : errorNote.Harmless :=
    Dialogue.Keeps.bind (.asks rfl) fun _ (_ : True) => .pure trivial
  have fetched : ∀ address, (Query.put (.fetch address [])).Harmless :=
    fun _ => .asks rfl
  unfold apply
  split
  · exact .pure trivial
  · refine (fetched _).bind fun answer _ => ?_
    split
    · exact note
    · split
      · exact harmless_putPage _ _
      · exact note

end Page

end ChatTemplate
