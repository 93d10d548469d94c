/-
# ChatTemplate.Proofs.EmptyAnswers -- lists and lookups that show nothing

A token that is replaced by nothing clears the whole message.  A list without entries is
therefore a space, and a lookup that goes wrong shows a fallback.  But an entry can have a
name of which nothing is shown, and a stream or a game can be found and have no name.  Then
there is an entry, and nothing went wrong, and the token is replaced by nothing after all.

* `Listing.line_eq_nil_iff`: a line is empty only if a nameless entry is all there is in it;
* `Listing.run_names`: what is listed when the registry answers, and when that is a nameless
  entry (`System.OnlyNameless`);
* `StreamLookup.lookUp_eq`: a lookup shows one field of the last page it asks for.

Main statement: `silent_only_without_a_name`.
-/
import ChatTemplate.Proofs.DialogueFold
import ChatTemplate.Proofs.HiddenEntries
import ChatTemplate.Proofs.IntegerText

namespace ChatTemplate

set_option autoImplicit false

variable {σ : Type} {responder : Dialogue.Responder σ} {state after : σ}

/-! ## Lists -/

namespace Listing

/-- The lists that there are; aliases and commands with their mark or without. -/
inductive System where
  | aliases (marked : Bool)
  | commands (marked : Bool)
  | cooldowns
  | prices
  | ranks
  deriving DecidableEq

namespace System

/-- How a list is called in its token. -/
def word : System → String
  | aliases false => "alias"
  | aliases true => "!alias"
  | commands false => "command"
  | commands true => "!command"
  | cooldowns => "cooldown"
  | prices => "price"
  | ranks => "ranks"

/-- The token of a list, with or without a group. -/
def token (system : System) (group : Option (List Char)) : List Char :=
  "(list.".toList ++ (system.word.toList ++ (group.map ('.' :: ·)).getD []) ++ [')']

/-- The names in a list for a group. -/
def names (group : Option String) : System → Chat (List String)
  | aliases marked => Listing.aliases marked
  | commands marked => Listing.commands marked group
  | cooldowns => Listing.cooldowns
  | prices => Listing.prices
  | ranks => Listing.ranks

end System

/-- The group that is asked for: what stands before the next point, unless it is nothing. -/
def groupName? (group : Option (List Char)) : Option String :=
  (group.map fun text => String.ofList (text.takeWhile (· != '.'))).filter fun name =>
    !name.isEmpty

/-! ### Tokens -/

/-- The first piece of a text that is cut at a character. -/
theorem exists_splitOn_eq (c : Char) (text : List Char) :
    ∃ others, text.splitOn c = text.takeWhile (· != c) :: others := by
  induction text with
  | nil => exact ⟨[], rfl⟩
  | cons d text ih =>
      obtain ⟨others, pieces⟩ := ih
      rw [List.splitOn_cons_eq_if_modifyHead, pieces]
      by_cases same : d = c
      · exact ⟨text.takeWhile (· != c) :: others, by simp [same]⟩
      · exact ⟨others, by simp [same]⟩

/-- The token of a list asks for it, and for the group. -/
theorem requested_token (system : System) (group : Option (List Char)) :
    (requested (system.token group)).headD "" = system.word ∧
      (requested (system.token group))[1]? =
        group.map fun text => String.ofList (text.takeWhile (· != '.')) := by
  have body : ((Text.stripPrefix? "(list.".toList (system.token group)).bind
      (Text.stripSuffix? [')'])).getD [] =
        system.word.toList ++ (group.map ('.' :: ·)).getD [] := by
    unfold System.token
    rw [List.append_assoc, Text.stripPrefix_append, Option.bind_some, Text.stripSuffix_append,
      Option.getD_some]
  have unpointed : '.' ∉ system.word.toList := by
    rcases system with (_ | _) | (_ | _) | _ | _ | _ <;> decide
  rw [requested, body]
  cases group with
  | none =>
      have cut : Text.splitOn ['.'] system.word.toList = [system.word.toList] := by
        have pieces := Text.splitOn_join (List.cons_ne_nil system.word.toList [])
          (List.forall_mem_singleton.2 unpointed)
        rwa [Text.join, List.intercalate_singleton] at pieces
      simp [cut]
  | some text =>
      have parts : system.word.toList ++ '.' :: text =
          Text.join ['.'] (system.word.toList :: text.splitOn '.') := by
        rw [Text.join_cons_of_ne_nil _ (List.splitOn_ne_nil _ _), Text.join,
          List.intercalate_splitOn]
        simp
      have cut := Text.splitOn_join (List.cons_ne_nil system.word.toList (text.splitOn '.'))
        (List.forall_mem_cons.2 ⟨unpointed, Text.not_mem_of_mem_splitOn⟩)
      obtain ⟨others, pieces⟩ := exists_splitOn_eq '.' text
      rw [Option.map_some, Option.getD_some, parts, cut, pieces]
      simp

/-- The token of a list stands for the names in it. -/
theorem resolve_token (system : System) (group : Option (List Char)) :
    resolve (system.token group) = line <$> system.names (groupName? group) := by
  obtain ⟨word, asked⟩ := requested_token system group
  simp only [resolve, word, asked]
  rcases system with (_ | _) | (_ | _) | _ | _ | _ <;> rfl

/-! ### Lines -/

/-- **A line is empty only if a nameless entry is all there is in it.** -/
theorem line_eq_nil_iff (names : List String) : line names = [] ↔ names = [""] := by
  cases names with
  | nil => simp [line]
  | cons name names =>
      have shown : line (name :: names) =
          Text.join ", ".toList ((name :: names).map String.toList) := rfl
      rw [shown, List.map_cons]
      cases names with
      | nil => simp [Text.join]
      | cons other names =>
          rw [Text.join_cons_of_ne_nil _ (by simp)]
          simp

/-- Nothing is shown of an empty name, and nothing of a mark that is left out. -/
theorem shownName_eq_empty_iff (marked : Bool) (name : String) :
    shownName marked name = "" ↔ name = "" ∨ marked = false ∧ name = "!" := by
  cases marked with
  | true => simp [shownName]
  | false =>
      have mark : name = "!" ↔ name.toList = ['!'] := by rw [← String.toList_inj]; rfl
      simp only [shownName, Bool.false_eq_true, if_false, unmarked, mark, true_and,
        ← String.toList_eq_nil_iff, String.toList_ofList]
      constructor
      · intro nothing
        rw [Text.replaceFirst] at nothing
        split at nothing
        · next before behind found =>
            rw [List.append_nil, List.append_eq_nil_iff] at nothing
            have whole := Text.eq_append_of_breakOn found
            rw [nothing.1, nothing.2] at whole
            exact .inr whole
        · exact .inl nothing
      · rintro (empty | only)
        · rw [empty]; rfl
        · rw [only]; rfl

theorem sorted_eq_singleton_iff (names : List String) (name : String) :
    sorted names = [name] ↔ names = [name] := by
  constructor
  · intro single
    have same : names.Perm [name] := single ▸ (List.mergeSort_perm names _).symm
    exact List.perm_singleton.1 same
  · rintro rfl
    exact List.mergeSort_singleton name

/-! ### What is listed -/

end Listing

/-- A query about the registry or the names of points has been answered. -/
def Query.Offered : (query : Query) → query.Answer → Prop
  | .aliases, answer => ∃ entries, answer = .ok entries
  | .commands, answer => ∃ entries, answer = .ok entries
  | .cooldowns, answer => ∃ entries, answer = .ok entries
  | .prices, answer => ∃ entries, answer = .ok entries
  | .ranks, answer => ∃ entries, answer = .ok entries
  | .permission _, answer => ∃ id, answer = .ok id
  | .pointsLabel _, answer => ∃ label, answer = .ok label
  | _, _ => True

/-- **A responder answers for the registry and for the names of points** in every state. -/
def Offers (responder : Dialogue.Responder σ) : Prop :=
  ∀ (query : Query) (state : σ), query.Offered (responder query state).1

namespace Listing

/-- The commands that a group may use, none when nobody knows the group. -/
def permitted (responder : Dialogue.Responder σ) (state : σ) (entries : List CommandEntry) :
    Option String → List CommandEntry
  | none => entries
  | some group =>
      match (responder (.permission group) state).1 with
      | .ok (some id) => entries.filter fun entry => entry.permissions.contains id
      | _ => []

/-- **All that a list has to show is an entry of which nothing is shown**: its name is empty,
or it is the mark that the list leaves out. -/
def System.OnlyNameless (responder : Dialogue.Responder σ) (state : σ) (group : Option String) :
    System → Prop
  | .aliases marked => ∃ entries entry,
      (responder .aliases state).1 = .ok entries ∧
        entries.filter AliasEntry.listed = [entry] ∧
        (entry.name = "" ∨ marked = false ∧ entry.name = "!")
  | .commands marked => ∃ entries entry,
      (responder .commands state).1 = .ok entries ∧
        permitted responder (responder .commands state).2 (entries.filter CommandEntry.listed)
          group = [entry] ∧
        (entry.name = "" ∨ marked = false ∧ entry.name = "!")
  | _ => False

/-- Names that are shown are nothing but an empty one if one entry has nothing to show. -/
theorem sorted_shown_iff {α : Type} (marked : Bool) (nameOf : α → String) (entries : List α) :
    sorted (entries.map fun entry => shownName marked (nameOf entry)) = [""] ↔
      ∃ entry, entries = [entry] ∧ (nameOf entry = "" ∨ marked = false ∧ nameOf entry = "!") := by
  simp only [sorted_eq_singleton_iff, List.map_eq_singleton_iff, shownName_eq_empty_iff]

theorem run_ofGroup (offers : Offers responder) (entries : List CommandEntry) (group : String)
    (state : σ) :
    ∃ after, (Chat.attempt (ofGroup entries group)).run responder state =
      (.ok (permitted responder state entries (some group)), after) := by
  obtain ⟨id, answered⟩ := offers (.permission group) state
  have asked : (Chat.attempt (Chat.ask (Query.put (.permission group)))).run responder state =
      (.ok id, (responder (.permission group) state).2) := Chat.run_ask (Prod.ext answered rfl)
  refine ⟨(responder (.permission group) state).2, ?_⟩
  rw [ofGroup, Chat.run_bind_of_ok asked, permitted, answered]
  cases id <;> rfl

theorem run_commands (offers : Offers responder) (marked : Bool) (group : Option String)
    {entries : List CommandEntry} (answered : (responder .commands state).1 = .ok entries) :
    ∃ after, (Chat.attempt (commands marked group)).run responder state =
      (.ok (sorted ((permitted responder (responder .commands state).2
        (entries.filter CommandEntry.listed) group).map fun entry =>
          shownName marked entry.name)), after) := by
  have asked : (Chat.attempt (Chat.ask (Query.put .commands))).run responder state =
      (.ok entries, (responder .commands state).2) := Chat.run_ask (Prod.ext answered rfl)
  rw [commands, Chat.run_bind_of_ok asked]
  cases group with
  | none => exact ⟨_, rfl⟩
  | some group =>
      obtain ⟨after, chosen⟩ := run_ofGroup offers (entries.filter CommandEntry.listed) group
        (responder .commands state).2
      exact ⟨after, Chat.run_bind_of_ok chosen⟩

theorem run_aliases (marked : Bool) {entries : List AliasEntry}
    (answered : (responder .aliases state).1 = .ok entries) :
    (Chat.attempt (aliases marked)).run responder state =
      (.ok (sorted ((entries.filter AliasEntry.listed).map fun entry =>
        shownName marked entry.name)), (responder .aliases state).2) := by
  exact Chat.run_bind_of_ok (Chat.run_ask (Prod.ext answered rfl))

/-- A cooldown is listed with its time. -/
theorem run_cooldowns (offers : Offers responder) (state : σ) :
    ∃ names after, (Chat.attempt cooldowns).run responder state = (.ok names, after) ∧
      names ≠ [""] := by
  obtain ⟨entries, answered⟩ := offers .cooldowns state
  refine ⟨_, _, Chat.run_bind_of_ok (Chat.run_ask (Prod.ext answered rfl)), fun single => ?_⟩
  rw [sorted_eq_singleton_iff, List.map_eq_singleton_iff] at single
  obtain ⟨entry, -, empty⟩ := single
  simp at empty

theorem run_priceText (offers : Offers responder) (entry : PriceEntry) (state : σ) :
    ∃ text after, (Chat.attempt (priceText entry)).run responder state = (.ok text, after) ∧
      text ≠ "" := by
  obtain ⟨label, answered⟩ := offers (.pointsLabel entry.price) state
  refine ⟨_, _, Chat.run_bind_of_ok (Chat.run_ask (Prod.ext answered rfl)), fun empty => ?_⟩
  simp at empty

/-- A command is listed with its price. -/
theorem run_prices (offers : Offers responder) (state : σ) :
    ∃ names after, (Chat.attempt prices).run responder state = (.ok names, after) ∧
      names ≠ [""] := by
  obtain ⟨entries, answered⟩ := offers .prices state
  have each : ∀ entry ∈ entries.filter (·.enabled), ∀ state : σ, True → ∃ text after,
      (Chat.attempt (priceText entry)).run responder state = (.ok text, after) ∧
        True ∧ text ≠ "" := by
    intro entry _ state _
    obtain ⟨text, after, ran, some_⟩ := run_priceText offers entry state
    exact ⟨text, after, ran, trivial, some_⟩
  obtain ⟨names, after, ran, -, some_⟩ := Chat.run_mapM_of_ok each trivial
  have asked : (Chat.attempt (Chat.ask (Query.put .prices))).run responder state =
      (.ok entries, (responder .prices state).2) := Chat.run_ask (Prod.ext answered rfl)
  refine ⟨names, after, (Chat.run_bind_of_ok asked).trans ran, ?_⟩
  rintro rfl
  obtain ⟨_, _, first, -⟩ := List.forall₂_cons_right_iff.1 some_
  exact first rfl

/-- A rank is listed with its hours. -/
theorem run_ranks (offers : Offers responder) (state : σ) :
    ∃ names after, (Chat.attempt ranks).run responder state = (.ok names, after) ∧
      names ≠ [""] := by
  obtain ⟨entries, answered⟩ := offers .ranks state
  refine ⟨_, _, Chat.run_bind_of_ok (Chat.run_ask (Prod.ext answered rfl)), fun single => ?_⟩
  rw [List.map_eq_singleton_iff] at single
  obtain ⟨entry, -, empty⟩ := single
  simp at empty

/-- **A list has its names when the registry answers**, and they are nothing but an empty one
only if a nameless entry is all that there is. -/
theorem run_names (offers : Offers responder) (system : System) (group : Option String)
    (state : σ) :
    ∃ names after, (Chat.attempt (system.names group)).run responder state = (.ok names, after) ∧
      (names = [""] ↔ system.OnlyNameless responder state group) := by
  cases system with
  | aliases marked =>
      obtain ⟨entries, answered⟩ := offers .aliases state
      have empty := sorted_shown_iff marked AliasEntry.name (entries.filter AliasEntry.listed)
      refine ⟨_, _, run_aliases marked answered, empty.trans ?_⟩
      simp [System.OnlyNameless, answered]
  | commands marked =>
      obtain ⟨entries, answered⟩ := offers .commands state
      obtain ⟨after, ran⟩ := run_commands offers marked group answered
      refine ⟨_, after, ran, (sorted_shown_iff marked CommandEntry.name _).trans ?_⟩
      simp [System.OnlyNameless, answered]
  | cooldowns =>
      obtain ⟨names, after, ran, some_⟩ := run_cooldowns offers state
      exact ⟨names, after, ran, iff_of_false some_ id⟩
  | prices =>
      obtain ⟨names, after, ran, some_⟩ := run_prices offers state
      exact ⟨names, after, ran, iff_of_false some_ id⟩
  | ranks =>
      obtain ⟨names, after, ran, some_⟩ := run_ranks offers state
      exact ⟨names, after, ran, iff_of_false some_ id⟩

/-- **The token of a list is replaced by nothing** only if a nameless entry is all that the
list has. -/
theorem run_resolve (offers : Offers responder) (system : System) (group : Option (List Char))
    (state : σ) :
    ∃ text after, (Chat.attempt (resolve (system.token group))).run responder state =
        (.ok text, after) ∧
      (text = [] ↔ system.OnlyNameless responder state (groupName? group)) := by
  obtain ⟨names, after, ran, nameless⟩ := run_names offers system (groupName? group) state
  refine ⟨line names, after, ?_, (line_eq_nil_iff names).trans nameless⟩
  rw [resolve_token, map_eq_pure_bind, Chat.run_bind_of_ok ran]
  rfl

end Listing

/-! ## Streams -/

namespace StreamLookup

/-- The token of a lookup. -/
def token (channel : List Char) (field : StreamField) : List Char :=
  "(stream|".toList ++ (channel ++ ending field)

theorem channelOf_token (channel : List Char) (field : StreamField) :
    channelOf field (token channel field) = channel := by
  unfold channelOf token
  rw [Text.stripPrefix_append, Option.bind_some, Text.stripSuffix_append, Option.getD_some]

/-- The entry that a field is taken from: the stream of a channel, or its game. -/
def entryOf (channel : List Char) (field : StreamField) : Chat Json := do
  match ← Chat.ask (Query.put .credentials) with
  | none => throw .noAccessToken
  | some credentials =>
      if credentials.accessToken.isEmpty then throw .noAccessToken
      let login := String.ofList (PercentEncoding.encodeName channel)
      let user ← requestEntry credentials ("/users?login=" ++ login)
      let userId ← textField user "id"
      let stream ← requestEntry credentials ("/streams?user_id=" ++ userId)
      match field with
      | .game => requestEntry credentials ("/games?id=" ++ (← textField stream "game_id"))
      | _ => return stream

/-- The name that an entry has. -/
def nameOf? (entry : Json) : StreamField → Option String
  | .game => (entry.field? "name").bind Json.text?
  | .title => (entry.field? "title").bind Json.text?
  | .viewers => none

/-- What is shown of an entry: its name or, of a stream, its number of viewers. -/
def showField (entry : Json) : StreamField → Chat (List Char)
  | .game => String.toList <$> textField entry "name"
  | .title => String.toList <$> textField entry "title"
  | .viewers => return Text.writeNat (viewerCount entry)

/-- **A lookup finds an entry and shows a field of it.** -/
theorem lookUp_eq (channel : List Char) (field : StreamField) :
    lookUp channel field = entryOf channel field >>= fun entry => showField entry field := by
  unfold lookUp entryOf
  simp only [bind_assoc]
  refine bind_congr fun credentials => ?_
  cases credentials with
  | none => rfl
  | some credentials =>
      dsimp only
      split
      · rfl
      · simp only [bind_assoc]
        refine bind_congr fun user => bind_congr fun id => bind_congr fun stream => ?_
        cases field <;> simp [showField]

/-- A text that is shown is empty only if the field has it so. -/
theorem run_textField_eq_nil_iff (entry : Json) (name : String) :
    ((Chat.attempt (String.toList <$> textField entry name)).run responder state).1 = .ok [] ↔
      (entry.field? name).bind Json.text? = some "" := by
  unfold textField
  cases (entry.field? name).bind Json.text? with
  | none => exact iff_of_false nofun nofun
  | some text =>
      have shown : ((Chat.attempt (String.toList <$> (return text : Chat String))).run responder
          state).1 = .ok text.toList := rfl
      rw [shown, Except.ok.injEq, Option.some_inj, String.toList_eq_nil_iff]

/-- Nothing is shown of an entry whose name is empty. -/
theorem run_showField_eq_nil_iff (entry : Json) (field : StreamField) :
    ((Chat.attempt (showField entry field)).run responder state).1 = .ok [] ↔
      nameOf? entry field = some "" := by
  cases field with
  | game => exact run_textField_eq_nil_iff entry "name"
  | title => exact run_textField_eq_nil_iff entry "title"
  | viewers =>
      exact iff_of_false (fun empty => Text.writeNat_ne_nil _ (Except.ok.inj empty)) nofun

/-- **What was found has an empty name.** -/
def FoundNameless (responder : Dialogue.Responder σ) (state : σ) (channel : List Char)
    (field : StreamField) : Prop :=
  ∃ entry after, (Chat.attempt (entryOf channel field)).run responder state = (.ok entry, after) ∧
    nameOf? entry field = some ""

theorem foundNameless_iff {channel : List Char} {field : StreamField} {entry : Json}
    (found : (Chat.attempt (entryOf channel field)).run responder state = (.ok entry, after)) :
    FoundNameless responder state channel field ↔ nameOf? entry field = some "" := by
  constructor
  · rintro ⟨other, _, ran, nameless⟩
    rw [found] at ran
    cases ran
    exact nameless
  · intro nameless
    exact ⟨entry, after, found, nameless⟩

/-- The fallback is never empty, so that nothing is shown only of a text that is. -/
theorem run_resolve_eq_nil_iff_lookUp (channel : List Char) (field : StreamField) (state : σ) :
    ((resolve field (token channel field)).run responder state).1 = [] ↔
      ((Chat.attempt (lookUp channel field)).run responder state).1 = .ok [] := by
  have fallen : fallback field ≠ [] := by cases field <;> decide
  rw [resolve, channelOf_token, Dialogue.run_bind]
  cases ((Chat.attempt (lookUp channel field)).run responder state).1 with
  | ok text => exact (Except.ok.injEq _ _).symm.to_iff
  | error cause => exact iff_of_false fallen nofun

/-- **The token of a lookup is replaced by nothing** only if what was found has an empty
name. -/
theorem run_resolve_eq_nil_iff (channel : List Char) (field : StreamField) (state : σ) :
    ((resolve field (token channel field)).run responder state).1 = [] ↔
      FoundNameless responder state channel field := by
  rw [run_resolve_eq_nil_iff_lookUp, lookUp_eq]
  cases found : (Chat.attempt (entryOf channel field)).run responder state with
  | mk outcome after =>
      cases outcome with
      | error cause =>
          rw [Chat.run_bind_of_error found]
          refine iff_of_false nofun ?_
          rintro ⟨entry, _, ran, -⟩
          rw [found] at ran
          cases ran
      | ok entry =>
          rw [Chat.run_bind_of_ok found, foundNameless_iff found]
          exact run_showField_eq_nil_iff entry field

end StreamLookup

/-! ## Both tokens -/

/-- **Lists and lookups are silent only for want of a name.**  When the registry and the names
of points are answered for, a list always has a text; it is empty exactly when the list has
nothing but one alias or command of which nothing is shown.  Whatever is answered, a lookup is
empty exactly when it has found a stream without a title or a game without a name. -/
theorem silent_only_without_a_name (responder : Dialogue.Responder σ) :
    (Offers responder →
      ∀ (system : Listing.System) (group : Option (List Char)) (state : σ),
        ∃ text after,
          (Chat.attempt (Listing.resolve (system.token group))).run responder state =
            (.ok text, after) ∧
          (text = [] ↔ system.OnlyNameless responder state (Listing.groupName? group))) ∧
      ∀ (channel : List Char) (field : StreamField) (state : σ),
        ((StreamLookup.resolve field (StreamLookup.token channel field)).run responder state).1 =
            [] ↔
          StreamLookup.FoundNameless responder state channel field :=
  ⟨fun offers => Listing.run_resolve offers, StreamLookup.run_resolve_eq_nil_iff⟩

/-- The registry and the names of points are answered for unless they are down. -/
theorem Host.offers {host : Host} (registry : .registry ∉ host.down)
    (points : .points ∉ host.down) : Offers host.answer := by
  intro query world
  cases query with
  | aliases | commands | cooldowns | prices | ranks | permission =>
      rw [answer_of_responsible rfl registry]
      exact ⟨_, rfl⟩
  | pointsLabel =>
      rw [answer_of_responsible rfl points]
      exact ⟨_, rfl⟩
  | _ => exact trivial

theorem marked_alias_is_listed :
    let host : Host := { down := [.web], sources := fun _ => { rolls := id } }
    let world : World := { aliases := [{ name := "!" }, { name := "!hi", enabled := false }] }
    Offers host.answer ∧
      ∃ text after, (Chat.attempt (Listing.resolve "(list.!alias)".toList)).run host.answer world =
        (.ok text, after) ∧ text ≠ [] := by
  intro host world
  have offers : Offers host.answer := Host.offers (by decide) (by decide)
  obtain ⟨text, after, ran, silent⟩ :=
    (silent_only_without_a_name host.answer).1 offers (.aliases true) none world
  refine ⟨offers, text, after, ran, mt silent.1 ?_⟩
  rintro ⟨entries, entry, answered, only, nameless⟩
  cases answered
  cases only
  exact absurd nameless (by decide)

/-- A channel whose one alias is called by the mark alone, and which can look up another one
that streams without a title. -/
def nameless : World where
  aliases := [{ name := "!" }]
  credentials := some { accessToken := "t" }
  routes :=
    ⟨[("https://api.twitch.tv/helix/users?login=x",
        ⟨200, "\x7b\"data\":[\x7b\"id\":\"1\"\x7d]\x7d"⟩),
      ("https://api.twitch.tv/helix/streams?user_id=1",
        ⟨200, "\x7b\"data\":[\x7b\"title\":\"\"\x7d]\x7d"⟩)]⟩

/-- **An alias without a name clears a message**, and so does a stream without a title. -/
theorem nameless_alias_and_stream_are_silent :
    let host : Host := { sources := fun _ => { rolls := id } }
    Offers host.answer ∧
      (host.run (Chat.attempt (Listing.resolve "(list.alias)".toList)) nameless).1 = .ok [] ∧
      (host.run (StreamLookup.resolve .title "(stream|x|title)".toList) nameless).1 = [] ∧
      (host.run (Message.render {} {} "hi (list.alias)".toList) nameless).1 = [] ∧
      (host.run (Message.render {} {} "hi (stream|x|title)".toList) nameless).1 = [] := by
  intro host
  have offers : Offers host.answer := Host.offers (by decide) (by decide)
  obtain ⟨text, after, ran, silent⟩ := Listing.run_resolve offers (.aliases false) none nameless
  have nothing : text = [] := silent.2 ⟨_, _, rfl, rfl, .inr ⟨rfl, rfl⟩⟩
  refine ⟨offers, ?_, by decide +kernel, by decide +kernel, by decide +kernel⟩
  rw [← nothing]
  exact congrArg Prod.fst ran

end ChatTemplate
