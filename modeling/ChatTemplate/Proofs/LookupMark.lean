/-
# ChatTemplate.Proofs.LookupMark -- what lookups bring into a message

What a token is replaced by comes from the token itself, from the settings and
the context of the message, and from what the collaborators answer.  A command
mark that is in none of these texts is not in the value of the token, and no
token but an inline command has a command run (`keeps_resolve`).

`Query.texts` are the texts of an answer that can come into a message before its
commands are looked for.
-/
import ChatTemplate.Message.Render
import ChatTemplate.Proofs.Exchange
import ChatTemplate.Proofs.Ranking
import ChatTemplate.Proofs.ScriptMark
import ChatTemplate.Proofs.TameText

namespace ChatTemplate

set_option autoImplicit false

/-! ## The texts of answers -/

def User.texts (user : User) : List String :=
  [user.id, user.name]

def Event.texts (event : Event) : List String :=
  event.userName :: event.payload.texts

def Stats.texts (stats : Stats) : List String :=
  stats.game.toList ++ stats.title.toList ++
    (stats.song.toList.flatMap fun song => [song.title, song.artist]) ++ stats.songRequest.toList

/-- The body of a reply, and the texts of the document in it. -/
def WebReply.texts (reply : WebReply) : List String :=
  reply.body :: reply.json?.toList.flatMap Json.texts

/-- **The texts of an answer** that can come into a message before its commands are
looked for.  Of a user who was asked for by name only the flags do. -/
def Query.texts : (query : Query) → query.Answer → List String
  | .allUsers, .ok users => users.flatMap User.texts
  | .usersWhere _, .ok users => users.flatMap User.texts
  | .latestEvent _, .ok event => event.toList.flatMap Event.texts
  | .eventsOf _, .ok events => events.flatMap Event.texts
  | .readVariable _, .ok value => [value]
  | .writeVariable _ _, .ok outcome => [outcome.currentValue]
  | .fetch _ _, .ok reply => reply.texts
  | .stats, .ok channel => channel.texts
  | .pointsLabel _, .ok label => [label]
  | .phrase _, wording => [wording]
  | _, _ => []

def Exchange.texts (exchange : Exchange) : List String :=
  exchange.query.texts exchange.answer

/-- Whether a query has a command run. -/
def Query.runsCommand : Query → Bool
  | .dispatch _ _ _ => true
  | _ => false

/-- **No command is run**, as long as the answers bring none of some characters. -/
def Contract.harmless (banned : List Char) : Contract where
  asked query := query.runsCommand = false
  answered query answer := ∀ c ∈ banned, Lacks c (query.texts answer)

variable {c : Char} {banned : List Char}

/-! ## Events -/

theorem Event.not_mem_text (mark : IsMark c) {event : Event} (lacks : Lacks c event.texts)
    {field text : String} (found : event.text? field = some text) : c ∉ text.toList := by
  have inPayload : Lacks c event.payload.texts := (List.forall_mem_cons.1 lacks).2
  unfold text? at found
  split at found
  · next s part =>
      obtain rfl := Option.some.inj found
      exact inPayload _ (Json.texts_subset_of_field part List.mem_cons_self)
  · simp at found
  · next json _ _ part =>
      obtain rfl := Option.some.inj found
      have inPart : Lacks c json.texts := fun text member =>
        inPayload text (Json.texts_subset_of_field part member)
      rw [Json.toText, String.toList_ofList]
      exact Json.not_mem_write mark json inPart
  · simp at found

theorem Event.not_mem_giver (mark : IsMark c) {event : Event} (lacks : Lacks c event.texts) :
    c ∉ event.giver.toList := by
  unfold giver
  cases found : event.text? "username" with
  | none => exact (List.forall_mem_cons.1 lacks).1
  | some text => exact not_mem_text mark lacks found

/-! ## Asking -/

theorem keeps_stats (listed : c ∈ banned) :
    Chat.Keeps (.harmless banned) (fun stats => Lacks c stats.texts)
      (Chat.ask (Query.put .stats)) :=
  .ask (.put rfl fun answer lacks stats same => by subst same; exact lacks c listed)

theorem keeps_usersWhere (listed : c ∈ banned) (filter : UserFilter) :
    Chat.Keeps (.harmless banned) (fun users => ∀ user ∈ users, Lacks c user.texts)
      (Chat.ask (Query.put (.usersWhere filter))) :=
  .ask (.put rfl fun answer lacks users same => by
    subst same
    exact List.forall_mem_flatMap.1 (lacks c listed))

theorem keeps_chance : (Query.put .chance).Keeps (.harmless banned) fun _ => True :=
  .asks rfl

theorem keeps_readVariable (listed : c ∈ banned) (name : String) :
    Chat.Keeps (.harmless banned) (fun value => c ∉ value.toList)
      (Chat.ask (Query.put (.readVariable name))) :=
  .ask (.put rfl fun answer lacks value same => by
    subst same
    exact lacks c listed value List.mem_cons_self)

/-! ## The stream, prices and tips -/

namespace Information

theorem not_mem_known {text : Option String} (mark : IsMark c)
    (lacks : Lacks c text.toList) : c ∉ known text := by
  unfold known
  cases text with
  | none => exact mark.not_mem (by decide)
  | some text =>
      rw [Option.filter_some]
      split
      · exact lacks text (by simp)
      · exact mark.not_mem (by decide)

theorem keeps_game (mark : IsMark c) (listed : c ∈ banned) :
    Chat.Keeps (.harmless banned) (c ∉ ·) game :=
  (keeps_stats listed).bind fun stats lacks => .pure (not_mem_known mark fun text member =>
    lacks text (by simp [Stats.texts, member]))

theorem keeps_status (mark : IsMark c) (listed : c ∈ banned) :
    Chat.Keeps (.harmless banned) (c ∉ ·) status :=
  (keeps_stats listed).bind fun stats lacks => .pure (not_mem_known mark fun text member =>
    lacks text (by simp [Stats.texts, member]))

theorem keeps_price (mark : IsMark c) (listed : c ∈ banned) (settings : Settings)
    (context : Context) : Chat.Keeps (.harmless banned) (c ∉ ·) (price settings context) := by
  have labelled : ∀ amount, Chat.Keeps (.harmless banned) (c ∉ ·)
      (do
        let label ← Chat.ask (Query.put (.pointsLabel amount))
        return (Text.int64Text amount ++ " " ++ label).toList) := by
    intro amount
    have label : Chat.Keeps (.harmless banned) (fun label => c ∉ label.toList)
        (Chat.ask (Query.put (.pointsLabel amount))) :=
      .ask (.put rfl fun answer lacks label same => by
        subst same
        exact lacks c listed label List.mem_cons_self)
    refine label.bind fun label inLabel => .pure ?_
    have space : c ∉ " ".toList := mark.not_mem (by decide)
    rw [String.toList_append, String.toList_append, List.mem_append, List.mem_append, not_or, not_or]
    exact ⟨⟨not_mem_int64Text mark.unspelled amount, space⟩, inLabel⟩
  unfold price
  split
  · split
    · have listed : Chat.Keeps (.harmless banned) (fun _ => True) (Chat.ask (Query.put .prices)) :=
        .asks (.asks rfl)
      exact listed.bind fun prices _ => labelled _
    · exact labelled 0
  · exact labelled 0

/-- All of some tips are without a character. -/
abbrev TipsLack (c : Char) (tips : List RankedTip) : Prop :=
  ∀ ranked ∈ tips, Lacks c ranked.tip.texts

theorem keeps_rankedTips (listed : c ∈ banned) (settings : Settings) :
    Chat.Keeps (.harmless banned) (TipsLack c) (rankedTips settings) := by
  have tips : Chat.Keeps (.harmless banned) (fun tips => ∀ tip ∈ tips, Lacks c tip.texts)
      (Chat.ask (Query.put (.eventsOf "tip"))) :=
    .ask (.put rfl fun answer lacks tips same => by
      subst same
      exact List.forall_mem_flatMap.1 (lacks c listed))
  have converted : ∀ tip : Event, Lacks c tip.texts →
      Chat.Keeps (.harmless banned) (fun ranked => Lacks c ranked.tip.texts)
        (convertTip settings tip) := by
    intro tip lacks
    have rate : ∀ amount source target, Chat.Keeps (.harmless banned) (fun _ => True)
        (Chat.ask (Query.put (.convert amount source target))) := fun _ _ _ =>
      .asks (.asks rfl)
    exact (rate _ _ _).bind fun converted _ => .pure lacks
  refine tips.bind fun tips lacks => ?_
  have each := (Chat.Keeps.sequential (.harmless banned)).mapM
    fun tip member => converted tip (lacks tip member)
  exact each.bind fun ranked lacks => .pure fun tip member => lacks tip ((rank_perm _ _).subset member)

theorem keeps_tipsOfStream (listed : c ∈ banned) {tips : List RankedTip} (lacks : TipsLack c tips) :
    Chat.Keeps (.harmless banned) (TipsLack c) (tipsOfStream tips) := by
  refine (keeps_stats listed).bind fun stats _ => ?_
  split
  · split
    · exact .pure fun ranked member => lacks ranked (List.mem_of_mem_filter member)
    · exact .pure (List.forall_mem_nil _)
  · exact .pure (List.forall_mem_nil _)

theorem not_mem_tipField (mark : IsMark c) (field : String) {tip : Event}
    (lacks : Lacks c tip.texts) : c ∉ (tipField field tip).toList := by
  unfold tipField
  split
  · exact Decimal.not_mem_fixed mark.unspelled 2 _
  · split
    · exact Event.not_mem_giver mark lacks
    · cases found : tip.text? field with
      | none => exact mark.not_mem (by decide)
      | some text => exact Event.not_mem_text mark lacks found

/-- The field of the first of some tips, if there is one. -/
theorem keeps_headField (mark : IsMark c) (field : String) {tips : List RankedTip}
    (lacks : TipsLack c tips) : Chat.Keeps (.harmless banned) (c ∉ ·)
      (match tips.head? with
        | some ranked => return (tipField field ranked.tip).toList
        | none => return []) := by
  split
  · next found => exact .pure (not_mem_tipField mark field (lacks _ (List.mem_of_head? found)))
  · exact .pure List.not_mem_nil

theorem keeps_topTip (mark : IsMark c) (listed : c ∈ banned) (settings : Settings)
    (token : List Char) : Chat.Keeps (.harmless banned) (c ∉ ·) (topTip settings token) := by
  unfold topTip
  split
  · exact .pure List.not_mem_nil
  · next scope field _ =>
      refine (keeps_rankedTips listed settings).bind fun tips lacks => ?_
      split
      · exact (keeps_tipsOfStream listed lacks).bind fun tips lacks =>
          keeps_headField mark field lacks
      · exact keeps_headField mark field lacks

end Information

/-! ## Picks, conditions and arithmetic -/

namespace RandomPick

theorem keeps_pick (names : List String) :
    (pick names).Keeps (.harmless banned) fun name => ∀ picked ∈ name, picked ∈ names := by
  exact keeps_chance.bind fun dice _ => .pure fun picked found => List.mem_of_getElem? found

theorem keeps_viewer (mark : IsMark c) (listed : c ∈ banned) (settings : Settings)
    (online : Bool) (pool : Pool) :
    Chat.Keeps (.harmless banned) (c ∉ ·) (viewer settings online pool) := by
  refine (keeps_usersWhere listed _).bind fun users lacks => ?_
  refine (Chat.Keeps.lift (keeps_pick _)).bind fun name picked => .pure ?_
  cases name with
  | none => exact mark.not_mem (by decide)
  | some name =>
      have eligible := List.mem_of_mem_filter (picked name rfl)
      obtain ⟨user, member, rfl⟩ := List.mem_map.1 eligible
      exact lacks user member _ (by simp [User.texts])

theorem keeps_number (mark : IsMark c) (context : Context) (token : List Char) :
    (number context token).Keeps (.harmless banned) (c ∉ ·) := by
  unfold number
  dsimp only
  split
  · exact keeps_chance.bind fun dice _ => .pure (not_mem_int64Text mark.unspelled _)
  · exact .pure (mark.not_mem (by decide))

theorem keeps_coin (mark : IsMark c) : coin.Keeps (.harmless banned) (c ∉ ·) := by
  refine keeps_chance.bind fun dice _ => .pure ?_
  split <;> exact mark.not_mem (by decide)

end RandomPick

/-! ## The context -/

/-- **No text of the context has a character**: neither the sender's mention nor the
argument, the command nor an attribute. -/
def Context.Without (c : Char) (settings : Settings) (context : Context) : Prop :=
  ∀ entry ∈ Message.attributes settings context, c ∉ entry.2.toList

section

variable {settings : Settings} {context : Context}

theorem Context.Without.mention (without : Context.Without c settings context) :
    c ∉ (settings.mention context.sender.name).toList :=
  without _ List.mem_cons_self

theorem Context.Without.argument (without : Context.Without c settings context) :
    ∀ text ∈ context.argument, c ∉ text.toList := by
  intro text given
  have member : ("param", text) ∈ Message.attributes settings context := by
    simp [Message.attributes, Option.mem_def.1 given]
  exact without _ member

theorem Context.Without.argumentText (without : Context.Without c settings context) :
    c ∉ context.argumentText.toList := by
  rw [Context.argumentText]
  cases found : context.argument with
  | none => exact List.not_mem_nil
  | some text => exact without.argument text found

namespace Argument

theorem not_mem_toUser (mark : IsMark c) (without : Context.Without c settings context) :
    c ∉ toUser settings context := by
  have target : c ∉ (String.ofList
      (Text.replaceFirst ['@'] [] context.argumentText.toList)).toList := by
    rw [String.toList_ofList]
    exact Text.not_mem_replaceFirst List.not_mem_nil without.argumentText
  have sign : c ∉ "@".toList := mark.not_mem (by decide)
  unfold toUser
  dsimp only
  split
  · exact without.mention
  · rw [Settings.mention]
    split
    · rw [String.toList_append, List.mem_append, not_or]
      exact ⟨sign, target⟩
    · exact target

theorem not_mem_writtenOrNone (mark : IsMark c)
    (without : Context.Without c settings context) : c ∉ writtenOrNone context := by
  rw [writtenOrNone, Context.given?]
  cases found : context.argument with
  | none => exact mark.not_mem (by decide)
  | some text =>
      rw [Option.filter_some]
      split
      · exact without.argument text found
      · exact mark.not_mem (by decide)

end Argument

namespace Condition

/-- The parts of a token between its bars, each of which can be its value. -/
theorem fits_parts (without : Context.Without c settings context)
    {token : List Char} (tame : Tame c [] token) (ends : [')'] <:+ token) :
    ∀ part ∈ parts context token, Fits c part := by
  obtain ⟨inner, rfl⟩ := ends
  have stripped := Text.stripSuffix_append inner [')']
  have body : Fits c inner :=
    ⟨by simpa using tame.sealed, fun other member => tame.absent other (by simp [member])⟩
  have argument : Fits c context.argumentText.toList := .of_not_mem without.argumentText
  unfold parts
  rw [stripped]
  refine Tame.fits_of_mem_splitOn ?_
  refine Tame.replaceAll ?_ (Text.opens_cons _ (by decide)) argument
  refine Tame.replaceAll ?_ (Text.opens_cons _ (by decide)) argument
  exact body.replaceFirst (Text.opens_cons _ (by decide)) (.of_not_mem List.not_mem_nil)

theorem keeps_resolve (without : Context.Without c settings context)
    {token : List Char} (tame : Tame c [] token) (ends : [')'] <:+ token) :
    (resolve context token).Keeps (.harmless banned) (Fits c) := by
  have inParts := fits_parts without tame ends
  have nothing : Fits c [] := .of_not_mem List.not_mem_nil
  unfold resolve
  split
  · next condition thenPart rest shape =>
      rw [shape] at inParts
      obtain ⟨-, inThen, inRest⟩ := List.forall_mem_cons.1 inParts |>.imp id List.forall_mem_cons.1
      have inElse : Fits c (rest.head?.getD []) := by
        cases rest with
        | nil => exact nothing
        | cons part others => exact inRest part List.mem_cons_self
      dsimp only
      split
      · exact .pure inElse
      · refine keeps_chance.bind fun dice _ => ?_
        split
        · exact .pure inThen
        · exact .pure inElse
        · exact .pure nothing
  · exact .pure nothing

end Condition

/-! ## Custom variables, arithmetic and counts -/

namespace VariableToken

theorem keeps_respond (context : Context) (name : String)
    {outcome : SetOutcome} (lacks : c ∉ outcome.currentValue.toList) :
    Chat.Keeps (.harmless banned) (c ∉ ·) (respond context name outcome) := by
  have sent : ∀ text sender quiet, Chat.Keeps (.harmless banned) (fun _ => True)
      (Chat.ask (Query.put (.send text sender quiet))) := fun _ _ _ =>
    .asks (.asks rfl)
  have phrase : ∀ key, (Query.put (.phrase key)).Keeps (.harmless banned) (fun _ => True) :=
    fun _ => .asks rfl
  unfold respond
  split
  · split
    · exact (Chat.Keeps.lift (phrase _)).bind fun template _ => (sent _ _ _).bind
        fun _ _ => .pure lacks
    · exact .pure lacks
  · exact (sent _ _ _).bind fun _ _ => .pure List.not_mem_nil
  · exact .pure lacks

theorem keeps_resolve (listed : c ∈ banned) (context : Context) (mode : VariableMode)
    (token : List Char) :
    Chat.Keeps (.harmless banned) (c ∉ ·) (resolve context mode token) := by
  have written : ∀ name value, Chat.Keeps (.harmless banned)
      (fun outcome => c ∉ outcome.currentValue.toList)
      (Chat.ask (Query.put (.writeVariable name value))) := fun _ _ =>
    .ask (.put rfl fun answer lacks outcome same => by
      subst same
      exact lacks c listed _ List.mem_cons_self)
  unfold resolve
  dsimp only
  split
  · refine (written _ _).bind fun outcome lacks => ?_
    split
    · exact keeps_respond context _ lacks
    · exact .pure lacks
    · exact .pure List.not_mem_nil
  · split
    · exact .pure List.not_mem_nil
    · exact (keeps_readVariable listed _).bind fun value lacks => .pure lacks

end VariableToken

namespace Calculation

theorem keeps_resolve (mark : IsMark c) (token : List Char) :
    Chat.Keeps (.harmless banned) (c ∉ ·) (resolve token) := by
  have put : ∀ source name, Chat.Keeps (.harmless banned) (fun _ => True) (putValue source name) := by
    intro source name
    have read : Chat.Keeps (.harmless banned) (fun _ => True)
        (Chat.ask (Query.put (.readVariable (String.ofList name)))) :=
      .asks (.asks rfl)
    exact read.bind fun value _ => .pure trivial
  have replaced : ∀ names source, Chat.Keeps (.harmless banned) (fun _ => True)
      (List.foldlM putValue source names) := fun names source =>
    (Chat.Keeps.sequential _).foldlM (fun name _ source _ => put source name) trivial
  unfold resolve
  refine (replaced _ _).bind fun source _ => (Chat.Keeps.lift keeps_chance).bind fun dice _ => ?_
  split
  · exact .pure (Script.not_mem_formatNumber mark.unspelled _)
  · exact .throw _

end Calculation

namespace Commands

theorem keeps_usageText (mark : IsMark c) (command : String) :
    Chat.Keeps (.harmless banned) (c ∉ ·) (usageText command) := by
  have used : Chat.Keeps (.harmless banned) (fun _ => True)
      (Chat.ask (Query.put (.usageOf command))) := .asks (.asks rfl)
  exact used.bind fun count _ => .pure (not_mem_uint64Text mark.unspelled count)

theorem keeps_usageOf (mark : IsMark c) (token : List Char) :
    Chat.Keeps (.harmless banned) (c ∉ ·) (usageOf token) := by
  unfold usageOf
  split
  · exact keeps_usageText mark _
  · exact .pure (mark.not_mem (by decide))

theorem keeps_usage (mark : IsMark c) (context : Context) :
    Chat.Keeps (.harmless banned) (c ∉ ·) (usage context) := by
  unfold usage
  split
  · exact keeps_usageText mark _
  · exact .pure (mark.not_mem (by decide))

end Commands

/-! ## Scripts -/

namespace Scripting

theorem not_mem_pageName (mark : IsMark c) (n : Nat) : c ∉ (pageName n).toList := by
  have start : c ∉ "url".toList := mark.not_mem (by decide)
  have zeros : ∀ k, c ∉ List.replicate k '0' := by
    intro k member
    have zero : c ∉ ['0'] := mark.not_mem (by decide)
    exact zero (List.mem_singleton.2 (List.eq_of_mem_replicate member))
  rw [pageName, String.toList_append, List.mem_append, not_or]
  refine ⟨start, ?_⟩
  rw [String.toList_ofList, List.mem_append, not_or]
  exact ⟨zeros _, not_mem_toDigits mark.unspelled (by decide) (by decide) _⟩

theorem lacks_pageValue {reply : WebReply} (lacks : Lacks c reply.texts) :
    Lacks c (pageValue reply).texts := by
  obtain ⟨inBody, inDocument⟩ := List.forall_mem_cons.1 lacks
  unfold pageValue
  split
  · next json found =>
      rw [Script.Value.texts_ofJson]
      rw [found] at inDocument
      exact (List.forall_mem_flatMap.1 inDocument) json List.mem_cons_self
  · exact List.forall_mem_singleton.2 inBody

/-- A script whose pages have been fetched is without a character. -/
structure Prepared.Without (c : Char) (prepared : Prepared) : Prop where
  source : c ∉ prepared.source
  pages : ∀ page ∈ prepared.pages, Lacks c page.2.texts

theorem keeps_prepare (mark : IsMark c) (listed : c ∈ banned) {source : List Char}
    (inSource : c ∉ source) :
    Chat.Keeps (.harmless banned) (Prepared.Without c) (prepare source) := by
  have fetched : ∀ address, Chat.Keeps (.harmless banned) (fun reply => Lacks c reply.texts)
      (Chat.ask (Query.put (.fetch address []))) := fun _ =>
    .ask (.put rfl fun answer lacks reply same => by
      subst same
      exact lacks c listed)
  refine (Chat.Keeps.sequential _).foldlM (fun call _ prepared without => ?_) ⟨inSource, nofun⟩
  refine (Chat.Keeps.lift keeps_chance).bind fun dice _ => ?_
  refine (fetched _).bind fun reply lacks => .pure ⟨?_, ?_⟩
  · exact Text.not_mem_replaceFirst (not_mem_pageName mark _) without.source
  · exact List.forall_mem_append.2
      ⟨without.pages, List.forall_mem_singleton.2 (lacks_pageValue lacks)⟩

theorem keeps_pickValue {names : List String} (lacks : Lacks c names) :
    (pickValue names).Keeps (.harmless banned) fun value => Lacks c value.texts := by
  refine (RandomPick.keeps_pick names).bind fun name picked => ?_
  split
  · next name => exact .pure (List.forall_mem_singleton.2 (lacks name (picked name rfl)))
  · exact .pure Script.Value.lacks_nil

/-- All of some users are without a character. -/
abbrev UsersLack (c : Char) (users : List User) : Prop :=
  ∀ user ∈ users, Lacks c user.texts

theorem lacks_names {users : List User} (lacks : UsersLack c users) :
    Lacks c (users.map (·.name)) := by
  intro name member
  obtain ⟨user, known, rfl⟩ := List.mem_map.1 member
  exact lacks user known _ (by simp [User.texts])

theorem keeps_picks (mark : IsMark c) (settings : Settings) {users online : List User}
    (inUsers : UsersLack c users) (inOnline : UsersLack c online) :
    (picks settings users online).Keeps (.harmless banned) fun value => Lacks c value.texts := by
  have eligible : ∀ users, UsersLack c users → Lacks c (RandomPick.eligible settings users) :=
    fun users lacks name member => lacks_names lacks name (List.mem_of_mem_filter member)
  have chosen : ∀ (users : List User) (flag : User → Bool), UsersLack c users →
      UsersLack c (users.filter flag) := fun users flag lacks user member =>
    lacks user (List.mem_of_mem_filter member)
  have keys : Lacks c ["follower", "online", "subscriber", "viewer"] :=
    mark.lacks (by decide)
  simp only [Lacks, List.forall_mem_cons] at keys
  obtain ⟨followerKey, onlineKey, subscriberKey, viewerKey, -⟩ := keys
  refine (keeps_pickValue (eligible _ inOnline)).bind fun onlineViewer one => ?_
  refine (keeps_pickValue (eligible _ (chosen _ _ inOnline))).bind fun onlineFollower two => ?_
  refine (keeps_pickValue (eligible _ (chosen _ _ inOnline))).bind fun onlineSubscriber three => ?_
  refine (keeps_pickValue (lacks_names inUsers)).bind fun viewer four => ?_
  refine (keeps_pickValue (lacks_names (chosen _ _ inUsers))).bind fun follower five => ?_
  refine (keeps_pickValue (lacks_names (chosen _ _ inUsers))).bind fun subscriber six => .pure ?_
  have onlinePicks : Lacks c (Script.Value.map
      [ ("follower", onlineFollower), ("subscriber", onlineSubscriber),
        ("viewer", onlineViewer) ]).texts :=
    Script.Value.lacks_map.2 (by
      simp only [List.forall_mem_cons]
      exact ⟨⟨followerKey, two⟩, ⟨subscriberKey, three⟩, ⟨viewerKey, one⟩, List.forall_mem_nil _⟩)
  refine Script.Value.lacks_map.2 ?_
  simp only [List.forall_mem_cons]
  exact ⟨⟨followerKey, five⟩, ⟨onlineKey, onlinePicks⟩, ⟨subscriberKey, six⟩,
    ⟨viewerKey, four⟩, List.forall_mem_nil _⟩

/-- The flags of a user are known by name only. -/
theorem lacks_flags (mark : IsMark c) (user : User) : Lacks c user.flags.texts :=
  mark.lacks (by simp [User.flags, Markless])

theorem lacks_toValue (mark : IsMark c) {user : User} (lacks : Lacks c user.texts) :
    Lacks c user.toValue.texts := by
  have keys : Lacks c ["is", "userId", "username"] := mark.lacks (by decide)
  simp only [Lacks, List.forall_mem_cons] at keys
  obtain ⟨isKey, idKey, nameKey, -⟩ := keys
  have id : Lacks c [user.id] := List.forall_mem_singleton.2 (lacks _ (by simp [User.texts]))
  have name : Lacks c [user.name] := List.forall_mem_singleton.2 (lacks _ (by simp [User.texts]))
  refine Script.Value.lacks_map.2 ?_
  simp only [List.forall_mem_cons]
  exact ⟨⟨isKey, lacks_flags mark user⟩, ⟨idKey, id⟩, ⟨nameKey, name⟩, List.forall_mem_nil _⟩

/-- What a script is given is without a mark, when all that was looked up for it
is. -/
theorem lacks_bindings (mark : IsMark c) (without : Context.Without c settings context)
    {prepared : Prepared} (inPrepared : prepared.Without c) {users : List User}
    (inUsers : UsersLack c users) (sender : User) {random : Script.Value}
    (inRandom : Lacks c random.texts) :
    ∀ binding ∈ prepared.pages ++
      [ ("users", .list (users.map User.toValue)), ("is", sender.flags), ("random", random),
        ("sender", .str (settings.mention context.sender.name)),
        ("param", argumentValue context) ], Lacks c binding.2.texts := by
  have known : Lacks c (Script.Value.list (users.map User.toValue)).texts := by
    refine Script.Value.lacks_list.2 fun value member => ?_
    obtain ⟨user, listed, rfl⟩ := List.mem_map.1 member
    exact lacks_toValue mark (inUsers user listed)
  have mention : Lacks c (Script.Value.str (settings.mention context.sender.name)).texts :=
    List.forall_mem_singleton.2 without.mention
  have argument : Lacks c (argumentValue context).texts := by
    rw [argumentValue]
    split
    · next text given => exact List.forall_mem_singleton.2 (without.argument text given)
    · exact Script.Value.lacks_nil
  refine List.forall_mem_append.2 ⟨inPrepared.pages, ?_⟩
  simp only [List.forall_mem_cons]
  exact ⟨known, lacks_flags mark sender, inRandom, mention, argument, List.forall_mem_nil _⟩

/-- The end of a script token, once the pages and the users have been looked up. -/
theorem keeps_script (mark : IsMark c) (without : Context.Without c settings context)
    {prepared : Prepared} (inPrepared : prepared.Without c) {users online : List User}
    (inUsers : UsersLack c users) (inOnline : UsersLack c online) (sender : User) :
    Chat.Keeps (.harmless banned) (c ∉ ·) (do
      let random ← picks settings users online
      let bindings :=
        prepared.pages ++
          [ ("users", .list (users.map User.toValue)), ("is", sender.flags), ("random", random),
            ("sender", .str (settings.mention context.sender.name)),
            ("param", argumentValue context) ]
      let dice ← Query.put .chance
      match Script.script prepared.source bindings dice with
      | .ok value => return value.chars
      | .error cause => throw (.badScript cause)) := by
  refine (Chat.Keeps.lift (keeps_picks mark settings inUsers inOnline)).bind fun random inRandom => ?_
  refine (Chat.Keeps.lift keeps_chance).bind fun dice _ => ?_
  have made := Script.script_lacks mark inPrepared.source
    (lacks_bindings mark without inPrepared inUsers sender inRandom) dice
  split
  · next value found => exact .pure (Script.Value.not_mem_chars mark value (made value found))
  · exact .throw _

theorem keeps_senderRecord (sender : Sender) :
    Chat.Keeps (.harmless banned) (fun _ => True) (senderRecord sender) := by
  have known : Chat.Keeps (.harmless banned) (fun _ => True)
      (Chat.ask (Query.put (.userNamed sender.name))) := .asks (.asks rfl)
  refine known.bind fun user _ => ?_
  split
  · exact .pure trivial
  · exact .asks (.asks rfl)

/-- **The value of a script token**, made of the script, the pages it calls for and
the users it can see. -/
theorem keeps_resolve (mark : IsMark c) (listed : c ∈ banned)
    (without : Context.Without c settings context) {token : List Char} (inToken : c ∉ token) :
    Chat.Keeps (.harmless banned) (c ∉ ·) (resolve settings context token) := by
  have inSource : c ∉ sourceOf token := fun member =>
    Text.not_mem_replaceFirst List.not_mem_nil inToken ((List.dropLast_subset _) member)
  have all : Chat.Keeps (.harmless banned) (UsersLack c) (Chat.ask (Query.put .allUsers)) :=
    .ask (.put rfl fun answer lacks users same => by
      subst same
      exact List.forall_mem_flatMap.1 (lacks c listed))
  have nobody : Chat.Keeps (.harmless banned) (UsersLack c) (pure []) := .pure nofun
  unfold resolve
  refine (keeps_prepare mark listed inSource).bind fun prepared inPrepared => ?_
  -- whether online users are looked up, and whether all users are
  split <;> split
  · exact all.bind fun users inUsers => (keeps_senderRecord _).bind fun sender _ =>
      (keeps_usersWhere listed _).bind fun online inOnline =>
        keeps_script mark without inPrepared inUsers inOnline sender
  · exact nobody.bind fun users inUsers => (keeps_senderRecord _).bind fun sender _ =>
      (keeps_usersWhere listed _).bind fun online inOnline =>
        keeps_script mark without inPrepared inUsers inOnline sender
  · exact all.bind fun users inUsers => (keeps_senderRecord _).bind fun sender _ =>
      nobody.bind fun online inOnline =>
        keeps_script mark without inPrepared inUsers inOnline sender
  · exact nobody.bind fun users inUsers => (keeps_senderRecord _).bind fun sender _ =>
      nobody.bind fun online inOnline =>
        keeps_script mark without inPrepared inUsers inOnline sender

end Scripting

end

end ChatTemplate
