/-
# ChatTemplate.Proofs.Asking -- what a message asks

A message may look up whatever it likes, but what it does it does for its sender:
it makes no user but the sender, sends and runs commands in the sender's name
only, and gives no variable another value than its argument (`Context.MayAsk`).
Only lists look at the aliases and commands of the channel.

A property of dialogues is `Compositional` when it goes from the parts of a
dialogue to the whole.  Such a property holds of every dialogue that asks only
what it may, if it holds of the single queries (`Compositional.of_asks`).

Scripts are set apart as well: they are the only tokens that make a user, and only
after looking for one of the sender's name (`Scripting.senderRecord`).  So are prices,
the only tokens that name points, and only those that the registry has told.

Main statement: `Message.holds_render`, a compositional property holds of every
message if it holds of what a message may ask and of the lists of aliases and
commands.  With `Message.holds_render_of_sender` it need not hold of making a user
by itself, if it holds of the record of the sender, and with
`Message.holds_render_of_prices` of naming points, if it holds of prices.
-/
import ChatTemplate.Message.Render
import ChatTemplate.Proofs.Exchange

namespace ChatTemplate

set_option autoImplicit false

/-! ## Asking only what one may -/

/-- Some queries may be asked, and the answers can be anything. -/
def Contract.asking (asked : Query → Prop) : Contract where
  asked := asked
  answered _ _ := True

/-- **A dialogue asks nothing but some queries**, whatever the answers. -/
abbrev Dialogue.Asks {α : Type} (asked : Query → Prop) (dialogue : Dialogue α) : Prop :=
  dialogue.Keeps (.asking asked) fun _ => True

/-- **A dialogue that can fail asks nothing but some queries**, whatever the
answers. -/
abbrev Chat.Asks {α : Type} (asked : Query → Prop) (chat : Chat α) : Prop :=
  chat.Keeps (.asking asked) fun _ => True

/-- What the answers to some queries preserve, a dialogue that asks nothing else
preserves. -/
theorem Dialogue.Keeps.run_preserves {σ α : Type} {asked : Query → Prop} {ends : α → Prop}
    {responder : Responder σ} {dialogue : Dialogue α} (holds : σ → Prop)
    (step : ∀ query state, asked query → holds state → holds (responder query state).2)
    (asks : dialogue.Keeps (.asking asked) ends) {state : σ} (start : holds state) :
    holds (dialogue.run responder state).2 := by
  induction dialogue generalizing state with
  | done result => exact start
  | ask query rest ih => exact ih _ (asks.2 _ trivial) (step query state asks.1 start)

/-- Who asks only some queries asks only these and others. -/
theorem Dialogue.Keeps.widen {α : Type} {asked more : Query → Prop} {ends : α → Prop}
    {dialogue : Dialogue α} (asks : dialogue.Keeps (.asking asked) ends)
    (wider : ∀ query, asked query → more query) : dialogue.Keeps (.asking more) ends := by
  induction dialogue with
  | done result => exact asks
  | ask query rest ih => exact ⟨wider _ asks.1, fun answer _ => ih answer (asks.2 answer trivial)⟩

/-- What holds of a dialogue's queries in each of several ways holds of them in all. -/
theorem Dialogue.Asks.forall {ι α : Type} {asked : ι → Query → Prop} {dialogue : Dialogue α}
    (each : ∀ i, dialogue.Asks (asked i)) : dialogue.Asks fun query => ∀ i, asked i query := by
  induction dialogue with
  | done result => trivial
  | ask query rest ih =>
      exact ⟨fun i => (each i).1, fun answer _ => ih answer fun i => (each i).2 answer trivial⟩

namespace Chat.Asks

variable {asked : Query → Prop} {α β : Type}

/-- Working through a list, each item with what the one before it made. -/
theorem foldlM {step : β → α → Chat β} {items : List α}
    (each : ∀ value item, (step value item).Asks asked) (value : β) :
    Chat.Asks asked (items.foldlM step value) :=
  (Chat.Keeps.sequential _).foldlM (fun item _ value _ => each value item) trivial

theorem mapM {f : α → Chat β} {items : List α} (each : ∀ item, (f item).Asks asked) :
    Chat.Asks asked (items.mapM f) :=
  Chat.Keeps.mono ((Chat.Keeps.sequential _).mapM fun item _ => each item) fun _ _ => trivial

end Chat.Asks

/-! ## Properties of the parts and of the whole -/

/-- **A property that goes from the parts of a dialogue to the whole.** -/
structure Compositional (holds : {α : Type} → Dialogue α → Prop) : Prop where
  pure {α : Type} (result : α) : holds (Pure.pure result : Dialogue α)
  bind {α β : Type} {first : Dialogue α} {next : α → Dialogue β} :
    holds first → (∀ result, holds (next result)) → holds (first >>= next)

theorem Dialogue.Asks.compositional (asked : Query → Prop) :
    Compositional fun dialogue => Dialogue.Asks asked dialogue where
  pure _ := trivial
  bind one two := one.bind fun result _ => two result

namespace Compositional

variable {holds : {α : Type} → Dialogue α → Prop} {α β : Type}

theorem foldlM (rules : Compositional holds) {step : β → α → Dialogue β} {items : List α}
    (each : ∀ item ∈ items, ∀ value, holds (step value item)) (value : β) :
    holds (items.foldlM step value) := by
  induction items generalizing value with
  | nil => exact rules.pure value
  | cons item items ih =>
      obtain ⟨here, later⟩ := List.forall_mem_cons.1 each
      rw [List.foldlM_cons]
      exact rules.bind (here value) fun next => ih later next

/-- The parts of a dialogue that can fail; after a failure there is nothing more. -/
theorem attempt_bind (rules : Compositional holds) {first : Chat α} {next : α → Chat β}
    (one : holds (Chat.attempt first)) (two : ∀ result, holds (Chat.attempt (next result))) :
    holds (Chat.attempt (first >>= next)) := by
  refine rules.bind one fun outcome => ?_
  cases outcome with
  | ok result => exact two result
  | error cause => exact rules.pure _

theorem attempt_map (rules : Compositional holds) {chat : Chat α} {f : α → β}
    (one : holds (Chat.attempt chat)) : holds (Chat.attempt (f <$> chat)) := by
  rw [map_eq_pure_bind]
  exact rules.attempt_bind one fun result => rules.pure _

/-- **What holds of some queries holds of a dialogue that asks nothing else.** -/
theorem of_asks {asked : Query → Prop} {ends : α → Prop} {dialogue : Dialogue α}
    (rules : Compositional holds) (each : ∀ query, asked query → holds (Query.put query))
    (asks : dialogue.Keeps (.asking asked) ends) : holds dialogue := by
  induction dialogue with
  | done result => exact rules.pure result
  | ask query next ih =>
      have later : ∀ answer, holds (next answer) := fun answer => ih answer (asks.2 answer trivial)
      exact rules.bind (each query asks.1) later

end Compositional

/-! ## What a message may ask -/

/-- **What a message may ask**: to look up anything but aliases and commands, and to
do something for its sender. -/
def Context.MayAsk (context : Context) : Query → Prop
  | .createUser id name => id = context.sender.id ∧ name = context.sender.name
  | .dispatch sender _ options => sender = context.sender ∧ options.skipChecks = true
  | .writeVariable _ value => context.given? = some value
  | .send _ sender quiet => sender = context.sender ∧ quiet = context.quiet
  | .aliases | .commands => False
  | _ => True

/-- **What a message may ask elsewhere** than for the record of its sender: the same,
but it makes no user. -/
def Context.MayAskElsewhere (context : Context) : Query → Prop
  | .createUser _ _ => False
  | query => context.MayAsk query

/-- **What a message may ask where it names no points**: the same, but not how an amount of
points is called.  Only prices are named. -/
def Context.MayAskUnlabelled (context : Context) : Query → Prop
  | .pointsLabel _ => False
  | query => context.MayAskElsewhere query

/-- **What a message may ask unheard**: the same, quiet or not, so that it sends no line. -/
def Context.MayAskUnheard (context : Context) (query : Query) : Prop :=
  ∀ quiet, { context with quiet }.MayAskUnlabelled query

variable {context : Context}

theorem Context.MayAskUnlabelled.elsewhere {query : Query}
    (permitted : context.MayAskUnlabelled query) : context.MayAskElsewhere query := by
  cases query with
  | pointsLabel amount => exact permitted.elim
  | _ => exact permitted

/-- What does not depend on the context is not heard. -/
theorem Dialogue.Asks.unheard {α : Type} {dialogue : Dialogue α}
    (each : ∀ context : Context, dialogue.Asks context.MayAskUnlabelled) :
    dialogue.Asks context.MayAskUnheard :=
  .forall fun _ => each _

theorem Context.MayAskElsewhere.mayAsk {query : Query} (permitted : context.MayAskElsewhere query) :
    context.MayAsk query := by
  cases query with
  | createUser id name => exact permitted.elim
  | _ => exact permitted

theorem Context.MayAskUnlabelled.mayAsk {query : Query}
    (permitted : context.MayAskUnlabelled query) : context.MayAsk query :=
  permitted.elsewhere.mayAsk

theorem asks_stats : Chat.Asks context.MayAskUnlabelled (Chat.ask (Query.put .stats)) :=
  .asks (.asks trivial)

theorem asks_usersWhere (filter : UserFilter) :
    Chat.Asks context.MayAskUnlabelled (Chat.ask (Query.put (.usersWhere filter))) :=
  .asks (.asks trivial)

theorem asks_readVariable (name : String) :
    Chat.Asks context.MayAskUnlabelled (Chat.ask (Query.put (.readVariable name))) :=
  .asks (.asks trivial)

theorem asks_phrase (key : String) : (Query.put (.phrase key)).Asks context.MayAskUnlabelled :=
  .asks trivial

theorem asks_chance : (Query.put .chance).Asks context.MayAskUnlabelled :=
  .asks trivial

/-! ## The stream, prices and tips -/

namespace Information

theorem asks_price (settings : Settings) :
    (price settings context).Asks context.MayAskElsewhere := by
  have labelled : ∀ amount, Chat.Asks context.MayAskElsewhere (do
      let label ← Chat.ask (Query.put (.pointsLabel amount))
      return (Text.int64Text amount ++ " " ++ label).toList) := by
    intro amount
    have label : (Chat.ask (Query.put (.pointsLabel amount))).Asks context.MayAskElsewhere :=
      .asks (.asks trivial)
    exact label.bind fun _ _ => .pure trivial
  have prices : (Chat.ask (Query.put .prices)).Asks context.MayAskElsewhere := .asks (.asks trivial)
  unfold price
  split
  · split
    · exact prices.bind fun _ _ => labelled _
    · exact labelled 0
  · exact labelled 0

theorem asks_game : game.Asks context.MayAskUnlabelled :=
  asks_stats.bind fun _ _ => .pure trivial

theorem asks_status : status.Asks context.MayAskUnlabelled :=
  asks_stats.bind fun _ _ => .pure trivial

theorem asks_rankedTips (settings : Settings) :
    (rankedTips settings).Asks context.MayAskUnlabelled := by
  have tips : (Chat.ask (Query.put (.eventsOf "tip"))).Asks context.MayAskUnlabelled :=
    .asks (.asks trivial)
  have converted : ∀ tip, (convertTip settings tip).Asks context.MayAskUnlabelled := by
    intro tip
    have rate : ∀ amount source target,
        (Chat.ask (Query.put (.convert amount source target))).Asks context.MayAskUnlabelled :=
      fun _ _ _ => .asks (.asks trivial)
    exact (rate _ _ _).bind fun _ _ => .pure trivial
  exact tips.bind fun _ _ => (Chat.Asks.mapM converted).bind fun _ _ => .pure trivial

/-- The field of the first of some tips, if there is one. -/
theorem asks_headField (field : String) (tips : List RankedTip) : Chat.Asks context.MayAskUnlabelled
    (match tips.head? with
      | some ranked => return (tipField field ranked.tip).toList
      | none => return []) := by
  split <;> exact .pure trivial

theorem asks_topTip (settings : Settings) (token : List Char) :
    (topTip settings token).Asks context.MayAskUnlabelled := by
  have ofStream : ∀ tips, (tipsOfStream tips).Asks context.MayAskUnlabelled := by
    intro tips
    refine asks_stats.bind fun stats _ => ?_
    split
    · split <;> exact .pure trivial
    · exact .pure trivial
  unfold topTip
  split
  · exact .pure trivial
  · refine (asks_rankedTips settings).bind fun tips _ => ?_
    split
    · exact (ofStream tips).bind fun tips _ => asks_headField _ tips
    · exact asks_headField _ tips

end Information

/-! ## Picks, conditions and arithmetic -/

namespace RandomPick

theorem asks_pick (names : List String) : (pick names).Asks context.MayAskUnlabelled :=
  asks_chance.bind fun _ _ => .pure trivial

theorem asks_viewer (settings : Settings) (online : Bool) (pool : Pool) :
    (viewer settings online pool).Asks context.MayAskUnlabelled :=
  (asks_usersWhere _).bind fun _ _ => (Chat.Keeps.lift (asks_pick _)).bind fun _ _ => .pure trivial

theorem asks_number (token : List Char) : (number context token).Asks context.MayAskUnlabelled := by
  unfold number
  dsimp only
  split
  · exact asks_chance.bind fun _ _ => .pure trivial
  · exact .pure trivial

theorem asks_coin : coin.Asks context.MayAskUnlabelled :=
  asks_chance.bind fun _ _ => .pure trivial

end RandomPick

theorem Condition.asks_resolve (token : List Char) :
    (resolve context token).Asks context.MayAskUnlabelled := by
  unfold resolve
  split
  · dsimp only
    split
    · exact .pure trivial
    · refine asks_chance.bind fun dice _ => ?_
      split <;> exact .pure trivial
  · exact .pure trivial

theorem Calculation.asks_resolve (token : List Char) :
    (resolve token).Asks context.MayAskUnlabelled := by
  have put : ∀ source name, (putValue source name).Asks context.MayAskUnlabelled := fun _ _ =>
    (asks_readVariable _).bind fun _ _ => .pure trivial
  refine (Chat.Asks.foldlM put _).bind fun source _ => ?_
  refine (Chat.Keeps.lift asks_chance).bind fun dice _ => ?_
  split
  · exact .pure trivial
  · exact .throw _

/-! ## Custom variables and commands -/

namespace VariableToken

theorem asks_respond (name : String) (outcome : SetOutcome) :
    (respond context name outcome).Asks context.MayAskUnlabelled := by
  have sent : ∀ line, (Chat.ask (Query.put (.send line context.sender context.quiet))).Asks
      context.MayAskUnlabelled := fun _ => .asks (.asks ⟨rfl, rfl⟩)
  unfold respond
  split
  · split
    · exact (Chat.Keeps.lift (asks_phrase _)).bind fun _ _ => (sent _).bind fun _ _ =>
        .pure trivial
    · exact .pure trivial
  · exact (sent _).bind fun _ _ => .pure trivial
  · exact .pure trivial

/-- A variable is set to the argument of the message. -/
theorem asks_resolve (mode : VariableMode) (token : List Char) :
    (resolve context mode token).Asks context.MayAskUnlabelled := by
  unfold resolve
  dsimp only
  split
  · next value given =>
      have written : (Chat.ask (Query.put (.writeVariable (nameOf token) value))).Asks
          context.MayAskUnlabelled := .asks (.asks given)
      refine written.bind fun outcome _ => ?_
      split
      · exact asks_respond _ outcome
      · exact .pure trivial
      · exact .pure trivial
  · split
    · exact .pure trivial
    · exact (asks_readVariable _).bind fun _ _ => .pure trivial

end VariableToken

namespace Commands

theorem asks_usageText (command : String) : (usageText command).Asks context.MayAskUnlabelled := by
  have used : (Chat.ask (Query.put (.usageOf command))).Asks context.MayAskUnlabelled :=
    .asks (.asks trivial)
  exact used.bind fun _ _ => .pure trivial

theorem asks_usageOf (token : List Char) : (usageOf token).Asks context.MayAskUnlabelled := by
  unfold usageOf
  split
  · exact asks_usageText _
  · exact .pure trivial

theorem asks_usage : (usage context).Asks context.MayAskUnlabelled := by
  unfold usage
  split
  · exact asks_usageText _
  · exact .pure trivial

/-- Commands are run in the sender's name. -/
theorem asks_dispatch (settings : Settings) (token : List Char) (quiet : Bool) :
    (dispatch settings context token quiet).Asks context.MayAskUnlabelled := by
  have run : ∀ line, (Query.put (.dispatch context.sender line { skipChecks := true, quiet })).Asks
      context.MayAskUnlabelled := fun _ => .asks ⟨rfl, rfl⟩
  exact (run _).bind fun _ _ => .pure trivial

end Commands

/-! ## Pages and picks of scripts -/

namespace Scripting

theorem asks_fetchCall (prepared : Prepared) (call : List Char) :
    (fetchCall prepared call).Asks context.MayAskUnlabelled := by
  have fetched : ∀ address,
      (Chat.ask (Query.put (.fetch address []))).Asks context.MayAskUnlabelled :=
    fun _ => .asks (.asks trivial)
  exact (Chat.Keeps.lift asks_chance).bind fun _ _ => (fetched _).bind fun _ _ => .pure trivial

theorem asks_picks (settings : Settings) (users online : List User) :
    (picks settings users online).Asks context.MayAskUnlabelled := by
  have picked : ∀ names, (pickValue names).Asks context.MayAskUnlabelled := by
    intro names
    refine (RandomPick.asks_pick names).bind fun name _ => ?_
    split <;> exact .pure trivial
  exact (picked _).bind fun _ _ => (picked _).bind fun _ _ => (picked _).bind fun _ _ =>
    (picked _).bind fun _ _ => (picked _).bind fun _ _ => (picked _).bind fun _ _ => .pure trivial

end Scripting

/-! ## Placeholders, streams and pages -/

theorem Channel.asks_load (placeholders : List Placeholder) :
    (load placeholders).Asks context.MayAskUnlabelled := by
  have stats : (Query.put .stats).Asks context.MayAskUnlabelled := .asks trivial
  have latest : ∀ needed kinds, (latestIf needed kinds).Asks context.MayAskUnlabelled := by
    intro needed kinds
    have event : (Query.put (.latestEvent kinds)).Asks context.MayAskUnlabelled := .asks trivial
    unfold latestIf
    split
    · refine event.bind fun answer _ => ?_
      split <;> exact .pure trivial
    · exact .pure trivial
  refine stats.bind fun answer _ => ?_
  split <;>
    exact (latest _ _).bind fun _ _ => (latest _ _).bind fun _ _ => (latest _ _).bind fun _ _ =>
      (latest _ _).bind fun _ _ => .pure trivial

namespace Placeholder

theorem asks_fillingOf (settings : Settings) (escape : String) (channel : Channel)
    (placeholder : Placeholder) :
    (fillingOf settings escape channel placeholder).Asks context.MayAskUnlabelled := by
  have shown : (placeholder.value settings escape channel).Asks context.MayAskUnlabelled := by
    -- only songs ask: for the phrase that is shown when none is played
    cases placeholder with
    | song =>
        simp only [value]
        split
        · split
          · exact .pure trivial
          · exact asks_phrase _
        · exact asks_phrase _
    | songRequest =>
        simp only [value]
        split
        · split
          · exact .pure trivial
          · exact asks_phrase _
        · exact asks_phrase _
    | _ => exact .pure trivial
  exact shown.bind fun _ _ => .pure trivial

theorem asks_apply (settings : Settings) (escape : String) (text : List Char) :
    (apply settings escape text).Asks context.MayAskUnlabelled := by
  unfold apply
  dsimp only
  split
  · exact .pure trivial
  · refine (Channel.asks_load _).bind fun channel _ => ?_
    have filled : ∀ placeholder ∈ present text,
        (fillingOf settings escape channel placeholder).Asks context.MayAskUnlabelled :=
      fun placeholder _ => asks_fillingOf settings escape channel placeholder
    exact ((Dialogue.Keeps.sequential _).mapM filled).bind fun _ _ => .pure trivial

end Placeholder

namespace StreamLookup

theorem asks_requestEntry (credentials : Credentials) (path : String) :
    (requestEntry credentials path).Asks context.MayAskUnlabelled := by
  have fetched : ∀ address headers,
      (Chat.ask (Query.put (.fetch address headers))).Asks context.MayAskUnlabelled :=
    fun _ _ => .asks (.asks trivial)
  have requested : ∀ address, (request credentials address).Asks context.MayAskUnlabelled := by
    intro address
    unfold request
    refine (fetched _ _).bind fun reply _ => ?_
    dsimp only
    split
    · exact Gives.error
    · split
      · exact .pure trivial
      · exact .throw _
  refine (requested _).bind fun json _ => ?_
  unfold firstEntry
  split
  · exact .pure trivial
  · exact .throw _

theorem asks_textField (entry : Json) (name : String) :
    (textField entry name).Asks context.MayAskUnlabelled := by
  unfold textField
  split
  · exact .pure trivial
  · exact .throw _

theorem asks_lookUp (channel : List Char) (field : StreamField) :
    (lookUp channel field).Asks context.MayAskUnlabelled := by
  have known : (Chat.ask (Query.put .credentials)).Asks context.MayAskUnlabelled :=
    .asks (.asks trivial)
  unfold lookUp
  refine known.bind fun credentials _ => ?_
  cases credentials with
  | none => exact .throw _
  | some credentials =>
      dsimp only
      split
      · exact Gives.error
      · refine (asks_requestEntry credentials _).bind fun user _ => ?_
        refine (asks_textField user "id").bind fun userId _ => ?_
        refine (asks_requestEntry credentials _).bind fun stream _ => ?_
        cases field with
        | title => exact (asks_textField stream "title").bind fun _ _ => .pure trivial
        | viewers => exact .pure trivial
        | game =>
            refine (asks_textField stream "game_id").bind fun gameId _ => ?_
            refine (asks_requestEntry credentials _).bind fun game _ => ?_
            exact (asks_textField game "name").bind fun _ _ => .pure trivial

theorem asks_resolve (field : StreamField) (token : List Char) :
    (resolve field token).Asks context.MayAskUnlabelled := by
  refine Dialogue.Keeps.bind (asks_lookUp (channelOf field token) field) fun outcome _ => ?_
  split <;> exact .pure trivial

end StreamLookup

namespace Page

theorem asks_putPage (reply : WebReply) (text : List Char) :
    (putPage reply text).Asks context.MayAskUnlabelled := by
  have part : ∀ json text token, (putPart json text token).Asks context.MayAskUnlabelled := by
    intro json text token
    unfold putPart
    split
    · exact .pure trivial
    · exact (asks_phrase _).bind fun _ _ => .pure trivial
  unfold putPage
  dsimp only
  split
  · exact .pure trivial
  · exact (Dialogue.Keeps.sequential _).foldlM (fun token _ text _ => part _ text token) trivial

theorem asks_apply (text : List Char) : (apply text).Asks context.MayAskUnlabelled := by
  have note : errorNote.Asks context.MayAskUnlabelled :=
    (asks_phrase _).bind fun _ _ => .pure trivial
  have fetched : ∀ address, (Query.put (.fetch address [])).Asks context.MayAskUnlabelled :=
    fun _ => .asks trivial
  unfold apply
  split
  · exact .pure trivial
  · refine (fetched _).bind fun answer _ => ?_
    split
    · exact note
    · split
      · exact asks_putPage _ _
      · exact note

end Page

/-! ## Lists -/

section

variable {holds : {α : Type} → Dialogue α → Prop}

namespace Listing

theorem asks_ofGroup (entries : List CommandEntry) (group : String) :
    (ofGroup entries group).Asks context.MayAskUnlabelled := by
  have asked : (Chat.ask (Query.put (.permission group))).Asks context.MayAskUnlabelled :=
    .asks (.asks trivial)
  refine asked.bind fun id _ => ?_
  split <;> exact .pure trivial

theorem asks_cooldowns : cooldowns.Asks context.MayAskUnlabelled := by
  have asked : (Chat.ask (Query.put .cooldowns)).Asks context.MayAskUnlabelled :=
    .asks (.asks trivial)
  exact asked.bind fun _ _ => .pure trivial

theorem asks_prices : prices.Asks context.MayAskElsewhere := by
  have asked : (Chat.ask (Query.put .prices)).Asks context.MayAskElsewhere := .asks (.asks trivial)
  have priced : ∀ entry, (priceText entry).Asks context.MayAskElsewhere := by
    intro entry
    have label : (Chat.ask (Query.put (.pointsLabel entry.price))).Asks context.MayAskElsewhere :=
      .asks (.asks trivial)
    exact label.bind fun _ _ => .pure trivial
  exact asked.bind fun _ _ => Chat.Asks.mapM priced

theorem asks_ranks : ranks.Asks context.MayAskUnlabelled := by
  have asked : (Chat.ask (Query.put .ranks)).Asks context.MayAskUnlabelled := .asks (.asks trivial)
  exact asked.bind fun _ _ => .pure trivial

/-- What holds of looking at the aliases holds of their list. -/
theorem holds_aliases (rules : Compositional holds) (asked : holds (Query.put .aliases))
    (marked : Bool) : holds (Chat.attempt (aliases marked)) :=
  rules.attempt_bind asked fun _ => rules.pure _

/-- What holds of looking at the commands holds of their list. -/
theorem holds_commands (rules : Compositional holds)
    (each : ∀ query, context.MayAskUnlabelled query → holds (Query.put query))
    (asked : holds (Query.put .commands)) (marked : Bool) (group : Option String) :
    holds (Chat.attempt (commands marked group)) := by
  refine rules.attempt_bind asked fun entries => ?_
  cases group with
  | none => exact rules.pure _
  | some group =>
      have chosen : ∀ entries, holds (Chat.attempt (ofGroup entries group)) :=
        fun entries => rules.of_asks each (asks_ofGroup entries group)
      exact rules.attempt_bind (chosen _) fun _ => rules.pure _

/-- Only lists of prices, of aliases and of commands ask more than other tokens. -/
theorem holds_resolve (rules : Compositional holds)
    (each : ∀ query, context.MayAskUnlabelled query → holds (Query.put query))
    (ofPrices : holds (Chat.attempt prices))
    (ofAliases : ∀ marked, holds (Chat.attempt (aliases marked)))
    (ofCommands : ∀ marked group, holds (Chat.attempt (commands marked group)))
    (token : List Char) : holds (Chat.attempt (resolve token)) := by
  unfold resolve
  dsimp only
  split
  · exact rules.attempt_map (ofAliases _)
  · exact rules.attempt_map (ofAliases _)
  · exact rules.attempt_map (ofCommands _ _)
  · exact rules.attempt_map (ofCommands _ _)
  · exact rules.attempt_map (rules.of_asks each asks_cooldowns)
  · exact rules.attempt_map ofPrices
  · exact rules.attempt_map (rules.of_asks each asks_ranks)
  · exact rules.pure _

end Listing

/-! ## Scripts -/

namespace Scripting

/-- The record that is made for a sender who has none is the sender's. -/
theorem asks_senderRecord : (senderRecord context.sender).Asks context.MayAsk := by
  have known : (Chat.ask (Query.put (.userNamed context.sender.name))).Asks context.MayAsk :=
    .asks (.asks trivial)
  refine known.bind fun user _ => ?_
  split
  · exact .pure trivial
  · exact .asks (.asks ⟨rfl, rfl⟩)

variable (rules : Compositional holds)
  (each : ∀ query, context.MayAskUnlabelled query → holds (Query.put query))
  (ofSender : holds (Chat.attempt (senderRecord context.sender)))
include rules each ofSender

/-- A script token once its pages are fetched, whatever is done to know all users and
the users online. -/
theorem holds_script (settings : Settings) (prepared : Prepared) {all some : Chat (List User)}
    (ofAll : holds (Chat.attempt all)) (ofSome : holds (Chat.attempt some)) :
    holds (Chat.attempt (do
      let users ← all
      let sender ← senderRecord context.sender
      let online ← some
      let random ← picks settings users online
      let bindings :=
        prepared.pages ++
          [ ("users", .list (users.map User.toValue)), ("is", sender.flags), ("random", random),
            ("sender", .str (settings.mention context.sender.name)),
            ("param", argumentValue context) ]
      let dice ← Query.put .chance
      match Script.script prepared.source bindings dice with
      | .ok value => return value.chars
      | .error cause => throw (.badScript cause))) := by
  refine rules.attempt_bind ofAll fun users => rules.attempt_bind ofSender fun sender => ?_
  refine rules.attempt_bind ofSome fun online => ?_
  have picked : (liftM (picks settings users online) : Chat Script.Value).Asks
      context.MayAskUnlabelled := .lift (asks_picks settings users online)
  have chance : (liftM (Query.put .chance) : Chat Dice).Asks context.MayAskUnlabelled :=
    .lift asks_chance
  refine rules.attempt_bind (rules.of_asks each picked) fun random => ?_
  refine rules.attempt_bind (rules.of_asks each chance) fun dice => ?_
  split <;> exact rules.pure _

/-- Only the record of the sender asks more than other tokens. -/
theorem holds_resolve (settings : Settings) (token : List Char) :
    holds (Chat.attempt (resolve settings context token)) := by
  have prepared : (prepare (sourceOf token)).Asks context.MayAskUnlabelled :=
    Chat.Asks.foldlM asks_fetchCall _
  have everybody : holds (Chat.attempt (Chat.ask (Query.put .allUsers))) :=
    each _ trivial
  have nobody : holds (Chat.attempt (pure [] : Chat (List User))) := rules.pure _
  have present : holds (Chat.attempt (Chat.ask (Query.put (.usersWhere { online := true })))) :=
    each _ trivial
  unfold resolve
  refine rules.attempt_bind (rules.of_asks each prepared) fun prepared => ?_
  -- whether online users are looked up, and whether all users are
  split <;> split
  · exact holds_script rules each ofSender settings prepared everybody present
  · exact holds_script rules each ofSender settings prepared nobody present
  · exact holds_script rules each ofSender settings prepared everybody nobody
  · exact holds_script rules each ofSender settings prepared nobody nobody

end Scripting

/-! ## Messages -/

/-- The tokens that a stage resolves. -/
def Stage.tokens : Stage → List Token
  | .pass _ _ rules => rules.map Rule.token
  | _ => []

namespace Message

/-- **What a token asks**, unless it is a price, a list or a script. -/
theorem asks_resolve (settings : Settings) {token : Token} (unpriced : token ≠ .price)
    (unlisted : token ≠ .list) (unscripted : token ≠ .script) (matched : List Char) :
    (resolve settings context token matched).Asks context.MayAskUnlabelled := by
  cases token with
  | price => exact absurd rfl unpriced
  | topTip => exact Information.asks_topTip settings matched
  | game => exact Information.asks_game
  | status => exact Information.asks_status
  | randomUser online pool => exact RandomPick.asks_viewer settings online pool
  | randomNumber => exact .lift (RandomPick.asks_number matched)
  | trueOrFalse => exact .lift RandomPick.asks_coin
  | condition => exact .lift (Condition.asks_resolve matched)
  | customVariable mode => exact VariableToken.asks_resolve mode matched
  | script => exact absurd rfl unscripted
  | toUser => exact .pure trivial
  | argument => exact .pure trivial
  | argumentOrNone => exact .pure trivial
  | arithmetic => exact Calculation.asks_resolve matched
  | usageOf => exact Commands.asks_usageOf matched
  | usage => exact Commands.asks_usage
  | dispatch quiet => exact .lift (Commands.asks_dispatch settings matched quiet)
  | query => exact .pure trivial
  | address => exact .pure trivial
  | list => exact absurd rfl unlisted
  | stream field => exact .lift (StreamLookup.asks_resolve field matched)

theorem asks_isOpen (gate : Gate) : (isOpen gate).Asks context.MayAskUnlabelled := by
  have stats : (Query.put .stats).Asks context.MayAskUnlabelled := .asks trivial
  refine stats.bind fun answer _ => ?_
  split
  · cases gate <;> exact .pure trivial
  · exact .pure trivial

variable (rules : Compositional holds)
include rules

/-- Prices, lists and scripts ask more than other tokens: what holds of these holds of every
token. -/
theorem holds_resolve_of_prices (settings : Settings) (context : Context)
    (each : ∀ query, context.MayAskUnlabelled query → holds (Query.put query))
    (ofPrice : holds (Chat.attempt (Information.price settings context)))
    (ofPrices : holds (Chat.attempt Listing.prices))
    (ofSender : holds (Chat.attempt (Scripting.senderRecord context.sender)))
    (ofAliases : ∀ marked, holds (Chat.attempt (Listing.aliases marked)))
    (ofCommands : ∀ marked group, holds (Chat.attempt (Listing.commands marked group)))
    (token : Token) (matched : List Char) :
    holds (Chat.attempt (resolve settings context token matched)) := by
  by_cases priced : token = .price
  · subst priced
    exact ofPrice
  by_cases listed : token = .list
  · subst listed
    exact Listing.holds_resolve rules each ofPrices ofAliases ofCommands matched
  by_cases scripted : token = .script
  · subst scripted
    exact Scripting.holds_resolve rules each ofSender settings matched
  · exact rules.of_asks each (asks_resolve settings priced listed scripted matched)

/-- The same, where what holds of all that a message may ask elsewhere holds of prices. -/
theorem holds_resolve (settings : Settings) (context : Context)
    (each : ∀ query, context.MayAskElsewhere query → holds (Query.put query))
    (ofSender : holds (Chat.attempt (Scripting.senderRecord context.sender)))
    (ofAliases : ∀ marked, holds (Chat.attempt (Listing.aliases marked)))
    (ofCommands : ∀ marked group, holds (Chat.attempt (Listing.commands marked group)))
    (token : Token) (matched : List Char) :
    holds (Chat.attempt (resolve settings context token matched)) :=
  holds_resolve_of_prices rules settings context
    (fun query permitted => each query permitted.elsewhere)
    (rules.of_asks each (Information.asks_price settings)) (rules.of_asks each Listing.asks_prices)
    ofSender ofAliases ofCommands token matched

/-- A rule resolves its token, once for each match. -/
theorem holds_runRule (settings : Settings) {rule : Rule Token}
    (resolved : ∀ matched, holds (Chat.attempt (resolve settings context rule.token matched)))
    (policy : Policy) (text : List Char) :
    holds (runRule settings context policy text rule) :=
  rules.foldlM (fun matched _ _ => rules.bind (resolved matched) fun _ => rules.pure _) text

/-- **A stage is made of its tokens**, and apart from these nothing in it is heard and no points
are named. -/
theorem holds_runStage (settings : Settings) (context : Context)
    (each : ∀ query, context.MayAskUnheard query → holds (Query.put query)) {stage : Stage}
    (resolved : ∀ token ∈ stage.tokens, ∀ matched,
      holds (Chat.attempt (resolve settings context token matched)))
    (text : List Char) : holds (runStage settings context text stage) := by
  cases stage with
  | placeholders =>
      exact rules.of_asks each
        (Dialogue.Asks.unheard fun _ => Placeholder.asks_apply settings "" text)
  | attributes => exact rules.pure _
  | pass name policy passRules =>
      show holds (runPass settings context policy passRules text)
      unfold runPass
      split
      · exact rules.pure _
      · exact rules.foldlM (fun rule member => holds_runRule rules settings
          (resolved rule.token (List.mem_map_of_mem member)) policy) text
  | gates name gateRules =>
      have one : ∀ gate text matched, holds (runGateMatch gate text matched) := by
        intro gate text matched
        have opened := rules.of_asks each (Dialogue.Asks.unheard fun _ => asks_isOpen gate)
        refine rules.bind opened fun opened => ?_
        split <;> exact rules.pure _
      show holds (runGates gateRules text)
      unfold runGates
      split
      · exact rules.pure _
      · exact rules.foldlM (fun rule _ text =>
          rules.foldlM (fun matched _ text => one rule.token text matched) text) text
  | page =>
      show holds (runPage text)
      unfold runPage
      split
      · exact rules.pure _
      · exact rules.of_asks each (Dialogue.Asks.unheard fun _ => Page.asks_apply text)

/-- **What holds of the parts of a message holds of the message**: of what it may ask
where it names no points, of prices, of the record of its sender and of the lists of
aliases and commands. -/
theorem holds_render_of_prices (settings : Settings) (context : Context)
    (each : ∀ query, context.MayAskUnlabelled query → holds (Query.put query))
    (ofPrice : holds (Chat.attempt (Information.price settings context)))
    (ofPrices : holds (Chat.attempt Listing.prices))
    (ofSender : holds (Chat.attempt (Scripting.senderRecord context.sender)))
    (ofAliases : ∀ marked, holds (Chat.attempt (Listing.aliases marked)))
    (ofCommands : ∀ marked group, holds (Chat.attempt (Listing.commands marked group)))
    (text : List Char) : holds (render settings context text) := by
  have resolved := holds_resolve_of_prices rules settings context each ofPrice ofPrices ofSender
    ofAliases ofCommands
  exact rules.foldlM (fun stage _ => holds_runStage rules settings context
    (fun query unheard => each query (unheard context.quiet)) fun token _ => resolved token) _

/-- The same, where what holds of all that a message may ask elsewhere than for the record of
its sender holds of prices. -/
theorem holds_render_of_sender (settings : Settings) (context : Context)
    (each : ∀ query, context.MayAskElsewhere query → holds (Query.put query))
    (ofSender : holds (Chat.attempt (Scripting.senderRecord context.sender)))
    (ofAliases : ∀ marked, holds (Chat.attempt (Listing.aliases marked)))
    (ofCommands : ∀ marked group, holds (Chat.attempt (Listing.commands marked group)))
    (text : List Char) : holds (render settings context text) :=
  holds_render_of_prices rules settings context
    (fun query permitted => each query permitted.elsewhere)
    (rules.of_asks each (Information.asks_price settings)) (rules.of_asks each Listing.asks_prices)
    ofSender ofAliases ofCommands text

/-- The same, where what holds of all that a message may ask holds of the record. -/
theorem holds_render (settings : Settings) (context : Context)
    (each : ∀ query, context.MayAsk query → holds (Query.put query))
    (ofAliases : ∀ marked, holds (Chat.attempt (Listing.aliases marked)))
    (ofCommands : ∀ marked group, holds (Chat.attempt (Listing.commands marked group)))
    (text : List Char) : holds (render settings context text) :=
  holds_render_of_sender rules settings context (fun query permitted => each query permitted.mayAsk)
    (rules.of_asks each Scripting.asks_senderRecord) ofAliases ofCommands text

end Message

end

end ChatTemplate
