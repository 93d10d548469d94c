/-
# ChatTemplate.Message.Information -- prices, tips and the stream itself

`(price)`, `(game)`, `(status)` and the highest tip, in `$toptip.overall.amount`
and its variants.  Tips are compared in the channel's main currency but shown in
their own.
-/
import ChatTemplate.Decimal.Layout
import ChatTemplate.Dialogue
import ChatTemplate.Message.Context
import ChatTemplate.Settings

namespace ChatTemplate.Information

set_option autoImplicit false

/-- The price of a command, zero for one without an enabled price. -/
def priceOf (command : String) (prices : List PriceEntry) : Int64 :=
  match prices.find? fun entry => entry.enabled && entry.command == command with
  | some entry => entry.price
  | none => 0

/-- The price of the command that is being answered, with the name of points. -/
def price (settings : Settings) (context : Context) : Chat (List Char) := do
  let amount ←
    match context.command with
    | some command =>
        if settings.pricesEnabled then do
          let prices ← Chat.ask (Query.put .prices)
          pure (priceOf command prices)
        else pure 0
    | none => pure 0
  let label ← Chat.ask (Query.put (.pointsLabel amount))
  return (Text.int64Text amount ++ " " ++ label).toList

/-- The text, or what stands for an unknown one. -/
def known (text : Option String) : List Char :=
  ((text.filter fun text => !text.isEmpty).getD "n/a").toList

def game : Chat (List Char) := do
  let stats ← Chat.ask (Query.put .stats)
  return known stats.game

def status : Chat (List Char) := do
  let stats ← Chat.ask (Query.put .stats)
  return known stats.title

/-! ## Tips -/

/-- Inserts an item behind those that it need not come before, looking from the
end. -/
def insertRanked {α : Type} (comesBefore : α → α → Bool) (ranked : List α) (item : α) :
    List α :=
  let back := ranked.reverse
  let passed := back.takeWhile (comesBefore item)
  (back.dropWhile (comesBefore item)).reverse ++ item :: passed.reverse

/-- The items in order; items of which neither comes before the other stay in
the order they were in. -/
def rank {α : Type} (comesBefore : α → α → Bool) (items : List α) : List α :=
  items.foldl (insertRanked comesBefore) []

/-- A tip and its amount in the main currency. -/
structure RankedTip where
  converted : Float
  tip : Event

def convertTip (settings : Settings) (tip : Event) : Chat RankedTip := do
  let currency := (tip.text? "currency").getD settings.mainCurrency
  let converted ← Chat.ask (Query.put (.convert tip.amount currency settings.mainCurrency))
  return { converted, tip }

/-- All tips, the highest first. -/
def rankedTips (settings : Settings) : Chat (List RankedTip) := do
  let tips ← Chat.ask (Query.put (.eventsOf "tip"))
  let converted ← tips.mapM (convertTip settings)
  return rank (fun a b => b.converted < a.converted) converted

/-- The tips since the stream went live, or none when there is no stream. -/
def tipsOfStream (tips : List RankedTip) : Chat (List RankedTip) := do
  let stats ← Chat.ask (Query.put .stats)
  match stats.onlineSince with
  | some since =>
      if stats.online then return tips.filter fun ranked => !ranked.tip.time.before since
      else return []
  | none => return []

def tipField (field : String) (tip : Event) : String :=
  if field = "amount" then Decimal.fixed 2 tip.amount
  else if field = "username" then tip.giver
  else (tip.text? field).getD ""

/-- The scope and the field that a token asks for, as in `overall.amount`. -/
def tipRequest? (token : List Char) : Option (String × String) :=
  let body := (token.dropWhile fun c => c == '$' || c == '(').reverse.dropWhile (· == ')')
  match Text.breakOn? ['.'] (Text.stripAll "toptip.".toList body.reverse) with
  | some (scope, field) =>
      let scope := String.ofList scope
      let field := String.ofList field
      if ["overall", "stream"].contains scope &&
          ["username", "amount", "message", "currency"].contains field
      then some (scope, field)
      else none
  | none => none

/-- A field of the highest tip. -/
def topTip (settings : Settings) (token : List Char) : Chat (List Char) := do
  match tipRequest? token with
  | none => return []
  | some (scope, field) =>
      let tips ← rankedTips settings
      let tips ← if scope = "stream" then tipsOfStream tips else pure tips
      match tips.head? with
      | some ranked => return (tipField field ranked.tip).toList
      | none => return []

end ChatTemplate.Information
