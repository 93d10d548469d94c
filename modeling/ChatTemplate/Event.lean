/-
# ChatTemplate.Event -- what happened on the channel

Follows, subscriptions, tips and cheers are kept as events.  The payload of an
event is a JSON document; its fields are read loosely, a number for text and
text that reads as a number for a number.
-/
import ChatTemplate.Decimal.Reader
import ChatTemplate.Instant
import ChatTemplate.Json.Writer
import ChatTemplate.Text.Blank

namespace ChatTemplate

set_option autoImplicit false

structure Event where
  kind : String
  userName : String
  time : Instant
  payload : Json

namespace Event

/-- A field of the payload as text; null is no text. -/
def text? (event : Event) (field : String) : Option String :=
  match event.payload.field? field with
  | some (.str s) => some s
  | some .null => none
  | some json => some json.toText
  | none => none

/-- A field of the payload as a number. -/
def number? (event : Event) (field : String) : Option Float :=
  match event.payload.field? field with
  | some (.str s) => Decimal.read? (Text.trim s.toList)
  | some json => json.number?
  | none => none

/-- The amount of a tip or cheer, zero when it names none. -/
def amount (event : Event) : Float :=
  (event.number? "amount").getD 0.0

/-- The name of the giver: the payload may carry the one to be shown. -/
def giver (event : Event) : String :=
  (event.text? "username").getD event.userName

end Event

end ChatTemplate
