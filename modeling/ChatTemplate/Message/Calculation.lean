/-
# ChatTemplate.Message.Calculation -- `(math.expression)`

Custom variables stand for numbers in an expression; a value that is no number
counts as zero.
-/
import ChatTemplate.Dialogue
import ChatTemplate.Script.Sandbox
import ChatTemplate.Template

namespace ChatTemplate.Calculation

set_option autoImplicit false

/-- The expression of a token. -/
def sourceOf (token : List Char) : List Char :=
  let body := Text.replaceFirst "(math.".toList [] token
  (Text.stripSuffix? [')'] body).getD body

/-- A variable in an expression: its name goes on as long as a word does. -/
def namePattern : Pattern :=
  Pattern.literal "$_" ++ [.run .word 1 true]

/-- The text of a number in place of a value. -/
def numberText (value : List Char) : List Char :=
  let trimmed := Text.trim value
  match Decimal.read? trimmed with
  | some x => if Decimal.isFinite x then trimmed else ['0']
  | none => ['0']

/-- Puts the value of a variable in the place of its first occurrence. -/
def putValue (source name : List Char) : Chat (List Char) := do
  let value ← Chat.ask (Query.put (.readVariable (String.ofList name)))
  return Text.replaceFirst name (numberText value.toList) source

def resolve (token : List Char) : Chat (List Char) := do
  let source := sourceOf token
  let source ← (namePattern.findAll source).foldlM putValue source
  let dice ← Query.put .chance
  match Script.number source dice with
  | .ok x => return (Script.formatNumber x).toList
  | .error cause => throw (.badScript cause)

end ChatTemplate.Calculation
