/-
# ChatTemplate.Message.Condition -- `(if condition|then|else)`

A condition that cannot be evaluated shows nothing, as does one without a part
to show.  A bare comparison such as `>2` is false.
-/
import ChatTemplate.Dialogue
import ChatTemplate.Message.Context
import ChatTemplate.Script.Sandbox
import ChatTemplate.Text.Search

namespace ChatTemplate.Condition

set_option autoImplicit false

/-- The parts of a token between the bars, with the argument put in. -/
def parts (context : Context) (token : List Char) : List (List Char) :=
  let body := (Text.stripSuffix? [')'] token).getD token
  let body := Text.replaceFirst "(if ".toList [] body
  let argument := context.argumentText.toList
  let body := Text.replaceAll "$!param".toList argument body
  Text.splitOn ['|'] (Text.replaceAll "$param".toList argument body)

/-- Whether a text begins as the rest of a comparison does. -/
def isBareComparison (condition : List Char) : Bool :=
  condition.head?.any fun c => c == '>' || c == '<' || c == '='

def resolve (context : Context) (token : List Char) : Dialogue (List Char) := do
  match parts context token with
  | condition :: thenPart :: rest =>
      let elsePart := rest.head?.getD []
      if isBareComparison condition then return elsePart
      let dice ← Query.put .chance
      match Script.holds condition dice with
      | .ok true => return thenPart
      | .ok false => return elsePart
      | .error _ => return []
  | _ => return []

end ChatTemplate.Condition
