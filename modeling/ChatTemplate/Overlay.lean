/-
# ChatTemplate.Overlay -- texts shown on the stream itself

An overlay shows custom variables inline.  A variable that is not set shows as
its emphasised name, so that it can be seen that it is missing.  While the rest
of the text is rendered its place is held by a marker, which no stage of a
message reads as a token.
-/
import ChatTemplate.Message.Render

namespace ChatTemplate.Overlay

set_option autoImplicit false

/-- The character on either side of a marker. -/
def markerEdge : Char := '\x01'

/-- The marker of the variable that is the `n`-th one not set. -/
def marker (n : Nat) : List Char :=
  markerEdge :: Text.writeNat n ++ [markerEdge]

def emphasised (name : List Char) : List Char :=
  "<strong>".toList ++ name ++ "</strong>".toList

/-- A text in which some variables are held by markers. -/
structure Draft where
  text : List Char
  unset : List (List Char) := []

/-- Puts the value of a variable, or its marker, in place of every occurrence of
its name. -/
def putVariable (draft : Draft) (name : List Char) : Chat Draft := do
  if !Text.contains name draft.text then return draft
  if ← Chat.ask (Query.put (.isVariableSet (String.ofList name))) then
    let value ← Chat.ask (Query.put (.readVariable (String.ofList name)))
    return { draft with text := Text.replaceAll name value.toList draft.text }
  else
    return ⟨Text.replaceAll name (marker draft.unset.length) draft.text, draft.unset ++ [name]⟩

/-- Puts the emphasised names in place of their markers. -/
def restore (unset : List (List Char)) (text : List Char) : List Char :=
  unset.zipIdx.foldl
    (fun text item => Text.replaceAll (marker item.2) (emphasised item.1) text)
    text

def render (settings : Settings) (text : List Char) : Chat (List Char) := do
  let names := variablePattern.findAll text
  let draft ← names.foldlM putVariable { text }
  let rendered ← Message.render settings {} draft.text
  return restore draft.unset rendered

end ChatTemplate.Overlay
