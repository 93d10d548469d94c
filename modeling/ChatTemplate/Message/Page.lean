/-
# ChatTemplate.Message.Page -- `(api|address)` with `(api.path)`

A message can fetch one page and show parts of it.  A path such as
`data.items[0].name` leads from a document to a part of it (`walk?`); the whole
page is `(api._response)`.  When the page cannot be had, the message is replaced
by a note of it.
-/
import ChatTemplate.Dialogue
import ChatTemplate.Template
import ChatTemplate.Text.Integer

namespace ChatTemplate.Page

set_option autoImplicit false

/-! ## Tokens -/

def callPattern : Pattern :=
  Pattern.anyCase "(api|http" ++ [.run .nonBlank 1 false, .char ')']

/-- The address in a call, in which an ampersand may be written as a reference. -/
def addressOf (call : List Char) : String :=
  String.ofList (Text.replaceAll "&amp;".toList ['&'] (call.drop 5).dropLast)

def partPattern : Pattern :=
  Pattern.anyCase "(api." ++ [.run .nonBlank 0 false, .char ')']

/-- The path in a part token. -/
def pathOf (token : List Char) : List Char :=
  (token.drop 5).dropLast

/-- The part tokens of a text, without those for the whole page. -/
def partTokens (text : List Char) : List (List Char) :=
  (partPattern.findAll text).filter fun token =>
    !Text.startsWith "_response".toList (pathOf token)

/-! ## Paths -/

/-- The name and the position of a step `name[position]`. -/
def indexed? (step : List Char) : Option (List Char × List Char) :=
  match step.reverse with
  | ']' :: rest =>
      let digits := (rest.takeWhile Text.isDecimalDigit).reverse
      match rest.dropWhile Text.isDecimalDigit with
      | '[' :: name => if digits.isEmpty || name.isEmpty then none else some (name.reverse, digits)
      | _ => none
  | _ => none

def fieldOf? (json : Json) (name : List Char) : Option Json :=
  json.field? (String.ofList name)

/-- The part that one step leads to. -/
def step? (json : Json) (step : List Char) : Option Json :=
  match indexed? step with
  | some (name, digits) => do
      let list ← fieldOf? json name
      let position ← Text.readUInt64? digits
      list.item? position.toNat
  | none => fieldOf? json step

/-- The part of a document that a path leads to. -/
def walk? (json : Json) (path : List Char) : Option Json :=
  (Text.splitOn ['.'] path).foldlM step? json

/-- A part as text; null is no text. -/
def shown? : Json → Option (List Char)
  | .null => none
  | .str s => some s.toList
  | json => some json.write

/-! ## The stage -/

/-- The text without quotes around it. -/
def unquoted (text : List Char) : List Char :=
  ((Text.stripPrefix? ['"'] text).bind (Text.stripSuffix? ['"'])).getD text

/-- A page as text: a document in compact form, anything else without quotes. -/
def body (reply : WebReply) : List Char :=
  match reply.json? with
  | some (.object fields) => (Json.object fields).write
  | some (.list items) => (Json.list items).write
  | _ => unquoted reply.body.toList

/-- Puts the part that a token asks for in the place of the token. -/
def putPart (json : Json) (text token : List Char) : Dialogue (List Char) := do
  match (walk? json (pathOf token)).bind shown? with
  | some value => return Text.replaceFirst token value text
  | none => do
      let note ← Query.put (.phrase "core.api.not-available")
      return Text.replaceFirst token note.toList text

/-- The text with a page in it. -/
def putPage (reply : WebReply) (text : List Char) : Dialogue (List Char) := do
  let tokens := partTokens text
  if tokens.isEmpty then
    return Text.replaceFirst "(api._response)".toList (body reply) text
  tokens.foldlM (putPart (reply.json?.getD .null)) text

def errorNote : Dialogue (List Char) := do
  let note ← Query.put (.phrase "core.api.error")
  return note.toList

/-- The text with the first page it calls for put in. -/
def apply (text : List Char) : Dialogue (List Char) := do
  match callPattern.find? text with
  | none => return text
  | some call =>
      let text := Text.trim (Text.replaceFirst call [] text)
      match ← Query.put (.fetch (addressOf call) []) with
      | .error _ => errorNote
      | .ok reply => if reply.status = 200 then putPage reply text else errorNote

end ChatTemplate.Page
