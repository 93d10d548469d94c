/-
# ChatTemplate.Message.Render -- rendering a message

`render` decodes the character references of a text and takes it through the
stages of the pipeline.  In a pass every match of a rule is collected first; the
matches are then resolved from left to right, and each value replaces the first
occurrence of its match in what the text has become (`splice`).  After every
replacement the text is trimmed.

A text that has been cleared stays clear: a pass over a blank text does nothing.
The pass that cleared it still resolves its remaining matches.
-/
import ChatTemplate.Message.Argument
import ChatTemplate.Message.Calculation
import ChatTemplate.Message.Commands
import ChatTemplate.Message.Condition
import ChatTemplate.Message.Information
import ChatTemplate.Message.Listing
import ChatTemplate.Message.Page
import ChatTemplate.Message.Pipeline
import ChatTemplate.Message.Placeholder
import ChatTemplate.Message.Scripting
import ChatTemplate.Message.StreamLookup
import ChatTemplate.Message.VariableToken

namespace ChatTemplate.Message

set_option autoImplicit false

/-! ## One token -/

/-- The value of a token whose template matched a piece of text. -/
def resolve (settings : Settings) (context : Context) (token : Token) (matched : List Char) :
    Chat (List Char) :=
  match token with
  | .price => Information.price settings context
  | .topTip => Information.topTip settings matched
  | .game => Information.game
  | .status => Information.status
  | .randomUser online pool => RandomPick.viewer settings online pool
  | .randomNumber => RandomPick.number context matched
  | .trueOrFalse => RandomPick.coin
  | .condition => Condition.resolve context matched
  | .customVariable mode => VariableToken.resolve context mode matched
  | .script => Scripting.resolve settings context matched
  | .toUser => return Argument.toUser settings context
  | .argument => return Argument.written context
  | .argumentOrNone => return Argument.writtenOrNone context
  | .arithmetic => Calculation.resolve matched
  | .usageOf => Commands.usageOf matched
  | .usage => Commands.usage context
  | .dispatch quiet => Commands.dispatch settings context matched quiet
  | .query => return Argument.query context
  | .address => return Argument.address matched
  | .list => Listing.resolve matched
  | .stream field => StreamLookup.resolve field matched

/-- Whether a gate lets the message through; one that cannot be checked does
not. -/
def isOpen (gate : Gate) : Dialogue Bool := do
  match ← Query.put .stats with
  | .ok stats =>
      match gate with
      | .online => return stats.online
      | .offline => return !stats.online
  | .error _ => return false

/-! ## Passes -/

/-- The text with a value in place of the first occurrence of a match, trimmed. -/
def splice (matched value text : List Char) : List Char :=
  Text.trim (Text.replaceFirst matched value text)

/-- The text after a match was resolved, to a value or to none. -/
def settle (policy : Policy) (matched : List Char) (value? : Option (List Char))
    (text : List Char) : List Char :=
  match policy, value? with
  | .keepWhenEmpty, some value => splice matched value text
  | .keepWhenEmpty, none => text
  | .clearWhenEmpty, some value => if value.isEmpty then [] else splice matched value text
  | .clearWhenEmpty, none => []

def runMatch (settings : Settings) (context : Context) (policy : Policy) (token : Token)
    (text matched : List Char) : Dialogue (List Char) := do
  let result ← Chat.attempt (resolve settings context token matched)
  return settle policy matched result.toOption text

def runRule (settings : Settings) (context : Context) (policy : Policy) (text : List Char)
    (rule : Rule Token) : Dialogue (List Char) :=
  (rule.template.findAll text).foldlM (runMatch settings context policy rule.token) text

def runPass (settings : Settings) (context : Context) (policy : Policy)
    (rules : List (Rule Token)) (text : List Char) : Dialogue (List Char) :=
  if Text.isBlankText text then return text
  else rules.foldlM (runRule settings context policy) text

/-! ## Gates -/

def runGateMatch (gate : Gate) (text matched : List Char) : Dialogue (List Char) := do
  if ← isOpen gate then return splice matched [] text else return []

def runGate (text : List Char) (rule : Rule Gate) : Dialogue (List Char) :=
  (rule.template.findAll text).foldlM (runGateMatch rule.token) text

def runGates (rules : List (Rule Gate)) (text : List Char) : Dialogue (List Char) :=
  if Text.isBlankText text then return text
  else rules.foldlM runGate text

/-! ## Attributes -/

/-- The keys of a context with their texts, in the order in which they are
replaced. -/
def attributes (settings : Settings) (context : Context) : List (String × String) :=
  ("sender", settings.mention context.sender.name) ::
    ((context.argument.map fun text => ("param", text)).toList ++
      (context.command.map fun text => ("cmd", text)).toList ++ context.attributes)

/-- Puts the text of a key in place of every `$key`. -/
def applyAttribute (text : List Char) (entry : String × String) : List Char :=
  Text.replaceAll ('$' :: entry.1.toList) entry.2.toList text

def applyAttributes (settings : Settings) (context : Context) (text : List Char) : List Char :=
  (attributes settings context).foldl applyAttribute text

/-! ## Stages -/

/-- Puts a page into a text that is not blank. -/
def runPage (text : List Char) : Dialogue (List Char) :=
  if Text.isBlankText text then return text else Page.apply text

def runStage (settings : Settings) (context : Context) (text : List Char) :
    Stage → Dialogue (List Char)
  | .placeholders => Placeholder.apply settings "" text
  | .pass _ policy rules => runPass settings context policy rules text
  | .gates _ rules => runGates rules text
  | .attributes => return applyAttributes settings context text
  | .page => runPage text

/-- Takes a text through some stages. -/
def runStages (settings : Settings) (context : Context) (stages : List Stage)
    (text : List Char) : Dialogue (List Char) :=
  stages.foldlM (runStage settings context) text

/-- **The message that a text stands for.** -/
def render (settings : Settings) (context : Context) (text : List Char) : Dialogue (List Char) :=
  runStages settings context Pipeline.stages (CharReference.decode text)

/-- The text with only its placeholders replaced; an escape is marked in the
titles of songs. -/
def renderPlaceholders (settings : Settings) (escape : String) (text : List Char) :
    Dialogue (List Char) :=
  Placeholder.apply settings escape (CharReference.decode text)

end ChatTemplate.Message
