/-
# ChatTemplate.Message.VariableToken -- showing and setting custom variables

`$_name` shows a variable, or sets it when the command that is being answered
has an argument.  What is shown and sent after setting is up to the variable's
response, unless the token asks for less: `$!_name` sends nothing, `$!!_name`
shows nothing either.
-/
import ChatTemplate.Dialogue
import ChatTemplate.Message.Context
import ChatTemplate.Message.Token
import ChatTemplate.Text.Search

namespace ChatTemplate.VariableToken

set_option autoImplicit false

/-- The name of the variable that a token is about. -/
def nameOf (token : List Char) : String :=
  let bare :=
    match Text.stripPrefix? "$!!_".toList token with
    | some bare => bare
    | none =>
        match Text.stripPrefix? "$!_".toList token with
        | some bare => bare
        | none => (Text.stripPrefix? "$_".toList token).getD token
  "$_" ++ String.ofList bare

/-- The announcement of a new value, from the phrase for it. -/
def announcement (template name value : String) : String :=
  let withValue := Text.replaceAll "$value".toList value.toList template.toList
  String.ofList (Text.replaceAll "$variable".toList name.toList withValue)

/-- A variable's own text about its new value. -/
def customText (template value : String) : String :=
  String.ofList (Text.replaceFirst "$value".toList value.toList template.toList)

/-- What is shown after a variable was set, and what is sent. -/
def respond (context : Context) (name : String) (outcome : SetOutcome) : Chat (List Char) := do
  match outcome.response with
  | .announced =>
      if outcome.accepted && !outcome.scripted then
        let template ← Query.put (.phrase "filters.setVariable")
        let line := announcement template name outcome.newValue
        Chat.ask (Query.put (.send line context.sender context.quiet))
      return outcome.currentValue.toList
  | .custom =>
      let line := customText outcome.responseText outcome.newValue
      Chat.ask (Query.put (.send line context.sender context.quiet))
      return []
  | .silent => return outcome.currentValue.toList

def resolve (context : Context) (mode : VariableMode) (token : List Char) : Chat (List Char) := do
  let name := nameOf token
  match context.given? with
  | some value =>
      let outcome ← Chat.ask (Query.put (.writeVariable name value))
      match mode with
      | .normal => respond context name outcome
      | .quiet => return outcome.currentValue.toList
      | .silent => return []
  | none =>
      match mode with
      | .silent => return []
      | _ => do
          let value ← Chat.ask (Query.put (.readVariable name))
          return value.toList

end ChatTemplate.VariableToken
