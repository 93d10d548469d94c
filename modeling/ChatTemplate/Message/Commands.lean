/-
# ChatTemplate.Message.Commands -- running and counting commands

`(!command)` runs a command on behalf of the sender, `(!!command)` without its
output; neither shows anything, whatever becomes of the command.  `$count` shows
how often the command that is being answered was used, `$count('!command')` how
often another one was.
-/
import ChatTemplate.Dialogue
import ChatTemplate.Message.Context
import ChatTemplate.Settings
import ChatTemplate.Template

namespace ChatTemplate.Commands

set_option autoImplicit false

/-- How often a command was used. -/
def usageText (command : String) : Chat (List Char) := do
  let count ← Chat.ask (Query.put (.usageOf command))
  return (Text.uint64Text count).toList

/-- The usage token of a command without white space in it. -/
def usagePattern : Pattern :=
  Pattern.literal "$count('!" ++ .run .nonBlank 0 true :: Pattern.literal "')"

def usageOf (token : List Char) : Chat (List Char) :=
  match usagePattern.find? token with
  | some found => usageText (String.ofList ((found.drop 8).dropLast.dropLast))
  | none => return ['0']

def usage (context : Context) : Chat (List Char) :=
  match context.command.filter fun command => !command.isEmpty with
  | some command => usageText command
  | none => return ['0']

/-- The command line of a token, with the sender and the argument put in. -/
def commandLine (settings : Settings) (context : Context) (token : List Char) (quiet : Bool) :
    String :=
  let token := if quiet then Text.replaceFirst ['!'] [] token else token
  let line := token.filter fun c => c != '(' && c != ')'
  let line :=
    Text.replaceAll "$sender".toList (settings.mention context.sender.name).toList line
  String.ofList (Text.replaceAll "$param".toList context.argumentText.toList line)

def dispatch (settings : Settings) (context : Context) (token : List Char) (quiet : Bool) :
    Dialogue (List Char) := do
  let line := commandLine settings context token quiet
  let _ ← Query.put (.dispatch context.sender line { skipChecks := true, quiet })
  return []

end ChatTemplate.Commands
