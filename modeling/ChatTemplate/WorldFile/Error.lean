/-
# ChatTemplate.WorldFile.Error -- what can be wrong with a line

A line of a world file that cannot be understood is skipped, and what was wrong
with it is reported.
-/
namespace ChatTemplate.WorldFile

set_option autoImplicit false

inductive Directive where
  | set
  | user
  | event
  | aliasEntry
  | command
  | cooldown
  | price
  | rank
  | customVariable
  | usage
  | route
  deriving DecidableEq

namespace Directive

def all : List Directive :=
  [set, user, event, aliasEntry, command, cooldown, price, rank, customVariable, usage, route]

/-- The word of a directive, after its slash. -/
def word : Directive → String
  | set => "set"
  | user => "adduser"
  | event => "addevent"
  | aliasEntry => "addalias"
  | command => "addcommand"
  | cooldown => "addcooldown"
  | price => "addprice"
  | rank => "addrank"
  | customVariable => "addvariable"
  | usage => "addusage"
  | route => "addroute"

def ofWord? (text : String) : Option Directive :=
  all.find? fun directive => directive.word = text

def name (directive : Directive) : String :=
  "/" ++ directive.word

/-- The arguments that a directive takes. -/
def arguments : Directive → String
  | set => "<name>=<value>"
  | user => "[-ofs] <name> <id>"
  | event => "[-t<time>] <kind> <username> [json]"
  | aliasEntry => "[-h] <alias>"
  | command => "[-h] [-P<perm>] <command>"
  | cooldown => "<name> <ms>"
  | price => "<command> <price>"
  | rank => "<rank> <hours>"
  | customVariable => "[-r<mode>] [-m<text>] [-e] <$_name> [value]"
  | usage => "<command> <count>"
  | route => "<url> <status> [body]"

end Directive

inductive LineFault where
  | wrongArguments (directive : Directive)
  | invalid (directive : Directive) (what : String) (text : String)
  | invalidDocument
  | noSetting
  | noValue (name : String)
  | emptyName
  | unknownStatistic (field : String)
  | noVariable
  | noVariableName (name : String)
  | unknownResponse (text : String)
  deriving DecidableEq

def LineFault.message : LineFault → String
  | wrongArguments directive =>
      directive.name ++ ": usage: " ++ directive.name ++ " " ++ directive.arguments
  | invalid directive what text =>
      directive.name ++ ": invalid " ++ what ++ " '" ++ text ++ "'"
  | invalidDocument => "/addevent: invalid json"
  | noSetting => "/set: requires an argument"
  | noValue name => "/set: missing value for '" ++ name ++ "'"
  | emptyName => "/set: variable name cannot be empty"
  | unknownStatistic field => "/set: unknown stats field '" ++ field ++ "'"
  | noVariable => "/addvariable: requires a variable name"
  | noVariableName name => "/addvariable: '" ++ name ++ "' must start with $_"
  | unknownResponse text => "/addvariable: unknown response type '" ++ text ++ "'"

/-- A line that was skipped. -/
structure LineError where
  line : Nat
  fault : LineFault
  deriving DecidableEq

end ChatTemplate.WorldFile
