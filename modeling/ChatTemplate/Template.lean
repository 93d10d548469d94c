/-
# ChatTemplate.Template -- token templates

A token template is text with wildcards, written `#`: `(random.number-#-to-#)`
or `$_#`.  Everything else in it stands for itself.  What a wildcard can stand
for is the template's `Wildcard` mode, one for all wildcards of a template.

A template is matched through its `Template.pattern`.  `Template.regex` is the
same template written as a regular expression, for the inspection of rules.
-/
import ChatTemplate.Pattern
import ChatTemplate.Text.Search

namespace ChatTemplate

set_option autoImplicit false

/-- What the wildcards of a template can stand for. -/
inductive Wildcard where
  /-- As little as possible between two word boundaries. -/
  | word
  /-- As little as possible, spaces included. -/
  | lazy
  /-- As much as possible without white space. -/
  | gate
  /-- As much of a name as possible. -/
  | name
  /-- As much as possible, spaces included. -/
  | greedy
  /-- As little as possible of one line, or nothing. -/
  | any
  deriving DecidableEq

namespace Wildcard

def pieces : Wildcard → Pattern
  | .word => [.boundary, .run .inLine 1 false, .boundary]
  | .lazy => [.run .nonBlankOrSpace 1 false]
  | .gate => [.run .nonBlank 1 true]
  | .name => [.run .name 1 true]
  | .greedy => [.run .nonBlankOrSpace 1 true]
  | .any => [.run .inLine 0 false]

/-- The mode as a group of a regular expression. -/
def group : Wildcard → String
  | .word => "(\\b.+?\\b)"
  | .lazy => "([\\S ]+?)"
  | .gate => "(\\S+)"
  | .name => "([a-zA-Z0-9_]+)"
  | .greedy => "([\\S ]+)"
  | .any => "(.*?)"

/-- Keys that begin with `$` stand for words, all others take in spaces. -/
def ofKey (key : String) : Wildcard :=
  if Text.startsWith ['$'] key.toList then .word else .lazy

end Wildcard

structure Template where
  text : String
  wildcard : Wildcard
  deriving DecidableEq

namespace Template

/-- The character that is a wildcard. -/
def mark : Char := '#'

def pattern (template : Template) : Pattern :=
  template.text.toList.flatMap fun c =>
    if c = mark then template.wildcard.pieces else [.char c]

/-- The matches of a template, from left to right. -/
def findAll (template : Template) (text : List Char) : List (List Char) :=
  template.pattern.findAll text

def isMatch (template : Template) (text : List Char) : Bool :=
  template.pattern.isMatch text

/-- The characters with a meaning of their own in regular expressions. -/
def metaCharacters : List Char :=
  "\\.+*?()|[]\x7b\x7d^$#&-~".toList

def regex (template : Template) : String :=
  String.ofList (template.text.toList.flatMap fun c =>
    if c = mark then template.wildcard.group.toList
    else if metaCharacters.contains c then ['\\', c]
    else [c])

end Template

/-- The names of custom variables in a text. -/
def variablePattern : Pattern :=
  Pattern.literal "$_" ++ [.run .name 1 true]

end ChatTemplate
