/-
# ChatTemplate.Script.Error -- what can be wrong with a script

A script fails either because its source is no script (`SyntaxError`) or while
it runs.  Both are causes; the wording shown to the streamer is in `message`.
-/
import ChatTemplate.Script.Token

namespace ChatTemplate.Script

set_option autoImplicit false

/-- What the reader of a script was waiting for. -/
inductive Expected where
  | openCondition
  | closeCondition
  | colon
  | closeIndex
  | closeParen
  | semicolon
  | declaredName
  | propertyName

def Expected.message : Expected → String
  | openCondition => "'(' after if"
  | closeCondition => "')' after condition"
  | colon => "':' in ternary"
  | closeIndex => "']'"
  | closeParen => "')'"
  | semicolon => "';'"
  | declaredName => "a name after declaration"
  | propertyName => "property name"

inductive SyntaxError where
  | expected (what : Expected) (found : Token)
  | unclosedBlock
  | unclosedArguments (function : String)
  | strayCharacter (c : Char)
  | strayToken (found : Token)
  | leftover (found : Token)
  | endOfInput
  | tooDeep

def SyntaxError.message : SyntaxError → String
  | expected what found => "expected " ++ what.message ++ ", found " ++ found.shown
  | unclosedBlock => "expected '\x7d'"
  | unclosedArguments function => "expected ')' after args to " ++ function
  | strayCharacter c => "unexpected character '" ++ String.singleton c ++ "'"
  | strayToken found => "unexpected token " ++ found.shown
  | leftover found => "unexpected " ++ found.shown ++ " after expression"
  | endOfInput => "unexpected end of input"
  | tooDeep => "script nested too deeply"

inductive ScriptError where
  | badSource (cause : SyntaxError)
  | undefined (name : String)
  | noSuchMethod (name : String)
  | strayCallback
  | takesNoCallback (method : String)
  | tooFewArguments (function : String)
  | missingArgument (function : String) (position : Nat)
  | invalidCount (method : String)
  | tooLong (method : String)
  | divisionByZero
  | moduloByZero
  | noNumber (shown : String)

/-- The number of bytes that no method exceeds when it repeats a text. -/
def maxRepeated : Nat := 65536

def ScriptError.message : ScriptError → String
  | badSource cause => cause.message
  | undefined name => name ++ " is not defined"
  | noSuchMethod name => name ++ " is not a function"
  | strayCallback => "arrow functions are only allowed as list callbacks"
  | takesNoCallback method => method ++ " does not take a callback"
  | tooFewArguments function => function ++ ": too few args"
  | missingArgument function position =>
      function ++ ": argument " ++ toString position ++ " missing"
  | invalidCount method => method ++ ": invalid count"
  | tooLong method => method ++ ": result longer than " ++ toString maxRepeated ++ " bytes"
  | divisionByZero => "division by zero"
  | moduloByZero => "modulo by zero"
  | noNumber shown => "'" ++ shown ++ "' is not a number"

end ChatTemplate.Script
