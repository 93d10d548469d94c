/-
# ChatTemplate.Script.Sandbox -- scripts inside messages

A message can hold a condition, an arithmetic expression or a whole script.  A
script sees the constants of its dialect and the bindings it is given, and
nothing else; what it assigns is gone when it ends.
-/
import ChatTemplate.Script.Eval
import ChatTemplate.Script.Lexer
import ChatTemplate.Script.Parser

namespace ChatTemplate.Script

set_option autoImplicit false

/-- Evaluates a source that is one expression. -/
def evalSource (dialect : Dialect) (source : List Char) : Eval Value :=
  match parse dialect (lex source) with
  | .ok e => eval e
  | .error cause => throw (.badSource cause)

/-- Runs a source that is a script. -/
def runSource (source : List Char) : Eval Value :=
  match parseProgram (lex source) with
  | .ok program => runProgram program
  | .error cause => throw (.badSource cause)

/-- The outcome of a computation from a scope, without the state it leaves. -/
def outcome (computation : Eval Value) (scope : Scope) (dice : Dice) :
    Except ScriptError Value :=
  (ExceptT.run computation ⟨scope, dice⟩).1

/-- Whether a condition holds. -/
def holds (condition : List Char) (dice : Dice) : Except ScriptError Bool :=
  (outcome (evalSource .script condition) (Scope.ofDialect .script) dice).map Value.truthy

/-- The number that an arithmetic expression stands for; truth values count as
numbers, text does not. -/
def number (expression : List Char) (dice : Dice) : Except ScriptError Float := do
  let value ← outcome (evalSource .math expression) (Scope.ofDialect .math) dice
  match value with
  | .int _ | .float _ | .bool _ => return value.toFloat
  | _ => .error (.noNumber value.text)

/-- The value that a script returns when it is given some bindings. -/
def script (source : List Char) (bindings : List (String × Value)) (dice : Dice) :
    Except ScriptError Value :=
  outcome (runSource source) ((Scope.ofDialect .script).setAll bindings) dice

end ChatTemplate.Script
