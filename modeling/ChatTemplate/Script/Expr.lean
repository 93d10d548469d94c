/-
# ChatTemplate.Script.Expr -- expressions and statements

The syntax of scripts as trees.  A script is a list of statements; the
arithmetic of `(math.…)` is a single expression.  The two dialects share one
grammar and differ in what `^` means.
-/
import ChatTemplate.Script.Value

namespace ChatTemplate.Script

set_option autoImplicit false

/-- Which surface syntax a source is written in. -/
inductive Dialect where
  /-- The language of `(if …)` and `(eval …)`. -/
  | script
  /-- The language of `(math.…)`: `^` raises to a power, and there are no
  callbacks. -/
  | math
  deriving DecidableEq

inductive BinaryOp where
  | or | and | bitOr | bitXor | bitAnd
  | eq | ne | strictEq | strictNe
  | lt | le | gt | ge
  | shiftLeft | shiftRight
  | add | sub | mul | div | rem | pow
  deriving DecidableEq

inductive UnaryOp where
  | neg | plus | not | bitNot
  deriving DecidableEq

/-- `=` and the operators that combine a variable with a value. -/
inductive AssignOp where
  | set | add | sub | mul | div | rem
  deriving DecidableEq

inductive Expr where
  | literal (value : Value)
  | var (name : String)
  | list (items : List Expr)
  | unary (op : UnaryOp) (operand : Expr)
  | binary (op : BinaryOp) (left right : Expr)
  | conditional (condition yes no : Expr)
  | assign (name : String) (op : AssignOp) (value : Expr)
  | call (function : String) (args : List Expr)
  | member (target : Expr) (key : String)
  | index (target key : Expr)
  | method (target : Expr) (name : String) (args : List Expr)
  /-- A callback; it has a meaning only as the first argument of a list method. -/
  | lambda (params : List String) (body : Expr)
  | sequence (items : List Expr)
  deriving Inhabited

/-- The name of an expression that is nothing but a name. -/
def Expr.bareName? : Expr → Option String
  | .var name => some name
  | _ => none

inductive Stmt where
  | expr (e : Expr)
  | declare (name : String) (value : Option Expr)
  | ret (value : Option Expr)
  | branch (condition : Expr) (yes no : List Stmt)
  deriving Inhabited

end ChatTemplate.Script
