/-
# ChatTemplate.Proofs.Printing -- scripts back to tokens

Expressions bind at one of sixteen levels: `0` commas, `1` assignments and
callbacks, `2` the conditional, `3` to `12` the levels of binary operators, `13`
unary operators, `14` powers, and `15` everything that needs no operator.  Where
an expression stands asks for a level, and an expression that binds more loosely
is printed in parentheses (`enclosed`).

Statements are printed with a semicolon at the end and braces around the bodies
of branches, and an expression that is a statement stands in parentheses.

`Readable` are the expressions that have a spelling in a dialect.
-/
import ChatTemplate.Script.Parser

namespace ChatTemplate.Script

set_option autoImplicit false

/-! ## Levels -/

def BinaryOp.binding (op : BinaryOp) : Nat :=
  match op.level? with
  | some level => level + 3
  | none => 14

/-- What the left side of an operator has to bind at: operators group to the left,
but powers do not. -/
def BinaryOp.leftBinding : BinaryOp → Nat
  | .pow => 15
  | op => op.binding

/-- What the right side has to bind at; an exponent may have signs of its own. -/
def BinaryOp.rightBinding : BinaryOp → Nat
  | .pow => 13
  | op => op.binding + 1

def Expr.binding : Expr → Nat
  | .sequence _ => 0
  | .assign _ _ _ => 1
  | .lambda _ _ => 1
  | .conditional _ _ _ => 2
  | .binary op _ _ => op.binding
  | .unary _ _ => 13
  | _ => 15

/-! ## Words and symbols -/

def BinaryOp.symbol (dialect : Dialect) : BinaryOp → Symbol
  | .or => .or
  | .and => .and
  | .bitOr => .pipe
  | .bitXor => .caret
  | .bitAnd => .ampersand
  | .eq => .eq
  | .ne => .ne
  | .strictEq => .strictEq
  | .strictNe => .strictNe
  | .lt => .lt
  | .le => .le
  | .gt => .gt
  | .ge => .ge
  | .shiftLeft => .shiftLeft
  | .shiftRight => .shiftRight
  | .add => .plus
  | .sub => .minus
  | .mul => .star
  | .div => .slash
  | .rem => .percent
  | .pow => if dialect = .math then .caret else .starStar

def UnaryOp.symbol : UnaryOp → Symbol
  | .neg => .minus
  | .plus => .plus
  | .not => .bang
  | .bitNot => .tilde

def AssignOp.symbol : AssignOp → Symbol
  | .set => .assign
  | .add => .plusAssign
  | .sub => .minusAssign
  | .mul => .starAssign
  | .div => .slashAssign
  | .rem => .percentAssign

/-- No literal spells a list or a map. -/
def Value.isLiteral : Value → Bool
  | .list _ => false
  | .map _ => false
  | _ => true

def Value.token : Value → Token
  | .bool true => .name "true"
  | .bool false => .name "false"
  | .int n => .int n
  | .float x => .float x
  | .str s => .str s
  | _ => .name "null"

def printParams : List String → List Token
  | [] => []
  | [name] => [.name name]
  | name :: names => .name name :: .sym .comma :: printParams names

/-- What stands before the body of a callback. -/
def printHead : List String → List Token
  | [name] => [.name name, .sym .arrow]
  | params => .sym .lparen :: (printParams params ++ [.sym .rparen, .sym .arrow])

/-! ## Expressions -/

/-- An expression that binds at one level, where another is asked for. -/
def enclosed (asked binding : Nat) (tokens : List Token) : List Token :=
  if binding < asked then .sym .lparen :: (tokens ++ [.sym .rparen]) else tokens

mutual

/-- **The tokens of an expression**, with parentheses where they are needed. -/
def Expr.print (dialect : Dialect) : Expr → List Token
  | .literal value => [value.token]
  | .var name => [.name name]
  | .list items => .sym .lbracket :: (printItems dialect items ++ [.sym .rbracket])
  | .unary op operand =>
      .sym op.symbol :: enclosed 13 operand.binding (operand.print dialect)
  | .binary op left right =>
      enclosed op.leftBinding left.binding (left.print dialect) ++
        .sym (op.symbol dialect) ::
          enclosed op.rightBinding right.binding (right.print dialect)
  | .conditional condition yes no =>
      enclosed 3 condition.binding (condition.print dialect) ++
        .sym .question :: (enclosed 1 yes.binding (yes.print dialect) ++
          .sym .colon :: enclosed 1 no.binding (no.print dialect))
  | .assign name op value =>
      .name name :: .sym op.symbol :: enclosed 1 value.binding (value.print dialect)
  | .call function args =>
      .name function :: .sym .lparen :: (printItems dialect args ++ [.sym .rparen])
  | .member target key =>
      enclosed 15 target.binding (target.print dialect) ++ [.sym .dot, .name key]
  | .index target key =>
      enclosed 15 target.binding (target.print dialect) ++
        .sym .lbracket :: (key.print dialect ++ [.sym .rbracket])
  | .method target name args =>
      enclosed 15 target.binding (target.print dialect) ++
        .sym .dot :: .name name :: .sym .lparen ::
          (printItems dialect args ++ [.sym .rparen])
  | .lambda params body =>
      printHead params ++ enclosed 1 body.binding (body.print dialect)
  | .sequence items => printItems dialect items

/-- Expressions with commas between them. -/
def printItems (dialect : Dialect) : List Expr → List Token
  | [] => []
  | item :: items => enclosed 1 item.binding (item.print dialect) ++ printMore dialect items

/-- Expressions, each after a comma. -/
def printMore (dialect : Dialect) : List Expr → List Token
  | [] => []
  | item :: items =>
      .sym .comma :: (enclosed 1 item.binding (item.print dialect) ++ printMore dialect items)

end

/-- The tokens of an expression where a level is asked for. -/
def Expr.printAt (dialect : Dialect) (asked : Nat) (e : Expr) : List Token :=
  enclosed asked e.binding (e.print dialect)

/-! ## What an expression is printed as -/

namespace Expr

variable (dialect : Dialect)

theorem print_literal (value : Value) : (literal value).print dialect = [value.token] := rfl

theorem print_var (name : String) : (var name).print dialect = [.name name] := rfl

theorem print_list (items : List Expr) :
    (list items).print dialect =
      .sym .lbracket :: (printItems dialect items ++ [.sym .rbracket]) := rfl

theorem print_unary (op : UnaryOp) (operand : Expr) :
    (unary op operand).print dialect = .sym op.symbol :: operand.printAt dialect 13 := rfl

theorem print_binary (op : BinaryOp) (left right : Expr) :
    (binary op left right).print dialect =
      left.printAt dialect op.leftBinding ++
        .sym (op.symbol dialect) :: right.printAt dialect op.rightBinding := rfl

theorem print_conditional (condition yes no : Expr) :
    (conditional condition yes no).print dialect =
      condition.printAt dialect 3 ++ .sym .question :: (yes.printAt dialect 1 ++
        .sym .colon :: no.printAt dialect 1) := rfl

theorem print_assign (name : String) (op : AssignOp) (value : Expr) :
    (assign name op value).print dialect =
      .name name :: .sym op.symbol :: value.printAt dialect 1 := rfl

theorem print_call (function : String) (args : List Expr) :
    (call function args).print dialect =
      .name function :: .sym .lparen :: (printItems dialect args ++ [.sym .rparen]) := rfl

theorem print_member (target : Expr) (key : String) :
    (member target key).print dialect =
      target.printAt dialect 15 ++ [.sym .dot, .name key] := rfl

theorem print_index (target key : Expr) :
    (index target key).print dialect =
      target.printAt dialect 15 ++ .sym .lbracket :: (key.print dialect ++ [.sym .rbracket]) :=
  rfl

theorem print_method (target : Expr) (name : String) (args : List Expr) :
    (method target name args).print dialect =
      target.printAt dialect 15 ++ .sym .dot :: .name name :: .sym .lparen ::
        (printItems dialect args ++ [.sym .rparen]) := rfl

theorem print_lambda (params : List String) (body : Expr) :
    (lambda params body).print dialect = printHead params ++ body.printAt dialect 1 := rfl

theorem print_sequence (items : List Expr) :
    (sequence items).print dialect = printItems dialect items := rfl

end Expr

theorem printItems_cons (dialect : Dialect) (item : Expr) (items : List Expr) :
    printItems dialect (item :: items) = item.printAt dialect 1 ++ printMore dialect items := rfl

theorem printMore_cons (dialect : Dialect) (item : Expr) (items : List Expr) :
    printMore dialect (item :: items) =
      .sym .comma :: (item.printAt dialect 1 ++ printMore dialect items) := rfl

/-! ## What can be printed -/

/-- **The expressions of a dialect**: names are no words for values, a list with
commas has at least two items, and arithmetic knows neither callbacks nor the
exclusive or. -/
inductive Expr.Readable (dialect : Dialect) : Expr → Prop
  | literal {value : Value} (spelled : value.isLiteral = true) : Readable dialect (.literal value)
  | var {name : String} (free : wordValue? name = none) : Readable dialect (.var name)
  | list {items : List Expr} (each : ∀ item ∈ items, Readable dialect item) :
      Readable dialect (.list items)
  | unary {op : UnaryOp} {operand : Expr} (inner : Readable dialect operand) :
      Readable dialect (.unary op operand)
  | binary {op : BinaryOp} {left right : Expr} (known : dialect = .math → op ≠ .bitXor)
      (inLeft : Readable dialect left) (inRight : Readable dialect right) :
      Readable dialect (.binary op left right)
  | conditional {condition yes no : Expr} (inCondition : Readable dialect condition)
      (inYes : Readable dialect yes) (inNo : Readable dialect no) :
      Readable dialect (.conditional condition yes no)
  | assign {name : String} {op : AssignOp} {value : Expr} (inner : Readable dialect value) :
      Readable dialect (.assign name op value)
  | call {function : String} {args : List Expr} (free : wordValue? function = none)
      (each : ∀ arg ∈ args, Readable dialect arg) : Readable dialect (.call function args)
  | member {target : Expr} {key : String} (inner : Readable dialect target) :
      Readable dialect (.member target key)
  | index {target key : Expr} (inner : Readable dialect target) (inKey : Readable dialect key) :
      Readable dialect (.index target key)
  | method {target : Expr} {name : String} {args : List Expr} (inner : Readable dialect target)
      (each : ∀ arg ∈ args, Readable dialect arg) : Readable dialect (.method target name args)
  | lambda {params : List String} {body : Expr} (callbacks : dialect = .script)
      (inner : Readable dialect body) : Readable dialect (.lambda params body)
  | sequence {items : List Expr} (several : 2 ≤ items.length)
      (each : ∀ item ∈ items, Readable dialect item) : Readable dialect (.sequence items)

/-! ## Statements -/

mutual

/-- **The tokens of a statement.** -/
def Stmt.print : Stmt → List Token
  | .expr e => .sym .lparen :: (e.print .script ++ [.sym .rparen, .sym .semicolon])
  | .declare name none => [.name "let", .name name, .sym .semicolon]
  | .declare name (some value) =>
      .name "let" :: .name name :: .sym .assign :: (value.printAt .script 1 ++ [.sym .semicolon])
  | .ret none => [.name "return", .sym .semicolon]
  | .ret (some value) => .name "return" :: (value.print .script ++ [.sym .semicolon])
  | .branch condition yes no =>
      .name "if" :: .sym .lparen :: (condition.print .script ++
        .sym .rparen :: .sym .lbrace :: (printStmts yes ++
          .sym .rbrace :: .name "else" :: .sym .lbrace :: (printStmts no ++ [.sym .rbrace])))

def printStmts : List Stmt → List Token
  | [] => []
  | stmt :: stmts => stmt.print ++ printStmts stmts

end

/-- Statements of readable expressions. -/
inductive Stmt.Readable : Stmt → Prop
  | expr {e : Expr} (inner : e.Readable .script) : Readable (.expr e)
  | declare {name : String} {value : Option Expr}
      (inner : ∀ e ∈ value, Expr.Readable .script e) : Readable (.declare name value)
  | ret {value : Option Expr} (inner : ∀ e ∈ value, Expr.Readable .script e) :
      Readable (.ret value)
  | branch {condition : Expr} {yes no : List Stmt} (inCondition : condition.Readable .script)
      (inYes : ∀ stmt ∈ yes, Readable stmt) (inNo : ∀ stmt ∈ no, Readable stmt) :
      Readable (.branch condition yes no)

end ChatTemplate.Script
