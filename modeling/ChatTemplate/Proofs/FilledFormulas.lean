/-
# ChatTemplate.Proofs.FilledFormulas -- a number in the place of a variable

When a number is written where a formula has its variable, one token changes (`Stands`).
A number is read wherever a name is, and formulas have no parentheses, so every reader
gives the same tree but for the leaves that are the variable (`Filled`), or fails on both
sources (`ReadsFilled`).  Evaluating such a leaf looks the name up, and everything else
is the same.

Main statement: `Formula.number_fill`, writing a number in the place of the variable is
the same as binding the variable to it.
-/
import Mathlib.Data.List.Forall2
import ChatTemplate.Proofs.Formulas
import ChatTemplate.Proofs.Frame
import ChatTemplate.Proofs.ParserInvariant
import ChatTemplate.Script.Sandbox

namespace ChatTemplate.Script

set_option autoImplicit false

/-! ## Tokens -/

/-- The number that a token is. -/
def Token.number? : Token → Option Value
  | .int n => some (.int n)
  | .float y => some (.float y)
  | _ => none

theorem Numeral.number_token (numeral : Numeral) :
    numeral.token.number? = some numeral.value := by
  have float : ∀ text, (floatToken text).number? =
      some (.float ((Decimal.read? text).getD (0.0 / 0.0))) := by
    intro text
    unfold floatToken
    cases Decimal.read? text <;> rfl
  unfold token value
  split
  · unfold digitsToken
    cases Text.readInt64? numeral.whole with
    | some n => rfl
    | none => exact float _
  · exact float _

/-- A token that can stand in a formula. -/
def Token.InFormula : Token → Prop
  | .sym symbol => symbol ∈ operators
  | .str _ => False
  | .unknown _ => False
  | _ => True

variable {x : String} {value : Value}

/-- **A token of a formula, and what stands in its place** when a number has been written
for the variable. -/
inductive Stands (x : String) (value : Value) : Token → Token → Prop
  | operator {symbol : Symbol} (known : symbol ∈ operators) :
      Stands x value (.sym symbol) (.sym symbol)
  | number {token : Token} {other : Value} (literal : token.number? = some other) :
      Stands x value token token
  | place {token : Token} (literal : token.number? = some value) :
      Stands x value (.name x) token
  | eof : Stands x value .eof .eof

theorem Token.int_or_float {token : Token} (literal : token.number? = some value) :
    (∃ n, token = .int n) ∨ ∃ y, token = .float y := by
  cases token with
  | int n => exact .inl ⟨n, rfl⟩
  | float y => exact .inr ⟨y, rfl⟩
  | _ => nomatch literal

theorem Token.inFormula_of_number {token : Token} (literal : token.number? = some value) :
    token.InFormula := by
  rcases int_or_float literal with ⟨n, rfl⟩ | ⟨y, rfl⟩ <;> trivial

theorem Stands.inFormula {token token' : Token} (stands : Stands x value token token') :
    token.InFormula ∧ token'.InFormula := by
  cases stands with
  | operator known => exact ⟨known, known⟩
  | number literal => exact ⟨token.inFormula_of_number literal, token.inFormula_of_number literal⟩
  | place literal => exact ⟨trivial, token'.inFormula_of_number literal⟩
  | eof => exact ⟨trivial, trivial⟩

/-- One source with a number in the places of the variable of another. -/
abbrev FilledSource (x : String) (value : Value) : List Token → List Token → Prop :=
  List.Forall₂ (Stands x value)

theorem FilledSource.inFormula {tokens tokens' : List Token}
    (source : FilledSource x value tokens tokens') :
    AllAdmitted Token.InFormula tokens ∧ AllAdmitted Token.InFormula tokens' := by
  induction source with
  | nil => exact ⟨nofun, nofun⟩
  | cons stands _ ih =>
      exact ⟨List.forall_mem_cons.2 ⟨stands.inFormula.1, ih.1⟩,
        List.forall_mem_cons.2 ⟨stands.inFormula.2, ih.2⟩⟩

theorem Formula.filledSource {name : List Char} {numeral : Numeral} {formula : List Part}
    (proper : Proper formula) :
    FilledSource (String.ofList name) numeral.value (tokens name formula ++ [.eof])
      (tokens name (fill numeral formula) ++ [.eof]) := by
  induction formula with
  | nil => exact .cons .eof .nil
  | cons part formula ih =>
      have rest := ih proper.tail
      cases part with
      | blank => exact rest
      | operator symbol => exact .cons (.operator (proper.parts _ List.mem_cons_self)) rest
      | number other => exact .cons (.number other.number_token) rest
      | place => exact .cons (.place numeral.number_token) rest

/-! ## Readers that have nothing to do -/

section

variable {n : Nat} {tokens : List Token} (source : AllAdmitted Token.InFormula tokens)
include source

theorem parseMore_formula : parseMore .math (n + 1) tokens = .ok ([], tokens) := by
  unfold parseMore
  split
  · exact absurd (source _ List.mem_cons_self) (by decide : Symbol.comma ∉ operators)
  · rfl

theorem parsePostfix_formula (target : Expr) :
    parsePostfix .math (n + 1) target tokens = .ok (target, tokens) := by
  have dot : Symbol.dot ∉ operators := by decide
  have bracket : Symbol.lbracket ∉ operators := by decide
  unfold parsePostfix
  split
  · exact absurd (source _ List.mem_cons_self) dot
  · exact absurd (source _ List.mem_cons_self) dot
  · exact absurd (source _ List.mem_cons_self) dot
  · exact absurd (source _ List.mem_cons_self) bracket
  · rfl

theorem assignmentHead_formula : assignmentHead? tokens = none := by
  unfold assignmentHead?
  split
  · next y symbol rest =>
      have known : symbol ∈ operators := source (.sym symbol) (by simp)
      have none : ∀ symbol ∈ operators, assignOp? symbol = none := by decide
      rw [none symbol known]
      rfl
  · rfl

end

/-! ## Reading -/

/-- **Two trees that differ only where the one has a variable** and the other a number. -/
inductive Filled (x : String) (value : Value) : Expr → Expr → Prop
  | literal {other : Value} : Filled x value (.literal other) (.literal other)
  | place : Filled x value (.var x) (.literal value)
  | unary {op : UnaryOp} {e e' : Expr} (operand : Filled x value e e') :
      Filled x value (.unary op e) (.unary op e')
  | binary {op : BinaryOp} {e e' f f' : Expr} (left : Filled x value e e')
      (right : Filled x value f f') : Filled x value (.binary op e f) (.binary op e' f')

/-- Two readers give such trees and leave such sources, or both fail. -/
inductive FilledReading (x : String) (value : Value) :
    Except SyntaxError (Expr × List Token) → Except SyntaxError (Expr × List Token) → Prop
  | ok {e e' : Expr} {rest rest' : List Token} (tree : Filled x value e e')
      (left : FilledSource x value rest rest') :
      FilledReading x value (.ok (e, rest)) (.ok (e', rest'))
  | error {cause cause' : SyntaxError} : FilledReading x value (.error cause) (.error cause')

theorem FilledReading.bind {one other : Except SyntaxError (Expr × List Token)}
    (same : FilledReading x value one other)
    {next next' : Expr × List Token → Except SyntaxError (Expr × List Token)}
    (goesOn : ∀ e e' rest rest', Filled x value e e' → FilledSource x value rest rest' →
      FilledReading x value (next (e, rest)) (next' (e', rest'))) :
    FilledReading x value (one >>= next) (other >>= next') := by
  cases same with
  | ok tree left => exact goesOn _ _ _ _ tree left
  | error => exact .error

section

variable {tokens tokens' : List Token} (source : FilledSource x value tokens tokens')
include source

/-- Both sources begin with an operator of a level, or none does. -/
theorem FilledSource.operatorAt (level : Nat) :
    (operatorAt? .math level tokens = none ∧ operatorAt? .math level tokens' = none) ∨
      ∃ op rest rest', operatorAt? .math level tokens = some (op, rest) ∧
        operatorAt? .math level tokens' = some (op, rest') ∧ FilledSource x value rest rest' := by
  cases source with
  | nil => exact .inl ⟨rfl, rfl⟩
  | cons stands later =>
      cases stands with
      | @operator symbol known =>
          rw [operatorAt?, operatorAt?]
          cases binaryOp? .math symbol with
          | none => exact .inl ⟨rfl, rfl⟩
          | some op =>
              by_cases here : op.level? = some level
              · exact .inr ⟨op, _, _, if_pos here, if_pos here, later⟩
              · exact .inl ⟨if_neg here, if_neg here⟩
      | number literal =>
          rcases Token.int_or_float literal with ⟨n, rfl⟩ | ⟨y, rfl⟩ <;> exact .inl ⟨rfl, rfl⟩
      | place literal =>
          rcases Token.int_or_float literal with ⟨n, rfl⟩ | ⟨y, rfl⟩ <;> exact .inl ⟨rfl, rfl⟩
      | eof => exact .inl ⟨rfl, rfl⟩

theorem FilledSource.powerAt :
    (powerAt? .math tokens = none ∧ powerAt? .math tokens' = none) ∨
      ∃ rest rest', powerAt? .math tokens = some rest ∧
        powerAt? .math tokens' = some rest' ∧ FilledSource x value rest rest' := by
  cases source with
  | nil => exact .inl ⟨rfl, rfl⟩
  | cons stands later =>
      cases stands with
      | @operator symbol known =>
          rw [powerAt?, powerAt?]
          by_cases here : binaryOp? .math symbol = some .pow
          · exact .inr ⟨_, _, if_pos here, if_pos here, later⟩
          · exact .inl ⟨if_neg here, if_neg here⟩
      | number literal =>
          rcases Token.int_or_float literal with ⟨n, rfl⟩ | ⟨y, rfl⟩ <;> exact .inl ⟨rfl, rfl⟩
      | place literal =>
          rcases Token.int_or_float literal with ⟨n, rfl⟩ | ⟨y, rfl⟩ <;> exact .inl ⟨rfl, rfl⟩
      | eof => exact .inl ⟨rfl, rfl⟩

/-- Both sources are at their end, or none is. -/
theorem FilledSource.peek_eof : peek tokens = .eof ↔ peek tokens' = .eof := by
  cases source with
  | nil => rfl
  | cons stands later =>
      cases stands with
      | operator known => rfl
      | number literal => rfl
      | place literal =>
          rcases Token.int_or_float literal with ⟨n, rfl⟩ | ⟨y, rfl⟩ <;> exact ⟨nofun, nofun⟩
      | eof => rfl

/-- A name is read as a variable where a number is read as itself. -/
theorem FilledSource.parsePrimary (unknown : wordValue? x = none) (n : Nat) :
    FilledReading x value (Script.parsePrimary .math n tokens)
      (Script.parsePrimary .math n tokens') := by
  cases n with
  | zero => exact .error
  | succ n =>
      have literally : ∀ {token : Token} {other : Value} {rest : List Token},
          token.number? = some other →
          Script.parsePrimary .math (n + 1) (token :: rest) = .ok (.literal other, rest) := by
        intro token other rest literal
        rcases Token.int_or_float literal with ⟨k, rfl⟩ | ⟨y, rfl⟩ <;>
          · obtain rfl := Option.some.inj literal
            rfl
      cases source with
      | nil => exact .error
      | @cons token token' rest rest' stands later =>
          cases stands with
          | @operator symbol known =>
              simp only [operators, List.mem_cons, List.not_mem_nil, or_false] at known
              rcases known with rfl | rfl | rfl | rfl | rfl | rfl | rfl <;> exact .error
          | number literal =>
              rw [literally literal, literally literal]
              exact .ok .literal later
          | place literal =>
              have paren : Symbol.lparen ∉ operators := by decide
              rw [literally literal, parsePrimary_name, unknown]
              dsimp only
              split
              · have plain := (FilledSource.inFormula later).1
                exact absurd (plain _ List.mem_cons_self) paren
              · exact .ok .place later
          | eof => exact .error

end

/-- **The readers of operators read the same from both sources.** -/
structure ReadsFilled (x : String) (value : Value) (n : Nat) : Prop where
  binary (level : Nat) {tokens tokens' : List Token}
      (source : FilledSource x value tokens tokens') :
    FilledReading x value (parseBinary .math n level tokens) (parseBinary .math n level tokens')
  operands (level : Nat) {left left' : Expr} (tree : Filled x value left left')
    {tokens tokens' : List Token} (source : FilledSource x value tokens tokens') :
    FilledReading x value (parseOperands .math n level left tokens)
      (parseOperands .math n level left' tokens')
  unary {tokens tokens' : List Token} (source : FilledSource x value tokens tokens') :
    FilledReading x value (parseUnary .math n tokens) (parseUnary .math n tokens')
  power {tokens tokens' : List Token} (source : FilledSource x value tokens tokens') :
    FilledReading x value (parsePower .math n tokens) (parsePower .math n tokens')

namespace ReadsFilled

variable {n : Nat} {tokens tokens' : List Token}

theorem step_binary (calls : ReadsFilled x value n) (level : Nat)
    (source : FilledSource x value tokens tokens') :
    FilledReading x value (parseBinary .math (n + 1) level tokens)
      (parseBinary .math (n + 1) level tokens') := by
  rw [parseBinary, parseBinary]
  by_cases binary : level < 10
  · rw [if_pos binary, if_pos binary]
    refine (calls.binary (level + 1) source).bind fun left left' rest rest' tree source => ?_
    exact calls.operands level tree source
  · rw [if_neg binary, if_neg binary]
    exact calls.unary source

theorem step_operands (calls : ReadsFilled x value n) (level : Nat) {left left' : Expr}
    (tree : Filled x value left left') (source : FilledSource x value tokens tokens') :
    FilledReading x value (parseOperands .math (n + 1) level left tokens)
      (parseOperands .math (n + 1) level left' tokens') := by
  rw [parseOperands, parseOperands]
  rcases source.operatorAt level with ⟨none, none'⟩ | ⟨op, rest, rest', found, found', later⟩
  · rw [none, none']
    exact .ok tree source
  · rw [found, found']
    refine (calls.binary (level + 1) later).bind fun right right' rest rest' operand source => ?_
    exact calls.operands level (.binary tree operand) source

theorem step_unary (calls : ReadsFilled x value n) (source : FilledSource x value tokens tokens') :
    FilledReading x value (parseUnary .math (n + 1) tokens)
      (parseUnary .math (n + 1) tokens') := by
  cases source with
  | nil => exact calls.power .nil
  | @cons token token' rest rest' stands later =>
      have power := calls.power (.cons stands later)
      cases stands with
      | @operator symbol known =>
          rw [parseUnary, parseUnary]
          cases unaryOp? symbol with
          | none => exact power
          | some op =>
              refine (calls.unary later).bind fun e e' rest rest' operand source => ?_
              exact .ok (.unary operand) source
      | number literal =>
          rcases Token.int_or_float literal with ⟨n, rfl⟩ | ⟨y, rfl⟩ <;> exact power
      | place literal =>
          rcases Token.int_or_float literal with ⟨n, rfl⟩ | ⟨y, rfl⟩ <;> exact power
      | eof => exact power

theorem step_power (unknown : wordValue? x = none) (calls : ReadsFilled x value n)
    (source : FilledSource x value tokens tokens') :
    FilledReading x value (parsePower .math (n + 1) tokens)
      (parsePower .math (n + 1) tokens') := by
  rw [parsePower, parsePower]
  refine (source.parsePrimary unknown n).bind fun base base' rest rest' tree source => ?_
  cases n with
  | zero => exact .error
  | succ n =>
      dsimp only
      rw [parsePostfix_formula source.inFormula.1, parsePostfix_formula source.inFormula.2]
      dsimp only [Bind.bind, Except.bind]
      rcases source.powerAt with ⟨none, none'⟩ | ⟨after, after', found, found', later⟩
      · rw [none, none']
        exact .ok tree source
      · rw [found, found']
        refine (calls.unary later).bind fun e e' rest rest' exponent source => ?_
        exact .ok (.binary tree exponent) source

end ReadsFilled

theorem readsFilled (unknown : wordValue? x = none) (n : Nat) : ReadsFilled x value n := by
  induction n with
  | zero => constructor <;> intros <;> exact .error
  | succ n ih =>
      exact
        { binary := fun level _ _ => ih.step_binary level
          operands := fun level _ _ tree _ _ => ih.step_operands level tree
          unary := ih.step_unary
          power := ih.step_power unknown }

/-- An expression has to take up all tokens. -/
theorem parse_eq_bind (dialect : Dialect) (tokens : List Token) :
    Script.parse dialect tokens =
      (Script.parseExpr dialect (parseBound tokens) tokens).bind fun read =>
        if peek read.2 = .eof then .ok read.1 else .error (.leftover (peek read.2)) := by
  rw [Script.parse]
  cases Script.parseExpr dialect (parseBound tokens) tokens with
  | error cause => rfl
  | ok read =>
      obtain ⟨e, rest⟩ := read
      dsimp only [Bind.bind, Except.bind]
      cases peek rest <;> rfl

section

variable {tokens tokens' : List Token} (source : FilledSource x value tokens tokens')
include source

/-- Neither source has a condition, an assignment or a comma. -/
theorem FilledSource.parseExpr (unknown : wordValue? x = none) (n : Nat) :
    FilledReading x value (Script.parseExpr .math n tokens)
      (Script.parseExpr .math n tokens') := by
  have conditional : ∀ n {tokens tokens'}, FilledSource x value tokens tokens' →
      FilledReading x value (parseConditional .math n tokens)
        (parseConditional .math n tokens') := by
    intro n tokens tokens' source
    cases n with
    | zero => exact .error
    | succ n =>
        rw [parseConditional, parseConditional]
        refine ((readsFilled unknown n).binary 0 source).bind fun e e' rest rest' tree source => ?_
        have question : Symbol.question ∉ operators := by decide
        dsimp only
        split
        · exact absurd (source.inFormula.1 _ List.mem_cons_self) question
        · split
          · exact absurd (source.inFormula.2 _ List.mem_cons_self) question
          · exact .ok tree source
  have assign : ∀ n {tokens tokens'}, FilledSource x value tokens tokens' →
      FilledReading x value (parseAssign .math n tokens) (parseAssign .math n tokens') := by
    intro n tokens tokens' source
    cases n with
    | zero => exact .error
    | succ n =>
        rw [parseAssign, parseAssign, assignmentHead_formula source.inFormula.1,
          assignmentHead_formula source.inFormula.2]
        exact conditional n source
  cases n with
  | zero => exact .error
  | succ n =>
      rw [Script.parseExpr, Script.parseExpr]
      refine (assign n source).bind fun e e' rest rest' tree source => ?_
      cases n with
      | zero => exact .error
      | succ n =>
          dsimp only
          rw [parseMore_formula source.inFormula.1, parseMore_formula source.inFormula.2]
          exact .ok tree source

/-- **Both sources are read as such trees**, or none is an expression. -/
theorem FilledSource.parse (unknown : wordValue? x = none) :
    (∃ e e', Script.parse .math tokens = .ok e ∧ Script.parse .math tokens' = .ok e' ∧
        Filled x value e e') ∨
      ∃ cause cause', Script.parse .math tokens = .error cause ∧
        Script.parse .math tokens' = .error cause' := by
  have bound : parseBound tokens' = parseBound tokens := by
    rw [parseBound, parseBound, source.length_eq]
  have read := source.parseExpr unknown (parseBound tokens)
  rw [parse_eq_bind, parse_eq_bind, bound]
  generalize Script.parseExpr .math (parseBound tokens) tokens = one at read ⊢
  generalize Script.parseExpr .math (parseBound tokens) tokens' = other at read ⊢
  cases read with
  | error => exact .inr ⟨_, _, rfl, rfl⟩
  | @ok e e' rest rest' tree left =>
      by_cases ended : peek rest = .eof
      · exact .inl ⟨e, e', if_pos ended, if_pos (left.peek_eof.1 ended), tree⟩
      · exact .inr ⟨.leftover (peek rest), .leftover (peek rest'), if_neg ended,
          if_neg fun ended' => ended (left.peek_eof.2 ended')⟩

end

/-! ## Evaluating -/

/-- Two computations have the same outcome and change nothing. -/
def SameOutcome (state state' : State) (one other : Eval Value) : Prop :=
  ∃ result, ExceptT.run one state = (result, state) ∧ ExceptT.run other state' = (result, state')

theorem SameOutcome.bind {state state' : State} {one other : Eval Value}
    (same : SameOutcome state state' one other) {next next' : Value → Eval Value}
    (goesOn : ∀ result, SameOutcome state state' (next result) (next' result)) :
    SameOutcome state state' (one >>= next) (other >>= next') := by
  obtain ⟨result, run, run'⟩ := same
  rw [SameOutcome, run_bind, run_bind, run, run']
  cases result with
  | ok result => exact goesOn result
  | error cause => exact ⟨.error cause, rfl, rfl⟩

variable {state state' : State}

theorem SameOutcome.pure (result : Value) :
    SameOutcome state state' (Pure.pure result) (Pure.pure result) :=
  ⟨.ok result, rfl, rfl⟩

theorem SameOutcome.ofExcept (result : Except ScriptError Value) :
    SameOutcome state state' (Script.ofExcept result) (Script.ofExcept result) := by
  cases result with
  | ok result => exact .pure result
  | error cause => exact ⟨.error cause, rfl, rfl⟩

/-- **A variable has the value that is written in its place.** -/
theorem Filled.eval {e e' : Expr} (filled : Filled x value e e')
    (bound : state.scope.get? x = some value) :
    SameOutcome state state' (Script.eval e) (Script.eval e') := by
  induction filled with
  | literal => exact .pure _
  | place =>
      refine ⟨.ok value, ?_, rfl⟩
      have looked : ExceptT.run (lookupName? x) state = (.ok (some value), state) :=
        congrArg (fun found => (Except.ok found, state)) bound
      rw [Script.eval, lookupName, run_bind, looked]
      rfl
  | unary operand ih =>
      rw [Script.eval, Script.eval]
      exact ih.bind fun result => .pure _
  | binary left right ihLeft ihRight =>
      rw [Script.eval, Script.eval]
      refine ihLeft.bind fun a => ?_
      split
      · split
        · exact ihRight
        · exact .pure a
      · split
        · exact .pure a
        · exact ihRight
      · exact ihRight.bind fun b => .ofExcept _

/-- The number that an arithmetic expression stands for in a scope. -/
def numberIn (scope : Scope) (expression : List Char) (dice : Dice) : Except ScriptError Float := do
  let value ← outcome (evalSource .math expression) scope dice
  match value with
  | .int _ | .float _ | .bool _ => return value.toFloat
  | _ => .error (.noNumber value.text)

theorem number_eq (expression : List Char) (dice : Dice) :
    number expression dice = numberIn (Scope.ofDialect .math) expression dice := rfl

section

variable {c : Char} {name : List Char} {formula : List Part} {numeral : Numeral}

/-- **A number in the place of a variable is what the variable is bound to**: both
evaluations fail, or both give the same number. -/
theorem Formula.number_fill (start : isNameStart c = true)
    (parts : ∀ d ∈ name, isNamePart d = true)
    (unknown : wordValue? (String.ofList (c :: name)) = none) (proper : Proper formula)
    (number : numeral.Proper) (dice : Dice) :
    (Script.number (write (c :: name) (fill numeral formula)) dice).toOption =
      (numberIn ((Scope.ofDialect .math).set (String.ofList (c :: name)) numeral.value)
        (write (c :: name) formula) dice).toOption := by
  let scope := (Scope.ofDialect .math).set (String.ofList (c :: name)) numeral.value
  have bound : scope.get? (String.ofList (c :: name)) = some numeral.value := by
    rw [Table.get?_set, if_pos rfl]
  have evaluated : (outcome (evalSource .math (write (c :: name) (fill numeral formula)))
        (Scope.ofDialect .math) dice).toOption =
      (outcome (evalSource .math (write (c :: name) formula)) scope dice).toOption := by
    rw [evalSource, evalSource, lex_write start parts proper,
      lex_write start parts (proper.fill number)]
    rcases (filledSource proper).parse unknown with
      ⟨e, e', read, read', filled⟩ | ⟨cause, cause', read, read'⟩
    · have same : SameOutcome ⟨scope, dice⟩ ⟨Scope.ofDialect .math, dice⟩ (eval e) (eval e') :=
        filled.eval bound
      obtain ⟨result, run, run'⟩ := same
      rw [read, read', outcome, outcome, run, run']
    · rw [read, read']
      rfl
  rw [number_eq, numberIn, numberIn]
  generalize outcome _ (Scope.ofDialect .math) dice = one at evaluated ⊢
  generalize outcome _ scope dice = other at evaluated ⊢
  cases one with
  | ok value =>
      cases other with
      | ok value' => rw [Option.some.inj evaluated]
      | error cause => nomatch evaluated
  | error cause =>
      cases other with
      | ok value => nomatch evaluated
      | error cause' => rfl

end

end ChatTemplate.Script
