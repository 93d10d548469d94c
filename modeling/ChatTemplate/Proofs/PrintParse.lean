/-
# ChatTemplate.Proofs.PrintParse -- parsing undoes printing

Every readable expression is read back at its own level
(`Expr.Readable.readsBack`), by induction on its form.  Statements begin with a
word or a parenthesis, so blocks and programs are read one statement at a time.

Main statement: `parse_print`.
-/
import ChatTemplate.Proofs.ExpressionForms
import ChatTemplate.Proofs.ParsedReadable

namespace ChatTemplate.Script

set_option autoImplicit false

variable {dialect : Dialect} {e : Expr} {tokens rest : List Token}

/-! ## Expressions -/

theorem BinaryOp.binding_le (op : BinaryOp) : op.binding ≤ 14 := by
  cases op <;> decide

theorem Expr.binding_le (e : Expr) : e.binding ≤ 15 := by
  cases e with
  | binary op left right => exact Nat.le_trans op.binding_le (by omega)
  | _ => simp [binding]

/-- **A readable expression is read back** at its own level. -/
theorem Expr.Readable.readsBack (readable : e.Readable dialect) :
    ReadsBack dialect e.binding e (e.print dialect) := by
  induction readable with
  | literal spelled => exact .literal spelled
  | var free => exact .var free
  | list each ih => exact .list fun item member => (ih item member).printAt item.binding_le (by omega)
  | @unary op operand inner ih => exact .unary (ih.printAt operand.binding_le (by omega))
  | @binary op left right known inLeft inRight ihLeft ihRight =>
      have sides : op.leftBinding ≤ 15 ∧ op.rightBinding ≤ 15 := by cases op <;> decide
      have readLeft := ihLeft.printAt left.binding_le sides.1
      have readRight := ihRight.printAt right.binding_le sides.2
      by_cases power : op = .pow
      · subst power
        exact .power readLeft readRight
      · exact .binary power known readLeft readRight
  | @conditional condition yes no inCondition inYes inNo ihCondition ihYes ihNo =>
      exact .conditional (ihCondition.printAt condition.binding_le (by omega))
        (ihYes.printAt yes.binding_le (by omega)) (ihNo.printAt no.binding_le (by omega))
  | @assign name op value inner ih => exact .assign (ih.printAt value.binding_le (by omega))
  | call free each ih =>
      exact .call free fun arg member => (ih arg member).printAt arg.binding_le (by omega)
  | @member target key inner ih => exact .member (ih.printAt target.binding_le (by omega))
  | @index target key inner inKey ih ihKey =>
      exact .index (ih.printAt target.binding_le (by omega))
        (ihKey.at_most key.binding_le (by omega))
  | @method target name args inner each ih ihArgs =>
      exact .method (ih.printAt target.binding_le (by omega)) fun arg member =>
        (ihArgs arg member).printAt arg.binding_le (by omega)
  | @lambda params body callbacks inner ih =>
      exact .lambda callbacks (ih.printAt body.binding_le (by omega))
  | sequence several each ih =>
      exact .sequence several fun item member => (ih item member).printAt item.binding_le (by omega)

/-- A printed expression is read before anything that goes on with nothing. -/
theorem Expr.Readable.parseExpr_print (readable : e.Readable dialect)
    (stops : Stops dialect 0 rest) {n : Nat} (enough : 32 * ((e.print dialect).length + 1) ≤ n) :
    parseExpr dialect n (e.print dialect ++ rest) = .ok (e, rest) :=
  (readable.readsBack.at_most e.binding_le (Nat.zero_le _)).reads rest n stops (by omega)

theorem Expr.Readable.parse_printed (readable : e.Readable dialect) :
    parse dialect (e.print dialect ++ [.eof]) = .ok e := by
  have stops : Stops dialect 0 [.eof] := stops_of_binding_eq_none rfl 0 _
  have read : parseExpr dialect (parseBound (e.print dialect ++ [.eof]))
      (e.print dialect ++ [.eof]) = .ok (e, [.eof]) := by
    refine readable.parseExpr_print stops ?_
    rw [parseBound, List.length_append]
    omega
  rw [parse, read]
  rfl

/-- **The readable expressions** are the trees that the parser gives. -/
theorem Expr.readable_iff_parsed (e : Expr) :
    e.Readable dialect ↔ ∃ tokens, parse dialect tokens = .ok e :=
  ⟨fun readable => ⟨_, readable.parse_printed⟩, fun ⟨_, parsed⟩ => readable_of_parse parsed⟩

/-! ## Statements -/

/-- A statement begins with a word or a parenthesis. -/
theorem Stmt.begins_print (stmt : Stmt) : Begins 15 stmt.print := by
  cases stmt with
  | expr e => exact ⟨_, _, rfl, rfl⟩
  | declare name value => cases value <;> exact ⟨_, _, rfl, rfl⟩
  | ret value => cases value <;> exact ⟨_, _, rfl, rfl⟩
  | branch condition yes no => exact ⟨_, _, rfl, rfl⟩

theorem peek_ne {level : Nat} {token : Token} (begins : Begins level tokens)
    (apart : token.begins level = false) (more : List Token) : peek (tokens ++ more) ≠ token := by
  obtain ⟨first, tail, rfl, here⟩ := begins
  rintro rfl
  exact absurd here (by rw [show first.begins level = false from apart]; exact Bool.false_ne_true)

/-- What comes back from reading a statement, wherever it stands. -/
def StmtReadsBack (stmt : Stmt) : Prop :=
  ∀ rest n, stmt.print.length ≤ n → parseStmt n (stmt.print ++ rest) = .ok (stmt, rest)

theorem parseBlock_printStmts {stmts : List Stmt} (each : ∀ stmt ∈ stmts, StmtReadsBack stmt)
    {n : Nat} (enough : (printStmts stmts).length + 1 ≤ n) :
    parseBlock n (printStmts stmts ++ .sym .rbrace :: rest) = .ok (stmts, rest) := by
  induction stmts generalizing n with
  | nil =>
      obtain ⟨n, rfl⟩ : ∃ m, n = m + 1 := ⟨n - 1, by omega⟩
      rfl
  | cons stmt stmts ih =>
      obtain ⟨here, later⟩ := List.forall_mem_cons.1 each
      have begins := stmt.begins_print
      have some_ := begins.length_pos
      rw [printStmts, List.length_append] at enough
      obtain ⟨n, rfl⟩ : ∃ m, n = m + 1 := ⟨n - 1, by omega⟩
      have others := ih later (n := n) (by omega)
      rw [printStmts, List.append_assoc]
      unfold parseBlock
      split
      · next same => exact absurd same (begins_ne begins rfl _ _)
      · next same => exact absurd same (begins_ne begins rfl _ _)
      · rw [if_neg (peek_ne begins rfl _), here _ n (by omega), ok_bind]
        simp only [others, ok_bind]
        rfl

theorem parseStmts_printStmts {stmts : List Stmt} (each : ∀ stmt ∈ stmts, StmtReadsBack stmt)
    {n : Nat} (enough : (printStmts stmts).length + 1 ≤ n) :
    parseStmts n (printStmts stmts ++ [.eof]) = .ok stmts := by
  induction stmts generalizing n with
  | nil =>
      obtain ⟨n, rfl⟩ : ∃ m, n = m + 1 := ⟨n - 1, by omega⟩
      rfl
  | cons stmt stmts ih =>
      obtain ⟨here, later⟩ := List.forall_mem_cons.1 each
      have begins := stmt.begins_print
      have some_ := begins.length_pos
      rw [printStmts, List.length_append] at enough
      obtain ⟨n, rfl⟩ : ∃ m, n = m + 1 := ⟨n - 1, by omega⟩
      have others := ih later (n := n) (by omega)
      rw [printStmts, List.append_assoc]
      unfold parseStmts
      split
      · next same => exact absurd same (begins_ne begins rfl _ _)
      · rw [if_neg (peek_ne begins rfl _), here _ n (by omega), ok_bind]
        simp only [others, ok_bind]
        rfl

/-- Statements that are no branches are read by `parseSimple`. -/
theorem parseStmt_of_simple {stmt : Stmt} {n : Nat} (noBranch : ∀ tail, tokens ≠ .name "if" :: tail)
    (read : parseSimple tokens = .ok (stmt, .sym .semicolon :: rest)) :
    parseStmt (n + 1) tokens = .ok (stmt, rest) := by
  unfold parseStmt
  split
  · exact absurd rfl (noBranch _)
  · rw [read]
    rfl

/-! ## Reading statements back -/

namespace Stmt

theorem expr_readsBack (readable : e.Readable .script) : StmtReadsBack (.expr e) := by
  intro rest n enough
  have some_ := (begins_print (.expr e)).length_pos
  obtain ⟨n, rfl⟩ : ∃ m, n = m + 1 := ⟨n - 1, by omega⟩
  have own := (readable.readsBack.at_most e.binding_le (Nat.zero_le _)).paren
  have enclosed := own.at_most (Nat.le_refl 15) (Nat.zero_le _)
  have shape : (Stmt.expr e).print ++ rest =
      .sym .lparen :: (e.print .script ++ [.sym .rparen]) ++ .sym .semicolon :: rest := by
    simp [print]
  have stops : Stops .script 0 (.sym .semicolon :: rest) := stops_of_binding_eq_none rfl 0 rest
  have read : parseExpr .script (parseBound ((Stmt.expr e).print ++ rest))
      ((Stmt.expr e).print ++ rest) = .ok (e, .sym .semicolon :: rest) := by
    rw [shape]
    exact enclosed.reads _ (parseBound _) stops (by rw [parseBound, List.length_append]; omega)
  refine parseStmt_of_simple (by simp [print]) ?_
  have simple : parseSimple ((Stmt.expr e).print ++ rest) =
      parseSimple.expression ((Stmt.expr e).print ++ rest) := by
    rw [shape]
    rfl
  rw [simple, parseSimple.expression, read]
  rfl

theorem declare_readsBack {name : String} {value : Option Expr}
    (readable : ∀ e ∈ value, Expr.Readable .script e) : StmtReadsBack (.declare name value) := by
  intro rest n enough
  have some_ := (begins_print (.declare name value)).length_pos
  obtain ⟨n, rfl⟩ : ∃ m, n = m + 1 := ⟨n - 1, by omega⟩
  have word : ("let" = "return") = False ∧ isDeclaration "let" = true := by decide
  cases value with
  | none =>
      rw [print]
      exact parseStmt_of_simple (by simp) (by simp [parseSimple, word])
  | some value =>
      have own : ReadsBack .script 1 value (value.printAt .script 1) :=
        (readable value rfl).readsBack.printAt value.binding_le (by omega)
      have read : ∀ n, 32 * (value.printAt .script 1).length + 30 ≤ n →
          parseAssign .script n (value.printAt .script 1 ++ .sym .semicolon :: rest) =
            .ok (value, .sym .semicolon :: rest) := fun n large =>
        own.reads _ n (stops_of_binding_eq_none rfl 1 _) (by omega)
      rw [print]
      refine parseStmt_of_simple (by simp) ?_
      simp only [List.cons_append, List.append_assoc, List.nil_append, parseSimple, word, if_false,
        if_true]
      rw [read _ (by rw [parseBound, List.length_append]; omega)]
      rfl

theorem ret_readsBack {value : Option Expr} (readable : ∀ e ∈ value, Expr.Readable .script e) :
    StmtReadsBack (.ret value) := by
  intro rest n enough
  have some_ := (begins_print (.ret value)).length_pos
  obtain ⟨n, rfl⟩ : ∃ m, n = m + 1 := ⟨n - 1, by omega⟩
  cases value with
  | none =>
      rw [print]
      exact parseStmt_of_simple (by simp) (by simp [parseSimple, peek])
  | some value =>
      have readable := readable value rfl
      have begins := readable.readsBack.begins
      have read : parseExpr .script (parseBound (value.print .script ++ .sym .semicolon :: rest))
          (value.print .script ++ .sym .semicolon :: rest) =
            .ok (value, .sym .semicolon :: rest) :=
        readable.parseExpr_print (stops_of_binding_eq_none rfl 0 _) (by
          rw [parseBound, List.length_append]
          omega)
      rw [print]
      refine parseStmt_of_simple (by simp) ?_
      simp only [List.cons_append, List.append_assoc, List.nil_append, parseSimple, if_true]
      split
      · next ended => exact absurd ended (peek_ne begins rfl _)
      · next ended => exact absurd ended (peek_ne begins rfl _)
      · next ended => exact absurd ended (peek_ne begins rfl _)
      · rw [read]
        rfl

theorem branch_readsBack {condition : Expr} {yes no : List Stmt}
    (readable : condition.Readable .script) (readYes : ∀ stmt ∈ yes, StmtReadsBack stmt)
    (readNo : ∀ stmt ∈ no, StmtReadsBack stmt) : StmtReadsBack (.branch condition yes no) := by
  intro rest n enough
  rw [print] at enough ⊢
  simp only [List.length_append, List.length_cons, List.length_nil] at enough
  obtain ⟨n, rfl⟩ : ∃ m, n = m + 3 := ⟨n - 3, by omega⟩
  have readCondition : ∀ n tail, 32 * ((condition.print .script).length + 1) ≤ n →
      parseExpr .script n (condition.print .script ++ .sym .rparen :: tail) =
        .ok (condition, .sym .rparen :: tail) := fun n tail large =>
    readable.parseExpr_print (stops_of_binding_eq_none rfl 0 _) large
  have first : ∀ tail, parseBlock (n + 1) (printStmts yes ++ .sym .rbrace :: tail) = .ok (yes, tail) :=
    fun tail => parseBlock_printStmts readYes (by omega)
  have second : parseBlock (n + 1) (printStmts no ++ .sym .rbrace :: rest) = .ok (no, rest) :=
    parseBlock_printStmts readNo (by omega)
  simp only [List.cons_append, List.append_assoc, List.nil_append, parseStmt, expect, if_true,
    ok_bind]
  rw [readCondition _ _ (by rw [parseBound, List.length_append]; omega)]
  simp only [ok_bind, if_true, parseBody, first, second]
  rfl

/-- **A readable statement is read back**, wherever it stands. -/
theorem Readable.readsBack {stmt : Stmt} (readable : stmt.Readable) : StmtReadsBack stmt := by
  induction readable with
  | expr inner => exact expr_readsBack inner
  | declare inner => exact declare_readsBack inner
  | ret inner => exact ret_readsBack inner
  | branch inCondition inYes inNo ihYes ihNo => exact branch_readsBack inCondition ihYes ihNo

end Stmt

/-! ## Programs -/

theorem parseProgram_printStmts {stmts : List Stmt} (readable : ∀ stmt ∈ stmts, stmt.Readable) :
    parseProgram (printStmts stmts ++ [.eof]) = .ok stmts := by
  refine parseStmts_printStmts (fun stmt member => (readable stmt member).readsBack) ?_
  rw [parseBound, List.length_append]
  omega

/-- **The programs of readable statements** are what the parser gives. -/
theorem readable_iff_parsedProgram (stmts : List Stmt) :
    (∀ stmt ∈ stmts, stmt.Readable) ↔ ∃ tokens, parseProgram tokens = .ok stmts :=
  ⟨fun readable => ⟨_, parseProgram_printStmts readable⟩,
    fun ⟨_, parsed⟩ => readable_of_parseProgram parsed⟩

/-- **Parsing undoes printing**, for expressions of either dialect and for
programs. -/
theorem parse_print :
    (∀ (dialect : Dialect) (e : Expr), e.Readable dialect →
      parse dialect (e.print dialect ++ [.eof]) = .ok e) ∧
    (∀ stmts : List Stmt, (∀ stmt ∈ stmts, stmt.Readable) →
      parseProgram (printStmts stmts ++ [.eof]) = .ok stmts) :=
  ⟨fun _ _ readable => readable.parse_printed, fun _ readable => parseProgram_printStmts readable⟩

/-- `shift = (a, b) => (a, b)[0] - (a - -b ** 2)`. -/
def shift : Expr :=
  .assign "shift" .set (.lambda ["a", "b"] (.binary .sub
    (.index (.sequence [.var "a", .var "b"]) (.literal (.int 0)))
    (.binary .sub (.var "a") (.unary .neg (.binary .pow (.var "b") (.literal (.int 2)))))))

/-- `(-2) ^ -(2 ^ 3) ^ 2`, as arithmetic. -/
def tower : Expr :=
  .binary .pow (.unary .neg (.literal (.int 2)))
    (.unary .neg (.binary .pow (.binary .pow (.literal (.int 2)) (.literal (.int 3)))
      (.literal (.int 2))))

theorem shift_and_tower_are_read_back :
    shift.Readable .script ∧ parse .script (shift.print .script ++ [.eof]) = .ok shift ∧
      tower.Readable .math ∧ parse .math (tower.print .math ++ [.eof]) = .ok tower ∧
      parseProgram (printStmts [.branch shift [.ret (some shift)] []] ++ [.eof]) =
        .ok [.branch shift [.ret (some shift)] []] := by
  have number : ∀ dialect k, Expr.Readable dialect (.literal (.int k)) := fun _ _ => .literal rfl
  have name : ∀ word, wordValue? word = none → Expr.Readable .script (.var word) :=
    fun _ free => .var free
  have a := name "a" (by decide)
  have b := name "b" (by decide)
  have shifts : shift.Readable .script := by
    refine .assign (.lambda rfl (.binary nofun (.index (.sequence (by decide) ?_) (number _ 0))
      (.binary nofun a (.unary (.binary nofun b (number _ 2))))))
    exact List.forall_mem_cons.2 ⟨a, List.forall_mem_singleton.2 b⟩
  have towers : tower.Readable .math :=
    .binary (by simp) (.unary (number _ 2)) (.unary (.binary (by simp)
      (.binary (by simp) (number _ 2) (number _ 3)) (number _ 2)))
  obtain ⟨expressions, programs⟩ := parse_print
  refine ⟨shifts, expressions _ _ shifts, towers, expressions _ _ towers, programs _ ?_⟩
  refine List.forall_mem_singleton.2 (.branch shifts (List.forall_mem_singleton.2 (.ret ?_)) nofun)
  exact fun e same => Option.some.inj same ▸ shifts

end ChatTemplate.Script
