/-
# ChatTemplate.Proofs.ParserBound -- the parser's bound is never reached

The readers of the grammar count the calls that they may still nest.  Every call
either consumes a token or goes one level down the grammar, of which there are fewer
than thirty-two; so `parseBound` is enough for any source, and no source fails because
it is nested too deeply.

The reader of a level needs thirty-two calls for each token, and as many besides as
there are levels below it (`EndsInTime`).  A reader that starts with a smaller one goes
on with fewer tokens and has thirty-two calls to spare; so what a reader leaves has to
be counted too (`Ends`).

Main statements: `parse_ne_tooDeep`, `parseProgram_ne_tooDeep`.
-/
import ChatTemplate.Proofs.ParserInvariant

namespace ChatTemplate.Script

set_option autoImplicit false

variable {dialect : Dialect} {n limit : Nat} {tokens rest : List Token}

/-! ## Readers that end -/

/-- **A reader ends by itself**: it leaves fewer tokens than a limit, or it fails for a
reason that is in the source. -/
inductive Ends {α : Type} (limit : Nat) : Except SyntaxError (α × List Token) → Prop
  | ok {tree : α} {rest : List Token} (left : rest.length < limit) : Ends limit (.ok (tree, rest))
  | error {cause : SyntaxError} (inSource : cause ≠ .tooDeep) : Ends limit (.error cause)

namespace Ends

variable {α β : Type} {first : Except SyntaxError (α × List Token)}

theorem bind (ends : Ends limit first) {most : Nat}
    {next : α × List Token → Except SyntaxError (β × List Token)}
    (goesOn : ∀ tree rest, rest.length < limit → Ends most (next (tree, rest))) :
    Ends most (first >>= next) := by
  cases ends with
  | ok left => exact goesOn _ _ left
  | error inSource => exact .error inSource

theorem mono (ends : Ends limit first) {most : Nat} (within : limit ≤ most) :
    Ends most first := by
  cases ends with
  | ok left => exact .ok (Nat.lt_of_lt_of_le left within)
  | error inSource => exact .error inSource

/-- An expected symbol is consumed. -/
theorem expect (what : Expected) (symbol : Symbol)
    {next : List Token → Except SyntaxError (β × List Token)}
    (goesOn : ∀ rest, rest.length < tokens.length → Ends limit (next rest)) :
    Ends limit (Script.expect what symbol tokens >>= next) := by
  unfold Script.expect
  split
  · split
    · exact goesOn _ (Nat.lt_succ_self _)
    · exact .error (by simp)
  · exact .error (by simp)

end Ends

/-! ## Expressions -/

/-- **Readers with enough calls left end.**  A reader of what may be absent can leave all
its tokens; the others consume one.  Besides the calls for its tokens a reader needs one
for each level that it may go down before it consumes one, seventeen at most. -/
structure EndsInTime (dialect : Dialect) (n : Nat) : Prop where
  expr {tokens : List Token} (enough : 32 * tokens.length + 17 ≤ n) :
    Ends tokens.length (parseExpr dialect n tokens)
  more {tokens : List Token} (enough : 32 * tokens.length + 1 ≤ n) :
    Ends (tokens.length + 1) (parseMore dialect n tokens)
  assign {tokens : List Token} (enough : 32 * tokens.length + 16 ≤ n) :
    Ends tokens.length (parseAssign dialect n tokens)
  conditional {tokens : List Token} (enough : 32 * tokens.length + 15 ≤ n) :
    Ends tokens.length (parseConditional dialect n tokens)
  binary (level : Nat) {tokens : List Token} (enough : 32 * tokens.length + 4 + (10 - level) ≤ n) :
    Ends tokens.length (parseBinary dialect n level tokens)
  operands (level : Nat) (left : Expr) {tokens : List Token}
    (enough : 32 * tokens.length + 1 ≤ n) :
    Ends (tokens.length + 1) (parseOperands dialect n level left tokens)
  unary {tokens : List Token} (enough : 32 * tokens.length + 3 ≤ n) :
    Ends tokens.length (parseUnary dialect n tokens)
  power {tokens : List Token} (enough : 32 * tokens.length + 2 ≤ n) :
    Ends tokens.length (parsePower dialect n tokens)
  target (target : Expr) {tokens : List Token} (enough : 32 * tokens.length + 1 ≤ n) :
    Ends (tokens.length + 1) (parsePostfix dialect n target tokens)
  args (function : String) {tokens : List Token} (enough : 32 * tokens.length + 17 ≤ n) :
    Ends tokens.length (parseArgs dialect n function tokens)
  items {tokens : List Token} (enough : 32 * tokens.length + 17 ≤ n) :
    Ends tokens.length (parseItems dialect n tokens)
  primary {tokens : List Token} (enough : 32 * tokens.length + 1 ≤ n) :
    Ends tokens.length (parsePrimary dialect n tokens)

namespace EndsInTime

theorem step_expr (calls : EndsInTime dialect n) (enough : 32 * tokens.length + 17 ≤ n + 1) :
    Ends tokens.length (parseExpr dialect (n + 1) tokens) := by
  rw [parseExpr]
  refine (calls.assign (by omega)).bind fun first rest left => ?_
  dsimp only
  refine (calls.more (by omega)).bind fun others later left => ?_
  dsimp only
  exact .ok (by omega)

theorem step_more (calls : EndsInTime dialect n) (enough : 32 * tokens.length + 1 ≤ n + 1) :
    Ends (tokens.length + 1) (parseMore dialect (n + 1) tokens) := by
  unfold parseMore
  split
  · next tokens =>
      simp only [List.length_cons] at enough ⊢
      refine (calls.assign (by omega)).bind fun item rest left => ?_
      dsimp only
      refine (calls.more (by omega)).bind fun items later left => ?_
      dsimp only
      exact .ok (by omega)
  · exact .ok (Nat.lt_succ_self _)

theorem step_assign (calls : EndsInTime dialect n) (enough : 32 * tokens.length + 16 ≤ n + 1) :
    Ends tokens.length (parseAssign dialect (n + 1) tokens) := by
  rw [parseAssign]
  split
  · next params rest callback =>
      obtain ⟨-, token, later, rfl, suffix⟩ := callbackHead_eq_some callback
      have most : rest.length < later.length := suffix.length_le
      simp only [List.length_cons] at enough ⊢
      refine (calls.assign (by omega)).bind fun body later left => ?_
      dsimp only
      exact .ok (by omega)
  · split
    · next name op rest assignment =>
        obtain ⟨s, -, rfl⟩ := assignmentHead_eq_some assignment
        simp only [List.length_cons] at enough ⊢
        refine (calls.assign (by omega)).bind fun value later left => ?_
        dsimp only
        exact .ok (by omega)
    · exact calls.conditional (by omega)

theorem step_conditional (calls : EndsInTime dialect n)
    (enough : 32 * tokens.length + 15 ≤ n + 1) :
    Ends tokens.length (parseConditional dialect (n + 1) tokens) := by
  rw [parseConditional]
  refine (calls.binary 0 (by omega)).bind fun condition rest left => ?_
  dsimp only
  split
  · next rest =>
      simp only [List.length_cons] at left
      refine (calls.assign (by omega)).bind fun yes rest left => ?_
      dsimp only
      refine Ends.expect .colon .colon fun rest left => ?_
      refine (calls.assign (by omega)).bind fun no rest left => ?_
      dsimp only
      exact .ok (by omega)
  · exact .ok left

theorem step_binary (calls : EndsInTime dialect n) (level : Nat)
    (enough : 32 * tokens.length + 4 + (10 - level) ≤ n + 1) :
    Ends tokens.length (parseBinary dialect (n + 1) level tokens) := by
  rw [parseBinary]
  split
  · refine (calls.binary (level + 1) (by omega)).bind fun left rest consumed => ?_
    dsimp only
    exact (calls.operands level left (by omega)).mono (by omega)
  · exact calls.unary (by omega)

theorem step_operands (calls : EndsInTime dialect n) (level : Nat) (left : Expr)
    (enough : 32 * tokens.length + 1 ≤ n + 1) :
    Ends (tokens.length + 1) (parseOperands dialect (n + 1) level left tokens) := by
  rw [parseOperands]
  split
  · next op rest operator =>
      obtain ⟨s, -, rfl⟩ := operatorAt_eq_some operator
      simp only [List.length_cons] at enough ⊢
      refine (calls.binary (level + 1) (by omega)).bind fun right rest fewer => ?_
      dsimp only
      exact (calls.operands level _ (by omega)).mono (by omega)
  · exact .ok (Nat.lt_succ_self _)

theorem step_unary (calls : EndsInTime dialect n) (enough : 32 * tokens.length + 3 ≤ n + 1) :
    Ends tokens.length (parseUnary dialect (n + 1) tokens) := by
  unfold parseUnary
  split
  · next s rest =>
      split
      · simp only [List.length_cons] at enough ⊢
        refine (calls.unary (by omega)).bind fun operand later left => ?_
        dsimp only
        exact .ok (by omega)
      · exact calls.power (by omega)
  · exact calls.power (by omega)

theorem step_power (calls : EndsInTime dialect n) (enough : 32 * tokens.length + 2 ≤ n + 1) :
    Ends tokens.length (parsePower dialect (n + 1) tokens) := by
  rw [parsePower]
  refine (calls.primary (by omega)).bind fun first rest left => ?_
  dsimp only
  refine (calls.target first (by omega)).bind fun base rest fewer => ?_
  dsimp only
  split
  · next later power =>
      obtain ⟨s, -, rfl⟩ := powerAt_eq_some power
      simp only [List.length_cons] at fewer
      refine (calls.unary (by omega)).bind fun exponent rest left => ?_
      dsimp only
      exact .ok (by omega)
  · exact .ok (by omega)

theorem step_target (calls : EndsInTime dialect n) (target : Expr)
    (enough : 32 * tokens.length + 1 ≤ n + 1) :
    Ends (tokens.length + 1) (parsePostfix dialect (n + 1) target tokens) := by
  unfold parsePostfix
  split
  · next key rest =>
      simp only [List.length_cons] at enough ⊢
      refine (calls.args key (by omega)).bind fun args later left => ?_
      dsimp only
      exact (calls.target _ (by omega)).mono (by omega)
  · next key rest other =>
      simp only [List.length_cons] at enough ⊢
      exact (calls.target _ (by omega)).mono (by omega)
  · exact .error (by simp)
  · next rest =>
      simp only [List.length_cons] at enough ⊢
      refine (calls.expr (by omega)).bind fun key later left => ?_
      dsimp only
      refine Ends.expect .closeIndex .rbracket fun later fewer => ?_
      exact (calls.target _ (by omega)).mono (by omega)
  · exact .ok (Nat.lt_succ_self _)

theorem step_args (calls : EndsInTime dialect n) (function : String)
    (enough : 32 * tokens.length + 17 ≤ n + 1) :
    Ends tokens.length (parseArgs dialect (n + 1) function tokens) := by
  unfold parseArgs
  split
  · exact .ok (Nat.lt_succ_self _)
  · refine (calls.assign (by omega)).bind fun first rest left => ?_
    dsimp only
    refine (calls.more (by omega)).bind fun others rest fewer => ?_
    dsimp only
    split
    · next later =>
        simp only [List.length_cons] at fewer
        exact .ok (by omega)
    · exact .error (by simp)

theorem step_items (calls : EndsInTime dialect n) (enough : 32 * tokens.length + 17 ≤ n + 1) :
    Ends tokens.length (parseItems dialect (n + 1) tokens) := by
  unfold parseItems
  split
  · exact .ok (Nat.lt_succ_self _)
  · refine (calls.assign (by omega)).bind fun item rest left => ?_
    dsimp only
    split
    · next later =>
        simp only [List.length_cons] at left
        refine (calls.items (by omega)).bind fun items rest fewer => ?_
        dsimp only
        exact .ok (by omega)
    · refine Ends.expect .closeIndex .rbracket fun later fewer => ?_
      exact .ok (by omega)

theorem step_primary (calls : EndsInTime dialect n) (enough : 32 * tokens.length + 1 ≤ n + 1) :
    Ends tokens.length (parsePrimary dialect (n + 1) tokens) := by
  cases tokens with
  | nil => exact .error (by simp)
  | cons token rest =>
      have consumed : rest.length < (token :: rest).length := Nat.lt_succ_self _
      rw [List.length_cons] at enough
      cases token with
      | int k => exact .ok consumed
      | float x => exact .ok consumed
      | str s => exact .ok consumed
      | name word =>
          rw [parsePrimary_name]
          split
          · exact .ok consumed
          · split
            · next later =>
                simp only [List.length_cons] at enough ⊢
                refine (calls.args word (by omega)).bind fun args left fewer => ?_
                dsimp only
                exact .ok (by omega)
            · exact .ok consumed
      | sym s =>
          cases s with
          | lparen =>
              rw [parsePrimary_paren]
              refine (calls.expr (by omega)).bind fun inner later left => ?_
              dsimp only
              refine Ends.expect .closeParen .rparen fun later fewer => ?_
              exact .ok (by omega)
          | lbracket =>
              rw [parsePrimary_list]
              refine (calls.items (by omega)).bind fun items later left => ?_
              dsimp only
              exact .ok (by omega)
          | _ => exact .error (by simp)
      | unknown c => exact .error (by simp)
      | eof => exact .error (by simp)

end EndsInTime

theorem endsInTime (dialect : Dialect) (n : Nat) : EndsInTime dialect n := by
  induction n with
  | zero => constructor <;> intros <;> omega
  | succ n ih =>
      exact
        { expr := ih.step_expr
          more := ih.step_more
          assign := ih.step_assign
          conditional := ih.step_conditional
          binary := fun level _ => ih.step_binary level
          operands := fun level left _ => ih.step_operands level left
          unary := ih.step_unary
          power := ih.step_power
          target := fun target _ => ih.step_target target
          args := fun function _ => ih.step_args function
          items := ih.step_items
          primary := ih.step_primary }

theorem ends_parseExpr (dialect : Dialect) (tokens : List Token) :
    Ends tokens.length (parseExpr dialect (parseBound tokens) tokens) := by
  apply (endsInTime dialect _).expr
  rw [parseBound]
  omega

/-- **No expression is nested too deeply.** -/
theorem parse_ne_tooDeep (dialect : Dialect) (tokens : List Token) :
    parse dialect tokens ≠ .error .tooDeep := by
  have ends := ends_parseExpr dialect tokens
  rw [parse]
  generalize parseExpr dialect (parseBound tokens) tokens = read at ends ⊢
  cases ends with
  | error inSource =>
      intro failed
      exact inSource (Except.error.inj failed)
  | @ok tree rest left =>
      dsimp only [Bind.bind, Except.bind, Pure.pure, Except.pure]
      split <;> simp

/-! ## Statements -/

theorem ends_parseSimple (tokens : List Token) : Ends tokens.length (parseSimple tokens) := by
  have expression : Ends tokens.length (parseSimple.expression tokens) := by
    refine (ends_parseExpr .script tokens).bind fun e rest left => ?_
    dsimp only
    exact .ok left
  unfold parseSimple
  split
  · next word rest =>
      have consumed : rest.length < (Token.name word :: rest).length := Nat.lt_succ_self _
      split
      · split
        · exact .ok consumed
        · exact .ok consumed
        · exact .ok consumed
        · refine (ends_parseExpr .script rest).bind fun value later left => ?_
          dsimp only
          exact .ok (by omega)
      · split
        · split
          · next x later =>
              simp only [List.length_cons] at consumed ⊢
              have ends : Ends later.length (parseAssign .script (parseBound later) later) := by
                apply (endsInTime .script _).assign
                rw [parseBound]
                omega
              refine ends.bind fun value rest left => ?_
              dsimp only
              exact .ok (by omega)
          · next x later other =>
              simp only [List.length_cons]
              exact .ok (by omega)
          · exact .error (by simp)
        · exact expression
  · exact expression

theorem ends_endStatement (stmt : Stmt) (tokens : List Token) :
    Ends (tokens.length + 1) (endStatement stmt tokens) := by
  unfold endStatement
  split
  · next rest =>
      simp only [List.length_cons]
      exact .ok (by omega)
  · split
    · exact .ok (Nat.lt_succ_self _)
    · exact .ok (Nat.lt_succ_self _)
    · exact .error (by simp)

/-- **Readers of statements with enough calls left end**, and consume a token. -/
structure StatementsEnd (n : Nat) : Prop where
  stmt {tokens : List Token} (enough : 32 * tokens.length + 1 ≤ n) :
    Ends tokens.length (parseStmt n tokens)
  body {tokens : List Token} (enough : 32 * tokens.length + 2 ≤ n) :
    Ends tokens.length (parseBody n tokens)
  block {tokens : List Token} (enough : 32 * tokens.length + 2 ≤ n) :
    Ends tokens.length (parseBlock n tokens)

namespace StatementsEnd

theorem step_stmt (calls : StatementsEnd n) (enough : 32 * tokens.length + 1 ≤ n + 1) :
    Ends tokens.length (parseStmt (n + 1) tokens) := by
  unfold parseStmt
  split
  · next rest =>
      simp only [List.length_cons] at enough ⊢
      refine Ends.expect .openCondition .lparen fun rest opened => ?_
      refine (ends_parseExpr .script rest).bind fun condition rest left => ?_
      dsimp only
      refine Ends.expect .closeCondition .rparen fun rest closed => ?_
      refine (calls.body (by omega)).bind fun yes rest fewer => ?_
      dsimp only
      split
      · next rest =>
          simp only [List.length_cons] at fewer
          refine (calls.body (by omega)).bind fun no rest left => ?_
          dsimp only
          exact .ok (by omega)
      · exact .ok (by omega)
  · refine (ends_parseSimple tokens).bind fun stmt rest left => ?_
    dsimp only
    exact (ends_endStatement stmt rest).mono left

theorem step_body (calls : StatementsEnd n) (enough : 32 * tokens.length + 2 ≤ n + 1) :
    Ends tokens.length (parseBody (n + 1) tokens) := by
  unfold parseBody
  split
  · next rest =>
      simp only [List.length_cons] at enough ⊢
      exact (calls.block (by omega)).mono (Nat.le_succ _)
  · refine (calls.stmt (by omega)).bind fun stmt rest left => ?_
    dsimp only
    exact .ok left

theorem step_block (calls : StatementsEnd n) (enough : 32 * tokens.length + 2 ≤ n + 1) :
    Ends tokens.length (parseBlock (n + 1) tokens) := by
  unfold parseBlock
  split
  · exact .ok (Nat.lt_succ_self _)
  · next rest =>
      simp only [List.length_cons] at enough ⊢
      exact (calls.block (by omega)).mono (Nat.le_succ _)
  · split
    · exact .error (by simp)
    · refine (calls.stmt (by omega)).bind fun stmt rest left => ?_
      dsimp only
      refine (calls.block (by omega)).bind fun stmts rest fewer => ?_
      dsimp only
      exact .ok (by omega)

end StatementsEnd

theorem statementsEnd (n : Nat) : StatementsEnd n := by
  induction n with
  | zero => constructor <;> intros <;> omega
  | succ n ih => exact ⟨ih.step_stmt, ih.step_body, ih.step_block⟩

theorem parseStmts_ne_tooDeep (enough : 32 * tokens.length + 2 ≤ n) :
    parseStmts n tokens ≠ .error .tooDeep := by
  induction n generalizing tokens with
  | zero => omega
  | succ n ih =>
      unfold parseStmts
      split
      · next rest =>
          rw [List.length_cons] at enough
          exact ih (by omega)
      · split
        · intro failed
          cases failed
        · have ends : Ends tokens.length (parseStmt n tokens) :=
            (statementsEnd n).stmt (by omega)
          generalize parseStmt n tokens = read at ends ⊢
          cases ends with
          | error inSource =>
              intro failed
              exact inSource (Except.error.inj failed)
          | @ok stmt rest left =>
              have others : parseStmts n rest ≠ .error .tooDeep := ih (by omega)
              show (do return stmt :: (← parseStmts n rest)) ≠ _
              cases later : parseStmts n rest with
              | error cause =>
                  rw [later] at others
                  intro failed
                  exact others failed
              | ok stmts =>
                  intro failed
                  cases failed

/-- **No script is nested too deeply.** -/
theorem parseProgram_ne_tooDeep (tokens : List Token) :
    parseProgram tokens ≠ .error .tooDeep := by
  rw [parseProgram]
  apply parseStmts_ne_tooDeep
  rw [parseBound]
  omega

end ChatTemplate.Script
