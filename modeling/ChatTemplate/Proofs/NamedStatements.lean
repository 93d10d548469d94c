/-
# ChatTemplate.Proofs.NamedStatements -- scripts with names in the places of calls

Nothing that stops an expression ends a statement, so a statement is either the same with names in
the places of its calls or is none (`StatementReading`).  Hence a source that is a script stays one
when names are written for its calls, with the names in the places of the calls.

Main statement: `parseProgram_named`.
-/
import ChatTemplate.Proofs.NamedReading
import ChatTemplate.Proofs.ParserBound

namespace ChatTemplate.Script

set_option autoImplicit false

variable {page : String → Value} {bound : String → Option Value}

/-! ## Statements -/

section

variable {tokens tokens' : List Token}

theorem NamedSource.peek_ne (source : NamedSource page bound tokens tokens') {token : Token}
    (noName : ∀ word, token ≠ .name word) : peek tokens = token ↔ peek tokens' = token := by
  cases source with
  | call known later => exact ⟨fun same => absurd same.symm (noName _),
      fun same => absurd same.symm (noName _)⟩
  | _ => exact Iff.rfl

/-- **A statement with its end is the same in both sources**, as nothing that stops an expression
ends a statement. -/
theorem along_endStatement {one other : Except SyntaxError (Stmt × List Token)}
    (same : NamedReading page bound (NamedStmt page bound) one other) :
    StatementReading page bound (NamedStmt page bound)
      (one >>= fun read => endStatement read.1 read.2)
      (other >>= fun read => endStatement read.1 read.2) := by
  refine same.bind (fun stmt rest stuck => ?_) fun stmt stmt' rest rest' here source => ?_
  · unfold endStatement
    split
    · next semicolon => exact absurd semicolon (stuck.ne (by decide))
    · split
      · next ends =>
          rw [Stuck, ends] at stuck
          exact absurd stuck (by decide)
      · next ends =>
          rw [Stuck, ends] at stuck
          exact absurd stuck (by decide)
      · exact .error
  · have whole := source
    cases source with
    | @sym s rest rest' other later =>
        cases s with
        | semicolon => exact .ok here later
        | rbrace => exact .ok here whole
        | _ => exact .error
    | eof later => exact .ok here whole
    | nil => exact .ok here whole
    | _ => exact .error

variable (free : ∀ word ∈ reservedWords, bound word = none)
include free

theorem along_expression (source : NamedSource page bound tokens tokens') :
    NamedReading page bound (NamedStmt page bound) (parseSimple.expression tokens)
      (parseSimple.expression tokens') := by
  rw [parseSimple.expression, parseSimple.expression]
  exact ((readsNamed free _ _).expr source).bind (fun e rest stuck => .ok stuck)
    fun e e' rest rest' inner source => .ok (.expr inner) source

/-- What is returned: nothing, if the statement ends right away. -/
theorem along_return (source : NamedSource page bound tokens tokens') :
    NamedReading page bound (NamedStmt page bound) (parseSimple (.name "return" :: tokens))
      (parseSimple (.name "return" :: tokens')) := by
  have value : NamedReading page bound (NamedStmt page bound)
      (parseExpr .script (parseBound tokens) tokens >>= fun read =>
        .ok (.ret (some read.1), read.2))
      (parseExpr .script (parseBound tokens') tokens' >>= fun read =>
        .ok (.ret (some read.1), read.2)) :=
    ((readsNamed free _ _).expr source).bind (fun value rest stuck => .ok stuck)
      fun value value' rest rest' inner source => .ok (.ret inner) source
  have whole := source
  cases source with
  | nil => exact .ok .leave .nil
  | eof later => exact .ok .leave whole
  | @sym s rest rest' other later =>
      cases s with
      | semicolon => exact .ok .leave whole
      | rbrace => exact .ok .leave whole
      | _ => exact value
  | _ => exact value

omit free in
theorem parseSimple_declaration {word : String} (declares : isDeclaration word = true)
    (tokens : List Token) : parseSimple (.name word :: tokens) =
      match tokens with
      | .name x :: .sym .assign :: rest => do
          let (value, rest) ← parseAssign .script (parseBound rest) rest
          return (.declare x (some value), rest)
      | .name x :: rest => .ok (.declare x none, rest)
      | _ => .error (.expected .declaredName (peek tokens)) := by
  have other : word ≠ "return" := by
    rintro rfl
    cases declares
  unfold parseSimple
  exact (if_neg other).trans (if_pos declares)

theorem along_declaration {word : String} (declares : isDeclaration word = true)
    (source : NamedSource page bound tokens tokens') :
    NamedReading page bound (NamedStmt page bound) (parseSimple (.name word :: tokens))
      (parseSimple (.name word :: tokens')) := by
  rw [parseSimple_declaration declares, parseSimple_declaration declares]
  cases source with
  | call known later => exact .blocked (.ok rfl)
  | name unknown uncalled later =>
      have whole := later
      cases later with
      | @sym s rest rest' other later =>
          cases s with
          | assign =>
              exact ((readsNamed free _ _).assign later).bind (fun value rest stuck => .ok stuck)
                fun value value' rest rest' inner source => .ok (.declare unknown inner) source
          | _ => exact .ok (.declareOnly unknown) whole
      | _ => exact .ok (.declareOnly unknown) whole
  | _ => exact .error

theorem along_simple (source : NamedSource page bound tokens tokens') :
    NamedReading page bound (NamedStmt page bound) (parseSimple tokens) (parseSimple tokens') := by
  have expression := along_expression free source
  have named : ∀ {word : String} {tokens : List Token}, word ≠ "return" →
      isDeclaration word = false →
      parseSimple (.name word :: tokens) = parseSimple.expression (.name word :: tokens) := by
    intro word tokens noReturn noDeclaration
    unfold parseSimple
    dsimp only
    rw [if_neg noReturn, if_neg (by simp [noDeclaration])]
  cases source with
  | @call name address rest rest' known later =>
      have other := not_reserved_of_known free known
      simp only [reservedWords, List.mem_cons, not_or] at other
      obtain ⟨-, -, -, -, noReturn, noLet, noConst, noVar, -⟩ := other
      rw [named (by decide) rfl, named noReturn (by simp [isDeclaration, noLet, noConst, noVar])]
      exact expression
  | @name word rest rest' other uncalled later =>
      by_cases returns : word = "return"
      · subst returns
        exact along_return free later
      · cases declares : isDeclaration word with
        | true => exact along_declaration free declares later
        | false =>
            rw [named returns declares, named returns declares]
            exact expression
  | _ => exact expression

/-- **The readers of statements read the same**, each with a bound of its own. -/
structure StatementsNamed (page : String → Value) (bound : String → Option Value) (n m : Nat) :
    Prop where
  stmt {tokens tokens' : List Token} (source : NamedSource page bound tokens tokens') :
    StatementReading page bound (NamedStmt page bound) (parseStmt n tokens) (parseStmt m tokens')
  body {tokens tokens' : List Token} (source : NamedSource page bound tokens tokens') :
    StatementReading page bound (List.Forall₂ (NamedStmt page bound)) (parseBody n tokens)
      (parseBody m tokens')
  block {tokens tokens' : List Token} (source : NamedSource page bound tokens tokens') :
    StatementReading page bound (List.Forall₂ (NamedStmt page bound)) (parseBlock n tokens)
      (parseBlock m tokens')

omit free in
/-- What is no branch is read as one statement with its end. -/
theorem parseStmt_of_no_branch {n : Nat} (noBranch : ∀ rest, tokens ≠ .name "if" :: rest) :
    parseStmt (n + 1) tokens = (do
      let (stmt, rest) ← parseSimple tokens
      endStatement stmt rest) := by
  unfold parseStmt
  split
  · exact absurd rfl (noBranch _)
  · rfl

/-- A word that statements begin with is there in both sources or in none. -/
theorem NamedSource.word_iff {word : String} (reserved : word ∈ reservedWords)
    (source : NamedSource page bound tokens tokens') :
    (∃ rest, tokens = .name word :: rest) ↔ ∃ rest, tokens' = .name word :: rest := by
  cases source with
  | call known later =>
      constructor
      · rintro ⟨rest, same⟩
        obtain rfl := Token.name.inj (List.cons.inj same).1
        exact absurd reserved (by decide)
      · rintro ⟨rest, same⟩
        obtain rfl := Token.name.inj (List.cons.inj same).1
        exact absurd reserved (not_reserved_of_known free known)
  | _ => simp

omit free in
theorem NamedSource.word_left {word : String} {rest : List Token} (other : word ≠ "url")
    (source : NamedSource page bound (.name word :: rest) tokens') :
    ∃ rest', tokens' = .name word :: rest' ∧ NamedSource page bound rest rest' := by
  generalize same : Token.name word :: rest = tokens at source
  cases source with
  | call known later => exact absurd (Token.name.inj (List.cons.inj same).1) other
  | name unknown uncalled later =>
      obtain ⟨rfl, rfl⟩ : word = _ ∧ rest = _ := by simpa using same
      exact ⟨_, rfl, later⟩
  | _ => nomatch same

theorem along_branch {n m : Nat} (calls : StatementsNamed page bound n m)
    (source : NamedSource page bound tokens tokens') :
    StatementReading page bound (NamedStmt page bound) (parseStmt (n + 1) (.name "if" :: tokens))
      (parseStmt (m + 1) (.name "if" :: tokens')) := by
  rw [parseStmt, parseStmt]
  refine ReadsAlong.expect .openCondition (by decide) source fun rest rest' source => ?_
  refine ((readsNamed free _ _).expr source).bind
    (fun condition rest stuck => blocked_expect stuck .closeCondition (by decide) _)
    fun condition condition' rest rest' inCondition source => ?_
  refine ReadsAlong.expect .closeCondition (by decide) source fun rest rest' source => ?_
  refine (calls.body source).bind (fun _ _ impossible => impossible.elim)
    fun yes yes' rest rest' inYes source => ?_
  dsimp only
  by_cases other : ∃ later, rest = .name "else" :: later
  · obtain ⟨later, rfl⟩ := other
    obtain ⟨later', rfl, behind⟩ := source.word_left (by decide)
    have both : StatementReading page bound (NamedStmt page bound)
        (parseBody n later >>= fun no => .ok (.branch condition yes no.1, no.2))
        (parseBody m later' >>= fun no => .ok (.branch condition' yes' no.1, no.2)) :=
      (calls.body behind).bind (fun _ _ impossible => impossible.elim)
        fun no no' rest rest' inNo source => .ok (.branch inCondition inYes inNo) source
    exact both
  · have other' := mt (source.word_iff free (by decide)).2 other
    split
    · exact absurd ⟨_, rfl⟩ other
    · split
      · exact absurd ⟨_, rfl⟩ other'
      · exact .ok (.branch inCondition inYes .nil) source

theorem along_stmt {n m : Nat} (calls : StatementsNamed page bound n m)
    (source : NamedSource page bound tokens tokens') :
    StatementReading page bound (NamedStmt page bound) (parseStmt (n + 1) tokens)
      (parseStmt (m + 1) tokens') := by
  by_cases branch : ∃ rest, tokens = .name "if" :: rest
  · obtain ⟨rest, rfl⟩ := branch
    obtain ⟨rest', rfl, later⟩ := source.word_left (by decide)
    exact along_branch free calls later
  · have branch' := mt (source.word_iff free (by decide)).2 branch
    rw [parseStmt_of_no_branch fun rest same => branch ⟨rest, same⟩,
      parseStmt_of_no_branch fun rest same => branch' ⟨rest, same⟩]
    exact along_endStatement (along_simple free source)

omit free in
theorem along_body {n m : Nat} (calls : StatementsNamed page bound n m)
    (source : NamedSource page bound tokens tokens') :
    StatementReading page bound (List.Forall₂ (NamedStmt page bound)) (parseBody (n + 1) tokens)
      (parseBody (m + 1) tokens') := by
  have single : StatementReading page bound (List.Forall₂ (NamedStmt page bound)) (do
        let (stmt, rest) ← parseStmt n tokens
        return ([stmt], rest)) (do
        let (stmt, rest) ← parseStmt m tokens'
        return ([stmt], rest)) :=
    (calls.stmt source).bind (fun _ _ impossible => impossible.elim)
      fun stmt stmt' rest rest' here source => .ok (.cons here .nil) source
  cases source with
  | @sym s rest rest' other later =>
      cases s with
      | lbrace => exact calls.block later
      | _ => exact single
  | _ => exact single

omit free in
/-- A block that does not end goes on with a statement. -/
theorem along_several {n m : Nat} (calls : StatementsNamed page bound n m)
    (source : NamedSource page bound tokens tokens') :
    StatementReading page bound (List.Forall₂ (NamedStmt page bound))
      (if peek tokens = .eof then .error .unclosedBlock
        else do
          let (stmt, rest) ← parseStmt n tokens
          let (stmts, rest) ← parseBlock n rest
          return (stmt :: stmts, rest))
      (if peek tokens' = .eof then .error .unclosedBlock
        else do
          let (stmt, rest) ← parseStmt m tokens'
          let (stmts, rest) ← parseBlock m rest
          return (stmt :: stmts, rest)) := by
  by_cases ends : peek tokens = .eof
  · rw [if_pos ends]
    exact .error
  · rw [if_neg ends, if_neg (mt (source.peek_ne (by nofun)).2 ends)]
    refine (calls.stmt source).bind (fun _ _ impossible => impossible.elim)
      fun stmt stmt' rest rest' here source => ?_
    exact (calls.block source).bind (fun _ _ impossible => impossible.elim)
      fun stmts stmts' rest rest' later source => .ok (.cons here later) source

omit free in
theorem along_block {n m : Nat} (calls : StatementsNamed page bound n m)
    (source : NamedSource page bound tokens tokens') :
    StatementReading page bound (List.Forall₂ (NamedStmt page bound)) (parseBlock (n + 1) tokens)
      (parseBlock (m + 1) tokens') := by
  have several := along_several calls source
  cases source with
  | @sym s rest rest' other later =>
      cases s with
      | rbrace => exact .ok .nil later
      | semicolon => exact calls.block later
      | _ => exact several
  | _ => exact several

theorem statementsNamed (n m : Nat) : StatementsNamed page bound n m := by
  induction n generalizing m with
  | zero => constructor <;> intros <;> exact .error
  | succ n ih =>
      cases m with
      | zero => constructor <;> intros <;> exact .tooDeep
      | succ m =>
          exact
            { stmt := along_stmt free (ih m)
              body := along_body (ih m)
              block := along_block (ih m) }

/-- A script that is read is read in the other source too, unless that reader runs out of calls. -/
def ProgramReading (page : String → Value) (bound : String → Option Value)
    (one other : Except SyntaxError (List Stmt)) : Prop :=
  ∀ program, one = .ok program → other = .error .tooDeep ∨
    ∃ program', other = .ok program' ∧ List.Forall₂ (NamedStmt page bound) program program'

omit free in
theorem along_program {n m : Nat} {tokens tokens' : List Token}
    (first : StatementReading page bound (NamedStmt page bound) (parseStmt n tokens)
      (parseStmt m tokens'))
    (others : ∀ {rest rest' : List Token}, NamedSource page bound rest rest' →
      ProgramReading page bound (parseStmts n rest) (parseStmts m rest')) :
    ProgramReading page bound (do
        let (stmt, rest) ← parseStmt n tokens
        return stmt :: (← parseStmts n rest)) (do
        let (stmt, rest) ← parseStmt m tokens'
        return stmt :: (← parseStmts m rest)) := by
  generalize parseStmt n tokens = one at first
  generalize parseStmt m tokens' = other at first
  cases first with
  | blocked here =>
      intro program read
      cases one with
      | error => nomatch read
      | ok result => exact (here result rfl).elim
  | tooDeep => exact fun program read => .inl rfl
  | @ok stmt stmt' rest rest' same left =>
      intro program read
      cases later : parseStmts n rest with
      | error => simp only [ok_bind, later] at read; nomatch read
      | ok stmts =>
          simp only [ok_bind, later] at read
          cases read
          rcases others left stmts later with deep | ⟨stmts', read', along⟩
          · exact .inl (by simp only [ok_bind, deep]; rfl)
          · exact .inr ⟨stmt' :: stmts', by simp only [ok_bind, read']; rfl, .cons same along⟩

theorem along_stmts {n m : Nat} (source : NamedSource page bound tokens tokens') :
    ProgramReading page bound (parseStmts n tokens) (parseStmts m tokens') := by
  induction n generalizing m tokens tokens' with
  | zero => exact fun program read => nomatch read
  | succ n ih =>
      cases m with
      | zero => exact fun program read => .inl rfl
      | succ m =>
          have several : ProgramReading page bound
              (if peek tokens = .eof then .ok [] else do
                let (stmt, rest) ← parseStmt n tokens
                return stmt :: (← parseStmts n rest))
              (if peek tokens' = .eof then .ok [] else do
                let (stmt, rest) ← parseStmt m tokens'
                return stmt :: (← parseStmts m rest)) := by
            by_cases ends : peek tokens = .eof
            · rw [if_pos ends, if_pos ((source.peek_ne (by nofun)).1 ends)]
              exact fun program read => .inr ⟨[], rfl, by cases read; exact .nil⟩
            · rw [if_neg ends, if_neg (mt (source.peek_ne (by nofun)).2 ends)]
              exact along_program ((statementsNamed free n m).stmt source) ih
          cases source with
          | @sym s rest rest' other later =>
              cases s with
              | semicolon =>
                  rw [parseStmts, parseStmts]
                  exact ih later
              | _ => exact several
          | _ => exact several

/-- **A script stays one when names are written in the places of its calls**, with the names in
the places of the calls. -/
theorem parseProgram_named (source : NamedSource page bound tokens tokens') {program : List Stmt}
    (parsed : parseProgram tokens = .ok program) :
    ∃ program', parseProgram tokens' = .ok program' ∧
      List.Forall₂ (NamedStmt page bound) program program' := by
  rcases along_stmts free source program parsed with deep | read
  · exact absurd deep (parseProgram_ne_tooDeep tokens')
  · exact read

end

end ChatTemplate.Script
