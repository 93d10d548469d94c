/-
# ChatTemplate.Proofs.ParsedReadable -- what the parser gives is readable

`Readable` is no narrower than the parser: every rule of the grammar keeps it
(`grammatical_readable`, `grammaticalStmt_readable`), so every tree that the
parser gives is readable.

Main statements: `readable_of_parse`, `readable_of_parseProgram`.
-/
import ChatTemplate.Proofs.ParserInvariant
import ChatTemplate.Proofs.Printing

namespace ChatTemplate.Script

set_option autoImplicit false

variable {dialect : Dialect}

theorem isLiteral_of_wordValue {word : String} {value : Value}
    (known : wordValue? word = some value) : value.isLiteral = true := by
  unfold wordValue? at known
  split at known
  · obtain rfl := Option.some.inj known
    rfl
  · split at known
    · obtain rfl := Option.some.inj known
      rfl
    · split at known
      · obtain rfl := Option.some.inj known
        rfl
      · simp at known

/-- Any token: what is readable does not depend on the words of a source. -/
abbrev Token.Any (_ : Token) : Prop := True

/-- Every source is one of any tokens. -/
theorem sourceOf_any (tokens : List Token) : SourceOf (fun _ => Token.Any) tokens :=
  AllAdmitted.admitted (fun _ _ => trivial) false

/-- **The grammar keeps readability.** -/
theorem grammatical_readable (dialect : Dialect) :
    Grammatical dialect (fun _ => Token.Any) (Expr.Readable dialect) where
  int _ := .literal rfl
  float _ := .literal rfl
  str _ := .literal rfl
  word known := .literal (isLiteral_of_wordValue known)
  var _ := .var
  list := .list
  unary := .unary
  binary := .binary
  conditional := .conditional
  assign _ := .assign
  call := .call
  member _ := .member
  index := .index
  method := .method
  lambda := .lambda
  sequence := .sequence

theorem grammaticalStmt_readable : GrammaticalStmt (Expr.Readable .script) Stmt.Readable where
  expr := .expr
  declare := .declare
  ret := .ret
  branch := .branch

/-- **What the parser gives for an expression is readable.** -/
theorem readable_of_parse {tokens : List Token} {e : Expr}
    (parsed : parse dialect tokens = .ok e) : e.Readable dialect :=
  (grammatical_readable dialect).parse (sourceOf_any tokens) parsed

/-- **What the parser gives for a program is readable.** -/
theorem readable_of_parseProgram {tokens : List Token} {stmts : List Stmt}
    (parsed : parseProgram tokens = .ok stmts) : ∀ stmt ∈ stmts, stmt.Readable :=
  grammaticalStmt_readable.parseProgram (grammatical_readable .script) (sourceOf_any tokens) parsed

end ChatTemplate.Script
