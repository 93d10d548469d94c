/-
# ChatTemplate.Proofs.ParserInvariant -- what the grammar keeps

The parser makes trees of tokens.  A property of trees that every rule of the
grammar keeps, and that holds of the literals made of tokens of some kind, holds
of whatever the parser gives for a source of such tokens (`Grammatical`).

One call of a reader keeps such a property when the calls it makes do
(`GivesTrees.step`), and what it leaves are tokens of its source; so all calls do.

Main statements: `Grammatical.parse`, `Grammatical.parseProgram`.
-/
import ChatTemplate.Proofs.Gives
import ChatTemplate.Script.Parser

namespace ChatTemplate.Script

set_option autoImplicit false

/-! ## Sources -/

variable {admits : Bool → Token → Prop} {dialect : Dialect}

/-- All tokens are of a kind. -/
abbrev AllAdmitted (kind : Token → Prop) (tokens : List Token) : Prop :=
  ∀ token ∈ tokens, kind token

theorem AllAdmitted.drop {kind : Token → Prop} {tokens rest : List Token}
    (source : AllAdmitted kind tokens) (suffix : rest <:+ tokens) : AllAdmitted kind rest :=
  fun token member => source token (suffix.subset member)

/-- **All tokens are admitted where they stand**: right behind a point, or elsewhere. -/
def Admitted (admits : Bool → Token → Prop) : Bool → List Token → Prop
  | _, [] => True
  | pointed, token :: tokens =>
      admits pointed token ∧ Admitted admits (token == .sym .dot) tokens

/-- The same of tokens that no point stands before. -/
abbrev SourceOf (admits : Bool → Token → Prop) (tokens : List Token) : Prop :=
  Admitted admits false tokens

/-- A reader gives a tree with a property, and leaves a source of admitted tokens. -/
abbrev Reads {α : Type} (admits : Bool → Token → Prop) (holds : α → Prop)
    (read : Except SyntaxError (α × List Token)) : Prop :=
  Gives (fun result => holds result.1 ∧ SourceOf admits result.2) read

/-- Tokens of a kind that is admitted everywhere. -/
theorem AllAdmitted.admitted {kind : Token → Prop} {tokens : List Token}
    (source : AllAdmitted kind tokens) (pointed : Bool) :
    Admitted (fun _ => kind) pointed tokens := by
  induction tokens generalizing pointed with
  | nil => trivial
  | cons token tokens ih =>
      obtain ⟨here, later⟩ := List.forall_mem_cons.1 source
      exact ⟨here, ih later _⟩

/-- **What is left behind a token that is no point** is a source again. -/
theorem Admitted.behind {pointed : Bool} {tokens rest : List Token} {token : Token}
    (source : Admitted admits pointed tokens) (suffix : token :: rest <:+ tokens)
    (other : token ≠ .sym .dot) : SourceOf admits rest := by
  induction tokens generalizing pointed with
  | nil => simp at suffix
  | cons first tokens ih =>
      obtain ⟨-, later⟩ := source
      rcases List.suffix_cons_iff.1 suffix with here | further
      · obtain ⟨rfl, rfl⟩ := List.cons.inj here
        rwa [beq_false_of_ne other] at later
      · exact ih later further

/-- The name behind a point. -/
theorem Admitted.key {pointed : Bool} {rest : List Token} {name : String}
    (source : Admitted admits pointed (.sym .dot :: .name name :: rest)) :
    admits true (.name name) :=
  source.2.1

theorem gives_expect (what : Expected) (symbol : Symbol) (other : symbol ≠ .dot)
    {tokens : List Token} (source : SourceOf admits tokens) :
    Gives (SourceOf admits) (expect what symbol tokens) := by
  unfold expect
  split
  · split
    · next same =>
        exact .ok (source.behind List.suffix_rfl fun point => other (same ▸ Token.sym.inj point))
    · exact .error
  · exact .error

/-! ## Operators and words -/

theorem known_of_binaryOp {s : Symbol} {op : BinaryOp} (found : binaryOp? dialect s = some op) :
    dialect = .math → op ≠ .bitXor := by
  rintro rfl rfl
  cases s <;> simp [binaryOp?] at found

theorem ne_dot_of_binaryOp {s : Symbol} {op : BinaryOp} (found : binaryOp? dialect s = some op) :
    Token.sym s ≠ .sym .dot := by
  rintro ⟨⟩
  nomatch found

theorem ne_dot_of_assignOp {s : Symbol} {op : AssignOp} (found : assignOp? s = some op) :
    Token.sym s ≠ .sym .dot := by
  rintro ⟨⟩
  nomatch found

theorem ne_dot_of_unaryOp {s : Symbol} {op : UnaryOp} (found : unaryOp? s = some op) :
    Token.sym s ≠ .sym .dot := by
  rintro ⟨⟩
  nomatch found

/-! ## Looking ahead -/

theorem operatorAt_eq_some {level : Nat} {tokens rest : List Token} {op : BinaryOp}
    (found : operatorAt? dialect level tokens = some (op, rest)) :
    ∃ s, binaryOp? dialect s = some op ∧ tokens = .sym s :: rest := by
  unfold operatorAt? at found
  split at found
  · next s rest =>
      split at found
      · next op' operator =>
          split at found
          · obtain ⟨rfl, rfl⟩ := Prod.mk.inj (Option.some.inj found)
            exact ⟨s, operator, rfl⟩
          · simp at found
      · simp at found
  · simp at found

theorem powerAt_eq_some {tokens rest : List Token} (found : powerAt? dialect tokens = some rest) :
    ∃ s, binaryOp? dialect s = some .pow ∧ tokens = .sym s :: rest := by
  unfold powerAt? at found
  split at found
  · next s rest =>
      split at found
      · next power =>
          obtain rfl := Option.some.inj found
          exact ⟨s, power, rfl⟩
      · simp at found
  · simp at found

theorem assignmentHead_eq_some {tokens rest : List Token} {name : String} {op : AssignOp}
    (found : assignmentHead? tokens = some (name, op, rest)) :
    ∃ s, assignOp? s = some op ∧ tokens = .name name :: .sym s :: rest := by
  unfold assignmentHead? at found
  split at found
  · next x s rest =>
      obtain ⟨op', assigns, same⟩ := Option.map_eq_some_iff.1 found
      simp only [Prod.mk.injEq] at same
      obtain ⟨rfl, rfl, rfl⟩ := same
      exact ⟨s, assigns, rfl⟩
  · simp at found

theorem suffix_of_paramNames {tokens : List Token} {head : List String × List Token}
    (found : paramNames? tokens = some head) : head.2 <:+ tokens := by
  fun_induction paramNames? tokens generalizing head with
  | case1 rest =>
      obtain rfl := Option.some.inj found
      exact List.suffix_cons _ _
  | case2 name rest =>
      obtain rfl := Option.some.inj found
      exact List.suffix_append [_, _] _
  | case3 name rest ih =>
      obtain ⟨params, later, rfl⟩ := Option.map_eq_some_iff.1 found
      exact (ih later).trans (List.suffix_append [_, _] _)
  | case4 => simp at found

/-- Only scripts have callbacks, and their parameters are a token at least, with an arrow
behind them. -/
theorem callbackHead_eq_some {tokens rest : List Token} {params : List String}
    (found : callbackHead? dialect tokens = some (params, rest)) :
    dialect = .script ∧
      ∃ token later, tokens = token :: later ∧ .sym .arrow :: rest <:+ later := by
  unfold callbackHead? at found
  split at found
  · simp at found
  · next other =>
      refine ⟨by cases dialect <;> trivial, ?_⟩
      split at found
      · obtain ⟨-, rfl⟩ := Prod.mk.inj (Option.some.inj found)
        exact ⟨_, _, rfl, List.suffix_rfl⟩
      · split at found
        · next listed =>
            obtain ⟨-, rfl⟩ := Prod.mk.inj (Option.some.inj found)
            exact ⟨_, _, rfl, suffix_of_paramNames listed⟩
        · simp at found
      · simp at found

/-! ## Properties that the grammar keeps -/

/-- **Every rule of the grammar keeps a property of trees**, and trees made of admitted
tokens have it. -/
structure Grammatical (dialect : Dialect) (admits : Bool → Token → Prop) (holds : Expr → Prop) :
    Prop where
  int (k : Int64) : holds (.literal (.int k))
  float (x : Float) : holds (.literal (.float x))
  str {s : String} (admitted : admits false (.str s)) : holds (.literal (.str s))
  word {word : String} {value : Value} (known : wordValue? word = some value) :
    holds (.literal value)
  var {name : String} (admitted : admits false (.name name)) (free : wordValue? name = none) :
    holds (.var name)
  list {items : List Expr} (each : ∀ item ∈ items, holds item) : holds (.list items)
  unary {op : UnaryOp} {operand : Expr} (inner : holds operand) : holds (.unary op operand)
  binary {op : BinaryOp} {left right : Expr} (known : dialect = .math → op ≠ .bitXor)
    (inLeft : holds left) (inRight : holds right) : holds (.binary op left right)
  conditional {condition yes no : Expr} (inCondition : holds condition) (inYes : holds yes)
    (inNo : holds no) : holds (.conditional condition yes no)
  assign {name : String} {op : AssignOp} {value : Expr} (admitted : admits false (.name name))
    (inner : holds value) : holds (.assign name op value)
  call {function : String} {args : List Expr} (free : wordValue? function = none)
    (each : ∀ arg ∈ args, holds arg) : holds (.call function args)
  member {target : Expr} {key : String} (admitted : admits true (.name key))
    (inner : holds target) : holds (.member target key)
  index {target key : Expr} (inner : holds target) (inKey : holds key) :
    holds (.index target key)
  method {target : Expr} {name : String} {args : List Expr} (inner : holds target)
    (each : ∀ arg ∈ args, holds arg) : holds (.method target name args)
  lambda {params : List String} {body : Expr} (callbacks : dialect = .script)
    (inner : holds body) : holds (.lambda params body)
  sequence {items : List Expr} (several : 2 ≤ items.length) (each : ∀ item ∈ items, holds item) :
    holds (.sequence items)

/-- All of some trees have a property. -/
abbrev Each {α : Type} (holds : α → Prop) (items : List α) : Prop :=
  ∀ item ∈ items, holds item

/-- **Readers with a bound give trees with a property.** -/
structure GivesTrees (dialect : Dialect) (admits : Bool → Token → Prop) (holds : Expr → Prop)
    (n : Nat) : Prop where
  expr {tokens : List Token} (source : SourceOf admits tokens) :
    Reads admits holds (parseExpr dialect n tokens)
  more {tokens : List Token} (source : SourceOf admits tokens) :
    Reads admits (Each holds) (parseMore dialect n tokens)
  assign {tokens : List Token} (source : SourceOf admits tokens) :
    Reads admits holds (parseAssign dialect n tokens)
  conditional {tokens : List Token} (source : SourceOf admits tokens) :
    Reads admits holds (parseConditional dialect n tokens)
  binary (level : Nat) {tokens : List Token} (source : SourceOf admits tokens) :
    Reads admits holds (parseBinary dialect n level tokens)
  operands (level : Nat) {left : Expr} (inLeft : holds left) {tokens : List Token}
    (source : SourceOf admits tokens) :
    Reads admits holds (parseOperands dialect n level left tokens)
  unary {tokens : List Token} (source : SourceOf admits tokens) :
    Reads admits holds (parseUnary dialect n tokens)
  power {tokens : List Token} (source : SourceOf admits tokens) :
    Reads admits holds (parsePower dialect n tokens)
  target {target : Expr} (inTarget : holds target) {tokens : List Token}
    (source : SourceOf admits tokens) :
    Reads admits holds (parsePostfix dialect n target tokens)
  args (function : String) {tokens : List Token} (source : SourceOf admits tokens) :
    Reads admits (Each holds) (parseArgs dialect n function tokens)
  items {tokens : List Token} (source : SourceOf admits tokens) :
    Reads admits (Each holds) (parseItems dialect n tokens)
  primary {tokens : List Token} (source : SourceOf admits tokens) :
    Reads admits holds (parsePrimary dialect n tokens)

namespace GivesTrees

variable {holds : Expr → Prop} {n : Nat} {tokens : List Token}

theorem step_expr (grammar : Grammatical dialect admits holds)
    (calls : GivesTrees dialect admits holds n) (source : SourceOf admits tokens) :
    Reads admits holds (parseExpr dialect (n + 1) tokens) := by
  rw [parseExpr]
  refine (calls.assign source).bind fun first ⟨here, rest⟩ => ?_
  refine (calls.more rest).bind fun others ⟨later, rest⟩ => .ok ⟨?_, rest⟩
  split
  · exact here
  · next some_ =>
      refine grammar.sequence ?_ (List.forall_mem_cons.2 ⟨here, later⟩)
      rw [List.isEmpty_iff] at some_
      have one := List.length_pos_iff.2 some_
      rw [List.length_cons]
      omega

theorem step_more (calls : GivesTrees dialect admits holds n) (source : SourceOf admits tokens) :
    Reads admits (Each holds) (parseMore dialect (n + 1) tokens) := by
  unfold parseMore
  split
  · refine (calls.assign (source.behind List.suffix_rfl nofun)).bind fun item ⟨here, rest⟩ => ?_
    exact (calls.more rest).bind fun items ⟨later, rest⟩ =>
      .ok ⟨List.forall_mem_cons.2 ⟨here, later⟩, rest⟩
  · exact .ok ⟨nofun, source⟩

theorem step_assign (grammar : Grammatical dialect admits holds)
    (calls : GivesTrees dialect admits holds n) (source : SourceOf admits tokens) :
    Reads admits holds (parseAssign dialect (n + 1) tokens) := by
  rw [parseAssign]
  split
  · next params rest callback =>
      obtain ⟨script, token, later, rfl, suffix⟩ := callbackHead_eq_some callback
      have source := source.behind (suffix.trans (List.suffix_cons _ _)) nofun
      exact (calls.assign source).bind fun body ⟨inner, rest⟩ =>
        .ok ⟨grammar.lambda script inner, rest⟩
  · split
    · next name op rest assignment =>
        obtain ⟨s, assigns, rfl⟩ := assignmentHead_eq_some assignment
        have operand := source.behind (List.suffix_cons _ _) (ne_dot_of_assignOp assigns)
        exact (calls.assign operand).bind fun value ⟨inner, rest⟩ =>
          .ok ⟨grammar.assign source.1 inner, rest⟩
    · exact calls.conditional source

theorem step_conditional (grammar : Grammatical dialect admits holds)
    (calls : GivesTrees dialect admits holds n) (source : SourceOf admits tokens) :
    Reads admits holds (parseConditional dialect (n + 1) tokens) := by
  rw [parseConditional]
  refine (calls.binary 0 source).bind fun (condition, rest) ⟨inCondition, source⟩ => ?_
  dsimp only
  split
  · next rest =>
      refine (calls.assign (source.behind List.suffix_rfl nofun)).bind fun yes ⟨inYes, rest⟩ => ?_
      refine (gives_expect .colon .colon nofun rest).bind fun later rest => ?_
      exact (calls.assign rest).bind fun no ⟨inNo, rest⟩ =>
        .ok ⟨grammar.conditional inCondition inYes inNo, rest⟩
  · exact .ok ⟨inCondition, source⟩

theorem step_binary (calls : GivesTrees dialect admits holds n) (level : Nat)
    (source : SourceOf admits tokens) :
    Reads admits holds (parseBinary dialect (n + 1) level tokens) := by
  rw [parseBinary]
  split
  · exact (calls.binary (level + 1) source).bind fun left ⟨inLeft, rest⟩ =>
      calls.operands level inLeft rest
  · exact calls.unary source

theorem step_operands (grammar : Grammatical dialect admits holds)
    (calls : GivesTrees dialect admits holds n) (level : Nat) {left : Expr} (inLeft : holds left)
    (source : SourceOf admits tokens) :
    Reads admits holds (parseOperands dialect (n + 1) level left tokens) := by
  rw [parseOperands]
  split
  · next op rest operator =>
      obtain ⟨s, known, rfl⟩ := operatorAt_eq_some operator
      have later := source.behind List.suffix_rfl (ne_dot_of_binaryOp known)
      exact (calls.binary (level + 1) later).bind fun right ⟨inRight, rest⟩ =>
        calls.operands level (grammar.binary (known_of_binaryOp known) inLeft inRight) rest
  · exact .ok ⟨inLeft, source⟩

theorem step_unary (grammar : Grammatical dialect admits holds)
    (calls : GivesTrees dialect admits holds n) (source : SourceOf admits tokens) :
    Reads admits holds (parseUnary dialect (n + 1) tokens) := by
  unfold parseUnary
  split
  · next s rest =>
      split
      · next op operator =>
          have source := source.behind List.suffix_rfl (ne_dot_of_unaryOp operator)
          exact (calls.unary source).bind fun operand ⟨inner, rest⟩ =>
            .ok ⟨grammar.unary inner, rest⟩
      · exact calls.power source
  · exact calls.power source

theorem step_power (grammar : Grammatical dialect admits holds)
    (calls : GivesTrees dialect admits holds n) (source : SourceOf admits tokens) :
    Reads admits holds (parsePower dialect (n + 1) tokens) := by
  rw [parsePower]
  refine (calls.primary source).bind fun first ⟨inFirst, rest⟩ => ?_
  refine (calls.target inFirst rest).bind fun (base, rest) ⟨inBase, source⟩ => ?_
  dsimp only
  split
  · next rest power =>
      obtain ⟨s, raises, rfl⟩ := powerAt_eq_some power
      have source := source.behind List.suffix_rfl (ne_dot_of_binaryOp raises)
      exact (calls.unary source).bind fun exponent ⟨inExponent, rest⟩ =>
        .ok ⟨grammar.binary (by simp) inBase inExponent, rest⟩
  · exact .ok ⟨inBase, source⟩

theorem step_target (grammar : Grammatical dialect admits holds)
    (calls : GivesTrees dialect admits holds n) {target : Expr} (inTarget : holds target)
    (source : SourceOf admits tokens) :
    Reads admits holds (parsePostfix dialect (n + 1) target tokens) := by
  unfold parsePostfix
  split
  · next key rest =>
      have rest := source.behind (List.suffix_append [_, _] (.sym .lparen :: rest)) nofun
      exact (calls.args _ rest).bind fun args ⟨each, rest⟩ =>
        calls.target (grammar.method inTarget each) rest
  · exact calls.target (grammar.member source.key inTarget)
      (source.behind (List.suffix_cons _ _) nofun)
  · exact .error
  · refine (calls.expr (source.behind List.suffix_rfl nofun)).bind fun key ⟨inKey, rest⟩ => ?_
    exact (gives_expect .closeIndex .rbracket nofun rest).bind fun later rest =>
      calls.target (grammar.index inTarget inKey) rest
  · exact .ok ⟨inTarget, source⟩

theorem step_args (calls : GivesTrees dialect admits holds n) (function : String)
    (source : SourceOf admits tokens) :
    Reads admits (Each holds) (parseArgs dialect (n + 1) function tokens) := by
  unfold parseArgs
  split
  · exact .ok ⟨nofun, source.behind List.suffix_rfl nofun⟩
  · refine (calls.assign source).bind fun (first, rest) ⟨here, source⟩ => ?_
    refine (calls.more source).bind fun (others, rest) ⟨later, source⟩ => ?_
    dsimp only
    split
    · exact .ok ⟨List.forall_mem_cons.2 ⟨here, later⟩, source.behind List.suffix_rfl nofun⟩
    · exact .error

theorem step_items (calls : GivesTrees dialect admits holds n) (source : SourceOf admits tokens) :
    Reads admits (Each holds) (parseItems dialect (n + 1) tokens) := by
  unfold parseItems
  split
  · exact .ok ⟨nofun, source.behind List.suffix_rfl nofun⟩
  · refine (calls.assign source).bind fun (item, rest) ⟨here, source⟩ => ?_
    dsimp only
    split
    · exact (calls.items (source.behind List.suffix_rfl nofun)).bind fun items ⟨later, rest⟩ =>
        .ok ⟨List.forall_mem_cons.2 ⟨here, later⟩, rest⟩
    · exact (gives_expect .closeIndex .rbracket nofun source).bind fun later rest =>
        .ok ⟨List.forall_mem_singleton.2 here, rest⟩

theorem step_primary (grammar : Grammatical dialect admits holds)
    (calls : GivesTrees dialect admits holds n) (source : SourceOf admits tokens) :
    Reads admits holds (parsePrimary dialect (n + 1) tokens) := by
  cases tokens with
  | nil => exact .error
  | cons token tokens =>
      have rest : token ≠ .sym .dot → SourceOf admits tokens := source.behind List.suffix_rfl
      cases token with
      | int k => exact .ok ⟨grammar.int k, rest (by simp)⟩
      | float x => exact .ok ⟨grammar.float x, rest (by simp)⟩
      | str s => exact .ok ⟨grammar.str source.1, rest (by simp)⟩
      | name word =>
          rw [parsePrimary_name]
          split
          · next value known => exact .ok ⟨grammar.word known, rest (by simp)⟩
          · next free =>
              split
              · exact (calls.args _ ((rest (by simp)).behind List.suffix_rfl (by simp))).bind
                  fun args both => .ok ⟨grammar.call free both.1, both.2⟩
              · exact .ok ⟨grammar.var source.1 free, rest (by simp)⟩
      | sym s =>
          cases s with
          | lparen =>
              rw [parsePrimary_paren]
              refine (calls.expr (rest (by simp))).bind fun inner both => ?_
              exact (gives_expect .closeParen .rparen (by simp) both.2).bind fun later rest =>
                .ok ⟨both.1, rest⟩
          | lbracket =>
              rw [parsePrimary_list]
              exact (calls.items (rest (by simp))).bind fun items both =>
                .ok ⟨grammar.list both.1, both.2⟩
          | _ => exact .error
      | unknown c => exact .error
      | eof => exact .error

end GivesTrees

variable {holds : Expr → Prop}

theorem Grammatical.givesTrees (grammar : Grammatical dialect admits holds) (n : Nat) :
    GivesTrees dialect admits holds n := by
  induction n with
  | zero => constructor <;> intros <;> exact .error
  | succ n ih =>
      exact
        { expr := ih.step_expr grammar
          more := ih.step_more
          assign := ih.step_assign grammar
          conditional := ih.step_conditional grammar
          binary := fun level _ => ih.step_binary level
          operands := fun level _ inLeft _ => ih.step_operands grammar level inLeft
          unary := ih.step_unary grammar
          power := ih.step_power grammar
          target := fun inTarget _ => ih.step_target grammar inTarget
          args := fun function _ => ih.step_args function
          items := ih.step_items
          primary := ih.step_primary grammar }

/-- **The expression that the parser gives has what the grammar keeps.** -/
theorem Grammatical.parse (grammar : Grammatical dialect admits holds) {tokens : List Token}
    (source : SourceOf admits tokens) {e : Expr} (parsed : parse dialect tokens = .ok e) :
    holds e := by
  have gives : Gives holds (Script.parse dialect tokens) := by
    rw [Script.parse]
    refine ((grammar.givesTrees _).expr source).bind fun (expr, rest) ⟨here, _⟩ => ?_
    dsimp only
    split
    · exact .ok here
    · exact .error
  exact gives e parsed

/-! ## Statements -/

/-- **Every kind of statement keeps a property** when its expressions have one. -/
structure GrammaticalStmt (holds : Expr → Prop) (holdsStmt : Stmt → Prop) : Prop where
  expr {e : Expr} (inner : holds e) : holdsStmt (.expr e)
  declare {name : String} {value : Option Expr} (inner : ∀ e ∈ value, holds e) :
    holdsStmt (.declare name value)
  ret {value : Option Expr} (inner : ∀ e ∈ value, holds e) : holdsStmt (.ret value)
  branch {condition : Expr} {yes no : List Stmt} (inCondition : holds condition)
    (inYes : ∀ stmt ∈ yes, holdsStmt stmt) (inNo : ∀ stmt ∈ no, holdsStmt stmt) :
    holdsStmt (.branch condition yes no)

/-- **Readers of statements with a bound give ones with a property.** -/
structure GivesStatements (admits : Bool → Token → Prop) (holdsStmt : Stmt → Prop) (n : Nat) :
    Prop where
  stmt {tokens : List Token} (source : SourceOf admits tokens) :
    Reads admits holdsStmt (parseStmt n tokens)
  body {tokens : List Token} (source : SourceOf admits tokens) :
    Reads admits (Each holdsStmt) (parseBody n tokens)
  block {tokens : List Token} (source : SourceOf admits tokens) :
    Reads admits (Each holdsStmt) (parseBlock n tokens)

section

variable {holdsStmt : Stmt → Prop} {n : Nat} {tokens : List Token}

theorem reads_parseSimple (grammar : Grammatical .script admits holds)
    (statements : GrammaticalStmt holds holdsStmt) (source : SourceOf admits tokens) :
    Reads admits holdsStmt (parseSimple tokens) := by
  have expression : Reads admits holdsStmt (parseSimple.expression tokens) := by
    rw [parseSimple.expression]
    exact ((grammar.givesTrees _).expr source).bind fun e ⟨here, rest⟩ =>
      .ok ⟨statements.expr here, rest⟩
  unfold parseSimple
  split
  · next word rest =>
      have later : SourceOf admits rest := source.behind List.suffix_rfl nofun
      split
      · split
        · exact .ok ⟨statements.ret nofun, later⟩
        · exact .ok ⟨statements.ret nofun, later⟩
        · exact .ok ⟨statements.ret nofun, later⟩
        · exact ((grammar.givesTrees _).expr later).bind fun value ⟨here, rest⟩ =>
            .ok ⟨statements.ret fun e same => Option.some.inj same ▸ here, rest⟩
      · split
        · split
          · refine ((grammar.givesTrees _).assign
              (later.behind (List.suffix_cons _ _) nofun)).bind fun value ⟨here, rest⟩ => ?_
            exact .ok ⟨statements.declare fun e same => Option.some.inj same ▸ here, rest⟩
          · exact .ok ⟨statements.declare nofun, later.behind List.suffix_rfl nofun⟩
          · exact .error
        · exact expression
  · exact expression

theorem reads_endStatement {stmt : Stmt} (here : holdsStmt stmt)
    (source : SourceOf admits tokens) :
    Reads admits holdsStmt (endStatement stmt tokens) := by
  unfold endStatement
  split
  · exact .ok ⟨here, source.behind List.suffix_rfl nofun⟩
  · split
    · exact .ok ⟨here, source⟩
    · exact .ok ⟨here, source⟩
    · exact .error

namespace GivesStatements

theorem step_stmt (grammar : Grammatical .script admits holds)
    (statements : GrammaticalStmt holds holdsStmt) (calls : GivesStatements admits holdsStmt n)
    (source : SourceOf admits tokens) : Reads admits holdsStmt (parseStmt (n + 1) tokens) := by
  unfold parseStmt
  split
  · refine (gives_expect .openCondition .lparen nofun (source.behind List.suffix_rfl nofun)).bind
      fun opened rest => ?_
    refine ((grammar.givesTrees _).expr rest).bind fun condition ⟨inner, rest⟩ => ?_
    refine (gives_expect .closeCondition .rparen nofun rest).bind fun closed rest => ?_
    refine (calls.body rest).bind fun (yes, rest) ⟨inYes, source⟩ => ?_
    dsimp only
    split
    · exact (calls.body (source.behind List.suffix_rfl nofun)).bind fun no ⟨inNo, rest⟩ =>
        .ok ⟨statements.branch inner inYes inNo, rest⟩
    · exact .ok ⟨statements.branch inner inYes nofun, source⟩
  · exact (reads_parseSimple grammar statements source).bind fun stmt ⟨here, rest⟩ =>
      reads_endStatement here rest

theorem step_body (calls : GivesStatements admits holdsStmt n)
    (source : SourceOf admits tokens) :
    Reads admits (Each holdsStmt) (parseBody (n + 1) tokens) := by
  unfold parseBody
  split
  · exact calls.block (source.behind List.suffix_rfl nofun)
  · exact (calls.stmt source).bind fun stmt ⟨here, rest⟩ =>
      .ok ⟨List.forall_mem_singleton.2 here, rest⟩

theorem step_block (calls : GivesStatements admits holdsStmt n)
    (source : SourceOf admits tokens) :
    Reads admits (Each holdsStmt) (parseBlock (n + 1) tokens) := by
  unfold parseBlock
  split
  · exact .ok ⟨nofun, source.behind List.suffix_rfl nofun⟩
  · exact calls.block (source.behind List.suffix_rfl nofun)
  · split
    · exact .error
    · exact (calls.stmt source).bind fun stmt ⟨here, rest⟩ =>
        (calls.block rest).bind fun stmts ⟨later, rest⟩ =>
          .ok ⟨List.forall_mem_cons.2 ⟨here, later⟩, rest⟩

end GivesStatements

theorem GrammaticalStmt.givesStatements (statements : GrammaticalStmt holds holdsStmt)
    (grammar : Grammatical .script admits holds) (n : Nat) :
    GivesStatements admits holdsStmt n := by
  induction n with
  | zero => constructor <;> intros <;> exact .error
  | succ n ih => exact ⟨ih.step_stmt grammar statements, ih.step_body, ih.step_block⟩

theorem GrammaticalStmt.gives_parseStmts (statements : GrammaticalStmt holds holdsStmt)
    (grammar : Grammatical .script admits holds) (n : Nat) {tokens : List Token}
    (source : SourceOf admits tokens) : Gives (Each holdsStmt) (parseStmts n tokens) := by
  induction n generalizing tokens with
  | zero => exact .error
  | succ n ih =>
      unfold parseStmts
      split
      · exact ih (source.behind List.suffix_rfl nofun)
      · split
        · exact .ok nofun
        · exact ((statements.givesStatements grammar n).stmt source).bind fun stmt ⟨here, rest⟩ =>
            (ih rest).bind fun stmts later => .ok (List.forall_mem_cons.2 ⟨here, later⟩)

/-- **The statements that the parser gives have what the grammar keeps.** -/
theorem GrammaticalStmt.parseProgram (statements : GrammaticalStmt holds holdsStmt)
    (grammar : Grammatical .script admits holds) (source : SourceOf admits tokens)
    {stmts : List Stmt} (parsed : parseProgram tokens = .ok stmts) :
    ∀ stmt ∈ stmts, holdsStmt stmt :=
  statements.gives_parseStmts grammar _ source stmts parsed

end

end ChatTemplate.Script
