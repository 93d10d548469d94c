/-
# ChatTemplate.Proofs.Dialects -- arithmetic in the words of scripts

The dialects share one grammar.  Arithmetic may spell a power `^`, which scripts keep
for a bitwise operator, and scripts have callbacks, which no source without `=>` can
tell.  So when every `^` of an arithmetic source is written `**`, what a script reads
is the same tree, and a source that is none fails at the same place for the same
reason (`SameReading`).

Three readers look at the dialect: that of callbacks, that of the operators of a level
and that of powers.  What each of them makes of a source and of its other spelling is
stated first; with that one call of a reader reads the same when the calls it makes do
(`ReadsAlike.step_…`), and so do all.

Main statements: `parse_inScript`, `math_parses_iff_script_parses`.
-/
import ChatTemplate.Proofs.ParserInvariant

namespace ChatTemplate.Script

set_option autoImplicit false

/-! ## The other spelling -/

/-- The symbol that means in a script what a symbol means in arithmetic. -/
def Symbol.inScript : Symbol → Symbol
  | .caret => .starStar
  | s => s

/-- The same of a token; all but symbols mean the same. -/
def Token.inScript : Token → Token
  | .sym s => .sym s.inScript
  | token => token

theorem Symbol.inScript_eq_iff {symbol : Symbol} (fixed : symbol ≠ .caret ∧ symbol ≠ .starStar)
    (s : Symbol) : s.inScript = symbol ↔ s = symbol := by
  cases s with
  | caret =>
      constructor
      · intro same
        exact absurd same.symm fixed.2
      · intro same
        exact absurd same.symm fixed.1
  | _ => rfl

/-- A source begins with a symbol that has one meaning if its other spelling does. -/
theorem eq_sym_of_map_inScript {symbol : Symbol}
    (fixed : symbol ≠ .caret ∧ symbol ≠ .starStar) {tokens rest' : List Token}
    (begins : tokens.map Token.inScript = .sym symbol :: rest') :
    ∃ rest, tokens = .sym symbol :: rest := by
  cases tokens with
  | nil => simp at begins
  | cons token rest =>
      have first : token.inScript = .sym symbol := (List.cons.inj begins).1
      cases token with
      | sym s =>
          have same : s.inScript = symbol := Token.sym.inj first
          rw [Symbol.inScript_eq_iff fixed] at same
          exact ⟨rest, by rw [same]⟩
      | _ => simp [Token.inScript] at first

/-- An error that names the token of the other spelling. -/
def SyntaxError.inScript : SyntaxError → SyntaxError
  | .expected what found => .expected what found.inScript
  | .strayToken found => .strayToken found.inScript
  | .leftover found => .leftover found.inScript
  | cause => cause

/-- No token begins the body of a callback. -/
abbrev Arrowless (tokens : List Token) : Prop :=
  AllAdmitted (· ≠ .sym .arrow) tokens

theorem peek_inScript (tokens : List Token) :
    peek (tokens.map Token.inScript) = (peek tokens).inScript := by
  cases tokens with
  | nil => rfl
  | cons token tokens => rfl

/-! ## Operators -/

theorem binaryOp_inScript (s : Symbol) : binaryOp? .script s.inScript = binaryOp? .math s := by
  cases s <;> rfl

theorem unaryOp_inScript (s : Symbol) : unaryOp? s.inScript = unaryOp? s := by
  cases s <;> rfl

theorem assignOp_inScript (s : Symbol) : assignOp? s.inScript = assignOp? s := by
  cases s <;> rfl

/-- At every level but that of the bitwise operator, and at that level because no `^` is
left. -/
theorem operatorAt_inScript (level : Nat) (tokens : List Token) :
    operatorAt? .script level (tokens.map Token.inScript) =
      (operatorAt? .math level tokens).map fun found =>
        (found.1, found.2.map Token.inScript) := by
  cases tokens with
  | nil => rfl
  | cons token tokens =>
      cases token with
      | sym s =>
          simp only [List.map_cons, Token.inScript, operatorAt?, binaryOp_inScript]
          cases binaryOp? .math s with
          | none => rfl
          | some op =>
              by_cases here : op.level? = some level
              · simp only [if_pos here]
                rfl
              · simp only [if_neg here]
                rfl
      | _ => rfl

theorem powerAt_inScript (tokens : List Token) :
    powerAt? .script (tokens.map Token.inScript) =
      (powerAt? .math tokens).map (List.map Token.inScript) := by
  cases tokens with
  | nil => rfl
  | cons token tokens =>
      cases token with
      | sym s =>
          simp only [List.map_cons, Token.inScript, powerAt?, binaryOp_inScript]
          split <;> rfl
      | _ => rfl

/-! ## Looking ahead -/

theorem assignmentHead_inScript (tokens : List Token) :
    assignmentHead? (tokens.map Token.inScript) =
      (assignmentHead? tokens).map fun head =>
        (head.1, head.2.1, head.2.2.map Token.inScript) := by
  match tokens with
  | .name x :: .sym s :: rest =>
      simp only [List.map_cons, Token.inScript, assignmentHead?, assignOp_inScript]
      cases assignOp? s <;> rfl
  | [] => rfl
  | [token] => cases token <;> rfl
  | .int _ :: _ :: _ => rfl
  | .float _ :: _ :: _ => rfl
  | .str _ :: _ :: _ => rfl
  | .sym _ :: _ :: _ => rfl
  | .unknown _ :: _ :: _ => rfl
  | .eof :: _ :: _ => rfl
  | .name _ :: .int _ :: _ => rfl
  | .name _ :: .float _ :: _ => rfl
  | .name _ :: .str _ :: _ => rfl
  | .name _ :: .name _ :: _ => rfl
  | .name _ :: .unknown _ :: _ => rfl
  | .name _ :: .eof :: _ => rfl

/-- The other spelling has no more arrows. -/
theorem Arrowless.map_inScript {tokens : List Token} (source : Arrowless tokens) :
    Arrowless (tokens.map Token.inScript) := by
  intro token member
  obtain ⟨original, inSource, rfl⟩ := List.mem_map.1 member
  cases original with
  | sym s =>
      have other := source (.sym s) inSource
      cases s with
      | arrow => exact absurd rfl other
      | _ => nofun
  | _ => nofun

/-- Without arrows a script has no callbacks. -/
theorem callbackHead_of_arrowless (dialect : Dialect) {tokens : List Token}
    (source : Arrowless tokens) : callbackHead? dialect tokens = none := by
  unfold callbackHead?
  split
  · rfl
  · split
    · exact absurd rfl (source (.sym .arrow) (by simp))
    · next rest =>
        split
        · next params rest' listed =>
            have suffix : .sym .arrow :: rest' <:+ rest := suffix_of_paramNames listed
            have inSource : .sym .arrow ∈ rest := suffix.subset List.mem_cons_self
            exact absurd rfl (source (.sym .arrow) (List.mem_cons_of_mem _ inSource))
        · rfl
    · rfl

/-! ## Lists that go on -/

section

variable {dialect : Dialect} {n : Nat} {tokens : List Token}

theorem parseArgs_of_not_closed (function : String)
    (other : ¬ ∃ rest, tokens = .sym .rparen :: rest) :
    parseArgs dialect (n + 1) function tokens = (do
      let (first, tokens) ← parseAssign dialect n tokens
      let (others, tokens) ← parseMore dialect n tokens
      match tokens with
      | .sym .rparen :: tokens => return (first :: others, tokens)
      | _ => .error (.unclosedArguments function)) := by
  unfold parseArgs
  split
  · exact absurd ⟨_, rfl⟩ other
  · rfl

theorem parseItems_of_not_closed (other : ¬ ∃ rest, tokens = .sym .rbracket :: rest) :
    parseItems dialect (n + 1) tokens = (do
      let (item, tokens) ← parseAssign dialect n tokens
      match tokens with
      | .sym .comma :: tokens => do
          let (items, tokens) ← parseItems dialect n tokens
          return (item :: items, tokens)
      | _ => do
          let tokens ← expect .closeIndex .rbracket tokens
          return ([item], tokens)) := by
  conv =>
    lhs
    unfold parseItems
  split
  · exact absurd ⟨_, rfl⟩ other
  · rfl

end

/-! ## Reading the same -/

/-- **Two readers read the same from a source and from its other spelling**: one tree,
and the tokens that they leave are again two spellings of one source, or one error. -/
inductive SameReading {α : Type} :
    Except SyntaxError (α × List Token) → Except SyntaxError (α × List Token) → Prop
  | ok {tree : α} {rest : List Token} (left : Arrowless rest) :
      SameReading (.ok (tree, rest)) (.ok (tree, rest.map Token.inScript))
  | error {cause : SyntaxError} : SameReading (.error cause) (.error cause.inScript)

variable {α β : Type} {n : Nat} {tokens : List Token}

theorem SameReading.bind {one other : Except SyntaxError (α × List Token)}
    (same : SameReading one other)
    {next next' : α × List Token → Except SyntaxError (β × List Token)}
    (goesOn : ∀ tree rest, Arrowless rest →
      SameReading (next (tree, rest)) (next' (tree, rest.map Token.inScript))) :
    SameReading (one >>= next) (other >>= next') := by
  cases same with
  | ok left => exact goesOn _ _ left
  | error => exact .error

/-- A symbol with one meaning is expected at the same place. -/
theorem SameReading.expect (what : Expected) {symbol : Symbol}
    (fixed : symbol ≠ .caret ∧ symbol ≠ .starStar) (source : Arrowless tokens)
    {next next' : List Token → Except SyntaxError (β × List Token)}
    (goesOn : ∀ rest, Arrowless rest → SameReading (next rest) (next' (rest.map Token.inScript))) :
    SameReading (expect what symbol tokens >>= next)
      (expect what symbol (tokens.map Token.inScript) >>= next') := by
  cases tokens with
  | nil => exact .error
  | cons token rest =>
      cases token with
      | sym s =>
          simp only [List.map_cons, Token.inScript, Script.expect, Symbol.inScript_eq_iff fixed]
          split
          · exact goesOn rest (source.drop (List.suffix_cons _ _))
          · exact .error
      | _ => exact .error

/-- **The readers with a bound read the same in both dialects.** -/
structure ReadsAlike (n : Nat) : Prop where
  expr {tokens : List Token} (source : Arrowless tokens) :
    SameReading (parseExpr .math n tokens) (parseExpr .script n (tokens.map Token.inScript))
  more {tokens : List Token} (source : Arrowless tokens) :
    SameReading (parseMore .math n tokens) (parseMore .script n (tokens.map Token.inScript))
  assign {tokens : List Token} (source : Arrowless tokens) :
    SameReading (parseAssign .math n tokens) (parseAssign .script n (tokens.map Token.inScript))
  conditional {tokens : List Token} (source : Arrowless tokens) :
    SameReading (parseConditional .math n tokens)
      (parseConditional .script n (tokens.map Token.inScript))
  binary (level : Nat) {tokens : List Token} (source : Arrowless tokens) :
    SameReading (parseBinary .math n level tokens)
      (parseBinary .script n level (tokens.map Token.inScript))
  operands (level : Nat) (left : Expr) {tokens : List Token} (source : Arrowless tokens) :
    SameReading (parseOperands .math n level left tokens)
      (parseOperands .script n level left (tokens.map Token.inScript))
  unary {tokens : List Token} (source : Arrowless tokens) :
    SameReading (parseUnary .math n tokens) (parseUnary .script n (tokens.map Token.inScript))
  power {tokens : List Token} (source : Arrowless tokens) :
    SameReading (parsePower .math n tokens) (parsePower .script n (tokens.map Token.inScript))
  target (target : Expr) {tokens : List Token} (source : Arrowless tokens) :
    SameReading (parsePostfix .math n target tokens)
      (parsePostfix .script n target (tokens.map Token.inScript))
  args (function : String) {tokens : List Token} (source : Arrowless tokens) :
    SameReading (parseArgs .math n function tokens)
      (parseArgs .script n function (tokens.map Token.inScript))
  items {tokens : List Token} (source : Arrowless tokens) :
    SameReading (parseItems .math n tokens) (parseItems .script n (tokens.map Token.inScript))
  primary {tokens : List Token} (source : Arrowless tokens) :
    SameReading (parsePrimary .math n tokens) (parsePrimary .script n (tokens.map Token.inScript))

namespace ReadsAlike

theorem step_expr (calls : ReadsAlike n) (source : Arrowless tokens) :
    SameReading (parseExpr .math (n + 1) tokens)
      (parseExpr .script (n + 1) (tokens.map Token.inScript)) := by
  rw [parseExpr, parseExpr]
  refine (calls.assign source).bind fun first rest source => ?_
  refine (calls.more source).bind fun others rest source => ?_
  exact .ok source

theorem step_more (calls : ReadsAlike n) (source : Arrowless tokens) :
    SameReading (parseMore .math (n + 1) tokens)
      (parseMore .script (n + 1) (tokens.map Token.inScript)) := by
  cases tokens with
  | nil => exact .ok source
  | cons token tokens =>
      have later : Arrowless tokens := source.drop (List.suffix_cons _ _)
      cases token with
      | sym s =>
          cases s with
          | comma =>
              refine (calls.assign later).bind fun item rest source => ?_
              refine (calls.more source).bind fun items rest source => ?_
              exact .ok source
          | _ => exact .ok source
      | _ => exact .ok source

/-- Neither dialect finds a callback; an assignment begins in both or in none. -/
theorem step_assign (calls : ReadsAlike n) (source : Arrowless tokens) :
    SameReading (parseAssign .math (n + 1) tokens)
      (parseAssign .script (n + 1) (tokens.map Token.inScript)) := by
  rw [parseAssign, parseAssign, callbackHead_of_arrowless _ source,
    callbackHead_of_arrowless _ source.map_inScript, assignmentHead_inScript]
  cases head : assignmentHead? tokens with
  | none => exact calls.conditional source
  | some head' =>
      obtain ⟨name, op, rest⟩ := head'
      obtain ⟨s, -, rfl⟩ := assignmentHead_eq_some head
      refine (calls.assign (source.drop (List.suffix_append [_, _] _))).bind ?_
      intro value rest source
      exact .ok source

theorem step_conditional (calls : ReadsAlike n) (source : Arrowless tokens) :
    SameReading (parseConditional .math (n + 1) tokens)
      (parseConditional .script (n + 1) (tokens.map Token.inScript)) := by
  rw [parseConditional, parseConditional]
  refine (calls.binary 0 source).bind fun condition rest source => ?_
  cases rest with
  | nil => exact .ok source
  | cons token rest =>
      have later : Arrowless rest := source.drop (List.suffix_cons _ _)
      cases token with
      | sym s =>
          cases s with
          | question =>
              refine (calls.assign later).bind fun yes rest source => ?_
              refine SameReading.expect .colon (by decide) source fun rest source => ?_
              refine (calls.assign source).bind fun no rest source => ?_
              exact .ok source
          | _ => exact .ok source
      | _ => exact .ok source

theorem step_binary (calls : ReadsAlike n) (level : Nat) (source : Arrowless tokens) :
    SameReading (parseBinary .math (n + 1) level tokens)
      (parseBinary .script (n + 1) level (tokens.map Token.inScript)) := by
  rw [parseBinary, parseBinary]
  by_cases binary : level < 10
  · rw [if_pos binary, if_pos binary]
    refine (calls.binary (level + 1) source).bind fun left rest source => ?_
    exact calls.operands level left source
  · rw [if_neg binary, if_neg binary]
    exact calls.unary source

theorem step_operands (calls : ReadsAlike n) (level : Nat) (left : Expr)
    (source : Arrowless tokens) :
    SameReading (parseOperands .math (n + 1) level left tokens)
      (parseOperands .script (n + 1) level left (tokens.map Token.inScript)) := by
  rw [parseOperands, parseOperands, operatorAt_inScript]
  cases found : operatorAt? .math level tokens with
  | none => exact .ok source
  | some operator =>
      obtain ⟨op, rest⟩ := operator
      obtain ⟨s, -, rfl⟩ := operatorAt_eq_some found
      have later : Arrowless rest := source.drop (List.suffix_cons _ _)
      refine (calls.binary (level + 1) later).bind fun right rest source => ?_
      exact calls.operands level (.binary op left right) source

theorem step_unary (calls : ReadsAlike n) (source : Arrowless tokens) :
    SameReading (parseUnary .math (n + 1) tokens)
      (parseUnary .script (n + 1) (tokens.map Token.inScript)) := by
  cases tokens with
  | nil => exact calls.power source
  | cons token tokens =>
      have later : Arrowless tokens := source.drop (List.suffix_cons _ _)
      cases token with
      | sym s =>
          rw [List.map_cons, Token.inScript, parseUnary, parseUnary, unaryOp_inScript]
          cases unaryOp? s with
          | none => exact calls.power source
          | some op =>
              refine (calls.unary later).bind fun operand rest source => ?_
              exact .ok source
      | _ => exact calls.power source

/-- An exponent follows after a power sign of either spelling. -/
theorem step_power (calls : ReadsAlike n) (source : Arrowless tokens) :
    SameReading (parsePower .math (n + 1) tokens)
      (parsePower .script (n + 1) (tokens.map Token.inScript)) := by
  rw [parsePower, parsePower]
  refine (calls.primary source).bind fun first rest source => ?_
  refine (calls.target first source).bind fun base rest source => ?_
  dsimp only
  rw [powerAt_inScript]
  cases found : powerAt? .math rest with
  | none => exact .ok source
  | some later =>
      obtain ⟨s, -, rfl⟩ := powerAt_eq_some found
      have left : Arrowless later := source.drop (List.suffix_cons _ _)
      refine (calls.unary left).bind fun exponent rest source => ?_
      exact .ok source

/-- What is after a point and a name is a method call or a member. -/
theorem step_key (calls : ReadsAlike n) (target : Expr) (key : String)
    (source : Arrowless tokens) :
    SameReading (parsePostfix .math (n + 1) target (.sym .dot :: .name key :: tokens))
      (parsePostfix .script (n + 1) target
        ((.sym .dot :: .name key :: tokens).map Token.inScript)) := by
  have isMember := calls.target (.member target key) source
  cases tokens with
  | nil => exact isMember
  | cons token tokens =>
      have later : Arrowless tokens := source.drop (List.suffix_cons _ _)
      cases token with
      | sym s =>
          cases s with
          | lparen =>
              refine (calls.args key later).bind fun args rest source => ?_
              exact calls.target (.method target key args) source
          | _ => exact isMember
      | _ => exact isMember

theorem step_target (calls : ReadsAlike n) (target : Expr) (source : Arrowless tokens) :
    SameReading (parsePostfix .math (n + 1) target tokens)
      (parsePostfix .script (n + 1) target (tokens.map Token.inScript)) := by
  cases tokens with
  | nil => exact .ok source
  | cons token tokens =>
      have later : Arrowless tokens := source.drop (List.suffix_cons _ _)
      cases token with
      | sym s =>
          cases s with
          | dot =>
              cases tokens with
              | nil => exact .error
              | cons token tokens =>
                  have rest : Arrowless tokens := later.drop (List.suffix_cons _ _)
                  cases token with
                  | name key => exact calls.step_key target key rest
                  | _ => exact .error
          | lbracket =>
              refine (calls.expr later).bind fun key rest source => ?_
              refine SameReading.expect .closeIndex (by decide) source fun rest source => ?_
              exact calls.target (.index target key) source
          | _ => exact .ok source
      | _ => exact .ok source

theorem step_args (calls : ReadsAlike n) (function : String) (source : Arrowless tokens) :
    SameReading (parseArgs .math (n + 1) function tokens)
      (parseArgs .script (n + 1) function (tokens.map Token.inScript)) := by
  by_cases closed : ∃ rest, tokens = .sym .rparen :: rest
  · obtain ⟨rest, rfl⟩ := closed
    exact .ok (source.drop (List.suffix_cons _ _))
  · have other : ¬ ∃ rest, tokens.map Token.inScript = .sym .rparen :: rest := by
      rintro ⟨rest, begins⟩
      exact closed (eq_sym_of_map_inScript (by decide) begins)
    rw [parseArgs_of_not_closed function closed, parseArgs_of_not_closed function other]
    refine (calls.assign source).bind fun first rest source => ?_
    refine (calls.more source).bind fun others rest source => ?_
    cases rest with
    | nil => exact .error
    | cons token rest =>
        cases token with
        | sym s =>
            cases s with
            | rparen => exact .ok (source.drop (List.suffix_cons _ _))
            | _ => exact .error
        | _ => exact .error

theorem step_items (calls : ReadsAlike n) (source : Arrowless tokens) :
    SameReading (parseItems .math (n + 1) tokens)
      (parseItems .script (n + 1) (tokens.map Token.inScript)) := by
  by_cases closed : ∃ rest, tokens = .sym .rbracket :: rest
  · obtain ⟨rest, rfl⟩ := closed
    exact .ok (source.drop (List.suffix_cons _ _))
  · have other : ¬ ∃ rest, tokens.map Token.inScript = .sym .rbracket :: rest := by
      rintro ⟨rest, begins⟩
      exact closed (eq_sym_of_map_inScript (by decide) begins)
    rw [parseItems_of_not_closed closed, parseItems_of_not_closed other]
    refine (calls.assign source).bind fun item rest source => ?_
    -- the item is the last one unless a comma follows
    have last : SameReading (do
          let later ← expect .closeIndex .rbracket rest
          return ([item], later)) (do
          let later ← expect .closeIndex .rbracket (rest.map Token.inScript)
          return ([item], later)) :=
      SameReading.expect .closeIndex (by decide) source fun later source => .ok source
    cases rest with
    | nil => exact last
    | cons token rest =>
        have later : Arrowless rest := source.drop (List.suffix_cons _ _)
        cases token with
        | sym s =>
            cases s with
            | comma =>
                refine (calls.items later).bind fun items rest source => ?_
                exact .ok source
            | _ => exact last
        | _ => exact last

/-- A word is a value, a call or a variable in both dialects. -/
theorem step_name (calls : ReadsAlike n) (word : String) (source : Arrowless tokens) :
    SameReading (parsePrimary .math (n + 1) (.name word :: tokens))
      (parsePrimary .script (n + 1) ((.name word :: tokens).map Token.inScript)) := by
  rw [List.map_cons, Token.inScript, parsePrimary_name, parsePrimary_name]
  · cases wordValue? word with
    | some value => exact .ok source
    | none =>
        cases tokens with
        | nil => exact .ok source
        | cons token tokens =>
            have later : Arrowless tokens := source.drop (List.suffix_cons _ _)
            cases token with
            | sym s =>
                cases s with
                | lparen =>
                    refine (calls.args word later).bind fun args rest source => ?_
                    exact .ok source
                | _ => exact .ok source
            | _ => exact .ok source
  · nofun

theorem step_primary (calls : ReadsAlike n) (source : Arrowless tokens) :
    SameReading (parsePrimary .math (n + 1) tokens)
      (parsePrimary .script (n + 1) (tokens.map Token.inScript)) := by
  cases tokens with
  | nil => exact .error
  | cons token tokens =>
      have later : Arrowless tokens := source.drop (List.suffix_cons _ _)
      cases token with
      | int k => exact .ok later
      | float x => exact .ok later
      | str s => exact .ok later
      | name word => exact calls.step_name word later
      | sym s =>
          cases s with
          | lparen =>
              refine (calls.expr later).bind fun inner rest source => ?_
              exact SameReading.expect .closeParen (by decide) source fun rest source => .ok source
          | lbracket =>
              refine (calls.items later).bind fun items rest source => ?_
              exact .ok source
          | _ => exact .error
      | unknown c => exact .error
      | eof => exact .error

end ReadsAlike

theorem readsAlike (n : Nat) : ReadsAlike n := by
  induction n with
  | zero => constructor <;> intros <;> exact .error
  | succ n ih =>
      exact
        { expr := ih.step_expr
          more := ih.step_more
          assign := ih.step_assign
          conditional := ih.step_conditional
          binary := fun level _ => ih.step_binary level
          operands := fun level left _ => ih.step_operands level left
          unary := ih.step_unary
          power := ih.step_power
          target := fun target _ => ih.step_target target
          args := fun function _ => ih.step_args function
          items := ih.step_items
          primary := ih.step_primary }

/-! ## Whole sources -/

/-- What follows an expression is the end of both sources or of none. -/
theorem SameReading.toEnd {one other : Except SyntaxError (Expr × List Token)}
    (same : SameReading one other) :
    (do
      let (expr, rest) ← other
      match peek rest with
      | .eof => return expr
      | found => .error (.leftover found)) =
    (do
      let (expr, rest) ← one
      match peek rest with
      | .eof => return expr
      | found => .error (.leftover found)).mapError SyntaxError.inScript := by
  cases same with
  | error => rfl
  | @ok tree rest left =>
      show (match peek (rest.map Token.inScript) with
          | .eof => .ok tree
          | found => .error (.leftover found)) =
        (match peek rest with
          | .eof => .ok tree
          | found => .error (.leftover found) : Except SyntaxError Expr).mapError
            SyntaxError.inScript
      rw [peek_inScript]
      cases peek rest <;> rfl

/-- **A script reads the other spelling of an arithmetic source as the same tree**, or
fails as arithmetic does. -/
theorem parse_inScript {tokens : List Token} (source : Arrowless tokens) :
    parse .script (tokens.map Token.inScript) =
      (parse .math tokens).mapError SyntaxError.inScript := by
  have bound : parseBound (tokens.map Token.inScript) = parseBound tokens := by
    rw [parseBound, parseBound, List.length_map]
  rw [parse, parse, bound]
  exact ((readsAlike (parseBound tokens)).expr source).toEnd

/-- **The dialects differ only in the spelling of powers.**  A source without arrows is
an arithmetic expression exactly if with every `^` written `**` it is an expression of
a script, and then both are the same tree. -/
theorem math_parses_iff_script_parses {tokens : List Token} (source : .sym .arrow ∉ tokens)
    (e : Expr) :
    parse .math tokens = .ok e ↔ parse .script (tokens.map Token.inScript) = .ok e := by
  have arrowless : Arrowless tokens := by
    rintro token member rfl
    exact source member
  rw [parse_inScript arrowless]
  cases parse .math tokens with
  | ok tree => rfl
  | error cause =>
      constructor
      · intro read
        cases read
      · intro read
        cases read

/-- `-2 ^ x ** 3`, in which both spellings of powers meet. -/
theorem towers_are_spelled_either_way :
    let tokens : List Token :=
      [.sym .minus, .int 2, .sym .caret, .name "x", .sym .starStar, .int 3]
    let tower : Expr :=
      .unary .neg (.binary .pow (.literal (.int 2))
        (.binary .pow (.var "x") (.literal (.int 3))))
    .sym .arrow ∉ tokens ∧
      parse .math tokens = .ok tower ∧
      parse .script (tokens.map Token.inScript) = .ok tower := by
  intro tokens tower
  have source : .sym .arrow ∉ tokens := by decide
  have read : parse .math tokens = .ok tower := rfl
  exact ⟨source, read, (math_parses_iff_script_parses source tower).1 read⟩

/-- A callback is told from an assignment by its arrow, and only in scripts. -/
example :
    let tokens : List Token := [.name "x", .sym .arrow, .name "x"]
    parse .script tokens = .ok (.lambda ["x"] (.var "x")) ∧
      parse .math tokens = .error (.leftover (.sym .arrow)) :=
  ⟨rfl, rfl⟩

end ChatTemplate.Script
