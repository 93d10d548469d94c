/-
# ChatTemplate.Proofs.NamedReading -- expressions with names in the places of calls

A name is read wherever a call is.  So whoever reads a source with calls reads the same with names
in their places, with a bound of its own (`ReadsNamed`), unless it fails or comes to a token that
no reader goes on with (`NamedReading`).  There is one step for each reader, and `readsNamed`
follows by induction on the bound.

Main statement: `readsNamed`.
-/
import ChatTemplate.Proofs.AnsweredCalls
import ChatTemplate.Proofs.NamedSources

namespace ChatTemplate.Script

set_option autoImplicit false

variable {page : String → Value} {bound : String → Option Value}

/-! ## Reading both -/

section

variable {tokens : List Token} (stuck : Stuck tokens)
include stuck

theorem blocked_more (n : Nat) : Blocked (parseMore .script n tokens) := by
  cases n with
  | zero => exact .error
  | succ n =>
      unfold parseMore
      split
      · exact absurd rfl (stuck.ne (by decide))
      · exact .ok stuck

theorem blocked_postfixed (target : Expr) (n : Nat) :
    Blocked (parsePostfix .script n target tokens) := by
  intro result found
  rw [gives_postfixed stuck.inert target n result found]
  exact stuck

theorem blocked_operands (level : Nat) (left : Expr) (n : Nat) :
    Blocked (parseOperands .script n level left tokens) := by
  intro result found
  rw [gives_operands stuck.inert level left n result found]
  exact stuck

/-- No reader expects such a token. -/
theorem blocked_expect {β : Type} {holds : β → Prop} (what : Expected) {symbol : Symbol}
    (other : (Token.sym symbol).binding? .script ≠ some 16)
    (next : List Token → Except SyntaxError β) :
    Gives holds (expect what symbol tokens >>= next) := by
  unfold expect
  split
  · next s rest =>
      have apart : s ≠ symbol := by
        rintro rfl
        exact other stuck
      rw [if_neg apart]
      exact .error
  · exact .error

end

/-- **Two readers read the same**, unless the first one fails or comes to a place where a script
cannot go on, or the second one runs out of calls. -/
inductive ReadsAlong (stop : List Token → Prop) (page : String → Value)
    (bound : String → Option Value) {α : Type} (related : α → α → Prop) :
    Except SyntaxError (α × List Token) → Except SyntaxError (α × List Token) → Prop
  | blocked {one other : Except SyntaxError (α × List Token)}
      (here : Gives (fun result => stop result.2) one) :
      ReadsAlong stop page bound related one other
  | tooDeep {one : Except SyntaxError (α × List Token)} :
      ReadsAlong stop page bound related one (.error .tooDeep)
  | ok {tree tree' : α} {rest rest' : List Token} (same : related tree tree')
      (left : NamedSource page bound rest rest') :
      ReadsAlong stop page bound related (.ok (tree, rest)) (.ok (tree', rest'))

/-- An expression cannot go on at a token that follows nothing but a lone name. -/
abbrev NamedReading (page : String → Value) (bound : String → Option Value) {α : Type}
    (related : α → α → Prop) :
    Except SyntaxError (α × List Token) → Except SyntaxError (α × List Token) → Prop :=
  ReadsAlong Stuck page bound related

/-- Whatever is behind a statement can begin another one. -/
abbrev StatementReading (page : String → Value) (bound : String → Option Value) {α : Type}
    (related : α → α → Prop) :
    Except SyntaxError (α × List Token) → Except SyntaxError (α × List Token) → Prop :=
  ReadsAlong (fun _ => False) page bound related

namespace ReadsAlong

variable {α β : Type} {related : α → α → Prop} {after : β → β → Prop}
  {stop stop' : List Token → Prop}

theorem error {cause : SyntaxError} {other : Except SyntaxError (α × List Token)} :
    ReadsAlong stop page bound related (.error cause) other :=
  .blocked .error

theorem bind {one other : Except SyntaxError (α × List Token)}
    (same : ReadsAlong stop page bound related one other)
    {next next' : α × List Token → Except SyntaxError (β × List Token)}
    (stays : ∀ tree rest, stop rest → Gives (fun result => stop' result.2) (next (tree, rest)))
    (goesOn : ∀ tree tree' rest rest', related tree tree' → NamedSource page bound rest rest' →
      ReadsAlong stop' page bound after (next (tree, rest)) (next' (tree', rest'))) :
    ReadsAlong stop' page bound after (one >>= next) (other >>= next') := by
  cases same with
  | blocked here => exact .blocked (here.bind fun (tree, rest) stopped => stays tree rest stopped)
  | tooDeep => exact .tooDeep
  | ok same left => exact goesOn _ _ _ _ same left

theorem expect (what : Expected) {symbol : Symbol} (other : symbol ≠ .dot)
    {tokens tokens' : List Token} (source : NamedSource page bound tokens tokens')
    {next next' : List Token → Except SyntaxError (β × List Token)}
    (goesOn : ∀ rest rest', NamedSource page bound rest rest' →
      ReadsAlong stop page bound after (next rest) (next' rest')) :
    ReadsAlong stop page bound after (expect what symbol tokens >>= next)
      (expect what symbol tokens' >>= next') := by
  cases source with
  | @sym s rest rest' _ later =>
      by_cases here : s = symbol
      · rw [Script.expect, Script.expect, if_pos here, if_pos here]
        exact goesOn _ _ later
      · rw [Script.expect, if_neg here]
        exact .error
  | point keyless later =>
      rw [Script.expect, if_neg other.symm]
      exact .error
  | key later =>
      rw [Script.expect, if_neg other.symm]
      exact .error
  | _ => exact .error

end ReadsAlong

/-- **The readers with a bound read the same** with calls and with the names in their places, each
with a bound of its own. -/
structure ReadsNamed (page : String → Value) (bound : String → Option Value) (n m : Nat) :
    Prop where
  expr {tokens tokens' : List Token} (source : NamedSource page bound tokens tokens') :
    NamedReading page bound (Named page bound) (parseExpr .script n tokens)
      (parseExpr .script m tokens')
  more {tokens tokens' : List Token} (source : NamedSource page bound tokens tokens') :
    NamedReading page bound (List.Forall₂ (Named page bound)) (parseMore .script n tokens)
      (parseMore .script m tokens')
  assign {tokens tokens' : List Token} (source : NamedSource page bound tokens tokens') :
    NamedReading page bound (Named page bound) (parseAssign .script n tokens)
      (parseAssign .script m tokens')
  conditional {tokens tokens' : List Token}
    (source : NamedSource page bound tokens tokens') :
    NamedReading page bound (Named page bound) (parseConditional .script n tokens)
      (parseConditional .script m tokens')
  binary (level : Nat) {tokens tokens' : List Token}
    (source : NamedSource page bound tokens tokens') :
    NamedReading page bound (Named page bound) (parseBinary .script n level tokens)
      (parseBinary .script m level tokens')
  operands (level : Nat) {left left' : Expr} (inLeft : Named page bound left left')
    {tokens tokens' : List Token} (source : NamedSource page bound tokens tokens') :
    NamedReading page bound (Named page bound) (parseOperands .script n level left tokens)
      (parseOperands .script m level left' tokens')
  unary {tokens tokens' : List Token} (source : NamedSource page bound tokens tokens') :
    NamedReading page bound (Named page bound) (parseUnary .script n tokens)
      (parseUnary .script m tokens')
  power {tokens tokens' : List Token} (source : NamedSource page bound tokens tokens') :
    NamedReading page bound (Named page bound) (parsePower .script n tokens)
      (parsePower .script m tokens')
  target {target target' : Expr} (inTarget : Named page bound target target')
    {tokens tokens' : List Token} (source : NamedSource page bound tokens tokens') :
    NamedReading page bound (Named page bound) (parsePostfix .script n target tokens)
      (parsePostfix .script m target' tokens')
  args (function : String) {tokens tokens' : List Token}
    (source : NamedSource page bound tokens tokens') :
    NamedReading page bound (List.Forall₂ (Named page bound)) (parseArgs .script n function tokens)
      (parseArgs .script m function tokens')
  items {tokens tokens' : List Token} (source : NamedSource page bound tokens tokens') :
    NamedReading page bound (List.Forall₂ (Named page bound)) (parseItems .script n tokens)
      (parseItems .script m tokens')
  primary {tokens tokens' : List Token}
    (source : NamedSource page bound tokens tokens') :
    NamedReading page bound (Named page bound) (parsePrimary .script n tokens)
      (parsePrimary .script m tokens')

/-- The words that are no variables: values, and those that statements begin with. -/
def reservedWords : List String :=
  ["true", "false", "null", "undefined", "return", "let", "const", "var", "if", "else"]

theorem not_reserved_of_known (free : ∀ word ∈ reservedWords, bound word = none) {name : String}
    {value : Value} (known : bound name = some value) : name ∉ reservedWords := fun reserved => by
  rw [free name reserved] at known
  nomatch known

theorem wordValue_of_known (free : ∀ word ∈ reservedWords, bound word = none) {name : String}
    {value : Value} (known : bound name = some value) : wordValue? name = none := by
  have other := not_reserved_of_known free known
  simp only [reservedWords, List.mem_cons, not_or] at other
  obtain ⟨notTrue, notFalse, notNull, notUndefined, -⟩ := other
  simp [wordValue?, notTrue, notFalse, notNull, notUndefined]

namespace ReadsNamed

variable {n m : Nat} {tokens tokens' : List Token}

theorem step_expr (calls : ReadsNamed page bound n m)
    (source : NamedSource page bound tokens tokens') :
    NamedReading page bound (Named page bound) (parseExpr .script (n + 1) tokens)
      (parseExpr .script (m + 1) tokens') := by
  rw [parseExpr, parseExpr]
  refine (calls.assign source).bind (fun first rest stuck => ?_)
    fun first first' rest rest' here source => ?_
  · exact (blocked_more stuck n).bind fun _ stuck => .ok stuck
  · refine (calls.more source).bind (fun others rest stuck => .ok stuck)
      fun others others' rest rest' each source => ?_
    refine .ok ?_ source
    cases each with
    | nil => exact here
    | cons next later => exact .sequence (.cons here (.cons next later))

theorem step_more (calls : ReadsNamed page bound n m)
    (source : NamedSource page bound tokens tokens') :
    NamedReading page bound (List.Forall₂ (Named page bound)) (parseMore .script (n + 1) tokens)
      (parseMore .script (m + 1) tokens') := by
  have whole := source
  cases source with
  | @sym s rest rest' other later =>
      cases s with
      | comma =>
          refine (calls.assign later).bind (fun item rest stuck => ?_)
            fun item item' rest rest' here source => ?_
          · exact (blocked_more stuck n).bind fun _ stuck => .ok stuck
          · exact (calls.more source).bind (fun items rest stuck => .ok stuck)
              fun items items' rest rest' each source => .ok (.cons here each) source
      | _ => exact .ok .nil whole
  | _ => exact .ok .nil whole

theorem step_assign (calls : ReadsNamed page bound n m)
    (source : NamedSource page bound tokens tokens') :
    NamedReading page bound (Named page bound) (parseAssign .script (n + 1) tokens)
      (parseAssign .script (m + 1) tokens') := by
  rw [parseAssign, parseAssign]
  cases source.heads with
  | none one other =>
      rw [one.1, one.2, other.1, other.2]
      exact calls.conditional source
  | blocked one here =>
      rw [one.1, one.2]
      exact .blocked (here n)
  | callback one other others later =>
      rw [one, other]
      exact (calls.assign later).bind (fun body rest stuck => .ok stuck)
        fun body body' rest rest' inBody source => .ok (.lambda others inBody) source
  | assignment one other free later =>
      rw [one.1, one.2, other.1, other.2]
      exact (calls.assign later).bind (fun value rest stuck => .ok stuck)
        fun value value' rest rest' inValue source => .ok (.assign free inValue) source

theorem step_conditional (calls : ReadsNamed page bound n m)
    (source : NamedSource page bound tokens tokens') :
    NamedReading page bound (Named page bound) (parseConditional .script (n + 1) tokens)
      (parseConditional .script (m + 1) tokens') := by
  rw [parseConditional, parseConditional]
  refine (calls.binary 0 source).bind (fun condition rest stuck => ?_)
    fun condition condition' rest rest' inCondition source => ?_
  · dsimp only
    split
    · exact absurd rfl (stuck.ne (by decide))
    · exact .ok stuck
  · have whole := source
    cases source with
    | @sym s rest rest' other later =>
        cases s with
        | question =>
            refine (calls.assign later).bind (fun yes rest stuck => ?_)
              fun yes yes' rest rest' inYes source => ?_
            · exact blocked_expect stuck .colon (by decide) _
            · refine ReadsAlong.expect .colon (by decide) source fun rest rest' source => ?_
              exact (calls.assign source).bind (fun no rest stuck => .ok stuck)
                fun no no' rest rest' inNo source =>
                  .ok (.conditional inCondition inYes inNo) source
        | _ => exact .ok inCondition whole
    | _ => exact .ok inCondition whole

theorem step_binary (calls : ReadsNamed page bound n m) (level : Nat)
    (source : NamedSource page bound tokens tokens') :
    NamedReading page bound (Named page bound) (parseBinary .script (n + 1) level tokens)
      (parseBinary .script (m + 1) level tokens') := by
  rw [parseBinary, parseBinary]
  by_cases binary : level < 10
  · rw [if_pos binary, if_pos binary]
    exact (calls.binary (level + 1) source).bind
      (fun left rest stuck => blocked_operands stuck level left n)
      fun left left' rest rest' inLeft source => calls.operands level inLeft source
  · rw [if_neg binary, if_neg binary]
    exact calls.unary source

theorem step_operands (calls : ReadsNamed page bound n m) (level : Nat) {left left' : Expr}
    (inLeft : Named page bound left left') (source : NamedSource page bound tokens tokens') :
    NamedReading page bound (Named page bound) (parseOperands .script (n + 1) level left tokens)
      (parseOperands .script (m + 1) level left' tokens') := by
  rw [parseOperands, parseOperands]
  rcases source.operatorAt level with ⟨none, none'⟩ | ⟨op, rest, rest', found, found', later⟩
  · rw [none, none']
    exact .ok inLeft source
  · rw [found, found']
    exact (calls.binary (level + 1) later).bind
      (fun right rest stuck => blocked_operands stuck level _ n)
      fun right right' rest rest' inRight source =>
        calls.operands level (.binary inLeft inRight) source

theorem step_unary (calls : ReadsNamed page bound n m)
    (source : NamedSource page bound tokens tokens') :
    NamedReading page bound (Named page bound) (parseUnary .script (n + 1) tokens)
      (parseUnary .script (m + 1) tokens') := by
  have power := calls.power source
  cases source with
  | @sym s rest rest' other later =>
      rw [parseUnary, parseUnary]
      cases unaryOp? s with
      | none => exact power
      | some op =>
          exact (calls.unary later).bind (fun operand rest stuck => .ok stuck)
            fun operand operand' rest rest' inner source => .ok (.unary inner) source
  | _ => exact power

theorem blocked_exponent (base : Expr) {rest : List Token} (stuck : Stuck rest) (n : Nat) :
    Blocked (match powerAt? .script rest with
      | some tokens => do
          let (exponent, tokens) ← parseUnary .script n tokens
          return (.binary .pow base exponent, tokens)
      | none => return (base, rest)) := by
  rw [stuck.inert.powerAt]
  exact .ok stuck

theorem step_power (calls : ReadsNamed page bound n m)
    (source : NamedSource page bound tokens tokens') :
    NamedReading page bound (Named page bound) (parsePower .script (n + 1) tokens)
      (parsePower .script (m + 1) tokens') := by
  rw [parsePower, parsePower]
  refine (calls.primary source).bind (fun first rest stuck => ?_)
    fun first first' rest rest' inFirst source => ?_
  · exact (blocked_postfixed stuck first n).bind fun base stuck => blocked_exponent base.1 stuck n
  · refine (calls.target inFirst source).bind (fun base rest stuck => blocked_exponent base stuck n)
      fun base base' rest rest' inBase source => ?_
    dsimp only
    rcases source.powerAt with ⟨none, none'⟩ | ⟨later, later', found, found', source⟩
    · rw [none, none']
      exact .ok inBase source
    · rw [found, found']
      exact (calls.unary source).bind (fun exponent rest stuck => .ok stuck)
        fun exponent exponent' rest rest' inExponent source =>
          .ok (.binary inBase inExponent) source

/-- What is after a point and a name is a method call or a member. -/
theorem step_key (calls : ReadsNamed page bound n m) {target target' : Expr}
    (inTarget : Named page bound target target') (key : String)
    (source : NamedSource page bound tokens tokens') :
    NamedReading page bound (Named page bound)
      (parsePostfix .script (n + 1) target (.sym .dot :: .name key :: tokens))
      (parsePostfix .script (m + 1) target' (.sym .dot :: .name key :: tokens')) := by
  have isMember : NamedReading page bound (Named page bound)
      (parsePostfix .script n (.member target key) tokens)
      (parsePostfix .script m (.member target' key) tokens') :=
    calls.target (.member inTarget) source
  cases source with
  | @sym s rest rest' other later =>
      cases s with
      | lparen =>
          exact (calls.args key later).bind (fun args rest stuck => blocked_postfixed stuck _ n)
            fun args args' rest rest' each source => calls.target (.method inTarget each) source
      | _ => exact isMember
  | _ => exact isMember

theorem step_target (calls : ReadsNamed page bound n m) {target target' : Expr}
    (inTarget : Named page bound target target') (source : NamedSource page bound tokens tokens') :
    NamedReading page bound (Named page bound) (parsePostfix .script (n + 1) target tokens)
      (parsePostfix .script (m + 1) target' tokens') := by
  have whole := source
  cases source with
  | key later => exact calls.step_key inTarget _ later
  | point keyless later =>
      unfold parsePostfix
      split
      · next same => exact absurd (List.cons.inj same).2 (keyless _ _)
      · next same => exact absurd (List.cons.inj same).2 (keyless _ _)
      · exact .error
      · next same => nomatch same
      · next pointless _ => exact absurd rfl (pointless _)
  | @sym s rest rest' other later =>
      cases s with
      | dot => exact absurd rfl other
      | lbracket =>
          refine (calls.expr later).bind (fun key rest stuck => ?_)
            fun key key' rest rest' inKey source => ?_
          · exact blocked_expect stuck .closeIndex (by decide) _
          · exact ReadsAlong.expect .closeIndex (by decide) source fun rest rest' source =>
              calls.target (.index inTarget inKey) source
      | _ => exact .ok inTarget whole
  | _ => exact .ok inTarget whole

theorem blocked_arguments (function : String) (first : Expr) (others : List Expr)
    {rest : List Token} (stuck : Stuck rest) :
    Blocked (match (motive := List Token → Except SyntaxError (List Expr × List Token)) rest with
      | .sym .rparen :: tokens => return (first :: others, tokens)
      | _ => .error (.unclosedArguments function)) := by
  split
  · exact absurd rfl (stuck.ne (by decide))
  · exact .error

theorem step_args (calls : ReadsNamed page bound n m) (function : String)
    (source : NamedSource page bound tokens tokens') :
    NamedReading page bound (List.Forall₂ (Named page bound))
      (parseArgs .script (n + 1) function tokens) (parseArgs .script (m + 1) function tokens') := by
  by_cases closed : ∃ rest, tokens = .sym .rparen :: rest
  · obtain ⟨rest, rfl⟩ := closed
    obtain ⟨rest', rfl, later⟩ := source.sym_left (by decide)
    exact .ok .nil later
  · have closed' := mt (source.closed_iff (by decide)).2 closed
    rw [parseArgs_of_not_closed function closed, parseArgs_of_not_closed function closed']
    refine (calls.assign source).bind (fun first rest stuck => ?_)
      fun first first' rest rest' here source => ?_
    · exact (blocked_more stuck n).bind fun others stuck =>
        blocked_arguments function first others.1 stuck
    · refine (calls.more source).bind
        (fun others rest stuck => blocked_arguments function first others stuck)
        fun others others' rest rest' each source => ?_
      dsimp only
      cases source with
      | @sym s rest rest' other later =>
          cases s with
          | rparen => exact .ok (.cons here each) later
          | _ => exact .error
      | _ => exact .error

theorem step_items (calls : ReadsNamed page bound n m)
    (source : NamedSource page bound tokens tokens') :
    NamedReading page bound (List.Forall₂ (Named page bound))
      (parseItems .script (n + 1) tokens) (parseItems .script (m + 1) tokens') := by
  by_cases closed : ∃ rest, tokens = .sym .rbracket :: rest
  · obtain ⟨rest, rfl⟩ := closed
    obtain ⟨rest', rfl, later⟩ := source.sym_left (by decide)
    exact .ok .nil later
  · have closed' := mt (source.closed_iff (by decide)).2 closed
    rw [parseItems_of_not_closed closed, parseItems_of_not_closed closed']
    refine (calls.assign source).bind (fun item rest stuck => ?_)
      fun item item' rest rest' here source => ?_
    · dsimp only
      split
      · exact absurd rfl (stuck.ne (by decide))
      · exact blocked_expect stuck .closeIndex (by decide) _
    · -- the item is the last one unless a comma follows
      have last : NamedReading page bound (List.Forall₂ (Named page bound)) (do
            let later ← expect .closeIndex .rbracket rest
            return ([item], later)) (do
            let later ← expect .closeIndex .rbracket rest'
            return ([item'], later)) :=
        ReadsAlong.expect .closeIndex (by decide) source fun later later' source =>
          .ok (.cons here .nil) source
      cases source with
      | @sym s rest rest' other later =>
          cases s with
          | comma =>
              exact (calls.items later).bind (fun items rest stuck => .ok stuck)
                fun items items' rest rest' each source => .ok (.cons here each) source
          | _ => exact last
      | _ => exact last

/-- A word is a value, a call or a variable in both sources. -/
theorem step_name (calls : ReadsNamed page bound n m) {word : String} (other : bound word = none)
    (uncalled : word = "url" → ∀ later, tokens ≠ .sym .lparen :: later)
    (source : NamedSource page bound tokens tokens') :
    NamedReading page bound (Named page bound) (parsePrimary .script (n + 1) (.name word :: tokens))
      (parsePrimary .script (m + 1) (.name word :: tokens')) := by
  have whole := source
  rw [parsePrimary_name, parsePrimary_name]
  cases wordValue? word with
  | some value => exact .ok .literal source
  | none =>
      cases source with
      | @sym s rest rest' _ later =>
          cases s with
          | lparen =>
              have function : word ≠ "url" := fun same => uncalled same _ rfl
              exact (calls.args word later).bind (fun args rest stuck => .ok stuck)
                fun args args' rest rest' each source => .ok (.call function each) source
          | _ => exact .ok (.var other) whole
      | _ => exact .ok (.var other) whole

/-- **A name is read in the place of a call**, unless an opening parenthesis is behind it. -/
theorem step_call {name address : String} (known : bound name = some (page address))
    (free : wordValue? name = none) (source : NamedSource page bound tokens tokens') :
    NamedReading page bound (Named page bound)
      (parsePrimary .script (n + 1)
        (.name "url" :: .sym .lparen :: .str address :: .sym .rparen :: tokens))
      (parsePrimary .script (m + 1) (.name name :: tokens')) := by
  by_cases paren : ∃ rest, tokens = .sym .lparen :: rest
  · obtain ⟨rest, rfl⟩ := paren
    refine .blocked fun result found => ?_
    rw [gives_call address (n + 1) result found]
    rfl
  · have noCall := mt (source.closed_iff (s := .lparen) (by decide)).2 paren
    have variable_ : parsePrimary .script (m + 1) (.name name :: tokens') =
        .ok (.var name, tokens') := by
      rw [parsePrimary_name, free]
      dsimp only
      split
      · exact absurd ⟨_, rfl⟩ noCall
      · rfl
    rw [variable_]
    cases read : parsePrimary .script (n + 1)
        (.name "url" :: .sym .lparen :: .str address :: .sym .rparen :: tokens) with
    | error cause => exact .error
    | ok result =>
        rw [gives_call address (n + 1) result read]
        exact .ok (.place known) source

theorem step_primary (calls : ReadsNamed page bound n m)
    (free : ∀ word ∈ reservedWords, bound word = none)
    (source : NamedSource page bound tokens tokens') :
    NamedReading page bound (Named page bound) (parsePrimary .script (n + 1) tokens)
      (parsePrimary .script (m + 1) tokens') := by
  cases source with
  | nil => exact .error
  | @call name address rest rest' known later =>
      exact step_call known (wordValue_of_known free known) later
  | name other uncalled later => exact calls.step_name other uncalled later
  | int later => exact .ok .literal later
  | float later => exact .ok .literal later
  | str later => exact .ok .literal later
  | @sym s rest rest' other later =>
      cases s with
      | lparen =>
          refine (calls.expr later).bind (fun inner rest stuck => ?_)
            fun inner inner' rest rest' here source => ?_
          · exact blocked_expect stuck .closeParen (by decide) _
          · exact ReadsAlong.expect .closeParen (by decide) source fun rest rest' source =>
              .ok here source
      | lbracket =>
          exact (calls.items later).bind (fun items rest stuck => .ok stuck)
            fun items items' rest rest' each source => .ok (.list each) source
      | _ => exact .error
  | _ => exact .error

end ReadsNamed

theorem readsNamed (free : ∀ word ∈ reservedWords, bound word = none) (n m : Nat) :
    ReadsNamed page bound n m := by
  induction n generalizing m with
  | zero => constructor <;> intros <;> exact .error
  | succ n ih =>
      cases m with
      | zero => constructor <;> intros <;> exact .tooDeep
      | succ m =>
          exact
            { expr := (ih m).step_expr
              more := (ih m).step_more
              assign := (ih m).step_assign
              conditional := (ih m).step_conditional
              binary := fun level _ _ => (ih m).step_binary level
              operands := fun level _ _ inLeft _ _ => (ih m).step_operands level inLeft
              unary := (ih m).step_unary
              power := (ih m).step_power
              target := fun inTarget _ _ => (ih m).step_target inTarget
              args := fun function _ _ => (ih m).step_args function
              items := (ih m).step_items
              primary := (ih m).step_primary free }

end ChatTemplate.Script
