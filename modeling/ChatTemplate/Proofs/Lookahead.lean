/-
# ChatTemplate.Proofs.Lookahead -- what the tokens after an expression decide

An expression ends where no token goes on with it.  Every such token binds at a
level (`Token.binding?`), and what is read at a level `Stops` at a token that
binds more loosely.

The two places where the parser looks ahead go by the beginning of an expression.
`Plain` tokens begin neither an assignment nor a callback.  That a parenthesis
around an expression is not taken for a list of parameters rests on `Opens`: the
first parenthesis inside an expression is an opening one, so the names of the
list would have to go on to the parenthesis that closes the whole
(`paramNames_past`).
-/
import ChatTemplate.Proofs.Printing

namespace ChatTemplate.Script

set_option autoImplicit false

/-! ## Going on and stopping -/

/-- The level at which a token goes on with what stands before it; calls,
assignments and callbacks go on with a single name only. -/
def Token.binding? (dialect : Dialect) : Token → Option Nat
  | .sym .comma => some 0
  | .sym .question => some 2
  | .sym .dot => some 15
  | .sym .lbracket => some 15
  | .sym .lparen => some 16
  | .sym .arrow => some 16
  | .sym s =>
      if (assignOp? s).isSome then some 16 else (binaryOp? dialect s).map BinaryOp.binding
  | _ => none

/-- **What is read at a level ends here.** -/
def Stops (dialect : Dialect) (level : Nat) (rest : List Token) : Prop :=
  ∀ binding ∈ (peek rest).binding? dialect, binding < level

theorem Stops.mono {dialect : Dialect} {level higher : Nat} {rest : List Token}
    (stops : Stops dialect level rest) (above : level ≤ higher) : Stops dialect higher rest :=
  fun binding found => Nat.lt_of_lt_of_le (stops binding found) above

/-- A token that goes on with nothing stops everything. -/
theorem stops_of_binding_eq_none {dialect : Dialect} {token : Token}
    (none : token.binding? dialect = none) (level : Nat) (rest : List Token) :
    Stops dialect level (token :: rest) := by
  intro binding found
  rw [peek, List.headD_cons, none] at found
  exact absurd found (Option.not_mem_none binding)

theorem stops_of_binding_eq {dialect : Dialect} {token : Token} {binding level : Nat}
    (bound : token.binding? dialect = some binding) (below : binding < level)
    (rest : List Token) : Stops dialect level (token :: rest) := by
  intro other found
  rw [peek, List.headD_cons, bound, Option.mem_some_iff] at found
  omega

section

variable {dialect : Dialect} {level : Nat} {token : Token} {rest : List Token}

theorem Stops.binding_lt {binding : Nat} (stops : Stops dialect level (token :: rest))
    (bound : token.binding? dialect = some binding) : binding < level :=
  stops binding bound

theorem binding_of_binaryOp {s : Symbol} {op : BinaryOp} (operator : binaryOp? dialect s = some op) :
    (Token.sym s).binding? dialect = some op.binding := by
  cases dialect <;> cases s <;> simp_all [binaryOp?, Token.binding?, assignOp?]

theorem binding_of_assignOp {s : Symbol} {op : AssignOp} (operator : assignOp? s = some op) :
    (Token.sym s).binding? dialect = some 16 := by
  cases s <;> simp_all [Token.binding?, assignOp?]

/-- No token goes on at the level of assignments or at that of unary operators. -/
theorem binding_ne {binding : Nat} (found : token.binding? dialect = some binding) :
    binding ≠ 1 ∧ binding ≠ 13 := by
  unfold Token.binding? at found
  split at found
  all_goals try (obtain rfl := Option.some.inj found; omega)
  · split at found
    · obtain rfl := Option.some.inj found
      omega
    · obtain ⟨op, -, rfl⟩ := Option.map_eq_some_iff.1 found
      cases op <;> decide
  · simp at found

theorem Stops.of_next {level : Nat} (stops : Stops dialect (level + 1) rest)
    (skipped : level = 1 ∨ level = 13) : Stops dialect level rest := by
  intro binding found
  have below := stops binding found
  have apart := binding_ne found
  omega

theorem Stops.operatorAt {k : Nat} (stops : Stops dialect (k + 3) rest) :
    operatorAt? dialect k rest = none := by
  unfold operatorAt?
  split
  · next s rest =>
      split
      · next op operator =>
          have bound := stops.binding_lt (binding_of_binaryOp operator)
          refine if_neg fun same => ?_
          simp only [BinaryOp.binding, same] at bound
          omega
      · rfl
  · rfl

theorem Stops.powerAt (stops : Stops dialect 14 rest) : powerAt? dialect rest = none := by
  unfold powerAt?
  split
  · next s rest =>
      refine if_neg fun power => ?_
      have bound := stops.binding_lt (binding_of_binaryOp power)
      simp [BinaryOp.binding, BinaryOp.level?] at bound
  · rfl

end

/-! ## The first token -/

/-- Whether an expression that binds at a level can begin with a token. -/
def Token.begins (level : Nat) : Token → Bool
  | .int _ => true
  | .float _ => true
  | .str _ => true
  | .name _ => true
  | .sym .lparen => true
  | .sym .lbracket => true
  | .sym s => (unaryOp? s).isSome && level ≤ 13
  | _ => false

def Begins (level : Nat) (tokens : List Token) : Prop :=
  ∃ token tail, tokens = token :: tail ∧ token.begins level = true

theorem Begins.append {level : Nat} {tokens : List Token} (begins : Begins level tokens)
    (more : List Token) : Begins level (tokens ++ more) := by
  obtain ⟨token, tail, rfl, first⟩ := begins
  exact ⟨token, tail ++ more, rfl, first⟩

theorem Begins.mono {level lower : Nat} {tokens : List Token} (begins : Begins level tokens)
    (below : lower ≤ level) : Begins lower tokens := by
  obtain ⟨token, tail, rfl, first⟩ := begins
  refine ⟨token, tail, rfl, ?_⟩
  cases token with
  | sym s => cases s <;> simp_all [Token.begins, unaryOp?] <;> omega
  | _ => simp_all [Token.begins]

theorem Begins.length_pos {level : Nat} {tokens : List Token} (begins : Begins level tokens) :
    0 < tokens.length := by
  obtain ⟨token, tail, rfl, -⟩ := begins
  exact Nat.succ_pos _

/-! ## Parentheses -/

/-- The first parenthesis among some tokens. -/
def firstParen? (tokens : List Token) : Option Symbol :=
  tokens.findSome? fun token =>
    match token with
    | .sym .lparen => some .lparen
    | .sym .rparen => some .rparen
    | _ => none

/-- **No parenthesis is closed before one is opened.** -/
def Opens (tokens : List Token) : Prop :=
  firstParen? tokens ≠ some .rparen

namespace Opens

theorem append {first second : List Token} (one : Opens first) (two : Opens second) :
    Opens (first ++ second) := by
  rw [Opens, firstParen?, List.findSome?_append]
  cases found : firstParen? first with
  | none =>
      rw [firstParen?] at found
      rw [found, Option.none_or]
      exact two
  | some s =>
      rw [Opens, found] at one
      rw [firstParen?] at found
      rwa [found, Option.some_or]

theorem nil : Opens [] := nofun

theorem cons {token : Token} {tokens : List Token} (other : token ≠ .sym .rparen)
    (opens : Opens tokens) : Opens (token :: tokens) := by
  rw [Opens, firstParen?, List.findSome?_cons]
  split
  · next found =>
      split at found
      · simp [← found]
      · exact absurd rfl other
      · simp at found
  · exact opens

theorem not_closed {tokens : List Token} : ¬ Opens (.sym .rparen :: tokens) := by
  rw [Opens, firstParen?, List.findSome?_cons]
  simp

theorem tail {token : Token} {tokens : List Token} (opens : Opens (token :: tokens))
    (other : token ≠ .sym .lparen) : Opens tokens := by
  rw [Opens, firstParen?, List.findSome?_cons] at opens
  split at opens
  · next found =>
      split at found
      · exact absurd rfl other
      · exact absurd found.symm opens
      · simp at found
  · exact opens

theorem paren (tokens : List Token) : Opens (.sym .lparen :: tokens) := by
  rw [Opens, firstParen?, List.findSome?_cons]
  simp

end Opens

/-- Names and commas go on to the first parenthesis. -/
theorem paramNames_past {inner after rest : List Token} {params : List String}
    (opens : Opens inner)
    (found : paramNames? (inner ++ .sym .rparen :: rest) = some (params, after)) :
    after = rest := by
  generalize whole : inner ++ .sym .rparen :: rest = tokens at found
  induction tokens using paramNames?.induct generalizing inner params with
  | case1 tokens =>
      cases inner with
      | nil => simp_all [paramNames?]
      | cons token inner =>
          obtain ⟨rfl, -⟩ := List.cons.inj whole
          exact absurd opens Opens.not_closed
  | case2 name tokens =>
      rcases inner with _ | ⟨token, _ | ⟨next, inner⟩⟩
      · simp at whole
      · simp_all [paramNames?]
      · simp only [List.cons_append, List.cons.injEq] at whole
        obtain ⟨rfl, rfl, -⟩ := whole
        exact absurd (opens.tail (by simp)) Opens.not_closed
  | case3 name tokens ih =>
      rcases inner with _ | ⟨token, _ | ⟨next, inner⟩⟩
      · simp at whole
      · simp at whole
      · simp only [List.cons_append, List.cons.injEq] at whole
        obtain ⟨rfl, rfl, whole⟩ := whole
        rw [paramNames?, Option.map_eq_some_iff] at found
        obtain ⟨later, found, same⟩ := found
        obtain ⟨-, rfl⟩ := Prod.mk.inj same
        exact ih ((opens.tail (by simp)).tail (by simp)) whole found
  | case4 tokens unclosed closed separated =>
      rw [paramNames?] at found
      · simp at found
      all_goals assumption

/-! ## Looking ahead -/

/-- **Tokens that begin neither an assignment nor a callback**, whatever they may
stand before. -/
def Plain (dialect : Dialect) (tokens : List Token) : Prop :=
  ∀ rest, Stops dialect 16 rest →
    callbackHead? dialect (tokens ++ rest) = none ∧ assignmentHead? (tokens ++ rest) = none

namespace Plain

variable {dialect : Dialect}

theorem append {tokens more : List Token} (plain : Plain dialect tokens)
    (stops : ∀ rest, Stops dialect 16 (more ++ rest)) : Plain dialect (tokens ++ more) := by
  intro rest _
  rw [List.append_assoc]
  exact plain (more ++ rest) (stops rest)

/-- A lone name is looked at together with what it stands before. -/
theorem name (word : String) : Plain dialect [.name word] := by
  intro rest stops
  rw [List.singleton_append]
  cases rest with
  | nil => exact ⟨by unfold callbackHead?; split <;> rfl, rfl⟩
  | cons token rest =>
      constructor
      · unfold callbackHead?
        split
        · rfl
        · split
          · next name after same =>
              obtain ⟨-, rfl, -⟩ : _ ∧ token = .sym .arrow ∧ rest = after := by simpa using same
              exact absurd (stops.binding_lt rfl) (by omega)
          · next same => simp at same
          · rfl
      · unfold assignmentHead?
        split
        · next name s after same =>
            obtain ⟨-, rfl, -⟩ : _ ∧ token = .sym s ∧ rest = after := by simpa using same
            cases operator : assignOp? s with
            | none => rfl
            | some op => exact absurd (stops.binding_lt (binding_of_assignOp operator)) (by omega)
        · rfl

theorem call (word : String) (tokens : List Token) :
    Plain dialect (.name word :: .sym .lparen :: tokens) := by
  intro rest _
  refine ⟨?_, rfl⟩
  unfold callbackHead?
  split <;> rfl

/-- What begins with anything but a name or a parenthesis. -/
theorem of_first {token : Token} (noName : ∀ word, token ≠ .name word)
    (noParen : token ≠ .sym .lparen) (tokens : List Token) : Plain dialect (token :: tokens) := by
  intro rest _
  rw [List.cons_append]
  constructor
  · unfold callbackHead?
    split
    · rfl
    · split
      · next same => exact absurd (List.cons.inj same).1 (noName _)
      · next same => exact absurd (List.cons.inj same).1 noParen
      · rfl
  · unfold assignmentHead?
    split
    · next same => exact absurd (List.cons.inj same).1 (noName _)
    · rfl

/-- **A parenthesis around an expression** is no list of parameters. -/
theorem paren {inner : List Token} (opens : Opens inner) :
    Plain dialect (.sym .lparen :: (inner ++ [.sym .rparen])) := by
  intro rest stops
  refine ⟨?_, rfl⟩
  rw [List.cons_append, List.append_assoc, List.singleton_append]
  unfold callbackHead?
  split
  · rfl
  · split
    · next same => simp at same
    · next after same =>
        obtain rfl := (List.cons.inj same).2
        split
        · next params rest' found =>
            obtain rfl := paramNames_past opens found
            exact absurd (stops.binding_lt rfl) (by omega)
        · rfl
    · next noParen => exact absurd rfl (noParen _)

end Plain

/-! ## Callbacks -/

theorem begins_printHead (params : List String) : Begins 1 (printHead params) := by
  unfold printHead
  split <;> exact ⟨_, _, rfl, rfl⟩

theorem opens_printHead (params : List String) : Opens (printHead params) := by
  unfold printHead
  split
  · exact (Opens.nil.cons (by simp)).cons (by simp)
  · exact .paren _

theorem paramNames_printParams (params : List String) (rest : List Token) :
    paramNames? (printParams params ++ .sym .rparen :: rest) = some (params, rest) := by
  induction params using printParams.induct with
  | case1 => rfl
  | case2 name => rfl
  | case3 name names some_ ih =>
      rw [printParams, List.cons_append, List.cons_append, paramNames?, ih]
      · rfl
      · exact some_

/-- **The parser finds the parameters** of a callback. -/
theorem callbackHead_printHead (params : List String) (rest : List Token) :
    callbackHead? .script (printHead params ++ rest) = some (params, rest) := by
  unfold printHead
  split
  · rfl
  · have names := paramNames_printParams params (.sym .arrow :: rest)
    simp only [callbackHead?, List.cons_append, List.append_assoc, List.nil_append, names]
    rfl

end ChatTemplate.Script
