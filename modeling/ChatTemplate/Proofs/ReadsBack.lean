/-
# ChatTemplate.Proofs.ReadsBack -- tokens that are read as an expression

`ReadsBack` says that the reader of a level gives an expression for some tokens
and stops after them.  What is read at one level is read at every level below it
(`ReadsBack.at_most`), and in parentheses at every level (`ReadsBack.paren`), so
an expression that is read at its own level is read wherever it is printed
(`ReadsBack.printAt`).

Two readers take what they have read so far as an argument: that of operands and
that of what follows a target.  `LeadsOperands` and `LeadsPostfix` say of tokens
that these readers go on after them with their expression.

Readers take a bound on their calls.  A level is allowed two calls, so that a walk
down all levels takes no more than the thirty-two that each token stands for.
-/
import ChatTemplate.Proofs.Lookahead

namespace ChatTemplate.Script

set_option autoImplicit false

/-! ## The parser by levels -/

theorem ok_bind {α β : Type} (result : α) (next : α → Except SyntaxError β) :
    (Except.ok result >>= next) = next result := rfl

/-- A primary expression and what follows it. -/
def readPostfix (dialect : Dialect) (n : Nat) : Reading Expr := fun tokens => do
  let (target, tokens) ← parsePrimary dialect n tokens
  parsePostfix dialect n target tokens

/-- The reader of the expressions that bind at a level. -/
def readAt (dialect : Dialect) (n : Nat) : Nat → Reading Expr
  | 0 => parseExpr dialect n
  | 1 => parseAssign dialect n
  | 2 => parseConditional dialect n
  | level + 3 =>
      if level < 10 then parseBinary dialect n level
      else if level = 10 then parseUnary dialect n
      else if level = 11 then parsePower dialect n
      else readPostfix dialect n

theorem parsePower_succ (dialect : Dialect) (n : Nat) (tokens : List Token) :
    parsePower dialect (n + 1) tokens = (do
      let (base, tokens) ← readPostfix dialect n tokens
      match powerAt? dialect tokens with
      | some tokens => do
          let (exponent, tokens) ← parseUnary dialect n tokens
          return (.binary .pow base exponent, tokens)
      | none => return (base, tokens)) := by
  rw [parsePower]
  exact (bind_assoc (parsePrimary dialect n tokens) _ _).symm

/-! ## Reading back -/

section

variable (dialect : Dialect)

/-- Reading tokens as the left operand of a level comes to what reading on with
their expression comes to. -/
def LeadsOperands (k : Nat) (e : Expr) (tokens : List Token) : Prop :=
  ∀ rest result bound, Stops dialect (k + 4) rest →
    (∀ m, bound ≤ m → parseOperands dialect (m + 1) k e rest = result) →
    ∀ n, bound + 32 * tokens.length + (26 - 2 * k) ≤ n →
      parseBinary dialect n k (tokens ++ rest) = result

/-- Reading tokens as a target comes to what reading on with their expression
comes to. -/
def LeadsPostfix (e : Expr) (tokens : List Token) : Prop :=
  ∀ rest result bound, Stops dialect 16 rest →
    (∀ m, bound ≤ m → parsePostfix dialect (m + 1) e rest = result) →
    ∀ n, bound + 32 * tokens.length + 2 ≤ n → readPostfix dialect n (tokens ++ rest) = result

/-- **Tokens that a level reads as an expression.** -/
structure ReadsBack (level : Nat) (e : Expr) (tokens : List Token) : Prop where
  begins : Begins level tokens
  opens : Opens tokens
  plain : 2 ≤ level → Plain dialect tokens
  reads : ∀ rest n, Stops dialect level rest →
    32 * tokens.length + (32 - 2 * level) ≤ n →
      readAt dialect n level (tokens ++ rest) = .ok (e, rest)
  operands : ∀ k < 10, level = k + 3 → LeadsOperands dialect k e tokens
  target : level = 15 → LeadsPostfix dialect e tokens

end

variable {dialect : Dialect} {e : Expr} {tokens rest : List Token}

/-! ## Where reading stops -/

theorem parsePostfix_stops (n : Nat) (stops : Stops dialect 15 rest) :
    parsePostfix dialect (n + 1) e rest = .ok (e, rest) := by
  unfold parsePostfix
  split
  · exact absurd (stops.binding_lt rfl) (by omega)
  · exact absurd (stops.binding_lt rfl) (by omega)
  · exact absurd (stops.binding_lt rfl) (by omega)
  · exact absurd (stops.binding_lt rfl) (by omega)
  · rfl

theorem parseOperands_stops {k : Nat} (n : Nat) (stops : Stops dialect (k + 3) rest) :
    parseOperands dialect (n + 1) k e rest = .ok (e, rest) := by
  rw [parseOperands, stops.operatorAt]
  rfl

theorem parseMore_stops (n : Nat) (stops : Stops dialect 0 rest) :
    parseMore dialect (n + 1) rest = .ok ([], rest) := by
  unfold parseMore
  split
  · exact absurd (stops.binding_lt rfl) (by omega)
  · rfl

/-! ## From one level to the next -/

namespace ReadsBack

theorem ofTarget (begins : Begins 15 tokens) (opens : Opens tokens)
    (plain : Plain dialect tokens) (target : LeadsPostfix dialect e tokens) :
    ReadsBack dialect 15 e tokens where
  begins := begins
  opens := opens
  plain := fun _ => plain
  reads := fun rest n stops enough =>
    target rest _ 0 (stops.mono (by omega)) (fun m _ => parsePostfix_stops m stops) n (by omega)
  operands := fun k below same => absurd same (by omega)
  target := fun _ => target

theorem ofOperands {k : Nat} (below : k < 10) (begins : Begins (k + 3) tokens)
    (opens : Opens tokens) (plain : Plain dialect tokens)
    (operands : LeadsOperands dialect k e tokens) : ReadsBack dialect (k + 3) e tokens where
  begins := begins
  opens := opens
  plain := fun _ => plain
  reads := fun rest n stops enough => by
    rw [readAt, if_pos below]
    exact operands rest _ 0 (stops.mono (by omega)) (fun m _ => parseOperands_stops m stops) n
      (by omega)
  operands := fun k' _ same => by
    obtain rfl : k = k' := by omega
    exact operands
  target := fun same => absurd same (by omega)

/-- The operands of a level are read at the next one. -/
theorem operand {k : Nat} (below : k < 10) (next : ReadsBack dialect (k + 4) e tokens)
    (stops : Stops dialect (k + 4) rest) {n : Nat}
    (enough : 32 * tokens.length + (25 - 2 * k) ≤ n) :
    parseBinary dialect n (k + 1) (tokens ++ rest) = .ok (e, rest) := by
  by_cases inner : k + 1 < 10
  · have read := next.reads rest n stops (by omega)
    rwa [readAt, if_pos inner] at read
  · obtain rfl : k = 9 := by omega
    obtain ⟨n, rfl⟩ : ∃ m, n = m + 1 := ⟨n - 1, by omega⟩
    exact next.reads rest n stops (by omega)

theorem leads {k : Nat} (below : k < 10) (next : ReadsBack dialect (k + 4) e tokens) :
    LeadsOperands dialect k e tokens := by
  intro rest result bound stops goesOn n enough
  obtain ⟨n, rfl⟩ : ∃ m, n = m + 2 := ⟨n - 2, by omega⟩
  rw [parseBinary, if_pos below, next.operand below stops (by omega), ok_bind]
  exact goesOn n (by omega)

/-- **What is read at a level** is read at the one below. -/
theorem loosen {level : Nat} (tight : level < 15) (next : ReadsBack dialect (level + 1) e tokens) :
    ReadsBack dialect level e tokens := by
  have begins := next.begins.mono (Nat.le_succ level)
  match level, tight, next, begins with
  | 0, _, next, begins =>
      refine ⟨begins, next.opens, by omega, fun rest n stops enough => ?_, by omega, by omega⟩
      obtain ⟨n, rfl⟩ : ∃ m, n = m + 2 := ⟨n - 2, by omega⟩
      have first : parseAssign dialect (n + 1) (tokens ++ rest) = .ok (e, rest) :=
        next.reads rest (n + 1) (stops.mono (by omega)) (by omega)
      simp only [readAt, parseExpr, first, ok_bind, parseMore_stops n stops]
      rfl
  | 1, _, next, begins =>
      refine ⟨begins, next.opens, by omega, fun rest n stops enough => ?_, by omega, by omega⟩
      obtain ⟨n, rfl⟩ : ∃ m, n = m + 1 := ⟨n - 1, by omega⟩
      obtain ⟨noCallback, noAssignment⟩ := next.plain (by omega) rest (stops.mono (by omega))
      rw [readAt, parseAssign, noCallback, noAssignment]
      exact next.reads rest n (stops.mono (by omega)) (by omega)
  | 2, _, next, begins =>
      refine ⟨begins, next.opens, fun _ => next.plain (by omega), fun rest n stops enough => ?_,
        by omega, by omega⟩
      obtain ⟨n, rfl⟩ : ∃ m, n = m + 1 := ⟨n - 1, by omega⟩
      have condition : parseBinary dialect n 0 (tokens ++ rest) = .ok (e, rest) :=
        next.reads rest n (stops.mono (by omega)) (by omega)
      simp only [readAt, parseConditional, condition, ok_bind]
      split
      · exact absurd (stops.binding_lt rfl) (by omega)
      · rfl
  | k + 3, tight, next, begins =>
      have plain := next.plain (by omega)
      by_cases binary : k < 10
      · exact ofOperands binary begins next.opens plain (next.leads binary)
      · refine ⟨begins, next.opens, fun _ => plain, fun rest n stops enough => ?_, by omega,
          by omega⟩
        obtain ⟨n, rfl⟩ : ∃ m, n = m + 1 := ⟨n - 1, by omega⟩
        obtain rfl | rfl : k = 10 ∨ k = 11 := by omega
        · have power : parsePower dialect n (tokens ++ rest) = .ok (e, rest) :=
            next.reads rest n (stops.mono (by omega)) (by omega)
          obtain ⟨token, tail, same, first⟩ := next.begins
          subst same
          show parseUnary dialect (n + 1) (token :: (tail ++ rest)) = _
          rw [List.cons_append] at power
          cases token with
          | sym s => cases s <;> simp_all [Token.begins, parseUnary, unaryOp?]
          | _ => exact power
        · have base : readPostfix dialect n (tokens ++ rest) = .ok (e, rest) :=
            next.reads rest n (stops.mono (by omega)) (by omega)
          have ends : powerAt? dialect rest = none := stops.powerAt
          show parsePower dialect (n + 1) (tokens ++ rest) = _
          simp only [parsePower_succ, base, ok_bind, ends]
          rfl

theorem at_most {level lower : Nat} (tight : level ≤ 15) (below : lower ≤ level)
    (own : ReadsBack dialect level e tokens) : ReadsBack dialect lower e tokens := by
  obtain ⟨distance, rfl⟩ := Nat.exists_eq_add_of_le below
  induction distance with
  | zero => exact own
  | succ distance ih => exact ih (by omega) (by omega) (own.loosen (by omega))

/-! ## Parentheses -/

theorem ofPrimary (begins : Begins 15 tokens) (opens : Opens tokens)
    (plain : Plain dialect tokens)
    (primary : ∀ rest n, Stops dialect 16 rest → 32 * tokens.length + 2 ≤ n →
      parsePrimary dialect n (tokens ++ rest) = .ok (e, rest)) :
    ReadsBack dialect 15 e tokens := by
  refine ofTarget begins opens plain fun rest result bound stops goesOn n enough => ?_
  obtain ⟨n, rfl⟩ : ∃ m, n = m + 1 := ⟨n - 1, by omega⟩
  have first := primary rest (n + 1) stops (by omega)
  rw [readPostfix, first, ok_bind]
  exact goesOn n (by omega)

/-- **Parentheses make a target** of any expression. -/
theorem paren (inner : ReadsBack dialect 0 e tokens) :
    ReadsBack dialect 15 e (.sym .lparen :: (tokens ++ [.sym .rparen])) := by
  refine ofPrimary ⟨_, _, rfl, rfl⟩ (Opens.paren _) (Plain.paren inner.opens) ?_
  intro rest n stops enough
  rw [List.length_cons, List.length_append, List.length_singleton] at enough
  obtain ⟨n, rfl⟩ : ∃ m, n = m + 1 := ⟨n - 1, by omega⟩
  have closed : Stops dialect 0 (.sym .rparen :: rest) := stops_of_binding_eq_none rfl 0 rest
  have read : parseExpr dialect n (tokens ++ .sym .rparen :: rest) =
      .ok (e, .sym .rparen :: rest) := inner.reads _ n closed (by omega)
  simp only [List.cons_append, List.append_assoc, List.nil_append, parsePrimary_paren, read,
    ok_bind, expect, if_true]
  rfl

/-- An expression is read back wherever it is printed. -/
theorem printAt {asked : Nat} (own : ReadsBack dialect e.binding e (e.print dialect))
    (bounded : e.binding ≤ 15) (known : asked ≤ 15) :
    ReadsBack dialect asked e (e.printAt dialect asked) := by
  rw [Expr.printAt, enclosed]
  split
  · exact (own.at_most bounded (Nat.zero_le _)).paren.at_most (Nat.le_refl 15) known
  · exact own.at_most bounded (by omega)

end ReadsBack

/-! ## Lists of expressions -/

section

variable {items : List Expr}

/-- After an item comes a comma or what follows the list. -/
theorem stops_printMore (stops : Stops dialect 0 rest) (items : List Expr) :
    Stops dialect 1 (printMore dialect items ++ rest) := by
  cases items with
  | nil => exact stops.mono (by omega)
  | cons item items => exact stops_of_binding_eq rfl (by omega) _

theorem parseMore_printMore
    (each : ∀ item ∈ items, ReadsBack dialect 1 item (item.printAt dialect 1))
    (stops : Stops dialect 0 rest) {n : Nat}
    (enough : 32 * (printMore dialect items).length + 1 ≤ n) :
    parseMore dialect n (printMore dialect items ++ rest) = .ok (items, rest) := by
  induction items generalizing n with
  | nil =>
      obtain ⟨n, rfl⟩ : ∃ m, n = m + 1 := ⟨n - 1, by omega⟩
      exact parseMore_stops n stops
  | cons item items ih =>
      obtain ⟨here, later⟩ := List.forall_mem_cons.1 each
      rw [printMore_cons, List.length_cons, List.length_append] at enough
      obtain ⟨n, rfl⟩ : ∃ m, n = m + 1 := ⟨n - 1, by omega⟩
      have first : parseAssign dialect n
          (item.printAt dialect 1 ++ (printMore dialect items ++ rest)) =
            .ok (item, printMore dialect items ++ rest) :=
        here.reads _ n (stops_printMore stops items) (by omega)
      have others := ih later (n := n) (by omega)
      rw [printMore_cons, List.cons_append, List.append_assoc]
      simp only [parseMore, first, ok_bind, others]
      rfl

theorem begins_ne {level : Nat} {closing : Symbol} (begins : Begins level tokens)
    (closes : (Token.sym closing).begins level = false) (more tail : List Token) :
    tokens ++ more ≠ .sym closing :: tail := by
  obtain ⟨token, rest, rfl, first⟩ := begins
  rintro same
  rw [(List.cons.inj same).1, closes] at first
  exact Bool.false_ne_true first

theorem parseArgs_printItems
    (each : ∀ item ∈ items, ReadsBack dialect 1 item (item.printAt dialect 1))
    (function : String) {n : Nat} (enough : 32 * (printItems dialect items).length + 32 ≤ n) :
    parseArgs dialect n function (printItems dialect items ++ .sym .rparen :: rest) =
      .ok (items, rest) := by
  obtain ⟨n, rfl⟩ : ∃ m, n = m + 1 := ⟨n - 1, by omega⟩
  cases items with
  | nil => rfl
  | cons item items =>
      obtain ⟨here, later⟩ := List.forall_mem_cons.1 each
      have closed : Stops dialect 0 (.sym .rparen :: rest) := stops_of_binding_eq_none rfl 0 rest
      rw [printItems_cons, List.length_append] at enough
      have first : parseAssign dialect n (item.printAt dialect 1 ++
          (printMore dialect items ++ .sym .rparen :: rest)) =
            .ok (item, printMore dialect items ++ .sym .rparen :: rest) :=
        here.reads _ n (stops_printMore closed items) (by omega)
      have others := parseMore_printMore later closed (n := n) (by omega)
      rw [printItems_cons, List.append_assoc]
      unfold parseArgs
      split
      · next same => exact absurd same (begins_ne here.begins rfl _ _)
      · simp only [first, ok_bind, others]
        rfl

theorem parseItems_printItems
    (each : ∀ item ∈ items, ReadsBack dialect 1 item (item.printAt dialect 1)) {n : Nat}
    (enough : 32 * (printItems dialect items).length + 32 ≤ n) :
    parseItems dialect n (printItems dialect items ++ .sym .rbracket :: rest) =
      .ok (items, rest) := by
  induction items generalizing n with
  | nil =>
      obtain ⟨n, rfl⟩ : ∃ m, n = m + 1 := ⟨n - 1, by omega⟩
      rfl
  | cons item items ih =>
      obtain ⟨here, later⟩ := List.forall_mem_cons.1 each
      have closed : Stops dialect 0 (.sym .rbracket :: rest) :=
        stops_of_binding_eq_none rfl 0 rest
      rw [printItems_cons, List.length_append] at enough
      obtain ⟨n, rfl⟩ : ∃ m, n = m + 1 := ⟨n - 1, by omega⟩
      have first : parseAssign dialect n (item.printAt dialect 1 ++
          (printMore dialect items ++ .sym .rbracket :: rest)) =
            .ok (item, printMore dialect items ++ .sym .rbracket :: rest) :=
        here.reads _ n (stops_printMore closed items) (by omega)
      rw [printItems_cons, List.append_assoc]
      unfold parseItems
      split
      · next same => exact absurd same (begins_ne here.begins rfl _ _)
      · cases items with
        | nil =>
            simp only [printMore, List.nil_append] at first ⊢
            simp only [first, ok_bind, expect, if_true]
            rfl
        | cons next items =>
            have others := ih later (n := n) (by
              rw [printMore_cons, List.length_cons] at enough
              rw [printItems_cons]
              omega)
            rw [printItems_cons] at others
            rw [printMore_cons, List.cons_append] at first ⊢
            simp only [first, ok_bind, others]
            rfl

end

end ChatTemplate.Script
