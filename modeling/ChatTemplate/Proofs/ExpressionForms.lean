/-
# ChatTemplate.Proofs.ExpressionForms -- every form of expression is read back

One lemma for each form: what it is printed as is read back at its own level when
its parts are read back where they stand.  The forms that follow a target (`member`,
`index`, `method`) are read with the target before them already read, so they go
through `LeadsPostfix`, and ordinary binary operators through `LeadsOperands`.
-/
import ChatTemplate.Proofs.ReadsBack

namespace ChatTemplate.Script

set_option autoImplicit false

variable {dialect : Dialect} {rest : List Token}

/-! ## Every form of expression -/

theorem binaryOp_symbol {op : BinaryOp} (known : dialect = .math → op ≠ .bitXor) :
    binaryOp? dialect (op.symbol dialect) = some op := by
  cases dialect <;> cases op <;> simp_all [BinaryOp.symbol, binaryOp?]

theorem unaryOp_symbol (op : UnaryOp) : unaryOp? op.symbol = some op := by
  cases op <;> rfl

theorem assignOp_symbol (op : AssignOp) : assignOp? op.symbol = some op := by
  cases op <;> rfl

/-- All binary operators but powers have a level. -/
theorem exists_level {op : BinaryOp} (ordinary : op ≠ .pow) :
    ∃ k < 10, op.level? = some k ∧ op.binding = k + 3 ∧ op.leftBinding = k + 3 ∧
      op.rightBinding = k + 4 := by
  cases op <;> first | exact absurd rfl ordinary | exact ⟨_, by omega, rfl, rfl, rfl, rfl⟩

theorem opens_printMore {items : List Expr}
    (each : ∀ item ∈ items, ReadsBack dialect 1 item (item.printAt dialect 1)) :
    Opens (printMore dialect items) := by
  induction items with
  | nil => exact .nil
  | cons item items ih =>
      obtain ⟨here, later⟩ := List.forall_mem_cons.1 each
      rw [printMore_cons]
      exact (here.opens.append (ih later)).cons (by simp)

theorem opens_printItems {items : List Expr}
    (each : ∀ item ∈ items, ReadsBack dialect 1 item (item.printAt dialect 1)) :
    Opens (printItems dialect items) := by
  cases items with
  | nil => exact .nil
  | cons item items =>
      obtain ⟨here, later⟩ := List.forall_mem_cons.1 each
      exact here.opens.append (opens_printMore later)

namespace ReadsBack

/-- A word that is a value. -/
theorem word {name : String} {value : Value} (known : wordValue? name = some value) :
    ReadsBack dialect 15 (.literal value) [.name name] := by
  refine ofPrimary ⟨_, _, rfl, rfl⟩ (Opens.nil.cons (by simp)) (Plain.name name) ?_
  intro rest n stops enough
  obtain ⟨n, rfl⟩ : ∃ m, n = m + 1 := ⟨n - 1, by omega⟩
  rw [List.singleton_append, parsePrimary_name]
  simp only [known]
  rfl

/-- A token that is a value. -/
theorem ofToken {token : Token} {value : Value} (begins : token.begins 15 = true)
    (noName : ∀ name, token ≠ .name name) (noSymbol : ∀ s, token ≠ .sym s)
    (reads : ∀ n rest, parsePrimary dialect (n + 1) (token :: rest) = .ok (.literal value, rest)) :
    ReadsBack dialect 15 (.literal value) [token] := by
  refine ofPrimary ⟨_, _, rfl, begins⟩ (Opens.nil.cons (noSymbol _))
    (Plain.of_first noName (noSymbol _) _) fun rest n stops enough => ?_
  obtain ⟨n, rfl⟩ : ∃ m, n = m + 1 := ⟨n - 1, by omega⟩
  exact reads n rest

theorem literal {value : Value} (spelled : value.isLiteral = true) :
    ReadsBack dialect 15 (.literal value) (Expr.print dialect (.literal value)) := by
  rw [Expr.print_literal]
  cases value with
  | null => exact word (by simp [wordValue?])
  | bool b => cases b <;> exact word (by simp [wordValue?])
  | int k => exact ofToken rfl nofun nofun fun n rest => rfl
  | float x => exact ofToken rfl nofun nofun fun n rest => rfl
  | str s => exact ofToken rfl nofun nofun fun n rest => rfl
  | list items => exact absurd spelled Bool.false_ne_true
  | map fields => exact absurd spelled Bool.false_ne_true

theorem var {name : String} (free : wordValue? name = none) :
    ReadsBack dialect 15 (.var name) (Expr.print dialect (.var name)) := by
  rw [Expr.print_var]
  refine ofPrimary ⟨_, _, rfl, rfl⟩ (Opens.nil.cons (by simp)) (Plain.name name) ?_
  intro rest n stops enough
  obtain ⟨n, rfl⟩ : ∃ m, n = m + 1 := ⟨n - 1, by omega⟩
  rw [List.singleton_append, parsePrimary_name]
  simp only [free]
  split
  · exact absurd (stops.binding_lt rfl) (by omega)
  · rfl

theorem list {items : List Expr}
    (each : ∀ item ∈ items, ReadsBack dialect 1 item (item.printAt dialect 1)) :
    ReadsBack dialect 15 (.list items) (Expr.print dialect (.list items)) := by
  rw [Expr.print_list]
  refine ofPrimary ⟨_, _, rfl, rfl⟩ ?_ (Plain.of_first (by simp) (by simp) _) ?_
  · exact ((opens_printItems each).append (Opens.nil.cons (by simp))).cons (by simp)
  · intro rest n stops enough
    rw [List.length_cons, List.length_append] at enough
    obtain ⟨n, rfl⟩ : ∃ m, n = m + 1 := ⟨n - 1, by omega⟩
    have inner : parseItems dialect n (printItems dialect items ++ .sym .rbracket :: rest) =
        .ok (items, rest) := parseItems_printItems each (by omega)
    simp only [List.cons_append, List.append_assoc, List.nil_append, parsePrimary_list, inner,
      ok_bind]
    rfl

theorem call {function : String} {args : List Expr} (free : wordValue? function = none)
    (each : ∀ arg ∈ args, ReadsBack dialect 1 arg (arg.printAt dialect 1)) :
    ReadsBack dialect 15 (.call function args) (Expr.print dialect (.call function args)) := by
  rw [Expr.print_call]
  refine ofPrimary ⟨_, _, rfl, rfl⟩ ((Opens.paren _).cons (by simp)) (Plain.call function _) ?_
  intro rest n stops enough
  rw [List.length_cons, List.length_cons, List.length_append] at enough
  obtain ⟨n, rfl⟩ : ∃ m, n = m + 1 := ⟨n - 1, by omega⟩
  have inner : parseArgs dialect n function (printItems dialect args ++ .sym .rparen :: rest) =
      .ok (args, rest) := parseArgs_printItems each function (by omega)
  simp only [List.cons_append, List.append_assoc, List.nil_append, parsePrimary_name, free, inner,
    ok_bind]
  rfl

theorem binary {op : BinaryOp} {left right : Expr} (ordinary : op ≠ .pow)
    (known : dialect = .math → op ≠ .bitXor)
    (inLeft : ReadsBack dialect op.leftBinding left (left.printAt dialect op.leftBinding))
    (inRight : ReadsBack dialect op.rightBinding right (right.printAt dialect op.rightBinding)) :
    ReadsBack dialect op.binding (.binary op left right)
      (Expr.print dialect (.binary op left right)) := by
  obtain ⟨k, below, level, own, ofLeft, ofRight⟩ := exists_level ordinary
  have operator := binaryOp_symbol known
  have bound : (Token.sym (op.symbol dialect)).binding? dialect = some (k + 3) := by
    rw [binding_of_binaryOp operator, own]
  rw [Expr.print_binary]
  rw [ofLeft] at inLeft ⊢
  rw [ofRight] at inRight ⊢
  rw [own]
  refine ofOperands below (inLeft.begins.append _)
    (inLeft.opens.append (inRight.opens.cons ?_)) ((inLeft.plain (by omega)).append ?_) ?_
  · intro closing
    rw [closing] at bound
    exact absurd bound nofun
  · exact fun rest => stops_of_binding_eq bound (by omega) _
  · intro rest result bound' stops goesOn n enough
    rw [List.length_append, List.length_cons] at enough
    rw [List.append_assoc, List.cons_append]
    refine inLeft.operands k below rfl _ result
      (bound' + 32 * (right.printAt dialect (k + 4)).length + 26)
      (stops_of_binding_eq bound (by omega) _) (fun m large => ?_) n (by omega)
    obtain ⟨m, rfl⟩ : ∃ m', m = m' + 1 := ⟨m - 1, by omega⟩
    have here : operatorAt? dialect k (.sym (op.symbol dialect) ::
        (right.printAt dialect (k + 4) ++ rest)) =
          some (op, right.printAt dialect (k + 4) ++ rest) := by
      simp only [operatorAt?, operator, level, if_true]
    have second := inRight.operand below stops (n := m + 1) (by omega)
    simp only [parseOperands, here, second, ok_bind]
    exact goesOn m (by omega)

theorem power {base exponent : Expr}
    (inBase : ReadsBack dialect 15 base (base.printAt dialect 15))
    (inExponent : ReadsBack dialect 13 exponent (exponent.printAt dialect 13)) :
    ReadsBack dialect 14 (.binary .pow base exponent)
      (Expr.print dialect (.binary .pow base exponent)) := by
  have operator : binaryOp? dialect (BinaryOp.symbol dialect .pow) = some .pow :=
    binaryOp_symbol (by simp)
  have bound : (Token.sym (BinaryOp.symbol dialect .pow)).binding? dialect = some 14 :=
    binding_of_binaryOp operator
  have ofLeft : BinaryOp.leftBinding .pow = 15 := rfl
  have ofRight : BinaryOp.rightBinding .pow = 13 := rfl
  rw [Expr.print_binary, ofLeft, ofRight]
  refine ⟨(inBase.begins.mono (by omega)).append _, inBase.opens.append (inExponent.opens.cons ?_),
    fun _ => (inBase.plain (by omega)).append ?_, ?_, by omega, by omega⟩
  · intro closing
    rw [closing] at bound
    exact absurd bound nofun
  · exact fun rest => stops_of_binding_eq bound (by omega) _
  · intro rest n stops enough
    rw [List.length_append, List.length_cons] at enough
    obtain ⟨n, rfl⟩ : ∃ m, n = m + 1 := ⟨n - 1, by omega⟩
    have first : readPostfix dialect n (base.printAt dialect 15 ++
        .sym (BinaryOp.symbol dialect .pow) :: (exponent.printAt dialect 13 ++ rest)) =
          .ok (base, _) :=
      inBase.reads _ n (stops_of_binding_eq bound (by omega) _) (by omega)
    have second : parseUnary dialect n (exponent.printAt dialect 13 ++ rest) =
        .ok (exponent, rest) := inExponent.reads rest n (stops.of_next (.inr rfl)) (by omega)
    show parsePower dialect (n + 1) _ = _
    simp only [List.append_assoc, List.cons_append, parsePower_succ, first, ok_bind, powerAt?,
      operator, if_true, second]
    rfl

theorem unary {op : UnaryOp} {operand : Expr}
    (inner : ReadsBack dialect 13 operand (operand.printAt dialect 13)) :
    ReadsBack dialect 13 (.unary op operand) (Expr.print dialect (.unary op operand)) := by
  rw [Expr.print_unary]
  refine ⟨⟨_, _, rfl, ?_⟩, inner.opens.cons ?_, fun _ => Plain.of_first (by simp) ?_ _, ?_,
    by omega, by omega⟩
  · cases op <;> rfl
  · cases op <;> simp [UnaryOp.symbol]
  · cases op <;> simp [UnaryOp.symbol]
  · intro rest n stops enough
    rw [List.length_cons] at enough
    obtain ⟨n, rfl⟩ : ∃ m, n = m + 1 := ⟨n - 1, by omega⟩
    have signed : parseUnary dialect n (operand.printAt dialect 13 ++ rest) =
        .ok (operand, rest) := inner.reads rest n stops (by omega)
    have level : readAt dialect (n + 1) 13 = parseUnary dialect (n + 1) := rfl
    simp only [level, List.cons_append, parseUnary, unaryOp_symbol, signed, ok_bind]
    rfl

theorem conditional {condition yes no : Expr}
    (inCondition : ReadsBack dialect 3 condition (condition.printAt dialect 3))
    (inYes : ReadsBack dialect 1 yes (yes.printAt dialect 1))
    (inNo : ReadsBack dialect 1 no (no.printAt dialect 1)) :
    ReadsBack dialect 2 (.conditional condition yes no)
      (Expr.print dialect (.conditional condition yes no)) := by
  rw [Expr.print_conditional]
  refine ⟨(inCondition.begins.mono (by omega)).append _, inCondition.opens.append
    ((inYes.opens.append (inNo.opens.cons (by simp))).cons (by simp)),
    fun _ => (inCondition.plain (by omega)).append ?_, ?_, by omega, by omega⟩
  · exact fun rest => stops_of_binding_eq rfl (by omega) _
  · intro rest n stops enough
    simp only [List.length_append, List.length_cons] at enough
    obtain ⟨n, rfl⟩ : ∃ m, n = m + 1 := ⟨n - 1, by omega⟩
    have first : parseBinary dialect n 0 (condition.printAt dialect 3 ++ .sym .question ::
        (yes.printAt dialect 1 ++ .sym .colon :: (no.printAt dialect 1 ++ rest))) =
          .ok (condition, _) :=
      inCondition.reads _ n (stops_of_binding_eq rfl (by omega) _) (by omega)
    have second : parseAssign dialect n (yes.printAt dialect 1 ++ .sym .colon ::
        (no.printAt dialect 1 ++ rest)) = .ok (yes, _) :=
      inYes.reads _ n (stops_of_binding_eq_none rfl 1 _) (by omega)
    have third : parseAssign dialect n (no.printAt dialect 1 ++ rest) = .ok (no, rest) :=
      inNo.reads rest n (stops.of_next (.inl rfl)) (by omega)
    show parseConditional dialect (n + 1) _ = _
    simp only [List.append_assoc, List.cons_append, parseConditional, first, ok_bind, second,
      expect, if_true, third]
    rfl

theorem assign {name : String} {op : AssignOp} {value : Expr}
    (inner : ReadsBack dialect 1 value (value.printAt dialect 1)) :
    ReadsBack dialect 1 (.assign name op value)
      (Expr.print dialect (.assign name op value)) := by
  rw [Expr.print_assign]
  refine ⟨⟨_, _, rfl, rfl⟩, (inner.opens.cons ?_).cons (by simp), by omega, ?_, by omega,
    by omega⟩
  · cases op <;> simp [AssignOp.symbol]
  · intro rest n stops enough
    simp only [List.length_cons] at enough
    obtain ⟨n, rfl⟩ : ∃ m, n = m + 1 := ⟨n - 1, by omega⟩
    have second : parseAssign dialect n (value.printAt dialect 1 ++ rest) = .ok (value, rest) :=
      inner.reads rest n stops (by omega)
    have noCallback : callbackHead? dialect
        (.name name :: .sym op.symbol :: (value.printAt dialect 1 ++ rest)) = none := by
      cases dialect <;> cases op <;> rfl
    simp only [readAt, List.cons_append, parseAssign, noCallback, assignmentHead?,
      assignOp_symbol, Option.map_some, second, ok_bind]
    rfl

theorem lambda {params : List String} {body : Expr} (callbacks : dialect = .script)
    (inner : ReadsBack dialect 1 body (body.printAt dialect 1)) :
    ReadsBack dialect 1 (.lambda params body) (Expr.print dialect (.lambda params body)) := by
  rw [Expr.print_lambda]
  subst callbacks
  have begins := begins_printHead params
  refine ⟨begins.append _, (opens_printHead params).append inner.opens, by omega, ?_, by omega,
    by omega⟩
  · intro rest n stops enough
    have some_ := begins.length_pos
    rw [List.length_append] at enough
    obtain ⟨n, rfl⟩ : ∃ m, n = m + 1 := ⟨n - 1, by omega⟩
    have second : parseAssign .script n (body.printAt .script 1 ++ rest) = .ok (body, rest) :=
      inner.reads rest n stops (by omega)
    simp only [readAt, List.append_assoc, parseAssign, callbackHead_printHead, second, ok_bind]
    rfl

theorem sequence {items : List Expr} (several : 2 ≤ items.length)
    (each : ∀ item ∈ items, ReadsBack dialect 1 item (item.printAt dialect 1)) :
    ReadsBack dialect 0 (.sequence items) (Expr.print dialect (.sequence items)) := by
  obtain ⟨first, second, items, rfl⟩ : ∃ first second rest, items = first :: second :: rest := by
    match items, several with
    | first :: second :: rest, _ => exact ⟨first, second, rest, rfl⟩
  obtain ⟨here, later⟩ := List.forall_mem_cons.1 each
  have opens := opens_printItems each
  rw [Expr.print_sequence]
  refine ⟨?_, opens, by omega, ?_, by omega, by omega⟩
  · exact (here.begins.mono (by omega)).append _
  · intro rest n stops enough
    rw [printItems_cons] at enough ⊢
    rw [List.length_append] at enough
    obtain ⟨n, rfl⟩ : ∃ m, n = m + 1 := ⟨n - 1, by omega⟩
    have one : parseAssign dialect n (first.printAt dialect 1 ++
        (printMore dialect (second :: items) ++ rest)) = .ok (first, _) :=
      here.reads _ n (stops_printMore stops _) (by omega)
    have others := parseMore_printMore later stops (n := n) (by omega)
    simp only [readAt, List.append_assoc, parseExpr, one, others, ok_bind]
    rfl

/-! ## What follows a target -/

theorem member {target : Expr} {key : String}
    (inner : ReadsBack dialect 15 target (target.printAt dialect 15)) :
    ReadsBack dialect 15 (.member target key) (Expr.print dialect (.member target key)) := by
  rw [Expr.print_member]
  refine ofTarget (inner.begins.append _)
    (inner.opens.append ((Opens.nil.cons (by simp)).cons (by simp)))
    ((inner.plain (by omega)).append fun rest => stops_of_binding_eq rfl (by omega) _) ?_
  intro rest result bound stops goesOn n enough
  rw [List.length_append, List.length_cons, List.length_singleton] at enough
  rw [List.append_assoc]
  refine inner.target rfl (.sym .dot :: .name key :: rest) result (bound + 1)
    (stops_of_binding_eq rfl (by omega) _) (fun m large => ?_) n (by omega)
  obtain ⟨m, rfl⟩ : ∃ m', m = m' + 1 := ⟨m - 1, by omega⟩
  rw [← goesOn m (by omega), parsePostfix]
  rintro after rfl
  exact absurd (stops.binding_lt rfl) (by omega)

theorem index {target key : Expr}
    (inner : ReadsBack dialect 15 target (target.printAt dialect 15))
    (inKey : ReadsBack dialect 0 key (key.print dialect)) :
    ReadsBack dialect 15 (.index target key) (Expr.print dialect (.index target key)) := by
  rw [Expr.print_index]
  refine ofTarget (inner.begins.append _)
    (inner.opens.append ((inKey.opens.append (Opens.nil.cons (by simp))).cons (by simp)))
    ((inner.plain (by omega)).append fun rest => stops_of_binding_eq rfl (by omega) _) ?_
  intro rest result bound stops goesOn n enough
  simp only [List.length_append, List.length_cons, List.length_nil] at enough
  rw [List.append_assoc, List.cons_append, List.append_assoc, List.singleton_append]
  refine inner.target rfl _ result (bound + 32 * (key.print dialect).length + 32)
    (stops_of_binding_eq rfl (by omega) _) (fun m large => ?_) n (by omega)
  obtain ⟨m, rfl⟩ : ∃ m', m = m' + 1 := ⟨m - 1, by omega⟩
  have read : parseExpr dialect (m + 1) (key.print dialect ++ .sym .rbracket :: rest) =
      .ok (key, .sym .rbracket :: rest) :=
    inKey.reads _ (m + 1) (stops_of_binding_eq_none rfl 0 _) (by omega)
  rw [parsePostfix, read, ok_bind, ← goesOn m (by omega)]
  rfl

theorem method {target : Expr} {name : String} {args : List Expr}
    (inner : ReadsBack dialect 15 target (target.printAt dialect 15))
    (each : ∀ arg ∈ args, ReadsBack dialect 1 arg (arg.printAt dialect 1)) :
    ReadsBack dialect 15 (.method target name args)
      (Expr.print dialect (.method target name args)) := by
  rw [Expr.print_method]
  refine ofTarget (inner.begins.append _)
    (inner.opens.append (((Opens.paren _).cons (by simp)).cons (by simp)))
    ((inner.plain (by omega)).append fun rest => stops_of_binding_eq rfl (by omega) _) ?_
  intro rest result bound stops goesOn n enough
  simp only [List.length_append, List.length_cons, List.length_nil] at enough
  rw [List.append_assoc, List.cons_append, List.cons_append, List.cons_append, List.append_assoc,
    List.singleton_append]
  refine inner.target rfl _ result (bound + 32 * (printItems dialect args).length + 32)
    (stops_of_binding_eq rfl (by omega) _) (fun m large => ?_) n (by omega)
  obtain ⟨m, rfl⟩ : ∃ m', m = m' + 1 := ⟨m - 1, by omega⟩
  have read : parseArgs dialect (m + 1) name (printItems dialect args ++ .sym .rparen :: rest) =
      .ok (args, rest) := parseArgs_printItems each name (by omega)
  rw [parsePostfix, read, ok_bind, ← goesOn m (by omega)]

end ReadsBack

end ChatTemplate.Script
