/-
# ChatTemplate.Proofs.CompoundAssignment -- assigning the result of an operation

`x += e` and `x = x + e` compute the same sum, and not always of the same numbers.  The first
evaluates `e` and then looks `x` up; the second looks it up before `e` is evaluated, so it does
not see what `e` makes of `x`.

* `Expr.outcome_compound`: the operation of the value that the variable has afterwards;
* `Expr.outcome_spelledOut`: the operation of the value that it had before.

Main statement: `compound_assignment`, when the two are the same.
-/
import ChatTemplate.Proofs.Frame

namespace ChatTemplate.Script

set_option autoImplicit false

/-! ## Operators -/

/-- The operation that an assignment operator combines with. -/
def AssignOp.binary? : AssignOp → Option BinaryOp
  | .set => none
  | .add => some .add
  | .sub => some .sub
  | .mul => some .mul
  | .div => some .div
  | .rem => some .rem

variable {op : AssignOp} {operation : BinaryOp}

/-- What an operation of two numbers fails of is no missing name. -/
theorem applyAssign_ne_undefined (op : AssignOp) (a b : Value) (name : String) :
    applyAssign op a b ≠ .error (.undefined name) := by
  intro failed
  cases op with
  | div =>
      rw [applyAssign, Value.div] at failed
      split at failed <;> nomatch failed
  | rem =>
      rw [applyAssign, Value.rem] at failed
      split at failed <;> nomatch failed
  | _ => nomatch failed

/-! ## Outcomes -/

/-- **What comes of an expression**: a value or a failure, and the state that is left. -/
def Expr.outcome (e : Expr) (state : State) : Except ScriptError Value × State :=
  ExceptT.run (eval e) state

/-- The outcome of giving a variable a result, which may be a failure. -/
def storing (name : String) (result : Except ScriptError Value) (state : State) :
    Except ScriptError Value × State :=
  match result with
  | .ok value => (.ok value, { state with scope := state.scope.set name value })
  | .error cause => (.error cause, state)

theorem storing_fst (name : String) (result : Except ScriptError Value) (state : State) :
    (storing name result state).1 = result := by
  cases result <;> rfl

namespace Expr

variable {name : String} {e : Expr} {state after : State}

theorem run_lookupName_of_bound {value : Value} (bound : state.scope.get? name = some value) :
    ExceptT.run (lookupName name) state = (.ok value, state) := by
  rw [run_lookupName, bound]

theorem run_lookupName_of_unbound (unbound : state.scope.get? name = none) :
    ExceptT.run (lookupName name) state = (.error (.undefined name), state) := by
  rw [run_lookupName, unbound]

/-- A result is stored if there is one. -/
theorem run_storing (name : String) (result : Except ScriptError Value) (state : State) :
    ExceptT.run (do let value ← ofExcept result; bindName name value; return value) state =
      storing name result state := by
  cases result <;> rfl

theorem eval_compound (compound : op.binary? = some operation) (name : String) (e : Expr) :
    eval (.assign name op e) = (do
      let operand ← eval e
      let current ← lookupName name
      let result ← ofExcept (applyAssign op current operand)
      bindName name result
      return result) := by
  cases op with
  | set => nomatch compound
  | _ => rw [eval]

/-- **A compound assignment combines the value that the variable has once the right side has
been evaluated.** -/
theorem outcome_compound (compound : op.binary? = some operation) {value now : Value}
    (ran : e.outcome state = (.ok value, after)) (bound : after.scope.get? name = some now) :
    (Expr.assign name op e).outcome state = storing name (applyAssign op now value) after := by
  rw [outcome, eval_compound compound, run_bind_of_ok ran,
    run_bind_of_ok (run_lookupName_of_bound bound), run_storing]

theorem outcome_compound_unbound (compound : op.binary? = some operation) {value : Value}
    (ran : e.outcome state = (.ok value, after)) (unbound : after.scope.get? name = none) :
    (Expr.assign name op e).outcome state = (.error (.undefined name), after) := by
  rw [outcome, eval_compound compound, run_bind_of_ok ran,
    run_bind_of_error (run_lookupName_of_unbound unbound)]

/-- The assignment of the operation, written out. -/
def spelledOut (name : String) (operation : BinaryOp) (e : Expr) : Expr :=
  .assign name .set (.binary operation (.var name) e)

theorem eval_spelledOut (compound : op.binary? = some operation) (name : String) (e : Expr) :
    eval (spelledOut name operation e) = (do
      let current ← lookupName name
      let operand ← eval e
      let result ← ofExcept (applyAssign op current operand)
      bindName name result
      return result) := by
  cases op with
  | set => nomatch compound
  | _ =>
      obtain rfl := Option.some.inj compound
      simp only [spelledOut, eval, bind_assoc, pure_bind]
      rfl

/-- **Written out, it combines the value that the variable had before.** -/
theorem outcome_spelledOut (compound : op.binary? = some operation) {value before : Value}
    (bound : state.scope.get? name = some before) (ran : e.outcome state = (.ok value, after)) :
    (spelledOut name operation e).outcome state =
      storing name (applyAssign op before value) after := by
  rw [outcome, eval_spelledOut compound, run_bind_of_ok (run_lookupName_of_bound bound),
    run_bind_of_ok ran, run_storing]

/-- What fails on the right side fails the same way in both. -/
theorem outcome_of_failed (compound : op.binary? = some operation) {cause : ScriptError}
    {before : Value} (bound : state.scope.get? name = some before)
    (failed : e.outcome state = (.error cause, after)) :
    (Expr.assign name op e).outcome state = (.error cause, after) ∧
      (spelledOut name operation e).outcome state = (.error cause, after) := by
  constructor
  · rw [outcome, eval_compound compound, run_bind_of_error failed]
  · rw [outcome, eval_spelledOut compound, run_bind_of_ok (run_lookupName_of_bound bound),
      run_bind_of_error failed]

/-- What succeeds on the right side leads to the same if the operation gives the same for both
values of the variable. -/
theorem outcome_iff_of_ran (compound : op.binary? = some operation) {value before : Value}
    (bound : state.scope.get? name = some before) (ran : e.outcome state = (.ok value, after)) :
    (Expr.assign name op e).outcome state = (spelledOut name operation e).outcome state ↔
      ∃ now, after.scope.get? name = some now ∧
        applyAssign op now value = applyAssign op before value := by
  rw [outcome_spelledOut compound bound ran]
  cases bound' : after.scope.get? name with
  | some now =>
      rw [outcome_compound compound ran bound']
      constructor
      · intro same
        have results := congrArg Prod.fst same
        rw [storing_fst, storing_fst] at results
        exact ⟨now, rfl, results⟩
      · rintro ⟨_, ⟨⟩, same⟩
        rw [same]
  | none =>
      rw [outcome_compound_unbound compound ran bound']
      constructor
      · intro same
        have results := congrArg Prod.fst same
        rw [storing_fst] at results
        exact absurd results.symm (applyAssign_ne_undefined op before value name)
      · rintro ⟨_, found, -⟩
        nomatch found

end Expr

/-! ## Compound assignment -/

/-- **`x += e` is `x = x + e`**, with one value or failure and one state left by both, just
when `e` fails or the operation gives the same for the value that `x` had before and for the one
that it has after `e`; so it is wherever `e` does not assign `x`. -/
theorem compound_assignment {op : AssignOp} {operation : BinaryOp}
    (compound : op.binary? = some operation) {name : String} {state : State} {before : Value}
    (bound : state.scope.get? name = some before) (e : Expr) :
    ((Expr.assign name op e).outcome state = (Expr.spelledOut name operation e).outcome state ↔
      ∀ value after, e.outcome state = (.ok value, after) →
        ∃ now, after.scope.get? name = some now ∧
          applyAssign op now value = applyAssign op before value) ∧
    (name ∉ e.assigned →
      (Expr.assign name op e).outcome state =
        (Expr.spelledOut name operation e).outcome state) := by
  rcases ran : e.outcome state with ⟨cause | value, after⟩
  · obtain ⟨short, long⟩ := Expr.outcome_of_failed compound bound ran
    rw [short, long]
    exact ⟨⟨fun _ _ _ => nofun, fun _ => rfl⟩, fun _ => rfl⟩
  · rw [Expr.outcome_iff_of_ran compound bound ran]
    constructor
    · constructor
      · rintro agree _ _ ⟨⟩
        exact agree
      · exact fun agree => agree value after rfl
    · intro untouched
      have kept := frames_eval e state name untouched
      have left : (stateAfter (eval e) state).scope = after.scope :=
        congrArg (fun outcome => outcome.2.scope) ran
      rw [left, bound] at kept
      exact ⟨before, kept, rfl⟩

/-- A scope in which `x` is bound. -/
def bindingX (n : Int64) : State :=
  ⟨Table.empty.set "x" (.int n), { rolls := fun _ => 0 }⟩

/-- `x -= (y = x * 2)`. -/
theorem double_is_taken_off :
    let e : Expr := .assign "y" .set (.binary .mul (.var "x") (.literal (.int 2)))
    (bindingX 5).scope.get? "x" = some (.int 5) ∧ "x" ∉ e.assigned ∧
      ((Expr.assign "x" .sub e).outcome (bindingX 5)).1.toOption.map Value.text = some "-5" ∧
      (Expr.assign "x" .sub e).outcome (bindingX 5) =
        (Expr.spelledOut "x" .sub e).outcome (bindingX 5) := by
  intro e
  have bound : (bindingX 5).scope.get? "x" = some (.int 5) := rfl
  have untouched : "x" ∉ e.assigned := by decide
  exact ⟨bound, untouched, by decide +kernel, (compound_assignment rfl bound e).2 untouched⟩

/-- `x += (x = 5)` is ten, whatever `x` was; written out, it is five more than `x`. -/
theorem new_value_is_added_to :
    ((Expr.assign "x" .add (.assign "x" .set (.literal (.int 5)))).outcome (bindingX 1)).1 =
        .ok (.int 10) ∧
      ((Expr.spelledOut "x" .add (.assign "x" .set (.literal (.int 5)))).outcome (bindingX 1)).1 =
        .ok (.int 6) ∧
      ¬ ∀ (op : AssignOp) (operation : BinaryOp) (name : String) (state : State) (before : Value)
        (e : Expr), op.binary? = some operation → state.scope.get? name = some before →
          (Expr.assign name op e).outcome state =
            (Expr.spelledOut name operation e).outcome state := by
  have ten : ((Expr.assign "x" .add (.assign "x" .set (.literal (.int 5)))).outcome
      (bindingX 1)).1 = .ok (.int 10) := rfl
  have six : ((Expr.spelledOut "x" .add (.assign "x" .set (.literal (.int 5)))).outcome
      (bindingX 1)).1 = .ok (.int 6) := rfl
  refine ⟨ten, six, fun same => ?_⟩
  have values := congrArg Prod.fst (same .add .add "x" (bindingX 1) (.int 1)
    (.assign "x" .set (.literal (.int 5))) rfl rfl)
  rw [ten, six] at values
  exact absurd values (by simp)

end ChatTemplate.Script
