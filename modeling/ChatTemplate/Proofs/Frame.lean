/-
# ChatTemplate.Proofs.Frame -- what evaluation leaves alone

`Expr.assigned` and `assignedAnywhere` are the names that an expression or a
script may assign.  A callback's parameters are not among them: they are bound
anew for every element and get back the bindings they had.

A computation `Frames` some names when it changes no binding but theirs, whether
it succeeds or fails.  Sequences of computations frame what their parts do
(`Frames.bind`), and a callback frames what its body does less its parameters
(`frames_withParams`).

Main statement: `evaluation_frame`.
-/
import ChatTemplate.Script.Eval

namespace ChatTemplate.Script

set_option autoImplicit false

/-! ## Names that may be assigned -/

mutual

/-- **The names that an expression may assign.** -/
def Expr.assigned : Expr → List String
  | .literal _ => []
  | .var _ => []
  | .list items => assignedByAll items
  | .unary _ operand => operand.assigned
  | .binary _ left right => left.assigned ++ right.assigned
  | .conditional condition yes no => condition.assigned ++ (yes.assigned ++ no.assigned)
  | .assign name _ value => name :: value.assigned
  | .call _ args => assignedByAll args
  | .member target _ => target.assigned
  | .index target key => target.assigned ++ key.assigned
  | .method target _ args => target.assigned ++ assignedByAll args
  | .lambda params body => body.assigned.filter fun name => name ∉ params
  | .sequence items => assignedByAll items

def assignedByAll : List Expr → List String
  | [] => []
  | e :: es => e.assigned ++ assignedByAll es

end

mutual

/-- **The names that a statement may assign.** -/
def Stmt.assigned : Stmt → List String
  | .expr e => e.assigned
  | .declare name none => [name]
  | .declare name (some value) => name :: value.assigned
  | .ret none => []
  | .ret (some value) => value.assigned
  | .branch condition yes no => condition.assigned ++ (assignedAnywhere yes ++ assignedAnywhere no)

def assignedAnywhere : List Stmt → List String
  | [] => []
  | stmt :: stmts => stmt.assigned ++ assignedAnywhere stmts

end

/-! ## Sequences -/

theorem run_bind {α β : Type} (first : Eval α) (next : α → Eval β) (state : State) :
    ExceptT.run (first >>= next) state =
      ExceptT.bindCont next (ExceptT.run first state).1 (ExceptT.run first state).2 :=
  rfl

theorem run_bind_of_ok {α β : Type} {first : Eval α} {next : α → Eval β}
    {state after : State} {result : α}
    (here : ExceptT.run first state = (.ok result, after)) :
    ExceptT.run (first >>= next) state = ExceptT.run (next result) after := by
  rw [run_bind, here]
  rfl

theorem run_bind_of_error {α β : Type} {first : Eval α} {next : α → Eval β}
    {state after : State} {cause : ScriptError}
    (here : ExceptT.run first state = (.error cause, after)) :
    ExceptT.run (first >>= next) state = (.error cause, after) := by
  rw [run_bind, here]
  rfl

theorem run_lookupName (name : String) (state : State) :
    ExceptT.run (lookupName name) state =
      (match state.scope.get? name with
        | some value => .ok value
        | none => .error (.undefined name), state) := by
  have looked : ExceptT.run (lookupName? name) state = (.ok (state.scope.get? name), state) := rfl
  rw [lookupName, run_bind_of_ok looked]
  cases state.scope.get? name <;> rfl

/-! ## Framing -/

/-- The state that a computation leaves, also when it fails. -/
def stateAfter {α : Type} (computation : Eval α) (state : State) : State :=
  (ExceptT.run computation state).2

/-- **A computation changes no binding but those of some names.** -/
def Frames {α : Type} (names : List String) (computation : Eval α) : Prop :=
  ∀ state name, name ∉ names →
    (stateAfter computation state).scope.get? name = state.scope.get? name

/-- The second part of a sequence starts where the first one ended, if that
succeeded. -/
theorem stateAfter_bind {α β : Type} (first : Eval α) (next : α → Eval β) (state : State) :
    stateAfter (first >>= next) state =
      match (ExceptT.run first state).1 with
      | .ok result => stateAfter (next result) (stateAfter first state)
      | .error _ => stateAfter first state := by
  rw [stateAfter, run_bind]
  cases (ExceptT.run first state).1 <;> rfl

namespace Frames

variable {α β : Type} {names : List String}

theorem pure (result : α) : Frames names (Pure.pure result) := fun _ _ _ => rfl

theorem throw (cause : ScriptError) : Frames names (MonadExcept.throw cause : Eval α) :=
  fun _ _ _ => rfl

theorem bind {first : Eval α} {next : α → Eval β} (one : Frames names first)
    (two : ∀ result, Frames names (next result)) : Frames names (first >>= next) := by
  intro state name outside
  have kept := one state name outside
  rw [stateAfter_bind]
  split
  · next result _ => rw [two result _ name outside, kept]
  · exact kept

theorem mono {wider : List String} {computation : Eval α} (frames : Frames names computation)
    (within : names ⊆ wider) : Frames wider computation :=
  fun state name outside => frames state name fun member => outside (within member)

theorem left {others : List String} {computation : Eval α} (frames : Frames names computation) :
    Frames (names ++ others) computation :=
  frames.mono (List.subset_append_left _ _)

theorem right {others : List String} {computation : Eval α} (frames : Frames names computation) :
    Frames (others ++ names) computation :=
  frames.mono (List.subset_append_right _ _)

end Frames

section

variable {names : List String}

theorem frames_lookupName? (name : String) : Frames names (lookupName? name) :=
  fun _ _ _ => rfl

theorem frames_lookupName (name : String) : Frames names (lookupName name) := by
  refine (frames_lookupName? name).bind fun found => ?_
  split
  · exact .pure _
  · exact .throw _

theorem frames_bindName {name : String} (own : name ∈ names) (value : Value) :
    Frames names (bindName name value) := by
  intro state other outside
  have apart : other ≠ name := fun same => outside (same ▸ own)
  have kept : (stateAfter (bindName name value) state).scope = state.scope.set name value := rfl
  rw [kept, Table.get?_set, if_neg apart]

theorem frames_ofExcept (result : Except ScriptError Value) : Frames names (ofExcept result) := by
  unfold ofExcept
  split
  · exact .pure _
  · exact .throw _

theorem frames_namespace? (target : Expr) : Frames names (namespace? target) := by
  unfold namespace?
  split
  · exact (frames_lookupName? _).bind fun found => .pure _
  · exact .pure _

theorem frames_get : Frames names (get : Eval State) :=
  fun _ _ _ => rfl

theorem frames_modify {change : State → State}
    (kept : ∀ state, ∀ name ∉ names, (change state).scope.get? name = state.scope.get? name) :
    Frames names (modify change : Eval PUnit) :=
  kept

/-- A call of a function uses the dice, but no binding. -/
theorem frames_callNamed (name : String) (args : List Value) :
    Frames names (callNamed name args) := by
  have used : ∀ dice, Frames names (modify fun state => { state with dice } : Eval PUnit) :=
    fun dice => frames_modify fun state name outside => rfl
  refine frames_get.bind fun state => ?_
  split
  · next result dice _ => exact (used dice).bind fun _ => frames_ofExcept result
  · exact .throw _

end

/-! ## Callbacks -/

theorem get?_restore (scope : Scope) (name other : String) (before : Option Value) :
    (scope.restore name before).get? other = if other = name then before else scope.get? other := by
  cases before with
  | none => exact Table.get?_unset scope name other
  | some value => exact Table.get?_set scope name other value

/-- **Parameters get back the bindings they had**, also those named twice. -/
theorem get?_restoreAll (params : List String) (before : String → Option Value) (scope : Scope)
    (name : String) :
    (restoreAll (params.map fun param => (param, before param)) scope).get? name =
      if name ∈ params then before name else scope.get? name := by
  induction params generalizing scope with
  | nil => rfl
  | cons param params ih =>
      have rest := ih (scope.restore param (before param))
      rw [get?_restore] at rest
      have step : restoreAll ((param :: params).map fun param => (param, before param)) scope =
          restoreAll (params.map fun param => (param, before param))
            (scope.restore param (before param)) := rfl
      rw [step, rest]
      by_cases later : name ∈ params
      · simp [later]
      · by_cases here : name = param
        · simp [here]
        · simp [later, here]

theorem get?_bindParams {params : List String} {name : String} (outside : name ∉ params)
    (item : Value) (position : Nat) (scope : Scope) :
    (bindParams params item position scope).get? name = scope.get? name := by
  unfold bindParams
  split
  · rfl
  · next element =>
      have apart : name ≠ element := fun same => outside (by simp [same])
      rw [Table.get?_set, if_neg apart]
  · next element place others =>
      have apart : name ≠ element := fun same => outside (by simp [same])
      have apart' : name ≠ place := fun same => outside (by simp [same])
      rw [Table.get?_set, if_neg apart', Table.get?_set, if_neg apart]

theorem frames_forEach {params names : List String} {body : Eval Value}
    (frames : Frames names body) (position : Nat) (items : List Value) :
    Frames (params ++ names) (forEach params body position items) := by
  induction items generalizing position with
  | nil => exact .pure _
  | cons item items ih =>
      have bound : Frames (params ++ names) (modify fun state =>
          { state with scope := bindParams params item position state.scope } : Eval PUnit) :=
        frames_modify fun state name outside => by
          rw [List.mem_append, not_or] at outside
          exact get?_bindParams outside.1 item position state.scope
      exact bound.bind fun _ => frames.right.bind fun result =>
        (ih (position + 1)).bind fun results => .pure _

/-- **A callback leaves its parameters alone**, whatever its body does with them,
and whether it succeeds or fails. -/
theorem frames_withParams {α : Type} {params names : List String} {inner : Eval α}
    (frames : Frames (params ++ names) inner) :
    Frames (names.filter fun name => name ∉ params) (withParams params inner) := by
  intro state name outside
  have restored : (stateAfter (withParams params inner) state).scope =
      restoreAll (params.map fun param => (param, state.scope.get? param))
        (stateAfter inner state).scope := rfl
  rw [restored, get?_restoreAll]
  split
  · rfl
  · next free =>
      refine frames state name fun member => ?_
      rcases List.mem_append.1 member with inParams | inNames
      · exact free inParams
      · exact outside (List.mem_filter.2 ⟨inNames, by simpa using free⟩)

theorem frames_callWithCallback {params names : List String} {body : Eval Value}
    (frames : Frames names body) (items : List Value) (method : String) :
    Frames (names.filter fun name => name ∉ params)
      (callWithCallback items method params body) := by
  refine (frames_withParams (frames_forEach frames 0 items)).bind fun results => ?_
  split
  · exact .pure _
  · exact .throw _

/-! ## Expressions -/

mutual

/-- **Evaluation changes no binding but those an expression may assign.** -/
theorem frames_eval : (e : Expr) → Frames e.assigned (eval e)
  | .literal value => by
      rw [eval]
      exact .pure _
  | .var name => by
      rw [eval]
      exact frames_lookupName name
  | .list items => by
      rw [eval, Expr.assigned]
      exact (frames_evalAll items).bind fun values => .pure _
  | .unary op operand => by
      rw [eval, Expr.assigned]
      exact (frames_eval operand).bind fun value => .pure _
  | .binary op left right => by
      have inLeft := frames_eval left
      have inRight := frames_eval right
      rw [eval, Expr.assigned]
      refine inLeft.left.bind fun a => ?_
      split
      · split
        · exact inRight.right
        · exact .pure _
      · split
        · exact .pure _
        · exact inRight.right
      · exact inRight.right.bind fun b => frames_ofExcept _
  | .conditional condition yes no => by
      have inYes := frames_eval yes
      have inNo := frames_eval no
      rw [eval, Expr.assigned]
      refine (frames_eval condition).left.bind fun c => ?_
      split
      · exact inYes.left.right
      · exact inNo.right.right
  | .assign name op value => by
      have inner := frames_eval value
      rw [eval, Expr.assigned]
      refine (inner.mono (List.subset_cons_self _ _)).bind fun operand => ?_
      have bound : ∀ result, Frames (name :: value.assigned)
          (do bindName name result; return result) := fun result =>
        (frames_bindName List.mem_cons_self result).bind fun _ => .pure _
      split
      · exact (Frames.pure _).bind bound
      · exact (frames_lookupName name).bind fun current => (frames_ofExcept _).bind bound
  | .call function args => by
      rw [eval, Expr.assigned]
      exact (frames_evalAll args).bind fun values => frames_callNamed function values
  | .member target key => by
      have inner := frames_eval target
      rw [eval, Expr.assigned]
      refine (frames_namespace? target).bind fun found => ?_
      split
      · refine (frames_lookupName? _).bind fun value => ?_
        split
        · exact .pure _
        · exact .throw _
      · exact inner.bind fun value => .pure _
  | .index target key => by
      have inKey := frames_eval key
      rw [eval, Expr.assigned]
      exact (frames_eval target).left.bind fun value => inKey.right.bind fun position => .pure _
  | .method target name args => by
      have inTarget := frames_eval target
      have inArgs := frames_evalAll args
      have inCallback := frames_callback args
      rw [eval, Expr.assigned]
      refine (frames_namespace? target).bind fun found => ?_
      split
      · exact inArgs.right.bind fun values => frames_callNamed _ values
      · refine inTarget.left.bind fun receiver => ?_
        split
        · next items params body found => exact (inCallback params body found items name).right
        · refine inArgs.right.bind fun values => ?_
          split
          · exact frames_ofExcept _
          · exact .throw _
  | .lambda params body => by
      rw [eval]
      exact .throw _
  | .sequence items => by
      rw [eval, Expr.assigned]
      exact (frames_evalAll items).bind fun values => .pure _

theorem frames_evalAll : (es : List Expr) → Frames (assignedByAll es) (evalAll es)
  | [] => by
      rw [evalAll]
      exact .pure _
  | e :: es => by
      have later := frames_evalAll es
      rw [evalAll, assignedByAll]
      exact (frames_eval e).left.bind fun value => later.right.bind fun values => .pure _

/-- What a callback at the head of some arguments does to the bindings. -/
theorem frames_callback : (args : List Expr) → ∀ params body,
    callback? args = some (params, body) → ∀ items method,
      Frames (assignedByAll args) (callWithCallback items method params body)
  | [], _, _, found => by simp [callback?] at found
  | e :: args, params, body, found => by
      intro items method
      cases e with
      | lambda own inner =>
          have frames := frames_eval inner
          rw [callback?] at found
          obtain ⟨rfl, rfl⟩ := Prod.mk.inj (Option.some.inj found)
          rw [assignedByAll, Expr.assigned]
          exact (frames_callWithCallback frames items method).left
      | _ => simp [callback?] at found

end

/-! ## Scripts -/

mutual

theorem frames_run : (stmt : Stmt) → Frames stmt.assigned (run stmt)
  | .expr e => by
      rw [run, Stmt.assigned]
      exact (frames_eval e).bind fun value => .pure _
  | .declare name none => by
      rw [run, Stmt.assigned]
      exact (Frames.pure _).bind fun initial =>
        (frames_bindName List.mem_cons_self _).bind fun _ => .pure _
  | .declare name (some value) => by
      rw [run, Stmt.assigned]
      exact ((frames_eval value).mono (List.subset_cons_self _ _)).bind fun initial =>
        (frames_bindName List.mem_cons_self _).bind fun _ => .pure _
  | .ret none => by
      rw [run]
      exact .pure _
  | .ret (some value) => by
      rw [run, Stmt.assigned]
      exact (frames_eval value).bind fun result => .pure _
  | .branch condition yes no => by
      have inYes := frames_runAll yes
      have inNo := frames_runAll no
      rw [run, Stmt.assigned]
      refine (frames_eval condition).left.bind fun c => ?_
      split
      · exact inYes.left.right
      · exact inNo.right.right

/-- **A script changes no binding but those it may assign.** -/
theorem frames_runAll : (stmts : List Stmt) → Frames (assignedAnywhere stmts) (runAll stmts)
  | [] => by
      rw [runAll]
      exact .pure _
  | stmt :: stmts => by
      have later := frames_runAll stmts
      rw [runAll, assignedAnywhere]
      refine (frames_run stmt).left.bind fun returned => ?_
      split
      · exact .pure _
      · exact later.right

end

theorem frames_runProgram (program : List Stmt) :
    Frames (assignedAnywhere program) (runProgram program) :=
  (frames_runAll program).bind fun _ => .pure _

/-- **Evaluation leaves alone what it does not assign**: after an expression or a
script, also one that failed, every other name is bound to the value it had, or
unbound as it was. -/
theorem evaluation_frame :
    (∀ (e : Expr) (state : State) (name : String), name ∉ e.assigned →
      (stateAfter (eval e) state).scope.get? name = state.scope.get? name) ∧
    (∀ (program : List Stmt) (state : State) (name : String), name ∉ assignedAnywhere program →
      (stateAfter (runProgram program) state).scope.get? name = state.scope.get? name) :=
  ⟨frames_eval, frames_runProgram⟩

/-- `[1, 0].map((x, x) => (x += 1, [2].map(x => x *= x), 1 / (2 - x)))`. -/
def shadowing : Expr :=
  .method (.list [.literal (.int 1), .literal (.int 0)]) "map"
    [.lambda ["x", "x"] (.sequence
      [ .assign "x" .add (.literal (.int 1)),
        .method (.list [.literal (.int 2)]) "map" [.lambda ["x"] (.assign "x" .mul (.var "x"))],
        .binary .div (.literal (.int 1)) (.binary .sub (.literal (.int 2)) (.var "x")) ])]

theorem shadowed_binding_survives :
    let state : State := ⟨Table.empty.set "x" (.int 7), { rolls := fun _ => 0 }⟩
    let script : List Stmt := [.declare "y" (some shadowing)]
    "x" ∉ shadowing.assigned ∧ "x" ∉ assignedAnywhere script ∧
      (ExceptT.run (eval shadowing) state).1.toOption.isNone = true ∧
      (stateAfter (eval shadowing) state).scope.get? "x" = some (.int 7) ∧
      (stateAfter (runProgram script) state).scope.get? "x" = some (.int 7) := by
  intro state script
  have own : "x" ∉ shadowing.assigned := by decide
  have outside : "x" ∉ assignedAnywhere script := by decide
  have fails : (ExceptT.run (eval shadowing) state).1.toOption.isNone = true := by decide
  obtain ⟨expressions, scripts⟩ := evaluation_frame
  have bound : state.scope.get? "x" = some (.int 7) := by simp [state]
  exact ⟨own, outside, fails, (expressions _ state _ own).trans bound,
    (scripts _ state _ outside).trans bound⟩

end ChatTemplate.Script
