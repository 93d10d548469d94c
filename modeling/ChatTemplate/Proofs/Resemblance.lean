/-
# ChatTemplate.Proofs.Resemblance -- two runs that read the same

A script reads the value of a name as a whole, or one part of it only: the member
`ns.key` of a name `ns` that is bound, or the element `ns["key"]`.  `Expr.uses` and
`usesAnywhere` list what an expression or a script reads in this way.

Two states resemble each other when their dice are the same and the bindings of every
name are related, in a way that may differ from name to name.  What is read agrees
(`Use.Agrees`) when related bindings cannot be told apart by it.  A computation runs
in parallel from states that resemble each other (`Parallel`): from both it gives the same
result or fails in the same way, and leaves states that resemble each other again.  For
that it is enough that equal bindings are related: what is assigned is the same in both
runs, and a callback gives back the related bindings that its parameters had.

Main statements: `parallel_eval`, `parallel_runProgram`.
-/
import Mathlib.Data.List.Forall2
import ChatTemplate.Proofs.Frame
import ChatTemplate.Script.Sandbox

namespace ChatTemplate.Script

set_option autoImplicit false

/-! ## What is read -/

/-- How a part of a value is read: as a member, or as an element whose key is written
out. -/
inductive Access where
  | member (key : String)
  | index (key : Value)

def Access.of (value : Value) : Access → Value
  | member key => value.member key
  | index key => value.index key

/-- **What is read of a scope** in one place of a script. -/
inductive Use where
  /-- The value of a name. -/
  | whole (name : String)
  /-- A part of the value of a name, if it is bound. -/
  | part (name : String) (access : Access)
  /-- A constant of a namespace. -/
  | constant (space key : String)

/-- The name whose binding is read. -/
def Use.name : Use → String
  | whole name => name
  | part name _ => name
  | constant space key => space ++ "." ++ key

/-- The value that an expression is. -/
def Expr.literal? : Expr → Option Value
  | .literal value => some value
  | _ => none

mutual

/-- **What an expression reads.** -/
def Expr.uses : Expr → List Use
  | .literal _ => []
  | .var name => [.whole name]
  | .list items => usesOfAll items
  | .unary _ operand => operand.uses
  | .binary _ left right => left.uses ++ right.uses
  | .conditional condition yes no => condition.uses ++ (yes.uses ++ no.uses)
  | .assign name op value => value.uses ++ (if op = .set then [] else [.whole name])
  | .call _ args => usesOfAll args
  | .member target key =>
      match target.bareName? with
      | some name => [.part name (.member key), .constant name key]
      | none => target.uses
  | .index target key =>
      match target.bareName?, key.literal? with
      | some name, some value => [.part name (.index value)]
      | _, _ => target.uses ++ key.uses
  | .method target _ args => target.uses ++ usesOfAll args
  | .lambda _ body => body.uses
  | .sequence items => usesOfAll items

def usesOfAll : List Expr → List Use
  | [] => []
  | e :: es => e.uses ++ usesOfAll es

end

mutual

/-- **What a statement reads.** -/
def Stmt.uses : Stmt → List Use
  | .expr e => e.uses
  | .declare _ none => []
  | .declare _ (some value) => value.uses
  | .ret none => []
  | .ret (some value) => value.uses
  | .branch condition yes no =>
      condition.uses ++ (usesAnywhere yes ++ usesAnywhere no)

def usesAnywhere : List Stmt → List Use
  | [] => []
  | stmt :: stmts => stmt.uses ++ usesAnywhere stmts

end

/-! ## States that resemble each other -/

/-- **How the bindings of each name in two states may be related**; equal bindings are. -/
structure Likeness where
  related : String → Option Value → Option Value → Prop
  refl : ∀ name found, related name found found

/-- **Related bindings cannot be told apart** by what is read of them. -/
def Use.Agrees (likeness : Likeness) : Use → Prop
  | whole name => ∀ one other, likeness.related name one other → one = other
  | part name access => ∀ one other, likeness.related name one other →
      one.map (access.of ·) = other.map (access.of ·)
  | constant space key => ∀ one other, likeness.related (space ++ "." ++ key) one other →
      one = other

/-- All bindings of two scopes are related. -/
def Likeness.Between (likeness : Likeness) (one other : Scope) : Prop :=
  ∀ name, likeness.related name (one.get? name) (other.get? name)

/-- **Two states whose dice are the same and whose bindings are related.** -/
structure Resemble (likeness : Likeness) (one other : State) : Prop where
  dice : one.dice = other.dice
  bound : likeness.Between one.scope other.scope

/-- **A computation cannot tell states apart that resemble each other.** -/
def Parallel {α : Type} (likeness : Likeness) (computation : Eval α) : Prop :=
  ∀ one other, Resemble likeness one other →
    (ExceptT.run computation one).1 = (ExceptT.run computation other).1 ∧
      Resemble likeness (stateAfter computation one) (stateAfter computation other)

namespace Parallel

variable {α β : Type} {likeness : Likeness}

theorem pure (result : α) : Parallel likeness (Pure.pure result) :=
  fun _ _ resemble => ⟨rfl, resemble⟩

theorem throw (cause : ScriptError) : Parallel likeness (MonadExcept.throw cause : Eval α) :=
  fun _ _ resemble => ⟨rfl, resemble⟩

theorem bind {first : Eval α} {next : α → Eval β} (one : Parallel likeness first)
    (two : ∀ result, Parallel likeness (next result)) : Parallel likeness (first >>= next) := by
  intro here there resemble
  obtain ⟨same, after⟩ := one here there resemble
  have states : ∀ state, stateAfter (first >>= next) state =
      (ExceptT.bindCont next (ExceptT.run first state).1 (stateAfter first state)).2 :=
    fun _ => rfl
  rw [run_bind, run_bind, states, states, ← same]
  cases (ExceptT.run first here).1 with
  | ok result => exact two result _ _ after
  | error cause => exact ⟨rfl, after⟩

end Parallel

section

variable {likeness : Likeness}

/-- A computation that changes nothing, whose results are the same. -/
theorem parallel_of_same {α : Type} {computation : Eval α}
    (still : ∀ state, stateAfter computation state = state)
    (same : ∀ one other, Resemble likeness one other →
      (ExceptT.run computation one).1 = (ExceptT.run computation other).1) :
    Parallel likeness computation := by
  intro one other resemble
  rw [still, still]
  exact ⟨same one other resemble, resemble⟩

/-! ## Looking up -/

theorem parallel_lookupName? {name : String} (agrees : (Use.whole name).Agrees likeness) :
    Parallel likeness (lookupName? name) :=
  parallel_of_same (fun _ => rfl) fun _ _ resemble =>
    congrArg Except.ok (agrees _ _ (resemble.bound name))

theorem parallel_lookupName {name : String} (agrees : (Use.whole name).Agrees likeness) :
    Parallel likeness (lookupName name) := by
  refine (parallel_lookupName? agrees).bind fun found => ?_
  split
  · exact .pure _
  · exact .throw _

/-- Whether a target is a namespace is seen from its own binding. -/
theorem parallel_namespace? {target : Expr}
    (agrees : ∀ use ∈ target.uses, use.Agrees likeness) :
    Parallel likeness (namespace? target) := by
  cases target with
  | var name =>
      have own : (Use.whole name).Agrees likeness := agrees _ List.mem_cons_self
      exact (parallel_lookupName? own).bind fun found => .pure _
  | _ => exact .pure _

theorem eq_var_of_bareName {target : Expr} {name : String}
    (bare : target.bareName? = some name) : target = .var name := by
  cases target with
  | var other => rw [Option.some.inj bare]
  | _ => simp [Expr.bareName?] at bare

theorem eq_literal_of_literal {e : Expr} {value : Value} (known : e.literal? = some value) :
    e = .literal value := by
  cases e with
  | literal other => rw [Option.some.inj known]
  | _ => simp [Expr.literal?] at known

/-- A member of a name: of its value, if it has one, or else of its namespace. -/
theorem run_eval_member (name key : String) (state : State) :
    ExceptT.run (eval (.member (.var name) key)) state =
      match state.scope.get? name with
      | some value => (.ok (value.member key), state)
      | none =>
          (match state.scope.get? (name ++ "." ++ key) with
            | some value => .ok value
            | none => .error (.undefined name), state) := by
  have space : ExceptT.run (namespace? (.var name)) state =
      (.ok (if (state.scope.get? name).isNone then some name else none), state) := rfl
  have looked := run_lookupName name state
  rw [eval, run_bind_of_ok space]
  cases bound : state.scope.get? name with
  | none =>
      have constant : ExceptT.run (lookupName? (name ++ "." ++ key)) state =
          (.ok (state.scope.get? (name ++ "." ++ key)), state) := rfl
      refine (run_bind_of_ok constant).trans ?_
      cases state.scope.get? (name ++ "." ++ key) <;> rfl
  | some value =>
      rw [bound] at looked
      rw [eval]
      exact run_bind_of_ok looked

/-- An element of the value of a name. -/
theorem run_eval_index (name : String) (key : Value) (state : State) :
    ExceptT.run (eval (.index (.var name) (.literal key))) state =
      match state.scope.get? name with
      | some value => (.ok (value.index key), state)
      | none => (.error (.undefined name), state) := by
  have looked := run_lookupName name state
  rw [eval, eval, eval]
  cases bound : state.scope.get? name with
  | none =>
      rw [bound] at looked
      exact run_bind_of_error looked
  | some value =>
      rw [bound] at looked
      exact run_bind_of_ok looked

/-- Bindings of which a part agrees are both there or both missing. -/
theorem bound_alike {part : Value → Value} {one other : Option Value}
    (same : one.map part = other.map part) :
    (one = none ∧ other = none) ∨
      ∃ value value', one = some value ∧ other = some value' ∧ part value = part value' := by
  cases one with
  | none => exact .inl ⟨rfl, Option.map_eq_none_iff.1 same.symm⟩
  | some value =>
      obtain ⟨value', bound, alike⟩ := Option.map_eq_some_iff.1 same.symm
      exact .inr ⟨value, value', rfl, bound, alike.symm⟩

theorem parallel_eval_member {name key : String}
    (part : (Use.part name (.member key)).Agrees likeness)
    (constant : (Use.constant name key).Agrees likeness) :
    Parallel likeness (eval (.member (.var name) key)) := by
  refine parallel_of_same (fun state => ?_) fun one other resemble => ?_
  · rw [stateAfter, run_eval_member]
    split <;> rfl
  · have parts := part _ _ (resemble.bound name)
    have constants := constant _ _ (resemble.bound (name ++ "." ++ key))
    rw [run_eval_member, run_eval_member, ← constants]
    rcases bound_alike parts with ⟨here, there⟩ | ⟨value, value', here, there, same⟩
    · rw [here, there]
    · rw [here, there]
      exact congrArg Except.ok same

theorem parallel_eval_index {name : String} {key : Value}
    (part : (Use.part name (.index key)).Agrees likeness) :
    Parallel likeness (eval (.index (.var name) (.literal key))) := by
  refine parallel_of_same (fun state => ?_) fun one other resemble => ?_
  · rw [stateAfter, run_eval_index]
    split <;> rfl
  · have parts := part _ _ (resemble.bound name)
    rw [run_eval_index, run_eval_index]
    rcases bound_alike parts with ⟨here, there⟩ | ⟨value, value', here, there, same⟩
    · rw [here, there]
    · rw [here, there]
      exact congrArg Except.ok same

/-! ## Binding -/

theorem parallel_ofExcept (result : Except ScriptError Value) :
    Parallel likeness (ofExcept result) := by
  unfold ofExcept
  split
  · exact .pure _
  · exact .throw _

/-- A call of a function uses the dice, but no binding. -/
theorem run_callNamed (name : String) (args : List Value) (state : State) :
    ExceptT.run (callNamed name args) state =
      match callFunction? name args state.dice with
      | some (result, dice) => (result, { state with dice })
      | none => (.error (.undefined name), state) := by
  change ExceptT.run (match callFunction? name args state.dice with
    | some (result, dice) => (do
        modify fun state => { state with dice := dice }
        ofExcept result : Eval Value)
    | none => throw (.undefined name)) state = _
  cases callFunction? name args state.dice with
  | none => rfl
  | some found =>
      obtain ⟨result, dice⟩ := found
      cases result <;> rfl

theorem parallel_callNamed (name : String) (args : List Value) :
    Parallel likeness (callNamed name args) := by
  intro one other resemble
  rw [stateAfter, stateAfter, run_callNamed, run_callNamed, resemble.dice]
  cases callFunction? name args other.dice with
  | none => exact ⟨rfl, resemble⟩
  | some found => exact ⟨rfl, ⟨rfl, resemble.bound⟩⟩

/-- Changing the bindings in a way that keeps them related. -/
theorem parallel_modify {change : Scope → Scope}
    (keeps : ∀ one other, likeness.Between one other →
      likeness.Between (change one) (change other)) :
    Parallel likeness
      (modify fun state => { state with scope := change state.scope } : Eval PUnit) :=
  fun _ _ resemble => ⟨rfl, ⟨resemble.dice, keeps _ _ resemble.bound⟩⟩

namespace Likeness.Between

variable {one other : Scope}

/-- Related values under the same name. -/
theorem set (between : likeness.Between one other) {name : String} {value value' : Value}
    (bound : likeness.related name (some value) (some value')) :
    likeness.Between (one.set name value) (other.set name value') := by
  intro found
  rw [Table.get?_set, Table.get?_set]
  split
  · next same => exact same ▸ bound
  · exact between found

/-- Bindings that are related one by one. -/
theorem setAll (between : likeness.Between one other) {here there : List (String × Value)}
    (bound : List.Forall₂ (fun binding binding' => binding.1 = binding'.1 ∧
      likeness.related binding.1 (some binding.2) (some binding'.2)) here there) :
    likeness.Between (one.setAll here) (other.setAll there) := by
  induction bound generalizing one other with
  | nil => exact between
  | @cons binding binding' here there related _ ih =>
      obtain ⟨same, related⟩ := related
      have step : likeness.Between (one.set binding.1 binding.2)
          (other.set binding'.1 binding'.2) := by
        rw [← same]
        exact between.set related
      exact ih step

theorem bindParams (between : likeness.Between one other) (params : List String) (item : Value)
    (position : Nat) :
    likeness.Between (bindParams params item position one)
      (bindParams params item position other) := by
  unfold Script.bindParams
  split
  · exact between
  · exact between.set (likeness.refl _ _)
  · exact (between.set (likeness.refl _ _)).set (likeness.refl _ _)

end Likeness.Between

theorem parallel_bindName (name : String) (value : Value) :
    Parallel likeness (bindName name value) :=
  parallel_modify fun _ _ between => between.set (likeness.refl _ _)

/-! ## Callbacks -/

theorem parallel_forEach {params : List String} {body : Eval Value}
    (inBody : Parallel likeness body) (position : Nat) (items : List Value) :
    Parallel likeness (forEach params body position items) := by
  induction items generalizing position with
  | nil => exact .pure _
  | cons item items ih =>
      have bound : Parallel likeness (modify fun state =>
          { state with scope := bindParams params item position state.scope } : Eval PUnit) :=
        parallel_modify fun _ _ between => between.bindParams params item position
      exact bound.bind fun _ => inBody.bind fun result =>
        (ih (position + 1)).bind fun results => .pure _

/-- **A callback gives its parameters back** the related bindings that they had. -/
theorem parallel_withParams {α : Type} (params : List String) {inner : Eval α}
    (inInner : Parallel likeness inner) : Parallel likeness (withParams params inner) := by
  intro one other resemble
  obtain ⟨same, after⟩ := inInner one other resemble
  have restored : ∀ state, (stateAfter (withParams params inner) state).scope =
      restoreAll (params.map fun param => (param, state.scope.get? param))
        (stateAfter inner state).scope := fun _ => rfl
  refine ⟨same, ⟨after.dice, fun name => ?_⟩⟩
  rw [restored, restored, get?_restoreAll, get?_restoreAll]
  by_cases own : name ∈ params
  · rw [if_pos own, if_pos own]
    exact resemble.bound name
  · rw [if_neg own, if_neg own]
    exact after.bound name

theorem parallel_callWithCallback {params : List String} {body : Eval Value}
    (inBody : Parallel likeness body) (items : List Value) (method : String) :
    Parallel likeness (callWithCallback items method params body) := by
  refine (parallel_withParams params (parallel_forEach inBody 0 items)).bind
    fun results => ?_
  split
  · exact .pure _
  · exact .throw _

/-! ## Expressions -/

mutual

/-- **An expression cannot tell states apart that resemble each other**, when all that it
reads agrees. -/
theorem parallel_eval : (e : Expr) → (∀ use ∈ e.uses, use.Agrees likeness) →
    Parallel likeness (eval e)
  | .literal value, _ => by
      rw [eval]
      exact .pure _
  | .var name, agrees => by
      rw [eval]
      exact parallel_lookupName (agrees (.whole name) List.mem_cons_self)
  | .list items, agrees => by
      rw [Expr.uses] at agrees
      rw [eval]
      exact (parallel_evalAll items agrees).bind fun values => .pure _
  | .unary op operand, agrees => by
      rw [Expr.uses] at agrees
      rw [eval]
      exact (parallel_eval operand agrees).bind fun value => .pure _
  | .binary op left right, agrees => by
      rw [Expr.uses] at agrees
      obtain ⟨ofLeft, ofRight⟩ := List.forall_mem_append.1 agrees
      have inRight := parallel_eval right ofRight
      rw [eval]
      refine (parallel_eval left ofLeft).bind fun a => ?_
      split
      · split
        · exact inRight
        · exact .pure _
      · split
        · exact .pure _
        · exact inRight
      · exact inRight.bind fun b => parallel_ofExcept _
  | .conditional condition yes no, agrees => by
      rw [Expr.uses] at agrees
      obtain ⟨ofCondition, ofBranches⟩ := List.forall_mem_append.1 agrees
      obtain ⟨ofYes, ofNo⟩ := List.forall_mem_append.1 ofBranches
      have inYes := parallel_eval yes ofYes
      have inNo := parallel_eval no ofNo
      rw [eval]
      refine (parallel_eval condition ofCondition).bind fun c => ?_
      split
      · exact inYes
      · exact inNo
  | .assign name op value, agrees => by
      rw [Expr.uses] at agrees
      obtain ⟨ofValue, ofName⟩ := List.forall_mem_append.1 agrees
      have bound : ∀ result, Parallel likeness (do bindName name result; return result) :=
        fun result => (parallel_bindName name result).bind fun _ => .pure _
      rw [eval]
      refine (parallel_eval value ofValue).bind fun operand => ?_
      split
      · exact (Parallel.pure _).bind bound
      · next combines =>
          rw [if_neg combines] at ofName
          exact (parallel_lookupName (List.forall_mem_singleton.1 ofName)).bind fun current =>
            (parallel_ofExcept _).bind bound
  | .call function args, agrees => by
      rw [Expr.uses] at agrees
      rw [eval]
      exact (parallel_evalAll args agrees).bind fun values => parallel_callNamed function values
  | .member target key, agrees => by
      rw [Expr.uses] at agrees
      cases bare : target.bareName? with
      | some name =>
          rw [bare] at agrees
          obtain ⟨part, constant⟩ := List.forall_mem_cons.1 agrees
          rw [eq_var_of_bareName bare]
          exact parallel_eval_member part (List.forall_mem_singleton.1 constant)
      | none =>
          rw [bare] at agrees
          have space : namespace? target = pure none := by
            rw [namespace?, bare]
          rw [eval, space, pure_bind]
          exact (parallel_eval target agrees).bind fun value => .pure _
  | .index target key, agrees => by
      rw [Expr.uses] at agrees
      have inParts : (∀ use ∈ target.uses ++ key.uses, use.Agrees likeness) →
          Parallel likeness (eval (.index target key)) := by
        intro apart
        obtain ⟨ofTarget, ofKey⟩ := List.forall_mem_append.1 apart
        have inKey := parallel_eval key ofKey
        rw [eval]
        exact (parallel_eval target ofTarget).bind fun value =>
          inKey.bind fun position => .pure _
      cases bare : target.bareName? with
      | none =>
          rw [bare] at agrees
          exact inParts agrees
      | some name =>
          cases known : key.literal? with
          | none =>
              rw [bare, known] at agrees
              exact inParts agrees
          | some value =>
              rw [bare, known] at agrees
              rw [eq_var_of_bareName bare, eq_literal_of_literal known]
              exact parallel_eval_index (List.forall_mem_singleton.1 agrees)
  | .method target name args, agrees => by
      rw [Expr.uses] at agrees
      obtain ⟨ofTarget, ofArgs⟩ := List.forall_mem_append.1 agrees
      have inTarget := parallel_eval target ofTarget
      have inArgs := parallel_evalAll args ofArgs
      have inCallback := parallel_callback args ofArgs
      rw [eval]
      refine (parallel_namespace? ofTarget).bind fun space => ?_
      split
      · exact inArgs.bind fun values => parallel_callNamed _ values
      · refine inTarget.bind fun receiver => ?_
        split
        · next items params body found => exact inCallback params body found items name
        · refine inArgs.bind fun values => ?_
          split
          · exact parallel_ofExcept _
          · exact .throw _
  | .lambda params body, _ => by
      rw [eval]
      exact .throw _
  | .sequence items, agrees => by
      rw [Expr.uses] at agrees
      rw [eval]
      exact (parallel_evalAll items agrees).bind fun values => .pure _

theorem parallel_evalAll : (es : List Expr) →
    (∀ use ∈ usesOfAll es, use.Agrees likeness) → Parallel likeness (evalAll es)
  | [], _ => by
      rw [evalAll]
      exact .pure _
  | e :: es, agrees => by
      rw [usesOfAll] at agrees
      obtain ⟨ofHead, ofTail⟩ := List.forall_mem_append.1 agrees
      have later := parallel_evalAll es ofTail
      rw [evalAll]
      exact (parallel_eval e ofHead).bind fun value => later.bind fun values => .pure _

/-- The callback at the head of some arguments. -/
theorem parallel_callback : (args : List Expr) →
    (∀ use ∈ usesOfAll args, use.Agrees likeness) →
    ∀ params body, callback? args = some (params, body) → ∀ items method,
      Parallel likeness (callWithCallback items method params body)
  | [], _, _, _, found => by simp [callback?] at found
  | e :: args, agrees, params, body, found => by
      intro items method
      cases e with
      | lambda own inner =>
          rw [usesOfAll, Expr.uses] at agrees
          obtain ⟨ofBody, -⟩ := List.forall_mem_append.1 agrees
          have inBody := parallel_eval inner ofBody
          rw [callback?] at found
          obtain ⟨rfl, rfl⟩ := Prod.mk.inj (Option.some.inj found)
          exact parallel_callWithCallback inBody items method
      | _ => simp [callback?] at found

end

/-! ## Scripts -/

mutual

theorem parallel_run : (stmt : Stmt) → (∀ use ∈ stmt.uses, use.Agrees likeness) →
    Parallel likeness (run stmt)
  | .expr e, agrees => by
      rw [Stmt.uses] at agrees
      rw [run]
      exact (parallel_eval e agrees).bind fun value => .pure _
  | .declare name none, _ => by
      rw [run]
      exact (Parallel.pure _).bind fun initial =>
        (parallel_bindName name _).bind fun _ => .pure _
  | .declare name (some value), agrees => by
      rw [Stmt.uses] at agrees
      rw [run]
      exact (parallel_eval value agrees).bind fun initial =>
        (parallel_bindName name _).bind fun _ => .pure _
  | .ret none, _ => by
      rw [run]
      exact .pure _
  | .ret (some value), agrees => by
      rw [Stmt.uses] at agrees
      rw [run]
      exact (parallel_eval value agrees).bind fun result => .pure _
  | .branch condition yes no, agrees => by
      rw [Stmt.uses] at agrees
      obtain ⟨ofCondition, ofBranches⟩ := List.forall_mem_append.1 agrees
      obtain ⟨ofYes, ofNo⟩ := List.forall_mem_append.1 ofBranches
      have inYes := parallel_runAll yes ofYes
      have inNo := parallel_runAll no ofNo
      rw [run]
      refine (parallel_eval condition ofCondition).bind fun c => ?_
      split
      · exact inYes
      · exact inNo

theorem parallel_runAll : (stmts : List Stmt) →
    (∀ use ∈ usesAnywhere stmts, use.Agrees likeness) →
    Parallel likeness (runAll stmts)
  | [], _ => by
      rw [runAll]
      exact .pure _
  | stmt :: stmts, agrees => by
      rw [usesAnywhere] at agrees
      obtain ⟨ofHead, ofTail⟩ := List.forall_mem_append.1 agrees
      have later := parallel_runAll stmts ofTail
      rw [runAll]
      refine (parallel_run stmt ofHead).bind fun returned => ?_
      split
      · exact .pure _
      · exact later

end

/-- **A script cannot tell states apart that resemble each other**, when all that it reads
agrees. -/
theorem parallel_runProgram {program : List Stmt}
    (agrees : ∀ use ∈ usesAnywhere program, use.Agrees likeness) :
    Parallel likeness (runProgram program) :=
  (parallel_runAll program agrees).bind fun _ => .pure _

/-- **A source comes to the same in scopes that are alike**, when all that it reads
agrees. -/
theorem outcome_runSource {source : List Char} {one other : Scope}
    (between : likeness.Between one other)
    (agrees : ∀ program, parseProgram (lex source) = .ok program →
      ∀ use ∈ usesAnywhere program, use.Agrees likeness) (dice : Dice) :
    outcome (runSource source) one dice = outcome (runSource source) other dice := by
  have parallel : Parallel likeness (runSource source) := by
    unfold runSource
    split
    · next program parsed => exact parallel_runProgram (agrees program parsed)
    · exact .throw _
  exact (parallel ⟨one, dice⟩ ⟨other, dice⟩ ⟨rfl, between⟩).1

end

end ChatTemplate.Script
