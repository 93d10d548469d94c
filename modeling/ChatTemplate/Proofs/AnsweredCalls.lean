/-
# ChatTemplate.Proofs.AnsweredCalls -- calls of pages, and names that are bound to the pages

A script can have calls `url("…")` that stand for pages, though no function has that name.
`Expr.answered` puts the pages in their places, which is what such a script means.  What runs is
another tree, with names in the places of the calls (`Named`), in a scope in which these names
are bound to the pages.

A run of the tree with the names follows a run of the one with the pages (`Follows`): from scopes
that agree in all other names both give the same result or fail in the same way, and leave such
scopes again.  For that no name of a page may be assigned, be declared or be the parameter of a
callback.

Main statements: `follows_eval`, `outcome_of_named`.
-/
import ChatTemplate.Proofs.Resemblance

namespace ChatTemplate.Script

set_option autoImplicit false

/-! ## Answering -/

/-- The address in a call of a page: of the function `url` with a text as its one argument. -/
def pageAddress? : String → List Expr → Option String
  | function, [.literal (.str address)] => if function = "url" then some address else none
  | _, _ => none

/-- A call of another function is none of a page. -/
theorem pageAddress_eq_none {function : String} (other : function ≠ "url") (args : List Expr) :
    pageAddress? function args = none := by
  unfold pageAddress?
  split
  · exact if_neg other
  · rfl

mutual

/-- **An expression with pages in the places of its calls.** -/
def Expr.answered (page : String → Value) : Expr → Expr
  | .literal value => .literal value
  | .var name => .var name
  | .list items => .list (answeredAll page items)
  | .unary op operand => .unary op (operand.answered page)
  | .binary op left right => .binary op (left.answered page) (right.answered page)
  | .conditional condition yes no =>
      .conditional (condition.answered page) (yes.answered page) (no.answered page)
  | .assign name op value => .assign name op (value.answered page)
  | .call function args =>
      match pageAddress? function args with
      | some address => .literal (page address)
      | none => .call function (answeredAll page args)
  | .member target key => .member (target.answered page) key
  | .index target key => .index (target.answered page) (key.answered page)
  | .method target name args => .method (target.answered page) name (answeredAll page args)
  | .lambda params body => .lambda params (body.answered page)
  | .sequence items => .sequence (answeredAll page items)

def answeredAll (page : String → Value) : List Expr → List Expr
  | [] => []
  | e :: es => e.answered page :: answeredAll page es

end

mutual

/-- **A statement with pages in the places of its calls.** -/
def Stmt.answered (page : String → Value) : Stmt → Stmt
  | .expr e => .expr (e.answered page)
  | .declare name none => .declare name none
  | .declare name (some value) => .declare name (some (value.answered page))
  | .ret none => .ret none
  | .ret (some value) => .ret (some (value.answered page))
  | .branch condition yes no =>
      .branch (condition.answered page) (answeredThroughout page yes) (answeredThroughout page no)

def answeredThroughout (page : String → Value) : List Stmt → List Stmt
  | [] => []
  | stmt :: stmts => stmt.answered page :: answeredThroughout page stmts

end

/-! ## Naming -/

section

variable (page : String → Value) (bound : String → Option Value)

/-- **An expression, and the same with names in the places of its calls.**  Each name is bound to
the page of the call, and the expression itself has none of these names. -/
inductive Named : Expr → Expr → Prop
  | literal {value : Value} : Named (.literal value) (.literal value)
  | var {name : String} (other : bound name = none) : Named (.var name) (.var name)
  | place {name address : String} (known : bound name = some (page address)) :
      Named (.call "url" [.literal (.str address)]) (.var name)
  | list {items items' : List Expr} (each : List.Forall₂ Named items items') :
      Named (.list items) (.list items')
  | unary {op : UnaryOp} {e e' : Expr} (operand : Named e e') : Named (.unary op e) (.unary op e')
  | binary {op : BinaryOp} {e e' f f' : Expr} (left : Named e e') (right : Named f f') :
      Named (.binary op e f) (.binary op e' f')
  | conditional {c c' e e' f f' : Expr} (condition : Named c c') (yes : Named e e')
      (no : Named f f') : Named (.conditional c e f) (.conditional c' e' f')
  | assign {name : String} {op : AssignOp} {e e' : Expr} (other : bound name = none)
      (value : Named e e') : Named (.assign name op e) (.assign name op e')
  | call {function : String} {args args' : List Expr} (other : function ≠ "url")
      (each : List.Forall₂ Named args args') : Named (.call function args) (.call function args')
  | member {key : String} {e e' : Expr} (target : Named e e') :
      Named (.member e key) (.member e' key)
  | index {e e' f f' : Expr} (target : Named e e') (key : Named f f') :
      Named (.index e f) (.index e' f')
  | method {name : String} {e e' : Expr} {args args' : List Expr} (target : Named e e')
      (each : List.Forall₂ Named args args') :
      Named (.method e name args) (.method e' name args')
  | lambda {params : List String} {e e' : Expr} (others : ∀ name ∈ params, bound name = none)
      (body : Named e e') : Named (.lambda params e) (.lambda params e')
  | sequence {items items' : List Expr} (each : List.Forall₂ Named items items') :
      Named (.sequence items) (.sequence items')

/-- **A statement, and the same with names in the places of its calls.** -/
inductive NamedStmt : Stmt → Stmt → Prop
  | expr {e e' : Expr} (inner : Named page bound e e') : NamedStmt (.expr e) (.expr e')
  | declareOnly {name : String} (other : bound name = none) :
      NamedStmt (.declare name none) (.declare name none)
  | declare {name : String} {e e' : Expr} (other : bound name = none)
      (value : Named page bound e e') :
      NamedStmt (.declare name (some e)) (.declare name (some e'))
  | leave : NamedStmt (.ret none) (.ret none)
  | ret {e e' : Expr} (value : Named page bound e e') :
      NamedStmt (.ret (some e)) (.ret (some e'))
  | branch {e e' : Expr} {yes yes' no no' : List Stmt} (condition : Named page bound e e')
      (inYes : List.Forall₂ NamedStmt yes yes') (inNo : List.Forall₂ NamedStmt no no') :
      NamedStmt (.branch e yes no) (.branch e' yes' no')

end

/-! ## Following -/

/-- **Two states whose dice are the same and whose scopes agree in all names but some**, which
have known values in the first. -/
structure Knows (bound : String → Option Value) (one other : State) : Prop where
  dice : one.dice = other.dice
  others : ∀ name, bound name = none → one.scope.get? name = other.scope.get? name
  known : ∀ name value, bound name = some value → one.scope.get? name = some value

/-- **One computation follows another** when some names are known: from such states both come to
the same and leave such states. -/
def Follows {α : Type} (bound : String → Option Value) (one other : Eval α) : Prop :=
  ∀ here there, Knows bound here there →
    (ExceptT.run one here).1 = (ExceptT.run other there).1 ∧
      Knows bound (stateAfter one here) (stateAfter other there)

namespace Follows

variable {α β : Type} {bound : String → Option Value}

theorem pure (result : α) : Follows bound (Pure.pure result) (Pure.pure result) :=
  fun _ _ knows => ⟨rfl, knows⟩

theorem throw (cause : ScriptError) :
    Follows bound (MonadExcept.throw cause : Eval α) (MonadExcept.throw cause) :=
  fun _ _ knows => ⟨rfl, knows⟩

theorem bind {first first' : Eval α} {next next' : α → Eval β} (one : Follows bound first first')
    (two : ∀ result, Follows bound (next result) (next' result)) :
    Follows bound (first >>= next) (first' >>= next') := by
  intro here there knows
  obtain ⟨same, after⟩ := one here there knows
  rw [run_bind, run_bind, stateAfter_bind, stateAfter_bind, ← same]
  cases (ExceptT.run first here).1 with
  | ok result => exact two result _ _ after
  | error cause => exact ⟨rfl, after⟩

/-- Computations that change nothing and whose results are the same. -/
theorem of_same {one other : Eval α} (still : ∀ state, stateAfter one state = state)
    (still' : ∀ state, stateAfter other state = state)
    (same : ∀ here there, Knows bound here there →
      (ExceptT.run one here).1 = (ExceptT.run other there).1) : Follows bound one other := by
  intro here there knows
  rw [still, still']
  exact ⟨same here there knows, knows⟩

end Follows

section

variable {page : String → Value} {bound : String → Option Value}

/-! ## Binding -/

/-- A name that is bound anew to one value in both scopes, and is none of those that are known. -/
theorem Knows.set {one other : State} (knows : Knows bound one other) {name : String}
    (unknown : bound name = none) (value : Value) :
    Knows bound { one with scope := one.scope.set name value }
      { other with scope := other.scope.set name value } where
  dice := knows.dice
  others found free := by
    rw [Table.get?_set, Table.get?_set, knows.others found free]
  known found value' known := by
    have apart : found ≠ name := by
      rintro rfl
      rw [unknown] at known
      nomatch known
    rw [Table.get?_set, if_neg apart]
    exact knows.known found value' known

theorem Knows.bindParams {one other : State} (knows : Knows bound one other)
    {params : List String} (unknown : ∀ name ∈ params, bound name = none) (item : Value)
    (position : Nat) :
    Knows bound { one with scope := bindParams params item position one.scope }
      { other with scope := bindParams params item position other.scope } := by
  match params with
  | [] => exact knows
  | [element] => exact knows.set (unknown element (by simp)) item
  | element :: place :: _ =>
      exact (knows.set (unknown element (by simp)) item).set (unknown place (by simp)) _

theorem follows_modify {change : State → State}
    (keeps : ∀ one other, Knows bound one other → Knows bound (change one) (change other)) :
    Follows bound (modify change : Eval PUnit) (modify change) :=
  fun _ _ knows => ⟨rfl, keeps _ _ knows⟩

theorem follows_bindName {name : String} (unknown : bound name = none) (value : Value) :
    Follows bound (bindName name value) (bindName name value) :=
  follows_modify fun _ _ knows => knows.set unknown value

/-! ## Looking up -/

theorem follows_lookupName? {name : String} (unknown : bound name = none) :
    Follows bound (lookupName? name) (lookupName? name) :=
  .of_same (fun _ => rfl) (fun _ => rfl) fun _ _ knows =>
    congrArg Except.ok (knows.others name unknown)

theorem follows_lookupName {name : String} (unknown : bound name = none) :
    Follows bound (lookupName name) (lookupName name) := by
  refine (follows_lookupName? unknown).bind fun found => ?_
  split
  · exact .pure _
  · exact .throw _

/-- A name that is known is as good as its value. -/
theorem follows_known {name : String} {value : Value} (known : bound name = some value) :
    Follows bound (lookupName name) (pure value) := by
  intro here there knows
  have looked : ExceptT.run (lookupName name) here = (.ok value, here) := by
    rw [run_lookupName, knows.known name value known]
  rw [stateAfter, looked]
  exact ⟨rfl, knows⟩

theorem follows_ofExcept (result : Except ScriptError Value) :
    Follows bound (ofExcept result) (ofExcept result) := by
  unfold ofExcept
  split
  · exact .pure _
  · exact .throw _

theorem follows_callNamed (name : String) (args : List Value) :
    Follows bound (callNamed name args) (callNamed name args) := by
  intro here there knows
  rw [stateAfter, stateAfter, run_callNamed, run_callNamed, knows.dice]
  cases callFunction? name args there.dice with
  | none => exact ⟨rfl, knows⟩
  | some found => exact ⟨rfl, ⟨rfl, knows.others, knows.known⟩⟩

/-- Calling a method with arguments that are evaluated in both runs. -/
theorem follows_callMethod {args args' : Eval (List Value)} (ofArgs : Follows bound args args')
    (receiver : Value) (name : String) :
    Follows bound
      (do
        let values ← args
        match callMethod? receiver name values with
        | some result => ofExcept result
        | none => throw (.noSuchMethod name))
      (do
        let values ← args'
        match callMethod? receiver name values with
        | some result => ofExcept result
        | none => throw (.noSuchMethod name)) := by
  refine ofArgs.bind fun values => ?_
  split
  · exact follows_ofExcept _
  · exact .throw _

/-- **A name of a page is no namespace**, and neither is the page. -/
theorem follows_namespace? {e e' : Expr} (named : Named page bound e e') :
    Follows bound (namespace? e') (namespace? (e.answered page)) := by
  cases named with
  | var other => exact (follows_lookupName? other).bind fun found => .pure _
  | @place name address known =>
      refine .of_same (fun _ => rfl) (fun _ => rfl) fun here there knows => ?_
      have found := knows.known name _ known
      have left : ExceptT.run (namespace? (.var name)) here =
          (.ok (if (here.scope.get? name).isNone then some name else none), here) := rfl
      rw [left, found]
      rfl
  | call other each =>
      rw [Expr.answered, pageAddress_eq_none other]
      exact .pure _
  | _ => exact .pure _

/-! ## Callbacks -/

theorem follows_forEach {params : List String} (unknown : ∀ name ∈ params, bound name = none)
    {body body' : Eval Value} (inBody : Follows bound body body') (position : Nat)
    (items : List Value) :
    Follows bound (forEach params body position items) (forEach params body' position items) := by
  induction items generalizing position with
  | nil => exact .pure _
  | cons item items ih =>
      refine (follows_modify fun _ _ knows => knows.bindParams unknown item position).bind
        fun _ => ?_
      exact inBody.bind fun result => (ih (position + 1)).bind fun results => .pure _

/-- A callback gives its parameters back what they had, in both runs. -/
theorem follows_withParams {α : Type} {params : List String}
    (unknown : ∀ name ∈ params, bound name = none) {inner inner' : Eval α}
    (inInner : Follows bound inner inner') :
    Follows bound (withParams params inner) (withParams params inner') := by
  intro here there knows
  obtain ⟨same, after⟩ := inInner here there knows
  have restored : ∀ (inner : Eval α) state, (stateAfter (withParams params inner) state).scope =
      restoreAll (params.map fun param => (param, state.scope.get? param))
        (stateAfter inner state).scope := fun _ _ => rfl
  refine ⟨same, ⟨after.dice, fun name free => ?_, fun name value known => ?_⟩⟩
  · rw [restored, restored, get?_restoreAll, get?_restoreAll]
    split
    · exact knows.others name free
    · exact after.others name free
  · have outside : name ∉ params := fun inside => by
      rw [unknown name inside] at known
      nomatch known
    rw [restored, get?_restoreAll, if_neg outside]
    exact after.known name value known

theorem follows_callWithCallback {params : List String}
    (unknown : ∀ name ∈ params, bound name = none) {body body' : Eval Value}
    (inBody : Follows bound body body') (items : List Value) (method : String) :
    Follows bound (callWithCallback items method params body)
      (callWithCallback items method params body') := by
  refine (follows_withParams unknown (follows_forEach unknown inBody 0 items)).bind
    fun results => ?_
  split
  · exact .pure _
  · exact .throw _

/-! ## Expressions -/

/-- **No name that is known is that of a constant** in a namespace. -/
def Unpointed (bound : String → Option Value) : Prop :=
  ∀ space key : String, bound (space ++ "." ++ key) = none

mutual

/-- **An expression with the names of pages follows the one with the pages.** -/
theorem follows_eval (plain : Unpointed bound) : (e : Expr) → (e' : Expr) → Named page bound e e' →
    Follows bound (eval e') (eval (e.answered page))
  | .literal value, _, named => by
      cases named
      rw [Expr.answered, eval]
      exact .pure _
  | .var name, _, named => by
      cases named with
      | var other =>
          rw [Expr.answered, eval]
          exact follows_lookupName other
  | .list items, _, named => by
      cases named with
      | list each =>
          rw [Expr.answered, eval, eval]
          exact (follows_evalAll plain items _ each).bind fun values => .pure _
  | .unary op operand, _, named => by
      cases named with
      | unary inner =>
          rw [Expr.answered, eval, eval]
          exact (follows_eval plain operand _ inner).bind fun value => .pure _
  | .binary op left right, _, named => by
      cases named with
      | binary inLeft inRight =>
          have ofRight := follows_eval plain right _ inRight
          rw [Expr.answered, eval, eval]
          refine (follows_eval plain left _ inLeft).bind fun a => ?_
          split
          · split
            · exact ofRight
            · exact .pure _
          · split
            · exact .pure _
            · exact ofRight
          · exact ofRight.bind fun b => follows_ofExcept _
  | .conditional condition yes no, _, named => by
      cases named with
      | conditional inCondition inYes inNo =>
          have ofYes := follows_eval plain yes _ inYes
          have ofNo := follows_eval plain no _ inNo
          rw [Expr.answered, eval, eval]
          refine (follows_eval plain condition _ inCondition).bind fun c => ?_
          split
          · exact ofYes
          · exact ofNo
  | .assign name op value, _, named => by
      cases named with
      | assign other inner =>
          have bound_ : ∀ result, Follows bound (do bindName name result; return result)
              (do bindName name result; return result) :=
            fun result => (follows_bindName other result).bind fun _ => .pure _
          rw [Expr.answered, eval, eval]
          refine (follows_eval plain value _ inner).bind fun operand => ?_
          split
          · exact (Follows.pure _).bind bound_
          · exact (follows_lookupName other).bind fun current =>
              (follows_ofExcept _).bind bound_
  | .call function args, _, named => by
      cases named with
      | place known =>
          rw [Expr.answered, pageAddress?, if_pos rfl, eval, eval]
          exact follows_known known
      | call other each =>
          rw [Expr.answered, pageAddress_eq_none other, eval, eval]
          exact (follows_evalAll plain args _ each).bind fun values =>
            follows_callNamed function values
  | .member target key, _, named => by
      cases named with
      | member inner =>
          rw [Expr.answered, eval, eval]
          refine (follows_namespace? inner).bind fun space => ?_
          split
          · next name =>
              refine (follows_lookupName? (plain name key)).bind fun constant => ?_
              split
              · exact .pure _
              · exact .throw _
          · exact (follows_eval plain target _ inner).bind fun value => .pure _
  | .index target key, _, named => by
      cases named with
      | index inTarget inKey =>
          have ofKey := follows_eval plain key _ inKey
          rw [Expr.answered, eval, eval]
          exact (follows_eval plain target _ inTarget).bind fun value =>
            ofKey.bind fun position => .pure _
  | .method target name args, _, named => by
      cases named with
      | method inTarget each =>
          have ofTarget := follows_eval plain target _ inTarget
          have ofArgs := follows_evalAll plain args _ each
          have ofCallback := follows_callback plain args _ each
          rw [Expr.answered, eval, eval]
          refine (follows_namespace? inTarget).bind fun space => ?_
          split
          · exact ofArgs.bind fun values => follows_callNamed _ values
          · refine ofTarget.bind fun receiver => ?_
            rcases ofCallback with ⟨none, none'⟩ | ⟨params, body, body', others, one, other, inBody⟩
            · rw [none, none']
              cases receiver <;> exact follows_callMethod ofArgs _ name
            · rw [one, other]
              cases receiver with
              | list items => exact follows_callWithCallback others inBody items name
              | _ => exact follows_callMethod ofArgs _ name
  | .lambda params body, _, named => by
      cases named
      rw [Expr.answered, eval, eval]
      exact .throw _
  | .sequence items, _, named => by
      cases named with
      | sequence each =>
          rw [Expr.answered, eval, eval]
          exact (follows_evalAll plain items _ each).bind fun values => .pure _

theorem follows_evalAll (plain : Unpointed bound) : (es : List Expr) → (es' : List Expr) →
    List.Forall₂ (Named page bound) es es' →
    Follows bound (evalAll es') (evalAll (answeredAll page es))
  | [], _, each => by
      cases each
      rw [answeredAll, evalAll]
      exact .pure _
  | e :: es, _, each => by
      cases each with
      | cons here later =>
          have others := follows_evalAll plain es _ later
          rw [answeredAll, evalAll, evalAll]
          exact (follows_eval plain e _ here).bind fun value => others.bind fun values => .pure _

/-- The callbacks at the heads of some arguments: there is none in either run, or both have the
same parameters. -/
theorem follows_callback (plain : Unpointed bound) : (args : List Expr) → (args' : List Expr) →
    List.Forall₂ (Named page bound) args args' →
    (callback? args' = none ∧ callback? (answeredAll page args) = none) ∨
      ∃ params body body', (∀ name ∈ params, bound name = none) ∧
        callback? args' = some (params, body') ∧
        callback? (answeredAll page args) = some (params, body) ∧ Follows bound body' body
  | [], _, each => by
      cases each
      exact .inl ⟨rfl, rfl⟩
  | e :: args, _, each => by
      cases each with
      | cons here later =>
          cases here with
          | lambda others inner =>
              exact .inr ⟨_, _, _, others, rfl, rfl, follows_eval plain _ _ inner⟩
          | place known => exact .inl ⟨rfl, rfl⟩
          | call other each =>
              refine .inl ⟨rfl, ?_⟩
              rw [answeredAll, Expr.answered, pageAddress_eq_none other]
              rfl
          | _ => exact .inl ⟨rfl, rfl⟩

end

/-! ## Scripts -/

mutual

theorem follows_run (plain : Unpointed bound) : (stmt : Stmt) → (stmt' : Stmt) →
    NamedStmt page bound stmt stmt' →
    Follows bound (run stmt') (run (stmt.answered page))
  | .expr e, _, named => by
      cases named with
      | expr inner =>
          rw [Stmt.answered, run, run]
          exact (follows_eval plain e _ inner).bind fun value => .pure _
  | .declare name none, _, named => by
      cases named with
      | declareOnly other =>
          rw [Stmt.answered, run]
          exact (Follows.pure _).bind fun initial =>
            (follows_bindName other _).bind fun _ => .pure _
  | .declare name (some value), _, named => by
      cases named with
      | declare other inner =>
          rw [Stmt.answered, run, run]
          exact (follows_eval plain value _ inner).bind fun initial =>
            (follows_bindName other _).bind fun _ => .pure _
  | .ret none, _, named => by
      cases named
      rw [Stmt.answered, run]
      exact .pure _
  | .ret (some value), _, named => by
      cases named with
      | ret inner =>
          rw [Stmt.answered, run, run]
          exact (follows_eval plain value _ inner).bind fun result => .pure _
  | .branch condition yes no, _, named => by
      cases named with
      | branch inCondition inYes inNo =>
          have ofYes := follows_runAll plain yes _ inYes
          have ofNo := follows_runAll plain no _ inNo
          rw [Stmt.answered, run, run]
          refine (follows_eval plain condition _ inCondition).bind fun c => ?_
          split
          · exact ofYes
          · exact ofNo

theorem follows_runAll (plain : Unpointed bound) : (stmts : List Stmt) → (stmts' : List Stmt) →
    List.Forall₂ (NamedStmt page bound) stmts stmts' →
    Follows bound (runAll stmts') (runAll (answeredThroughout page stmts))
  | [], _, each => by
      cases each
      rw [answeredThroughout, runAll]
      exact .pure _
  | stmt :: stmts, _, each => by
      cases each with
      | cons here later =>
          have others := follows_runAll plain stmts _ later
          rw [answeredThroughout, runAll, runAll]
          refine (follows_run plain stmt _ here).bind fun returned => ?_
          split
          · exact .pure _
          · exact others

end

/-- **A script with the names of pages comes to the same as the script with the pages**, in a
scope that has the pages under these names and agrees in all others. -/
theorem outcome_of_named (plain : Unpointed bound) {program program' : List Stmt}
    (named : List.Forall₂ (NamedStmt page bound) program program') {one other : Scope}
    (others : ∀ name, bound name = none → one.get? name = other.get? name)
    (known : ∀ name value, bound name = some value → one.get? name = some value) (dice : Dice) :
    outcome (runProgram program') one dice =
      outcome (runProgram (answeredThroughout page program)) other dice := by
  have follows : Follows bound (runProgram program')
      (runProgram (answeredThroughout page program)) :=
    (follows_runAll plain program program' named).bind fun _ => .pure _
  exact (follows ⟨one, dice⟩ ⟨other, dice⟩ ⟨rfl, others, known⟩).1

end

end ChatTemplate.Script
