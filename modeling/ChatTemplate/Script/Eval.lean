/-
# ChatTemplate.Script.Eval -- running scripts

Evaluation follows the tree.  It carries a scope, which assignments and
declarations change, and the dice; both are kept when a script fails, so what a
script did before it failed can be seen.

A list method called with a callback binds the parameters for one element after
the other in the same scope, and afterwards gives them back the bindings they
had (`withParams`), also when the callback failed.
-/
import ChatTemplate.Script.Method
import ChatTemplate.Script.Scope

namespace ChatTemplate.Script

set_option autoImplicit false

/-- What a script works on. -/
structure State where
  scope : Scope
  dice : Dice

/-- A computation that may fail, leaving a state in either case. -/
abbrev Eval := ExceptT ScriptError (StateM State)

def lookupName? (name : String) : Eval (Option Value) :=
  return (← get).scope.get? name

def lookupName (name : String) : Eval Value := do
  match ← lookupName? name with
  | some value => return value
  | none => throw (.undefined name)

def bindName (name : String) (value : Value) : Eval Unit :=
  modify fun state => { state with scope := state.scope.set name value }

/-- The name of a target that stands for a namespace: a bare name without a
binding. -/
def namespace? (target : Expr) : Eval (Option String) := do
  match target.bareName? with
  | some name => return if (← lookupName? name).isNone then some name else none
  | none => return none

def ofExcept (result : Except ScriptError Value) : Eval Value :=
  match result with
  | .ok value => return value
  | .error e => throw e

/-- Calls a function by its full name. -/
def callNamed (name : String) (args : List Value) : Eval Value := do
  match callFunction? name args (← get).dice with
  | some (result, dice) => do
      modify fun state => { state with dice := dice }
      ofExcept result
  | none => throw (.undefined name)

/-! ## Operators -/

def applyUnary : UnaryOp → Value → Value
  | .neg, value => value.neg
  | .plus, .int n => .int n
  | .plus, value => .float value.toFloat
  | .not, value => .bool !value.truthy
  | .bitNot, value => .int (~~~value.toInt)

/-- The operators that evaluate both operands first. -/
def applyBinary (op : BinaryOp) (a b : Value) : Except ScriptError Value :=
  match op with
  | .add => .ok (a.add b)
  | .sub => .ok (a.sub b)
  | .mul => .ok (a.mul b)
  | .div => a.div b
  | .rem => a.rem b
  | .pow => .ok (a.pow b)
  | .eq => .ok (.bool (a.looseEq b))
  | .ne => .ok (.bool !(a.looseEq b))
  | .strictEq => .ok (.bool (a.strictEq b))
  | .strictNe => .ok (.bool !(a.strictEq b))
  | .lt => .ok (.bool (Value.ordered (· == .lt) a b))
  | .le => .ok (.bool (Value.ordered (· != .gt) a b))
  | .gt => .ok (.bool (Value.ordered (· == .gt) a b))
  | .ge => .ok (.bool (Value.ordered (· != .lt) a b))
  | .bitAnd => .ok (.int (a.toInt &&& b.toInt))
  | .bitOr => .ok (.int (a.toInt ||| b.toInt))
  | .bitXor => .ok (.int (a.toInt ^^^ b.toInt))
  | .shiftLeft => .ok (.int (a.toInt <<< (b.toInt &&& 63)))
  | .shiftRight => .ok (.int (a.toInt >>> (b.toInt &&& 63)))
  | .and => .ok (if a.truthy then b else a)
  | .or => .ok (if a.truthy then a else b)

/-- The new value of a variable that an assignment operator combines with
`value`. -/
def applyAssign (op : AssignOp) (current value : Value) : Except ScriptError Value :=
  match op with
  | .set => .ok value
  | .add => .ok (current.add value)
  | .sub => .ok (current.sub value)
  | .mul => .ok (current.mul value)
  | .div => current.div value
  | .rem => current.rem value

/-! ## Callbacks -/

/-- Binds the first parameter to an element and the second to its position. -/
def bindParams (params : List String) (item : Value) (position : Nat) (scope : Scope) : Scope :=
  match params with
  | [] => scope
  | [element] => scope.set element item
  | element :: place :: _ => (scope.set element item).set place (.ofLength position)

/-- Runs a callback for one element after the other. -/
def forEach (params : List String) (body : Eval Value) : Nat → List Value → Eval (List Value)
  | _, [] => return []
  | position, item :: items => do
      modify fun state => { state with scope := bindParams params item position state.scope }
      let result ← body
      let results ← forEach params body (position + 1) items
      return result :: results

/-- Gives names back the bindings they had, in order. -/
def restoreAll (saved : List (String × Option Value)) (scope : Scope) : Scope :=
  saved.foldl (fun scope binding => scope.restore binding.1 binding.2) scope

/-- Runs a computation and gives the parameters back their bindings, whether it
failed or not. -/
def withParams {α : Type} (params : List String) (run : Eval α) : Eval α :=
  ExceptT.mk fun state =>
    let saved := params.map fun name => (name, state.scope.get? name)
    let (result, after) := ExceptT.run run state
    (result, { after with scope := restoreAll saved after.scope })

/-- What a list method makes of its elements and the callback's results. -/
def callbackResult? (method : String) (items results : List Value) : Option Value :=
  match method with
  | "map" => some (.list results)
  | "filter" =>
      some (.list (((items.zip results).filter fun pair => pair.2.truthy).map fun pair => pair.1))
  | "find" =>
      let found := (items.zip results).find? fun pair => pair.2.truthy
      some ((found.map fun pair => pair.1).getD .null)
  | "findIndex" => some (ofPosition? (results.findIdx? Value.truthy))
  | "some" => some (.bool (results.any Value.truthy))
  | "every" => some (.bool (results.all Value.truthy))
  | _ => none

/-- Calls a list method with a callback. -/
def callWithCallback (items : List Value) (method : String) (params : List String)
    (body : Eval Value) : Eval Value := do
  let results ← withParams params (forEach params body 0 items)
  match callbackResult? method items results with
  | some value => return value
  | none => throw (.takesNoCallback method)

/-! ## Expressions -/

mutual

def eval : Expr → Eval Value
  | .literal value => return value
  | .var name => lookupName name
  | .list items => do
      let values ← evalAll items
      return .list values
  | .unary op operand => do
      let value ← eval operand
      return applyUnary op value
  | .binary op left right => do
      let a ← eval left
      match op with
      | .and => if a.truthy then eval right else return a
      | .or => if a.truthy then return a else eval right
      | _ => do
          let b ← eval right
          ofExcept (applyBinary op a b)
  | .conditional condition yes no => do
      let c ← eval condition
      if c.truthy then eval yes else eval no
  | .assign name op value => do
      let operand ← eval value
      let result ←
        match op with
        | .set => pure operand
        | _ => do
            let current ← lookupName name
            ofExcept (applyAssign op current operand)
      bindName name result
      return result
  | .call function args => do
      let values ← evalAll args
      callNamed function values
  | .member target key => do
      match ← namespace? target with
      | some name => do
          match ← lookupName? (name ++ "." ++ key) with
          | some value => return value
          | none => throw (.undefined name)
      | none => do
          let value ← eval target
          return value.member key
  | .index target key => do
      let value ← eval target
      let position ← eval key
      return value.index position
  | .method target name args => do
      match ← namespace? target with
      | some space => do
          let values ← evalAll args
          callNamed (space ++ "." ++ name) values
      | none => do
          let receiver ← eval target
          match receiver, callback? args with
          | .list items, some (params, body) => callWithCallback items name params body
          | _, _ => do
              let values ← evalAll args
              match callMethod? receiver name values with
              | some result => ofExcept result
              | none => throw (.noSuchMethod name)
  | .lambda _ _ => throw .strayCallback
  | .sequence items => do
      let values ← evalAll items
      return values.getLastD .null

/-- Evaluates one expression after the other. -/
def evalAll : List Expr → Eval (List Value)
  | [] => return []
  | e :: es => do
      let value ← eval e
      let values ← evalAll es
      return value :: values

/-- The callback that a list of arguments begins with, ready to run. -/
def callback? : List Expr → Option (List String × Eval Value)
  | .lambda params body :: _ => some (params, eval body)
  | _ => none

end

/-! ## Statements -/

mutual

/-- Runs a statement; a result means that the script returned. -/
def run : Stmt → Eval (Option Value)
  | .expr e => do
      let _ ← eval e
      return none
  | .declare name value => do
      let initial ←
        match value with
        | some e => eval e
        | none => pure .null
      bindName name initial
      return none
  | .ret value => do
      match value with
      | some e => return some (← eval e)
      | none => return some .null
  | .branch condition yes no => do
      let c ← eval condition
      if c.truthy then runAll yes else runAll no

/-- Runs statements up to the first that returns. -/
def runAll : List Stmt → Eval (Option Value)
  | [] => return none
  | stmt :: stmts => do
      match ← run stmt with
      | some value => return some value
      | none => runAll stmts

end

/-- Runs a script; one that does not return gives null. -/
def runProgram (program : List Stmt) : Eval Value := do
  return (← runAll program).getD .null

end ChatTemplate.Script
