/-
# ChatTemplate.Script.Function -- the functions that scripts can call

Functions stand by themselves (`floor(x)`) or behind `Math.` or `_.`, which make
no difference.  `callFunction?` gives nothing for a name that is no function.
Only `random` and `sample` look at the dice.
-/
import ChatTemplate.Dice
import ChatTemplate.Script.Arithmetic
import ChatTemplate.Script.Order

namespace ChatTemplate.Script

set_option autoImplicit false

/-- The name without its namespace. -/
def withoutNamespace (name : String) : String :=
  match Text.stripPrefix? "Math.".toList name.toList with
  | some rest => String.ofList rest
  | none =>
      match Text.stripPrefix? "_.".toList name.toList with
      | some rest => String.ofList rest
      | none => name

/-! ## Arguments -/

/-- The first argument of a function or method. -/
def firstArg (name : String) (args : List Value) : Except ScriptError Value :=
  match args.head? with
  | some value => .ok value
  | none => .error (.tooFewArguments name)

/-- The argument at a position. -/
def argAt (name : String) (args : List Value) (position : Nat) : Except ScriptError Value :=
  match args[position]? with
  | some value => .ok value
  | none => .error (.missingArgument name position)

/-! ## Numbers -/

/-- A float result as a whole number when it is one of moderate size. -/
def wholeOrFloat (x : Float) : Value :=
  if Decimal.isIntegral x && x.abs < 9.0e15 then .int (Decimal.toInt64 x) else .float x

def absolute : Value → Value
  | .int n => if n.toInt.natAbs < Text.signedLimit then .int (Int64.ofInt n.toInt.natAbs)
      else .float (Decimal.ofInt n.toInt).abs
  | value => .float value.toFloat.abs

/-- The first of the values that no later one is before, in the sense of
`before`. -/
def extreme (before : Ordering → Bool) : Value → List Value → Value
  | best, [] => best
  | best, value :: values =>
      extreme before (if before (value.order best) then value else best) values

/-- The functions of one number with a number as result. -/
def numberFunction? : String → Option (Float → Value)
  | "floor" => some fun x => wholeOrFloat (Decimal.floor x)
  | "ceil" => some fun x => wholeOrFloat (Decimal.ceil x)
  | "round" => some fun x => wholeOrFloat (Decimal.round x)
  | "trunc" => some fun x => wholeOrFloat (Decimal.trunc x)
  | "sqrt" => some fun x => .float x.sqrt
  | "sin" => some fun x => .float x.sin
  | "cos" => some fun x => .float x.cos
  | "tan" => some fun x => .float x.tan
  | "exp" => some fun x => .float x.exp
  | "log" => some fun x => .float x.log
  | "log10" => some fun x => .float x.log10
  | _ => none

/-! ## Conversions -/

/-- The number of elements of a list or map, or of characters of anything else. -/
def sizeOfValue : Value → Nat
  | .list items => items.length
  | .map fields => fields.length
  | value => value.chars.length

/-- A sign, if there is one, and the digits that follow. -/
def leadingDigits : List Char → List Char
  | '-' :: text => '-' :: text.takeWhile Char.isDigit
  | '+' :: text => '+' :: text.takeWhile Char.isDigit
  | text => text.takeWhile Char.isDigit

/-- The whole number that a value's text begins with, white space aside. -/
def parseInt (value : Value) : Value :=
  match Text.readInt64? (leadingDigits (Text.trim value.chars)) with
  | some n => .int n
  | none => .float Value.notANumber

/-- The functions of one value that need no dice. -/
def valueFunction? : String → Option (Value → Value)
  | "abs" => some absolute
  | "String" => some fun value => .str value.text
  | "str" => some fun value => .str value.text
  | "Number" => some fun value => wholeOrFloat value.toFloat
  | "parseFloat" => some fun value => wholeOrFloat value.toFloat
  | "parseInt" => some parseInt
  | "isNaN" => some fun value => .bool value.toFloat.isNaN
  | "size" => some fun value => .ofLength (sizeOfValue value)
  | "len" => some fun value => .ofLength (sizeOfValue value)
  | _ => none

/-! ## Chance -/

/-- A fraction below one; with bounds, a whole number between them, where a
single bound stands for zero and that bound. -/
def random (args : List Value) (dice : Dice) : Value × Dice :=
  match args with
  | [] =>
      let (x, dice) := dice.fraction
      (.float x, dice)
  | [high] =>
      let (n, dice) := dice.between 0 high.toInt
      (.int n, dice)
  | low :: high :: _ =>
      let (n, dice) := dice.between low.toInt high.toInt
      (.int n, dice)

/-- An element of a list, null when there is none. -/
def sample (value : Value) (dice : Dice) : Value × Dice :=
  match value with
  | .list items =>
      let (item, dice) := dice.pick items
      (item.getD .null, dice)
  | _ => (.null, dice)

/-! ## Calls -/

/-- Calls the function of a name, if there is one. -/
def callFunction? (name : String) (args : List Value) (dice : Dice) :
    Option (Except ScriptError Value × Dice) :=
  let bare := withoutNamespace name
  match numberFunction? bare with
  | some f => some ((argAt name args 0).map fun value => f value.toFloat, dice)
  | none =>
      match valueFunction? bare with
      | some f => some ((firstArg name args).map f, dice)
      | none =>
          match bare with
          | "pow" =>
              some (do
                let base ← argAt name args 0
                let exponent ← argAt name args 1
                return wholeOrFloat (Float.pow base.toFloat exponent.toFloat), dice)
          | "min" => some (pickExtreme name (· == .lt) args, dice)
          | "max" => some (pickExtreme name (· == .gt) args, dice)
          | "random" =>
              let (value, dice) := random args dice
              some (.ok value, dice)
          | "sample" =>
              match firstArg name args with
              | .ok value =>
                  let (item, dice) := sample value dice
                  some (.ok item, dice)
              | .error e => some (.error e, dice)
          | _ => none
where
  pickExtreme (name : String) (before : Ordering → Bool) (args : List Value) :
      Except ScriptError Value :=
    match args with
    | [] => .error (.tooFewArguments name)
    | value :: values => .ok (extreme before value values)

end ChatTemplate.Script
