/-
# ChatTemplate.Script.Arithmetic -- arithmetic on values

Two whole numbers are added, subtracted and multiplied as whole numbers while
the result fits a word; everything else goes through floats.  A float result
becomes a whole number again when it is one and no operand looked fractional:
neither was a float, nor text with a point in it.
-/
import ChatTemplate.Script.Error
import ChatTemplate.Script.Value
import ChatTemplate.Text.Search

namespace ChatTemplate.Script.Value

set_option autoImplicit false

/-- The values that `+` adds rather than joins as text. -/
def isNumeric : Value → Bool
  | .int _ => true
  | .float _ => true
  | .bool _ => true
  | .null => true
  | _ => false

/-- A float, or text with a point. -/
def looksFractional : Value → Bool
  | .float _ => true
  | .str s => Text.contains ['.'] s.toList
  | _ => false

/-- The value of a float result. -/
def ofResult (x : Float) (fractional : Bool) : Value :=
  if fractional || !Decimal.isIntegral x then .float x else .int (Decimal.toInt64 x)

/-- Combines two values as floats. -/
def combine (f : Float → Float → Float) (a b : Value) : Value :=
  ofResult (f a.toFloat b.toFloat) (a.looksFractional || b.looksFractional)

/-- Combines two whole numbers as such if the result fits, anything else as
floats. -/
def combineExact (exact : Int → Int → Int) (f : Float → Float → Float) (a b : Value) :
    Value :=
  match a, b with
  | .int m, .int n =>
      let result := exact m.toInt n.toInt
      if Text.inInt64 result then .int (Int64.ofInt result) else combine f a b
  | _, _ => combine f a b

/-- The sum of two numbers, or the two texts one after the other. -/
def add (a b : Value) : Value :=
  if a.isNumeric && b.isNumeric then combineExact (· + ·) (· + ·) a b
  else .str (String.ofList (a.chars ++ b.chars))

def sub (a b : Value) : Value :=
  combineExact (· - ·) (· - ·) a b

def mul (a b : Value) : Value :=
  combineExact (· * ·) (· * ·) a b

def div (a b : Value) : Except ScriptError Value :=
  if b.toFloat == 0.0 then .error .divisionByZero else .ok (combine (· / ·) a b)

def rem (a b : Value) : Except ScriptError Value :=
  if b.toFloat == 0.0 then .error .moduloByZero else .ok (combine Decimal.rem a b)

def pow (a b : Value) : Value :=
  combine Float.pow a b

/-- The negation; the smallest word has none among the words and becomes a
float. -/
def neg : Value → Value
  | .int n => if Text.inInt64 (-n.toInt) then .int (-n) else .float (-(Decimal.ofInt n.toInt))
  | .float x => .float (-x)
  | value => ofResult (-value.toFloat) false

end ChatTemplate.Script.Value
