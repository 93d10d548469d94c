/-
# ChatTemplate.Script.Order -- comparing values

Values are compared as numbers when both read as numbers and as text otherwise.
`looseEq` is equality up to that comparison, except that null equals only
itself and that lists and maps are compared part by part (`same`).  `strictEq`
does not turn one kind into another.
-/
import ChatTemplate.Script.Value

namespace ChatTemplate.Script.Value

set_option autoImplicit false

/-- The order of two floats, if neither fails to be a number. -/
def floatOrder? (x y : Float) : Option Ordering :=
  if x < y then some .lt
  else if x == y then some .eq
  else if y < x then some .gt
  else none

def textOrder (a b : String) : Ordering :=
  if a < b then .lt else if a = b then .eq else .gt

/-- The order of two values.  Numbers that cannot be ordered count as equal. -/
def order (a b : Value) : Ordering :=
  match a, b with
  | .str s, .str t =>
      match Decimal.read? (Text.trim s.toList), Decimal.read? (Text.trim t.toList) with
      | some x, some y => (floatOrder? x y).getD .eq
      | _, _ => textOrder s t
  | .str _, _ => (floatOrder? a.toFloat b.toFloat).getD (textOrder a.text b.text)
  | _, .str _ => (floatOrder? a.toFloat b.toFloat).getD (textOrder a.text b.text)
  | _, _ => (floatOrder? a.toFloat b.toFloat).getD .eq

mutual

/-- Equal kind and equal content, part by part. -/
def same : Value → Value → Bool
  | .null, .null => true
  | .bool a, .bool b => a == b
  | .int m, .int n => m == n
  | .float x, .float y => x == y
  | .str s, .str t => s == t
  | .list items, .list others => sameItems items others
  | .map fields, .map others => sameFields fields others
  | _, _ => false

def sameItems : List Value → List Value → Bool
  | [], [] => true
  | a :: items, b :: others => same a b && sameItems items others
  | _, _ => false

def sameFields : List (String × Value) → List (String × Value) → Bool
  | [], [] => true
  | (name, a) :: fields, (other, b) :: others =>
      name == other && same a b && sameFields fields others
  | _, _ => false

end

def isContainer : Value → Bool
  | .list _ => true
  | .map _ => true
  | _ => false

/-- The equality `==`. -/
def looseEq (a b : Value) : Bool :=
  if a.isNull || b.isNull then a.isNull && b.isNull
  else if a.isContainer || b.isContainer then same a b
  else order a b == .eq

/-- The equality `===`; whole numbers and floats are one kind. -/
def strictEq : Value → Value → Bool
  | .int m, .int n => Decimal.ofInt m.toInt == Decimal.ofInt n.toInt
  | .int m, .float y => Decimal.ofInt m.toInt == y
  | .float x, .int n => x == Decimal.ofInt n.toInt
  | .float x, .float y => x == y
  | .str s, .str t => s == t
  | .bool a, .bool b => a == b
  | .null, .null => true
  | _, _ => false

/-- Whether the order of two values is one of those wanted; what is no number
is in no order with anything, two texts apart. -/
def ordered (wanted : Ordering → Bool) (a b : Value) : Bool :=
  match a, b with
  | .str _, .str _ => wanted (order a b)
  | _, _ => if a.toFloat.isNaN || b.toFloat.isNaN then false else wanted (order a b)

end ChatTemplate.Script.Value
