/-
# ChatTemplate.Decimal.Binary -- floating-point numbers as exact fractions

A finite `Float` is a whole number times a power of two.  `Binary.ofFloat` reads
the two off its bits, and everything exact is done with them: writing digits,
cutting off the fraction, the remainder of a division.  `Binary.toFloat` goes
back, rounding to the nearest number when there are too many digits.
-/
namespace ChatTemplate.Decimal

set_option autoImplicit false

/-- A float taken apart: `mantissa · 2 ^ exponent` with a sign, or one of the
values that are no number. -/
inductive Binary where
  | nan
  | infinite (negative : Bool)
  | finite (negative : Bool) (mantissa : Nat) (exponent : Int)

namespace Binary

/-- The value of the sign in the bits of a float. -/
def signBit : Nat := 0x8000000000000000

/-- The value of a mantissa's leading one, which is not among the bits. -/
def hiddenBit : Nat := 0x10000000000000

/-- Fifty-two bits of mantissa, eleven of exponent and the sign; the smallest
exponent stands for numbers without a leading one. -/
def ofFloat (x : Float) : Binary :=
  let bits := x.toBits.toNat
  let negative := signBit ≤ bits
  let exponent : Nat := bits / hiddenBit % 0x800
  let mantissa : Nat := bits % hiddenBit
  if exponent = 2047 then
    if mantissa = 0 then .infinite negative else .nan
  else if exponent = 0 then .finite negative mantissa (-1074)
  else .finite negative (mantissa + hiddenBit) ((exponent : Int) - 1075)

/-- The float nearest to `mantissa · 2 ^ exponent`.  A negative power of two is
the same power of five over a power of ten. -/
def nearest (mantissa : Nat) (exponent : Int) : Float :=
  if 0 ≤ exponent then Float.ofScientific (mantissa * Nat.pow 2 exponent.toNat) false 0
  else
    let places := (-exponent).toNat
    Float.ofScientific (mantissa * Nat.pow 5 places) true places

def signed (negative : Bool) (x : Float) : Float :=
  if negative then -x else x

def toFloat : Binary → Float
  | .nan => 0.0 / 0.0
  | .infinite negative => signed negative (1.0 / 0.0)
  | .finite negative mantissa exponent => signed negative (nearest mantissa exponent)

/-- The whole part of `mantissa · 2 ^ exponent`. -/
def wholePart (mantissa : Nat) (exponent : Int) : Nat :=
  if 0 ≤ exponent then mantissa * Nat.pow 2 exponent.toNat
  else mantissa / Nat.pow 2 (-exponent).toNat

/-- Whether `mantissa · 2 ^ exponent` has no fraction. -/
def isWhole (mantissa : Nat) (exponent : Int) : Bool :=
  0 ≤ exponent || mantissa % Nat.pow 2 (-exponent).toNat == 0

end Binary

/-! ## Whole numbers and floats -/

def ofInt (n : Int) : Float :=
  Binary.signed (n < 0) (Float.ofScientific n.natAbs false 0)

def isFinite (x : Float) : Bool :=
  match Binary.ofFloat x with
  | .finite .. => true
  | _ => false

/-- Whether a float is a whole number. -/
def isIntegral (x : Float) : Bool :=
  match Binary.ofFloat x with
  | .finite _ mantissa exponent => Binary.isWhole mantissa exponent
  | _ => false

/-- The whole number a finite float holds once its fraction is cut off. -/
def truncated? (x : Float) : Option Int :=
  match Binary.ofFloat x with
  | .finite negative mantissa exponent =>
      let whole : Int := Binary.wholePart mantissa exponent
      some (if negative then -whole else whole)
  | _ => none

/-- The nearest word to a float: the fraction is cut off, numbers out of range
become the extreme words, and what is no number becomes zero. -/
def toInt64 (x : Float) : Int64 :=
  match Binary.ofFloat x with
  | .nan => 0
  | .infinite negative => if negative then Int64.minValue else Int64.maxValue
  | .finite .. =>
      let whole := (truncated? x).getD 0
      if whole < Int64.minValue.toInt then Int64.minValue
      else if Int64.maxValue.toInt < whole then Int64.maxValue
      else Int64.ofInt whole

/-! ## Rounding to whole numbers

Each function leaves alone what is whole already or no number, and keeps the
sign of a zero it produces. -/

/-- Applies a rounding of the magnitude, which is told the whole part and twice
the fraction compared with one. -/
def roundWith (up : (negative : Bool) → (aboveOrAtHalf : Bool) → Bool) (x : Float) : Float :=
  match Binary.ofFloat x with
  | .finite negative mantissa exponent =>
      if Binary.isWhole mantissa exponent then x
      else
        let unit := Nat.pow 2 (-exponent).toNat
        let whole := mantissa / unit
        let atHalf := unit ≤ 2 * (mantissa % unit)
        let result := if up negative atHalf then whole + 1 else whole
        Binary.signed negative (Float.ofScientific result false 0)
  | _ => x

def floor (x : Float) : Float :=
  roundWith (fun negative _ => negative) x

def ceil (x : Float) : Float :=
  roundWith (fun negative _ => !negative) x

def trunc (x : Float) : Float :=
  roundWith (fun _ _ => false) x

/-- A half goes away from zero. -/
def round (x : Float) : Float :=
  roundWith (fun _ atHalf => atHalf) x

/-! ## Remainder -/

/-- What is left of `x` after taking away `y` as often as it fits, with the sign
of `x`.  Both numbers are brought to the smaller exponent first, so the
remainder is exact. -/
def rem (x y : Float) : Float :=
  match Binary.ofFloat x, Binary.ofFloat y with
  | .finite negative m e, .finite _ n f =>
      if n = 0 then 0.0 / 0.0
      else
        let low := min e f
        let left := m * Nat.pow 2 (e - low).toNat % (n * Nat.pow 2 (f - low).toNat)
        Binary.signed negative (Binary.nearest left low)
  | .finite .., .infinite _ => x
  | _, _ => 0.0 / 0.0

end ChatTemplate.Decimal
