/-
# ChatTemplate.Decimal.Reader -- floats from text

`read?` takes a whole text: an optional sign, then digits with at most one point
among or beside them and an optional exponent, or one of the words for infinity
and for what is no number, in letters of either case.  The result is the float
nearest to the decimal that was written.
-/
import ChatTemplate.Text.Integer
import ChatTemplate.Text.Search

namespace ChatTemplate.Decimal

set_option autoImplicit false

/-- The exponent after its letter: digits with an optional sign. -/
def readExponent? (text : List Char) : Option Int :=
  match text with
  | '-' :: digits => (Text.readDigits? 10 digits).map fun n => -(n : Int)
  | '+' :: digits => (Text.readDigits? 10 digits).map Int.ofNat
  | digits => (Text.readDigits? 10 digits).map Int.ofNat

/-- From here on the nearest float is infinite. -/
def tooLarge : Nat := Nat.pow 2 1024

/-- `digits · 10 ^ exponent`, rounded to the nearest float.  Numbers that are too
large are found out first, because there is no limit to how many digits they
have.  With more places than the digits have binary digits the number is below
one, and the power of ten is not even computed. -/
def ofDecimal (digits : Nat) (exponent : Int) : Float :=
  if 0 ≤ exponent then
    if tooLarge ≤ digits then 1.0 / 0.0 else Float.ofScientific digits false exponent.toNat
  else
    let places := (-exponent).toNat
    if places ≤ digits.log2 && tooLarge * Nat.pow 10 places ≤ digits then 1.0 / 0.0
    else Float.ofScientific digits true places

/-- Digits, a point and an exponent, without a sign in front. -/
def readMagnitude? (text : List Char) : Option Float :=
  let whole := text.takeWhile Char.isDigit
  let rest := text.dropWhile Char.isDigit
  let (places, rest) :=
    match rest with
    | '.' :: rest => (rest.takeWhile Char.isDigit, rest.dropWhile Char.isDigit)
    | rest => ([], rest)
  match Text.readDigits? 10 (whole ++ places) with
  | none => none
  | some digits =>
      match rest with
      | [] => some (ofDecimal digits (-places.length))
      | c :: rest =>
          if c = 'e' ∨ c = 'E' then
            (readExponent? rest).map fun e => ofDecimal digits (e - places.length)
          else none

def readUnsigned? (text : List Char) : Option Float :=
  let word := Text.asciiLower text
  if word = "inf".toList ∨ word = "infinity".toList then some (1.0 / 0.0)
  else if word = "nan".toList then some (0.0 / 0.0)
  else readMagnitude? text

/-- The float that a text spells. -/
def read? (text : List Char) : Option Float :=
  match text with
  | '-' :: rest => (readUnsigned? rest).map (- ·)
  | '+' :: rest => readUnsigned? rest
  | rest => readUnsigned? rest

end ChatTemplate.Decimal
