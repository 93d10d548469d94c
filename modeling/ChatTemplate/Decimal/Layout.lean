/-
# ChatTemplate.Decimal.Layout -- floats as text

How a float is spelled is a choice of the place it appears in: chat text never
uses an exponent, JSON uses one outside a range and keeps a fraction on whole
numbers, diagnostics have their own range.  A `Layout` is one such choice, and
`Layout.write` is the one writer.  `fixed` writes a given number of places.
-/
import ChatTemplate.Decimal.Shortest
import ChatTemplate.Text.Integer

namespace ChatTemplate.Decimal

set_option autoImplicit false

/-- How the shortest decimal of a float is laid out. -/
structure Layout where
  /-- Decimal exponents of the first digit that are written without an exponent;
  `none` writes every number positionally. -/
  positional : Option (Int × Int)
  /-- Whole numbers keep a zero after the point. -/
  fraction : Bool
  /-- A positive exponent has a plus sign. -/
  plus : Bool
  tie : Tie
  nan : String
  infinity : String

/-- Chat text and the values of scripts: digits only, however many. -/
def Layout.plain : Layout where
  positional := none
  fraction := false
  plus := false
  tie := .up
  nan := "NaN"
  infinity := "inf"

/-- JSON text: a point is always there, and tiny or huge numbers have an
exponent.  JSON has no word for what is no number. -/
def Layout.json : Layout where
  positional := some (-5, 15)
  fraction := true
  plus := true
  tie := .even
  nan := "null"
  infinity := "null"

/-- Diagnostics: as JSON, with a narrower range and no plus sign. -/
def Layout.diagnostic : Layout where
  positional := some (-4, 15)
  fraction := true
  plus := false
  tie := .up
  nan := "NaN"
  infinity := "inf"

/-- `digits · 10 ^ p` written positionally. -/
def positionalText (fraction : Bool) (digits : List Char) (p : Int) : List Char :=
  if 0 ≤ p then
    digits ++ List.replicate p.toNat '0' ++ (if fraction then ['.', '0'] else [])
  else
    let places := (-p).toNat
    if places < digits.length then
      digits.take (digits.length - places) ++ '.' :: digits.drop (digits.length - places)
    else '0' :: '.' :: List.replicate (places - digits.length) '0' ++ digits

/-- One digit, the others after a point, and the exponent of the first. -/
def scientificText (plus : Bool) (digits : List Char) (exponent : Int) : List Char :=
  let tail := digits.drop 1
  digits.take 1 ++ (if tail.isEmpty then [] else '.' :: tail) ++ 'e' ::
    ((if plus && 0 ≤ exponent then ['+'] else []) ++ Text.writeInt exponent)

/-- The digits of a positive number, laid out. -/
def Layout.positive (layout : Layout) (mantissa : Nat) (exponent : Int) : List Char :=
  let (digits, p) := shortest layout.tie mantissa exponent
  let digits := Text.writeNat digits
  let leading : Int := p + digits.length - 1
  match layout.positional with
  | some (first, last) =>
      if first ≤ leading && leading ≤ last then positionalText layout.fraction digits p
      else scientificText layout.plus digits leading
  | none => positionalText layout.fraction digits p

def Layout.write (layout : Layout) (x : Float) : String :=
  let sign (negative : Bool) : List Char := if negative then ['-'] else []
  match Binary.ofFloat x with
  | .nan => layout.nan
  | .infinite negative => String.ofList (sign negative ++ layout.infinity.toList)
  | .finite negative mantissa exponent =>
      let magnitude :=
        if mantissa = 0 then positionalText layout.fraction ['0'] 0
        else layout.positive mantissa exponent
      String.ofList (sign negative ++ magnitude)

/-! ## A given number of places -/

/-- The nearest whole number to `num / den`, a half going to the even one. -/
def roundHalfEven (num den : Nat) : Nat :=
  let whole := num / den
  let twice := 2 * (num % den)
  if twice < den then whole
  else if den < twice then whole + 1
  else whole + whole % 2

/-- A float with exactly `places` digits after the point. -/
def fixed (places : Nat) (x : Float) : String :=
  match Binary.ofFloat x with
  | .nan => "NaN"
  | .infinite negative => if negative then "-inf" else "inf"
  | .finite negative mantissa exponent =>
      let exact := Ratio.binary (mantissa * Nat.pow 10 places) exponent
      let digits := Text.writeNat (roundHalfEven exact.num exact.den)
      let padded := List.replicate (places + 1 - digits.length) '0' ++ digits
      let whole := padded.take (padded.length - places)
      let sign := if negative then ['-'] else []
      String.ofList (sign ++ whole ++
        (if places = 0 then [] else '.' :: padded.drop (padded.length - places)))

end ChatTemplate.Decimal
