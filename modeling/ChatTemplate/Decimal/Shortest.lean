/-
# ChatTemplate.Decimal.Shortest -- the fewest digits that read back

A float is written with the fewest significant digits that still name it, and of
those the nearest.  The numbers that round to a float form an interval around
it, which includes its ends exactly when the mantissa is even.  A decimal grid
of spacing `10 ^ p` has a point in the interval only if one of the float's two
neighbours on that grid lies in it, so the coarsest grid that has a hit is found
by trying the two neighbours from coarse to fine.
-/
import ChatTemplate.Decimal.Binary

namespace ChatTemplate.Decimal

set_option autoImplicit false

/-- The positive fraction `num / den`. -/
structure Ratio where
  num : Nat
  den : Nat

namespace Ratio

/-- `n · 10 ^ p`. -/
def decimal (n : Nat) (p : Int) : Ratio :=
  if 0 ≤ p then ⟨n * Nat.pow 10 p.toNat, 1⟩ else ⟨n, Nat.pow 10 (-p).toNat⟩

/-- `n · 2 ^ q`. -/
def binary (n : Nat) (q : Int) : Ratio :=
  if 0 ≤ q then ⟨n * Nat.pow 2 q.toNat, 1⟩ else ⟨n, Nat.pow 2 (-q).toNat⟩

def less (a b : Ratio) : Bool :=
  a.num * b.den < b.num * a.den

def lessEq (a b : Ratio) : Bool :=
  a.num * b.den ≤ b.num * a.den

/-- The number of whole units of `10 ^ p` in a fraction. -/
def unitsOf (a : Ratio) (p : Int) : Nat :=
  if 0 ≤ p then a.num / (a.den * Nat.pow 10 p.toNat) else a.num * Nat.pow 10 (-p).toNat / a.den

end Ratio

/-- The numbers that round to a float, with the float itself. -/
structure Interval where
  low : Ratio
  value : Ratio
  high : Ratio
  closed : Bool

/-- Half a unit on either side; below a power of two the numbers lie twice as
close. -/
def Interval.around (mantissa : Nat) (exponent : Int) : Interval where
  low :=
    if mantissa = Binary.hiddenBit ∧ -1074 < exponent then
      .binary (4 * mantissa - 1) (exponent - 2)
    else .binary (4 * mantissa - 2) (exponent - 2)
  value := .binary mantissa exponent
  high := .binary (4 * mantissa + 2) (exponent - 2)
  closed := mantissa % 2 = 0

def Interval.contains (i : Interval) (x : Ratio) : Bool :=
  if i.closed then i.low.lessEq x && x.lessEq i.high else i.low.less x && x.less i.high

/-- Which of two equally near decimals is taken. -/
inductive Tie where
  | up
  | even

/-- Whether the point above is taken when both neighbours `below · 10 ^ p` and
`(below + 1) · 10 ^ p` would do: the value is past the middle, or in the middle
and the tie says so. -/
def Interval.prefersAbove (i : Interval) (tie : Tie) (below : Nat) (p : Int) : Bool :=
  let middle := Ratio.decimal (10 * below + 5) (p - 1)
  if middle.less i.value then true
  else if i.value.less middle then false
  else
    match tie with
    | .up => true
    | .even => below % 2 = 1

/-- The neighbour of the value on the grid `10 ^ p` that names it, if one does. -/
def Interval.hit? (i : Interval) (tie : Tie) (p : Int) : Option Nat :=
  let below := i.value.unitsOf p
  let belowIn := 0 < below && i.contains (.decimal below p)
  let aboveIn := i.contains (.decimal (below + 1) p)
  match belowIn, aboveIn with
  | true, true => some (if i.prefersAbove tie below p then below + 1 else below)
  | true, false => some below
  | false, true => some (below + 1)
  | false, false => none

/-- The first hit from the grid `10 ^ p` downwards. -/
def Interval.firstHit (i : Interval) (tie : Tie) : Nat → Int → Nat × Int
  | 0, p => (i.value.unitsOf p, p)
  | n + 1, p =>
      match i.hit? tie p with
      | some digits => (digits, p)
      | none => i.firstHit tie n (p - 1)

/-- The shortest decimal `d · 10 ^ p` that names `mantissa · 2 ^ exponent`.  The
search starts above the value's leading digit, and seventeen digits always name
it, so twenty-four grids are enough. -/
def shortest (tie : Tie) (mantissa : Nat) (exponent : Int) : Nat × Int :=
  let bits : Int := mantissa.log2 + 1 + exponent
  (Interval.around mantissa exponent).firstHit tie 24 (bits * 30103 / 100000 + 1)

end ChatTemplate.Decimal
