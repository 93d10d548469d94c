/-
# ChatTemplate.Dice -- chance as an explicit source

Random picks read an endless sequence of numbers that is given from outside, so
what a render can produce is a statement over all sequences.  `Dice.shuffled`
is the sequence the command line uses: successive multiples of an odd constant,
mixed so that their remainders are spread evenly.
-/
namespace ChatTemplate

set_option autoImplicit false

/-- A sequence of numbers and how many of them have been used. -/
structure Dice where
  rolls : Nat → Nat
  used : Nat := 0

namespace Dice

/-- The next number of the sequence. -/
def roll (dice : Dice) : Nat × Dice :=
  (dice.rolls dice.used, { dice with used := dice.used + 1 })

/-- A number below `n`, for a positive `n`. -/
def below (n : Nat) (dice : Dice) : Nat × Dice :=
  let (roll, dice) := dice.roll
  (roll % n, dice)

/-- A number from the smaller of two bounds to the larger, both included. -/
def between (a b : Int64) (dice : Dice) : Int64 × Dice :=
  let low := min a.toInt b.toInt
  let high := max a.toInt b.toInt
  let (offset, dice) := dice.below (high - low + 1).toNat
  (Int64.ofInt (low + offset), dice)

/-- An element of a list, if there is one. -/
def pick {α : Type} (items : List α) (dice : Dice) : Option α × Dice :=
  let (i, dice) := dice.below items.length
  (items[i]?, dice)

/-- The number of equal steps from zero to one, two to the power of 53. -/
def fractionSteps : Nat := 0x20000000000000

/-- A float from zero up to but not including one. -/
def fraction (dice : Dice) : Float × Dice :=
  let (numerator, dice) := dice.below fractionSteps
  (Float.ofScientific numerator false 0 / Float.ofScientific fractionSteps false 0, dice)

/-- Spreads the bits of a word. -/
def mix (word : UInt64) : UInt64 :=
  let word := (word ^^^ (word >>> 30)) * 0xbf58476d1ce4e5b9
  let word := (word ^^^ (word >>> 27)) * 0x94d049bb133111eb
  word ^^^ (word >>> 31)

/-- The sequence that belongs to a seed. -/
def shuffled (seed : Nat) : Dice where
  rolls i := (mix (mix (UInt64.ofNat seed) + 0x9e3779b97f4a7c15 * UInt64.ofNat (i + 1))).toNat

end Dice

end ChatTemplate
