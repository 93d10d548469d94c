/-
# ChatTemplate.Instant -- moments in time

Events and streams carry the moment they began.  A moment is a number of seconds
since the start of 1970 and a number of nanoseconds, compared in this order; a
leap second is written as the second before it with more than a thousand million
nanoseconds, so it comes after that second and before the next.

`Instant.read?` reads the Internet date and time format: a date, `T` or a space,
a time with any number of decimals, and an offset that is either `Z` or hours
and minutes.
-/
import ChatTemplate.Text.Integer

namespace ChatTemplate

set_option autoImplicit false

structure Instant where
  seconds : Int
  nanos : Nat
  deriving DecidableEq

namespace Instant

/-- Whether a moment lies before another one. -/
def before (a b : Instant) : Bool :=
  a.seconds < b.seconds || (a.seconds == b.seconds && a.nanos < b.nanos)

/-! ## Days -/

def isLeapYear (year : Nat) : Bool :=
  year % 4 == 0 && (year % 100 != 0 || year % 400 == 0)

/-- The lengths of the months of a year. -/
def monthLengths (year : Nat) : List Nat :=
  [31, if isLeapYear year then 29 else 28, 31, 30, 31, 30, 31, 31, 30, 31, 30, 31]

/-- The days from the start of year 0 to the start of another year. -/
def daysBeforeYear (year : Nat) : Nat :=
  365 * year + (year + 3) / 4 - (year + 99) / 100 + (year + 399) / 400

/-- The days from the start of 1970 to a date, if there is such a date. -/
def dayNumber? (year month day : Nat) : Option Int :=
  let lengths := monthLengths year
  match lengths[month - 1]? with
  | some length =>
      if 1 ≤ month ∧ 1 ≤ day ∧ day ≤ length then
        let days := (lengths.take (month - 1)).foldl (· + ·) (daysBeforeYear year + (day - 1))
        some ((days : Int) - daysBeforeYear 1970)
      else none
  | none => none

/-! ## Reading -/

/-- Exactly `count` decimal digits, and the text after them. -/
def digits? (count : Nat) (text : List Char) : Option (Nat × List Char) :=
  let digits := text.take count
  if digits.length = count ∧ digits.all Char.isDigit then
    (Text.readDigits? 10 digits).map fun n => (n, text.drop count)
  else none

/-- One character out of some, and the text after it. -/
def oneOf? (choices : List Char) : List Char → Option (List Char)
  | c :: text => if choices.contains c then some text else none
  | [] => none

/-- The nanoseconds that decimals stand for; from the tenth on they are ignored. -/
def nanosOf (decimals : List Char) : Nat :=
  let kept := decimals.take 9
  (Text.digitsValue? 10 0 kept).getD 0 * Nat.pow 10 (9 - kept.length)

/-- A point and one or more decimals, if there is a point. -/
def fraction? (text : List Char) : Option (Nat × List Char) :=
  match text with
  | '.' :: text =>
      let decimals := text.takeWhile Char.isDigit
      if decimals.isEmpty then none
      else some (nanosOf decimals, text.dropWhile Char.isDigit)
  | _ => some (0, text)

/-- The distance from universal time in seconds, at the end of a text. -/
def offset? (text : List Char) : Option Int :=
  let reading (text : List Char) : Option Int := do
    let (hours, text) ← digits? 2 text
    let text ← oneOf? [':'] text
    let (minutes, text) ← digits? 2 text
    if hours ≤ 23 ∧ minutes ≤ 59 ∧ text.isEmpty then
      some (hours * 3600 + minutes * 60 : Nat)
    else none
  match text with
  | ['Z'] => some 0
  | ['z'] => some 0
  | '+' :: text => reading text
  | '-' :: text => (reading text).map fun seconds => -seconds
  | '−' :: text => (reading text).map fun seconds => -seconds
  | _ => none

/-- The moment that a text names. -/
def read? (text : List Char) : Option Instant := do
  let (year, text) ← digits? 4 text
  let text ← oneOf? ['-'] text
  let (month, text) ← digits? 2 text
  let text ← oneOf? ['-'] text
  let (day, text) ← digits? 2 text
  let text ← oneOf? ['T', 't', ' '] text
  let (hour, text) ← digits? 2 text
  let text ← oneOf? [':'] text
  let (minute, text) ← digits? 2 text
  let text ← oneOf? [':'] text
  let (second, text) ← digits? 2 text
  let (nanos, text) ← fraction? text
  let offset ← offset? text
  let days ← dayNumber? year month day
  if hour ≤ 23 ∧ minute ≤ 59 ∧ second ≤ 60 then
    let leap := second == 60
    some
      { seconds := days * 86400 + (hour * 3600 + minute * 60 + (if leap then 59 else second) : Nat)
          - offset
        nanos := if leap then 1000000000 + nanos else nanos }
  else none

end Instant

end ChatTemplate
