/-
# ChatTemplate.Text.Integer -- whole numbers in text

Reading and writing whole numbers.  `readInt64` and `readUInt64` take the whole
text: an optional sign (a minus only for signed numbers), then one or more
digits, within the range of the word.  `leadingInt64` is the loose reader of
chat arguments, which takes the number a text begins with and ignores the rest.
-/
import ChatTemplate.Text.Blank

namespace ChatTemplate.Text

set_option autoImplicit false

/-! ## Digits -/

/-- The value of a digit, with letters of either case standing for ten and up. -/
def digitValue? (base : Nat) (c : Char) : Option Nat :=
  let value :=
    if c.isDigit then c.toNat - '0'.toNat
    else if 'a' ≤ c ∧ c ≤ 'z' then c.toNat - 'a'.toNat + 10
    else if 'A' ≤ c ∧ c ≤ 'Z' then c.toNat - 'A'.toNat + 10
    else base
  if value < base then some value else none

/-- The value of a run of digits read after digits worth `high`. -/
def digitsValue? (base : Nat) : Nat → List Char → Option Nat
  | high, [] => some high
  | high, c :: digits =>
      match digitValue? base c with
      | some value => digitsValue? base (high * base + value) digits
      | none => none

/-- A non-empty run of digits and nothing else. -/
def readDigits? (base : Nat) (text : List Char) : Option Nat :=
  if text.isEmpty then none else digitsValue? base 0 text

/-- Digits with an optional plus sign, below `limit`. -/
def readNatural? (base limit : Nat) (text : List Char) : Option Nat :=
  let digits :=
    match text with
    | '+' :: rest => rest
    | _ => text
  (readDigits? base digits).filter (· < limit)

/-! ## Words -/

/-- The number of values of a word of 64 bits. -/
def wordLimit : Nat := 0x10000000000000000

/-- The number of values of such a word that are not negative when it is
signed. -/
def signedLimit : Nat := 0x8000000000000000

def readUInt64? (text : List Char) : Option UInt64 :=
  (readNatural? 10 wordLimit text).map UInt64.ofNat

def inInt64 (n : Int) : Bool :=
  -(signedLimit : Int) ≤ n && n < signedLimit

/-- Digits with an optional sign, in the range of a signed 64-bit word. -/
def readInt64? (text : List Char) : Option Int64 :=
  let value :=
    match text with
    | '-' :: digits => (readDigits? 10 digits).map fun n => -(n : Int)
    | _ => (readNatural? 10 signedLimit text).map Int.ofNat
  (value.filter inInt64).map Int64.ofInt

/-- The longest beginning of the text that can be a number: digits, with a sign
allowed as the first character only. -/
def numberHead : List Char → List Char
  | [] => []
  | c :: text =>
      if c.isDigit || c == '-' || c == '+' then c :: text.takeWhile Char.isDigit else []

/-- The number a text begins with, white space aside. -/
def leadingInt64? (text : List Char) : Option Int64 :=
  readInt64? (numberHead (trim text))

/-! ## Writing -/

def writeNat (n : Nat) : List Char :=
  Nat.toDigits 10 n

def writeInt (n : Int) : List Char :=
  if n < 0 then '-' :: writeNat n.natAbs else writeNat n.natAbs

def int64Text (n : Int64) : String :=
  String.ofList (writeInt n.toInt)

def uint64Text (n : UInt64) : String :=
  String.ofList (writeNat n.toNat)

end ChatTemplate.Text
