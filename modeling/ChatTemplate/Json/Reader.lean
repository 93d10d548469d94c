/-
# ChatTemplate.Json.Reader -- JSON from text

`Json.read?` accepts exactly one document with white space around it.  Documents
nest at most 127 deep.  Control characters must be escaped inside strings, and
an escape for half of a surrogate pair stands only before the other half.

A number with a point or an exponent, or too long for a word, becomes a float.
Its digits are collected into one word for as long as they fit, and that word is
then scaled by a power of ten (`scaled?`); a number too large for a float is not
a document at all.
-/
import ChatTemplate.Json.Basic
import ChatTemplate.Decimal.Binary
import ChatTemplate.Decimal.Reader

namespace ChatTemplate.Json

set_option autoImplicit false

/-- What a reader of a part returns: the part and the text after it. -/
abbrev Read (α : Type) := List Char → Option (α × List Char)

def skipBlank (text : List Char) : List Char :=
  text.dropWhile fun c => c == ' ' || c == '\t' || c == '\n' || c == '\r'

/-! ## Strings -/

/-- The number of four hexadecimal digits. -/
def fourDigits? : Read Nat
  | a :: b :: c :: d :: rest => (Text.digitsValue? 16 0 [a, b, c, d]).map fun n => (n, rest)
  | _ => none

/-- The character of a numeric escape, with the text after the letter `u`. -/
def numericEscape? (text : List Char) : Option (Char × List Char) :=
  match fourDigits? text with
  | none => none
  | some (high, rest) =>
      if 0xdc00 ≤ high ∧ high ≤ 0xdfff then none
      else if 0xd800 ≤ high ∧ high ≤ 0xdbff then
        match rest with
        | '\\' :: 'u' :: rest =>
            match fourDigits? rest with
            | some (low, rest) =>
                if 0xdc00 ≤ low ∧ low ≤ 0xdfff then
                  some (Char.ofNat (0x10000 + (high - 0xd800) * 0x400 + (low - 0xdc00)), rest)
                else none
            | none => none
        | _ => none
      else some (Char.ofNat high, rest)

/-- The character that a single letter after a backslash stands for. -/
def letterEscape? : Char → Option Char
  | '"' => some '"'
  | '\\' => some '\\'
  | '/' => some '/'
  | 'b' => some '\x08'
  | 'f' => some '\x0c'
  | 'n' => some '\n'
  | 'r' => some '\r'
  | 't' => some '\t'
  | _ => none

/-- The characters up to the closing quote. -/
def readChars : Nat → Read (List Char)
  | 0, _ => none
  | n + 1, text =>
      match text with
      | [] => none
      | '"' :: rest => some ([], rest)
      | '\\' :: 'u' :: rest =>
          match numericEscape? rest with
          | some (c, rest) => (readChars n rest).map fun read => (c :: read.1, read.2)
          | none => none
      | '\\' :: letter :: rest =>
          match letterEscape? letter with
          | some c => (readChars n rest).map fun read => (c :: read.1, read.2)
          | none => none
      | c :: rest =>
          if c.toNat < 0x20 ∨ c = '\\' then none
          else (readChars n rest).map fun read => (c :: read.1, read.2)

/-- A string after its opening quote. -/
def readString (text : List Char) : Option (String × List Char) :=
  (readChars (text.length + 1) text).map fun read => (String.ofList read.1, read.2)

/-! ## Numbers -/

/-- Appends digits to a word until one no longer fits, and gives back the digits
that are left. -/
def fitDigits : Nat → List Char → Nat × List Char
  | word, [] => (word, [])
  | word, c :: digits =>
      let next := word * 10 + (c.toNat - '0'.toNat)
      if next < Text.wordLimit then fitDigits next digits else (word, c :: digits)

/-- `10 ^ n` as a float. -/
def powerOfTen (n : Nat) : Float :=
  Float.ofScientific 1 false n

/-- A word times a power of ten.  One multiplication or division by a power that
is a float is enough, except that a deeper exponent is reached in two divisions
and the deepest give zero. -/
def scaled? (word : Nat) (exponent : Int) : Option Float :=
  let x := Float.ofScientific word false 0
  if 308 < exponent then if word = 0 then some x else none
  else if 0 ≤ exponent then
    let y := x * powerOfTen exponent.toNat
    if Decimal.isFinite y then some y else none
  else if -308 ≤ exponent then some (x / powerOfTen (-exponent).toNat)
  else if -616 ≤ exponent then some (x / powerOfTen 308 / powerOfTen (-exponent - 308).toNat)
  else some 0.0

/-- The exponent after its letter, with the text after it. -/
def readExponent? (text : List Char) : Option (Int × List Char) :=
  let (negative, rest) :=
    match text with
    | '-' :: rest => (true, rest)
    | '+' :: rest => (false, rest)
    | rest => (false, rest)
  let digits := rest.takeWhile Char.isDigit
  (Text.readDigits? 10 digits).map fun n =>
    (if negative then -(n : Int) else n, rest.dropWhile Char.isDigit)

/-- A number without its sign. -/
def readMagnitude (negative : Bool) (text : List Char) : Option (Json × List Char) :=
  let whole := text.takeWhile Char.isDigit
  let rest := text.dropWhile Char.isDigit
  let (word, left) := fitDigits 0 whole
  let float (word : Nat) (exponent : Int) (rest : List Char) : Option (Json × List Char) :=
    (scaled? word exponent).map fun x => (.float (if negative then -x else x), rest)
  let scaledBy (word : Nat) (exponent : Int) (rest : List Char) : Option (Json × List Char) :=
    match rest with
    | c :: rest' =>
        if c = 'e' ∨ c = 'E' then
          match readExponent? rest' with
          | some (e, rest) => float word (exponent + e) rest
          | none => none
        else float word exponent rest
    | [] => float word exponent rest
  if whole.isEmpty || (whole.head? == some '0' && 1 < whole.length) then none
  else
    match rest with
    | '.' :: rest =>
        let places := rest.takeWhile Char.isDigit
        let (word, unread) := fitDigits word places
        if places.isEmpty then none
        else
          scaledBy word (left.length - (places.length - unread.length : Nat))
            (rest.dropWhile Char.isDigit)
    | c :: _ =>
        if c = 'e' ∨ c = 'E' then scaledBy word left.length rest
        else finish word left rest
    | [] => finish word left rest
where
  /-- A run of digits with nothing after it that belongs to the number. -/
  finish (word : Nat) (left rest : List Char) : Option (Json × List Char) :=
    if left.isEmpty then
      if !negative then some (.int word, rest)
      else if 0 < word ∧ word ≤ Text.signedLimit then some (.int (-(word : Int)), rest)
      else some (.float (-(Float.ofScientific word false 0)), rest)
    else (scaled? word left.length).map fun x => (.float (if negative then -x else x), rest)

/-! ## Documents -/

/-- A document that holds no other: a word, a string or a number. -/
def readScalar (text : List Char) : Option (Json × List Char) :=
  match text with
  | '"' :: rest => (readString rest).map fun read => (.str read.1, read.2)
  | 'n' :: 'u' :: 'l' :: 'l' :: rest => some (.null, rest)
  | 't' :: 'r' :: 'u' :: 'e' :: rest => some (.bool true, rest)
  | 'f' :: 'a' :: 'l' :: 's' :: 'e' :: rest => some (.bool false, rest)
  | '-' :: rest => readMagnitude true rest
  | _ => readMagnitude false text

/-- One or more items, each read by `value`, up to the closing bracket. -/
def readItems (value : Read Json) : Nat → Read (List Json)
  | 0, _ => none
  | n + 1, text =>
      match value text with
      | none => none
      | some (item, rest) =>
          match skipBlank rest with
          | ',' :: rest => (readItems value n rest).map fun read => (item :: read.1, read.2)
          | ']' :: rest => some ([item], rest)
          | _ => none

/-- One or more fields, up to the closing brace. -/
def readFields (value : Read Json) : Nat → Read (List (String × Json))
  | 0, _ => none
  | n + 1, text =>
      match skipBlank text with
      | '"' :: rest =>
          match readString rest with
          | none => none
          | some (name, rest) =>
              match skipBlank rest with
              | ':' :: rest =>
                  match value rest with
                  | none => none
                  | some (item, rest) =>
                      match skipBlank rest with
                      | ',' :: rest =>
                          (readFields value n rest).map fun read => ((name, item) :: read.1, read.2)
                      | '\x7d' :: rest => some ([(name, item)], rest)
                      | _ => none
              | _ => none
      | _ => none

/-- A document that nests at most `depth` deep, with white space before it. -/
def readValue : Nat → Read Json
  | 0, text => readScalar (skipBlank text)
  | depth + 1, text =>
      match skipBlank text with
      | '[' :: rest =>
          match skipBlank rest with
          | ']' :: rest => some (.list [], rest)
          | _ =>
              (readItems (readValue depth) rest.length rest).map fun read =>
                (.list read.1, read.2)
      | '\x7b' :: rest =>
          match skipBlank rest with
          | '\x7d' :: rest => some (.object [], rest)
          | _ =>
              (readFields (readValue depth) rest.length rest).map fun read =>
                (.object (orderedFields read.1), read.2)
      | text => readScalar text

/-- The document that a text holds. -/
def read? (text : List Char) : Option Json :=
  match readValue 127 text with
  | some (json, rest) => if (skipBlank rest).isEmpty then some json else none
  | none => none

end ChatTemplate.Json
