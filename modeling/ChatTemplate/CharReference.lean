/-
# ChatTemplate.CharReference -- HTML character references in chat text

Chat transports deliver text with character references: `&amp;`, `&#39;`,
`&#x27;`.  `decode` replaces each of them by its character in one scan from left
to right and never looks at its own output again.  A reference has at most ten
characters between the ampersand and the semicolon; anything that is not a
reference stays as it is.
-/
import ChatTemplate.CharReference.Names
import ChatTemplate.Text.Integer
import ChatTemplate.Text.Search

namespace ChatTemplate.CharReference

set_option autoImplicit false

/-- The character of a code point that is one. -/
def charOf? (code : Nat) : Option Char :=
  if code.isValidChar then some (Char.ofNat code) else none

/-- Numbers from here on, two to the power of 32, are not read at all. -/
def codeLimit : Nat := 0x100000000

/-- The character that the text between ampersand and semicolon refers to: a
number after `#`, in hexadecimal after `#x`, or a name. -/
def resolve? (body : List Char) : Option Char :=
  match body with
  | '#' :: 'x' :: digits => (Text.readNatural? 16 codeLimit digits).bind charOf?
  | '#' :: 'X' :: digits => (Text.readNatural? 16 codeLimit digits).bind charOf?
  | '#' :: digits => (Text.readNatural? 10 codeLimit digits).bind charOf?
  | _ => (names.lookup (String.ofList body)).bind charOf?

/-- The longest text between an ampersand and its semicolon. -/
def maxBody : Nat := 10

/-- The reference after an ampersand: its character, and how many characters it
takes up. -/
def reference? (text : List Char) : Option (Char × Nat) :=
  match Text.breakOn? [';'] (text.take (maxBody + 1)) with
  | some (body, _) => (resolve? body).map fun c => (c, body.length + 1)
  | none => none

/-- The text with every reference replaced by its character.  The counter is the
number of characters still covered by the last reference. -/
def decode (text : List Char) : List Char :=
  go 0 text
where
  go : Nat → List Char → List Char
    | _, [] => []
    | covered + 1, _ :: text => go covered text
    | 0, c :: text =>
        if c = '&' then
          match reference? text with
          | some (decoded, taken) => decoded :: go taken text
          | none => c :: go 0 text
        else c :: go 0 text

end ChatTemplate.CharReference
