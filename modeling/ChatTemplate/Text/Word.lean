/-
# ChatTemplate.Text.Word -- word characters and word boundaries

Templates that begin with `$` match whole words, so they need to know where a
word begins and ends.  A boundary lies between a word character and anything
else, the ends of the text included.
-/
import ChatTemplate.Text.WordTable

namespace ChatTemplate.Text

set_option autoImplicit false

def inRanges (ranges : List (Nat × Nat)) (c : Char) : Bool :=
  ranges.any fun range => range.1 ≤ c.toNat && c.toNat ≤ range.2

/-- ASCII letters, digits and the underscore: the characters of names. -/
def isNameChar (c : Char) : Bool :=
  c.isAlphanum || c == '_'

/-- The word characters of every script; among ASCII characters those of names. -/
def isWordChar (c : Char) : Bool :=
  if c.toNat < 0x80 then isNameChar c else inRanges wordRanges c

/-- The decimal digits of every script. -/
def isDecimalDigit (c : Char) : Bool :=
  if c.toNat < 0x80 then c.isDigit else inRanges decimalDigitRanges c

/-- Whether a word begins or ends between the character before and the text
after. -/
def isBoundary (before : Option Char) (after : List Char) : Bool :=
  before.any isWordChar != after.head?.any isWordChar

end ChatTemplate.Text
