/-
# ChatTemplate.PercentEncoding -- text in web addresses

A character that may not stand in an address is written as the bytes of its
UTF-8 form, each as `%` and two hexadecimal digits.  Letters, digits and four
marks always stand for themselves; what else does depends on the place: a whole
address keeps its punctuation (`encodeUri`), a single argument only a few marks
(`encodeQuery`), a name nothing more (`encodeName`).
-/
namespace ChatTemplate.PercentEncoding

set_option autoImplicit false

/-- The characters that are never encoded. -/
def isUnreserved (c : Char) : Bool :=
  c.isAlphanum || c == '-' || c == '_' || c == '.' || c == '~'

def hexDigit (n : Nat) : Char :=
  if n < 10 then Char.ofNat ('0'.toNat + n) else Char.ofNat ('A'.toNat + (n - 10))

def encodeByte (byte : UInt8) : List Char :=
  ['%', hexDigit (byte.toNat / 16), hexDigit (byte.toNat % 16)]

def encodeChar (c : Char) : List Char :=
  (String.utf8EncodeChar c).flatMap encodeByte

/-- Encodes all but the unreserved characters and those to be kept. -/
def encode (kept : List Char) (text : List Char) : List Char :=
  text.flatMap fun c => if kept.contains c || isUnreserved c then [c] else encodeChar c

/-- The punctuation of an address. -/
def uriMarks : List Char := ";,/?:@&=+$#!*'()".toList

/-- The marks that an argument keeps. -/
def queryMarks : List Char := "!*'()".toList

def encodeUri (text : List Char) : List Char :=
  encode uriMarks text

def encodeQuery (text : List Char) : List Char :=
  encode queryMarks text

def encodeName (text : List Char) : List Char :=
  encode [] text

end ChatTemplate.PercentEncoding
