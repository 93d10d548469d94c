/-
# ChatTemplate.Text.Quoted -- text as diagnostics show it

Error messages of the script language quote the piece of source they complain
about.  The quotation makes everything visible: the quote mark itself and the
backslash are preceded by a backslash, the common controls have a letter, and a
character without a glyph of its own is written by its code point.
-/
import ChatTemplate.Text.HiddenTable
import ChatTemplate.Text.Word

namespace ChatTemplate.Text

set_option autoImplicit false

/-- Whether a character has no glyph of its own. -/
def isHidden (c : Char) : Bool :=
  if c.toNat < 0x7f then c.toNat < 0x20 else inRanges hiddenRanges c

/-- A backslash and the letter `u` before the code point in braces. -/
def codePointEscape (c : Char) : List Char :=
  '\\' :: 'u' :: '\x7b' :: Nat.toDigits 16 c.toNat ++ ['\x7d']

/-- One character between quote marks of the kind `mark`. -/
def quotedChar (mark c : Char) : List Char :=
  if c = '\x00' then ['\\', '0']
  else if c = '\t' then ['\\', 't']
  else if c = '\r' then ['\\', 'r']
  else if c = '\n' then ['\\', 'n']
  else if c = '\\' ∨ c = mark then ['\\', c]
  else if isHidden c then codePointEscape c
  else [c]

def quoted (mark : Char) (text : List Char) : List Char :=
  mark :: text.flatMap (quotedChar mark) ++ [mark]

/-- A string between double quotes. -/
def quotedString (s : String) : String :=
  String.ofList (quoted '"' s.toList)

/-- One character between single quotes. -/
def quotedSingle (c : Char) : String :=
  String.ofList (quoted '\'' [c])

end ChatTemplate.Text
