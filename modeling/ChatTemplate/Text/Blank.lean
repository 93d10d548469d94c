/-
# ChatTemplate.Text.Blank -- white space and what trimming removes

Chat text is trimmed after every substitution, and a message that is nothing but
white space counts as silenced.  White space is Unicode's `White_Space`
property; the line format of world files and the script language know only the
ASCII part of it, `isAsciiBlank`.
-/
namespace ChatTemplate.Text

set_option autoImplicit false

/-- The characters with Unicode's `White_Space` property. -/
def isBlank (c : Char) : Bool :=
  let n := c.toNat
  (0x9 ≤ n && n ≤ 0xd) || n == 0x20 || n == 0x85 || n == 0xa0 || n == 0x1680 ||
    (0x2000 ≤ n && n ≤ 0x200a) || n == 0x2028 || n == 0x2029 || n == 0x202f ||
    n == 0x205f || n == 0x3000

/-- Space, tab, line feed, form feed and carriage return; the vertical tab is
not one of them. -/
def isAsciiBlank (c : Char) : Bool :=
  c == ' ' || c == '\t' || c == '\n' || c == '\x0c' || c == '\r'

def trimStart (text : List Char) : List Char :=
  text.dropWhile isBlank

def trimEnd (text : List Char) : List Char :=
  (text.reverse.dropWhile isBlank).reverse

/-- The text without the white space at either end. -/
def trim (text : List Char) : List Char :=
  trimEnd (trimStart text)

/-- Whether nothing but white space is left. -/
def isBlankText (text : List Char) : Bool :=
  text.all isBlank

/-- The first maximal run of characters that are not white space. -/
def firstWord (text : List Char) : List Char :=
  (trimStart text).takeWhile (fun c => !isBlank c)

/-- `trim` for stored strings. -/
def trimString (s : String) : String :=
  String.ofList (trim s.toList)

end ChatTemplate.Text
