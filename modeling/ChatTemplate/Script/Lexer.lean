/-
# ChatTemplate.Script.Lexer -- from source text to tokens

`lex` cuts a source text into tokens and ends with `Token.eof`.  White space is
ASCII space, tab and line ends.  A number that does not fit a word becomes a
float, quoted text may stay open at the end of the source, and a character that
begins no token becomes a token of its own.
-/
import ChatTemplate.Decimal.Reader
import ChatTemplate.Script.Token
import ChatTemplate.Text.Search

namespace ChatTemplate.Script

set_option autoImplicit false

def isSourceBlank (c : Char) : Bool :=
  c == ' ' || c == '\t' || c == '\n' || c == '\r'

def isNameStart (c : Char) : Bool :=
  c.isAlpha || c == '_' || c == '$'

def isNamePart (c : Char) : Bool :=
  c.isAlphanum || c == '_' || c == '$'

def isHexDigit (c : Char) : Bool :=
  (Text.digitValue? 16 c).isSome

/-! ## Numbers -/

def notANumberToken : Token :=
  .float (0.0 / 0.0)

/-- The number that a run of hexadecimal digits spells; zero when there are no
digits or too many. -/
def hexToken (digits : List Char) : Token :=
  match Text.readNatural? 16 Text.signedLimit digits with
  | some n => .int (Int64.ofNat n)
  | none => .int 0

def floatToken (text : List Char) : Token :=
  match Decimal.read? text with
  | some x => .float x
  | none => notANumberToken

def digitsToken (digits : List Char) : Token :=
  match Text.readInt64? digits with
  | some n => .int n
  | none => floatToken digits

/-- A point with its digits, if a digit follows the point. -/
def takePlaces : List Char → List Char × List Char
  | '.' :: c :: text =>
      if c.isDigit then
        ('.' :: (c :: text).takeWhile Char.isDigit, (c :: text).dropWhile Char.isDigit)
      else ([], '.' :: c :: text)
  | text => ([], text)

/-- The letter of an exponent with its sign and digits, which may be missing. -/
def takeExponent : List Char → List Char × List Char
  | c :: text =>
      if c = 'e' ∨ c = 'E' then
        match text with
        | s :: digits =>
            if s = '+' ∨ s = '-' then
              (c :: s :: digits.takeWhile Char.isDigit, digits.dropWhile Char.isDigit)
            else (c :: text.takeWhile Char.isDigit, text.dropWhile Char.isDigit)
        | [] => ([c], [])
      else ([], c :: text)
  | [] => ([], [])

/-- The number at the front of a text that begins with a digit, or with a point
and a digit. -/
def lexNumber (text : List Char) : Token × List Char :=
  match text with
  | '0' :: 'x' :: rest => (hexToken (rest.takeWhile isHexDigit), rest.dropWhile isHexDigit)
  | '0' :: 'X' :: rest => (hexToken (rest.takeWhile isHexDigit), rest.dropWhile isHexDigit)
  | _ =>
      let whole := text.takeWhile Char.isDigit
      let (places, rest) := takePlaces (text.dropWhile Char.isDigit)
      let (exponent, rest) := takeExponent rest
      if places.isEmpty && exponent.isEmpty then (digitsToken whole, rest)
      else (floatToken (whole ++ places ++ exponent), rest)

/-! ## Quoted text -/

/-- The characters up to the mark that closes the text.  A backslash takes the
next character as it is, except that `n` and `t` stand for line feed and tab. -/
def lexQuoted (mark : Char) : List Char → List Char × List Char
  | [] => ([], [])
  | '\\' :: [] => ([], [])
  | '\\' :: c :: text =>
      let (content, rest) := lexQuoted mark text
      ((if c = 'n' then '\n' else if c = 't' then '\t' else c) :: content, rest)
  | c :: text =>
      if c = mark then ([], text)
      else
        let (content, rest) := lexQuoted mark text
        (c :: content, rest)

/-! ## Tokens -/

/-- The longest symbol that a text begins with. -/
def lexSymbol? (text : List Char) : Option (Symbol × List Char) :=
  Symbol.all.findSome? fun s =>
    (Text.stripPrefix? s.spelling.toList text).map fun rest => (s, rest)

/-- The token that begins with the character `c`, and the text after it. -/
def lexToken (c : Char) (text : List Char) : Token × List Char :=
  if c.isDigit || (c == '.' && text.head?.any Char.isDigit) then lexNumber (c :: text)
  else if c = '"' ∨ c = '\'' ∨ c = '\x60' then
    let (content, rest) := lexQuoted c text
    (.str (String.ofList content), rest)
  else if isNameStart c then
    (.name (String.ofList (c :: text.takeWhile isNamePart)), text.dropWhile isNamePart)
  else
    match lexSymbol? (c :: text) with
    | some (s, rest) => (.sym s, rest)
    | none => (.unknown c, text)

/-- The tokens of a text; every token takes at least one character. -/
def lexAll : Nat → List Char → List Token
  | 0, _ => [.eof]
  | n + 1, text =>
      match text.dropWhile isSourceBlank with
      | [] => [.eof]
      | c :: text =>
          let (token, rest) := lexToken c text
          token :: lexAll n rest

/-- The tokens of a source text, with the end of the source as the last one. -/
def lex (source : List Char) : List Token :=
  lexAll (source.length + 1) source

end ChatTemplate.Script
