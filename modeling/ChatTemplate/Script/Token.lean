/-
# ChatTemplate.Script.Token -- the words of the script language

Source text is a sequence of tokens: numbers, quoted text, names and symbols.
Symbols are listed in `Symbol.all` with the longer spellings first, so that the
first symbol a text begins with is the longest one.  `Token.shown` is how error
messages name a token.
-/
import ChatTemplate.Decimal.Layout
import ChatTemplate.Text.Quoted

namespace ChatTemplate.Script

set_option autoImplicit false

inductive Symbol where
  | plus | minus | star | starStar | slash | percent
  | bang | tilde | ampersand | pipe | caret | shiftLeft | shiftRight
  | eq | ne | strictEq | strictNe | lt | le | gt | ge
  | and | or
  | assign | plusAssign | minusAssign | starAssign | slashAssign | percentAssign
  | arrow | question | colon | comma | dot | semicolon
  | lparen | rparen | lbracket | rbracket | lbrace | rbrace
  deriving DecidableEq, Inhabited

namespace Symbol

def spelling : Symbol → String
  | plus => "+" | minus => "-" | star => "*" | starStar => "**" | slash => "/" | percent => "%"
  | bang => "!" | tilde => "~" | ampersand => "&" | pipe => "|" | caret => "^"
  | shiftLeft => "<<" | shiftRight => ">>"
  | eq => "==" | ne => "!=" | strictEq => "===" | strictNe => "!=="
  | lt => "<" | le => "<=" | gt => ">" | ge => ">="
  | and => "&&" | or => "||"
  | assign => "=" | plusAssign => "+=" | minusAssign => "-=" | starAssign => "*="
  | slashAssign => "/=" | percentAssign => "%="
  | arrow => "=>" | question => "?" | colon => ":" | comma => "," | dot => "." | semicolon => ";"
  | lparen => "(" | rparen => ")" | lbracket => "[" | rbracket => "]"
  | lbrace => "\x7b" | rbrace => "\x7d"

/-- The name of a symbol in error messages. -/
def label : Symbol → String
  | plus => "Plus" | minus => "Minus" | star => "Star" | starStar => "StarStar"
  | slash => "Slash" | percent => "Percent"
  | bang => "Bang" | tilde => "Tilde" | ampersand => "Ampersand" | pipe => "Pipe"
  | caret => "Caret" | shiftLeft => "ShiftLeft" | shiftRight => "ShiftRight"
  | eq => "Eq" | ne => "Ne" | strictEq => "StrictEq" | strictNe => "StrictNe"
  | lt => "Lt" | le => "Le" | gt => "Gt" | ge => "Ge"
  | and => "And" | or => "Or"
  | assign => "Assign" | plusAssign => "PlusAssign" | minusAssign => "MinusAssign"
  | starAssign => "StarAssign" | slashAssign => "SlashAssign" | percentAssign => "PercentAssign"
  | arrow => "Arrow" | question => "Question" | colon => "Colon" | comma => "Comma"
  | dot => "Dot" | semicolon => "Semicolon"
  | lparen => "LParen" | rparen => "RParen" | lbracket => "LBracket" | rbracket => "RBracket"
  | lbrace => "LBrace" | rbrace => "RBrace"

/-- Every symbol, longer spellings before shorter ones. -/
def all : List Symbol :=
  [ strictEq, strictNe,
    starStar, shiftLeft, shiftRight, eq, ne, le, ge, and, or,
    plusAssign, minusAssign, starAssign, slashAssign, percentAssign, arrow,
    plus, minus, star, slash, percent, bang, tilde, ampersand, pipe, caret,
    lt, gt, assign, question, colon, comma, dot, semicolon,
    lparen, rparen, lbracket, rbracket, lbrace, rbrace ]

end Symbol

inductive Token where
  | int (n : Int64)
  | float (x : Float)
  | str (s : String)
  | name (s : String)
  | sym (s : Symbol)
  /-- A character that begins no token; it is kept so that it can be reported. -/
  | unknown (c : Char)
  | eof
  deriving DecidableEq, Inhabited

def Token.shown : Token → String
  | .int n => "Int(" ++ Text.int64Text n ++ ")"
  | .float x => "Float(" ++ Decimal.Layout.diagnostic.write x ++ ")"
  | .str s => "Str(" ++ Text.quotedString s ++ ")"
  | .name s => "Ident(" ++ Text.quotedString s ++ ")"
  | .sym s => s.label
  | .unknown c => "Unknown(" ++ Text.quotedSingle c ++ ")"
  | .eof => "Eof"

end ChatTemplate.Script
