/-
# ChatTemplate.Json.Writer -- JSON as text

The compact form: no white space, fields in their order, and only the escapes
that JSON demands.  Characters outside ASCII are written as they are.
-/
import ChatTemplate.Json.Basic
import ChatTemplate.Decimal.Layout

namespace ChatTemplate.Json

set_option autoImplicit false

/-- One character between double quotes. -/
def escaped (c : Char) : List Char :=
  if c = '"' ∨ c = '\\' then ['\\', c]
  else if c = '\x08' then ['\\', 'b']
  else if c = '\x0c' then ['\\', 'f']
  else if c = '\n' then ['\\', 'n']
  else if c = '\r' then ['\\', 'r']
  else if c = '\t' then ['\\', 't']
  else if c.toNat < 0x20 then
    '\\' :: 'u' :: '0' :: '0' :: Nat.toDigits 16 (c.toNat / 16) ++ Nat.toDigits 16 (c.toNat % 16)
  else [c]

def writeString (s : String) : List Char :=
  '"' :: s.toList.flatMap escaped ++ ['"']

mutual

def write : Json → List Char
  | .null => "null".toList
  | .bool b => if b then "true".toList else "false".toList
  | .int n => Text.writeInt n
  | .float x => (Decimal.Layout.json.write x).toList
  | .str s => writeString s
  | .list items => '[' :: writeItems items ++ [']']
  | .object fields => '\x7b' :: writeFields fields ++ ['\x7d']

def writeItems : List Json → List Char
  | [] => []
  | [item] => write item
  | item :: items => write item ++ ',' :: writeItems items

def writeFields : List (String × Json) → List Char
  | [] => []
  | [(name, value)] => writeString name ++ ':' :: write value
  | (name, value) :: fields => writeString name ++ ':' :: write value ++ ',' :: writeFields fields

end

def toText (json : Json) : String :=
  String.ofList (write json)

end ChatTemplate.Json
