/-
# ChatTemplate.Script.Value -- the values that scripts compute with

Scripts are loosely typed: text, numbers and truth values turn into one another
wherever an operator needs a particular kind.  Lists and maps carry fetched JSON
and the viewer list.  A map keeps its keys in order, each once, as JSON objects
do, so the bridge to JSON (`toJson`, `ofJson`) goes through structure alone.
-/
import ChatTemplate.Json.Writer
import ChatTemplate.Decimal.Reader
import ChatTemplate.Text.Blank

namespace ChatTemplate.Script

set_option autoImplicit false

inductive Value where
  | null
  | bool (b : Bool)
  | int (n : Int64)
  | float (x : Float)
  | str (s : String)
  | list (items : List Value)
  | map (fields : List (String × Value))
  deriving Inhabited

/-- A float as chat shows it: whole numbers without a point, anything else with
the fewest digits that read back. -/
def formatNumber (x : Float) : String :=
  match Decimal.Binary.ofFloat x with
  | .nan => "NaN"
  | .infinite negative => if negative then "-Infinity" else "Infinity"
  | .finite .. =>
      match Decimal.truncated? x with
      | some whole =>
          if Decimal.isIntegral x ∧ whole.natAbs < 1000000000000000 then
            String.ofList (Text.writeInt whole)
          else Decimal.Layout.plain.write x
      | none => Decimal.Layout.plain.write x

namespace Value

/-! ## JSON -/

mutual

/-- The document with the same content; a float that is no number becomes null. -/
def toJson : Value → Json
  | .null => .null
  | .bool b => .bool b
  | .int n => .int n.toInt
  | .float x => if Decimal.isFinite x then .float x else .null
  | .str s => .str s
  | .list items => .list (itemsToJson items)
  | .map fields => .object (fieldsToJson fields)

def itemsToJson : List Value → List Json
  | [] => []
  | item :: items => toJson item :: itemsToJson items

def fieldsToJson : List (String × Value) → List (String × Json)
  | [] => []
  | (name, value) :: fields => (name, toJson value) :: fieldsToJson fields

end

mutual

/-- The value with the same content; a whole number too large for a signed word
becomes a float. -/
def ofJson : Json → Value
  | .null => .null
  | .bool b => .bool b
  | .int n => if Text.inInt64 n then .int (Int64.ofInt n) else .float (Decimal.ofInt n)
  | .float x => .float x
  | .str s => .str s
  | .list items => .list (itemsOfJson items)
  | .object fields => .map (fieldsOfJson fields)

def itemsOfJson : List Json → List Value
  | [] => []
  | item :: items => ofJson item :: itemsOfJson items

def fieldsOfJson : List (String × Json) → List (String × Value)
  | [] => []
  | (name, json) :: fields => (name, ofJson json) :: fieldsOfJson fields

end

/-! ## As text -/

mutual

/-- How a value reads in a message: nothing for null, the items of a list with
commas between them, a map as JSON. -/
def chars : Value → List Char
  | .null => []
  | .bool b => if b then "true".toList else "false".toList
  | .int n => Text.writeInt n.toInt
  | .float x => (formatNumber x).toList
  | .str s => s.toList
  | .list items => itemChars items
  | .map fields => (Json.object (fieldsToJson fields)).write

def itemChars : List Value → List Char
  | [] => []
  | [item] => chars item
  | item :: items => chars item ++ ',' :: itemChars items

end

def text (value : Value) : String :=
  String.ofList value.chars

/-! ## As a truth value or a number -/

/-- Null, false, zero, what is no number and the empty text count as false. -/
def truthy : Value → Bool
  | .null => false
  | .bool b => b
  | .int n => n != 0
  | .float x => x != 0.0 && !x.isNaN
  | .str s => !s.isEmpty
  | .list _ => true
  | .map _ => true

/-- The whole number a value stands for, zero when it stands for none. -/
def toInt : Value → Int64
  | .int n => n
  | .float x => Decimal.toInt64 x
  | .bool b => if b then 1 else 0
  | .str s =>
      let trimmed := Text.trim s.toList
      match Text.readInt64? trimmed with
      | some n => n
      | none =>
          match Decimal.read? trimmed with
          | some x => Decimal.toInt64 x
          | none => 0
  | .null => 0
  | .list _ => 0
  | .map _ => 0

/-- The float that is no number. -/
def notANumber : Float := 0.0 / 0.0

/-- The number a value stands for; blank text and null stand for zero. -/
def toFloat : Value → Float
  | .int n => Decimal.ofInt n.toInt
  | .float x => x
  | .bool b => if b then 1.0 else 0.0
  | .null => 0.0
  | .str s =>
      let trimmed := Text.trim s.toList
      if trimmed.isEmpty then 0.0 else (Decimal.read? trimmed).getD notANumber
  | .list _ => notANumber
  | .map _ => notANumber

def isNull : Value → Bool
  | .null => true
  | _ => false

/-! ## Parts -/

/-- The number of elements as a script sees it. -/
def ofLength (n : Nat) : Value :=
  .int (Int64.ofNat n)

/-- The property `value.key`; what is not there is null. -/
def member (value : Value) (key : String) : Value :=
  match value with
  | .map fields => (fields.lookup key).getD .null
  | .list items => if key = "length" then ofLength items.length else .null
  | .str s => if key = "length" then ofLength s.length else .null
  | _ => .null

/-- The element `value[key]`: by position in lists and text, by name in maps. -/
def index (value key : Value) : Value :=
  let position := key.toInt.toInt
  match value with
  | .list items => if 0 ≤ position then (items[position.toNat]?).getD .null else .null
  | .str s =>
      if 0 ≤ position then
        match s.toList[position.toNat]? with
        | some c => .str (String.singleton c)
        | none => .null
      else .null
  | .map _ => value.member key.text
  | _ => .null

end Value

end ChatTemplate.Script
