/-
# ChatTemplate.Script.Method -- the methods of texts, lists and numbers

Positions and lengths count characters.  `callMethod?` gives nothing when the
receiver has no such method.
-/
import ChatTemplate.Script.Function
import ChatTemplate.Text.Case

namespace ChatTemplate.Script

set_option autoImplicit false

/-! ## Slices -/

/-- A position in something of a given length; negative ones count from the
end. -/
def slicePosition (length : Nat) (value : Value) : Nat :=
  let n := value.toInt.toInt
  if n < 0 then length - n.natAbs else min n.toNat length

/-- Where a slice begins and ends; without arguments it is everything, and it
never ends before it begins. -/
def sliceBounds (length : Nat) (args : List Value) : Nat × Nat :=
  let start := (args.head?.map (slicePosition length)).getD 0
  let stop := (args[1]?.map (slicePosition length)).getD length
  (start, max stop start)

def slice {α : Type} (items : List α) (args : List Value) : List α :=
  let (start, stop) := sliceBounds items.length args
  (items.take stop).drop start

/-! ## Texts -/

def argChars (name : String) (args : List Value) (position : Nat) :
    Except ScriptError (List Char) :=
  (argAt name args position).map Value.chars

/-- The pieces between the separators, or the characters one by one when the
separator is empty. -/
def splitText (sep text : List Char) : List (List Char) :=
  if sep.isEmpty then text.map fun c => [c] else Text.splitOn sep text

/-- The text again and again, within the limit on bytes. -/
def repeatText (name : String) (s : String) (count : Int) : Except ScriptError Value :=
  if count < 0 then .error (.invalidCount name)
  else if s.utf8ByteSize * count.toNat ≤ maxRepeated then
    .ok (.str (String.ofList
      (if s.isEmpty then [] else (List.replicate count.toNat s.toList).flatten)))
  else .error (.tooLong name)

def ofPosition? : Option Nat → Value
  | some n => .ofLength n
  | none => .int (-1)

def textMethod? (s : String) (name : String) (args : List Value) :
    Option (Except ScriptError Value) :=
  let text := s.toList
  let withText (f : List Char → Value) : Option (Except ScriptError Value) :=
    some ((argChars name args 0).map f)
  match name with
  | "toUpperCase" => some (.ok (.str (Text.upperString s)))
  | "toLowerCase" => some (.ok (.str (Text.lowerString s)))
  | "trim" => some (.ok (.str (Text.trimString s)))
  | "startsWith" => withText fun pat => .bool (Text.startsWith pat text)
  | "endsWith" => withText fun pat => .bool (Text.endsWith pat text)
  | "includes" => withText fun pat => .bool (Text.contains pat text)
  | "indexOf" => withText fun pat => ofPosition? (Text.indexOf? pat text)
  | "split" => withText fun sep =>
      .list ((splitText sep text).map fun piece => .str (String.ofList piece))
  | "replace" =>
      some (do
        let pat ← argChars name args 0
        let value ← argChars name args 1
        return .str (String.ofList (Text.replaceFirst pat value text)))
  | "repeat" =>
      some (do
        let count ← argAt name args 0
        repeatText name s count.toInt.toInt)
  | "slice" => some (.ok (.str (String.ofList (slice text args))))
  | _ => none

/-! ## Lists -/

/-- The first position of an element equal to `value`. -/
def positionOf? (value : Value) (items : List Value) : Option Nat :=
  items.findIdx? fun item => item.looseEq value

def joinItems (items : List Value) (sep : Option Value) : Value :=
  let sep := (sep.map Value.chars).getD [',']
  .str (String.ofList (Text.join sep (items.map Value.chars)))

def listMethod? (items : List Value) (name : String) (args : List Value) :
    Option (Except ScriptError Value) :=
  match name with
  | "join" => some (.ok (joinItems items args.head?))
  | "includes" =>
      some ((firstArg name args).map fun value => .bool (positionOf? value items).isSome)
  | "indexOf" => some ((firstArg name args).map fun value => ofPosition? (positionOf? value items))
  | "slice" => some (.ok (.list (slice items args)))
  | _ => none

/-! ## Numbers -/

/-- A number with at most twenty places after the point. -/
def toFixed (x : Float) (places : Option Value) : Value :=
  let places := (places.map Value.toInt).getD 0
  .str (Decimal.fixed (min places.toInt.toNat 20) x)

def numberMethod? (x : Float) (name : String) (args : List Value) :
    Option (Except ScriptError Value) :=
  if name = "toFixed" then some (.ok (toFixed x args.head?)) else none

/-! ## Calls -/

/-- The methods of one kind of value. -/
def ownMethod? (receiver : Value) (name : String) (args : List Value) :
    Option (Except ScriptError Value) :=
  match receiver with
  | .str s => textMethod? s name args
  | .list items => listMethod? items name args
  | .int n => numberMethod? (Decimal.ofInt n.toInt) name args
  | .float x => numberMethod? x name args
  | _ => none

/-- Calls a method of a value, if it has it; every value can be turned into
text. -/
def callMethod? (receiver : Value) (name : String) (args : List Value) :
    Option (Except ScriptError Value) :=
  match ownMethod? receiver name args with
  | some result => some result
  | none => if name = "toString" then some (.ok (.str receiver.text)) else none

end ChatTemplate.Script
