/-
# ChatTemplate.Json.Basic -- JSON documents

Replies of web services and payloads of events are JSON documents.  A whole
number that fits a 64-bit word, signed or not, stays a whole number; every other
number is a float.  The fields of an object are kept in the order of their
names, each name once (`insertField`), so two objects with the same fields are
the same list and are written the same way.
-/
namespace ChatTemplate

set_option autoImplicit false

inductive Json where
  | null
  | bool (b : Bool)
  | int (n : Int)
  | float (x : Float)
  | str (s : String)
  | list (items : List Json)
  | object (fields : List (String × Json))
  deriving Inhabited

/-! ## Fields in order -/

/-- Adds a field to fields in the order of their names; a field of that name is
replaced. -/
def insertField {α : Type} (name : String) (value : α) :
    List (String × α) → List (String × α)
  | [] => [(name, value)]
  | (other, old) :: fields =>
      if name < other then (name, value) :: (other, old) :: fields
      else if name = other then (name, value) :: fields
      else (other, old) :: insertField name value fields

/-- The fields in the order of their names; of two with one name the later one
counts. -/
def orderedFields {α : Type} (fields : List (String × α)) : List (String × α) :=
  fields.foldl (fun ordered field => insertField field.1 field.2 ordered) []

namespace Json

/-! ## Looking inside -/

/-- The field of an object. -/
def field? (name : String) : Json → Option Json
  | .object fields => fields.lookup name
  | _ => none

/-- The element of a list. -/
def item? (i : Nat) : Json → Option Json
  | .list items => items[i]?
  | _ => none

def text? : Json → Option String
  | .str s => some s
  | _ => none

/-- A number as a float. -/
def number? : Json → Option Float
  | .int n => some (Float.ofInt n)
  | .float x => some x
  | _ => none

/-- A whole number that is not negative. -/
def natural? : Json → Option Nat
  | .int n => if 0 ≤ n then some n.toNat else none
  | _ => none

end Json

end ChatTemplate
