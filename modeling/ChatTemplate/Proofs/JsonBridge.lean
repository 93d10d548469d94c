/-
# ChatTemplate.Proofs.JsonBridge -- values as documents, and back

A document keeps whole numbers and floats apart, as values do, so a value comes back from its
document with the same shape and the same numbers: a whole number in range as a whole number, a
float without a fraction as a float.  Only a float that is infinite or no number has no document; it
comes back as null (`settled`), wherever in the value it stands.

`replaceFloats` puts values in the place of floats at any depth, and leaves a value alone exactly
when it puts each of its floats (`floats`) back (`replaceFloats_eq_self_iff`).

Main statement: `ofJson_toJson`.
-/
import ChatTemplate.Proofs.FloatBits
import ChatTemplate.Proofs.IntegerText
import ChatTemplate.Script.Value

namespace ChatTemplate

set_option autoImplicit false

/-- The parts of a float tell whether it is a finite number. -/
theorem Decimal.isFinite_eq (x : Float) : Decimal.isFinite x = x.isFinite := by
  change _ = x.toModel.unpack.isFinite
  rw [Decimal.isFinite, Binary.ofFloat_eq]
  cases x.toModel.unpack <;> rfl

namespace Script.Value

/-! ## The floats of a value -/

mutual

/-- The floats in a value, at any depth. -/
def floats : Value → List Float
  | .float x => [x]
  | .list items => itemFloats items
  | .map fields => fieldFloats fields
  | .null | .bool _ | .int _ | .str _ => []

def itemFloats : List Value → List Float
  | [] => []
  | item :: items => floats item ++ itemFloats items

def fieldFloats : List (String × Value) → List Float
  | [] => []
  | (_, value) :: fields => floats value ++ fieldFloats fields

end

mutual

/-- The value with others in the place of its floats, at any depth. -/
def replaceFloats (put : Float → Value) : Value → Value
  | .null => .null
  | .bool b => .bool b
  | .int n => .int n
  | .float x => put x
  | .str s => .str s
  | .list items => .list (replaceItemFloats put items)
  | .map fields => .map (replaceFieldFloats put fields)

def replaceItemFloats (put : Float → Value) : List Value → List Value
  | [] => []
  | item :: items => replaceFloats put item :: replaceItemFloats put items

def replaceFieldFloats (put : Float → Value) : List (String × Value) → List (String × Value)
  | [] => []
  | (name, value) :: fields => (name, replaceFloats put value) :: replaceFieldFloats put fields

end

section Replacing

variable (put : Float → Value)

mutual

/-- **A value is left alone just when each of its floats is put back.** -/
theorem replaceFloats_eq_self_iff : (value : Value) →
    (value.replaceFloats put = value ↔ ∀ x ∈ value.floats, put x = .float x)
  | .null => by simp [replaceFloats, floats]
  | .bool b => by simp [replaceFloats, floats]
  | .int n => by simp [replaceFloats, floats]
  | .float x => by simp [replaceFloats, floats]
  | .str s => by simp [replaceFloats, floats]
  | .list items => by
      rw [replaceFloats, floats, list.injEq]
      exact replaceItemFloats_eq_self_iff items
  | .map fields => by
      rw [replaceFloats, floats, map.injEq]
      exact replaceFieldFloats_eq_self_iff fields

theorem replaceItemFloats_eq_self_iff : (items : List Value) →
    (replaceItemFloats put items = items ↔ ∀ x ∈ itemFloats items, put x = .float x)
  | [] => by simp [replaceItemFloats, itemFloats]
  | item :: items => by
      rw [replaceItemFloats, itemFloats, List.cons.injEq, List.forall_mem_append,
        replaceFloats_eq_self_iff item, replaceItemFloats_eq_self_iff items]

theorem replaceFieldFloats_eq_self_iff : (fields : List (String × Value)) →
    (replaceFieldFloats put fields = fields ↔ ∀ x ∈ fieldFloats fields, put x = .float x)
  | [] => by simp [replaceFieldFloats, fieldFloats]
  | (name, value) :: fields => by
      rw [replaceFieldFloats, fieldFloats, List.cons.injEq, Prod.mk.injEq, List.forall_mem_append,
        replaceFloats_eq_self_iff value, replaceFieldFloats_eq_self_iff fields]
      simp

end

end Replacing

/-! ## There and back -/

/-- What a float is in a document: itself, or null when it is infinite or no number. -/
def settled (x : Float) : Value :=
  if x.isFinite then .float x else .null

theorem settled_eq_float_iff (x : Float) : settled x = .float x ↔ x.isFinite = true := by
  unfold settled
  split <;> simp_all

/-- A whole number in a document is in the range of those that values hold. -/
theorem ofJson_int (n : Int64) : ofJson (.int n.toInt) = .int n := by
  rw [ofJson, if_pos (Text.inInt64_toInt n), Int64.ofInt_toInt]

theorem ofJson_toJson_float (x : Float) : ofJson (toJson (.float x)) = settled x := by
  rw [toJson, settled, Decimal.isFinite_eq]
  split <;> rw [ofJson]

mutual

/-- **A document gives back the value it was made of**, with its floats settled. -/
theorem ofJson_toJson_eq : (value : Value) → ofJson (toJson value) = value.replaceFloats settled
  | .null => rfl
  | .bool _ => rfl
  | .int n => ofJson_int n
  | .float x => ofJson_toJson_float x
  | .str _ => rfl
  | .list items => by
      rw [toJson, ofJson, replaceFloats, itemsOfJson_itemsToJson items]
  | .map fields => by
      rw [toJson, ofJson, replaceFloats, fieldsOfJson_fieldsToJson fields]

theorem itemsOfJson_itemsToJson : (items : List Value) →
    itemsOfJson (itemsToJson items) = replaceItemFloats settled items
  | [] => rfl
  | item :: items => by
      rw [itemsToJson, itemsOfJson, replaceItemFloats, ofJson_toJson_eq item,
        itemsOfJson_itemsToJson items]

theorem fieldsOfJson_fieldsToJson : (fields : List (String × Value)) →
    fieldsOfJson (fieldsToJson fields) = replaceFieldFloats settled fields
  | [] => rfl
  | (name, value) :: fields => by
      rw [fieldsToJson, fieldsOfJson, replaceFieldFloats, ofJson_toJson_eq value,
        fieldsOfJson_fieldsToJson fields]

end

/-- **A value comes back from its document with null in the place of every float that is not
finite**, and so unchanged just when all its floats are finite. -/
theorem ofJson_toJson (value : Value) :
    ofJson (toJson value) = value.replaceFloats settled ∧
      (ofJson (toJson value) = value ↔ ∀ x ∈ value.floats, x.isFinite = true) := by
  have back := ofJson_toJson_eq value
  refine ⟨back, ?_⟩
  rw [back, replaceFloats_eq_self_iff]
  simp only [settled_eq_float_iff]

end Script.Value

end ChatTemplate
