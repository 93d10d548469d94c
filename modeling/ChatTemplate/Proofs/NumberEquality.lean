/-
# ChatTemplate.Proofs.NumberEquality -- the two equalities of numbers

`===` asks whether the floats of two numbers are equal, `==` for their order, in which what cannot
be ordered counts as equal.  So the two are the same for all numbers that are one
(`looseEq_number`), while the result of a failed computation is equal to every number.

Main statement: `number_equality`.
-/
import ChatTemplate.Script.Eval
import ChatTemplate.Proofs.FloatOrder

namespace ChatTemplate.Script

set_option autoImplicit false

open Decimal

namespace Value

/-- Whole numbers and floats. -/
def isNumber : Value → Bool
  | .int _ | .float _ => true
  | _ => false

variable {l r : Value}

theorem strictEq_number (left : l.isNumber = true) (right : r.isNumber = true) :
    l.strictEq r = (l.toFloat == r.toFloat) := by
  cases l <;> cases left <;> cases r <;> cases right <;> rfl

theorem looseEq_number_order (left : l.isNumber = true) (right : r.isNumber = true) :
    l.looseEq r = ((floatOrder? l.toFloat r.toFloat).getD .eq == .eq) := by
  cases l <;> cases left <;> cases r <;> cases right <;> rfl

/-- **Numbers are loosely equal** when they are strictly equal or one of them is none. -/
theorem looseEq_number (left : l.isNumber = true) (right : r.isNumber = true) :
    l.looseEq r = (l.strictEq r || (l.toFloat.isNaN || r.toFloat.isNaN)) := by
  rw [looseEq_number_order left right, strictEq_number left right]
  by_cases none : l.toFloat.isNaN = true ∨ r.toFloat.isNaN = true
  · rw [(floatOrder?_eq_none_iff _ _).2 none, Bool.or_eq_true_iff.2 none, Bool.or_true]
    rfl
  · have ordered := mt (floatOrder?_eq_none_iff _ _).1 none
    rw [← Bool.or_eq_true, Bool.not_eq_true] at none
    rw [none, Bool.or_false, Bool.eq_iff_iff, beq_iff_compare, ← floatOrder?_eq, beq_iff_eq]
    cases order : floatOrder? l.toFloat r.toFloat with
    | none => exact absurd order ordered
    | some order => rw [Option.getD_some, Option.some_inj]

end Value

variable {l r : Value}

/-- A list is searched by any test that agrees with loose equality on its items. -/
theorem positionOf?_congr {value : Value} {test : Value → Bool} {items : List Value}
    (same : ∀ item ∈ items, item.looseEq value = test item) :
    positionOf? value items = items.findIdx? test := by
  rw [positionOf?]
  induction items with
  | nil => rfl
  | cons item items ih =>
      rw [List.forall_mem_cons] at same
      rw [List.findIdx?_cons, List.findIdx?_cons, ih same.2, same.1]

/-- **The equalities of numbers** are the same just when both numbers are one.  Otherwise the
numbers are equal, but not strictly; and so a list of numbers is searched. -/
theorem number_equality (left : l.isNumber = true) (right : r.isNumber = true) :
    (applyBinary .eq l r = applyBinary .strictEq l r ↔
        l.toFloat.isNaN = false ∧ r.toFloat.isNaN = false) ∧
      (l.toFloat.isNaN = true ∨ r.toFloat.isNaN = true →
        applyBinary .eq l r = .ok (.bool true) ∧ applyBinary .strictEq l r = .ok (.bool false)) ∧
      ∀ items : List Value, (∀ item ∈ items, item.isNumber = true) →
        callMethod? (.list items) "indexOf" [r] =
          some (.ok (ofPosition? (items.findIdx? fun item =>
            item.strictEq r || (item.toFloat.isNaN || r.toFloat.isNaN)))) := by
  have loose : applyBinary .eq l r =
      .ok (.bool (l.strictEq r || (l.toFloat.isNaN || r.toFloat.isNaN))) := by
    rw [← Value.looseEq_number left right]
    rfl
  have strict : applyBinary .strictEq l r = .ok (.bool (l.strictEq r)) := rfl
  have failed : l.toFloat.isNaN = true ∨ r.toFloat.isNaN = true →
      applyBinary .eq l r = .ok (.bool true) ∧ applyBinary .strictEq l r = .ok (.bool false) := by
    intro none
    rw [loose, strict, Bool.or_eq_true_iff.2 none, Bool.or_true,
      Value.strictEq_number left right, beq_of_isNaN none]
    exact ⟨rfl, rfl⟩
  refine ⟨⟨fun same => ?_, fun ⟨one, other⟩ => ?_⟩, failed, fun items numbers => ?_⟩
  · rw [← Bool.not_eq_true, ← Bool.not_eq_true, ← not_or]
    intro none
    rw [(failed none).1, (failed none).2] at same
    cases same
  · rw [loose, strict, one, other, Bool.or_false, Bool.or_false]
  · rw [← positionOf?_congr fun item member => Value.looseEq_number (numbers item member) right]
    rfl

/-- A fraction is compared with a whole number, and the failed reading of a text with both. -/
theorem three_halves_is_not_one :
    (Value.float 1.5).isNumber = true ∧ (Value.int 1).isNumber = true ∧
      (Value.float 1.5).toFloat.isNaN = false ∧ (Value.int 1).toFloat.isNaN = false ∧
      applyBinary .eq (.float 1.5) (.int 1) = applyBinary .strictEq (.float 1.5) (.int 1) ∧
      (Value.float Value.notANumber).toFloat.isNaN = true ∧
      applyBinary .eq (.float Value.notANumber) (.int 1) = .ok (.bool true) ∧
      callMethod? (.list [.float 1.5, .float Value.notANumber]) "indexOf" [.int 1] =
        some (.ok (.int 1)) := by
  have one : (Value.float 1.5).toFloat.isNaN = false := by decide +kernel
  have other : (Value.int 1).toFloat.isNaN = false := by decide +kernel
  have none : (Value.float Value.notANumber).toFloat.isNaN = true := by decide +kernel
  obtain ⟨same, -, search⟩ := number_equality (l := .float 1.5) (r := .int 1) rfl rfl
  obtain ⟨-, failed, -⟩ :=
    number_equality (l := .float Value.notANumber) (r := .int 1) rfl rfl
  refine ⟨rfl, rfl, one, other, same.2 ⟨one, other⟩, none, (failed (.inl none)).1, ?_⟩
  have found : [Value.float 1.5, Value.float Value.notANumber].findIdx? (fun item =>
      item.strictEq (.int 1) || (item.toFloat.isNaN || (Value.int 1).toFloat.isNaN)) = some 1 := by
    decide +kernel
  rw [search _ (by simp [Value.isNumber]), found]
  rfl

/-- The failed reading of a text as a whole number is equal to five, but not strictly. -/
theorem failed_reading_equals_five :
    parseInt (.str "x") = .float Value.notANumber ∧
      applyBinary .eq (.float Value.notANumber) (.int 5) = .ok (.bool true) ∧
      applyBinary .strictEq (.float Value.notANumber) (.int 5) = .ok (.bool false) := by
  have loose : (Value.float Value.notANumber).looseEq (.int 5) = true := by decide +kernel
  have strict : (Value.float Value.notANumber).strictEq (.int 5) = false := by decide +kernel
  exact ⟨rfl, congrArg (fun b => Except.ok (Value.bool b)) loose,
    congrArg (fun b => Except.ok (Value.bool b)) strict⟩

end ChatTemplate.Script
