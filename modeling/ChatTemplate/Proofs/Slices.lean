/-
# ChatTemplate.Proofs.Slices -- what `slice` takes out of a text or a list

A slice is given by two positions, each any value at all: numbers count from the front, negative
ones from the end, and what stands for no number counts as zero.  Whatever they are, they come to
two places in the text or list, the second not before the first (`sliceBounds_le`), and the slice
is what stands between them (`isSlice_slice`).

Main statement: `slices_stay_in_range`.
-/
import ChatTemplate.Script.Method

namespace ChatTemplate.Script

set_option autoImplicit false

variable {α : Type}

/-! ## Positions -/

/-- **A position is never behind the end.** -/
theorem slicePosition_le (length : Nat) (value : Value) : slicePosition length value ≤ length := by
  simp only [slicePosition]
  split <;> omega

@[simp] theorem slicePosition_zero (length : Nat) : slicePosition length (.int 0) = 0 := by
  simp [slicePosition, Value.toInt]

theorem toInt_ofNat {n : Nat} (fits : n < Text.signedLimit) : (Int64.ofNat n).toInt = n :=
  Int64.toInt_ofNat_of_lt fits

/-- The number of elements before a position is the position itself. -/
theorem slicePosition_ofLength {length n : Nat} (within : n ≤ length)
    (fits : length < Text.signedLimit) : slicePosition length (.ofLength n) = n := by
  have word : (Int64.ofNat n).toInt = n := toInt_ofNat (by omega)
  simp only [slicePosition, Value.ofLength, Value.toInt, word]
  split <;> omega

@[simp] theorem sliceBounds_from (length : Nat) (a : Value) :
    sliceBounds length [a] = (slicePosition length a, length) := by
  have within := slicePosition_le length a
  simp [sliceBounds, within]

@[simp] theorem sliceBounds_between (length : Nat) (a b : Value) (others : List Value) :
    sliceBounds length (a :: b :: others) =
      (slicePosition length a, max (slicePosition length b) (slicePosition length a)) := by
  simp [sliceBounds]

/-- **A slice begins before it ends, and ends before the end.** -/
theorem sliceBounds_le (length : Nat) (args : List Value) :
    (sliceBounds length args).1 ≤ (sliceBounds length args).2 ∧
      (sliceBounds length args).2 ≤ length := by
  match args with
  | [] => simp [sliceBounds]
  | [a] =>
      rw [sliceBounds_from]
      exact ⟨slicePosition_le length a, Nat.le_refl length⟩
  | a :: b :: others =>
      rw [sliceBounds_between]
      have first := slicePosition_le length a
      have second := slicePosition_le length b
      omega

/-- The smallest word counts from the end, past the front. -/
example : sliceBounds 3 [.int (-9223372036854775808), .int 2] = (0, 2) := by decide

/-! ## Slices -/

/-- What stands in a list from one place up to another. -/
def IsSlice (bounds : Nat × Nat) (whole part : List α) : Prop :=
  ∃ before after, whole = before ++ part ++ after ∧
    before.length = bounds.1 ∧ (before ++ part).length = bounds.2

/-- **A slice is what stands between its bounds.** -/
theorem isSlice_slice (items : List α) (args : List Value) :
    IsSlice (sliceBounds items.length args) items (slice items args) := by
  obtain ⟨ordered, within⟩ := sliceBounds_le items.length args
  generalize bounds : sliceBounds items.length args = places at ordered within ⊢
  have parts : (items.take places.2).take places.1 ++ slice items args = items.take places.2 := by
    simp only [slice, bounds, List.take_append_drop]
  refine ⟨(items.take places.2).take places.1, items.drop places.2, ?_, ?_, ?_⟩
  · rw [parts, List.take_append_drop]
  · simp only [List.length_take]
    omega
  · rw [parts, List.length_take]
    omega

theorem slice_infix (items : List α) (args : List Value) : slice items args <:+: items := by
  obtain ⟨before, after, whole, -, -⟩ := isSlice_slice items args
  exact ⟨before, after, whole.symm⟩

/-- **The slices up to a position and from it on make the whole.** -/
theorem slice_append_slice (items : List α) (a : Value) :
    slice items [.int 0, a] ++ slice items [a] = items := by
  simp [slice]

/-- A slice between two numbers of elements. -/
theorem slice_ofLength {items : List α} {i j : Nat} (ordered : i ≤ j) (within : j ≤ items.length)
    (fits : items.length < Text.signedLimit) :
    slice items [.ofLength i, .ofLength j] = (items.drop i).take (j - i) := by
  have first := slicePosition_ofLength (Nat.le_trans ordered within) fits
  have second := slicePosition_ofLength within fits
  simp only [slice, sliceBounds_between, first, second, Nat.max_eq_left ordered, List.drop_take]

/-! ## Calls -/

theorem callMethod_slice_str (s : String) (args : List Value) :
    callMethod? (.str s) "slice" args =
      some (.ok (.str (String.ofList (slice s.toList args)))) :=
  rfl

theorem callMethod_slice_list (items : List Value) (args : List Value) :
    callMethod? (.list items) "slice" args = some (.ok (.list (slice items args))) :=
  rfl

/-- **Slices stay in range.**  For all arguments the places of a slice are in order and within the
text or list; the slice is what stands between them, and the slices up to any position and from it
on are the whole text or list. -/
theorem slices_stay_in_range (args : List Value) (a : Value) :
    (∀ length : Nat, (sliceBounds length args).1 ≤ (sliceBounds length args).2 ∧
        (sliceBounds length args).2 ≤ length) ∧
      (∀ s : String, ∃ part front back : String,
        callMethod? (.str s) "slice" args = some (.ok (.str part)) ∧
        IsSlice (sliceBounds s.length args) s.toList part.toList ∧
        callMethod? (.str s) "slice" [.int 0, a] = some (.ok (.str front)) ∧
        callMethod? (.str s) "slice" [a] = some (.ok (.str back)) ∧ front ++ back = s) ∧
      ∀ items : List Value, ∃ part front back : List Value,
        callMethod? (.list items) "slice" args = some (.ok (.list part)) ∧
        IsSlice (sliceBounds items.length args) items part ∧
        callMethod? (.list items) "slice" [.int 0, a] = some (.ok (.list front)) ∧
        callMethod? (.list items) "slice" [a] = some (.ok (.list back)) ∧
        front ++ back = items := by
  refine ⟨fun length => sliceBounds_le length args, fun s => ?_, fun items => ?_⟩
  · have stands := isSlice_slice s.toList args
    rw [String.length_toList] at stands
    refine ⟨_, _, _, callMethod_slice_str s args, ?_, callMethod_slice_str s _,
      callMethod_slice_str s _, ?_⟩
    · rwa [String.toList_ofList]
    · rw [← String.ofList_append, slice_append_slice, String.ofList_toList]
  · exact ⟨_, _, _, callMethod_slice_list items args, isSlice_slice items args,
      callMethod_slice_list items _, callMethod_slice_list items _,
      slice_append_slice items a⟩

end ChatTemplate.Script
