/-
# ChatTemplate.Proofs.IntegerArithmetic -- when arithmetic on whole numbers is exact

Scripts add, subtract and multiply two whole numbers as such if the result fits a word, and
otherwise as floats; they always divide as floats.  A float result that is whole becomes a whole
number again.  Floats as large as an overflow are all whole, so an overflow is never seen
(`Value.combineExact_faithful_iff`), while floats stand for whole numbers up to `2 ^ 53` exactly,
so division is right between these (`Value.combine_div_faithful`, `Value.combine_rem_faithful`).

Main statement: `integer_arithmetic`.
-/
import ChatTemplate.Script.Eval
import ChatTemplate.Proofs.FloatConversion

namespace ChatTemplate.Script

set_option autoImplicit false

open Decimal

/-! ## What is exact -/

/-- The exact result of an operation of arithmetic; `%` is what truncated division leaves over. -/
def BinaryOp.exactResult? : BinaryOp → Option (ℤ → ℤ → ℚ)
  | .add => some fun a b => a + b
  | .sub => some fun a b => a - b
  | .mul => some fun a b => a * b
  | .div => some fun a b => a / b
  | .rem => some fun a b => (a.tmod b : ℤ)
  | _ => none

/-- Division and its remainder. -/
def BinaryOp.divides : BinaryOp → Bool
  | .div | .rem => true
  | _ => false

/-- A result tells the truth about a number: it is the number if that is a word, and else a
float. -/
def Faithful (result : Value) (q : ℚ) : Prop :=
  (∀ n : Int64, q = n.toInt → result = .int n) ∧
    ((∀ n : Int64, q ≠ n.toInt) → ∃ x, result = .float x)

/-- A whole number is in range just when it is a word. -/
theorem inInt64_iff (z : ℤ) : Text.inInt64 z = true ↔ ∃ n : Int64, (z : ℚ) = n.toInt := by
  constructor
  · intro range
    rw [Text.inInt64, Bool.and_eq_true, decide_eq_true_eq, decide_eq_true_eq] at range
    exact ⟨Int64.ofInt z, by rw [Int64.toInt_ofInt_of_le range.1 range.2]⟩
  · rintro ⟨n, same⟩
    obtain rfl : z = n.toInt := by exact_mod_cast same
    exact Text.inInt64_toInt n

theorem inInt64_of_small {z : ℤ} (small : |z| ≤ 2 ^ 53) : Text.inInt64 z = true := by
  rw [abs_le] at small
  rw [Text.inInt64, Text.signedLimit, Bool.and_eq_true, decide_eq_true_eq, decide_eq_true_eq]
  omega

/-- A whole number that is given as a word is given faithfully just when it is in range. -/
theorem faithful_int_iff (z : ℤ) (n : Int64) :
    Faithful (.int n) z ↔ n = Int64.ofInt z ∧ ∃ m : Int64, (z : ℚ) = m.toInt := by
  constructor
  · rintro ⟨inside, outside⟩
    by_cases range : ∃ m : Int64, (z : ℚ) = m.toInt
    · obtain ⟨m, same⟩ := range
      obtain rfl : z = m.toInt := by exact_mod_cast same
      rw [Int64.ofInt_toInt]
      exact ⟨(Value.int.inj (inside m rfl)), m, rfl⟩
    · obtain ⟨x, same⟩ := outside fun m same => range ⟨m, same⟩
      cases same
  · rintro ⟨rfl, m, same⟩
    obtain rfl : z = m.toInt := by exact_mod_cast same
    rw [Int64.ofInt_toInt]
    refine ⟨fun k same => ?_, fun none => absurd rfl (none m)⟩
    rw [Int64.toInt_inj.1 (show m.toInt = k.toInt by exact_mod_cast same)]

namespace Value

variable {a b : Int64} {q : ℚ}

theorem abs_toInt_le (n : Int64) : |n.toInt| ≤ 2 ^ 63 := by
  have low := n.le_toInt
  have high := n.toInt_lt
  rw [abs_le]
  omega

theorem ofResult_int {x : Float} {n : Int64} (whole : isIntegral x = true)
    (word : toInt64 x = n) : ofResult x false = .int n := by
  rw [ofResult, whole, word]
  rfl

theorem ofResult_whole {x : Float} {n : ℤ} (value : value? x = some (n : ℚ)) :
    ofResult x false = .int (toInt64 x) :=
  ofResult_int ((isIntegral_iff value).2 ⟨n, rfl⟩) rfl

theorem ofResult_fraction {x : Float} (value : value? x = some q) (fraction : ∀ n : ℤ, q ≠ n) :
    ofResult x false = .float x := by
  have no : isIntegral x = false := by
    rw [← Bool.not_eq_true, isIntegral_iff value]
    rintro ⟨n, same⟩
    exact fraction n same
  rw [ofResult, no]
  rfl

/-! ## Sums, differences and products -/

/-- The float of a word is whole and at most twice as large. -/
theorem value?_toFloat (n : Int64) :
    ∃ w : ℤ, value? (Value.int n).toFloat = some (w : ℚ) ∧ |(w : ℚ)| ≤ 2 ^ 64 ∧
      (w = 0 → n.toInt = 0) := by
  have small : |(n.toInt : ℚ)| ≤ 2 ^ 63 := by exact_mod_cast abs_toInt_le n
  obtain ⟨r, value, rounds⟩ := approximates_ofInt (n := n.toInt)
    ((abs_toInt_le n).trans (by decide))
  obtain ⟨w, rfl⟩ := rounds.whole
  obtain ⟨large, zero⟩ := rounds.bounds
  exact ⟨w, value, by linarith, fun same => zero (by rw [same, Int.cast_zero])⟩

/-- What is combined as floats is whole if the exact result of whole numbers is. -/
theorem combine_whole {exact : ℤ → ℤ → ℤ} {f : Float → Float → Float}
    (whole : ∀ {x y : Float} {p q : ℤ}, value? x = some (p : ℚ) → value? y = some (q : ℚ) →
      |(p : ℚ)| ≤ 2 ^ 64 → |(q : ℚ)| ≤ 2 ^ 64 → Approximates (f x y) (exact p q : ℤ)) :
    ∃ n, combine f (.int a) (.int b) = .int n := by
  obtain ⟨p, hp, small, -⟩ := value?_toFloat a
  obtain ⟨q, hq, small', -⟩ := value?_toFloat b
  obtain ⟨r, value, rounds⟩ := whole hp hq small small'
  obtain ⟨w, rfl⟩ := rounds.whole
  exact ⟨_, ofResult_whole value⟩

/-- **Combining whole numbers as such, if the result fits, gives the exact result just when it
fits**: no overflow is seen. -/
theorem combineExact_faithful_iff {exact : ℤ → ℤ → ℤ} {f : Float → Float → Float}
    (whole : ∀ {x y : Float} {p q : ℤ}, value? x = some (p : ℚ) → value? y = some (q : ℚ) →
      |(p : ℚ)| ≤ 2 ^ 64 → |(q : ℚ)| ≤ 2 ^ 64 → Approximates (f x y) (exact p q : ℤ)) :
    Faithful (combineExact exact f (.int a) (.int b)) (exact a.toInt b.toInt : ℤ) ↔
      ∃ n : Int64, ((exact a.toInt b.toInt : ℤ) : ℚ) = n.toInt := by
  rw [combineExact]
  split
  · rename_i fits
    have range := (inInt64_iff _).1 fits
    exact iff_of_true ((faithful_int_iff _ _).2 ⟨rfl, range⟩) range
  · rename_i overflow
    rw [inInt64_iff] at overflow
    obtain ⟨n, same⟩ := combine_whole (a := a) (b := b) whole
    rw [same, faithful_int_iff]
    exact iff_of_false (fun faithful => overflow faithful.2) overflow

theorem add_faithful_iff (a b : Int64) :
    Faithful (add (.int a) (.int b)) (a.toInt + b.toInt) ↔
      ∃ n : Int64, (a.toInt : ℚ) + b.toInt = n.toInt := by
  rw [← Int.cast_add]
  refine combineExact_faithful_iff fun hp hq small small' => ?_
  rw [Int.cast_add]
  exact approximates_add hp hq ((abs_add_le _ _).trans_lt
    (lt_limit (k := 65) (by linarith) (by decide)))

theorem sub_faithful_iff (a b : Int64) :
    Faithful (sub (.int a) (.int b)) (a.toInt - b.toInt) ↔
      ∃ n : Int64, (a.toInt : ℚ) - b.toInt = n.toInt := by
  rw [← Int.cast_sub]
  refine combineExact_faithful_iff fun hp hq small small' => ?_
  rw [Int.cast_sub]
  exact approximates_sub hp hq ((abs_sub _ _).trans_lt
    (lt_limit (k := 65) (by linarith) (by decide)))

theorem mul_faithful_iff (a b : Int64) :
    Faithful (mul (.int a) (.int b)) (a.toInt * b.toInt) ↔
      ∃ n : Int64, (a.toInt : ℚ) * b.toInt = n.toInt := by
  rw [← Int.cast_mul]
  refine combineExact_faithful_iff fun hp hq small small' => ?_
  rw [Int.cast_mul]
  refine approximates_mul hp hq (lt_limit (k := 128) ?_ (by decide))
  rw [abs_mul]
  calc _ ≤ (2 : ℚ) ^ 64 * 2 ^ 64 := mul_le_mul small small' (abs_nonneg _) (by positivity)
    _ = 2 ^ 128 := by norm_num

/-! ## Quotients and remainders -/

theorem toFloat_beq_zero (nonzero : b ≠ 0) : ((Value.int b).toFloat == 0.0) = false := by
  obtain ⟨w, value, -, zero⟩ := value?_toFloat b
  rw [← Bool.not_eq_true, beq_zero_iff value]
  intro same
  exact nonzero (Int64.toInt_inj.1 (zero (by exact_mod_cast same)))

theorem div_int (a : Int64) (nonzero : b ≠ 0) :
    div (.int a) (.int b) = .ok (combine (· / ·) (.int a) (.int b)) := by
  rw [div, toFloat_beq_zero nonzero]
  rfl

theorem rem_int (a : Int64) (nonzero : b ≠ 0) :
    rem (.int a) (.int b) = .ok (combine Decimal.rem (.int a) (.int b)) := by
  rw [rem, toFloat_beq_zero nonzero]
  rfl

/-- A quotient of small whole numbers that is rounded to a whole number is one: it would be off by
less than one part in the dividend. -/
theorem quotient_whole {m n w : ℤ} (small : |m| ≤ 2 ^ 53) (small' : |n| ≤ 2 ^ 53)
    (nonzero : n ≠ 0) (rounds : Rounds (m / n) w) : (m : ℚ) / n = w := by
  have divisor : (0 : ℚ) < |(n : ℚ)| := abs_pos.2 (by exact_mod_cast nonzero)
  rcases eq_or_ne m 0 with rfl | some
  · rw [Int.cast_zero, zero_div, ← Int.cast_zero] at rounds ⊢
    exact (rounds.eq_of_small (by decide)).symm
  · have numerator : (1 : ℚ) ≤ |(m : ℚ)| := by
      exact_mod_cast Int.one_le_abs some
    have normal : (2 : ℚ) ^ (-1022 : ℤ) ≤ |(m : ℚ) / n| := by
      rw [abs_div, le_div_iff₀ divisor]
      calc (2 : ℚ) ^ (-1022 : ℤ) * |(n : ℚ)| ≤ 2 ^ (-1022 : ℤ) * 2 ^ 53 :=
            mul_le_mul_of_nonneg_left (by exact_mod_cast small') (by positivity)
        _ ≤ 1 := by
            rw [← zpow_natCast, ← zpow_add₀ two_ne_zero]
            exact zpow_le_one_of_nonpos₀ one_le_two (by decide)
        _ ≤ |(m : ℚ)| := numerator
    have close := rounds.abs_sub_lt normal
    rw [abs_div, lt_div_iff₀ divisor, mul_assoc, ← abs_mul, sub_mul,
      div_mul_cancel₀ _ (abs_pos.1 divisor)] at close
    have off : 2 ^ 53 * |w * n - m| < 2 ^ 53 * 1 := by
      have : 2 ^ 53 * |w * n - m| < |m| := by exact_mod_cast close
      omega
    have exact_quotient : w * n = m := by
      have := abs_nonneg (w * n - m)
      rw [← sub_eq_zero, ← abs_eq_zero]
      omega
    rw [div_eq_iff (abs_pos.1 divisor)]
    exact_mod_cast exact_quotient.symm

theorem combine_div_faithful (small : |a.toInt| ≤ 2 ^ 53) (small' : |b.toInt| ≤ 2 ^ 53)
    (nonzero : b ≠ 0) :
    Faithful (combine (· / ·) (.int a) (.int b)) (a.toInt / b.toInt) := by
  have divisor : b.toInt ≠ 0 := fun zero => nonzero (Int64.toInt_inj.1 zero)
  have magnitude : |(a.toInt : ℚ) / b.toInt| ≤ 2 ^ 53 := by
    have : (1 : ℚ) ≤ |(b.toInt : ℚ)| := by exact_mod_cast Int.one_le_abs divisor
    rw [abs_div]
    exact (div_le_self (abs_nonneg _) this).trans (by exact_mod_cast small)
  obtain ⟨r, value, rounds⟩ := approximates_div (value?_ofInt small) (value?_ofInt small')
    (by exact_mod_cast divisor) (lt_limit magnitude (by decide))
  by_cases whole : ∃ w : ℤ, r = w
  · obtain ⟨w, rfl⟩ := whole
    have quotient := quotient_whole small small' divisor rounds
    have range : Text.inInt64 w = true := by
      rw [quotient] at magnitude
      exact inInt64_of_small (by exact_mod_cast magnitude)
    have result : combine (· / ·) (.int a) (.int b) = .int (Int64.ofInt w) :=
      (ofResult_whole value).trans (by rw [toInt64_eq value range])
    rw [result, quotient, faithful_int_iff]
    exact ⟨rfl, (inInt64_iff w).1 range⟩
  · have result : ∃ x, combine (· / ·) (.int a) (.int b) = .float x :=
      ⟨_, ofResult_fraction value fun n same => whole ⟨n, same⟩⟩
    refine ⟨fun n same => ?_, fun _ => result⟩
    rw [same] at rounds
    exact absurd rounds.whole whole

theorem combine_rem_faithful (small : |a.toInt| ≤ 2 ^ 53) (small' : |b.toInt| ≤ 2 ^ 53)
    (nonzero : b ≠ 0) :
    Faithful (combine Decimal.rem (.int a) (.int b)) (a.toInt.tmod b.toInt : ℤ) := by
  have divisor : b.toInt ≠ 0 := fun zero => nonzero (Int64.toInt_inj.1 zero)
  have value := value?_rem (value?_ofInt small) (value?_ofInt small') divisor small'
  have range : Text.inInt64 (a.toInt.tmod b.toInt) = true := by
    refine inInt64_of_small (le_trans ?_ small)
    rw [Int.abs_eq_natAbs, Int.abs_eq_natAbs, Int.natAbs_tmod]
    exact_mod_cast Nat.mod_le _ _
  have result : combine Decimal.rem (.int a) (.int b) = .int (Int64.ofInt (a.toInt.tmod b.toInt)) :=
    (ofResult_whole value).trans (by rw [toInt64_eq value range])
  rw [result, faithful_int_iff]
  exact ⟨rfl, (inInt64_iff _).1 range⟩

end Value

/-! ## All operators -/

variable {op : BinaryOp} {exact : ℤ → ℤ → ℚ}

/-- **Arithmetic on whole numbers**: addition, subtraction and multiplication tell the truth just
when the result fits a word; division and its remainder do when no operand is larger than
`2 ^ 53`. -/
theorem integer_arithmetic (operator : op.exactResult? = some exact) (a b : Int64)
    (divisor : op.divides = true → b ≠ 0) :
    ∃ result, applyBinary op (.int a) (.int b) = .ok result ∧
      (op.divides = false → (Faithful result (exact a.toInt b.toInt) ↔
        ∃ n : Int64, exact a.toInt b.toInt = n.toInt)) ∧
      (op.divides = true → |a.toInt| ≤ 2 ^ 53 → |b.toInt| ≤ 2 ^ 53 →
        Faithful result (exact a.toInt b.toInt)) := by
  cases op with
  | add =>
      cases operator
      exact ⟨_, rfl, fun _ => Value.add_faithful_iff a b, nofun⟩
  | sub =>
      cases operator
      exact ⟨_, rfl, fun _ => Value.sub_faithful_iff a b, nofun⟩
  | mul =>
      cases operator
      exact ⟨_, rfl, fun _ => Value.mul_faithful_iff a b, nofun⟩
  | div =>
      cases operator
      have nonzero := divisor rfl
      exact ⟨_, Value.div_int a nonzero, nofun, fun _ small small' =>
        Value.combine_div_faithful small small' nonzero⟩
  | rem =>
      cases operator
      have nonzero := divisor rfl
      exact ⟨_, Value.rem_int a nonzero, nofun, fun _ small small' =>
        Value.combine_rem_faithful small small' nonzero⟩
  | _ => cases operator

/-- Seven divided by two is no whole number, and given as a float. -/
theorem seven_halves_is_a_float :
    BinaryOp.div.exactResult? = some (fun (a b : ℤ) => (a : ℚ) / b) ∧ (2 : Int64) ≠ 0 ∧
      (∀ n : Int64, ((7 : ℤ) : ℚ) / (2 : ℤ) ≠ n.toInt) ∧
      ∃ x, applyBinary .div (.int 7) (.int 2) = .ok (.float x) := by
  have operator : BinaryOp.div.exactResult? = some (fun (a b : ℤ) => (a : ℚ) / b) := rfl
  have nonzero : (2 : Int64) ≠ 0 := by decide
  have fraction : ∀ n : Int64, ((7 : ℤ) : ℚ) / (2 : ℤ) ≠ n.toInt := by
    intro n half
    rw [div_eq_iff (by norm_num)] at half
    have : 7 = n.toInt * 2 := by exact_mod_cast half
    omega
  obtain ⟨result, ran, -, faithful⟩ := integer_arithmetic operator 7 2 fun _ => nonzero
  obtain ⟨x, rfl⟩ := (faithful rfl (by decide) (by decide)).2 fraction
  exact ⟨operator, nonzero, fraction, x, ran⟩

/-- The largest word and one more is given as a word, so the overflow is not seen.  A dividend
that no float stands for is rounded first: half an odd number is given as a word, and the last
digit of the largest word as `8`. -/
theorem large_results_are_wrong :
    (applyBinary .add (.int 9223372036854775807) (.int 1) = .ok (.int 9223372036854775807) ∧
        ¬ Faithful (.int 9223372036854775807) (9223372036854775807 + 1)) ∧
      (applyBinary .div (.int 9007199254740993) (.int 2) = .ok (.int 4503599627370496) ∧
        ¬ Faithful (.int 4503599627370496) (9007199254740993 / 2)) ∧
      (applyBinary .rem (.int 9223372036854775807) (.int 10) = .ok (.int 8) ∧
        ¬ Faithful (.int 8) ((9223372036854775807 : ℤ).tmod 10 : ℤ)) := by
  refine ⟨⟨congrArg Except.ok ?_, ?_⟩,
    ⟨(Value.div_int _ (by decide)).trans (congrArg Except.ok ?_), ?_⟩,
    ⟨(Value.rem_int _ (by decide)).trans (congrArg Except.ok ?_), ?_⟩⟩
  · have overflow : Value.add (.int 9223372036854775807) (.int 1) =
        Value.combine (· + ·) (.int 9223372036854775807) (.int 1) := rfl
    exact overflow.trans (Value.ofResult_int (by decide +kernel) (by decide +kernel))
  · rintro ⟨-, outside⟩
    obtain ⟨x, same⟩ := outside fun n same => by
      have := n.toInt_lt
      have sum : (9223372036854775807 + 1 : ℤ) = n.toInt := by exact_mod_cast same
      omega
    cases same
  · exact Value.ofResult_int (by decide +kernel) (by decide +kernel)
  · rintro ⟨-, outside⟩
    obtain ⟨x, same⟩ := outside fun n same => by
      rw [div_eq_iff two_ne_zero] at same
      have double : (9007199254740993 : ℤ) = n.toInt * 2 := by exact_mod_cast same
      omega
    cases same
  · exact Value.ofResult_int (by decide +kernel) (by decide +kernel)
  · rw [faithful_int_iff]
    rintro ⟨same, -⟩
    exact absurd same (by decide)

end ChatTemplate.Script
