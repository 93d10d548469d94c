/-
# ChatTemplate.Proofs.FloatConversion -- whole numbers and floats

Turning a whole number into a float, or a mantissa and an exponent, gives the float nearest to it
(`approximates_ofInt`, `approximates_nearest`), and on the way back nothing is lost
(`isIntegral_iff`, `toInt64_eq`).  The remainder of two floats that stand for whole numbers stands
for the remainder of these (`value?_rem`).
-/
import ChatTemplate.Proofs.FloatArithmetic
import ChatTemplate.Proofs.IntegerText

namespace ChatTemplate.Decimal

set_option autoImplicit false

open Float.Model Float.Model.UnpackedFloat

/-! ## Decimal fractions -/

/-- What is below a smaller power of two is not too large for a float. -/
theorem lt_limit {q : ℚ} {k : ℕ} (small : q ≤ 2 ^ k) (fits : k < 1023) : q < 2 ^ (1023 : ℤ) := by
  rw [← zpow_natCast] at small
  exact small.trans_lt (zpow_lt_zpow_right₀ one_lt_two (by omega))

theorem value?_word {m : ℕ} (small : m < 2 ^ 53) : value? m.toUInt64.toFloat = some (m : ℚ) := by
  have word : m.toUInt64.toNat = m := by
    rw [Nat.toUInt64, UInt64.toNat_ofNat']
    exact Nat.mod_eq_of_lt (by omega)
  have approximates : Approximates m.toUInt64.toFloat ((m : ℤ) * 2 ^ (0 : ℤ) : ℚ) := by
    have bounded : |((m : ℤ) : ℚ) * 2 ^ (0 : ℤ)| < 2 ^ (1023 : ℤ) := by
      rw [zpow_zero, mul_one, Int.cast_natCast, Nat.abs_cast]
      exact lt_limit (by exact_mod_cast small.le) (by decide : 53 < 1023)
    have rounded := approximates_pack (isRounded_normalize m 0 .positive bounded)
    conv at rounded => arg 1; rw [← word]
    exact rounded
  rw [zpow_zero, mul_one] at approximates
  exact_mod_cast approximates.value?_eq_of_small (by rw [Nat.abs_cast]; exact_mod_cast small.le)

/-- Whether a float is a power of ten, tried on natural numbers, which the kernel computes with:
the exponents in the table are moved up by 52. -/
def isPowerOfTen (x : Float) (e : ℕ) : Bool :=
  match Binary.ofFloat x with
  | .finite false m f => decide (-52 ≤ f ∧ m * 2 ^ (f + 52).toNat = 10 ^ e * 2 ^ 52)
  | _ => false

theorem powers_of_ten : ∀ i : Fin Float.exactlyRepresentablePowersOfTen.size,
    isPowerOfTen Float.exactlyRepresentablePowersOfTen[i] i = true := by
  decide +kernel

/-- The powers of ten in the table are what they stand for. -/
theorem value?_power {e : ℕ} (small : e < Float.exactlyRepresentablePowersOfTen.size) :
    value? Float.exactlyRepresentablePowersOfTen[e] = some (10 ^ e) := by
  have entry : isPowerOfTen Float.exactlyRepresentablePowersOfTen[e] e = true :=
    powers_of_ten ⟨e, small⟩
  rw [isPowerOfTen] at entry
  rw [value?]
  generalize Binary.ofFloat _ = b at entry ⊢
  split at entry
  · rename_i m f
    obtain ⟨least, scaled⟩ := of_decide_eq_true entry
    obtain ⟨k, rfl⟩ := Int.le.dest least
    have up : (-52 + (k : ℤ) + 52).toNat = k := by omega
    rw [up] at scaled
    have exact : (m : ℚ) * 2 ^ k = 10 ^ e * 2 ^ 52 := by exact_mod_cast scaled
    have value : (m : ℚ) * 2 ^ (-52 + k : ℤ) = 10 ^ e := by
      rw [zpow_add₀ two_ne_zero, zpow_natCast, mul_left_comm, exact, zpow_neg]
      field_simp
    simp [Binary.value?, value]
  · cases entry

theorem log2_scaled {m : ℕ} (positive : 0 < m) (k : ℕ) : 52 ≤ (m <<< 53 * 10 ^ k).log2 := by
  have power : 0 < 10 ^ k := Nat.pow_pos (by decide)
  have long : 2 ^ 52 ≤ m <<< 53 * 10 ^ k := by
    calc 2 ^ 52 ≤ m <<< 53 := by
          rw [Nat.shiftLeft_eq]
          omega
      _ ≤ m <<< 53 * 10 ^ k := Nat.le_mul_of_pos_right _ power
  exact (Nat.le_log2 (by omega)).2 long

theorem isRounded_ofScientific {m : ℕ} {e : ℤ} (few : -1074 ≤ e)
    (bounded : (m : ℚ) * 10 ^ e < 2 ^ (1023 : ℤ)) :
    IsRounded (UnpackedFloat.ofScientific .binary64 m e) (m * 10 ^ e) := by
  rw [UnpackedFloat.ofScientific]
  split
  · rename_i zero
    rw [zero, Nat.cast_zero, zero_mul]
    exact isRounded_self (u := .zero _) trivial (value?_zero _)
  rename_i nonzero
  have positive : 0 < m := Nat.pos_of_ne_zero nonzero
  have small : e < 1023 := by
    by_contra large
    have power : (2 : ℚ) ^ (1023 : ℤ) ≤ m * 10 ^ e := by
      calc (2 : ℚ) ^ (1023 : ℤ) ≤ 2 ^ e := zpow_le_zpow_right₀ one_le_two (by omega)
        _ ≤ 10 ^ e := zpow_le_zpow_left₀ (by omega) two_pos.le (by norm_num)
        _ ≤ m * 10 ^ e := le_mul_of_one_le_left (zpow_nonneg (by norm_num) e)
            (by exact_mod_cast positive)
    exact absurd bounded power.not_gt
  have range : (2 : ℤ) ^ Format.binary64.exponentBits = 2048 := by decide
  rw [range, if_neg (by omega), if_neg (by omega)]
  split
  · rename_i whole
    obtain ⟨k, rfl⟩ := Int.eq_ofNat_of_zero_le whole
    have exact : ((m <<< 53 * 10 ^ k : ℕ) : ℚ) * 2 ^ (-53 : ℤ) = m * 10 ^ (k : ℤ) := by
      rw [Nat.shiftLeft_eq, zpow_natCast, zpow_neg]
      push_cast
      field_simp
    rw [← exact] at bounded ⊢
    have rounded := isRounded_roundWithAccuracy .positive (.exact _)
      (.inl (log2_scaled positive k)) bounded
    rw [signFactor, one_mul] at rounded
    exact rounded
  · rename_i fraction
    have places : ((-e).toNat : ℤ) = -e := by omega
    have exact : (m : ℚ) * 2 ^ (0 : ℤ) / ((10 ^ (-e).toNat : ℕ) * 2 ^ (0 : ℤ)) = m * 10 ^ e := by
      push_cast
      rw [← zpow_natCast, places, zpow_neg, mul_one, mul_one, div_inv_eq_mul]
    rw [← exact] at bounded ⊢
    have rounded := isRounded_div_finite .positive .positive positive (Nat.pow_pos (by decide))
      bounded
    rw [signFactor, one_mul, one_mul] at rounded
    exact rounded

/-- **A decimal number is read as the float nearest to it**: digits with zeros behind them. -/
theorem approximates_ofScientific_zeros {m e : ℕ}
    (bounded : (m : ℚ) * 10 ^ e < 2 ^ (1023 : ℤ)) :
    Approximates (Float.ofScientific m false e) (m * 10 ^ e) := by
  have magnitude : |(m : ℚ) * 10 ^ e| = m * 10 ^ e :=
    abs_of_nonneg (mul_nonneg m.cast_nonneg (pow_nonneg (by norm_num) e))
  rw [Float.ofScientific]
  split
  · rename_i fast
    have power := value?_power (show e < 23 by omega)
    exact approximates_mul (value?_word fast.1) power (magnitude.le.trans_lt bounded)
  · change Approximates (.ofModel (.ofScientific m (e : ℤ))) _
    rw [← zpow_natCast] at bounded ⊢
    exact approximates_pack (isRounded_ofScientific (e := (e : ℤ)) (by omega) bounded)

/-- The same for digits with a point. -/
theorem approximates_ofScientific_point {m e : ℕ} (few : e ≤ 1074)
    (bounded : (m : ℚ) / 10 ^ e < 2 ^ (1023 : ℤ)) :
    Approximates (Float.ofScientific m true e) (m / 10 ^ e) := by
  have magnitude : |(m : ℚ) / 10 ^ e| = m / 10 ^ e :=
    abs_of_nonneg (div_nonneg m.cast_nonneg (pow_nonneg (by norm_num) e))
  rw [Float.ofScientific]
  split
  · rename_i fast
    have power := value?_power (show e < 23 by omega)
    exact approximates_div (value?_word fast.1) power (by positivity)
      (magnitude.le.trans_lt bounded)
  · change Approximates (.ofModel (.ofScientific m (Int.negOfNat e))) _
    rw [div_eq_mul_inv, ← zpow_natCast, ← zpow_neg] at bounded ⊢
    rw [Int.negOfNat_eq]
    exact approximates_pack (isRounded_ofScientific (e := -(e : ℤ)) (by omega) bounded)

/-! ## A mantissa with an exponent -/

/-- **A mantissa and an exponent make the float nearest to their number.** -/
theorem approximates_nearest {m : ℕ} {e : ℤ} (few : -1074 ≤ e)
    (bounded : (m : ℚ) * 2 ^ e < 2 ^ (1023 : ℤ)) :
    Approximates (Binary.nearest m e) (m * 2 ^ e) := by
  rw [Binary.nearest]
  split
  · rename_i whole
    obtain ⟨k, rfl⟩ := Int.eq_ofNat_of_zero_le whole
    have same : ((m * Nat.pow 2 k : ℕ) : ℚ) * 10 ^ 0 = m * 2 ^ (k : ℤ) := by
      rw [Nat.pow_eq, pow_zero, mul_one, zpow_natCast]
      push_cast
      rfl
    rw [← same] at bounded ⊢
    exact approximates_ofScientific_zeros bounded
  · obtain ⟨k, rfl⟩ : ∃ k : ℕ, e = -k := ⟨(-e).toNat, by omega⟩
    have same : ((m * Nat.pow 5 k : ℕ) : ℚ) / 10 ^ k = m * 2 ^ (-k : ℤ) := by
      rw [Nat.pow_eq, zpow_neg, zpow_natCast, show (10 : ℚ) = 5 * 2 by norm_num, mul_pow]
      push_cast
      field_simp
    rw [← same] at bounded ⊢
    rw [neg_neg, Int.toNat_natCast]
    exact approximates_ofScientific_point (by omega) bounded

theorem Approximates.signed {x : Float} {q : ℚ} (approximates : Approximates x q)
    (negative : Bool) :
    Approximates (Binary.signed negative x) (if negative then -q else q) := by
  obtain ⟨r, value, rounds⟩ := approximates
  cases negative with
  | false => exact ⟨r, value, rounds⟩
  | true => exact ⟨-r, by rw [Binary.signed, if_pos rfl, value?_neg, value]; rfl, rounds.neg⟩

/-! ## Whole numbers -/

/-- **A whole number becomes the float nearest to it.** -/
theorem approximates_ofInt {n : ℤ} (bounded : |n| ≤ 2 ^ 64) : Approximates (ofInt n) n := by
  have magnitude : (n.natAbs : ℚ) = |(n : ℚ)| := by
    rw [← Int.cast_natCast, Int.natCast_natAbs, Int.cast_abs]
  have small : (n.natAbs : ℚ) * 10 ^ 0 < 2 ^ (1023 : ℤ) := by
    rw [pow_zero, mul_one, magnitude]
    exact lt_limit (by exact_mod_cast bounded) (by decide : 64 < 1023)
  have approximates := (approximates_ofScientific_zeros small).signed (n < 0)
  rw [pow_zero, mul_one, magnitude] at approximates
  have sign : (if decide (n < 0) = true then -|(n : ℚ)| else |(n : ℚ)|) = n := by
    by_cases negative : n < 0
    · rw [if_pos (decide_eq_true negative), abs_of_neg (by exact_mod_cast negative), neg_neg]
    · rw [if_neg (by simpa using negative), abs_of_nonneg (by exact_mod_cast not_lt.1 negative)]
  rwa [sign] at approximates

theorem value?_ofInt {n : ℤ} (small : |n| ≤ 2 ^ 53) : value? (ofInt n) = some (n : ℚ) :=
  (approximates_ofInt (small.trans (by decide))).value?_eq_of_small small

/-- Its mantissa and exponent say what number a float stands for. -/
theorem parts_of_value {x : Float} {q : ℚ} (value : value? x = some q) :
    ∃ negative m e, Binary.ofFloat x = .finite negative m e ∧ -1074 ≤ e ∧
      q = if negative then -((m : ℚ) * 2 ^ e) else m * 2 ^ e := by
  have canonical := canonical_unpack x.toModel
  rw [value?_eq] at value
  rw [Binary.ofFloat_eq]
  rcases zero_or_finite value with ⟨s, same, rfl⟩ | ⟨s, m, e, positive, same, rfl⟩
  · exact ⟨s == .negative, 0, -1074, by rw [same]; rfl, le_rfl, by simp⟩
  · rw [same] at canonical ⊢
    refine ⟨s == .negative, m, e, rfl, canonical.2.1, ?_⟩
    cases s
    · exact neg_one_mul _
    · exact one_mul _

theorem isWhole_iff (m : ℕ) (e : ℤ) :
    Binary.isWhole m e = true ↔ ∃ k : ℕ, (m : ℚ) * 2 ^ e = k := by
  rcases le_or_gt 0 e with whole | fraction
  · obtain ⟨j, rfl⟩ := Int.eq_ofNat_of_zero_le whole
    refine iff_of_true (by simp [Binary.isWhole]) ⟨m * 2 ^ j, ?_⟩
    rw [zpow_natCast]
    push_cast
    rfl
  · obtain ⟨j, rfl⟩ : ∃ j : ℕ, e = -j := ⟨(-e).toNat, by omega⟩
    have divides : Binary.isWhole m (-j) = true ↔ 2 ^ j ∣ m := by
      rw [Binary.isWhole, decide_eq_false (by omega), Bool.false_or, beq_iff_eq, neg_neg,
        Int.toNat_natCast, Nat.pow_eq, Nat.dvd_iff_mod_eq_zero]
    rw [divides, zpow_neg, zpow_natCast]
    constructor
    · rintro ⟨k, rfl⟩
      refine ⟨k, ?_⟩
      push_cast
      field_simp
    · rintro ⟨k, same⟩
      refine ⟨k, ?_⟩
      rw [← div_eq_mul_inv, div_eq_iff (by positivity)] at same
      rw [mul_comm]
      exact_mod_cast same

theorem wholePart_eq {m : ℕ} {e : ℤ} {k : ℕ} (same : (m : ℚ) * 2 ^ e = k) :
    Binary.wholePart m e = k := by
  rw [Binary.wholePart]
  split
  · rename_i whole
    obtain ⟨j, rfl⟩ := Int.eq_ofNat_of_zero_le whole
    rw [zpow_natCast] at same
    exact_mod_cast same
  · obtain ⟨j, rfl⟩ : ∃ j : ℕ, e = -j := ⟨(-e).toNat, by omega⟩
    rw [zpow_neg, zpow_natCast, ← div_eq_mul_inv, div_eq_iff (by positivity)] at same
    have multiple : m = k * 2 ^ j := by exact_mod_cast same
    rw [neg_neg, Int.toNat_natCast, Nat.pow_eq, multiple, Nat.mul_div_cancel _ (by positivity)]

/-- A whole number is its magnitude with its sign. -/
theorem magnitude_of_whole {negative : Bool} {r : ℚ} {n : ℤ} (nonneg : 0 ≤ r)
    (same : (n : ℚ) = if negative then -r else r) :
    r = n.natAbs ∧ (if negative then -(n.natAbs : ℤ) else n.natAbs) = n := by
  have cast : (n.natAbs : ℚ) = |(n : ℚ)| := by
    rw [← Int.cast_natCast, Int.natCast_natAbs, Int.cast_abs]
  cases negative with
  | false =>
      have sign : (0 : ℚ) ≤ n := nonneg.trans_eq same.symm
      refine ⟨by rw [cast, same, if_neg (by decide), abs_of_nonneg nonneg], ?_⟩
      have : 0 ≤ n := by exact_mod_cast sign
      simpa using this
  | true =>
      have sign : (n : ℚ) ≤ 0 := same.trans_le (neg_nonpos.2 nonneg)
      refine ⟨by rw [cast, same, if_pos rfl, abs_neg, abs_of_nonneg nonneg], ?_⟩
      have : n ≤ 0 := by exact_mod_cast sign
      rw [if_pos rfl]
      omega

/-- A float is whole just when its number is. -/
theorem isIntegral_iff {x : Float} {q : ℚ} (value : value? x = some q) :
    isIntegral x = true ↔ ∃ n : ℤ, q = n := by
  obtain ⟨negative, m, e, parts, -, rfl⟩ := parts_of_value value
  rw [isIntegral, parts]
  dsimp only
  rw [isWhole_iff]
  constructor
  · rintro ⟨k, same⟩
    exact ⟨if negative then -k else k, by rw [same]; cases negative <;> simp⟩
  · rintro ⟨n, same⟩
    exact ⟨n.natAbs, (magnitude_of_whole (by positivity) same.symm).1⟩

/-- The whole number of a float is found again. -/
theorem truncated?_eq {x : Float} {n : ℤ} (value : value? x = some (n : ℚ)) :
    truncated? x = some n := by
  obtain ⟨negative, m, e, parts, -, same⟩ := parts_of_value value
  obtain ⟨magnitude, sign⟩ := magnitude_of_whole (by positivity) same
  rw [truncated?, parts]
  dsimp only
  rw [wholePart_eq magnitude, sign]

theorem toInt64_eq {x : Float} {n : ℤ} (value : value? x = some (n : ℚ))
    (range : Text.inInt64 n = true) : toInt64 x = Int64.ofInt n := by
  obtain ⟨negative, m, e, parts, -, -⟩ := parts_of_value value
  rw [Text.inInt64, Bool.and_eq_true, decide_eq_true_eq, decide_eq_true_eq] at range
  have least : Int64.minValue.toInt = -(Text.signedLimit : ℤ) := rfl
  have most : Int64.maxValue.toInt = Text.signedLimit - 1 := rfl
  rw [toInt64, parts]
  dsimp only
  rw [truncated?_eq value, Option.getD_some, if_neg (by omega), if_neg (by omega)]

/-- A float is equal to zero just when its number is zero. -/
theorem beq_zero_iff {x : Float} {q : ℚ} (value : value? x = some q) :
    (x == 0.0) = true ↔ q = 0 := by
  have zero : (0.0 : Float).toModel.unpack = .zero .positive := rfl
  change x.toModel.unpack.beq (0.0 : Float).toModel.unpack = true ↔ q = 0
  rw [value?_eq] at value
  rw [zero]
  rcases zero_or_finite value with ⟨s, same, rfl⟩ | ⟨s, m, e, positive, same, rfl⟩
  · rw [same]
    exact iff_of_true rfl rfl
  · have factor : signFactor s ≠ 0 := by
      cases s <;> simp [signFactor]
    rw [same]
    refine iff_of_false ?_ (mul_ne_zero factor (by positivity))
    cases s <;> exact Bool.false_ne_true

/-! ## Remainders -/

/-- The remainder of two numbers can be computed at any exponent they have in common. -/
theorem mod_scaled {m n a b : ℕ} {e : ℤ} (left : (m : ℚ) * 2 ^ e = a)
    (right : (n : ℚ) * 2 ^ e = b) :
    ((m % n : ℕ) : ℚ) * 2 ^ e = (a % b : ℕ) := by
  rcases le_or_gt 0 e with whole | fraction
  · obtain ⟨j, rfl⟩ := Int.eq_ofNat_of_zero_le whole
    rw [zpow_natCast] at left right ⊢
    obtain rfl : m * 2 ^ j = a := by exact_mod_cast left
    obtain rfl : n * 2 ^ j = b := by exact_mod_cast right
    rw [Nat.mul_mod_mul_right]
    push_cast
    rfl
  · obtain ⟨j, rfl⟩ : ∃ j : ℕ, e = -j := ⟨(-e).toNat, by omega⟩
    rw [zpow_neg, zpow_natCast, ← div_eq_mul_inv, div_eq_iff (by positivity)] at left right ⊢
    obtain rfl : m = a * 2 ^ j := by exact_mod_cast left
    obtain rfl : n = b * 2 ^ j := by exact_mod_cast right
    rw [Nat.mul_mod_mul_right]
    push_cast
    rfl

theorem cast_mul_pow_sub (m : ℕ) {e low : ℤ} (below : low ≤ e) :
    ((m * Nat.pow 2 (e - low).toNat : ℕ) : ℚ) * 2 ^ low = m * 2 ^ e := by
  rw [← cast_decreaseExponent m below, decreaseExponent, Nat.shiftLeft_eq]
  rfl

theorem tmod_eq (a b : ℤ) (negative : Bool)
    (sign : (if negative then -(a.natAbs : ℤ) else a.natAbs) = a) :
    (if negative then -((a.natAbs % b.natAbs : ℕ) : ℤ) else (a.natAbs % b.natAbs : ℕ)) =
      a.tmod b := by
  have magnitude : ((a.natAbs % b.natAbs : ℕ) : ℤ) = (a.natAbs : ℤ).tmod b := by
    rw [Int.ofNat_tmod]
    rcases Int.natAbs_eq b with same | flipped
    · rw [← same]
    · conv_rhs => rw [flipped, Int.tmod_neg]
  rw [magnitude]
  conv_rhs => rw [← sign]
  cases negative with
  | false => rfl
  | true => exact (Int.neg_tmod _ _).symm

/-- **The remainder of whole numbers is exact**, and has the sign of the first. -/
theorem value?_rem {x y : Float} {a b : ℤ} (hx : value? x = some (a : ℚ))
    (hy : value? y = some (b : ℚ)) (nonzero : b ≠ 0) (small : |b| ≤ 2 ^ 53) :
    value? (rem x y) = some ((a.tmod b : ℤ) : ℚ) := by
  obtain ⟨s, m, e, left, least, ha⟩ := parts_of_value hx
  obtain ⟨t, n, f, right, least', hb⟩ := parts_of_value hy
  obtain ⟨ha, sign⟩ := magnitude_of_whole (by positivity) ha
  obtain ⟨hb, -⟩ := magnitude_of_whole (by positivity) hb
  have divisor : n ≠ 0 := by
    rintro rfl
    rw [Nat.cast_zero, zero_mul, eq_comm, Nat.cast_eq_zero, Int.natAbs_eq_zero] at hb
    exact nonzero hb
  rw [← cast_mul_pow_sub m (min_le_left e f)] at ha
  rw [← cast_mul_pow_sub n (min_le_right e f)] at hb
  have rest := mod_scaled ha hb
  have few : a.natAbs % b.natAbs ≤ 2 ^ 53 := by
    have less := Nat.mod_lt a.natAbs (Int.natAbs_pos.2 nonzero)
    rw [Int.abs_eq_natAbs] at small
    omega
  have approximates := (approximates_nearest (le_min least least') (rest.trans_lt
    (lt_limit (by exact_mod_cast few) (by decide : 53 < 1023)))).signed s
  rw [rest] at approximates
  have whole : (if s then -((a.natAbs % b.natAbs : ℕ) : ℚ) else (a.natAbs % b.natAbs : ℕ)) =
      (a.tmod b : ℤ) := by
    rw [← tmod_eq a b s sign]
    generalize a.natAbs % b.natAbs = r
    cases s <;> simp
  rw [whole] at approximates
  rw [rem, left, right]
  dsimp only
  rw [if_neg divisor]
  refine approximates.value?_eq_of_small ?_
  rw [Int.abs_eq_natAbs, Int.natAbs_tmod]
  exact_mod_cast few

end ChatTemplate.Decimal
