/-
# ChatTemplate.Proofs.FloatRounding -- rounding to the nearest float

The operations on floats compute a mantissa that may have too many bits, with two more bits for
what was cut off already, and round it to 53.  `Describes` says what such a mantissa knows about
the exact result, and `isRounded_roundWithAccuracy` that the outcome is the exact result rounded
(`Rounds`).
-/
import ChatTemplate.Proofs.FloatBits

namespace ChatTemplate.Decimal

set_option autoImplicit false

open Float.Model Float.Model.UnpackedFloat

/-! ## The number a float stands for -/

/-- The number a float stands for, unless it is none. -/
def Binary.value? : Binary → Option ℚ
  | .finite negative mantissa exponent =>
      some ((if negative then -1 else 1) * (mantissa * 2 ^ exponent))
  | _ => none

def signFactor : Sign → ℚ
  | .negative => -1
  | .positive => 1

theorem value?_zero (sign : Sign) : (Binary.ofUnpacked (.zero sign)).value? = some 0 := by
  simp [Binary.ofUnpacked, Binary.value?]

theorem value?_finite (sign : Sign) (m : ℕ) (e : ℤ) (positive : 0 < m) :
    (Binary.ofUnpacked (.finite sign m e positive)).value? =
      some (signFactor sign * (m * 2 ^ e)) := by
  cases sign <;> rfl

/-! ## The nearest number of 53 bits -/

/-- `r` is `q` rounded: a multiple of the last of 53 binary places of `q`, at most half a place
away.  No place is smaller than `2 ^ -1074`. -/
def Rounds (q r : ℚ) : Prop :=
  ∃ place : ℤ, -1074 ≤ place ∧ |q| < 2 ^ (53 + place) ∧
    (2 ^ (52 + place) ≤ |q| ∨ place = -1074) ∧
    (∃ n : ℤ, r = n * 2 ^ place) ∧ 2 * |r - q| ≤ 2 ^ place

namespace Rounds

variable {q r : ℚ}

theorem neg (rounds : Rounds q r) : Rounds (-q) (-r) := by
  obtain ⟨place, least, upper, lower, ⟨n, rfl⟩, near⟩ := rounds
  refine ⟨place, least, by rwa [abs_neg], by rwa [abs_neg], ⟨-n, by push_cast; ring⟩, ?_⟩
  rwa [neg_sub_neg, abs_sub_comm]

/-- What has at most 53 bits stays as it is. -/
theorem eq_of_few_bits (rounds : Rounds q r) {m k : ℤ} (value : q = m * 2 ^ k)
    (few : |m| < 2 ^ 53) (least : -1074 ≤ k) : r = q := by
  obtain ⟨place, -, -, lower, ⟨n, rfl⟩, near⟩ := rounds
  have positive : (0 : ℚ) < 2 ^ place := by positivity
  have below : place ≤ k := by
    rcases lower with lower | rfl
    · have few' : |(m : ℚ)| < 2 ^ 53 := by exact_mod_cast few
      have upper : |q| < 2 ^ (53 + k) := by
        rw [value, abs_mul, abs_of_pos (show (0 : ℚ) < 2 ^ k by positivity),
          zpow_add₀ two_ne_zero]
        exact mul_lt_mul_of_pos_right few' (by positivity)
      have := (zpow_lt_zpow_iff_right₀ one_lt_two).1 (lower.trans_lt upper)
      omega
    · exact least
  obtain ⟨j, rfl⟩ := Int.le.dest below
  have multiple : q = ((m * 2 ^ j : ℤ) : ℚ) * 2 ^ place := by
    rw [value, zpow_add₀ two_ne_zero, zpow_natCast]
    push_cast
    ring
  rw [multiple, ← sub_mul, abs_mul, abs_of_pos positive, ← mul_assoc,
    mul_le_iff_le_one_left positive] at near
  have same : n = m * 2 ^ j := by
    have apart : 2 * |n - m * 2 ^ j| ≤ 1 := by exact_mod_cast near
    rw [← sub_eq_zero, ← abs_eq_zero]
    have := abs_nonneg (n - m * 2 ^ j)
    omega
  rw [multiple, same]

/-- A whole number of magnitude at most `2 ^ 53` stays as it is. -/
theorem eq_of_small {n : ℤ} (rounds : Rounds n r) (small : |n| ≤ 2 ^ 53) : r = n := by
  rcases small.lt_or_eq with less | same
  · exact rounds.eq_of_few_bits (m := n) (k := 0) (by simp) less (by decide)
  · rcases eq_or_eq_neg_of_abs_eq same with rfl | rfl
    · exact rounds.eq_of_few_bits (m := 1) (k := 53) (by norm_num) (by norm_num) (by decide)
    · exact rounds.eq_of_few_bits (m := -1) (k := 53) (by norm_num) (by norm_num) (by decide)

/-- A whole number is rounded to a whole number. -/
theorem whole {n : ℤ} (rounds : Rounds n r) : ∃ w : ℤ, r = w := by
  by_cases small : |n| ≤ 2 ^ 53
  · exact ⟨n, rounds.eq_of_small small⟩
  · obtain ⟨place, -, upper, -, ⟨w, rfl⟩, -⟩ := rounds
    have large : (2 : ℚ) ^ (53 : ℤ) < |(n : ℚ)| := by
      exact_mod_cast not_le.1 small
    have := (zpow_lt_zpow_iff_right₀ one_lt_two).1 (large.trans upper)
    obtain ⟨j, rfl⟩ := Int.eq_ofNat_of_zero_le (show 0 ≤ place by omega)
    exact ⟨w * 2 ^ j, by push_cast; rw [zpow_natCast]⟩

/-- The error is less than `2 ^ -53` of the number, unless that is too small. -/
theorem abs_sub_lt (rounds : Rounds q r) (normal : 2 ^ (-1022 : ℤ) ≤ |q|) :
    2 ^ 53 * |r - q| < |q| := by
  have ⟨place, least, _, lower, _, near⟩ := rounds
  have above : 2 ^ (52 + place) ≤ |q| := lower.elim id (fun smallest => by rwa [smallest])
  rcases above.eq_or_lt with edge | inside
  · have same : r = q := by
      rcases abs_choice q with h | h
      · exact rounds.eq_of_few_bits (m := 1) (k := 52 + place) (by rw [edge, h]; simp)
          (by norm_num) (by omega)
      · exact rounds.eq_of_few_bits (m := -1) (k := 52 + place) (by rw [edge, h]; simp)
          (by norm_num) (by omega)
    rw [same, sub_self, abs_zero, mul_zero, ← edge]
    positivity
  · rw [zpow_add₀ two_ne_zero] at inside
    norm_num at inside ⊢
    linarith

/-- Rounding at most doubles a whole number, and makes none zero. -/
theorem bounds {n : ℤ} (rounds : Rounds n r) : |r| ≤ 2 * |(n : ℚ)| ∧ (r = 0 → n = 0) := by
  by_cases small : |n| ≤ 2 ^ 53
  · have same := rounds.eq_of_small small
    rw [same]
    exact ⟨le_mul_of_one_le_left (abs_nonneg _) one_le_two, fun zero => by exact_mod_cast zero⟩
  · have large : (1 : ℚ) ≤ |(n : ℚ)| := by
      exact_mod_cast (show 1 ≤ |n| by omega)
    have close := rounds.abs_sub_lt ((zpow_le_one_of_nonpos₀ one_le_two (by decide)).trans large)
    have apart := abs_sub_abs_le_abs_sub r n
    have nonneg := abs_nonneg (r - n)
    constructor
    · linarith
    · rintro rfl
      rw [zero_sub, abs_neg] at close
      linarith

end Rounds

/-! ## Mantissas with two bits more -/

/-- The exact result that a mantissa stands for: it lies at the mantissa, below the middle to the
next one, in the middle or above it. -/
def Describes (em : ExtendedMantissa) (x : ℚ) : Prop :=
  match em.roundBit, em.stickyBit with
  | false, false => x = em.mantissa
  | false, true => em.mantissa < x ∧ x < em.mantissa + 1 / 2
  | true, false => x = em.mantissa + 1 / 2
  | true, true => em.mantissa + 1 / 2 < x ∧ x < em.mantissa + 1

namespace Describes

variable {em : ExtendedMantissa} {x : ℚ}

theorem exact (m : ℕ) : Describes (.ofMantissaAndAccuracy m .exact) m :=
  rfl

theorem bounds (describes : Describes em x) : em.mantissa ≤ x ∧ x < em.mantissa + 1 := by
  obtain ⟨m, round, sticky⟩ := em
  cases round <;> cases sticky <;> simp only [Describes] at describes ⊢ <;>
    constructor <;> linarith

/-- The mantissa is rounded to the nearest one. -/
theorem rounded (describes : Describes em x) : 2 * |(em.roundedMantissa : ℚ) - x| ≤ 1 := by
  have half : |(em.roundedMantissa : ℚ) - x| ≤ 1 / 2 := by
    rw [abs_le]
    obtain ⟨m, round, sticky⟩ := em
    cases round <;> cases sticky <;>
      simp only [Describes, ExtendedMantissa.roundedMantissa, ExtendedMantissa.accuracy,
        Accuracy.roundToNearestEven] at describes ⊢
    · constructor <;> linarith
    · constructor <;> linarith
    · have even : m % 2 = 0 ∨ m % 2 = 1 := by omega
      rcases even with even | even <;> rw [even] <;> push_cast <;> constructor <;> linarith
    · push_cast
      constructor <;> linarith
  linarith

/-- One bit less of the mantissa describes half the number. -/
theorem shiftRightOne (describes : Describes em x) : Describes em.shiftRightOne (x / 2) := by
  obtain ⟨m, round, sticky⟩ := em
  have split : (m : ℚ) = 2 * (m / 2 : ℕ) + (m % 2 : ℕ) := by
    exact_mod_cast (Nat.div_add_mod m 2).symm
  have bit : m % 2 = 0 ∨ m % 2 = 1 := by omega
  rcases bit with bit | bit <;> rw [bit] at split <;> cases round <;> cases sticky <;>
    simp [Describes, ExtendedMantissa.shiftRightOne, bit] at describes split ⊢ <;>
    grind

theorem shiftRight (describes : Describes em x) (n : ℕ) : Describes (em >>> n) (x / 2 ^ n) := by
  change Describes (n.repeat ExtendedMantissa.shiftRightOne em) _
  induction n with
  | zero => simpa [Nat.repeat] using describes
  | succ n ih =>
      rw [Nat.repeat, pow_succ, ← div_div]
      exact ih.shiftRightOne

end Describes

theorem mantissa_ofMantissaAndAccuracy (m : ℕ) (accuracy : Accuracy) :
    (ExtendedMantissa.ofMantissaAndAccuracy m accuracy).mantissa = m := by
  rcases accuracy with _ | ⟨_ | _ | _⟩ <;> rfl

theorem mantissa_shiftRight (em : ExtendedMantissa) (n : ℕ) :
    (em >>> n).mantissa = em.mantissa / 2 ^ n := by
  change (n.repeat ExtendedMantissa.shiftRightOne em).mantissa = _
  induction n with
  | zero => simp [Nat.repeat]
  | succ n ih =>
      rw [Nat.repeat, ExtendedMantissa.shiftRightOne, ih, Nat.div_div_eq_div_mul, pow_succ]

/-- A mantissa is rounded to itself or the next one. -/
theorem roundedMantissa_bounds (em : ExtendedMantissa) :
    em.mantissa ≤ em.roundedMantissa ∧ em.roundedMantissa ≤ em.mantissa + 1 := by
  obtain ⟨m, round, sticky⟩ := em
  cases round <;> cases sticky <;>
    simp only [ExtendedMantissa.roundedMantissa, ExtendedMantissa.accuracy,
      Accuracy.roundToNearestEven] <;> omega

/-! ## Rounding to the place of a float -/

/-- The last place of the float next to `m · 2 ^ e`. -/
def place (m : ℕ) (e : ℤ) : ℤ :=
  max (m.log2 - 52 + e) (-1074)

theorem targetExponent_eq (m : ℕ) (e : ℤ) :
    Format.binary64.targetExponent (totalExponent m e) = place m e := by
  have bits : (Format.binary64.mantissaBits : ℤ) = 53 := rfl
  have least : Format.binary64.minExponent = -1074 := rfl
  rw [Format.targetExponent, totalExponent, place, bits, least]
  congr 1
  omega

/-- The float of a mantissa that may have become `2 ^ 53` by rounding. -/
def carried (sign : Sign) (n : ℕ) (e : ℤ) : UnpackedFloat :=
  if zero : n = 0 then .zero sign
  else if n < 2 ^ 53 then .finite sign n e (Nat.pos_of_ne_zero zero)
  else .finite sign (2 ^ 52) (e + 1) (by decide)

theorem shift_fitting {n : ℕ} {e : ℤ} (fits : n < 2 ^ 53) (least : -1074 ≤ e) :
    shiftToTargetExponent .binary64 n e .exact = (⟨n, false, false⟩, e) := by
  have log : n.log2 ≤ 52 := by
    by_cases zero : n = 0
    · simp [zero]
    · have := (Nat.log2_lt zero).2 fits
      omega
  have shift : (place n e - e).toNat = 0 := by
    rw [place]
    omega
  rw [shiftToTargetExponent, targetExponent_eq, shiftToExponent, shift]
  simp [HShiftRight.hShiftRight, Nat.repeat, ExtendedMantissa.ofMantissaAndAccuracy]

theorem shift_carry {e : ℤ} (least : -1074 ≤ e) :
    shiftToTargetExponent .binary64 (2 ^ 53) e .exact = (⟨2 ^ 52, false, false⟩, e + 1) := by
  have shift : (place (2 ^ 53) e - e).toNat = 1 := by
    rw [place, Nat.log2_two_pow]
    omega
  rw [shiftToTargetExponent, targetExponent_eq, shiftToExponent, shift]
  simp [HShiftRight.hShiftRight, Nat.repeat, ExtendedMantissa.ofMantissaAndAccuracy,
    ExtendedMantissa.shiftRightOne]

theorem add_toNat_place {m : ℕ} {e : ℤ} (enough : 52 ≤ m.log2 ∨ e ≤ -1074) :
    e + (place m e - e).toNat = place m e := by
  rw [place]
  omega

/-- The mantissa, cut off at the place, has 53 bits, unless the place is the smallest. -/
theorem cut_bounds {m : ℕ} {e : ℤ} (enough : 52 ≤ m.log2 ∨ e ≤ -1074) :
    m / 2 ^ (place m e - e).toNat < 2 ^ 53 ∧
      (2 ^ 52 ≤ m / 2 ^ (place m e - e).toNat ∨ place m e = -1074) := by
  have shift : m.log2 ≤ 52 + (place m e - e).toNat := by
    rw [place]
    omega
  constructor
  · rw [Nat.div_lt_iff_lt_mul (Nat.two_pow_pos _), ← pow_add]
    exact Nat.lt_log2_self.trans_le (Nat.pow_le_pow_right (by decide) (by omega))
  · by_cases smallest : place m e = -1074
    · exact .inr smallest
    · have log : m.log2 = 52 + (place m e - e).toNat := by
        rw [place] at smallest ⊢
        omega
      have nonzero : m ≠ 0 := by
        rintro rfl
        simp only [Nat.log2_zero] at log
        omega
      left
      rw [Nat.le_div_iff_mul_le (Nat.two_pow_pos _), ← pow_add, ← log]
      exact Nat.log2_self_le nonzero

/-- **Rounding**, in one step: the mantissa is cut off at the place of the float and rounded. -/
theorem roundWithAccuracy_eq (sign : Sign) {m : ℕ} {e : ℤ} (accuracy : Accuracy)
    (enough : 52 ≤ m.log2 ∨ e ≤ -1074) :
    roundWithAccuracy .binary64 sign m e accuracy =
      carried sign (ExtendedMantissa.ofMantissaAndAccuracy m accuracy
        >>> (place m e - e).toNat).roundedMantissa (place m e) := by
  have least : -1074 ≤ place m e := le_max_right _ _
  have first : shiftToTargetExponent .binary64 m e accuracy =
      (ExtendedMantissa.ofMantissaAndAccuracy m accuracy >>> (place m e - e).toNat,
        place m e) := by
    rw [shiftToTargetExponent, targetExponent_eq, shiftToExponent, add_toNat_place enough]
  have small := (cut_bounds enough).1
  rw [← mantissa_ofMantissaAndAccuracy m accuracy, ← mantissa_shiftRight,
    mantissa_ofMantissaAndAccuracy] at small
  rw [roundWithAccuracy, first]
  dsimp only
  generalize ExtendedMantissa.ofMantissaAndAccuracy m accuracy >>> (place m e - e).toNat = em
    at small ⊢
  have next := (roundedMantissa_bounds em).2
  rw [carried]
  rcases (show em.roundedMantissa ≤ 2 ^ 53 by omega).lt_or_eq with fits | carry
  · rw [shift_fitting fits least]
    simp only [fits, if_true]
  · rw [carry, shift_carry least]
    rfl

/-- The parts are those of a float, and it stands for `q` rounded. -/
def IsRounded (u : UnpackedFloat) (q : ℚ) : Prop :=
  Canonical u ∧ ∃ r, (Binary.ofUnpacked u).value? = some r ∧ Rounds q r

theorem canonical_carried (sign : Sign) {n : ℕ} {e : ℤ} (least : -1074 ≤ e) (most : e ≤ 970)
    (normal : 2 ^ 52 ≤ n ∨ e = -1074) : Canonical (carried sign n e) := by
  rw [carried]
  split
  · trivial
  · split
    · exact ⟨‹_›, least, by omega, normal⟩
    · exact ⟨by norm_num, by omega, by omega, .inl le_rfl⟩

theorem value?_carried (sign : Sign) {n : ℕ} (e : ℤ) (small : n ≤ 2 ^ 53) :
    (Binary.ofUnpacked (carried sign n e)).value? = some (signFactor sign * (n * 2 ^ e)) := by
  rw [carried]
  split
  · rename_i zero
    rw [value?_zero, zero]
    simp
  · split
    · exact value?_finite ..
    · obtain rfl : n = 2 ^ 53 := by omega
      rw [value?_finite, zpow_add₀ two_ne_zero]
      push_cast
      ring_nf

theorem Rounds.signed {q r : ℚ} (rounds : Rounds q r) (sign : Sign) :
    Rounds (signFactor sign * q) (signFactor sign * r) := by
  cases sign with
  | positive => simpa [signFactor] using rounds
  | negative => simpa [signFactor] using rounds.neg

/-- A number whose mantissa has 53 bits is as large as these allow. -/
theorem Describes.scaled_bounds {em : ExtendedMantissa} {x : ℚ} {p : ℤ}
    (describes : Describes em x) (small : em.mantissa < 2 ^ 53)
    (normal : 2 ^ 52 ≤ em.mantissa ∨ p = -1074) :
    x * 2 ^ p < 2 ^ (53 + p) ∧ (2 ^ (52 + p) ≤ x * 2 ^ p ∨ p = -1074) := by
  have positive : (0 : ℚ) < 2 ^ p := by positivity
  obtain ⟨floor, ceiling⟩ := describes.bounds
  rw [zpow_add₀ two_ne_zero, zpow_add₀ two_ne_zero]
  constructor
  · have below : ((em.mantissa + 1 : ℕ) : ℚ) ≤ (2 ^ 53 : ℕ) := by exact_mod_cast small
    push_cast at below
    exact mul_lt_mul_of_pos_right (ceiling.trans_le below) positive
  · refine normal.imp_left fun full => ?_
    have above : ((2 ^ 52 : ℕ) : ℚ) ≤ em.mantissa := by exact_mod_cast full
    push_cast at above
    exact mul_le_mul_of_nonneg_right (above.trans floor) positive.le

/-- The rounded mantissa stands for the exact result rounded. -/
theorem Describes.rounds {em : ExtendedMantissa} {x : ℚ} {p : ℤ} (describes : Describes em x)
    (least : -1074 ≤ p) (small : em.mantissa < 2 ^ 53)
    (normal : 2 ^ 52 ≤ em.mantissa ∨ p = -1074) :
    Rounds (x * 2 ^ p) (em.roundedMantissa * 2 ^ p) := by
  have positive : (0 : ℚ) < 2 ^ p := by positivity
  have nonneg : 0 ≤ x := (Nat.cast_nonneg _).trans describes.bounds.1
  have magnitude : |x * 2 ^ p| = x * 2 ^ p := abs_of_nonneg (mul_nonneg nonneg positive.le)
  obtain ⟨below, above⟩ := describes.scaled_bounds small normal
  refine ⟨p, least, by rwa [magnitude], by rwa [magnitude], ⟨em.roundedMantissa, by simp⟩, ?_⟩
  rw [← sub_mul, abs_mul, abs_of_pos positive, ← mul_assoc]
  exact mul_le_of_le_one_left positive.le describes.rounded

/-- **Rounding gives the float nearest to the exact result**, if that is not too large. -/
theorem isRounded_roundWithAccuracy (sign : Sign) {m : ℕ} {e : ℤ} {accuracy : Accuracy} {x : ℚ}
    (describes : Describes (.ofMantissaAndAccuracy m accuracy) x)
    (enough : 52 ≤ m.log2 ∨ e ≤ -1074) (bounded : x * 2 ^ e < 2 ^ (1023 : ℤ)) :
    IsRounded (roundWithAccuracy .binary64 sign m e accuracy) (signFactor sign * (x * 2 ^ e)) := by
  have least : -1074 ≤ place m e := le_max_right _ _
  obtain ⟨small, normal⟩ := cut_bounds enough
  rw [← mantissa_ofMantissaAndAccuracy m accuracy, ← mantissa_shiftRight,
    mantissa_ofMantissaAndAccuracy] at small normal
  have cut := describes.shiftRight (place m e - e).toNat
  have scaled : x / 2 ^ (place m e - e).toNat * 2 ^ place m e = x * 2 ^ e := by
    have sum := add_toNat_place enough
    generalize (place m e - e).toNat = k at sum ⊢
    rw [← sum, zpow_add₀ two_ne_zero, zpow_natCast]
    field_simp
  rw [roundWithAccuracy_eq sign accuracy enough]
  generalize ExtendedMantissa.ofMantissaAndAccuracy m accuracy >>> (place m e - e).toNat = em
    at small normal cut ⊢
  generalize x / 2 ^ (place m e - e).toNat = y at cut scaled
  generalize place m e = p at *
  rw [← scaled] at bounded ⊢
  obtain ⟨from_below, from_above⟩ := roundedMantissa_bounds em
  have most : p ≤ 970 := by
    rcases (cut.scaled_bounds small normal).2 with full | smallest
    · have := (zpow_lt_zpow_iff_right₀ one_lt_two).1 (full.trans_lt bounded)
      omega
    · omega
  exact ⟨canonical_carried sign least most (normal.imp_left (·.trans from_below)),
    _, value?_carried sign p (by omega), (cut.rounds least small normal).signed sign⟩

/-! ## Numbers with too few bits -/

theorem log2_shiftLeft {m : ℕ} (positive : 0 < m) (n : ℕ) : (m <<< n).log2 = m.log2 + n := by
  induction n with
  | zero => rfl
  | succ n ih =>
      have nonzero : m <<< n ≠ 0 := (Nat.shiftLeft_pos_iff.2 positive).ne'
      rw [Nat.shiftLeft_succ, Nat.log2_two_mul nonzero, ih, Nat.add_assoc]

/-- A mantissa with enough zeros behind it has the bits that the rounding asks for. -/
theorem isRounded_round (sign : Sign) {m : ℕ} (positive : 0 < m) {e : ℤ}
    (bounded : (m : ℚ) * 2 ^ e < 2 ^ (1023 : ℤ)) :
    IsRounded (UnpackedFloat.round .binary64 sign m e) (signFactor sign * (m * 2 ^ e)) := by
  have enough : 52 ≤ (m <<< (e - place m e).toNat).log2 ∨ e - (e - place m e).toNat ≤ -1074 := by
    rw [log2_shiftLeft positive, place]
    omega
  rw [UnpackedFloat.round, targetExponent_eq, decreaseExponent]
  dsimp only
  generalize (e - place m e).toNat = k at enough ⊢
  have same : ((m <<< k : ℕ) : ℚ) * 2 ^ (e - (k : ℤ)) = m * 2 ^ e := by
    rw [Nat.shiftLeft_eq, zpow_sub₀ two_ne_zero, zpow_natCast]
    push_cast
    field_simp
  rw [← same] at bounded ⊢
  exact isRounded_roundWithAccuracy sign (.exact _) enough bounded

theorem Rounds.zero : Rounds 0 0 :=
  ⟨-1074, le_rfl, by simp, .inr rfl, ⟨0, by simp⟩, by simp⟩

/-- **A whole number times a power of two becomes the float nearest to it.** -/
theorem isRounded_normalize (m e : ℤ) (zeroSign : Sign)
    (bounded : |(m : ℚ) * 2 ^ e| < 2 ^ (1023 : ℤ)) :
    IsRounded (UnpackedFloat.normalize .binary64 m e zeroSign) (m * 2 ^ e) := by
  rw [abs_mul, abs_of_pos (show (0 : ℚ) < 2 ^ e by positivity)] at bounded
  rw [UnpackedFloat.normalize]
  rcases lt_trichotomy m 0 with negative | rfl | positive
  · have magnitude : ((-m).toNat : ℚ) = -m := by
      exact_mod_cast Int.toNat_of_nonneg (by omega : 0 ≤ -m)
    rw [Int.compare_eq_lt.2 negative]
    have rounded := isRounded_round .negative (m := (-m).toNat) (by omega) (e := e) (by
      rwa [magnitude, ← abs_of_neg (show (m : ℚ) < 0 by exact_mod_cast negative)])
    simpa [signFactor, magnitude] using rounded
  · exact ⟨trivial, 0, value?_zero zeroSign, by simpa using Rounds.zero⟩
  · have magnitude : (m.toNat : ℚ) = m := by
      exact_mod_cast Int.toNat_of_nonneg positive.le
    rw [Int.compare_eq_gt.2 positive]
    have rounded := isRounded_round .positive (m := m.toNat) (by omega) (e := e) (by
      rwa [magnitude, ← abs_of_pos (show (0 : ℚ) < m by exact_mod_cast positive)])
    simpa [signFactor, magnitude] using rounded

end ChatTemplate.Decimal
