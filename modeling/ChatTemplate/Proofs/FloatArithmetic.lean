/-
# ChatTemplate.Proofs.FloatArithmetic -- the operations on floats

Every float that is a number stands for an exact one (`value?`).  The sum, difference, product
and quotient of two floats stand for the exact result rounded (`Approximates`), as long as that
is not too large, and so does what is read off a mantissa and an exponent.
-/
import ChatTemplate.Proofs.FloatRounding

namespace ChatTemplate.Decimal

set_option autoImplicit false

open Float.Model Float.Model.UnpackedFloat

/-- The number a float stands for, unless it is none. -/
def value? (x : Float) : Option ℚ :=
  (Binary.ofFloat x).value?

/-- The float stands for the number, rounded. -/
def Approximates (x : Float) (q : ℚ) : Prop :=
  ∃ r, value? x = some r ∧ Rounds q r

theorem value?_eq (x : Float) : value? x = (Binary.ofUnpacked x.toModel.unpack).value? := by
  rw [value?, Binary.ofFloat_eq]

theorem value?_pack {u : UnpackedFloat} (canonical : Canonical u) :
    value? (.ofModel (.pack u)) = (Binary.ofUnpacked u).value? := by
  rw [value?_eq, unpack_pack canonical]

theorem approximates_pack {u : UnpackedFloat} {q : ℚ} (rounded : IsRounded u q) :
    Approximates (.ofModel (.pack u)) q := by
  obtain ⟨canonical, r, value, rounds⟩ := rounded
  exact ⟨r, by rw [value?_pack canonical, value], rounds⟩

theorem Approximates.value?_eq_of_small {x : Float} {n : ℤ} (approximates : Approximates x n)
    (small : |n| ≤ 2 ^ 53) : value? x = some (n : ℚ) := by
  obtain ⟨r, value, rounds⟩ := approximates
  rw [value, rounds.eq_of_small small]

/-- What stands for a number is a zero or has a mantissa. -/
theorem zero_or_finite {u : UnpackedFloat} {q : ℚ} (value : (Binary.ofUnpacked u).value? = some q) :
    (∃ sign, u = .zero sign ∧ q = 0) ∨
      ∃ sign m e positive, u = .finite sign m e positive ∧ q = signFactor sign * (m * 2 ^ e) := by
  cases u with
  | notANumber => cases value
  | infinity sign => cases value
  | zero sign =>
      rw [value?_zero] at value
      exact .inl ⟨sign, rfl, (Option.some.inj value).symm⟩
  | finite sign m e positive =>
      rw [value?_finite] at value
      exact .inr ⟨sign, m, e, positive, rfl, (Option.some.inj value).symm⟩

/-- The number of a float is rounded to itself. -/
theorem isRounded_self {u : UnpackedFloat} {q : ℚ} (canonical : Canonical u)
    (value : (Binary.ofUnpacked u).value? = some q) : IsRounded u q := by
  refine ⟨canonical, q, value, ?_⟩
  rcases zero_or_finite value with ⟨_, _, rfl⟩ | ⟨sign, m, e, _, rfl, rfl⟩
  · exact .zero
  · obtain ⟨small, least, _, normal⟩ := canonical
    have rounds : Rounds (m * 2 ^ e) (m * 2 ^ e) := (Describes.exact m).rounds least small normal
    exact rounds.signed sign

/-! ## The sign -/

@[simp] theorem signFactor_neg (s : Sign) : signFactor (-s) = -signFactor s := by
  cases s
  · exact (neg_neg 1).symm
  · rfl

@[simp] theorem signFactor_mul (s t : Sign) : signFactor (s * t) = signFactor s * signFactor t := by
  cases s <;> cases t <;> decide +kernel

@[simp] theorem signFactor_div (s t : Sign) : signFactor (s / t) = signFactor s / signFactor t := by
  cases s <;> cases t <;> decide +kernel

theorem abs_signFactor (s : Sign) : |signFactor s| = 1 := by
  cases s <;> simp [signFactor]

theorem cast_apply (s : Sign) (m : ℕ) : (s.apply m : ℚ) = signFactor s * m := by
  cases s <;> simp [Sign.apply, signFactor]

theorem canonical_neg {u : UnpackedFloat} (canonical : Canonical u) : Canonical u.neg := by
  cases u <;> exact canonical

theorem value?_neg_unpacked (u : UnpackedFloat) :
    (Binary.ofUnpacked u.neg).value? = (Binary.ofUnpacked u).value?.map (- ·) := by
  cases u with
  | notANumber => rfl
  | infinity sign => rfl
  | zero sign => simp [UnpackedFloat.neg, value?_zero]
  | finite sign m e positive => simp [UnpackedFloat.neg, value?_finite]

theorem value?_neg (x : Float) : value? (-x) = (value? x).map (- ·) := by
  rw [value?_eq x, ← value?_neg_unpacked]
  exact value?_pack (canonical_neg (canonical_unpack _))

/-! ## Sums -/

theorem cast_decreaseExponent (m : ℕ) {e low : ℤ} (below : low ≤ e) :
    ((decreaseExponent m e low).1 : ℚ) * 2 ^ low = m * 2 ^ e := by
  obtain ⟨k, rfl⟩ := Int.le.dest below
  have shift : (low + k - low).toNat = k := by omega
  rw [decreaseExponent, shift, Nat.shiftLeft_eq, zpow_add₀ two_ne_zero, zpow_natCast]
  push_cast
  ring

theorem isRounded_add {u v : UnpackedFloat} {p q : ℚ} (left : Canonical u) (right : Canonical v)
    (hu : (Binary.ofUnpacked u).value? = some p) (hv : (Binary.ofUnpacked v).value? = some q)
    (bounded : |p + q| < 2 ^ (1023 : ℤ)) :
    IsRounded (UnpackedFloat.add .binary64 u v) (p + q) := by
  rcases zero_or_finite hu with ⟨s, rfl, rfl⟩ | ⟨s, m, e, hm, rfl, rfl⟩
  · rw [zero_add]
    rcases zero_or_finite hv with ⟨t, rfl, rfl⟩ | ⟨t, n, f, hn, rfl, -⟩
    · cases s <;> cases t <;> exact isRounded_self (u := .zero _) trivial (value?_zero _)
    · exact isRounded_self right hv
  · rcases zero_or_finite hv with ⟨t, rfl, rfl⟩ | ⟨t, n, f, hn, rfl, rfl⟩
    · rw [add_zero]
      exact isRounded_self left hu
    · have sum : ((s.apply (decreaseExponent m e (min e f)).1
            + t.apply (decreaseExponent n f (min e f)).1 : ℤ) : ℚ) * 2 ^ min e f
          = signFactor s * (m * 2 ^ e) + signFactor t * (n * 2 ^ f) := by
        rw [← cast_decreaseExponent m (min_le_left e f),
          ← cast_decreaseExponent n (min_le_right e f)]
        push_cast
        rw [cast_apply, cast_apply]
        ring
      rw [← sum] at bounded ⊢
      exact isRounded_normalize _ _ _ bounded

theorem sub_eq_add_neg_unpacked (u v : UnpackedFloat) :
    UnpackedFloat.sub .binary64 u v = UnpackedFloat.add .binary64 u v.neg := by
  cases u <;> cases v <;> try rfl
  rename_i s m e _ t n f _
  have flip : (-t).apply ((decreaseExponent n f (min e f)).1) =
      -t.apply ((decreaseExponent n f (min e f)).1) := by
    cases t
    · exact (Int.neg_neg _).symm
    · rfl
  simp only [UnpackedFloat.sub, UnpackedFloat.add, UnpackedFloat.neg, flip, Int.sub_eq_add_neg]

/-! ## Products and quotients -/

theorem isRounded_mul {u v : UnpackedFloat} {p q : ℚ} (left : Canonical u) (right : Canonical v)
    (hu : (Binary.ofUnpacked u).value? = some p) (hv : (Binary.ofUnpacked v).value? = some q)
    (bounded : |p * q| < 2 ^ (1023 : ℤ)) :
    IsRounded (UnpackedFloat.mul .binary64 u v) (p * q) := by
  rcases zero_or_finite hu with ⟨s, rfl, rfl⟩ | ⟨s, m, e, hm, rfl, rfl⟩
  · rw [zero_mul]
    rcases zero_or_finite hv with ⟨t, rfl, rfl⟩ | ⟨t, n, f, hn, rfl, -⟩ <;>
      exact isRounded_self (u := .zero _) trivial (value?_zero _)
  · rcases zero_or_finite hv with ⟨t, rfl, rfl⟩ | ⟨t, n, f, hn, rfl, rfl⟩
    · rw [mul_zero]
      exact isRounded_self (u := .zero _) trivial (value?_zero _)
    · have enough : 52 ≤ (m * n).log2 ∨ e + f ≤ -1074 := by
        obtain ⟨-, -, -, full | least⟩ := left
        · exact .inl ((Nat.le_log2 (by positivity)).2 (full.trans (Nat.le_mul_of_pos_right m hn)))
        obtain ⟨-, -, -, full | least'⟩ := right
        · exact .inl ((Nat.le_log2 (by positivity)).2 (full.trans (Nat.le_mul_of_pos_left n hm)))
        · omega
      have product : signFactor s * (m * 2 ^ e) * (signFactor t * (n * 2 ^ f))
          = signFactor (s * t) * ((m * n : ℕ) * 2 ^ (e + f)) := by
        rw [signFactor_mul, zpow_add₀ two_ne_zero]
        push_cast
        ring
      rw [product, abs_mul, abs_signFactor, one_mul] at bounded
      rw [product]
      exact isRounded_roundWithAccuracy _ (.exact _) enough ((le_abs_self _).trans_lt bounded)

/-- A quotient of whole numbers and what is left over describe the exact quotient. -/
theorem describes_quotient (m : ℕ) {d : ℕ} (positive : 0 < d) :
    Describes (.ofMantissaAndAccuracy (m / d) (accuracyOfFraction (m % d) d)) (m / d) := by
  have divisor : (0 : ℚ) < d := by exact_mod_cast positive
  have split : (m : ℚ) / d = (m / d : ℕ) + (m % d : ℕ) / d := by
    have whole : (m : ℚ) = (m / d : ℕ) * d + (m % d : ℕ) := by
      exact_mod_cast (Nat.div_add_mod' m d).symm
    conv_lhs => rw [whole]
    rw [add_div, mul_div_cancel_right₀ _ divisor.ne']
  have less_than_one : ((m % d : ℕ) : ℚ) / d < 1 := by
    rw [div_lt_one divisor]
    exact_mod_cast Nat.mod_lt m positive
  rw [accuracyOfFraction, split]
  generalize m % d = r at less_than_one ⊢
  split
  · rename_i zero
    simpa [zero] using Describes.exact (m / d)
  · rename_i nonzero
    have more_than_zero : (0 : ℚ) < r / d :=
      div_pos (by exact_mod_cast Nat.pos_of_ne_zero nonzero) divisor
    rcases lt_trichotomy (2 * r) d with less | same | more
    · have half : (r : ℚ) / d < 1 / 2 := by
        rw [div_lt_div_iff₀ divisor two_pos]
        exact_mod_cast (by omega : r * 2 < 1 * d)
      rw [Nat.compare_eq_lt.2 less]
      constructor <;> dsimp only [ExtendedMantissa.ofMantissaAndAccuracy] <;> linarith
    · have half : (r : ℚ) / d = 1 / 2 := by
        rw [div_eq_div_iff divisor.ne' two_ne_zero]
        exact_mod_cast (by omega : r * 2 = 1 * d)
      rw [Nat.compare_eq_eq.2 same, half]
      rfl
    · have half : 1 / 2 < (r : ℚ) / d := by
        rw [div_lt_div_iff₀ two_pos divisor]
        exact_mod_cast (by omega : 1 * d < r * 2)
      rw [Nat.compare_eq_gt.2 more]
      constructor <;> dsimp only [ExtendedMantissa.ofMantissaAndAccuracy] <;> linarith

/-- The quotient is computed with a bit more than a float has. -/
theorem log2_quotient {m n k : ℕ} (hm : 0 < m) (hn : 0 < n) (long : 53 + n.log2 ≤ m.log2 + k) :
    52 ≤ (m <<< k / n).log2 := by
  have numerator : 2 ^ (53 + n.log2) ≤ m <<< k := by
    rw [Nat.shiftLeft_eq]
    calc 2 ^ (53 + n.log2) ≤ 2 ^ m.log2 * 2 ^ k := by
          rw [← pow_add]
          exact Nat.pow_le_pow_right two_pos long
      _ ≤ m * 2 ^ k := Nat.mul_le_mul_right _ (Nat.log2_self_le hm.ne')
  have quotient : 2 ^ 52 ≤ m <<< k / n := by
    rw [Nat.le_div_iff_mul_le hn]
    calc 2 ^ 52 * n ≤ 2 ^ 52 * 2 ^ (n.log2 + 1) := Nat.mul_le_mul_left _ Nat.lt_log2_self.le
      _ = 2 ^ (53 + n.log2) := by rw [← pow_add]; congr 1; omega
      _ ≤ m <<< k := numerator
  exact (Nat.le_log2 (by omega)).2 quotient

theorem isRounded_div_finite (s t : Sign) {m n : ℕ} {e f : ℤ} (hm : 0 < m) (hn : 0 < n)
    (bounded : (m : ℚ) * 2 ^ e / (n * 2 ^ f) < 2 ^ (1023 : ℤ)) :
    IsRounded (UnpackedFloat.div .binary64 (.finite s m e hm) (.finite t n f hn))
      (signFactor s * (m * 2 ^ e) / (signFactor t * (n * 2 ^ f))) := by
  have bits : (Format.binary64.mantissaBits : ℤ) = 53 := rfl
  have least : Format.binary64.minExponent = -1074 := rfl
  simp only [UnpackedFloat.div, divCore, Format.targetExponent, totalExponent, bits, least]
  have long : min (e - f) (max (↑m.log2 + 1 + e - (↑n.log2 + 1 + f) - 53) (-1074)) ≤ -1074 ∨
      53 + n.log2 ≤ m.log2 + (e - f - min (e - f)
        (max (↑m.log2 + 1 + e - (↑n.log2 + 1 + f) - 53) (-1074))).toNat := by
    omega
  have below : min (e - f) (max (↑m.log2 + 1 + e - (↑n.log2 + 1 + f) - 53) (-1074)) ≤ e - f :=
    min_le_left _ _
  generalize min (e - f) (max (↑m.log2 + 1 + e - (↑n.log2 + 1 + f) - 53) (-1074)) = low
    at long below ⊢
  obtain ⟨k, sum⟩ := Int.le.dest below
  rw [← sum, add_sub_cancel_left, Int.toNat_natCast] at long ⊢
  have exact_quotient : (m : ℚ) * 2 ^ e / (n * 2 ^ f) = ((m <<< k : ℕ) : ℚ) / n * 2 ^ low := by
    obtain rfl : e = low + k + f := by omega
    rw [Nat.shiftLeft_eq, zpow_add₀ two_ne_zero, zpow_add₀ two_ne_zero, zpow_natCast]
    push_cast
    field_simp
  have signs : signFactor s * (m * 2 ^ e) / (signFactor t * (n * 2 ^ f))
      = signFactor (s / t) * (((m <<< k : ℕ) : ℚ) / n * 2 ^ low) := by
    rw [mul_div_mul_comm, exact_quotient, signFactor_div]
  rw [signs]
  rw [exact_quotient] at bounded
  exact isRounded_roundWithAccuracy (s / t) (describes_quotient (m <<< k) hn)
    (long.symm.imp_left (log2_quotient hm hn)) bounded

theorem isRounded_div {u v : UnpackedFloat} {p q : ℚ}
    (hu : (Binary.ofUnpacked u).value? = some p) (hv : (Binary.ofUnpacked v).value? = some q)
    (nonzero : q ≠ 0) (bounded : |p / q| < 2 ^ (1023 : ℤ)) :
    IsRounded (UnpackedFloat.div .binary64 u v) (p / q) := by
  rcases zero_or_finite hv with ⟨t, -, zero⟩ | ⟨t, n, f, hn, rfl, rfl⟩
  · exact absurd zero nonzero
  · rcases zero_or_finite hu with ⟨s, rfl, rfl⟩ | ⟨s, m, e, hm, rfl, rfl⟩
    · rw [zero_div]
      exact isRounded_self (u := .zero _) trivial (value?_zero _)
    · rw [mul_div_mul_comm, abs_mul, abs_div, abs_signFactor, abs_signFactor, div_one, one_mul]
        at bounded
      exact isRounded_div_finite s t hm hn ((le_abs_self _).trans_lt bounded)

/-! ## On floats -/

variable {x y : Float} {p q : ℚ}

theorem approximates_add (hx : value? x = some p) (hy : value? y = some q)
    (bounded : |p + q| < 2 ^ (1023 : ℤ)) : Approximates (x + y) (p + q) := by
  rw [value?_eq] at hx hy
  exact approximates_pack (isRounded_add (canonical_unpack _) (canonical_unpack _) hx hy bounded)

theorem approximates_sub (hx : value? x = some p) (hy : value? y = some q)
    (bounded : |p - q| < 2 ^ (1023 : ℤ)) : Approximates (x - y) (p - q) := by
  rw [value?_eq] at hx hy
  have negated : (Binary.ofUnpacked y.toModel.unpack.neg).value? = some (-q) := by
    rw [value?_neg_unpacked, hy]
    rfl
  rw [sub_eq_add_neg] at bounded ⊢
  have rounded := isRounded_add (canonical_unpack _) (canonical_neg (canonical_unpack _)) hx
    negated bounded
  rw [← sub_eq_add_neg_unpacked] at rounded
  exact approximates_pack rounded

theorem approximates_mul (hx : value? x = some p) (hy : value? y = some q)
    (bounded : |p * q| < 2 ^ (1023 : ℤ)) : Approximates (x * y) (p * q) := by
  rw [value?_eq] at hx hy
  exact approximates_pack (isRounded_mul (canonical_unpack _) (canonical_unpack _) hx hy bounded)

theorem approximates_div (hx : value? x = some p) (hy : value? y = some q) (nonzero : q ≠ 0)
    (bounded : |p / q| < 2 ^ (1023 : ℤ)) : Approximates (x / y) (p / q) := by
  rw [value?_eq] at hx hy
  exact approximates_pack (isRounded_div hx hy nonzero bounded)

end ChatTemplate.Decimal
