/-
# ChatTemplate.Proofs.FloatOrder -- floats and the order of their numbers

Two floats are compared by their parts: the signs first, then the exponents, then the mantissas.
Since a mantissa has as many bits as it can have, that is the order of the numbers they stand for
(`floatOrder?_eq_compare`), and only what is no number is in no order with anything
(`floatOrder?_eq_none_iff`).  All others, the infinities too, stand in one line
(`lt_iff_position`).

Rounding keeps the order but may make two numbers one (`Rounds.le_of_lt`).
-/
import ChatTemplate.Proofs.FloatConversion
import ChatTemplate.Script.Order

namespace ChatTemplate.Decimal

set_option autoImplicit false

open Float.Model Float.Model.UnpackedFloat

/-! ## Comparing parts -/

/-- What is compared from the other side comes out the other way round. -/
theorem compare_swap (u v : UnpackedFloat) : v.compare u = (u.compare v).map Ordering.swap := by
  have parts : ∀ (e f : ℤ) (m n : ℕ),
      (compare f e).then (compare n m) = ((compare e f).then (compare m n)).swap := by
    intro e f m n
    rw [Ordering.swap_then, ← Std.OrientedOrd.eq_swap, ← Std.OrientedOrd.eq_swap]
  rcases u with ⟨_ | _⟩ | _ | ⟨_ | _⟩ | ⟨_ | _, m, e, _⟩ <;>
    rcases v with ⟨_ | _⟩ | _ | ⟨_ | _⟩ | ⟨_ | _, n, f, _⟩ <;> try rfl
  · exact congrArg some (congrArg Ordering.swap (parts e f m n))
  · exact congrArg some (parts e f m n)

/-- Only what is no number is in no order. -/
theorem compare_eq_none_iff (u v : UnpackedFloat) :
    u.compare v = none ↔ u.isNaN = true ∨ v.isNaN = true := by
  rcases u with ⟨_ | _⟩ | _ | ⟨_ | _⟩ | ⟨_ | _, _, _, _⟩ <;>
    rcases v with ⟨_ | _⟩ | _ | ⟨_ | _⟩ | ⟨_ | _, _, _, _⟩ <;>
    simp [UnpackedFloat.compare, UnpackedFloat.isNaN]

/-- With the larger exponent goes the larger number. -/
theorem scaled_lt {m n : ℕ} {e f : ℤ} (small : m < 2 ^ 53) (least : -1074 ≤ e)
    (normal : 2 ^ 52 ≤ n ∨ f = -1074) (less : e < f) : (m : ℚ) * 2 ^ e < n * 2 ^ f := by
  have full : 2 ^ 52 ≤ n := normal.resolve_right (by omega)
  calc (m : ℚ) * 2 ^ e < 2 ^ 53 * 2 ^ e :=
        mul_lt_mul_of_pos_right (by exact_mod_cast small) (by positivity)
    _ = 2 ^ 52 * 2 ^ (e + 1) := by
        rw [zpow_add_one₀ two_ne_zero]
        ring
    _ ≤ n * 2 ^ f := mul_le_mul (by exact_mod_cast full)
        (zpow_le_zpow_right₀ one_le_two less) (by positivity) (Nat.cast_nonneg _)

/-- Exponents and mantissas are in the order of their numbers. -/
theorem compare_parts {s t : Sign} {m n : ℕ} {e f : ℤ} {hm : 0 < m} {hn : 0 < n}
    (left : Canonical (.finite s m e hm)) (right : Canonical (.finite t n f hn)) :
    (compare e f).then (compare m n) = compare ((m : ℚ) * 2 ^ e) (n * 2 ^ f) := by
  rcases lt_trichotomy e f with less | rfl | more
  · rw [compare_lt_iff_lt.2 less, Ordering.lt_then, eq_comm, compare_lt_iff_lt]
    exact scaled_lt left.1 left.2.1 right.2.2.2 less
  · have positive : (0 : ℚ) < 2 ^ e := by positivity
    rw [compare_eq_iff_eq.2 rfl, Ordering.eq_then]
    rcases lt_trichotomy m n with less | rfl | more
    · rw [compare_lt_iff_lt.2 less, eq_comm, compare_lt_iff_lt]
      exact mul_lt_mul_of_pos_right (by exact_mod_cast less) positive
    · rw [compare_eq_iff_eq.2 rfl, compare_eq_iff_eq.2 rfl]
    · rw [compare_gt_iff_gt.2 more, eq_comm, compare_gt_iff_gt]
      exact mul_lt_mul_of_pos_right (by exact_mod_cast more) positive
  · rw [compare_gt_iff_gt.2 more, Ordering.gt_then, eq_comm, compare_gt_iff_gt]
    exact scaled_lt right.1 right.2.1 left.2.2.2 more

theorem compare_neg_neg (p q : ℚ) : compare (-p) (-q) = (compare p q).swap := by
  rcases lt_trichotomy p q with less | rfl | more
  · rw [compare_lt_iff_lt.2 less, Ordering.swap_lt, compare_gt_iff_gt]
    exact neg_lt_neg less
  · rw [compare_eq_iff_eq.2 rfl, compare_eq_iff_eq.2 rfl, Ordering.swap_eq]
  · rw [compare_gt_iff_gt.2 more, Ordering.swap_gt, compare_lt_iff_lt]
    exact neg_lt_neg more

/-- **The parts of floats are in the order of the numbers these stand for.** -/
theorem compare_eq {u v : UnpackedFloat} {p q : ℚ} (left : Canonical u) (right : Canonical v)
    (hu : (Binary.ofUnpacked u).value? = some p) (hv : (Binary.ofUnpacked v).value? = some q) :
    u.compare v = some (compare p q) := by
  have positive : ∀ {k : ℕ} (j : ℤ), 0 < k → (0 : ℚ) < k * 2 ^ j := fun j hk => by positivity
  rcases zero_or_finite hu with ⟨s, rfl, rfl⟩ | ⟨s, m, e, hm, rfl, rfl⟩ <;>
    rcases zero_or_finite hv with ⟨t, rfl, rfl⟩ | ⟨t, n, f, hn, rfl, rfl⟩
  · rfl
  · have above := positive f hn
    cases t with
    | negative =>
        rw [signFactor, neg_one_mul, compare_gt_iff_gt.2 (neg_lt_zero.2 above)]
        rfl
    | positive =>
        rw [signFactor, one_mul, compare_lt_iff_lt.2 above]
        rfl
  · have above := positive e hm
    cases s with
    | negative =>
        rw [signFactor, neg_one_mul, compare_lt_iff_lt.2 (neg_lt_zero.2 above)]
        rfl
    | positive =>
        rw [signFactor, one_mul, compare_gt_iff_gt.2 above]
        rfl
  · have parts := compare_parts left right
    have above := positive e hm
    have above' := positive f hn
    cases s <;> cases t <;> simp only [signFactor, neg_one_mul, one_mul]
    · rw [compare_neg_neg, ← parts]
      rfl
    · rw [compare_lt_iff_lt.2 ((neg_lt_zero.2 above).trans above')]
      rfl
    · rw [compare_gt_iff_gt.2 ((neg_lt_zero.2 above').trans above)]
      rfl
    · rw [← parts]
      rfl

/-! ## The line of numbers -/

/-- Where parts stand on the line of numbers, of which the infinities are the ends. -/
def positionOf : UnpackedFloat → WithBot (WithTop ℚ)
  | .infinity .negative => ⊥
  | .infinity .positive => ((⊤ : WithTop ℚ) : WithBot (WithTop ℚ))
  | u => (((Binary.ofUnpacked u).value?.getD 0 : ℚ) : WithTop ℚ)

/-- What is a number is one of the ends or has a value. -/
theorem end_or_value {u : UnpackedFloat} (number : u.isNaN = false) :
    u = .infinity .negative ∨ u = .infinity .positive ∨
      ∃ q, (Binary.ofUnpacked u).value? = some q := by
  rcases u with ⟨_ | _⟩ | _ | ⟨sign⟩ | ⟨sign, m, e, positive⟩
  · exact .inl rfl
  · exact .inr (.inl rfl)
  · cases number
  · exact .inr (.inr ⟨0, value?_zero sign⟩)
  · exact .inr (.inr ⟨_, value?_finite sign m e positive⟩)

theorem positionOf_eq {u : UnpackedFloat} {q : ℚ} (value : (Binary.ofUnpacked u).value? = some q) :
    positionOf u = (q : WithTop ℚ) := by
  rcases zero_or_finite value with ⟨_, rfl, rfl⟩ | ⟨_, _, _, _, rfl, rfl⟩ <;>
    rw [positionOf, value, Option.getD_some] <;> nofun

/-- What has a value lies between the ends. -/
theorem compare_ends {u : UnpackedFloat} {q : ℚ} (value : (Binary.ofUnpacked u).value? = some q) :
    u.compare (.infinity .negative) = some .gt ∧ u.compare (.infinity .positive) = some .lt := by
  rcases zero_or_finite value with ⟨_, rfl, -⟩ | ⟨_, _, _, _, rfl, -⟩ <;> exact ⟨rfl, rfl⟩

/-- **The parts of numbers, the infinities among them, are in the order of their positions.** -/
theorem compare_lt_iff_position {u v : UnpackedFloat} (left : Canonical u) (right : Canonical v)
    (hu : u.isNaN = false) (hv : v.isNaN = false) :
    u.compare v = some .lt ↔ positionOf u < positionOf v := by
  rcases end_or_value hu with rfl | rfl | ⟨p, hp⟩ <;>
    rcases end_or_value hv with rfl | rfl | ⟨q, hq⟩
  · exact iff_of_false nofun (lt_irrefl _)
  · exact iff_of_true rfl (WithBot.bot_lt_coe _)
  · rw [compare_swap, (compare_ends hq).1, positionOf_eq hq]
    exact iff_of_true rfl (WithBot.bot_lt_coe _)
  · exact iff_of_false nofun not_lt_bot
  · exact iff_of_false nofun (lt_irrefl _)
  · rw [compare_swap, (compare_ends hq).2, positionOf_eq hq]
    exact iff_of_false nofun (WithBot.coe_lt_coe.not.2 not_top_lt)
  · rw [(compare_ends hp).1]
    exact iff_of_false nofun not_lt_bot
  · rw [(compare_ends hp).2, positionOf_eq hp]
    exact iff_of_true rfl (WithBot.coe_lt_coe.2 (WithTop.coe_lt_top _))
  · rw [compare_eq left right hp hq, positionOf_eq hp, positionOf_eq hq, Option.some_inj,
      compare_lt_iff_lt, WithBot.coe_lt_coe, WithTop.coe_lt_coe]

/-! ## Comparing floats -/

theorem lt_iff_compare (x y : Float) :
    x < y ↔ x.toModel.unpack.compare y.toModel.unpack = some .lt := by
  change decide ((x.toModel.unpack.compare y.toModel.unpack == some .lt) = true) = true ↔ _
  rw [decide_eq_true_eq, beq_iff_eq]

theorem beq_iff_compare (x y : Float) :
    (x == y) = true ↔ x.toModel.unpack.compare y.toModel.unpack = some .eq := by
  change (x.toModel.unpack.compare y.toModel.unpack == some .eq) = true ↔ _
  exact beq_iff_eq

/-- The three questions that are asked about two floats give the order of their parts. -/
theorem floatOrder?_eq (x y : Float) :
    Script.Value.floatOrder? x y = x.toModel.unpack.compare y.toModel.unpack := by
  have less := lt_iff_compare x y
  have equal := beq_iff_compare x y
  have more := lt_iff_compare y x
  rw [compare_swap x.toModel.unpack y.toModel.unpack] at more
  rw [Script.Value.floatOrder?]
  generalize x.toModel.unpack.compare y.toModel.unpack = order at less equal more
  rcases order with _ | _ | _ | _ <;> simp [less, equal, more]

variable {x y : Float} {p q : ℚ}

/-- **Floats are in the order of their numbers.** -/
theorem floatOrder?_eq_compare (hx : value? x = some p) (hy : value? y = some q) :
    Script.Value.floatOrder? x y = some (compare p q) := by
  rw [value?_eq] at hx hy
  rw [floatOrder?_eq, compare_eq (canonical_unpack _) (canonical_unpack _) hx hy]

/-- Floats are equal just when their numbers are. -/
theorem beq_iff_value (hx : value? x = some p) (hy : value? y = some q) :
    (x == y) = true ↔ p = q := by
  rw [beq_iff_compare, ← floatOrder?_eq, floatOrder?_eq_compare hx hy, Option.some_inj,
    compare_eq_iff_eq]

theorem isNaN_of_value (hx : value? x = some p) : x.isNaN = false := by
  rw [value?_eq] at hx
  change x.toModel.unpack.isNaN = false
  rcases zero_or_finite hx with ⟨_, same, -⟩ | ⟨_, _, _, _, same, -⟩ <;> rw [same] <;> rfl

/-- Only what is no number is in no order with anything. -/
theorem floatOrder?_eq_none_iff (x y : Float) :
    Script.Value.floatOrder? x y = none ↔ x.isNaN = true ∨ y.isNaN = true := by
  rw [floatOrder?_eq]
  exact compare_eq_none_iff _ _

/-- Where a float stands on the line of numbers. -/
def position (x : Float) : WithBot (WithTop ℚ) :=
  positionOf x.toModel.unpack

/-- **Floats that are numbers are in one line**, which the infinities stand at the ends of. -/
theorem lt_iff_position (hx : x.isNaN = false) (hy : y.isNaN = false) :
    x < y ↔ position x < position y := by
  rw [lt_iff_compare]
  exact compare_lt_iff_position (canonical_unpack _) (canonical_unpack _) hx hy

/-- Nothing is equal to what is no number. -/
theorem beq_of_isNaN (none : x.isNaN = true ∨ y.isNaN = true) : (x == y) = false := by
  rw [← floatOrder?_eq_none_iff, floatOrder?_eq] at none
  rw [← Bool.not_eq_true, beq_iff_compare, none]
  nofun

/-! ## Rounding -/

namespace Rounds

variable {p q r s : ℚ}

/-- Multiples of two places are in the order of the numbers next to them, the first of which has
the smaller place. -/
theorem multiples_le {place place' n n' : ℤ} (least : -1074 ≤ place) (finer : place ≤ place')
    (upper : |p| < 2 ^ (53 + place)) (lower : 2 ^ (52 + place') ≤ |q| ∨ place' = -1074)
    (near : 2 * |n * 2 ^ place - p| ≤ 2 ^ place) (near' : 2 * |n' * 2 ^ place' - q| ≤ 2 ^ place')
    (less : p < q) : (n : ℚ) * 2 ^ place ≤ n' * 2 ^ place' := by
  have positive : (0 : ℚ) < 2 ^ place := by positivity
  have above := le_abs_self (n * 2 ^ place - p)
  have below := neg_abs_le (n' * 2 ^ place' - q)
  rcases finer.eq_or_lt with rfl | finer
  · -- one place: what is at most half of it away on either side is less than a place apart
    rw [mul_le_mul_iff_left₀ positive, Int.cast_le]
    by_contra more
    have apart : (n' : ℚ) + 1 ≤ n := by exact_mod_cast not_le.1 more
    have := mul_le_mul_of_nonneg_right apart positive.le
    linarith
  · -- two places: a power of two lies between the multiples
    have large : 2 ^ (52 + place') ≤ q := by
      have magnitude := lower.resolve_right (by omega)
      have larger : |p| < |q| := upper.trans_le
        ((zpow_le_zpow_right₀ one_le_two (by omega)).trans magnitude)
      rcases abs_choice q with same | flipped
      · rwa [same] at magnitude
      · have := neg_abs_le p
        linarith
    rw [zpow_add₀ two_ne_zero] at upper large
    have few : n ≤ 2 ^ 53 := by
      by_contra more
      have apart : (2 : ℚ) ^ 53 + 1 ≤ n := by exact_mod_cast not_le.1 more
      have := mul_le_mul_of_nonneg_right apart positive.le
      have := le_abs_self p
      norm_num at upper
      linarith
    have many : 2 ^ 52 ≤ n' := by
      have positive' : (0 : ℚ) < 2 ^ place' := by positivity
      by_contra fewer
      have apart : (n' : ℚ) + 1 ≤ 2 ^ 52 := by exact_mod_cast not_le.1 fewer
      have := mul_le_mul_of_nonneg_right apart positive'.le
      norm_num at large
      linarith
    calc (n : ℚ) * 2 ^ place ≤ 2 ^ 53 * 2 ^ place :=
          mul_le_mul_of_nonneg_right (by exact_mod_cast few) positive.le
      _ = 2 ^ 52 * 2 ^ (place + 1) := by
          rw [zpow_add_one₀ two_ne_zero]
          ring
      _ ≤ n' * 2 ^ place' := mul_le_mul (by exact_mod_cast many)
          (zpow_le_zpow_right₀ one_le_two finer) (by positivity)
          (by exact_mod_cast (by omega : 0 ≤ n'))

/-- **Rounding keeps the order.** -/
theorem le_of_lt (left : Rounds p r) (right : Rounds q s) (less : p < q) : r ≤ s := by
  obtain ⟨place, least, upper, lower, ⟨n, rfl⟩, near⟩ := left
  obtain ⟨place', least', upper', lower', ⟨n', rfl⟩, near'⟩ := right
  rcases le_total place place' with finer | coarser
  · exact multiples_le least finer upper lower' near near' less
  · rw [← abs_neg] at upper' lower near near'
    rw [neg_sub', ← neg_mul, ← Int.cast_neg] at near near'
    have flipped := multiples_le least' coarser upper' lower near' near (neg_lt_neg less)
    push_cast at flipped
    linarith

end Rounds

end ChatTemplate.Decimal
