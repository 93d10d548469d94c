/-
# ChatTemplate.Proofs.IntegerComparison -- when whole numbers compare as such

Scripts compare whole numbers as floats.  Turning them into floats keeps their order (`near_mono`)
but makes some of them one: between `2 ^ 53` and the largest word only every second, fourth and so
on is a float.  Two whole numbers are compared as such just when they are not among these
(`comparedAsIntegers_iff`), and so are the items of a list with what is looked for in it, and the
arguments of `min` and `max` with one another.

Main statement: `integer_comparison`.
-/
import ChatTemplate.Proofs.IntegerArithmetic
import ChatTemplate.Proofs.NumberEquality

namespace ChatTemplate.Script

set_option autoImplicit false

open Decimal

/-! ## The nearest float -/

/-- The number that the float of a word stands for. -/
def near (n : Int64) : ℚ :=
  (value? (ofInt n.toInt)).getD 0

theorem value?_near (n : Int64) : value? (ofInt n.toInt) = some (near n) := by
  obtain ⟨r, value, -⟩ := approximates_ofInt ((Value.abs_toInt_le n).trans (by decide))
  rw [near, value, Option.getD_some]

theorem rounds_near (n : Int64) : Rounds n.toInt (near n) := by
  obtain ⟨r, value, rounds⟩ := approximates_ofInt ((Value.abs_toInt_le n).trans (by decide))
  rwa [near, value, Option.getD_some]

theorem near_mono {a b : Int64} (le : a.toInt ≤ b.toInt) : near a ≤ near b := by
  rcases le.lt_or_eq with less | same
  · exact (rounds_near a).le_of_lt (rounds_near b) (by exact_mod_cast less)
  · rw [Int64.toInt_inj.1 same]

theorem near_of_small {n : Int64} (small : |n.toInt| ≤ 2 ^ 53) : near n = n.toInt :=
  (rounds_near n).eq_of_small small

/-- No word is farther from its float than the largest ones. -/
theorem abs_near_sub_lt (n : Int64) : |near n - n.toInt| < 1024 := by
  by_cases small : |n.toInt| ≤ 2 ^ 53
  · rw [near_of_small small, sub_self, abs_zero]
    norm_num
  · have large : (1 : ℚ) ≤ |(n.toInt : ℚ)| := by
      exact_mod_cast (show 1 ≤ |n.toInt| by omega)
    have bounded : |(n.toInt : ℚ)| ≤ 2 ^ 63 := by exact_mod_cast Value.abs_toInt_le n
    have close := (rounds_near n).abs_sub_lt
      ((zpow_le_one_of_nonpos₀ one_le_two (by decide)).trans large)
    linarith

/-- Words are compared as the numbers of their floats. -/
theorem order_int (a b : Int64) : Value.order (.int a) (.int b) = compare (near a) (near b) := by
  change (Value.floatOrder? (ofInt a.toInt) (ofInt b.toInt)).getD .eq = _
  rw [floatOrder?_eq_compare (value?_near a) (value?_near b), Option.getD_some]

/-! ## Words that floats distinguish -/

/-- Two words are not made one by turning them into floats. -/
def Distinguished (a b : Int64) : Prop :=
  (ofInt a.toInt == ofInt b.toInt) = true → a = b

instance (a b : Int64) : Decidable (Distinguished a b) :=
  inferInstanceAs (Decidable (_ → _))

theorem distinguished_iff (a b : Int64) : Distinguished a b ↔ (near a = near b → a = b) := by
  rw [Distinguished, beq_iff_value (value?_near a) (value?_near b)]

theorem distinguished_of_small {a b : Int64} (small : |a.toInt| ≤ 2 ^ 53)
    (small' : |b.toInt| ≤ 2 ^ 53) : Distinguished a b := by
  rw [distinguished_iff, near_of_small small, near_of_small small']
  exact fun same => Int64.toInt_inj.1 (by exact_mod_cast same)

theorem distinguished_of_far {a b : Int64} (far : 2048 ≤ |a.toInt - b.toInt|) :
    Distinguished a b := by
  rw [distinguished_iff]
  intro same
  have left := abs_lt.1 (abs_near_sub_lt a)
  have right := abs_lt.1 (abs_near_sub_lt b)
  have close : |(a.toInt : ℚ) - b.toInt| < 2048 := by
    rw [abs_lt]
    constructor <;> linarith
  exact absurd far (not_le.2 (by exact_mod_cast close))

/-- What is distinguished is in the order of its floats. -/
theorem compare_near {a b : Int64} (distinguished : Distinguished a b) :
    compare (near a) (near b) = compare a.toInt b.toInt := by
  rw [distinguished_iff] at distinguished
  rcases lt_trichotomy a.toInt b.toInt with less | same | more
  · rw [compare_lt_iff_lt.2 less, compare_lt_iff_lt]
    refine (near_mono less.le).lt_of_ne fun same => ?_
    rw [distinguished same] at less
    exact less.false
  · rw [Int64.toInt_inj.1 same, compare_eq_iff_eq.2 rfl, compare_eq_iff_eq.2 rfl]
  · rw [compare_gt_iff_gt.2 more, compare_gt_iff_gt]
    refine (near_mono more.le).lt_of_ne fun same => ?_
    rw [distinguished same.symm] at more
    exact more.false

/-! ## Two numbers -/

/-- The orders of its operands for which an operator holds, if it compares them. -/
def BinaryOp.accepts? : BinaryOp → Option (Ordering → Bool)
  | .eq | .strictEq => some (· == .eq)
  | .ne | .strictNe => some (· != .eq)
  | .lt => some (· == .lt)
  | .le => some (· != .gt)
  | .gt => some (· == .gt)
  | .ge => some (· != .lt)
  | _ => none

theorem looseEq_int (a b : Int64) :
    (Value.int a).looseEq (.int b) = (Value.order (.int a) (.int b) == .eq) :=
  rfl

theorem strictEq_int (a b : Int64) :
    (Value.int a).strictEq (.int b) = (Value.order (.int a) (.int b) == .eq) := by
  rw [Bool.eq_iff_iff, order_int, beq_iff_eq, compare_eq_iff_eq]
  exact beq_iff_value (value?_near a) (value?_near b)

theorem ordered_int (wanted : Ordering → Bool) (a b : Int64) :
    Value.ordered wanted (.int a) (.int b) = wanted (Value.order (.int a) (.int b)) := by
  have left : (Value.int a).toFloat.isNaN = false := isNaN_of_value (value?_near a)
  have right : (Value.int b).toFloat.isNaN = false := isNaN_of_value (value?_near b)
  rw [Value.ordered, left, right]
  · rfl
  · nofun

/-- **All comparisons of words go by one order.** -/
theorem applyBinary_int {op : BinaryOp} {wanted : Ordering → Bool}
    (compares : op.accepts? = some wanted) (a b : Int64) :
    applyBinary op (.int a) (.int b) = .ok (.bool (wanted (Value.order (.int a) (.int b)))) := by
  cases op <;> cases compares <;>
    simp only [applyBinary, looseEq_int, strictEq_int, ordered_int, bne]

/-- Two words are compared as the numbers they are. -/
structure ComparedAsIntegers (a b : Int64) : Prop where
  order : Value.order (.int a) (.int b) = compare a.toInt b.toInt
  operators : ∀ {op wanted}, BinaryOp.accepts? op = some wanted →
    applyBinary op (.int a) (.int b) = .ok (.bool (wanted (compare a.toInt b.toInt)))

theorem comparedAsIntegers_iff (a b : Int64) : ComparedAsIntegers a b ↔ Distinguished a b := by
  constructor
  · rintro ⟨order, -⟩
    rw [distinguished_iff]
    intro same
    rw [order_int, same, compare_eq_iff_eq.2 rfl, eq_comm, compare_eq_iff_eq] at order
    exact Int64.toInt_inj.1 order
  · intro distinguished
    have order := (order_int a b).trans (compare_near distinguished)
    exact ⟨order, fun compares => by rw [applyBinary_int compares, order]⟩

/-! ## Lists -/

/-- A word is found among others as the number it is. -/
structure SearchedAsIntegers (items : List Int64) (n : Int64) : Prop where
  indexOf : callMethod? (.list (items.map .int)) "indexOf" [.int n] =
    some (.ok (ofPosition? (items.findIdx? (· == n))))
  includes : callMethod? (.list (items.map .int)) "includes" [.int n] =
    some (.ok (.bool (items.contains n)))

theorem looseEq_of_distinguished {a b : Int64} (distinguished : Distinguished a b) :
    (Value.int a).looseEq (.int b) = (a == b) := by
  rw [looseEq_int, ((comparedAsIntegers_iff a b).2 distinguished).order, Bool.eq_iff_iff,
    beq_iff_eq, compare_eq_iff_eq, beq_iff_eq, Int64.toInt_inj]

theorem positionOf?_int {items : List Int64} {n : Int64}
    (distinguished : ∀ m ∈ items, Distinguished m n) :
    positionOf? (.int n) (items.map .int) = items.findIdx? (· == n) := by
  have same : ∀ item ∈ items.map Value.int, item.looseEq (.int n) = (item.toInt == n) := by
    rw [List.forall_mem_map]
    exact fun m member => looseEq_of_distinguished (distinguished m member)
  rw [positionOf?_congr same, List.findIdx?_map]
  rfl

theorem searchedAsIntegers {items : List Int64} {n : Int64}
    (distinguished : ∀ m ∈ items, Distinguished m n) : SearchedAsIntegers items n := by
  have position := positionOf?_int distinguished
  constructor
  · change some (Except.ok (ofPosition? (positionOf? (.int n) (items.map .int)))) = _
    rw [position]
  · change some (Except.ok (Value.bool (positionOf? (.int n) (items.map .int)).isSome)) = _
    rw [position, List.findIdx?_isSome, List.any_beq']

/-! ## Extremes -/

/-- The least and the greatest of some words are found as the numbers they are. -/
structure ExtremesAsIntegers (items : List Int64) : Prop where
  min : ∀ {name}, withoutNamespace name = "min" → ∀ dice, ∃ m ∈ items,
    callFunction? name (items.map .int) dice = some (.ok (.int m), dice) ∧ ∀ n ∈ items, m ≤ n
  max : ∀ {name}, withoutNamespace name = "max" → ∀ dice, ∃ m ∈ items,
    callFunction? name (items.map .int) dice = some (.ok (.int m), dice) ∧ ∀ n ∈ items, n ≤ m

/-- The extreme of distinguished words is one of them, and the first in the order that is asked
for, which is that of a key. -/
theorem extreme_int (before : Ordering → Bool) (key : ℤ → ℤ) {words : List Int64}
    (by_key : ∀ a b : ℤ, before (compare a b) = true ↔ key a < key b)
    (distinguished : ∀ m ∈ words, ∀ n ∈ words, Distinguished m n) (items : List Int64) :
    ∀ best ∈ words, (∀ n ∈ items, n ∈ words) →
      ∃ m ∈ words, extreme before (.int best) (items.map .int) = .int m ∧
        ∀ n ∈ best :: items, key m.toInt ≤ key n.toInt := by
  induction items with
  | nil => exact fun best member _ => ⟨best, member, rfl, by simp⟩
  | cons item items ih =>
      intro best member members
      rw [List.forall_mem_cons] at members
      have order := (order_int item best).trans
        (compare_near (distinguished item members.1 best member))
      -- the better of the two goes on
      obtain ⟨better, chosen, among, below⟩ : ∃ better,
          (if before ((Value.int item).order (.int best)) = true then Value.int item
            else .int best) = .int better ∧ better ∈ words ∧
          key better.toInt ≤ key best.toInt ∧ key better.toInt ≤ key item.toInt := by
        rw [order]
        by_cases earlier : key item.toInt < key best.toInt
        · exact ⟨item, if_pos ((by_key _ _).2 earlier), members.1, earlier.le, le_rfl⟩
        · exact ⟨best, if_neg (mt (by_key _ _).1 earlier), member, le_rfl, not_lt.1 earlier⟩
      obtain ⟨m, hm, found, first⟩ := ih better among members.2
      rw [List.forall_mem_cons] at first
      refine ⟨m, hm, ?_, ?_⟩
      · rw [List.map_cons, extreme, chosen, found]
      · rw [List.forall_mem_cons, List.forall_mem_cons]
        exact ⟨first.1.trans below.1, first.1.trans below.2, first.2⟩

theorem extremesAsIntegers {first : Int64} {items : List Int64}
    (distinguished : ∀ m ∈ first :: items, ∀ n ∈ first :: items, Distinguished m n) :
    ExtremesAsIntegers (first :: items) := by
  constructor
  · intro name bare dice
    obtain ⟨m, member, found, least⟩ := extreme_int (· == .lt) id
      (by simp [compare_lt_iff_lt]) distinguished items first (List.mem_cons_self ..)
      fun _ => List.mem_cons_of_mem _
    refine ⟨m, member, ?_, fun n hn => Int64.le_iff_toInt_le.2 (least n hn)⟩
    rw [callFunction?, bare]
    exact congrArg (fun value => some (Except.ok value, dice)) found
  · intro name bare dice
    obtain ⟨m, member, found, most⟩ := extreme_int (· == .gt) (- ·)
      (by simp [compare_gt_iff_gt]) distinguished items first (List.mem_cons_self ..)
      fun _ => List.mem_cons_of_mem _
    refine ⟨m, member, ?_, fun n hn => Int64.le_iff_toInt_le.2 (neg_le_neg_iff.1 (most n hn))⟩
    rw [callFunction?, bare]
    exact congrArg (fun value => some (Except.ok value, dice)) found

/-! ## Everything that compares -/

/-- **Comparing whole numbers**: two words are compared as the numbers they are, by every operator
that compares, just when they are not made one by turning them into floats.  The same goes for
what is looked for in a list and for the arguments of `min` and `max`.  Words up to `2 ^ 53` are
all distinguished, and larger ones when they are far enough from one another. -/
theorem integer_comparison (a b : Int64) (items : List Int64) :
    (ComparedAsIntegers a b ↔ Distinguished a b) ∧
      ((∀ m ∈ items, Distinguished m a) → SearchedAsIntegers items a) ∧
      ((∀ m ∈ a :: items, ∀ n ∈ a :: items, Distinguished m n) → ExtremesAsIntegers (a :: items)) ∧
      (|a.toInt| ≤ 2 ^ 53 → |b.toInt| ≤ 2 ^ 53 → Distinguished a b) ∧
      (2048 ≤ |a.toInt - b.toInt| → Distinguished a b) :=
  ⟨comparedAsIntegers_iff a b, searchedAsIntegers, extremesAsIntegers, distinguished_of_small,
    distinguished_of_far⟩

/-- Two words next to the exact floats, which are told apart: `2 ^ 53 + 1` is rounded, but not to
`2 ^ 53 - 1`. -/
theorem odd_words_are_distinguished :
    (∀ m ∈ ([9007199254740993, 9007199254740991] : List Int64),
        ∀ n ∈ ([9007199254740993, 9007199254740991] : List Int64), Distinguished m n) ∧
      ComparedAsIntegers 9007199254740993 9007199254740991 ∧
      SearchedAsIntegers [9007199254740991] 9007199254740993 ∧
      ExtremesAsIntegers [9007199254740993, 9007199254740991] ∧
      Distinguished 9007199254740991 (-9007199254740992) ∧
      Distinguished 9223372036854775807 9223372036854773759 := by
  have apart : ∀ m ∈ ([9007199254740993, 9007199254740991] : List Int64),
      ∀ n ∈ ([9007199254740993, 9007199254740991] : List Int64), Distinguished m n := by
    simp only [List.forall_mem_cons, List.not_mem_nil, false_imp_iff, implies_true, and_true]
    decide +kernel
  obtain ⟨compared, searched, extremes, -, -⟩ :=
    integer_comparison 9007199254740993 9007199254740991 [9007199254740991]
  obtain ⟨-, -, -, small, -⟩ := integer_comparison 9007199254740991 (-9007199254740992) []
  obtain ⟨-, -, -, -, far⟩ := integer_comparison 9223372036854775807 9223372036854773759 []
  exact ⟨apart, compared.2 (apart _ (by simp) _ (by simp)),
    searched fun m member => apart m (List.mem_cons_of_mem _ member) _ (by simp),
    extremes apart, small (by decide) (by decide), far (by decide)⟩

/-- `2 ^ 53 + 1` and `2 ^ 53` are one float: they count as equal in every way, either is found in a
list of the other, and the smaller is the maximum of the two. -/
theorem neighbours_count_as_equal :
    compare (9007199254740993 : Int64).toInt (9007199254740992 : Int64).toInt = .gt ∧
      Value.order (.int 9007199254740993) (.int 9007199254740992) = .eq ∧
      applyBinary .eq (.int 9007199254740993) (.int 9007199254740992) = .ok (.bool true) ∧
      applyBinary .strictEq (.int 9007199254740993) (.int 9007199254740992) = .ok (.bool true) ∧
      applyBinary .gt (.int 9007199254740993) (.int 9007199254740992) = .ok (.bool false) ∧
      callMethod? (.list [.int 9007199254740992]) "indexOf" [.int 9007199254740993] =
        some (.ok (.int 0)) ∧
      ∀ dice, callFunction? "max" [.int 9007199254740992, .int 9007199254740993] dice =
        some (.ok (.int 9007199254740992), dice) := by
  have order : Value.order (.int 9007199254740993) (.int 9007199254740992) = .eq := by
    decide +kernel
  have order' : Value.order (.int 9007199254740992) (.int 9007199254740993) = .eq := by
    decide +kernel
  refine ⟨by decide, order, ?_, ?_, ?_, ?_, fun dice => ?_⟩
  · rw [applyBinary_int rfl, order]
    rfl
  · rw [applyBinary_int rfl, order]
    rfl
  · rw [applyBinary_int rfl, order]
    rfl
  · have found : positionOf? (.int 9007199254740993) [.int 9007199254740992] = some 0 := by
      rw [positionOf?, List.findIdx?_singleton, looseEq_int, order']
      rfl
    exact congrArg (fun place => some (Except.ok (ofPosition? place))) found
  · have greatest : extreme (· == .gt) (.int 9007199254740992) [.int 9007199254740993] =
        .int 9007199254740992 := by
      rw [extreme, order]
      rfl
    exact congrArg (fun value => some (Except.ok value, dice)) greatest

end ChatTemplate.Script
