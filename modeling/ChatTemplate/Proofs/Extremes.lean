/-
# ChatTemplate.Proofs.Extremes -- when `min` and `max` find an extreme

`min` and `max` go through their arguments and keep the best so far.  What is left at the end is
one of the arguments, and none of those behind it is beyond it (`exists_split_extreme`).  That none
of those in front of it is either takes an order that is transitive among the arguments, and the
order of values is not: two texts are compared as numbers if both spell one and letter by letter if
not, so that three texts can stand in a circle (`texts_in_a_circle`).

* `order_swap`: the order is the other way round from the other side.
* `findsExtremes_iff`: an extreme is found among any of some values just when their order is
  transitive.
* `consistent_of_not_isText`, `consistent_of_isNumeric`, `consistent_of_isWord`: it is among values
  that are no texts, among values that spell numbers and among texts that spell none.

Main statement: `extreme_of_arguments`.
-/
import ChatTemplate.Proofs.FloatOrder
import ChatTemplate.Script.Function

namespace ChatTemplate

set_option autoImplicit false

/-! ## The order of floats -/

theorem Decimal.lt_trans {x y z : Float} (first : x < y) (second : y < z) : x < z := by
  have numbers : ∀ {u v : Float}, u < v → u.isNaN = false ∧ v.isNaN = false := by
    intro u v less
    rw [← Bool.not_eq_true, ← Bool.not_eq_true, ← not_or, ← floatOrder?_eq_none_iff,
      floatOrder?_eq, (lt_iff_compare u v).1 less]
    nofun
  obtain ⟨hx, hy⟩ := numbers first
  have hz := (numbers second).2
  rw [lt_iff_position hx hy] at first
  rw [lt_iff_position hy hz] at second
  rw [lt_iff_position hx hz]
  exact first.trans second

/-! ## Few digits as a float -/

namespace Decimal

/-- Few digits are no number that is found out to be too large. -/
theorem lt_tooLarge {digits : Nat} (small : digits < 2 ^ 64) : digits < tooLarge :=
  small.trans_le (by decide +kernel)

theorem ofDecimal_whole {digits : Nat} (small : digits < 2 ^ 64) :
    ofDecimal digits 0 = Float.ofScientific digits false 0 := by
  rw [ofDecimal, if_pos (Int.le_refl 0), if_neg (Nat.not_le.2 (lt_tooLarge small)), Int.toNat_zero]

theorem ofDecimal_tenths {digits : Nat} (small : digits < 2 ^ 64) :
    ofDecimal digits (-1) = Float.ofScientific digits true 1 := by
  have below := lt_tooLarge small
  have more := Nat.le_mul_of_pos_right tooLarge (show 0 < Nat.pow 10 1 by decide)
  have large : ¬ tooLarge * Nat.pow 10 1 ≤ digits := by omega
  rw [ofDecimal, if_neg (by decide)]
  simp [large]

end Decimal

namespace Script

namespace Value

theorem floatOrder?_swap (x y : Float) :
    floatOrder? y x = (floatOrder? x y).map Ordering.swap := by
  rw [Decimal.floatOrder?_eq, Decimal.floatOrder?_eq, Decimal.compare_swap]

/-- Only what is less comes first, when numbers that cannot be ordered count as equal. -/
theorem floatOrder_eq_lt_iff {x y : Float} : (floatOrder? x y).getD .eq = .lt ↔ x < y := by
  rw [Decimal.lt_iff_compare, Decimal.floatOrder?_eq]
  rcases x.toModel.unpack.compare y.toModel.unpack with _ | _ | _ | _ <;> decide

theorem textOrder_swap (s t : String) : textOrder t s = (textOrder s t).swap := by
  change compare t s = (compare s t).swap
  exact Std.OrientedOrd.eq_swap

/-! ## The order of values -/

def isText : Value → Bool
  | .str _ => true
  | _ => false

@[simp] theorem isText_str (s : String) : isText (.str s) = true := rfl

theorem exists_eq_str {value : Value} (text : value.isText = true) : ∃ s, value = .str s := by
  cases value <;> first | exact ⟨_, rfl⟩ | cases text

theorem isText_eq_false {value : Value} (noText : ∀ s, value ≠ .str s) : value.isText = false := by
  rw [Bool.eq_false_iff]
  intro text
  obtain ⟨s, same⟩ := exists_eq_str text
  exact noText s same

/-- Of two values one is no text, or both are. -/
theorem not_isText_or_texts (a b : Value) :
    (a.isText = false ∨ b.isText = false) ∨ ∃ s t, a = .str s ∧ b = .str t := by
  by_cases other : a.isText = false ∨ b.isText = false
  · exact .inl other
  · rw [not_or, Bool.not_eq_false, Bool.not_eq_false] at other
    obtain ⟨s, rfl⟩ := exists_eq_str other.1
    obtain ⟨t, rfl⟩ := exists_eq_str other.2
    exact .inr ⟨s, t, rfl, rfl⟩

/-- The order of two values that cannot be ordered as numbers. -/
def fallback (a b : Value) : Ordering :=
  if a.isText || b.isText then textOrder a.text b.text else .eq

/-- Two values of which one at most is a text are first of all compared as numbers. -/
theorem order_of_not_isText {a b : Value} (other : a.isText = false ∨ b.isText = false) :
    a.order b = (floatOrder? a.toFloat b.toFloat).getD (fallback a b) := by
  unfold order fallback
  split
  · simp at other
  · rw [isText_str, Bool.true_or, if_pos rfl]
  · rw [isText_str, Bool.or_true, if_pos rfl]
  · next noText noText' _ =>
      rw [isText_eq_false noText, isText_eq_false noText', if_neg (by decide)]

/-- **From the other side** the order is the other way round. -/
theorem order_swap (a b : Value) : b.order a = (a.order b).swap := by
  have either (x y : Float) {o p : Ordering} (swapped : p = o.swap) :
      (floatOrder? y x).getD p = ((floatOrder? x y).getD o).swap := by
    rw [floatOrder?_swap, swapped]
    cases floatOrder? x y <;> rfl
  rcases not_isText_or_texts a b with other | ⟨s, t, rfl, rfl⟩
  · rw [order_of_not_isText other, order_of_not_isText other.symm]
    refine either _ _ ?_
    rw [fallback, fallback, Bool.or_comm]
    split
    · exact textOrder_swap _ _
    · rfl
  · rw [order, order]
    rcases Decimal.read? (Text.trim s.toList) with _ | x <;>
      rcases Decimal.read? (Text.trim t.toList) with _ | y
    · exact textOrder_swap s t
    · exact textOrder_swap s t
    · exact textOrder_swap s t
    · exact either x y rfl

instance : Std.OrientedCmp order where
  eq_swap {a b} := order_swap b a

theorem order_self (a : Value) : a.order a = .eq :=
  Std.ReflCmp.compare_self

/-- Among these values, whatever is before something is before all that this is before. -/
def Consistent (values : Set Value) : Prop :=
  ∀ a ∈ values, ∀ b ∈ values, ∀ c ∈ values,
    a.order b = .lt → b.order c = .lt → a.order c = .lt

/-- Not all values are of this kind.  Three texts stand in a circle, each before the next, so that
whichever is picked, another is beyond it. -/
theorem texts_in_a_circle :
    (Value.str "10").order (.str "1a") = .lt ∧ (Value.str "1a").order (.str "9") = .lt ∧
      (Value.str "9").order (.str "10") = .lt := by
  have ten : Decimal.read? (Text.trim "10".toList) = some (Decimal.ofDecimal 10 0) := by rfl
  have nine : Decimal.read? (Text.trim "9".toList) = some (Decimal.ofDecimal 9 0) := by rfl
  have word : Decimal.read? (Text.trim "1a".toList) = none := by rfl
  refine ⟨?_, ?_, ?_⟩
  · rw [order, ten, word]
    decide
  · rw [order, word]
    decide
  · rw [order, nine, ten, Decimal.ofDecimal_whole (by decide), Decimal.ofDecimal_whole (by decide)]
    decide

variable {values : Set Value} {side : Ordering}

/-- It is the same in the other direction. -/
theorem Consistent.trans (consistent : Consistent values) (strict : side ≠ .eq) {a b c : Value}
    (ha : a ∈ values) (hb : b ∈ values) (hc : c ∈ values)
    (first : a.order b = side) (second : b.order c = side) : a.order c = side := by
  cases side with
  | lt => exact consistent a ha b hb c hc first second
  | eq => exact absurd rfl strict
  | gt =>
      rw [Std.OrientedCmp.gt_iff_lt] at first second ⊢
      exact consistent c hc b hb a ha second first

/-! ## Values of one kind -/

/-- The number that a value is compared as, if it can be. -/
def numeral? : Value → Option Float
  | .str s => Decimal.read? (Text.trim s.toList)
  | value => some value.toFloat

/-- The value spells a number. -/
def IsNumeric (value : Value) : Prop :=
  ∃ x, value.numeral? = some x ∧ x.isNaN = false

/-- The value is a text that is compared letter by letter with every other text. -/
def IsWord (value : Value) : Prop :=
  value.isText = true ∧ value.numeral? = none

theorem toFloat_of_numeral {value : Value} {x : Float} (spelled : value.numeral? = some x) :
    value.toFloat = x := by
  cases value with
  | str s =>
      have blank : Decimal.read? [] = none := by decide
      rw [numeral?] at spelled
      have some_ : (Text.trim s.toList).isEmpty = false := by
        rw [List.isEmpty_eq_false_iff]
        intro empty
        rw [empty, blank] at spelled
        cases spelled
      rw [toFloat]
      simp only [some_, spelled, Bool.false_eq_true, if_false, Option.getD_some]
  | _ => exact Option.some.inj spelled

/-- Values that spell numbers are compared as these. -/
theorem order_of_isNumeric {a b : Value} (left : a.IsNumeric) (right : b.IsNumeric) :
    a.order b = (floatOrder? a.toFloat b.toFloat).getD .eq := by
  obtain ⟨x, hx, number⟩ := left
  obtain ⟨y, hy, number'⟩ := right
  rw [toFloat_of_numeral hx, toFloat_of_numeral hy]
  rcases not_isText_or_texts a b with other | ⟨s, t, rfl, rfl⟩
  · rw [order_of_not_isText other, toFloat_of_numeral hx, toFloat_of_numeral hy]
    cases ordered : floatOrder? x y with
    | none =>
        rw [Decimal.floatOrder?_eq_none_iff, number, number'] at ordered
        simp at ordered
    | some order => rfl
  · rw [numeral?] at hx hy
    rw [order, hx, hy]

/-- Texts that spell no numbers are compared letter by letter. -/
theorem order_of_isWord {a b : Value} (left : a.IsWord) (right : b.IsWord) :
    a.order b = compare a.text b.text := by
  obtain ⟨s, rfl⟩ := exists_eq_str left.1
  obtain ⟨t, rfl⟩ := exists_eq_str right.1
  have none := left.2
  rw [numeral?] at none
  rw [order, none, text, text, chars, chars, String.ofList_toList, String.ofList_toList]
  rfl

theorem consistent_of_floats
    (compared : ∀ a ∈ values, ∀ b ∈ values,
      a.order b = (floatOrder? a.toFloat b.toFloat).getD .eq) : Consistent values := by
  intro a ha b hb c hc first second
  rw [compared a ha b hb, floatOrder_eq_lt_iff] at first
  rw [compared b hb c hc, floatOrder_eq_lt_iff] at second
  rw [compared a ha c hc, floatOrder_eq_lt_iff]
  exact Decimal.lt_trans first second

theorem consistent_of_not_isText : Consistent {value | value.isText = false} := by
  refine consistent_of_floats fun a ha b hb => ?_
  have equal : fallback a b = .eq := by
    rw [fallback, show a.isText = false from ha, show b.isText = false from hb]
    rfl
  rw [order_of_not_isText (.inl ha), equal]

theorem consistent_of_isNumeric : Consistent {value | value.IsNumeric} :=
  consistent_of_floats fun _ ha _ hb => order_of_isNumeric ha hb

theorem consistent_of_isWord : Consistent {value | value.IsWord} := by
  intro a ha b hb c hc first second
  rw [order_of_isWord ha hb, compare_lt_iff_lt] at first
  rw [order_of_isWord hb hc, compare_lt_iff_lt] at second
  rw [order_of_isWord ha hc, compare_lt_iff_lt]
  exact first.trans second

end Value

open Value

variable {values : Set Value} {side : Ordering}

/-! ## The best so far -/

/-- **What is left** is one of the values, and nothing behind it is beyond it. -/
theorem exists_split_extreme (side : Ordering) (best : Value) (others : List Value) :
    ∃ front back, best :: others = front ++ extreme (· == side) best others :: back ∧
      ∀ value ∈ back, value.order (extreme (· == side) best others) ≠ side := by
  induction others generalizing best with
  | nil => exact ⟨[], [], rfl, nofun⟩
  | cons value others ih =>
      rw [extreme]
      by_cases beyond : value.order best = side
      · obtain ⟨front, back, whole, unbeaten⟩ := ih value
        rw [if_pos (beq_iff_eq.2 beyond)]
        exact ⟨best :: front, back, by rw [whole, List.cons_append], unbeaten⟩
      · obtain ⟨front, back, whole, unbeaten⟩ := ih best
        rw [if_neg (mt beq_iff_eq.1 beyond)]
        generalize extreme (· == side) best others = left at whole unbeaten ⊢
        cases front with
        | nil =>
            obtain ⟨rfl, rfl⟩ := List.cons.inj whole
            exact ⟨[], value :: others, rfl, List.forall_mem_cons.2 ⟨beyond, unbeaten⟩⟩
        | cons _ front =>
            obtain ⟨rfl, rfl⟩ := List.cons.inj whole
            exact ⟨best :: value :: front, back, rfl, unbeaten⟩

/-- What is beyond the first wins, though the one between them may be beyond it. -/
theorem extreme_last {a b c : Value} (not_beyond : a.order b ≠ side) (beyond : c.order b = side) :
    extreme (· == side) b [a, c] = c := by
  rw [extreme, if_neg (mt beq_iff_eq.1 not_beyond), extreme, if_pos (beq_iff_eq.2 beyond), extreme]

/-- Where the order is transitive, nothing comes to be beyond the best that was not. -/
theorem extreme_unbeaten (consistent : Consistent values) (strict : side ≠ .eq)
    {others : List Value} (among : ∀ value ∈ others, value ∈ values) {best : Value}
    (member : best ∈ values) {value : Value} (ha : value ∈ values)
    (seen : value ∈ others ∨ value.order best ≠ side) :
    value.order (extreme (· == side) best others) ≠ side := by
  induction others generalizing best with
  | nil => exact seen.resolve_left List.not_mem_nil
  | cons next others ih =>
      obtain ⟨here, later⟩ := List.forall_mem_cons.1 among
      rw [extreme]
      by_cases beyond : next.order best = side
      · rw [if_pos (beq_iff_eq.2 beyond)]
        refine ih later here ?_
        rcases seen with seen | unbeaten
        · rcases List.mem_cons.1 seen with rfl | seen
          · exact .inr fun same => strict (same.symm.trans (order_self value))
          · exact .inl seen
        · exact .inr fun same => unbeaten (consistent.trans strict ha here member same beyond)
      · rw [if_neg (mt beq_iff_eq.1 beyond)]
        refine ih later member ?_
        rcases seen with seen | unbeaten
        · rcases List.mem_cons.1 seen with rfl | seen
          · exact .inr beyond
          · exact .inl seen
        · exact .inr unbeaten

/-! ## The two functions -/

/-- The functions that look for an end of the order, each with its end. -/
def endOf? : String → Option Ordering
  | "min" => some .lt
  | "max" => some .gt
  | _ => none

/-- Whichever of these values a function is given, it comes to one that none of them is beyond. -/
def FindsExtremes (name : String) (side : Ordering) (values : Set Value) : Prop :=
  ∀ first others, (∀ value ∈ first :: others, value ∈ values) →
    ∀ dice, ∃ best ∈ first :: others,
      callFunction? name (first :: others) dice = some (.ok best, dice) ∧
      ∀ value ∈ first :: others, value.order best ≠ side

variable {name : String}

theorem endOf?_eq_some (function : endOf? name = some side) :
    name = "min" ∧ side = .lt ∨ name = "max" ∧ side = .gt := by
  unfold endOf? at function
  split at function <;> cases function
  · exact .inl ⟨rfl, rfl⟩
  · exact .inr ⟨rfl, rfl⟩

/-- Either function gives what is left of its arguments. -/
theorem callFunction?_extreme (function : endOf? (withoutNamespace name) = some side)
    (first : Value) (others : List Value) (dice : Dice) :
    callFunction? name (first :: others) dice =
      some (.ok (extreme (· == side) first others), dice) := by
  rcases endOf?_eq_some function with ⟨bare, rfl⟩ | ⟨bare, rfl⟩ <;>
  · rw [callFunction?, bare]
    rfl

theorem strict_of_endOf? (function : endOf? name = some side) : side ≠ .eq := by
  rcases endOf?_eq_some function with ⟨-, rfl⟩ | ⟨-, rfl⟩ <;> decide

/-- **An extreme is always found just when the order is transitive**: three values that are in the
way of that are given so that the one in the middle wins. -/
theorem findsExtremes_iff (function : endOf? (withoutNamespace name) = some side) :
    FindsExtremes name side values ↔ Consistent values := by
  have strict := strict_of_endOf? function
  constructor
  · intro finds
    -- `c` is beyond `b` and `a` beyond `c`, but `a` is not beyond `b`
    have transitive : ∀ a ∈ values, ∀ b ∈ values, ∀ c ∈ values,
        a.order c = side → c.order b = side → a.order b = side := by
      intro a ha b hb c hc first second
      by_contra not_beyond
      have among : ∀ value ∈ [b, a, c], value ∈ values := by simp [ha, hb, hc]
      obtain ⟨best, -, found, unbeaten⟩ := finds b [a, c] among ⟨fun _ => 0, 0⟩
      rw [callFunction?_extreme function, extreme_last not_beyond second] at found
      cases found
      exact unbeaten a (by simp) first
    intro a ha b hb c hc first second
    rcases endOf?_eq_some function with ⟨-, rfl⟩ | ⟨-, rfl⟩
    · exact transitive a ha c hc b hb first second
    · rw [← Std.OrientedCmp.gt_iff_lt] at first second ⊢
      exact transitive c hc a ha b hb second first
  · intro consistent first others among dice
    obtain ⟨front, back, whole, -⟩ := exists_split_extreme side first others
    refine ⟨_, ?_, callFunction?_extreme function first others dice, ?_⟩
    · rw [whole]
      exact List.mem_append_right _ List.mem_cons_self
    · obtain ⟨member, members⟩ := List.forall_mem_cons.1 among
      intro value ha
      refine extreme_unbeaten consistent strict members member (among value ha) ?_
      rcases List.mem_cons.1 ha with rfl | seen
      · exact .inr fun same => strict (same.symm.trans (order_self value))
      · exact .inl seen

/-- **What `min` and `max` come to**: always one of the arguments, with none behind it that is
beyond it.  None at all is, whatever arguments are taken from some values, just when the order of
these is transitive; it is if none of them is a text, if all of them spell numbers, and if they are
texts of which none does. -/
theorem extreme_of_arguments (function : endOf? (withoutNamespace name) = some side) :
    (∀ first others dice, ∃ best front back,
        callFunction? name (first :: others) dice = some (.ok best, dice) ∧
        first :: others = front ++ best :: back ∧ ∀ value ∈ back, value.order best ≠ side) ∧
      (∀ values, FindsExtremes name side values ↔ Consistent values) ∧
      Consistent {value | value.isText = false} ∧ Consistent {value | value.IsNumeric} ∧
      Consistent {value | value.IsWord} := by
  refine ⟨fun first others dice => ?_, fun _ => findsExtremes_iff function,
    consistent_of_not_isText, consistent_of_isNumeric, consistent_of_isWord⟩
  obtain ⟨front, back, whole, unbeaten⟩ := exists_split_extreme side first others
  exact ⟨_, front, back, callFunction?_extreme function first others dice, whole, unbeaten⟩

/-- The greatest of a number, a text that spells one and a truth value is found. -/
theorem greatest_number_is_found :
    endOf? (withoutNamespace "Math.max") = some .gt ∧
      ∀ dice, ∃ best ∈ [Value.int 9, .str " 10 ", .bool true],
        callFunction? "Math.max" [.int 9, .str " 10 ", .bool true] dice = some (.ok best, dice) ∧
        ∀ value ∈ [Value.int 9, .str " 10 ", .bool true], value.order best ≠ .gt := by
  have greatest : endOf? (withoutNamespace "Math.max") = some .gt := by decide
  obtain ⟨-, finds, -, numeric, -⟩ := extreme_of_arguments greatest
  refine ⟨greatest, (finds _).2 numeric _ _ ?_⟩
  have spelled : Decimal.read? (Text.trim " 10 ".toList) = some (Decimal.ofDecimal 10 0) := by rfl
  have number : (Decimal.ofDecimal 10 0).isNaN = false := by
    rw [Decimal.ofDecimal_whole (by decide)]
    decide
  simp only [List.forall_mem_cons, List.not_mem_nil, false_imp_iff, implies_true, and_true]
  exact ⟨⟨_, rfl, by decide⟩, ⟨_, spelled, number⟩, ⟨_, rfl, by decide⟩⟩

/-- `1.0` is the greatest of these, and passed over: it is no more than `1`, which comes first,
and then `1-` is.  So is `1` as the least, when `1.0` comes first. -/
theorem greatest_is_passed_over :
    (∀ dice, callFunction? "max" [.str "1", .str "1.0", .str "1-"] dice =
        some (.ok (.str "1-"), dice)) ∧
      (Value.str "1.0").order (.str "1-") = .gt ∧
      (∀ dice, callFunction? "min" [.str "1.0", .str "1", .str "1-"] dice =
        some (.ok (.str "1-"), dice)) ∧
      (Value.str "1").order (.str "1-") = .lt := by
  have greatest : endOf? (withoutNamespace "max") = some .gt := by decide
  have least : endOf? (withoutNamespace "min") = some .lt := by decide
  have tenths : Decimal.read? (Text.trim "1.0".toList) = some (Decimal.ofDecimal 10 (-1)) := by rfl
  have one : Decimal.read? (Text.trim "1".toList) = some (Decimal.ofDecimal 1 0) := by rfl
  have equal : (Value.str "1.0").order (.str "1") = .eq := by
    rw [Value.order, tenths, one, Decimal.ofDecimal_whole (by decide),
      Decimal.ofDecimal_tenths (by decide)]
    decide
  have beyond : (Value.str "1-").order (.str "1") = .gt := by decide
  have equal' : (Value.str "1").order (.str "1.0") = .eq := by
    rw [Value.order_swap, equal]
    rfl
  have beyond' : (Value.str "1-").order (.str "1.0") = .lt := by decide
  refine ⟨fun dice => ?_, Std.OrientedCmp.gt_iff_lt.2 beyond', fun dice => ?_,
    Std.OrientedCmp.gt_iff_lt.1 beyond⟩
  · rw [callFunction?_extreme greatest, extreme_last (by rw [equal]; decide) beyond]
  · rw [callFunction?_extreme least, extreme_last (by rw [equal']; decide) beyond']

end Script

end ChatTemplate
