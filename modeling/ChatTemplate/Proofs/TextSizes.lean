/-
# ChatTemplate.Proofs.TextSizes -- how many bytes texts have

A character has from one to four bytes, and a text as many as its characters together (`size`).
What is cut out of a text is no longer than the text, and what is put together from texts is as
long as all of them.

* `size_le_of_sublist`, `size_le_of_mem_splitText`: what is cut out.
* `size_replaceFirst`, `size_join`, `size_flatten_replicate`: what is put together.
* `size_upper_le`, `size_lower_le`: letters of the other case can be longer, up to three times in
  upper case and half as long again in lower case.
* `length_formatNumber_le`, `length_fixed_le`: a number is never a long text.  A float has digits
  in front of the point for the largest power of two and behind it for the least.
-/
import Mathlib.Algebra.Order.Ring.Nat
import ChatTemplate.Proofs.SearchedTexts
import ChatTemplate.Script.Value
import ChatTemplate.Text.Case

namespace ChatTemplate

set_option autoImplicit false

namespace Text

/-! ## Bytes -/

/-- How many bytes a text has. -/
def size (text : List Char) : Nat :=
  (text.map Char.utf8Size).sum

@[simp] theorem size_nil : size [] = 0 := rfl

@[simp] theorem size_cons (c : Char) (text : List Char) :
    size (c :: text) = c.utf8Size + size text := by
  rw [size, List.map_cons, List.sum_cons, size]

@[simp] theorem size_append (front back : List Char) :
    size (front ++ back) = size front + size back := by
  rw [size, List.map_append, List.sum_append, size, size]

theorem utf8ByteSize_ofList (text : List Char) : (String.ofList text).utf8ByteSize = size text := by
  induction text with
  | nil => rfl
  | cons c text ih =>
      have whole : String.ofList (c :: text) = String.singleton c ++ String.ofList text := by
        rw [← String.toList_inj]
        simp
      rw [whole, String.utf8ByteSize_append, ih, size_cons, String.utf8ByteSize_singleton]

theorem utf8ByteSize_eq (s : String) : s.utf8ByteSize = size s.toList := by
  rw [← utf8ByteSize_ofList, String.ofList_toList]

/-- No text has more than four bytes for a character. -/
theorem size_le_length (text : List Char) : size text ≤ 4 * text.length := by
  induction text with
  | nil => exact Nat.zero_le _
  | cons c text ih =>
      have four := c.utf8Size_le_four
      rw [size_cons, List.length_cons]
      omega

/-- **What is cut out of a text** is no longer. -/
theorem size_le_of_sublist {part text : List Char} (cut : part.Sublist text) :
    size part ≤ size text := by
  induction cut with
  | slnil => exact Nat.le_refl _
  | cons c _ ih =>
      rw [size_cons]
      omega
  | cons_cons c _ ih =>
      rw [size_cons, size_cons]
      omega

theorem trim_sublist (text : List Char) : (trim text).Sublist text := by
  have back : (trimEnd (trimStart text)).Sublist (trimStart text) :=
    List.reverse_sublist.1 ((List.reverse_reverse _).symm ▸ List.dropWhile_sublist _)
  exact back.trans (List.dropWhile_sublist _)

theorem slice_sublist {α : Type} (items : List α) (args : List Script.Value) :
    (Script.slice items args).Sublist items :=
  (List.drop_sublist _ _).trans (List.take_sublist _ _)

/-! ## Putting together -/

/-- **Replacing** changes the size by what is taken out and put in. -/
theorem size_replaceFirst {pat text : List Char} (within : pat <:+: text) (value : List Char) :
    size (replaceFirst pat value text) + size pat = size text + size value := by
  have contained := contains_of_infix within
  obtain ⟨⟨before, after⟩, found⟩ := Option.isSome_iff_exists.1 contained
  rw [replaceFirst_of_breakOn found, eq_append_of_breakOn found]
  simp only [size_append]
  omega

/-- **Joining** puts the separator between any two neighbours. -/
theorem size_join (sep : List Char) (pieces : List (List Char)) :
    size (join sep pieces) = (pieces.map size).sum + (pieces.length - 1) * size sep := by
  induction pieces with
  | nil => simp [join]
  | cons piece pieces ih =>
      cases pieces with
      | nil => simp [join]
      | cons next pieces =>
          rw [join_cons_of_ne_nil _ (List.cons_ne_nil _ _), size_append, size_append, ih]
          simp only [List.map_cons, List.sum_cons, List.length_cons, Nat.add_sub_cancel,
            Nat.add_mul, Nat.one_mul]
          omega

theorem size_flatten (pieces : List (List Char)) : size pieces.flatten = (pieces.map size).sum := by
  rw [← join_nil, size_join, size_nil, Nat.mul_zero, Nat.add_zero]

/-- **Repeating** multiplies. -/
theorem size_flatten_replicate (n : Nat) (text : List Char) :
    size (List.replicate n text).flatten = n * size text := by
  rw [size_flatten, List.map_replicate, List.sum_replicate_nat]

theorem size_replicate (n : Nat) (c : Char) : size (List.replicate n c) = n * c.utf8Size := by
  rw [size, List.map_replicate, List.sum_replicate_nat]

theorem size_le_of_mem_splitText {sep text piece : List Char}
    (member : piece ∈ Script.splitText sep text) : size piece ≤ size text := by
  have whole := size_join sep (Script.splitText sep text)
  rw [join_splitText] at whole
  obtain ⟨before, after, split⟩ := List.append_of_mem member
  rw [split, List.map_append, List.map_cons, List.sum_append, List.sum_cons] at whole
  omega

/-! ## Upper and lower case -/

theorem utf8Size_eq (c : Char) :
    c.utf8Size =
      if c.toNat ≤ 0x7f then 1 else if c.toNat ≤ 0x7ff then 2 else if c.toNat ≤ 0xffff then 3
        else 4 :=
  rfl

theorem two_le_utf8Size {c : Char} (wide : ¬ c.toNat < 0x80) : 2 ≤ c.utf8Size := by
  rw [utf8Size_eq, if_neg (by omega)]
  split
  · decide
  · split <;> decide

theorem three_le_utf8Size {c : Char} (wide : ¬ c.toNat < 0x800) : 3 ≤ c.utf8Size := by
  rw [utf8Size_eq, if_neg (by omega), if_neg (by omega)]
  split <;> decide

/-- A letter whose number has sixteen bits has at most three bytes. -/
theorem utf8Size_ofNat_le {n : Nat} (small : n < 0x10000) : (Char.ofNat n).utf8Size ≤ 3 := by
  have code : (Char.ofNat n).toNat ≤ n := by
    by_cases valid : n.isValidChar
    · rw [Char.ofNat, dif_pos valid]
      exact Nat.le_refl n
    · rw [Char.ofNat, dif_neg valid]
      exact Nat.zero_le n
  rw [utf8Size_eq]
  split
  · decide
  · split
    · decide
    · rw [if_pos (by omega)]

/-- **The other form of a letter** is no longer than its table says: what is listed with letters,
and what the runs shift them to. -/
theorem size_caseForm_le {runs : List CaseRun} {sequences : List (Nat × List Nat)} {m k : Nat}
    (grows : m ≤ k) {c : Char}
    (listed : ∀ entry ∈ sequences,
      m * size (entry.2.map Char.ofNat) ≤ k * (Char.ofNat entry.1).utf8Size)
    (shifted : ∀ run ∈ runs, run.contains c.toNat = true →
      m * (Char.ofNat ((c.toNat : Int) + run.offset).toNat).utf8Size ≤ k * c.utf8Size) :
    m * size (caseForm runs sequences c) ≤ k * c.utf8Size := by
  rw [caseForm]
  split
  · next codes found =>
      obtain ⟨before, after, split, -⟩ := List.lookup_eq_some_iff.1 found
      have kept := listed (c.toNat, codes) (by rw [split]; simp)
      rwa [Char.ofNat_toNat] at kept
  · split
    · next run found =>
        have contains := List.find?_some found
        rw [size_cons, size_nil]
        exact shifted run (List.mem_of_find?_eq_some found) contains
    · rw [size_cons, size_nil]
      exact Nat.mul_le_mul_right _ grows

/-- **A letter in upper case** is at most three times as long. -/
theorem size_upperChar_le (c : Char) : size (upperChar c) ≤ 3 * c.utf8Size := by
  have listed : ∀ entry ∈ upperSequences,
      1 * size (entry.2.map Char.ofNat) ≤ 3 * (Char.ofNat entry.1).utf8Size := by decide
  have ascii : ∀ n < 0x80, size [(Char.ofNat n).toUpper] ≤ 3 * (Char.ofNat n).utf8Size := by
    decide
  rw [upperChar]
  split
  · next narrow =>
      have kept := ascii c.toNat narrow
      rwa [Char.ofNat_toNat] at kept
  · next wide =>
      have two := two_le_utf8Size wide
      rw [← Nat.one_mul (size _)]
      refine size_caseForm_le (by decide) listed fun run _ _ => ?_
      have four := (Char.ofNat ((c.toNat : Int) + run.offset).toNat).utf8Size_le_four
      omega

theorem size_upper_le (text : List Char) : size (upper text) ≤ 3 * size text := by
  induction text with
  | nil => exact Nat.le_refl _
  | cons c text ih =>
      have here := size_upperChar_le c
      rw [upper, List.flatMap_cons, size_append, size_cons]
      rw [upper] at ih
      omega

theorem size_upper_replicate (n : Nat) (c : Char) :
    size (upper (List.replicate n c)) = n * size (upperChar c) := by
  rw [upper, List.flatMap_replicate, size_flatten_replicate]

/-- **A letter in lower case** is at most half as long again. -/
theorem size_lowerChar_le (c : Char) : 2 * size (lowerChar c) ≤ 3 * c.utf8Size := by
  have listed : ∀ entry ∈ lowerSequences,
      2 * size (entry.2.map Char.ofNat) ≤ 3 * (Char.ofNat entry.1).utf8Size := by decide
  have runs : ∀ run ∈ lowerRuns, run.first < 0x800 → run.last + run.offset < 0x10000 := by
    decide +kernel
  have ascii : ∀ n < 0x80, 2 * size [(Char.ofNat n).toLower] ≤ 3 * (Char.ofNat n).utf8Size := by
    decide
  rw [lowerChar]
  split
  · next narrow =>
      have kept := ascii c.toNat narrow
      rwa [Char.ofNat_toNat] at kept
  · next wide =>
      have two := two_le_utf8Size wide
      refine size_caseForm_le (by decide) listed fun run member contains => ?_
      by_cases short : c.toNat < 0x800
      · rw [CaseRun.contains, Bool.and_eq_true, Bool.and_eq_true, decide_eq_true_eq,
          decide_eq_true_eq] at contains
        have bounded := runs run member (by omega)
        have three := utf8Size_ofNat_le
          (show ((c.toNat : Int) + run.offset).toNat < 0x10000 by omega)
        omega
      · have three := three_le_utf8Size short
        have four := (Char.ofNat ((c.toNat : Int) + run.offset).toNat).utf8Size_le_four
        omega

theorem size_lower_go_le (before text : List Char) :
    2 * size (lower.go before text) ≤ 3 * size text := by
  induction text generalizing before with
  | nil => exact Nat.le_refl _
  | cons c text ih =>
      have later := ih (c :: before)
      have letter := size_lowerChar_le c
      have form : 2 * size (if c = 'Σ' then
          if casedAhead before && !casedAhead text then ['ς'] else ['σ']
          else lowerChar c) ≤ 3 * c.utf8Size := by
        split
        · next sigma =>
            subst sigma
            split <;> decide
        · exact letter
      rw [lower.go, size_append, size_cons]
      omega

theorem size_lower_le (text : List Char) : 2 * size (lower text) ≤ 3 * size text :=
  size_lower_go_le [] text

theorem size_lower_go_replicate (before : List Char) (n : Nat) {c : Char} (plain : c ≠ 'Σ') :
    size (lower.go before (List.replicate n c)) = n * size (lowerChar c) := by
  induction n generalizing before with
  | zero => rw [List.replicate_zero, lower.go, size_nil, Nat.zero_mul]
  | succ n ih =>
      rw [List.replicate_succ, lower.go, if_neg plain, size_append, ih, Nat.succ_mul, Nat.add_comm]

theorem size_lower_replicate (n : Nat) {c : Char} (plain : c ≠ 'Σ') :
    size (lower (List.replicate n c)) = n * size (lowerChar c) :=
  size_lower_go_replicate [] n plain

end Text

/-! ## Numbers -/

theorem Text.length_writeNat_le {n k : Nat} (some_ : 0 < k) (small : n < 10 ^ k) :
    (Text.writeNat n).length ≤ k :=
  (Nat.length_toDigits_le_iff (by decide) some_).2 small

/-- The next number has at most one digit more. -/
theorem Text.length_writeNat_le_succ {n m k : Nat} (next : n ≤ m + 1) (small : m < 10 ^ k) :
    (Text.writeNat n).length ≤ k + 1 := by
  refine length_writeNat_le (Nat.succ_pos k) ?_
  calc n ≤ 10 ^ k := next.trans small
    _ < 10 ^ (k + 1) := Nat.pow_lt_pow_right (by decide) (Nat.lt_succ_self k)

theorem Text.length_writeInt_le {n : Int} {k : Nat} (some_ : 0 < k) (small : n.natAbs < 10 ^ k) :
    (Text.writeInt n).length ≤ k + 1 := by
  have digits := Text.length_writeNat_le some_ small
  rw [Text.writeInt]
  split
  · rw [List.length_cons]
    omega
  · omega

namespace Decimal

/-- The mantissa of a float has 53 bits, and its exponent eleven. -/
theorem Binary.parts_of_finite {x : Float} {negative : Bool} {mantissa : Nat} {exponent : Int}
    (finite : Binary.ofFloat x = .finite negative mantissa exponent) :
    mantissa < 2 ^ 53 ∧ -1074 ≤ exponent ∧ exponent ≤ 971 := by
  have hidden : Binary.hiddenBit = 2 ^ 52 := rfl
  have fraction := Nat.mod_lt x.toBits.toNat (show 0 < Binary.hiddenBit by decide)
  rw [ofFloat] at finite
  split at finite
  · split at finite <;> cases finite
  · split at finite
    · cases finite
      omega
    · cases finite
      omega

/-- A power of two has no more digits than its exponent says. -/
theorem Ratio.num_binary_lt {n k t : Nat} {exponent : Int} (small : n < 10 ^ k)
    (large : exponent ≤ t) : (Ratio.binary n exponent).num < 10 ^ (k + t) := by
  rw [binary]
  split
  · calc n * 2 ^ exponent.toNat ≤ n * 2 ^ t :=
          Nat.mul_le_mul_left _ (Nat.pow_le_pow_right (by decide) (by omega))
      _ ≤ n * 10 ^ t := Nat.mul_le_mul_left _ (Nat.pow_le_pow_left (by decide) t)
      _ < 10 ^ k * 10 ^ t := Nat.mul_lt_mul_of_pos_right small (Nat.pow_pos (by decide))
      _ = 10 ^ (k + t) := (Nat.pow_add 10 k t).symm
  · exact small.trans_le (Nat.pow_le_pow_right (by decide) (Nat.le_add_right k t))

theorem Ratio.unitsOf_le (r : Ratio) {p : Int} {k : Nat} (coarse : -(k : Int) ≤ p) :
    r.unitsOf p ≤ r.num * 10 ^ k := by
  rw [unitsOf]
  split
  · calc _ ≤ r.num := Nat.div_le_self _ _
      _ ≤ r.num * 10 ^ k := Nat.le_mul_of_pos_right _ (Nat.pow_pos (by decide))
  · calc _ ≤ r.num * 10 ^ (-p).toNat := Nat.div_le_self _ _
      _ ≤ r.num * 10 ^ k := Nat.mul_le_mul_left _ (Nat.pow_le_pow_right (by decide) (by omega))

theorem Ratio.unitsOf_lt {r : Ratio} {p : Int} {k n : Nat} (small : r.num < 10 ^ n)
    (coarse : -(k : Int) ≤ p) : r.unitsOf p < 10 ^ (n + k) :=
  calc r.unitsOf p ≤ r.num * 10 ^ k := r.unitsOf_le coarse
    _ < 10 ^ n * 10 ^ k := Nat.mul_lt_mul_of_pos_right small (Nat.pow_pos (by decide))
    _ = 10 ^ (n + k) := (Nat.pow_add 10 n k).symm

/-- A neighbour on a grid is the one below or the next. -/
theorem Interval.hit_le {i : Interval} {tie : Tie} {p : Int} {digits : Nat}
    (hit : i.hit? tie p = some digits) : digits ≤ i.value.unitsOf p + 1 := by
  rw [hit?] at hit
  split at hit
  · split at hit <;> cases hit <;> omega
  · cases hit
    omega
  · cases hit
    omega
  · cases hit

/-- The grids are tried one after the other. -/
theorem Interval.firstHit_bounds (i : Interval) (tie : Tie) (n : Nat) (p : Int) :
    p - n ≤ (i.firstHit tie n p).2 ∧ (i.firstHit tie n p).2 ≤ p ∧
      (i.firstHit tie n p).1 ≤ i.value.unitsOf (i.firstHit tie n p).2 + 1 := by
  induction n generalizing p with
  | zero => exact ⟨by simp [firstHit], by simp [firstHit], by simp [firstHit]⟩
  | succ n ih =>
      rw [firstHit]
      split
      · next digits hit =>
          dsimp only
          exact ⟨by omega, by omega, hit_le hit⟩
      · obtain ⟨low, high, digits⟩ := ih (p - 1)
        exact ⟨by omega, by omega, digits⟩

theorem length_positionalText_le (digits : List Char) (p : Int) :
    (positionalText false digits p).length ≤ digits.length + p.natAbs + 2 := by
  rw [positionalText]
  split
  · simp
    omega
  · dsimp only
    split
    · simp
      omega
    · simp
      omega

/-- The digits of a positive float and their place. -/
theorem length_positive_le {mantissa : Nat} {exponent : Int} (small : mantissa < 2 ^ 53)
    (least : -1074 ≤ exponent) (large : exponent ≤ 971) :
    (Layout.plain.positive mantissa exponent).length ≤ 1700 := by
  have bits : mantissa.log2 ≤ 52 := by
    by_cases zero : mantissa = 0
    · rw [zero]
      decide
    · exact Nat.le_of_lt_succ ((Nat.log2_lt zero).2 small)
  have digits : mantissa < 10 ^ 16 := small.trans_le (by decide)
  obtain ⟨low, high, units⟩ := (Interval.around mantissa exponent).firstHit_bounds .up 24
    (((mantissa.log2 : Int) + 1 + exponent) * 30103 / 100000 + 1)
  have few := Ratio.unitsOf_lt (k := 350) (Ratio.num_binary_lt (t := 971) digits large)
    (p := (shortest .up mantissa exponent).2) (by rw [shortest]; omega)
  have written := Text.length_writeNat_le_succ units few
  have laid := length_positionalText_le (Text.writeNat (shortest .up mantissa exponent).1)
    (shortest .up mantissa exponent).2
  refine laid.trans ?_
  rw [shortest] at *
  omega

/-- **The text of a float** has at most some two thousand characters. -/
theorem length_write_le (x : Float) : (Layout.plain.write x).toList.length ≤ 1701 := by
  rw [Layout.write]
  dsimp only
  split
  · decide
  · next negative _ => cases negative <;> decide
  · next negative mantissa exponent finite =>
      obtain ⟨small, least, large⟩ := Binary.parts_of_finite finite
      have positive := length_positive_le small least large
      rw [String.toList_ofList, List.length_append]
      have sign : (if negative = true then ['-'] else []).length ≤ 1 := by
        cases negative <;> decide
      have magnitude : (if mantissa = 0 then positionalText Layout.plain.fraction ['0'] 0
          else Layout.plain.positive mantissa exponent).length ≤ 1700 := by
        split
        · decide
        · exact positive
      omega

theorem roundHalfEven_le (num den : Nat) : roundHalfEven num den ≤ num + 1 := by
  have whole := Nat.div_le_self num den
  rw [roundHalfEven]
  split
  · omega
  · split <;> omega

/-- So has its text with a fixed number of places after the point, if these are not too many. -/
theorem length_fixed_le (x : Float) {places : Nat} (few : places ≤ 20) :
    (fixed places x).toList.length ≤ 2100 := by
  rw [fixed]
  split
  · decide
  · next negative _ => cases negative <;> decide
  · next negative mantissa exponent finite =>
      obtain ⟨small, least, large⟩ := Binary.parts_of_finite finite
      have places' : 10 ^ places ≤ 10 ^ 20 := Nat.pow_le_pow_right (by decide) few
      have digits : mantissa * 10 ^ places < 10 ^ 36 :=
        calc mantissa * 10 ^ places ≤ mantissa * 10 ^ 20 := Nat.mul_le_mul_left _ places'
          _ < 10 ^ 36 := by omega
      have num := Ratio.num_binary_lt (t := 971) digits large
      have rounded := roundHalfEven_le (Ratio.binary (mantissa * Nat.pow 10 places) exponent).num
        (Ratio.binary (mantissa * Nat.pow 10 places) exponent).den
      have written := Text.length_writeNat_le_succ rounded num
      have sign : (if negative = true then ['-'] else []).length ≤ 1 := by
        cases negative <;> decide
      rw [String.toList_ofList]
      generalize Text.writeNat _ = digits at written ⊢
      have filled : (List.replicate (places + 1 - digits.length) '0' ++ digits).length ≤ 1008 := by
        rw [List.length_append, List.length_replicate]
        omega
      generalize List.replicate (places + 1 - digits.length) '0' ++ digits = padded at filled ⊢
      have fraction : (if places = 0 then []
          else '.' :: padded.drop (padded.length - places)).length ≤ 1009 := by
        split
        · decide
        · rw [List.length_cons, List.length_drop]
          omega
      rw [List.length_append, List.length_append, List.length_take]
      omega

end Decimal

/-- **A float is no long text** in a message. -/
theorem Script.length_formatNumber_le (x : Float) : (formatNumber x).toList.length ≤ 1701 := by
  rw [formatNumber]
  split
  · decide
  · next negative _ => cases negative <;> decide
  · split
    · next whole _ =>
        split
        · next exact_ =>
            have digits := Text.length_writeInt_le (n := whole) (k := 15) (by decide) exact_.2
            rw [String.toList_ofList]
            omega
        · exact Decimal.length_write_le x
    · exact Decimal.length_write_le x

end ChatTemplate
