/-
# ChatTemplate.Proofs.CharCodes -- kinds of characters by their codes

The kinds of ASCII characters are intervals of codes, white space and the word characters of
all scripts are tables of intervals.  No character is of two kinds that a scanner tells apart:
what belongs to a name, a word or a number is not white space.
-/
import ChatTemplate.Text.Blank
import ChatTemplate.Text.Integer
import ChatTemplate.Text.Word

namespace ChatTemplate.Text

set_option autoImplicit false

variable {c : Char}

/-! ## ASCII -/

theorem isDigit_iff : c.isDigit = true ↔ 0x30 ≤ c.toNat ∧ c.toNat ≤ 0x39 := by
  rw [Char.isDigit, Bool.and_eq_true, decide_eq_true_eq, decide_eq_true_eq]
  exact Iff.rfl

theorem isAlpha_iff :
    c.isAlpha = true ↔ 0x41 ≤ c.toNat ∧ c.toNat ≤ 0x5a ∨ 0x61 ≤ c.toNat ∧ c.toNat ≤ 0x7a := by
  have upper : c.isUpper = true ↔ 0x41 ≤ c.toNat ∧ c.toNat ≤ 0x5a := decide_eq_true_iff
  have lower : c.isLower = true ↔ 0x61 ≤ c.toNat ∧ c.toNat ≤ 0x7a :=
    Bool.and_eq_true_iff.trans (and_congr decide_eq_true_iff decide_eq_true_iff)
  rw [← upper, ← lower, ← Bool.or_eq_true]
  exact Iff.rfl

/-- Characters of names are printed ASCII characters. -/
theorem toNat_of_isNameChar (name : isNameChar c = true) : 0x30 ≤ c.toNat ∧ c.toNat < 0x80 := by
  rw [isNameChar, Char.isAlphanum, Bool.or_eq_true, Bool.or_eq_true, isAlpha_iff, isDigit_iff,
    beq_iff_eq] at name
  rcases name with (letter | digit) | rfl
  · omega
  · omega
  · decide

theorem isBlank_of_isNameChar (name : isNameChar c = true) : isBlank c = false := by
  have printed := toNat_of_isNameChar name
  simp [isBlank]
  omega

theorem isNameChar_of_isDigit (digit : c.isDigit = true) : isNameChar c = true := by
  rw [isNameChar, Char.isAlphanum, digit, Bool.or_true, Bool.true_or]

theorem isBlank_of_isDigit (digit : c.isDigit = true) : isBlank c = false :=
  isBlank_of_isNameChar (isNameChar_of_isDigit digit)

/-- Numbers are written in digits. -/
theorem isDigit_of_mem_writeNat {n : Nat} (member : c ∈ writeNat n) : c.isDigit = true :=
  Nat.isDigit_of_mem_toDigits (by decide) (by decide) member

/-! ## All scripts -/

theorem isWordChar_of_isNameChar (name : isNameChar c = true) : isWordChar c = true := by
  rw [isWordChar, if_pos (toNat_of_isNameChar name).2, name]

theorem isDecimalDigit_of_isDigit (digit : c.isDigit = true) : isDecimalDigit c = true := by
  have code := isDigit_iff.1 digit
  rw [isDecimalDigit, if_pos (by omega), digit]

/-- White space beyond ASCII, as ranges of codes. -/
def blankRanges : List (Nat × Nat) :=
  [ (0x85, 0x85), (0xa0, 0xa0), (0x1680, 0x1680), (0x2000, 0x200a), (0x2028, 0x2029),
    (0x202f, 0x202f), (0x205f, 0x205f), (0x3000, 0x3000) ]

theorem exists_blankRange (blank : isBlank c = true) (wide : 0x80 ≤ c.toNat) :
    ∃ range ∈ blankRanges, range.1 ≤ c.toNat ∧ c.toNat ≤ range.2 := by
  simp only [isBlank, Bool.or_eq_true, Bool.and_eq_true, decide_eq_true_eq, beq_iff_eq] at blank
  simp only [blankRanges, List.mem_cons, List.not_mem_nil, or_false, or_and_right, exists_or,
    exists_eq_left]
  omega

theorem wordRanges_apart {word blank : Nat × Nat} (words : word ∈ wordRanges)
    (blanks : blank ∈ blankRanges) : blank.2 < word.1 ∨ word.2 < blank.1 := by
  -- two tables of hundreds of ranges: `Nat.blt` is quick to evaluate where `<` is not
  have apart : (wordRanges.all fun word => blankRanges.all fun blank =>
      blank.2.blt word.1 || word.2.blt blank.1) = true := by decide +kernel
  have either := List.all_eq_true.1 (List.all_eq_true.1 apart word words) blank blanks
  simpa [Nat.blt_eq] using either

/-- Word characters are not white space. -/
theorem isBlank_of_isWordChar (word : isWordChar c = true) : isBlank c = false := by
  rw [isWordChar] at word
  split at word
  · exact isBlank_of_isNameChar word
  · next wide =>
      rw [inRanges, List.any_eq_true] at word
      obtain ⟨range, member, inside⟩ := word
      refine Bool.eq_false_iff.2 fun blank => ?_
      obtain ⟨gap, listed, within⟩ := exists_blankRange blank (Nat.le_of_not_lt wide)
      have apart := wordRanges_apart member listed
      simp only [Bool.and_eq_true, decide_eq_true_eq] at inside
      omega

end ChatTemplate.Text
