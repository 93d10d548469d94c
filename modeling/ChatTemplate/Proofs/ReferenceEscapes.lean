/-
# ChatTemplate.Proofs.ReferenceEscapes -- text written with character references

Text is escaped by writing references for the characters that mark up a page, and for any others
by their code points if so wished.  Each character may be written in its own way, also the same
one in different ways at two places (`Escapes`).

A code point has at most seven decimal digits and six hexadecimal ones when there are no leading
zeros, so every such reference is short enough to be recognised, whatever follows it.

Main statement: `decode_escaped`.
-/
import ChatTemplate.Proofs.ReferenceGrammar

namespace ChatTemplate

set_option autoImplicit false

/-! ## Digits without leading zeros -/

namespace Text

/-- The digits of a number in a base, without leading zeros. -/
def IsNumeral (base : Nat) (digits : List Char) (n : Nat) : Prop :=
  Spells base digits n ∧ (digits.head? = some '0' → digits = ['0'])

theorem eq_zero_of_digitValue {base : Nat} {c : Char} (read : digitValue? base c = some 0) :
    c = '0' := by
  unfold digitValue? at read
  obtain ⟨below, found⟩ := Option.ite_none_right_eq_some.1 read
  have zero := Option.some.inj found
  rw [zero] at below
  split at zero
  · next digit =>
      have lowest : '0'.toNat ≤ c.toNat := (isDigit_iff.1 digit).1
      have code : c.toNat = '0'.toNat := by omega
      exact Char.ext (UInt32.toNat_inj.1 code)
  · split at zero
    · cases zero
    · split at zero
      · cases zero
      · omega

/-- A number with this many digits is at least as large as the power of the base. -/
theorem IsNumeral.pow_le {base n : Nat} {digits : List Char} (numeral : IsNumeral base digits n)
    (many : 2 ≤ digits.length) : base ^ (digits.length - 1) ≤ n := by
  obtain ⟨⟨values, some_, read, rfl⟩, leading⟩ := numeral
  obtain ⟨value, values, rfl⟩ := List.exists_cons_of_ne_nil some_
  cases digits with
  | nil => cases read
  | cons c digits =>
      obtain ⟨here, behind⟩ := List.cons.inj read
      have long : digits.length = values.length := by simpa using congrArg List.length behind
      have positive : 0 < value := by
        refine Nat.pos_of_ne_zero ?_
        rintro rfl
        obtain rfl := eq_zero_of_digitValue here
        have alone := leading rfl
        simp at alone
        simp [alone] at many
      rw [List.reverse_cons, Nat.ofDigits_append, Nat.ofDigits_singleton, List.length_reverse,
        List.length_cons, Nat.add_sub_cancel, long]
      exact Nat.le_add_left_of_le (Nat.le_mul_of_pos_right _ positive)

/-- **A small number has few digits.** -/
theorem IsNumeral.length_le {base n most : Nat} {digits : List Char}
    (numeral : IsNumeral base digits n) (some_ : 1 ≤ most) (base_ : 1 < base)
    (small : n < base ^ most) : digits.length ≤ most := by
  by_contra many
  have large := numeral.pow_le (by omega)
  have power : base ^ most ≤ base ^ (digits.length - 1) :=
    Nat.pow_le_pow_right (by omega) (by omega)
  omega

end Text

namespace CharReference

/-! ## Escaping -/

/-- The ways to write a character: those that mark up a page by name or by number, any by its code
point, and the others as they are. -/
inductive EscapeOf : Char → List Char → Prop
  | ampersand : EscapeOf '&' "&amp;".toList
  | less : EscapeOf '<' "&lt;".toList
  | greater : EscapeOf '>' "&gt;".toList
  | quote : EscapeOf '"' "&quot;".toList
  | apostrophe : EscapeOf '\'' "&#39;".toList
  | decimal {c : Char} {digits : List Char} (numeral : Text.IsNumeral 10 digits c.toNat) :
      EscapeOf c ('&' :: ('#' :: digits ++ [';']))
  | hexadecimal {c x : Char} {digits : List Char} (mark : x = 'x' ∨ x = 'X')
      (numeral : Text.IsNumeral 16 digits c.toNat) :
      EscapeOf c ('&' :: ('#' :: x :: digits ++ [';']))
  | itself {c : Char} (plain : c ∉ ['&', '<', '>', '"', '\'']) : EscapeOf c [c]

/-- A text written character by character. -/
inductive Escapes : List Char → List Char → Prop
  | nil : Escapes [] []
  | cons {c : Char} {text written behind : List Char} (here : EscapeOf c written)
      (onward : Escapes text behind) : Escapes (c :: text) (written ++ behind)

theorem toNat_lt (c : Char) : c.toNat < 0x110000 := by
  have valid : c.toNat.isValidChar := c.valid
  rcases valid with low | ⟨-, high⟩ <;> omega

/-- **A character is written as itself or as a reference to it**, and an ampersand is not written
as itself. -/
theorem EscapeOf.refers_or_itself {c : Char} {written : List Char} (escape : EscapeOf c written) :
    Refers written c ∨ c ≠ '&' ∧ written = [c] := by
  cases escape with
  | ampersand => exact .inl ⟨"amp".toList, rfl, by decide, by decide⟩
  | less => exact .inl ⟨"lt".toList, rfl, by decide, by decide⟩
  | greater => exact .inl ⟨"gt".toList, rfl, by decide, by decide⟩
  | quote => exact .inl ⟨"quot".toList, rfl, by decide, by decide⟩
  | apostrophe => exact .inl ⟨"#39".toList, rfl, by decide, by decide⟩
  | @decimal _ digits numeral =>
      have few := numeral.length_le (by decide : 1 ≤ 7) (by decide)
        (Nat.lt_trans (toNat_lt c) (by decide))
      refine .inl ⟨'#' :: digits, rfl, ?_, resolve?_eq_some_iff.2 (.inl (.decimal numeral.1))⟩
      simp only [List.length_cons, maxBody]
      omega
  | @hexadecimal _ x digits mark numeral =>
      have few := numeral.length_le (by decide : 1 ≤ 6) (by decide)
        (Nat.lt_trans (toNat_lt c) (by decide))
      refine .inl ⟨'#' :: x :: digits, rfl, ?_,
        resolve?_eq_some_iff.2 (.inl (.hexadecimal mark numeral.1))⟩
      simp only [List.length_cons, maxBody]
      omega
  | itself plain => exact .inr ⟨fun ampersand => plain (by simp [ampersand]), rfl⟩

/-- **Decoding gives back what was escaped.** -/
theorem decode_escaped {text written : List Char} (escapes : Escapes text written) :
    decode written = text := by
  induction escapes with
  | nil => rfl
  | cons here onward ih =>
      rcases here.refers_or_itself with refers | ⟨other, rfl⟩
      · rw [decode_reference refers, ih]
      · rw [List.singleton_append, decode_kept fun ampersand => absurd ampersand other, ih]

/-- The character with the greatest code point. -/
def lastChar : Char :=
  Char.ofNat 0x10ffff

/-- A letter by its code point, a semicolon behind an ampersand, and the last code point of all. -/
theorem awkward_text_is_read_back :
    Escapes ['é', '&', ';', lastChar, '\''] "&#xE9;&amp;;&#1114111;&#39;".toList ∧
      decode "&#xE9;&amp;;&#1114111;&#39;".toList = ['é', '&', ';', lastChar, '\''] := by
  have letter : Text.IsNumeral 16 ['E', '9'] 'é'.toNat :=
    ⟨⟨[14, 9], by decide, by decide, by decide⟩, by decide⟩
  have last : Text.IsNumeral 10 "1114111".toList lastChar.toNat :=
    ⟨⟨[1, 1, 1, 4, 1, 1, 1], by decide, by decide, by decide⟩, by decide⟩
  have escapes : Escapes ['é', '&', ';', lastChar, '\''] "&#xE9;&amp;;&#1114111;&#39;".toList :=
    .cons (.hexadecimal (.inl rfl) letter) (.cons .ampersand (.cons (.itself (by decide))
      (.cons (.decimal last) (.cons .apostrophe .nil))))
  exact ⟨escapes, decode_escaped escapes⟩

end CharReference

end ChatTemplate
