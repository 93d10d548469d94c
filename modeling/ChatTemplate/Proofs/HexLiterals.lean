/-
# ChatTemplate.Proofs.HexLiterals -- whole numbers in sixteen digits

A number is written in sixteen digits behind `0x` (`hexValue`).  It is one token and a whole
number, the same as in ten digits as long as it fits a word.  From there on the two part: in ten
digits the number becomes a float, in sixteen it becomes zero.

* `lex_hex`, `lex_writeNat`: the token of a number, in sixteen digits and in ten.

Main statement: `hex_literal`.
-/
import ChatTemplate.Proofs.ReferenceGrammar
import ChatTemplate.Proofs.WrittenTokens

namespace ChatTemplate

set_option autoImplicit false

/-! ## Ten digits -/

/-- Digits without a sign are read as their number, below the limit. -/
theorem Text.readNatural_of_readDigits {base n : Nat} {text : List Char}
    (unsigned : ∀ rest, text ≠ '+' :: rest) (read : readDigits? base text = some n)
    (limit : Nat) : readNatural? base limit text = if n < limit then some n else none := by
  rw [readNatural?]
  · rw [read, Option.filter_some]
    simp
  · exact unsigned

/-- Digits alone are read as a word, if their number fits. -/
theorem Text.readInt64_writeNat (n : Nat) :
    readInt64? (writeNat n) = if n < signedLimit then some (Int64.ofNat n) else none := by
  have unsigned : ∀ sign : Char, sign.isDigit = false → ∀ rest, writeNat n ≠ sign :: rest :=
    fun sign other rest same =>
      absurd (isDigit_of_mem_writeNat (same ▸ List.mem_cons_self)) (by simp [other])
  rw [readInt64?]
  · rw [readNatural_of_readDigits (unsigned '+' rfl) (readDigits_writeNat n)]
    by_cases fits : n < signedLimit
    · have kept : inInt64 (Int.ofNat n) = true := by
        rw [inInt64, Bool.and_eq_true, decide_eq_true_eq, decide_eq_true_eq]
        exact ⟨(Int.neg_nonpos_of_nonneg (Int.natCast_nonneg _)).trans (Int.natCast_nonneg n),
          Int.ofNat_lt.2 fits⟩
      rw [if_pos fits, if_pos fits, Option.map_some, Option.filter_some, if_pos kept,
        Option.map_some]
      rfl
    · rw [if_neg fits, if_neg fits]
      rfl
  · exact unsigned '-' rfl

/-- Digits alone are read as the float next to their number. -/
theorem Decimal.read_writeNat (n : Nat) :
    read? (Text.writeNat n) = some (ofDecimal n 0) := by
  have all : ∀ c ∈ Text.writeNat n, c.isDigit = true := fun _ => Text.isDigit_of_mem_writeNat
  have read := Text.readDigits_writeNat n
  obtain ⟨c, rest, written⟩ := List.exists_cons_of_ne_nil (Text.writeNat_ne_nil n)
  rw [written] at all read ⊢
  have first : c.isDigit = true := all c List.mem_cons_self
  have apart : ∀ d : Char, d.isDigit = false → c ≠ d := by
    rintro d other rfl
    rw [first] at other
    cases other
  have unsigned : read? (c :: rest) = readUnsigned? (c :: rest) := by
    rw [read?]
    · rintro _ ⟨⟩
      exact apart '-' rfl rfl
    · rintro _ ⟨⟩
      exact apart '+' rfl rfl
  have lower : c.toLower = c := by
    have small : ∀ code < 58, (Char.ofNat code).toLower = Char.ofNat code := by decide
    have code := Text.isDigit_iff.1 first
    have kept := small c.toNat (by omega)
    rwa [Char.ofNat_toNat] at kept
  have word : ∀ letters : List Char, (letters.head?.any Char.isDigit) = false →
      Text.asciiLower (c :: rest) ≠ letters := by
    rintro _ other rfl
    rw [Text.asciiLower, List.map_cons, lower, List.head?_cons, Option.any_some, first] at other
    cases other
  have infinite := not_or.2 ⟨word "inf".toList (by decide), word "infinity".toList (by decide)⟩
  rw [unsigned, readUnsigned?, if_neg infinite, if_neg (word "nan".toList (by decide)),
    readMagnitude?]
  rw [List.takeWhile_eq_self_iff.2 all, List.dropWhile_eq_nil_iff.2 all]
  simp only [List.append_nil, read]
  rfl

namespace Script

theorem lex_writeNat (n : Nat) :
    lex (Text.writeNat n) =
      [if n < Text.signedLimit then .int (Int64.ofNat n) else .float (Decimal.ofDecimal n 0),
        .eof] := by
  have token : digitsToken (Text.writeNat n) =
      if n < Text.signedLimit then .int (Int64.ofNat n) else .float (Decimal.ofDecimal n 0) := by
    rw [digitsToken, Text.readInt64_writeNat]
    by_cases fits : n < Text.signedLimit
    · rw [if_pos fits, if_pos fits]
    · rw [if_neg fits, if_neg fits]
      dsimp only
      rw [floatToken, Decimal.read_writeNat]
  have alone := spells_writeNat n [] rfl
  rw [List.append_nil] at alone
  rw [alone, token]
  rfl

/-! ## Sixteen digits -/

/-- The digits of base sixteen, letters in either case. -/
def hexDigits : List Char :=
  "0123456789abcdefABCDEF".toList

/-- What a digit is worth: its place among the sixteen. -/
def hexDigitValue (c : Char) : Nat :=
  "0123456789abcdef".toList.idxOf c.toLower

/-- **The number that digits stand for in base sixteen**, the last of them for the ones. -/
def hexValue (digits : List Char) : Nat :=
  Nat.ofDigits 16 (digits.reverse.map hexDigitValue)

theorem digitValue_of_mem_hexDigits :
    ∀ c ∈ hexDigits, Text.digitValue? 16 c = some (hexDigitValue c) := by
  have listed : hexDigits.all fun c =>
      Text.digitValue? 16 c == some (hexDigitValue c) := by decide
  intro c member
  exact eq_of_beq (List.all_eq_true.1 listed c member)

variable {digits : List Char} {mark : Char}

theorem isHexDigit_of_mem (hex : ∀ c ∈ digits, c ∈ hexDigits) :
    ∀ c ∈ digits, isHexDigit c = true := by
  intro c member
  rw [isHexDigit, digitValue_of_mem_hexDigits c (hex c member), Option.isSome_some]

/-- Digits spell the number that they stand for. -/
theorem spells_hexValue (some_ : digits ≠ []) (hex : ∀ c ∈ digits, c ∈ hexDigits) :
    Text.Spells 16 digits (hexValue digits) := by
  refine ⟨digits.map hexDigitValue, by simpa using some_, ?_, ?_⟩
  · rw [List.map_map]
    exact List.map_congr_left fun c member => digitValue_of_mem_hexDigits c (hex c member)
  · rw [hexValue, List.map_reverse]

/-- They are read as that number, below the limit. -/
theorem readNatural_hexDigits (some_ : digits ≠ []) (hex : ∀ c ∈ digits, c ∈ hexDigits)
    (limit : Nat) :
    Text.readNatural? 16 limit digits =
      if hexValue digits < limit then some (hexValue digits) else none := by
  have read := Text.readDigits?_eq_some_iff.2 (spells_hexValue some_ hex)
  refine Text.readNatural_of_readDigits (fun rest same => ?_) read limit
  exact absurd (hex '+' (same ▸ List.mem_cons_self)) (by decide)

theorem lex_hex (some_ : digits ≠ []) (hex : ∀ c ∈ digits, c ∈ hexDigits)
    (marked : mark = 'x' ∨ mark = 'X') :
    lex ('0' :: mark :: digits) =
      [.int (if hexValue digits < Text.signedLimit then Int64.ofNat (hexValue digits) else 0),
        .eof] := by
  have within := isHexDigit_of_mem hex
  have whole : digits.takeWhile isHexDigit = digits := List.takeWhile_eq_self_iff.2 within
  have nothing : digits.dropWhile isHexDigit = [] := List.dropWhile_eq_nil_iff.2 within
  have token : hexToken digits =
      .int (if hexValue digits < Text.signedLimit then Int64.ofNat (hexValue digits) else 0) := by
    rw [hexToken, readNatural_hexDigits some_ hex]
    by_cases fits : hexValue digits < Text.signedLimit
    · rw [if_pos fits, if_pos fits]
    · rw [if_neg fits, if_neg fits]
  have first : lexToken '0' (mark :: digits) = (hexToken digits, []) := by
    change lexNumber ('0' :: mark :: digits) = _
    rcases marked with rfl | rfl <;> rw [lexNumber, whole, nothing]
  rw [lex_cons rfl, first, token]
  rfl

/-- **A number in sixteen digits** is one token.  If it fits a word, this is the number itself, as
in ten digits.  If it does not, it is zero, where in ten digits it is a float. -/
theorem hex_literal (some_ : digits ≠ []) (hex : ∀ c ∈ digits, c ∈ hexDigits)
    (marked : mark = 'x' ∨ mark = 'X') :
    (hexValue digits < Text.signedLimit → ∃ n : Int64, n.toInt = hexValue digits ∧
        lex ('0' :: mark :: digits) = [.int n, .eof] ∧
        lex (Text.writeNat (hexValue digits)) = [.int n, .eof]) ∧
      (Text.signedLimit ≤ hexValue digits →
        lex ('0' :: mark :: digits) = [.int 0, .eof] ∧
        lex (Text.writeNat (hexValue digits)) =
          [.float (Decimal.ofDecimal (hexValue digits) 0), .eof]) := by
  rw [lex_hex some_ hex marked, lex_writeNat]
  constructor
  · intro fits
    refine ⟨Int64.ofNat (hexValue digits), Int64.toInt_ofNat_of_lt fits, ?_, ?_⟩
    · rw [if_pos fits]
    · rw [if_pos fits]
  · intro large
    rw [if_neg (Nat.not_lt.2 large), if_neg (Nat.not_lt.2 large)]
    exact ⟨rfl, rfl⟩

/-- The largest number of a word is read in sixteen digits. -/
theorem largest_word_is_read :
    hexValue "7fffFFFFffffFFFF".toList = 9223372036854775807 ∧
      lex "0x7fffFFFFffffFFFF".toList = [.int 9223372036854775807, .eof] := by
  have value : hexValue "7fffFFFFffffFFFF".toList = 9223372036854775807 := by decide
  have some_ : "7fffFFFFffffFFFF".toList ≠ [] := by decide
  have hex : "7fffFFFFffffFFFF".toList ⊆ hexDigits := by decide
  have marked : 'x' = 'x' ∨ 'x' = 'X' := .inl rfl
  obtain ⟨n, is, read, -⟩ := (hex_literal some_ (fun _ => @hex _) marked).1 (by decide)
  have largest : n = 9223372036854775807 := Int64.toInt_inj.1 (is.trans (by rw [value]; rfl))
  rw [largest] at read
  exact ⟨value, read⟩

/-- One more in front, and nothing is left of a number that is a float in ten digits. -/
theorem mask_of_a_word_is_zero :
    hexValue "FFFFFFFFFFFFFFFF".toList = 18446744073709551615 ∧
      lex "0xFFFFFFFFFFFFFFFF".toList = [.int 0, .eof] ∧
      lex "18446744073709551615".toList =
        [.float (Decimal.ofDecimal 18446744073709551615 0), .eof] := by
  have value : hexValue "FFFFFFFFFFFFFFFF".toList = 18446744073709551615 := by decide
  have large : ¬ 18446744073709551615 < Text.signedLimit := by decide
  have some_ : "FFFFFFFFFFFFFFFF".toList ≠ [] := by decide
  have hex : "FFFFFFFFFFFFFFFF".toList ⊆ hexDigits := by decide
  have marked : 'x' = 'x' ∨ 'x' = 'X' := .inl rfl
  have sixteen := lex_hex some_ (fun _ => @hex _) marked
  have ten := lex_writeNat 18446744073709551615
  rw [value, if_neg large] at sixteen
  rw [if_neg large] at ten
  exact ⟨value, sixteen, ten⟩

end Script

end ChatTemplate
