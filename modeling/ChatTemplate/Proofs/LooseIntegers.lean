/-
# ChatTemplate.Proofs.LooseIntegers -- the numbers that texts begin with

Two readers take the number at the front of a text and let the rest of it go: `parseInt` of scripts,
and the one for the bounds of random numbers.  They are written apart.  One looks for a sign first
and for digits behind it, the other counts a sign among the characters that a number may begin with
(`leadingDigits_eq_numberHead`).

What there is to read is said without either of them (`BeginsWith`): white space, perhaps a sign,
and as many digits as stand there, whose number fits a signed word.

Main statement: `loose_readers_agree`.
-/
import ChatTemplate.Proofs.IntegerText
import ChatTemplate.Proofs.Lexing
import ChatTemplate.Proofs.ReferenceGrammar
import ChatTemplate.Script.Function

namespace ChatTemplate

set_option autoImplicit false

namespace Text

/-! ## Numbers with a sign -/

/-- The sign of a number, which may be left out. -/
inductive Sign where
  | none
  | plus
  | minus

namespace Sign

def write : Sign → List Char
  | none => []
  | plus => ['+']
  | minus => ['-']

/-- The number of a sign and of digits that spell `k`. -/
def apply : Sign → Nat → Int
  | minus, k => -k
  | _, k => k

end Sign

variable {digits rest text : List Char} {sign : Sign} {k : Nat} {n : Int64}

theorem Spells.isDigit (spells : Spells 10 digits k) : ∀ c ∈ digits, c.isDigit = true := by
  obtain ⟨values, -, read, -⟩ := spells
  intro c member
  have among : digitValue? 10 c ∈ values.map some := read ▸ List.mem_map_of_mem member
  obtain ⟨value, -, same⟩ := List.mem_map.1 among
  exact isDigit_of_digitValue same.symm

/-- Digits are no text with some other character in front. -/
theorem Spells.ne_cons (spells : Spells 10 digits k) {c : Char} (other : c.isDigit = false)
    (rest : List Char) : digits ≠ c :: rest := by
  rintro rfl
  rw [spells.isDigit c List.mem_cons_self] at other
  cases other

theorem Spells.ne_nil (spells : Spells 10 digits k) : digits ≠ [] := by
  obtain ⟨c, rest, value, rfl, -⟩ := spells.first
  exact List.cons_ne_nil c rest

/-- A number is kept if it is a word. -/
theorem word_eq_some_iff {value : Option Int} :
    (value.filter inInt64).map Int64.ofInt = some n ↔ value = some n.toInt := by
  cases value with
  | none => simp
  | some z =>
      rw [Option.filter_some, Option.some_inj]
      constructor
      · intro read
        split at read
        · next range =>
            rw [inInt64, Bool.and_eq_true, decide_eq_true_eq, decide_eq_true_eq] at range
            rw [← Option.some.inj read, Int64.toInt_ofInt_of_le range.1 range.2]
        · cases read
      · rintro rfl
        rw [if_pos (inInt64_toInt n), Option.map_some, Int64.ofInt_toInt]

/-- **A signed number is read** from a sign and digits. -/
theorem readInt64?_eq_some_iff :
    readInt64? text = some n ↔
      ∃ (sign : Sign) (digits : List Char) (k : Nat),
        text = sign.write ++ digits ∧ Spells 10 digits k ∧ n.toInt = sign.apply k := by
  unfold readInt64?
  rw [word_eq_some_iff]
  split
  · next after =>
      have negative : ((readDigits? 10 after).map fun k => -(k : Int)) = some n.toInt ↔
          ∃ k, Spells 10 after k ∧ n.toInt = -(k : Int) := by
        simp only [← readDigits?_eq_some_iff]
        cases readDigits? 10 after <;> simp [eq_comm]
      rw [negative]
      constructor
      · rintro ⟨k, spells, value⟩
        exact ⟨.minus, after, k, rfl, spells, value⟩
      · rintro ⟨sign, digits, k, whole, spells, value⟩
        cases sign with
        | none => exact absurd whole.symm (spells.ne_cons rfl after)
        | plus => exact absurd (List.cons.inj whole).1 (by decide)
        | minus =>
            obtain rfl : after = digits := (List.cons.inj whole).2
            exact ⟨k, spells, value⟩
  · next unsigned =>
      rw [Option.map_eq_some_iff]
      constructor
      · rintro ⟨k, read, value⟩
        obtain ⟨spells | ⟨digits, rfl, spells⟩, -⟩ := (readNatural?_eq_some_iff rfl).1 read
        · exact ⟨.none, text, k, rfl, spells, value.symm⟩
        · exact ⟨.plus, digits, k, rfl, spells, value.symm⟩
      · rintro ⟨sign, digits, k, rfl, spells, value⟩
        have small : n.toInt = k → k < signedLimit := by
          intro same
          have high := n.toInt_lt
          rw [signedLimit]
          omega
        cases sign with
        | none =>
            exact ⟨k, (readNatural?_eq_some_iff rfl).2 ⟨.inl spells, small value⟩, value.symm⟩
        | plus =>
            exact ⟨k, (readNatural?_eq_some_iff rfl).2 ⟨.inr ⟨digits, rfl, spells⟩, small value⟩,
              value.symm⟩
        | minus => exact absurd rfl (unsigned digits)

/-! ## The number at the front -/

/-- **A text begins with a number**: behind white space there is perhaps a sign, and then there are
digits up to another character or the end. -/
def BeginsWith (text : List Char) (n : Int64) : Prop :=
  ∃ (blanks : List Char) (sign : Sign) (digits rest : List Char) (k : Nat),
    text = blanks ++ (sign.write ++ digits ++ rest) ∧ (∀ c ∈ blanks, isBlank c = true) ∧
      Spells 10 digits k ∧ rest.head?.any Char.isDigit = false ∧ n.toInt = sign.apply k

theorem takeWhile_isDigit_trimEnd (text : List Char) :
    (trimEnd text).takeWhile Char.isDigit = text.takeWhile Char.isDigit := by
  induction text with
  | nil => rfl
  | cons c text ih =>
      rw [trimEnd_cons]
      cases digit : c.isDigit with
      | true =>
          rw [if_neg (by simp [isBlank_of_isDigit digit]), List.takeWhile_cons_of_pos digit,
            List.takeWhile_cons_of_pos digit, ih]
      | false =>
          rw [List.takeWhile_cons_of_neg (by simp [digit])]
          split
          · rfl
          · rw [List.takeWhile_cons_of_neg (by simp [digit])]

/-- White space at the end of a text is no part of the number at its front. -/
theorem numberHead_trimEnd (text : List Char) : numberHead (trimEnd text) = numberHead text := by
  cases text with
  | nil => rfl
  | cons c text =>
      rw [trimEnd_cons]
      split
      · next nothing =>
          have other : (c.isDigit || c == '-' || c == '+') = false := by
            rw [← Bool.not_eq_true]
            intro begins
            have shown : isBlank c = false := by
              simp only [Bool.or_eq_true, beq_iff_eq] at begins
              rcases begins with (digit | rfl) | rfl
              · exact isBlank_of_isDigit digit
              · decide
              · decide
            rw [nothing.2] at shown
            cases shown
          rw [numberHead, numberHead, other, if_neg Bool.false_ne_true]
      · rw [numberHead, numberHead, takeWhile_isDigit_trimEnd]

/-- No digit follows what can be a number at the front of a text. -/
theorem exists_numberHead (text : List Char) :
    ∃ rest, text = numberHead text ++ rest ∧
      (numberHead text ≠ [] → rest.head?.any Char.isDigit = false) := by
  cases text with
  | nil => exact ⟨[], rfl, fun _ => rfl⟩
  | cons c text =>
      rw [numberHead]
      split
      · refine ⟨text.dropWhile Char.isDigit, ?_, fun _ => ?_⟩
        · rw [List.cons_append, List.takeWhile_append_dropWhile]
        · have stopped := List.head?_dropWhile_not Char.isDigit text
          cases first : (text.dropWhile Char.isDigit).head? with
          | none => rfl
          | some d => rw [first] at stopped; simpa using stopped
      · exact ⟨c :: text, rfl, fun some_ => absurd rfl some_⟩

/-- A sign and digits are all that can be a number. -/
theorem numberHead_signed (spells : Spells 10 digits k)
    (ends : rest.head?.any Char.isDigit = false) :
    numberHead (sign.write ++ digits ++ rest) = sign.write ++ digits := by
  have all := spells.isDigit
  have taken := Script.takeWhile_stops all ends
  cases sign with
  | plus => exact congrArg ('+' :: ·) taken
  | minus => exact congrArg ('-' :: ·) taken
  | none =>
      obtain ⟨c, digits, rfl⟩ := List.exists_cons_of_ne_nil spells.ne_nil
      obtain ⟨here, later⟩ := List.forall_mem_cons.1 all
      have first : (c.isDigit || c == '-' || c == '+') = true := by
        rw [here, Bool.true_or, Bool.true_or]
      change numberHead (c :: (digits ++ rest)) = c :: digits
      rw [numberHead, first, if_pos rfl, Script.takeWhile_stops later ends]

/-- A sign and digits are where a text without white space at the front begins. -/
theorem trimStart_signed {blanks : List Char} (blank : ∀ c ∈ blanks, isBlank c = true)
    (spells : Spells 10 digits k) :
    trimStart (blanks ++ (sign.write ++ digits ++ rest)) = sign.write ++ digits ++ rest := by
  have shown : (sign.write ++ digits ++ rest).head?.any isBlank = false := by
    cases sign with
    | plus => rfl
    | minus => rfl
    | none =>
        obtain ⟨c, digits, rfl⟩ := List.exists_cons_of_ne_nil spells.ne_nil
        exact isBlank_of_isDigit (spells.isDigit c List.mem_cons_self)
  exact Script.dropWhile_stops blank shown

/-- **The loose reader reads the number that a text begins with.** -/
theorem leadingInt64?_eq_some_iff : leadingInt64? text = some n ↔ BeginsWith text n := by
  rw [leadingInt64?, trim, numberHead_trimEnd, readInt64?_eq_some_iff]
  constructor
  · rintro ⟨sign, digits, k, head, spells, value⟩
    obtain ⟨rest, whole, ends⟩ := exists_numberHead (trimStart text)
    have some_ : numberHead (trimStart text) ≠ [] := by
      rw [head]
      exact List.append_ne_nil_of_right_ne_nil _ spells.ne_nil
    refine ⟨text.takeWhile isBlank, sign, digits, rest, k, ?_, fun _ => List.mem_takeWhile_imp,
      spells, ends some_, value⟩
    rw [← head, ← whole, trimStart, List.takeWhile_append_dropWhile]
  · rintro ⟨blanks, sign, digits, rest, k, rfl, blank, spells, ends, value⟩
    rw [trimStart_signed blank spells, numberHead_signed spells ends]
    exact ⟨sign, digits, k, rfl, spells, value⟩

example : leadingInt64? " +12abc ".toList = some 12 := by decide

end Text

/-! ## The two readers -/

namespace Script

/-- A sign and the digits behind it, or digits alone: either way what can be a number. -/
theorem leadingDigits_eq_numberHead (text : List Char) :
    leadingDigits text = Text.numberHead text := by
  unfold leadingDigits
  split
  · rfl
  · rfl
  · next minus plus =>
      cases text with
      | nil => rfl
      | cons c text =>
          have unsigned : (c == '-') = false ∧ (c == '+') = false := by
            refine ⟨beq_eq_false_iff_ne.2 ?_, beq_eq_false_iff_ne.2 ?_⟩
            · rintro rfl
              exact minus text rfl
            · rintro rfl
              exact plus text rfl
          rw [Text.numberHead, unsigned.1, unsigned.2, Bool.or_false, Bool.or_false,
            List.takeWhile_cons]

theorem parseInt_str (s : String) :
    parseInt (.str s) =
      match Text.leadingInt64? s.toList with
      | some n => .int n
      | none => .float Value.notANumber := by
  rw [parseInt, leadingDigits_eq_numberHead]
  rfl

/-- **The two loose readers agree** on every text: both read the number that it begins with, or
there is none, and then `parseInt` gives what is no number. -/
theorem loose_readers_agree (s : String) (dice : Dice) :
    (∀ n, callFunction? "parseInt" [.str s] dice = some (.ok (.int n), dice) ↔
        Text.leadingInt64? s.toList = some n) ∧
      ((∃ x, callFunction? "parseInt" [.str s] dice = some (.ok (.float x), dice) ∧
          x.isNaN = true) ↔
        Text.leadingInt64? s.toList = none) ∧
      ∀ n, Text.leadingInt64? s.toList = some n ↔ Text.BeginsWith s.toList n := by
  have called : callFunction? "parseInt" [.str s] dice = some (.ok (parseInt (.str s)), dice) := rfl
  have failed : Value.notANumber.isNaN = true := by decide +kernel
  rw [called, parseInt_str]
  refine ⟨fun n => ?_, ?_, fun n => Text.leadingInt64?_eq_some_iff⟩
  · cases Text.leadingInt64? s.toList <;> simp
  · cases Text.leadingInt64? s.toList with
    | none => exact iff_of_true ⟨Value.notANumber, rfl, failed⟩ rfl
    | some n => exact iff_of_false (fun ⟨x, same, _⟩ => nomatch same) (Option.some_ne_none n)

end Script

end ChatTemplate
