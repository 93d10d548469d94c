/-
# ChatTemplate.Proofs.IntegerText -- whole numbers, written and read

A whole number is written with the digits that the language itself writes, and the readers give
back what was written: `Text.readInt64_writeInt` the one that takes a whole text,
`Text.leadingInt64_writeInt` the loose one.
-/
import ChatTemplate.Proofs.Substitution

namespace ChatTemplate.Text

set_option autoImplicit false

/-! ## What is written -/

theorem writeNat_ne_nil (n : Nat) : writeNat n ≠ [] :=
  Nat.toDigits_ne_nil

theorem writeInt_ne_nil (n : Int) : writeInt n ≠ [] := by
  rw [writeInt]
  split
  · exact List.cons_ne_nil _ _
  · exact writeNat_ne_nil _

theorem sign_or_isDigit_of_mem_writeInt {c : Char} {n : Int} (member : c ∈ writeInt n) :
    c = '-' ∨ c.isDigit = true := by
  rw [writeInt] at member
  split at member
  · exact (List.mem_cons.1 member).imp_right isDigit_of_mem_writeNat
  · exact .inr (isDigit_of_mem_writeNat member)

/-- Characters that are no digit and no minus sign do not stand in a number. -/
theorem not_mem_writeInt {c : Char} (other : c ≠ '-' ∧ c.isDigit = false) (n : Int) :
    c ∉ writeInt n := fun member => by
  rcases sign_or_isDigit_of_mem_writeInt member with rfl | digit
  · exact other.1 rfl
  · simp [other.2] at digit

theorem writeNat_eq_repr (n : Nat) : writeNat n = n.repr.toList :=
  Nat.toList_repr.symm

/-- **A number is written as the language writes it.** -/
theorem writeInt_eq_toString (n : Int) : writeInt n = (toString n).toList := by
  rw [Int.toString_eq_repr]
  cases n with
  | ofNat k => exact writeNat_eq_repr k
  | negSucc k =>
      rw [writeInt, if_pos (Int.negSucc_lt_zero k), Int.natAbs_negSucc, writeNat_eq_repr,
        Int.repr, String.toList_append]
      rfl

/-! ## What is read -/

theorem isBlank_of_mem_writeInt {c : Char} {n : Int} (member : c ∈ writeInt n) :
    isBlank c = false := by
  rcases sign_or_isDigit_of_mem_writeInt member with rfl | digit
  · decide
  · exact isBlank_of_isDigit digit

theorem digitValue_of_isDigit {c : Char} (digit : c.isDigit = true) :
    digitValue? 10 c = some (c.toNat - '0'.toNat) := by
  have small : c.toNat - '0'.toNat < 10 := by
    have code := isDigit_iff.1 digit
    have zero : '0'.toNat = 48 := rfl
    omega
  simp only [digitValue?, digit, if_true, small]

theorem isDigit_of_digitValue {c : Char} {value : Nat} (read : digitValue? 10 c = some value) :
    c.isDigit = true := by
  cases digit : c.isDigit with
  | true => rfl
  | false =>
      have large : digitValue? 10 c = none := by
        simp only [digitValue?, digit, Bool.false_eq_true, if_false]
        split
        · rw [if_neg (by omega)]
        · split <;> rw [if_neg (by omega)]
      rw [large] at read
      cases read

/-- **The value of digits** is the one that the language reads from them. -/
theorem digitsValue_of_isDigit {digits : List Char} (all : ∀ c ∈ digits, c.isDigit = true)
    (high : Nat) : digitsValue? 10 high digits = some (Nat.ofDigitChars 10 digits high) := by
  induction digits generalizing high with
  | nil => rfl
  | cons c digits ih =>
      obtain ⟨here, later⟩ := List.forall_mem_cons.1 all
      rw [digitsValue?, digitValue_of_isDigit here]
      refine (ih later _).trans ?_
      rw [Nat.ofDigitChars, Nat.ofDigitChars, List.foldl_cons, Nat.mul_comm]

theorem readDigits_writeNat (n : Nat) : readDigits? 10 (writeNat n) = some n := by
  rw [readDigits?, List.isEmpty_eq_false_iff.2 (writeNat_ne_nil n), if_neg Bool.false_ne_true,
    digitsValue_of_isDigit fun _ => isDigit_of_mem_writeNat]
  exact congrArg some Nat.ofDigitChars_ten_toDigits

theorem readNatural_writeNat {n limit : Nat} (below : n < limit) :
    readNatural? 10 limit (writeNat n) = some n := by
  have unsigned : ∀ rest, writeNat n ≠ '+' :: rest := fun rest same =>
    absurd (isDigit_of_mem_writeNat (same ▸ List.mem_cons_self)) (by decide)
  rw [readNatural?, readDigits_writeNat]
  · simp [below]
  · exact unsigned

theorem inInt64_toInt (n : Int64) : inInt64 n.toInt = true := by
  have low := n.le_toInt
  have high := n.toInt_lt
  have limit : (signedLimit : Int) = 2 ^ 63 := rfl
  rw [inInt64, limit, Bool.and_eq_true, decide_eq_true_eq, decide_eq_true_eq]
  exact ⟨low, high⟩

/-- **A signed number is read as it was written.** -/
theorem readInt64_writeInt (n : Int64) : readInt64? (writeInt n.toInt) = some n := by
  have kept : ((some n.toInt).filter inInt64).map Int64.ofInt = some n := by
    rw [Option.filter_some, inInt64_toInt]
    simp
  rw [writeInt]
  split
  · next negative =>
      have value : (readDigits? 10 (writeNat n.toInt.natAbs)).map (fun n => -(n : Int)) =
          some n.toInt := by
        rw [readDigits_writeNat]
        exact congrArg some (show -((n.toInt.natAbs : Nat) : Int) = n.toInt by omega)
      rw [readInt64?, value, kept]
  · next natural =>
      have unsigned : ∀ rest, writeNat n.toInt.natAbs ≠ '-' :: rest := fun rest same =>
        absurd (isDigit_of_mem_writeNat (same ▸ List.mem_cons_self)) (by decide)
      have below : n.toInt.natAbs < signedLimit := by
        have high := n.toInt_lt
        rw [signedLimit]
        omega
      have value : (readNatural? 10 signedLimit (writeNat n.toInt.natAbs)).map Int.ofNat =
          some n.toInt := by
        rw [readNatural_writeNat below]
        exact congrArg some (show ((n.toInt.natAbs : Nat) : Int) = n.toInt by omega)
      rw [readInt64?, value, kept]
      exact unsigned

theorem trim_writeInt (n : Int) : trim (writeInt n) = writeInt n := by
  have some_ := writeInt_ne_nil n
  exact trim_eq_self (List.head?_eq_some_head some_) (isBlank_of_mem_writeInt (List.head_mem some_))
    (List.getLast?_eq_some_getLast some_) (isBlank_of_mem_writeInt (List.getLast_mem some_))

/-- After a first character that may begin a number, digits belong to it. -/
theorem numberHead_cons {c : Char} {digits : List Char}
    (begins : c = '-' ∨ c.isDigit = true) (all : ∀ c ∈ digits, c.isDigit = true) :
    numberHead (c :: digits) = c :: digits := by
  have first : (c.isDigit || c == '-' || c == '+') = true := by
    rcases begins with rfl | digit
    · rfl
    · rw [digit, Bool.true_or, Bool.true_or]
  rw [numberHead, first, if_pos rfl, List.takeWhile_eq_self_iff.2 all]

theorem numberHead_writeInt (n : Int) : numberHead (writeInt n) = writeInt n := by
  have all : ∀ c ∈ writeNat n.natAbs, c.isDigit = true := fun _ => isDigit_of_mem_writeNat
  rw [writeInt]
  split
  · exact numberHead_cons (.inl rfl) all
  · obtain ⟨c, digits, split⟩ := List.exists_cons_of_ne_nil (writeNat_ne_nil n.natAbs)
    rw [split] at all ⊢
    obtain ⟨here, later⟩ := List.forall_mem_cons.1 all
    exact numberHead_cons (.inr here) later

/-- **The loose reader, too, reads a number as it was written.** -/
theorem leadingInt64_writeInt (n : Int64) : leadingInt64? (writeInt n.toInt) = some n := by
  rw [leadingInt64?, trim_writeInt, numberHead_writeInt, readInt64_writeInt]

end ChatTemplate.Text
