/-
# ChatTemplate.Proofs.ReferenceGrammar -- the grammar of character references

A body refers to a character when it is a name of the table, `#` and decimal digits, or `#x`
and hexadecimal digits (`Denotes`).  The reader of numbers lets a plus sign stand before the
digits, so some more bodies are read (`Signed`), and no others (`resolve?_eq_some_iff`).

`Scanned` is a scan of a text from left to right by any such grammar.  `decode` is the scan by the
wider one.  By the grammar itself it scans exactly the texts in which no reference has a sign: a
reference that is not recognised stays, so the scanned text gets longer
(`decode_length_of_scanned`).

Main statement: `decode_scans_signed_numbers`.
-/
import ChatTemplate.Proofs.References
import Mathlib.Data.Nat.Digits.Lemmas

namespace ChatTemplate

set_option autoImplicit false

/-! ## Digits -/

namespace Text

/-- Digits that spell a number in a base. -/
def Spells (base : Nat) (digits : List Char) (n : Nat) : Prop :=
  ∃ values : List Nat, values ≠ [] ∧ digits.map (digitValue? base) = values.map some ∧
    n = Nat.ofDigits base values.reverse

theorem digitsValue?_eq_some_iff {base high n : Nat} {digits : List Char} :
    digitsValue? base high digits = some n ↔
      ∃ values : List Nat, digits.map (digitValue? base) = values.map some ∧
        n = high * base ^ values.length + Nat.ofDigits base values.reverse := by
  induction digits generalizing high with
  | nil =>
      rw [digitsValue?, Option.some.injEq]
      constructor
      · rintro rfl
        exact ⟨[], rfl, by simp⟩
      · rintro ⟨values, read, rfl⟩
        obtain rfl : values = [] := by simpa using read.symm
        simp
  | cons c digits ih =>
      have longer : ∀ (value : Nat) (values : List Nat),
          high * base ^ (value :: values).length + Nat.ofDigits base (value :: values).reverse =
            (high * base + value) * base ^ values.length + Nat.ofDigits base values.reverse := by
        intro value values
        rw [List.reverse_cons, Nat.ofDigits_append, List.length_reverse, List.length_cons,
          Nat.ofDigits_singleton]
        ring
      rw [digitsValue?]
      cases here : digitValue? base c with
      | none =>
          refine iff_of_false (by simp) ?_
          rintro ⟨values, read, -⟩
          cases values with
          | nil => simp at read
          | cons value values => simp [here] at read
      | some value =>
          dsimp only
          rw [ih]
          constructor
          · rintro ⟨values, read, rfl⟩
            exact ⟨value :: values, by simp [here, read], (longer value values).symm⟩
          · rintro ⟨values, read, rfl⟩
            cases values with
            | nil => simp at read
            | cons value' values =>
                simp only [List.map_cons, here, List.cons.injEq, Option.some.injEq] at read
                obtain ⟨rfl, read⟩ := read
                exact ⟨values, read, longer value values⟩

/-- **Digits are read as the number that they spell.** -/
theorem readDigits?_eq_some_iff {base n : Nat} {digits : List Char} :
    readDigits? base digits = some n ↔ Spells base digits n := by
  rw [readDigits?, Spells]
  cases digits with
  | nil =>
      refine iff_of_false (by simp) ?_
      rintro ⟨values, some_, read, -⟩
      exact some_ (by simpa using read.symm)
  | cons c digits =>
      rw [List.isEmpty_cons, if_neg Bool.false_ne_true, digitsValue?_eq_some_iff]
      refine exists_congr fun values => ?_
      rw [Nat.zero_mul, Nat.zero_add]
      constructor
      · rintro ⟨read, value⟩
        refine ⟨?_, read, value⟩
        rintro rfl
        simp at read
      · rintro ⟨-, read, value⟩
        exact ⟨read, value⟩

theorem Spells.first {base n : Nat} {digits : List Char} (spells : Spells base digits n) :
    ∃ c rest value, digits = c :: rest ∧ digitValue? base c = some value := by
  obtain ⟨values, some_, read, -⟩ := spells
  obtain ⟨value, values, rfl⟩ := List.exists_cons_of_ne_nil some_
  cases digits with
  | nil => simp at read
  | cons c rest => exact ⟨c, rest, value, rfl, (List.cons.inj read).1⟩

/-- **A number is read from its digits, with or without a plus sign before them.** -/
theorem readNatural?_eq_some_iff {base limit n : Nat} {text : List Char}
    (sign : digitValue? base '+' = none) :
    readNatural? base limit text = some n ↔
      (Spells base text n ∨ ∃ digits, text = '+' :: digits ∧ Spells base digits n) ∧
        n < limit := by
  have unsigned : ∀ digits m, ¬ Spells base ('+' :: digits) m := by
    intro digits m spells
    obtain ⟨c, rest, value, same, read⟩ := spells.first
    rw [← (List.cons.inj same).1, sign] at read
    cases read
  unfold readNatural?
  rw [Option.filter_eq_some_iff, decide_eq_true_eq]
  refine and_congr_left fun _ => ?_
  split
  · next digits =>
      rw [readDigits?_eq_some_iff]
      constructor
      · exact fun spells => .inr ⟨digits, rfl, spells⟩
      · rintro (spells | ⟨digits', same, spells⟩)
        · exact absurd spells (unsigned digits n)
        · rwa [(List.cons.inj same).2]
  · next plain =>
      rw [readDigits?_eq_some_iff]
      refine ⟨.inl, ?_⟩
      rintro (spells | ⟨digits, rfl, -⟩)
      · exact spells
      · exact absurd rfl (plain digits)

end Text

namespace CharReference

/-! ## What refers to a character -/

/-- The body of a reference: a name of the table, or the code point of the character in decimal
digits behind `#`, or in hexadecimal digits behind `#x`. -/
inductive Denotes : List Char → Char → Prop
  | name {body : List Char} {c : Char} (listed : names.lookup (String.ofList body) = some c.toNat) :
      Denotes body c
  | decimal {digits : List Char} {c : Char} (spells : Text.Spells 10 digits c.toNat) :
      Denotes ('#' :: digits) c
  | hexadecimal {x : Char} {digits : List Char} {c : Char} (mark : x = 'x' ∨ x = 'X')
      (spells : Text.Spells 16 digits c.toNat) : Denotes ('#' :: x :: digits) c

/-- A body that would refer to a character without the plus sign before its digits. -/
inductive Signed : List Char → Char → Prop
  | decimal {digits : List Char} {c : Char} (spells : Text.Spells 10 digits c.toNat) :
      Signed ('#' :: '+' :: digits) c
  | hexadecimal {x : Char} {digits : List Char} {c : Char} (mark : x = 'x' ∨ x = 'X')
      (spells : Text.Spells 16 digits c.toNat) : Signed ('#' :: x :: '+' :: digits) c

theorem charOf?_eq_some_iff {code : Nat} {c : Char} : charOf? code = some c ↔ code = c.toNat := by
  rw [charOf?]
  constructor
  · intro found
    split at found
    · next valid =>
        cases found
        rw [Char.ofNat, dif_pos valid]
        rfl
    · cases found
  · rintro rfl
    have valid : c.toNat.isValidChar := c.valid
    rw [if_pos valid, Char.ofNat_toNat]

theorem toNat_lt_codeLimit (c : Char) : c.toNat < codeLimit :=
  c.val.toNat_lt

theorem number_eq_some_iff {base : Nat} {digits : List Char} {c : Char}
    (sign : Text.digitValue? base '+' = none) :
    (Text.readNatural? base codeLimit digits).bind charOf? = some c ↔
      Text.Spells base digits c.toNat ∨
        ∃ unsigned, digits = '+' :: unsigned ∧ Text.Spells base unsigned c.toNat := by
  rw [Option.bind_eq_some_iff]
  constructor
  · rintro ⟨code, read, found⟩
    obtain rfl := charOf?_eq_some_iff.1 found
    exact ((Text.readNatural?_eq_some_iff sign).1 read).1
  · intro spelled
    exact ⟨c.toNat, (Text.readNatural?_eq_some_iff sign).2 ⟨spelled, toNat_lt_codeLimit c⟩,
      charOf?_eq_some_iff.2 rfl⟩

/-- No name begins with `#`. -/
theorem hash_of_names :
    (names.all fun entry => entry.1.toList.head? != some '#') = true := by
  decide +kernel

theorem lookup_hash (text : List Char) : names.lookup (String.ofList ('#' :: text)) = none := by
  cases found : names.lookup (String.ofList ('#' :: text)) with
  | none => rfl
  | some code =>
      obtain ⟨before, after, entry, -⟩ := List.lookup_eq_some_iff.1 found
      have listed : (String.ofList ('#' :: text), code) ∈ names := by simp [entry]
      simpa using List.all_eq_true.1 hash_of_names _ listed

theorem not_spells_of_mark {base n : Nat} {x : Char} {digits : List Char}
    (other : Text.digitValue? base x = none) : ¬ Text.Spells base (x :: digits) n := by
  intro spells
  obtain ⟨c, rest, value, same, read⟩ := spells.first
  rw [← (List.cons.inj same).1, other] at read
  cases read

/-- **What is resolved** is what the grammar allows, and numbers with a plus sign. -/
theorem resolve?_eq_some_iff {body : List Char} {c : Char} :
    resolve? body = some c ↔ Denotes body c ∨ Signed body c := by
  have decimalSign : Text.digitValue? 10 '+' = none := by decide
  have decimalMark : ∀ {x : Char}, x = 'x' ∨ x = 'X' → Text.digitValue? 10 x = none := by
    rintro x (rfl | rfl) <;> decide
  have hexadecimalSign : Text.digitValue? 16 '+' = none := by decide
  constructor
  · intro resolved
    rw [resolve?.eq_def] at resolved
    split at resolved
    · next digits =>
        rcases (number_eq_some_iff hexadecimalSign).1 resolved with spells | ⟨_, rfl, spells⟩
        · exact .inl (.hexadecimal (.inl rfl) spells)
        · exact .inr (.hexadecimal (.inl rfl) spells)
    · next digits =>
        rcases (number_eq_some_iff hexadecimalSign).1 resolved with spells | ⟨_, rfl, spells⟩
        · exact .inl (.hexadecimal (.inr rfl) spells)
        · exact .inr (.hexadecimal (.inr rfl) spells)
    · next digits _ _ =>
        rcases (number_eq_some_iff decimalSign).1 resolved with spells | ⟨_, rfl, spells⟩
        · exact .inl (.decimal spells)
        · exact .inr (.decimal spells)
    · obtain ⟨code, listed, found⟩ := Option.bind_eq_some_iff.1 resolved
      rw [charOf?_eq_some_iff.1 found] at listed
      exact .inl (.name listed)
  · rintro (denotes | signed)
    · cases denotes with
      | name listed =>
          rw [resolve?.eq_def]
          split
          · rw [lookup_hash] at listed; cases listed
          · rw [lookup_hash] at listed; cases listed
          · rw [lookup_hash] at listed; cases listed
          · rw [listed]
            exact charOf?_eq_some_iff.2 rfl
      | @decimal digits _ spells =>
          rw [resolve?]
          · exact (number_eq_some_iff decimalSign).2 (.inl spells)
          · rintro digits rfl
            exact not_spells_of_mark (decimalMark (.inl rfl)) spells
          · rintro digits rfl
            exact not_spells_of_mark (decimalMark (.inr rfl)) spells
      | hexadecimal mark spells =>
          rcases mark with rfl | rfl <;> exact (number_eq_some_iff hexadecimalSign).2 (.inl spells)
    · cases signed with
      | decimal spells => exact (number_eq_some_iff decimalSign).2 (.inr ⟨_, rfl, spells⟩)
      | hexadecimal mark spells =>
          rcases mark with rfl | rfl
          · exact (number_eq_some_iff hexadecimalSign).2 (.inr ⟨_, rfl, spells⟩)
          · exact (number_eq_some_iff hexadecimalSign).2 (.inr ⟨_, rfl, spells⟩)

/-- What is resolved has no ampersand and no semicolon. -/
theorem not_mem_of_resolved {body : List Char} {c : Char} (resolved : resolve? body = some c) :
    '&' ∉ body ∧ ';' ∉ body :=
  ⟨fun among => absurd (isBodyChar_of_resolve resolved _ among) (by decide),
    fun among => absurd (isBodyChar_of_resolve resolved _ among) (by decide)⟩

theorem not_signed_of_denotes {body : List Char} {c d : Char} (denotes : Denotes body c) :
    ¬ Signed body d := by
  have decimalSign : ∀ {digits n}, ¬ Text.Spells 10 ('+' :: digits) n :=
    not_spells_of_mark (by decide)
  have hexadecimalSign : ∀ {digits n}, ¬ Text.Spells 16 ('+' :: digits) n :=
    not_spells_of_mark (by decide)
  intro signed
  cases signed with
  | decimal =>
      cases denotes with
      | name listed => rw [lookup_hash] at listed; cases listed
      | decimal spells => exact decimalSign spells
      | hexadecimal mark => rcases mark with mark | mark <;> cases mark
  | hexadecimal mark =>
      cases denotes with
      | name listed => rw [lookup_hash] at listed; cases listed
      | decimal spells =>
          rcases mark with rfl | rfl
          · exact not_spells_of_mark (by decide) spells
          · exact not_spells_of_mark (by decide) spells
      | hexadecimal _ spells => exact hexadecimalSign spells

/-! ## Scanning a text -/

/-- The text after an ampersand goes on with a body, of at most ten characters up to the first
semicolon, that refers to a character. -/
def BeginsReference (refers : List Char → Char → Prop) (text : List Char) : Prop :=
  ∃ body rest c, text = body ++ ';' :: rest ∧ ';' ∉ body ∧ body.length ≤ maxBody ∧ refers body c

/-- A scan of a text from left to right that puts characters in the place of the references to
them and copies everything else. -/
inductive Scanned (refers : List Char → Char → Prop) : List Char → List Char → Prop
  | nil : Scanned refers [] []
  | reference {body text decoded : List Char} {c : Char} (first : ';' ∉ body)
      (short : body.length ≤ maxBody) (here : refers body c)
      (onward : Scanned refers text decoded) :
      Scanned refers ('&' :: (body ++ ';' :: text)) (c :: decoded)
  | copied {c : Char} {text decoded : List Char}
      (none_ : c = '&' → ¬ BeginsReference refers text) (onward : Scanned refers text decoded) :
      Scanned refers (c :: text) (c :: decoded)

/-- The first character of a scanned text begins a reference or is copied. -/
theorem Scanned.first {refers : List Char → Char → Prop} {c : Char} {text decoded : List Char}
    (scanned : Scanned refers (c :: text) decoded) :
    (c = '&' ∧ ∃ body rest d later, text = body ++ ';' :: rest ∧ ';' ∉ body ∧
      body.length ≤ maxBody ∧ refers body d ∧ decoded = d :: later ∧ Scanned refers rest later) ∨
    ((c = '&' → ¬ BeginsReference refers text) ∧
      ∃ later, decoded = c :: later ∧ Scanned refers text later) := by
  generalize whole : c :: text = written at scanned
  cases scanned with
  | nil => cases whole
  | @reference body rest later d first short here onward =>
      obtain ⟨rfl, rfl⟩ := List.cons.inj whole
      exact .inl ⟨rfl, body, rest, d, later, rfl, first, short, here, rfl, onward⟩
  | @copied _ _ later none_ onward =>
      obtain ⟨rfl, rfl⟩ := List.cons.inj whole
      exact .inr ⟨none_, later, rfl, onward⟩

/-- The grammar with a plus sign allowed before the digits of a number. -/
def Recognised (body : List Char) (c : Char) : Prop :=
  Denotes body c ∨ Signed body c

theorem beginsReference_recognised_iff {text : List Char} :
    BeginsReference Recognised text ↔ reference? text ≠ none := by
  rw [Option.ne_none_iff_exists', BeginsReference]
  constructor
  · rintro ⟨body, rest, c, same, -, short, recognised⟩
    exact ⟨_, reference?_eq_some_iff.2
      ⟨body, rest, same, short, resolve?_eq_some_iff.2 recognised, rfl⟩⟩
  · rintro ⟨⟨c, taken⟩, found⟩
    obtain ⟨body, rest, same, short, resolved, -⟩ := reference?_eq_some_iff.1 found
    exact ⟨body, rest, c, same, (not_mem_of_resolved resolved).2, short,
      resolve?_eq_some_iff.1 resolved⟩

theorem scanned_decode (text : List Char) : Scanned Recognised text (decode text) := by
  induction text using decode_induction with
  | nil => exact .nil
  | reference written c text refers ih =>
      rw [decode_reference refers]
      obtain ⟨body, rfl, short, resolved⟩ := refers
      rw [List.cons_append, List.append_assoc]
      exact .reference (not_mem_of_resolved resolved).2 short (resolve?_eq_some_iff.1 resolved) ih
  | kept c text begins ih =>
      rw [decode_kept begins]
      exact .copied (fun ampersand begun => beginsReference_recognised_iff.1 begun
        (begins ampersand)) ih

theorem Scanned.decode_eq {text decoded : List Char} (scanned : Scanned Recognised text decoded) :
    decode text = decoded := by
  induction scanned with
  | nil => rfl
  | @reference body text decoded c first short here onward ih =>
      have refers : Refers ('&' :: (body ++ [';'])) c :=
        ⟨body, rfl, short, resolve?_eq_some_iff.2 here⟩
      have decoded_ := decode_reference refers text
      rw [List.cons_append, List.append_assoc] at decoded_
      exact decoded_.trans (congrArg _ ih)
  | copied none_ onward ih =>
      rw [decode_kept, ih]
      intro ampersand
      exact Classical.not_not.1 (mt beginsReference_recognised_iff.2 (none_ ampersand))

/-! ## Texts without signed references -/

/-- No ampersand of the text begins a reference with a plus sign. -/
def Unsigned (text : List Char) : Prop :=
  ∀ after, '&' :: after <:+ text → ¬ BeginsReference Signed after

theorem unsigned_cons {c : Char} {text : List Char} :
    Unsigned (c :: text) ↔ (c = '&' → ¬ BeginsReference Signed text) ∧ Unsigned text := by
  simp only [Unsigned, List.suffix_cons_iff, or_imp, forall_and, List.cons.injEq, and_imp]
  exact and_congr_left fun _ => ⟨fun all here => all text here.symm rfl,
    fun here after ampersand same => same ▸ here ampersand.symm⟩

theorem unsigned_append {front text : List Char} (absent : '&' ∉ front) :
    Unsigned (front ++ text) ↔ Unsigned text := by
  induction front with
  | nil => rfl
  | cons c front ih =>
      rw [List.mem_cons, not_or] at absent
      rw [List.cons_append, unsigned_cons, ih absent.2]
      exact and_iff_right fun ampersand => absurd ampersand.symm absent.1

/-- Text without an ampersand is copied. -/
theorem Scanned.exists_copied {refers : List Char → Char → Prop} {front text decoded : List Char}
    (absent : '&' ∉ front) (scanned : Scanned refers (front ++ text) decoded) :
    ∃ rest, decoded = front ++ rest ∧ Scanned refers text rest := by
  induction front generalizing decoded with
  | nil => exact ⟨decoded, rfl, scanned⟩
  | cons c front ih =>
      rw [List.mem_cons, not_or] at absent
      rcases Scanned.first scanned with ⟨rfl, -⟩ | ⟨-, later, rfl, onward⟩
      · exact absurd rfl absent.1
      · obtain ⟨rest, rfl, behind⟩ := ih absent.2 onward
        exact ⟨rest, rfl, behind⟩

/-- Two references at one place are one. -/
theorem eq_of_references {body body' rest rest' : List Char} {c c' : Char}
    (same : body ++ ';' :: rest = body' ++ ';' :: rest')
    (short : body.length ≤ maxBody) (short' : body'.length ≤ maxBody)
    (recognised : Recognised body c) (recognised' : Recognised body' c') :
    body = body' ∧ rest = rest' ∧ c = c' := by
  have found := reference?_eq_some_iff.2
    ⟨body, rest, rfl, short, resolve?_eq_some_iff.2 recognised, rfl⟩
  have found' := reference?_eq_some_iff.2
    ⟨body', rest', rfl, short', resolve?_eq_some_iff.2 recognised', rfl⟩
  rw [same, found', Option.some.injEq, Prod.mk.injEq] at found
  obtain ⟨bodies, rests⟩ := List.append_inj same (by omega)
  exact ⟨bodies, (List.cons.inj rests).2, found.1.symm⟩

/-- **A scan by the grammar leaves at least as much text as decoding**, and only as much where no
reference has a sign. -/
theorem decode_length_of_scanned (text decoded : List Char)
    (scanned : Scanned Denotes text decoded) :
    (decode text).length ≤ decoded.length ∧
      (decoded.length = (decode text).length → Unsigned text) := by
  induction text using decode_induction generalizing decoded with
  | nil =>
      cases scanned
      exact ⟨Nat.le_refl _, fun _ after begins => absurd begins (by simp)⟩
  | reference written c text refers ih =>
      have here := decode_reference refers text
      obtain ⟨body, rfl, short, resolved⟩ := refers
      have shape : '&' :: (body ++ [';']) ++ text = '&' :: (body ++ ';' :: text) := by simp
      rw [shape] at here scanned ⊢
      have plain : '&' ∉ body ++ [';'] := by
        simpa using (not_mem_of_resolved resolved).1
      rw [here, List.length_cons]
      rcases scanned.first with
        ⟨-, body', rest, d, later, same, first, short', denotes, rfl, onward⟩ |
        ⟨-, later, rfl, onward⟩
      · obtain ⟨rfl, rfl, rfl⟩ := eq_of_references same short short'
          (resolve?_eq_some_iff.1 resolved) (.inl denotes)
        obtain ⟨longer, unsigned⟩ := ih later onward
        rw [List.length_cons]
        refine ⟨Nat.succ_le_succ longer, fun as_long => unsigned_cons.2 ⟨?_, ?_⟩⟩
        · rintro - ⟨body', rest, d, same, -, short', signed⟩
          obtain ⟨rfl, -⟩ := eq_of_references same short short' (.inl denotes) (.inr signed)
          exact not_signed_of_denotes denotes signed
        · rw [List.append_cons, unsigned_append plain]
          exact unsigned (Nat.succ.inj as_long)
      · -- the text of the reference is copied, and takes more room than its character
        rw [List.append_cons] at onward
        obtain ⟨rest, rfl, behind⟩ := onward.exists_copied plain
        obtain ⟨longer, -⟩ := ih rest behind
        simp only [List.length_cons, List.length_append]
        omega
  | kept c text begins ih =>
      rw [decode_kept begins, List.length_cons]
      have kept : c = '&' → ∀ {body rest d}, text = body ++ ';' :: rest → ';' ∉ body →
          body.length ≤ maxBody → ¬ Recognised body d := fun ampersand _ _ _ same first short here =>
        beginsReference_recognised_iff.1 ⟨_, _, _, same, first, short, here⟩ (begins ampersand)
      rcases scanned.first with ⟨rfl, body, rest, d, -, same, first, short, denotes, -⟩ |
        ⟨-, later, rfl, onward⟩
      · exact absurd (.inl denotes) (kept rfl same first short)
      · obtain ⟨longer, unsigned⟩ := ih later onward
        rw [List.length_cons]
        refine ⟨Nat.succ_le_succ longer, fun as_long => unsigned_cons.2 ⟨?_, ?_⟩⟩
        · rintro ampersand ⟨body, rest, d, same, first, short, signed⟩
          exact kept ampersand same first short (.inr signed)
        · exact unsigned (Nat.succ.inj as_long)

/-- Where no reference has a sign, decoding is the scan by the grammar. -/
theorem scanned_of_unsigned (text : List Char) (unsigned : Unsigned text) :
    Scanned Denotes text (decode text) := by
  induction text using decode_induction with
  | nil => exact .nil
  | reference written c text refers ih =>
      rw [decode_reference refers]
      obtain ⟨body, rfl, short, resolved⟩ := refers
      obtain ⟨plain, first⟩ := not_mem_of_resolved resolved
      rw [List.cons_append, List.append_assoc] at unsigned ⊢
      obtain ⟨here, behind⟩ := unsigned_cons.1 unsigned
      rw [unsigned_append plain] at behind
      rcases resolve?_eq_some_iff.1 resolved with denotes | signed
      · exact .reference first short denotes (ih (unsigned_cons.1 behind).2)
      · exact absurd ⟨body, text, c, rfl, first, short, signed⟩ (here rfl)
  | kept c text begins ih =>
      rw [decode_kept begins]
      refine .copied (fun ampersand begun => ?_) (ih (unsigned_cons.1 unsigned).2)
      obtain ⟨body, rest, d, same, first, short, denotes⟩ := begun
      exact beginsReference_recognised_iff.1 ⟨body, rest, d, same, first, short, .inl denotes⟩
        (begins ampersand)

theorem scanned_denotes_iff {text : List Char} :
    Scanned Denotes text (decode text) ↔ Unsigned text :=
  ⟨fun scanned => (decode_length_of_scanned text _ scanned).2 rfl, scanned_of_unsigned text⟩

/-- **A text is decoded in one scan that puts characters in the place of the references to them**
and copies everything else, where a number may have a plus sign before its digits.  By the
grammar without such signs this is the scan exactly if no reference of the text has one. -/
theorem decode_scans_signed_numbers (text : List Char) :
    (∀ decoded, decode text = decoded ↔ Scanned Recognised text decoded) ∧
      (Scanned Denotes text (decode text) ↔ Unsigned text) := by
  refine ⟨fun decoded => ⟨?_, Scanned.decode_eq⟩, scanned_denotes_iff⟩
  rintro rfl
  exact scanned_decode text

/-- **A number with a plus sign is taken for a reference**, though none of the grammar. -/
theorem signed_number_is_decoded :
    decode "&#+65;".toList = ['A'] ∧
      ¬ Scanned Denotes "&#+65;".toList (decode "&#+65;".toList) := by
  refine ⟨by decide, fun scanned => ?_⟩
  refine scanned_denotes_iff.1 scanned "#+65;".toList List.suffix_rfl ?_
  exact ⟨"#+65".toList, [], 'A', by decide, by decide, by decide,
    .decimal ⟨[6, 5], by decide, by decide, by decide⟩⟩

end CharReference

end ChatTemplate
