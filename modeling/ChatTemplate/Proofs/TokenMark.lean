/-
# ChatTemplate.Proofs.TokenMark -- texts that begin no command and no reference

Every inline command begins with `(!`, every character reference with `&`.  None
of these marks comes into a text that lacks it by cutting, replacing, trimming or
changing the case (`not_mem_replaceFirst`, `not_mem_splitOn`, `not_mem_upper`,
`not_mem_lower`).  Numbers are written without them (`not_mem_formatNumber`), and
so is what a document adds to its texts (`not_mem_write`).
-/
import ChatTemplate.Proofs.Occurrence
import ChatTemplate.Script.Value
import ChatTemplate.Table
import ChatTemplate.Text.Case

namespace ChatTemplate

set_option autoImplicit false

variable {c : Char}

/-- **The marks of tokens**: an inline command begins with `(!`, and a character
reference with an ampersand. -/
def IsMark (c : Char) : Prop :=
  c = '(' ∨ c = '!' ∨ c = '&'

instance (c : Char) : Decidable (IsMark c) :=
  inferInstanceAs (Decidable (_ ∨ _))

/-- A text has none of the marks. -/
def Markless (text : List Char) : Prop :=
  '(' ∉ text ∧ '!' ∉ text ∧ '&' ∉ text

instance (text : List Char) : Decidable (Markless text) :=
  inferInstanceAs (Decidable (_ ∧ _))

theorem IsMark.not_mem (mark : IsMark c) {text : List Char} (markless : Markless text) :
    c ∉ text := by
  rcases mark with rfl | rfl | rfl
  · exact markless.1
  · exact markless.2.1
  · exact markless.2.2

namespace Text

/-! ## Cutting and replacing -/

theorem not_mem_replaceFirst {pat value text : List Char} (inValue : c ∉ value)
    (inText : c ∉ text) : c ∉ replaceFirst pat value text := by
  rw [replaceFirst]
  split
  · next before after found =>
      rw [eq_append_of_breakOn found] at inText
      simp only [List.mem_append, not_or] at inText ⊢
      exact ⟨⟨inText.1.1, inValue⟩, inText.2⟩
  · exact inText

theorem not_mem_splitOn_go {sep text : List Char} (inText : c ∉ text) (covered : Nat) :
    ∀ piece ∈ splitOn.go sep covered text, c ∉ piece := by
  induction text generalizing covered with
  | nil => simp [splitOn.go]
  | cons d text ih =>
      rw [List.mem_cons, not_or] at inText
      obtain ⟨apart, later⟩ := inText
      cases covered with
      | succ covered => exact ih later covered
      | zero =>
          rw [splitOn.go]
          split
          · exact List.forall_mem_cons.2 ⟨List.not_mem_nil, ih later _⟩
          · have pieces := ih later 0
            split
            · simpa using apart
            · next piece others split =>
                rw [split] at pieces
                obtain ⟨here, rest⟩ := List.forall_mem_cons.1 pieces
                refine List.forall_mem_cons.2 ⟨?_, rest⟩
                rw [List.mem_cons, not_or]
                exact ⟨apart, here⟩

theorem not_mem_splitOn {sep text : List Char} (inText : c ∉ text) :
    ∀ piece ∈ splitOn sep text, c ∉ piece :=
  not_mem_splitOn_go inText 0

theorem not_mem_join {sep : List Char} {pieces : List (List Char)} (inSep : c ∉ sep)
    (inPieces : ∀ piece ∈ pieces, c ∉ piece) : c ∉ join sep pieces := by
  induction pieces with
  | nil => exact List.not_mem_nil
  | cons piece pieces ih =>
      obtain ⟨here, later⟩ := List.forall_mem_cons.1 inPieces
      cases pieces with
      | nil => simpa [join] using here
      | cons other pieces =>
          have rest := ih later
          rw [join] at rest ⊢
          rw [List.intercalate_cons_cons]
          simp only [List.mem_append, not_or]
          exact ⟨⟨here, inSep⟩, rest⟩

theorem not_mem_replaceAll {pat value text : List Char} (inValue : c ∉ value)
    (inText : c ∉ text) : c ∉ replaceAll pat value text :=
  not_mem_join inValue (not_mem_splitOn inText)

theorem not_mem_trim {text : List Char} (inText : c ∉ text) : c ∉ trim text :=
  fun member => inText (mem_of_mem_trim member)

end Text

/-! ## Case -/

/-- The marks come before the letters. -/
theorem IsMark.ne_ofNat (mark : IsMark c) {code : Nat} (large : 0x28 < code) :
    c ≠ Char.ofNat code := by
  have bounds : 0 < c.toNat ∧ c.toNat ≤ 0x28 := by rcases mark with rfl | rfl | rfl <;> decide
  have code_or_zero : (Char.ofNat code).toNat = code ∨ (Char.ofNat code).toNat = 0 := by
    rw [Char.ofNat]
    by_cases valid : code.isValidChar
    · rw [dif_pos valid]
      exact .inl rfl
    · rw [dif_neg valid]
      exact .inr rfl
  rintro rfl
  omega

namespace Text

/-- Letters have letters for their other forms. -/
theorem not_mem_caseForm (mark : IsMark c) {runs : List CaseRun}
    {sequences : List (Nat × List Nat)} {d : Char} (apart : c ≠ d)
    (inRuns : ∀ run ∈ runs, 0x28 < run.first + run.offset)
    (inSequences : ∀ sequence ∈ sequences, ∀ code ∈ sequence.2, 0x28 < code) :
    c ∉ caseForm runs sequences d := by
  rw [caseForm]
  split
  · next codes listed =>
      obtain ⟨before, after, shape, -⟩ := List.lookup_eq_some_iff.1 listed
      rw [List.mem_map]
      rintro ⟨code, member, same⟩
      have pair : (d.toNat, codes) ∈ sequences := by
        rw [shape]
        exact List.mem_append_right _ List.mem_cons_self
      exact mark.ne_ofNat (inSequences _ pair code member) same.symm
  · split
    · next run found =>
        have large := inRuns run (List.mem_of_find?_eq_some found)
        have within := List.find?_some found
        simp only [CaseRun.contains, Bool.and_eq_true, decide_eq_true_eq] at within
        rw [List.mem_singleton]
        exact mark.ne_ofNat (by omega)
    · simpa using apart

/-- The ASCII letters change into letters. -/
theorem isMark_of_ascii {d : Char} (ascii : d.toNat < 0x80)
    (changed : IsMark d.toUpper ∨ IsMark d.toLower) :
    d.toUpper = d ∧ d.toLower = d := by
  have all : ∀ n < 0x80, IsMark (Char.ofNat n).toUpper ∨ IsMark (Char.ofNat n).toLower →
      (Char.ofNat n).toUpper = Char.ofNat n ∧ (Char.ofNat n).toLower = Char.ofNat n := by
    decide
  simpa only [Char.ofNat_toNat] using all d.toNat ascii (by simpa only [Char.ofNat_toNat] using changed)

theorem not_mem_upperChar (mark : IsMark c) {d : Char} (apart : c ≠ d) :
    c ∉ upperChar d := by
  rw [upperChar]
  split
  · next ascii =>
      rw [List.mem_singleton]
      intro same
      have changed : IsMark d.toUpper := same ▸ mark
      exact apart (same.trans (isMark_of_ascii ascii (.inl changed)).1)
  · exact not_mem_caseForm mark apart (by decide +kernel) (by decide +kernel)

theorem not_mem_lowerChar (mark : IsMark c) {d : Char} (apart : c ≠ d) :
    c ∉ lowerChar d := by
  rw [lowerChar]
  split
  · next ascii =>
      rw [List.mem_singleton]
      intro same
      have changed : IsMark d.toLower := same ▸ mark
      exact apart (same.trans (isMark_of_ascii ascii (.inr changed)).2)
  · exact not_mem_caseForm mark apart (by decide +kernel) (by decide +kernel)

theorem not_mem_upper (mark : IsMark c) {text : List Char} (inText : c ∉ text) :
    c ∉ upper text := by
  rw [upper, List.mem_flatMap]
  rintro ⟨d, member, found⟩
  refine not_mem_upperChar mark ?_ found
  rintro rfl
  exact inText member

theorem not_mem_lower (mark : IsMark c) {text : List Char} (inText : c ∉ text) :
    c ∉ lower text := by
  rw [lower]
  generalize [] = before
  induction text generalizing before with
  | nil => exact List.not_mem_nil
  | cons d text ih =>
      rw [List.mem_cons, not_or] at inText
      obtain ⟨apart, later⟩ := inText
      rw [lower.go, List.mem_append, not_or]
      refine ⟨?_, ih later _⟩
      split
      · split <;> exact mark.not_mem (by decide)
      · exact not_mem_lowerChar mark apart

end Text

/-! ## Numbers -/

/-- The characters of numbers: digits, those of other bases among them, signs, a point, and
the letters of the words for what is no number. -/
def numberChars : List Char :=
  "0123456789abcdef+-.NaNInfinitynull".toList

/-- No number is written with a character. -/
def Unspelled (c : Char) : Prop :=
  c ∉ numberChars

instance (c : Char) : Decidable (Unspelled c) :=
  inferInstanceAs (Decidable (c ∉ numberChars))

theorem Unspelled.not_mem (unspelled : Unspelled c) {text : List Char}
    (spelled : text.all numberChars.contains = true) : c ∉ text := by
  intro member
  exact unspelled (List.contains_iff_mem.1 (List.all_eq_true.1 spelled c member))

theorem IsMark.unspelled (mark : IsMark c) : Unspelled c := by
  rcases mark with rfl | rfl | rfl <;> decide

/-- The digits of a number are those of its base. -/
theorem exists_digit_of_mem_toDigits {base : Nat} (several : 1 < base) (n : Nat) :
    ∀ d ∈ Nat.toDigits base n, ∃ k < base, d = Nat.digitChar k := by
  induction n using Nat.strongRecOn with
  | ind n ih =>
      rw [Nat.toDigits_eq_if several]
      split
      · next small => exact List.forall_mem_singleton.2 ⟨n, small, rfl⟩
      · next large =>
          have last : n % base < base := Nat.mod_lt _ (by omega)
          exact List.forall_mem_append.2 ⟨ih _ (Nat.div_lt_self (by omega) several),
            List.forall_mem_singleton.2 ⟨_, last, rfl⟩⟩

theorem not_mem_toDigits (unspelled : Unspelled c) {base : Nat} (several : 1 < base)
    (within : base ≤ 16) (n : Nat) : c ∉ Nat.toDigits base n := by
  have spelled : ∀ k < 16, Nat.digitChar k ∈ numberChars := by decide
  intro member
  obtain ⟨k, small, rfl⟩ := exists_digit_of_mem_toDigits several n c member
  exact unspelled (spelled k (by omega))

theorem not_mem_writeNat (unspelled : Unspelled c) (n : Nat) : c ∉ Text.writeNat n :=
  not_mem_toDigits unspelled (by decide) (by decide) n

theorem not_mem_writeInt (unspelled : Unspelled c) (n : Int) : c ∉ Text.writeInt n := by
  rw [Text.writeInt]
  split
  · rw [List.mem_cons, not_or]
    exact ⟨unspelled.not_mem (by decide) ∘ List.mem_singleton.2, not_mem_writeNat unspelled _⟩
  · exact not_mem_writeNat unspelled _

theorem not_mem_int64Text (unspelled : Unspelled c) (n : Int64) : c ∉ (Text.int64Text n).toList := by
  rw [Text.int64Text, String.toList_ofList]
  exact not_mem_writeInt unspelled _

theorem not_mem_uint64Text (unspelled : Unspelled c) (n : UInt64) :
    c ∉ (Text.uint64Text n).toList := by
  rw [Text.uint64Text, String.toList_ofList]
  exact not_mem_writeNat unspelled _

namespace Decimal

theorem not_mem_positionalText (unspelled : Unspelled c) {digits : List Char} (inDigits : c ∉ digits)
    (fraction : Bool) (p : Int) : c ∉ positionalText fraction digits p := by
  have zero : c ∉ ['0'] := unspelled.not_mem (by decide)
  have point : c ∉ ['.'] := unspelled.not_mem (by decide)
  have zeros : ∀ n, c ∉ List.replicate n '0' := fun n member =>
    zero (by simpa using List.eq_of_mem_replicate member)
  have start : ∀ n, c ∉ digits.take n := fun n member => inDigits (List.mem_of_mem_take member)
  have rest : ∀ n, c ∉ digits.drop n := fun n member => inDigits (List.mem_of_mem_drop member)
  rw [List.mem_singleton] at zero point
  rw [positionalText]
  split
  · cases fraction <;> simp [inDigits, zeros, zero, point]
  · dsimp only
    split <;> simp [start, rest, zeros, zero, point, inDigits]

theorem not_mem_scientificText (unspelled : Unspelled c) {digits : List Char}
    (inDigits : c ∉ digits) (plus : Bool) (exponent : Int) :
    c ∉ scientificText plus digits exponent := by
  have marks : c ∉ ['.', 'e', '+'] := unspelled.not_mem (by decide)
  have start : c ∉ digits.take 1 := fun member => inDigits (List.mem_of_mem_take member)
  have rest : c ∉ digits.tail := fun member => inDigits (List.mem_of_mem_tail member)
  have written := not_mem_writeInt unspelled exponent
  simp only [List.mem_cons, List.not_mem_nil, or_false, not_or] at marks
  rw [scientificText]
  split <;> split <;> simp [start, rest, written, marks]

theorem not_mem_positive (unspelled : Unspelled c) (layout : Layout) (mantissa : Nat)
    (exponent : Int) : c ∉ layout.positive mantissa exponent := by
  have written : ∀ n, c ∉ Text.writeNat n := not_mem_writeNat unspelled
  rw [Layout.positive]
  dsimp only
  split
  · split
    · exact not_mem_positionalText unspelled (written _) _ _
    · exact not_mem_scientificText unspelled (written _) _ _
  · exact not_mem_positionalText unspelled (written _) _ _

theorem not_mem_write (unspelled : Unspelled c) {layout : Layout} (inNan : c ∉ layout.nan.toList)
    (inInfinity : c ∉ layout.infinity.toList) (x : Float) : c ∉ (layout.write x).toList := by
  have sign : ∀ negative : Bool, c ∉ (if negative then ['-'] else []) := by
    intro negative
    cases negative <;> exact unspelled.not_mem (by decide)
  rw [Layout.write]
  dsimp only
  split
  · exact inNan
  · rw [String.toList_ofList, List.mem_append, not_or]
    exact ⟨sign _, inInfinity⟩
  · rw [String.toList_ofList, List.mem_append, not_or]
    refine ⟨sign _, ?_⟩
    split
    · exact not_mem_positionalText unspelled (unspelled.not_mem (by decide)) _ _
    · exact not_mem_positive unspelled _ _ _

theorem not_mem_fixed (unspelled : Unspelled c) (places : Nat) (x : Float) :
    c ∉ (fixed places x).toList := by
  have zero : c ∉ ['0', '.', '-'] := unspelled.not_mem (by decide)
  simp only [List.mem_cons, List.not_mem_nil, or_false, not_or] at zero
  have padded : ∀ n m, c ∉ List.replicate n '0' ++ Text.writeNat m := by
    intro n m
    rw [List.mem_append, not_or]
    exact ⟨fun member => zero.1 (List.eq_of_mem_replicate member), not_mem_writeNat unspelled m⟩
  rw [fixed]
  split
  · exact unspelled.not_mem (by decide)
  · split <;> exact unspelled.not_mem (by decide)
  · dsimp only
    rw [String.toList_ofList]
    simp only [List.mem_append, not_or]
    refine ⟨⟨?_, fun member => padded _ _ (List.mem_of_mem_take member)⟩, ?_⟩
    · split <;> simp [zero]
    · split
      · exact List.not_mem_nil
      · rw [List.mem_cons, not_or]
        exact ⟨zero.2.1, fun member => padded _ _ (List.mem_of_mem_drop member)⟩

end Decimal

theorem Script.not_mem_formatNumber (unspelled : Unspelled c) (x : Float) :
    c ∉ (formatNumber x).toList := by
  have plain : c ∉ (Decimal.Layout.plain.write x).toList :=
    Decimal.not_mem_write unspelled (unspelled.not_mem (by decide))
      (unspelled.not_mem (by decide)) x
  rw [formatNumber]
  split
  · exact unspelled.not_mem (by decide)
  · split <;> exact unspelled.not_mem (by decide)
  · split
    · split
      · rw [String.toList_ofList]
        exact not_mem_writeInt unspelled _
      · exact plain
    · exact plain

/-! ## Documents -/

/-- **Some texts are without a character.** -/
def Lacks (c : Char) (texts : List String) : Prop :=
  ∀ text ∈ texts, c ∉ text.toList

instance (c : Char) (texts : List String) : Decidable (Lacks c texts) :=
  inferInstanceAs (Decidable (∀ text ∈ texts, _))

/-- Texts without marks lack each of them. -/
theorem IsMark.lacks (mark : IsMark c) {texts : List String}
    (markless : ∀ text ∈ texts, Markless text.toList) : Lacks c texts :=
  fun text member => mark.not_mem (markless text member)

mutual

/-- **The texts of a document**: what stands in quotes when it is written. -/
def Json.texts : Json → List String
  | .str s => [s]
  | .list items => itemTexts items
  | .object fields => fieldTexts fields
  | _ => []

def Json.itemTexts : List Json → List String
  | [] => []
  | item :: items => texts item ++ itemTexts items

def Json.fieldTexts : List (String × Json) → List String
  | [] => []
  | (name, json) :: fields => name :: (texts json ++ fieldTexts fields)

end

namespace Json

theorem not_mem_writeString (mark : IsMark c) {s : String} (inText : c ∉ s.toList) :
    c ∉ writeString s := by
  have marks : c ∉ ['"', '\\', 'b', 'f', 'n', 'r', 't', 'u', '0'] :=
    mark.not_mem (by decide)
  simp only [List.mem_cons, List.not_mem_nil, or_false, not_or] at marks
  have hex : ∀ n, c ∉ Nat.toDigits 16 n := not_mem_toDigits mark.unspelled (by decide) (by decide)
  have escaped : ∀ d ∈ s.toList, c ∉ escaped d := by
    intro d member
    have apart : c ≠ d := by
      rintro rfl
      exact inText member
    unfold Json.escaped
    split_ifs <;> simp [marks, hex, apart]
  simp only [writeString, List.cons_append, List.mem_cons, List.mem_append, List.mem_flatMap,
    List.not_mem_nil, or_false, not_or, not_exists, not_and]
  exact ⟨marks.1, escaped, marks.1⟩

mutual

/-- **A document is written without a mark that its texts lack.** -/
theorem not_mem_write (mark : IsMark c) :
    (json : Json) → Lacks c json.texts → c ∉ json.write
  | .null, _ => mark.not_mem (by decide)
  | .bool true, _ => mark.not_mem (by decide)
  | .bool false, _ => mark.not_mem (by decide)
  | .int n, _ => not_mem_writeInt mark.unspelled n
  | .float x, _ =>
      Decimal.not_mem_write mark.unspelled (mark.not_mem (by decide))
        (mark.not_mem (by decide)) x
  | .str s, lacks => not_mem_writeString mark (lacks s List.mem_cons_self)
  | .list items, lacks => by
      have inItems := not_mem_writeItems mark items lacks
      have brackets : c ∉ ['[', ']'] := mark.not_mem (by decide)
      simp only [List.mem_cons, List.not_mem_nil, or_false, not_or] at brackets
      simp [write, brackets, inItems]
  | .object fields, lacks => by
      have inFields := not_mem_writeFields mark fields lacks
      have braces : c ∉ ['\x7b', '\x7d'] := mark.not_mem (by decide)
      simp only [List.mem_cons, List.not_mem_nil, or_false, not_or] at braces
      simp [write, braces, inFields]

theorem not_mem_writeItems (mark : IsMark c) :
    (items : List Json) → Lacks c (itemTexts items) → c ∉ writeItems items
  | [], _ => List.not_mem_nil
  | item :: items, lacks => by
      obtain ⟨here, later⟩ := List.forall_mem_append.1 lacks
      have inItem := not_mem_write mark item here
      have inItems := not_mem_writeItems mark items later
      have comma : c ∉ [','] := mark.not_mem (by decide)
      cases items with
      | nil => exact inItem
      | cons other items =>
          rw [writeItems]
          · simpa [inItem, inItems] using comma
          · simp

theorem not_mem_writeFields (mark : IsMark c) :
    (fields : List (String × Json)) → Lacks c (fieldTexts fields) → c ∉ writeFields fields
  | [], _ => List.not_mem_nil
  | (name, json) :: fields, lacks => by
      obtain ⟨named, rest⟩ := List.forall_mem_cons.1 lacks
      obtain ⟨here, later⟩ := List.forall_mem_append.1 rest
      have inName := not_mem_writeString mark named
      have inJson := not_mem_write mark json here
      have inFields := not_mem_writeFields mark fields later
      have marks : c ∉ [':', ','] := mark.not_mem (by decide)
      simp only [List.mem_cons, List.not_mem_nil, or_false, not_or] at marks
      cases fields with
      | nil => simp [writeFields, inName, inJson, marks]
      | cons field fields =>
          rw [writeFields]
          · simp [inName, inJson, inFields, marks]
          · simp

end

/-- A field of a document has no more texts than the document. -/
theorem texts_subset_of_lookup {fields : List (String × Json)} {name : String} {json : Json}
    (found : fields.lookup name = some json) : json.texts ⊆ fieldTexts fields := by
  induction fields with
  | nil => simp at found
  | cons field fields ih =>
      obtain ⟨first, value⟩ := field
      rw [Table.lookup_pair] at found
      rw [fieldTexts]
      split at found
      · obtain rfl := Option.some.inj found
        exact List.subset_cons_of_subset _ (List.subset_append_left _ _)
      · exact List.Subset.trans (ih found)
          (List.subset_cons_of_subset _ (List.subset_append_right _ _))

theorem texts_subset_of_field {json part : Json} {name : String}
    (found : json.field? name = some part) : part.texts ⊆ json.texts := by
  cases json with
  | object fields => exact texts_subset_of_lookup found
  | _ => simp [field?] at found

end Json

end ChatTemplate
