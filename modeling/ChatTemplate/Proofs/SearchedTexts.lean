/-
# ChatTemplate.Proofs.SearchedTexts -- texts that are searched for other texts

The methods of texts that look for another text agree with those that put texts together and take
them apart.  `indexOf` gives the first position from which `slice` takes out the text that is
looked for, and `join` undoes `split`.

Texts are searched character by character.  Their bytes would be found at the same places
(`exists_of_encoded`), since a byte with which a character begins never stands inside another.

Main statements: `indexOf_first_slice`, `join_undoes_split`.
-/
import ChatTemplate.Proofs.Occurrence
import ChatTemplate.Proofs.Slices

namespace ChatTemplate

set_option autoImplicit false

namespace Text

variable {pat text : List Char}

/-! ## Positions -/

theorem contains_eq (pat text : List Char) : contains pat text = (indexOf? pat text).isSome := by
  rw [contains, indexOf?, Option.isSome_map]

/-- **The position of an occurrence that none precedes.** -/
theorem first_of_indexOf {n : Nat} (found : indexOf? pat text = some n) :
    pat <+: text.drop n ∧ ∀ j < n, ¬ pat <+: text.drop j := by
  obtain ⟨⟨before, after⟩, broken, rfl⟩ := Option.map_eq_some_iff.1 found
  refine ⟨⟨after, ?_⟩, fun j earlier => not_prefix_drop_of_breakOn broken earlier⟩
  rw [eq_append_of_breakOn broken, List.append_assoc, List.drop_left]

theorem add_length_le_of_indexOf {n : Nat} (found : indexOf? pat text = some n) :
    n + pat.length ≤ text.length := by
  obtain ⟨⟨before, after⟩, broken, rfl⟩ := Option.map_eq_some_iff.1 found
  rw [eq_append_of_breakOn broken, List.length_append, List.length_append]
  exact Nat.le_add_right _ _

theorem not_infix_of_indexOf (missing : indexOf? pat text = none) : ¬ pat <:+: text := by
  intro within
  have found := contains_of_infix within
  rw [contains_eq, missing] at found
  cases found

/-! ## Bytes -/

/-- The bytes of a text. -/
def encoded (text : List Char) : List UInt8 :=
  text.flatMap String.utf8EncodeChar

@[simp] theorem encoded_nil : encoded [] = [] := rfl

theorem encoded_cons (c : Char) (text : List Char) :
    encoded (c :: text) = String.utf8EncodeChar c ++ encoded text :=
  List.flatMap_cons

theorem encoded_append (front back : List Char) :
    encoded (front ++ back) = encoded front ++ encoded back :=
  List.flatMap_append

/-- Every text begins with a byte with which a character begins. -/
theorem exists_encoded_eq_cons (some_ : pat ≠ []) :
    ∃ byte rest, encoded pat = byte :: rest ∧ byte.IsUTF8FirstByte := by
  obtain ⟨c, pat, rfl⟩ := List.exists_cons_of_ne_nil some_
  obtain ⟨byte, rest, spelled⟩ := List.exists_cons_of_ne_nil (String.utf8EncodeChar_ne_nil (c := c))
  have first : byte.IsUTF8FirstByte := by
    have opens := UInt8.isUTF8FirstByte_getElem_zero_utf8EncodeChar (c := c)
    simpa only [spelled, List.getElem_cons_zero] using opens
  refine ⟨byte, rest ++ encoded pat, ?_, first⟩
  rw [encoded_cons, spelled, List.cons_append]

theorem prefix_of_encoded (begins : encoded pat <+: encoded text) : pat <+: text := by
  obtain ⟨rest, same⟩ := begins
  apply List.isPrefix_of_utf8Encode_append_eq_utf8Encode rest.toByteArray
  rw [List.utf8Encode, List.utf8Encode, ← List.toByteArray_append]
  exact congrArg List.toByteArray same

/-- **Bytes like those of a text stand where the text does.** -/
theorem exists_of_encoded (some_ : pat ≠ []) {place : Nat}
    (stands : encoded pat <+: (encoded text).drop place) :
    ∃ n, (encoded (text.take n)).length = place ∧ pat <+: text.drop n := by
  obtain ⟨byte, others, opening, first⟩ := exists_encoded_eq_cons some_
  induction text generalizing place with
  | nil =>
      rw [encoded_nil, List.drop_nil, List.prefix_nil, opening] at stands
      cases stands
  | cons c text ih =>
      rw [encoded_cons] at stands
      by_cases inside : place < (String.utf8EncodeChar c).length
      · -- the byte at `place` begins a character, so it is the first of `c`
        have here : (String.utf8EncodeChar c)[place] = byte := by
          rw [List.drop_append_of_le_length inside.le, List.drop_eq_getElem_cons inside, opening,
            List.cons_append] at stands
          exact (List.cons_prefix_cons.1 stands).1.symm
        rw [← here, UInt8.isUTF8FirstByte_getElem_utf8EncodeChar] at first
        subst first
        refine ⟨0, rfl, prefix_of_encoded ?_⟩
        rwa [List.drop_zero, encoded_cons]
      · obtain ⟨later, rfl⟩ := Nat.exists_eq_add_of_le (Nat.le_of_not_lt inside)
        rw [List.drop_append, List.drop_eq_nil_of_le (by omega), Nat.add_sub_cancel_left,
          List.nil_append] at stands
        obtain ⟨n, length, found⟩ := ih stands
        refine ⟨n + 1, ?_, found⟩
        rw [List.take_succ_cons, encoded_cons, List.length_append, length]

theorem infix_of_encoded (within : encoded pat <:+: encoded text) : pat <:+: text := by
  by_cases some_ : pat = []
  · subst some_
    exact List.nil_infix
  · obtain ⟨before, after, whole⟩ := within
    have stands : encoded pat <+: (encoded text).drop before.length := by
      rw [← whole, List.append_assoc, List.drop_left]
      exact List.prefix_append _ _
    obtain ⟨n, -, here⟩ := exists_of_encoded some_ stands
    exact here.isInfix.trans (List.drop_suffix n text).isInfix

/-- Where the bytes of a text first stand among those of another. -/
def IsFirstPlace (pat text : List Char) (place : Nat) : Prop :=
  encoded pat <+: (encoded text).drop place ∧
    ∀ earlier < place, ¬ encoded pat <+: (encoded text).drop earlier

theorem isFirstPlace_of_indexOf {n : Nat} (found : indexOf? pat text = some n) :
    IsFirstPlace pat text (encoded (text.take n)).length := by
  obtain ⟨⟨after, here⟩, first⟩ := first_of_indexOf found
  have parts : encoded text = encoded (text.take n) ++ (encoded pat ++ encoded after) := by
    rw [← encoded_append, here, ← encoded_append, List.take_append_drop]
  refine ⟨⟨encoded after, ?_⟩, fun earlier before stands => ?_⟩
  · rw [parts, List.drop_left]
  · by_cases some_ : pat = []
    · subst some_
      have start : n = 0 := Nat.eq_zero_of_not_pos fun positive => first 0 positive List.nil_prefix
      subst start
      exact Nat.not_lt_zero _ before
    · obtain ⟨m, length, stands⟩ := exists_of_encoded some_ stands
      refine first m ?_ stands
      by_contra late
      have longer : encoded (text.take n) <+: encoded (text.take m) := by
        obtain ⟨rest, whole⟩ := List.take_prefix_take_left (l := text) (Nat.le_of_not_lt late)
        exact ⟨encoded rest, by rw [← encoded_append, whole]⟩
      have atLeast := longer.length_le
      omega

/-! ## Pieces -/

theorem join_nil (pieces : List (List Char)) : join [] pieces = pieces.flatten := by
  induction pieces with
  | nil => rfl
  | cons piece pieces ih =>
      cases pieces with
      | nil => simp [join]
      | cons other pieces =>
          rw [join_cons_of_ne_nil _ (List.cons_ne_nil _ _), ih, List.append_nil]
          rfl

/-- **The pieces of a text, put together with what stood between them.** -/
theorem join_splitText (sep text : List Char) : join sep (Script.splitText sep text) = text := by
  by_cases empty : sep = []
  · subst empty
    rw [join_nil]
    exact List.flatMap_singleton' text
  · rw [Script.splitText, if_neg (by simpa using empty), join_splitOn empty]

end Text

namespace Script

variable {s n : String}

/-! ## Searching and slicing -/

theorem add_ofLength {m k : Nat} (fits : m + k < Text.signedLimit) :
    (Value.ofLength m).add (.ofLength k) = .ofLength (m + k) := by
  have left : (Int64.ofNat m).toInt = m := toInt_ofNat (by omega)
  have right : (Int64.ofNat k).toInt = k := toInt_ofNat (by omega)
  have range : Text.inInt64 ((m : Int) + k) = true := by
    rw [Text.inInt64, Bool.and_eq_true, decide_eq_true_eq, decide_eq_true_eq]
    omega
  have word : Int64.ofInt ((m : Int) + k) = Int64.ofNat (m + k) := by
    rw [← Int.natCast_add, Int64.ofInt_eq_ofNat]
  simp [Value.add, Value.ofLength, Value.isNumeric, Value.combineExact, left, right, range, word]

/-- The slice `s.slice(i, i + n.length)` is `n`. -/
def StandsAt (s n : String) (i : Int64) : Prop :=
  callMethod? (.str s) "slice" [.int i, (Value.int i).add ((Value.str n).member "length")] =
    some (.ok (.str n))

theorem standsAt_iff {k : Nat} (fits : s.length < Text.signedLimit)
    (within : k + n.length ≤ s.length) :
    StandsAt s n (Int64.ofNat k) ↔ n.toList <+: s.toList.drop k := by
  have stop : (Value.int (Int64.ofNat k)).add ((Value.str n).member "length") =
      .ofLength (k + n.length) := add_ofLength (by omega)
  have cut : slice s.toList [.int (Int64.ofNat k), .ofLength (k + n.length)] =
      (s.toList.drop k).take n.toList.length := by
    have between := slice_ofLength (Nat.le_add_right k _) within fits
    rwa [Nat.add_sub_cancel_left] at between
  rw [StandsAt, stop, callMethod_slice_str, cut, List.prefix_iff_eq_take]
  simp only [Option.some.injEq, Except.ok.injEq, Value.str.injEq]
  rw [eq_comm, ← String.toList_inj, String.toList_ofList]

/-- What no slice of a text can be. -/
theorem callMethod_slice_ne (missing : ¬ n.toList <:+: s.toList) (args : List Value) :
    callMethod? (.str s) "slice" args ≠ some (.ok (.str n)) := by
  rw [callMethod_slice_str]
  intro same
  simp only [Option.some.injEq, Except.ok.injEq, Value.str.injEq] at same
  apply missing
  rw [← same, String.toList_ofList]
  exact slice_infix s.toList args

/-- A position that is not negative counts elements. -/
theorem exists_ofNat {j : Int64} (positive : 0 ≤ j) : ∃ m < Text.signedLimit, j = Int64.ofNat m :=
  ⟨j.toNatClampNeg, j.toNatClampNeg_lt, (Int64.ofNat_toNatClampNeg j positive).symm⟩

theorem ofNat_ne_neg_one {k : Nat} (fits : k < Text.signedLimit) : Int64.ofNat k ≠ -1 := by
  intro same
  have negative := congrArg Int64.toInt same
  rw [toInt_ofNat fits, show (-1 : Int64).toInt = -1 from rfl] at negative
  omega

theorem callMethod_includes (s n : String) :
    callMethod? (.str s) "includes" [.str n] =
      some (.ok (.bool (Text.indexOf? n.toList s.toList).isSome)) := by
  rw [← Text.contains_eq]
  rfl

theorem callMethod_indexOf (s n : String) :
    callMethod? (.str s) "indexOf" [.str n] =
      some (.ok (ofPosition? (Text.indexOf? n.toList s.toList))) :=
  rfl

/-- **A text is found where it is first sliced out.**  `includes` tells whether `indexOf` gives a
position; this is the first from which a slice as long as the text is the text, and the number of
characters before its first bytes.  Without a position its bytes stand nowhere, and no slice
whatever is the text.  Positions are signed words, so this is for texts that have fewer characters,
as all that fit into memory do. -/
theorem indexOf_first_slice (fits : s.length < Text.signedLimit) (n : String) :
    ∃ (found : Bool) (i : Int64),
      callMethod? (.str s) "includes" [.str n] = some (.ok (.bool found)) ∧
      callMethod? (.str s) "indexOf" [.str n] = some (.ok (.int i)) ∧
      (found = true ↔ i ≠ -1) ∧
      (i ≠ -1 → 0 ≤ i ∧ StandsAt s n i ∧ (∀ j, 0 ≤ j → j < i → ¬ StandsAt s n j) ∧
        ∃ before, before <+: s.toList ∧ i = Int64.ofNat before.length ∧
          Text.IsFirstPlace n.toList s.toList (Text.encoded before).length) ∧
      (i = -1 → ¬ Text.encoded n.toList <:+: Text.encoded s.toList ∧
        ∀ args, callMethod? (.str s) "slice" args ≠ some (.ok (.str n))) := by
  rw [callMethod_includes, callMethod_indexOf]
  cases located : Text.indexOf? n.toList s.toList with
  | none =>
      have missing := Text.not_infix_of_indexOf located
      exact ⟨false, -1, rfl, rfl, by simp, fun found => absurd rfl found, fun _ =>
        ⟨fun within => missing (Text.infix_of_encoded within), callMethod_slice_ne missing⟩⟩
  | some k =>
      obtain ⟨stands, first⟩ := Text.first_of_indexOf located
      have within : k + n.length ≤ s.length := Text.add_length_le_of_indexOf located
      have word : (Int64.ofNat k).toInt = k := toInt_ofNat (by omega)
      have found : Int64.ofNat k ≠ -1 := ofNat_ne_neg_one (by omega)
      refine ⟨true, Int64.ofNat k, rfl, rfl, by simp [found], fun _ => ⟨?_, ?_, ?_, ?_⟩,
        fun missing => absurd missing found⟩
      · rw [Int64.le_iff_toInt_le, word]
        exact Int.natCast_nonneg k
      · exact (standsAt_iff fits within).2 stands
      · intro j positive earlier
        obtain ⟨m, small, rfl⟩ := exists_ofNat positive
        rw [Int64.lt_iff_toInt_lt, word, toInt_ofNat small] at earlier
        rw [standsAt_iff fits (by omega)]
        exact first m (by omega)
      · refine ⟨s.toList.take k, List.take_prefix k _, ?_, Text.isFirstPlace_of_indexOf located⟩
        rw [List.length_take, String.length_toList, Nat.min_eq_left (by omega)]

/-- Of two places that overlap the first is found, and characters of two bytes count once. -/
theorem overlapping_text_is_found :
    "ααββαββα".length < Text.signedLimit ∧
      callMethod? (.str "ααββαββα") "indexOf" [.str "αββα"] = some (.ok (.int 1)) ∧
      StandsAt "ααββαββα" "αββα" 1 ∧ ¬ StandsAt "ααββαββα" "αββα" 0 := by
  have short : "ααββαββα".length < Text.signedLimit := by decide
  have at_one : callMethod? (.str "ααββαββα") "indexOf" [.str "αββα"] = some (.ok (.int 1)) := by
    rfl
  obtain ⟨found, i, -, located, -, stands, -⟩ := indexOf_first_slice short "αββα"
  rw [at_one] at located
  simp only [Option.some.injEq, Except.ok.injEq, Value.int.injEq] at located
  subst located
  obtain ⟨-, here, first, -⟩ := stands (by decide)
  exact ⟨short, at_one, here, first 0 (by decide) (by decide)⟩

/-! ## Splitting and joining -/

theorem callMethod_split (s : String) (sep : Value) :
    callMethod? (.str s) "split" [sep] =
      some (.ok (.list ((splitText sep.chars s.toList).map fun piece =>
        .str (String.ofList piece)))) :=
  rfl

theorem callMethod_join (items : List Value) (sep : Value) :
    callMethod? (.list items) "join" [sep] =
      some (.ok (.str (String.ofList (Text.join sep.chars (items.map Value.chars))))) :=
  rfl

/-- **Joining undoes splitting.**  Any value can separate, as the text that it reads as, and so can
the empty text. -/
theorem join_undoes_split (s : String) (sep : Value) :
    ∃ pieces, callMethod? (.str s) "split" [sep] = some (.ok (.list pieces)) ∧
      callMethod? (.list pieces) "join" [sep] = some (.ok (.str s)) := by
  refine ⟨_, callMethod_split s sep, ?_⟩
  have texts : ((splitText sep.chars s.toList).map fun piece =>
      Value.str (String.ofList piece)).map Value.chars = splitText sep.chars s.toList := by
    simp [Function.comp_def, Value.chars]
  rw [callMethod_join, texts, Text.join_splitText, String.ofList_toList]

end Script

end ChatTemplate
