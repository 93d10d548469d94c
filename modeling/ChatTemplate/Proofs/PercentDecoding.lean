/-
# ChatTemplate.Proofs.PercentDecoding -- what an encoded text stands for

Whoever reads an address takes a percent sign and the two hexadecimal digits behind it, in letters
of either case, for the byte of that number, and any other character for the bytes of its own UTF-8
form (`bytes`).  The text of an address is what these bytes spell in UTF-8 (`decode?`); bytes that
are no UTF-8 spell nothing.

An encoding loses nothing if it does not keep the percent sign (`decode_encode`): then every percent
sign in the result is one that it has written itself.  What the result shows is what is kept, what
never needs to be encoded, and bytes in upper-case digits (`spelled_encode`).

Main statement: `encodings_are_lossless`.
-/
import ChatTemplate.PercentEncoding
import ChatTemplate.Text.Integer

namespace ChatTemplate.PercentEncoding

set_option autoImplicit false

/-! ## Decoding -/

/-- The byte of two hexadecimal digits. -/
def byteOf? (high low : Char) : Option UInt8 :=
  (Text.readDigits? 16 [high, low]).map UInt8.ofNat

/-- The bytes that a text stands for.  A percent sign without two digits behind it stands for
itself. -/
def bytes : List Char → List UInt8
  | [] => []
  | '%' :: high :: low :: text =>
      match byteOf? high low with
      | some byte => byte :: bytes text
      | none => String.utf8EncodeChar '%' ++ bytes (high :: low :: text)
  | c :: text => String.utf8EncodeChar c ++ bytes text

/-- **What a text in an address stands for**, if its bytes are UTF-8. -/
def decode? (text : List Char) : Option String :=
  String.fromUTF8? (bytes text).toByteArray

theorem bytes_cons {c : Char} (other : c ≠ '%') (text : List Char) :
    bytes (c :: text) = String.utf8EncodeChar c ++ bytes text := by
  rw [bytes]
  intro high low behind percent
  exact absurd percent other

theorem bytes_escape {high low : Char} {byte : UInt8} (read : byteOf? high low = some byte)
    (text : List Char) : bytes ('%' :: high :: low :: text) = byte :: bytes text := by
  rw [bytes, read]

/-! ## Bytes in digits -/

theorem digitValue_hexDigit : ∀ n < 16, Text.digitValue? 16 (hexDigit n) = some n := by
  decide

theorem byteOf_hexDigit (byte : UInt8) :
    byteOf? (hexDigit (byte.toNat / 16)) (hexDigit (byte.toNat % 16)) = some byte := by
  have below : byte.toNat < 256 := byte.toNat_lt
  have high := digitValue_hexDigit (byte.toNat / 16) (by omega)
  have low := digitValue_hexDigit (byte.toNat % 16) (by omega)
  have whole : (0 * 16 + byte.toNat / 16) * 16 + byte.toNat % 16 = byte.toNat := by omega
  simp only [byteOf?, Text.readDigits?, List.isEmpty_cons, Bool.false_eq_true, if_false,
    Text.digitsValue?, high, low, whole, Option.map_some, UInt8.ofNat_toNat]

theorem bytes_encodeByte (byte : UInt8) (text : List Char) :
    bytes (encodeByte byte ++ text) = byte :: bytes text :=
  bytes_escape (byteOf_hexDigit byte) text

theorem bytes_encodeBytes (some_ : List UInt8) (text : List Char) :
    bytes (some_.flatMap encodeByte ++ text) = some_ ++ bytes text := by
  induction some_ with
  | nil => rfl
  | cons byte others ih =>
      rw [List.flatMap_cons, List.append_assoc, bytes_encodeByte, ih, List.cons_append]

/-! ## Nothing is lost -/

theorem isUnreserved_percent : isUnreserved '%' = false := by
  decide

/-- **Encoded text stands for the bytes of the text**, as long as the percent sign is not kept. -/
theorem bytes_encode {kept : List Char} (percent : '%' ∉ kept) (text : List Char) :
    bytes (encode kept text) = text.flatMap String.utf8EncodeChar := by
  induction text with
  | nil => rfl
  | cons c text ih =>
      rw [encode, List.flatMap_cons, ← encode, List.flatMap_cons]
      by_cases shown : (kept.contains c || isUnreserved c) = true
      · -- A character that is shown must not be taken for the beginning of a byte.
        have other : c ≠ '%' := by
          rintro rfl
          rw [isUnreserved_percent, Bool.or_false, List.contains_iff_mem] at shown
          exact percent shown
        rw [if_pos shown, List.singleton_append, bytes_cons other, ih]
      · rw [if_neg shown, encodeChar, bytes_encodeBytes, ih]

theorem decode_encode {kept : List Char} (percent : '%' ∉ kept) (s : String) :
    decode? (encode kept s.toList) = some s := by
  have same : (bytes (encode kept s.toList)).toByteArray = s.toByteArray := by
    rw [bytes_encode percent, ← List.utf8Encode, String.utf8Encode_toList]
  rw [decode?, same, String.fromUTF8?, dif_pos s.isValidUTF8]
  rfl

example : String.ofList (encodeUri "a b/ä?".toList) = "a%20b/%C3%A4?" := by decide

/-! ## Nothing else is shown -/

/-- The digits in which a byte is written. -/
def IsUpperHex (c : Char) : Prop :=
  c.isDigit = true ∨ c ∈ "ABCDEF".toList

/-- Text of allowed characters and of percent signs with two such digits behind them. -/
inductive Spelled (allowed : Char → Prop) : List Char → Prop
  | nil : Spelled allowed []
  | shown {c : Char} {text : List Char} (here : allowed c) (onward : Spelled allowed text) :
      Spelled allowed (c :: text)
  | byte {high low : Char} {text : List Char} (first : IsUpperHex high) (second : IsUpperHex low)
      (onward : Spelled allowed text) : Spelled allowed ('%' :: high :: low :: text)

theorem isUpperHex_hexDigit : ∀ n < 16, IsUpperHex (hexDigit n) := by
  unfold IsUpperHex
  decide

section Spelling

variable {allowed : Char → Prop} {text : List Char}

theorem Spelled.encodeBytes (onward : Spelled allowed text) (some_ : List UInt8) :
    Spelled allowed (some_.flatMap encodeByte ++ text) := by
  induction some_ with
  | nil => exact onward
  | cons byte others ih =>
      have below : byte.toNat < 256 := byte.toNat_lt
      exact .byte (isUpperHex_hexDigit _ (by omega)) (isUpperHex_hexDigit _ (by omega)) ih

/-- **An encoding shows what it keeps, what is never encoded, and bytes.** -/
theorem spelled_encode {kept : List Char} (keeps : ∀ c ∈ kept, allowed c)
    (never : ∀ c, isUnreserved c = true → allowed c) (text : List Char) :
    Spelled allowed (encode kept text) := by
  induction text with
  | nil => exact .nil
  | cons c text ih =>
      rw [encode, List.flatMap_cons, ← encode]
      by_cases shown : (kept.contains c || isUnreserved c) = true
      · rw [if_pos shown]
        rcases (Bool.or_eq_true _ _).mp shown with among | plain
        · exact .shown (keeps c (List.contains_iff_mem.mp among)) ih
        · exact .shown (never c plain) ih
      · rw [if_neg shown]
        exact ih.encodeBytes _

end Spelling

/-- What the value of a query shows besides bytes. -/
def IsQueryChar (c : Char) : Prop :=
  c.isAlphanum = true ∨ c ∈ "-_.~!*'()".toList

/-- What a whole address shows besides bytes. -/
def IsUriChar (c : Char) : Prop :=
  IsQueryChar c ∨ c ∈ ";,/?:@&=+$#".toList

theorem isQueryChar_of_isUnreserved {c : Char} (plain : isUnreserved c = true) : IsQueryChar c := by
  simp only [isUnreserved, Bool.or_eq_true, beq_iff_eq] at plain
  rcases plain with (((letter | rfl) | rfl) | rfl) | rfl
  · exact .inl letter
  all_goals exact .inr (by decide)

theorem isQueryChar_of_mark {c : Char} (mark : c ∈ queryMarks) : IsQueryChar c := by
  have listed : queryMarks ⊆ "-_.~!*'()".toList := by decide
  exact .inr (listed mark)

theorem isUriChar_of_mark {c : Char} (mark : c ∈ uriMarks) : IsUriChar c := by
  have listed : uriMarks ⊆ ";,/?:@&=+$#".toList ++ "-_.~!*'()".toList := by decide
  rcases List.mem_append.mp (listed mark) with address | query
  · exact .inr address
  · exact .inl (.inr query)

/-- **Encoded text stands for the text it was made of**, as a value of a query and as an address,
and is made of the characters that may stand in such a place. -/
theorem encodings_are_lossless (s : String) :
    (decode? (encodeQuery s.toList) = some s ∧ Spelled IsQueryChar (encodeQuery s.toList)) ∧
      decode? (encodeUri s.toList) = some s ∧ Spelled IsUriChar (encodeUri s.toList) := by
  refine ⟨⟨decode_encode (by decide) s, ?_⟩, decode_encode (by decide) s, ?_⟩
  · exact spelled_encode (fun _ => isQueryChar_of_mark) (fun _ => isQueryChar_of_isUnreserved) _
  · refine spelled_encode (fun _ => isUriChar_of_mark) (fun c plain => .inl ?_) _
    exact isQueryChar_of_isUnreserved plain

end ChatTemplate.PercentEncoding
