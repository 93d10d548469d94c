/-
# ChatTemplate.Proofs.MethodSizes -- how long the texts are that methods give

A method is not meant to build a text of more than `maxRepeated` bytes, and `repeat` looks at the
limit before it builds one.  Cutting keeps within it, and the texts of numbers and truth values
are far from it.  What is left are five ways to a text that nobody measures (`Unchecked`): the two
cases of letters, replacing, joining, and turning a list or map into text.

* `texts_within_or_unchecked` is the main statement: whatever a method gives is within the limit,
  or comes by one of these ways and has the bytes that are said there.
* `texts_past_the_limit`: by each of these ways a text gets past the limit.
-/
import ChatTemplate.Proofs.TextSizes
import ChatTemplate.Proofs.ValueMark

namespace ChatTemplate.Script

set_option autoImplicit false

/-! ## The texts in a value -/

namespace Value

/-- No text in a value has more bytes than a limit. -/
def Within (limit : Nat) (value : Value) : Prop :=
  ∀ s ∈ value.texts, s.utf8ByteSize ≤ limit

theorem within_of_texts {limit : Nat} {value : Value} (none_ : value.texts = []) :
    value.Within limit := by
  rw [Within, none_]
  exact List.forall_mem_nil _

theorem within_str {limit : Nat} {s : String} :
    (Value.str s).Within limit ↔ s.utf8ByteSize ≤ limit := by
  rw [Within, texts_str, List.forall_mem_singleton]

theorem within_list {limit : Nat} {items : List Value} :
    (Value.list items).Within limit ↔ ∀ item ∈ items, item.Within limit := by
  rw [Within, texts_list]
  exact List.forall_mem_flatMap

theorem utf8ByteSize_text (value : Value) : value.text.utf8ByteSize = Text.size value.chars :=
  Text.utf8ByteSize_ofList _

/-- How many bytes values have with a separator between them. -/
def joinedSize (sep : Value) (items : List Value) : Nat :=
  (items.map fun item => item.text.utf8ByteSize).sum +
    (items.length - 1) * sep.text.utf8ByteSize

theorem size_join (sep : Value) (items : List Value) :
    Text.size (Text.join sep.chars (items.map chars)) = joinedSize sep items := by
  rw [Text.size_join, joinedSize, List.length_map, List.map_map, utf8ByteSize_text]
  simp only [Function.comp_def, utf8ByteSize_text]

/-- A list reads as its items with commas between them. -/
theorem itemChars_eq_join (items : List Value) :
    itemChars items = Text.join [','] (items.map chars) := by
  induction items with
  | nil => rfl
  | cons item items ih =>
      cases items with
      | nil => simp [itemChars, Text.join]
      | cons next items =>
          rw [List.map_cons, Text.join_cons_of_ne_nil _ (by simp), ← ih, itemChars]
          · simp
          · simp

end Value

/-! ## Within the limit -/

theorem within_ofList {text : List Char} (short : Text.size text ≤ maxRepeated) :
    (Value.str (String.ofList text)).Within maxRepeated := by
  rwa [Value.within_str, Text.utf8ByteSize_ofList]

theorem within_toFixed (x : Float) (places : Option Value) :
    (toFixed x places).Within maxRepeated := by
  have length := Decimal.length_fixed_le x
    (Nat.min_le_right ((places.map Value.toInt).getD 0).toInt.toNat 20)
  have size := Text.size_le_length
    (Decimal.fixed (min ((places.map Value.toInt).getD 0).toInt.toNat 20) x).toList
  rw [toFixed, Value.within_str, Text.utf8ByteSize_eq, maxRepeated]
  omega

/-- What a repeated text is measured by is its size. -/
theorem gives_repeatText_within (name s : String) (count : Int) :
    Gives (Value.Within maxRepeated) (repeatText name s count) := by
  unfold repeatText
  split
  · exact .error
  · split
    · next measured =>
        refine .ok (within_ofList ?_)
        split
        · exact Nat.zero_le _
        · rwa [Text.size_flatten_replicate, ← Text.utf8ByteSize_eq, Nat.mul_comm]
    · exact .error

/-- **What is no container is no long text**, unless it is one already. -/
theorem within_text {value : Value} (within : value.Within maxRepeated)
    (noList : ∀ items, value ≠ .list items) (noMap : ∀ fields, value ≠ .map fields) :
    (Value.str value.text).Within maxRepeated := by
  apply within_ofList
  cases value with
  | null => exact Nat.zero_le _
  | bool b => cases b <;> decide
  | int n =>
      have length := Text.length_writeInt_le (n := n.toInt) (k := 19) (by decide) (by
        have low := Int64.le_toInt n
        have high := Int64.toInt_lt n
        omega)
      have size := Text.size_le_length (Text.writeInt n.toInt)
      rw [Value.chars, maxRepeated]
      omega
  | float x =>
      have length := length_formatNumber_le x
      have size := Text.size_le_length (formatNumber x).toList
      rw [Value.chars, maxRepeated]
      omega
  | str s => rwa [Value.chars, ← Text.utf8ByteSize_eq, ← Value.within_str]
  | list items => exact absurd rfl (noList items)
  | map fields => exact absurd rfl (noMap fields)

/-! ## Calls -/

/-- The calls that give a text without a look at the limit, with the bytes that it has. -/
inductive Unchecked (args : List Value) : Value → String → String → Prop
  | upper {s t : String} (grown : t.utf8ByteSize ≤ 3 * s.utf8ByteSize) :
      Unchecked args (.str s) "toUpperCase" t
  | lower {s t : String} (grown : 2 * t.utf8ByteSize ≤ 3 * s.utf8ByteSize) :
      Unchecked args (.str s) "toLowerCase" t
  | replace {s t : String} {pat value : Value} {others : List Value}
      (given : args = pat :: value :: others)
      (changed : t.utf8ByteSize + pat.text.utf8ByteSize =
        s.utf8ByteSize + value.text.utf8ByteSize) :
      Unchecked args (.str s) "replace" t
  | join {items : List Value} {t : String}
      (joined : t.utf8ByteSize = Value.joinedSize (args.headD (.str ",")) items) :
      Unchecked args (.list items) "join" t
  | listText {items : List Value} {t : String}
      (joined : t.utf8ByteSize = Value.joinedSize (.str ",") items) :
      Unchecked args (.list items) "toString" t
  | mapText {fields : List (String × Value)} :
      Unchecked args (.map fields) "toString" (Value.map fields).text

/-- A value within the limit, or a text that was not measured. -/
def Bounded (args : List Value) (receiver : Value) (name : String) (result : Value) : Prop :=
  result.Within maxRepeated ∨ ∃ t, result = .str t ∧ Unchecked args receiver name t

variable {s name : String} {args items : List Value} {receiver : Value}

theorem bounded_ofList {text : List Char} (short : Text.size text ≤ maxRepeated) :
    Bounded args receiver name (.str (String.ofList text)) :=
  .inl (within_ofList short)

theorem bounded_of_texts {result : Value} (none_ : result.texts = []) :
    Bounded args receiver name result :=
  .inl (Value.within_of_texts none_)

/-- Nothing need be known of an argument. -/
theorem gives_any {α : Type} (computed : Except ScriptError α) : Gives (fun _ => True) computed :=
  fun _ _ => trivial

theorem bounded_replace (short : s.utf8ByteSize ≤ maxRepeated) {result : Except ScriptError Value}
    (called : textMethod? s "replace" args = some result) :
    Gives (Bounded args (.str s) "replace") result := by
  match args with
  | [] =>
      cases called
      exact .error
  | [_] =>
      cases called
      exact .error
  | pat :: value :: others =>
      cases called
      refine .ok ?_
      by_cases within : pat.chars <:+: s.toList
      · refine .inr ⟨_, rfl, .replace rfl ?_⟩
        rw [Text.utf8ByteSize_ofList, pat.utf8ByteSize_text, value.utf8ByteSize_text,
          Text.utf8ByteSize_eq s]
        exact Text.size_replaceFirst within value.chars
      · rw [Text.replaceFirst_eq_self within, String.ofList_toList]
        exact .inl (Value.within_str.2 short)

/-- **The methods of texts** keep within the limit, or do not look at it. -/
theorem bounded_textMethod (short : s.utf8ByteSize ≤ maxRepeated)
    {result : Except ScriptError Value} (called : textMethod? s name args = some result) :
    Gives (Bounded args (.str s) name) result := by
  have size : Text.size s.toList ≤ maxRepeated := by rwa [← Text.utf8ByteSize_eq]
  have whole := called
  unfold textMethod? at called
  dsimp only at called
  split at called <;> simp only [Option.some.injEq, reduceCtorEq] at called <;> subst called
  · refine .ok (.inr ⟨_, rfl, .upper ?_⟩)
    rw [Text.upperString, Text.utf8ByteSize_ofList, Text.utf8ByteSize_eq]
    exact Text.size_upper_le s.toList
  · refine .ok (.inr ⟨_, rfl, .lower ?_⟩)
    rw [Text.lowerString, Text.utf8ByteSize_ofList, Text.utf8ByteSize_eq]
    exact Text.size_lower_le s.toList
  · exact .ok (bounded_ofList ((Text.size_le_of_sublist (Text.trim_sublist _)).trans size))
  · exact (gives_any _).map fun _ _ => bounded_of_texts (Value.texts_bool _)
  · exact (gives_any _).map fun _ _ => bounded_of_texts (Value.texts_bool _)
  · exact (gives_any _).map fun _ _ => bounded_of_texts (Value.texts_bool _)
  · exact (gives_any _).map fun _ _ => bounded_of_texts (texts_ofPosition _)
  · refine (gives_any _).map fun sep _ => .inl (Value.within_list.2 fun item member => ?_)
    obtain ⟨piece, found, rfl⟩ := List.mem_map.1 member
    exact within_ofList ((Text.size_le_of_mem_splitText found).trans size)
  · exact bounded_replace short whole
  · refine (gives_any _).bind fun count _ result given => ?_
    exact .inl (gives_repeatText_within _ _ _ result given)
  · exact .ok (bounded_ofList ((Text.size_le_of_sublist (Text.slice_sublist _ _)).trans size))

theorem bounded_join (items args : List Value) :
    Bounded args (.list items) "join" (joinItems items args.head?) := by
  have sep : (args.head?.map Value.chars).getD [','] = (args.headD (.str ",")).chars := by
    cases args <;> rfl
  refine .inr ⟨_, rfl, .join ?_⟩
  rw [Text.utf8ByteSize_ofList, sep, Value.size_join]

/-- **The methods of lists** keep within the limit, but for joining. -/
theorem bounded_listMethod (short : (Value.list items).Within maxRepeated)
    {result : Except ScriptError Value} (called : listMethod? items name args = some result) :
    Gives (Bounded args (.list items) name) result := by
  unfold listMethod? at called
  split at called <;> simp only [Option.some.injEq, reduceCtorEq] at called <;> subst called
  · exact .ok (bounded_join items args)
  · exact (gives_any _).map fun _ _ => bounded_of_texts (Value.texts_bool _)
  · exact (gives_any _).map fun _ _ => bounded_of_texts (texts_ofPosition _)
  · refine .ok (.inl (Value.within_list.2 fun item member => ?_))
    exact Value.within_list.1 short item (subset_slice items args member)

theorem bounded_numberMethod {x : Float} {result : Except ScriptError Value}
    (called : numberMethod? x name args = some result) :
    Gives (Bounded args receiver name) result := by
  unfold numberMethod? at called
  split at called <;> simp only [Option.some.injEq, reduceCtorEq] at called
  subst called
  exact .ok (.inl (within_toFixed x args.head?))

theorem bounded_ownMethod (within : receiver.Within maxRepeated)
    {result : Except ScriptError Value} (called : ownMethod? receiver name args = some result) :
    Gives (Bounded args receiver name) result := by
  cases receiver with
  | str s => exact bounded_textMethod (Value.within_str.1 within) called
  | list items => exact bounded_listMethod within called
  | int n => exact bounded_numberMethod called
  | float x => exact bounded_numberMethod called
  | null => cases called
  | bool b => cases called
  | map fields => cases called

theorem bounded_text (args : List Value) (within : receiver.Within maxRepeated) :
    Bounded args receiver "toString" (.str receiver.text) := by
  cases receiver with
  | list items =>
      refine .inr ⟨_, rfl, .listText ?_⟩
      rw [Value.utf8ByteSize_text, Value.chars, Value.itemChars_eq_join]
      exact Value.size_join (.str ",") items
  | map fields => exact .inr ⟨_, rfl, .mapText⟩
  | _ => exact .inl (within_text within (by simp) (by simp))

/-- **Texts are within the limit or were not measured.**  Called on a value whose texts are within
the limit, with any arguments, a method that succeeds gives a value whose texts are within it; or
it is one of the methods that do not look at the limit, and gives a text that is past it. -/
theorem texts_within_or_unchecked {result : Value} (within : receiver.Within maxRepeated)
    (called : callMethod? receiver name args = some (.ok result)) :
    result.Within maxRepeated ∨
      ∃ t, result = .str t ∧ maxRepeated < t.utf8ByteSize ∧ Unchecked args receiver name t := by
  have bounded : Bounded args receiver name result := by
    rw [callMethod?] at called
    split at called
    · next own => exact bounded_ownMethod within own result (Option.some.inj called)
    · split at called
      · next anyValue =>
          cases called
          rw [anyValue]
          exact bounded_text args within
      · cases called
  rcases bounded with short | ⟨t, rfl, unmeasured⟩
  · exact .inl short
  · by_cases fits : t.utf8ByteSize ≤ maxRepeated
    · exact .inl (Value.within_str.2 fits)
    · exact .inr ⟨t, rfl, Nat.lt_of_not_le fits, unmeasured⟩

/-- The result of `repeat` has been measured. -/
theorem repeated_text_is_short :
    (Value.str "ab").Within maxRepeated ∧
      callMethod? (.str "ab") "repeat" [.int 3] = some (.ok (.str "ababab")) ∧
      (Value.str "ababab").Within maxRepeated := by
  have short : (Value.str "ab").Within maxRepeated := Value.within_str.2 (by decide)
  have called : callMethod? (.str "ab") "repeat" [.int 3] = some (.ok (.str "ababab")) := by rfl
  refine ⟨short, called, ?_⟩
  rcases texts_within_or_unchecked short called with within | ⟨t, same, long, -⟩
  · exact within
  · cases same
    exact absurd long (by decide)

/-! ## Past the limit -/

/-- A call with nothing past the limit that gives a text which is. -/
def PassesLimit (receiver : Value) (name : String) (args : List Value) : Prop :=
  (∀ value ∈ receiver :: args, value.Within maxRepeated) ∧
    ∃ t, callMethod? receiver name args = some (.ok (.str t)) ∧ maxRepeated < t.utf8ByteSize

/-- A letter again and again. -/
def letters (n : Nat) (c : Char) : String :=
  String.ofList (List.replicate n c)

theorem utf8ByteSize_letters (n : Nat) (c : Char) :
    (letters n c).utf8ByteSize = n * c.utf8Size := by
  rw [letters, Text.utf8ByteSize_ofList, Text.size_replicate]

/-- **All five go past the limit**: the first replaces a letter by two in a text as long as can be,
the next puts a letter behind it, the third and fourth have letters which are longer in the other
case, and the last makes a text of two. -/
theorem texts_past_the_limit :
    PassesLimit (.str (letters 65536 'a')) "replace" [.str "a", .str "aa"] ∧
      PassesLimit (.list [.str (letters 65536 'a'), .str "b"]) "join" [.str ""] ∧
      PassesLimit (.str (letters 32768 'ΐ')) "toUpperCase" [] ∧
      PassesLimit (.str (letters 32768 'Ⱥ')) "toLowerCase" [] ∧
      PassesLimit (.list [.str (letters 65536 'a'), .str (letters 65536 'a')]) "toString" [] := by
  have fits {n : Nat} {c : Char} (few : n * c.utf8Size ≤ maxRepeated) :
      (Value.str (letters n c)).Within maxRepeated := by
    rwa [Value.within_str, utf8ByteSize_letters]
  have full : (Value.str (letters 65536 'a')).Within maxRepeated := fits (by decide)
  have short {s : String} (few : s.utf8ByteSize ≤ 2) : (Value.str s).Within maxRepeated :=
    Value.within_str.2 (few.trans (by decide))
  refine ⟨⟨?_, _, rfl, ?_⟩, ⟨?_, _, rfl, ?_⟩, ⟨?_, _, rfl, ?_⟩, ⟨?_, _, rfl, ?_⟩, ⟨?_, _, rfl, ?_⟩⟩
  · simpa [full] using ⟨short (by decide), short (by decide)⟩
  · have within : ['a'] <:+: (letters 65536 'a').toList := by
      rw [letters, String.toList_ofList]
      exact ⟨[], List.replicate 65535 'a', by rw [List.replicate_succ]; rfl⟩
    have changed := Text.size_replaceFirst within ['a', 'a']
    rw [← Text.utf8ByteSize_eq, utf8ByteSize_letters, show 'a'.utf8Size = 1 by decide,
      show Text.size ['a'] = 1 by decide, show Text.size ['a', 'a'] = 2 by decide] at changed
    rw [Text.utf8ByteSize_ofList, maxRepeated]
    change 65536 < Text.size (Text.replaceFirst ['a'] ['a', 'a'] (letters 65536 'a').toList)
    omega
  · simpa [full, Value.within_list] using ⟨short (by decide), short (by decide)⟩
  · rw [Text.utf8ByteSize_ofList, Text.size_join]
    simp [Value.chars, ← Text.utf8ByteSize_eq, utf8ByteSize_letters]
    decide
  · simpa using fits (by decide)
  · rw [Text.upperString, letters, String.toList_ofList, Text.utf8ByteSize_ofList,
      Text.size_upper_replicate]
    decide
  · simpa using fits (by decide)
  · rw [Text.lowerString, letters, String.toList_ofList, Text.utf8ByteSize_ofList,
      Text.size_lower_replicate _ (by decide)]
    decide
  · simpa [Value.within_list] using full
  · rw [Value.utf8ByteSize_text]
    simp [Value.chars, Value.itemChars, ← Text.utf8ByteSize_eq, utf8ByteSize_letters]
    decide

end ChatTemplate.Script
