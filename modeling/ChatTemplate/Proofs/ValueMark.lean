/-
# ChatTemplate.Proofs.ValueMark -- the texts of values

The texts of a value are those that its document puts in quotes.  Operators,
functions and methods put the texts of their results together from those of their
operands (`gives_callFunction`, `gives_callMethod`), and a value reads without a
mark that its texts lack (`not_mem_chars`).
-/
import ChatTemplate.Proofs.TokenMark
import ChatTemplate.Proofs.Gives
import ChatTemplate.Script.Method

namespace ChatTemplate.Script

set_option autoImplicit false

variable {c : Char}

/-! ## Values -/

/-- **The texts of a value**, the names in maps included: those of the document
with the same content. -/
def Value.texts (value : Value) : List String :=
  value.toJson.texts

namespace Value

@[simp] theorem texts_null : texts .null = [] := rfl

@[simp] theorem texts_bool (b : Bool) : texts (.bool b) = [] := rfl

@[simp] theorem texts_int (n : Int64) : texts (.int n) = [] := rfl

@[simp] theorem texts_float (x : Float) : texts (.float x) = [] := by
  rw [texts, toJson]
  split <;> rfl

@[simp] theorem texts_str (s : String) : texts (.str s) = [s] := rfl

@[simp] theorem texts_list (items : List Value) : texts (.list items) = items.flatMap texts := by
  rw [texts, toJson, Json.texts]
  induction items with
  | nil => rfl
  | cons item items ih => rw [itemsToJson, Json.itemTexts, ih, List.flatMap_cons, texts]

@[simp] theorem texts_map (fields : List (String × Value)) :
    texts (.map fields) = fields.flatMap fun field => field.1 :: field.2.texts := by
  rw [texts, toJson, Json.texts]
  induction fields with
  | nil => rfl
  | cons field fields ih =>
      rw [fieldsToJson, Json.fieldTexts, ih, List.flatMap_cons, texts, List.cons_append]

mutual

/-- A value made of a document has the texts of the document. -/
theorem texts_ofJson : (json : Json) → (ofJson json).texts = json.texts
  | .null => rfl
  | .bool _ => rfl
  | .int n => by
      rw [ofJson]
      split <;> simp [Json.texts]
  | .float x => texts_float x
  | .str _ => rfl
  | .list items => texts_itemsOfJson items
  | .object fields => texts_fieldsOfJson fields

theorem texts_itemsOfJson : (items : List Json) →
    Json.itemTexts (itemsToJson (itemsOfJson items)) = Json.itemTexts items
  | [] => rfl
  | item :: items => congrArg₂ (· ++ ·) (texts_ofJson item) (texts_itemsOfJson items)

theorem texts_fieldsOfJson : (fields : List (String × Json)) →
    Json.fieldTexts (fieldsToJson (fieldsOfJson fields)) = Json.fieldTexts fields
  | [] => rfl
  | (name, json) :: fields =>
      congrArg (name :: ·) (congrArg₂ (· ++ ·) (texts_ofJson json) (texts_fieldsOfJson fields))

end

theorem lacks_list {items : List Value} :
    Lacks c (texts (.list items)) ↔ ∀ item ∈ items, Lacks c item.texts := by
  rw [texts_list]
  exact List.forall_mem_flatMap

theorem lacks_map {fields : List (String × Value)} :
    Lacks c (texts (.map fields)) ↔
      ∀ field ∈ fields, c ∉ field.1.toList ∧ Lacks c field.2.texts := by
  rw [texts_map, Lacks, List.forall_mem_flatMap]
  exact forall₂_congr fun field _ => List.forall_mem_cons

mutual

/-- **A value reads without a mark that its texts lack.** -/
theorem not_mem_chars (mark : IsMark c) :
    (value : Value) → Lacks c value.texts → c ∉ value.chars
  | .null, _ => List.not_mem_nil
  | .bool true, _ => mark.not_mem (by decide)
  | .bool false, _ => mark.not_mem (by decide)
  | .int n, _ => not_mem_writeInt mark.unspelled n.toInt
  | .float x, _ => not_mem_formatNumber mark.unspelled x
  | .str s, lacks => lacks s List.mem_cons_self
  | .list items, lacks => not_mem_itemChars mark items (lacks_list.1 lacks)
  | .map fields, lacks => Json.not_mem_write mark (toJson (.map fields)) lacks

theorem not_mem_itemChars (mark : IsMark c) :
    (items : List Value) → (∀ item ∈ items, Lacks c item.texts) → c ∉ itemChars items
  | [], _ => List.not_mem_nil
  | item :: items, lacks => by
      obtain ⟨here, later⟩ := List.forall_mem_cons.1 lacks
      have inItem := not_mem_chars mark item here
      have inItems := not_mem_itemChars mark items later
      have comma : c ∉ [','] := mark.not_mem (by decide)
      cases items with
      | nil => exact inItem
      | cons other items =>
          rw [itemChars]
          · simpa [inItem, inItems] using comma
          · simp

end

theorem lacks_str {text : List Char} (inText : c ∉ text) :
    Lacks c (texts (.str (String.ofList text))) := by
  rw [texts_str, Lacks, List.forall_mem_singleton, String.toList_ofList]
  exact inText

theorem lacks_nil : Lacks c [] :=
  List.forall_mem_nil _

end Value

/-! ## Operators and functions -/

namespace Value

@[simp] theorem texts_ofResult (x : Float) (fractional : Bool) :
    texts (ofResult x fractional) = [] := by
  unfold ofResult
  split <;> simp

@[simp] theorem texts_combine (f : Float → Float → Float) (a b : Value) :
    texts (combine f a b) = [] :=
  texts_ofResult _ _

@[simp] theorem texts_combineExact (exact : Int → Int → Int) (f : Float → Float → Float)
    (a b : Value) : texts (combineExact exact f a b) = [] := by
  unfold combineExact
  split
  · dsimp only
    split <;> simp
  · simp

@[simp] theorem texts_neg (value : Value) : texts value.neg = [] := by
  unfold neg
  split
  · split <;> simp
  · simp
  · simp

theorem lacks_add (mark : IsMark c) {a b : Value} (inA : Lacks c a.texts)
    (inB : Lacks c b.texts) : Lacks c (add a b).texts := by
  unfold add
  split
  · simpa using lacks_nil
  · refine lacks_str ?_
    rw [List.mem_append, not_or]
    exact ⟨not_mem_chars mark a inA, not_mem_chars mark b inB⟩

theorem gives_div (a b : Value) : Gives (fun value => Lacks c value.texts) (div a b) := by
  unfold div
  split
  · exact .error
  · exact .ok (by simpa using lacks_nil)

theorem gives_rem (a b : Value) : Gives (fun value => Lacks c value.texts) (rem a b) := by
  unfold rem
  split
  · exact .error
  · exact .ok (by simpa using lacks_nil)

/-- A part of a map is one of its values. -/
theorem lacks_lookup {fields : List (String × Value)} (inFields : Lacks c (texts (.map fields)))
    {key : String} {value : Value} (found : fields.lookup key = some value) :
    Lacks c value.texts := by
  obtain ⟨before, after, shape, -⟩ := List.lookup_eq_some_iff.1 found
  have member : (key, value) ∈ fields := by
    rw [shape]
    exact List.mem_append_right _ List.mem_cons_self
  exact (lacks_map.1 inFields _ member).2

theorem lacks_member {value : Value} (inValue : Lacks c value.texts) (key : String) :
    Lacks c (value.member key).texts := by
  unfold member
  split
  · next fields =>
      cases found : fields.lookup key with
      | none => exact lacks_nil
      | some part => exact lacks_lookup inValue found
  · split <;> exact lacks_nil
  · split <;> exact lacks_nil
  · exact lacks_nil

theorem lacks_index {value : Value} (inValue : Lacks c value.texts) (key : Value) :
    Lacks c (value.index key).texts := by
  unfold index
  dsimp only
  split
  · next items =>
      split
      · cases found : items[key.toInt.toInt.toNat]? with
        | none => exact lacks_nil
        | some item => exact lacks_list.1 inValue item (List.mem_of_getElem? found)
      · exact lacks_nil
  · next s =>
      split
      · split
        · next d found =>
            have inText := List.forall_mem_singleton.1 inValue
            have apart : c ≠ d := by
              rintro rfl
              exact inText (List.mem_of_getElem? found)
            rw [texts_str, Lacks, List.forall_mem_singleton]
            simpa using apart
        · exact lacks_nil
      · exact lacks_nil
  · exact lacks_member inValue _
  · exact lacks_nil

end Value

@[simp] theorem texts_wholeOrFloat (x : Float) : (wholeOrFloat x).texts = [] := by
  unfold wholeOrFloat
  split <;> simp

/-- The functions of numbers make numbers. -/
theorem texts_numberFunction {name : String} {f : Float → Value}
    (found : numberFunction? name = some f) (x : Float) : (f x).texts = [] := by
  unfold numberFunction? at found
  split at found <;> simp only [Option.some.injEq, reduceCtorEq] at found
  all_goals
    subst found
    simp

theorem lacks_valueFunction (mark : IsMark c) {name : String} {f : Value → Value}
    (found : valueFunction? name = some f) {value : Value} (lacks : Lacks c value.texts) :
    Lacks c (f value).texts := by
  have shown : Lacks c (Value.str value.text).texts :=
    Value.lacks_str (Value.not_mem_chars mark value lacks)
  have number : ∀ value, (absolute value).texts = [] := by
    intro value
    unfold absolute
    split
    · split <;> simp
    · simp
  have parsed : ∀ value, (parseInt value).texts = [] := by
    intro value
    unfold parseInt
    split <;> simp
  unfold valueFunction? at found
  split at found <;> simp only [Option.some.injEq, reduceCtorEq] at found <;> subst found
  · simpa [number] using Value.lacks_nil
  · exact shown
  · exact shown
  · simpa using Value.lacks_nil
  · simpa using Value.lacks_nil
  · simpa [parsed] using Value.lacks_nil
  · exact Value.lacks_nil
  · exact Value.lacks_nil
  · exact Value.lacks_nil

/-- All of some values are without a character. -/
abbrev AllLack (c : Char) (values : List Value) : Prop :=
  ∀ value ∈ values, Lacks c value.texts

/-- What a function or method makes is without a character. -/
abbrev GivesLacking (c : Char) (result : Except ScriptError Value) : Prop :=
  Gives (fun value => Lacks c value.texts) result

variable {args : List Value}

theorem gives_firstArg (name : String) (inArgs : AllLack c args) :
    GivesLacking c (firstArg name args) := by
  unfold firstArg
  split
  · next found => exact .ok (inArgs _ (List.mem_of_head? found))
  · exact .error

theorem gives_argAt (name : String) (inArgs : AllLack c args) (position : Nat) :
    GivesLacking c (argAt name args position) := by
  unfold argAt
  split
  · next found => exact .ok (inArgs _ (List.mem_of_getElem? found))
  · exact .error

theorem lacks_extreme (before : Ordering → Bool) {best : Value} (inBest : Lacks c best.texts)
    {values : List Value} (inValues : AllLack c values) :
    Lacks c (extreme before best values).texts := by
  induction values generalizing best with
  | nil => exact inBest
  | cons value values ih =>
      obtain ⟨here, later⟩ := List.forall_mem_cons.1 inValues
      rw [extreme]
      refine ih ?_ later
      split
      · exact here
      · exact inBest

theorem gives_pickExtreme (name : String) (before : Ordering → Bool) (inArgs : AllLack c args) :
    GivesLacking c (callFunction?.pickExtreme name before args) := by
  cases args with
  | nil => exact .error
  | cons value values =>
      obtain ⟨here, later⟩ := List.forall_mem_cons.1 inArgs
      exact .ok (lacks_extreme before here later)

theorem texts_random (args : List Value) (dice : Dice) : (random args dice).1.texts = [] := by
  unfold random
  split <;> simp

theorem lacks_sample {value : Value} (lacks : Lacks c value.texts) (dice : Dice) :
    Lacks c (sample value dice).1.texts := by
  unfold sample
  split
  · next items =>
      unfold Dice.pick
      dsimp only
      cases found : items[(dice.below items.length).1]? with
      | none => exact Value.lacks_nil
      | some item => exact Value.lacks_list.1 lacks item (List.mem_of_getElem? found)
  · exact Value.lacks_nil

/-- **A function makes no mark** that its arguments lack. -/
theorem gives_callFunction (mark : IsMark c) {name : String} {dice after : Dice}
    {result : Except ScriptError Value} (called : callFunction? name args dice = some (result, after))
    (inArgs : AllLack c args) : GivesLacking c result := by
  unfold callFunction? at called
  dsimp only at called
  split at called
  · next f found =>
      obtain ⟨rfl, -⟩ := Prod.mk.inj (Option.some.inj called)
      refine (gives_argAt name inArgs 0).map fun value _ => ?_
      rw [texts_numberFunction found]
      exact Value.lacks_nil
  · split at called
    · next f found =>
        obtain ⟨rfl, -⟩ := Prod.mk.inj (Option.some.inj called)
        exact (gives_firstArg name inArgs).map fun value => lacks_valueFunction mark found
    · split at called
      · obtain ⟨rfl, -⟩ := Prod.mk.inj (Option.some.inj called)
        refine (gives_argAt name inArgs 0).bind fun base _ => ?_
        exact (gives_argAt name inArgs 1).bind fun exponent _ =>
          .ok (by simpa using Value.lacks_nil)
      · obtain ⟨rfl, -⟩ := Prod.mk.inj (Option.some.inj called)
        exact gives_pickExtreme name _ inArgs
      · obtain ⟨rfl, -⟩ := Prod.mk.inj (Option.some.inj called)
        exact gives_pickExtreme name _ inArgs
      · obtain ⟨rfl, -⟩ := Prod.mk.inj (Option.some.inj called)
        refine .ok ?_
        rw [texts_random]
        exact Value.lacks_nil
      · have first := gives_firstArg name inArgs
        split at called
        · next value found =>
            obtain ⟨rfl, -⟩ := Prod.mk.inj (Option.some.inj called)
            exact .ok (lacks_sample (first value found) dice)
        · obtain ⟨rfl, -⟩ := Prod.mk.inj (Option.some.inj called)
          exact .error
      · simp at called

/-! ## Methods -/

theorem subset_slice {α : Type} (items : List α) (args : List Value) : slice items args ⊆ items :=
  List.Subset.trans (List.drop_subset _ _) (List.take_subset _ _)

theorem not_mem_splitText {sep text : List Char} (inText : c ∉ text) :
    ∀ piece ∈ splitText sep text, c ∉ piece := by
  unfold splitText
  split
  · intro piece member
    obtain ⟨d, inside, rfl⟩ := List.mem_map.1 member
    rw [List.mem_singleton]
    rintro rfl
    exact inText inside
  · exact Text.not_mem_splitOn inText

theorem texts_ofPosition (position : Option Nat) : (ofPosition? position).texts = [] := by
  cases position <;> rfl

theorem gives_argChars (mark : IsMark c) (name : String) (inArgs : AllLack c args)
    (position : Nat) : Gives (c ∉ ·) (argChars name args position) :=
  (gives_argAt name inArgs position).map (Value.not_mem_chars mark)

theorem gives_repeatText (name : String) {s : String} (inText : c ∉ s.toList) (count : Int) :
    GivesLacking c (repeatText name s count) := by
  unfold repeatText
  split
  · exact .error
  · split
    · refine .ok (Value.lacks_str ?_)
      split
      · exact List.not_mem_nil
      · simp [inText]
    · exact .error

/-- **A method of a text makes no mark** that the text and its arguments lack. -/
theorem gives_textMethod (mark : IsMark c) {s name : String} (inText : c ∉ s.toList)
    (inArgs : AllLack c args) {result : Except ScriptError Value}
    (called : textMethod? s name args = some result) : GivesLacking c result := by
  have chars := gives_argChars mark name inArgs
  unfold textMethod? at called
  dsimp only at called
  split at called <;> simp only [Option.some.injEq, reduceCtorEq] at called <;> subst called
  · exact .ok (Value.lacks_str (Text.not_mem_upper mark inText))
  · exact .ok (Value.lacks_str (Text.not_mem_lower mark inText))
  · exact .ok (Value.lacks_str (Text.not_mem_trim inText))
  · exact (chars 0).map fun pat _ => Value.lacks_nil
  · exact (chars 0).map fun pat _ => Value.lacks_nil
  · exact (chars 0).map fun pat _ => Value.lacks_nil
  · refine (chars 0).map fun pat _ => ?_
    rw [texts_ofPosition]
    exact Value.lacks_nil
  · refine (chars 0).map fun sep _ => Value.lacks_list.2 fun item member => ?_
    obtain ⟨piece, inside, rfl⟩ := List.mem_map.1 member
    exact Value.lacks_str (not_mem_splitText inText piece inside)
  · exact (chars 0).bind fun pat _ => (chars 1).bind fun value inValue =>
      .ok (Value.lacks_str (Text.not_mem_replaceFirst inValue inText))
  · exact (gives_argAt _ inArgs 0).bind fun count _ => gives_repeatText _ inText _
  · exact .ok (Value.lacks_str fun member => inText (subset_slice _ _ member))

/-- **Nor does a method of a list.** -/
theorem gives_listMethod (mark : IsMark c) {items : List Value} {name : String}
    (inItems : AllLack c items) (inArgs : AllLack c args) {result : Except ScriptError Value}
    (called : listMethod? items name args = some result) : GivesLacking c result := by
  have joined : Lacks c (joinItems items args.head?).texts := by
    refine Value.lacks_str (Text.not_mem_join ?_ ?_)
    · cases args with
      | nil => exact mark.not_mem (by decide)
      | cons sep rest => exact Value.not_mem_chars mark sep (inArgs sep List.mem_cons_self)
    · intro piece member
      obtain ⟨item, inside, rfl⟩ := List.mem_map.1 member
      exact Value.not_mem_chars mark item (inItems item inside)
  unfold listMethod? at called
  split at called <;> simp only [Option.some.injEq, reduceCtorEq] at called <;> subst called
  · exact .ok joined
  · exact (gives_firstArg _ inArgs).map fun value _ => Value.lacks_nil
  · refine (gives_firstArg _ inArgs).map fun value _ => ?_
    rw [texts_ofPosition]
    exact Value.lacks_nil
  · exact .ok (Value.lacks_list.2 fun item member => inItems item (subset_slice _ _ member))

theorem gives_numberMethod (mark : IsMark c) {x : Float} {name : String}
    {result : Except ScriptError Value} (called : numberMethod? x name args = some result) :
    GivesLacking c result := by
  unfold numberMethod? at called
  split at called
  · obtain rfl := Option.some.inj called
    refine .ok ?_
    rw [toFixed, Value.texts_str, Lacks, List.forall_mem_singleton]
    exact Decimal.not_mem_fixed mark.unspelled _ x
  · simp at called

theorem gives_callMethod (mark : IsMark c) {receiver : Value} {name : String}
    (inReceiver : Lacks c receiver.texts) (inArgs : AllLack c args)
    {result : Except ScriptError Value} (called : callMethod? receiver name args = some result) :
    GivesLacking c result := by
  unfold callMethod? at called
  split at called
  · next own found =>
      obtain rfl := Option.some.inj called
      unfold ownMethod? at found
      split at found
      · exact gives_textMethod mark (inReceiver _ List.mem_cons_self) inArgs found
      · exact gives_listMethod mark (Value.lacks_list.1 inReceiver) inArgs found
      · exact gives_numberMethod mark found
      · exact gives_numberMethod mark found
      · simp at found
  · split at called
    · obtain rfl := Option.some.inj called
      exact .ok (Value.lacks_str (Value.not_mem_chars mark receiver inReceiver))
    · simp at called

end ChatTemplate.Script
