/-
# ChatTemplate.Proofs.PagePaths -- the parts of a page that paths lead to

A path names a part of a document in steps: a field of an object, and perhaps an element of the list
in that field (`Step`).  Where a step and a whole path lead is said on the document alone
(`Step.Leads`, `Reaches`).

A path is written with dots between its steps.  A name has no dot and no bracket in it, so the
written path falls into the same steps again, and each of them into the same name and position
(`indexed_write`, `indexed_name`).

Main statement: `walk_follows_steps`.
-/
import ChatTemplate.Message.Page
import ChatTemplate.Proofs.IntegerText
import ChatTemplate.Proofs.Lexing

namespace ChatTemplate

set_option autoImplicit false

theorem Json.field?_eq_some_iff {name : String} {json node : Json} :
    json.field? name = some node ↔ ∃ fields, json = .object fields ∧ fields.lookup name = some node := by
  cases json <;> simp [field?]

theorem Json.item?_eq_some_iff {i : Nat} {json node : Json} :
    json.item? i = some node ↔ ∃ items, json = .list items ∧ items[i]? = some node := by
  cases json <;> simp [item?]

namespace Page

/-! ## Steps of a path -/

/-- **A step**: the field of an object, or an element of the list in that field. -/
structure Step where
  key : String
  position : Option Nat := none
  deriving DecidableEq

namespace Step

/-- Characters that stand in the name of a field in a path. -/
def isKeyChar (c : Char) : Bool :=
  !Text.isBlank c && c != '.' && c != '[' && c != ']'

/-- A name that can be written in a path, and a position that is a word. -/
structure Proper (step : Step) : Prop where
  some_ : step.key ≠ ""
  plain : ∀ c ∈ step.key.toList, isKeyChar c = true
  word : ∀ i ∈ step.position, i < Text.wordLimit

theorem proper_field {key : String} (some_ : key ≠ "")
    (plain : ∀ c ∈ key.toList, isKeyChar c = true) : (Step.mk key none).Proper :=
  ⟨some_, plain, nofun⟩

theorem proper_element {key : String} {i : Nat} (some_ : key ≠ "")
    (plain : ∀ c ∈ key.toList, isKeyChar c = true) (word : i < Text.wordLimit) :
    (Step.mk key (some i)).Proper :=
  ⟨some_, plain, fun _ same => Option.some.inj same ▸ word⟩

/-- A position as it is written behind a name. -/
def writePosition (i : Nat) : List Char :=
  '[' :: Text.writeNat i ++ [']']

def write (step : Step) : List Char :=
  match step.position with
  | none => step.key.toList
  | some i => step.key.toList ++ writePosition i

/-- **Where a step leads**: to a field of an object, or to an element of the list there. -/
inductive Leads : Step → Json → Json → Prop
  | field {key : String} {fields : List (String × Json)} {node : Json}
      (found : fields.lookup key = some node) : Leads ⟨key, none⟩ (.object fields) node
  | element {key : String} {i : Nat} {fields : List (String × Json)} {items : List Json}
      {node : Json} (found : fields.lookup key = some (.list items)) (stands : items[i]? = some node) :
      Leads ⟨key, some i⟩ (.object fields) node

theorem Leads.unique {step : Step} {json node other : Json} (leads : step.Leads json node)
    (alike : step.Leads json other) : node = other := by
  cases leads with
  | field found =>
      cases alike with
      | field found' => exact Option.some.inj (found.symm.trans found')
  | element found stands =>
      cases alike with
      | element found' stands' =>
          obtain rfl := Json.list.inj (Option.some.inj (found.symm.trans found'))
          exact Option.some.inj (stands.symm.trans stands')

end Step

def writePath (steps : List Step) : List Char :=
  Text.join ['.'] (steps.map Step.write)

/-- **Where a path leads**, step by step. -/
inductive Reaches : Json → List Step → Json → Prop
  | here (json : Json) : Reaches json [] json
  | onward {json next node : Json} {step : Step} {steps : List Step}
      (first : step.Leads json next) (later : Reaches next steps node) :
      Reaches json (step :: steps) node

/-- A path leads nowhere just when one of its steps does, behind steps that lead somewhere. -/
theorem not_reaches_iff {json : Json} {steps : List Step} :
    (∀ node, ¬ Reaches json steps node) ↔
      ∃ before step after last, steps = before ++ step :: after ∧ Reaches json before last ∧
        ∀ next, ¬ step.Leads last next := by
  constructor
  · intro nowhere
    induction steps generalizing json with
    | nil => exact absurd (.here json) (nowhere json)
    | cons step steps ih =>
        by_cases leads : ∃ next, step.Leads json next
        · obtain ⟨next, first⟩ := leads
          obtain ⟨before, missing, after, last, rfl, reached, stuck⟩ :=
            ih fun node later => nowhere node (.onward first later)
          exact ⟨step :: before, missing, after, last, rfl, .onward first reached, stuck⟩
        · exact ⟨[], step, steps, json, rfl, .here json, fun next first => leads ⟨next, first⟩⟩
  · rintro ⟨before, step, after, last, rfl, reached, stuck⟩ node
    induction reached with
    | here json =>
        rintro (_ | ⟨first, -⟩)
        exact stuck _ first
    | onward first _ ih =>
        rintro (_ | ⟨alike, later⟩)
        obtain rfl := first.unique alike
        exact ih stuck later

/-! ## Steps as they are written -/

/-- What does not end with a bracket names a field. -/
theorem indexed_name {name : List Char} (plain : ']' ∉ name) : indexed? name = none := by
  rw [indexed?]
  split
  · next rest same =>
      have member : ']' ∈ name.reverse := same ▸ List.mem_cons_self
      exact absurd (List.mem_reverse.1 member) plain
  · rfl

/-- **A name and a position are read as they are written.** -/
theorem indexed_write {name : List Char} (some_ : name ≠ []) (i : Nat) :
    indexed? (name ++ Step.writePosition i) = some (name, Text.writeNat i) := by
  have reversed : (name ++ Step.writePosition i).reverse =
      ']' :: ((Text.writeNat i).reverse ++ '[' :: name.reverse) := by
    simp [Step.writePosition]
  have digits : ∀ c ∈ (Text.writeNat i).reverse, Text.isDecimalDigit c = true := fun c member =>
    Text.isDecimalDigit_of_isDigit (Text.isDigit_of_mem_writeNat (List.mem_reverse.1 member))
  have ends : ('[' :: name.reverse).head?.any Text.isDecimalDigit = false :=
    show Text.isDecimalDigit '[' = false by decide
  rw [indexed?, reversed]
  simp only [Script.takeWhile_stops digits ends, Script.dropWhile_stops digits ends,
    List.reverse_reverse, List.isEmpty_reverse]
  simp [List.isEmpty_iff, Text.writeNat_ne_nil, some_]

theorem readUInt64_writeNat {i : Nat} (word : i < Text.wordLimit) :
    (Text.readUInt64? (Text.writeNat i)).map UInt64.toNat = some i := by
  have exact_ : (UInt64.ofNat i).toNat = i := UInt64.toNat_ofNat_of_lt word
  rw [Text.readUInt64?, Text.readNatural_writeNat word, Option.map_some, Option.map_some, exact_]

theorem Step.Proper.not_mem {step : Step} (proper : step.Proper) {c : Char}
    (other : Step.isKeyChar c = false) : c ∉ step.key.toList := by
  intro member
  rw [proper.plain c member] at other
  cases other

theorem Step.Proper.dot_not_mem_write {step : Step} (proper : step.Proper) :
    '.' ∉ step.write := by
  have inKey : '.' ∉ step.key.toList := proper.not_mem (by decide)
  obtain ⟨key, position⟩ := step
  cases position with
  | none => exact inKey
  | some i =>
      have inPosition : '.' ∉ Step.writePosition i := by
        have inDigits : '.' ∉ Text.writeNat i := fun digit =>
          absurd (Text.isDigit_of_mem_writeNat digit) (by decide)
        simp [Step.writePosition, inDigits]
      exact fun member => (List.mem_append.1 member).elim inKey inPosition

/-- **A written step leads where the step leads.** -/
theorem step_write {step : Step} (proper : step.Proper) {json node : Json} :
    step? json step.write = some node ↔ step.Leads json node := by
  have closing : ']' ∉ step.key.toList := proper.not_mem (by decide)
  have some_ : step.key.toList ≠ [] := fun none => proper.some_ (String.toList_eq_nil_iff.1 none)
  have word := proper.word
  obtain ⟨key, position⟩ := step
  cases position with
  | none =>
      rw [step?, Step.write, indexed_name closing, fieldOf?, String.ofList_toList,
        Json.field?_eq_some_iff]
      constructor
      · rintro ⟨fields, rfl, found⟩
        exact .field found
      · rintro ⟨found⟩
        exact ⟨_, rfl, found⟩
  | some i =>
      obtain ⟨place, read, is⟩ := Option.map_eq_some_iff.1 (readUInt64_writeNat (word i rfl))
      rw [step?, Step.write, indexed_write some_]
      simp only [fieldOf?, String.ofList_toList, Option.bind_eq_bind, Option.bind_eq_some_iff,
        Json.field?_eq_some_iff, Json.item?_eq_some_iff]
      constructor
      · rintro ⟨_, ⟨fields, rfl, found⟩, place', read', items, rfl, stands⟩
        obtain rfl := Option.some.inj (read.symm.trans read')
        exact .element found (is ▸ stands)
      · rintro ⟨⟩
        next found stands =>
          exact ⟨_, ⟨_, rfl, found⟩, place, read, _, rfl, is.symm ▸ stands⟩

theorem foldlM_write {steps : List Step} (proper : ∀ step ∈ steps, step.Proper)
    {json node : Json} :
    (steps.map Step.write).foldlM step? json = some node ↔ Reaches json steps node := by
  induction steps generalizing json with
  | nil =>
      constructor
      · intro same
        obtain rfl := Option.some.inj same
        exact .here json
      · rintro ⟨⟩
        rfl
  | cons step steps ih =>
      obtain ⟨here, others⟩ := List.forall_mem_cons.1 proper
      rw [List.map_cons, List.foldlM_cons, Option.bind_eq_bind, Option.bind_eq_some_iff]
      constructor
      · rintro ⟨next, first, later⟩
        exact .onward ((step_write here).1 first) ((ih others).1 later)
      · rintro (_ | ⟨first, later⟩)
        exact ⟨_, (step_write here).2 first, (ih others).2 later⟩

/-! ## Paths -/

theorem splitOn_writePath {steps : List Step} (some_ : steps ≠ [])
    (proper : ∀ step ∈ steps, step.Proper) :
    Text.splitOn ['.'] (writePath steps) = steps.map Step.write := by
  refine Text.splitOn_join (by simpa using some_) fun piece member => ?_
  obtain ⟨step, among, rfl⟩ := List.mem_map.1 member
  exact (proper step among).dot_not_mem_write

/-- **A path is followed step by step.**  It leads to a part of the document just when its steps do,
one after the other, and nowhere just when one of them does. -/
theorem walk_follows_steps (json : Json) {steps : List Step} (some_ : steps ≠ [])
    (proper : ∀ step ∈ steps, step.Proper) :
    (∀ node, walk? json (writePath steps) = some node ↔ Reaches json steps node) ∧
      (walk? json (writePath steps) = none ↔
        ∃ before step after last, steps = before ++ step :: after ∧ Reaches json before last ∧
          ∀ next, ¬ step.Leads last next) := by
  have found : ∀ node, walk? json (writePath steps) = some node ↔ Reaches json steps node := by
    intro node
    rw [walk?, splitOn_writePath some_ proper, foldlM_write proper]
  refine ⟨found, ?_⟩
  rw [← not_reaches_iff, Option.eq_none_iff_forall_ne_some]
  exact forall_congr' fun node => not_congr (found node)

/-- A page with a list in one of its fields, and an object in the list. -/
def nestedPage : Json :=
  .object [("a", .int 1), ("b", .object [("c", .list [.int 10, .object [("d", .str "x")]])])]

/-- The field of an element is found, and behind the last element there is nothing. -/
theorem nested_list_is_followed :
    [Step.mk "b" none, ⟨"c", some 1⟩, ⟨"d", none⟩] ≠ [] ∧
      (∀ step ∈ [Step.mk "b" none, ⟨"c", some 1⟩, ⟨"d", none⟩], step.Proper) ∧
      walk? nestedPage "b.c[1].d".toList = some (.str "x") ∧
      (∀ step ∈ [Step.mk "b" none, ⟨"c", some 2⟩], step.Proper) ∧
      walk? nestedPage "b.c[2]".toList = none := by
  have some_ : [Step.mk "b" none, ⟨"c", some 1⟩, ⟨"d", none⟩] ≠ [] := by decide
  have small : 2 < Text.wordLimit := by simp [Text.wordLimit]
  have b : (Step.mk "b" none).Proper := Step.proper_field (by decide) (List.all_eq_true.1 rfl)
  have d : (Step.mk "d" none).Proper := Step.proper_field (by decide) (List.all_eq_true.1 rfl)
  have c (i : Nat) (early : i ≤ 2) : (Step.mk "c" (some i)).Proper :=
    Step.proper_element (by decide) (List.all_eq_true.1 rfl) (early.trans_lt small)
  have proper : ∀ step ∈ [Step.mk "b" none, ⟨"c", some 1⟩, ⟨"d", none⟩], step.Proper := by
    simp only [List.forall_mem_cons, List.not_mem_nil, false_implies, implies_true, and_true]
    exact ⟨b, c 1 (by decide), d⟩
  have proper' : ∀ step ∈ [Step.mk "b" none, ⟨"c", some 2⟩], step.Proper := by
    simp only [List.forall_mem_cons, List.not_mem_nil, false_implies, implies_true, and_true]
    exact ⟨b, c 2 le_rfl⟩
  have inList : Reaches nestedPage [Step.mk "b" none, ⟨"c", some 1⟩, ⟨"d", none⟩] (.str "x") :=
    .onward (.field rfl) (.onward (.element rfl rfl) (.onward (.field rfl) (.here _)))
  have missing : ∀ next, ¬ (Step.mk "c" (some 2)).Leads
      (.object [("c", .list [.int 10, .object [("d", .str "x")]])]) next := by
    rintro _ ⟨⟩
    next found stands =>
      obtain rfl := Json.list.inj (Option.some.inj found)
      cases stands
  refine ⟨some_, proper, ((walk_follows_steps nestedPage some_ proper).1 _).2 inList, proper', ?_⟩
  exact (walk_follows_steps nestedPage (by decide) proper').2.2
    ⟨[Step.mk "b" none], ⟨"c", some 2⟩, [], _, rfl, .onward (.field rfl) (.here _), missing⟩

end Page

end ChatTemplate
