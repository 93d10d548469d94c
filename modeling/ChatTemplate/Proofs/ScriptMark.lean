/-
# ChatTemplate.Proofs.ScriptMark -- where the texts of scripts come from

The texts that a script computes are put together from those it is given: from
its quoted texts and from what its names are bound to.  So a mark that is
in none of these is in no value that the script makes (`script_lacks`).

The source goes from text to tokens (`without_lex`) and from tokens to trees
(`Grammatical`); evaluation keeps the scope free of the mark, also on the way out
of a script that fails (`Stays`).
-/
import ChatTemplate.Proofs.Frame
import ChatTemplate.Proofs.Lexing
import ChatTemplate.Proofs.ParserInvariant
import ChatTemplate.Proofs.ValueMark
import ChatTemplate.Script.Sandbox

namespace ChatTemplate.Script

set_option autoImplicit false

variable {c : Char}

/-! ## Tokens -/

/-- A quoted text is without a character. -/
def Token.Without (c : Char) : Token → Prop
  | .str s => c ∉ s.toList
  | _ => True

/-- Quoted text is copied, but for line feeds and tabs. -/
theorem not_mem_lexQuoted (mark : IsMark c) (quote : Char) {text : List Char}
    (inText : c ∉ text) : c ∉ (lexQuoted quote text).1 ∧ c ∉ (lexQuoted quote text).2 := by
  have blanks : c ∉ ['\n', '\t'] := mark.not_mem (by decide)
  simp only [List.mem_cons, List.not_mem_nil, or_false, not_or] at blanks
  fun_induction lexQuoted quote text with
  | case1 => exact ⟨List.not_mem_nil, List.not_mem_nil⟩
  | case2 => exact ⟨List.not_mem_nil, List.not_mem_nil⟩
  | case3 d text content rest found ih =>
      simp only [List.mem_cons, not_or] at inText
      rw [found] at ih
      obtain ⟨inContent, inRest⟩ := ih inText.2.2
      refine ⟨?_, inRest⟩
      rw [List.mem_cons, not_or]
      refine ⟨?_, inContent⟩
      split_ifs
      · exact blanks.1
      · exact blanks.2
      · exact inText.2.1
  | case4 => exact ⟨List.not_mem_nil, fun member => inText (List.mem_cons_of_mem _ member)⟩
  | case5 d text _ _ _ content rest found ih =>
      rw [List.mem_cons, not_or] at inText
      rw [found] at ih
      obtain ⟨inContent, inRest⟩ := ih inText.2
      exact ⟨by simp [inText.1, inContent], inRest⟩

theorem without_lexNumber (text : List Char) : (lexNumber text).1.Without c := by
  have hex : ∀ digits, (hexToken digits).Without c := by
    intro digits
    unfold hexToken
    split <;> trivial
  have float : ∀ text, (floatToken text).Without c := by
    intro text
    unfold floatToken
    split <;> trivial
  have digits : ∀ text, (digitsToken text).Without c := by
    intro text
    unfold digitsToken
    split
    · trivial
    · exact float _
  unfold lexNumber
  split
  · exact hex _
  · exact hex _
  · dsimp only
    split
    · exact digits _
    · exact float _

/-- A token of a text without a mark. -/
theorem lexToken_without (mark : IsMark c) {d : Char} {text : List Char}
    (inText : c ∉ d :: text) : (lexToken d text).1.Without c := by
  have later : c ∉ text := fun member => inText (List.mem_cons_of_mem d member)
  unfold lexToken
  split
  · exact without_lexNumber _
  · split
    · simpa [Token.Without] using (not_mem_lexQuoted mark d later).1
    · split
      · trivial
      · split <;> trivial

theorem without_lexAll (mark : IsMark c) (n : Nat) {text : List Char} (inText : c ∉ text) :
    ∀ token ∈ lexAll n text, token.Without c := by
  induction n generalizing text with
  | zero => exact List.forall_mem_singleton.2 trivial
  | succ n ih =>
      rw [lexAll]
      split
      · exact List.forall_mem_singleton.2 trivial
      · next d rest dropped =>
          have begun : c ∉ d :: rest := by
            rw [← dropped]
            exact fun member => inText ((List.dropWhile_suffix _).subset member)
          have inRest : c ∉ (lexToken d rest).2 := fun member =>
            begun (List.mem_cons_of_mem d ((suffix_lexToken d rest).subset member))
          exact List.forall_mem_cons.2 ⟨lexToken_without mark begun, ih inRest⟩

/-- **The quoted texts of a source lack what the source lacks.** -/
theorem without_lex (mark : IsMark c) {source : List Char} (inSource : c ∉ source) :
    AllAdmitted (Token.Without c) (lex source) :=
  without_lexAll mark _ inSource

/-! ## Trees -/

/-- The literals of an expression are without a character. -/
inductive Expr.Without (c : Char) : Expr → Prop
  | literal {value : Value} (lacks : Lacks c value.texts) : Without c (.literal value)
  | var {name : String} : Without c (.var name)
  | list {items : List Expr} (each : ∀ item ∈ items, Without c item) : Without c (.list items)
  | unary {op : UnaryOp} {operand : Expr} (inner : Without c operand) :
      Without c (.unary op operand)
  | binary {op : BinaryOp} {left right : Expr} (inLeft : Without c left)
      (inRight : Without c right) : Without c (.binary op left right)
  | conditional {condition yes no : Expr} (inCondition : Without c condition)
      (inYes : Without c yes) (inNo : Without c no) : Without c (.conditional condition yes no)
  | assign {name : String} {op : AssignOp} {value : Expr} (inner : Without c value) :
      Without c (.assign name op value)
  | call {function : String} {args : List Expr} (each : ∀ arg ∈ args, Without c arg) :
      Without c (.call function args)
  | member {target : Expr} {key : String} (inner : Without c target) :
      Without c (.member target key)
  | index {target key : Expr} (inner : Without c target) (inKey : Without c key) :
      Without c (.index target key)
  | method {target : Expr} {name : String} {args : List Expr} (inner : Without c target)
      (each : ∀ arg ∈ args, Without c arg) : Without c (.method target name args)
  | lambda {params : List String} {body : Expr} (inner : Without c body) :
      Without c (.lambda params body)
  | sequence {items : List Expr} (each : ∀ item ∈ items, Without c item) :
      Without c (.sequence items)

/-- The expressions of a statement are without a character. -/
inductive Stmt.Without (c : Char) : Stmt → Prop
  | expr {e : Expr} (inner : e.Without c) : Without c (.expr e)
  | declare {name : String} {value : Option Expr} (inner : ∀ e ∈ value, Expr.Without c e) :
      Without c (.declare name value)
  | ret {value : Option Expr} (inner : ∀ e ∈ value, Expr.Without c e) : Without c (.ret value)
  | branch {condition : Expr} {yes no : List Stmt} (inCondition : condition.Without c)
      (inYes : ∀ stmt ∈ yes, Without c stmt) (inNo : ∀ stmt ∈ no, Without c stmt) :
      Without c (.branch condition yes no)

theorem lacks_of_wordValue {word : String} {value : Value}
    (known : wordValue? word = some value) : Lacks c value.texts := by
  unfold wordValue? at known
  split_ifs at known <;> obtain rfl := Option.some.inj known <;> exact Value.lacks_nil

theorem grammatical_without (c : Char) (dialect : Dialect) :
    Grammatical dialect (fun _ => Token.Without c) (Expr.Without c) where
  int k := .literal Value.lacks_nil
  float x := .literal (by simpa using Value.lacks_nil)
  str admitted := .literal (List.forall_mem_singleton.2 admitted)
  word known := .literal (lacks_of_wordValue known)
  var _ _ := .var
  list := .list
  unary := .unary
  binary _ := .binary
  conditional := .conditional
  assign _ := .assign
  call _ := .call
  member _ := .member
  index := .index
  method := .method
  lambda _ := .lambda
  sequence _ := .sequence

theorem grammaticalStmt_without (c : Char) :
    GrammaticalStmt (Expr.Without c) (Stmt.Without c) where
  expr := .expr
  declare := .declare
  ret := .ret
  branch := .branch


/-! ## Scopes -/

/-- What names are bound to is without a character. -/
def Scope.Without (c : Char) (scope : Scope) : Prop :=
  ∀ name value, scope.get? name = some value → Lacks c value.texts

namespace Scope.Without

variable {scope : Scope}

theorem set (without : Scope.Without c scope) (name : String) {value : Value}
    (lacks : Lacks c value.texts) : Scope.Without c (scope.set name value) := by
  intro other found bound
  rw [Table.get?_set] at bound
  split at bound
  · obtain rfl := Option.some.inj bound
    exact lacks
  · exact without other found bound

theorem unset (without : Scope.Without c scope) (name : String) :
    Scope.Without c (scope.unset name) := by
  intro other found bound
  rw [Table.get?_unset] at bound
  split at bound
  · simp at bound
  · exact without other found bound

theorem restore (without : Scope.Without c scope) (name : String) {before : Option Value}
    (lacks : ∀ value ∈ before, Lacks c value.texts) :
    Scope.Without c (scope.restore name before) := by
  cases before with
  | none => exact without.unset name
  | some value => exact without.set name (lacks value rfl)

theorem setAll (without : Scope.Without c scope) {bindings : List (String × Value)}
    (lacks : ∀ binding ∈ bindings, Lacks c binding.2.texts) :
    Scope.Without c (scope.setAll bindings) := by
  rw [Table.setAll]
  induction bindings generalizing scope with
  | nil => exact without
  | cons binding bindings ih =>
      obtain ⟨here, later⟩ := List.forall_mem_cons.1 lacks
      exact ih (without.set binding.1 here) later

theorem ofDialect (dialect : Dialect) : Scope.Without c (Scope.ofDialect dialect) := by
  have unbound : Scope.Without c Table.empty := fun name value bound => by
    simp [Table.empty, Table.get?] at bound
  refine unbound.setAll ?_
  cases dialect <;> simp [constants, Value.lacks_nil]

theorem bindParams (without : Scope.Without c scope) (params : List String) {item : Value}
    (lacks : Lacks c item.texts) (position : Nat) :
    Scope.Without c (bindParams params item position scope) := by
  unfold Script.bindParams
  split
  · exact without
  · exact without.set _ lacks
  · exact (without.set _ lacks).set _ Value.lacks_nil

theorem restoreAll (without : Scope.Without c scope) {saved : List (String × Option Value)}
    (lacks : ∀ binding ∈ saved, ∀ value ∈ binding.2, Lacks c value.texts) :
    Scope.Without c (restoreAll saved scope) := by
  rw [Script.restoreAll]
  induction saved generalizing scope with
  | nil => exact without
  | cons binding saved ih =>
      obtain ⟨here, later⟩ := List.forall_mem_cons.1 lacks
      exact ih (without.restore binding.1 here) later

end Scope.Without

/-! ## Computations -/

/-- **From a scope without a character, a computation comes to such a scope**, also
when it fails, and what it gives has a property. -/
def Stays {α : Type} (c : Char) (ends : α → Prop) (computation : Eval α) : Prop :=
  ∀ state, Scope.Without c state.scope →
    Scope.Without c (stateAfter computation state).scope ∧
      Gives ends (ExceptT.run computation state).1

namespace Stays

variable {α β : Type} {ends : α → Prop} {after : β → Prop}

theorem pure {result : α} (here : ends result) : Stays c ends (Pure.pure result) :=
  fun _ without => ⟨without, .ok here⟩

theorem throw (cause : ScriptError) : Stays c ends (MonadExcept.throw cause : Eval α) :=
  fun _ without => ⟨without, .error⟩

theorem bind {first : Eval α} {next : α → Eval β} (one : Stays c ends first)
    (two : ∀ result, ends result → Stays c after (next result)) :
    Stays c after (first >>= next) := by
  intro state without
  obtain ⟨kept, gives⟩ := one state without
  have whole : ExceptT.run (first >>= next) state =
      ExceptT.bindCont next (ExceptT.run first state).1 (stateAfter first state) := rfl
  rw [stateAfter, whole]
  cases outcome : (ExceptT.run first state).1 with
  | error cause => exact ⟨kept, .error⟩
  | ok result => exact two result (gives result outcome) _ kept

theorem get : Stays c (fun _ => True) (MonadState.get : Eval State) :=
  fun _ without => ⟨without, .ok trivial⟩

theorem modify {change : State → State}
    (kept : ∀ state, Scope.Without c state.scope → Scope.Without c (change state).scope) :
    Stays c (fun _ => True) (modify change : Eval PUnit) :=
  fun state without => ⟨kept state without, .ok trivial⟩

end Stays

/-- A computation stays in scopes without a character and gives a value without
it. -/
abbrev Computes (c : Char) (computation : Eval Value) : Prop :=
  Stays c (fun value => Lacks c value.texts) computation

theorem stays_lookupName? (name : String) :
    Stays c (fun found => ∀ value ∈ found, Lacks c value.texts) (lookupName? name) :=
  fun _ without => ⟨without, .ok (without name)⟩

theorem computes_lookupName (name : String) : Computes c (lookupName name) := by
  refine (stays_lookupName? name).bind fun found lacks => ?_
  split
  · exact .pure (lacks _ rfl)
  · exact .throw _

theorem stays_bindName (name : String) {value : Value} (lacks : Lacks c value.texts) :
    Stays c (fun _ => True) (bindName name value) :=
  .modify fun _ without => without.set name lacks

theorem stays_namespace? (target : Expr) : Stays c (fun _ => True) (namespace? target) := by
  unfold namespace?
  split
  · exact (stays_lookupName? _).bind fun found _ => .pure trivial
  · exact .pure trivial

theorem computes_ofExcept {result : Except ScriptError Value} (gives : GivesLacking c result) :
    Computes c (ofExcept result) := by
  unfold ofExcept
  split
  · next value => exact .pure (gives value rfl)
  · exact .throw _

theorem computes_callNamed (mark : IsMark c) (name : String) {args : List Value}
    (inArgs : AllLack c args) : Computes c (callNamed name args) := by
  have used : ∀ dice, Stays c (fun _ => True)
      (modify fun state => { state with dice } : Eval PUnit) := fun dice =>
    .modify fun _ without => without
  refine Stays.get.bind fun state _ => ?_
  split
  · next result dice called =>
      exact (used dice).bind fun _ _ => computes_ofExcept (gives_callFunction mark called inArgs)
  · exact .throw _

theorem lacks_applyUnary (op : UnaryOp) (value : Value) : Lacks c (applyUnary op value).texts := by
  unfold applyUnary
  split <;> simpa using Value.lacks_nil

theorem gives_applyBinary (mark : IsMark c) (op : BinaryOp) {a b : Value}
    (inA : Lacks c a.texts) (inB : Lacks c b.texts) : GivesLacking c (applyBinary op a b) := by
  cases op with
  | add => exact .ok (Value.lacks_add mark inA inB)
  | div => exact Value.gives_div a b
  | rem => exact Value.gives_rem a b
  | and =>
      refine .ok ?_
      split
      · exact inB
      · exact inA
  | or =>
      refine .ok ?_
      split
      · exact inA
      · exact inB
  | sub => exact .ok (by simpa [Value.sub] using Value.lacks_nil)
  | mul => exact .ok (by simpa [Value.mul] using Value.lacks_nil)
  | pow => exact .ok (by simpa [Value.pow] using Value.lacks_nil)
  | _ => exact .ok Value.lacks_nil

theorem gives_applyAssign (mark : IsMark c) (op : AssignOp) {current value : Value}
    (inCurrent : Lacks c current.texts) (inValue : Lacks c value.texts) :
    GivesLacking c (applyAssign op current value) := by
  cases op with
  | set => exact .ok inValue
  | add => exact .ok (Value.lacks_add mark inCurrent inValue)
  | sub => exact .ok (by simpa [Value.sub] using Value.lacks_nil)
  | mul => exact .ok (by simpa [Value.mul] using Value.lacks_nil)
  | div => exact Value.gives_div current value
  | rem => exact Value.gives_rem current value

/-! ## Callbacks -/

theorem stays_forEach {body : Eval Value} (computes : Computes c body) (params : List String)
    (position : Nat) {items : List Value} (inItems : AllLack c items) :
    Stays c (AllLack c) (forEach params body position items) := by
  induction items generalizing position with
  | nil => exact .pure nofun
  | cons item items ih =>
      obtain ⟨here, later⟩ := List.forall_mem_cons.1 inItems
      have bound : Stays c (fun _ => True) (modify fun state =>
          { state with scope := bindParams params item position state.scope } : Eval PUnit) :=
        .modify fun state without => without.bindParams params here position
      exact bound.bind fun _ _ => computes.bind fun result inResult =>
        (ih (position + 1) later).bind fun results inResults =>
          .pure (List.forall_mem_cons.2 ⟨inResult, inResults⟩)

theorem stays_withParams {α : Type} {ends : α → Prop} {inner : Eval α} (stays : Stays c ends inner)
    (params : List String) : Stays c ends (withParams params inner) := by
  intro state without
  obtain ⟨kept, gives⟩ := stays state without
  refine ⟨kept.restoreAll ?_, gives⟩
  intro binding member value found
  obtain ⟨name, -, rfl⟩ := List.mem_map.1 member
  exact without name value found

/-- What a list method makes of its elements is one of them, or a list of what the
callback gave. -/
theorem lacks_callbackResult {method : String} {items results : List Value} {value : Value}
    (inItems : AllLack c items) (inResults : AllLack c results)
    (found : callbackResult? method items results = some value) : Lacks c value.texts := by
  have paired : ∀ pair ∈ items.zip results, Lacks c pair.1.texts := fun pair member =>
    inItems _ (List.of_mem_zip member).1
  unfold callbackResult? at found
  dsimp only at found
  split at found <;> simp only [Option.some.injEq, reduceCtorEq] at found <;> subst found
  · exact Value.lacks_list.2 inResults
  · refine Value.lacks_list.2 fun item member => ?_
    obtain ⟨pair, kept, rfl⟩ := List.mem_map.1 member
    exact paired pair (List.mem_of_mem_filter kept)
  · cases first : (items.zip results).find? fun pair => pair.2.truthy with
    | none => exact Value.lacks_nil
    | some pair => exact paired pair (List.mem_of_find?_eq_some first)
  · rw [texts_ofPosition]
    exact Value.lacks_nil
  · exact Value.lacks_nil
  · exact Value.lacks_nil

theorem computes_callWithCallback {items : List Value} (inItems : AllLack c items)
    (method : String) (params : List String) {body : Eval Value} (computes : Computes c body) :
    Computes c (callWithCallback items method params body) := by
  refine (stays_withParams (stays_forEach computes params 0 inItems) params).bind
    fun results inResults => ?_
  split
  · next value found => exact .pure (lacks_callbackResult inItems inResults found)
  · exact .throw _

/-! ## Expressions -/

mutual

/-- **An expression without a mark in its literals makes no mark.** -/
theorem computes_eval (mark : IsMark c) :
    (e : Expr) → e.Without c → Computes c (eval e)
  | .literal value, .literal lacks => by
      rw [eval]
      exact .pure lacks
  | .var name, _ => by
      rw [eval]
      exact computes_lookupName name
  | .list items, .list each => by
      rw [eval]
      exact (stays_evalAll mark items each).bind fun values inValues =>
        .pure (Value.lacks_list.2 inValues)
  | .unary op operand, .unary inner => by
      rw [eval]
      exact (computes_eval mark operand inner).bind fun value _ => .pure (lacks_applyUnary op value)
  | .binary op left right, .binary inLeft inRight => by
      have onRight := computes_eval mark right inRight
      rw [eval]
      refine (computes_eval mark left inLeft).bind fun a inA => ?_
      split
      · split
        · exact onRight
        · exact .pure inA
      · split
        · exact .pure inA
        · exact onRight
      · exact onRight.bind fun b inB => computes_ofExcept (gives_applyBinary mark op inA inB)
  | .conditional condition yes no, .conditional inCondition inYes inNo => by
      have onYes := computes_eval mark yes inYes
      have onNo := computes_eval mark no inNo
      rw [eval]
      refine (computes_eval mark condition inCondition).bind fun value _ => ?_
      split
      · exact onYes
      · exact onNo
  | .assign name op value, .assign inner => by
      rw [eval]
      refine (computes_eval mark value inner).bind fun operand inOperand => ?_
      have bound : ∀ result : Value, Lacks c result.texts →
          Computes c (do bindName name result; return result) := fun result lacks =>
        (stays_bindName name lacks).bind fun _ _ => .pure lacks
      have taken : Computes c (pure operand) := .pure inOperand
      split
      · exact taken.bind bound
      · exact (computes_lookupName name).bind fun current inCurrent =>
          (computes_ofExcept (gives_applyAssign mark _ inCurrent inOperand)).bind bound
  | .call function args, .call each => by
      rw [eval]
      exact (stays_evalAll mark args each).bind fun values inValues =>
        computes_callNamed mark function inValues
  | .member target key, .member inner => by
      have onTarget := computes_eval mark target inner
      rw [eval]
      refine (stays_namespace? target).bind fun found _ => ?_
      split
      · refine (stays_lookupName? _).bind fun value lacks => ?_
        split
        · exact .pure (lacks _ rfl)
        · exact .throw _
      · exact onTarget.bind fun value inValue => .pure (Value.lacks_member inValue key)
  | .index target key, .index inner inKey => by
      have onKey := computes_eval mark key inKey
      rw [eval]
      exact (computes_eval mark target inner).bind fun value inValue => onKey.bind
        fun position _ => .pure (Value.lacks_index inValue position)
  | .method target name args, .method inner each => by
      have onTarget := computes_eval mark target inner
      have onArgs := stays_evalAll mark args each
      have onCallback := computes_callback mark args each
      rw [eval]
      refine (stays_namespace? target).bind fun found _ => ?_
      split
      · exact onArgs.bind fun values inValues => computes_callNamed mark _ inValues
      · refine onTarget.bind fun receiver inReceiver => ?_
        split
        · next items params body found =>
            exact computes_callWithCallback (Value.lacks_list.1 inReceiver) name params
              (onCallback params body found)
        · refine onArgs.bind fun values inValues => ?_
          split
          · next called =>
              exact computes_ofExcept (gives_callMethod mark inReceiver inValues called)
          · exact .throw _
  | .lambda params body, _ => by
      rw [eval]
      exact .throw _
  | .sequence items, .sequence each => by
      rw [eval]
      refine (stays_evalAll mark items each).bind fun values inValues => .pure ?_
      rw [List.getLastD_eq_getLast?]
      cases last : values.getLast? with
      | none => exact Value.lacks_nil
      | some value => exact inValues value (List.mem_of_getLast? last)

theorem stays_evalAll (mark : IsMark c) :
    (es : List Expr) → (∀ e ∈ es, e.Without c) → Stays c (AllLack c) (evalAll es)
  | [], _ => by
      rw [evalAll]
      exact .pure nofun
  | e :: es, each => by
      obtain ⟨here, later⟩ := List.forall_mem_cons.1 each
      have onLater := stays_evalAll mark es later
      rw [evalAll]
      exact (computes_eval mark e here).bind fun value inValue => onLater.bind
        fun values inValues => .pure (List.forall_mem_cons.2 ⟨inValue, inValues⟩)

/-- What the callback at the head of some arguments gives for an element. -/
theorem computes_callback (mark : IsMark c) :
    (args : List Expr) → (∀ arg ∈ args, arg.Without c) → ∀ params body,
      callback? args = some (params, body) → Computes c body
  | [], _, _, _, found => by simp [callback?] at found
  | e :: args, each, params, body, found => by
      cases e with
      | lambda own inner =>
          obtain ⟨here, -⟩ := List.forall_mem_cons.1 each
          cases here with
          | lambda without =>
              have computes := computes_eval mark inner without
              rw [callback?] at found
              obtain ⟨rfl, rfl⟩ := Prod.mk.inj (Option.some.inj found)
              exact computes
      | _ => simp [callback?] at found

end

/-! ## Scripts -/

/-- A statement that returns gives a value without a character. -/
abbrev Returns (c : Char) (computation : Eval (Option Value)) : Prop :=
  Stays c (fun returned => ∀ value ∈ returned, Lacks c value.texts) computation

mutual

theorem returns_run (mark : IsMark c) :
    (stmt : Stmt) → stmt.Without c → Returns c (run stmt)
  | .expr e, .expr inner => by
      rw [run]
      exact (computes_eval mark e inner).bind fun value _ => .pure nofun
  | .declare name none, _ => by
      rw [run]
      have empty : Computes c (pure .null) := .pure Value.lacks_nil
      exact empty.bind fun initial lacks =>
        (stays_bindName name lacks).bind fun _ _ => .pure nofun
  | .declare name (some value), .declare inner => by
      rw [run]
      exact (computes_eval mark value (inner value rfl)).bind fun initial lacks =>
        (stays_bindName name lacks).bind fun _ _ => .pure nofun
  | .ret none, _ => by
      rw [run]
      exact .pure (by simpa using Value.lacks_nil)
  | .ret (some value), .ret inner => by
      rw [run]
      exact (computes_eval mark value (inner value rfl)).bind fun result lacks =>
        .pure (by simpa using lacks)
  | .branch condition yes no, .branch inCondition inYes inNo => by
      have onYes := returns_runAll mark yes inYes
      have onNo := returns_runAll mark no inNo
      rw [run]
      refine (computes_eval mark condition inCondition).bind fun value _ => ?_
      split
      · exact onYes
      · exact onNo

theorem returns_runAll (mark : IsMark c) :
    (stmts : List Stmt) → (∀ stmt ∈ stmts, stmt.Without c) → Returns c (runAll stmts)
  | [], _ => by
      rw [runAll]
      exact .pure nofun
  | stmt :: stmts, each => by
      obtain ⟨here, later⟩ := List.forall_mem_cons.1 each
      have onLater := returns_runAll mark stmts later
      rw [runAll]
      refine (returns_run mark stmt here).bind fun returned lacks => ?_
      split
      · exact .pure lacks
      · exact onLater

end

theorem computes_runSource (mark : IsMark c) {source : List Char} (inSource : c ∉ source) :
    Computes c (runSource source) := by
  unfold runSource
  split
  · next program parsed =>
      have without := (grammaticalStmt_without c).parseProgram (grammatical_without c .script)
        ((without_lex mark inSource).admitted false) parsed
      refine (returns_runAll mark program without).bind fun returned lacks => .pure ?_
      cases returned with
      | none => exact Value.lacks_nil
      | some value => exact lacks value rfl
  · exact .throw _

/-- **A script makes no mark** that neither its source nor its bindings
have. -/
theorem script_lacks (mark : IsMark c) {source : List Char} (inSource : c ∉ source)
    {bindings : List (String × Value)} (inBindings : ∀ binding ∈ bindings, Lacks c binding.2.texts)
    (dice : Dice) : GivesLacking c (script source bindings dice) :=
  (computes_runSource mark inSource _ ((Scope.Without.ofDialect .script).setAll inBindings)).2

end ChatTemplate.Script
