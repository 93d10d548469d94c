/-
# ChatTemplate.Proofs.ArithmeticVariables -- variables in `(math.expression)`

A variable in an expression is replaced twice over: the stage of variables puts its value
into the message before the stage of arithmetic looks for names.  So an expression is
read with the text of the value in it.  That is the same as binding the name to the
value when the value is a number without a sign (`render_formula`).

Any other value becomes part of the expression: its sign belongs to what is around it,
and if it is no number it is not counted as zero
(`values_are_read_with_the_expression`).
-/
import ChatTemplate.Proofs.FilledFormulas
import ChatTemplate.Proofs.Substitution
import ChatTemplate.Proofs.TokenMark
import ChatTemplate.Proofs.VariableNames

namespace ChatTemplate

set_option autoImplicit false

namespace Script

/-! ## A formula cut at its variable -/

namespace Formula

/-- What stands before the first variable of a formula with a text behind it. -/
def lead (behind : List Char) : List Part → List Char
  | [] => behind
  | .place :: _ => []
  | part :: formula => part.text [] ++ lead behind formula

/-- What stands behind each variable of a formula, up to the next one. -/
def gaps (behind : List Char) : List Part → List (List Char)
  | [] => []
  | .place :: formula => lead behind formula :: gaps behind formula
  | _ :: formula => gaps behind formula

theorem write_append (name behind : List Char) (formula : List Part) :
    write name formula ++ behind =
      lead behind formula ++ (gaps behind formula).flatMap fun gap => name ++ gap := by
  induction formula with
  | nil => simp [write, lead, gaps]
  | cons part formula ih =>
      rw [write, List.flatMap_cons, ← write, List.append_assoc, ih]
      cases part <;> simp [lead, gaps, Part.text]

theorem write_fill_append (name behind : List Char) (numeral : Numeral) (formula : List Part) :
    write name (fill numeral formula) ++ behind =
      lead behind formula ++ (gaps behind formula).flatMap fun gap => numeral.text ++ gap := by
  induction formula with
  | nil => simp [write, lead, gaps, fill]
  | cons part formula ih =>
      rw [fill, List.map_cons, write, List.flatMap_cons, ← write, List.append_assoc, ← fill, ih]
      cases part <;> simp [lead, gaps, Part.text, Part.fill]

/-- The characters of numbers, operators and blanks. -/
def isFormulaChar (c : Char) : Bool :=
  c.isDigit || "+-*/%^ .eE".toList.contains c

theorem isFormulaChar_numeral {numeral : Numeral} (proper : numeral.Proper) {c : Char}
    (member : c ∈ numeral.text) : isFormulaChar c = true := by
  have digit : ∀ {d : Char}, d.isDigit = true → isFormulaChar d = true := by
    intro d digit
    rw [isFormulaChar, digit, Bool.true_or]
  have marks : ∀ mark ∈ Numeral.marks, mark.all isFormulaChar = true := by decide
  simp only [Numeral.text, List.mem_append] at member
  rcases member with member | member | member | member
  · exact digit (proper.whole c member)
  · rw [Numeral.pointed] at member
    split at member
    · simp at member
    · rcases List.mem_cons.1 member with rfl | member
      · decide
      · exact digit (proper.places c member)
  · rcases proper.exponent with ⟨mark, -⟩ | ⟨mark, -⟩
    · simp [mark] at member
    · exact List.all_eq_true.1 (marks _ mark) c member
  · exact digit (proper.power c member)

theorem isFormulaChar_part {part : Part} (proper : part.Proper) {name : List Char} {c : Char}
    (member : c ∈ part.text name) : c ∈ name ∨ isFormulaChar c = true := by
  have known : ∀ symbol ∈ operators, symbol.spelling.toList.all isFormulaChar = true := by decide
  cases part with
  | blank =>
      obtain rfl := List.mem_singleton.1 member
      exact .inr rfl
  | operator symbol => exact .inr (List.all_eq_true.1 (known symbol proper) c member)
  | number numeral => exact .inr (isFormulaChar_numeral proper member)
  | place => exact .inl member

theorem isFormulaChar_write {formula : List Part} (proper : Proper formula) {name : List Char}
    {c : Char} (member : c ∈ write name formula) : c ∈ name ∨ isFormulaChar c = true := by
  obtain ⟨part, inFormula, member⟩ := List.mem_flatMap.1 member
  exact isFormulaChar_part (proper.parts part inFormula) member

variable {behind : List Char} {formula : List Part} {c : Char}

theorem isFormulaChar_lead (proper : Proper formula) (member : c ∈ lead behind formula) :
    c ∈ behind ∨ isFormulaChar c = true := by
  induction formula with
  | nil => exact .inl member
  | cons part formula ih =>
      cases part with
      | place => simp [lead] at member
      | _ =>
          rcases List.mem_append.1 member with here | later
          · exact .inr ((isFormulaChar_part (proper.parts _ List.mem_cons_self) here).resolve_left
              List.not_mem_nil)
          · exact ih proper.tail later

theorem isFormulaChar_gaps (proper : Proper formula) {gap : List Char}
    (listed : gap ∈ gaps behind formula) (member : c ∈ gap) :
    c ∈ behind ∨ isFormulaChar c = true := by
  induction formula with
  | nil => simp [gaps] at listed
  | cons part formula ih =>
      cases part with
      | place =>
          rcases List.mem_cons.1 listed with rfl | listed
          · exact isFormulaChar_lead proper.tail member
          · exact ih proper.tail listed
      | _ => exact ih proper.tail listed

/-- No name goes on behind a variable. -/
theorem endsNames_gaps (proper : Proper formula) (ends : EndsNames behind) {gap : List Char}
    (listed : gap ∈ gaps behind formula) : EndsNames gap := by
  induction formula with
  | nil => simp [gaps] at listed
  | cons part formula ih =>
      cases part with
      | place =>
          rcases List.mem_cons.1 listed with rfl | listed
          · cases formula with
            | nil => exact ends
            | cons next formula =>
                have parted := (List.isChain_cons_cons.1 proper.parted).1.1
                have known := proper.parts next (by simp)
                cases next with
                | blank => exact .cons (by decide) _
                | operator symbol =>
                    simp only [Part.Proper, operators, List.mem_cons, List.not_mem_nil,
                      or_false] at known
                    rcases known with rfl | rfl | rfl | rfl | rfl | rfl | rfl <;>
                      exact .cons (by decide) _
                | number numeral => exact absurd ⟨rfl, rfl⟩ parted
                | place => exact absurd ⟨rfl, rfl⟩ parted
          · exact ih proper.tail listed
      | _ => exact ih proper.tail listed

end Formula

/-! ## Written numbers -/

theorem write_plain_ne_nil (x : Float) : (Decimal.Layout.plain.write x).toList ≠ [] := by
  have digits : ∀ n, Text.writeNat n ≠ [] := fun n => Nat.toDigits_ne_nil
  have positional : ∀ {digits : List Char}, digits ≠ [] → ∀ p,
      Decimal.positionalText false digits p ≠ [] := by
    intro digits some_ p
    rw [Decimal.positionalText]
    split
    · simp [some_]
    · dsimp only
      split <;> simp
  rw [Decimal.Layout.write]
  dsimp only
  split
  · decide
  · simp [Decimal.Layout.plain]
  · rw [String.toList_ofList]
    refine fun empty => absurd (List.append_eq_nil_iff.1 empty).2 ?_
    split
    · exact positional (by simp) 0
    · exact positional (digits _) _

/-- A number is written with something. -/
theorem formatNumber_ne_nil (x : Float) : (formatNumber x).toList ≠ [] := by
  have digits : ∀ n, Text.writeNat n ≠ [] := fun n => Nat.toDigits_ne_nil
  rw [formatNumber]
  split
  · decide
  · split <;> decide
  · split
    · split
      · rw [String.toList_ofList, Text.writeInt]
        split
        · simp
        · exact digits _
      · exact write_plain_ne_nil x
    · exact write_plain_ne_nil x

/-- There is no white space in a number. -/
theorem trim_formatNumber (x : Float) :
    Text.trim (formatNumber x).toList = (formatNumber x).toList := by
  have solid : ∀ c ∈ (formatNumber x).toList, Text.isBlank c = false := by
    intro c member
    rw [Bool.eq_false_iff]
    intro blank
    refine not_mem_formatNumber (fun spelled => ?_) x member
    have none : numberChars.all (fun c => !Text.isBlank c) = true := by decide
    simpa [blank] using List.all_eq_true.1 none c spelled
  have some_ := formatNumber_ne_nil x
  refine Text.trim_eq_self (List.head?_eq_some_head some_) (solid _ (List.head_mem some_))
    (List.getLast?_eq_some_getLast some_) (solid _ (List.getLast_mem some_))

end Script

/-! ## Texts in which only formulas begin -/

/-- A template begins with neither a variable nor an arithmetic token. -/
def Template.opensNoFormula (template : Template) : Bool :=
  match template.stem with
  | '$' :: c :: _ => c != '_'
  | '(' :: c :: _ => c != 'm'
  | _ => false

/-- The rule that shows a variable or sets it. -/
def Pipeline.variableRule : Rule Token :=
  ⟨⟨"$_#", .name⟩, .customVariable .normal⟩

/-- The stages of variables and of arithmetic. -/
def Pipeline.variableStage : Stage :=
  .pass "custom" .clearWhenEmpty variableRules

def Pipeline.arithmeticStage : Stage :=
  .pass "math" .clearWhenEmpty arithmeticRules

/-- **A stage ignores text in which only variables and arithmetic begin**, unless it is
one of theirs; that of attributes does so when no variable is left. -/
theorem Stage.ignores_of_formula {text : List Char} {stage : Stage}
    (standard : stage ∈ Pipeline.stages)
    (other : stage ≠ Pipeline.variableStage ∧ stage ≠ Pipeline.arithmeticStage)
    (attributes : stage = .attributes → '$' ∉ text) (ampersand : '&' ∉ text)
    (dollar : ∀ c, ['$', c] <:+: text → c = '_') (paren : ∀ c, ['(', c] <:+: text → c = 'm') :
    stage.Ignores text := by
  have opens : ∀ stage ∈ Pipeline.stages,
      stage ≠ Pipeline.variableStage ∧ stage ≠ Pipeline.arithmeticStage →
      ∀ template ∈ stage.templates, template.opensNoFormula = true := by
    decide
  refine ignores_of_absent (fun _ => ⟨?_, CharReference.decode_eq_self ampersand⟩) attributes
    (fun c found => by rw [paren c found]; decide) fun template member found => ?_
  · refine List.filter_eq_nil_iff.2 fun placeholder _ found => ?_
    have keyed : ∃ c key, placeholder.key = '$' :: c :: key ∧ c ≠ '_' := by
      cases placeholder <;> exact ⟨_, _, rfl, by decide⟩
    obtain ⟨c, key, spelled, apart⟩ := keyed
    have stands := Text.infix_of_contains found
    rw [spelled] at stands
    exact apart (dollar c ((List.prefix_append ['$', c] key).isInfix.trans stands))
  · have opening := opens stage standard other template member
    rw [Template.opensNoFormula] at opening
    split at opening
    · next c rest shape =>
        rw [shape] at found
        have second := dollar c ((List.prefix_append ['$', c] rest).isInfix.trans found)
        simp [second] at opening
    · next c rest shape =>
        rw [shape] at found
        have second := paren c ((List.prefix_append ['(', c] rest).isInfix.trans found)
        simp [second] at opening
    · nomatch opening

/-! ## Messages of one formula -/

open Script (Numeral Part)
open Script.Formula (write fill isFormulaChar)

/-- How an arithmetic token begins. -/
def Calculation.opening : List Char :=
  "(math.".toList

/-- A message that is one arithmetic token. -/
def Calculation.token (expression : List Char) : List Char :=
  opening ++ (expression ++ [')'])

/-- The text of a number, or nothing where there is none. -/
def Calculation.shown (result : Except Script.ScriptError Float) : List Char :=
  match result with
  | .ok x => (Script.formatNumber x).toList
  | .error _ => []

namespace Calculation

theorem shown_congr {one other : Except Script.ScriptError Float}
    (same : one.toOption = other.toOption) : shown one = shown other := by
  cases one with
  | ok x =>
      cases other with
      | ok y => rw [Option.some.inj same]
      | error cause => nomatch same
  | error cause =>
      cases other with
      | ok y => nomatch same
      | error cause' => rfl

/-- No token and no reference begins in the text of a number. -/
theorem ignores_shown (result : Except Script.ScriptError Float) {stage : Stage}
    (standard : stage ∈ Pipeline.stages) : stage.Ignores (shown result) := by
  cases result with
  | error cause => exact Stage.ignores_nil standard
  | ok x =>
      exact Stage.ignores_of_plain standard (Script.not_mem_formatNumber (by decide) x)
        (Script.not_mem_formatNumber (by decide) x) (Script.not_mem_formatNumber (by decide) x)

variable {name : List Char} {formula : List Part} {numeral : Numeral} {expression : List Char}

theorem paren_of_token (plain : '(' ∉ expression) {c : Char}
    (stands : ['(', c] <:+: token expression) : c = 'm' := by
  have behind : '(' ∉ "math.".toList ++ (expression ++ [')']) := by
    simp only [List.mem_append, not_or]
    exact ⟨by decide, plain, by decide⟩
  have shape : token expression = '(' :: ("math.".toList ++ (expression ++ [')'])) := rfl
  rw [shape] at stands
  rcases List.infix_cons_iff.1 stands with here | later
  · exact (List.cons_prefix_cons.1 (List.cons_prefix_cons.1 here).2).1
  · exact absurd (later.subset List.mem_cons_self) behind

theorem trim_token (expression : List Char) : Text.trim (token expression) = token expression := by
  have first : (token expression).head? = some '(' := rfl
  have last : (token expression).getLast? = some ')' := by
    rw [token, ← List.append_assoc, List.getLast?_concat]
  exact Text.trim_eq_self first (by decide) last (by decide)

theorem not_blank_token (expression : List Char) :
    Text.isBlankText (token expression) = false := rfl

/-! ## Variables in a formula -/

/-- The variables of a formula, as they stand in its token. -/
def mentionsOf (name : List Char) (formula : List Part) : List Mention :=
  (Script.Formula.gaps [')'] formula).map fun gap => ⟨name, gap⟩

/-- What stands before the first of them. -/
def leadOf (formula : List Part) : List Char :=
  opening ++ Script.Formula.lead [')'] formula

theorem token_write (name : List Char) (formula : List Part) :
    token (write ('$' :: '_' :: name) formula) =
      leadOf formula ++ writeMentions (mentionsOf name formula) := by
  rw [token, Script.Formula.write_append, leadOf, List.append_assoc, writeMentions, mentionsOf,
    List.flatMap_map]
  rfl

section

variable (proper : Script.Formula.Proper formula)
include proper

theorem not_mem_leadOf {c : Char} (prefix_ : c ∉ opening) (behind : c ≠ ')')
    (other : isFormulaChar c = false) : c ∉ leadOf formula := by
  rw [leadOf, List.mem_append, not_or]
  refine ⟨prefix_, fun member => ?_⟩
  rcases Script.Formula.isFormulaChar_lead proper member with here | here
  · exact behind (List.mem_singleton.1 here)
  · rw [other] at here
    nomatch here

theorem proper_mentionsOf (some_ : name ≠ []) (chars : ∀ c ∈ name, Text.isNameChar c = true) :
    ∀ mention ∈ mentionsOf name formula, mention.Proper := by
  intro mention member
  obtain ⟨gap, listed, rfl⟩ := List.mem_map.1 member
  refine ⟨some_, chars, Script.Formula.endsNames_gaps proper (.cons (by decide) _) listed, ?_⟩
  intro found
  rcases Script.Formula.isFormulaChar_gaps proper listed found with here | here
  · exact absurd here (by decide)
  · exact absurd here (by decide)

theorem not_mem_write {c : Char} (other : isFormulaChar c = false) {word : List Char}
    (inWord : c ∉ word) : c ∉ write word formula := by
  intro member
  rcases Script.Formula.isFormulaChar_write proper member with here | here
  · exact inWord here
  · rw [other] at here
    nomatch here

/-- No variable is left when its places have been filled. -/
theorem isFormulaChar_fill (number : numeral.Proper) {word : List Char} {c : Char}
    (member : c ∈ write word (fill numeral formula)) :
    isFormulaChar c = true := by
  obtain ⟨part, filled, member⟩ := List.mem_flatMap.1 member
  obtain ⟨original, inFormula, rfl⟩ := List.mem_map.1 filled
  cases original with
  | place => exact Script.Formula.isFormulaChar_numeral number member
  | _ =>
      have here : c ∈ [] ∨ isFormulaChar c = true :=
        Script.Formula.isFormulaChar_part (proper.parts _ inFormula) member
      exact here.resolve_left List.not_mem_nil

end

variable {host : Host} {settings : Settings} {context : Context} {world : World}

/-- A variable is resolved to its value. -/
theorem run_variable (up : Collaborator.customs ∉ host.down) (unasked : context.given? = none)
    (set : world.variableValue (String.ofList ('$' :: '_' :: name)) = String.ofList numeral.text) :
    (Chat.attempt (Message.resolve settings context (.customVariable .normal)
        ('$' :: '_' :: name))).run host.answer world = (.ok numeral.text, world) := by
  have named : VariableToken.nameOf ('$' :: '_' :: name) = String.ofList ('$' :: '_' :: name) := by
    have bare : VariableToken.nameOf ('$' :: '_' :: name) = "$_" ++ String.ofList name := rfl
    rw [bare]
    exact String.toList_inj.1 (by simp)
  have read : (Chat.attempt (Chat.ask (Query.put
      (.readVariable (String.ofList ('$' :: '_' :: name)))))).run host.answer world =
      (.ok (String.ofList numeral.text), world) := by
    have answered : host.answer (.readVariable (String.ofList ('$' :: '_' :: name))) world =
        (.ok (world.variableValue (String.ofList ('$' :: '_' :: name))), world) :=
      Host.answer_of_responsible rfl up world
    rw [← set]
    exact answered
  have shows : VariableToken.resolve context .normal ('$' :: '_' :: name) = (do
      let value ← Chat.ask (Query.put (.readVariable (String.ofList ('$' :: '_' :: name))))
      return value.toList) := by
    unfold VariableToken.resolve
    rw [named, unasked]
  rw [Message.resolve, shows, Chat.run_bind_of_ok read, String.toList_ofList]
  rfl

/-- The variables of a formula with the number that each is resolved to. -/
def cutsOf (name : List Char) (numeral : Numeral) (formula : List Part) : List Message.Cut :=
  (Script.Formula.gaps [')'] formula).map fun gap => ⟨'$' :: '_' :: name, numeral.text, gap⟩

theorem token_fill (name : List Char) (numeral : Numeral) (formula : List Part) :
    token (write ('$' :: '_' :: name) (fill numeral formula)) =
      leadOf formula ++ Message.showCuts (cutsOf name numeral formula) := by
  rw [token, Script.Formula.write_fill_append, leadOf, List.append_assoc, Message.showCuts, cutsOf,
    List.flatMap_map]

theorem token_cuts (name : List Char) (numeral : Numeral) (formula : List Part) :
    token (write ('$' :: '_' :: name) formula) =
      leadOf formula ++ Message.writeCuts (cutsOf name numeral formula) := by
  rw [token_write, writeMentions, mentionsOf, Message.writeCuts, cutsOf, List.flatMap_map,
    List.flatMap_map]
  rfl

section

variable (proper : Script.Formula.Proper formula) (number : numeral.Proper)
include proper

theorem dollar_not_mem_leadOf : '$' ∉ leadOf formula :=
  not_mem_leadOf proper (by decide) (by decide) (by decide)

theorem findAll_cuts (some_ : name ≠ []) (chars : ∀ c ∈ name, Text.isNameChar c = true) :
    Pipeline.variableRule.template.findAll
        (leadOf formula ++ Message.writeCuts (cutsOf name numeral formula)) =
      (cutsOf name numeral formula).map (·.matched) := by
  rw [Pipeline.variableRule, ← token_cuts, token_write, findAll_variableTemplate,
    findAll_mentions (dollar_not_mem_leadOf proper) (proper_mentionsOf proper some_ chars),
    mentionsOf, cutsOf, List.map_map, List.map_map]
  rfl

include number

theorem apart_cutsOf : ∀ cut ∈ cutsOf name numeral formula, cut.Apart '$' .clearWhenEmpty := by
  have written : numeral.text ≠ [] := by
    obtain ⟨c, text, shape, -⟩ := numeral.exists_text_cons number
    rw [shape]
    exact List.cons_ne_nil _ _
  have inNumber : '$' ∉ numeral.text := fun member =>
    absurd (Script.Formula.isFormulaChar_numeral number member) (by decide)
  intro cut member
  obtain ⟨gap, listed, rfl⟩ := List.mem_map.1 member
  refine ⟨rfl, fun member => ?_, inNumber, fun _ => written⟩
  rcases Script.Formula.isFormulaChar_gaps proper listed member with here | here
  · exact absurd here (by decide)
  · exact absurd here (by decide)

theorem dollar_not_mem_fill (word : List Char) :
    '$' ∉ token (write word (fill numeral formula)) := by
  rw [token, List.mem_append, not_or, List.mem_append, not_or]
  refine ⟨by decide, fun member => ?_, by decide⟩
  exact absurd (isFormulaChar_fill proper number member) (by decide)

end

section

variable (up : Collaborator.customs ∉ host.down) (unasked : context.given? = none)
  (some_ : name ≠ []) (chars : ∀ c ∈ name, Text.isNameChar c = true) (number : numeral.Proper)
  (set : world.variableValue (String.ofList ('$' :: '_' :: name)) = String.ofList numeral.text)
  (proper : Script.Formula.Proper formula)
include up unasked some_ chars number set proper

theorem run_variableRule :
    (Message.runRule settings context .clearWhenEmpty
        (token (write ('$' :: '_' :: name) formula)) Pipeline.variableRule).run host.answer world =
      (token (write ('$' :: '_' :: name) (fill numeral formula)), world) := by
  have found : Pipeline.variableRule.template.findAll
      (leadOf formula ++ Message.writeCuts (cutsOf name numeral formula)) =
        (cutsOf name numeral formula).map (·.matched) := findAll_cuts proper some_ chars
  have resolved : Message.ResolveInTurn settings context host.answer (.customVariable .normal)
      (cutsOf name numeral formula) world world := by
    rw [cutsOf]
    induction Script.Formula.gaps [')'] formula with
    | nil => exact .done
    | cons gap gaps ih => exact .next (run_variable up unasked set) ih
  rw [token_cuts name numeral formula]
  by_cases none : cutsOf name numeral formula = []
  · rw [none] at found ⊢
    have still : Message.runRule settings context .clearWhenEmpty
        (leadOf formula ++ Message.writeCuts []) Pipeline.variableRule =
        .done (leadOf formula ++ Message.writeCuts []) := Message.runRule_of_no_match found
    rw [still, token_fill, none]
    rfl
  · have standard : Pipeline.variableStage ∈ Pipeline.stages := by decide
    have member : Pipeline.variableRule ∈ Pipeline.variableRules := List.mem_cons_self
    rw [Message.runRule_cuts standard member none found (dollar_not_mem_leadOf proper)
      (apart_cutsOf proper number) resolved, ← token_fill, trim_token]

/-- The stage of variables puts the number into the token. -/
theorem runStage_variables :
    (Message.runStage settings context (token (write ('$' :: '_' :: name) formula))
        Pipeline.variableStage).run host.answer world =
      (token (write ('$' :: '_' :: name) (fill numeral formula)), world) := by
  have others : ∀ rule ∈ Pipeline.variableRules.tail,
      Message.runRule settings context .clearWhenEmpty
        (token (write ('$' :: '_' :: name) (fill numeral formula))) rule =
          .done (token (write ('$' :: '_' :: name) (fill numeral formula))) := by
    intro rule member
    have stems : ∀ rule ∈ Pipeline.variableRules.tail, '$' ∈ rule.template.stem := by
      decide
    exact Message.runRule_of_no_match (Template.findAll_eq_nil fun found =>
      dollar_not_mem_fill proper number _ (found.subset (stems rule member)))
  have rules : Pipeline.variableRules =
      Pipeline.variableRule :: Pipeline.variableRules.tail := rfl
  rw [Pipeline.variableStage, Message.runStage, Message.runPass, not_blank_token,
    if_neg Bool.false_ne_true, rules, Dialogue.run_foldlM_cons,
    run_variableRule up unasked some_ chars number set proper, Dialogue.foldlM_eq_done others]
  rfl

end

/-! ## The number of an expression -/

section

variable (some_ : expression ≠ []) (chars : ∀ c ∈ expression, isFormulaChar c = true)

theorem inToken_of_isFormulaChar {c : Char} (known : isFormulaChar c = true) :
    CharClass.nonBlankOrSpace.contains c = true ∧ c ≠ ')' := by
  have all : "+-*/%^ .eE".toList.all
      (fun c => CharClass.nonBlankOrSpace.contains c && c != ')') = true := by
    decide
  rw [isFormulaChar, Bool.or_eq_true] at known
  rcases known with digit | listed
  · refine ⟨?_, ?_⟩
    · simp [CharClass.contains, Text.isBlank_of_isDigit digit]
    · rintro rfl
      exact absurd digit (by decide)
  · simpa using List.all_eq_true.1 all c (List.contains_iff_mem.1 listed)

include some_ chars

/-- A token ends with its first closing parenthesis. -/
theorem findAll_token :
    (Pipeline.keyed "(math.#)" Token.arithmetic).template.findAll (token expression) =
      [token expression] := by
  have pattern : (Pipeline.keyed "(math.#)" Token.arithmetic).template.pattern =
      opening.map Piece.char ++ [.run .nonBlankOrSpace 1 false, .char ')'] := by
    decide
  have inside : ∀ before, Pattern.matchLength? [.run .nonBlankOrSpace 1 false, .char ')'] before
      (expression ++ [')']) = some (expression.length + 1) := by
    intro before
    cases expression with
    | nil => exact absurd rfl some_
    | cons c expression =>
        have within := fun d member => inToken_of_isFormulaChar (chars d member)
        obtain ⟨here, later⟩ := List.forall_mem_cons.1 within
        rw [List.cons_append, Pattern.matchLength?, atLeast, if_pos here.1]
        exact congrArg (Option.map (· + 1)) (Pattern.lazyRun_stops later (some c))
  have whole : (token expression).length = opening.length + (expression.length + 1) := by
    rw [token, List.length_append, List.length_append]
    rfl
  have listed : (opening.map Piece.char ++ [.run .nonBlankOrSpace 1 false, .char ')']
      : Pattern).matchLength?.Lists (token expression ++ []) [token expression] := by
    refine .hit (.nil (Pattern.matchLength_char_advances '(' _)) (List.cons_ne_nil _ _) ?_
    rw [List.append_nil, whole]
    exact Pattern.matchLength_literal inside
  rw [List.append_nil, ← pattern] at listed
  exact Template.findAll_of_lists listed

omit some_ chars in
theorem sourceOf_token : sourceOf (token expression) = expression := by
  have first : Text.breakOn? opening (token expression) = some ([], expression ++ [')']) :=
    Text.breakOn_first (List.cons_ne_nil _ _) fun later suffix some_ _ =>
      absurd (List.suffix_nil.1 suffix) some_
  have replaced : Text.replaceFirst "(math.".toList [] (token expression) = expression ++ [')'] :=
    Text.replaceFirst_of_breakOn first
  rw [sourceOf, replaced, Text.stripSuffix_append]
  rfl

omit some_ in
/-- An expression without variables asks for nothing but the dice. -/
theorem run_resolve :
    (Chat.attempt (resolve (token expression))).run host.answer world =
      (match Script.number expression (host.sources world.chances) with
        | .ok x => .ok (Script.formatNumber x).toList
        | .error cause => .error (.badScript cause),
        { world with chances := world.chances + 1 }) := by
  have none : namePattern.findAll expression = [] := by
    refine Pattern.findAll_eq_nil fun before rest suffix => ?_
    refine Pattern.matchLength_literal_eq_none (fun stands => ?_) _ before
    have inside : '$' ∈ expression := suffix.subset (stands.subset List.mem_cons_self)
    exact absurd (chars '$' inside) (by decide)
  have asks : Chat.attempt (resolve (token expression)) = Query.put .chance >>= fun dice =>
      Chat.attempt (match Script.number expression dice with
        | .ok x => return (Script.formatNumber x).toList
        | .error cause => throw (.badScript cause)) := by
    rw [resolve, sourceOf_token, none]
    rfl
  have dice : (Query.put .chance).run host.answer world =
      (host.sources world.chances, { world with chances := world.chances + 1 }) := rfl
  rw [asks, Dialogue.run_bind, dice]
  dsimp only
  cases Script.number expression (host.sources world.chances) <;> rfl

/-- The stage of arithmetic puts the number for which an expression stands in the place
of its token. -/
theorem runStage_arithmetic :
    (Message.runStage settings context (token expression) Pipeline.arithmeticStage).run
        host.answer world =
      (shown (Script.number expression (host.sources world.chances)),
        { world with chances := world.chances + 1 }) := by
  have spliced : ∀ value, Message.splice (token expression) value (token expression) =
      Text.trim value := by
    intro value
    have begins : (token expression).head? = some '(' := rfl
    simpa using Message.splice_match begins List.not_mem_nil value []
  have matched : (Message.runRule settings context .clearWhenEmpty (token expression)
      (Pipeline.keyed "(math.#)" .arithmetic)).run host.answer world =
      (shown (Script.number expression (host.sources world.chances)),
        { world with chances := world.chances + 1 }) := by
    have resolved : (Chat.attempt (Message.resolve settings context .arithmetic
        (token expression))).run host.answer world = _ := run_resolve chars
    rw [Message.runRule, findAll_token some_ chars, Dialogue.run_foldlM_cons, Message.runMatch,
      Dialogue.run_bind]
    simp only [Pipeline.keyed, resolved]
    cases Script.number expression (host.sources world.chances) with
    | error cause => rfl
    | ok x =>
        have kept : (Script.formatNumber x).toList.isEmpty = false := by
          simpa using Script.formatNumber_ne_nil x
        show (Message.settle .clearWhenEmpty (token expression)
          (some (Script.formatNumber x).toList) (token expression), _) = _
        rw [Message.settle, kept, if_neg Bool.false_ne_true, spliced, Script.trim_formatNumber]
        rfl
  rw [Pipeline.arithmeticStage, Message.runStage, Message.runPass, not_blank_token,
    if_neg Bool.false_ne_true, Pipeline.arithmeticRules, Dialogue.run_foldlM_cons, matched]
  rfl

end

/-! ## The other stages -/

theorem ampersand_not_mem_token (plain : '&' ∉ expression) : '&' ∉ token expression := by
  rw [token, List.mem_append, not_or, List.mem_append, not_or]
  exact ⟨by decide, plain, by decide⟩

section

variable (chars : ∀ c ∈ name, Text.isNameChar c = true) (proper : Script.Formula.Proper formula)
include chars proper

/-- Neither a token nor a reference begins inside the token of a formula. -/
theorem not_mem_formula {c : Char} (mark : c = '(' ∨ c = '&') :
    c ∉ write ('$' :: '_' :: name) formula := by
  have foreign : c ≠ '$' ∧ Text.isNameChar c = false ∧ isFormulaChar c = false := by
    rcases mark with rfl | rfl <;> decide
  refine not_mem_write proper foreign.2.2 fun member => ?_
  rcases List.mem_cons.1 member with rfl | member
  · exact foreign.1 rfl
  · rcases List.mem_cons.1 member with rfl | member
    · exact absurd foreign.2.1 (by decide)
    · exact absurd (chars c member) (Bool.eq_false_iff.1 foreign.2.1)

theorem ignores_before (some_ : name ≠ []) :
    ∀ stage ∈ Pipeline.stages.take 5,
      stage.Ignores (token (write ('$' :: '_' :: name) formula)) := by
  have other : ∀ stage ∈ Pipeline.stages.take 5,
      (stage ≠ Pipeline.variableStage ∧ stage ≠ Pipeline.arithmeticStage) ∧
        stage ≠ .attributes := by
    decide
  intro stage member
  refine Stage.ignores_of_formula (List.mem_of_mem_take member) (other stage member).1
    (fun found => absurd found (other stage member).2)
    (ampersand_not_mem_token (not_mem_formula chars proper (.inr rfl))) (fun c found => ?_)
    fun c found => paren_of_token (not_mem_formula chars proper (.inl rfl)) found
  rw [token_write] at found
  exact underscore_of_dollar (dollar_not_mem_leadOf proper)
    (proper_mentionsOf proper some_ chars) found

omit chars in
theorem ignores_between (number : numeral.Proper) (word : List Char) :
    ∀ stage ∈ (Pipeline.stages.drop 6).take 3,
      stage.Ignores (token (write word (fill numeral formula))) := by
  have other : ∀ stage ∈ (Pipeline.stages.drop 6).take 3,
      stage ≠ Pipeline.variableStage ∧ stage ≠ Pipeline.arithmeticStage := by
    decide
  have filled : ∀ c, isFormulaChar c = false → c ∉ write word (fill numeral formula) := by
    intro c other member
    rw [isFormulaChar_fill proper number member] at other
    nomatch other
  have dollar := dollar_not_mem_fill proper number word
  intro stage member
  exact Stage.ignores_of_formula (List.mem_of_mem_drop (List.mem_of_mem_take member))
    (other stage member) (fun _ => dollar) (ampersand_not_mem_token (filled '&' (by decide)))
    (fun c found => absurd (found.subset List.mem_cons_self) dollar)
    fun c found => paren_of_token (filled '(' (by decide)) found

end

/-- A name with a dollar sign is no word for a value. -/
theorem wordValue_name (name : List Char) :
    Script.wordValue? (String.ofList ('$' :: name)) = none := by
  have apart : ∀ word : String, word.toList.head? ≠ some '$' →
      String.ofList ('$' :: name) ≠ word := by
    rintro word other rfl
    exact other (by rw [String.toList_ofList]; rfl)
  unfold Script.wordValue?
  rw [if_neg (apart _ (by decide)), if_neg (apart _ (by decide)), if_neg]
  rintro (same | same)
  · exact apart _ (by decide) same
  · exact apart _ (by decide) same

/-- The parts of a formula are written with something. -/
theorem write_ne_nil {word : List Char} (some_ : word ≠ []) (proper : Script.Formula.Proper formula)
    (nonempty : formula ≠ []) : write word formula ≠ [] := by
  obtain ⟨part, rest, rfl⟩ := List.exists_cons_of_ne_nil nonempty
  have known := proper.parts part List.mem_cons_self
  rw [write, List.flatMap_cons]
  refine fun empty => absurd (List.append_eq_nil_iff.1 empty).1 ?_
  cases part with
  | blank => exact List.cons_ne_nil _ _
  | operator symbol => exact symbol.spelling_ne_nil
  | number other =>
      obtain ⟨c, text, shape, -⟩ := other.exists_text_cons known
      rw [Part.text, shape]
      exact List.cons_ne_nil _ _
  | place => exact some_

end Calculation

namespace Message

open Calculation (token shown)

/-- **Arithmetic sees numbers in its variables.**  In an expression over numbers, one
variable and the operators of arithmetic, a variable whose value is written as a number
without a sign stands for that number: the message shows what the expression evaluates to
when the name is bound to it, and nothing if that fails. -/
theorem render_formula {host : Host} (up : Collaborator.customs ∉ host.down) (settings : Settings)
    {context : Context} (unasked : context.given? = none) {name : List Char} (some_ : name ≠ [])
    (chars : ∀ c ∈ name, Text.isNameChar c = true) {numeral : Numeral} (number : numeral.Proper)
    {world : World}
    (set : world.variableValue (String.ofList ('$' :: '_' :: name)) = String.ofList numeral.text)
    {formula : List Part} (proper : Script.Formula.Proper formula) (nonempty : formula ≠ []) :
    host.run (render settings context (token (write ('$' :: '_' :: name) formula))) world =
      (shown (Script.numberIn
          ((Script.Scope.ofDialect .math).set (String.ofList ('$' :: '_' :: name)) numeral.value)
          (write ('$' :: '_' :: name) formula) (host.sources world.chances)),
        { world with chances := world.chances + 1 }) := by
  have stages : Pipeline.stages = Pipeline.stages.take 5 ++ (Pipeline.variableStage ::
      ((Pipeline.stages.drop 6).take 3 ++
        (Pipeline.arithmeticStage :: Pipeline.stages.drop 10))) := rfl
  have decoded := CharReference.decode_eq_self (Calculation.ampersand_not_mem_token
    (Calculation.not_mem_formula chars proper (.inr rfl)))
  have filled : write ('$' :: '_' :: name) (fill numeral formula) ≠ [] :=
    Calculation.write_ne_nil (List.cons_ne_nil _ _) (proper.fill number)
      (by simpa [fill] using nonempty)
  have step : ∀ (stage : Stage) (rest : List Stage) (text : List Char) (world : World),
      (runStages settings context (stage :: rest) text).run host.answer world =
        (runStages settings context rest
          ((runStage settings context text stage).run host.answer world).1).run host.answer
          ((runStage settings context text stage).run host.answer world).2 :=
    fun stage rest text world => Dialogue.run_foldlM_cons stage rest text world
  have parts : ∀ c ∈ '_' :: name, Script.isNamePart c = true := by
    have both : ∀ c, Text.isNameChar c = true → Script.isNamePart c = true := by
      intro c name
      rw [Script.isNamePart, ← Text.isNameChar, name, Bool.true_or]
    exact List.forall_mem_cons.2 ⟨by decide, fun c member => both c (chars c member)⟩
  have bound : (Script.number (write ('$' :: '_' :: name) (fill numeral formula))
        (host.sources world.chances)).toOption =
      (Script.numberIn
        ((Script.Scope.ofDialect .math).set (String.ofList ('$' :: '_' :: name)) numeral.value)
        (write ('$' :: '_' :: name) formula) (host.sources world.chances)).toOption :=
    Script.Formula.number_fill (by decide) parts (Calculation.wordValue_name _) proper number _
  rw [render, decoded, stages,
    runStages_append_of_ignores (Calculation.ignores_before chars proper some_), Host.run, step,
    Calculation.runStage_variables up unasked some_ chars number set proper,
    runStages_append_of_ignores (Calculation.ignores_between proper number _), step,
    Calculation.runStage_arithmetic filled fun c => Calculation.isFormulaChar_fill proper number,
    runStages_of_ignores fun stage late =>
      Calculation.ignores_shown _ (List.mem_of_mem_drop late),
    Calculation.shown_congr bound]
  rfl

/-- A message of one formula, rendered where `$_v` has a value. -/
def renderedWith (value : String) (text : List Char) : List Char :=
  let host : Host := { sources := fun _ => { rolls := id } }
  (host.run (render {} {} text) { customs := ⟨[("$_v", { value })]⟩ }).1

/-- `2 * $_v + 1` with three for the variable. -/
theorem three_is_doubled :
    let formula : List Part :=
      [ .number ⟨['2'], [], [], []⟩, .operator .star, .place, .operator .plus,
        .number ⟨['1'], [], [], []⟩ ]
    (Script.Formula.Proper formula ∧ formula ≠ [] ∧ Numeral.Proper ⟨['3'], [], [], []⟩) ∧
      renderedWith "3" "(math.2*$_v+1)".toList =
        (Script.formatNumber (Script.Value.int 7).toFloat).toList := by
  intro formula
  have proper : Script.Formula.Proper formula := by decide
  have number : Numeral.Proper ⟨['3'], [], [], []⟩ := by decide
  let host : Host := { sources := fun _ => { rolls := id } }
  let world : World := { customs := ⟨[("$_v", { value := "3" })]⟩ }
  have up : Collaborator.customs ∉ host.down := List.not_mem_nil
  have unasked : ({} : Context).given? = none := rfl
  have some_ : ['v'] ≠ [] := by decide
  have chars : ∀ c ∈ ['v'], Text.isNameChar c = true := List.forall_mem_singleton.2 (by decide)
  have set : world.variableValue (String.ofList ['$', '_', 'v']) =
      String.ofList (Numeral.text ⟨['3'], [], [], []⟩) := by decide
  have nonempty : formula ≠ [] := by decide
  have rendered := render_formula up {} unasked some_ chars number set proper nonempty
  have text : token (write ['$', '_', 'v'] formula) = "(math.2*$_v+1)".toList := by decide
  refine ⟨⟨proper, nonempty, number⟩, ?_⟩
  rw [text] at rendered
  rw [renderedWith, rendered]
  rfl

/-- The number that a value stands for, zero if it is none. -/
def numberOf (value : String) : Float :=
  match Decimal.read? value.toList with
  | some x => if Decimal.isFinite x then x else 0
  | none => 0

/-- The text of a value becomes part of the expression: a word is looked up and not
counted as zero, digits of another base are read as such, and what is raised to a power
is the value without its sign. -/
theorem values_are_read_with_the_expression :
    renderedWith "abc" "(math.$_v)".toList = [] ∧
      Decimal.read? "0x10".toList = none ∧
      Script.lex "0x10".toList = [.int 16, .eof] ∧
      Script.parse .math (Script.lex "-3^2".toList) =
        .ok (.unary .neg (.binary .pow (.literal (.int 3)) (.literal (.int 2)))) ∧
      ¬ ∀ value formula, value ≠ "" →
        value.toList.all (fun c => !(Text.isBlank c || "$()&".toList.contains c)) →
        Script.Formula.Proper formula → formula ≠ [] →
        renderedWith value (token (write "$_v".toList formula)) =
          shown (Script.numberIn
            ((Script.Scope.ofDialect .math).set "$_v" (.float (numberOf value)))
            (write "$_v".toList formula) { rolls := id }) := by
  have word : renderedWith "abc" "(math.$_v)".toList = [] := by decide +kernel
  refine ⟨word, rfl, by decide +kernel, rfl, fun all => ?_⟩
  have claimed := all "abc" [.place] (by decide) (by decide) (by decide) (by decide)
  have text : token (write "$_v".toList [.place]) = "(math.$_v)".toList := by decide +kernel
  have zero : Script.numberIn
      ((Script.Scope.ofDialect .math).set "$_v" (.float (numberOf "abc")))
      (write "$_v".toList [.place]) { rolls := id } = .ok (numberOf "abc") := rfl
  rw [text, word, zero] at claimed
  exact Script.formatNumber_ne_nil _ claimed.symm

end Message

end ChatTemplate
