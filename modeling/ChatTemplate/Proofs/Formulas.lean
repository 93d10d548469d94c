/-
# ChatTemplate.Proofs.Formulas -- arithmetic with a variable

A formula is written from numbers, operators and blanks, and from one name wherever its
variable stands (`Part`).  Neither two operands touch in it nor two stars, so that where
a part ends is seen from the next one.

Main statement: `Formula.lex_write`, the tokens of a formula are those of its parts.
-/
import Mathlib.Data.List.Chain
import ChatTemplate.Proofs.Lexing

namespace ChatTemplate.Script

set_option autoImplicit false

/-! ## Formulas -/

/-- The operators of arithmetic. -/
def operators : List Symbol :=
  [.plus, .minus, .star, .starStar, .slash, .percent, .caret]

/-- **What a formula is written from.** -/
inductive Part where
  | blank
  | operator (symbol : Symbol)
  | number (numeral : Numeral)
  /-- The place of the variable. -/
  | place
  deriving DecidableEq

namespace Part

def Proper : Part → Prop
  | .operator symbol => symbol ∈ operators
  | .number numeral => numeral.Proper
  | _ => True

instance (part : Part) : Decidable part.Proper :=
  match part with
  | .operator symbol => inferInstanceAs (Decidable (symbol ∈ operators))
  | .number numeral => inferInstanceAs (Decidable numeral.Proper)
  | .blank => isTrue trivial
  | .place => isTrue trivial

def isOperand : Part → Bool
  | .number _ => true
  | .place => true
  | _ => false

def isStarred : Part → Bool
  | .operator symbol => symbol == .star || symbol == .starStar
  | _ => false

/-- A part can stand right before another. -/
def Parted (part next : Part) : Prop :=
  ¬ (part.isOperand ∧ next.isOperand) ∧ ¬ (part.isStarred ∧ next.isStarred)

instance (part next : Part) : Decidable (part.Parted next) :=
  inferInstanceAs (Decidable (_ ∧ _))

/-- How a part is written with a name for the variable. -/
def text (name : List Char) : Part → List Char
  | .blank => [' ']
  | .operator symbol => symbol.spelling.toList
  | .number numeral => numeral.text
  | .place => name

def tokens (name : List Char) : Part → List Token
  | .blank => []
  | .operator symbol => [.sym symbol]
  | .number numeral => [numeral.token]
  | .place => [.name (String.ofList name)]

/-- A part with a number in the place of the variable. -/
def fill (numeral : Numeral) : Part → Part
  | .place => .number numeral
  | part => part

end Part

namespace Formula

/-- **A formula**: neither two operands nor two stars touch. -/
structure Proper (formula : List Part) : Prop where
  parts : ∀ part ∈ formula, part.Proper
  parted : formula.IsChain Part.Parted

instance (formula : List Part) : Decidable (Proper formula) :=
  decidable_of_iff ((∀ part ∈ formula, part.Proper) ∧ formula.IsChain Part.Parted)
    ⟨fun ⟨parts, parted⟩ => ⟨parts, parted⟩, fun proper => ⟨proper.parts, proper.parted⟩⟩

def write (name : List Char) (formula : List Part) : List Char :=
  formula.flatMap (Part.text name)

def tokens (name : List Char) (formula : List Part) : List Token :=
  formula.flatMap (Part.tokens name)

def fill (numeral : Numeral) (formula : List Part) : List Part :=
  formula.map (Part.fill numeral)

theorem Proper.tail {part : Part} {formula : List Part} (proper : Proper (part :: formula)) :
    Proper formula :=
  ⟨fun other member => proper.parts other (List.mem_cons_of_mem part member), proper.parted.tail⟩

/-- A number can stand wherever the variable can. -/
theorem Proper.fill {formula : List Part} (proper : Proper formula) {numeral : Numeral}
    (number : numeral.Proper) : Proper (fill numeral formula) := by
  have operand : ∀ part, (Part.fill numeral part).isOperand = part.isOperand ∧
      (Part.fill numeral part).isStarred = part.isStarred := by
    intro part
    cases part <;> exact ⟨rfl, rfl⟩
  refine ⟨fun filled member => ?_, ?_⟩
  · obtain ⟨part, inFormula, rfl⟩ := List.mem_map.1 member
    cases part with
    | place => exact number
    | _ => exact proper.parts _ inFormula
  · refine List.isChain_map_of_isChain _ (fun part next parted => ?_) proper.parted
    rw [Part.Parted, (operand part).1, (operand part).2, (operand next).1, (operand next).2]
    exact parted

/-! ## The tokens of a formula -/

/-- What goes on with an operator is an equals sign, or a star behind a star. -/
theorem goesOn_operator {symbol : Symbol} (known : symbol ∈ operators) {c : Char}
    (goesOn : symbol.GoesOn c) : c = '=' ∨ symbol = .star ∧ c = '*' := by
  have all : ∀ symbol ∈ operators, ∀ other ∈ Symbol.all,
      symbol.spelling.toList <+: other.spelling.toList →
        let next := (other.spelling.toList.drop symbol.spelling.toList.length).head?
        next = none ∨ next = some '=' ∨ symbol = .star ∧ next = some '*' := by
    decide
  rcases goesOn with ⟨other, listed, more, spelled⟩ | ⟨rfl, -⟩
  · rw [List.append_assoc, List.singleton_append] at spelled
    have next := all symbol known other listed ⟨_, spelled⟩
    rw [← spelled, List.drop_left] at next
    simpa using next
  · exact absurd known (by decide)

/-- An operator is spelled as it is, where it is not the beginning of a longer one. -/
theorem lex_operator {symbol : Symbol} (known : symbol ∈ operators) {rest : List Char}
    (equals : rest.head? ≠ some '=') (star : symbol = .star → rest.head? ≠ some '*') :
    lex (symbol.spelling.toList ++ rest) = .sym symbol :: lex rest := by
  refine lex_symbol fun c first goesOn => ?_
  rcases goesOn_operator known goesOn with rfl | ⟨rfl, rfl⟩
  · exact equals first
  · exact star rfl first

variable {c : Char} {name : List Char} {formula : List Part}

/-- Behind an operand there is nothing that goes on with it. -/
theorem ends_operand {part : Part} (proper : Proper (part :: formula))
    (operand : part.isOperand = true) (name : List Char) :
    (write name formula).head?.any goesOn = false := by
  cases formula with
  | nil => rfl
  | cons next formula =>
      have parted := (List.isChain_cons_cons.1 proper.parted).1.1
      have known := proper.parts next (by simp)
      cases next with
      | blank => rfl
      | operator symbol =>
          simp only [Part.Proper, operators, List.mem_cons, List.not_mem_nil, or_false] at known
          rcases known with rfl | rfl | rfl | rfl | rfl | rfl | rfl <;> rfl
      | number numeral => exact absurd ⟨operand, rfl⟩ parted
      | place => exact absurd ⟨operand, rfl⟩ parted

/-- Behind an operator there is nothing that makes it a longer one. -/
theorem ends_operator (name : List Char) {symbol : Symbol}
    (proper : Proper (.operator symbol :: formula)) (start : isNameStart c = true) :
    (write (c :: name) formula).head? ≠ some '=' ∧
      (symbol = .star → (write (c :: name) formula).head? ≠ some '*') := by
  cases formula with
  | nil => exact ⟨nofun, nofun⟩
  | cons next formula =>
      have parted := (List.isChain_cons_cons.1 proper.parted).1.2
      have known := proper.parts next (by simp)
      cases next with
      | blank => exact ⟨nofun, nofun⟩
      | operator other =>
          have heads : ∀ symbol ∈ operators, symbol.spelling.toList.head? ≠ some '=' ∧
              ((Part.operator symbol).isStarred = false →
                symbol.spelling.toList.head? ≠ some '*') := by
            decide
          have first : (write (c :: name) (.operator other :: formula)).head? =
              other.spelling.toList.head? := by
            cases other <;> rfl
          rw [first]
          refine ⟨(heads other known).1, ?_⟩
          rintro rfl
          exact (heads other known).2 (Bool.eq_false_iff.2 fun starred => parted ⟨rfl, starred⟩)
      | number numeral =>
          obtain ⟨d, text, spelled, begins⟩ := numeral.exists_text_cons known
          have first : (write (c :: name) (.number numeral :: formula)).head? = some d := by
            rw [write, List.flatMap_cons, Part.text, spelled]
            rfl
          rw [first]
          refine ⟨?_, fun _ => ?_⟩ <;>
            · intro same
              obtain rfl := Option.some.inj same
              nomatch begins
      | place =>
          refine ⟨?_, fun _ => ?_⟩ <;>
            · intro same
              obtain rfl := Option.some.inj same
              exact absurd start (by decide)

/-- **The tokens of a formula are those of its parts.** -/
theorem lex_write (start : isNameStart c = true) (parts : ∀ d ∈ name, isNamePart d = true)
    (proper : Proper formula) :
    lex (write (c :: name) formula) = tokens (c :: name) formula ++ [.eof] := by
  induction formula with
  | nil => rfl
  | cons part formula ih =>
      have rest := ih proper.tail
      rw [write, List.flatMap_cons, ← write, tokens, List.flatMap_cons, ← tokens,
        List.append_assoc, ← rest]
      cases part with
      | blank => exact lex_blank rfl _
      | operator symbol =>
          obtain ⟨equals, star⟩ := ends_operator name proper start
          exact lex_operator (proper.parts _ List.mem_cons_self) equals star
      | number numeral =>
          exact numeral.spells (proper.parts _ List.mem_cons_self) _ (ends_operand proper rfl _)
      | place => exact spells_name start parts _ (ends_operand proper rfl _)

end Formula

end ChatTemplate.Script
