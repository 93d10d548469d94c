/-
# ChatTemplate.Proofs.RandomNumbers -- the numbers that a message can draw

A token `(random.number-A-to-B)` names two bounds, in either order.  They are cut out of the
token at the `-to-` between them, which a minus sign can stand on either side of
(`RandomPick.boundTexts_numberToken`), and read back as they were written.  The dice then give
any number from one bound to the other (`Dice.range_between`), also where the bounds are the
ends of the signed words, and the number is what the message shows.

Main statement: `Message.random_numbers_cover_their_range`.
-/
import ChatTemplate.Proofs.IntegerText
import ChatTemplate.Proofs.OneToken
import ChatTemplate.World.Host
import Mathlib.Data.Set.Image

namespace ChatTemplate

set_option autoImplicit false

/-! ## The dice -/

namespace Dice

theorem toInt_between (a b : Int64) (dice : Dice) :
    (dice.between a b).1.toInt = min a.toInt b.toInt +
      (dice.rolls dice.used % (max a.toInt b.toInt - min a.toInt b.toInt + 1).toNat : Nat) := by
  have bounds := And.intro (And.intro a.le_toInt a.toInt_lt) (And.intro b.le_toInt b.toInt_lt)
  have below := Nat.mod_lt (dice.rolls dice.used)
    (show 0 < (max a.toInt b.toInt - min a.toInt b.toInt + 1).toNat by omega)
  exact Int64.toInt_ofInt_of_le (by omega) (by omega)

/-- **Dice can give any number from one bound to the other**, and no others. -/
theorem range_between (a b : Int64) :
    Set.range (fun dice : Dice => (dice.between a b).1.toInt) =
      {n : Int | min a.toInt b.toInt ≤ n ∧ n ≤ max a.toInt b.toInt} := by
  ext n
  simp only [Set.mem_range, Set.mem_ofPred_eq, toInt_between]
  constructor
  · rintro ⟨dice, rfl⟩
    have below := Nat.mod_lt (dice.rolls dice.used)
      (show 0 < (max a.toInt b.toInt - min a.toInt b.toInt + 1).toNat by omega)
    omega
  · rintro ⟨low, high⟩
    refine ⟨{ rolls := fun _ => (n - min a.toInt b.toInt).toNat }, ?_⟩
    have roll : (n - min a.toInt b.toInt).toNat %
        (max a.toInt b.toInt - min a.toInt b.toInt + 1).toNat = (n - min a.toInt b.toInt).toNat :=
      Nat.mod_eq_of_lt (by omega)
    rw [roll]
    omega

end Dice

/-! ## The token -/

/-- What stands once in front is removed. -/
theorem Text.stripAll_append {pat rest : List Char} (some_ : pat ≠ []) (once : ¬ pat <+: rest) :
    stripAll pat (pat ++ rest) = rest := by
  have gone : ∀ n, stripAll.go pat n rest = rest := by
    intro n
    cases n with
    | zero => rfl
    | succ n => rw [stripAll.go, stripPrefix_eq_none once]
  obtain ⟨c, pat, rfl⟩ := List.exists_cons_of_ne_nil some_
  rw [stripAll, List.cons_append, List.length_cons, stripAll.go, ← List.cons_append,
    stripPrefix_append]
  exact gone _

/-- Characters of a template that are no wildcards stand for themselves. -/
theorem Wildcard.Fills.literal {wildcard : Wildcard} {template text : List Char}
    (rest : wildcard.Fills template text) {fixed : List Char}
    (plain : ∀ c ∈ fixed, c ≠ Template.mark) : wildcard.Fills (fixed ++ template) (fixed ++ text) := by
  induction fixed with
  | nil => exact rest
  | cons c fixed ih =>
      obtain ⟨here, later⟩ := List.forall_mem_cons.1 plain
      exact .fixed here (ih later)

namespace RandomPick

/-- The token for a number between two bounds. -/
def numberToken (a b : Int64) : List Char :=
  s!"(random.number-{a}-to-{b})".toList

def numberOpening : List Char :=
  "(random.number-".toList

/-- What stands between the bounds, in characters. -/
def numberMiddle : List Char :=
  ['-', 't', 'o', '-']

/-- Two bounds as they stand in a token. -/
def writtenBounds (a b : Int64) : List Char :=
  Text.writeInt a.toInt ++ (numberMiddle ++ Text.writeInt b.toInt)

theorem numberToken_eq (a b : Int64) :
    numberToken a b = numberOpening ++ writtenBounds a b ++ [')'] := by
  have first := Text.writeInt_eq_toString a.toInt
  have second := Text.writeInt_eq_toString b.toInt
  change ("(random.number-" ++ toString a.toInt ++ "-to-" ++ toString b.toInt ++ ")").toList = _
  unfold numberOpening writtenBounds
  rw [first, second]
  simp only [String.toList_append, List.append_assoc]
  rfl

/-- Bounds are digits, minus signs and the letters between them. -/
theorem not_mem_writtenBounds {c : Char} (other : c ∈ ['$', '(', ')', '&']) (a b : Int64) :
    c ∉ writtenBounds a b := by
  have apart : ∀ c ∈ ['$', '(', ')', '&'],
      (c ≠ '-' ∧ c.isDigit = false) ∧ c ∉ numberMiddle := by simp [numberMiddle, Char.isDigit]
  obtain ⟨noNumber, between⟩ := apart c other
  rw [writtenBounds, List.mem_append, List.mem_append, not_or, not_or]
  exact ⟨Text.not_mem_writeInt noNumber _, between, Text.not_mem_writeInt noNumber _⟩

/-- The bounds are cut apart where they were put together: `-to-` does not begin with the minus
sign of a number, since no number has a letter in it. -/
theorem breakOn_writtenBounds (a b : Int64) :
    Text.breakOn? "-to-".toList (writtenBounds a b) =
      some (Text.writeInt a.toInt, Text.writeInt b.toInt) := by
  have letter : 't' ∉ Text.writeInt a.toInt := Text.not_mem_writeInt (by decide) _
  change Text.breakOn? numberMiddle (writtenBounds a b) = _
  rw [writtenBounds, ← List.append_assoc]
  refine Text.breakOn_first (by decide) fun later suffix some_ stands => ?_
  cases later with
  | nil => exact some_ rfl
  | cons c later =>
      have rest : ['t', 'o', '-'] <+: later ++ numberMiddle ++ Text.writeInt b.toInt :=
        (List.cons_prefix_cons.1 stands).2
      cases later with
      | nil => exact absurd (List.cons_prefix_cons.1 rest).1 (by decide)
      | cons d later =>
          obtain rfl : 't' = d := (List.cons_prefix_cons.1 rest).1
          exact letter (suffix.subset (by simp))

/-- **The bounds of a token are the numbers that were written in it.** -/
theorem boundTexts_numberToken (a b : Int64) :
    boundTexts (numberToken a b) = [Text.writeInt a.toInt, Text.writeInt b.toInt] := by
  have opened : Text.stripAll numberOpening (numberToken a b) = writtenBounds a b ++ [')'] := by
    rw [numberToken_eq, List.append_assoc]
    refine Text.stripAll_append (by decide) fun stands => ?_
    have paren : '(' ∈ writtenBounds a b ++ [')'] := stands.subset (by decide)
    have absent : '(' ∉ writtenBounds a b := not_mem_writtenBounds (by decide) a b
    exact absent (by simpa using paren)
  have closed : (writtenBounds a b ++ [')']).rdropWhile (· == ')') = writtenBounds a b := by
    rw [List.rdropWhile_concat_pos _ _ _ rfl, List.rdropWhile_eq_self_iff]
    intro some_ last
    have absent : ')' ∉ writtenBounds a b := not_mem_writtenBounds (by decide) a b
    exact absent (eq_of_beq last ▸ List.getLast_mem some_)
  have body : ((Text.stripAll numberOpening (numberToken a b)).reverse.dropWhile
      (· == ')')).reverse = writtenBounds a b := by
    rw [opened]
    exact closed
  unfold numberOpening at body
  unfold boundTexts
  simp only [body, breakOn_writtenBounds]

/-- Whatever the argument is, it is not read: both bounds are numbers. -/
theorem number_numberToken (context : Context) (a b : Int64) :
    number context (numberToken a b) =
      Query.put .chance >>= fun dice => pure (Text.writeInt (dice.between a b).1.toInt) := by
  have read : bounds? context.argument.isSome (boundTexts (numberToken a b))
      (Text.splitOn [' '] context.argumentText.toList) = some [a, b] := by
    simp only [boundTexts_numberToken, bounds?, Text.leadingInt64_writeInt, Option.map_some]
  rw [number]
  simp only [read, Text.int64Text, String.toList_ofList]
  rfl

/-- Nothing that is looked for before a random number could begin like its token: the tokens of
random viewers, which stand in the same pass, do not go on with a number. -/
def numberPlace :
    Pipeline.Place (Pipeline.keyed "(random.number-#-to-#)" .randomNumber) numberOpening where
  early := Pipeline.stages.take 3
  name := "random"
  passed := Pipeline.randomRules.take 6
  left := [Pipeline.keyed "(random.true-or-false)" .trueOrFalse]
  later := Pipeline.stages.drop 4
  stages := rfl
  apart := by decide
  others := by decide
  decoded := by decide

theorem isInstance_numberToken (a b : Int64) :
    (Pipeline.keyed "(random.number-#-to-#)" Token.randomNumber).template.IsInstance
      (numberToken a b) := by
  have wildcard : ∀ n : Int, Wildcard.lazy.Admits (Text.writeInt n) := fun n =>
    ⟨Text.writeInt_ne_nil n, fun _ member => .inr (Text.isBlank_of_mem_writeInt member)⟩
  have closing : Wildcard.lazy.Fills [')'] [')'] := .fixed (by decide) .done
  have second := Wildcard.Fills.filled (wildcard b.toInt) closing
  have middle := second.literal (show ∀ c ∈ numberMiddle, c ≠ Template.mark by
    simp [numberMiddle, Template.mark])
  have first := Wildcard.Fills.filled (wildcard a.toInt) middle
  have unmarked : ∀ c ∈ numberOpening, c ≠ Template.mark := by
    intro c member
    have inStem : c ∈ (Pipeline.keyed "(random.number-#-to-#)" Token.randomNumber).template.stem :=
      member
    simpa using List.mem_takeWhile_imp inStem
  have opening := first.literal unmarked
  have text : numberToken a b = numberOpening ++ (Text.writeInt a.toInt ++
      (numberMiddle ++ (Text.writeInt b.toInt ++ [')']))) := by
    rw [numberToken_eq, List.append_assoc]
    unfold writtenBounds
    simp only [List.append_assoc]
  rw [text]
  exact opening

theorem matchLength_numberToken (a b : Int64) (previous : Option Char) :
    (Pipeline.keyed "(random.number-#-to-#)" Token.randomNumber).template.pattern.matchLength?
      previous (numberToken a b) = some (numberToken a b).length := by
  have filled := isInstance_numberToken a b
  have once : ')' ∉ numberOpening ++ writtenBounds a b := by
    rw [List.mem_append, not_or]
    exact ⟨by decide, not_mem_writtenBounds (by decide) a b⟩
  rw [numberToken_eq] at filled ⊢
  rw [List.length_append]
  exact Template.matchLength_closed (by decide) rfl (by decide) filled once previous

/-- Only the first character of the token begins one. -/
theorem plain_numberToken (a b : Int64) :
    BeginsNoToken (numberToken a b).tail ∧ '&' ∉ numberToken a b := by
  have bounds : BeginsNoToken (writtenBounds a b) :=
    ⟨not_mem_writtenBounds (by decide) a b, not_mem_writtenBounds (by decide) a b⟩
  have tail : (numberToken a b).tail = numberOpening.tail ++ (writtenBounds a b ++ [')']) := by
    rw [numberToken_eq, List.append_assoc]
    rfl
  constructor
  · rw [tail]
    exact .append (by decide) (bounds.append (by decide))
  · rw [numberToken_eq, List.mem_append, List.mem_append, not_or, not_or]
    exact ⟨⟨by decide, not_mem_writtenBounds (by decide) a b⟩, by decide⟩

end RandomPick

/-! ## The message -/

namespace Message

open RandomPick (numberToken)

/-- A message of one such token asks for chance and shows the number that it gives. -/
theorem render_numberToken (settings : Settings) (context : Context) (a b : Int64) :
    render settings context (numberToken a b) =
      Query.put .chance >>= fun dice => pure (Text.writeInt (dice.between a b).1.toInt) := by
  have opens : RandomPick.numberOpening <+: numberToken a b := by
    rw [RandomPick.numberToken_eq, List.append_assoc]
    exact List.prefix_append _ _
  have empty : BeginsNoToken [] ∧ '&' ∉ ([] : List Char) := by decide
  have matched := RandomPick.matchLength_numberToken a b
  have resolved : Chat.attempt (resolve settings context .randomNumber (numberToken a b)) =
      Query.put .chance >>= fun dice =>
        pure (.ok (Text.writeInt (dice.between a b).1.toInt)) := by
    rw [resolve, RandomPick.number_numberToken]
    rfl
  have plain : ∀ n, BeginsNoToken (Text.writeInt n) := fun n =>
    ⟨Text.not_mem_writeInt (by decide) n, Text.not_mem_writeInt (by decide) n⟩
  have rendered := render_of_one_token RandomPick.numberPlace opens rfl
    (RandomPick.plain_numberToken a b) empty empty
    (by simpa only [List.append_nil] using matched) resolved (fun _ => Text.writeInt_ne_nil _)
    fun _ => plain _
  simpa only [List.nil_append, List.append_nil, Text.trim_writeInt] using rendered

/-- **Random numbers cover exactly their range**: whoever is asking and whatever the world, the
results of a token are the numbers from the smaller bound to the larger, both included. -/
theorem random_numbers_cover_their_range (settings : Settings) (context : Context)
    (down : List Collaborator) (world : World) (a b : Int64) :
    Set.range (fun sources : Nat → Dice =>
        (({ down, sources } : Host).run (render settings context (numberToken a b)) world).1) =
      (fun n : Int => (toString n).toList) ''
        {n : Int | min a.toInt b.toInt ≤ n ∧ n ≤ max a.toInt b.toInt} := by
  have drawn : ∀ sources : Nat → Dice,
      (({ down, sources } : Host).run (render settings context (numberToken a b)) world).1 =
        (toString ((sources world.chances).between a b).1.toInt).toList := by
    intro sources
    rw [render_numberToken]
    exact Text.writeInt_eq_toString ((sources world.chances).between a b).1.toInt
  rw [← Dice.range_between]
  ext shown
  constructor
  · rintro ⟨sources, rfl⟩
    exact ⟨_, ⟨sources world.chances, rfl⟩, (drawn sources).symm⟩
  · rintro ⟨-, ⟨dice, rfl⟩, rfl⟩
    exact ⟨fun _ => dice, drawn fun _ => dice⟩

end Message

end ChatTemplate
