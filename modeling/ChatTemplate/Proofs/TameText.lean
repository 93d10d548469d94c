/-
# ChatTemplate.Proofs.TameText -- parentheses that open nothing unforeseen

Taking a token out of a text brings together what stood on either side of it, and
two harmless halves can make a command.  This cannot happen behind a parenthesis
that is followed by a character with which no token begins and at which none is
cut: it stays there.  `Sealed` says so of every parenthesis of a text, and
replacing tokens by texts without parentheses keeps it so (`Tame.replaceFirst`,
`Tame.replaceAll`).

A mark is `Tame` in a text that lacks it or, for the parenthesis, in which every
one is sealed; either way no command begins there (`Tame.no_command`).
-/
import ChatTemplate.Proofs.TokenMark
import Mathlib.Data.List.Chain

namespace ChatTemplate

set_option autoImplicit false

variable {c : Char} {text tail : List Char}

namespace Text

/-! ## Sealed parentheses -/

/-- **What stays behind a parenthesis**: a character that begins no token (`(`, `$`),
no command (`!`) and no script (`e`), and at which no token is cut (`|`, `)`). -/
def Solid (d : Char) : Prop :=
  d ∉ ['(', '!', '$', '|', ')', 'e']

instance (d : Char) : Decidable (Solid d) :=
  inferInstanceAs (Decidable (d ∉ _))

/-- **Every parenthesis that is not the last character is followed by a solid one.** -/
def Sealed (text : List Char) : Prop :=
  text.IsChain fun d next => d = '(' → Solid next

instance (text : List Char) : Decidable (Sealed text) :=
  inferInstanceAs (Decidable (List.IsChain _ _))

/-- Whether a text begins with a character that is not solid, as tokens do. -/
def Opens (pat : List Char) : Prop :=
  ∃ d ∈ pat.head?, ¬ Solid d

theorem opens_cons {d : Char} (pat : List Char) (open_ : ¬ Solid d) : Opens (d :: pat) :=
  ⟨d, rfl, open_⟩

theorem Opens.append {pat : List Char} (opens : Opens pat) (rest : List Char) :
    Opens (pat ++ rest) := by
  obtain ⟨d, first, open_⟩ := opens
  exact ⟨d, by simp [List.head?_append, Option.mem_def.1 first], open_⟩

theorem sealed_of_not_mem (absent : '(' ∉ text) : Sealed text := by
  induction text with
  | nil => exact .nil
  | cons d text ih =>
      rw [List.mem_cons, not_or] at absent
      exact (ih absent.2).cons fun next _ same => absurd same.symm absent.1

/-- A text that something not solid may follow does not end with a parenthesis. -/
theorem ne_paren_of_sealed {pat : List Char} (sealed : Sealed (text ++ pat)) (opens : Opens pat) :
    ∀ d ∈ text.getLast?, d ≠ '(' := by
  obtain ⟨next, first, open_⟩ := opens
  intro d last same
  exact open_ ((List.isChain_append.1 sealed).2.2 d last next first same)

theorem Sealed.append {rest : List Char} (sealed : Sealed text) (later : Sealed rest)
    (ends : ∀ d ∈ text.getLast?, d ≠ '(') : Sealed (text ++ rest) :=
  List.IsChain.append sealed later fun d last _ _ same => absurd same (ends d last)

/-- What may stand before the end of a token may stand before anything. -/
theorem Sealed.of_closed (closed : Sealed (text ++ [')'])) :
    Sealed text ∧ ∀ d ∈ text.getLast?, d ≠ '(' :=
  ⟨List.IsChain.left_of_append closed, ne_paren_of_sealed closed (opens_cons [] (by decide))⟩

/-- **Putting a value in place of a token keeps parentheses sealed.** -/
theorem Sealed.replace {before pat value after : List Char}
    (sealed : Sealed (before ++ (pat ++ after))) (opens : Opens pat)
    (closed : Sealed (value ++ [')'])) : Sealed (before ++ (value ++ after)) := by
  obtain ⟨inValue, ends⟩ := Sealed.of_closed closed
  have inRest : Sealed (pat ++ after) := List.IsChain.right_of_append sealed
  have inAfter : Sealed after := List.IsChain.right_of_append inRest
  exact Sealed.append (List.IsChain.left_of_append sealed) (inValue.append inAfter ends)
    (ne_paren_of_sealed sealed (opens.append after))

/-! ## Values in place of separators -/

/-- Values in place of every separator, behind any text and before any other. -/
theorem Sealed.join {pat value : List Char} (opens : Opens pat) (closed : Sealed (value ++ [')']))
    {pieces : List (List Char)} (before : List Char)
    (sealed : Sealed (before ++ (Text.join pat pieces ++ tail))) :
    Sealed (before ++ (Text.join value pieces ++ tail)) := by
  induction pieces generalizing before with
  | nil => exact sealed
  | cons piece pieces ih =>
      cases pieces with
      | nil => simpa [Text.join] using sealed
      | cons other pieces =>
          rw [join_cons_of_ne_nil _ (List.cons_ne_nil _ _)] at sealed ⊢
          have here : Sealed ((before ++ piece) ++
              (value ++ (Text.join pat (other :: pieces) ++ tail))) := by
            refine Sealed.replace ?_ opens closed
            simpa only [List.append_assoc] using sealed
          have later := ih (before ++ piece ++ value)
            (by simpa only [List.append_assoc] using here)
          simpa only [List.append_assoc] using later

/-- Every piece is followed by a separator or by the end. -/
theorem Sealed.closed_of_mem_pieces {pieces : List (List Char)}
    (sealed : Sealed (Text.join ['|'] pieces ++ [')'])) :
    ∀ piece ∈ pieces, Sealed (piece ++ [')']) := by
  induction pieces with
  | nil => exact List.forall_mem_nil _
  | cons piece pieces ih =>
      cases pieces with
      | nil => simpa [Text.join] using sealed
      | cons other pieces =>
          rw [join_cons_of_ne_nil _ (List.cons_ne_nil _ _), List.append_assoc, List.append_assoc]
            at sealed
          have later : Sealed (Text.join ['|'] (other :: pieces) ++ [')']) :=
            List.IsChain.right_of_append (List.IsChain.right_of_append sealed)
          have ends := ne_paren_of_sealed sealed (opens_cons _ (by decide))
          have here : Sealed (piece ++ [')']) :=
            Sealed.append (List.IsChain.left_of_append sealed) (.singleton _) ends
          exact List.forall_mem_cons.2 ⟨here, ih later⟩

end Text

/-! ## Tame marks -/

/-- **A mark opens nothing in a text that stands before another**: every parenthesis
is sealed, and any other mark is not there. -/
structure Tame (c : Char) (tail text : List Char) : Prop where
  sealed : c = '(' → Text.Sealed (text ++ tail)
  absent : c ≠ '(' → c ∉ text

/-- A mark opens nothing in a value, wherever the value is put. -/
abbrev Fits (c : Char) (value : List Char) : Prop :=
  Tame c [')'] value

theorem Fits.of_not_mem {value : List Char} (absent : c ∉ value) : Fits c value where
  sealed paren := Text.sealed_of_not_mem (by subst paren; simpa using absent)
  absent _ := absent

namespace Tame

theorem of_not_mem (absent : c ∉ text) : Tame c [] text where
  sealed paren := Text.sealed_of_not_mem (by subst paren; simpa using absent)
  absent _ := absent

theorem part {part : List Char} (tame : Tame c [] text) (inside : part <:+: text) :
    Tame c [] part where
  sealed paren := by
    obtain ⟨before, after, rfl⟩ := inside
    have whole := tame.sealed paren
    rw [List.append_nil] at whole ⊢
    exact (List.IsChain.left_of_append whole).right_of_append
  absent other member := tame.absent other (inside.subset member)

theorem trim (tame : Tame c [] text) : Tame c [] (Text.trim text) :=
  tame.part ((List.rdropWhile_prefix _ _).isInfix.trans (List.dropWhile_suffix _).isInfix)

theorem replaceFirst {pat value : List Char} (tame : Tame c tail text) (opens : Text.Opens pat)
    (fits : Fits c value) : Tame c tail (Text.replaceFirst pat value text) where
  sealed paren := by
    have whole := tame.sealed paren
    rw [Text.replaceFirst]
    split
    · next before after found =>
        rw [Text.eq_append_of_breakOn found] at whole
        simp only [List.append_assoc] at whole ⊢
        exact whole.replace opens (fits.sealed paren)
    · exact whole
  absent other := Text.not_mem_replaceFirst (fits.absent other) (tame.absent other)

theorem replaceAll {pat value : List Char} (tame : Tame c tail text) (opens : Text.Opens pat)
    (fits : Fits c value) : Tame c tail (Text.replaceAll pat value text) where
  sealed paren := by
    have some_ : pat ≠ [] := by
      rintro rfl
      obtain ⟨d, none, -⟩ := opens
      nomatch none
    refine Text.Sealed.join opens (fits.sealed paren) [] ?_
    rw [Text.join_splitOn some_]
    exact tame.sealed paren
  absent other := Text.not_mem_replaceAll (fits.absent other) (tame.absent other)

/-- A value in the parts of a token, which are cut at bars. -/
theorem fits_of_mem_splitOn (tame : Fits c text) :
    ∀ piece ∈ Text.splitOn ['|'] text, Fits c piece := fun piece member =>
  { sealed paren := by
      refine Text.Sealed.closed_of_mem_pieces ?_ piece member
      rw [Text.join_splitOn (List.cons_ne_nil _ _)]
      exact tame.sealed paren
    absent other := Text.not_mem_splitOn (tame.absent other) piece member }

/-- **No command begins** where its marks are tame. -/
theorem no_command (tame : Tame c [] text) (opens : c = '(' ∨ c = '!') :
    ¬ ['(', '!'] <:+: text := by
  intro found
  rcases opens with rfl | rfl
  · have here := (tame.part found).sealed rfl
    exact absurd here (by decide)
  · exact tame.absent (by decide) (found.subset (by simp))

end Tame

end ChatTemplate
