/-
# ChatTemplate.Proofs.AttributeOrder -- attributes in any order

The attributes of a context are replaced one after the other, each in the whole text that
those before it have left.  That is the same as replacing all of them at once (`Replaced`)
when neither keys nor values can be mistaken for one another (`Unambiguous`): a key that
stands in the text still stands there after other keys have been replaced, and no value
makes a key that did not stand there before.

`Replaced` does not depend on the order of the attributes, and one attribute takes a text
with all keys to one with all others (`Replaced.applyAttribute`).

Main statement: `attributes_replaced_at_once`.
-/
import ChatTemplate.Message.Render
import ChatTemplate.Proofs.Occurrence
import Mathlib.Data.List.Infix

namespace ChatTemplate.Message

set_option autoImplicit false

variable {entries others : List (String × String)} {entry : String × String}
  {text result : List Char}

/-! ## Keys in a text -/

/-- **Attributes that cannot be mistaken**: no key begins another one, and a `$` stands
neither in a key nor in a text that is put in place of one. -/
structure Unambiguous (entries : List (String × String)) : Prop where
  apart : entries.Pairwise fun one other =>
    ¬ one.1.toList <+: other.1.toList ∧ ¬ other.1.toList <+: one.1.toList
  keys : ∀ entry ∈ entries, '$' ∉ entry.1.toList
  values : ∀ entry ∈ entries, '$' ∉ entry.2.toList

instance (entries : List (String × String)) : Decidable (Unambiguous entries) :=
  decidable_of_iff (_ ∧ _ ∧ _)
    ⟨fun ⟨apart, keys, values⟩ => ⟨apart, keys, values⟩,
      fun ⟨apart, keys, values⟩ => ⟨apart, keys, values⟩⟩

theorem Unambiguous.tail (unambiguous : Unambiguous (entry :: entries)) : Unambiguous entries :=
  ⟨unambiguous.apart.tail, fun other member => unambiguous.keys other (.tail _ member),
    fun other member => unambiguous.values other (.tail _ member)⟩

theorem Unambiguous.perm (unambiguous : Unambiguous entries) (order : others.Perm entries) :
    Unambiguous others where
  apart := (order.pairwise_iff fun ⟨one, other⟩ => ⟨other, one⟩).2 unambiguous.apart
  keys other member := unambiguous.keys other (order.mem_iff.1 member)
  values other member := unambiguous.values other (order.mem_iff.1 member)

/-- **Every `$` of a text begins a key.** -/
def Keyed (entries : List (String × String)) (text : List Char) : Prop :=
  ∀ after, '$' :: after <:+ text → ∃ entry ∈ entries, entry.1.toList <+: after

instance (entries : List (String × String)) (text : List Char) : Decidable (Keyed entries text) :=
  decidable_of_iff
    (∀ rest ∈ text.tails, rest.head? = some '$' →
      ∃ entry ∈ entries, entry.1.toList <+: rest.tail) <| by
    constructor
    · intro every after ends
      exact every _ ((List.mem_tails _ _).2 ends) rfl
    · intro keyed rest member marked
      obtain ⟨after, rfl⟩ := List.head?_eq_some_iff.1 marked
      exact keyed after ((List.mem_tails _ _).1 member)

theorem Keyed.suffix {rest : List Char} (keyed : Keyed entries text) (ends : rest <:+ text) :
    Keyed entries rest :=
  fun after later => keyed after (later.trans ends)

/-! ## All keys at once -/

/-- **What a text becomes when all keys in it are replaced at once**: every `$key` by the
value of its own key, and nothing else. -/
inductive Replaced (entries : List (String × String)) : List Char → List Char → Prop
  | done : Replaced entries [] []
  | kept {c : Char} {text result : List Char} (other : c ≠ '$')
      (rest : Replaced entries text result) : Replaced entries (c :: text) (c :: result)
  | key {entry : String × String} {text result : List Char} (known : entry ∈ entries)
      (rest : Replaced entries text result) :
      Replaced entries ('$' :: (entry.1.toList ++ text)) (entry.2.toList ++ result)

/-- A text in which every `$` begins a key can be replaced. -/
theorem Keyed.exists_replaced (keyed : Keyed entries text) :
    ∃ result, Replaced entries text result := by
  -- on the length, since a key takes several characters at once
  induction size : text.length using Nat.strong_induction_on generalizing text with
  | _ n ih =>
      subst size
      cases text with
      | nil => exact ⟨[], .done⟩
      | cons c text =>
          by_cases marked : c = '$'
          · subst marked
            obtain ⟨entry, known, rest, rfl⟩ := keyed text List.suffix_rfl
            have ends : rest <:+ '$' :: (entry.1.toList ++ rest) :=
              (List.suffix_append _ _).trans (List.suffix_cons _ _)
            have shorter : rest.length < ('$' :: (entry.1.toList ++ rest)).length := by
              rw [List.length_cons, List.length_append]
              omega
            obtain ⟨result, replaced⟩ := ih _ shorter (keyed.suffix ends) rfl
            exact ⟨_, .key known replaced⟩
          · obtain ⟨result, replaced⟩ :=
              ih _ (Nat.lt_succ_self _) (keyed.suffix (List.suffix_cons c text)) rfl
            exact ⟨_, .kept marked replaced⟩

namespace Replaced

/-- It matters which attributes there are, and not how they are ordered. -/
theorem perm (replaced : Replaced entries text result) (order : others.Perm entries) :
    Replaced others text result := by
  induction replaced with
  | done => exact .done
  | kept other _ ih => exact .kept other ih
  | key known _ ih => exact .key (order.mem_iff.2 known) ih

/-- Text without a `$` is kept. -/
theorem append {gap : List Char} (plain : '$' ∉ gap) (replaced : Replaced entries text result) :
    Replaced entries (gap ++ text) (gap ++ result) := by
  induction gap with
  | nil => exact replaced
  | cons c gap ih =>
      rw [List.mem_cons, not_or] at plain
      exact .kept (Ne.symm plain.1) (ih plain.2)

theorem eq_of_nil (replaced : Replaced [] text result) : text = result := by
  induction replaced with
  | done => rfl
  | kept _ _ ih => rw [ih]
  | key known => cases known

/-! ## One key after the other -/

/-- **One attribute leaves the keys of all others**, and nothing new that could be
replaced. -/
theorem applyAttribute (replaced : Replaced (entry :: entries) text result)
    (unambiguous : Unambiguous (entry :: entries)) :
    Replaced entries (applyAttribute text entry) result := by
  unfold Message.applyAttribute
  induction replaced with
  | done => rw [Text.replaceAll_nil]; exact .done
  | @kept c text result other _ ih =>
      have absent : ¬ '$' :: entry.1.toList <+: c :: text := fun stands =>
        other (List.cons_prefix_cons.1 stands).1.symm
      rw [Text.replaceAll_cons absent]
      exact .kept other ih
  | @key found text result known _ ih =>
      rcases List.mem_cons.1 known with rfl | among
      · rw [← List.cons_append, Text.replaceAll_append (List.cons_ne_nil _ _)]
        exact ih.append (unambiguous.values found List.mem_cons_self)
      · -- neither key begins the other, and there is no `$` within the one that stands here
        obtain ⟨notBefore, notBehind⟩ := (List.pairwise_cons.1 unambiguous.apart).1 found among
        have absent : ¬ '$' :: entry.1.toList <+: '$' :: (found.1.toList ++ text) := fun stands =>
          (List.prefix_or_prefix_of_prefix (List.cons_prefix_cons.1 stands).2
            (List.prefix_append _ _)).elim notBefore notBehind
        rw [Text.replaceAll_cons absent,
          Text.replaceAll_skip_of_not_mem (unambiguous.keys found known)]
        exact .key among ih

/-- **Replacing one key after the other replaces all at once.** -/
theorem foldl_eq (replaced : Replaced entries text result) (unambiguous : Unambiguous entries) :
    entries.foldl Message.applyAttribute text = result := by
  induction entries generalizing text with
  | nil => exact replaced.eq_of_nil
  | cons entry entries ih =>
      rw [List.foldl_cons]
      exact ih (replaced.applyAttribute unambiguous) unambiguous.tail

end Replaced

/-- **The attributes of a context are replaced at once, in whatever order they come.**  When
they cannot be mistaken, and every `$` of a text begins one of their keys, the text becomes
what it is when every `$key` is replaced by the value of its own key, and nothing else; so
it does in any order of all keys, and so in any order of those that the context brings. -/
theorem attributes_replaced_at_once (settings : Settings) (context : Context) (text : List Char)
    (unambiguous : Unambiguous (attributes settings context))
    (keyed : Keyed (attributes settings context) text) :
    (∀ result, Replaced (attributes settings context) text result ↔
        result = applyAttributes settings context text) ∧
      (∀ order : List (String × String), order.Perm (attributes settings context) →
        order.foldl applyAttribute text = applyAttributes settings context text) ∧
      ∀ others : List (String × String), others.Perm context.attributes →
        applyAttributes settings { context with attributes := others } text =
          applyAttributes settings context text := by
  obtain ⟨result, replaced⟩ := keyed.exists_replaced
  have becomes : applyAttributes settings context text = result := replaced.foldl_eq unambiguous
  have ordered : ∀ order : List (String × String), order.Perm (attributes settings context) →
      order.foldl applyAttribute text = result := fun order same =>
    (replaced.perm same).foldl_eq (unambiguous.perm same)
  rw [becomes]
  refine ⟨fun other => ⟨fun also => ?_, fun same => same ▸ replaced⟩, ordered, ?_⟩
  · rw [← also.foldl_eq unambiguous]
    exact becomes
  · intro others same
    exact ordered _ ((same.append_left _).cons _)

theorem target_is_hugged_in_any_order :
    let context : Context :=
      { sender := { name := "ann" }, command := some "!hi",
        attributes := [("target", "bob"), ("times", "2")] }
    let text := "$sender used $cmd on $target $timesx".toList
    Unambiguous (attributes {} context) ∧ Keyed (attributes {} context) text ∧
      applyAttributes {} { context with attributes := [("times", "2"), ("target", "bob")] } text =
        "@ann used !hi on bob 2x".toList := by
  intro context text
  have unambiguous : Unambiguous (attributes {} context) := by decide
  have keyed : Keyed (attributes {} context) text := by decide
  obtain ⟨-, -, any⟩ := attributes_replaced_at_once {} context text unambiguous keyed
  refine ⟨unambiguous, keyed, ?_⟩
  rw [any _ (List.Perm.swap _ _ _)]
  decide

end ChatTemplate.Message
