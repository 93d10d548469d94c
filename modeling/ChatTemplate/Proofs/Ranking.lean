/-
# ChatTemplate.Proofs.Ranking -- items in the order of their keys

Ranking inserts one item after the other, each behind the last of those that it need not come
before.  What comes out is always a permutation of the items (`rank_perm`).  It is in order when
"comes before" is "has the larger key" for some keys in a line (`rank_sorted`): only then an item
that stops an insertion vouches for all those in front of it.  The first item of such a list has
the largest key (`IsSorted.le_of_head`).
-/
import ChatTemplate.Message.Information
import Mathlib.Data.List.DropRight
import Mathlib.Data.List.Induction
import Mathlib.Data.List.Pairwise
import Mathlib.Order.Lattice

namespace ChatTemplate.Information

set_option autoImplicit false

variable {α κ : Type} {comesBefore : α → α → Bool} {ranked items : List α} {item : α}

/-! ## Permutations -/

theorem insertRanked_eq (comesBefore : α → α → Bool) (ranked : List α) (item : α) :
    insertRanked comesBefore ranked item =
      ranked.rdropWhile (comesBefore item) ++ item :: ranked.rtakeWhile (comesBefore item) :=
  rfl

theorem insertRanked_perm (comesBefore : α → α → Bool) (ranked : List α) (item : α) :
    (insertRanked comesBefore ranked item).Perm (item :: ranked) := by
  rw [insertRanked_eq]
  refine List.perm_middle.trans (.cons item ?_)
  rw [List.rdropWhile_append_rtakeWhile]

theorem rank_concat (comesBefore : α → α → Bool) (items : List α) (item : α) :
    rank comesBefore (items ++ [item]) =
      insertRanked comesBefore (rank comesBefore items) item := by
  rw [rank, List.foldl_append]
  rfl

/-- Ranking loses nothing and adds nothing. -/
theorem rank_perm (comesBefore : α → α → Bool) (items : List α) :
    (rank comesBefore items).Perm items := by
  induction items using List.reverseRecOn with
  | nil => exact .nil
  | append_singleton items item ih =>
      rw [rank_concat]
      have added := (insertRanked_perm comesBefore _ item).trans (ih.cons item)
      exact added.trans (List.perm_append_singleton item items).symm

/-! ## Order -/

/-- The items of a list stand in the order of their keys, the largest first. -/
def IsSorted [LinearOrder κ] (key : α → κ) (items : List α) : Prop :=
  items.Pairwise fun a b => key b ≤ key a

variable [LinearOrder κ] {key : α → κ}

/-- **Inserting an item leaves items in order** if it comes before those with a smaller key. -/
theorem IsSorted.insertRanked (sorted : IsSorted key ranked)
    (larger : ∀ other ∈ ranked, comesBefore item other = true ↔ key other < key item) :
    IsSorted key (insertRanked comesBefore ranked item) := by
  rw [insertRanked_eq]
  have whole := List.rdropWhile_append_rtakeWhile (p := comesBefore item) (l := ranked)
  have passed : ∀ other ∈ ranked.rtakeWhile (comesBefore item), key other < key item :=
    fun other behind => (larger other ((List.rtakeWhile_suffix _ _).subset behind)).1
      (List.mem_rtakeWhile_imp behind)
  have stopped := fun some_ => List.rdropWhile_last_not (comesBefore item) ranked some_
  have inside := (List.rdropWhile_prefix (comesBefore item) (l := ranked)).subset
  generalize ranked.rdropWhile (comesBefore item) = front at whole stopped inside ⊢
  generalize ranked.rtakeWhile (comesBefore item) = behind at whole passed ⊢
  rw [IsSorted, ← whole, List.pairwise_append] at sorted
  obtain ⟨in_front, in_back, across⟩ := sorted
  refine List.pairwise_append.2 ⟨in_front, List.pairwise_cons.2
    ⟨fun other among => (passed other among).le, in_back⟩, fun first among other among' => ?_⟩
  rcases List.mem_cons.1 among' with rfl | among'
  · -- what stopped the item vouches for all the others in front
    have some_ := List.ne_nil_of_mem among
    have enough : key other ≤ key (front.getLast some_) :=
      not_lt.1 (mt (larger _ (inside (List.getLast_mem some_))).2 (stopped some_))
    exact enough.trans (in_front.rel_getLast_of_rel_getLast_getLast among le_rfl)
  · exact across first among other among'

/-- **Ranked items are in order** if those come before others that have the larger keys. -/
theorem rank_sorted
    (larger : ∀ a ∈ items, ∀ b ∈ items, comesBefore a b = true ↔ key b < key a) :
    IsSorted key (rank comesBefore items) := by
  induction items using List.reverseRecOn with
  | nil => exact .nil
  | append_singleton items item ih =>
      rw [rank_concat]
      have sorted : IsSorted key (rank comesBefore items) := ih fun a among b among' =>
        larger a (List.mem_append_left _ among) b (List.mem_append_left _ among')
      refine sorted.insertRanked fun other among => larger item (by simp) other ?_
      exact List.mem_append_left _ ((rank_perm _ _).subset among)

theorem IsSorted.filter (sorted : IsSorted key items) (keep : α → Bool) :
    IsSorted key (items.filter keep) :=
  List.Pairwise.filter keep sorted

/-- No key is larger than that of the first item. -/
theorem IsSorted.le_of_head {best other : α} (sorted : IsSorted key items)
    (first : items.head? = some best) (among : other ∈ items) : key other ≤ key best := by
  obtain ⟨others, rfl⟩ := List.head?_eq_some_iff.1 first
  rcases List.mem_cons.1 among with rfl | behind
  · exact le_rfl
  · exact (List.pairwise_cons.1 sorted).1 other behind

end ChatTemplate.Information
