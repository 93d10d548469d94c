/-
# ChatTemplate.Proofs.Occurrence -- first occurrences and trimmed ends

Splicing puts a value in place of the first occurrence of a piece of text and
trims what comes out, so the text it works on has been trimmed many times over.

* `breakOn_first`: an occurrence that none precedes is the first;
* `infix_of_contains`, `contains_of_infix`: a text contains what stands somewhere in it;
* `replaceAll_skip`, `replaceAll_append`: replacing every occurrence, from left to right;
* `join_splitOn`: the pieces of a text give the text when they are put together;
* `splitOn_join`: pieces without the separator come back when they are cut again;
* `trim_trimStart_append`, `trim_append_trimEnd`: it makes no difference that a
  piece was trimmed before the whole is.
-/
import Mathlib.Data.List.DropRight
import ChatTemplate.Text.Blank
import ChatTemplate.Text.Search

namespace ChatTemplate.Text

set_option autoImplicit false

/-! ## Prefixes -/

theorem stripPrefix_append (pat rest : List Char) : stripPrefix? pat (pat ++ rest) = some rest := by
  induction pat with
  | nil => rfl
  | cons p pat ih => simpa [stripPrefix?] using ih

theorem eq_append_of_stripPrefix {pat text rest : List Char}
    (found : stripPrefix? pat text = some rest) : text = pat ++ rest := by
  induction pat generalizing text with
  | nil => simpa [stripPrefix?] using found
  | cons p pat ih =>
      cases text with
      | nil => simp [stripPrefix?] at found
      | cons c text =>
          rw [stripPrefix?] at found
          split at found
          · next same => rw [← same, ih found]; rfl
          · simp at found

theorem stripPrefix_eq_none {pat text : List Char} (absent : ¬ pat <+: text) :
    stripPrefix? pat text = none := by
  cases found : stripPrefix? pat text with
  | none => rfl
  | some rest => exact absurd ⟨rest, (eq_append_of_stripPrefix found).symm⟩ absent

theorem stripSuffix_append (text suffix : List Char) :
    stripSuffix? suffix (text ++ suffix) = some text := by
  rw [stripSuffix?, List.reverse_append, stripPrefix_append, Option.map_some, List.reverse_reverse]

/-- What a text begins with ends before a character that it lacks. -/
theorem prefix_of_prefix_append {c : Char} {front before after : List Char} (absent : c ∉ front)
    (begins : front <+: before ++ c :: after) : front <+: before := by
  induction before generalizing front with
  | nil =>
      cases front with
      | nil => exact List.nil_prefix
      | cons d front =>
          obtain rfl := (List.cons_prefix_cons.1 begins).1
          exact absurd List.mem_cons_self absent
  | cons d before ih =>
      cases front with
      | nil => exact List.nil_prefix
      | cons e front =>
          obtain ⟨rfl, later⟩ := List.cons_prefix_cons.1 begins
          exact List.cons_prefix_cons.2 ⟨rfl, ih (fun inside => absent (.tail _ inside)) later⟩

/-! ## The first occurrence -/

theorem eq_append_of_breakOn {pat text before after : List Char}
    (found : breakOn? pat text = some (before, after)) : text = before ++ pat ++ after := by
  induction text generalizing before with
  | nil =>
      rw [breakOn?] at found
      split at found
      · next empty => simp_all
      · simp at found
  | cons c text ih =>
      rw [breakOn?] at found
      split at found
      · next rest here =>
          simp only [Option.some.injEq, Prod.mk.injEq] at found
          obtain ⟨rfl, rfl⟩ := found
          exact eq_append_of_stripPrefix here
      · obtain ⟨parts, later, same⟩ := Option.map_eq_some_iff.1 found
        simp only [Prod.mk.injEq] at same
        obtain ⟨rfl, rfl⟩ := same
        rw [ih later]
        rfl

/-- **An occurrence that none precedes is the first.** -/
theorem breakOn_first {pat before after : List Char} (some_ : pat ≠ [])
    (first : ∀ later, later <:+ before → later ≠ [] → ¬ pat <+: later ++ pat ++ after) :
    breakOn? pat (before ++ pat ++ after) = some (before, after) := by
  induction before with
  | nil =>
      cases pat with
      | nil => exact absurd rfl some_
      | cons p pat =>
          have here := stripPrefix_append (p :: pat) after
          simp only [List.nil_append, List.cons_append] at here ⊢
          rw [breakOn?, here]
  | cons c before ih =>
      have not_here := stripPrefix_eq_none (first (c :: before) List.suffix_rfl (by simp))
      have later := ih fun later suffix => first later (suffix.trans (List.suffix_cons c before))
      rw [List.cons_append, List.cons_append] at not_here ⊢
      rw [breakOn?, not_here, later]
      rfl

/-- Nothing of the pattern stands before its first occurrence. -/
theorem not_prefix_drop_of_breakOn {pat text before after : List Char}
    (found : breakOn? pat text = some (before, after)) {j : Nat} (earlier : j < before.length) :
    ¬ pat <+: text.drop j := by
  induction text generalizing before j with
  | nil =>
      rw [breakOn?] at found
      split at found
      · cases found
        exact absurd earlier (Nat.not_lt_zero j)
      · cases found
  | cons c text ih =>
      rw [breakOn?] at found
      split at found
      · cases found
        exact absurd earlier (Nat.not_lt_zero j)
      · next absent =>
          obtain ⟨parts, later, same⟩ := Option.map_eq_some_iff.1 found
          cases same
          cases j with
          | zero =>
              rintro ⟨rest, here⟩
              rw [List.drop_zero] at here
              rw [← here, stripPrefix_append] at absent
              nomatch absent
          | succ j => exact ih later (Nat.lt_of_succ_lt_succ earlier)

theorem breakOn_eq_none {pat text : List Char} (absent : ¬ pat <:+: text) :
    breakOn? pat text = none := by
  cases found : breakOn? pat text with
  | none => rfl
  | some parts => exact absurd ⟨parts.1, parts.2, (eq_append_of_breakOn found).symm⟩ absent

theorem infix_of_contains {pat text : List Char} (found : contains pat text = true) :
    pat <:+: text := by
  obtain ⟨parts, h⟩ := Option.isSome_iff_exists.1 found
  exact ⟨parts.1, parts.2, (eq_append_of_breakOn h).symm⟩

theorem contains_of_infix {pat text : List Char} (within : pat <:+: text) :
    contains pat text = true := by
  unfold contains
  induction text with
  | nil =>
      obtain rfl := List.infix_nil.1 within
      rfl
  | cons c text ih =>
      rw [breakOn?]
      split
      · rfl
      · next absent =>
          rw [Option.isSome_map]
          rcases List.infix_cons_iff.1 within with here | later
          · obtain ⟨rest, same⟩ := here
            rw [← same, stripPrefix_append] at absent
            nomatch absent
          · exact ih later

theorem replaceFirst_of_breakOn {pat value text before after : List Char}
    (found : breakOn? pat text = some (before, after)) :
    replaceFirst pat value text = before ++ value ++ after := by
  rw [replaceFirst, found]

theorem replaceFirst_eq_self {pat text : List Char} (absent : ¬ pat <:+: text)
    (value : List Char) : replaceFirst pat value text = text := by
  rw [replaceFirst, breakOn_eq_none absent]

/-- An occurrence lies behind text without the character with which it begins. -/
theorem infix_of_infix_append {c : Char} {pat gap text : List Char} (absent : c ∉ gap)
    (within : c :: pat <:+: gap ++ text) : c :: pat <:+: text := by
  induction gap with
  | nil => exact within
  | cons d gap ih =>
      rw [List.mem_cons, not_or] at absent
      rw [List.cons_append] at within
      rcases List.infix_cons_iff.1 within with here | later
      · exact absurd (List.cons_prefix_cons.1 here).1 absent.1
      · exact ih absent.2 later

/-! ## Every occurrence -/

theorem splitOn_go_eq_self {pat text : List Char} (absent : ¬ pat <:+: text) :
    splitOn.go pat 0 text = [text] := by
  induction text with
  | nil => rfl
  | cons c text ih =>
      have not_here : startsWith pat (c :: text) = false := by
        rw [startsWith, stripPrefix_eq_none fun here => absent here.isInfix]
        rfl
      have not_later : ¬ pat <:+: text := fun later =>
        absent (later.trans (List.suffix_cons c text).isInfix)
      rw [splitOn.go, not_here, ih not_later]
      rfl

theorem replaceAll_eq_self {pat text : List Char} (absent : ¬ pat <:+: text)
    (value : List Char) : replaceAll pat value text = text := by
  rw [replaceAll, splitOn, splitOn_go_eq_self absent]
  simp [join]

/-! ## Every occurrence, from left to right -/

theorem splitOn_go_ne_nil (sep text : List Char) (covered : Nat) :
    splitOn.go sep covered text ≠ [] := by
  induction text generalizing covered with
  | nil => simp [splitOn.go]
  | cons d text ih =>
      cases covered with
      | succ covered => exact ih covered
      | zero =>
          rw [splitOn.go]
          split
          · exact List.cons_ne_nil _ _
          · split <;> exact List.cons_ne_nil _ _

theorem join_cons_of_ne_nil {sep : List Char} (piece : List Char) {pieces : List (List Char)}
    (others : pieces ≠ []) : join sep (piece :: pieces) = piece ++ sep ++ join sep pieces := by
  cases pieces with
  | nil => exact absurd rfl others
  | cons other pieces => rw [join, join, List.intercalate_cons_cons]

theorem join_cons_cons (sep : List Char) (d : Char) (piece : List Char)
    (pieces : List (List Char)) :
    join sep ((d :: piece) :: pieces) = d :: join sep (piece :: pieces) := by
  cases pieces with
  | nil => simp [join]
  | cons other pieces =>
      rw [join_cons_of_ne_nil _ (List.cons_ne_nil _ _), join_cons_of_ne_nil _ (List.cons_ne_nil _ _)]
      rfl

@[simp] theorem replaceAll_nil (pat value : List Char) : replaceAll pat value [] = [] := by
  simp [replaceAll, splitOn, splitOn.go, join]

/-- A character at which the pattern does not stand is kept. -/
theorem replaceAll_cons {pat text : List Char} {c : Char} (absent : ¬ pat <+: c :: text)
    (value : List Char) : replaceAll pat value (c :: text) = c :: replaceAll pat value text := by
  have not_here : startsWith pat (c :: text) = false := by
    rw [startsWith, stripPrefix_eq_none absent]
    rfl
  rw [replaceAll, splitOn, splitOn.go, not_here, replaceAll, splitOn]
  cases split : splitOn.go pat 0 text with
  | nil => exact absurd split (splitOn_go_ne_nil pat text 0)
  | cons piece pieces => exact join_cons_cons value c piece pieces

/-- So is text at no place of which the pattern stands. -/
theorem replaceAll_skip {pat gap text : List Char}
    (absent : ∀ later, later <:+ gap → later ≠ [] → ¬ pat <+: later ++ text) (value : List Char) :
    replaceAll pat value (gap ++ text) = gap ++ replaceAll pat value text := by
  induction gap with
  | nil => rfl
  | cons c gap ih =>
      have here := absent (c :: gap) List.suffix_rfl (by simp)
      rw [List.cons_append] at here ⊢
      rw [replaceAll_cons here, ih fun later suffix => absent later (suffix.trans
        (List.suffix_cons c gap))]
      rfl

/-- And text without the character with which the pattern begins. -/
theorem replaceAll_skip_of_not_mem {c : Char} {gap : List Char} (absent : c ∉ gap)
    (pat value text : List Char) :
    replaceAll (c :: pat) value (gap ++ text) = gap ++ replaceAll (c :: pat) value text := by
  refine replaceAll_skip (fun later suffix some_ stands => ?_) value
  obtain ⟨d, later, rfl⟩ := List.exists_cons_of_ne_nil some_
  obtain rfl : c = d := (List.cons_prefix_cons.1 stands).1
  exact absent (suffix.subset List.mem_cons_self)

theorem splitOn_go_covered (sep covered text : List Char) :
    splitOn.go sep covered.length (covered ++ text) = splitOn.go sep 0 text := by
  induction covered with
  | nil => rfl
  | cons c covered ih => exact ih

theorem join_splitOn_go {sep text : List Char} (some_ : sep ≠ []) (covered : Nat) :
    join sep (splitOn.go sep covered text) = text.drop covered := by
  induction text generalizing covered with
  | nil => simp [splitOn.go, join]
  | cons d text ih =>
      cases covered with
      | succ covered => exact ih covered
      | zero =>
          rw [splitOn.go]
          split
          · next starts =>
              obtain ⟨rest, found⟩ := Option.isSome_iff_exists.1 starts
              have whole : d :: text = sep ++ rest := eq_append_of_stripPrefix found
              obtain ⟨first, others, rfl⟩ := List.exists_cons_of_ne_nil some_
              obtain ⟨rfl, behind⟩ := List.cons.inj whole
              rw [join_cons_of_ne_nil _ (splitOn_go_ne_nil _ _ _), ih, behind]
              simp
          · have rejoined := ih 0
            split
            · next none => exact absurd none (splitOn_go_ne_nil sep text 0)
            · next piece pieces split =>
                rw [split] at rejoined
                rw [join_cons_cons, rejoined]
                rfl

/-- **The pieces of a text, put together again.** -/
theorem join_splitOn {sep : List Char} (some_ : sep ≠ []) (text : List Char) :
    join sep (splitOn sep text) = text :=
  join_splitOn_go some_ 0

/-- Where the pattern stands its value comes instead. -/
theorem replaceAll_append {pat : List Char} (some_ : pat ≠ []) (value text : List Char) :
    replaceAll pat value (pat ++ text) = value ++ replaceAll pat value text := by
  cases pat with
  | nil => exact absurd rfl some_
  | cons p pat =>
      have here : startsWith (p :: pat) (p :: (pat ++ text)) = true := by
        rw [startsWith, ← List.cons_append, stripPrefix_append]
        rfl
      rw [List.cons_append, replaceAll, splitOn, splitOn.go, here, if_pos rfl, List.length_cons,
        Nat.add_sub_cancel, splitOn_go_covered,
        join_cons_of_ne_nil _ (splitOn_go_ne_nil _ _ _), List.nil_append]
      rfl

/-- **A text is empty, or the pattern stands at its front, or it begins with a character at which
the pattern does not stand.** -/
theorem occurrence_induction {pat : List Char} (some_ : pat ≠ []) {motive : List Char → Prop}
    (nil : motive []) (here : ∀ text, motive text → motive (pat ++ text))
    (skip : ∀ c text, ¬ pat <+: c :: text → motive text → motive (c :: text))
    (text : List Char) : motive text := by
  induction length : text.length using Nat.strongRecOn generalizing text with
  | ind n ih =>
      subst length
      by_cases stands : pat <+: text
      · obtain ⟨rest, rfl⟩ := stands
        have shorter : rest.length < (pat ++ rest).length := by
          rw [List.length_append]
          exact Nat.lt_add_of_pos_left (List.length_pos_iff.2 some_)
        exact here rest (ih _ shorter rest rfl)
      · cases text with
        | nil => exact nil
        | cons c text => exact skip c text stands (ih _ (Nat.lt_succ_self _) text rfl)

/-- A character at the end that the pattern lacks is kept. -/
theorem replaceAll_concat {pat : List Char} (some_ : pat ≠ []) {c : Char} (absent : c ∉ pat)
    (value text : List Char) :
    replaceAll pat value (text ++ [c]) = replaceAll pat value text ++ [c] := by
  induction text using occurrence_induction some_ with
  | nil =>
      refine replaceAll_eq_self (fun found => ?_) value
      obtain ⟨d, pat, rfl⟩ := List.exists_cons_of_ne_nil some_
      obtain rfl := List.mem_singleton.1 (found.subset List.mem_cons_self)
      exact absent List.mem_cons_self
  | here text ih =>
      rw [List.append_assoc, replaceAll_append some_, ih, replaceAll_append some_,
        List.append_assoc]
  | skip d text stands ih =>
      have still : ¬ pat <+: d :: (text ++ [c]) := by
        rw [← List.cons_append, List.prefix_concat_iff]
        rintro (rfl | before)
        · exact absent (by simp)
        · exact stands before
      rw [List.cons_append, replaceAll_cons still, ih, replaceAll_cons stands, List.cons_append]

/-- Replacing changes every text in which the pattern stands, if the value begins differently. -/
theorem replaceAll_eq_self_iff {pat value : List Char} (some_ : pat ≠ [])
    (shorter : ¬ value <+: pat) (longer : ¬ pat <+: value) (text : List Char) :
    replaceAll pat value text = text ↔ ¬ pat <:+: text := by
  refine ⟨fun same => ?_, fun absent => replaceAll_eq_self absent value⟩
  induction text using occurrence_induction some_ with
  | nil => exact fun found => some_ (List.infix_nil.1 found)
  | here text ih =>
      rw [replaceAll_append some_] at same
      rcases List.prefix_or_prefix_of_prefix ⟨_, same⟩ (List.prefix_append pat text) with h | h
      · exact absurd h shorter
      · exact absurd h longer
  | skip c text stands ih =>
      rw [replaceAll_cons stands, List.cons.injEq] at same
      rw [List.infix_cons_iff, not_or]
      exact ⟨stands, ih same.2⟩

/-! ## Cutting at a character -/

/-- With a single character as separator, `splitOn` is the one of lists. -/
theorem splitOn_singleton (c : Char) (text : List Char) : splitOn [c] text = text.splitOn c := by
  rw [splitOn]
  induction text with
  | nil => rfl
  | cons d text ih =>
      have starts : startsWith [c] (d :: text) = (d == c) := by
        by_cases same : c = d
        · simp [startsWith, stripPrefix?, same]
        · simp [startsWith, stripPrefix?, same, Ne.symm same]
      rw [splitOn.go, starts, List.splitOn_cons_eq_if_modifyHead, List.length_singleton, ih]
      split
      · rfl
      · split
        · next none => exact absurd none (List.splitOn_ne_nil c text)
        · next pieces => rw [pieces]; rfl

/-- No piece has the character at which the text was cut. -/
theorem not_mem_of_mem_splitOn {c : Char} {text : List Char} :
    ∀ piece ∈ text.splitOn c, c ∉ piece := by
  induction text with
  | nil => simp
  | cons d text ih =>
      rw [List.splitOn_cons_eq_if_modifyHead]
      split
      · exact List.forall_mem_cons.2 ⟨List.not_mem_nil, ih⟩
      · next other =>
          cases pieces : text.splitOn c with
          | nil => simp
          | cons piece others =>
              rw [pieces] at ih
              obtain ⟨inFirst, inOthers⟩ := List.forall_mem_cons.1 ih
              refine List.forall_mem_cons.2 ⟨?_, inOthers⟩
              have apart : c ≠ d := fun same => other (by simp [same])
              rw [List.mem_cons, not_or]
              exact ⟨apart, inFirst⟩

/-- **Pieces put together and cut again.** -/
theorem splitOn_join {c : Char} {pieces : List (List Char)} (some_ : pieces ≠ [])
    (uncut : ∀ piece ∈ pieces, c ∉ piece) : splitOn [c] (join [c] pieces) = pieces := by
  rw [splitOn_singleton, join]
  exact List.splitOn_intercalate c uncut some_

/-! ## Trimmed ends -/

theorem trimEnd_cons (c : Char) (text : List Char) :
    trimEnd (c :: text) =
      if trimEnd text = [] ∧ isBlank c = true then [] else c :: trimEnd text := by
  induction text using List.reverseRecOn with
  | nil => cases h : isBlank c <;> simp [trimEnd, h]
  | append_singleton text d ih =>
      simp only [trimEnd, ← List.rdropWhile.eq_1] at ih ⊢
      rw [← List.cons_append, List.rdropWhile_concat, List.rdropWhile_concat]
      split
      · exact ih
      · simp

theorem trimEnd_trimStart (text : List Char) :
    trimEnd (trimStart text) = trimStart (trimEnd text) := by
  induction text with
  | nil => rfl
  | cons c text ih =>
      rw [trimEnd_cons]
      cases h : isBlank c with
      | true =>
          have drop : ∀ text, trimStart (c :: text) = trimStart text := fun text =>
            List.dropWhile_cons_of_pos h
          rw [drop, ih]
          split
          · next empty => rw [empty.1]
          · rw [drop]
      | false =>
          have keep : ∀ text, trimStart (c :: text) = c :: text := fun text =>
            List.dropWhile_cons_of_neg (by simp [h])
          rw [keep, trimEnd_cons]
          simp [h, keep]

theorem mem_of_mem_trim {c : Char} {text : List Char} (member : c ∈ trim text) : c ∈ text :=
  (List.dropWhile_suffix _).subset ((List.rdropWhile_prefix _ _).subset member)

theorem trimStart_append (before after : List Char) :
    trimStart (before ++ after) =
      if trimStart before = [] then trimStart after else trimStart before ++ after := by
  simp only [trimStart, List.dropWhile_append, List.isEmpty_iff]
  congr

theorem trimEnd_append (before after : List Char) :
    trimEnd (before ++ after) =
      if trimEnd after = [] then trimEnd before else before ++ trimEnd after := by
  simp only [trimEnd, List.reverse_append, List.dropWhile_append, List.isEmpty_iff,
    List.reverse_eq_nil_iff]
  split
  · rfl
  · simp

theorem trim_trimStart_append (before after : List Char) :
    trim (trimStart before ++ after) = trim (before ++ after) := by
  have same : trimStart (trimStart before ++ after) = trimStart (before ++ after) := by
    simp only [trimStart, List.dropWhile_append, List.dropWhile_idempotent]
  rw [trim, same, trim]

theorem trim_append_trimEnd (before after : List Char) :
    trim (before ++ trimEnd after) = trim (before ++ after) := by
  have same : trimEnd (before ++ trimEnd after) = trimEnd (before ++ after) := by
    simp only [trimEnd, List.reverse_append, List.reverse_reverse, List.dropWhile_append,
      List.dropWhile_idempotent]
  rw [trim, trim, trimEnd_trimStart, trimEnd_trimStart, same]

@[simp] theorem trim_trim (text : List Char) : trim (trim text) = trim text := by
  have fromEnd := trim_append_trimEnd [] (trimStart text)
  have fromStart := trim_trimStart_append text []
  simp only [List.nil_append, List.append_nil] at fromEnd fromStart
  calc trim (trim text) = trim (trimEnd (trimStart text)) := rfl
    _ = trim (trimStart text) := fromEnd
    _ = trim text := fromStart

end ChatTemplate.Text
