/-
# ChatTemplate.Proofs.PageNames -- what a script speaks of once its pages are named

Before a script runs, its calls `url("…")` give way to names of pages.  Such a name is
`url` and hexadecimal digits, which neither ends where a word such as `users` begins nor
begins where it ends (`ApartFromPages`).  So a word that stands in the script as it is run
stands in the script as it is written, behind a point only if it did there
(`standsIn_of_replaced`).

A script that does not speak of random picks, once its calls of random functions are left
out, has the word `random` behind points only (`contains_withoutRandomFunctions`).

Main statement: `speaksWithin_prepare`.
-/
import ChatTemplate.Proofs.Asking
import ChatTemplate.Proofs.SourceWords
import ChatTemplate.Proofs.Substitution
import ChatTemplate.Proofs.TokenMark

namespace ChatTemplate.Scripting

set_option autoImplicit false

/-! ## Names of pages -/

/-- A word that no name of a page has a part of at its end, nor begins with the end of. -/
structure ApartFromPages (word : List Char) : Prop where
  begins : ∃ first second rest, word = first :: second :: rest ∧
    (∀ k < 16, first ≠ Nat.digitChar k) ∧ first ≠ 'l' ∧
    ¬ (first = 'u' ∧ second = 'r') ∧ ¬ (first = 'r' ∧ second = 'l')
  ends : 'u' ∉ word.tail

theorem apart_users : ApartFromPages "users".toList :=
  ⟨⟨'u', 's', _, rfl, by decide, by decide, by decide, by decide⟩, by decide⟩

theorem apart_random : ApartFromPages "random".toList :=
  ⟨⟨'r', 'a', _, rfl, by decide, by decide, by decide, by decide⟩, by decide⟩

theorem apart_online : ApartFromPages "online".toList :=
  ⟨⟨'o', 'n', _, rfl, by decide, by decide, by decide, by decide⟩, by decide⟩

/-- A page is named `url` and some hexadecimal digits. -/
theorem exists_digits_of_pageName (n : Nat) :
    ∃ digits, (pageName n).toList = 'u' :: 'r' :: 'l' :: digits ∧
      ∀ d ∈ digits, ∃ k < 16, d = Nat.digitChar k := by
  let digits := Nat.toDigits 16 (n % pageNames)
  refine ⟨List.replicate (5 - digits.length) '0' ++ digits, ?_, ?_⟩
  · exact (String.toList_append ..).trans (congrArg _ String.toList_ofList)
  · refine List.forall_mem_append.2 ⟨fun d member => ⟨0, by decide, ?_⟩, ?_⟩
    · exact List.eq_of_mem_replicate member
    · exact exists_digit_of_mem_toDigits (by decide) _

/-- A word does not begin inside of the name of a page. -/
theorem ApartFromPages.not_inside {word : List Char} (apart : ApartFromPages word)
    {n : Nat} {before part after later : List Char} (some_ : part ≠ [])
    (name : (pageName n).toList = before ++ part) : word ++ after ≠ part ++ later := by
  obtain ⟨digits, spelled, hexadecimal⟩ := exists_digits_of_pageName n
  obtain ⟨first, second, rest, rfl, digitless, notL, notUR, notRL⟩ := apart.begins
  intro same
  rw [spelled] at name
  match before with
  | [] =>
      obtain rfl : part = 'u' :: 'r' :: 'l' :: digits := name.symm
      exact notUR ⟨(List.cons.inj same).1, (List.cons.inj (List.cons.inj same).2).1⟩
  | [_] =>
      obtain rfl : part = 'r' :: 'l' :: digits := (List.cons.inj name).2.symm
      exact notRL ⟨(List.cons.inj same).1, (List.cons.inj (List.cons.inj same).2).1⟩
  | [_, _] =>
      obtain rfl : part = 'l' :: digits := (List.cons.inj (List.cons.inj name).2).2.symm
      exact notL (List.cons.inj same).1
  | _ :: _ :: _ :: before =>
      have behind : digits = before ++ part :=
        (List.cons.inj (List.cons.inj (List.cons.inj name).2).2).2
      obtain ⟨d, part, rfl⟩ := List.exists_cons_of_ne_nil some_
      obtain ⟨k, small, rfl⟩ := hexadecimal d (behind ▸ List.mem_append_right _ List.mem_cons_self)
      exact digitless k small (List.cons.inj same).1

/-- And it does not run into one. -/
theorem ApartFromPages.not_across {word : List Char} (apart : ApartFromPages word) {n : Nat}
    {before part after later : List Char} {d : Char} (split : word = before ++ d :: part) :
    d :: part ++ after ≠ (pageName n).toList ++ later := by
  obtain ⟨digits, spelled, -⟩ := exists_digits_of_pageName n
  intro same
  have first : d = 'u' := by
    rw [spelled] at same
    exact (List.cons.inj same).1
  cases before with
  | nil =>
      -- the word would begin with the name
      have some_ : (pageName n).toList ≠ [] := by simp [spelled]
      subst split
      exact apart.not_inside some_ (List.nil_append _).symm same
  | cons e before =>
      refine apart.ends ?_
      rw [split, ← first]
      exact List.mem_append_right before List.mem_cons_self

/-- **A word is not made by naming a page**: where it stands then it stood before. -/
theorem standsIn_of_replaced {word call text : List Char} {pointed : Bool} {n : Nat}
    (apart : ApartFromPages word) (closed : call.getLast? = some ')')
    (stands : Text.StandsIn word pointed (Text.replaceFirst call (pageName n).toList text)) :
    Text.StandsIn word pointed text := by
  cases found : Text.breakOn? call text with
  | none =>
      rw [Text.replaceFirst, found] at stands
      exact stands
  | some parts =>
      obtain ⟨start, rest⟩ := parts
      rw [Text.replaceFirst_of_breakOn found] at stands
      obtain rfl := Text.eq_append_of_breakOn found
      obtain ⟨before, after, same, behind⟩ := stands
      rw [List.append_assoc, List.append_assoc] at same
      have earlier : ∀ gap, start = before ++ (word ++ gap) →
          Text.StandsIn word pointed (start ++ call ++ rest) := by
        rintro gap rfl
        exact ⟨before, gap ++ (call ++ rest), by simp, behind⟩
      have later : ∀ gap, before = start ++ ((pageName n).toList ++ gap) →
          rest = gap ++ (word ++ after) →
          Text.StandsIn word pointed (start ++ call ++ rest) := by
        rintro gap rfl rfl
        refine ⟨start ++ call ++ gap, after, by simp, fun point => behind ?_⟩
        rw [List.getLast?_append, List.getLast?_append, closed] at point
        rw [List.getLast?_append, List.getLast?_append]
        cases ends : gap.getLast? with
        | none =>
            rw [ends] at point
            simp at point
        | some d =>
            rw [ends] at point
            exact point
      rcases List.append_eq_append_iff.1 same with ⟨gap, shape, onward⟩ | ⟨gap, shape, onward⟩
      · -- the word begins behind the start
        rcases List.append_eq_append_iff.1 onward with ⟨gap', rfl, inRest⟩ | ⟨part, name, within⟩
        · exact later gap' shape inRest
        · cases part with
          | nil =>
              rw [List.append_nil] at name
              exact later [] (by rw [shape, name, List.append_nil]) within.symm
          | cons d part => exact absurd within (apart.not_inside (List.cons_ne_nil d part) name)
      · -- the word begins in the start
        rcases List.append_eq_append_iff.1 onward with ⟨gap', rfl, -⟩ | ⟨part, split, within⟩
        · exact earlier gap' shape
        · cases part with
          | nil => exact earlier [] (by rw [shape, split, List.append_nil, List.append_nil])
          | cons d part => exact absurd within.symm (apart.not_across split)

/-! ## Preparing a script -/

/-- What is asked to prepare a script. -/
def Prepares : Query → Prop
  | .chance | .fetch _ _ => True
  | _ => False

/-- A call of `url` ends with its parenthesis. -/
theorem closed_of_mem_findAll {source call : List Char}
    (member : call ∈ urlPattern.findAll source) : call.getLast? = some ')' := by
  rw [Pattern.findAll_eq_scan] at member
  obtain ⟨before, rest, n, -, here, rfl⟩ := Continuation.exists_match_of_mem_scan member
  have closes : Pattern.EndsIn (· = ')') [.char ')'] := Pattern.endsIn_char rfl
  have ends : urlPattern.EndsIn (· = ')') :=
    (closes.append [.oneOf ['\'', '"'], .run .inLine 0 false, .oneOf ['\'', '"']]).append _
  obtain ⟨c, last, rfl⟩ := ends before rest n here
  exact last

/-- The words of a script stand in another one. -/
def SpeaksWithin (source prepared : List Char) : Prop :=
  ∀ word pointed, ApartFromPages word → Text.StandsIn word pointed prepared →
    Text.StandsIn word pointed source

/-- **A prepared script speaks of nothing that the script did not speak of**, and preparing
it only fetches pages. -/
theorem speaksWithin_prepare (source : List Char) :
    Chat.Keeps (.asking Prepares) (fun prepared => SpeaksWithin source prepared.source)
      (prepare source) := by
  refine (Chat.Keeps.sequential _).foldlM (fun call member prepared within => ?_)
    fun _ _ _ stands => stands
  have closed := closed_of_mem_findAll member
  refine Chat.Keeps.bind (.lift (.asks trivial)) fun dice _ => ?_
  refine Chat.Keeps.bind (.asks (.asks trivial)) fun reply _ => .pure ?_
  intro word pointed apart stands
  exact within word pointed apart (standsIn_of_replaced apart closed stands)

/-! ## Calls of random functions -/

/-- The calls that are left out. -/
def mathCall : List Char := "Math.random".toList

def underscoreCall : List Char := "_.random".toList

/-- A call has no `random` in it but behind its point. -/
def Guarded (call : List Char) : Prop :=
  ∀ n < call.length, (call.take n).getLast? = some '.' ∨ (call.drop n).head? ≠ some 'r'

instance (call : List Char) : Decidable (Guarded call) :=
  inferInstanceAs (Decidable (∀ n < call.length, _))

/-- Where a call stands, `random` stands behind it if not behind its point. -/
theorem Guarded.passes {call before after : List Char} (guarded : Guarded call)
    (behind : before.getLast? ≠ some '.')
    (starts : call <+: before ++ ("random".toList ++ after)) : ∃ gap, before = call ++ gap := by
  obtain ⟨rest, same⟩ := starts
  rcases List.append_eq_append_iff.1 same with ⟨gap, shape, -⟩ | ⟨gap, shape, later⟩
  · exact ⟨gap, shape⟩
  · cases gap with
    | nil => exact ⟨[], by rw [shape, List.append_nil, List.append_nil]⟩
    | cons c gap =>
        have first : c = 'r' := (List.cons.inj later).1.symm
        rcases guarded before.length (by simp [shape]) with point | other
        · exact absurd (by simpa [shape] using point) behind
        · exact absurd (by simp [shape, first]) other

theorem go_zero (c : Char) (text : List Char) :
    withoutRandomFunctions.go 0 (c :: text) =
      if Text.startsWith mathCall (c :: text) then withoutRandomFunctions.go 10 text
      else if Text.startsWith underscoreCall (c :: text) then withoutRandomFunctions.go 7 text
      else c :: withoutRandomFunctions.go 0 text := rfl

theorem go_covered (covered text : List Char) :
    withoutRandomFunctions.go covered.length (covered ++ text) =
      withoutRandomFunctions.go 0 text := by
  induction covered with
  | nil => rfl
  | cons c covered ih => exact ih

theorem go_math (text : List Char) :
    withoutRandomFunctions.go 0 (mathCall ++ text) = withoutRandomFunctions.go 0 text := by
  have here : Text.startsWith mathCall (mathCall ++ text) = true := by
    rw [Text.startsWith, Text.stripPrefix_append]
    rfl
  obtain ⟨later, shape, length⟩ : ∃ later, mathCall = 'M' :: later ∧ later.length = 10 :=
    ⟨_, rfl, rfl⟩
  rw [shape, List.cons_append, go_zero, ← List.cons_append, ← shape, here, if_pos rfl, ← length,
    go_covered]

theorem go_underscore (text : List Char) :
    withoutRandomFunctions.go 0 (underscoreCall ++ text) = withoutRandomFunctions.go 0 text := by
  have here : Text.startsWith underscoreCall (underscoreCall ++ text) = true := by
    rw [Text.startsWith, Text.stripPrefix_append]
    rfl
  obtain ⟨later, shape, length⟩ : ∃ later, underscoreCall = '_' :: later ∧ later.length = 7 :=
    ⟨_, rfl, rfl⟩
  have other : ¬ mathCall <+: underscoreCall ++ text := by
    obtain ⟨math, spelled⟩ : ∃ later, mathCall = 'M' :: later := ⟨_, rfl⟩
    rw [shape, spelled]
    exact fun begins => absurd (List.cons_prefix_cons.1 begins).1 (by decide)
  have not_here : Text.startsWith mathCall (underscoreCall ++ text) = false := by
    rw [Text.startsWith, Text.stripPrefix_eq_none other]
    rfl
  rw [shape, List.cons_append, go_zero, ← List.cons_append, ← shape, not_here,
    if_neg Bool.false_ne_true, here, if_pos rfl, ← length, go_covered]

theorem go_cons {c : Char} {text : List Char} (noMath : ¬ mathCall <+: c :: text)
    (noUnderscore : ¬ underscoreCall <+: c :: text) :
    withoutRandomFunctions.go 0 (c :: text) = c :: withoutRandomFunctions.go 0 text := by
  rw [go_zero, Text.startsWith, Text.startsWith, Text.stripPrefix_eq_none noMath,
    Text.stripPrefix_eq_none noUnderscore]
  rfl

theorem infix_go (after : List Char) (n : Nat) (before : List Char) (length : before.length = n)
    (behind : before.getLast? ≠ some '.') :
    "random".toList <:+: withoutRandomFunctions.go 0 (before ++ ("random".toList ++ after)) := by
  induction n using Nat.strongRecOn generalizing before with
  | ind n ih =>
      have past : ∀ call gap, call ≠ [] → before = call ++ gap →
          "random".toList <:+: withoutRandomFunctions.go 0 (gap ++ ("random".toList ++ after)) := by
        rintro call gap some_ rfl
        have fewer := List.length_pos_iff.2 some_
        rw [List.length_append] at length
        refine ih gap.length (by omega) gap rfl fun point => behind ?_
        rw [List.getLast?_append, point]
        rfl
      by_cases math : mathCall <+: before ++ ("random".toList ++ after)
      · obtain ⟨gap, shape⟩ := Guarded.passes (by decide) behind math
        rw [shape, List.append_assoc, go_math]
        exact past mathCall gap (by decide) shape
      by_cases underscore : underscoreCall <+: before ++ ("random".toList ++ after)
      · obtain ⟨gap, shape⟩ := Guarded.passes (by decide) behind underscore
        rw [shape, List.append_assoc, go_underscore]
        exact past underscoreCall gap (by decide) shape
      cases before with
      | nil => exact ⟨[], withoutRandomFunctions.go 0 after, rfl⟩
      | cons c before =>
          rw [List.cons_append] at math underscore ⊢
          rw [go_cons math underscore]
          exact (past [c] before (List.cons_ne_nil _ _) rfl).trans (List.suffix_cons _ _).isInfix

/-- **A script with `random` elsewhere than behind a point speaks of random picks**, also when
its calls of random functions are left out. -/
theorem contains_withoutRandomFunctions {text : List Char}
    (stands : Text.StandsIn "random".toList false text) :
    Text.contains "random".toList (withoutRandomFunctions text) = true := by
  obtain ⟨before, after, rfl, behind⟩ := stands
  refine Text.contains_of_infix ?_
  rw [List.append_assoc]
  exact infix_go after before.length before rfl fun point => nomatch behind point

end ChatTemplate.Scripting
