/-
# ChatTemplate.Proofs.References -- texts in pieces of references and characters

A text that is decoded is read in pieces: a reference is one (`Refers`), and a character that
begins no reference.  `decode_induction` goes through a text piece by piece, and
`decode_reference` and `decode_kept` say what becomes of each.

A reference has letters, digits, `#` and `+` between its ampersand and its semicolon.  So any
other character ends what comes before it (`decode_append`).  Whatever stands in the decoded text
comes from one piece, and what is before it is the decoded text before this (`exists_piece`).
-/
import ChatTemplate.CharReference
import ChatTemplate.Proofs.CharCodes
import ChatTemplate.Proofs.Occurrence

namespace ChatTemplate.CharReference

set_option autoImplicit false

/-! ## What references are made of -/

/-- The characters that can stand between the ampersand and the semicolon. -/
def isBodyChar (c : Char) : Bool :=
  c.isAlphanum || c == '#' || c == '+'

theorem isBodyChar_of_digitValue {base value : Nat} {c : Char}
    (read : Text.digitValue? base c = some value) : isBodyChar c = true := by
  by_cases digit : c.isDigit = true
  · simp [isBodyChar, Char.isAlphanum, digit]
  by_cases lower : 'a' ≤ c ∧ c ≤ 'z'
  · have letter : c.isAlpha = true := Text.isAlpha_iff.2 (.inr lower)
    simp [isBodyChar, Char.isAlphanum, letter]
  by_cases upper : 'A' ≤ c ∧ c ≤ 'Z'
  · have letter : c.isAlpha = true := Text.isAlpha_iff.2 (.inl upper)
    simp [isBodyChar, Char.isAlphanum, letter]
  · simp [Text.digitValue?, digit, lower, upper] at read

theorem isBodyChar_of_digitsValue {base high value : Nat} {digits : List Char}
    (read : Text.digitsValue? base high digits = some value) :
    ∀ c ∈ digits, isBodyChar c = true := by
  induction digits generalizing high with
  | nil => nofun
  | cons c digits ih =>
      rw [Text.digitsValue?] at read
      split at read
      · next here => exact List.forall_mem_cons.2 ⟨isBodyChar_of_digitValue here, ih read⟩
      · cases read

theorem isBodyChar_of_readNatural {base limit value : Nat} {text : List Char}
    (read : Text.readNatural? base limit text = some value) :
    ∀ c ∈ text, isBodyChar c = true := by
  have digitsOnly : ∀ {digits : List Char} {n : Nat}, Text.readDigits? base digits = some n →
      ∀ c ∈ digits, isBodyChar c = true := by
    intro digits n found
    rw [Text.readDigits?] at found
    split at found
    · cases found
    · exact isBodyChar_of_digitsValue found
  unfold Text.readNatural? at read
  obtain ⟨found, -⟩ := Option.filter_eq_some_iff.1 read
  split at found
  · exact List.forall_mem_cons.2 ⟨by decide, digitsOnly found⟩
  · exact digitsOnly found

theorem isBodyChar_of_names : (names.all fun entry => entry.1.toList.all isBodyChar) = true := by
  decide +kernel

/-- **Nothing but letters, digits, `#` and `+`** stands in what refers to a character. -/
theorem isBodyChar_of_resolve {body : List Char} {c : Char} (resolved : resolve? body = some c) :
    ∀ d ∈ body, isBodyChar d = true := by
  have number : ∀ {base : Nat} {digits : List Char},
      (Text.readNatural? base codeLimit digits).bind charOf? = some c →
      ∀ d ∈ digits, isBodyChar d = true := by
    intro base digits found
    obtain ⟨code, read, -⟩ := Option.bind_eq_some_iff.1 found
    exact isBodyChar_of_readNatural read
  rw [resolve?.eq_def] at resolved
  split at resolved
  · exact List.forall_mem_cons.2 ⟨by decide, List.forall_mem_cons.2 ⟨by decide, number resolved⟩⟩
  · exact List.forall_mem_cons.2 ⟨by decide, List.forall_mem_cons.2 ⟨by decide, number resolved⟩⟩
  · exact List.forall_mem_cons.2 ⟨by decide, number resolved⟩
  · obtain ⟨code, named, -⟩ := Option.bind_eq_some_iff.1 resolved
    obtain ⟨before, after, entry, -⟩ := List.lookup_eq_some_iff.1 named
    have listed : (String.ofList body, code) ∈ names := by simp [entry]
    have spelled := List.all_eq_true.1 (List.all_eq_true.1 isBodyChar_of_names _ listed)
    rwa [String.toList_ofList] at spelled

/-! ## References -/

/-- Text that is a reference to a character. -/
def Refers (written : List Char) (c : Char) : Prop :=
  ∃ body, written = '&' :: (body ++ [';']) ∧ body.length ≤ maxBody ∧ resolve? body = some c

/-- What stands in a reference. -/
theorem Refers.mem {written : List Char} {c d : Char} (refers : Refers written c)
    (among : d ∈ written) : d = '&' ∨ d = ';' ∨ isBodyChar d = true := by
  obtain ⟨body, rfl, -, resolved⟩ := refers
  rw [List.mem_cons, List.mem_append, List.mem_singleton] at among
  rcases among with rfl | inside | rfl
  · exact .inl rfl
  · exact .inr (.inr (isBodyChar_of_resolve resolved d inside))
  · exact .inr (.inl rfl)

/-- **The reference after an ampersand** is the text up to the first semicolon, if it is short
enough and refers to something. -/
theorem reference?_eq_some_iff {text : List Char} {c : Char} {taken : Nat} :
    reference? text = some (c, taken) ↔ ∃ body rest, text = body ++ ';' :: rest ∧
      body.length ≤ maxBody ∧ resolve? body = some c ∧ taken = body.length + 1 := by
  constructor
  · intro found
    rw [reference?] at found
    split at found
    · next body after broken =>
        obtain ⟨d, resolved, same⟩ := Option.map_eq_some_iff.1 found
        simp only [Prod.mk.injEq] at same
        obtain ⟨rfl, rfl⟩ := same
        have window := Text.eq_append_of_breakOn broken
        have fits : (body ++ [';'] ++ after).length ≤ maxBody + 1 :=
          window ▸ List.length_take_le _ _
        refine ⟨body, after ++ text.drop (maxBody + 1), ?_, ?_, resolved, rfl⟩
        · calc text = text.take (maxBody + 1) ++ text.drop (maxBody + 1) :=
                (List.take_append_drop _ _).symm
            _ = body ++ ';' :: (after ++ text.drop (maxBody + 1)) := by rw [window]; simp
        · simp only [List.length_append, List.length_singleton] at fits
          omega
    · cases found
  · rintro ⟨body, rest, rfl, short, resolved, rfl⟩
    have semicolon : ';' ∉ body := fun inside =>
      absurd (isBodyChar_of_resolve resolved ';' inside) (by decide)
    have window : (body ++ ';' :: rest).take (maxBody + 1) =
        body ++ [';'] ++ rest.take (maxBody - body.length) := by
      rw [List.take_append, List.take_of_length_le (by omega),
        show maxBody + 1 - body.length = maxBody - body.length + 1 by omega]
      simp
    have broken : Text.breakOn? [';'] (body ++ [';'] ++ rest.take (maxBody - body.length)) =
        some (body, rest.take (maxBody - body.length)) := by
      refine Text.breakOn_first (List.cons_ne_nil _ _) fun later suffix some_ stands => ?_
      obtain ⟨d, later, rfl⟩ := List.exists_cons_of_ne_nil some_
      obtain rfl : ';' = d := (List.cons_prefix_cons.1 stands).1
      exact semicolon (suffix.subset List.mem_cons_self)
    rw [reference?, window, broken]
    dsimp only
    rw [resolved, Option.map_some]

/-- A reference is still one when more text follows. -/
theorem reference_append_left {before after : List Char}
    (none_ : reference? (before ++ after) = none) : reference? before = none := by
  cases found : reference? before with
  | none => rfl
  | some parts =>
      obtain ⟨body, rest, rfl, short, resolved, -⟩ := reference?_eq_some_iff.1 found
      have still : reference? (body ++ ';' :: rest ++ after) = some (parts.1, body.length + 1) :=
        reference?_eq_some_iff.2 ⟨body, rest ++ after, by simp, short, resolved, rfl⟩
      rw [still] at none_
      cases none_

/-- A character that is in no reference ends one. -/
theorem reference_append_right {c : Char} (body : isBodyChar c = false) (semicolon : c ≠ ';')
    {before : List Char} (none_ : reference? before = none) (after : List Char) :
    reference? (before ++ c :: after) = none := by
  cases found : reference? (before ++ c :: after) with
  | none => rfl
  | some parts =>
      obtain ⟨inside, rest, same, short, resolved, -⟩ := reference?_eq_some_iff.1 found
      have apart : c ∉ inside ++ [';'] := by
        rw [List.mem_append, List.mem_singleton, not_or]
        refine ⟨fun among => ?_, semicolon⟩
        rw [isBodyChar_of_resolve resolved c among] at body
        cases body
      have whole : inside ++ [';'] <+: before ++ c :: after := ⟨rest, by simp [same]⟩
      obtain ⟨more, rfl⟩ := Text.prefix_of_prefix_append apart whole
      have earlier : reference? (inside ++ [';'] ++ more) = some (parts.1, inside.length + 1) :=
        reference?_eq_some_iff.2 ⟨inside, more, by simp, short, resolved, rfl⟩
      rw [earlier] at none_
      cases none_

/-! ## Decoding piece by piece -/

theorem decode_go_covered (covered text : List Char) :
    decode.go covered.length (covered ++ text) = decode.go 0 text := by
  induction covered with
  | nil => cases text <;> rfl
  | cons c covered ih => exact ih

@[simp] theorem decode_nil : decode [] = [] :=
  rfl

/-- In place of a reference stands its character. -/
theorem decode_reference {written : List Char} {c : Char} (refers : Refers written c)
    (text : List Char) : decode (written ++ text) = c :: decode text := by
  obtain ⟨body, rfl, short, resolved⟩ := refers
  have found : reference? ((body ++ [';']) ++ text) = some (c, (body ++ [';']).length) :=
    reference?_eq_some_iff.2 ⟨body, text, by simp, short, resolved, by simp⟩
  rw [decode, List.cons_append, decode.go, if_pos rfl, found]
  exact congrArg (c :: ·) (decode_go_covered (body ++ [';']) text)

/-- A character that begins no reference is kept. -/
theorem decode_kept {c : Char} {text : List Char}
    (begins : c = '&' → reference? text = none) : decode (c :: text) = c :: decode text := by
  rw [decode, decode.go]
  split
  · next ampersand => rw [begins ampersand]; rfl
  · rfl

/-- **A text is empty, or begins with a reference, or with a character that begins none.** -/
theorem decode_induction {motive : List Char → Prop} (nil : motive [])
    (reference : ∀ written c text, Refers written c → motive text → motive (written ++ text))
    (kept : ∀ c text, (c = '&' → reference? text = none) → motive text → motive (c :: text))
    (text : List Char) : motive text := by
  induction length : text.length using Nat.strongRecOn generalizing text with
  | ind n ih =>
      subst length
      cases text with
      | nil => exact nil
      | cons c text =>
          by_cases begins : c = '&' → reference? text = none
          · exact kept c text begins (ih _ (Nat.lt_succ_self _) text rfl)
          · rw [Classical.not_imp] at begins
            obtain ⟨rfl, some_⟩ := begins
            obtain ⟨⟨d, taken⟩, found⟩ := Option.ne_none_iff_exists'.1 some_
            obtain ⟨body, rest, rfl, short, resolved, -⟩ := reference?_eq_some_iff.1 found
            have pieces : '&' :: (body ++ ';' :: rest) = '&' :: (body ++ [';']) ++ rest := by simp
            have shorter : rest.length < ('&' :: (body ++ ';' :: rest)).length := by
              simp only [List.length_cons, List.length_append]
              omega
            rw [pieces]
            exact reference _ d rest ⟨body, rfl, short, resolved⟩ (ih _ shorter rest rfl)

/-- **A character that is in no reference ends what comes before it.** -/
theorem decode_append {c : Char} (body : isBodyChar c = false) (semicolon : c ≠ ';')
    (before after : List Char) :
    decode (before ++ c :: after) = decode before ++ decode (c :: after) := by
  induction before using decode_induction with
  | nil => rfl
  | reference written d text refers ih =>
      rw [List.append_assoc, decode_reference refers, ih, decode_reference refers, List.cons_append]
  | kept d text begins ih =>
      have still := fun ampersand => reference_append_right body semicolon (begins ampersand) after
      rw [List.cons_append, decode_kept still, ih, decode_kept begins, List.cons_append]

/-- The text around a reference is decoded on its own. -/
theorem decode_around {written : List Char} {c : Char} (refers : Refers written c)
    (before after : List Char) :
    decode (before ++ written ++ after) = decode before ++ c :: decode after := by
  have whole := decode_reference refers after
  obtain ⟨body, rfl, -, -⟩ := refers
  rw [List.append_assoc, List.cons_append, decode_append (by decide) (by decide),
    ← List.cons_append, whole]

/-- **Every character of a decoded text comes from one piece**, itself or a reference to it, and
the text before this piece is decoded to what is before the character. -/
theorem exists_piece {text before after : List Char} {c : Char}
    (decoded : decode text = before ++ c :: after) :
    ∃ earlier piece later, text = earlier ++ piece ++ later ∧ decode earlier = before ∧
      (piece = [c] ∨ Refers piece c) := by
  induction text using decode_induction generalizing before with
  | nil => simp at decoded
  | reference written d text refers ih =>
      rw [decode_reference refers] at decoded
      cases before with
      | nil =>
          obtain ⟨rfl, -⟩ := List.cons.inj decoded
          exact ⟨[], written, text, rfl, rfl, .inr refers⟩
      | cons d' before =>
          obtain ⟨rfl, rest⟩ := List.cons.inj decoded
          obtain ⟨earlier, piece, later, rfl, rfl, from_⟩ := ih rest
          exact ⟨written ++ earlier, piece, later, by simp, decode_reference refers earlier, from_⟩
  | kept d text begins ih =>
      rw [decode_kept begins] at decoded
      cases before with
      | nil =>
          obtain ⟨rfl, -⟩ := List.cons.inj decoded
          exact ⟨[], [d], text, rfl, rfl, .inl rfl⟩
      | cons d' before =>
          obtain ⟨rfl, rest⟩ := List.cons.inj decoded
          obtain ⟨earlier, piece, later, rfl, rfl, from_⟩ := ih rest
          have alone : d = '&' → reference? earlier = none := by
            intro ampersand
            rw [List.append_assoc] at begins
            exact reference_append_left (begins ampersand)
          exact ⟨d :: earlier, piece, later, rfl, decode_kept alone, from_⟩

end ChatTemplate.CharReference
