/-
# ChatTemplate.Proofs.Lexing -- a source from the front

A token takes at least its first character (`suffix_lexToken`), so the bound of `lexAll`
is never reached and a source can be read from the front: white space is passed over and
a token stands before the tokens of the text after it (`lex_blank`, `lex_cons`).

What a word spells depends on the text after it.  Names and numbers are spelled where no
character goes on with them (`Spells`), a symbol where it is not the beginning of a
longer one (`Symbol.GoesOn`).

Main statements: `spells_name`, `Numeral.spells`, `lex_symbol`.
-/
import ChatTemplate.Proofs.CharCodes
import ChatTemplate.Proofs.Occurrence
import ChatTemplate.Script.Lexer
import ChatTemplate.Script.Value

namespace ChatTemplate.Script

set_option autoImplicit false

/-! ## One token after the other -/

theorem suffix_takePlaces (text : List Char) : (takePlaces text).2 <:+ text := by
  unfold takePlaces
  split
  · split
    · exact (List.dropWhile_suffix _).trans (List.suffix_cons _ _)
    · exact List.suffix_rfl
  · exact List.suffix_rfl

theorem suffix_takeExponent (text : List Char) : (takeExponent text).2 <:+ text := by
  unfold takeExponent
  split
  · split
    · split
      · split
        · exact (List.dropWhile_suffix _).trans (List.suffix_append [_, _] _)
        · exact (List.dropWhile_suffix _).trans (List.suffix_cons _ _)
      · exact List.nil_suffix
    · exact List.suffix_rfl
  · exact List.suffix_rfl

theorem suffix_lexQuoted (mark : Char) (text : List Char) : (lexQuoted mark text).2 <:+ text := by
  fun_induction lexQuoted mark text with
  | case1 => exact List.suffix_rfl
  | case2 => exact List.nil_suffix
  | case3 c text content rest found ih =>
      rw [found] at ih
      exact ih.trans (List.suffix_append [_, _] _)
  | case4 => exact List.suffix_cons _ _
  | case5 c text _ _ _ content rest found ih =>
      rw [found] at ih
      exact ih.trans (List.suffix_cons _ _)

/-- A number takes the digit that it begins with, or its point. -/
theorem suffix_lexNumber_cons {c : Char} {text : List Char}
    (begins : (c.isDigit || (c == '.' && text.head?.any Char.isDigit)) = true) :
    (lexNumber (c :: text)).2 <:+ text := by
  unfold lexNumber
  split
  · next same =>
      obtain ⟨-, rfl⟩ := List.cons.inj same
      exact (List.dropWhile_suffix _).trans (List.suffix_cons _ _)
  · next same =>
      obtain ⟨-, rfl⟩ := List.cons.inj same
      exact (List.dropWhile_suffix _).trans (List.suffix_cons _ _)
  · have places : (takePlaces ((c :: text).dropWhile Char.isDigit)).2 <:+ text := by
      by_cases digit : c.isDigit = true
      · rw [List.dropWhile_cons_of_pos digit]
        exact (suffix_takePlaces _).trans (List.dropWhile_suffix _)
      · rw [List.dropWhile_cons_of_neg digit]
        rw [Bool.not_eq_true] at digit
        rw [digit, Bool.false_or, Bool.and_eq_true] at begins
        obtain ⟨point, follows⟩ := begins
        obtain rfl := eq_of_beq point
        match text with
        | [] => simp at follows
        | d :: text =>
            rw [takePlaces, if_pos (by simpa using follows)]
            exact List.dropWhile_suffix _
    dsimp only
    split <;> exact (suffix_takeExponent _).trans places

theorem Symbol.spelling_ne_nil (symbol : Symbol) : symbol.spelling.toList ≠ [] := by
  cases symbol <;> decide

/-- A token takes at least its first character. -/
theorem suffix_lexToken (c : Char) (text : List Char) : (lexToken c text).2 <:+ text := by
  unfold lexToken
  split
  · next begins => exact suffix_lexNumber_cons begins
  · split
    · exact suffix_lexQuoted c text
    · split
      · exact List.dropWhile_suffix _
      · split
        · next s rest found =>
            obtain ⟨symbol, -, stripped⟩ := List.exists_of_findSome?_eq_some found
            obtain ⟨after, here, same⟩ := Option.map_eq_some_iff.1 stripped
            obtain ⟨-, rfl⟩ := Prod.mk.inj same
            have whole := Text.eq_append_of_stripPrefix here
            obtain ⟨d, spelling, spelled⟩ := List.exists_cons_of_ne_nil symbol.spelling_ne_nil
            rw [spelled, List.cons_append] at whole
            exact ⟨spelling, (List.cons.inj whole).2.symm⟩
        · exact List.suffix_rfl

/-- A bound that is above the number of characters is never reached. -/
theorem lexAll_eq_lex {n : Nat} {text : List Char} (enough : text.length < n) :
    lexAll n text = lex text := by
  have same : ∀ m n (text : List Char), text.length < m → text.length < n →
      lexAll m text = lexAll n text := by
    intro m
    induction m with
    | zero => intro n text short _; omega
    | succ m ih =>
        intro n text short long
        obtain ⟨n, rfl⟩ : ∃ k, n = k + 1 := ⟨n - 1, by omega⟩
        rw [lexAll, lexAll]
        have dropped := (List.dropWhile_suffix isSourceBlank (l := text)).length_le
        split
        · rfl
        · next c rest found =>
            rw [found, List.length_cons] at dropped
            have fewer := (suffix_lexToken c rest).length_le
            dsimp only
            rw [ih n _ (by omega) (by omega)]
  exact same n _ text enough (Nat.lt_succ_self _)

theorem lex_blank {c : Char} (blank : isSourceBlank c = true) (text : List Char) :
    lex (c :: text) = lex text := by
  rw [lex, List.length_cons, lexAll, List.dropWhile_cons_of_pos blank,
    ← lexAll_eq_lex (n := text.length + 2) (by omega), lexAll]

theorem lex_cons {c : Char} (solid : isSourceBlank c = false) (text : List Char) :
    lex (c :: text) = (lexToken c text).1 :: lex (lexToken c text).2 := by
  have fewer := (suffix_lexToken c text).length_le
  rw [lex, List.length_cons, lexAll, List.dropWhile_cons_of_neg (by simp [solid])]
  dsimp only
  rw [lexAll_eq_lex (by omega)]

/-! ## Words -/

/-- The characters that go on with a name or with a number. -/
def goesOn (c : Char) : Bool :=
  isNamePart c || c == '.'

/-- **A word spells a token** wherever no character goes on with it. -/
def Spells (word : List Char) (token : Token) : Prop :=
  ∀ rest : List Char, rest.head?.any goesOn = false → lex (word ++ rest) = token :: lex rest

section

variable {p : Char → Bool} {word rest : List Char}

theorem takeWhile_stops (within : ∀ c ∈ word, p c = true) (ends : rest.head?.any p = false) :
    (word ++ rest).takeWhile p = word := by
  rw [List.takeWhile_append_of_pos within]
  cases rest with
  | nil => rw [List.takeWhile_nil, List.append_nil]
  | cons c rest => rw [List.takeWhile_cons_of_neg (by simpa using ends), List.append_nil]

theorem dropWhile_stops (within : ∀ c ∈ word, p c = true) (ends : rest.head?.any p = false) :
    (word ++ rest).dropWhile p = rest := by
  rw [List.dropWhile_append_of_pos within]
  cases rest with
  | nil => rfl
  | cons c rest => rw [List.dropWhile_cons_of_neg (by simpa using ends)]

/-- Where nothing goes on with a word, nothing that is of a kind of such characters does. -/
theorem ends_of_goesOn (kind : ∀ c, p c = true → goesOn c = true)
    (ends : rest.head?.any goesOn = false) : rest.head?.any p = false := by
  cases rest with
  | nil => rfl
  | cons c rest =>
      rw [Bool.eq_false_iff]
      intro found
      have going : goesOn c = true := kind c (by simpa using found)
      simp [going] at ends

end

theorem isNamePart_of_isDigit {c : Char} (digit : c.isDigit = true) : isNamePart c = true := by
  simp [isNamePart, Char.isAlphanum, digit]

/-! ## Names -/

theorem not_isDigit_of_isNameStart {c : Char} (start : isNameStart c = true) :
    c.isDigit = false := by
  rw [isNameStart, Bool.or_eq_true, Bool.or_eq_true, Text.isAlpha_iff, beq_iff_eq,
    beq_iff_eq] at start
  rw [Bool.eq_false_iff, ne_eq, Text.isDigit_iff]
  rcases start with (letter | rfl) | rfl
  · omega
  · decide
  · decide

/-- A name is one token where no name goes on with it. -/
theorem lex_name {c : Char} {name rest : List Char} (start : isNameStart c = true)
    (parts : ∀ d ∈ name, isNamePart d = true) (ends : rest.head?.any isNamePart = false) :
    lex (c :: name ++ rest) = .name (String.ofList (c :: name)) :: lex rest := by
  have apart : ∀ d, isNameStart d = false → (c == d) = false := by
    rintro d other
    rw [beq_eq_false_iff_ne]
    rintro rfl
    rw [start] at other
    nomatch other
  have solid : isSourceBlank c = false := by
    rw [isSourceBlank, apart ' ' (by decide), apart '\t' (by decide), apart '\n' (by decide),
      apart '\r' (by decide)]
    rfl
  have unquoted : ¬ (c = '"' ∨ c = '\'' ∨ c = '\x60') := by
    rintro (rfl | rfl | rfl) <;> exact absurd start (by decide)
  have token : lexToken c (name ++ rest) = (.name (String.ofList (c :: name)), rest) := by
    rw [lexToken, not_isDigit_of_isNameStart start, apart '.' (by decide), if_neg (by simp),
      if_neg unquoted, if_pos start, takeWhile_stops parts ends, dropWhile_stops parts ends]
  rw [List.cons_append, lex_cons solid, token]

/-- **A name is spelled as it is.** -/
theorem spells_name {c : Char} {name : List Char} (start : isNameStart c = true)
    (parts : ∀ d ∈ name, isNamePart d = true) :
    Spells (c :: name) (.name (String.ofList (c :: name))) :=
  fun _ ends => lex_name start parts (ends_of_goesOn (by simp +contextual [goesOn]) ends)

/-! ## Numbers -/

/-- **A number without a sign**: digits, digits after a point, and an exponent, each of
which may be missing. -/
structure Numeral where
  whole : List Char
  places : List Char
  /-- The letter of an exponent and its sign. -/
  mark : List Char
  power : List Char
  deriving DecidableEq

namespace Numeral

/-- The letters and signs that an exponent can begin with. -/
def marks : List (List Char) :=
  [['e'], ['E'], ['e', '+'], ['E', '+'], ['e', '-'], ['E', '-']]

/-- The number has digits wherever it needs some. -/
structure Proper (numeral : Numeral) : Prop where
  some_ : numeral.whole ++ numeral.places ≠ []
  whole : ∀ c ∈ numeral.whole, c.isDigit = true
  places : ∀ c ∈ numeral.places, c.isDigit = true
  power : ∀ c ∈ numeral.power, c.isDigit = true
  exponent : numeral.mark = [] ∧ numeral.power = [] ∨
    numeral.mark ∈ marks ∧ numeral.power ≠ []

instance (numeral : Numeral) : Decidable numeral.Proper :=
  decidable_of_iff
    (numeral.whole ++ numeral.places ≠ [] ∧ numeral.whole.all Char.isDigit ∧
      numeral.places.all Char.isDigit ∧ numeral.power.all Char.isDigit ∧
      (numeral.mark = [] ∧ numeral.power = [] ∨
        marks.contains numeral.mark ∧ numeral.power ≠ [])) <| by
    simp only [List.all_eq_true, List.contains_iff_mem]
    exact ⟨fun ⟨some_, whole, places, power, exponent⟩ => ⟨some_, whole, places, power, exponent⟩,
      fun proper => ⟨proper.some_, proper.whole, proper.places, proper.power, proper.exponent⟩⟩

/-- The digits after the point with the point, if there are any. -/
def pointed (numeral : Numeral) : List Char :=
  if numeral.places.isEmpty then [] else '.' :: numeral.places

/-- How the number is written. -/
def text (numeral : Numeral) : List Char :=
  numeral.whole ++ (numeral.pointed ++ (numeral.mark ++ numeral.power))

/-- The number as a literal: a whole one if it is written as one and fits a word. -/
def value (numeral : Numeral) : Value :=
  if numeral.places.isEmpty && numeral.mark.isEmpty then
    match Text.readInt64? numeral.whole with
    | some n => .int n
    | none => .float ((Decimal.read? numeral.whole).getD (0.0 / 0.0))
  else .float ((Decimal.read? numeral.text).getD (0.0 / 0.0))

def token (numeral : Numeral) : Token :=
  if numeral.places.isEmpty && numeral.mark.isEmpty then digitsToken numeral.whole
  else floatToken numeral.text

variable {numeral : Numeral} {rest : List Char}

theorem takePlaces_stops (proper : numeral.Proper)
    (ends : rest.head?.any (fun c => c.isDigit || c == '.') = false) :
    takePlaces (numeral.pointed ++ rest) = (numeral.pointed, rest) := by
  have digitless : rest.head?.any Char.isDigit = false := by
    cases rest with
    | nil => rfl
    | cons c rest => simp_all
  rw [pointed]
  cases digits : numeral.places with
  | nil =>
      rw [List.isEmpty_nil, if_pos rfl, List.nil_append]
      unfold takePlaces
      split
      · simp at ends
      · rfl
  | cons d places =>
      have within : ∀ c ∈ d :: places, c.isDigit = true := digits ▸ proper.places
      have first : d.isDigit = true := within d List.mem_cons_self
      rw [List.isEmpty_cons, if_neg (by simp), List.cons_append, List.cons_append, takePlaces,
        if_pos first, ← List.cons_append, takeWhile_stops within digitless,
        dropWhile_stops within digitless]

theorem takeExponent_stops (proper : numeral.Proper) (ends : rest.head?.any goesOn = false) :
    takeExponent (numeral.mark ++ numeral.power ++ rest) =
      (numeral.mark ++ numeral.power, rest) := by
  have digitless : rest.head?.any Char.isDigit = false :=
    ends_of_goesOn (by simp +contextual [goesOn, isNamePart_of_isDigit]) ends
  rcases proper.exponent with ⟨mark, power⟩ | ⟨mark, power⟩
  · rw [mark, power, List.append_nil, List.nil_append]
    cases rest with
    | nil => rfl
    | cons c rest =>
        have other : ¬ (c = 'e' ∨ c = 'E') := by
          rintro (rfl | rfl) <;> nomatch ends
        simp [takeExponent, other]
  · have whole := takeWhile_stops proper.power digitless
    have left := dropWhile_stops proper.power digitless
    obtain ⟨d, digits, spelled⟩ := List.exists_cons_of_ne_nil power
    have first : d.isDigit = true := proper.power d (by simp [spelled])
    have unsigned : ¬ (d = '+' ∨ d = '-') := by
      rintro (rfl | rfl) <;> exact absurd first (by decide)
    rw [List.append_assoc]
    simp only [marks, List.mem_cons, List.not_mem_nil, or_false] at mark
    rw [spelled, List.cons_append] at whole left ⊢
    rcases mark with mark | mark | mark | mark | mark | mark <;>
      simp [mark, takeExponent, whole, left, unsigned]

/-- What comes after the places goes on neither with them nor with a prefix of digits. -/
theorem head_exponent (proper : numeral.Proper) (ends : rest.head?.any goesOn = false) :
    ∀ c ∈ (numeral.mark ++ numeral.power ++ rest).head?,
      c.isDigit = false ∧ c ≠ '.' ∧ c ≠ 'x' ∧ c ≠ 'X' := by
  intro c first
  rcases proper.exponent with ⟨mark, power⟩ | ⟨mark, -⟩
  · rw [mark, power, List.nil_append, List.nil_append] at first
    rw [first, Option.any_some] at ends
    refine ⟨?_, ?_, ?_, ?_⟩
    · rw [Bool.eq_false_iff]
      intro digit
      rw [goesOn, isNamePart_of_isDigit digit] at ends
      nomatch ends
    all_goals
      rintro rfl
      nomatch ends
  · simp only [marks, List.mem_cons, List.not_mem_nil, or_false] at mark
    rcases mark with mark | mark | mark | mark | mark | mark <;>
      · rw [mark] at first
        obtain rfl := Option.some.inj first
        decide

theorem head_pointed (proper : numeral.Proper) (ends : rest.head?.any goesOn = false) :
    ∀ c ∈ (numeral.pointed ++ (numeral.mark ++ numeral.power ++ rest)).head?,
      c.isDigit = false ∧ c ≠ 'x' ∧ c ≠ 'X' := by
  intro c first
  rw [pointed] at first
  split at first
  · obtain ⟨digit, -, apart⟩ := head_exponent proper ends c first
    exact ⟨digit, apart⟩
  · obtain rfl := Option.some.inj first
    decide

/-- Such numbers are not hexadecimal. -/
theorem not_hexadecimal (proper : numeral.Proper) (ends : rest.head?.any goesOn = false)
    {x : Char} (letter : x = 'x' ∨ x = 'X') (later : List Char) :
    numeral.whole ++ (numeral.pointed ++ (numeral.mark ++ numeral.power ++ rest)) ≠
      '0' :: x :: later := by
  intro same
  have after := head_pointed proper ends
  have digits := proper.whole
  generalize numeral.whole = whole at same digits
  match whole with
  | [] =>
      rw [List.nil_append] at same
      rw [same] at after
      exact absurd (after '0' rfl).1 (by decide)
  | [d] =>
      rw [List.singleton_append] at same
      rw [(List.cons.inj same).2] at after
      exact letter.elim (after x rfl).2.1 (after x rfl).2.2
  | d :: e :: whole =>
      have second : e = x := (List.cons.inj (List.cons.inj same).2).1
      have digit := digits e (by simp)
      rcases letter with rfl | rfl <;> rw [second] at digit <;> nomatch digit

theorem lexNumber_stops (proper : numeral.Proper) (ends : rest.head?.any goesOn = false) :
    lexNumber (numeral.text ++ rest) = (numeral.token, rest) := by
  have after := head_pointed proper ends
  have later := head_exponent proper ends
  have written : numeral.text ++ rest =
      numeral.whole ++ (numeral.pointed ++ (numeral.mark ++ numeral.power ++ rest)) := by
    simp only [text, List.append_assoc]
  have digitless : (numeral.pointed ++ (numeral.mark ++ numeral.power ++ rest)).head?.any
      Char.isDigit = false := by
    cases first : (numeral.pointed ++ (numeral.mark ++ numeral.power ++ rest)).head? with
    | none => rfl
    | some c => exact (after c first).1
  have pointless : (numeral.mark ++ numeral.power ++ rest).head?.any
      (fun c => c.isDigit || c == '.') = false := by
    cases first : (numeral.mark ++ numeral.power ++ rest).head? with
    | none => rfl
    | some c => simp [(later c first).1, (later c first).2.1]
  have same : (numeral.pointed.isEmpty && (numeral.mark ++ numeral.power).isEmpty) =
      (numeral.places.isEmpty && numeral.mark.isEmpty) := by
    have places : numeral.pointed.isEmpty = numeral.places.isEmpty := by
      rw [pointed]
      cases numeral.places <;> rfl
    have mark : (numeral.mark ++ numeral.power).isEmpty = numeral.mark.isEmpty := by
      rcases proper.exponent with ⟨mark, power⟩ | ⟨mark, -⟩
      · rw [mark, power]
        rfl
      · cases marked : numeral.mark with
        | nil => rw [marked] at mark; nomatch mark
        | cons c mark => rfl
    rw [places, mark]
  rw [written]
  unfold lexNumber
  split
  · next found => exact absurd found (not_hexadecimal proper ends (.inl rfl) _)
  · next found => exact absurd found (not_hexadecimal proper ends (.inr rfl) _)
  · rw [takeWhile_stops proper.whole digitless, dropWhile_stops proper.whole digitless,
      takePlaces_stops proper pointless]
    dsimp only
    rw [takeExponent_stops proper ends]
    dsimp only
    rw [same, token, text, List.append_assoc]
    split <;> rfl

/-- A number begins with a digit or with a point and a digit. -/
theorem exists_text_cons (proper : numeral.Proper) :
    ∃ c text, numeral.text = c :: text ∧
      ((c.isDigit || (c == '.' && text.head?.any Char.isDigit)) = true) := by
  rw [text]
  cases shape : numeral.whole with
  | cons d whole =>
      have digit : d.isDigit = true := proper.whole d (by simp [shape])
      exact ⟨d, _, rfl, by rw [digit, Bool.true_or]⟩
  | nil =>
      cases places : numeral.places with
      | nil => exact absurd (by rw [shape, places]; rfl) proper.some_
      | cons d places' =>
          have digit : d.isDigit = true := proper.places d (by simp [places])
          rw [pointed, places]
          exact ⟨'.', _, rfl, by simpa using digit⟩

/-- **A number is spelled as it is.** -/
theorem spells (proper : numeral.Proper) : Spells numeral.text numeral.token := by
  intro rest ends
  have stops := lexNumber_stops proper ends
  obtain ⟨c, text, shape, begins⟩ := exists_text_cons proper
  have solid : isSourceBlank c = false := by
    rw [Bool.eq_false_iff]
    intro blank
    simp only [isSourceBlank, Bool.or_eq_true, beq_iff_eq] at blank
    rcases blank with ((rfl | rfl) | rfl) | rfl <;> nomatch begins
  have begins' : (c.isDigit || (c == '.' && (text ++ rest).head?.any Char.isDigit)) = true := by
    cases text with
    | cons d text => exact begins
    | nil => simp_all
  rw [shape, List.cons_append] at stops ⊢
  rw [lex_cons solid, lexToken, if_pos begins', stops]

end Numeral

/-! ## Symbols -/

/-- A character goes on with a symbol: it makes a longer one of it, or a number of a point. -/
def Symbol.GoesOn (symbol : Symbol) (c : Char) : Prop :=
  (∃ other ∈ Symbol.all, symbol.spelling.toList ++ [c] <+: other.spelling.toList) ∨
    symbol = .dot ∧ c.isDigit = true

instance (symbol : Symbol) (c : Char) : Decidable (symbol.GoesOn c) :=
  inferInstanceAs (Decidable (_ ∨ _))

theorem Symbol.mem_all (symbol : Symbol) : symbol ∈ Symbol.all := by
  cases symbol <;> decide

/-- No symbol is looked for after one that it begins with. -/
theorem Symbol.longest_first :
    Symbol.all.Pairwise fun one other => ¬ one.spelling.toList <+: other.spelling.toList := by
  decide

variable {symbol : Symbol} {rest : List Char}

theorem lexSymbol_spelling (ends : ∀ c ∈ rest.head?, ¬ symbol.GoesOn c) :
    lexSymbol? (symbol.spelling.toList ++ rest) = some (symbol, rest) := by
  obtain ⟨earlier, later, split⟩ := List.append_of_mem symbol.mem_all
  refine List.findSome?_eq_some_iff.2 ⟨earlier, symbol, later, split, ?_, fun other member => ?_⟩
  · rw [Text.stripPrefix_append]
    rfl
  · have apart : ¬ other.spelling.toList <+: symbol.spelling.toList := by
      have ordered := Symbol.longest_first
      rw [split, List.pairwise_append] at ordered
      exact ordered.2.2 other member symbol List.mem_cons_self
    rw [Option.map_eq_none_iff, Text.stripPrefix_eq_none]
    rintro ⟨left, whole⟩
    rcases List.append_eq_append_iff.1 whole with ⟨more, spelled, -⟩ | ⟨more, spelled, same⟩
    · exact apart ⟨more, spelled.symm⟩
    · cases more with
      | nil => exact apart (by simp [spelled])
      | cons c more =>
          refine ends c (by rw [same]; rfl) (.inl ⟨other, other.mem_all, more, ?_⟩)
          rw [spelled, List.append_assoc, List.singleton_append]

/-- No token but a symbol begins as a symbol does. -/
theorem Symbol.first_char (symbol : Symbol) : ∃ c spelling, symbol.spelling.toList = c :: spelling ∧
    isSourceBlank c = false ∧ c.isDigit = false ∧ (c ≠ '"' ∧ c ≠ '\'' ∧ c ≠ '\x60') ∧
    isNameStart c = false ∧ (c = '.' → symbol = .dot ∧ spelling = []) := by
  cases symbol <;> exact ⟨_, _, rfl, by decide, by decide, by decide, by decide, by decide⟩

/-- **A symbol is spelled as it is**, where no character goes on with it. -/
theorem lex_symbol (ends : ∀ c ∈ rest.head?, ¬ symbol.GoesOn c) :
    lex (symbol.spelling.toList ++ rest) = .sym symbol :: lex rest := by
  have found := lexSymbol_spelling ends
  obtain ⟨c, spelling, spelled, solid, digit, unquoted, start, point⟩ := symbol.first_char
  have pointless : (c == '.' && (spelling ++ rest).head?.any Char.isDigit) = false := by
    rw [Bool.and_eq_false_imp, beq_iff_eq]
    intro here
    obtain ⟨rfl, rfl⟩ := point here
    cases rest with
    | nil => rfl
    | cons d rest => exact Bool.eq_false_iff.2 fun follows => ends d rfl (.inr ⟨rfl, follows⟩)
  rw [spelled, List.cons_append] at found ⊢
  rw [lex_cons solid, lexToken, digit, pointless, if_neg (by simp), if_neg (by simp [unquoted]),
    if_neg (by simp [start]), found]

end ChatTemplate.Script
