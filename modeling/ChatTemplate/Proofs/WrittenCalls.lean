/-
# ChatTemplate.Proofs.WrittenCalls -- where the calls of a script stand

A source is `Written` with calls of pages when it is these calls with whole tokens between them,
no other call begins anywhere and no name goes on behind one.  The calls are then found where they
stand (`findAll_of_written`).

Each call gives way to a name in turn, and it is looked for as a text.  No call begins in a name
of a page or runs into one (`Quiet`), so what is found first is the call itself
(`insertNames_call`), and the tokens of the text with the names are those of the source with names
in the places of the calls.

Main statements: `findAll_of_written`, `namedSource_insertNames`.
-/
import Mathlib.Data.List.Infix
import ChatTemplate.Proofs.Matching
import ChatTemplate.Proofs.NamedSources
import ChatTemplate.Proofs.PageNames

namespace ChatTemplate

set_option autoImplicit false

/-! ## Tokens and runs -/

/-- Quoted text is taken as it is written up to the mark that closes it. -/
theorem Script.lexQuoted_plain {mark : Char} {content rest : List Char}
    (plain : ∀ c ∈ content, c ≠ mark ∧ c ≠ '\\') (unescaped : mark ≠ '\\') :
    lexQuoted mark (content ++ mark :: rest) = (content, rest) := by
  induction content with
  | nil => simp [lexQuoted, unescaped]
  | cons c content ih =>
      obtain ⟨other, literal⟩ := plain c List.mem_cons_self
      simp [lexQuoted, other, literal, ih fun d member => plain d (List.mem_cons_of_mem c member)]

/-- Nothing goes on with a parenthesis that closes. -/
theorem Script.not_goesOn_rparen (c : Char) : ¬ Symbol.rparen.GoesOn c := by
  rintro (⟨other, -, begins⟩ | ⟨same, -⟩)
  · cases other <;> simp [Symbol.spelling] at begins
  · exact absurd same (by decide)

/-- A lazy run ends at the first place where the rest matches. -/
theorem Pattern.lazyRun_first {cls : CharClass} {next : Continuation} {inside rest : List Char}
    {n : Nat} (within : ∀ c ∈ inside, cls.contains c = true)
    (fails : ∀ later, later <:+ inside → later ≠ [] → ∀ before, next before (later ++ rest) = none)
    (here : ∀ before, next before rest = some n) (before : Option Char) :
    lazyRun cls next before (inside ++ rest) = some (inside.length + n) := by
  induction inside generalizing before with
  | nil =>
      cases rest with
      | nil => simpa [lazyRun] using here before
      | cons c rest => simp [lazyRun, here]
  | cons c inside ih =>
      have later := ih (fun d member => within d (List.mem_cons_of_mem c member))
        (fun later suffix => fails later (suffix.trans (List.suffix_cons c inside))) (some c)
      have not_here := fails (c :: inside) List.suffix_rfl (List.cons_ne_nil c inside) before
      rw [List.cons_append] at not_here ⊢
      rw [lazyRun, not_here, within c List.mem_cons_self, if_pos rfl, later, Option.map_some,
        List.length_cons, Nat.add_right_comm]

namespace Script

/-! ## Sources that are the same at first -/

/-- A point before some tokens has no name behind it there. -/
def Keyless (before behind : List Token) : Prop :=
  before.getLast? = some (.sym .dot) → ∀ key later, behind ≠ .name key :: later

/-- **The word `url` is before a parenthesis only behind a point.** -/
def Uncalled (tokens : List Token) : Prop :=
  ∀ before behind, tokens = before ++ .name "url" :: .sym .lparen :: behind →
    before.getLast? = some (.sym .dot)

theorem uncalled_of_not_mem {tokens : List Token} (absent : .name "url" ∉ tokens) :
    Uncalled tokens := by
  rintro before behind rfl
  exact absurd (List.mem_append_right before List.mem_cons_self) absent

/-- **Tokens that stay as they are** before some others. -/
structure Settled (bound : String → Option Value) (tokens behind : List Token) : Prop where
  others : ∀ word, .name word ∈ tokens → bound word = none
  uncalled : Uncalled tokens
  keyless : Keyless tokens behind

variable {bound : String → Option Value} {tokens behind : List Token}

/-- So do the tokens behind the first of them. -/
theorem Settled.later (front : List Token) (settled : Settled bound (front ++ tokens) behind)
    (keyless : Keyless front tokens) : Settled bound tokens behind where
  others word member := settled.others word (List.mem_append_right front member)
  uncalled := by
    rintro before later rfl
    have point := settled.uncalled (front ++ before) later (List.append_assoc ..).symm
    cases before with
    | nil => exact absurd rfl (keyless (by simpa using point) _ _)
    | cons token before => simpa [List.getLast?_append, List.getLast?_cons] using point
  keyless := by
    intro point
    refine settled.keyless ?_
    rw [List.getLast?_append, point]
    rfl

theorem Settled.tail {token : Token} (settled : Settled bound (token :: tokens) behind)
    (other : token ≠ .sym .dot) : Settled bound tokens behind :=
  settled.later [token] fun point => absurd (Option.some.inj point) other

/-- **Tokens without calls stay as they are before two sources.** -/
theorem NamedSource.after {page : String → Value} {rest rest' : List Token}
    (source : NamedSource page bound rest rest') (opens : ∀ later, rest ≠ .sym .lparen :: later) :
    (tokens : List Token) → Settled bound tokens rest →
      NamedSource page bound (tokens ++ rest) (tokens ++ rest')
  | [], _ => source
  | .sym s :: tokens, settled => by
      by_cases dot : s = .dot
      · subst dot
        cases tokens with
        | nil => exact .point (settled.keyless rfl) source
        | cons token tokens =>
            cases token with
            | name field =>
                have later := settled.later [.sym .dot, .name field] fun point => nomatch point
                exact .key (after source opens tokens later)
            | _ =>
                have later := settled.later [.sym .dot] fun _ _ _ => by simp
                exact .point (by simp) (after source opens _ later)
      · exact .sym dot (after source opens tokens (settled.tail (by simpa using dot)))
  | .name word :: tokens, settled => by
      refine .name (settled.others word List.mem_cons_self) ?_
        (after source opens tokens (settled.tail (by simp)))
      rintro rfl later same
      cases tokens with
      | nil => exact opens later same
      | cons token tokens =>
          obtain rfl := (List.cons.inj same).1
          nomatch settled.uncalled [] tokens rfl
  | .int _ :: tokens, settled => .int (after source opens tokens (settled.tail (by simp)))
  | .float _ :: tokens, settled => .float (after source opens tokens (settled.tail (by simp)))
  | .str _ :: tokens, settled => .str (after source opens tokens (settled.tail (by simp)))
  | .unknown _ :: tokens, settled => .unknown (after source opens tokens (settled.tail (by simp)))
  | .eof :: tokens, settled => .eof (after source opens tokens (settled.tail (by simp)))

end Script

namespace Scripting

open Script (Uncalled Value Symbol lex lexToken isNamePart NamedSource)

/-! ## Calls -/

def IsQuote (c : Char) : Prop :=
  c = '\'' ∨ c = '"'

theorem contains_iff_isQuote {c : Char} : (['\'', '"'].contains c) = true ↔ IsQuote c := by
  simp [IsQuote]

/-- **A call of a page**, whose address is what is written between its quotes. -/
structure PageCall where
  quote : Char
  address : String
  isQuote : IsQuote quote
  /-- No character ends the quoted text or the line, or stands for another one. -/
  plain : ∀ c ∈ address.toList, c ≠ quote ∧ c ≠ '\\' ∧ c ≠ '\n'
  /-- No quote has a parenthesis behind it. -/
  unclosed : ∀ c, IsQuote c → ¬ [c, ')'] <:+: address.toList

/-- What a call begins with. -/
def opening (quote : Char) : List Char :=
  ['u', 'r', 'l', '(', quote]

/-- What the pattern of a call has for the rest of one, from the quote that closes. -/
def closing : Pattern :=
  [.oneOf ['\'', '"'], .char ')']

theorem urlPattern_eq :
    urlPattern = "url(".toList.map Piece.char ++
      .oneOf ['\'', '"'] :: .run .inLine 0 false :: closing :=
  rfl

namespace PageCall

variable (call : PageCall)

/-- How a call is written. -/
def text : List Char :=
  opening call.quote ++ (call.address.toList ++ [call.quote, ')'])

theorem text_ne_nil : call.text ≠ [] :=
  List.cons_ne_nil _ _

/-- The address is what is fetched for the call. -/
theorem addressOf_text : addressOf call.text = call.address := by
  have inside : call.text.drop 5 = call.address.toList ++ [call.quote, ')'] := rfl
  have quoted : call.address.toList ++ [call.quote, ')'] =
      call.address.toList ++ [call.quote] ++ [')'] := by simp
  rw [addressOf, inside, quoted, List.dropLast_concat, List.dropLast_concat, String.ofList_toList]

/-- The rest of a call does not match in its address. -/
theorem closing_fails (rest : List Char) {later : List Char} (suffix : later <:+ call.address.toList)
    (some_ : later ≠ []) (before : Option Char) :
    closing.matchLength? before (later ++ call.quote :: ')' :: rest) = none := by
  match later with
  | [c] =>
      have other : call.quote ≠ ')' := by
        rcases call.isQuote with same | same <;> rw [same] <;> decide
      simp [closing, Pattern.matchLength?, oneChar, other]
  | c :: d :: later =>
      by_cases quote : IsQuote c
      · have other : d ≠ ')' := by
          rintro rfl
          exact call.unclosed c quote (.trans ⟨[], later, rfl⟩ suffix.isInfix)
        simp [closing, Pattern.matchLength?, oneChar, other]
      · simp [closing, Pattern.matchLength?, oneChar, not_or.1 quote]

/-- **A call is matched as a whole.** -/
theorem matchLength_text (rest : List Char) (before : Option Char) :
    urlPattern.matchLength? before (call.text ++ rest) = some call.text.length := by
  have quoted := contains_iff_isQuote.2 call.isQuote
  have ends : ∀ before, closing.matchLength? before (call.quote :: ')' :: rest) = some 2 := by
    intro before
    rw [closing, Pattern.matchLength?, oneChar, quoted]
    rfl
  have contained : ∀ c ∈ call.address.toList, CharClass.inLine.contains c = true :=
    fun c member => by simpa [CharClass.contains] using (call.plain c member).2.2
  have inside := Pattern.lazyRun_first contained
    (fun later suffix some_ => call.closing_fails rest suffix some_) ends
  have behind : ∀ before, Pattern.matchLength?
      (.oneOf ['\'', '"'] :: .run .inLine 0 false :: closing) before
      (call.quote :: (call.address.toList ++ call.quote :: ')' :: rest)) =
        some (call.address.toList.length + 2 + 1) := by
    intro before
    rw [Pattern.matchLength?, oneChar, quoted, if_pos rfl, Pattern.matchLength?, atLeast, inside]
    rfl
  have whole : call.text ++ rest =
      "url(".toList ++ call.quote :: (call.address.toList ++ call.quote :: ')' :: rest) := by
    simp [text, opening]
  rw [urlPattern_eq, whole, Pattern.matchLength_literal behind before]
  simp [text, opening]
  omega

/-- A call is four tokens. -/
theorem lex_text (rest : List Char) :
    lex (call.text ++ rest) =
      .name "url" :: .sym .lparen :: .str call.address :: .sym .rparen :: lex rest := by
  have content : Script.lexQuoted call.quote (call.address.toList ++ call.quote :: ')' :: rest) =
      (call.address.toList, ')' :: rest) :=
    Script.lexQuoted_plain (fun c member => (call.plain c member).imp_right And.left)
    (by rcases call.isQuote with same | same <;> rw [same] <;> decide)
  have quoted : lex (call.quote :: (call.address.toList ++ call.quote :: ')' :: rest)) =
      .str call.address :: lex (')' :: rest) := by
    rcases call.isQuote with same | same <;>
    · rw [same] at content ⊢
      rw [Script.lex_cons (by decide), lexToken, content, if_neg (by simp), if_pos (by simp)]
      simp only [String.ofList_toList]
  have opened : ∀ c ∈ (call.quote :: (call.address.toList ++ call.quote :: ')' :: rest)).head?,
      ¬ Symbol.lparen.GoesOn c := by
    intro c first
    obtain rfl := Option.some.inj first
    rcases call.isQuote with same | same <;> rw [same] <;> decide
  have whole : call.text ++ rest = 'u' :: ['r', 'l'] ++ (Symbol.lparen.spelling.toList ++
      call.quote :: (call.address.toList ++ call.quote :: ')' :: rest)) := by
    simp [text, opening, Symbol.spelling]
  have closed : lex (')' :: rest) = .sym .rparen :: lex rest :=
    Script.lex_symbol fun c _ => Script.not_goesOn_rparen c
  have letters : ['r', 'l'].all isNamePart = true := rfl
  rw [whole, Script.lex_name (by decide) (List.all_eq_true.1 letters) (by rfl),
    Script.lex_symbol opened, quoted, closed]

end PageCall

/-! ## Where calls begin -/

/-- A call of a page begins a text. -/
def BeginsCall (text : List Char) : Prop :=
  ∃ quote, IsQuote quote ∧ opening quote <+: text

theorem beginsCall_text (call : PageCall) (rest : List Char) : BeginsCall (call.text ++ rest) :=
  ⟨call.quote, call.isQuote, _, (List.append_assoc ..).symm⟩

/-- The pattern matches only where a call begins. -/
theorem matchLength_eq_none {text : List Char} (other : ¬ BeginsCall text)
    (before : Option Char) : urlPattern.matchLength? before text = none := by
  by_contra found
  rw [urlPattern_eq, ← ne_eq, Option.ne_none_iff_isSome] at found
  refine other ?_
  obtain ⟨behind, rfl⟩ := Pattern.matchLength_literal_append _ _ _ _ found
  cases behind with
  | nil => nomatch found
  | cons c behind =>
      have quote : IsQuote c := by
        by_contra other
        simp [Pattern.matchLength?, oneChar, not_or.1 other] at found
      exact ⟨c, quote, behind, rfl⟩

/-- No call begins in a text. -/
def CallFree (text : List Char) : Prop :=
  ∀ later, later <:+ text → ¬ BeginsCall later

instance : DecidablePred BeginsCall := fun text =>
  decidable_of_iff (opening '\'' <+: text ∨ opening '"' <+: text) (by simp [BeginsCall, IsQuote])

instance : DecidablePred CallFree := fun text =>
  decidable_of_iff (∀ later ∈ text.tails, ¬ BeginsCall later)
    (forall_congr' fun later => by rw [List.mem_tails])

/-- **No call begins in a text with another one behind it.** -/
def QuietBefore (text behind : List Char) : Prop :=
  ∀ later, later <:+ text → later ≠ [] → ¬ BeginsCall (later ++ behind)

/-- **No call begins in a text, whatever is behind it.** -/
def Quiet (text : List Char) : Prop :=
  ∀ behind, QuietBefore text behind

theorem quiet_nil : Quiet [] :=
  fun _ _ suffix some_ => absurd (List.suffix_nil.1 suffix) some_

theorem QuietBefore.append {text more behind : List Char}
    (first : QuietBefore text (more ++ behind)) (second : QuietBefore more behind) :
    QuietBefore (text ++ more) behind := by
  rintro later ⟨front, same⟩ some_
  rcases List.append_eq_append_iff.1 same with ⟨part, rfl, shape⟩ | ⟨part, -, shape⟩
  · cases part with
    | nil => exact second later ⟨[], shape⟩ some_
    | cons c part =>
        rw [shape, List.append_assoc]
        exact first _ ⟨front, rfl⟩ (List.cons_ne_nil c part)
  · exact second later ⟨part, shape.symm⟩ some_

/-- No call runs from a text without calls into a word that begins as a call does. -/
theorem CallFree.quietBefore {gap : List Char} (free : CallFree gap) (behind : List Char) :
    QuietBefore gap ('u' :: behind) := by
  rintro later suffix some_ ⟨quote, isQuote, more, same⟩
  rcases List.append_eq_append_iff.1 same with ⟨part, shape, -⟩ | ⟨part, shape, begins⟩
  · exact free later suffix ⟨quote, isQuote, part, shape.symm⟩
  · cases part with
    | nil =>
        rw [List.append_nil] at shape
        exact free later suffix ⟨quote, isQuote, [], by rw [List.append_nil, shape]⟩
    | cons c part =>
        obtain rfl : 'u' = c := (List.cons.inj begins).1
        have inside : 'u' ∈ (opening quote).tail := by
          obtain ⟨d, later, rfl⟩ := List.exists_cons_of_ne_nil some_
          rw [shape]
          exact List.mem_append_right later List.mem_cons_self
        rcases isQuote with rfl | rfl <;> exact absurd inside (by decide)

/-! ## Names -/

/-- **A name of a page** is `url` and some hexadecimal digits. -/
theorem exists_digit_of_pageName (n : Nat) :
    ∃ d digits, (pageName n).toList = 'u' :: 'r' :: 'l' :: d :: digits ∧
      ∀ c ∈ d :: digits, ∃ k < 16, c = Nat.digitChar k := by
  obtain ⟨digits, spelled, hexadecimal⟩ := exists_digits_of_pageName n
  have long : 5 ≤ (List.replicate (5 - (Nat.toDigits 16 (n % pageNames)).length) '0' ++
      Nat.toDigits 16 (n % pageNames)).length := by
    rw [List.length_append, List.length_replicate]
    omega
  have same : digits = List.replicate (5 - (Nat.toDigits 16 (n % pageNames)).length) '0' ++
      Nat.toDigits 16 (n % pageNames) := by
    have whole : (pageName n).toList = 'u' :: 'r' :: 'l' :: _ :=
      (String.toList_append ..).trans (congrArg _ String.toList_ofList)
    rw [spelled] at whole
    simpa using whole
  obtain ⟨d, digits, rfl⟩ := List.exists_cons_of_length_pos (l := digits) (by rw [same]; omega)
  exact ⟨d, digits, spelled, hexadecimal⟩

theorem isNamePart_digitChar : ∀ k < 16, isNamePart (Nat.digitChar k) = true := by
  decide

theorem isNamePart_of_mem_pageName {c : Char} {n : Nat} (member : c ∈ (pageName n).toList) :
    isNamePart c = true := by
  obtain ⟨d, digits, spelled, hexadecimal⟩ := exists_digit_of_pageName n
  rw [spelled] at member
  rcases List.mem_cons.1 member with rfl | member
  · decide
  rcases List.mem_cons.1 member with rfl | member
  · decide
  rcases List.mem_cons.1 member with rfl | member
  · decide
  obtain ⟨k, small, rfl⟩ := hexadecimal c member
  exact isNamePart_digitChar k small

/-- **A name of a page is one token** where no name goes on. -/
theorem lex_pageName {rest : List Char} (parted : rest.head?.any isNamePart = false) (n : Nat) :
    lex ((pageName n).toList ++ rest) = .name (pageName n) :: lex rest := by
  obtain ⟨d, digits, spelled, -⟩ := exists_digit_of_pageName n
  have parts : ∀ c ∈ 'r' :: 'l' :: d :: digits, isNamePart c = true := by
    intro c member
    refine isNamePart_of_mem_pageName (n := n) ?_
    rw [spelled]
    exact List.mem_cons_of_mem 'u' member
  rw [spelled, Script.lex_name (by decide) parts parted, ← spelled, String.ofList_toList]

theorem digitChar_apart : ∀ k < 16, Nat.digitChar k ≠ 'u' ∧ Nat.digitChar k ≠ '(' := by
  decide

/-- **No call begins in a name of a page.** -/
theorem quiet_pageName (n : Nat) : Quiet (pageName n).toList := by
  obtain ⟨d, digits, spelled, hexadecimal⟩ := exists_digit_of_pageName n
  rintro behind later ⟨front, same⟩ some_ ⟨quote, -, more, begins⟩
  have digit : ∀ c ∈ d :: digits, c ≠ 'u' ∧ c ≠ '(' := by
    intro c member
    obtain ⟨k, small, rfl⟩ := hexadecimal c member
    exact digitChar_apart k small
  rw [spelled] at same
  cases front with
  | nil =>
      -- the call would have its parenthesis in the place of the first digit
      obtain rfl : later = 'u' :: 'r' :: 'l' :: d :: digits := same
      obtain ⟨paren, -⟩ : '(' = d ∧ quote :: more = digits ++ behind := by
        simpa [opening] using begins
      exact (digit d List.mem_cons_self).2 paren.symm
  | cons c front =>
      -- a call begins with a letter that is the first of the name only
      have first : later.head? = some 'u' := by
        obtain ⟨e, later, rfl⟩ := List.exists_cons_of_ne_nil some_
        exact congrArg some (List.cons.inj begins).1.symm
      have inside : 'u' ∈ 'r' :: 'l' :: d :: digits := by
        rw [← (List.cons.inj same).2]
        exact List.mem_append_right front (List.mem_of_head? first)
      simp only [List.mem_cons, Char.reduceEq, false_or] at inside
      exact (digit 'u' (List.mem_cons.2 inside)).1 rfl

/-! ## Gaps -/

/-- **A text before a call**: it is whole tokens, and calls no page itself. -/
structure Gap (gap : List Char) (tokens : List Script.Token) : Prop where
  callFree : CallFree gap
  whole : ∀ behind, lex (gap ++ 'u' :: behind) = tokens ++ lex ('u' :: behind)
  uncalled : Uncalled tokens
  pointless : tokens.getLast? ≠ some (.sym .dot)

/-- **A source that is written with some calls**, in their order. -/
inductive Written : List Char → List PageCall → Prop
  | last {text : List Char} (callFree : CallFree text) (uncalled : Uncalled (lex text)) :
      Written text []
  | call {gap rest : List Char} {tokens : List Script.Token} {call : PageCall}
      {calls : List PageCall} (before : Gap gap tokens) (parted : rest.head?.any isNamePart = false)
      (later : Written rest calls) : Written (gap ++ (call.text ++ rest)) (call :: calls)

/-- **The calls are found as they stand.** -/
theorem findAll_of_written {source : List Char} {calls : List PageCall}
    (written : Written source calls) : urlPattern.findAll source = calls.map PageCall.text := by
  have advances : urlPattern.matchLength?.Advances := Pattern.matchLength_char_advances 'u' _
  have lists : urlPattern.matchLength?.Lists source (calls.map PageCall.text) := by
    induction written with
    | @last text callFree uncalled =>
        have passed : urlPattern.matchLength?.Lists (text ++ []) [] :=
          .skip (.nil advances) fun later suffix some_ before => ?_
        · rwa [List.append_nil] at passed
        · rw [List.append_nil]
          exact matchLength_eq_none (callFree later suffix) before
    | @call gap rest tokens call calls before parted later ih =>
        exact .skip (.hit ih call.text_ne_nil (call.matchLength_text rest))
          fun later suffix some_ =>
            matchLength_eq_none (before.callFree.quietBefore _ later suffix some_)
  rw [Pattern.findAll_eq_scan]
  exact lists false none

/-! ## Putting names in the places of calls -/

/-- A name for a call. -/
structure Draw where
  name : String
  call : PageCall

/-- **The text in which each call has given way to its name**, one after the other. -/
def insertNames (source : List Char) (draws : List Draw) : List Char :=
  draws.foldl (fun text draw => Text.replaceFirst draw.call.text draw.name.toList text) source

/-- **A call is found first where it stands**, when no call begins before it. -/
theorem replaceFirst_call {before : List Char} {call : PageCall} {rest : List Char}
    (first : QuietBefore before (call.text ++ rest)) (value : List Char) :
    Text.replaceFirst call.text value (before ++ (call.text ++ rest)) =
      before ++ (value ++ rest) := by
  have found : Text.breakOn? call.text (before ++ call.text ++ rest) = some (before, rest) := by
    refine Text.breakOn_first call.text_ne_nil fun later suffix some_ ⟨behind, here⟩ => ?_
    refine first later suffix some_ ?_
    rw [← List.append_assoc, ← here]
    exact beginsCall_text call behind
  rw [← List.append_assoc, Text.replaceFirst_of_breakOn found, List.append_assoc]

/-- A name in the place of a call is quiet, with what is before it. -/
theorem quiet_named {before gap : List Char} (quiet : Quiet before) (free : CallFree gap)
    (n : Nat) : Quiet (before ++ gap ++ (pageName n).toList) := by
  intro behind
  refine ((quiet _).append ?_).append (quiet_pageName n behind)
  obtain ⟨d, digits, spelled, -⟩ := exists_digit_of_pageName n
  rw [spelled]
  exact free.quietBefore _

/-- Every name is one of a page. -/
def PageNamed (draws : List Draw) : Prop :=
  ∀ draw ∈ draws, ∃ n, draw.name = pageName n

/-- The name of the first call stands where the call stood. -/
theorem insertNames_cons {before gap : List Char} (quiet : Quiet before) (free : CallFree gap)
    (n : Nat) (call : PageCall) (rest : List Char) (draws : List Draw) :
    insertNames (before ++ (gap ++ (call.text ++ rest))) (⟨pageName n, call⟩ :: draws) =
      insertNames (before ++ gap ++ (pageName n).toList ++ rest) draws := by
  have first : QuietBefore (before ++ gap) (call.text ++ rest) :=
    (quiet _).append (free.quietBefore _)
  rw [insertNames, List.foldl_cons, ← insertNames, ← List.append_assoc before,
    replaceFirst_call first, ← List.append_assoc _ _ rest]

/-- **What is quiet before a source stays as it is.** -/
theorem insertNames_append {source : List Char} {calls : List PageCall}
    (written : Written source calls) {draws : List Draw} (drawn : draws.map Draw.call = calls)
    (names : PageNamed draws) {before : List Char} (quiet : Quiet before) :
    insertNames (before ++ source) draws = before ++ insertNames source draws := by
  induction written generalizing draws before with
  | last =>
      obtain rfl := List.map_eq_nil_iff.1 drawn
      rfl
  | @call gap rest tokens call calls between parted later ih =>
      obtain ⟨⟨name, call⟩, draws, rfl, rfl, same⟩ := List.map_eq_cons_iff.1 drawn
      obtain ⟨⟨n, rfl⟩, others⟩ := List.forall_mem_cons.1 names
      have step : ∀ before, Quiet before →
          insertNames (before ++ (gap ++ (call.text ++ rest))) (⟨pageName n, call⟩ :: draws) =
            before ++ gap ++ (pageName n).toList ++ insertNames rest draws := by
        intro before quiet
        rw [insertNames_cons quiet between.callFree,
          ih same others (quiet_named quiet between.callFree n)]
      have alone := step [] quiet_nil
      rw [List.nil_append] at alone
      rw [step before quiet, alone]
      simp only [List.append_assoc, List.nil_append]

/-- **The name stands in the place of the call**, and the other calls give way behind it. -/
theorem insertNames_call {gap rest : List Char} (free : CallFree gap) {draws : List Draw}
    (written : Written rest (draws.map Draw.call)) (names : PageNamed draws) (n : Nat)
    (call : PageCall) :
    insertNames (gap ++ (call.text ++ rest)) (⟨pageName n, call⟩ :: draws) =
      gap ++ ((pageName n).toList ++ insertNames rest draws) := by
  have step := insertNames_cons quiet_nil free n call rest draws
  have quiet := quiet_named quiet_nil free n
  rw [List.nil_append] at step quiet
  rw [step, List.nil_append, insertNames_append written rfl names quiet, List.append_assoc]

/-! ## The tokens -/

/-- A text with the names begins with no name if the source does not. -/
theorem parted_insertNames {source : List Char} {calls : List PageCall}
    (written : Written source calls) {draws : List Draw} (drawn : draws.map Draw.call = calls)
    (names : PageNamed draws) (parted : source.head?.any isNamePart = false) :
    (insertNames source draws).head?.any isNamePart = false := by
  cases written with
  | last =>
      obtain rfl := List.map_eq_nil_iff.1 drawn
      exact parted
  | @call gap rest tokens call calls between behind later =>
      obtain ⟨⟨name, call⟩, draws, rfl, rfl, rfl⟩ := List.map_eq_cons_iff.1 drawn
      obtain ⟨⟨n, rfl⟩, others⟩ := List.forall_mem_cons.1 names
      rw [insertNames_call between.callFree later others]
      cases gap with
      | nil => nomatch parted
      | cons c gap =>
          rw [List.cons_append, List.head?_cons] at parted ⊢
          exact parted

/-- **The tokens of the text with the names are those of the source**, with the names in the
places of the calls. -/
theorem namedSource_insertNames {page : String → Value} {bound : String → Option Value}
    {source : List Char} {calls : List PageCall} (written : Written source calls)
    {draws : List Draw} (drawn : draws.map Draw.call = calls) (names : PageNamed draws)
    (known : ∀ draw ∈ draws, bound draw.name = some (page draw.call.address))
    (others : ∀ word, .name word ∈ lex source → bound word = none) :
    NamedSource page bound (lex source) (lex (insertNames source draws)) := by
  induction written generalizing draws with
  | last callFree uncalled =>
      obtain rfl := List.map_eq_nil_iff.1 drawn
      have same : NamedSource page bound (lex _ ++ []) (lex _ ++ []) :=
        NamedSource.nil.after (by simp) _ ⟨others, uncalled, fun _ => by simp⟩
      rwa [List.append_nil] at same
  | @call gap rest tokens call calls between parted later ih =>
      obtain ⟨⟨name, call⟩, draws, rfl, rfl, same⟩ := List.map_eq_cons_iff.1 drawn
      obtain ⟨⟨n, rfl⟩, namesBehind⟩ := List.forall_mem_cons.1 names
      obtain ⟨boundHere, knownBehind⟩ := List.forall_mem_cons.1 known
      obtain ⟨d, digits, spelled, -⟩ := exists_digit_of_pageName n
      have written : lex (gap ++ (call.text ++ rest)) = tokens ++ .name "url" :: .sym .lparen ::
          .str call.address :: .sym .rparen :: lex rest := by
        rw [← call.lex_text]
        exact between.whole _
      have named : lex (insertNames (gap ++ (call.text ++ rest)) (⟨pageName n, call⟩ :: draws)) =
          tokens ++ .name (pageName n) :: lex (insertNames rest draws) := by
        rw [insertNames_call between.callFree (same ▸ later) namesBehind,
          ← lex_pageName (parted_insertNames later same namesBehind parted), spelled]
        exact between.whole _
      rw [written] at others ⊢
      rw [named]
      refine (NamedSource.call boundHere (ih same namesBehind knownBehind ?_)).after (by simp) _
        ⟨?_, between.uncalled, fun point => absurd point between.pointless⟩
      · exact fun word member => others word (by simp [member])
      · exact fun word member => others word (List.mem_append_left _ member)

end Scripting

end ChatTemplate
