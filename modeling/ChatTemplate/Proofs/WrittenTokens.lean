/-
# ChatTemplate.Proofs.WrittenTokens -- tokens as they are written

Tokens are written with a space between neighbours: numbers in decimal, names and symbols as
they are spelled, text between quotation marks with a backslash before every quotation mark
and every backslash in it (`escaped`).  A space goes on with nothing, so each word spells its
token (`lex_written`), and the lexer gives the tokens back.

Floats have more spellings than one, and characters that begin no token are none of the
language; neither are written here.

Main statement: `lexing_undoes_writing`.
-/
import ChatTemplate.Proofs.IntegerText
import ChatTemplate.Proofs.Lexing

namespace ChatTemplate.Script

set_option autoImplicit false

/-! ## Writing -/

/-- Text as it stands between quotation marks. -/
def escaped (content : List Char) : List Char :=
  content.flatMap fun c => if c = '\\' ∨ c = '"' then ['\\', c] else [c]

/-- Whether the lexer reads some characters as one name. -/
def isName : List Char → Bool
  | [] => false
  | c :: parts => isNameStart c && parts.all isNamePart

namespace Token

/-- **How a token is written.** -/
def written : Token → List Char
  | .int n => Text.writeInt n.toInt
  | .str s => '"' :: (escaped s.toList ++ ['"'])
  | .name s => s.toList
  | .sym s => s.spelling.toList
  | .float _ | .unknown _ | .eof => []

/-- **The tokens that can be written**: whole numbers without a sign, names of the lexer's
letters, any text and any symbol. -/
def Writable : Token → Prop
  | .int n => 0 ≤ n.toInt
  | .name s => isName s.toList = true
  | .str _ | .sym _ => True
  | .float _ | .unknown _ | .eof => False

instance (token : Token) : Decidable token.Writable :=
  match token with
  | .int n => inferInstanceAs (Decidable (0 ≤ n.toInt))
  | .name s => inferInstanceAs (Decidable (isName s.toList = true))
  | .str _ | .sym _ => isTrue trivial
  | .float _ | .unknown _ | .eof => isFalse id

end Token

/-- Tokens with a space between neighbours. -/
def writeTokens (tokens : List Token) : List Char :=
  Text.join [' '] (tokens.map Token.written)

theorem writeTokens_singleton (token : Token) : writeTokens [token] = token.written := by
  rw [writeTokens, Text.join, List.map_singleton, List.intercalate_singleton]

theorem writeTokens_cons_cons (token next : Token) (tokens : List Token) :
    writeTokens (token :: next :: tokens) =
      token.written ++ ' ' :: writeTokens (next :: tokens) := by
  rw [writeTokens, List.map_cons, Text.join_cons_of_ne_nil _ (by simp), List.append_assoc]
  rfl

/-! ## Reading -/

/-- **Text is read up to the mark that closes it**, whatever stands in it. -/
theorem lexQuoted_escaped (content rest : List Char) :
    lexQuoted '"' (escaped content ++ '"' :: rest) = (content, rest) := by
  induction content with
  | nil =>
      rw [escaped, List.flatMap_nil, List.nil_append, lexQuoted, if_pos rfl]
      · exact nofun
      · exact nofun
  | cons c content ih =>
      rw [escaped, List.flatMap_cons, ← escaped, List.append_assoc]
      by_cases special : c = '\\' ∨ c = '"'
      · have plain : c ≠ 'n' ∧ c ≠ 't' := by
          rcases special with rfl | rfl <;> decide
        rw [if_pos special, List.cons_append, List.singleton_append, lexQuoted, ih,
          if_neg plain.1, if_neg plain.2]
      · obtain ⟨slash, mark⟩ := not_or.1 special
        rw [if_neg special, List.singleton_append, lexQuoted, if_neg mark, ih]
        · exact fun same _ => slash same
        · exact fun _ _ same _ => slash same

/-- Where a word ends: at the end of the source or at a space. -/
def WordEnds (rest : List Char) : Prop :=
  ∀ c ∈ rest.head?, c = ' '

variable {rest : List Char}

theorem WordEnds.goesOn (ends : WordEnds rest) : rest.head?.any goesOn = false := by
  cases rest with
  | nil => rfl
  | cons c rest => rw [ends c rfl, List.head?_cons, Option.any_some]; rfl

/-- **Digits alone spell what is made of them**, a whole number or a float. -/
theorem spells_writeNat (n : Nat) : Spells (Text.writeNat n) (digitsToken (Text.writeNat n)) := by
  let numeral : Numeral := ⟨Text.writeNat n, [], [], []⟩
  have proper : numeral.Proper :=
    { some_ := by simp [numeral, Text.writeNat_ne_nil]
      whole := fun _ => Text.isDigit_of_mem_writeNat
      places := nofun
      power := nofun
      exponent := .inl ⟨rfl, rfl⟩ }
  have spelled : numeral.text = Text.writeNat n := List.append_nil _
  have spells := numeral.spells proper
  rwa [spelled] at spells

/-- **A written token is read back**, where the word ends. -/
theorem lex_written {token : Token} (writable : token.Writable) (ends : WordEnds rest) :
    lex (token.written ++ rest) = token :: lex rest := by
  cases token with
  | int n =>
      have unsigned : Text.writeInt n.toInt = Text.writeNat n.toInt.natAbs :=
        if_neg (Int.not_lt.2 writable)
      have value : digitsToken (Text.writeNat n.toInt.natAbs) = .int n := by
        rw [← unsigned, digitsToken, Text.readInt64_writeInt]
      rw [Token.written, unsigned, ← value]
      exact spells_writeNat n.toInt.natAbs rest ends.goesOn
  | name s =>
      obtain ⟨c, parts, spelled⟩ : ∃ c parts, s.toList = c :: parts := by
        cases shape : s.toList with
        | nil => rw [Token.Writable, shape] at writable; nomatch writable
        | cons c parts => exact ⟨c, parts, rfl⟩
      rw [Token.Writable, spelled, isName, Bool.and_eq_true, List.all_eq_true] at writable
      have spells := spells_name writable.1 writable.2 rest ends.goesOn
      rwa [← spelled, String.ofList_toList] at spells
  | str s =>
      rw [Token.written, List.cons_append, List.append_assoc, List.singleton_append,
        lex_cons rfl, lexToken, if_neg (by simp), if_pos (.inl rfl), lexQuoted_escaped]
      dsimp only
      rw [String.ofList_toList]
  | sym s =>
      have apart : ∀ symbol ∈ Symbol.all, ¬ symbol.GoesOn ' ' := by decide
      refine lex_symbol fun c first => ?_
      rw [ends c first]
      exact apart s s.mem_all
  | float _ => exact writable.elim
  | unknown _ => exact writable.elim
  | eof => exact writable.elim

/-- **Lexing undoes writing**: whatever tokens are written, they are read, and behind them the
end of the source. -/
theorem lexing_undoes_writing (tokens : List Token)
    (writable : ∀ token ∈ tokens, token.Writable) :
    lex (writeTokens tokens) = tokens ++ [.eof] := by
  induction tokens with
  | nil => rfl
  | cons token tokens ih =>
      obtain ⟨here, later⟩ := List.forall_mem_cons.1 writable
      have rest := ih later
      cases tokens with
      | nil =>
          have ends : WordEnds [] := nofun
          have alone := lex_written here ends
          rw [writeTokens_singleton]
          rwa [List.append_nil] at alone
      | cons next tokens =>
          have ends : WordEnds (' ' :: writeTokens (next :: tokens)) := fun c first =>
            (Option.some.inj first).symm
          rw [writeTokens_cons_cons, lex_written here ends, lex_blank rfl, rest]
          rfl

/-- `greeting += "say \"\\n\" to Zoë" === 9223372036854775807`. -/
def greeting : List Token :=
  [ .name "greeting", .sym .plusAssign, .str "say \"\\n\" to Zoë", .sym .strictEq,
    .int 9223372036854775807 ]

theorem greeting_is_read_back :
    (∀ token ∈ greeting, token.Writable) ∧
      String.ofList (writeTokens greeting) =
        "greeting += \"say \\\"\\\\n\\\" to Zoë\" === 9223372036854775807" ∧
      lex (writeTokens greeting) = greeting ++ [.eof] := by
  have writable : ∀ token ∈ greeting, token.Writable := by decide
  exact ⟨writable, by decide +kernel, lexing_undoes_writing greeting writable⟩

end ChatTemplate.Script
