/-
# ChatTemplate.Proofs.QuotedArguments -- arguments in quotes

Any text can be an argument of a directive: it stands between double quotes, with a backslash
before every double quote and every backslash in it (`quoted`), as text does in scripts
(`Script.escaped`).  Between the quotes nothing ends an argument, and the quotes make it count even
when nothing is between them, so arguments in quotes are split as they were put together, however
many spaces are between them.

Main statement: `splitArguments_quotes`.
-/
import ChatTemplate.Proofs.WrittenTokens
import ChatTemplate.WorldFile.Argument

namespace ChatTemplate.WorldFile

set_option autoImplicit false

/-! ## Writing -/

/-- An argument between double quotes. -/
def quoted (argument : String) : List Char :=
  '"' :: (Script.escaped argument.toList ++ ['"'])

/-- **Arguments in quotes**, with one space or more between neighbours. -/
inductive Quotes : List String → List Char → Prop
  | none : Quotes [] []
  | one (argument : String) : Quotes [argument] (quoted argument)
  | more (argument : String) (gap : Nat) {next : String} {others : List String}
      {text : List Char} (onward : Quotes (next :: others) text) :
      Quotes (argument :: next :: others) (quoted argument ++ ' ' :: List.replicate gap ' ' ++ text)

/-! ## Splitting -/

variable {current rest : List Char} {seen : Bool}

theorem splitFrom_mark (inside : Bool) :
    splitFrom current seen inside ('"' :: rest) = splitFrom current true (!inside) rest := by
  rw [splitFrom]

theorem splitFrom_backslash (c : Char) :
    splitFrom current seen true ('\\' :: c :: rest) = splitFrom (c :: current) seen true rest := by
  rw [splitFrom, if_pos rfl]

theorem splitFrom_inside {c : Char} (mark : c ≠ '"') (backslash : c ≠ '\\') :
    splitFrom current seen true (c :: rest) = splitFrom (c :: current) seen true rest := by
  rw [splitFrom, Bool.not_true, Bool.and_false]
  · simp
  · exact mark
  · exact backslash

theorem splitFrom_space :
    splitFrom current seen false (' ' :: rest) =
      if current.isEmpty && !seen then splitFrom [] false false rest
      else current.reverse :: splitFrom [] false false rest := by
  rw [splitFrom]
  · rfl
  · decide
  · decide

/-- **Between quotes, what is escaped is taken as it was**, also the white space in it. -/
theorem splitFrom_escaped (content : List Char) :
    splitFrom current seen true (Script.escaped content ++ rest) =
      splitFrom (content.reverse ++ current) seen true rest := by
  induction content generalizing current with
  | nil => rfl
  | cons c content ih =>
      rw [Script.escaped, List.flatMap_cons, ← Script.escaped, List.append_assoc,
        List.reverse_cons, List.append_assoc, List.singleton_append]
      by_cases special : c = '\\' ∨ c = '"'
      · rw [if_pos special, List.cons_append, List.singleton_append, splitFrom_backslash, ih]
      · obtain ⟨backslash, mark⟩ := not_or.1 special
        rw [if_neg special, List.singleton_append, splitFrom_inside mark backslash, ih]

/-- Behind its closing quote an argument is there, even if it is empty. -/
theorem splitFrom_quoted (argument : String) :
    splitFrom [] false false (quoted argument ++ rest) =
      splitFrom argument.toList.reverse true false rest := by
  rw [quoted, List.cons_append, List.append_assoc, List.singleton_append, splitFrom_mark,
    Bool.not_false, splitFrom_escaped, splitFrom_mark, List.append_nil, Bool.not_true]

theorem splitFrom_spaces (gap : Nat) :
    splitFrom [] false false (List.replicate gap ' ' ++ rest) = splitFrom [] false false rest := by
  induction gap with
  | zero => rfl
  | succ gap ih =>
      rw [List.replicate_succ, List.cons_append, splitFrom_space, ih]
      rfl

theorem splitFrom_quotes {arguments : List String} {text : List Char}
    (quotes : Quotes arguments text) :
    splitFrom [] false false text = arguments.map String.toList := by
  induction quotes with
  | none => rfl
  | one argument =>
      have alone : splitFrom [] false false (quoted argument ++ []) = _ :=
        splitFrom_quoted argument
      rw [List.append_nil] at alone
      simp [alone, splitFrom]
  | more argument gap onward ih =>
      -- The first space ends the argument, the others end nothing.
      rw [List.append_assoc, splitFrom_quoted, List.cons_append, splitFrom_space, splitFrom_spaces,
        ih]
      simp

/-- **Splitting gives back the arguments that were put in quotes**, whatever characters they are
made of and even if there are none. -/
theorem splitArguments_quotes {arguments : List String} {text : List Char}
    (quotes : Quotes arguments text) : splitArguments text = arguments := by
  rw [splitArguments, splitFrom_quotes quotes, List.map_map]
  simp

/-- An empty argument between two others, and one with all that is special outside quotes. -/
theorem awkward_arguments_are_split :
    Quotes ["", "a \"b\" \\", "é"] "\"\"   \"a \\\"b\\\" \\\\\" \"é\"".toList ∧
      splitArguments "\"\"   \"a \\\"b\\\" \\\\\" \"é\"".toList = ["", "a \"b\" \\", "é"] := by
  have quotes : Quotes ["", "a \"b\" \\", "é"] "\"\"   \"a \\\"b\\\" \\\\\" \"é\"".toList :=
    .more "" 2 (.more "a \"b\" \\" 0 (.one "é"))
  exact ⟨quotes, splitArguments_quotes quotes⟩

end ChatTemplate.WorldFile
