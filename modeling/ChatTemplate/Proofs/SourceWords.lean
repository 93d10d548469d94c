/-
# ChatTemplate.Proofs.SourceWords -- the words of a source

Every name among the tokens of a source is a word of its text (`sourceOf_lex`).  A point
right before a word is a token of its own: no other token ends with a point, unless it is
quoted text that nobody closes, which nothing follows (`leaves_lexToken`).  So a name
that stands behind a point in the text stands behind one among the tokens, too, where
the grammar takes it for a member or a method and not for a name of its own.

Main statement: `uses_of_source`, whatever a script reads it reads under words of its
text.
-/
import ChatTemplate.Proofs.Lexing
import ChatTemplate.Proofs.ParserInvariant
import ChatTemplate.Proofs.Resemblance

namespace ChatTemplate

set_option autoImplicit false

/-! ## Words in a text -/

/-- **A word stands in a text**, and right behind a point only if that is allowed. -/
def Text.StandsIn (word : List Char) (pointed : Bool) (text : List Char) : Prop :=
  ∃ before after, text = before ++ word ++ after ∧
    (before.getLast? = some '.' → pointed = true)

namespace Script

/-- A name stands in a text. -/
def Token.StandsIn (text : List Char) (pointed : Bool) : Token → Prop
  | .name word => Text.StandsIn word.toList pointed text
  | _ => True

/-! ## What tokens end with -/

/-- What is left of a text is nothing, or it does not begin behind a point that was
taken. -/
def Leaves (text rest : List Char) : Prop :=
  rest = [] ∨ ∃ taken, text = taken ++ rest ∧ taken.getLast? ≠ some '.'

namespace Leaves

theorem refl (text : List Char) : Leaves text text :=
  .inr ⟨[], rfl, nofun⟩

theorem trans {text middle rest : List Char} (first : Leaves text middle)
    (second : Leaves middle rest) : Leaves text rest := by
  rcases second with none | ⟨later, rfl, last⟩
  · exact .inl none
  · rcases first with none | ⟨taken, rfl, first⟩
    · exact .inl (List.append_eq_nil_iff.1 none).2
    · refine .inr ⟨taken ++ later, by rw [List.append_assoc], ?_⟩
      rw [List.getLast?_append]
      cases ends : later.getLast? with
      | none => exact first
      | some c =>
          rw [ends] at last
          exact last

theorem cons {c : Char} (other : c ≠ '.') (text : List Char) : Leaves (c :: text) text :=
  .inr ⟨[c], rfl, fun same => other (Option.some.inj same)⟩

theorem dropWhile {p : Char → Bool} (other : p '.' = false) (text : List Char) :
    Leaves text (text.dropWhile p) := by
  refine .inr ⟨text.takeWhile p, (List.takeWhile_append_dropWhile).symm, fun last => ?_⟩
  have within := List.mem_takeWhile_imp (List.mem_of_getLast? last)
  rw [other] at within
  nomatch within

end Leaves

theorem leaves_takePlaces (text : List Char) : Leaves text (takePlaces text).2 := by
  unfold takePlaces
  split
  · next c text =>
      split
      · next digit =>
          have pointless : c ≠ '.' := by
            rintro rfl
            nomatch digit
          have behind : Leaves ('.' :: c :: text) text :=
            .inr ⟨['.', c], rfl, fun same => pointless (Option.some.inj same)⟩
          rw [List.dropWhile_cons_of_pos digit]
          exact behind.trans (.dropWhile (by decide) text)
      · exact .refl _
  · exact .refl _

theorem leaves_takeExponent (text : List Char) : Leaves text (takeExponent text).2 := by
  unfold takeExponent
  split
  · next c text =>
      split
      · next letter =>
          have pointless : c ≠ '.' := by
            rintro rfl
            exact absurd letter (by decide)
          split
          · next s digits =>
              split
              · next sign =>
                  have unpointed : s ≠ '.' := by
                    rintro rfl
                    exact absurd sign (by decide)
                  exact (Leaves.cons pointless _).trans
                    ((Leaves.cons unpointed _).trans (.dropWhile (by decide) _))
              · exact (Leaves.cons pointless _).trans (.dropWhile (by decide) _)
          · exact .inl rfl
      · exact .refl _
  · exact .refl _

theorem leaves_lexNumber (text : List Char) : Leaves text (lexNumber text).2 := by
  have hexadecimal : ∀ x rest, x ≠ '.' →
      Leaves ('0' :: x :: rest) (rest.dropWhile isHexDigit) := fun x rest other =>
    (Leaves.cons (by decide) _).trans ((Leaves.cons other _).trans (.dropWhile (by decide) _))
  have whole : Leaves text (text.dropWhile Char.isDigit) := .dropWhile (by decide) text
  unfold lexNumber
  split
  · exact hexadecimal _ _ (by decide)
  · exact hexadecimal _ _ (by decide)
  · dsimp only
    split <;> exact whole.trans ((leaves_takePlaces _).trans (leaves_takeExponent _))

/-- Quoted text ends with its mark, or the source ends in it. -/
theorem closes_lexQuoted (mark : Char) (text : List Char) :
    (lexQuoted mark text).2 = [] ∨
      ∃ inside, text = inside ++ mark :: (lexQuoted mark text).2 := by
  fun_induction lexQuoted mark text with
  | case1 => exact .inl rfl
  | case2 => exact .inl rfl
  | case3 c text content rest found ih =>
      rw [found] at ih
      rcases ih with none | ⟨inside, same⟩
      · exact .inl none
      · exact .inr ⟨'\\' :: c :: inside, by rw [same]; rfl⟩
  | case4 => exact .inr ⟨[], rfl⟩
  | case5 c text _ _ _ content rest found ih =>
      rw [found] at ih
      rcases ih with none | ⟨inside, same⟩
      · exact .inl none
      · exact .inr ⟨c :: inside, by rw [same]; rfl⟩

/-- **Only a point ends with a point**, among tokens that others follow. -/
theorem leaves_lexToken (c : Char) (text : List Char) :
    (lexToken c text).1 = .sym .dot ∨ Leaves (c :: text) (lexToken c text).2 := by
  unfold lexToken
  split
  · exact .inr (leaves_lexNumber _)
  · split
    · next quote =>
        have other : c ≠ '.' := by
          rintro rfl
          exact absurd quote (by decide)
        refine .inr ((closes_lexQuoted c text).imp id ?_)
        rintro ⟨inside, same⟩
        refine ⟨c :: (inside ++ [c]), ?_, ?_⟩
        · dsimp only
          rw [List.cons_append, List.append_assoc, List.singleton_append, ← same]
        · rw [← List.cons_append, List.getLast?_concat]
          exact fun same => other (Option.some.inj same)
    · split
      · next start =>
          have other : c ≠ '.' := by
            rintro rfl
            nomatch start
          exact .inr ((Leaves.cons other _).trans (.dropWhile (by decide) _))
      · split
        · next s rest found =>
            obtain ⟨symbol, -, stripped⟩ := List.exists_of_findSome?_eq_some found
            obtain ⟨after, here, same⟩ := Option.map_eq_some_iff.1 stripped
            obtain ⟨rfl, rfl⟩ := Prod.mk.inj same
            by_cases dot : symbol = .dot
            · exact .inl (congrArg Token.sym dot)
            · refine .inr (.inr ⟨_, Text.eq_append_of_stripPrefix here, ?_⟩)
              cases symbol <;> first | exact absurd rfl dot | decide
        · next absent =>
            have other : c ≠ '.' := by
              rintro rfl
              have here := List.findSome?_eq_none_iff.1 absent .dot (by decide)
              simp [Symbol.spelling, Text.stripPrefix?] at here
            exact .inr (.cons other text)

theorem lexNumber_ne_name (text : List Char) (word : String) :
    (lexNumber text).1 ≠ .name word := by
  have hex : ∀ digits, hexToken digits ≠ .name word := by
    intro digits
    unfold hexToken
    split <;> nofun
  have float : ∀ text, floatToken text ≠ .name word := by
    intro text
    unfold floatToken
    split <;> nofun
  have digits : ∀ text, digitsToken text ≠ .name word := by
    intro text
    unfold digitsToken
    split
    · nofun
    · exact float _
  unfold lexNumber
  split
  · exact hex _
  · exact hex _
  · dsimp only
    split
    · exact digits _
    · exact float _

/-- A name takes its own characters. -/
theorem taken_of_name {c : Char} {text : List Char} {word : String}
    (named : (lexToken c text).1 = .name word) :
    c :: text = word.toList ++ (lexToken c text).2 := by
  unfold lexToken at named ⊢
  split at named
  · exact absurd named (lexNumber_ne_name _ _)
  · next plain =>
      rw [if_neg plain]
      split at named
      · nomatch named
      · next unquoted =>
          rw [if_neg unquoted]
          split at named
          · next start =>
              rw [if_pos start, ← Token.name.inj named, String.toList_ofList, List.cons_append,
                List.takeWhile_append_dropWhile]
          · split at named <;> nomatch named

/-! ## The names of a source -/

/-- Behind what does not end with a point there is none, unless there was one before. -/
theorem getLast_append_of_unpointed {before taken : List Char}
    (last : taken.getLast? ≠ some '.') (point : (before ++ taken).getLast? = some '.') :
    taken = [] ∧ before.getLast? = some '.' := by
  rw [List.getLast?_append] at point
  cases ends : taken.getLast? with
  | none =>
      rw [ends] at point
      exact ⟨List.getLast?_eq_none_iff.1 ends, point⟩
  | some d =>
      rw [ends] at point last
      exact absurd point last

theorem standsIn_lexToken {before rest : List Char} {c : Char} {pointed : Bool}
    (behind : before.getLast? = some '.' → pointed = true) :
    (lexToken c rest).1.StandsIn (before ++ c :: rest) pointed := by
  cases token : (lexToken c rest).1 with
  | name word =>
      exact ⟨before, (lexToken c rest).2, by rw [taken_of_name token, List.append_assoc], behind⟩
  | _ => trivial

theorem admitted_lexAll {whole : List Char} (n : Nat) (before : List Char) {text : List Char}
    {pointed : Bool} (split : whole = before ++ text)
    (behind : before.getLast? = some '.' → pointed = true) :
    Admitted (Token.StandsIn whole) pointed (lexAll n text) := by
  induction n generalizing before text pointed with
  | zero => exact ⟨trivial, trivial⟩
  | succ n ih =>
      rw [lexAll]
      split
      · exact ⟨trivial, trivial⟩
      · next c rest found =>
          -- white space is no point, so the token stands behind one if the text does
          obtain ⟨before, rfl, behind⟩ : ∃ before, whole = before ++ c :: rest ∧
              (before.getLast? = some '.' → pointed = true) := by
            have blanks := Leaves.dropWhile (p := isSourceBlank) (by decide) text
            rw [found] at blanks
            rcases blanks with none | ⟨blanks, same, last⟩
            · exact absurd none (List.cons_ne_nil _ _)
            · refine ⟨before ++ blanks, by rw [split, same, List.append_assoc], fun point => ?_⟩
              exact behind (getLast_append_of_unpointed last point).2
          have fewer := (suffix_lexToken c rest).length_le
          dsimp only
          rw [Admitted]
          refine ⟨standsIn_lexToken behind, ?_⟩
          rcases leaves_lexToken c rest with dot | none | ⟨taken, same, last⟩
          · obtain ⟨taken, same⟩ := suffix_lexToken c rest
            rw [dot]
            refine ih (before ++ c :: taken) ?_ fun _ => rfl
            rw [List.append_assoc, List.cons_append, same]
          · rw [none]
            cases n <;> exact ⟨trivial, trivial⟩
          · refine ih (before ++ taken) (by rw [List.append_assoc, ← same]) fun point => ?_
            rw [(getLast_append_of_unpointed last point).1] at same
            rw [← List.nil_append (lexToken c rest).2, ← same, List.length_cons] at fewer
            omega

/-- **Every name of a source is a word of its text**, behind a point only if that is the
token before it. -/
theorem sourceOf_lex (text : List Char) : SourceOf (Token.StandsIn text) (lex text) :=
  admitted_lexAll _ [] rfl nofun

/-! ## Where scripts read -/

/-- What is read is read under names that are admitted where they stand. -/
def Use.From (admits : Bool → Token → Prop) : Use → Prop
  | whole name => admits false (.name name)
  | part name (.member key) => admits false (.name name) ∧ admits true (.name key)
  | part name (.index _) => admits false (.name name)
  | constant _ _ => True

variable {admits : Bool → Token → Prop} {dialect : Dialect}

theorem mem_usesOfAll {use : Use} {es : List Expr} :
    use ∈ usesOfAll es ↔ ∃ e ∈ es, use ∈ e.uses := by
  induction es with
  | nil => simp [usesOfAll]
  | cons e es ih => simp [usesOfAll, ih]

theorem mem_usesAnywhere {use : Use} {stmts : List Stmt} :
    use ∈ usesAnywhere stmts ↔ ∃ stmt ∈ stmts, use ∈ stmt.uses := by
  induction stmts with
  | nil => simp [usesAnywhere]
  | cons stmt stmts ih => simp [usesAnywhere, ih]

/-- All that an expression reads it reads under admitted names. -/
def Expr.From (admits : Bool → Token → Prop) (e : Expr) : Prop :=
  ∀ use ∈ e.uses, use.From admits

/-- All that a statement reads it reads under admitted names. -/
def Stmt.From (admits : Bool → Token → Prop) (stmt : Stmt) : Prop :=
  ∀ use ∈ stmt.uses, use.From admits

theorem from_usesOfAll {es : List Expr} (each : ∀ e ∈ es, Expr.From admits e) :
    ∀ use ∈ usesOfAll es, use.From admits := by
  intro use read
  obtain ⟨e, member, read⟩ := mem_usesOfAll.1 read
  exact each e member use read

theorem from_usesAnywhere {stmts : List Stmt} (each : ∀ stmt ∈ stmts, Stmt.From admits stmt) :
    ∀ use ∈ usesAnywhere stmts, use.From admits := by
  intro use read
  obtain ⟨stmt, member, read⟩ := mem_usesAnywhere.1 read
  exact each stmt member use read

/-- **The grammar reads under the names of its tokens**, keys behind points. -/
theorem grammatical_from (dialect : Dialect) (admits : Bool → Token → Prop) :
    Grammatical dialect admits (Expr.From admits) where
  int k := by simp [Expr.From, Expr.uses]
  float x := by simp [Expr.From, Expr.uses]
  str _ := by simp [Expr.From, Expr.uses]
  word _ := by simp [Expr.From, Expr.uses]
  var admitted _ := by simpa [Expr.From, Expr.uses, Use.From] using admitted
  list each := by
    rw [Expr.From, Expr.uses]
    exact from_usesOfAll each
  unary inner := by
    rw [Expr.From, Expr.uses]
    exact inner
  binary _ inLeft inRight := by
    rw [Expr.From, Expr.uses]
    exact List.forall_mem_append.2 ⟨inLeft, inRight⟩
  conditional inCondition inYes inNo := by
    rw [Expr.From, Expr.uses]
    exact List.forall_mem_append.2 ⟨inCondition, List.forall_mem_append.2 ⟨inYes, inNo⟩⟩
  assign admitted inner := by
    rw [Expr.From, Expr.uses]
    refine List.forall_mem_append.2 ⟨inner, ?_⟩
    split
    · exact List.forall_mem_nil _
    · exact List.forall_mem_singleton.2 admitted
  call _ each := by
    rw [Expr.From, Expr.uses]
    exact from_usesOfAll each
  member {target key} admitted inner := by
    rw [Expr.From, Expr.uses]
    cases bare : target.bareName? with
    | some name =>
        rw [eq_var_of_bareName bare] at inner
        have named : admits false (.name name) := inner (.whole name) List.mem_cons_self
        exact List.forall_mem_cons.2 ⟨⟨named, admitted⟩, List.forall_mem_singleton.2 trivial⟩
    | none => exact inner
  index {target key} inner inKey := by
    rw [Expr.From, Expr.uses]
    split
    · next name value bare known =>
        rw [eq_var_of_bareName bare] at inner
        have named : admits false (.name name) := inner (.whole name) List.mem_cons_self
        exact List.forall_mem_singleton.2 named
    · exact List.forall_mem_append.2 ⟨inner, inKey⟩
  method inner each := by
    rw [Expr.From, Expr.uses]
    exact List.forall_mem_append.2 ⟨inner, from_usesOfAll each⟩
  lambda _ inner := by
    rw [Expr.From, Expr.uses]
    exact inner
  sequence _ each := by
    rw [Expr.From, Expr.uses]
    exact from_usesOfAll each

theorem grammaticalStmt_from (admits : Bool → Token → Prop) :
    GrammaticalStmt (Expr.From admits) (Stmt.From admits) where
  expr inner := by
    rw [Stmt.From, Stmt.uses]
    exact inner
  declare {name value} inner := by
    cases value with
    | none => simp [Stmt.From, Stmt.uses]
    | some value =>
        rw [Stmt.From, Stmt.uses]
        exact inner value rfl
  ret {value} inner := by
    cases value with
    | none => simp [Stmt.From, Stmt.uses]
    | some value =>
        rw [Stmt.From, Stmt.uses]
        exact inner value rfl
  branch inCondition inYes inNo := by
    rw [Stmt.From, Stmt.uses]
    exact List.forall_mem_append.2 ⟨inCondition,
      List.forall_mem_append.2 ⟨from_usesAnywhere inYes, from_usesAnywhere inNo⟩⟩

/-- **Whatever a script reads it reads under words of its text**, under a name that stands
behind a point only as a member. -/
theorem uses_of_source {source : List Char} {program : List Stmt}
    (parsed : parseProgram (lex source) = .ok program) :
    ∀ use ∈ usesAnywhere program, use.From (Token.StandsIn source) :=
  from_usesAnywhere <| (grammaticalStmt_from _).parseProgram (grammatical_from .script _)
    (sourceOf_lex source) parsed

end Script

end ChatTemplate
