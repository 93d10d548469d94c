/-
# ChatTemplate.Proofs.Segments -- messages in segments

A message with inline commands is a list of `Segment`s: literal text, quiet
commands `(!!line)` and loud commands `(!line)`.  `Segment.Proper` keeps the
characters out of literal text and lines that open or close tokens.

* `mark_absent`: no command of a kind begins among segments of another kind;
* `exists_trimmed`: trimmed text is again written by proper segments, with the
  same commands;
* `paren_opens_command`: every parenthesis that opens in a message opens a command.
-/
import Mathlib.Data.List.Infix
import ChatTemplate.Proofs.Occurrence

namespace ChatTemplate

set_option autoImplicit false

/-! ## Messages in segments -/

/-- A piece of a message. -/
inductive Segment where
  | literal (text : List Char)
  | command (quiet : Bool) (line : List Char)

namespace Segment

/-- What a command begins with. -/
def mark (quiet : Bool) : List Char :=
  if quiet then ['(', '!', '!'] else ['(', '!']

def token (quiet : Bool) (line : List Char) : List Char :=
  mark quiet ++ (line ++ [')'])

def written : Segment → List Char
  | literal text => text
  | command quiet line => token quiet line

/-- What is left of a segment when all commands have been run. -/
def shown : Segment → List Char
  | literal text => text
  | command _ _ => []

/-- The line of a command of one kind. -/
def line? (quiet : Bool) : Segment → Option (List Char)
  | literal _ => none
  | command kind line => if kind = quiet then some line else none

/-- Literal text opens no token; a command's line is one line, without characters
that would end or open a token, and what is run aloud does not begin like what is
run quietly. -/
def Proper : Segment → Prop
  | literal text => ∀ c ∈ text, c ≠ '$' ∧ c ≠ '(' ∧ c ≠ '&'
  | command quiet line =>
      (∀ c ∈ line, c ≠ '$' ∧ c ≠ '(' ∧ c ≠ ')' ∧ c ≠ '&' ∧ c ≠ '\n') ∧
        (quiet = false → line.head? ≠ some '!')

instance (segment : Segment) : Decidable segment.Proper :=
  match segment with
  | literal text => List.decidableBAll _ text
  | command _ line =>
      have := List.decidableBAll
        (fun c => c ≠ '$' ∧ c ≠ '(' ∧ c ≠ ')' ∧ c ≠ '&' ∧ c ≠ '\n') line
      inferInstanceAs (Decidable (_ ∧ _))

end Segment

/-- The text that some segments make up. -/
def writeSegments (segments : List Segment) : List Char :=
  segments.flatMap Segment.written

/-- The commands of one kind. -/
def linesOf (quiet : Bool) (segments : List Segment) : List (List Char) :=
  segments.filterMap (Segment.line? quiet)

def showSegments (segments : List Segment) : List Char :=
  segments.flatMap Segment.shown

/-! ## Messages piece by piece -/

theorem writeSegments_cons (segment : Segment) (segments : List Segment) :
    writeSegments (segment :: segments) = segment.written ++ writeSegments segments := rfl

theorem writeSegments_singleton (segment : Segment) :
    writeSegments [segment] = segment.written := by
  rw [writeSegments, List.flatMap_singleton]

theorem writeSegments_append (earlier later : List Segment) :
    writeSegments (earlier ++ later) = writeSegments earlier ++ writeSegments later :=
  List.flatMap_append

theorem showSegments_singleton (segment : Segment) :
    showSegments [segment] = segment.shown := by
  rw [showSegments, List.flatMap_singleton]

theorem showSegments_append (earlier later : List Segment) :
    showSegments (earlier ++ later) = showSegments earlier ++ showSegments later :=
  List.flatMap_append

theorem linesOf_append (quiet : Bool) (earlier later : List Segment) :
    linesOf quiet (earlier ++ later) = linesOf quiet earlier ++ linesOf quiet later :=
  List.filterMap_append
/-! ## Where the commands of a kind stand -/

namespace Segment

theorem mark_ne_nil (quiet : Bool) : mark quiet ≠ [] := by
  cases quiet <;> simp [mark]

theorem token_ne_nil (quiet : Bool) (line : List Char) : token quiet line ≠ [] := by
  simp [token, mark_ne_nil]

theorem eq_command_of_line {quiet : Bool} {segment : Segment} {line : List Char}
    (found : segment.line? quiet = some line) : segment = command quiet line := by
  cases segment with
  | literal text => simp [line?] at found
  | command kind other =>
      rw [line?] at found
      split at found
      · next same => rw [same, Option.some.inj found]
      · simp at found

/-- A segment that no command of a kind is, nor is mistaken for. -/
structure Foreign (quiet : Bool) (segment : Segment) : Prop where
  proper : segment.Proper
  other : segment.line? quiet = none
  loud : quiet = false → segment.line? true = none

/-- Neither kind of command begins inside literal text, and none that is quiet in
one that is not. -/
theorem Foreign.mark_absent {quiet : Bool} {segment : Segment}
    (foreign : segment.Foreign quiet) {later : List Char} (suffix : later <:+ segment.written)
    (some_ : later ≠ []) (rest : List Char) : ¬ mark quiet <+: later ++ rest := by
  obtain ⟨proper, other, loud⟩ := foreign
  cases later with
  | nil => exact absurd rfl some_
  | cons d later =>
      intro found
      have paren : d = '(' := by
        cases quiet <;> exact (List.cons_prefix_cons.1 found).1.symm
      subst paren
      cases segment with
      | literal text => exact (proper '(' (suffix.subset List.mem_cons_self)).2.1 rfl
      | command kind line =>
          -- only a loud command is foreign, and only to quiet ones
          obtain ⟨rfl, rfl⟩ : kind = false ∧ quiet = true := by
            cases kind <;> cases quiet <;> simp_all [line?]
          have unopened : '(' ∉ line := fun member => (proper.1 '(' member).2.1 rfl
          rcases List.suffix_cons_iff.1 suffix with same | deeper
          · simp only [List.cons.injEq, true_and] at same
            subst same
            cases line with
            | nil => simp [mark] at found
            | cons c line =>
                have third : c = '!' := by simpa [mark, eq_comm] using found
                exact proper.2 rfl (by simp [third])
          · have inside := deeper.subset List.mem_cons_self
            simp [unopened] at inside

end Segment

theorem mark_absent {quiet : Bool} {segments : List Segment}
    (foreign : ∀ segment ∈ segments, segment.Foreign quiet) {later : List Char}
    (suffix : later <:+ writeSegments segments) (some_ : later ≠ []) (rest : List Char) :
    ¬ Segment.mark quiet <+: later ++ rest := by
  induction segments with
  | nil => exact absurd (List.suffix_nil.1 suffix) some_
  | cons segment segments ih =>
      rw [writeSegments_cons] at suffix
      obtain ⟨earlier, same⟩ := suffix
      rcases List.append_eq_append_iff.1 same with ⟨begun, whole, split⟩ | ⟨beyond, whole, split⟩
      · by_cases empty : begun = []
        · subst empty
          exact ih (fun other member => foreign other (by simp [member])) ⟨[], by simpa using split⟩
        · rw [split, List.append_assoc]
          exact (foreign segment (by simp)).mark_absent ⟨earlier, whole.symm⟩ empty _
      · exact ih (fun other member => foreign other (by simp [member])) ⟨beyond, split.symm⟩
/-! ## The text of a message -/

theorem mem_written {segments : List Segment} (proper : ∀ segment ∈ segments, segment.Proper)
    {c : Char} (member : c ∈ writeSegments segments) : c ≠ '$' ∧ c ≠ '&' := by
  obtain ⟨segment, here, inside⟩ := List.mem_flatMap.1 member
  have properHere := proper segment here
  cases segment with
  | literal text => exact ⟨(properHere c inside).1, (properHere c inside).2.2⟩
  | command quiet line =>
      have parts : c ∈ Segment.mark quiet ∨ c ∈ line ∨ c = ')' := by
        simpa [Segment.written, Segment.token] using inside
      rcases parts with marked | inLine | rfl
      · have bang : c = '(' ∨ c = '!' := by
          cases quiet <;> simpa [Segment.mark] using marked
        rcases bang with rfl | rfl <;> decide
      · obtain ⟨dollar, -, -, ampersand, -⟩ := properHere.1 c inLine
        exact ⟨dollar, ampersand⟩
      · decide

theorem mem_shown {segments : List Segment} (proper : ∀ segment ∈ segments, segment.Proper)
    {c : Char} (member : c ∈ showSegments segments) : c ≠ '$' ∧ c ≠ '(' ∧ c ≠ '&' := by
  obtain ⟨segment, here, inside⟩ := List.mem_flatMap.1 member
  cases segment with
  | literal text => exact proper _ here c inside
  | command quiet line => simp [Segment.shown] at inside

/-- What follows an opening parenthesis inside a segment is the mark of commands. -/
theorem Segment.Proper.opened {segment : Segment} (proper : segment.Proper)
    {before after : List Char} (split : segment.written = before ++ '(' :: after) :
    ∃ rest, after = '!' :: rest := by
  have member : '(' ∈ segment.written := by simp [split]
  cases segment with
  | literal text => exact absurd rfl (proper '(' member).2.1
  | command quiet line =>
      have unopened : '(' ∉ line := fun inside => (proper.1 '(' inside).2.1 rfl
      obtain ⟨rest, begins, closed⟩ :
          ∃ rest, token quiet line = '(' :: '!' :: rest ∧ '(' ∉ rest := by
        cases quiet with
        | false => exact ⟨line ++ [')'], rfl, by simp [unopened]⟩
        | true => exact ⟨'!' :: (line ++ [')']), rfl, by simp [unopened]⟩
      rw [written, begins] at split
      cases before with
      | nil => exact ⟨rest, (List.cons.inj split).2.symm⟩
      | cons c before =>
          have inside : '(' ∈ '!' :: rest := by simp [(List.cons.inj split).2]
          simp [closed] at inside

theorem paren_opens_command {segments : List Segment}
    (proper : ∀ segment ∈ segments, segment.Proper) {c : Char}
    (found : ['(', c] <:+: writeSegments segments) : c = '!' := by
  obtain ⟨before, after, split⟩ := found
  rw [List.append_assoc] at split
  induction segments generalizing before with
  | nil => simp [writeSegments] at split
  | cons segment segments ih =>
      obtain ⟨here, later⟩ := List.forall_mem_cons.1 proper
      rw [writeSegments_cons] at split
      rcases List.append_eq_append_iff.1 split with ⟨inside, whole, rest⟩ | ⟨beyond, whole, rest⟩
      · cases inside with
        | nil => exact ih later [] (by simpa using rest)
        | cons d inside =>
            obtain ⟨rfl, follows⟩ := List.cons.inj rest
            obtain ⟨opened, rfl⟩ := here.opened whole
            exact (List.cons.inj follows).1
      · exact ih later beyond rest.symm

/-- Without commands, what is written is shown. -/
theorem writeSegments_of_no_lines {segments : List Segment}
    (none : ∀ quiet, linesOf quiet segments = []) : writeSegments segments = showSegments segments := by
  refine List.flatMap_congr fun segment member => ?_
  cases segment with
  | literal text => rfl
  | command quiet line =>
      have found := List.filterMap_eq_nil_iff.1 (none quiet) _ member
      simp [Segment.line?] at found

theorem not_blank_of_command {segments : List Segment} {quiet : Bool} {line : List Char}
    (member : .command quiet line ∈ segments) :
    Text.isBlankText (writeSegments segments) = false := by
  have opening : '(' ∈ writeSegments segments := by
    refine List.mem_flatMap.2 ⟨_, member, ?_⟩
    cases quiet <;> simp [Segment.written, Segment.token, Segment.mark]
  exact List.all_eq_false.2 ⟨'(', opening, by decide⟩
/-! ## Trimmed messages -/

/-- Segments that write a trimmed text, with the same commands and nothing else
shown. -/
structure Trims (segments trimmed : List Segment) : Prop where
  proper : ∀ segment ∈ trimmed, segment.Proper
  lines : ∀ quiet, linesOf quiet trimmed = linesOf quiet segments
  shown : Text.trim (showSegments trimmed) = Text.trim (showSegments segments)

theorem Trims.trans {a b c : List Segment} (first : Trims a b) (second : Trims b c) :
    Trims a c :=
  ⟨second.proper, fun quiet => (second.lines quiet).trans (first.lines quiet),
    second.shown.trans first.shown⟩

theorem exists_trimStart {segments : List Segment}
    (proper : ∀ segment ∈ segments, segment.Proper) :
    ∃ trimmed, Trims segments trimmed ∧
      writeSegments trimmed = Text.trimStart (writeSegments segments) := by
  induction segments with
  | nil => exact ⟨[], ⟨proper, fun _ => rfl, rfl⟩, rfl⟩
  | cons segment segments ih =>
      obtain ⟨here, later⟩ := List.forall_mem_cons.1 proper
      cases segment with
      | command quiet line =>
          refine ⟨.command quiet line :: segments, ⟨proper, fun _ => rfl, rfl⟩, ?_⟩
          cases quiet <;> rfl
      | literal text =>
          by_cases blank : Text.trimStart text = []
          · obtain ⟨trimmed, trims, written⟩ := ih later
            refine ⟨trimmed, ⟨trims.proper, trims.lines, trims.shown.trans ?_⟩, ?_⟩
            · have dropped := Text.trim_trimStart_append text (showSegments segments)
              rwa [blank] at dropped
            · rw [written, writeSegments_cons, Segment.written, Text.trimStart_append, if_pos blank]
          · refine ⟨.literal (Text.trimStart text) :: segments, ⟨?_, fun _ => rfl, ?_⟩, ?_⟩
            · exact List.forall_mem_cons.2
                ⟨fun c member => here c ((List.dropWhile_suffix _).subset member), later⟩
            · exact Text.trim_trimStart_append text (showSegments segments)
            · rw [writeSegments_cons, writeSegments_cons, Segment.written, Segment.written,
                Text.trimStart_append, if_neg blank]

theorem exists_trimEnd {segments : List Segment}
    (proper : ∀ segment ∈ segments, segment.Proper) :
    ∃ trimmed, Trims segments trimmed ∧
      writeSegments trimmed = Text.trimEnd (writeSegments segments) := by
  induction segments using List.reverseRecOn with
  | nil => exact ⟨[], ⟨proper, fun _ => rfl, rfl⟩, rfl⟩
  | append_singleton segments segment ih =>
      have earlier : ∀ segment ∈ segments, segment.Proper := fun other member =>
        proper other (by simp [member])
      have here := proper segment (by simp)
      cases segment with
      | command quiet line =>
          refine ⟨segments ++ [.command quiet line], ⟨proper, fun _ => rfl, rfl⟩, ?_⟩
          have closed : Text.trimEnd (Segment.token quiet line) = Segment.token quiet line := by
            simp [Segment.token, Text.trimEnd, show Text.isBlank ')' = false by decide]
          rw [writeSegments_append, writeSegments_singleton, Segment.written,
            Text.trimEnd_append, closed, if_neg (Segment.token_ne_nil quiet line)]
      | literal text =>
          by_cases blank : Text.trimEnd text = []
          · obtain ⟨trimmed, trims, written⟩ := ih earlier
            refine ⟨trimmed, ⟨trims.proper, fun quiet => ?_, trims.shown.trans ?_⟩, ?_⟩
            · rw [trims.lines, linesOf_append]
              exact (List.append_nil _).symm
            · have dropped := Text.trim_append_trimEnd (showSegments segments) text
              rw [blank, List.append_nil] at dropped
              rw [dropped, showSegments_append, showSegments_singleton]
              rfl
            · rw [written, writeSegments_append, writeSegments_singleton, Segment.written,
                Text.trimEnd_append, if_pos blank]
          · refine ⟨segments ++ [.literal (Text.trimEnd text)], ⟨?_, fun quiet => ?_, ?_⟩, ?_⟩
            · refine List.forall_mem_append.2 ⟨earlier, List.forall_mem_singleton.2 ?_⟩
              exact fun c member => here c ((List.rdropWhile_prefix _ text).subset member)
            · rw [linesOf_append, linesOf_append]
              rfl
            · rw [showSegments_append, showSegments_append, showSegments_singleton,
                showSegments_singleton]
              exact Text.trim_append_trimEnd (showSegments segments) text
            · rw [writeSegments_append, writeSegments_append, writeSegments_singleton,
                writeSegments_singleton, Segment.written, Segment.written, Text.trimEnd_append,
                if_neg blank]

theorem exists_trimmed {segments : List Segment}
    (proper : ∀ segment ∈ segments, segment.Proper) :
    ∃ trimmed, Trims segments trimmed ∧
      writeSegments trimmed = Text.trim (writeSegments segments) := by
  obtain ⟨started, trimsStart, writtenStart⟩ := exists_trimStart proper
  obtain ⟨ended, trimsEnd, writtenEnd⟩ := exists_trimEnd trimsStart.proper
  exact ⟨ended, trimsStart.trans trimsEnd, by rw [writtenEnd, writtenStart, Text.trim]⟩

end ChatTemplate
