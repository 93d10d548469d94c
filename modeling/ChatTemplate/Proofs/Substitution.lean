/-
# ChatTemplate.Proofs.Substitution -- every value lands at its own match

A rule collects its matches first and then puts one value after the other in the
place of the first occurrence of a match, in a text that has changed and been
trimmed in between.  As long as neither the values nor the text between the
matches can begin a token, that is the same as putting every value where its
match stood and trimming once.

The text behind the last match that was dealt with is the invariant: no token
begins in it, so the next match is the first occurrence of its own characters
(`splice_match`).  Tokens neither begin nor end with white space, so trimming
never touches one that is still to come (`splice_trim`).

Main statement: `runRule_substitutes`.
-/
import ChatTemplate.Proofs.CharCodes
import ChatTemplate.Proofs.Silence
import ChatTemplate.Proofs.TemplateInstances

namespace ChatTemplate

set_option autoImplicit false

/-! ## Where tokens end -/

namespace Pattern

/-- Whatever a pattern takes up ends in a character with a property. -/
def EndsIn (holds : Char → Prop) (pattern : Pattern) : Prop :=
  ∀ before text n, pattern.matchLength? before text = some n →
    ∃ c, (text.take n).getLast? = some c ∧ holds c

variable {holds : Char → Prop} {pieces : Pattern}

theorem EndsIn.append (ends : pieces.EndsIn holds) (earlier : Pattern) :
    EndsIn holds (earlier ++ pieces) := by
  induction earlier with
  | nil => exact ends
  | cons piece earlier ih =>
      intro before text n found
      obtain ⟨part, rest, previous, k, rfl, -, later, rfl⟩ := matchesAfter_piece found
      obtain ⟨c, last, here⟩ := ih previous rest k later
      refine ⟨c, ?_, here⟩
      rw [List.take_length_add_append, List.getLast?_append, last]
      rfl

theorem endsIn_char {d : Char} (here : holds d) : EndsIn holds [.char d] := by
  intro before text n found
  obtain ⟨-, part, rest, split, admitted, empty⟩ := admits_of_matchLength found
  refine ⟨d, ?_, here⟩
  rw [split, show part = [d] from admitted, show rest = [] from empty]
  rfl

theorem endsIn_run {cls : CharClass} {least : Nat} {greedy : Bool}
    (inClass : ∀ c, cls.contains c = true → holds c) :
    EndsIn holds [.run cls (least + 1) greedy] := by
  intro before text n found
  obtain ⟨-, part, rest, split, ⟨enough, within⟩, empty⟩ := admits_of_matchLength found
  have some_ : part ≠ [] := fun none => by simp [none] at enough
  refine ⟨part.getLast some_, ?_, inClass _ (within _ (List.getLast_mem some_))⟩
  rw [split, show rest = [] from empty, List.append_nil, List.getLast?_eq_some_getLast some_]

/-- A lazy run from inside a word to the next boundary stays in the word. -/
theorem lazyRun_boundary {cls : CharClass} {w : Char} {text : List Char} {n : Nat}
    (word : Text.isWordChar w = true)
    (found : lazyRun cls (matchLength? [.boundary]) (some w) text = some n) :
    ∃ c, (w :: text.take n).getLast? = some c ∧ Text.isWordChar c = true := by
  induction text generalizing w n with
  | nil => exact ⟨w, by simp, word⟩
  | cons c text ih =>
      rw [lazyRun] at found
      split at found
      · next k here =>
          obtain rfl := Option.some.inj found
          simp only [matchLength?] at here
          split at here
          · obtain rfl := Option.some.inj here
            exact ⟨w, rfl, word⟩
          · simp at here
      · next stays =>
          split at found
          · obtain ⟨k, later, rfl⟩ := Option.map_eq_some_iff.1 found
            -- no boundary follows the word character, so that the next one is one, too
            have onward : Text.isWordChar c = true := by
              simpa [matchLength?, Text.isBoundary, word] using stays
            obtain ⟨last, ends, inWord⟩ := ih onward later
            refine ⟨last, ?_, inWord⟩
            rw [List.take_succ_cons, List.getLast?_cons_cons]
            exact ends
          · simp at found

/-- A word that begins after something else ends in a word character. -/
theorem endsIn_word {d : Char} (other : Text.isWordChar d = false)
    (inWord : ∀ c, Text.isWordChar c = true → holds c) :
    EndsIn holds (.char d :: Wildcard.word.pieces) := by
  intro before text n found
  cases text with
  | nil => simp [matchLength?, oneChar] at found
  | cons c text =>
      rw [matchLength?, oneChar] at found
      split at found
      · next same =>
          obtain ⟨k, later, rfl⟩ := Option.map_eq_some_iff.1 found
          obtain rfl := eq_of_beq same
          simp only [Wildcard.pieces, matchLength?] at later
          split at later
          · next begins =>
              cases text with
              | nil => simp [Text.isBoundary, other] at begins
              | cons w text =>
                  have word : Text.isWordChar w = true := by
                    simpa [Text.isBoundary, other] using begins
                  rw [atLeast] at later
                  split at later
                  · obtain ⟨k, run, rfl⟩ := Option.map_eq_some_iff.1 later
                    obtain ⟨last, ends, here⟩ := lazyRun_boundary word run
                    refine ⟨last, ?_, inWord last here⟩
                    rw [List.take_succ_cons, List.take_succ_cons, List.getLast?_cons_cons]
                    exact ends
                  · simp at later
          · simp at later
      · simp at found

/-- Whether a pattern ends like a token: with a character that is not white space,
with a name, or with a word after something else. -/
def closes (pattern : Pattern) : Bool :=
  match pattern.reverse with
  | .char d :: _ => !Text.isBlank d
  | .run .name 1 true :: _ => true
  | .boundary :: .run .inLine 1 false :: .boundary :: .char d :: _ => !Text.isWordChar d
  | _ => false

theorem endsIn_of_closes {pattern : Pattern} (closed : pattern.closes = true) :
    pattern.EndsIn fun c => Text.isBlank c = false := by
  rw [closes] at closed
  rw [← pattern.reverse_reverse]
  split at closed
  · next d earlier shape =>
      rw [shape, List.reverse_cons]
      exact (endsIn_char (by simpa using closed)).append _
  · next earlier shape =>
      have names : ∀ c, CharClass.name.contains c = true → Text.isBlank c = false :=
        fun c => Text.isBlank_of_isNameChar
      rw [shape, List.reverse_cons]
      exact (endsIn_run names).append _
  · next d earlier shape =>
      have words := endsIn_word (by simpa using closed) fun c => Text.isBlank_of_isWordChar
      rw [shape]
      simpa [Wildcard.pieces] using words.append earlier.reverse
  · simp at closed

end Pattern

/-! ## Tokens of the pipeline -/

theorem Stage.closes {stage : Stage} (standard : stage ∈ Pipeline.stages) {template : Template}
    (member : template ∈ stage.templates) : template.pattern.closes = true := by
  have all : ∀ stage ∈ Pipeline.stages, ∀ template ∈ stage.templates,
      template.pattern.closes = true := by
    decide
  exact all stage standard template member

/-- What a token looks like: it begins with a dollar sign or a parenthesis and does
not end with white space. -/
structure LooksLikeToken (text : List Char) : Prop where
  begins : text.head? = some '$' ∨ text.head? = some '('
  ends : ∃ c, text.getLast? = some c ∧ Text.isBlank c = false

/-- **What a stage looks for looks like a token.** -/
theorem Stage.looksLikeToken {stage : Stage} (standard : stage ∈ Pipeline.stages)
    {template : Template} (member : template ∈ stage.templates) {text found : List Char}
    (listed : found ∈ template.findAll text) : LooksLikeToken found := by
  constructor
  · obtain ⟨rest, rfl⟩ := Template.stem_begins_of_mem_findAll listed
    refine (stem_head standard member).imp (fun h => ?_) fun h => ?_ <;>
      rw [List.head?_append, h] <;> rfl
  · rw [Template.findAll, Pattern.findAll_eq_scan] at listed
    obtain ⟨before, rest, n, -, here, rfl⟩ := Continuation.exists_match_of_mem_scan listed
    exact Pattern.endsIn_of_closes (closes standard member) before rest n here

/-! ## One splice -/

/-- No token begins in a text. -/
def BeginsNoToken (text : List Char) : Prop :=
  '$' ∉ text ∧ '(' ∉ text

instance (text : List Char) : Decidable (BeginsNoToken text) :=
  inferInstanceAs (Decidable (_ ∧ _))

/-- Trimming around a piece that does not begin or end with white space. -/
theorem Text.trim_around {middle : List Char} {first last : Char} (before after : List Char)
    (head : middle.head? = some first) (begins : isBlank first = false)
    (final : middle.getLast? = some last) (ends : isBlank last = false) :
    trim (before ++ middle ++ after) = trimStart before ++ middle ++ trimEnd after := by
  obtain ⟨rest, rfl⟩ := List.head?_eq_some_iff.1 head
  have front : ∀ text, trimStart (first :: rest ++ text) = first :: rest ++ text := fun text =>
    List.dropWhile_cons_of_neg (by simp [begins])
  have back : trimEnd (first :: rest) = first :: rest := by
    obtain ⟨initial, split⟩ := List.getLast?_eq_some_iff.1 final
    rw [split, trimEnd, List.reverse_append, List.reverse_singleton, List.singleton_append,
      List.dropWhile_cons_of_neg (by simp [ends]), List.reverse_cons, List.reverse_reverse]
  have started : trimStart (before ++ (first :: rest ++ after)) =
      trimStart before ++ (first :: rest ++ after) := by
    rw [trimStart_append, front]
    split
    · next empty => rw [empty, List.nil_append]
    · rfl
  rw [trim, List.append_assoc, started, ← List.append_assoc, trimEnd_append]
  split
  · next empty =>
      rw [empty, List.append_nil, trimEnd_append, back, if_neg (List.cons_ne_nil _ _)]
  · rfl

/-- Trimming changes nothing where there is no white space at the ends. -/
theorem Text.trim_eq_self {text : List Char} {first last : Char} (head : text.head? = some first)
    (begins : isBlank first = false) (final : text.getLast? = some last)
    (ends : isBlank last = false) : trim text = text := by
  simpa [trimStart, trimEnd] using trim_around [] [] head begins final ends

namespace Message

open Dialogue (Responder)

/-- **A match is the first occurrence of its characters** when the character that it
begins with is not before it. -/
theorem splice_match {before matched : List Char} {opening : Char}
    (begins : matched.head? = some opening) (behind : opening ∉ before)
    (value after : List Char) :
    splice matched value (before ++ matched ++ after) =
      Text.trim (before ++ value ++ after) := by
  obtain ⟨rest, rfl⟩ := List.head?_eq_some_iff.1 begins
  have first : Text.breakOn? (opening :: rest) (before ++ opening :: rest ++ after) =
      some (before, after) := by
    refine Text.breakOn_first (List.cons_ne_nil _ _) fun later suffix some_ stands => ?_
    obtain ⟨c, later, rfl⟩ := List.exists_cons_of_ne_nil some_
    obtain rfl : opening = c := (List.cons_prefix_cons.1 stands).1
    exact behind (suffix.subset List.mem_cons_self)
  rw [splice, Text.replaceFirst_of_breakOn first]

/-- The same in a text that has been trimmed. -/
theorem splice_trim {before matched : List Char} {opening : Char}
    (begins : matched.head? = some opening) (behind : opening ∉ before)
    (token : LooksLikeToken matched) (value after : List Char) :
    splice matched value (Text.trim (before ++ matched ++ after)) =
      Text.trim (before ++ value ++ after) := by
  obtain ⟨first, head, solid⟩ : ∃ first, matched.head? = some first ∧
      Text.isBlank first = false := by
    rcases token.begins with h | h
    · exact ⟨'$', h, by decide⟩
    · exact ⟨'(', h, by decide⟩
  obtain ⟨last, final, ends⟩ := token.ends
  have trimmed : opening ∉ Text.trimStart before := fun member =>
    behind ((List.dropWhile_suffix _).subset member)
  calc splice matched value (Text.trim (before ++ matched ++ after))
      = splice matched value (Text.trimStart before ++ matched ++ Text.trimEnd after) := by
        rw [Text.trim_around before after head solid final ends]
    _ = Text.trim (Text.trimStart before ++ value ++ Text.trimEnd after) :=
        splice_match begins trimmed value _
    _ = Text.trim (before ++ value ++ after) := by
        rw [Text.trim_append_trimEnd, List.append_assoc, Text.trim_trimStart_append,
          ← List.append_assoc]

/-! ## One match after the other -/

/-- A match, the value it resolves to, and the text up to the next match. -/
structure Cut where
  matched : List Char
  value : List Char
  gap : List Char

/-- The text with the matches in it. -/
def writeCuts (cuts : List Cut) : List Char :=
  cuts.flatMap fun cut => cut.matched ++ cut.gap

/-- The text with the values in it. -/
def showCuts (cuts : List Cut) : List Char :=
  cuts.flatMap fun cut => cut.value ++ cut.gap

theorem writeCuts_cons (cut : Cut) (cuts : List Cut) :
    writeCuts (cut :: cuts) = cut.matched ++ (cut.gap ++ writeCuts cuts) := by
  rw [writeCuts, List.flatMap_cons, List.append_assoc]
  rfl

theorem showCuts_cons (cut : Cut) (cuts : List Cut) :
    showCuts (cut :: cuts) = cut.value ++ (cut.gap ++ showCuts cuts) := by
  rw [showCuts, List.flatMap_cons, List.append_assoc]
  rfl

section

variable {σ : Type} (settings : Settings) (context : Context) (responder : Responder σ)

/-- **The matches of a token resolve to their values**, one after the other. -/
inductive ResolveInTurn (token : Token) : List Cut → σ → σ → Prop
  | done {state : σ} : ResolveInTurn token [] state state
  | next {cut : Cut} {cuts : List Cut} {state state₁ state₂ : σ}
      (here : (Chat.attempt (resolve settings context token cut.matched)).run responder state =
        (.ok cut.value, state₁))
      (later : ResolveInTurn token cuts state₁ state₂) :
      ResolveInTurn token (cut :: cuts) state state₂

end

/-- Neither in the value of a match nor after it is there a character that matches begin
with, and the value is empty only where that does not clear the message. -/
structure Cut.Apart (opening : Char) (policy : Policy) (cut : Cut) : Prop where
  begins : cut.matched.head? = some opening
  gap : opening ∉ cut.gap
  value : opening ∉ cut.value
  some_ : policy = .clearWhenEmpty → cut.value ≠ []

/-- No token begins in the value of a match or after it, and the value is empty only
where that does not clear the message. -/
structure Cut.Plain (policy : Policy) (cut : Cut) : Prop where
  gap : BeginsNoToken cut.gap
  value : BeginsNoToken cut.value
  some_ : policy = .clearWhenEmpty → cut.value ≠ []

variable {σ : Type} {settings : Settings} {context : Context} {responder : Responder σ}
  {policy : Policy} {opening : Char}

/-- A match that resolves to a value is replaced by it. -/
theorem runMatch_of_value {token : Token} {cut : Cut} (apart : cut.Apart opening policy)
    {state state' : σ}
    (resolved : (Chat.attempt (resolve settings context token cut.matched)).run responder state =
      (.ok cut.value, state')) (text : List Char) :
    (runMatch settings context policy token text cut.matched).run responder state =
      (splice cut.matched cut.value text, state') := by
  rw [runMatch, Dialogue.run_bind, resolved]
  refine Prod.ext ?_ rfl
  cases policy with
  | keepWhenEmpty => rfl
  | clearWhenEmpty =>
      have kept : cut.value.isEmpty = false := by
        simpa using apart.some_ rfl
      exact if_neg (by simp [kept])

/-- What is before the next match when one has been replaced. -/
theorem Cut.Apart.behind {cut : Cut} (apart : cut.Apart opening policy) {before : List Char}
    (behind : opening ∉ before) : opening ∉ before ++ cut.value ++ cut.gap := by
  simp only [List.mem_append, not_or]
  exact ⟨⟨behind, apart.value⟩, apart.gap⟩

/-- The matches that are left are replaced in a text that has been trimmed. -/
theorem run_cuts {token : Token} {cuts : List Cut} {state state' : σ}
    (resolved : ResolveInTurn settings context responder token cuts state state')
    (apart : ∀ cut ∈ cuts, cut.Apart opening policy)
    (tokens : ∀ cut ∈ cuts, LooksLikeToken cut.matched) {before : List Char}
    (behind : opening ∉ before) :
    ((cuts.map (·.matched)).foldlM (runMatch settings context policy token)
        (Text.trim (before ++ writeCuts cuts))).run responder state =
      (Text.trim (before ++ showCuts cuts), state') := by
  induction resolved generalizing before with
  | done => rfl
  | @next cut cuts state state₁ state₂ here later ih =>
      obtain ⟨apartHere, apartLater⟩ := List.forall_mem_cons.1 apart
      obtain ⟨tokenHere, tokensLater⟩ := List.forall_mem_cons.1 tokens
      have rest := ih apartLater tokensLater (apartHere.behind behind)
      rw [List.map_cons, Dialogue.run_foldlM_cons, runMatch_of_value apartHere here,
        writeCuts_cons, ← List.append_assoc, splice_trim apartHere.begins behind tokenHere,
        showCuts_cons]
      simpa only [List.append_assoc] using rest

/-- A rule puts the values of its matches in their places if all matches begin with one
character and that character is nowhere else. -/
theorem runRule_cuts {name : String} {rules : List (Rule Token)}
    (standard : .pass name policy rules ∈ Pipeline.stages) {rule : Rule Token}
    (member : rule ∈ rules) {first : List Char} {cuts : List Cut} (some_ : cuts ≠ [])
    (found : rule.template.findAll (first ++ writeCuts cuts) = cuts.map (·.matched))
    (behind : opening ∉ first) (apart : ∀ cut ∈ cuts, cut.Apart opening policy) {state state' : σ}
    (resolved : ResolveInTurn settings context responder rule.token cuts state state') :
    (runRule settings context policy (first ++ writeCuts cuts) rule).run responder state =
      (Text.trim (first ++ showCuts cuts), state') := by
  have tokens : ∀ cut ∈ cuts, LooksLikeToken cut.matched := by
    intro cut inCuts
    have listed : cut.matched ∈ rule.template.findAll (first ++ writeCuts cuts) := by
      rw [found]
      exact List.mem_map_of_mem inCuts
    exact Stage.looksLikeToken standard (List.mem_map_of_mem member) listed
  rw [runRule, found]
  cases resolved with
  | done => exact absurd rfl some_
  | @next cut cuts _ state₁ _ here later =>
      obtain ⟨apartHere, apartLater⟩ := List.forall_mem_cons.1 apart
      obtain ⟨tokenHere, tokensLater⟩ := List.forall_mem_cons.1 tokens
      have rest := run_cuts later apartLater tokensLater (apartHere.behind behind)
      -- only before the first match the text may be one that has not been trimmed
      rw [List.map_cons, Dialogue.run_foldlM_cons, runMatch_of_value apartHere here,
        writeCuts_cons, ← List.append_assoc, splice_match apartHere.begins behind, showCuts_cons]
      simpa only [List.append_assoc] using rest

/-- **First-occurrence splicing is substitution.**  For a rule of a pass, let the
matches in a text stand between gaps in which no token begins.  If they resolve to
values in which no token begins either, and which are not empty where that would
clear the message, then the rule puts every value in the place of its own match
and trims the text. -/
theorem runRule_substitutes {name : String} {policy : Policy} {rules : List (Rule Token)}
    (standard : .pass name policy rules ∈ Pipeline.stages) {rule : Rule Token}
    (member : rule ∈ rules) {first : List Char} {cuts : List Cut} (some_ : cuts ≠ [])
    (found : rule.template.findAll (first ++ writeCuts cuts) = cuts.map (·.matched))
    (begins : BeginsNoToken first) (plain : ∀ cut ∈ cuts, cut.Plain policy) {state state' : σ}
    (resolved : ResolveInTurn settings context responder rule.token cuts state state') :
    (runRule settings context policy (first ++ writeCuts cuts) rule).run responder state =
      (Text.trim (first ++ showCuts cuts), state') := by
  have inStage : rule.template ∈ Stage.templates (.pass name policy rules) :=
    List.mem_map_of_mem member
  obtain ⟨opening, stem, token⟩ : ∃ opening, rule.template.stem.head? = some opening ∧
      (opening = '$' ∨ opening = '(') := by
    rcases Stage.stem_head standard inStage with h | h
    · exact ⟨'$', h, .inl rfl⟩
    · exact ⟨'(', h, .inr rfl⟩
  have absent : ∀ {text : List Char}, BeginsNoToken text → opening ∉ text := by
    intro text plain
    rcases token with rfl | rfl
    · exact plain.1
    · exact plain.2
  refine runRule_cuts standard member some_ found (absent begins) (fun cut inCuts => ?_) resolved
  have listed : cut.matched ∈ rule.template.findAll (first ++ writeCuts cuts) := by
    rw [found]
    exact List.mem_map_of_mem inCuts
  obtain ⟨rest, same⟩ := Template.stem_begins_of_mem_findAll listed
  refine ⟨?_, absent (plain cut inCuts).gap, absent (plain cut inCuts).value,
    (plain cut inCuts).some_⟩
  rw [← same, List.head?_append, stem]
  rfl

/-- Equal matches, and one that begins like the others. -/
theorem deaths_and_wins_are_substituted :
    let rule : Rule Token := ⟨⟨"$_#", .name⟩, .customVariable .normal⟩
    let customs : Table CustomVariable := ⟨[("$_win", { value := "2" }), ("$_wins", { value := "35" })]⟩
    let world : World := { customs }
    let text := " won $_win of $_wins, then $_win ".toList
    let responder := World.answer fun _ => { rolls := fun _ => 0 }
    (runRule {} {} .clearWhenEmpty text rule).run responder world =
      ("won 2 of 35, then 2".toList, world) := by
  intro rule customs world text responder
  let cuts : List Cut :=
    [ ⟨"$_win".toList, "2".toList, " of ".toList⟩, ⟨"$_wins".toList, "35".toList, ", then ".toList⟩,
      ⟨"$_win".toList, "2".toList, " ".toList⟩ ]
  have standard : .pass "custom" .clearWhenEmpty Pipeline.variableRules ∈ Pipeline.stages := by
    decide
  have plain : ∀ cut ∈ cuts, cut.Plain .clearWhenEmpty := by
    have parts : ∀ cut ∈ cuts, BeginsNoToken cut.gap ∧ BeginsNoToken cut.value ∧ cut.value ≠ [] := by
      decide
    exact fun cut inCuts => ⟨(parts cut inCuts).1, (parts cut inCuts).2.1,
      fun _ => (parts cut inCuts).2.2⟩
  have resolved : ResolveInTurn {} {} responder (.customVariable .normal) cuts world world :=
    .next rfl (.next rfl (.next rfl .done))
  have member : rule ∈ Pipeline.variableRules := by decide
  have found : rule.template.findAll (" won ".toList ++ writeCuts cuts) = cuts.map (·.matched) := by
    decide
  exact runRule_substitutes standard member (by simp [cuts]) found (by decide) plain resolved

end Message

end ChatTemplate
