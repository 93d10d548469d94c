/-
# ChatTemplate.Proofs.InlineCommands -- every inline command is run once

A message may hold inline commands between pieces of literal text: `(!!line)`
runs a command quietly, `(!line)` runs it aloud.  All quiet ones are run first,
then the others, each kind in the order of the text, and what is shown is the
literal text.

The command stage takes the two kinds one after the other: `lists_tokens` says
which matches it finds.  Each match is spliced out where it first stands and the
text is trimmed; what is left is again written by segments, with one command less
(`exists_spent`), and that is the invariant of the fold over all matches
(`run_tokens`).

Main statement: `Message.render_inline_commands`.
-/
import ChatTemplate.Proofs.Ignored
import ChatTemplate.Proofs.Segments
import ChatTemplate.World

namespace ChatTemplate

set_option autoImplicit false

/-! ## What a command does -/

/-- A command as it reaches the dispatcher. -/
def dispatchOf (context : Context) (quiet : Bool) (line : List Char) : Dispatched where
  sender := context.sender
  text := String.ofList ('!' :: line)
  options := { skipChecks := true, quiet }

def World.record (world : World) (dispatched : Dispatched) : World :=
  world.dispatch dispatched.sender dispatched.text dispatched.options
/-! ## The matches of a kind -/

/-- The template of the commands of a kind. -/
def commandTemplate (quiet : Bool) : Template :=
  ⟨if quiet then "(!!#)" else "(!#)", .any⟩

theorem commandTemplate_pattern (quiet : Bool) :
    (commandTemplate quiet).pattern =
      (Segment.mark quiet).map Piece.char ++ [.run .inLine 0 false, .char ')'] := by
  cases quiet <;> decide

theorem commandTemplate_advances (quiet : Bool) :
    (commandTemplate quiet).pattern.matchLength?.Advances := by
  refine Template.matchLength_advances ?_
  cases quiet <;> decide

/-- Where a command stands, its template matches all of it. -/
theorem matchLength_token {quiet : Bool} {line : List Char}
    (proper : (Segment.command quiet line).Proper) (before : Option Char) (rest : List Char) :
    (commandTemplate quiet).pattern.matchLength? before (Segment.token quiet line ++ rest) =
      some (Segment.token quiet line).length := by
  have within : ∀ c ∈ line, CharClass.inLine.contains c = true ∧ c ≠ ')' := by
    intro c member
    obtain ⟨-, -, closing, -, oneLine⟩ := proper.1 c member
    exact ⟨by simp [CharClass.contains, oneLine], closing⟩
  have run : ∀ before,
      Pattern.matchLength? [.run .inLine 0 false, .char ')'] before (line ++ ')' :: rest) =
        some (line.length + 1) := by
    intro before
    exact Pattern.lazyRun_stops within before
  have shape : Segment.token quiet line ++ rest = Segment.mark quiet ++ (line ++ ')' :: rest) := by
    simp [Segment.token]
  rw [commandTemplate_pattern, shape, Pattern.matchLength_literal run]
  simp [Segment.token]

/-- **The command stage finds the commands of a kind**, each of them once and in
order, when the quiet ones are gone before the others are looked for. -/
theorem lists_tokens {quiet : Bool} {segments : List Segment}
    (proper : ∀ segment ∈ segments, segment.Proper)
    (hushed : quiet = false → linesOf true segments = []) :
    (commandTemplate quiet).findAll (writeSegments segments) =
      (linesOf quiet segments).map (Segment.token quiet) := by
  refine Template.findAll_of_lists ?_
  induction segments with
  | nil => exact Continuation.Lists.nil (commandTemplate_advances quiet)
  | cons segment segments ih =>
      have hushedHere : quiet = false → segment.line? true = none := fun loud =>
        List.filterMap_eq_nil_iff.1 (hushed loud) segment (by simp)
      have hushedLater : quiet = false → linesOf true segments = [] := fun loud =>
        List.filterMap_eq_nil_iff.2 fun other member =>
          List.filterMap_eq_nil_iff.1 (hushed loud) other (by simp [member])
      have rest := ih (fun other member => proper other (by simp [member])) hushedLater
      rw [writeSegments_cons]
      cases found : segment.line? quiet with
      | none =>
          have foreign : segment.Foreign quiet := ⟨proper segment (by simp), found, hushedHere⟩
          rw [linesOf, List.filterMap_cons_none found, ← linesOf]
          refine rest.skip fun later suffix some_ before => ?_
          rw [commandTemplate_pattern]
          exact Pattern.matchLength_literal_eq_none
            (foreign.mark_absent suffix some_ _) _ before
      | some line =>
          have shape := Segment.eq_command_of_line found
          subst shape
          rw [linesOf, List.filterMap_cons_some found, ← linesOf, List.map_cons]
          exact rest.hit (Segment.token_ne_nil quiet line) fun before =>
            matchLength_token (proper _ (by simp)) before _
/-! ## One command -/

section

variable (settings : Settings) (context : Context) (sources : Nat → Dice)

/-- The line of a command reaches the dispatcher behind its mark. -/
theorem commandLine_token {quiet : Bool} {line : List Char}
    (proper : (Segment.command quiet line).Proper) :
    Commands.commandLine settings context (Segment.token quiet line) quiet =
      String.ofList ('!' :: line) := by
  have loudToken : (if quiet then
      Text.replaceFirst ['!'] [] (Segment.token quiet line) else Segment.token quiet line) =
      '(' :: '!' :: (line ++ [')']) := by
    cases quiet <;> rfl
  have bare : ('(' :: '!' :: (line ++ [')'])).filter (fun c => c != '(' && c != ')') =
      '!' :: line := by
    have kept : line.filter (fun c => c != '(' && c != ')') = line := by
      refine List.filter_eq_self.2 fun c member => ?_
      obtain ⟨-, opening, closing, -⟩ := proper.1 c member
      simp [opening, closing]
    simp [kept]
  have plain : '$' ∉ '!' :: line := by
    rw [List.mem_cons, not_or]
    exact ⟨by decide, fun member => (proper.1 '$' member).1 rfl⟩
  have untouched : ∀ key value : List Char,
      Text.replaceAll ('$' :: key) value ('!' :: line) = '!' :: line := fun key value =>
    Text.replaceAll_eq_self (fun found => plain (found.subset List.mem_cons_self)) value
  have sender : "$sender".toList = '$' :: "sender".toList := by decide
  have param : "$param".toList = '$' :: "param".toList := by decide
  rw [Commands.commandLine, loudToken, bare, sender, param, untouched, untouched]

theorem runMatch_token {quiet : Bool} {line : List Char}
    (proper : (Segment.command quiet line).Proper) (text : List Char) (world : World) :
    (Message.runMatch settings context .keepWhenEmpty (.dispatch quiet) text
        (Segment.token quiet line)).run (World.answer sources) world =
      (Message.splice (Segment.token quiet line) [] text,
        world.record (dispatchOf context quiet line)) := by
  rw [dispatchOf, ← commandLine_token settings context proper]
  rfl

end

/-- **The first of several commands** of a kind is the one that is taken out. -/
theorem splice_token {quiet : Bool} {earlier : List Segment}
    (foreign : ∀ segment ∈ earlier, segment.Foreign quiet) (line : List Char)
    (later : List Segment) :
    Message.splice (Segment.token quiet line) []
        (writeSegments (earlier ++ .command quiet line :: later)) =
      Text.trim (writeSegments (earlier ++ later)) := by
  have shape : writeSegments (earlier ++ .command quiet line :: later) =
      writeSegments earlier ++ Segment.token quiet line ++ writeSegments later := by
    rw [writeSegments_append, writeSegments_cons, Segment.written, List.append_assoc]
  have found : Text.breakOn? (Segment.token quiet line)
      (writeSegments earlier ++ Segment.token quiet line ++ writeSegments later) =
        some (writeSegments earlier, writeSegments later) := by
    refine Text.breakOn_first (Segment.token_ne_nil quiet line) fun beyond suffix some_ stands => ?_
    rw [List.append_assoc] at stands
    exact mark_absent foreign suffix some_ _ ((List.prefix_append _ _).trans stands)
  rw [Message.splice, shape, Text.replaceFirst_of_breakOn found, List.append_nil,
    writeSegments_append]

/-! ## All commands of a kind -/

/-- What is left of a message when commands of a kind have been run, up to the
lines that are still to come. -/
structure Spends (quiet : Bool) (segments : List Segment) (lines : List (List Char))
    (left : List Segment) : Prop where
  proper : ∀ segment ∈ left, segment.Proper
  lines_left : linesOf quiet left = lines
  others_left : linesOf (!quiet) left = linesOf (!quiet) segments
  shown : Text.trim (showSegments left) = Text.trim (showSegments segments)
  trimmed : linesOf quiet segments ≠ lines ∨ Text.trim (writeSegments segments) =
    writeSegments segments → Text.trim (writeSegments left) = writeSegments left

theorem Spends.trans {quiet : Bool} {a b c : List Segment} {some_ fewer : List (List Char)}
    (first : Spends quiet a some_ b) (second : Spends quiet b fewer c) :
    Spends quiet a fewer c where
  proper := second.proper
  lines_left := second.lines_left
  others_left := second.others_left.trans first.others_left
  shown := second.shown.trans first.shown
  trimmed := fun known => by
    refine second.trimmed ?_
    by_cases same : linesOf quiet b = fewer
    · -- nothing was run after the first part, so that part has trimmed the text
      rw [← same, first.lines_left] at known
      exact .inr (first.trimmed known)
    · exact .inl same

/-- **Splicing a command out** leaves a message with the other commands. -/
theorem exists_spent {quiet : Bool} {segments : List Segment}
    (proper : ∀ segment ∈ segments, segment.Proper)
    (hushed : quiet = false → linesOf true segments = []) {line : List Char}
    {lines : List (List Char)} (order : linesOf quiet segments = line :: lines) :
    (Segment.command quiet line).Proper ∧ ∃ left, Spends quiet segments lines left ∧
      Message.splice (Segment.token quiet line) [] (writeSegments segments) =
        writeSegments left := by
  obtain ⟨earlier, segment, later, rfl, others, here, rest⟩ := List.filterMap_eq_cons_iff.1 order
  obtain rfl := Segment.eq_command_of_line here
  have foreign : ∀ segment ∈ earlier, segment.Foreign quiet := fun segment member =>
    ⟨proper segment (by simp [member]), others segment member, fun loud =>
      List.filterMap_eq_nil_iff.1 (hushed loud) segment (by simp [member])⟩
  have othersGone : linesOf quiet earlier = [] := List.filterMap_eq_nil_iff.2 others
  have otherKind : (Segment.command quiet line).line? (!quiet) = none := by
    cases quiet <;> rfl
  have properRest : ∀ segment ∈ earlier ++ later, segment.Proper := fun segment member =>
    proper segment (by rcases List.mem_append.1 member with h | h <;> simp [h])
  obtain ⟨left, trims, written⟩ := exists_trimmed properRest
  refine ⟨proper _ (by simp), left, ⟨trims.proper, ?_, ?_, ?_, fun _ => ?_⟩, ?_⟩
  · rw [trims.lines, linesOf_append, othersGone]
    exact rest
  · rw [trims.lines, linesOf_append, linesOf_append]
    exact congrArg _ (List.filterMap_cons_none otherKind).symm
  · rw [trims.shown, showSegments_append, showSegments_append]
    rfl
  · rw [written, Text.trim_trim]
  · rw [splice_token foreign, written]

/-- **The commands of a kind are run one by one.** -/
theorem run_tokens (settings : Settings) (context : Context) (sources : Nat → Dice)
    {quiet : Bool} {segments : List Segment} (proper : ∀ segment ∈ segments, segment.Proper)
    (hushed : quiet = false → linesOf true segments = []) (world : World) :
    ∃ left, Spends quiet segments [] left ∧
      (((linesOf quiet segments).map (Segment.token quiet)).foldlM
          (Message.runMatch settings context .keepWhenEmpty (.dispatch quiet))
          (writeSegments segments)).run (World.answer sources) world =
        (writeSegments left,
          ((linesOf quiet segments).map (dispatchOf context quiet)).foldl World.record world) := by
  induction order : linesOf quiet segments generalizing segments world with
  | nil =>
      refine ⟨segments, ⟨proper, order, rfl, rfl, fun known => ?_⟩, rfl⟩
      exact known.resolve_left fun some_ => some_ order
  | cons line lines ih =>
      obtain ⟨properHere, next, spent, spliced⟩ := exists_spent proper hushed order
      have stillHushed : quiet = false → linesOf true next = [] := by
        rintro rfl
        exact spent.others_left.trans (hushed rfl)
      obtain ⟨left, spends, ran⟩ := ih spent.proper stillHushed
        (world.record (dispatchOf context quiet line)) spent.lines_left
      refine ⟨left, spent.trans spends, ?_⟩
      rw [List.map_cons, Dialogue.run_foldlM_cons,
        runMatch_token settings context sources properHere, spliced]
      exact ran

/-! ## The whole message -/

/-- The commands of a message in the order in which they are run. -/
def dispatchesOf (context : Context) (segments : List Segment) : List Dispatched :=
  (linesOf true segments).map (dispatchOf context true) ++
    (linesOf false segments).map (dispatchOf context false)

theorem foldl_record_dispatched (commands : List Dispatched) (world : World) :
    (commands.foldl World.record world).dispatched = world.dispatched ++ commands := by
  induction commands generalizing world with
  | nil => exact (List.append_nil _).symm
  | cons command commands ih =>
      rw [List.foldl_cons, ih]
      exact List.append_assoc _ _ _

variable {settings : Settings} {context : Context} {segments : List Segment}

/-- The rule for the commands of a kind. -/
def commandRule (quiet : Bool) : Rule Token :=
  ⟨commandTemplate quiet, .dispatch quiet⟩

theorem run_commandRule (settings : Settings) (context : Context) (sources : Nat → Dice)
    (quiet : Bool) (proper : ∀ segment ∈ segments, segment.Proper)
    (hushed : quiet = false → linesOf true segments = []) (world : World) :
    ∃ left, Spends quiet segments [] left ∧
      (Message.runRule settings context .keepWhenEmpty (writeSegments segments)
          (commandRule quiet)).run (World.answer sources) world =
        (writeSegments left,
          ((linesOf quiet segments).map (dispatchOf context quiet)).foldl World.record world) := by
  obtain ⟨left, spends, ran⟩ := run_tokens settings context sources proper hushed world
  refine ⟨left, spends, ?_⟩
  rw [Message.runRule, commandRule, lists_tokens proper hushed, ran]

/-- The command stage runs every command and leaves what is shown. -/
theorem runStage_commands (sources : Nat → Dice)
    (proper : ∀ segment ∈ segments, segment.Proper) {quiet : Bool} {line : List Char}
    (member : .command quiet line ∈ segments) (world : World) :
    (Message.runStage settings context (writeSegments segments) Pipeline.commandStage).run
        (World.answer sources) world =
      (Text.trim (showSegments segments),
        (dispatchesOf context segments).foldl World.record world) := by
  have uncounted : ∀ rule ∈ Pipeline.commandRules.take 2,
      rule.template.findAll (writeSegments segments) = [] := by
    intro rule counting
    have stems : ∀ rule ∈ Pipeline.commandRules.take 2, '$' ∈ rule.template.stem := by
      decide
    exact Template.findAll_eq_nil fun found =>
      (mem_written proper (found.subset (stems rule counting))).1 rfl
  have toCommands : Dialogue.Reaches (World.answer sources)
      (Message.runRule settings context .keepWhenEmpty) Pipeline.commandRules
      (writeSegments segments) world [commandRule true, commandRule false]
      (writeSegments segments) world :=
    Dialogue.Reaches.past
      (fun rule counting => Message.runRule_of_no_match (uncounted rule counting)) world
  -- the quiet commands are run first, so that the others are found when none is left
  obtain ⟨loud, hushes, ranQuiet⟩ :=
    run_commandRule settings context sources true proper nofun world
  obtain ⟨left, empties, ranLoud⟩ :=
    run_commandRule settings context sources false hushes.proper (fun _ => hushes.lines_left)
      (((linesOf true segments).map (dispatchOf context true)).foldl World.record world)
  have loudKept : linesOf false loud = linesOf false segments := hushes.others_left
  have gone : ∀ quiet, linesOf quiet left = [] := by
    intro quiet
    cases quiet with
    | false => exact empties.lines_left
    | true => exact empties.others_left.trans hushes.lines_left
  have trimmed : Text.trim (writeSegments left) = writeSegments left := by
    refine empties.trimmed ?_
    have listed : line ∈ linesOf quiet segments :=
      List.mem_filterMap.2 ⟨_, member, by simp [Segment.line?]⟩
    cases quiet with
    | false =>
        rw [← loudKept] at listed
        exact .inl (List.ne_nil_of_mem listed)
    | true => exact .inr (hushes.trimmed (.inl (List.ne_nil_of_mem listed)))
  have text : writeSegments left = Text.trim (showSegments segments) := by
    rw [← trimmed, writeSegments_of_no_lines gone, empties.shown, hushes.shown]
  rw [Pipeline.commandStage, Message.runStage, Message.runPass, not_blank_of_command member]
  refine toCommands.run_eq.trans ?_
  rw [Dialogue.run_foldlM_cons, ranQuiet, Dialogue.run_foldlM_cons, ranLoud, text,
    dispatchesOf, List.foldl_append, loudKept]
  rfl

/-- **Every inline command is run once**, the quiet ones in their order and then
the others in theirs, and the literal text is shown. -/
theorem Message.render_inline_commands (settings : Settings) (context : Context)
    (sources : Nat → Dice) (world : World) {segments : List Segment}
    (proper : ∀ segment ∈ segments, segment.Proper) {quiet : Bool} {line : List Char}
    (member : .command quiet line ∈ segments) :
    let rendered :=
      (render settings context (writeSegments segments)).run (World.answer sources) world
    rendered.1 = Text.trim (showSegments segments) ∧
      rendered.2 = (dispatchesOf context segments).foldl World.record world ∧
      rendered.2.dispatched = world.dispatched ++ dispatchesOf context segments := by
  have dollar : '$' ∉ writeSegments segments := fun found => (mem_written proper found).1 rfl
  have ampersand : '&' ∉ writeSegments segments := fun found => (mem_written proper found).2 rfl
  have plain : ∀ c ∈ Text.trim (showSegments segments), c ≠ '$' ∧ c ≠ '(' ∧ c ≠ '&' :=
    fun c inside => mem_shown proper (Text.mem_of_mem_trim inside)
  have before : ∀ stage ∈ Pipeline.stages.take 11, stage.Ignores (writeSegments segments) := by
    intro stage early
    have other : ∀ stage ∈ Pipeline.stages.take 11, stage ≠ Pipeline.commandStage := by
      decide
    exact Stage.ignores_of_clear (List.mem_of_mem_take early) (other stage early) dollar
      ampersand fun c found => paren_opens_command proper found
  have after : ∀ stage ∈ Pipeline.stages.drop 12,
      stage.Ignores (Text.trim (showSegments segments)) := fun stage late =>
    Stage.ignores_of_plain (List.mem_of_mem_drop late) (fun found => (plain _ found).1 rfl)
      (fun found => (plain _ found).2.2 rfl) (fun found => (plain _ found).2.1 rfl)
  have toCommands : Dialogue.Reaches (World.answer sources) (runStage settings context)
      Pipeline.stages (writeSegments segments) world
      (Pipeline.commandStage :: Pipeline.stages.drop 12) (writeSegments segments) world :=
    Dialogue.Reaches.past (fun stage early => runStage_of_ignores (before stage early)) world
  have ended : (Pipeline.stages.drop 12).foldlM (runStage settings context)
      (Text.trim (showSegments segments)) = .done (Text.trim (showSegments segments)) :=
    runStages_of_ignores after
  have whole : (render settings context (writeSegments segments)).run (World.answer sources)
      world = (Text.trim (showSegments segments),
        (dispatchesOf context segments).foldl World.record world) := by
    rw [render, CharReference.decode_eq_self ampersand, runStages, toCommands.run_eq,
      Dialogue.run_foldlM_cons, runStage_commands sources proper member, ended]
    rfl
  intro rendered
  rw [show rendered = _ from whole]
  exact ⟨rfl, rfl, foldl_record_dispatched _ _⟩

/-- Equal commands, commands side by side and a command that begins like another. -/
def pokes : List Segment :=
  [ .literal " hi ".toList, .command true "poke".toList, .command false "hug".toList,
    .command false "hug".toList, .literal "you".toList, .command false "hugs".toList,
    .command true "poke".toList, .literal " ".toList ]

theorem Message.pokes_and_hugs_are_run :
    let text := " hi (!!poke)(!hug)(!hug)you(!hugs)(!!poke) ".toList
    let rendered := (render {} {} text).run (World.answer fun _ => { rolls := fun _ => 0 }) {}
    rendered.1 = "hi you".toList ∧
      rendered.2.dispatched =
        [ dispatchOf {} true "poke".toList, dispatchOf {} true "poke".toList,
          dispatchOf {} false "hug".toList, dispatchOf {} false "hug".toList,
          dispatchOf {} false "hugs".toList ] := by
  intro text rendered
  have proper : ∀ segment ∈ pokes, segment.Proper := by decide
  have member : .command true "poke".toList ∈ pokes := by simp [pokes]
  have written : text = writeSegments pokes := by decide
  have ended : Text.trim (showSegments pokes) = "hi you".toList := by decide
  obtain ⟨shown, -, dispatched⟩ := render_inline_commands {} {} (fun _ => { rolls := fun _ => 0 })
    {} proper member
  rw [← written] at shown dispatched
  have order : dispatchesOf {} pokes =
      [ dispatchOf {} true "poke".toList, dispatchOf {} true "poke".toList,
        dispatchOf {} false "hug".toList, dispatchOf {} false "hug".toList,
        dispatchOf {} false "hugs".toList ] := rfl
  have fresh : ({} : World).dispatched = [] := rfl
  rw [order, fresh, List.nil_append] at dispatched
  have same : rendered =
      (Message.render {} {} text).run (World.answer fun _ => { rolls := fun _ => 0 }) {} := rfl
  rw [same]
  exact ⟨shown.trans ended, dispatched⟩

end ChatTemplate
