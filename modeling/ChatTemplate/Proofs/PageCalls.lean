/-
# ChatTemplate.Proofs.PageCalls -- every call of a script sees its own page

Before a script runs, the page of each of its calls `url("…")` is fetched, and the call gives way
to a name that chance draws and that is bound to the page.  All calls are served when each address
has a page; the world then differs in what was fetched and in how often chance was asked
(`World.afterCalls`).

The names are `ToldApart` when no two addresses have one name and no name is a word of the script.
Then the script comes to what it would come to with the pages in the places of its calls
(`resolveAnswered`).

Main statement: `run_resolve_answered`, and `quote_in_address_ends_call`, a call whose address is
cut off.
-/
import ChatTemplate.Proofs.NamedStatements
import ChatTemplate.Proofs.UserLoading
import ChatTemplate.Proofs.WrittenCalls

namespace ChatTemplate

set_option autoImplicit false

/-! ## Bindings one after the other -/

namespace Table

variable {α : Type}

theorem setAll_concat (table : Table α) (bindings : List (String × α)) (binding : String × α) :
    table.setAll (bindings ++ [binding]) = (table.setAll bindings).set binding.1 binding.2 :=
  List.foldl_concat ..

theorem setAll_append (table : Table α) (bindings more : List (String × α)) :
    table.setAll (bindings ++ more) = (table.setAll bindings).setAll more :=
  List.foldl_append

/-- What is bound in a table is what is bound last, or else what was bound before. -/
theorem get?_setAll (table : Table α) (bindings : List (String × α)) (name : String) :
    (table.setAll bindings).get? name =
      ((empty.setAll bindings).get? name).or (table.get? name) := by
  induction bindings using List.reverseRecOn with
  | nil => rfl
  | append_singleton bindings binding ih =>
      rw [setAll_concat, setAll_concat, get?_set, get?_set, ih]
      split <;> rfl

theorem mem_of_get?_setAll {bindings : List (String × α)} {name : String} {value : α}
    (found : (empty.setAll bindings).get? name = some value) : (name, value) ∈ bindings := by
  induction bindings using List.reverseRecOn with
  | nil => nomatch found
  | append_singleton bindings binding ih =>
      rw [setAll_concat, get?_set] at found
      split at found
      · next same =>
          obtain rfl := Option.some.inj found
          rw [same]
          simp
      · exact List.mem_append_left _ (ih found)

theorem isSome_get?_setAll {bindings : List (String × α)} {name : String} {value : α}
    (member : (name, value) ∈ bindings) : ((empty.setAll bindings).get? name).isSome = true := by
  induction bindings using List.reverseRecOn with
  | nil => nomatch member
  | append_singleton bindings binding ih =>
      rw [setAll_concat, get?_set]
      split
      · rfl
      · next apart =>
          rcases List.mem_append.1 member with before | last
          · exact ih before
          · obtain rfl := List.mem_singleton.1 last
            exact absurd rfl apart

/-- A name with one value among the bindings has it afterwards. -/
theorem get?_setAll_of_mem {bindings : List (String × α)} {name : String} {value : α}
    (member : (name, value) ∈ bindings)
    (only : ∀ other, (name, other) ∈ bindings → other = value) :
    (empty.setAll bindings).get? name = some value := by
  obtain ⟨other, found⟩ := Option.isSome_iff_exists.1 (isSome_get?_setAll member)
  rw [found, only other (mem_of_get?_setAll found)]

end Table

/-! ## Running a script with its pages -/

/-- What a script comes to with the pages in the places of its calls. -/
def Script.answeredScript (page : String → Value) (source : List Char)
    (bindings : List (String × Value)) (dice : Dice) : Except ScriptError Value :=
  match parseProgram (lex source) with
  | .ok program =>
      outcome (runProgram (answeredThroughout page program))
        ((Scope.ofDialect .script).setAll bindings) dice
  | .error cause => .error (.badSource cause)

namespace Scripting

open Script (Value lex parseProgram)

/-! ## Names that are drawn -/

/-- No word is the name of a page but one that begins with `url`. -/
theorem ne_pageName {word : String} (other : word.toList.take 3 ≠ ['u', 'r', 'l']) (n : Nat) :
    word ≠ pageName n := by
  rintro rfl
  obtain ⟨d, digits, spelled, -⟩ := exists_digit_of_pageName n
  rw [spelled] at other
  exact other rfl

/-- No name of a page has a point in it. -/
theorem point_not_mem_pageName (n : Nat) : '.' ∉ (pageName n).toList := by
  intro member
  exact absurd (isNamePart_of_mem_pageName member) (by decide)

/-- The names that chance draws for some calls, from the sources that are next. -/
def drawNames (sources : Nat → Dice) : Nat → List PageCall → List Draw
  | _, [] => []
  | n, call :: calls =>
      ⟨pageName ((sources n).below pageNames).1, call⟩ :: drawNames sources (n + 1) calls

theorem map_call_drawNames (sources : Nat → Dice) (n : Nat) (calls : List PageCall) :
    (drawNames sources n calls).map Draw.call = calls := by
  induction calls generalizing n with
  | nil => rfl
  | cons call calls ih => rw [drawNames, List.map_cons, ih]

theorem pageNamed_drawNames (sources : Nat → Dice) (n : Nat) (calls : List PageCall) :
    PageNamed (drawNames sources n calls) := by
  induction calls generalizing n with
  | nil => exact List.forall_mem_nil _
  | cons call calls ih => exact List.forall_mem_cons.2 ⟨⟨_, rfl⟩, ih (n + 1)⟩

/-- What the names are bound to. -/
def pagesOf (page : String → Value) (draws : List Draw) : List (String × Value) :=
  draws.map fun draw => (draw.name, page draw.call.address)

/-- **The names tell the calls apart**: no two addresses have one name, and no name is a word of
the script. -/
structure ToldApart (draws : List Draw) (source : List Char) : Prop where
  addresses : ∀ one ∈ draws, ∀ other ∈ draws, one.name = other.name →
    one.call.address = other.call.address
  unused : ∀ draw ∈ draws, .name draw.name ∉ lex source

section

variable {page : String → Value} {draws : List Draw}

/-- The page that a name is bound to. -/
def boundPage (page : String → Value) (draws : List Draw) (name : String) : Option Value :=
  (Table.empty.setAll (pagesOf page draws)).get? name

theorem exists_draw_of_bound {name : String} {value : Value}
    (bound : boundPage page draws name = some value) :
    ∃ draw ∈ draws, name = draw.name ∧ value = page draw.call.address := by
  obtain ⟨draw, member, same⟩ := List.mem_map.1 (Table.mem_of_get?_setAll bound)
  obtain ⟨rfl, rfl⟩ := Prod.mk.inj same
  exact ⟨draw, member, rfl, rfl⟩

/-- What no name of a page is is not bound. -/
theorem boundPage_eq_none (names : PageNamed draws) {word : String}
    (other : ∀ n, word ≠ pageName n) : boundPage page draws word = none := by
  rw [Option.eq_none_iff_forall_ne_some]
  intro value bound
  obtain ⟨draw, member, rfl, -⟩ := exists_draw_of_bound bound
  obtain ⟨n, same⟩ := names draw member
  exact other n same

theorem unpointed_boundPage (names : PageNamed draws) : Script.Unpointed (boundPage page draws) :=
  fun _ _ => boundPage_eq_none names fun n => Script.constant_ne (point_not_mem_pageName n)

theorem boundPage_reserved (names : PageNamed draws) :
    ∀ word ∈ Script.reservedWords, boundPage page draws word = none := by
  have others : ∀ word ∈ Script.reservedWords, word.toList.take 3 ≠ ['u', 'r', 'l'] := by decide
  exact fun word member => boundPage_eq_none names (ne_pageName (others word member))

variable {source : List Char}

/-- **Each name is bound to the page of its own call**, when the names tell the calls apart. -/
theorem ToldApart.boundPage_eq (told : ToldApart draws source) {draw : Draw}
    (member : draw ∈ draws) : boundPage page draws draw.name = some (page draw.call.address) := by
  refine Table.get?_setAll_of_mem (List.mem_map.2 ⟨draw, member, rfl⟩) fun other bound => ?_
  obtain ⟨one, drawn, same⟩ := List.mem_map.1 bound
  obtain ⟨name, rfl⟩ := Prod.mk.inj same
  rw [told.addresses one drawn draw member name]

theorem ToldApart.boundPage_word (told : ToldApart draws source) {word : String}
    (here : .name word ∈ lex source) : boundPage page draws word = none := by
  rw [Option.eq_none_iff_forall_ne_some]
  intro value bound
  obtain ⟨draw, member, rfl, -⟩ := exists_draw_of_bound bound
  exact told.unused draw member here

section

variable (scope : Script.Scope) (own : List (String × Value)) {name : String}

/-- A scope with the pages agrees in all names that are bound to none. -/
theorem get?_of_unbound (unbound : boundPage page draws name = none) :
    (scope.setAll (pagesOf page draws ++ own)).get? name = (scope.setAll own).get? name := by
  have before : (scope.setAll (pagesOf page draws)).get? name = scope.get? name := by
    rw [Table.get?_setAll, ← boundPage, unbound, Option.none_or]
  rw [Table.setAll_append, Table.get?_setAll (scope.setAll (pagesOf page draws)), before,
    ← Table.get?_setAll]

/-- It has the pages, as no other binding has a name of one. -/
theorem get?_of_bound (names : PageNamed draws)
    (owns : ∀ binding ∈ own, ∀ n, binding.1 ≠ pageName n) {value : Value} (bound : boundPage page draws name = some value) :
    (scope.setAll (pagesOf page draws ++ own)).get? name = some value := by
  have unowned : (Table.empty.setAll own).get? name = none := by
    rw [Option.eq_none_iff_forall_ne_some]
    intro other found
    obtain ⟨draw, member, rfl, -⟩ := exists_draw_of_bound bound
    obtain ⟨n, same⟩ := names draw member
    exact owns _ (Table.mem_of_get?_setAll found) n same
  rw [Table.setAll_append, Table.get?_setAll, unowned, Option.none_or, Table.get?_setAll,
    ← boundPage, bound, Option.some_or]

end

variable (page) in
/-- **A script with the names comes to the same as the script with the pages.** -/
theorem script_insertNames {calls : List PageCall} (written : Written source calls)
    (drawn : draws.map Draw.call = calls) (names : PageNamed draws) (told : ToldApart draws source)
    {program : List Script.Stmt} (parsed : parseProgram (lex source) = .ok program)
    {own : List (String × Value)} (owns : ∀ binding ∈ own, ∀ n, binding.1 ≠ pageName n)
    (dice : Dice) :
    Script.script (insertNames source draws) (pagesOf page draws ++ own) dice =
      Script.answeredScript page source own dice := by
  have tokens : Script.NamedSource page (boundPage page draws) (lex source)
      (lex (insertNames source draws)) :=
    namedSource_insertNames written drawn names (fun draw member => told.boundPage_eq member)
      fun word here => told.boundPage_word here
  obtain ⟨program', parsed', named⟩ :=
    Script.parseProgram_named (boundPage_reserved names) tokens parsed
  rw [Script.script, Script.answeredScript, Script.runSource, parsed, parsed']
  exact Script.outcome_of_named (unpointed_boundPage names) named
    (fun name unbound => get?_of_unbound _ own unbound)
    (fun name value bound => get?_of_bound _ own names owns bound) dice

end

end Scripting

/-! ## Fetching the pages -/

open Scripting (PageCall)

namespace World

/-- The value of the page at an address. -/
def page (world : World) (address : String) : Script.Value :=
  match world.routes.get? address with
  | some reply => Scripting.pageValue reply
  | none => .null

/-- Every address of some calls has a page. -/
def Serves (world : World) (calls : List PageCall) : Prop :=
  ∀ call ∈ calls, (world.routes.get? call.address).isSome = true

instance (world : World) (calls : List PageCall) : Decidable (world.Serves calls) :=
  inferInstanceAs (Decidable (∀ call ∈ calls, _))

/-- **The world after the pages of some calls were fetched.** -/
def afterCalls (world : World) (calls : List PageCall) : World :=
  { world with
    chances := world.chances + calls.length
    fetched := world.fetched ++ calls.map fun call => { address := call.address, headers := [] } }

theorem afterCalls_cons (world : World) (call : PageCall) (calls : List PageCall) :
    world.afterCalls (call :: calls) = (world.afterCalls [call]).afterCalls calls := by
  simp [afterCalls, Nat.add_comm, Nat.add_left_comm]

end World

namespace Scripting

open Script (Value lex parseProgram)

variable {host : Host} {settings : Settings} {context : Context} {token source : List Char}
  {calls : List PageCall}

/-- A page that there is is fetched. -/
theorem run_fetch (up : Collaborator.web ∉ host.down) (world : World) {address : String}
    {reply : WebReply} (found : world.routes.get? address = some reply) :
    (Chat.attempt (Chat.ask (Query.put (.fetch address [])))).run host.answer world =
      (.ok reply, { world with fetched := world.fetched ++ [{ address, headers := [] }] }) := by
  have answered : host.answer (.fetch address []) world =
      World.answer host.sources (.fetch address []) world :=
    Host.answer_of_responsible rfl up world
  have fetched : World.answer host.sources (.fetch address []) world =
      (.ok reply, { world with fetched := world.fetched ++ [{ address, headers := [] }] }) := by
    rw [World.answer, World.fetch, found]
  exact answered.trans fetched

/-- **A call that is served** gives way to the name that is drawn, which is bound to its page. -/
theorem run_fetchCall (up : Collaborator.web ∉ host.down) {world : World} {call : PageCall}
    (served : (world.routes.get? call.address).isSome = true) (prepared : Prepared) :
    (Chat.attempt (fetchCall prepared call.text)).run host.answer world =
      (.ok ⟨insertNames prepared.source (drawNames host.sources world.chances [call]),
          prepared.pages ++ pagesOf world.page (drawNames host.sources world.chances [call])⟩,
        world.afterCalls [call]) := by
  obtain ⟨reply, found⟩ := Option.isSome_iff_exists.1 served
  have drawn : (Chat.attempt (liftM (Query.put .chance))).run host.answer world =
      (.ok (host.sources world.chances), { world with chances := world.chances + 1 }) := rfl
  have fetched := run_fetch up { world with chances := world.chances + 1 } found
  have paged : world.page call.address = pageValue reply := by rw [World.page, found]
  rw [fetchCall, Chat.run_bind_of_ok drawn, call.addressOf_text]
  dsimp only
  rw [Chat.run_bind_of_ok fetched, drawNames, drawNames, pagesOf, List.map_singleton, paged]
  rfl

/-- The calls give way one after the other. -/
theorem run_fetchCalls (up : Collaborator.web ∉ host.down) (calls : List PageCall) {world : World}
    (served : world.Serves calls) (prepared : Prepared) :
    (Chat.attempt ((calls.map PageCall.text).foldlM fetchCall prepared)).run host.answer world =
      (.ok ⟨insertNames prepared.source (drawNames host.sources world.chances calls),
          prepared.pages ++ pagesOf world.page (drawNames host.sources world.chances calls)⟩,
        world.afterCalls calls) := by
  induction calls generalizing world prepared with
  | nil =>
      have nothing : prepared.pages ++ pagesOf world.page [] = prepared.pages := List.append_nil _
      have same : world.afterCalls [] = world := by simp [World.afterCalls]
      rw [drawNames, nothing, same]
      rfl
  | cons call calls ih =>
      obtain ⟨first, others⟩ := List.forall_mem_cons.1 served
      have othersServed : (world.afterCalls [call]).Serves calls := others
      have later := ih othersServed
        ⟨insertNames prepared.source (drawNames host.sources world.chances [call]),
          prepared.pages ++ pagesOf world.page (drawNames host.sources world.chances [call])⟩
      rw [List.append_assoc, ← World.afterCalls_cons] at later
      rw [List.map_cons, List.foldlM_cons, Chat.run_bind_of_ok (run_fetchCall up first prepared)]
      exact later

/-- **A script whose calls are all served is prepared.** -/
theorem run_prepare (up : Collaborator.web ∉ host.down) (written : Written source calls)
    {world : World} (served : world.Serves calls) :
    (Chat.attempt (prepare source)).run host.answer world =
      (.ok ⟨insertNames source (drawNames host.sources world.chances calls),
          pagesOf world.page (drawNames host.sources world.chances calls)⟩,
        world.afterCalls calls) := by
  rw [prepare, findAll_of_written written]
  exact run_fetchCalls up calls served { source }

/-- **A script token with the pages in the places of its calls.** -/
def resolveAnswered (page : String → Value) (settings : Settings) (context : Context)
    (token : List Char) : Chat (List Char) := do
  let source := sourceOf token
  let users ← lookUp (needsUsers source) (Query.put .allUsers)
  let sender ← senderRecord context.sender
  let online ← lookUp (needsOnline source) (Query.put (.usersWhere onlineUsers))
  let random ← picksBy RandomPick.pick settings users online
  let dice ← Query.put .chance
  match Script.answeredScript page source
      (bindings settings context { source } users sender random) dice with
  | .ok value => return value.chars
  | .error cause => throw (.badScript cause)

/-- **Every call of a script sees its own page**, when all calls are served and the names that are
drawn tell them apart. -/
theorem run_resolve_answered (up : Collaborator.web ∉ host.down)
    (written : Written (sourceOf token) calls) {world : World} (served : world.Serves calls)
    (told : ToldApart (drawNames host.sources world.chances calls) (sourceOf token))
    {program : List Script.Stmt} (parsed : parseProgram (lex (sourceOf token)) = .ok program) :
    host.run (Chat.attempt (resolve settings context token)) world =
      host.run (Chat.attempt (resolveAnswered world.page settings context token))
        (world.afterCalls calls) := by
  rw [resolve_eq, resolveBy, Host.run, Chat.run_bind_of_ok (run_prepare up written served)]
  refine congrArg (fun chat => host.run (Chat.attempt chat) (world.afterCalls calls)) ?_
  refine congrArg (lookUp _ _ >>= ·) (funext fun users => ?_)
  refine congrArg (senderRecord _ >>= ·) (funext fun sender => ?_)
  refine congrArg (lookUp _ _ >>= ·) (funext fun online => ?_)
  refine congrArg (liftM (picksBy _ _ _ _) >>= ·) (funext fun random => ?_)
  refine congrArg (liftM (Query.put .chance) >>= ·) (funext fun dice => ?_)
  have owns : ∀ binding ∈
      bindings settings context { source := sourceOf token } users sender random, ∀ n, binding.1 ≠ pageName n := by
    have others : ∀ name ∈ ["users", "is", "random", "sender", "param"],
        name.toList.take 3 ≠ ['u', 'r', 'l'] := by
      decide
    intro binding member
    exact ne_pageName (others binding.1 (List.mem_map_of_mem member))
  have same := script_insertNames world.page written (map_call_drawNames ..)
    (pageNamed_drawNames _ _ _) told parsed owns dice
  exact congrArg (fun outcome : Except Script.ScriptError Value =>
    match outcome with
    | .ok value => (return value.chars : Chat (List Char))
    | .error cause => throw (Failure.badScript cause)) same

/-- A character that stands for itself in an address in quotes of either kind. -/
def isPlain (c : Char) : Bool :=
  c != '\'' && c != '"' && c != '\\' && c != '\n'

/-- A call of an address of such characters. -/
def plainCall (quote : Char) (address : String) (isQuote : IsQuote quote)
    (plain : address.toList.all isPlain = true) : PageCall where
  quote := quote
  address := address
  isQuote := isQuote
  plain c member := by
    have here := List.all_eq_true.1 plain c member
    simp only [isPlain, Bool.and_eq_true, bne_iff_ne] at here
    obtain ⟨⟨⟨noSingle, noDouble⟩, noBackslash⟩, sameLine⟩ := here
    rcases isQuote with rfl | rfl
    · exact ⟨noSingle, noBackslash, sameLine⟩
    · exact ⟨noDouble, noBackslash, sameLine⟩
  unclosed c quoted inside := by
    have here := List.all_eq_true.1 plain c (inside.subset List.mem_cons_self)
    rcases quoted with rfl | rfl <;> nomatch here

/-- Two pages with a number each. -/
def twoPages : World where
  routes := ⟨[ ("https://x/a", { status := 200, body := "1" }),
    ("https://x/b", { status := 200, body := "2" }) ]⟩

/-- Chance that draws the numbers one after the other. -/
def countingHost : Host where
  sources n := { rolls := fun _ => n }

def sumOfPages : List Char :=
  "(eval return url(\"https://x/a\") + url('https://x/b'))".toList

theorem sumOfPages_is_answered :
    let one := plainCall '"' "https://x/a" (.inr rfl) (by rfl)
    let other := plainCall '\'' "https://x/b" (.inl rfl) (by rfl)
    Collaborator.web ∉ countingHost.down ∧ Written (sourceOf sumOfPages) [one, other] ∧
      twoPages.Serves [one, other] ∧
      ToldApart (drawNames countingHost.sources twoPages.chances [one, other])
        (sourceOf sumOfPages) ∧
      (∃ program, parseProgram (lex (sourceOf sumOfPages)) = .ok program) ∧
      (countingHost.run (Chat.attempt (resolve {} {} sumOfPages)) twoPages).1.toOption =
        some "3".toList ∧
      countingHost.run (Chat.attempt (resolve {} {} sumOfPages)) twoPages =
        countingHost.run (Chat.attempt (resolveAnswered twoPages.page {} {} sumOfPages))
          (twoPages.afterCalls [one, other]) := by
  intro one other
  have up : Collaborator.web ∉ countingHost.down := by decide
  have returns : Gap "return ".toList [.name "return"] := by
    refine ⟨by decide, fun behind => ?_, Script.uncalled_of_not_mem (by decide), by decide⟩
    have word : lex ('r' :: "eturn".toList ++ ' ' :: 'u' :: behind) =
        .name "return" :: lex (' ' :: 'u' :: behind) :=
      Script.lex_name (by decide) (List.all_eq_true.1 (by rfl)) rfl
    exact word.trans (congrArg (.name "return" :: ·) (Script.lex_blank rfl _))
  have plus : Gap " + ".toList [.sym .plus] := by
    refine ⟨by decide, fun behind => ?_, Script.uncalled_of_not_mem (by decide), by decide⟩
    have symbol : lex (Script.Symbol.plus.spelling.toList ++ ' ' :: 'u' :: behind) =
        .sym .plus :: lex (' ' :: 'u' :: behind) :=
      Script.lex_symbol (by simp; decide)
    exact (Script.lex_blank rfl _).trans
      (symbol.trans (congrArg (.sym .plus :: ·) (Script.lex_blank rfl _)))
  have last : Written [] [] := .last (by decide) (Script.uncalled_of_not_mem (by decide))
  have written : Written (sourceOf sumOfPages) [one, other] := by
    have parts : sourceOf sumOfPages =
        "return ".toList ++ (one.text ++ (" + ".toList ++ (other.text ++ []))) := by
      decide +kernel
    rw [parts]
    exact .call returns rfl (.call plus rfl last)
  have served : twoPages.Serves [one, other] := by decide +kernel
  have told : ToldApart (drawNames countingHost.sources twoPages.chances [one, other])
      (sourceOf sumOfPages) :=
    ⟨by decide +kernel, by decide +kernel⟩
  obtain ⟨program, parsed⟩ : ∃ program, parseProgram (lex (sourceOf sumOfPages)) = .ok program := by
    have reads : (parseProgram (lex (sourceOf sumOfPages))).toBool = true := by decide +kernel
    cases read : parseProgram (lex (sourceOf sumOfPages)) with
    | ok program => exact ⟨program, rfl⟩
    | error cause =>
        rw [read] at reads
        nomatch reads
  exact ⟨up, written, served, told, ⟨program, parsed⟩, by decide +kernel,
    run_resolve_answered up written served told parsed⟩

/-- Names of one draw do not tell two calls apart: both see the second page. -/
example :
    ((Host.run { sources := fun _ => { rolls := fun _ => 0 } }
      (Chat.attempt (resolve {} {} sumOfPages)) twoPages).1.toOption) = some "4".toList := by
  decide +kernel

/-- A page whose address has a quote with a parenthesis behind it, and one at the part before. -/
def quotedPages : World where
  routes := ⟨[ ("https://x/People('ann')", { status := 200, body := "2" }),
    ("https://x/People('ann", { status := 200, body := "1" }) ]⟩

/-- **A quote in an address ends the call**, though it is not the one that opened it.  The call
would see the first page, and what is fetched is the second one, for a script that is none. -/
theorem quote_in_address_ends_call :
    let token := "(eval return url(\"https://x/People('ann')\"))".toList
    let run := fun chat => countingHost.run (Chat.attempt chat) quotedPages
    (run (resolveAnswered quotedPages.page {} {} token)).1.toOption = some "2".toList ∧
      (run (resolve {} {} token)).1.toOption = none ∧
      (run (resolve {} {} token)).2.fetched =
        [{ address := "https://x/People('ann", headers := [] }] := by
  intro token run
  exact ⟨by decide +kernel, by decide +kernel⟩

end Scripting

end ChatTemplate
