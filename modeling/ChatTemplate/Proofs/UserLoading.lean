/-
# ChatTemplate.Proofs.UserLoading -- which users a script needs

Users are looked up only for a script that speaks of them.  `resolveBy` is a script token
with any rule for its picks and any choice of what is looked up (`Provision`), of which
the token itself is a case (`resolve_eq`).  The rule has to be `Steady`: what it asks does
not depend on the names that it picks from.  Then what is looked up cannot be told from
what a script gives:

* a script that speaks neither of `users` nor of random picks has no name for anything
  that depends on the users (`agrees_unspoken`);
* one that does not speak of `online` cannot name the picks among the users online.  It
  can still reach them through `random` as a whole, or with a key that it computes, so it
  has to be one that takes `random` apart by keys that are written out
  (`Use.TakesApart`).

Main statement: `resolve_loads_enough`, and `computed_key_is_seen`, a script that puts the
key `online` together.
-/
import ChatTemplate.Proofs.DialogueFold
import ChatTemplate.Proofs.NewUsers
import ChatTemplate.Proofs.PageNames

namespace ChatTemplate

set_option autoImplicit false

namespace Script

/-! ## Bindings that a script does not tell apart -/

/-- **Two maps that are the same but for one key.** -/
inductive Value.DifferAt (key : String) : Value → Value → Prop
  | map {fields others : List (String × Value)}
      (same : ∀ other, other ≠ key → fields.lookup other = others.lookup other) :
      DifferAt key (.map fields) (.map others)

/-- **A name is taken apart**: it is not read as a whole, nor by an element with that key. -/
def Use.TakesApart (name key : String) : Use → Prop
  | whole other => other ≠ name
  | part other (.index value) => other = name → value.text ≠ key
  | _ => True

/-- **A script takes a name apart**, by members and by elements whose keys are written out and
are other keys. -/
def TakesApart (name key : String) (source : List Char) : Prop :=
  ∀ program, parseProgram (lex source) = .ok program →
    ∀ use ∈ usesAnywhere program, use.TakesApart name key

instance (name key : String) : (use : Use) → Decidable (use.TakesApart name key)
  | .whole other => inferInstanceAs (Decidable (other ≠ name))
  | .part other (.index value) => inferInstanceAs (Decidable (other = name → value.text ≠ key))
  | .part _ (.member _) => .isTrue trivial
  | .constant _ _ => .isTrue trivial

instance (name key : String) (source : List Char) : Decidable (TakesApart name key source) :=
  match parsed : parseProgram (lex source) with
  | .ok program =>
      decidable_of_iff (∀ use ∈ usesAnywhere program, use.TakesApart name key)
        (by simp [TakesApart, parsed])
  | .error _ => .isTrue (by simp [TakesApart, parsed])

/-- Any bindings of some names. -/
def Likeness.besides (names : List String) : Likeness where
  related name one other := name ∉ names → one = other
  refl _ _ _ := rfl

/-- Bindings of one name that differ at one key. -/
def Likeness.differAt (name key : String) : Likeness where
  related found one other := one = other ∨
    found = name ∧ ∃ value value', one = some value ∧ other = some value' ∧
      Value.DifferAt key value value'
  refl _ _ := .inl rfl

/-- A constant of a namespace is not bound under a plain name. -/
theorem constant_ne {space key name : String} (plain : '.' ∉ name.toList) :
    space ++ "." ++ key ≠ name := by
  rintro rfl
  exact plain (by simp)

theorem Use.agrees_besides {names : List String} {use : Use} (other : use.name ∉ names) :
    use.Agrees (.besides names) := by
  cases use with
  | whole name => exact fun _ _ related => related other
  | part name access => exact fun _ _ related => congrArg _ (related other)
  | constant space key => exact fun _ _ related => related other

/-- **Who takes a name apart does not see one key.** -/
theorem Use.agrees_differAt {name key : String} (plain : '.' ∉ name.toList) {use : Use}
    (apart : use.TakesApart name key) (member : use ≠ .part name (.member key)) :
    use.Agrees (.differAt name key) := by
  cases use with
  | whole other =>
      rintro one _ (rfl | ⟨own, -⟩)
      · rfl
      · exact absurd own apart
  | constant space inSpace =>
      rintro one _ (rfl | ⟨own, -⟩)
      · rfl
      · exact absurd own (constant_ne plain)
  | part other access =>
      rintro one _ (rfl | ⟨rfl, value, value', rfl, rfl, ⟨same⟩⟩)
      · rfl
      · cases access with
        | member read =>
            have beside : read ≠ key := by
              rintro rfl
              exact member rfl
            exact congrArg (fun found => some (found.getD Value.null)) (same read beside)
        | index read =>
            exact congrArg (fun found => some (found.getD Value.null)) (same _ (apart rfl))

/-- A script does the same with bindings that it does not tell apart. -/
theorem script_congr (likeness : Likeness) {source : List Char}
    {one other : List (String × Value)}
    (bound : List.Forall₂ (fun binding binding' => binding.1 = binding'.1 ∧
      likeness.related binding.1 (some binding.2) (some binding'.2)) one other)
    (agrees : ∀ program, parseProgram (lex source) = .ok program →
      ∀ use ∈ usesAnywhere program, use.Agrees likeness) (dice : Dice) :
    script source one dice = script source other dice :=
  outcome_runSource (Likeness.Between.setAll (fun _ => likeness.refl _ _) bound) agrees dice

end Script

namespace Scripting

/-! ## Any picks and any users -/

/-- A rule by which a name is picked out of a list. -/
abbrev Picker := List String → Dialogue (Option String)

def pickValueBy (pick : Picker) (names : List String) : Dialogue Script.Value := do
  match ← pick names with
  | some name => return .str name
  | none => return .null

/-- The `random` object of a script, with any rule for the picks. -/
def picksBy (pick : Picker) (settings : Settings) (users online : List User) :
    Dialogue Script.Value := do
  let eligible := RandomPick.eligible settings
  let onlineViewer ← pickValueBy pick (eligible online)
  let onlineFollower ← pickValueBy pick (eligible (online.filter (·.follower)))
  let onlineSubscriber ← pickValueBy pick (eligible (online.filter (·.subscriber)))
  let viewer ← pickValueBy pick (users.map (·.name))
  let follower ← pickValueBy pick ((users.filter (·.follower)).map (·.name))
  let subscriber ← pickValueBy pick ((users.filter (·.subscriber)).map (·.name))
  return .map
    [ ("follower", follower),
      ("online",
        .map
          [ ("follower", onlineFollower), ("subscriber", onlineSubscriber),
            ("viewer", onlineViewer) ]),
      ("subscriber", subscriber), ("viewer", viewer) ]

/-- **For which scripts users are looked up**: all users, and those online. -/
structure Provision where
  users : List Char → Bool
  online : List Char → Bool

/-- For scripts that speak of them. -/
def Provision.asSpoken : Provision := ⟨needsUsers, needsOnline⟩

/-- For all scripts. -/
def Provision.always : Provision := ⟨fun _ => true, fun _ => true⟩

/-- What a script sees. -/
def bindings (settings : Settings) (context : Context) (prepared : Prepared) (users : List User)
    (sender : User) (random : Script.Value) : List (String × Script.Value) :=
  prepared.pages ++
    [ ("users", .list (users.map User.toValue)), ("is", sender.flags), ("random", random),
      ("sender", .str (settings.mention context.sender.name)),
      ("param", argumentValue context) ]

/-- What a script comes to, once all is known that it sees. -/
def conclude (pick : Picker) (settings : Settings) (context : Context) (prepared : Prepared)
    (users : List User) (sender : User) (online : List User) : Chat (List Char) := do
  let random ← picksBy pick settings users online
  let dice ← Query.put .chance
  match Script.script prepared.source (bindings settings context prepared users sender random)
      dice with
  | .ok value => return value.chars
  | .error cause => throw (.badScript cause)

def onlineUsers : UserFilter := { online := some true }

/-- Looks users up if they are wanted. -/
def lookUp (wanted : Bool) (users : Dialogue (Except Failure (List User))) : Chat (List User) :=
  if wanted then Chat.ask users else pure []

/-- **A script token**, with any rule for its picks and any users looked up. -/
def resolveBy (pick : Picker) (provision : Provision) (settings : Settings) (context : Context)
    (token : List Char) : Chat (List Char) := do
  let source := sourceOf token
  let prepared ← prepare source
  let users ← lookUp (provision.users source) (Query.put .allUsers)
  let sender ← senderRecord context.sender
  let online ← lookUp (provision.online source) (Query.put (.usersWhere onlineUsers))
  conclude pick settings context prepared users sender online

/-- **The token of the channel** picks by chance and looks up whom the script speaks of. -/
theorem resolve_eq (settings : Settings) (context : Context) (token : List Char) :
    resolve settings context token =
      resolveBy RandomPick.pick .asSpoken settings context token := by
  refine congrArg (prepare (sourceOf token) >>= ·) (funext fun prepared => ?_)
  dsimp only [Provision.asSpoken, lookUp]
  -- whether all users are looked up, and whether those online
  split <;> split <;> rfl

end Scripting

/-! ## Dialogues in step -/

theorem Chat.attempt_lift_bind {α β : Type} (dialogue : Dialogue α) (next : α → Chat β) :
    Chat.attempt (liftM dialogue >>= next) =
      dialogue >>= fun result => Chat.attempt (next result) := by
  have lifted : Chat.attempt (liftM dialogue >>= next) =
      (Except.ok <$> dialogue) >>= ExceptT.bindCont next := rfl
  rw [lifted, map_eq_pure_bind, bind_assoc]
  rfl

/-- **Two dialogues are in step with a host**: whatever the world, what they come to is related
and they leave the same world. -/
def Host.InStep {α β : Type} (host : Host) (related : α → β → Prop) (one : Dialogue α)
    (other : Dialogue β) : Prop :=
  ∀ world, related (host.run one world).1 (host.run other world).1 ∧
    (host.run one world).2 = (host.run other world).2

namespace Host.InStep

variable {host : Host} {α β γ δ : Type} {related : α → β → Prop} {one : Dialogue α}
  {other : Dialogue β}

theorem pure {result : α} {result' : β} (here : related result result') :
    host.InStep related (Pure.pure result) (Pure.pure result') :=
  fun _ => ⟨here, rfl⟩

theorem refl (dialogue : Dialogue α) : host.InStep Eq dialogue dialogue :=
  fun _ => ⟨rfl, rfl⟩

theorem mono {more : α → β → Prop} (inStep : host.InStep related one other)
    (within : ∀ result result', related result result' → more result result') :
    host.InStep more one other :=
  fun world => ⟨within _ _ (inStep world).1, (inStep world).2⟩

theorem bind {after : γ → δ → Prop} {next : α → Dialogue γ} {next' : β → Dialogue δ}
    (inStep : host.InStep related one other)
    (later : ∀ result result', related result result' →
      host.InStep after (next result) (next' result')) :
    host.InStep after (one >>= next) (other >>= next') := by
  intro world
  obtain ⟨here, same⟩ := inStep world
  have first : host.run (one >>= next) world =
      host.run (next (host.run one world).1) (host.run one world).2 := Dialogue.run_bind ..
  have second : host.run (other >>= next') world =
      host.run (next' (host.run other world).1) (host.run other world).2 := Dialogue.run_bind ..
  rw [first, second, ← same]
  exact later _ _ here _

theorem lift_bind {after : Except Failure γ → Except Failure δ → Prop} {next : α → Chat γ}
    {next' : β → Chat δ} (inStep : host.InStep related one other)
    (later : ∀ result result', related result result' →
      host.InStep after (Chat.attempt (next result)) (Chat.attempt (next' result'))) :
    host.InStep after (Chat.attempt (liftM one >>= next))
      (Chat.attempt (liftM other >>= next')) := by
  rw [Chat.attempt_lift_bind, Chat.attempt_lift_bind]
  exact inStep.bind later

end Host.InStep

namespace Scripting

variable {host : Host} {pick : Picker} {settings : Settings} {context : Context}

/-- **What a pick leaves behind does not depend on the names**, as when names are picked
without asking anything, or by chance. -/
def Picker.Steady (host : Host) (pick : Picker) : Prop :=
  ∀ names others, host.InStep (fun _ _ => True) (pick names) (pick others)

/-- Picks by chance ask for one source of random numbers, whatever the names. -/
theorem steady_pick (host : Host) : Picker.Steady host RandomPick.pick :=
  fun _ _ => (Host.InStep.refl _).bind fun _ _ _ => .pure trivial

theorem inStep_pickValueBy (steady : Picker.Steady host pick) (names others : List String) :
    host.InStep (fun one other => names = others → one = other) (pickValueBy pick names)
      (pickValueBy pick others) := by
  by_cases same : names = others
  · subst same
    exact (Host.InStep.refl _).mono fun _ _ same _ => same
  · refine (steady names others).bind fun found found' _ => ?_
    cases found <;> cases found' <;> exact .pure fun own => absurd own same

/-- **The picks from the same users differ in those online only.** -/
theorem inStep_picksBy (steady : Picker.Steady host pick)
    (users others online online' : List User) :
    host.InStep (fun one other => users = others → Script.Value.DifferAt "online" one other)
      (picksBy pick settings users online) (picksBy pick settings others online') := by
  have each := inStep_pickValueBy steady
  refine (each _ _).bind fun _ _ _ => (each _ _).bind fun _ _ _ => (each _ _).bind fun _ _ _ => ?_
  refine (each _ _).bind fun viewer viewer' sameViewer => ?_
  refine (each _ _).bind fun follower follower' sameFollower => ?_
  refine (each _ _).bind fun subscriber subscriber' sameSubscriber => .pure ?_
  rintro rfl
  obtain rfl := sameViewer rfl
  obtain rfl := sameFollower rfl
  obtain rfl := sameSubscriber rfl
  refine .map fun other beside => ?_
  simp [Table.lookup_pair, beside]

/-- When nobody online may be picked, it does not matter who is. -/
theorem picksBy_eq_of_none_eligible {users online online' : List User}
    (none_ : ∀ user ∈ online, settings.isExcluded user.name = true)
    (none' : ∀ user ∈ online', settings.isExcluded user.name = true) :
    picksBy pick settings users online = picksBy pick settings users online' := by
  have nobody : ∀ {online : List User} (p : User → Bool),
      (∀ user ∈ online, settings.isExcluded user.name = true) →
        RandomPick.eligible settings (online.filter p) = [] := by
    intro online p none_
    refine List.filter_eq_nil_iff.2 fun name member => ?_
    obtain ⟨user, within, rfl⟩ := List.mem_map.1 member
    simp [none_ user (List.mem_of_mem_filter within)]
  have all : ∀ online : List User, online = online.filter fun _ => true := by simp
  unfold picksBy
  dsimp only
  rw [nobody _ none_, nobody _ none_, nobody _ none', nobody _ none', all online, all online',
    nobody _ none_, nobody _ none']

/-! ## What a script comes to -/

/-- A script comes to the same with picks that it does not tell apart. -/
theorem inStep_conclude {prepared : Prepared} {users others online online' : List User}
    {sender : User} {related : Script.Value → Script.Value → Prop}
    (inStep : host.InStep related (picksBy pick settings users online)
      (picksBy pick settings others online'))
    (same : ∀ random random', related random random' → ∀ dice,
      Script.script prepared.source (bindings settings context prepared users sender random) dice =
        Script.script prepared.source (bindings settings context prepared others sender random')
          dice) :
    host.InStep Eq (Chat.attempt (conclude pick settings context prepared users sender online))
      (Chat.attempt (conclude pick settings context prepared others sender online')) := by
  unfold conclude
  refine inStep.lift_bind fun random random' alike => ?_
  refine (Host.InStep.refl _).lift_bind fun dice dice' sameDice => ?_
  subst sameDice
  rw [same random random' alike dice]
  exact .refl _

/-! ## What a script cannot name -/

/-- A script that speaks of something contains the word. -/
theorem contains_of_standsIn {word text : List Char} {pointed : Bool}
    (stands : Text.StandsIn word pointed text) : Text.contains word text = true := by
  obtain ⟨before, after, rfl, -⟩ := stands
  exact Text.contains_of_infix ⟨before, after, rfl⟩

theorem needsUsers_of_standsIn {source : List Char} {name : String}
    (either : name ∈ ["users", "random"])
    (stands : Text.StandsIn name.toList false source) : needsUsers source = true := by
  rcases List.mem_pair.1 either with rfl | rfl
  · exact Bool.or_eq_true_iff.2 (.inl (contains_of_standsIn stands))
  · exact Bool.or_eq_true_iff.2 (.inr (contains_withoutRandomFunctions stands))

theorem apart_of_mem {name : String} (either : name ∈ ["users", "random"]) :
    ApartFromPages name.toList := by
  rcases List.mem_pair.1 either with rfl | rfl
  · exact apart_users
  · exact apart_random

/-- **Who speaks neither of users nor of random picks has no name for them.** -/
theorem agrees_unspoken {source prepared : List Char} (within : SpeaksWithin source prepared)
    (unspoken : needsUsers source = false) {program : List Script.Stmt}
    (parsed : Script.parseProgram (Script.lex prepared) = .ok program) :
    ∀ use ∈ Script.usesAnywhere program, use.Agrees (.besides ["users", "random"]) := by
  intro use read
  have bare : ∀ name, Script.Token.StandsIn prepared false (.name name) →
      name ∉ ["users", "random"] := by
    intro name stands either
    have spoken := needsUsers_of_standsIn either (within _ _ (apart_of_mem either) stands)
    rw [unspoken] at spoken
    nomatch spoken
  refine Script.Use.agrees_besides ?_
  have named := Script.uses_of_source parsed use read
  cases use with
  | whole name => exact bare name named
  | part name access =>
      cases access with
      | member key => exact bare name named.1
      | index key => exact bare name named
  | constant space key =>
      have pointed : ∀ name : String, '.' ∉ name.toList → space ++ "." ++ key ≠ name :=
        fun _ => Script.constant_ne
      have users := pointed "users" (by decide)
      have random := pointed "random" (by decide)
      simp [Script.Use.name, users, random]

/-- **Who does not speak of `online` and takes `random` apart** has no name for the picks
among the users online. -/
theorem agrees_offline {source prepared : List Char} (within : SpeaksWithin source prepared)
    (unspoken : needsOnline source = false)
    (apart : Script.TakesApart "random" "online" prepared) {program : List Script.Stmt}
    (parsed : Script.parseProgram (Script.lex prepared) = .ok program) :
    ∀ use ∈ Script.usesAnywhere program, use.Agrees (.differAt "random" "online") := by
  intro use read
  refine Script.Use.agrees_differAt (by decide) (apart program parsed use read) ?_
  rintro rfl
  obtain ⟨-, key⟩ := Script.uses_of_source parsed _ read
  have spoken := contains_of_standsIn (within _ _ apart_online key)
  rw [needsOnline] at unspoken
  rw [unspoken] at spoken
  nomatch spoken

/-! ## What is looked up -/

theorem run_lookUp {users : Dialogue (Except Failure (List User))} {world : World}
    {found : List User} (answered : host.run users world = (.ok found, world)) (wanted : Bool) :
    host.run (Chat.attempt (lookUp wanted users)) world =
      (.ok (if wanted then found else []), world) := by
  cases wanted with
  | true => exact answered
  | false => rfl

/-- Fetching pages does not change the users, nor what the script speaks of. -/
theorem prepared_within {source : List Char} {prepared : Prepared} {world now : World}
    (done : host.run (Chat.attempt (prepare source)) world = (.ok prepared, now)) :
    SpeaksWithin source prepared.source ∧ now.users = world.users := by
  have keeps := speaksWithin_prepare source
  have within : Gives (fun prepared => SpeaksWithin source prepared.source)
      (host.run (Chat.attempt (prepare source)) world).1 := (keeps.run fun _ _ => trivial).2
  have kept : (host.run (Chat.attempt (prepare source)) world).2.users = world.users := by
    have step : ∀ query (later : World), Prepares query → later.users = world.users →
        (host.answer query later).2.users = world.users := by
      intro query later asked same
      refine (host.users_answer ?_ later).trans same
      rintro id name rfl
      exact asked
    exact keeps.run_preserves (fun later : World => later.users = world.users) step rfl
  rw [done] at kept
  exact ⟨within prepared (congrArg Prod.fst done), kept⟩

/-- Nobody is online who was not, when the sender joins. -/
theorem online_before_senderRecord {sender : Sender} {user : User} {world : World}
    (member : user ∈ (host.run (Chat.attempt (senderRecord sender)) world).2.users)
    (online : user.online = true) : user ∈ world.users := by
  rcases letsJoin_senderRecord sender host world with same | ⟨-, joined⟩
  · exact same ▸ member
  · rw [joined] at member
    rcases List.mem_append.1 member with before | new
    · exact before
    · rw [List.mem_singleton.1 new] at online
      nomatch online

/-- **Only what comes after the pages and the sender differs**, with other users looked up. -/
theorem run_resolveBy_congr (up : Collaborator.users ∉ host.down) {one other : Provision}
    {token : List Char} {world : World}
    (same : ∀ prepared sender now later,
      host.run (Chat.attempt (prepare (sourceOf token))) world = (.ok prepared, now) →
      host.run (Chat.attempt (senderRecord context.sender)) now = (.ok sender, later) →
      host.InStep Eq
        (Chat.attempt (conclude pick settings context prepared
          (if one.users (sourceOf token) then now.users else []) sender
          (if one.online (sourceOf token) then later.users.filter onlineUsers.accepts else [])))
        (Chat.attempt (conclude pick settings context prepared
          (if other.users (sourceOf token) then now.users else []) sender
          (if other.online (sourceOf token) then later.users.filter onlineUsers.accepts
            else [])))) :
    host.run (Chat.attempt (resolveBy pick one settings context token)) world =
      host.run (Chat.attempt (resolveBy pick other settings context token)) world := by
  have all : ∀ world, host.run (Query.put .allUsers) world = (.ok world.users, world) :=
    fun world => Host.answer_of_responsible rfl up world
  have some_ : ∀ world, host.run (Query.put (.usersWhere onlineUsers)) world =
      (.ok (world.users.filter onlineUsers.accepts), world) :=
    fun world => Host.answer_of_responsible rfl up world
  refine Chat.run_bind_congr fun prepared now madeReady => ?_
  refine (Chat.run_bind_of_ok (run_lookUp (all now) _)).trans ?_
  refine Eq.trans ?_ (Chat.run_bind_of_ok (run_lookUp (all now) _)).symm
  refine Chat.run_bind_congr fun sender later known => ?_
  refine (Chat.run_bind_of_ok (run_lookUp (some_ later) _)).trans ?_
  refine Eq.trans ?_ (Chat.run_bind_of_ok (run_lookUp (some_ later) _)).symm
  obtain ⟨result, world⟩ := same prepared sender now later madeReady known later
  exact Prod.ext result world

/-- What two scripts see that differ in the users and the picks. -/
theorem alike_bindings {likeness : Script.Likeness} {prepared : Prepared}
    {users others : List User} {sender : User} {random random' : Script.Value}
    (ofUsers : likeness.related "users" (some (.list (users.map User.toValue)))
      (some (.list (others.map User.toValue))))
    (ofRandom : likeness.related "random" (some random) (some random')) :
    List.Forall₂ (fun binding binding' => binding.1 = binding'.1 ∧
      likeness.related binding.1 (some binding.2) (some binding'.2))
      (bindings settings context prepared users sender random)
      (bindings settings context prepared others sender random') := by
  have own : ∀ binding : String × Script.Value, binding.1 = binding.1 ∧
      likeness.related binding.1 (some binding.2) (some binding.2) :=
    fun _ => ⟨rfl, likeness.refl _ _⟩
  refine List.rel_append (List.forall₂_same.2 fun binding _ => own binding) ?_
  refine .cons ⟨rfl, ofUsers⟩ (.cons (own _) (.cons ⟨rfl, ofRandom⟩ ?_))
  exact .cons (own _) (.cons (own _) .nil)

/-- A script that speaks of no users comes to the same with any. -/
theorem inStep_of_unspoken (steady : Picker.Steady host pick) {source : List Char}
    {prepared : Prepared} (within : SpeaksWithin source prepared.source)
    (unspoken : needsUsers source = false) (users others : List User) (sender : User)
    (online online' : List User) :
    host.InStep Eq (Chat.attempt (conclude pick settings context prepared users sender online))
      (Chat.attempt (conclude pick settings context prepared others sender online')) := by
  have picks : host.InStep (fun _ _ => True) (picksBy pick settings users online)
      (picksBy pick settings others online') :=
    (inStep_picksBy steady users others online online').mono fun _ _ _ => trivial
  refine inStep_conclude picks fun random random' _ dice => ?_
  refine Script.script_congr (.besides ["users", "random"]) ?_
    (fun program parsed => agrees_unspoken within unspoken parsed) dice
  exact alike_bindings (fun other => absurd List.mem_cons_self other)
    fun other => absurd (List.mem_cons_of_mem _ List.mem_cons_self) other

/-- A script that does not speak of users online, and takes `random` apart, comes to the same
with any. -/
theorem inStep_of_apart (steady : Picker.Steady host pick) {source : List Char}
    {prepared : Prepared} (within : SpeaksWithin source prepared.source)
    (unspoken : needsOnline source = false)
    (apart : Script.TakesApart "random" "online" prepared.source) (users : List User)
    (sender : User) (online online' : List User) :
    host.InStep Eq (Chat.attempt (conclude pick settings context prepared users sender online))
      (Chat.attempt (conclude pick settings context prepared users sender online')) := by
  refine inStep_conclude (inStep_picksBy steady users users online online') fun random random' differ dice => ?_
  refine Script.script_congr (.differAt "random" "online") ?_
    (fun program parsed => agrees_offline within unspoken apart parsed) dice
  exact alike_bindings (.inl rfl) (.inr ⟨rfl, _, _, rfl, rfl, differ rfl⟩)

/-- When nobody online may be picked, it does not matter whether they are looked up. -/
theorem conclude_of_none_eligible {prepared : Prepared} {users online : List User} {sender : User}
    (nobody : ∀ user ∈ online, settings.isExcluded user.name = true) :
    conclude pick settings context prepared users sender [] =
      conclude pick settings context prepared users sender online := by
  unfold conclude
  rw [picksBy_eq_of_none_eligible (List.forall_mem_nil _) nobody]

/-- **What is looked up cannot be told from what a script gives**, when the script speaks of
`online`, nobody online may be picked, or the script takes `random` apart. -/
theorem resolve_loads_enough (up : Collaborator.users ∉ host.down)
    (steady : Picker.Steady host pick) (token : List Char) (world : World)
    (enough : needsUsers (sourceOf token) = false ∨ needsOnline (sourceOf token) = true ∨
      (∀ user ∈ world.users, user.online = true → settings.isExcluded user.name = true) ∨
      ∀ prepared, (host.run (Chat.attempt (prepare (sourceOf token))) world).1 = .ok prepared →
        Script.TakesApart "random" "online" prepared.source) :
    host.run (Chat.attempt (resolveBy pick .asSpoken settings context token)) world =
      host.run (Chat.attempt (resolveBy pick .always settings context token)) world := by
  refine run_resolveBy_congr up fun prepared sender now later madeReady known => ?_
  obtain ⟨within, kept⟩ := prepared_within madeReady
  have all : Provision.always.users (sourceOf token) = true := rfl
  have present : Provision.always.online (sourceOf token) = true := rfl
  rw [if_pos all, if_pos present]
  by_cases spoken : Provision.asSpoken.users (sourceOf token) = true
  · rw [if_pos spoken]
    by_cases asked : Provision.asSpoken.online (sourceOf token) = true
    · rw [if_pos asked]
      exact .refl _
    · rw [if_neg asked]
      rcases enough with unspoken | spokenOf | nobody | apart
      · exact absurd spoken (Bool.eq_false_iff.1 unspoken)
      · exact absurd spokenOf asked
      · rw [conclude_of_none_eligible]
        · exact .refl _
        · intro user member
          obtain ⟨there, accepted⟩ := List.mem_filter.1 member
          have online : user.online = true := by
            simpa [onlineUsers, UserFilter.accepts, UserFilter.allows] using accepted
          have afterwards : user ∈
              (host.run (Chat.attempt (senderRecord context.sender)) now).2.users := by
            rwa [known]
          exact nobody user (kept ▸ online_before_senderRecord afterwards online) online
      · have unspoken := Bool.eq_false_iff.2 asked
        exact inStep_of_apart steady within unspoken (apart prepared (congrArg Prod.fst madeReady))
          _ sender _ _
  · exact inStep_of_unspoken steady within (Bool.eq_false_iff.2 spoken) _ _ sender _ _

/-- A channel with `ann` in it. -/
def annOnline : World where
  users := [{ id := "1", name := "ann", online := true }]

theorem random_viewer_is_enough :
    let host : Host := { sources := fun _ => { rolls := fun _ => 0 } }
    let token := "(eval return random.viewer)".toList
    Collaborator.users ∉ host.down ∧ Picker.Steady host RandomPick.pick ∧
      (∀ prepared, (host.run (Chat.attempt (prepare (sourceOf token))) annOnline).1 = .ok prepared →
        Script.TakesApart "random" "online" prepared.source) ∧
      (host.run (Chat.attempt (resolveBy RandomPick.pick .asSpoken {} {} token))
        annOnline).1.toOption = some "ann".toList ∧
      host.run (Chat.attempt (resolveBy RandomPick.pick .asSpoken {} {} token)) annOnline =
        host.run (Chat.attempt (resolveBy RandomPick.pick .always {} {} token)) annOnline := by
  intro host token
  have up : Collaborator.users ∉ host.down := by decide
  have steady := steady_pick host
  have apart : ∀ prepared,
      (host.run (Chat.attempt (prepare (sourceOf token))) annOnline).1 = .ok prepared →
        Script.TakesApart "random" "online" prepared.source := by
    intro prepared done
    have noPages : urlPattern.findAll (sourceOf token) = [] := by decide +kernel
    rw [prepare, noPages] at done
    rw [← Except.ok.inj done]
    decide +kernel
  exact ⟨up, steady, apart, by decide +kernel,
    resolve_loads_enough up steady token annOnline (.inr (.inr (.inr apart)))⟩

/-- **A key that is put together is not seen** by what is looked up: the script below reads
`random.online` without speaking of `online`. -/
theorem computed_key_is_seen :
    let host : Host := { sources := fun _ => { rolls := fun _ => 0 } }
    let first : Picker := fun names => pure names.head?
    let token := "(eval return random[\"onl\" + \"ine\"].viewer)".toList
    Picker.Steady host first ∧
      (host.run (Chat.attempt (resolveBy first .asSpoken {} {} token)) annOnline).1.toOption =
        some [] ∧
      (host.run (Chat.attempt (resolveBy first .always {} {} token)) annOnline).1.toOption =
        some "ann".toList :=
  ⟨fun _ _ => .pure trivial, by decide +kernel, by decide +kernel⟩

end Scripting

end ChatTemplate
