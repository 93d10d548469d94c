/-
# ChatTemplate.Proofs.OptionGroups -- options as they are given

Options stand in groups, each with a hyphen in front of its letters (`Group`): switches, and behind
them possibly an option whose value is the next argument, or the option of the world file with the
path attached to it.  The value may be any text, also one that looks like an option or like the end
of the options.

Reading a group does to an invocation what the group says (`readFrom_group`), whatever has been read
before, as long as another group or the end of the options follows: an option of the world file that
has no path attached would take a word behind it for one.  So a run of groups is read as the
composition of what they say (`readFrom_groups`), and of what they say there remains: every switch,
and the last value of every option (`Invocation.isOn_applyAll` and those after it).

Main statement: `requests_are_expressible`.
-/
import ChatTemplate.CommandLine

namespace ChatTemplate.CommandLine

set_option autoImplicit false

/-! ## Options by their names -/

/-- The options without a value. -/
inductive Switch where
  | quiet
  | placeholdersOnly
  | overlay
  | live
  | debug
  | help
  deriving DecidableEq

/-- The options with a value. -/
inductive Valued where
  | sender
  | userId
  | argument
  | command
  | escape
  deriving DecidableEq

def Switch.letter : Switch → Char
  | quiet => 'q'
  | placeholdersOnly => 'g'
  | overlay => 'o'
  | live => 'r'
  | debug => 'd'
  | help => 'h'

def Valued.letter : Valued → Char
  | sender => 's'
  | userId => 'u'
  | argument => 'p'
  | command => 'c'
  | escape => 'e'

namespace Invocation

def isOn (invocation : Invocation) : Switch → Bool
  | .quiet => invocation.quiet
  | .placeholdersOnly => invocation.placeholdersOnly
  | .overlay => invocation.overlay
  | .live => invocation.live
  | .debug => invocation.debug
  | .help => invocation.help

def turnOn (invocation : Invocation) : Switch → Invocation
  | .quiet => { invocation with quiet := true }
  | .placeholdersOnly => { invocation with placeholdersOnly := true }
  | .overlay => { invocation with overlay := true }
  | .live => { invocation with live := true }
  | .debug => { invocation with debug := true }
  | .help => { invocation with help := true }

def value? (invocation : Invocation) : Valued → Option String
  | .sender => invocation.sender
  | .userId => invocation.userId
  | .argument => invocation.argument
  | .command => invocation.command
  | .escape => invocation.escape

def put (invocation : Invocation) (value : String) : Valued → Invocation
  | .sender => { invocation with sender := some value }
  | .userId => { invocation with userId := some value }
  | .argument => { invocation with argument := some value }
  | .command => { invocation with command := some value }
  | .escape => { invocation with escape := some value }

variable (invocation : Invocation) (switch other : Switch) (option wanted : Valued)
  (value : String)

/-- An invocation is its switches, its values, its world and its words. -/
theorem eq_of_same {a b : Invocation} (switches : ∀ switch, a.isOn switch = b.isOn switch)
    (values : ∀ option, a.value? option = b.value? option) (world : a.world = b.world)
    (words : a.words = b.words) : a = b := by
  obtain ⟨_, _, _, _, _, _, _, _, _, _, _, _, _⟩ := a
  obtain ⟨_, _, _, _, _, _, _, _, _, _, _, _, _⟩ := b
  obtain rfl := world
  obtain rfl := words
  obtain rfl := switches .quiet
  obtain rfl := switches .placeholdersOnly
  obtain rfl := switches .overlay
  obtain rfl := switches .live
  obtain rfl := switches .debug
  obtain rfl := switches .help
  obtain rfl := values .sender
  obtain rfl := values .userId
  obtain rfl := values .argument
  obtain rfl := values .command
  obtain rfl := values .escape
  rfl

@[simp] theorem isOn_turnOn :
    (invocation.turnOn switch).isOn other = (invocation.isOn other || decide (other = switch)) := by
  cases switch <;> cases other <;> simp [turnOn, isOn]

@[simp] theorem value?_turnOn :
    (invocation.turnOn switch).value? option = invocation.value? option := by
  cases switch <;> rfl

@[simp] theorem world_turnOn : (invocation.turnOn switch).world = invocation.world := by
  cases switch <;> rfl

@[simp] theorem words_turnOn : (invocation.turnOn switch).words = invocation.words := by
  cases switch <;> rfl

@[simp] theorem isOn_put : (invocation.put value option).isOn switch = invocation.isOn switch := by
  cases option <;> rfl

@[simp] theorem value?_put :
    (invocation.put value option).value? wanted =
      if option = wanted then some value else invocation.value? wanted := by
  cases option <;> cases wanted <;> rfl

@[simp] theorem world_put : (invocation.put value option).world = invocation.world := by
  cases option <;> rfl

@[simp] theorem words_put : (invocation.put value option).words = invocation.words := by
  cases option <;> rfl

end Invocation

theorem switch?_letter (switch : Switch) (invocation : Invocation) :
    switch? switch.letter invocation = some (invocation.turnOn switch) := by
  cases switch <;> rfl

theorem valued?_letter (option : Valued) (value : String) (invocation : Invocation) :
    switch? option.letter invocation = none ∧
      valued? option.letter value invocation = some (invocation.put value option) := by
  cases option <;> exact ⟨rfl, rfl⟩

/-! ## Groups -/

/-- The world of the path behind the option: none without a path. -/
def WorldChoice.ofPath (path : String) : WorldChoice :=
  if path = "" then skip else file path

/-- Options behind one hyphen. -/
inductive Group where
  | switches (first : Switch) (others : List Switch)
  /-- Switches, then an option whose value is the next argument. -/
  | valued (before : List Switch) (option : Valued) (value : String)
  /-- Switches, then the option of the world file with a path, which may be empty. -/
  | world (before : List Switch) (path : String)

namespace Group

/-- The switches of a group. -/
def given : Group → List Switch
  | switches first others => first :: others
  | valued before _ _ => before
  | world before _ => before

/-- The value that a group has for an option. -/
def value? (option : Valued) : Group → Option String
  | valued _ other value => if other = option then some value else none
  | _ => none

/-- The world that a group asks for. -/
def world? : Group → Option WorldChoice
  | world _ path => some (.ofPath path)
  | _ => none

/-- The letters behind the hyphen, with the path of a world file. -/
def letters : Group → List Char
  | switches first others => (first :: others).map Switch.letter
  | valued before option _ => before.map Switch.letter ++ [option.letter]
  | world before path => before.map Switch.letter ++ 'f' :: path.toList

/-- The argument behind the letters, if they need one. -/
def operands : Group → List String
  | valued _ _ value => [value]
  | _ => []

/-- **The arguments of a group.** -/
def arguments (group : Group) : List String :=
  String.ofList ('-' :: group.letters) :: group.operands

/-- What a group does to an invocation. -/
def apply (group : Group) (invocation : Invocation) : Invocation :=
  let switched := group.given.foldl Invocation.turnOn invocation
  match group with
  | switches _ _ => switched
  | valued _ option value => switched.put value option
  | world _ path => { switched with world := .ofPath path }

end Group

/-! ## What a group changes -/

/-- What every step leaves as it is, a whole fold leaves as it is. -/
theorem foldl_keeps {α σ τ : Type} {step : σ → α → σ} (see : σ → τ)
    (keeps : ∀ state a, see (step state a) = see state) (list : List α) (state : σ) :
    see (list.foldl step state) = see state := by
  induction list generalizing state with
  | nil => rfl
  | cons a list ih => rw [List.foldl_cons, ih, keeps]

/-- Where every step shows what it has found, or else what was there, a whole fold shows the last
that was found. -/
theorem foldl_shows_last {α σ τ : Type} {step : σ → α → σ} (see : σ → Option τ)
    (found : α → Option τ) (shows : ∀ state a, see (step state a) = (found a).or (see state))
    (list : List α) (state : σ) :
    see (list.foldl step state) = (list.filterMap found).getLast?.or (see state) := by
  induction list generalizing state with
  | nil => rfl
  | cons a list ih =>
      rw [List.foldl_cons, ih, shows, List.filterMap_cons]
      cases found a with
      | none => rfl
      | some last =>
          rw [List.getLast?_cons]
          cases (list.filterMap found).getLast? <;> rfl

section Changes

variable (invocation : Invocation) (group : Group) (switch : Switch) (option : Valued)

theorem isOn_foldl_turnOn (switches : List Switch) :
    (switches.foldl Invocation.turnOn invocation).isOn switch =
      (invocation.isOn switch || decide (switch ∈ switches)) := by
  induction switches generalizing invocation with
  | nil => simp
  | cons first others ih => simp [ih, Bool.or_assoc]

theorem value?_foldl_turnOn (switches : List Switch) :
    (switches.foldl Invocation.turnOn invocation).value? option = invocation.value? option :=
  foldl_keeps (·.value? option) (fun invocation switch => invocation.value?_turnOn switch option)
    switches invocation

theorem world_foldl_turnOn (switches : List Switch) :
    (switches.foldl Invocation.turnOn invocation).world = invocation.world :=
  foldl_keeps Invocation.world Invocation.world_turnOn switches invocation

theorem words_foldl_turnOn (switches : List Switch) :
    (switches.foldl Invocation.turnOn invocation).words = invocation.words :=
  foldl_keeps Invocation.words Invocation.words_turnOn switches invocation

theorem Group.isOn_apply :
    (group.apply invocation).isOn switch =
      (invocation.isOn switch || decide (switch ∈ group.given)) := by
  rw [← isOn_foldl_turnOn]
  cases group with
  | switches => rfl
  | valued => exact Invocation.isOn_put ..
  | world => cases switch <;> rfl

theorem Group.value?_apply :
    (group.apply invocation).value? option =
      (group.value? option).or (invocation.value? option) := by
  rw [← value?_foldl_turnOn invocation option group.given]
  cases group with
  | switches => rfl
  | valued before other value =>
      rw [Group.apply, Group.value?, Invocation.value?_put]
      split <;> rfl
  | world => cases option <;> rfl

theorem Group.world_apply :
    some (group.apply invocation).world = group.world?.or (some invocation.world) := by
  rw [← world_foldl_turnOn invocation group.given]
  cases group with
  | switches => rfl
  | valued => exact congrArg some (Invocation.world_put ..)
  | world => rfl

theorem Group.words_apply : (group.apply invocation).words = invocation.words := by
  rw [← words_foldl_turnOn invocation group.given]
  cases group with
  | switches => rfl
  | valued => exact Invocation.words_put ..
  | world => rfl

end Changes

/-! ## What groups change, one after the other -/

namespace Invocation

/-- What groups do to an invocation. -/
def applyAll (invocation : Invocation) (groups : List Group) : Invocation :=
  groups.foldl (fun invocation group => group.apply invocation) invocation

theorem applyAll_cons (invocation : Invocation) (group : Group) (groups : List Group) :
    invocation.applyAll (group :: groups) = (group.apply invocation).applyAll groups :=
  rfl

variable (invocation : Invocation) (groups : List Group)

/-- A switch stays on. -/
theorem isOn_applyAll (switch : Switch) :
    (invocation.applyAll groups).isOn switch = true ↔
      invocation.isOn switch = true ∨ ∃ group ∈ groups, switch ∈ group.given := by
  induction groups generalizing invocation with
  | nil => simp [applyAll]
  | cons group groups ih =>
      rw [applyAll_cons, ih, Group.isOn_apply, Bool.or_eq_true, decide_eq_true_iff, or_assoc]
      simp

/-- The last value of an option counts. -/
theorem value?_applyAll (option : Valued) :
    (invocation.applyAll groups).value? option =
      (groups.filterMap (Group.value? option)).getLast?.or (invocation.value? option) :=
  foldl_shows_last (·.value? option) (Group.value? option)
    (fun invocation group => group.value?_apply invocation option) groups invocation

/-- The last world counts. -/
theorem world_applyAll :
    some (invocation.applyAll groups).world =
      (groups.filterMap Group.world?).getLast?.or (some invocation.world) :=
  foldl_shows_last (some ·.world) Group.world? (fun invocation group => group.world_apply invocation)
    groups invocation

theorem words_applyAll : (invocation.applyAll groups).words = invocation.words :=
  foldl_keeps Invocation.words (fun invocation group => group.words_apply invocation) groups
    invocation

end Invocation

/-! ## Reading -/

section Reading

variable {next : Option String}

theorem readLetters_switch (switch : Switch) (letters : List Char) (invocation : Invocation) :
    readLetters next (switch.letter :: letters) invocation =
      readLetters next letters (invocation.turnOn switch) := by
  have other : switch.letter ≠ 'f' := by cases switch <;> decide
  rw [readLetters, switch?_letter]
  · exact fun same _ => other same
  · exact other

theorem readLetters_switches (switches : List Switch) (letters : List Char)
    (invocation : Invocation) :
    readLetters next (switches.map Switch.letter ++ letters) invocation =
      readLetters next letters (switches.foldl Invocation.turnOn invocation) := by
  induction switches generalizing invocation with
  | nil => rfl
  | cons first others ih => rw [List.map_cons, List.cons_append, readLetters_switch, ih]; rfl

theorem readLetters_valued (option : Valued) (value : String) (invocation : Invocation) :
    readLetters (some value) [option.letter] invocation =
      .ok (invocation.put value option, true) := by
  have other : option.letter ≠ 'f' := by cases option <;> decide
  -- The letters behind the option come first as its value; here there are none.
  rw [readLetters, (valued?_letter option value invocation).1]
  · simp [(valued?_letter option _ invocation).2]
  · exact fun same _ => other same
  · exact other

/-- The path of a world file is taken from the next argument only if that is a word. -/
theorem readLetters_world (path : String) (invocation : Invocation)
    (behind : ∀ argument ∈ next, isHyphened argument = true) :
    readLetters next ('f' :: path.toList) invocation =
      .ok ({ invocation with world := .ofPath path }, false) := by
  rw [WorldChoice.ofPath]
  by_cases empty : path = ""
  · subst empty
    have apart : (next.filter fun path => !isHyphened path) = none := by
      cases next with
      | none => rfl
      | some argument => simp [behind argument rfl]
    simp [readLetters, apart]
  · have some_ : path.toList ≠ [] := by simpa using empty
    rw [if_neg empty, readLetters, String.ofList_toList]
    exact some_

/-- **The letters of a group do what the group says.** -/
theorem readLetters_group (group : Group) (invocation : Invocation) {rest : List String}
    (behind : ∀ argument ∈ rest.head?, isHyphened argument = true) :
    readLetters (group.operands ++ rest).head? group.letters invocation =
      .ok (group.apply invocation, !group.operands.isEmpty) := by
  cases group with
  | switches first others =>
      rw [Group.letters, ← List.append_nil (List.map _ _), readLetters_switches]
      rfl
  | valued before option value =>
      rw [Group.letters, readLetters_switches]
      exact readLetters_valued option value _
  | world before path =>
      rw [Group.letters, readLetters_switches]
      exact readLetters_world path _ behind

end Reading

/-- The first letter tells a group from the end of the options. -/
theorem Group.exists_letters (group : Group) :
    ∃ c letters, group.letters = c :: letters ∧ c ≠ '-' := by
  have switch_ : ∀ switch : Switch, switch.letter ≠ '-' := by intro switch; cases switch <;> decide
  have valued_ : ∀ option : Valued, option.letter ≠ '-' := by intro option; cases option <;> decide
  cases group with
  | switches first others => exact ⟨_, _, rfl, switch_ first⟩
  | valued before option value =>
      cases before with
      | nil => exact ⟨_, _, rfl, valued_ option⟩
      | cons first others => exact ⟨_, _, rfl, switch_ first⟩
  | world before path =>
      cases before with
      | nil => exact ⟨_, _, rfl, by decide⟩
      | cons first others => exact ⟨_, _, rfl, switch_ first⟩

/-- **Reading a group does to the invocation what the group says**, with no word behind it. -/
theorem readFrom_group (group : Group) (invocation : Invocation) {rest : List String}
    (behind : ∀ argument ∈ rest.head?, isHyphened argument = true) :
    readFrom invocation false (group.arguments ++ rest) =
      readFrom (group.apply invocation) false rest := by
  obtain ⟨c, letters, spelled, apart⟩ := group.exists_letters
  have read := readLetters_group group invocation behind
  rw [spelled] at read
  have other : String.ofList ('-' :: c :: letters) ≠ "--" := by
    intro same
    have first := congrArg String.toList same
    rw [String.toList_ofList] at first
    exact apart (List.cons.inj (List.cons.inj first).2).1
  rw [Group.arguments, spelled, List.cons_append, readFrom, if_neg other, String.toList_ofList]
  simp only [read]
  cases group with
  | switches => rfl
  | valued before option value =>
      -- The value is passed over, whatever it looks like.
      rw [Group.operands, List.singleton_append, List.isEmpty_cons, Bool.not_false, readFrom]
  | world => rfl

/-- What follows a group is another group or the end of the options. -/
theorem isHyphened_head (groups : List Group) (words : List String) :
    ∀ argument ∈ (groups.flatMap Group.arguments ++ "--" :: words).head?,
      isHyphened argument = true := by
  cases groups with
  | nil => simp [isHyphened]
  | cons group groups => simp [Group.arguments, isHyphened]

/-- **Groups are read one after the other**, and what stands behind the end of the options are
words. -/
theorem readFrom_groups (groups : List Group) (words : List String) (invocation : Invocation) :
    readFrom invocation false (groups.flatMap Group.arguments ++ "--" :: words) =
      .ok ((invocation.applyAll groups).addWords words) := by
  induction groups generalizing invocation with
  | nil => rw [List.flatMap_nil, List.nil_append, readFrom, if_pos rfl]; rfl
  | cons group groups ih =>
      rw [List.flatMap_cons, List.append_assoc,
        readFrom_group group invocation (isHyphened_head groups words), ih,
        Invocation.applyAll_cons]

/-! ## Requests -/

/-- The world that has to be asked for: none when it is searched for anyway. -/
def WorldChoice.given : WorldChoice → List WorldChoice
  | search => []
  | skip => [skip]
  | file path => [file path]

/-- **Groups that ask for an invocation**, in whatever order and however the switches are
distributed over them. -/
structure Expresses (groups : List Group) (wanted : Invocation) : Prop where
  /-- The switches that are on are given somewhere, and no others. -/
  switches : ∀ switch, wanted.isOn switch = true ↔ ∃ group ∈ groups, switch ∈ group.given
  /-- Every value is given once. -/
  values : ∀ option, groups.filterMap (Group.value? option) = (wanted.value? option).toList
  /-- A world that is not searched for is given once. -/
  world : groups.filterMap Group.world? = wanted.world.given

theorem Expresses.applyAll {groups : List Group} {wanted : Invocation}
    (expresses : Expresses groups wanted) :
    (({} : Invocation).applyAll groups).addWords wanted.words = wanted := by
  refine Invocation.eq_of_same (fun switch => ?_) (fun option => ?_) ?_ ?_
  · have kept := Invocation.isOn_applyAll {} groups switch
    have off : ({} : Invocation).isOn switch = false := by cases switch <;> rfl
    rw [off, ← expresses.switches] at kept
    rw [Bool.eq_iff_iff]
    show (({} : Invocation).applyAll groups).isOn switch = true ↔ _
    simpa using kept
  · have last := Invocation.value?_applyAll {} groups option
    have none_ : ({} : Invocation).value? option = none := by cases option <;> rfl
    rw [expresses.values, none_, Option.or_none] at last
    show (({} : Invocation).applyAll groups).value? option = _
    rw [last]
    cases wanted.value? option <;> rfl
  · have last := Invocation.world_applyAll {} groups
    rw [expresses.world] at last
    refine Option.some.inj (last.trans ?_)
    cases wanted.world <;> rfl
  · show (({} : Invocation).applyAll groups).words ++ wanted.words = wanted.words
    rw [Invocation.words_applyAll]
    rfl

/-! ## One group for each option -/

def Switch.all : List Switch :=
  [.quiet, .placeholdersOnly, .overlay, .live, .debug, .help]

def Valued.all : List Valued :=
  [.sender, .userId, .argument, .command, .escape]

theorem Switch.mem_all (switch : Switch) : switch ∈ Switch.all := by
  cases switch <;> decide

theorem Valued.mem_all (option : Valued) : option ∈ Valued.all := by
  cases option <;> decide

theorem Valued.filterMap_all {α : Type} (option : Valued) (found : Option α) :
    Valued.all.filterMap (fun other => if other = option then found else none) = found.toList := by
  cases option <;> cases found <;> rfl

def WorldChoice.groups : WorldChoice → List Group
  | search => []
  | skip => [.world [] ""]
  | file path => [.world [] path]

namespace Invocation

variable (wanted : Invocation)

def switchGroups : List Group :=
  (Switch.all.filter wanted.isOn).map (Group.switches · [])

def valueGroups : List Group :=
  Valued.all.filterMap fun option => (wanted.value? option).map (Group.valued [] option)

/-- The options of an invocation, each in a group of its own. -/
def groups : List Group :=
  wanted.switchGroups ++ (wanted.valueGroups ++ wanted.world.groups)

variable {wanted}

theorem mem_switchGroups {group : Group} :
    group ∈ wanted.switchGroups ↔
      ∃ switch, wanted.isOn switch = true ∧ .switches switch [] = group := by
  simp [switchGroups, Switch.mem_all]

theorem mem_valueGroups {group : Group} :
    group ∈ wanted.valueGroups ↔
      ∃ option value, wanted.value? option = some value ∧ .valued [] option value = group := by
  simp [valueGroups, Valued.mem_all]

theorem mem_worldGroups {choice : WorldChoice} {group : Group} (member : group ∈ choice.groups) :
    ∃ path, .world [] path = group := by
  cases choice with
  | search => cases member
  | skip => exact ⟨_, (List.mem_singleton.mp member).symm⟩
  | file path => exact ⟨_, (List.mem_singleton.mp member).symm⟩

/-- One group each gives the switches that are on. -/
theorem given_groups (switch : Switch) :
    wanted.isOn switch = true ↔ ∃ group ∈ wanted.groups, switch ∈ group.given := by
  constructor
  · intro on
    exact ⟨.switches switch [], List.mem_append_left _ (mem_switchGroups.mpr ⟨switch, on, rfl⟩),
      List.mem_singleton_self _⟩
  · rintro ⟨group, member, given⟩
    rcases List.mem_append.mp member with switches | others
    · obtain ⟨other, on, rfl⟩ := mem_switchGroups.mp switches
      rwa [List.mem_singleton.mp given]
    · rcases List.mem_append.mp others with values | world
      · obtain ⟨option, value, -, rfl⟩ := mem_valueGroups.mp values
        cases given
      · obtain ⟨path, rfl⟩ := mem_worldGroups world
        cases given

/-- One group each has the values. -/
theorem value?_groups (option : Valued) :
    wanted.groups.filterMap (Group.value? option) = (wanted.value? option).toList := by
  have switches : wanted.switchGroups.filterMap (Group.value? option) = [] := by
    refine List.filterMap_eq_nil_iff.mpr fun group member => ?_
    obtain ⟨switch, -, rfl⟩ := mem_switchGroups.mp member
    rfl
  have world : wanted.world.groups.filterMap (Group.value? option) = [] := by
    refine List.filterMap_eq_nil_iff.mpr fun group member => ?_
    obtain ⟨path, rfl⟩ := mem_worldGroups member
    rfl
  have alone : ∀ other, ((wanted.value? other).map (Group.valued [] other)).bind
      (Group.value? option) = if other = option then wanted.value? option else none := by
    intro other
    by_cases same : other = option
    · subst same
      cases wanted.value? other <;> simp [Group.value?]
    · cases wanted.value? other <;> simp [Group.value?, same]
  have values : wanted.valueGroups.filterMap (Group.value? option) =
      (wanted.value? option).toList := by
    rw [valueGroups, List.filterMap_filterMap]
    simp only [alone]
    exact Valued.filterMap_all option _
  rw [groups, List.filterMap_append, List.filterMap_append, switches, values, world,
    List.nil_append, List.append_nil]

/-- One group, or none, asks for the world. -/
theorem world?_groups (named : wanted.world ≠ .file "") :
    wanted.groups.filterMap Group.world? = wanted.world.given := by
  have switches : wanted.switchGroups.filterMap Group.world? = [] := by
    refine List.filterMap_eq_nil_iff.mpr fun group member => ?_
    obtain ⟨switch, -, rfl⟩ := mem_switchGroups.mp member
    rfl
  have values : wanted.valueGroups.filterMap Group.world? = [] := by
    refine List.filterMap_eq_nil_iff.mpr fun group member => ?_
    obtain ⟨option, value, -, rfl⟩ := mem_valueGroups.mp member
    rfl
  rw [groups, List.filterMap_append, List.filterMap_append, switches, values, List.nil_append,
    List.nil_append]
  cases chosen : wanted.world with
  | search => rfl
  | skip => rfl
  | file path =>
      have some_ : path ≠ "" := fun empty => named (by rw [chosen, empty])
      simp [WorldChoice.groups, Group.world?, WorldChoice.ofPath, WorldChoice.given, some_]

end Invocation

/-- **Every invocation can be asked for**, unless it is for a file without a name. -/
theorem expresses_groups {wanted : Invocation} (named : wanted.world ≠ .file "") :
    Expresses wanted.groups wanted where
  switches := Invocation.given_groups
  values := Invocation.value?_groups
  world := Invocation.world?_groups named

/-- **Every request can be expressed**, and its options may be given in any order: what is read is
what was asked for, and the text is the words with a space between neighbours. -/
theorem requests_are_expressible {wanted : Invocation} (worded : wanted.words ≠ [])
    (named : wanted.world ≠ .file "") :
    (∃ groups, Expresses groups wanted) ∧
      (∀ groups, Expresses groups wanted →
        read (groups.flatMap Group.arguments ++ "--" :: wanted.words) = .ok wanted) ∧
      wanted.text.toList = [' '].intercalate (wanted.words.map String.toList) := by
  refine ⟨⟨_, expresses_groups named⟩, fun groups expresses => ?_, ?_⟩
  · have some_ : (wanted.words.isEmpty && !wanted.help) = false := by
      rw [List.isEmpty_eq_false_iff.mpr worded, Bool.false_and]
    rw [read, readFrom_groups, expresses.applyAll]
    simp [some_, bind, Except.bind, pure, Except.pure]
  · rw [Invocation.text, String.toList_intercalate]
    rfl

/-- A request whose values look like options and whose words do, too. -/
def awkwardRequest : Invocation :=
  { world := .skip, sender := some "--", argument := some "", quiet := true, overlay := true,
    words := ["-x", "--", "f"] }

theorem awkward_request_is_expressed :
    awkwardRequest.words ≠ [] ∧ awkwardRequest.world ≠ .file "" ∧
      read ["-qp", "", "-of", "-s", "--", "--", "-x", "--", "f"] = .ok awkwardRequest := by
  have worded : awkwardRequest.words ≠ [] := by decide
  have named : awkwardRequest.world ≠ .file "" := by decide
  have expresses : Expresses
      [.valued [.quiet] .argument "", .world [.overlay] "", .valued [] .sender "--"]
      awkwardRequest :=
    { switches := by intro switch; cases switch <;> decide
      values := by intro option; cases option <;> rfl
      world := rfl }
  exact ⟨worded, named, (requests_are_expressible worded named).2.1 _ expresses⟩

end ChatTemplate.CommandLine
