/-
# ChatTemplate.Proofs.NamedSources -- names in the places of calls

When a name is written where a source has a call `url("…")`, four tokens become one
(`NamedSource`).  The name can then stand where a call cannot: before an assignment operator, among
the parameters of a callback, and before an opening parenthesis.  In each of these places the
reader of the call comes to a token that no reader goes on with (`Stuck`), or to what it cannot
read at all.  Elsewhere both sources look the same to whoever looks ahead (`NamedSource.heads`).

Main statements: `NamedSource.heads`, `gives_conditional`.
-/
import ChatTemplate.Proofs.Dialects
import ChatTemplate.Proofs.PrintParse

namespace ChatTemplate.Script

set_option autoImplicit false

/-! ## Tokens that no reader goes on with -/

/-- The source goes on with a token that can follow nothing but a lone name. -/
def Stuck (tokens : List Token) : Prop :=
  (peek tokens).binding? .script = some 16

/-- The source goes on with such a token, or with one that ends an expression. -/
def Inert (tokens : List Token) : Prop :=
  ∀ binding ∈ (peek tokens).binding? .script, binding = 0 ∨ binding = 16

theorem Stuck.inert {tokens : List Token} (stuck : Stuck tokens) : Inert tokens := by
  intro binding found
  rw [Stuck] at stuck
  rw [stuck, Option.mem_some_iff] at found
  exact .inr found.symm

theorem Stuck.ne {s : Symbol} {tokens rest : List Token} (stuck : Stuck tokens)
    (other : (Token.sym s).binding? .script ≠ some 16) : tokens ≠ .sym s :: rest := by
  rintro rfl
  exact other stuck

/-- Any other token stops what is read behind a name. -/
theorem stuck_or_stops (tokens : List Token) : Stuck tokens ∨ Stops .script 16 tokens := by
  rw [Stuck, Stops]
  cases found : (peek tokens).binding? .script with
  | none => exact .inr nofun
  | some binding =>
      have most : binding ≤ 16 := by
        unfold Token.binding? at found
        split at found
        all_goals try (obtain rfl := Option.some.inj found; omega)
        · split at found
          · exact Nat.le_of_eq (Option.some.inj found).symm
          · obtain ⟨op, -, rfl⟩ := Option.map_eq_some_iff.1 found
            exact Nat.le_trans op.binding_le (by omega)
        · nomatch found
      by_cases same : binding = 16
      · exact .inl (congrArg some same)
      · refine .inr fun other member => ?_
        obtain rfl := Option.mem_some_iff.1 member
        omega

/-- **A reader comes to no end of a script**: it fails or comes to such a token. -/
abbrev Blocked {α : Type} (read : Except SyntaxError (α × List Token)) : Prop :=
  Gives (fun result => Stuck result.2) read

section

variable {tokens : List Token}

theorem Inert.binding_ne {s : Symbol} {rest : List Token} (inert : Inert (.sym s :: rest))
    {binding : Nat} (bound : (Token.sym s).binding? .script = some binding) :
    binding = 0 ∨ binding = 16 :=
  inert binding bound

theorem Inert.operatorAt (inert : Inert tokens) (level : Nat) :
    operatorAt? .script level tokens = none := by
  unfold operatorAt?
  split
  · next s rest =>
      split
      · next op operator =>
          have bound := inert.binding_ne (binding_of_binaryOp operator)
          cases op <;> simp [BinaryOp.binding, BinaryOp.level?] at bound
      · rfl
  · rfl

theorem Inert.powerAt (inert : Inert tokens) : powerAt? .script tokens = none := by
  unfold powerAt?
  split
  · next s rest =>
      refine if_neg fun power => ?_
      have bound := inert.binding_ne (binding_of_binaryOp power)
      simp [BinaryOp.binding, BinaryOp.level?] at bound
  · rfl

/-! ## What is left -/

theorem gives_postfixed (inert : Inert tokens) (target : Expr) (n : Nat) :
    Gives (· = (target, tokens)) (parsePostfix .script n target tokens) := by
  cases n with
  | zero => exact .error
  | succ n =>
      unfold parsePostfix
      split
      all_goals first
        | exact absurd (inert.binding_ne rfl) (by omega)
        | exact .ok rfl

theorem gives_operands (inert : Inert tokens) (level : Nat) (left : Expr) (n : Nat) :
    Gives (· = (left, tokens)) (parseOperands .script n level left tokens) := by
  cases n with
  | zero => exact .error
  | succ n =>
      rw [parseOperands, inert.operatorAt]
      exact .ok rfl

variable {holds : Expr × List Token → Prop}

/-- **A primary expression that an inert token follows** is the whole conditional. -/
theorem gives_conditional (inert : ∀ result, holds result → Inert result.2)
    (first : ∀ s rest, tokens = .sym s :: rest → unaryOp? s = none)
    (primary : ∀ n, Gives holds (parsePrimary .script n tokens)) (n : Nat) :
    Gives holds (parseConditional .script n tokens) := by
  have power : ∀ n, Gives holds (parsePower .script n tokens) := by
    intro n
    cases n with
    | zero => exact .error
    | succ n =>
        rw [parsePower]
        refine (primary n).bind fun base here => ?_
        refine (gives_postfixed (inert _ here) base.1 n).bind fun result same => ?_
        subst same
        dsimp only
        rw [(inert _ here).powerAt]
        exact .ok here
  have unary : ∀ n, Gives holds (parseUnary .script n tokens) := by
    intro n
    cases n with
    | zero => exact .error
    | succ n =>
        unfold parseUnary
        split
        · next s rest =>
            rw [first s rest rfl]
            exact power n
        · exact power n
  have binary : ∀ n level, Gives holds (parseBinary .script n level tokens) := by
    intro n
    induction n with
    | zero => exact fun _ => .error
    | succ n ih =>
        intro level
        rw [parseBinary]
        split
        · refine (ih (level + 1)).bind fun left here result found => ?_
          rw [gives_operands (inert _ here) level left.1 n result found]
          exact here
        · exact unary n
  cases n with
  | zero => exact .error
  | succ n =>
      rw [parseConditional]
      refine (binary n 0).bind ?_
      rintro ⟨condition, rest⟩ here
      have still : Inert rest := inert _ here
      dsimp only
      split
      · exact absurd (still.binding_ne rfl) (by omega)
      · exact .ok here

theorem gives_assign (noCallback : callbackHead? .script tokens = none)
    (noAssignment : assignmentHead? tokens = none)
    (conditional : ∀ n, Gives holds (parseConditional .script n tokens)) (n : Nat) :
    Gives holds (parseAssign .script n tokens) := by
  cases n with
  | zero => exact .error
  | succ n =>
      rw [parseAssign, noCallback, noAssignment]
      exact conditional n

/-- **A call of a page is read as one**, and what is behind it is left. -/
theorem gives_call (address : String) (n : Nat) :
    Gives (· = (.call "url" [.literal (.str address)], tokens))
      (parsePrimary .script n
        (.name "url" :: .sym .lparen :: .str address :: .sym .rparen :: tokens)) := by
  have inert : Inert (.sym .rparen :: tokens) := nofun
  have argument : ∀ n, Gives (· = (.literal (.str address), .sym .rparen :: tokens))
      (parseAssign .script n (.str address :: .sym .rparen :: tokens)) := by
    refine gives_assign rfl rfl (gives_conditional ?_ nofun fun n => ?_)
    · rintro _ rfl
      exact inert
    · cases n with
      | zero => exact .error
      | succ n => exact .ok rfl
  have args : ∀ n, Gives (· = ([.literal (.str address)], tokens))
      (parseArgs .script n "url" (.str address :: .sym .rparen :: tokens)) := by
    intro n
    cases n with
    | zero => exact .error
    | succ n =>
        unfold parseArgs
        refine (argument n).bind fun result same => ?_
        subst same
        cases n with
        | zero => exact .error
        | succ n => exact .ok rfl
  cases n with
  | zero => exact .error
  | succ n =>
      rw [parsePrimary_name]
      refine (args n).bind fun result same => ?_
      subst same
      exact .ok rfl

end

/-! ## Two sources -/

variable {page : String → Value} {bound : String → Option Value}

/-- **A source, and the same with names in the places of its calls.**  The word `url` stands
before a parenthesis in these calls only, unless it is behind a point, and no call is. -/
inductive NamedSource (page : String → Value) (bound : String → Option Value) :
    List Token → List Token → Prop
  | nil : NamedSource page bound [] []
  | call {name address : String} {rest rest' : List Token}
      (known : bound name = some (page address)) (later : NamedSource page bound rest rest') :
      NamedSource page bound
        (.name "url" :: .sym .lparen :: .str address :: .sym .rparen :: rest) (.name name :: rest')
  | name {word : String} {rest rest' : List Token} (other : bound word = none)
      (uncalled : word = "url" → ∀ later, rest ≠ .sym .lparen :: later)
      (later : NamedSource page bound rest rest') :
      NamedSource page bound (.name word :: rest) (.name word :: rest')
  | key {key : String} {rest rest' : List Token} (later : NamedSource page bound rest rest') :
      NamedSource page bound (.sym .dot :: .name key :: rest) (.sym .dot :: .name key :: rest')
  | point {rest rest' : List Token} (keyless : ∀ key later, rest ≠ .name key :: later)
      (later : NamedSource page bound rest rest') :
      NamedSource page bound (.sym .dot :: rest) (.sym .dot :: rest')
  | sym {s : Symbol} {rest rest' : List Token} (other : s ≠ .dot)
      (later : NamedSource page bound rest rest') :
      NamedSource page bound (.sym s :: rest) (.sym s :: rest')
  | int {n : Int64} {rest rest' : List Token} (later : NamedSource page bound rest rest') :
      NamedSource page bound (.int n :: rest) (.int n :: rest')
  | float {x : Float} {rest rest' : List Token} (later : NamedSource page bound rest rest') :
      NamedSource page bound (.float x :: rest) (.float x :: rest')
  | str {text : String} {rest rest' : List Token} (later : NamedSource page bound rest rest') :
      NamedSource page bound (.str text :: rest) (.str text :: rest')
  | unknown {c : Char} {rest rest' : List Token} (later : NamedSource page bound rest rest') :
      NamedSource page bound (.unknown c :: rest) (.unknown c :: rest')
  | eof {rest rest' : List Token} (later : NamedSource page bound rest rest') :
      NamedSource page bound (.eof :: rest) (.eof :: rest')

namespace NamedSource

variable {tokens tokens' : List Token}

/-- Both sources begin with a symbol if one does. -/
theorem of_sym {s : Symbol} {rest' : List Token} (other : s ≠ .dot)
    (source : NamedSource page bound tokens (.sym s :: rest')) :
    ∃ rest, tokens = .sym s :: rest ∧ NamedSource page bound rest rest' := by
  cases source with
  | key later => exact absurd rfl other
  | point keyless later => exact absurd rfl other
  | sym other later => exact ⟨_, rfl, later⟩

theorem sym_left {s : Symbol} {rest : List Token} (other : s ≠ .dot)
    (source : NamedSource page bound (.sym s :: rest) tokens') :
    ∃ rest', tokens' = .sym s :: rest' ∧ NamedSource page bound rest rest' := by
  cases source with
  | key later => exact absurd rfl other
  | point keyless later => exact absurd rfl other
  | sym other later => exact ⟨_, rfl, later⟩

/-- The parameters of a callback are names of no page. -/
theorem paramNames (source : NamedSource page bound tokens tokens') {params : List String}
    {rest : List Token} (found : paramNames? tokens = some (params, rest)) :
    (∀ name ∈ params, bound name = none) ∧
      ∃ rest', paramNames? tokens' = some (params, rest') ∧ NamedSource page bound rest rest' := by
  induction tokens using paramNames?.induct generalizing tokens' params with
  | case1 tokens =>
      obtain ⟨rfl, rfl⟩ := Prod.mk.inj (Option.some.inj found)
      obtain ⟨rest', rfl, later⟩ := source.sym_left (by decide)
      exact ⟨List.forall_mem_nil _, rest', rfl, later⟩
  | case2 name tokens =>
      obtain ⟨rfl, rfl⟩ := Prod.mk.inj (Option.some.inj found)
      cases source with
      | name other uncalled later =>
          obtain ⟨rest', rfl, behind⟩ := later.sym_left (by decide)
          exact ⟨List.forall_mem_singleton.2 other, rest', rfl, behind⟩
  | case3 name tokens ih =>
      rw [paramNames?, Option.map_eq_some_iff] at found
      obtain ⟨⟨others, left⟩, found, same⟩ := found
      obtain ⟨rfl, rfl⟩ := Prod.mk.inj same
      cases source with
      | name other uncalled later =>
          obtain ⟨rest', rfl, behind⟩ := later.sym_left (by decide)
          obtain ⟨free, rest'', found', left'⟩ := ih behind found
          refine ⟨List.forall_mem_cons.2 ⟨other, free⟩, rest'', ?_, left'⟩
          rw [paramNames?, found']
          rfl
  | case4 tokens closed single several =>
      rw [paramNames?] at found
      · cases found
      all_goals assumption

/-- A name or a call before a comma or a closing parenthesis is read on its own. -/
theorem gives_item {s : Symbol} (ends : s = .comma ∨ s = .rparen) {word : String}
    {rest' : List Token} (source : NamedSource page bound tokens (.name word :: .sym s :: rest')) :
    ∃ rest, NamedSource page bound rest rest' ∧
      ∀ n, Gives (·.2 = .sym s :: rest) (parseAssign .script n tokens) := by
  have other : s ≠ .dot := by rcases ends with rfl | rfl <;> decide
  have inert : ∀ (rest : List Token) (result : Expr × List Token),
      result.2 = .sym s :: rest → Inert result.2 := by
    intro rest result same binding found
    rw [same] at found
    rcases ends with rfl | rfl
    · exact .inl (Option.some.inj found).symm
    · nomatch found
  cases source with
  | call known later =>
      obtain ⟨rest, rfl, behind⟩ := of_sym other later
      refine ⟨rest, behind, gives_assign rfl rfl (gives_conditional (inert rest) nofun ?_)⟩
      intro n result found
      rw [gives_call _ n result found]
  | name other' uncalled later =>
      obtain ⟨rest, rfl, behind⟩ := of_sym other later
      have noCallback : callbackHead? .script (.name word :: .sym s :: rest) = none := by
        rcases ends with rfl | rfl <;> rfl
      have noAssignment : assignmentHead? (.name word :: .sym s :: rest) = none := by
        rcases ends with rfl | rfl <;> rfl
      refine ⟨rest, behind,
        gives_assign noCallback noAssignment (gives_conditional (inert rest) nofun fun n => ?_)⟩
      cases n with
      | zero => exact .error
      | succ n =>
          rw [parsePrimary_name]
          split
          · exact .ok rfl
          · rcases ends with rfl | rfl <;> exact .ok rfl

/-- What is read behind a comma leaves what a sequence leaves. -/
theorem gives_more (left : List Token → Prop) {n : Nat}
    (sequence : Gives (fun result => left result.2) (parseExpr .script (n + 1) tokens)) :
    Gives (fun result => left result.2) (parseMore .script (n + 1) (.sym .comma :: tokens)) := by
  rw [parseExpr] at sequence
  rw [parseMore]
  cases first : parseAssign .script n tokens with
  | error cause => exact .error
  | ok read =>
      rw [first] at sequence
      change Gives _ (parseMore .script n read.2 >>= _) at sequence
      change Gives _ (parseMore .script n read.2 >>= _)
      cases others : parseMore .script n read.2 with
      | error cause => exact .error
      | ok more =>
          rw [others] at sequence
          exact .ok (sequence _ rfl)

/-- **Where names are the parameters of a callback, calls are no script**: they are read in
parentheses and have an arrow behind them. -/
theorem gives_params (source : NamedSource page bound tokens tokens') {params : List String}
    {later' : List Token} (found : paramNames? tokens' = some (params, .sym .arrow :: later'))
    (n : Nat) :
    Gives (fun result => ∃ later, result.2 = .sym .rparen :: .sym .arrow :: later)
      (parseExpr .script n tokens) := by
  have arrow : ∀ {rest : List Token}, NamedSource page bound rest (.sym .arrow :: later') →
      ∃ later, rest = .sym .arrow :: later := by
    intro rest source
    obtain ⟨later, rfl, -⟩ := of_sym (by decide) source
    exact ⟨later, rfl⟩
  induction tokens' using paramNames?.induct generalizing tokens params n with
  | case1 rest' =>
      obtain ⟨-, rfl⟩ := Prod.mk.inj (Option.some.inj found)
      obtain ⟨rest, rfl, -⟩ := of_sym (by decide) source
      -- no expression begins with a closing parenthesis
      have nothing : ∀ n,
          Gives (fun _ => False) (parseAssign .script n (.sym .rparen :: rest)) := by
        refine gives_assign rfl rfl (gives_conditional (fun _ => False.elim) ?_ fun n => ?_)
        · rintro s rest ⟨⟩
          rfl
        · cases n <;> exact .error
      cases n with
      | zero => exact .error
      | succ n =>
          rw [parseExpr]
          exact (nothing n).bind fun _ impossible => impossible.elim
  | case2 word rest' =>
      obtain ⟨-, rfl⟩ := Prod.mk.inj (Option.some.inj found)
      obtain ⟨rest, behind, item⟩ := gives_item (.inr rfl) source
      obtain ⟨later, rfl⟩ := arrow behind
      cases n with
      | zero => exact .error
      | succ n =>
          rw [parseExpr]
          refine (item n).bind ?_
          rintro ⟨first, -⟩ rfl
          cases n with
          | zero => exact .error
          | succ n => exact .ok ⟨later, rfl⟩
  | case3 word rest' ih =>
      rw [paramNames?, Option.map_eq_some_iff] at found
      obtain ⟨⟨others, left⟩, found, same⟩ := found
      obtain ⟨-, rfl⟩ := Prod.mk.inj same
      obtain ⟨rest, behind, item⟩ := gives_item (.inl rfl) source
      cases n with
      | zero => exact .error
      | succ n =>
          rw [parseExpr]
          refine (item n).bind ?_
          rintro ⟨first, -⟩ rfl
          cases n with
          | zero => exact .error
          | succ n =>
              have more := gives_more
                (fun rest => ∃ later, rest = .sym .rparen :: .sym .arrow :: later)
                (ih behind found (n + 1))
              exact more.bind fun _ left => .ok left
  | case4 tokens closed single several =>
      rw [paramNames?] at found
      · cases found
      all_goals assumption

/-! ### Looking ahead -/

/-- Such a token follows in both sources or in none. -/
theorem stuck (source : NamedSource page bound tokens tokens') (stuck : Stuck tokens') :
    Stuck tokens := by
  cases source with
  | call known later => nomatch stuck
  | _ => exact stuck

/-- **How two sources begin**: with no assignment or callback, both with the same one, or with a
call that a name can stand in the place of only where the call is no part of a script. -/
inductive Heads (page : String → Value) (bound : String → Option Value)
    (tokens tokens' : List Token) : Prop
  | none (one : callbackHead? .script tokens = none ∧ assignmentHead? tokens = none)
      (other : callbackHead? .script tokens' = none ∧ assignmentHead? tokens' = none)
  | blocked (one : callbackHead? .script tokens = none ∧ assignmentHead? tokens = none)
      (here : ∀ n, Blocked (parseConditional .script n tokens))
  | callback {params : List String} {rest rest' : List Token}
      (one : callbackHead? .script tokens = some (params, rest))
      (other : callbackHead? .script tokens' = some (params, rest'))
      (others : ∀ name ∈ params, bound name = .none)
      (later : NamedSource page bound rest rest')
  | assignment {name : String} {op : AssignOp} {rest rest' : List Token}
      (one : callbackHead? .script tokens = .none ∧ assignmentHead? tokens = some (name, op, rest))
      (other : callbackHead? .script tokens' = .none ∧
        assignmentHead? tokens' = some (name, op, rest'))
      (free : bound name = .none) (later : NamedSource page bound rest rest')

theorem heads_name {word : String} (other : bound word = none)
    (later : NamedSource page bound tokens tokens') :
    Heads page bound (.name word :: tokens) (.name word :: tokens') := by
  cases later with
  | @sym s rest rest' _ later =>
      by_cases arrow : s = .arrow
      · subst arrow
        exact .callback rfl rfl (List.forall_mem_singleton.2 other) later
      · have noCallback : ∀ rest, callbackHead? .script (.name word :: .sym s :: rest) = none := by
          intro rest
          unfold callbackHead?
          rw [if_neg (by decide)]
          split
          · next same => exact absurd (Token.sym.inj (List.cons.inj (List.cons.inj same).2).1) arrow
          · next same => nomatch same
          · rfl
        have assignment : ∀ rest, assignmentHead? (.name word :: .sym s :: rest) =
            (assignOp? s).map fun op => (word, op, rest) := fun _ => rfl
        cases operator : assignOp? s with
        | none =>
            rw [operator] at assignment
            exact .none ⟨noCallback _, assignment _⟩ ⟨noCallback _, assignment _⟩
        | some op =>
            rw [operator] at assignment
            exact .assignment ⟨noCallback _, assignment _⟩ ⟨noCallback _, assignment _⟩ other later
  | _ => exact .none ⟨rfl, rfl⟩ ⟨rfl, rfl⟩

theorem heads_call {name address : String} (later : NamedSource page bound tokens tokens') :
    Heads page bound
      (.name "url" :: .sym .lparen :: .str address :: .sym .rparen :: tokens)
      (.name name :: tokens') := by
  rcases stuck_or_stops tokens' with stuck' | stops
  · refine .blocked ⟨rfl, rfl⟩ (gives_conditional (fun result => Stuck.inert) nofun fun n => ?_)
    intro result found
    rw [gives_call address n result found]
    exact later.stuck stuck'
  · exact .none ⟨rfl, rfl⟩ (Plain.name name tokens' stops)

/-- A list of parameters is one in both sources, or it has a call in it. -/
theorem callbackHead_paren (tokens : List Token) : callbackHead? .script (.sym .lparen :: tokens) =
    match paramNames? tokens with
    | some (params, .sym .arrow :: rest) => some (params, rest)
    | _ => none := rfl

theorem heads_paren (later : NamedSource page bound tokens tokens') :
    Heads page bound (.sym .lparen :: tokens) (.sym .lparen :: tokens') := by
  have one := callbackHead_paren tokens
  have other := callbackHead_paren tokens'
  cases found : paramNames? tokens with
  | some listed =>
      obtain ⟨params, rest⟩ := listed
      obtain ⟨free, rest', found', left⟩ := later.paramNames found
      rw [found] at one
      rw [found'] at other
      cases left with
      | @sym s rest rest' _ behind =>
          by_cases arrow : s = .arrow
          · subst arrow
            exact .callback one other free behind
          · refine .none ⟨one.trans ?_, rfl⟩ ⟨other.trans ?_, rfl⟩
            · cases s <;> first | rfl | exact absurd rfl arrow
            · cases s <;> first | rfl | exact absurd rfl arrow
      | _ => exact .none ⟨one, rfl⟩ ⟨other, rfl⟩
  | none =>
      rw [found] at one
      cases found' : callbackHead? .script (.sym .lparen :: tokens') with
      | none => exact .none ⟨one, rfl⟩ ⟨found', rfl⟩
      | some callback =>
          refine .blocked ⟨one, rfl⟩ (gives_conditional (fun result => Stuck.inert) ?_ fun n => ?_)
          · rintro s rest ⟨⟩
            rfl
          · rw [found'] at other
            split at other
            · next params later' listed =>
                cases n with
                | zero => exact .error
                | succ n =>
                    rw [parsePrimary_paren]
                    refine (later.gives_params listed n).bind ?_
                    rintro ⟨inner, -⟩ ⟨behind, rfl⟩
                    exact .ok rfl
            · cases other

theorem heads (source : NamedSource page bound tokens tokens') :
    Heads page bound tokens tokens' := by
  have plain : ∀ {token : Token} (_ : ∀ word, token ≠ .name word) (_ : token ≠ .sym .lparen)
      (rest : List Token), callbackHead? .script (token :: rest) = none ∧
        assignmentHead? (token :: rest) = none := by
    intro token noName noParen rest
    simpa using Plain.of_first noName noParen rest [] nofun
  cases source with
  | nil => exact .none ⟨rfl, rfl⟩ ⟨rfl, rfl⟩
  | call known later => exact heads_call later
  | name other uncalled later => exact heads_name other later
  | @sym s rest rest' other later =>
      by_cases paren : s = .lparen
      · subst paren
        exact heads_paren later
      · have apart : Token.sym s ≠ .sym .lparen := fun same => paren (Token.sym.inj same)
        exact .none (plain (by nofun) apart _) (plain (by nofun) apart _)
  | _ => exact .none (plain (by nofun) (by nofun) _) (plain (by nofun) (by nofun) _)

/-- Both sources go on with an operator of a level, or none does. -/
theorem operatorAt (source : NamedSource page bound tokens tokens') (level : Nat) :
    (operatorAt? .script level tokens = none ∧ operatorAt? .script level tokens' = none) ∨
      ∃ op rest rest', operatorAt? .script level tokens = some (op, rest) ∧
        operatorAt? .script level tokens' = some (op, rest') ∧
        NamedSource page bound rest rest' := by
  cases source with
  | @sym s rest rest' _ later =>
      rw [operatorAt?, operatorAt?]
      cases binaryOp? .script s with
      | none => exact .inl ⟨rfl, rfl⟩
      | some op =>
          by_cases here : op.level? = some level
          · exact .inr ⟨op, _, _, if_pos here, if_pos here, later⟩
          · exact .inl ⟨if_neg here, if_neg here⟩
  | _ => exact .inl ⟨rfl, rfl⟩

theorem powerAt (source : NamedSource page bound tokens tokens') :
    (powerAt? .script tokens = none ∧ powerAt? .script tokens' = none) ∨
      ∃ rest rest', powerAt? .script tokens = some rest ∧
        powerAt? .script tokens' = some rest' ∧ NamedSource page bound rest rest' := by
  cases source with
  | @sym s rest rest' _ later =>
      rw [powerAt?, powerAt?]
      by_cases here : binaryOp? .script s = some .pow
      · exact .inr ⟨_, _, if_pos here, if_pos here, later⟩
      · exact .inl ⟨if_neg here, if_neg here⟩
  | _ => exact .inl ⟨rfl, rfl⟩

/-- A closing symbol ends both lists or none. -/
theorem closed_iff {s : Symbol} (other : s ≠ .dot)
    (source : NamedSource page bound tokens tokens') :
    (∃ rest, tokens = .sym s :: rest) ↔ ∃ rest, tokens' = .sym s :: rest := by
  constructor
  · rintro ⟨rest, rfl⟩
    obtain ⟨rest', same, -⟩ := source.sym_left other
    exact ⟨rest', same⟩
  · rintro ⟨rest, rfl⟩
    obtain ⟨rest', same, -⟩ := of_sym other source
    exact ⟨rest', same⟩

end NamedSource

end ChatTemplate.Script
