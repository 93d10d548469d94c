/-
# ChatTemplate.Proofs.Dependence -- what evaluation depends on

`Expr.mentioned` and `mentionedAnywhere` are the names that an expression or a script
mentions: its variables, what it assigns or declares, the parameters of its callbacks,
and `ns.key` for a member `key` of a bare name `ns`, which may be a namespace.

Two states are `Alike` for some names when their dice are the same and these names
have the same bindings.  A computation `DependsOn` some names when it cannot tell such
states apart: from both it gives the same result or fails in the same way, and it
leaves states that are alike again.  Whatever a script reads of a scope it reads under a
name that it mentions (`mentions_usesAnywhere`), so states that are alike for these names
resemble each other in all that it reads.

Main statement: `evaluation_depends_on_mentioned`.
-/
import ChatTemplate.Proofs.Resemblance

namespace ChatTemplate.Script

set_option autoImplicit false

/-! ## Names that are mentioned -/

/-- The full name of a member, if its target can be a namespace. -/
def memberName? (target : Expr) (key : String) : Option String :=
  target.bareName?.map fun space => space ++ "." ++ key

mutual

/-- **The names that an expression mentions.** -/
def Expr.mentioned : Expr → List String
  | .literal _ => []
  | .var name => [name]
  | .list items => mentionedByAll items
  | .unary _ operand => operand.mentioned
  | .binary _ left right => left.mentioned ++ right.mentioned
  | .conditional condition yes no => condition.mentioned ++ (yes.mentioned ++ no.mentioned)
  | .assign name _ value => name :: value.mentioned
  | .call _ args => mentionedByAll args
  | .member target key => (memberName? target key).toList ++ target.mentioned
  | .index target key => target.mentioned ++ key.mentioned
  | .method target _ args => target.mentioned ++ mentionedByAll args
  | .lambda params body => params ++ body.mentioned
  | .sequence items => mentionedByAll items

def mentionedByAll : List Expr → List String
  | [] => []
  | e :: es => e.mentioned ++ mentionedByAll es

end

mutual

/-- **The names that a statement mentions.** -/
def Stmt.mentioned : Stmt → List String
  | .expr e => e.mentioned
  | .declare name none => [name]
  | .declare name (some value) => name :: value.mentioned
  | .ret none => []
  | .ret (some value) => value.mentioned
  | .branch condition yes no =>
      condition.mentioned ++ (mentionedAnywhere yes ++ mentionedAnywhere no)

def mentionedAnywhere : List Stmt → List String
  | [] => []
  | stmt :: stmts => stmt.mentioned ++ mentionedAnywhere stmts

end

/-! ## Dependence -/

/-- **Two states that differ in the bindings of other names only.** -/
structure Alike (names : List String) (one other : State) : Prop where
  dice : one.dice = other.dice
  bound : ∀ name ∈ names, one.scope.get? name = other.scope.get? name

/-- **A computation cannot tell states apart that are alike** for some names. -/
def DependsOn {α : Type} (names : List String) (computation : Eval α) : Prop :=
  ∀ one other, Alike names one other →
    (ExceptT.run computation one).1 = (ExceptT.run computation other).1 ∧
      Alike names (stateAfter computation one) (stateAfter computation other)

/-- Some names have the same bindings. -/
def Likeness.ofNames (names : List String) : Likeness where
  related name one other := name ∈ names → one = other
  refl _ _ _ := rfl

section

variable {names : List String}

/-- States are alike when they resemble each other in these names. -/
theorem alike_iff {one other : State} :
    Alike names one other ↔ Resemble (.ofNames names) one other :=
  ⟨fun alike => ⟨alike.dice, alike.bound⟩, fun resemble => ⟨resemble.dice, resemble.bound⟩⟩

theorem DependsOn.of_parallel {α : Type} {computation : Eval α}
    (parallel : Parallel (.ofNames names) computation) : DependsOn names computation := by
  intro one other alike
  obtain ⟨same, after⟩ := parallel one other (alike_iff.1 alike)
  exact ⟨same, alike_iff.2 after⟩

/-- What is read of the binding of one of the names agrees. -/
theorem Use.agrees_ofNames {use : Use} (listed : use.name ∈ names) :
    use.Agrees (.ofNames names) := by
  cases use with
  | whole name => exact fun one other related => related listed
  | part name access => exact fun one other related => congrArg _ (related listed)
  | constant space key => exact fun one other related => related listed

mutual

/-- An expression mentions the names that it reads. -/
theorem Expr.mentions_uses : (e : Expr) → ∀ use ∈ e.uses, use.name ∈ e.mentioned
  | .literal _, _, read => by simp [Expr.uses] at read
  | .var name, use, read => by
      rw [Expr.uses, List.mem_singleton] at read
      rw [read]
      exact List.mem_cons_self
  | .list items, use, read => by
      rw [Expr.uses] at read
      exact mentions_usesOfAll items use read
  | .unary _ operand, use, read => by
      rw [Expr.uses] at read
      exact operand.mentions_uses use read
  | .binary _ left right, use, read => by
      rw [Expr.uses] at read
      exact List.mem_append.2 ((List.mem_append.1 read).imp (left.mentions_uses use)
        (right.mentions_uses use))
  | .conditional condition yes no, use, read => by
      rw [Expr.uses] at read
      refine List.mem_append.2 ((List.mem_append.1 read).imp (condition.mentions_uses use) ?_)
      exact fun read => List.mem_append.2 ((List.mem_append.1 read).imp (yes.mentions_uses use)
        (no.mentions_uses use))
  | .assign name op value, use, read => by
      rw [Expr.uses] at read
      rw [Expr.mentioned]
      rcases List.mem_append.1 read with inValue | own
      · exact List.mem_cons_of_mem _ (value.mentions_uses use inValue)
      · split at own
        · nomatch own
        · rw [List.mem_singleton.1 own]
          exact List.mem_cons_self
  | .call _ args, use, read => by
      rw [Expr.uses] at read
      exact mentions_usesOfAll args use read
  | .member target key, use, read => by
      rw [Expr.uses] at read
      rw [Expr.mentioned]
      cases bare : target.bareName? with
      | some name =>
          rw [bare] at read
          rw [memberName?, bare, eq_var_of_bareName bare, Expr.mentioned]
          rcases List.mem_cons.1 read with rfl | constant
          · exact List.mem_cons_of_mem _ List.mem_cons_self
          · rw [List.mem_singleton.1 constant]
            exact List.mem_cons_self
      | none =>
          rw [bare] at read
          exact List.mem_append_right _ (target.mentions_uses use read)
  | .index target key, use, read => by
      rw [Expr.uses] at read
      rw [Expr.mentioned]
      have parts : use ∈ target.uses ++ key.uses →
          use.name ∈ target.mentioned ++ key.mentioned := fun read =>
        List.mem_append.2 ((List.mem_append.1 read).imp (target.mentions_uses use)
          (key.mentions_uses use))
      split at read
      · next name value bare known =>
          rw [List.mem_singleton.1 read, eq_var_of_bareName bare, Expr.mentioned]
          exact List.mem_append_left _ List.mem_cons_self
      · exact parts read
  | .method target _ args, use, read => by
      rw [Expr.uses] at read
      exact List.mem_append.2 ((List.mem_append.1 read).imp (target.mentions_uses use)
        (mentions_usesOfAll args use))
  | .lambda params body, use, read => by
      rw [Expr.uses] at read
      exact List.mem_append_right _ (body.mentions_uses use read)
  | .sequence items, use, read => by
      rw [Expr.uses] at read
      exact mentions_usesOfAll items use read

theorem mentions_usesOfAll : (es : List Expr) →
    ∀ use ∈ usesOfAll es, use.name ∈ mentionedByAll es
  | [], _, read => by simp [usesOfAll] at read
  | e :: es, use, read => by
      rw [usesOfAll] at read
      exact List.mem_append.2 ((List.mem_append.1 read).imp (e.mentions_uses use)
        (mentions_usesOfAll es use))

end

mutual

theorem Stmt.mentions_uses : (stmt : Stmt) → ∀ use ∈ stmt.uses, use.name ∈ stmt.mentioned
  | .expr e, use, read => by
      rw [Stmt.uses] at read
      exact e.mentions_uses use read
  | .declare _ none, _, read => by simp [Stmt.uses] at read
  | .declare _ (some value), use, read => by
      rw [Stmt.uses] at read
      exact List.mem_cons_of_mem _ (value.mentions_uses use read)
  | .ret none, _, read => by simp [Stmt.uses] at read
  | .ret (some value), use, read => by
      rw [Stmt.uses] at read
      exact value.mentions_uses use read
  | .branch condition yes no, use, read => by
      rw [Stmt.uses] at read
      refine List.mem_append.2 ((List.mem_append.1 read).imp (condition.mentions_uses use) ?_)
      exact fun read => List.mem_append.2 ((List.mem_append.1 read).imp
        (mentions_usesAnywhere yes use) (mentions_usesAnywhere no use))

/-- A script mentions the names that it reads. -/
theorem mentions_usesAnywhere : (stmts : List Stmt) →
    ∀ use ∈ usesAnywhere stmts, use.name ∈ mentionedAnywhere stmts
  | [], _, read => by simp [usesAnywhere] at read
  | stmt :: stmts, use, read => by
      rw [usesAnywhere] at read
      exact List.mem_append.2 ((List.mem_append.1 read).imp (stmt.mentions_uses use)
        (mentions_usesAnywhere stmts use))

end

/-- **Evaluation depends on nothing but what an expression mentions.** -/
theorem dependsOn_eval (e : Expr) (mentioned : e.mentioned ⊆ names) :
    DependsOn names (eval e) :=
  .of_parallel <| parallel_eval e fun use read =>
    use.agrees_ofNames (mentioned (e.mentions_uses use read))

/-- **A script depends on nothing but what it mentions.** -/
theorem dependsOn_runProgram {program : List Stmt}
    (mentioned : mentionedAnywhere program ⊆ names) : DependsOn names (runProgram program) :=
  .of_parallel <| parallel_runProgram fun use read =>
    use.agrees_ofNames (mentioned (mentions_usesAnywhere program use read))

end

/-- **Evaluation depends on what is mentioned**: from two scopes that agree on all names
that an expression or a script mentions, and with the same dice, it comes to the same
value or the same error, and leaves scopes that agree on these names again. -/
theorem evaluation_depends_on_mentioned :
    (∀ (e : Expr) (one other : Scope) (dice : Dice),
      (∀ name ∈ e.mentioned, one.get? name = other.get? name) →
        outcome (eval e) one dice = outcome (eval e) other dice ∧
          Alike e.mentioned (stateAfter (eval e) ⟨one, dice⟩)
            (stateAfter (eval e) ⟨other, dice⟩)) ∧
    (∀ (program : List Stmt) (one other : Scope) (dice : Dice),
      (∀ name ∈ mentionedAnywhere program, one.get? name = other.get? name) →
        outcome (runProgram program) one dice = outcome (runProgram program) other dice ∧
          Alike (mentionedAnywhere program) (stateAfter (runProgram program) ⟨one, dice⟩)
            (stateAfter (runProgram program) ⟨other, dice⟩)) := by
  constructor
  · intro e one other dice agree
    exact dependsOn_eval e (List.Subset.refl _) ⟨one, dice⟩ ⟨other, dice⟩ ⟨rfl, agree⟩
  · intro program one other dice agree
    exact dependsOn_runProgram (List.Subset.refl _) ⟨one, dice⟩ ⟨other, dice⟩ ⟨rfl, agree⟩

/-- `[1, 2].map(x => (sum += x, sum * shop.fee))`. -/
def tallying : Expr :=
  .method (.list [.literal (.int 1), .literal (.int 2)]) "map"
    [.lambda ["x"] (.sequence
      [ .assign "sum" .add (.var "x"),
        .binary .mul (.var "sum") (.member (.var "shop") "fee") ])]

theorem secret_is_not_seen :
    let one : Scope := (Table.empty.set "sum" (.int 0)).set "shop.fee" (.int 5)
    let other : Scope := one.set "secret" (.int 7)
    let dice : Dice := { rolls := fun _ => 0 }
    let script : List Stmt := [.declare "fees" (some tallying), .ret (some (.var "fees"))]
    (∀ name ∈ tallying.mentioned, one.get? name = other.get? name) ∧
      (∀ name ∈ mentionedAnywhere script, one.get? name = other.get? name) ∧
      (outcome (eval tallying) one dice).toOption.isSome = true ∧
      outcome (eval tallying) one dice = outcome (eval tallying) other dice ∧
      Alike tallying.mentioned (stateAfter (eval tallying) ⟨one, dice⟩)
        (stateAfter (eval tallying) ⟨other, dice⟩) ∧
      outcome (runProgram script) one dice = outcome (runProgram script) other dice ∧
      Alike (mentionedAnywhere script) (stateAfter (runProgram script) ⟨one, dice⟩)
        (stateAfter (runProgram script) ⟨other, dice⟩) := by
  intro one other dice script
  have agree : ∀ names : List String, "secret" ∉ names →
      ∀ name ∈ names, one.get? name = other.get? name := by
    intro names outside name member
    have apart : name ≠ "secret" := fun same => outside (same ▸ member)
    exact ((Table.get?_set one "secret" name (.int 7)).trans (if_neg apart)).symm
  have inExpression := agree tallying.mentioned (by decide)
  have inScript := agree (mentionedAnywhere script) (by decide)
  have succeeds : (outcome (eval tallying) one dice).toOption.isSome = true := by decide
  obtain ⟨expressions, scripts⟩ := evaluation_depends_on_mentioned
  obtain ⟨sameValue, sameNames⟩ := expressions tallying one other dice inExpression
  obtain ⟨sameReturn, sameBindings⟩ := scripts script one other dice inScript
  exact ⟨inExpression, inScript, succeeds, sameValue, sameNames, sameReturn, sameBindings⟩

end ChatTemplate.Script
