/-
# ChatTemplate.Proofs.Gives -- what computations that can fail give

A computation `Gives` results with a property when, unless it fails, its result
has it.  The property goes from one computation to those that are made of it.
-/
namespace ChatTemplate

set_option autoImplicit false

/-- **Whatever a computation gives has a property.** -/
def Gives {ε α : Type} (holds : α → Prop) (computed : Except ε α) : Prop :=
  ∀ result, computed = .ok result → holds result

namespace Gives

variable {ε α β : Type} {holds : α → Prop} {after : β → Prop}

theorem ok {result : α} (now : holds result) : Gives holds (.ok result : Except ε α) := by
  intro other same
  obtain rfl := Except.ok.inj same
  exact now

theorem error {cause : ε} : Gives holds (.error cause) := nofun

theorem bind {first : Except ε α} {next : α → Except ε β} (gives : Gives holds first)
    (goesOn : ∀ result, holds result → Gives after (next result)) :
    Gives after (first >>= next) := by
  cases first with
  | error cause => exact error
  | ok result => exact goesOn result (gives result rfl)

theorem map {first : Except ε α} {f : α → β} (gives : Gives holds first)
    (goesOn : ∀ result, holds result → after (f result)) : Gives after (first.map f) := by
  cases first with
  | error cause => exact error
  | ok result => exact ok (goesOn result (gives result rfl))

end Gives

end ChatTemplate
