/-
# ChatTemplate.Proofs.ArgumentText -- the argument of a command in a message

A message with one `$param` in plain text shows the argument there, character for character
(`Message.render_argument`).  An argument may hold whatever begins no token: the references in
it are not decoded any more, and what it shares with other tokens (bars, braces, the rest of a
name) stands behind no `$` and no `(`.
-/
import ChatTemplate.Proofs.OneToken

namespace ChatTemplate

set_option autoImplicit false

/-- What stands in a message for the argument. -/
def Argument.token : List Char :=
  "$param".toList

/-- Nothing that is looked for before the argument could begin like its token: `$touser`, which
stands in the same pass, differs in its second character. -/
def Argument.place : Pipeline.Place (Pipeline.keyed "$param" .argument) Argument.token where
  early := Pipeline.stages.take 7
  name := "param"
  passed := [Pipeline.keyed "$touser" .toUser]
  left := [Pipeline.keyed "$!param" .argumentOrNone]
  later := Pipeline.stages.drop 8
  stages := rfl
  apart := by decide
  others := by decide
  decoded := by decide

namespace Message

variable {context : Context} {before after : List Char}

/-- **An argument is shown as it was written**: nothing is decoded in it or looked for, and
nobody is asked for anything. -/
theorem render_argument (settings : Settings) {argument : String}
    (given : context.argument = some argument) (nonempty : argument ≠ "")
    (plain : BeginsNoToken argument.toList)
    (here : BeginsNoToken before ∧ '&' ∉ before) (behind : BeginsNoToken after ∧ '&' ∉ after) :
    render settings context (before ++ Argument.token ++ after) =
      .done (Text.trim (before ++ argument.toList ++ after)) := by
  have resolved : Chat.attempt (resolve settings context .argument Argument.token) =
      Dialogue.done () >>= fun _ => pure (.ok argument.toList) := by
    rw [resolve, Argument.written, Context.argumentText, given]
    rfl
  exact render_of_one_token Argument.place List.prefix_rfl rfl (by decide) here behind
    (Template.matchLength_fixed rfl) resolved (fun _ => by simpa using nonempty) fun _ => plain

/-- An argument of references, bars and braces, for a command that has attributes, too. -/
theorem order_is_shown_as_it_was_written :
    let argument := "fish &amp; chips | )param\x7d \n\\d+"
    let context : Context :=
      { sender := ⟨"ann", "1"⟩, argument := some argument, command := some "!order",
        attributes := [("par", "one"), ("param", "two")] }
    let before := " order: ".toList
    let after := "! ".toList
    (argument ≠ "" ∧ BeginsNoToken argument.toList ∧ (BeginsNoToken before ∧ '&' ∉ before) ∧
        BeginsNoToken after ∧ '&' ∉ after) ∧
      render {} context (before ++ Argument.token ++ after) =
        .done "order: fish &amp; chips | )param\x7d \n\\d+!".toList := by
  intro argument context before after
  have nonempty : argument ≠ "" := by decide
  have plain : BeginsNoToken argument.toList := by decide
  have here : BeginsNoToken before ∧ '&' ∉ before := by decide
  have behind : BeginsNoToken after ∧ '&' ∉ after := by decide
  have given : context.argument = some argument := rfl
  have rendered := render_argument {} given nonempty plain here behind
  refine ⟨⟨nonempty, plain, here, behind⟩, ?_⟩
  rw [rendered]
  exact congrArg Dialogue.done (by decide)

end Message

end ChatTemplate
