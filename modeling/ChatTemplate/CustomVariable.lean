/-
# ChatTemplate.CustomVariable -- variables of a channel

A channel keeps named texts, such as a counter of deaths, that messages show and
set.  What chat hears about a variable that was set is its `Response`.
-/
namespace ChatTemplate

set_option autoImplicit false

/-- What happens when a variable is set from chat. -/
inductive Response where
  /-- The new value is announced and shown. -/
  | announced
  /-- The variable's own text is sent and nothing is shown. -/
  | custom
  /-- The new value is shown and nothing is sent. -/
  | silent
  deriving DecidableEq

structure CustomVariable where
  value : String := ""
  response : Response := .announced
  /-- The text of a custom response, where `$value` stands for the new value. -/
  responseText : String := ""
  /-- A script computes the variable and makes its own announcement. -/
  scripted : Bool := false
  deriving DecidableEq

/-- What a store answers when a variable has been set. -/
structure SetOutcome where
  accepted : Bool
  scripted : Bool
  newValue : String
  response : Response
  responseText : String
  currentValue : String
  deriving DecidableEq

end ChatTemplate
