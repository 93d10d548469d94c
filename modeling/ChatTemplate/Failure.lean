/-
# ChatTemplate.Failure -- why a question has no answer

A collaborator that cannot answer says why.  Nothing of this reaches chat: a
token whose lookup failed resolves to nothing, and the wording is for those who
call a collaborator directly.
-/
import ChatTemplate.Script.Error
import ChatTemplate.Text.Integer

namespace ChatTemplate

set_option autoImplicit false

inductive Failure where
  /-- The collaborator does not answer at all. -/
  | unavailable
  | noExchangeRate (currency : String)
  | noAccessToken
  | emptyReply
  | missingField (field : String)
  | noRoute (address : String)
  | badStatus (address : String) (status : Nat)
  | notJson
  | badScript (cause : Script.ScriptError)

namespace Failure

/-- The part that failed. -/
inductive Source where
  | service
  | web
  | json
  | script
  deriving DecidableEq

def source : Failure → Source
  | unavailable => .service
  | noExchangeRate _ => .service
  | noAccessToken => .service
  | emptyReply => .service
  | missingField _ => .service
  | noRoute _ => .web
  | badStatus _ _ => .web
  | notJson => .json
  | badScript _ => .script

/-- What a message about each part begins with. -/
def Source.label : Source → String
  | service => "service error"
  | web => "http error"
  | json => "json error"
  | script => "script error"

def reason : Failure → String
  | unavailable => "down"
  | noExchangeRate currency => "no exchange rate for " ++ currency
  | noAccessToken => "no access token"
  | emptyReply => "empty reply"
  | missingField field => "missing '" ++ field ++ "'"
  | noRoute address => "no route for " ++ address
  | badStatus address status =>
      address ++ " returned " ++ String.ofList (Text.writeNat status)
  | notJson => "no document"
  | badScript cause => cause.message

def message (failure : Failure) : String :=
  failure.source.label ++ ": " ++ failure.reason

end Failure

end ChatTemplate
