/-
# ChatTemplate.Message.Argument -- the argument of the command being answered

The argument as it was written, as a mention, and as part of a web address.
-/
import ChatTemplate.Message.Context
import ChatTemplate.PercentEncoding
import ChatTemplate.Settings

namespace ChatTemplate.Argument

set_option autoImplicit false

/-- The user whom the argument names, or else the sender. -/
def toUser (settings : Settings) (context : Context) : List Char :=
  let target := Text.replaceFirst ['@'] [] context.argumentText.toList
  if target.isEmpty then (settings.mention context.sender.name).toList
  else (settings.mention (String.ofList target)).toList

def written (context : Context) : List Char :=
  context.argumentText.toList

def writtenOrNone (context : Context) : List Char :=
  (context.given?.getD "n/a").toList

/-- The argument as the value of a query. -/
def query (context : Context) : List Char :=
  PercentEncoding.encodeQuery context.argumentText.toList

/-- The text of a token `(url|text)` as an address. -/
def address (token : List Char) : List Char :=
  let body := (Text.stripPrefix? "(url|".toList token).bind (Text.stripSuffix? [')'])
  PercentEncoding.encodeUri (body.getD [])

end ChatTemplate.Argument
