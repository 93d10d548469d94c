/-
# ChatTemplate.Message.StreamLookup -- `(stream|channel|game)`

What another channel is streaming, from the platform's interface: the channel's
user, that user's stream and, for its name, the game.  A lookup that goes wrong
anywhere shows the field's fallback.
-/
import ChatTemplate.Dialogue
import ChatTemplate.Message.Token
import ChatTemplate.PercentEncoding
import ChatTemplate.Text.Search

namespace ChatTemplate.StreamLookup

set_option autoImplicit false

/-- The address of the platform's interface. -/
def interface : String := "https://api.twitch.tv/helix"

/-- How a token of the field ends. -/
def ending : StreamField → List Char
  | .game => "|game)".toList
  | .title => "|title)".toList
  | .viewers => "|viewers)".toList

def fallback : StreamField → List Char
  | .viewers => ['0']
  | _ => "n/a".toList

def channelOf (field : StreamField) (token : List Char) : List Char :=
  ((Text.stripPrefix? "(stream|".toList token).bind (Text.stripSuffix? (ending field))).getD []

/-! ## Requests -/

/-- The document at an address of the interface. -/
def request (credentials : Credentials) (address : String) : Chat Json := do
  let headers :=
    [("Authorization", "Bearer " ++ credentials.accessToken), ("Client-ID", credentials.clientId)]
  let reply ← Chat.ask (Query.put (.fetch address headers))
  if reply.status ≠ 200 then throw (.badStatus address reply.status)
  match reply.json? with
  | some json => return json
  | none => throw .notJson

/-- The first entry of a document. -/
def firstEntry (json : Json) : Chat Json :=
  match (json.field? "data").bind (Json.item? 0) with
  | some entry => return entry
  | none => throw .emptyReply

def textField (entry : Json) (name : String) : Chat String :=
  match (entry.field? name).bind Json.text? with
  | some text => return text
  | none => throw (.missingField name)

/-- The first entry at an address of the interface. -/
def requestEntry (credentials : Credentials) (path : String) : Chat Json := do
  firstEntry (← request credentials (interface ++ path))

/-- The number of viewers of a stream, zero when it is not given. -/
def viewerCount (entry : Json) : Nat :=
  ((entry.field? "viewer_count").bind Json.natural?).getD 0

def lookUp (channel : List Char) (field : StreamField) : Chat (List Char) := do
  match ← Chat.ask (Query.put .credentials) with
  | none => throw .noAccessToken
  | some credentials =>
      if credentials.accessToken.isEmpty then throw .noAccessToken
      let login := String.ofList (PercentEncoding.encodeName channel)
      let user ← requestEntry credentials ("/users?login=" ++ login)
      let userId ← textField user "id"
      let stream ← requestEntry credentials ("/streams?user_id=" ++ userId)
      match field with
      | .title => return (← textField stream "title").toList
      | .viewers => return Text.writeNat (viewerCount stream)
      | .game =>
          let gameId ← textField stream "game_id"
          let game ← requestEntry credentials ("/games?id=" ++ gameId)
          return (← textField game "name").toList

def resolve (field : StreamField) (token : List Char) : Dialogue (List Char) := do
  match ← Chat.attempt (lookUp (channelOf field token) field) with
  | .ok text => return text
  | .error _ => return fallback field

end ChatTemplate.StreamLookup
