/-
# ChatTemplate.Broadcast -- the state of the stream

`Stats` is the state of the channel at one moment, as its statistics report it.
`Credentials` give access to the platform's interface for other channels.
-/
import ChatTemplate.Instant

namespace ChatTemplate

set_option autoImplicit false

/-- A song that is being played. -/
structure Song where
  title : String
  artist : String
  playing : Bool := true
  enabled : Bool := true
  deriving DecidableEq

structure Stats where
  game : Option String := none
  title : Option String := none
  viewers : UInt64 := 0
  views : UInt64 := 0
  followers : UInt64 := 0
  hosts : UInt64 := 0
  subscribers : UInt64 := 0
  bits : UInt64 := 0
  online : Bool := false
  /-- The moment the stream went live. -/
  onlineSince : Option Instant := none
  song : Option Song := none
  /-- The title of the song request that is being played. -/
  songRequest : Option String := none
  deriving DecidableEq

structure Credentials where
  accessToken : String := ""
  clientId : String := ""
  deriving DecidableEq

end ChatTemplate
