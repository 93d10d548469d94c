/-
# ChatTemplate.Registry -- what the channel offers

The entries that lists in messages are made of: aliases, commands, cooldowns,
prices and ranks.
-/
namespace ChatTemplate

set_option autoImplicit false

structure AliasEntry where
  name : String
  visible : Bool := true
  enabled : Bool := true
  deriving DecidableEq

structure CommandEntry where
  name : String
  visible : Bool := true
  enabled : Bool := true
  /-- The groups that may use the command. -/
  permissions : List String := []
  deriving DecidableEq

structure CooldownEntry where
  name : String
  milliseconds : UInt64
  enabled : Bool := true
  deriving DecidableEq

structure PriceEntry where
  command : String
  price : Int64
  enabled : Bool := true
  deriving DecidableEq

structure RankEntry where
  name : String
  hours : UInt64
  deriving DecidableEq

end ChatTemplate
