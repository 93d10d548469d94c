/-
# ChatTemplate.Message.RandomPick -- random viewers, numbers and coins

Every pick draws from a fresh source of random numbers.  The bot, the
broadcaster and ignored users are never picked by the viewer tokens.
-/
import ChatTemplate.Dialogue
import ChatTemplate.Message.Context
import ChatTemplate.Message.Token
import ChatTemplate.Settings

namespace ChatTemplate.RandomPick

set_option autoImplicit false

/-- A name out of a list, if it has any. -/
def pick (names : List String) : Dialogue (Option String) := do
  let dice ← Query.put .chance
  return (dice.pick names).1

/-- The names of the users that may be picked. -/
def eligible (settings : Settings) (users : List User) : List String :=
  (users.map (·.name)).filter fun name => !settings.isExcluded name

def filterOf (online : Bool) (pool : Pool) : UserFilter where
  online := if online then some true else none
  follower := if pool = .follower then some true else none
  subscriber := if pool = .subscriber then some true else none

/-- A viewer of a pool, if there is one who may be picked. -/
def viewer (settings : Settings) (online : Bool) (pool : Pool) : Chat (List Char) := do
  let users ← Chat.ask (Query.put (.usersWhere (filterOf online pool)))
  let name ← pick (eligible settings users)
  return (name.getD "unknown").toList

/-! ## Numbers -/

/-- The numbers of the bounds in a token.  A bound that is no number takes the
next word of the argument, and there are no bounds when the words run out. -/
def bounds? (hasArgument : Bool) : List (List Char) → List (List Char) → Option (List Int64)
  | [], _ => some []
  | bound :: bounds, words =>
      match Text.leadingInt64? bound with
      | some n => (bounds? hasArgument bounds words).map (n :: ·)
      | none =>
          match words with
          | word :: words =>
              if hasArgument then
                (bounds? hasArgument bounds words).map ((Text.leadingInt64? word).getD 0 :: ·)
              else none
          | [] => none

/-- The texts of the two bounds of a token `(random.number-A-to-B)`. -/
def boundTexts (token : List Char) : List (List Char) :=
  let opened := Text.stripAll "(random.number-".toList token
  let body := (opened.reverse.dropWhile (· == ')')).reverse
  match Text.breakOn? "-to-".toList body with
  | some (first, second) => [first, second]
  | none => [body]

/-- A number from one bound to the other, both included. -/
def number (context : Context) (token : List Char) : Dialogue (List Char) := do
  let words := Text.splitOn [' '] context.argumentText.toList
  match bounds? context.argument.isSome (boundTexts token) words with
  | some bounds =>
      let dice ← Query.put .chance
      return (Text.int64Text (dice.between (bounds[0]?.getD 0) (bounds[1]?.getD 0)).1).toList
  | none => return ['0']

def coin : Dialogue (List Char) := do
  let dice ← Query.put .chance
  return (if (dice.below 2).1 = 0 then "true" else "false").toList

end ChatTemplate.RandomPick
