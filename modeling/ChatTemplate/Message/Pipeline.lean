/-
# ChatTemplate.Message.Pipeline -- the order in which tokens are replaced

A message goes through a fixed sequence of stages.  Most of them are passes: a
table of token templates in the order in which they are looked for, and a
`Policy` for tokens that resolve to nothing.  The order of the stages decides
what a replaced token may contain: a value put in by one stage is text in which
the later stages look for their own tokens.
-/
import ChatTemplate.Message.Token
import ChatTemplate.Template

namespace ChatTemplate

set_option autoImplicit false

/-- What becomes of a message when one of its tokens resolves to nothing. -/
inductive Policy where
  /-- The whole message is cleared. -/
  | clearWhenEmpty
  /-- An empty value removes the token, no value at all leaves it in place. -/
  | keepWhenEmpty
  deriving DecidableEq

/-- A template and what its matches stand for. -/
structure Rule (τ : Type) where
  template : Template
  token : τ
  deriving DecidableEq

inductive Stage where
  /-- The placeholders for statistics, latest events and songs. -/
  | placeholders
  | pass (name : String) (policy : Policy) (rules : List (Rule Token))
  /-- A pass of tokens that only decide whether the message is shown. -/
  | gates (name : String) (rules : List (Rule Gate))
  /-- The `$key` texts of the context. -/
  | attributes
  /-- The page that a message shows parts of. -/
  | page
  deriving DecidableEq

namespace Pipeline

/-- A rule whose wildcards follow its first character. -/
def keyed {τ : Type} (key : String) (token : τ) : Rule τ :=
  ⟨⟨key, Wildcard.ofKey key⟩, token⟩

def priceRules : List (Rule Token) := [keyed "(price)" .price]

def infoRules : List (Rule Token) :=
  [ keyed "$toptip.#.#" .topTip, keyed "(toptip.#.#)" .topTip,
    keyed "(game)" .game, keyed "(status)" .status ]

def randomRules : List (Rule Token) :=
  [ keyed "(random.online.viewer)" (.randomUser true .viewer),
    keyed "(random.online.follower)" (.randomUser true .follower),
    keyed "(random.online.subscriber)" (.randomUser true .subscriber),
    keyed "(random.viewer)" (.randomUser false .viewer),
    keyed "(random.follower)" (.randomUser false .follower),
    keyed "(random.subscriber)" (.randomUser false .subscriber),
    keyed "(random.number-#-to-#)" .randomNumber,
    keyed "(random.true-or-false)" .trueOrFalse ]

def conditionRules : List (Rule Token) := [keyed "(if#)" .condition]

def variableRules : List (Rule Token) :=
  [ ⟨⟨"$_#", .name⟩, .customVariable .normal⟩,
    ⟨⟨"$!_#", .name⟩, .customVariable .quiet⟩,
    ⟨⟨"$!!_#", .name⟩, .customVariable .silent⟩ ]

def scriptRules : List (Rule Token) := [⟨⟨"(eval#)", .greedy⟩, .script⟩]

def argumentRules : List (Rule Token) :=
  [keyed "$touser" .toUser, keyed "$param" .argument, keyed "$!param" .argumentOrNone]

def arithmeticRules : List (Rule Token) := [keyed "(math.#)" .arithmetic]

def gateRules : List (Rule Gate) :=
  [⟨⟨"(onlineonly)", .gate⟩, .online⟩, ⟨⟨"(offlineonly)", .gate⟩, .offline⟩]

/-- Quiet commands come first: their spelling is one of a command, too. -/
def commandRules : List (Rule Token) :=
  [ ⟨⟨"$count('#')", .any⟩, .usageOf⟩, ⟨⟨"$count", .any⟩, .usage⟩,
    ⟨⟨"(!!#)", .any⟩, .dispatch true⟩, ⟨⟨"(!#)", .any⟩, .dispatch false⟩ ]

def addressRules : List (Rule Token) :=
  [keyed "$querystring" .query, keyed "(url|#)" .address]

def listRules : List (Rule Token) := [keyed "(list.#)" .list]

def streamRules : List (Rule Token) :=
  [ keyed "(stream|#|game)" (.stream .game), keyed "(stream|#|title)" (.stream .title),
    keyed "(stream|#|viewers)" (.stream .viewers) ]

/-- **The stages of every message.** -/
def stages : List Stage :=
  [ .placeholders,
    .pass "price" .clearWhenEmpty priceRules,
    .pass "info" .clearWhenEmpty infoRules,
    .pass "random" .clearWhenEmpty randomRules,
    .pass "if" .keepWhenEmpty conditionRules,
    .pass "custom" .clearWhenEmpty variableRules,
    .pass "eval" .clearWhenEmpty scriptRules,
    .pass "param" .clearWhenEmpty argumentRules,
    .attributes,
    .pass "math" .clearWhenEmpty arithmeticRules,
    .gates "online" gateRules,
    .pass "command" .keepWhenEmpty commandRules,
    .pass "qs" .keepWhenEmpty addressRules,
    .pass "list" .clearWhenEmpty listRules,
    .pass "stream" .clearWhenEmpty streamRules,
    .page ]

/-- The name of a stage that has one. -/
def name? : Stage → Option String
  | .pass name _ _ => some name
  | .gates name _ => some name
  | _ => none

/-- The pass of a name. -/
def passNamed? (name : String) : Option Stage :=
  stages.find? fun stage => name? stage = some name

end Pipeline

end ChatTemplate
