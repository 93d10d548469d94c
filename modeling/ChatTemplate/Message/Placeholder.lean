/-
# ChatTemplate.Message.Placeholder -- statistics, latest events and songs

Placeholders are fixed words such as `$viewers` or `$latestTipAmount`.  All that
they show is looked up once per message (`Channel.load`), and only as far as the
placeholders of the message need it.  A lookup that fails counts as one that
found nothing.

`Placeholder.fill` replaces them in one scan from left to right that takes the
longest placeholder at each place and never looks at the values it put in.
-/
import ChatTemplate.CharReference
import ChatTemplate.Decimal.Layout
import ChatTemplate.Dialogue
import ChatTemplate.Settings

namespace ChatTemplate

set_option autoImplicit false

inductive Placeholder where
  | game
  | viewers
  | views
  | followers
  | hosts
  | subscribers
  | bits
  | title
  | version
  | latestFollower
  | latestSubscriber
  | latestTipAmount
  | latestTipCurrency
  | latestTipMessage
  | latestTip
  | latestCheerAmount
  | latestCheerMessage
  | latestCheer
  | song
  | songRequest
  deriving DecidableEq

/-- The state of the channel that placeholders show. -/
structure Channel where
  stats : Stats := {}
  follower : Option Event := none
  subscriber : Option Event := none
  tip : Option Event := none
  cheer : Option Event := none

namespace Placeholder

def all : List Placeholder :=
  [ game, viewers, views, followers, hosts, subscribers, bits, title, version, latestFollower,
    latestSubscriber, latestTipAmount, latestTipCurrency, latestTipMessage, latestTip,
    latestCheerAmount, latestCheerMessage, latestCheer, song, songRequest ]

def key : Placeholder → List Char
  | game => "$game".toList
  | viewers => "$viewers".toList
  | views => "$views".toList
  | followers => "$followers".toList
  | hosts => "$hosts".toList
  | subscribers => "$subscribers".toList
  | bits => "$bits".toList
  | title => "$title".toList
  | version => "$version".toList
  | latestFollower => "$latestFollower".toList
  | latestSubscriber => "$latestSubscriber".toList
  | latestTipAmount => "$latestTipAmount".toList
  | latestTipCurrency => "$latestTipCurrency".toList
  | latestTipMessage => "$latestTipMessage".toList
  | latestTip => "$latestTip".toList
  | latestCheerAmount => "$latestCheerAmount".toList
  | latestCheerMessage => "$latestCheerMessage".toList
  | latestCheer => "$latestCheer".toList
  | song => "$spotifySong".toList
  | songRequest => "$ytSong".toList

def showsTip (placeholder : Placeholder) : Bool :=
  [latestTipAmount, latestTipCurrency, latestTipMessage, latestTip].contains placeholder

def showsCheer (placeholder : Placeholder) : Bool :=
  [latestCheerAmount, latestCheerMessage, latestCheer].contains placeholder

end Placeholder

/-! ## Looking up -/

namespace Channel

/-- The latest event of some kinds, if one of the placeholders shows it. -/
def latestIf (needed : Bool) (kinds : List String) : Dialogue (Option Event) := do
  if needed then
    match ← Query.put (.latestEvent kinds) with
    | .ok event => return event
    | .error _ => return none
  else return none

/-- Everything that some placeholders show. -/
def load (placeholders : List Placeholder) : Dialogue Channel := do
  let stats : Stats ←
    match ← Query.put .stats with
    | .ok stats => pure stats
    | .error _ => pure {}
  let follower ← latestIf (placeholders.contains .latestFollower) ["follow"]
  let subscriber ← latestIf (placeholders.contains .latestSubscriber) ["sub", "resub", "subgift"]
  let tip ← latestIf (placeholders.any Placeholder.showsTip) ["tip"]
  let cheer ← latestIf (placeholders.any Placeholder.showsCheer) ["cheer"]
  return { stats, follower, subscriber, tip, cheer }

end Channel

/-! ## Values -/

namespace Placeholder

/-- What is shown for something that is not known. -/
def unknown : String := "n/a"

def orUnknown (text : Option String) : String :=
  text.getD unknown

/-- The text with a backslash before every occurrence of the escape, if there is
an escape. -/
def escapeIn (escape : String) (text : String) : String :=
  if escape.isEmpty then text
  else
    let escape := escape.toList
    String.ofList (Text.replaceAll escape ('\\' :: escape) text.toList)

/-- A song in the format of the channel. -/
def songText (settings : Settings) (escape : String) (song : Song) : String :=
  let withTitle :=
    Text.replaceAll "$song".toList (escapeIn escape song.title).toList settings.songFormat.toList
  String.ofList
    (Text.replaceAll "$artist".toList (escapeIn escape song.artist).toList withTitle)

def notPlaying : Dialogue String :=
  Query.put (.phrase "songs.not-playing")

/-- The value of a placeholder. -/
def value (settings : Settings) (escape : String) (channel : Channel) :
    Placeholder → Dialogue String
  | game => return orUnknown channel.stats.game
  | title => return orUnknown channel.stats.title
  | viewers => return Text.uint64Text channel.stats.viewers
  | views => return Text.uint64Text channel.stats.views
  | followers => return Text.uint64Text channel.stats.followers
  | hosts => return Text.uint64Text channel.stats.hosts
  | subscribers => return Text.uint64Text channel.stats.subscribers
  | bits => return Text.uint64Text channel.stats.bits
  | version => return settings.version
  | latestFollower => return orUnknown (channel.follower.map (·.userName))
  | latestSubscriber => return orUnknown (channel.subscriber.map (·.userName))
  | latestTipAmount => return orUnknown (channel.tip.map fun tip => Decimal.fixed 2 tip.amount)
  | latestTipCurrency => return orUnknown (channel.tip.bind (·.text? "currency"))
  | latestTipMessage => return orUnknown (channel.tip.bind (·.text? "message"))
  | latestTip => return orUnknown (channel.tip.map Event.giver)
  | latestCheerAmount =>
      return orUnknown
        (channel.cheer.map fun cheer => Text.int64Text (Decimal.toInt64 cheer.amount))
  | latestCheerMessage => return orUnknown (channel.cheer.bind (·.text? "message"))
  | latestCheer => return orUnknown (channel.cheer.map Event.giver)
  | song =>
      match channel.stats.song with
      | some heard =>
          if heard.playing && heard.enabled then return songText settings escape heard
          else notPlaying
      | none => notPlaying
  | songRequest =>
      match channel.stats.songRequest with
      | some request =>
          if settings.songsEnabled then return escapeIn escape request else notPlaying
      | none => notPlaying

/-! ## Replacing -/

/-- A placeholder's key and the text to be put in its place. -/
abbrev Filling := List Char × List Char

/-- The filling with the longest key that the text begins with. -/
def longest? (fillings : List Filling) (text : List Char) : Option Filling :=
  (fillings.filter fun filling => Text.startsWith filling.1 text).foldl
    (fun best filling =>
      match best with
      | some other => if filling.1.length ≤ other.1.length then some other else some filling
      | none => some filling)
    none

/-- The text with the keys of some fillings replaced. -/
def fill (fillings : List Filling) (text : List Char) : List Char :=
  go 0 text
where
  /-- The counter is the number of characters still covered by the last key. -/
  go : Nat → List Char → List Char
    | _, [] => []
    | covered + 1, _ :: text => go covered text
    | 0, c :: text =>
        match longest? fillings (c :: text) with
        | some (key, value) => value ++ go (key.length - 1) text
        | none => c :: go 0 text

/-- The placeholders that occur in a text. -/
def present (text : List Char) : List Placeholder :=
  all.filter fun placeholder => Text.contains placeholder.key text

def fillingOf (settings : Settings) (escape : String) (channel : Channel)
    (placeholder : Placeholder) : Dialogue Filling := do
  let value ← placeholder.value settings escape channel
  return (placeholder.key, value.toList)

/-- The text with its placeholders replaced and its character references
decoded. -/
def apply (settings : Settings) (escape : String) (text : List Char) :
    Dialogue (List Char) := do
  let placeholders := present text
  if placeholders.isEmpty then return CharReference.decode text
  let channel ← Channel.load placeholders
  let fillings ← placeholders.mapM (fillingOf settings escape channel)
  return CharReference.decode (fill fillings text)

end Placeholder

end ChatTemplate
