/-
# ChatTemplate.Settings -- how messages are rendered on a channel

The settings of a channel are texts under names, as they stand in a world file.
They are read leniently: a flag has several spellings, a list is separated by
commas, and what is absent or cannot be read counts as its default.
-/
import ChatTemplate.Table
import ChatTemplate.Text.Case
import ChatTemplate.Text.Integer
import ChatTemplate.Text.Search

namespace ChatTemplate

set_option autoImplicit false

/-! ## Reading a text -/

/-- The spellings of a flag, in any case. -/
def readFlag? (text : String) : Option Bool :=
  let word := String.ofList (Text.asciiLower (Text.trim text.toList))
  if ["1", "on", "true", "yes"].contains word then some true
  else if ["0", "off", "false", "no"].contains word then some false
  else none

/-- The entries between commas, without those that are blank. -/
def readList (text : String) : List String :=
  let entries := (Text.splitOn [','] text.toList).map Text.trim
  (entries.filter fun entry => !entry.isEmpty).map String.ofList

/-- The texts of settings under their names. -/
abbrev SettingTable := Table String

namespace SettingTable

def int? (table : SettingTable) (name : String) : Option Int64 :=
  (table.get? name).bind fun text => Text.readInt64? (Text.trim text.toList)

def flag? (table : SettingTable) (name : String) : Option Bool :=
  (table.get? name).bind readFlag?

def list (table : SettingTable) (name : String) : List String :=
  ((table.get? name).map readList).getD []

end SettingTable

/-! ## What rendering needs to know -/

structure Settings where
  /-- Mentions begin with `@`. -/
  showAt : Bool := true
  botName : String := ""
  broadcasterName : String := ""
  /-- Names that are never picked at random. -/
  ignored : List String := []
  /-- The currency in which tips are compared. -/
  mainCurrency : String := "EUR"
  pricesEnabled : Bool := true
  songsEnabled : Bool := true
  /-- How a song is shown; `$song` and `$artist` stand for its parts. -/
  songFormat : String := "$song - $artist"
  version : String := "0.1.0"
  deriving DecidableEq

namespace Settings

def ofTable (table : SettingTable) : Settings :=
  let usual : Settings := {}
  { showAt := (SettingTable.flag? table "show_with_at").getD usual.showAt
    botName := (table.get? "bot_username").getD usual.botName
    broadcasterName := (table.get? "broadcaster_username").getD usual.broadcasterName
    ignored := SettingTable.list table "ignored"
    mainCurrency := (table.get? "main_currency").getD usual.mainCurrency
    pricesEnabled := (SettingTable.flag? table "price_enabled").getD usual.pricesEnabled
    songsEnabled := (SettingTable.flag? table "songs_enabled").getD usual.songsEnabled
    songFormat := (table.get? "spotify_format").getD usual.songFormat
    version := (table.get? "version").getD usual.version }

/-- How a user is addressed. -/
def mention (settings : Settings) (name : String) : String :=
  if settings.showAt then "@" ++ name else name

/-- The bot, the broadcaster and ignored users, in any case. -/
def isExcluded (settings : Settings) (name : String) : Bool :=
  let name := Text.lowerString name
  name == Text.lowerString settings.botName ||
    name == Text.lowerString settings.broadcasterName ||
    settings.ignored.any fun other => Text.lowerString other == name

end Settings

end ChatTemplate
