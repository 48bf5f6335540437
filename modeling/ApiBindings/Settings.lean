import ApiBindings.Definition.OfSection
import ApiBindings.Log.Record
import ApiBindings.Reference.Scan
/-!
# Settings

Everything that a run of the library can be told: how the page is read, which aliases and unions
it does not state itself, how names are written in the generated modules, and where files are. The
defaults describe the reference page of the Telegram Bot API. Beside it stands what no one tells it
and what can end a run: how much room there is for calls within one another.
-/

namespace ApiBindings

/-! ## Defaults -/

/-- Phrases of several words that stand for a union of their own. -/
def pageAliases : List (String × String) := [
  ("InlineKeyboardMarkup or ReplyKeyboardMarkup or ReplyKeyboardRemove or ForceReply",
    "ReplyMarkup"),
  ("Integer or String", "ChatId"),
  ("InputFile or String", "FileOrPath")]

/-- The unions that those phrases stand for. -/
def pageUnions : List SyntheticUnion := [
  ⟨"ReplyMarkup",
    ["InlineKeyboardMarkup", "ReplyKeyboardMarkup", "ReplyKeyboardRemove", "ForceReply"]⟩,
  ⟨"ChatId", ["Int", "String"]⟩,
  ⟨"FileOrPath", ["InputFile", "String"]⟩]

/-- The written forms of the plain scalars. -/
def plainScalars : List (String × String) :=
  [("Int", "int"), ("Float", "float"), ("Bool", "bool"), ("String", "str")]

/-- How deep calls can be nested within one another: what the stack has left for the reader of
phrases, and for the writer of types. -/
structure Room where
  reading : Nat := 980
  writing : Nat := 980
  deriving Repr

/-- What a run is told, and the room that it has. -/
structure Settings where
  headingTag : String := "h4"
  base : Option String := none
  aliases : List (String × String) := TypeExpr.baseAliases ++ pageAliases
  unions : List SyntheticUnion := pageUnions
  scalars : List (String × String) := plainScalars
  bases : List (String × String) := []
  namespaceName : String := "TelegramAPI"
  fastInitialization : Bool := true
  typesModule : String := "models"
  operationsModule : String := "api"
  source : String := "TelegramBotAPI.html"
  outputDir : String := "generated"
  logLevel : Int := Log.warning
  room : Room := {}
  deriving Repr

/-- Settings for a page about which nothing is known. -/
def Settings.plain : Settings := { aliases := TypeExpr.baseAliases, unions := [] }

/-- The file of the types module. -/
def Settings.typesFile (s : Settings) : String := s.typesModule ++ ".py"

/-- The file of the operations module. -/
def Settings.operationsFile (s : Settings) : String := s.operationsModule ++ ".py"

/-- How the page is read. -/
def Settings.options (s : Settings) : Reference.Options :=
  { headingTag := s.headingTag, base := s.base, aliases := s.aliases, depth := s.room.reading }

/-! ## The environment -/

/-- A letter of a level's name in upper case. -/
def levelLetter (c : Char) : Char :=
  if 'a' ≤ c && c ≤ 'z' then Char.ofNat (c.toNat - 32)
  else if c == 'ı' then 'I'
  else if c == 'ſ' then 'S'
  else c

/-- The level of a name in any case; a name that is not known is that of warnings. -/
def levelNamed (name : String) : Int :=
  let upper := String.ofList (name.toList.map levelLetter)
  if upper = "CRITICAL" || upper = "FATAL" then Log.critical
  else if upper = "ERROR" then Log.error
  else if upper = "INFO" then Log.info
  else if upper = "DEBUG" then Log.debug
  else if upper = "NOTSET" then 0
  else Log.warning

/-- A variable of the environment; an empty one is not set. -/
def environmentValue? (env : List (String × String)) (name : String) : Option String :=
  (env.lookup name).filter (!·.isEmpty)

/-- The default settings with what the environment says. -/
def Settings.ofEnvironment (env : List (String × String)) : Settings :=
  let s : Settings := {}
  { s with
    source := (environmentValue? env "APIDOC_SOURCE").getD s.source
    outputDir := (environmentValue? env "APIDOC_OUTPUT_DIR").getD s.outputDir
    base := environmentValue? env "APIDOC_BASE_URL"
    logLevel := ((environmentValue? env "APIDOC_LOG_LEVEL").map levelNamed).getD s.logLevel }

end ApiBindings
