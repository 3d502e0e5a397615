import SelectionSql.Document.Shape
import SelectionSql.Document.Toml.Reader
import SelectionSql.Settings.Expansion
import SelectionSql.Settings.LogLevel

/-!
# Settings - The configuration of the command line

A settings file has a section for metadata and a section for logging.  What it leaves out takes
the default.
-/

namespace SelectionSql

/-- The configuration of the command line. -/
structure Settings where
  /-- The path of the metadata file, in which variables may be named. -/
  metadataPath : Option String := none
  logLevel : String := "warn"
  deriving DecidableEq

namespace Settings

/-- The metadata path that a document of its section stands for. -/
def pathOfDocument? (document : Document) : Option (Option String) := do
  let parts ← document.parts? .tabular ["path"]
  parts.optional "path" Document.text?

/-- The log level that a document of its section stands for. -/
def levelOfDocument? (document : Document) : Option String := do
  let parts ← document.parts? .tabular ["level"]
  parts.orDefault "level" "warn" Document.text?

/-- The settings that a document stands for. -/
def ofDocument? (document : Document) : Option Settings := do
  let parts ← document.parts? .tabular ["metadata", "logging"]
  let metadataPath ← parts.orDefault "metadata" none pathOfDocument?
  let logLevel ← parts.orDefault "logging" "warn" levelOfDocument?
  return ⟨metadataPath, logLevel⟩

/-- Settings as a document. -/
def toDocument (settings : Settings) : Document :=
  .record [("metadata", .record [("path", Document.ofOption settings.metadataPath)]),
    ("logging", .record [("level", .text settings.logLevel)])]

/-- The settings in a TOML text. -/
def ofToml (text : String) : Except SettingsFault Settings :=
  match (Toml.read text).bind ofDocument? with
  | some settings => .ok settings
  | none => .error .invalidToml

/-- The metadata path with its variables expanded. -/
def resolvedPath (valueOf? : String → Option String) (settings : Settings) :
    Except SettingsFault (Option String) :=
  match settings.metadataPath with
  | some path => (expandVariables valueOf? path).map some
  | none => .ok none

/-- The log level. -/
def level (settings : Settings) : Except SettingsFault LogLevel :=
  LogLevel.parse settings.logLevel

end Settings

end SelectionSql
