import SelectionSql.Files

/-!
# Settings faults - Why a configuration is refused
-/

namespace SelectionSql

/-- Why a configuration is refused. -/
inductive SettingsFault
  /-- There is no file at a path that was asked for. -/
  | missingFile (path : String)
  | unreadable (fault : FileFault)
  /-- The text is no TOML document of the expected shape. -/
  | invalidToml
  /-- A variable is named that is not set. -/
  | missingVariable (name : String)
  /-- A level is given that is none of the known ones. -/
  | invalidLogLevel (level : String)
  deriving DecidableEq

namespace SettingsFault

/-- The message of a fault. -/
def message : SettingsFault → String
  | missingFile path => "Config file not found: " ++ path
  | unreadable fault => "Failed to read config file: " ++ fault.message
  | invalidToml => "Failed to parse config file:"
  | missingVariable name => "Missing environment variable: " ++ name
  | invalidLogLevel level => "Invalid log level: " ++ level

end SettingsFault

end SelectionSql
