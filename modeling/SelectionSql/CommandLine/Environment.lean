import SelectionSql.Settings

/-!
# Environments - Where a command runs

Settings come from the first of three places: the file that a variable names, a
file in the working directory, and a file in the configuration directory of the
user.  A named file must be there; the others may be missing.
-/

namespace SelectionSql

/-- Where a command runs. -/
structure Environment where
  files : Files
  valueOf? : String → Option String

namespace Environment

/-- The variable that names a configuration file. -/
def settingsVariable : String := "SQLSHAPE_CONFIG"

/-- The configuration file of the working directory. -/
def localSettings : String := "sqlshape.toml"

/-- The variable that names the configuration directory of the user. -/
def userDirectoryVariable : String := "XDG_CONFIG_HOME"

/-- The variable that names the home directory of the user. -/
def homeVariable : String := "HOME"

/-- The configuration directory of the user: an absolute one that a variable
names, or else one in the home directory. -/
def userDirectory (environment : Environment) : Option String :=
  match (environment.valueOf? userDirectoryVariable).filter Files.isAbsolute with
  | some directory => some directory
  | none =>
      ((environment.valueOf? homeVariable).filter (· ≠ "")).map fun home => home ++ "/.config"

/-- The configuration file below the configuration directory of the user. -/
def userSettings (environment : Environment) : Option String :=
  environment.userDirectory.map fun directory => directory ++ "/sqlshape/config.toml"

/-- The settings in a file, which must be there. -/
def settingsAt (environment : Environment) (path : String) : Except SettingsFault Settings :=
  match environment.files path with
  | .ok text => Settings.ofToml text
  | .error fault => .error (if fault.standsThere then .unreadable fault else .missingFile path)

/-- The path that the settings are read from, if there is one. -/
def settingsPath? (environment : Environment) : Option String :=
  match environment.valueOf? settingsVariable with
  | some path => some path
  | none =>
      if environment.files.present localSettings then some localSettings
      else environment.userSettings.filter environment.files.present

/-- The settings of a command. -/
def settings (environment : Environment) : Except SettingsFault Settings :=
  match environment.settingsPath? with
  | some path => environment.settingsAt path
  | none => .ok {}

end Environment

end SelectionSql
