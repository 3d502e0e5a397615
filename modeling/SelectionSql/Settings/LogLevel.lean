import SelectionSql.Settings.Fault
import SelectionSql.Text.Blank

/-!
# Log levels - How much is logged

A level is read by its name, whatever the case of its letters.
-/

namespace SelectionSql

/-- How much is logged. -/
inductive LogLevel
  | off
  | error
  | warn
  | info
  | debug
  | trace
  deriving DecidableEq

namespace LogLevel

/-- All levels. -/
def alternatives : List LogLevel :=
  [off, error, warn, info, debug, trace]

/-- The name of a level. -/
def name : LogLevel → String
  | off => "OFF"
  | error => "ERROR"
  | warn => "WARN"
  | info => "INFO"
  | debug => "DEBUG"
  | trace => "TRACE"

/-- The level with a name, in any case of its ASCII letters and with any white
space around it. -/
def parse (text : String) : Except SettingsFault LogLevel :=
  let letters := (Text.trim text).toList.map Char.toUpper
  match alternatives.find? fun level => level.name.toList = letters with
  | some level => .ok level
  | none => .error (.invalidLogLevel text)

end LogLevel

end SelectionSql
