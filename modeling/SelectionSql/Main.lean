import SelectionSql.CommandLine.Run

/-!
# The command line - Reading the world around a command

Files and variables are read once, as far as a command may ask for them; what
follows from them is decided elsewhere.
-/

namespace SelectionSql

/-- The fault behind an error code of the operating system, which comes with
either sign. -/
def faultOfCode (code : UInt32) : FileFault :=
  let is (number : UInt32) : Bool := code = number || code + number = 0
  if is 20 then .notDirectory
  else if is 21 then .directory
  else if is 36 then .nameTooLong
  else .missing

/-- The fault behind a refusal of the operating system: a path can be followed to a
file that may not be read, but not through a directory that may not be searched. -/
def faultOfRefusal (path : String) : IO FileFault := do
  try
    let _ ← IO.FS.realPath path
    return .forbidden
  catch _ => return .unsearchable

/-- The text of a file, or why it cannot be read. -/
def readText (path : String) : IO (Except FileFault String) := do
  match Files.pathFault? path with
  | some fault => return .error fault
  | none =>
      try
        return .ok (← IO.FS.readFile path)
      catch fault =>
        match fault with
        | .inappropriateType _ code _ => return .error (faultOfCode code)
        | .invalidArgument _ code _ => return .error (faultOfCode code)
        | .permissionDenied _ _ _ => return .error (← faultOfRefusal path)
        -- the bytes have been read by then
        | .userError _ => return .error .noText
        | _ => return .error .missing

/-- The files at some paths; all others count as missing. -/
def readFiles (paths : List String) : IO Files := do
  let texts ← paths.mapM fun path => return (path, ← readText path)
  return fun path =>
    match texts.find? fun entry => entry.1 = path with
    | some (_, text) => text
    | none => .error .missing

/-- The variables with some names; all others count as unset. -/
def readVariables (names : List String) : IO (String → Option String) := do
  let values ← names.mapM fun name => return (name, ← IO.getEnv name)
  return fun name => (values.find? fun entry => entry.1 = name).bind Prod.snd

/-- The variables that say where settings are. -/
def settingsVariables : List String :=
  [Environment.settingsVariable, Environment.userDirectoryVariable, Environment.homeVariable]

/-- The environment of a command, as far as the command may ask about it. -/
def readEnvironment (invocation : Invocation) : IO Environment := do
  let valueOf? ← readVariables settingsVariables
  let named := (valueOf? Environment.settingsVariable).toList
  let bare : Environment := ⟨fun _ => .error .missing, valueOf?⟩
  let settingsPaths := named ++ Environment.localSettings :: bare.userSettings.toList
  let files ← readFiles settingsPaths
  let configured : Environment := { bare with files := files }
  let template := configured.settings.toOption.bind Settings.metadataPath
  let valueOf? ← readVariables (settingsVariables ++ namedVariables (template.getD ""))
  let expanded : Environment := { configured with valueOf? := valueOf? }
  let metadataPaths := (expanded.metadataPath none).toOption.toList
  let files ← readFiles (settingsPaths ++ metadataPaths ++ invocation.paths)
  return { expanded with files := files }

end SelectionSql

open SelectionSql in
/-- Run a command line and end with its exit code. -/
def main (arguments : List String) : IO UInt32 := do
  let environment ←
    match Invocation.ofArguments arguments with
    | .ok invocation => readEnvironment invocation
    | .error _ => pure ⟨fun _ => .error .missing, fun _ => none⟩
  let outcome := runArguments environment arguments
  for warning in outcome.warnings do
    IO.eprintln warning
  IO.print outcome.output
  for fault in outcome.error.toList do
    IO.eprintln fault
  return outcome.exitCode.toUInt32
