import SelectionSql.CommandLine.Environment
import SelectionSql.CommandLine.Invocation
import SelectionSql.Document.Query
import SelectionSql.Document.Selection
import SelectionSql.Plan.Statement
import SelectionSql.Schema.Source

/-!
# Running commands - What a command prints and how it ends

A command reads its metadata first, then its request, then its query.  Broken
settings matter only where a command has no metadata file of its own.

What a command logs, at the level that the settings choose, is no part of its outcome: that it
ignores broken settings (`Ignoring configuration: ...`), and where it loads its metadata from
(`Loading metadata from ...`).
-/

namespace SelectionSql

/-! ## Faults and outcomes -/

/-- Why a command fails. -/
inductive CommandFault
  | settings (fault : SettingsFault)
  | metadata (fault : MetadataFault)
  | query (fault : QueryFault)
  | unreadable (path : String) (fault : FileFault)
  /-- A request or a query is no JSON document of the expected shape. -/
  | invalidDocument (path : String)
  | noMetadata
  deriving DecidableEq

namespace CommandFault

/-- The message of a fault. -/
def message : CommandFault → String
  | settings fault => fault.message
  | metadata fault => fault.message
  | query fault => fault.message
  | unreadable path fault => "Error reading file '" ++ path ++ "': " ++ fault.message
  | invalidDocument path => "Error parsing '" ++ path ++ "': unexpected content"
  | noMetadata =>
      "No metadata file given; pass --metadata or set [metadata] path in sqlshape.toml"

end CommandFault

/-- What a command prints and how it ends, apart from what it logs. -/
structure Outcome where
  exitCode : Nat
  output : String := ""
  /-- The warnings that are printed on standard error, which are not logged. -/
  warnings : List String := []
  /-- The error on standard error, if there is one. -/
  error : Option String := none
  deriving DecidableEq

/-! ## Commands -/

namespace Environment

/-- The path of the metadata file: the given one, or else the one in the
settings. -/
def metadataPath (environment : Environment) (given : Option String) :
    Except CommandFault String :=
  match given with
  | some path => .ok path
  | none =>
      match environment.settings with
      | .error fault => .error (.settings fault)
      | .ok settings =>
          match settings.resolvedPath environment.valueOf? with
          | .error fault => .error (.settings fault)
          | .ok none => .error .noMetadata
          | .ok (some path) => .ok path

/-- The catalog of a command. -/
def catalog (environment : Environment) (given : Option String) :
    Except CommandFault Catalog := do
  let path ← environment.metadataPath given
  (Catalog.ofFile environment.files path).mapError .metadata

/-- The value that the JSON document in a file stands for. -/
def readDocument {α : Type} (environment : Environment) (ofDocument? : Document → Option α)
    (path : String) : Except CommandFault α :=
  match environment.files path with
  | .error fault => .error (.unreadable path fault)
  | .ok text =>
      match (Json.read text).bind ofDocument? with
      | some value => .ok value
      | none => .error (.invalidDocument path)

end Environment

/-- A text with spaces behind it, up to a width. -/
def padded (width : Nat) (text : String) : String :=
  text ++ String.ofList (List.replicate (width - text.length) ' ')

/-- The line of a level in a listing. -/
def levelLine (level : Level) (entity : String) : String :=
  "  " ++ padded 32 level ++ " " ++ entity ++ "\n"

/-- The listing of the levels below a root entity. -/
def levelListing (root : String) (map : LevelMap) : String :=
  "Graph levels for " ++ root ++ ":\n" ++
    String.join (map.entries.map fun entry => levelLine entry.1 entry.2)

/-- The printed form of a compiled statement. -/
def statementListing (format : OutputFormat) (request query : String) (selection : Selection)
    (sql : String) : String :=
  match format with
  | .sql => sql ++ "\n"
  | .verbose =>
      "-- sqlshape compiled SQL\n-- Request: " ++ request ++ "\n-- Query: " ++ query ++
        "\n-- Root entity: " ++ selection.rootEntity ++ "\n\n" ++
        (if sql = "" then "-- (no columns selected)" else sql) ++ "\n"

/-- The version of the program. -/
def versionText : String := "sqlshape 0.1.0\n"

/-- A short account of the commands. -/
def helpText : String :=
  "Usage:\n  sqlshape levels --root <ENTITY> [--metadata <FILE>]\n" ++
    "  sqlshape compile --request <FILE> --query <FILE> [--metadata <FILE>] " ++
    "[--output <sql|verbose>]\n"

/-- What `levels` prints. -/
def runLevels (environment : Environment) (root : String) (metadata : Option String) :
    Except CommandFault String := do
  let catalog ← environment.catalog metadata
  let map ← (catalog.rootMap root).mapError .metadata
  return levelListing root map

/-- What `compile` prints. -/
def runCompile (environment : Environment) (request query : String) (metadata : Option String)
    (format : OutputFormat) : Except CommandFault String := do
  let catalog ← environment.catalog metadata
  let selection ← environment.readDocument Selection.ofDocument? request
  let spec ← environment.readDocument QuerySpec.ofDocument? query
  let sql ← (spec.compile catalog.metadata selection).mapError .query
  return statementListing format request query selection sql

/-- The warnings that are printed about settings: a log level that is none is replaced.  That
broken settings are ignored is logged, not printed. -/
def settingsWarnings (settings : Except SettingsFault Settings) : List String :=
  match settings with
  | .error _ => []
  | .ok settings =>
      match settings.level with
      | .ok _ => []
      | .error fault => ["Warning: " ++ fault.message ++ "; using warn"]

/-- The outcome of a command, given its warnings and what it prints. -/
def outcomeOf (warnings : List String) (printed : Except CommandFault String) : Outcome :=
  match printed with
  | .ok output => { exitCode := 0, output := output, warnings := warnings }
  | .error fault =>
      { exitCode := 1, warnings := warnings, error := some ("Error: " ++ fault.message) }

/-- The outcome of an invocation. -/
def Invocation.run (environment : Environment) : Invocation → Outcome
  | .version => { exitCode := 0, output := versionText }
  | .help => { exitCode := 0, output := helpText }
  | .levels root metadata =>
      outcomeOf (settingsWarnings environment.settings) (runLevels environment root metadata)
  | .compile request query metadata format =>
      outcomeOf (settingsWarnings environment.settings)
        (runCompile environment request query metadata format)

/-- The outcome of a command line. -/
def runArguments (environment : Environment) (arguments : List String) : Outcome :=
  match Invocation.ofArguments arguments with
  | .ok invocation => invocation.run environment
  | .error fault => { exitCode := 2, error := some ("error: " ++ fault.message) }

end SelectionSql
