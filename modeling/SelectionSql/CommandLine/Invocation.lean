import SelectionSql.CommandLine.Options

/-!
# Invocations - What the arguments of the command line ask for

A command is always required, and each command has options of its own.
-/

namespace SelectionSql

/-- How a compiled statement is printed. -/
inductive OutputFormat
  /-- The statement alone. -/
  | sql
  /-- The statement below comments on what it was compiled from. -/
  | verbose
  deriving DecidableEq

namespace OutputFormat

/-- The format with a name. -/
def ofName? (name : String) : Option OutputFormat :=
  if name = "sql" then some .sql else if name = "verbose" then some .verbose else none

end OutputFormat

/-- What the command line is asked for. -/
inductive Invocation
  | version
  | help
  /-- List the levels below a root entity. -/
  | levels (root : String) (metadata : Option String)
  /-- Compile a query against a request. -/
  | compile (request query : String) (metadata : Option String) (format : OutputFormat)
  deriving DecidableEq

namespace Invocation

/-- The option that names the metadata file. -/
def metadataOption : OptionName :=
  ⟨"metadata", some 'm'⟩

/-- The options of `levels`. -/
def levelsOptions : List OptionName :=
  [⟨"root", some 'r'⟩, metadataOption]

/-- The options of `compile`. -/
def compileOptions : List OptionName :=
  [⟨"request", none⟩, ⟨"query", some 'q'⟩, metadataOption, ⟨"output", some 'o'⟩]

/-- The path that an option gives, if it is given. -/
def givenPath (given : List GivenOption) (name : String) : Except UsageFault (Option String) := do
  match ← Options.single? given name with
  | some path => (Options.requirePath name path).map some
  | none => return none

/-- An invocation of `levels`.  What is given is checked even where help is
asked for after it; what is missing is not. -/
def levelsOf (arguments : List String) : Except UsageFault Invocation := do
  let given ← Options.read levelsOptions arguments
  let root? ← Options.single? given "root"
  let metadata ← givenPath given metadataOption.long
  if given.contains .help then return help
  let root ← Options.require "root" root?
  return levels root metadata

/-- The format given by name, or the plain one. -/
def givenFormat (given : List GivenOption) : Except UsageFault OutputFormat := do
  match ← Options.single? given "output" with
  | some name =>
      match OutputFormat.ofName? name with
      | some format => return format
      | none => .error (.invalidValue "output" name)
  | none => return .sql

/-- An invocation of `compile`, checked in the same way. -/
def compileOf (arguments : List String) : Except UsageFault Invocation := do
  let given ← Options.read compileOptions arguments
  let request? ← givenPath given "request"
  let query? ← givenPath given "query"
  let metadata ← givenPath given metadataOption.long
  let format ← givenFormat given
  if given.contains .help then return help
  let request ← Options.require "request" request?
  let query ← Options.require "query" query?
  return compile request query metadata format

/-- The names of the commands. -/
def commandNames : List String :=
  ["levels", "compile", "help"]

/-- An invocation of `help`, for all commands or for one of them. -/
def helpOf : List String → Except UsageFault Invocation
  | [] => .ok help
  | [command] =>
      if commandNames.contains command then .ok help else .error (.unknownCommand command)
  | _ :: argument :: _ => .error (.unexpectedArgument argument)

/-- Whether an argument asks for the version. -/
def asksVersion (argument : String) : Bool :=
  argument = "--version" || "-V".toList.isPrefixOf argument.toList

/-- Whether an argument asks for help. -/
def asksHelp (argument : String) : Bool :=
  argument = "--help" || "-h".toList.isPrefixOf argument.toList

/-- What some arguments ask for. -/
def ofArguments : List String → Except UsageFault Invocation
  | [] => .error .missingCommand
  | command :: arguments =>
      if command = "levels" then levelsOf arguments
      else if command = "compile" then compileOf arguments
      else if command = "help" then helpOf arguments
      else if asksVersion command then .ok version
      else if asksHelp command then .ok help
      else .error (.unknownCommand command)

/-- The files that an invocation names. -/
def paths : Invocation → List String
  | version => []
  | help => []
  | levels _ metadata => metadata.toList
  | compile request query metadata _ => request :: query :: metadata.toList

end Invocation

end SelectionSql
