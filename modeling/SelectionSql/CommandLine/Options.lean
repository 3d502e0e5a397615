import SelectionSql.Text.Cut

/-!
# Options - Reading arguments as options with values

A long option takes its value after an equals sign or as the next argument; a
short one also directly after its letter.  An argument that looks like an option
is never taken as a value.
-/

namespace SelectionSql

/-- Why arguments are refused. -/
inductive UsageFault
  | missingCommand
  | unknownCommand (name : String)
  | unexpectedArgument (argument : String)
  | missingValue (option : String)
  | repeatedOption (option : String)
  | missingOption (option : String)
  | invalidValue (option value : String)
  deriving DecidableEq

namespace UsageFault

/-- The message of a fault. -/
def message : UsageFault → String
  | missingCommand => "a command is required"
  | unknownCommand name => "unrecognized command '" ++ name ++ "'"
  | unexpectedArgument argument => "unexpected argument '" ++ argument ++ "'"
  | missingValue option => "a value is required for '--" ++ option ++ "'"
  | repeatedOption option => "'--" ++ option ++ "' cannot be used multiple times"
  | missingOption option => "'--" ++ option ++ "' is required"
  | invalidValue option value => "invalid value '" ++ value ++ "' for '--" ++ option ++ "'"

end UsageFault

/-- An option of a command. -/
structure OptionName where
  /-- The name after two dashes. -/
  long : String
  /-- The letter after one dash, if there is one. -/
  short : Option Char
  deriving DecidableEq

/-- An option as given, or a request for help. -/
inductive GivenOption
  | value (name value : String)
  | help
  deriving DecidableEq

namespace Options

/-- What a single argument is. -/
inductive Argument
  /-- An option together with its value. -/
  | complete (name value : String)
  /-- An option whose value is the next argument. -/
  | awaiting (name : String)
  | help
  /-- Two dashes, after which no options follow. -/
  | finish
  | other
  deriving DecidableEq

/-- Whether an argument looks like an option. -/
def looksLikeOption (argument : String) : Bool :=
  match argument.toList with
  | '-' :: _ :: _ => true
  | _ => false

/-- What an argument with two dashes is. -/
def longArgument (names : List OptionName) (chars : List Char) : Argument :=
  let (name, value?) :=
    match Text.cutFirst '=' chars with
    | some (name, value) => (String.ofList name, some (String.ofList value))
    | none => (String.ofList chars, none)
  if names.any fun option => option.long = name then
    match value? with
    | some value => .complete name value
    | none => .awaiting name
  else if name = "help" ∧ value? = none then .help
  else .other

/-- What an argument with one dash is. -/
def shortArgument (names : List OptionName) (letter : Char) (rest : List Char) : Argument :=
  match names.find? fun option => option.short = some letter with
  | some option =>
      match rest with
      | [] => .awaiting option.long
      | '=' :: value => .complete option.long (String.ofList value)
      | value => .complete option.long (String.ofList value)
  | none => if letter = 'h' then .help else .other

/-- What an argument is. -/
def classify (names : List OptionName) (argument : String) : Argument :=
  match argument.toList with
  | ['-', '-'] => .finish
  | '-' :: '-' :: chars => longArgument names chars
  | '-' :: letter :: rest => shortArgument names letter rest
  | _ => .other

/-- The options that arguments hold, in order.  A request for help ends the
reading. -/
def read (names : List OptionName) : List String → Except UsageFault (List GivenOption)
  | [] => .ok []
  | argument :: rest =>
      match classify names argument with
      | .complete name value => (read names rest).map (.value name value :: ·)
      | .awaiting name =>
          match rest with
          | value :: rest =>
              if looksLikeOption value then .error (.missingValue name)
              else (read names rest).map (.value name value :: ·)
          | [] => .error (.missingValue name)
      | .help => .ok [.help]
      | .finish =>
          match rest with
          | next :: _ => .error (.unexpectedArgument next)
          | [] => .ok []
      | .other => .error (.unexpectedArgument argument)

/-- The values given for an option. -/
def values (given : List GivenOption) (name : String) : List String :=
  given.filterMap fun
    | .value other value => if other = name then some value else none
    | .help => none

/-- The value of an option that may be given once. -/
def single? (given : List GivenOption) (name : String) : Except UsageFault (Option String) :=
  match values given name with
  | [] => .ok none
  | [value] => .ok (some value)
  | _ => .error (.repeatedOption name)

/-- The value of an option that must be given. -/
def require {α : Type} (name : String) : Option α → Except UsageFault α
  | some value => .ok value
  | none => .error (.missingOption name)

/-- The value of a path, which is never empty. -/
def requirePath (name path : String) : Except UsageFault String :=
  if path = "" then .error (.invalidValue name path) else .ok path

end Options

end SelectionSql
