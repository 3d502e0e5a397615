import SelectionSql.Document.Toml.Quoted
import SelectionSql.Document.Toml.Scalar
import SelectionSql.Document.Toml.Table

/-!
# Reading TOML - From text to documents

A text is a run of assignments, then sections of a header and its assignments.
Each assignment and each header takes a line of its own, while arrays and inline
tables may go over several lines and may end in a comma.  The steps of a key and
the levels of a value are limited in number.
-/

namespace SelectionSql.Toml

/-! ## Keys -/

/-- Whether a character may stand in a key without quotes. -/
def isBareChar (c : Char) : Bool :=
  c.isAlphanum || c = '_' || c = '-'

/-- One step of a key. -/
def keyStep (chars : List Char) : Option (String × List Char) :=
  match chars with
  | '"' :: rest => (basicString rest).map fun read => (String.ofList read.1, read.2)
  | '\'' :: rest => (literalString rest).map fun read => (String.ofList read.1, read.2)
  | _ =>
      let step := chars.takeWhile isBareChar
      if step.isEmpty then none
      else some (String.ofList step, chars.dropWhile isBareChar)

/-- The greatest number of steps of a key. -/
def keyLimit : Nat := 80

/-- A key of one or more steps, at most as many as given, and the text after it,
from which space is skipped. -/
def keySteps : Nat → List Char → Option (List String × List Char)
  | 0, _ => none
  | limit + 1, chars => do
      let (step, rest) ← keyStep (skipSpace chars)
      match skipSpace rest with
      | '.' :: rest => (keySteps limit rest).map fun read => (step :: read.1, read.2)
      | rest => some ([step], rest)

/-- A key at the head of a text. -/
def key (chars : List Char) : Option (List String × List Char) :=
  keySteps keyLimit chars

/-- The key of an assignment and the text after the equals sign, where both may
be followed by a gap. -/
def assignedKey (skipGap : List Char → Option (List Char)) (chars : List Char) :
    Option (List String × List Char) := do
  let (steps, rest) ← key chars
  match ← skipGap rest with
  | '=' :: rest => (skipGap rest).map fun rest => (steps, rest)
  | _ => none

/-! ## Values -/

/-- The greatest number of arrays and inline tables inside each other. -/
def depthLimit : Nat := 80

mutual

/-- A value at the head of a text, with at most as many arrays and inline tables
inside each other as given.  Every call costs fuel. -/
def value (depth : Nat) : Nat → List Char → Option (Document × List Char)
  | 0, _ => none
  | _ + 1, [] => none
  | fuel + 1, c :: rest =>
      if c = '[' then
        match depth with
        | 0 => none
        | depth + 1 => (items depth fuel rest).map fun read => (.list read.1, read.2)
      else if c = '\x7b' then
        match depth with
        | 0 => none
        | depth + 1 => do
            let (assignments, rest) ← inlineAssignments depth fuel rest
            let table ← assignAll assignments []
            return (Table.document table, rest)
      else if c = '"' ∨ c = '\'' then
        (quotedString (c :: rest)).map fun read => (.text (String.ofList read.1), read.2)
      else scalar (c :: rest)

/-- The items of an array up to its closing bracket. -/
def items (depth : Nat) : Nat → List Char → Option (List Document × List Char)
  | 0, _ => none
  | fuel + 1, chars => do
      match ← skipLines false chars with
      | ']' :: rest => some ([], rest)
      | chars =>
          let (item, rest) ← value depth fuel chars
          match ← skipLines false rest with
          | ',' :: rest => (items depth fuel rest).map fun read => (item :: read.1, read.2)
          | ']' :: rest => some ([item], rest)
          | _ => none

/-- The assignments of an inline table up to its closing brace. -/
def inlineAssignments (depth : Nat) : Nat → List Char → Option (List Assignment × List Char)
  | 0, _ => none
  | fuel + 1, chars => do
      match ← skipLines false chars with
      | '\x7d' :: rest => some ([], rest)
      | chars =>
          let (steps, rest) ← assignedKey (skipLines false) chars
          let (item, rest) ← value depth fuel rest
          match ← skipLines false rest with
          | ',' :: rest =>
              (inlineAssignments depth fuel rest).map fun read => (⟨steps, item⟩ :: read.1, read.2)
          | '\x7d' :: rest => some ([⟨steps, item⟩], rest)
          | _ => none

end

/-! ## Lines -/

/-- The assignments up to the next header, with the text from there on. -/
def assignments : Nat → List Char → Option (List Assignment × List Char)
  | 0, _ => none
  | fuel + 1, chars => do
      match ← skipLines false chars with
      | [] => some ([], [])
      | '[' :: rest => some ([], '[' :: rest)
      | chars =>
          let (steps, rest) ← assignedKey (fun rest => some (skipSpace rest)) chars
          let (item, rest) ← value depthLimit (2 * rest.length + 2) rest
          let rest ← endLine false rest
          (assignments fuel rest).map fun read => (⟨steps, item⟩ :: read.1, read.2)

/-- A header: what it names, its key, and the text after its line. -/
def header (chars : List Char) : Option (Heading × List String × List Char) :=
  match chars with
  | '[' :: '[' :: rest => do
      let (steps, rest) ← key rest
      match rest with
      | ']' :: ']' :: rest => (endLine false rest).map fun rest => (.row, steps, rest)
      | _ => none
  | '[' :: rest => do
      let (steps, rest) ← key rest
      match rest with
      | ']' :: rest => (endLine false rest).map fun rest => (.table, steps, rest)
      | _ => none
  | _ => none

/-- The sections of a text that begins with a header or is at its end. -/
def sections : Nat → List Char → Option (List Section)
  | 0, _ => none
  | _ + 1, [] => some []
  | fuel + 1, chars => do
      let (heading, steps, rest) ← header chars
      let last ← steps.getLast?
      let (below, rest) ← assignments (rest.length + 1) rest
      let others ← sections fuel rest
      return ⟨heading, steps.dropLast, last, below⟩ :: others

/-- The leading assignments and the sections of a text, which may begin with a
byte order mark. -/
def parts (text : String) : Option (List Assignment × List Section) := do
  let chars :=
    match text.toList with
    | '\ufeff' :: rest => rest
    | chars => chars
  let (leading, rest) ← assignments (chars.length + 1) chars
  let others ← sections (rest.length + 1) rest
  return (leading, others)

/-- The document that a TOML text holds. -/
def read (text : String) : Option Document := do
  let (leading, others) ← parts text
  let table ← assignAll leading []
  let table ← others.foldlM addSection table
  return Table.document table

end SelectionSql.Toml
