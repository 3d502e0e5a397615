import SelectionSql.Text.Cut

/-!
# Files - Reading texts by path

A file system answers every path with the text of a file or with the reason why
there is none.  A path is a run of steps between slashes, from the root directory
if it begins with one.
-/

namespace SelectionSql

/-- Why a file cannot be read. -/
inductive FileFault
  | missing
  | directory
  /-- A step of the path leads through a file. -/
  | notDirectory
  /-- The path or one of its steps is too long. -/
  | nameTooLong
  /-- The path holds the character that ends paths. -/
  | strayTerminator
  /-- A directory on the path may not be searched. -/
  | unsearchable
  /-- There is a file that may not be read. -/
  | forbidden
  /-- There is a file whose bytes are no text. -/
  | noText
  deriving DecidableEq

namespace FileFault

/-- The message of a fault, as the operating system words it. -/
def message : FileFault → String
  | missing => "No such file or directory (os error 2)"
  | directory => "Is a directory (os error 21)"
  | notDirectory => "Not a directory (os error 20)"
  | nameTooLong => "File name too long (os error 36)"
  | strayTerminator => "file name contained an unexpected NUL byte"
  | unsearchable => "Permission denied (os error 13)"
  | forbidden => "Permission denied (os error 13)"
  | noText => "stream did not contain valid UTF-8"

/-- Whether something stands at the path that cannot be read. -/
def standsThere : FileFault → Bool
  | directory => true
  | forbidden => true
  | noText => true
  | _ => false

end FileFault

/-- A file system: the text behind each path. -/
abbrev Files := String → Except FileFault String

namespace Files

/-- Whether a path leads to a file or a directory. -/
def present (files : Files) (path : String) : Bool :=
  match files path with
  | .ok _ => true
  | .error fault => fault.standsThere

/-! ## Paths -/

/-- The greatest number of bytes of a path. -/
def pathLimit : Nat := 4095

/-- The greatest number of bytes of a step of a path. -/
def stepLimit : Nat := 255

/-- What is wrong with a path wherever it leads. -/
def pathFault? (path : String) : Option FileFault :=
  if path.toList.contains '\x00' then some .strayTerminator
  else if path = "" then some .missing
  else if pathLimit < path.utf8ByteSize then some .nameTooLong
  else none

/-- The names of the steps of a path. -/
def steps (path : String) : List String :=
  ((Text.pieces '/' path.toList).map String.ofList).filter fun step => step ≠ "" ∧ step ≠ "."

/-- Whether a path begins at the root directory. -/
def isAbsolute (path : String) : Bool :=
  path.toList.head? = some '/'

/-- Whether a path can lead to a directory only. -/
def endsAtDirectory (path : String) : Bool :=
  match (Text.pieces '/' path.toList).getLast? with
  | some [] => true
  | some ['.'] => true
  | _ => false

end Files

end SelectionSql
