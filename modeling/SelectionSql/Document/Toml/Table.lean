import SelectionSql.Document

/-!
# TOML tables - What headers and keys may add to

Tables come about by a header, as a step on the way to one, or by a dotted key.
A header may complete a table that was only a step so far; apart from that every
table is defined once and every key assigned once.
-/

namespace SelectionSql.Toml

/-- How a table came about. -/
inductive Origin
  | header
  /-- As a step on the way to the table of a header. -/
  | step
  | dotted
  deriving DecidableEq

/-- What stands under a key. -/
inductive Node
  /-- A value, which can no longer be added to. -/
  | value (document : Document)
  | table (origin : Origin) (entries : List (String × Node))
  /-- The rows of a table, of which the last can still be added to. -/
  | rows (closed : List Document) (last : List (String × Node))

/-- The nodes of a table under their keys. -/
abbrev Table := List (String × Node)

/-! ## Documents of tables -/

mutual

/-- The document of a node. -/
def Node.document : Node → Document
  | .value document => document
  | .table _ entries => .record (entryDocuments entries)
  | .rows closed last => .list (closed ++ [.record (entryDocuments last)])

/-- The documents of the nodes of a table. -/
def entryDocuments : List (String × Node) → List (String × Document)
  | [] => []
  | (key, node) :: entries => (key, node.document) :: entryDocuments entries

end

/-- The document of a table. -/
def Table.document (table : Table) : Document :=
  .record (entryDocuments table)

/-! ## Adding to tables -/

/-- The table after the node under a key, which may be missing, is replaced. -/
def alter (change : Option Node → Option Node) (key : String) : Table → Option Table
  | [] => (change none).map fun node => [(key, node)]
  | (other, node) :: table =>
      if other = key then (change (some node)).map fun node => (other, node) :: table
      else (alter change key table).map ((other, node) :: ·)

/-- Assign a value to a key, given as its steps. -/
def assign (document : Document) : List String → Table → Option Table
  | [] => fun _ => none
  | [key] =>
      alter (fun
        | none => some (.value document)
        | some _ => none) key
  | key :: next :: path =>
      alter (fun
        | none => (assign document (next :: path) []).map (.table .dotted)
        | some (.table .dotted table) =>
            (assign document (next :: path) table).map (.table .dotted)
        | some (.table .step table) =>
            if path.isEmpty then none
            else (assign document (next :: path) table).map (.table .step)
        | some (.rows closed last) =>
            if path.isEmpty then none
            else (assign document (next :: path) last).map (.rows closed)
        | some _ => none) key

/-- A key and the value assigned to it. -/
structure Assignment where
  key : List String
  value : Document

/-- Assign several values in order. -/
def assignAll (assignments : List Assignment) (table : Table) : Option Table :=
  assignments.foldlM (fun table assignment => assign assignment.value assignment.key table) table

/-- Change the table at a path of headers. -/
def descend (change : Table → Option Table) : List String → Table → Option Table
  | [], table => change table
  | key :: path, table =>
      alter (fun
        | none => (descend change path []).map (.table .step)
        | some (.table origin entries) => (descend change path entries).map (.table origin)
        | some (.rows closed last) => (descend change path last).map (.rows closed)
        | some (.value _) => none) key table

/-- What a header names. -/
inductive Heading
  | table
  | row
  deriving DecidableEq

/-- A header with the assignments below it. -/
structure Section where
  heading : Heading
  /-- The steps of its key before the last. -/
  path : List String
  /-- The last step of its key. -/
  key : String
  assignments : List Assignment

/-- The node under the key of a section once the section is added. -/
def Section.node? (part : Section) (old : Option Node) : Option Node :=
  match part.heading, old with
  | .table, none => (assignAll part.assignments []).map (.table .header)
  | .table, some (.table .step entries) =>
      (assignAll part.assignments entries).map (.table .header)
  | .row, none => (assignAll part.assignments []).map (.rows [])
  | .row, some (.rows closed last) =>
      (assignAll part.assignments []).map (.rows (closed ++ [Table.document last]))
  | _, _ => none

/-- Add a section to a table. -/
def addSection (table : Table) (part : Section) : Option Table :=
  descend (alter part.node? part.key) part.path table

end SelectionSql.Toml
