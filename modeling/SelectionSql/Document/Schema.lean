import SelectionSql.Document.Shape
import SelectionSql.Schema.Entity

/-!
# Schema documents - Entity definitions and lookup tables as documents

Definitions are read and written, lookup tables are only written.
-/

namespace SelectionSql

namespace JoinColumns

/-- The pair of columns that a document stands for. -/
def ofDocument? (reading : Reading) (document : Document) : Option JoinColumns := do
  let parts ← document.parts? reading ["parent", "child"]
  let parent ← parts.required "parent" Document.text?
  let child ← parts.required "child" Document.text?
  return ⟨parent, child⟩

/-- A pair of columns as a document. -/
def toDocument (columns : JoinColumns) : Document :=
  .record [("parent", .text columns.parent), ("child", .text columns.child)]

/-- A pair of columns as a list. -/
def toPair (columns : JoinColumns) : Document :=
  .list [.text columns.parent, .text columns.child]

end JoinColumns

namespace FieldDef

/-- The field that a document stands for. -/
def ofDocument? (reading : Reading) (document : Document) : Option FieldDef := do
  let parts ← document.parts? reading ["name", "column", "key", "join_eager"]
  let name ← parts.required "name" Document.text?
  let column ← parts.required "column" Document.text?
  let key ← parts.orDefault "key" false Document.bool?
  let joinEager ← parts.orDefault "join_eager" false Document.bool?
  return ⟨name, column, key, joinEager⟩

/-- A field as a document. -/
def toDocument (field : FieldDef) : Document :=
  .record [("name", .text field.name), ("column", .text field.column),
    ("key", .bool field.key), ("join_eager", .bool field.joinEager)]

end FieldDef

namespace ReferenceDef

/-- The reference that a document stands for. -/
def ofDocument? (reading : Reading) (document : Document) : Option ReferenceDef := do
  let parts ← document.parts? reading ["name", "entity", "join_columns"]
  let name ← parts.required "name" Document.text?
  let target ← parts.required "entity" Document.text?
  let joinColumns ←
    parts.orDefault "join_columns" [] (Document.listOf? (JoinColumns.ofDocument? reading))
  return ⟨name, target, joinColumns⟩

/-- A reference as a document. -/
def toDocument (reference : ReferenceDef) : Document :=
  .record [("name", .text reference.name), ("entity", .text reference.target),
    ("join_columns", .list (reference.joinColumns.map JoinColumns.toDocument))]

end ReferenceDef

namespace EntityDef

/-- The definition that a document stands for. -/
def ofDocument? (reading : Reading) (document : Document) : Option EntityDef := do
  let parts ← document.parts? reading ["name", "table", "root", "fields", "references", "api_names"]
  let name ← parts.required "name" Document.text?
  let table ← parts.required "table" Document.text?
  let root ← parts.orDefault "root" false Document.bool?
  let fields ← parts.orDefault "fields" [] (Document.listOf? (FieldDef.ofDocument? reading))
  let references ←
    parts.orDefault "references" [] (Document.listOf? (ReferenceDef.ofDocument? reading))
  let apiNames ← parts.orDefault "api_names" SortedMap.empty (Document.mapOf? Document.text?)
  return ⟨name, table, root, fields, references, apiNames⟩

/-- The fields of a definition, written in order. -/
def members (entity : EntityDef) : List (String × Document) :=
  [("name", .text entity.name), ("table", .text entity.table), ("root", .bool entity.root),
    ("fields", .list (entity.fields.map FieldDef.toDocument)),
    ("references", .list (entity.references.map ReferenceDef.toDocument)),
    ("api_names", Document.ofMap .text entity.apiNames)]

/-- A definition as a document. -/
def toDocument (entity : EntityDef) : Document :=
  .record entity.members

/-- The definitions that the document of a metadata file holds. -/
def listOfDocument? (reading : Reading) (document : Document) : Option (List EntityDef) := do
  let parts ← document.parts? reading ["entities"]
  parts.orDefault "entities" [] (Document.listOf? (ofDocument? reading))

end EntityDef

namespace Entity

/-- The lookup tables of an entity as a document. -/
def toDocument (entity : Entity) : Document :=
  .record [("name", .text entity.name), ("table", .text entity.table),
    ("field_to_column", Document.ofMap .text entity.index.columnOf),
    ("column_to_field", Document.ofMap .text entity.index.fieldOf),
    ("key_fields", .list (entity.keyFields.map .text)),
    ("join_key_fields", .list (entity.joinKeyFields.map .text)),
    ("join_columns",
      Document.ofMap (fun columns => .list (columns.map JoinColumns.toPair)) entity.joinColumns),
    ("api_names", Document.ofMap .text entity.apiNames)]

end Entity

end SelectionSql
