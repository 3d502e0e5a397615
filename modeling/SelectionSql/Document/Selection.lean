import SelectionSql.Document.Shape
import SelectionSql.Selection

/-!
# Selection documents - Selections as documents

A document gives the maps of a selection as they are; nothing is filled in.
-/

namespace SelectionSql

namespace FieldMap

/-- The requested fields that a document stands for. -/
def ofDocument? : Document → Option FieldMap :=
  Document.mapOf? Document.setOf?

/-- Requested fields as a document. -/
def toDocument : FieldMap → Document :=
  Document.ofMap Document.ofSet

end FieldMap

namespace Selection

/-- The selection that a document stands for. -/
def ofDocument? (document : Document) : Option Selection := do
  let parts ← document.parts? .streamed ["root_entity", "root_key", "entity_map", "field_map"]
  let rootEntity ← parts.required "root_entity" Document.text?
  let rootKey ← parts.orDefault "root_key" Level.root Document.text?
  let entities ← parts.orDefault "entity_map" SortedMap.empty (Document.mapOf? Document.text?)
  let fields ← parts.orDefault "field_map" SortedMap.empty FieldMap.ofDocument?
  return ⟨rootEntity, rootKey, entities, fields⟩

/-- The fields of a selection, written in order. -/
def members (selection : Selection) : List (String × Document) :=
  [("root_entity", .text selection.rootEntity), ("root_key", .text selection.rootKey),
    ("entity_map", Document.ofMap .text selection.entities),
    ("field_map", selection.fields.toDocument)]

/-- A selection as a document. -/
def toDocument (selection : Selection) : Document :=
  .record selection.members

end Selection

end SelectionSql
