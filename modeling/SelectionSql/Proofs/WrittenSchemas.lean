import SelectionSql.Document.Schema
import SelectionSql.Document.Selection
import SelectionSql.Proofs.Shapes

/-!
# Written schemas - Entity definitions and selections are read back

Every structure within a value may be written as a record or as a list, whatever the way of the
structures around it.  The documents that a value may be written as are described first; that
each of them is read as the value then follows the structure of the value.

Main results:

- `EntityDef.ofDocument?_of_writtenAs`: a definition is read from whatever it may be written as.
- `EntityDef.writtenAs_of_holds`: this includes the record and the list of its fields.
- `Selection.ofDocument?_of_holds`: a selection is read from the record and from the list of
  its fields.
-/

namespace SelectionSql

variable {document : Document} {reading : Reading}

/-! ## Entity definitions -/

namespace JoinColumns

variable {columns : JoinColumns}

/-- The documents that a pair of columns may be written as. -/
def WrittenAs (columns : JoinColumns) (document : Document) : Prop :=
  document.Holds [("parent", .text columns.parent), ("child", .text columns.child)]

/-- A pair of columns is read from whatever it may be written as. -/
theorem ofDocument?_of_writtenAs (h : columns.WrittenAs document) :
    ofDocument? reading document = some columns := by
  unfold ofDocument?
  rw [h.parts? reading ["parent", "child"] rfl (by decide)]
  rfl

end JoinColumns

namespace FieldDef

variable {field : FieldDef}

/-- The documents that a field may be written as. -/
def WrittenAs (field : FieldDef) (document : Document) : Prop :=
  document.Holds [("name", .text field.name), ("column", .text field.column),
    ("key", .bool field.key), ("join_eager", .bool field.joinEager)]

/-- A field is read from whatever it may be written as. -/
theorem ofDocument?_of_writtenAs (h : field.WrittenAs document) :
    ofDocument? reading document = some field := by
  unfold ofDocument?
  rw [h.parts? reading ["name", "column", "key", "join_eager"] rfl (by decide)]
  rfl

end FieldDef

namespace ReferenceDef

variable {reference : ReferenceDef}

/-- The documents that a reference may be written as. -/
def WrittenAs (reference : ReferenceDef) (document : Document) : Prop :=
  ∃ pairs, List.Forall₂ JoinColumns.WrittenAs reference.joinColumns pairs ∧
    document.Holds [("name", .text reference.name), ("entity", .text reference.target),
      ("join_columns", .list pairs)]

/-- A reference is read from whatever it may be written as. -/
theorem ofDocument?_of_writtenAs (h : reference.WrittenAs document) :
    ofDocument? reading document = some reference := by
  rcases h with ⟨pairs, hpairs, hdocument⟩
  have hread : (Document.list pairs).listOf? (JoinColumns.ofDocument? reading) =
      some reference.joinColumns :=
    Document.listOf?_of_forall₂ (fun _ _ => JoinColumns.ofDocument?_of_writtenAs) hpairs
  unfold ofDocument?
  rw [hdocument.parts? reading ["name", "entity", "join_columns"] rfl (by decide)]
  show (do
    let joinColumns ← (Document.list pairs).listOf? (JoinColumns.ofDocument? reading)
    return (⟨reference.name, reference.target, joinColumns⟩ : ReferenceDef)) = some reference
  rw [hread]
  rfl

/-- A reference is written as one of its documents. -/
theorem writtenAs_toDocument (reference : ReferenceDef) :
    reference.WrittenAs reference.toDocument := by
  have hpairs : List.Forall₂ JoinColumns.WrittenAs reference.joinColumns
      (reference.joinColumns.map JoinColumns.toDocument) :=
    Document.forall₂_map_written (fun _ => .record) _
  exact ⟨_, hpairs, .record⟩

end ReferenceDef

namespace EntityDef

variable {entity : EntityDef}

/-- The fields of a definition, given what its lists are written as. -/
def membersWith (entity : EntityDef) (fields references : List Document) :
    List (String × Document) :=
  [("name", .text entity.name), ("table", .text entity.table), ("root", .bool entity.root),
    ("fields", .list fields), ("references", .list references),
    ("api_names", Document.ofMap .text entity.apiNames)]

/-- The documents that a definition may be written as. -/
def WrittenAs (entity : EntityDef) (document : Document) : Prop :=
  ∃ fields references, List.Forall₂ FieldDef.WrittenAs entity.fields fields ∧
    List.Forall₂ ReferenceDef.WrittenAs entity.references references ∧
      document.Holds (entity.membersWith fields references)

/-- A definition is read from whatever it may be written as. -/
theorem ofDocument?_of_writtenAs (h : entity.WrittenAs document) :
    ofDocument? reading document = some entity := by
  rcases h with ⟨fields, references, hfields, hreferences, hdocument⟩
  have hreadFields : (Document.list fields).listOf? (FieldDef.ofDocument? reading) =
      some entity.fields :=
    Document.listOf?_of_forall₂ (fun _ _ => FieldDef.ofDocument?_of_writtenAs) hfields
  have hreadReferences : (Document.list references).listOf? (ReferenceDef.ofDocument? reading) =
      some entity.references :=
    Document.listOf?_of_forall₂ (fun _ _ => ReferenceDef.ofDocument?_of_writtenAs) hreferences
  have hreadNames : (Document.ofMap .text entity.apiNames).mapOf? Document.text? =
      some entity.apiNames := Document.mapOf?_ofMap Document.text?_text _
  unfold ofDocument?
  rw [hdocument.parts? reading ["name", "table", "root", "fields", "references", "api_names"] rfl
    (by decide)]
  show (do
    let fields ← (Document.list fields).listOf? (FieldDef.ofDocument? reading)
    let references ← (Document.list references).listOf? (ReferenceDef.ofDocument? reading)
    let apiNames ← (Document.ofMap .text entity.apiNames).mapOf? Document.text?
    return (⟨entity.name, entity.table, entity.root, fields, references, apiNames⟩ : EntityDef)) =
      some entity
  rw [hreadFields, hreadReferences, hreadNames]
  rfl

/-- The fields of a definition in order are its fields. -/
theorem writtenAs_of_holds (h : document.Holds entity.members) : entity.WrittenAs document := by
  have hfields : List.Forall₂ FieldDef.WrittenAs entity.fields
      (entity.fields.map FieldDef.toDocument) :=
    Document.forall₂_map_written (fun _ => .record) _
  have hreferences : List.Forall₂ ReferenceDef.WrittenAs entity.references
      (entity.references.map ReferenceDef.toDocument) :=
    Document.forall₂_map_written ReferenceDef.writtenAs_toDocument _
  exact ⟨_, _, hfields, hreferences, h⟩

end EntityDef

/-! ## Selections -/

namespace Selection

variable {selection : Selection}

/-- A selection is read from whatever holds its fields. -/
theorem ofDocument?_of_holds (h : document.Holds selection.members) :
    ofDocument? document = some selection := by
  have hentities : (Document.ofMap .text selection.entities).mapOf? Document.text? =
      some selection.entities := Document.mapOf?_ofMap Document.text?_text _
  have hfields : FieldMap.ofDocument? selection.fields.toDocument = some selection.fields :=
    Document.mapOf?_ofMap Document.setOf?_ofSet _
  unfold ofDocument?
  rw [h.parts? .streamed ["root_entity", "root_key", "entity_map", "field_map"] rfl (by decide)]
  show (do
    let entities ← (Document.ofMap .text selection.entities).mapOf? Document.text?
    let fields ← FieldMap.ofDocument? selection.fields.toDocument
    return (⟨selection.rootEntity, selection.rootKey, entities, fields⟩ : Selection)) =
      some selection
  rw [hentities, hfields]
  rfl

end Selection

end SelectionSql
