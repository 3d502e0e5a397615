import SelectionSql.Schema.Definition
import SelectionSql.Schema.Fault
import SelectionSql.Sequence

/-!
# Entities - Lookup tables derived from a definition

Fields and columns map one to one.  Declaring the same pair again, say as a key
and as always selected, is no conflict.

Main results:

- `FieldIndex.add_eq_ok`: a field is added exactly when it clashes with nothing.
- `FieldIndex.conflict?_eq_some`: what a field clashes with.
- `Entity.ofDef_eq_ok`: what the tables of an accepted definition hold.
-/

namespace SelectionSql

/-! ## Fields and columns -/

/-- The column of each field and the field of each column. -/
structure FieldIndex where
  columnOf : SortedMap String := SortedMap.empty
  fieldOf : SortedMap String := SortedMap.empty
  deriving DecidableEq

namespace FieldIndex

/-- The clash of a field with those before it, a field mapped to two columns
before a column mapped from two fields. -/
def conflict? (index : FieldIndex) (entity : String) (field : FieldDef) :
    Option MetadataFault :=
  match (index.columnOf.get? field.name).filter fun column => decide (column ≠ field.column) with
  | some column => some (.conflictingField entity field.name column field.column)
  | none =>
      match (index.fieldOf.get? field.column).filter fun name => decide (name ≠ field.name) with
      | some name => some (.conflictingColumn entity field.column name field.name)
      | none => none

/-- The index with one more field. -/
def add (entity : String) (index : FieldIndex) (field : FieldDef) :
    Except MetadataFault FieldIndex :=
  match index.conflict? entity field with
  | some fault => .error fault
  | none =>
      .ok ⟨index.columnOf.insert field.name field.column,
        index.fieldOf.insert field.column field.name⟩

/-- The index of a list of fields. -/
def ofFields (entity : String) (fields : List FieldDef) : Except MetadataFault FieldIndex :=
  fields.foldlM (add entity) {}

/-- A field is added exactly when it clashes with nothing. -/
theorem add_eq_ok {entity : String} {index result : FieldIndex} {field : FieldDef} :
    add entity index field = .ok result ↔
      index.conflict? entity field = none ∧
        result = ⟨index.columnOf.insert field.name field.column,
          index.fieldOf.insert field.column field.name⟩ := by
  unfold add
  cases index.conflict? entity field with
  | some fault => simp
  | none => simp [eq_comm]

/-- A field is refused exactly for its clash. -/
theorem add_eq_error {entity : String} {index : FieldIndex} {field : FieldDef}
    {fault : MetadataFault} :
    add entity index field = .error fault ↔ index.conflict? entity field = some fault := by
  unfold add
  cases index.conflict? entity field <;> simp

/-- Nothing clashes exactly when neither table says otherwise. -/
theorem conflict?_eq_none {index : FieldIndex} {entity : String} {field : FieldDef} :
    index.conflict? entity field = none ↔
      (∀ column, index.columnOf.get? field.name = some column → column = field.column) ∧
        (∀ name, index.fieldOf.get? field.column = some name → name = field.name) := by
  unfold conflict?
  cases hcolumn : index.columnOf.get? field.name <;>
    cases hname : index.fieldOf.get? field.column
  · simp
  · next name => by_cases h : name = field.name <;> simp [Option.filter, h]
  · next column => by_cases h : column = field.column <;> simp [Option.filter, h]
  · next column name =>
      by_cases hc : column = field.column <;> by_cases hn : name = field.name <;>
        simp [Option.filter, hc, hn]

/-- A field mapped to two columns clashes before a column mapped from two fields. -/
theorem conflict?_eq_some {index : FieldIndex} {entity : String} {field : FieldDef}
    {fault : MetadataFault} :
    index.conflict? entity field = some fault ↔
      (∃ column, index.columnOf.get? field.name = some column ∧ column ≠ field.column ∧
        fault = .conflictingField entity field.name column field.column) ∨
      (∀ column, index.columnOf.get? field.name = some column → column = field.column) ∧
        ∃ name, index.fieldOf.get? field.column = some name ∧ name ≠ field.name ∧
          fault = .conflictingColumn entity field.column name field.name := by
  unfold conflict?
  cases hcolumn : index.columnOf.get? field.name <;>
    cases hname : index.fieldOf.get? field.column
  · simp
  · next name => by_cases h : name = field.name <;> simp [Option.filter, h, eq_comm]
  · next column => by_cases h : column = field.column <;> simp [Option.filter, h, eq_comm]
  · next column name =>
      by_cases hc : column = field.column <;> by_cases hn : name = field.name <;>
        simp [Option.filter, hc, hn, eq_comm]

end FieldIndex

/-! ## Entities -/

/-- The lookup tables of an entity. -/
structure Entity where
  name : String
  table : String
  index : FieldIndex
  /-- The key fields in declaration order. -/
  keyFields : List String
  /-- The key fields and after them the other fields that are always selected. -/
  joinKeyFields : List String
  /-- The join columns of each reference that has some. -/
  joinColumns : SortedMap (List JoinColumns)
  /-- The field behind each name that an API uses instead. -/
  apiNames : SortedMap String
  deriving DecidableEq

namespace Entity

/-- The column behind a field. -/
def columnForField (entity : Entity) (field : String) : Option String :=
  entity.index.columnOf.get? field

/-- The field in front of a column. -/
def fieldForColumn (entity : Entity) (column : String) : Option String :=
  entity.index.fieldOf.get? column

/-- Whether the entity maps a column. -/
def hasColumn (entity : Entity) (column : String) : Bool :=
  entity.index.fieldOf.contains column

/-- The first join columns declared for a reference. -/
def firstJoinColumns? (entity : Entity) (reference : String) : Option JoinColumns :=
  (entity.joinColumns.get? reference).bind List.head?

/-- The join columns of the references that have some; a later reference of the
same name wins. -/
def joinTable (references : List ReferenceDef) : SortedMap (List JoinColumns) :=
  SortedMap.ofList
    ((references.filter fun reference => !reference.joinColumns.isEmpty).map fun reference =>
      (reference.name, reference.joinColumns))

/-- The tables of a definition whose fields are indexed. -/
def ofIndexed (entity : EntityDef) (index : FieldIndex) : Entity where
  name := entity.name
  table := entity.table
  index := index
  keyFields := keepFirst entity.keyNames
  joinKeyFields := keepFirst (entity.keyNames ++ entity.eagerNames)
  joinColumns := joinTable entity.references
  apiNames := entity.apiNames

/-- The tables of a definition. -/
def ofDef (entity : EntityDef) : Except MetadataFault Entity :=
  (FieldIndex.ofFields entity.name entity.fields).map (ofIndexed entity)

/-- A definition is accepted exactly when its fields can be indexed. -/
theorem ofDef_eq_ok {definition : EntityDef} {entity : Entity} :
    ofDef definition = .ok entity ↔
      ∃ index, FieldIndex.ofFields definition.name definition.fields = .ok index ∧
        entity = ofIndexed definition index := by
  unfold ofDef
  cases FieldIndex.ofFields definition.name definition.fields with
  | error fault => simp [Except.map]
  | ok index => simp [Except.map, eq_comm]

end Entity

end SelectionSql
