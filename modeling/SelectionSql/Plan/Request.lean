import SelectionSql.Schema.Catalog
import SelectionSql.Selection

/-!
# Requests - A selection bound to metadata

Compilation works on a copy of the requested fields, so that fields added for
grouping never reach the selection itself.

Main results:

- `Request.entityAt_eq_ok`: which entity sits at a level.
-/

namespace SelectionSql

/-- A selection bound to metadata, with the fields requested so far. -/
structure Request where
  metadata : Metadata
  /-- The selection, which stays as it is. -/
  selection : Selection
  fields : FieldMap

namespace Request

/-- The request of a selection. -/
def ofSelection (metadata : Metadata) (selection : Selection) : Request :=
  ⟨metadata, selection, selection.fields⟩

/-- The name of the entity at a level: the selection's own, or else the one in
the level map of the root entity. -/
def entityName? (request : Request) (level : Level) : Option String :=
  (request.selection.entityAt level).or
    (request.metadata.entityForLevel? request.selection.rootEntity level)

/-- The entity at a level. -/
def entityAt (request : Request) (level : Level) : Except QueryFault Entity :=
  match request.entityName? level with
  | some name => request.metadata.requireEntity name
  | none => .error (.unknownLevel level)

/-- An entity sits at a level exactly when the level has its name and metadata
knows it. -/
theorem entityAt_eq_ok {request : Request} {level : Level} {entity : Entity} :
    request.entityAt level = .ok entity ↔
      ∃ name, request.entityName? level = some name ∧
        request.metadata.entity? name = some entity := by
  unfold entityAt
  cases request.entityName? level with
  | none => simp
  | some name => simp [Metadata.requireEntity_eq_ok]

/-- The requested fields of a level in name order. -/
def fieldsAt (request : Request) (level : Level) : List String :=
  match request.fields.get? level with
  | some fields => fields.toList
  | none => []

/-- Request the field in front of a column.  A column that the entity does not
map changes nothing. -/
def requestColumn (request : Request) (level : Level) (column : String) :
    Except QueryFault Request :=
  (request.entityAt level).map fun entity =>
    match entity.fieldForColumn column with
    | some field => { request with fields := request.fields.request level [field] }
    | none => request

/-- Request the key fields of a level that is not present. -/
def requireKeyFields (request : Request) (level : Level) : Except QueryFault Request :=
  if request.fields.contains level then .ok request
  else
    (request.entityAt level).map fun entity =>
      { request with
        fields := request.fields.insert level (SortedSet.ofList entity.keyFields) }

end Request

end SelectionSql
