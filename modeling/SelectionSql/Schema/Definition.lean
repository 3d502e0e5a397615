import SelectionSql.Sorted.Map

/-!
# Definitions - What a metadata file declares

An entity declares its table, its scalar fields with their columns, its named
references to other entities and the names under which an API exposes fields.
-/

namespace SelectionSql

/-- A column of a parent and a column of a child that join them. -/
structure JoinColumns where
  parent : String
  child : String
  deriving DecidableEq

/-- A scalar field and the column behind it. -/
structure FieldDef where
  name : String
  column : String
  /-- Whether the field is part of the primary key. -/
  key : Bool := false
  /-- Whether the field is always selected. -/
  joinEager : Bool := false
  deriving DecidableEq

/-- A named reference from one entity to another. -/
structure ReferenceDef where
  name : String
  /-- The name of the entity referred to. -/
  target : String
  joinColumns : List JoinColumns := []
  deriving DecidableEq

/-- The declaration of an entity. -/
structure EntityDef where
  name : String
  table : String
  /-- Whether requests may start at it. -/
  root : Bool := false
  fields : List FieldDef := []
  references : List ReferenceDef := []
  /-- The field behind each name that an API uses instead. -/
  apiNames : SortedMap String := SortedMap.empty
  deriving DecidableEq

namespace EntityDef

/-- The definition as one of a root entity. -/
def asRoot (entity : EntityDef) : EntityDef :=
  { entity with root := true }

/-- Append a field. -/
def withField (entity : EntityDef) (field : FieldDef) : EntityDef :=
  { entity with fields := entity.fields ++ [field] }

/-- Append a reference. -/
def withReference (entity : EntityDef) (reference : ReferenceDef) : EntityDef :=
  { entity with references := entity.references ++ [reference] }

/-- Expose a field under a name of the API. -/
def withApiName (entity : EntityDef) (apiName field : String) : EntityDef :=
  { entity with apiNames := entity.apiNames.insert apiName field }

/-- The names of the key fields, each at its first declaration. -/
def keyNames (entity : EntityDef) : List String :=
  (entity.fields.filter FieldDef.key).map FieldDef.name

/-- The names of the fields that are always selected. -/
def eagerNames (entity : EntityDef) : List String :=
  (entity.fields.filter FieldDef.joinEager).map FieldDef.name

end EntityDef

end SelectionSql
