import SelectionSql.Level
import SelectionSql.Text.Blank
import SelectionSql.Text.Casing

/-!
# Query faults - Why a query cannot be built or compiled

Main results:

- `requireKey_eq_ok_iff`: a key is accepted exactly when it is not blank.
-/

namespace SelectionSql

/-- The shapes of queries, as a user names them. -/
inductive QueryShape
  | simple
  | join
  | nativeSimple
  | nativeJoin
  deriving DecidableEq

namespace QueryShape

/-- The name of the shape. -/
def name : QueryShape → String
  | simple => "SimpleQuery"
  | join => "JoinQuery"
  | nativeSimple => "NativeSimpleQuery"
  | nativeJoin => "NativeJoinQuery"

/-- The field that holds the level at which the shape is anchored. -/
def keyField : QueryShape → String
  | simple => "graph_key"
  | join => "root_key"
  | nativeSimple => "graph_key"
  | nativeJoin => "root_key"

end QueryShape

/-- Why a query cannot be built or compiled. -/
inductive QueryFault
  /-- A template holds nothing but white space. -/
  | emptyTemplate
  /-- The level at which a query is anchored is missing or blank. -/
  | missingKey (shape : QueryShape)
  /-- No field, accessor or API name of the entity is called so. -/
  | fieldNotFound (field entity : String)
  /-- A level does not lie below the anchor. -/
  | outOfScope (anchor level : Level)
  /-- A level is missing on the way from the anchor to a declared join. -/
  | missingParent (level : Level)
  /-- The parent declares no join columns for the reference to the child. -/
  | noAssociation (parent child reference : String)
  /-- An aggregate names a column that its entity does not have. -/
  | aggregateColumnNotFound (column entity : String)
  | unknownEntity (entity : String)
  | unknownLevel (level : Level)
  deriving DecidableEq

namespace QueryFault

/-- The field with its first character in upper case, as its getter is called. -/
def getterSuffix (field : String) : String :=
  String.ofList (Text.capitalize field.toList)

/-- The message of a fault. -/
def message : QueryFault → String
  | emptyTemplate => "Query template cannot be empty for native query building"
  | missingKey shape =>
      shape.keyField ++ " cannot be missing when building a " ++ shape.name
  | fieldNotFound field entity =>
      "No field named '" ++ field ++ "' (getter get" ++ getterSuffix field ++
        "()) found in entity " ++ entity ++
        ". Field names exposed to the API are derived from getters, " ++
        "consider renaming the getter"
  | outOfScope anchor level =>
      "Root has been set as '" ++ anchor ++ "'; graph level '" ++ level ++
        "' is not a child of it"
  | missingParent level =>
      "Add graph level '" ++ level ++ "' to the joins to complete the association path"
  | noAssociation parent child reference =>
      "No association defined between entity " ++ parent ++ " and " ++ child ++
        " through reference '" ++ reference ++
        "'; declare its join columns in the entity metadata"
  | aggregateColumnNotFound column entity =>
      "Column '" ++ column ++ "' added for aggregation not found in entity " ++ entity
  | unknownEntity entity => "Entity " ++ entity ++ " has no metadata registered"
  | unknownLevel level => "Graph level '" ++ level ++ "' does not map to any entity"

end QueryFault

/-- The given key unless it is missing or blank. -/
def requireKey (shape : QueryShape) : Option Level → Except QueryFault Level
  | some key => if Text.isBlankText key then .error (.missingKey shape) else .ok key
  | none => .error (.missingKey shape)

/-- A key is accepted exactly when it is given and not blank. -/
theorem requireKey_eq_ok_iff {shape : QueryShape} {key : Option Level} {level : Level} :
    requireKey shape key = .ok level ↔
      key = some level ∧ Text.isBlankText level = false := by
  cases key with
  | none => simp [requireKey]
  | some text =>
      cases hblank : Text.isBlankText text with
      | true =>
          simp only [requireKey, hblank, if_true, reduceCtorEq, Option.some.injEq, false_iff]
          rintro ⟨rfl, h⟩
          rw [hblank] at h
          exact Bool.noConfusion h
      | false =>
          simp only [requireKey, hblank, Bool.false_eq_true, if_false, Except.ok.injEq,
            Option.some.injEq]
          constructor
          · rintro rfl
            exact ⟨rfl, hblank⟩
          · exact fun h => h.1

end SelectionSql
