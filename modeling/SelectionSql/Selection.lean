import SelectionSql.Level
import SelectionSql.Sorted.Map
import SelectionSql.Sorted.Set

/-!
# Selections - The resolved shape of one request

A selection records which entity sits at each level of a request and which
fields are requested there.

Main results:

- `FieldMap.ext_mem`: field maps with the same fields at the same levels are equal.
- `Selection.entityAt_new`: a new selection knows its root alone.
- `Selection.entityAt_withLevel`: registering an entity at a level.
- `Selection.fieldsAt_withFields`: requesting fields at a level.
-/

namespace SelectionSql

/-- The fields requested at each level. -/
abbrev FieldMap := SortedMap SortedSet

namespace FieldMap

/-- Request more fields at a level, which is then present even without any. -/
def request (fields : FieldMap) (level : Level) (names : List String) : FieldMap :=
  fields.update level fun old => (old.getD SortedSet.empty).insertAll names

/-- Field maps with the same levels and the same fields at each of them are equal. -/
theorem ext_mem {left right : FieldMap} (hlevels : ∀ level, level ∈ left.keys ↔ level ∈ right.keys)
    (hfields : ∀ level name, (∃ names, left.get? level = some names ∧ name ∈ names) ↔
      ∃ names, right.get? level = some names ∧ name ∈ names) : left = right := by
  refine SortedMap.ext_get? fun level => ?_
  cases hleft : left.get? level with
  | none =>
      cases hright : right.get? level with
      | none => rfl
      | some others =>
          have hlevel := (hlevels level).mpr (SortedMap.mem_keys_of_get? hright)
          exact absurd hlevel (SortedMap.not_mem_keys_of_get? hleft)
  | some names =>
      have hlevel := (hlevels level).mp (SortedMap.mem_keys_of_get? hleft)
      obtain ⟨others, hright⟩ := SortedMap.exists_get?_of_mem_keys hlevel
      have hmem : ∀ name, name ∈ names ↔ name ∈ others := by
        intro name
        simpa [hleft, hright] using hfields level name
      rw [hright, SortedSet.ext_mem hmem]

end FieldMap

/-- The resolved shape of one request. -/
structure Selection where
  rootEntity : String
  rootKey : Level := Level.root
  entities : SortedMap String := SortedMap.empty
  fields : FieldMap := SortedMap.empty
  deriving DecidableEq

namespace Selection

/-- The selection of nothing below a root entity. -/
def new (rootEntity : String) : Selection where
  rootEntity := rootEntity
  entities := SortedMap.empty.insert Level.root rootEntity

/-- The selection with given entities and fields; the root entity is registered
at the root unless another one is. -/
def ofParts (rootEntity : String) (entities : SortedMap String) (fields : FieldMap) :
    Selection where
  rootEntity := rootEntity
  entities :=
    if entities.contains Level.root then entities else entities.insert Level.root rootEntity
  fields := fields

/-- Register the entity at a level. -/
def withLevel (selection : Selection) (level : Level) (entity : String) : Selection :=
  { selection with entities := selection.entities.insert level entity }

/-- Request fields at a level. -/
def withFields (selection : Selection) (level : Level) (names : List String) : Selection :=
  { selection with fields := selection.fields.request level names }

/-- The levels present in the request. -/
def levels (selection : Selection) : List Level :=
  selection.fields.keys

/-- The entity registered at a level. -/
def entityAt (selection : Selection) (level : Level) : Option String :=
  selection.entities.get? level

/-- The fields requested at a level. -/
def fieldsAt (selection : Selection) (level : Level) : Option SortedSet :=
  selection.fields.get? level

/-- A new selection knows its root alone. -/
theorem entityAt_new (rootEntity : String) (level : Level) :
    (new rootEntity).entityAt level = if level = Level.root then some rootEntity else none := by
  simp [new, entityAt, SortedMap.get?_insert]

/-- Registering an entity changes the answer at its level alone. -/
theorem entityAt_withLevel (selection : Selection) (level other : Level) (entity : String) :
    (selection.withLevel level entity).entityAt other =
      if other = level then some entity else selection.entityAt other :=
  SortedMap.get?_insert _ _ _ _

/-- Requesting fields changes the answer at their level alone. -/
theorem fieldsAt_withFields (selection : Selection) (level other : Level)
    (names : List String) :
    (selection.withFields level names).fieldsAt other =
      if other = level then
        some (((selection.fieldsAt level).getD SortedSet.empty).insertAll names)
      else selection.fieldsAt other :=
  SortedMap.get?_update _ _ _ _

end Selection

end SelectionSql
