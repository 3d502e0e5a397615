import SelectionSql.Query.Fault
import SelectionSql.Schema.Entity
import SelectionSql.Schema.LevelMap

/-!
# Catalogs - Validated metadata of many entities

A catalog holds the lookup tables of every entity and the level map of every
root entity.  Compilation asks metadata two questions only, so anything that
answers them will do in place of a catalog.

Main results:

- `Catalog.ofDefs_eq_ok`: what an accepted list of definitions gives.
-/

namespace SelectionSql

/-! ## Metadata -/

/-- A source of entity metadata. -/
structure Metadata where
  entity? : String → Option Entity
  levelMap? : String → Option LevelMap

namespace Metadata

/-- The lookup tables of an entity that must be known. -/
def requireEntity (metadata : Metadata) (name : String) : Except QueryFault Entity :=
  match metadata.entity? name with
  | some entity => .ok entity
  | none => .error (.unknownEntity name)

/-- The entity at a level of the level map of a root entity. -/
def entityForLevel? (metadata : Metadata) (rootEntity : String) (level : Level) :
    Option String :=
  (metadata.levelMap? rootEntity).bind fun map => map.get? level

theorem requireEntity_eq_ok {metadata : Metadata} {name : String} {entity : Entity} :
    metadata.requireEntity name = .ok entity ↔ metadata.entity? name = some entity := by
  unfold requireEntity
  cases metadata.entity? name <;> simp

end Metadata

/-! ## Catalogs -/

/-- Validated metadata of many entities. -/
structure Catalog where
  entities : SortedMap Entity
  levelMaps : SortedMap LevelMap
  deriving DecidableEq

namespace Catalog

/-- The tables of the entities so far and of one more, which must be new. -/
def addEntity (entities : SortedMap Entity) (definition : EntityDef) :
    Except MetadataFault (SortedMap Entity) :=
  if entities.contains definition.name then .error (.duplicateEntity definition.name)
  else (Entity.ofDef definition).map fun entity => entities.insert definition.name entity

/-- The tables of every definition. -/
def entityTables (definitions : List EntityDef) : Except MetadataFault (SortedMap Entity) :=
  definitions.foldlM addEntity SortedMap.empty

/-- The level map of every definition of a root entity. -/
def rootMaps (graph : ReferenceGraph) : SortedMap LevelMap :=
  SortedMap.ofList ((graph.definitions.filter EntityDef.root).filterMap fun definition =>
    (graph.levelMap? definition.name).map fun map => (definition.name, map))

/-- The catalog of some definitions.  Names and fields are checked first, then
references, then cycles. -/
def ofDefs (definitions : List EntityDef) : Except MetadataFault Catalog := do
  let entities ← entityTables definitions
  let graph ← ReferenceGraph.ofDefs definitions
  graph.requireAcyclic
  return ⟨entities, rootMaps graph⟩

/-- The answers of a catalog. -/
def metadata (catalog : Catalog) : Metadata where
  entity? name := catalog.entities.get? name
  levelMap? rootEntity := catalog.levelMaps.get? rootEntity

/-- The level map of a root entity that must be declared. -/
def rootMap (catalog : Catalog) (rootEntity : String) : Except MetadataFault LevelMap :=
  match catalog.levelMaps.get? rootEntity with
  | some map => .ok map
  | none => .error (.unknownRoot rootEntity)

/-- The names of the root entities in order. -/
def roots (catalog : Catalog) : List String :=
  catalog.levelMaps.keys

/-- Definitions are accepted exactly when their tables can be derived, no
reference is at fault and the references have no cycle. -/
theorem ofDefs_eq_ok {definitions : List EntityDef} {catalog : Catalog} :
    ofDefs definitions = .ok catalog ↔
      ∃ entities graph, entityTables definitions = .ok entities ∧
        ReferenceGraph.ofDefs definitions = .ok graph ∧ graph.cycle? = none ∧
        catalog = ⟨entities, rootMaps graph⟩ := by
  unfold ofDefs
  cases hentities : entityTables definitions with
  | error fault => simp [bind, Except.bind]
  | ok entities =>
      cases hgraph : ReferenceGraph.ofDefs definitions with
      | error fault => simp [bind, Except.bind]
      | ok graph =>
          cases hcycle : graph.cycle? with
          | some cycle => simp [bind, Except.bind, ReferenceGraph.requireAcyclic, hcycle]
          | none =>
              simp [bind, Except.bind, ReferenceGraph.requireAcyclic, hcycle, pure, Except.pure,
                eq_comm]

end Catalog

end SelectionSql
