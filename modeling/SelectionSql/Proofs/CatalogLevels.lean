import SelectionSql.Proofs.Acceptance
import SelectionSql.Proofs.Coherence

/-!
# Catalog levels - Every level of a catalog has an entity

The level maps of a catalog name defined entities only, and the catalog has the tables of
every defined entity.  With a level they have all levels above it.

Main results:

- `Catalog.exists_entity?`: a catalog knows the entities that are defined.
- `Catalog.exists_entity?_of_level`: it knows the entity at every level of a level map.
- `LevelMap.Exact.mem_keys_of_mem_below`: what lies on the way down to a level is a level.
-/

namespace SelectionSql

variable {definitions : List EntityDef} {catalog : Catalog} {map : LevelMap}
variable {rootEntity name : String} {level other : Level}

namespace LevelMap

/-- A level map has the root. -/
theorem Exact.root_mem_keys (h : map.Exact definitions rootEntity) : Level.root ∈ map.keys :=
  (h.levels Level.root).mpr (Or.inl rfl)

/-- With a level a level map has every level on the way down to it from the root. -/
theorem Exact.mem_keys_of_mem_below (h : map.Exact definitions rootEntity)
    (hlevel : level ∈ map.keys) (hother : other ∈ Level.below Level.root level) :
    other ∈ map.keys := by
  induction level, Level.isInScope_root level using Level.scope_induction with
  | hanchor => simp at hother
  | hstep level hscope hne ih =>
      rw [Level.below_eq_append hscope hne, List.mem_append, List.mem_singleton] at hother
      rcases hother with hother | rfl
      · exact ih (h.parents level hlevel) hother
      · exact hlevel

end LevelMap

namespace Catalog

/-- A catalog knows the entities that are defined. -/
theorem exists_entity? (h : ofDefs definitions = .ok catalog)
    (hname : name ∈ definitions.map EntityDef.name) :
    ∃ entity, catalog.metadata.entity? name = some entity := by
  rcases ofDefs_eq_ok.mp h with ⟨entities, graph, hentities, -, -, rfl⟩
  exact Option.isSome_iff_exists.mp ((contains_entityTables hentities).mpr hname)

/-- The level maps of a catalog are exact. -/
theorem exact_of_levelMaps (h : ofDefs definitions = .ok catalog)
    (hmap : catalog.levelMaps.get? rootEntity = some map) : map.Exact definitions rootEntity := by
  obtain ⟨graph, rfl, hacyclic, hlevels⟩ := exists_graph_of_levelMaps h hmap
  exact ReferenceGraph.exact_of_levelMap? hacyclic hlevels

/-- A catalog knows the entity at every level of a level map. -/
theorem exists_entity?_of_level (h : ofDefs definitions = .ok catalog)
    (hmap : catalog.levelMaps.get? rootEntity = some map) (hlevel : map.get? level = some name) :
    ∃ entity, catalog.metadata.entity? name = some entity :=
  exists_entity? h ((exact_of_levelMaps h hmap).defined level name hlevel)

/-- A root entity is defined. -/
theorem exists_entity?_of_root (h : ofDefs definitions = .ok catalog)
    (hmap : catalog.levelMaps.get? rootEntity = some map) :
    ∃ entity, catalog.metadata.entity? rootEntity = some entity := by
  obtain ⟨graph, rfl, -, hlevels⟩ := exists_graph_of_levelMaps h hmap
  exact exists_entity? h (ReferenceGraph.levelMap?_eq_some.mp hlevels).1

end Catalog

namespace Hospital

/-- The level map of hospitals. -/
def levels : LevelMap :=
  SortedMap.ofList
    [(Level.root, "Hospital"), ("surgeon", "Surgeon"), ("surgeon_department", "Department")]

theorem levelMap_hospital : Hospital.catalog.levelMaps.get? "Hospital" = some levels := by
  decide +kernel

end Hospital

end SelectionSql
