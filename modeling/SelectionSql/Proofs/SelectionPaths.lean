import SelectionSql.Proofs.Outcome
import SelectionSql.Selection.Path

/-!
# Selection paths - What selections of paths are made of

Adding a path to a selection registers levels of a level map with the entities that the map
has there, and requests fields at such levels only.

Main results:

- `Selection.Within.descend`, `Selection.Within.addPath`: each step stays within the map.
- `Selection.within_of_ofPaths`: so does the selection of some paths.
-/

namespace SelectionSql

namespace Selection

variable {map : LevelMap} {rootEntity entity name : String} {level reached : Level}
variable {selection next : Selection} {names segments : List String}

/-- A selection lies within a level map when it has an entity at the root, every other entity
is the one that the map has at its level, and fields are requested at levels of the map. -/
structure Within (selection : Selection) (map : LevelMap) (rootEntity : String) : Prop where
  rootEntity_eq : selection.rootEntity = rootEntity
  root : ∃ entity, selection.entityAt Level.root = some entity
  entities : ∀ level entity, selection.entityAt level = some entity →
    (level = Level.root ∧ entity = rootEntity) ∨ map.get? level = some entity
  levels : ∀ level ∈ selection.levels, level ∈ map.keys

/-- The selection of nothing below a root entity lies within every level map. -/
theorem within_new (map : LevelMap) (rootEntity : String) :
    (new rootEntity).Within map rootEntity where
  rootEntity_eq := rfl
  root := ⟨rootEntity, by rw [entityAt_new, if_pos rfl]⟩
  entities := by
    intro level entity hentity
    rw [entityAt_new] at hentity
    split at hentity
    next hlevel => exact Or.inl ⟨hlevel, (Option.some.inj hentity).symm⟩
    next => exact absurd hentity (by simp)
  levels := fun level hlevel => absurd hlevel List.not_mem_nil

/-- A level may be registered with the entity that the map has there. -/
theorem Within.withLevel (h : selection.Within map rootEntity)
    (hlevel : map.get? level = some entity) :
    (selection.withLevel level entity).Within map rootEntity where
  rootEntity_eq := h.rootEntity_eq
  root := by
    rw [entityAt_withLevel]
    split
    · exact ⟨entity, rfl⟩
    · exact h.root
  entities := by
    intro other found hfound
    rw [entityAt_withLevel] at hfound
    split at hfound
    next hother =>
      cases Option.some.inj hfound
      exact Or.inr (hother ▸ hlevel)
    next => exact h.entities other found hfound
  levels := h.levels

/-- Fields may be requested at a level of the map. -/
theorem Within.withFields (h : selection.Within map rootEntity) (hlevel : level ∈ map.keys) :
    (selection.withFields level names).Within map rootEntity where
  rootEntity_eq := h.rootEntity_eq
  root := h.root
  entities := h.entities
  levels := by
    intro other hother
    rcases SortedMap.mem_keys_insert.mp hother with rfl | hold
    · exact hlevel
    · exact h.levels other hold

/-- The way down from a level passes levels of the map only. -/
theorem Within.descend (h : selection.Within map rootEntity)
    (hlevel : level = "" ∨ level ∈ map.keys)
    (hdescend : descend map selection level segments = .ok (next, reached)) :
    next.Within map rootEntity ∧ (reached = "" ∨ reached ∈ map.keys) := by
  induction segments generalizing selection level with
  | nil =>
      cases Except.ok.inj hdescend
      exact ⟨h, hlevel⟩
  | cons segment rest ih =>
      unfold Selection.descend at hdescend
      simp only at hdescend
      split at hdescend
      next => exact absurd hdescend (by simp)
      next entity hentity =>
        have hbelow := SortedMap.mem_keys_of_get? hentity
        exact ih ((h.withLevel hentity).withFields hbelow) (Or.inr hbelow) hdescend

/-- The last segment of a path names a level of the map, or a field at the level reached. -/
theorem Within.selectLeaf (h : selection.Within map rootEntity) (hroot : Level.root ∈ map.keys)
    (hlevel : level = "" ∨ level ∈ map.keys) :
    (selectLeaf map selection level name).Within map rootEntity := by
  unfold Selection.selectLeaf
  simp only
  split
  next entity hentity => exact h.withLevel hentity
  next =>
    apply h.withFields
    split
    next => exact hroot
    next hne => exact hlevel.resolve_left hne

/-- Adding a path stays within the map. -/
theorem Within.addPath {path : String} (h : selection.Within map rootEntity)
    (hroot : Level.root ∈ map.keys) (hadd : addPath map selection path = .ok next) :
    next.Within map rootEntity := by
  unfold Selection.addPath addSegments at hadd
  split at hadd
  next =>
    cases Except.ok.inj hadd
    exact h
  next leaf hleaf =>
    rcases Outcome.map_eq_ok.mp hadd with ⟨⟨middle, reached⟩, hdescend, rfl⟩
    rcases h.descend (Or.inl rfl) hdescend with ⟨hmiddle, hreached⟩
    exact hmiddle.selectLeaf hroot hreached

/-- The selection of some paths below a root entity lies within its level map. -/
theorem within_of_ofPaths {metadata : Metadata} {paths : List String}
    (hmap : metadata.levelMap? rootEntity = some map) (hroot : Level.root ∈ map.keys)
    (h : ofPaths metadata rootEntity paths = .ok selection) :
    selection.Within map rootEntity := by
  unfold ofPaths at h
  rw [hmap] at h
  refine Outcome.foldlM_invariant (fun state => state.Within map rootEntity) ?_
    (within_new map rootEntity) h
  intro state path next _ hstate hnext
  exact hstate.addPath hroot hnext

end Selection

end SelectionSql
