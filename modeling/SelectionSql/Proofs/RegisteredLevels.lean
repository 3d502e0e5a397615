import SelectionSql.Proofs.PathUnions

/-!
# Registered levels - Levels on the way down to the levels of a selection

A path registers the level of each of its leading segments.  These are all levels on the way
down as long as the segments are references.  A segment that joins several references passes
the levels between them over, since only the level of the whole segment is looked up.

Main results:

- `Level.parent_joined`: a plain segment leads down from the level of the segments above it.
- `Selection.mem_levels_of_ofPaths`: the levels of a selection are the root and what is passed.
- `Selection.connected_iff`: a selection has all levels on the way down exactly when no path
  passes a level over that no other path passes.
-/

namespace SelectionSql

/-- A segment without a separator leads down from the level of the segments above it. -/
theorem Level.parent_joined {above : List String} {segment : String}
    (hsegments : ∀ other ∈ above, other ≠ "") (hplain : separator ∉ segment.toList) :
    parent (joined (above ++ [segment])) = if above = [] then root else joined above := by
  split
  next habove =>
    subst habove
    rw [List.nil_append, joined_singleton]
    exact parent_of_not_mem hplain
  next habove =>
    rw [← child_joined hsegments]
    exact parent_child (joined_ne_empty hsegments habove) hplain

/-- The parent of a level that a path passes by a plain segment is the root or passed, too. -/
theorem parent_mem_passedLevels {path segment : String} {above below : List String}
    (hpath : pathSegments path = above ++ segment :: below)
    (hplain : Level.separator ∉ segment.toList) :
    Level.parent (Level.joined (above ++ [segment])) = Level.root ∨
      Level.parent (Level.joined (above ++ [segment])) ∈ passedLevels path := by
  rw [Level.parent_joined (ne_empty_of_pathSegments hpath) hplain]
  split
  next => exact Or.inl rfl
  next habove =>
    obtain ⟨before, last, rfl⟩ := (List.eq_nil_or_concat' above).resolve_left habove
    exact Or.inr (mem_passedLevels.mpr
      ⟨before, last, segment :: below, by simpa using hpath, List.cons_ne_nil _ _, rfl⟩)

/-- Fields are requested at the root or at a level that the path passes. -/
theorem Requests.level_mem {map : LevelMap} {path name : String} {level : Level}
    (h : Requests map path level name) : level = Level.root ∨ level ∈ passedLevels path := by
  obtain ⟨hpath, -⟩ := h
  rename_i above
  by_cases habove : above = []
  · exact Or.inl (if_pos habove)
  · obtain ⟨before, last, rfl⟩ := (List.eq_nil_or_concat' above).resolve_left habove
    rw [if_neg habove]
    exact Or.inr (mem_passedLevels.mpr
      ⟨before, last, [name], by simpa using hpath, List.cons_ne_nil _ _, rfl⟩)

/-- What a path registers is in the level map once the levels that it passes are. -/
theorem Registers.mem_keys {map : LevelMap} {path : String} {level : Level}
    (h : Registers map path level) (hpassed : ∀ level ∈ passedLevels path, level ∈ map.keys) :
    level ∈ map.keys := by
  cases h with
  | passed h => exact hpassed level h
  | named _ hlevel => exact hlevel

namespace Selection

variable {metadata : Metadata} {rootEntity : String} {paths : List String}
variable {selection : Selection} {level : Level}

/-- A selection is connected when each of its levels below the root hangs below the root, or
below another level of the selection that has an entity. -/
def Connected (selection : Selection) : Prop :=
  ∀ level ∈ selection.levels, level ≠ Level.root →
    Level.parent level = Level.root ∨
      (Level.parent level ∈ selection.levels ∧ Level.parent level ∈ selection.entities.keys)

instance : Decidable selection.Connected :=
  inferInstanceAs (Decidable (∀ level ∈ selection.levels, _))

/-- What has a selection is below an entity with a level map. -/
theorem exists_levelMap?_of_ofPaths (h : ofPaths metadata rootEntity paths = .ok selection) :
    ∃ map, metadata.levelMap? rootEntity = some map := by
  unfold ofPaths at h
  split at h
  next => cases h
  next map hmap => exact ⟨map, hmap⟩

/-- The levels of a selection are the root and levels that one of the paths passes. -/
theorem mem_levels_of_ofPaths (h : ofPaths metadata rootEntity paths = .ok selection)
    (hlevel : level ∈ selection.levels) :
    level = Level.root ∨ ∃ path ∈ paths, level ∈ passedLevels path := by
  obtain ⟨map, hmap⟩ := exists_levelMap?_of_ofPaths h
  have hnew : level ∉ (new rootEntity).levels := List.not_mem_nil
  obtain ⟨path, hpath, hpassed | ⟨name, hrequests⟩⟩ :=
    (((extends_ofPaths hmap h).levels level).mp hlevel).resolve_right hnew
  · exact Or.inr ⟨path, hpath, hpassed⟩
  · exact hrequests.level_mem.imp_right fun hpassed => ⟨path, hpath, hpassed⟩

/-- What a path passes is a level of the selection. -/
theorem mem_levels_of_passed (h : ofPaths metadata rootEntity paths = .ok selection)
    {path : String} (hpath : path ∈ paths) (hlevel : level ∈ passedLevels path) :
    level ∈ selection.levels := by
  obtain ⟨map, hmap⟩ := exists_levelMap?_of_ofPaths h
  exact ((extends_ofPaths hmap h).levels level).mpr (Or.inl ⟨path, hpath, Or.inl hlevel⟩)

/-- Every level of a selection of paths has an entity. -/
theorem mem_entities_of_ofPaths (h : ofPaths metadata rootEntity paths = .ok selection)
    (hlevel : level ∈ selection.levels) : level ∈ selection.entities.keys := by
  obtain ⟨map, hmap⟩ := exists_levelMap?_of_ofPaths h
  have hextends := extends_ofPaths hmap h
  have hpassed := (exists_ofPaths_iff hmap).mp ⟨selection, h⟩
  suffices hentity : ∃ entity, selection.entityAt level = some entity by
    obtain ⟨entity, hentity⟩ := hentity
    exact SortedMap.mem_keys_of_get? hentity
  by_cases hregisters : (Contribution.ofPaths map paths).registers level
  · obtain ⟨path, hpath, hregistered⟩ := hregisters
    obtain ⟨entity, hentity⟩ :=
      SortedMap.exists_get?_of_mem_keys (hregistered.mem_keys (hpassed path hpath))
    exact ⟨entity, (hextends.entities _ _).mpr (Or.inl ⟨⟨path, hpath, hregistered⟩, hentity⟩)⟩
  · rcases mem_levels_of_ofPaths h hlevel with rfl | ⟨path, hpath, hlevel⟩
    · refine ⟨rootEntity, (hextends.entities _ _).mpr (Or.inr ⟨hregisters, ?_⟩)⟩
      rw [entityAt_new, if_pos rfl]
    · exact absurd ⟨path, hpath, Registers.passed hlevel⟩ hregisters

/-- Every level that fields are requested at has an entity.  All levels on the way down to it
are registered exactly when each level that a path passes by a segment with a separator hangs
below the root or below a level that some path passes. -/
theorem connected_iff (h : ofPaths metadata rootEntity paths = .ok selection) :
    (∀ level ∈ selection.levels, level ∈ selection.entities.keys) ∧
      (selection.Connected ↔ ∀ path ∈ paths, ∀ above segment below,
        pathSegments path = above ++ segment :: below → below ≠ [] →
        Level.separator ∈ segment.toList →
          Level.parent (Level.joined (above ++ [segment])) = Level.root ∨
            ∃ other ∈ paths,
              Level.parent (Level.joined (above ++ [segment])) ∈ passedLevels other) := by
  refine ⟨fun level => mem_entities_of_ofPaths h, ?_, ?_⟩
  · intro hconnected path hpath above segment below hsegments hbelow _
    have hpassed : Level.joined (above ++ [segment]) ∈ passedLevels path :=
      mem_passedLevels.mpr ⟨above, segment, below, hsegments, hbelow, rfl⟩
    by_cases hroot : Level.joined (above ++ [segment]) = Level.root
    · rw [hroot]
      exact Or.inl (by decide)
    · rcases hconnected _ (mem_levels_of_passed h hpath hpassed) hroot with htop | ⟨hparent, -⟩
      · exact Or.inl htop
      · exact mem_levels_of_ofPaths h hparent
  · intro hjoins level hlevel hroot
    obtain ⟨path, hpath, hpassed⟩ := (mem_levels_of_ofPaths h hlevel).resolve_left hroot
    obtain ⟨above, segment, below, hsegments, hbelow, rfl⟩ := mem_passedLevels.mp hpassed
    have hparent : Level.parent (Level.joined (above ++ [segment])) = Level.root ∨
        ∃ other ∈ paths,
          Level.parent (Level.joined (above ++ [segment])) ∈ passedLevels other := by
      -- below a plain segment the path itself passes the parent
      by_cases hseparator : Level.separator ∈ segment.toList
      · exact hjoins path hpath above segment below hsegments hbelow hseparator
      · exact (parent_mem_passedLevels hsegments hseparator).imp_right fun hother =>
          ⟨path, hpath, hother⟩
    refine hparent.imp_right ?_
    rintro ⟨other, hother, hlevel⟩
    have hmem := mem_levels_of_passed h hother hlevel
    exact ⟨hmem, mem_entities_of_ofPaths h hmem⟩

end Selection

namespace Hospital

/-- The names of departments below hospitals, without the surgeons between them. -/
def departmentsAlone : Selection :=
  ((Selection.new "Hospital").withLevel "surgeon_department" "Department").withFields
    "surgeon_department" ["deptName"]

theorem ofPaths_departmentsAlone :
    Selection.ofPaths catalog.metadata "Hospital" ["surgeon_department/deptName"] =
      .ok departmentsAlone := by
  decide +kernel

/-- A path of one segment for two references passes the surgeons over.  They are selected where
another path passes them. -/
theorem surgeons_passed_over : ¬ departmentsAlone.Connected ∧
    ∃ selection, Selection.ofPaths catalog.metadata "Hospital"
      ["surgeon_department/deptName", "surgeon/name"] = .ok selection ∧ selection.Connected := by
  have hmap : catalog.metadata.levelMap? "Hospital" = some levels := levelMap_hospital
  have hpassed : ∀ path ∈ ["surgeon_department/deptName", "surgeon/name"],
      ∀ level ∈ passedLevels path, level ∈ levels.keys := by
    decide +kernel
  obtain ⟨selection, hselection⟩ := (Selection.exists_ofPaths_iff hmap).mpr hpassed
  refine ⟨?_, selection, hselection, (Selection.connected_iff hselection).2.mpr ?_⟩
  · rw [(Selection.connected_iff ofPaths_departmentsAlone).2]
    intro hpassed
    have hparent := hpassed _ List.mem_cons_self [] "surgeon_department" ["deptName"]
      (by decide +kernel) (by decide) (by decide)
    revert hparent
    decide +kernel
  · intro path hpath above segment below hsegments hbelow hseparator
    have hfirst : ∀ first last, pathSegments path = [first, last] →
        above = [] ∧ segment = first := by
      intro first last htwo
      obtain ⟨name, rest, rfl⟩ := List.exists_cons_of_ne_nil hbelow
      rw [htwo] at hsegments
      cases above with
      | nil =>
          cases hsegments
          exact ⟨rfl, rfl⟩
      | cons head tail =>
          have hlength := congrArg List.length hsegments
          simp at hlength
          omega
    rcases List.mem_pair.mp hpath with rfl | rfl
    · obtain ⟨rfl, rfl⟩ := hfirst "surgeon_department" "deptName" (by decide +kernel)
      exact Or.inr ⟨"surgeon/name", by simp, by decide +kernel⟩
    · obtain ⟨rfl, rfl⟩ := hfirst "surgeon" "name" (by decide +kernel)
      exact absurd hseparator (by decide)

/-- The levels that lead to a selected one need not be registered. -/
theorem not_forall_connected :
    ¬ ∀ (definitions : List EntityDef) (catalog : Catalog) (rootEntity : String)
      (paths : List String) (selection : Selection), Catalog.ofDefs definitions = .ok catalog →
      Selection.ofPaths catalog.metadata rootEntity paths = .ok selection →
      (∀ level ∈ selection.levels, level ∈ selection.entities.keys) ∧ selection.Connected := by
  intro hclaim
  have hconnected := (hclaim definitions catalog "Hospital" ["surgeon_department/deptName"]
    departmentsAlone ofDefs_definitions ofPaths_departmentsAlone).2
  revert hconnected
  decide +kernel

end Hospital

end SelectionSql
