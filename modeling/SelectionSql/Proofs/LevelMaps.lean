import SelectionSql.Proofs.Paths
import SelectionSql.Schema.LevelMap

/-!
# Level maps - Which positions lie below a root entity

The walk from a root entity names every path of references by the level that it reaches.
Without cycles it comes to its end before the bound on its depth is met, so a level map
has the root and the levels of all paths, and no other level.

Main results:

- `ReferenceGraph.mem_walk`: the positions of a walk are those of the paths within its depth.
- `ReferenceGraph.walkWithin_eq`: a walk ends within as many nested calls as there are
  definitions.
- `ReferenceGraph.parent_follow`: the level of a path lies below that of a shorter path, or
  below the root.
- `ReferenceGraph.levelMap_exact`: the levels and entities of a level map.
-/

namespace SelectionSql

namespace ReferenceGraph

variable {graph : ReferenceGraph} {depth calls : Nat} {entity : String} {level : Level}

/-! ## The positions of a walk -/

/-- The positions of a walk are those of the paths within its depth. -/
theorem mem_walk {position : Level × String} :
    position ∈ graph.walk depth entity level ↔
      ∃ path, path ≠ [] ∧ path.length ≤ depth ∧
        IsPath graph.definitions entity path position.2 ∧ level.follow path = position.1 := by
  induction depth generalizing entity level with
  | zero =>
      constructor
      · intro h
        exact absurd h List.not_mem_nil
      · rintro ⟨path, hpath, hlength, -⟩
        exact absurd (List.eq_nil_of_length_eq_zero (Nat.le_zero.mp hlength)) hpath
  | succ depth ih =>
      rw [mem_walk_succ]
      constructor
      · rintro ⟨reference, hreference, hposition⟩
        have hdeclares := mem_referencesOf.mp hreference
        rcases hposition with rfl | hposition
        · exact ⟨[reference], by simp, by simp, ⟨hdeclares, rfl⟩, rfl⟩
        · obtain ⟨path, -, hlength, hpath, hlevel⟩ := ih.mp hposition
          exact ⟨reference :: path, by simp, Nat.succ_le_succ hlength, ⟨hdeclares, hpath⟩, hlevel⟩
      · rintro ⟨path, hnonempty, hlength, hpath, hlevel⟩
        cases path with
        | nil => exact absurd rfl hnonempty
        | cons reference rest =>
            rcases hpath with ⟨hdeclares, hrest⟩
            refine ⟨reference, mem_referencesOf.mpr hdeclares, ?_⟩
            by_cases hempty : rest = []
            · subst hempty
              exact Or.inl (Prod.ext hlevel.symm hrest.symm)
            · exact Or.inr (ih.mpr ⟨rest, hempty, Nat.le_of_succ_le_succ hlength, hrest, hlevel⟩)

/-! ## The end of a walk -/

/-- A walk within a number of nested calls: nothing when they do not suffice.  Unlike
`walk` it tells a walk that is cut off from one that has come to its end. -/
def walkWithin (graph : ReferenceGraph) : Nat → String → Level → Option (List (Level × String))
  | 0, _, _ => none
  | calls + 1, entity, level =>
      ((graph.referencesOf entity).mapM fun reference =>
        let below := Level.child level reference.name
        (graph.walkWithin calls reference.target below).map fun further =>
          (below, reference.target) :: further).map List.flatten

/-- When all paths are shorter than the number of calls, a walk comes to its end, and it is
not cut off at a depth that no path exceeds. -/
theorem walkWithin_eq_of_paths
    (hcalls : ∀ path target, IsPath graph.definitions entity path target → path.length < calls)
    (hdepth : ∀ path target, IsPath graph.definitions entity path target → path.length ≤ depth) :
    graph.walkWithin calls entity level = some (graph.walk depth entity level) := by
  induction calls generalizing depth entity level with
  | zero => exact absurd (hcalls [] entity rfl) (Nat.not_lt_zero _)
  | succ calls ih =>
      cases depth with
      | zero =>
          -- a first reference would be a path of length one
          have hnil : graph.referencesOf entity = [] := by
            by_contra hne
            obtain ⟨reference, hreference⟩ := List.exists_mem_of_ne_nil _ hne
            have hshort := hdepth [reference] reference.target
              ⟨mem_referencesOf.mp hreference, rfl⟩
            exact absurd hshort (Nat.not_succ_le_zero 0)
          simp [walkWithin, walk, hnil]
      | succ depth =>
          have hbelow : ∀ reference ∈ graph.referencesOf entity,
              graph.walkWithin calls reference.target (Level.child level reference.name) =
                some (graph.walk depth reference.target (Level.child level reference.name)) := by
            intro reference hreference
            have hdeclares := mem_referencesOf.mp hreference
            apply ih
            · intro path target hpath
              exact Nat.lt_of_succ_lt_succ (hcalls (reference :: path) target ⟨hdeclares, hpath⟩)
            · intro path target hpath
              exact Nat.le_of_succ_le_succ (hdepth (reference :: path) target ⟨hdeclares, hpath⟩)
          rw [walkWithin, walk, Outcome.mapM_eq_some fun reference =>
            (Level.child level reference.name, reference.target) ::
              graph.walk depth reference.target (Level.child level reference.name)]
          · rw [Option.map_some, List.flatMap_def]
          · intro reference hreference
            simp only [hbelow reference hreference, Option.map_some]

/-- Without cycles a walk ends within as many nested calls as there are definitions. -/
theorem walkWithin_eq (hacyclic : graph.requireAcyclic = .ok ())
    (hentity : entity ∈ graph.definitions.map EntityDef.name)
    (hcalls : graph.definitions.length ≤ calls) :
    graph.walkWithin calls entity level =
      some (graph.walk graph.definitions.length entity level) := by
  have hlength : ∀ path target, IsPath graph.definitions entity path target →
      path.length < graph.definitions.length := fun path target hpath =>
    length_lt_of_isPath (requireAcyclic_eq_ok.mp hacyclic) hentity hpath
  apply walkWithin_eq_of_paths
  · intro path target hpath
    exact Nat.lt_of_lt_of_le (hlength path target hpath) hcalls
  · intro path target hpath
    exact Nat.le_of_lt (hlength path target hpath)

/-! ## Levels of paths -/

/-- The level of a path of one more reference lies below that of the path, or below the root
when that level is empty. -/
theorem parent_follow {path : List ReferenceDef} {reference : ReferenceDef}
    (hname : Level.separator ∉ reference.name.toList) :
    Level.parent (Level.follow "" (path ++ [reference])) =
      if Level.follow "" path = "" then Level.root else Level.follow "" path := by
  rw [Level.follow_concat]
  split
  next hempty =>
    rw [hempty]
    exact Level.parent_of_not_mem hname
  next hne => exact Level.parent_child hne hname

/-- The positions below a root entity are those of its paths, however long. -/
theorem mem_walk_length (hacyclic : graph.requireAcyclic = .ok ())
    (hentity : entity ∈ graph.definitions.map EntityDef.name) {position : Level × String} :
    position ∈ graph.walk graph.definitions.length entity level ↔
      ∃ path, path ≠ [] ∧ IsPath graph.definitions entity path position.2 ∧
        level.follow path = position.1 := by
  rw [mem_walk]
  constructor
  · rintro ⟨path, hnonempty, -, hpath⟩
    exact ⟨path, hnonempty, hpath⟩
  · rintro ⟨path, hnonempty, hpath, hlevel⟩
    have hlength := length_lt_of_isPath (requireAcyclic_eq_ok.mp hacyclic) hentity hpath
    exact ⟨path, hnonempty, Nat.le_of_lt hlength, hpath, hlevel⟩

end ReferenceGraph

/-! ## Exactness -/

/-- What a level map holds, said with paths of references. -/
structure LevelMap.Exact (map : LevelMap) (definitions : List EntityDef) (rootEntity : String) :
    Prop where
  /-- The levels are the root and those of the paths from the root entity. -/
  levels : ∀ level, level ∈ map.keys ↔ level = Level.root ∨
    ∃ path target, path ≠ [] ∧ IsPath definitions rootEntity path target ∧
      Level.follow "" path = level
  /-- The entity at a level is the end of a path with that level, or the root entity. -/
  entities : ∀ level entity, map.get? level = some entity →
    (level = Level.root ∧ entity = rootEntity) ∨
      ∃ path, path ≠ [] ∧ IsPath definitions rootEntity path entity ∧
        Level.follow "" path = level
  /-- Every entity is defined. -/
  defined : ∀ level entity, map.get? level = some entity →
    entity ∈ definitions.map EntityDef.name
  /-- With a level its parent is there. -/
  parents : ∀ level ∈ map.keys, Level.parent level ∈ map.keys

namespace ReferenceGraph

variable {graph : ReferenceGraph} {map : LevelMap} {rootEntity : String}

/-- The level map of a defined entity holds the root and the walk. -/
theorem levelMap?_eq_some : graph.levelMap? rootEntity = some map ↔
    rootEntity ∈ graph.definitions.map EntityDef.name ∧
      map = SortedMap.ofList ((Level.root, rootEntity) ::
        graph.walk graph.definitions.length rootEntity "") := by
  unfold levelMap? defines
  by_cases hroot : rootEntity ∈ graph.definitions.map EntityDef.name
  · rw [if_pos (decide_eq_true hroot), Option.some.injEq, and_iff_right hroot, eq_comm]
  · rw [decide_eq_false hroot]
    simp [hroot]

/-- What a level map holds is the root entity at the root, or the end of a path. -/
theorem path_of_get? (hacyclic : graph.requireAcyclic = .ok ())
    (hmap : graph.levelMap? rootEntity = some map) (h : map.get? level = some entity) :
    (level = Level.root ∧ entity = rootEntity) ∨
      ∃ path, path ≠ [] ∧ IsPath graph.definitions rootEntity path entity ∧
        Level.follow "" path = level := by
  obtain ⟨hroot, rfl⟩ := levelMap?_eq_some.mp hmap
  rcases List.mem_cons.mp (SortedMap.mem_of_get?_ofList h) with hhead | hmem
  · exact Or.inl (Prod.mk.inj hhead)
  · exact Or.inr ((mem_walk_length hacyclic hroot).mp hmem)

/-- A level map has the root and the level of every path. -/
theorem mem_keys_levelMap? (hacyclic : graph.requireAcyclic = .ok ())
    (hmap : graph.levelMap? rootEntity = some map) :
    level ∈ map.keys ↔ level = Level.root ∨ ∃ path target, path ≠ [] ∧
      IsPath graph.definitions rootEntity path target ∧ Level.follow "" path = level := by
  constructor
  · intro hlevel
    obtain ⟨entity, hentity⟩ := SortedMap.exists_get?_of_mem_keys hlevel
    rcases path_of_get? hacyclic hmap hentity with ⟨hlevel, -⟩ | ⟨path, hpath⟩
    · exact Or.inl hlevel
    · exact Or.inr ⟨path, entity, hpath⟩
  · intro h
    obtain ⟨hroot, rfl⟩ := levelMap?_eq_some.mp hmap
    rw [← SortedMap.contains_iff_mem_keys, SortedMap.contains, Option.isSome_iff_exists]
    apply SortedMap.exists_get?_ofList
    rcases h with rfl | ⟨path, target, hpath⟩
    · exact List.mem_cons_self
    · have hmem : (level, target) ∈ graph.walk graph.definitions.length rootEntity "" :=
        (mem_walk_length hacyclic hroot).mpr ⟨path, hpath⟩
      exact List.mem_cons_of_mem _ (List.mem_map_of_mem hmem)

/-- With a level a level map has its parent: the level of the path without its last
reference, or the root. -/
theorem parent_mem_keys (hacyclic : graph.requireAcyclic = .ok ())
    (hmap : graph.levelMap? rootEntity = some map) (hlevel : level ∈ map.keys) :
    Level.parent level ∈ map.keys := by
  rcases (mem_keys_levelMap? hacyclic hmap).mp hlevel with rfl | hpath
  · exact hlevel
  · obtain ⟨path, target, hnonempty, hpath, rfl⟩ := hpath
    obtain ⟨before, last, above, rfl, hbefore, hlast, -⟩ := exists_concat_of_isPath hnonempty hpath
    rw [mem_keys_levelMap? hacyclic hmap, parent_follow (separator_not_mem hlast)]
    by_cases hempty : Level.follow "" before = ""
    · exact Or.inl (if_pos hempty)
    · rw [if_neg hempty]
      have hbeforeNonempty : before ≠ [] := by
        rintro rfl
        exact hempty rfl
      exact Or.inr ⟨before, above, hbeforeNonempty, hbefore, rfl⟩

/-- The level map of an acyclic graph is exact. -/
theorem exact_of_levelMap? (hacyclic : graph.requireAcyclic = .ok ())
    (hmap : graph.levelMap? rootEntity = some map) :
    map.Exact graph.definitions rootEntity where
  levels _ := mem_keys_levelMap? hacyclic hmap
  entities _ _ := path_of_get? hacyclic hmap
  defined := by
    intro level entity hget
    rcases path_of_get? hacyclic hmap hget with ⟨-, rfl⟩ | ⟨path, hnonempty, hpath, -⟩
    · exact (levelMap?_eq_some.mp hmap).1
    · exact mem_definitions_of_leadsTo (leadsTo_of_isPath hnonempty hpath)
  parents _ := parent_mem_keys hacyclic hmap

/-- From a defined entity of accepted references without cycles, the walk ends within as many
nested calls as there are definitions, and the level map holds the root and its positions:
exactly the levels of the paths. -/
theorem levelMap_exact {definitions : List EntityDef} (hgraph : ofDefs definitions = .ok graph)
    (hacyclic : graph.requireAcyclic = .ok ())
    (hroot : rootEntity ∈ definitions.map EntityDef.name) :
    ∃ positions map,
      (∀ calls, definitions.length ≤ calls →
        graph.walkWithin calls rootEntity "" = some positions) ∧
      graph.levelMap? rootEntity = some map ∧
      map = SortedMap.ofList ((Level.root, rootEntity) :: positions) ∧
      map.Exact definitions rootEntity := by
  cases definitions_of_ofDefs hgraph
  have hmap := levelMap?_eq_some.mpr ⟨hroot, rfl⟩
  refine ⟨_, _, ?_, hmap, rfl, exact_of_levelMap? hacyclic hmap⟩
  intro calls hcalls
  exact walkWithin_eq hacyclic hroot hcalls

end ReferenceGraph

namespace Hospital

/-- Two wards that share their nurses, and the nurses' surgeons. -/
def wards : List EntityDef :=
  [{ name := "Hospital", table := "hospital_tbl"
     references := [{ name := "ward", target := "Ward" }, { name := "clinic", target := "Ward" }] },
   { name := "Ward", table := "ward_tbl"
     references := [{ name := "nurse", target := "Nurse" }] },
   { name := "Nurse", table := "nurse_tbl"
     references := [{ name := "surgeon", target := "Surgeon" }] },
   { name := "Surgeon", table := "surgeon_tbl" }]

/-- Every path from the hospital to a surgeon has a level of its own. -/
theorem exists_exact_levelMap : ∃ graph map, ReferenceGraph.ofDefs wards = .ok graph ∧
    graph.levelMap? "Hospital" = some map ∧
    map.keys = ["clinic", "clinic_nurse", "clinic_nurse_surgeon", "rootObject",
      "ward", "ward_nurse", "ward_nurse_surgeon"] ∧ map.Exact wards "Hospital" := by
  have h : (ReferenceGraph.ofDefs wards).map (fun graph =>
      (graph.requireAcyclic, (graph.levelMap? "Hospital").map SortedMap.keys)) =
      .ok (.ok (), some ["clinic", "clinic_nurse", "clinic_nurse_surgeon", "rootObject",
        "ward", "ward_nurse", "ward_nurse_surgeon"]) := by decide +kernel
  obtain ⟨graph, hgraph, heq⟩ := Outcome.map_eq_ok.mp h
  obtain ⟨hacyclic, hkeys⟩ := Prod.mk.inj heq
  have hroot : "Hospital" ∈ wards.map EntityDef.name := by decide
  obtain ⟨positions, map, -, hmap, -, hexact⟩ :=
    ReferenceGraph.levelMap_exact hgraph hacyclic hroot
  rw [hmap, Option.map_some, Option.some.injEq] at hkeys
  exact ⟨graph, map, hgraph, hmap, hkeys, hexact⟩

end Hospital

end SelectionSql
