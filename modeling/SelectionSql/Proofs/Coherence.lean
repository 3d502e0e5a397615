import SelectionSql.Proofs.JoinPlan
import SelectionSql.Proofs.LevelMaps

/-!
# Coherence - When levels are unambiguous

A level map is coherent when every level other than the root holds what the one reference of
its name leads to from the entity at the level above.  Reference names without separators
are not enough for that: a reference may have the reserved name of the root, an empty name,
or the name of another reference of the same entity.

Main results:

- `ReferenceGraph.coherent_iff_locates`: a level map is coherent exactly when every level
  leads, name by name, from the root entity to the entity that it holds and to no other.
- `ReferenceGraph.coherent_iff_distinct`: unless the root entity declares an empty name, that
  is, when no reference of the root entity has the name of the root and references of one
  entity with the same name have the same target.
- `Catalog.get?_rootMaps`: which level maps a catalog holds.
- `Catalog.coherent_iff`: both, for the level maps of accepted definitions.
-/

namespace SelectionSql

open Relation

variable {definitions : List EntityDef} {graph : ReferenceGraph} {map : LevelMap}
variable {rootEntity entity other : String} {level : Level} {path : List ReferenceDef}
variable {reference : ReferenceDef}

/-! ## Coherent level maps -/

/-- A level map is coherent when the root holds the root entity and every other level holds
what each reference with its name leads to from the entity at the level above, where there
is such a reference. -/
structure LevelMap.Coherent (map : LevelMap) (definitions : List EntityDef)
    (rootEntity : String) : Prop where
  root : map.get? Level.root = some rootEntity
  declared : ∀ level entity, map.get? level = some entity → level ≠ Level.root →
    ∃ above, map.get? (Level.parent level) = some above ∧
      (∃ reference, Declares definitions above reference ∧
        reference.name = Level.reference level ∧ reference.target = entity) ∧
      ∀ reference, Declares definitions above reference →
        reference.name = Level.reference level → reference.target = entity

/-- A level locates the entities that references with its names lead to, one after another,
from the root entity. -/
inductive Locates (definitions : List EntityDef) (rootEntity : String) : Level → String → Prop
  | direct {level : Level} {reference : ReferenceDef} (hlevel : Level.separator ∉ level.toList)
      (hreference : Declares definitions rootEntity reference) (hname : reference.name = level) :
      Locates definitions rootEntity level reference.target
  | nested {level : Level} {above : String} {reference : ReferenceDef}
      (hlevel : Level.separator ∈ level.toList)
      (habove : Locates definitions rootEntity (Level.parent level) above)
      (hreference : Declares definitions above reference)
      (hname : reference.name = Level.reference level) :
      Locates definitions rootEntity level reference.target

/-- Entities have one target for each name of a reference. -/
def NamesDistinct (definitions : List EntityDef) (entity : String) : Prop :=
  ∀ first second, Declares definitions entity first → Declares definitions entity second →
    first.name = second.name → first.target = second.target

/-- What a level locates is reached from the root entity. -/
theorem reflTransGen_of_locates (h : Locates definitions rootEntity level entity) :
    ReflTransGen (RefersTo definitions) rootEntity entity := by
  induction h with
  | direct hlevel hreference hname => exact ReflTransGen.single ⟨_, hreference, rfl⟩
  | nested hlevel habove hreference hname ih => exact ih.tail ⟨_, hreference, rfl⟩

/-- When names are distinct, a level locates one entity at most. -/
theorem eq_of_locates
    (hdistinct : ∀ entity, ReflTransGen (RefersTo definitions) rootEntity entity →
      NamesDistinct definitions entity)
    (h : Locates definitions rootEntity level entity)
    (hother : Locates definitions rootEntity level other) : entity = other := by
  induction h generalizing other with
  | direct hlevel hreference hname =>
      cases hother with
      | direct _ hother hsame =>
          exact hdistinct _ ReflTransGen.refl _ _ hreference hother (hname.trans hsame.symm)
      | nested hnested => exact absurd hnested hlevel
  | nested hlevel habove hreference hname ih =>
      cases hother with
      | direct hflat => exact absurd hlevel hflat
      | nested _ hsame hother hothername =>
          have hreached := reflTransGen_of_locates habove
          cases ih hsame
          exact hdistinct _ hreached _ _ hreference hother (hname.trans hothername.symm)

namespace ReferenceGraph

/-! ## The root -/

/-- A path that ends at the root level takes the root away from the root entity. -/
theorem get?_root_ne (hacyclic : graph.requireAcyclic = .ok ())
    (hmap : graph.levelMap? rootEntity = some map) (hnonempty : path ≠ [])
    (hpath : IsPath graph.definitions rootEntity path entity)
    (hlevel : Level.follow "" path = Level.root) : map.get? Level.root ≠ some rootEntity := by
  obtain ⟨hroot, rfl⟩ := levelMap?_eq_some.mp hmap
  have hmem : (Level.root, entity) ∈ graph.walk graph.definitions.length rootEntity "" :=
    (mem_walk_length hacyclic hroot).mpr ⟨path, hnonempty, hpath, hlevel⟩
  obtain ⟨last, hlast⟩ := SortedMap.exists_get?_ofList (List.mem_map_of_mem hmem)
  rw [SortedMap.get?_ofList_cons, hlast, Option.some_or]
  intro heq
  cases Option.some.inj heq
  -- the root entity would be the end of a path from itself
  obtain ⟨cycle, hcycle, hreturn, -⟩ :=
    (mem_walk_length hacyclic hroot).mp (SortedMap.mem_of_get?_ofList hlast)
  exact requireAcyclic_eq_ok.mp hacyclic _ (leadsTo_of_isPath hcycle hreturn)

/-- While the root holds the root entity, no nested level hangs from the root. -/
theorem parent_ne_root (hacyclic : graph.requireAcyclic = .ok ())
    (hmap : graph.levelMap? rootEntity = some map)
    (hroot : map.get? Level.root = some rootEntity) (hget : map.get? level = some entity)
    (hnested : Level.separator ∈ level.toList) : Level.parent level ≠ Level.root := by
  intro hparent
  rcases path_of_get? hacyclic hmap hget with ⟨rfl, -⟩ | ⟨path, hnonempty, hpath, rfl⟩
  · exact absurd hnested (by decide)
  · obtain ⟨before, last, above, rfl, hbefore, hlast, -⟩ := exists_concat_of_isPath hnonempty hpath
    have hname := separator_not_mem hlast
    have hempty : Level.follow "" before ≠ "" := by
      intro hempty
      rw [Level.follow_concat, hempty] at hnested
      exact hname hnested
    rw [parent_follow hname, if_neg hempty] at hparent
    have hbeforeNonempty : before ≠ [] := by
      rintro rfl
      exact hempty rfl
    exact get?_root_ne hacyclic hmap hbeforeNonempty hbefore hparent hroot

/-! ## Levels that locate their entities -/

/-- In a coherent level map every level other than the root locates what it holds: the level
above does, and it lies closer to the root. -/
theorem locates_iff_of_coherent (hacyclic : graph.requireAcyclic = .ok ())
    (hmap : graph.levelMap? rootEntity = some map)
    (hcoherent : map.Coherent graph.definitions rootEntity)
    (hget : map.get? level = some entity) (hlevel : level ≠ Level.root) :
    Locates graph.definitions rootEntity level other ↔ other = entity := by
  induction hheight : Level.height level using Nat.strong_induction_on
    generalizing level entity other with
  | _ height ih =>
      obtain ⟨above, habove, ⟨reference, hreference, hname, htarget⟩, honly⟩ :=
        hcoherent.declared level entity hget hlevel
      by_cases hnested : Level.separator ∈ level.toList
      · have hparent := parent_ne_root hacyclic hmap hcoherent.root hget hnested
        have hcloser : Level.height (Level.parent level) < height :=
          hheight ▸ Level.height_parent_lt hlevel
        constructor
        · intro h
          cases h with
          | direct hflat => exact absurd hnested hflat
          | nested _ hother hdeclares hsame =>
              cases (ih _ hcloser habove hparent rfl).mp hother
              exact honly _ hdeclares hsame
        · rintro rfl
          have hlocates := (ih _ hcloser habove hparent rfl).mpr rfl
          exact htarget ▸ Locates.nested hnested hlocates hreference hname
      · rw [Level.parent_of_not_mem hnested] at habove
        rw [Level.reference_of_not_mem hnested] at hname honly
        cases Option.some.inj (hcoherent.root.symm.trans habove)
        constructor
        · intro h
          cases h with
          | direct _ hdeclares hsame => exact honly _ hdeclares hsame
          | nested hsep => exact absurd hsep hnested
        · rintro rfl
          exact htarget ▸ Locates.direct hnested hreference hname

/-- When the root holds the root entity and every other level locates what it holds and
nothing else, a level map is coherent. -/
theorem coherent_of_locates (hacyclic : graph.requireAcyclic = .ok ())
    (hmap : graph.levelMap? rootEntity = some map)
    (hroot : map.get? Level.root = some rootEntity)
    (hlocates : ∀ level entity, map.get? level = some entity → level ≠ Level.root →
      ∀ other, Locates graph.definitions rootEntity level other ↔ other = entity) :
    map.Coherent graph.definitions rootEntity := by
  refine ⟨hroot, ?_⟩
  intro level entity hget hlevel
  cases (hlocates level entity hget hlevel entity).mpr rfl with
  | @direct _ reference hflat hreference hname =>
      refine ⟨rootEntity, ?_, ⟨reference, hreference, ?_, rfl⟩, ?_⟩
      · rw [Level.parent_of_not_mem hflat]
        exact hroot
      · rw [Level.reference_of_not_mem hflat]
        exact hname
      · intro other hother hsame
        rw [Level.reference_of_not_mem hflat] at hsame
        exact (hlocates level _ hget hlevel _).mp (Locates.direct hflat hother hsame)
  | @nested _ above reference hnested habove hreference hname =>
      have hparent := parent_ne_root hacyclic hmap hroot hget hnested
      have hkey : Level.parent level ∈ map.keys :=
        parent_mem_keys hacyclic hmap (SortedMap.mem_keys_of_get? hget)
      obtain ⟨held, hheld⟩ := SortedMap.exists_get?_of_mem_keys hkey
      -- the level above holds what it locates
      cases (hlocates _ held hheld hparent above).mp habove
      refine ⟨above, hheld, ⟨reference, hreference, hname, rfl⟩, ?_⟩
      intro other hother hsame
      exact (hlocates level _ hget hlevel _).mp (Locates.nested hnested habove hother hsame)

/-- A level map is coherent exactly when the root holds the root entity and every other level
locates the entity that it holds and no other. -/
theorem coherent_iff_locates (hacyclic : graph.requireAcyclic = .ok ())
    (hmap : graph.levelMap? rootEntity = some map) :
    map.Coherent graph.definitions rootEntity ↔
      map.get? Level.root = some rootEntity ∧
        ∀ level entity, map.get? level = some entity → level ≠ Level.root →
          ∀ other, Locates graph.definitions rootEntity level other ↔ other = entity := by
  constructor
  · intro hcoherent
    refine ⟨hcoherent.root, ?_⟩
    intro level entity hget hlevel other
    exact locates_iff_of_coherent hacyclic hmap hcoherent hget hlevel
  · rintro ⟨hroot, hlocates⟩
    exact coherent_of_locates hacyclic hmap hroot hlocates

/-! ## Distinct names -/

/-- Unless the root entity declares an empty name, no path ends at the empty level. -/
theorem follow_ne_empty
    (hnames : ∀ reference, Declares graph.definitions rootEntity reference → reference.name ≠ "")
    (hnonempty : path ≠ []) (hpath : IsPath graph.definitions rootEntity path entity) :
    Level.follow "" path ≠ "" := by
  induction path using List.reverseRecOn generalizing entity with
  | nil => exact absurd rfl hnonempty
  | append_singleton before last ih =>
      obtain ⟨above, hbefore, hlast, -⟩ := isPath_concat.mp hpath
      rw [Level.follow_concat]
      by_cases hempty : before = []
      · subst hempty
        cases hbefore
        exact hnames last hlast
      · intro h
        have hchars := @Level.toList_child _ last.name (ih hempty hbefore)
        rw [h] at hchars
        simp at hchars

/-- Unless the root entity declares an empty name, the level of a path locates its end. -/
theorem locates_of_isPath
    (hnames : ∀ reference, Declares graph.definitions rootEntity reference → reference.name ≠ "")
    (hnonempty : path ≠ []) (hpath : IsPath graph.definitions rootEntity path entity) :
    Locates graph.definitions rootEntity (Level.follow "" path) entity := by
  induction path using List.reverseRecOn generalizing entity with
  | nil => exact absurd rfl hnonempty
  | append_singleton before last ih =>
      obtain ⟨above, hbefore, hlast, rfl⟩ := isPath_concat.mp hpath
      have hname := separator_not_mem hlast
      rw [Level.follow_concat]
      by_cases hempty : before = []
      · subst hempty
        cases hbefore
        exact Locates.direct hname hlast rfl
      · have hup := follow_ne_empty hnames hempty hbefore
        refine Locates.nested ?_ ?_ hlast ?_
        · rw [Level.toList_child hup]
          exact List.mem_append_right _ List.mem_cons_self
        · rw [Level.parent_child hup hname]
          exact ih hempty hbefore
        · exact (Level.reference_child hup hname).symm

/-- Below the root of a coherent level map no reference has the name of the root. -/
theorem name_ne_root_of_coherent (hacyclic : graph.requireAcyclic = .ok ())
    (hmap : graph.levelMap? rootEntity = some map)
    (hcoherent : map.Coherent graph.definitions rootEntity)
    (hreference : Declares graph.definitions rootEntity reference) :
    reference.name ≠ Level.root := by
  intro hname
  have hpath : IsPath graph.definitions rootEntity [reference] reference.target :=
    ⟨hreference, rfl⟩
  exact get?_root_ne hacyclic hmap (List.cons_ne_nil _ _) hpath hname hcoherent.root

/-- The end of a path is what its level holds, in a coherent level map of an entity that
declares no empty name. -/
theorem get?_follow_of_coherent (hacyclic : graph.requireAcyclic = .ok ())
    (hmap : graph.levelMap? rootEntity = some map)
    (hnames : ∀ reference, Declares graph.definitions rootEntity reference → reference.name ≠ "")
    (hcoherent : map.Coherent graph.definitions rootEntity)
    (hnonempty : path ≠ []) (hpath : IsPath graph.definitions rootEntity path entity) :
    map.get? (Level.follow "" path) = some entity := by
  have hlevel : Level.follow "" path ≠ Level.root := fun heq =>
    get?_root_ne hacyclic hmap hnonempty hpath heq hcoherent.root
  have hkey : Level.follow "" path ∈ map.keys :=
    (mem_keys_levelMap? hacyclic hmap).mpr (Or.inr ⟨path, entity, hnonempty, hpath, rfl⟩)
  obtain ⟨held, hheld⟩ := SortedMap.exists_get?_of_mem_keys hkey
  have hlocates := locates_of_isPath hnames hnonempty hpath
  rw [(locates_iff_of_coherent hacyclic hmap hcoherent hheld hlevel).mp hlocates]
  exact hheld

/-- References of one entity with the same name end paths with the same level, so they have
the same target when the level map is coherent. -/
theorem namesDistinct_of_coherent (hacyclic : graph.requireAcyclic = .ok ())
    (hmap : graph.levelMap? rootEntity = some map)
    (hnames : ∀ reference, Declares graph.definitions rootEntity reference → reference.name ≠ "")
    (hcoherent : map.Coherent graph.definitions rootEntity)
    (hreached : ReflTransGen (RefersTo graph.definitions) rootEntity entity) :
    NamesDistinct graph.definitions entity := by
  intro first second hfirst hsecond hname
  obtain ⟨path, hpath⟩ := exists_isPath hreached
  have hheld : ∀ reference, Declares graph.definitions entity reference →
      map.get? (Level.child (Level.follow "" path) reference.name) = some reference.target := by
    intro reference hreference
    rw [← Level.follow_concat]
    have hconcat : IsPath graph.definitions rootEntity (path ++ [reference]) reference.target :=
      isPath_concat.mpr ⟨entity, hpath, hreference, rfl⟩
    exact get?_follow_of_coherent hacyclic hmap hnames hcoherent (by simp) hconcat
  have hsame := hheld first hfirst
  rw [hname, hheld second hsecond] at hsame
  exact (Option.some.inj hsame).symm

/-- A level map is coherent when the root entity declares neither an empty name nor the name
of the root and the entities below it have one target for each name. -/
theorem coherent_of_distinct (hacyclic : graph.requireAcyclic = .ok ())
    (hmap : graph.levelMap? rootEntity = some map)
    (hnames : ∀ reference, Declares graph.definitions rootEntity reference → reference.name ≠ "")
    (hreserved : ∀ reference, Declares graph.definitions rootEntity reference →
      reference.name ≠ Level.root)
    (hdistinct : ∀ entity, ReflTransGen (RefersTo graph.definitions) rootEntity entity →
      NamesDistinct graph.definitions entity) :
    map.Coherent graph.definitions rootEntity := by
  apply coherent_of_locates hacyclic hmap
  · have hkey : Level.root ∈ map.keys := (mem_keys_levelMap? hacyclic hmap).mpr (Or.inl rfl)
    obtain ⟨held, hheld⟩ := SortedMap.exists_get?_of_mem_keys hkey
    rcases path_of_get? hacyclic hmap hheld with ⟨-, rfl⟩ | ⟨path, hnonempty, hpath, hlevel⟩
    · exact hheld
    · have hlocates := locates_of_isPath hnames hnonempty hpath
      rw [hlevel] at hlocates
      cases hlocates with
      | direct _ hreference hname => exact absurd hname (hreserved _ hreference)
      | nested hnested => exact absurd hnested (by decide)
  · intro level entity hget hlevel other
    have hlocates : Locates graph.definitions rootEntity level entity := by
      rcases path_of_get? hacyclic hmap hget with ⟨heq, -⟩ | ⟨path, hnonempty, hpath, rfl⟩
      · exact absurd heq hlevel
      · exact locates_of_isPath hnames hnonempty hpath
    constructor
    · intro hother
      exact eq_of_locates hdistinct hother hlocates
    · rintro rfl
      exact hlocates

/-- Unless the root entity declares an empty name, its level map is coherent exactly when it
declares no reference with the name of the root and the entities below it have one target
for each name. -/
theorem coherent_iff_distinct (hacyclic : graph.requireAcyclic = .ok ())
    (hmap : graph.levelMap? rootEntity = some map)
    (hnames : ∀ reference, Declares graph.definitions rootEntity reference →
      reference.name ≠ "") :
    map.Coherent graph.definitions rootEntity ↔
      (∀ reference, Declares graph.definitions rootEntity reference →
        reference.name ≠ Level.root) ∧
      ∀ entity, ReflTransGen (RefersTo graph.definitions) rootEntity entity →
        NamesDistinct graph.definitions entity := by
  constructor
  · intro hcoherent
    constructor
    · intro reference hreference
      exact name_ne_root_of_coherent hacyclic hmap hcoherent hreference
    · intro entity hreached
      exact namesDistinct_of_coherent hacyclic hmap hnames hcoherent hreached
  · rintro ⟨hreserved, hdistinct⟩
    exact coherent_of_distinct hacyclic hmap hnames hreserved hdistinct

end ReferenceGraph

/-! ## Level maps of a catalog -/

namespace Catalog

/-- The level map under a name is that of the root entity with that name. -/
theorem get?_rootMaps :
    (rootMaps graph).get? rootEntity = some map ↔
      (∃ definition ∈ graph.definitions, definition.root = true ∧ definition.name = rootEntity) ∧
        graph.levelMap? rootEntity = some map := by
  have hheld : ∀ held, (rootMaps graph).get? rootEntity = some held →
      (∃ definition ∈ graph.definitions, definition.root = true ∧ definition.name = rootEntity) ∧
        graph.levelMap? rootEntity = some held := by
    intro held hget
    obtain ⟨definition, hdefinition, hentry⟩ :=
      List.mem_filterMap.mp (SortedMap.mem_of_get?_ofList hget)
    obtain ⟨found, hfound, heq⟩ := Option.map_eq_some_iff.mp hentry
    obtain ⟨rfl, rfl⟩ := Prod.mk.inj heq
    obtain ⟨hmem, hroot⟩ := List.mem_filter.mp hdefinition
    exact ⟨⟨definition, hmem, hroot, rfl⟩, hfound⟩
  constructor
  · exact hheld map
  · rintro ⟨⟨definition, hdefinition, hroot, rfl⟩, hmap⟩
    have hkey : definition.name ∈ ((graph.definitions.filter EntityDef.root).filterMap
        fun definition =>
          (graph.levelMap? definition.name).map fun map => (definition.name, map)).map Prod.fst := by
      refine List.mem_map.mpr ⟨(definition.name, map), List.mem_filterMap.mpr ?_, rfl⟩
      exact ⟨definition, List.mem_filter.mpr ⟨hdefinition, hroot⟩, by rw [hmap, Option.map_some]⟩
    -- whatever is bound there is the level map of this name
    obtain ⟨held, hget⟩ := SortedMap.exists_get?_ofList hkey
    have hsame := (hheld held hget).2
    cases Option.some.inj (hmap.symm.trans hsame)
    exact hget

/-- The level maps of a catalog are those of an acyclic graph of its definitions. -/
theorem exists_graph_of_levelMaps {catalog : Catalog} (hcatalog : ofDefs definitions = .ok catalog)
    (hmap : catalog.levelMaps.get? rootEntity = some map) :
    ∃ graph : ReferenceGraph, graph.definitions = definitions ∧
      graph.requireAcyclic = .ok () ∧ graph.levelMap? rootEntity = some map := by
  obtain ⟨entities, graph, -, hgraph, hcycle, rfl⟩ := ofDefs_eq_ok.mp hcatalog
  have hacyclic := ReferenceGraph.requireAcyclic_eq_ok.mpr (ReferenceGraph.cycle?_eq_none.mp hcycle)
  refine ⟨graph, ReferenceGraph.definitions_of_ofDefs hgraph, hacyclic, ?_⟩
  exact (get?_rootMaps.mp hmap).2

/-- The level map of a root entity of accepted definitions is coherent exactly when the root
holds the root entity and every other level locates what it holds and nothing else.  Unless
the root entity declares an empty name, this is so exactly when it declares no reference with
the name of the root and the entities below it have one target for each name. -/
theorem coherent_iff {catalog : Catalog} (hcatalog : ofDefs definitions = .ok catalog)
    (hmap : catalog.levelMaps.get? rootEntity = some map) :
    (map.Coherent definitions rootEntity ↔
      map.get? Level.root = some rootEntity ∧
        ∀ level entity, map.get? level = some entity → level ≠ Level.root →
          ∀ other, Locates definitions rootEntity level other ↔ other = entity) ∧
    ((∀ reference, Declares definitions rootEntity reference → reference.name ≠ "") →
      (map.Coherent definitions rootEntity ↔
        (∀ reference, Declares definitions rootEntity reference →
          reference.name ≠ Level.root) ∧
        ∀ entity, ReflTransGen (RefersTo definitions) rootEntity entity →
          NamesDistinct definitions entity)) := by
  obtain ⟨graph, rfl, hacyclic, hlevels⟩ := exists_graph_of_levelMaps hcatalog hmap
  refine ⟨ReferenceGraph.coherent_iff_locates hacyclic hlevels, ?_⟩
  intro hnames
  exact ReferenceGraph.coherent_iff_distinct hacyclic hlevels hnames

end Catalog

namespace Hospital

/-- Hospitals refer to surgeons and surgeons to departments. -/
theorem declares_definitions {entity : String} {reference : ReferenceDef}
    (h : Declares Hospital.definitions entity reference) :
    (entity = "Hospital" ∧ reference.name = "surgeon" ∧ reference.target = "Surgeon") ∨
      (entity = "Surgeon" ∧ reference.name = "department" ∧ reference.target = "Department") := by
  obtain ⟨definition, hdefinition, rfl, hreference⟩ := h
  simp only [Hospital.definitions, List.mem_cons, List.not_mem_nil, or_false] at hdefinition
  rcases hdefinition with rfl | rfl | rfl
  · cases List.mem_singleton.mp hreference
    exact Or.inl ⟨rfl, rfl, rfl⟩
  · cases List.mem_singleton.mp hreference
    exact Or.inr ⟨rfl, rfl, rfl⟩
  · exact absurd hreference List.not_mem_nil

/-- The levels below a hospital are coherent. -/
theorem exists_coherent_levels :
    ∃ map, catalog.levelMaps.get? "Hospital" = some map ∧
      map.Coherent Hospital.definitions "Hospital" := by
  have hsome : (catalog.levelMaps.get? "Hospital").isSome = true := by decide +kernel
  obtain ⟨map, hmap⟩ := Option.isSome_iff_exists.mp hsome
  refine ⟨map, hmap, ((Catalog.coherent_iff ofDefs_definitions hmap).2 ?_).mpr ⟨?_, ?_⟩⟩
  · intro reference hreference
    rcases declares_definitions hreference with ⟨-, hname, -⟩ | ⟨-, hname, -⟩ <;>
      rw [hname] <;> decide
  · intro reference hreference
    rcases declares_definitions hreference with ⟨-, hname, -⟩ | ⟨-, hname, -⟩ <;>
      rw [hname] <;> decide
  · intro entity _ first second hfirst hsecond _
    rcases declares_definitions hfirst with ⟨rfl, -, hfirst⟩ | ⟨rfl, -, hfirst⟩ <;>
      rcases declares_definitions hsecond with ⟨hentity, -, hsecond⟩ | ⟨hentity, -, hsecond⟩
    · exact hfirst.trans hsecond.symm
    · exact absurd hentity (by decide)
    · exact absurd hentity (by decide)
    · exact hfirst.trans hsecond.symm

/-- Hospitals whose reference to surgeons has the name of the root. -/
def reserved : List EntityDef :=
  [{ name := "Hospital", table := "hospital_tbl", root := true
     references := [{ name := "rootObject", target := "Surgeon" }] },
   { name := "Surgeon", table := "surgeon_tbl" }]

/-- The definitions are accepted, and the root holds the surgeons. -/
theorem root_of_reserved :
    (Catalog.ofDefs reserved).map (fun catalog =>
      (catalog.levelMaps.get? "Hospital").map fun map => map.get? Level.root) =
      .ok (some (some "Surgeon")) := by
  decide +kernel

/-- Level maps of accepted definitions are not always coherent. -/
theorem not_forall_coherent :
    ¬ ∀ (definitions : List EntityDef) (catalog : Catalog) (rootEntity : String)
        (map : LevelMap), Catalog.ofDefs definitions = .ok catalog →
      catalog.levelMaps.get? rootEntity = some map → map.Coherent definitions rootEntity := by
  intro hclaim
  obtain ⟨catalog, hcatalog, hroot⟩ := Outcome.map_eq_ok.mp root_of_reserved
  obtain ⟨map, hmap, hget⟩ := Option.map_eq_some_iff.mp hroot
  have hcoherent := hclaim reserved catalog "Hospital" map hcatalog hmap
  rw [hcoherent.root] at hget
  exact absurd hget (by decide)

end Hospital

end SelectionSql
