import SelectionSql.Proofs.Acceptance
import SelectionSql.Proofs.Coherence

/-!
# Definition order - The same definitions in another order make the same catalog

A catalog is made of definitions one after another, and the walk that names the levels below a
root entity lets later positions overwrite earlier ones.  Both depend on the order of the
references of one entity.  They do not depend on the order of the entities: no two definitions
that are accepted share a name, so each look-up by name meets one definition at most.

Main results:

- `acceptable_iff_of_perm`: what is asked of definitions does not depend on their order.
- `Catalog.entityTables_of_perm`, `Catalog.rootMaps_of_perm`: what a catalog holds under a name
  is said of the definitions as a set.
- `ReferenceGraph.walk_congr`, `ReferenceGraph.levelMap?_of_perm`: a walk meets the same
  positions in the same order.
- `Catalog.made_in_any_order`: definitions make the same catalog in any order.
-/

namespace SelectionSql

variable {first second : List EntityDef}

/-! ## What is asked of definitions -/

/-- The references that an entity declares do not depend on the order of the definitions. -/
theorem declares_of_perm (h : first.Perm second) : Declares first = Declares second := by
  funext entity reference
  unfold Declares
  simp only [h.mem_iff]

/-- Where references lead does not depend on the order of the definitions. -/
theorem leadsTo_of_perm (h : first.Perm second) : LeadsTo first = LeadsTo second := by
  have hrefers : RefersTo first = RefersTo second := by
    funext source target
    unfold RefersTo
    rw [declares_of_perm h]
  unfold LeadsTo
  rw [hrefers]

/-- Definitions that are acceptable are so in any order. -/
theorem Acceptable.of_perm (hperm : first.Perm second) (h : Acceptable first) :
    Acceptable second where
  names_nodup := (hperm.map EntityDef.name).nodup h.names_nodup
  fields_agree definition hdefinition := h.fields_agree definition (hperm.mem_iff.mpr hdefinition)
  names_plain := by
    rw [← declares_of_perm hperm]
    exact h.names_plain
  targets_defined entity reference hreference := by
    rw [← declares_of_perm hperm] at hreference
    exact (hperm.map EntityDef.name).mem_iff.mp (h.targets_defined entity reference hreference)
  acyclic := by
    rw [← leadsTo_of_perm hperm]
    exact h.acyclic

/-- What is asked of definitions does not depend on their order. -/
theorem acceptable_iff_of_perm (h : first.Perm second) : Acceptable first ↔ Acceptable second :=
  ⟨Acceptable.of_perm h, Acceptable.of_perm h.symm⟩

/-! ## Entities -/

namespace Catalog

/-- The tables of definitions do not depend on their order. -/
theorem entityTables_of_perm {entities others : SortedMap Entity} (h : first.Perm second)
    (hfirst : entityTables first = .ok entities) (hsecond : entityTables second = .ok others) :
    entities = others := by
  refine SortedMap.ext_get? fun name => Option.ext fun entity => ?_
  rw [get?_entityTables hfirst, get?_entityTables hsecond]
  simp only [h.mem_iff]

end Catalog

/-! ## Levels -/

namespace ReferenceGraph

variable {graph other : ReferenceGraph}

/-- When no name is defined twice, the references of an entity come in the same order whatever
the order of the definitions. -/
theorem referencesOf_of_perm (h : graph.definitions.Perm other.definitions)
    (hnodup : (graph.definitions.map EntityDef.name).Nodup) (name : String) :
    graph.referencesOf name = other.referencesOf name := by
  unfold referencesOf
  rw [filter_key_eq_of_perm h hnodup name]

/-- Graphs with the same references have the same walks. -/
theorem walk_congr (h : ∀ name, graph.referencesOf name = other.referencesOf name) (depth : Nat)
    (entity : String) (level : Level) :
    graph.walk depth entity level = other.walk depth entity level := by
  induction depth generalizing entity level with
  | zero => rfl
  | succ depth ih =>
      rw [walk, walk, h]
      simp only [ih]

/-- The level map of an entity does not depend on the order of the definitions. -/
theorem levelMap?_of_perm (h : graph.definitions.Perm other.definitions)
    (hnodup : (graph.definitions.map EntityDef.name).Nodup) (rootEntity : String) :
    graph.levelMap? rootEntity = other.levelMap? rootEntity := by
  refine Option.ext fun map => ?_
  rw [levelMap?_eq_some, levelMap?_eq_some, (h.map EntityDef.name).mem_iff, h.length_eq,
    walk_congr (referencesOf_of_perm h hnodup)]

end ReferenceGraph

namespace Catalog

variable {graph other : ReferenceGraph}

/-- The level maps of root entities do not depend on the order of the definitions. -/
theorem rootMaps_of_perm (h : graph.definitions.Perm other.definitions)
    (hnodup : (graph.definitions.map EntityDef.name).Nodup) : rootMaps graph = rootMaps other := by
  refine SortedMap.ext_get? fun rootEntity => Option.ext fun map => ?_
  rw [get?_rootMaps, get?_rootMaps, ReferenceGraph.levelMap?_of_perm h hnodup]
  simp only [h.mem_iff]

/-! ## Catalogs -/

/-- Catalogs of the same definitions are the same, whatever the order. -/
theorem eq_of_perm {catalog other : Catalog} (h : first.Perm second)
    (hcatalog : ofDefs first = .ok catalog) (hother : ofDefs second = .ok other) :
    catalog = other := by
  have hnodup := (exists_ofDefs_eq_ok.mp ⟨catalog, hcatalog⟩).names_nodup
  obtain ⟨entities, graph, hentities, hgraph, -, rfl⟩ := ofDefs_eq_ok.mp hcatalog
  obtain ⟨others, otherGraph, hothers, hotherGraph, -, rfl⟩ := ofDefs_eq_ok.mp hother
  cases ReferenceGraph.definitions_of_ofDefs hgraph
  cases ReferenceGraph.definitions_of_ofDefs hotherGraph
  rw [entityTables_of_perm h hentities hothers, rootMaps_of_perm h hnodup]

/-- The same definitions in another order are accepted too, or refused too.  The catalogs that
they make agree on the tables of every entity, on the root entities and on the level map of each
of them, so they are the same. -/
theorem made_in_any_order (h : first.Perm second) :
    ((∃ catalog, ofDefs first = .ok catalog) ↔ ∃ catalog, ofDefs second = .ok catalog) ∧
      ∀ catalog other, ofDefs first = .ok catalog → ofDefs second = .ok other →
        (∀ name, catalog.metadata.entity? name = other.metadata.entity? name) ∧
        catalog.roots = other.roots ∧
        (∀ rootEntity, catalog.rootMap rootEntity = other.rootMap rootEntity) ∧
        catalog = other := by
  constructor
  · rw [exists_ofDefs_eq_ok, exists_ofDefs_eq_ok]
    exact acceptable_iff_of_perm h
  · intro catalog other hcatalog hother
    cases eq_of_perm h hcatalog hother
    exact ⟨fun _ => rfl, rfl, fun _ => rfl, rfl⟩

end Catalog

namespace Hospital

/-- Hospitals with two references of one name, the second of which takes the level over. -/
def clinics : List EntityDef :=
  [{ name := "Hospital", table := "hospital_tbl", root := true
     references := [{ name := "ward", target := "Ward" }, { name := "ward", target := "Clinic" }] },
   { name := "Ward", table := "ward_tbl", root := true
     references := [{ name := "nurse", target := "Nurse" }] },
   { name := "Clinic", table := "clinic_tbl" },
   { name := "Nurse", table := "nurse_tbl" }]

/-- Defined from the nurses up, too, hospitals have the nurses of wards below their clinics. -/
theorem clinics_from_below : ∃ catalog, Catalog.ofDefs clinics.reverse = .ok catalog ∧
    Catalog.ofDefs clinics = .ok catalog ∧ catalog.roots = ["Hospital", "Ward"] ∧
    (catalog.rootMap "Hospital").map SortedMap.entries =
      .ok [("rootObject", "Hospital"), ("ward", "Clinic"), ("ward_nurse", "Nurse")] := by
  have hlevels : (Catalog.ofDefs clinics).map (fun catalog =>
      (catalog.roots, (catalog.rootMap "Hospital").map SortedMap.entries)) =
      .ok (["Hospital", "Ward"],
        .ok [("rootObject", "Hospital"), ("ward", "Clinic"), ("ward_nurse", "Nurse")]) := by
    decide +kernel
  obtain ⟨catalog, hcatalog, heq⟩ := Outcome.map_eq_ok.mp hlevels
  obtain ⟨hroots, hmap⟩ := Prod.mk.inj heq
  obtain ⟨haccepted, hsame⟩ := Catalog.made_in_any_order (List.reverse_perm clinics)
  obtain ⟨other, hother⟩ := haccepted.mpr ⟨catalog, hcatalog⟩
  obtain ⟨-, -, -, rfl⟩ := hsame other catalog hother hcatalog
  exact ⟨other, hother, hcatalog, hroots, hmap⟩

end Hospital

end SelectionSql
