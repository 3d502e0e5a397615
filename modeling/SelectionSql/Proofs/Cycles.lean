import Mathlib.Order.Minimal
import SelectionSql.Proofs.Outcome
import SelectionSql.Proofs.Search
import SelectionSql.Schema.Reference

/-!
# Cycles - References that lead back to where they start

The references of some definitions lead from entities to entities.  Definitions are
refused when references lead from an entity back to it, and the fault names the
entities of one such knot: the one that a depth-first search enters first among those
from which no other knot is reached.

Main results:

- `ReferenceGraph.wellFormed_digraph`, `ReferenceGraph.edge_digraph`: the edges of the
  graph of names are the references.
- `ReferenceGraph.requireAcyclic_eq_ok`: what is accepted has no cycle.
- `ReferenceGraph.innermost_of_cycle?`: which entities a reported cycle names.
- `ReferenceGraph.reported_cycle_innermost`: a cycle is reported exactly when there is
  one, and it is a whole knot from which no other one is reached.
-/

namespace SelectionSql

open Relation

/-! ## References between entities -/

/-- An entity declares a reference. -/
def Declares (definitions : List EntityDef) (entity : String) (reference : ReferenceDef) : Prop :=
  ∃ definition ∈ definitions, definition.name = entity ∧ reference ∈ definition.references

/-- A reference leads from an entity to another one. -/
def RefersTo (definitions : List EntityDef) (source target : String) : Prop :=
  ∃ reference, Declares definitions source reference ∧ reference.target = target

/-- One or more references lead from an entity to another one. -/
abbrev LeadsTo (definitions : List EntityDef) (source target : String) : Prop :=
  TransGen (RefersTo definitions) source target

/-- Entities form a knot when references lead from each of them to every one of them. -/
def Knotted (definitions : List EntityDef) (names : Set String) : Prop :=
  ∀ source ∈ names, ∀ target ∈ names, LeadsTo definitions source target

namespace ReferenceGraph

variable {definitions : List EntityDef} {graph : ReferenceGraph}
variable {name source target : String} {reference : ReferenceDef}

/-! ## The graph of names -/

/-- The references of a name are those that it declares. -/
theorem mem_referencesOf :
    reference ∈ graph.referencesOf name ↔ Declares graph.definitions name reference := by
  unfold referencesOf Declares
  rw [List.mem_flatMap]
  simp only [List.mem_filter, decide_eq_true_eq, and_assoc]

theorem mem_names : name ∈ graph.names ↔ name ∈ graph.definitions.map EntityDef.name := by
  rw [names, List.mem_reverse, mem_keepFirst, List.mem_reverse]

/-- Only defined entities declare references. -/
theorem mem_names_of_declares (h : Declares graph.definitions name reference) :
    name ∈ graph.names := by
  obtain ⟨definition, hdefinition, rfl, -⟩ := h
  exact mem_names.mpr (List.mem_map_of_mem hdefinition)

/-- References lead to defined entities only. -/
theorem target_mem_names (h : Declares graph.definitions name reference) :
    reference.target ∈ graph.names :=
  mem_names.mpr (wellFormed_of_mem (mem_referencesOf.mpr h)).2

/-- References lead to defined entities only, one after another too. -/
theorem mem_definitions_of_leadsTo (h : LeadsTo graph.definitions source target) :
    target ∈ graph.definitions.map EntityDef.name := by
  obtain ⟨last, -, reference, hreference, rfl⟩ := TransGen.tail'_iff.mp h
  exact mem_names.mp (target_mem_names hreference)

/-- The edges of the graph of names are the references. -/
theorem edge_digraph :
    graph.digraph.Edge source target ↔ RefersTo graph.definitions source target := by
  unfold Digraph.Edge RefersTo
  by_cases hsource : source ∈ graph.names
  · rw [digraph, Digraph.successors_tabulate hsource, List.mem_reverse, List.mem_map]
    simp only [mem_referencesOf]
  · rw [digraph, Digraph.successors_tabulate_of_not_mem hsource]
    constructor
    · intro h
      exact absurd h List.not_mem_nil
    · rintro ⟨reference, hreference, -⟩
      exact absurd (mem_names_of_declares hreference) hsource

/-- What edges reach is what references lead to. -/
theorem transGen_edge_digraph :
    TransGen graph.digraph.Edge source target ↔ LeadsTo graph.definitions source target := by
  have hedge : graph.digraph.Edge = RefersTo graph.definitions := by
    funext source target
    exact propext edge_digraph
  rw [hedge]

/-- The graph of names is well formed, also when a name is defined more than once. -/
theorem wellFormed_digraph : graph.digraph.WellFormed where
  nodup := by
    rw [digraph, Digraph.nodes_tabulate, names, List.nodup_reverse]
    exact nodup_keepFirst _
  source_mem := by
    intro source target hedge
    obtain ⟨reference, hreference, -⟩ := edge_digraph.mp hedge
    exact mem_names_of_declares hreference
  target_mem := by
    intro source target hedge
    obtain ⟨reference, hreference, rfl⟩ := edge_digraph.mp hedge
    exact target_mem_names hreference

/-! ## Reported cycles -/

/-- No cycle is found exactly when no entity leads back to itself. -/
theorem cycle?_eq_none :
    graph.cycle? = none ↔ ∀ name, ¬ LeadsTo graph.definitions name name := by
  unfold cycle?
  rw [Option.map_eq_none_iff, ← Option.not_isSome_iff_eq_none,
    Digraph.firstCycle?_isSome wellFormed_digraph]
  simp only [transGen_edge_digraph, not_exists]

/-- A graph is accepted exactly when no entity leads back to itself. -/
theorem requireAcyclic_eq_ok :
    graph.requireAcyclic = .ok () ↔ ∀ name, ¬ LeadsTo graph.definitions name name := by
  rw [← cycle?_eq_none]
  unfold requireAcyclic
  cases graph.cycle? <;> simp

/-- A graph is refused exactly for the cycle that is found. -/
theorem requireAcyclic_eq_error {fault : MetadataFault} :
    graph.requireAcyclic = .error fault ↔
      ∃ cycle, graph.cycle? = some cycle ∧ fault = .cyclicReference cycle := by
  unfold requireAcyclic
  cases graph.cycle? <;> simp [eq_comm]

/-- A graph is refused for a cycle exactly when an entity leads back to itself. -/
theorem exists_requireAcyclic_eq_error :
    (∃ cycle, graph.requireAcyclic = .error (.cyclicReference cycle)) ↔
      ∃ name, LeadsTo graph.definitions name name := by
  constructor
  · rintro ⟨cycle, hcycle⟩
    by_contra hnone
    have hok : graph.requireAcyclic = .ok () :=
      requireAcyclic_eq_ok.mpr fun name hname => hnone ⟨name, hname⟩
    rw [hok] at hcycle
    exact absurd hcycle (by simp)
  · rintro ⟨name, hname⟩
    cases hcycle : graph.cycle? with
    | none => exact absurd hname (cycle?_eq_none.mp hcycle name)
    | some cycle => exact ⟨cycle, requireAcyclic_eq_error.mpr ⟨cycle, hcycle, rfl⟩⟩

/-- A cycle that is found names, in order, what an entity leads to and is led to from, and
every entity on a cycle that this one leads to leads back to it. -/
theorem innermost_of_cycle? {cycle : List String} (h : graph.cycle? = some cycle) :
    cycle.Pairwise (· < ·) ∧ cycle.Nodup ∧ ∃ inner, LeadsTo graph.definitions inner inner ∧
      (∀ other, LeadsTo graph.definitions inner other → LeadsTo graph.definitions other other →
        LeadsTo graph.definitions other inner) ∧
      ∀ name, name ∈ cycle ↔
        LeadsTo graph.definitions inner name ∧ LeadsTo graph.definitions name inner := by
  obtain ⟨found, hfound, rfl⟩ := Option.map_eq_some_iff.mp h
  obtain ⟨inner, ⟨hcycle, hinner⟩, hmem⟩ :=
    Digraph.exists_innermost_of_firstCycle? wellFormed_digraph hfound
  simp only [transGen_edge_digraph] at hcycle hinner hmem
  refine ⟨(SortedSet.ofList found).increasing, (SortedSet.ofList found).nodup_toList,
    inner, hcycle, hinner, ?_⟩
  intro name
  rw [SortedSet.mem_toList, SortedSet.mem_ofList]
  exact hmem name

/-- A cycle that is found names some entities, each of which leads to every one of them. -/
theorem knotted_of_cycle? {cycle : List String} (h : graph.cycle? = some cycle) :
    cycle ≠ [] ∧ Knotted graph.definitions {name | name ∈ cycle} := by
  obtain ⟨-, -, inner, hinner, -, hmem⟩ := innermost_of_cycle? h
  refine ⟨List.ne_nil_of_mem ((hmem inner).mpr ⟨hinner, hinner⟩), ?_⟩
  intro source hsource target htarget
  exact ((hmem source).mp hsource).2.trans ((hmem target).mp htarget).1

/-- A cycle is reported exactly when one or more references lead from an entity back to it.
The report lists a largest knot in order, nothing twice, and what the knot leads to outside
it lies on no cycle. -/
theorem reported_cycle_innermost (h : ofDefs definitions = .ok graph) :
    ((∃ cycle, graph.requireAcyclic = .error (.cyclicReference cycle)) ↔
      ∃ name, LeadsTo definitions name name) ∧
    ∀ cycle, graph.requireAcyclic = .error (.cyclicReference cycle) →
      cycle.Pairwise (· < ·) ∧ cycle.Nodup ∧ cycle ≠ [] ∧
      Maximal (Knotted definitions) {name | name ∈ cycle} ∧
      ∀ member ∈ cycle, ∀ other, LeadsTo definitions member other → other ∉ cycle →
        ¬ LeadsTo definitions other other := by
  cases definitions_of_ofDefs h
  refine ⟨exists_requireAcyclic_eq_error, ?_⟩
  intro cycle hreport
  obtain ⟨found, hfound, heq⟩ := requireAcyclic_eq_error.mp hreport
  cases MetadataFault.cyclicReference.inj heq
  obtain ⟨hnonempty, hknotted⟩ := knotted_of_cycle? hfound
  obtain ⟨hsorted, hnodup, inner, hcycle, hinner, hmem⟩ := innermost_of_cycle? hfound
  have hinnerMem : inner ∈ cycle := (hmem inner).mpr ⟨hcycle, hcycle⟩
  refine ⟨hsorted, hnodup, hnonempty, ⟨hknotted, ?_⟩, ?_⟩
  · intro larger hlarger hsubset other hother
    have hback := hlarger other hother inner (hsubset hinnerMem)
    have hreach := hlarger inner (hsubset hinnerMem) other hother
    exact (hmem other).mpr ⟨hreach, hback⟩
  · intro member hmember other hreach hout hother
    have hfrom : LeadsTo graph.definitions inner other :=
      ((hmem member).mp hmember).1.trans hreach
    exact hout ((hmem other).mpr ⟨hfrom, hinner other hfrom hother⟩)

end ReferenceGraph

namespace Hospital

/-- Wards and nurses refer to each other, and both lead to surgeons and registrars, who
refer to each other too. -/
def rota : List EntityDef :=
  [{ name := "Ward", table := "ward_tbl"
     references := [{ name := "nurse", target := "Nurse" }] },
   { name := "Nurse", table := "nurse_tbl"
     references := [{ name := "ward", target := "Ward" }, { name := "surgeon", target := "Surgeon" }] },
   { name := "Surgeon", table := "surgeon_tbl"
     references := [{ name := "deputy", target := "Registrar" }] },
   { name := "Registrar", table := "registrar_tbl"
     references := [{ name := "senior", target := "Surgeon" }] }]

/-- Of the two knots the one that leads to no other is reported. -/
theorem surgeons_reported : ∃ graph, ReferenceGraph.ofDefs rota = .ok graph ∧
    graph.requireAcyclic = .error (.cyclicReference ["Registrar", "Surgeon"]) ∧
    Maximal (Knotted rota) {name | name ∈ ["Registrar", "Surgeon"]} := by
  have h : (ReferenceGraph.ofDefs rota).map ReferenceGraph.requireAcyclic =
      .ok (.error (.cyclicReference ["Registrar", "Surgeon"])) := by decide +kernel
  obtain ⟨graph, hgraph, hreport⟩ := Outcome.map_eq_ok.mp h
  obtain ⟨-, -, -, hmaximal, -⟩ :=
    (ReferenceGraph.reported_cycle_innermost hgraph).2 _ hreport
  exact ⟨graph, hgraph, hreport, hmaximal⟩

end Hospital

end SelectionSql
