import SelectionSql.Digraph
import SelectionSql.Level
import SelectionSql.Schema.Definition
import SelectionSql.Schema.Fault
import SelectionSql.Sorted.Set

/-!
# Reference graphs - Checked references between entities

References form a directed graph over entity names.  A reference name must not
hold the separator of graph levels, which would make levels ambiguous, and its
target must be defined.

When a name is defined more than once, all its references belong to the last
definition, which is also the one that a traversal starts from.

Main results:

- `ReferenceGraph.exists_ofDefs_eq_ok`, `ReferenceGraph.ofDefs_eq_error`:
  definitions are accepted exactly when no reference is at fault.
- `ReferenceGraph.referenceFault?_eq_none`: what that means for each reference.
-/

namespace SelectionSql

/-! ## References at fault -/

/-- The fault of a reference, a bad name before an unknown target. -/
def ReferenceDef.fault? (definitions : List EntityDef) (entity : String)
    (reference : ReferenceDef) : Option MetadataFault :=
  if Level.separator ∈ reference.name.toList then
    some (.invalidReferenceName entity reference.name)
  else if reference.target ∈ definitions.map EntityDef.name then none
  else some (.unknownReference entity reference.name reference.target)

/-- The first fault of the references in declaration order. -/
def referenceFault? (definitions : List EntityDef) : Option MetadataFault :=
  definitions.findSome? fun entity =>
    entity.references.findSome? (ReferenceDef.fault? definitions entity.name)

/-- A reference is well formed when its name holds no separator and its target
is defined. -/
def ReferenceDef.WellFormed (definitions : List EntityDef) (reference : ReferenceDef) : Prop :=
  Level.separator ∉ reference.name.toList ∧
    reference.target ∈ definitions.map EntityDef.name

/-- A reference is at fault exactly when it is not well formed. -/
theorem ReferenceDef.fault?_eq_none {definitions : List EntityDef} {entity : String}
    {reference : ReferenceDef} :
    ReferenceDef.fault? definitions entity reference = none ↔
      reference.WellFormed definitions := by
  unfold ReferenceDef.fault? ReferenceDef.WellFormed
  split
  next h => simp [h]
  next h =>
    split
    next hmem => simp only [h, not_false_eq_true, hmem, and_self]
    next hmem => simp only [reduceCtorEq, hmem, and_false]

/-- A name with a separator is at fault before a target that is not defined. -/
theorem ReferenceDef.fault?_eq_some {definitions : List EntityDef} {entity : String}
    {reference : ReferenceDef} {fault : MetadataFault} :
    ReferenceDef.fault? definitions entity reference = some fault ↔
      (Level.separator ∈ reference.name.toList ∧
        fault = .invalidReferenceName entity reference.name) ∨
      (Level.separator ∉ reference.name.toList ∧
        reference.target ∉ definitions.map EntityDef.name ∧
        fault = .unknownReference entity reference.name reference.target) := by
  unfold ReferenceDef.fault?
  split
  next h => simp [h, eq_comm]
  next h =>
    split
    next hmem => simp only [reduceCtorEq, h, false_and, hmem, not_true_eq_false, and_false, or_false]
    next hmem => simp only [Option.some.injEq, h, false_and, not_false_eq_true, hmem, true_and,
      false_or, eq_comm]

/-- There is no fault exactly when every reference is well formed. -/
theorem referenceFault?_eq_none {definitions : List EntityDef} :
    referenceFault? definitions = none ↔
      ∀ entity ∈ definitions, ∀ reference ∈ entity.references,
        reference.WellFormed definitions := by
  unfold referenceFault?
  simp only [List.findSome?_eq_none_iff, ReferenceDef.fault?_eq_none]

/-! ## The graph -/

/-- Definitions whose references are well formed. -/
structure ReferenceGraph where
  definitions : List EntityDef
  /-- No reference is at fault. -/
  wellFormed : referenceFault? definitions = none

namespace ReferenceGraph

/-- The graph of some definitions, or their first reference at fault. -/
def ofDefs (definitions : List EntityDef) : Except MetadataFault ReferenceGraph :=
  match h : referenceFault? definitions with
  | some fault => .error fault
  | none => .ok ⟨definitions, h⟩

/-- Definitions make a graph exactly when no reference is at fault. -/
theorem exists_ofDefs_eq_ok {definitions : List EntityDef} :
    (∃ graph, ofDefs definitions = .ok graph) ↔ referenceFault? definitions = none := by
  unfold ofDefs
  split
  next fault h => simp [h]
  next h => simp [h]

/-- Definitions are refused exactly for their first reference at fault. -/
theorem ofDefs_eq_error {definitions : List EntityDef} {fault : MetadataFault} :
    ofDefs definitions = .error fault ↔ referenceFault? definitions = some fault := by
  unfold ofDefs
  split
  next first h => simp [h]
  next h => simp [h]

/-- The graph holds the definitions it was made of. -/
theorem definitions_of_ofDefs {definitions : List EntityDef} {graph : ReferenceGraph}
    (h : ofDefs definitions = .ok graph) : graph.definitions = definitions := by
  unfold ofDefs at h
  split at h
  · simp at h
  · rw [Except.ok.injEq] at h
    rw [← h]

/-- The names of the entities, each at the place of its last definition. -/
def names (graph : ReferenceGraph) : List String :=
  (keepFirst (graph.definitions.map EntityDef.name).reverse).reverse

/-- Whether an entity is defined. -/
def defines (graph : ReferenceGraph) (name : String) : Bool :=
  decide (name ∈ graph.definitions.map EntityDef.name)

/-- The references of all definitions with a name, in declaration order. -/
def referencesOf (graph : ReferenceGraph) (name : String) : List ReferenceDef :=
  (graph.definitions.filter fun entity => decide (entity.name = name)).flatMap
    EntityDef.references

/-- The graph of names; references are followed last-declared first. -/
def digraph (graph : ReferenceGraph) : Digraph :=
  Digraph.tabulate graph.names fun name =>
    ((graph.referencesOf name).map ReferenceDef.target).reverse

/-- The entities of the innermost cycle that is met first, in order. -/
def cycle? (graph : ReferenceGraph) : Option (List String) :=
  graph.digraph.firstCycle?.map fun cycle => (SortedSet.ofList cycle).toList

/-- Refuse a graph with a cycle. -/
def requireAcyclic (graph : ReferenceGraph) : Except MetadataFault Unit :=
  match graph.cycle? with
  | some cycle => .error (.cyclicReference cycle)
  | none => .ok ()

/-- Every reference of the graph is well formed. -/
theorem wellFormed_of_mem {graph : ReferenceGraph} {name : String} {reference : ReferenceDef}
    (h : reference ∈ graph.referencesOf name) :
    reference.WellFormed graph.definitions := by
  obtain ⟨entity, hentity, href⟩ := List.mem_flatMap.mp h
  exact referenceFault?_eq_none.mp graph.wellFormed entity (List.mem_filter.mp hentity).1
    reference href

end ReferenceGraph

end SelectionSql
