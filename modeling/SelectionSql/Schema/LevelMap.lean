import SelectionSql.Schema.Reference

/-!
# Level maps - Every position below a root entity

Walking the references of an acyclic graph from a root entity names every
position of the nested selections that can start there.

Main results:

- `ReferenceGraph.mem_walk_succ`: the positions of a walk are those one reference
  down and those further below each of them.
-/

namespace SelectionSql

/-- The entity at each level below a root entity. -/
abbrev LevelMap := SortedMap String

namespace ReferenceGraph

/-- The positions below an entity at a level with the entity at each, in the
order of the references, down to a depth. -/
def walk (graph : ReferenceGraph) : Nat → String → Level → List (Level × String)
  | 0, _, _ => []
  | depth + 1, entity, level =>
      (graph.referencesOf entity).flatMap fun reference =>
        let below := Level.child level reference.name
        (below, reference.target) :: graph.walk depth reference.target below

/-- The entity at each level below a root entity; none for an entity that is
not defined.  In an acyclic graph no path is longer than the number of
definitions.  A position that is met again takes the later entity. -/
def levelMap? (graph : ReferenceGraph) (rootEntity : String) : Option LevelMap :=
  if graph.defines rootEntity then
    some (SortedMap.ofList
      ((Level.root, rootEntity) ::
        graph.walk graph.definitions.length rootEntity ""))
  else none

/-- The positions of a walk are those one reference down and those below them. -/
theorem mem_walk_succ {graph : ReferenceGraph} {depth : Nat} {entity : String}
    {level : Level} {position : Level × String} :
    position ∈ graph.walk (depth + 1) entity level ↔
      ∃ reference ∈ graph.referencesOf entity,
        position = (Level.child level reference.name, reference.target) ∨
          position ∈ graph.walk depth reference.target (Level.child level reference.name) := by
  simp [walk]

end ReferenceGraph

end SelectionSql
