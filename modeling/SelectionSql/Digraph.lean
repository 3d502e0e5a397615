import SelectionSql.Sequence

/-!
# Directed graphs - Depth-first order, transitive closure and innermost cycles

A search pops a node, skips it if it was visited before, and otherwise visits
it and puts its successors on top of what waits.  The visited nodes come out in
the order in which a depth-first search enters them.

The transitive closure has an edge wherever one or more edges lead from a node
to another.  It is tabulated once, since questions about cycles ask it often.

An innermost cycle is a cyclic component from which no other cycle can be
reached.  Among several, the one entered first is reported, which is also the
one whose component a depth-first search completes first.

Main results:

- `Digraph.successors_tabulate`: a table keeps the successors of its nodes.
- `Digraph.mem_search_of_mem_visited`: a search forgets nothing.
- `Digraph.hasEdge_closure`: an edge of the closure is a node reached.
- `Digraph.firstCycle?_eq_some`: what a reported cycle is.
-/

namespace SelectionSql

/-- A directed graph over names: its nodes in the order a traversal starts
them and the successors of each in the order they are followed. -/
structure Digraph where
  /-- The nodes in the order a traversal starts them. -/
  nodes : List String
  /-- The successors of a node in the order they are followed. -/
  successors : String → List String

namespace Digraph

/-- The graph whose successors stand in a table that is filled once.  What is
not a node has no successors. -/
def tabulate (nodes : List String) (successors : String → List String) : Digraph :=
  let table := nodes.map fun node => (node, successors node)
  ⟨nodes, fun node => (table.lookup node).getD []⟩

/-- A table has the nodes that it was made for. -/
@[simp] theorem nodes_tabulate (nodes : List String) (successors : String → List String) :
    (tabulate nodes successors).nodes = nodes := rfl

/-- A table keeps the successors of its nodes. -/
theorem successors_tabulate {nodes : List String} {successors : String → List String}
    {node : String} (h : node ∈ nodes) :
    (tabulate nodes successors).successors node = successors node := by
  have hlookup : (nodes.map fun node => (node, successors node)).lookup node =
      some (successors node) := by
    induction nodes with
    | nil => simp at h
    | cons head rest ih =>
        rw [List.map_cons, List.lookup_cons]
        by_cases heq : node = head
        · simp [heq]
        · rw [beq_false_of_ne heq]
          exact ih ((List.mem_cons.mp h).resolve_left heq)
  simp [tabulate, hlookup]

/-- What is not a node of a table has no successors. -/
theorem successors_tabulate_of_not_mem {nodes : List String}
    {successors : String → List String} {node : String} (h : node ∉ nodes) :
    (tabulate nodes successors).successors node = [] := by
  have hlookup : (nodes.map fun node => (node, successors node)).lookup node = none := by
    rw [List.lookup_eq_none_iff]
    intro entry hentry
    obtain ⟨other, hother, rfl⟩ := List.mem_map.mp hentry
    have hne : node ≠ other := fun heq => h (heq ▸ hother)
    exact bne_iff_ne.mpr hne
  simp [tabulate, hlookup]

/-- Whether an edge leads from a node to another one. -/
def hasEdge (graph : Digraph) (source target : String) : Bool :=
  decide (target ∈ graph.successors source)

/-! ## Depth-first search -/

/-- Visit the waiting nodes and what they lead to, with a bound on the number
of nodes taken from the waiting list. -/
def searchWithin (graph : Digraph) : Nat → List String → List String → List String
  | 0, _, visited => visited
  | _ + 1, [], visited => visited
  | bound + 1, node :: waiting, visited =>
      if node ∈ visited then graph.searchWithin bound waiting visited
      else graph.searchWithin bound (graph.successors node ++ waiting) (visited ++ [node])

/-- The number of edges of the graph. -/
def edgeCount (graph : Digraph) : Nat :=
  graph.nodes.foldl (fun count node => count + (graph.successors node).length) 0

/-- The nodes that a depth-first search from some nodes enters, in order.  Every
edge puts one node on the waiting list at most once, which bounds the search. -/
def search (graph : Digraph) (starts : List String) : List String :=
  graph.searchWithin (starts.length + graph.edgeCount) starts []

/-- A search forgets nothing that was visited before. -/
theorem mem_search_of_mem_visited {graph : Digraph} {bound : Nat}
    {waiting visited : List String} {node : String} (h : node ∈ visited) :
    node ∈ graph.searchWithin bound waiting visited := by
  induction bound generalizing waiting visited with
  | zero => exact h
  | succ bound ih =>
      cases waiting with
      | nil => exact h
      | cons head waiting =>
          unfold searchWithin
          split
          · exact ih h
          · exact ih (List.mem_append_left _ h)

/-! ## Reachability and cycles -/

/-- The nodes reached from a node by one or more edges. -/
def reached (graph : Digraph) (node : String) : List String :=
  graph.search (graph.successors node)

/-- The transitive closure: an edge leads from a node to every node that it
reaches.  The edges are counted once for all searches. -/
def closure (graph : Digraph) : Digraph :=
  let edges := graph.edgeCount
  tabulate graph.nodes fun node =>
    let starts := graph.successors node
    graph.searchWithin (starts.length + edges) starts []

/-- The successors in the closure are the nodes reached. -/
theorem successors_closure {graph : Digraph} {node : String} (h : node ∈ graph.nodes) :
    graph.closure.successors node = graph.reached node :=
  successors_tabulate h

/-- An edge of the closure leads from a node to a node reached from it. -/
theorem hasEdge_closure {graph : Digraph} {source target : String}
    (h : source ∈ graph.nodes) :
    graph.closure.hasEdge source target = true ↔ target ∈ graph.reached source := by
  rw [hasEdge, successors_closure h, decide_eq_true_iff]

/-- Whether a node of a transitive graph lies on a cycle and reaches no cycle
that does not lead back to it. -/
def isInnermost (closed : Digraph) (node : String) : Bool :=
  closed.hasEdge node node &&
    (closed.successors node).all fun other =>
      closed.hasEdge other node || !closed.hasEdge other other

/-- The nodes of a transitive graph that reach a node and are reached from it. -/
def component (closed : Digraph) (node : String) : List String :=
  closed.nodes.filter fun other => closed.hasEdge node other && closed.hasEdge other node

/-- The innermost cycle that a depth-first search over all nodes enters first. -/
def firstCycle? (graph : Digraph) : Option (List String) :=
  let closed := graph.closure
  ((graph.search graph.nodes).find? closed.isInnermost).map closed.component

/-- A reported cycle is the component of an innermost cyclic node. -/
theorem firstCycle?_eq_some {graph : Digraph} {cycle : List String}
    (h : graph.firstCycle? = some cycle) :
    ∃ node ∈ graph.search graph.nodes,
      graph.closure.isInnermost node = true ∧ cycle = graph.closure.component node := by
  unfold firstCycle? at h
  rw [Option.map_eq_some_iff] at h
  obtain ⟨node, hfind, rfl⟩ := h
  exact ⟨node, List.mem_of_find?_eq_some hfind, List.find?_some hfind, rfl⟩

end Digraph

end SelectionSql
