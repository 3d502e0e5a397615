import Mathlib.Algebra.BigOperators.Group.List.Basic
import Mathlib.Algebra.GroupWithZero.Nat
import Mathlib.Data.Finset.Card
import Mathlib.Logic.Relation
import SelectionSql.Digraph

/-!
# Search - What a depth-first search finds

In a graph whose edges lead from nodes to nodes a search visits every node once, so
it takes no more nodes from its waiting list than there are starts and edges.  The
bound of the search is therefore never met, and what is found is what the edges reach.

Main results:

- `Digraph.exists_start_of_mem_searchWithin`: a search finds only what it reaches.
- `Digraph.covered_searchWithin`: a search is not cut off before its end.
- `Digraph.mem_search`: a search finds what is reached from one of the starts.
- `Digraph.mem_reached`: the nodes reached are those of the transitive closure.
- `Digraph.exists_innermost`: where there is a cycle, there is an innermost one.
-/

namespace SelectionSql

namespace Digraph

open Relation

variable {graph : Digraph} {bound : Nat} {starts waiting visited : List String}
variable {node source target : String}

/-! ## Edges -/

/-- An edge leads from a node to each of its successors. -/
def Edge (graph : Digraph) (source target : String) : Prop :=
  target ∈ graph.successors source

/-- A graph is well formed when no node is listed twice and edges lead from nodes to
nodes. -/
structure WellFormed (graph : Digraph) : Prop where
  nodup : graph.nodes.Nodup
  source_mem : ∀ source target, graph.Edge source target → source ∈ graph.nodes
  target_mem : ∀ source target, graph.Edge source target → target ∈ graph.nodes

/-- What is not a node of a well-formed graph has no successors. -/
theorem WellFormed.successors_eq_nil (hgraph : graph.WellFormed) (hnode : node ∉ graph.nodes) :
    graph.successors node = [] := by
  by_contra hne
  obtain ⟨target, htarget⟩ := List.exists_mem_of_ne_nil _ hne
  exact hnode (hgraph.source_mem node target htarget)

/-- Edges lead from nodes to nodes, one after another too. -/
theorem WellFormed.mem_of_transGen (hgraph : graph.WellFormed)
    (h : TransGen graph.Edge source target) : source ∈ graph.nodes ∧ target ∈ graph.nodes := by
  constructor
  · obtain ⟨next, hedge, -⟩ := TransGen.head'_iff.mp h
    exact hgraph.source_mem source next hedge
  · obtain ⟨last, -, hedge⟩ := TransGen.tail'_iff.mp h
    exact hgraph.target_mem last target hedge

/-! ## Nothing is invented -/

/-- What a search finds was visited before or is reached from a waiting node. -/
theorem exists_start_of_mem_searchWithin
    (h : node ∈ graph.searchWithin bound waiting visited) :
    node ∈ visited ∨ ∃ start ∈ waiting, ReflTransGen graph.Edge start node := by
  induction bound generalizing waiting visited with
  | zero => exact Or.inl h
  | succ bound ih =>
      cases waiting with
      | nil => exact Or.inl h
      | cons head waiting =>
          unfold searchWithin at h
          split at h
          · rcases ih h with hvisited | ⟨start, hstart, hreach⟩
            · exact Or.inl hvisited
            · exact Or.inr ⟨start, List.mem_cons_of_mem _ hstart, hreach⟩
          · rcases ih h with hvisited | ⟨start, hstart, hreach⟩
            · rcases List.mem_append.mp hvisited with hvisited | hhead
              · exact Or.inl hvisited
              · cases List.mem_singleton.mp hhead
                exact Or.inr ⟨node, List.mem_cons_self, ReflTransGen.refl⟩
            · rcases List.mem_append.mp hstart with hedge | hwaiting
              · exact Or.inr ⟨head, List.mem_cons_self, ReflTransGen.head hedge hreach⟩
              · exact Or.inr ⟨start, List.mem_cons_of_mem _ hwaiting, hreach⟩

/-! ## The bound is never met -/

/-- The number of edges that leave nodes not visited yet. -/
def openEdges (graph : Digraph) (visited : List String) : Nat :=
  ((graph.nodes.filter fun node => decide (node ∉ visited)).map
    fun node => (graph.successors node).length).sum

/-- Before a search all edges are open. -/
theorem openEdges_nil : graph.openEdges [] = graph.edgeCount := by
  have hcount : ∀ (nodes : List String) (start : Nat),
      nodes.foldl (fun count node => count + (graph.successors node).length) start =
        start + (nodes.map fun node => (graph.successors node).length).sum := by
    intro nodes
    induction nodes with
    | nil => simp
    | cons head rest ih =>
        intro start
        rw [List.foldl_cons, ih, List.map_cons, List.sum_cons, Nat.add_assoc]
  rw [edgeCount, hcount, Nat.zero_add, openEdges]
  simp

/-- Visiting a node closes exactly the edges that leave it. -/
theorem openEdges_visit (hgraph : graph.WellFormed) (hfresh : node ∉ visited) :
    (graph.successors node).length + graph.openEdges (visited ++ [node]) =
      graph.openEdges visited := by
  have hfilter : (graph.nodes.filter fun other => decide (other ∉ visited ++ [node])) =
      (graph.nodes.filter fun other => decide (other ∉ visited)).erase node := by
    rw [(hgraph.nodup.filter _).erase_eq_filter, List.filter_filter]
    congr 1
    funext other
    by_cases heq : other = node <;> simp [heq]
  unfold openEdges
  rw [hfilter]
  by_cases hnode : node ∈ graph.nodes
  · have hopen : node ∈ graph.nodes.filter fun other => decide (other ∉ visited) :=
      List.mem_filter.mpr ⟨hnode, decide_eq_true hfresh⟩
    exact List.sum_map_erase (fun other => (graph.successors other).length) hopen
  · have habsent : node ∉ graph.nodes.filter fun other => decide (other ∉ visited) :=
      fun hmem => hnode (List.mem_filter.mp hmem).1
    rw [List.erase_of_not_mem habsent, hgraph.successors_eq_nil hnode]
    simp

/-- Every successor of a visited node is visited or waits. -/
def Covered (graph : Digraph) (waiting visited : List String) : Prop :=
  ∀ source ∈ visited, ∀ target, graph.Edge source target →
    target ∈ visited ∨ target ∈ waiting

/-- A node that was visited before need not wait. -/
theorem Covered.skip (h : graph.Covered (node :: waiting) visited) (hnode : node ∈ visited) :
    graph.Covered waiting visited := by
  intro source hsource target hedge
  rcases h source hsource target hedge with hvisited | hwaiting
  · exact Or.inl hvisited
  · rcases List.mem_cons.mp hwaiting with rfl | hwaiting
    · exact Or.inl hnode
    · exact Or.inr hwaiting

/-- Visiting a node puts its successors on the waiting list. -/
theorem Covered.visit (h : graph.Covered (node :: waiting) visited) :
    graph.Covered (graph.successors node ++ waiting) (visited ++ [node]) := by
  intro source hsource target hedge
  rcases List.mem_append.mp hsource with hsource | hsource
  · rcases h source hsource target hedge with hvisited | hwaiting
    · exact Or.inl (List.mem_append_left _ hvisited)
    · rcases List.mem_cons.mp hwaiting with rfl | hwaiting
      · exact Or.inl (List.mem_append_right _ List.mem_cons_self)
      · exact Or.inr (List.mem_append_right _ hwaiting)
  · cases List.mem_singleton.mp hsource
    exact Or.inr (List.mem_append_left _ hedge)

/-- A search whose bound suffices for the waiting nodes and the open edges finds the
waiting nodes and ends with no node waiting. -/
theorem covered_searchWithin (hgraph : graph.WellFormed)
    (hbound : waiting.length + graph.openEdges visited ≤ bound)
    (hcovered : graph.Covered waiting visited) :
    (∀ start ∈ waiting, start ∈ graph.searchWithin bound waiting visited) ∧
      graph.Covered [] (graph.searchWithin bound waiting visited) := by
  induction bound generalizing waiting visited with
  | zero =>
      have hnil : waiting = [] := List.eq_nil_of_length_eq_zero (by omega)
      subst hnil
      exact ⟨by simp, hcovered⟩
  | succ bound ih =>
      cases waiting with
      | nil => exact ⟨by simp, hcovered⟩
      | cons head waiting =>
          rw [List.length_cons] at hbound
          unfold searchWithin
          by_cases hhead : head ∈ visited
          · rw [if_pos hhead]
            have hrest := ih (by omega) (hcovered.skip hhead)
            refine ⟨?_, hrest.2⟩
            intro start hstart
            rcases List.mem_cons.mp hstart with rfl | hstart
            · exact mem_search_of_mem_visited hhead
            · exact hrest.1 start hstart
          · rw [if_neg hhead]
            have hopen := openEdges_visit hgraph hhead
            have hrest := ih (by rw [List.length_append]; omega) hcovered.visit
            refine ⟨?_, hrest.2⟩
            intro start hstart
            rcases List.mem_cons.mp hstart with rfl | hstart
            · exact mem_search_of_mem_visited (List.mem_append_right _ List.mem_cons_self)
            · exact hrest.1 start (List.mem_append_right _ hstart)

/-! ## Reachability -/

/-- A search finds exactly what is reached from one of its starts. -/
theorem mem_search (hgraph : graph.WellFormed) :
    node ∈ graph.search starts ↔ ∃ start ∈ starts, ReflTransGen graph.Edge start node := by
  have hempty : graph.Covered starts [] := fun source hsource => absurd hsource List.not_mem_nil
  have hbound : starts.length + graph.openEdges [] ≤ starts.length + graph.edgeCount :=
    Nat.le_of_eq (by rw [openEdges_nil])
  obtain ⟨hstarts, hcovered⟩ := covered_searchWithin hgraph hbound hempty
  constructor
  · intro h
    exact (exists_start_of_mem_searchWithin h).resolve_left List.not_mem_nil
  · rintro ⟨start, hstart, hreach⟩
    induction hreach with
    | refl => exact hstarts start hstart
    | tail _ hedge ih => exact (hcovered _ ih _ hedge).resolve_right List.not_mem_nil

/-- The nodes reached by one or more edges. -/
theorem mem_reached (hgraph : graph.WellFormed) :
    target ∈ graph.reached source ↔ TransGen graph.Edge source target := by
  rw [reached, mem_search hgraph, TransGen.head'_iff]
  rfl

/-- The closure has an edge wherever one or more edges lead. -/
theorem closure_hasEdge_iff (hgraph : graph.WellFormed) (hsource : source ∈ graph.nodes) :
    graph.closure.hasEdge source target = true ↔ TransGen graph.Edge source target := by
  rw [hasEdge_closure hsource, mem_reached hgraph]

/-! ## Innermost cycles -/

/-- A node is innermost when it lies on a cycle and every cycle that it reaches leads
back to it. -/
def Innermost (graph : Digraph) (node : String) : Prop :=
  TransGen graph.Edge node node ∧
    ∀ other, TransGen graph.Edge node other → TransGen graph.Edge other other →
      TransGen graph.Edge other node

/-- A cycle that does not lead back is reached from fewer nodes than reach it. -/
theorem card_reached_lt (hgraph : graph.WellFormed) (hcycle : TransGen graph.Edge source source)
    (hreach : TransGen graph.Edge source target) (hback : ¬ TransGen graph.Edge target source) :
    (graph.reached target).toFinset.card < (graph.reached source).toFinset.card := by
  apply Finset.card_lt_card
  rw [Finset.ssubset_iff_of_subset]
  · refine ⟨source, ?_, ?_⟩
    · exact List.mem_toFinset.mpr ((mem_reached hgraph).mpr hcycle)
    · rw [List.mem_toFinset, mem_reached hgraph]
      exact hback
  · intro other hother
    rw [List.mem_toFinset, mem_reached hgraph] at hother ⊢
    exact hreach.trans hother

/-- Where there is a cycle, there is an innermost one: going on to a cycle that does not
lead back leaves ever fewer nodes to reach. -/
theorem exists_innermost (hgraph : graph.WellFormed) (hcycle : TransGen graph.Edge node node) :
    ∃ inner, graph.Innermost inner := by
  induction hcard : (graph.reached node).toFinset.card using Nat.strong_induction_on
    generalizing node with
  | _ card ih =>
      by_cases hinner : graph.Innermost node
      · exact ⟨node, hinner⟩
      · have hout : ∃ other, TransGen graph.Edge node other ∧ TransGen graph.Edge other other ∧
            ¬ TransGen graph.Edge other node := by
          by_contra hnone
          push Not at hnone
          exact hinner ⟨hcycle, hnone⟩
        obtain ⟨other, hreach, hother, hback⟩ := hout
        have hfewer := card_reached_lt hgraph hcycle hreach hback
        exact ih _ (hcard ▸ hfewer) hother rfl

/-- Being innermost is what the test on the closure finds. -/
theorem isInnermost_closure (hgraph : graph.WellFormed) (hnode : node ∈ graph.nodes) :
    graph.closure.isInnermost node = true ↔ graph.Innermost node := by
  unfold isInnermost Innermost
  rw [Bool.and_eq_true, List.all_eq_true, closure_hasEdge_iff hgraph hnode]
  apply and_congr_right
  intro _
  rw [successors_closure hnode]
  apply forall_congr'
  intro other
  rw [mem_reached hgraph]
  apply imp_congr_right
  intro hreach
  have hother : other ∈ graph.nodes := (hgraph.mem_of_transGen hreach).2
  rw [Bool.or_eq_true, Bool.not_eq_true', ← Bool.not_eq_true, closure_hasEdge_iff hgraph hother,
    closure_hasEdge_iff hgraph hother]
  constructor
  · rintro (hback | hnone) hcycle
    · exact hback
    · exact absurd hcycle hnone
  · intro h
    by_cases hcycle : TransGen graph.Edge other other
    · exact Or.inl (h hcycle)
    · exact Or.inr hcycle

/-- The component of a node holds what it reaches and is reached from. -/
theorem mem_component_closure (hgraph : graph.WellFormed) (hnode : node ∈ graph.nodes) :
    target ∈ graph.closure.component node ↔
      TransGen graph.Edge node target ∧ TransGen graph.Edge target node := by
  have hnodes : graph.closure.nodes = graph.nodes := rfl
  unfold component
  rw [List.mem_filter, hnodes, Bool.and_eq_true, closure_hasEdge_iff hgraph hnode]
  constructor
  · rintro ⟨htarget, hreach, hback⟩
    exact ⟨hreach, (closure_hasEdge_iff hgraph htarget).mp hback⟩
  · rintro ⟨hreach, hback⟩
    have htarget : target ∈ graph.nodes := (hgraph.mem_of_transGen hreach).2
    exact ⟨htarget, hreach, (closure_hasEdge_iff hgraph htarget).mpr hback⟩

/-! ## The reported cycle -/

/-- A reported cycle is the component of an innermost node. -/
theorem exists_innermost_of_firstCycle? (hgraph : graph.WellFormed) {cycle : List String}
    (h : graph.firstCycle? = some cycle) :
    ∃ inner, graph.Innermost inner ∧ ∀ name, name ∈ cycle ↔
      TransGen graph.Edge inner name ∧ TransGen graph.Edge name inner := by
  obtain ⟨inner, hinner, hinnermost, rfl⟩ := firstCycle?_eq_some h
  have hnode : inner ∈ graph.nodes := by
    obtain ⟨start, hstart, hreach⟩ := (mem_search hgraph).mp hinner
    rcases ReflTransGen.cases_tail hreach with rfl | ⟨last, -, hedge⟩
    · exact hstart
    · exact hgraph.target_mem last inner hedge
  refine ⟨inner, (isInnermost_closure hgraph hnode).mp hinnermost, ?_⟩
  intro name
  exact mem_component_closure hgraph hnode

/-- A cycle is reported exactly when there is one. -/
theorem firstCycle?_isSome (hgraph : graph.WellFormed) :
    graph.firstCycle?.isSome = true ↔ ∃ node, TransGen graph.Edge node node := by
  constructor
  · intro h
    obtain ⟨cycle, hcycle⟩ := Option.isSome_iff_exists.mp h
    obtain ⟨inner, hinner, -⟩ := exists_innermost_of_firstCycle? hgraph hcycle
    exact ⟨inner, hinner.1⟩
  · rintro ⟨node, hcycle⟩
    obtain ⟨inner, hinner⟩ := exists_innermost hgraph hcycle
    have hnode : inner ∈ graph.nodes := (hgraph.mem_of_transGen hinner.1).1
    have hfound : inner ∈ graph.search graph.nodes :=
      (mem_search hgraph).mpr ⟨inner, hnode, ReflTransGen.refl⟩
    unfold firstCycle?
    rw [Option.isSome_map, List.find?_isSome]
    exact ⟨inner, hfound, (isInnermost_closure hgraph hnode).mpr hinner⟩

end Digraph

end SelectionSql
