import NavBim.RouteGraphFile

namespace NavBim

/-!
# The edges of a graph as one list

The saver writes the edges of one node after the other, and the loader adds
them one by one to nodes that have no edges yet.
-/

open GeoJsonGraphFileLoader

section Edges

variable {F : Type}

/-- A node before its edges are added. -/
def RouteNode.withoutEdges
    (node : RouteNode F) : RouteNode F :=
  { node with neighbors := [] }

/-- The edges, with the places of the nodes that they start at. -/
def startedEdges
    (nodes : List (RouteNode F)) : List (Nat × DirectionalEdge F) :=
  nodes.zipIdx.flatMap fun indexed =>
    indexed.1.neighbors.map fun edge => (indexed.2, edge)

theorem startedEdges_append_singleton
    (nodes : List (RouteNode F))
    (last : RouteNode F) :
    startedEdges (nodes ++ [last]) =
      startedEdges nodes ++
        last.neighbors.map fun edge => (nodes.length, edge) := by
  rw [startedEdges, List.zipIdx_append, List.flatMap_append]
  simp [startedEdges]

variable
  {nodes : List (RouteNode F)}

theorem mem_startedEdges_iff
    {started : Nat × DirectionalEdge F} :
    started ∈ startedEdges nodes ↔
      ∃ node, nodes[started.1]? = some node ∧
        started.2 ∈ node.neighbors := by
  simp only [startedEdges, List.mem_flatMap, List.mem_map]
  constructor
  · rintro ⟨indexed, isIndexed, edge, isEdge, rfl⟩
    exact ⟨indexed.1, List.mem_zipIdx_iff_getElem?.mp isIndexed, isEdge⟩
  · rintro ⟨node, isNode, isEdge⟩
    exact ⟨(node, started.1), List.mem_zipIdx_iff_getElem?.mpr isNode,
      started.2, isEdge, rfl⟩

theorem forall_startedEdges_iff
    {holds : DirectionalEdge F → Prop}
    {nodes : List (RouteNode F)} :
    (∀ started ∈ startedEdges nodes, holds started.2) ↔
      ∀ node ∈ nodes, ∀ edge ∈ node.neighbors, holds edge := by
  constructor
  · intro holdsStarted node isNode edge isEdge
    obtain ⟨index, atIndex⟩ := List.mem_iff_getElem?.mp isNode
    exact holdsStarted (index, edge)
      (mem_startedEdges_iff.mpr ⟨node, atIndex, isEdge⟩)
  · intro holdsEdges started isStarted
    obtain ⟨node, isNode, isEdge⟩ := mem_startedEdges_iff.mp isStarted
    exact holdsEdges node (List.mem_of_getElem? isNode) started.2 isEdge

theorem start_lt_of_mem_startedEdges
    {started : Nat × DirectionalEdge F}
    (isStarted : started ∈ startedEdges nodes) :
    started.1 < nodes.length := by
  obtain ⟨node, isNode, -⟩ := mem_startedEdges_iff.mp isStarted
  exact (List.getElem?_eq_some_iff.mp isNode).1

theorem length_foldl_addEdge
    (edges : List (Nat × DirectionalEdge F))
    (nodes : List (RouteNode F)) :
    (edges.foldl addEdge nodes).length = nodes.length := by
  induction edges generalizing nodes with
  | nil =>
      rfl
  | cons edge rest inductionHypothesis =>
      rw [List.foldl_cons, inductionHypothesis, length_addEdge]

theorem map_withoutEdges_foldl_addEdge
    (edges : List (Nat × DirectionalEdge F))
    (nodes : List (RouteNode F)) :
    (edges.foldl addEdge nodes).map RouteNode.withoutEdges =
      nodes.map RouteNode.withoutEdges := by
  induction edges generalizing nodes with
  | nil =>
      rfl
  | cons edge rest inductionHypothesis =>
      rw [List.foldl_cons, inductionHypothesis]
      apply List.ext_getElem?
      intro index
      rw [List.getElem?_map, List.getElem?_map, addEdge,
        List.getElem?_modify]
      cases nodes[index]? with
      | none =>
          rfl
      | some node =>
          simp only [Option.map_some, Option.map_eq_map]
          split
          · rfl
          · rfl

theorem mem_startedEdges_addEdge_iff
    {edge started : Nat × DirectionalEdge F}
    (inside : edge.1 < nodes.length) :
    started ∈ startedEdges (addEdge nodes edge) ↔
      started ∈ startedEdges nodes ∨ started = edge := by
  rw [mem_startedEdges_iff, mem_startedEdges_iff, addEdge]
  by_cases sameStart : edge.1 = started.1
  · rw [← sameStart, List.getElem?_modify_eq,
      List.getElem?_eq_getElem inside, Prod.ext_iff]
    simp [sameStart]
  · rw [List.getElem?_modify_ne _ _ sameStart]
    refine (or_iff_left ?_).symm
    intro same
    exact sameStart (congrArg Prod.fst same.symm)

theorem mem_startedEdges_foldl_iff
    {edges : List (Nat × DirectionalEdge F)}
    {started : Nat × DirectionalEdge F}
    (inside : ∀ edge ∈ edges, edge.1 < nodes.length) :
    started ∈ startedEdges (edges.foldl addEdge nodes) ↔
      started ∈ startedEdges nodes ∨ started ∈ edges := by
  induction edges generalizing nodes with
  | nil =>
      simp
  | cons edge rest inductionHypothesis =>
      rw [List.forall_mem_cons] at inside
      have restInside :
          ∀ other ∈ rest, other.1 < (addEdge nodes edge).length := by
        rw [length_addEdge]
        exact inside.2
      rw [List.foldl_cons, inductionHypothesis restInside,
        mem_startedEdges_addEdge_iff inside.1, List.mem_cons, or_assoc]

theorem addEdge_append
    {edge : Nat × DirectionalEdge F}
    (inside : edge.1 < nodes.length)
    (rest : List (RouteNode F)) :
    addEdge (nodes ++ rest) edge = addEdge nodes edge ++ rest := by
  apply List.ext_getElem?
  intro index
  rw [addEdge, addEdge, List.getElem?_modify, List.getElem?_append,
    List.getElem?_append, List.length_modify, List.getElem?_modify]
  by_cases isEdge : edge.1 = index
  · rw [← isEdge, if_pos inside, if_pos inside]
  · simp [isEdge]

theorem foldl_addEdge_append
    {edges : List (Nat × DirectionalEdge F)}
    (inside : ∀ edge ∈ edges, edge.1 < nodes.length)
    (rest : List (RouteNode F)) :
    edges.foldl addEdge (nodes ++ rest) =
      edges.foldl addEdge nodes ++ rest := by
  induction edges generalizing nodes with
  | nil =>
      rfl
  | cons edge others inductionHypothesis =>
      rw [List.forall_mem_cons] at inside
      rw [List.foldl_cons, List.foldl_cons, addEdge_append inside.1]
      apply inductionHypothesis
      intro other member
      rw [length_addEdge]
      exact inside.2 other member

theorem foldl_addEdge_last
    (edges : List (DirectionalEdge F))
    (nodes : List (RouteNode F))
    (node : RouteNode F) :
    (edges.map fun edge => (nodes.length, edge)).foldl addEdge
        (nodes ++ [node]) =
      nodes ++ [{ node with neighbors := node.neighbors ++ edges }] := by
  induction edges generalizing node with
  | nil =>
      simp
  | cons edge rest inductionHypothesis =>
      have added :
          addEdge (nodes ++ [node]) (nodes.length, edge) =
            nodes ++ [{ node with neighbors := node.neighbors ++ [edge] }] := by
        rw [addEdge, List.modify_eq_take_cons_drop (by simp)]
        simp
      rw [List.map_cons, List.foldl_cons, added, inductionHypothesis]
      simp

/-- Nodes get all their edges back, in their order. -/
theorem foldl_addEdge_startedEdges
    (nodes : List (RouteNode F)) :
    (startedEdges nodes).foldl addEdge
        (nodes.map RouteNode.withoutEdges) = nodes := by
  induction nodes using List.reverseRecOn with
  | nil =>
      rfl
  | append_singleton nodes last inductionHypothesis =>
      have inside :
          ∀ started ∈ startedEdges nodes,
            started.1 < (nodes.map RouteNode.withoutEdges).length := by
        intro started isStarted
        rw [List.length_map]
        exact start_lt_of_mem_startedEdges isStarted
      rw [startedEdges_append_singleton, List.foldl_append, List.map_append,
        foldl_addEdge_append inside, inductionHypothesis, List.map_singleton,
        foldl_addEdge_last]
      rfl

/-- Equal nodes were made by equal edges from equal nodes. -/
theorem addEdge_injective
    {nodes others : List (RouteNode F)}
    {edge other : Nat × DirectionalEdge F}
    (inside : edge.1 < nodes.length)
    (sameStart : edge.1 = other.1)
    (same : addEdge nodes edge = addEdge others other) :
    nodes = others ∧ edge = other := by
  have sameAt :
      ∀ index : Nat,
        (addEdge nodes edge)[index]? = (addEdge others other)[index]? :=
    fun index => congrArg (fun built => built[index]?) same
  simp only [addEdge, ← sameStart] at sameAt
  obtain ⟨node, isNode⟩ :
      ∃ node, nodes[edge.1]? = some node :=
    ⟨_, List.getElem?_eq_getElem inside⟩
  have sameStartNode := sameAt edge.1
  rw [List.getElem?_modify_eq, List.getElem?_modify_eq, isNode] at sameStartNode
  obtain ⟨otherNode, isOther, sameNode⟩ :=
    Option.map_eq_some_iff.mp sameStartNode.symm
  obtain ⟨sameNeighbors, sameEdge⟩ :=
    List.append_inj' (congrArg RouteNode.neighbors sameNode) rfl
  have nodesEqual : otherNode = node := by
    cases node
    cases otherNode
    simp_all
  constructor
  · apply List.ext_getElem?
    intro index
    by_cases isStart : edge.1 = index
    · rw [← isStart, isNode, isOther, nodesEqual]
    · have atIndex := sameAt index
      rw [List.getElem?_modify_ne _ _ isStart,
        List.getElem?_modify_ne _ _ isStart] at atIndex
      exact atIndex
  · exact Prod.ext sameStart (List.singleton_inj.mp sameEdge).symm

/-- Edges from the same nodes are known from what they make. -/
theorem foldl_addEdge_injective
    {edges others : List (Nat × DirectionalEdge F)}
    (inside : ∀ edge ∈ edges, edge.1 < nodes.length)
    (sameStarts : edges.map Prod.fst = others.map Prod.fst)
    (same : edges.foldl addEdge nodes = others.foldl addEdge nodes) :
    edges = others := by
  induction edges using List.reverseRecOn generalizing others with
  | nil =>
      rw [List.map_nil] at sameStarts
      exact (List.map_eq_nil_iff.mp sameStarts.symm).symm
  | append_singleton edges edge inductionHypothesis =>
      cases others using List.reverseRecOn with
      | nil =>
          simp at sameStarts
      | append_singleton others other =>
          rw [List.map_append, List.map_append] at sameStarts
          obtain ⟨sameStartsBefore, sameStart⟩ :=
            List.append_inj' sameStarts rfl
          rw [List.foldl_append, List.foldl_append] at same
          rw [List.forall_mem_append] at inside
          have edgeInside : edge.1 < (edges.foldl addEdge nodes).length := by
            rw [length_foldl_addEdge]
            exact inside.2 edge (List.mem_singleton_self edge)
          obtain ⟨sameNodes, rfl⟩ :=
            addEdge_injective edgeInside (List.singleton_inj.mp sameStart) same
          rw [inductionHypothesis inside.1 sameStartsBefore sameNodes]

end Edges

end NavBim
