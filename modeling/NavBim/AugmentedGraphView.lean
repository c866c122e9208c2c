import NavBim.TopologicalMap
import NavBim.TopomapPlanner

namespace NavBim

/-!
# Start and goal in the shared graph

For a request the start and goal poses become vertices of the shared graph.
`createVirtualNodes` prepares them with their edges, `materializeGraphInPlace`
adds them, and the destructor of `ScopedGraphMaterialization` removes them.
The graph is restored exactly when no vertex of the map bears one of the names
that the constructor takes for leftovers.
-/

/-- `VirtualEdge`. -/
structure VirtualEdge (K : Type) where
  edgeId : Int32
  source : Nat
  target : Nat
  properties : EdgeProperties K

/-- `VirtualNodes` without its lookup tables, which are derived from it. -/
structure VirtualNodes (K : Type) where
  startVertex : Nat
  goalVertex : Nat
  startProps : NodeProperties K
  goalProps : NodeProperties K
  edges : List (VirtualEdge K)

/-- `MaterializedNodes` with the graph they were added to. -/
structure MaterializedGraph (K : Type) where
  graph : TopologicalGraph K
  startVertex : Nat
  goalVertex : Nat

section Virtual

variable {K : Type} [Field K] [SquareRoot K]

/-- Properties of the virtual start or goal node. -/
def virtualProps
    (id : Int32)
    (name : String)
    (coords : Coords K)
    (floor : Option (List String)) : NodeProperties K :=
  { NodeProperties.unset with
    id := id
    name := name
    type := "transition"
    position := ⟨coords.1, coords.2.1, coords.2.2⟩
    floor := floor }

/-- `make_edge_props`. -/
def makeEdgeProps
    (penalizeZMovement : K)
    (edgeId roomId : Int32)
    (props1 props2 : NodeProperties K) : EdgeProperties K :=
  let dx := props1.position.x - props2.position.x
  let dy := props1.position.y - props2.position.y
  let dz := props1.position.z - props2.position.z
  let dzPenalized := dz * penalizeZMovement
  { EdgeProperties.unset with
    id := edgeId
    type := "transition"
    roomId := some roomId
    estimatedDistance :=
      ((SquareRoot.sqrt (dx * dx + dy * dy + dz * dz) : K) : WithTop K)
    estimatedCost :=
      ((SquareRoot.sqrt (dx * dx + dy * dy + dzPenalized * dzPenalized) :
        K) : WithTop K)
    plannedDistance := unplanned
    plannedCost := unplanned }

/-- The room id for a virtual edge to a transition of the given room. -/
def virtualRoomId
    (graph : TopologicalGraph K)
    (room neighbor : Nat) : Int32 :=
  match graph.edge? room neighbor with
  | none => (graph.node room).id
  | some edge => edge.properties.roomId.getD (graph.node room).id

/-- Adjacent transitions of a room, once for each edge. -/
def adjacentTransitions
    (graph : TopologicalGraph K)
    (room : Nat) : List Nat :=
  (graph.outTargets room).filter fun neighbor =>
    (graph.node neighbor).type == "transition"

/-- The edges from a virtual node to the transitions of its room. -/
def transitionEdges
    (graph : TopologicalGraph K)
    (penalizeZMovement : K)
    (source room : Nat)
    (props : NodeProperties K)
    (firstId : Int32) : List (VirtualEdge K) :=
  (adjacentTransitions graph room).zipIdx.map fun indexed =>
    { edgeId := firstId + Int32.ofNat indexed.2
      source := source
      target := indexed.1
      properties :=
        makeEdgeProps penalizeZMovement
          (firstId + Int32.ofNat indexed.2)
          (virtualRoomId graph room indexed.1) props
          (graph.node indexed.1) }

/-- The room edge of a virtual node. -/
def virtualRoomEdge
    (source room : Nat)
    (edgeId : Int32) : VirtualEdge K where
  edgeId := edgeId
  source := source
  target := room
  properties :=
    { EdgeProperties.unset with
      id := edgeId
      type := "room" }

/-- `createVirtualNodes`. -/
def createVirtualNodes
    (topologicalMap : TopologicalMap K)
    (startRoom endRoom : Nat)
    (startCoords endCoords : Coords K)
    (penalizeZMovement : K) : VirtualNodes K :=
  let graph := topologicalMap.graph
  let startVertex := graph.numVertices
  let goalVertex := graph.numVertices + 1
  let startProps :=
    virtualProps (topologicalMap.maxNodeId + 1) "start" startCoords
      (graph.node startRoom).floor
  let goalProps :=
    virtualProps (topologicalMap.maxNodeId + 2) "goal" endCoords
      (graph.node endRoom).floor
  let nextEdgeId := topologicalMap.maxEdgeId + 1
  let direct : List (VirtualEdge K) :=
    if startRoom = endRoom then
      [{ edgeId := nextEdgeId
         source := startVertex
         target := goalVertex
         properties :=
           makeEdgeProps penalizeZMovement nextEdgeId
             (graph.node startRoom).id startProps goalProps }]
    else
      []
  let afterDirect := nextEdgeId + Int32.ofNat direct.length
  let fromStart :=
    transitionEdges graph penalizeZMovement startVertex startRoom
      startProps afterDirect
  let afterStart := afterDirect + Int32.ofNat fromStart.length
  let fromGoal :=
    transitionEdges graph penalizeZMovement goalVertex endRoom
      goalProps afterStart
  let afterGoal := afterStart + Int32.ofNat fromGoal.length
  { startVertex := startVertex
    goalVertex := goalVertex
    startProps := startProps
    goalProps := goalProps
    edges :=
      direct ++ fromStart ++ fromGoal ++
        [virtualRoomEdge startVertex startRoom afterGoal,
          virtualRoomEdge goalVertex endRoom (afterGoal + 1)] }

/-- A node that the constructor takes for a leftover of an earlier request. -/
def isStale
    (node : NodeProperties K) : Bool :=
  node.name == "start" || node.name == "goal"

/-- The next leftover from a position of the iterator on. -/
def nextStale
    (graph : TopologicalGraph K)
    (position : Nat) : Option Nat :=
  (List.range graph.numVertices).find? fun vertex =>
    decide (position ≤ vertex) && isStale (graph.node vertex)

/--
The safety check.  After a removal the iterator is set to the first vertex and
then advanced by `continue`, so vertex `0` is not looked at again.  One pass
removes one vertex, which bounds the number of passes.
-/
def removeStaleNodes :
    Nat → Nat → TopologicalGraph K → TopologicalGraph K
  | 0, _, graph => graph
  | passes + 1, position, graph =>
      match nextStale graph position with
      | none => graph
      | some vertex =>
          removeStaleNodes passes 1 (graph.removeVertex vertex)

/-- The vertex that stands for a virtual descriptor. -/
def materializedVertex
    (virtualNodes : VirtualNodes K)
    (startV goalV vertex : Nat) : Nat :=
  if vertex = virtualNodes.startVertex then
    startV
  else if vertex = virtualNodes.goalVertex then
    goalV
  else
    vertex

/-- Add one virtual edge. -/
def addVirtualEdge
    (virtualNodes : VirtualNodes K)
    (startV goalV : Nat)
    (graph : TopologicalGraph K)
    (vedge : VirtualEdge K) : TopologicalGraph K :=
  graph.addEdge
    (materializedVertex virtualNodes startV goalV vedge.source)
    (materializedVertex virtualNodes startV goalV vedge.target)
    vedge.properties

/-- `materializeGraphInPlace`, which is the constructor of the scope object. -/
def materializeGraphInPlace
    (graph : TopologicalGraph K)
    (virtualNodes : VirtualNodes K) : MaterializedGraph K :=
  let cleaned := removeStaleNodes graph.numVertices 0 graph
  let startV := cleaned.numVertices
  let goalV := cleaned.numVertices + 1
  let extended :=
    (cleaned.addVertex virtualNodes.startProps).addVertex
      virtualNodes.goalProps
  { graph :=
      virtualNodes.edges.foldl
        (addVirtualEdge virtualNodes startV goalV) extended
    startVertex := startV
    goalVertex := goalV }

/-- The destructor of `ScopedGraphMaterialization`. -/
def destroyMaterialization
    (materialized : MaterializedGraph K) : TopologicalGraph K :=
  (materialized.graph.removeVertex materialized.goalVertex).removeVertex
    materialized.startVertex

section Counting

variable {graph : TopologicalGraph K}

omit [Field K] [SquareRoot K] in
theorem numVertices_removeVertex
    {vertex : Nat}
    (inGraph : vertex < graph.numVertices) :
    (graph.removeVertex vertex).numVertices + 1 =
      graph.numVertices := by
  have length := List.length_eraseIdx_add_one inGraph
  exact length

section

omit [SquareRoot K]

theorem nextStale_lt
    {position vertex : Nat}
    (found : nextStale graph position = some vertex) :
    vertex < graph.numVertices :=
  List.mem_range.mp (List.mem_of_find?_eq_some found)

/-- The safety check adds no vertices. -/
theorem numVertices_removeStaleNodes_le
    (passes position : Nat)
    (graph : TopologicalGraph K) :
    (removeStaleNodes passes position graph).numVertices ≤
      graph.numVertices := by
  induction passes generalizing position graph with
  | zero =>
      exact le_rfl
  | succ passes inductionHypothesis =>
      simp only [removeStaleNodes]
      cases found : nextStale graph position with
      | none =>
          exact le_rfl
      | some vertex =>
          have fewer := numVertices_removeVertex (nextStale_lt found)
          have rest := inductionHypothesis 1 (graph.removeVertex vertex)
          simp only
          omega

/-- The safety check of a graph without leftovers changes nothing. -/
theorem removeStaleNodes_of_none
    (clean :
      ∀ vertex < graph.numVertices, isStale (graph.node vertex) = false)
    (passes position : Nat) :
    removeStaleNodes passes position graph = graph := by
  cases passes with
  | zero =>
      rfl
  | succ passes =>
      have nothing : nextStale graph position = none := by
        rw [nextStale, List.find?_eq_none]
        intro vertex member
        simp [clean vertex (List.mem_range.mp member)]
      simp only [removeStaleNodes, nothing]

/-- The safety check removes something from a graph with a leftover. -/
theorem numVertices_removeStaleNodes_lt
    {vertex : Nat}
    (inGraph : vertex < graph.numVertices)
    (stale : isStale (graph.node vertex) = true) :
    (removeStaleNodes graph.numVertices 0 graph).numVertices <
      graph.numVertices := by
  obtain ⟨passes, isSucc⟩ := Nat.exists_eq_succ_of_ne_zero
    (Nat.ne_of_gt (Nat.zero_lt_of_lt inGraph))
  have someStale : (nextStale graph 0).isSome = true := by
    rw [nextStale, List.find?_isSome]
    exact ⟨vertex, List.mem_range.mpr inGraph, by simp [stale]⟩
  obtain ⟨first, found⟩ := Option.isSome_iff_exists.mp someStale
  have fewer := numVertices_removeVertex (nextStale_lt found)
  have rest :=
    numVertices_removeStaleNodes_le passes 1 (graph.removeVertex first)
  simp only [isSucc, Nat.succ_eq_add_one, removeStaleNodes, found]
  omega

/-- Adding an edge enlarges the graph at most up to the edge's ends. -/
theorem numVertices_addEdge
    (graph : TopologicalGraph K)
    (u v : Nat)
    (properties : EdgeProperties K) :
    (graph.addEdge u v properties).numVertices =
      max graph.numVertices (max u v + 1) := by
  simp only [TopologicalGraph.numVertices, TopologicalGraph.addEdge,
    List.length_append, List.length_replicate]
  omega

end

end Counting

section Edges

variable
  (virtualNodes : VirtualNodes K)
  (startV goalV : Nat)

omit [SquareRoot K] in
theorem numVertices_addVirtualEdges_le
    {bound : Nat}
    (edges : List (VirtualEdge K)) :
    ∀ graph : TopologicalGraph K,
      graph.numVertices ≤ bound →
      (∀ vedge ∈ edges,
        materializedVertex virtualNodes startV goalV vedge.source <
            bound ∧
          materializedVertex virtualNodes startV goalV vedge.target <
            bound) →
      graph.numVertices ≤
          (edges.foldl (addVirtualEdge virtualNodes startV goalV)
            graph).numVertices ∧
        (edges.foldl (addVirtualEdge virtualNodes startV goalV)
          graph).numVertices ≤ bound := by
  induction edges with
  | nil =>
      intro graph small _
      exact ⟨le_rfl, small⟩
  | cons vedge rest inductionHypothesis =>
      intro graph small inBound
      have ends := inBound vedge List.mem_cons_self
      have size :=
        numVertices_addEdge graph
          (materializedVertex virtualNodes startV goalV vedge.source)
          (materializedVertex virtualNodes startV goalV vedge.target)
          vedge.properties
      have rest :=
        inductionHypothesis
          (addVirtualEdge virtualNodes startV goalV graph vedge)
          (by simp only [addVirtualEdge]; omega)
          (fun other member =>
            inBound other (List.mem_cons_of_mem _ member))
      simp only [List.foldl_cons]
      simp only [addVirtualEdge] at rest ⊢
      omega

omit [SquareRoot K] in
theorem addVirtualEdges_spec
    (edges : List (VirtualEdge K)) :
    ∀ graph : TopologicalGraph K,
      (∀ vedge ∈ edges,
        materializedVertex virtualNodes startV goalV vedge.source <
            graph.numVertices ∧
          materializedVertex virtualNodes startV goalV vedge.target <
            graph.numVertices) →
      (edges.foldl (addVirtualEdge virtualNodes startV goalV)
          graph).vertices = graph.vertices ∧
        (edges.foldl (addVirtualEdge virtualNodes startV goalV)
          graph).edges =
            graph.edges ++
              edges.map fun vedge =>
                ⟨materializedVertex virtualNodes startV goalV
                    vedge.source,
                  materializedVertex virtualNodes startV goalV
                    vedge.target,
                  vedge.properties⟩ := by
  induction edges with
  | nil =>
      intro graph _
      exact ⟨rfl, (List.append_nil _).symm⟩
  | cons vedge rest inductionHypothesis =>
      intro graph inGraph
      have ends := inGraph vedge List.mem_cons_self
      have sameVertices :
          (addVirtualEdge virtualNodes startV goalV graph
            vedge).vertices = graph.vertices := by
        have noGap :
            max (materializedVertex virtualNodes startV goalV
                  vedge.source)
                (materializedVertex virtualNodes startV goalV
                  vedge.target) + 1 -
              graph.vertices.length = 0 := by
          simp only [TopologicalGraph.numVertices] at ends
          omega
        simp only [addVirtualEdge, TopologicalGraph.addEdge, noGap,
          List.replicate_zero, List.append_nil]
      have sameCount :
          (addVirtualEdge virtualNodes startV goalV graph
            vedge).numVertices = graph.numVertices :=
        congrArg List.length sameVertices
      obtain ⟨vertices, edges⟩ :=
        inductionHypothesis
          (addVirtualEdge virtualNodes startV goalV graph vedge)
          (by
            rw [sameCount]
            exact fun other member =>
              inGraph other (List.mem_cons_of_mem _ member))
      rw [List.foldl_cons, vertices, edges]
      refine ⟨sameVertices, ?_⟩
      simp only [addVirtualEdge, TopologicalGraph.addEdge,
        List.append_assoc, List.map_cons, List.cons_append,
        List.nil_append]

omit [Field K] [SquareRoot K] in
theorem removeVertex_last
    {graph : TopologicalGraph K}
    {earlier : List (NodeProperties K)}
    {last : NodeProperties K}
    (isLast : graph.vertices = earlier ++ [last]) :
    (graph.removeVertex earlier.length).vertices = earlier ∧
      (graph.removeVertex earlier.length).edges =
        graph.edges.filter fun edge =>
          decide (edge.source ≠ earlier.length ∧
            edge.target ≠ earlier.length) := by
  constructor
  · simp only [TopologicalGraph.removeVertex, isLast]
    rw [List.eraseIdx_append_of_length_le le_rfl]
    simp
  · simp only [TopologicalGraph.removeVertex,
      TopologicalGraph.clearVertex]
    refine Eq.trans (List.map_congr_left ?_) (List.map_id _)
    intro edge member
    obtain ⟨inGraph, apart⟩ := List.mem_filter.mp member
    have valid := graph.endsValid edge inGraph
    rw [isLast, List.length_append, List.length_singleton] at valid
    simp only [decide_eq_true_eq] at apart
    have sourceKept :
        TopologicalGraph.shiftDown earlier.length edge.source =
          edge.source := by
      simp only [TopologicalGraph.shiftDown]
      split <;> omega
    have targetKept :
        TopologicalGraph.shiftDown earlier.length edge.target =
          edge.target := by
      simp only [TopologicalGraph.shiftDown]
      split <;> omega
    rw [sourceKept, targetKept]
    rfl

end Edges

section Transparent

/-- Virtual nodes that come after the graph, with edges into it. -/
structure VirtualNodesFit
    (graph : TopologicalGraph K)
    (virtualNodes : VirtualNodes K) : Prop where
  startVertex : virtualNodes.startVertex = graph.numVertices
  goalVertex : virtualNodes.goalVertex = graph.numVertices + 1
  ends :
    ∀ vedge ∈ virtualNodes.edges,
      (vedge.source = graph.numVertices ∨
          vedge.source = graph.numVertices + 1) ∧
        (vedge.target = graph.numVertices + 1 ∨
          vedge.target < graph.numVertices)

theorem createVirtualNodes_fit
    (topologicalMap : TopologicalMap K)
    {startRoom endRoom : Nat}
    (startCoords endCoords : Coords K)
    (penalizeZMovement : K)
    (startInGraph : startRoom < topologicalMap.graph.numVertices)
    (endInGraph : endRoom < topologicalMap.graph.numVertices) :
    VirtualNodesFit topologicalMap.graph
      (createVirtualNodes topologicalMap startRoom endRoom
        startCoords endCoords penalizeZMovement) := by
  have ofTransitions
      {source room : Nat}
      {props : NodeProperties K}
      {firstId : Int32}
      {vedge : VirtualEdge K}
      (member :
        vedge ∈
          transitionEdges topologicalMap.graph penalizeZMovement
            source room props firstId) :
      vedge.source = source ∧
        vedge.target < topologicalMap.graph.numVertices := by
    obtain ⟨indexed, inTargets, isEdge⟩ := List.mem_map.mp member
    have inList :=
      List.mem_of_mem_filter (List.fst_mem_of_mem_zipIdx inTargets)
    rw [← isEdge]
    exact ⟨rfl, (TopologicalGraph.lt_of_mem_outTargets inList).2⟩
  refine ⟨rfl, rfl, ?_⟩
  intro vedge member
  simp only [createVirtualNodes, List.mem_append, List.mem_cons,
    List.not_mem_nil, or_false] at member
  rcases member with ((direct | fromStart) | fromGoal) | isStart | isGoal
  · rw [List.mem_ite_nil_right, List.mem_singleton] at direct
    rw [direct.2]
    exact ⟨Or.inl rfl, Or.inl rfl⟩
  · have ends := ofTransitions fromStart
    exact ⟨Or.inl ends.1, Or.inr ends.2⟩
  · have ends := ofTransitions fromGoal
    exact ⟨Or.inr ends.1, Or.inr ends.2⟩
  · rw [isStart]
    exact ⟨Or.inl rfl, Or.inr startInGraph⟩
  · rw [isGoal]
    exact ⟨Or.inr rfl, Or.inr endInGraph⟩

theorem createVirtualNodes_path
    {topologicalMap : TopologicalMap K}
    {startRoom endRoom : Nat}
    {startCoords endCoords : Coords K}
    {penalizeZMovement : K}
    {vedge : VirtualEdge K}
    (member :
      vedge ∈
        (createVirtualNodes topologicalMap startRoom endRoom startCoords
          endCoords penalizeZMovement).edges) :
    vedge.properties.path = none := by
  have ofTransitions
      {source room : Nat}
      {props : NodeProperties K}
      {firstId : Int32}
      (inEdges :
        vedge ∈
          transitionEdges topologicalMap.graph penalizeZMovement
            source room props firstId) :
      vedge.properties.path = none := by
    obtain ⟨indexed, -, isEdge⟩ := List.mem_map.mp inEdges
    rw [← isEdge]
    rfl
  simp only [createVirtualNodes, List.mem_append, List.mem_cons,
    List.not_mem_nil, or_false] at member
  rcases member with ((direct | fromStart) | fromGoal) | isStart | isGoal
  · rw [List.mem_ite_nil_right, List.mem_singleton] at direct
    rw [direct.2]
    rfl
  · exact ofTransitions fromStart
  · exact ofTransitions fromGoal
  · rw [isStart]
    rfl
  · rw [isGoal]
    rfl

/-- The node that a descriptor of a virtual edge refers to. -/
def virtualNode
    (graph : TopologicalGraph K)
    (virtualNodes : VirtualNodes K)
    (vertex : Nat) : NodeProperties K :=
  if vertex = virtualNodes.startVertex then
    virtualNodes.startProps
  else if vertex = virtualNodes.goalVertex then
    virtualNodes.goalProps
  else
    graph.node vertex

/--
The scope object is transparent: destroying it restores the graph, and while
it is alive every virtual edge joins the nodes it was created for.
-/
structure Transparent
    (graph : TopologicalGraph K)
    (virtualNodes : VirtualNodes K) : Prop where
  restored :
    destroyMaterialization
      (materializeGraphInPlace graph virtualNodes) = graph
  joined :
    ∀ vedge ∈ virtualNodes.edges,
      ∃ edge ∈ (materializeGraphInPlace graph virtualNodes).graph.edges,
        edge.properties = vedge.properties ∧
          (materializeGraphInPlace graph virtualNodes).graph.node
              edge.source =
            virtualNode graph virtualNodes vedge.source ∧
          (materializeGraphInPlace graph virtualNodes).graph.node
              edge.target =
            virtualNode graph virtualNodes vedge.target

variable
  {graph : TopologicalGraph K}
  {virtualNodes : VirtualNodes K}

omit [SquareRoot K] in
theorem materializeGraphInPlace_of_clean
    (fit : VirtualNodesFit graph virtualNodes)
    (clean :
      ∀ vertex < graph.numVertices,
        isStale (graph.node vertex) = false) :
    (materializeGraphInPlace graph virtualNodes).startVertex =
        graph.numVertices ∧
      (materializeGraphInPlace graph virtualNodes).goalVertex =
        graph.numVertices + 1 ∧
      (materializeGraphInPlace graph virtualNodes).graph.vertices =
        graph.vertices ++
          [virtualNodes.startProps] ++ [virtualNodes.goalProps] ∧
      (materializeGraphInPlace graph virtualNodes).graph.edges =
        graph.edges ++
          virtualNodes.edges.map fun vedge =>
            ⟨vedge.source, vedge.target, vedge.properties⟩ := by
  have sameVertex
      (vertex : Nat) :
      materializedVertex virtualNodes graph.numVertices
        (graph.numVertices + 1) vertex = vertex := by
    simp only [materializedVertex, fit.startVertex, fit.goalVertex]
    split_ifs <;> omega
  have cleaned := removeStaleNodes_of_none clean graph.numVertices 0
  have spec :=
    addVirtualEdges_spec virtualNodes graph.numVertices
      (graph.numVertices + 1) virtualNodes.edges
      ((graph.addVertex virtualNodes.startProps).addVertex
        virtualNodes.goalProps)
      (by
        intro vedge member
        have ends := fit.ends vedge member
        rw [sameVertex, sameVertex]
        simp only [TopologicalGraph.numVertices,
          TopologicalGraph.addVertex, List.length_append,
          List.length_singleton] at ends ⊢
        omega)
  simp only [sameVertex] at spec
  simp only [materializeGraphInPlace, cleaned]
  exact ⟨trivial, trivial, spec⟩

omit [Field K] [SquareRoot K] in
/-- The destructor keeps what does not touch the last two vertices. -/
theorem destroyMaterialization_split
    {materialized : MaterializedGraph K}
    {earlier : List (NodeProperties K)}
    {startProps goalProps : NodeProperties K}
    {kept added : List (StoredEdge K)}
    (isStart : materialized.startVertex = earlier.length)
    (isGoal : materialized.goalVertex = earlier.length + 1)
    (vertices :
      materialized.graph.vertices = earlier ++ [startProps] ++ [goalProps])
    (edges : materialized.graph.edges = kept ++ added)
    (inside :
      ∀ edge ∈ kept,
        edge.source < earlier.length ∧ edge.target < earlier.length)
    (touches :
      ∀ edge ∈ added,
        edge.source = earlier.length ∨ edge.source = earlier.length + 1) :
    (destroyMaterialization materialized).vertices = earlier ∧
      (destroyMaterialization materialized).edges = kept := by
  have goalLast := removeVertex_last vertices
  have goalIndex :
      (earlier ++ [startProps]).length = materialized.goalVertex := by
    rw [isGoal, List.length_append]
    rfl
  rw [goalIndex] at goalLast
  have startLast := removeVertex_last goalLast.1
  rw [← isStart] at startLast
  refine ⟨startLast.1, ?_⟩
  unfold destroyMaterialization
  rw [startLast.2, goalLast.2, edges, List.filter_filter,
    List.filter_append]
  -- The old edges do not touch the two vertices, the new ones all do.
  have keepsOld :
      (kept.filter fun edge =>
        decide (edge.source ≠ materialized.startVertex ∧
            edge.target ≠ materialized.startVertex) &&
          decide (edge.source ≠ materialized.goalVertex ∧
            edge.target ≠ materialized.goalVertex)) = kept := by
    rw [List.filter_eq_self]
    intro edge member
    have within := inside edge member
    simp only [Bool.and_eq_true, decide_eq_true_eq]
    omega
  have dropsNew :
      (added.filter fun edge =>
        decide (edge.source ≠ materialized.startVertex ∧
            edge.target ≠ materialized.startVertex) &&
          decide (edge.source ≠ materialized.goalVertex ∧
            edge.target ≠ materialized.goalVertex)) = [] := by
    rw [List.filter_eq_nil_iff]
    intro edge member
    have atEnd := touches edge member
    simp only [Bool.and_eq_true, decide_eq_true_eq]
    omega
  rw [keepsOld, dropsNew, List.append_nil]

section

omit [SquareRoot K]

section

variable
  (fit : VirtualNodesFit graph virtualNodes)
  (clean :
    ∀ vertex < graph.numVertices,
      isStale (graph.node vertex) = false)

include fit clean

/-- Without leftovers the destructor restores the graph. -/
theorem destroy_of_clean :
    destroyMaterialization
      (materializeGraphInPlace graph virtualNodes) = graph := by
  obtain ⟨isStart, isGoal, vertices, edges⟩ :=
    materializeGraphInPlace_of_clean fit clean
  have touches :
      ∀ edge ∈ virtualNodes.edges.map fun vedge =>
          (⟨vedge.source, vedge.target, vedge.properties⟩ : StoredEdge K),
        edge.source = graph.vertices.length ∨
          edge.source = graph.vertices.length + 1 := by
    intro edge member
    obtain ⟨vedge, inVirtual, rfl⟩ := List.mem_map.mp member
    exact (fit.ends vedge inVirtual).1
  obtain ⟨sameVertices, sameEdges⟩ :=
    destroyMaterialization_split isStart isGoal vertices edges
      graph.endsValid touches
  exact TopologicalGraph.ext sameVertices sameEdges

theorem joined_of_clean
    {vedge : VirtualEdge K}
    (member : vedge ∈ virtualNodes.edges) :
    ∃ edge ∈ (materializeGraphInPlace graph virtualNodes).graph.edges,
      edge.properties = vedge.properties ∧
        (materializeGraphInPlace graph virtualNodes).graph.node
            edge.source =
          virtualNode graph virtualNodes vedge.source ∧
        (materializeGraphInPlace graph virtualNodes).graph.node
            edge.target =
          virtualNode graph virtualNodes vedge.target := by
  obtain ⟨-, -, vertices, edges⟩ :=
    materializeGraphInPlace_of_clean fit clean
  have nodeAt
      (vertex : Nat)
      (known :
        vertex = graph.numVertices ∨
          vertex = graph.numVertices + 1 ∨
          vertex < graph.numVertices) :
      (materializeGraphInPlace graph virtualNodes).graph.node vertex =
        virtualNode graph virtualNodes vertex := by
    simp only [TopologicalGraph.node, vertices, virtualNode,
      fit.startVertex, fit.goalVertex, TopologicalGraph.numVertices]
      at known ⊢
    rcases known with isStart | isGoal | inGraph
    · rw [isStart]
      simp
    · rw [isGoal]
      simp
    · rw [if_neg (by omega), if_neg (by omega), List.append_assoc]
      exact List.getD_append _ _ _ _ inGraph
  have ends := fit.ends vedge member
  refine ⟨⟨vedge.source, vedge.target, vedge.properties⟩, ?_, rfl,
    nodeAt vedge.source (by omega), nodeAt vedge.target (by omega)⟩
  rw [edges]
  exact List.mem_append_right _
    (List.mem_map.mpr ⟨vedge, member, rfl⟩)

end

/-- With a leftover the destructor returns a smaller graph. -/
theorem numVertices_destroy_lt
    (fit : VirtualNodesFit graph virtualNodes)
    {vertex : Nat}
    (inGraph : vertex < graph.numVertices)
    (stale : isStale (graph.node vertex) = true) :
    (destroyMaterialization
        (materializeGraphInPlace graph virtualNodes)).numVertices <
      graph.numVertices := by
  have fewer := numVertices_removeStaleNodes_lt inGraph stale
  unfold destroyMaterialization materializeGraphInPlace
  generalize removeStaleNodes graph.numVertices 0 graph = cleaned
    at fewer ⊢
  have extendedSize :
      ((cleaned.addVertex virtualNodes.startProps).addVertex
        virtualNodes.goalProps).numVertices =
          cleaned.numVertices + 2 := by
    simp [TopologicalGraph.numVertices, TopologicalGraph.addVertex]
  obtain ⟨atLeast, atMost⟩ :=
    numVertices_addVirtualEdges_le virtualNodes cleaned.numVertices
      (cleaned.numVertices + 1) virtualNodes.edges
      ((cleaned.addVertex virtualNodes.startProps).addVertex
        virtualNodes.goalProps)
      (show _ ≤ max (cleaned.numVertices + 2) graph.numVertices by
        rw [extendedSize]
        exact le_max_left _ _)
      (by
        intro vedge member
        have ends := fit.ends vedge member
        simp only [materializedVertex, fit.startVertex, fit.goalVertex]
        split_ifs <;> omega)
  rw [extendedSize] at atLeast
  simp only
  generalize virtualNodes.edges.foldl
      (addVirtualEdge virtualNodes cleaned.numVertices
        (cleaned.numVertices + 1))
      ((cleaned.addVertex virtualNodes.startProps).addVertex
        virtualNodes.goalProps) = alive at atLeast atMost ⊢
  have goalRemoved :
      (alive.removeVertex (cleaned.numVertices + 1)).numVertices + 1 =
        alive.numVertices :=
    numVertices_removeVertex (by omega)
  have startRemoved :
      ((alive.removeVertex (cleaned.numVertices + 1)).removeVertex
          cleaned.numVertices).numVertices + 1 =
        (alive.removeVertex (cleaned.numVertices + 1)).numVertices :=
    numVertices_removeVertex (by omega)
  omega

end

/--
Materialising start and goal is transparent exactly when no vertex of the map
is named `start` or `goal`.
-/
theorem scopedMaterialization_transparent_iff
    (topologicalMap : TopologicalMap K)
    (startRoom endRoom : Nat)
    (startCoords endCoords : Coords K)
    (penalizeZMovement : K)
    (startInGraph : startRoom < topologicalMap.graph.numVertices)
    (endInGraph : endRoom < topologicalMap.graph.numVertices) :
    Transparent topologicalMap.graph
        (createVirtualNodes topologicalMap startRoom endRoom
          startCoords endCoords penalizeZMovement) ↔
      ∀ node ∈ topologicalMap.graph.vertices,
        node.name ≠ "start" ∧ node.name ≠ "goal" := by
  have fit :=
    createVirtualNodes_fit topologicalMap startCoords endCoords
      penalizeZMovement startInGraph endInGraph
  have cleanIff :
      (∀ node ∈ topologicalMap.graph.vertices,
          node.name ≠ "start" ∧ node.name ≠ "goal") ↔
        ∀ vertex < topologicalMap.graph.numVertices,
          isStale (topologicalMap.graph.node vertex) = false := by
    simp only [List.forall_mem_iff_getElem, isStale,
      TopologicalGraph.node, Bool.or_eq_false_iff,
      beq_eq_false_iff_ne, TopologicalGraph.numVertices]
    refine forall_congr' fun vertex => forall_congr' fun inGraph => ?_
    rw [List.getD_eq_getElem _ _ inGraph]
  rw [cleanIff]
  constructor
  · intro transparent vertex inGraph
    by_contra isStaleNode
    rw [Bool.not_eq_false] at isStaleNode
    have smaller := numVertices_destroy_lt fit inGraph isStaleNode
    rw [transparent.restored] at smaller
    exact absurd smaller (lt_irrefl _)
  · intro clean
    exact ⟨destroy_of_clean fit clean,
      fun _ member => joined_of_clean fit clean member⟩

end Transparent

end Virtual

section Samples

/-- A room and a transition; the room bears the given name. -/
def namedRoomMap
    (name : String) : TopologicalMap ℚ :=
  TopologicalMap.ofGraph
    { vertices :=
        [{ NodeProperties.unset with
            id := 0, name := name, type := "room" },
          { NodeProperties.unset with
            id := 1, name := "door", type := "transition" }]
      edges :=
        [⟨0, 1, { EdgeProperties.unset with id := 0, type := "room" }⟩]
      endsValid := by simp }

/-- A room named `start` is taken for a leftover and removed for good. -/
theorem room_named_start_is_lost :
    ¬Transparent (namedRoomMap "start").graph
      (createVirtualNodes (namedRoomMap "start") 0 0
        (0, 0, 0) (1, 0, 0) 1) := by
  intro transparent
  have restored :=
    congrArg TopologicalGraph.numVertices transparent.restored
  exact absurd restored (by decide +kernel)

theorem namedRoomMap_transparent :
    Transparent (namedRoomMap "hall").graph
      (createVirtualNodes (namedRoomMap "hall") 0 0
        (0, 0, 0) (1, 0, 0) 1) :=
  (scopedMaterialization_transparent_iff (namedRoomMap "hall") 0 0
    (0, 0, 0) (1, 0, 0) 1 (by decide) (by decide)).mpr (by decide)

end Samples

end NavBim
