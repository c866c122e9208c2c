import NavBim.AugmentedGraphView

namespace NavBim

/-!
# Start and goal in a copy of the graph

`insertStartAndGoal` adds the start and the goal of a request to a copy of the
graph.  It looks up neighbours, distances and rooms in the copy while the copy
grows; `createVirtualNodes` finds the same ones in the graph beforehand, unless
an edge at a room has a room id of its own.
-/

section Insertion

variable
  {K : Type}
  [Field K]
  [SquareRoot K]

/-- `euclideanDistanceBetweenNodes`. -/
def euclideanDistanceBetweenNodes
    (graph : TopologicalGraph K)
    (v1 v2 : Nat) : K :=
  let p1 := (graph.node v1).position
  let p2 := (graph.node v2).position
  let dx := p1.x - p2.x
  let dy := p1.y - p2.y
  let dz := p1.z - p2.z
  SquareRoot.sqrt (dx * dx + dy * dy + dz * dz)

/-- The copy and the id of its next edge. -/
structure GraphInsertion (K : Type) where
  graph : TopologicalGraph K
  nextEdgeId : Int32

variable
  (penalizeZMovement : K)

def addEdgeToTransition
    (v1 v2 : Nat)
    (roomId : Int32)
    (insertion : GraphInsertion K) : GraphInsertion K where
  graph :=
    insertion.graph.addEdge v1 v2
      { (EdgeProperties.unset : EdgeProperties K) with
        id := insertion.nextEdgeId
        type := "transition"
        roomId := some roomId
        estimatedDistance :=
          ((euclideanDistanceBetweenNodes insertion.graph v1 v2 : K) : WithTop K)
        plannedDistance := unplanned
        estimatedCost :=
          ((costBetweenNodes insertion.graph v1 v2 penalizeZMovement : K) :
            WithTop K)
        plannedCost := unplanned
        path := none }
  nextEdgeId := insertion.nextEdgeId + 1

/-- Add edges to the transitions at a room.  The new edges do not end at the
room, so its neighbours stay the same meanwhile. -/
def addEdgesToTransitions
    (vertex room : Nat)
    (roomId : Int32)
    (insertion : GraphInsertion K) : GraphInsertion K :=
  (insertion.graph.outTargets room).foldl
    (fun insertion neighbor =>
      if (insertion.graph.node neighbor).type = "transition" then
        addEdgeToTransition penalizeZMovement vertex neighbor roomId insertion
      else
        insertion)
    insertion

def addRoomEdge
    (vertex room : Nat)
    (insertion : GraphInsertion K) : GraphInsertion K where
  graph :=
    insertion.graph.addEdge vertex room
      { (EdgeProperties.unset : EdgeProperties K) with
        id := insertion.nextEdgeId
        type := "room" }
  nextEdgeId := insertion.nextEdgeId + 1

/-- Add the edges of the start and the goal. -/
def insertEdges
    (startRoom endRoom startVertex goalVertex : Nat)
    (startRoomId endRoomId : Int32)
    (vertices : GraphInsertion K) : GraphInsertion K :=
  let direct :=
    if startRoom = endRoom then
      addEdgeToTransition penalizeZMovement startVertex goalVertex startRoomId
        vertices
    else
      vertices
  let fromStart :=
    addEdgesToTransitions penalizeZMovement startVertex startRoom startRoomId
      direct
  let fromGoal :=
    addEdgesToTransitions penalizeZMovement goalVertex endRoom endRoomId
      fromStart
  addRoomEdge goalVertex endRoom (addRoomEdge startVertex startRoom fromGoal)

variable
  (topologicalMap : TopologicalMap K)

def insertStartAndGoal
    (startRoom endRoom : Nat)
    (startCoords endCoords : Coords K)
    (penalizeZMovement : K) : TopologicalGraph K :=
  let graph := topologicalMap.graph
  let startVertex := graph.numVertices
  let withStart :=
    graph.addVertex
      (virtualProps (topologicalMap.maxNodeId + 1) "start" startCoords
        (graph.node startRoom).floor)
  let goalVertex := withStart.numVertices
  let withGoal :=
    withStart.addVertex
      (virtualProps (topologicalMap.maxNodeId + 2) "goal" endCoords
        (withStart.node endRoom).floor)
  (insertEdges penalizeZMovement startRoom endRoom startVertex goalVertex
    (graph.node startRoom).id (graph.node endRoom).id
    ⟨withGoal, topologicalMap.maxEdgeId + 1⟩).graph

/-- What was added to a graph so far: the start, the goal and some edges. -/
structure Grown
    (base : TopologicalGraph K)
    (startProps goalProps : NodeProperties K)
    (added : List (StoredEdge K))
    (nextEdgeId : Int32)
    (insertion : GraphInsertion K) : Prop where
  vertices :
    insertion.graph.vertices = base.vertices ++ [startProps] ++ [goalProps]
  edges : insertion.graph.edges = base.edges ++ added
  nextEdgeId : insertion.nextEdgeId = nextEdgeId

variable
  {base : TopologicalGraph K}
  {startProps goalProps : NodeProperties K}
  {added : List (StoredEdge K)}
  {nextEdgeId : Int32}
  {insertion : GraphInsertion K}

omit [SquareRoot K] in
theorem Grown.node
    (grown : Grown base startProps goalProps added nextEdgeId insertion)
    (vertex : Nat) :
    insertion.graph.node vertex =
      (base.vertices ++ [startProps] ++ [goalProps]).getD vertex default := by
  rw [TopologicalGraph.node, grown.vertices]

variable
  {vertex : Nat}

section

omit [SquareRoot K]

theorem Grown.node_of_lt
    (grown : Grown base startProps goalProps added nextEdgeId insertion)
    (inside : vertex < base.numVertices) :
    insertion.graph.node vertex = base.node vertex := by
  rw [grown.node, List.append_assoc]
  exact List.getD_append _ _ _ _ inside

theorem getD_start :
    (base.vertices ++ [startProps] ++ [goalProps]).getD base.numVertices
      default = startProps := by
  rw [TopologicalGraph.numVertices]
  simp

theorem getD_goal :
    (base.vertices ++ [startProps] ++ [goalProps]).getD (base.numVertices + 1)
      default = goalProps := by
  rw [TopologicalGraph.numVertices]
  simp

theorem Grown.addEdge
    (grown : Grown base startProps goalProps added nextEdgeId insertion)
    {u v : Nat}
    (uInside : u < base.numVertices + 2)
    (vInside : v < base.numVertices + 2)
    (properties : EdgeProperties K) :
    Grown base startProps goalProps (added ++ [⟨u, v, properties⟩])
      (nextEdgeId + 1)
      ⟨insertion.graph.addEdge u v properties, insertion.nextEdgeId + 1⟩ where
  vertices := by
    have noGap : max u v + 1 - insertion.graph.vertices.length = 0 := by
      rw [grown.vertices]
      simp only [TopologicalGraph.numVertices] at uInside vInside
      simp only [List.length_append, List.length_singleton]
      omega
    rw [TopologicalGraph.addEdge]
    simp only [noGap, List.replicate_zero, List.append_nil]
    exact grown.vertices
  edges := by
    show insertion.graph.edges ++ _ = _
    rw [grown.edges, List.append_assoc]
  nextEdgeId := by
    rw [grown.nextEdgeId]

end

theorem Grown.addEdgeToTransition
    (grown : Grown base startProps goalProps added nextEdgeId insertion)
    (penalizeZMovement : K)
    {u v : Nat}
    (uInside : u < base.numVertices + 2)
    (vInside : v < base.numVertices + 2)
    (roomId : Int32) :
    Grown base startProps goalProps
      (added ++ [⟨u, v, makeEdgeProps penalizeZMovement nextEdgeId roomId
        (insertion.graph.node u) (insertion.graph.node v)⟩])
      (nextEdgeId + 1)
      (NavBim.addEdgeToTransition penalizeZMovement u v roomId insertion) := by
  have appended := grown.addEdge uInside vInside
    (makeEdgeProps penalizeZMovement nextEdgeId roomId
      (insertion.graph.node u) (insertion.graph.node v))
  rw [NavBim.addEdgeToTransition, ← grown.nextEdgeId]
  rw [← grown.nextEdgeId] at appended
  exact appended

/-- The edges to some neighbours that are transitions. -/
def edgesToTransitions
    (base : TopologicalGraph K)
    (penalizeZMovement : K)
    (vertex : Nat)
    (roomId firstId : Int32)
    (props : NodeProperties K)
    (start : Nat)
    (neighbors : List Nat) : List (StoredEdge K) :=
  ((neighbors.filter fun neighbor =>
      (base.node neighbor).type == "transition").zipIdx start).map fun indexed =>
    ⟨vertex, indexed.1,
      makeEdgeProps penalizeZMovement (firstId + Int32.ofNat indexed.2) roomId
        props (base.node indexed.1)⟩

variable
  {props : NodeProperties K}

/-- A loop over neighbours appends an edge to each transition. -/
theorem Grown.foldl_addTransitionEdge
    (vertexInside : vertex < base.numVertices + 2)
    (isProps :
      (base.vertices ++ [startProps] ++ [goalProps]).getD vertex default = props)
    (roomId firstId : Int32)
    (neighbors : List Nat)
    (inside : ∀ neighbor ∈ neighbors, neighbor < base.numVertices)
    (start : Nat)
    (grown : Grown base startProps goalProps added
      (firstId + Int32.ofNat start) insertion) :
    Grown base startProps goalProps
      (added ++ edgesToTransitions base penalizeZMovement vertex roomId firstId
        props start neighbors)
      (firstId + Int32.ofNat (start +
        (edgesToTransitions base penalizeZMovement vertex roomId firstId props
          start neighbors).length))
      (neighbors.foldl
        (fun insertion neighbor =>
          if (insertion.graph.node neighbor).type = "transition" then
            NavBim.addEdgeToTransition penalizeZMovement vertex neighbor roomId
              insertion
          else
            insertion)
        insertion) := by
  induction neighbors generalizing start added insertion with
  | nil =>
      rw [edgesToTransitions]
      simp only [List.filter_nil, List.zipIdx_nil, List.map_nil,
        List.append_nil, List.length_nil, Nat.add_zero]
      exact grown
  | cons neighbor rest inductionHypothesis =>
      have neighborInside := inside neighbor List.mem_cons_self
      have restInside : ∀ other ∈ rest, other < base.numVertices :=
        fun other isMember => inside other (List.mem_cons_of_mem _ isMember)
      have sameNode := grown.node_of_lt neighborInside
      rw [List.foldl_cons, sameNode]
      by_cases isTransition : (base.node neighbor).type = "transition"
      · rw [if_pos isTransition]
        have next := grown.addEdgeToTransition penalizeZMovement vertexInside
          (Nat.lt_add_right 2 neighborInside) roomId
        have nextId : firstId + Int32.ofNat start + 1 =
            firstId + Int32.ofNat (start + 1) := by
          rw [Int32.ofNat_add, Int32.add_assoc]
          rfl
        rw [grown.node vertex, isProps, sameNode, nextId] at next
        have after := inductionHypothesis restInside (start + 1) next
        have split : edgesToTransitions base penalizeZMovement vertex roomId
            firstId props start (neighbor :: rest) =
              ⟨vertex, neighbor, makeEdgeProps penalizeZMovement
                (firstId + Int32.ofNat start) roomId props
                (base.node neighbor)⟩ ::
                edgesToTransitions base penalizeZMovement vertex roomId firstId
                  props (start + 1) rest := by
          rw [edgesToTransitions, List.filter_cons_of_pos]
          · rfl
          · simpa using isTransition
        rw [split, List.append_cons, List.length_cons]
        rw [Nat.add_assoc, Nat.add_comm 1] at after
        exact after
      · rw [if_neg isTransition]
        have same : edgesToTransitions base penalizeZMovement vertex roomId
            firstId props start (neighbor :: rest) =
              edgesToTransitions base penalizeZMovement vertex roomId firstId
                props start rest := by
          rw [edgesToTransitions, List.filter_cons_of_neg]
          · rfl
          · simpa using isTransition
        rw [same]
        exact inductionHypothesis restInside start grown

variable
  {room : Nat}

omit [Field K] [SquareRoot K] in
/-- Neighbours are the same as long as no new edge ends at the vertex. -/
theorem Grown.outTargets
    (grown : Grown base startProps goalProps added nextEdgeId insertion)
    (apart : ∀ edge ∈ added, edge.source ≠ room ∧ edge.target ≠ room) :
    insertion.graph.outTargets room = base.outTargets room := by
  rw [TopologicalGraph.outTargets, grown.edges, List.flatMap_append]
  refine (congrArg _ ?_).trans (List.append_nil _)
  rw [List.flatMap_eq_nil_iff]
  intro edge isAdded
  obtain ⟨source, target⟩ := apart edge isAdded
  rw [if_neg source, if_neg target]
  rfl

/-- Adding the edges of a room whose neighbours are still those of the graph. -/
theorem Grown.addEdgesToTransitions
    (grown : Grown base startProps goalProps added nextEdgeId insertion)
    (penalizeZMovement : K)
    (room : Nat)
    (vertexInside : vertex < base.numVertices + 2)
    (isProps :
      (base.vertices ++ [startProps] ++ [goalProps]).getD vertex default = props)
    (roomId : Int32)
    (apart : ∀ edge ∈ added, edge.source ≠ room ∧ edge.target ≠ room) :
    Grown base startProps goalProps
      (added ++ edgesToTransitions base penalizeZMovement vertex roomId
        nextEdgeId props 0 (base.outTargets room))
      (nextEdgeId + Int32.ofNat
        (edgesToTransitions base penalizeZMovement vertex roomId nextEdgeId
          props 0 (base.outTargets room)).length)
      (NavBim.addEdgesToTransitions penalizeZMovement vertex room roomId
        insertion) := by
  have inside : ∀ neighbor ∈ base.outTargets room, neighbor < base.numVertices :=
    fun _ isNeighbor => (TopologicalGraph.lt_of_mem_outTargets isNeighbor).2
  have atStart : nextEdgeId + Int32.ofNat 0 = nextEdgeId := Int32.add_zero _
  rw [← atStart] at grown
  have looped := grown.foldl_addTransitionEdge penalizeZMovement
    vertexInside isProps roomId
    nextEdgeId (base.outTargets room) inside 0
  rw [Nat.zero_add] at looped
  rw [NavBim.addEdgesToTransitions, grown.outTargets apart]
  exact looped

omit [SquareRoot K] in
theorem Grown.addRoomEdge
    (grown : Grown base startProps goalProps added nextEdgeId insertion)
    {vertex room : Nat}
    (vertexInside : vertex < base.numVertices + 2)
    (roomInside : room < base.numVertices) :
    Grown base startProps goalProps
      (added ++ [⟨vertex, room, (virtualRoomEdge vertex room
        nextEdgeId).properties⟩])
      (nextEdgeId + 1)
      (NavBim.addRoomEdge vertex room insertion) := by
  have appended := grown.addEdge vertexInside (Nat.lt_add_right 2 roomInside)
    (virtualRoomEdge vertex room nextEdgeId).properties
  rw [NavBim.addRoomEdge, ← grown.nextEdgeId]
  rw [← grown.nextEdgeId] at appended
  exact appended

/-- The edges at a room carry no room id. -/
def UnlabelledAt
    (graph : TopologicalGraph K)
    (room : Nat) : Prop :=
  ∀ edge ∈ graph.edges, edge.source = room ∨ edge.target = room →
    edge.properties.roomId = none

omit [SquareRoot K] in
theorem UnlabelledAt.virtualRoomId_eq
    (unlabelled : UnlabelledAt base room)
    (neighbor : Nat) :
    virtualRoomId base room neighbor = (base.node room).id := by
  rw [virtualRoomId]
  cases found : base.edge? room neighbor with
  | none =>
      rfl
  | some edge =>
      obtain ⟨isEdge, joins⟩ := TopologicalGraph.edge?_eq_some found
      have atRoom : edge.source = room ∨ edge.target = room :=
        (StoredEdge.joins_iff.mp joins).imp And.left And.right
      simp only [unlabelled edge isEdge atRoom, Option.getD_none]

/-- The stored edge for a virtual edge between vertices of the graph. -/
def VirtualEdge.stored
    (vedge : VirtualEdge K) : StoredEdge K :=
  ⟨vedge.source, vedge.target, vedge.properties⟩

theorem map_stored_transitionEdges
    (unlabelled : UnlabelledAt base room)
    (penalizeZMovement : K)
    (source : Nat)
    (props : NodeProperties K)
    (firstId : Int32) :
    (transitionEdges base penalizeZMovement source room props firstId).map
        VirtualEdge.stored =
      edgesToTransitions base penalizeZMovement source (base.node room).id
        firstId props 0 (base.outTargets room) := by
  rw [transitionEdges, edgesToTransitions, List.map_map]
  refine List.map_congr_left fun indexed _ => ?_
  rw [Function.comp_apply, VirtualEdge.stored,
    unlabelled.virtualRoomId_eq]

/-- The edge from the start to the goal in the same room. -/
def directEdge
    (base : TopologicalGraph K)
    (penalizeZMovement : K)
    (startRoom endRoom : Nat)
    (nextEdgeId : Int32)
    (startProps goalProps : NodeProperties K) : List (StoredEdge K) :=
  if startRoom = endRoom then
    [⟨base.numVertices, base.numVertices + 1,
      makeEdgeProps penalizeZMovement nextEdgeId (base.node startRoom).id
        startProps goalProps⟩]
  else
    []

theorem Grown.addDirectEdge
    (grown : Grown base startProps goalProps [] nextEdgeId insertion)
    (penalizeZMovement : K)
    (startRoom endRoom : Nat) :
    Grown base startProps goalProps
      (directEdge base penalizeZMovement startRoom endRoom nextEdgeId startProps
        goalProps)
      (nextEdgeId + Int32.ofNat
        (directEdge base penalizeZMovement startRoom endRoom nextEdgeId
          startProps goalProps).length)
      (if startRoom = endRoom then
        NavBim.addEdgeToTransition penalizeZMovement base.numVertices
          (base.numVertices + 1) (base.node startRoom).id insertion
      else
        insertion) := by
  rw [directEdge]
  by_cases sameRoom : startRoom = endRoom
  · rw [if_pos sameRoom, if_pos sameRoom]
    have next := grown.addEdgeToTransition penalizeZMovement
      (Nat.lt_add_of_pos_right Nat.two_pos) (Nat.lt_succ_self _)
      (base.node startRoom).id
    rw [grown.node, grown.node, getD_start, getD_goal, List.nil_append] at next
    exact next
  · rw [if_neg sameRoom, if_neg sameRoom]
    have atStart : nextEdgeId + Int32.ofNat 0 = nextEdgeId := Int32.add_zero _
    rw [List.length_nil, atStart]
    exact grown

theorem edgesToTransitions_apart
    {penalizeZMovement : K}
    {vertex room other : Nat}
    {roomId firstId : Int32}
    {start : Nat}
    (isRoom : (base.node room).type ≠ "transition")
    (notVertex : vertex ≠ room) :
    ∀ edge ∈ edgesToTransitions base penalizeZMovement vertex roomId firstId
        props start (base.outTargets other),
      edge.source ≠ room ∧ edge.target ≠ room := by
  intro edge isEdge
  obtain ⟨indexed, isIndexed, rfl⟩ := List.mem_map.mp isEdge
  have kept := List.of_mem_filter (List.fst_mem_of_mem_zipIdx isIndexed)
  refine ⟨notVertex, fun isTarget => ?_⟩
  obtain rfl : indexed.1 = room := isTarget
  exact isRoom (beq_iff_eq.mp kept)

/-- All edges of the start and the goal. -/
def insertedEdges
    (base : TopologicalGraph K)
    (penalizeZMovement : K)
    (startRoom endRoom : Nat)
    (nextEdgeId : Int32)
    (startProps goalProps : NodeProperties K) : List (StoredEdge K) :=
  let direct := directEdge base penalizeZMovement startRoom endRoom nextEdgeId
    startProps goalProps
  let afterDirect := nextEdgeId + Int32.ofNat direct.length
  let fromStart := edgesToTransitions base penalizeZMovement base.numVertices
    (base.node startRoom).id afterDirect startProps 0 (base.outTargets startRoom)
  let afterStart := afterDirect + Int32.ofNat fromStart.length
  let fromGoal := edgesToTransitions base penalizeZMovement
    (base.numVertices + 1) (base.node endRoom).id afterStart goalProps 0
    (base.outTargets endRoom)
  let afterGoal := afterStart + Int32.ofNat fromGoal.length
  direct ++ fromStart ++ fromGoal ++
    [(virtualRoomEdge base.numVertices startRoom afterGoal).stored] ++
    [(virtualRoomEdge (base.numVertices + 1) endRoom (afterGoal + 1)).stored]

/-- The loops find the neighbours that the graph had before. -/
theorem Grown.insertEdges
    (grown : Grown base startProps goalProps [] nextEdgeId insertion)
    (penalizeZMovement : K)
    {startRoom endRoom : Nat}
    (startInGraph : startRoom < base.numVertices)
    (endInGraph : endRoom < base.numVertices)
    (endIsRoom : (base.node endRoom).type ≠ "transition") :
    ∃ afterEdges,
      Grown base startProps goalProps
        (insertedEdges base penalizeZMovement startRoom endRoom nextEdgeId
          startProps goalProps)
        afterEdges
        (NavBim.insertEdges penalizeZMovement startRoom endRoom base.numVertices
          (base.numVertices + 1) (base.node startRoom).id (base.node endRoom).id
          insertion) := by
  have withDirect := grown.addDirectEdge penalizeZMovement startRoom endRoom
  have directEnds : ∀ edge ∈ directEdge base penalizeZMovement startRoom endRoom
      nextEdgeId startProps goalProps,
        edge.source = base.numVertices ∧ edge.target = base.numVertices + 1 := by
    intro edge isEdge
    obtain ⟨-, isDirect⟩ := List.mem_ite_nil_right.mp isEdge
    obtain rfl := List.mem_singleton.mp isDirect
    exact ⟨rfl, rfl⟩
  have withStart := withDirect.addEdgesToTransitions penalizeZMovement startRoom
    (Nat.lt_add_of_pos_right Nat.two_pos) getD_start (base.node startRoom).id
    (fun edge isEdge => by
      obtain ⟨source, target⟩ := directEnds edge isEdge
      omega)
  have withGoal := withStart.addEdgesToTransitions penalizeZMovement endRoom
    (Nat.lt_succ_self _) getD_goal (base.node endRoom).id
    (fun edge isEdge => by
      cases List.mem_append.mp isEdge with
      | inl isDirect =>
          obtain ⟨source, target⟩ := directEnds edge isDirect
          omega
      | inr isFromStart =>
          exact edgesToTransitions_apart endIsRoom (Nat.ne_of_gt endInGraph) edge
            isFromStart)
  have withStartRoom := withGoal.addRoomEdge
    (Nat.lt_add_of_pos_right Nat.two_pos) startInGraph
  exact ⟨_, withStartRoom.addRoomEdge (Nat.lt_succ_self _) endInGraph⟩

omit [Field K] [SquareRoot K] in
theorem grown_addVertex
    (base : TopologicalGraph K)
    (startProps goalProps : NodeProperties K)
    (nextEdgeId : Int32) :
    Grown base startProps goalProps [] nextEdgeId
      ⟨(base.addVertex startProps).addVertex goalProps, nextEdgeId⟩ :=
  ⟨rfl, (List.append_nil _).symm, rfl⟩

theorem insertStartAndGoal_eq
    (startRoom : Nat)
    {endRoom : Nat}
    (startCoords endCoords : Coords K)
    (penalizeZMovement : K)
    (endInGraph : endRoom < topologicalMap.graph.numVertices) :
    insertStartAndGoal topologicalMap startRoom endRoom startCoords endCoords
        penalizeZMovement =
      (insertEdges penalizeZMovement startRoom endRoom
        topologicalMap.graph.numVertices (topologicalMap.graph.numVertices + 1)
        (topologicalMap.graph.node startRoom).id
        (topologicalMap.graph.node endRoom).id
        ⟨(topologicalMap.graph.addVertex
            (virtualProps (topologicalMap.maxNodeId + 1) "start" startCoords
              (topologicalMap.graph.node startRoom).floor)).addVertex
          (virtualProps (topologicalMap.maxNodeId + 2) "goal" endCoords
            (topologicalMap.graph.node endRoom).floor),
          topologicalMap.maxEdgeId + 1⟩).graph := by
  have goalVertex (props : NodeProperties K) :
      (topologicalMap.graph.addVertex props).numVertices =
        topologicalMap.graph.numVertices + 1 :=
    List.length_append
  have goalFloor (props : NodeProperties K) :
      (topologicalMap.graph.addVertex props).node endRoom =
        topologicalMap.graph.node endRoom :=
    List.getD_append _ _ _ _ endInGraph
  rw [insertStartAndGoal]
  simp only [goalVertex, goalFloor]

theorem map_stored_createVirtualNodes
    {startRoom endRoom : Nat}
    (startCoords endCoords : Coords K)
    (penalizeZMovement : K)
    (startUnlabelled : UnlabelledAt topologicalMap.graph startRoom)
    (endUnlabelled : UnlabelledAt topologicalMap.graph endRoom) :
    let virtualNodes := createVirtualNodes topologicalMap startRoom endRoom
      startCoords endCoords penalizeZMovement
    virtualNodes.edges.map VirtualEdge.stored =
      insertedEdges topologicalMap.graph penalizeZMovement startRoom endRoom
        (topologicalMap.maxEdgeId + 1) virtualNodes.startProps
        virtualNodes.goalProps := by
  intro virtualNodes
  have startEdges := map_stored_transitionEdges startUnlabelled
    penalizeZMovement topologicalMap.graph.numVertices
  have goalEdges := map_stored_transitionEdges endUnlabelled
    penalizeZMovement (topologicalMap.graph.numVertices + 1)
  rw [insertedEdges]
  simp only [← startEdges, ← goalEdges, List.length_map]
  simp only [virtualNodes, createVirtualNodes, directEdge]
  by_cases sameRoom : startRoom = endRoom
  · simp only [if_pos sameRoom, List.map_append, List.append_assoc]
    rfl
  · simp only [if_neg sameRoom, List.map_append, List.append_assoc]
    rfl

/-- The start and the goal in the graph itself are those in a copy. -/
theorem materializeGraphInPlace_eq_insertStartAndGoal
    (topologicalMap : TopologicalMap K)
    (startRoom endRoom : Nat)
    (startCoords endCoords : Coords K)
    (penalizeZMovement : K)
    (startUnlabelled : UnlabelledAt topologicalMap.graph startRoom)
    (endUnlabelled : UnlabelledAt topologicalMap.graph endRoom)
    (unnamed : ∀ node ∈ topologicalMap.graph.vertices,
      node.name ≠ "start" ∧ node.name ≠ "goal")
    (startInGraph : startRoom < topologicalMap.graph.numVertices)
    (endInGraph : endRoom < topologicalMap.graph.numVertices)
    (endIsRoom : (topologicalMap.graph.node endRoom).type ≠ "transition") :
    (materializeGraphInPlace topologicalMap.graph
        (createVirtualNodes topologicalMap startRoom endRoom startCoords
          endCoords penalizeZMovement)).graph =
      insertStartAndGoal topologicalMap startRoom endRoom startCoords endCoords
        penalizeZMovement := by
  have fit :=
    createVirtualNodes_fit topologicalMap startCoords endCoords
      penalizeZMovement startInGraph endInGraph
  have clean : ∀ vertex < topologicalMap.graph.numVertices,
      isStale (topologicalMap.graph.node vertex) = false := by
    intro vertex inGraph
    have names := unnamed (topologicalMap.graph.node vertex) (by
      rw [TopologicalGraph.node, List.getD_eq_getElem _ _ inGraph]
      exact List.getElem_mem inGraph)
    rw [isStale, Bool.or_eq_false_iff, beq_eq_false_iff_ne, beq_eq_false_iff_ne]
    exact names
  obtain ⟨-, -, vertices, edges⟩ := materializeGraphInPlace_of_clean fit clean
  have sameEdges := map_stored_createVirtualNodes topologicalMap startCoords
    endCoords penalizeZMovement startUnlabelled endUnlabelled
  have withVertices := grown_addVertex topologicalMap.graph
    (virtualProps (topologicalMap.maxNodeId + 1) "start" startCoords
      (topologicalMap.graph.node startRoom).floor)
    (virtualProps (topologicalMap.maxNodeId + 2) "goal" endCoords
      (topologicalMap.graph.node endRoom).floor)
    (topologicalMap.maxEdgeId + 1)
  obtain ⟨_, grown⟩ := withVertices.insertEdges penalizeZMovement startInGraph
    endInGraph endIsRoom
  rw [insertStartAndGoal_eq topologicalMap startRoom startCoords endCoords
    penalizeZMovement endInGraph]
  exact TopologicalGraph.ext (vertices.trans grown.vertices.symm)
    (edges.trans ((congrArg _ sameEdges).trans grown.edges.symm))

end Insertion

section Samples

/-- Two rooms with a door between them. -/
def twoRoomMap : TopologicalMap ℚ :=
  TopologicalMap.ofGraph
    { vertices :=
        [{ NodeProperties.unset with id := 0, name := "hall", type := "room" },
          { NodeProperties.unset with id := 1, name := "shop", type := "room" },
          { NodeProperties.unset with
            id := 2, name := "door", type := "transition" }]
      edges :=
        [⟨2, 0, { EdgeProperties.unset with id := 0, type := "room" }⟩,
          ⟨2, 1, { EdgeProperties.unset with id := 1, type := "room" }⟩]
      endsValid := by simp }

theorem twoRoomMap_inserted :
    (materializeGraphInPlace twoRoomMap.graph
        (createVirtualNodes twoRoomMap 0 1 (0, 0, 0) (4, 0, 0) 1)).graph =
      insertStartAndGoal twoRoomMap 0 1 (0, 0, 0) (4, 0, 0) 1 :=
  materializeGraphInPlace_eq_insertStartAndGoal twoRoomMap 0 1 (0, 0, 0)
    (4, 0, 0) 1 (by unfold UnlabelledAt; decide) (by unfold UnlabelledAt; decide)
    (by decide) (by decide) (by decide) (by decide)

end Samples

end NavBim
