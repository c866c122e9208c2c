import NavBim.GraphPruning

namespace NavBim

/-!
# Maps of rooms, stairs and ramps

Apart from its floors a map consists of places (rooms, stairs and ramps) and
transitions between them.  Such a map is a graph of rooms and doors, and it
stays one when start and goal are added for a request.
-/

open GraphReach

variable
  {vertex : Nat}

section RoomMap

variable {K : Type} [Field K]

/-- The vertex is a transition. -/
def IsTransition
    (graph : TopologicalGraph K)
    (vertex : Nat) : Prop :=
  (graph.node vertex).type = "transition"

/-- The vertex is a room, a stair or a ramp. -/
def IsPlace
    (graph : TopologicalGraph K)
    (vertex : Nat) : Prop :=
  isPlace (graph.node vertex) = true

/-- The vertex is a floor. -/
def IsFloor
    (graph : TopologicalGraph K)
    (vertex : Nat) : Prop :=
  (graph.node vertex).type = "floor"

instance (graph : TopologicalGraph K) (vertex : Nat) :
    Decidable (IsTransition graph vertex) :=
  inferInstanceAs (Decidable (_ = _))

instance (graph : TopologicalGraph K) (vertex : Nat) :
    Decidable (IsPlace graph vertex) :=
  inferInstanceAs (Decidable (_ = _))

instance (graph : TopologicalGraph K) (vertex : Nat) :
    Decidable (IsFloor graph vertex) :=
  inferInstanceAs (Decidable (_ = _))

/-- A room edge between a transition and a place. -/
def JoinsPlace
    (graph : TopologicalGraph K)
    (edge : StoredEdge K) : Prop :=
  edge.properties.type = "room" ∧
    ((IsTransition graph edge.source ∧ IsPlace graph edge.target) ∨
      (IsPlace graph edge.source ∧ IsTransition graph edge.target))

/-- A transition edge between two transitions of one place. -/
def JoinsTransitions
    (graph : TopologicalGraph K)
    (edge : StoredEdge K) : Prop :=
  edge.properties.type = "transition" ∧
    IsTransition graph edge.source ∧
    IsTransition graph edge.target ∧
    ∃ place < graph.numVertices,
      IsPlace graph place ∧
        place ∈ graph.outTargets edge.source ∧
        place ∈ graph.outTargets edge.target

/-- Two transitions of one place are joined by an edge. -/
def JoinedAtPlace
    (graph : TopologicalGraph K)
    (first second place : Nat) : Prop :=
  IsTransition graph first →
    IsTransition graph second →
    first ≠ second →
    IsPlace graph place →
    place ∈ graph.outTargets first →
    place ∈ graph.outTargets second →
    second ∈ graph.outTargets first

/--
The form of the maps: apart from floors there are only room edges between
transitions and places and transition edges inside a place, and all
transitions of a place are joined by transition edges.
-/
structure IsRoomMap
    (graph : TopologicalGraph K) : Prop where
  edgeKinds :
    ∀ edge ∈ graph.edges,
      ¬IsFloor graph edge.source →
      ¬IsFloor graph edge.target →
      JoinsPlace graph edge ∨ JoinsTransitions graph edge
  clique :
    ∀ first < graph.numVertices,
      ∀ second < graph.numVertices,
        ∀ place < graph.numVertices,
          JoinedAtPlace graph first second place

instance (graph : TopologicalGraph K) (first second place : Nat) :
    Decidable (JoinedAtPlace graph first second place) :=
  inferInstanceAs (Decidable (_ → _))

instance (graph : TopologicalGraph K) (edge : StoredEdge K) :
    Decidable (JoinsPlace graph edge) :=
  inferInstanceAs (Decidable (_ ∧ _))

instance (graph : TopologicalGraph K) (edge : StoredEdge K) :
    Decidable (JoinsTransitions graph edge) :=
  inferInstanceAs (Decidable (_ ∧ _))

variable {graph : TopologicalGraph K}

theorem IsTransition.not_place
    (transition : IsTransition graph vertex) :
    ¬IsPlace graph vertex := by
  simp only [IsTransition] at transition
  simp [IsPlace, isPlace, transition]

theorem IsTransition.not_floor
    (transition : IsTransition graph vertex) :
    ¬IsFloor graph vertex := by
  simp only [IsTransition] at transition
  simp [IsFloor, transition]

theorem IsPlace.not_floor
    (place : IsPlace graph vertex) :
    ¬IsFloor graph vertex := by
  intro isFloor
  simp only [IsFloor] at isFloor
  simp [IsPlace, isPlace, isFloor] at place

theorem IsTransition.lt
    (transition : IsTransition graph vertex) :
    vertex < graph.numVertices := by
  by_contra outside
  simp only [TopologicalGraph.numVertices, not_lt] at outside
  simp only [IsTransition, TopologicalGraph.node,
    List.getD_eq_default _ _ outside] at transition
  simp [default, NodeProperties.unset] at transition

theorem IsPlace.lt
    (place : IsPlace graph vertex) :
    vertex < graph.numVertices := by
  by_contra outside
  simp only [TopologicalGraph.numVertices, not_lt] at outside
  simp only [IsPlace, TopologicalGraph.node,
    List.getD_eq_default _ _ outside] at place
  simp [default, NodeProperties.unset, isPlace] at place

/-- The map without its floors is a graph of rooms and doors. -/
def IsRoomMap.rooms
    (roomMap : IsRoomMap graph) : RoomGraph Nat where
  Adjacent u v :=
    graph.Adjacent u v ∧ ¬IsFloor graph u ∧ ¬IsFloor graph v
  Room := {vertex | IsPlace graph vertex}
  Door := {vertex | IsTransition graph vertex}
  symmetric := by
    rintro near far ⟨adjacent, nearNotFloor, farNotFloor⟩
    exact ⟨adjacent.symm, farNotFloor, nearNotFloor⟩
  disjoint := IsTransition.not_place
  ends := by
    rintro near far ⟨adjacent, nearNotFloor, farNotFloor⟩
    obtain ⟨edge, member, joins⟩ :=
      TopologicalGraph.mem_outTargets.mp adjacent
    have ends := StoredEdge.joins_iff.mp joins
    have kinds := roomMap.edgeKinds edge member
    rcases ends with ⟨isNear, isFar⟩ | ⟨isFar, isNear⟩
    · rw [isNear, isFar] at kinds
      rcases kinds nearNotFloor farNotFloor with
        ⟨-, kind⟩ | ⟨-, nearDoor, farDoor, place, -, isPlace, toNear, toFar⟩
      · rw [isNear, isFar] at kind
        tauto
      · rw [isNear] at nearDoor toNear
        rw [isFar] at farDoor toFar
        exact Or.inr (Or.inr ⟨nearDoor, farDoor, place, isPlace,
          ⟨toNear, nearNotFloor, IsPlace.not_floor isPlace⟩,
          ⟨toFar, farNotFloor, IsPlace.not_floor isPlace⟩⟩)
    · rw [isNear, isFar] at kinds
      rcases kinds farNotFloor nearNotFloor with
        ⟨-, kind⟩ | ⟨-, farDoor, nearDoor, place, -, isPlace, toFar, toNear⟩
      · rw [isNear, isFar] at kind
        tauto
      · rw [isNear] at nearDoor toNear
        rw [isFar] at farDoor toFar
        exact Or.inr (Or.inr ⟨nearDoor, farDoor, place, isPlace,
          ⟨toNear, nearNotFloor, IsPlace.not_floor isPlace⟩,
          ⟨toFar, farNotFloor, IsPlace.not_floor isPlace⟩⟩)
  clique := by
    rintro near far room nearDoor farDoor different isRoom
      ⟨nearAdjacent, -, -⟩ ⟨farAdjacent, -, -⟩
    have nearBounds := TopologicalGraph.lt_of_mem_outTargets nearAdjacent
    have farBounds := TopologicalGraph.lt_of_mem_outTargets farAdjacent
    exact ⟨roomMap.clique near nearBounds.1 far farBounds.1 room
        nearBounds.2 nearDoor farDoor different isRoom nearAdjacent
        farAdjacent,
      IsTransition.not_floor nearDoor, IsTransition.not_floor farDoor⟩

/-- The floors are among the disabled vertices. -/
def FloorsDisabled
    (graph : TopologicalGraph K)
    (disabled : Finset Nat) : Prop :=
  ∀ vertex < graph.numVertices, IsFloor graph vertex → vertex ∈ disabled

/-- Without floors the two notions of connectivity agree. -/
theorem IsRoomMap.linked_iff
    (roomMap : IsRoomMap graph)
    {enabled : Set Nat}
    (noFloors : ∀ vertex ∈ enabled, ¬IsFloor graph vertex) :
    Linked roomMap.rooms.Adjacent enabled =
      Linked graph.Adjacent enabled := by
  unfold Linked
  congr 1
  funext near far
  apply propext
  constructor
  · rintro ⟨adjacent, nearEnabled, farEnabled⟩
    exact ⟨adjacent.1, nearEnabled, farEnabled⟩
  · rintro ⟨adjacent, nearEnabled, farEnabled⟩
    exact ⟨⟨adjacent, noFloors near nearEnabled, noFloors far farEnabled⟩,
      nearEnabled, farEnabled⟩

variable
  {disabled : Finset Nat}

theorem FloorsDisabled.not_floor
    (floors : FloorsDisabled graph disabled)
    (enabled : vertex ∈ enabledSet graph disabled) :
    ¬IsFloor graph vertex :=
  fun isFloor => enabled.2 (floors vertex enabled.1 isFloor)

/-- Room edges of a transition are the edges to places. -/
theorem IsRoomMap.isRoomEdge_iff
    (roomMap : IsRoomMap graph)
    {u v : Nat}
    (transition : IsTransition graph u)
    (notFloor : ¬IsFloor graph v)
    (adjacent : v ∈ graph.outTargets u) :
    isRoomEdge graph u v = true ↔ IsPlace graph v := by
  obtain ⟨edge, found⟩ :=
    Option.isSome_iff_exists.mp
      (TopologicalGraph.edge?_isSome_iff.mpr adjacent)
  obtain ⟨member, joins⟩ := TopologicalGraph.edge?_eq_some found
  have kinds := roomMap.edgeKinds edge member
  have uNotFloor := transition.not_floor
  have uNotPlace := transition.not_place
  simp only [isRoomEdge, found, beq_iff_eq]
  rcases StoredEdge.joins_iff.mp joins with
    ⟨isU, isV⟩ | ⟨isV, isU⟩
  · rw [isU, isV] at kinds
    rcases kinds uNotFloor notFloor with
      ⟨isRoom, kind⟩ | ⟨notRoom, -, vTransition, -⟩
    · rw [isU, isV] at kind
      simp only [isRoom, true_iff]
      tauto
    · rw [isV] at vTransition
      simp [notRoom, vTransition.not_place]
  · rw [isU, isV] at kinds
    rcases kinds notFloor uNotFloor with
      ⟨isRoom, kind⟩ | ⟨notRoom, vTransition, -⟩
    · rw [isU, isV] at kind
      simp only [isRoom, true_iff]
      tauto
    · rw [isV] at vTransition
      simp [notRoom, vTransition.not_place]

/-- Number of edges of a vertex to places in a set, with multiplicity. -/
def numPlaces
    (graph : TopologicalGraph K)
    (disabled : Finset Nat)
    (vertex : Nat) : Nat :=
  (graph.outTargets vertex).countP fun next =>
    decide (next ∉ disabled) && isPlace (graph.node next)

theorem IsRoomMap.numRoomEdges_eq
    (roomMap : IsRoomMap graph)
    (floors : FloorsDisabled graph disabled)
    (transition : IsTransition graph vertex) :
    numRoomEdges graph disabled vertex =
      numPlaces graph disabled vertex := by
  unfold numRoomEdges numPlaces
  apply List.countP_congr
  intro next adjacent
  have bounds := TopologicalGraph.lt_of_mem_outTargets adjacent
  by_cases hidden : next ∈ disabled
  · simp [hidden]
  · have notFloor : ¬IsFloor graph next :=
      floors.not_floor ⟨bounds.2, hidden⟩
    simp only [hidden, not_false_eq_true, decide_true, Bool.true_and]
    exact roomMap.isRoomEdge_iff transition notFloor adjacent

/-- With fewer than two edges to places there are no two places. -/
theorem places_eq_of_numPlaces_lt
    {vertex first second : Nat}
    (few : numPlaces graph disabled vertex < 2)
    (firstAdjacent : first ∈ graph.outTargets vertex)
    (secondAdjacent : second ∈ graph.outTargets vertex)
    (firstEnabled : first ∉ disabled)
    (secondEnabled : second ∉ disabled)
    (firstPlace : IsPlace graph first)
    (secondPlace : IsPlace graph second) :
    first = second := by
  unfold numPlaces at few
  rw [List.countP_eq_length_filter] at few
  have inFirst :
      first ∈ (graph.outTargets vertex).filter fun next =>
        decide (next ∉ disabled) && isPlace (graph.node next) :=
    List.mem_filter.mpr
      ⟨firstAdjacent, by simp [firstEnabled]; exact firstPlace⟩
  have inSecond :
      second ∈ (graph.outTargets vertex).filter fun next =>
        decide (next ∉ disabled) && isPlace (graph.node next) :=
    List.mem_filter.mpr
      ⟨secondAdjacent, by simp [secondEnabled]; exact secondPlace⟩
  generalize (graph.outTargets vertex).filter (fun next =>
    decide (next ∉ disabled) && isPlace (graph.node next)) = places
    at few inFirst inSecond
  match places, few with
  | [], _ => simp at inFirst
  | [only], _ =>
      rw [List.mem_singleton] at inFirst inSecond
      rw [inFirst, inSecond]

end RoomMap

variable
  {s t : Nat}

section VirtualEdges

variable
  {K : Type} [Field K]

/-- No node of the map bears one of the names of the virtual nodes. -/
def NamesFree
    (graph : TopologicalGraph K) : Prop :=
  ∀ node ∈ graph.vertices, node.name ≠ "start" ∧ node.name ≠ "goal"

instance (graph : TopologicalGraph K) :
    Decidable (NamesFree graph) :=
  inferInstanceAs (Decidable (∀ node ∈ graph.vertices, _))

/-- Ends and type of the virtual edges. -/
def VirtualEnds
    (graph : TopologicalGraph K)
    (startRoom endRoom source target : Nat)
    (type : String) : Prop :=
  (source = graph.numVertices ∧ target = graph.numVertices + 1 ∧
      startRoom = endRoom ∧ type = "transition") ∨
    (source = graph.numVertices ∧
      target ∈ adjacentTransitions graph startRoom ∧
      type = "transition") ∨
    (source = graph.numVertices + 1 ∧
      target ∈ adjacentTransitions graph endRoom ∧
      type = "transition") ∨
    (source = graph.numVertices ∧ target = startRoom ∧ type = "room") ∨
    (source = graph.numVertices + 1 ∧ target = endRoom ∧ type = "room")

variable
  {graph : TopologicalGraph K}
  {startRoom endRoom : Nat}

theorem VirtualEnds.source_ge
    {type : String}
    (ends : VirtualEnds graph startRoom endRoom s t type) :
    graph.numVertices ≤ s := by
  unfold VirtualEnds at ends
  omega

theorem mem_adjacentTransitions
    {room vertex : Nat} :
    vertex ∈ adjacentTransitions graph room ↔
      vertex ∈ graph.outTargets room ∧ IsTransition graph vertex := by
  simp [adjacentTransitions, IsTransition]

theorem VirtualEnds.old_target
    {type : String}
    (ends : VirtualEnds graph startRoom endRoom s t type)
    (old : t < graph.numVertices) :
    (s = graph.numVertices ∧
        (t = startRoom ∨ t ∈ adjacentTransitions graph startRoom)) ∨
      (s = graph.numVertices + 1 ∧
        (t = endRoom ∨ t ∈ adjacentTransitions graph endRoom)) := by
  unfold VirtualEnds at ends
  rcases ends with ⟨-, isGoal, -⟩ | ⟨isStart, beside, -⟩ |
    ⟨isGoal, beside, -⟩ | ⟨isStart, isRoom, -⟩ | ⟨isGoal, isRoom, -⟩
  · omega
  · exact Or.inl ⟨isStart, Or.inr beside⟩
  · exact Or.inr ⟨isGoal, Or.inr beside⟩
  · exact Or.inl ⟨isStart, Or.inl isRoom⟩
  · exact Or.inr ⟨isGoal, Or.inl isRoom⟩

end VirtualEdges

section Materialized

variable
  {K : Type} [Field K] [SquareRoot K]

/-- The graph of a request with start and goal as vertices. -/
def requestGraph
    (graph : TopologicalGraph K)
    (startRoom endRoom : Nat)
    (startCoords endCoords : Coords K)
    (penalizeZMovement : K) : MaterializedGraph K :=
  materializeGraphInPlace graph
    (createVirtualNodes (TopologicalMap.ofGraph graph) startRoom endRoom
      startCoords endCoords penalizeZMovement)

variable
  {graph : TopologicalGraph K}
  {startRoom endRoom : Nat}
  (startCoords endCoords : Coords K)
  (penalizeZMovement : K)

theorem mem_transitionEdges_ends
    {source room : Nat}
    {props : NodeProperties K}
    {firstId : Int32}
    {type : String} :
    (∃ vedge ∈
        transitionEdges graph penalizeZMovement source room props firstId,
      vedge.source = s ∧ vedge.target = t ∧
        vedge.properties.type = type) ↔
      s = source ∧ t ∈ adjacentTransitions graph room ∧
        type = "transition" := by
  simp only [transitionEdges, List.mem_map, exists_exists_and_eq_and]
  constructor
  · rintro ⟨indexed, member, isSource, isTarget, isType⟩
    refine ⟨isSource.symm, ?_, isType.symm⟩
    rw [← isTarget]
    exact List.fst_mem_of_mem_zipIdx member
  · rintro ⟨isSource, member, isType⟩
    obtain ⟨index, atIndex⟩ := List.mem_iff_getElem?.mp member
    exact ⟨(t, index), List.mem_zipIdx_iff_getElem?.mpr atIndex,
      isSource.symm, rfl, isType.symm⟩

theorem createVirtualNodes_ends
    {type : String} :
    (∃ vedge ∈
        (createVirtualNodes (TopologicalMap.ofGraph graph) startRoom
          endRoom startCoords endCoords penalizeZMovement).edges,
      vedge.source = s ∧ vedge.target = t ∧
        vedge.properties.type = type) ↔
      VirtualEnds graph startRoom endRoom s t type := by
  have split
      (first second : List (VirtualEdge K)) :
      (∃ vedge ∈ first ++ second,
          vedge.source = s ∧ vedge.target = t ∧
            vedge.properties.type = type) ↔
        (∃ vedge ∈ first,
            vedge.source = s ∧ vedge.target = t ∧
              vedge.properties.type = type) ∨
          ∃ vedge ∈ second,
            vedge.source = s ∧ vedge.target = t ∧
              vedge.properties.type = type := by
    simp only [List.mem_append, or_and_right, exists_or]
  simp only [createVirtualNodes, split, mem_transitionEdges_ends,
    VirtualEnds]
  simp only [List.mem_ite_nil_right, List.mem_cons, List.not_mem_nil,
    or_false, or_and_right, exists_or, exists_eq_left, and_assoc,
    exists_and_left, virtualRoomEdge, makeEdgeProps,
    TopologicalMap.ofGraph, or_assoc, eq_comm (b := s), eq_comm (b := t),
    eq_comm (b := type)]
  tauto

section Extended

variable
  (namesFree : NamesFree graph)
  (startInGraph : startRoom < graph.numVertices)
  (endInGraph : endRoom < graph.numVertices)

include namesFree startInGraph endInGraph

/-- The request's graph: two more vertices and the virtual edges. -/
theorem requestGraph_spec :
    let request :=
      requestGraph graph startRoom endRoom startCoords endCoords
        penalizeZMovement
    let virtualNodes :=
      createVirtualNodes (TopologicalMap.ofGraph graph) startRoom endRoom
        startCoords endCoords penalizeZMovement
    request.startVertex = graph.numVertices ∧
      request.goalVertex = graph.numVertices + 1 ∧
      request.graph.vertices =
        graph.vertices ++
          [virtualNodes.startProps] ++ [virtualNodes.goalProps] ∧
      request.graph.edges =
        graph.edges ++
          virtualNodes.edges.map fun vedge =>
            ⟨vedge.source, vedge.target, vedge.properties⟩ := by
  have fit :=
    createVirtualNodes_fit (TopologicalMap.ofGraph graph) startCoords
      endCoords penalizeZMovement startInGraph endInGraph
  refine materializeGraphInPlace_of_clean fit ?_
  intro vertex inGraph
  have free :=
    namesFree (graph.node vertex)
      (by
        rw [TopologicalGraph.node, List.getD_eq_getElem _ _ inGraph]
        exact List.getElem_mem _)
  simp [isStale, free]

theorem numVertices_requestGraph :
    (requestGraph graph startRoom endRoom startCoords endCoords
      penalizeZMovement).graph.numVertices = graph.numVertices + 2 := by
  have spec :=
    requestGraph_spec startCoords endCoords penalizeZMovement namesFree
      startInGraph endInGraph
  rw [TopologicalGraph.numVertices, spec.2.2.1]
  simp [TopologicalGraph.numVertices]

/-- The old nodes stay, start and goal are the virtual nodes. -/
theorem node_requestGraph_old
    (inGraph : vertex < graph.numVertices) :
    (requestGraph graph startRoom endRoom startCoords endCoords
      penalizeZMovement).graph.node vertex = graph.node vertex := by
  have spec :=
    requestGraph_spec startCoords endCoords penalizeZMovement namesFree
      startInGraph endInGraph
  rw [TopologicalGraph.node, spec.2.2.1, List.append_assoc]
  exact List.getD_append _ _ _ _ inGraph

theorem node_requestGraph_start :
    (requestGraph graph startRoom endRoom startCoords endCoords
      penalizeZMovement).graph.node graph.numVertices =
      virtualProps ((TopologicalMap.ofGraph graph).maxNodeId + 1) "start"
        startCoords (graph.node startRoom).floor := by
  have spec :=
    requestGraph_spec startCoords endCoords penalizeZMovement namesFree
      startInGraph endInGraph
  rw [TopologicalGraph.node, spec.2.2.1]
  simp [TopologicalGraph.numVertices, createVirtualNodes,
    TopologicalMap.ofGraph]

theorem node_requestGraph_goal :
    (requestGraph graph startRoom endRoom startCoords endCoords
      penalizeZMovement).graph.node (graph.numVertices + 1) =
      virtualProps ((TopologicalMap.ofGraph graph).maxNodeId + 2) "goal"
        endCoords (graph.node endRoom).floor := by
  have spec :=
    requestGraph_spec startCoords endCoords penalizeZMovement namesFree
      startInGraph endInGraph
  rw [TopologicalGraph.node, spec.2.2.1]
  simp [TopologicalGraph.numVertices, createVirtualNodes,
    TopologicalMap.ofGraph]

theorem exists_edge_requestGraph
    {type : String} :
    (∃ edge ∈
        (requestGraph graph startRoom endRoom startCoords endCoords
          penalizeZMovement).graph.edges,
      edge.source = s ∧ edge.target = t ∧ edge.properties.type = type) ↔
      (∃ edge ∈ graph.edges,
        edge.source = s ∧ edge.target = t ∧
          edge.properties.type = type) ∨
        VirtualEnds graph startRoom endRoom s t type := by
  have spec :=
    requestGraph_spec startCoords endCoords penalizeZMovement namesFree
      startInGraph endInGraph
  rw [spec.2.2.2,
    ← createVirtualNodes_ends startCoords endCoords penalizeZMovement]
  simp only [List.mem_append, List.mem_map, or_and_right, exists_or,
    exists_exists_and_eq_and]

theorem mem_outTargets_requestGraph
    {u v : Nat} :
    v ∈ (requestGraph graph startRoom endRoom startCoords endCoords
        penalizeZMovement).graph.outTargets u ↔
      v ∈ graph.outTargets u ∨
        ∃ type,
          VirtualEnds graph startRoom endRoom u v type ∨
            VirtualEnds graph startRoom endRoom v u type := by
  have asEnds
      (edges : List (StoredEdge K)) :
      (∃ edge ∈ edges, edge.joins u v = true) ↔
        ∃ type,
          (∃ edge ∈ edges,
            edge.source = u ∧ edge.target = v ∧
              edge.properties.type = type) ∨
          ∃ edge ∈ edges,
            edge.source = v ∧ edge.target = u ∧
              edge.properties.type = type := by
    simp only [StoredEdge.joins_iff]
    constructor
    · rintro ⟨edge, member, ⟨isU, isV⟩ | ⟨isV, isU⟩⟩
      · exact ⟨_, Or.inl ⟨edge, member, isU, isV, rfl⟩⟩
      · exact ⟨_, Or.inr ⟨edge, member, isV, isU, rfl⟩⟩
    · rintro ⟨type, ⟨edge, member, isU, isV, -⟩ |
        ⟨edge, member, isV, isU, -⟩⟩
      · exact ⟨edge, member, Or.inl ⟨isU, isV⟩⟩
      · exact ⟨edge, member, Or.inr ⟨isV, isU⟩⟩
  rw [TopologicalGraph.mem_outTargets, TopologicalGraph.mem_outTargets,
    asEnds, asEnds]
  simp only [exists_edge_requestGraph startCoords endCoords
    penalizeZMovement namesFree startInGraph endInGraph]
  rw [← exists_or]
  exact exists_congr fun type => or_or_or_comm

end Extended

section Kinds

variable
  (namesFree : NamesFree graph)
  (startPlace : IsPlace graph startRoom)
  (endPlace : IsPlace graph endRoom)

include namesFree startPlace endPlace

/-- The kinds of the old vertices and of start and goal. -/
theorem kinds_requestGraph :
    let extended :=
      (requestGraph graph startRoom endRoom startCoords endCoords
        penalizeZMovement).graph
    (∀ vertex < graph.numVertices,
      (IsTransition extended vertex ↔ IsTransition graph vertex) ∧
        (IsPlace extended vertex ↔ IsPlace graph vertex) ∧
        (IsFloor extended vertex ↔ IsFloor graph vertex)) ∧
      IsTransition extended graph.numVertices ∧
      IsTransition extended (graph.numVertices + 1) := by
  refine ⟨?_, ?_, ?_⟩
  · intro vertex old
    simp only [IsTransition, IsPlace, IsFloor,
      node_requestGraph_old startCoords endCoords penalizeZMovement
        namesFree startPlace.lt endPlace.lt old, and_self]
  · rw [IsTransition,
      node_requestGraph_start startCoords endCoords penalizeZMovement
        namesFree startPlace.lt endPlace.lt]
    rfl
  · rw [IsTransition,
      node_requestGraph_goal startCoords endCoords penalizeZMovement
        namesFree startPlace.lt endPlace.lt]
    rfl

theorem isPlace_requestGraph
    (place :
      IsPlace
        (requestGraph graph startRoom endRoom startCoords endCoords
          penalizeZMovement).graph vertex) :
    IsPlace graph vertex := by
  obtain ⟨old, isStart, isGoal⟩ :=
    kinds_requestGraph startCoords endCoords penalizeZMovement namesFree
      startPlace endPlace
  have bound := place.lt
  rw [numVertices_requestGraph startCoords endCoords penalizeZMovement
    namesFree startPlace.lt endPlace.lt] at bound
  have cases :
      vertex < graph.numVertices ∨ vertex = graph.numVertices ∨
        vertex = graph.numVertices + 1 := by
    omega
  rcases cases with isOld | same | same
  · exact (old vertex isOld).2.1.mp place
  · rw [same] at place
    exact absurd place isStart.not_place
  · rw [same] at place
    exact absurd place isGoal.not_place

/-- The places next to a transition of the request's graph. -/
theorem mem_outTargets_requestGraph_place
    {vertex place : Nat}
    (isPlace : IsPlace graph place) :
    place ∈ (requestGraph graph startRoom endRoom startCoords endCoords
        penalizeZMovement).graph.outTargets vertex ↔
      place ∈ graph.outTargets vertex ∨
        (vertex = graph.numVertices ∧ place = startRoom) ∨
        (vertex = graph.numVertices + 1 ∧ place = endRoom) := by
  rw [mem_outTargets_requestGraph startCoords endCoords penalizeZMovement
    namesFree startPlace.lt endPlace.lt]
  have old := isPlace.lt
  have notBeside
      {room : Nat} :
      place ∉ adjacentTransitions graph room := by
    intro member
    exact (mem_adjacentTransitions.mp member).2.not_place isPlace
  refine or_congr_right ⟨?_, ?_⟩
  · rintro ⟨type, forward | backward⟩
    · rcases forward.old_target old with
        ⟨isStart, isRoom | beside⟩ | ⟨isGoal, isRoom | beside⟩
      · exact Or.inl ⟨isStart, isRoom⟩
      · exact absurd beside notBeside
      · exact Or.inr ⟨isGoal, isRoom⟩
      · exact absurd beside notBeside
    · have above := backward.source_ge
      omega
  · rintro (⟨isStart, isRoom⟩ | ⟨isGoal, isRoom⟩)
    · exact ⟨"room", Or.inl
        (Or.inr (Or.inr (Or.inr (Or.inl ⟨isStart, isRoom, rfl⟩))))⟩
    · exact ⟨"room", Or.inl
        (Or.inr (Or.inr (Or.inr (Or.inr ⟨isGoal, isRoom, rfl⟩))))⟩

theorem mem_outTargets_requestGraph_beside
    (transition : IsTransition graph vertex) :
    let extended :=
      (requestGraph graph startRoom endRoom startCoords endCoords
        penalizeZMovement).graph
    (startRoom ∈ graph.outTargets vertex →
      vertex ∈ extended.outTargets graph.numVertices) ∧
      (endRoom ∈ graph.outTargets vertex →
        vertex ∈ extended.outTargets (graph.numVertices + 1)) := by
  simp only [mem_outTargets_requestGraph startCoords endCoords
    penalizeZMovement namesFree startPlace.lt endPlace.lt]
  constructor
  · intro adjacent
    have beside : vertex ∈ adjacentTransitions graph startRoom :=
      mem_adjacentTransitions.mpr
        ⟨TopologicalGraph.mem_outTargets_comm.mp adjacent, transition⟩
    exact Or.inr ⟨"transition",
      Or.inl (Or.inr (Or.inl ⟨rfl, beside, rfl⟩))⟩
  · intro adjacent
    have beside : vertex ∈ adjacentTransitions graph endRoom :=
      mem_adjacentTransitions.mpr
        ⟨TopologicalGraph.mem_outTargets_comm.mp adjacent, transition⟩
    exact Or.inr ⟨"transition",
      Or.inl (Or.inr (Or.inr (Or.inl ⟨rfl, beside, rfl⟩)))⟩

theorem mem_outTargets_requestGraph_direct
    (sameRoom : startRoom = endRoom) :
    graph.numVertices + 1 ∈
      (requestGraph graph startRoom endRoom startCoords endCoords
        penalizeZMovement).graph.outTargets graph.numVertices := by
  rw [mem_outTargets_requestGraph startCoords endCoords penalizeZMovement
    namesFree startPlace.lt endPlace.lt]
  exact Or.inr ⟨"transition",
    Or.inl (Or.inl ⟨rfl, rfl, sameRoom, rfl⟩)⟩

theorem clique_requestGraph
    (roomMap : IsRoomMap graph)
    {first second place : Nat}
    (different : first ≠ second)
    (isPlace : IsPlace graph place)
    (firstTransition :
      IsTransition
        (requestGraph graph startRoom endRoom startCoords endCoords
          penalizeZMovement).graph first)
    (secondTransition :
      IsTransition
        (requestGraph graph startRoom endRoom startCoords endCoords
          penalizeZMovement).graph second)
    (toFirst :
      place ∈ (requestGraph graph startRoom endRoom startCoords endCoords
        penalizeZMovement).graph.outTargets first)
    (toSecond :
      place ∈ (requestGraph graph startRoom endRoom startCoords endCoords
        penalizeZMovement).graph.outTargets second) :
    second ∈ (requestGraph graph startRoom endRoom startCoords endCoords
      penalizeZMovement).graph.outTargets first := by
  obtain ⟨old, -, -⟩ :=
    kinds_requestGraph startCoords endCoords penalizeZMovement namesFree
      startPlace endPlace
  have outTargets_iff
      {vertex : Nat} :=
    @mem_outTargets_requestGraph_place K _ _ graph startRoom endRoom
      startCoords endCoords penalizeZMovement namesFree startPlace
      endPlace vertex place isPlace
  have beside
      {vertex : Nat}
      (transition : IsTransition graph vertex) :=
    mem_outTargets_requestGraph_beside startCoords endCoords
      penalizeZMovement namesFree startPlace endPlace transition
  have direct
      (sameRoom : startRoom = endRoom) :=
    mem_outTargets_requestGraph_direct startCoords endCoords
      penalizeZMovement namesFree startPlace endPlace sameRoom
  rw [outTargets_iff] at toFirst toSecond
  rcases toFirst with firstOld | ⟨firstStart, isRoom⟩ | ⟨firstGoal, isRoom⟩
  · have firstLt := (TopologicalGraph.lt_of_mem_outTargets firstOld).1
    have firstIn : IsTransition graph first :=
      (old first firstLt).1.mp firstTransition
    rcases toSecond with
      secondOld | ⟨secondStart, isRoom⟩ | ⟨secondGoal, isRoom⟩
    · have secondLt := (TopologicalGraph.lt_of_mem_outTargets secondOld).1
      have secondIn : IsTransition graph second :=
        (old second secondLt).1.mp secondTransition
      rw [mem_outTargets_requestGraph startCoords endCoords
        penalizeZMovement namesFree startPlace.lt endPlace.lt]
      exact Or.inl
        (roomMap.clique first firstLt second secondLt place isPlace.lt
          firstIn secondIn different isPlace firstOld secondOld)
    · rw [isRoom] at firstOld
      rw [secondStart]
      exact TopologicalGraph.mem_outTargets_comm.mp
        ((beside firstIn).1 firstOld)
    · rw [isRoom] at firstOld
      rw [secondGoal]
      exact TopologicalGraph.mem_outTargets_comm.mp
        ((beside firstIn).2 firstOld)
  · rw [firstStart]
    rcases toSecond with
      secondOld | ⟨secondStart, -⟩ | ⟨secondGoal, isOther⟩
    · have secondLt := (TopologicalGraph.lt_of_mem_outTargets secondOld).1
      rw [isRoom] at secondOld
      exact (beside ((old second secondLt).1.mp secondTransition)).1
        secondOld
    · exact absurd (firstStart.trans secondStart.symm) different
    · rw [secondGoal]
      exact direct (isRoom.symm.trans isOther)
  · rw [firstGoal]
    rcases toSecond with
      secondOld | ⟨secondStart, isOther⟩ | ⟨secondGoal, -⟩
    · have secondLt := (TopologicalGraph.lt_of_mem_outTargets secondOld).1
      rw [isRoom] at secondOld
      exact (beside ((old second secondLt).1.mp secondTransition)).2
        secondOld
    · rw [secondStart]
      exact TopologicalGraph.mem_outTargets_comm.mp
        (direct (isOther.symm.trans isRoom))
    · exact absurd (firstGoal.trans secondGoal.symm) different

theorem edgeKinds_virtual
    {edge : StoredEdge K}
    (ends :
      VirtualEnds graph startRoom endRoom edge.source edge.target
        edge.properties.type) :
    JoinsPlace
        (requestGraph graph startRoom endRoom startCoords endCoords
          penalizeZMovement).graph edge ∨
      JoinsTransitions
        (requestGraph graph startRoom endRoom startCoords endCoords
          penalizeZMovement).graph edge := by
  obtain ⟨old, isStart, isGoal⟩ :=
    kinds_requestGraph startCoords endCoords penalizeZMovement namesFree
      startPlace endPlace
  have places
      {vertex place : Nat}
      (isPlace : IsPlace graph place) :=
    @mem_outTargets_requestGraph_place K _ _ graph startRoom endRoom
      startCoords endCoords penalizeZMovement namesFree startPlace
      endPlace vertex place isPlace
  have size :=
    numVertices_requestGraph startCoords endCoords penalizeZMovement
      namesFree startPlace.lt endPlace.lt
  have startLt := startPlace.lt
  have endLt := endPlace.lt
  have startPlace' := (old startRoom startLt).2.1.mpr startPlace
  have endPlace' := (old endRoom endLt).2.1.mpr endPlace
  obtain ⟨source, target, properties⟩ := edge
  simp only [JoinsPlace, JoinsTransitions, size]
  rcases ends with ⟨isSource, isTarget, sameRoom, isType⟩ |
    ⟨isSource, beside, isType⟩ | ⟨isSource, beside, isType⟩ |
    ⟨isSource, isTarget, isType⟩ | ⟨isSource, isTarget, isType⟩
  · simp only at isSource isTarget isType
    subst isSource isTarget
    refine Or.inr ⟨isType, isStart, isGoal, startRoom, by omega,
      startPlace', ?_, ?_⟩
    · exact (places startPlace).mpr (Or.inr (Or.inl ⟨rfl, rfl⟩))
    · exact (places startPlace).mpr (Or.inr (Or.inr ⟨rfl, sameRoom⟩))
  · simp only at isSource beside isType
    subst isSource
    obtain ⟨adjacent, transition⟩ := mem_adjacentTransitions.mp beside
    refine Or.inr ⟨isType, isStart,
      (old target transition.lt).1.mpr transition, startRoom, by omega,
      startPlace', ?_, ?_⟩
    · exact (places startPlace).mpr (Or.inr (Or.inl ⟨rfl, rfl⟩))
    · exact (places startPlace).mpr
        (Or.inl (TopologicalGraph.mem_outTargets_comm.mp adjacent))
  · simp only at isSource beside isType
    subst isSource
    obtain ⟨adjacent, transition⟩ := mem_adjacentTransitions.mp beside
    refine Or.inr ⟨isType, isGoal,
      (old target transition.lt).1.mpr transition, endRoom, by omega,
      endPlace', ?_, ?_⟩
    · exact (places endPlace).mpr (Or.inr (Or.inr ⟨rfl, rfl⟩))
    · exact (places endPlace).mpr
        (Or.inl (TopologicalGraph.mem_outTargets_comm.mp adjacent))
  · simp only at isSource isTarget isType
    subst isSource isTarget
    exact Or.inl ⟨isType, Or.inl ⟨isStart, startPlace'⟩⟩
  · simp only at isSource isTarget isType
    subst isSource isTarget
    exact Or.inl ⟨isType, Or.inl ⟨isGoal, endPlace'⟩⟩

theorem isRoomMap_requestGraph
    (roomMap : IsRoomMap graph) :
    IsRoomMap
      (requestGraph graph startRoom endRoom startCoords endCoords
        penalizeZMovement).graph := by
  obtain ⟨old, isStart, isGoal⟩ :=
    kinds_requestGraph startCoords endCoords penalizeZMovement namesFree
      startPlace endPlace
  have spec :=
    requestGraph_spec startCoords endCoords penalizeZMovement namesFree
      startPlace.lt endPlace.lt
  have size :=
    numVertices_requestGraph startCoords endCoords penalizeZMovement
      namesFree startPlace.lt endPlace.lt
  constructor
  · intro edge member sourceNotFloor targetNotFloor
    rw [spec.2.2.2, List.mem_append] at member
    rcases member with isOld | isNew
    · have valid := graph.endsValid edge isOld
      obtain ⟨sourceDoor, sourcePlace, sourceFloor⟩ :=
        old edge.source valid.1
      obtain ⟨targetDoor, targetPlace, targetFloor⟩ :=
        old edge.target valid.2
      rw [sourceFloor] at sourceNotFloor
      rw [targetFloor] at targetNotFloor
      rcases roomMap.edgeKinds edge isOld sourceNotFloor targetNotFloor
        with ⟨isType, ends⟩ |
          ⟨isType, sourceIs, targetIs, place, placeLt, isPlace, toSource,
            toTarget⟩
      · refine Or.inl ⟨isType, ?_⟩
        rw [sourceDoor, sourcePlace, targetDoor, targetPlace]
        exact ends
      · refine Or.inr ⟨isType, sourceDoor.mpr sourceIs,
          targetDoor.mpr targetIs, place, by omega,
          (old place placeLt).2.1.mpr isPlace, ?_, ?_⟩
        · rw [mem_outTargets_requestGraph startCoords endCoords
            penalizeZMovement namesFree startPlace.lt endPlace.lt]
          exact Or.inl toSource
        · rw [mem_outTargets_requestGraph startCoords endCoords
            penalizeZMovement namesFree startPlace.lt endPlace.lt]
          exact Or.inl toTarget
    · obtain ⟨vedge, inVirtual, isEdge⟩ := List.mem_map.mp isNew
      apply edgeKinds_virtual startCoords endCoords penalizeZMovement
        namesFree startPlace endPlace
      rw [← isEdge,
        ← createVirtualNodes_ends startCoords endCoords
          penalizeZMovement]
      exact ⟨vedge, inVirtual, rfl, rfl, rfl⟩
  · intro first _ second _ place _ firstTransition secondTransition
      different isPlace toFirst toSecond
    exact clique_requestGraph startCoords endCoords penalizeZMovement
      namesFree startPlace endPlace roomMap different
      (isPlace_requestGraph startCoords endCoords penalizeZMovement
        namesFree startPlace endPlace isPlace)
      firstTransition secondTransition toFirst toSecond

end Kinds

end Materialized

end NavBim
