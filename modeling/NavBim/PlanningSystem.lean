import NavBim.AugmentedGraphView
import NavBim.PrePlanning
import NavBim.TopomapPlannerSteps
import NavBim.TopomapReplica

namespace NavBim

/-!
# The map server and the planner together

The server owns the map and its file.  The planner works on a replica of the
map, which it changes while it answers path queries, and sends the paths that
it finds back to the server.  These requests travel for a while, so the server
may handle them in any order and after any other event.
-/

section System

variable (K : Type) [LinearOrder K]

/-- The server, what its file is read as, the planner and sent requests. -/
structure System where
  server : TopologicalGraph K
  file : Option (TopologicalGraph K)
  planner : TopologicalMap K
  inFlight : List (UpdateEdgeDataRequest K)

/--
A path query.  Start and goal vertex of the plan request are those of the
virtual nodes that are made for the query.
-/
structure PathQuery where
  startRoom : Nat
  endRoom : Nat
  startCoords : Coords K
  endCoords : Coords K
  plan : PlanRequest K

/-- What can happen to the system. -/
inductive SystemEvent where
  /-- The planner loads the map from the server. -/
  | replicate
  /-- The planner answers a path query. -/
  | query (pathQuery : PathQuery K)
  /-- The planner plans the transition edges ahead. -/
  | prePlan
      (secondLevelPlanner : SecondLevelPlanner K)
      (forceReplan : Bool)
  /-- Some client sends data of an edge to the server. -/
  | send (request : UpdateEdgeDataRequest K)
  /-- The server handles one of the requests on their way. -/
  | deliver (index : Nat)
  /-- The server drops the planned paths. -/
  | clear
  /-- The server writes its file. -/
  | save
  /-- The server loads its file. -/
  | reload

end System

section Queries

variable
  {K : Type} [Field K] [LinearOrder K] [SquareRoot K]
  (pathQuery : PathQuery K)
  (topologicalMap : TopologicalMap K)

/-- The virtual nodes of a query. -/
def PathQuery.virtualNodes : VirtualNodes K :=
  createVirtualNodes topologicalMap pathQuery.startRoom
    pathQuery.endRoom pathQuery.startCoords pathQuery.endCoords
    pathQuery.plan.penalizeZMovement

/-- The planner's graph while the query is answered. -/
def PathQuery.materialized : MaterializedGraph K :=
  materializeGraphInPlace topologicalMap.graph
    (pathQuery.virtualNodes topologicalMap)

/-- The arguments of `planTopomapPath` for the query. -/
def PathQuery.request : PlanRequest K :=
  { pathQuery.plan with
    startVertex := (pathQuery.materialized topologicalMap).startVertex
    goalVertex := (pathQuery.materialized topologicalMap).goalVertex }

/-- The result of planning the query. -/
def PathQuery.outcome : Option (PlanOutcome K) :=
  planTopomapPath (pathQuery.request topologicalMap)
    (pathQuery.materialized topologicalMap).graph

/-- The planner's map after the virtual nodes were removed again. -/
def PathQuery.plannerAfter
    (outcome : PlanOutcome K) : TopologicalMap K :=
  { topologicalMap with
    graph :=
      destroyMaterialization
        { pathQuery.materialized topologicalMap with
          graph := outcome.graph } }

end Queries

section Extended

variable
  {K : Type} [Field K]
  {topologicalMap : TopologicalMap K}

/-- The graph with start and goal extends the planner's graph. -/
structure Extends
    (topologicalMap : TopologicalMap K)
    (materialized : TopologicalGraph K) : Prop where
  numVertices :
    materialized.numVertices = topologicalMap.graph.numVertices + 2
  node :
    ∀ vertex < topologicalMap.graph.numVertices,
      materialized.node vertex = topologicalMap.graph.node vertex
  startId :
    (materialized.node topologicalMap.graph.numVertices).id =
      topologicalMap.maxNodeId + 1
  goalId :
    (materialized.node (topologicalMap.graph.numVertices + 1)).id =
      topologicalMap.maxNodeId + 2
  edges :
    ∃ virtualEdges,
      materialized.edges = topologicalMap.graph.edges ++ virtualEdges ∧
        ∀ edge ∈ virtualEdges,
          edge.properties.path = none ∧
            (edge.source = topologicalMap.graph.numVertices ∨
              edge.source = topologicalMap.graph.numVertices + 1)

theorem Extends.edge?_eq
    {materialized : TopologicalGraph K}
    (extended : Extends topologicalMap materialized)
    {u v : Nat}
    (uInGraph : u < topologicalMap.graph.numVertices)
    (vInGraph : v < topologicalMap.graph.numVertices) :
    materialized.edge? u v = topologicalMap.graph.edge? u v := by
  obtain ⟨virtualEdges, isEdges, virtualEnds⟩ := extended.edges
  unfold TopologicalGraph.edge?
  rw [isEdges, List.find?_append]
  have noVirtual :
      virtualEdges.find? (fun edge => edge.joins u v) = none := by
    rw [List.find?_eq_none]
    intro edge member joined
    rw [StoredEdge.joins_iff] at joined
    have source := (virtualEnds edge member).2
    omega
  rw [noVirtual, Option.or_none]

variable [SquareRoot K] [LinearOrder K]

theorem PathQuery.extends
    (pathQuery : PathQuery K)
    (clean :
      ∀ vertex < topologicalMap.graph.numVertices,
        isStale (topologicalMap.graph.node vertex) = false)
    (startInGraph :
      pathQuery.startRoom < topologicalMap.graph.numVertices)
    (endInGraph :
      pathQuery.endRoom < topologicalMap.graph.numVertices) :
    Extends topologicalMap
      (pathQuery.materialized topologicalMap).graph := by
  have fit :=
    createVirtualNodes_fit topologicalMap pathQuery.startCoords
      pathQuery.endCoords pathQuery.plan.penalizeZMovement
      startInGraph endInGraph
  obtain ⟨-, -, vertices, edges⟩ :=
    materializeGraphInPlace_of_clean fit clean
  have isVertices :
      (pathQuery.materialized topologicalMap).graph.vertices =
        topologicalMap.graph.vertices ++
          [(pathQuery.virtualNodes topologicalMap).startProps,
            (pathQuery.virtualNodes topologicalMap).goalProps] := by
    rw [PathQuery.materialized, PathQuery.virtualNodes, vertices,
      List.append_assoc]
    rfl
  refine ⟨?_, ?_, ?_, ?_, _, edges, ?_⟩
  · simp [TopologicalGraph.numVertices, isVertices]
  · intro vertex inGraph
    have inList : vertex < topologicalMap.graph.vertices.length := inGraph
    simp [TopologicalGraph.node, isVertices,
      List.getElem?_append_left inList]
  · simp [TopologicalGraph.node, isVertices,
      TopologicalGraph.numVertices]
    rfl
  · simp [TopologicalGraph.node, isVertices,
      TopologicalGraph.numVertices]
    rfl
  · intro edge member
    obtain ⟨vedge, isVirtual, isEdge⟩ := List.mem_map.mp member
    subst isEdge
    exact ⟨createVirtualNodes_path isVirtual,
      (fit.ends vedge isVirtual).1⟩

end Extended

section Destroy

variable
  {K : Type} [Field K] [SquareRoot K]
  {graph after : TopologicalGraph K}
  {virtualNodes : VirtualNodes K}

omit [SquareRoot K] in
/--
Removing the virtual nodes after a query leaves the old vertices and the old
edges with the properties that the query gave them.
-/
theorem destroy_of_sameShape
    (fit : VirtualNodesFit graph virtualNodes)
    (clean :
      ∀ vertex < graph.numVertices, isStale (graph.node vertex) = false)
    (shape :
      SameShape (materializeGraphInPlace graph virtualNodes).graph after) :
    (destroyMaterialization
          { materializeGraphInPlace graph virtualNodes with
            graph := after }).vertices = graph.vertices ∧
      (destroyMaterialization
          { materializeGraphInPlace graph virtualNodes with
            graph := after }).edges =
        after.edges.take graph.edges.length := by
  obtain ⟨isStart, isGoal, vertices, edges⟩ :=
    materializeGraphInPlace_of_clean fit clean
  have afterEnds := shape.ends
  rw [edges, List.map_append] at afterEnds
  have takeEnds :
      (after.edges.take graph.edges.length).map
          (fun edge => (edge.source, edge.target)) =
        graph.edges.map (fun edge => (edge.source, edge.target)) := by
    rw [List.map_take, afterEnds, List.take_left' (by simp)]
  have dropEnds :
      (after.edges.drop graph.edges.length).map
          (fun edge => (edge.source, edge.target)) =
        virtualNodes.edges.map
          (fun vedge => (vedge.source, vedge.target)) := by
    rw [List.map_drop, afterEnds, List.drop_left' (by simp), List.map_map]
    rfl
  refine destroyMaterialization_split isStart isGoal
    (shape.vertices.trans vertices) (List.take_append_drop _ _).symm ?_ ?_
  · intro edge member
    have ends : (edge.source, edge.target) ∈
        graph.edges.map (fun edge => (edge.source, edge.target)) := by
      rw [← takeEnds]
      exact List.mem_map_of_mem member
    obtain ⟨old, inOld, same⟩ := List.mem_map.mp ends
    rw [Prod.mk.injEq] at same
    rw [← same.1, ← same.2]
    exact graph.endsValid old inOld
  · intro edge member
    have ends : (edge.source, edge.target) ∈
        virtualNodes.edges.map
          (fun vedge => (vedge.source, vedge.target)) := by
      rw [← dropEnds]
      exact List.mem_map_of_mem member
    obtain ⟨vedge, inVirtual, same⟩ := List.mem_map.mp ends
    rw [Prod.mk.injEq] at same
    rw [← same.1]
    exact (fit.ends vedge inVirtual).1

end Destroy

section Places

variable {K : Type}

/-- The id and the position of a node, which nothing changes. -/
def NodeProperties.place
    (props : NodeProperties K) : Int32 × Position K :=
  (props.id, props.position)

/-- Two graphs have the same nodes at the same places. -/
def SamePlaces
    (first second : TopologicalGraph K) : Prop :=
  first.vertices.map NodeProperties.place =
    second.vertices.map NodeProperties.place

variable {first second : TopologicalGraph K}

theorem SamePlaces.numVertices
    (same : SamePlaces first second) :
    first.numVertices = second.numVertices := by
  have lengths := congrArg List.length same
  simpa [TopologicalGraph.numVertices] using lengths

theorem SamePlaces.distinct
    (same : SamePlaces first second)
    (distinct : DistinctIds second) :
    DistinctIds first := by
  have ids
      (graph : TopologicalGraph K) :
      graph.vertices.map NodeProperties.id =
        (graph.vertices.map NodeProperties.place).map Prod.fst := by
    rw [List.map_map]
    rfl
  unfold DistinctIds at distinct ⊢
  rw [ids, same, ← ids]
  exact distinct

variable [Field K]

theorem SamePlaces.place
    (same : SamePlaces first second)
    (vertex : Nat) :
    (first.node vertex).place = (second.node vertex).place := by
  have placeOf
      (graph : TopologicalGraph K) :
      (graph.node vertex).place =
        (graph.vertices.map NodeProperties.place).getD vertex
          (default : NodeProperties K).place := by
    rw [TopologicalGraph.node, List.getD_map]
  rw [placeOf, placeOf, same]

theorem SamePlaces.id
    (same : SamePlaces first second)
    (vertex : Nat) :
    (first.node vertex).id = (second.node vertex).id :=
  congrArg Prod.fst (same.place vertex)

theorem getVertexById_eq_some
    {graph : TopologicalGraph K}
    {id : Int32}
    {vertex : Nat}
    (found : getVertexById graph (idString id) = some vertex) :
    vertex < graph.numVertices ∧ (graph.node vertex).id = id := by
  obtain ⟨isId, inGraph, -⟩ := List.find?_range_eq_some.mp found
  rw [beq_iff_eq, idString_inj] at isId
  exact ⟨List.mem_range.mp inGraph, isId⟩

/-- A list that is present and not empty was there before. -/
theorem nonemptyList_eq_some
    {α : Type}
    {items : Option (List α)}
    {kept : List α}
    (isKept : nonemptyList items = some kept) :
    items = some kept ∧ kept ≠ [] := by
  match items with
  | none => cases isKept
  | some [] => cases isKept
  | some (first :: rest) =>
      cases isKept
      exact ⟨rfl, by simp⟩

end Places

section Files

variable {K : Type} [Field K] [LinearOrder K] [IntegerPart K]

/-- All numbers that are written for the edge are finite. -/
def writesFinite
    (props : EdgeProperties K) : Bool :=
  props.type != "transition" ||
    (decide (props.estimatedDistance ≠ ⊤) &&
      decide (props.plannedDistance ≠ ⊤) &&
      decide (props.estimatedCost ≠ ⊤) &&
      decide (props.plannedCost ≠ ⊤))

/--
What the file is read as after the map was written to it.  An infinite number
is written as `null`, which the reader rejects.
-/
def readSaved
    (graph : TopologicalGraph K) : Option (TopologicalGraph K) :=
  if graph.edges.all fun edge => writesFinite edge.properties then
    loadFromJson (toJson graph)
  else
    none

theorem readSaved_eq_some
    {graph saved : TopologicalGraph K}
    (distinct : DistinctIds graph)
    (isSaved : readSaved graph = some saved) :
    saved.vertices = graph.vertices.map reloadedNode ∧
      saved.edges =
        graph.edges.map (StoredEdge.mapProperties reloadedEdge) := by
  unfold readSaved at isSaved
  split at isSaved
  · obtain ⟨reloaded, isReloaded, vertices, edges⟩ :=
      loadFromJson_toJson graph distinct
    rw [isReloaded, Option.some_inj] at isSaved
    subst isSaved
    exact ⟨vertices, edges⟩
  · cases isSaved

end Files

section Start

variable {K : Type}

/-- The system after the server was started with a map. -/
def System.start
    (server : TopologicalGraph K) : System K where
  server := server
  file := some server
  planner := TopologicalMap.empty
  inFlight := []

/-- All graphs of the server have the same places. -/
structure SystemPlaced
    (state : System K) : Prop where
  distinct : DistinctIds state.server
  file :
    ∀ saved, state.file = some saved → SamePlaces saved state.server

theorem SystemPlaced.start
    {server : TopologicalGraph K}
    (distinct : DistinctIds server) :
    SystemPlaced (System.start server) := by
  refine ⟨distinct, ?_⟩
  intro saved isSaved
  rw [← Option.some.inj isSaved]
  exact rfl

theorem SystemPlaced.served
    {state : System K}
    (placed : SystemPlaced state)
    {server : TopologicalGraph K}
    (same : SamePlaces server state.server) :
    SystemPlaced { state with server := server } := by
  refine ⟨same.distinct placed.distinct, ?_⟩
  intro saved isSaved
  exact (placed.file saved isSaved).trans same.symm

end Start

section Steps

variable {K : Type} [Field K] [LinearOrder K] [SquareRoot K] [IntegerPart K]

/--
The system after an event; `none` when answering a query does not end.  A
query for rooms that are not on the planner's map is refused.
-/
def systemStep
    (toFloat : K → K)
    (state : System K) : SystemEvent K → Option (System K)
  | .replicate =>
      some
        { state with
          planner :=
            (state.planner.loadFromMessage
              (getTopologicalMap toFloat state.server).topomap).2 }
  | .query pathQuery =>
      if pathQuery.startRoom < state.planner.graph.numVertices ∧
          pathQuery.endRoom < state.planner.graph.numVertices then
        (pathQuery.outcome state.planner).map fun outcome =>
          { state with
            planner := pathQuery.plannerAfter state.planner outcome
            inFlight := state.inFlight ++ outcome.updates }
      else
        some state
  | .prePlan secondLevelPlanner forceReplan =>
      some
        { state with
          inFlight :=
            state.inFlight ++
              (executePrePlanImpl secondLevelPlanner
                state.planner.graph forceReplan).updates }
  | .send request =>
      some { state with inFlight := state.inFlight ++ [request] }
  | .deliver index =>
      match state.inFlight[index]? with
      | none => some state
      | some request =>
          some
            { state with
              server := serverStep state.server (.update request)
              inFlight := state.inFlight.eraseIdx index }
  | .clear =>
      some { state with server := serverStep state.server .clear }
  | .save =>
      some { state with file := readSaved state.server }
  | .reload =>
      some { state with server := state.file.getD state.server }

/-- The events of a run with the states before them. -/
def systemSteps
    (toFloat : K → K) :
    System K → List (SystemEvent K) → List (System K × SystemEvent K)
  | _, [] => []
  | state, event :: rest =>
      (state, event) ::
        match systemStep toFloat state event with
        | none => []
        | some next => systemSteps toFloat next rest

theorem systemSteps_singleton
    (toFloat : K → K)
    (state : System K)
    (event : SystemEvent K) :
    systemSteps toFloat state [event] = [(state, event)] := by
  rw [systemSteps]
  cases systemStep toFloat state event <;> rfl

/-- All states of a run. -/
def systemStates
    (toFloat : K → K) :
    System K → List (SystemEvent K) → List (System K)
  | state, [] => [state]
  | state, event :: rest =>
      state ::
        match systemStep toFloat state event with
        | none => []
        | some next => systemStates toFloat next rest

variable {toFloat : K → K}

/--
What holds at the start and is kept by every step that fits holds before every
step of a run and in all its states.
-/
theorem system_invariant
    {Invariant : System K → Prop}
    {Fits : System K → SystemEvent K → Prop}
    (keeps :
      ∀ {state event next},
        Invariant state → Fits state event →
        systemStep toFloat state event = some next →
        Invariant next)
    (events : List (SystemEvent K)) :
    ∀ {state : System K},
      Invariant state →
      (∀ step ∈ systemSteps toFloat state events, Fits step.1 step.2) →
      (∀ step ∈ systemSteps toFloat state events, Invariant step.1) ∧
        ∀ reached ∈ systemStates toFloat state events,
          Invariant reached := by
  induction events with
  | nil =>
      intro state holds _
      refine ⟨fun step isStep => (by cases isStep), ?_⟩
      intro reached isReached
      rw [systemStates, List.mem_singleton] at isReached
      rw [isReached]
      exact holds
  | cons event rest inductionHypothesis =>
      intro state holds fits
      simp only [systemSteps, systemStates, List.forall_mem_cons]
        at fits ⊢
      cases isNext : systemStep toFloat state event with
      | none =>
          simp [holds]
      | some next =>
          rw [isNext] at fits
          obtain ⟨steps, states⟩ :=
            inductionHypothesis (keeps holds fits.1 isNext) fits.2
          exact ⟨⟨holds, steps⟩, holds, states⟩

/-- All that an event can do. -/
inductive StepTaken
    (toFloat : K → K)
    (state : System K) : SystemEvent K → System K → Prop where
  | replicate :
      StepTaken toFloat state .replicate
        { state with
          planner :=
            (state.planner.loadFromMessage
              (getTopologicalMap toFloat state.server).topomap).2 }
  | refused (pathQuery : PathQuery K) :
      StepTaken toFloat state (.query pathQuery) state
  | query
      {pathQuery : PathQuery K}
      {outcome : PlanOutcome K}
      (startInGraph : pathQuery.startRoom < state.planner.graph.numVertices)
      (endInGraph : pathQuery.endRoom < state.planner.graph.numVertices)
      (isOutcome : pathQuery.outcome state.planner = some outcome) :
      StepTaken toFloat state (.query pathQuery)
        { state with
          planner := pathQuery.plannerAfter state.planner outcome
          inFlight := state.inFlight ++ outcome.updates }
  | prePlan (secondLevelPlanner : SecondLevelPlanner K) (forceReplan : Bool) :
      StepTaken toFloat state (.prePlan secondLevelPlanner forceReplan)
        { state with
          inFlight :=
            state.inFlight ++
              (executePrePlanImpl secondLevelPlanner
                state.planner.graph forceReplan).updates }
  | send (request : UpdateEdgeDataRequest K) :
      StepTaken toFloat state (.send request)
        { state with inFlight := state.inFlight ++ [request] }
  | missing (index : Nat) :
      StepTaken toFloat state (.deliver index) state
  | deliver
      {index : Nat}
      {request : UpdateEdgeDataRequest K}
      (isRequest : state.inFlight[index]? = some request) :
      StepTaken toFloat state (.deliver index)
        { state with
          server := serverStep state.server (.update request)
          inFlight := state.inFlight.eraseIdx index }
  | clear :
      StepTaken toFloat state .clear
        { state with server := serverStep state.server .clear }
  | save :
      StepTaken toFloat state .save
        { state with file := readSaved state.server }
  | reload :
      StepTaken toFloat state .reload
        { state with server := state.file.getD state.server }

theorem stepTaken_of_systemStep
    {state next : System K}
    {event : SystemEvent K}
    (isNext : systemStep toFloat state event = some next) :
    StepTaken toFloat state event next := by
  cases event with
  | query pathQuery =>
      simp only [systemStep] at isNext
      split at isNext
      · rename_i inGraph
        obtain ⟨outcome, isOutcome, rfl⟩ := Option.map_eq_some_iff.mp isNext
        exact .query inGraph.1 inGraph.2 isOutcome
      · cases isNext
        exact .refused pathQuery
  | deliver index =>
      simp only [systemStep] at isNext
      split at isNext
      · cases isNext
        exact .missing index
      · rename_i request isRequest
        cases isNext
        exact .deliver isRequest
  | replicate => cases isNext; exact .replicate
  | prePlan secondLevelPlanner forceReplan => cases isNext; exact .prePlan _ _
  | send request => cases isNext; exact .send request
  | clear => cases isNext; exact .clear
  | save => cases isNext; exact .save
  | reload => cases isNext; exact .reload

theorem SystemPlaced.step
    {state next : System K}
    (placed : SystemPlaced state)
    {event : SystemEvent K}
    (isNext : systemStep toFloat state event = some next) :
    SystemPlaced next ∧ SamePlaces next.server state.server := by
  have served (event : ServerEvent K) :
      SamePlaces (serverStep state.server event) state.server := by
    rw [SamePlaces, vertices_serverStep]
  cases stepTaken_of_systemStep isNext with
  | replicate => exact ⟨⟨placed.distinct, placed.file⟩, rfl⟩
  | refused pathQuery => exact ⟨placed, rfl⟩
  | query _ _ _ => exact ⟨⟨placed.distinct, placed.file⟩, rfl⟩
  | prePlan _ _ => exact ⟨⟨placed.distinct, placed.file⟩, rfl⟩
  | send request => exact ⟨⟨placed.distinct, placed.file⟩, rfl⟩
  | missing index => exact ⟨placed, rfl⟩
  | @deliver _ request _ =>
      have kept := placed.served (served (.update request))
      exact ⟨⟨kept.distinct, kept.file⟩, served _⟩
  | clear => exact ⟨placed.served (served .clear), served .clear⟩
  | save =>
      refine ⟨⟨placed.distinct, ?_⟩, rfl⟩
      intro saved isSaved
      obtain ⟨vertices, -⟩ := readSaved_eq_some placed.distinct isSaved
      rw [SamePlaces, vertices, List.map_map]
      rfl
  | reload =>
      have same :
          SamePlaces (state.file.getD state.server) state.server := by
        cases isFile : state.file with
        | none => rfl
        | some saved => exact placed.file saved isFile
      exact ⟨placed.served same, same⟩

end Steps

end NavBim
