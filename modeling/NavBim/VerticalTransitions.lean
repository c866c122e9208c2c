import NavBim.Numerals
import NavBim.PlanningSystem
import NavBim.TopomapPlannerGraph

namespace NavBim

/-!
# Stairs and ramps

The paths of stairs and ramps come with the map, and the planner for single
rooms cannot recompute them.  The search reuses both.  Clearing and
pre-planning make an exception for stairs only, so a ramp can lose its path or
be planned again.
-/

attribute [local instance] atLeastTwo_5

section Geometry

variable {K : Type}

/-- A stair or ramp transition that has a path. -/
def Vertical
    (props : EdgeProperties K) : Prop :=
  props.type = "transition" ∧
    isPreplanned props = true ∧
    2 ≤ (props.path.getD []).length

/-- The edge has the kind, the path and the planned values of another one. -/
structure SameGeometry
    (old new : EdgeProperties K) : Prop where
  type : new.type = old.type
  subtype : new.subtype = old.subtype
  path : new.path = old.path
  plannedDistance : new.plannedDistance = old.plannedDistance
  plannedCost : new.plannedCost = old.plannedCost

/-- A stair or ramp keeps its geometry; other edges may change. -/
def KeepsGeometry
    (old new : EdgeProperties K) : Prop :=
  Vertical old → SameGeometry old new

/-- A ramp transition with a path. -/
def RampWithPath
    (props : EdgeProperties K) : Prop :=
  props.type = "transition" ∧
    props.subtype = some "ramp" ∧
    2 ≤ (props.path.getD []).length

variable {old middle new : EdgeProperties K}

theorem SameGeometry.vertical
    (same : SameGeometry old new)
    (vertical : Vertical old) :
    Vertical new := by
  unfold Vertical isPreplanned at *
  rw [same.type, same.subtype, same.path]
  exact vertical

theorem KeepsGeometry.refl
    (props : EdgeProperties K) :
    KeepsGeometry props props :=
  fun _ => ⟨rfl, rfl, rfl, rfl, rfl⟩

theorem KeepsGeometry.trans
    (first : KeepsGeometry old middle)
    (second : KeepsGeometry middle new) :
    KeepsGeometry old new := by
  intro vertical
  have before := first vertical
  have after := second (before.vertical vertical)
  exact ⟨after.type.trans before.type,
    after.subtype.trans before.subtype,
    after.path.trans before.path,
    after.plannedDistance.trans before.plannedDistance,
    after.plannedCost.trans before.plannedCost⟩

theorem Vertical.ramp
    (vertical : Vertical old)
    (notStair : old.subtype ≠ some "stair") :
    RampWithPath old := by
  obtain ⟨isTransition, preplanned, long⟩ := vertical
  refine ⟨isTransition, ?_, long⟩
  simp only [isPreplanned, Bool.or_eq_true, beq_iff_eq] at preplanned
  exact preplanned.resolve_left notStair

theorem Vertical.reused
    (vertical : Vertical old)
    (reusePaths : Bool) :
    shouldReuse reusePaths old = true := by
  simp [shouldReuse, vertical.2.1, vertical.2.2]

/-- Replication keeps stairs and ramps. -/
theorem SameGeometry.replica
    (vertical : Vertical old) :
    SameGeometry old (replicaEdge old) := by
  have hasPath : old.path ≠ some [] := by
    intro isEmpty
    have long := vertical.2.2
    simp [isEmpty] at long
  have hasSubtype : old.subtype ≠ some "" := by
    intro isEmpty
    have preplanned := vertical.2.1
    simp [isPreplanned, isEmpty] at preplanned
  exact ⟨rfl, nonemptyText_eq_iff.mpr hasSubtype,
    nonemptyList_eq_iff.mpr hasPath, rfl, rfl⟩

variable [Field K]

theorem SameGeometry.clear
    (vertical : Vertical old)
    (notRamp : ¬ RampWithPath old) :
    SameGeometry old (clearPath old) := by
  have isStair : old.subtype = some "stair" := by
    by_contra notStair
    exact notRamp (vertical.ramp notStair)
  have keeps : keepsPath old = true := by
    simp [keepsPath, isStair]
  rw [clearPath, if_pos keeps]
  exact ⟨rfl, rfl, rfl, rfl, rfl⟩

variable [LinearOrder K]

theorem SameGeometry.stored
    (vertical : Vertical old)
    (request : PlanRequest K)
    (graph : TopologicalGraph K)
    (calls u v : Nat) :
    SameGeometry old
      (storeResult (edgeResult request graph calls u v old) old) := by
  have hasPath : old.path ≠ none := by
    intro noPath
    have long := vertical.2.2
    simp [noPath] at long
  obtain ⟨path, isPath⟩ := Option.ne_none_iff_exists'.mp hasPath
  simp only [edgeResult, vertical.reused, if_true, storeResult, isPath]
  exact ⟨rfl, rfl, isPath.symm, rfl, rfl⟩

/-- The search keeps stairs and ramps. -/
theorem storingKeeps_geometry
    (request : PlanRequest K) :
    StoringKeeps request KeepsGeometry := by
  intro old edge graph calls u v keeps
  refine keeps.trans ?_
  intro vertical
  exact SameGeometry.stored vertical request graph calls u v

end Geometry

section Requests

variable {K : Type}

variable {loaded graph : TopologicalGraph K}

/-- An edge that is found in place of a stair or ramp is that stair or ramp. -/
theorem not_vertical_of_related
    (edges : EdgesRelated KeepsGeometry loaded graph)
    {u v : Nat}
    {edge old : StoredEdge K}
    (found : graph.edge? u v = some edge)
    (notVertical : ¬ Vertical edge.properties)
    (isOld : loaded.edge? u v = some old) :
    ¬ Vertical old.properties := by
  obtain ⟨other, isOther, keeps⟩ := edges.edge?_eq_some found
  rw [isOld, Option.some_inj] at isOther
  subst isOther
  intro vertical
  exact notVertical ((keeps vertical).vertical vertical)

variable [Field K]

/-- A request to store a path that does not concern a stair or ramp. -/
def SparesVertical
    (loaded : TopologicalGraph K)
    (request : UpdateEdgeDataRequest K) : Prop :=
  ∀ u < loaded.numVertices, ∀ v < loaded.numVertices,
    (loaded.node u).id = request.sourceId →
    (loaded.node v).id = request.targetId →
    ∀ edge, loaded.edge? u v = some edge → ¬ Vertical edge.properties

section

variable
  (edges : EdgesRelated KeepsGeometry loaded graph)
  (same : SamePlaces graph loaded)
  {request : UpdateEdgeDataRequest K}

include edges same

theorem EdgesRelated.update
    (spares : SparesVertical loaded request) :
    EdgesRelated KeepsGeometry loaded
      (serverStep graph (.update request)) := by
  rcases serverStep_update_cases graph request with
      ⟨unchanged, -⟩ |
        ⟨source, target, edge, isSource, isTarget, -, changed⟩
  · rw [unchanged]
    exact edges
  · rw [changed]
    refine edges.modifyEdge ?_
    intro old new _ isOld _ vertical
    obtain ⟨sourceInGraph, sourceId⟩ := getVertexById_eq_some isSource
    obtain ⟨targetInGraph, targetId⟩ := getVertexById_eq_some isTarget
    rw [same.numVertices] at sourceInGraph targetInGraph
    rw [same.id] at sourceId targetId
    exact absurd vertical
      (spares source sourceInGraph target targetInGraph sourceId targetId
        old isOld)

/-- A request that spares stairs and ramps of a copy of the map. -/
theorem SparesVertical.of_related
    (spares : SparesVertical graph request) :
    SparesVertical loaded request := by
  intro u uInGraph v vInGraph sourceId targetId old isOld
  rw [← same.numVertices] at uInGraph vInGraph
  rw [← same.id] at sourceId targetId
  obtain ⟨edge, isEdge, -⟩ := edges.flip.edge?_eq_some isOld
  exact not_vertical_of_related edges isEdge
    (spares u uInGraph v vInGraph sourceId targetId edge isEdge) isOld

end

variable [LinearOrder K]

/-- Pre-planning selects no ramp with a path, and no hidden parallel edge. -/
def SelectionSpares
    (graph : TopologicalGraph K)
    (forceReplan : Bool) : Prop :=
  ∀ info ∈ edgesToPlan graph forceReplan,
    ¬ RampWithPath info.properties ∧
      graph.edge? info.source info.target = some info

/-- The edges that pre-planning selects are neither stairs nor ramps. -/
theorem SelectionSpares.not_vertical
    {forceReplan : Bool}
    (spares : SelectionSpares graph forceReplan)
    {info : StoredEdge K}
    (selected : info ∈ edgesToPlan graph forceReplan) :
    ¬ Vertical info.properties := by
  intro vertical
  have notStair : info.properties.subtype ≠ some "stair" := by
    intro isStair
    have chosen := List.of_mem_filter selected
    simp [isStairEdge, isStair] at chosen
  exact (spares info selected).1 (vertical.ramp notStair)

/-- Pre-planning sends no request that concerns a stair or ramp. -/
theorem prePlan_spares
    (edges : EdgesRelated KeepsGeometry loaded graph)
    (same : SamePlaces graph loaded)
    (distinct : DistinctIds loaded)
    {secondLevelPlanner : SecondLevelPlanner K}
    {forceReplan : Bool}
    (spares : SelectionSpares graph forceReplan)
    {update : UpdateEdgeDataRequest K}
    (member :
      update ∈
        (executePrePlanImpl secondLevelPlanner graph
          forceReplan).updates) :
    SparesVertical loaded update := by
  obtain ⟨info, edge, calls, floor, room, sent⟩ :=
    mem_updates_executePrePlanImpl member
  have valid :
      info.source < graph.numVertices ∧ info.target < graph.numVertices :=
    graph.endsValid info (List.mem_of_mem_filter sent.selected)
  rw [same.numVertices] at valid
  intro u uInGraph v vInGraph sourceId targetId old isOld
  have isU : u = info.source := by
    refine distinct.vertex_eq uInGraph valid.1 ?_
    rw [sourceId, sent.sourceId, same.id]
  have isV : v = info.target := by
    refine distinct.vertex_eq vInGraph valid.2 ?_
    rw [targetId, sent.targetId, same.id]
  rw [isU, isV] at isOld
  exact not_vertical_of_related edges (spares info sent.selected).2
    (spares.not_vertical sent.selected) isOld

end Requests

section Queries

variable
  {K : Type} [Field K] [LinearOrder K] [SquareRoot K]
  {loaded : TopologicalGraph K}
  {topologicalMap : TopologicalMap K}
  {pathQuery : PathQuery K}

/-- The second-level planner is called for the edge between two vertices. -/
def SearchHandsOver
    (request : PlanRequest K)
    (start : TopologicalGraph K)
    (u v : Nat) : Prop :=
  ∃ state, LoopState request start state ∧
    ∃ nonempty : state.openHeap ≠ [],
      (topEntry request state nonempty).u = u ∧
        (topEntry request state nonempty).v = v ∧
        ∃ edge,
          filteredEdge? state.graph request.disabledVertices u v =
              some edge ∧
            shouldReuse request.reusePaths edge.properties = false

theorem SearchHandsOver.not_vertical
    {request : PlanRequest K}
    {start : TopologicalGraph K}
    {u v : Nat}
    (handed : SearchHandsOver request start u v)
    {old : StoredEdge K}
    (isOld : start.edge? u v = some old) :
    ¬ Vertical old.properties := by
  obtain ⟨state, reachable, nonempty, -, -, edge, found, planned⟩ := handed
  have keeps : SearchKeeps request KeepsGeometry start state :=
    reachable.keeps (fun edge _ => KeepsGeometry.refl edge.properties)
      (storingKeeps_geometry request)
  obtain ⟨-, -, isEdge⟩ := filteredEdge?_eq_some.mp found
  refine not_vertical_of_related keeps.edges isEdge ?_ isOld
  intro vertical
  rw [vertical.reused request.reusePaths] at planned
  cases planned

/-- What a query leaves behind. -/
structure QueryKeeps
    (pathQuery : PathQuery K)
    (topologicalMap : TopologicalMap K)
    (outcome : PlanOutcome K) : Prop where
  vertices :
    (pathQuery.plannerAfter topologicalMap outcome).graph.vertices =
      topologicalMap.graph.vertices
  edges :
    EdgesRelated KeepsGeometry topologicalMap.graph
      (pathQuery.plannerAfter topologicalMap outcome).graph
  spares :
    DistinctIds topologicalMap.graph →
    ∀ update ∈ outcome.updates, SparesVertical topologicalMap.graph update

/-- A query keeps stairs and ramps and sends no requests for them. -/
theorem PathQuery.keepsGeometry
    (clean :
      ∀ vertex < topologicalMap.graph.numVertices,
        isStale (topologicalMap.graph.node vertex) = false)
    (startInGraph :
      pathQuery.startRoom < topologicalMap.graph.numVertices)
    (endInGraph : pathQuery.endRoom < topologicalMap.graph.numVertices)
    {outcome : PlanOutcome K}
    (run : pathQuery.outcome topologicalMap = some outcome) :
    QueryKeeps pathQuery topologicalMap outcome := by
  have extended := pathQuery.extends clean startInGraph endInGraph
  have fit :=
    createVirtualNodes_fit topologicalMap pathQuery.startCoords
      pathQuery.endCoords pathQuery.plan.penalizeZMovement
      startInGraph endInGraph
  obtain ⟨isStart, isGoal, -, edges⟩ :=
    materializeGraphInPlace_of_clean fit clean
  obtain ⟨shape, related, updates⟩ :=
    planTopomapPath_keeps KeepsGeometry
      (fun edge _ => KeepsGeometry.refl edge.properties)
      (storingKeeps_geometry _) run
  obtain ⟨afterVertices, afterEdges⟩ := destroy_of_sameShape fit clean shape
  refine ⟨afterVertices, ?_, ?_⟩
  · have kept := List.forall₂_take topologicalMap.graph.edges.length related
    rw [PathQuery.materialized, PathQuery.virtualNodes, edges,
      List.take_left' rfl] at kept
    unfold EdgesRelated
    exact afterEdges ▸ kept
  · intro distinct update isUpdate
    obtain ⟨graph, calls, u, v, old, edge, sameShape, isOld, keeps,
      isSent⟩ := updates update isUpdate
    obtain ⟨path, -, -, sourceId, targetId, -, -, planned, apart⟩ :=
      mem_edgeUpdate isSent
    obtain ⟨-, -, isEdge⟩ := filteredEdge?_eq_some.mp isOld
    -- Neither end is start or goal, so both are vertices of the map.
    have inMap :
        u < topologicalMap.graph.numVertices ∧
          v < topologicalMap.graph.numVertices := by
      obtain ⟨member, joined⟩ := TopologicalGraph.edge?_eq_some isEdge
      have valid :
          old.source <
              (pathQuery.materialized topologicalMap).graph.numVertices ∧
            old.target <
              (pathQuery.materialized
                topologicalMap).graph.numVertices :=
        (pathQuery.materialized topologicalMap).graph.endsValid old member
      have ends := StoredEdge.joins_iff.mp joined
      have startVertex :
          (pathQuery.request topologicalMap).startVertex =
            topologicalMap.graph.numVertices :=
        isStart
      have goalVertex :
          (pathQuery.request topologicalMap).goalVertex =
            topologicalMap.graph.numVertices + 1 :=
        isGoal
      rw [startVertex, goalVertex] at apart
      rw [extended.numVertices] at valid
      omega
    intro first firstInGraph second secondInGraph firstId secondId other
      isOther
    have isFirst : first = u := by
      refine distinct.vertex_eq firstInGraph inMap.1 ?_
      rw [firstId, sourceId, sameShape.node, extended.node u inMap.1]
    have isSecond : second = v := by
      refine distinct.vertex_eq secondInGraph inMap.2 ?_
      rw [secondId, targetId, sameShape.node, extended.node v inMap.2]
    rw [isFirst, isSecond, ← extended.edge?_eq inMap.1 inMap.2, isEdge,
      Option.some_inj] at isOther
    rw [← isOther]
    intro vertical
    rw [((keeps vertical).vertical vertical).reused] at planned
    cases planned

end Queries

section Runs

variable
  {K : Type} [Field K] [LinearOrder K] [SquareRoot K]
  {loaded : TopologicalGraph K}
  {state next : System K}

/-- Server and planner have the stairs and ramps of the loaded map. -/
structure SystemKeepsGeometry
    (loaded : TopologicalGraph K)
    (state : System K) : Prop where
  placed : SystemPlaced state
  same : SamePlaces state.server loaded
  server : EdgesRelated KeepsGeometry loaded state.server
  planner :
    0 < state.planner.graph.numVertices →
      SamePlaces state.planner.graph loaded ∧
        EdgesRelated KeepsGeometry loaded state.planner.graph
  inFlight : ∀ request ∈ state.inFlight, SparesVertical loaded request

/--
The operations on the map without its file, as far as they spare stairs and
ramps.
-/
def StepSpares
    (state : System K) : SystemEvent K → Prop
  | .query _ =>
      ∀ vertex < state.planner.graph.numVertices,
        isStale (state.planner.graph.node vertex) = false
  | .prePlan _ forceReplan =>
      SelectionSpares state.planner.graph forceReplan
  | .clear => ∀ edge ∈ state.server.edges, ¬ RampWithPath edge.properties
  | .replicate => True
  | .deliver _ => True
  | .send _ => False
  | .save => False
  | .reload => False

/-- The step calls the second-level planner for the edge of two vertices. -/
def HandsOver
    (state : System K)
    (event : SystemEvent K)
    (u v : Nat) : Prop :=
  match event with
  | .query pathQuery =>
      pathQuery.startRoom < state.planner.graph.numVertices ∧
        pathQuery.endRoom < state.planner.graph.numVertices ∧
        SearchHandsOver (pathQuery.request state.planner)
          (pathQuery.materialized state.planner).graph u v
  | .prePlan _ forceReplan =>
      ∃ info ∈ edgesToPlan state.planner.graph forceReplan,
        info.source = u ∧ info.target = v
  | _ => False

theorem SystemKeepsGeometry.not_handed_over
    (keeps : SystemKeepsGeometry loaded state)
    {event : SystemEvent K}
    (spares : StepSpares state event)
    {u v : Nat}
    (handed : HandsOver state event u v)
    {old : StoredEdge K}
    (isOld : loaded.edge? u v = some old) :
    ¬ Vertical old.properties := by
  cases event with
  | query pathQuery =>
      obtain ⟨startInGraph, endInGraph, search⟩ := handed
      obtain ⟨places, edges⟩ :=
        keeps.planner (Nat.zero_lt_of_lt startInGraph)
      have extended := pathQuery.extends spares startInGraph endInGraph
      have inMap :
          u < state.planner.graph.numVertices ∧
            v < state.planner.graph.numVertices := by
        obtain ⟨member, joined⟩ := TopologicalGraph.edge?_eq_some isOld
        have valid :
            old.source < loaded.numVertices ∧
              old.target < loaded.numVertices :=
          loaded.endsValid old member
        have ends := StoredEdge.joins_iff.mp joined
        rw [places.numVertices]
        omega
      obtain ⟨current, isCurrent, isKept⟩ :=
        edges.flip.edge?_eq_some isOld
      have notVertical :=
        search.not_vertical
          (by rw [extended.edge?_eq inMap.1 inMap.2]; exact isCurrent)
      intro vertical
      exact notVertical ((isKept vertical).vertical vertical)
  | prePlan secondLevelPlanner forceReplan =>
      obtain ⟨info, selected, isSource, isTarget⟩ := handed
      have valid := state.planner.graph.endsValid info
        (List.mem_of_mem_filter selected)
      obtain ⟨-, edges⟩ := keeps.planner (Nat.zero_lt_of_lt valid.1)
      rw [← isSource, ← isTarget] at isOld
      exact not_vertical_of_related edges (spares info selected).2
        (spares.not_vertical selected) isOld
  | replicate => exact absurd handed id
  | send request => exact absurd handed id
  | deliver index => exact absurd handed id
  | clear => exact absurd handed id
  | save => exact absurd handed id
  | reload => exact absurd handed id

variable [IntegerPart K] {toFloat : K → K}

theorem SystemKeepsGeometry.step
    (keeps : SystemKeepsGeometry loaded state)
    {event : SystemEvent K}
    (spares : StepSpares state event)
    (isNext : systemStep toFloat state event = some next) :
    SystemKeepsGeometry loaded next := by
  have distinct : DistinctIds loaded := by
    have back : SamePlaces loaded state.server := keeps.same.symm
    exact back.distinct keeps.placed.distinct
  obtain ⟨placed, samePlaces⟩ := keeps.placed.step isNext
  have same : SamePlaces next.server loaded := samePlaces.trans keeps.same
  cases stepTaken_of_systemStep isNext with
  | replicate =>
      obtain ⟨received, isReceived, vertices, edges⟩ :=
        readTopomap_getTopologicalMap toFloat state.server
          keeps.placed.distinct
      refine ⟨placed, keeps.same, keeps.server, ?_, keeps.inFlight⟩
      simp only [TopologicalMap.loadFromMessage, isReceived]
      intro _
      refine ⟨?_, ?_⟩
      · have replicaPlaces : SamePlaces received state.server := by
          rw [SamePlaces, vertices, List.map_map]
          rfl
        exact replicaPlaces.trans keeps.same
      · refine keeps.server.map edges ?_
        intro edge _ old isKept
        exact isKept.trans fun vertical => SameGeometry.replica vertical
  | refused pathQuery => exact keeps
  | @query pathQuery outcome startInGraph endInGraph isOutcome =>
      obtain ⟨places, edges⟩ :=
        keeps.planner (Nat.zero_lt_of_lt startInGraph)
      have kept :=
        PathQuery.keepsGeometry spares startInGraph endInGraph isOutcome
      refine ⟨placed, keeps.same, keeps.server, ?_,
        List.forall_mem_append.mpr ⟨keeps.inFlight, ?_⟩⟩
      · intro _
        refine ⟨?_, edges.trans KeepsGeometry.trans kept.edges⟩
        rw [SamePlaces, kept.vertices]
        exact places
      · intro update isUpdate
        exact (kept.spares (places.distinct distinct) update
          isUpdate).of_related edges places
  | prePlan secondLevelPlanner forceReplan =>
      refine ⟨placed, keeps.same, keeps.server, keeps.planner,
        List.forall_mem_append.mpr ⟨keeps.inFlight, ?_⟩⟩
      intro update isUpdate
      obtain ⟨places, edges⟩ :=
        keeps.planner (numVertices_pos_of_mem_updates isUpdate)
      exact prePlan_spares edges places distinct spares isUpdate
  | send request => exact absurd spares id
  | missing index => exact keeps
  | @deliver _ request isRequest =>
      have isSent : request ∈ state.inFlight :=
        List.mem_of_getElem? isRequest
      exact ⟨placed, same,
        keeps.server.update keeps.same (keeps.inFlight request isSent),
        keeps.planner,
        fun other isOther =>
          keeps.inFlight other (List.mem_of_mem_eraseIdx isOther)⟩
  | clear =>
      refine ⟨placed, same, ?_, keeps.planner, keeps.inFlight⟩
      refine keeps.server.map rfl ?_
      intro edge member old isKept
      exact isKept.trans fun vertical =>
        SameGeometry.clear vertical (spares edge member)
  | save => exact absurd spares id
  | reload => exact absurd spares id

/--
In every run of queries, pre-planning and clearing that spares ramps, the
stairs and ramps of the server and of the planner are those of the loaded map,
and none of them is handed to the second-level planner.
-/
theorem vertical_transitions_kept
    (loaded : TopologicalGraph K)
    (distinct : DistinctIds loaded)
    (events : List (SystemEvent K))
    (spares :
      ∀ step ∈ systemSteps toFloat (System.start loaded) events,
        StepSpares step.1 step.2) :
    (∀ reached ∈ systemStates toFloat (System.start loaded) events,
        EdgesRelated KeepsGeometry loaded reached.server ∧
          (0 < reached.planner.graph.numVertices →
            EdgesRelated KeepsGeometry loaded reached.planner.graph)) ∧
      ∀ step ∈ systemSteps toFloat (System.start loaded) events,
        ∀ u v edge,
          HandsOver step.1 step.2 u v →
          loaded.edge? u v = some edge →
          ¬ Vertical edge.properties := by
  have initially : SystemKeepsGeometry loaded (System.start loaded) := by
    refine ⟨SystemPlaced.start distinct, rfl, ?_, ?_, ?_⟩
    · exact EdgesRelated.refl fun edge _ =>
        KeepsGeometry.refl edge.properties
    · intro nonempty
      exact absurd nonempty (by simp [System.start,
        TopologicalMap.empty, TopologicalGraph.empty,
        TopologicalGraph.numVertices])
    · intro request isSent
      cases isSent
  obtain ⟨steps, states⟩ :=
    system_invariant (fun holds fits step => holds.step fits step)
      events initially spares
  refine ⟨?_, ?_⟩
  · intro reached isReached
    have keeps := states reached isReached
    exact ⟨keeps.server, fun nonempty => (keeps.planner nonempty).2⟩
  · intro step isStep u v edge handed isOld
    exact (steps step isStep).not_handed_over (spares step isStep) handed
      isOld

end Runs

section Samples

/-- The path of a stair or ramp between two floors. -/
def flightEdge
    (subtype : String) : EdgeProperties ℚ :=
  { id := 0
    type := "transition"
    subtype := some subtype
    estimatedDistance := 5
    plannedDistance := 5
    estimatedCost := 5
    plannedCost := 5
    path := some [(0, 0, 0), (4, 0, 3)]
    pathFrameId := "ifc"
    roomId := some 2 }

/-- A stair or ramp with its two ends. -/
def flightMap
    (subtype : String) : TopologicalGraph ℚ where
  vertices :=
    [{ NodeProperties.unset with
        id := 0, name := "below", type := "transition",
        floor := some ["ground"] },
      { NodeProperties.unset with
        id := 1, name := "above", type := "transition",
        position := ⟨4, 0, 3⟩, floor := some ["first"] },
      { NodeProperties.unset with
        id := 2, name := "flight", type := subtype,
        floor := some ["ground", "first"] }]
  edges := [⟨0, 1, flightEdge subtype⟩]
  endsValid := by simp

/-- Every plan is the straight line. -/
def flatPlanner : SecondLevelPlanner ℚ :=
  fun _ _ _ first last =>
    { path := some [first, last], distance := 1, cost := 1 }

/-- The system after the planner has loaded the map. -/
def flightSystem
    (subtype : String) : System ℚ :=
  { System.start (flightMap subtype) with
    planner :=
      (TopologicalMap.empty.loadFromMessage
        (getTopologicalMap id (flightMap subtype)).topomap).2 }

/-- Clearing drops the path of a ramp, and pre-planning plans it again. -/
theorem ramp_is_not_spared :
    DistinctIds (flightMap "ramp") ∧
      Vertical (flightEdge "ramp") ∧
      (∃ reached ∈
          systemStates id (System.start (flightMap "ramp")) [.clear],
        ¬ EdgesRelated KeepsGeometry (flightMap "ramp")
            reached.server) ∧
      (flightSystem "ramp", SystemEvent.prePlan flatPlanner true) ∈
        systemSteps id (System.start (flightMap "ramp"))
          [.replicate, .prePlan flatPlanner true] ∧
      HandsOver (flightSystem "ramp") (.prePlan flatPlanner true) 0 1 ∧
      (flightMap "ramp").edge? 0 1 =
        some ⟨0, 1, flightEdge "ramp"⟩ := by
  have vertical : Vertical (flightEdge "ramp") :=
    ⟨rfl, by decide, by decide⟩
  refine ⟨by unfold DistinctIds; decide, vertical, ?_,
    List.mem_cons_of_mem _ List.mem_cons_self, ?_, by decide +kernel⟩
  · refine ⟨_, List.mem_cons_of_mem _ List.mem_cons_self, ?_⟩
    intro edges
    cases edges with
    | cons isRelated _ =>
        have samePath := (isRelated.2.2 vertical).path
        exact absurd samePath (by decide +kernel)
  · have selected :
        ∃ info ∈ edgesToPlan (flightSystem "ramp").planner.graph true,
          info.source = 0 ∧ info.target = 1 := by
      decide +kernel
    exact selected

/-- Pre-planning does not touch a stair. -/
theorem stair_is_spared :
    DistinctIds (flightMap "stair") ∧
      ∀ reached ∈ systemStates id (System.start (flightMap "stair"))
          [.replicate, .prePlan flatPlanner true, .deliver 0, .clear],
        EdgesRelated KeepsGeometry (flightMap "stair") reached.server := by
  have distinct : DistinctIds (flightMap "stair") := by
    unfold DistinctIds
    decide
  have noneSelected :
      edgesToPlan (flightSystem "stair").planner.graph true = [] := by
    decide +kernel
  have noRamp :
      ∀ edge ∈ (flightMap "stair").edges,
        ¬ RampWithPath edge.properties := by
    intro edge member
    simp only [flightMap, List.mem_singleton] at member
    rw [member]
    intro ramp
    exact absurd ramp.2.1 (by decide)
  have spares :
      ∀ step ∈ systemSteps id (System.start (flightMap "stair"))
          [.replicate, .prePlan flatPlanner true, .deliver 0, .clear],
        StepSpares step.1 step.2 := by
    refine List.forall_mem_cons.mpr ⟨trivial, ?_⟩
    refine List.forall_mem_cons.mpr ⟨?_, ?_⟩
    · intro info selected
      have isSelected :
          info ∈ edgesToPlan (flightSystem "stair").planner.graph true :=
        selected
      rw [noneSelected] at isSelected
      cases isSelected
    · refine List.forall_mem_cons.mpr ⟨trivial, ?_⟩
      refine List.forall_mem_cons.mpr ⟨noRamp, ?_⟩
      intro step isStep
      cases isStep
  refine ⟨distinct, ?_⟩
  intro reached isReached
  exact ((vertical_transitions_kept (flightMap "stair") distinct _ spares).1
    reached isReached).1

end Samples

end NavBim
