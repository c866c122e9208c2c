import NavBim.TopologicalGraph

namespace NavBim

/-!
# The first-level planner

`planTopomapPath` searches the topological graph edge by edge.  The graph is
planned on in place: expanding an edge stores the cost and the waypoints that
the second-level planner returns for it.

Two things are parameters.  The second-level planner is a callback that sees
how often it has been called, so it may keep state.  The Fibonacci heap is
known only by its contract: its top has the least key, and which of several
least entries that is may depend on anything.
-/

/-- `std::sqrt`, the only operation that does not belong to a field. -/
class SquareRoot (K : Type) where
  sqrt : K → K

/-- On rationals the root is exact for squares and rounded down otherwise. -/
instance : SquareRoot ℚ :=
  ⟨Rat.sqrt⟩

noncomputable instance : SquareRoot ℝ :=
  ⟨Real.sqrt⟩

section Geometry

variable {K : Type} [Field K] [SquareRoot K]

/-- `costBetweenNodes`: straight-line cost with a penalty on height. -/
def costBetweenNodes
    (graph : TopologicalGraph K)
    (v1 v2 : Nat)
    (penalizeZMovement : K) : K :=
  let p1 := (graph.node v1).position
  let p2 := (graph.node v2).position
  let dx := p1.x - p2.x
  let dy := p1.y - p2.y
  let dz := (p1.z - p2.z) * penalizeZMovement
  SquareRoot.sqrt (dx * dx + dy * dy + dz * dz)

end Geometry

section FilteredGraph

variable {K : Type}

/-- `boost::edge` on the graph filtered by the disabled vertices. -/
def filteredEdge?
    (graph : TopologicalGraph K)
    (disabled : Finset Nat)
    (u v : Nat) : Option (StoredEdge K) :=
  if u ∈ disabled ∨ v ∈ disabled then none else graph.edge? u v

/-- Targets of `boost::out_edges` on the filtered graph. -/
def filteredTargets
    (graph : TopologicalGraph K)
    (disabled : Finset Nat)
    (u : Nat) : List Nat :=
  if u ∈ disabled then
    []
  else
    (graph.outTargets u).filter (fun v => decide (v ∉ disabled))

end FilteredGraph

section EdgeNames

variable {K : Type} [Field K]

/-- First floor of a node, empty when it has none. -/
def firstFloor
    (node : NodeProperties K) : String :=
  (node.floor.getD []).headD ""

variable
  (graph : TopologicalGraph K)

/-- `getFloorOfEdge`. -/
def getFloorOfEdge
    (u v : Nat) : String :=
  match graph.edge? u v with
  | none => ""
  | some edge =>
      match edge.properties.roomId with
      | none => firstFloor (graph.node u)
      | some roomId =>
          match graph.vertices.find? (fun node =>
              decide (node.id = roomId) && !(node.floor.getD []).isEmpty) with
          | none => ""
          | some room => firstFloor room

/-- `getRoomNameOfEdge`. -/
def getRoomNameOfEdge
    (u v : Nat) : String :=
  match graph.edge? u v with
  | none => ""
  | some edge =>
      match edge.properties.roomId with
      | none => (graph.node u).name
      | some roomId =>
          match graph.vertices.find? (fun node => decide (node.id = roomId)) with
          | none => ""
          | some room => room.name

/--
The scan for the vertices with two given ids.  It stops as soon as both are
known, so before that a later vertex with the same id replaces an earlier one.
-/
def findOriginalVertices
    (uId vId : Int32) :
    List (NodeProperties K) → Nat → Option Nat → Option Nat →
      Option Nat × Option Nat
  | [], _, origU, origV => (origU, origV)
  | node :: rest, index, origU, origV =>
      let origU := if node.id = uId then some index else origU
      let origV := if node.id = vId then some index else origV
      if origU.isSome && origV.isSome then
        (origU, origV)
      else
        findOriginalVertices uId vId rest (index + 1) origU origV

/-- Floor and room name that the search passes on for an edge. -/
def edgeNames
    (u v : Nat) : String × String :=
  match findOriginalVertices (graph.node u).id (graph.node v).id
      graph.vertices 0 none none with
  | (some origU, some origV) =>
      (getFloorOfEdge graph origU origV, getRoomNameOfEdge graph origU origV)
  | _ => ("", "")

end EdgeNames

/-- The tuple returned by the second-level planner. -/
structure SecondLevelResult (K : Type) where
  path : Option (List (Coords K))
  distance : WithTop K
  cost : WithTop K

/--
`SecondLevelPlannerCallback`: number of earlier calls, floor name, room name,
start and end coordinates.
-/
abbrev SecondLevelPlanner (K : Type) :=
  Nat → String → String → Coords K → Coords K → SecondLevelResult K

/-- `UpdateEdgeData::Request`. -/
structure UpdateEdgeDataRequest (K : Type) where
  sourceId : Int32
  targetId : Int32
  plannedDistance : WithTop K
  plannedCost : WithTop K
  path : List (Coords K)
  frameId : String
  deferSave : Bool

/-- An `OpenSetEdge` in the heap together with its handle. -/
structure OpenSetEdge (K : Type) where
  handle : Nat
  u : Nat
  v : Nat
  fScore : WithTop K

/--
`boost::heap::fibonacci_heap::top`: some entry with the least key.  The number
of earlier pops stands for the history on which the choice may depend.
-/
structure HeapOrder (K : Type) [LinearOrder K] where
  top : Nat → (heap : List (OpenSetEdge K)) → heap ≠ [] → OpenSetEdge K
  top_mem :
    ∀ pops heap nonempty, top pops heap nonempty ∈ heap
  top_le :
    ∀ pops heap nonempty,
      ∀ entry ∈ heap, (top pops heap nonempty).fScore ≤ entry.fScore

section FirstLeast

variable {K : Type} [LinearOrder K]

/-- The first entry with the least key. -/
def firstLeast : (heap : List (OpenSetEdge K)) → heap ≠ [] → OpenSetEdge K
  | [], nonempty => absurd rfl nonempty
  | [entry], _ => entry
  | entry :: second :: rest, _ =>
      let later := firstLeast (second :: rest) (List.cons_ne_nil _ _)
      if entry.fScore ≤ later.fScore then entry else later

theorem firstLeast_spec
    (heap : List (OpenSetEdge K))
    (nonempty : heap ≠ []) :
    firstLeast heap nonempty ∈ heap ∧
      ∀ entry ∈ heap,
        (firstLeast heap nonempty).fScore ≤ entry.fScore := by
  induction heap with
  | nil =>
      exact absurd rfl nonempty
  | cons entry rest inductionHypothesis =>
      cases rest with
      | nil =>
          simp [firstLeast]
      | cons second later =>
          obtain ⟨member, least⟩ :=
            inductionHypothesis (List.cons_ne_nil _ _)
          simp only [firstLeast]
          split
          · rename_i first
            refine ⟨List.mem_cons_self, ?_⟩
            intro other inHeap
            rcases List.mem_cons.mp inHeap with isFirst | inRest
            · rw [isFirst]
            · exact first.trans (least other inRest)
          · rename_i notFirst
            refine ⟨List.mem_cons_of_mem _ member, ?_⟩
            intro other inHeap
            rcases List.mem_cons.mp inHeap with isFirst | inRest
            · rw [isFirst]
              exact (not_le.mp notFirst).le
            · exact least other inRest

/-- A heap that breaks ties by age. -/
def HeapOrder.oldestFirst : HeapOrder K where
  top := fun _ heap nonempty => firstLeast heap nonempty
  top_mem := fun _ heap nonempty => (firstLeast_spec heap nonempty).1
  top_le := fun _ heap nonempty => (firstLeast_spec heap nonempty).2

end FirstLeast

/-- The arguments of `planTopomapPath` other than the graph. -/
structure PlanRequest (K : Type) [LinearOrder K] where
  startVertex : Nat
  goalVertex : Nat
  secondLevelPlanner : SecondLevelPlanner K
  disabledVertices : Finset Nat
  /-- A client for `UpdateEdgeData` is given. -/
  updateEdgeClient : Bool
  penalizeZMovement : K
  reusePaths : Bool
  heapOrder : HeapOrder K

/-- `TopomapPlannerResult`. -/
structure TopomapPlannerResult (K : Type) where
  coarsePath : List Nat
  detailedPath : List (Coords K)
  totalDistance : WithTop K
  totalCost : WithTop K
  success : Bool

/-- The local variables of `planTopomapPath`. -/
structure PlannerState (K : Type) where
  graph : TopologicalGraph K
  gScore : Nat → WithTop K
  cameFrom : Nat → Option Nat
  closedSet : Finset (Nat × Nat)
  openHeap : List (OpenSetEdge K)
  edgeToHandle : Nat × Nat → Option Nat
  nextHandle : Nat
  bestScore : WithTop K
  /-- `timings->second_level_count`. -/
  secondLevelCount : Nat
  /-- Requests sent through the `UpdateEdgeData` client, oldest first. -/
  updates : List (UpdateEdgeDataRequest K)
  /-- Vertex pairs popped so far, latest first; the code keeps no such list. -/
  popped : List (Nat × Nat)

/-- The key of an edge in the handle map and the closed set. -/
def edgePair
    (u v : Nat) : Nat × Nat :=
  (min u v, max u v)

section Search

variable {K : Type} [Field K] [LinearOrder K] [SquareRoot K]

/-- `h1_score`: planned cost of an edge if it has one, estimated cost else. -/
def h1Score
    (graph : TopologicalGraph K)
    (disabled : Finset Nat)
    (u v : Nat) : WithTop K :=
  match filteredEdge? graph disabled u v with
  | none => ⊤
  | some edge =>
      if 0 ≤ edge.properties.plannedCost then
        edge.properties.plannedCost
      else
        edge.properties.estimatedCost

variable
  (request : PlanRequest K)

/-- `h2_score`: straight-line cost from a vertex to the goal. -/
def h2Score
    (graph : TopologicalGraph K)
    (v : Nat) : WithTop K :=
  ((costBetweenNodes graph v request.goalVertex
    request.penalizeZMovement : K) : WithTop K)

variable
  (state : PlannerState K)

/-- Key of an edge that is used from `pre` to `suc`. -/
def fScore
    (pre suc : Nat) : WithTop K :=
  state.gScore pre +
      h1Score state.graph request.disabledVertices pre suc +
    h2Score request state.graph suc

variable
  (u v : Nat)

/-- `open_heap.push` together with the entry in the handle map. -/
def pushOpenEdge
    (score : WithTop K) : PlannerState K :=
  { state with
    openHeap := state.openHeap ++
      [{ handle := state.nextHandle
         u := min u v
         v := max u v
         fScore := score }]
    edgeToHandle :=
      Function.update state.edgeToHandle (edgePair u v)
        (some state.nextHandle)
    nextHandle := state.nextHandle + 1 }

/-- The local variables before any edge has been pushed. -/
def unopenedState
    (graph : TopologicalGraph K) : PlannerState K where
  graph := graph
  -- Vertices outside the filtered graph have no entry in the map, and
  -- `operator[]` would create one with value zero.
  gScore := fun v =>
    if v = request.startVertex then
      0
    else if v < graph.numVertices ∧ v ∉ request.disabledVertices then
      ⊤
    else
      0
  cameFrom := fun _ => none
  closedSet := ∅
  openHeap := []
  edgeToHandle := fun _ => none
  nextHandle := 0
  bestScore := ⊤
  secondLevelCount := 0
  updates := []
  popped := []

/-- Push the edge from the start vertex to one of its neighbours. -/
def openStartEdge
    (graph : TopologicalGraph K)
    (state : PlannerState K)
    (neighbor : Nat) : PlannerState K :=
  pushOpenEdge state request.startVertex neighbor
    (h1Score graph request.disabledVertices request.startVertex neighbor +
      h2Score request graph neighbor)

/-- The state before the main loop: all edges at the start vertex are open. -/
def initialState
    (graph : TopologicalGraph K) : PlannerState K :=
  (filteredTargets graph request.disabledVertices
    request.startVertex).foldl
      (openStartEdge request graph) (unopenedState request graph)

/-- Take the given entry out of the heap and forget its handle. -/
def popOpenEdge
    (entry : OpenSetEdge K) : PlannerState K :=
  { state with
    openHeap :=
      state.openHeap.filter (fun other => other.handle != entry.handle)
    edgeToHandle :=
      Function.update state.edgeToHandle (entry.u, entry.v) none
    popped := (entry.u, entry.v) :: state.popped }

/-- `is_preplanned`: stairs and ramps keep their paths. -/
def isPreplanned
    (edge : EdgeProperties K) : Bool :=
  edge.subtype == some "stair" || edge.subtype == some "ramp"

/-- `should_reuse`. -/
def shouldReuse
    (reusePaths : Bool)
    (edge : EdgeProperties K) : Bool :=
  decide (2 ≤ (edge.path.getD []).length) &&
    (reusePaths || isPreplanned edge)

/-- What planning or reusing an edge yields for the edge from `u` to `v`. -/
def edgeResult
    (graph : TopologicalGraph K)
    (calls u v : Nat)
    (edge : EdgeProperties K) : SecondLevelResult K :=
  if shouldReuse request.reusePaths edge then
    { path := edge.path
      distance := edge.plannedDistance
      cost := edge.plannedCost }
  else
    let names := edgeNames graph u v
    request.secondLevelPlanner calls names.1 names.2
      (graph.node u).position.coords (graph.node v).position.coords

/-- The edge properties after planning: a failure is stored as infinite cost. -/
def storeResult
    (result : SecondLevelResult K)
    (edge : EdgeProperties K) : EdgeProperties K :=
  match result.path with
  | none =>
      { edge with
        plannedDistance := ⊤
        plannedCost := ⊤
        path := none }
  | some path =>
      { edge with
        plannedDistance := result.distance
        plannedCost := result.cost
        path := some path }

/-- The request sent to the topomap server for a freshly planned edge, if any. -/
def edgeUpdate
    (graph : TopologicalGraph K)
    (u v : Nat)
    (edge : EdgeProperties K)
    (result : SecondLevelResult K) : List (UpdateEdgeDataRequest K) :=
  match result.path with
  | none => []
  | some path =>
      if shouldReuse request.reusePaths edge = false ∧
          request.updateEdgeClient = true ∧
          u ≠ request.startVertex ∧ u ≠ request.goalVertex ∧
          v ≠ request.startVertex ∧ v ≠ request.goalVertex then
        [{ sourceId := (graph.node u).id
           targetId := (graph.node v).id
           plannedDistance := result.distance
           plannedCost := result.cost
           path := path
           frameId := "ifc"
           deferSave := false }]
      else
        []

/-- Plan the popped edge, store the outcome and close the edge. -/
def planEdge
    (edge : EdgeProperties K) : PlannerState K :=
  let result := edgeResult request state.graph state.secondLevelCount u v edge
  { state with
    graph := state.graph.modifyEdge u v (storeResult result)
    closedSet := insert (u, v) state.closedSet
    secondLevelCount :=
      if shouldReuse request.reusePaths edge then
        state.secondLevelCount
      else
        state.secondLevelCount + 1
    updates :=
      state.updates ++ edgeUpdate request state.graph u v edge result }

/--
Subtraction of costs.  An infinite amount is only ever taken off an infinite
score, so the last case is not reached.
-/
def costSub : WithTop K → WithTop K → WithTop K
  | ⊤, _ => ⊤
  | (score : K), (delta : K) => ((score - delta : K) : WithTop K)
  | (score : K), ⊤ => (score : WithTop K)

/-- The scores and the updated nodes during the recursive update. -/
structure ScoreUpdate (K : Type) where
  gScore : Nat → WithTop K
  updatedNodes : List Nat

/--
`update_g_score_recursively` over the predecessor map, whose entries are those
of the listed vertices.  `none` stands for a recursion deeper than the fuel.
-/
def updateGScoreRecursively
    (cameFrom : Nat → Option Nat)
    (entries : List Nat) :
    Nat → Nat → WithTop K → ScoreUpdate K → Option (ScoreUpdate K)
  | 0, _, _, _ => none
  | fuel + 1, node, delta, scores =>
      entries.foldlM
        (fun scores successor =>
          if cameFrom successor = some node then
            updateGScoreRecursively cameFrom entries fuel successor delta
              { gScore :=
                  Function.update scores.gScore successor
                    (costSub (scores.gScore successor) delta)
                updatedNodes := successor :: scores.updatedNodes }
          else
            some scores)
        scores

/-- The better end of an edge comes first. -/
def orient
    (gScore : Nat → WithTop K)
    (u v : Nat) : Nat × Nat :=
  if gScore u ≤ gScore v then (u, v) else (v, u)

/-- Lower the key of an open edge at an updated node, once for each edge. -/
def refreshOpenEdge
    (progress : List (OpenSetEdge K) × List (Nat × Nat))
    (node neighbor : Nat) : List (OpenSetEdge K) × List (Nat × Nat) :=
  if state.cameFrom node = some neighbor then
    progress
  else if edgePair node neighbor ∈ progress.2 then
    progress
  else
    match state.edgeToHandle (edgePair node neighbor) with
    | none => (progress.1, edgePair node neighbor :: progress.2)
    | some handle =>
        let ends := orient state.gScore (min node neighbor) (max node neighbor)
        let newFScore := fScore request state ends.1 ends.2
        (progress.1.map (fun entry =>
            if entry.handle = handle ∧ newFScore < entry.fScore then
              { entry with fScore := newFScore }
            else
              entry),
          edgePair node neighbor :: progress.2)

/-- Update the keys of all open edges adjacent to updated nodes. -/
def refreshOpenEdges
    (updatedNodes : List Nat) : List (OpenSetEdge K) :=
  (updatedNodes.foldl
    (fun progress node =>
      (filteredTargets state.graph request.disabledVertices node).foldl
        (fun progress neighbor =>
          refreshOpenEdge request state progress node neighbor)
        progress)
    (state.openHeap, [])).1

/-- Relax the planned edge from `pre` to `suc`. -/
def relaxEdge
    (pre suc : Nat)
    (plannedCost : WithTop K) : Option (PlannerState K) :=
  let tentative := state.gScore pre + plannedCost
  if tentative < state.gScore suc then
    let cameFrom := Function.update state.cameFrom suc (some pre)
    let diff := costSub (state.gScore suc) tentative
    let entries := List.range state.graph.numVertices
    (updateGScoreRecursively cameFrom entries (entries.length + 1) suc diff
      { gScore := Function.update state.gScore suc tentative
        updatedNodes := [suc] }).map fun scores =>
      let improved : PlannerState K :=
        { state with
          gScore := scores.gScore
          cameFrom := cameFrom }
      { improved with
        openHeap := refreshOpenEdges request improved scores.updatedNodes }
  else
    some state

/-- Push the edge from `suc` to a neighbour unless it is closed or open. -/
def openNeighbor
    (pre suc : Nat)
    (state : PlannerState K)
    (neighbor : Nat) : PlannerState K :=
  if neighbor = pre then
    state
  else if edgePair suc neighbor ∈ state.closedSet then
    state
  else if (state.edgeToHandle (edgePair suc neighbor)).isSome then
    state
  else
    pushOpenEdge state suc neighbor (fScore request state suc neighbor)

/-- Push the edges at `suc` that are neither closed nor open. -/
def openNeighbors
    (pre suc : Nat) : PlannerState K :=
  (filteredTargets state.graph request.disabledVertices suc).foldl
    (openNeighbor request pre suc) state

/-- Lower the best score when the goal has been reached. -/
def updateBestScore
    (suc : Nat) : PlannerState K :=
  { state with
    bestScore :=
      if suc = request.goalVertex ∧ state.gScore suc < state.bestScore then
        state.gScore suc
      else
        state.bestScore }

/-- The part of an iteration after the popped edge has been planned. -/
def finishIteration
    (plannedCost : WithTop K) : Option (PlannerState K) :=
  let ends := orient state.gScore u v
  (relaxEdge request state ends.1 ends.2 plannedCost).map fun state =>
    openNeighbors request (updateBestScore request state ends.2)
      ends.1 ends.2

/-- The heap entry that the next iteration pops. -/
def topEntry
    (nonempty : state.openHeap ≠ []) : OpenSetEdge K :=
  request.heapOrder.top state.popped.length state.openHeap nonempty

/--
One iteration of the main loop on a nonempty heap.  `none` stands for an
endless recursion in the score update.
-/
def iteration
    (nonempty : state.openHeap ≠ []) : Option (PlannerState K) :=
  let entry := topEntry request state nonempty
  let popped := popOpenEdge state entry
  match filteredEdge? popped.graph request.disabledVertices entry.u entry.v with
  | none => some popped
  | some edge =>
      let result :=
        edgeResult request popped.graph popped.secondLevelCount
          entry.u entry.v edge.properties
      finishIteration request
        (planEdge request popped entry.u entry.v edge.properties)
        entry.u entry.v (storeResult result edge.properties).plannedCost

/--
The test at the end of an iteration.  An iteration that finds no edge skips it
with `continue`.
-/
def earlyTermination
    (state : PlannerState K) : Bool :=
  if nonempty : state.openHeap ≠ [] then
    decide (state.bestScore ≤ (topEntry request state nonempty).fScore)
  else
    false

/-- The main loop; `none` stands for more iterations than the fuel allows. -/
def mainLoop
    (request : PlanRequest K) :
    Nat → PlannerState K → Option (PlannerState K)
  | 0, _ => none
  | fuel + 1, state =>
      if nonempty : state.openHeap ≠ [] then
        let entry := topEntry request state nonempty
        (iteration request state nonempty).bind fun next =>
          if (filteredEdge? state.graph request.disabledVertices
                entry.u entry.v).isSome &&
              earlyTermination request next then
            some next
          else
            mainLoop request fuel next
      else
        some state

/-- Follow the predecessor map from a vertex, latest vertex first. -/
def followCameFrom
    (cameFrom : Nat → Option Nat) :
    Nat → Nat → Option (List Nat)
  | 0, _ => none
  | fuel + 1, current =>
      match cameFrom current with
      | none => some [current]
      | some predecessor =>
          (followCameFrom cameFrom fuel predecessor).map (current :: ·)

/-- The part of the detailed path that belongs to one edge of the coarse path. -/
structure PathSegment (K : Type) where
  waypoints : List (Coords K)
  distance : WithTop K
  cost : WithTop K

/--
The waypoints appended for the coarse edge from `u` to `v`: the stored path,
reversed unless the ids increase.  An edge without path is skipped.
-/
def pathSegment?
    (graph : TopologicalGraph K)
    (disabled : Finset Nat)
    (u v : Nat) : Option (PathSegment K) :=
  (filteredEdge? graph disabled u v).bind fun edge =>
    edge.properties.path.map fun path =>
      { waypoints :=
          if (graph.node u).id < (graph.node v).id then
            path
          else
            path.reverse
        distance := edge.properties.plannedDistance
        cost := edge.properties.plannedCost }

/-- Consecutive vertices of a path. -/
def coarseEdges
    (coarsePath : List Nat) : List (Nat × Nat) :=
  coarsePath.zip coarsePath.tail

/-- Build the result from the coarse path. -/
def buildResult
    (graph : TopologicalGraph K)
    (coarsePath : List Nat) : TopomapPlannerResult K :=
  let segments :=
    (coarseEdges coarsePath).filterMap fun ends =>
      pathSegment? graph request.disabledVertices ends.1 ends.2
  { coarsePath := coarsePath
    detailedPath := segments.flatMap PathSegment.waypoints
    totalDistance := (segments.map PathSegment.distance).sum
    totalCost := (segments.map PathSegment.cost).sum
    success := true }

/-- The result of a request without a path. -/
def noPath : TopomapPlannerResult K where
  coarsePath := []
  detailedPath := []
  totalDistance := ⊤
  totalCost := ⊤
  success := false

/-- What a request leaves behind: its result, the graph and the updates sent. -/
structure PlanOutcome (K : Type) where
  result : TopomapPlannerResult K
  graph : TopologicalGraph K
  updates : List (UpdateEdgeDataRequest K)

/-- More iterations than the main loop can make, see `mainLoop_terminates`. -/
def loopFuel
    (graph : TopologicalGraph K) : Nat :=
  (filteredTargets graph request.disabledVertices
      request.startVertex).length +
    graph.edges.length + 1

/-- The path reconstruction after the main loop. -/
def reconstruct
    (state : PlannerState K) : Option (PlanOutcome K) :=
  if state.bestScore < ⊤ then
    (followCameFrom state.cameFrom (state.graph.numVertices + 1)
      request.goalVertex).map fun reversedPath =>
      { result := buildResult request state.graph reversedPath.reverse
        graph := state.graph
        updates := state.updates }
  else
    some
      { result := noPath
        graph := state.graph
        updates := state.updates }

/--
`planTopomapPath`.  The result is `none` when a recursion or a loop of the
code would not end.
-/
def planTopomapPath
    (graph : TopologicalGraph K) : Option (PlanOutcome K) :=
  if request.startVertex ∈ request.disabledVertices ∨
      request.goalVertex ∈ request.disabledVertices then
    some { result := noPath, graph := graph, updates := [] }
  else
    (mainLoop request (loopFuel request graph)
      (initialState request graph)).bind (reconstruct request)

end Search

end NavBim
