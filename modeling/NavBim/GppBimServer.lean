import Mathlib
import NavBim.FloorRuns
import NavBim.FloorSmoothing
import NavBim.GraphPruningGoal
import NavBim.Numerals
import NavBim.PlanningSystem
import NavBim.TopomapPlannerRetry

namespace NavBim

/-!
# The planner server

`computePathToPose` answers one request.  It looks up the rooms of start and
goal, puts both poses into the graph for as long as the request lasts, and plans
either over the transitions of the map, with the room planner for every edge, or
with a single call of the room planner on the floor.

What happens outside of the server is given with the request: what the room
planner and the smoother reply, and whether the request is cancelled.  Clocks,
stamps, orientations and what is only logged or displayed are left out.
-/

attribute [local instance] atLeastTwo_2 atLeastTwo_5 atLeastTwo_10
  atLeastTwo_1000

/-- The action result of the room planner, or why there is none. -/
inductive RoomPlannerReply (K : Type) where
  | serverUnavailable
  | acceptTimeout
  | shutDown
  | rejected
  | resultTimeout
  | notSucceeded
  | noResult
  | answered
      (errorCode : Nat)
      (path : List (Coords K))
      (pathDistance pathCost : WithTop K)

/-- The parameters of the server. -/
structure GppBimServer (K : Type) where
  useTwoLevel : Bool
  pruneGraph : Bool
  pruningCostThreshold : K
  penalizeZMovement : K
  reusePaths : Bool
  enableFloorSmoothing : Bool

structure PathGoal (K : Type) where
  start : Coords K
  goal : Coords K
  useStart : Bool

/-- The ends of a path with their rooms. -/
structure Trip (K : Type) where
  startRoom : Nat
  goalRoom : Nat
  startCoords : Coords K
  goalCoords : Coords K

/-- `ComputePathToPose::Result`. -/
structure PathResult (K : Type) where
  errorCode : Nat
  errorMsg : String
  path : List (Coords K)
  nodeIds : List String
  floorNames : List String
  segmentStartIndices : List Nat
  segmentEndIndices : List Nat
  minClearance : K
  avgClearance : K

/-- How the action ends. -/
inductive PathAnswer (K : Type) where
  | terminated (result : Option (PathResult K))
  | succeeded (result : PathResult K)

/-- What happens outside of the server during a request.  The room planner is
called several times, and what it replies may be anything each time.  A call of
the smoother throws, or comes back with or without a response. -/
structure PathCircumstances (K : Type) [LinearOrder K] where
  topomapLoaded : Bool
  cancelRequested : Bool
  replies : Nat → RoomPlannerReply K
  smoothing :
    SmoothFloorsRequest (Coords K) →
      Except String (Option (SmoothFloorsResponse (Coords K)))
  heapOrder : HeapOrder K

/-- What a request leaves behind. -/
structure ServedPath (K : Type) where
  answer : PathAnswer K
  planner : TopologicalMap K
  updates : List (UpdateEdgeDataRequest K)

namespace RoomPlannerReply

variable {K : Type}

/-- The return value of `secondLevelPlanner`.  The height is that of the start,
as some planners work in the plane only. -/
def result
    (startCoords : Coords K) : RoomPlannerReply K → SecondLevelResult K
  | .answered errorCode path pathDistance pathCost =>
      if errorCode ≠ 0 then
        { path := none, distance := ⊤, cost := ⊤ }
      else
        { path := some (path.map fun pose =>
            (pose.1, pose.2.1, startCoords.2.2))
          distance := pathDistance
          cost := pathCost }
  | _ => { path := none, distance := ⊤, cost := ⊤ }

/-- The reply makes the server set `timeout_occurred_`. -/
def isTimeout : RoomPlannerReply K → Bool
  | .shutDown => false
  | .answered errorCode _ _ _ => errorCode == 209
  | _ => true

end RoomPlannerReply

namespace GppBimServer

section Rooms

variable
  {K : Type}
  [Field K] [LinearOrder K]

/-- The radii by which polygons are widened, one after the other. -/
def bufferRadii : List K :=
  (List.range 6).map fun step => (step : K) / 10

/-- The node is a room of the floor, and its widened polygon contains the
point. -/
def isRoomAround
    (within : Polygon K → K → K × K → Bool)
    (floorName : String)
    (point : K × K)
    (radius : K)
    (node : NodeProperties K) : Bool :=
  node.type == "room" &&
    match node.floor, node.polygon with
    | some floorList, some polygon =>
        floorList.contains floorName && within polygon radius point
    | _, _ => false

/-- `within` tells whether a polygon that is widened by a radius contains a
point. -/
def findRoomByCoordinates
    (within : Polygon K → K → K × K → Bool)
    (graph : TopologicalGraph K)
    (coords : Coords K) : Option Nat :=
  (findFloorByHeight graph coords.2.2).bind fun floor =>
    bufferRadii.findSome? fun radius =>
      (List.range graph.numVertices).find? fun vertex =>
        isRoomAround within (graph.node floor).name (coords.1, coords.2.1)
          radius (graph.node vertex)

variable [FloorRing K]

/-- `std::round`. -/
def round
    (value : K) : ℤ :=
  if 0 ≤ value then ⌊value + 1 / 2⌋ else ⌈value - 1 / 2⌉

/-- Coordinates in whole millimetres. -/
def roundedCoords
    (coords : Coords K) : Coords K :=
  ((round (coords.1 * 1000) : K) / 1000,
    (round (coords.2.1 * 1000) : K) / 1000,
    (round (coords.2.2 * 1000) : K) / 1000)

end Rooms

section Answers

variable
  {K : Type}
  [Field K]

/-- The result before anything is known. -/
def unknownResult : PathResult K where
  errorCode := 200
  errorMsg := ""
  path := []
  nodeIds := []
  floorNames := []
  segmentStartIndices := []
  segmentEndIndices := []
  minClearance := -1
  avgClearance := -1

/-- The request ends with an error. -/
def failed
    (errorCode : Nat)
    (errorMsg : String) : PathAnswer K :=
  .terminated (some { unknownResult with
    errorCode := errorCode
    errorMsg := errorMsg })

/-- The request ends with an exception, which leaves the rest of the result as
it is. -/
def threw
    (result : PathResult K)
    (what : String) : PathAnswer K :=
  .terminated (some { result with
    errorCode := 200
    errorMsg := "Exception: " ++ what })

/-- What the library says if a floor list is empty. -/
def rangeError : String :=
  "vector::_M_range_check: __n (which is 0) >= this->size() (which is 0)"

/-- The floor segments in the result. -/
def withSegments
    (result : PathResult K)
    (segments : List (FloorSegment K)) : PathResult K :=
  { result with
    floorNames := segments.map FloorSegment.floorName
    segmentStartIndices := segments.map FloorSegment.startIndex
    segmentEndIndices := segments.map FloorSegment.endIndex }

variable [LinearOrder K]

variable
  (server : GppBimServer K)
  (circumstances : PathCircumstances K)

/-- The path after it was smoothed floor by floor. -/
def smoothFloors
    (path : List (Coords K))
    (segments : List (FloorSegment K)) : Except String (List (Coords K)) :=
  if server.enableFloorSmoothing then
    let shifted := applySegmentShift segments path (1 / 5)
    if shifted.isEmpty then
      .ok path
    else
      match circumstances.smoothing
        { path := path
          floorNames := shifted.map FloorSegment.floorName
          segmentStartIndices := shifted.map FloorSegment.startIndex
          segmentEndIndices := shifted.map FloorSegment.endIndex } with
      | .error what => .error what
      | .ok none => .ok path
      | .ok (some response) =>
          .ok (if response.success then response.smoothedPath else path)
  else
    .ok path

/-- The answer to a request that was planned in the graph. -/
def answerPlan
    (graph : TopologicalGraph K)
    (plan : TopomapPlannerResult K)
    (timeoutOccurred : Bool) : PathAnswer K :=
  if plan.success then
    let result := { unknownResult with path := plan.detailedPath }
    match calculateFloorSegments plan.coarsePath graph plan.detailedPath with
    | none => threw result rangeError
    | some segments =>
        match smoothFloors server circumstances plan.detailedPath segments with
        | .error what => threw result what
        | .ok path =>
            .succeeded
              (withSegments
                { result with
                  errorCode := 0
                  path := path
                  nodeIds := plan.coarsePath.map fun vertex =>
                    idString (graph.node vertex).id }
                segments)
  else if timeoutOccurred then
    failed 207 "Timeout waiting for room planner"
  else
    failed 208 "No valid path found"

/-- Plan on the floor that start and goal share, with the first call of the room
planner. -/
def planOneLevel
    (materialized : MaterializedGraph K)
    (startFloor goalFloor : String)
    (startCoords : Coords K) : PathAnswer K :=
  if startFloor = "" ∨ goalFloor = "" then
    failed 208 "Start or goal room has no floor information"
  else if startFloor ≠ goalFloor then
    failed 208
      "Start and goal are on different floors (one-level planning only supports same-floor navigation)"
  else
    match ((circumstances.replies 0).result startCoords).path with
    | none => failed 208 "No valid path found using one-level planning"
    | some [] => failed 208 "One-level planning returned an empty path"
    | some (first :: rest) =>
        .succeeded
          { unknownResult with
            errorCode := 0
            path := first :: rest
            nodeIds :=
              [idString (materialized.graph.node materialized.startVertex).id,
                idString (materialized.graph.node materialized.goalVertex).id]
            floorNames := [startFloor]
            segmentStartIndices := [0]
            segmentEndIndices := [rest.length] }

variable [SquareRoot K]

/-- The calls of the room planner that a plan makes. -/
def secondLevelCalls
    (request : PlanRequest K)
    (graph : TopologicalGraph K) : Nat :=
  if request.startVertex ∈ request.disabledVertices ∨
      request.goalVertex ∈ request.disabledVertices then
    0
  else
    match mainLoop request (loopFuel request graph)
      (initialState request graph) with
    | none => 0
    | some final => final.secondLevelCount

/-- The vertices that a request prunes, none if the goal is near. -/
def prunedForRequest
    (topologicalMap : TopologicalMap K)
    (startRoom goalRoom : Nat)
    (materialized : MaterializedGraph K) : Finset Nat :=
  if server.pruneGraph ∧
      server.pruningCostThreshold ≤
        costBetweenNodes materialized.graph materialized.startVertex
          materialized.goalVertex server.penalizeZMovement then
    NavBim.pruneGraph materialized.graph topologicalMap.floorVertices
      (some startRoom) (some goalRoom)
  else
    ∅

/-- The arguments of `planTopomapPath`. -/
def planRequest
    (graph : TopologicalGraph K)
    (pruned : Finset Nat)
    (startVertex goalVertex : Nat) : PlanRequest K where
  startVertex := startVertex
  goalVertex := goalVertex
  secondLevelPlanner calls _ _ startCoords _ :=
    (circumstances.replies calls).result startCoords
  disabledVertices := disabledVertices graph pruned
  updateEdgeClient := true
  penalizeZMovement := server.penalizeZMovement
  reusePaths := server.reusePaths
  heapOrder := circumstances.heapOrder

/-- Plan over the transitions of the graph.  There is no result if the planner
does not end. -/
def planTwoLevel
    (graph : TopologicalGraph K)
    (pruned : Finset Nat) : Option (PathAnswer K × PlanOutcome K) :=
  match findStartAndGoal graph with
  | (some startVertex, some goalVertex) =>
      let request := server.planRequest circumstances graph pruned startVertex
        goalVertex
      (planTopomapPath request graph).map fun outcome =>
        (server.answerPlan circumstances outcome.graph outcome.result
            ((List.range (secondLevelCalls request graph)).any fun call =>
              (circumstances.replies call).isTimeout),
          outcome)
  | _ =>
      some (failed 208 "START or GOAL vertex not found",
        { result := noPath, graph := graph, updates := [] })

/-- The request with start and goal in the graph, which are removed again
whatever the answer is. -/
def planMaterialized
    (topologicalMap : TopologicalMap K)
    (trip : Trip K) : Option (ServedPath K) :=
  let materialized := materializeGraphInPlace topologicalMap.graph
    (createVirtualNodes topologicalMap trip.startRoom trip.goalRoom
      trip.startCoords trip.goalCoords server.penalizeZMovement)
  let restored (graph : TopologicalGraph K) : TopologicalMap K :=
    { topologicalMap with
      graph := destroyMaterialization { materialized with graph := graph } }
  if server.useTwoLevel then
    (server.planTwoLevel circumstances materialized.graph
        (server.prunedForRequest topologicalMap trip.startRoom trip.goalRoom
          materialized)).map fun planned =>
      { answer := planned.1
        planner := restored planned.2.graph
        updates := planned.2.updates }
  else
    some
      { answer := planOneLevel circumstances materialized
          (firstFloor (topologicalMap.graph.node trip.startRoom))
          (firstFloor (topologicalMap.graph.node trip.goalRoom))
          trip.startCoords
        planner := restored materialized.graph
        updates := [] }

variable [FloorRing K]

def computePathToPose
    (within : Polygon K → K → K × K → Bool)
    (topologicalMap : TopologicalMap K)
    (goal : PathGoal K)
    (circumstances : PathCircumstances K) : Option (ServedPath K) :=
  let answered (answer : PathAnswer K) : Option (ServedPath K) :=
    some { answer := answer, planner := topologicalMap, updates := [] }
  if !circumstances.topomapLoaded then
    answered (.terminated none)
  else if !goal.useStart then
    answered (failed 200 "use_start=False not supported")
  else if circumstances.cancelRequested then
    answered (failed 200 "Goal was canceled")
  else
    let startCoords := roundedCoords goal.start
    let goalCoords := roundedCoords goal.goal
    match findRoomByCoordinates within topologicalMap.graph startCoords with
    | none => answered (failed 208 "Start coordinates not in any room")
    | some startRoom =>
        match findRoomByCoordinates within topologicalMap.graph goalCoords with
        | none => answered (failed 208 "Goal coordinates not in any room")
        | some goalRoom =>
            server.planMaterialized circumstances topologicalMap
              ⟨startRoom, goalRoom, startCoords, goalCoords⟩

end Answers

end GppBimServer

end NavBim
