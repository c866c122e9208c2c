import Mathlib.Algebra.Order.Field.Basic
import Mathlib.Tactic

namespace NavBim

/-!
# The route tracker

The tracker follows a route of edges.  An index tells which edge the robot is
on: it is `-1` until the start node is achieved, and goes on to the next edge
each time a node is.  The node at the end of the present edge and the edge
behind it are read to decide whether a node is achieved, except at both ends of
the route.

A read that is not valid ends the tracking here with an error of its own.
Numbers are exact, with a function for square roots; the plugins that perform
the operations are a parameter of each iteration.
-/

namespace RouteTracker

structure Node (K : Type) where
  nodeid : UInt32
  x : K
  y : K
  deriving DecidableEq

/-- `DirectionalEdge` with the nodes it points to. -/
structure Edge (K : Type) where
  edgeid : UInt32
  startNode : Node K
  endNode : Node K
  deriving DecidableEq

structure Route (K : Type) where
  startNode : Node K
  edges : List (Edge K)

structure RouteTrackingState (K : Type) where
  lastNode : Option (Node K) := none
  nextNode : Option (Node K) := none
  currentEdge : Option (Edge K) := none
  routeEdgesIdx : ℤ := -1
  withinRadius : Bool := false

/-- What the tracker knows of and leaves for a reroute. -/
structure ReroutingState (K : Type) where
  blockedIds : List UInt32
  currEdge : Option (Edge K)
  reroutingStartId : UInt32
  reroutingStartPose : Option (K × K)

structure OperationsResult where
  operationsTriggered : List String
  reroute : Bool
  blockedIds : List UInt32

structure Feedback where
  rerouted : Bool
  nextNodeId : UInt32
  lastNodeId : UInt32
  edgeId : UInt32
  operations : List String

inductive TrackerResult where
  | exited
  | interrupted
  | completed
  deriving DecidableEq, Repr

/-- What ends the tracking without a result: a missing pose of the robot, an
operation that throws, or a read that is not valid. -/
inductive TrackError where
  | routeTF
  | operationFailed
  | nullNode
  | nullEdge
  | edgeIndex
  deriving DecidableEq, Repr

/-- The errors that stand for a read that is not valid. -/
def TrackError.invalidRead : TrackError → Bool
  | .routeTF => false
  | .operationFailed => false
  | .nullNode => true
  | .nullEdge => true
  | .edgeIndex => true

structure Parameters (K : Type) where
  radiusThreshold : K
  boundaryRadiusThreshold : K
  aggregateBlockedIds : Bool

/-- What one iteration finds: the state of the action server, the pose of the
robot, and what the operations do for a state and whether it changed. -/
structure IterationInput (K : Type) where
  ok : Bool
  cancelRequested : Bool
  preemptRequested : Bool
  robotPose : Option (K × K)
  operations : Bool → RouteTrackingState K → Option OperationsResult

/-- The tracking so far, with the edges that were entered. -/
structure TrackerRun (K : Type) where
  state : RouteTrackingState K
  reroutingInfo : ReroutingState K
  feedback : List Feedback
  entered : List (Edge K)

/-- An iteration ends the tracking, or goes on to the next one. -/
inductive Iteration (K : Type) where
  | leave (result : TrackerResult) (run : TrackerRun K)
  | next (run : TrackerRun K)

/-- The tracking after some iterations. -/
inductive Tracking (K : Type) where
  | running (run : TrackerRun K)
  | left (result : TrackerResult) (run : TrackerRun K)
  | failed (error : TrackError)

/-- The edge at an index. -/
def Route.edge?
    {K : Type}
    (route : Route K)
    (index : ℤ) : Option (Edge K) :=
  if index < 0 then none else route.edges[index.toNat]?

section Model

variable {K : Type}

/-- The robot is before the start node or on the last edge.  For a route without
edges the difference of the sizes wraps around to `-1`. -/
def isStartOrEndNode
    (state : RouteTrackingState K)
    (route : Route K) : Bool :=
  state.routeEdgesIdx = (route.edges.length : ℤ) - 1 ||
    (state.routeEdgesIdx = -1 && state.currentEdge.isNone)

/-- Go on to the next edge of the route, which is entered, or to its end. -/
def advance
    (route : Route K)
    (state : RouteTrackingState K) :
    Except TrackError (RouteTrackingState K × Option (Edge K)) :=
  let state := { state with
    withinRadius := false
    lastNode := state.nextNode
    routeEdgesIdx := state.routeEdgesIdx + 1 }
  if state.routeEdgesIdx < (route.edges.length : ℤ) then
    match route.edge? state.routeEdgesIdx with
    | none => .error .edgeIndex
    | some edge =>
        .ok ({ state with
          currentEdge := some edge
          nextNode := some edge.endNode }, some edge)
  else
    .ok ({ state with currentEdge := none, nextNode := none }, none)

variable
  [Field K] [LinearOrder K]
  (sqrt : K → K)
  (parameters : Parameters K)
  (route : Route K)
  (pose : K × K)

def normalizedDot
    (v1x v1y v2x v2y : K) : K :=
  let mag1 := sqrt (v1x * v1x + v1y * v1y)
  let mag2 := sqrt (v2x * v2x + v2y * v2y)
  if mag1 < 1 / 1000000 ∨ mag2 < 1 / 1000000 then
    0
  else
    v1x / mag1 * (v2x / mag2) + v1y / mag1 * (v2y / mag2)

/-- The robot has passed the line between two edges. -/
def passesBisector
    (lastNode nextNode futureNextNode : Node K)
    (dx dy : K) : Bool :=
  let nx := nextNode.x - lastNode.x
  let ny := nextNode.y - lastNode.y
  let nMag := sqrt (nx * nx + ny * ny)
  let mx := futureNextNode.x - nextNode.x
  let my := futureNextNode.y - nextNode.y
  let mMag := sqrt (mx * mx + my * my)
  if nMag < 1 / 1000000 ∨ mMag < 1 / 1000000 then
    true
  else
    let bx := nx * mMag + mx * nMag
    let by_ := ny * mMag + my * nMag
    normalizedDot sqrt bx by_ dx dy ≤ 0

def nodeAchieved
    (state : RouteTrackingState K) :
    Except TrackError (Bool × RouteTrackingState K) :=
  match state.nextNode with
  | none => .error .nullNode
  | some nextNode =>
      let dx := nextNode.x - pose.1
      let dy := nextNode.y - pose.2
      let distMag := sqrt (dx * dx + dy * dy)
      let isBoundaryNode := isStartOrEndNode state route
      let inRadius : Bool := distMag ≤
        if isBoundaryNode then parameters.boundaryRadiusThreshold
        else parameters.radiusThreshold
      if distMag < 1 / 10000 ∨ (!inRadius && state.withinRadius) then
        .ok (true, state)
      else
        let state := { state with withinRadius := inRadius }
        if isBoundaryNode then
          .ok (inRadius, state)
        else if inRadius then
          match state.currentEdge, route.edge? (state.routeEdgesIdx + 1) with
          | none, _ => .error .nullEdge
          | some _, none => .error .edgeIndex
          | some currentEdge, some futureEdge =>
              .ok (passesBisector sqrt currentEdge.startNode nextNode
                futureEdge.endNode dx dy, state)
        else
          .ok (false, state)

/-- The feedback for the node that is tracked and the edge the robot is on. -/
def edgeFeedback
    (statusChange : Bool)
    (operations : List String)
    (state : RouteTrackingState K) : Except TrackError (List Feedback) :=
  if statusChange || !operations.isEmpty then
    match state.currentEdge, state.nextNode, state.lastNode with
    | none, _, _ => .ok []
    | some edge, some nextNode, some lastNode =>
        .ok [⟨false, nextNode.nodeid, lastNode.nodeid, edge.edgeid, operations⟩]
    | some _, _, _ => .error .nullNode
  else
    .ok []

/-- What is left for the goal intent extractor when a reroute is asked for. -/
def rerouted
    (state : RouteTrackingState K)
    (blockedIds : List UInt32)
    (info : ReroutingState K) : ReroutingState K where
  blockedIds :=
    if parameters.aggregateBlockedIds then info.blockedIds ++ blockedIds
    else blockedIds
  currEdge := state.currentEdge
  reroutingStartId :=
    match state.lastNode with
    | some node => node.nodeid
    | none => 4294967295
  reroutingStartPose := state.lastNode.map fun _ => pose

/-- The part of an iteration after the state is updated. -/
def afterUpdate
    (statusChange completed : Bool)
    (result : OperationsResult)
    (run : TrackerRun K) : Except TrackError (Iteration K) :=
  if completed then
    match run.state.lastNode with
    | none => .error .nullNode
    | some lastNode =>
        .ok (.leave .completed { run with
          feedback := run.feedback ++
            [⟨false, 0, lastNode.nodeid, 0, result.operationsTriggered⟩] })
  else do
    let published ←
      edgeFeedback statusChange result.operationsTriggered run.state
    let run := { run with feedback := run.feedback ++ published }
    if result.reroute then
      .ok (.leave .interrupted { run with
        reroutingInfo := rerouted parameters pose run.state result.blockedIds
          run.reroutingInfo })
    else
      .ok (.next run)

/-- The state after a pose, whether it changed and whether the route is
completed. -/
def updateState
    (run : TrackerRun K) :
    Except TrackError (Bool × Bool × TrackerRun K) := do
  let (achieved, state) ← nodeAchieved sqrt parameters route pose run.state
  if achieved then
    let (state, edge) ← advance route state
    .ok (true, edge.isNone, { run with
      state
      entered := run.entered ++ edge.toList })
  else
    .ok (false, false, { run with state })

/-- One pass through the loop of `trackRoute`. -/
def iteration
    (input : IterationInput K)
    (run : TrackerRun K) : Except TrackError (Iteration K) :=
  if !input.ok then
    .ok (.leave .exited run)
  else if input.cancelRequested then
    .ok (.leave .interrupted run)
  else if input.preemptRequested then
    .ok (.leave .interrupted run)
  else
    match input.robotPose with
    | none => .error .routeTF
    | some pose => do
        let (statusChange, completed, run) ←
          updateState sqrt parameters route pose run
        match input.operations statusChange run.state with
        | none => .error .operationFailed
        | some result =>
            afterUpdate parameters pose statusChange completed result run

/-- The tracking before the loop: an edge carried over from a rerouting is the
present one. -/
def startTracking
    (reroutingInfo : ReroutingState K) : TrackerRun K where
  state := {
    nextNode := some route.startNode
    currentEdge := reroutingInfo.currEdge
    lastNode := reroutingInfo.currEdge.map Edge.startNode }
  reroutingInfo := reroutingInfo
  feedback :=
    match reroutingInfo.currEdge with
    | some edge =>
        [⟨true, route.startNode.nodeid, edge.startNode.nodeid, edge.edgeid, []⟩]
    | none => [⟨true, route.startNode.nodeid, 0, 0, []⟩]
  entered := []

/-- The loop, over what its iterations find. -/
def trackFrom :
    List (IterationInput K) → TrackerRun K → Tracking K
  | [], run => .running run
  | input :: inputs, run =>
      match iteration sqrt parameters route input run with
      | .error error => .failed error
      | .ok (.leave result run) => .left result run
      | .ok (.next run) => trackFrom inputs run

def trackRoute
    (reroutingInfo : ReroutingState K)
    (inputs : List (IterationInput K)) : Tracking K :=
  trackFrom sqrt parameters route inputs (startTracking route reroutingInfo)

end Model

/-! ## What an iteration keeps -/

/-- The node to reach at an index: the start node before the first edge. -/
def Route.nextNode?
    {K : Type}
    (route : Route K)
    (index : ℤ) : Option (Node K) :=
  if index < 0 then some route.startNode
  else (route.edge? index).map Edge.endNode

/-- The tracking stands at an edge of the route, or before the first one with
the edge that was carried over, and has entered the edges up to it in order. -/
structure Follows
    {K : Type}
    (route : Route K)
    (carried : Option (Edge K))
    (run : TrackerRun K) : Prop where
  indexFrom : -1 ≤ run.state.routeEdgesIdx
  indexTo : run.state.routeEdgesIdx < (route.edges.length : ℤ)
  nextIsSome : run.state.nextNode.isSome
  nextNode : run.state.nextNode = route.nextNode? run.state.routeEdgesIdx
  currentEdge : run.state.currentEdge =
    if run.state.routeEdgesIdx < 0 then carried
    else route.edge? run.state.routeEdgesIdx
  lastNode : run.state.currentEdge.isSome → run.state.lastNode.isSome
  entered : run.entered =
    route.edges.take (run.state.routeEdgesIdx + 1).toNat

/-- The index grew by at most one. -/
def Grew
    {K : Type}
    (before after : TrackerRun K) : Prop :=
  after.state.routeEdgesIdx = before.state.routeEdgesIdx ∨
    after.state.routeEdgesIdx = before.state.routeEdgesIdx + 1

/-- What an iteration from a run may do: every read is valid, the index grows by
at most one, and the tracking goes on following the route or has entered every
edge. -/
def Advances
    {K : Type}
    (route : Route K)
    (carried : Option (Edge K))
    (before : TrackerRun K) :
    Except TrackError (Iteration K) → Prop
  | .error error => error.invalidRead = false
  | .ok (.next after) => Follows route carried after ∧ Grew before after
  | .ok (.leave .completed after) =>
      after.entered = route.edges ∧ Grew before after
  | .ok (.leave _ after) => Follows route carried after ∧ Grew before after

section Steps

variable
  {K : Type}
  {route : Route K}
  {carried : Option (Edge K)}
  {run : TrackerRun K}

theorem Route.edge?_isSome
    (route : Route K)
    (index : ℤ)
    (from0 : 0 ≤ index)
    (inside : index < (route.edges.length : ℤ)) :
    ∃ edge, route.edge? index = some edge ∧
      route.edges[index.toNat]? = some edge := by
  have bound : index.toNat < route.edges.length := by omega
  refine ⟨route.edges[index.toNat], ?_, List.getElem?_eq_getElem bound⟩
  unfold Route.edge?
  rw [if_neg (by omega), List.getElem?_eq_getElem bound]

section

variable
  (follows : Follows route carried run)

include follows

theorem Follows.lookAhead
    (between : isStartOrEndNode run.state route = false) :
    run.state.currentEdge.isSome ∧
      ∃ edge, route.edge? (run.state.routeEdgesIdx + 1) = some edge := by
  have indexFrom := follows.indexFrom
  have indexTo := follows.indexTo
  simp only [isStartOrEndNode, Bool.or_eq_false_iff, decide_eq_false_iff_not,
    Bool.and_eq_false_iff, decide_eq_false_iff_not, Option.isNone_eq_false_iff]
    at between
  obtain ⟨notLast, notStart⟩ := between
  constructor
  · cases notStart with
    | inr carriedOver => exact carriedOver
    | inl started =>
        obtain ⟨edge, isEdge, -⟩ :=
          Route.edge?_isSome route run.state.routeEdgesIdx (by omega) indexTo
        rw [follows.currentEdge, if_neg (by omega), isEdge]
        rfl
  · obtain ⟨edge, isEdge, -⟩ :=
      Route.edge?_isSome route (run.state.routeEdgesIdx + 1)
        (by omega) (by omega)
    exact ⟨edge, isEdge⟩

/-- Whether the robot was near the node is not part of where it stands. -/
theorem Follows.withinRadius
    (within : Bool) :
    Follows route carried
      { run with state := { run.state with withinRadius := within } } :=
  ⟨follows.indexFrom, follows.indexTo, follows.nextIsSome, follows.nextNode,
    follows.currentEdge, follows.lastNode, follows.entered⟩

theorem Follows.advance :
    ∃ state edge, RouteTracker.advance route run.state = .ok (state, edge) ∧
      state.routeEdgesIdx = run.state.routeEdgesIdx + 1 ∧
      (edge.isSome → Follows route carried { run with
        state := state
        entered := run.entered ++ edge.toList }) ∧
      (edge = none → state.lastNode.isSome ∧ run.entered = route.edges) := by
  have indexFrom := follows.indexFrom
  have indexTo := follows.indexTo
  have entered := follows.entered
  unfold RouteTracker.advance
  dsimp only
  by_cases further : run.state.routeEdgesIdx + 1 < (route.edges.length : ℤ)
  · obtain ⟨edge, isEdge, inEdges⟩ :=
      Route.edge?_isSome route (run.state.routeEdgesIdx + 1)
        (by omega) further
    rw [if_pos further, isEdge]
    refine ⟨_, _, rfl, rfl, fun _ => ?_, nofun⟩
    constructor
    · dsimp only
      omega
    · exact further
    · rfl
    · dsimp only [Route.nextNode?]
      rw [if_neg (by omega), isEdge]
      rfl
    · dsimp only
      rw [if_neg (by omega), isEdge]
    · exact fun _ => follows.nextIsSome
    · dsimp only
      have nextCount : (run.state.routeEdgesIdx + 1 + 1).toNat =
          (run.state.routeEdgesIdx + 1).toNat + 1 := by
        omega
      rw [entered, nextCount, List.take_add_one, inEdges]
  · rw [if_neg further]
    refine ⟨_, _, rfl, rfl, nofun, fun _ => ⟨follows.nextIsSome, ?_⟩⟩
    rw [entered]
    apply List.take_of_length_le
    omega

theorem edgeFeedback_ok
    (statusChange : Bool)
    (operations : List String) :
    ∃ published,
      edgeFeedback statusChange operations run.state = .ok published := by
  have nextIsSome := follows.nextIsSome
  have lastNode := follows.lastNode
  unfold edgeFeedback
  split
  · cases current : run.state.currentEdge with
    | none => exact ⟨[], rfl⟩
    | some edge =>
        obtain ⟨nextNode, next⟩ := Option.isSome_iff_exists.mp nextIsSome
        obtain ⟨lastNode, last⟩ :=
          Option.isSome_iff_exists.mp (lastNode (by rw [current]; rfl))
        rw [next, last]
        exact ⟨_, rfl⟩
  · exact ⟨[], rfl⟩

end

variable (parameters : Parameters K)

theorem afterUpdate_advances
    (pose : K × K)
    {before : TrackerRun K}
    (statusChange completed : Bool)
    (result : OperationsResult)
    (grew : Grew before run)
    (follows : completed = false → Follows route carried run)
    (ended : completed = true →
      run.state.lastNode.isSome ∧ run.entered = route.edges) :
    Advances route carried before
      (afterUpdate parameters pose statusChange completed result run) := by
  unfold afterUpdate
  cases completed with
  | true =>
      obtain ⟨lastIsSome, entered⟩ := ended rfl
      obtain ⟨lastNode, last⟩ := Option.isSome_iff_exists.mp lastIsSome
      rw [if_pos rfl, last]
      exact ⟨entered, grew⟩
  | false =>
      have goesOn := follows rfl
      obtain ⟨published, isPublished⟩ :=
        edgeFeedback_ok goesOn statusChange result.operationsTriggered
      rw [if_neg (by simp), isPublished]
      simp only [Bind.bind, Except.bind]
      cases result.reroute with
      | true => exact ⟨⟨goesOn.1, goesOn.2, goesOn.3, goesOn.4, goesOn.5,
          goesOn.6, goesOn.7⟩, grew⟩
      | false => exact ⟨⟨goesOn.1, goesOn.2, goesOn.3, goesOn.4, goesOn.5,
          goesOn.6, goesOn.7⟩, grew⟩

theorem startTracking_follows
    (route : Route K)
    (reroutingInfo : ReroutingState K) :
    Follows route reroutingInfo.currEdge
      (startTracking route reroutingInfo) := by
  constructor
  · exact le_refl (-1)
  · dsimp only [startTracking]
    omega
  · rfl
  · rfl
  · rfl
  · exact fun current => by simpa [startTracking] using current
  · rfl

variable
  [Field K] [LinearOrder K]
  (sqrt : K → K)

theorem nodeAchieved_ok
    (pose : K × K)
    (follows : Follows route carried run) :
    ∃ achieved within,
      nodeAchieved sqrt parameters route pose run.state =
        .ok (achieved, { run.state with withinRadius := within }) := by
  obtain ⟨⟨lastNode, nextNode, currentEdge, index, withinBefore⟩, info,
    feedback, entered⟩ := run
  obtain ⟨node, rfl⟩ := Option.isSome_iff_exists.mp follows.nextIsSome
  have lookAhead := follows.lookAhead
  unfold nodeAchieved
  dsimp only at lookAhead ⊢
  cases atEnd : isStartOrEndNode
      ⟨lastNode, some node, currentEdge, index, withinBefore⟩ route with
  | true =>
      simp only [if_true]
      split
      · exact ⟨true, withinBefore, rfl⟩
      · exact ⟨_, _, rfl⟩
  | false =>
      -- The look-ahead is read only away from both ends of the route.
      obtain ⟨currentIsSome, futureEdge, future⟩ := lookAhead atEnd
      obtain ⟨edge, rfl⟩ := Option.isSome_iff_exists.mp currentIsSome
      simp only [future, Bool.false_eq_true, if_false]
      split
      · exact ⟨true, withinBefore, rfl⟩
      · split
        · exact ⟨_, _, rfl⟩
        · exact ⟨_, _, rfl⟩

theorem updateState_ok
    (pose : K × K)
    (follows : Follows route carried run) :
    ∃ statusChange completed after,
      updateState sqrt parameters route pose run =
        .ok (statusChange, completed, after) ∧
      Grew run after ∧
      (completed = false → Follows route carried after) ∧
      (completed = true →
        after.state.lastNode.isSome ∧ after.entered = route.edges) := by
  obtain ⟨achieved, within, result⟩ :=
    nodeAchieved_ok parameters sqrt pose follows
  have stays := follows.withinRadius within
  unfold updateState
  rw [result]
  cases achieved with
  | false =>
      exact ⟨_, _, _, rfl, Or.inl rfl, fun _ => stays, nofun⟩
  | true =>
      obtain ⟨state, edge, advanced, grown, goesOn, ends⟩ := stays.advance
      simp only [Bind.bind, Except.bind, if_true, advanced]
      refine ⟨_, _, _, rfl, Or.inr grown, fun further => ?_, fun ended => ?_⟩
      · apply goesOn
        simpa using further
      · have noEdge : edge = none := by simpa using ended
        have atEnd := ends noEdge
        subst noEdge
        exact ⟨atEnd.1, by simpa using atEnd.2⟩

theorem iteration_advances
    (input : IterationInput K)
    (follows : Follows route carried run) :
    Advances route carried run
      (iteration sqrt parameters route input run) := by
  unfold iteration
  split
  · exact ⟨follows, Or.inl rfl⟩
  · split
    · exact ⟨follows, Or.inl rfl⟩
    · split
      · exact ⟨follows, Or.inl rfl⟩
      · cases input.robotPose with
        | none => rfl
        | some pose =>
            obtain ⟨statusChange, completed, after, updated, grew, goesOn,
              ends⟩ := updateState_ok parameters sqrt pose follows
            simp only [updated, Bind.bind, Except.bind]
            cases input.operations statusChange after.state with
            | none => rfl
            | some result =>
                exact afterUpdate_advances parameters pose statusChange
                  completed result grew goesOn ends

/-- What the tracking may be after any iterations. -/
def Tracked
    (route : Route K)
    (carried : Option (Edge K)) : Tracking K → Prop
  | .running run =>
      Follows route carried run ∧
        ∀ input, Advances route carried run
          (iteration sqrt parameters route input run)
  | .left result run => result = .completed → run.entered = route.edges
  | .failed error => error.invalidRead = false

theorem trackFrom_tracked
    (inputs : List (IterationInput K))
    (follows : Follows route carried run) :
    Tracked parameters sqrt route carried
      (trackFrom sqrt parameters route inputs run) := by
  induction inputs generalizing run with
  | nil =>
      exact ⟨follows,
        fun input => iteration_advances parameters sqrt input follows⟩
  | cons input inputs inductionHypothesis =>
      have advances := iteration_advances parameters sqrt input follows
      unfold trackFrom
      cases isIteration : iteration sqrt parameters route input run with
      | error error =>
          rw [isIteration] at advances
          exact advances
      | ok reached =>
          rw [isIteration] at advances
          cases reached with
          | leave result after =>
              rintro rfl
              exact advances.1
          | next after => exact inductionHypothesis advances.1

/-- Route tracking follows the route edge by edge, whatever its iterations
find. -/
theorem trackRoute_tracked
    (route : Route K)
    (reroutingInfo : ReroutingState K)
    (inputs : List (IterationInput K)) :
    Tracked parameters sqrt route reroutingInfo.currEdge
      (trackRoute sqrt parameters route reroutingInfo inputs) :=
  trackFrom_tracked parameters sqrt inputs
    (startTracking_follows route reroutingInfo)

end Steps

end RouteTracker

end NavBim
