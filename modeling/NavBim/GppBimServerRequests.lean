import Mathlib
import NavBim.GppBimServer
import NavBim.TopomapPlannerExact
import NavBim.TopomapPlannerGraph

namespace NavBim

/-!
# Requests to the planner server

Every request ends with an answer, whatever the room planner and the smoother
reply, and leaves a map behind that differs in the data of plans only.  A request
that succeeds leads from start to goal over transitions, and its segments are
part of its path.
-/

open ParentForest

section Ways

variable
  {K : Type}
  [Field K] [LinearOrder K] [SquareRoot K]
  {request : PlanRequest K}
  {graph : TopologicalGraph K}
  {state : PlannerState K}

/-- A way from start to goal in the filtered graph without repeated vertices. -/
structure IsWay
    (request : PlanRequest K)
    (graph : TopologicalGraph K)
    (coarsePath : List Nat) : Prop where
  first : coarsePath.head? = some request.startVertex
  last : coarsePath.getLast? = some request.goalVertex
  edges : coarsePath.IsChain (EnabledEdge request graph)
  enabled : ∀ vertex ∈ coarsePath, vertex ∉ request.disabledVertices
  distinct : coarsePath.Nodup

theorem below_of_chain
    {cameFrom : Nat → Option Nat}
    {path : List Nat}
    {vertex top : Nat}
    (chain : path.IsChain fun lower upper => cameFrom lower = some upper)
    (first : path.head? = some vertex)
    (last : path.getLast? = some top) :
    Below cameFrom top vertex := by
  induction path generalizing vertex with
  | nil =>
      cases first
  | cons head rest inductionHypothesis =>
      have isHead : head = vertex := by simpa using first
      subst isHead
      cases rest with
      | nil =>
          have isTop : head = top := by simpa using last
          rw [isTop]
          exact .refl
      | cons above higher =>
          rw [List.isChain_cons_cons] at chain
          rw [List.getLast?_cons_cons] at last
          exact (inductionHypothesis chain.2 rfl last).tail chain.1

omit [Field K] [SquareRoot K] in
theorem enabled_of_chain
    {path : List Nat}
    (chain : path.IsChain (EnabledEdge request graph))
    (first : ∀ vertex, path.head? = some vertex →
      vertex ∉ request.disabledVertices) :
    ∀ vertex ∈ path, vertex ∉ request.disabledVertices := by
  induction path with
  | nil =>
      intro vertex member
      cases member
  | cons head rest inductionHypothesis =>
      rw [List.forall_mem_cons]
      refine ⟨first head rfl, inductionHypothesis chain.tail ?_⟩
      intro next isNext
      cases rest with
      | nil =>
          cases isNext
      | cons second later =>
          have isSecond : second = next := by simpa using isNext
          rw [← isSecond]
          exact (enabled_of_filteredEdge
            (List.isChain_cons_cons.mp chain).1).2.2

omit [SquareRoot K] in
theorem FollowsPredecessors.isWay
    {path : List Nat}
    (follows : FollowsPredecessors state.cameFrom request.goalVertex path)
    (tree : ScoreTree request state)
    (hangs : Below state.cameFrom request.startVertex request.goalVertex)
    (startEnabled : request.startVertex ∉ request.disabledVertices) :
    IsWay request state.graph path.reverse := by
  have notEmpty : path ≠ [] := by
    intro isEmpty
    have head := follows.head
    rw [isEmpty] at head
    cases head
  obtain ⟨top, isTop⟩ : ∃ top, path.getLast? = some top :=
    ⟨_, List.getLast?_eq_some_getLast notEmpty⟩
  have isRoot : state.cameFrom top = none := follows.last isTop
  have topIsStart : top = request.startVertex := by
    cases below_total (below_of_chain follows.chain follows.head isTop)
      hangs with
    | inl above =>
        rcases Relation.ReflTransGen.cases_tail above with same | ⟨_, -, last⟩
        · exact same.symm
        · unfold Step at last
          rw [tree.rooted.rootFree] at last
          cases last
    | inr above =>
        rcases Relation.ReflTransGen.cases_tail above with same | ⟨_, -, last⟩
        · exact same
        · unfold Step at last
          rw [isRoot] at last
          cases last
  have first : path.reverse.head? = some request.startVertex := by
    rw [List.head?_reverse, isTop, topIsStart]
  have edges : path.reverse.IsChain (EnabledEdge request state.graph) := by
    rw [List.isChain_reverse]
    exact follows.chain.imp fun _ _ link => tree.link_edge link
  refine ⟨first, ?_, edges, enabled_of_chain edges ?_, ?_⟩
  · rw [List.getLast?_reverse, follows.head]
  · intro vertex isFirst
    rw [first, Option.some_inj] at isFirst
    rw [← isFirst]
    exact startEnabled
  · rw [List.nodup_reverse]
    have strict : path.IsChain fun lower upper =>
        StrictlyBelow state.cameFrom upper lower :=
      follows.chain.imp fun _ _ link => Relation.TransGen.single link
    have transitive : IsTrans Nat fun lower upper =>
        StrictlyBelow state.cameFrom upper lower :=
      ⟨fun _ _ _ first second => second.trans first⟩
    refine strict.pairwise.imp ?_
    intro lower upper below same
    rw [same] at below
    exact tree.rooted.acyclic upper below

theorem planTopomapPath_way
    [IsStrictOrderedRing K]
    (costs : NonnegativeCosts request graph) :
    ∃ outcome,
      planTopomapPath request graph = some outcome ∧
        (outcome.result.success = true →
          IsWay request outcome.graph outcome.result.coarsePath) := by
  by_cases hidden :
      request.startVertex ∈ request.disabledVertices ∨
        request.goalVertex ∈ request.disabledVertices
  · refine ⟨_, by rw [planTopomapPath, if_pos hidden], ?_⟩
    intro success
    cases success
  · obtain ⟨final, loop, invariant, -, -⟩ :=
      mainLoop_terminates (motive := fun _ => True) costs trivial
        fun _ _ _ _ => trivial
    obtain ⟨outcome, reconstructed⟩ := invariant.reconstruct_exists
    refine ⟨outcome, ?_, ?_⟩
    · rw [planTopomapPath, if_neg hidden, loop]
      exact reconstructed
    · intro success
      rw [not_or] at hidden
      have finite := (reconstruct_success reconstructed).mp success
      have hangs := invariant.tree.reached (invariant.best_goal finite) hidden.2
        (ne_top_of_le_ne_top finite invariant.best_ge)
      obtain ⟨path, isPath, follows⟩ :=
        followCameFrom_exists invariant.tree.rooted
          (fun link =>
            (enabled_of_filteredEdge (invariant.tree.link_edge link)).1.1)
          request.goalVertex
      unfold reconstruct at reconstructed
      rw [if_pos (lt_top_iff_ne_top.mpr finite), isPath] at reconstructed
      rw [← Option.some.inj reconstructed]
      exact follows.isWay invariant.tree hangs hidden.1

end Ways

/-! ## Maps that differ in the data of plans -/

section Replanned

variable {K : Type}

/-- The properties differ in the data of plans only. -/
def SameRoute
    (old new : EdgeProperties K) : Prop :=
  ∃ plannedDistance plannedCost path, new =
    { old with
      plannedDistance := plannedDistance
      plannedCost := plannedCost
      path := path }

/-- Two graphs that differ in the data of plans only. -/
structure Replanned
    (before after : TopologicalGraph K) : Prop where
  vertices : after.vertices = before.vertices
  edges : EdgesRelated SameRoute before after

theorem sameRoute_refl
    (props : EdgeProperties K) :
    SameRoute props props :=
  ⟨props.plannedDistance, props.plannedCost, props.path, rfl⟩

theorem SameRoute.trans
    {first second third : EdgeProperties K}
    (old : SameRoute first second)
    (new : SameRoute second third) :
    SameRoute first third := by
  obtain ⟨_, _, _, rfl⟩ := old
  obtain ⟨distance, cost, path, rfl⟩ := new
  exact ⟨distance, cost, path, rfl⟩

namespace Replanned

variable {before after latest : TopologicalGraph K}

theorem refl
    (graph : TopologicalGraph K) :
    Replanned graph graph :=
  ⟨rfl, .refl fun edge _ => sameRoute_refl edge.properties⟩

theorem trans
    (first : Replanned before after)
    (second : Replanned after latest) :
    Replanned before latest :=
  ⟨second.vertices.trans first.vertices,
    first.edges.trans SameRoute.trans second.edges⟩

/-- What does not depend on plans is the same for all edges. -/
theorem edges_map_eq
    {α : Type}
    (replanned : Replanned before after)
    (read : StoredEdge K → α)
    (same : ∀ old new : StoredEdge K,
      new.source = old.source ∧ new.target = old.target ∧
        SameRoute old.properties new.properties → read old = read new) :
    before.edges.map read = after.edges.map read := by
  have pairs : List.Forall₂ Eq (before.edges.map read)
      (after.edges.map read) := by
    rw [List.forall₂_map_left_iff, List.forall₂_map_right_iff]
    exact replanned.edges.imp same
  rwa [List.forall₂_eq_eq_eq] at pairs

theorem sameShape
    (replanned : Replanned before after) :
    SameShape before after := by
  refine ⟨replanned.vertices, (replanned.edges_map_eq _ ?_).symm⟩
  rintro old new ⟨isSource, isTarget, -⟩
  rw [isSource, isTarget]

/-- The caches of the map stay what they are. -/
theorem ofGraph_eq
    (replanned : Replanned before after) :
    { TopologicalMap.ofGraph before with graph := after } =
      TopologicalMap.ofGraph after := by
  have ids := replanned.edges_map_eq (fun edge => edge.properties.id) (by
    rintro old new ⟨-, -, _, _, _, isNew⟩
    rw [isNew])
  simp only [TopologicalMap.ofGraph, TopologicalMap.buildLookupMaps,
    TopologicalMap.floorVerticesOf, replanned.vertices, ids]

theorem namesFree
    (replanned : Replanned before after)
    (names : NamesFree before) :
    NamesFree after := by
  unfold NamesFree at names ⊢
  rw [replanned.vertices]
  exact names

end Replanned

end Replanned

namespace GppBimServer

/-! ## One request -/

section Requests

variable
  {K : Type}
  [Field K] [LinearOrder K]

/-- What the room planner finds has a finite cost that is not negative. -/
def FiniteReplies
    (circumstances : PathCircumstances K) : Prop :=
  ∀ call startCoords,
    ((circumstances.replies call).result startCoords).path.isSome = true →
      0 ≤ ((circumstances.replies call).result startCoords).cost ∧
        ((circumstances.replies call).result startCoords).cost ≠ ⊤

variable
  {server : GppBimServer K}
  {circumstances : PathCircumstances K}
  {graph : TopologicalGraph K}
  {trip : Trip K}

omit [Field K] [LinearOrder K] in
/-- What is stored keeps the route. -/
theorem sameRoute_storeResult
    (result : SecondLevelResult K)
    (edge : EdgeProperties K) :
    SameRoute edge (storeResult result edge) := by
  unfold storeResult
  split
  · exact ⟨_, _, _, rfl⟩
  · exact ⟨_, _, _, rfl⟩

theorem isPlace_of_findRoomByCoordinates
    {within : Polygon K → K → K × K → Bool}
    {coords : Coords K}
    {room : Nat}
    (found : findRoomByCoordinates within graph coords = some room) :
    IsPlace graph room := by
  unfold findRoomByCoordinates at found
  obtain ⟨floor, -, isRoom⟩ := Option.bind_eq_some_iff.mp found
  obtain ⟨radius, -, isHere⟩ := List.exists_of_findSome?_eq_some isRoom
  have around := List.find?_some isHere
  rw [isRoomAround, Bool.and_eq_true, beq_iff_eq] at around
  rw [IsPlace, isPlace, around.1]
  rfl

variable [SquareRoot K]

/-- The graph while a request is answered. -/
abbrev materialized
    (server : GppBimServer K)
    (graph : TopologicalGraph K)
    (trip : Trip K) : MaterializedGraph K :=
  requestGraph graph trip.startRoom trip.goalRoom trip.startCoords
    trip.goalCoords server.penalizeZMovement

/-- The map after the graph of a request was planned on. -/
def restoredGraph
    (server : GppBimServer K)
    (graph : TopologicalGraph K)
    (trip : Trip K)
    (after : TopologicalGraph K) : TopologicalGraph K :=
  destroyMaterialization { server.materialized graph trip with graph := after }

/-- The arguments of `planTopomapPath` for a request. -/
def roomRequest
    (server : GppBimServer K)
    (circumstances : PathCircumstances K)
    (graph : TopologicalGraph K)
    (trip : Trip K) : PlanRequest K :=
  server.planRequest circumstances (server.materialized graph trip).graph
    (server.prunedForRequest (TopologicalMap.ofGraph graph) trip.startRoom
      trip.goalRoom (server.materialized graph trip))
    graph.numVertices (graph.numVertices + 1)

/-- A call of the room planner for the request timed out. -/
def timeoutOccurred
    (server : GppBimServer K)
    (circumstances : PathCircumstances K)
    (graph : TopologicalGraph K)
    (trip : Trip K) : Bool :=
  (List.range
    (secondLevelCalls (server.roomRequest circumstances graph trip)
      (server.materialized graph trip).graph)).any fun call =>
    (circumstances.replies call).isTimeout

/-- Both rooms are vertices of a map without virtual nodes. -/
structure Fits
    (graph : TopologicalGraph K)
    (trip : Trip K) : Prop where
  namesFree : NamesFree graph
  start : IsPlace graph trip.startRoom
  goal : IsPlace graph trip.goalRoom

/-- What is known of the plan of a request. -/
structure Planned
    (server : GppBimServer K)
    (circumstances : PathCircumstances K)
    (graph : TopologicalGraph K)
    (trip : Trip K)
    (outcome : PlanOutcome K) : Prop where
  run :
    planTopomapPath (server.roomRequest circumstances graph trip)
      (server.materialized graph trip).graph = some outcome
  shape : SameShape (server.materialized graph trip).graph outcome.graph
  replanned : Replanned graph (server.restoredGraph graph trip outcome.graph)
  wellPlanned : WellPlanned (server.restoredGraph graph trip outcome.graph)
  way : outcome.result.success = true →
    IsWay (server.roomRequest circumstances graph trip) outcome.graph
      outcome.result.coarsePath

theorem wellPlanned_materialized
    (server : GppBimServer K)
    (fits : Fits graph trip)
    (planned : WellPlanned graph) :
    WellPlanned (server.materialized graph trip).graph := by
  obtain ⟨-, -, -, edges⟩ := requestGraph_spec trip.startCoords trip.goalCoords
    server.penalizeZMovement fits.namesFree fits.start.lt fits.goal.lt
  intro edge member long
  rw [edges] at member
  cases List.mem_append.mp member with
  | inl old => exact planned edge old long
  | inr new =>
      obtain ⟨vedge, isVirtual, isEdge⟩ := List.mem_map.mp new
      subst isEdge
      have noPath : vedge.properties.path = none :=
        createVirtualNodes_path isVirtual
      simp [noPath] at long

omit [LinearOrder K] in
theorem restoredGraph_of_sameShape
    (fits : Fits graph trip)
    {after : TopologicalGraph K}
    (shape : SameShape (server.materialized graph trip).graph after) :
    (server.restoredGraph graph trip after).vertices = graph.vertices ∧
      (server.restoredGraph graph trip after).edges =
        after.edges.take graph.edges.length := by
  have fit := createVirtualNodes_fit (TopologicalMap.ofGraph graph)
    trip.startCoords trip.goalCoords server.penalizeZMovement fits.start.lt
    fits.goal.lt
  refine destroy_of_sameShape fit (fun vertex inGraph => ?_) shape
  have free := fits.namesFree (graph.node vertex) (by
    rw [TopologicalGraph.node, List.getD_eq_getElem _ _ inGraph]
    exact List.getElem_mem _)
  simp [isStale, free]

/-- The map after the virtual nodes are removed from a graph that was planned
on. -/
theorem replanned_restored
    (fits : Fits graph trip)
    {after : TopologicalGraph K}
    (replanned : Replanned (server.materialized graph trip).graph after)
    (planned : WellPlanned after) :
    Replanned graph (server.restoredGraph graph trip after) ∧
      WellPlanned (server.restoredGraph graph trip after) := by
  obtain ⟨vertices, restored⟩ :=
    restoredGraph_of_sameShape fits replanned.sameShape
  obtain ⟨-, -, -, isEdges⟩ := requestGraph_spec trip.startCoords
    trip.goalCoords server.penalizeZMovement fits.namesFree fits.start.lt
    fits.goal.lt
  refine ⟨⟨vertices, ?_⟩, ?_⟩
  · have taken := List.forall₂_take graph.edges.length replanned.edges
    rw [isEdges, List.take_left' rfl, ← restored] at taken
    exact taken
  · intro edge member
    rw [restored] at member
    exact planned edge (List.mem_of_mem_take member)

variable [IsStrictOrderedRing K]

variable (server) in
/-- The plan of a request ends and keeps the map. -/
theorem exists_planned
    (fits : Fits graph trip)
    (wellPlanned : WellPlanned graph)
    (finite : FiniteReplies circumstances) :
    ∃ outcome, Planned server circumstances graph trip outcome := by
  have finiteWhenFound : FiniteWhenFound
      (server.roomRequest circumstances graph trip) :=
    fun calls _ _ first _ found => finite calls first found
  have wellPlannedRequest := wellPlanned_materialized server fits wellPlanned
  obtain ⟨outcome, run, way⟩ := planTopomapPath_way
    (wellPlannedRequest.nonnegativeCosts finiteWhenFound)
  obtain ⟨shape, edges, -⟩ := planTopomapPath_keeps SameRoute
    (fun edge _ => sameRoute_refl edge.properties)
    (fun _ _ _ _ _ _ related => related.trans (sameRoute_storeResult _ _)) run
  obtain ⟨replanned, restored⟩ := replanned_restored fits
    ⟨shape.vertices, edges⟩
    (wellPlannedRequest.after_request finiteWhenFound run)
  exact ⟨outcome, run, shape, replanned, restored, way⟩

omit [IsStrictOrderedRing K] in
theorem planMaterialized_twoLevel
    (fits : Fits graph trip)
    (twoLevel : server.useTwoLevel = true)
    {outcome : PlanOutcome K}
    (planned : Planned server circumstances graph trip outcome) :
    server.planMaterialized circumstances (TopologicalMap.ofGraph graph) trip =
      some
        { answer := server.answerPlan circumstances outcome.graph outcome.result
            (server.timeoutOccurred circumstances graph trip)
          planner := TopologicalMap.ofGraph
            (server.restoredGraph graph trip outcome.graph)
          updates := outcome.updates } := by
  have found := findStartAndGoal_requestGraph trip.startCoords trip.goalCoords
    server.penalizeZMovement fits.namesFree fits.start fits.goal
  have isPlan : server.planTwoLevel circumstances
      (server.materialized graph trip).graph
      (server.prunedForRequest (TopologicalMap.ofGraph graph) trip.startRoom
        trip.goalRoom (server.materialized graph trip)) =
      some (server.answerPlan circumstances outcome.graph outcome.result
        (server.timeoutOccurred circumstances graph trip), outcome) := by
    rw [planTwoLevel, found]
    show (planTopomapPath (server.roomRequest circumstances graph trip) _).map
      _ = _
    rw [planned.run]
    rfl
  unfold planMaterialized
  rw [if_pos twoLevel]
  refine (congrArg (Option.map _) isPlan).trans ?_
  rw [Option.map_some, ← planned.replanned.ofGraph_eq]
  rfl

variable (server circumstances) in
omit [IsStrictOrderedRing K] in
theorem planMaterialized_oneLevel
    (fits : Fits graph trip)
    (wellPlanned : WellPlanned graph)
    (oneLevel : server.useTwoLevel = false) :
    ∃ after,
      server.planMaterialized circumstances (TopologicalMap.ofGraph graph)
          trip =
        some
          { answer := planOneLevel circumstances
              (server.materialized graph trip)
              (firstFloor (graph.node trip.startRoom))
              (firstFloor (graph.node trip.goalRoom)) trip.startCoords
            planner := TopologicalMap.ofGraph after
            updates := [] } ∧
        Replanned graph after ∧
        WellPlanned after := by
  obtain ⟨replanned, restored⟩ := replanned_restored fits (.refl _)
    (wellPlanned_materialized server fits wellPlanned)
  refine ⟨_, ?_, replanned, restored⟩
  unfold planMaterialized
  rw [oneLevel, if_neg Bool.false_ne_true, ← replanned.ofGraph_eq]
  rfl

end Requests

/-! ## Answers -/

section Answers

variable
  {K : Type}
  [Field K] [LinearOrder K]
  {server : GppBimServer K}
  {circumstances : PathCircumstances K}
  {graph : TopologicalGraph K}
  {path : List (Coords K)}
  {segments : List (FloorSegment K)}

/-- The responses of the smoother are those of the room planner server. -/
def SmoothsFloors
    (circumstances : PathCircumstances K) : Prop :=
  ∀ request response,
    circumstances.smoothing request = .ok (some response) →
      ∃ smoother, PreservesEnds smoother ∧
        response = smoothPathWithFloorCostmaps smoother request

/-- A result without error whose segments are parts of its path. -/
structure WellFormedResult
    (result : PathResult K) : Prop where
  noError : result.errorCode = 0
  starts : result.segmentStartIndices.length = result.floorNames.length
  ends : result.segmentEndIndices.length = result.floorNames.length
  startsInside : ∀ index ∈ result.segmentStartIndices,
    index < result.path.length
  endsInside : ∀ index ∈ result.segmentEndIndices, index < result.path.length

/-- The nodes are those of a way from start to goal, over transitions of the
graph. -/
def LeadsToGoal
    (materialized : MaterializedGraph K)
    (nodeIds : List String) : Prop :=
  ∃ way : List Nat,
    nodeIds = way.map (fun vertex =>
        idString (materialized.graph.node vertex).id) ∧
      way.head? = some materialized.startVertex ∧
      way.getLast? = some materialized.goalVertex ∧
      way.IsChain materialized.graph.Adjacent ∧
      way.Nodup ∧
      ∀ vertex ∈ way, ¬IsFloor materialized.graph vertex ∧
        ¬IsPlace materialized.graph vertex

theorem findClosestIndex_lt
    (notEmpty : path ≠ [])
    (coords : Coords K) :
    findClosestIndex path coords < path.length := by
  refine List.foldlRecOn (motive := fun closest : WithTop K × Nat =>
    closest.2 < path.length) _ _ (List.length_pos_iff.mpr notEmpty) ?_
  intro closest isInside waypoint member
  have isWaypoint := List.mem_zipIdx_iff_getElem?.mp member
  unfold closestStep
  dsimp only
  split
  · exact (List.getElem?_eq_some_iff.mp isWaypoint).1
  · exact isInside

theorem calculateFloorSegments_inside
    {coarsePath : List Nat}
    (isResult : calculateFloorSegments coarsePath graph path = some segments)
    {segment : FloorSegment K}
    (member : segment ∈ segments) :
    segment.startIndex < path.length ∧ segment.endIndex < path.length := by
  unfold calculateFloorSegments at isResult
  split at isResult
  · cases isResult
    cases member
  · next notEmpty =>
      rw [not_or] at notEmpty
      obtain ⟨scan, -, isSegments⟩ := Option.map_eq_some_iff.mp isResult
      rw [← isSegments, fillIndices, List.mem_mapIdx] at member
      obtain ⟨index, inside, isSegment⟩ := member
      rw [← isSegment]
      refine ⟨findClosestIndex_lt notEmpty.2 _, ?_⟩
      dsimp only
      split
      · exact Nat.sub_lt (List.length_pos_iff.mpr notEmpty.2) Nat.one_pos
      · exact findClosestIndex_lt notEmpty.2 _

/-- Smoothing keeps the number of waypoints. -/
theorem length_smoothFloors
    (smooths : SmoothsFloors circumstances)
    {smoothed : List (Coords K)}
    (isSmoothed :
      server.smoothFloors circumstances path segments = .ok smoothed) :
    smoothed.length = path.length := by
  unfold smoothFloors at isSmoothed
  split at isSmoothed
  · dsimp only at isSmoothed
    split at isSmoothed
    · cases isSmoothed
      rfl
    · split at isSmoothed
      · cases isSmoothed
      · cases isSmoothed
        rfl
      · next response isResponse =>
          cases isSmoothed
          split
          · obtain ⟨smoother, preserves, isReply⟩ := smooths _ _ isResponse
            rw [isReply]
            unfold smoothPathWithFloorCostmaps
            split
            · rfl
            · split
              · rfl
              · split
                · rfl
                · exact (keepsOutside_smoothFloorSegments preserves _ _).length
          · rfl
  · cases isSmoothed
    rfl

variable
  {plan : TopomapPlannerResult K}
  {result : PathResult K}

theorem answerPlan_succeeded
    {timedOut : Bool}
    (smooths : SmoothsFloors circumstances)
    (isAnswer :
      server.answerPlan circumstances graph plan timedOut =
        .succeeded result) :
    plan.success = true ∧
      WellFormedResult result ∧
      result.nodeIds = plan.coarsePath.map fun vertex =>
        idString (graph.node vertex).id := by
  unfold answerPlan at isAnswer
  split at isAnswer
  · next success =>
      dsimp only at isAnswer
      split at isAnswer
      · cases isAnswer
      · next segments isSegments =>
          split at isAnswer
          · cases isAnswer
          · next smoothed isSmoothed =>
              cases isAnswer
              have sameLength := length_smoothFloors smooths isSmoothed
              refine ⟨success, ⟨rfl, ?_, ?_, ?_, ?_⟩, rfl⟩
              · exact (List.length_map _).trans (List.length_map _).symm
              · exact (List.length_map _).trans (List.length_map _).symm
              · intro index member
                obtain ⟨segment, isSegment, isIndex⟩ := List.mem_map.mp member
                rw [← isIndex]
                exact (calculateFloorSegments_inside isSegments
                  isSegment).1.trans_eq sameLength.symm
              · intro index member
                obtain ⟨segment, isSegment, isIndex⟩ := List.mem_map.mp member
                rw [← isIndex]
                exact (calculateFloorSegments_inside isSegments
                  isSegment).2.trans_eq sameLength.symm
  · split at isAnswer
    · cases isAnswer
    · cases isAnswer

omit [LinearOrder K] in
theorem failed_code
    {errorCode : Nat}
    {errorMsg : String}
    (isAnswer : failed errorCode errorMsg = .terminated (some result)) :
    result.errorCode = errorCode := by
  cases isAnswer
  rfl

omit [Field K] [LinearOrder K] in
theorem threw_code
    {unfinished result : PathResult K}
    {what : String}
    (isAnswer : threw unfinished what = .terminated (some result)) :
    result.errorCode = 200 := by
  cases isAnswer
  rfl

/-- An answer without success has an error, which is a timeout only if there was
one. -/
theorem answerPlan_terminated
    {timedOut : Bool}
    (isAnswer :
      server.answerPlan circumstances graph plan timedOut =
        .terminated (some result)) :
    result.errorCode ≠ 0 ∧ (result.errorCode = 207 → timedOut = true) := by
  have notTimeout {errorCode : Nat}
      (isCode : result.errorCode = errorCode)
      (isError : errorCode ≠ 0)
      (isOther : errorCode ≠ 207) :
      result.errorCode ≠ 0 ∧
        (result.errorCode = 207 → timedOut = true) := by
    rw [isCode]
    exact ⟨isError, fun isTimeout => absurd isTimeout isOther⟩
  unfold answerPlan at isAnswer
  split at isAnswer
  · dsimp only at isAnswer
    split at isAnswer
    · exact notTimeout (threw_code isAnswer) (by decide) (by decide)
    · split at isAnswer
      · exact notTimeout (threw_code isAnswer) (by decide) (by decide)
      · cases isAnswer
  · split at isAnswer
    · next isTimeout =>
        rw [failed_code isAnswer]
        exact ⟨by decide, fun _ => isTimeout⟩
    · exact notTimeout (failed_code isAnswer) (by decide) (by decide)

/-- Planning ends with a result. -/
theorem answerPlan_result
    {timedOut : Bool} :
    server.answerPlan circumstances graph plan timedOut ≠
      .terminated none := by
  intro isAnswer
  unfold answerPlan at isAnswer
  split at isAnswer
  · dsimp only at isAnswer
    split at isAnswer
    · cases isAnswer
    · split at isAnswer <;> cases isAnswer
  · split at isAnswer <;> cases isAnswer

section

variable
  {materialized : MaterializedGraph K}
  {startFloor goalFloor : String}
  {startCoords : Coords K}

theorem planOneLevel_result :
    planOneLevel circumstances materialized startFloor goalFloor
      startCoords ≠ .terminated none := by
  intro isAnswer
  unfold planOneLevel at isAnswer
  split at isAnswer
  · cases isAnswer
  · split at isAnswer
    · cases isAnswer
    · split at isAnswer <;> cases isAnswer

theorem planOneLevel_answer
    {answer : PathAnswer K}
    (isAnswer :
      planOneLevel circumstances materialized startFloor goalFloor
        startCoords = answer) :
    (∀ result, answer = .succeeded result → WellFormedResult result) ∧
      ∀ result, answer = .terminated (some result) →
        result.errorCode = 208 := by
  have refused {errorMsg : String} :
      (∀ result : PathResult K, failed 208 errorMsg = .succeeded result →
          WellFormedResult result) ∧
        ∀ result : PathResult K,
          failed 208 errorMsg = .terminated (some result) →
            result.errorCode = 208 := by
    refine ⟨fun result isResult => ?_, fun result => failed_code⟩
    cases isResult
  subst isAnswer
  unfold planOneLevel
  split
  · exact refused
  · split
    · exact refused
    · split
      · exact refused
      · exact refused
      · next first rest _ =>
          refine ⟨fun result isResult => ?_, fun result isResult => ?_⟩
          · cases isResult
            refine ⟨rfl, rfl, rfl, fun index member => ?_,
              fun index member => ?_⟩
            · rw [List.mem_singleton.mp member]
              exact Nat.succ_pos _
            · rw [List.mem_singleton.mp member]
              exact Nat.lt_succ_self _
          · cases isResult

end

end Answers

end GppBimServer

end NavBim
