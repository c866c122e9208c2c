import Mathlib
import NavBim.GppBimServerRequests

namespace NavBim

/-!
# Runs of the planner server

The server answers one request after the other on the same map.  After any of
them the map is the one at the start, up to the data of plans.
-/

namespace GppBimServer

section Runs

variable
  {K : Type}
  [Field K] [LinearOrder K] [SquareRoot K] [FloorRing K]

/-- The maps of the planner while it answers requests. -/
inductive Requests
    (server : GppBimServer K)
    (within : Polygon K → K → K × K → Bool)
    (Fair : PathCircumstances K → Prop)
    (initial : TopologicalGraph K) : TopologicalMap K → Prop
  | start : Requests server within Fair initial (TopologicalMap.ofGraph initial)
  | request
      {current : TopologicalMap K}
      {goal : PathGoal K}
      {circumstances : PathCircumstances K}
      {served : ServedPath K}
      (run : Requests server within Fair initial current)
      (fair : Fair circumstances)
      (isServed : server.computePathToPose within current goal circumstances =
        some served) :
      Requests server within Fair initial served.planner

/-- What an answer says. -/
structure GoodAnswer
    (server : GppBimServer K)
    (within : Polygon K → K → K × K → Bool)
    (graph : TopologicalGraph K)
    (goal : PathGoal K)
    (circumstances : PathCircumstances K)
    (answer : PathAnswer K) : Prop where
  wellFormed : ∀ result, answer = .succeeded result → WellFormedResult result
  leads : ∀ result, answer = .succeeded result → server.useTwoLevel = true →
    ∃ startRoom goalRoom,
      findRoomByCoordinates within graph (roundedCoords goal.start) =
          some startRoom ∧
        findRoomByCoordinates within graph (roundedCoords goal.goal) =
          some goalRoom ∧
        LeadsToGoal
          (server.materialized graph
            ⟨startRoom, goalRoom, roundedCoords goal.start,
              roundedCoords goal.goal⟩)
          result.nodeIds
  error : ∀ result, answer = .terminated (some result) → result.errorCode ≠ 0
  timeout : ∀ result, answer = .terminated (some result) →
    result.errorCode = 207 →
      ∃ call, (circumstances.replies call).isTimeout = true
  unloaded : answer = .terminated none → circumstances.topomapLoaded = false

variable
  {server : GppBimServer K}
  {within : Polygon K → K → K × K → Bool}
  {Fair : PathCircumstances K → Prop}
  {initial graph : TopologicalGraph K}
  {current : TopologicalMap K}
  {goal : PathGoal K}
  {circumstances : PathCircumstances K}

theorem goodAnswer_failed
    {errorCode : Nat}
    (errorMsg : String)
    (isError : errorCode ≠ 0)
    (isOther : errorCode ≠ 207) :
    GoodAnswer server within graph goal circumstances
      (failed errorCode errorMsg) := by
  refine ⟨fun result isResult => ?_, fun result isResult => ?_,
    fun result isResult => ?_, fun result isResult isTimeout => ?_,
    fun isNone => ?_⟩
  · cases isResult
  · cases isResult
  · rw [failed_code isResult]
    exact isError
  · rw [failed_code isResult] at isTimeout
    exact absurd isTimeout isOther
  · cases isNone

omit [LinearOrder K] [SquareRoot K] [FloorRing K] in
/-- Floors and places are always disabled. -/
theorem mem_unplannedVertices
    {vertex : Nat}
    (kind : IsFloor graph vertex ∨ IsPlace graph vertex) :
    vertex ∈ unplannedVertices graph := by
  have inGraph : vertex < graph.numVertices := by
    cases kind with
    | inl isFloor =>
        by_contra outside
        have unset : graph.node vertex = NodeProperties.unset :=
          List.getD_eq_default _ _ (not_lt.mp outside)
        simp [IsFloor, unset, NodeProperties.unset] at isFloor
    | inr isPlace => exact isPlace.lt
  have disabled : ((graph.node vertex).type == "floor" ||
      isPlace (graph.node vertex)) = true := by
    rw [Bool.or_eq_true, beq_iff_eq]
    exact kind
  rw [unplannedVertices, List.mem_toFinset, List.mem_filter, List.mem_range]
  exact ⟨inGraph, disabled⟩

variable [IsStrictOrderedRing K]

omit [FloorRing K] [IsStrictOrderedRing K] in
theorem Planned.leadsToGoal
    {trip : Trip K}
    {outcome : PlanOutcome K}
    (planned : Planned server circumstances graph trip outcome)
    (fits : Fits graph trip)
    (success : outcome.result.success = true) :
    LeadsToGoal (server.materialized graph trip)
      (outcome.result.coarsePath.map fun vertex =>
        idString (outcome.graph.node vertex).id) := by
  have way := planned.way success
  obtain ⟨isStart, isGoal, -, -⟩ := requestGraph_spec trip.startCoords
    trip.goalCoords server.penalizeZMovement fits.namesFree fits.start.lt
    fits.goal.lt
  refine ⟨outcome.result.coarsePath, ?_, ?_, ?_, ?_, way.distinct, ?_⟩
  · exact List.map_congr_left fun vertex _ =>
      congrArg (fun node => idString node.id) (planned.shape.node vertex)
  · rw [isStart]
    exact way.first
  · rw [isGoal]
    exact way.last
  · refine way.edges.imp fun u v isEdge => ?_
    rw [EnabledEdge, planned.shape.filteredEdge?_isSome, ← mem_filteredTargets,
      mem_filteredTargets_iff] at isEdge
    exact isEdge.1
  · intro vertex member
    have enabled : vertex ∉ disabledVertices _ _ := way.enabled vertex member
    rw [disabledVertices, Finset.mem_union, not_or] at enabled
    exact ⟨fun isFloor => enabled.1 (mem_unplannedVertices (.inl isFloor)),
      fun isPlace => enabled.1 (mem_unplannedVertices (.inr isPlace))⟩

variable (server) in
omit [FloorRing K] in
theorem planMaterialized_answered
    {trip : Trip K}
    (fits : Fits graph trip)
    (wellPlanned : WellPlanned graph)
    (finite : FiniteReplies circumstances)
    (smooths : SmoothsFloors circumstances) :
    ∃ served after,
      server.planMaterialized circumstances (TopologicalMap.ofGraph graph)
          trip = some served ∧
        served.planner = TopologicalMap.ofGraph after ∧
        Replanned graph after ∧
        WellPlanned after ∧
        (∀ result, served.answer = .succeeded result →
          WellFormedResult result ∧
            (server.useTwoLevel = true →
              LeadsToGoal (server.materialized graph trip)
                result.nodeIds)) ∧
        (∀ result, served.answer = .terminated (some result) →
          result.errorCode ≠ 0 ∧
            (result.errorCode = 207 →
              ∃ call, (circumstances.replies call).isTimeout = true)) ∧
        served.answer ≠ .terminated none := by
  cases levels : server.useTwoLevel with
  | true =>
      obtain ⟨outcome, planned⟩ :=
        exists_planned server fits wellPlanned finite
      refine ⟨_, _, planMaterialized_twoLevel fits levels planned, rfl,
        planned.replanned, planned.wellPlanned, ?_, ?_, answerPlan_result⟩
      · intro result isResult
        obtain ⟨success, wellFormed, nodeIds⟩ :=
          answerPlan_succeeded smooths isResult
        refine ⟨wellFormed, fun _ => ?_⟩
        rw [nodeIds]
        exact planned.leadsToGoal fits success
      · intro result isResult
        obtain ⟨isError, timeout⟩ := answerPlan_terminated isResult
        refine ⟨isError, fun isTimeout => ?_⟩
        obtain ⟨call, -, timedOut⟩ := List.any_eq_true.mp (timeout isTimeout)
        exact ⟨call, timedOut⟩
  | false =>
      obtain ⟨after, isServed, replanned, wellPlannedAfter⟩ :=
        planMaterialized_oneLevel server circumstances fits wellPlanned levels
      obtain ⟨succeeds, fails⟩ := planOneLevel_answer (rfl :
        planOneLevel circumstances (server.materialized graph trip)
          (firstFloor (graph.node trip.startRoom))
          (firstFloor (graph.node trip.goalRoom)) trip.startCoords = _)
      refine ⟨_, after, isServed, rfl, replanned, wellPlannedAfter, ?_, ?_,
        planOneLevel_result⟩
      · intro result isResult
        exact ⟨succeeds result isResult,
          fun twoLevel => absurd twoLevel Bool.false_ne_true⟩
      · intro result isResult
        have code := fails result isResult
        rw [code]
        exact ⟨by decide, fun isTimeout => absurd isTimeout (by decide)⟩

variable (server within) in
theorem computePathToPose_answered
    (namesFree : NamesFree graph)
    (wellPlanned : WellPlanned graph)
    (goal : PathGoal K)
    (finite : FiniteReplies circumstances)
    (smooths : SmoothsFloors circumstances) :
    ∃ served after,
      server.computePathToPose within (TopologicalMap.ofGraph graph) goal
          circumstances = some served ∧
        served.planner = TopologicalMap.ofGraph after ∧
        Replanned graph after ∧
        WellPlanned after ∧
        GoodAnswer server within graph goal circumstances served.answer := by
  have refused {errorCode : Nat}
      (errorMsg : String)
      (isError : errorCode ≠ 0)
      (isOther : errorCode ≠ 207) :
      ∃ (served : ServedPath K) (after : TopologicalGraph K),
        some
            { answer := failed errorCode errorMsg
              planner := TopologicalMap.ofGraph graph
              updates := ([] : List (UpdateEdgeDataRequest K)) } =
          some served ∧
          served.planner = TopologicalMap.ofGraph after ∧
          Replanned graph after ∧
          WellPlanned after ∧
          GoodAnswer server within graph goal circumstances served.answer :=
    ⟨_, graph, rfl, rfl, .refl graph, wellPlanned,
      goodAnswer_failed errorMsg isError isOther⟩
  unfold computePathToPose
  dsimp only
  split
  · next isUnloaded =>
    refine ⟨_, graph, rfl, rfl, .refl graph, wellPlanned,
      ⟨fun result isResult => ?_, fun result isResult => ?_,
        fun result isResult => ?_, fun result isResult => ?_,
        fun _ => by simpa using isUnloaded⟩⟩
    · cases isResult
    · cases isResult
    · cases isResult
    · cases isResult
  · split
    · exact refused _ (by decide) (by decide)
    · split
      · exact refused _ (by decide) (by decide)
      · split
        · exact refused _ (by decide) (by decide)
        · next startRoom isStartRoom =>
            split
            · exact refused _ (by decide) (by decide)
            · next goalRoom isGoalRoom =>
                have fits : Fits graph ⟨startRoom, goalRoom,
                    roundedCoords goal.start, roundedCoords goal.goal⟩ :=
                  ⟨namesFree, isPlace_of_findRoomByCoordinates isStartRoom,
                    isPlace_of_findRoomByCoordinates isGoalRoom⟩
                obtain ⟨served, after, isServed, isAfter, replanned, kept,
                  succeeds, fails, hasResult⟩ :=
                    planMaterialized_answered server fits wellPlanned finite
                      smooths
                exact ⟨served, after, isServed, isAfter, replanned, kept,
                  fun result isResult => (succeeds result isResult).1,
                  fun result isResult twoLevel =>
                    ⟨startRoom, goalRoom, isStartRoom, isGoalRoom,
                      (succeeds result isResult).2 twoLevel⟩,
                  fun result isResult => (fails result isResult).1,
                  fun result isResult => (fails result isResult).2,
                  fun isNone => absurd isNone hasResult⟩

/-- A map is that of the start, up to the data of plans. -/
theorem Requests.replanned
    (run : Requests server within Fair initial current)
    (namesFree : NamesFree initial)
    (wellPlanned : WellPlanned initial)
    (fair : ∀ circumstances, Fair circumstances →
      FiniteReplies circumstances ∧ SmoothsFloors circumstances) :
    ∃ now, current = TopologicalMap.ofGraph now ∧ Replanned initial now ∧
      WellPlanned now := by
  induction run with
  | start =>
      exact ⟨initial, rfl, .refl initial, wellPlanned⟩
  | @request _ goal circumstances served _ isFair isServed
      inductionHypothesis =>
      obtain ⟨now, isNow, replanned, nowPlanned⟩ := inductionHypothesis
      obtain ⟨finite, smooths⟩ := fair circumstances isFair
      obtain ⟨served', after, isServed', isAfter, further, afterPlanned, -⟩ :=
        computePathToPose_answered server within (replanned.namesFree namesFree)
          nowPlanned goal finite smooths
      rw [← isNow, isServed, Option.some_inj] at isServed'
      rw [← isServed'] at isAfter
      exact ⟨after, isAfter, replanned.trans further, afterPlanned⟩

end Runs

section Samples

end Samples

end GppBimServer

end NavBim
