import NavBim.PlanningSystem
import NavBim.TopomapPlannerGraph

namespace NavBim

/-!
# The costs of stored paths

The planner takes the cost of a stored path on trust, and its score update does
not end on a negative cost.  A value of `-1` stands for an edge that has not
been planned.  All operations of the system keep the costs of stored paths
nonnegative, except that a saved map loses zeros: they are not written, and an
absent value is read as `-1`.
-/

section Costs

variable {K : Type} [Field K] [LinearOrder K]

/-- An edge with at least two waypoints has nonnegative planned values. -/
def Usable
    (props : EdgeProperties K) : Prop :=
  2 ≤ (props.path.getD []).length →
    0 ≤ props.plannedDistance ∧ 0 ≤ props.plannedCost

/-- All edges with a path can be used with their costs. -/
def UsableCosts
    (graph : TopologicalGraph K) : Prop :=
  ∀ edge ∈ graph.edges, Usable edge.properties

/-- A request to store nonnegative values. -/
def NonnegativeUpdate
    (request : UpdateEdgeDataRequest K) : Prop :=
  0 ≤ request.plannedDistance ∧ 0 ≤ request.plannedCost

/-- A second-level planner whose paths have nonnegative values. -/
def NonnegativePlans
    (secondLevelPlanner : SecondLevelPlanner K) : Prop :=
  ∀ calls floor room first last path,
    (secondLevelPlanner calls floor room first last).path = some path →
      0 ≤ (secondLevelPlanner calls floor room first last).distance ∧
        0 ≤ (secondLevelPlanner calls floor room first last).cost

/-- No value that a saved path needs is zero. -/
def NoZeroPlans
    (graph : TopologicalGraph K) : Prop :=
  ∀ edge ∈ graph.edges,
    edge.properties.type = "transition" →
    2 ≤ (edge.properties.path.getD []).length →
      edge.properties.plannedDistance ≠ 0 ∧
        edge.properties.plannedCost ≠ 0

theorem Usable.of_no_path
    {props : EdgeProperties K}
    (noPath : props.path = none) :
    Usable props := by
  intro long
  simp [noPath] at long

theorem UsableCosts.map
    {first second : TopologicalGraph K}
    {change : EdgeProperties K → EdgeProperties K}
    (edges :
      second.edges = first.edges.map (StoredEdge.mapProperties change))
    (usable :
      ∀ edge ∈ first.edges, Usable (change edge.properties)) :
    UsableCosts second := by
  intro edge member
  rw [edges] at member
  obtain ⟨old, inOld, isEdge⟩ := List.mem_map.mp member
  rw [← isEdge]
  exact usable old inOld

section

variable
  {props : EdgeProperties K}
  (usable : Usable props)

include usable

theorem Usable.replica :
    Usable (replicaEdge props) := by
  intro long
  apply usable
  simpa [replicaEdge] using long

theorem Usable.clear :
    Usable (clearPath props) := by
  unfold clearPath
  split
  · exact usable
  · exact Usable.of_no_path rfl

theorem Usable.reloaded
    (noZeros :
      props.type = "transition" →
      2 ≤ (props.path.getD []).length →
        props.plannedDistance ≠ 0 ∧ props.plannedCost ≠ 0) :
    Usable (reloadedEdge props) := by
  unfold reloadedEdge
  split
  · rename_i isTransition
    intro long
    have longBefore : 2 ≤ (props.path.getD []).length := by
      simpa using long
    obtain ⟨distance, cost⟩ := noZeros isTransition longBefore
    simp only [reloadedPlan, distance, cost, ne_eq, not_false_eq_true,
      if_true]
    exact usable longBefore
  · exact Usable.of_no_path rfl

end

theorem Usable.stored
    {request : PlanRequest K}
    (plans : NonnegativePlans request.secondLevelPlanner)
    {props : EdgeProperties K}
    (usable : Usable props)
    (graph : TopologicalGraph K)
    (calls u v : Nat) :
    Usable
      (storeResult (edgeResult request graph calls u v props) props) := by
  unfold storeResult
  split
  · exact Usable.of_no_path rfl
  · rename_i path isPath
    intro long
    unfold edgeResult at isPath ⊢
    by_cases reuse : shouldReuse request.reusePaths props = true
    · rw [if_pos reuse]
      simp only [shouldReuse, Bool.and_eq_true, decide_eq_true_eq] at reuse
      exact usable reuse.1
    · rw [if_neg reuse] at isPath ⊢
      exact plans _ _ _ _ _ _ isPath

/-- Storing nonnegative values in the server's map. -/
theorem UsableCosts.update
    {graph : TopologicalGraph K}
    (usable : UsableCosts graph)
    {request : UpdateEdgeDataRequest K}
    (nonnegative : NonnegativeUpdate request) :
    UsableCosts (serverStep graph (.update request)) := by
  rcases serverStep_update_cases graph request with
      ⟨unchanged, -⟩ | ⟨source, target, edge, -, -, -, changed⟩
  · rw [unchanged]
    exact usable
  · rw [changed]
    intro other member
    rcases mem_modifyFirst member with old | ⟨first, -, -, same⟩
    · exact usable other old
    · rw [same]
      intro _
      exact nonnegative

end Costs

section Queries

variable {K : Type} [Field K] [LinearOrder K]

/-- Removing vertices leaves only usable edges. -/
theorem UsableCosts.removeVertex
    {graph : TopologicalGraph K}
    (usable : UsableCosts graph)
    (vertex : Nat) :
    UsableCosts (graph.removeVertex vertex) := by
  intro edge member
  obtain ⟨old, inOld, isEdge⟩ := List.mem_map.mp member
  rw [← isEdge]
  exact usable old (List.mem_of_mem_filter inOld)

theorem UsableCosts.removeStaleNodes
    (passes : Nat) :
    ∀ {graph : TopologicalGraph K} (position : Nat),
      UsableCosts graph →
      UsableCosts (removeStaleNodes passes position graph) := by
  induction passes with
  | zero =>
      intro graph position usable
      exact usable
  | succ passes inductionHypothesis =>
      intro graph position usable
      simp only [NavBim.removeStaleNodes]
      split
      · exact usable
      · exact inductionHypothesis 1 (usable.removeVertex _)

theorem UsableCosts.addVirtualEdges
    {virtualNodes : VirtualNodes K}
    {startV goalV : Nat}
    (edges : List (VirtualEdge K)) :
    ∀ {graph : TopologicalGraph K},
      UsableCosts graph →
      (∀ vedge ∈ edges, vedge.properties.path = none) →
      UsableCosts
        (edges.foldl (addVirtualEdge virtualNodes startV goalV) graph) := by
  induction edges with
  | nil =>
      intro graph usable _
      exact usable
  | cons vedge rest inductionHypothesis =>
      intro graph usable noPaths
      rw [List.foldl_cons]
      refine inductionHypothesis ?_ fun other member =>
        noPaths other (List.mem_cons_of_mem _ member)
      intro edge member
      rcases List.mem_append.mp member with old | new
      · exact usable edge old
      · rw [List.mem_singleton] at new
        rw [new]
        exact Usable.of_no_path (noPaths vedge List.mem_cons_self)

theorem UsableCosts.nonnegativeCosts
    {graph : TopologicalGraph K}
    (usable : UsableCosts graph)
    {request : PlanRequest K}
    (plans : NonnegativePlans request.secondLevelPlanner) :
    NonnegativeCosts request graph where
  returned := by
    intro calls floor room first last found
    obtain ⟨path, isPath⟩ := Option.isSome_iff_exists.mp found
    exact (plans _ _ _ _ _ _ isPath).2
  reused := by
    intro edge member reuse
    simp only [shouldReuse, Bool.and_eq_true, decide_eq_true_eq] at reuse
    exact (usable edge member reuse.1).2

variable [SquareRoot K]

theorem UsableCosts.materialized
    {topologicalMap : TopologicalMap K}
    (usable : UsableCosts topologicalMap.graph)
    (pathQuery : PathQuery K) :
    UsableCosts (pathQuery.materialized topologicalMap).graph := by
  refine UsableCosts.addVirtualEdges _ ?_
    (fun vedge member => createVirtualNodes_path member)
  exact UsableCosts.removeStaleNodes _ 0 usable

/-- The search never relaxes an edge with a negative cost. -/
theorem UsableCosts.revealed_nonneg
    {start : TopologicalGraph K}
    (usable : UsableCosts start)
    {request : PlanRequest K}
    (plans : NonnegativePlans request.secondLevelPlanner)
    {state : PlannerState K}
    (reachable : LoopState request start state)
    {entry : OpenSetEdge K}
    {edge : StoredEdge K}
    (found :
      filteredEdge? state.graph request.disabledVertices entry.u entry.v =
        some edge) :
    0 ≤ revealedCost request state entry edge := by
  have keeps :
      SearchKeeps request (fun _ new => Usable new) start state :=
    reachable.keeps usable
      (fun _ _ graph calls u v holds =>
        holds.stored plans graph calls u v)
  have stillUsable : UsableCosts state.graph := by
    intro other member
    obtain ⟨-, -, -, -, holds⟩ := keeps.edges.exists_old member
    exact holds
  obtain ⟨-, -, isEdge⟩ := filteredEdge?_eq_some.mp found
  obtain ⟨member, -⟩ := TopologicalGraph.edge?_eq_some isEdge
  exact (stillUsable.nonnegativeCosts plans).revealed member _ _ _

/-- What answering a query leaves behind. -/
theorem UsableCosts.query
    {topologicalMap : TopologicalMap K}
    (usable : UsableCosts topologicalMap.graph)
    {pathQuery : PathQuery K}
    (plans : NonnegativePlans pathQuery.plan.secondLevelPlanner)
    {outcome : PlanOutcome K}
    (run : pathQuery.outcome topologicalMap = some outcome) :
    UsableCosts (pathQuery.plannerAfter topologicalMap outcome).graph ∧
      ∀ update ∈ outcome.updates, NonnegativeUpdate update := by
  have plansRequest :
      NonnegativePlans
        (pathQuery.request topologicalMap).secondLevelPlanner :=
    plans
  obtain ⟨-, edges, updates⟩ :=
    planTopomapPath_keeps (fun _ new => Usable new)
      (usable.materialized pathQuery)
      (fun _ _ graph calls u v holds =>
        holds.stored plansRequest graph calls u v) run
  have after : UsableCosts outcome.graph := by
    intro edge member
    obtain ⟨-, -, -, -, holds⟩ := edges.exists_old member
    exact holds
  refine ⟨(after.removeVertex _).removeVertex _, ?_⟩
  intro update isUpdate
  obtain ⟨graph, calls, u, v, old, edge, -, -, -, isSent⟩ :=
    updates update isUpdate
  obtain ⟨path, isPath, -, -, -, distance, cost, planned, -⟩ :=
    mem_edgeUpdate isSent
  simp only [edgeResult, planned, Bool.false_eq_true, if_false]
    at isPath distance cost
  rw [NonnegativeUpdate, distance, cost]
  exact plans _ _ _ _ _ _ isPath

end Queries

section Runs

variable
  {K : Type} [Field K] [LinearOrder K] [SquareRoot K] [IntegerPart K]
  {toFloat : K → K}
  {state next : System K}

/-- All stored paths of the system can be used with their costs. -/
structure SystemUsable
    (state : System K) : Prop where
  placed : SystemPlaced state
  server : UsableCosts state.server
  file : ∀ saved, state.file = some saved → UsableCosts saved
  planner : UsableCosts state.planner.graph
  inFlight : ∀ request ∈ state.inFlight, NonnegativeUpdate request

/-- The steps after which all paths can still be used. -/
def StepUsable
    (state : System K) : SystemEvent K → Prop
  | .query pathQuery => NonnegativePlans pathQuery.plan.secondLevelPlanner
  | .prePlan secondLevelPlanner _ => NonnegativePlans secondLevelPlanner
  | .send request => NonnegativeUpdate request
  | .save => NoZeroPlans state.server
  | _ => True

theorem SystemUsable.step
    (usable : SystemUsable state)
    {event : SystemEvent K}
    (fits : StepUsable state event)
    (isNext : systemStep toFloat state event = some next) :
    SystemUsable next := by
  have distinct := usable.placed.distinct
  obtain ⟨placed, -⟩ := usable.placed.step isNext
  cases stepTaken_of_systemStep isNext with
  | replicate =>
      obtain ⟨received, isReceived, -, edges⟩ :=
        readTopomap_getTopologicalMap toFloat state.server distinct
      refine ⟨placed, usable.server, usable.file, ?_, usable.inFlight⟩
      simp only [TopologicalMap.loadFromMessage, isReceived]
      exact UsableCosts.map edges fun edge member =>
        (usable.server edge member).replica
  | refused pathQuery => exact usable
  | query _ _ isOutcome =>
      obtain ⟨after, updates⟩ := usable.planner.query fits isOutcome
      exact ⟨placed, usable.server, usable.file, after,
        List.forall_mem_append.mpr ⟨usable.inFlight, updates⟩⟩
  | prePlan secondLevelPlanner forceReplan =>
      refine ⟨placed, usable.server, usable.file, usable.planner,
        List.forall_mem_append.mpr ⟨usable.inFlight, ?_⟩⟩
      intro update isUpdate
      obtain ⟨info, edge, calls, floor, room, sent⟩ :=
        mem_updates_executePrePlanImpl isUpdate
      rw [NonnegativeUpdate, sent.plannedDistance, sent.plannedCost]
      exact fits _ _ _ _ _ _ sent.path
  | send request =>
      refine ⟨placed, usable.server, usable.file, usable.planner,
        List.forall_mem_append.mpr ⟨usable.inFlight, ?_⟩⟩
      exact List.forall_mem_singleton.mpr fits
  | missing index => exact usable
  | @deliver _ request isRequest =>
      have isSent : request ∈ state.inFlight :=
        List.mem_of_getElem? isRequest
      exact ⟨placed,
        usable.server.update (usable.inFlight request isSent),
        usable.file, usable.planner,
        fun other isOther =>
          usable.inFlight other (List.mem_of_mem_eraseIdx isOther)⟩
  | clear =>
      refine ⟨placed, ?_, usable.file, usable.planner, usable.inFlight⟩
      exact UsableCosts.map rfl fun edge member =>
        (usable.server edge member).clear
  | save =>
      refine ⟨placed, usable.server, ?_, usable.planner, usable.inFlight⟩
      intro saved isSaved
      obtain ⟨-, edges⟩ := readSaved_eq_some distinct isSaved
      exact UsableCosts.map edges fun edge member =>
        (usable.server edge member).reloaded (fits edge member)
  | reload =>
      refine ⟨placed, ?_, usable.file, usable.planner, usable.inFlight⟩
      cases isFile : state.file with
      | none => exact usable.server
      | some saved => exact usable.file saved isFile

/--
In every run whose saved maps lose no zeros, all stored paths of the server and
of the planner have nonnegative values, and no search on the planner's graph
relaxes an edge with a negative cost.
-/
theorem stored_paths_usable
    (server : TopologicalGraph K)
    (distinct : DistinctIds server)
    (usable : UsableCosts server)
    (events : List (SystemEvent K))
    (fits :
      ∀ step ∈ systemSteps toFloat (System.start server) events,
        StepUsable step.1 step.2) :
    ∀ reached ∈ systemStates toFloat (System.start server) events,
      UsableCosts reached.server ∧
        UsableCosts reached.planner.graph ∧
        ∀ (pathQuery : PathQuery K) (search : PlannerState K)
          (nonempty : search.openHeap ≠ []) (edge : StoredEdge K),
          NonnegativePlans pathQuery.plan.secondLevelPlanner →
          LoopState (pathQuery.request reached.planner)
            (pathQuery.materialized reached.planner).graph search →
          filteredEdge? search.graph pathQuery.plan.disabledVertices
              (topEntry (pathQuery.request reached.planner) search
                nonempty).u
              (topEntry (pathQuery.request reached.planner) search
                nonempty).v = some edge →
          0 ≤ revealedCost (pathQuery.request reached.planner) search
            (topEntry (pathQuery.request reached.planner) search
              nonempty) edge := by
  have initially : SystemUsable (System.start server) := by
    refine ⟨SystemPlaced.start distinct, usable, ?_, ?_, ?_⟩
    · intro saved isSaved
      rw [← Option.some.inj isSaved]
      exact usable
    · intro edge member
      cases member
    · intro request isSent
      cases isSent
  intro reached isReached
  have holds :=
    (system_invariant (fun holds fits step => holds.step fits step)
      events initially fits).2 reached isReached
  refine ⟨holds.server, holds.planner, ?_⟩
  intro pathQuery search nonempty edge plans reachable found
  have plansRequest :
      NonnegativePlans
        (pathQuery.request reached.planner).secondLevelPlanner :=
    plans
  exact (holds.planner.materialized pathQuery).revealed_nonneg
    plansRequest reachable found

end Runs

section Samples

/-- An update of the edge with a path that stays at one place. -/
def waitUpdate
    (planned : ℚ) : UpdateEdgeDataRequest ℚ :=
  { pairUpdate planned with path := [(0, 0, 0), (0, 0, 0)] }

/-- Store a plan, save the map, load it again and send it to the planner. -/
def savedRun
    (planned : ℚ) : List (SystemEvent ℚ) :=
  [.send (waitUpdate planned), .deliver 0, .save, .reload, .replicate]

theorem pairMap_usable :
    UsableCosts pairMap := by
  intro edge member
  simp only [pairMap, List.mem_singleton] at member
  rw [member]
  exact Usable.of_no_path rfl

theorem pairMap_distinct :
    DistinctIds pairMap := by
  unfold DistinctIds
  decide

/-- A cost of zero is not written, and read as the cost `-1`. -/
theorem zero_cost_becomes_negative :
    DistinctIds pairMap ∧
      UsableCosts pairMap ∧
      NonnegativeUpdate (waitUpdate 0) ∧
      ∃ reached ∈ systemStates id (System.start pairMap) (savedRun 0),
        ¬ UsableCosts reached.server ∧
          ¬ UsableCosts reached.planner.graph := by
  have negative :
      ∃ reached ∈ systemStates id (System.start pairMap) (savedRun 0),
        (∃ edge ∈ reached.server.edges,
          2 ≤ (edge.properties.path.getD []).length ∧
            edge.properties.plannedCost < 0) ∧
        ∃ edge ∈ reached.planner.graph.edges,
          2 ≤ (edge.properties.path.getD []).length ∧
            edge.properties.plannedCost < 0 := by
    decide +kernel
  obtain ⟨reached, isReached, server, planner⟩ := negative
  refine ⟨pairMap_distinct, pairMap_usable, ⟨le_rfl, le_rfl⟩, reached,
    isReached, ?_, ?_⟩
  · obtain ⟨edge, member, long, below⟩ := server
    intro usable
    exact absurd below (not_lt.mpr (usable edge member long).2)
  · obtain ⟨edge, member, long, below⟩ := planner
    intro usable
    exact absurd below (not_lt.mpr (usable edge member long).2)

/-- A plan of finite cost is saved and loaded. -/
theorem savedRun_usable :
    DistinctIds pairMap ∧
      ∀ reached ∈ systemStates id (System.start pairMap) (savedRun 1),
        UsableCosts reached.server ∧ UsableCosts reached.planner.graph := by
  have stored :
      ∀ edge ∈ (serverStep pairMap (.update (waitUpdate 1))).edges,
        edge.properties.plannedDistance = 1 ∧
          edge.properties.plannedCost = 1 := by
    decide +kernel
  have fits :
      ∀ step ∈ systemSteps id (System.start pairMap) (savedRun 1),
        StepUsable step.1 step.2 := by
    refine List.forall_mem_cons.mpr
      ⟨⟨by decide +kernel, by decide +kernel⟩, ?_⟩
    refine List.forall_mem_cons.mpr ⟨trivial, ?_⟩
    refine List.forall_mem_cons.mpr ⟨?_, ?_⟩
    · intro edge member _ _
      obtain ⟨distance, cost⟩ := stored edge member
      rw [distance, cost]
      exact ⟨one_ne_zero, one_ne_zero⟩
    · refine List.forall_mem_cons.mpr ⟨trivial, ?_⟩
      refine List.forall_mem_cons.mpr ⟨trivial, ?_⟩
      intro step isStep
      cases isStep
  refine ⟨pairMap_distinct, ?_⟩
  intro reached isReached
  obtain ⟨server, planner, -⟩ :=
    stored_paths_usable pairMap pairMap_distinct pairMap_usable
      (savedRun 1) fits reached isReached
  exact ⟨server, planner⟩

end Samples

end NavBim
