import NavBim.TopomapPlannerExact

namespace NavBim

/-!
# What the planner does to its graph

The search changes the graph in one place only: it stores the result of
expanding an edge.  A relation between the edges before and after that is kept
by storing a result therefore holds between the edges before and after a whole
request.
-/

section Iterations

variable
  {K : Type} [Field K] [LinearOrder K] [SquareRoot K]
  {request : PlanRequest K}
  {state next : PlannerState K}

theorem OpenSetValid.iteration_stages
    (valid : OpenSetValid request state)
    {nonempty : state.openHeap ≠ []}
    (run : iteration request state nonempty = some next) :
    ∃ entry ∈ state.openHeap, ∃ edge relaxed,
      filteredEdge? state.graph request.disabledVertices entry.u entry.v =
          some edge ∧
        relaxEdge request (expandedState request state entry edge)
            (entryEnds state entry).1 (entryEnds state entry).2
            (revealedCost request state entry edge) = some relaxed ∧
        next =
          openNeighbors request
            (updateBestScore request relaxed (entryEnds state entry).2)
            (entryEnds state entry).1 (entryEnds state entry).2 := by
  have member : topEntry request state nonempty ∈ state.openHeap :=
    request.heapOrder.top_mem _ _ nonempty
  obtain ⟨edge, found⟩ :=
    Option.isSome_iff_exists.mp (valid.entry_edge _ member).2
  have found' :
      filteredEdge?
          (popOpenEdge state (topEntry request state nonempty)).graph
          request.disabledVertices
          (topEntry request state nonempty).u
          (topEntry request state nonempty).v = some edge :=
    found
  simp only [iteration, found', finishIteration] at run
  obtain ⟨relaxed, isRelaxed, isNext⟩ := Option.map_eq_some_iff.mp run
  exact ⟨_, member, edge, relaxed, found, isRelaxed, isNext.symm⟩

/-- What an iteration leaves alone after the edge was planned. -/
structure IterationFrame
    (request : PlanRequest K)
    (expanded relaxed next : PlannerState K) : Prop where
  graph : next.graph = expanded.graph
  updates : next.updates = expanded.updates
  closedSet : next.closedSet = expanded.closedSet
  cameFrom : next.cameFrom = relaxed.cameFrom
  openSet : OpenSetValid request next
  simple : OpenSetSimple expanded → OpenSetSimple next

theorem OpenSetValid.iteration_frame
    {expanded relaxed : PlannerState K}
    {pre suc : Nat}
    {cost : WithTop K}
    (valid : OpenSetValid request expanded)
    (isRelaxed :
      relaxEdge request expanded pre suc cost = some relaxed) :
    IterationFrame request expanded relaxed
      (openNeighbors request (updateBestScore request relaxed suc)
        pre suc) := by
  have relaxedFrame :
      relaxed.graph = expanded.graph ∧
        relaxed.updates = expanded.updates ∧
        relaxed.closedSet = expanded.closedSet ∧
        OpenSetValid request relaxed ∧
        (OpenSetSimple expanded → OpenSetSimple relaxed) := by
    rcases relaxEdge_cases valid isRelaxed with
        same | ⟨-, -, rekey, rescored⟩
    · rw [same]
      exact ⟨rfl, rfl, rfl, valid, fun simple => simple⟩
    · refine ⟨?_, ?_, ?_, valid.rescore rescored,
        fun simple => simple.rescore rescored⟩ <;>
        rw [rescored.frame]
  obtain ⟨sameGraph, sameUpdates, sameClosed, relaxedValid, relaxedSimple⟩ :=
    relaxedFrame
  have bestValid :
      OpenSetValid request (updateBestScore request relaxed suc) :=
    ⟨relaxedValid.handle_lt, relaxedValid.handles_distinct,
      relaxedValid.entry_edge, relaxedValid.handle_entry,
      relaxedValid.handle_open, relaxedValid.popped_iff,
      relaxedValid.count⟩
  have opening :
      Opened request (updateBestScore request relaxed suc)
          (openNeighbors request (updateBestScore request relaxed suc)
            pre suc) pre suc _ ∧ _ ∧ _ :=
    openNeighbors_spec
      (motive := fun current =>
        OpenSetSimple expanded → OpenSetSimple current)
      bestValid
      (fun simple =>
        ⟨(relaxedSimple simple).entry_mapped,
          (relaxedSimple simple).popped_once⟩)
      (fun holds _ fresh _ simple => (holds simple).push fresh)
  obtain ⟨opened, openedValid, openedSimple⟩ := opening
  refine ⟨?_, ?_, ?_, ?_, openedValid, openedSimple⟩
  · rw [opened.frame]
    exact sameGraph
  · rw [opened.frame]
    exact sameUpdates
  · rw [opened.frame]
    exact sameClosed
  · rw [opened.frame]
    rfl

/-- An iteration plans, relaxes and closes an open edge. -/
structure Iterated
    (request : PlanRequest K)
    (state next : PlannerState K)
    (entry : OpenSetEdge K)
    (edge : StoredEdge K)
    (relaxed : PlannerState K) : Prop where
  inHeap : entry ∈ state.openHeap
  found :
    filteredEdge? state.graph request.disabledVertices entry.u entry.v =
      some edge
  isRelaxed :
    relaxEdge request (expandedState request state entry edge)
      (entryEnds state entry).1 (entryEnds state entry).2
      (revealedCost request state entry edge) = some relaxed
  expandedValid : OpenSetValid request (expandedState request state entry edge)
  frame :
    IterationFrame request (expandedState request state entry edge)
      relaxed next

theorem OpenSetValid.iterated
    (valid : OpenSetValid request state)
    {nonempty : state.openHeap ≠ []}
    (run : iteration request state nonempty = some next) :
    ∃ entry edge relaxed,
      Iterated request state next entry edge relaxed := by
  obtain ⟨entry, inHeap, edge, relaxed, found, isRelaxed, isNext⟩ :=
    valid.iteration_stages run
  have expandedValid :
      OpenSetValid request (expandedState request state entry edge) :=
    valid.close inHeap
  have frame := expandedValid.iteration_frame isRelaxed
  rw [← isNext] at frame
  exact ⟨entry, edge, relaxed, inHeap, found, isRelaxed, expandedValid,
    frame⟩

/-- What every iteration keeps holds when the main loop ends. -/
theorem mainLoop_keeps
    {motive : PlannerState K → Prop}
    (keeps :
      ∀ {state next : PlannerState K} {nonempty : state.openHeap ≠ []},
        motive state →
        iteration request state nonempty = some next →
        motive next)
    (fuel : Nat) :
    ∀ {state final : PlannerState K},
      motive state →
      mainLoop request fuel state = some final →
      motive final := by
  induction fuel with
  | zero =>
      intro state final _ run
      cases run
  | succ fuel inductionHypothesis =>
      intro state final holds run
      simp only [mainLoop] at run
      split at run
      · obtain ⟨next, isNext, continues⟩ := Option.bind_eq_some_iff.mp run
        have nextHolds := keeps holds isNext
        split at continues
        · rw [← Option.some.inj continues]
          exact nextHolds
        · exact inductionHypothesis nextHolds continues
      · rw [← Option.some.inj run]
        exact holds

end Iterations

section Related

variable {K : Type}

/-- The edges of two graphs have the same ends and related properties. -/
def EdgesRelated
    (related : EdgeProperties K → EdgeProperties K → Prop)
    (first second : TopologicalGraph K) : Prop :=
  List.Forall₂ (fun old new =>
    new.source = old.source ∧ new.target = old.target ∧
      related old.properties new.properties)
    first.edges second.edges

variable
  {related : EdgeProperties K → EdgeProperties K → Prop}
  {first second : TopologicalGraph K}

theorem EdgesRelated.refl
    {graph : TopologicalGraph K}
    (reflexive :
      ∀ edge ∈ graph.edges, related edge.properties edge.properties) :
    EdgesRelated related graph graph :=
  List.forall₂_same.mpr fun edge member =>
    ⟨rfl, rfl, reflexive edge member⟩

section

variable
  (edges : EdgesRelated related first second)

include edges

theorem EdgesRelated.exists_old
    {new : StoredEdge K}
    (member : new ∈ second.edges) :
    ∃ old ∈ first.edges,
      new.source = old.source ∧ new.target = old.target ∧
        related old.properties new.properties := by
  unfold EdgesRelated at edges
  generalize first.edges = olds, second.edges = currents at edges member ⊢
  induction edges with
  | nil =>
      cases member
  | @cons old current olds currents isRelated _ inductionHypothesis =>
      rcases List.mem_cons.mp member with isHead | inRest
      · rw [isHead]
        exact ⟨old, List.mem_cons_self, isRelated⟩
      · obtain ⟨other, inOlds, holds⟩ := inductionHypothesis inRest
        exact ⟨other, List.mem_cons_of_mem _ inOlds, holds⟩

theorem EdgesRelated.edge?_eq_some
    {u v : Nat}
    {new : StoredEdge K}
    (found : second.edge? u v = some new) :
    ∃ old,
      first.edge? u v = some old ∧
        related old.properties new.properties := by
  unfold EdgesRelated at edges
  unfold TopologicalGraph.edge? at found ⊢
  generalize first.edges = olds, second.edges = currents at edges found ⊢
  induction edges with
  | nil =>
      cases found
  | @cons old current olds currents isRelated _ inductionHypothesis =>
      have sameJoins : current.joins u v = old.joins u v := by
        simp only [StoredEdge.joins, isRelated.1, isRelated.2.1]
      rw [List.find?_cons, sameJoins] at found
      rw [List.find?_cons]
      cases joined : old.joins u v with
      | true =>
          rw [joined] at found
          rw [← Option.some.inj found]
          exact ⟨old, rfl, isRelated.2.2⟩
      | false =>
          rw [joined] at found
          exact inductionHypothesis found

theorem EdgesRelated.flip :
    EdgesRelated (fun new old => related old new) second first := by
  refine List.Forall₂.flip (edges.imp ?_)
  intro old new isRelated
  exact ⟨isRelated.1.symm, isRelated.2.1.symm, isRelated.2.2⟩

theorem EdgesRelated.modifyEdge
    {u v : Nat}
    {change : EdgeProperties K → EdgeProperties K}
    (changes :
      ∀ old new,
        second.edge? u v = some new →
        first.edge? u v = some old →
        related old.properties new.properties →
        related old.properties (change new.properties)) :
    EdgesRelated related first (second.modifyEdge u v change) := by
  unfold EdgesRelated at edges ⊢
  unfold TopologicalGraph.edge? at changes
  change List.Forall₂ _ first.edges
    (modifyFirst (fun edge => edge.joins u v)
      (StoredEdge.mapProperties change) second.edges)
  generalize first.edges = olds, second.edges = currents
    at edges changes ⊢
  induction edges with
  | nil =>
      exact .nil
  | @cons old current olds currents isRelated _ inductionHypothesis =>
      have sameJoins : current.joins u v = old.joins u v := by
        simp only [StoredEdge.joins, isRelated.1, isRelated.2.1]
      simp only [modifyFirst]
      cases joined : old.joins u v with
      | true =>
          rw [if_pos (sameJoins.trans joined)]
          refine .cons ⟨isRelated.1, isRelated.2.1, ?_⟩ (by assumption)
          refine changes old current ?_ ?_ isRelated.2.2
          · simp [sameJoins, joined]
          · simp [joined]
      | false =>
          rw [if_neg (by simp [sameJoins, joined])]
          refine .cons isRelated (inductionHypothesis ?_)
          intro other new isNew isOther
          refine changes other new ?_ ?_
          · simp [sameJoins, joined, isNew]
          · simp [joined, isOther]

end

/-- Relations between edges compose. -/
theorem EdgesRelated.trans
    {third : TopologicalGraph K}
    (composes :
      ∀ {old middle new},
        related old middle → related middle new → related old new)
    (edges : EdgesRelated related first second)
    (further : EdgesRelated related second third) :
    EdgesRelated related first third := by
  unfold EdgesRelated at *
  generalize first.edges = olds, second.edges = middles,
    third.edges = news at edges further ⊢
  induction edges generalizing news with
  | nil =>
      cases further
      exact .nil
  | @cons old middle olds middles isRelated _ inductionHypothesis =>
      cases further with
      | @cons _ new _ news next rest =>
          refine .cons ?_ (inductionHypothesis news rest)
          exact ⟨next.1.trans isRelated.1, next.2.1.trans isRelated.2.1,
            composes isRelated.2.2 next.2.2⟩

theorem EdgesRelated.map
    {third : TopologicalGraph K}
    {change : EdgeProperties K → EdgeProperties K}
    (edges : EdgesRelated related first second)
    (isThird :
      third.edges = second.edges.map (StoredEdge.mapProperties change))
    (changes :
      ∀ edge ∈ second.edges, ∀ old,
        related old edge.properties →
        related old (change edge.properties)) :
    EdgesRelated related first third := by
  unfold EdgesRelated at *
  rw [isThird, List.forall₂_map_right_iff]
  have members :=
    (List.forall₂_and_left _ _).mpr
      ⟨fun (edge : StoredEdge K) (member : edge ∈ second.edges) => member,
        edges.flip⟩
  refine (members.imp ?_).flip
  intro new old ⟨member, isRelated⟩
  exact ⟨isRelated.1, isRelated.2.1,
    changes new member old.properties isRelated.2.2⟩

end Related

section Results

variable {K : Type} [Field K] [LinearOrder K] {request : PlanRequest K}

theorem mem_edgeUpdate
    {graph : TopologicalGraph K}
    {u v : Nat}
    {edge : EdgeProperties K}
    {result : SecondLevelResult K}
    {update : UpdateEdgeDataRequest K}
    (member : update ∈ edgeUpdate request graph u v edge result) :
    ∃ path,
      result.path = some path ∧
        update.path = path ∧
        update.sourceId = (graph.node u).id ∧
        update.targetId = (graph.node v).id ∧
        update.plannedDistance = result.distance ∧
        update.plannedCost = result.cost ∧
        shouldReuse request.reusePaths edge = false ∧
        u ≠ request.startVertex ∧ u ≠ request.goalVertex ∧
        v ≠ request.startVertex ∧ v ≠ request.goalVertex := by
  unfold edgeUpdate at member
  split at member
  · cases member
  · rename_i path isPath
    rw [List.mem_ite_nil_right, List.mem_singleton] at member
    rw [member.2]
    exact ⟨path, isPath, rfl, rfl, rfl, rfl, rfl, member.1.1,
      member.1.2.2⟩

/-- Storing the result of a reused edge keeps it reusable. -/
theorem shouldReuse_storeResult
    {graph : TopologicalGraph K}
    {calls u v : Nat}
    {edge : EdgeProperties K}
    (reuse : shouldReuse request.reusePaths edge = true) :
    shouldReuse request.reusePaths
      (storeResult (edgeResult request graph calls u v edge) edge) =
        true := by
  have hasPath : edge.path ≠ none := by
    intro noPath
    simp [shouldReuse, noPath] at reuse
  obtain ⟨path, isPath⟩ := Option.ne_none_iff_exists'.mp hasPath
  simp only [edgeResult, reuse, if_true, storeResult, isPath]
  simpa [shouldReuse, isPreplanned, isPath] using reuse

end Results

section Requests

variable
  {K : Type} [Field K] [LinearOrder K] [SquareRoot K]
  {request : PlanRequest K}
  {related : EdgeProperties K → EdgeProperties K → Prop}
  {start : TopologicalGraph K}
  {state next : PlannerState K}

/-- An update is sent for an edge that is related to the edge at the start. -/
def SentFor
    (request : PlanRequest K)
    (related : EdgeProperties K → EdgeProperties K → Prop)
    (start : TopologicalGraph K)
    (update : UpdateEdgeDataRequest K) : Prop :=
  ∃ graph calls u v, ∃ old edge : StoredEdge K,
    SameShape start graph ∧
      filteredEdge? start request.disabledVertices u v = some old ∧
      related old.properties edge.properties ∧
      update ∈
        edgeUpdate request graph u v edge.properties
          (edgeResult request graph calls u v edge.properties)

/-- What the search keeps about the edges of its graph. -/
structure SearchKeeps
    (request : PlanRequest K)
    (related : EdgeProperties K → EdgeProperties K → Prop)
    (start : TopologicalGraph K)
    (state : PlannerState K) : Prop where
  shape : SameShape start state.graph
  openSet : OpenSetValid request state
  edges : EdgesRelated related start state.graph
  updates :
    ∀ update ∈ state.updates, SentFor request related start update

/-- Storing the result of expanding an edge keeps the relation. -/
def StoringKeeps
    (request : PlanRequest K)
    (related : EdgeProperties K → EdgeProperties K → Prop) : Prop :=
  ∀ old edge graph calls u v,
    related old edge →
    related old
      (storeResult (edgeResult request graph calls u v edge) edge)

omit [SquareRoot K] in
theorem SearchKeeps.expanded
    (keeps : SearchKeeps request related start state)
    {u v : Nat}
    {edge : StoredEdge K}
    (found :
      filteredEdge? state.graph request.disabledVertices u v =
        some edge) :
    ∃ old,
      filteredEdge? start request.disabledVertices u v = some old ∧
        related old.properties edge.properties := by
  obtain ⟨uEnabled, vEnabled, isEdge⟩ := filteredEdge?_eq_some.mp found
  obtain ⟨old, isOld, isRelated⟩ := keeps.edges.edge?_eq_some isEdge
  exact ⟨old, filteredEdge?_eq_some.mpr ⟨uEnabled, vEnabled, isOld⟩,
    isRelated⟩

theorem SearchKeeps.step
    (stores : StoringKeeps request related)
    (keeps : SearchKeeps request related start state)
    {nonempty : state.openHeap ≠ []}
    (run : iteration request state nonempty = some next) :
    SearchKeeps request related start next := by
  obtain ⟨entry, edge, relaxed, -, found, -, -, frame⟩ :=
    keeps.openSet.iterated run
  obtain ⟨-, -, isEdge⟩ := filteredEdge?_eq_some.mp found
  refine ⟨?_, frame.openSet, ?_, ?_⟩
  · rw [frame.graph]
    exact keeps.shape.modifyEdge entry.u entry.v _
  · rw [frame.graph]
    refine keeps.edges.modifyEdge ?_
    intro old new isNew _ isRelated
    have same : new = edge :=
      Option.some.inj (isNew.symm.trans isEdge)
    rw [same] at isRelated ⊢
    exact stores _ _ _ _ _ _ isRelated
  · intro update isUpdate
    rw [frame.updates] at isUpdate
    rcases List.mem_append.mp isUpdate with old | new
    · exact keeps.updates update old
    · obtain ⟨old, isOld, isRelated⟩ := keeps.expanded found
      exact ⟨state.graph, state.secondLevelCount, entry.u, entry.v, old,
        edge, keeps.shape, isOld, isRelated, new⟩

section

variable
  (reflexive :
    ∀ edge ∈ start.edges, related edge.properties edge.properties)
  (stores : StoringKeeps request related)

include reflexive stores

theorem LoopState.keeps
    (reachable : LoopState request start state) :
    SearchKeeps request related start state := by
  induction reachable with
  | initial =>
      have opened := initialState_opened request start
      have openSet := opened.openSet
      rw [opened.frame] at openSet ⊢
      refine ⟨SameShape.refl start, openSet, EdgesRelated.refl reflexive, ?_⟩
      intro update isUpdate
      cases isUpdate
  | next _ run inductionHypothesis =>
      exact inductionHypothesis.step stores run

variable (related) in
theorem planTopomapPath_keeps
    {outcome : PlanOutcome K}
    (run : planTopomapPath request start = some outcome) :
    SameShape start outcome.graph ∧
      EdgesRelated related start outcome.graph ∧
      ∀ update ∈ outcome.updates,
        SentFor request related start update := by
  unfold planTopomapPath at run
  split at run
  · rw [← Option.some.inj run]
    refine ⟨SameShape.refl start, EdgesRelated.refl reflexive, ?_⟩
    intro update isUpdate
    cases isUpdate
  · obtain ⟨final, loop, reconstructed⟩ := Option.bind_eq_some_iff.mp run
    have reachable : LoopState request start final :=
      mainLoop_keeps (fun reached step => reached.next step) _ .initial
        loop
    have keeps := reachable.keeps reflexive stores
    unfold reconstruct at reconstructed
    split at reconstructed
    · obtain ⟨path, -, isOutcome⟩ :=
        Option.map_eq_some_iff.mp reconstructed
      rw [← isOutcome]
      exact ⟨keeps.shape, keeps.edges, keeps.updates⟩
    · rw [← Option.some.inj reconstructed]
      exact ⟨keeps.shape, keeps.edges, keeps.updates⟩

end

end Requests

end NavBim
