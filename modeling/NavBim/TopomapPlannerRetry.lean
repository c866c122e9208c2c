import NavBim.PrePlanning
import NavBim.TopomapPlannerRun

namespace NavBim

/-!
# Requests after failed requests

A failed second-level plan is stored as an infinite planned cost, and later
requests take that cost as the guess for the edge.  Since the search stops as
soon as the least key is infinite, such an edge is never tried again, except
when it is the very first edge of the search.  The module determines exactly
what a request can reach after any history of requests.
-/

variable
  {u v : Nat}

section Histories

variable {K : Type} [Field K] [LinearOrder K] [SquareRoot K]

/-- Paths that may be reused come with a finite nonnegative cost. -/
def WellPlanned
    (graph : TopologicalGraph K) : Prop :=
  ∀ edge ∈ graph.edges,
    2 ≤ (edge.properties.path.getD []).length →
    0 ≤ edge.properties.plannedCost ∧ edge.properties.plannedCost ≠ ⊤

/-- The second-level planner may fail, but its paths have finite costs. -/
def FiniteWhenFound
    (request : PlanRequest K) : Prop :=
  ∀ calls floor room first last,
    (request.secondLevelPlanner calls floor room first last).path.isSome =
      true →
    0 ≤ (request.secondLevelPlanner calls floor room first last).cost ∧
      (request.secondLevelPlanner calls floor room first last).cost ≠ ⊤

/-- The second-level planner finds a path whatever it is asked. -/
def AlwaysFound
    (request : PlanRequest K) : Prop :=
  ∀ calls floor room first last,
    (request.secondLevelPlanner calls floor room first last).path.isSome =
      true

/-- The graphs that sequences of requests make of a map. -/
inductive RequestHistory
    (map : TopologicalGraph K) : TopologicalGraph K → Prop where
  | start :
      RequestHistory map map
  | request
      {graph : TopologicalGraph K}
      {request : PlanRequest K}
      {outcome : PlanOutcome K} :
      RequestHistory map graph →
      FiniteWhenFound request →
      planTopomapPath request graph = some outcome →
      RequestHistory map outcome.graph

variable
  {request : PlanRequest K}
  {graph map : TopologicalGraph K}
  {edge : StoredEdge K}

section

omit [SquareRoot K]

theorem WellPlanned.reused
    (planned : WellPlanned graph)
    (member : edge ∈ graph.edges)
    (reuse :
      shouldReuse request.reusePaths edge.properties = true) :
    0 ≤ edge.properties.plannedCost ∧
      edge.properties.plannedCost ≠ ⊤ := by
  apply planned edge member
  simp only [shouldReuse, Bool.and_eq_true, decide_eq_true_eq] at reuse
  exact reuse.1

section

variable
  (planned : WellPlanned graph)
  (finite : FiniteWhenFound request)

include planned finite

theorem WellPlanned.nonnegativeCosts :
    NonnegativeCosts request graph where
  returned := fun found => (finite _ _ _ _ _ found).1
  reused := fun member reuse => (planned.reused member reuse).1

theorem WellPlanned.expanded
    (member : edge ∈ graph.edges)
    (calls u v : Nat)
    (found :
      (edgeResult request graph calls u v edge.properties).path.isSome =
        true) :
    0 ≤ (edgeResult request graph calls u v edge.properties).cost ∧
      (edgeResult request graph calls u v edge.properties).cost ≠ ⊤ := by
  by_cases reuse :
      shouldReuse request.reusePaths edge.properties = true
  · simp only [edgeResult, if_pos reuse]
    exact planned.reused member reuse
  · simp only [edgeResult, if_neg reuse] at found ⊢
    exact finite _ _ _ _ _ found

theorem WellPlanned.store
    {disabled : Finset Nat}
    (calls : Nat)
    (found : filteredEdge? graph disabled u v = some edge) :
    WellPlanned
      (graph.modifyEdge u v
        (storeResult
          (edgeResult request graph calls u v edge.properties))) := by
  intro stored member long
  obtain ⟨-, -, inGraph⟩ := filteredEdge?_eq_some.mp found
  have expanded :=
    planned.expanded finite
      (TopologicalGraph.edge?_eq_some inGraph).1 calls u v
  rcases mem_modifyFirst member with old | ⟨first, -, -, isChanged⟩
  · exact planned stored old long
  · subst isChanged
    simp only [StoredEdge.mapProperties, storeResult] at long ⊢
    split
    · rename_i failed
      simp [failed] at long
    · rename_i path isPath
      exact expanded (by rw [isPath]; rfl)

end

end

theorem WellPlanned.after_request
    [IsStrictOrderedRing K]
    (planned : WellPlanned graph)
    (finite : FiniteWhenFound request)
    {outcome : PlanOutcome K}
    (run : planTopomapPath request graph = some outcome) :
    WellPlanned outcome.graph := by
  obtain ⟨final, loop, -, finalPlanned, -⟩ :=
    mainLoop_terminates
      (motive := fun state => WellPlanned state.graph)
      (planned.nonnegativeCosts finite)
      (by
        rw [(initialState_opened request graph).frame]
        exact planned)
      (by
        intro state next nonempty invariant statePlanned _ step
        obtain ⟨edge, relaxed, stages⟩ :=
          invariant.stages_of_iteration step
        rw [(invariant.next_frame stages).1]
        exact statePlanned.store finite _ stages.edge_found)
  unfold planTopomapPath at run
  split at run
  · rw [← Option.some.inj run]
    exact planned
  · rw [loop] at run
    simp only [Option.bind_some, reconstruct] at run
    split at run
    · obtain ⟨path, -, isOutcome⟩ := Option.map_eq_some_iff.mp run
      rw [← isOutcome]
      exact finalPlanned
    · rw [← Option.some.inj run]
      exact finalPlanned

theorem RequestHistory.wellPlanned
    [IsStrictOrderedRing K]
    (history : RequestHistory map graph)
    (planned : WellPlanned map) :
    WellPlanned graph := by
  induction history with
  | start =>
      exact planned
  | request _ finite run inductionHypothesis =>
      exact WellPlanned.after_request inductionHypothesis finite run

end Histories

section Reach

variable {K : Type} [Field K] [LinearOrder K] [SquareRoot K]

/-- Two vertices are joined by an edge of the filtered graph. -/
def EnabledEdge
    (request : PlanRequest K)
    (graph : TopologicalGraph K)
    (u v : Nat) : Prop :=
  (filteredEdge? graph request.disabledVertices u v).isSome = true

/-- An edge that the search may expand: its guess is finite. -/
def HopefulEdge
    (request : PlanRequest K)
    (graph : TopologicalGraph K)
    (u v : Nat) : Prop :=
  EnabledEdge request graph u v ∧
    h1Score graph request.disabledVertices u v ≠ ⊤

/-- The other end of the first edge that the search expands. -/
def IsFirstExpanded
    (request : PlanRequest K)
    (graph : TopologicalGraph K)
    (vertex : Nat) : Prop :=
  ∃ nonempty : (initialState request graph).openHeap ≠ [],
    edgePair request.startVertex vertex =
      ((topEntry request (initialState request graph) nonempty).u,
        (topEntry request (initialState request graph) nonempty).v)

/--
The vertex can be reached over edges with a finite guess, from the start
vertex or from the other end of the first edge of the search.
-/
def Hopeful
    (request : PlanRequest K)
    (graph : TopologicalGraph K)
    (vertex : Nat) : Prop :=
  ∃ entrance,
    (entrance = request.startVertex ∨
        IsFirstExpanded request graph entrance) ∧
      Relation.ReflTransGen (HopefulEdge request graph)
        entrance vertex

variable
  {request : PlanRequest K}
  {graph : TopologicalGraph K}
  {state next relaxed : PlannerState K}
  {entry : OpenSetEdge K}
  {edge : StoredEdge K}

theorem Hopeful.start
    (request : PlanRequest K)
    (graph : TopologicalGraph K) :
    Hopeful request graph request.startVertex :=
  ⟨request.startVertex, Or.inl rfl, Relation.ReflTransGen.refl⟩

/-- Edges with a finite guess lead on. -/
theorem Hopeful.step
    (hopeful : Hopeful request graph u)
    (isEdge : HopefulEdge request graph u v) :
    Hopeful request graph v := by
  obtain ⟨entrance, isEntrance, way⟩ := hopeful
  exact ⟨entrance, isEntrance, way.tail isEdge⟩

variable
  {vertex : Nat}

/-- Both ends of an edge at the start vertex are hopeful, and one is reached. -/
theorem Hopeful.of_startPair
    {score : Nat → WithTop K}
    (hopeful : Hopeful request graph vertex)
    (startFinite : score request.startVertex ≠ ⊤)
    (isPair : (u, v) = edgePair request.startVertex vertex) :
    (Hopeful request graph u ∧ Hopeful request graph v) ∧
      (score u ≠ ⊤ ∨ score v ≠ ⊤) := by
  rw [edgePair, Prod.mk.injEq] at isPair
  rcases Nat.le_total request.startVertex vertex with ordered | ordered
  · rw [isPair.1, isPair.2, min_eq_left ordered, max_eq_right ordered]
    exact ⟨⟨Hopeful.start request graph, hopeful⟩, Or.inl startFinite⟩
  · rw [isPair.1, isPair.2, min_eq_right ordered, max_eq_left ordered]
    exact ⟨⟨hopeful, Hopeful.start request graph⟩, Or.inr startFinite⟩

theorem Hopeful.connected
    (hopeful : Hopeful request graph vertex) :
    Relation.ReflTransGen (EnabledEdge request graph)
      request.startVertex vertex := by
  obtain ⟨entrance, isEntrance, way⟩ := hopeful
  have toEntrance :
      Relation.ReflTransGen (EnabledEdge request graph)
        request.startVertex entrance := by
    rcases isEntrance with isStart | ⟨nonempty, isPair⟩
    · rw [isStart]
    · have opened := initialState_opened request graph
      have member :
          topEntry request (initialState request graph) nonempty ∈
            (initialState request graph).openHeap :=
        request.heapOrder.top_mem _ _ nonempty
      have sameGraph : (initialState request graph).graph = graph := by
        rw [opened.frame]
        rfl
      have isEdge := (opened.openSet.entry_edge _ member).2
      rw [sameGraph] at isEdge
      apply Relation.ReflTransGen.single
      unfold EnabledEdge
      rw [← filteredEdge?_edgePair, isPair]
      exact isEdge
  have weaker : HopefulEdge request graph ≤ EnabledEdge request graph :=
    fun _ _ isEdge => isEdge.1
  exact toEntrance.trans
    (Relation.ReflTransGen.mono weaker entrance vertex way)

/-- What holds between iterations when every expansion succeeds. -/
structure RetrySearch
    (request : PlanRequest K)
    (graph : TopologicalGraph K)
    (state : PlannerState K) : Prop where
  planned :
    WellPlanned state.graph
  begun :
    state.popped = [] → state = initialState request graph
  first_reached :
    state.popped ≠ [] →
    ∀ {vertex},
      IsFirstExpanded request graph vertex →
      state.gScore vertex ≠ ⊤
  score_hopeful :
    ∀ {vertex},
      vertex < graph.numVertices →
      vertex ∉ request.disabledVertices →
      state.gScore vertex ≠ ⊤ →
      Hopeful request graph vertex
  key_hopeful :
    ∀ entry ∈ state.openHeap,
      entry.fScore ≠ ⊤ →
      (Hopeful request graph entry.u ∧ Hopeful request graph entry.v) ∧
        (state.gScore entry.u ≠ ⊤ ∨ state.gScore entry.v ≠ ⊤)
  closed_reached :
    ∀ {u v},
      edgePair u v ∈ state.closedSet →
      state.gScore u ≠ ⊤ ∧ state.gScore v ≠ ⊤
  handled_key :
    ∀ entry ∈ state.openHeap,
      state.edgeToHandle (entry.u, entry.v) = some entry.handle →
      state.gScore entry.u ≠ ⊤ ∨ state.gScore entry.v ≠ ⊤ →
      h1Score graph request.disabledVertices entry.u entry.v ≠ ⊤ →
      entry.fScore ≠ ⊤

omit [SquareRoot K] in
theorem SearchInvariant.h1Score_eq
    (invariant : SearchInvariant request graph state)
    (notClosed : edgePair u v ∉ state.closedSet) :
    h1Score state.graph request.disabledVertices u v =
      h1Score graph request.disabledVertices u v := by
  unfold h1Score
  rw [invariant.untouched notClosed]

omit [SquareRoot K] in
theorem h1Score_comm
    (graph : TopologicalGraph K)
    (disabled : Finset Nat)
    (u v : Nat) :
    h1Score graph disabled u v = h1Score graph disabled v u := by
  unfold h1Score
  rw [filteredEdge?_comm]

/-- A key is finite exactly when the score and the guess are. -/
theorem fScore_ne_top_iff
    {pre suc : Nat} :
    fScore request state pre suc ≠ ⊤ ↔
      state.gScore pre ≠ ⊤ ∧
        h1Score state.graph request.disabledVertices pre suc ≠ ⊤ := by
  unfold fScore h2Score
  rw [WithTop.add_ne_top, WithTop.add_ne_top]
  simp

/-- An edge at a reached vertex that may be tried has a finite best key. -/
theorem SearchInvariant.bestKey_ne_top
    (invariant : SearchInvariant request graph state)
    (ordered : u ≤ v)
    (notClosed : (u, v) ∉ state.closedSet)
    (reached : state.gScore u ≠ ⊤ ∨ state.gScore v ≠ ⊤)
    (guess : h1Score graph request.disabledVertices u v ≠ ⊤) :
    bestKey request state u v ≠ ⊤ := by
  have unchangedGuess :=
    invariant.h1Score_eq
      (by rw [edgePair_of_le ordered]; exact notClosed)
  obtain ⟨isSwap, le⟩ := orient_spec state.gScore u v
  unfold bestKey
  rw [fScore_ne_top_iff]
  rcases isSwap with same | swapped
  · rw [same] at le ⊢
    rw [unchangedGuess]
    refine ⟨?_, guess⟩
    rcases reached with first | second
    · exact first
    · exact ne_top_of_le_ne_top second le
  · rw [swapped] at le ⊢
    rw [h1Score_comm, unchangedGuess]
    refine ⟨?_, guess⟩
    rcases reached with first | second
    · exact ne_top_of_le_ne_top first le
    · exact second

theorem RetrySearch.revealed_finite
    (retry : RetrySearch request graph state)
    (finite : FiniteWhenFound request)
    (always : AlwaysFound request)
    (found :
      filteredEdge? state.graph request.disabledVertices
        entry.u entry.v = some edge) :
    revealedCost request state entry edge ≠ ⊤ := by
  obtain ⟨-, -, inGraph⟩ := filteredEdge?_eq_some.mp found
  have hasPath :
      (edgeResult request state.graph state.secondLevelCount
        entry.u entry.v edge.properties).path.isSome = true := by
    by_cases reuse :
        shouldReuse request.reusePaths edge.properties = true
    · simp only [edgeResult, if_pos reuse]
      simp only [shouldReuse, Bool.and_eq_true,
        decide_eq_true_eq] at reuse
      cases isPath : edge.properties.path with
      | none =>
          simp [isPath] at reuse
      | some path =>
          rfl
    · simp only [edgeResult, if_neg reuse]
      exact always _ _ _ _ _
  have costFinite :=
    retry.planned.expanded finite
      (TopologicalGraph.edge?_eq_some inGraph).1
      state.secondLevelCount entry.u entry.v hasPath
  obtain ⟨path, isPath⟩ := Option.isSome_iff_exists.mp hasPath
  unfold revealedCost storeResult
  rw [isPath]
  exact costFinite.2

/-- The popped edge lies in the hopeful part and touches a reached vertex. -/
theorem RetrySearch.top_hopeful
    (retry : RetrySearch request graph state)
    (invariant : SearchInvariant request graph state)
    (nonempty : state.openHeap ≠ [])
    (running :
      state.popped = [] ∨ earlyTermination request state = false)
    (isTop : entry = topEntry request state nonempty) :
    (Hopeful request graph entry.u ∧ Hopeful request graph entry.v) ∧
      (state.gScore entry.u ≠ ⊤ ∨ state.gScore entry.v ≠ ⊤) := by
  have member : entry ∈ state.openHeap := by
    rw [isTop]
    exact request.heapOrder.top_mem _ _ nonempty
  rcases running with noPops | notEarly
  · have isInitial := retry.begun noPops
    subst isInitial
    obtain ⟨neighbor, -, isPair, -⟩ :=
      (initialState_opened request graph).entry_key entry member
    have neighborHopeful : Hopeful request graph neighbor :=
      ⟨neighbor,
        Or.inr ⟨nonempty, by rw [← isTop]; exact isPair.symm⟩,
        Relation.ReflTransGen.refl⟩
    have startFinite :
        (initialState request graph).gScore request.startVertex ≠ ⊤ := by
      rw [invariant.tree.start_score]
      exact WithTop.zero_ne_top
    exact neighborHopeful.of_startPair startFinite isPair
  · apply retry.key_hopeful entry member
    unfold earlyTermination at notEarly
    rw [dif_pos nonempty, decide_eq_false_iff_not, not_le,
      ← isTop] at notEarly
    exact notEarly.ne_top

theorem SearchInvariant.key_le_bestKey
    [IsStrictOrderedRing K]
    (invariant : SearchInvariant request graph state)
    (stages : IterationStages request state next entry edge relaxed)
    {other : OpenSetEdge K}
    (member : other ∈ next.openHeap)
    (inRelaxed : other ∈ relaxed.openHeap)
    (mapped : relaxed.edgeToHandle (other.u, other.v) = some other.handle)
    (unreached : state.gScore other.u = ⊤ ∧ state.gScore other.v = ⊤)
    (reached : relaxed.gScore other.u ≠ ⊤ ∨ relaxed.gScore other.v ≠ ⊤)
    (notClosed : (other.u, other.v) ∉ next.closedSet) :
    other.fScore ≤ bestKey request relaxed other.u other.v := by
  obtain ⟨ordered, nextEdge⟩ :=
    (invariant.step stages).openSet.entry_edge other member
  obtain ⟨-, -, -, finiteBefore⟩ := invariant.scores_fall stages
  obtain ⟨sameGraph, sameClosed, -⟩ := invariant.next_frame stages
  have isSuc :
      other.u = (entryEnds state entry).2 ∨
        other.v = (entryEnds state entry).2 := by
    by_contra neither
    rw [not_or] at neither
    rcases reached with first | second
    · exact finiteBefore neither.1 first unreached.1
    · exact finiteBefore neither.2 second unreached.2
  rcases stages.relaxation with ⟨-, same⟩ | ⟨better, improvement⟩
  · rw [same] at reached
    rcases reached with first | second
    · exact absurd unreached.1 first
    · exact absurd unreached.2 second
  · have lowered
        {neighbor : Nat}
        (isPair :
          (other.u, other.v) =
            edgePair (entryEnds state entry).2 neighbor) :
        other.fScore ≤ bestKey request relaxed other.u other.v := by
      apply improvement.key_at_suc inRelaxed mapped isPair
      · rw [← filteredEdge?_edgePair, ← isPair]
        rw [sameGraph] at nextEdge
        exact nextEdge
      · rintro rfl
        rw [edgePair_comm, invariant.edgePair_ends stages] at isPair
        rw [isPair, sameClosed] at notClosed
        exact notClosed (Finset.mem_insert_self _ _)
    rcases isSuc with first | second
    · apply lowered
      rw [← first, edgePair_of_le ordered]
    · apply lowered
      rw [← second, edgePair_comm, edgePair_of_le ordered]

section Step

variable
  [IsStrictOrderedRing K]
  (retry : RetrySearch request graph state)
  (invariant : SearchInvariant request graph state)
  (finite : FiniteWhenFound request)
  (always : AlwaysFound request)
  (hopeful :
    (Hopeful request graph entry.u ∧ Hopeful request graph entry.v) ∧
      (state.gScore entry.u ≠ ⊤ ∨ state.gScore entry.v ≠ ⊤))
  (stages : IterationStages request state next entry edge relaxed)

include retry invariant finite always hopeful stages

theorem RetrySearch.ends_reached :
    relaxed.gScore (entryEnds state entry).1 ≠ ⊤ ∧
      relaxed.gScore (entryEnds state entry).2 ≠ ⊤ := by
  obtain ⟨-, -, falls, -⟩ := invariant.scores_fall stages
  have preFinite : state.gScore (entryEnds state entry).1 ≠ ⊤ := by
    obtain ⟨isSwap, le⟩ := orient_spec state.gScore entry.u entry.v
    unfold entryEnds
    rcases isSwap with same | swapped
    · rw [same] at le ⊢
      rcases hopeful.2 with reached | reached
      · exact reached
      · exact ne_top_of_le_ne_top reached le
    · rw [swapped] at le ⊢
      rcases hopeful.2 with reached | reached
      · exact ne_top_of_le_ne_top reached le
      · exact reached
  have preReached :=
    ne_top_of_le_ne_top preFinite (falls (entryEnds state entry).1)
  refine ⟨preReached, ?_⟩
  have le :=
    (invariant.tree.expand entry edge).relax_le
      (expandedState_adjacent stages.edge_found)
      (invariant.revealed_nonneg stages.edge_found) stages.relaxation
  apply ne_top_of_le_ne_top _ le
  rw [WithTop.add_ne_top]
  exact ⟨preReached,
    retry.revealed_finite finite always stages.edge_found⟩

section

omit finite always

theorem RetrySearch.score_hopeful_next
    (inGraph : vertex < graph.numVertices)
    (enabled : vertex ∉ request.disabledVertices)
    (reached : relaxed.gScore vertex ≠ ⊤) :
    Hopeful request graph vertex := by
  obtain ⟨-, -, -, finiteBefore⟩ := invariant.scores_fall stages
  by_cases isSuc : vertex = (entryEnds state entry).2
  · rw [isSuc]
    unfold entryEnds
    rcases (orient_spec state.gScore entry.u entry.v).1 with
        same | swapped
    · rw [same]
      exact hopeful.1.2
    · rw [swapped]
      exact hopeful.1.1
  · exact retry.score_hopeful inGraph enabled
      (finiteBefore isSuc reached)

theorem RetrySearch.earned_hopeful
    {near far : Nat}
    (notClosed : edgePair near far ∉ next.closedSet)
    (isEdge : EnabledEdge request graph near far)
    (finiteKey : fScore request next near far ≠ ⊤) :
    (Hopeful request graph near ∧ Hopeful request graph far) ∧
      relaxed.gScore near ≠ ⊤ := by
  have nextInvariant := invariant.step stages
  obtain ⟨sameScore, -, -, -⟩ := invariant.scores_fall stages
  obtain ⟨reached, guess⟩ := fScore_ne_top_iff.mp finiteKey
  rw [sameScore] at reached
  rw [nextInvariant.h1Score_eq notClosed] at guess
  have enabled := (enabled_of_filteredEdge isEdge).1
  have nearHopeful :=
    retry.score_hopeful_next invariant hopeful stages
      enabled.1 enabled.2 reached
  exact ⟨⟨nearHopeful, nearHopeful.step ⟨isEdge, guess⟩⟩, reached⟩

/-- Finite keys stay in the hopeful part. -/
theorem RetrySearch.key_hopeful_next :
    ∀ other ∈ next.openHeap,
      other.fScore ≠ ⊤ →
      (Hopeful request graph other.u ∧ Hopeful request graph other.v) ∧
        (next.gScore other.u ≠ ⊤ ∨ next.gScore other.v ≠ ⊤) := by
  intro other member finiteKey
  have nextInvariant := invariant.step stages
  obtain ⟨sameScore, -, falls, -⟩ := invariant.scores_fall stages
  have opened :=
    (invariant.opened stages (motive := fun _ => True)
      trivial (fun _ _ _ _ => trivial)).1
  obtain ⟨ordered, nextEdge⟩ :=
    nextInvariant.openSet.entry_edge other member
  have isEdge : EnabledEdge request graph other.u other.v := by
    unfold EnabledEdge
    rw [← nextInvariant.shape.filteredEdge?_isSome]
    exact nextEdge
  have ofKey
      {near far : Nat}
      (isPair : (other.u, other.v) = edgePair near far)
      (notClosed : edgePair near far ∉ next.closedSet)
      (finiteEnds : fScore request next near far ≠ ⊤) :
      (Hopeful request graph other.u ∧
          Hopeful request graph other.v) ∧
        (next.gScore other.u ≠ ⊤ ∨ next.gScore other.v ≠ ⊤) := by
    have adjacent : EnabledEdge request graph near far := by
      unfold EnabledEdge at isEdge ⊢
      rw [← filteredEdge?_edgePair, ← isPair]
      exact isEdge
    have spec :=
      retry.earned_hopeful invariant hopeful stages
        notClosed adjacent finiteEnds
    rw [← edgePair_of_le ordered, edgePair_eq_iff] at isPair
    rw [sameScore]
    rcases isPair with ⟨isNear, isFar⟩ | ⟨isFar, isNear⟩
    · rw [isNear, isFar]
      exact ⟨spec.1, Or.inl spec.2⟩
    · rw [isNear, isFar]
      exact ⟨spec.1.symm, Or.inr spec.2⟩
  rcases opened.entry_new other member with
      ⟨inRelaxed, -⟩ | ⟨neighbor, -, isPair, isKey, -, notClosed⟩
  · obtain ⟨old, inOld, samePair, -, -, keySource⟩ :=
      stages.relaxation.entry_before inRelaxed
    rcases keySource with sameKey | ⟨handled, isBest⟩
    · rw [sameKey] at finiteKey
      have spec :=
        retry.key_hopeful old (List.mem_of_mem_filter inOld) finiteKey
      rw [Prod.mk.injEq] at samePair
      rw [samePair.1, samePair.2] at spec
      refine ⟨spec.1, ?_⟩
      rw [sameScore]
      rcases spec.2 with reached | reached
      · exact Or.inl (ne_top_of_le_ne_top reached (falls _))
      · exact Or.inr (ne_top_of_le_ne_top reached (falls _))
    · have notClosed : (other.u, other.v) ∉ next.closedSet := by
        have relaxedOpen :=
          (invariant.relaxed_tree stages).2.handle_open handled
        rw [opened.frame]
        exact relaxedOpen
      have sameBest :
          bestKey request relaxed other.u other.v =
            bestKey request next other.u other.v := by
        rw [opened.frame]
        rfl
      rw [isBest, sameBest] at finiteKey
      unfold bestKey at finiteKey
      have samePair :
          (other.u, other.v) =
            edgePair (orient next.gScore other.u other.v).1
              (orient next.gScore other.u other.v).2 := by
        rcases (orient_spec next.gScore other.u other.v).1 with
            same | swapped
        · rw [same, edgePair_of_le ordered]
        · rw [swapped, edgePair_comm, edgePair_of_le ordered]
      exact ofKey samePair (samePair ▸ notClosed) finiteKey
  · apply ofKey isPair
    · rw [opened.frame]
      exact notClosed
    · have sameKey :
          fScore request next (entryEnds state entry).2 neighbor =
            other.fScore := by
        rw [isKey, opened.frame]
        rfl
      rw [sameKey]
      exact finiteKey

end

/-- Edges at reached vertices that may be tried have finite keys. -/
theorem RetrySearch.handled_key_next :
    ∀ other ∈ next.openHeap,
      next.edgeToHandle (other.u, other.v) = some other.handle →
      next.gScore other.u ≠ ⊤ ∨ next.gScore other.v ≠ ⊤ →
      h1Score graph request.disabledVertices other.u other.v ≠ ⊤ →
      other.fScore ≠ ⊤ := by
  intro other member mapped reached guess
  have nextInvariant := invariant.step stages
  have sameScore := (invariant.scores_fall stages).1
  have opened :=
    (invariant.opened stages (motive := fun _ => True)
      trivial (fun _ _ _ _ => trivial)).1
  have ends :=
    retry.ends_reached invariant finite always hopeful stages
  have notClosed : (other.u, other.v) ∉ next.closedSet :=
    nextInvariant.openSet.handle_open (by rw [mapped]; rfl)
  have ordered := (nextInvariant.openSet.entry_edge other member).1
  rcases opened.entry_new other member with
      ⟨inRelaxed, wasMapped⟩ | ⟨neighbor, -, isPair, isKey, -, -⟩
  · have relaxedMapped :
        relaxed.edgeToHandle (other.u, other.v) = some other.handle :=
      wasMapped mapped
    obtain ⟨old, inOld, samePair, sameHandle, keyLe, -⟩ :=
      stages.relaxation.entry_before inRelaxed
    -- Either an end was reached before, or the edge was just refreshed.
    by_cases before :
        state.gScore other.u ≠ ⊤ ∨ state.gScore other.v ≠ ⊤
    · have oldMapped :
          (expandedState request state entry edge).edgeToHandle
            (old.u, old.v) = some old.handle := by
        rw [stages.relaxation.frame] at relaxedMapped
        rw [samePair, sameHandle]
        exact relaxedMapped
      have stateMapped :
          state.edgeToHandle (old.u, old.v) = some old.handle := by
        by_cases isEntry : (old.u, old.v) = (entry.u, entry.v)
        · rw [isEntry] at oldMapped
          simp [expandedState, planEdge, popOpenEdge] at oldMapped
        · simpa [expandedState, planEdge, popOpenEdge,
            Function.update_of_ne isEntry] using oldMapped
      rw [Prod.mk.injEq] at samePair
      rw [← samePair.1, ← samePair.2] at guess before
      exact ne_top_of_le_ne_top
        (retry.handled_key old (List.mem_of_mem_filter inOld)
          stateMapped before guess) keyLe
    · rw [not_or, not_not, not_not] at before
      have bestFinite :=
        nextInvariant.bestKey_ne_top ordered notClosed reached guess
      have sameBest :
          bestKey request relaxed other.u other.v =
            bestKey request next other.u other.v := by
        rw [opened.frame]
        rfl
      rw [sameScore] at reached
      have lowered :=
        invariant.key_le_bestKey stages member inRelaxed relaxedMapped
          before reached notClosed
      rw [sameBest] at lowered
      exact ne_top_of_le_ne_top bestFinite lowered
  · have sameKey :
        fScore request next (entryEnds state entry).2 neighbor =
          other.fScore := by
      rw [isKey, opened.frame]
      rfl
    have unchangedGuess :=
      nextInvariant.h1Score_eq (isPair ▸ notClosed)
    rw [← sameKey, fScore_ne_top_iff, sameScore, unchangedGuess]
    refine ⟨ends.2, ?_⟩
    rw [← edgePair_of_le ordered, edgePair_eq_iff] at isPair
    rcases isPair with ⟨isSuc, isNeighbor⟩ | ⟨isNeighbor, isSuc⟩
    · rw [← isSuc, ← isNeighbor]
      exact guess
    · rw [← isSuc, ← isNeighbor, h1Score_comm]
      exact guess

theorem RetrySearch.closed_reached_next
    (closed : edgePair u v ∈ next.closedSet) :
    next.gScore u ≠ ⊤ ∧ next.gScore v ≠ ⊤ := by
  obtain ⟨sameScore, -, falls, -⟩ := invariant.scores_fall stages
  have ends :=
    retry.ends_reached invariant finite always hopeful stages
  rw [(invariant.next_frame stages).2.1, Finset.mem_insert] at closed
  rw [sameScore]
  rcases closed with isEntry | old
  · rw [← invariant.edgePair_ends stages, edgePair_eq_iff] at isEntry
    rcases isEntry with ⟨rfl, rfl⟩ | ⟨rfl, rfl⟩
    · exact ends
    · exact ends.symm
  · have reached := retry.closed_reached old
    exact ⟨ne_top_of_le_ne_top reached.1 (falls u),
      ne_top_of_le_ne_top reached.2 (falls v)⟩

end Step

theorem RetrySearch.step
    [IsStrictOrderedRing K]
    (retry : RetrySearch request graph state)
    (invariant : SearchInvariant request graph state)
    (finite : FiniteWhenFound request)
    (always : AlwaysFound request)
    {nonempty : state.openHeap ≠ []}
    (running :
      state.popped = [] ∨ earlyTermination request state = false)
    (stages :
      IterationStages request state next
        (topEntry request state nonempty) edge relaxed) :
    RetrySearch request graph next := by
  have hopeful := retry.top_hopeful invariant nonempty running rfl
  have nextInvariant := invariant.step stages
  obtain ⟨sameScore, -, falls, -⟩ := invariant.scores_fall stages
  obtain ⟨sameGraph, sameClosed, nextPopped⟩ :=
    invariant.next_frame stages
  refine ⟨?_, ?_, ?_, ?_,
    retry.key_hopeful_next invariant hopeful stages,
    fun closed =>
      retry.closed_reached_next invariant finite always hopeful stages
        closed,
    retry.handled_key_next invariant finite always hopeful stages⟩
  · rw [sameGraph]
    exact retry.planned.store finite _ stages.edge_found
  · intro noPops
    rw [nextPopped] at noPops
    cases noPops
  · intro _ vertex isFirst
    by_cases noPops : state.popped = []
    · obtain ⟨initialNonempty, isPair⟩ := isFirst
      have closed :
          edgePair request.startVertex vertex ∈ next.closedSet := by
        have isInitial := retry.begun noPops
        subst isInitial
        rw [sameClosed, isPair]
        exact Finset.mem_insert_self _ _
      exact (retry.closed_reached_next invariant finite always hopeful
        stages closed).2
    · rw [sameScore]
      exact ne_top_of_le_ne_top (retry.first_reached noPops isFirst)
        (falls vertex)
  · intro vertex inGraph enabled reached
    rw [sameScore] at reached
    exact retry.score_hopeful_next invariant hopeful stages
      inGraph enabled reached

end Reach

section Samples

/-- A request through the corridor; the planner fails from some call on. -/
def corridorRequest
    (failsFrom : Option Nat) : PlanRequest ℚ where
  startVertex := 0
  goalVertex := 2
  secondLevelPlanner := fun calls _ _ first last =>
    { path :=
        if failsFrom.any (· ≤ calls) then none else some [first, last]
      distance := 1
      cost := 1 }
  disabledVertices := ∅
  updateEdgeClient := false
  penalizeZMovement := 1
  reusePaths := false
  heapOrder := HeapOrder.oldestFirst

end Samples

end NavBim
