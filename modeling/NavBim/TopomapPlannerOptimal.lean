import NavBim.EdgeSearch
import NavBim.Numerals
import NavBim.TopomapPlannerExact

namespace NavBim

/-!
# Completeness and optimality of the planner

The planner is a best-first search in the sense of `EdgeSearch`: the guess of
an edge is its `h1Score`, its true cost is what expanding it reveals, and the
metric is `costBetweenNodes`.  When guesses lie between the metric and the
true cost, the result is a way of least cost.
-/

open ParentForest

attribute [local instance] atLeastTwo_2 atLeastTwo_10 atLeastTwo_1000

section Problem

variable {K : Type} [Field K] [LinearOrder K]

/-- The second-level planner keeps no state. -/
def FixedPlanner
    (request : PlanRequest K) : Prop :=
  ∀ calls floor room first last,
    request.secondLevelPlanner calls floor room first last =
      request.secondLevelPlanner 0 floor room first last

/-- The cost of an edge after it has been expanded on the given graph. -/
def expandedCost
    (request : PlanRequest K)
    (graph : TopologicalGraph K)
    (u v : Nat) : WithTop K :=
  match filteredEdge? graph request.disabledVertices u v with
  | none => ⊤
  | some edge =>
      (storeResult
        (edgeResult request graph 0 (min u v) (max u v) edge.properties)
        edge.properties).plannedCost

/-- The search problem that a request poses. -/
def planProblem
    [SquareRoot K]
    (request : PlanRequest K)
    (graph : TopologicalGraph K) : EdgeSearch.Problem Nat K where
  start := request.startVertex
  goal := request.goalVertex
  Adjacent := fun u v =>
    (filteredEdge? graph request.disabledVertices u v).isSome = true
  cost := expandedCost request graph
  guess := h1Score graph request.disabledVertices
  metric := fun u v =>
    costBetweenNodes graph u v request.penalizeZMovement

variable
  {request : PlanRequest K}
  {graph : TopologicalGraph K}
  {state next relaxed : PlannerState K}
  {entry : OpenSetEdge K}
  {edge : StoredEdge K}

theorem expandedCost_comm
    (u v : Nat) :
    expandedCost request graph u v = expandedCost request graph v u := by
  unfold expandedCost
  rw [filteredEdge?_comm, min_comm, max_comm]

theorem expandedCost_congr
    {u v a b : Nat}
    (same : edgePair u v = edgePair a b) :
    expandedCost request graph u v = expandedCost request graph a b := by
  rcases edgePair_eq_iff.mp same with ⟨rfl, rfl⟩ | ⟨rfl, rfl⟩
  · rfl
  · exact expandedCost_comm _ _

omit [Field K] [LinearOrder K] in
theorem roomId_storeResult
    (result : SecondLevelResult K)
    (properties : EdgeProperties K) :
    (storeResult result properties).roomId = properties.roomId := by
  unfold storeResult
  cases result.path <;> rfl

end Problem

section Search

variable
  {K : Type} [Field K] [LinearOrder K] [SquareRoot K]
  {request : PlanRequest K}
  {graph : TopologicalGraph K}
  {state next relaxed : PlannerState K}
  {entry : OpenSetEdge K}
  {edge : StoredEdge K}

section KnownCosts

/-- Closed edges carry the cost that expanding them on `graph` reveals. -/
structure KnownCosts
    (request : PlanRequest K)
    (graph : TopologicalGraph K)
    (state : PlannerState K) : Prop where
  names :
    ∀ u v, edgeNames state.graph u v = edgeNames graph u v
  closed :
    ∀ {u v planned},
      edgePair u v ∈ state.closedSet →
      filteredEdge? state.graph request.disabledVertices u v =
        some planned →
      planned.properties.plannedCost = expandedCost request graph u v

/-- Nothing is closed initially. -/
theorem initialState_knownCosts
    (request : PlanRequest K)
    (graph : TopologicalGraph K) :
    KnownCosts request graph (initialState request graph) := by
  rw [(initialState_opened request graph).frame]
  refine ⟨fun _ _ => rfl, ?_⟩
  intro u v planned closed
  cases closed

omit [SquareRoot K] in
theorem KnownCosts.revealed
    (known : KnownCosts request graph state)
    (fixed : FixedPlanner request)
    (invariant : SearchInvariant request graph state)
    (simple : SimpleSearch request state)
    (member : entry ∈ state.openHeap)
    (found :
      filteredEdge? state.graph request.disabledVertices
        entry.u entry.v = some edge) :
    revealedCost request state entry edge =
      expandedCost request graph entry.u entry.v := by
  have ordered := (invariant.openSet.entry_edge entry member).1
  have notClosed := simple.entry_not_closed invariant member
  rw [← edgePair_of_le ordered] at notClosed
  have original := invariant.untouched notClosed
  rw [found] at original
  have sameResult :
      edgeResult request state.graph state.secondLevelCount
          entry.u entry.v edge.properties =
        edgeResult request graph 0 entry.u entry.v edge.properties := by
    unfold edgeResult
    rw [known.names, invariant.shape.node, invariant.shape.node]
    simp only [fixed state.secondLevelCount]
  unfold revealedCost expandedCost
  rw [← original, sameResult, min_eq_left ordered, max_eq_right ordered]

theorem KnownCosts.step
    [IsStrictOrderedRing K]
    (known : KnownCosts request graph state)
    (fixed : FixedPlanner request)
    (invariant : SearchInvariant request graph state)
    (simple : SimpleSearch request state)
    (stages : IterationStages request state next entry edge relaxed) :
    KnownCosts request graph next := by
  obtain ⟨sameGraph, sameClosed, -⟩ := invariant.next_frame stages
  have ordered :=
    (invariant.openSet.entry_edge entry stages.entry_mem).1
  have revealed :=
    known.revealed fixed invariant simple stages.entry_mem
      stages.edge_found
  refine ⟨?_, ?_⟩
  · intro u v
    rw [sameGraph, edgeNames_modifyEdge _ _ _ (roomId_storeResult _)]
    exact known.names u v
  · intro u v planned closed found
    by_cases isEntry : edgePair u v = (entry.u, entry.v)
    · have atEntry :
          filteredEdge? next.graph request.disabledVertices
            entry.u entry.v = some planned := by
        have atPair :=
          filteredEdge?_edgePair next.graph request.disabledVertices u v
        rw [isEntry] at atPair
        rw [atPair]
        exact found
      rw [sameGraph, filteredEdge?_modifyEdge_same, stages.edge_found,
        Option.map_some, Option.some.injEq] at atEntry
      rw [← edgePair_of_le ordered] at isEntry
      rw [← atEntry, expandedCost_congr isEntry]
      exact revealed
    · rw [sameClosed, Finset.mem_insert] at closed
      rw [sameGraph, filteredEdge?_modifyEdge_other] at found
      · exact known.closed (closed.resolve_left isEntry) found
      · rw [← edgePair_eq_iff, edgePair_of_le ordered]
        exact isEntry

end KnownCosts

variable
  {pre suc : Nat}

section Keys

/--
The keys in the heap fit the scores: a key is not above what its edge promises
from the strictly better end, and not below what it promises from some end.
-/
structure KeysFit
    (request : PlanRequest K)
    (state : PlannerState K) : Prop where
  key_le :
    ∀ entry ∈ state.openHeap,
      ∀ {near far},
        (entry.u, entry.v) = edgePair near far →
        state.gScore near < state.gScore far →
        entry.fScore ≤ fScore request state near far
  le_key :
    ∀ entry ∈ state.openHeap,
      ∃ near far,
        (entry.u, entry.v) = edgePair near far ∧
          fScore request state near far ≤ entry.fScore

theorem initialState_keysFit
    (costs : NonnegativeCosts request graph) :
    KeysFit request (initialState request graph) := by
  have opened := initialState_opened request graph
  have invariant := initialState_invariant costs
  have startKey
      (neighbor : Nat) :
      fScore request (initialState request graph)
          request.startVertex neighbor =
        h1Score graph request.disabledVertices
            request.startVertex neighbor +
          h2Score request graph neighbor := by
    have sameGraph : (initialState request graph).graph = graph := by
      rw [opened.frame]
      rfl
    simp only [fScore, invariant.tree.start_score, zero_add, sameGraph]
  refine ⟨?_, ?_⟩
  · intro entry member near far isPair nearer
    obtain ⟨neighbor, inTargets, startPair, isKey⟩ :=
      opened.entry_key entry member
    rw [isPair, edgePair_eq_iff] at startPair
    have nearStart : near = request.startVertex := by
      rcases startPair with same | swapped
      · exact same.1
      · by_contra other
        have enabled :=
          (enabled_of_filteredEdge
            (mem_filteredTargets.mp inTargets)).2
        rw [swapped.1] at nearer other
        rw [opened.frame] at nearer
        simp [unopenedState, other, enabled.1, enabled.2] at nearer
    have isFar : far = neighbor := by omega
    rw [nearStart, isFar, isKey, startKey]
  · intro entry member
    obtain ⟨neighbor, -, startPair, isKey⟩ :=
      opened.entry_key entry member
    exact ⟨request.startVertex, neighbor, startPair,
      by rw [startKey, isKey]⟩

/-- What other edges promise is not affected by expanding an edge. -/
theorem fScore_expandedState
    {near far : Nat}
    (ordered : entry.u ≤ entry.v)
    (other : edgePair near far ≠ (entry.u, entry.v)) :
    fScore request (expandedState request state entry edge) near far =
      fScore request state near far := by
  rw [← edgePair_of_le ordered, Ne, edgePair_eq_iff] at other
  simp only [fScore, h1Score, h2Score, costBetweenNodes, expandedState,
    planEdge, popOpenEdge, TopologicalGraph.node_modifyEdge]
  rw [filteredEdge?_modifyEdge_other _ _ _ _ _ other]

theorem KeysFit.expand
    (keys : KeysFit request state)
    (simple : SimpleSearch request state)
    (ordered : entry.u ≤ entry.v)
    (member : entry ∈ state.openHeap) :
    KeysFit request (expandedState request state entry edge) := by
  have otherPair
      {other : OpenSetEdge K}
      (inHeap :
        other ∈ (expandedState request state entry edge).openHeap) :
      other ∈ state.openHeap ∧
        (other.u, other.v) ≠ (entry.u, entry.v) := by
    obtain ⟨inOld, otherHandle⟩ := List.mem_filter.mp inHeap
    refine ⟨inOld, ?_⟩
    intro same
    have mapped := simple.openSet.entry_mapped other inOld
    rw [same, simple.openSet.entry_mapped entry member] at mapped
    rw [bne_iff_ne] at otherHandle
    exact otherHandle (Option.some.inj mapped).symm
  refine ⟨?_, ?_⟩
  · intro other inHeap near far isPair nearer
    obtain ⟨inOld, apart⟩ := otherPair inHeap
    rw [fScore_expandedState ordered (isPair ▸ apart)]
    exact keys.key_le other inOld isPair nearer
  · intro other inHeap
    obtain ⟨inOld, apart⟩ := otherPair inHeap
    obtain ⟨near, far, isPair, le⟩ := keys.le_key other inOld
    refine ⟨near, far, isPair, ?_⟩
    rw [fScore_expandedState ordered (isPair ▸ apart)]
    exact le

/-- Lower scores promise less. -/
theorem fScore_mono
    [IsStrictOrderedRing K]
    (sameGraph : next.graph = state.graph)
    (falls : next.gScore pre ≤ state.gScore pre) :
    fScore request next pre suc ≤ fScore request state pre suc := by
  simp only [fScore, sameGraph]
  exact add_le_add_left (add_le_add_left falls _) _

theorem bestKey_eq
    (u v : Nat) :
    ∃ near far,
      edgePair u v = edgePair near far ∧
        bestKey request state u v = fScore request state near far := by
  unfold bestKey
  rcases (orient_spec state.gScore u v).1 with same | swapped
  · exact ⟨u, v, rfl, by rw [same]⟩
  · exact ⟨v, u, edgePair_comm u v, by rw [swapped]⟩

theorem bestKey_of_lt
    {u v near far : Nat}
    (same : edgePair u v = edgePair near far)
    (nearer : state.gScore near < state.gScore far) :
    bestKey request state u v = fScore request state near far := by
  unfold bestKey
  rcases edgePair_eq_iff.mp same with ⟨rfl, rfl⟩ | ⟨rfl, rfl⟩
  · rw [(orient_of_lt nearer).1]
  · rw [(orient_of_lt nearer).2]

theorem KeysFit.improve
    [IsStrictOrderedRing K]
    {tentative : WithTop K}
    (keys : KeysFit request state)
    (valid : OpenSetValid request state)
    (openSimple : OpenSetSimple state)
    (exact : ExactTree request next)
    (falls : ∀ vertex, next.gScore vertex ≤ state.gScore vertex)
    (improvement : Improvement request state next pre suc tentative) :
    KeysFit request next := by
  obtain ⟨rekey, rekeyed, heap⟩ := improvement.heap
  have sameGraph : next.graph = state.graph := by
    rw [improvement.frame]
  have sameClosed : next.closedSet = state.closedSet := by
    rw [improvement.frame]
  have bestKeyNext
      (u v : Nat) :
      bestKey request { next with openHeap := state.openHeap } u v =
        bestKey request next u v := rfl
  have mapped
      {old : OpenSetEdge K}
      (inOld : old ∈ state.openHeap) :
      next.edgeToHandle (old.u, old.v) = some old.handle := by
    rw [improvement.frame]
    exact openSimple.entry_mapped old inOld
  refine ⟨?_, ?_⟩
  · intro entry member near far isPair nearer
    rw [heap, List.mem_map] at member
    obtain ⟨old, inOld, rfl⟩ := member
    rw [rekeyed.same_pair] at isPair
    have ordered := (valid.entry_edge old inOld).1
    have isEdge :
        (filteredEdge? state.graph request.disabledVertices
          near far).isSome = true := by
      rw [← filteredEdge?_edgePair, ← isPair]
      exact (valid.entry_edge old inOld).2
    -- An open edge is not a link of the tree, for those are closed.
    have notLink
        {first second : Nat}
        (samePair : edgePair near far = edgePair first second) :
        next.cameFrom first ≠ some second := by
      intro link
      have closed := (exact first second link).1
      rw [edgePair_comm, ← samePair, ← isPair, sameClosed] at closed
      exact valid.handle_open
        (by rw [openSimple.entry_mapped old inOld]; rfl) closed
    by_cases touched :
        Below next.cameFrom suc near ∨ Below next.cameFrom suc far
    · have lowered :
          (rekey old).fScore ≤ bestKey request next old.u old.v := by
        rw [← bestKeyNext]
        apply rekeyed.key_lowered old inOld (mapped inOld)
        rcases touched with nearBelow | farBelow
        · exact ⟨near, far, nearBelow, isEdge, notLink rfl, isPair⟩
        · refine ⟨far, near, farBelow, ?_,
            notLink (edgePair_comm near far), ?_⟩
          · rw [filteredEdge?_comm]
            exact isEdge
          · rw [isPair, edgePair_comm]
      rw [bestKey_of_lt
        (by rw [edgePair_of_le ordered]; exact isPair) nearer] at lowered
      exact lowered
    · rw [not_or] at touched
      have nearKept := improvement.score_other touched.1
      have farKept := improvement.score_other touched.2
      rw [nearKept, farKept] at nearer
      have unchanged :
          fScore request next near far =
            fScore request state near far := by
        simp only [fScore, sameGraph, nearKept]
      rw [unchanged]
      exact (rekeyed.key_le old).trans
        (keys.key_le old inOld isPair nearer)
  · intro entry member
    rw [heap, List.mem_map] at member
    obtain ⟨old, inOld, rfl⟩ := member
    rw [rekeyed.same_pair]
    rcases rekeyed.key_earned old inOld with same | ⟨-, earned⟩
    · obtain ⟨near, far, isPair, le⟩ := keys.le_key old inOld
      refine ⟨near, far, isPair, ?_⟩
      rw [same]
      exact (fScore_mono sameGraph (falls near)).trans le
    · have ordered := (valid.entry_edge old inOld).1
      obtain ⟨near, far, isPair, isKey⟩ :
          ∃ near far,
            edgePair old.u old.v = edgePair near far ∧
              bestKey request next old.u old.v =
                fScore request next near far :=
        bestKey_eq old.u old.v
      rw [edgePair_of_le ordered] at isPair
      refine ⟨near, far, isPair, ?_⟩
      rw [earned, bestKeyNext, isKey]

/-- The edges of a vertex with a score were explored before, so an edge that is
opened does not come from a vertex that is nearer. -/
theorem SearchInvariant.not_nearer
    [IsStrictOrderedRing K]
    (invariant : SearchInvariant request graph state)
    (stages : IterationStages request state next entry edge relaxed)
    {neighbor : Nat}
    (inTargets : neighbor ∈ filteredTargets relaxed.graph
      request.disabledVertices (entryEnds state entry).2)
    (fresh :
      (updateBestScore request relaxed
        (entryEnds state entry).2).edgeToHandle
          (edgePair (entryEnds state entry).2 neighbor) = none)
    (notClosed : edgePair (entryEnds state entry).2 neighbor ∉
      (updateBestScore request relaxed (entryEnds state entry).2).closedSet) :
    ¬ relaxed.gScore neighbor < relaxed.gScore (entryEnds state entry).2 := by
  intro nearer
  obtain ⟨sameScore, -, -, finiteBefore⟩ := invariant.scores_fall stages
  have otherVertex : neighbor ≠ (entryEnds state entry).2 := by
    rintro same
    rw [same] at nearer
    exact absurd nearer (lt_irrefl _)
  have finite : state.gScore neighbor ≠ ⊤ := by
    apply finiteBefore otherVertex
    exact nearer.ne_top
  have adjacent :
      (filteredEdge? state.graph request.disabledVertices
        neighbor (entryEnds state entry).2).isSome = true := by
    have isTarget := mem_filteredTargets.mp inTargets
    rw [stages.relaxation.frame, filteredEdge?_comm] at isTarget
    simpa [expandedState, planEdge, popOpenEdge] using isTarget
  have closedNow :
      (updateBestScore request relaxed
        (entryEnds state entry).2).closedSet =
          insert (entry.u, entry.v) state.closedSet := by
    simp only [updateBestScore]
    rw [stages.relaxation.frame]
    rfl
  rw [closedNow, Finset.mem_insert, not_or] at notClosed
  rcases invariant.explored finite adjacent with handled | closed
  · rw [edgePair_comm] at handled
    have stillHandled :
        (updateBestScore request relaxed
          (entryEnds state entry).2).edgeToHandle
            (edgePair (entryEnds state entry).2 neighbor) =
          state.edgeToHandle
            (edgePair (entryEnds state entry).2 neighbor) := by
      simp only [updateBestScore]
      rw [stages.relaxation.frame]
      simp only [expandedState, planEdge, popOpenEdge]
      exact Function.update_of_ne notClosed.1 _ _
    rw [← stillHandled, fresh] at handled
    cases handled
  · rw [edgePair_comm] at closed
    exact absurd closed notClosed.2

theorem KeysFit.step
    [IsStrictOrderedRing K]
    (keys : KeysFit request state)
    (invariant : SearchInvariant request graph state)
    (simple : SimpleSearch request state)
    (stages : IterationStages request state next entry edge relaxed) :
    KeysFit request next := by
  have ordered :=
    (invariant.openSet.entry_edge entry stages.entry_mem).1
  have expanded :
      KeysFit request (expandedState request state entry edge) :=
    keys.expand simple ordered stages.entry_mem
  obtain ⟨sameScore, sameTree, falls, finiteBefore⟩ :=
    invariant.scores_fall stages
  have opened :=
    (invariant.opened stages (motive := fun _ => True)
      trivial (fun _ _ _ _ => trivial)).1
  have nextExact := (simple.step invariant stages).exact
  have sameKey
      (near far : Nat) :
      fScore request next near far =
        fScore request relaxed near far := by
    rw [opened.frame]
    rfl
  have relaxedKeys : KeysFit request relaxed := by
    rcases stages.relaxation with ⟨-, same⟩ | ⟨-, improvement⟩
    · rw [same]
      exact expanded
    · have relaxedExact : ExactTree request relaxed := by
        rw [opened.frame] at nextExact
        exact nextExact
      exact expanded.improve
        (invariant.openSet.close stages.entry_mem)
        (simple.openSet.close invariant.openSet stages.entry_mem)
        relaxedExact falls improvement
  refine ⟨?_, ?_⟩
  · intro other member near far isPair nearer
    rw [sameKey]
    rw [sameScore] at nearer
    rcases opened.entry_new other member with
        ⟨old, -⟩ | ⟨neighbor, inTargets, newPair, isKey, fresh, notClosed⟩
    · exact relaxedKeys.key_le other old isPair nearer
    · rw [isPair] at newPair
      rcases edgePair_eq_iff.mp newPair with ⟨isSuc, isFar⟩ | swapped
      · rw [isKey, isSuc, isFar]
        exact le_rfl
      · obtain ⟨isNeighbor, isSuc⟩ := swapped
        rw [isNeighbor, isSuc] at nearer
        exact absurd nearer
          (invariant.not_nearer stages inTargets fresh notClosed)
  · intro other member
    rcases opened.entry_new other member with
        ⟨old, -⟩ | ⟨neighbor, -, newPair, isKey, -, -⟩
    · obtain ⟨near, far, isPair, le⟩ := relaxedKeys.le_key other old
      refine ⟨near, far, isPair, ?_⟩
      rw [sameKey]
      exact le
    · refine ⟨_, neighbor, newPair, ?_⟩
      rw [sameKey, isKey]
      exact le_rfl

end Keys

section Refinement

/-- What a state of the planner means as a state of an edge search. -/
def searchSnapshot
    (request : PlanRequest K)
    (graph : TopologicalGraph K)
    (state : PlannerState K) : EdgeSearch.Snapshot Nat K where
  score := fun vertex =>
    if vertex < graph.numVertices ∧
        vertex ∉ request.disabledVertices then
      state.gScore vertex
    else
      ⊤
  Open := fun first second k =>
    ∃ entry ∈ state.openHeap,
      (entry.u, entry.v) = edgePair first second ∧ entry.fScore = k
  Closed := fun first second =>
    edgePair first second ∈ state.closedSet

variable
  {first second : Nat}

omit [Field K] [SquareRoot K] in
theorem searchSnapshot_score
    (adjacent :
      (filteredEdge? graph request.disabledVertices
        first second).isSome = true)
    (state : PlannerState K) :
    (searchSnapshot request graph state).score first =
        state.gScore first ∧
      (searchSnapshot request graph state).score second =
        state.gScore second := by
  have enabled := enabled_of_filteredEdge adjacent
  exact ⟨if_pos enabled.1, if_pos enabled.2⟩

theorem SearchInvariant.fScore_eq_key
    (invariant : SearchInvariant request graph state)
    (adjacent :
      (filteredEdge? graph request.disabledVertices
        pre suc).isSome = true)
    (notClosed : edgePair pre suc ∉ state.closedSet) :
    fScore request state pre suc =
      EdgeSearch.key (planProblem request graph)
        (searchSnapshot request graph state).score pre suc := by
  have scores := searchSnapshot_score adjacent state
  simp only [EdgeSearch.key]
  rw [scores.1]
  simp only [fScore, planProblem, h1Score, h2Score, costBetweenNodes,
    invariant.untouched notClosed, invariant.shape.node]

theorem KnownCosts.score_walk
    (known : KnownCosts request graph state)
    (invariant : SearchInvariant request graph state)
    (simple : SimpleSearch request state)
    {vertex : Nat}
    (finite :
      (searchSnapshot request graph state).score vertex ≠ ⊤) :
    EdgeSearch.Walk (planProblem request graph) vertex
      ((searchSnapshot request graph state).score vertex) := by
  have walks
      {vertex : Nat}
      (hangs : Below state.cameFrom request.startVertex vertex) :
      EdgeSearch.Walk (planProblem request graph) vertex
        (state.gScore vertex) := by
    induction hangs with
    | refl =>
        rw [invariant.tree.start_score]
        exact EdgeSearch.Walk.start
    | tail hangs link inductionHypothesis =>
        rename_i above lower
        obtain ⟨closed, planned, found, score, -⟩ :=
          simple.exact lower above link
        have adjacent :
            (filteredEdge? graph request.disabledVertices
              above lower).isSome = true := by
          rw [← invariant.shape.filteredEdge?_isSome, found]
          rfl
        rw [score, known.closed closed found]
        exact EdgeSearch.Walk.step inductionHypothesis adjacent
  by_cases enabled :
      vertex < graph.numVertices ∧ vertex ∉ request.disabledVertices
  · simp only [searchSnapshot, if_pos enabled] at finite ⊢
    rw [← invariant.shape.numVertices] at enabled
    exact walks (invariant.tree.reached enabled.1 enabled.2 finite)
  · simp only [searchSnapshot, if_neg enabled] at finite
    exact absurd rfl finite

omit [SquareRoot K] in
theorem SearchInvariant.explored_snapshot
    (invariant : SearchInvariant request graph state)
    (adjacent :
      (filteredEdge? graph request.disabledVertices
        first second).isSome = true)
    (finite : (searchSnapshot request graph state).score first ≠ ⊤) :
    (∃ k, (searchSnapshot request graph state).Open first second k) ∨
      (searchSnapshot request graph state).Closed first second := by
  rw [(searchSnapshot_score adjacent state).1] at finite
  rw [← invariant.shape.filteredEdge?_isSome] at adjacent
  rcases invariant.explored finite adjacent with handled | closed
  · left
    obtain ⟨handle, mapped⟩ := Option.isSome_iff_exists.mp handled
    obtain ⟨entry, member, -, isPair⟩ :=
      invariant.openSet.handle_entry mapped
    exact ⟨entry.fScore, entry, member, isPair, rfl⟩
  · exact Or.inr closed

omit [SquareRoot K] in
theorem SearchInvariant.open_adjacent
    (invariant : SearchInvariant request graph state)
    (simple : SimpleSearch request state)
    (member : entry ∈ state.openHeap)
    (isPair : (entry.u, entry.v) = edgePair first second) :
    (filteredEdge? graph request.disabledVertices
        first second).isSome = true ∧
      edgePair first second ∉ state.closedSet := by
  constructor
  · rw [← invariant.shape.filteredEdge?_isSome,
      ← filteredEdge?_edgePair, ← isPair]
    exact (invariant.openSet.entry_edge entry member).2
  · rw [← isPair]
    exact simple.entry_not_closed invariant member

/-- What a run maintains besides the refinement of an edge search. -/
structure OptimalSearch
    (request : PlanRequest K)
    (graph : TopologicalGraph K)
    (state : PlannerState K) : Prop where
  invariant : SearchInvariant request graph state
  simple : SimpleSearch request state
  known : KnownCosts request graph state
  keys : KeysFit request state
  refines :
    EdgeSearch.Invariant (planProblem request graph)
      (searchSnapshot request graph state)

/--
A state refines the edge search as soon as its closed edges are relaxed.
-/
theorem refines_of_relaxed
    (invariant : SearchInvariant request graph state)
    (simple : SimpleSearch request state)
    (known : KnownCosts request graph state)
    (keys : KeysFit request state)
    (startInGraph : request.startVertex < graph.numVertices)
    (startEnabled : request.startVertex ∉ request.disabledVertices)
    (relaxedClosed :
      ∀ {first second},
        edgePair first second ∈ state.closedSet →
        (EdgeSearch.Settled (planProblem request graph)
              (searchSnapshot request graph state).score first ∧
            (searchSnapshot request graph state).score second ≤
              (searchSnapshot request graph state).score first +
                expandedCost request graph first second) ∨
          (EdgeSearch.Settled (planProblem request graph)
              (searchSnapshot request graph state).score second ∧
            (searchSnapshot request graph state).score first ≤
              (searchSnapshot request graph state).score second +
                expandedCost request graph second first)) :
    EdgeSearch.Invariant (planProblem request graph)
      (searchSnapshot request graph state) where
  start_score := by
    refine le_of_eq ?_
    rw [← invariant.tree.start_score]
    exact if_pos ⟨startInGraph, startEnabled⟩
  score_walk := fun finite => known.score_walk invariant simple finite
  explored := fun adjacent finite =>
    invariant.explored_snapshot adjacent finite
  relaxed := fun closed => relaxedClosed closed
  open_le_key := by
    rintro near far k ⟨entry, member, isPair, rfl⟩ nearer
    obtain ⟨adjacent, notClosed⟩ :=
      invariant.open_adjacent simple member isPair
    have scores := searchSnapshot_score adjacent state
    rw [scores.1, scores.2] at nearer
    rw [← invariant.fScore_eq_key adjacent notClosed]
    exact keys.key_le entry member isPair nearer
  key_le_open := by
    rintro first second k ⟨entry, member, isPair, rfl⟩
    obtain ⟨near, far, samePair, le⟩ := keys.le_key entry member
    obtain ⟨adjacent, notClosed⟩ :=
      invariant.open_adjacent simple member samePair
    rw [invariant.fScore_eq_key adjacent notClosed] at le
    rw [isPair] at samePair
    rcases edgePair_eq_iff.mp samePair with
        ⟨rfl, rfl⟩ | ⟨rfl, rfl⟩
    · exact Or.inl le
    · exact Or.inr le

theorem initialState_optimalSearch
    (costs : NonnegativeCosts request graph)
    (distinct :
      (filteredTargets graph request.disabledVertices
        request.startVertex).Nodup)
    (startInGraph : request.startVertex < graph.numVertices)
    (startEnabled : request.startVertex ∉ request.disabledVertices) :
    OptimalSearch request graph (initialState request graph) := by
  have invariant := initialState_invariant costs
  have simple := initialState_simpleSearch distinct
  have known := initialState_knownCosts request graph
  have keys := initialState_keysFit costs
  refine ⟨invariant, simple, known, keys,
    refines_of_relaxed invariant simple known keys
      startInGraph startEnabled ?_⟩
  intro first second closed
  rw [(initialState_opened request graph).frame] at closed
  cases closed

theorem OptimalSearch.step
    [IsStrictOrderedRing K]
    (optimal : OptimalSearch request graph state)
    (fixed : FixedPlanner request)
    (consistent : EdgeSearch.Consistent (planProblem request graph))
    (startInGraph : request.startVertex < graph.numVertices)
    (startEnabled : request.startVertex ∉ request.disabledVertices)
    (stages : IterationStages request state next entry edge relaxed) :
    OptimalSearch request graph next := by
  obtain ⟨invariant, simple, known, keys, refines⟩ := optimal
  have nextInvariant := invariant.step stages
  have nextSimple := simple.step invariant stages
  have nextKnown := known.step fixed invariant simple stages
  have nextKeys := keys.step invariant simple stages
  refine ⟨nextInvariant, nextSimple, nextKnown, nextKeys,
    refines_of_relaxed nextInvariant nextSimple nextKnown nextKeys
      startInGraph startEnabled ?_⟩
  obtain ⟨sameScore, -, falls, -⟩ := invariant.scores_fall stages
  obtain ⟨-, sameClosed, -⟩ := invariant.next_frame stages
  have scoreFalls
      (vertex : Nat) :
      (searchSnapshot request graph next).score vertex ≤
        (searchSnapshot request graph state).score vertex := by
    simp only [searchSnapshot, sameScore]
    split_ifs
    · exact falls vertex
    · exact le_rfl
  have endsPair := invariant.edgePair_ends stages
  obtain ⟨adjacent, -⟩ :=
    invariant.open_adjacent simple stages.entry_mem endsPair.symm
  have oldScores := searchSnapshot_score adjacent state
  have newScores := searchSnapshot_score adjacent next
  -- The popped edge has the least key, so its near end is settled.
  have nearSettled :
      EdgeSearch.Settled (planProblem request graph)
        (searchSnapshot request graph state).score
        (entryEnds state entry).1 := by
    apply refines.near_settled consistent
      (fun {u v} joined => by
        simp only [planProblem] at joined ⊢
        rw [filteredEdge?_comm]
        exact joined)
      adjacent ⟨entry, stages.entry_mem, endsPair.symm, rfl⟩
    · rintro u v other ⟨otherEntry, member, -, rfl⟩
      exact stages.entry_least otherEntry member
    · rw [oldScores.1, oldScores.2]
      exact (orient_spec state.gScore entry.u entry.v).2
  have farRelaxed :
      (searchSnapshot request graph next).score
          (entryEnds state entry).2 ≤
        (searchSnapshot request graph next).score
            (entryEnds state entry).1 +
          expandedCost request graph
            (entryEnds state entry).1 (entryEnds state entry).2 := by
    have le :=
      (invariant.tree.expand entry edge).relax_le
        (expandedState_adjacent stages.edge_found)
        (invariant.revealed_nonneg stages.edge_found) stages.relaxation
    rw [newScores.1, newScores.2, sameScore,
      expandedCost_congr (edgePair_entryEnds state entry),
      ← known.revealed fixed invariant simple stages.entry_mem
        stages.edge_found]
    exact le
  intro first second closed
  rw [sameClosed, Finset.mem_insert] at closed
  rcases closed with isEntry | old
  · rw [← endsPair] at isEntry
    rcases edgePair_eq_iff.mp isEntry with
        ⟨rfl, rfl⟩ | ⟨rfl, rfl⟩
    · exact Or.inl ⟨nearSettled.mono (scoreFalls _), farRelaxed⟩
    · exact Or.inr ⟨nearSettled.mono (scoreFalls _), farRelaxed⟩
  · exact EdgeSearch.relaxed_after_closing refines scoreFalls
      (fun finite =>
        nextKnown.score_walk nextInvariant nextSimple finite) old

theorem OptimalSearch.goal_settled
    [IsStrictOrderedRing K]
    (optimal : OptimalSearch request graph state)
    (consistent : EdgeSearch.Consistent (planProblem request graph))
    (goalInGraph : request.goalVertex < graph.numVertices)
    (goalEnabled : request.goalVertex ∉ request.disabledVertices)
    (stopped : Stopped request state) :
    EdgeSearch.Settled (planProblem request graph)
      (searchSnapshot request graph state).score request.goalVertex := by
  apply optimal.refines.goal_settled consistent
  rintro first second k ⟨entry, member, -, rfl⟩
  have goalScore :
      (searchSnapshot request graph state).score request.goalVertex =
        state.gScore request.goalVertex :=
    if_pos ⟨goalInGraph, goalEnabled⟩
  refine goalScore.le.trans (optimal.invariant.best_ge.trans ?_)
  rcases stopped with isEmpty | ⟨-, early⟩
  · rw [isEmpty] at member
    cases member
  · unfold earlyTermination at early
    split at early
    · rename_i nonempty
      have best :
          state.bestScore ≤ (topEntry request state nonempty).fScore := by
        simpa using early
      exact best.trans
        (request.heapOrder.top_le _ _ nonempty entry member)
    · cases early

end Refinement

end Search

section SimpleGraphs

variable {K : Type}

/-- No edge joins a vertex to itself and no two edges join the same pair. -/
structure TopologicalGraph.IsSimple
    (graph : TopologicalGraph K) : Prop where
  noLoops :
    ∀ edge ∈ graph.edges, edge.source ≠ edge.target
  noParallel :
    (graph.edges.map fun edge =>
      edgePair edge.source edge.target).Nodup

theorem TopologicalGraph.IsSimple.targets_nodup
    {graph : TopologicalGraph K}
    (simple : graph.IsSimple)
    (disabled : Finset Nat)
    (vertex : Nat) :
    (filteredTargets graph disabled vertex).Nodup := by
  have outDistinct : (graph.outTargets vertex).Nodup := by
    unfold TopologicalGraph.outTargets
    rw [List.nodup_flatMap]
    constructor
    · intro edge member
      have noLoop := simple.noLoops edge member
      by_cases isSource : edge.source = vertex
      · have notTarget : edge.target ≠ vertex := by
          rw [← isSource]
          exact noLoop.symm
        simp [isSource, notTarget]
      · by_cases isTarget : edge.target = vertex <;>
          simp [isSource, isTarget]
    · have pairs := simple.noParallel
      rw [List.Nodup, List.pairwise_map] at pairs
      refine pairs.imp ?_
      intro first second differ target inFirst inSecond
      apply differ
      rw [edgePair_eq_iff]
      simp only [List.mem_append, List.mem_ite_nil_right,
        List.mem_singleton] at inFirst inSecond
      omega
  unfold filteredTargets
  split
  · exact List.nodup_nil
  · exact outDistinct.filter _

end SimpleGraphs

section Optimal

variable
  {K : Type} [Field K] [LinearOrder K] [SquareRoot K]

/--
No estimate is below the straight line, and a planned cost that is stored lies
between the straight line and the cost that expanding the edge reveals.
-/
structure AdmissibleCosts
    (request : PlanRequest K)
    (graph : TopologicalGraph K) : Prop where
  estimate_ge :
    ∀ {u v edge},
      filteredEdge? graph request.disabledVertices u v = some edge →
      ((costBetweenNodes graph u v request.penalizeZMovement : K) :
          WithTop K) ≤
        edge.properties.estimatedCost
  planned_ge :
    ∀ {u v edge},
      filteredEdge? graph request.disabledVertices u v = some edge →
      0 ≤ edge.properties.plannedCost →
      ((costBetweenNodes graph u v request.penalizeZMovement : K) :
          WithTop K) ≤
        edge.properties.plannedCost
  planned_le :
    ∀ {u v edge},
      filteredEdge? graph request.disabledVertices u v = some edge →
      0 ≤ edge.properties.plannedCost →
      edge.properties.plannedCost ≤ expandedCost request graph u v

/-- Where an estimate is used, it does not exceed the revealed cost. -/
def EstimatesBelow
    (request : PlanRequest K)
    (graph : TopologicalGraph K) : Prop :=
  ∀ u v edge,
    filteredEdge? graph request.disabledVertices u v = some edge →
    edge.properties.plannedCost < 0 →
    edge.properties.estimatedCost ≤ expandedCost request graph u v

/-- The node positions with the height stretched by its penalty. -/
noncomputable def stretchedPosition
    (graph : TopologicalGraph ℝ)
    (penalizeZMovement : ℝ)
    (vertex : Nat) : EuclideanSpace ℝ (Fin 3) :=
  !₂[(graph.node vertex).position.x, (graph.node vertex).position.y,
    (graph.node vertex).position.z * penalizeZMovement]

theorem costBetweenNodes_eq_dist
    (graph : TopologicalGraph ℝ)
    (u v : Nat)
    (penalizeZMovement : ℝ) :
    costBetweenNodes graph u v penalizeZMovement =
      dist (stretchedPosition graph penalizeZMovement u)
        (stretchedPosition graph penalizeZMovement v) := by
  rw [EuclideanSpace.dist_eq, Fin.sum_univ_three]
  simp only [costBetweenNodes, stretchedPosition, SquareRoot.sqrt,
    Real.dist_eq, sq_abs]
  congr 1
  simp
  ring

theorem AdmissibleCosts.consistent
    {request : PlanRequest ℝ}
    {graph : TopologicalGraph ℝ}
    (admissible : AdmissibleCosts request graph)
    (estimates : EstimatesBelow request graph) :
    EdgeSearch.Consistent (planProblem request graph) where
  metric_self := by
    intro vertex
    simp only [planProblem, costBetweenNodes_eq_dist, dist_self]
  metric_nonneg := by
    intro first second
    simp only [planProblem, costBetweenNodes_eq_dist]
    exact dist_nonneg
  metric_triangle := by
    intro first middle last
    simp only [planProblem, costBetweenNodes_eq_dist]
    exact dist_triangle _ _ _
  metric_le_guess := by
    intro first second adjacent
    obtain ⟨edge, found⟩ := Option.isSome_iff_exists.mp adjacent
    simp only [planProblem, h1Score, found]
    split
    · rename_i planned
      exact admissible.planned_ge found planned
    · exact admissible.estimate_ge found
  guess_le_cost := by
    intro first second adjacent
    obtain ⟨edge, found⟩ := Option.isSome_iff_exists.mp adjacent
    simp only [planProblem, h1Score, found]
    split
    · rename_i planned
      exact admissible.planned_le found planned
    · rename_i unplanned
      exact estimates first second edge found (not_le.mp unplanned)

/--
The planner succeeds exactly when some way of enabled vertices has a finite
cost, and then its total cost is the least cost of all ways.
-/
theorem planTopomapPath_optimal
    (request : PlanRequest ℝ)
    (graph : TopologicalGraph ℝ)
    (simpleGraph : graph.IsSimple)
    (startInGraph : request.startVertex < graph.numVertices)
    (startEnabled : request.startVertex ∉ request.disabledVertices)
    (goalInGraph : request.goalVertex < graph.numVertices)
    (goalEnabled : request.goalVertex ∉ request.disabledVertices)
    (apart : request.startVertex ≠ request.goalVertex)
    (fixed : FixedPlanner request)
    (costs : NonnegativeCosts request graph)
    (admissible : AdmissibleCosts request graph)
    (estimates : EstimatesBelow request graph) :
    ∃ outcome,
      planTopomapPath request graph = some outcome ∧
        (outcome.result.success = true ↔
          ∃ cost,
            EdgeSearch.Walk (planProblem request graph)
                request.goalVertex cost ∧
              cost ≠ ⊤) ∧
        (outcome.result.success = true →
          IsLeast
            { cost |
              EdgeSearch.Walk (planProblem request graph)
                request.goalVertex cost }
            outcome.result.totalCost) := by
  have consistent := admissible.consistent estimates
  have distinct :=
    simpleGraph.targets_nodup request.disabledVertices
      request.startVertex
  obtain ⟨final, loop, invariant, optimal, stopped⟩ :=
    mainLoop_terminates (motive := OptimalSearch request graph) costs
      (initialState_optimalSearch costs distinct
        startInGraph startEnabled)
      (by
        intro state next nonempty invariant optimal _ run
        obtain ⟨edge, relaxed, stages⟩ :=
          invariant.stages_of_iteration run
        exact optimal.step fixed consistent
          startInGraph startEnabled stages)
  obtain ⟨outcome, reconstructed⟩ := invariant.reconstruct_exists
  have planned : planTopomapPath request graph = some outcome := by
    rw [planTopomapPath, if_neg (not_or.mpr ⟨startEnabled, goalEnabled⟩),
      loop]
    exact reconstructed
  have goalScore :
      (searchSnapshot request graph final).score request.goalVertex =
        final.gScore request.goalVertex :=
    if_pos ⟨goalInGraph, goalEnabled⟩
  have least
      {cost : WithTop ℝ}
      (walk :
        EdgeSearch.Walk (planProblem request graph)
          request.goalVertex cost) :
      final.gScore request.goalVertex ≤ cost := by
    rw [← goalScore]
    exact optimal.goal_settled consistent goalInGraph goalEnabled
      stopped walk
  have attained
      (finite : final.gScore request.goalVertex ≠ ⊤) :
      EdgeSearch.Walk (planProblem request graph) request.goalVertex
        (final.gScore request.goalVertex) := by
    rw [← goalScore] at finite ⊢
    exact optimal.refines.score_walk finite
  have success_iff :
      outcome.result.success = true ↔
        final.gScore request.goalVertex ≠ ⊤ :=
    (reconstruct_success reconstructed).trans
      (invariant.best_finite_iff apart goalInGraph goalEnabled)
  refine ⟨outcome, planned, ?_, ?_⟩
  · rw [success_iff]
    constructor
    · intro finite
      exact ⟨_, attained finite, finite⟩
    · rintro ⟨cost, walk, finite⟩
      exact ne_top_of_le_ne_top finite (least walk)
  · intro success
    rw [invariant.reconstruct_total optimal.simple.exact goalEnabled
      reconstructed success]
    exact ⟨attained (success_iff.mp success), fun _ walk => least walk⟩

end Optimal

section Samples

/-- A detour through vertex `2` whose first edge has a high estimate. -/
def detourGraph : TopologicalGraph ℚ where
  vertices :=
    [{ NodeProperties.unset with id := 0, position := ⟨0, 0, 0⟩ },
      { NodeProperties.unset with id := 1, position := ⟨2, 0, 0⟩ },
      { NodeProperties.unset with id := 2, position := ⟨1, 0, 0⟩ }]
  edges :=
    [⟨0, 1, { EdgeProperties.unset with estimatedCost := 10 }⟩,
      ⟨0, 2, { EdgeProperties.unset with estimatedCost := 1000 }⟩,
      ⟨2, 1, { EdgeProperties.unset with estimatedCost := 1 }⟩]
  endsValid := by decide

/-- The direct way costs `10` and every edge of the detour costs `1`. -/
def detourRequest : PlanRequest ℚ where
  startVertex := 0
  goalVertex := 1
  secondLevelPlanner := fun _ _ _ first last =>
    { path := some [first, last]
      distance := 1
      cost := if first.1 = 0 ∧ last.1 = 2 then 10 else 1 }
  disabledVertices := ∅
  updateEdgeClient := false
  penalizeZMovement := 1
  reusePaths := false
  heapOrder := HeapOrder.oldestFirst

/--
An estimate above the true cost makes the planner stop with the direct way,
although the detour is cheaper and all other costs are admissible.
-/
theorem high_estimate_hides_detour :
    detourGraph.IsSimple ∧
      FixedPlanner detourRequest ∧
      NonnegativeCosts detourRequest detourGraph ∧
      AdmissibleCosts detourRequest detourGraph ∧
      ∃ outcome,
        planTopomapPath detourRequest detourGraph = some outcome ∧
          outcome.result.success = true ∧
          ¬IsLeast
            { cost |
              EdgeSearch.Walk (planProblem detourRequest detourGraph)
                detourRequest.goalVertex cost }
            outcome.result.totalCost := by
  have admissible :
      ∀ u < 3, ∀ v < 3,
        ∀ edge ∈ filteredEdge? detourGraph ∅ u v,
          ((costBetweenNodes detourGraph u v 1 : ℚ) : WithTop ℚ) ≤
              edge.properties.estimatedCost ∧
            edge.properties.plannedCost < 0 := by
    decide +kernel
  have atEdge
      {u v : Nat}
      {edge : StoredEdge ℚ}
      (found :
        filteredEdge? detourGraph detourRequest.disabledVertices u v =
          some edge) :=
    let enabled := enabled_of_filteredEdge (by rw [found]; rfl)
    admissible u enabled.1.1 v enabled.2.1 edge found
  refine ⟨⟨by decide, by decide⟩, fun _ _ _ _ _ => rfl, ⟨?_, ?_⟩,
    ⟨?_, ?_, ?_⟩, ?_⟩
  · intro calls floor room first last _
    simp only [detourRequest]
    split <;> decide
  · intro edge member reuse
    have noPath :
        ∀ edge ∈ detourGraph.edges,
          shouldReuse false edge.properties = false := by
      decide
    rw [show detourRequest.reusePaths = false from rfl,
      noPath edge member] at reuse
    cases reuse
  · intro u v edge found
    exact (atEdge found).1
  · intro u v edge found planned
    exact absurd planned (not_le.mpr (atEdge found).2)
  · intro u v edge found planned
    exact absurd planned (not_le.mpr (atEdge found).2)
  · have result :
        (planTopomapPath detourRequest detourGraph).map
            (fun outcome =>
              (outcome.result.success, outcome.result.totalCost)) =
          some (true, 10) := by
      decide +kernel
    obtain ⟨outcome, planned, isResult⟩ :=
      Option.map_eq_some_iff.mp result
    rw [Prod.mk.injEq] at isResult
    refine ⟨outcome, planned, isResult.1, ?_⟩
    rintro ⟨-, least⟩
    have atStart :
        EdgeSearch.Walk (planProblem detourRequest detourGraph) 0 0 :=
      EdgeSearch.Walk.start
    have toDetour :
        (planProblem detourRequest detourGraph).Adjacent 0 2 := by
      show (filteredEdge? detourGraph ∅ 0 2).isSome = true
      decide
    have toGoal :
        (planProblem detourRequest detourGraph).Adjacent 2 1 := by
      show (filteredEdge? detourGraph ∅ 2 1).isSome = true
      decide
    have detour :
        EdgeSearch.Walk (planProblem detourRequest detourGraph) 1
          (0 + expandedCost detourRequest detourGraph 0 2 +
            expandedCost detourRequest detourGraph 2 1) :=
      (atStart.step toDetour).step toGoal
    have le := least detour
    rw [isResult.2] at le
    exact absurd le (by decide +kernel)

/-- A way of one edge, and one of two edges that are half as long. -/
noncomputable def waysGraph : TopologicalGraph ℝ where
  vertices :=
    [{ NodeProperties.unset with id := 0, position := ⟨0, 0, 0⟩ },
      { NodeProperties.unset with id := 1, position := ⟨2, 0, 0⟩ },
      { NodeProperties.unset with id := 2, position := ⟨1, 0, 0⟩ }]
  edges :=
    [⟨0, 1, { EdgeProperties.unset with estimatedCost := ((2 : ℝ) : WithTop ℝ) }⟩,
      ⟨0, 2, { EdgeProperties.unset with estimatedCost := ((1 : ℝ) : WithTop ℝ) }⟩,
      ⟨2, 1, { EdgeProperties.unset with estimatedCost := ((1 : ℝ) : WithTop ℝ) }⟩]
  endsValid := by simp

/-- A path along an edge costs the square of its length. -/
noncomputable def waysRequest : PlanRequest ℝ where
  startVertex := 0
  goalVertex := 1
  secondLevelPlanner := fun _ _ _ first last =>
    { path := some [first, last]
      distance := 1
      cost := (((first.1 - last.1) ^ 2 : ℝ) : WithTop ℝ) }
  disabledVertices := ∅
  updateEdgeClient := false
  penalizeZMovement := 1
  reusePaths := false
  heapOrder := HeapOrder.oldestFirst

theorem waysGraph_edge
    {u v : Nat}
    {edge : StoredEdge ℝ}
    (found : filteredEdge? waysGraph ∅ u v = some edge) :
    ∃ length : ℝ, 1 ≤ length ∧
      edge.properties =
        { EdgeProperties.unset with estimatedCost := (length : WithTop ℝ) } ∧
      costBetweenNodes waysGraph u v 1 = length ∧
      expandedCost waysRequest waysGraph u v =
        ((length ^ 2 : ℝ) : WithTop ℝ) := by
  have root
      {x y length : ℝ}
      (nonneg : 0 ≤ length)
      (square : (x - y) * (x - y) = length ^ 2) :
      Real.sqrt ((x - y) * (x - y) + (0 - 0) * (0 - 0) +
        (0 - 0) * 1 * ((0 - 0) * 1)) = length := by
    simp only [square, sub_self, mul_zero, zero_mul, add_zero,
      Real.sqrt_sq nonneg]
  have enabled := enabled_of_filteredEdge (by rw [found]; rfl)
  have first : u < 3 := enabled.1.1
  have second : v < 3 := enabled.2.1
  interval_cases u <;> interval_cases v <;> cases found
  all_goals
    refine ⟨_, ?_, rfl, root ?_ ?_, congrArg WithTop.some ?_⟩ <;>
      norm_num [waysGraph, TopologicalGraph.node, Position.coords]

theorem waysGraph_optimal :
    ∃ outcome,
      planTopomapPath waysRequest waysGraph = some outcome ∧
        outcome.result.success = true ∧
        IsLeast
          { cost |
            EdgeSearch.Walk (planProblem waysRequest waysGraph)
              waysRequest.goalVertex cost }
          outcome.result.totalCost := by
  have noPlan : ∀ edge ∈ waysGraph.edges,
      edge.properties.plannedCost < 0 ∧ edge.properties.path = none := by
    have unset : (unplanned : WithTop ℝ) < 0 := by
      unfold unplanned
      exact_mod_cast neg_one_lt_zero
    simp only [waysGraph, List.mem_cons, List.not_mem_nil, or_false]
    rintro edge (rfl | rfl | rfl) <;> exact ⟨unset, rfl⟩
  have atEdge
      {u v : Nat}
      {edge : StoredEdge ℝ}
      (found : filteredEdge? waysGraph ∅ u v = some edge) :
      edge.properties.plannedCost < 0 :=
    (noPlan edge
      (TopologicalGraph.edge?_eq_some
        (filteredEdge?_eq_some.mp found).2.2).1).1
  obtain ⟨outcome, planned, succeeds, least⟩ :=
    planTopomapPath_optimal waysRequest waysGraph
      ⟨by simp [waysGraph], by simp [waysGraph, edgePair]⟩
      (by decide) (by simp [waysRequest]) (by decide)
      (by simp [waysRequest]) (by simp [waysRequest])
      (fun _ _ _ _ _ => rfl)
      ⟨fun _ => WithTop.coe_le_coe.mpr (sq_nonneg _), by
        intro edge member reuse
        simp [shouldReuse, (noPlan edge member).2] at reuse⟩
      ⟨by
        intro u v edge found
        obtain ⟨length, -, properties, distance, -⟩ := waysGraph_edge found
        rw [properties]
        exact (congrArg WithTop.some distance).le,
        fun found nonneg => absurd nonneg (not_le.mpr (atEdge found)),
        fun found nonneg => absurd nonneg (not_le.mpr (atEdge found))⟩
      (by
        intro u v edge found _
        obtain ⟨length, long, properties, -, cost⟩ := waysGraph_edge found
        rw [properties, cost]
        exact WithTop.coe_le_coe.mpr (le_self_pow₀ long two_ne_zero))
  have success : outcome.result.success = true := by
    have found : filteredEdge? waysGraph ∅ 0 1 = some _ := rfl
    obtain ⟨length, -, -, -, cost⟩ := waysGraph_edge found
    have adjacent : (planProblem waysRequest waysGraph).Adjacent 0 1 := by
      show (filteredEdge? waysGraph ∅ 0 1).isSome = true
      rw [found]
      rfl
    refine succeeds.mpr ⟨_, EdgeSearch.Walk.start.step adjacent, ?_⟩
    show 0 + expandedCost waysRequest waysGraph 0 1 ≠ ⊤
    rw [cost, zero_add]
    exact WithTop.coe_ne_top
  exact ⟨outcome, planned, success, least success⟩

end Samples

end NavBim
