import NavBim.TopomapPlannerTree

namespace NavBim

/-!
# Runs of the planner

`SearchInvariant` collects what holds before and after every iteration on any
graph with nonnegative costs.  It is established by the initial state, kept by
an iteration, and strong enough to see that the main loop and the path
reconstruction end.
-/

open ParentForest

section Invariant

variable {K : Type} [Field K] [LinearOrder K] [SquareRoot K]

/-- What holds between iterations of a search that began on `graph`. -/
structure SearchInvariant
    (request : PlanRequest K)
    (graph : TopologicalGraph K)
    (state : PlannerState K) : Prop where
  shape :
    SameShape graph state.graph
  untouched :
    ∀ {u v},
      edgePair u v ∉ state.closedSet →
      filteredEdge? state.graph request.disabledVertices u v =
        filteredEdge? graph request.disabledVertices u v
  costs :
    NonnegativeCosts request state.graph
  openSet :
    OpenSetValid request state
  budget :
    PushBudget request graph state
  tree :
    ScoreTree request state
  explored :
    ∀ {vertex neighbor},
      state.gScore vertex ≠ ⊤ →
      (filteredEdge? state.graph request.disabledVertices
        vertex neighbor).isSome = true →
      (state.edgeToHandle (edgePair vertex neighbor)).isSome = true ∨
        edgePair vertex neighbor ∈ state.closedSet
  best_ge :
    state.gScore request.goalVertex ≤ state.bestScore
  best_goal :
    state.bestScore ≠ ⊤ →
    request.goalVertex < state.graph.numVertices
  best_reached :
    request.goalVertex ≠ request.startVertex →
    request.goalVertex < state.graph.numVertices →
    request.goalVertex ∉ request.disabledVertices →
    state.gScore request.goalVertex ≠ ⊤ →
    state.bestScore ≠ ⊤

variable
  {request : PlanRequest K}
  {graph : TopologicalGraph K}
  {state next relaxed : PlannerState K}

section Initial

/-- What the state is after some edges at the start vertex were pushed. -/
structure StartOpened
    (request : PlanRequest K)
    (graph : TopologicalGraph K)
    (state : PlannerState K)
    (neighbors : List Nat) : Prop where
  frame :
    state =
      { unopenedState request graph with
        openHeap := state.openHeap
        edgeToHandle := state.edgeToHandle
        nextHandle := neighbors.length }
  openSet :
    OpenSetValid request state
  entry_key :
    ∀ entry ∈ state.openHeap,
      ∃ neighbor ∈ neighbors,
        (entry.u, entry.v) = edgePair request.startVertex neighbor ∧
          entry.fScore =
            h1Score graph request.disabledVertices
                request.startVertex neighbor +
              h2Score request graph neighbor
  handled :
    ∀ neighbor ∈ neighbors,
      (state.edgeToHandle
        (edgePair request.startVertex neighbor)).isSome = true

theorem startOpened_foldl
    (neighbors : List Nat)
    (edges :
      ∀ neighbor ∈ neighbors,
        (filteredEdge? graph request.disabledVertices
          request.startVertex neighbor).isSome = true) :
    StartOpened request graph
        (neighbors.foldl (openStartEdge request graph)
          (unopenedState request graph)) neighbors ∧
      (neighbors.Nodup →
        OpenSetSimple
          (neighbors.foldl (openStartEdge request graph)
            (unopenedState request graph))) := by
  induction neighbors using List.reverseRecOn with
  | nil =>
      refine ⟨⟨rfl, ⟨?_, ?_, ?_, ?_, ?_, ?_, rfl⟩, ?_, ?_⟩, fun _ => ⟨?_, ?_⟩⟩ <;>
        simp [unopenedState]
  | append_singleton earlier last inductionHypothesis =>
      obtain ⟨opened, simple⟩ :=
        inductionHypothesis fun neighbor member =>
          edges neighbor (List.mem_append_left _ member)
      have isEdge := edges last (by simp)
      simp only [List.foldl_append, List.foldl_cons, List.foldl_nil]
      generalize earlier.foldl (openStartEdge request graph)
        (unopenedState request graph) = before at opened simple
      have sameGraph : before.graph = graph := by
        rw [opened.frame]
        rfl
      have noneClosed : before.closedSet = ∅ := by
        rw [opened.frame]
        rfl
      have nextHandle : before.nextHandle = earlier.length := by
        rw [opened.frame]
      refine ⟨⟨?_, ?_, ?_, ?_⟩, ?_⟩
      · simp only [openStartEdge, pushOpenEdge, nextHandle,
          List.length_append, List.length_singleton]
        rw [opened.frame]
      · apply opened.openSet.push
        · rw [sameGraph]
          exact isEdge
        · simp [noneClosed]
      · intro entry member
        rcases List.mem_append.mp member with old | new
        · obtain ⟨neighbor, inEarlier, spec⟩ := opened.entry_key entry old
          exact ⟨neighbor, List.mem_append_left _ inEarlier, spec⟩
        · rw [List.mem_singleton] at new
          subst new
          exact ⟨last, by simp, rfl, rfl⟩
      · intro neighbor member
        by_cases same :
            edgePair request.startVertex neighbor =
              edgePair request.startVertex last
        · simp [openStartEdge, pushOpenEdge, same]
        · simp only [openStartEdge, pushOpenEdge,
            Function.update_of_ne same]
          apply opened.handled
          rcases List.mem_append.mp member with old | new
          · exact old
          · rw [List.mem_singleton] at new
            exact absurd (by rw [new]) same
      · intro distinct
        obtain ⟨earlierDistinct, -, apart⟩ :=
          List.nodup_append.mp distinct
        apply (simple earlierDistinct).push
        cases handled :
            before.edgeToHandle (edgePair request.startVertex last) with
        | none =>
            rfl
        | some handle =>
            obtain ⟨entry, inHeap, -, isPair⟩ :=
              opened.openSet.handle_entry handled
            obtain ⟨neighbor, inEarlier, samePair, -⟩ :=
              opened.entry_key entry inHeap
            rw [isPair, edgePair_eq_iff] at samePair
            have same : neighbor = last := by omega
            exact absurd same (apart neighbor inEarlier last (by simp))

theorem initialState_opened
    (request : PlanRequest K)
    (graph : TopologicalGraph K) :
    StartOpened request graph (initialState request graph)
      (filteredTargets graph request.disabledVertices
        request.startVertex) :=
  (startOpened_foldl _
    fun _ member => mem_filteredTargets.mp member).1

/-- Different neighbours of the start vertex are pushed under own handles. -/
theorem initialState_simple
    (distinct :
      (filteredTargets graph request.disabledVertices
        request.startVertex).Nodup) :
    OpenSetSimple (initialState request graph) :=
  (startOpened_foldl _
    fun _ member => mem_filteredTargets.mp member).2 distinct

theorem initialState_invariant
    (costs : NonnegativeCosts request graph) :
    SearchInvariant request graph (initialState request graph) := by
  have opened := initialState_opened request graph
  have isStart
      {vertex : Nat}
      (inGraph : vertex < graph.numVertices)
      (enabled : vertex ∉ request.disabledVertices)
      (finite : (unopenedState request graph).gScore vertex ≠ ⊤) :
      vertex = request.startVertex := by
    by_contra other
    simp [unopenedState, other, inGraph, enabled] at finite
  have handled := opened.handled
  have openSet := opened.openSet
  rw [opened.frame] at handled openSet ⊢
  refine ⟨SameShape.refl graph, fun _ => rfl, costs, openSet,
    ⟨∅, ?_, ?_, ?_⟩,
    ⟨⟨rfl, ?_⟩, ?_, ?_, ?_, ?_, ?_⟩, ?_, le_top, ?_, ?_⟩
  · exact Finset.empty_subset _
  · intro pair member
    cases member
  · rw [Finset.card_empty]
    exact le_rfl
  · intro vertex above link
    cases link
  · intro vertex above link
    cases link
  · intro vertex above link
    cases link
  · intro vertex
    simp only [unopenedState]
    split_ifs <;> simp
  · simp [unopenedState]
  · intro vertex inGraph enabled finite
    rw [isStart inGraph enabled finite]
    exact Relation.ReflTransGen.refl
  · intro vertex neighbor finite isEdge
    have ends := (enabled_of_filteredEdge isEdge).1
    rw [isStart ends.1 ends.2 finite] at isEdge ⊢
    exact Or.inl (handled neighbor (mem_filteredTargets.mpr isEdge))
  · intro finite
    exact absurd rfl finite
  · intro notStart inGraph enabled finite
    exact absurd (isStart inGraph enabled finite) notStart

end Initial

section Step

variable
  [IsStrictOrderedRing K]
  (invariant : SearchInvariant request graph state)

include invariant

omit [SquareRoot K] [IsStrictOrderedRing K] in
theorem SearchInvariant.revealed_nonneg
    {entry : OpenSetEdge K}
    {edge : StoredEdge K}
    (found :
      filteredEdge? state.graph request.disabledVertices
        entry.u entry.v = some edge) :
    0 ≤ revealedCost request state entry edge := by
  obtain ⟨-, -, inGraph⟩ := filteredEdge?_eq_some.mp found
  exact invariant.costs.revealed
    (TopologicalGraph.edge?_eq_some inGraph).1
    state.secondLevelCount entry.u entry.v

omit [SquareRoot K] [IsStrictOrderedRing K] invariant in
theorem expandedState_adjacent
    {entry : OpenSetEdge K}
    {edge : StoredEdge K}
    (found :
      filteredEdge? state.graph request.disabledVertices
        entry.u entry.v = some edge) :
    (filteredEdge? (expandedState request state entry edge).graph
      request.disabledVertices
      (entryEnds state entry).1 (entryEnds state entry).2).isSome =
        true := by
  have adjacent :
      (filteredEdge? state.graph request.disabledVertices
        (entryEnds state entry).1 (entryEnds state entry).2).isSome =
          true :=
    entryEnds_adjacent (by rw [found]; rfl)
  simp only [expandedState, planEdge, filteredEdge?_modifyEdge_isSome]
  exact adjacent

theorem SearchInvariant.stages
    (nonempty : state.openHeap ≠ []) :
    ∃ next edge relaxed,
      iteration request state nonempty = some next ∧
        IterationStages request state next
          (topEntry request state nonempty) edge relaxed := by
  have member : topEntry request state nonempty ∈ state.openHeap :=
    request.heapOrder.top_mem _ _ nonempty
  obtain ⟨edge, found⟩ :=
    Option.isSome_iff_exists.mp
      (invariant.openSet.entry_edge _ member).2
  obtain ⟨relaxed, run, relaxation⟩ :=
    (invariant.tree.expand (topEntry request state nonempty)
      edge).relaxation_exists
      (expandedState_adjacent found)
      (invariant.revealed_nonneg found)
      (invariant.openSet.close member)
  refine ⟨_, edge, relaxed, ?_,
    member, request.heapOrder.top_le _ _ nonempty, found,
    relaxation, rfl⟩
  have found' :
      filteredEdge?
          (popOpenEdge state (topEntry request state nonempty)).graph
          request.disabledVertices
          (topEntry request state nonempty).u
          (topEntry request state nonempty).v = some edge :=
    found
  simp only [iteration, found', finishIteration]
  have run' :
      relaxEdge request
          (planEdge request
            (popOpenEdge state (topEntry request state nonempty))
            (topEntry request state nonempty).u
            (topEntry request state nonempty).v edge.properties)
          (orient state.gScore
            (topEntry request state nonempty).u
            (topEntry request state nonempty).v).1
          (orient state.gScore
            (topEntry request state nonempty).u
            (topEntry request state nonempty).v).2
          (revealedCost request state
            (topEntry request state nonempty) edge) = some relaxed :=
    run
  exact congrArg (Option.map _) run'

theorem SearchInvariant.stages_of_iteration
    {nonempty : state.openHeap ≠ []}
    (run : iteration request state nonempty = some next) :
    ∃ edge relaxed,
      IterationStages request state next
        (topEntry request state nonempty) edge relaxed := by
  obtain ⟨same, edge, relaxed, run', stages⟩ := invariant.stages nonempty
  rw [run] at run'
  rw [Option.some.inj run']
  exact ⟨edge, relaxed, stages⟩

variable
  {entry : OpenSetEdge K}
  {edge : StoredEdge K}
  (stages : IterationStages request state next entry edge relaxed)

include stages

theorem SearchInvariant.relaxed_tree :
    ScoreTree request relaxed ∧ OpenSetValid request relaxed := by
  constructor
  · exact (invariant.tree.expand entry edge).relax
      (expandedState_adjacent stages.edge_found)
      (invariant.revealed_nonneg stages.edge_found) stages.relaxation
  · exact (invariant.openSet.close stages.entry_mem).relax
      stages.relaxation

omit [IsStrictOrderedRing K] in
theorem SearchInvariant.edgePair_ends :
    edgePair (entryEnds state entry).1 (entryEnds state entry).2 =
      (entry.u, entry.v) := by
  rw [edgePair_entryEnds, edgePair_of_le
    (invariant.openSet.entry_edge entry stages.entry_mem).1]

/--
Opening the neighbours of `suc`, together with anything that a push of an
edge that is neither open nor closed preserves.
-/
theorem SearchInvariant.opened
    {motive : PlannerState K → Prop}
    (holds :
      motive (updateBestScore request relaxed (entryEnds state entry).2))
    (pushed :
      ∀ {current neighbor},
        motive current →
        (filteredEdge? relaxed.graph request.disabledVertices
          (entryEnds state entry).2 neighbor).isSome = true →
        current.edgeToHandle
          (edgePair (entryEnds state entry).2 neighbor) = none →
        edgePair (entryEnds state entry).2 neighbor ∉
          current.closedSet →
        motive
          (pushOpenEdge current (entryEnds state entry).2 neighbor
            (fScore request current
              (entryEnds state entry).2 neighbor))) :
    Opened request
        (updateBestScore request relaxed (entryEnds state entry).2)
        next (entryEnds state entry).1 (entryEnds state entry).2
        (filteredTargets relaxed.graph request.disabledVertices
          (entryEnds state entry).2) ∧
      OpenSetValid request next ∧
      motive next := by
  have valid := (invariant.relaxed_tree stages).2
  have scoredValid :
      OpenSetValid request
        (updateBestScore request relaxed (entryEnds state entry).2) :=
    ⟨valid.handle_lt, valid.handles_distinct, valid.entry_edge,
      valid.handle_entry, valid.handle_open, valid.popped_iff,
      valid.count⟩
  rw [stages.opened]
  exact openNeighbors_spec scoredValid holds pushed

/-- Scores only fall, and only `suc` may get its first score. -/
theorem SearchInvariant.scores_fall :
    next.gScore = relaxed.gScore ∧
      next.cameFrom = relaxed.cameFrom ∧
      (∀ vertex, relaxed.gScore vertex ≤ state.gScore vertex) ∧
      (∀ {vertex},
        vertex ≠ (entryEnds state entry).2 →
        relaxed.gScore vertex ≠ ⊤ →
        state.gScore vertex ≠ ⊤) := by
  have opened :=
    (invariant.opened stages (motive := fun _ => True)
      trivial (fun _ _ _ _ => trivial)).1
  refine ⟨?_, ?_, ?_, ?_⟩
  · rw [opened.frame]
    rfl
  · rw [opened.frame]
    rfl
  · exact (invariant.tree.expand entry edge).relax_falls
      (expandedState_adjacent stages.edge_found)
      (invariant.revealed_nonneg stages.edge_found) stages.relaxation
  · intro vertex other finite
    exact (invariant.tree.expand entry edge).relax_finite_before
      (expandedState_adjacent stages.edge_found)
      (invariant.revealed_nonneg stages.edge_found) stages.relaxation
      other finite

theorem SearchInvariant.next_frame :
    next.graph =
        state.graph.modifyEdge entry.u entry.v
          (storeResult
            (edgeResult request state.graph state.secondLevelCount
              entry.u entry.v edge.properties)) ∧
      next.closedSet = insert (entry.u, entry.v) state.closedSet ∧
      next.popped = (entry.u, entry.v) :: state.popped := by
  have opened :=
    (invariant.opened stages (motive := fun _ => True)
      trivial (fun _ _ _ _ => trivial)).1
  rw [opened.frame]
  simp only [updateBestScore]
  rw [stages.relaxation.frame]
  exact ⟨rfl, rfl, rfl⟩

/-- A pair that is open or closed stays so. -/
theorem SearchInvariant.known_next
    {pair : Nat × Nat}
    (known :
      (state.edgeToHandle pair).isSome = true ∨ pair ∈ state.closedSet) :
    (next.edgeToHandle pair).isSome = true ∨ pair ∈ next.closedSet := by
  have opened :=
    (invariant.opened stages (motive := fun _ => True)
      trivial (fun _ _ _ _ => trivial)).1
  rw [(invariant.next_frame stages).2.1, Finset.mem_insert]
  by_cases isPopped : pair = (entry.u, entry.v)
  · exact Or.inr (Or.inl isPopped)
  · rcases known with handled | closed
    · left
      obtain ⟨handle, mapped⟩ := Option.isSome_iff_exists.mp handled
      have stillMapped :
          (updateBestScore request relaxed
            (entryEnds state entry).2).edgeToHandle pair =
              some handle := by
        simp only [updateBestScore]
        rw [stages.relaxation.frame]
        simp only [expandedState, planEdge, popOpenEdge,
          Function.update_of_ne isPopped]
        exact mapped
      rw [opened.handle_kept stillMapped]
      rfl
    · exact Or.inr (Or.inr closed)

/-- The edges at reached vertices are open or closed. -/
theorem SearchInvariant.explored_next
    {vertex neighbor : Nat}
    (finite : next.gScore vertex ≠ ⊤)
    (isEdge :
      (filteredEdge? next.graph request.disabledVertices
        vertex neighbor).isSome = true) :
    (next.edgeToHandle (edgePair vertex neighbor)).isSome = true ∨
      edgePair vertex neighbor ∈ next.closedSet := by
  obtain ⟨sameScore, -, -, finiteBefore⟩ := invariant.scores_fall stages
  obtain ⟨sameGraph, sameClosed, -⟩ := invariant.next_frame stages
  have opened :=
    (invariant.opened stages (motive := fun _ => True)
      trivial (fun _ _ _ _ => trivial)).1
  rw [sameScore] at finite
  by_cases isSuc : vertex = (entryEnds state entry).2
  · subst isSuc
    by_cases isPre : neighbor = (entryEnds state entry).1
    · subst isPre
      right
      rw [edgePair_comm, invariant.edgePair_ends stages, sameClosed]
      exact Finset.mem_insert_self _ _
    · have relaxedEdge :
          (filteredEdge? relaxed.graph request.disabledVertices
            (entryEnds state entry).2 neighbor).isSome = true := by
        rw [stages.relaxation.frame]
        rw [sameGraph] at isEdge
        exact isEdge
      rcases opened.explored neighbor
          (mem_filteredTargets.mpr relaxedEdge) isPre with
          handled | closed
      · exact Or.inl handled
      · right
        rw [opened.frame]
        exact closed
  · rw [sameGraph, filteredEdge?_modifyEdge_isSome] at isEdge
    exact invariant.known_next stages
      (invariant.explored (finiteBefore isSuc finite) isEdge)

theorem SearchInvariant.step :
    SearchInvariant request graph next := by
  have frame := stages.relaxation.frame
  obtain ⟨sameScore, sameTree, falls, finiteBefore⟩ :=
    invariant.scores_fall stages
  obtain ⟨sameGraph, sameClosed, -⟩ := invariant.next_frame stages
  obtain ⟨tree, -⟩ := invariant.relaxed_tree stages
  have relaxedGraph :
      relaxed.graph = (expandedState request state entry edge).graph := by
    rw [frame]
  have sameBest : relaxed.bestScore = state.bestScore := by
    rw [frame]
    rfl
  have nextShape : SameShape graph next.graph := by
    rw [sameGraph]
    exact invariant.shape.modifyEdge _ _ _
  have relaxedShape : SameShape graph relaxed.graph := by
    rw [relaxedGraph]
    exact invariant.shape.modifyEdge _ _ _
  have budget : PushBudget request graph relaxed := by
    have closed :
        PushBudget request graph
          (expandedState request state entry edge) :=
      invariant.budget.close
    rw [frame]
    exact closed
  obtain ⟨opened, openSet, nextBudget⟩ :=
    invariant.opened stages (motive := PushBudget request graph)
      budget (by
        intro current neighbor held isEdge fresh notClosed
        rw [relaxedShape.filteredEdge?_isSome] at isEdge
        exact held.push isEdge fresh notClosed)
  refine ⟨nextShape, ?_, ?_, openSet, nextBudget, ?_, ?_, ?_, ?_, ?_⟩
  · intro u v notClosed
    rw [sameClosed, Finset.mem_insert, not_or] at notClosed
    rw [sameGraph, filteredEdge?_modifyEdge_other]
    · exact invariant.untouched notClosed.2
    · have ordered :=
        (invariant.openSet.entry_edge entry stages.entry_mem).1
      rw [← edgePair_eq_iff, edgePair_of_le ordered]
      exact notClosed.1
  · rw [sameGraph]
    exact invariant.costs.store _ stages.edge_found
  · rw [opened.frame]
    exact ⟨tree.rooted, tree.link_edge, tree.link_score,
      tree.score_nonneg, tree.start_score, tree.reached⟩
  · intro vertex neighbor finite isEdge
    exact invariant.explored_next stages finite isEdge
  · rw [opened.frame]
    have fallen :
        relaxed.gScore request.goalVertex ≤ state.bestScore :=
      (falls _).trans invariant.best_ge
    simp only [updateBestScore]
    split
    · rename_i isGoal
      rw [isGoal.1]
    · rw [sameBest]
      exact fallen
  · intro finite
    rw [nextShape.numVertices, ← invariant.shape.numVertices]
    rw [opened.frame] at finite
    simp only [updateBestScore] at finite
    split at finite
    · rename_i isGoal
      rw [← isGoal.1]
      have enabled :=
        (enabled_of_filteredEdge
          (expandedState_adjacent stages.edge_found)).2
      exact enabled.1
    · rw [sameBest] at finite
      exact invariant.best_goal finite
  · intro notStart inGraph enabled finite
    rw [sameScore] at finite
    rw [opened.frame]
    simp only [updateBestScore]
    split
    · rename_i isGoal
      rw [isGoal.1]
      exact finite
    · rename_i notLower
      rw [sameBest] at notLower ⊢
      by_cases isSuc :
          (entryEnds state entry).2 = request.goalVertex
      · rw [isSuc] at notLower
        push Not at notLower
        exact ne_top_of_le_ne_top finite (notLower rfl)
      · rw [nextShape.numVertices, ← invariant.shape.numVertices]
          at inGraph
        exact invariant.best_reached notStart inGraph enabled
          (finiteBefore (Ne.symm isSuc) finite)

end Step

section Loop

/--
The main loop ends here: no edge is open, or an edge has been expanded and no
key beats the best score.
-/
def Stopped
    (request : PlanRequest K)
    (state : PlannerState K) : Prop :=
  state.openHeap = [] ∨
    (state.popped ≠ [] ∧ earlyTermination request state = true)

omit [SquareRoot K] in
/-- The number of pops is bounded by the loop's fuel. -/
theorem SearchInvariant.popped_lt
    (invariant : SearchInvariant request graph state)
    (nonempty : state.openHeap ≠ []) :
    state.popped.length + 1 < loopFuel request graph := by
  obtain ⟨pushed, inGraph, -, bound⟩ := invariant.budget
  have count := invariant.openSet.count
  have pairs :=
    (Finset.card_le_card inGraph).trans (card_edgePairs_le graph)
  have waiting : 0 < state.openHeap.length :=
    List.length_pos_iff.mpr nonempty
  unfold loopFuel
  omega

/--
The main loop ends.  Whatever every iteration preserves holds at the end; an
iteration other than the first one runs only when some key beats the best
score.
-/
theorem SearchInvariant.mainLoop_exists
    [IsStrictOrderedRing K]
    {motive : PlannerState K → Prop}
    (preserved :
      ∀ {state next} {nonempty : state.openHeap ≠ []},
        SearchInvariant request graph state →
        motive state →
        state.popped = [] ∨ earlyTermination request state = false →
        iteration request state nonempty = some next →
        motive next) :
    ∀ (fuel : Nat) (state : PlannerState K),
      SearchInvariant request graph state →
      motive state →
      state.popped = [] ∨ earlyTermination request state = false →
      loopFuel request graph ≤ fuel + state.popped.length →
      0 < fuel →
      ∃ final,
        mainLoop request fuel state = some final ∧
          SearchInvariant request graph final ∧
          motive final ∧ Stopped request final := by
  intro fuel
  induction fuel with
  | zero =>
      intro state _ _ _ _ positive
      exact absurd positive (Nat.lt_irrefl 0)
  | succ fuel inductionHypothesis =>
      intro state invariant holds running enough _
      by_cases nonempty : state.openHeap ≠ []
      · obtain ⟨next, edge, relaxed, run, stages⟩ :=
          invariant.stages nonempty
        have nextInvariant := invariant.step stages
        have nextHolds := preserved invariant holds running run
        have isEdge :
            (filteredEdge? state.graph request.disabledVertices
              (topEntry request state nonempty).u
              (topEntry request state nonempty).v).isSome = true := by
          rw [stages.edge_found]
          rfl
        have nextPopped := (invariant.next_frame stages).2.2
        by_cases early : earlyTermination request next = true
        · refine ⟨next, ?_, nextInvariant, nextHolds, Or.inr ⟨?_, early⟩⟩
          · simp [mainLoop, nonempty, run, isEdge, early]
          · rw [nextPopped]
            exact List.cons_ne_nil _ _
        · have notEarly : earlyTermination request next = false := by
            simpa using early
          have morePopped :
              next.popped.length = state.popped.length + 1 := by
            rw [nextPopped]
            rfl
          have bound := invariant.popped_lt nonempty
          obtain ⟨final, finalRun, finalSpec⟩ :=
            inductionHypothesis next nextInvariant nextHolds
              (Or.inr notEarly) (by omega) (by omega)
          refine ⟨final, ?_, finalSpec⟩
          simpa [mainLoop, nonempty, run, isEdge, notEarly]
            using finalRun
      · refine ⟨state, ?_, invariant, holds, ?_⟩
        · simp [mainLoop, nonempty]
        · exact Or.inl (not_not.mp nonempty)

theorem mainLoop_terminates
    [IsStrictOrderedRing K]
    {motive : PlannerState K → Prop}
    (costs : NonnegativeCosts request graph)
    (initially : motive (initialState request graph))
    (preserved :
      ∀ {state next} {nonempty : state.openHeap ≠ []},
        SearchInvariant request graph state →
        motive state →
        state.popped = [] ∨ earlyTermination request state = false →
        iteration request state nonempty = some next →
        motive next) :
    ∃ final,
      mainLoop request (loopFuel request graph)
          (initialState request graph) = some final ∧
        SearchInvariant request graph final ∧
        motive final ∧ Stopped request final := by
  have noPops : (initialState request graph).popped = [] := by
    rw [(initialState_opened request graph).frame]
    rfl
  apply SearchInvariant.mainLoop_exists preserved _ _
    (initialState_invariant costs) initially (Or.inl noPops)
  · exact Nat.le_add_right _ _
  · exact Nat.succ_pos _

end Loop

section Reconstruction

/-- `path` follows the predecessors from its head until there is none. -/
structure FollowsPredecessors
    (cameFrom : Nat → Option Nat)
    (vertex : Nat)
    (path : List Nat) : Prop where
  head : path.head? = some vertex
  chain : path.IsChain fun lower upper => cameFrom lower = some upper
  last :
    ∀ {bottom}, path.getLast? = some bottom → cameFrom bottom = none

theorem followCameFrom_exists
    {cameFrom : Nat → Option Nat}
    {root count : Nat}
    (rooted : RootedAt cameFrom root)
    (bounded :
      ∀ {vertex above}, cameFrom vertex = some above → above < count)
    (vertex : Nat) :
    ∃ path,
      followCameFrom cameFrom (count + 1) vertex = some path ∧
        FollowsPredecessors cameFrom vertex path := by
  classical
  -- Every step leaves a vertex behind that is not above the next one.
  let ancestors (vertex : Nat) : Finset Nat :=
    (Finset.range count).filter
      fun upper => StrictlyBelow cameFrom upper vertex
  have fewer
      {vertex above : Nat}
      (link : cameFrom vertex = some above) :
      (ancestors above).card < (ancestors vertex).card := by
    apply Finset.card_lt_card
    refine Finset.ssubset_iff_subset_ne.mpr ⟨?_, ?_⟩
    · intro upper member
      simp only [ancestors, Finset.mem_filter] at member ⊢
      exact ⟨member.1, member.2.tail link⟩
    · intro same
      have aboveIn : above ∈ ancestors vertex := by
        simp only [ancestors, Finset.mem_filter, Finset.mem_range]
        exact ⟨bounded link, Relation.TransGen.single link⟩
      rw [← same] at aboveIn
      simp only [ancestors, Finset.mem_filter] at aboveIn
      exact rooted.acyclic above aboveIn.2
  have follow :
      ∀ (fuel vertex : Nat),
        (ancestors vertex).card < fuel →
        ∃ path,
          followCameFrom cameFrom fuel vertex = some path ∧
            FollowsPredecessors cameFrom vertex path := by
    intro fuel
    induction fuel with
    | zero =>
        intro vertex enough
        exact absurd enough (Nat.not_lt_zero _)
    | succ fuel inductionHypothesis =>
        intro vertex enough
        cases link : cameFrom vertex with
        | none =>
            refine ⟨[vertex], by simp [followCameFrom, link], rfl, ?_, ?_⟩
            · simp
            · intro bottom isLast
              have same : vertex = bottom := by simpa using isLast
              rw [← same, link]
        | some above =>
            have lessFuel := fewer link
            obtain ⟨path, run, follows⟩ :=
              inductionHypothesis above (by omega)
            obtain ⟨head, rest, shape⟩ :=
              List.exists_cons_of_ne_nil
                (List.ne_nil_of_mem (List.mem_of_head? follows.head))
            subst shape
            have isAbove : head = above := by simpa using follows.head
            subst isAbove
            refine ⟨vertex :: head :: rest, ?_, rfl, ?_, ?_⟩
            · simp [followCameFrom, link, run]
            · exact List.isChain_cons_cons.mpr ⟨link, follows.chain⟩
            · intro bottom isLast
              rw [List.getLast?_cons_cons] at isLast
              exact follows.last isLast
  apply follow
  have all : (ancestors vertex).card ≤ (Finset.range count).card :=
    Finset.card_le_card (Finset.filter_subset _ _)
  rw [Finset.card_range] at all
  omega

section

omit [SquareRoot K]

/-- The path reconstruction ends. -/
theorem SearchInvariant.reconstruct_exists
    (invariant : SearchInvariant request graph state) :
    ∃ outcome, reconstruct request state = some outcome := by
  unfold reconstruct
  split
  · obtain ⟨path, run, -⟩ :=
      followCameFrom_exists invariant.tree.rooted
        (fun link =>
          (enabled_of_filteredEdge (invariant.tree.link_edge link)).1.1)
        request.goalVertex
    exact ⟨_, by rw [run]; rfl⟩
  · exact ⟨_, rfl⟩

theorem reconstruct_success
    {outcome : PlanOutcome K}
    (run : reconstruct request state = some outcome) :
    outcome.result.success = true ↔ state.bestScore ≠ ⊤ := by
  unfold reconstruct at run
  split at run
  · rename_i finite
    obtain ⟨path, -, isOutcome⟩ := Option.map_eq_some_iff.mp run
    rw [← isOutcome]
    simp only [buildResult, true_iff]
    exact finite.ne
  · rename_i infinite
    rw [← Option.some.inj run]
    simp only [noPath, Bool.false_eq_true, false_iff, not_not]
    exact not_lt_top_iff.mp infinite

theorem SearchInvariant.best_finite_iff
    (invariant : SearchInvariant request graph state)
    (apart : request.startVertex ≠ request.goalVertex)
    (goalInGraph : request.goalVertex < graph.numVertices)
    (goalEnabled : request.goalVertex ∉ request.disabledVertices) :
    state.bestScore ≠ ⊤ ↔ state.gScore request.goalVertex ≠ ⊤ := by
  constructor
  · intro finite
    exact ne_top_of_le_ne_top finite invariant.best_ge
  · intro finite
    rw [← invariant.shape.numVertices] at goalInGraph
    exact invariant.best_reached apart.symm goalInGraph goalEnabled finite

end

end Reconstruction

end Invariant

end NavBim
