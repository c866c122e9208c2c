import NavBim.TopomapPlannerRun

namespace NavBim

/-!
# Exact scores

When no neighbour of the start vertex is listed twice, no pair of vertices is
popped twice, so a cost once revealed stays.  Then the score of a vertex is
the sum of the planned costs up to the start vertex after every iteration, and
the total cost of a result is the score of the goal.
-/

open ParentForest

section Exact

variable {K : Type} [Field K] [LinearOrder K] [SquareRoot K]

/-- Along every link the score grows by the planned cost of a closed edge. -/
def ExactTree
    (request : PlanRequest K)
    (state : PlannerState K) : Prop :=
  ∀ vertex above,
    state.cameFrom vertex = some above →
    edgePair above vertex ∈ state.closedSet ∧
      ∃ edge,
        filteredEdge? state.graph request.disabledVertices
            above vertex = some edge ∧
          state.gScore vertex =
            state.gScore above + edge.properties.plannedCost ∧
          edge.properties.path.isSome = true

/-- What holds in addition when no pair is in the heap twice. -/
structure SimpleSearch
    (request : PlanRequest K)
    (state : PlannerState K) : Prop where
  openSet : OpenSetSimple state
  exact : ExactTree request state

variable
  {request : PlanRequest K}
  {graph : TopologicalGraph K}
  {state next relaxed : PlannerState K}
  {entry : OpenSetEdge K}
  {edge : StoredEdge K}

theorem initialState_simpleSearch
    (distinct :
      (filteredTargets graph request.disabledVertices
        request.startVertex).Nodup) :
    SimpleSearch request (initialState request graph) := by
  refine ⟨initialState_simple distinct, ?_⟩
  intro vertex above link
  rw [(initialState_opened request graph).frame] at link
  cases link

section

omit [SquareRoot K]

/-- A popped pair was not closed before. -/
theorem SimpleSearch.entry_not_closed
    (simple : SimpleSearch request state)
    (invariant : SearchInvariant request graph state)
    (member : entry ∈ state.openHeap) :
    (entry.u, entry.v) ∉ state.closedSet := by
  apply invariant.openSet.handle_open
  rw [simple.openSet.entry_mapped entry member]
  rfl

theorem ExactTree.expand
    (exact : ExactTree request state)
    (ordered : entry.u ≤ entry.v)
    (notClosed : (entry.u, entry.v) ∉ state.closedSet) :
    ExactTree request (expandedState request state entry edge) := by
  intro vertex above link
  obtain ⟨closed, old, found, score, path⟩ :=
    exact vertex above link
  refine ⟨Finset.mem_insert_of_mem closed, old, ?_, score, path⟩
  have apart :
      ¬((above = entry.u ∧ vertex = entry.v) ∨
        (above = entry.v ∧ vertex = entry.u)) := by
    rw [← edgePair_eq_iff, edgePair_of_le ordered]
    intro same
    rw [same] at closed
    exact notClosed closed
  simp only [expandedState, planEdge]
  rw [filteredEdge?_modifyEdge_other _ _ _ _ _ apart]
  exact found

theorem expandedState_edge
    (found :
      filteredEdge? state.graph request.disabledVertices
        entry.u entry.v = some edge) :
    ∃ planned,
      filteredEdge? (expandedState request state entry edge).graph
          request.disabledVertices
          (entryEnds state entry).1 (entryEnds state entry).2 =
            some planned ∧
        planned.properties.plannedCost =
          revealedCost request state entry edge ∧
        (revealedCost request state entry edge ≠ ⊤ →
          planned.properties.path.isSome = true) := by
  have atEntry :
      filteredEdge? (expandedState request state entry edge).graph
          request.disabledVertices entry.u entry.v =
        some (edge.mapProperties
          (storeResult
            (edgeResult request state.graph state.secondLevelCount
              entry.u entry.v edge.properties))) := by
    simp only [expandedState, planEdge]
    rw [filteredEdge?_modifyEdge_same]
    simp only [popOpenEdge, found, Option.map_some]
  refine ⟨edge.mapProperties
    (storeResult
      (edgeResult request state.graph state.secondLevelCount
        entry.u entry.v edge.properties)), ?_, rfl, storeResult_path _ _⟩
  unfold entryEnds
  rcases (orient_spec state.gScore entry.u entry.v).1 with
      same | swapped
  · rw [same]
    exact atEntry
  · rw [swapped, filteredEdge?_comm]
    exact atEntry

end

theorem SimpleSearch.step
    [IsStrictOrderedRing K]
    (simple : SimpleSearch request state)
    (invariant : SearchInvariant request graph state)
    (stages : IterationStages request state next entry edge relaxed) :
    SimpleSearch request next := by
  have ordered :=
    (invariant.openSet.entry_edge entry stages.entry_mem).1
  have notClosed := simple.entry_not_closed invariant stages.entry_mem
  have adjacent := expandedState_adjacent stages.edge_found
  have nonneg := invariant.revealed_nonneg stages.edge_found
  have tree := invariant.tree.expand entry edge
  have expandedExact :
      ExactTree request (expandedState request state entry edge) :=
    simple.exact.expand ordered notClosed
  have relaxedSimple : OpenSetSimple relaxed := by
    have closed :
        OpenSetSimple (expandedState request state entry edge) :=
      simple.openSet.close invariant.openSet stages.entry_mem
    exact closed.relax stages.relaxation
  have relaxedExact : ExactTree request relaxed := by
    rcases stages.relaxation with ⟨-, same⟩ | ⟨better, improvement⟩
    · rw [same]
      exact expandedExact
    · intro vertex above link
      have sameClosed :
          relaxed.closedSet =
            (expandedState request state entry edge).closedSet := by
        rw [improvement.frame]
      have sameGraph :
          relaxed.graph =
            (expandedState request state entry edge).graph := by
        rw [improvement.frame]
      rw [sameClosed, sameGraph]
      by_cases isSuc : vertex = (entryEnds state entry).2
      · subst isSuc
        have isPre : above = (entryEnds state entry).1 := by
          rw [improvement.frame] at link
          simpa using link.symm
        subst isPre
        obtain ⟨planned, found, isCost, hasPath⟩ :=
          expandedState_edge stages.edge_found
        refine ⟨?_, planned, found, ?_, ?_⟩
        · rw [invariant.edgePair_ends stages]
          exact Finset.mem_insert_self _ _
        · rw [improvement.score_suc, isCost,
            tree.pre_kept adjacent nonneg better improvement]
        · exact hasPath (WithTop.add_ne_top.mp better.ne_top).2
      · have oldLink :
            (expandedState request state entry edge).cameFrom vertex =
              some above := by
          rw [improvement.frame] at link
          simpa [Function.update_of_ne isSuc] using link
        obtain ⟨closed, planned, found, score, hasPath⟩ :=
          expandedExact vertex above oldLink
        obtain ⟨saved, vertexShift, aboveShift⟩ :=
          tree.link_shift adjacent nonneg better improvement isSuc oldLink
        refine ⟨closed, planned, found, ?_, hasPath⟩
        rw [← vertexShift, ← aboveShift, add_right_comm] at score
        exact (WithTop.add_right_inj WithTop.coe_ne_top).mp score
  obtain ⟨opened, -, nextSimple⟩ :=
    invariant.opened stages (motive := OpenSetSimple)
      ⟨relaxedSimple.entry_mapped, relaxedSimple.popped_once⟩
      (fun held _ fresh _ => held.push fresh)
  refine ⟨nextSimple, ?_⟩
  rw [opened.frame]
  exact relaxedExact

section TotalCost

@[simp] theorem coarseEdges_cons_cons
    (first second : Nat)
    (rest : List Nat) :
    coarseEdges (first :: second :: rest) =
      (first, second) :: coarseEdges (second :: rest) :=
  rfl

/-- The last edge of a path comes last. -/
theorem coarseEdges_append_pair
    (earlier : List Nat)
    (pre suc : Nat) :
    coarseEdges (earlier ++ [pre, suc]) =
      coarseEdges (earlier ++ [pre]) ++ [(pre, suc)] := by
  induction earlier with
  | nil =>
      rfl
  | cons first rest inductionHypothesis =>
      cases rest with
      | nil =>
          rfl
      | cons second later =>
          simp only [List.cons_append, coarseEdges_cons_cons] at *
          rw [inductionHypothesis]

section

omit [SquareRoot K]

/-- The waypoints of a link's edge are part of the detailed path. -/
theorem ExactTree.pathSegment
    (exact : ExactTree request state)
    {vertex above : Nat}
    (link : state.cameFrom vertex = some above) :
    ∃ segment,
      pathSegment? state.graph request.disabledVertices above vertex =
          some segment ∧
        state.gScore vertex = state.gScore above + segment.cost := by
  obtain ⟨-, planned, found, score, hasPath⟩ := exact vertex above link
  obtain ⟨path, isPath⟩ := Option.isSome_iff_exists.mp hasPath
  exact ⟨_, by simp [pathSegment?, found, isPath]; rfl, score⟩

theorem ExactTree.sum_costs
    (exact : ExactTree request state)
    (tree : ScoreTree request state)
    (path : List Nat) :
    ∀ vertex,
      FollowsPredecessors state.cameFrom vertex path →
      Below state.cameFrom request.startVertex vertex →
      (((coarseEdges path.reverse).filterMap fun ends =>
          pathSegment? state.graph request.disabledVertices
            ends.1 ends.2).map PathSegment.cost).sum =
        state.gScore vertex := by
  induction path with
  | nil =>
      intro vertex follows _
      cases follows.head
  | cons first rest inductionHypothesis =>
      intro vertex follows hangs
      have isFirst : first = vertex := by simpa using follows.head
      subst isFirst
      cases rest with
      | nil =>
          have isRoot : state.cameFrom first = none := follows.last rfl
          rcases Relation.ReflTransGen.cases_tail hangs with
              isStart | ⟨above, -, last⟩
          · rw [isStart, tree.start_score]
            rfl
          · unfold Step at last
            rw [isRoot] at last
            cases last
      | cons above higher =>
          obtain ⟨link, chain⟩ := List.isChain_cons_cons.mp follows.chain
          have aboveHangs :
              Below state.cameFrom request.startVertex above := by
            rcases Relation.ReflTransGen.cases_tail hangs with
                isStart | ⟨other, otherHangs, last⟩
            · rw [isStart, tree.rooted.rootFree] at link
              cases link
            · unfold Step at last
              rw [link] at last
              rw [Option.some.inj last]
              exact otherHangs
          have aboveFollows :
              FollowsPredecessors state.cameFrom above
                (above :: higher) :=
            ⟨rfl, chain, fun isLast => follows.last (by
              rw [List.getLast?_cons_cons]
              exact isLast)⟩
          have aboveSum :=
            inductionHypothesis above aboveFollows aboveHangs
          obtain ⟨segment, isSegment, score⟩ := exact.pathSegment link
          have split :
              coarseEdges (first :: above :: higher).reverse =
                coarseEdges (above :: higher).reverse ++
                  [(above, first)] := by
            simp only [List.reverse_cons, List.append_assoc,
              List.cons_append, List.nil_append]
            exact coarseEdges_append_pair higher.reverse above first
          rw [split, List.filterMap_append, List.map_append,
            List.sum_append, aboveSum, score]
          simp [isSegment]

theorem SearchInvariant.reconstruct_total
    (invariant : SearchInvariant request graph state)
    (exact : ExactTree request state)
    (goalEnabled : request.goalVertex ∉ request.disabledVertices)
    {outcome : PlanOutcome K}
    (run : reconstruct request state = some outcome)
    (success : outcome.result.success = true) :
    outcome.result.totalCost = state.gScore request.goalVertex := by
  unfold reconstruct at run
  split at run
  · rename_i finite
    have hangs :
        Below state.cameFrom request.startVertex request.goalVertex :=
      invariant.tree.reached (invariant.best_goal finite.ne) goalEnabled
        (ne_top_of_le_ne_top finite.ne invariant.best_ge)
    obtain ⟨path, isPath, follows⟩ :=
      followCameFrom_exists invariant.tree.rooted
        (fun link =>
          (enabled_of_filteredEdge (invariant.tree.link_edge link)).1.1)
        request.goalVertex
    rw [isPath] at run
    rw [← Option.some.inj run]
    exact exact.sum_costs invariant.tree path _ follows hangs
  · rw [← Option.some.inj run] at success
    cases success

end

end TotalCost

section Runs

/-- The states that the main loop passes through. -/
inductive LoopState
    (request : PlanRequest K)
    (graph : TopologicalGraph K) : PlannerState K → Prop where
  | initial :
      LoopState request graph (initialState request graph)
  | next
      {state next : PlannerState K}
      {nonempty : state.openHeap ≠ []} :
      LoopState request graph state →
      iteration request state nonempty = some next →
      LoopState request graph next

end Runs

end Exact

section Samples

end Samples

end NavBim
