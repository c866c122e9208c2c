import NavBim.TopomapPlannerOpenSet

namespace NavBim

/-!
# The predecessor tree of the planner

The predecessors form a tree below the start vertex whatever the graph, as
long as no cost is negative: a better way never leads through the vertex it
leads to.  Hence the recursive score update and the path reconstruction end,
and a count of the pushes bounds the number of iterations.
-/

open ParentForest

section Costs

variable {K : Type} [Field K] [LinearOrder K]

/-- No cost that the planner returns or that is reused is negative. -/
structure NonnegativeCosts
    (request : PlanRequest K)
    (graph : TopologicalGraph K) : Prop where
  returned :
    ∀ {calls floor room first last},
      (request.secondLevelPlanner calls floor room first last).path.isSome =
        true →
      0 ≤ (request.secondLevelPlanner calls floor room first last).cost
  reused :
    ∀ {edge},
      edge ∈ graph.edges →
      shouldReuse request.reusePaths edge.properties = true →
      0 ≤ edge.properties.plannedCost

variable
  {request : PlanRequest K}
  {graph : TopologicalGraph K}
  {edge : StoredEdge K}

theorem NonnegativeCosts.revealed
    (costs : NonnegativeCosts request graph)
    (member : edge ∈ graph.edges)
    (calls u v : Nat) :
    0 ≤ (storeResult (edgeResult request graph calls u v edge.properties)
      edge.properties).plannedCost := by
  unfold storeResult
  split
  · exact le_top
  · rename_i path isPath
    unfold edgeResult at isPath ⊢
    by_cases reuse :
        shouldReuse request.reusePaths edge.properties = true
    · rw [if_pos reuse]
      exact costs.reused member reuse
    · rw [if_neg reuse] at isPath ⊢
      exact costs.returned (by rw [isPath]; rfl)

omit [Field K] [LinearOrder K] in
theorem storeResult_path
    (result : SecondLevelResult K)
    (properties : EdgeProperties K)
    (finite : (storeResult result properties).plannedCost ≠ ⊤) :
    (storeResult result properties).path.isSome = true := by
  unfold storeResult at finite ⊢
  split
  · rename_i failed
    rw [failed] at finite
    exact absurd rfl finite
  · rfl

theorem NonnegativeCosts.store
    (costs : NonnegativeCosts request graph)
    {disabled : Finset Nat}
    {u v : Nat}
    (calls : Nat)
    (found : filteredEdge? graph disabled u v = some edge) :
    NonnegativeCosts request
      (graph.modifyEdge u v
        (storeResult
          (edgeResult request graph calls u v edge.properties))) where
  returned := costs.returned
  reused := by
    intro stored member reuse
    obtain ⟨-, -, inGraph⟩ := filteredEdge?_eq_some.mp found
    rcases mem_modifyFirst member with old | ⟨first, -, -, isChanged⟩
    · exact costs.reused old reuse
    · subst isChanged
      have nonneg :=
        costs.revealed (TopologicalGraph.edge?_eq_some inGraph).1 calls u v
      unfold storeResult at nonneg
      simp only [StoredEdge.mapProperties, storeResult]
      split
      · exact le_top
      · rename_i path isPath
        rw [isPath] at nonneg
        exact nonneg

end Costs

section CostSub

variable {K : Type} [Field K]

@[simp] theorem costSub_coe
    (score delta : K) :
    costSub (score : WithTop K) (delta : WithTop K) =
      ((score - delta : K) : WithTop K) :=
  rfl

end CostSub

section Tree

variable {K : Type} [Field K] [LinearOrder K] [SquareRoot K]

/-- The predecessors form a tree along which the scores do not fall. -/
structure ScoreTree
    (request : PlanRequest K)
    (state : PlannerState K) : Prop where
  rooted :
    RootedAt state.cameFrom request.startVertex
  link_edge :
    ∀ {vertex above},
      state.cameFrom vertex = some above →
      (filteredEdge? state.graph request.disabledVertices
        above vertex).isSome = true
  link_score :
    ∀ {vertex above},
      state.cameFrom vertex = some above →
      state.gScore above ≤ state.gScore vertex ∧
        state.gScore vertex ≠ ⊤
  score_nonneg :
    ∀ vertex, 0 ≤ state.gScore vertex
  start_score :
    state.gScore request.startVertex = 0
  reached :
    ∀ {vertex},
      vertex < state.graph.numVertices →
      vertex ∉ request.disabledVertices →
      state.gScore vertex ≠ ⊤ →
      Below state.cameFrom request.startVertex vertex

variable
  {request : PlanRequest K}
  {state next : PlannerState K}
  {pre suc : Nat}
  {cost : WithTop K}

section

omit [SquareRoot K]

/-- Scores do not fall on the way down the tree. -/
theorem ScoreTree.score_le_of_below
    (tree : ScoreTree request state)
    {upper lower : Nat}
    (below : Below state.cameFrom upper lower) :
    state.gScore upper ≤ state.gScore lower := by
  induction below with
  | refl =>
      exact le_rfl
  | tail _ last inductionHypothesis =>
      exact inductionHypothesis.trans (tree.link_score last).1

theorem ScoreTree.reparented
    [IsStrictOrderedRing K]
    (tree : ScoreTree request state)
    (adjacent :
      (filteredEdge? state.graph request.disabledVertices
        pre suc).isSome = true)
    (nonneg : 0 ≤ cost)
    (better : state.gScore pre + cost < state.gScore suc) :
    RootedAt (Function.update state.cameFrom suc (some pre))
      request.startVertex := by
  have preLt : state.gScore pre < state.gScore suc :=
    (le_add_of_nonneg_right nonneg).trans_lt better
  have enabled := (enabled_of_filteredEdge adjacent).1
  apply tree.rooted.reparent
  · rintro rfl
    rw [tree.start_score] at preLt
    exact absurd preLt (not_lt.mpr (tree.score_nonneg pre))
  · exact tree.reached enabled.1 enabled.2 preLt.ne_top
  · intro below
    exact absurd preLt (not_lt.mpr (tree.score_le_of_below below))

/-- Every predecessor link, also the new one, belongs to an existing vertex. -/
theorem ScoreTree.bounded
    (tree : ScoreTree request state)
    (adjacent :
      (filteredEdge? state.graph request.disabledVertices
        pre suc).isSome = true)
    {vertex above : Nat}
    (link :
      Function.update state.cameFrom suc (some pre) vertex = some above) :
    vertex < state.graph.numVertices := by
  by_cases isSuc : vertex = suc
  · subst isSuc
    exact (enabled_of_filteredEdge adjacent).2.1
  · rw [Function.update_of_ne isSuc] at link
    exact (enabled_of_filteredEdge (tree.link_edge link)).2.1

end

section Improve

variable
  [IsStrictOrderedRing K]
  (tree : ScoreTree request state)
  (adjacent :
    (filteredEdge? state.graph request.disabledVertices
      pre suc).isSome = true)
  (nonneg : 0 ≤ cost)
  (better : state.gScore pre + cost < state.gScore suc)
  (improvement :
    Improvement request state next pre suc (state.gScore pre + cost))

include tree adjacent nonneg better

/-- A relaxation that finds a better way ends. -/
theorem ScoreTree.relaxEdge_exists
    (valid : OpenSetValid request state) :
    ∃ next,
      relaxEdge request state pre suc cost = some next ∧
        Improvement request state next pre suc
          (state.gScore pre + cost) :=
  relaxEdge_of_lt valid better
    (tree.reparented adjacent nonneg better)
    (fun link => tree.bounded adjacent link)

include improvement

theorem ScoreTree.improved_rooted :
    RootedAt next.cameFrom request.startVertex := by
  rw [improvement.frame]
  exact tree.reparented adjacent nonneg better

theorem ScoreTree.old_link
    {vertex above : Nat}
    (below : Below next.cameFrom suc above)
    (link : next.cameFrom vertex = some above) :
    state.cameFrom vertex = some above := by
  have rooted :=
    tree.improved_rooted adjacent nonneg better improvement
  have other : vertex ≠ suc := by
    rintro rfl
    exact rooted.acyclic vertex
      (Relation.TransGen.tail' below link)
  rw [improvement.frame] at link
  simpa [Function.update_of_ne other] using link

theorem ScoreTree.old_score_le
    {vertex : Nat}
    (below : Below next.cameFrom suc vertex) :
    state.gScore suc ≤ state.gScore vertex := by
  induction below with
  | refl =>
      exact le_rfl
  | tail above last inductionHypothesis =>
      exact inductionHypothesis.trans
        (tree.link_score
          (tree.old_link adjacent nonneg better improvement
            above last)).1

/--
The improvement takes the same amount off all scores below `suc`, unless `suc`
had no score and hence nothing below it.
-/
theorem ScoreTree.saved :
    (state.gScore suc = ⊤ ∧
        ∀ vertex, ¬StrictlyBelow next.cameFrom suc vertex) ∨
      ∃ saved : K,
        0 < saved ∧
          ∀ vertex,
            Below next.cameFrom suc vertex →
            next.gScore vertex + (saved : WithTop K) =
              state.gScore vertex := by
  have childScore
      {child : Nat}
      (link : next.cameFrom child = some suc) :=
    tree.link_score
      (tree.old_link adjacent nonneg better improvement
        Relation.ReflTransGen.refl link)
  by_cases infinite : state.gScore suc = ⊤
  · left
    refine ⟨infinite, ?_⟩
    intro vertex below
    obtain ⟨child, link, -⟩ := strictlyBelow_iff_child.mp below
    obtain ⟨scoreLe, finite⟩ := childScore link
    rw [infinite, top_le_iff] at scoreLe
    exact finite scoreLe
  · right
    obtain ⟨tentative, isTentative⟩ :=
      WithTop.ne_top_iff_exists.mp better.ne_top
    obtain ⟨old, isOld⟩ := WithTop.ne_top_iff_exists.mp infinite
    have lower : tentative < old := by
      rw [← WithTop.coe_lt_coe, isTentative, isOld]
      exact better
    refine ⟨old - tentative, by linarith, ?_⟩
    intro vertex below
    rcases Relation.reflTransGen_iff_eq_or_transGen.mp below with
        same | strictly
    · subst same
      rw [improvement.score_suc, ← isTentative, ← isOld]
      norm_cast
      ring
    · have finite : state.gScore vertex ≠ ⊤ := by
        obtain ⟨above, belowAbove, last⟩ :=
          Relation.TransGen.tail'_iff.mp strictly
        exact (tree.link_score
          (tree.old_link adjacent nonneg better improvement
            belowAbove last)).2
      obtain ⟨score, isScore⟩ := WithTop.ne_top_iff_exists.mp finite
      rw [improvement.score_below strictly, ← isTentative, ← isOld,
        ← isScore]
      simp only [costSub_coe]
      norm_cast
      ring

theorem ScoreTree.falls
    (vertex : Nat) :
    next.gScore vertex ≤ state.gScore vertex := by
  by_cases below : Below next.cameFrom suc vertex
  · rcases tree.saved adjacent nonneg better improvement with
        ⟨-, nothingBelow⟩ | ⟨saved, positive, shifted⟩
    · rcases Relation.reflTransGen_iff_eq_or_transGen.mp below with
          same | strictly
      · subst same
        rw [improvement.score_suc]
        exact better.le
      · exact absurd strictly (nothingBelow vertex)
    · rw [← shifted vertex below]
      exact le_add_of_nonneg_right (by exact_mod_cast positive.le)
  · exact (improvement.score_other below).le

/-- Only `suc` may get its first score. -/
theorem ScoreTree.finite_before
    {vertex : Nat}
    (other : vertex ≠ suc)
    (finite : next.gScore vertex ≠ ⊤) :
    state.gScore vertex ≠ ⊤ := by
  by_cases below : Below next.cameFrom suc vertex
  · rcases Relation.ReflTransGen.cases_tail below with
        same | ⟨above, belowAbove, last⟩
    · exact absurd same other
    · exact (tree.link_score
        (tree.old_link adjacent nonneg better improvement
          belowAbove last)).2
  · rw [← improvement.score_other below]
    exact finite

/--
Along a link of the improved tree other than the new one, both scores change
by the same amount.
-/
theorem ScoreTree.link_shift
    {vertex above : Nat}
    (other : vertex ≠ suc)
    (link : state.cameFrom vertex = some above) :
    ∃ saved : K,
      next.gScore vertex + (saved : WithTop K) = state.gScore vertex ∧
        next.gScore above + (saved : WithTop K) =
          state.gScore above := by
  have newLink : next.cameFrom vertex = some above := by
    rw [improvement.frame]
    simpa [Function.update_of_ne other] using link
  by_cases belowAbove : Below next.cameFrom suc above
  · have strictly : StrictlyBelow next.cameFrom suc vertex :=
      Relation.TransGen.tail' belowAbove newLink
    rcases tree.saved adjacent nonneg better improvement with
        ⟨-, nothingBelow⟩ | ⟨saved, -, shifted⟩
    · exact absurd strictly (nothingBelow vertex)
    · exact ⟨saved, shifted vertex strictly.to_reflTransGen,
        shifted above belowAbove⟩
  · have notBelow : ¬Below next.cameFrom suc vertex := by
      intro below
      rcases Relation.ReflTransGen.cases_tail below with
          same | ⟨last, belowLast, lastLink⟩
      · exact other same
      · have same : last = above := by
          unfold Step at lastLink
          rw [newLink] at lastLink
          exact (Option.some.inj lastLink).symm
        subst same
        exact belowAbove belowLast
    refine ⟨0, ?_, ?_⟩
    · rw [WithTop.coe_zero, add_zero, improvement.score_other notBelow]
    · rw [WithTop.coe_zero, add_zero, improvement.score_other belowAbove]

/-- The new predecessor keeps its score. -/
theorem ScoreTree.pre_kept :
    next.gScore pre = state.gScore pre := by
  have rooted :=
    tree.improved_rooted adjacent nonneg better improvement
  apply improvement.score_other
  intro below
  have link : next.cameFrom suc = some pre := by
    rw [improvement.frame]
    simp
  exact rooted.acyclic suc (Relation.TransGen.tail' below link)

theorem ScoreTree.improve :
    ScoreTree request next := by
  have rooted :=
    tree.improved_rooted adjacent nonneg better improvement
  have newLink : next.cameFrom suc = some pre := by
    rw [improvement.frame]
    simp
  have oldLink
      {vertex above : Nat}
      (other : vertex ≠ suc)
      (link : next.cameFrom vertex = some above) :
      state.cameFrom vertex = some above := by
    rw [improvement.frame] at link
    simpa [Function.update_of_ne other] using link
  have sameGraph : next.graph = state.graph := by
    rw [improvement.frame]
  have preNonneg : 0 ≤ state.gScore pre := tree.score_nonneg pre
  have notStart : suc ≠ request.startVertex := by
    rintro rfl
    rw [rooted.rootFree] at newLink
    cases newLink
  refine ⟨rooted, ?_, ?_, ?_, ?_, ?_⟩
  · intro vertex above link
    rw [sameGraph]
    by_cases isSuc : vertex = suc
    · subst isSuc
      rw [newLink] at link
      rw [← Option.some.inj link]
      exact adjacent
    · exact tree.link_edge (oldLink isSuc link)
  · intro vertex above link
    by_cases isSuc : vertex = suc
    · subst isSuc
      rw [newLink] at link
      rw [← Option.some.inj link, improvement.score_suc,
        tree.pre_kept adjacent nonneg better improvement]
      exact ⟨le_add_of_nonneg_right nonneg, better.ne_top⟩
    · have old := tree.link_score (oldLink isSuc link)
      obtain ⟨saved, vertexShift, aboveShift⟩ :=
        tree.link_shift adjacent nonneg better improvement isSuc
          (oldLink isSuc link)
      rw [← vertexShift, ← aboveShift] at old
      exact ⟨WithTop.le_of_add_le_add_right WithTop.coe_ne_top old.1,
        (WithTop.add_ne_top.mp old.2).1⟩
  · intro vertex
    by_cases below : Below next.cameFrom suc vertex
    · have upper : next.gScore suc ≤ next.gScore vertex := by
        rcases tree.saved adjacent nonneg better improvement with
            ⟨-, nothingBelow⟩ | ⟨saved, -, shifted⟩
        · rcases Relation.reflTransGen_iff_eq_or_transGen.mp below with
              same | strictly
          · rw [same]
          · exact absurd strictly (nothingBelow vertex)
        · have old :=
            tree.old_score_le adjacent nonneg better improvement below
          rw [← shifted vertex below,
            ← shifted suc Relation.ReflTransGen.refl] at old
          exact WithTop.le_of_add_le_add_right WithTop.coe_ne_top old
      rw [improvement.score_suc] at upper
      exact (add_nonneg preNonneg nonneg).trans upper
    · rw [improvement.score_other below]
      exact tree.score_nonneg vertex
  · have notBelow : ¬Below next.cameFrom suc request.startVertex := by
      intro below
      rcases Relation.ReflTransGen.cases_tail below with
          same | ⟨above, -, last⟩
      · exact notStart same.symm
      · unfold Step at last
        rw [rooted.rootFree] at last
        cases last
    rw [improvement.score_other notBelow]
    exact tree.start_score
  · intro vertex inGraph enabled finite
    by_cases isSuc : vertex = suc
    · subst isSuc
      exact rooted.reaches newLink
    · rw [sameGraph] at inGraph
      have before :=
        tree.finite_before adjacent nonneg better improvement isSuc finite
      rcases Relation.ReflTransGen.cases_tail
          (tree.reached inGraph enabled before) with
          isStart | ⟨above, -, last⟩
      · rw [isStart]
        exact Relation.ReflTransGen.refl
      · have kept : next.cameFrom vertex = some above := by
          unfold Step at last
          rw [improvement.frame]
          simpa [Function.update_of_ne isSuc] using last
        exact rooted.reaches kept

end Improve

section Stages

/-- The relaxation finds a better way or leaves the state as it is. -/
def Relaxation
    (request : PlanRequest K)
    (state next : PlannerState K)
    (pre suc : Nat)
    (cost : WithTop K) : Prop :=
  (¬state.gScore pre + cost < state.gScore suc ∧ next = state) ∨
    (state.gScore pre + cost < state.gScore suc ∧
      Improvement request state next pre suc (state.gScore pre + cost))

/-- The relaxation changes only scores, predecessors and keys. -/
theorem Relaxation.frame
    (relaxation : Relaxation request state next pre suc cost) :
    next =
      { state with
        gScore := next.gScore
        cameFrom := next.cameFrom
        openHeap := next.openHeap } := by
  rcases relaxation with ⟨-, rfl⟩ | ⟨-, improvement⟩
  · rfl
  · rw [improvement.frame]

theorem OpenSetValid.relax
    (valid : OpenSetValid request state)
    (relaxation : Relaxation request state next pre suc cost) :
    OpenSetValid request next := by
  rcases relaxation with ⟨-, rfl⟩ | ⟨-, improvement⟩
  · exact valid
  · exact valid.improve improvement

/-- The relaxation keeps every entry mapped. -/
theorem OpenSetSimple.relax
    (simple : OpenSetSimple state)
    (relaxation : Relaxation request state next pre suc cost) :
    OpenSetSimple next := by
  rcases relaxation with ⟨-, rfl⟩ | ⟨-, improvement⟩
  · exact simple
  · exact simple.improve improvement

/--
Every entry stems from an entry of the same pair under the same handle.  Its
key is the old one or the best key of its edge.
-/
theorem Relaxation.entry_before
    (relaxation : Relaxation request state next pre suc cost)
    {entry : OpenSetEdge K}
    (member : entry ∈ next.openHeap) :
    ∃ old ∈ state.openHeap,
      (old.u, old.v) = (entry.u, entry.v) ∧
        old.handle = entry.handle ∧
        entry.fScore ≤ old.fScore ∧
        (entry.fScore = old.fScore ∨
          ((next.edgeToHandle (entry.u, entry.v)).isSome = true ∧
            entry.fScore = bestKey request next entry.u entry.v)) := by
  rcases relaxation with ⟨-, rfl⟩ | ⟨-, improvement⟩
  · exact ⟨entry, member, rfl, rfl, le_rfl, Or.inl rfl⟩
  · obtain ⟨rekey, rekeyed, heap⟩ := improvement.heap
    rw [heap, List.mem_map] at member
    obtain ⟨old, inOld, isEntry⟩ := member
    have samePair := rekeyed.same_pair old
    have sameHandle := rekeyed.same_handle old
    have keyLe := rekeyed.key_le old
    have earned := rekeyed.key_earned old inOld
    rw [isEntry] at samePair sameHandle keyLe earned
    refine ⟨old, inOld, samePair.symm, sameHandle.symm, keyLe, ?_⟩
    rw [Prod.mk.injEq] at samePair
    rw [samePair.1, samePair.2]
    exact earned

/-- The state after the entry's edge has been planned and closed. -/
def expandedState
    (request : PlanRequest K)
    (state : PlannerState K)
    (entry : OpenSetEdge K)
    (edge : StoredEdge K) : PlannerState K :=
  planEdge request (popOpenEdge state entry)
    entry.u entry.v edge.properties

/-- The cost that expanding the entry's edge reveals. -/
def revealedCost
    (request : PlanRequest K)
    (state : PlannerState K)
    (entry : OpenSetEdge K)
    (edge : StoredEdge K) : WithTop K :=
  (storeResult
    (edgeResult request state.graph state.secondLevelCount
      entry.u entry.v edge.properties)
    edge.properties).plannedCost

/-- The predecessor and the successor for the entry's edge. -/
def entryEnds
    (state : PlannerState K)
    (entry : OpenSetEdge K) : Nat × Nat :=
  orient state.gScore entry.u entry.v

/-- The parts of which an iteration on the given entry is made. -/
structure IterationStages
    (request : PlanRequest K)
    (state next : PlannerState K)
    (entry : OpenSetEdge K)
    (edge : StoredEdge K)
    (relaxed : PlannerState K) : Prop where
  entry_mem :
    entry ∈ state.openHeap
  entry_least :
    ∀ other ∈ state.openHeap, entry.fScore ≤ other.fScore
  edge_found :
    filteredEdge? state.graph request.disabledVertices
      entry.u entry.v = some edge
  relaxation :
    Relaxation request (expandedState request state entry edge) relaxed
      (entryEnds state entry).1 (entryEnds state entry).2
      (revealedCost request state entry edge)
  opened :
    next =
      openNeighbors request
        (updateBestScore request relaxed (entryEnds state entry).2)
        (entryEnds state entry).1 (entryEnds state entry).2

omit [SquareRoot K] in
theorem ScoreTree.expand
    (tree : ScoreTree request state)
    (entry : OpenSetEdge K)
    (edge : StoredEdge K) :
    ScoreTree request (expandedState request state entry edge) where
  rooted := tree.rooted
  link_edge := by
    intro vertex above link
    simp only [expandedState, planEdge, filteredEdge?_modifyEdge_isSome]
    exact tree.link_edge link
  link_score := tree.link_score
  score_nonneg := tree.score_nonneg
  start_score := tree.start_score
  reached := tree.reached

section

omit [Field K] [SquareRoot K]

theorem entryEnds_adjacent
    {entry : OpenSetEdge K}
    (isEdge :
      (filteredEdge? state.graph request.disabledVertices
        entry.u entry.v).isSome = true) :
    (filteredEdge? state.graph request.disabledVertices
      (entryEnds state entry).1 (entryEnds state entry).2).isSome =
        true := by
  unfold entryEnds
  rcases (orient_spec state.gScore entry.u entry.v).1 with same | swapped
  · rw [same]
    exact isEdge
  · rw [swapped, filteredEdge?_comm]
    exact isEdge

theorem edgePair_entryEnds
    (state : PlannerState K)
    (entry : OpenSetEdge K) :
    edgePair (entryEnds state entry).1 (entryEnds state entry).2 =
      edgePair entry.u entry.v := by
  unfold entryEnds
  rcases (orient_spec state.gScore entry.u entry.v).1 with same | swapped
  · rw [same]
  · rw [swapped, edgePair_comm]

end

end Stages

section Relaxation

variable
  [IsStrictOrderedRing K]
  (tree : ScoreTree request state)
  (adjacent :
    (filteredEdge? state.graph request.disabledVertices
      pre suc).isSome = true)
  (nonneg : 0 ≤ cost)

include tree adjacent nonneg

theorem ScoreTree.relaxation_exists
    (valid : OpenSetValid request state) :
    ∃ next,
      relaxEdge request state pre suc cost = some next ∧
        Relaxation request state next pre suc cost := by
  by_cases better : state.gScore pre + cost < state.gScore suc
  · obtain ⟨next, run, improvement⟩ :=
      tree.relaxEdge_exists adjacent nonneg better valid
    exact ⟨next, run, Or.inr ⟨better, improvement⟩⟩
  · exact ⟨state, relaxEdge_of_not_lt better, Or.inl ⟨better, rfl⟩⟩

variable
  (relaxation : Relaxation request state next pre suc cost)

include relaxation

theorem ScoreTree.relax :
    ScoreTree request next := by
  rcases relaxation with ⟨-, rfl⟩ | ⟨better, improvement⟩
  · exact tree
  · exact tree.improve adjacent nonneg better improvement

theorem ScoreTree.relax_falls
    (vertex : Nat) :
    next.gScore vertex ≤ state.gScore vertex := by
  rcases relaxation with ⟨-, rfl⟩ | ⟨better, improvement⟩
  · exact le_rfl
  · exact tree.falls adjacent nonneg better improvement vertex

theorem ScoreTree.relax_finite_before
    {vertex : Nat}
    (other : vertex ≠ suc)
    (finite : next.gScore vertex ≠ ⊤) :
    state.gScore vertex ≠ ⊤ := by
  rcases relaxation with ⟨-, rfl⟩ | ⟨better, improvement⟩
  · exact finite
  · exact tree.finite_before adjacent nonneg better improvement
      other finite

/-- After the relaxation the edge cannot improve `suc` any more. -/
theorem ScoreTree.relax_le :
    next.gScore suc ≤ next.gScore pre + cost := by
  rcases relaxation with ⟨notBetter, rfl⟩ | ⟨better, improvement⟩
  · exact not_lt.mp notBetter
  · rw [improvement.score_suc,
      tree.pre_kept adjacent nonneg better improvement]

end Relaxation

end Tree

end NavBim
