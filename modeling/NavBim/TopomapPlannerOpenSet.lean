import NavBim.TopomapPlannerSteps

namespace NavBim

/-!
# The open set of the planner

The heap, the handle map and the closed set describe together which edges are
waiting.  `OpenSetValid` says how they fit; it holds for every graph.  A pair
of vertices may nevertheless be in the heap twice, because the edges at the
start vertex are pushed without a look at the handle map.  `OpenSetSimple` is
what holds in addition when that does not happen.
-/

section OpenSet

variable {K : Type} [Field K] [LinearOrder K] [SquareRoot K]

/-- The pairs of vertices that are joined by an edge. -/
def edgePairs
    (graph : TopologicalGraph K) : Finset (Nat × Nat) :=
  (graph.edges.map fun edge => edgePair edge.source edge.target).toFinset

/-- How the heap, the handle map and the closed set fit together. -/
structure OpenSetValid
    (request : PlanRequest K)
    (state : PlannerState K) : Prop where
  handle_lt :
    ∀ entry ∈ state.openHeap, entry.handle < state.nextHandle
  handles_distinct :
    (state.openHeap.map OpenSetEdge.handle).Nodup
  entry_edge :
    ∀ entry ∈ state.openHeap,
      entry.u ≤ entry.v ∧
        (filteredEdge? state.graph request.disabledVertices
          entry.u entry.v).isSome = true
  handle_entry :
    ∀ {pair handle},
      state.edgeToHandle pair = some handle →
      ∃ entry ∈ state.openHeap,
        entry.handle = handle ∧ (entry.u, entry.v) = pair
  handle_open :
    ∀ {pair},
      (state.edgeToHandle pair).isSome = true →
      pair ∉ state.closedSet
  popped_iff :
    ∀ {pair}, pair ∈ state.popped ↔ pair ∈ state.closedSet
  count :
    state.openHeap.length + state.popped.length = state.nextHandle

/-- Every entry is the one that its pair's handle refers to. -/
structure OpenSetSimple
    (state : PlannerState K) : Prop where
  entry_mapped :
    ∀ entry ∈ state.openHeap,
      state.edgeToHandle (entry.u, entry.v) = some entry.handle
  popped_once :
    state.popped.Nodup

/-- After the edges at the start vertex every pair is pushed at most once. -/
def PushBudget
    (request : PlanRequest K)
    (graph : TopologicalGraph K)
    (state : PlannerState K) : Prop :=
  ∃ pushed : Finset (Nat × Nat),
    pushed ⊆ edgePairs graph ∧
      (∀ pair ∈ pushed,
        (state.edgeToHandle pair).isSome = true ∨
          pair ∈ state.closedSet) ∧
      state.nextHandle ≤
        (filteredTargets graph request.disabledVertices
          request.startVertex).length + pushed.card

variable
  {request : PlanRequest K}
  {graph : TopologicalGraph K}
  {state : PlannerState K}

section

omit [Field K] [LinearOrder K] [SquareRoot K]

theorem card_edgePairs_le
    (graph : TopologicalGraph K) :
    (edgePairs graph).card ≤ graph.edges.length := by
  unfold edgePairs
  refine (List.toFinset_card_le _).trans ?_
  rw [List.length_map]

theorem edgePair_mem_edgePairs
    {disabled : Finset Nat}
    {u v : Nat}
    (found : (filteredEdge? graph disabled u v).isSome = true) :
    edgePair u v ∈ edgePairs graph := by
  obtain ⟨edge, isEdge⟩ := Option.isSome_iff_exists.mp found
  obtain ⟨-, -, inGraph⟩ := filteredEdge?_eq_some.mp isEdge
  obtain ⟨member, joined⟩ := TopologicalGraph.edge?_eq_some inGraph
  unfold edgePairs
  rw [List.mem_toFinset, List.mem_map]
  refine ⟨edge, member, ?_⟩
  rw [edgePair_eq_iff]
  exact StoredEdge.joins_iff.mp joined

end

omit [Field K] [SquareRoot K] in
theorem OpenSetValid.entry_eq
    (valid : OpenSetValid request state)
    {first second : OpenSetEdge K}
    (inFirst : first ∈ state.openHeap)
    (inSecond : second ∈ state.openHeap)
    (same : first.handle = second.handle) :
    first = second :=
  List.inj_on_of_nodup_map valid.handles_distinct inFirst inSecond same

section Push

variable
  {u v : Nat}
  {score : WithTop K}

omit [Field K] [SquareRoot K] in
theorem OpenSetValid.push
    (valid : OpenSetValid request state)
    (isEdge :
      (filteredEdge? state.graph request.disabledVertices u v).isSome = true)
    (notClosed : edgePair u v ∉ state.closedSet) :
    OpenSetValid request (pushOpenEdge state u v score) where
  handle_lt := by
    intro entry member
    rcases List.mem_append.mp member with old | new
    · exact Nat.lt_succ_of_lt (valid.handle_lt entry old)
    · rw [List.mem_singleton] at new
      subst new
      exact Nat.lt_succ_self _
  handles_distinct := by
    simp only [pushOpenEdge, List.map_append, List.map_cons, List.map_nil]
    rw [List.nodup_append]
    refine ⟨valid.handles_distinct, List.nodup_singleton _, ?_⟩
    intro handle member other isNew same
    rw [List.mem_singleton] at isNew
    obtain ⟨entry, inHeap, isHandle⟩ := List.mem_map.mp member
    have below := valid.handle_lt entry inHeap
    omega
  entry_edge := by
    intro entry member
    rcases List.mem_append.mp member with old | new
    · exact valid.entry_edge entry old
    · rw [List.mem_singleton] at new
      subst new
      refine ⟨min_le_max, ?_⟩
      have pairEdge :=
        filteredEdge?_edgePair state.graph request.disabledVertices u v
      simp only [edgePair] at pairEdge
      simp only [pushOpenEdge]
      rw [pairEdge]
      exact isEdge
  handle_entry := by
    intro pair handle mapped
    by_cases isNew : pair = edgePair u v
    · subst isNew
      simp only [pushOpenEdge, Function.update_self,
        Option.some.injEq] at mapped
      refine ⟨_, List.mem_append_right _ (List.mem_singleton_self _),
        mapped, rfl⟩
    · simp only [pushOpenEdge, Function.update_of_ne isNew] at mapped
      obtain ⟨entry, inHeap, spec⟩ := valid.handle_entry mapped
      exact ⟨entry, List.mem_append_left _ inHeap, spec⟩
  handle_open := by
    intro pair mapped
    by_cases isNew : pair = edgePair u v
    · subst isNew
      exact notClosed
    · simp only [pushOpenEdge, Function.update_of_ne isNew] at mapped
      exact valid.handle_open mapped
  popped_iff := valid.popped_iff
  count := by
    have count := valid.count
    simp only [pushOpenEdge, List.length_append, List.length_singleton]
    omega

omit [Field K] [LinearOrder K] [SquareRoot K] in
theorem OpenSetSimple.push
    (simple : OpenSetSimple state)
    (fresh : state.edgeToHandle (edgePair u v) = none) :
    OpenSetSimple (pushOpenEdge state u v score) where
  entry_mapped := by
    intro entry member
    rcases List.mem_append.mp member with old | new
    · have mapped := simple.entry_mapped entry old
      have other : (entry.u, entry.v) ≠ edgePair u v := by
        intro same
        rw [same, fresh] at mapped
        cases mapped
      simp only [pushOpenEdge, Function.update_of_ne other]
      exact mapped
    · rw [List.mem_singleton] at new
      subst new
      exact Function.update_self (edgePair u v) _ state.edgeToHandle
  popped_once := simple.popped_once

omit [Field K] [SquareRoot K] in
theorem PushBudget.push
    (budget : PushBudget request graph state)
    (isEdge :
      (filteredEdge? graph request.disabledVertices u v).isSome = true)
    (fresh : state.edgeToHandle (edgePair u v) = none)
    (notClosed : edgePair u v ∉ state.closedSet) :
    PushBudget request graph (pushOpenEdge state u v score) := by
  obtain ⟨pushed, inGraph, known, bound⟩ := budget
  have isNew : edgePair u v ∉ pushed := by
    intro member
    rcases known _ member with handled | closed
    · rw [fresh] at handled
      cases handled
    · exact notClosed closed
  refine ⟨insert (edgePair u v) pushed, ?_, ?_, ?_⟩
  · exact Finset.insert_subset (edgePair_mem_edgePairs isEdge) inGraph
  · intro pair member
    by_cases same : pair = edgePair u v
    · subst same
      left
      simp [pushOpenEdge]
    · have old := known pair
        ((Finset.mem_insert.mp member).resolve_left same)
      simp only [pushOpenEdge, Function.update_of_ne same]
      exact old
  · rw [Finset.card_insert_of_notMem isNew]
    simp only [pushOpenEdge]
    omega

end Push

section Close

variable
  {entry : OpenSetEdge K}
  {properties : EdgeProperties K}

omit [Field K] [SquareRoot K] in
theorem length_popOpenEdge
    (valid : OpenSetValid request state)
    (member : entry ∈ state.openHeap) :
    (popOpenEdge state entry).openHeap.length + 1 =
      state.openHeap.length := by
  have once :
      state.openHeap.countP
        (fun other => other.handle == entry.handle) = 1 := by
    have counted :
        (state.openHeap.map OpenSetEdge.handle).count entry.handle = 1 :=
      List.count_eq_one_of_mem valid.handles_distinct
        (List.mem_map_of_mem member)
    rw [List.count, List.countP_map] at counted
    exact counted
  have split :=
    List.length_eq_countP_add_countP
      (fun other : OpenSetEdge K => other.handle == entry.handle)
      (l := state.openHeap)
  have sameTest :
      (fun other : OpenSetEdge K => other.handle != entry.handle) =
        fun other => decide ¬(other.handle == entry.handle) = true := by
    funext other
    by_cases same : other.handle = entry.handle <;> simp [same]
  simp only [popOpenEdge]
  rw [← List.countP_eq_length_filter, sameTest]
  omega

section

omit [SquareRoot K]

theorem OpenSetValid.close
    (valid : OpenSetValid request state)
    (member : entry ∈ state.openHeap) :
    OpenSetValid request
      (planEdge request (popOpenEdge state entry)
        entry.u entry.v properties) where
  handle_lt := by
    intro other inHeap
    exact valid.handle_lt other (List.mem_of_mem_filter inHeap)
  handles_distinct :=
    valid.handles_distinct.sublist (List.filter_sublist.map _)
  entry_edge := by
    intro other inHeap
    obtain ⟨ordered, isEdge⟩ :=
      valid.entry_edge other (List.mem_of_mem_filter inHeap)
    refine ⟨ordered, ?_⟩
    simp only [planEdge, filteredEdge?_modifyEdge_isSome]
    exact isEdge
  handle_entry := by
    intro pair handle mapped
    by_cases isPopped : pair = (entry.u, entry.v)
    · subst isPopped
      simp [planEdge, popOpenEdge] at mapped
    · simp only [planEdge, popOpenEdge,
        Function.update_of_ne isPopped] at mapped
      obtain ⟨other, inHeap, isHandle, isPair⟩ := valid.handle_entry mapped
      refine ⟨other, List.mem_filter.mpr ⟨inHeap, ?_⟩, isHandle, isPair⟩
      rw [bne_iff_ne]
      intro same
      rw [valid.entry_eq inHeap member same] at isPair
      exact isPopped isPair.symm
  handle_open := by
    intro pair mapped
    by_cases isPopped : pair = (entry.u, entry.v)
    · subst isPopped
      simp [planEdge, popOpenEdge] at mapped
    · simp only [planEdge, popOpenEdge,
        Function.update_of_ne isPopped] at mapped
      simp only [planEdge, popOpenEdge, Finset.mem_insert, not_or]
      exact ⟨isPopped, valid.handle_open mapped⟩
  popped_iff := by
    intro pair
    simp only [planEdge, popOpenEdge, List.mem_cons, Finset.mem_insert]
    rw [valid.popped_iff]
  count := by
    have count := valid.count
    have shorter := length_popOpenEdge valid member
    simp only [planEdge]
    simp only [popOpenEdge, List.length_cons] at shorter ⊢
    omega

theorem OpenSetSimple.close
    (simple : OpenSetSimple state)
    (valid : OpenSetValid request state)
    (member : entry ∈ state.openHeap) :
    OpenSetSimple
      (planEdge request (popOpenEdge state entry)
        entry.u entry.v properties) where
  entry_mapped := by
    intro other inHeap
    obtain ⟨inOld, otherHandle⟩ := List.mem_filter.mp inHeap
    rw [bne_iff_ne] at otherHandle
    have mapped := simple.entry_mapped other inOld
    have otherPair : (other.u, other.v) ≠ (entry.u, entry.v) := by
      intro same
      rw [same, simple.entry_mapped entry member] at mapped
      exact otherHandle (Option.some.inj mapped).symm
    simp only [planEdge, popOpenEdge, Function.update_of_ne otherPair]
    exact mapped
  popped_once := by
    simp only [planEdge, popOpenEdge, List.nodup_cons]
    refine ⟨?_, simple.popped_once⟩
    rw [valid.popped_iff]
    apply valid.handle_open
    rw [simple.entry_mapped entry member]
    rfl

/-- A popped pair was open and is closed, so the budget is not touched. -/
theorem PushBudget.close
    (budget : PushBudget request graph state) :
    PushBudget request graph
      (planEdge request (popOpenEdge state entry)
        entry.u entry.v properties) := by
  obtain ⟨pushed, inGraph, known, bound⟩ := budget
  refine ⟨pushed, inGraph, ?_, bound⟩
  intro pair member
  simp only [planEdge, popOpenEdge, Finset.mem_insert]
  by_cases isPopped : pair = (entry.u, entry.v)
  · exact Or.inr (Or.inl isPopped)
  · rw [Function.update_of_ne isPopped]
    rcases known pair member with handled | closed
    · exact Or.inl handled
    · exact Or.inr (Or.inr closed)

end

end Close

variable
  {rekey : OpenSetEdge K → OpenSetEdge K}

section Refresh

/-- The key of an edge that is used from its better end. -/
def bestKey
    (request : PlanRequest K)
    (state : PlannerState K)
    (u v : Nat) : WithTop K :=
  fScore request state
    (orient state.gScore u v).1 (orient state.gScore u v).2

/--
A change of the heap that only lowers keys: a changed key is the best key of
its edge, and no mapped entry of a listed pair stays above its best key.
-/
structure Rekeyed
    (request : PlanRequest K)
    (state : PlannerState K)
    (Listed : Nat × Nat → Prop)
    (rekey : OpenSetEdge K → OpenSetEdge K) : Prop where
  same_handle :
    ∀ entry, (rekey entry).handle = entry.handle
  same_pair :
    ∀ entry, ((rekey entry).u, (rekey entry).v) = (entry.u, entry.v)
  key_le :
    ∀ entry, (rekey entry).fScore ≤ entry.fScore
  key_earned :
    ∀ entry ∈ state.openHeap,
      (rekey entry).fScore = entry.fScore ∨
        ((state.edgeToHandle (entry.u, entry.v)).isSome = true ∧
          (rekey entry).fScore = bestKey request state entry.u entry.v)
  key_lowered :
    ∀ entry ∈ state.openHeap,
      state.edgeToHandle (entry.u, entry.v) = some entry.handle →
      Listed (entry.u, entry.v) →
      (rekey entry).fScore ≤ bestKey request state entry.u entry.v

/-- One more adjacent edge is looked at. -/
theorem Rekeyed.refreshOpenEdge
    {progress : List (OpenSetEdge K) × List (Nat × Nat)}
    (valid : OpenSetValid request state)
    (rekeyed : Rekeyed request state (· ∈ progress.2) rekey)
    (heap : progress.1 = state.openHeap.map rekey)
    (node neighbor : Nat) :
    ∃ rekey',
      Rekeyed request state
          (· ∈ (NavBim.refreshOpenEdge request state progress
            node neighbor).2) rekey' ∧
        (NavBim.refreshOpenEdge request state progress
            node neighbor).1 = state.openHeap.map rekey' := by
  unfold NavBim.refreshOpenEdge
  split
  · exact ⟨rekey, rekeyed, heap⟩
  split
  · exact ⟨rekey, rekeyed, heap⟩
  split
  · rename_i unhandled
    refine ⟨rekey, { rekeyed with key_lowered := ?_ }, heap⟩
    intro entry member mapped listed
    rcases List.mem_cons.mp listed with isNew | old
    · rw [isNew, unhandled] at mapped
      cases mapped
    · exact rekeyed.key_lowered entry member mapped old
  · rename_i handle mappedPair
    obtain ⟨target, inHeap, isHandle, isPair⟩ :=
      valid.handle_entry mappedPair
    have isTarget
        {entry : OpenSetEdge K}
        (member : entry ∈ state.openHeap)
        (same : entry.handle = handle) :
        entry = target :=
      valid.entry_eq member inHeap (same.trans isHandle.symm)
    have pairOfTarget :
        target.u = min node neighbor ∧ target.v = max node neighbor := by
      simpa [edgePair] using isPair
    have targetKey :
        bestKey request state target.u target.v =
          fScore request state
            (orient state.gScore (min node neighbor)
              (max node neighbor)).1
            (orient state.gScore (min node neighbor)
              (max node neighbor)).2 := by
      unfold bestKey
      rw [pairOfTarget.1, pairOfTarget.2]
    simp only
    rw [← targetKey]
    refine ⟨fun entry =>
      if (rekey entry).handle = handle ∧
          bestKey request state target.u target.v <
            (rekey entry).fScore then
        { rekey entry with
          fScore := bestKey request state target.u target.v }
      else
        rekey entry, ⟨?_, ?_, ?_, ?_, ?_⟩, ?_⟩
    · intro entry
      split <;> exact rekeyed.same_handle entry
    · intro entry
      split <;> exact rekeyed.same_pair entry
    · intro entry
      split
      · rename_i lower
        exact lower.2.le.trans (rekeyed.key_le entry)
      · exact rekeyed.key_le entry
    · intro entry member
      split
      · rename_i lower
        have same :=
          isTarget member ((rekeyed.same_handle entry).symm.trans lower.1)
        subst same
        right
        rw [isPair, mappedPair]
        exact ⟨rfl, rfl⟩
      · exact rekeyed.key_earned entry member
    · intro entry member mapped listed
      split
      · rename_i lower
        have same :=
          isTarget member ((rekeyed.same_handle entry).symm.trans lower.1)
        subst same
        exact le_rfl
      · rename_i kept
        rcases List.mem_cons.mp listed with isNew | old
        · rw [isNew, mappedPair] at mapped
          have sameHandle : entry.handle = handle :=
            (Option.some.inj mapped).symm
          have same := isTarget member sameHandle
          subst same
          by_contra higher
          exact kept ⟨(rekeyed.same_handle entry).trans sameHandle,
            not_le.mp higher⟩
        · exact rekeyed.key_lowered entry member mapped old
    · rw [heap, List.map_map]
      rfl

/-- The pairs looked at so far are kept, and a pair is looked at once. -/
theorem mem_refreshOpenEdge
    (request : PlanRequest K)
    (state : PlannerState K)
    (progress : List (OpenSetEdge K) × List (Nat × Nat))
    (node neighbor : Nat) :
    (∀ pair ∈ progress.2,
        pair ∈ (refreshOpenEdge request state progress
          node neighbor).2) ∧
      (state.cameFrom node ≠ some neighbor →
        edgePair node neighbor ∈
          (refreshOpenEdge request state progress
            node neighbor).2) := by
  unfold refreshOpenEdge
  split
  · rename_i isPredecessor
    exact ⟨fun _ member => member, fun other => absurd isPredecessor other⟩
  split
  · rename_i seen
    exact ⟨fun _ member => member, fun _ => seen⟩
  split <;>
    exact ⟨fun _ member => List.mem_cons_of_mem _ member,
      fun _ => List.mem_cons_self⟩

/-- The pairs of an updated node and a neighbour other than its predecessor. -/
def AdjacentTo
    (request : PlanRequest K)
    (state : PlannerState K)
    (updatedNodes : List Nat)
    (pair : Nat × Nat) : Prop :=
  ∃ node ∈ updatedNodes,
    ∃ neighbor ∈
        filteredTargets state.graph request.disabledVertices node,
      state.cameFrom node ≠ some neighbor ∧
        pair = edgePair node neighbor

theorem refreshOpenEdges_spec
    (valid : OpenSetValid request state)
    (updatedNodes : List Nat) :
    ∃ rekey,
      Rekeyed request state
          (AdjacentTo request state updatedNodes) rekey ∧
        refreshOpenEdges request state updatedNodes =
          state.openHeap.map rekey := by
  -- Both loops together run over the list of all adjacent edges.
  have loop :
      ∀ (ahead : List (Nat × Nat))
        (progress : List (OpenSetEdge K) × List (Nat × Nat)),
        (∃ rekey,
          Rekeyed request state (· ∈ progress.2) rekey ∧
            progress.1 = state.openHeap.map rekey) →
        ∃ rekey,
          Rekeyed request state
              (fun pair =>
                pair ∈ progress.2 ∨
                  ∃ ends ∈ ahead,
                    state.cameFrom ends.1 ≠ some ends.2 ∧
                      pair = edgePair ends.1 ends.2) rekey ∧
            (ahead.foldl
              (fun progress ends =>
                refreshOpenEdge request state progress ends.1 ends.2)
              progress).1 = state.openHeap.map rekey := by
    intro ahead
    induction ahead with
    | nil =>
        rintro progress ⟨rekey, rekeyed, heap⟩
        refine ⟨rekey, { rekeyed with key_lowered := ?_ }, heap⟩
        intro entry member mapped listed
        rcases listed with old | ⟨ends, inNil, -⟩
        · exact rekeyed.key_lowered entry member mapped old
        · cases inNil
    | cons ends rest inductionHypothesis =>
        rintro progress ⟨rekey, rekeyed, heap⟩
        obtain ⟨rekey', rekeyed', heap'⟩ :=
          inductionHypothesis _
            (rekeyed.refreshOpenEdge valid heap ends.1 ends.2)
        obtain ⟨kept, added⟩ :=
          mem_refreshOpenEdge request state progress ends.1 ends.2
        refine ⟨rekey', { rekeyed' with key_lowered := ?_ }, heap'⟩
        intro entry member mapped listed
        apply rekeyed'.key_lowered entry member mapped
        rcases listed with old | ⟨other, inList, notPredecessor, isPair⟩
        · exact Or.inl (kept _ old)
        · rcases List.mem_cons.mp inList with isHead | inRest
          · subst isHead
            left
            rw [isPair]
            exact added notPredecessor
          · exact Or.inr ⟨other, inRest, notPredecessor, isPair⟩
  have unchanged :
      Rekeyed request state (· ∈ ([] : List (Nat × Nat))) id :=
    ⟨fun _ => rfl, fun _ => rfl, fun _ => le_rfl,
      fun _ _ => Or.inl rfl, fun _ _ _ listed => by cases listed⟩
  obtain ⟨rekey, rekeyed, heap⟩ :=
    loop
      (updatedNodes.flatMap fun node =>
        (filteredTargets state.graph request.disabledVertices node).map
          fun neighbor => (node, neighbor))
      (state.openHeap, []) ⟨id, unchanged, by simp⟩
  refine ⟨rekey, { rekeyed with key_lowered := ?_ }, ?_⟩
  · intro entry member mapped listed
    apply rekeyed.key_lowered entry member mapped
    obtain ⟨node, inNodes, neighbor, adjacent, notPredecessor, isPair⟩ :=
      listed
    refine Or.inr ⟨(node, neighbor), ?_, notPredecessor, isPair⟩
    rw [List.mem_flatMap]
    exact ⟨node, inNodes, List.mem_map_of_mem adjacent⟩
  · rw [← heap, List.foldl_flatMap]
    simp only [List.foldl_map]
    rfl

end Refresh

variable
  {neighbor : Nat}

section Relax

open ParentForest

variable
  {next : PlannerState K}
  {pre suc : Nat}
  {cost : WithTop K}

/-- What the state is after a better way to `suc` through `pre` was found. -/
structure Improvement
    (request : PlanRequest K)
    (state next : PlannerState K)
    (pre suc : Nat)
    (tentative : WithTop K) : Prop where
  frame :
    next =
      { state with
        gScore := next.gScore
        cameFrom := Function.update state.cameFrom suc (some pre)
        openHeap := next.openHeap }
  score_suc :
    next.gScore suc = tentative
  score_below :
    ∀ {vertex},
      StrictlyBelow next.cameFrom suc vertex →
      next.gScore vertex =
        costSub (state.gScore vertex)
          (costSub (state.gScore suc) tentative)
  score_other :
    ∀ {vertex},
      ¬Below next.cameFrom suc vertex →
      next.gScore vertex = state.gScore vertex
  heap :
    ∃ rekey,
      Rekeyed request { next with openHeap := state.openHeap }
          (fun pair =>
            ∃ node neighbor,
              Below next.cameFrom suc node ∧
                (filteredEdge? state.graph request.disabledVertices
                  node neighbor).isSome = true ∧
                next.cameFrom node ≠ some neighbor ∧
                pair = edgePair node neighbor) rekey ∧
        next.openHeap = state.openHeap.map rekey

/-- The relaxation changes nothing unless the tentative score is better. -/
theorem relaxEdge_of_not_lt
    (notBetter : ¬state.gScore pre + cost < state.gScore suc) :
    relaxEdge request state pre suc cost = some state := by
  unfold relaxEdge
  rw [if_neg notBetter]

/-- The relaxation ends when the new predecessors form a tree. -/
theorem relaxEdge_of_lt
    {root : Nat}
    (valid : OpenSetValid request state)
    (better : state.gScore pre + cost < state.gScore suc)
    (rooted :
      RootedAt (Function.update state.cameFrom suc (some pre)) root)
    (bounded :
      ∀ {vertex above},
        Function.update state.cameFrom suc (some pre) vertex =
          some above →
        vertex < state.graph.numVertices) :
    ∃ next,
      relaxEdge request state pre suc cost = some next ∧
        Improvement request state next pre suc
          (state.gScore pre + cost) := by
  obtain ⟨scores, run, score, nodes⟩ :=
    updateGScoreRecursively_spec rooted bounded
      (costSub (state.gScore suc) (state.gScore pre + cost)) suc
      { gScore :=
          Function.update state.gScore suc (state.gScore pre + cost)
        updatedNodes := [suc] }
  let improved : PlannerState K :=
    { state with
      gScore := scores.gScore
      cameFrom := Function.update state.cameFrom suc (some pre) }
  have improvedValid : OpenSetValid request improved :=
    ⟨valid.handle_lt, valid.handles_distinct, valid.entry_edge,
      valid.handle_entry, valid.handle_open, valid.popped_iff,
      valid.count⟩
  obtain ⟨rekey, rekeyed, heap⟩ :=
    refreshOpenEdges_spec improvedValid scores.updatedNodes
  have belowSplit
      (vertex : Nat) :
      Below improved.cameFrom suc vertex ↔
        vertex = suc ∨ StrictlyBelow improved.cameFrom suc vertex :=
    Relation.reflTransGen_iff_eq_or_transGen
  refine ⟨{ improved with
    openHeap := refreshOpenEdges request improved scores.updatedNodes },
    ?_, ?_⟩
  · unfold relaxEdge
    simp only [if_pos better, run, Option.map_some]
    rfl
  · refine ⟨rfl, ?_, ?_, ?_, rekey, { rekeyed with key_lowered := ?_ }, heap⟩
    · refine (score suc).trans ?_
      rw [if_neg (rooted.acyclic suc)]
      exact Function.update_self suc _ state.gScore
    · intro vertex below
      have other : vertex ≠ suc := by
        rintro rfl
        exact rooted.acyclic vertex below
      refine (score vertex).trans ?_
      rw [if_pos below]
      simp only [Function.update_of_ne other]
    · intro vertex notBelow
      have apart := mt (belowSplit vertex).mpr notBelow
      rw [not_or] at apart
      refine (score vertex).trans ?_
      rw [if_neg apart.2]
      exact Function.update_of_ne apart.1 _ state.gScore
    · rintro entry member mapped
        ⟨node, neighbor, below, isEdge, notPredecessor, isPair⟩
      apply rekeyed.key_lowered entry member mapped
      refine ⟨node, ?_, neighbor, mem_filteredTargets.mpr isEdge,
        notPredecessor, isPair⟩
      rw [nodes node]
      rcases (belowSplit node).mp below with same | strictly
      · exact Or.inl (by simp [same])
      · exact Or.inr strictly

/-- The state after a relaxation that changed keys, scores and predecessors. -/
structure Rescored
    (state next : PlannerState K)
    (rekey : OpenSetEdge K → OpenSetEdge K) : Prop where
  frame :
    next =
      { state with
        gScore := next.gScore
        cameFrom := next.cameFrom
        openHeap := state.openHeap.map rekey }
  same_handle :
    ∀ entry, (rekey entry).handle = entry.handle
  same_pair :
    ∀ entry, ((rekey entry).u, (rekey entry).v) = (entry.u, entry.v)

/-- Whenever the relaxation ends, it changed keys or nothing. -/
theorem relaxEdge_cases
    (valid : OpenSetValid request state)
    (run : relaxEdge request state pre suc cost = some next) :
    next = state ∨
      (state.gScore pre + cost < state.gScore suc ∧
        next.cameFrom =
          Function.update state.cameFrom suc (some pre) ∧
        ∃ rekey, Rescored state next rekey) := by
  by_cases better : state.gScore pre + cost < state.gScore suc
  · right
    simp only [relaxEdge, if_pos better] at run
    obtain ⟨scores, -, isNext⟩ := Option.map_eq_some_iff.mp run
    have improvedValid :
        OpenSetValid request
          { state with
            gScore := scores.gScore
            cameFrom := Function.update state.cameFrom suc (some pre) } :=
      ⟨valid.handle_lt, valid.handles_distinct, valid.entry_edge,
        valid.handle_entry, valid.handle_open, valid.popped_iff,
        valid.count⟩
    obtain ⟨rekey, rekeyed, heap⟩ :=
      refreshOpenEdges_spec improvedValid scores.updatedNodes
    rw [← isNext]
    refine ⟨better, rfl, rekey, ?_, rekeyed.same_handle,
      rekeyed.same_pair⟩
    rw [heap]
  · left
    rw [relaxEdge_of_not_lt better, Option.some_inj] at run
    exact run.symm

variable
  {tentative : WithTop K}

/-- An improvement changes keys, scores and predecessors. -/
theorem Improvement.rescored
    (improvement : Improvement request state next pre suc tentative) :
    ∃ rekey, Rescored state next rekey := by
  obtain ⟨rekey, rekeyed, heap⟩ := improvement.heap
  refine ⟨rekey, ?_, rekeyed.same_handle, rekeyed.same_pair⟩
  rw [improvement.frame]
  simp only [heap]

omit [Field K] [SquareRoot K] in
theorem OpenSetValid.rescore
    (valid : OpenSetValid request state)
    (rescored : Rescored state next rekey) :
    OpenSetValid request next := by
  have samePair := rescored.same_pair
  rw [rescored.frame]
  refine ⟨?_, ?_, ?_, ?_, valid.handle_open, valid.popped_iff, ?_⟩
  · intro entry member
    obtain ⟨old, inOld, rfl⟩ := List.mem_map.mp member
    rw [rescored.same_handle]
    exact valid.handle_lt old inOld
  · have sameHandles :
        (state.openHeap.map rekey).map OpenSetEdge.handle =
          state.openHeap.map OpenSetEdge.handle := by
      rw [List.map_map]
      exact List.map_congr_left fun entry _ => rescored.same_handle entry
    simp only [sameHandles]
    exact valid.handles_distinct
  · intro entry member
    obtain ⟨old, inOld, rfl⟩ := List.mem_map.mp member
    have pair := samePair old
    rw [Prod.mk.injEq] at pair
    simp only [pair.1, pair.2]
    exact valid.entry_edge old inOld
  · intro pair handle mapped
    obtain ⟨entry, member, isHandle, isPair⟩ := valid.handle_entry mapped
    refine ⟨rekey entry, List.mem_map_of_mem member, ?_, ?_⟩
    · rw [rescored.same_handle, isHandle]
    · rw [samePair, isPair]
  · simp only [List.length_map]
    exact valid.count

theorem OpenSetValid.improve
    (valid : OpenSetValid request state)
    (improvement : Improvement request state next pre suc tentative) :
    OpenSetValid request next := by
  obtain ⟨rekey, rescored⟩ := improvement.rescored
  exact valid.rescore rescored

theorem Improvement.key_at_suc
    (improvement : Improvement request state next pre suc tentative)
    {entry : OpenSetEdge K}
    (member : entry ∈ next.openHeap)
    (mapped :
      next.edgeToHandle (entry.u, entry.v) = some entry.handle)
    (isPair : (entry.u, entry.v) = edgePair suc neighbor)
    (isEdge :
      (filteredEdge? state.graph request.disabledVertices
        suc neighbor).isSome = true)
    (notPre : neighbor ≠ pre) :
    entry.fScore ≤ bestKey request next entry.u entry.v := by
  obtain ⟨rekey, rekeyed, heap⟩ := improvement.heap
  rw [heap, List.mem_map] at member
  obtain ⟨old, inOld, isEntry⟩ := member
  have samePair := rekeyed.same_pair old
  have sameHandle := rekeyed.same_handle old
  have lowered := rekeyed.key_lowered old inOld
  rw [isEntry] at samePair sameHandle lowered
  rw [samePair, sameHandle] at mapped
  rw [samePair] at isPair
  rw [Prod.mk.injEq] at samePair
  rw [samePair.1, samePair.2]
  refine lowered mapped
    ⟨suc, neighbor, Relation.ReflTransGen.refl, isEdge, ?_, isPair⟩
  rw [improvement.frame]
  simp only [Function.update_self, ne_eq, Option.some.injEq]
  exact notPre.symm

omit [Field K] [LinearOrder K] [SquareRoot K] in
/-- Changing keys keeps every entry mapped. -/
theorem OpenSetSimple.rescore
    (simple : OpenSetSimple state)
    (rescored : Rescored state next rekey) :
    OpenSetSimple next := by
  rw [rescored.frame]
  refine ⟨?_, simple.popped_once⟩
  intro entry member
  obtain ⟨old, inOld, rfl⟩ := List.mem_map.mp member
  rw [rescored.same_pair, rescored.same_handle]
  exact simple.entry_mapped old inOld

/-- Lowering keys keeps every entry mapped. -/
theorem OpenSetSimple.improve
    (simple : OpenSetSimple state)
    (improvement : Improvement request state next pre suc tentative) :
    OpenSetSimple next := by
  obtain ⟨rekey, rescored⟩ := improvement.rescored
  exact simple.rescore rescored

end Relax

section OpenNeighbors

variable
  {next : PlannerState K}
  {pre suc : Nat}

/-- What opening the edges from `suc` to the given neighbours does. -/
structure Opened
    (request : PlanRequest K)
    (state next : PlannerState K)
    (pre suc : Nat)
    (neighbors : List Nat) : Prop where
  frame :
    next =
      { state with
        openHeap := next.openHeap
        edgeToHandle := next.edgeToHandle
        nextHandle := next.nextHandle }
  entry_kept :
    ∀ entry ∈ state.openHeap, entry ∈ next.openHeap
  handle_kept :
    ∀ {pair handle},
      state.edgeToHandle pair = some handle →
      next.edgeToHandle pair = some handle
  entry_new :
    ∀ entry ∈ next.openHeap,
      (entry ∈ state.openHeap ∧
          (next.edgeToHandle (entry.u, entry.v) = some entry.handle →
            state.edgeToHandle (entry.u, entry.v) = some entry.handle)) ∨
        ∃ neighbor ∈ neighbors,
          (entry.u, entry.v) = edgePair suc neighbor ∧
            entry.fScore = fScore request state suc neighbor ∧
            state.edgeToHandle (edgePair suc neighbor) = none ∧
            edgePair suc neighbor ∉ state.closedSet
  explored :
    ∀ neighbor ∈ neighbors,
      neighbor ≠ pre →
      (next.edgeToHandle (edgePair suc neighbor)).isSome = true ∨
        edgePair suc neighbor ∈ state.closedSet

theorem Opened.refl
    (request : PlanRequest K)
    (state : PlannerState K)
    (pre suc : Nat) :
    Opened request state state pre suc [] where
  frame := rfl
  entry_kept := fun _ member => member
  handle_kept := fun mapped => mapped
  entry_new := fun _ member => Or.inl ⟨member, fun mapped => mapped⟩
  explored := fun _ member => by cases member

/-- Skip a neighbour whose edge needs no push. -/
theorem Opened.skip
    {rest : List Nat}
    (opened : Opened request state next pre suc rest)
    (known :
      neighbor = pre ∨
        edgePair suc neighbor ∈ state.closedSet ∨
        (state.edgeToHandle (edgePair suc neighbor)).isSome = true) :
    Opened request state next pre suc (neighbor :: rest) where
  frame := opened.frame
  entry_kept := opened.entry_kept
  handle_kept := opened.handle_kept
  entry_new := by
    intro entry member
    rcases opened.entry_new entry member with
        old | ⟨other, inRest, spec⟩
    · exact Or.inl old
    · exact Or.inr ⟨other, List.mem_cons_of_mem _ inRest, spec⟩
  explored := by
    intro other member notPre
    rcases List.mem_cons.mp member with isHead | inRest
    · subst isHead
      rcases known with isPre | closed | handled
      · exact absurd isPre notPre
      · exact Or.inr closed
      · obtain ⟨handle, mapped⟩ := Option.isSome_iff_exists.mp handled
        rw [opened.handle_kept mapped]
        exact Or.inl rfl
    · exact opened.explored other inRest notPre

/-- Push a neighbour's edge and go on. -/
theorem Opened.push
    {rest : List Nat}
    (valid : OpenSetValid request state)
    (fresh : state.edgeToHandle (edgePair suc neighbor) = none)
    (notClosed : edgePair suc neighbor ∉ state.closedSet)
    (opened :
      Opened request
        (pushOpenEdge state suc neighbor
          (fScore request state suc neighbor))
        next pre suc rest) :
    Opened request state next pre suc (neighbor :: rest) where
  frame := opened.frame
  entry_kept := by
    intro entry member
    exact opened.entry_kept entry (List.mem_append_left _ member)
  handle_kept := by
    intro pair handle mapped
    apply opened.handle_kept
    have other : pair ≠ edgePair suc neighbor := by
      rintro rfl
      rw [fresh] at mapped
      cases mapped
    simp only [pushOpenEdge, Function.update_of_ne other]
    exact mapped
  entry_new := by
    intro entry member
    rcases opened.entry_new entry member with
        ⟨inPushed, wasMapped⟩ | ⟨other, inRest, isPair, isKey, free, notDone⟩
    · rcases List.mem_append.mp inPushed with old | new
      · refine Or.inl ⟨old, fun mapped => ?_⟩
        have before := wasMapped mapped
        by_cases same : (entry.u, entry.v) = edgePair suc neighbor
        · simp only [pushOpenEdge, same, Function.update_self,
            Option.some.injEq] at before
          exact absurd before (valid.handle_lt entry old).ne'
        · simp only [pushOpenEdge, Function.update_of_ne same] at before
          exact before
      · rw [List.mem_singleton] at new
        subst new
        exact Or.inr ⟨neighbor, List.mem_cons_self, rfl, rfl,
          fresh, notClosed⟩
    · refine Or.inr ⟨other, List.mem_cons_of_mem _ inRest, isPair,
        isKey, ?_, notDone⟩
      by_cases same : edgePair suc other = edgePair suc neighbor
      · rw [same]
        exact fresh
      · simp only [pushOpenEdge, Function.update_of_ne same] at free
        exact free
  explored := by
    intro other member notPre
    rcases List.mem_cons.mp member with isHead | inRest
    · subst isHead
      left
      rw [opened.handle_kept (Function.update_self _ _ _)]
      rfl
    · exact opened.explored other inRest notPre

/--
Opening the neighbours of `suc` pushes exactly their edges that are neither
closed nor open.  Whatever a push of such an edge preserves is preserved.
-/
theorem openNeighbors_spec
    {motive : PlannerState K → Prop}
    (valid : OpenSetValid request state)
    (holds : motive state)
    (pushed :
      ∀ {current neighbor},
        motive current →
        (filteredEdge? state.graph request.disabledVertices
          suc neighbor).isSome = true →
        current.edgeToHandle (edgePair suc neighbor) = none →
        edgePair suc neighbor ∉ current.closedSet →
        motive
          (pushOpenEdge current suc neighbor
            (fScore request current suc neighbor))) :
    Opened request state (openNeighbors request state pre suc) pre suc
        (filteredTargets state.graph request.disabledVertices suc) ∧
      OpenSetValid request (openNeighbors request state pre suc) ∧
      motive (openNeighbors request state pre suc) := by
  have loop :
      ∀ (ahead : List Nat) (current : PlannerState K),
        current.graph = state.graph →
        (∀ neighbor ∈ ahead,
          (filteredEdge? state.graph request.disabledVertices
            suc neighbor).isSome = true) →
        OpenSetValid request current →
        motive current →
        Opened request current
            (ahead.foldl (openNeighbor request pre suc) current)
            pre suc ahead ∧
          OpenSetValid request
            (ahead.foldl (openNeighbor request pre suc) current) ∧
          motive
            (ahead.foldl (openNeighbor request pre suc) current) := by
    intro ahead
    induction ahead with
    | nil =>
        intro current _ _ currentValid currentHolds
        exact ⟨Opened.refl request current pre suc, currentValid,
          currentHolds⟩
    | cons neighbor rest inductionHypothesis =>
        intro current sameGraph edges currentValid currentHolds
        have isEdge := edges neighbor List.mem_cons_self
        have restEdges :
            ∀ other ∈ rest,
              (filteredEdge? state.graph request.disabledVertices
                suc other).isSome = true :=
          fun other member => edges other (List.mem_cons_of_mem _ member)
        by_cases known :
            neighbor = pre ∨
              edgePair suc neighbor ∈ current.closedSet ∨
              (current.edgeToHandle
                (edgePair suc neighbor)).isSome = true
        · have skips :
              openNeighbor request pre suc current neighbor =
                current := by
            unfold openNeighbor
            split_ifs <;> tauto
          rw [List.foldl_cons, skips]
          obtain ⟨opened, rest⟩ :=
            inductionHypothesis current sameGraph restEdges
              currentValid currentHolds
          exact ⟨opened.skip known, rest⟩
        · push Not at known
          obtain ⟨notPre, notClosed, unhandled⟩ := known
          have fresh :
              current.edgeToHandle (edgePair suc neighbor) = none := by
            simpa using unhandled
          have currentEdge :
              (filteredEdge? current.graph request.disabledVertices
                suc neighbor).isSome = true := by
            rw [sameGraph]
            exact isEdge
          have pushes :
              openNeighbor request pre suc current neighbor =
                pushOpenEdge current suc neighbor
                  (fScore request current suc neighbor) := by
            unfold openNeighbor
            rw [if_neg notPre, if_neg notClosed, if_neg unhandled]
          rw [List.foldl_cons, pushes]
          obtain ⟨opened, rest⟩ :=
            inductionHypothesis
              (pushOpenEdge current suc neighbor
                (fScore request current suc neighbor))
              sameGraph restEdges
              (currentValid.push currentEdge notClosed)
              (pushed currentHolds isEdge fresh notClosed)
          exact ⟨opened.push currentValid fresh notClosed, rest⟩
  exact loop (filteredTargets state.graph request.disabledVertices suc)
    state rfl (fun neighbor member => mem_filteredTargets.mp member)
    valid holds

end OpenNeighbors

end OpenSet

end NavBim
