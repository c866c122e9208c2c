import NavBim.PrePlanning
import NavBim.TopomapPlannerExact
import NavBim.TopomapPlannerGraph

namespace NavBim

/-!
# The direction of stored paths

An edge stores its waypoints without a direction.  The path reconstruction
expects them to run from the end with the smaller id to the end with the
larger one.  The planner plans an edge from the smaller to the larger vertex
descriptor, and pre-planning from the source to the target of the stored edge,
so the three agree only on maps whose edges rise.
-/

section Direction

variable {K : Type}

/-- The waypoints run from one place to another. -/
def Runs
    (path : List (Coords K))
    (first last : Coords K) : Prop :=
  path.head? = some first ∧ path.getLast? = some last

/-- The waypoints run from the node with the smaller id to the other one. -/
def RunsUp
    (first second : NodeProperties K)
    (path : List (Coords K)) : Prop :=
  if first.id < second.id then
    Runs path first.position.coords second.position.coords
  else
    Runs path second.position.coords first.position.coords

variable
  {path : List (Coords K)}

theorem Runs.ne_nil
    {first last : Coords K}
    (runs : Runs path first last) :
    path ≠ [] := by
  rintro rfl
  exact absurd runs.1 (by simp)

theorem Runs.reverse
    {first last : Coords K}
    (runs : Runs path first last) :
    Runs path.reverse last first := by
  refine ⟨?_, ?_⟩
  · rw [List.head?_reverse]
    exact runs.2
  · rw [List.getLast?_reverse]
    exact runs.1

/-- Running up does not depend on the order of the ends. -/
theorem RunsUp.symm
    {first second : NodeProperties K}
    (sameNode : first.id = second.id → first = second)
    (runs : RunsUp first second path) :
    RunsUp second first path := by
  by_cases same : first.id = second.id
  · rw [sameNode same] at runs ⊢
    exact runs
  · unfold RunsUp at runs ⊢
    by_cases rising : first.id < second.id
    · rw [if_pos rising] at runs
      rw [if_neg (Int32.not_lt.mpr (Int32.le_of_lt rising))]
      exact runs
    · rw [if_neg rising] at runs
      have falling : second.id < first.id :=
        Int32.lt_of_le_of_ne (Int32.not_lt.mp rising) (Ne.symm same)
      rw [if_pos falling]
      exact runs

theorem RunsUp.turned
    {first second : NodeProperties K}
    (runs : RunsUp first second path) :
    Runs (if first.id < second.id then path else path.reverse)
      first.position.coords second.position.coords := by
  unfold RunsUp at runs
  by_cases rising : first.id < second.id
  · rw [if_pos rising] at runs ⊢
    exact runs
  · rw [if_neg rising] at runs ⊢
    exact runs.reverse

end Direction

section Graphs

variable {K : Type} [Field K]

/-- Every stored path runs up; an empty path stands for no path. -/
def PathsRunUp
    (graph : TopologicalGraph K) : Prop :=
  ∀ edge ∈ graph.edges, ∀ path ∈ edge.properties.path, path ≠ [] →
    RunsUp (graph.node edge.source) (graph.node edge.target) path

/-- No edge stores an empty path. -/
def NoEmptyPaths
    (graph : TopologicalGraph K) : Prop :=
  ∀ edge ∈ graph.edges, edge.properties.path ≠ some []

/-- A request to store a path that runs up. -/
def UpdateRunsUp
    (graph : TopologicalGraph K)
    (request : UpdateEdgeDataRequest K) : Prop :=
  ∀ u < graph.numVertices, ∀ v < graph.numVertices,
    (graph.node u).id = request.sourceId →
    (graph.node v).id = request.targetId →
    request.path ≠ [] →
      RunsUp (graph.node u) (graph.node v) request.path

variable {graph : TopologicalGraph K}

/-- The ends of an edge in either order. -/
theorem DistinctIds.runsUp_of_joins
    (distinct : DistinctIds graph)
    {edge : StoredEdge K}
    (member : edge ∈ graph.edges)
    {u v : Nat}
    (joined : edge.joins u v = true)
    {path : List (Coords K)} :
    RunsUp (graph.node edge.source) (graph.node edge.target) path ↔
      RunsUp (graph.node u) (graph.node v) path := by
  have valid := graph.endsValid edge member
  rcases StoredEdge.joins_iff.mp joined with ⟨isU, isV⟩ | ⟨isV, isU⟩
  · rw [isU, isV]
  · rw [isU, isV]
    rw [isV, isU] at valid
    constructor
    · refine RunsUp.symm fun sameId => ?_
      rw [distinct.vertex_eq valid.1 valid.2 sameId]
    · refine RunsUp.symm fun sameId => ?_
      rw [distinct.vertex_eq valid.2 valid.1 sameId]

/-- A block of the detailed path runs between the ends of its coarse edge. -/
theorem pathSegment?_runs
    [LinearOrder K]
    (distinct : DistinctIds graph)
    (runUp : PathsRunUp graph)
    (noEmpty : NoEmptyPaths graph)
    {disabled : Finset Nat}
    {u v : Nat}
    {segment : PathSegment K}
    (isSegment : pathSegment? graph disabled u v = some segment) :
    Runs segment.waypoints (graph.node u).position.coords
      (graph.node v).position.coords := by
  obtain ⟨edge, isEdge, hasPath⟩ := Option.bind_eq_some_iff.mp isSegment
  obtain ⟨path, isPath, same⟩ := Option.map_eq_some_iff.mp hasPath
  obtain ⟨-, -, found⟩ := filteredEdge?_eq_some.mp isEdge
  obtain ⟨member, joined⟩ := TopologicalGraph.edge?_eq_some found
  have nonempty : path ≠ [] := by
    rintro rfl
    exact noEmpty edge member isPath
  have runs :=
    (distinct.runsUp_of_joins member joined).mp
      (runUp edge member path isPath nonempty)
  rw [← same]
  exact runs.turned

end Graphs

section Search

variable
  {K : Type} [Field K] [LinearOrder K] [SquareRoot K]
  {request : PlanRequest K}
  {start : TopologicalGraph K}
  {state next : PlannerState K}

/-- A second-level planner whose paths run from the start to the end. -/
def RunsBetween
    (secondLevelPlanner : SecondLevelPlanner K) : Prop :=
  ∀ calls floor room first last path,
    (secondLevelPlanner calls floor room first last).path = some path →
      Runs path first last

/--
Every edge that the search may plan has ends with ids in the order of their
descriptors.
-/
def EdgesRise
    (request : PlanRequest K)
    (graph : TopologicalGraph K) : Prop :=
  ∀ u v edge,
    filteredEdge? graph request.disabledVertices u v = some edge →
    shouldReuse request.reusePaths edge.properties = false →
    u < v →
      (graph.node u).id < (graph.node v).id

/-- What the search keeps about the direction of stored paths. -/
structure OrientedSearch
    (request : PlanRequest K)
    (start : TopologicalGraph K)
    (state : PlannerState K) : Prop where
  shape : SameShape start state.graph
  openSet : OpenSetValid request state
  runUp : PathsRunUp state.graph
  noEmpty : NoEmptyPaths state.graph
  reuses :
    ∀ {u v edge},
      filteredEdge? start request.disabledVertices u v = some edge →
      shouldReuse request.reusePaths edge.properties = true →
      ∃ current,
        filteredEdge? state.graph request.disabledVertices u v =
            some current ∧
          shouldReuse request.reusePaths current.properties = true
  updates : ∀ update ∈ state.updates, UpdateRunsUp start update

/-- What the search keeps about the paths of the edges it goes along. -/
structure TracedSearch
    (request : PlanRequest K)
    (state : PlannerState K) : Prop where
  simple : OpenSetSimple state
  link_closed :
    ∀ {vertex above},
      state.cameFrom vertex = some above →
      edgePair above vertex ∈ state.closedSet
  link_path :
    ∀ {vertex above},
      state.cameFrom vertex = some above →
      ∃ edge path,
        filteredEdge? state.graph request.disabledVertices above vertex =
            some edge ∧
          edge.properties.path = some path

section Step

variable
  (distinct : DistinctIds start)
  (rising : EdgesRise request start)
  (faithful : RunsBetween request.secondLevelPlanner)

include distinct rising faithful

omit [SquareRoot K] in
theorem OrientedSearch.result_runsUp
    (search : OrientedSearch request start state)
    {u v : Nat}
    {edge : StoredEdge K}
    (ordered : u ≤ v)
    (found :
      filteredEdge? state.graph request.disabledVertices u v = some edge)
    {calls : Nat}
    {path : List (Coords K)}
    (isPath :
      (edgeResult request state.graph calls u v edge.properties).path =
        some path) :
    path ≠ [] ∧ RunsUp (start.node u) (start.node v) path := by
  obtain ⟨-, -, inGraph⟩ := filteredEdge?_eq_some.mp found
  obtain ⟨member, joined⟩ := TopologicalGraph.edge?_eq_some inGraph
  have sameIds : DistinctIds state.graph := by
    rw [DistinctIds, search.shape.vertices]
    exact distinct
  rw [← search.shape.node u, ← search.shape.node v]
  unfold edgeResult at isPath
  split at isPath
  · rename_i reuses
    replace isPath : edge.properties.path = some path := isPath
    have long : 2 ≤ path.length := by
      simp only [shouldReuse, isPath, Option.getD_some, Bool.and_eq_true,
        decide_eq_true_eq] at reuses
      exact reuses.1
    have nonempty : path ≠ [] := by
      rintro rfl
      simp at long
    exact ⟨nonempty, (sameIds.runsUp_of_joins member joined).mp
      (search.runUp edge member path isPath nonempty)⟩
  · rename_i planned
    have runs := faithful _ _ _ _ _ _ isPath
    refine ⟨runs.ne_nil, ?_⟩
    rcases Nat.lt_or_eq_of_le ordered with below | isSame
    · obtain ⟨startEdge, isStartEdge⟩ :
          ∃ startEdge,
            filteredEdge? start request.disabledVertices u v =
              some startEdge := by
        have isSome :=
          search.shape.filteredEdge?_isSome request.disabledVertices u v
        rw [found] at isSome
        exact Option.isSome_iff_exists.mp isSome.symm
      have notReused :
          shouldReuse request.reusePaths startEdge.properties = false := by
        by_contra reuse
        rw [Bool.not_eq_false] at reuse
        obtain ⟨current, isCurrent, reused⟩ :=
          search.reuses isStartEdge reuse
        rw [found, Option.some_inj] at isCurrent
        rw [isCurrent] at planned
        exact planned reused
      have idsRise := rising u v startEdge isStartEdge notReused below
      rw [← search.shape.node u, ← search.shape.node v] at idsRise
      rw [RunsUp, if_pos idsRise]
      exact runs
    · subst isSame
      rw [RunsUp, if_neg Int32.lt_irrefl]
      exact runs

variable
  {entry : OpenSetEdge K}
  {edge : StoredEdge K}
  {relaxed : PlannerState K}

section

variable
  (search : OrientedSearch request start state)
  (iterated : Iterated request state next entry edge relaxed)

include search iterated

/-- A stored path is an old one or the result of this expansion. -/
theorem OrientedSearch.stored_path
    {other : StoredEdge K}
    (isOther : other ∈ next.graph.edges)
    {path : List (Coords K)}
    (isPath : other.properties.path = some path) :
    other ∈ state.graph.edges ∨
      (path ≠ [] ∧
        RunsUp (start.node other.source) (start.node other.target)
          path) := by
  rw [iterated.frame.graph] at isOther
  rcases mem_modifyFirst isOther with old | ⟨first, inFirst, joins, same⟩
  · exact Or.inl old
  · right
    rw [same] at isPath ⊢
    have isResult :
        (edgeResult request state.graph state.secondLevelCount
          entry.u entry.v edge.properties).path = some path := by
      simp only [StoredEdge.mapProperties, storeResult,
        popOpenEdge] at isPath
      split at isPath
      · simp at isPath
      · rename_i found
        rw [found]
        exact isPath
    have ordered := (search.openSet.entry_edge entry iterated.inHeap).1
    obtain ⟨nonempty, runsUp⟩ :=
      search.result_runsUp distinct rising faithful ordered
        iterated.found isResult
    refine ⟨nonempty, ?_⟩
    have sameIds : DistinctIds state.graph := by
      rw [DistinctIds, search.shape.vertices]
      exact distinct
    rw [← search.shape.node, ← search.shape.node] at runsUp
    have runsFirst :=
      (sameIds.runsUp_of_joins inFirst joins).mpr runsUp
    rw [search.shape.node, search.shape.node] at runsFirst
    exact runsFirst

/-- What is sent for this expansion runs up. -/
theorem OrientedSearch.update_runsUp
    {update : UpdateEdgeDataRequest K}
    (isUpdate :
      update ∈
        edgeUpdate request state.graph entry.u entry.v edge.properties
          (edgeResult request state.graph state.secondLevelCount
            entry.u entry.v edge.properties)) :
    UpdateRunsUp start update := by
  obtain ⟨path, isPath, samePath, isSource, isTarget, -⟩ :=
    mem_edgeUpdate isUpdate
  have ordered := (search.openSet.entry_edge entry iterated.inHeap).1
  have runsUp :=
    (search.result_runsUp distinct rising faithful ordered
      iterated.found isPath).2
  have ends :=
    enabled_of_filteredEdge
      (Option.isSome_iff_exists.mpr ⟨edge, iterated.found⟩)
  rw [search.shape.numVertices] at ends
  intro u uInGraph v vInGraph sourceId targetId _
  have isU : u = entry.u := by
    refine distinct.vertex_eq uInGraph ends.1.1 ?_
    rw [sourceId, isSource]
    exact congrArg NodeProperties.id (search.shape.node entry.u)
  have isV : v = entry.v := by
    refine distinct.vertex_eq vInGraph ends.2.1 ?_
    rw [targetId, isTarget]
    exact congrArg NodeProperties.id (search.shape.node entry.v)
  rw [isU, isV, samePath]
  exact runsUp

end

omit distinct rising faithful in
/-- An edge that could be reused still can. -/
theorem OrientedSearch.reuses_next
    (search : OrientedSearch request start state)
    (iterated : Iterated request state next entry edge relaxed)
    {u v : Nat}
    {startEdge : StoredEdge K}
    (isStartEdge :
      filteredEdge? start request.disabledVertices u v = some startEdge)
    (reuse :
      shouldReuse request.reusePaths startEdge.properties = true) :
    ∃ current,
      filteredEdge? next.graph request.disabledVertices u v =
          some current ∧
        shouldReuse request.reusePaths current.properties = true := by
  obtain ⟨current, isCurrent, reused⟩ := search.reuses isStartEdge reuse
  rw [iterated.frame.graph]
  have ordered := (search.openSet.entry_edge entry iterated.inHeap).1
  by_cases samePair : edgePair u v = edgePair entry.u entry.v
  · rw [← filteredEdge?_edgePair, samePair,
      edgePair_of_le ordered] at isCurrent ⊢
    have isEdge : edge = current :=
      Option.some.inj (iterated.found.symm.trans isCurrent)
    rw [← isEdge] at reused
    exact ⟨_,
      (filteredEdge?_modifyEdge_same _ _ _ _ _).trans
        (congrArg _ iterated.found),
      shouldReuse_storeResult reused⟩
  · refine ⟨current,
      (filteredEdge?_modifyEdge_other _ _ _ _ _ ?_).trans isCurrent,
      reused⟩
    intro sameEnds
    exact samePair (edgePair_eq_iff.mpr sameEnds)

/-- An iteration keeps all stored paths running up. -/
theorem OrientedSearch.step
    (search : OrientedSearch request start state)
    {nonempty : state.openHeap ≠ []}
    (run : iteration request state nonempty = some next) :
    OrientedSearch request start next := by
  obtain ⟨entry, edge, relaxed, iterated⟩ := search.openSet.iterated run
  have newShape : SameShape start next.graph := by
    rw [iterated.frame.graph]
    exact search.shape.modifyEdge entry.u entry.v _
  refine ⟨newShape, iterated.frame.openSet, ?_, ?_,
    search.reuses_next iterated, ?_⟩
  · intro other isOther path isPath nonempty
    rw [newShape.node, newShape.node]
    rcases search.stored_path distinct rising faithful iterated isOther
      isPath with old | new
    · rw [← search.shape.node, ← search.shape.node]
      exact search.runUp other old path isPath nonempty
    · exact new.2
  · intro other isOther isEmpty
    rcases search.stored_path distinct rising faithful iterated isOther
      isEmpty with old | new
    · exact search.noEmpty other old isEmpty
    · exact new.1 rfl
  · rw [iterated.frame.updates]
    exact List.forall_mem_append.mpr ⟨search.updates,
      fun _ => search.update_runsUp distinct rising faithful iterated⟩

end Step

theorem TracedSearch.step
    (traced : TracedSearch request state)
    (valid : OpenSetValid request state)
    {nonempty : state.openHeap ≠ []}
    (run : iteration request state nonempty = some next) :
    TracedSearch request next := by
  obtain ⟨entry, edge, relaxed, inHeap, found, isRelaxed, expandedValid,
    frame⟩ := valid.iterated run
  have ordered := (valid.entry_edge entry inHeap).1
  have newlyClosed : (entry.u, entry.v) ∉ state.closedSet := by
    apply valid.handle_open
    rw [traced.simple.entry_mapped entry inHeap]
    rfl
  have simple := frame.simple (traced.simple.close valid inHeap)
  have endsPair :
      edgePair (entryEnds state entry).1 (entryEnds state entry).2 =
        (entry.u, entry.v) := by
    rw [edgePair_entryEnds, edgePair_of_le ordered]
  have old
      {vertex above : Nat}
      (link : state.cameFrom vertex = some above) :
      edgePair above vertex ∈ next.closedSet ∧
        ∃ edge path,
          filteredEdge? next.graph request.disabledVertices above vertex =
              some edge ∧
            edge.properties.path = some path := by
    have closed := traced.link_closed link
    obtain ⟨linkEdge, path, isEdge, isPath⟩ := traced.link_path link
    rw [frame.closedSet, frame.graph]
    refine ⟨Finset.mem_insert_of_mem closed, linkEdge, path, ?_, isPath⟩
    refine (filteredEdge?_modifyEdge_other _ _ _ _ _ ?_).trans isEdge
    intro samePair
    have isPair : edgePair above vertex = (entry.u, entry.v) := by
      rw [← edgePair_of_le ordered, edgePair_eq_iff]
      exact samePair
    rw [isPair] at closed
    exact newlyClosed closed
  rcases relaxEdge_cases expandedValid isRelaxed with
      same | ⟨better, link, rekey, rescored⟩
  · have sameLinks : next.cameFrom = state.cameFrom := by
      rw [frame.cameFrom, same]
      rfl
    rw [← sameLinks] at old
    exact ⟨simple, fun link => (old link).1, fun link => (old link).2⟩
  · have newLinks :
        next.cameFrom =
          Function.update state.cameFrom (entryEnds state entry).2
            (some (entryEnds state entry).1) := by
      rw [frame.cameFrom, link]
      rfl
    have finite : revealedCost request state entry edge ≠ ⊤ := by
      intro infinite
      rw [infinite, WithTop.add_top] at better
      exact not_top_lt better
    obtain ⟨newPath, isNewPath⟩ :=
      Option.isSome_iff_exists.mp (storeResult_path _ _ finite)
    have newEdge :
        filteredEdge? next.graph request.disabledVertices
            (entryEnds state entry).1 (entryEnds state entry).2 =
          some (edge.mapProperties
            (storeResult
              (edgeResult request state.graph state.secondLevelCount
                entry.u entry.v edge.properties))) := by
      rw [← filteredEdge?_edgePair, endsPair, frame.graph]
      exact (filteredEdge?_modifyEdge_same _ _ _ _ _).trans
        (congrArg _ found)
    have walked
        {vertex above : Nat}
        (isLink : next.cameFrom vertex = some above) :
        edgePair above vertex ∈ next.closedSet ∧
          ∃ edge path,
            filteredEdge? next.graph request.disabledVertices above
                vertex = some edge ∧
              edge.properties.path = some path := by
      rw [newLinks] at isLink
      by_cases isSuc : vertex = (entryEnds state entry).2
      · rw [isSuc, Function.update_self, Option.some_inj] at isLink
        rw [isSuc, ← isLink, endsPair, frame.closedSet]
        exact ⟨Finset.mem_insert_self _ _, _, newPath, newEdge, isNewPath⟩
      · rw [Function.update_of_ne isSuc] at isLink
        exact old isLink
    exact ⟨simple, fun link => (walked link).1,
      fun link => (walked link).2⟩

theorem initialState_oriented
    (runUp : PathsRunUp start)
    (noEmpty : NoEmptyPaths start) :
    OrientedSearch request start (initialState request start) := by
  have opened := initialState_opened request start
  have openSet := opened.openSet
  rw [opened.frame] at openSet ⊢
  refine ⟨SameShape.refl start, openSet, runUp, noEmpty,
    fun found reuse => ⟨_, found, reuse⟩, ?_⟩
  intro update isUpdate
  cases isUpdate

/-- The initial state has gone along no edge. -/
theorem initialState_traced
    (distinctTargets :
      (filteredTargets start request.disabledVertices
        request.startVertex).Nodup) :
    TracedSearch request (initialState request start) := by
  have noLinks : (initialState request start).cameFrom = fun _ => none := by
    rw [(initialState_opened request start).frame]
    rfl
  refine ⟨initialState_simple distinctTargets, ?_, ?_⟩ <;>
    · intro vertex above link
      rw [noLinks] at link
      cases link

/-- The way back starts at its vertex. -/
theorem followCameFrom_head
    {cameFrom : Nat → Option Nat}
    {fuel vertex : Nat}
    {path : List Nat}
    (run : followCameFrom cameFrom fuel vertex = some path) :
    ∃ rest, path = vertex :: rest := by
  cases fuel with
  | zero =>
      cases run
  | succ fuel =>
      simp only [followCameFrom] at run
      split at run
      · exact ⟨[], (Option.some.inj run).symm⟩
      · obtain ⟨rest, -, isPath⟩ := Option.map_eq_some_iff.mp run
        exact ⟨rest, isPath.symm⟩

/-- Consecutive vertices on the way back are linked. -/
theorem followCameFrom_links
    {cameFrom : Nat → Option Nat}
    (fuel : Nat) :
    ∀ {vertex : Nat} {path : List Nat},
      followCameFrom cameFrom fuel vertex = some path →
      ∀ ends ∈ coarseEdges path.reverse,
        cameFrom ends.2 = some ends.1 := by
  induction fuel with
  | zero =>
      intro vertex path run
      cases run
  | succ fuel inductionHypothesis =>
      intro vertex path run ends isEdge
      simp only [followCameFrom] at run
      split at run
      · rw [← Option.some.inj run] at isEdge
        cases isEdge
      · rename_i above link
        obtain ⟨earlier, isEarlier, isPath⟩ :=
          Option.map_eq_some_iff.mp run
        obtain ⟨rest, shape⟩ := followCameFrom_head isEarlier
        have edges :
            coarseEdges path.reverse =
              coarseEdges earlier.reverse ++ [(above, vertex)] := by
          rw [← isPath, shape]
          simp only [List.reverse_cons, List.append_assoc,
            List.singleton_append]
          exact coarseEdges_append_pair rest.reverse above vertex
        rw [edges] at isEdge
        rcases List.mem_append.mp isEdge with old | new
        · exact inductionHypothesis isEarlier ends old
        · rw [List.mem_singleton] at new
          rw [new]
          exact link

/-- The waypoints that the reconstruction appends for a coarse edge. -/
def appendedBlock
    (graph : TopologicalGraph K)
    (disabled : Finset Nat)
    (ends : Nat × Nat) : List (Coords K) :=
  ((pathSegment? graph disabled ends.1 ends.2).map
    PathSegment.waypoints).getD []

/-- The block of a coarse edge runs from its first to its second vertex. -/
def BlockRuns
    (graph : TopologicalGraph K)
    (disabled : Finset Nat)
    (ends : Nat × Nat) : Prop :=
  Runs (appendedBlock graph disabled ends)
    (graph.node ends.1).position.coords
    (graph.node ends.2).position.coords

/-- What a request leaves behind. -/
structure OrientedOutcome
    (request : PlanRequest K)
    (start : TopologicalGraph K)
    (outcome : PlanOutcome K) : Prop where
  shape : SameShape start outcome.graph
  runUp : PathsRunUp outcome.graph
  noEmpty : NoEmptyPaths outcome.graph
  updates : ∀ update ∈ outcome.updates, UpdateRunsUp start update
  /-- The detailed path is made of the blocks of the coarse edges. -/
  detailed :
    outcome.result.detailedPath =
      (coarseEdges outcome.result.coarsePath).flatMap
        (appendedBlock outcome.graph request.disabledVertices)
  blocks :
    ∀ ends ∈ coarseEdges outcome.result.coarsePath,
      appendedBlock outcome.graph request.disabledVertices ends ≠ [] →
        BlockRuns outcome.graph request.disabledVertices ends
  continuous :
    (filteredTargets start request.disabledVertices
      request.startVertex).Nodup →
    ∀ ends ∈ coarseEdges outcome.result.coarsePath,
      BlockRuns outcome.graph request.disabledVertices ends

omit [SquareRoot K] in
/-- The segments of a path without those that are missing. -/
theorem detailedPath_blocks
    (graph : TopologicalGraph K)
    (coarsePath : List Nat) :
    (buildResult request graph coarsePath).detailedPath =
      (coarseEdges coarsePath).flatMap
        (appendedBlock graph request.disabledVertices) := by
  simp only [buildResult]
  induction coarseEdges coarsePath with
  | nil =>
      rfl
  | cons ends rest inductionHypothesis =>
      rw [List.flatMap_cons, ← inductionHypothesis, List.filterMap_cons]
      simp only [appendedBlock]
      cases pathSegment? graph request.disabledVertices ends.1 ends.2 with
      | none =>
          rfl
      | some segment =>
          rfl

theorem planTopomapPath_oriented
    (distinct : DistinctIds start)
    (rising : EdgesRise request start)
    (faithful : RunsBetween request.secondLevelPlanner)
    (runUp : PathsRunUp start)
    (noEmpty : NoEmptyPaths start)
    {outcome : PlanOutcome K}
    (run : planTopomapPath request start = some outcome) :
    OrientedOutcome request start outcome := by
  unfold planTopomapPath at run
  split at run
  · rw [← Option.some.inj run]
    refine ⟨SameShape.refl start, runUp, noEmpty, ?_, rfl, ?_, ?_⟩
    · intro update isUpdate
      cases isUpdate
    · intro ends isEdge
      cases isEdge
    · intro _ ends isEdge
      cases isEdge
  · obtain ⟨final, loop, reconstructed⟩ := Option.bind_eq_some_iff.mp run
    have oriented : OrientedSearch request start final :=
      mainLoop_keeps
        (fun search step => search.step distinct rising faithful step)
        _ (initialState_oriented runUp noEmpty) loop
    have traced
        (distinctTargets :
          (filteredTargets start request.disabledVertices
            request.startVertex).Nodup) :
        TracedSearch request final := by
      have both :
          OrientedSearch request start final ∧
            TracedSearch request final :=
        mainLoop_keeps
          (motive := fun state =>
            OrientedSearch request start state ∧
              TracedSearch request state)
          (fun search step =>
            ⟨search.1.step distinct rising faithful step,
              search.2.step search.1.openSet step⟩)
          _ ⟨initialState_oriented runUp noEmpty,
            initialState_traced distinctTargets⟩ loop
      exact both.2
    have finalIds : DistinctIds final.graph := by
      rw [DistinctIds, oriented.shape.vertices]
      exact distinct
    have segmentRuns
        {ends : Nat × Nat}
        {segment : PathSegment K}
        (isSegment :
          pathSegment? final.graph request.disabledVertices
            ends.1 ends.2 = some segment) :
        BlockRuns final.graph request.disabledVertices ends := by
      have runs :=
        pathSegment?_runs finalIds oriented.runUp oriented.noEmpty
          isSegment
      unfold BlockRuns appendedBlock
      rw [isSegment]
      exact runs
    unfold reconstruct at reconstructed
    split at reconstructed
    · obtain ⟨path, isPath, isOutcome⟩ :=
        Option.map_eq_some_iff.mp reconstructed
      rw [← isOutcome]
      refine ⟨oriented.shape, oriented.runUp, oriented.noEmpty,
        oriented.updates, detailedPath_blocks _ _, ?_, ?_⟩
      · intro ends _ appended
        cases isSegment :
            pathSegment? final.graph request.disabledVertices
              ends.1 ends.2 with
        | none =>
            exact absurd (by simp [appendedBlock, isSegment]) appended
        | some segment =>
            exact segmentRuns isSegment
      · intro distinctTargets ends isEdge
        have link := followCameFrom_links _ isPath ends isEdge
        obtain ⟨edge, waypoints, found, hasPath⟩ :=
          (traced distinctTargets).link_path link
        have isSegment :
            ∃ segment,
              pathSegment? final.graph request.disabledVertices
                ends.1 ends.2 = some segment := by
          simp [pathSegment?, found, hasPath]
        obtain ⟨segment, isSegment⟩ := isSegment
        exact segmentRuns isSegment
    · rw [← Option.some.inj reconstructed]
      refine ⟨oriented.shape, oriented.runUp, oriented.noEmpty,
        oriented.updates, rfl, ?_, ?_⟩
      · intro ends isEdge
        cases isEdge
      · intro _ ends isEdge
        cases isEdge

end Search

end NavBim
