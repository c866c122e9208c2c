import NavBim.PathOrientation
import NavBim.PlanningSystem

namespace NavBim

/-!
# The direction of paths in runs of the system

All graphs of the system have the same nodes at the same places.  A run in
which every stored path runs up keeps it so, and then every block of every
detailed path runs along its coarse edge.
-/

section Places

variable {K : Type}

/-- The direction depends on places only. -/
theorem RunsUp.congr
    {first second first' second' : NodeProperties K}
    {path : List (Coords K)}
    (samePlace : first'.place = first.place)
    (samePlace' : second'.place = second.place) :
    RunsUp first' second' path ↔ RunsUp first second path := by
  simp only [NodeProperties.place, Prod.mk.injEq] at samePlace samePlace'
  simp only [RunsUp, samePlace, samePlace']

variable {first second : TopologicalGraph K}

variable [Field K]

theorem SamePlaces.runsUp_iff
    (same : SamePlaces first second)
    {u v : Nat}
    {path : List (Coords K)} :
    RunsUp (first.node u) (first.node v) path ↔
      RunsUp (second.node u) (second.node v) path :=
  RunsUp.congr (same.place u) (same.place v)

theorem SamePlaces.updateRunsUp
    (same : SamePlaces first second)
    {request : UpdateEdgeDataRequest K}
    (runsUp : UpdateRunsUp first request) :
    UpdateRunsUp second request := by
  intro u uInGraph v vInGraph isSource isTarget nonempty
  rw [← same.numVertices] at uInGraph vInGraph
  rw [← same.id] at isSource isTarget
  exact same.runsUp_iff.mp
    (runsUp u uInGraph v vInGraph isSource isTarget nonempty)

theorem PathsRunUp.of_edges
    (same : SamePlaces first second)
    (runUp : PathsRunUp second)
    (fromSecond :
      ∀ edge ∈ first.edges, ∀ path ∈ edge.properties.path, path ≠ [] →
        ∃ old ∈ second.edges,
          old.source = edge.source ∧ old.target = edge.target ∧
            old.properties.path = some path) :
    PathsRunUp first := by
  intro edge member path isPath nonempty
  obtain ⟨old, inSecond, isSource, isTarget, hasPath⟩ :=
    fromSecond edge member path isPath nonempty
  rw [same.runsUp_iff, ← isSource, ← isTarget]
  exact runUp old inSecond path hasPath nonempty

end Places

section Server

variable {K : Type} [Field K] {graph : TopologicalGraph K}

theorem PathsRunUp.update
    (distinct : DistinctIds graph)
    (runUp : PathsRunUp graph)
    {request : UpdateEdgeDataRequest K}
    (runsUp : UpdateRunsUp graph request) :
    PathsRunUp (serverStep graph (.update request)) := by
  rcases serverStep_update_cases graph request with
      ⟨unchanged, -⟩ |
        ⟨source, target, edge, isSource, isTarget, -, changed⟩
  · rw [unchanged]
    exact runUp
  · rw [changed]
    intro other member path isPath nonempty
    rcases mem_modifyFirst member with old | ⟨first, inFirst, joins, same⟩
    · exact runUp other old path isPath nonempty
    · subst same
      have samePath : request.path = path := Option.some.inj isPath
      obtain ⟨sourceInGraph, sourceId⟩ := getVertexById_eq_some isSource
      obtain ⟨targetInGraph, targetId⟩ := getVertexById_eq_some isTarget
      rw [← samePath] at nonempty ⊢
      exact (distinct.runsUp_of_joins inFirst joins).mpr
        (runsUp source sourceInGraph target targetInGraph sourceId
          targetId nonempty)

theorem PathsRunUp.clear
    (runUp : PathsRunUp graph) :
    PathsRunUp (serverStep graph .clear) := by
  refine PathsRunUp.of_edges
    (show SamePlaces (serverStep graph .clear) graph from rfl) runUp ?_
  intro edge member path isPath _
  obtain ⟨old, inOld, isEdge⟩ := List.mem_map.mp member
  subst isEdge
  refine ⟨old, inOld, rfl, rfl, ?_⟩
  simp only [StoredEdge.mapProperties, clearPath] at isPath
  split at isPath
  · exact isPath
  · cases isPath

variable [LinearOrder K]

theorem path_reloadedEdge
    {props : EdgeProperties K}
    {path : List (Coords K)}
    (isPath : (reloadedEdge props).path = some path) :
    props.path = some path := by
  unfold reloadedEdge at isPath
  split at isPath
  · exact (nonemptyList_eq_some isPath).1
  · cases isPath

theorem PathsRunUp.received
    (toFloat : K → K)
    (distinct : DistinctIds graph)
    (runUp : PathsRunUp graph) :
    ∃ received,
      readTopomap (getTopologicalMap toFloat graph).topomap =
          some received ∧
        SamePlaces received graph ∧
        PathsRunUp received ∧
        NoEmptyPaths received := by
  obtain ⟨received, isReceived, vertices, edges⟩ :=
    readTopomap_getTopologicalMap toFloat graph distinct
  have same : SamePlaces received graph := by
    rw [SamePlaces, vertices, List.map_map]
    rfl
  refine ⟨received, isReceived, same, PathsRunUp.of_edges same runUp ?_, ?_⟩
  · intro edge member path isPath _
    rw [edges] at member
    obtain ⟨old, inOld, isEdge⟩ := List.mem_map.mp member
    subst isEdge
    exact ⟨old, inOld, rfl, rfl, (nonemptyList_eq_some isPath).1⟩
  · intro edge member isEmpty
    rw [edges] at member
    obtain ⟨old, inOld, isEdge⟩ := List.mem_map.mp member
    subst isEdge
    exact (nonemptyList_eq_some isEmpty).2 rfl

variable [IntegerPart K]

theorem PathsRunUp.saved
    (distinct : DistinctIds graph)
    (runUp : PathsRunUp graph)
    {saved : TopologicalGraph K}
    (isSaved : readSaved graph = some saved) :
    PathsRunUp saved := by
  obtain ⟨vertices, edges⟩ := readSaved_eq_some distinct isSaved
  have same : SamePlaces saved graph := by
    rw [SamePlaces, vertices, List.map_map]
    rfl
  refine PathsRunUp.of_edges same runUp ?_
  intro edge member path isPath _
  rw [edges] at member
  obtain ⟨old, inOld, isEdge⟩ := List.mem_map.mp member
  subst isEdge
  exact ⟨old, inOld, rfl, rfl, path_reloadedEdge isPath⟩

end Server

section PrePlanning

variable
  {K : Type} [Field K] [LinearOrder K]
  {secondLevelPlanner : SecondLevelPlanner K}
  {graph : TopologicalGraph K}

/-- The edges that pre-planning selects do not fall. -/
def SelectionRises
    (graph : TopologicalGraph K)
    (forceReplan : Bool) : Prop :=
  ∀ edge ∈ edgesToPlan graph forceReplan,
    (graph.node edge.source).id ≤ (graph.node edge.target).id

theorem prePlan_updates_runUp
    (distinct : DistinctIds graph)
    (faithful : RunsBetween secondLevelPlanner)
    {forceReplan : Bool}
    (rising : SelectionRises graph forceReplan)
    {update : UpdateEdgeDataRequest K}
    (member :
      update ∈
        (executePrePlanImpl secondLevelPlanner graph
          forceReplan).updates) :
    UpdateRunsUp graph update := by
  obtain ⟨info, edge, calls, floor, room, sent⟩ :=
    mem_updates_executePrePlanImpl member
  have selected := sent.selected
  have isSource := sent.sourceId
  have isTarget := sent.targetId
  have runs := faithful _ _ _ _ _ _ sent.path
  have valid := graph.endsValid info (List.mem_of_mem_filter selected)
  intro u uInGraph v vInGraph sourceId targetId _
  have isU : u = info.source :=
    distinct.vertex_eq uInGraph valid.1 (sourceId.trans isSource)
  have isV : v = info.target :=
    distinct.vertex_eq vInGraph valid.2 (targetId.trans isTarget)
  rw [isU, isV]
  by_cases same : info.source = info.target
  · rw [same] at runs ⊢
    rw [RunsUp, if_neg Int32.lt_irrefl]
    exact runs
  · have apart :
        (graph.node info.source).id ≠ (graph.node info.target).id :=
      fun sameId => same (distinct.vertex_eq valid.1 valid.2 sameId)
    rw [RunsUp,
      if_pos (Int32.lt_of_le_of_ne (rising info selected) apart)]
    exact runs

end PrePlanning

section Extended

/-- The ids of start and goal come after all ids if they do not overflow. -/
theorem toInt_virtualIds
    {maxNodeId : Int32}
    (idsLeft : maxNodeId.toInt + 2 ≤ Int32.maxValue.toInt) :
    (maxNodeId + 1).toInt = maxNodeId.toInt + 1 ∧
      (maxNodeId + 2).toInt = maxNodeId.toInt + 2 := by
  have low := maxNodeId.minValue_le_toInt
  have largest : Int32.maxValue.toInt = 2 ^ 31 - 1 := by decide
  have smallest : Int32.minValue.toInt = -2 ^ 31 := by decide
  rw [largest] at idsLeft
  rw [smallest] at low
  constructor
  · rw [Int32.toInt_add]
    exact Int.bmod_eq_of_le (by simp; omega) (by simp; omega)
  · rw [Int32.toInt_add]
    exact Int.bmod_eq_of_le (by simp; omega) (by simp; omega)

theorem le_largestId
    {ids : List Int32}
    {id : Int32}
    (member : id ∈ ids) :
    id ≤ TopologicalMap.largestId ids := by
  have grows
      (ids : List Int32) :
      ∀ start,
        start ≤ ids.foldl
            (fun largest id => if largest < id then id else largest)
            start ∧
          ∀ id ∈ ids,
            id ≤ ids.foldl
              (fun largest id => if largest < id then id else largest)
              start := by
    induction ids with
    | nil =>
        intro start
        exact ⟨Int32.le_refl _, fun id isId => (by cases isId)⟩
    | cons first rest inductionHypothesis =>
        intro start
        obtain ⟨above, restAbove⟩ :=
          inductionHypothesis (if start < first then first else start)
        have bounds :
            start ≤ (if start < first then first else start) ∧
              first ≤ (if start < first then first else start) := by
          split
          · rename_i below
            exact ⟨Int32.le_of_lt below, Int32.le_refl _⟩
          · rename_i notBelow
            exact ⟨Int32.le_refl _, Int32.not_lt.mp notBelow⟩
        refine ⟨Int32.le_trans bounds.1 above, ?_⟩
        intro id isId
        rcases List.mem_cons.mp isId with isFirst | inRest
        · rw [isFirst]
          exact Int32.le_trans bounds.2 above
        · exact restAbove id inRest
  exact (grows ids (-1)).2 id member

variable
  {K : Type} [Field K]
  {topologicalMap : TopologicalMap K}

/-- What the planner's map has to be like for a query. -/
structure MapFits
    [LinearOrder K]
    (topologicalMap : TopologicalMap K)
    (plan : PlanRequest K) : Prop where
  rising : EdgesRise plan topologicalMap.graph
  /-- No node is taken for a leftover of an earlier query. -/
  clean :
    ∀ vertex < topologicalMap.graph.numVertices,
      isStale (topologicalMap.graph.node vertex) = false
  /-- The ids of start and goal do not overflow. -/
  idsLeft :
    topologicalMap.maxNodeId.toInt + 2 ≤ Int32.maxValue.toInt

/-- The planner's map keeps all paths running up. -/
structure MapOriented
    (topologicalMap : TopologicalMap K) : Prop where
  distinct : DistinctIds topologicalMap.graph
  runUp : PathsRunUp topologicalMap.graph
  noEmpty : NoEmptyPaths topologicalMap.graph
  maxNodeId :
    topologicalMap.maxNodeId =
      TopologicalMap.largestId
        (topologicalMap.graph.vertices.map NodeProperties.id)

variable
  {materialized : TopologicalGraph K}
  (extended : Extends topologicalMap materialized)
  (oriented : MapOriented topologicalMap)

include extended oriented

theorem Extends.runUp :
    PathsRunUp materialized := by
  obtain ⟨virtualEdges, isEdges, virtualEnds⟩ := extended.edges
  intro edge member path isPath nonempty
  rw [isEdges, List.mem_append] at member
  rcases member with old | isVirtual
  · have valid := topologicalMap.graph.endsValid edge old
    rw [extended.node _ valid.1, extended.node _ valid.2]
    exact oriented.runUp edge old path isPath nonempty
  · rw [(virtualEnds edge isVirtual).1] at isPath
    cases isPath

theorem Extends.noEmpty :
    NoEmptyPaths materialized := by
  obtain ⟨virtualEdges, isEdges, virtualEnds⟩ := extended.edges
  intro edge member isEmpty
  rw [isEdges, List.mem_append] at member
  rcases member with old | isVirtual
  · exact oriented.noEmpty edge old isEmpty
  · rw [(virtualEnds edge isVirtual).1] at isEmpty
    cases isEmpty

variable
  [LinearOrder K] {plan : PlanRequest K}
  (fits : MapFits topologicalMap plan)

include fits

/-- Ids rise from the old vertices to start and goal. -/
theorem Extends.id_lt
    {u v : Nat}
    (below : u < v)
    (isVirtual : topologicalMap.graph.numVertices ≤ v)
    (inGraph : v < materialized.numVertices) :
    (materialized.node u).id < (materialized.node v).id := by
  have ids := toInt_virtualIds fits.idsLeft
  have isV :
      v = topologicalMap.graph.numVertices ∨
        v = topologicalMap.graph.numVertices + 1 := by
    have size := extended.numVertices
    omega
  rw [Int32.lt_iff_toInt_lt]
  by_cases isOld : u < topologicalMap.graph.numVertices
  · have small :
        (materialized.node u).id ≤ topologicalMap.maxNodeId := by
      rw [extended.node u isOld, oriented.maxNodeId]
      refine le_largestId (List.mem_map_of_mem ?_)
      have inList : u < topologicalMap.graph.vertices.length := isOld
      simp [TopologicalGraph.node, inList]
    rw [Int32.le_iff_toInt_le] at small
    rcases isV with isStart | isGoal
    · rw [isStart, extended.startId]
      omega
    · rw [isGoal, extended.goalId]
      omega
  · have isU : u = topologicalMap.graph.numVertices := by
      omega
    have isGoal : v = topologicalMap.graph.numVertices + 1 := by
      omega
    rw [isU, isGoal, extended.startId, extended.goalId]
    omega

theorem Extends.distinct :
    DistinctIds materialized := by
  unfold DistinctIds
  rw [List.nodup_iff_getElem?_ne_getElem?]
  intro u v below inList
  rw [List.length_map] at inList
  have idAt
      {vertex : Nat}
      (inGraph : vertex < materialized.vertices.length) :
      (materialized.vertices.map NodeProperties.id)[vertex]? =
        some (materialized.node vertex).id := by
    simp [TopologicalGraph.node, inGraph]
  rw [idAt (below.trans inList), idAt inList, Ne, Option.some_inj]
  by_cases isOld : v < topologicalMap.graph.numVertices
  · intro sameId
    rw [extended.node u (below.trans isOld), extended.node v isOld]
      at sameId
    have same :=
      oriented.distinct.vertex_eq (below.trans isOld) isOld sameId
    omega
  · intro sameId
    have rising :=
      extended.id_lt oriented fits below (Nat.le_of_not_lt isOld) inList
    rw [sameId] at rising
    exact Int32.lt_irrefl rising

/-- The edges to start and goal rise too. -/
theorem Extends.rising :
    EdgesRise plan materialized := by
  obtain ⟨virtualEdges, isEdges, virtualEnds⟩ := extended.edges
  intro u v edge found planned below
  obtain ⟨uEnabled, vEnabled, isEdge⟩ := filteredEdge?_eq_some.mp found
  obtain ⟨member, joined⟩ := TopologicalGraph.edge?_eq_some isEdge
  have valid :
      edge.source < materialized.numVertices ∧
        edge.target < materialized.numVertices :=
    materialized.endsValid edge member
  have ends := StoredEdge.joins_iff.mp joined
  rw [TopologicalGraph.edge?, isEdges, List.find?_append,
    Option.or_eq_some_iff] at isEdge
  rcases isEdge with old | ⟨-, isVirtual⟩
  · have oldMember := List.mem_of_find?_eq_some old
    have oldValid :
        edge.source < topologicalMap.graph.numVertices ∧
          edge.target < topologicalMap.graph.numVertices :=
      topologicalMap.graph.endsValid edge oldMember
    rw [extended.node u (by omega), extended.node v (by omega)]
    exact fits.rising u v edge
      (filteredEdge?_eq_some.mpr ⟨uEnabled, vEnabled, old⟩) planned below
  · have source :=
      (virtualEnds edge (List.mem_of_find?_eq_some isVirtual)).2
    exact extended.id_lt oriented fits below (by omega) (by omega)

end Extended

section Queries

variable
  {K : Type} [Field K] [SquareRoot K]
  {topologicalMap : TopologicalMap K}

variable [LinearOrder K] (pathQuery : PathQuery K)

/-- What answering a query leaves behind. -/
theorem PathQuery.oriented
    (oriented : MapOriented topologicalMap)
    (fits : MapFits topologicalMap pathQuery.plan)
    (faithful : RunsBetween pathQuery.plan.secondLevelPlanner)
    (startInGraph :
      pathQuery.startRoom < topologicalMap.graph.numVertices)
    (endInGraph :
      pathQuery.endRoom < topologicalMap.graph.numVertices)
    {outcome : PlanOutcome K}
    (run : pathQuery.outcome topologicalMap = some outcome) :
    OrientedOutcome (pathQuery.request topologicalMap)
        (pathQuery.materialized topologicalMap).graph outcome ∧
      (pathQuery.plannerAfter topologicalMap outcome).graph.vertices =
        topologicalMap.graph.vertices ∧
      MapOriented (pathQuery.plannerAfter topologicalMap outcome) ∧
      ∀ update ∈ outcome.updates,
        UpdateRunsUp topologicalMap.graph update := by
  have extended :=
    pathQuery.extends fits.clean startInGraph endInGraph
  have plansFaithful :
      RunsBetween
        (pathQuery.request topologicalMap).secondLevelPlanner :=
    faithful
  have rising :
      EdgesRise (pathQuery.request topologicalMap)
        (pathQuery.materialized topologicalMap).graph :=
    fun u v edge found =>
      extended.rising oriented fits u v edge found
  have planned : OrientedOutcome (pathQuery.request topologicalMap)
      (pathQuery.materialized topologicalMap).graph outcome :=
    planTopomapPath_oriented (extended.distinct oriented fits)
      rising plansFaithful
      (extended.runUp oriented) (extended.noEmpty oriented) run
  have fit :=
    createVirtualNodes_fit topologicalMap pathQuery.startCoords
      pathQuery.endCoords pathQuery.plan.penalizeZMovement
      startInGraph endInGraph
  obtain ⟨vertices, edges⟩ :=
    destroy_of_sameShape fit fits.clean planned.shape
  have sameNode
      (vertex : Nat) :
      (pathQuery.plannerAfter topologicalMap outcome).graph.node vertex =
        topologicalMap.graph.node vertex :=
    congrArg (fun nodes => nodes.getD vertex default) vertices
  have fromOutcome
      {edge : StoredEdge K}
      (member :
        edge ∈
          (pathQuery.plannerAfter topologicalMap outcome).graph.edges) :
      edge ∈ outcome.graph.edges := by
    refine List.mem_of_mem_take (i := topologicalMap.graph.edges.length) ?_
    rw [← edges]
    exact member
  refine ⟨planned, vertices, ⟨?_, ?_, ?_, ?_⟩, ?_⟩
  · rw [DistinctIds]
    exact (congrArg (fun nodes => (nodes.map NodeProperties.id).Nodup)
      vertices).mpr oriented.distinct
  · intro edge member path isPath nonempty
    have valid :
        edge.source < topologicalMap.graph.numVertices ∧
          edge.target < topologicalMap.graph.numVertices := by
      have ends :=
        (pathQuery.plannerAfter topologicalMap outcome).graph.endsValid
          edge member
      have sameLength := congrArg List.length vertices
      exact ⟨ends.1.trans_eq sameLength, ends.2.trans_eq sameLength⟩
    have runs :=
      planned.runUp edge (fromOutcome member) path isPath nonempty
    rw [planned.shape.node, planned.shape.node, extended.node _ valid.1,
      extended.node _ valid.2] at runs
    rw [sameNode, sameNode]
    exact runs
  · intro edge member
    exact planned.noEmpty edge (fromOutcome member)
  · have sameIds :=
      congrArg
        (fun nodes =>
          TopologicalMap.largestId (nodes.map NodeProperties.id))
        vertices
    exact oriented.maxNodeId.trans sameIds.symm
  · intro update isUpdate u uInGraph v vInGraph sourceId targetId nonempty
    have size := extended.numVertices
    have runs :=
      planned.updates update isUpdate u (by omega) v (by omega)
        (by rw [extended.node u uInGraph]; exact sourceId)
        (by rw [extended.node v vInGraph]; exact targetId) nonempty
    rw [extended.node u uInGraph, extended.node v vInGraph] at runs
    exact runs

end Queries

section Runs

variable
  {K : Type} [Field K] [LinearOrder K] [SquareRoot K] [IntegerPart K]
  {toFloat : K → K}
  {state next : System K}

/-- All paths of the server, its file, the planner and requests run up. -/
structure SystemOriented
    (state : System K) : Prop where
  placed : SystemPlaced state
  server : PathsRunUp state.server
  file : ∀ saved, state.file = some saved → PathsRunUp saved
  planner :
    0 < state.planner.graph.numVertices →
      SamePlaces state.planner.graph state.server ∧
        MapOriented state.planner
  inFlight :
    ∀ request ∈ state.inFlight, UpdateRunsUp state.server request

/-- The steps after which all paths still run up. -/
def StepRunsUp
    (state : System K) : SystemEvent K → Prop
  | .query pathQuery =>
      RunsBetween pathQuery.plan.secondLevelPlanner ∧
        MapFits state.planner pathQuery.plan
  | .prePlan secondLevelPlanner forceReplan =>
      RunsBetween secondLevelPlanner ∧
        SelectionRises state.planner.graph forceReplan
  | .send request => UpdateRunsUp state.server request
  | _ => True

theorem SystemOriented.step
    (oriented : SystemOriented state)
    {event : SystemEvent K}
    (fits : StepRunsUp state event)
    (isNext : systemStep toFloat state event = some next) :
    SystemOriented next := by
  have distinct := oriented.placed.distinct
  obtain ⟨placed, same⟩ := oriented.placed.step isNext
  have taken := stepTaken_of_systemStep isNext
  clear isNext
  -- The server's graph is replaced by one with the same places.
  have served
      (runUp : PathsRunUp next.server)
      (sameFile : next.file = state.file)
      (samePlanner : next.planner = state.planner)
      (sent : ∀ request ∈ next.inFlight, request ∈ state.inFlight) :
      SystemOriented next := by
    refine ⟨placed, runUp, ?_, ?_, ?_⟩
    · rw [sameFile]
      exact oriented.file
    · rw [samePlanner]
      intro nonempty
      obtain ⟨places, planner⟩ := oriented.planner nonempty
      exact ⟨places.trans same.symm, planner⟩
    · intro request isSent
      have back : SamePlaces state.server next.server := same.symm
      exact back.updateRunsUp
        (oriented.inFlight request (sent request isSent))
  cases taken with
  | replicate =>
      obtain ⟨received, isReceived, samePlaces, runUp, noEmpty⟩ :=
        oriented.server.received toFloat distinct
      refine ⟨placed, oriented.server, oriented.file, ?_,
        oriented.inFlight⟩
      simp only [TopologicalMap.loadFromMessage, isReceived]
      intro _
      exact ⟨samePlaces, samePlaces.distinct distinct, runUp, noEmpty, rfl⟩
  | refused pathQuery => exact oriented
  | @query pathQuery outcome startInGraph endInGraph isOutcome =>
      obtain ⟨places, planner⟩ :=
        oriented.planner (Nat.zero_lt_of_lt startInGraph)
      obtain ⟨-, vertices, after, updates⟩ :=
        pathQuery.oriented planner fits.2 fits.1 startInGraph endInGraph
          isOutcome
      refine ⟨placed, oriented.server, oriented.file, ?_,
        List.forall_mem_append.mpr ⟨oriented.inFlight, ?_⟩⟩
      · intro _
        refine ⟨?_, after⟩
        rw [SamePlaces, vertices]
        exact places
      · intro update isUpdate
        exact places.updateRunsUp (updates update isUpdate)
  | prePlan secondLevelPlanner forceReplan =>
      refine ⟨placed, oriented.server, oriented.file, oriented.planner,
        List.forall_mem_append.mpr ⟨oriented.inFlight, ?_⟩⟩
      intro update isUpdate
      obtain ⟨places, planner⟩ :=
        oriented.planner (numVertices_pos_of_mem_updates isUpdate)
      exact places.updateRunsUp
        (prePlan_updates_runUp planner.distinct fits.1 fits.2 isUpdate)
  | send request =>
      refine ⟨placed, oriented.server, oriented.file, oriented.planner,
        List.forall_mem_append.mpr ⟨oriented.inFlight, ?_⟩⟩
      exact List.forall_mem_singleton.mpr fits
  | missing index => exact oriented
  | @deliver _ request isRequest =>
      have runUp :=
        oriented.server.update distinct
          (oriented.inFlight request (List.mem_of_getElem? isRequest))
      exact served runUp rfl rfl
        (fun _ isOther => List.mem_of_mem_eraseIdx isOther)
  | clear =>
      exact served oriented.server.clear rfl rfl (fun _ isSent => isSent)
  | save =>
      exact ⟨placed, oriented.server,
        fun _ isSaved => oriented.server.saved distinct isSaved,
        oriented.planner, oriented.inFlight⟩
  | reload =>
      refine served ?_ rfl rfl (fun _ isSent => isSent)
      cases isFile : state.file with
      | none => exact oriented.server
      | some saved => exact oriented.file saved isFile

/--
In every run whose steps keep the direction of paths, the detailed path of
every query is made of blocks that run along the coarse edges.  No block is
missing if the edges at the start vertex are not parallel.
-/
theorem detailedPaths_run_along
    (server : TopologicalGraph K)
    (distinct : DistinctIds server)
    (runUp : PathsRunUp server)
    (events : List (SystemEvent K))
    (fits :
      ∀ step ∈ systemSteps toFloat (System.start server) events,
        StepRunsUp step.1 step.2)
    {state : System K}
    {pathQuery : PathQuery K}
    (isStep :
      (state, SystemEvent.query pathQuery) ∈
        systemSteps toFloat (System.start server) events)
    (startInGraph :
      pathQuery.startRoom < state.planner.graph.numVertices)
    (endInGraph : pathQuery.endRoom < state.planner.graph.numVertices)
    {outcome : PlanOutcome K}
    (isOutcome : pathQuery.outcome state.planner = some outcome) :
    outcome.result.detailedPath =
        (coarseEdges outcome.result.coarsePath).flatMap
          (appendedBlock outcome.graph pathQuery.plan.disabledVertices) ∧
      (∀ ends ∈ coarseEdges outcome.result.coarsePath,
        appendedBlock outcome.graph pathQuery.plan.disabledVertices
            ends ≠ [] →
          BlockRuns outcome.graph pathQuery.plan.disabledVertices ends) ∧
      ((filteredTargets (pathQuery.materialized state.planner).graph
          pathQuery.plan.disabledVertices
          (pathQuery.materialized state.planner).startVertex).Nodup →
        ∀ ends ∈ coarseEdges outcome.result.coarsePath,
          BlockRuns outcome.graph pathQuery.plan.disabledVertices
            ends) := by
  have initially : SystemOriented (System.start server) := by
    refine ⟨SystemPlaced.start distinct, runUp, ?_, ?_, ?_⟩
    · intro saved isSaved
      rw [← Option.some.inj isSaved]
      exact runUp
    · intro nonempty
      exact absurd nonempty (by simp [System.start,
        TopologicalMap.empty, TopologicalGraph.empty,
        TopologicalGraph.numVertices])
    · intro request isSent
      cases isSent
  have oriented :=
    (system_invariant (fun holds fits step => holds.step fits step)
      events initially fits).1 _ isStep
  have fitsQuery := fits _ isStep
  obtain ⟨-, planner⟩ :=
    oriented.planner (Nat.zero_lt_of_lt startInGraph)
  obtain ⟨planned, -⟩ :=
    pathQuery.oriented planner fitsQuery.2 fitsQuery.1 startInGraph
      endInGraph isOutcome
  exact ⟨planned.detailed, planned.blocks, planned.continuous⟩

end Runs

section Samples

/-- A door of a corridor at a place on the first axis. -/
def passageDoor
    (id : Int32)
    (name : String)
    (x : ℚ) : NodeProperties ℚ :=
  { NodeProperties.unset with
    id := id
    name := name
    type := "transition"
    position := ⟨x, 0, 0⟩
    floor := some ["ground"] }

def passageRoom
    (id : Int32)
    (name : String) : NodeProperties ℚ :=
  { NodeProperties.unset with
    id := id
    name := name
    type := "room"
    floor := some ["ground"] }

/-- Three rooms in a row with the given ids for the two doors. -/
def passageMap
    (leftId rightId : Int32) : TopologicalGraph ℚ where
  vertices :=
    [passageDoor leftId "left" 1, passageDoor rightId "right" 2,
      passageRoom 5 "west", passageRoom 6 "corridor",
      passageRoom 7 "east"]
  edges :=
    [⟨0, 2, { EdgeProperties.unset with id := 0, type := "room" }⟩,
      ⟨0, 3, { EdgeProperties.unset with id := 1, type := "room" }⟩,
      ⟨1, 3, { EdgeProperties.unset with id := 2, type := "room" }⟩,
      ⟨1, 4, { EdgeProperties.unset with id := 3, type := "room" }⟩,
      ⟨0, 1,
        { EdgeProperties.unset with
          id := 4
          type := "transition"
          roomId := some 6
          estimatedDistance := 1
          estimatedCost := 1 }⟩]
  endsValid := by simp

/-- Every plan is the straight line. -/
def straightPlanner : SecondLevelPlanner ℚ :=
  fun _ _ _ first last =>
    { path := some [first, last], distance := 1, cost := 1 }

theorem straightPlanner_runs :
    RunsBetween straightPlanner := by
  intro calls floor room first last path isPath
  cases isPath
  exact ⟨rfl, rfl⟩

/-- From the west room to the east room; rooms are disabled. -/
def passageQuery : PathQuery ℚ where
  startRoom := 2
  endRoom := 4
  startCoords := (0, 0, 0)
  endCoords := (3, 0, 0)
  plan :=
    { startVertex := 0
      goalVertex := 0
      secondLevelPlanner := straightPlanner
      disabledVertices := {2, 3, 4}
      updateEdgeClient := true
      penalizeZMovement := 1
      reusePaths := true
      heapOrder := HeapOrder.oldestFirst }

/-- The system after the planner has loaded the map. -/
def passageSystem
    (leftId rightId : Int32) : System ℚ :=
  { System.start (passageMap leftId rightId) with
    planner :=
      (TopologicalMap.empty.loadFromMessage
        (getTopologicalMap id (passageMap leftId rightId)).topomap).2 }

theorem passageSystem_queried
    (leftId rightId : Int32) :
    (passageSystem leftId rightId, SystemEvent.query passageQuery) ∈
      systemSteps id (System.start (passageMap leftId rightId))
        [.replicate, .query passageQuery] :=
  List.mem_cons_of_mem _ List.mem_cons_self

theorem passageMap_runUp
    (leftId rightId : Int32) :
    PathsRunUp (passageMap leftId rightId) := by
  intro edge member path isPath
  have noPath : edge.properties.path = none := by
    simp only [passageMap, List.mem_cons, List.not_mem_nil, or_false]
      at member
    rcases member with rfl | rfl | rfl | rfl | rfl <;> rfl
  rw [noPath] at isPath
  cases isPath

/--
If the left door has the larger id, its edge to the right door is planned from
left to right, and the reconstruction turns it round.
-/
theorem falling_edge_runs_backwards :
    DistinctIds (passageMap 2 1) ∧
      PathsRunUp (passageMap 2 1) ∧
      RunsBetween passageQuery.plan.secondLevelPlanner ∧
      (passageSystem 2 1, SystemEvent.query passageQuery) ∈
        systemSteps id (System.start (passageMap 2 1))
          [.replicate, .query passageQuery] ∧
      ∃ outcome,
        passageQuery.outcome (passageSystem 2 1).planner =
            some outcome ∧
          outcome.result.success = true ∧
          (0, 1) ∈ coarseEdges outcome.result.coarsePath ∧
          appendedBlock outcome.graph
              passageQuery.plan.disabledVertices (0, 1) =
            [(2, 0, 0), (1, 0, 0)] ∧
          ¬ BlockRuns outcome.graph
              passageQuery.plan.disabledVertices (0, 1) := by
  have result :
      (passageQuery.outcome (passageSystem 2 1).planner).map
          (fun outcome =>
            (outcome.result.success,
              decide
                ((0, 1) ∈ coarseEdges outcome.result.coarsePath))) =
        some (true, true) := by
    decide +kernel
  have block :
      (passageQuery.outcome (passageSystem 2 1).planner).map
          (fun outcome =>
            (appendedBlock outcome.graph
                passageQuery.plan.disabledVertices (0, 1),
              (outcome.graph.node 0).position.coords)) =
        some ([(2, 0, 0), (1, 0, 0)], (1, 0, 0)) := by
    decide +kernel
  obtain ⟨outcome, planned, isResult⟩ := Option.map_eq_some_iff.mp result
  rw [planned, Option.map_some, Option.some_inj, Prod.mk.injEq] at block
  rw [Prod.mk.injEq, decide_eq_true_eq] at isResult
  refine ⟨by unfold DistinctIds; decide, passageMap_runUp 2 1,
    straightPlanner_runs, passageSystem_queried 2 1,
    outcome, planned, isResult.1, isResult.2, block.1, ?_⟩
  intro runs
  have first := runs.1
  rw [block.1, block.2] at first
  exact absurd first (by decide)

/-- The replica of the map whose ids are in the order of the doors. -/
theorem passageSystem_graph :
    (passageSystem 1 2).planner.graph.vertices =
        (passageMap 1 2).vertices ∧
      (passageSystem 1 2).planner.graph.edges =
        (passageMap 1 2).edges ∧
      (passageSystem 1 2).planner.maxNodeId = 7 := by
  decide +kernel

/-- With ids in the order of the doors every step fits. -/
theorem passageSystem_fits :
    ∀ step ∈ systemSteps id (System.start (passageMap 1 2))
        [.replicate, .query passageQuery],
      StepRunsUp step.1 step.2 := by
  obtain ⟨vertices, edges, maxNodeId⟩ := passageSystem_graph
  have mapFits :
      MapFits (passageSystem 1 2).planner passageQuery.plan := by
    refine ⟨?_, ?_, ?_⟩
    · intro u v edge found _ below
      obtain ⟨uEnabled, vEnabled, isEdge⟩ :=
        filteredEdge?_eq_some.mp found
      obtain ⟨member, joined⟩ := TopologicalGraph.edge?_eq_some isEdge
      rw [edges] at member
      have isPair : u = 0 ∧ v = 1 := by
        have ends := StoredEdge.joins_iff.mp joined
        simp only [passageQuery, Finset.mem_insert,
          Finset.mem_singleton, not_or] at uEnabled vEnabled
        simp only [passageMap, List.mem_cons, List.not_mem_nil,
          or_false] at member
        rcases member with rfl | rfl | rfl | rfl | rfl <;>
          simp only at ends <;> omega
      rw [isPair.1, isPair.2, TopologicalGraph.node,
        TopologicalGraph.node, vertices]
      decide
    · intro vertex inGraph
      have clean : ∀ node ∈ (passageMap 1 2).vertices,
          isStale node = false := by
        decide
      apply clean
      rw [← vertices]
      have inList :
          vertex < (passageSystem 1 2).planner.graph.vertices.length :=
        inGraph
      simp [TopologicalGraph.node, inList]
    · rw [maxNodeId]
      decide
  have isSteps :
      systemSteps id (System.start (passageMap 1 2))
          [.replicate, .query passageQuery] =
        [(System.start (passageMap 1 2), .replicate),
          (passageSystem 1 2, .query passageQuery)] := by
    change _ :: systemSteps id (passageSystem 1 2) [.query passageQuery] = _
    rw [systemSteps_singleton]
  rw [isSteps]
  simp only [List.forall_mem_cons]
  exact ⟨trivial, ⟨straightPlanner_runs, mapFits⟩, by simp⟩

/-- From node 5 to node 6 through the passage. -/
theorem passageMap_runs_along :
    ∃ outcome,
      passageQuery.outcome (passageSystem 1 2).planner = some outcome ∧
        outcome.result.success = true ∧
        outcome.result.coarsePath = [5, 0, 1, 6] ∧
        ∀ ends ∈ coarseEdges outcome.result.coarsePath,
          BlockRuns outcome.graph passageQuery.plan.disabledVertices
            ends := by
  have result :
      (passageQuery.outcome (passageSystem 1 2).planner).map
          (fun outcome =>
            (outcome.result.success, outcome.result.coarsePath)) =
        some (true, [5, 0, 1, 6]) := by
    decide +kernel
  have distinctTargets :
      (filteredTargets
        (passageQuery.materialized (passageSystem 1 2).planner).graph
        passageQuery.plan.disabledVertices
        (passageQuery.materialized
          (passageSystem 1 2).planner).startVertex).Nodup := by
    decide +kernel
  have size : (passageSystem 1 2).planner.graph.numVertices = 5 := by
    decide +kernel
  obtain ⟨outcome, planned, isResult⟩ := Option.map_eq_some_iff.mp result
  rw [Prod.mk.injEq] at isResult
  refine ⟨outcome, planned, isResult.1, isResult.2, ?_⟩
  exact
    (detailedPaths_run_along (passageMap 1 2)
      (by unfold DistinctIds; decide) (passageMap_runUp 1 2)
      [.replicate, .query passageQuery] passageSystem_fits
      (passageSystem_queried 1 2) (by rw [size]; decide)
      (by rw [size]; decide) planned).2.2 distinctTargets

end Samples

end NavBim
