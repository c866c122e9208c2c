import NavBim.TopologicalMap
import NavBim.TopologicalMapLoader
import NavBim.TopomapPlanner

namespace NavBim

/-!
# The topological map server

The server holds the map.  Clients store planned paths with `UpdateEdgeData`
and drop them with `ClearTopologicalMapPaths`, and the map is written to its
file and loaded again.  The module says which states survive saving and
loading: the writer leaves out zero values and everything planned on edges
other than transition edges, and the reader's defaults differ from that.
-/

open Json

section Server

variable {K : Type} [Field K]

/-- `TopologicalMapUtils::getVertexById`: the first vertex with the id. -/
def getVertexById
    (graph : TopologicalGraph K)
    (nodeId : String) : Option Nat :=
  (List.range graph.numVertices).find? fun vertex =>
    idString (graph.node vertex).id == nodeId

/-- `TopologicalMapUtils::getVertexByName`: the first vertex with the name. -/
def getVertexByName
    (graph : TopologicalGraph K)
    (nodeName : String) : Option Nat :=
  (List.range graph.numVertices).find? fun vertex =>
    (graph.node vertex).name == nodeName

/-- Store the data of a request in an edge. -/
def storeUpdate
    (request : UpdateEdgeDataRequest K)
    (props : EdgeProperties K) : EdgeProperties K :=
  { props with
    plannedDistance := request.plannedDistance
    plannedCost := request.plannedCost
    path := some request.path
    pathFrameId :=
      if request.frameId.isEmpty then "ifc" else request.frameId }

/-- `updateEdgeDataCallback`: the new map, or the message of the failure. -/
def updateEdgeData
    (graph : TopologicalGraph K)
    (request : UpdateEdgeDataRequest K) :
    Except String (TopologicalGraph K) :=
  match getVertexById graph (idString request.sourceId) with
  | none =>
      .error ("Source vertex with ID " ++ idString request.sourceId ++
        " not found")
  | some source =>
      match getVertexById graph (idString request.targetId) with
      | none =>
          .error ("Target vertex with ID " ++ idString request.targetId ++
            " not found")
      | some target =>
          match graph.edge? source target with
          | none =>
              .error ("Edge not found between vertices " ++
                idString request.sourceId ++ " and " ++
                idString request.targetId)
          | some _ =>
              .ok (graph.modifyEdge source target (storeUpdate request))

/-- The edge keeps its path when paths are cleared. -/
def keepsPath
    (props : EdgeProperties K) : Bool :=
  props.type != "transition" || props.subtype.getD "" == "stair"

/-- Drop the planned data of an edge. -/
def clearPath
    (props : EdgeProperties K) : EdgeProperties K :=
  if keepsPath props then
    props
  else
    { props with
      plannedDistance := unplanned
      plannedCost := unplanned
      path := none }

/-- `clearTopologicalMapPathsCallback`: the new map. -/
def clearTopologicalMapPaths
    (graph : TopologicalGraph K) : TopologicalGraph K where
  vertices := graph.vertices
  edges := graph.edges.map (StoredEdge.mapProperties clearPath)
  endsValid := by
    intro edge member
    obtain ⟨old, inOld, isEdge⟩ := List.mem_map.mp member
    rw [← isEdge]
    exact graph.endsValid old inOld

/-- A request that changes the map. -/
inductive ServerEvent (K : Type) where
  | update (request : UpdateEdgeDataRequest K)
  | clear

/-- The map after a request; a failed request leaves it unchanged. -/
def serverStep
    (graph : TopologicalGraph K) : ServerEvent K → TopologicalGraph K
  | .update request =>
      match updateEdgeData graph request with
      | .ok updated => updated
      | .error _ => graph
  | .clear => clearTopologicalMapPaths graph

/-- All states of the server while it handles a list of requests. -/
def serverStates
    (graph : TopologicalGraph K) :
    List (ServerEvent K) → List (TopologicalGraph K)
  | [] => [graph]
  | event :: rest => graph :: serverStates (serverStep graph event) rest

end Server

section Content

variable {K : Type} [Field K]

/-- The data of a node that saving has to keep. -/
def nodeContent
    (props : NodeProperties K) : NodeProperties K :=
  { props with ifcGuid := none }

/-- The data of an edge that saving has to keep; no path is an empty path. -/
def edgeContent
    (props : EdgeProperties K) : EdgeProperties K :=
  { props with
    path := some (props.path.getD [])
    pathFrameId := "ifc" }

/-- Two graphs have the same nodes and edges in the same order. -/
def SameContent
    (first second : TopologicalGraph K) : Prop :=
  first.vertices.map nodeContent = second.vertices.map nodeContent ∧
    first.edges.map (StoredEdge.mapProperties edgeContent) =
      second.edges.map (StoredEdge.mapProperties edgeContent)

variable [DecidableEq K] [IntegerPart K]

/-- Saving and loading the graph loses nothing. -/
def Reloads
    (graph : TopologicalGraph K) : Prop :=
  ∃ reloaded,
    loadFromJson (toJson graph) = some reloaded ∧
      SameContent reloaded graph

end Content

section Saveable

variable {K : Type}

/-- Nothing of the node is left out when it is saved. -/
structure SaveableNode
    (props : NodeProperties K) : Prop where
  subtype : props.subtype ≠ some ""
  floor : props.floor ≠ some []
  holes : ∀ polygon ∈ props.polygon, polygon.inners = []

theorem nonemptyText_eq_iff
    {text : Option String} :
    nonemptyText text = text ↔ text ≠ some "" := by
  cases text with
  | none =>
      simp [nonemptyText]
  | some text =>
      simp only [nonemptyText, ne_eq, Option.some.injEq]
      split
      · rename_i isEmpty
        simp [String.isEmpty_iff.mp isEmpty]
      · rename_i notEmpty
        simp only [true_iff]
        intro isEmpty
        exact notEmpty (String.isEmpty_iff.mpr isEmpty)

theorem nonemptyList_eq_iff
    {α : Type}
    {items : Option (List α)} :
    nonemptyList items = items ↔ items ≠ some [] := by
  match items with
  | none => simp [nonemptyList]
  | some [] => simp [nonemptyList]
  | some (first :: rest) => simp [nonemptyList]

@[simp] theorem getD_nonemptyList
    {α : Type}
    (items : Option (List α)) :
    (nonemptyList items).getD [] = items.getD [] := by
  match items with
  | none => rfl
  | some [] => rfl
  | some (_ :: _) => rfl

theorem nodeContent_reloadedNode_iff
    (props : NodeProperties K) :
    nodeContent (reloadedNode props) = nodeContent props ↔
      SaveableNode props := by
  have polygonIff :
      (props.polygon.map fun polygon =>
          (⟨polygon.outer, []⟩ : Polygon K)) = props.polygon ↔
        ∀ polygon ∈ props.polygon, polygon.inners = [] := by
    cases props.polygon with
    | none =>
        simp
    | some polygon =>
        obtain ⟨outer, inners⟩ := polygon
        simp [eq_comm]
  constructor
  · intro same
    simp only [nodeContent, reloadedNode, NodeProperties.mk.injEq,
      true_and] at same
    exact ⟨nonemptyText_eq_iff.mp same.1,
      nonemptyList_eq_iff.mp same.2.2, polygonIff.mp same.2.1⟩
  · intro saveable
    simp only [nodeContent, reloadedNode, NodeProperties.mk.injEq,
      true_and]
    exact ⟨nonemptyText_eq_iff.mpr saveable.subtype,
      polygonIff.mpr saveable.holes,
      nonemptyList_eq_iff.mpr saveable.floor⟩

variable [Field K]

/-- The planned data fit the type of the edge. -/
def PlanFits
    (type : String)
    (plannedDistance plannedCost : WithTop K)
    (path : List (Coords K)) : Prop :=
  if type = "transition" then
    plannedDistance ≠ 0 ∧ plannedCost ≠ 0
  else
    plannedDistance = unplanned ∧ plannedCost = unplanned ∧ path = []

/-- Nothing of the edge is left out when it is saved. -/
structure SaveableEdge
    (props : EdgeProperties K) : Prop where
  subtype : props.subtype ≠ some ""
  estimates :
    props.type = "transition" ∨
      (props.estimatedDistance = 0 ∧ props.estimatedCost = 0)
  plan :
    PlanFits props.type props.plannedDistance props.plannedCost
      (props.path.getD [])

/-- All nodes and edges are written completely. -/
structure Saveable
    (graph : TopologicalGraph K) : Prop where
  nodes : ∀ node ∈ graph.vertices, SaveableNode node
  edges : ∀ edge ∈ graph.edges, SaveableEdge edge.properties

variable [DecidableEq K]

theorem reloadedPlan_eq_iff
    [CharZero K]
    {value : WithTop K} :
    reloadedPlan value = value ↔ value ≠ 0 := by
  unfold reloadedPlan
  split
  · rename_i nonzero
    simp [nonzero]
  · rename_i isZero
    rw [not_not] at isZero
    rw [isZero]
    simp only [ne_eq, not_true_eq_false, iff_false]
    intro same
    have minusOne : (-1 : K) = 0 := WithTop.coe_injective same
    exact absurd minusOne (by norm_num)

theorem edgeContent_reloadedEdge_iff
    [CharZero K]
    (props : EdgeProperties K) :
    edgeContent (reloadedEdge props) = edgeContent props ↔
      SaveableEdge props := by
  by_cases transition : props.type = "transition"
  · simp only [edgeContent, reloadedEdge, transition, ↓reduceIte,
      EdgeProperties.mk.injEq, true_and, and_true, getD_nonemptyList]
    constructor
    · rintro ⟨subtype, distance, cost⟩
      refine ⟨nonemptyText_eq_iff.mp subtype, Or.inl transition, ?_⟩
      rw [PlanFits, if_pos transition]
      exact ⟨reloadedPlan_eq_iff.mp distance,
        reloadedPlan_eq_iff.mp cost⟩
    · intro saveable
      have plan := saveable.plan
      rw [PlanFits, if_pos transition] at plan
      exact ⟨nonemptyText_eq_iff.mpr saveable.subtype,
        reloadedPlan_eq_iff.mpr plan.1, reloadedPlan_eq_iff.mpr plan.2⟩
  · simp only [edgeContent, reloadedEdge, transition, ↓reduceIte,
      EdgeProperties.unset, EdgeProperties.mk.injEq, true_and, and_true]
    constructor
    · rintro ⟨subtype, estimatedDistance, distance, estimatedCost, cost,
        path⟩
      refine ⟨nonemptyText_eq_iff.mp subtype,
        Or.inr ⟨estimatedDistance.symm, estimatedCost.symm⟩, ?_⟩
      rw [PlanFits, if_neg transition]
      exact ⟨distance.symm, cost.symm, by simpa using path.symm⟩
    · intro saveable
      have plan := saveable.plan
      rw [PlanFits, if_neg transition] at plan
      have estimates := saveable.estimates.resolve_left transition
      exact ⟨nonemptyText_eq_iff.mpr saveable.subtype,
        estimates.1.symm, plan.1.symm, estimates.2.symm, plan.2.1.symm,
        by simp [plan.2.2]⟩

variable [IntegerPart K]

/-- A graph with distinct ids survives saving exactly when it is saveable. -/
theorem reloads_iff_saveable
    [CharZero K]
    (graph : TopologicalGraph K)
    (distinct : (graph.vertices.map NodeProperties.id).Nodup) :
    Reloads graph ↔ Saveable graph := by
  obtain ⟨reloaded, isReloaded, vertices, edges⟩ :=
    loadFromJson_toJson graph distinct
  have contentIff :
      SameContent reloaded graph ↔ Saveable graph := by
    unfold SameContent
    rw [vertices, edges, List.map_map, List.map_map]
    constructor
    · rintro ⟨sameNodes, sameEdges⟩
      rw [List.map_inj_left] at sameNodes sameEdges
      refine ⟨?_, ?_⟩
      · intro node member
        exact (nodeContent_reloadedNode_iff node).mp
          (sameNodes node member)
      · intro edge member
        exact (edgeContent_reloadedEdge_iff edge.properties).mp
          (congrArg StoredEdge.properties (sameEdges edge member))
    · intro saveable
      rw [List.map_inj_left, List.map_inj_left]
      refine ⟨?_, ?_⟩
      · intro node member
        exact (nodeContent_reloadedNode_iff node).mpr
          (saveable.nodes node member)
      · intro edge member
        have same :=
          (edgeContent_reloadedEdge_iff edge.properties).mpr
            (saveable.edges edge member)
        simp only [Function.comp_apply, StoredEdge.mapProperties, same]
  rw [← contentIff]
  constructor
  · rintro ⟨other, isOther, same⟩
    rw [isReloaded, Option.some_inj] at isOther
    rw [isOther]
    exact same
  · intro same
    exact ⟨reloaded, isReloaded, same⟩

end Saveable

section Run

variable {K : Type} [Field K]

/-- The planned data of an update fit the type of the edge that it finds. -/
def UpdateFits
    (graph : TopologicalGraph K)
    (request : UpdateEdgeDataRequest K) : Prop :=
  ∀ source target edge,
    getVertexById graph (idString request.sourceId) = some source →
    getVertexById graph (idString request.targetId) = some target →
    graph.edge? source target = some edge →
    PlanFits edge.properties.type request.plannedDistance
      request.plannedCost request.path

/-- Every update of a run fits, in the state in which it is made. -/
def UpdatesFit
    (graph : TopologicalGraph K) : List (ServerEvent K) → Prop
  | [] => True
  | .update request :: rest =>
      UpdateFits graph request ∧
        UpdatesFit (serverStep graph (.update request)) rest
  | .clear :: rest => UpdatesFit (serverStep graph .clear) rest

variable {graph : TopologicalGraph K}

/-- What an update does to the map. -/
theorem serverStep_update_cases
    (graph : TopologicalGraph K)
    (request : UpdateEdgeDataRequest K) :
    (serverStep graph (.update request) = graph ∧
        UpdateFits graph request) ∨
      ∃ source target edge,
        getVertexById graph (idString request.sourceId) = some source ∧
          getVertexById graph (idString request.targetId) = some target ∧
          graph.edge? source target = some edge ∧
          serverStep graph (.update request) =
            graph.modifyEdge source target (storeUpdate request) := by
  cases isSource : getVertexById graph (idString request.sourceId) with
  | none =>
      left
      simp [serverStep, updateEdgeData, UpdateFits, isSource]
  | some source =>
      cases isTarget :
          getVertexById graph (idString request.targetId) with
      | none =>
          left
          simp [serverStep, updateEdgeData, UpdateFits, isSource,
            isTarget]
      | some target =>
          cases isEdge : graph.edge? source target with
          | none =>
              left
              constructor
              · simp [serverStep, updateEdgeData, isSource, isTarget,
                  isEdge]
              · intro other next edge isOther isNext found
                rw [isSource, Option.some_inj] at isOther
                rw [isTarget, Option.some_inj] at isNext
                rw [← isOther, ← isNext, isEdge] at found
                exact absurd found (by simp)
          | some edge =>
              right
              refine ⟨source, target, edge, rfl, rfl, isEdge, ?_⟩
              simp [serverStep, updateEdgeData, isSource, isTarget,
                isEdge]

/-- Requests do not change the nodes. -/
theorem vertices_serverStep
    (event : ServerEvent K) :
    (serverStep graph event).vertices = graph.vertices := by
  cases event with
  | update request =>
      rcases serverStep_update_cases graph request with
        ⟨unchanged, -⟩ | ⟨source, target, edge, -, -, -, changed⟩
      · rw [unchanged]
      · rw [changed]
        rfl
  | clear =>
      rfl

theorem SaveableEdge.storeUpdate_iff
    {props : EdgeProperties K}
    (saveable : SaveableEdge props)
    (request : UpdateEdgeDataRequest K) :
    SaveableEdge (storeUpdate request props) ↔
      PlanFits props.type request.plannedDistance request.plannedCost
        request.path := by
  constructor
  · intro stored
    exact stored.plan
  · intro fits
    exact ⟨saveable.subtype, saveable.estimates, fits⟩

theorem Saveable.update_iff
    (saveable : Saveable graph)
    (request : UpdateEdgeDataRequest K) :
    Saveable (serverStep graph (.update request)) ↔
      UpdateFits graph request := by
  rcases serverStep_update_cases graph request with
    ⟨unchanged, fits⟩ |
      ⟨source, target, edge, isSource, isTarget, isEdge, changed⟩
  · rw [unchanged]
    exact iff_of_true saveable fits
  · obtain ⟨member, joins⟩ := TopologicalGraph.edge?_eq_some isEdge
    have stored :=
      (saveable.edges edge member).storeUpdate_iff request
    rw [changed]
    constructor
    · intro saved otherSource otherTarget otherEdge isOtherSource
        isOtherTarget isOtherEdge
      rw [isSource, Option.some_inj] at isOtherSource
      rw [isTarget, Option.some_inj] at isOtherTarget
      subst isOtherSource isOtherTarget
      rw [isEdge, Option.some_inj] at isOtherEdge
      subst isOtherEdge
      have found :
          (graph.modifyEdge source target (storeUpdate request)).edge?
              source target =
            some (edge.mapProperties (storeUpdate request)) := by
        rw [TopologicalGraph.edge?_modifyEdge_same, isEdge]
        rfl
      exact stored.mp
        (saved.edges _ (TopologicalGraph.edge?_eq_some found).1)
    · intro fits
      have edgeFits := fits source target edge isSource isTarget isEdge
      refine ⟨saveable.nodes, ?_⟩
      intro other inOther
      rcases mem_modifyFirst_find inOther with old | ⟨first, found, same⟩
      · exact saveable.edges other old
      · have isFirst : graph.edge? source target = some first := found
        rw [isEdge, Option.some_inj] at isFirst
        rw [same, ← isFirst]
        exact stored.mpr edgeFits

theorem SaveableEdge.clearPath
    [CharZero K]
    {props : EdgeProperties K}
    (saveable : SaveableEdge props) :
    SaveableEdge (clearPath props) := by
  unfold NavBim.clearPath
  split
  · exact saveable
  · rename_i cleared
    simp only [keepsPath, Bool.or_eq_true, bne_iff_ne, not_or,
      ne_eq, not_not] at cleared
    refine ⟨saveable.subtype, saveable.estimates, ?_⟩
    have nonzero : (unplanned : WithTop K) ≠ 0 := by
      intro isZero
      have minusOne : (-1 : K) = 0 := WithTop.coe_injective isZero
      exact absurd minusOne (by norm_num)
    rw [PlanFits, if_pos cleared.1]
    exact ⟨nonzero, nonzero⟩

theorem Saveable.clear
    [CharZero K]
    (saveable : Saveable graph) :
    Saveable (serverStep graph .clear) := by
  refine ⟨saveable.nodes, ?_⟩
  intro edge member
  obtain ⟨old, inOld, isEdge⟩ := List.mem_map.mp member
  rw [← isEdge]
  exact (saveable.edges old inOld).clearPath

theorem forall_saveable_iff
    [CharZero K]
    (events : List (ServerEvent K)) :
    ∀ graph : TopologicalGraph K,
      (∀ state ∈ serverStates graph events, Saveable state) ↔
        Saveable graph ∧ UpdatesFit graph events := by
  induction events with
  | nil =>
      intro graph
      simp [serverStates, UpdatesFit]
  | cons event rest inductionHypothesis =>
      intro graph
      simp only [serverStates, List.forall_mem_cons, inductionHypothesis]
      refine and_congr_right fun saveable => ?_
      cases event with
      | update request =>
          rw [saveable.update_iff request]
          rfl
      | clear =>
          simp [saveable.clear, UpdatesFit]

/-- All states of a run have the nodes of the first one. -/
theorem vertices_of_mem_serverStates
    (events : List (ServerEvent K)) :
    ∀ {graph state : TopologicalGraph K},
      state ∈ serverStates graph events →
      state.vertices = graph.vertices := by
  induction events with
  | nil =>
      intro graph state member
      rw [serverStates, List.mem_singleton] at member
      rw [member]
  | cons event rest inductionHypothesis =>
      intro graph state member
      rcases List.mem_cons.mp member with isFirst | later
      · rw [isFirst]
      · rw [inductionHypothesis later, vertices_serverStep]

/--
Every state of a run survives saving and loading exactly when the loaded map
is saveable and every update fits the edge that it finds.
-/
theorem save_and_reload_iff
    [CharZero K] [DecidableEq K] [IntegerPart K]
    (graph : TopologicalGraph K)
    (distinct : (graph.vertices.map NodeProperties.id).Nodup)
    (events : List (ServerEvent K)) :
    (∀ state ∈ serverStates graph events, Reloads state) ↔
      Saveable graph ∧ UpdatesFit graph events := by
  rw [← forall_saveable_iff]
  refine forall_congr' fun state => forall_congr' fun member => ?_
  apply reloads_iff_saveable
  rw [vertices_of_mem_serverStates events member]
  exact distinct

end Run

section Samples

/-- A document with two transitions at one place and an edge between them. -/
def pairDocument : Json ℚ :=
  .obj
    [("nodes", .arr
        [.obj [("id", .int 0), ("type", .str "transition")],
          .obj [("id", .int 1), ("type", .str "transition")]]),
      ("links", .arr
        [.obj
          [("id", .int 0), ("source", .int 0), ("target", .int 1),
            ("type", .str "transition")]])]

/-- The map of the document. -/
def pairMap : TopologicalGraph ℚ where
  vertices :=
    [{ NodeProperties.unset with id := 0, type := "transition" },
      { NodeProperties.unset with id := 1, type := "transition" }]
  edges :=
    [⟨0, 1, { EdgeProperties.unset with id := 0, type := "transition" }⟩]
  endsValid := by simp

/-- An update of the edge with a path of one waypoint. -/
def pairUpdate
    (planned : ℚ) : UpdateEdgeDataRequest ℚ where
  sourceId := 0
  targetId := 1
  plannedDistance := planned
  plannedCost := planned
  path := [(0, 0, 0)]
  frameId := "ifc"
  deferSave := false

/-- A planned distance of zero is not written and comes back as unplanned. -/
theorem zero_plan_is_lost :
    loadFromJson pairDocument = some pairMap ∧
      (pairMap.vertices.map NodeProperties.id).Nodup ∧
      ∃ state ∈ serverStates pairMap [.update (pairUpdate 0)],
        ¬Reloads state := by
  refine ⟨rfl, by decide, serverStep pairMap (.update (pairUpdate 0)),
    by simp [serverStates], ?_⟩
  rw [reloads_iff_saveable _ (by decide)]
  intro saveable
  have plan :=
    (saveable.edges
      ⟨0, 1, storeUpdate (pairUpdate 0)
        { EdgeProperties.unset with id := 0, type := "transition" }⟩
      (by decide +kernel)).plan
  exact plan.1 rfl

theorem pairMap_saveable :
    Saveable pairMap := by
  refine ⟨?_, ?_⟩
  · intro node member
    simp only [pairMap, List.mem_cons, List.not_mem_nil, or_false]
      at member
    rcases member with isNode | isNode
    · rw [isNode]
      exact ⟨by decide, by decide, by simp [NodeProperties.unset]⟩
    · rw [isNode]
      exact ⟨by decide, by decide, by simp [NodeProperties.unset]⟩
  · intro edge member
    simp only [pairMap, List.mem_singleton] at member
    rw [member]
    refine ⟨by decide, Or.inl rfl, ?_⟩
    rw [PlanFits, if_pos rfl]
    exact ⟨by decide +kernel, by decide +kernel⟩

theorem pairMap_reloads :
    (pairMap.vertices.map NodeProperties.id).Nodup ∧
      ∀ state ∈ serverStates pairMap [.update (pairUpdate 2), .clear],
        Reloads state := by
  have distinct : (pairMap.vertices.map NodeProperties.id).Nodup := by
    decide
  refine ⟨distinct, ?_⟩
  refine (save_and_reload_iff pairMap distinct
    [.update (pairUpdate 2), .clear]).mpr
      ⟨pairMap_saveable, ?_, trivial⟩
  intro source target edge _ _ isEdge
  obtain ⟨member, -⟩ := TopologicalGraph.edge?_eq_some isEdge
  simp only [pairMap, List.mem_singleton] at member
  rw [member, PlanFits, if_pos rfl]
  exact ⟨by decide +kernel, by decide +kernel⟩

end Samples

end NavBim
