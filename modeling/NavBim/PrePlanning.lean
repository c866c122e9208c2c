import NavBim.TopomapPlanner

namespace NavBim

/-!
# Pre-planning of transition edges

`executePrePlanImpl` plans the transition edges of the map ahead of requests
and sends every path to the topomap server.  It does not touch the planner's
own graph.
-/

section PrePlanning

variable {K : Type} [Field K] [LinearOrder K]

variable
  (graph : TopologicalGraph K)

/-- Edges of type transition between two transition nodes. -/
def isTransitionEdge
    (edge : StoredEdge K) : Bool :=
  edge.properties.type == "transition" &&
    (graph.node edge.source).type == "transition" &&
    (graph.node edge.target).type == "transition"

/-- Stair edges are never planned ahead. -/
def isStairEdge
    (edge : StoredEdge K) : Bool :=
  edge.properties.subtype.getD "" == "stair"

/-- `force_replan || needs_planning`. -/
def needsPlanning
    (forceReplan : Bool)
    (edge : StoredEdge K) : Bool :=
  forceReplan || decide (edge.properties.plannedCost < 0)

/-- `edges_to_plan`: the edges that a run attempts, in the order of the map. -/
def edgesToPlan
    (forceReplan : Bool) : List (StoredEdge K) :=
  graph.edges.filter fun edge =>
    isTransitionEdge graph edge && !isStairEdge edge &&
      needsPlanning forceReplan edge

/-- The number of transition edges that are left out. -/
def edgesSkipped
    (forceReplan : Bool) : Nat :=
  graph.edges.countP fun edge =>
    isTransitionEdge graph edge &&
      (isStairEdge edge || !needsPlanning forceReplan edge)

/-- `edge_id`: the ids of the two ends, joined by an underscore. -/
def edgeId
    (edge : StoredEdge K) : String :=
  toString (graph.node edge.source).id.toInt ++ "_" ++
    toString (graph.node edge.target).id.toInt

/-- Name of the first vertex with the edge's room id. -/
def prePlanRoomName
    (edge : EdgeProperties K) : String :=
  match edge.roomId with
  | none => ""
  | some roomId =>
      match graph.vertices.find? (fun node => decide (node.id = roomId)) with
      | none => ""
      | some room => room.name

/-- Counters, messages to the server and planner calls of a run so far. -/
structure PrePlanProgress (K : Type) where
  edgesCompleted : Nat
  failedEdgeIds : List String
  updates : List (UpdateEdgeDataRequest K)
  calls : Nat

/-- Plan one of the collected edges. -/
def prePlanEdge
    (secondLevelPlanner : SecondLevelPlanner K)
    (graph : TopologicalGraph K)
    (progress : PrePlanProgress K)
    (info : StoredEdge K) : PrePlanProgress K :=
  let failed : PrePlanProgress K :=
    { progress with
      failedEdgeIds := progress.failedEdgeIds ++ [edgeId graph info] }
  match graph.edge? info.source info.target with
  | none => failed
  | some edge =>
      let floorName := firstFloor (graph.node info.source)
      let roomName := prePlanRoomName graph edge.properties
      if floorName.isEmpty || roomName.isEmpty then
        failed
      else
        let result :=
          secondLevelPlanner progress.calls floorName roomName
            (graph.node info.source).position.coords
            (graph.node info.target).position.coords
        match result.path with
        | none => { failed with calls := progress.calls + 1 }
        | some path =>
            { edgesCompleted := progress.edgesCompleted + 1
              failedEdgeIds := progress.failedEdgeIds
              updates :=
                progress.updates ++
                  [{ sourceId := (graph.node info.source).id
                     targetId := (graph.node info.target).id
                     plannedDistance := result.distance
                     plannedCost := result.cost
                     path := path
                     frameId := "ifc"
                     deferSave := true }]
              calls := progress.calls + 1 }

/-- The `PrePlanEdges` result with the updates sent on the way. -/
structure PrePlanResult (K : Type) where
  success : Bool
  message : String
  totalEdges : Nat
  edgesPlanned : Nat
  edgesFailed : Nat
  edgesSkipped : Nat
  failedEdgeIds : List String
  updates : List (UpdateEdgeDataRequest K)

/-- `executePrePlanImpl`. -/
def executePrePlanImpl
    (secondLevelPlanner : SecondLevelPlanner K)
    (graph : TopologicalGraph K)
    (forceReplan : Bool) : PrePlanResult K :=
  if graph.numVertices = 0 then
    { success := false
      message := "Topological map is empty"
      totalEdges := 0
      edgesPlanned := 0
      edgesFailed := 0
      edgesSkipped := 0
      failedEdgeIds := []
      updates := [] }
  else
    let edges := edgesToPlan graph forceReplan
    let progress :=
      edges.foldl (prePlanEdge secondLevelPlanner graph)
        { edgesCompleted := 0
          failedEdgeIds := []
          updates := []
          calls := 0 }
    let failures := progress.failedEdgeIds.length
    { success := failures == 0
      message :=
        if failures = 0 then
          "Successfully pre-planned all " ++
            toString progress.edgesCompleted ++ " transition edges"
        else
          "Pre-planning completed with " ++ toString failures ++
            " failures out of " ++ toString edges.length ++ " edges"
      totalEdges := edges.length
      edgesPlanned := progress.edgesCompleted
      edgesFailed := failures
      edgesSkipped := edgesSkipped graph forceReplan
      failedEdgeIds := progress.failedEdgeIds
      updates := progress.updates }

/-- An update that pre-planning sends for one of the selected edges. -/
structure PrePlanUpdate
    (secondLevelPlanner : SecondLevelPlanner K)
    (graph : TopologicalGraph K)
    (forceReplan : Bool)
    (update : UpdateEdgeDataRequest K)
    (info edge : StoredEdge K)
    (calls : Nat)
    (floor room : String) : Prop where
  selected : info ∈ edgesToPlan graph forceReplan
  found : graph.edge? info.source info.target = some edge
  sourceId : update.sourceId = (graph.node info.source).id
  targetId : update.targetId = (graph.node info.target).id
  path :
    (secondLevelPlanner calls floor room
        (graph.node info.source).position.coords
        (graph.node info.target).position.coords).path =
      some update.path
  plannedDistance :
    update.plannedDistance =
      (secondLevelPlanner calls floor room
        (graph.node info.source).position.coords
        (graph.node info.target).position.coords).distance
  plannedCost :
    update.plannedCost =
      (secondLevelPlanner calls floor room
        (graph.node info.source).position.coords
        (graph.node info.target).position.coords).cost

section

variable
  {secondLevelPlanner : SecondLevelPlanner K}
  {graph : TopologicalGraph K}
  {forceReplan : Bool}
  {update : UpdateEdgeDataRequest K}
  (member :
    update ∈
      (executePrePlanImpl secondLevelPlanner graph
        forceReplan).updates)

include member

theorem numVertices_pos_of_mem_updates :
    0 < graph.numVertices := by
  rw [Nat.pos_iff_ne_zero]
  intro isEmpty
  rw [executePrePlanImpl, if_pos isEmpty] at member
  cases member

/-- Pre-planning sends the paths of the edges that it selects. -/
theorem mem_updates_executePrePlanImpl :
    ∃ info edge calls floor room,
      PrePlanUpdate secondLevelPlanner graph forceReplan update info edge
        calls floor room := by
  unfold executePrePlanImpl at member
  split at member
  · cases member
  · refine List.foldlRecOn
      (motive := fun (progress : PrePlanProgress K) =>
        ∀ update ∈ progress.updates,
          ∃ info edge calls floor room,
            PrePlanUpdate secondLevelPlanner graph forceReplan update
              info edge calls floor room)
      (edgesToPlan graph forceReplan)
      (prePlanEdge secondLevelPlanner graph) ?_ ?_ update member
    · intro update isUpdate
      cases isUpdate
    · intro progress sent info selected update isUpdate
      simp only [prePlanEdge] at isUpdate
      split at isUpdate
      · exact sent update isUpdate
      · rename_i edge found
        split at isUpdate
        · exact sent update isUpdate
        · split at isUpdate
          · exact sent update isUpdate
          · rename_i path isPath
            rcases List.mem_append.mp isUpdate with old | new
            · exact sent update old
            · rw [List.mem_singleton] at new
              subst new
              exact ⟨info, edge, _, _, _, selected, found, rfl, rfl,
                isPath, rfl, rfl⟩

end

end PrePlanning

end NavBim
