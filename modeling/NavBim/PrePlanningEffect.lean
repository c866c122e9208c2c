import NavBim.PlanningSystem

namespace NavBim

/-!
# What pre-planning asks for, and who learns of it

Pre-planning and planning on demand ask the second-level planner for paths
through the same edges.  Pre-planning takes the floor from the edge's source
node, planning on demand takes it from the room of the edge.

The plans that pre-planning finds go to the server only.  The planner's own
graph, from which the next request is answered, does not learn of them.
-/

section Names

variable {K : Type} [Field K]

/-- Floor and room with which pre-planning asks for a plan of an edge, if it
asks. -/
def prePlanNames
    (graph : TopologicalGraph K)
    (info : StoredEdge K) : Option (String × String) :=
  match graph.edge? info.source info.target with
  | none => none
  | some edge =>
      let floorName := firstFloor (graph.node info.source)
      let roomName := prePlanRoomName graph edge.properties
      if floorName.isEmpty || roomName.isEmpty then
        none
      else
        some (floorName, roomName)

/-- The floor that a room's node lists first. -/
def roomFloor
    (graph : TopologicalGraph K)
    (roomId : Int32) : String :=
  match graph.vertices.find? (fun node =>
      decide (node.id = roomId) && !(node.floor.getD []).isEmpty) with
  | none => ""
  | some room => firstFloor room

/-- The name of the first node with a room's id. -/
def roomName
    (graph : TopologicalGraph K)
    (roomId : Int32) : String :=
  match graph.vertices.find? (fun node => decide (node.id = roomId)) with
  | none => ""
  | some room => room.name

/-- Planning on demand would ask for the edge with the same names. -/
def SameNames
    (graph : TopologicalGraph K)
    (info : StoredEdge K) : Prop :=
  ∀ names, prePlanNames graph info = some names →
    names =
      (getFloorOfEdge graph (edgePair info.source info.target).1
          (edgePair info.source info.target).2,
        getRoomNameOfEdge graph (edgePair info.source info.target).1
          (edgePair info.source info.target).2)

/-- Where the edge's source has a floor and the edge's room a name, the first
floor of the source is the first floor of the room. -/
def FloorsAgree
    (graph : TopologicalGraph K)
    (info : StoredEdge K) : Prop :=
  ∀ edge roomId, graph.edge? info.source info.target = some edge →
    edge.properties.roomId = some roomId →
    firstFloor (graph.node info.source) ≠ "" →
    prePlanRoomName graph edge.properties ≠ "" →
      firstFloor (graph.node info.source) = roomFloor graph roomId

omit [Field K] in
theorem edge?_edgePair
    (graph : TopologicalGraph K)
    (u v : Nat) :
    graph.edge? (edgePair u v).1 (edgePair u v).2 = graph.edge? u v := by
  rcases Nat.le_total u v with less | more
  · rw [edgePair_of_le less]
  · rw [edgePair_comm, edgePair_of_le more, graph.edge?_comm]

/-- The names for an edge that has a room. -/
theorem namesOfEdge_of_roomId
    {graph : TopologicalGraph K}
    {u v : Nat}
    {edge : StoredEdge K}
    {roomId : Int32}
    (found : graph.edge? u v = some edge)
    (inRoom : edge.properties.roomId = some roomId) :
    getFloorOfEdge graph u v = roomFloor graph roomId ∧
      getRoomNameOfEdge graph u v = prePlanRoomName graph edge.properties := by
  constructor
  · simp only [getFloorOfEdge, found, inRoom]
    rfl
  · have onDemand : getRoomNameOfEdge graph u v = roomName graph roomId := by
      simp only [getRoomNameOfEdge, found, inRoom]
      rfl
    have ahead : prePlanRoomName graph edge.properties =
        roomName graph roomId := by
      simp only [prePlanRoomName, inRoom]
      rfl
    rw [onDemand, ahead]

/-- Pre-planning asks for an edge with these names, and with no others. -/
theorem prePlanEdge_congr
    {first second : SecondLevelPlanner K}
    {graph : TopologicalGraph K}
    {progress : PrePlanProgress K}
    {info : StoredEdge K}
    (same : ∀ names, prePlanNames graph info = some names →
      first progress.calls names.1 names.2 =
        second progress.calls names.1 names.2) :
    prePlanEdge first graph progress info =
      prePlanEdge second graph progress info := by
  simp only [prePlanEdge]
  cases found : graph.edge? info.source info.target with
  | none => rfl
  | some edge =>
      simp only [prePlanNames, found] at same
      dsimp only
      split
      · rfl
      · case isFalse named =>
        rw [same _ (if_neg named)]

theorem prePlanNames_eq_some
    {graph : TopologicalGraph K}
    {info : StoredEdge K}
    {names : String × String} :
    prePlanNames graph info = some names ↔
      ∃ edge roomId, graph.edge? info.source info.target = some edge ∧
        edge.properties.roomId = some roomId ∧
        firstFloor (graph.node info.source) ≠ "" ∧
        prePlanRoomName graph edge.properties ≠ "" ∧
        names =
          (firstFloor (graph.node info.source),
            prePlanRoomName graph edge.properties) := by
  cases found : graph.edge? info.source info.target with
  | none => simp [prePlanNames, found]
  | some edge =>
      simp only [prePlanNames, found]
      split
      · case isTrue missing =>
        constructor
        · exact nofun
        · rintro ⟨other, roomId, same, -, hasFloor, hasName, -⟩
          cases same
          rw [Bool.or_eq_true, String.isEmpty_iff,
            String.isEmpty_iff] at missing
          rcases missing with noFloor | noName
          · exact absurd noFloor hasFloor
          · exact absurd noName hasName
      · case isFalse present =>
        rw [Bool.or_eq_true, String.isEmpty_iff, String.isEmpty_iff,
          not_or] at present
        constructor
        · intro same
          cases inRoom : edge.properties.roomId with
          | none =>
              apply absurd _ present.2
              simp only [prePlanRoomName, inRoom]
          | some roomId =>
              exact ⟨edge, roomId, rfl, inRoom, present.1, present.2,
                (Option.some.inj same).symm⟩
        · rintro ⟨other, roomId, same, -, -, -, isNames⟩
          cases same
          rw [isNames]

/-- Pre-planning asks for the plan that planning on demand asks for just when
the source's first floor is that of the room. -/
theorem sameNames_iff
    (graph : TopologicalGraph K)
    (info : StoredEdge K) :
    SameNames graph info ↔ FloorsAgree graph info := by
  have found := edge?_edgePair graph info.source info.target
  constructor
  · intro same edge roomId isEdge inRoom hasFloor hasName
    have asked := same _ (prePlanNames_eq_some.mpr
      ⟨edge, roomId, isEdge, inRoom, hasFloor, hasName, rfl⟩)
    rw [isEdge] at found
    rw [(namesOfEdge_of_roomId found inRoom).1] at asked
    exact congrArg Prod.fst asked
  · intro agree names asked
    obtain ⟨edge, roomId, isEdge, inRoom, hasFloor, hasName, rfl⟩ :=
      prePlanNames_eq_some.mp asked
    have sameFloor := agree edge roomId isEdge inRoom hasFloor hasName
    rw [isEdge] at found
    obtain ⟨floor, name⟩ := namesOfEdge_of_roomId found inRoom
    rw [floor, name, sameFloor]

end Names

/-- A door between two floors and a door of the hall, with an edge through the
hall. -/
def splitLevelDocument : Json ℚ :=
  .obj
    [("nodes", .arr
        [.obj [("id", .int 1), ("type", .str "transition"),
            ("floor", .arr [.str "OG", .str "EG"])],
          .obj [("id", .int 2), ("type", .str "transition"),
            ("floor", .arr [.str "EG"])],
          .obj [("id", .int 3), ("type", .str "room"), ("name", .str "Hall"),
            ("floor", .arr [.str "EG"])]]),
      ("links", .arr
        [.obj
          [("id", .int 0), ("source", .int 1), ("target", .int 2),
            ("type", .str "transition"), ("room_id", .int 3)]])]

def splitLevelMap : TopologicalGraph ℚ where
  vertices :=
    [{ NodeProperties.unset with
        id := 1, type := "transition", floor := some ["OG", "EG"] },
      { NodeProperties.unset with
        id := 2, type := "transition", floor := some ["EG"] },
      { NodeProperties.unset with
        id := 3, type := "room", name := "Hall", floor := some ["EG"] }]
  edges :=
    [⟨0, 1,
      { EdgeProperties.unset with
        id := 0, type := "transition", roomId := some 3 }⟩]
  endsValid := by simp

/-- Pre-planning asks for the hall on the upper floor. -/
theorem not_sameNames_splitLevelMap :
    ¬ ∀ (document : Json ℚ) (graph : TopologicalGraph ℚ),
      loadFromJson document = some graph →
        ∀ info ∈ graph.edges, isTransitionEdge graph info = true →
          info.properties.roomId.isSome = true → SameNames graph info := by
  intro always
  have same := always splitLevelDocument splitLevelMap rfl
    ⟨0, 1,
      { EdgeProperties.unset with
        id := 0, type := "transition", roomId := some 3 }⟩
    (by decide +kernel) (by decide +kernel) rfl ("OG", "Hall")
    (by decide +kernel)
  exact absurd same (by decide +kernel)

section Effect

variable {K : Type} [Field K]

/-- What a plan of an edge is: its cost, its distance and its path. -/
structure EdgePlan (K : Type) where
  cost : WithTop K
  distance : WithTop K
  path : Option (List (Coords K))
  deriving DecidableEq

def EdgeProperties.plan
    (props : EdgeProperties K) : EdgePlan K :=
  { cost := props.plannedCost
    distance := props.plannedDistance
    path := props.path }

def UpdateEdgeDataRequest.plan
    (update : UpdateEdgeDataRequest K) : EdgePlan K :=
  { cost := update.plannedCost
    distance := update.plannedDistance
    path := some update.path }

/-- The edge between the vertices with two ids. -/
def edgeById
    (graph : TopologicalGraph K)
    (sourceId targetId : Int32) : Option (StoredEdge K) :=
  match getVertexById graph (idString sourceId),
      getVertexById graph (idString targetId) with
  | some source, some target => graph.edge? source target
  | _, _ => none

/-- The two requests are for the same edge. -/
def UpdateEdgeDataRequest.sameEdge
    (first second : UpdateEdgeDataRequest K) : Bool :=
  (first.sourceId == second.sourceId && first.targetId == second.targetId) ||
    (first.sourceId == second.targetId && first.targetId == second.sourceId)

/-- The last of the requests for an edge. -/
def lastUpdate
    (updates : List (UpdateEdgeDataRequest K))
    (update : UpdateEdgeDataRequest K) : Option (UpdateEdgeDataRequest K) :=
  updates.reverse.find? update.sameEdge

/-- For every edge that was planned the planner and the server have the same
plan, and the planner reuses it. -/
def TakesEffect
    (planner server : TopologicalGraph K)
    (updates : List (UpdateEdgeDataRequest K)) : Prop :=
  ∀ update ∈ updates,
    ∃ own theirs,
      edgeById planner update.sourceId update.targetId = some own ∧
        edgeById server update.sourceId update.targetId = some theirs ∧
        own.properties.plan = theirs.properties.plan ∧
        shouldReuse true own.properties = true

/-- The planner had the plan of every edge that was planned before, with at
least two waypoints. -/
def AlreadyPlanned
    (planner : TopologicalGraph K)
    (updates : List (UpdateEdgeDataRequest K)) : Prop :=
  ∀ update ∈ updates,
    ∃ own last,
      edgeById planner update.sourceId update.targetId = some own ∧
        lastUpdate updates update = some last ∧
        own.properties.plan = last.plan ∧ 2 ≤ last.path.length

variable
  {graph updated : TopologicalGraph K}
  {update : UpdateEdgeDataRequest K}

theorem updateEdgeData_eq_ok
    (succeeded : updateEdgeData graph update = .ok updated) :
    ∃ source target edge,
      getVertexById graph (idString update.sourceId) = some source ∧
        getVertexById graph (idString update.targetId) = some target ∧
        graph.edge? source target = some edge ∧
        updated = graph.modifyEdge source target (storeUpdate update) := by
  simp only [updateEdgeData] at succeeded
  split at succeeded
  · cases succeeded
  · case h_2 source isSource =>
    split at succeeded
    · cases succeeded
    · case h_2 target isTarget =>
      split at succeeded
      · cases succeeded
      · case h_2 edge isEdge =>
        cases succeeded
        exact ⟨source, target, edge, isSource, isTarget, isEdge, rfl⟩

theorem getVertexById_modifyEdge
    (graph : TopologicalGraph K)
    (source target : Nat)
    (change : EdgeProperties K → EdgeProperties K)
    (id : String) :
    getVertexById (graph.modifyEdge source target change) id =
      getVertexById graph id :=
  rfl

theorem edgeById_comm
    (graph : TopologicalGraph K)
    (sourceId targetId : Int32) :
    edgeById graph sourceId targetId = edgeById graph targetId sourceId := by
  simp only [edgeById]
  cases getVertexById graph (idString sourceId) with
  | none =>
      cases getVertexById graph (idString targetId) with
      | none => rfl
      | some target => rfl
  | some source =>
      cases getVertexById graph (idString targetId) with
      | none => rfl
      | some target => exact graph.edge?_comm source target

theorem edgeById_updated
    (succeeded : updateEdgeData graph update = .ok updated) :
    ∃ theirs, edgeById updated update.sourceId update.targetId = some theirs ∧
      theirs.properties.plan = update.plan := by
  obtain ⟨source, target, edge, isSource, isTarget, isEdge, rfl⟩ :=
    updateEdgeData_eq_ok succeeded
  refine ⟨edge.mapProperties (storeUpdate update), ?_, rfl⟩
  simp only [edgeById, getVertexById_modifyEdge, isSource, isTarget]
  rw [graph.edge?_modifyEdge_same, isEdge]
  rfl

/-- An update leaves the other edges as they are. -/
theorem edgeById_other
    {update other : UpdateEdgeDataRequest K}
    (succeeded : updateEdgeData graph update = .ok updated)
    (different : other.sameEdge update = false) :
    edgeById updated other.sourceId other.targetId =
      edgeById graph other.sourceId other.targetId := by
  obtain ⟨source, target, edge, isSource, isTarget, isEdge, rfl⟩ :=
    updateEdgeData_eq_ok succeeded
  simp only [edgeById, getVertexById_modifyEdge]
  cases isFirst : getVertexById graph (idString other.sourceId) with
  | none => rfl
  | some first =>
      cases isSecond : getVertexById graph (idString other.targetId) with
      | none => rfl
      | some second =>
          apply graph.edge?_modifyEdge_other
          -- equal vertices have equal ids, so the requests would be for one edge
          have sourceId := (getVertexById_eq_some isSource).2
          have targetId := (getVertexById_eq_some isTarget).2
          have firstId := (getVertexById_eq_some isFirst).2
          have secondId := (getVertexById_eq_some isSecond).2
          rintro (⟨rfl, rfl⟩ | ⟨rfl, rfl⟩)
          · simp [UpdateEdgeDataRequest.sameEdge, ← sourceId, ← targetId,
              ← firstId, ← secondId] at different
          · simp [UpdateEdgeDataRequest.sameEdge, ← sourceId, ← targetId,
              ← firstId, ← secondId] at different

omit [Field K] in
theorem UpdateEdgeDataRequest.sameEdge_self
    (update : UpdateEdgeDataRequest K) :
    update.sameEdge update = true := by
  simp [sameEdge]

/-- After requests that all succeeded the server holds the last plan that was
sent for an edge. -/
theorem edgeById_updates
    {server after : TopologicalGraph K}
    {updates : List (UpdateEdgeDataRequest K)}
    (succeeded : updates.foldlM updateEdgeData server = .ok after)
    (sent : update ∈ updates) :
    ∃ last theirs, lastUpdate updates update = some last ∧
      edgeById after update.sourceId update.targetId = some theirs ∧
      theirs.properties.plan = last.plan := by
  induction updates using List.reverseRecOn generalizing after with
  | nil => cases sent
  | append_singleton earlier latest inductionHypothesis =>
      rw [List.foldlM_append] at succeeded
      cases before : earlier.foldlM updateEdgeData server with
      | error message =>
          rw [before] at succeeded
          cases succeeded
      | ok middle =>
          rw [before] at succeeded
          have isLatest : updateEdgeData middle latest = .ok after := by
            change [latest].foldlM updateEdgeData middle = .ok after
              at succeeded
            rw [List.foldlM_cons] at succeeded
            exact (bind_pure (updateEdgeData middle latest)).symm.trans
              succeeded
          cases same : update.sameEdge latest with
          | true =>
              obtain ⟨theirs, held, isPlan⟩ := edgeById_updated isLatest
              refine ⟨latest, theirs, ?_, ?_, isPlan⟩
              · simp [lastUpdate, same]
              · simp only [UpdateEdgeDataRequest.sameEdge, Bool.or_eq_true,
                  Bool.and_eq_true, beq_iff_eq] at same
                rcases same with ⟨source, target⟩ | ⟨source, target⟩
                · rw [source, target]
                  exact held
                · rw [source, target, edgeById_comm]
                  exact held
          | false =>
              have sentBefore : update ∈ earlier := by
                rcases List.mem_append.mp sent with inEarlier | isSelf
                · exact inEarlier
                · rw [List.mem_singleton] at isSelf
                  rw [isSelf, latest.sameEdge_self] at same
                  cases same
              obtain ⟨last, theirs, isLast, held, isPlan⟩ :=
                inductionHypothesis before sentBefore
              refine ⟨last, theirs, ?_, ?_, isPlan⟩
              · simpa [lastUpdate, same] using isLast
              · rw [edgeById_other isLatest same]
                exact held

omit [Field K] in
theorem shouldReuse_of_plan
    {props : EdgeProperties K}
    (same : props.plan = update.plan) :
    shouldReuse true props = true ↔ 2 ≤ update.path.length := by
  have path : props.path = some update.path := congrArg EdgePlan.path same
  simp [shouldReuse, path]

theorem takesEffect_of_updates
    {planner server after : TopologicalGraph K}
    {updates : List (UpdateEdgeDataRequest K)}
    (succeeded : updates.foldlM updateEdgeData server = .ok after) :
    TakesEffect planner after updates ↔ AlreadyPlanned planner updates := by
  constructor
  · intro effect update sent
    obtain ⟨own, theirs, isOwn, isTheirs, same, reused⟩ := effect update sent
    obtain ⟨last, held, isLast, isHeld, isPlan⟩ :=
      edgeById_updates succeeded sent
    rw [isTheirs, Option.some.injEq] at isHeld
    subst isHeld
    have known := same.trans isPlan
    exact ⟨own, last, isOwn, isLast, known,
      (shouldReuse_of_plan known).mp reused⟩
  · intro known update sent
    obtain ⟨own, last, isOwn, isLast, same, enough⟩ := known update sent
    obtain ⟨latest, held, isLatest, isHeld, isPlan⟩ :=
      edgeById_updates succeeded sent
    rw [isLast, Option.some.injEq] at isLatest
    subst isLatest
    exact ⟨own, held, isOwn, isHeld, same.trans isPlan.symm,
      (shouldReuse_of_plan same).mpr enough⟩

end Effect

section Run

variable {K : Type} [Field K] [LinearOrder K] [SquareRoot K] [IntegerPart K]

/-- Pre-planning takes effect in the planner just when the planner had the
plans before. -/
theorem prePlan_takesEffect_iff
    (toFloat : K → K)
    (secondLevelPlanner : SecondLevelPlanner K)
    (forceReplan : Bool)
    (state next : System K)
    (server : TopologicalGraph K)
    (ran :
      systemStep toFloat state (.prePlan secondLevelPlanner forceReplan) =
        some next)
    (succeeded :
      (executePrePlanImpl secondLevelPlanner state.planner.graph
          forceReplan).updates.foldlM updateEdgeData next.server =
        .ok server) :
    TakesEffect next.planner.graph server
        (executePrePlanImpl secondLevelPlanner state.planner.graph
          forceReplan).updates ↔
      AlreadyPlanned state.planner.graph
        (executePrePlanImpl secondLevelPlanner state.planner.graph
          forceReplan).updates := by
  -- the step adds to the requests in flight only
  cases ran
  exact takesEffect_of_updates succeeded

end Run

/-- A foyer with two doors, and a plan of the edge between them. -/
def foyerMap (props : EdgeProperties ℚ) : TopologicalGraph ℚ where
  vertices :=
    [{ NodeProperties.unset with
        id := 1, type := "transition", floor := some ["EG"] },
      { NodeProperties.unset with
        id := 2, type := "transition", floor := some ["EG"],
        position := ⟨4, 0, 0⟩ },
      { NodeProperties.unset with
        id := 3, type := "room", name := "Foyer", floor := some ["EG"] }]
  edges := [⟨0, 1, props⟩]
  endsValid := by simp

def foyerEdge : EdgeProperties ℚ :=
  { EdgeProperties.unset with
    id := 0, type := "transition", roomId := some 3 }

/-- The straight line, with its length as distance and cost. -/
def linePlanner : SecondLevelPlanner ℚ :=
  fun _ _ _ start goal =>
    { path := some [start, goal]
      distance := ((goal.1 - start.1 : ℚ) : WithTop ℚ)
      cost := ((goal.1 - start.1 : ℚ) : WithTop ℚ) }

def foyerUpdate : UpdateEdgeDataRequest ℚ where
  sourceId := 1
  targetId := 2
  plannedDistance := ((4 : ℚ) : WithTop ℚ)
  plannedCost := ((4 : ℚ) : WithTop ℚ)
  path := [(0, 0, 0), (4, 0, 0)]
  frameId := "ifc"
  deferSave := true

/-- The server and the planner have the same map. -/
def foyerSystem (props : EdgeProperties ℚ) : System ℚ where
  server := foyerMap props
  file := none
  planner :=
    { (TopologicalMap.empty : TopologicalMap ℚ) with
      graph := foyerMap props }
  inFlight := []

def plannedFoyerEdge : EdgeProperties ℚ :=
  storeUpdate foyerUpdate foyerEdge

deriving instance DecidableEq for UpdateEdgeDataRequest

theorem updates_foyerMap :
    (executePrePlanImpl linePlanner (foyerMap foyerEdge) false).updates =
      [foyerUpdate] := by
  decide +kernel

theorem updates_plannedFoyerMap :
    (executePrePlanImpl linePlanner (foyerMap plannedFoyerEdge)
        true).updates =
      [foyerUpdate] := by
  decide +kernel

theorem getVertexById_foyerMap
    (props : EdgeProperties ℚ) :
    getVertexById (foyerMap props) (idString 1) = some 0 ∧
      getVertexById (foyerMap props) (idString 2) = some 1 := by
  have found : getVertexById (foyerMap foyerEdge) (idString 1) = some 0 ∧
      getVertexById (foyerMap foyerEdge) (idString 2) = some 1 := by
    decide +kernel
  exact found

theorem updateEdgeData_foyerMap
    (props : EdgeProperties ℚ) :
    [foyerUpdate].foldlM updateEdgeData (foyerMap props) =
      .ok (foyerMap (storeUpdate foyerUpdate props)) := by
  have source : getVertexById (foyerMap props)
      (idString foyerUpdate.sourceId) = some 0 :=
    (getVertexById_foyerMap props).1
  have target : getVertexById (foyerMap props)
      (idString foyerUpdate.targetId) = some 1 :=
    (getVertexById_foyerMap props).2
  have updated : updateEdgeData (foyerMap props) foyerUpdate =
      .ok (foyerMap (storeUpdate foyerUpdate props)) := by
    simp only [updateEdgeData, source, target]
    rfl
  rw [List.foldlM_cons, updated]
  rfl

theorem edgeById_foyerMap
    (props : EdgeProperties ℚ) :
    edgeById (foyerMap props) 1 2 = some ⟨0, 1, props⟩ := by
  obtain ⟨source, target⟩ := getVertexById_foyerMap props
  simp only [edgeById, source, target]
  rfl

theorem prePlan_takesEffect_plannedFoyer :
    ∃ next : System ℚ,
      systemStep id (foyerSystem plannedFoyerEdge)
          (.prePlan linePlanner true) = some next ∧
        TakesEffect next.planner.graph (foyerMap plannedFoyerEdge)
          [foyerUpdate] := by
  have updates := updates_plannedFoyerMap
  refine ⟨_, rfl, ?_⟩
  have effect := prePlan_takesEffect_iff id linePlanner true
    (foyerSystem plannedFoyerEdge) _ (foyerMap plannedFoyerEdge) rfl
  rw [show (foyerSystem plannedFoyerEdge).planner.graph =
    foyerMap plannedFoyerEdge from rfl, updates] at effect
  refine (effect (updateEdgeData_foyerMap plannedFoyerEdge)).mpr ?_
  intro update sent
  have isUpdate : update = foyerUpdate := List.mem_singleton.mp sent
  subst isUpdate
  exact ⟨⟨0, 1, plannedFoyerEdge⟩, foyerUpdate,
    edgeById_foyerMap plannedFoyerEdge, rfl, rfl, Nat.le_refl 2⟩

/-- The planner still has no plan of the edge that the server has one of. -/
theorem not_prePlan_takesEffect :
    ¬ ∀ (toFloat : ℚ → ℚ) (secondLevelPlanner : SecondLevelPlanner ℚ)
      (forceReplan : Bool) (state next : System ℚ)
      (server : TopologicalGraph ℚ),
      systemStep toFloat state (.prePlan secondLevelPlanner forceReplan) =
        some next →
      (executePrePlanImpl secondLevelPlanner state.planner.graph
          forceReplan).updates.foldlM updateEdgeData next.server =
        .ok server →
      TakesEffect next.planner.graph server
        (executePrePlanImpl secondLevelPlanner state.planner.graph
          forceReplan).updates := by
  intro always
  have effect := always id linePlanner false (foyerSystem foyerEdge) _
    (foyerMap plannedFoyerEdge) rfl
  rw [show (foyerSystem foyerEdge).planner.graph = foyerMap foyerEdge
    from rfl, updates_foyerMap] at effect
  obtain ⟨own, theirs, isOwn, -, -, reused⟩ :=
    effect (updateEdgeData_foyerMap foyerEdge) foyerUpdate
      (List.mem_singleton.mpr rfl)
  cases (edgeById_foyerMap foyerEdge).symm.trans isOwn
  cases reused

end NavBim
