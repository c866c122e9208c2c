import NavBim.GraphPruningGoal

namespace NavBim

/-!
# Pruning and the cheapest way

Unreachable components and dead ends are not on a cheapest way when the costs
obey the triangle inequality inside each room.  The exception are transitions
that cut something off and still join two rooms on the side of the start:
phase 4 removes them, and the least cost survives exactly if each time some
cheapest way avoids them.
-/

open GraphReach

variable
  {K C : Type} [Field K]
  {graph : TopologicalGraph K}
  {cost : EdgeProperties K → C}

section Costs

variable
  [AddCommMonoid C] [PartialOrder C]

/-- The cost of the edge that `boost::edge(u, v, graph)` finds. -/
def edgeWeight
    (graph : TopologicalGraph K)
    (cost : EdgeProperties K → C)
    (u v : Nat) : C :=
  match graph.edge? u v with
  | none => 0
  | some edge => cost edge.properties

/-- Costs of the ways from start to goal over enabled vertices. -/
def routeCosts
    (graph : TopologicalGraph K)
    (disabled : Finset Nat)
    (cost : EdgeProperties K → C)
    (start goal : Nat) : Set C :=
  {total |
    GraphReach.Route (Within graph.Adjacent (enabledSet graph disabled))
      (edgeWeight graph cost) start goal total}

/-- A transition that is joined to the place. -/
def IsTransitionOf
    (graph : TopologicalGraph K)
    (place vertex : Nat) : Prop :=
  IsTransition graph vertex ∧ place ∈ graph.outTargets vertex

instance (graph : TopologicalGraph K) (place vertex : Nat) :
    Decidable (IsTransitionOf graph place vertex) :=
  inferInstanceAs (Decidable (_ ∧ _))

/-- The triangle inequality for three transitions of one place. -/
def TriangleAt
    (graph : TopologicalGraph K)
    (cost : EdgeProperties K → C)
    (place near middle far : Nat) : Prop :=
  IsPlace graph place →
    IsTransitionOf graph place near →
    IsTransitionOf graph place middle →
    IsTransitionOf graph place far →
    near ≠ middle →
    middle ≠ far →
    near ≠ far →
    edgeWeight graph cost near far ≤
      edgeWeight graph cost near middle + edgeWeight graph cost middle far

instance [DecidableLE C]
    (graph : TopologicalGraph K)
    (cost : EdgeProperties K → C)
    (place near middle far : Nat) :
    Decidable (TriangleAt graph cost place near middle far) :=
  inferInstanceAs (Decidable (_ → _))

/-- Non-negative costs that obey the triangle inequality inside each place. -/
structure PlaceMetric
    (graph : TopologicalGraph K)
    (cost : EdgeProperties K → C) : Prop where
  nonneg : ∀ edge ∈ graph.edges, 0 ≤ cost edge.properties
  triangle :
    ∀ place < graph.numVertices, ∀ near < graph.numVertices,
      ∀ middle < graph.numVertices, ∀ far < graph.numVertices,
        TriangleAt graph cost place near middle far

/--
The transition branches: without it something is cut off from the start, but
neither the goal nor two of its places are.
-/
structure Branches
    (graph : TopologicalGraph K)
    (start goal : Nat)
    (disabled : Finset Nat)
    (vertex : Nat) : Prop where
  wasEnabled : vertex ∉ disabled
  goalJoined :
    Linked graph.Adjacent (enabledSet graph (insert vertex disabled))
      start goal
  cutsOff :
    ∃ other ∈ enabledSet graph (insert vertex disabled),
      ¬Linked graph.Adjacent (enabledSet graph (insert vertex disabled))
        start other
  twoPlaces :
    ∃ first ∈ graph.outTargets vertex, ∃ second ∈ graph.outTargets vertex,
      first ≠ second ∧
        ∀ place ∈ [first, second],
          IsPlace graph place ∧
            Linked graph.Adjacent
              (enabledSet graph (insert vertex disabled)) start place

/-- If the transition branches when its turn comes, a cheapest way avoids it. -/
def BranchHarmless
    (graph : TopologicalGraph K)
    (cost : EdgeProperties K → C)
    (start goal : Nat)
    (turn : Nat × Finset Nat) : Prop :=
  Branches graph start goal turn.2 turn.1 →
    ∀ least,
      IsLeast
          (routeCosts graph (disabledVertices graph turn.2) cost start goal)
          least →
        least ∈
          routeCosts graph (disabledVertices graph (insert turn.1 turn.2))
            cost start goal

/-- The least cost of a way is the same with and without the pruned vertices. -/
def KeepsOptimum
    (graph : TopologicalGraph K)
    (cost : EdgeProperties K → C)
    (start goal : Nat)
    (pruned : Finset Nat) : Prop :=
  ∀ least,
    IsLeast (routeCosts graph (unplannedVertices graph) cost start goal)
        least ↔
      IsLeast
        (routeCosts graph (disabledVertices graph pruned) cost start goal)
        least

theorem PlaceMetric.edgeWeight_nonneg
    {cost : EdgeProperties K → C}
    (metric : PlaceMetric graph cost)
    {u v : Nat} :
    0 ≤ edgeWeight graph cost u v := by
  unfold edgeWeight
  cases found : graph.edge? u v with
  | none =>
      exact le_rfl
  | some edge =>
      exact metric.nonneg edge (TopologicalGraph.edge?_eq_some found).1

/-- Costs of edges inside places make a metric of the rooms and doors. -/
theorem PlaceMetric.roomMetric
    {cost : EdgeProperties K → C}
    (metric : PlaceMetric graph cost)
    (roomMap : IsRoomMap graph) :
    roomMap.rooms.RoomMetric (edgeWeight graph cost) where
  nonneg := fun _ => metric.edgeWeight_nonneg
  triangle := by
    intro near middle far room nearDoor middleDoor farDoor nearMiddle
      middleFar nearFar isRoom toNear toMiddle toFar
    have isPlace : IsPlace graph room := isRoom
    exact metric.triangle room isPlace.lt near (IsTransition.lt nearDoor)
      middle (IsTransition.lt middleDoor) far (IsTransition.lt farDoor)
      isPlace ⟨nearDoor, toNear.1⟩ ⟨middleDoor, toMiddle.1⟩
      ⟨farDoor, toFar.1⟩ nearMiddle middleFar nearFar

end Costs

section Ways

variable
  [AddCommMonoid C]
  {floorVertices pruned : Finset Nat}
  {start goal : Nat}

theorem routeCosts_anti
    {fewer : Finset Nat}
    (subset : fewer ⊆ pruned) :
    routeCosts graph (disabledVertices graph pruned) cost start goal ⊆
      routeCosts graph (disabledVertices graph fewer) cost start goal := by
  intro total route
  refine GraphReach.Route.mono route ?_
  rintro u v ⟨adjacent, uEnabled, vEnabled⟩
  have more :
      enabledSet graph (disabledVertices graph pruned) ⊆
        enabledSet graph (disabledVertices graph fewer) :=
    enabledSet_anti
      (Finset.union_subset_union_right (s := unplannedVertices graph) subset)
  exact ⟨adjacent, more uEnabled, more vEnabled⟩

/-- The planner leaves the floors out in any case. -/
theorem PruneScene.disabledVertices_floors
    (scene : PruneScene graph floorVertices start goal) :
    disabledVertices graph floorVertices = unplannedVertices graph := by
  refine Finset.union_eq_left.mpr fun vertex isFloor => ?_
  obtain ⟨bound, floor⟩ := (scene.floors vertex).mp isFloor
  have isType : (graph.node vertex).type = "floor" := floor
  simp [unplannedVertices, bound, isType]

variable
  (scene : PruneScene graph floorVertices start goal)

theorem PruneScene.within_doors
    {u v : Nat}
    (edge :
      Within graph.Adjacent
        (enabledSet graph (disabledVertices graph pruned)) u v) :
    Within scene.roomMap.rooms.Adjacent
      (enabledSet graph pruned ∩ scene.roomMap.rooms.Door) u v := by
  have kind
      {vertex : Nat}
      (enabled : vertex ∈ enabledSet graph (disabledVertices graph pruned)) :
      (¬IsFloor graph vertex ∧ ¬IsPlace graph vertex) ∧
        vertex ∈ enabledSet graph pruned := by
    have visible := enabled.2
    simp only [disabledVertices, unplannedVertices, Finset.mem_union,
      List.mem_toFinset, List.mem_filter, List.mem_range, enabled.1, true_and,
      Bool.or_eq_true, beq_iff_eq, not_or] at visible
    exact ⟨visible.1, enabled.1, visible.2⟩
  obtain ⟨adjacent, uEnabled, vEnabled⟩ := edge
  have roomsAdjacent : scene.roomMap.rooms.Adjacent u v :=
    ⟨adjacent, (kind uEnabled).1.1, (kind vEnabled).1.1⟩
  rcases scene.roomMap.rooms.ends roomsAdjacent with
    ⟨-, vPlace⟩ | ⟨uPlace, -⟩ | ⟨uDoor, vDoor, -⟩
  · exact absurd vPlace (kind vEnabled).1.2
  · exact absurd uPlace (kind uEnabled).1.2
  · exact ⟨roomsAdjacent, ⟨(kind uEnabled).2, uDoor⟩,
      ⟨(kind vEnabled).2, vDoor⟩⟩

theorem PruneScene.within_planner
    {u v : Nat}
    (edge :
      Within scene.roomMap.rooms.Adjacent
        (enabledSet graph pruned ∩ scene.roomMap.rooms.Door) u v) :
    Within graph.Adjacent
      (enabledSet graph (disabledVertices graph pruned)) u v := by
  obtain ⟨adjacent, uDoor, vDoor⟩ := edge
  exact ⟨adjacent.1,
    ⟨uDoor.1.1, not_mem_disabledVertices uDoor.2 uDoor.1.2⟩,
    ⟨vDoor.1.1, not_mem_disabledVertices vDoor.2 vDoor.1.2⟩⟩

/-- The ways of the planner are the ways over enabled doors. -/
theorem PruneScene.mem_routeCosts_iff
    {total : C} :
    total ∈ routeCosts graph (disabledVertices graph pruned) cost start
        goal ↔
      GraphReach.Route
        (Within scene.roomMap.rooms.Adjacent
          (enabledSet graph pruned ∩ scene.roomMap.rooms.Door))
        (edgeWeight graph cost) start goal total :=
  ⟨fun route => GraphReach.Route.mono route scene.within_doors,
    fun route => GraphReach.Route.mono route scene.within_planner⟩

variable
  [PartialOrder C]
  {startRoom goalRoom : Option Nat}

theorem PruneScene.keepsOptimum_of_floors
    (scene : PruneScene graph floorVertices start goal)
    (onlyFloors :
      pruneGraph graph floorVertices startRoom goalRoom = floorVertices) :
    KeepsOptimum graph cost start goal
      (pruneGraph graph floorVertices startRoom goalRoom) := by
  intro least
  rw [onlyFloors, scene.disabledVertices_floors]

end Ways

section Branching

variable
  {start goal vertex : Nat}
  {floorVertices before after : Finset Nat}

/-- A removed transition with two rooms on the side of the start branches. -/
theorem CutAt.branches
    {roomMap : IsRoomMap graph}
    (cut : CutAt roomMap start goal before after vertex)
    (floors : FloorsDisabled graph before)
    (wide :
      ¬roomMap.rooms.Narrow start (enabledSet graph before) vertex) :
    Branches graph start goal before vertex := by
  have testFloors := floors.mono (Finset.subset_insert vertex before)
  have sameLinked := roomMap.linked_iff (fun _ => testFloors.not_floor)
  have joined := cut.joined
  rw [← enabledSet_insert, sameLinked] at joined
  rw [RoomGraph.Narrow, ← enabledSet_insert, sameLinked,
    RoomGraph.AtMostOneRoom] at wide
  push Not at wide
  obtain ⟨first, second, firstRoom, secondRoom, toFirst, toSecond,
    firstNear, secondNear, different⟩ := wide
  refine ⟨cut.wasEnabled.2, joined, ?_, first, toFirst.1, second,
    toSecond.1, different, ?_⟩
  · rcases cut.grounds with deadEnd | ⟨other, enabled, apart, cutOff⟩
    · exact absurd
        (deadEnd first second firstRoom secondRoom toFirst toSecond trivial
          trivial) different
    · rw [← enabledSet_insert, sameLinked] at cutOff
      exact ⟨other, by rw [enabledSet_insert]; exact ⟨enabled, apart⟩,
        cutOff⟩
  · exact List.forall_mem_cons.mpr ⟨⟨firstRoom, firstNear⟩,
      List.forall_mem_singleton.mpr ⟨secondRoom, secondNear⟩⟩

/-- Phase 4 removes each transition that branches. -/
theorem Branches.subset_pruneTransition
    (branches : Branches graph start goal before vertex)
    (roomMap : IsRoomMap graph)
    (floors : FloorsDisabled graph before)
    (transition : IsTransition graph vertex)
    (startDoor : IsTransition graph start)
    (different : start ≠ goal) :
    insert vertex before ⊆
      pruneTransition graph start goal before vertex := by
  obtain ⟨startTest, goalTest⟩ := branches.goalJoined.mem_of_ne different
  obtain ⟨first, toFirst, second, toSecond, apart, near⟩ :=
    branches.twoPlaces
  have enabledPlace
      {place : Nat}
      (isNear : place ∈ [first, second]) :
      IsPlace graph place ∧ place ∉ before := by
    obtain ⟨isPlace, linked⟩ := near place isNear
    have other : start ≠ place := by
      intro same
      exact startDoor.not_place (same ▸ isPlace)
    have enabled := (linked.mem_of_ne other).2
    rw [enabledSet_insert] at enabled
    exact ⟨isPlace, enabled.1.2⟩
  have enough : ¬numRoomEdges graph before vertex < 2 := by
    intro few
    rw [roomMap.numRoomEdges_eq floors transition] at few
    obtain ⟨firstPlace, firstEnabled⟩ := enabledPlace List.mem_cons_self
    obtain ⟨secondPlace, secondEnabled⟩ :=
      enabledPlace (List.mem_cons_of_mem first List.mem_cons_self)
    exact apart (places_eq_of_numPlaces_lt few toFirst toSecond firstEnabled
      secondEnabled firstPlace secondPlace)
  have splits :=
    And.intro ((one_lt_count_filtered_iff startTest).mpr branches.cutsOff)
      ((component_filtered_iff startTest goalTest).mpr branches.goalJoined)
  simp only [pruneTransition, if_neg branches.wasEnabled, if_neg enough,
    if_pos splits]
  exact Finset.subset_union_left

theorem PruneScene.turn_proper
    (scene : PruneScene graph floorVertices start goal)
    (unchanged :
      disableOtherFloors graph start goal floorVertices = floorVertices)
    {turn : Nat × Finset Nat}
    (isTurn : turn ∈ phaseFourTurns graph floorVertices start goal) :
    IsTransition graph turn.1 ∧ floorVertices ⊆ turn.2 := by
  refine ⟨(scene.transitionNodes_proper _ turn.1
    (mem_of_mem_deadEndTurns _ isTurn)).1, ?_⟩
  have more := (subset_of_mem_deadEndTurns _ isTurn).1
  rw [disabledAtFirst, unchanged] at more
  exact subset_removeUnreachableComponents.trans more

end Branching

section Run

variable
  [AddCommMonoid C] [LinearOrder C]
  {floorVertices disabled : Finset Nat}
  {start goal vertex : Nat}

/-- What holds while phase 4 runs and a cheapest way avoids what branches. -/
structure OptimumInvariant
    (scene : PruneScene graph floorVertices start goal)
    (cost : EdgeProperties K → C)
    (disabled : Finset Nat) : Prop where
  deadEnds :
    DeadEndsInvariant scene.roomMap start goal floorVertices disabled
  dominated :
    scene.roomMap.rooms.Dominated start goal (edgeWeight graph cost)
      (enabledSet graph floorVertices) (enabledSet graph disabled)

/-- Phase 3 makes no way longer. -/
theorem PruneScene.optimumInvariant
    (scene : PruneScene graph floorVertices start goal)
    (cost : EdgeProperties K → C)
    (unchanged :
      disableOtherFloors graph start goal floorVertices = floorVertices)
    (connected :
      Linked graph.Adjacent (enabledSet graph floorVertices)
        start goal) :
    OptimumInvariant scene cost
      (removeUnreachableComponents graph start floorVertices) := by
  have deadEnds := scene.deadEndsInvariant connected
  rw [unchanged] at deadEnds
  have remaining :
      enabledSet graph
          (removeUnreachableComponents graph start floorVertices) =
        componentOf scene.roomMap.rooms.Adjacent
          (enabledSet graph floorVertices) start := by
    rw [enabledSet_removeUnreachableComponents
      (scene.enabled_of_transition scene.startDoor)]
    unfold componentOf
    rw [scene.roomMap.linked_iff
      (fun _ => scene.floorsDisabled.not_floor)]
  refine ⟨deadEnds, ?_⟩
  rw [remaining]
  exact RoomGraph.dominated_componentOf

variable [IsOrderedAddMonoid C]

/-- If there is a way, there is a cheapest one. -/
theorem PlaceMetric.exists_isLeast
    (metric : PlaceMetric graph cost)
    {total : C}
    (route : total ∈ routeCosts graph disabled cost start goal) :
    ∃ least, IsLeast (routeCosts graph disabled cost start goal) least := by
  refine exists_isLeast_route ?_ (fun _ => metric.edgeWeight_nonneg) route
  refine (((Set.finite_lt_nat graph.numVertices).prod
    (Set.finite_lt_nat graph.numVertices))).subset ?_
  rintro ⟨u, v⟩ ⟨-, uEnabled, vEnabled⟩
  exact ⟨uEnabled.1, vEnabled.1⟩

/-- One transition of phase 4 makes no way longer. -/
theorem OptimumInvariant.step
    {scene : PruneScene graph floorVertices start goal}
    (invariant : OptimumInvariant scene cost disabled)
    (metric : PlaceMetric graph cost)
    (harmless : BranchHarmless graph cost start goal (vertex, disabled))
    (transition : IsTransition graph vertex)
    (notStart : vertex ≠ start)
    (notGoal : vertex ≠ goal) :
    OptimumInvariant scene cost
      (pruneTransition graph start goal disabled vertex) := by
  have deadEnds :=
    invariant.deadEnds.step scene.place_enabled transition notStart notGoal
  rcases invariant.deadEnds.step_cases scene.place_enabled transition
      notStart notGoal with
    unchanged | cut
  · rw [unchanged]
    exact invariant
  refine ⟨deadEnds, ?_⟩
  rw [cut.remaining]
  by_cases narrow :
      scene.roomMap.rooms.Narrow start (enabledSet graph disabled) vertex
  · exact RoomGraph.Dominated.cutDoor invariant.dominated
      (metric.roomMetric scene.roomMap) invariant.deadEnds.kept
      cut.wasEnabled transition notStart notGoal
      (fun isRoom _ => scene.place_enabled isRoom) narrow cut.joined
  · -- The transition branches, but a cheapest way does not need it.
    refine invariant.dominated.trans fun total route => ?_
    have before := scene.mem_routeCosts_iff.mpr route
    obtain ⟨least, isLeast⟩ := metric.exists_isLeast before
    have avoided :=
      scene.mem_routeCosts_iff.mp
        (harmless (cut.branches invariant.deadEnds.floors narrow) least
          isLeast)
    rw [enabledSet_insert] at avoided
    obtain ⟨less, lessLe, shorter⟩ :=
      RoomGraph.dominated_componentOf least avoided
    exact ⟨less, lessLe.trans (isLeast.2 before), shorter⟩

/-- Phase 4 makes no way longer. -/
theorem OptimumInvariant.run
    {scene : PruneScene graph floorVertices start goal}
    (metric : PlaceMetric graph cost)
    (transitions : List Nat)
    (proper :
      ∀ vertex ∈ transitions,
        IsTransition graph vertex ∧ vertex ≠ start ∧ vertex ≠ goal) :
    ∀ {disabled},
      OptimumInvariant scene cost disabled →
      (∀ turn ∈ deadEndTurns graph start goal transitions disabled,
        BranchHarmless graph cost start goal turn) →
      OptimumInvariant scene cost
        (transitions.foldl (pruneTransition graph start goal)
          disabled) := by
  induction transitions with
  | nil =>
      intro disabled invariant _
      exact invariant
  | cons vertex rest inductionHypothesis =>
      intro disabled invariant harmless
      obtain ⟨⟨transition, notStart, notGoal⟩, properRest⟩ :=
        List.forall_mem_cons.mp proper
      obtain ⟨first, later⟩ := List.forall_mem_cons.mp harmless
      exact inductionHypothesis properRest
        (invariant.step metric first transition notStart notGoal) later

end Run

section Optimum

variable
  [AddCommMonoid C] [LinearOrder C] [IsOrderedAddMonoid C]
  {floorVertices : Finset Nat}
  {start goal : Nat}
  {startRoom goalRoom : Option Nat}

theorem PruneScene.keepsOptimum_iff
    (scene : PruneScene graph floorVertices start goal)
    (metric : PlaceMetric graph cost)
    (unchanged :
      disableOtherFloors graph start goal floorVertices = floorVertices)
    (otherRooms :
      sameRoomNavigation graph start goal startRoom goalRoom = false) :
    KeepsOptimum graph cost start goal
        (pruneGraph graph floorVertices startRoom goalRoom) ↔
      ∀ turn ∈ phaseFourTurns graph floorVertices start goal,
        BranchHarmless graph cost start goal turn := by
  by_cases connected :
      Linked graph.Adjacent (enabledSet graph floorVertices) start goal
  · have result := scene.pruneGraph_connected connected otherRooms
    constructor
    · intro keeps turn isTurn branches least isLeast
      obtain ⟨transition, floors⟩ := scene.turn_proper unchanged isTurn
      have removed :
          insert turn.1 turn.2 ⊆
            pruneGraph graph floorVertices startRoom goalRoom := by
        rw [result]
        exact (branches.subset_pruneTransition scene.roomMap
          (scene.floorsDisabled.mono floors) transition scene.startDoor
          scene.start_ne_goal).trans (subset_of_mem_deadEndTurns _ isTurn).2
      have fewer :
          routeCosts graph (disabledVertices graph turn.2) cost start goal ⊆
            routeCosts graph (unplannedVertices graph) cost start goal := by
        rw [← scene.disabledVertices_floors]
        exact routeCosts_anti floors
      obtain ⟨minimum, isMinimum⟩ :=
        metric.exists_isLeast (fewer isLeast.1)
      -- the least cost of all survives, so it is the least cost at the turn
      have avoided :=
        routeCosts_anti removed ((keeps minimum).mp isMinimum).1
      have same : minimum = least :=
        le_antisymm (isMinimum.2 (fewer isLeast.1))
          (isLeast.2 (routeCosts_anti (Finset.subset_insert _ _) avoided))
      exact same ▸ avoided
    · intro harmless least
      have first :
          disabledAtFirst graph floorVertices start goal =
            removeUnreachableComponents graph start floorVertices := by
        rw [disabledAtFirst, unchanged]
      have invariant :
          OptimumInvariant scene cost
            (removeDeadEnds graph start goal
              (disabledAtFirst graph floorVertices start goal)) := by
        refine OptimumInvariant.run metric _
          (scene.transitionNodes_proper _) ?_ harmless
        rw [first]
        exact scene.optimumInvariant cost unchanged connected
      rw [result, ← scene.disabledVertices_floors]
      refine isLeast_iff_of_dominated (routeCosts_anti ?_) ?_ least
      · rw [first]
        exact subset_removeUnreachableComponents.trans
          (subset_foldl_pruneTransition _)
      · intro total route
        obtain ⟨less, lessLe, shorter⟩ :=
          invariant.dominated total (scene.mem_routeCosts_iff.mp route)
        exact ⟨less, scene.mem_routeCosts_iff.mpr shorter, lessLe⟩
  · refine iff_of_true
      (scene.keepsOptimum_of_floors (scene.pruneGraph_apart connected)) ?_
    intro turn isTurn branches
    have floors := (scene.turn_proper unchanged isTurn).2
    exact absurd
      (branches.goalJoined.mono
        (enabledSet_anti (floors.trans (Finset.subset_insert _ _))))
      connected

variable [SquareRoot K]

/--
Pruning leaves the least cost of a way over transitions unchanged exactly if
start and goal are in one room or a cheapest way avoids each transition that
branches when its turn comes.
-/
theorem pruneGraph_keepsOptimum_iff
    (graph : TopologicalGraph K)
    (startRoom endRoom : Nat)
    (startCoords endCoords : Coords K)
    (penalizeZMovement : K)
    (cost : EdgeProperties K → C)
    (roomMap : IsRoomMap graph)
    (namesFree : NamesFree graph)
    (startPlace : IsPlace graph startRoom)
    (endPlace : IsPlace graph endRoom)
    (metric :
      PlaceMetric
        (requestGraph graph startRoom endRoom startCoords endCoords
          penalizeZMovement).graph cost)
    (apart :
      startRoom = endRoom ∨
        isOnSameFloor (graph.node startRoom).floor
          (graph.node endRoom).floor = false) :
    KeepsOptimum
        (requestGraph graph startRoom endRoom startCoords endCoords
          penalizeZMovement).graph
        cost graph.numVertices (graph.numVertices + 1)
        (prunedVertices graph startRoom endRoom startCoords endCoords
          penalizeZMovement) ↔
      startRoom = endRoom ∨
        ∀ turn ∈ phaseFourTurns
            (requestGraph graph startRoom endRoom startCoords endCoords
              penalizeZMovement).graph
            (TopologicalMap.ofGraph graph).floorVertices
            graph.numVertices (graph.numVertices + 1),
          BranchHarmless
            (requestGraph graph startRoom endRoom startCoords endCoords
              penalizeZMovement).graph
            cost graph.numVertices (graph.numVertices + 1) turn := by
  have scene :=
    pruneScene_requestGraph startCoords endCoords penalizeZMovement
      namesFree startPlace endPlace roomMap
  by_cases sameRoom : startRoom = endRoom
  · exact iff_of_true
      (scene.keepsOptimum_of_floors
        (scene.pruneGraph_sameRoom
          (sameRoomNavigation_requestGraph startCoords endCoords
            penalizeZMovement namesFree startPlace endPlace sameRoom)))
      (Or.inl sameRoom)
  · rw [or_iff_right sameRoom]
    refine scene.keepsOptimum_iff metric ?_
      (not_sameRoomNavigation_requestGraph startCoords endCoords
        penalizeZMovement sameRoom)
    have otherFloor := apart.resolve_left sameRoom
    simp only [disableOtherFloors,
      node_requestGraph_start startCoords endCoords penalizeZMovement
        namesFree startPlace.lt endPlace.lt,
      node_requestGraph_goal startCoords endCoords penalizeZMovement
        namesFree startPlace.lt endPlace.lt]
    simp [virtualProps, otherFloor]

end Optimum

section Samples

/-- A transition of a sample map on the x-axis. -/
def doorAt
    (id : Int32)
    (name : String)
    (x : ℚ) : NodeProperties ℚ :=
  { sampleNode id name "transition" none with position := ⟨x, 0, 0⟩ }

/-- A transition edge of a sample map. -/
def doorEdge
    (source target : Nat)
    (estimate : ℚ) : StoredEdge ℚ :=
  ⟨source, target,
    { EdgeProperties.unset with
      type := "transition"
      estimatedCost := estimate }⟩

/--
Two rooms on different floors with a far door and a near door between them;
the near door also leads to a closet.
-/
def branchingMap : TopologicalGraph ℚ where
  vertices :=
    [sampleNode 0 "hall" "room" (some ["ground"]),
      sampleNode 1 "gallery" "room" (some ["first"]),
      sampleNode 2 "closet" "room" (some ["ground"]),
      doorAt 3 "near" 2, doorAt 4 "far" 10]
  edges :=
    [sampleEdge 3 0 "room", sampleEdge 3 1 "room",
      sampleEdge 3 2 "room", sampleEdge 4 0 "room",
      sampleEdge 4 1 "room", doorEdge 3 4 8]
  endsValid := by simp [sampleEdge, doorEdge]

/-- The request from the hall to the gallery. -/
def branchingRequest : MaterializedGraph ℚ :=
  requestGraph branchingMap 0 1 (0, 0, 0) (4, 0, 0) 1

theorem potential_le_of_route
    {graph : TopologicalGraph ℚ}
    {disabled : Finset Nat}
    (potential : Nat → WithTop ℚ)
    {start last : Nat}
    {total : WithTop ℚ}
    (atStart : potential start ≤ 0)
    (bounded :
      ∀ u < graph.numVertices, ∀ v ∈ filteredTargets graph disabled u,
        potential v ≤
          potential u +
            edgeWeight graph EdgeProperties.estimatedCost u v)
    (route :
      GraphReach.Route (Within graph.Adjacent (enabledSet graph disabled))
        (edgeWeight graph EdgeProperties.estimatedCost)
        start last total) :
    potential last ≤ total := by
  induction route with
  | start =>
      exact atStart
  | @step near next total _ edge inductionHypothesis =>
      have bound :=
        bounded near edge.2.1.1 next (mem_filteredTargets_iff.mpr edge)
      exact bound.trans (by gcongr)

/-- Lower bounds for the ways to the doors and to the goal of the request. -/
def distanceBound
    (nearBound farBound goalBound : ℚ)
    (vertex : Nat) : WithTop ℚ :=
  match vertex with
  | 3 => nearBound
  | 4 => farBound
  | 6 => goalBound
  | _ => 0

/--
Removing the near door would cut the closet off, and start and goal stay
joined over the far door, so the near door is removed with the closet.
-/
theorem near_door_is_removed :
    IsRoomMap branchingMap ∧
      PlaceMetric branchingRequest.graph EdgeProperties.estimatedCost ∧
      isOnSameFloor (branchingMap.node 0).floor
        (branchingMap.node 1).floor = false ∧
      IsLeast
        (routeCosts branchingRequest.graph
          (unplannedVertices branchingRequest.graph)
          EdgeProperties.estimatedCost
          branchingRequest.startVertex branchingRequest.goalVertex)
        (4 : ℚ) ∧
      ¬IsLeast
        (routeCosts branchingRequest.graph
          (disabledVertices branchingRequest.graph
            (prunedVertices branchingMap 0 1 (0, 0, 0) (4, 0, 0) 1))
          EdgeProperties.estimatedCost
          branchingRequest.startVertex branchingRequest.goalVertex)
        (4 : ℚ) := by
  refine ⟨⟨by decide +kernel, by decide +kernel⟩,
    ⟨by decide +kernel, by decide +kernel⟩, by decide +kernel, ⟨?_, ?_⟩, ?_⟩
  · have total :
        0 + edgeWeight branchingRequest.graph
            EdgeProperties.estimatedCost 5 3 +
          edgeWeight branchingRequest.graph
            EdgeProperties.estimatedCost 3 6 = ((4 : ℚ) : WithTop ℚ) := by
      decide +kernel
    rw [← total]
    exact GraphReach.Route.step
      (GraphReach.Route.step GraphReach.Route.start
        (mem_filteredTargets_iff.mp (by decide +kernel)))
      (mem_filteredTargets_iff.mp (by decide +kernel))
  · intro total route
    exact potential_le_of_route (distanceBound 2 10 4)
      (by decide +kernel) (by decide +kernel) route
  · rintro ⟨route, -⟩
    have bound :=
      potential_le_of_route (distanceBound 0 10 16)
        (by decide +kernel) (by decide +kernel) route
    exact absurd bound (by decide +kernel)

/-- The request between two points beside the far door. -/
def besideFarDoor : MaterializedGraph ℚ :=
  requestGraph branchingMap 0 1 (9, 0, 0) (11, 0, 0) 1

/-- The near door branches here too, but the way over the far door is cheaper. -/
theorem farDoor_keepsOptimum :
    3 ∈ prunedVertices branchingMap 0 1 (9, 0, 0) (11, 0, 0) 1 ∧
      KeepsOptimum besideFarDoor.graph EdgeProperties.estimatedCost 5 6
        (prunedVertices branchingMap 0 1 (9, 0, 0) (11, 0, 0) 1) := by
  refine ⟨by decide +kernel, (pruneGraph_keepsOptimum_iff branchingMap 0 1
    (9, 0, 0) (11, 0, 0) 1 EdgeProperties.estimatedCost
    ⟨by decide +kernel, by decide +kernel⟩ (by decide +kernel)
    (by decide +kernel) (by decide +kernel)
    ⟨by decide +kernel, by decide +kernel⟩ (Or.inr (by decide +kernel))).mpr
    (Or.inr ?_)⟩
  have turns :
      phaseFourTurns besideFarDoor.graph
          (TopologicalMap.ofGraph branchingMap).floorVertices 5 6 =
        [(3, ∅), (4, {2, 3})] := by
    decide +kernel
  intro turn isTurn
  change turn ∈ phaseFourTurns besideFarDoor.graph _ 5 6 at isTurn
  rw [turns] at isTurn
  simp only [List.mem_cons, List.not_mem_nil, or_false] at isTurn
  rcases isTurn with rfl | rfl
  · -- Over the far door the way costs two, and no way costs less.
    intro _ least isLeast
    have total :
        0 + edgeWeight besideFarDoor.graph
            EdgeProperties.estimatedCost 5 4 +
          edgeWeight besideFarDoor.graph
            EdgeProperties.estimatedCost 4 6 = ((2 : ℚ) : WithTop ℚ) := by
      decide +kernel
    have farRoute :
        ((2 : ℚ) : WithTop ℚ) ∈
          routeCosts besideFarDoor.graph
            (disabledVertices besideFarDoor.graph {3})
            EdgeProperties.estimatedCost 5 6 := by
      rw [← total]
      exact GraphReach.Route.step
        (GraphReach.Route.step GraphReach.Route.start
          (mem_filteredTargets_iff.mp (by decide +kernel)))
        (mem_filteredTargets_iff.mp (by decide +kernel))
    have atLeast : ((2 : ℚ) : WithTop ℚ) ≤ least :=
      potential_le_of_route (distanceBound 7 1 2)
        (by decide +kernel) (by decide +kernel) isLeast.1
    have atMost := isLeast.2 (routeCosts_anti (Finset.empty_subset _) farRoute)
    rw [le_antisymm atMost atLeast]
    exact farRoute
  · -- The goal depends on the far door.
    rintro ⟨-, joined, -, -⟩
    have enabled := joined.mem_of_ne (by decide)
    rw [← component_filtered_iff enabled.1 enabled.2] at joined
    exact absurd joined (by decide +kernel)

end Samples

end NavBim
