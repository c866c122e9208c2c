import NavBim.RoomMap

namespace NavBim

/-!
# Pruning and the way to the goal

On a map of rooms, stairs and ramps that are joined by transitions, each
removal of phase 4 is the removal of a door together with what it cuts off,
unless phase 2 has taken a room away from the door.  A transition with fewer
than two room edges is removed unchecked, and the way to the goal survives
exactly if it never depends on such a transition when its turn comes.
-/

open GraphReach

section Steps

variable
  {K : Type} [Field K]
  {graph : TopologicalGraph K}
  {disabled : Finset Nat}
  {vertex : Nat}

theorem FloorsDisabled.mono
    {more : Finset Nat}
    (floors : FloorsDisabled graph disabled)
    (subset : disabled ⊆ more) :
    FloorsDisabled graph more :=
  fun other bound isFloor => subset (floors other bound isFloor)

/-- One removal of phase 4: a door goes with everything that it cuts off. -/
structure CutAt
    (roomMap : IsRoomMap graph)
    (start goal : Nat)
    (before after : Finset Nat)
    (vertex : Nat) : Prop where
  wasEnabled : vertex ∈ enabledSet graph before
  remaining :
    enabledSet graph after =
      roomMap.rooms.cutDoor start (enabledSet graph before) vertex
  joined :
    Linked roomMap.rooms.Adjacent (enabledSet graph before \ {vertex})
      start goal
  grounds :
    (roomMap.rooms.AtMostOneRoom vertex fun _ => True) ∨
      ∃ other ∈ enabledSet graph before,
        other ≠ vertex ∧
          ¬Linked roomMap.rooms.Adjacent
            (enabledSet graph before \ {vertex}) start other

variable
  {start goal : Nat}
  {allowed : Set Nat}

theorem pruneTransition_cut
    (roomMap : IsRoomMap graph)
    (kept :
      roomMap.rooms.Kept start goal allowed (enabledSet graph disabled))
    (floors : FloorsDisabled graph disabled)
    (transition : IsTransition graph vertex)
    (notStart : vertex ≠ start)
    (notGoal : vertex ≠ goal)
    (placesAllowed : ∀ {place}, IsPlace graph place → place ∈ allowed) :
    pruneTransition graph start goal disabled vertex = disabled ∨
      CutAt roomMap start goal disabled
        (pruneTransition graph start goal disabled vertex) vertex := by
  by_cases hidden : vertex ∈ disabled
  · left
    simp only [pruneTransition, hidden, ↓reduceIte]
  have vertexEnabled : vertex ∈ enabledSet graph disabled :=
    ⟨transition.lt, hidden⟩
  have goalEnabled := kept.goalJoined.mem kept.startEnabled
  by_cases few : numRoomEdges graph disabled vertex < 2
  · -- All rooms of the transition are enabled, so it has at most one.
    right
    have fewPlaces := few
    rw [roomMap.numRoomEdges_eq floors transition] at fewPlaces
    have deadEnd :
        roomMap.rooms.AtMostOneRoom vertex fun _ => True := by
      intro first second firstRoom secondRoom toFirst toSecond _ _
      have firstEnabled :=
        kept.roomsKept vertexEnabled transition firstRoom toFirst
          (placesAllowed firstRoom)
      have secondEnabled :=
        kept.roomsKept vertexEnabled transition secondRoom toSecond
          (placesAllowed secondRoom)
      exact places_eq_of_numPlaces_lt fewPlaces toFirst.1 toSecond.1
        firstEnabled.2 secondEnabled.2 firstRoom secondRoom
    simp only [pruneTransition, hidden, ↓reduceIte, few]
    refine ⟨vertexEnabled, ?_, ?_, Or.inl deadEnd⟩
    · rw [kept.cutDoor_deadEnd transition notStart deadEnd,
        enabledSet_insert]
    · exact kept.joined_without_deadEnd transition notStart deadEnd
        goalEnabled notGoal.symm
  · have testFloors : FloorsDisabled graph (insert vertex disabled) :=
      floors.mono (Finset.subset_insert _ _)
    have sameLinked :=
      roomMap.linked_iff (fun _ => testFloors.not_floor)
    have startEnabled :
        start ∈ enabledSet graph (insert vertex disabled) := by
      rw [enabledSet_insert]
      exact ⟨kept.startEnabled, notStart.symm⟩
    have goalTest :
        goal ∈ enabledSet graph (insert vertex disabled) := by
      rw [enabledSet_insert]
      exact ⟨goalEnabled, notGoal.symm⟩
    by_cases splits :
        1 < (filteredComponents graph (insert vertex disabled)).count ∧
          (filteredComponents graph (insert vertex disabled)).component
              start =
            (filteredComponents graph (insert vertex disabled)).component
              goal
    · right
      simp only [pruneTransition, hidden, ↓reduceIte, few, splits,
        and_self]
      rw [one_lt_count_filtered_iff startEnabled,
        component_filtered_iff startEnabled goalTest, ← sameLinked,
        enabledSet_insert] at splits
      obtain ⟨⟨other, otherEnabled, cutOff⟩, joined⟩ := splits
      refine ⟨vertexEnabled, ?_, joined, Or.inr
        ⟨other, otherEnabled.1, otherEnabled.2, cutOff⟩⟩
      rw [enabledSet_union_otherComponents startEnabled]
      unfold RoomGraph.cutDoor componentOf
      rw [← sameLinked, enabledSet_insert]
    · left
      simp only [pruneTransition, hidden, ↓reduceIte, few, splits]

variable {first : Finset Nat}

/-- What holds of the disabled vertices while phase 4 runs. -/
structure DeadEndsInvariant
    (roomMap : IsRoomMap graph)
    (start goal : Nat)
    (first disabled : Finset Nat) : Prop where
  floors : FloorsDisabled graph disabled
  kept :
    roomMap.rooms.Kept start goal (enabledSet graph first)
      (enabledSet graph disabled)

section

variable
  {roomMap : IsRoomMap graph}
  (invariant : DeadEndsInvariant roomMap start goal first disabled)
  (placesFirst :
    ∀ {place}, IsPlace graph place → place ∈ enabledSet graph first)
  (transition : IsTransition graph vertex)
  (notStart : vertex ≠ start)
  (notGoal : vertex ≠ goal)

include invariant placesFirst transition notStart notGoal

theorem DeadEndsInvariant.step_cases :
    pruneTransition graph start goal disabled vertex = disabled ∨
      CutAt roomMap start goal disabled
        (pruneTransition graph start goal disabled vertex) vertex :=
  pruneTransition_cut roomMap invariant.kept invariant.floors transition
    notStart notGoal placesFirst

theorem DeadEndsInvariant.step :
    DeadEndsInvariant roomMap start goal first
      (pruneTransition graph start goal disabled vertex) := by
  rcases invariant.step_cases placesFirst transition notStart notGoal with
    unchanged | cut
  · rw [unchanged]
    exact invariant
  · refine ⟨invariant.floors.mono subset_pruneTransition, ?_⟩
    rw [cut.remaining]
    exact invariant.kept.cutDoor transition notStart cut.joined

end

end Steps

section Turns

variable
  {K : Type}
  {graph : TopologicalGraph K}
  {start goal vertex : Nat}
  {disabled : Finset Nat}

/-- The turns of phase 4: each transition with the vertices that are disabled
when its turn comes. -/
def deadEndTurns
    (graph : TopologicalGraph K)
    (start goal : Nat) :
    List Nat → Finset Nat → List (Nat × Finset Nat)
  | [], _ => []
  | vertex :: rest, disabled =>
      (vertex, disabled) ::
        deadEndTurns graph start goal rest
          (pruneTransition graph start goal disabled vertex)

theorem subset_foldl_pruneTransition
    (transitions : List Nat) :
    ∀ {disabled},
      disabled ⊆
        transitions.foldl (pruneTransition graph start goal) disabled := by
  induction transitions with
  | nil =>
      intro disabled
      exact subset_rfl
  | cons vertex rest inductionHypothesis =>
      intro disabled
      exact subset_pruneTransition.trans inductionHypothesis

/-- What is disabled only grows from turn to turn. -/
theorem subset_of_mem_deadEndTurns
    (transitions : List Nat)
    {turn : Nat × Finset Nat} :
    ∀ {disabled},
      turn ∈ deadEndTurns graph start goal transitions disabled →
      disabled ⊆ turn.2 ∧
        pruneTransition graph start goal turn.2 turn.1 ⊆
          transitions.foldl (pruneTransition graph start goal)
            disabled := by
  induction transitions with
  | nil =>
      intro disabled isTurn
      cases isTurn
  | cons vertex rest inductionHypothesis =>
      intro disabled isTurn
      rcases List.mem_cons.mp isTurn with isFirst | isLater
      · rw [isFirst]
        exact ⟨subset_rfl, subset_foldl_pruneTransition rest⟩
      · obtain ⟨more, fewer⟩ := inductionHypothesis isLater
        exact ⟨subset_pruneTransition.trans more, fewer⟩

theorem mem_of_mem_deadEndTurns
    (transitions : List Nat)
    {turn : Nat × Finset Nat} :
    ∀ {disabled},
      turn ∈ deadEndTurns graph start goal transitions disabled →
      turn.1 ∈ transitions := by
  induction transitions with
  | nil =>
      intro disabled isTurn
      cases isTurn
  | cons first rest inductionHypothesis =>
      intro disabled isTurn
      rcases List.mem_cons.mp isTurn with isFirst | isLater
      · rw [isFirst]
        exact List.mem_cons_self
      · exact List.mem_cons_of_mem _ (inductionHypothesis isLater)

theorem enabledSet_anti
    {more : Finset Nat}
    (subset : disabled ⊆ more) :
    enabledSet graph more ⊆ enabledSet graph disabled :=
  fun _ enabled => ⟨enabled.1, fun hidden => enabled.2 (subset hidden)⟩

/-- The goal does not depend on the transition if its turn comes and it has
fewer than two room edges. -/
def UncheckedHarmless
    (graph : TopologicalGraph K)
    (start goal : Nat)
    (turn : Nat × Finset Nat) : Prop :=
  turn.1 ∉ turn.2 →
    numRoomEdges graph turn.2 turn.1 < 2 →
      Linked graph.Adjacent
        (enabledSet graph (insert turn.1 turn.2)) start goal

/-- All other removals are checked. -/
theorem joined_pruneTransition
    (different : start ≠ goal)
    (notStart : vertex ≠ start)
    (notGoal : vertex ≠ goal)
    (joined :
      Linked graph.Adjacent (enabledSet graph disabled) start goal)
    (harmless : UncheckedHarmless graph start goal (vertex, disabled)) :
    Linked graph.Adjacent
      (enabledSet graph (pruneTransition graph start goal disabled vertex))
      start goal := by
  obtain ⟨startEnabled, goalEnabled⟩ := joined.mem_of_ne different
  have startTest : start ∈ enabledSet graph (insert vertex disabled) := by
    rw [enabledSet_insert]
    exact ⟨startEnabled, notStart.symm⟩
  have goalTest : goal ∈ enabledSet graph (insert vertex disabled) := by
    rw [enabledSet_insert]
    exact ⟨goalEnabled, notGoal.symm⟩
  simp only [pruneTransition]
  split_ifs with hidden few splits
  · exact joined
  · exact harmless hidden few
  · rw [enabledSet_union_otherComponents startTest]
    exact joined_componentOf
      ((component_filtered_iff startTest goalTest).mp splits.2)
  · exact joined

/-- Phase 4 keeps the way to the goal exactly if its unchecked removals do. -/
theorem joined_foldl_iff
    (different : start ≠ goal)
    (transitions : List Nat)
    (proper : ∀ vertex ∈ transitions, vertex ≠ start ∧ vertex ≠ goal) :
    ∀ {disabled},
      Linked graph.Adjacent (enabledSet graph disabled) start goal →
      (Linked graph.Adjacent
          (enabledSet graph
            (transitions.foldl (pruneTransition graph start goal)
              disabled))
          start goal ↔
        ∀ turn ∈ deadEndTurns graph start goal transitions disabled,
          UncheckedHarmless graph start goal turn) := by
  induction transitions with
  | nil =>
      intro disabled joined
      exact iff_of_true joined nofun
  | cons vertex rest inductionHypothesis =>
      intro disabled joined
      obtain ⟨⟨notStart, notGoal⟩, properRest⟩ :=
        List.forall_mem_cons.mp proper
      rw [List.foldl_cons, deadEndTurns, List.forall_mem_cons]
      constructor
      · intro atEnd
        have after := atEnd.mono
          (enabledSet_anti (subset_foldl_pruneTransition rest))
        refine ⟨?_, (inductionHypothesis properRest after).mp atEnd⟩
        -- an unchecked removal that separates the two is never undone
        intro hidden few
        simpa only [pruneTransition, if_neg hidden, if_pos few] using after
      · rintro ⟨harmless, later⟩
        exact (inductionHypothesis properRest
          (joined_pruneTransition different notStart notGoal joined
            harmless)).mpr later

end Turns

section Scene

variable
  {K : Type} [Field K]

/-- The vertices that stay enabled when other floors are disabled. -/
def otherFloorsDisabled
    (graph : TopologicalGraph K)
    (floorVertices : Finset Nat)
    (start : Nat) : Finset Nat :=
  floorVertices ∪ otherFloorVertices graph start

/-- What is disabled when phase 4 begins. -/
def disabledAtFirst
    (graph : TopologicalGraph K)
    (floorVertices : Finset Nat)
    (start goal : Nat) : Finset Nat :=
  removeUnreachableComponents graph start
    (disableOtherFloors graph start goal floorVertices)

/-- The turns of phase 4 in `pruneGraph`. -/
def phaseFourTurns
    (graph : TopologicalGraph K)
    (floorVertices : Finset Nat)
    (start goal : Nat) : List (Nat × Finset Nat) :=
  deadEndTurns graph start goal
    (transitionNodes graph
      (disabledAtFirst graph floorVertices start goal))
    (disabledAtFirst graph floorVertices start goal)

variable
  {pruned : Finset Nat}

/-- A transition that is not pruned stays enabled for the planner. -/
theorem not_mem_disabledVertices
    {graph : TopologicalGraph K}
    {vertex : Nat}
    (transition : IsTransition graph vertex)
    (notPruned : vertex ∉ pruned) :
    vertex ∉ disabledVertices graph pruned := by
  have notPlace := transition.not_place
  have notFloor := transition.not_floor
  simp only [IsPlace, IsFloor] at notPlace notFloor
  simp [disabledVertices, unplannedVertices, notPlace, notFloor,
    notPruned]

/-- A map of rooms with a start and a goal, as `pruneGraph` finds it. -/
structure PruneScene
    (graph : TopologicalGraph K)
    (floorVertices : Finset Nat)
    (start goal : Nat) : Prop where
  roomMap : IsRoomMap graph
  found : findStartAndGoal graph = (some start, some goal)
  startName : (graph.node start).name = "start"
  goalName : (graph.node goal).name = "goal"
  startDoor : IsTransition graph start
  goalDoor : IsTransition graph goal
  floors :
    ∀ vertex,
      vertex ∈ floorVertices ↔
        vertex < graph.numVertices ∧ IsFloor graph vertex

namespace PruneScene

variable
  {graph : TopologicalGraph K}
  {floorVertices : Finset Nat}
  {start goal : Nat}

section

variable
  (scene : PruneScene graph floorVertices start goal)

include scene

theorem start_ne_goal :
    start ≠ goal := by
  intro same
  have startName := scene.startName
  rw [same, scene.goalName] at startName
  exact absurd startName (by decide)

theorem floorsDisabled :
    FloorsDisabled graph floorVertices :=
  fun vertex bound isFloor => (scene.floors vertex).mpr ⟨bound, isFloor⟩

theorem enabled_of_transition
    {vertex : Nat}
    (transition : IsTransition graph vertex) :
    vertex ∈ enabledSet graph floorVertices := by
  refine ⟨transition.lt, ?_⟩
  intro isFloor
  exact transition.not_floor ((scene.floors vertex).mp isFloor).2

theorem transitionNodes_proper
    (disabled : Finset Nat) :
    ∀ vertex ∈ transitionNodes graph disabled,
      IsTransition graph vertex ∧ vertex ≠ start ∧ vertex ≠ goal := by
  intro vertex member
  have test := List.of_mem_filter member
  simp only [Bool.and_eq_true, beq_iff_eq, bne_iff_ne] at test
  refine ⟨test.1.1, ?_, ?_⟩
  · intro isStart
    exact test.1.2 (by rw [isStart, scene.startName])
  · intro isGoal
    exact test.2 (by rw [isGoal, scene.goalName])

theorem enabled_on_floor
    {vertex : Nat}
    (transition : IsTransition graph vertex)
    (onFloor :
      isOnSameFloor (graph.node vertex).floor
        (graph.node start).floor = true) :
    vertex ∈ enabledSet graph
      (otherFloorsDisabled graph floorVertices start) := by
  have enabled := scene.enabled_of_transition transition
  refine ⟨enabled.1, ?_⟩
  simp only [otherFloorsDisabled, otherFloorVertices, Finset.mem_union,
    List.mem_toFinset, List.mem_filter, onFloor, not_or]
  exact ⟨enabled.2, by simp⟩

theorem disableOtherFloors_cases :
    disableOtherFloors graph start goal floorVertices = floorVertices ∨
      (disableOtherFloors graph start goal floorVertices =
          otherFloorsDisabled graph floorVertices start ∧
        isOnSameFloor (graph.node start).floor
          (graph.node goal).floor = true ∧
        Linked graph.Adjacent
          (enabledSet graph
            (otherFloorsDisabled graph floorVertices start))
          start goal) := by
  unfold disableOtherFloors
  split_ifs with sameFloor
  · simp only
    split_ifs with someOther sameComponent
    · right
      have goalFloor := isOnSameFloor_symm sameFloor
      have startFloor := isOnSameFloor_self sameFloor
      exact ⟨rfl, sameFloor,
        (component_filtered_iff
          (scene.enabled_on_floor scene.startDoor startFloor)
          (scene.enabled_on_floor scene.goalDoor goalFloor)).mp
            sameComponent⟩
    · exact Or.inl rfl
    · exact Or.inl rfl
  · exact Or.inl rfl

theorem joined_after_otherFloors
    (connected :
      Linked graph.Adjacent (enabledSet graph floorVertices)
        start goal) :
    Linked graph.Adjacent
      (enabledSet graph
        (disableOtherFloors graph start goal floorVertices))
      start goal := by
  rcases scene.disableOtherFloors_cases with unchanged | ⟨added, -, joined⟩
  · rw [unchanged]
    exact connected
  · rw [added]
    exact joined

theorem floorsDisabled_after_otherFloors :
    FloorsDisabled graph
      (disableOtherFloors graph start goal floorVertices) := by
  rcases scene.disableOtherFloors_cases with unchanged | ⟨added, -⟩
  · rw [unchanged]
    exact scene.floorsDisabled
  · rw [added]
    exact scene.floorsDisabled.mono Finset.subset_union_left

/-- Every place is enabled at first. -/
theorem place_enabled
    {place : Nat}
    (isPlace : IsPlace graph place) :
    place ∈ enabledSet graph floorVertices := by
  refine ⟨isPlace.lt, ?_⟩
  intro isFloor
  exact isPlace.not_floor ((scene.floors place).mp isFloor).2

/-- Phase 3 establishes the invariant of phase 4. -/
theorem deadEndsInvariant
    (connected :
      Linked graph.Adjacent (enabledSet graph floorVertices)
        start goal) :
    DeadEndsInvariant scene.roomMap start goal
      (disableOtherFloors graph start goal floorVertices)
      (removeUnreachableComponents graph start
        (disableOtherFloors graph start goal floorVertices)) := by
  have floors := scene.floorsDisabled_after_otherFloors
  have joined := scene.joined_after_otherFloors connected
  have startEnabled :=
    (joined.mem_of_ne scene.start_ne_goal).1
  have sameLinked :=
    scene.roomMap.linked_iff (fun _ => floors.not_floor)
  refine ⟨floors.mono subset_removeUnreachableComponents, ?_⟩
  rw [enabledSet_removeUnreachableComponents startEnabled]
  have sameComponent :
      componentOf graph.Adjacent
          (enabledSet graph
            (disableOtherFloors graph start goal floorVertices)) start =
        componentOf scene.roomMap.rooms.Adjacent
          (enabledSet graph
            (disableOtherFloors graph start goal floorVertices))
          start := by
    unfold componentOf
    rw [sameLinked]
  rw [sameComponent]
  exact RoomGraph.kept_componentOf startEnabled (by rw [sameLinked]; exact joined)

theorem joined_at_first
    (connected :
      Linked graph.Adjacent (enabledSet graph floorVertices) start goal) :
    Linked graph.Adjacent
      (enabledSet graph (disabledAtFirst graph floorVertices start goal))
      start goal := by
  have joined := scene.joined_after_otherFloors connected
  rw [disabledAtFirst, enabledSet_removeUnreachableComponents
    (joined.mem_of_ne scene.start_ne_goal).1]
  exact joined_componentOf joined

theorem floorsDisabled_at_first :
    FloorsDisabled graph
      (disabledAtFirst graph floorVertices start goal) :=
  scene.floorsDisabled_after_otherFloors.mono
    subset_removeUnreachableComponents

theorem joined_for_planner
    (joined :
      Linked scene.roomMap.rooms.Adjacent (enabledSet graph pruned)
        start goal) :
    Linked graph.Adjacent
      (enabledSet graph (disabledVertices graph pruned)) start goal := by
  have overDoors :=
    scene.roomMap.rooms.joined_doors scene.startDoor scene.goalDoor joined
  refine Relation.ReflTransGen.mono ?_ _ _ overDoors
  rintro near far ⟨adjacent, nearDoor, farDoor⟩
  refine ⟨adjacent.1, ⟨nearDoor.1.1, ?_⟩, farDoor.1.1, ?_⟩
  · exact not_mem_disabledVertices nearDoor.2 nearDoor.1.2
  · exact not_mem_disabledVertices farDoor.2 farDoor.1.2

end

variable {startRoom goalRoom : Option Nat}

section

variable
  (scene : PruneScene graph floorVertices start goal)

include scene

theorem pruneGraph_sameRoom
    (sameRoom :
      sameRoomNavigation graph start goal startRoom goalRoom = true) :
    pruneGraph graph floorVertices startRoom goalRoom = floorVertices := by
  simp only [pruneGraph, scene.found, sameRoom]
  split
  · rfl
  · rfl

theorem pruneGraph_apart
    (apart :
      ¬Linked graph.Adjacent (enabledSet graph floorVertices) start goal) :
    pruneGraph graph floorVertices startRoom goalRoom = floorVertices := by
  rw [← component_filtered_iff
    (scene.enabled_of_transition scene.startDoor)
    (scene.enabled_of_transition scene.goalDoor)] at apart
  simp [pruneGraph, scene.found, apart]

theorem pruneGraph_connected
    (connected :
      Linked graph.Adjacent (enabledSet graph floorVertices) start goal)
    (otherRooms :
      sameRoomNavigation graph start goal startRoom goalRoom = false) :
    pruneGraph graph floorVertices startRoom goalRoom =
      removeDeadEnds graph start goal
        (disabledAtFirst graph floorVertices start goal) := by
  rw [← component_filtered_iff
    (scene.enabled_of_transition scene.startDoor)
    (scene.enabled_of_transition scene.goalDoor)] at connected
  simp [pruneGraph, scene.found, connected, otherRooms, disabledAtFirst]

theorem joined_for_planner_iff
    (floors : FloorsDisabled graph pruned) :
    (start ∉ pruned ∧
        goal ∉ pruned ∧
        Linked graph.Adjacent
          (enabledSet graph (disabledVertices graph pruned)) start goal) ↔
      Linked graph.Adjacent (enabledSet graph pruned) start goal := by
  constructor
  · rintro ⟨-, -, joined⟩
    exact joined.mono (enabledSet_anti Finset.subset_union_right)
  · intro joined
    have enabled := joined.mem_of_ne scene.start_ne_goal
    rw [← scene.roomMap.linked_iff (fun _ => floors.not_floor)] at joined
    exact ⟨enabled.1.2, enabled.2.2, scene.joined_for_planner joined⟩

theorem pruneGraph_keeps_goal_iff
    (connected :
      Linked graph.Adjacent (enabledSet graph floorVertices) start goal)
    (otherRooms :
      sameRoomNavigation graph start goal startRoom goalRoom = false) :
    (start ∉ pruneGraph graph floorVertices startRoom goalRoom ∧
        goal ∉ pruneGraph graph floorVertices startRoom goalRoom ∧
        Linked graph.Adjacent
          (enabledSet graph
            (disabledVertices graph
              (pruneGraph graph floorVertices startRoom goalRoom)))
          start goal) ↔
      ∀ turn ∈ phaseFourTurns graph floorVertices start goal,
        UncheckedHarmless graph start goal turn := by
  rw [scene.pruneGraph_connected connected otherRooms, removeDeadEnds,
    scene.joined_for_planner_iff
      (scene.floorsDisabled_at_first.mono (subset_foldl_pruneTransition _))]
  exact joined_foldl_iff scene.start_ne_goal _
    (fun vertex member => (scene.transitionNodes_proper _ vertex member).2)
    (scene.joined_at_first connected)

end

end PruneScene

end Scene

section Request

variable
  {K : Type} [Field K] [SquareRoot K]
  {graph : TopologicalGraph K}
  {startRoom endRoom : Nat}
  (startCoords endCoords : Coords K)
  (penalizeZMovement : K)

/-- Vertices with other names are passed over. -/
theorem foldl_lookForEnds_of_other
    {K : Type} [Field K]
    {graph : TopologicalGraph K}
    (vertices : List Nat)
    (other :
      ∀ vertex ∈ vertices,
        (graph.node vertex).name ≠ "start" ∧
          (graph.node vertex).name ≠ "goal") :
    vertices.foldl (lookForEnds graph) (none, none) = (none, none) := by
  induction vertices with
  | nil =>
      rfl
  | cons vertex rest inductionHypothesis =>
      have names := other vertex (by simp)
      have skipped :
          lookForEnds graph (none, none) vertex = (none, none) := by
        simp [lookForEnds, names]
      rw [List.foldl_cons, skipped]
      exact inductionHypothesis
        fun next member => other next (by simp [member])

theorem mem_floorVertices_ofGraph
    {K : Type} [Field K]
    {graph : TopologicalGraph K}
    {vertex : Nat} :
    vertex ∈ (TopologicalMap.ofGraph graph).floorVertices ↔
      vertex < graph.numVertices ∧ IsFloor graph vertex := by
  simp only [TopologicalMap.ofGraph, TopologicalMap.floorVerticesOf,
    List.mem_toFinset, List.mem_map, List.mem_filter, beq_iff_eq,
    IsFloor, TopologicalGraph.node, TopologicalGraph.numVertices]
  constructor
  · rintro ⟨⟨node, index⟩, ⟨member, isFloor⟩, isVertex⟩
    simp only at isFloor isVertex
    subst isVertex
    have atIndex := List.mem_zipIdx_iff_getElem?.mp member
    simp only at atIndex
    have bound := (List.getElem?_eq_some_iff.mp atIndex).1
    refine ⟨bound, ?_⟩
    rw [List.getD_eq_getElem?_getD, atIndex]
    exact isFloor
  · rintro ⟨bound, isFloor⟩
    rw [List.getD_eq_getElem _ _ bound] at isFloor
    exact ⟨(graph.vertices[vertex], vertex),
      ⟨List.mem_zipIdx_iff_getElem?.mpr (by simp), isFloor⟩, rfl⟩

variable
  (namesFree : NamesFree graph)
  (startPlace : IsPlace graph startRoom)
  (endPlace : IsPlace graph endRoom)

include namesFree startPlace endPlace

/-- The virtual nodes are found by their names. -/
theorem findStartAndGoal_requestGraph :
    findStartAndGoal
        (requestGraph graph startRoom endRoom startCoords endCoords
          penalizeZMovement).graph =
      (some graph.numVertices, some (graph.numVertices + 1)) := by
  have startNode :=
    node_requestGraph_start startCoords endCoords penalizeZMovement
      namesFree startPlace.lt endPlace.lt
  have goalNode :=
    node_requestGraph_goal startCoords endCoords penalizeZMovement
      namesFree startPlace.lt endPlace.lt
  unfold findStartAndGoal
  rw [numVertices_requestGraph startCoords endCoords penalizeZMovement
    namesFree startPlace.lt endPlace.lt, List.range_succ,
    List.range_succ, List.foldl_append, List.foldl_append,
    foldl_lookForEnds_of_other]
  · simp [lookForEnds, startNode, goalNode, virtualProps]
  · intro vertex member
    have old := List.mem_range.mp member
    rw [node_requestGraph_old startCoords endCoords penalizeZMovement
      namesFree startPlace.lt endPlace.lt old]
    apply namesFree
    rw [TopologicalGraph.node, List.getD_eq_getElem _ _ old]
    exact List.getElem_mem _

theorem sameRoomNavigation_requestGraph
    (sameRoom : startRoom = endRoom) :
    sameRoomNavigation
      (requestGraph graph startRoom endRoom startCoords endCoords
        penalizeZMovement).graph
      graph.numVertices (graph.numVertices + 1)
      (some startRoom) (some endRoom) = true := by
  have found :=
    TopologicalGraph.edge?_isSome_iff.mpr
      (mem_outTargets_requestGraph_direct startCoords endCoords
        penalizeZMovement namesFree startPlace endPlace sameRoom)
  subst sameRoom
  simp [sameRoomNavigation, found]

omit namesFree startPlace endPlace in
theorem not_sameRoomNavigation_requestGraph
    (otherRoom : startRoom ≠ endRoom) :
    sameRoomNavigation
      (requestGraph graph startRoom endRoom startCoords endCoords
        penalizeZMovement).graph
      graph.numVertices (graph.numVertices + 1)
      (some startRoom) (some endRoom) = false := by
  simp [sameRoomNavigation, otherRoom]

theorem pruneScene_requestGraph
    (roomMap : IsRoomMap graph) :
    PruneScene
      (requestGraph graph startRoom endRoom startCoords endCoords
        penalizeZMovement).graph
      (TopologicalMap.ofGraph graph).floorVertices
      graph.numVertices (graph.numVertices + 1) := by
  obtain ⟨old, isStart, isGoal⟩ :=
    kinds_requestGraph startCoords endCoords penalizeZMovement namesFree
      startPlace endPlace
  refine
    { roomMap :=
        isRoomMap_requestGraph startCoords endCoords penalizeZMovement
          namesFree startPlace endPlace roomMap
      found :=
        findStartAndGoal_requestGraph startCoords endCoords
          penalizeZMovement namesFree startPlace endPlace
      startName := ?_
      goalName := ?_
      startDoor := isStart
      goalDoor := isGoal
      floors := ?_ }
  · rw [node_requestGraph_start startCoords endCoords penalizeZMovement
      namesFree startPlace.lt endPlace.lt]
    rfl
  · rw [node_requestGraph_goal startCoords endCoords penalizeZMovement
      namesFree startPlace.lt endPlace.lt]
    rfl
  · intro vertex
    rw [mem_floorVertices_ofGraph,
      numVertices_requestGraph startCoords endCoords penalizeZMovement
        namesFree startPlace.lt endPlace.lt]
    constructor
    · rintro ⟨bound, isFloor⟩
      exact ⟨by omega, (old vertex bound).2.2.mpr isFloor⟩
    · rintro ⟨bound, isFloor⟩
      by_cases isOld : vertex < graph.numVertices
      · exact ⟨isOld, (old vertex isOld).2.2.mp isFloor⟩
      · have isNew :
            vertex = graph.numVertices ∨
              vertex = graph.numVertices + 1 := by
          omega
        rcases isNew with same | same
        · rw [same] at isFloor
          exact absurd isFloor isStart.not_floor
        · rw [same] at isFloor
          exact absurd isFloor isGoal.not_floor

end Request

section Goal

variable
  {K : Type} [Field K] [SquareRoot K]

/-- The vertices that `pruneGraph` returns for a request. -/
def prunedVertices
    (graph : TopologicalGraph K)
    (startRoom endRoom : Nat)
    (startCoords endCoords : Coords K)
    (penalizeZMovement : K) : Finset Nat :=
  pruneGraph
    (requestGraph graph startRoom endRoom startCoords endCoords
      penalizeZMovement).graph
    (TopologicalMap.ofGraph graph).floorVertices
    (some startRoom) (some endRoom)

/-- Pruning keeps start, goal and a way between them for the planner. -/
def KeepsGoal
    (request : MaterializedGraph K)
    (pruned : Finset Nat) : Prop :=
  request.startVertex ∉ pruned ∧
    request.goalVertex ∉ pruned ∧
    Linked request.graph.Adjacent
      (enabledSet request.graph (disabledVertices request.graph pruned))
      request.startVertex request.goalVertex

/--
Pruning keeps a reachable goal exactly if start and goal are in one room or the
goal never depends on a transition that phase 4 removes unchecked.
-/
theorem pruneGraph_keepsGoal_iff
    (graph : TopologicalGraph K)
    (startRoom endRoom : Nat)
    (startCoords endCoords : Coords K)
    (penalizeZMovement : K)
    (roomMap : IsRoomMap graph)
    (namesFree : NamesFree graph)
    (startPlace : IsPlace graph startRoom)
    (endPlace : IsPlace graph endRoom)
    (connected :
      Linked
        (requestGraph graph startRoom endRoom startCoords endCoords
          penalizeZMovement).graph.Adjacent
        (enabledSet
          (requestGraph graph startRoom endRoom startCoords endCoords
            penalizeZMovement).graph
          (TopologicalMap.ofGraph graph).floorVertices)
        graph.numVertices (graph.numVertices + 1)) :
    KeepsGoal
        (requestGraph graph startRoom endRoom startCoords endCoords
          penalizeZMovement)
        (prunedVertices graph startRoom endRoom startCoords endCoords
          penalizeZMovement) ↔
      startRoom = endRoom ∨
        ∀ turn ∈ phaseFourTurns
            (requestGraph graph startRoom endRoom startCoords endCoords
              penalizeZMovement).graph
            (TopologicalMap.ofGraph graph).floorVertices
            graph.numVertices (graph.numVertices + 1),
          UncheckedHarmless
            (requestGraph graph startRoom endRoom startCoords endCoords
              penalizeZMovement).graph
            graph.numVertices (graph.numVertices + 1) turn := by
  have scene :=
    pruneScene_requestGraph startCoords endCoords penalizeZMovement
      namesFree startPlace endPlace roomMap
  have spec :=
    requestGraph_spec startCoords endCoords penalizeZMovement namesFree
      startPlace.lt endPlace.lt
  rw [KeepsGoal, spec.1, spec.2.1, prunedVertices]
  by_cases sameRoom : startRoom = endRoom
  · rw [scene.pruneGraph_sameRoom
      (sameRoomNavigation_requestGraph startCoords endCoords
        penalizeZMovement namesFree startPlace endPlace sameRoom)]
    exact iff_of_true
      ((scene.joined_for_planner_iff scene.floorsDisabled).mpr connected)
      (Or.inl sameRoom)
  · rw [or_iff_right sameRoom]
    exact scene.pruneGraph_keeps_goal_iff connected
      (not_sameRoomNavigation_requestGraph startCoords endCoords
        penalizeZMovement sameRoom)

end Goal

section Samples

/-- A node of a sample map. -/
def sampleNode
    (id : Int32)
    (name type : String)
    (floor : Option (List String)) : NodeProperties ℚ :=
  { NodeProperties.unset with
    id := id
    name := name
    type := type
    floor := floor }

/-- An edge of a sample map. -/
def sampleEdge
    (source target : Nat)
    (type : String) : StoredEdge ℚ :=
  ⟨source, target, { EdgeProperties.unset with type := type }⟩

/-- Two rooms of one floor that are joined over a stair only. -/
def stairMap : TopologicalGraph ℚ where
  vertices :=
    [sampleNode 0 "west" "room" (some ["ground"]),
      sampleNode 1 "east" "room" (some ["ground"]),
      sampleNode 2 "steps" "stair" none,
      sampleNode 3 "stair_start" "transition" (some ["ground"]),
      sampleNode 4 "stair_end" "transition" (some ["ground"])]
  edges :=
    [sampleEdge 3 2 "room", sampleEdge 4 2 "room",
      sampleEdge 3 0 "room", sampleEdge 4 1 "room",
      sampleEdge 3 4 "transition"]
  endsValid := by simp [sampleEdge]

/-- The request from the western to the eastern room. -/
def stairRequest : MaterializedGraph ℚ :=
  requestGraph stairMap 0 1 (0, 0, 0) (1, 0, 0) 1

/--
The stair is on no floor, so phase 2 disables it; then both transitions have
one room edge left and are removed although the goal depends on them.
-/
theorem stair_transitions_are_lost :
    IsRoomMap stairMap ∧
      Linked stairRequest.graph.Adjacent
        (enabledSet stairRequest.graph
          (TopologicalMap.ofGraph stairMap).floorVertices)
        stairRequest.startVertex stairRequest.goalVertex ∧
      ¬KeepsGoal stairRequest
        (prunedVertices stairMap 0 1 (0, 0, 0) (1, 0, 0) 1) := by
  refine ⟨⟨by decide +kernel, by decide +kernel⟩, ?_, ?_⟩
  · rw [← component_filtered_iff ⟨by decide +kernel, by decide +kernel⟩
      ⟨by decide +kernel, by decide +kernel⟩]
    decide +kernel
  · rintro ⟨-, -, joined⟩
    have enabled :=
      joined.mem_of_ne (by decide +kernel)
    rw [← component_filtered_iff enabled.1 enabled.2] at joined
    exact absurd joined (by decide +kernel)

/-- The rooms are also joined by a door. -/
def doorMap : TopologicalGraph ℚ where
  vertices := stairMap.vertices ++
    [sampleNode 5 "door" "transition" (some ["ground"])]
  edges := stairMap.edges ++
    [sampleEdge 5 0 "room", sampleEdge 5 1 "room",
      sampleEdge 3 5 "transition", sampleEdge 4 5 "transition"]
  endsValid := by simp [sampleEdge, stairMap]

/-- The transitions of the stair are removed unchecked, but there is the door. -/
theorem doorMap_keepsGoal :
    3 ∈ prunedVertices doorMap 0 1 (0, 0, 0) (1, 0, 0) 1 ∧
      KeepsGoal (requestGraph doorMap 0 1 (0, 0, 0) (1, 0, 0) 1)
        (prunedVertices doorMap 0 1 (0, 0, 0) (1, 0, 0) 1) := by
  refine ⟨by decide +kernel, (pruneGraph_keepsGoal_iff doorMap 0 1 (0, 0, 0)
    (1, 0, 0) 1 ⟨by decide +kernel, by decide +kernel⟩ (by decide +kernel)
    (by decide +kernel) (by decide +kernel) ?_).mpr (Or.inr ?_)⟩
  · rw [← component_filtered_iff ⟨by decide +kernel, by decide +kernel⟩
      ⟨by decide +kernel, by decide +kernel⟩]
    decide +kernel
  · have joined :
        ∀ turn ∈ phaseFourTurns
            (requestGraph doorMap 0 1 (0, 0, 0) (1, 0, 0) 1).graph
            (TopologicalMap.ofGraph doorMap).floorVertices 6 7,
          turn.1 ∉ turn.2 →
            numRoomEdges
                (requestGraph doorMap 0 1 (0, 0, 0) (1, 0, 0) 1).graph
                turn.2 turn.1 < 2 →
              (6 ∉ insert turn.1 turn.2 ∧ 7 ∉ insert turn.1 turn.2) ∧
                (filteredComponents
                    (requestGraph doorMap 0 1 (0, 0, 0) (1, 0, 0) 1).graph
                    (insert turn.1 turn.2)).component 6 =
                  (filteredComponents
                    (requestGraph doorMap 0 1 (0, 0, 0) (1, 0, 0) 1).graph
                    (insert turn.1 turn.2)).component 7 := by
      decide +kernel
    intro turn isTurn hidden few
    obtain ⟨⟨start, goal⟩, same⟩ := joined turn isTurn hidden few
    exact (component_filtered_iff ⟨by decide +kernel, start⟩
      ⟨by decide +kernel, goal⟩).mp same

end Samples

end NavBim
