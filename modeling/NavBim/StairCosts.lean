import NavBim.Numerals
import NavBim.TransitionEdges

namespace NavBim

/-!
# Costs of stairs and ramps

The planner estimates the cost to the goal by a straight line whose height is
multiplied by a penalty.  The generator plans stairs and ramps in advance, and
multiplies the square of the height by the penalty instead.  Along a walking
line of length `L` over a height `h` this gives the square root of
`L ^ 2 + p * h ^ 2`, whatever the shape of the line is.

The penalty of a straight stair is too small by this, unless the penalty is one.
-/

attribute [local instance] atLeastTwo_4 atLeastTwo_5

/-- The edge between two transitions was added for a stair or ramp. -/
structure AddedStairEdge
    (manager : TopologyManager ℝ)
    (before after : GeneratedMap ℝ)
    (room : Nat × GeneratedNode ℝ)
    (first second : Nat)
    (data : TransitionEdge ℝ) : Prop where
  isAfter : addTransitionEdges manager id before = .ok after
  isRoom : room ∈ after.nodes
  isVertical : room.2.type = .stair ∨ room.2.type = .ramp
  isNew : before.edge? first second = none
  found : ∃ edge, after.edge? first second = some edge ∧
    edge.data = .transition data
  isOwn : data.roomId = room.1

/-- The length of the walking line. -/
noncomputable def walkingLength
    (room : GeneratedNode ℝ) : ℝ :=
  totalDistance (room.attributes.walkingLine.getD [])

/-- The walking line has a length, and it is so much longer than the straight
line that this covers the missing part of the penalty. -/
def CoversPenalty
    (penalizeZMovement : ℝ)
    (room : GeneratedNode ℝ)
    (start goal : Position ℝ) : Prop :=
  0 < walkingLength room ∧
    (start.x - goal.x) ^ 2 + (start.y - goal.y) ^ 2 +
        (penalizeZMovement ^ 2 - penalizeZMovement) * (start.z - goal.z) ^ 2 ≤
      walkingLength room ^ 2

section Costs

variable {manager : TopologyManager ℝ} {room : GeneratedNode ℝ} {roomId : Nat}
  {start goal : Position ℝ}

theorem CoversPenalty.symm
    {penalizeZMovement : ℝ}
    (covers : CoversPenalty penalizeZMovement room start goal) :
    CoversPenalty penalizeZMovement room goal start := by
  obtain ⟨hasLength, isLong⟩ := covers
  refine ⟨hasLength, ?_⟩
  linarith [sub_sq_comm start.x goal.x, sub_sq_comm start.y goal.y,
    sub_sq_comm start.z goal.z]

theorem plannedCost_of_length
    (isVertical : room.type = .stair ∨ room.type = .ramp)
    (hasLength : 0 < walkingLength room) :
    (transitionEdge manager id roomId room start goal).plannedCost =
      Real.sqrt (walkingLength room ^ 2 +
        manager.penalizeZMovement * (goal.z - start.z) ^ 2) := by
  cases hasLine : room.attributes.walkingLine with
  | none =>
      rw [walkingLength, hasLine] at hasLength
      exact absurd hasLength (lt_irrefl 0)
  | some line =>
      have length : walkingLength room = totalDistance line := by
        rw [walkingLength, hasLine]
        rfl
      rw [length] at hasLength ⊢
      have path :
          walkingPath manager id room start.z goal.z =
            interpolateWalkingLine3d id manager.resolution line start.z
              goal.z := by
        rw [walkingPath, hasLine]
      simp only [transitionEdge, if_pos isVertical, path,
        if_neg (interpolateWalkingLine3d_ne_nil hasLength)]
      exact pathTotal_interpolateWalkingLine3d hasLength

theorem plannedCost_of_no_length
    (isVertical : room.type = .stair ∨ room.type = .ramp)
    (noLength : ¬ 0 < walkingLength room) :
    (transitionEdge manager id roomId room start goal).plannedCost = -1 := by
  have noPath : walkingPath manager id room start.z goal.z = [] := by
    rw [walkingPath]
    split
    · rename_i line hasLine
      apply interpolateWalkingLine3d_of_no_length
      rw [walkingLength, hasLine] at noLength
      exact le_antisymm (not_lt.mp noLength) (totalDistance_nonneg line)
    · rfl
  simp only [transitionEdge, if_pos isVertical, if_pos noPath]
  rfl

/-- The cost along the walking line against the penalized straight line. -/
theorem costBetween_le_plannedCost_iff
    (isPenalty : 1 ≤ manager.penalizeZMovement)
    (isVertical : room.type = .stair ∨ room.type = .ramp) :
    costBetween start goal manager.penalizeZMovement ≤
        (transitionEdge manager id roomId room start goal).plannedCost ↔
      CoversPenalty manager.penalizeZMovement room start goal := by
  by_cases hasLength : 0 < walkingLength room
  · have nonneg :
        0 ≤ walkingLength room ^ 2 +
          manager.penalizeZMovement * (goal.z - start.z) ^ 2 := by
      have := zero_le_one.trans isPenalty
      positivity
    rw [plannedCost_of_length isVertical hasLength, costBetween,
      SquareRoot.sqrt, instSquareRootReal, Real.sqrt_le_sqrt_iff nonneg,
      CoversPenalty, and_iff_right hasLength, sub_sq_comm goal.z start.z]
    constructor
    · intro isCheaper
      linarith
    · intro isLong
      linarith
  · rw [plannedCost_of_no_length isVertical hasLength]
    constructor
    · intro isCheaper
      have nonneg : 0 ≤ costBetween start goal manager.penalizeZMovement :=
        Real.sqrt_nonneg _
      linarith
    · intro covers
      exact absurd covers.1 hasLength

end Costs

section Edges

variable {manager : TopologyManager ℝ} {before after : GeneratedMap ℝ}
  {room : Nat × GeneratedNode ℝ} {first second : Nat}
  {data : TransitionEdge ℝ}

theorem AddedStairEdge.planned
    (edge : AddedStairEdge manager before after room first second data) :
    ∃ start goal,
      nodePosition after first = .ok start ∧
      nodePosition after second = .ok goal ∧
      (data = transitionEdge manager id room.1 room.2 start goal ∨
        data = transitionEdge manager id room.1 room.2 goal start) := by
  have state := transitionsAdded_of_addTransitionEdges edge.isAfter
  obtain ⟨stored, found, isData⟩ := edge.found
  rcases state.added first second stored found with
    wasFound | ⟨-, other, isOther, -, -, -, start, goal, isStart, isGoal, planned⟩
  · rw [edge.isNew] at wasFound
    cases wasFound
  · rw [← state.nodePosition_eq] at isStart isGoal
    rw [isData, GeneratedEdgeData.transition.injEq,
      GeneratedEdgeData.transition.injEq] at planned
    have sameId : other.1 = room.1 := by
      rw [← edge.isOwn]
      rcases planned with rfl | rfl
      · exact transitionEdge_roomId.symm
      · exact transitionEdge_roomId.symm
    obtain rfl : other = room :=
      List.inj_on_of_nodup_map after.nodesDistinct (state.nodes ▸ isOther)
        edge.isRoom sameId
    exact ⟨start, goal, isStart, isGoal, planned⟩

/-- Generator and planner agree on the penalized straight line. -/
theorem costBetween_eq_costBetweenNodes
    (graph : TopologicalGraph ℝ)
    (u v : Nat)
    (penalizeZMovement : ℝ) :
    costBetween (graph.node u).position (graph.node v).position
        penalizeZMovement =
      costBetweenNodes graph u v penalizeZMovement := by
  simp only [costBetween, costBetweenNodes]
  congr 1
  ring

theorem costBetween_comm
    (start goal : Position ℝ)
    (penalizeZMovement : ℝ) :
    costBetween start goal penalizeZMovement =
      costBetween goal start penalizeZMovement := by
  simp only [costBetween]
  congr 1
  ring

theorem AddedStairEdge.covers_iff
    {start goal : Position ℝ}
    (edge : AddedStairEdge manager before after room first second data)
    (isPenalty : 1 ≤ manager.penalizeZMovement)
    (isStart : nodePosition after first = .ok start)
    (isGoal : nodePosition after second = .ok goal) :
    costBetween start goal manager.penalizeZMovement ≤ data.plannedCost ↔
      CoversPenalty manager.penalizeZMovement room.2 start goal := by
  obtain ⟨start', goal', isStart', isGoal', planned⟩ := edge.planned
  obtain rfl : start = start' := Except.ok.inj (isStart.symm.trans isStart')
  obtain rfl : goal = goal' := Except.ok.inj (isGoal.symm.trans isGoal')
  rcases planned with rfl | rfl
  · exact costBetween_le_plannedCost_iff isPenalty edge.isVertical
  · rw [costBetween_comm]
    exact (costBetween_le_plannedCost_iff isPenalty edge.isVertical).trans
      ⟨CoversPenalty.symm, CoversPenalty.symm⟩

theorem exists_addedStairEdge
    (isAfter : addTransitionEdges manager id before = .ok after)
    (isRoom : room ∈ before.nodes)
    (isVertical : room.2.type = .stair ∨ room.2.type = .ramp)
    (isFirst : first ∈ transitionNeighbors before room.1)
    (isSecond : second ∈ transitionNeighbors before room.1)
    (differ : first ≠ second)
    (isNew : before.edge? first second = none)
    (isOnly : ∀ other ∈ before.nodes, other.2.type.isPassable = true →
      other = room) :
    ∃ data, AddedStairEdge manager before after room first second data := by
  have state := transitionsAdded_of_addTransitionEdges isAfter
  have isPassable : room.2.type.isPassable = true := by
    rcases isVertical with isStair | isRamp
    · rw [isStair]
      rfl
    · rw [isRamp]
      rfl
  obtain ⟨edge, found⟩ := Option.isSome_iff_exists.mp
    (hasEdge_of_addTransitionEdges isAfter isRoom isPassable isFirst isSecond
      differ)
  rcases state.added first second edge found with
    wasFound | ⟨-, other, isOther, otherPassable, -, -, added⟩
  · rw [isNew] at wasFound
    cases wasFound
  · obtain rfl := isOnly other isOther otherPassable
    obtain ⟨start, goal, -, -, isData | isData⟩ := added
    · exact ⟨_, isAfter, state.nodes ▸ isOther, isVertical, isNew,
        ⟨edge, found, isData⟩, transitionEdge_roomId⟩
    · exact ⟨_, isAfter, state.nodes ▸ isOther, isVertical, isNew,
        ⟨edge, found, isData⟩, transitionEdge_roomId⟩

/-- The planned cost of a stair or ramp is at least the penalized straight-line
cost between its transitions, as the planner computes it, exactly if the walking
line is long enough. -/
theorem stair_cost_covers_penalty_iff
    (manager : TopologyManager ℝ)
    (before after : GeneratedMap ℝ)
    (room : Nat × GeneratedNode ℝ)
    (first second : Nat)
    (data : TransitionEdge ℝ)
    (graph : TopologicalGraph ℝ)
    (u v : Nat)
    (isPenalty : 1 ≤ manager.penalizeZMovement)
    (edge : AddedStairEdge manager before after room first second data)
    (isFirst : nodePosition after first = .ok (graph.node u).position)
    (isSecond : nodePosition after second = .ok (graph.node v).position) :
    costBetweenNodes graph u v manager.penalizeZMovement ≤ data.plannedCost ↔
      CoversPenalty manager.penalizeZMovement room.2 (graph.node u).position
        (graph.node v).position := by
  rw [← costBetween_eq_costBetweenNodes]
  exact edge.covers_iff isPenalty isFirst isSecond

end Edges

/-- The walking line of a straight stair, or of one with two turns. -/
noncomputable def stairLine
    (bent : Bool) : List (ℝ × ℝ) :=
  if bent then [(0, 0), (0, 5), (4, 5), (4, 0)] else [(0, 0), (4, 0)]

noncomputable def stairBetween
    (bent : Bool) : Nat × GeneratedNode ℝ :=
  (0, ⟨.stair, none, { walkingLine := some (stairLine bent) }⟩)

noncomputable def stairStart : Position ℝ :=
  ⟨0, 0, 0⟩

noncomputable def stairEnd : Position ℝ :=
  ⟨4, 0, 3⟩

/-- The map of the stair before edges between transitions are added. -/
noncomputable def stairPlan
    (bent : Bool) : GeneratedMap ℝ where
  nodes :=
    [stairBetween bent,
      (1, ⟨.transition, some .stairStart, { position := some stairStart }⟩),
      (2, ⟨.transition, some .stairEnd, { position := some stairEnd }⟩)]
  edges := [((0, 1), ⟨0, .room⟩), ((0, 2), ⟨1, .room⟩)]
  nodesDistinct := by cases bent <;> decide +kernel
  edgesDistinct := by decide +kernel

/-- The transitions of the stair in the graph of the planner. -/
noncomputable def stairGraph : TopologicalGraph ℝ where
  vertices :=
    [{ NodeProperties.unset with position := stairStart },
      { NodeProperties.unset with position := stairEnd }]
  edges := []
  endsValid := by simp

theorem walkingLength_stairBetween
    (bent : Bool) :
    walkingLength (stairBetween bent).2 = if bent then 14 else 4 := by
  have distance
      {first second : ℝ × ℝ}
      {length : ℝ}
      (nonneg : 0 ≤ length)
      (square : (second.1 - first.1) ^ 2 + (second.2 - first.2) ^ 2 =
        length ^ 2) :
      planarDistance first second = length := by
    rw [planarDistance, square]
    exact Real.sqrt_sq nonneg
  cases bent with
  | true =>
      refine (totalDistance_cons _ _).trans ?_
      rw [planarLength, planarLength, planarLength, planarLength,
        @distance (0, 0) (0, 5) 5 (by norm_num) (by norm_num),
        @distance (0, 5) (4, 5) 4 (by norm_num) (by norm_num),
        @distance (4, 5) (4, 0) 5 (by norm_num) (by norm_num)]
      norm_num
  | false =>
      refine (totalDistance_cons _ _).trans ?_
      rw [planarLength, planarLength,
        @distance (0, 0) (4, 0) 4 (by norm_num) (by norm_num)]
      norm_num

theorem stairPlan_edge
    (manager : TopologyManager ℝ)
    (bent : Bool) :
    ∃ after data,
      AddedStairEdge manager (stairPlan bent) after (stairBetween bent) 1 2
          data ∧
        nodePosition after 1 = .ok (stairGraph.node 0).position ∧
        nodePosition after 2 = .ok (stairGraph.node 1).position := by
  have positions : TransitionsHavePositions (stairPlan bent) := by
    simp [TransitionsHavePositions, stairPlan, stairBetween]
  obtain ⟨after, isAfter⟩ :
      ∃ after, addTransitionEdges manager id (stairPlan bent) = .ok after :=
    addTransitionEdges_succeeds positions
  have state := transitionsAdded_of_addTransitionEdges isAfter
  have isOnly : ∀ other ∈ (stairPlan bent).nodes,
      other.2.type.isPassable = true → other = stairBetween bent := by
    simp [stairPlan, GeneratedType.isPassable]
  have isFirst :
      1 ∈ transitionNeighbors (stairPlan bent) (stairBetween bent).1 := by
    cases bent <;> decide +kernel
  have isSecond :
      2 ∈ transitionNeighbors (stairPlan bent) (stairBetween bent).1 := by
    cases bent <;> decide +kernel
  obtain ⟨data, edge⟩ := exists_addedStairEdge isAfter List.mem_cons_self
    (.inl rfl) isFirst isSecond (by decide) (by cases bent <;> rfl) isOnly
  refine ⟨after, data, edge, ?_, ?_⟩
  · rw [state.nodePosition_eq]
    cases bent <;> rfl
  · rw [state.nodePosition_eq]
    cases bent <;> rfl

/-- With the penalty of the generator's defaults the stair is cheaper than the
straight line. -/
theorem straight_stair_undercuts :
    ∃ after data,
      AddedStairEdge ⟨3, 1 / 20⟩ (stairPlan false) after (stairBetween false)
          1 2 data ∧
        nodePosition after 1 = .ok (stairGraph.node 0).position ∧
        nodePosition after 2 = .ok (stairGraph.node 1).position ∧
        data.plannedCost < costBetweenNodes stairGraph 0 1 3 := by
  obtain ⟨after, data, edge, isFirst, isSecond⟩ :=
    stairPlan_edge ⟨3, 1 / 20⟩ false
  refine ⟨after, data, edge, isFirst, isSecond, ?_⟩
  rw [← not_le, ← costBetween_eq_costBetweenNodes,
    edge.covers_iff (by norm_num) isFirst isSecond]
  rintro ⟨-, isLong⟩
  rw [walkingLength_stairBetween] at isLong
  simp only [stairGraph, TopologicalGraph.node, stairStart, stairEnd]
    at isLong
  norm_num at isLong

/-- With the same penalty a stair with two turns is dear enough. -/
theorem bent_stair_covers_penalty :
    ∃ after data,
      AddedStairEdge ⟨3, 1 / 20⟩ (stairPlan true) after (stairBetween true) 1 2
          data ∧
        costBetweenNodes stairGraph 0 1 3 ≤ data.plannedCost := by
  obtain ⟨after, data, edge, isFirst, isSecond⟩ :=
    stairPlan_edge ⟨3, 1 / 20⟩ true
  refine ⟨after, data, edge, ?_⟩
  refine (stair_cost_covers_penalty_iff _ _ _ _ _ _ _ stairGraph 0 1
    (by norm_num) edge isFirst isSecond).mpr ?_
  rw [CoversPenalty, walkingLength_stairBetween]
  simp only [stairGraph, TopologicalGraph.node, stairStart, stairEnd]
  norm_num

end NavBim
