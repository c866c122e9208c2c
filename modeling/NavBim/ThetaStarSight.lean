import Mathlib.Analysis.Convex.Segment
import NavBim.ThetaStarReads
import NavBim.ThetaStarResult

namespace NavBim.ThetaStar

/-!
# The paths of Theta* and the obstacles

A path leads straight from the centre of a cell to the centre of the next one.
The line of sight is tested along the parallel line through the lower left corners
of both cells.  With a slope this line crosses other cells than the path, and
without one it has a row on each side, of which one is enough.
-/

variable {K : Type} [Field K] [LinearOrder K]

/-! ## The cells that a straight way crosses -/

namespace Request

/-- The inside of a cell in the world. -/
def openCell
    (request : Request K)
    (cell : CoordsM) : Set (K × K) :=
  Set.Ioo
      (request.costmap.originX + cell.x * request.costmap.resolution)
      (request.costmap.originX + (cell.x + 1) * request.costmap.resolution) ×ˢ
    Set.Ioo
      (request.costmap.originY + cell.y * request.costmap.resolution)
      (request.costmap.originY + (cell.y + 1) * request.costmap.resolution)

/-- The straight way between two points leads through the inside of the cell. -/
def Crosses
    (request : Request K)
    (first second : K × K)
    (cell : CoordsM) : Prop :=
  (segment K first second ∩ request.openCell cell).Nonempty

/-- All cells on the way are safe, but perhaps the start. -/
def SafeWay
    (request : Request K)
    (first second : K × K) : Prop :=
  ∀ cell, request.Crosses first second cell → cell ≠ request.src →
    request.isSafe cell.x cell.y

theorem SafeWay.symm
    {request : Request K}
    {first second : K × K}
    (safeWay : request.SafeWay first second) :
    request.SafeWay second first := by
  intro cell crosses
  apply safeWay cell
  unfold Crosses at crosses ⊢
  rwa [segment_symm]

end Request

section Neighbours

variable [IsStrictOrderedRing K]

/-- Up to the middle of the way to the next column a point is in the first one. -/
theorem column_of_firstHalf
    {origin size part : K}
    {first second column : ℤ}
    (near : |second - first| ≤ 1)
    (nonneg : 0 ≤ part)
    (firstHalf : part ≤ 1 / 2)
    (inside : origin + (first + 1 / 2) * size +
        part * (origin + (second + 1 / 2) * size -
          (origin + (first + 1 / 2) * size)) ∈
      Set.Ioo (origin + column * size) (origin + (column + 1) * size)) :
    column = first := by
  obtain ⟨above, below⟩ := inside
  have positive : 0 < size := by
    linarith [add_one_mul (column : K) size]
  have isPlace : origin + (first + 1 / 2) * size +
      part * (origin + (second + 1 / 2) * size -
        (origin + (first + 1 / 2) * size)) =
      origin + (first + 1 / 2 + part * (second - first)) * size := by
    ring
  rw [isPlace] at above below
  have left : (column : K) < first + 1 / 2 + part * (second - first) :=
    lt_of_mul_lt_mul_right (lt_of_add_lt_add_left above) positive.le
  have right : (first : K) + 1 / 2 + part * (second - first) < column + 1 :=
    lt_of_mul_lt_mul_right (lt_of_add_lt_add_left below) positive.le
  obtain ⟨atLeast, atMost⟩ := abs_le.mp near
  have notLeft : (-1 : K) ≤ second - first := by exact_mod_cast atLeast
  have notRight : (second - first : K) ≤ 1 := by exact_mod_cast atMost
  have moves : |part * ((second : K) - first)| ≤ 1 / 2 := by
    rw [abs_mul, abs_of_nonneg nonneg]
    calc
      part * |(second : K) - first| ≤ part * 1 :=
        mul_le_mul_of_nonneg_left (abs_le.mpr ⟨notLeft, notRight⟩) nonneg
      _ ≤ 1 / 2 := by rwa [mul_one]
  obtain ⟨notBefore, notAfter⟩ := abs_le.mp moves
  have below' : (column : K) < first + 1 := by linarith
  have above' : (first : K) < column + 1 := by linarith
  have columnLt : column < first + 1 := by exact_mod_cast below'
  have firstLt : first < column + 1 := by exact_mod_cast above'
  omega

omit [LinearOrder K] [IsStrictOrderedRing K] in
theorem Request.worldOf_inside
    (request : Request K)
    {cell : CoordsM}
    (inside : cell.Inside request.costmap) :
    request.worldOf cell =
      (request.costmap.originX + (cell.x + 1 / 2) * request.costmap.resolution,
        request.costmap.originY +
          (cell.y + 1 / 2) * request.costmap.resolution) := by
  obtain ⟨xNonneg, -, yNonneg, -⟩ := inside
  have sameX : ((cell.x.toNat : ℤ) : K) = cell.x :=
    congrArg Int.cast (Int.toNat_of_nonneg xNonneg)
  have sameY : ((cell.y.toNat : ℤ) : K) = cell.y :=
    congrArg Int.cast (Int.toNat_of_nonneg yNonneg)
  rw [Int.cast_natCast] at sameX sameY
  rw [Request.worldOf, Grid.mapToWorld, sameX, sameY]

/-- Cells that are the same or touch each other. -/
def CoordsM.Near (first second : CoordsM) : Prop :=
  |second.x - first.x| ≤ 1 ∧ |second.y - first.y| ≤ 1

theorem CoordsM.Near.symm
    {first second : CoordsM}
    (near : first.Near second) :
    second.Near first :=
  ⟨(abs_sub_comm _ _).trans_le near.1, (abs_sub_comm _ _).trans_le near.2⟩

theorem Request.cell_of_firstHalf
    {request : Request K}
    {first second cell : CoordsM}
    {part : K}
    (firstInside : first.Inside request.costmap)
    (secondInside : second.Inside request.costmap)
    (near : first.Near second)
    (nonneg : 0 ≤ part)
    (firstHalf : part ≤ 1 / 2)
    (inside : request.worldOf first +
      part • (request.worldOf second - request.worldOf first) ∈
        request.openCell cell) :
    cell = first := by
  rw [request.worldOf_inside firstInside, request.worldOf_inside secondInside]
    at inside
  obtain ⟨columns, rows⟩ := inside
  have sameX := column_of_firstHalf near.1 nonneg firstHalf columns
  have sameY := column_of_firstHalf near.2 nonneg firstHalf rows
  cases cell
  cases first
  cases sameX
  cases sameY
  rfl

theorem Request.crosses_near
    {request : Request K}
    {first second cell : CoordsM}
    (firstInside : first.Inside request.costmap)
    (secondInside : second.Inside request.costmap)
    (near : first.Near second)
    (crosses : request.Crosses (request.worldOf first) (request.worldOf second)
      cell) :
    cell = first ∨ cell = second := by
  obtain ⟨point, onWay, inside⟩ := crosses
  rw [segment_eq_image'] at onWay
  obtain ⟨part, ⟨nonneg, atMost⟩, rfl⟩ := onWay
  dsimp only at inside
  cases le_total part (1 / 2) with
  | inl firstHalf =>
      exact Or.inl (Request.cell_of_firstHalf firstInside secondInside near
        nonneg firstHalf inside)
  | inr secondHalf =>
      have backwards : request.worldOf first +
          part • (request.worldOf second - request.worldOf first) =
          request.worldOf second +
            (1 - part) • (request.worldOf first - request.worldOf second) := by
        module
      rw [backwards] at inside
      exact Or.inr (Request.cell_of_firstHalf secondInside firstInside near.symm
        (by linarith) (by linarith) inside)

theorem Request.safeWay_near
    {request : Request K}
    {first second : CoordsM}
    (firstInside : first.Inside request.costmap)
    (secondInside : second.Inside request.costmap)
    (near : first.Near second)
    (firstSafe : first ≠ request.src → request.isSafe first.x first.y)
    (secondSafe : second ≠ request.src → request.isSafe second.x second.y) :
    request.SafeWay (request.worldOf first) (request.worldOf second) := by
  intro cell crosses notStart
  cases Request.crosses_near firstInside secondInside near crosses with
  | inl isFirst =>
      cases isFirst
      exact firstSafe notStart
  | inr isSecond =>
      cases isSecond
      exact secondSafe notStart

theorem near_of_neighbours
    {corners : Corners}
    {first second : CoordsM}
    (neighbours : corners.Neighbours first second) :
    first.Near second := by
  unfold Corners.Neighbours at neighbours
  unfold CoordsM.Near
  have xNonneg := abs_nonneg (second.x - first.x)
  have yNonneg := abs_nonneg (second.y - first.y)
  split at neighbours
  · omega
  · omega

end Neighbours

/-! ## What the test of a line insists on -/

namespace Request

/-- On a line with a slope the test insists on each cell that it reads.  On a
straight line one of two cells is enough. -/
def Insists
    (request : Request K)
    (first second cell : CoordsM) : Prop :=
  first.x ≠ second.x ∧ first.y ≠ second.y ∧
    cell ∈ request.losReads first.x first.y second.x second.y

section Walks

variable {add : ℤ → ℤ → K → Option K} {line : Line} {point next : LinePoint K}

variable
  {read : ℤ × ℤ}

section

omit [Field K] [LinearOrder K]

theorem crossMinor_reads
    (crossed : crossMinor add line point = some next)
    (isRead : read ∈ crossMinorReads line point) :
    ∃ slCost, (add read.1 read.2 slCost).isSome := by
  unfold crossMinorReads at isRead
  unfold crossMinor at crossed
  dsimp only at crossed
  split at isRead
  · next crosses =>
      cases List.mem_singleton.mp isRead
      rw [if_pos crosses] at crossed
      obtain ⟨slCost, added, -⟩ := Option.map_eq_some_iff.mp crossed
      exact ⟨point.slCost, Option.isSome_of_eq_some added⟩
  · cases isRead

theorem passCell_reads
    (passed : passCell add line point = some next)
    (isRead : read ∈ passCellReads line point) :
    ∃ slCost, (add read.1 read.2 slCost).isSome := by
  unfold passCellReads at isRead
  unfold passCell at passed
  split at isRead
  · next inside =>
      cases List.mem_singleton.mp isRead
      rw [if_pos inside] at passed
      obtain ⟨slCost, added, -⟩ := Option.map_eq_some_iff.mp passed
      exact ⟨point.slCost, Option.isSome_of_eq_some added⟩
  · cases isRead

theorem lineStep_reads
    (sloped : line.dMinor ≠ 0)
    (stepped : lineStep add line point = some next)
    (isRead : read ∈ lineStepReads add line point) :
    ∃ slCost, (add read.1 read.2 slCost).isSome := by
  obtain ⟨crossed, isCrossed, rest⟩ := Option.bind_eq_some_iff.mp stepped
  obtain ⟨passed, isPassed, -⟩ := Option.bind_eq_some_iff.mp rest
  unfold lineStepReads at isRead
  rw [isCrossed] at isRead
  dsimp only at isRead
  rw [isPassed] at isRead
  dsimp only at isRead
  rw [passBesideReads, if_neg sloped, List.append_nil] at isRead
  cases List.mem_append.mp isRead with
  | inl crossing => exact crossMinor_reads isCrossed crossing
  | inr passing => exact passCell_reads isPassed passing

/-- A walk along a slope passes each cell that it reads. -/
theorem walkLine_reads
    (sloped : line.dMinor ≠ 0)
    {steps : Nat}
    {cost : K}
    (walked : walkLine add line steps point = some cost)
    (isRead : read ∈ walkLineReads add line steps point) :
    ∃ slCost, (add read.1 read.2 slCost).isSome := by
  induction steps generalizing point with
  | zero => cases isRead
  | succ steps inductionHypothesis =>
      obtain ⟨next, stepped, rest⟩ := Option.bind_eq_some_iff.mp walked
      unfold walkLineReads at isRead
      rw [stepped] at isRead
      cases List.mem_append.mp isRead with
      | inl here => exact lineStep_reads sloped stepped here
      | inr later => exact inductionHypothesis rest later

end

end Walks

variable [IsStrictOrderedRing K]

theorem isSafe_of_passable
    {request : Request K}
    {cx cy : ℤ}
    (passes : request.passable cx cy) :
    request.isSafe cx cy := by
  cases passes with
  | inl unknown => exact Or.inl unknown
  | inr free =>
      right
      rw [UInt8.le_iff_toNat_le]
      unfold scaledCost at free
      have isMost : (maxNonObstacleCost.toNat : K) = 252 := by
        show ((252 : Nat) : K) = 252
        exact Nat.cast_ofNat
      have atMost : ((request.cellCost cx cy).toNat : K) ≤
          maxNonObstacleCost.toNat := by
        linarith
      exact_mod_cast atMost

theorem isSafe_of_insists
    {request : Request K}
    {first second cell : CoordsM}
    {losCost : K}
    (inSight : request.losCheck first.x first.y second.x second.y =
      some losCost)
    (insists : request.Insists first second cell) :
    request.isSafe cell.x cell.y := by
  obtain ⟨xDiffer, yDiffer, isRead⟩ := insists
  unfold losCheck at inSight
  unfold losReads at isRead
  dsimp only at inSight isRead
  split at inSight
  · next flat =>
      rw [if_pos flat] at isRead
      obtain ⟨read, found, rfl⟩ := List.mem_map.mp isRead
      have sloped : |second.y - first.y| ≠ 0 :=
        abs_ne_zero.mpr (sub_ne_zero.mpr yDiffer.symm)
      obtain ⟨slCost, added⟩ := walkLine_reads sloped inSight found
      exact isSafe_of_passable ((request.addCellPrice_isSome _ _ _).mp added)
  · next steep =>
      rw [if_neg steep] at isRead
      obtain ⟨read, found, rfl⟩ := List.mem_map.mp isRead
      have sloped : |second.x - first.x| ≠ 0 :=
        abs_ne_zero.mpr (sub_ne_zero.mpr xDiffer.symm)
      obtain ⟨slCost, added⟩ := walkLine_reads sloped inSight found
      exact isSafe_of_passable ((request.addCellPrice_isSome _ _ _).mp added)

end Request

/-! ## The ways of a search -/

section Ways

variable [SquareRoot K]

/-- The current node takes its parent's parent for the parent. -/
structure TakesShortcut
    (request : Request K)
    (search : Search K)
    (maybePar : Nat) : Prop where
  above : ∃ parent, search.currData.parentId = some parent ∧
    (search.nodesData parent).parentId = some maybePar
  cheaper : ∃ losCost,
    request.losCheck search.currData.x search.currData.y
        (search.nodesData maybePar).x (search.nodesData maybePar).y =
      some losCost ∧
    (search.nodesData maybePar).g +
        (request.getEuclideanCost search.currData.x search.currData.y
          (search.nodesData maybePar).x (search.nodesData maybePar).y : K) +
        (losCost : K) <
      search.currData.g

/-- A shortcut crosses no unsafe cell that its test does not insist on. -/
def SoundShortcut
    (request : Request K)
    (search : Search K) : Prop :=
  ∀ maybePar, TakesShortcut request search maybePar →
    ∀ cell, request.Crosses (request.worldOf search.currData.cell)
        (request.worldOf (search.nodesData maybePar).cell) cell →
      cell ≠ request.src →
      ¬request.Insists search.currData.cell
        (search.nodesData maybePar).cell cell →
      request.isSafe cell.x cell.y

/-- All nodes but the start are safe, and so are the ways to their parents. -/
structure SafeWays
    (request : Request K)
    (search : Search K) : Prop where
  nodes : ∀ id < search.indexGenerated,
    (search.nodesData id).cell ≠ request.src →
      request.isSafe (search.nodesData id).x (search.nodesData id).y
  ways : ∀ id < search.indexGenerated, ∀ parent,
    (search.nodesData id).parentId = some parent →
      request.SafeWay (request.worldOf (search.nodesData id).cell)
        (request.worldOf (search.nodesData parent).cell)

variable {request : Request K} {planner : Planner K}
  {before after search : Search K}

omit [SquareRoot K] in
theorem Request.safeWay_self
    [IsStrictOrderedRing K]
    {cell : CoordsM}
    (inside : cell.Inside request.costmap)
    (isSafe : cell ≠ request.src → request.isSafe cell.x cell.y) :
    request.SafeWay (request.worldOf cell) (request.worldOf cell) := by
  apply Request.safeWay_near inside inside _ isSafe isSafe
  unfold CoordsM.Near
  rw [sub_self, sub_self, abs_zero]
  exact ⟨zero_le_one, zero_le_one⟩

theorem safeWays_startSearch
    [IsStrictOrderedRing K]
    (request : Request K)
    (planner : Planner K) :
    SafeWays request (startSearch request planner) := by
  have started := started_startSearch request planner
  have first : ∀ id < (startSearch request planner).indexGenerated,
      ((startSearch request planner).nodesData id).cell = request.src ∧
        ((startSearch request planner).nodesData id).parentId = some 0 := by
    intro id generated
    rw [started.generated] at generated
    rw [Nat.lt_one_iff.mp generated, started.node]
    exact ⟨rfl, rfl⟩
  refine ⟨fun id generated notStart => ?_, fun id generated parent isParent => ?_⟩
  · exact absurd (first id generated).1 notStart
  · obtain ⟨isStart, above⟩ := first id generated
    cases above.symm.trans isParent
    rw [isStart, (first 0 (Nat.zero_lt_of_lt generated)).1]
    exact request.safeWay_self request.srcInside (fun other => absurd rfl other)

theorem SoundShortcut.safeWay
    [IsStrictOrderedRing K]
    (sound : SoundShortcut request search)
    {maybePar : Nat}
    (takes : TakesShortcut request search maybePar) :
    request.SafeWay (request.worldOf search.currData.cell)
      (request.worldOf (search.nodesData maybePar).cell) := by
  intro cell crosses notStart
  by_cases insists : request.Insists search.currData.cell
      (search.nodesData maybePar).cell cell
  · obtain ⟨losCost, inSight, -⟩ := takes.cheaper
    exact Request.isSafe_of_insists inSight insists
  · exact sound maybePar takes cell crosses notStart insists

theorem Reparents.sameGenerated
    (reparents : Reparents request before after) :
    after.indexGenerated = before.indexGenerated := by
  obtain ⟨node, rfl, -⟩ := reparents
  rfl

theorem SafeWays.reparents
    [IsStrictOrderedRing K]
    (safe : SafeWays request before)
    (sound : SoundShortcut request before)
    (reparents : Reparents request before after) :
    SafeWays request after := by
  have cells := reparents.sameCell
  obtain ⟨node, rfl, -, -, changes⟩ := reparents
  refine ⟨fun id generated notStart => ?_, fun id generated parent isParent => ?_⟩
  · rw [cells] at notStart
    have isSafe := safe.nodes id generated notStart
    have sameX := congrArg CoordsM.x (cells id)
    have sameY := congrArg CoordsM.y (cells id)
    dsimp only [TreeNode.cell] at sameX sameY
    rwa [sameX, sameY]
  · rw [cells, cells]
    by_cases isCurr : id = before.curr
    · cases isCurr
      rw [nodesData_setNode_self] at isParent
      rcases changes with ⟨-, -, sameParent⟩ |
        ⟨above, top, losCost, isAbove, isTop, inSight, newParent, newG, -,
          cheaper⟩
      · exact safe.ways _ generated parent (sameParent.symm.trans isParent)
      · cases newParent.symm.trans isParent
        rw [newG] at cheaper
        exact sound.safeWay ⟨⟨above, isAbove, isTop⟩, losCost, inSight, cheaper⟩
    · simp only [Search.setNode, Function.update_of_ne isCurr] at isParent
      exact safe.ways id generated parent isParent

theorem resetParent_of_takesShortcut
    {maybePar : Nat}
    (takes : TakesShortcut request search maybePar) :
    ((resetParent request search).nodesData search.curr).parentId =
      some maybePar := by
  obtain ⟨⟨parent, isParent, isAbove⟩, losCost, inSight, cheaper⟩ := takes
  have sameParent := (leaveQueue_node search parent).2.2.2
  obtain ⟨sameX, sameY, sameG, -⟩ := leaveQueue_node search maybePar
  have above : (search.currData.parentId.bind fun parent =>
      ((search.setNode search.curr
        { search.currData with isInQueue := false }).nodesData
          parent).parentId) = some maybePar := by
    rw [isParent]
    exact sameParent.trans isAbove
  unfold resetParent
  dsimp only
  rw [above]
  dsimp only
  rw [sameX, sameY, sameG, inSight]
  dsimp only
  rw [if_pos cheaper]
  exact congrArg TreeNode.parentId (nodesData_setNode_self _ search.curr _)

section

variable
  [IsStrictOrderedRing K]

theorem SafeWays.resetParent_iff
    (safe : SafeWays request search)
    (stored : Stored request search) :
    SafeWays request (resetParent request search) ↔
      SoundShortcut request search := by
  have changed := resetParent_spec request search
  constructor
  · intro after maybePar takes cell crosses notStart _
    have generated :
        search.curr < (resetParent request search).indexGenerated := by
      rw [changed.sameGenerated]
      exact stored.curr_lt
    have way := after.ways search.curr generated maybePar
      (resetParent_of_takesShortcut takes)
    rw [changed.sameCell, changed.sameCell] at way
    exact way cell crosses notStart
  · intro sound
    exact safe.reparents sound changed

theorem SafeWays.opens
    (safe : SafeWays request before)
    (stored : Stored request before)
    {move : CoordsM}
    (isMove : move ∈ moves.take request.corners.howMany)
    {id : Nat}
    {g : K}
    (opens : Opens request (before.neighbor move) before after id g) :
    SafeWays request after := by
  have isNode := opens.node_self
  refine ⟨fun other generated notStart => ?_,
    fun other generated parent isParent => ?_⟩
  · by_cases isId : other = id
    · rw [isId, isNode]
      exact opens.safe
    · rw [opens.node_of_ne isId] at notStart ⊢
      exact safe.nodes other (opens.old_of_ne generated isId) notStart
  · by_cases isId : other = id
    · -- the new way leads from the current node to its neighbour
      rw [isId, isNode] at isParent ⊢
      cases isParent
      rw [opens.sameCell stored stored.curr_lt]
      have isNeighbour := neighbours_of_mem_moves isMove before.currData.cell
      exact (Request.safeWay_near (stored.inside _ stored.curr_lt) opens.inside
        (near_of_neighbours isNeighbour) (safe.nodes _ stored.curr_lt)
        (fun _ => opens.safe)).symm
    · have old := opens.old_of_ne generated isId
      rw [opens.node_of_ne isId] at isParent ⊢
      obtain ⟨known, made, isKnown⟩ := stored.parent other old
      cases isKnown.symm.trans isParent
      rw [opens.sameCell stored made]
      exact safe.ways other old parent isParent

theorem SafeWays.expand
    (safe : SafeWays request search)
    (stored : Stored request search)
    (sound : SoundShortcut request search) :
    SafeWays request (expand request search) := by
  refine (expand_keeps stored ?_ ?_).2
  · intro after reparents
    exact safe.reparents sound reparents
  · intro move middle after id g isMove isStored isSafe opens
    exact isSafe.opens isStored isMove opens

theorem Visited.safeWays
    (clean : planner.Clean)
    (sound : ∀ search, Visited request planner search →
      ¬request.isGoal search.currData → SoundShortcut request search)
    (visited : Visited request planner search) :
    SafeWays request search := by
  induction visited with
  | start => exact safeWays_startSearch request planner
  | next before isNext inductionHypothesis =>
      obtain ⟨notGoal, -, rfl, -⟩ := pass_eq_next isNext
      have expanded := inductionHypothesis.expand (before.stored clean).1
        (sound _ before notGoal)
      exact ⟨expanded.nodes, expanded.ways⟩

end

/-! ## The path -/

/-- A call that finds a path writes it back from a pass. -/
theorem Visited.backtrace_of_success
    {fuel : Nat}
    {outcome : Outcome K}
    (visited : Visited request planner search)
    (ends : searchLoop request fuel search = some outcome)
    (success : outcome.success = true) :
    ∃ last rest, Visited request planner last ∧
      backtrace request last rest = some outcome.rawPath := by
  induction fuel generalizing search with
  | zero => cases ends
  | succ fuel inductionHypothesis =>
      unfold searchLoop at ends
      cases isPass : pass request search with
      | found =>
          rw [isPass] at ends
          obtain ⟨path, isPath, rfl⟩ := Option.map_eq_some_iff.mp ends
          exact ⟨search, fuel, visited, isPath⟩
      | failed =>
          rw [isPass] at ends
          cases ends
          cases success
      | dangling =>
          rw [isPass] at ends
          cases ends
      | next after =>
          rw [isPass] at ends
          exact inductionHypothesis (visited.next isPass) ends

theorem SafeWays.parents
    (safe : SafeWays request search)
    (stored : Stored request search)
    {fuel id : Nat}
    {ids : List Nat}
    (generated : id < search.indexGenerated)
    (isList : parents search fuel id = some ids) :
    ids.head? = some id ∧
      ids.IsChain fun lower upper =>
        request.SafeWay (request.worldOf (search.nodesData lower).cell)
          (request.worldOf (search.nodesData upper).cell) := by
  induction fuel generalizing id ids with
  | zero => cases isList
  | succ fuel inductionHypothesis =>
      obtain ⟨parent, made, isParent⟩ := stored.parent id generated
      unfold ThetaStar.parents at isList
      rw [isParent] at isList
      dsimp only at isList
      split at isList
      · cases isList
        exact ⟨rfl, List.isChain_singleton _⟩
      · obtain ⟨rest, isRest, rfl⟩ := Option.map_eq_some_iff.mp isList
        obtain ⟨atHead, chain⟩ := inductionHypothesis made isRest
        refine ⟨rfl, List.isChain_cons.mpr ⟨fun upper isUpper => ?_, chain⟩⟩
        cases atHead.symm.trans isUpper
        exact safe.ways id generated parent isParent

theorem SafeWays.backtrace
    [IsStrictOrderedRing K]
    (safe : SafeWays request search)
    (stored : Stored request search)
    {fuel : Nat}
    {path : List (K × K)}
    (isPath : backtrace request search fuel = some path) :
    path.IsChain request.SafeWay := by
  obtain ⟨ids, isList, rfl⟩ := Option.map_eq_some_iff.mp isPath
  obtain ⟨atHead, chain⟩ := safe.parents stored stored.curr_lt isList
  -- the first node is written twice
  have twice : (search.curr :: ids).IsChain fun lower upper =>
      request.SafeWay (request.worldOf (search.nodesData lower).cell)
        (request.worldOf (search.nodesData upper).cell) := by
    refine List.isChain_cons.mpr ⟨fun upper isUpper => ?_, chain⟩
    cases atHead.symm.trans isUpper
    exact Request.safeWay_self (stored.inside _ stored.curr_lt)
      (safe.nodes _ stored.curr_lt)
  rw [List.isChain_reverse]
  apply (List.isChain_map _).mpr
  exact twice.imp fun _ _ safeWay => safeWay.symm

/-- In every run of a planner, a path that a call returns crosses no obstacle if
each shortcut of the call is sound. -/
theorem generatePath_safeWays
    [IsStrictOrderedRing K]
    {calls : List (Planner K × Request K)}
    (run : PlannerRun calls planner)
    (sound : ∀ search, Visited request planner search →
      ¬request.isGoal search.currData → SoundShortcut request search)
    {fuel : Nat}
    {outcome : Outcome K}
    (isOutcome : generatePath request planner fuel = some outcome)
    (success : outcome.success = true) :
    outcome.rawPath.IsChain request.SafeWay := by
  have clean := run.clean.1
  obtain ⟨last, rest, visited, isPath⟩ :=
    Visited.start.backtrace_of_success isOutcome success
  exact (visited.safeWays clean sound).backtrace (visited.stored clean).1 isPath

end Ways

/-- Two rows of four cells beside a wall. -/
def besideWall : Request ℚ :=
  { corridorRequest 2 2 with
    costmap :=
      { sizeX := 4
        sizeY := 3
        resolution := 1
        originX := 0
        originY := 0
        costmap := #[0, 0, 200, 0, 0, 200, 100, 0, 254, 254, 254, 254]
        size_costmap := by decide }
    src := ⟨0, 1⟩
    dst := ⟨3, 1⟩
    srcInside := by decide }

theorem besideWall_isSafe
    {cell : CoordsM}
    (inside : cell.Inside besideWall.costmap) :
    besideWall.isSafe cell.x cell.y ↔ cell.y < 2 := by
  obtain ⟨x, y⟩ := cell
  obtain ⟨xNonneg, xLt, yNonneg, yLt⟩ := inside
  change 0 ≤ x at xNonneg
  change x < 4 at xLt
  change 0 ≤ y at yNonneg
  change y < 3 at yLt
  dsimp only
  interval_cases x <;> interval_cases y <;> decide +kernel

/-- The way around a dear cell becomes a straight one.  It stays beside the
wall. -/
theorem besideWall_safeWays :
    [((1 / 2 : ℚ), (3 / 2 : ℚ)), (5 / 2, 1 / 2), (7 / 2, 3 / 2),
        (7 / 2, 3 / 2)].IsChain besideWall.SafeWay := by
  have ran : (generatePath besideWall Planner.new 30).map
      (fun outcome => (outcome.success, outcome.rawPath)) =
      some (true, [(1 / 2, 3 / 2), (5 / 2, 1 / 2), (7 / 2, 3 / 2),
        (7 / 2, 3 / 2)]) := by
    decide +kernel
  obtain ⟨⟨success, path⟩, isOutcome, same⟩ := Option.map_eq_some_iff.mp ran
  cases same
  have clean := (PlannerRun.start (K := ℚ)).clean.1
  apply generatePath_safeWays PlannerRun.start _ isOutcome rfl
  intro search visited notGoal maybePar shortcut cell crosses notStart _
  have stored := (visited.stored clean).1
  have searched := visited.searched
    ⟨zero_le_one, zero_le_two, zero_le_one, Rat.sqrt_nonneg⟩ clean
  -- the nodes stay in the two rows
  have beside {id : Nat} (generated : id < search.indexGenerated) :
      (besideWall.worldOf (search.nodesData id).cell).2 ≤ 3 / 2 := by
    have row : (search.nodesData id).cell.y < 2 := by
      rcases (searched.reached id generated).cases_tail with
        isSrc | ⟨_, -, step⟩
      · rw [isSrc]
        decide
      · exact (besideWall_isSafe step.2.1).mp step.2.2
    have low : ((search.nodesData id).cell.y.toNat : ℚ) ≤ 1 := by
      exact_mod_cast (show (search.nodesData id).cell.y.toNat ≤ 1 by omega)
    show 0 + (((search.nodesData id).cell.y.toNat : ℚ) + 1 / 2) * 1 ≤ 3 / 2
    linarith
  obtain ⟨parent, isParent, isAbove⟩ := shortcut.above
  obtain ⟨_, made, same⟩ := stored.parent search.curr stored.curr_lt
  cases same.symm.trans isParent
  obtain ⟨_, madeAbove, same⟩ := stored.parent parent made
  cases same.symm.trans isAbove
  -- so is the way between two of them
  obtain ⟨point, ⟨part, rest, nonneg, restNonneg, whole, rfl⟩, -, inside⟩ :=
    crosses
  have low : (cell.y : ℚ) < 2 := by
    have first : part * (besideWall.worldOf search.currData.cell).2 ≤
        part * (3 / 2) :=
      mul_le_mul_of_nonneg_left (beside stored.curr_lt) nonneg
    have second := mul_le_mul_of_nonneg_left (beside madeAbove) restNonneg
    have lower : 0 + (cell.y : ℚ) * 1 < part * _ + rest * _ := inside.1
    linarith
  by_cases onMap : cell.Inside besideWall.costmap
  · exact (besideWall_isSafe onMap).mpr (by exact_mod_cast low)
  · exact .inl ⟨if_neg onMap, rfl⟩

/-! ## A wall that is walked around -/

/-- Three rows of four cells.  The second cell of the middle row is lethal, and the
way around it leads along the first row. -/
def hedgedCostmap : Costmap2D ℚ where
  sizeX := 4
  sizeY := 3
  resolution := 1
  originX := 0
  originY := 0
  costmap := #[0, 0, 254, 0, 0, 254, 100, 0, 200, 200, 200, 200]
  size_costmap := by decide

/-- Along the middle row.  Only the costs of the cells count. -/
def hedgedRequest : Request ℚ where
  queue := leastFirst
  wTraversalCost := 1
  wEucCost := 0
  wHeuristicCost := 0
  corners := .eight
  allowUnknown := true
  costmap := hedgedCostmap
  stray _ _ := unknownCost
  src := ⟨0, 1⟩
  dst := ⟨3, 1⟩
  srcInside := by decide

/-- Behind the wall the start is in sight, since the first row is free. -/
theorem hedged_path_crosses :
    PlannerRun [] (Planner.new : Planner ℚ) ∧
      hedgedRequest.isSafe hedgedRequest.dst.x hedgedRequest.dst.y ∧
      ¬ ∀ fuel outcome,
        generatePath hedgedRequest Planner.new fuel = some outcome →
        outcome.success = true →
          outcome.rawPath.IsChain hedgedRequest.SafeWay := by
  refine ⟨PlannerRun.start, by decide, ?_⟩
  intro allSafe
  have ran : (generatePath hedgedRequest Planner.new 20).map
      (fun outcome => (outcome.success, outcome.rawPath)) =
      some (true, [(1 / 2, 3 / 2), (5 / 2, 3 / 2), (7 / 2, 3 / 2),
        (7 / 2, 3 / 2)]) := by
    decide +kernel
  obtain ⟨⟨success, path⟩, isOutcome, same⟩ := Option.map_eq_some_iff.mp ran
  cases same
  have chain := allSafe 20 _ isOutcome rfl
  have way : hedgedRequest.SafeWay (1 / 2, 3 / 2) (5 / 2, 3 / 2) :=
    (List.isChain_cons_cons.mp chain).1
  -- the middle of the way is in the middle of the wall
  have crosses : hedgedRequest.Crosses (1 / 2, 3 / 2) (5 / 2, 3 / 2)
      ⟨1, 1⟩ := by
    refine ⟨(3 / 2, 3 / 2), ⟨1 / 2, 1 / 2, by norm_num, by norm_num,
      by norm_num, by norm_num⟩, ?_⟩
    norm_num [Request.openCell, hedgedRequest, hedgedCostmap]
  exact absurd (way ⟨1, 1⟩ crosses (by decide)) (by decide)

end NavBim.ThetaStar
