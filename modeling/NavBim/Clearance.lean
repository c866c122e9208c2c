import Mathlib
import NavBim.Numerals
import NavBim.RingSearch
import NavBim.SimpleSmoother

namespace NavBim

/-!
# Clearance at a pose

The clearance is the distance to the closest obstacle, which is a lethal cell or
a cell outside of the map.  Cells are searched in rings around the cell of the
pose.  The pose may be anywhere in its cell, so its distance to a cell of a ring
is at least half a cell less than the radius of the ring.
-/

open RingSearch

attribute [local instance] atLeastTwo_2 atLeastTwo_10

section Clearance

variable
  {K : Type}
  [Field K]
  [LinearOrder K]
  [FloorRing K]

/-- The distance to an obstacle.  Other cells are infinitely far away. -/
def obstacleDistance
    (hypot : K → K → K)
    (map : Costmap2D K)
    (pose : K × K)
    (cx cy : Int) : WithTop K :=
  if cx < 0 ∨ cy < 0 ∨ (map.sizeX : Int) ≤ cx ∨ (map.sizeY : Int) ≤ cy then
    let cellX := ((cx : K) + 1 / 2) * map.resolution + map.originX
    let cellY := ((cy : K) + 1 / 2) * map.resolution + map.originY
    ((hypot (pose.1 - cellX) (pose.2 - cellY) : K) : WithTop K)
  else if map.getCost cx.toNat cy.toNat = lethalObstacle then
    let obs := map.mapToWorld cx.toNat cy.toNat
    ((hypot (pose.1 - obs.1) (pose.2 - obs.2) : K) : WithTop K)
  else
    ⊤

/-- No closer obstacle is possible after a ring. -/
def earlyExit
    (resolution : K)
    (radius : Nat)
    (minDist : WithTop K) : Bool :=
  minDist < ((((radius : K) - 1) * resolution : K) : WithTop K)

def maxSearchRadius
    (resolution : K) : Nat :=
  ⌈10 / resolution⌉.toNat

def calculateClearanceAtPose
    (hypot : K → K → K)
    (map : Costmap2D K)
    (pose : K × K) : K :=
  match map.worldToMap pose with
  | none => -1
  | some (mx, my) =>
      if map.getCost mx my = lethalObstacle then
        0
      else
        let minDist :=
          search (fun offset =>
              obstacleDistance hypot map pose (mx + offset.1) (my + offset.2))
            (earlyExit map.resolution) (maxSearchRadius map.resolution) 1 ⊤
        minDist.untopD 10

/-- A function that gives the length of a vector. -/
structure IsHypot
    (hypot : K → K → K) : Prop where
  nonneg : ∀ x y, 0 ≤ hypot x y
  sq : ∀ x y, hypot x y ^ 2 = x ^ 2 + y ^ 2

variable
  [IsStrictOrderedRing K]
  {hypot : K → K → K}
  {map : Costmap2D K}
  {pose : K × K}
  {mx my : Nat}

omit [FloorRing K] in
theorem IsHypot.abs_le
    (isHypot : IsHypot hypot)
    (x y : K) :
    |x| ≤ hypot x y ∧ |y| ≤ hypot x y := by
  have sum := isHypot.sq x y
  have nonneg := isHypot.nonneg x y
  constructor
  · refine abs_le_of_sq_le_sq ?_ nonneg
    rw [sum]
    exact le_add_of_nonneg_right (sq_nonneg y)
  · refine abs_le_of_sq_le_sq ?_ nonneg
    rw [sum]
    exact le_add_of_nonneg_left (sq_nonneg x)

/-- A cell is an obstacle. -/
def IsObstacle
    (map : Costmap2D K)
    (cx cy : Int) : Prop :=
  cx < 0 ∨ cy < 0 ∨ (map.sizeX : Int) ≤ cx ∨ (map.sizeY : Int) ≤ cy ∨
    map.getCost cx.toNat cy.toNat = lethalObstacle

/-- The distance of a pose to the centre of a cell. -/
def centerDistance
    (hypot : K → K → K)
    (map : Costmap2D K)
    (pose : K × K)
    (cx cy : Int) : K :=
  hypot (pose.1 - (map.originX + (cx + 1 / 2) * map.resolution))
    (pose.2 - (map.originY + (cy + 1 / 2) * map.resolution))

section

omit [LinearOrder K] [FloorRing K] [IsStrictOrderedRing K]

theorem obstacleDistance_of_isObstacle
    {cx cy : Int}
    (obstacle : IsObstacle map cx cy) :
    obstacleDistance hypot map pose cx cy =
      ((centerDistance hypot map pose cx cy : K) : WithTop K) := by
  rw [obstacleDistance, centerDistance]
  split
  · rw [add_comm map.originX, add_comm map.originY]
  · rename_i inside
    push Not at inside
    obtain ⟨x, y, belowX, belowY⟩ := inside
    have lethal : map.getCost cx.toNat cy.toNat = lethalObstacle := by
      rcases obstacle with before | before | after | after | lethal
      · omega
      · omega
      · omega
      · omega
      · exact lethal
    have castX : ((cx.toNat : Nat) : K) = cx := by
      rw [← Int.cast_natCast, Int.toNat_of_nonneg x]
    have castY : ((cy.toNat : Nat) : K) = cy := by
      rw [← Int.cast_natCast, Int.toNat_of_nonneg y]
    rw [if_pos lethal, Grid.mapToWorld, castX, castY]

theorem obstacleDistance_of_not_isObstacle
    {cx cy : Int}
    (free : ¬IsObstacle map cx cy) :
    obstacleDistance hypot map pose cx cy = ⊤ := by
  rw [obstacleDistance, if_neg, if_neg]
  · exact fun lethal => free (.inr (.inr (.inr (.inr lethal))))
  · rintro (before | before | after | after)
    · exact free (.inl before)
    · exact free (.inr (.inl before))
    · exact free (.inr (.inr (.inl after)))
    · exact free (.inr (.inr (.inr (.inl after))))

end

/-- A number is at most one step after the multiple that it is rounded to. -/
theorem sub_floor_mul
    {resolution distance : K}
    (positive : 0 < resolution)
    (nonneg : 0 ≤ distance) :
    0 ≤ distance - (⌊distance / resolution⌋.toNat : K) * resolution ∧
      distance - (⌊distance / resolution⌋.toNat : K) * resolution <
        resolution := by
  rw [Int.floor_toNat]
  have below := Nat.floor_le (div_nonneg nonneg positive.le)
  have above := Nat.lt_floor_add_one (distance / resolution)
  rw [le_div_iff₀ positive] at below
  rw [div_lt_iff₀ positive, add_mul, one_mul] at above
  constructor
  · linarith only [below]
  · linarith only [above]

/-- A pose is at most one cell after the start of its cell. -/
theorem worldToMap_offset
    (positive : 0 < map.resolution)
    (inside : map.worldToMap pose = some (mx, my)) :
    (0 ≤ pose.1 - map.originX - mx * map.resolution ∧
        pose.1 - map.originX - mx * map.resolution < map.resolution) ∧
      0 ≤ pose.2 - map.originY - my * map.resolution ∧
        pose.2 - map.originY - my * map.resolution < map.resolution := by
  rw [Grid.worldToMap] at inside
  split at inside
  · cases inside
  · rename_i notBefore
    obtain ⟨x, y⟩ := not_or.mp notBefore
    dsimp only at inside
    split at inside
    · obtain ⟨rfl, rfl⟩ := Prod.mk.inj (Option.some.inj inside)
      exact ⟨sub_floor_mul positive (sub_nonneg.mpr (not_lt.mp x)),
        sub_floor_mul positive (sub_nonneg.mpr (not_lt.mp y))⟩
    · cases inside

/-- From anywhere in a cell, the centre of another one is at most half a cell
closer than from the centre. -/
theorem le_abs_center
    {resolution origin world : K}
    {cell : Nat}
    {offset : Int}
    (start : 0 ≤ world - origin - cell * resolution)
    (stop : world - origin - cell * resolution < resolution) :
    (|(offset : K)| - 1 / 2) * resolution ≤
      |world - (origin + (((cell + offset : Int) : K) + 1 / 2) * resolution)| := by
  have inCell : |world - origin - cell * resolution - resolution / 2| ≤
      resolution / 2 := by
    rw [abs_le]
    constructor
    · linarith only [start]
    · linarith only [stop]
  have positive : 0 < resolution := lt_of_le_of_lt start stop
  have toCenter :
      world - (origin + (((cell + offset : Int) : K) + 1 / 2) * resolution) =
        world - origin - cell * resolution - resolution / 2 -
          offset * resolution := by
    push_cast
    ring
  have apart := abs_sub_abs_le_abs_sub (offset * resolution)
    (world - origin - cell * resolution - resolution / 2)
  rw [abs_mul, abs_of_pos positive] at apart
  rw [toCenter, abs_sub_comm]
  calc (|(offset : K)| - 1 / 2) * resolution
      = |(offset : K)| * resolution - resolution / 2 := by ring
    _ ≤ |(offset : K)| * resolution -
          |world - origin - cell * resolution - resolution / 2| :=
        sub_le_sub_left inCell _
    _ ≤ _ := apart

/-- A cell outside of a square is at least as far away as the early exit asks
for. -/
theorem le_centerDistance
    (isHypot : IsHypot hypot)
    (positive : 0 < map.resolution)
    (inside : map.worldToMap pose = some (mx, my))
    {radius : Nat}
    {offset : Int × Int}
    (outside : offset ∉ square radius) :
    ((radius : K) - 1) * map.resolution ≤
      centerDistance hypot map pose (mx + offset.1) (my + offset.2) := by
  obtain ⟨⟨startX, stopX⟩, startY, stopY⟩ := worldToMap_offset positive inside
  have far : ∀ distance : Int, ¬|distance| ≤ (radius : Int) →
      ((radius : K) - 1) * map.resolution ≤
        (|(distance : K)| - 1 / 2) * map.resolution := by
    intro distance beyond
    have next : (radius : Int) + 1 ≤ |distance| := by omega
    have cast : (radius : K) + 1 ≤ |(distance : K)| := by
      rw [← Int.cast_abs]
      exact_mod_cast next
    refine mul_le_mul_of_nonneg_right ?_ positive.le
    linarith only [cast]
  rw [mem_square, not_and_or] at outside
  cases outside with
  | inl outsideX =>
      exact (far _ outsideX).trans
        ((le_abs_center startX stopX).trans (isHypot.abs_le _ _).1)
  | inr outsideY =>
      exact (far _ outsideY).trans
        ((le_abs_center startY stopY).trans (isHypot.abs_le _ _).2)

/-- The distances to the obstacles in the square that is searched. -/
def obstacleDistances
    (hypot : K → K → K)
    (map : Costmap2D K)
    (pose : K × K)
    (mx my : Nat) : Set K :=
  { distance | ∃ cx cy : Int,
      |cx - mx| ≤ ⌈10 / map.resolution⌉ ∧ |cy - my| ≤ ⌈10 / map.resolution⌉ ∧
        IsObstacle map cx cy ∧
          distance = centerDistance hypot map pose cx cy }

/-- The distance to the obstacle at an offset from the cell of the pose. -/
def offsetDistance
    (hypot : K → K → K)
    (map : Costmap2D K)
    (pose : K × K)
    (mx my : Nat)
    (offset : Int × Int) : WithTop K :=
  obstacleDistance hypot map pose (mx + offset.1) (my + offset.2)

/-- The early exit does not miss a closer cell. -/
theorem search_obstacleDistance
    (isHypot : IsHypot hypot)
    (positive : 0 < map.resolution)
    (inside : map.worldToMap pose = some (mx, my))
    (free : map.getCost mx my ≠ lethalObstacle) :
    search (offsetDistance hypot map pose mx my) (earlyExit map.resolution)
        (maxSearchRadius map.resolution) 1 ⊤ =
      closest (offsetDistance hypot map pose mx my)
        (maxSearchRadius map.resolution) := by
  obtain ⟨xInside, yInside⟩ := Grid.worldToMap_lt inside
  have notHere : ¬IsObstacle map (mx + (0 : Int)) (my + (0 : Int)) := by
    rintro (before | before | after | after | lethal)
    · omega
    · omega
    · omega
    · omega
    · rw [Int.add_zero, Int.add_zero, Int.toNat_natCast,
        Int.toNat_natCast] at lethal
      exact free lethal
  have atStart : closest (offsetDistance hypot map pose mx my) 0 = ⊤ := by
    rw [closest, square_zero, Finset.inf_singleton]
    exact obstacleDistance_of_not_isObstacle notHere
  have sound : ∀ radius best, earlyExit map.resolution radius best = true →
      ∀ offset, offset ∉ square radius →
        best ≤ offsetDistance hypot map pose mx my offset := by
    intro radius best stops offset outside
    have near := of_decide_eq_true stops
    rw [offsetDistance]
    by_cases obstacle : IsObstacle map (mx + offset.1) (my + offset.2)
    · rw [obstacleDistance_of_isObstacle obstacle]
      have far := le_centerDistance isHypot positive inside outside
      exact near.le.trans (WithTop.coe_le_coe.mpr far)
    · rw [obstacleDistance_of_not_isObstacle obstacle]
      exact le_top
  have exact_ := search_eq sound (maxSearchRadius map.resolution) 0
  rw [atStart, Nat.zero_add, Nat.zero_add] at exact_
  exact exact_

theorem mem_obstacleDistances_iff
    (hypot : K → K → K)
    (pose : K × K)
    (mx my : Nat)
    (positive : 0 < map.resolution)
    {distance : K} :
    distance ∈ obstacleDistances hypot map pose mx my ↔
      ∃ offset ∈ square (maxSearchRadius map.resolution),
        offsetDistance hypot map pose mx my offset = distance := by
  have size : ((maxSearchRadius map.resolution : Nat) : Int) =
      ⌈10 / map.resolution⌉ := by
    refine Int.toNat_of_nonneg (Int.ceil_nonneg ?_)
    exact div_nonneg (by norm_num) positive.le
  simp only [mem_square, size, offsetDistance]
  constructor
  · rintro ⟨cx, cy, nearX, nearY, obstacle, rfl⟩
    refine ⟨(cx - mx, cy - my), ⟨nearX, nearY⟩, ?_⟩
    rw [add_sub_cancel, add_sub_cancel]
    exact obstacleDistance_of_isObstacle obstacle
  · rintro ⟨offset, ⟨nearX, nearY⟩, isDistance⟩
    by_cases obstacle : IsObstacle map (mx + offset.1) (my + offset.2)
    · rw [obstacleDistance_of_isObstacle obstacle] at isDistance
      refine ⟨_, _, ?_, ?_, obstacle, (WithTop.coe_inj.mp isDistance).symm⟩
      · rw [add_sub_cancel_left]
        exact nearX
      · rw [add_sub_cancel_left]
        exact nearY
    · rw [obstacleDistance_of_not_isObstacle obstacle] at isDistance
      exact absurd isDistance WithTop.top_ne_coe

theorem isLeast_closest
    (hypot : K → K → K)
    (pose : K × K)
    (mx my : Nat)
    (positive : 0 < map.resolution)
    {clearance : K}
    (isClosest :
      (closest (offsetDistance hypot map pose mx my)
        (maxSearchRadius map.resolution)).untopD 10 = clearance) :
    IsLeast (obstacleDistances hypot map pose mx my) clearance ∨
      obstacleDistances hypot map pose mx my = ∅ ∧ clearance = 10 := by
  have members : ∀ distance,
      distance ∈ obstacleDistances hypot map pose mx my ↔ _ :=
    fun _ => mem_obstacleDistances_iff hypot pose mx my positive
  cases smallest : closest (offsetDistance hypot map pose mx my)
      (maxSearchRadius map.resolution) with
  | top =>
      rw [smallest] at isClosest
      refine .inr ⟨Set.eq_empty_of_forall_notMem fun distance isDistance => ?_,
        isClosest.symm⟩
      obtain ⟨offset, inSquare, isOffset⟩ := (members distance).mp isDistance
      have isTop := (Finset.inf_eq_top_iff _ _).mp smallest offset inSquare
      rw [isOffset] at isTop
      exact absurd isTop WithTop.coe_ne_top
  | coe distance =>
      rw [smallest] at isClosest
      obtain rfl : distance = clearance := isClosest
      have nonempty : (square (maxSearchRadius map.resolution)).Nonempty :=
        ⟨(0, 0), mem_square.mpr ⟨by simp, by simp⟩⟩
      obtain ⟨offset, inSquare, isOffset⟩ := Finset.exists_mem_eq_inf _ nonempty
        (offsetDistance hypot map pose mx my)
      refine .inl ⟨(members distance).mpr
        ⟨offset, inSquare, isOffset.symm.trans smallest⟩, ?_⟩
      intro other isOther
      obtain ⟨cell, cellInSquare, isCell⟩ := (members other).mp isOther
      have le : closest (offsetDistance hypot map pose mx my)
          (maxSearchRadius map.resolution) ≤ _ :=
        Finset.inf_le cellInSquare
      rw [smallest, isCell] at le
      exact WithTop.coe_le_coe.mp le

/-- The clearance is the distance to the closest obstacle in the square that
is searched. -/
structure IsClearance
    (hypot : K → K → K)
    (map : Costmap2D K)
    (pose : K × K)
    (mx my : Nat)
    (clearance : K) : Prop where
  lethal : map.getCost mx my = lethalObstacle → clearance = 0
  free :
    map.getCost mx my ≠ lethalObstacle →
      IsLeast (obstacleDistances hypot map pose mx my) clearance ∨
        obstacleDistances hypot map pose mx my = ∅ ∧ clearance = 10

theorem calculateClearanceAtPose_isClearance
    (isHypot : IsHypot hypot)
    (positive : 0 < map.resolution)
    (inside : map.worldToMap pose = some (mx, my)) :
    IsClearance hypot map pose mx my
      (calculateClearanceAtPose hypot map pose) := by
  rw [calculateClearanceAtPose, inside]
  dsimp only
  constructor
  · intro lethal
    rw [if_pos lethal]
  · intro free
    rw [if_neg free]
    refine isLeast_closest hypot pose mx my positive ?_
    rw [← search_obstacleDistance isHypot positive inside free]
    rfl

end Clearance

section RealNumbers

noncomputable def hypot
    (x y : ℝ) : ℝ :=
  √(x ^ 2 + y ^ 2)

theorem isHypot_hypot : IsHypot hypot where
  nonneg _ _ := Real.sqrt_nonneg _
  sq _ _ := Real.sq_sqrt (add_nonneg (sq_nonneg _) (sq_nonneg _))

/-- The search in rings finds the exact clearance. -/
theorem calculateClearanceAtPose_exact
    (map : Costmap2D ℝ)
    (pose : ℝ × ℝ)
    (mx my : Nat)
    (positive : 0 < map.resolution)
    (inside : map.worldToMap pose = some (mx, my)) :
    IsClearance hypot map pose mx my
      (calculateClearanceAtPose hypot map pose) :=
  calculateClearanceAtPose_isClearance isHypot_hypot positive inside

/-- One free cell. -/
def singleCell : Costmap2D ℝ :=
  .filled ⟨1, 1, 1, 0, 0⟩ freeSpace

/-- The pose is left of the middle of the cell. -/
theorem singleCell_exact :
    IsClearance hypot singleCell (1 / 4, 1 / 2) 0 0
      (calculateClearanceAtPose hypot singleCell (1 / 4, 1 / 2)) := by
  refine calculateClearanceAtPose_exact singleCell (1 / 4, 1 / 2) 0 0
    one_pos ?_
  have zeroX : ⌊((1 : ℝ) / 4 - 0) / 1⌋ = 0 := by
    rw [Int.floor_eq_zero_iff]
    norm_num
  have zeroY : ⌊((1 : ℝ) / 2 - 0) / 1⌋ = 0 := by
    rw [Int.floor_eq_zero_iff]
    norm_num
  have inside : ¬((1 : ℝ) / 4 < 0 ∨ (1 : ℝ) / 2 < 0) := by
    norm_num
  simp only [Grid.worldToMap, singleCell, Costmap2D.filled_toGrid, zeroX, zeroY,
    if_neg inside]
  rfl

end RealNumbers

end NavBim
