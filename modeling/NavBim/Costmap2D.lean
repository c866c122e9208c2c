import Mathlib
import NavBim.GuardedWrites

namespace NavBim

/-!
# Costmaps

A costmap is a grid in the world and one cost for every cell, stored row by
row.  World coordinates are exact numbers here, so that a cell and its centre
correspond without rounding.

The last section is about loops that merge costs into a costmap.  Such a loop
keeps a bound exactly when every cost it writes keeps the bound, in whatever
order the costs come.
-/

/-- The cost of a cell nothing is known about. -/
def noInformation : UInt8 := 255

/-- The cost of a cell with an obstacle. -/
def lethalObstacle : UInt8 := 254

/-- The cost of a cell that the robot's center must not be in. -/
def inscribedInflatedObstacle : UInt8 := 253

/-- The cost of a free cell. -/
def freeSpace : UInt8 := 0

/-- Where the cells of a costmap lie in the world. -/
structure Grid (K : Type) where
  sizeX : Nat
  sizeY : Nat
  resolution : K
  originX : K
  originY : K
  deriving DecidableEq

namespace Grid

variable {K : Type} [Field K]

/-- The distance from the first cell's edge to the last cell's centre. -/
def getSizeInMetersX
    (grid : Grid K) : K :=
  (grid.sizeX - 1 + 1 / 2) * grid.resolution

def getSizeInMetersY
    (grid : Grid K) : K :=
  (grid.sizeY - 1 + 1 / 2) * grid.resolution

/-- The centre of a cell. -/
def mapToWorld
    (grid : Grid K)
    (x y : Nat) : K × K :=
  (grid.originX + (x + 1 / 2) * grid.resolution,
    grid.originY + (y + 1 / 2) * grid.resolution)

variable [LinearOrder K] [FloorRing K]

/-- The cell a point lies in, if the grid has one there. -/
def worldToMap
    (grid : Grid K)
    (world : K × K) : Option (Nat × Nat) :=
  if world.1 < grid.originX ∨ world.2 < grid.originY then
    none
  else
    let x := ⌊(world.1 - grid.originX) / grid.resolution⌋.toNat
    let y := ⌊(world.2 - grid.originY) / grid.resolution⌋.toNat
    if x < grid.sizeX ∧ y < grid.sizeY then
      some (x, y)
    else
      none

theorem worldToMap_lt
    {grid : Grid K}
    {world : K × K}
    {x y : Nat}
    (mapped : grid.worldToMap world = some (x, y)) :
    x < grid.sizeX ∧ y < grid.sizeY := by
  simp only [worldToMap] at mapped
  split at mapped
  · cases mapped
  · split at mapped
    · rename_i inside
      cases mapped
      exact inside
    · cases mapped

end Grid

/-- A grid with the cost of every cell. -/
structure Costmap2D (K : Type) extends Grid K where
  costmap : Array UInt8
  size_costmap : costmap.size = sizeX * sizeY
  deriving DecidableEq

namespace Costmap2D

variable {K : Type}

/-- The position of a cell in the array. -/
def getIndex
    (map : Costmap2D K)
    (x y : Nat) : Nat :=
  y * map.sizeX + x

def getCost
    (map : Costmap2D K)
    (x y : Nat) : UInt8 :=
  map.costmap.getD (map.getIndex x y) freeSpace

def setCost
    (map : Costmap2D K)
    (x y : Nat)
    (cost : UInt8) : Costmap2D K :=
  { map with
    costmap := map.costmap.setIfInBounds (map.getIndex x y) cost
    size_costmap := by simp [map.size_costmap] }

/-- A costmap in which every cell has the same cost. -/
def filled
    (grid : Grid K)
    (cost : UInt8) : Costmap2D K :=
  { grid with
    costmap := Array.replicate (grid.sizeX * grid.sizeY) cost
    size_costmap := by simp }

@[simp] theorem setCost_toGrid
    (map : Costmap2D K)
    (x y : Nat)
    (cost : UInt8) :
    (map.setCost x y cost).toGrid = map.toGrid :=
  rfl

@[simp] theorem filled_toGrid
    (grid : Grid K)
    (cost : UInt8) :
    (filled grid cost).toGrid = grid :=
  rfl

section Cells

variable {map : Costmap2D K} {x y : Nat}

/-- Cells of the grid are inside the array. -/
theorem getIndex_lt
    (xInside : x < map.sizeX)
    (yInside : y < map.sizeY) :
    map.getIndex x y < map.costmap.size := by
  rw [map.size_costmap]
  exact rowMajor_lt yInside xInside

/-- Different cells have different positions. -/
theorem getIndex_eq_iff
    {x' y' : Nat}
    (xInside : x < map.sizeX)
    (xInside' : x' < map.sizeX) :
    map.getIndex x y = map.getIndex x' y' ↔ x = x' ∧ y = y' := by
  constructor
  · intro same
    exact (rowMajor_inj xInside xInside' same).symm
  · rintro ⟨rfl, rfl⟩
    rfl

/-- Writing a cell changes this cell only. -/
theorem getCost_setCost
    {x' y' : Nat}
    (cost : UInt8)
    (xInside : x < map.sizeX)
    (yInside : y < map.sizeY)
    (xInside' : x' < map.sizeX) :
    (map.setCost x y cost).getCost x' y' =
      if x = x' ∧ y = y' then cost else map.getCost x' y' := by
  have inside := getIndex_lt xInside yInside
  have position :
      map.getIndex x y = map.getIndex x' y' ↔ x = x' ∧ y = y' :=
    getIndex_eq_iff xInside xInside'
  show (map.costmap.setIfInBounds (map.getIndex x y) cost).getD
      (map.getIndex x' y') freeSpace = _
  by_cases sameCell : x = x' ∧ y = y'
  · simp [position.mpr sameCell ▸ inside, sameCell]
  · have apart : map.getIndex x y ≠ map.getIndex x' y' :=
      fun same => sameCell (position.mp same)
    simp [sameCell, getCost, Array.getD_eq_getD_getElem?,
      Array.getElem?_setIfInBounds_ne apart]

theorem getCost_filled
    {grid : Grid K}
    {cost : UInt8}
    (xInside : x < (filled grid cost).sizeX)
    (yInside : y < (filled grid cost).sizeY) :
    (filled grid cost).getCost x y = cost := by
  have inside :
      (filled grid cost).getIndex x y < (filled grid cost).costmap.size :=
    getIndex_lt xInside yInside
  have bound : (filled grid cost).getIndex x y < grid.sizeX * grid.sizeY := by
    simpa [filled] using inside
  show (Array.replicate (grid.sizeX * grid.sizeY) cost).getD
    ((filled grid cost).getIndex x y) freeSpace = cost
  simp [Array.getD_eq_getD_getElem?, bound]

theorem eq_of_getCost
    {left right : Costmap2D K}
    (grid : left.toGrid = right.toGrid)
    (costs : ∀ x < left.sizeX, ∀ y < left.sizeY,
      left.getCost x y = right.getCost x y) :
    left = right := by
  obtain ⟨leftGrid, leftCosts, leftSize⟩ := left
  obtain ⟨rightGrid, rightCosts, rightSize⟩ := right
  obtain rfl : leftGrid = rightGrid := grid
  have same : leftCosts = rightCosts := by
    refine Array.ext (leftSize.trans rightSize.symm) ?_
    intro index leftInside rightInside
    -- every position belongs to a cell, by division with rest
    have positive : 0 < leftGrid.sizeX := by
      rw [leftSize] at leftInside
      exact Nat.pos_of_mul_pos_right (Nat.zero_lt_of_lt leftInside)
    have row : index / leftGrid.sizeX < leftGrid.sizeY := by
      rw [leftSize] at leftInside
      exact Nat.div_lt_of_lt_mul leftInside
    have cell := costs (index % leftGrid.sizeX) (Nat.mod_lt _ positive)
      (index / leftGrid.sizeX) row
    have position :
        index / leftGrid.sizeX * leftGrid.sizeX + index % leftGrid.sizeX =
          index :=
      Nat.div_add_mod' index leftGrid.sizeX
    simpa [getCost, getIndex, position, Array.getD_eq_getD_getElem?,
      leftInside, rightInside] using cell
  subst same
  rfl

end Cells

section Merging

/-- Every cell has a known cost. -/
def Known
    (map : Costmap2D K) : Prop :=
  ∀ x < map.sizeX, ∀ y < map.sizeY, map.getCost x y ≠ noInformation

/-- One costmap is another one with costs merged into it, `written` being the
costs merged into each cell. -/
structure Merged
    (before after : Costmap2D K)
    (written : Nat → Nat → UInt8 → Prop) : Prop where
  grid : after.toGrid = before.toGrid
  known : after.Known
  le_iff : ∀ x < before.sizeX, ∀ y < before.sizeY, ∀ bound,
    after.getCost x y ≤ bound ↔
      before.getCost x y ≤ bound ∧
        ∀ cost, written x y cost → cost ≤ bound

/-- Merge one cost into a cell; a known cost is only replaced by a higher one. -/
def mergeCost
    (map : Costmap2D K)
    (x y : Nat)
    (cost : UInt8) : Costmap2D K :=
  if cost = noInformation then
    map
  else if map.getCost x y = noInformation then
    map.setCost x y cost
  else
    map.setCost x y (max cost (map.getCost x y))

variable {map before middle after : Costmap2D K}
  {written more : Nat → Nat → UInt8 → Prop}

theorem Merged.none
    (known : map.Known)
    (nothing : ∀ x y cost, ¬ written x y cost) :
    Merged map map written where
  grid := rfl
  known := known
  le_iff x _ y _ bound := by simp [nothing]

theorem Merged.trans
    (first : Merged before middle written)
    (second : Merged middle after more) :
    Merged before after
      (fun x y cost => written x y cost ∨ more x y cost) where
  grid := second.grid.trans first.grid
  known := second.known
  le_iff x xInside y yInside bound := by
    have sizes := first.grid
    rw [second.le_iff x (by simpa [sizes] using xInside)
      y (by simpa [sizes] using yInside),
      first.le_iff x xInside y yInside]
    constructor
    · rintro ⟨⟨old, left⟩, right⟩
      refine ⟨old, ?_⟩
      rintro cost (isLeft | isRight)
      · exact left cost isLeft
      · exact right cost isRight
    · rintro ⟨old, both⟩
      exact ⟨⟨old, fun cost isLeft => both cost (.inl isLeft)⟩,
        fun cost isRight => both cost (.inr isRight)⟩

theorem Merged.congr
    (merged : Merged before after written)
    (same : ∀ x < before.sizeX, ∀ y < before.sizeY, ∀ cost,
      written x y cost ↔ more x y cost) :
    Merged before after more where
  grid := merged.grid
  known := merged.known
  le_iff x xInside y yInside bound := by
    rw [merged.le_iff x xInside y yInside]
    simp only [same x xInside y yInside]

theorem Merged.attained
    {x y : Nat}
    (merged : Merged before after written)
    (xInside : x < before.sizeX)
    (yInside : y < before.sizeY) :
    after.getCost x y = before.getCost x y ∨
      written x y (after.getCost x y) := by
  by_contra neither
  rw [not_or] at neither
  obtain ⟨isNew, notWritten⟩ := neither
  have bounds := merged.le_iff x xInside y yInside
  obtain ⟨old, costs⟩ := (bounds _).mp (UInt8.le_refl _)
  -- otherwise one less than the merged cost would be a bound, too
  have below : ∀ cost, cost ≤ after.getCost x y → cost ≠ after.getCost x y →
      cost ≤ UInt8.ofNat ((after.getCost x y).toNat - 1) := by
    intro cost bound notEqual
    have distinct : cost.toNat ≠ (after.getCost x y).toNat :=
      fun same => notEqual (UInt8.toNat_inj.mp same)
    rw [UInt8.le_iff_toNat_le] at bound ⊢
    have size := (after.getCost x y).toNat_lt
    rw [UInt8.toNat_ofNat', Nat.mod_eq_of_lt (by omega)]
    omega
  have lower := (bounds _).mpr
    ⟨below _ old (Ne.symm isNew), fun cost isWritten =>
      below cost (costs cost isWritten)
        (fun same => notWritten (same ▸ isWritten))⟩
  have least : (before.getCost x y).toNat ≠ (after.getCost x y).toNat :=
    fun same => isNew (UInt8.toNat_inj.mp same).symm
  rw [UInt8.le_iff_toNat_le] at lower old
  have size := (after.getCost x y).toNat_lt
  rw [UInt8.toNat_ofNat', Nat.mod_eq_of_lt (by omega)] at lower
  omega

/-- A loop merges what its steps merge. -/
theorem Merged.foldl
    {ι : Type}
    {step : Costmap2D K → ι → Costmap2D K}
    {writes : ι → Nat → Nat → UInt8 → Prop}
    {grid : Grid K}
    (items : List ι)
    (steps : ∀ map, map.Known → map.toGrid = grid →
      ∀ item ∈ items, Merged map (step map item) (writes item))
    (known : map.Known)
    (onGrid : map.toGrid = grid) :
    Merged map (items.foldl step map)
      (fun x y cost => ∃ item ∈ items, writes item x y cost) := by
  induction items generalizing map with
  | nil =>
      exact .none known (by simp)
  | cons item rest inductionHypothesis =>
      have first := steps map known onGrid item List.mem_cons_self
      have others := inductionHypothesis
        (fun map known onGrid item isMember =>
          steps map known onGrid item (List.mem_cons_of_mem _ isMember))
        first.known (first.grid.trans onGrid)
      exact (first.trans others).congr (by simp)

theorem max_eq_ite
    (left right : UInt8) :
    max left right = if left ≤ right then right else left :=
  rfl

theorem max_le_iff
    {left right bound : UInt8} :
    max left right ≤ bound ↔ left ≤ bound ∧ right ≤ bound := by
  rw [max_eq_ite]
  split <;> simp only [UInt8.le_iff_toNat_le] at * <;> omega

theorem max_ne_noInformation
    {left right : UInt8}
    (leftKnown : left ≠ noInformation)
    (rightKnown : right ≠ noInformation) :
    max left right ≠ noInformation := by
  rw [max_eq_ite]
  split
  · exact rightKnown
  · exact leftKnown

theorem mergeCost_merged
    {x y : Nat}
    (cost : UInt8)
    (known : map.Known)
    (xInside : x < map.sizeX)
    (yInside : y < map.sizeY) :
    Merged map (map.mergeCost x y cost)
      (fun x' y' cost' =>
        (x', y') = (x, y) ∧ cost' = cost ∧ cost ≠ noInformation) := by
  by_cases unknown : cost = noInformation
  · rw [mergeCost, if_pos unknown]
    exact .none known (by simp [unknown])
  · rw [mergeCost, if_neg unknown, if_neg (known x xInside y yInside)]
    have written : ∀ x' < map.sizeX, ∀ y',
        (map.setCost x y (max cost (map.getCost x y))).getCost x' y' =
          if x = x' ∧ y = y' then max cost (map.getCost x y)
          else map.getCost x' y' :=
      fun x' xInside' y' => getCost_setCost _ xInside yInside xInside'
    refine ⟨rfl, ?_, ?_⟩
    · intro x' xInside' y' yInside'
      rw [written x' xInside']
      split
      · exact max_ne_noInformation unknown (known x xInside y yInside)
      · exact known x' xInside' y' yInside'
    · intro x' xInside' y' _ bound
      rw [written x' xInside']
      split
      · rename_i sameCell
        obtain ⟨rfl, rfl⟩ := sameCell
        simp [unknown, max_le_iff, and_comm]
      · rename_i otherCell
        have apart : ¬ (x' = x ∧ y' = y) :=
          fun same => otherCell ⟨same.1.symm, same.2.symm⟩
        simp [apart]

end Merging

end Costmap2D

end NavBim
