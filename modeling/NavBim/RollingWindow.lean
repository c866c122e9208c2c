import NavBim.Costmap2D
import NavBim.RegionCopy

namespace NavBim

/-!
# Rolling costmaps

The window of a rolling costmap follows the robot.  A new origin is taken to
the next whole number of cells from the old one, towards it.  The costs that
the old and the new window share are kept aside while the costmap is reset,
and then put back in their new place, which is the old place in the world.
-/

/-- A costmap with the cost of cells that nothing is known about. -/
structure RollingCostmap (K : Type) extends Costmap2D K where
  defaultValue : UInt8
  deriving DecidableEq

/-- The whole part of a number, as a conversion to an integer leaves it. -/
def truncate
    {K : Type}
    [Field K]
    [LinearOrder K]
    [FloorRing K]
    (value : K) : ℤ :=
  if 0 ≤ value then ⌊value⌋ else ⌈value⌉

/-- A number as an `int`; one that an `int` does not hold is an overflow. -/
def int32
    (value : ℤ) : Option ℤ :=
  if -2 ^ 31 ≤ value ∧ value < 2 ^ 31 then some value else none

/-- The costs in memory. -/
def Costmap2D.cells
    {K : Type}
    (map : Costmap2D K) : Vector UInt8 (map.sizeX * map.sizeY) :=
  ⟨map.costmap, map.size_costmap⟩

namespace RollingCostmap

section Model

variable {K : Type}

def resetMaps
    (map : RollingCostmap K) : RollingCostmap K :=
  { Costmap2D.filled map.toGrid map.defaultValue with
    defaultValue := map.defaultValue }

def copyMapRegion
    {sourceSize destSize : Nat}
    (sourceMap : Vector UInt8 sourceSize)
    (smLowerLeftX smLowerLeftY : ℤ)
    (smSizeX : Nat)
    (destMap : Vector UInt8 destSize)
    (dmLowerLeftX dmLowerLeftY : ℤ)
    (dmSizeX regionSizeX regionSizeY : Nat) :
    Option (Vector UInt8 destSize) :=
  copyRows sourceMap smSizeX dmSizeX regionSizeX regionSizeY
    (smLowerLeftY * smSizeX + smLowerLeftX)
    (dmLowerLeftY * dmSizeX + dmLowerLeftX) destMap

/-- The costmap with another origin and other costs. -/
def moved
    (map : RollingCostmap K)
    (newGridOx newGridOy : K)
    (costmap : Vector UInt8 (map.sizeX * map.sizeY)) : RollingCostmap K where
  sizeX := map.sizeX
  sizeY := map.sizeY
  resolution := map.resolution
  originX := newGridOx
  originY := newGridOy
  costmap := costmap.toArray
  size_costmap := costmap.size_toArray
  defaultValue := map.defaultValue

/-- The first column or row that the old window shares with the new one. -/
def lowerLeft
    (cellOrigin : ℤ)
    (size : Nat) : ℤ :=
  min (max cellOrigin 0) size

/-- The end of the columns or rows that are shared. -/
def upperRight
    (cellOrigin : ℤ)
    (size : Nat) : ℤ :=
  min (max (cellOrigin + size) 0) size

variable [Field K] [LinearOrder K] [FloorRing K]

/-- Move the window.  Offsets, sizes and corners are of type `int`, and new
memory may hold anything. -/
def updateOrigin
    (memory : (size : Nat) → Vector UInt8 size)
    (map : RollingCostmap K)
    (newOriginX newOriginY : K) : Option (RollingCostmap K) := do
  let cellOx ← int32 (truncate ((newOriginX - map.originX) / map.resolution))
  let cellOy ← int32 (truncate ((newOriginY - map.originY) / map.resolution))
  let newGridOx := map.originX + cellOx * map.resolution
  let newGridOy := map.originY + cellOy * map.resolution
  let sizeX ← int32 map.sizeX
  let sizeY ← int32 map.sizeY
  let lowerLeftX := lowerLeft cellOx map.sizeX
  let lowerLeftY := lowerLeft cellOy map.sizeY
  -- the far corner in the old window, before it is cut off
  let _ ← int32 (cellOx + sizeX)
  let _ ← int32 (cellOy + sizeY)
  let cellSizeX := (upperRight cellOx map.sizeX - lowerLeftX).toNat
  let cellSizeY := (upperRight cellOy map.sizeY - lowerLeftY).toNat
  let localMap ← copyMapRegion map.cells lowerLeftX lowerLeftY map.sizeX
    (memory (cellSizeX * cellSizeY)) 0 0 cellSizeX cellSizeX cellSizeY
  let startX ← int32 (lowerLeftX - cellOx)
  let startY ← int32 (lowerLeftY - cellOy)
  let costmap ← copyMapRegion localMap 0 0 cellSizeX map.resetMaps.cells
    startX startY map.sizeX cellSizeX cellSizeY
  some (map.moved newGridOx newGridOy costmap)

end Model

section Overlap

variable {cellOrigin : ℤ} {size : Nat}

/-- Along one axis the numbers that moving the window computes are those of an
`int`. -/
structure CornersFit
    (cellOrigin : ℤ)
    (size : Nat) : Prop where
  offset : -2 ^ 31 < cellOrigin
  small : size < 2 ^ 31
  farCorner : cellOrigin + size < 2 ^ 31

theorem CornersFit.int32_eq
    (fit : CornersFit cellOrigin size) :
    int32 cellOrigin = some cellOrigin ∧
      int32 size = some (size : ℤ) ∧
      int32 (cellOrigin + size) = some (cellOrigin + size) ∧
      int32 (lowerLeft cellOrigin size - cellOrigin) =
        some (lowerLeft cellOrigin size - cellOrigin) := by
  obtain ⟨offset, small, farCorner⟩ := fit
  refine ⟨if_pos ?_, if_pos ?_, if_pos ?_, if_pos ?_⟩
  · omega
  · omega
  · omega
  · rw [lowerLeft]
    omega

theorem shared_old
    (cellOrigin : ℤ)
    (size : Nat) :
    ∃ left : Nat,
      lowerLeft cellOrigin size = left ∧
        left + (upperRight cellOrigin size -
          lowerLeft cellOrigin size).toNat ≤ size := by
  refine ⟨(lowerLeft cellOrigin size).toNat, ?_, ?_⟩
  · rw [lowerLeft]
    omega
  · rw [lowerLeft, upperRight]
    omega

theorem shared_new
    (notEmpty : (upperRight cellOrigin size -
      lowerLeft cellOrigin size).toNat ≠ 0) :
    ∃ start : Nat,
      lowerLeft cellOrigin size - cellOrigin = start ∧
        start + (upperRight cellOrigin size -
          lowerLeft cellOrigin size).toNat ≤ size := by
  refine ⟨(lowerLeft cellOrigin size - cellOrigin).toNat, ?_, ?_⟩
  · rw [lowerLeft, upperRight] at *
    omega
  · rw [lowerLeft, upperRight] at *
    omega

theorem shared_iff
    {place : Nat}
    (inside : place < size) :
    (lowerLeft cellOrigin size - cellOrigin ≤ place ∧
        (place : ℤ) < lowerLeft cellOrigin size - cellOrigin +
          (upperRight cellOrigin size - lowerLeft cellOrigin size).toNat) ↔
      0 ≤ place + cellOrigin ∧ place + cellOrigin < size := by
  rw [lowerLeft, upperRight]
  omega

end Overlap

section Rolling

variable {K : Type}

theorem getElem?_cells
    (map : Costmap2D K)
    (position : Nat) :
    map.cells[position]? = map.costmap[position]? :=
  Vector.getElem?_mk

theorem getCost_eq_cells
    (map : Costmap2D K)
    (x y : Nat) :
    map.getCost x y = (map.cells[y * map.sizeX + x]?).getD freeSpace := by
  rw [Costmap2D.getCost, Array.getD_eq_getD_getElem?, getElem?_cells,
    Costmap2D.getIndex]

theorem getCost_moved
    (map : RollingCostmap K)
    (newGridOx newGridOy : K)
    (costmap : Vector UInt8 (map.sizeX * map.sizeY))
    (x y : Nat) :
    (map.moved newGridOx newGridOy costmap).getCost x y =
      (costmap[y * map.sizeX + x]?).getD freeSpace := by
  rw [Costmap2D.getCost, Array.getD_eq_getD_getElem?, ← Vector.getElem?_toArray,
    Costmap2D.getIndex]
  rfl

theorem getElem?_cells_filled
    {grid : Grid K}
    {x y : Nat}
    (cost : UInt8)
    (xInside : x < grid.sizeX)
    (yInside : y < grid.sizeY) :
    (Costmap2D.filled grid cost).cells[y * grid.sizeX + x]? = some cost := by
  have inside : y * grid.sizeX + x < grid.sizeX * grid.sizeY := by
    have position :=
      @Costmap2D.getIndex_lt K (Costmap2D.filled grid cost) x y xInside yInside
    exact position.trans_eq (Costmap2D.filled grid cost).size_costmap
  rw [getElem?_cells]
  exact Array.getElem?_replicate.trans (if_pos inside)

theorem copyMapRegion_inside
    {sourceSize destSize smSizeX dmSizeX regionSizeX regionSizeY : Nat}
    {smX smY dmX dmY : Nat}
    (sourceMap : Vector UInt8 sourceSize)
    (destMap : Vector UInt8 destSize)
    (sourceFits : smX + regionSizeX ≤ smSizeX)
    (destFits : dmX + regionSizeX ≤ dmSizeX)
    (sourceInside : (smY + regionSizeY) * smSizeX ≤ sourceSize)
    (destInside : (dmY + regionSizeY) * dmSizeX ≤ destSize) :
    ∃ after,
      copyMapRegion sourceMap smX smY smSizeX destMap dmX dmY dmSizeX
          regionSizeX regionSizeY = some after ∧
        ∀ x < dmSizeX, ∀ y : Nat, after[y * dmSizeX + x]? =
          if (dmX ≤ x ∧ x < dmX + regionSizeX) ∧
              dmY ≤ y ∧ y < dmY + regionSizeY then
            sourceMap[(smY + (y - dmY)) * smSizeX + (smX + (x - dmX))]?
          else
            destMap[y * dmSizeX + x]? := by
  obtain ⟨after, isAfter, cells⟩ :=
    copyRows_inside sourceFits destFits destMap sourceInside destInside
  refine ⟨after, ?_, cells⟩
  rw [copyMapRegion]
  push_cast at isAfter
  exact isAfter

theorem copyBack
    (map : RollingCostmap K)
    {sharedX sharedY leftX leftY startX startY : Nat}
    (oldX : leftX + sharedX ≤ map.sizeX)
    (oldY : leftY + sharedY ≤ map.sizeY)
    (newX : startX + sharedX ≤ map.sizeX)
    (newY : startY + sharedY ≤ map.sizeY)
    (memory : Vector UInt8 (sharedX * sharedY)) :
    ∃ localMap costmap,
      copyMapRegion map.cells leftX leftY map.sizeX memory 0 0 sharedX
          sharedX sharedY = some localMap ∧
        copyMapRegion localMap 0 0 sharedX map.resetMaps.cells startX startY
            map.sizeX sharedX sharedY = some costmap ∧
          ∀ x < map.sizeX, ∀ y < map.sizeY,
            (costmap[y * map.sizeX + x]?).getD freeSpace =
              if (startX ≤ x ∧ x < startX + sharedX) ∧
                  startY ≤ y ∧ y < startY + sharedY then
                map.getCost (leftX + (x - startX)) (leftY + (y - startY))
              else
                map.defaultValue := by
  have mapRows (row : Nat) (fits : row + sharedY ≤ map.sizeY) :
      (row + sharedY) * map.sizeX ≤ map.sizeX * map.sizeY :=
    (Nat.mul_le_mul_right _ fits).trans_eq (Nat.mul_comm _ _)
  have localRows : (0 + sharedY) * sharedX ≤ sharedX * sharedY := by
    rw [Nat.zero_add, Nat.mul_comm]
  have localFits : 0 + sharedX ≤ sharedX := (Nat.zero_add sharedX).le
  obtain ⟨localMap, isLocal, localCells⟩ :=
    copyMapRegion_inside map.cells memory oldX localFits (mapRows leftY oldY)
      localRows
  obtain ⟨costmap, isCostmap, cells⟩ :=
    copyMapRegion_inside localMap map.resetMaps.cells localFits newX localRows
      (mapRows startY newY)
  refine ⟨localMap, costmap, isLocal, isCostmap, ?_⟩
  intro x xInside y yInside
  rw [cells x xInside y]
  split
  · case isTrue shared =>
    rw [Nat.zero_add, Nat.zero_add, localCells _ (by omega), if_pos (by omega),
      getCost_eq_cells, Nat.sub_zero, Nat.sub_zero]
  · rw [resetMaps, getElem?_cells_filled map.defaultValue xInside yInside]
    rfl

theorem copyMapRegion_empty
    {sourceSize destSize smSizeX dmSizeX regionSizeX regionSizeY : Nat}
    {smX smY dmX dmY : ℤ}
    (sourceMap : Vector UInt8 sourceSize)
    (destMap : Vector UInt8 destSize)
    (isEmpty : regionSizeX = 0 ∨ regionSizeY = 0) :
    copyMapRegion sourceMap smX smY smSizeX destMap dmX dmY dmSizeX
      regionSizeX regionSizeY = some destMap := by
  rcases isEmpty with rfl | rfl
  · exact copyRows_empty _ _ _ destMap _ _
  · rfl

/-- After both copies every cell has the cost from its place in the old window,
if it has one there, and the default value otherwise. -/
theorem rolled_cells
    (memory : (size : Nat) → Vector UInt8 size)
    (map : RollingCostmap K)
    (cellOx cellOy : ℤ) :
    let lowerLeftX := lowerLeft cellOx map.sizeX
    let lowerLeftY := lowerLeft cellOy map.sizeY
    let cellSizeX := (upperRight cellOx map.sizeX - lowerLeftX).toNat
    let cellSizeY := (upperRight cellOy map.sizeY - lowerLeftY).toNat
    ∃ localMap costmap,
      copyMapRegion map.cells lowerLeftX lowerLeftY map.sizeX
          (memory (cellSizeX * cellSizeY)) 0 0 cellSizeX cellSizeX cellSizeY =
        some localMap ∧
        copyMapRegion localMap 0 0 cellSizeX map.resetMaps.cells
            (lowerLeftX - cellOx) (lowerLeftY - cellOy) map.sizeX cellSizeX
            cellSizeY = some costmap ∧
          ∀ x < map.sizeX, ∀ y < map.sizeY,
            (costmap[y * map.sizeX + x]?).getD freeSpace =
              if (0 ≤ x + cellOx ∧ x + cellOx < map.sizeX) ∧
                  0 ≤ y + cellOy ∧ y + cellOy < map.sizeY then
                map.getCost (x + cellOx).toNat (y + cellOy).toNat
              else
                map.defaultValue := by
  intro lowerLeftX lowerLeftY cellSizeX cellSizeY
  by_cases isEmpty : cellSizeX = 0 ∨ cellSizeY = 0
  · refine ⟨_, _, copyMapRegion_empty _ _ isEmpty,
      copyMapRegion_empty _ _ isEmpty, ?_⟩
    intro x xInside y yInside
    have apart :
        ¬ ((0 ≤ x + cellOx ∧ x + cellOx < map.sizeX) ∧
          0 ≤ y + cellOy ∧ y + cellOy < map.sizeY) := by
      rintro ⟨xShared, yShared⟩
      have sharedX := (shared_iff xInside).mpr xShared
      have sharedY := (shared_iff yInside).mpr yShared
      rcases isEmpty with noColumn | noRow
      · exact absurd noColumn (by omega)
      · exact absurd noRow (by omega)
    rw [if_neg apart, resetMaps,
      getElem?_cells_filled map.defaultValue xInside yInside]
    rfl
  · rw [not_or] at isEmpty
    obtain ⟨leftX, isLeftX, oldX⟩ := shared_old cellOx map.sizeX
    obtain ⟨leftY, isLeftY, oldY⟩ := shared_old cellOy map.sizeY
    obtain ⟨startX, isStartX, newX⟩ := shared_new isEmpty.1
    obtain ⟨startY, isStartY, newY⟩ := shared_new isEmpty.2
    obtain ⟨localMap, costmap, isLocal, isCostmap, cells⟩ :=
      map.copyBack oldX oldY newX newY (memory (cellSizeX * cellSizeY))
    rw [← isLeftX, ← isLeftY] at isLocal
    rw [← isStartX, ← isStartY] at isCostmap
    refine ⟨localMap, costmap, isLocal, isCostmap, ?_⟩
    intro x xInside y yInside
    have sharedX := @shared_iff cellOx map.sizeX x xInside
    have sharedY := @shared_iff cellOy map.sizeY y yInside
    rw [isStartX] at sharedX
    rw [isStartY] at sharedY
    rw [cells x xInside y yInside]
    simp only [← sharedX, ← sharedY]
    norm_cast
    split
    · case isTrue shared =>
      congr 1
      · omega
      · omega
    · rfl

end Rolling

section World

variable
  {K : Type}
  [Field K]
  [LinearOrder K]
  [IsStrictOrderedRing K]
  [FloorRing K]

/-- Cutting off the decimals changes a number by less than one. -/
theorem abs_truncate_sub
    (value : K) :
    |(truncate value : K) - value| < 1 := by
  rw [abs_sub_lt_iff, truncate]
  split
  · have below := Int.floor_le value
    have above := Int.lt_floor_add_one value
    exact ⟨by linarith, by linarith⟩
  · have above := Int.le_ceil value
    have below := Int.ceil_lt_add_one value
    exact ⟨by linarith, by linarith⟩

/-- The grid only moves by less than one cell too little. -/
theorem abs_origin_sub
    {origin newOrigin resolution : K}
    (nonzero : resolution ≠ 0) :
    |origin + truncate ((newOrigin - origin) / resolution) * resolution -
      newOrigin| < |resolution| := by
  have split :
      origin + truncate ((newOrigin - origin) / resolution) * resolution -
          newOrigin =
        (truncate ((newOrigin - origin) / resolution) -
          (newOrigin - origin) / resolution) * resolution := by
    field_simp
    ring
  rw [split, abs_mul]
  exact mul_lt_of_lt_one_left (abs_pos.mpr nonzero) (abs_truncate_sub _)

/-- Two cells have one place in the world if they are as far apart as the
origins of their grids. -/
theorem mapToWorld_eq_iff
    {before after : Grid K}
    {cellOx cellOy : ℤ}
    {x y x' y' : Nat}
    (nonzero : before.resolution ≠ 0)
    (resolution : after.resolution = before.resolution)
    (originX : after.originX = before.originX + cellOx * before.resolution)
    (originY : after.originY = before.originY + cellOy * before.resolution) :
    after.mapToWorld x y = before.mapToWorld x' y' ↔
      x + cellOx = x' ∧ y + cellOy = y' := by
  have axis (origin : K) (cells : ℤ) (place place' : Nat) :
      origin + cells * before.resolution +
            (place + 1 / 2) * before.resolution =
          origin + (place' + 1 / 2) * before.resolution ↔
        place + cells = place' := by
    have difference :
        origin + cells * before.resolution +
              (place + 1 / 2) * before.resolution -
            (origin + (place' + 1 / 2) * before.resolution) =
          (((place + cells : ℤ) : K) - ((place' : ℤ) : K)) *
            before.resolution := by
      push_cast
      ring
    rw [← sub_eq_zero, difference, mul_eq_zero, or_iff_left nonzero,
      sub_eq_zero, Int.cast_inj]
  rw [Grid.mapToWorld, Grid.mapToWorld, Prod.mk.injEq, resolution, originX,
    originY, axis, axis]

/-- What moving the window does to a costmap. -/
structure Rolled
    (before after : RollingCostmap K)
    (newOriginX newOriginY : K) : Prop where
  sizeX : after.sizeX = before.sizeX
  sizeY : after.sizeY = before.sizeY
  resolution : after.resolution = before.resolution
  defaultValue : after.defaultValue = before.defaultValue
  wholeCells : ∃ cellsX cellsY : ℤ,
    after.originX = before.originX + cellsX * before.resolution ∧
      after.originY = before.originY + cellsY * before.resolution
  closeX : |after.originX - newOriginX| < |before.resolution|
  closeY : |after.originY - newOriginY| < |before.resolution|
  kept : ∀ x < before.sizeX, ∀ y < before.sizeY,
    ∀ x' < before.sizeX, ∀ y' < before.sizeY,
      after.mapToWorld x y = before.mapToWorld x' y' →
        after.getCost x y = before.getCost x' y'
  cleared : ∀ x < before.sizeX, ∀ y < before.sizeY,
    (∀ x' < before.sizeX, ∀ y' < before.sizeY,
      after.mapToWorld x y ≠ before.mapToWorld x' y') →
        after.getCost x y = before.defaultValue

/-- Costs that move against the origin stay in their place. -/
theorem kept_and_cleared
    {before after : RollingCostmap K}
    {cellOx cellOy : ℤ}
    (nonzero : before.resolution ≠ 0)
    (resolution : after.resolution = before.resolution)
    (originX : after.originX = before.originX + cellOx * before.resolution)
    (originY : after.originY = before.originY + cellOy * before.resolution)
    (costs : ∀ x < before.sizeX, ∀ y < before.sizeY, after.getCost x y =
      if (0 ≤ x + cellOx ∧ x + cellOx < before.sizeX) ∧
          0 ≤ y + cellOy ∧ y + cellOy < before.sizeY then
        before.getCost (x + cellOx).toNat (y + cellOy).toNat
      else
        before.defaultValue) :
    ∀ x < before.sizeX, ∀ y < before.sizeY,
      (∀ x' < before.sizeX, ∀ y' < before.sizeY,
        after.mapToWorld x y = before.mapToWorld x' y' →
          after.getCost x y = before.getCost x' y') ∧
      ((∀ x' < before.sizeX, ∀ y' < before.sizeY,
        after.mapToWorld x y ≠ before.mapToWorld x' y') →
          after.getCost x y = before.defaultValue) := by
  have samePlace (x y x' y' : Nat) :
      after.mapToWorld x y = before.mapToWorld x' y' ↔
        x + cellOx = x' ∧ y + cellOy = y' :=
    mapToWorld_eq_iff nonzero resolution originX originY
  intro x xInside y yInside
  rw [costs x xInside y yInside]
  constructor
  · intro x' xInside' y' yInside' same
    obtain ⟨column, row⟩ := (samePlace x y x' y').mp same
    rw [column, row, if_pos (by omega), Int.toNat_natCast, Int.toNat_natCast]
  · intro nowhere
    apply if_neg
    rintro ⟨column, row⟩
    apply nowhere (x + cellOx).toNat (by omega) (y + cellOy).toNat (by omega)
    rw [samePlace]
    omega

/-- Unless a corner overflows, moving the window never reads or writes outside
the maps, and what is seen through the old and the new window stays where it is
in the world. -/
theorem updateOrigin_rolled
    (memory : (size : Nat) → Vector UInt8 size)
    (map : RollingCostmap K)
    (newOriginX newOriginY : K)
    (nonzero : map.resolution ≠ 0)
    (fitX : CornersFit
      (truncate ((newOriginX - map.originX) / map.resolution)) map.sizeX)
    (fitY : CornersFit
      (truncate ((newOriginY - map.originY) / map.resolution)) map.sizeY) :
    ∃ after,
      map.updateOrigin memory newOriginX newOriginY = some after ∧
        Rolled map after newOriginX newOriginY := by
  obtain ⟨offsetX, sizeX, cornerX, startX⟩ := fitX.int32_eq
  obtain ⟨offsetY, sizeY, cornerY, startY⟩ := fitY.int32_eq
  obtain ⟨localMap, costmap, isLocal, isCostmap, cells⟩ := map.rolled_cells
    memory (truncate ((newOriginX - map.originX) / map.resolution))
    (truncate ((newOriginY - map.originY) / map.resolution))
  simp only [updateOrigin, offsetX, offsetY, sizeX, sizeY, cornerX, cornerY,
    startX, startY, isLocal, isCostmap, Option.bind_eq_bind,
    Option.bind_some]
  refine ⟨_, rfl, ?_⟩
  have costs := @kept_and_cleared K _ _ _ _ map
    (map.moved
      (map.originX +
        truncate ((newOriginX - map.originX) / map.resolution) * map.resolution)
      (map.originY +
        truncate ((newOriginY - map.originY) / map.resolution) * map.resolution)
      costmap)
    _ _ nonzero rfl rfl rfl
    fun x xInside y yInside =>
      (getCost_moved map _ _ costmap x y).trans (cells x xInside y yInside)
  exact {
    sizeX := rfl
    sizeY := rfl
    resolution := rfl
    defaultValue := rfl
    wholeCells := ⟨_, _, rfl, rfl⟩
    closeX := abs_origin_sub nonzero
    closeY := abs_origin_sub nonzero
    kept := fun x xInside y yInside => (costs x xInside y yInside).1
    cleared := fun x xInside y yInside => (costs x xInside y yInside).2
  }

/-- A window of four cells. -/
def smallWindow : RollingCostmap ℚ where
  sizeX := 2
  sizeY := 2
  resolution := 1 / 2
  originX := 0
  originY := 0
  costmap := #[1, 2, 3, 4]
  size_costmap := rfl
  defaultValue := 255

/-- The window moves by one column, and half a row is not enough to move. -/
theorem smallWindow_rolled :
    ∃ after,
      smallWindow.updateOrigin (fun size => Vector.replicate size 7)
          (3 / 4) (-1 / 4) = some after ∧
        Rolled smallWindow after (3 / 4) (-1 / 4) := by
  have nonzero : smallWindow.resolution ≠ 0 := by decide +kernel
  exact updateOrigin_rolled _ smallWindow (3 / 4) (-1 / 4) nonzero
    ⟨by decide +kernel, by decide, by decide +kernel⟩
    ⟨by decide +kernel, by decide, by decide +kernel⟩

/-- The offset is that of an `int`, but the far corner is not. -/
theorem farCorner_overflows :
    int32 (truncate ((2147483647 / 2 - smallWindow.originX) /
          smallWindow.resolution)) = some 2147483647 ∧
      smallWindow.updateOrigin (fun size => Vector.replicate size 7)
        (2147483647 / 2) 0 = none := by
  decide +kernel

example :
    (smallWindow.updateOrigin (fun size => Vector.replicate size 7)
      (3 / 4) (-1 / 4)).map (fun after => (after.originX, after.costmap)) =
        some (1 / 2, #[2, 255, 4, 255]) := by
  decide +kernel

end World

end RollingCostmap

end NavBim
