import NavBim.Costmap2D
import NavBim.RegionCopy

namespace NavBim

/-!
# Copies of windows

A window of one costmap is copied to another one.  Sizes and corners are
counted with 32 bits, also where they are checked, so that sums can overflow.
The rows are copied without a further check, and a read or a write outside the
memory of a costmap has no result here.
-/

/-- A costmap in memory.  It has no cells if its array was deleted. -/
structure CostmapMemory (K : Type) where
  sizeX : UInt32
  sizeY : UInt32
  resolution : K
  originX : K
  originY : K
  costmap : Array UInt8
  deriving DecidableEq

namespace CostmapMemory

section Model

variable {K : Type}

def grid
    (map : CostmapMemory K) : Grid K where
  sizeX := map.sizeX.toNat
  sizeY := map.sizeY.toNat
  resolution := map.resolution
  originX := map.originX
  originY := map.originY

def cells
    (map : CostmapMemory K) : Vector UInt8 map.costmap.size :=
  ⟨map.costmap, rfl⟩

def deleteMaps
    (map : CostmapMemory K) : CostmapMemory K :=
  { map with costmap := #[] }

/-- Allocate the cells of a costmap.  New memory may hold anything. -/
def initMaps
    (memory : (size : Nat) → Vector UInt8 size)
    (sizeX sizeY : UInt32)
    (map : CostmapMemory K) : CostmapMemory K :=
  { map with
    sizeX := sizeX
    sizeY := sizeY
    costmap := (memory (sizeX * sizeY).toNat).toArray }

def copyMapRegion
    {sourceSize destSize : Nat}
    (sourceMap : Vector UInt8 sourceSize)
    (smLowerLeftX smLowerLeftY smSizeX : UInt32)
    (destMap : Vector UInt8 destSize)
    (dmLowerLeftX dmLowerLeftY dmSizeX regionSizeX regionSizeY : UInt32) :
    Option (Vector UInt8 destSize) :=
  copyRows sourceMap smSizeX.toNat dmSizeX.toNat regionSizeX.toNat
    regionSizeY.toNat (smLowerLeftY * smSizeX + smLowerLeftX).toNat
    (dmLowerLeftY * dmSizeX + dmLowerLeftX).toNat destMap

/-- Copy a window of another costmap into this one. -/
def copyWindow
    (map source : CostmapMemory K)
    (sx0 sy0 sxn syn dx0 dy0 : UInt32) : Option (Bool × CostmapMemory K) :=
  let szX := sxn - sx0
  let szY := syn - sy0
  if sxn > source.sizeX ∨ syn > source.sizeY then
    some (false, map)
  else if dx0 + szX > map.sizeX ∨ dy0 + szY > map.sizeY then
    some (false, map)
  else do
    let costmap ← copyMapRegion source.cells sx0 sy0 source.sizeX map.cells
      dx0 dy0 map.sizeX szX szY
    some (true, { map with costmap := costmap.toArray })

variable [Field K] [LinearOrder K] [FloorRing K]

/-- The cell that a point lies in. -/
def worldToMap
    (map : CostmapMemory K)
    (wx wy : K) : Option (UInt32 × UInt32) :=
  (map.grid.worldToMap (wx, wy)).map fun cell =>
    (UInt32.ofNat cell.1, UInt32.ofNat cell.2)

/-- Turn this costmap into a copy of a window of another one.  The flag tells
whether the other one is this costmap itself. -/
def copyCostmapWindow
    (memory : (size : Nat) → Vector UInt8 size)
    (isSelf : Bool)
    (this map : CostmapMemory K)
    (winOriginX winOriginY winSizeX winSizeY : K) :
    Option (Bool × CostmapMemory K) :=
  if isSelf then
    some (false, this)
  else
    let this := this.deleteMaps
    match map.worldToMap winOriginX winOriginY,
        map.worldToMap (winOriginX + winSizeX) (winOriginY + winSizeY) with
    | some lowerLeft, some upperRight =>
        let this := { this with
          resolution := map.resolution
          originX := winOriginX
          originY := winOriginY }
        let this := this.initMaps memory (upperRight.1 - lowerLeft.1)
          (upperRight.2 - lowerLeft.2)
        do
          let costmap ← copyMapRegion map.cells lowerLeft.1 lowerLeft.2
            map.sizeX this.cells 0 0 this.sizeX this.sizeX this.sizeY
          some (true, { this with costmap := costmap.toArray })
    | _, _ => some (false, this)

end Model

section Windows

variable
  {K : Type}
  {source map : CostmapMemory K}
  {sx0 sy0 sxn syn dx0 dy0 : UInt32}

/-- A costmap with memory for all of its cells. -/
structure Allocated
    (map : CostmapMemory K) : Prop where
  size : map.costmap.size = map.sizeX.toNat * map.sizeY.toNat
  fits : map.sizeX.toNat * map.sizeY.toNat < 2 ^ 32

/-- The cost of a cell, if there is memory for it. -/
def cost?
    (map : CostmapMemory K)
    (x y : Nat) : Option UInt8 :=
  map.costmap[y * map.sizeX.toNat + x]?

/-- The window lies in both costmaps, the destination has the costs of the
source in it, and nothing else changed. -/
structure WindowCopied
    (source before after : CostmapMemory K)
    (sx0 sy0 sxn syn dx0 dy0 : UInt32) : Prop where
  sourceX : sx0 ≤ sxn ∧ sxn ≤ source.sizeX
  sourceY : sy0 ≤ syn ∧ syn ≤ source.sizeY
  destX : dx0.toNat + (sxn - sx0).toNat ≤ before.sizeX.toNat
  destY : dy0.toNat + (syn - sy0).toNat ≤ before.sizeY.toNat
  grid : after.grid = before.grid
  size : after.costmap.size = before.costmap.size
  cells : ∀ x < before.sizeX.toNat, ∀ y < before.sizeY.toNat,
    after.cost? x y =
      if (dx0.toNat ≤ x ∧ x < dx0.toNat + (sxn - sx0).toNat) ∧
          dy0.toNat ≤ y ∧ y < dy0.toNat + (syn - sy0).toNat then
        source.cost? (sx0.toNat + (x - dx0.toNat))
          (sy0.toNat + (y - dy0.toNat))
      else
        before.cost? x y

/-- A copy that is refused changes nothing, and one that is accepted is
exact. -/
def CopiesExactly
    (source map : CostmapMemory K)
    (sx0 sy0 sxn syn dx0 dy0 : UInt32) : Prop :=
  ∃ success after,
    map.copyWindow source sx0 sy0 sxn syn dx0 dy0 = some (success, after) ∧
      (success = false → after = map) ∧
      (success = true → WindowCopied source map after sx0 sy0 sxn syn dx0 dy0)

/-- The checks of a copy fail. -/
def Refused
    (source map : CostmapMemory K)
    (sx0 sy0 sxn syn dx0 dy0 : UInt32) : Prop :=
  source.sizeX < sxn ∨ source.sizeY < syn ∨
    map.sizeX < dx0 + (sxn - sx0) ∨ map.sizeY < dy0 + (syn - sy0)

/-- The corners of a window are in order, and its place in the destination is
counted without an overflow. -/
def InOrder
    (sx0 sy0 sxn syn dx0 dy0 : UInt32) : Prop :=
  (sx0 ≤ sxn ∧ sy0 ≤ syn) ∧
    dx0.toNat + (sxn - sx0).toNat < 2 ^ 32 ∧
    dy0.toNat + (syn - sy0).toNat < 2 ^ 32

theorem copyWindow_refused
    (refused : Refused source map sx0 sy0 sxn syn dx0 dy0) :
    map.copyWindow source sx0 sy0 sxn syn dx0 dy0 = some (false, map) := by
  rw [copyWindow]
  by_cases sourceOutside : sxn > source.sizeX ∨ syn > source.sizeY
  · rw [if_pos sourceOutside]
  · rw [if_neg sourceOutside, if_pos]
    rcases refused with outside | outside | outside | outside
    · exact absurd (.inl outside) sourceOutside
    · exact absurd (.inr outside) sourceOutside
    · exact .inl outside
    · exact .inr outside

theorem copyWindow_accepted
    (accepted : ¬ Refused source map sx0 sy0 sxn syn dx0 dy0) :
    map.copyWindow source sx0 sy0 sxn syn dx0 dy0 =
      (copyMapRegion source.cells sx0 sy0 source.sizeX map.cells dx0 dy0
        map.sizeX (sxn - sx0) (syn - sy0)).bind fun costmap =>
          some (true, { map with costmap := costmap.toArray }) := by
  simp only [Refused, not_or] at accepted
  obtain ⟨sourceX, sourceY, destX, destY⟩ := accepted
  rw [copyWindow, if_neg (not_or.mpr ⟨sourceX, sourceY⟩),
    if_neg (not_or.mpr ⟨destX, destY⟩)]
  rfl

/-- The position of a cell is counted without an overflow. -/
theorem position_toNat
    (allocated : map.Allocated)
    {x y : UInt32}
    (xInside : x < map.sizeX)
    (yInside : y < map.sizeY) :
    (y * map.sizeX + x).toNat = y.toNat * map.sizeX.toNat + x.toNat := by
  have column := UInt32.lt_iff_toNat_lt.mp xInside
  have row : (y.toNat + 1) * map.sizeX.toNat ≤
      map.sizeY.toNat * map.sizeX.toNat :=
    Nat.mul_le_mul_right _ (UInt32.lt_iff_toNat_lt.mp yInside)
  have fits := allocated.fits
  rw [Nat.mul_comm] at fits
  rw [Nat.succ_mul] at row
  rw [UInt32.toNat_add, UInt32.toNat_mul,
    Nat.mod_eq_of_lt (by omega : y.toNat * map.sizeX.toNat < 2 ^ 32)]
  exact Nat.mod_eq_of_lt (by omega)

/-- A window without cells is not copied, wherever it is. -/
theorem copyMapRegion_empty
    {sourceSize destSize : Nat}
    {smX smY smSizeX dmX dmY dmSizeX regionSizeX regionSizeY : UInt32}
    (sourceMap : Vector UInt8 sourceSize)
    (destMap : Vector UInt8 destSize)
    (isEmpty : regionSizeX.toNat = 0 ∨ regionSizeY.toNat = 0) :
    copyMapRegion sourceMap smX smY smSizeX destMap dmX dmY dmSizeX
      regionSizeX regionSizeY = some destMap := by
  rw [copyMapRegion]
  rcases isEmpty with noColumn | noRow
  · rw [noColumn]
    exact copyRows_empty _ _ _ destMap _ _
  · rw [noRow]
    rfl

section

variable
  (sourceAllocated : source.Allocated)
  (allocated : map.Allocated)

include sourceAllocated allocated

theorem copyMapRegion_inside
    {x y left below columns rows : UInt32}
    (notEmpty : 0 < columns.toNat ∧ 0 < rows.toNat)
    (sourceX : x.toNat + columns.toNat ≤ source.sizeX.toNat)
    (sourceY : y.toNat + rows.toNat ≤ source.sizeY.toNat)
    (destX : left.toNat + columns.toNat ≤ map.sizeX.toNat)
    (destY : below.toNat + rows.toNat ≤ map.sizeY.toNat) :
    ∃ after,
      copyMapRegion source.cells x y source.sizeX map.cells left below
          map.sizeX columns rows = some after ∧
        ∀ column < map.sizeX.toNat, ∀ row : Nat,
          after[row * map.sizeX.toNat + column]? =
            if (left.toNat ≤ column ∧
                  column < left.toNat + columns.toNat) ∧
                below.toNat ≤ row ∧ row < below.toNat + rows.toNat then
              source.cost? (x.toNat + (column - left.toNat))
                (y.toNat + (row - below.toNat))
            else
              map.cost? column row := by
  obtain ⟨someColumn, someRow⟩ := notEmpty
  have sourceRows :
      (y.toNat + rows.toNat) * source.sizeX.toNat ≤ source.costmap.size := by
    rw [sourceAllocated.size, Nat.mul_comm]
    exact Nat.mul_le_mul_left _ sourceY
  have destRows :
      (below.toNat + rows.toNat) * map.sizeX.toNat ≤ map.costmap.size := by
    rw [allocated.size, Nat.mul_comm]
    exact Nat.mul_le_mul_left _ destY
  obtain ⟨after, isAfter, cells⟩ :=
    @copyRows_inside _ _ _ source.cells _ _ _ _ _ _ sourceX destX _ _ map.cells
      sourceRows destRows
  refine ⟨after, ?_, ?_⟩
  · rw [copyMapRegion,
      position_toNat sourceAllocated (UInt32.lt_iff_toNat_lt.mpr (by omega))
        (UInt32.lt_iff_toNat_lt.mpr (by omega)),
      position_toNat allocated (UInt32.lt_iff_toNat_lt.mpr (by omega))
        (UInt32.lt_iff_toNat_lt.mpr (by omega))]
    exact isAfter
  · intro column inside row
    rw [cells column inside row]
    rfl

theorem copyWindow_exact
    (accepted : ¬ Refused source map sx0 sy0 sxn syn dx0 dy0)
    (inOrder : InOrder sx0 sy0 sxn syn dx0 dy0) :
    ∃ after,
      map.copyWindow source sx0 sy0 sxn syn dx0 dy0 = some (true, after) ∧
        WindowCopied source map after sx0 sy0 sxn syn dx0 dy0 := by
  obtain ⟨⟨orderX, orderY⟩, noOverflowX, noOverflowY⟩ := inOrder
  rw [copyWindow_accepted accepted]
  simp only [Refused, not_or, UInt32.not_lt] at accepted
  obtain ⟨sourceX, sourceY, destX, destY⟩ := accepted
  have columns := UInt32.toNat_sub_of_le _ _ orderX
  have rows := UInt32.toNat_sub_of_le _ _ orderY
  rw [UInt32.le_iff_toNat_le, UInt32.toNat_add,
    Nat.mod_eq_of_lt noOverflowX] at destX
  rw [UInt32.le_iff_toNat_le, UInt32.toNat_add,
    Nat.mod_eq_of_lt noOverflowY] at destY
  by_cases isEmpty : (sxn - sx0).toNat = 0 ∨ (syn - sy0).toNat = 0
  · refine ⟨map, ?_, ⟨orderX, sourceX⟩, ⟨orderY, sourceY⟩, destX, destY, rfl,
      rfl, ?_⟩
    · rw [copyMapRegion_empty _ _ isEmpty]
      rfl
    · intro x _ y _
      rw [if_neg (by omega)]
  · rw [UInt32.le_iff_toNat_le] at orderX orderY
    have sourceInside := UInt32.le_iff_toNat_le.mp sourceX
    have sourceRows := UInt32.le_iff_toNat_le.mp sourceY
    obtain ⟨costmap, isCostmap, cells⟩ :=
      copyMapRegion_inside sourceAllocated allocated
        (x := sx0) (y := sy0) (by omega) (by omega) (by omega) destX destY
    rw [isCostmap]
    refine ⟨{ map with costmap := costmap.toArray }, rfl, ⟨?_, sourceX⟩,
      ⟨?_, sourceY⟩, destX, destY, rfl, costmap.size_toArray, ?_⟩
    · exact UInt32.le_iff_toNat_le.mpr orderX
    · exact UInt32.le_iff_toNat_le.mpr orderY
    · intro x xInside y _
      rw [cost?, Vector.getElem?_toArray]
      exact cells x xInside y

/-- A copy between costmaps is refused without a change or exact, exactly if it
is refused or its corners are in order. -/
theorem copiesExactly_iff :
    CopiesExactly source map sx0 sy0 sxn syn dx0 dy0 ↔
      Refused source map sx0 sy0 sxn syn dx0 dy0 ∨
        InOrder sx0 sy0 sxn syn dx0 dy0 := by
  by_cases refused : Refused source map sx0 sy0 sxn syn dx0 dy0
  · refine iff_of_true ⟨false, map, copyWindow_refused refused, fun _ => rfl,
      fun accepted => ?_⟩ (.inl refused)
    cases accepted
  · rw [or_iff_right refused]
    constructor
    · rintro ⟨success, after, isCopy, -, exact⟩
      rw [copyWindow_accepted refused] at isCopy
      obtain ⟨costmap, -, result⟩ := Option.bind_eq_some_iff.mp isCopy
      cases result
      have copied := exact rfl
      have destX := copied.destX
      have destY := copied.destY
      have limitX := map.sizeX.toNat_lt
      have limitY := map.sizeY.toNat_lt
      exact ⟨⟨copied.sourceX.1, copied.sourceY.1⟩, by omega, by omega⟩
    · intro inOrder
      obtain ⟨after, isCopy, copied⟩ :=
        copyWindow_exact sourceAllocated allocated refused inOrder
      exact ⟨true, after, isCopy, fun refused => (by cases refused),
        fun _ => copied⟩

end

end Windows

section Refusal

variable
  {K : Type}
  [Field K] [LinearOrder K] [FloorRing K]

/-- The window of a costmap has both corners in this costmap. -/
def HasWindow
    (map : CostmapMemory K)
    (winOriginX winOriginY winSizeX winSizeY : K) : Prop :=
  (map.worldToMap winOriginX winOriginY).isSome ∧
    (map.worldToMap (winOriginX + winSizeX) (winOriginY + winSizeY)).isSome

variable
  {memory : (size : Nat) → Vector UInt8 size}
  {this map : CostmapMemory K}
  {winOriginX winOriginY winSizeX winSizeY : K}

/-- Without a window the cells are deleted. -/
theorem copyCostmapWindow_outside
    (outside : ¬ map.HasWindow winOriginX winOriginY winSizeX winSizeY) :
    copyCostmapWindow memory false this map winOriginX winOriginY winSizeX
      winSizeY = some (false, this.deleteMaps) := by
  rw [HasWindow] at outside
  rw [copyCostmapWindow, if_neg Bool.false_ne_true]
  cases isLower : map.worldToMap winOriginX winOriginY with
  | none => rfl
  | some lowerLeft =>
      cases isUpper :
          map.worldToMap (winOriginX + winSizeX) (winOriginY + winSizeY) with
      | none => rfl
      | some upperRight =>
          rw [isLower, isUpper] at outside
          exact absurd ⟨rfl, rfl⟩ outside

theorem copyCostmapWindow_inside
    (hasWindow : map.HasWindow winOriginX winOriginY winSizeX winSizeY)
    (after : CostmapMemory K) :
    copyCostmapWindow memory false this map winOriginX winOriginY winSizeX
      winSizeY ≠ some (false, after) := by
  obtain ⟨hasLower, hasUpper⟩ := hasWindow
  obtain ⟨lowerLeft, isLower⟩ := Option.isSome_iff_exists.mp hasLower
  obtain ⟨upperRight, isUpper⟩ := Option.isSome_iff_exists.mp hasUpper
  rw [copyCostmapWindow, if_neg Bool.false_ne_true, isLower, isUpper]
  intro isRefused
  obtain ⟨costmap, -, isResult⟩ := Option.bind_eq_some_iff.mp isRefused
  cases isResult

/-- A window of a costmap that is refused leaves the destination as it was,
exactly if it was refused before the old cells were deleted, or not refused, or
if there were no cells. -/
theorem copyCostmapWindow_unchanged_iff
    (memory : (size : Nat) → Vector UInt8 size)
    (isSelf : Bool)
    (this map : CostmapMemory K)
    (winOriginX winOriginY winSizeX winSizeY : K) :
    (∀ after, copyCostmapWindow memory isSelf this map winOriginX winOriginY
        winSizeX winSizeY = some (false, after) → after = this) ↔
      isSelf = true ∨
        map.HasWindow winOriginX winOriginY winSizeX winSizeY ∨
        this.costmap = #[] := by
  cases isSelf with
  | true =>
      refine iff_of_true ?_ (.inl rfl)
      intro after isCopy
      cases isCopy
      rfl
  | false =>
      rw [or_iff_right Bool.false_ne_true]
      by_cases hasWindow :
          map.HasWindow winOriginX winOriginY winSizeX winSizeY
      · refine iff_of_true ?_ (.inl hasWindow)
        intro after isCopy
        exact absurd isCopy (copyCostmapWindow_inside hasWindow after)
      · rw [copyCostmapWindow_outside hasWindow, or_iff_right hasWindow]
        constructor
        · intro unchanged
          exact (congrArg CostmapMemory.costmap (unchanged _ rfl)).symm
        · intro noCells after isCopy
          cases isCopy
          rw [deleteMaps, ← noCells]

/-- Both copies are refused without a change or exact, exactly under the
conditions of each. -/
theorem copies_iff
    (memory : (size : Nat) → Vector UInt8 size)
    (isSelf : Bool)
    (this map : CostmapMemory K)
    (allocated : this.Allocated)
    (sourceAllocated : map.Allocated)
    (winOriginX winOriginY winSizeX winSizeY : K)
    (sx0 sy0 sxn syn dx0 dy0 : UInt32) :
    ((∀ after, copyCostmapWindow memory isSelf this map winOriginX winOriginY
          winSizeX winSizeY = some (false, after) → after = this) ↔
        isSelf = true ∨
          map.HasWindow winOriginX winOriginY winSizeX winSizeY ∨
          this.costmap = #[]) ∧
      (CopiesExactly map this sx0 sy0 sxn syn dx0 dy0 ↔
        Refused map this sx0 sy0 sxn syn dx0 dy0 ∨
          InOrder sx0 sy0 sxn syn dx0 dy0) :=
  ⟨copyCostmapWindow_unchanged_iff memory isSelf this map winOriginX winOriginY
    winSizeX winSizeY, copiesExactly_iff sourceAllocated allocated⟩

/-- A costmap with the same cost in all of its cells. -/
def square
    (cost : UInt8) : CostmapMemory ℚ where
  sizeX := 2
  sizeY := 2
  resolution := 1
  originX := 0
  originY := 0
  costmap := #[cost, cost, cost, cost]

theorem square_allocated
    (cost : UInt8) :
    (square cost).Allocated :=
  ⟨rfl, by show 2 * 2 < 2 ^ 32; decide⟩

/-- One column of a costmap is copied. -/
theorem square_copies :
    (∀ after, copyCostmapWindow (fun size => .replicate size 0) false
          (square 1) (square 2) 0 0 1 1 = some (false, after) →
        after = square 1) ∧
      CopiesExactly (square 2) (square 1) 0 0 1 2 1 0 := by
  obtain ⟨unchanged, copied⟩ := copies_iff (fun size => .replicate size 0)
    false (square 1) (square 2) (square_allocated 1) (square_allocated 2)
    0 0 1 1 0 0 1 2 1 0
  have hasWindow : (square 2).HasWindow 0 0 1 1 :=
    ⟨by decide +kernel, by decide +kernel⟩
  exact ⟨unchanged.mpr (.inr (.inl hasWindow)),
    copied.mpr (.inr ⟨by decide, by decide, by decide⟩)⟩

example :
    (square 1).copyWindow (square 2) 0 0 1 2 1 0 =
      some (true, { square 1 with costmap := #[1, 2, 1, 2] }) := by
  decide +kernel

/-- A window beside the source deletes the cells of the destination, and the
width of a window whose corners are not in order passes the check. -/
theorem square_copies_wrong :
    (¬ ∀ (memory : (size : Nat) → Vector UInt8 size) (isSelf : Bool)
          (this map : CostmapMemory ℚ), this.Allocated → map.Allocated →
        ∀ winOriginX winOriginY winSizeX winSizeY : ℚ,
        ∀ after, copyCostmapWindow memory isSelf this map winOriginX winOriginY
          winSizeX winSizeY = some (false, after) → after = this) ∧
      ¬ ∀ this map : CostmapMemory ℚ, this.Allocated → map.Allocated →
        ∀ sx0 sy0 sxn syn dx0 dy0 : UInt32,
          CopiesExactly map this sx0 sy0 sxn syn dx0 dy0 := by
  constructor
  · intro always
    have isDeleted :
        copyCostmapWindow (fun size => .replicate size 0) false (square 1)
          (square 2) 5 5 1 1 = some (false, (square 1).deleteMaps) := by
      decide +kernel
    have unchanged := always _ _ _ _ (square_allocated 1) (square_allocated 2)
      _ _ _ _ _ isDeleted
    exact absurd unchanged (by decide +kernel)
  · intro always
    rcases (copiesExactly_iff (square_allocated 2) (square_allocated 1)).mp
        (always _ _ (square_allocated 1) (square_allocated 2) 1 0 0 1 1 0) with
      refused | inOrder
    · rcases refused with outside | outside | outside | outside
      all_goals exact absurd outside (by decide)
    · exact absurd inOrder.1.1 (by decide)

end Refusal

end CostmapMemory

end NavBim
