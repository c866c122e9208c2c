import NavBim.GuardedWrites
import NavBim.PixelImage
import NavBim.StaticLayer
import NavBim.WindowCopy

namespace NavBim

/-!
# Updates of maps in memory

The static layer and the subscriber of a costmap write the values of an update
into a window of a costmap.  Coordinates are counted with 32 bits, also where
the window is checked, and how many values there are is not checked at all.
Reading beside the values or writing outside the costmap has no result here.
-/

namespace MapUpdates

/-- `map_msgs/OccupancyGridUpdate`, whatever its fields hold. -/
structure OccupancyGridUpdate where
  frameId : String
  x : Int32
  y : Int32
  width : UInt32
  height : UInt32
  data : Array Int8

/-- `nav2_msgs/CostmapUpdate`, whatever its fields hold. -/
structure CostmapUpdate where
  x : UInt32
  y : UInt32
  sizeX : UInt32
  sizeY : UInt32
  data : Array UInt8

/-- `nav2_msgs/Costmap`. -/
structure Costmap (K : Type) where
  sizeX : UInt32
  sizeY : UInt32
  resolution : K
  originX : K
  originY : K
  data : Array UInt8

/-- A static layer with the part of its grid that holds the map. -/
structure StaticLayer (K : Type) extends CostmapMemory K where
  parameters : StaticLayerParameters
  mapFrame : String
  x : UInt32
  y : UInt32
  width : UInt32
  height : UInt32
  hasUpdatedData : Bool

/-- The costmap that a subscriber keeps, and the last message it has not
processed yet. -/
structure CostmapSubscriber (K : Type) where
  costmap : Option (CostmapMemory K)
  costmapMsg : Option (Costmap K)

variable {K : Type}

namespace StaticLayer

/-- The window of an update is not in the part that holds the map, or the update
is for another frame. -/
def ignores
    (layer : StaticLayer K)
    (update : OccupancyGridUpdate) : Bool :=
  update.y < layer.y.toInt32 ||
    layer.y + layer.height < update.y.toUInt32 + update.height ||
    update.x < layer.x.toInt32 ||
    layer.x + layer.width < update.x.toUInt32 + update.width ||
    update.frameId != layer.mapFrame

/-- The position for a row and a column of an update. -/
def index
    (layer : StaticLayer K)
    (update : OccupancyGridUpdate)
    (cell : Nat × Nat) : Nat :=
  let indexBase := (update.y.toUInt32 + UInt32.ofNat cell.1) * layer.sizeX
  (indexBase + UInt32.ofNat cell.2 + update.x.toUInt32).toNat

/-- A value of an update as a cost. -/
def interpretedValue
    (layer : StaticLayer K)
    (update : OccupancyGridUpdate)
    (di : Nat) : Option UInt8 :=
  update.data[di]?.map fun value =>
    layer.parameters.interpretValue value.toUInt8

def incomingUpdate
    (layer : StaticLayer K)
    (update : OccupancyGridUpdate) : Option (StaticLayer K) :=
  if layer.ignores update then
    some layer
  else do
    let costmap ← writeEach (layer.index update)
      (fun cell => layer.interpretedValue update
        (UInt32.ofNat (cell.1 * update.width.toNat + cell.2)).toNat)
      (rowMajor update.width.toNat update.height.toNat) layer.costmap
    some { layer with costmap := costmap, hasUpdatedData := true }

end StaticLayer

namespace CostmapSubscriber

/-- The window of an update is not in the costmap. -/
def ignores
    (map : CostmapMemory K)
    (update : CostmapUpdate) : Bool :=
  map.sizeX < update.x + update.sizeX || map.sizeY < update.y + update.sizeY

/-- The position for a row and a column of an update. -/
def index
    (map : CostmapMemory K)
    (update : CostmapUpdate)
    (cell : Nat × Nat) : Nat :=
  let startingIndex :=
    (UInt64.ofNat cell.1 + update.y.toUInt64) * map.sizeX.toUInt64 +
      update.x.toUInt64
  startingIndex.toNat + cell.2

/-- Copy an update row by row. -/
def copyUpdate
    (map : CostmapMemory K)
    (update : CostmapUpdate) : Option (CostmapMemory K) :=
  if ignores map update then
    some map
  else do
    let costmap ← writeEach (index map update)
      (fun cell => update.data[
        (UInt64.ofNat cell.1 * update.sizeX.toUInt64).toNat + cell.2]?)
      (rowMajor update.sizeX.toNat update.sizeY.toNat) map.costmap
    some { map with costmap := costmap }

variable [DecidableEq K]

def haveCostmapParametersChanged
    (map : CostmapMemory K)
    (msg : Costmap K) : Bool :=
  map.sizeX != msg.sizeX || map.sizeY != msg.sizeY ||
    map.resolution != msg.resolution ||
    (map.originX != msg.originX || map.originY != msg.originY)

/-- A costmap of free cells. -/
def resizeMap
    (msg : Costmap K) : CostmapMemory K where
  sizeX := msg.sizeX
  sizeY := msg.sizeY
  resolution := msg.resolution
  originX := msg.originX
  originY := msg.originY
  costmap := Array.replicate (msg.sizeX * msg.sizeY).toNat freeSpace

/-- Take over the message that is kept, if there is one and there was one
before. -/
def processCurrentCostmapMsg
    (subscriber : CostmapSubscriber K) : Option (CostmapSubscriber K) :=
  match subscriber.costmap, subscriber.costmapMsg with
  | some map, some msg => do
      let resized :=
        if haveCostmapParametersChanged map msg then resizeMap msg else map
      let costmap ← writeEach id (fun position => msg.data[position]?)
        (List.range msg.data.size) resized.costmap
      some {
        costmap := some { resized with costmap := costmap }
        costmapMsg := none }
  | _, _ => some subscriber

def costmapUpdateCallback
    (subscriber : CostmapSubscriber K)
    (update : CostmapUpdate) : Option (CostmapSubscriber K) := do
  let ready ← subscriber.processCurrentCostmapMsg
  match ready.costmap with
  | none => some ready
  | some map => do
      let updated ← copyUpdate map update
      some { ready with costmap := some updated }

end CostmapSubscriber

section Windows

/-- The window lies in the grid, there is a value for each of its cells, and the
cells of the window have these values while all others keep theirs. -/
structure UpdateApplied
    (before after : CostmapMemory K)
    (x y : ℤ)
    (width height : Nat)
    (value : Nat → Option UInt8) : Prop where
  insideX : 0 ≤ x ∧ x + width ≤ before.sizeX.toNat
  insideY : 0 ≤ y ∧ y + height ≤ before.sizeY.toNat
  hasData : ∀ di < width * height, (value di).isSome
  grid : after.grid = before.grid
  size : after.costmap.size = before.costmap.size
  cells : ∀ column < before.sizeX.toNat, ∀ row < before.sizeY.toNat,
    after.cost? column row =
      if (x ≤ column ∧ column < x + width) ∧ y ≤ row ∧ row < y + height then
        value ((row - y).toNat * width + (column - x).toNat)
      else
        before.cost? column row

/-- An update is applied exactly or not at all. -/
def UpdatedExactly
    (before : CostmapMemory K)
    (result : Option (CostmapMemory K))
    (x y : ℤ)
    (width height : Nat)
    (value : Nat → Option UInt8) : Prop :=
  ∃ after, result = some after ∧
    (after = before ∨ UpdateApplied before after x y width height value)

variable
  {map : CostmapMemory K}
  {position : Nat × Nat → Nat}
  {value : Nat × Nat → Option UInt8}
  {datum : Nat → Option UInt8}
  {left below width height : Nat}

/-- Writes to the cells of a window in the grid are an update of the window. -/
theorem writeEach_applied
    (allocated : map.Allocated)
    (insideX : left + width ≤ map.sizeX.toNat)
    (insideY : below + height ≤ map.sizeY.toNat)
    (positions : ∀ row < height, ∀ column < width, position (row, column) =
      (below + row) * map.sizeX.toNat + (left + column))
    (hasData : ∀ di < width * height, (datum di).isSome)
    (values : ∀ row < height, ∀ column < width,
      value (row, column) = datum (row * width + column)) :
    ∃ costmap,
      writeEach position value (rowMajor width height) map.costmap =
          some costmap ∧
        UpdateApplied map { map with costmap := costmap } left below width
          height datum := by
  have inside : ∀ cell ∈ rowMajor width height,
      position cell < map.costmap.size := by
    intro cell member
    obtain ⟨rowInside, columnInside⟩ := mem_rowMajor.mp member
    rw [positions _ rowInside _ columnInside, allocated.size]
    exact rowMajor_lt (by omega) (by omega)
  have hasValue : ∀ cell ∈ rowMajor width height, (value cell).isSome := by
    intro cell member
    obtain ⟨rowInside, columnInside⟩ := mem_rowMajor.mp member
    rw [values _ rowInside _ columnInside]
    exact hasData _ (rowMajor_lt rowInside columnInside)
  have apart : (rowMajor width height).Pairwise fun first second =>
      position first ≠ position second := by
    refine (rowMajor_nodup width height).imp_of_mem ?_
    intro first second isFirst isSecond different same
    obtain ⟨rowInside, columnInside⟩ := mem_rowMajor.mp isFirst
    obtain ⟨rowInside', columnInside'⟩ := mem_rowMajor.mp isSecond
    rw [positions _ rowInside _ columnInside,
      positions _ rowInside' _ columnInside'] at same
    obtain ⟨sameRow, sameColumn⟩ :=
      rowMajor_inj (by omega) (by omega) same
    exact different (Prod.ext (by omega) (by omega))
  obtain ⟨costmap, isCostmap, size, writes, others⟩ :=
    writeEach_inside inside hasValue apart
  refine ⟨costmap, isCostmap, ⟨by omega, by omega⟩, ⟨by omega, by omega⟩,
    hasData, rfl, size, ?_⟩
  intro column columnInside row rowInside
  rw [CostmapMemory.cost?, CostmapMemory.cost?]
  split
  · case isTrue inWindow =>
    obtain ⟨dx, rfl⟩ : ∃ dx, column = left + dx :=
      ⟨column - left, by omega⟩
    obtain ⟨dy, rfl⟩ : ∃ dy, row = below + dy := ⟨row - below, by omega⟩
    have written := writes (dy, dx) (mem_rowMajor.mpr ⟨by omega, by omega⟩)
    rw [positions dy (by omega) dx (by omega),
      values dy (by omega) dx (by omega)] at written
    rw [written]
    congr 1
    push_cast
    simp
  · case isFalse outside =>
    apply others
    intro cell member same
    obtain ⟨rowIn, columnIn⟩ := mem_rowMajor.mp member
    rw [positions _ rowIn _ columnIn] at same
    obtain ⟨sameRow, sameColumn⟩ :=
      rowMajor_inj (by omega) columnInside same
    exact outside (by omega)

theorem exists_changed
    (size : Nat)
    (notEmpty : ¬ (width = 0 ∨ height = 0)) :
    ∃ costmap : Array UInt8, costmap.size = size ∧
      writeEach position value (rowMajor width height) costmap ≠
        some costmap := by
  obtain ⟨items, row, column, isLast⟩ := rowMajor_last notEmpty
  rw [isLast]
  obtain ⟨other, isOther⟩ :
      ∃ other : UInt8, value (row, column) ≠ some other := by
    cases value (row, column) with
    | none => exact ⟨0, nofun⟩
    | some written =>
        refine ⟨written + 1, fun same => ?_⟩
        simp at same
  refine ⟨Array.replicate size other, Array.size_replicate, fun unchanged => ?_⟩
  obtain ⟨inside, written, isWritten, found⟩ := writeEach_last unchanged
  rw [Array.size_replicate] at inside
  rw [Array.getElem?_replicate, if_pos inside] at found
  rw [← found] at isWritten
  exact isOther isWritten

/-- The window lies in the grid, and there are enough values. -/
structure Fits
    (map : CostmapMemory K)
    (x y : ℤ)
    (width height values : Nat) : Prop where
  insideX : 0 ≤ x ∧ x + width ≤ map.sizeX.toNat
  insideY : 0 ≤ y ∧ y + height ≤ map.sizeY.toNat
  hasData : width * height ≤ values

theorem UpdateApplied.fits
    {after : CostmapMemory K}
    {x y : ℤ}
    {values : Nat}
    (applied : UpdateApplied map after x y width height datum)
    (data : ∀ di, (datum di).isSome → di < values) :
    Fits map x y width height values := by
  refine ⟨applied.insideX, applied.insideY, ?_⟩
  by_contra tooFew
  have last := data _ (applied.hasData values (by omega))
  exact absurd last (Nat.lt_irrefl _)

/-- The costmap after an update that is ignored or written. -/
def writeWindow
    (ignored : Bool)
    (position : Nat × Nat → Nat)
    (value : Nat × Nat → Option UInt8)
    (width height : Nat)
    (map : CostmapMemory K) : Option (CostmapMemory K) :=
  if ignored then
    some map
  else
    (writeEach position value (rowMajor width height) map.costmap).map
      fun costmap => { map with costmap := costmap }

theorem fits_of_exact
    {x y : ℤ}
    {values : Nat}
    (notEmpty : ¬ (width = 0 ∨ height = 0))
    (data : ∀ di, (datum di).isSome → di < values)
    (exact : ∀ costmap : Array UInt8, costmap.size = map.costmap.size →
      UpdatedExactly { map with costmap := costmap }
        (writeWindow false position value width height
          { map with costmap := costmap })
        x y width height datum) :
    Fits map x y width height values := by
  obtain ⟨costmap, size, isChanged⟩ :=
    @exists_changed position value width height map.costmap.size notEmpty
  obtain ⟨after, isAfter, unchanged | applied⟩ := exact costmap size
  · obtain ⟨written, isWritten, rfl⟩ := Option.map_eq_some_iff.mp isAfter
    have same : written = costmap := congrArg CostmapMemory.costmap unchanged
    rw [same] at isWritten
    exact absurd isWritten isChanged
  · obtain ⟨insideX, insideY, hasData⟩ := applied.fits data
    exact ⟨insideX, insideY, hasData⟩

/-- Whatever a costmap holds, an update is applied exactly or not at all, exactly
if it is ignored, has no cells, or fits. -/
theorem writeWindow_exact_iff
    {ignored : Bool}
    {x y : ℤ}
    {values : Nat}
    (data : ∀ di, (datum di).isSome → di < values)
    (fitting : Fits map x y width height values →
      ∀ costmap : Array UInt8, costmap.size = map.costmap.size →
        ∃ written, writeEach position value (rowMajor width height) costmap =
            some written ∧
          UpdateApplied { map with costmap := costmap }
            { map with costmap := written } x y width height datum) :
    (∀ costmap : Array UInt8, costmap.size = map.costmap.size →
      UpdatedExactly { map with costmap := costmap }
        (writeWindow ignored position value width height
          { map with costmap := costmap })
        x y width height datum) ↔
      ignored = true ∨ (width = 0 ∨ height = 0) ∨
        Fits map x y width height values := by
  cases ignored with
  | true =>
      refine iff_of_true ?_ (.inl rfl)
      intro costmap _
      exact ⟨_, rfl, .inl rfl⟩
  | false =>
      rw [or_iff_right Bool.false_ne_true]
      by_cases isEmpty : width = 0 ∨ height = 0
      · refine iff_of_true ?_ (.inl isEmpty)
        intro costmap _
        rw [writeWindow, if_neg Bool.false_ne_true, rowMajor_empty isEmpty]
        exact ⟨_, rfl, .inl rfl⟩
      · rw [or_iff_right isEmpty]
        constructor
        · exact fits_of_exact isEmpty data
        · intro fits costmap size
          obtain ⟨written, isWritten, applied⟩ := fitting fits costmap size
          rw [writeWindow, if_neg Bool.false_ne_true, isWritten]
          exact ⟨_, rfl, .inr applied⟩

end Windows

namespace StaticLayer

variable
  {layer : StaticLayer K}
  {update : OccupancyGridUpdate}

/-- The layer with other costs. -/
def withCells
    (layer : StaticLayer K)
    (costmap : Array UInt8) : StaticLayer K :=
  { layer with costmap := costmap }

/-- An update is applied exactly or not at all, by this layer. -/
def UpdatesExactly
    (layer : StaticLayer K)
    (update : OccupancyGridUpdate) : Prop :=
  UpdatedExactly layer.toCostmapMemory
    ((layer.incomingUpdate update).map StaticLayer.toCostmapMemory)
    update.x.toInt update.y.toInt update.width.toNat update.height.toNat
    (layer.interpretedValue update)

theorem toNat_coordinate
    {coordinate : Int32}
    (notNegative : 0 ≤ coordinate.toInt) :
    (coordinate.toUInt32.toNat : ℤ) = coordinate.toInt := by
  rw [Int32.toNat_toUInt32_of_le (Int32.le_iff_toInt_le.mpr notNegative),
    Int32.toNatClampNeg, Int.toNat_of_nonneg notNegative]

theorem lt_of_interpretedValue
    {di : Nat}
    (hasValue : (layer.interpretedValue update di).isSome) :
    di < update.data.size := by
  rw [interpretedValue, Option.isSome_map] at hasValue
  obtain ⟨value, isValue⟩ := Option.isSome_iff_exists.mp hasValue
  exact (Array.getElem?_eq_some_iff.mp isValue).1

theorem interpretedValue_isSome
    {di : Nat}
    (inside : di < update.data.size) :
    (layer.interpretedValue update di).isSome := by
  rw [interpretedValue, Option.isSome_map, Array.getElem?_eq_getElem inside]
  rfl

/-- Positions in a window of the grid are counted without an overflow. -/
theorem index_inside
    (allocated : layer.Allocated)
    {row column : Nat}
    (insideX : update.x.toUInt32.toNat + column < layer.sizeX.toNat)
    (insideY : update.y.toUInt32.toNat + row < layer.sizeY.toNat) :
    layer.index update (row, column) =
      (update.y.toUInt32.toNat + row) * layer.sizeX.toNat +
        (update.x.toUInt32.toNat + column) := by
  have bound := rowMajor_lt insideY insideX
  have fits := allocated.fits
  have limitX := layer.sizeX.toNat_lt
  have limitY := layer.sizeY.toNat_lt
  simp only [index, UInt32.toNat_add, UInt32.toNat_mul, UInt32.toNat_ofNat']
  rw [Nat.mod_eq_of_lt (by omega : row < 2 ^ 32),
    Nat.mod_eq_of_lt (by omega : column < 2 ^ 32),
    Nat.mod_eq_of_lt (by omega : update.y.toUInt32.toNat + row < 2 ^ 32),
    Nat.mod_eq_of_lt
      (by omega : (update.y.toUInt32.toNat + row) * layer.sizeX.toNat < 2 ^ 32),
    Nat.mod_eq_of_lt
      (by omega : (update.y.toUInt32.toNat + row) * layer.sizeX.toNat + column <
        2 ^ 32),
    Nat.mod_eq_of_lt (by omega)]
  omega

theorem writeEach_of_fits
    (allocated : layer.Allocated)
    (fits : Fits layer.toCostmapMemory update.x.toInt update.y.toInt
      update.width.toNat update.height.toNat update.data.size)
    (costmap : Array UInt8)
    (size : costmap.size = layer.costmap.size) :
    ∃ written,
      writeEach (layer.index update)
          (fun cell => layer.interpretedValue update
            (UInt32.ofNat (cell.1 * update.width.toNat + cell.2)).toNat)
          (rowMajor update.width.toNat update.height.toNat) costmap =
        some written ∧
        UpdateApplied { layer.toCostmapMemory with costmap := costmap }
          { layer.toCostmapMemory with costmap := written } update.x.toInt
          update.y.toInt update.width.toNat update.height.toNat
          (layer.interpretedValue update) := by
  obtain ⟨insideX, insideY, enough⟩ := fits
  have left := toNat_coordinate insideX.1
  have below := toNat_coordinate insideY.1
  have cells : update.width.toNat * update.height.toNat < 2 ^ 32 :=
    lt_of_le_of_lt (Nat.mul_le_mul (by omega) (by omega)) allocated.fits
  have otherAllocated : CostmapMemory.Allocated
      { layer.toCostmapMemory with costmap := costmap } :=
    ⟨size.trans allocated.size, allocated.fits⟩
  rw [← left, ← below]
  rw [← left] at insideX
  rw [← below] at insideY
  apply writeEach_applied otherAllocated (Int.ofNat_le.mp insideX.2)
    (Int.ofNat_le.mp insideY.2)
  · intro row rowInside column columnInside
    exact index_inside allocated (by omega) (by omega)
  · intro di inside
    exact interpretedValue_isSome (by omega)
  · intro row rowInside column columnInside
    have place := rowMajor_lt rowInside columnInside
    rw [UInt32.toNat_ofNat_of_lt' (place.trans cells)]

theorem incomingUpdate_eq
    (layer : StaticLayer K)
    (update : OccupancyGridUpdate) :
    (layer.incomingUpdate update).map StaticLayer.toCostmapMemory =
      writeWindow (layer.ignores update) (layer.index update)
        (fun cell => layer.interpretedValue update
          (UInt32.ofNat (cell.1 * update.width.toNat + cell.2)).toNat)
        update.width.toNat update.height.toNat layer.toCostmapMemory := by
  rw [incomingUpdate, writeWindow]
  by_cases ignored : layer.ignores update = true
  · rw [if_pos ignored, if_pos ignored]
    rfl
  · rw [if_neg ignored, if_neg ignored, Option.bind_eq_bind, Option.map_bind]
    exact (Option.map_eq_bind ..).symm

/-- Whatever costs a layer holds, an update is applied exactly or not at all,
exactly if it is ignored, has no cells, or fits. -/
theorem updatesExactly_iff
    (allocated : layer.Allocated) :
    (∀ costmap, costmap.size = layer.costmap.size →
        (layer.withCells costmap).UpdatesExactly update) ↔
      layer.ignores update = true ∨
        (update.width.toNat = 0 ∨ update.height.toNat = 0) ∨
        Fits layer.toCostmapMemory update.x.toInt update.y.toInt
          update.width.toNat update.height.toNat update.data.size := by
  rw [← writeWindow_exact_iff (fun di => lt_of_interpretedValue)
    (writeEach_of_fits allocated)]
  apply forall_congr'
  intro costmap
  rw [UpdatesExactly, incomingUpdate_eq]
  rfl

end StaticLayer

namespace CostmapSubscriber

variable
  {map : CostmapMemory K}
  {update : CostmapUpdate}

/-- Positions in a window of the costmap are counted without an overflow. -/
theorem index_inside
    {row column : Nat}
    (inside : update.y.toNat + row < map.sizeY.toNat) :
    index map update (row, column) =
      (update.y.toNat + row) * map.sizeX.toNat +
        (update.x.toNat + column) := by
  have limitX := update.x.toNat_lt
  have limitSize := map.sizeX.toNat_lt
  have limitY := map.sizeY.toNat_lt
  have bound : (row + update.y.toNat) * map.sizeX.toNat ≤
      (2 ^ 32 - 1) * (2 ^ 32 - 1) :=
    Nat.mul_le_mul (by omega) (by omega)
  simp only [index, UInt64.toNat_add, UInt64.toNat_mul, UInt64.toNat_ofNat',
    UInt32.toNat_toUInt64]
  rw [Nat.mod_eq_of_lt (by omega : row < 2 ^ 64),
    Nat.mod_eq_of_lt (by omega : row + update.y.toNat < 2 ^ 64),
    Nat.mod_eq_of_lt
      (by omega : (row + update.y.toNat) * map.sizeX.toNat < 2 ^ 64),
    Nat.mod_eq_of_lt (by omega), Nat.add_assoc, Nat.add_comm row]

theorem dataIndex
    {row : Nat}
    (inside : row < update.sizeY.toNat)
    (column : Nat) :
    (UInt64.ofNat row * update.sizeX.toUInt64).toNat + column =
      row * update.sizeX.toNat + column := by
  have limitX := update.sizeX.toNat_lt
  have limitY := update.sizeY.toNat_lt
  have bound : row * update.sizeX.toNat ≤ (2 ^ 32 - 1) * (2 ^ 32 - 1) :=
    Nat.mul_le_mul (by omega) (by omega)
  simp only [UInt64.toNat_mul, UInt64.toNat_ofNat', UInt32.toNat_toUInt64]
  rw [Nat.mod_eq_of_lt (by omega : row < 2 ^ 64), Nat.mod_eq_of_lt (by omega)]

theorem writeEach_of_fits
    (allocated : map.Allocated)
    (fits : Fits map update.x.toNat update.y.toNat update.sizeX.toNat
      update.sizeY.toNat update.data.size)
    (costmap : Array UInt8)
    (size : costmap.size = map.costmap.size) :
    ∃ written,
      writeEach (index map update)
          (fun cell => update.data[
            (UInt64.ofNat cell.1 * update.sizeX.toUInt64).toNat + cell.2]?)
          (rowMajor update.sizeX.toNat update.sizeY.toNat) costmap =
        some written ∧
        UpdateApplied { map with costmap := costmap }
          { map with costmap := written } update.x.toNat update.y.toNat
          update.sizeX.toNat update.sizeY.toNat
          (fun position => update.data[position]?) := by
  obtain ⟨insideX, insideY, enough⟩ := fits
  have insideY := Int.ofNat_le.mp insideY.2
  have otherAllocated : CostmapMemory.Allocated
      { map with costmap := costmap } :=
    ⟨size.trans allocated.size, allocated.fits⟩
  apply writeEach_applied otherAllocated (Int.ofNat_le.mp insideX.2) insideY
  · intro row rowInside column columnInside
    exact index_inside (by omega)
  · intro position inside
    have hasData : position < update.data.size := by omega
    rw [Array.getElem?_eq_getElem hasData]
    rfl
  · intro row rowInside column columnInside
    dsimp only
    rw [dataIndex rowInside column]

theorem copyUpdate_eq
    (map : CostmapMemory K)
    (update : CostmapUpdate) :
    copyUpdate map update =
      writeWindow (ignores map update) (index map update)
        (fun cell => update.data[
          (UInt64.ofNat cell.1 * update.sizeX.toUInt64).toNat + cell.2]?)
        update.sizeX.toNat update.sizeY.toNat map := by
  rw [copyUpdate, writeWindow]
  by_cases ignored : ignores map update = true
  · rw [if_pos ignored, if_pos ignored]
  · rw [if_neg ignored, if_neg ignored, Option.bind_eq_bind]
    exact (Option.map_eq_bind ..).symm

variable [DecidableEq K]

/-- An update is applied exactly or not at all, by any subscriber that holds the
costmap when its last message is processed. -/
def UpdatesExactly
    (map : CostmapMemory K)
    (update : CostmapUpdate) : Prop :=
  ∀ subscriber : CostmapSubscriber K,
    subscriber.processCurrentCostmapMsg =
        some { costmap := some map, costmapMsg := none } →
      UpdatedExactly map
        ((subscriber.costmapUpdateCallback update).bind
          CostmapSubscriber.costmap)
        update.x.toNat update.y.toNat update.sizeX.toNat update.sizeY.toNat
        (fun position => update.data[position]?)

theorem costmapUpdateCallback_eq
    {subscriber : CostmapSubscriber K}
    (isReady : subscriber.processCurrentCostmapMsg =
      some { costmap := some map, costmapMsg := none }) :
    (subscriber.costmapUpdateCallback update).bind CostmapSubscriber.costmap =
      copyUpdate map update := by
  rw [costmapUpdateCallback, isReady, Option.bind_eq_bind, Option.bind_some]
  dsimp only
  cases copyUpdate map update with
  | none => rfl
  | some updated => rfl

/-- Without a message to process, the subscriber holds its costmap. -/
theorem updatesExactly_iff_copyUpdate :
    UpdatesExactly map update ↔
      UpdatedExactly map (copyUpdate map update) update.x.toNat update.y.toNat
        update.sizeX.toNat update.sizeY.toNat
        (fun position => update.data[position]?) := by
  constructor
  · intro exact
    have ready : CostmapSubscriber.processCurrentCostmapMsg
        { costmap := some map, costmapMsg := none } =
          some { costmap := some map, costmapMsg := none } := rfl
    have updated := exact _ ready
    rw [costmapUpdateCallback_eq ready] at updated
    exact updated
  · intro exact subscriber isReady
    rw [costmapUpdateCallback_eq isReady]
    exact exact

/-- Whatever costs a subscriber holds, an update is applied exactly or not at
all, exactly if it is ignored, has no cells, or fits. -/
theorem updatesExactly_iff
    (allocated : map.Allocated) :
    (∀ costmap : Array UInt8, costmap.size = map.costmap.size →
        UpdatesExactly { map with costmap := costmap } update) ↔
      ignores map update = true ∨
        (update.sizeX.toNat = 0 ∨ update.sizeY.toNat = 0) ∨
        Fits map update.x.toNat update.y.toNat update.sizeX.toNat
          update.sizeY.toNat update.data.size := by
  have data : ∀ position, (update.data[position]?).isSome →
      position < update.data.size := by
    intro position hasValue
    obtain ⟨value, isValue⟩ := Option.isSome_iff_exists.mp hasValue
    exact (Array.getElem?_eq_some_iff.mp isValue).1
  rw [← writeWindow_exact_iff data (writeEach_of_fits allocated)]
  apply forall_congr'
  intro costmap
  rw [updatesExactly_iff_copyUpdate, copyUpdate_eq]
  rfl

end CostmapSubscriber

section Both

variable [DecidableEq K]

/-- Updates are applied exactly or not at all by the static layer and by the
subscriber, whatever costs they hold, exactly under the conditions of each. -/
theorem updates_exact_iff
    (layer : StaticLayer K)
    (layerAllocated : layer.Allocated)
    (update : OccupancyGridUpdate)
    (map : CostmapMemory K)
    (allocated : map.Allocated)
    (costmapUpdate : CostmapUpdate) :
    ((∀ costmap, costmap.size = layer.costmap.size →
        (layer.withCells costmap).UpdatesExactly update) ↔
      layer.ignores update = true ∨
        (update.width.toNat = 0 ∨ update.height.toNat = 0) ∨
        Fits layer.toCostmapMemory update.x.toInt update.y.toInt
          update.width.toNat update.height.toNat update.data.size) ∧
    ((∀ costmap : Array UInt8, costmap.size = map.costmap.size →
        CostmapSubscriber.UpdatesExactly { map with costmap := costmap }
          costmapUpdate) ↔
      CostmapSubscriber.ignores map costmapUpdate = true ∨
        (costmapUpdate.sizeX.toNat = 0 ∨ costmapUpdate.sizeY.toNat = 0) ∨
        Fits map costmapUpdate.x.toNat costmapUpdate.y.toNat
          costmapUpdate.sizeX.toNat costmapUpdate.sizeY.toNat
          costmapUpdate.data.size) :=
  ⟨StaticLayer.updatesExactly_iff layerAllocated,
    CostmapSubscriber.updatesExactly_iff allocated⟩

/-- A layer and a costmap of four cells. -/
def smallLayer : StaticLayer ℚ where
  toCostmapMemory := CostmapMemory.square 0
  parameters :=
    { trackUnknownSpace := true
      unknownCostValue := 255
      lethalThreshold := 100
      trinaryCostmap := true
      footprintClearingEnabled := false }
  mapFrame := "map"
  x := 0
  y := 0
  width := 2
  height := 2
  hasUpdatedData := false

/-- Updates of one column. -/
theorem column_updates :
    (∀ costmap, costmap.size = smallLayer.costmap.size →
        (smallLayer.withCells costmap).UpdatesExactly
          ⟨"map", 1, 0, 1, 2, #[100, 0]⟩) ∧
      ∀ costmap : Array UInt8,
        costmap.size = (CostmapMemory.square 0).costmap.size →
          CostmapSubscriber.UpdatesExactly
            { CostmapMemory.square 0 with costmap := costmap }
            ⟨1, 0, 1, 2, #[254, 0]⟩ := by
  obtain ⟨layer, subscriber⟩ := updates_exact_iff smallLayer
    (CostmapMemory.square_allocated 0) ⟨"map", 1, 0, 1, 2, #[100, 0]⟩
    (CostmapMemory.square 0) (CostmapMemory.square_allocated 0)
    ⟨1, 0, 1, 2, #[254, 0]⟩
  exact ⟨layer.mpr (.inr (.inr ⟨by decide, by decide, by decide⟩)),
    subscriber.mpr (.inr (.inr ⟨by decide, by decide, by decide⟩))⟩

/-- An update with one value for two cells is not ignored, and the second value
is read beside the others. -/
theorem missingValue_updates :
    (¬ ∀ layer : StaticLayer ℚ, layer.Allocated →
        ∀ update : OccupancyGridUpdate, layer.UpdatesExactly update) ∧
      ¬ ∀ map : CostmapMemory ℚ, map.Allocated →
        ∀ update : CostmapUpdate,
          CostmapSubscriber.UpdatesExactly map update := by
  constructor
  · intro always
    obtain ⟨after, isAfter, -⟩ := always smallLayer
      (CostmapMemory.square_allocated 0) ⟨"map", 1, 0, 1, 2, #[100]⟩
    have isUndefined :
        ((smallLayer.incomingUpdate ⟨"map", 1, 0, 1, 2, #[100]⟩).map
          StaticLayer.toCostmapMemory) = none := by
      decide +kernel
    rw [isUndefined] at isAfter
    cases isAfter
  · intro always
    obtain ⟨after, isAfter, -⟩ := always (CostmapMemory.square 0)
      (CostmapMemory.square_allocated 0) ⟨1, 0, 1, 2, #[254]⟩
      { costmap := some (CostmapMemory.square 0), costmapMsg := none } rfl
    have isUndefined :
        (CostmapSubscriber.costmapUpdateCallback
          { costmap := some (CostmapMemory.square 0), costmapMsg := none }
          ⟨1, 0, 1, 2, #[254]⟩).bind CostmapSubscriber.costmap = none := by
      decide +kernel
    rw [isUndefined] at isAfter
    cases isAfter

end Both

end MapUpdates

end NavBim
