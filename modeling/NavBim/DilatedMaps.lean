import NavBim.OccupancyDilation

namespace NavBim

/-!
# The map of a room after its dilation

A cell is free afterwards exactly if free cells lead to it from the room within
the number of steps, and an obstacle exactly if it is one in the buffered
polygon.

The number of steps exceeds the width of the buffer.  A free cell outside the
buffered polygon that is within the steps stays free, and a room without free
cells keeps its map as it is.
-/

section Dilated

variable
  {K Shape : Type}
  [Field K]
  [LinearOrder K]
  [FloorRing K]

/-- The polygon buffered by the width of the walls. -/
def bufferedPolygon
    (ops : PolygonBuffer K Shape)
    (map : OccupancyMap K)
    (polygon : Shape)
    (maxWidth : K) : Shape :=
  ops.buffer polygon (bufferDistance map.resolution maxWidth)

/-- Every cell with its centre outside the buffered polygon is unknown. -/
def UnknownOutside
    (ops : PolygonBuffer K Shape)
    (map : OccupancyMap K)
    (polygon : Shape)
    (maxWidth : K)
    (grid : OccupancyArray) : Prop :=
  ∀ x < grid.width, ∀ y < grid.height,
    ¬ops.contains (bufferedPolygon ops map polygon maxWidth)
        (map.cellCentre (x, y)) →
      grid.value y x = 100

/-- The cells of a map after its dilation. -/
structure Dilated
    (ops : PolygonBuffer K Shape)
    (map : OccupancyMap K)
    (polygon : Shape)
    (maxWidth : K)
    (grid dilated : OccupancyArray) : Prop where
  height : dilated.height = grid.height
  width : dilated.width = grid.width
  free : ∀ x < grid.width, ∀ y < grid.height,
    dilated.value y x = 255 ↔ grid.value y x = 255 ∧
      ReachedWithin ops map grid polygon
        (bufferPixels map.resolution maxWidth) (x, y)
  occupied : ∀ x < grid.width, ∀ y < grid.height,
    dilated.value y x = 0 ↔ grid.value y x = 0 ∧
      ops.contains (bufferedPolygon ops map polygon maxWidth)
        (map.cellCentre (x, y))
  unknown : ∀ x < grid.width, ∀ y < grid.height,
    dilated.value y x ≠ 255 → dilated.value y x ≠ 0 →
      dilated.value y x = 100

variable
  {ops : PolygonBuffer K Shape}
  {room : Room K Shape}
  {polygon : Shape}
  {grid : OccupancyArray}
  {maxWidth : K}

theorem finalGrid_dilated
    {map : OccupancyMap K}
    {distanceMap : MapCell → Option Nat}
    (reaches :
      ∀ cell, (∃ distance ∈ distanceMap cell,
          (distance : ℤ) ≤ bufferPixels map.resolution maxWidth) ↔
        ReachedWithin ops map grid polygon
          (bufferPixels map.resolution maxWidth) cell) :
    Dilated ops map polygon maxWidth grid
      (finalGrid ops map grid (bufferedPolygon ops map polygon maxWidth)
        (bufferPixels map.resolution maxWidth) distanceMap) := by
  constructor
  case height => rfl
  case width => rfl
  case free =>
    intro x _ y _
    rw [← reaches, finalGrid]
    dsimp only
    split
    · case isTrue obstacle =>
      rw [obstacle.2]
      exact iff_of_false nofun fun both => nomatch both.1
    · split
      · case isTrue grown =>
        exact iff_of_true rfl grown.symm
      · case isFalse notGrown =>
        exact iff_of_false nofun fun both => notGrown both.symm
  case occupied =>
    intro x _ y _
    rw [finalGrid]
    dsimp only
    split
    · case isTrue obstacle =>
      exact iff_of_true rfl obstacle.symm
    · case isFalse notObstacle =>
      refine iff_of_false ?_ fun both => notObstacle both.symm
      split
      · exact nofun
      · exact nofun
  case unknown =>
    intro x _ y _ notFree notOccupied
    rw [finalGrid] at notFree notOccupied ⊢
    dsimp only at notFree notOccupied ⊢
    split
    · case isTrue obstacle =>
      exact absurd (if_pos obstacle) notOccupied
    · case isFalse notObstacle =>
      rw [if_neg notObstacle] at notFree
      split
      · case isTrue grown =>
        exact absurd (if_pos grown) notFree
      · rfl

theorem exists_dilated
    (ops : PolygonBuffer K Shape)
    (room : Room K Shape)
    (hasPolygon : room.polygon = some polygon)
    (hasGrid : room.occupancyMap.occupancyGrid = some grid)
    (hasWidth : room.maxWidthOfWalls = some maxWidth)
    (notZero : room.occupancyMap.resolution ≠ 0)
    (hasPixel : ∃ cell, IsRoomPixel ops room.occupancyMap grid polygon cell) :
    ∃ dilated,
      Dilated ops room.occupancyMap polygon maxWidth grid dilated ∧
        DilatesTo ops room
          { room.occupancyMap with occupancyGrid := some dilated } := by
  obtain ⟨distanceMap, reaches, enough, isRun⟩ :=
    exists_distanceMap ops room.occupancyMap grid polygon
      (bufferPixels room.occupancyMap.resolution maxWidth)
  refine ⟨_, finalGrid_dilated reaches, enough, fun fuel isMore => ?_⟩
  have notEmpty : roomPixels ops room.occupancyMap grid polygon ≠ [] := by
    obtain ⟨cell, isPixel⟩ := hasPixel
    exact List.ne_nil_of_mem (mem_roomPixels.mpr isPixel)
  simp only [bfsDilation, hasPolygon, hasGrid, hasWidth]
  rw [if_neg notZero, if_neg notEmpty, isRun fuel isMore]
  rfl

theorem dilatesTo_of_noPixel
    (hasPolygon : room.polygon = some polygon)
    (hasGrid : room.occupancyMap.occupancyGrid = some grid)
    (hasWidth : room.maxWidthOfWalls = some maxWidth)
    (notZero : room.occupancyMap.resolution ≠ 0)
    (noPixel :
      ¬∃ cell, IsRoomPixel ops room.occupancyMap grid polygon cell) :
    DilatesTo ops room room.occupancyMap := by
  have isEmpty : roomPixels ops room.occupancyMap grid polygon = [] := by
    apply List.eq_nil_iff_forall_not_mem.mpr
    intro cell isMember
    exact noPixel ⟨cell, mem_roomPixels.mp isMember⟩
  refine ⟨0, fun fuel _ => ?_⟩
  simp only [bfsDilation, hasPolygon, hasGrid, hasWidth]
  rw [if_neg notZero, if_pos isEmpty]

/-- The dilation computes what free cells reach within the steps. -/
theorem bfsDilation_dilated
    (ops : PolygonBuffer K Shape)
    (room : Room K Shape)
    (hasPolygon : room.polygon = some polygon)
    (hasGrid : room.occupancyMap.occupancyGrid = some grid)
    (hasWidth : room.maxWidthOfWalls = some maxWidth)
    (notZero : room.occupancyMap.resolution ≠ 0)
    (hasPixel : ∃ cell, IsRoomPixel ops room.occupancyMap grid polygon cell) :
    ∃ after dilated,
      DilatesTo ops room after ∧
      after = { room.occupancyMap with occupancyGrid := some dilated } ∧
      Dilated ops room.occupancyMap polygon maxWidth grid dilated := by
  obtain ⟨dilated, isDilated, dilates⟩ :=
    exists_dilated ops room hasPolygon hasGrid hasWidth notZero hasPixel
  exact ⟨_, dilated, dilates, rfl, isDilated⟩

theorem Dilated.unknownOutside_iff
    {map : OccupancyMap K}
    {dilated : OccupancyArray}
    (isDilated : Dilated ops map polygon maxWidth grid dilated) :
    UnknownOutside ops map polygon maxWidth dilated ↔
      ∀ cell, ReachedWithin ops map grid polygon
          (bufferPixels map.resolution maxWidth) cell →
        ops.contains (bufferedPolygon ops map polygon maxWidth)
          (map.cellCentre cell) := by
  constructor
  · intro unknown cell reached
    obtain ⟨first, isPixel, steps, within, path⟩ := reached
    have isFree := path.isFreeCell isPixel.1
    by_contra outside
    have isUnknown := unknown cell.1
      (isFree.column.trans_eq isDilated.width.symm) cell.2
      (isFree.row.trans_eq isDilated.height.symm) outside
    have stays :=
      (isDilated.free cell.1 isFree.column cell.2 isFree.row).mpr
        ⟨isFree.free, first, isPixel, steps, within, path⟩
    rw [isUnknown] at stays
    exact nomatch stays
  · intro inside x isColumn y isRow outside
    rw [isDilated.width] at isColumn
    rw [isDilated.height] at isRow
    refine isDilated.unknown x isColumn y isRow ?_ ?_
    · intro isFree
      exact outside
        (inside (x, y) ((isDilated.free x isColumn y isRow).mp isFree).2)
    · intro isOccupied
      exact outside ((isDilated.occupied x isColumn y isRow).mp isOccupied).2

/-- All outside the buffered polygon is unknown exactly if no free cell there is
within the steps, or, in a room without free cells, if it was unknown. -/
theorem bfsDilation_unknownOutside_iff
    (ops : PolygonBuffer K Shape)
    (room : Room K Shape)
    (hasPolygon : room.polygon = some polygon)
    (hasGrid : room.occupancyMap.occupancyGrid = some grid)
    (hasWidth : room.maxWidthOfWalls = some maxWidth)
    (notZero : room.occupancyMap.resolution ≠ 0) :
    ∃ after dilated,
      DilatesTo ops room after ∧
      after.occupancyGrid = some dilated ∧
      (UnknownOutside ops room.occupancyMap polygon maxWidth dilated ↔
        (∃ cell, IsRoomPixel ops room.occupancyMap grid polygon cell) ∧
            (∀ cell, ReachedWithin ops room.occupancyMap grid polygon
                (bufferPixels room.occupancyMap.resolution maxWidth) cell →
              ops.contains
                (bufferedPolygon ops room.occupancyMap polygon maxWidth)
                (room.occupancyMap.cellCentre cell)) ∨
          (¬∃ cell, IsRoomPixel ops room.occupancyMap grid polygon cell) ∧
            UnknownOutside ops room.occupancyMap polygon maxWidth grid) := by
  by_cases hasPixel :
    ∃ cell, IsRoomPixel ops room.occupancyMap grid polygon cell
  · obtain ⟨dilated, isDilated, dilates⟩ :=
      exists_dilated ops room hasPolygon hasGrid hasWidth notZero hasPixel
    refine ⟨_, dilated, dilates, rfl, isDilated.unknownOutside_iff.trans ?_⟩
    rw [and_iff_right hasPixel]
    exact (or_iff_left fun both => both.1 hasPixel).symm
  · refine ⟨room.occupancyMap, grid,
      dilatesTo_of_noPixel hasPolygon hasGrid hasWidth notZero hasPixel,
      hasGrid, ?_⟩
    rw [and_iff_right hasPixel, or_iff_right fun both => hasPixel both.1]

end Dilated

/-! ## A corridor -/

/-- An axis-parallel rectangle. -/
structure Box where
  minX : ℚ
  minY : ℚ
  maxX : ℚ
  maxY : ℚ

def boxBuffer : PolygonBuffer ℚ Box where
  contains box point :=
    box.minX < point.1 ∧ point.1 < box.maxX ∧
      box.minY < point.2 ∧ point.2 < box.maxY
  buffer box distance :=
    ⟨box.minX - distance, box.minY - distance, box.maxX + distance,
      box.maxY + distance⟩

/-- Four free cells in a row, the first of them in the room. -/
def corridorGrid : OccupancyArray where
  height := 1
  width := 4
  value _ _ := 255

def corridorBox : Box := ⟨0, 0, 1, 1⟩

def corridorRoom : Room ℚ Box where
  polygon := some corridorBox
  occupancyMap :=
    { occupancyGrid := some corridorGrid
      resolution := 1
      originX := 0
      originY := 0
      originZ := 0
      floor := "Floor"
      room := some "Room" }
  maxWidthOfWalls := some 1

theorem corridorRoom_pixel :
    IsRoomPixel boxBuffer corridorRoom.occupancyMap corridorGrid corridorBox
      (0, 0) := by
  refine ⟨⟨by decide, by decide, rfl⟩, ?_⟩
  decide +kernel

/-- Two steps reach the third cell, whose centre is outside the buffer. -/
theorem corridorRoom_reached :
    ReachedWithin boxBuffer corridorRoom.occupancyMap corridorGrid corridorBox
        (bufferPixels corridorRoom.occupancyMap.resolution 1) (2, 0) ∧
      ¬boxBuffer.contains
        (bufferedPolygon boxBuffer corridorRoom.occupancyMap corridorBox 1)
        (corridorRoom.occupancyMap.cellCentre (2, 0)) := by
  have firstStep : FreePath corridorGrid (0, 0) 1 (1, 0) :=
    FreePath.nil.step (.inr ⟨rfl, .inr rfl⟩) ⟨by decide, by decide, rfl⟩
  have secondStep : FreePath corridorGrid (0, 0) 2 (2, 0) :=
    firstStep.step (.inr ⟨rfl, .inr rfl⟩) ⟨by decide, by decide, rfl⟩
  constructor
  · exact ⟨(0, 0), corridorRoom_pixel, 2, by decide +kernel, secondStep⟩
  · decide +kernel

theorem corridorRoom_dilated :
    ∃ after dilated,
      DilatesTo boxBuffer corridorRoom after ∧
      after =
        { corridorRoom.occupancyMap with occupancyGrid := some dilated } ∧
      Dilated boxBuffer corridorRoom.occupancyMap corridorBox 1 corridorGrid
        dilated :=
  bfsDilation_dilated boxBuffer corridorRoom rfl rfl rfl (by decide)
    ⟨(0, 0), corridorRoom_pixel⟩

theorem corridorRoom_unknownOutside :
    ∃ after dilated,
      DilatesTo boxBuffer corridorRoom after ∧
      after.occupancyGrid = some dilated ∧
      ¬UnknownOutside boxBuffer corridorRoom.occupancyMap corridorBox 1
        dilated := by
  obtain ⟨after, dilated, dilates, isGrid, unknown⟩ :=
    bfsDilation_unknownOutside_iff boxBuffer corridorRoom rfl rfl rfl
      (by decide)
  refine ⟨after, dilated, dilates, isGrid, fun isUnknown => ?_⟩
  rcases unknown.mp isUnknown with ⟨-, inside⟩ | ⟨noPixel, -⟩
  · exact corridorRoom_reached.2 (inside (2, 0) corridorRoom_reached.1)
  · exact noPixel ⟨(0, 0), corridorRoom_pixel⟩

/-- A free cell outside the buffered polygon stays free. -/
theorem corridorRoom_free_outside :
    ¬∀ (room : Room ℚ Box) (polygon : Box) (maxWidth : ℚ)
      (after : OccupancyMap ℚ) (dilated : OccupancyArray),
      room.polygon = some polygon →
        room.maxWidthOfWalls = some maxWidth →
          DilatesTo boxBuffer room after →
            after.occupancyGrid = some dilated →
              UnknownOutside boxBuffer room.occupancyMap polygon maxWidth
                dilated := by
  intro claim
  obtain ⟨dilated, isDilated, dilates⟩ :=
    exists_dilated boxBuffer corridorRoom rfl rfl rfl (by decide)
      ⟨(0, 0), corridorRoom_pixel⟩
  have unknown := claim corridorRoom corridorBox 1 _ dilated rfl rfl dilates rfl
  exact corridorRoom_reached.2
    (isDilated.unknownOutside_iff.mp unknown (2, 0) corridorRoom_reached.1)

end NavBim
