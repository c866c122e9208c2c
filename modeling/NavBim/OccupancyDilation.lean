import NavBim.DistanceLabels
import NavBim.Numerals
import NavBim.OccupancyMap

namespace NavBim

/-!
# Dilation of room maps

The map of a room is limited to the area around the room.  From the free cells
in the polygon of the room a search goes through free cells, as many steps as
the widest wall has cells and one more.  What it reaches is free.  Obstacles are
kept inside the polygon buffered by the width of the wall.  All else becomes
unknown.
-/

attribute [local instance] atLeastTwo_2

/-- The geometry library: a polygon contains a point, and a polygon buffered
with mitred corners. -/
structure PolygonBuffer (K Shape : Type) where
  contains : Shape → K × K → Bool
  buffer : Shape → K → Shape

structure Room (K Shape : Type) where
  polygon : Option Shape
  occupancyMap : OccupancyMap K
  maxWidthOfWalls : Option K

inductive DilationError where
  | gridNotSet
  | widthNotSet
  | zeroDivision
  deriving Repr, DecidableEq

/-- A column and a row. -/
abbrev MapCell := Nat × Nat

/-- The neighbours above, below, left and right that are on the map. -/
def neighborCells
    (grid : OccupancyArray)
    (cell : MapCell) : List MapCell :=
  [((-1 : ℤ), (0 : ℤ)), (1, 0), (0, -1), (0, 1)].filterMap fun (dy, dx) =>
    let ny := cell.2 + dy
    let nx := cell.1 + dx
    if 0 ≤ ny ∧ ny < grid.height ∧ 0 ≤ nx ∧ nx < grid.width then
      some (nx.toNat, ny.toNat)
    else
      none

section Model

variable {K Shape : Type} [Field K] [LinearOrder K] [FloorRing K]

/-- The centre of a cell in the plane of the map. -/
def OccupancyMap.cellCentre
    (map : OccupancyMap K)
    (cell : MapCell) : K × K :=
  (map.originX + (cell.1 + 1 / 2) * map.resolution,
    map.originY + (cell.2 + 1 / 2) * map.resolution)

/-- The width as a multiple of the resolution. -/
def bufferDistance (resolution maxWidth : K) : K :=
  if maxWidth - resolution * ⌊maxWidth / resolution⌋ ≠ 0 then
    (⌊maxWidth / resolution⌋ + 1) * resolution
  else
    maxWidth

def bufferPixels (resolution maxWidth : K) : ℤ :=
  ⌈maxWidth / resolution⌉ + 1

/-- The free cells in the polygon, row by row. -/
def roomPixels
    (ops : PolygonBuffer K Shape)
    (map : OccupancyMap K)
    (grid : OccupancyArray)
    (polygon : Shape) : List MapCell :=
  (List.range grid.height).flatMap fun y =>
    ((List.range grid.width).map fun x => (x, y)).filter fun cell =>
      ops.contains polygon (map.cellCentre cell) ∧
        grid.value cell.2 cell.1 = 255

/-- Free where the search has come, occupied at obstacles in the buffered
polygon, and unknown elsewhere. -/
def finalGrid
    (ops : PolygonBuffer K Shape)
    (map : OccupancyMap K)
    (grid : OccupancyArray)
    (bufferedPolygon : Shape)
    (bufferPixels : ℤ)
    (distanceMap : MapCell → Option Nat) : OccupancyArray where
  height := grid.height
  width := grid.width
  value y x :=
    if ops.contains bufferedPolygon (map.cellCentre (x, y)) ∧
        grid.value y x = 0 then
      0
    else if (∃ distance ∈ distanceMap (x, y),
          (distance : ℤ) ≤ bufferPixels) ∧
        grid.value y x = 255 then
      255
    else
      100

/-- The map of a room; `none` stands for more entries of the queue than the fuel
allows. -/
def bfsDilation
    (ops : PolygonBuffer K Shape)
    (fuel : Nat)
    (room : Room K Shape) : Option (Except DilationError (OccupancyMap K)) :=
  let map := room.occupancyMap
  match room.polygon, map.occupancyGrid, room.maxWidthOfWalls with
  | none, _, _ => some (.ok map)
  | some _, none, _ => some (.error .gridNotSet)
  | some _, some _, none => some (.error .widthNotSet)
  | some polygon, some grid, some maxWidth =>
      if map.resolution = 0 then
        some (.error .zeroDivision)
      else
        let buffered :=
          ops.buffer polygon (bufferDistance map.resolution maxWidth)
        let pixels := roomPixels ops map grid polygon
        if pixels = [] then
          some (.ok map)
        else
          let bound := bufferPixels map.resolution maxWidth
          (DistanceLabels.run (neighborCells grid)
            (fun cell => grid.value cell.2 cell.1 = 255) bound fuel
            (DistanceLabels.start pixels)).map fun distanceMap =>
              .ok { map with
                occupancyGrid :=
                  some (finalGrid ops map grid buffered bound distanceMap) }

/-- The loop of the dilation ends with a map. -/
def DilatesTo
    (ops : PolygonBuffer K Shape)
    (room : Room K Shape)
    (after : OccupancyMap K) : Prop :=
  ∃ enough, ∀ fuel ≥ enough, bfsDilation ops fuel room = some (.ok after)

end Model

/-! ## Paths of free cells -/

def SharesSide (cell next : MapCell) : Prop :=
  cell.1 = next.1 ∧ (cell.2 = next.2 + 1 ∨ next.2 = cell.2 + 1) ∨
    cell.2 = next.2 ∧ (cell.1 = next.1 + 1 ∨ next.1 = cell.1 + 1)

structure IsFreeCell
    (grid : OccupancyArray)
    (cell : MapCell) : Prop where
  column : cell.1 < grid.width
  row : cell.2 < grid.height
  free : grid.value cell.2 cell.1 = 255

/-- `FreePath grid first steps last`: as many steps over sides lead from one
cell to another, all to free cells. -/
inductive FreePath
    (grid : OccupancyArray)
    (first : MapCell) : Nat → MapCell → Prop
  | nil :
      FreePath grid first 0 first
  | step
      {steps : Nat}
      {cell next : MapCell} :
      FreePath grid first steps cell →
      SharesSide cell next →
      IsFreeCell grid next →
      FreePath grid first (steps + 1) next

theorem shifted_eq_some
    {width height : Nat}
    {x y : ℤ}
    {next : MapCell} :
    (if 0 ≤ y ∧ y < height ∧ 0 ≤ x ∧ x < width then some (x.toNat, y.toNat)
      else none) = some next ↔
      (next.1 : ℤ) = x ∧ (next.2 : ℤ) = y ∧ next.1 < width ∧
        next.2 < height := by
  rw [Option.ite_none_right_eq_some, Option.some_inj, Prod.ext_iff]
  dsimp only
  omega

theorem mem_neighborCells
    {grid : OccupancyArray}
    {cell next : MapCell} :
    next ∈ neighborCells grid cell ↔
      SharesSide cell next ∧ next.1 < grid.width ∧ next.2 < grid.height := by
  simp only [neighborCells, List.mem_filterMap, List.exists_mem_cons_iff,
    List.not_mem_nil, false_and, exists_false, or_false, shifted_eq_some,
    SharesSide]
  omega

theorem walk_iff_freePath
    {grid : OccupancyArray}
    {first cell : MapCell}
    {steps : Nat} :
    DistanceLabels.Walk (neighborCells grid)
        (fun cell => grid.value cell.2 cell.1 = 255) first steps cell ↔
      FreePath grid first steps cell := by
  constructor
  · intro walk
    induction walk with
    | nil => exact .nil
    | step _ isNext isFree inductionHypothesis =>
        obtain ⟨shares, column, row⟩ := mem_neighborCells.mp isNext
        exact inductionHypothesis.step shares ⟨column, row, isFree⟩
  · intro path
    induction path with
    | nil => exact .nil
    | step _ shares isFree inductionHypothesis =>
        exact inductionHypothesis.step
          (mem_neighborCells.mpr ⟨shares, isFree.column, isFree.row⟩)
          isFree.free

theorem FreePath.isFreeCell
    {grid : OccupancyArray}
    {first cell : MapCell}
    {steps : Nat}
    (path : FreePath grid first steps cell)
    (isFree : IsFreeCell grid first) :
    IsFreeCell grid cell := by
  cases path with
  | nil => exact isFree
  | step _ _ isNext => exact isNext

section Reached

variable
  {K Shape : Type}
  [Field K]
  {ops : PolygonBuffer K Shape}
  {map : OccupancyMap K}
  {grid : OccupancyArray}
  {polygon : Shape}
  {cell : MapCell}

/-- A free cell with its centre in the polygon. -/
def IsRoomPixel
    (ops : PolygonBuffer K Shape)
    (map : OccupancyMap K)
    (grid : OccupancyArray)
    (polygon : Shape)
    (cell : MapCell) : Prop :=
  IsFreeCell grid cell ∧ ops.contains polygon (map.cellCentre cell)

/-- A path of free cells leads from the room to the cell. -/
def ReachedWithin
    (ops : PolygonBuffer K Shape)
    (map : OccupancyMap K)
    (grid : OccupancyArray)
    (polygon : Shape)
    (bound : ℤ)
    (cell : MapCell) : Prop :=
  ∃ first, IsRoomPixel ops map grid polygon first ∧
    ∃ steps : Nat, (steps : ℤ) ≤ bound ∧ FreePath grid first steps cell

theorem mem_roomPixels :
    cell ∈ roomPixels ops map grid polygon ↔
      IsRoomPixel ops map grid polygon cell := by
  obtain ⟨x, y⟩ := cell
  simp only [roomPixels, List.mem_flatMap, List.mem_range, List.mem_filter,
    List.mem_map, Prod.mk.injEq, decide_eq_true_eq, IsRoomPixel]
  constructor
  · rintro ⟨row, inside, ⟨column, insideColumn, rfl, rfl⟩, isPixel⟩
    exact ⟨⟨insideColumn, inside, isPixel.2⟩, isPixel.1⟩
  · rintro ⟨isFree, isInside⟩
    exact ⟨y, isFree.row, ⟨x, isFree.column, rfl, rfl⟩, isInside, isFree.free⟩

theorem exists_distanceMap
    (ops : PolygonBuffer K Shape)
    (map : OccupancyMap K)
    (grid : OccupancyArray)
    (polygon : Shape)
    (bound : ℤ) :
    ∃ distanceMap : MapCell → Option Nat,
      (∀ cell, (∃ distance ∈ distanceMap cell, (distance : ℤ) ≤ bound) ↔
        ReachedWithin ops map grid polygon bound cell) ∧
      ∃ enough, ∀ fuel ≥ enough,
        DistanceLabels.run (neighborCells grid)
          (fun cell => grid.value cell.2 cell.1 = 255) bound fuel
          (DistanceLabels.start (roomPixels ops map grid polygon)) =
            some distanceMap := by
  have areCells :
      ∀ cell, ∀ next ∈ neighborCells grid cell,
        next ∈ Finset.range grid.width ×ˢ Finset.range grid.height := by
    intro cell next isNext
    rw [Finset.mem_product, Finset.mem_range, Finset.mem_range]
    exact (mem_neighborCells.mp isNext).2
  let first : DistanceLabels.Search MapCell :=
    DistanceLabels.start (roomPixels ops map grid polygon)
  have ends :
      ∃ distanceMap,
        DistanceLabels.run (neighborCells grid)
          (fun cell => grid.value cell.2 cell.1 = 255) bound
          (DistanceLabels.remaining bound
            (Finset.range grid.width ×ˢ Finset.range grid.height) first)
          first = some distanceMap :=
    DistanceLabels.run_eq_some areCells (le_refl _)
  obtain ⟨distanceMap, isRun⟩ := ends
  refine ⟨distanceMap, fun cell => ?_, _,
    fun fuel isMore => DistanceLabels.run_of_le isRun isMore⟩
  simp only [DistanceLabels.label_le_iff isRun, mem_roomPixels,
    walk_iff_freePath, ReachedWithin]

end Reached

end NavBim
