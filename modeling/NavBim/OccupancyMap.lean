import NavBim.MapIo
import NavBim.Numerals

namespace NavBim

/-!
# Occupancy maps of the generator

The generator writes the occupancy map of a room or a floor as an image with the
grey levels of its grid, black for occupied cells and white for free ones, and a
YAML file for the reader of the map server.  The reader gives back the same map.

The grid has its first row at the bottom.  The plotting library is told so and
writes this row last, with the grey levels of the grid and no transparency.
-/

attribute [local instance] atLeastTwo_65 atLeastTwo_100 atLeastTwo_196
  atLeastTwo_1000

/-- An array of grey levels, by row and column. -/
structure OccupancyArray where
  height : Nat
  width : Nat
  value : Nat → Nat → ℤ

structure OccupancyMap (K : Type) where
  occupancyGrid : Option OccupancyArray
  resolution : K
  originX : K
  originY : K
  originZ : K
  floor : String
  room : Option String

inductive SaveMapError where
  | gridNotSet
  deriving Repr, DecidableEq

namespace OccupancyMap

variable {K : Type}

/-- The room if it has a name. -/
def name (map : OccupancyMap K) : String :=
  match map.room with
  | some room => if room = "" then map.floor else room
  | none => map.floor

variable
  (map : OccupancyMap K)

def path
    (navModelPath : String) : String :=
  match map.room with
  | none => navModelPath ++ "/" ++ map.floor ++ "/" ++ map.floor
  | some room =>
      navModelPath ++ "/" ++ map.floor ++ "/" ++ room ++ "/" ++ room

/-- The value as an unsigned byte. -/
def gridToSave (value : ℤ) : Nat :=
  min (value % 256).toNat 255

/-- The image that `imsave` writes for an array whose origin is below. -/
def imsave (grid : OccupancyArray) : MapImage where
  width := grid.width
  height := grid.height
  matte := true
  pixel x y :=
    { grey := gridToSave (grid.value (grid.height - 1 - y) x), alpha := 255 }

variable [Field K]

def yamlData (map : OccupancyMap K) : MapYaml K where
  image := some (map.name ++ ".png")
  resolution := some map.resolution
  origin := some [map.originX, map.originY, map.originZ, 0]
  negate := some (.inl 0)
  occupiedThresh := some (65 / 100)
  freeThresh := some (196 / 1000)
  mode := some "trinary"

/-- The two files of a map. -/
def mapFiles
    (navModelPath : String)
    (grid : OccupancyArray) : SavedMap K where
  imageFile := map.path navModelPath ++ ".png"
  image := imsave grid
  yamlFile := map.path navModelPath ++ ".yaml"
  yaml := map.yamlData

/-- An empty grid is not saved. -/
def saveMap
    (navModelPath : String) : Except SaveMapError (Option (SavedMap K)) :=
  match map.occupancyGrid with
  | none => .error .gridNotSet
  | some grid =>
      if grid.height * grid.width = 0 then
        .ok none
      else
        .ok (some (map.mapFiles navModelPath grid))

variable {F Q : Type} [LinearOrder K] [FloorRing K]

/-- The map that was read has the size, place and cells of the one that was
saved.  It is not turned. -/
structure LoadedAs
    (ops : MessageOps K F Q)
    (map : OccupancyMap K)
    (grid : OccupancyArray)
    (loaded : OccupancyGrid K F Q) : Prop where
  width : loaded.width = grid.width
  height : loaded.height = grid.height
  resolution : loaded.resolution = ops.toFloat map.resolution
  originX : loaded.originX = map.originX
  originY : loaded.originY = map.originY
  originZ : loaded.originZ = map.originZ
  orientation : loaded.orientation = ops.orientationAroundZAxis 0
  occupied : ∀ x < grid.width, ∀ y < grid.height,
    loaded.data[y * grid.width + x]? = some 100 ↔ grid.value y x = 0
  unknown : ∀ x < grid.width, ∀ y < grid.height,
    loaded.data[y * grid.width + x]? = some (-1) ↔ grid.value y x = 100
  free : ∀ x < grid.width, ∀ y < grid.height,
    loaded.data[y * grid.width + x]? = some 0 ↔ grid.value y x = 255

/-- The three grey levels of the generator. -/
def HasLevels (grid : OccupancyArray) : Prop :=
  ∀ x < grid.width, ∀ y < grid.height,
    grid.value y x = 0 ∨ grid.value y x = 100 ∨ grid.value y x = 255

/-- What the reader makes of a grey level of the generator. -/
def readLevel (level : ℤ) : ℤ :=
  if level = 0 then occGridOccupied
  else if level = 100 then occGridUnknown
  else occGridFree

theorem readLevel_iff
    {level : ℤ}
    (isLevel : level = 0 ∨ level = 100 ∨ level = 255) :
    (readLevel level = 100 ↔ level = 0) ∧
      (readLevel level = -1 ↔ level = 100) ∧
        (readLevel level = 0 ↔ level = 255) := by
  rcases isLevel with rfl | rfl | rfl <;> decide

variable [IsStrictOrderedRing K] {grid : OccupancyArray}

theorem loadCell_gridToSave
    {load : LoadParameters K}
    (reads : ReadsTrinary load)
    {level : ℤ}
    (isLevel : level = 0 ∨ level = 100 ∨ level = 255) :
    loadCell load true { grey := gridToSave level, alpha := 255 } =
      readLevel level := by
  rw [reads.loadCell_opaque]
  rcases isLevel with rfl | rfl | rfl <;> rfl

/-- Both libraries count rows from the other end, so a cell keeps its place. -/
theorem getElem?_imsave
    {load : LoadParameters K}
    (reads : ReadsTrinary load)
    (levels : HasLevels grid)
    {x y : Nat}
    (inRow : x < grid.width)
    (inColumn : y < grid.height) :
    (loadCells load (imsave grid))[y * grid.width + x]? =
      some (readLevel (grid.value y x)) := by
  have turned : grid.height - 1 - (grid.height - 1 - y) = y := by omega
  refine (getElem?_loadCells load (imsave grid) inRow inColumn).trans ?_
  rw [← loadCell_gridToSave reads (levels x inRow y inColumn)]
  show some (loadCell load true
    ⟨gridToSave (grid.value (grid.height - 1 - (grid.height - 1 - y)) x), _⟩) = _
  rw [turned]

/-- What the reader takes from the YAML file. -/
def readParameters
    (yamlFile : String) : LoadParameters K where
  imageFileName := imagePath yamlFile (map.name ++ ".png")
  resolution := map.resolution
  origin := [map.originX, map.originY, map.originZ, 0]
  freeThresh := 196 / 1000
  occupiedThresh := 65 / 100
  mode := .trinary
  negate := false

section

omit [IsStrictOrderedRing K] [LinearOrder K] [FloorRing K]

theorem readsTrinary_readParameters
    (yamlFile : String) :
    ReadsTrinary (map.readParameters yamlFile) where
  mode := rfl
  negate := rfl
  occupiedThresh := rfl
  freeThresh := rfl

theorem loadMapYaml_yamlData
    (yamlFile : String) :
    loadMapYaml yamlFile map.yamlData = .ok (map.readParameters yamlFile) := by
  have named : map.name ++ ".png" ≠ "" := by
    intro empty
    have noLetters := congrArg String.toList empty
    simp at noLetters
  exact loadMapYaml_of_tags yamlFile named _ _ _ _ _ _ _ .trinary 0

end

theorem loadedAs_of_stored
    (ops : MessageOps K F Q)
    (map : OccupancyMap K)
    (yamlFile : String)
    (levels : HasLevels grid)
    {files : String → Option MapImage}
    (stored : files (map.readParameters yamlFile).imageFileName =
      some (imsave grid)) :
    ∃ loaded, loadMapFromFile ops files (map.readParameters yamlFile) =
        .ok loaded ∧
      map.LoadedAs ops grid loaded := by
  rw [loadMapFromFile, stored]
  have reads := map.readsTrinary_readParameters yamlFile
  refine ⟨_, rfl, rfl, rfl, rfl, rfl, rfl, rfl, rfl, ?_, ?_, ?_⟩
  · intro x inRow y inColumn
    rw [getElem?_imsave reads levels inRow inColumn, Option.some_inj]
    exact (readLevel_iff (levels x inRow y inColumn)).1
  · intro x inRow y inColumn
    rw [getElem?_imsave reads levels inRow inColumn, Option.some_inj]
    exact (readLevel_iff (levels x inRow y inColumn)).2.1
  · intro x inRow y inColumn
    rw [getElem?_imsave reads levels inRow inColumn, Option.some_inj]
    exact (readLevel_iff (levels x inRow y inColumn)).2.2

/-- A map of the generator is read back. -/
theorem generated_map_reads_back
    (ops : MessageOps K F Q)
    (map : OccupancyMap K)
    (navModelPath : String)
    (isGrid : map.occupancyGrid = some grid)
    (notEmpty : grid.height * grid.width ≠ 0)
    (levels : HasLevels grid) :
    ∃ saved, map.saveMap navModelPath = .ok (some saved) ∧
      ∀ files, StoresImage files saved →
        ∃ loaded, loadMapFromYaml ops files saved.yamlFile saved.yaml =
            .ok loaded ∧
          map.LoadedAs ops grid loaded := by
  refine ⟨map.mapFiles navModelPath grid, ?_, ?_⟩
  · simp only [saveMap, isGrid]
    rw [if_neg notEmpty]
  · intro files stores
    obtain ⟨loaded, isLoaded, asSaved⟩ := loadedAs_of_stored ops map
      (map.path navModelPath ++ ".yaml") levels (stores _ rfl)
    refine ⟨loaded, ?_, asSaved⟩
    rw [← isLoaded, loadMapFromYaml]
    exact congrArg (· >>= loadMapFromFile ops files)
      (map.loadMapYaml_yamlData (map.path navModelPath ++ ".yaml"))

/-- One free cell between an occupied and an unknown one. -/
def alcoveGrid : OccupancyArray where
  height := 1
  width := 3
  value _ x := if x = 0 then 0 else if x = 1 then 255 else 100

def alcove : OccupancyMap ℚ where
  occupancyGrid := some alcoveGrid
  resolution := 1 / 20
  originX := 1
  originY := 2
  originZ := 0
  floor := "EG"
  room := some "Alcove"

theorem alcove_reads_back :
    alcoveGrid.height * alcoveGrid.width ≠ 0 ∧ HasLevels alcoveGrid ∧
      ∃ saved, alcove.saveMap "model" = .ok (some saved) ∧
        ∀ files, StoresImage files saved →
          ∃ loaded, loadMapFromYaml levelOps files saved.yamlFile saved.yaml =
              .ok loaded ∧
            alcove.LoadedAs levelOps alcoveGrid loaded := by
  have notEmpty : alcoveGrid.height * alcoveGrid.width ≠ 0 := by decide
  have levels : HasLevels alcoveGrid := by
    show ∀ x < 3, ∀ y < 1, _
    decide
  exact ⟨notEmpty, levels,
    generated_map_reads_back levelOps alcove "model" rfl notEmpty levels⟩

end OccupancyMap

end NavBim
