import Mathlib
import NavBim.GuardedWrites
import NavBim.Numerals

namespace NavBim

/-!
# Reading and writing occupancy maps

An occupancy map is stored as an image and a YAML file.  The image has its first
row at the top and the map has its first row at the bottom, so both ways turn the
rows around.  In trinary mode a cell is stored as one of three grey levels, and
the thresholds in the YAML file tell these levels apart.  In raw mode the grey
level is the value of the cell.

What is written is read back, every cell at its place.

The image library is a parameter: it keeps the grey levels of one byte.  Numbers
are exact here.
-/

attribute [local instance] atLeastTwo_2

inductive MapMode where
  | trinary
  | scale
  | raw
  deriving Repr, DecidableEq

def mapModeToString : MapMode → String
  | .trinary => "trinary"
  | .scale => "scale"
  | .raw => "raw"

/-- What the readers and writers throw. -/
inductive MapIoError where
  | badTag (key : String)
  | emptyImage
  | originSize (size : Nat)
  | invalidMode
  | unreadableImage
  | incorrectThresholds
  deriving Repr, DecidableEq

def mapModeFromString (name : String) : Except MapIoError MapMode :=
  let lowered := name.map Char.toLower
  if lowered = "scale" then
    .ok .scale
  else if lowered = "raw" then
    .ok .raw
  else if lowered = "trinary" then
    .ok .trinary
  else
    .error .invalidMode

theorem mapModeFromString_toString (mode : MapMode) :
    mapModeFromString (mapModeToString mode) = .ok mode := by
  cases mode <;> decide +kernel

/-- Grey level and opacity, one byte each. -/
structure Pixel where
  grey : Nat
  alpha : Nat
  deriving Repr, DecidableEq

/-- A pixel is given by its column and its row, the first row at the top. -/
structure MapImage where
  width : Nat
  height : Nat
  matte : Bool
  pixel : Nat → Nat → Pixel

/-- A tag is `none` if it is missing or has another type.  The tag `negate` is
read as a number, and as a truth value if it is none. -/
structure MapYaml (K : Type) where
  image : Option String
  resolution : Option K
  origin : Option (List K)
  freeThresh : Option K
  occupiedThresh : Option K
  mode : Option String
  negate : Option (ℤ ⊕ Bool)

structure LoadParameters (K : Type) where
  imageFileName : String
  resolution : K
  origin : List K
  freeThresh : K
  occupiedThresh : K
  mode : MapMode
  negate : Bool

structure SaveParameters (K : Type) where
  mapFileName : String
  imageFormat : String
  freeThresh : K
  occupiedThresh : K
  mode : MapMode

/-- An occupancy map as a message.  Its resolution has the type `F` of the
message, and the orientation of its origin is a quaternion. -/
structure OccupancyGrid (K F Q : Type) where
  width : Nat
  height : Nat
  resolution : F
  originX : K
  originY : K
  originZ : K
  orientation : Q
  data : List ℤ
  size_data : data.length = width * height

def occGridUnknown : ℤ := -1

def occGridFree : ℤ := 0

def occGridOccupied : ℤ := 100

/-- The value of a cell, counted from the lower left. -/
def OccupancyGrid.cell
    {K F Q : Type}
    (map : OccupancyGrid K F Q)
    (x y : Nat) : ℤ :=
  map.data.getD (y * map.width + x) occGridUnknown

/-- Conversions between the numbers of the files and the message. -/
structure MessageOps (K F Q : Type) where
  toFloat : K → F
  ofFloat : F → K
  orientationAroundZAxis : K → Q
  yaw : Q → K

/-- The image library.  A quantum is a multiple of a byte, and a level of one
byte comes back from its quantum.  The name of a format has no path. -/
structure ImageLibrary where
  quantumScale : Nat
  toChar : Nat → Nat
  isWritable : String → Bool
  toChar_scaled : ∀ level ≤ 255, toChar (level * quantumScale) = level
  writable_plain : ∀ format, isWritable format →
    '/' ∉ format.toList ∧ '\\' ∉ format.toList

def ImageLibrary.maxRgb (library : ImageLibrary) : Nat :=
  255 * library.quantumScale

/-! ## Reading -/

/-- The directory of a file. -/
def dirname (path : String) : String :=
  match path.toList.reverse.dropWhile (· ≠ '/') with
  | [] => "."
  | _ :: rest =>
      match rest.dropWhile (· = '/') with
      | [] => "/"
      | directory => String.ofList directory.reverse

/-- An image is looked for beside the YAML file. -/
def imagePath (yamlFilename image : String) : String :=
  if image.toList.head? = some '/' then
    image
  else
    dirname yamlFilename ++ "/" ++ image

section Load

variable {K F Q : Type}

def yamlGetValue
    {Value : Type}
    (key : String) : Option Value → Except MapIoError Value
  | some value => .ok value
  | none => .error (.badTag key)

def loadMapYaml
    (yamlFilename : String)
    (doc : MapYaml K) : Except MapIoError (LoadParameters K) := do
  let image ← yamlGetValue "image" doc.image
  if image = "" then
    throw .emptyImage
  let resolution ← yamlGetValue "resolution" doc.resolution
  let origin ← yamlGetValue "origin" doc.origin
  if origin.length ≠ 4 then
    throw (.originSize origin.length)
  let freeThresh ← yamlGetValue "free_thresh" doc.freeThresh
  let occupiedThresh ← yamlGetValue "occupied_thresh" doc.occupiedThresh
  let mode ← match doc.mode with
    | none => .ok .trinary
    | some name => mapModeFromString name
  let negate ← yamlGetValue "negate" doc.negate
  return {
    imageFileName := imagePath yamlFilename image
    resolution := resolution
    origin := origin
    freeThresh := freeThresh
    occupiedThresh := occupiedThresh
    mode := mode
    negate :=
      match negate with
      | .inl number => number ≠ 0
      | .inr truth => truth
  }

theorem loadMapYaml_of_tags
    (yamlFilename : String)
    {image : String}
    (named : image ≠ "")
    (resolution x y z yaw freeThresh occupiedThresh : K)
    (mode : MapMode)
    (number : ℤ) :
    loadMapYaml yamlFilename {
      image := some image
      resolution := some resolution
      origin := some [x, y, z, yaw]
      freeThresh := some freeThresh
      occupiedThresh := some occupiedThresh
      mode := some (mapModeToString mode)
      negate := some (.inl number)
    } = .ok {
      imageFileName := imagePath yamlFilename image
      resolution := resolution
      origin := [x, y, z, yaw]
      freeThresh := freeThresh
      occupiedThresh := occupiedThresh
      mode := mode
      negate := number ≠ 0
    } := by
  simp only [loadMapYaml, yamlGetValue, mapModeFromString_toString]
  simp [named, bind, Except.bind, pure, Except.pure]

variable [Field K] [LinearOrder K] [FloorRing K]
  (parameters : LoadParameters K)

/-- A grey level between zero and one; black is one unless negated. -/
def normalizedGrey
    (grey : Nat) : K :=
  if parameters.negate then grey / 255 else 1 - grey / 255

/-- Free cells are written after occupied ones. -/
def trinaryCell
    (normalized : K) : ℤ :=
  let result := occGridUnknown
  let result :=
    if parameters.occupiedThresh ≤ normalized then occGridOccupied else result
  if normalized ≤ parameters.freeThresh then occGridFree else result

/-- Between the thresholds the grey level is scaled. -/
def scaleCell
    (normalized : K) : ℤ :=
  if parameters.freeThresh < normalized ∧
      normalized < parameters.occupiedThresh then
    Int.bmod (round ((normalized - parameters.freeThresh) /
      (parameters.occupiedThresh - parameters.freeThresh) * 100)) 256
  else
    trinaryCell parameters normalized

/-- The byte is read as a signed one. -/
def rawCell (grey : Nat) : ℤ :=
  let value := Int.bmod grey 256
  if value < occGridFree ∨ occGridOccupied < value then
    occGridUnknown
  else
    value

/-- The value of the cell for a pixel.  Transparent pixels are unknown. -/
def loadCell
    (matte : Bool)
    (pixel : Pixel) : ℤ :=
  let masked (value : ℤ) : ℤ :=
    if matte ∧ pixel.alpha < 255 then occGridUnknown else value
  match parameters.mode with
  | .trinary =>
      masked (trinaryCell parameters (normalizedGrey parameters pixel.grey))
  | .scale =>
      masked (scaleCell parameters (normalizedGrey parameters pixel.grey))
  | .raw => rawCell pixel.grey

/-- Row by row from the lower left, with the rows of the image turned around. -/
def loadCells
    (image : MapImage) : List ℤ :=
  (List.range (image.width * image.height)).map fun index =>
    loadCell parameters image.matte
      (image.pixel (index % image.width)
        (image.height - 1 - index / image.width))

def loadMapFromFile
    (ops : MessageOps K F Q)
    (files : String → Option MapImage)
    (parameters : LoadParameters K) :
    Except MapIoError (OccupancyGrid K F Q) :=
  match files parameters.imageFileName with
  | none => .error .unreadableImage
  | some image => .ok {
      width := image.width
      height := image.height
      resolution := ops.toFloat parameters.resolution
      originX := parameters.origin.getD 0 0
      originY := parameters.origin.getD 1 0
      originZ := parameters.origin.getD 2 0
      orientation := ops.orientationAroundZAxis (parameters.origin.getD 3 0)
      data := loadCells parameters image
      size_data := by simp [loadCells]
    }

/-- Both steps of loading a map. -/
def loadMapFromYaml
    (ops : MessageOps K F Q)
    (files : String → Option MapImage)
    (yamlFilename : String)
    (doc : MapYaml K) : Except MapIoError (OccupancyGrid K F Q) := do
  let parameters ← loadMapYaml yamlFilename doc
  loadMapFromFile ops files parameters

theorem getElem?_loadCells
    (image : MapImage)
    {x y : Nat}
    (inRow : x < image.width)
    (inColumn : y < image.height) :
    (loadCells parameters image)[y * image.width + x]? =
      some (loadCell parameters image.matte
        (image.pixel x (image.height - 1 - y))) := by
  have listed : (List.range (image.width * image.height))[
      y * image.width + x]? = some (y * image.width + x) := by
    rw [List.getElem?_range (rowMajor_lt inColumn inRow)]
  rw [loadCells, List.getElem?_map, listed, Option.map_some, rowMajor_mod inRow,
    rowMajor_div inRow]

end Load

/-! ## Writing -/

/-- The part of a path after the last separator. -/
def baseName (path : String) : String :=
  String.ofList
    (path.toList.reverse.takeWhile fun c => c ≠ '/' ∧ c ≠ '\\').reverse

/-- What saving a map leaves on the disk. -/
structure SavedMap (K : Type) where
  imageFile : String
  image : MapImage
  yamlFile : String
  yaml : MapYaml K

section Save

variable {K F Q : Type} [Field K] [LinearOrder K] [FloorRing K]

/-- Round to the nearest integer, halves to the even one. -/
def rint (value : K) : ℤ :=
  let lower := ⌊value⌋
  if value - lower < 1 / 2 then
    lower
  else if 1 / 2 < value - lower then
    lower + 1
  else if lower % 2 = 0 then
    lower
  else
    lower + 1

/-- The number that a text with so many decimals stands for. -/
def toStringWithPrecision
    (value : K)
    (precision : Nat) : K :=
  rint (value * 10 ^ precision) / 10 ^ precision

/-- Unset parameters get their defaults, the file name from the clock. -/
def SaveParameters.withDefaults
    (clock : Nat)
    (parameters : SaveParameters K) : SaveParameters K where
  mapFileName :=
    if parameters.mapFileName = "" then "map_" ++ toString clock
    else parameters.mapFileName
  imageFormat :=
    if parameters.imageFormat = "" then
      if parameters.mode = .scale then "png" else "pgm"
    else
      parameters.imageFormat
  freeThresh :=
    if parameters.freeThresh = 0 then 25 / 100 else parameters.freeThresh
  occupiedThresh :=
    if parameters.occupiedThresh = 0 then 65 / 100
    else parameters.occupiedThresh
  mode := parameters.mode

variable (library : ImageLibrary)

/-- A format that the library cannot write is replaced. -/
def usableFormat
    (imageFormat : String) : String :=
  let lowered := imageFormat.map Char.toLower
  if library.isWritable lowered then lowered else "png"

def checkSaveParameters
    (clock : Nat)
    (parameters : SaveParameters K) :
    Except MapIoError (SaveParameters K) :=
  let checked := parameters.withDefaults clock
  if 1 < checked.occupiedThresh ∨ checked.freeThresh < 0 ∨
      checked.occupiedThresh ≤ checked.freeThresh then
    .error .incorrectThresholds
  else
    .ok { checked with
      imageFormat := usableFormat library checked.imageFormat }

/-- The byte that a shade between zero and one is stored as. -/
def colorGray
    (shade : K) : Nat :=
  library.toChar ⌊shade * library.maxRgb⌋.toNat

def OutsideRange (cell : ℤ) : Prop :=
  cell < 0 ∨ 100 < cell

instance (cell : ℤ) : Decidable (OutsideRange cell) :=
  inferInstanceAs (Decidable (cell < 0 ∨ 100 < cell))

variable
  (ops : MessageOps K F Q)
  (parameters : SaveParameters K)

/-- Only scaled maps have an opacity. -/
def savedPixel
    (cell : ℤ) : Pixel :=
  let freeThresh := rint (parameters.freeThresh * 100)
  let occupiedThresh := rint (parameters.occupiedThresh * 100)
  match parameters.mode with
  | .trinary =>
      let shade : K :=
        if OutsideRange cell then 205 / 255
        else if cell ≤ freeThresh then 254 / 255
        else if occupiedThresh ≤ cell then 0 / 255
        else 205 / 255
      { grey := colorGray library shade, alpha := 255 }
  | .scale =>
      if OutsideRange cell then
        { grey := colorGray library (1 / 2 : K), alpha := 0 }
      else
        { grey := colorGray library ((100 - cell) / 100 : K), alpha := 255 }
  | .raw =>
      let quantum :=
        if OutsideRange cell then library.maxRgb
        else ⌊(cell / 255 : K) * library.maxRgb⌋.toNat
      { grey := library.toChar quantum, alpha := 255 }

def savedImage
    (map : OccupancyGrid K F Q) : MapImage where
  width := map.width
  height := map.height
  matte := parameters.mode = .scale
  pixel x y := savedPixel library parameters
    (map.data.getD (map.width * (map.height - y - 1) + x) occGridUnknown)

/-- In trinary mode the thresholds belong to the grey levels of the image. -/
def savedYaml
    (imageFile : String)
    (map : OccupancyGrid K F Q) : MapYaml K where
  image := some (baseName imageFile)
  mode := some (mapModeToString parameters.mode)
  resolution := some (toStringWithPrecision (ops.ofFloat map.resolution) 3)
  origin := some [toStringWithPrecision map.originX 3,
    toStringWithPrecision map.originY 3, toStringWithPrecision map.originZ 3,
    ops.yaw map.orientation]
  negate := some (.inl 0)
  occupiedThresh := some (
    if parameters.mode = .trinary then 65 / 100
    else toStringWithPrecision parameters.occupiedThresh 3)
  freeThresh := some (
    if parameters.mode = .trinary then 196 / 1000
    else toStringWithPrecision parameters.freeThresh 3)

def tryWriteMapToFile
    (map : OccupancyGrid K F Q) : SavedMap K :=
  let imageFile := parameters.mapFileName ++ "." ++ parameters.imageFormat
  {
    imageFile := imageFile
    image := savedImage library parameters map
    yamlFile := parameters.mapFileName ++ ".yaml"
    yaml := savedYaml ops parameters imageFile map
  }

/-- The function returns false where this is an error. -/
def saveMapToFile
    (clock : Nat)
    (ops : MessageOps K F Q)
    (map : OccupancyGrid K F Q)
    (parameters : SaveParameters K) : Except MapIoError (SavedMap K) :=
  (checkSaveParameters library clock parameters).map fun checked =>
    tryWriteMapToFile library ops checked map

/-! ## Reading what was written -/

/-- In raw mode a cell keeps its value if it has one. -/
def rawValue (cell : ℤ) : ℤ :=
  if OutsideRange cell then occGridUnknown else cell

/-- The class of a cell under the thresholds of the writer.  These are rounded to
whole percents, as the cells are. -/
def trinaryClass
    (cell : ℤ) : ℤ :=
  if OutsideRange cell then
    occGridUnknown
  else if cell ≤ rint (parameters.freeThresh * 100) then
    occGridFree
  else if rint (parameters.occupiedThresh * 100) ≤ cell then
    occGridOccupied
  else
    occGridUnknown

variable {library ops parameters} {checked : SaveParameters K}

theorem baseName_ne_empty
    {format : String}
    (name : String)
    (plain : '/' ∉ format.toList ∧ '\\' ∉ format.toList) :
    baseName (name ++ "." ++ format) ≠ "" := by
  have letters : (name ++ "." ++ format).toList.reverse =
      (format.toList.reverse ++ ['.']) ++ name.toList.reverse := by
    simp
  have kept : ∀ c ∈ format.toList.reverse ++ ['.'],
      decide (c ≠ '/' ∧ c ≠ '\\') = true := by
    intro c present
    rw [decide_eq_true_iff]
    rcases List.mem_append.mp present with inFormat | isDot
    · rw [List.mem_reverse] at inFormat
      exact ⟨fun same => plain.1 (same ▸ inFormat),
        fun same => plain.2 (same ▸ inFormat)⟩
    · rw [List.mem_singleton.mp isDot]
      decide
  rw [baseName, letters, List.takeWhile_append_of_pos kept]
  intro empty
  have noLetters := congrArg String.toList empty
  simp at noLetters

theorem usableFormat_plain
    (library : ImageLibrary)
    (imageFormat : String) :
    '/' ∉ (usableFormat library imageFormat).toList ∧
      '\\' ∉ (usableFormat library imageFormat).toList := by
  rw [usableFormat]
  split
  · case isTrue writable => exact library.writable_plain _ writable
  · decide

omit [FloorRing K] in
theorem checkSaveParameters_eq_ok
    {clock : Nat}
    (accepted : checkSaveParameters library clock parameters = .ok checked) :
    checked.mode = parameters.mode ∧
      '/' ∉ checked.imageFormat.toList ∧ '\\' ∉ checked.imageFormat.toList := by
  simp only [checkSaveParameters] at accepted
  split at accepted
  · cases accepted
  · cases accepted
    exact ⟨rfl, usableFormat_plain library _⟩

variable [IsStrictOrderedRing K]

theorem colorGray_byte
    (library : ImageLibrary)
    (level : Nat)
    (isByte : level ≤ 255) :
    colorGray library (level / 255 : K) = level := by
  have quantum : (level / 255 : K) * library.maxRgb =
      ((level * library.quantumScale : Nat) : K) := by
    rw [ImageLibrary.maxRgb]
    push_cast
    field_simp
  rw [colorGray, quantum, Int.floor_natCast, Int.toNat_natCast]
  exact library.toChar_scaled level isByte

/-- The parameters tell the grey levels of a trinary image apart. -/
structure ReadsTrinary (load : LoadParameters K) : Prop where
  mode : load.mode = .trinary
  negate : load.negate = false
  occupiedThresh : load.occupiedThresh = 65 / 100
  freeThresh : load.freeThresh = 196 / 1000

variable
  {load : LoadParameters K}

omit [FloorRing K] in
theorem ReadsTrinary.occupied_iff
    (reads : ReadsTrinary load)
    (grey : Nat) :
    load.occupiedThresh ≤ normalizedGrey load grey ↔ grey ≤ 89 := by
  rw [reads.occupiedThresh, normalizedGrey, reads.negate]
  show 65 / 100 ≤ 1 - (grey : K) / 255 ↔ _
  constructor
  · intro dark
    by_contra bright
    have level : (90 : K) ≤ grey := by exact_mod_cast not_le.mp bright
    linarith
  · intro dark
    have level : (grey : K) ≤ 89 := by exact_mod_cast dark
    linarith

omit [FloorRing K] in
theorem ReadsTrinary.free_iff
    (reads : ReadsTrinary load)
    (grey : Nat) :
    normalizedGrey load grey ≤ load.freeThresh ↔ 206 ≤ grey := by
  rw [reads.freeThresh, normalizedGrey, reads.negate]
  show 1 - (grey : K) / 255 ≤ 196 / 1000 ↔ _
  constructor
  · intro bright
    by_contra dark
    have level : (grey : K) ≤ 205 := by
      exact_mod_cast Nat.le_of_lt_succ (not_le.mp dark)
    linarith
  · intro bright
    have level : (206 : K) ≤ grey := by exact_mod_cast bright
    linarith

/-- The grey levels of the three classes. -/
theorem ReadsTrinary.loadCell_opaque
    (reads : ReadsTrinary load)
    (matte : Bool)
    (grey : Nat) :
    loadCell load matte { grey := grey, alpha := 255 } =
      if 206 ≤ grey then occGridFree
      else if grey ≤ 89 then occGridOccupied
      else occGridUnknown := by
  simp only [loadCell, reads.mode, trinaryCell, reads.free_iff,
    reads.occupied_iff, lt_irrefl, and_false, if_false]

theorem ReadsTrinary.loadCell_savedPixel
    (reads : ReadsTrinary load)
    (matte : Bool)
    (isTrinary : checked.mode = .trinary)
    (cell : ℤ) :
    loadCell load matte (savedPixel library checked cell) =
      trinaryClass checked cell := by
  have unknown : colorGray library (205 / 255 : K) = 205 :=
    colorGray_byte library 205 (by decide)
  have free : colorGray library (254 / 255 : K) = 254 :=
    colorGray_byte library 254 (by decide)
  have zero : colorGray library ((0 : Nat) / 255 : K) = 0 :=
    colorGray_byte library 0 (by decide)
  have occupied : colorGray library (0 / 255 : K) = 0 := by
    rwa [Nat.cast_zero] at zero
  have pixel : savedPixel library checked cell = {
      grey :=
        if OutsideRange cell then 205
        else if cell ≤ rint (checked.freeThresh * 100) then 254
        else if rint (checked.occupiedThresh * 100) ≤ cell then 0
        else 205
      alpha := 255 } := by
    simp only [savedPixel, isTrinary]
    congr 1
    split
    · exact unknown
    · split
      · exact free
      · split
        · exact occupied
        · exact unknown
  rw [pixel, reads.loadCell_opaque, trinaryClass]
  split
  · rfl
  · split
    · rfl
    · split <;> rfl

theorem loadCell_savedPixel_raw
    (readsRaw : load.mode = .raw)
    (matte : Bool)
    (isRaw : checked.mode = .raw)
    (cell : ℤ) :
    loadCell load matte (savedPixel library checked cell) =
      rawValue cell := by
  rw [rawValue]
  split
  · case isTrue outside =>
    -- the largest quantum is a byte of 255, which is read as -1
    have grey : (savedPixel library checked cell).grey = 255 := by
      simp only [savedPixel, isRaw, outside, if_true]
      exact library.toChar_scaled 255 le_rfl
    simp only [loadCell, readsRaw]
    rw [grey]
    rfl
  · case isFalse inside =>
    rw [OutsideRange, not_or, not_lt, not_lt] at inside
    obtain ⟨level, rfl⟩ := Int.eq_ofNat_of_zero_le inside.1
    have small : level ≤ 100 := by exact_mod_cast inside.2
    have within : ¬ OutsideRange (level : ℤ) := by
      rw [OutsideRange, not_or, not_lt, not_lt]
      exact inside
    have grey : (savedPixel library checked level).grey = level := by
      simp only [savedPixel, isRaw, within, if_false, Int.cast_natCast]
      have byte : colorGray library (level / 255 : K) = level :=
        colorGray_byte library level (by omega)
      exact byte
    have signed : Int.bmod level 256 = level := by
      apply Int.bmod_eq_of_le <;> omega
    have kept : rawCell level = level := by
      simp only [rawCell, signed]
      exact if_neg (not_or.mpr ⟨not_lt.mpr inside.1, not_lt.mpr inside.2⟩)
    simp only [loadCell, readsRaw]
    rw [grey]
    exact kept

/-- What is known of a map that is read from its YAML file. -/
structure ReadsSaved
    (checked : SaveParameters K)
    (saved : SavedMap K)
    (load : LoadParameters K) : Prop where
  image : load.imageFileName =
    imagePath saved.yamlFile (baseName saved.imageFile)
  mode : load.mode = checked.mode
  trinary : checked.mode = .trinary → ReadsTrinary load

omit [IsStrictOrderedRing K] in
theorem loadMapYaml_written
    (library : ImageLibrary)
    (ops : MessageOps K F Q)
    (plain : '/' ∉ checked.imageFormat.toList ∧
      '\\' ∉ checked.imageFormat.toList)
    (map : OccupancyGrid K F Q) :
    ∃ load, loadMapYaml (tryWriteMapToFile library ops checked map).yamlFile
        (tryWriteMapToFile library ops checked map).yaml = .ok load ∧
      ReadsSaved checked (tryWriteMapToFile library ops checked map) load := by
  have named := baseName_ne_empty checked.mapFileName plain
  refine ⟨_, loadMapYaml_of_tags _ named _ _ _ _ _ _ _ _ _, ?_⟩
  constructor
  · simp only [tryWriteMapToFile]
  · rfl
  · intro isTrinary
    exact ⟨isTrinary, rfl, if_pos isTrinary, if_pos isTrinary⟩

/-- The image is where the YAML file says. -/
def StoresImage
    (files : String → Option MapImage)
    (saved : SavedMap K) : Prop :=
  ∀ image, saved.yaml.image = some image →
    files (imagePath saved.yamlFile image) = some saved.image

/-- The loaded map has the size of another one, and a value for each cell of it
at its place. -/
structure ReadBack
    (value : ℤ → ℤ)
    (map loaded : OccupancyGrid K F Q) : Prop where
  width : loaded.width = map.width
  height : loaded.height = map.height
  cell : ∀ x < map.width, ∀ y < map.height,
    loaded.cell x y = value (map.cell x y)

omit [IsStrictOrderedRing K] in
/-- The rows are turned around twice. -/
theorem readBack_of_loadCell
    {map loaded : OccupancyGrid K F Q}
    {files : String → Option MapImage}
    {value : ℤ → ℤ}
    (stored : files load.imageFileName = some (savedImage library checked map))
    (isLoaded : loadMapFromFile ops files load = .ok loaded)
    (loads : ∀ cell,
      loadCell load (checked.mode = .scale) (savedPixel library checked cell) =
        value cell) :
    ReadBack value map loaded := by
  rw [loadMapFromFile, stored] at isLoaded
  cases isLoaded
  refine ⟨rfl, rfl, ?_⟩
  intro x inRow y inColumn
  have row : map.width * (map.height - (map.height - 1 - y) - 1) + x =
      y * map.width + x := by
    have turned : map.height - (map.height - 1 - y) - 1 = y := by omega
    rw [turned, Nat.mul_comm]
  have placed := getElem?_loadCells load (savedImage library checked map)
    inRow inColumn
  have isCell := List.getD_eq_getElem?_getD.trans
    (congrArg (fun cell => cell.getD occGridUnknown) placed)
  refine isCell.trans ((loads _).trans ?_)
  show value (map.data.getD
    (map.width * (map.height - (map.height - 1 - y) - 1) + x) _) = _
  rw [row]
  rfl

/-- A saved map is read back. -/
theorem saved_map_reads_back
    {clock : Nat}
    (accepted : checkSaveParameters library clock parameters = .ok checked)
    (map : OccupancyGrid K F Q) :
    ∃ saved, saveMapToFile library clock ops map parameters = .ok saved ∧
      ∀ files, StoresImage files saved →
        ∃ loaded, loadMapFromYaml ops files saved.yamlFile saved.yaml =
            .ok loaded ∧
          (parameters.mode = .raw → ReadBack rawValue map loaded) ∧
          (parameters.mode = .trinary →
            ReadBack (trinaryClass checked) map loaded) := by
  obtain ⟨sameMode, plain⟩ := checkSaveParameters_eq_ok accepted
  obtain ⟨load, isLoad, reads⟩ :=
    loadMapYaml_written library ops plain map
  refine ⟨tryWriteMapToFile library ops checked map, ?_, ?_⟩
  · rw [saveMapToFile, accepted]
    rfl
  · intro files stores
    have stored : files load.imageFileName =
        some (savedImage library checked map) := by
      rw [reads.image]
      exact stores _ rfl
    obtain ⟨loaded, isLoaded⟩ :
        ∃ loaded, loadMapFromFile ops files load = .ok loaded := by
      rw [loadMapFromFile, stored]
      exact ⟨_, rfl⟩
    refine ⟨loaded, ?_, ?_, ?_⟩
    · rw [loadMapFromYaml, isLoad]
      exact isLoaded
    · intro isRaw
      rw [← sameMode] at isRaw
      exact readBack_of_loadCell stored isLoaded
        (loadCell_savedPixel_raw (reads.mode.trans isRaw) _ isRaw)
    · intro isTrinary
      rw [← sameMode] at isTrinary
      exact readBack_of_loadCell stored isLoaded
        ((reads.trinary isTrinary).loadCell_savedPixel _ isTrinary)

end Save

/-- A library with quanta of two bytes. -/
def shortQuanta : ImageLibrary where
  quantumScale := 257
  toChar quantum := quantum / 257
  isWritable format := format ∈ ["bmp", "pgm", "png"]
  toChar_scaled level _ := Nat.mul_div_cancel level (by decide)
  writable_plain := by
    intro format writable
    rw [decide_eq_true_iff] at writable
    fin_cases writable <;> decide

/-- Maps that are not turned. -/
def levelOps : MessageOps ℚ ℚ (ℚ × ℚ × ℚ × ℚ) where
  toFloat := id
  ofFloat := id
  orientationAroundZAxis _ := (0, 0, 0, 1)
  yaw _ := 0

def cornerMap : OccupancyGrid ℚ ℚ (ℚ × ℚ × ℚ × ℚ) where
  width := 3
  height := 2
  resolution := 1 / 20
  originX := 0
  originY := -2
  originZ := 0
  orientation := (0, 0, 0, 1)
  data := [0, 100, -1, 50, 25, 26]
  size_data := rfl

/-- Only the name of the file is set. -/
def namedHall : SaveParameters ℚ where
  mapFileName := "hall"
  imageFormat := ""
  freeThresh := 0
  occupiedThresh := 0
  mode := .trinary

def checkedHall : SaveParameters ℚ where
  mapFileName := "hall"
  imageFormat := "pgm"
  freeThresh := 25 / 100
  occupiedThresh := 65 / 100
  mode := .trinary

theorem checkSaveParameters_namedHall :
    checkSaveParameters shortQuanta 0 namedHall = .ok checkedHall := by
  have defaults : namedHall.withDefaults 0 = checkedHall := by
    simp [SaveParameters.withDefaults, namedHall, checkedHall]
  have usable : usableFormat shortQuanta "pgm" = "pgm" := by
    decide +kernel
  have inOrder : ¬ (1 < checkedHall.occupiedThresh ∨
      checkedHall.freeThresh < 0 ∨
        checkedHall.occupiedThresh ≤ checkedHall.freeThresh) := by
    norm_num [checkedHall]
  simp only [checkSaveParameters, defaults]
  rw [if_neg inOrder]
  exact congrArg (fun format => Except.ok { checkedHall with
    imageFormat := format }) usable

theorem cornerMap_reads_back :
    checkSaveParameters shortQuanta 0 namedHall = .ok checkedHall ∧
    ∃ saved, saveMapToFile shortQuanta 0 levelOps cornerMap namedHall =
        .ok saved ∧
      ∀ files, StoresImage files saved →
        ∃ loaded, loadMapFromYaml levelOps files saved.yamlFile saved.yaml =
            .ok loaded ∧
          ReadBack (trinaryClass checkedHall) cornerMap loaded := by
  refine ⟨checkSaveParameters_namedHall, ?_⟩
  obtain ⟨saved, isSaved, reads⟩ :=
    saved_map_reads_back checkSaveParameters_namedHall cornerMap
  refine ⟨saved, isSaved, ?_⟩
  intro files stores
  obtain ⟨loaded, isLoaded, -, back⟩ := reads files stores
  exact ⟨loaded, isLoaded, back rfl⟩

end NavBim
