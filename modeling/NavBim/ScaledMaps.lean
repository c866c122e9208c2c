import NavBim.MapIo
import NavBim.Numerals

namespace NavBim

/-!
# Scaled maps that are read back

In scale mode the writer stores the value of a cell as a shade of grey, from
white to black.  The reader takes the shades beyond the thresholds as free and
occupied and stretches those between them to the whole range.  So a value comes
back exactly if its shade is where the thresholds put it.
-/

attribute [local instance] atLeastTwo_2 atLeastTwo_100 atLeastTwo_255

section Scaled

variable
  {K F Q : Type}
  [Field K]
  [LinearOrder K]
  [FloorRing K]

/-- How dark the pixel of a cell is, from zero to one. -/
def darkness
    (library : ImageLibrary)
    (cell : ℤ) : K :=
  1 - colorGray library ((100 - cell) / 100 : K) / 255

/-- The shade is beyond the threshold of the value, or it is between the
thresholds and nearest to the place of the value among a hundred steps. -/
def ShadeInPlace
    (freeThresh occupiedThresh shade : K)
    (cell : ℤ) : Prop :=
  (shade ≤ freeThresh ∧ cell = 0) ∨
  (freeThresh < shade ∧ occupiedThresh ≤ shade ∧ cell = 100) ∨
  (freeThresh < shade ∧ shade < occupiedThresh ∧
    freeThresh + (cell - 1 / 2) / 100 * (occupiedThresh - freeThresh) ≤ shade ∧
    shade < freeThresh + (cell + 1 / 2) / 100 * (occupiedThresh - freeThresh))

instance
    (freeThresh occupiedThresh shade : K)
    (cell : ℤ) :
    Decidable (ShadeInPlace freeThresh occupiedThresh shade cell) :=
  inferInstanceAs (Decidable (_ ∨ _ ∨ _))

/-- All cells with a value come back, and so do the unknown ones. -/
structure KeepsCells
    (map loaded : OccupancyGrid K F Q) : Prop where
  width : loaded.width = map.width
  height : loaded.height = map.height
  cell :
    ∀ x < map.width, ∀ y < map.height,
      (OutsideRange (map.cell x y) → map.cell x y = occGridUnknown) →
        loaded.cell x y = map.cell x y

/-- Thresholds that the writer accepts. -/
structure AdmissibleThresholds
    (parameters : SaveParameters K) : Prop where
  positive : 0 < parameters.freeThresh
  ordered : parameters.freeThresh < parameters.occupiedThresh
  bounded : parameters.occupiedThresh ≤ 1

variable
  {library : ImageLibrary}
  {ops : MessageOps K F Q}
  {parameters checked : SaveParameters K}
  {load : LoadParameters K}

omit [FloorRing K] in
theorem checkSaveParameters_of_admissible
    (library : ImageLibrary)
    (clock : Nat)
    (admissible : AdmissibleThresholds parameters)
    [IsStrictOrderedRing K] :
    ∃ checked, checkSaveParameters library clock parameters = .ok checked ∧
      checked.freeThresh = parameters.freeThresh ∧
      checked.occupiedThresh = parameters.occupiedThresh := by
  have free : (parameters.withDefaults clock).freeThresh =
      parameters.freeThresh :=
    if_neg admissible.positive.ne'
  have occupied : (parameters.withDefaults clock).occupiedThresh =
      parameters.occupiedThresh :=
    if_neg (admissible.positive.trans admissible.ordered).ne'
  rw [checkSaveParameters, if_neg]
  · exact ⟨_, rfl, free, occupied⟩
  · rw [free, occupied, not_or, not_or, not_lt, not_lt, not_le]
    exact ⟨admissible.bounded, admissible.positive.le, admissible.ordered⟩

/-- What is known of a scaled map that is read from its YAML file. -/
structure ReadsScaled
    (checked : SaveParameters K)
    (load : LoadParameters K) : Prop where
  mode : load.mode = .scale
  negate : load.negate = false
  freeThresh : load.freeThresh = toStringWithPrecision checked.freeThresh 3
  occupiedThresh :
    load.occupiedThresh = toStringWithPrecision checked.occupiedThresh 3

theorem loadMapYaml_written_scaled
    (library : ImageLibrary)
    (ops : MessageOps K F Q)
    (isScale : checked.mode = .scale)
    (plain : '/' ∉ checked.imageFormat.toList ∧
      '\\' ∉ checked.imageFormat.toList)
    (map : OccupancyGrid K F Q) :
    ∃ load, loadMapYaml (tryWriteMapToFile library ops checked map).yamlFile
        (tryWriteMapToFile library ops checked map).yaml = .ok load ∧
      ReadsSaved checked (tryWriteMapToFile library ops checked map) load ∧
      ReadsScaled checked load := by
  have notTrinary : checked.mode ≠ .trinary := by
    rw [isScale]
    exact nofun
  refine ⟨_, loadMapYaml_of_tags _
    (baseName_ne_empty checked.mapFileName plain) _ _ _ _ _ _ _ _ _, ?_, ?_⟩
  · constructor
    case image => simp only [tryWriteMapToFile]
    case mode => rfl
    case trinary =>
      intro isTrinary
      exact absurd isTrinary notTrinary
  · exact
      { mode := isScale
        negate := rfl
        freeThresh := if_neg notTrinary
        occupiedThresh := if_neg notTrinary }

variable [IsStrictOrderedRing K]

omit [FloorRing K] in
/-- Within a positive range, places are compared like their parts of it. -/
theorem part_lt_iff
    {low width part place : K}
    (positive : 0 < width) :
    (place - low) / width * 100 < part ↔
      place < low + part / 100 * width := by
  rw [div_mul_eq_mul_div, div_lt_iff₀ positive]
  constructor
  · intro less
    linarith
  · intro less
    linarith

theorem round_part_mem
    {part : K}
    (nonnegative : 0 < part)
    (bounded : part < 100) :
    0 ≤ round part ∧ round part ≤ 100 := by
  rw [round_eq]
  constructor
  · rw [Int.floor_nonneg]
    linarith
  · rw [← Int.lt_add_one_iff, Int.floor_lt]
    push_cast
    linarith

theorem scaleCell_eq_iff
    (load : LoadParameters K)
    (shade : K)
    (cell : ℤ) :
    scaleCell load shade = cell ↔
      ShadeInPlace load.freeThresh load.occupiedThresh shade cell := by
  rw [scaleCell, ShadeInPlace]
  split
  · case isTrue between =>
    have positive : 0 < load.occupiedThresh - load.freeThresh :=
      sub_pos.mpr (between.1.trans between.2)
    have isPart : 0 < (shade - load.freeThresh) /
          (load.occupiedThresh - load.freeThresh) * 100 ∧
        (shade - load.freeThresh) /
          (load.occupiedThresh - load.freeThresh) * 100 < 100 := by
      constructor
      · exact mul_pos (div_pos (sub_pos.mpr between.1) positive) (by norm_num)
      · rw [part_lt_iff positive]
        linarith [between.2]
    obtain ⟨nonnegative, bounded⟩ := round_part_mem isPart.1 isPart.2
    have signed : Int.bmod (round ((shade - load.freeThresh) /
        (load.occupiedThresh - load.freeThresh) * 100)) 256 =
          round ((shade - load.freeThresh) /
            (load.occupiedThresh - load.freeThresh) * 100) := by
      apply Int.bmod_eq_of_le <;> omega
    have notFree : ¬(shade ≤ load.freeThresh ∧ cell = 0) :=
      fun isFree => not_le.mpr between.1 isFree.1
    have notOccupied : ¬(load.freeThresh < shade ∧
        load.occupiedThresh ≤ shade ∧ cell = 100) :=
      fun isOccupied => not_le.mpr between.2 isOccupied.2.1
    rw [signed, round_eq_iff, Set.mem_Ico, part_lt_iff positive, ← not_lt,
      part_lt_iff positive, not_lt, or_iff_right notFree,
      or_iff_right notOccupied, and_iff_right between.1,
      and_iff_right between.2]
  · case isFalse beyond =>
    rw [trinaryCell]
    by_cases isFree : shade ≤ load.freeThresh
    · rw [if_pos isFree, and_iff_right isFree]
      refine ⟨fun isZero => .inl isZero.symm, ?_⟩
      rintro (isZero | ⟨notFree, -⟩ | ⟨notFree, -⟩)
      · exact isZero.symm
      · exact absurd isFree (not_le.mpr notFree)
      · exact absurd isFree (not_le.mpr notFree)
    · have notFree := not_le.mp isFree
      have isOccupied : load.occupiedThresh ≤ shade :=
        not_lt.mp fun notOccupied => beyond ⟨notFree, notOccupied⟩
      rw [if_neg isFree, if_pos isOccupied]
      refine ⟨fun isHundred => .inr (.inl ⟨notFree, isOccupied,
        isHundred.symm⟩), ?_⟩
      rintro (⟨free, -⟩ | ⟨-, -, isHundred⟩ | ⟨-, notOccupied, -⟩)
      · exact absurd free isFree
      · exact isHundred.symm
      · exact absurd isOccupied (not_le.mpr notOccupied)

/-- The value that a cell of a scaled map comes back with. -/
def scaledValue
    (library : ImageLibrary)
    (load : LoadParameters K)
    (cell : ℤ) : ℤ :=
  if OutsideRange cell then
    occGridUnknown
  else
    scaleCell load (darkness library cell)

omit [IsStrictOrderedRing K] in
theorem loadCell_savedPixel_scaled
    (reads : ReadsScaled checked load)
    (isScale : checked.mode = .scale)
    (cell : ℤ) :
    loadCell load (checked.mode = .scale) (savedPixel library checked cell) =
      scaledValue library load cell := by
  have normalized (grey : Nat) : normalizedGrey load grey = 1 - grey / 255 :=
    if_neg (by rw [reads.negate]; exact nofun)
  simp only [loadCell, reads.mode, savedPixel, isScale, scaledValue]
  by_cases outside : OutsideRange cell
  · rw [if_pos outside, if_pos outside]
    exact if_pos ⟨decide_eq_true trivial, Nat.zero_lt_succ 254⟩
  · rw [if_neg outside, if_neg outside, normalized]
    exact if_neg fun isMasked => Nat.lt_irrefl 255 isMasked.2

theorem keepsCells_iff
    {map loaded : OccupancyGrid K F Q}
    (readsBack : ReadBack (scaledValue library load) map loaded) :
    KeepsCells map loaded ↔
      ∀ x < map.width, ∀ y < map.height, ¬OutsideRange (map.cell x y) →
        ShadeInPlace load.freeThresh load.occupiedThresh
          (darkness library (map.cell x y)) (map.cell x y) := by
  have comesBack {x y : Nat}
      (inRow : x < map.width)
      (inColumn : y < map.height)
      (inside : ¬OutsideRange (map.cell x y)) :
      loaded.cell x y = map.cell x y ↔
        ShadeInPlace load.freeThresh load.occupiedThresh
          (darkness library (map.cell x y)) (map.cell x y) := by
    rw [readsBack.cell x inRow y inColumn, scaledValue, if_neg inside,
      scaleCell_eq_iff]
  constructor
  · intro keeps x inRow y inColumn inside
    exact (comesBack inRow inColumn inside).mp
      (keeps.cell x inRow y inColumn (absurd · inside))
  · intro inPlace
    refine ⟨readsBack.width, readsBack.height, ?_⟩
    intro x inRow y inColumn isKnown
    by_cases outside : OutsideRange (map.cell x y)
    · rw [readsBack.cell x inRow y inColumn, scaledValue, if_pos outside]
      exact (isKnown outside).symm
    · exact (comesBack inRow inColumn outside).mpr
        (inPlace x inRow y inColumn outside)

omit [IsStrictOrderedRing K] in
theorem scaled_map_loads
    (ops : MessageOps K F Q)
    {clock : Nat}
    (accepted : checkSaveParameters library clock parameters = .ok checked)
    (isScale : parameters.mode = .scale)
    (map : OccupancyGrid K F Q) :
    ∃ saved load, ReadsScaled checked load ∧
      saveMapToFile library clock ops map parameters = .ok saved ∧
      ∀ files, StoresImage files saved →
        ∃ loaded, loadMapFromYaml ops files saved.yamlFile saved.yaml =
            .ok loaded ∧
          ReadBack (scaledValue library load) map loaded := by
  obtain ⟨sameMode, plain⟩ := checkSaveParameters_eq_ok accepted
  have checkedScale := sameMode.trans isScale
  obtain ⟨load, isLoad, readsSaved, readsScaled⟩ :=
    loadMapYaml_written_scaled library ops checkedScale plain map
  refine ⟨tryWriteMapToFile library ops checked map, load, readsScaled, ?_, ?_⟩
  · rw [saveMapToFile, accepted]
    rfl
  · intro files stores
    have stored : files load.imageFileName =
        some (savedImage library checked map) := by
      rw [readsSaved.image]
      exact stores _ rfl
    obtain ⟨loaded, isLoaded⟩ :
        ∃ loaded, loadMapFromFile ops files load = .ok loaded := by
      rw [loadMapFromFile, stored]
      exact ⟨_, rfl⟩
    refine ⟨loaded, ?_, ?_⟩
    · rw [loadMapFromYaml, isLoad]
      exact isLoaded
    · exact readBack_of_loadCell stored isLoaded
        (loadCell_savedPixel_scaled readsScaled checkedScale)

/-- With admissible thresholds a scaled map is saved and loaded, and its cells
come back exactly if their shades are where the written thresholds put them. -/
theorem scaled_map_keepsCells_iff
    (library : ImageLibrary)
    (clock : Nat)
    (ops : MessageOps K F Q)
    (map : OccupancyGrid K F Q)
    (parameters : SaveParameters K)
    (isScale : parameters.mode = .scale)
    (admissible : AdmissibleThresholds parameters) :
    ∃ saved, saveMapToFile library clock ops map parameters = .ok saved ∧
      ∀ files, StoresImage files saved →
        ∃ loaded, loadMapFromYaml ops files saved.yamlFile saved.yaml =
            .ok loaded ∧
          (KeepsCells map loaded ↔
            ∀ x < map.width, ∀ y < map.height,
              ¬OutsideRange (map.cell x y) →
                ShadeInPlace (toStringWithPrecision parameters.freeThresh 3)
                  (toStringWithPrecision parameters.occupiedThresh 3)
                  (darkness library (map.cell x y)) (map.cell x y)) := by
  obtain ⟨checked, accepted, sameFree, sameOccupied⟩ :=
    checkSaveParameters_of_admissible library clock admissible
  obtain ⟨saved, load, reads, isSaved, loads⟩ :=
    scaled_map_loads ops accepted isScale map
  refine ⟨saved, isSaved, fun files stores => ?_⟩
  obtain ⟨loaded, isLoaded, readsBack⟩ := loads files stores
  refine ⟨loaded, isLoaded, ?_⟩
  rw [← sameFree, ← sameOccupied, ← reads.freeThresh, ← reads.occupiedThresh]
  exact keepsCells_iff readsBack

end Scaled

section Samples

/-- Thresholds that are written as zero and one. -/
def wholeRange : SaveParameters ℚ where
  mapFileName := "hall"
  imageFormat := "png"
  freeThresh := 1 / 10000
  occupiedThresh := 1
  mode := .scale

/-- The default thresholds. -/
def middleRange : SaveParameters ℚ where
  mapFileName := "hall"
  imageFormat := "png"
  freeThresh := 25 / 100
  occupiedThresh := 65 / 100
  mode := .scale

theorem cornerMap_keepsCells :
    ∃ saved, saveMapToFile shortQuanta 0 levelOps cornerMap wholeRange =
        .ok saved ∧
      ∀ files, StoresImage files saved →
        ∃ loaded, loadMapFromYaml levelOps files saved.yamlFile saved.yaml =
            .ok loaded ∧
          KeepsCells cornerMap loaded := by
  obtain ⟨saved, isSaved, loads⟩ := scaled_map_keepsCells_iff shortQuanta 0
    levelOps cornerMap wholeRange rfl
    ⟨by decide +kernel, by decide +kernel, by decide +kernel⟩
  refine ⟨saved, isSaved, fun files stores => ?_⟩
  obtain ⟨loaded, isLoaded, keeps_iff⟩ := loads files stores
  exact ⟨loaded, isLoaded, keeps_iff.mpr (by decide +kernel)⟩

/-- The half is stored as a shade that is read as 63 hundredths. -/
theorem cornerMap_stretched :
    ∃ saved files loaded,
      saveMapToFile shortQuanta 0 levelOps cornerMap middleRange = .ok saved ∧
      StoresImage files saved ∧
      loadMapFromYaml levelOps files saved.yamlFile saved.yaml = .ok loaded ∧
      cornerMap.cell 0 1 = 50 ∧ loaded.cell 0 1 = 63 ∧
      ¬KeepsCells cornerMap loaded := by
  obtain ⟨checked, accepted, sameFree, sameOccupied⟩ :=
    checkSaveParameters_of_admissible shortQuanta 0
      (show AdmissibleThresholds middleRange from
        ⟨by decide +kernel, by decide +kernel, by decide +kernel⟩)
  obtain ⟨saved, load, reads, isSaved, loads⟩ :=
    scaled_map_loads levelOps accepted rfl cornerMap
  obtain ⟨loaded, isLoaded, readsBack⟩ := loads (fun _ => some saved.image)
    (fun _ _ => rfl)
  have isHalf : cornerMap.cell 0 1 = 50 := by
    decide +kernel
  have isStretched : loaded.cell 0 1 = 63 := by
    rw [readsBack.cell 0 (by decide) 1 (by decide), isHalf, scaledValue,
      if_neg (by decide), scaleCell, reads.freeThresh, reads.occupiedThresh,
      sameFree, sameOccupied, if_pos (by decide +kernel)]
    decide +kernel
  refine ⟨saved, _, loaded, isSaved, fun _ _ => rfl, isLoaded, isHalf,
    isStretched, fun keeps => ?_⟩
  have same := keeps.cell 0 (by decide) 1 (by decide)
    (fun outside => absurd outside (by decide +kernel))
  rw [isHalf, isStretched] at same
  exact absurd same (by decide)

end Samples

end NavBim
