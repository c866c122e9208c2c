import NavBim.ComponentClasses

namespace NavBim

/-!
# Room for the labels

Labels are made at pixels that none before them is linked with, so no two of
these pixels are neighbours.  With four neighbours there is one such pixel at
most among any two that follow each other on a way through all pixels, and with
eight neighbours there is one at most in each block of two by two pixels.

The layer has room for half of the pixels in the first case and for a third of
them in the second, and one more.  That is enough, except for images with eight
neighbours that have a single row or column.
-/

section Bounds

variable
  {connectivity : ConnectivityType}
  {foreground : PixelPosition → Prop}
  {rows columns : Nat}
  {first second : PixelPosition}

/-- Pixels that labels are made at are not neighbours. -/
theorem IsStart.not_adjacent
    (isFirst : IsStart connectivity foreground first)
    (isSecond : IsStart connectivity foreground second) :
    ¬ Adjacent connectivity first second := by
  intro adjacent
  rcases before_total adjacent.ne with before | before
  · exact isFirst.alone second before
      ⟨isFirst.isForeground, isSecond.isForeground, adjacent⟩
  · exact isSecond.alone first before
      ⟨isSecond.isForeground, isFirst.isForeground, adjacent.symm⟩

/-- A column counted from the left or from the right. -/
def turnedColumn
    (columns : Nat)
    (pixel : PixelPosition) : Nat :=
  if pixel.1 % 2 = 0 then pixel.2 else columns - 1 - pixel.2

/-- The place of a pixel on a way through all rows, there and back. -/
def snake
    (columns : Nat)
    (pixel : PixelPosition) : Nat :=
  pixel.1 * columns + turnedColumn columns pixel

theorem turnedColumn_lt
    (inside : first.2 < columns) :
    turnedColumn columns first < columns := by
  rw [turnedColumn]
  split
  · exact inside
  · omega

theorem snake_lt
    (inside : first.1 < rows ∧ first.2 < columns) :
    snake columns first < rows * columns :=
  Image.position_lt ⟨inside.1, turnedColumn_lt inside.2⟩

theorem snake_injective
    (firstInside : first.2 < columns)
    (secondInside : second.2 < columns)
    (same : snake columns first = snake columns second) :
    first = second := by
  obtain ⟨sameRow, sameColumn⟩ := rowMajor_inj
    (turnedColumn_lt firstInside) (turnedColumn_lt secondInside) same
  refine Prod.ext sameRow ?_
  rw [turnedColumn, turnedColumn, sameRow] at sameColumn
  split at sameColumn
  · exact sameColumn
  · omega

/-- Pixels that follow each other on the way are neighbours. -/
theorem snake_succ
    (firstInside : first.2 < columns)
    (secondInside : second.2 < columns)
    (next : snake columns first + 1 = snake columns second) :
    Adjacent .way4 first second := by
  have firstBound := turnedColumn_lt firstInside
  have secondBound := turnedColumn_lt secondInside
  rw [snake, snake] at next
  by_cases isLast : turnedColumn columns first + 1 = columns
  · -- the way turns into the next row
    have start : (first.1 + 1) * columns + 0 =
        second.1 * columns + turnedColumn columns second := by
      rw [← next, Nat.succ_mul]
      omega
    obtain ⟨nextRow, atStart⟩ :=
      rowMajor_inj (by omega) secondBound start
    refine .inr ⟨?_, .inl nextRow⟩
    rw [turnedColumn] at isLast atStart
    split at isLast <;> split at atStart <;> omega
  · have onward : first.1 * columns + (turnedColumn columns first + 1) =
        second.1 * columns + turnedColumn columns second := by
      omega
    obtain ⟨sameRow, beside⟩ :=
      rowMajor_inj (by omega) secondBound onward
    refine .inl ⟨sameRow, ?_⟩
    rw [turnedColumn, turnedColumn, sameRow] at beside
    split at beside <;> omega

section

variable
  (inside : ∀ pixel, foreground pixel →
    pixel.1 < rows ∧ pixel.2 < columns)

include inside

/-- With four neighbours labels are made at half of the pixels at most. -/
theorem ncard_starts_way4 :
    {pixel | IsStart .way4 foreground pixel}.ncard ≤
      rows * columns / 2 + 1 := by
  have maps : ∀ pixel ∈ {pixel | IsStart .way4 foreground pixel},
      snake columns pixel / 2 ∈
        (Finset.range (rows * columns / 2 + 1) : Set Nat) := by
    intro pixel isStart
    have bound := snake_lt (inside pixel isStart.isForeground)
    rw [Finset.coe_range, Set.mem_Iio]
    omega
  have injective : Set.InjOn (fun pixel => snake columns pixel / 2)
      {pixel | IsStart .way4 foreground pixel} := by
    intro first isFirst second isSecond same
    have firstInside := (inside first isFirst.isForeground).2
    have secondInside := (inside second isSecond.isForeground).2
    dsimp only at same
    obtain equal | next | previous :
        snake columns first = snake columns second ∨
          snake columns first + 1 = snake columns second ∨
          snake columns second + 1 = snake columns first := by omega
    · exact snake_injective firstInside secondInside equal
    · exact absurd (snake_succ firstInside secondInside next)
        (isFirst.not_adjacent isSecond)
    · exact absurd (snake_succ secondInside firstInside previous)
        (isSecond.not_adjacent isFirst)
  have bound := Set.ncard_le_ncard_of_injOn _ maps injective
    (Finset.finite_toSet _)
  rwa [Set.ncard_coe_finset, Finset.card_range] at bound

/-- With eight neighbours labels are made once in a block at most. -/
theorem ncard_starts_way8 :
    {pixel | IsStart .way8 foreground pixel}.ncard ≤
      (rows + 1) / 2 * ((columns + 1) / 2) := by
  have maps : ∀ pixel ∈ {pixel | IsStart .way8 foreground pixel},
      (pixel.1 / 2, pixel.2 / 2) ∈
        (Finset.range ((rows + 1) / 2) ×ˢ Finset.range ((columns + 1) / 2) :
          Set (Nat × Nat)) := by
    intro pixel isStart
    have bounds := inside pixel isStart.isForeground
    rw [Set.mem_prod, Finset.coe_range, Finset.coe_range, Set.mem_Iio,
      Set.mem_Iio]
    omega
  have injective : Set.InjOn (fun pixel : PixelPosition =>
      (pixel.1 / 2, pixel.2 / 2)) {pixel | IsStart .way8 foreground pixel} := by
    intro first isFirst second isSecond same
    rw [Prod.mk.injEq] at same
    by_contra different
    apply isFirst.not_adjacent isSecond
    rw [Prod.ext_iff] at different
    exact adjacent_way8 (by omega)
  have bound := Set.ncard_le_ncard_of_injOn _ maps injective
    ((Finset.finite_toSet _).prod (Finset.finite_toSet _))
  rwa [Set.ncard_prod, Set.ncard_coe_finset, Set.ncard_coe_finset,
    Finset.card_range, Finset.card_range] at bound

end

/-- In an image with several rows and columns the blocks are no more than a
third of the pixels and one. -/
theorem blocks_le
    (severalRows : 2 ≤ rows)
    (severalColumns : 2 ≤ columns) :
    (rows + 1) / 2 * ((columns + 1) / 2) ≤ rows * columns / 3 + 1 := by
  obtain ⟨halfRows, isHalfRows⟩ : ∃ half, (rows + 1) / 2 = half := ⟨_, rfl⟩
  obtain ⟨halfColumns, isHalfColumns⟩ : ∃ half, (columns + 1) / 2 = half :=
    ⟨_, rfl⟩
  have rowBound : 2 * halfRows ≤ rows + 1 := by omega
  have columnBound : 2 * halfColumns ≤ columns + 1 := by omega
  rw [isHalfRows, isHalfColumns]
  have enough : 3 * (halfRows * halfColumns) ≤ rows * columns + 3 := by
    by_cases singleRow : halfRows = 1
    · subst singleRow
      nlinarith
    · by_cases singleColumn : halfColumns = 1
      · subst singleColumn
        nlinarith
      · obtain ⟨moreRows, rfl⟩ : ∃ more, halfRows = more + 2 :=
          ⟨halfRows - 2, by omega⟩
        obtain ⟨moreColumns, rfl⟩ : ∃ more, halfColumns = more + 2 :=
          ⟨halfColumns - 2, by omega⟩
        have area :
            (2 * moreRows + 3) * (2 * moreColumns + 3) ≤ rows * columns :=
          Nat.mul_le_mul (by omega) (by omega)
        nlinarith
  omega

end Bounds

namespace DenoiseLayer

variable
  (lookup : LabelsMap → Nat → Option Nat)

variable
  {connectivity : ConnectivityType}
  {isBackground : UInt8 → Bool}
  {image : Image UInt8}

section Overflow

/-- The pixels that labels are made at. -/
def starts
    (connectivity : ConnectivityType)
    (isBackground : UInt8 → Bool)
    (image : Image UInt8) : Set PixelPosition :=
  {pixel | IsStart connectivity (Foreground image isBackground) pixel}

theorem scanImage_overflows_iff
    {labelMax : Nat}
    (hasLabels : 0 < labelMax)
    (background : isBackground 0 = true)
    (rows : 0 < image.rows)
    (columns : 0 < image.columns)
    (buffer : Nat → Nat → Nat) :
    scanImage connectivity isBackground image
        (startScan labelMax connectivity buffer image) =
          .error .labelOverflow ↔
      capacity labelMax connectivity image ≤
        (starts connectivity isBackground image).ncard := by
  have result := @scanImage_scanned connectivity isBackground image labelMax
    hasLabels background rows columns buffer
  cases scanned : scanImage connectivity isBackground image
    (startScan labelMax connectivity buffer image) with
  | error error =>
      rw [scanned] at result
      obtain ⟨rfl, noRoom⟩ := result
      exact ⟨fun _ => noRoom, fun _ => rfl⟩
  | ok scan =>
      rw [scanned] at result
      have all :
          {pixel | IsStart connectivity (Foreground image isBackground) pixel ∧
              Before image.rows 0 pixel} =
            starts connectivity isBackground image := by
        ext pixel
        exact ⟨And.left, fun isStart =>
          ⟨isStart, .inl isStart.isForeground.1.1⟩⟩
      have made := result.counted.starts
      have room := result.room
      rw [all] at made
      constructor
      · intro overflow
        cases overflow
      · intro noRoom
        omega

theorem relabel_ne_overflow
    (labelsMap : LabelsMap)
    (labels : Image Nat) :
    relabel lookup labelsMap labels ≠ .error .labelOverflow := by
  rw [relabel]
  split
  · intro same
    cases same
  · intro same
    cases same

/-- Nothing but the scan can run out of labels. -/
theorem removeGroupsImpl_overflows_iff
    (labelMax minimalGroupSize : Nat)
    (rows : 0 < image.rows)
    (columns : 0 < image.columns)
    (buffer : Nat → Nat → Nat) :
    removeGroupsImpl lookup labelMax connectivity isBackground
        minimalGroupSize buffer image = .error .labelOverflow ↔
      scanImage connectivity isBackground image
        (startScan labelMax connectivity buffer image) =
          .error .labelOverflow := by
  have notEmpty : ¬ image.rows * image.columns = 0 :=
    (Nat.mul_pos rows columns).ne'
  rw [removeGroupsImpl, connectedComponents, if_neg notEmpty]
  cases scanImage connectivity isBackground image
    (startScan labelMax connectivity buffer image) with
  | error error =>
      simp only [error_bind, Except.error.injEq]
  | ok scan =>
      simp only [ok_bind]
      cases relabelled : relabel lookup scan.trees.getLabels scan.labels with
      | error error =>
          have known :=
            relabel_ne_overflow lookup scan.trees.getLabels scan.labels
          rw [relabelled] at known
          constructor
          · intro overflow
            rw [error_bind, error_bind] at overflow
            cases overflow
            exact absurd rfl known
          · intro overflow
            cases overflow
      | ok labels =>
          constructor
          · intro overflow
            simp only [ok_bind, pure, Except.pure] at overflow
            split at overflow <;> cases overflow
          · intro overflow
            cases overflow

end Overflow

section Lines

/-- The pixel at a position of an image's memory. -/
def pixelAt
    (image : Image UInt8)
    (position : Nat) : PixelPosition :=
  (position / image.columns, position % image.columns)

/-- Whether a run of the foreground starts at a position. -/
def startsRun
    (isBackground : UInt8 → Bool)
    (image : Image UInt8)
    (position : Nat) : Prop :=
  Foreground image isBackground (pixelAt image position) ∧
    (position = 0 ∨
      ¬ Foreground image isBackground (pixelAt image (position - 1)))

instance
    (isBackground : UInt8 → Bool)
    (image : Image UInt8) : DecidablePred (startsRun isBackground image) :=
  fun _ => inferInstanceAs (Decidable (_ ∧ _))

/-- The number of runs of the foreground, for images with a single row or
column. -/
def lineRuns
    (isBackground : UInt8 → Bool)
    (image : Image UInt8) : Nat :=
  ((Finset.range (image.rows * image.columns)).filter
    (startsRun isBackground image)).card

theorem isStart_line_iff
    {position : Nat}
    (line : image.rows = 1 ∨ image.columns = 1)
    (inside : position < image.rows * image.columns) :
    IsStart .way8 (Foreground image isBackground) (pixelAt image position) ↔
      startsRun isBackground image position := by
  have beside {row column : Nat}
      (isHere : pixelAt image position = (row, column))
      {other : PixelPosition}
      (otherInside : image.Inside other.1 other.2)
      (before : Before row column other)
      (adjacent : Adjacent .way8 (row, column) other) :
      position ≠ 0 ∧ pixelAt image (position - 1) = other := by
    have notFirst : position ≠ 0 := by
      rintro rfl
      rw [pixelAt, Nat.zero_div, Nat.zero_mod] at isHere
      cases isHere
      exact not_before_start before
    refine ⟨notFirst, ?_⟩
    obtain ⟨rowInside, columnInside⟩ := otherInside
    rw [Prod.ext_iff]
    rcases line with single | single
    · rw [single, Nat.one_mul] at inside
      rw [pixelAt, Nat.div_eq_of_lt inside, Nat.mod_eq_of_lt inside] at isHere
      rw [pixelAt, Nat.div_eq_of_lt (by omega), Nat.mod_eq_of_lt (by omega)]
      cases isHere
      simp only [Before, Adjacent] at before adjacent ⊢
      omega
    · rw [pixelAt, single, Nat.div_one, Nat.mod_one] at isHere
      rw [pixelAt, single, Nat.div_one, Nat.mod_one]
      cases isHere
      simp only [Before, Adjacent] at before adjacent ⊢
      omega
  constructor
  · intro isStart
    refine ⟨isStart.isForeground, ?_⟩
    by_contra continued
    rw [not_or, not_not] at continued
    obtain ⟨notFirst, previous⟩ := continued
    have adjacent : Adjacent .way8 (pixelAt image position)
          (pixelAt image (position - 1)) ∧
        Before (pixelAt image position).1 (pixelAt image position).2
          (pixelAt image (position - 1)) := by
      rcases line with single | single
      · rw [single, Nat.one_mul] at inside
        rw [pixelAt, pixelAt, Nat.div_eq_of_lt inside, Nat.mod_eq_of_lt inside,
          Nat.div_eq_of_lt (by omega), Nat.mod_eq_of_lt (by omega)]
        simp only [Before, Adjacent, true_and]
        omega
      · rw [pixelAt, pixelAt, single, Nat.div_one, Nat.mod_one, Nat.div_one,
          Nat.mod_one]
        simp only [Before, Adjacent]
        omega
    exact isStart.alone _ adjacent.2
      ⟨isStart.isForeground, previous, adjacent.1⟩
  · rintro ⟨isForeground, starts⟩
    refine ⟨isForeground, ?_⟩
    intro other before linked
    obtain ⟨notFirst, isOther⟩ :=
      beside rfl linked.stop.1 before linked.adjacent
    rcases starts with isFirst | notPrevious
    · exact notFirst isFirst
    · exact notPrevious (isOther ▸ linked.stop)

theorem ncard_starts_line
    (line : image.rows = 1 ∨ image.columns = 1) :
    (starts .way8 isBackground image).ncard = lineRuns isBackground image := by
  have isImage : starts .way8 isBackground image =
      pixelAt image '' ((Finset.range (image.rows * image.columns)).filter
        (startsRun isBackground image) : Finset Nat) := by
    ext pixel
    constructor
    · intro isStart
      have inside : image.Inside pixel.1 pixel.2 := isStart.isForeground.1
      have bound := Image.position_lt inside
      have isPixel :
          pixelAt image (pixel.1 * image.columns + pixel.2) = pixel := by
        rw [pixelAt, rowMajor_div inside.2, rowMajor_mod inside.2]
      refine ⟨pixel.1 * image.columns + pixel.2, ?_, isPixel⟩
      rw [Finset.mem_coe, Finset.mem_filter, Finset.mem_range]
      refine ⟨bound, (isStart_line_iff line bound).mp ?_⟩
      rw [isPixel]
      exact isStart
    · rintro ⟨position, member, rfl⟩
      rw [Finset.mem_coe, Finset.mem_filter, Finset.mem_range] at member
      exact (isStart_line_iff line member.1).mpr member.2
  have injective : Set.InjOn (pixelAt image)
      ((Finset.range (image.rows * image.columns)).filter
        (startsRun isBackground image) : Finset Nat) := by
    intro first _ second _ same
    rw [pixelAt, pixelAt, Prod.mk.injEq] at same
    rw [← Nat.div_add_mod first image.columns, same.1, same.2,
      Nat.div_add_mod]
  rw [isImage, injective.ncard_image, Set.ncard_coe_finset,
    lineRuns]

end Lines

section Budget

/-- With 32 bits the number of pixels is the only limit. -/
theorem capacity_uint32
    (connectivity : ConnectivityType)
    (few : image.rows * image.columns < 2 ^ 32) :
    capacity LabelType.uint32.max connectivity image =
      match connectivity with
      | .way4 => image.rows * image.columns / 2 + 2
      | .way8 => image.rows * image.columns / 3 + 2 := by
  have isMax : LabelType.uint32.max = 2 ^ 32 - 1 := rfl
  have isMin : capacity LabelType.uint32.max connectivity image =
      min (EquivalenceLabelTrees.maxLabels LabelType.uint32.max image.rows
        image.columns connectivity) LabelType.uint32.max :=
    rfl
  rw [isMin, isMax]
  cases connectivity <;> dsimp only [EquivalenceLabelTrees.maxLabels] <;> omega

/-- With 16 bits there is no more room than with 32. -/
theorem capacity_uint16_le
    (connectivity : ConnectivityType)
    (image : Image UInt8) :
    capacity LabelType.uint16.max connectivity image ≤
      capacity LabelType.uint32.max connectivity image := by
  have isMax : LabelType.uint32.max = 2 ^ 32 - 1 := rfl
  have isMax16 : LabelType.uint16.max = 2 ^ 16 - 1 := rfl
  have isMin (labelMax : Nat) : capacity labelMax connectivity image =
      min (EquivalenceLabelTrees.maxLabels labelMax image.rows
        image.columns connectivity) labelMax :=
    rfl
  rw [isMin, isMin, isMax, isMax16]
  cases connectivity <;> dsimp only [EquivalenceLabelTrees.maxLabels] <;> omega

/-- Trying 16 bits first makes no difference. -/
theorem removeGroups_overflows_iff
    (minimalGroupSize : Nat)
    (buffer : Nat → Nat → Nat)
    (labelType : LabelType)
    (background : isBackground 0 = true)
    (rows : 0 < image.rows)
    (columns : 0 < image.columns) :
    (removeGroups lookup connectivity isBackground minimalGroupSize buffer
        image labelType).1 = .error .labelOverflow ↔
      capacity LabelType.uint32.max connectivity image ≤
        (starts connectivity isBackground image).ncard := by
  have overflows (labelType : LabelType) :
      removeGroupsImpl lookup labelType.max connectivity isBackground
          minimalGroupSize buffer image = .error .labelOverflow ↔
        capacity labelType.max connectivity image ≤
          (starts connectivity isBackground image).ncard := by
    rw [removeGroupsImpl_overflows_iff lookup labelType.max minimalGroupSize
      rows columns buffer]
    refine scanImage_overflows_iff ?_ background rows columns buffer
    cases labelType <;> exact Nat.succ_pos _
  have wide := overflows .uint32
  have narrow := overflows .uint16
  have less := capacity_uint16_le connectivity image
  cases labelType with
  | uint32 => exact wide
  | uint16 =>
      rw [removeGroups]
      dsimp only
      split
      · exact wide
      · case _ result notOverflow =>
        constructor
        · intro overflow
          exact absurd overflow notOverflow
        · intro noRoom
          exact absurd (narrow.mpr (less.trans noRoom)) notOverflow

/-- Labels do not run out with four neighbours, nor in an image with several
rows and columns.  In a single row or column with eight neighbours they do if
there are more runs than a third of the pixels and one. -/
theorem removeGroups_no_overflow_iff
    (lookup : LabelsMap → Nat → Option Nat)
    (minimalGroupSize : Nat)
    (buffer : Nat → Nat → Nat)
    (labelType : LabelType)
    (background : isBackground 0 = true)
    (rows : 0 < image.rows)
    (columns : 0 < image.columns)
    (few : image.rows * image.columns < 2 ^ 32) :
    (removeGroups lookup connectivity isBackground minimalGroupSize buffer
        image labelType).1 ≠ .error .labelOverflow ↔
      connectivity = .way4 ∨ (2 ≤ image.rows ∧ 2 ≤ image.columns) ∨
        lineRuns isBackground image ≤ image.rows * image.columns / 3 + 1 := by
  rw [ne_eq, removeGroups_overflows_iff lookup minimalGroupSize buffer labelType
    background rows columns, capacity_uint32 connectivity few]
  have inside : ∀ pixel, Foreground image isBackground pixel →
      pixel.1 < image.rows ∧ pixel.2 < image.columns :=
    fun pixel isForeground => isForeground.1
  cases connectivity with
  | way4 =>
      have bound : (starts .way4 isBackground image).ncard ≤ _ :=
        ncard_starts_way4 inside
      simp only [true_or, iff_true]
      omega
  | way8 =>
      by_cases several : 2 ≤ image.rows ∧ 2 ≤ image.columns
      · have bound : (starts .way8 isBackground image).ncard ≤ _ :=
          ncard_starts_way8 inside
        have fits := blocks_le several.1 several.2
        simp only [several, and_self, true_or, or_true, iff_true]
        omega
      · have line : image.rows = 1 ∨ image.columns = 1 := by omega
        rw [ncard_starts_line line]
        simp only [several, reduceCtorEq, false_or]
        omega

/-- Three single obstacles in a row of five pixels. -/
def dottedLine : Image UInt8 :=
  .ofPixels 1 5 fun _ column => if column % 2 = 0 then lethalObstacle else 0

/-- A row of five pixels with a single obstacle has room enough. -/
theorem singleObstacle_no_overflow :
    (removeGroups LabelsMap.lookup .way8 (DenoiseLayer.isBackground true) 3
      (fun _ _ => 0)
      (.ofPixels 1 5 fun _ column => if column = 0 then lethalObstacle else 0)
      .uint16).1 ≠ .error .labelOverflow :=
  (removeGroups_no_overflow_iff LabelsMap.lookup 3 (fun _ _ => 0) .uint16 rfl
    (by decide) (by decide) (by decide)).mpr (.inr (.inr (by decide +kernel)))

/-- There are two labels for five pixels, and the third obstacle gets none. -/
theorem dottedLine_overflows :
    ¬ ∀ (connectivity : ConnectivityType) (isBackground : UInt8 → Bool)
        (minimalGroupSize : Nat) (buffer : Nat → Nat → Nat)
        (labelType : LabelType) (image : Image UInt8),
      isBackground 0 = true → 0 < image.rows → 0 < image.columns →
      image.rows * image.columns < 2 ^ 32 →
        (removeGroups LabelsMap.lookup connectivity isBackground
          minimalGroupSize buffer image labelType).1 ≠
            .error .labelOverflow := by
  intro never
  refine never .way8 (DenoiseLayer.isBackground true) 3 (fun _ _ => 0) .uint16
    dottedLine rfl (by decide) (by decide) (by decide) ?_
  rfl

end Budget

end DenoiseLayer

end NavBim
