import NavBim.CheckedRuns
import NavBim.ComponentLabels

namespace NavBim

namespace DenoiseLayer

/-!
# The scan of an image

Every pixel can be labelled as if its window were checked: where a window is not
checked, either all of it is in the image, or what is beside the image is not
read.  So the scan takes one step for each pixel, in the order of rows, and what
every step passes on holds at the end.
-/

section Windows

variable {α : Type} [Zero α] {image : Image α} {row column : Nat}

theorem readPixel_inside
    (inside : image.Inside row column) :
    readPixel image row column = .ok (image.get row column) :=
  if_pos inside

/-- Away from the border nothing has to be checked. -/
theorem unsafeWindow_eq_safeWindow
    (notFirstRow : 0 < row)
    (rowInside : row < image.rows)
    (notFirst : 0 < column)
    (notLast : column + 1 < image.columns) :
    unsafeWindow image row column = safeWindow image row column := by
  have a : readPixel image (row - 1) (column - 1) = _ :=
    readPixel_inside ⟨by omega, by omega⟩
  have b : readPixel image (row - 1) column = _ :=
    readPixel_inside ⟨by omega, by omega⟩
  have c : readPixel image (row - 1) (column + 1) = _ :=
    readPixel_inside ⟨by omega, notLast⟩
  have d : readPixel image row (column - 1) = _ :=
    readPixel_inside ⟨rowInside, by omega⟩
  have e : readPixel image row column = _ :=
    readPixel_inside ⟨rowInside, by omega⟩
  simp [unsafeWindow, safeWindow, notFirstRow.ne', notFirst.ne', a, b, c, d, e,
    Nat.not_le.mpr notLast]

end Windows

section Steps

variable
  {connectivity : ConnectivityType}
  {isBackground : UInt8 → Bool}
  {image : Image UInt8}
  {scan : Scan}
  {row column : Nat}

/-- Label a pixel with both windows checked. -/
def scanPixel
    (connectivity : ConnectivityType)
    (isBackground : UInt8 → Bool)
    (image : Image UInt8)
    (row column : Nat)
    (scan : Scan) : Except ScanError Scan :=
  passPixel connectivity isBackground (safeWindow image row column)
    (safeWindow scan.labels row column) row column scan

theorem passPixel_firstColumn
    (background : isBackground 0 = true)
    (sameRows : scan.labels.rows = image.rows)
    (sameColumns : scan.labels.columns = image.columns)
    (notFirstRow : 0 < row)
    (rowInside : row < image.rows)
    (notEmpty : 0 < image.columns) :
    passPixel connectivity isBackground (safeWindow image row 0)
        (unsafeWindow scan.labels row 0) row 0 scan =
      scanPixel connectivity isBackground image row 0 scan := by
  have b : readPixel scan.labels (row - 1) 0 = _ :=
    readPixel_inside ⟨by omega, by omega⟩
  by_cases several : 1 < image.columns
  · have c : readPixel scan.labels (row - 1) 1 = _ :=
      readPixel_inside ⟨by omega, by omega⟩
    have notLast : ¬ image.columns ≤ 1 := Nat.not_le.mpr several
    cases connectivity with
    | way4 =>
        simp [scanPixel, passPixel, passWay4, safeWindow, unsafeWindow,
          notFirstRow.ne', background, b]
    | way8 =>
        simp [scanPixel, passPixel, passWay8, safeWindow, unsafeWindow,
          notFirstRow.ne', background, b, c, sameColumns, notLast]
  · have isLast : image.columns ≤ 1 := Nat.not_lt.mp several
    cases connectivity with
    | way4 =>
        simp [scanPixel, passPixel, passWay4, safeWindow, unsafeWindow,
          notFirstRow.ne', background, b]
    | way8 =>
        simp [scanPixel, passPixel, passWay8, safeWindow, unsafeWindow,
          notFirstRow.ne', background, b, isLast]

end Steps

section Induction

variable
  {connectivity : ConnectivityType}
  {isBackground : UInt8 → Bool}
  {image : Image UInt8}
  {motive : Nat → Nat → Scan → Prop}
  {bad : ScanError → Prop}

/-- What a property of scans has to fulfil to be carried through a scan. -/
structure Carried
    (connectivity : ConnectivityType)
    (isBackground : UInt8 → Bool)
    (image : Image UInt8)
    (motive : Nat → Nat → Scan → Prop)
    (bad : ScanError → Prop) : Prop where
  sizes : ∀ {row column scan}, motive row column scan →
    scan.labels.rows = image.rows ∧ scan.labels.columns = image.columns
  step : ∀ {row column scan}, row < image.rows → column < image.columns →
    motive row column scan →
      Holds (motive row (column + 1)) bad
        (scanPixel connectivity isBackground image row column scan)
  newRow : ∀ {row scan}, motive row image.columns scan →
    motive (row + 1) 0 scan

section

variable
  (carried : Carried connectivity isBackground image motive bad)

include carried

theorem Carried.scanFirstRow
    (rows : 0 < image.rows)
    {scan : Scan}
    (start : motive 0 0 scan) :
    Holds (motive 1 0) bad
      (scanFirstRow connectivity isBackground image scan) := by
  have row := holds_foldlM_range (motive 0) bad
    (fun scan column => passPixel connectivity isBackground
      (safeWindow image 0 column) (safeWindow scan.labels 0 column) 0 column
      scan)
    image.columns start
    fun column scan _ below holds =>
      carried.step rows (by omega) holds
  rw [Nat.zero_add] at row
  exact row.mono fun scan holds => carried.newRow holds

theorem Carried.scanRow
    (background : isBackground 0 = true)
    (notEmpty : 0 < image.columns)
    {row : Nat}
    (notFirstRow : 0 < row)
    (rowInside : row < image.rows)
    {scan : Scan}
    (start : motive row 0 scan) :
    Holds (motive (row + 1) 0) bad
      (scanRow connectivity isBackground image scan row) := by
  rw [DenoiseLayer.scanRow]
  have sizes := carried.sizes start
  rw [passPixel_firstColumn background sizes.1 sizes.2 notFirstRow rowInside
    notEmpty]
  apply (carried.step rowInside notEmpty start).bind
  intro scan afterFirst
  have middle := holds_foldlM_range (motive row) bad
    (fun scan column => passPixel connectivity isBackground
      (unsafeWindow image row column) (unsafeWindow scan.labels row column)
      row column scan)
    (image.columns - 2) afterFirst
    (by
      intro column scan atLeast below holds
      have sizes := carried.sizes holds
      rw [unsafeWindow_eq_safeWindow notFirstRow rowInside (by omega)
        (by omega), unsafeWindow_eq_safeWindow notFirstRow (by omega)
        (by omega) (by omega)]
      exact carried.step rowInside (by omega) holds)
  apply middle.bind
  intro scan afterMiddle
  split
  · case isTrue several =>
    have last : 1 + (image.columns - 2) = image.columns - 1 := by omega
    rw [last] at afterMiddle
    have ending := carried.step rowInside (by omega) afterMiddle
    rw [Nat.sub_add_cancel notEmpty] at ending
    exact ending.mono fun scan holds => carried.newRow holds
  · case isFalse single =>
    have last : 1 + (image.columns - 2) = image.columns := by omega
    rw [last] at afterMiddle
    exact carried.newRow afterMiddle

/-- What every step passes on holds at the end of the scan. -/
theorem Carried.scanImage
    (background : isBackground 0 = true)
    (rows : 0 < image.rows)
    (columns : 0 < image.columns)
    {scan : Scan}
    (start : motive 0 0 scan) :
    Holds (motive image.rows 0) bad
      (scanImage connectivity isBackground image scan) := by
  apply (carried.scanFirstRow rows start).bind
  intro scan afterFirst
  have rest := holds_foldlM_range (fun row scan => motive row 0 scan) bad
    (DenoiseLayer.scanRow connectivity isBackground image) (image.rows - 1)
    afterFirst
    fun row scan atLeast below holds =>
      carried.scanRow background columns (by omega) (by omega) holds
  have last : 1 + (image.rows - 1) = image.rows := by omega
  rwa [last] at rest

end

end Induction

end DenoiseLayer

end NavBim
