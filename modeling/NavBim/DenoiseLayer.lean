import NavBim.Costmap2D
import NavBim.PixelGroups
import NavBim.PixelImage

namespace NavBim

/-!
# The fast filter of the denoise layer

The layer takes small groups of obstacles out of a costmap.  Single obstacles
are found without looking for groups.  An image of the greatest costs among the
neighbours of each pixel is made, by a dilation with a shape that leaves out the
pixel itself.  The shape is applied row by row, first its row in the middle, then
the one above and the one below.  An obstacle whose neighbours have no greater
cost than free space goes.

The dilation only knows costs.  Whether an unknown pixel is an obstacle or free
depends on a setting, and then the greatest cost is the one or the other.
-/

namespace DenoiseLayer

section Model

/-- A costmap with a default value other than unknown takes unknown pixels for
obstacles. -/
def isBackground
    (noInformationIsObstacle : Bool)
    (pixel : UInt8) : Bool :=
  let isObstacle :=
    pixel = lethalObstacle ∨
      pixel = inscribedInflatedObstacle ∨
      (pixel = noInformation ∧ noInformationIsObstacle)
  ¬ isObstacle

/-- The pixels of one shape row over an image. -/
abbrev Overlay := UInt8 × UInt8 × UInt8

def createShape : ConnectivityType → Image UInt8
  | .way8 => {
      rows := 3
      columns := 3
      pixels := #v[
        255, 255, 255,
        255, 0, 255,
        255, 255, 255]
    }
  | .way4 => {
      rows := 3
      columns := 3
      pixels := #v[
        0, 255, 0,
        255, 0, 255,
        0, 255, 0]
    }

/-- A row of the shape around a pixel.  Beside the image there are zeros. -/
def overlay
    (input : Image UInt8)
    (shape : Image UInt8)
    (shapeRow row column : Nat) : Overlay :=
  let applyShape (value : UInt8) (index : Nat) : UInt8 :=
    value &&& shape.get shapeRow index
  if input.columns = 1 then
    (0, applyShape (input.get row 0) 1, 0)
  else if column = 0 then
    (0, applyShape (input.get row 0) 1, applyShape (input.get row 1) 2)
  else if column = input.columns - 1 then
    (applyShape (input.get row (column - 1)) 0,
      applyShape (input.get row column) 1, 0)
  else
    (applyShape (input.get row (column - 1)) 0,
      applyShape (input.get row column) 1,
      applyShape (input.get row (column + 1)) 2)

/-- Go through rows of both images and touch each pixel of the output. -/
def probeRows
    (input : Image UInt8)
    (firstInputRow : Nat)
    (output : Image UInt8)
    (firstOutputRow : Nat)
    (shape : Image UInt8)
    (shapeRow : Nat)
    (touch : UInt8 → Overlay → UInt8) : Image UInt8 :=
  let rows := input.rows - max firstInputRow firstOutputRow
  output.mapPixels fun row column pixel =>
    if firstOutputRow ≤ row ∧ row < firstOutputRow + rows then
      touch pixel (overlay input shape shapeRow
        (row - firstOutputRow + firstInputRow) column)
    else
      pixel

def morphologyOperation
    (input output shape : Image UInt8)
    (aggregate : Overlay → UInt8) : Except String (Image UInt8) :=
  if input.rows ≠ output.rows ∨ input.columns ≠ output.columns then
    .error ("morphologyOperation: the sizes of the input and output images " ++
      "are different")
  else if shape.rows ≠ 3 ∨ shape.columns ≠ 3 then
    .error "morphologyOperation: wrong shape size"
  else if input.isEmpty then
    .ok output
  else
    let set (_ : UInt8) (pixels : Overlay) : UInt8 := aggregate pixels
    let update (pixel : UInt8) (pixels : Overlay) : UInt8 :=
      aggregate (pixel, aggregate pixels, 0)
    let central := probeRows input 0 output 0 shape 1 set
    if 1 < input.rows then
      let top := probeRows input 0 central 1 shape 0 update
      .ok (probeRows input 1 top 0 shape 2 update)
    else
      .ok central

def dilate
    (input output : Image UInt8)
    (connectivity : ConnectivityType)
    (maxFunction : Overlay → UInt8) : Except String (Image UInt8) :=
  morphologyOperation input output (createShape connectivity) maxFunction

def replaceToFree
    (pixel : UInt8) : UInt8 :=
  if pixel = noInformation then freeSpace else pixel

/-- The greatest cost.  Unknown pixels count as free if they are no obstacles. -/
def maxCost
    (noInformationIsObstacle : Bool)
    (pixels : Overlay) : UInt8 :=
  if noInformationIsObstacle then
    max (max pixels.1 pixels.2.1) pixels.2.2
  else
    max (max (replaceToFree pixels.1) (replaceToFree pixels.2.1))
      (replaceToFree pixels.2.2)

/-- Change each pixel of an image with the pixel of another one. -/
def convert
    {α : Type}
    [Zero α]
    (source : Image α)
    (target : Image UInt8)
    (converter : α → UInt8 → UInt8) : Except String (Image UInt8) :=
  if source.rows ≠ target.rows ∨ source.columns ≠ target.columns then
    .error ("Image::convert. The source and target images size are different")
  else
    .ok (target.mapPixels fun row column pixel =>
      converter (source.get row column) pixel)

/-- Remove obstacles without a neighbour.  The buffer holds what was there. -/
def removeSinglePixels
    (noInformationIsObstacle : Bool)
    (connectivity : ConnectivityType)
    (buffer : Nat → Nat → UInt8)
    (image : Image UInt8) : Except String (Image UInt8) := do
  let maxNeighbors ← dilate image (.ofPixels image.rows image.columns buffer)
    connectivity (maxCost noInformationIsObstacle)
  convert maxNeighbors image fun maxNeighbor pixel =>
    if !isBackground noInformationIsObstacle pixel &&
        isBackground noInformationIsObstacle maxNeighbor then
      freeSpace
    else
      pixel

end Model

section Costs

variable {noInformationIsObstacle : Bool}

def IsObstacle
    (noInformationIsObstacle : Bool)
    (pixel : UInt8) : Prop :=
  isBackground noInformationIsObstacle pixel = false

instance
    (noInformationIsObstacle : Bool)
    (pixel : UInt8) : Decidable (IsObstacle noInformationIsObstacle pixel) :=
  inferInstanceAs (Decidable (_ = _))

theorem toNat_max
    (first second : UInt8) :
    (max first second).toNat = max first.toNat second.toNat := by
  rw [Costmap2D.max_eq_ite]
  split <;> rw [UInt8.le_iff_toNat_le] at * <;> omega

theorem isObstacle_true_iff
    (pixel : UInt8) :
    IsObstacle true pixel ↔ 253 ≤ pixel.toNat := by
  have bound := pixel.toNat_lt
  simp only [IsObstacle, isBackground, lethalObstacle,
    inscribedInflatedObstacle, noInformation, ← UInt8.toNat_inj]
  simp
  omega

theorem isObstacle_false_iff
    (pixel : UInt8) :
    IsObstacle false pixel ↔ 253 ≤ (replaceToFree pixel).toNat := by
  have bound := pixel.toNat_lt
  simp only [IsObstacle, isBackground, replaceToFree, lethalObstacle,
    inscribedInflatedObstacle, noInformation, freeSpace, ← UInt8.toNat_inj]
  simp
  split
  · simp
    omega
  · omega

theorem toNat_replaceToFree_lt
    (pixel : UInt8) :
    (replaceToFree pixel).toNat < 255 := by
  have bound := pixel.toNat_lt
  simp only [replaceToFree, noInformation, freeSpace, ← UInt8.toNat_inj]
  split
  · simp
  · rename_i known
    simp at known
    omega

theorem isObstacle_maxCost
    (pixels : Overlay) :
    IsObstacle noInformationIsObstacle
        (maxCost noInformationIsObstacle pixels) ↔
      IsObstacle noInformationIsObstacle pixels.1 ∨
        IsObstacle noInformationIsObstacle pixels.2.1 ∨
        IsObstacle noInformationIsObstacle pixels.2.2 := by
  obtain ⟨left, centre, right⟩ := pixels
  cases noInformationIsObstacle with
  | true =>
      simp only [isObstacle_true_iff, maxCost, if_true, toNat_max]
      omega
  | false =>
      have first := toNat_replaceToFree_lt left
      have second := toNat_replaceToFree_lt centre
      have third := toNat_replaceToFree_lt right
      have kept (pixel : UInt8) (known : pixel.toNat < 255) :
          replaceToFree pixel = pixel := by
        apply if_neg
        rintro rfl
        exact absurd known (by decide)
      rw [isObstacle_false_iff, maxCost, if_neg Bool.false_ne_true]
      dsimp only
      rw [kept, isObstacle_false_iff, isObstacle_false_iff, isObstacle_false_iff,
        toNat_max, toNat_max]
      · omega
      · rw [toNat_max, toNat_max]
        omega

theorem not_isObstacle_zero :
    ¬ IsObstacle noInformationIsObstacle 0 := by
  cases noInformationIsObstacle <;> decide

theorem isObstacle_and_shape
    {mask : UInt8}
    (binary : mask = 0 ∨ mask = 255)
    (pixel : UInt8) :
    IsObstacle noInformationIsObstacle (pixel &&& mask) ↔
      mask = 255 ∧ IsObstacle noInformationIsObstacle pixel := by
  rcases binary with rfl | rfl
  · simp [not_isObstacle_zero]
  · have kept : pixel &&& 255 = pixel := UInt8.and_neg_one
    simp [kept]

end Costs

section Dilation

variable
  {noInformationIsObstacle : Bool}
  {input output shape : Image UInt8}
  {row column : Nat}

/-- An obstacle among the pixels of a row that the shape keeps. -/
def RowHasObstacle
    (noInformationIsObstacle : Bool)
    (input shape : Image UInt8)
    (shapeRow row column : Nat) : Prop :=
  (shape.get shapeRow 0 = 255 ∧ 0 < column ∧
      IsObstacle noInformationIsObstacle (input.get row (column - 1))) ∨
    (shape.get shapeRow 1 = 255 ∧
      IsObstacle noInformationIsObstacle (input.get row column)) ∨
    (shape.get shapeRow 2 = 255 ∧
      IsObstacle noInformationIsObstacle (input.get row (column + 1)))

theorem not_isObstacle_outside
    (outside : ¬ input.Inside row column) :
    ¬ IsObstacle noInformationIsObstacle (input.get row column) := by
  rw [Image.get_outside outside]
  exact not_isObstacle_zero

theorem isObstacle_overlay
    {shapeRow : Nat}
    (binary : ∀ index,
      shape.get shapeRow index = 0 ∨ shape.get shapeRow index = 255)
    (inside : column < input.columns) :
    IsObstacle noInformationIsObstacle
        (maxCost noInformationIsObstacle
          (overlay input shape shapeRow row column)) ↔
      RowHasObstacle noInformationIsObstacle input shape shapeRow row
        column := by
  have notZero := @not_isObstacle_zero noInformationIsObstacle
  have kept (index : Nat) (pixel : UInt8) :
      IsObstacle noInformationIsObstacle (pixel &&& shape.get shapeRow index) ↔
        shape.get shapeRow index = 255 ∧
          IsObstacle noInformationIsObstacle pixel :=
    isObstacle_and_shape (binary index) pixel
  have last (isLast : column + 1 = input.columns) :
      ¬ IsObstacle noInformationIsObstacle (input.get row (column + 1)) := by
    apply not_isObstacle_outside
    intro isInside
    exact absurd isInside.2 (by omega)
  rw [isObstacle_maxCost, RowHasObstacle, overlay]
  by_cases single : input.columns = 1
  · obtain rfl : column = 0 := by omega
    simp [single, kept, notZero, last (by omega)]
  · by_cases isFirst : column = 0
    · subst isFirst
      simp [single, kept, notZero]
    · have notFirst : 0 < column := Nat.pos_of_ne_zero isFirst
      by_cases isLast : column = input.columns - 1
      · rw [if_neg single, if_neg isFirst, if_pos isLast]
        simp [kept, notZero, notFirst, last (by omega)]
      · rw [if_neg single, if_neg isFirst, if_neg isLast]
        simp [kept, notFirst]

theorem not_rowHasObstacle_below
    {shapeRow : Nat}
    (outside : input.rows ≤ row) :
    ¬ RowHasObstacle noInformationIsObstacle input shape shapeRow row
      column := by
  have nothing (other : Nat) :
      ¬ IsObstacle noInformationIsObstacle (input.get row other) :=
    not_isObstacle_outside fun inside => absurd inside.1 (Nat.not_lt.mpr outside)
  rintro (⟨-, -, isObstacle⟩ | ⟨-, isObstacle⟩ | ⟨-, isObstacle⟩)
  all_goals exact nothing _ isObstacle

theorem get_probeRows
    (firstInputRow firstOutputRow shapeRow : Nat)
    (touch : UInt8 → Overlay → UInt8)
    (inside : output.Inside row column) :
    (probeRows input firstInputRow output firstOutputRow shape shapeRow
        touch).get row column =
      if firstOutputRow ≤ row ∧
          row < firstOutputRow +
            (input.rows - max firstInputRow firstOutputRow) then
        touch (output.get row column) (overlay input shape shapeRow
          (row - firstOutputRow + firstInputRow) column)
      else
        output.get row column :=
  Image.get_mapPixels _ inside

theorem createShape_size
    (connectivity : ConnectivityType) :
    ¬ ((createShape connectivity).rows ≠ 3 ∨
      (createShape connectivity).columns ≠ 3) := by
  cases connectivity <;> decide

theorem createShape_binary
    (connectivity : ConnectivityType)
    (shapeRow index : Nat) :
    (createShape connectivity).get shapeRow index = 0 ∨
      (createShape connectivity).get shapeRow index = 255 := by
  by_cases inside : (createShape connectivity).Inside shapeRow index
  · cases connectivity with
    | way4 =>
        obtain ⟨row, column⟩ : shapeRow < 3 ∧ index < 3 := inside
        interval_cases shapeRow <;> interval_cases index <;> decide
    | way8 =>
        obtain ⟨row, column⟩ : shapeRow < 3 ∧ index < 3 := inside
        interval_cases shapeRow <;> interval_cases index <;> decide
  · exact .inl (Image.get_outside inside)

theorem isObstacle_probeRows_update
    {firstInputRow firstOutputRow shapeRow : Nat}
    (binary : ∀ index,
      shape.get shapeRow index = 0 ∨ shape.get shapeRow index = 255)
    (inside : output.Inside row column)
    (columnInside : column < input.columns) :
    IsObstacle noInformationIsObstacle
        ((probeRows input firstInputRow output firstOutputRow shape shapeRow
          fun pixel pixels => maxCost noInformationIsObstacle
            (pixel, maxCost noInformationIsObstacle pixels, 0)).get
          row column) ↔
      IsObstacle noInformationIsObstacle (output.get row column) ∨
        ((firstOutputRow ≤ row ∧
            row < firstOutputRow +
              (input.rows - max firstInputRow firstOutputRow)) ∧
          RowHasObstacle noInformationIsObstacle input shape shapeRow
            (row - firstOutputRow + firstInputRow) column) := by
  rw [get_probeRows _ _ _ _ inside]
  split
  · case isTrue isRow =>
    rw [isObstacle_maxCost]
    dsimp only
    rw [isObstacle_overlay binary columnInside]
    simp [isRow, not_isObstacle_zero]
  · case isFalse notRow => simp [notRow]

/-- What the rows of a shape find around a pixel. -/
theorem isObstacle_dilate
    (connectivity : ConnectivityType)
    (sameRows : output.rows = input.rows)
    (sameColumns : output.columns = input.columns)
    (notEmpty : input.isEmpty = false) :
    ∃ after,
      dilate input output connectivity (maxCost noInformationIsObstacle) =
        .ok after ∧
      after.rows = input.rows ∧ after.columns = input.columns ∧
      ∀ row < input.rows, ∀ column < input.columns,
        (IsObstacle noInformationIsObstacle (after.get row column) ↔
          RowHasObstacle noInformationIsObstacle input
              (createShape connectivity) 1 row column ∨
            (0 < row ∧ RowHasObstacle noInformationIsObstacle input
              (createShape connectivity) 0 (row - 1) column) ∨
            RowHasObstacle noInformationIsObstacle input
              (createShape connectivity) 2 (row + 1) column) := by
  have binary := createShape_binary connectivity
  rw [dilate, morphologyOperation, if_neg (by simp [sameRows, sameColumns]),
    if_neg (createShape_size connectivity), if_neg (by simp [notEmpty])]
  dsimp only
  have inside {row column : Nat}
      (rowInside : row < input.rows)
      (columnInside : column < input.columns) : output.Inside row column :=
    ⟨rowInside.trans_eq sameRows.symm, columnInside.trans_eq sameColumns.symm⟩
  have central {row column : Nat}
      (rowInside : row < input.rows)
      (columnInside : column < input.columns) :
      IsObstacle noInformationIsObstacle
          ((probeRows input 0 output 0 (createShape connectivity) 1
            fun _ pixels => maxCost noInformationIsObstacle pixels).get
              row column) ↔
        RowHasObstacle noInformationIsObstacle input
          (createShape connectivity) 1 row column := by
    have isRow : 0 ≤ row ∧ row < 0 + (input.rows - max 0 0) := by omega
    rw [get_probeRows _ _ _ _ (inside rowInside columnInside), if_pos isRow]
    exact isObstacle_overlay (binary 1) columnInside
  have below {row column : Nat} (last : input.rows ≤ row + 1) :
      ¬ RowHasObstacle noInformationIsObstacle input
        (createShape connectivity) 2 (row + 1) column :=
    not_rowHasObstacle_below last
  split
  · case isTrue several =>
    refine ⟨_, rfl, sameRows, sameColumns, ?_⟩
    intro row rowInside column columnInside
    have isInside := inside rowInside columnInside
    apply (isObstacle_probeRows_update (binary 2) (by exact isInside)
      columnInside).trans
    rw [isObstacle_probeRows_update (binary 0) (by exact isInside)
      columnInside, central rowInside columnInside, or_assoc]
    refine or_congr_right (or_congr (and_congr_left fun _ => ?_) ?_)
    · omega
    · constructor
      · exact And.right
      · intro isObstacle
        refine ⟨?_, isObstacle⟩
        by_contra lastRow
        exact below (by omega) isObstacle
  · case isFalse single =>
    refine ⟨_, rfl, sameRows, sameColumns, ?_⟩
    intro row rowInside column columnInside
    rw [central rowInside columnInside, or_iff_left]
    rintro (⟨notFirst, -⟩ | isObstacle)
    · omega
    · exact below (by omega) isObstacle

theorem createShape_uses
    (connectivity : ConnectivityType)
    {shapeRow index : Nat}
    (rowInside : shapeRow < 3)
    (indexInside : index < 3) :
    (createShape connectivity).get shapeRow index = 255 ↔
      Adjacent connectivity (1, 1) (shapeRow, index) := by
  cases connectivity with
  | way4 => interval_cases shapeRow <;> interval_cases index <;> decide
  | way8 => interval_cases shapeRow <;> interval_cases index <;> decide

theorem rowsHaveObstacle_iff
    (connectivity : ConnectivityType) :
    (RowHasObstacle noInformationIsObstacle input
          (createShape connectivity) 1 row column ∨
        (0 < row ∧ RowHasObstacle noInformationIsObstacle input
          (createShape connectivity) 0 (row - 1) column) ∨
        RowHasObstacle noInformationIsObstacle input
          (createShape connectivity) 2 (row + 1) column) ↔
      ∃ pixel, Adjacent connectivity (row, column) pixel ∧
        IsObstacle noInformationIsObstacle (input.get pixel.1 pixel.2) := by
  cases connectivity with
  | way4 =>
      rw [exists_adjacent_way4 fun row column =>
        IsObstacle noInformationIsObstacle (input.get row column)]
      simp [RowHasObstacle, createShape_uses, Adjacent]
  | way8 =>
      rw [exists_adjacent_way8 fun row column =>
        IsObstacle noInformationIsObstacle (input.get row column)]
      simp [RowHasObstacle, createShape_uses, Adjacent]

end Dilation

section Filter

variable
  {noInformationIsObstacle : Bool}
  {connectivity : ConnectivityType}
  {image : Image UInt8}
  {row column : Nat}

/-- An obstacle without an obstacle among its neighbours in the image. -/
structure IsSingle
    (noInformationIsObstacle : Bool)
    (connectivity : ConnectivityType)
    (image : Image UInt8)
    (row column : Nat) : Prop where
  obstacle : IsObstacle noInformationIsObstacle (image.get row column)
  alone : ∀ other : PixelPosition, image.Inside other.1 other.2 →
    Adjacent connectivity (row, column) other →
      ¬ IsObstacle noInformationIsObstacle (image.get other.1 other.2)

/-- The greatest cost among the neighbours tells the single obstacles. -/
theorem isSingle_iff
    {maxNeighbor : UInt8}
    (greatest : IsObstacle noInformationIsObstacle maxNeighbor ↔
      ∃ pixel, Adjacent connectivity (row, column) pixel ∧
        IsObstacle noInformationIsObstacle (image.get pixel.1 pixel.2)) :
    IsSingle noInformationIsObstacle connectivity image row column ↔
      IsObstacle noInformationIsObstacle (image.get row column) ∧
        ¬ IsObstacle noInformationIsObstacle maxNeighbor := by
  rw [greatest]
  constructor
  · rintro ⟨obstacle, alone⟩
    refine ⟨obstacle, ?_⟩
    rintro ⟨other, adjacent, isObstacle⟩
    by_cases inside : image.Inside other.1 other.2
    · exact alone other inside adjacent isObstacle
    · exact not_isObstacle_outside inside isObstacle
  · rintro ⟨obstacle, nowhere⟩
    exact ⟨obstacle, fun other _ adjacent isObstacle =>
      nowhere ⟨other, adjacent, isObstacle⟩⟩

theorem isSingle_iff_group
    (inside : image.Inside row column) :
    IsSingle noInformationIsObstacle connectivity image row column ↔
      Foreground image (isBackground noInformationIsObstacle) (row, column) ∧
        (group connectivity
          (Foreground image (isBackground noInformationIsObstacle))
          (row, column)).ncard < 2 := by
  have finite := foreground_finite image (isBackground noInformationIsObstacle)
  constructor
  · rintro ⟨obstacle, alone⟩
    have isForeground :
        Foreground image (isBackground noInformationIsObstacle)
          (row, column) :=
      ⟨inside, obstacle⟩
    refine ⟨isForeground, (group_ncard_lt_two_iff finite isForeground).mpr ?_⟩
    intro other otherForeground adjacent
    exact alone other otherForeground.1 adjacent otherForeground.2
  · rintro ⟨isForeground, small⟩
    have alone := (group_ncard_lt_two_iff finite isForeground).mp small
    exact ⟨isForeground.2, fun other otherInside adjacent isObstacle =>
      alone other ⟨otherInside, isObstacle⟩ adjacent⟩

/-- The dilation never fails, and it finds the neighbours of each pixel. -/
theorem dilate_neighbours
    (noInformationIsObstacle : Bool)
    (connectivity : ConnectivityType)
    (buffer : Nat → Nat → UInt8)
    (image : Image UInt8) :
    ∃ neighbors,
      dilate image (.ofPixels image.rows image.columns buffer) connectivity
          (maxCost noInformationIsObstacle) = .ok neighbors ∧
        neighbors.rows = image.rows ∧ neighbors.columns = image.columns ∧
        ∀ row column, image.Inside row column →
          (IsObstacle noInformationIsObstacle (neighbors.get row column) ↔
            ∃ pixel, Adjacent connectivity (row, column) pixel ∧
              IsObstacle noInformationIsObstacle
                (image.get pixel.1 pixel.2)) := by
  cases isEmpty : image.isEmpty with
  | true =>
      have nothing (row column : Nat) : ¬ image.Inside row column := by
        simp only [Image.isEmpty, decide_eq_true_eq] at isEmpty
        rintro ⟨rowInside, columnInside⟩
        omega
      refine ⟨.ofPixels image.rows image.columns buffer, ?_, rfl, rfl, ?_⟩
      · rw [dilate, morphologyOperation, if_neg (by simp),
          if_neg (createShape_size connectivity), if_pos isEmpty]
      · intro row column inside
        exact absurd inside (nothing row column)
  | false =>
      obtain ⟨neighbors, isDilated, rows, columns, found⟩ := isObstacle_dilate
        connectivity (Image.ofPixels_rows image.rows image.columns buffer)
        (Image.ofPixels_columns image.rows image.columns buffer) isEmpty
      refine ⟨neighbors, isDilated, rows, columns, ?_⟩
      intro row column inside
      rw [found row inside.1 column inside.2, rowsHaveObstacle_iff]

/-- Exactly the single obstacles become free, as if groups of fewer than two
pixels were removed. -/
theorem removeSinglePixels_removed
    (noInformationIsObstacle : Bool)
    (connectivity : ConnectivityType)
    (buffer : Nat → Nat → UInt8)
    (image : Image UInt8) :
    ∃ after,
      removeSinglePixels noInformationIsObstacle connectivity buffer image =
        .ok after ∧
      (∀ row column, image.Inside row column →
        (IsSingle noInformationIsObstacle connectivity image row column →
          after.get row column = freeSpace) ∧
        (¬ IsSingle noInformationIsObstacle connectivity image row column →
          after.get row column = image.get row column)) ∧
      GroupsRemoved connectivity (isBackground noInformationIsObstacle) 2
        image after := by
  obtain ⟨neighbors, isDilated, rows, columns, found⟩ :=
    dilate_neighbours noInformationIsObstacle connectivity buffer image
  have pixels : ∃ after,
      removeSinglePixels noInformationIsObstacle connectivity buffer image =
        .ok after ∧
      after.rows = image.rows ∧ after.columns = image.columns ∧
      ∀ row column, image.Inside row column →
        (IsSingle noInformationIsObstacle connectivity image row column →
          after.get row column = freeSpace) ∧
        (¬ IsSingle noInformationIsObstacle connectivity image row column →
          after.get row column = image.get row column) := by
    rw [removeSinglePixels, isDilated]
    refine ⟨_, if_neg (by simp [rows, columns]), rfl, rfl, ?_⟩
    intro row column inside
    rw [Image.get_mapPixels _ inside, isSingle_iff (found row column inside)]
    simp only [IsObstacle]
    constructor
    · rintro ⟨isObstacle, notMax⟩
      simp [isObstacle, notMax]
    · intro notSingle
      apply if_neg
      simpa using notSingle
  obtain ⟨after, isAfter, afterRows, afterColumns, changed⟩ := pixels
  refine ⟨after, isAfter, changed, afterRows, afterColumns, ?_, ?_⟩
  · intro row column isForeground small
    exact (changed row column isForeground.1).1
      ((isSingle_iff_group isForeground.1).mpr ⟨isForeground, small⟩)
  · intro row column inside large
    apply (changed row column inside).2
    intro single
    obtain ⟨isForeground, small⟩ := (isSingle_iff_group inside).mp single
    exact absurd (large isForeground) (Nat.not_le.mpr small)

end Filter

end DenoiseLayer

end NavBim
