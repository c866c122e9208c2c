import Mathlib.Data.Nat.Basic
import Mathlib.Tactic
import NavBim.GuardedWrites

namespace NavBim

/-!
# Images

An image is stored row by row.  Pixels beside the image read as zero, and
writing there changes nothing.
-/

structure Image (α : Type) where
  rows : Nat
  columns : Nat
  pixels : Vector α (rows * columns)

namespace Image

variable {α β : Type}

def Inside
    (image : Image α)
    (row column : Nat) : Prop :=
  row < image.rows ∧ column < image.columns

instance
    (image : Image α)
    (row column : Nat) : Decidable (image.Inside row column) :=
  inferInstanceAs (Decidable (_ ∧ _))

def isEmpty
    (image : Image α) : Bool :=
  image.rows = 0 ∨ image.columns = 0

theorem position_lt
    {rows columns row column : Nat}
    (inside : row < rows ∧ column < columns) :
    row * columns + column < rows * columns :=
  (rowMajor_lt inside.1 inside.2).trans_eq (Nat.mul_comm columns rows)

def get
    [Zero α]
    (image : Image α)
    (row column : Nat) : α :=
  if inside : image.Inside row column then
    have bound := position_lt inside
    image.pixels[row * image.columns + column]
  else
    0

def set
    (image : Image α)
    (row column : Nat)
    (value : α) : Image α where
  rows := image.rows
  columns := image.columns
  pixels :=
    if inside : image.Inside row column then
      image.pixels.set (row * image.columns + column) value
        (position_lt inside)
    else
      image.pixels

/-- The image with given pixels. -/
def ofPixels
    (rows columns : Nat)
    (pixel : Nat → Nat → α) : Image α where
  rows := rows
  columns := columns
  pixels := .ofFn fun position =>
    pixel (position.val / columns) (position.val % columns)

/-- Every pixel is changed on its own. -/
def mapPixels
    [Zero α]
    (change : Nat → Nat → α → β)
    (image : Image α) : Image β :=
  ofPixels image.rows image.columns fun row column =>
    change row column (image.get row column)

@[simp] theorem set_rows
    (image : Image α)
    (row column : Nat)
    (value : α) :
    (image.set row column value).rows = image.rows :=
  rfl

@[simp] theorem set_columns
    (image : Image α)
    (row column : Nat)
    (value : α) :
    (image.set row column value).columns = image.columns :=
  rfl

@[simp] theorem ofPixels_rows
    (rows columns : Nat)
    (pixel : Nat → Nat → α) :
    (ofPixels rows columns pixel).rows = rows :=
  rfl

@[simp] theorem ofPixels_columns
    (rows columns : Nat)
    (pixel : Nat → Nat → α) :
    (ofPixels rows columns pixel).columns = columns :=
  rfl

section Reading

variable [Zero α] {image : Image α} {row column : Nat}

/-- Beside the image there is nothing. -/
theorem get_outside
    (outside : ¬ image.Inside row column) :
    image.get row column = 0 :=
  dif_neg outside

theorem get_ofPixels
    {rows columns : Nat}
    (pixel : Nat → Nat → α)
    (inside : row < rows ∧ column < columns) :
    (ofPixels rows columns pixel).get row column = pixel row column := by
  refine (dif_pos inside).trans ?_
  simp [ofPixels, rowMajor_div inside.2, rowMajor_mod inside.2]

theorem get_mapPixels
    [Zero β]
    (change : Nat → Nat → α → β)
    (inside : image.Inside row column) :
    (image.mapPixels change).get row column =
      change row column (image.get row column) :=
  get_ofPixels _ inside

theorem get_set_self
    (value : α)
    (inside : image.Inside row column) :
    (image.set row column value).get row column = value := by
  have written :
      (image.set row column value).pixels =
        image.pixels.set (row * image.columns + column) value
          (position_lt inside) :=
    dif_pos inside
  have after : (image.set row column value).Inside row column := inside
  rw [get, dif_pos after]
  simp [written]

theorem get_set_other
    {row' column' : Nat}
    (value : α)
    (different : ¬ (row' = row ∧ column' = column)) :
    (image.set row column value).get row' column' =
      image.get row' column' := by
  have sameInside :
      (image.set row column value).Inside row' column' ↔
        image.Inside row' column' :=
    Iff.rfl
  by_cases inside' : image.Inside row' column'
  · rw [get, dif_pos (sameInside.mpr inside'), get, dif_pos inside']
    by_cases inside : image.Inside row column
    · have written :
          (image.set row column value).pixels =
            image.pixels.set (row * image.columns + column) value
              (position_lt inside) :=
        dif_pos inside
      have apart :
          row * image.columns + column ≠ row' * image.columns + column' := by
        intro same
        obtain ⟨sameRow, sameColumn⟩ := rowMajor_inj inside.2 inside'.2 same
        exact different ⟨sameRow.symm, sameColumn.symm⟩
      simp [written, apart]
    · have unwritten :
          (image.set row column value).pixels = image.pixels :=
        dif_neg inside
      simp [unwritten]
  · rw [get_outside (sameInside.not.mpr inside'), get_outside inside']

end Reading

end Image

end NavBim
