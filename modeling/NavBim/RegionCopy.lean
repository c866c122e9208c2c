import Mathlib.Data.Int.Order.Basic
import Mathlib.Tactic

namespace NavBim

/-!
# Copying a rectangle between two grids

A grid is stored row by row.  A rectangle is copied row by row, each row as a
run of cells between two positions, and the positions advance by the widths of
the two grids.  A run may start anywhere as long as it is empty; apart from
that a read or a write outside a grid ends the copy without a result.
-/

variable
  {α : Type}
  {sourceSize destSize : Nat}
  {source : Vector α sourceSize}

section Copy

def readAt
    (source : Vector α sourceSize)
    (position : ℤ) : Option α :=
  if position < 0 then
    none
  else
    source[position.toNat]?

def writeAt
    (dest : Vector α destSize)
    (position : ℤ)
    (value : α) : Option (Vector α destSize) :=
  if inside : 0 ≤ position ∧ position.toNat < destSize then
    some (dest.set position.toNat value inside.2)
  else
    none

/-- Copy a run of cells. -/
def copyRun
    (source : Vector α sourceSize)
    (sourceIndex destIndex : ℤ) :
    Nat → Vector α destSize → Option (Vector α destSize)
  | 0, dest => some dest
  | count + 1, dest => do
      let copied ← copyRun source sourceIndex destIndex count dest
      let value ← readAt source (sourceIndex + count)
      writeAt copied (destIndex + count) value

/-- Copy a number of rows of a rectangle. -/
def copyRows
    (source : Vector α sourceSize)
    (sourceWidth destWidth regionWidth : Nat) :
    Nat → ℤ → ℤ → Vector α destSize → Option (Vector α destSize)
  | 0, _, _, dest => some dest
  | rows + 1, sourceIndex, destIndex, dest => do
      let copied ← copyRun source sourceIndex destIndex regionWidth dest
      copyRows source sourceWidth destWidth regionWidth rows
        (sourceIndex + sourceWidth) (destIndex + destWidth) copied

end Copy

section Runs

theorem readAt_natCast
    (position : Nat) :
    readAt source position = source[position]? := by
  have notNegative : ¬ (position : ℤ) < 0 := Int.not_lt.mpr (Int.natCast_nonneg _)
  rw [readAt, if_neg notNegative, Int.toNat_natCast]

theorem writeAt_natCast
    {position : Nat}
    (inside : position < destSize)
    (dest : Vector α destSize)
    (value : α) :
    writeAt dest position value = some (dest.set position value inside) := by
  have bounds : (0 : ℤ) ≤ position ∧ (position : ℤ).toNat < destSize :=
    ⟨Int.natCast_nonneg _, inside⟩
  rw [writeAt, dif_pos bounds]
  rfl

/-- A run inside both grids is copied, and the other cells stay. -/
theorem copyRun_inside
    {sourceIndex destIndex count : Nat}
    (sourceInside : sourceIndex + count ≤ sourceSize)
    (destInside : destIndex + count ≤ destSize)
    (dest : Vector α destSize) :
    ∃ after,
      copyRun source sourceIndex destIndex count dest = some after ∧
        ∀ position : Nat, after[position]? =
          if destIndex ≤ position ∧ position < destIndex + count then
            source[sourceIndex + (position - destIndex)]?
          else
            dest[position]? := by
  induction count with
  | zero =>
      refine ⟨dest, rfl, ?_⟩
      intro position
      rw [if_neg (by omega)]
  | succ count inductionHypothesis =>
      obtain ⟨copied, isCopied, cells⟩ :=
        inductionHypothesis (by omega) (by omega)
      have sourceHas : sourceIndex + count < sourceSize := by omega
      have destHas : destIndex + count < destSize := by omega
      refine ⟨copied.set (destIndex + count) source[sourceIndex + count]
        destHas, ?_, ?_⟩
      · have read :
            readAt source ((sourceIndex + count : Nat) : ℤ) =
              some source[sourceIndex + count] := by
          rw [readAt_natCast, Vector.getElem?_eq_getElem sourceHas]
        have written := writeAt_natCast destHas copied
          source[sourceIndex + count]
        push_cast at read written
        rw [copyRun, isCopied, Option.bind_eq_bind, Option.bind_some, read,
          Option.bind_eq_bind, Option.bind_some, written]
      · intro position
        rw [Vector.getElem?_set destHas]
        by_cases isNew : destIndex + count = position
        · subst isNew
          rw [if_pos rfl, if_pos (by omega), Nat.add_sub_cancel_left,
            Vector.getElem?_eq_getElem sourceHas]
        · rw [if_neg isNew, cells position]
          by_cases inRun :
              destIndex ≤ position ∧ position < destIndex + count
          · rw [if_pos inRun, if_pos (by omega)]
          · rw [if_neg inRun, if_neg (by omega)]

end Runs

section Rows

/-- Rows without cells are not copied, wherever they are. -/
theorem copyRows_empty
    (sourceWidth destWidth rows : Nat)
    (dest : Vector α destSize) :
    ∀ sourceIndex destIndex : ℤ,
      copyRows source sourceWidth destWidth 0 rows sourceIndex destIndex dest =
        some dest := by
  induction rows with
  | zero =>
      intro sourceIndex destIndex
      rfl
  | succ rows inductionHypothesis =>
      intro sourceIndex destIndex
      exact inductionHypothesis _ _

/-- The positions of one row in a wider grid. -/
theorem inRun_iff
    {width left right row x y : Nat}
    (fits : right ≤ width)
    (inside : x < width) :
    (row * width + left ≤ y * width + x ∧
        y * width + x < row * width + right) ↔
      y = row ∧ left ≤ x ∧ x < right := by
  constructor
  · rintro ⟨lower, upper⟩
    obtain before | same | after := Nat.lt_trichotomy y row
    · have rows : (y + 1) * width ≤ row * width :=
        Nat.mul_le_mul_right width before
      rw [Nat.succ_mul] at rows
      omega
    · subst same
      omega
    · have rows : (row + 1) * width ≤ y * width :=
        Nat.mul_le_mul_right width after
      rw [Nat.succ_mul] at rows
      omega
  · rintro ⟨rfl, lower, upper⟩
    omega

/-- One row of a rectangle inside both grids is copied. -/
theorem copyRun_row
    {sourceWidth destWidth regionWidth sourceX destX sourceY destY : Nat}
    (sourceFits : sourceX + regionWidth ≤ sourceWidth)
    (destFits : destX + regionWidth ≤ destWidth)
    (sourceInside : (sourceY + 1) * sourceWidth ≤ sourceSize)
    (destInside : (destY + 1) * destWidth ≤ destSize)
    (dest : Vector α destSize) :
    ∃ after,
      copyRun source ((sourceY * sourceWidth + sourceX : Nat) : ℤ)
          ((destY * destWidth + destX : Nat) : ℤ) regionWidth dest =
        some after ∧
        ∀ x < destWidth, ∀ y : Nat, after[y * destWidth + x]? =
          if y = destY ∧ destX ≤ x ∧ x < destX + regionWidth then
            source[sourceY * sourceWidth + (sourceX + (x - destX))]?
          else
            dest[y * destWidth + x]? := by
  rw [Nat.succ_mul] at sourceInside destInside
  have sourceRun :
      sourceY * sourceWidth + sourceX + regionWidth ≤ sourceSize := by omega
  have destRun : destY * destWidth + destX + regionWidth ≤ destSize := by omega
  obtain ⟨after, isAfter, cells⟩ := copyRun_inside sourceRun destRun dest
  refine ⟨after, isAfter, ?_⟩
  intro x inside y
  rw [cells, Nat.add_assoc]
  simp only [inRun_iff destFits inside]
  split
  · case isTrue inRow =>
    obtain ⟨rfl, left, -⟩ := inRow
    congr 1
    omega
  · rfl

/-- A rectangle inside both grids is copied, and the other cells stay. -/
theorem copyRows_inside
    {sourceWidth destWidth regionWidth sourceX destX rows : Nat}
    (sourceFits : sourceX + regionWidth ≤ sourceWidth)
    (destFits : destX + regionWidth ≤ destWidth) :
    ∀ {sourceY destY : Nat} (dest : Vector α destSize),
      (sourceY + rows) * sourceWidth ≤ sourceSize →
      (destY + rows) * destWidth ≤ destSize →
        ∃ after,
          copyRows source sourceWidth destWidth regionWidth rows
              ((sourceY * sourceWidth + sourceX : Nat) : ℤ)
              ((destY * destWidth + destX : Nat) : ℤ) dest = some after ∧
            ∀ x < destWidth, ∀ y : Nat, after[y * destWidth + x]? =
              if (destX ≤ x ∧ x < destX + regionWidth) ∧
                  destY ≤ y ∧ y < destY + rows then
                source[(sourceY + (y - destY)) * sourceWidth +
                  (sourceX + (x - destX))]?
              else
                dest[y * destWidth + x]? := by
  induction rows with
  | zero =>
      intro sourceY destY dest _ _
      refine ⟨dest, rfl, ?_⟩
      intro x _ y
      rw [if_neg (by omega)]
  | succ rows inductionHypothesis =>
      intro sourceY destY dest sourceInside destInside
      have sourceRows : sourceY + (rows + 1) = sourceY + 1 + rows := by omega
      have destRows : destY + (rows + 1) = destY + 1 + rows := by omega
      rw [sourceRows] at sourceInside
      rw [destRows] at destInside
      have sourceRow : (sourceY + 1) * sourceWidth ≤ sourceSize :=
        (Nat.mul_le_mul_right _ (Nat.le_add_right _ rows)).trans sourceInside
      have destRow : (destY + 1) * destWidth ≤ destSize :=
        (Nat.mul_le_mul_right _ (Nat.le_add_right _ rows)).trans destInside
      obtain ⟨copied, isCopied, cells⟩ :=
        copyRun_row sourceFits destFits sourceRow destRow dest
      obtain ⟨after, isAfter, others⟩ :=
        inductionHypothesis copied sourceInside destInside
      refine ⟨after, ?_, ?_⟩
      · have sourceNext :
            ((sourceY * sourceWidth + sourceX : Nat) : ℤ) + sourceWidth =
              (((sourceY + 1) * sourceWidth + sourceX : Nat) : ℤ) := by
          push_cast
          ring
        have destNext :
            ((destY * destWidth + destX : Nat) : ℤ) + destWidth =
              (((destY + 1) * destWidth + destX : Nat) : ℤ) := by
          push_cast
          ring
        rw [copyRows, isCopied, Option.bind_eq_bind, Option.bind_some,
          sourceNext, destNext]
        exact isAfter
      · intro x inside y
        rw [others x inside y, cells x inside y]
        by_cases column : destX ≤ x ∧ x < destX + regionWidth
        · obtain above | rfl | below := Nat.lt_trichotomy y destY
          · rw [if_neg (by omega), if_neg (by omega), if_neg (by omega)]
          · rw [if_neg (by omega), if_pos ⟨rfl, column⟩,
              if_pos ⟨column, by omega⟩, Nat.sub_self, Nat.add_zero]
          · have row :
                sourceY + 1 + (y - (destY + 1)) = sourceY + (y - destY) := by
              omega
            rw [row]
            by_cases later : y < destY + 1 + rows
            · rw [if_pos ⟨column, below, later⟩, if_pos ⟨column, by omega⟩]
            · rw [if_neg (by omega), if_neg (by omega), if_neg (by omega)]
        · rw [if_neg (fun inside => column inside.1),
            if_neg (fun inside => column inside.2),
            if_neg (fun inside => column inside.1)]

end Rows

end NavBim
