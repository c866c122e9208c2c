import Mathlib
import NavBim.PixelImage

namespace NavBim

/-!
# Groups of connected pixels

Pixels are connected with four or with eight neighbours.  The group of a pixel
is what can be reached from it over neighbours that are in the foreground.
-/

inductive ConnectivityType where
  | way4
  | way8
  deriving Repr, DecidableEq

/-- A row and a column. -/
abbrev PixelPosition := Nat × Nat

def Adjacent
    (connectivity : ConnectivityType)
    (first second : PixelPosition) : Prop :=
  match connectivity with
  | .way4 =>
      (first.1 = second.1 ∧
        (first.2 + 1 = second.2 ∨ second.2 + 1 = first.2)) ∨
      (first.2 = second.2 ∧
        (first.1 + 1 = second.1 ∨ second.1 + 1 = first.1))
  | .way8 =>
      (first.1 ≠ second.1 ∨ first.2 ≠ second.2) ∧
        first.1 ≤ second.1 + 1 ∧ second.1 ≤ first.1 + 1 ∧
        first.2 ≤ second.2 + 1 ∧ second.2 ≤ first.2 + 1

instance
    (connectivity : ConnectivityType)
    (first second : PixelPosition) : Decidable (Adjacent connectivity first second) :=
  match connectivity with
  | .way4 => inferInstanceAs (Decidable (_ ∧ _ ∨ _ ∧ _))
  | .way8 => inferInstanceAs (Decidable (_ ∧ _))

/-- Neighbours that are both in the foreground. -/
structure PixelsLinked
    (connectivity : ConnectivityType)
    (foreground : PixelPosition → Prop)
    (first second : PixelPosition) : Prop where
  start : foreground first
  stop : foreground second
  adjacent : Adjacent connectivity first second

def group
    (connectivity : ConnectivityType)
    (foreground : PixelPosition → Prop)
    (pixel : PixelPosition) : Set PixelPosition :=
  {other | Relation.ReflTransGen (PixelsLinked connectivity foreground) pixel other}

section Groups

variable
  {connectivity : ConnectivityType}
  {foreground : PixelPosition → Prop}
  {first second third : PixelPosition}

theorem Adjacent.symm
    (adjacent : Adjacent connectivity first second) :
    Adjacent connectivity second first := by
  cases connectivity with
  | way4 =>
      simp only [Adjacent] at *
      omega
  | way8 =>
      simp only [Adjacent] at *
      omega

theorem Adjacent.ne
    (adjacent : Adjacent connectivity first second) :
    first ≠ second := by
  rintro rfl
  cases connectivity with
  | way4 =>
      simp only [Adjacent] at adjacent
      omega
  | way8 =>
      simp only [Adjacent] at adjacent
      omega

theorem PixelsLinked.symm
    (linked : PixelsLinked connectivity foreground first second) :
    PixelsLinked connectivity foreground second first where
  start := linked.stop
  stop := linked.start
  adjacent := linked.adjacent.symm

theorem mem_group_self :
    first ∈ group connectivity foreground first :=
  .refl

theorem mem_group_symm
    (member : second ∈ group connectivity foreground first) :
    first ∈ group connectivity foreground second := by
  induction member with
  | refl => exact mem_group_self
  | tail _ linked inductionHypothesis =>
      exact Relation.ReflTransGen.head linked.symm inductionHypothesis

theorem mem_group_trans
    (member : second ∈ group connectivity foreground first)
    (next : third ∈ group connectivity foreground second) :
    third ∈ group connectivity foreground first :=
  Relation.ReflTransGen.trans member next

theorem mem_group_linked
    (linked : PixelsLinked connectivity foreground first second) :
    second ∈ group connectivity foreground first :=
  .single linked

theorem foreground_of_mem_group
    (start : foreground first)
    (member : second ∈ group connectivity foreground first) :
    foreground second := by
  induction member with
  | refl => exact start
  | tail _ linked _ => exact linked.stop

theorem group_finite
    (finite : {pixel | foreground pixel}.Finite)
    (start : foreground first) :
    (group connectivity foreground first).Finite :=
  finite.subset fun _ member => foreground_of_mem_group start member

/-- Only a pixel without neighbours is alone in its group. -/
theorem group_ncard_lt_two_iff
    (finite : {pixel | foreground pixel}.Finite)
    (start : foreground first) :
    (group connectivity foreground first).ncard < 2 ↔
      ∀ other, foreground other → ¬ Adjacent connectivity first other := by
  constructor
  · intro small other isForeground adjacent
    have both : ({first, other} : Set PixelPosition) ⊆
        group connectivity foreground first := by
      rintro pixel (rfl | rfl)
      · exact mem_group_self
      · exact mem_group_linked ⟨start, isForeground, adjacent⟩
    have two : ({first, other} : Set PixelPosition).ncard = 2 :=
      Set.ncard_pair adjacent.ne
    have atLeast := Set.ncard_le_ncard both (group_finite finite start)
    omega
  · intro alone
    have single :
        group connectivity foreground first = ({first} : Set PixelPosition) := by
      apply Set.Subset.antisymm
      · intro other member
        induction member with
        | refl => exact Set.mem_singleton first
        | tail _ linked inductionHypothesis =>
            rw [Set.mem_singleton_iff] at inductionHypothesis
            subst inductionHypothesis
            exact absurd linked.adjacent (alone _ linked.stop)
      · intro other isFirst
        rw [Set.mem_singleton_iff.mp isFirst]
        exact mem_group_self
    rw [single, Set.ncard_singleton]
    exact Nat.one_lt_two

end Groups

section Neighbours

theorem exists_adjacent_way4
    (property : Nat → Nat → Prop)
    {row column : Nat} :
    (∃ pixel, Adjacent .way4 (row, column) pixel ∧
        property pixel.1 pixel.2) ↔
      ((0 < column ∧ property row (column - 1)) ∨
          property row (column + 1)) ∨
        (0 < row ∧ property (row - 1) column) ∨
        property (row + 1) column := by
  constructor
  · rintro ⟨⟨otherRow, otherColumn⟩, adjacent, holds⟩
    simp only [Adjacent] at adjacent holds
    rcases adjacent with ⟨rfl, rfl | rfl⟩ | ⟨rfl, rfl | rfl⟩
    · exact .inl (.inr holds)
    · exact .inl (.inl ⟨Nat.succ_pos _, holds⟩)
    · exact .inr (.inr holds)
    · exact .inr (.inl ⟨Nat.succ_pos _, holds⟩)
  · rintro ((⟨notFirst, holds⟩ | holds) | ⟨notFirst, holds⟩ | holds)
    · exact ⟨(row, column - 1), .inl ⟨rfl, by simp; omega⟩, holds⟩
    · exact ⟨(row, column + 1), .inl ⟨rfl, .inl rfl⟩, holds⟩
    · exact ⟨(row - 1, column), .inr ⟨rfl, by simp; omega⟩, holds⟩
    · exact ⟨(row + 1, column), .inr ⟨rfl, .inl rfl⟩, holds⟩

theorem exists_adjacent_way8
    (property : Nat → Nat → Prop)
    {row column : Nat} :
    (∃ pixel, Adjacent .way8 (row, column) pixel ∧
        property pixel.1 pixel.2) ↔
      ((0 < column ∧ property row (column - 1)) ∨
          property row (column + 1)) ∨
        (0 < row ∧ ((0 < column ∧ property (row - 1) (column - 1)) ∨
          property (row - 1) column ∨ property (row - 1) (column + 1))) ∨
        (0 < column ∧ property (row + 1) (column - 1)) ∨
          property (row + 1) column ∨ property (row + 1) (column + 1) := by
  constructor
  · rintro ⟨⟨otherRow, otherColumn⟩, adjacent, holds⟩
    simp only [Adjacent] at adjacent holds
    have rows :
        otherRow = row ∨ row = otherRow + 1 ∨ otherRow = row + 1 := by omega
    have columns : otherColumn = column ∨ column = otherColumn + 1 ∨
        otherColumn = column + 1 := by omega
    rcases rows with rfl | rfl | rfl <;>
      rcases columns with rfl | rfl | rfl <;>
      simp_all
  · have found (otherRow otherColumn : Nat)
        (adjacent : Adjacent .way8 (row, column) (otherRow, otherColumn))
        (holds : property otherRow otherColumn) :
        ∃ pixel, Adjacent .way8 (row, column) pixel ∧
          property pixel.1 pixel.2 :=
      ⟨(otherRow, otherColumn), adjacent, holds⟩
    rintro ((⟨notFirst, holds⟩ | holds) |
      ⟨notTop, ⟨notFirst, holds⟩ | holds | holds⟩ |
      ⟨notFirst, holds⟩ | holds | holds)
    all_goals
      refine found _ _ ?_ holds
      simp only [Adjacent]
      omega

end Neighbours

section Scanning

/-- Pixels are scanned row by row. -/
def Before
    (row column : Nat)
    (pixel : PixelPosition) : Prop :=
  pixel.1 < row ∨ pixel.1 = row ∧ pixel.2 < column

/-- A pixel of the foreground that none before it is linked with. -/
structure IsStart
    (connectivity : ConnectivityType)
    (foreground : PixelPosition → Prop)
    (pixel : PixelPosition) : Prop where
  isForeground : foreground pixel
  alone : ∀ other, Before pixel.1 pixel.2 other →
    ¬ PixelsLinked connectivity foreground pixel other

variable
  {row column : Nat}
  {pixel other : PixelPosition}

theorem before_succ_iff :
    Before row (column + 1) pixel ↔
      Before row column pixel ∨ pixel = (row, column) := by
  rw [Before, Before, Prod.ext_iff]
  omega

theorem not_before_self :
    ¬ Before row column (row, column) := by
  rw [Before]
  omega

theorem before_total
    (different : pixel ≠ other) :
    Before pixel.1 pixel.2 other ∨ Before other.1 other.2 pixel := by
  rw [ne_eq, Prod.ext_iff] at different
  rw [Before, Before]
  omega

theorem adjacent_way8
    {row column otherRow otherColumn : Nat}
    (near : (row ≠ otherRow ∨ column ≠ otherColumn) ∧
      row ≤ otherRow + 1 ∧ otherRow ≤ row + 1 ∧
      column ≤ otherColumn + 1 ∧ otherColumn ≤ column + 1) :
    Adjacent .way8 (row, column) (otherRow, otherColumn) :=
  near

/-- The neighbours that are scanned first are above and on the left. -/
theorem adjacent_before_way4
    (adjacent : Adjacent .way4 (row, column) other)
    (before : Before row column other) :
    (0 < row ∧ other = (row - 1, column)) ∨
      (0 < column ∧ other = (row, column - 1)) := by
  simp only [Adjacent, Before] at adjacent before
  rw [Prod.ext_iff, Prod.ext_iff]
  dsimp only
  omega

theorem adjacent_before_way8
    (adjacent : Adjacent .way8 (row, column) other)
    (before : Before row column other) :
    (0 < row ∧ 0 < column ∧ other = (row - 1, column - 1)) ∨
      (0 < row ∧ other = (row - 1, column)) ∨
      (0 < row ∧ other = (row - 1, column + 1)) ∨
      (0 < column ∧ other = (row, column - 1)) := by
  simp only [Adjacent, Before] at adjacent before
  simp only [Prod.ext_iff]
  omega

end Scanning

section Removal

/-- The pixels that are not background. -/
def Foreground
    (image : Image UInt8)
    (isBackground : UInt8 → Bool)
    (pixel : PixelPosition) : Prop :=
  image.Inside pixel.1 pixel.2 ∧
    isBackground (image.get pixel.1 pixel.2) = false

instance
    (image : Image UInt8)
    (isBackground : UInt8 → Bool)
    (pixel : PixelPosition) : Decidable (Foreground image isBackground pixel) :=
  inferInstanceAs (Decidable (_ ∧ _))

theorem foreground_finite
    (image : Image UInt8)
    (isBackground : UInt8 → Bool) :
    {pixel | Foreground image isBackground pixel}.Finite := by
  apply ((Set.finite_Iio image.rows).prod (Set.finite_Iio image.columns)).subset
  intro pixel isForeground
  exact isForeground.1

/-- Groups of the foreground with too few pixels become zero, and nothing else
changes. -/
structure GroupsRemoved
    (connectivity : ConnectivityType)
    (isBackground : UInt8 → Bool)
    (minimalGroupSize : Nat)
    (before after : Image UInt8) : Prop where
  rows : after.rows = before.rows
  columns : after.columns = before.columns
  removed : ∀ row column,
    Foreground before isBackground (row, column) →
    (group connectivity (Foreground before isBackground)
      (row, column)).ncard < minimalGroupSize →
      after.get row column = 0
  kept : ∀ row column, before.Inside row column →
    (Foreground before isBackground (row, column) →
      minimalGroupSize ≤ (group connectivity
        (Foreground before isBackground) (row, column)).ncard) →
      after.get row column = before.get row column

end Removal

end NavBim
