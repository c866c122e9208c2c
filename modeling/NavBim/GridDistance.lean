import Mathlib.Tactic

namespace NavBim

/-!
# Distances on a grid

Distances between cells are compared by their squares.  From a cell to one
beside it the square of the distance to any third cell changes by an odd number,
and whether it grows depends on a single coordinate.
-/

abbrev GridCell := Nat × Nat

def distanceSq
    (first second : GridCell) : Nat :=
  ((first.1 : ℤ) - second.1).natAbs ^ 2 + ((first.2 : ℤ) - second.2).natAbs ^ 2

/-- Cells with a common edge. -/
def Beside
    (first second : GridCell) : Prop :=
  (first.1 = second.1 ∧
    (first.2 + 1 = second.2 ∨ second.2 + 1 = first.2)) ∨
  (first.2 = second.2 ∧
    (first.1 + 1 = second.1 ∨ second.1 + 1 = first.1))

/-- The cells of a grid. -/
def InGrid
    (sizeX sizeY : Nat)
    (cell : GridCell) : Prop :=
  cell.1 < sizeX ∧ cell.2 < sizeY

section Distances

variable
  {first second third source other : GridCell}
  {sizeX sizeY : Nat}

theorem distanceSq_cast
    (first second : GridCell) :
    (distanceSq first second : ℤ) =
      ((first.1 : ℤ) - second.1) ^ 2 + ((first.2 : ℤ) - second.2) ^ 2 := by
  rw [distanceSq]
  push_cast
  rw [sq_abs, sq_abs]

@[simp] theorem distanceSq_self
    (cell : GridCell) :
    distanceSq cell cell = 0 := by
  simp [distanceSq]

theorem Beside.symm
    (beside : Beside first second) :
    Beside second first := by
  simp only [Beside] at *
  omega

/-- One step to the right. -/
theorem distanceSq_succ_left
    (x y : Nat)
    (source : GridCell) :
    (distanceSq (x + 1, y) source : ℤ) =
      distanceSq (x, y) source + 2 * ((x : ℤ) - source.1) + 1 := by
  rw [distanceSq_cast, distanceSq_cast]
  push_cast
  ring

/-- One step up. -/
theorem distanceSq_succ_right
    (x y : Nat)
    (source : GridCell) :
    (distanceSq (x, y + 1) source : ℤ) =
      distanceSq (x, y) source + 2 * ((y : ℤ) - source.2) + 1 := by
  rw [distanceSq_cast, distanceSq_cast]
  push_cast
  ring

/-- The ways to go to a cell beside. -/
theorem Beside.cases
    (beside : Beside first second) :
    (∃ x y, first = (x, y) ∧ second = (x + 1, y)) ∨
      (∃ x y, first = (x + 1, y) ∧ second = (x, y)) ∨
      (∃ x y, first = (x, y) ∧ second = (x, y + 1)) ∨
      ∃ x y, first = (x, y + 1) ∧ second = (x, y) := by
  obtain ⟨firstX, firstY⟩ := first
  obtain ⟨secondX, secondY⟩ := second
  simp only [Beside] at beside
  rcases beside with ⟨rfl, rfl | rfl⟩ | ⟨rfl, rfl | rfl⟩
  · exact .inr (.inr (.inl ⟨_, _, rfl, rfl⟩))
  · exact .inr (.inr (.inr ⟨_, _, rfl, rfl⟩))
  · exact .inl ⟨_, _, rfl, rfl⟩
  · exact .inr (.inl ⟨_, _, rfl, rfl⟩)

theorem Beside.distanceSq_ne
    (beside : Beside first second)
    (source : GridCell) :
    distanceSq first source ≠ distanceSq second source := by
  rcases beside.cases with ⟨x, y, rfl, rfl⟩ | ⟨x, y, rfl, rfl⟩ |
    ⟨x, y, rfl, rfl⟩ | ⟨x, y, rfl, rfl⟩
  · have step := distanceSq_succ_left x y source
    omega
  · have step := distanceSq_succ_left x y source
    omega
  · have step := distanceSq_succ_right x y source
    omega
  · have step := distanceSq_succ_right x y source
    omega

/-- On the way to a cell of the grid one stays in the grid. -/
theorem Beside.inGrid
    (beside : Beside first second)
    (firstInside : InGrid sizeX sizeY first)
    (sourceInside : InGrid sizeX sizeY source)
    (nearer : distanceSq second source < distanceSq first source) :
    InGrid sizeX sizeY second := by
  rcases beside.cases with ⟨x, y, rfl, rfl⟩ | ⟨x, y, rfl, rfl⟩ |
    ⟨x, y, rfl, rfl⟩ | ⟨x, y, rfl, rfl⟩
  · have step := distanceSq_succ_left x y source
    simp only [InGrid] at *
    omega
  · simp only [InGrid] at *
    omega
  · have step := distanceSq_succ_right x y source
    simp only [InGrid] at *
    omega
  · simp only [InGrid] at *
    omega

end Distances

section Corners

/-- A step towards the first quadrant that does not bring the second point
nearer than the first leaves it at the far side. -/
theorem corner_le
    {x y x' y' : ℤ}
    (nonnegX : 0 ≤ x)
    (nonnegY : 0 ≤ y)
    (near : x' ^ 2 + y' ^ 2 ≤ x ^ 2 + y ^ 2)
    (far : x ^ 2 + (y + 1) ^ 2 ≤ x' ^ 2 + (y' + 1) ^ 2) :
    (x' + 1) ^ 2 + y' ^ 2 ≤ (x + 1) ^ 2 + y ^ 2 := by
  have above : y ≤ y' := by nlinarith
  have left : x' ≤ x := by
    by_contra greater
    nlinarith
  nlinarith

theorem distanceSq_le_iff
    {first second third fourth : GridCell} :
    distanceSq first second ≤ distanceSq third fourth ↔
      ((first.1 : ℤ) - second.1) ^ 2 + ((first.2 : ℤ) - second.2) ^ 2 ≤
        ((third.1 : ℤ) - fourth.1) ^ 2 + ((third.2 : ℤ) - fourth.2) ^ 2 := by
  rw [← Int.ofNat_le, distanceSq_cast, distanceSq_cast]

variable {cell corner before beside source other : GridCell}

theorem Beside.nearer_cases
    (isBeside : Beside cell beside)
    (nearer : distanceSq beside source < distanceSq cell source) :
    (∃ sign : ℤ, (sign = 1 ∨ sign = -1) ∧
        (beside.1 : ℤ) = cell.1 - sign ∧ (beside.2 : ℤ) = cell.2 ∧
        0 < sign * ((cell.1 : ℤ) - source.1)) ∨
      ∃ sign : ℤ, (sign = 1 ∨ sign = -1) ∧
        (beside.2 : ℤ) = cell.2 - sign ∧ (beside.1 : ℤ) = cell.1 ∧
        0 < sign * ((cell.2 : ℤ) - source.2) := by
  rcases isBeside.cases with ⟨x, y, rfl, rfl⟩ | ⟨x, y, rfl, rfl⟩ |
    ⟨x, y, rfl, rfl⟩ | ⟨x, y, rfl, rfl⟩
  · have step := distanceSq_succ_left x y source
    refine .inl ⟨-1, .inr rfl, ?_⟩
    push_cast
    omega
  · have step := distanceSq_succ_left x y source
    refine .inl ⟨1, .inl rfl, ?_⟩
    push_cast
    omega
  · have step := distanceSq_succ_right x y source
    refine .inr ⟨-1, .inr rfl, ?_⟩
    push_cast
    omega
  · have step := distanceSq_succ_right x y source
    refine .inr ⟨1, .inl rfl, ?_⟩
    push_cast
    omega

theorem distanceSq_lt_of_away
    {sign : ℤ}
    (isSign : sign = 1 ∨ sign = -1)
    (step :
      ((beside.1 : ℤ) = corner.1 + sign ∧ (beside.2 : ℤ) = corner.2 ∧
        0 ≤ sign * ((corner.1 : ℤ) - source.1)) ∨
      ((beside.2 : ℤ) = corner.2 + sign ∧ (beside.1 : ℤ) = corner.1 ∧
        0 ≤ sign * ((corner.2 : ℤ) - source.2))) :
    distanceSq corner source < distanceSq beside source := by
  rw [← Int.ofNat_lt, distanceSq_cast, distanceSq_cast]
  rcases step with ⟨besideX, besideY, away⟩ | ⟨besideY, besideX, away⟩
  · rw [besideX, besideY]
    rcases isSign with rfl | rfl <;> linarith
  · rw [besideX, besideY]
    rcases isSign with rfl | rfl <;> linarith

/-- If the corner is nearer to another cell but `before` is not, then `beside`
is. -/
theorem corner_distanceSq_le
    {signX signY : ℤ}
    (isSignX : signX = 1 ∨ signX = -1)
    (isSignY : signY = 1 ∨ signY = -1)
    (awayX : 0 ≤ signX * ((corner.1 : ℤ) - source.1))
    (awayY : 0 ≤ signY * ((corner.2 : ℤ) - source.2))
    (sides :
      ((before.1 : ℤ) = corner.1 ∧ (before.2 : ℤ) = corner.2 + signY ∧
        (beside.1 : ℤ) = corner.1 + signX ∧ (beside.2 : ℤ) = corner.2) ∨
      ((beside.1 : ℤ) = corner.1 ∧ (beside.2 : ℤ) = corner.2 + signY ∧
        (before.1 : ℤ) = corner.1 + signX ∧ (before.2 : ℤ) = corner.2))
    (near : distanceSq corner other ≤ distanceSq corner source)
    (far : distanceSq before source ≤ distanceSq before other) :
    distanceSq beside other ≤ distanceSq beside source := by
  rw [distanceSq_le_iff] at near far ⊢
  rcases sides with ⟨beforeX, beforeY, besideX, besideY⟩ |
    ⟨besideX, besideY, beforeX, beforeY⟩
  · rw [beforeX, beforeY] at far
    rw [besideX, besideY]
    have result := @corner_le (signX * (corner.1 - source.1))
      (signY * (corner.2 - source.2)) (signX * (corner.1 - other.1))
      (signY * (corner.2 - other.2)) awayX awayY
    rcases isSignX with rfl | rfl <;> rcases isSignY with rfl | rfl <;>
      linarith [result (by linarith) (by linarith)]
  · rw [beforeX, beforeY] at far
    rw [besideX, besideY]
    have result := @corner_le (signY * (corner.2 - source.2))
      (signX * (corner.1 - source.1)) (signY * (corner.2 - other.2))
      (signX * (corner.1 - other.1)) awayY awayX
    rcases isSignX with rfl | rfl <;> rcases isSignY with rfl | rfl <;>
      linarith [result (by linarith) (by linarith)]

/-- Two cells beside a cell that are both nearer to a source have a corner in
common that is nearer still. -/
theorem exists_corner
    (isBefore : Beside cell before)
    (isBeside : Beside cell beside)
    (beforeNearer :
      distanceSq before source < distanceSq cell source)
    (besideNearer :
      distanceSq beside source < distanceSq cell source)
    (different : beside ≠ before) :
    ∃ corner, Beside before corner ∧ Beside corner beside ∧
      distanceSq corner source < distanceSq before source ∧
      ∀ other,
        distanceSq corner other ≤ distanceSq corner source →
        distanceSq before source ≤ distanceSq before other →
          distanceSq beside other ≤ distanceSq beside source := by
  rw [ne_eq, Prod.ext_iff] at different
  rcases isBefore.nearer_cases beforeNearer with
    ⟨signX, isSignX, beforeX, beforeY, awayX⟩ |
    ⟨signY, isSignY, beforeY, beforeX, awayY⟩ <;>
  rcases isBeside.nearer_cases besideNearer with
    ⟨signX', isSignX', besideX, besideY, awayX'⟩ |
    ⟨signY', isSignY', besideY, besideX, awayY'⟩
  · exfalso
    rcases isSignX with rfl | rfl <;> rcases isSignX' with rfl | rfl <;> omega
  · have atCornerX :
        0 ≤ signX * (((before.1, beside.2) : GridCell).1 - source.1 : ℤ) := by
      rcases isSignX with rfl | rfl <;> dsimp only <;> omega
    have atCornerY :
        0 ≤ signY' * (((before.1, beside.2) : GridCell).2 - source.2 : ℤ) := by
      rcases isSignY' with rfl | rfl <;> dsimp only <;> omega
    refine ⟨(before.1, beside.2), ?_, ?_, ?_, ?_⟩
    · rcases isSignY' with rfl | rfl <;>
        (simp only [Beside, true_and]; omega)
    · rcases isSignX with rfl | rfl <;>
        (simp only [Beside, true_and]; omega)
    · exact distanceSq_lt_of_away isSignY'
        (.inr ⟨by dsimp only; omega, rfl, atCornerY⟩)
    · intro other
      exact corner_distanceSq_le isSignX isSignY' atCornerX atCornerY
        (.inl ⟨rfl, by dsimp only; omega, by dsimp only; omega, rfl⟩)
  · have atCornerX :
        0 ≤ signX' * (((beside.1, before.2) : GridCell).1 - source.1 : ℤ) := by
      rcases isSignX' with rfl | rfl <;> dsimp only <;> omega
    have atCornerY :
        0 ≤ signY * (((beside.1, before.2) : GridCell).2 - source.2 : ℤ) := by
      rcases isSignY with rfl | rfl <;> dsimp only <;> omega
    refine ⟨(beside.1, before.2), ?_, ?_, ?_, ?_⟩
    · rcases isSignX' with rfl | rfl <;>
        (simp only [Beside, true_and]; omega)
    · rcases isSignY with rfl | rfl <;>
        (simp only [Beside, true_and]; omega)
    · exact distanceSq_lt_of_away isSignX'
        (.inl ⟨by dsimp only; omega, rfl, atCornerX⟩)
    · intro other
      exact corner_distanceSq_le isSignX' isSignY atCornerX atCornerY
        (.inr ⟨rfl, by dsimp only; omega, by dsimp only; omega, rfl⟩)
  · exfalso
    rcases isSignY with rfl | rfl <;> rcases isSignY' with rfl | rfl <;> omega

end Corners

end NavBim
