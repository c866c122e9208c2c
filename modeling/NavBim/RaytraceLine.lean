import NavBim.Clearance
import NavBim.DigitalLine

namespace NavBim

/-!
# Tracing a line over a costmap

A line goes from a cell to another one.  It starts where it is at least
`minLength` away from the first cell, and goes on for the part of the way that
`maxLength` is of the distance of the two cells.  The loop works on positions in
the array of the costmap, which it moves by one cell along the longer side and,
when its error term says so, by one cell along the other.

Numbers are exact, also the integers, and a position may leave the array.
-/

/-- A cell of a costmap. -/
structure MapLocation where
  x : ℕ
  y : ℕ
  deriving DecidableEq, Repr

namespace Raytrace

open DigitalLine

/-- The cell of a position in the array. -/
def indexToCells
    (sizeX index : ℕ) : MapLocation where
  x := index - index / sizeX * sizeX
  y := index / sizeX

def sign
    (x : ℤ) : ℤ :=
  if 0 < x then 1 else -1

/-- The loop of `bresenham2D`, with the steps that are left. -/
def bresenhamSteps
    (absDa absDb : ℕ)
    (offsetA offsetB : ℤ) : ℕ → ℤ → ℕ → List ℤ
  | 0, offset, _ => [offset]
  | steps + 1, offset, errorB =>
      offset ::
        if absDa ≤ errorB + absDb then
          bresenhamSteps absDa absDb offsetA offsetB steps
            (offset + offsetA + offsetB) (errorB + absDb - absDa)
        else
          bresenhamSteps absDa absDb offsetA offsetB steps
            (offset + offsetA) (errorB + absDb)

/-- The positions that the action is applied to, in order. -/
def bresenham2D
    (absDa absDb errorB : ℕ)
    (offsetA offsetB offset : ℤ)
    (maxLength : ℕ) : List ℤ :=
  bresenhamSteps absDa absDb offsetA offsetB (min maxLength absDa) offset errorB

section Model

variable
  {K : Type}
  [Field K] [LinearOrder K] [FloorRing K]
  (hypot : K → K → K)

/-- The distance of two cells. -/
def distance
    (start target : MapLocation) : K :=
  hypot (((target.x : ℤ) - start.x : ℤ) : K) (((target.y : ℤ) - start.y : ℤ) : K)

/-- The cell at `minLength` on the way to the target. -/
def shiftedStart
    (start target : MapLocation)
    (minLength : ℕ) : MapLocation :=
  let dxFull : ℤ := target.x - start.x
  let dyFull : ℤ := target.y - start.y
  let dist := distance hypot start target
  if 0 < dist then
    { x := ⌊(start.x : K) + dxFull / dist * minLength⌋.toNat
      y := ⌊(start.y : K) + dyFull / dist * minLength⌋.toNat }
  else
    start

/-- The part of the way that `maxLength` allows. -/
def lengthScale
    (dist : K)
    (maxLength : ℕ) : K :=
  if dist = 0 then 1 else min 1 (maxLength / dist)

/-- The positions that the action is applied to, in order. -/
def raytraceLine
    (sizeX : ℕ)
    (start target : MapLocation)
    (maxLength minLength : ℕ) : List ℤ :=
  let dist := distance hypot start target
  if dist < minLength then
    []
  else
    let min0 := shiftedStart hypot start target minLength
    let offset : ℤ := min0.y * sizeX + min0.x
    let dx : ℤ := target.x - min0.x
    let dy : ℤ := target.y - min0.y
    let absDx := dx.natAbs
    let absDy := dy.natAbs
    let offsetDx := sign dx
    let offsetDy := sign dy * sizeX
    let scale := lengthScale dist maxLength
    if absDy ≤ absDx then
      bresenham2D absDx absDy (absDx / 2) offsetDx offsetDy offset
        ⌊scale * absDx⌋.toNat
    else
      bresenham2D absDy absDx (absDy / 2) offsetDy offsetDx offset
        ⌊scale * absDy⌋.toNat

end Model

/-! ## The cells of a line -/

/-- The position of the loop after some steps. -/
theorem bresenhamSteps_eq
    {absDa absDb : ℕ}
    (offsetA offsetB offset : ℤ)
    (flat : absDb ≤ absDa)
    (positive : 0 < absDa)
    (steps done : ℕ) :
    bresenhamSteps absDa absDb offsetA offsetB steps
        (offset + done * offsetA + rise absDa absDb done * offsetB)
        (error absDa absDb done) =
      (List.range' done (steps + 1)).map fun i =>
        offset + i * offsetA + rise absDa absDb i * offsetB := by
  induction steps generalizing done with
  | zero => rfl
  | succ steps inductionHypothesis =>
      rw [bresenhamSteps, List.range'_succ, List.map_cons,
        ← inductionHypothesis (done + 1)]
      split
      · next reached =>
          obtain ⟨risen, newError⟩ := step_up flat positive reached
          rw [risen, newError]
          push_cast
          congr 2
          ring
      · next below =>
          obtain ⟨risen, newError⟩ := step_along (Nat.lt_of_not_le below)
          rw [risen, newError]
          push_cast
          congr 2
          ring

theorem bresenham2D_eq
    {absDa absDb : ℕ}
    (offsetA offsetB offset : ℤ)
    (flat : absDb ≤ absDa)
    (maxLength : ℕ) :
    bresenham2D absDa absDb (absDa / 2) offsetA offsetB offset maxLength =
      (List.range (min maxLength absDa + 1)).map fun i =>
        offset + i * offsetA + rise absDa absDb i * offsetB := by
  unfold bresenham2D
  cases Nat.eq_zero_or_pos absDa with
  | inl zero =>
      subst zero
      rw [Nat.min_zero]
      simp [bresenhamSteps, List.range_succ]
  | inr positive =>
      have steps := bresenhamSteps_eq offsetA offsetB offset flat positive
        (min maxLength absDa) 0
      rw [rise_zero, error_zero positive] at steps
      rw [List.range_eq_range', ← steps]
      congr 1
      push_cast
      ring

/-- How far a line has moved along both axes after some steps. -/
def moved
    (absDx absDy i : ℕ) : ℕ × ℕ :=
  if absDy ≤ absDx then
    (i, rise absDx absDy i)
  else
    (rise absDy absDx i, i)

/-- The steps over the longer side. -/
def longerSide
    (start target : MapLocation) : ℕ :=
  max ((target.x : ℤ) - start.x).natAbs ((target.y : ℤ) - start.y).natAbs

/-- A coordinate that has moved some cells towards a target. -/
def towards
    (start target cells : ℕ) : ℤ :=
  start + sign ((target : ℤ) - start) * cells

/-- The cell of a line after some steps. -/
def lineCell
    (start target : MapLocation)
    (i : ℕ) : MapLocation :=
  let cells := moved ((target.x : ℤ) - start.x).natAbs
    ((target.y : ℤ) - start.y).natAbs i
  { x := (towards start.x target.x cells.1).toNat
    y := (towards start.y target.y cells.2).toNat }

theorem moved_le
    {absDx absDy i : ℕ}
    (within : i ≤ max absDx absDy) :
    (moved absDx absDy i).1 ≤ absDx ∧ (moved absDx absDy i).2 ≤ absDy := by
  unfold moved
  split
  · next flat =>
      rw [max_eq_left flat] at within
      exact ⟨within, rise_le flat within⟩
  · next steep =>
      have flat := Nat.le_of_not_le steep
      rw [max_eq_right flat] at within
      exact ⟨rise_le flat within, within⟩

theorem moved_reaches
    (absDy : ℕ)
    {absDx cells : ℕ}
    (within : cells ≤ absDx) :
    ∃ i ≤ max absDx absDy, (moved absDx absDy i).1 = cells := by
  unfold moved
  split
  · next flat => exact ⟨cells, within.trans (le_max_left _ _), rfl⟩
  · next steep =>
      have positive : 0 < absDy := by omega
      obtain ⟨i, inRange, reached⟩ := rise_reaches absDy
        (Nat.le_of_not_le steep) positive
        (within.trans (rise_run _ _ positive).ge)
      exact ⟨i, inRange.trans (le_max_right _ _), reached⟩

theorem moved_mono
    (absDx absDy : ℕ)
    {first second : ℕ}
    (le : first ≤ second) :
    (moved absDx absDy first).1 ≤ (moved absDx absDy second).1 ∧
      (moved absDx absDy first).2 ≤ (moved absDx absDy second).2 := by
  unfold moved
  split
  · exact ⟨le, rise_mono _ _ le⟩
  · exact ⟨rise_mono _ _ le, le⟩

/-- One step moves by one cell along the longer side and by one at most along
the other. -/
theorem moved_succ
    (absDx absDy i : ℕ)
    (within : i < max absDx absDy) :
    (moved absDx absDy i).1 ≤ (moved absDx absDy (i + 1)).1 ∧
      (moved absDx absDy (i + 1)).1 ≤ (moved absDx absDy i).1 + 1 ∧
      (moved absDx absDy i).2 ≤ (moved absDx absDy (i + 1)).2 ∧
      (moved absDx absDy (i + 1)).2 ≤ (moved absDx absDy i).2 + 1 ∧
      moved absDx absDy (i + 1) ≠ moved absDx absDy i := by
  unfold moved
  split
  · next flat =>
      have risen := rise_succ flat (by omega) i
      simp only [ne_eq, Prod.mk.injEq]
      omega
  · next steep =>
      have risen := rise_succ (Nat.le_of_not_le steep) (by omega) i
      simp only [ne_eq, Prod.mk.injEq]
      omega

/-- A coordinate moves away from its start and stays between it and the
target. -/
theorem towards_between
    {start target cells : ℕ}
    (within : cells ≤ ((target : ℤ) - start).natAbs) :
    0 ≤ towards start target cells ∧
      towards start target cells ≤ max start target ∧
      (towards start target cells - start).natAbs = cells ∧
      min start target ≤ towards start target cells := by
  unfold towards sign
  split
  · omega
  · omega

/-- A coordinate moves by the cells it is moved by. -/
theorem towards_apart
    {start target first second : ℕ}
    (le : first ≤ second)
    (within : second ≤ ((target : ℤ) - start).natAbs) :
    (((towards start target first).toNat : ℤ) -
      (towards start target second).toNat).natAbs = second - first := by
  unfold towards sign
  split
  · omega
  · omega

section Lines

variable
  {start target : MapLocation}
  {sizeX sizeY i : ℕ}

/-- A position belongs to one cell. -/
theorem indexToCells_index
    (cell : MapLocation)
    (inside : cell.x < sizeX) :
    indexToCells sizeX (cell.y * sizeX + cell.x) = cell := by
  unfold indexToCells
  rw [rowMajor_div inside, Nat.add_sub_cancel_left]

theorem lineCell_moved
    (within : i ≤ longerSide start target) :
    (((lineCell start target i).x : ℤ) - start.x).natAbs =
        (moved ((target.x : ℤ) - start.x).natAbs
          ((target.y : ℤ) - start.y).natAbs i).1 ∧
      (((lineCell start target i).y : ℤ) - start.y).natAbs =
        (moved ((target.x : ℤ) - start.x).natAbs
          ((target.y : ℤ) - start.y).natAbs i).2 := by
  obtain ⟨movedX, movedY⟩ := moved_le within
  have betweenX := towards_between movedX
  have betweenY := towards_between movedY
  dsimp only [lineCell]
  omega

/-- A line between two cells of a map stays in the map. -/
theorem lineCell_inside
    (startInside : start.x < sizeX ∧ start.y < sizeY)
    (targetInside : target.x < sizeX ∧ target.y < sizeY)
    (within : i ≤ longerSide start target) :
    (lineCell start target i).x < sizeX ∧
      (lineCell start target i).y < sizeY := by
  obtain ⟨movedX, movedY⟩ := moved_le within
  have betweenX := towards_between movedX
  have betweenY := towards_between movedY
  dsimp only [lineCell]
  omega

theorem lineCell_column
    (within : i ≤ longerSide start target) :
    min start.x target.x ≤ (lineCell start target i).x ∧
      (lineCell start target i).x ≤ max start.x target.x := by
  obtain ⟨movedX, -⟩ := moved_le within
  have betweenX := towards_between movedX
  dsimp only [lineCell]
  omega

theorem lineCell_reaches
    {x : ℕ}
    (atLeast : min start.x target.x ≤ x)
    (atMost : x ≤ max start.x target.x) :
    ∃ i ≤ longerSide start target, (lineCell start target i).x = x := by
  have within : ((x : ℤ) - start.x).natAbs ≤
      ((target.x : ℤ) - start.x).natAbs := by
    omega
  obtain ⟨i, inRange, reached⟩ :=
    moved_reaches ((target.y : ℤ) - start.y).natAbs within
  refine ⟨i, inRange, ?_⟩
  dsimp only [lineCell]
  rw [reached]
  unfold towards sign
  split
  · omega
  · omega

/-- Two cells that are next to each other, also over a corner. -/
def Neighbours
    (first second : MapLocation) : Prop :=
  first ≠ second ∧
    ((first.x : ℤ) - second.x).natAbs ≤ 1 ∧
    ((first.y : ℤ) - second.y).natAbs ≤ 1

theorem lineCell_neighbours
    (within : i < longerSide start target) :
    Neighbours (lineCell start target i) (lineCell start target (i + 1)) := by
  have here := lineCell_moved (Nat.le_of_lt within)
  have next := lineCell_moved (i := i + 1) within
  obtain ⟨nextX, nextY⟩ := moved_le (i := i + 1) within
  obtain ⟨leX, stepX, leY, stepY, differ⟩ := moved_succ _ _ i within
  refine ⟨fun same => ?_, ?_, ?_⟩
  · apply differ
    rw [same] at here
    exact Prod.ext (next.1.symm.trans here.1) (next.2.symm.trans here.2)
  · refine (towards_apart leX nextX).le.trans ?_
    omega
  · refine (towards_apart leY nextY).le.trans ?_
    omega

theorem lineCell_chain
    (steps : ℕ)
    (within : steps ≤ longerSide start target) :
    ((List.range (steps + 1)).map (lineCell start target)).IsChain
      Neighbours := by
  rw [List.isChain_map, List.isChain_iff_getElem]
  intro i inRange
  simp only [List.length_range] at inRange
  simp only [List.getElem_range]
  exact lineCell_neighbours (by omega)

end Lines

section Traces

variable
  {K : Type}
  [Field K] [LinearOrder K] [FloorRing K]
  (hypot : K → K → K)
  (start target : MapLocation)
  (maxLength minLength : ℕ)

/-- The steps that are made from the shifted start. -/
def traceSteps : ℕ :=
  let longer :=
    longerSide (shiftedStart hypot start target minLength) target
  min ⌊lengthScale (distance hypot start target) maxLength * longer⌋.toNat longer

theorem traceSteps_le :
    traceSteps hypot start target maxLength minLength ≤
      longerSide (shiftedStart hypot start target minLength) target :=
  min_le_right _ _

theorem raytraceLine_eq
    (sizeX : ℕ)
    (far : ¬distance hypot start target < minLength) :
    raytraceLine hypot sizeX start target maxLength minLength =
      (List.range (traceSteps hypot start target maxLength minLength + 1)).map
        fun i =>
          let cell :=
            lineCell (shiftedStart hypot start target minLength) target i
          ((cell.y * sizeX + cell.x : ℕ) : ℤ) := by
  have stepsLe := traceSteps_le hypot start target maxLength minLength
  unfold raytraceLine
  rw [if_neg far]
  dsimp only
  unfold traceSteps at stepsLe ⊢
  generalize shiftedStart hypot start target minLength = min0 at stepsLe ⊢
  dsimp only [longerSide] at stepsLe ⊢
  split
  · next flat =>
      rw [max_eq_left flat] at stepsLe ⊢
      rw [bresenham2D_eq _ _ _ flat]
      apply List.map_congr_left
      intro i inRange
      have within := Nat.lt_succ_iff.mp (List.mem_range.mp inRange)
      have alongX := towards_between (within.trans stepsLe)
      have alongY := towards_between (rise_le flat (within.trans stepsLe))
      dsimp only [lineCell, moved]
      rw [if_pos flat]
      push_cast
      rw [Int.toNat_of_nonneg alongX.1, Int.toNat_of_nonneg alongY.1]
      unfold towards
      ring
  · next steep =>
      have flat := Nat.le_of_not_le steep
      rw [max_eq_right flat] at stepsLe ⊢
      rw [bresenham2D_eq _ _ _ flat]
      apply List.map_congr_left
      intro i inRange
      have within := Nat.lt_succ_iff.mp (List.mem_range.mp inRange)
      have alongY := towards_between (within.trans stepsLe)
      have alongX := towards_between (rise_le flat (within.trans stepsLe))
      dsimp only [lineCell, moved]
      rw [if_neg steep]
      push_cast
      rw [Int.toNat_of_nonneg alongX.1, Int.toNat_of_nonneg alongY.1]
      unfold towards
      ring

/-- The cells that the action is applied to, in order. -/
def visitedCells
    (sizeX : ℕ) : List MapLocation :=
  (raytraceLine hypot sizeX start target maxLength minLength).map
    fun offset => indexToCells sizeX offset.toNat

theorem visitedCells_eq
    {sizeX sizeY : ℕ}
    (far : ¬distance hypot start target < minLength)
    (shiftedInside :
      (shiftedStart hypot start target minLength).x < sizeX ∧
        (shiftedStart hypot start target minLength).y < sizeY)
    (targetInside : target.x < sizeX ∧ target.y < sizeY) :
    visitedCells hypot start target maxLength minLength sizeX =
      (List.range (traceSteps hypot start target maxLength minLength + 1)).map
        (lineCell (shiftedStart hypot start target minLength) target) := by
  unfold visitedCells
  rw [raytraceLine_eq hypot start target maxLength minLength sizeX far,
    List.map_map]
  apply List.map_congr_left
  intro i inRange
  have within := Nat.lt_succ_iff.mp (List.mem_range.mp inRange)
  have inside := lineCell_inside shiftedInside targetInside
    (within.trans (traceSteps_le hypot start target maxLength minLength))
  dsimp only [Function.comp]
  rw [Int.toNat_natCast, indexToCells_index _ inside.1]

end Traces

/-! ## Where a line starts -/

section Starts

variable
  {K : Type}
  [Field K] [LinearOrder K] [FloorRing K] [IsStrictOrderedRing K]
  {hypot : K → K → K}

omit [FloorRing K] in
theorem partWay_between
    (start target : ℤ)
    {part : K}
    (nonneg : 0 ≤ part)
    (le : part ≤ 1) :
    ((min start target : ℤ) : K) ≤ start + ((target - start : ℤ) : K) * part ∧
      start + ((target - start : ℤ) : K) * part ≤
        ((max start target : ℤ) : K) := by
  have rest : 0 ≤ 1 - part := sub_nonneg.mpr le
  have mix : (start : K) + ((target - start : ℤ) : K) * part =
      start * (1 - part) + target * part := by
    push_cast
    ring
  have split (bound : K) : bound = bound * (1 - part) + bound * part := by
    ring
  rw [mix]
  constructor
  · rw [split ((min start target : ℤ) : K)]
    have leStart : ((min start target : ℤ) : K) ≤ start :=
      Int.cast_le.mpr (min_le_left _ _)
    have leTarget : ((min start target : ℤ) : K) ≤ target :=
      Int.cast_le.mpr (min_le_right _ _)
    gcongr
  · rw [split ((max start target : ℤ) : K)]
    have startLe : (start : K) ≤ ((max start target : ℤ) : K) :=
      Int.cast_le.mpr (le_max_left _ _)
    have targetLe : (target : K) ≤ ((max start target : ℤ) : K) :=
      Int.cast_le.mpr (le_max_right _ _)
    gcongr

/-- A coordinate that is moved by a part of the way is between both ends, and
one cell short of the exact way at most. -/
theorem shifted_between
    (start target : ℕ)
    {part : K}
    (nonneg : 0 ≤ part)
    (le : part ≤ 1) :
    let shifted :=
      ⌊(start : K) + (((target : ℤ) - start : ℤ) : K) * part⌋.toNat
    min start target ≤ shifted ∧ shifted ≤ max start target ∧
      ((((target : ℤ) - start).natAbs : ℕ) : K) * part ≤
        ((((shifted : ℤ) - start).natAbs : ℕ) : K) + 1 := by
  intro shifted
  have between := partWay_between (start : ℤ) (target : ℤ) nonneg le
  rw [Int.cast_natCast] at between
  have atLeast := Int.le_floor.mpr between.1
  have atMost := Int.cast_le.mp ((Int.floor_le _).trans between.2)
  have floors : (shifted : ℤ) =
      ⌊(start : K) + (((target : ℤ) - start : ℤ) : K) * part⌋ := by
    apply Int.toNat_of_nonneg
    omega
  rw [← floors] at atLeast atMost
  have below := Int.floor_le
    ((start : K) + (((target : ℤ) - start : ℤ) : K) * part)
  have above := Int.lt_floor_add_one
    ((start : K) + (((target : ℤ) - start : ℤ) : K) * part)
  rw [← floors] at below above
  refine ⟨by omega, by omega, ?_⟩
  -- What the floor cuts off is less than a cell, in either direction.
  have short : |(((target : ℤ) - start : ℤ) : K) * part| ≤
      |(((shifted : ℤ) - start : ℤ) : K)| + 1 := by
    have cut : |(((target : ℤ) - start : ℤ) : K) * part -
        (((shifted : ℤ) - start : ℤ) : K)| ≤ 1 := by
      rw [abs_le, Int.cast_sub (shifted : ℤ), Int.cast_natCast start]
      constructor
      · linarith
      · linarith
    have triangle := abs_sub_abs_le_abs_sub
      ((((target : ℤ) - start : ℤ) : K) * part)
      (((shifted : ℤ) - start : ℤ) : K)
    linarith
  rw [Nat.cast_natAbs, Nat.cast_natAbs, Int.cast_abs, Int.cast_abs]
  rwa [abs_mul, abs_of_nonneg nonneg] at short

/-- Where the line starts is between the cell and the target along both axes. -/
structure Shifted
    (hypot : K → K → K)
    (start target : MapLocation)
    (minLength : ℕ)
    (min0 : MapLocation) : Prop where
  betweenX : min start.x target.x ≤ min0.x ∧ min0.x ≤ max start.x target.x
  betweenY : min start.y target.y ≤ min0.y ∧ min0.y ≤ max start.y target.y
  far : (minLength : K) ≤ distance hypot start min0 + 2
  unmoved : minLength = 0 → min0 = start

omit [FloorRing K] [IsStrictOrderedRing K] in
theorem distance_nonneg
    (isHypot : IsHypot hypot)
    (start target : MapLocation) :
    0 ≤ distance hypot start target :=
  isHypot.nonneg _ _

section

omit [FloorRing K]

theorem distance_sq
    (isHypot : IsHypot hypot)
    (start target : MapLocation) :
    distance hypot start target ^ 2 =
      ((((target.x : ℤ) - start.x).natAbs : ℕ) : K) ^ 2 +
        ((((target.y : ℤ) - start.y).natAbs : ℕ) : K) ^ 2 := by
  unfold distance
  rw [isHypot.sq, Nat.cast_natAbs, Nat.cast_natAbs, Int.cast_abs, Int.cast_abs,
    sq_abs, sq_abs]

theorem distance_le_iff
    (isHypot : IsHypot hypot)
    (start cell : MapLocation)
    (bound : ℕ) :
    distance hypot start cell ≤ bound ↔
      ((cell.x : ℤ) - start.x).natAbs ^ 2 +
          ((cell.y : ℤ) - start.y).natAbs ^ 2 ≤ bound ^ 2 := by
  rw [← sq_le_sq₀ (distance_nonneg isHypot _ _) (Nat.cast_nonneg bound),
    distance_sq isHypot]
  exact_mod_cast Iff.rfl

theorem natAbs_le_distance
    (isHypot : IsHypot hypot)
    (start target : MapLocation) :
    ((((target.x : ℤ) - start.x).natAbs : ℕ) : K) ≤
        distance hypot start target ∧
      ((((target.y : ℤ) - start.y).natAbs : ℕ) : K) ≤
        distance hypot start target := by
  rw [Nat.cast_natAbs, Nat.cast_natAbs, Int.cast_abs, Int.cast_abs]
  exact isHypot.abs_le _ _

/-- Two sides that are one short at most of sides of a triangle make a distance
that is two short at most. -/
theorem length_le_add_two
    {sideX sideY exactX exactY length shortened : K}
    (nonnegX : 0 ≤ exactX)
    (nonnegY : 0 ≤ exactY)
    (exactSq : length ^ 2 = exactX ^ 2 + exactY ^ 2)
    (shortX : exactX ≤ sideX + 1)
    (shortY : exactY ≤ sideY + 1)
    (nonneg : 0 ≤ shortened)
    (shortenedSq : shortened ^ 2 = sideX ^ 2 + sideY ^ 2)
    (xLe : sideX ≤ shortened)
    (yLe : sideY ≤ shortened) :
    length ≤ shortened + 2 := by
  have squareX : exactX ^ 2 ≤ (sideX + 1) ^ 2 :=
    pow_le_pow_left₀ nonnegX shortX 2
  have squareY : exactY ^ 2 ≤ (sideY + 1) ^ 2 :=
    pow_le_pow_left₀ nonnegY shortY 2
  apply le_of_sq_le_sq _ (by linarith)
  linarith only [exactSq, shortenedSq, squareX, squareY, xLe, yLe]

theorem far_of_sides
    (isHypot : IsHypot hypot)
    {start target min0 : MapLocation}
    {length : K}
    (positive : 0 < distance hypot start target)
    (nonneg : 0 ≤ length)
    (sideX : ((((target.x : ℤ) - start.x).natAbs : ℕ) : K) *
        (length / distance hypot start target) ≤
      ((((min0.x : ℤ) - start.x).natAbs : ℕ) : K) + 1)
    (sideY : ((((target.y : ℤ) - start.y).natAbs : ℕ) : K) *
        (length / distance hypot start target) ≤
      ((((min0.y : ℤ) - start.y).natAbs : ℕ) : K) + 1) :
    length ≤ distance hypot start min0 + 2 := by
  have sides := natAbs_le_distance isHypot start min0
  have partNonneg : 0 ≤ length / distance hypot start target :=
    div_nonneg nonneg positive.le
  refine length_le_add_two (mul_nonneg (Nat.cast_nonneg _) partNonneg)
    (mul_nonneg (Nat.cast_nonneg _) partNonneg) ?_ sideX sideY
    (isHypot.nonneg _ _) (distance_sq isHypot start min0) sides.1 sides.2
  rw [mul_pow, mul_pow, ← add_mul, ← distance_sq isHypot, ← mul_pow,
    mul_div_cancel₀ _ positive.ne']

end

theorem shiftedStart_shifted
    (isHypot : IsHypot hypot)
    {start target : MapLocation}
    {minLength : ℕ}
    (far : ¬distance hypot start target < minLength) :
    Shifted hypot start target minLength
      (shiftedStart hypot start target minLength) := by
  have within : (minLength : K) ≤ distance hypot start target := not_lt.mp far
  have distNonneg : 0 ≤ distance hypot start target := isHypot.nonneg _ _
  unfold shiftedStart
  dsimp only
  split
  · next positive =>
      have partNonneg : 0 ≤ (minLength : K) / distance hypot start target :=
        div_nonneg (Nat.cast_nonneg _) distNonneg
      have partLe : (minLength : K) / distance hypot start target ≤ 1 :=
        div_le_one_of_le₀ within distNonneg
      have alongX := shifted_between start.x target.x partNonneg partLe
      have alongY := shifted_between start.y target.y partNonneg partLe
      simp only [div_mul_eq_mul_div, mul_div_assoc]
      refine ⟨⟨alongX.1, alongX.2.1⟩, ⟨alongY.1, alongY.2.1⟩, ?_, ?_⟩
      · exact far_of_sides isHypot positive (Nat.cast_nonneg _)
          alongX.2.2 alongY.2.2
      · rintro rfl
        simp only [Nat.cast_zero, zero_div, mul_zero, add_zero,
          Int.floor_natCast, Int.toNat_natCast]
  · next zero =>
      have noLength : minLength = 0 := by
        have le := within.trans (not_lt.mp zero)
        exact Nat.cast_nonpos.mp le
      exact ⟨by omega, by omega, by
        rw [noLength, Nat.cast_zero]
        exact add_nonneg (isHypot.nonneg _ _) zero_le_two, fun _ => rfl⟩

end Starts

end Raytrace

end NavBim
