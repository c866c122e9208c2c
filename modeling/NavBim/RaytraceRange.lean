import NavBim.GuardedWrites
import NavBim.RaytraceLine

namespace NavBim

/-!
# The range of a traced line

The cells of a traced line lie in the map, follow each other as neighbours, and
are no closer to the first cell than `minLength`, up to two cells.  They are no
farther than `maxLength`, up to two cells, where the line starts in the first
cell or is not cut.  Otherwise the part that `maxLength` is of the whole way is
taken of the way that is left from the shifted start, which is too far by the
rest of the shift.
-/

namespace Raytrace

open DigitalLine

section Range

variable
  {K : Type}
  [Field K] [LinearOrder K] [FloorRing K]

/-- The line stays in the map and in its range, without gaps. -/
structure RespectsRange
    (hypot : K → K → K)
    (grid : Grid K)
    (start target : MapLocation)
    (maxLength minLength : ℕ) : Prop where
  inside :
    ∀ offset ∈
        raytraceLine hypot grid.sizeX start target maxLength minLength,
      0 ≤ offset ∧ offset < grid.sizeX * grid.sizeY
  upper :
    ∀ cell ∈ visitedCells hypot start target maxLength minLength grid.sizeX,
      distance hypot start cell ≤ maxLength + 2
  lower :
    ∀ cell ∈ visitedCells hypot start target maxLength minLength grid.sizeX,
      (minLength : K) - 2 ≤ distance hypot start cell
  neighbours :
    (visitedCells hypot start target maxLength minLength
      grid.sizeX).IsChain Neighbours

/-- How far a line that is cut goes along both axes: to the shifted start, and
from there the part of the way that is left. -/
def cutSides
    (hypot : K → K → K)
    (start target : MapLocation)
    (maxLength minLength : ℕ) : ℕ × ℕ :=
  let min0 := shiftedStart hypot start target minLength
  let part := (maxLength : K) / distance hypot start target
  let cut := moved ((target.x : ℤ) - min0.x).natAbs
    ((target.y : ℤ) - min0.y).natAbs
    ⌊part * longerSide min0 target⌋.toNat
  (((min0.x : ℤ) - start.x).natAbs + cut.1,
    ((min0.y : ℤ) - start.y).natAbs + cut.2)

/-- The line is empty, starts in the first cell, is not cut, or is cut in
range. -/
def CutInRange
    (hypot : K → K → K)
    (start target : MapLocation)
    (maxLength minLength : ℕ) : Prop :=
  distance hypot start target < minLength ∨
    minLength = 0 ∨
    distance hypot start target ≤ maxLength ∨
    (cutSides hypot start target maxLength minLength).1 ^ 2 +
        (cutSides hypot start target maxLength minLength).2 ^ 2 ≤
      (maxLength + 2) ^ 2

end Range

/-- A coordinate of the line moves away from the first cell. -/
theorem towards_away
    {start target min0 cells : ℕ}
    (between : min start target ≤ min0 ∧ min0 ≤ max start target)
    (within : cells ≤ ((target : ℤ) - min0).natAbs) :
    ((((towards min0 target cells).toNat : ℕ) : ℤ) - start).natAbs =
        ((min0 : ℤ) - start).natAbs + cells ∧
      ((min0 : ℤ) - start).natAbs + cells ≤ ((target : ℤ) - start).natAbs := by
  unfold towards sign
  split
  · omega
  · omega

section Distances

variable
  {K : Type}
  [Field K] [LinearOrder K] [IsStrictOrderedRing K]
  {hypot : K → K → K}
  {start target min0 : MapLocation}
  {minLength i : ℕ}

section

omit [IsStrictOrderedRing K]

theorem lineCell_sides
    (shifted : Shifted hypot start target minLength min0)
    (within : i ≤ longerSide min0 target) :
    (((lineCell min0 target i).x : ℤ) - start.x).natAbs =
        ((min0.x : ℤ) - start.x).natAbs +
          (moved ((target.x : ℤ) - min0.x).natAbs
            ((target.y : ℤ) - min0.y).natAbs i).1 ∧
      (((lineCell min0 target i).y : ℤ) - start.y).natAbs =
        ((min0.y : ℤ) - start.y).natAbs +
          (moved ((target.x : ℤ) - min0.x).natAbs
            ((target.y : ℤ) - min0.y).natAbs i).2 := by
  obtain ⟨movedX, movedY⟩ := moved_le within
  exact ⟨(towards_away shifted.betweenX movedX).1,
    (towards_away shifted.betweenY movedY).1⟩

theorem Shifted.inside
    {sizeX sizeY : ℕ}
    (shifted : Shifted hypot start target minLength min0)
    (startInside : start.x < sizeX ∧ start.y < sizeY)
    (targetInside : target.x < sizeX ∧ target.y < sizeY) :
    min0.x < sizeX ∧ min0.y < sizeY :=
  ⟨shifted.betweenX.2.trans_lt (max_lt startInside.1 targetInside.1),
    shifted.betweenY.2.trans_lt (max_lt startInside.2 targetInside.2)⟩

end

theorem distance_le_distance
    (isHypot : IsHypot hypot)
    {first second : MapLocation}
    (leX : ((first.x : ℤ) - start.x).natAbs ≤ ((second.x : ℤ) - start.x).natAbs)
    (leY : ((first.y : ℤ) - start.y).natAbs ≤ ((second.y : ℤ) - start.y).natAbs) :
    distance hypot start first ≤ distance hypot start second := by
  apply le_of_sq_le_sq _ (distance_nonneg isHypot _ _)
  rw [distance_sq isHypot, distance_sq isHypot]
  gcongr

theorem lineCell_distance
    (isHypot : IsHypot hypot)
    (shifted : Shifted hypot start target minLength min0)
    {steps : ℕ}
    (le : i ≤ steps)
    (within : steps ≤ longerSide min0 target) :
    distance hypot start min0 ≤ distance hypot start (lineCell min0 target i) ∧
      distance hypot start (lineCell min0 target i) ≤
        distance hypot start (lineCell min0 target steps) ∧
      distance hypot start (lineCell min0 target steps) ≤
        distance hypot start target := by
  have here := lineCell_sides shifted (le.trans within)
  have there := lineCell_sides shifted within
  have further := moved_mono ((target.x : ℤ) - min0.x).natAbs
    ((target.y : ℤ) - min0.y).natAbs le
  obtain ⟨movedX, movedY⟩ := moved_le within
  refine ⟨distance_le_distance isHypot (by omega) (by omega),
    distance_le_distance isHypot ?_ ?_, distance_le_distance isHypot ?_ ?_⟩
  · rw [here.1, there.1]
    exact Nat.add_le_add_left further.1 _
  · rw [here.2, there.2]
    exact Nat.add_le_add_left further.2 _
  · rw [there.1]
    exact (towards_away shifted.betweenX movedX).2
  · rw [there.2]
    exact (towards_away shifted.betweenY movedY).2

end Distances

section Traces

variable
  {K : Type}
  [Field K] [LinearOrder K] [FloorRing K] [IsStrictOrderedRing K]
  {hypot : K → K → K}
  {start target : MapLocation}
  {maxLength minLength : ℕ}

omit [FloorRing K] in
theorem exact_height
    {steps run total height : ℕ}
    (rounded : 2 * (run * height) ≤ 2 * (steps * total) + run) :
    ∃ exactHeight : K, 0 ≤ exactHeight ∧
      run * exactHeight ≤ steps * total ∧
      (height : K) ≤ exactHeight + 1 / 2 := by
  cases height with
  | zero =>
      refine ⟨0, le_refl _, ?_, ?_⟩
      · rw [mul_zero]
        positivity
      · norm_num
  | succ height =>
      have inField : (2 : K) * (run * (height + 1)) ≤
          2 * (steps * total) + run := by
        exact_mod_cast rounded
      refine ⟨height + 1 / 2, by positivity, by linarith, ?_⟩
      push_cast
      linarith

omit [FloorRing K] in
/-- A line that makes the part of its steps that a length is of the whole way
goes no farther than the length, up to the rounding. -/
theorem cut_le
    {steps run total height : ℕ}
    {dist length : K}
    (nonneg : 0 ≤ dist)
    (lengthNonneg : 0 ≤ length)
    (distSq : dist ^ 2 = (run : K) ^ 2 + (total : K) ^ 2)
    (stepsLe : steps * dist ≤ length * run)
    (rounded : 2 * (run * height) ≤ 2 * (steps * total) + run)
    (positive : 0 < run) :
    (steps : K) ^ 2 + (height : K) ^ 2 ≤ (length + 2) ^ 2 := by
  obtain ⟨exactHeight, exactNonneg, slope, heightLe⟩ :=
    exact_height (K := K) rounded
  have runPositive : (0 : K) < run := Nat.cast_pos.mpr positive
  have exactLe : (steps : K) ^ 2 + exactHeight ^ 2 ≤ length ^ 2 := by
    have scaled :=
      calc
        (run : K) ^ 2 * ((steps : K) ^ 2 + exactHeight ^ 2)
            = ((run : K) * steps) ^ 2 + (run * exactHeight) ^ 2 := by ring
        _ ≤ ((run : K) * steps) ^ 2 + ((steps : K) * total) ^ 2 := by gcongr
        _ = ((steps : K) * dist) ^ 2 := by rw [mul_pow _ dist, distSq]; ring
        _ ≤ (length * run) ^ 2 := by gcongr
        _ = (run : K) ^ 2 * length ^ 2 := by ring
    exact le_of_mul_le_mul_left scaled (by positivity)
  have exactLeLength : exactHeight ≤ length := by
    apply le_of_sq_le_sq _ lengthNonneg
    linarith [sq_nonneg (steps : K)]
  have heightSq : (height : K) ^ 2 ≤ (exactHeight + 1 / 2) ^ 2 := by gcongr
  linarith

/-- The farthest cell is the last one. -/
theorem upper_iff
    (isHypot : IsHypot hypot)
    {sizeX sizeY : ℕ}
    (far : ¬distance hypot start target < minLength)
    (startInside : start.x < sizeX ∧ start.y < sizeY)
    (targetInside : target.x < sizeX ∧ target.y < sizeY)
    (bound : K) :
    (∀ cell ∈ visitedCells hypot start target maxLength minLength sizeX,
        distance hypot start cell ≤ bound) ↔
      distance hypot start
        (lineCell (shiftedStart hypot start target minLength) target
          (traceSteps hypot start target maxLength minLength)) ≤ bound := by
  have shifted := shiftedStart_shifted isHypot far
  have stepsLe := traceSteps_le hypot start target maxLength minLength
  have shiftedInside := shifted.inside startInside targetInside
  rw [visitedCells_eq hypot start target maxLength minLength far shiftedInside
    targetInside]
  simp only [List.mem_map, List.mem_range]
  constructor
  · intro all
    exact all _ ⟨_, Nat.lt_succ_self _, rfl⟩
  · rintro last cell ⟨i, inRange, rfl⟩
    exact (lineCell_distance isHypot shifted (Nat.lt_succ_iff.mp inRange)
      stepsLe).2.1.trans last

theorem last_le_of_uncut
    (isHypot : IsHypot hypot)
    (far : ¬distance hypot start target < minLength)
    (uncut : distance hypot start target ≤ maxLength) :
    distance hypot start
        (lineCell (shiftedStart hypot start target minLength) target
          (traceSteps hypot start target maxLength minLength)) ≤
      maxLength + 2 :=
  calc
    _ ≤ distance hypot start target :=
      (lineCell_distance isHypot (shiftedStart_shifted isHypot far) (le_refl _)
        (traceSteps_le hypot start target maxLength minLength)).2.2
    _ ≤ (maxLength : K) := uncut
    _ ≤ maxLength + 2 := le_add_of_nonneg_right zero_le_two

theorem floor_part_le
    (steps : ℕ)
    {part : K}
    (nonneg : 0 ≤ part)
    (le : part ≤ 1) :
    ⌊part * steps⌋.toNat ≤ steps ∧
      ((⌊part * steps⌋.toNat : ℕ) : K) ≤ part * steps := by
  have stepsNonneg : (0 : K) ≤ steps := Nat.cast_nonneg _
  have floorNonneg : 0 ≤ ⌊part * steps⌋ :=
    Int.floor_nonneg.mpr (mul_nonneg nonneg stepsNonneg)
  have below : ((⌊part * steps⌋.toNat : ℕ) : K) ≤ part * steps := by
    have casted : ((⌊part * steps⌋.toNat : ℤ) : K) = ⌊part * steps⌋ := by
      rw [Int.toNat_of_nonneg floorNonneg]
    rw [← Int.cast_natCast, casted]
    exact Int.floor_le _
  have belowSteps := below.trans (mul_le_of_le_one_left stepsNonneg le)
  exact ⟨Nat.cast_le.mp belowSteps, below⟩

theorem traceSteps_of_cut
    (cut : (maxLength : K) < distance hypot start target) :
    traceSteps hypot start target maxLength minLength =
      ⌊(maxLength : K) / distance hypot start target *
        longerSide (shiftedStart hypot start target minLength) target⌋.toNat := by
  have positive : 0 < distance hypot start target :=
    (Nat.cast_nonneg maxLength).trans_lt cut
  have part : (maxLength : K) / distance hypot start target ≤ 1 :=
    div_le_one_of_le₀ cut.le positive.le
  unfold traceSteps lengthScale
  rw [if_neg positive.ne', min_eq_right part]
  exact min_eq_left (floor_part_le _
    (div_nonneg (Nat.cast_nonneg _) positive.le) part).1

section

variable
  (isHypot : IsHypot hypot)

include isHypot

theorem last_le_of_unshifted
    (cut : (maxLength : K) < distance hypot start target) :
    distance hypot start (lineCell start target
        ⌊(maxLength : K) / distance hypot start target *
          longerSide start target⌋.toNat) ≤
      maxLength + 2 := by
  have nonneg := distance_nonneg isHypot start target
  have positive : 0 < distance hypot start target :=
    (Nat.cast_nonneg maxLength).trans_lt cut
  have distSq := distance_sq isHypot start target
  obtain ⟨within, steps⟩ := floor_part_le (longerSide start target)
    (div_nonneg (Nat.cast_nonneg maxLength) nonneg)
    (div_le_one_of_le₀ cut.le nonneg)
  rw [div_mul_eq_mul_div, le_div_iff₀ positive] at steps
  rw [div_mul_eq_mul_div] at within ⊢
  generalize ⌊(maxLength : K) * longerSide start target /
    distance hypot start target⌋.toNat = cutSteps at within steps ⊢
  have sides := lineCell_moved within
  have bound := distance_le_iff isHypot start
    (lineCell start target cutSteps) (maxLength + 2)
  push_cast at bound
  rw [bound, sides.1, sides.2]
  unfold longerSide at steps
  generalize ((target.x : ℤ) - start.x).natAbs = absDx at distSq steps ⊢
  generalize ((target.y : ℤ) - start.y).natAbs = absDy at distSq steps ⊢
  have notBoth : 0 < absDx ∨ 0 < absDy := by
    by_contra neither
    have zeroX : absDx = 0 := by omega
    have zeroY : absDy = 0 := by omega
    rw [zeroX, zeroY] at distSq
    simp [positive.ne'] at distSq
  have inField : (((moved absDx absDy cutSteps).1 : ℕ) : K) ^ 2 +
      (((moved absDx absDy cutSteps).2 : ℕ) : K) ^ 2 ≤
        ((maxLength : K) + 2) ^ 2 := by
    unfold moved
    split
    · next flat =>
        rw [max_eq_left flat] at steps
        exact cut_le nonneg (Nat.cast_nonneg _) distSq steps
          (rise_near _ _ _) (by omega)
    · next steep =>
        rw [max_eq_right (Nat.le_of_not_le steep)] at steps
        rw [add_comm] at distSq ⊢
        exact cut_le nonneg (Nat.cast_nonneg _) distSq steps
          (rise_near _ _ _) (by omega)
  exact_mod_cast inField

theorem last_le_iff_of_cut
    (far : ¬distance hypot start target < minLength)
    (cut : (maxLength : K) < distance hypot start target) :
    distance hypot start
        (lineCell (shiftedStart hypot start target minLength) target
          (traceSteps hypot start target maxLength minLength)) ≤
        maxLength + 2 ↔
      (cutSides hypot start target maxLength minLength).1 ^ 2 +
          (cutSides hypot start target maxLength minLength).2 ^ 2 ≤
        (maxLength + 2) ^ 2 := by
  have sides := lineCell_sides (shiftedStart_shifted isHypot far)
    (traceSteps_le hypot start target maxLength minLength)
  have bound := distance_le_iff isHypot start
    (lineCell (shiftedStart hypot start target minLength) target
      (traceSteps hypot start target maxLength minLength)) (maxLength + 2)
  push_cast at bound
  rw [bound, sides.1, sides.2, traceSteps_of_cut cut]
  rfl

theorem last_le_iff
    (far : ¬distance hypot start target < minLength) :
    distance hypot start
        (lineCell (shiftedStart hypot start target minLength) target
          (traceSteps hypot start target maxLength minLength)) ≤
        maxLength + 2 ↔
      CutInRange hypot start target maxLength minLength := by
  by_cases uncut : distance hypot start target ≤ maxLength
  · exact ⟨fun _ => Or.inr (Or.inr (Or.inl uncut)),
      fun _ => last_le_of_uncut isHypot far uncut⟩
  · have cut := lt_of_not_ge uncut
    unfold CutInRange
    rw [← last_le_iff_of_cut isHypot far cut]
    constructor
    · exact fun last => Or.inr (Or.inr (Or.inr last))
    · rintro (tooFar | unshifted | whole | last)
      · exact absurd tooFar far
      · rw [traceSteps_of_cut cut,
          (shiftedStart_shifted isHypot far).unmoved unshifted]
        exact last_le_of_unshifted isHypot cut
      · exact absurd whole uncut
      · exact last

theorem respectsRange_iff
    {grid : Grid K}
    (startInside : start.x < grid.sizeX ∧ start.y < grid.sizeY)
    (targetInside : target.x < grid.sizeX ∧ target.y < grid.sizeY) :
    RespectsRange hypot grid start target maxLength minLength ↔
      CutInRange hypot start target maxLength minLength := by
  by_cases far : distance hypot start target < minLength
  · have empty : raytraceLine hypot grid.sizeX start target maxLength
        minLength = [] := by
      unfold raytraceLine
      exact if_pos far
    refine ⟨fun _ => Or.inl far, fun _ => ?_⟩
    constructor
    · rw [empty]
      exact nofun
    · rw [visitedCells, empty]
      exact nofun
    · rw [visitedCells, empty]
      exact nofun
    · rw [visitedCells, empty]
      exact List.isChain_nil
  · have shifted := shiftedStart_shifted isHypot far
    have shiftedInside := shifted.inside startInside targetInside
    have stepsLe := traceSteps_le hypot start target maxLength minLength
    rw [← last_le_iff isHypot far,
      ← upper_iff isHypot far startInside targetInside]
    refine ⟨RespectsRange.upper, fun upper => ?_⟩
    have cells := visitedCells_eq hypot start target maxLength minLength far
      shiftedInside targetInside
    constructor
    · rw [raytraceLine_eq hypot start target maxLength minLength _ far]
      intro offset isOffset
      obtain ⟨i, inRange, rfl⟩ := List.mem_map.mp isOffset
      have inside := lineCell_inside shiftedInside targetInside
        ((Nat.lt_succ_iff.mp (List.mem_range.mp inRange)).trans stepsLe)
      have position := rowMajor_lt inside.2 inside.1
      refine ⟨Int.natCast_nonneg _, ?_⟩
      dsimp only
      exact_mod_cast position
    · exact upper
    · rw [cells]
      intro cell isCell
      obtain ⟨i, inRange, rfl⟩ := List.mem_map.mp isCell
      have away := (lineCell_distance isHypot shifted
        (Nat.lt_succ_iff.mp (List.mem_range.mp inRange)) stepsLe).1
      linarith [shifted.far]
    · rw [cells]
      exact lineCell_chain _ stepsLe

end

end Traces

section RealNumbers

/-- For every two cells of a map, the line respects its range exactly where it
is cut in range. -/
theorem raytraceLine_respectsRange_iff
    (grid : Grid ℝ)
    (start target : MapLocation)
    (maxLength minLength : ℕ)
    (startInside : start.x < grid.sizeX ∧ start.y < grid.sizeY)
    (targetInside : target.x < grid.sizeX ∧ target.y < grid.sizeY) :
    RespectsRange hypot grid start target maxLength minLength ↔
      CutInRange hypot start target maxLength minLength :=
  respectsRange_iff isHypot_hypot startInside targetInside

/-- A row of 17 cells. -/
def singleRow : Grid ℝ :=
  ⟨17, 1, 1, 0, 0⟩

theorem distance_singleRow :
    distance hypot ⟨0, 0⟩ ⟨16, 0⟩ = 16 := by
  unfold distance hypot
  norm_num

/-- On a row whose line is not cut, the range is respected. -/
theorem singleRow_respectsRange_iff :
    RespectsRange hypot singleRow ⟨0, 0⟩ ⟨16, 0⟩ 20 4 := by
  refine (raytraceLine_respectsRange_iff singleRow ⟨0, 0⟩ ⟨16, 0⟩ 20 4
    ⟨by norm_num [singleRow], by norm_num [singleRow]⟩
    ⟨by norm_num [singleRow], by norm_num [singleRow]⟩).mpr
    (.inr (.inr (.inl ?_)))
  rw [distance_singleRow]
  norm_num

theorem cutSides_singleRow :
    cutSides hypot ⟨0, 0⟩ ⟨16, 0⟩ 4 4 = (7, 0) := by
  have shifted : shiftedStart hypot ⟨0, 0⟩ ⟨16, 0⟩ 4 = ⟨4, 0⟩ := by
    unfold shiftedStart
    rw [distance_singleRow]
    norm_num
    rfl
  unfold cutSides
  rw [shifted, distance_singleRow]
  norm_num [longerSide, moved, rise]
  rfl

/-- A line over 16 cells that is to be cut to 4 cells, and that starts after 4
cells, goes on to the cell at 7. -/
theorem singleRow_not_respectsRange :
    ¬RespectsRange hypot singleRow ⟨0, 0⟩ ⟨16, 0⟩ 4 4 := by
  intro respects
  have far : ¬distance hypot ⟨0, 0⟩ ⟨16, 0⟩ < (4 : ℕ) := by
    rw [distance_singleRow]
    norm_num
  have cut : ((4 : ℕ) : ℝ) < distance hypot ⟨0, 0⟩ ⟨16, 0⟩ := by
    rw [distance_singleRow]
    norm_num
  have last := (upper_iff isHypot_hypot far
    (⟨by norm_num [singleRow], by norm_num [singleRow]⟩ :
      0 < singleRow.sizeX ∧ 0 < singleRow.sizeY)
    ⟨by norm_num [singleRow], by norm_num [singleRow]⟩ _).mp respects.upper
  rw [last_le_iff_of_cut isHypot_hypot far cut, cutSides_singleRow] at last
  norm_num at last

end RealNumbers

end Raytrace

end NavBim
