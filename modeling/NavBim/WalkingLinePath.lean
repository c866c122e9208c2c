import NavBim.InsertBetween
import NavBim.WalkingLine

namespace NavBim.WalkingLinePath

open InsertBetween

/-!
# Paths along walking lines

Without rounding, the path along a walking line goes from its first point at the
first height to its last point at the other height.  It passes all points of the
line, its height changes in one direction only, its steps are no longer than the
resolution, and inserting points has not made it longer.
-/

/-- The points of the line, before others are inserted. -/
noncomputable def interpolatedPath
    (startZ endZ : ℝ)
    (line : List (ℝ × ℝ)) : List (Coords ℝ) :=
  line.zipWith (liftedPoint id startZ endZ (totalDistance line))
    (cumulativeDistances line)

def planarPoint (point : Coords ℝ) : ℝ × ℝ :=
  (point.1, point.2.1)

def height (point : Coords ℝ) : ℝ :=
  point.2.2

/-- What a path along a walking line is for. -/
structure FollowsLine
    (resolution startZ endZ : ℝ)
    (line : List (ℝ × ℝ))
    (path : List (Coords ℝ)) : Prop where
  starts : path.head? =
    line.head?.map fun point => (point.1, point.2, startZ)
  ends : path.getLast? =
    line.getLast?.map fun point => (point.1, point.2, endZ)
  vertices : line.Sublist (path.map planarPoint)
  rises : startZ ≤ endZ → (path.map height).Pairwise (· ≤ ·)
  falls : endZ ≤ startZ → (path.map height).Pairwise (· ≥ ·)
  between : ∀ point ∈ path, height point ∈ Set.uIcc startZ endZ
  close : path.IsChain fun first second =>
    segmentLength 1 first second ≤ resolution
  length : pathTotal 1 path = pathTotal 1 (interpolatedPath startZ endZ line)

/-! ## Inserted points -/

theorem densifiedPath_eq
    (round : ℝ → ℝ)
    (resolution : ℝ)
    (path : List (Coords ℝ)) :
    densifiedPath round resolution path =
      insertBetween (insertedPoints round resolution) path := by
  induction path with
  | nil => rfl
  | cons first rest inductionHypothesis =>
      cases rest with
      | nil => rfl
      | cons second rest =>
          rw [densifiedPath, inductionHypothesis]
          rfl

section Inserting

variable {resolution : ℝ} {first second : Coords ℝ}
  {R : Coords ℝ → Coords ℝ → Prop}

theorem isChain_evenPoints
    (numPoints : Nat)
    (several : 0 < numPoints)
    (steps : ∀ j : Nat, R (pointBetween first second (j / numPoints))
      (pointBetween first second ((j + 1 : Nat) / numPoints))) :
    (first :: ((List.range' 1 (numPoints - 1)).map (fun j : Nat =>
      pointBetween first second (j / numPoints)) ++ [second])).IsChain R := by
  cases numPoints with
  | zero => exact absurd several (lt_irrefl 0)
  | succ count =>
      have points := evenPoints_eq first second count
      rw [Nat.add_sub_cancel, ← List.cons_append, ← points]
      apply (List.isChain_map _).mpr
      rw [← List.range_eq_range']
      exact (List.isChain_range_succ _ _).mpr fun j _ => steps j

/-- Neighbours among inserted points are parts of their segment, and not farther
apart than the resolution. -/
theorem isChain_insertedPoints
    (positive : 0 < resolution)
    (parts : ∀ part next : ℝ, part ≤ next →
      (next - part) * segmentLength 1 first second ≤ resolution →
      R (pointBetween first second part) (pointBetween first second next)) :
    (first :: (insertedPoints id resolution first second ++
      [second])).IsChain R := by
  unfold insertedPoints
  split
  · next isLong =>
      have several :
          0 < ⌈segmentLength 1 first second / resolution⌉₊ :=
        Nat.ceil_pos.mpr (div_pos (positive.trans isLong) positive)
      have someParts :
          (0 : ℝ) < ⌈segmentLength 1 first second / resolution⌉₊ :=
        Nat.cast_pos.mpr several
      apply isChain_evenPoints _ several
      intro j
      apply parts
      · apply div_le_div_of_nonneg_right _ someParts.le
        exact_mod_cast Nat.le_succ j
      · -- enough parts that each is within the resolution
        have enough := Nat.le_ceil (segmentLength 1 first second / resolution)
        rw [div_le_iff₀ positive] at enough
        rw [← sub_div, Nat.cast_succ, add_sub_cancel_left, one_div_mul_eq_div]
        rwa [div_le_iff₀ someParts, mul_comm]
  · next isShort =>
      have atStart : pointBetween first second 0 = first := by
        simp [pointBetween]
      have atEnd : pointBetween first second 1 = second := by
        simp [pointBetween]
      have whole := parts 0 1 zero_le_one
        (by rw [sub_zero, one_mul]; exact not_lt.mp isShort)
      rw [atStart, atEnd] at whole
      exact List.isChain_cons_cons.mpr ⟨whole, List.isChain_singleton _⟩

theorem isChain_close
    (positive : 0 < resolution)
    (path : List (Coords ℝ)) :
    (densifiedPath id resolution path).IsChain fun first second =>
      segmentLength 1 first second ≤ resolution := by
  rw [densifiedPath_eq]
  have anything : path.IsChain fun _ _ => True :=
    (List.pairwise_of_forall fun _ _ => trivial).isChain
  apply isChain_insertBetween _ anything
  intro first second _
  apply isChain_insertedPoints positive
  intro part next isLater within
  rwa [segmentLength_between first second isLater]

theorem isChain_heights
    {Changes : ℝ → Prop}
    (scales : ∀ factor change, 0 ≤ factor → Changes change →
      Changes (factor * change))
    (positive : 0 < resolution)
    {path : List (Coords ℝ)}
    (chain : path.IsChain fun first second =>
      Changes (height second - height first)) :
    (densifiedPath id resolution path).IsChain fun first second =>
      Changes (height second - height first) := by
  rw [densifiedPath_eq]
  apply isChain_insertBetween _ chain
  intro first second changes
  apply isChain_insertedPoints positive
  intro part next isLater _
  have change : height (pointBetween first second next) -
      height (pointBetween first second part) =
      (next - part) * (height second - height first) := by
    unfold height pointBetween
    ring
  rw [change]
  exact scales _ _ (sub_nonneg.mpr isLater) changes

end Inserting

/-! ## Points of the line -/

section Lifting

variable {startZ endZ total : ℝ}

/-- The points of a path at those of a line, from what was walked before. -/
noncomputable def liftedFrom
    (startZ endZ total walked : ℝ)
    (point : ℝ × ℝ)
    (rest : List (ℝ × ℝ)) : List (Coords ℝ) :=
  (point :: rest).zipWith (liftedPoint id startZ endZ total)
    (distancesFrom walked point rest)

variable
  (walked : ℝ)

theorem liftedFrom_cons
    (point next : ℝ × ℝ)
    (rest : List (ℝ × ℝ)) :
    liftedFrom startZ endZ total walked point (next :: rest) =
      liftedPoint id startZ endZ total point walked ::
        liftedFrom startZ endZ total (walked + planarDistance point next) next
          rest :=
  rfl

variable
  (point : ℝ × ℝ)

theorem liftedFrom_starts
    (rest : List (ℝ × ℝ)) :
    ∃ more, liftedFrom startZ endZ total walked point rest =
      liftedPoint id startZ endZ total point walked :: more := by
  cases rest with
  | nil => exact ⟨[], rfl⟩
  | cons next rest => exact ⟨_, liftedFrom_cons walked point next rest⟩

theorem isChain_liftedFrom
    {Changes : ℝ → Prop}
    (scales : ∀ factor change, 0 ≤ factor → Changes change →
      Changes (factor * change))
    (changes : Changes (endZ - startZ))
    (nonneg : 0 ≤ total)
    (walked : ℝ)
    (point : ℝ × ℝ)
    (rest : List (ℝ × ℝ)) :
    (liftedFrom startZ endZ total walked point rest).IsChain
      fun first second => Changes (height second - height first) := by
  induction rest generalizing point walked with
  | nil => exact List.isChain_singleton _
  | cons next rest inductionHypothesis =>
      have later := inductionHypothesis (walked + planarDistance point next) next
      obtain ⟨more, isMore⟩ := @liftedFrom_starts startZ endZ total
        (walked + planarDistance point next) next rest
      rw [liftedFrom_cons, isMore]
      rw [isMore] at later
      refine List.isChain_cons_cons.mpr ⟨?_, later⟩
      have change : height (liftedPoint id startZ endZ total next
          (walked + planarDistance point next)) -
          height (liftedPoint id startZ endZ total point walked) =
          planarDistance point next / total * (endZ - startZ) := by
        unfold height liftedPoint
        dsimp only [id]
        ring
      rw [change]
      exact scales _ _ (div_nonneg (planarDistance_nonneg point next) nonneg)
        changes

theorem planarPoint_liftedFrom
    (rest : List (ℝ × ℝ)) :
    (liftedFrom startZ endZ total walked point rest).map planarPoint =
      point :: rest := by
  induction rest generalizing point walked with
  | nil => rfl
  | cons next rest inductionHypothesis =>
      rw [liftedFrom_cons, List.map_cons, inductionHypothesis]
      rfl

theorem getLast?_liftedFrom
    (rest : List (ℝ × ℝ)) :
    (liftedFrom startZ endZ total walked point rest).getLast? =
      (point :: rest).getLast?.map fun last =>
        liftedPoint id startZ endZ total last
          (walked + planarLength point rest) := by
  induction rest generalizing point walked with
  | nil =>
      rw [planarLength, add_zero]
      rfl
  | cons next rest inductionHypothesis =>
      have later := inductionHypothesis (walked + planarDistance point next) next
      obtain ⟨more, isMore⟩ := @liftedFrom_starts startZ endZ total
        (walked + planarDistance point next) next rest
      rw [isMore] at later
      rw [liftedFrom_cons, isMore, List.getLast?_cons_cons, later,
        List.getLast?_cons_cons, planarLength, add_assoc]

end Lifting

/-! ## The whole path -/

section Path

variable {resolution startZ endZ : ℝ} {line : List (ℝ × ℝ)}

theorem liftedPoint_first
    (total : ℝ)
    (point : ℝ × ℝ) :
    liftedPoint id startZ endZ total point 0 = (point.1, point.2, startZ) := by
  simp [liftedPoint]

theorem liftedPoint_last
    {total : ℝ}
    (positive : 0 < total)
    (point : ℝ × ℝ) :
    liftedPoint id startZ endZ total point total =
      (point.1, point.2, endZ) := by
  unfold liftedPoint
  rw [div_self positive.ne', mul_one, add_sub_cancel]
  rfl

theorem interpolatedPath_cons
    (point : ℝ × ℝ)
    (rest : List (ℝ × ℝ)) :
    interpolatedPath startZ endZ (point :: rest) =
      liftedFrom startZ endZ (planarLength point rest) 0 point rest := by
  unfold interpolatedPath
  rw [totalDistance_cons]
  rfl

theorem isChain_path
    {Changes : ℝ → Prop}
    (scales : ∀ factor change, 0 ≤ factor → Changes change →
      Changes (factor * change))
    (changes : Changes (endZ - startZ))
    (hasLength : 0 < totalDistance line)
    (positive : 0 < resolution) :
    (densifiedPath id resolution (interpolatedPath startZ endZ line)).IsChain
      fun first second => Changes (height second - height first) := by
  apply isChain_heights scales positive
  cases line with
  | nil => exact absurd hasLength (lt_irrefl 0)
  | cons point rest =>
      rw [totalDistance_cons] at hasLength
      rw [interpolatedPath_cons]
      exact isChain_liftedFrom scales changes hasLength.le 0 point rest

theorem pairwise_rises
    (hasLength : 0 < totalDistance line)
    (positive : 0 < resolution)
    (upwards : startZ ≤ endZ) :
    ((densifiedPath id resolution
      (interpolatedPath startZ endZ line)).map height).Pairwise (· ≤ ·) := by
  have chain := isChain_path (fun _ _ => mul_nonneg) (sub_nonneg.mpr upwards)
    hasLength positive
  apply List.isChain_iff_pairwise.mp
  apply (List.isChain_map height).mpr
  exact chain.imp fun first second => sub_nonneg.mp

theorem pairwise_falls
    (hasLength : 0 < totalDistance line)
    (positive : 0 < resolution)
    (downwards : endZ ≤ startZ) :
    ((densifiedPath id resolution
      (interpolatedPath startZ endZ line)).map height).Pairwise (· ≥ ·) := by
  have chain := @isChain_path resolution startZ endZ line (· ≤ 0)
    (fun _ _ => mul_nonpos_of_nonneg_of_nonpos) (sub_nonpos.mpr downwards)
    hasLength positive
  apply List.isChain_iff_pairwise.mp
  apply (List.isChain_map height).mpr
  exact chain.imp fun first second => sub_nonpos.mp

theorem head?_interpolatedPath
    (startZ endZ : ℝ)
    (line : List (ℝ × ℝ)) :
    (interpolatedPath startZ endZ line).head? =
      line.head?.map fun point => (point.1, point.2, startZ) := by
  cases line with
  | nil => rfl
  | cons point rest =>
      obtain ⟨more, isMore⟩ :=
        @liftedFrom_starts startZ endZ (planarLength point rest) 0 point rest
      rw [interpolatedPath_cons, isMore, liftedPoint_first]
      rfl

theorem getLast?_interpolatedPath
    (hasLength : 0 < totalDistance line) :
    (interpolatedPath startZ endZ line).getLast? =
      line.getLast?.map fun point => (point.1, point.2, endZ) := by
  cases line with
  | nil => exact absurd hasLength (lt_irrefl 0)
  | cons point rest =>
      rw [totalDistance_cons] at hasLength
      rw [interpolatedPath_cons, getLast?_liftedFrom, zero_add]
      simp only [liftedPoint_last hasLength]

theorem planarPoint_interpolatedPath
    (startZ endZ : ℝ)
    (line : List (ℝ × ℝ)) :
    (interpolatedPath startZ endZ line).map planarPoint = line := by
  cases line with
  | nil => rfl
  | cons point rest =>
      rw [interpolatedPath_cons, planarPoint_liftedFrom]

/-- Heights that change in one direction stay between both ends. -/
theorem heights_between
    {path : List (Coords ℝ)}
    {first last : Coords ℝ}
    (isFirst : path.head? = some first)
    (isLast : path.getLast? = some last)
    (ordered : height first ≤ height last →
      (path.map height).Pairwise (· ≤ ·))
    (reversed : height last ≤ height first →
      (path.map height).Pairwise (· ≥ ·)) :
    ∀ point ∈ path, height point ∈ Set.uIcc (height first) (height last) := by
  intro point isIn
  have heightIn := List.mem_map_of_mem (f := height) isIn
  have firstHeight : (path.map height).head? = some (height first) := by
    rw [List.head?_map, isFirst, Option.map_some]
  have lastHeight : (path.map height).getLast? = some (height last) := by
    rw [List.getLast?_map, isLast, Option.map_some]
  cases le_total (height first) (height last) with
  | inl upwards =>
      rw [Set.uIcc_of_le upwards]
      exact between_ends le_refl (ordered upwards) firstHeight lastHeight _
        heightIn
  | inr downwards =>
      rw [Set.uIcc_of_ge downwards]
      have sides := @between_ends ℝ (· ≥ ·) _ _ _ le_refl (reversed downwards)
        firstHeight lastHeight _ heightIn
      exact sides.symm

/-- The path along a walking line does what it is for. -/
theorem interpolateWalkingLine3d_follows
    (hasLength : 0 < totalDistance line)
    (positive : 0 < resolution) :
    FollowsLine resolution startZ endZ line
      (interpolateWalkingLine3d id resolution line startZ endZ) := by
  obtain ⟨point, next, rest, isLine, isPath⟩ :=
    interpolateWalkingLine3d_of_length id resolution startZ endZ hasLength
  change _ = densifiedPath id resolution (interpolatedPath startZ endZ line)
    at isPath
  rw [isPath]
  have starts : (densifiedPath id resolution
      (interpolatedPath startZ endZ line)).head? =
      line.head?.map fun point => (point.1, point.2, startZ) := by
    rw [densifiedPath_eq, head?_insertBetween, head?_interpolatedPath]
  have ends : (densifiedPath id resolution
      (interpolatedPath startZ endZ line)).getLast? =
      line.getLast?.map fun point => (point.1, point.2, endZ) := by
    rw [densifiedPath_eq, getLast?_insertBetween,
      getLast?_interpolatedPath hasLength]
  have rises := @pairwise_rises resolution startZ endZ line hasLength positive
  have falls := @pairwise_falls resolution startZ endZ line hasLength positive
  refine {
    starts := starts
    ends := ends
    vertices := ?_
    rises := rises
    falls := falls
    between := ?_
    close := isChain_close positive _
    length := pathTotal_densifiedPath _ }
  · have inOrder : (interpolatedPath startZ endZ line).Sublist
        (densifiedPath id resolution (interpolatedPath startZ endZ line)) := by
      rw [densifiedPath_eq]
      exact sublist_insertBetween _
    have planar := inOrder.map planarPoint
    rwa [planarPoint_interpolatedPath] at planar
  · have notEmpty : line ≠ [] := by
      rw [isLine]
      exact List.cons_ne_nil _ _
    rw [List.head?_eq_some_head notEmpty, Option.map_some] at starts
    rw [List.getLast?_eq_some_getLast notEmpty, Option.map_some] at ends
    exact heights_between starts ends rises falls

/-- A line of length five, in steps of one. -/
theorem slantedLine_follows :
    FollowsLine 1 0 2 [(0, 0), (3, 4)]
      (interpolateWalkingLine3d id 1 [(0, 0), (3, 4)] 0 2) := by
  apply interpolateWalkingLine3d_follows
  · rw [totalDistance_cons, planarLength, planarLength, add_zero]
    apply Real.sqrt_pos.mpr
    norm_num
  · exact one_pos

end Path

end NavBim.WalkingLinePath
