import NavBim.TopomapPlanner

namespace NavBim

/-!
# Walking lines of stairs and ramps

The walking line of a stair or ramp is a planar polyline.  It is lifted to a
path in space whose height grows evenly with the distance walked, and points are
inserted so that neighbouring points are close.  Coordinates are rounded to
millimetres; the rounding is a parameter.

Without rounding, inserting points changes neither the length nor the cost of a
path, and both depend on the line only through its length.
-/

section Model

variable {K : Type} [Field K] [SquareRoot K]

def planarDistance
    (first second : K × K) : K :=
  SquareRoot.sqrt ((second.1 - first.1) ^ 2 + (second.2 - first.2) ^ 2)

/-- The distances walked at the points of a line, given the one at the first. -/
def distancesFrom
    (walked : K)
    (point : K × K) :
    List (K × K) → List K
  | [] => [walked]
  | next :: rest =>
      walked :: distancesFrom (walked + planarDistance point next) next rest

def cumulativeDistances : List (K × K) → List K
  | [] => [0]
  | point :: rest => distancesFrom 0 point rest

def totalDistance
    (line : List (K × K)) : K :=
  (cumulativeDistances line).getLastD 0

/-- The point of a path at a point of the line. -/
def liftedPoint
    (round : K → K)
    (startZ endZ total : K)
    (point : K × K)
    (walked : K) : Coords K :=
  (round point.1, round point.2,
    round (startZ + (endZ - startZ) * (walked / total)))

/-- The length of a segment whose squared height counts by a weight. -/
def segmentLength
    (weight : K)
    (first second : Coords K) : K :=
  let dx := second.1 - first.1
  let dy := second.2.1 - first.2.1
  let dz := second.2.2 - first.2.2
  SquareRoot.sqrt (dx ^ 2 + dy ^ 2 + weight * dz ^ 2)

/-- The point at a part of the way from one point to another. -/
def pointBetween
    (first second : Coords K)
    (part : K) : Coords K :=
  (first.1 + part * (second.1 - first.1),
    first.2.1 + part * (second.2.1 - first.2.1),
    first.2.2 + part * (second.2.2 - first.2.2))

def roundPoint
    (round : K → K)
    (point : Coords K) : Coords K :=
  (round point.1, round point.2.1, round point.2.2)

/-- The length or cost of a path, summed over its segments. -/
def pathTotal
    (weight : K)
    (path : List (Coords K)) : K :=
  ((path.zip path.tail).map fun segment =>
    segmentLength weight segment.1 segment.2).sum

variable [LinearOrder K] [FloorSemiring K]

variable
  (round : K → K)

/-- Intermediate points of a segment that is longer than the resolution. -/
def insertedPoints
    (resolution : K)
    (first second : Coords K) : List (Coords K) :=
  if resolution < segmentLength 1 first second then
    let numPoints := ⌈segmentLength 1 first second / resolution⌉₊
    (List.range' 1 (numPoints - 1)).map fun j : Nat =>
      roundPoint round (pointBetween first second ((j : K) / numPoints))
  else
    []

def densifiedPath
    (resolution : K) :
    List (Coords K) → List (Coords K)
  | [] => []
  | [point] => [point]
  | first :: second :: rest =>
      first :: (insertedPoints round resolution first second ++
        densifiedPath resolution (second :: rest))

/-- The path along a walking line between two heights.  A line of less than two
points, or without any length, has none. -/
def interpolateWalkingLine3d
    (resolution : K)
    (line : List (K × K))
    (startZ endZ : K) : List (Coords K) :=
  if line.length < 2 then
    []
  else if totalDistance line = 0 then
    []
  else
    densifiedPath round resolution
      (line.zipWith (liftedPoint round startZ endZ (totalDistance line))
        (cumulativeDistances line))

end Model

section Length

theorem planarDistance_nonneg
    (first second : ℝ × ℝ) :
    0 ≤ planarDistance first second :=
  Real.sqrt_nonneg _

theorem planarDistance_sq
    (first second : ℝ × ℝ) :
    planarDistance first second ^ 2 =
      (second.1 - first.1) ^ 2 + (second.2 - first.2) ^ 2 :=
  Real.sq_sqrt (by positivity)

/-- The length of a line, point by point. -/
noncomputable def planarLength
    (point : ℝ × ℝ) :
    List (ℝ × ℝ) → ℝ
  | [] => 0
  | next :: rest => planarDistance point next + planarLength next rest

theorem distancesFrom_starts
    (walked : ℝ)
    (point : ℝ × ℝ)
    (rest : List (ℝ × ℝ)) :
    ∃ distances, distancesFrom walked point rest = walked :: distances := by
  cases rest with
  | nil => exact ⟨[], rfl⟩
  | cons next rest => exact ⟨_, rfl⟩

theorem getLastD_distancesFrom
    (walked : ℝ)
    (point : ℝ × ℝ)
    (rest : List (ℝ × ℝ)) :
    (distancesFrom walked point rest).getLastD 0 =
      walked + planarLength point rest := by
  induction rest generalizing walked point with
  | nil => simp [distancesFrom, planarLength]
  | cons next rest inductionHypothesis =>
      have last := inductionHypothesis (walked + planarDistance point next) next
      obtain ⟨distances, starts⟩ :=
        distancesFrom_starts (walked + planarDistance point next) next rest
      rw [starts] at last
      rw [distancesFrom, starts, planarLength, ← add_assoc, ← last]
      rfl

theorem totalDistance_cons
    (point : ℝ × ℝ)
    (rest : List (ℝ × ℝ)) :
    totalDistance (point :: rest) = planarLength point rest := by
  rw [totalDistance, cumulativeDistances, getLastD_distancesFrom, zero_add]

theorem totalDistance_nonneg
    (line : List (ℝ × ℝ)) :
    0 ≤ totalDistance line := by
  cases line with
  | nil => exact le_refl _
  | cons point rest =>
      rw [totalDistance_cons]
      induction rest generalizing point with
      | nil => exact le_refl _
      | cons next rest inductionHypothesis =>
          exact add_nonneg (planarDistance_nonneg point next)
            (inductionHypothesis next)

@[simp] theorem pathTotal_singleton
    (weight : ℝ)
    (point : Coords ℝ) :
    pathTotal weight [point] = 0 :=
  rfl

@[simp] theorem pathTotal_cons_cons
    (weight : ℝ)
    (first second : Coords ℝ)
    (rest : List (Coords ℝ)) :
    pathTotal weight (first :: second :: rest) =
      segmentLength weight first second + pathTotal weight (second :: rest) :=
  rfl

theorem pathTotal_append
    (weight : ℝ)
    (earlier later : List (Coords ℝ))
    (point : Coords ℝ) :
    pathTotal weight (earlier ++ point :: later) =
      pathTotal weight (earlier ++ [point]) +
        pathTotal weight (point :: later) := by
  induction earlier with
  | nil => simp
  | cons first rest inductionHypothesis =>
      cases rest with
      | nil => simp
      | cons second rest =>
          simp only [List.cons_append, pathTotal_cons_cons, add_assoc] at *
          rw [inductionHypothesis]

section Lifting

variable {weight startZ endZ total : ℝ}

theorem segmentLength_lifted
    (point next : ℝ × ℝ)
    (walked : ℝ) :
    segmentLength weight
        (liftedPoint id startZ endZ total point walked)
        (liftedPoint id startZ endZ total next
          (walked + planarDistance point next)) =
      planarDistance point next *
        Real.sqrt (1 + weight * ((endZ - startZ) / total) ^ 2) := by
  have square :
      (next.1 - point.1) ^ 2 + (next.2 - point.2) ^ 2 +
          weight * (startZ + (endZ - startZ) *
            ((walked + planarDistance point next) / total) -
            (startZ + (endZ - startZ) * (walked / total))) ^ 2 =
        planarDistance point next ^ 2 *
          (1 + weight * ((endZ - startZ) / total) ^ 2) := by
    rw [← planarDistance_sq]
    ring
  calc
    _ = Real.sqrt (planarDistance point next ^ 2 *
          (1 + weight * ((endZ - startZ) / total) ^ 2)) := congrArg _ square
    _ = _ := by
      rw [Real.sqrt_mul (sq_nonneg _),
        Real.sqrt_sq (planarDistance_nonneg point next)]

theorem pathTotal_lifted
    (point : ℝ × ℝ)
    (rest : List (ℝ × ℝ))
    (walked : ℝ) :
    pathTotal weight
        ((point :: rest).zipWith (liftedPoint id startZ endZ total)
          (distancesFrom walked point rest)) =
      planarLength point rest *
        Real.sqrt (1 + weight * ((endZ - startZ) / total) ^ 2) := by
  induction rest generalizing point walked with
  | nil => simp [distancesFrom, planarLength]
  | cons next rest inductionHypothesis =>
      have later := inductionHypothesis next
        (walked + planarDistance point next)
      obtain ⟨distances, starts⟩ :=
        distancesFrom_starts (walked + planarDistance point next) next rest
      rw [starts, List.zipWith_cons_cons] at later
      rw [distancesFrom, starts, List.zipWith_cons_cons, List.zipWith_cons_cons,
        pathTotal_cons_cons, segmentLength_lifted, later, planarLength, add_mul]

end Lifting

section Densifying

variable {weight resolution : ℝ} (first second : Coords ℝ)

theorem segmentLength_between
    {part next : ℝ}
    (isLater : part ≤ next) :
    segmentLength weight (pointBetween first second part)
        (pointBetween first second next) =
      (next - part) * segmentLength weight first second := by
  have square :
      (first.1 + next * (second.1 - first.1) -
            (first.1 + part * (second.1 - first.1))) ^ 2 +
          (first.2.1 + next * (second.2.1 - first.2.1) -
            (first.2.1 + part * (second.2.1 - first.2.1))) ^ 2 +
          weight * (first.2.2 + next * (second.2.2 - first.2.2) -
            (first.2.2 + part * (second.2.2 - first.2.2))) ^ 2 =
        (next - part) ^ 2 *
          ((second.1 - first.1) ^ 2 + (second.2.1 - first.2.1) ^ 2 +
            weight * (second.2.2 - first.2.2) ^ 2) := by
    ring
  calc
    _ = Real.sqrt ((next - part) ^ 2 *
          ((second.1 - first.1) ^ 2 + (second.2.1 - first.2.1) ^ 2 +
            weight * (second.2.2 - first.2.2) ^ 2)) := congrArg _ square
    _ = _ := by
      rw [Real.sqrt_mul (sq_nonneg _), Real.sqrt_sq (sub_nonneg.mpr isLater)]
      rfl

theorem pathTotal_evenly
    (numPoints start count : Nat) :
    pathTotal weight
        ((List.range' start (count + 1)).map fun j : Nat =>
          pointBetween first second (j / numPoints)) =
      count * (1 / numPoints : ℝ) * segmentLength weight first second := by
  induction count generalizing start with
  | zero => simp [List.range'_succ]
  | succ count inductionHypothesis =>
      have isLater : (start / numPoints : ℝ) ≤ (start + 1 : Nat) / numPoints :=
        div_le_div_of_nonneg_right (by push_cast; linarith)
          (Nat.cast_nonneg numPoints)
      have later := inductionHypothesis (start + 1)
      rw [List.range'_succ, List.map_cons] at later
      rw [List.range'_succ, List.range'_succ, List.map_cons, List.map_cons,
        pathTotal_cons_cons, later, segmentLength_between _ _ isLater]
      push_cast
      ring

/-- Both ends are evenly spaced points too. -/
theorem evenPoints_eq
    (count : Nat) :
    (List.range' 0 (count + 1 + 1)).map (fun j : Nat =>
        pointBetween first second (j / (count + 1 : Nat))) =
      first :: (List.range' 1 count).map (fun j : Nat =>
        pointBetween first second (j / (count + 1 : Nat))) ++ [second] := by
  have positive : ((count + 1 : Nat) : ℝ) ≠ 0 :=
    Nat.cast_ne_zero.mpr count.succ_ne_zero
  have atStart :
      pointBetween first second ((0 : Nat) / (count + 1 : Nat)) = first := by
    simp [pointBetween]
  have atEnd :
      pointBetween first second
        ((1 + 1 * count : Nat) / (count + 1 : Nat)) = second := by
    rw [one_mul, add_comm 1 count, div_self positive]
    simp [pointBetween]
  rw [List.range'_succ, List.range'_concat, List.map_cons, List.map_append,
    List.map_singleton, atStart, atEnd]
  rfl

theorem pathTotal_evenlyBetween
    (numPoints : Nat) :
    pathTotal weight
        (first :: (List.range' 1 (numPoints - 1)).map (fun j : Nat =>
          pointBetween first second (j / numPoints)) ++ [second]) =
      segmentLength weight first second := by
  cases numPoints with
  | zero => simp
  | succ count =>
      have positive : ((count + 1 : Nat) : ℝ) ≠ 0 :=
        Nat.cast_ne_zero.mpr count.succ_ne_zero
      rw [Nat.add_sub_cancel, ← evenPoints_eq, pathTotal_evenly,
        mul_one_div_cancel positive, one_mul]

theorem pathTotal_insertedPoints :
    pathTotal weight
        (first :: insertedPoints id resolution first second ++ [second]) =
      segmentLength weight first second := by
  rw [insertedPoints]
  split
  · exact pathTotal_evenlyBetween first second _
  · simp

end Densifying

theorem densifiedPath_starts
    (round : ℝ → ℝ)
    (resolution : ℝ)
    (first : Coords ℝ)
    (rest : List (Coords ℝ)) :
    ∃ later, densifiedPath round resolution (first :: rest) =
      first :: later := by
  cases rest with
  | nil => exact ⟨[], rfl⟩
  | cons second rest => exact ⟨_, rfl⟩

theorem pathTotal_densifiedPath
    {weight resolution : ℝ}
    (path : List (Coords ℝ)) :
    pathTotal weight (densifiedPath id resolution path) =
      pathTotal weight path := by
  induction path with
  | nil => rfl
  | cons first rest inductionHypothesis =>
      cases rest with
      | nil => rfl
      | cons second rest =>
          obtain ⟨later, starts⟩ := densifiedPath_starts id resolution second rest
          rw [densifiedPath, starts, ← List.cons_append, pathTotal_append,
            pathTotal_insertedPoints, ← starts, inductionHypothesis,
            pathTotal_cons_cons]

variable
  {line : List (ℝ × ℝ)}

theorem interpolateWalkingLine3d_of_length
    (round : ℝ → ℝ)
    (resolution startZ endZ : ℝ)
    (hasLength : 0 < totalDistance line) :
    ∃ first second rest,
      line = first :: second :: rest ∧
      interpolateWalkingLine3d round resolution line startZ endZ =
        densifiedPath round resolution
          (line.zipWith (liftedPoint round startZ endZ (totalDistance line))
            (cumulativeDistances line)) := by
  match line with
  | [] => exact absurd hasLength (lt_irrefl 0)
  | [point] => exact absurd hasLength (lt_irrefl 0)
  | first :: second :: rest =>
      refine ⟨first, second, rest, rfl, ?_⟩
      rw [interpolateWalkingLine3d, if_neg (by simp), if_neg hasLength.ne']

theorem interpolateWalkingLine3d_ne_nil
    {round : ℝ → ℝ}
    {resolution startZ endZ : ℝ}
    (hasLength : 0 < totalDistance line) :
    interpolateWalkingLine3d round resolution line startZ endZ ≠ [] := by
  obtain ⟨first, second, rest, rfl, path⟩ :=
    interpolateWalkingLine3d_of_length round resolution startZ endZ hasLength
  rw [path]
  cases rest with
  | nil => exact List.cons_ne_nil _ _
  | cons _ _ => exact List.cons_ne_nil _ _

/-- The path along a walking line is as long as a straight path that covers the
length of the line and the height. -/
theorem pathTotal_interpolateWalkingLine3d
    {weight resolution startZ endZ : ℝ}
    (hasLength : 0 < totalDistance line) :
    pathTotal weight
        (interpolateWalkingLine3d id resolution line startZ endZ) =
      Real.sqrt (totalDistance line ^ 2 + weight * (endZ - startZ) ^ 2) := by
  obtain ⟨-, -, -, -, path⟩ :=
    interpolateWalkingLine3d_of_length id resolution startZ endZ hasLength
  rw [path, pathTotal_densifiedPath]
  cases line with
  | nil => exact absurd hasLength (lt_irrefl 0)
  | cons point rest =>
      have square :
          totalDistance (point :: rest) ^ 2 + weight * (endZ - startZ) ^ 2 =
            totalDistance (point :: rest) ^ 2 *
              (1 + weight *
                ((endZ - startZ) / totalDistance (point :: rest)) ^ 2) := by
        field_simp
      rw [cumulativeDistances, pathTotal_lifted, ← totalDistance_cons, square,
        Real.sqrt_mul (sq_nonneg _), Real.sqrt_sq hasLength.le]

theorem interpolateWalkingLine3d_of_no_length
    {resolution startZ endZ : ℝ}
    (noLength : totalDistance line = 0) :
    interpolateWalkingLine3d id resolution line startZ endZ = [] := by
  rw [interpolateWalkingLine3d, if_pos noLength, ite_self]

end Length

end NavBim
