import NavBim.PolygonFill

namespace NavBim

/-!
# Filled polygons

The sides of a polygon are a closed walk over its cells, so every column between
the first and the last one of them is passed by two sides at least, each of
which has a cell there.  The outline therefore has two cells at least in every
column, and the polygon is filled with exactly the cells between the lowest and
the highest cell of the outline.
-/

namespace PolygonFill

open Raytrace

/-- Two sides are no longer than the number of cells of a grid they lie in. -/
theorem sides_le
    {sideX sideY cells : ℕ}
    (fits : (sideX + 1) * (sideY + 1) ≤ cells + 1) :
    sideX ^ 2 + sideY ^ 2 ≤ cells ^ 2 := by
  have product : (sideX + 1) * (sideY + 1) =
      sideX + sideY + sideX * sideY + 1 := by
    ring
  have square : (sideX + sideY + sideX * sideY) ^ 2 =
      sideX ^ 2 + sideY ^ 2 + ((sideX * sideY) ^ 2 + 2 * (sideX * sideY) +
        2 * (sideX + sideY) * (sideX * sideY)) := by
    ring
  calc
    sideX ^ 2 + sideY ^ 2 ≤ (sideX + sideY + sideX * sideY) ^ 2 :=
      square ▸ Nat.le_add_right _ _
    _ ≤ cells ^ 2 := Nat.pow_le_pow_left (by omega) 2

variable
  {cell : MapLocation}

section Sides

variable
  {K : Type}
  [Field K] [LinearOrder K] [FloorRing K] [IsStrictOrderedRing K]
  {hypot : K → K → K}
  {sizeX sizeY : ℕ}
  {start target : MapLocation}

omit [FloorRing K] in
/-- No two cells are farther apart than the default limit. -/
theorem distance_le_limit
    (isHypot : IsHypot hypot)
    (fits : sizeX * sizeY ≤ 4294967296)
    (startInside : start.x < sizeX ∧ start.y < sizeY)
    (targetInside : target.x < sizeX ∧ target.y < sizeY) :
    distance hypot start target ≤ (4294967295 : ℕ) := by
  rw [distance_le_iff isHypot]
  apply sides_le
  calc
    (((target.x : ℤ) - start.x).natAbs + 1) *
        (((target.y : ℤ) - start.y).natAbs + 1) ≤ sizeX * sizeY :=
      Nat.mul_le_mul (by omega) (by omega)
    _ ≤ 4294967295 + 1 := fits

section

variable
  (isHypot : IsHypot hypot)
  (fits : sizeX * sizeY ≤ 4294967296)
  (startInside : start.x < sizeX ∧ start.y < sizeY)

include isHypot fits startInside

section

variable
  (targetInside : target.x < sizeX ∧ target.y < sizeY)

include targetInside

/-- A side is drawn as a whole. -/
theorem sideCells_eq :
    sideCells hypot sizeX start target =
      (List.range (longerSide start target + 1)).map
        (lineCell start target) := by
  have nonneg := distance_nonneg isHypot start target
  have limit := distance_le_limit isHypot fits startInside targetInside
  have far : ¬distance hypot start target < (0 : ℕ) := by
    rw [Nat.cast_zero]
    exact not_lt.mpr nonneg
  have unmoved := (shiftedStart_shifted isHypot far).unmoved rfl
  have scale : lengthScale (distance hypot start target) 4294967295 = 1 := by
    unfold lengthScale
    split
    · rfl
    · next apart =>
        apply min_eq_left
        rw [one_le_div (lt_of_le_of_ne nonneg (Ne.symm apart))]
        exact limit
  have steps : traceSteps hypot start target 4294967295 0 =
      longerSide start target := by
    unfold traceSteps
    rw [unmoved, scale]
    dsimp only
    rw [one_mul, Int.floor_natCast, Int.toNat_natCast, Nat.min_self]
  unfold sideCells
  rw [visitedCells_eq hypot start target 4294967295 0 far
    (by rwa [unmoved]) targetInside, unmoved, steps]

theorem mem_sideCells
    (isCell : cell ∈ sideCells hypot sizeX start target) :
    (cell.x < sizeX ∧ cell.y < sizeY) ∧
      min start.x target.x ≤ cell.x ∧ cell.x ≤ max start.x target.x := by
  rw [sideCells_eq isHypot fits startInside targetInside] at isCell
  obtain ⟨i, inRange, rfl⟩ := List.mem_map.mp isCell
  have within := Nat.lt_succ_iff.mp (List.mem_range.mp inRange)
  exact ⟨lineCell_inside startInside targetInside within,
    lineCell_column within⟩

theorem sideCells_reach
    {x : ℕ}
    (passes : ClosedWalk.Passes MapLocation.x x (start, target)) :
    ∃ cell ∈ sideCells hypot sizeX start target, cell.x = x := by
  unfold ClosedWalk.Passes at passes
  dsimp only at passes
  obtain ⟨i, within, inColumn⟩ : ∃ i ≤ longerSide start target,
      (lineCell start target i).x = x :=
    lineCell_reaches (by omega) (by omega)
  refine ⟨_, ?_, inColumn⟩
  rw [sideCells_eq isHypot fits startInside targetInside]
  exact List.mem_map_of_mem (List.mem_range.mpr (Nat.lt_succ_of_le within))

end

end

end Sides

/-- The items of some lists have a property at least as often as the lists that
have an item with it. -/
theorem countP_le_flatMap
    {α β : Type}
    {list : α → List β}
    {some' : α → Bool}
    {property : β → Bool}
    {sources : List α}
    (has : ∀ source ∈ sources, some' source = true →
      ∃ item ∈ list source, property item = true) :
    sources.countP some' ≤ (sources.flatMap list).countP property := by
  induction sources with
  | nil => exact le_refl _
  | cons source sources inductionHypothesis =>
      have rest := inductionHypothesis fun other isOther =>
        has other (List.mem_cons_of_mem _ isOther)
      rw [List.flatMap_cons, List.countP_append, List.countP_cons]
      split
      · next here =>
          obtain ⟨item, isItem, itemHas⟩ := has source List.mem_cons_self here
          have positive := List.countP_pos_iff.mpr ⟨item, isItem, itemHas⟩
          omega
      · omega

section Outlines

variable
  {K : Type}
  [Field K] [LinearOrder K] [FloorRing K] [IsStrictOrderedRing K]
  {hypot : K → K → K}
  {sizeX sizeY : ℕ}

/-- The cells of the closed walk over a polygon's corners. -/
def outlineCells
    (hypot : K → K → K)
    (sizeX : ℕ)
    (first : MapLocation)
    (rest : List MapLocation) : List MapLocation :=
  (ClosedWalk.steps (first :: rest ++ [first])).flatMap fun side =>
    sideCells hypot sizeX side.1 side.2

omit [IsStrictOrderedRing K] in
theorem polygonOutlineCells_eq
    (first : MapLocation)
    (rest : List MapLocation) :
    polygonOutlineCells hypot sizeX (first :: rest) =
      some (outlineCells hypot sizeX first rest) := by
  unfold outlineCells
  rw [ClosedWalk.steps_concat, List.flatMap_append, List.flatMap_singleton]
  rfl

variable
  {first : MapLocation}
  {rest : List MapLocation}

theorem corners_of_side
    {side : MapLocation × MapLocation}
    (isSide : side ∈ ClosedWalk.steps (first :: rest ++ [first])) :
    side.1 ∈ first :: rest ∧ side.2 ∈ first :: rest := by
  have corners := ClosedWalk.mem_of_mem_steps isSide
  simp only [List.mem_append, List.mem_cons, List.not_mem_nil, or_false]
    at corners ⊢
  exact ⟨corners.1.elim id Or.inl, corners.2.elim id Or.inl⟩

section

variable
  (isHypot : IsHypot hypot)
  (fits : sizeX * sizeY ≤ 4294967296)
  (inside : ∀ corner ∈ first :: rest, corner.x < sizeX ∧ corner.y < sizeY)

include isHypot fits inside

theorem mem_outlineCells
    (isCell : cell ∈ outlineCells hypot sizeX first rest) :
    (cell.x < sizeX ∧ cell.y < sizeY) ∧
      (∃ corner ∈ first :: rest, corner.x ≤ cell.x) ∧
      ∃ corner ∈ first :: rest, cell.x ≤ corner.x := by
  obtain ⟨side, isSide, onSide⟩ := List.mem_flatMap.mp isCell
  obtain ⟨start, target⟩ := corners_of_side isSide
  obtain ⟨cellInside, atLeast, atMost⟩ := mem_sideCells isHypot fits
    (inside _ start) (inside _ target) onSide
  refine ⟨cellInside, ?_, ?_⟩
  · cases min_le_iff.mp atLeast with
    | inl fromStart => exact ⟨_, start, fromStart⟩
    | inr fromTarget => exact ⟨_, target, fromTarget⟩
  · cases le_max_iff.mp atMost with
    | inl toStart => exact ⟨_, start, toStart⟩
    | inr toTarget => exact ⟨_, target, toTarget⟩

theorem outlineCells_twice
    (further : rest ≠ [])
    {low high : MapLocation}
    {x : ℕ}
    (isLow : low ∈ first :: rest)
    (isHigh : high ∈ first :: rest)
    (atLeast : low.x ≤ x)
    (atMost : x ≤ high.x) :
    2 ≤ (outlineCells hypot sizeX first rest).countP
      fun cell => cell.x = x := by
  refine (ClosedWalk.passes_twice further isLow isHigh atLeast atMost).trans ?_
  apply countP_le_flatMap
  intro side isSide passes
  obtain ⟨start, target⟩ := corners_of_side isSide
  obtain ⟨cell, isCell, inColumn⟩ := sideCells_reach isHypot fits
    (inside _ start) (inside _ target) (of_decide_eq_true passes)
  exact ⟨cell, isCell, decide_eq_true inColumn⟩

end

/-- The cells that fill a polygon are, in every column between the first and the
last column of its corners, those between the lowest and the highest cell of
the outline. -/
structure ExactlyFilled
    (hypot : K → K → K)
    (sizeX sizeY : ℕ)
    (polygon outline cells : List MapLocation) : Prop where
  isOutline : polygonOutlineCells hypot sizeX polygon = some outline
  result : convexFillCells hypot sizeX polygon = some cells
  filled : ∀ cell, cell ∈ cells ↔ Filled outline cell
  columns : ∀ x, (∃ cell ∈ cells, cell.x = x) ↔
    (∃ corner ∈ polygon, corner.x ≤ x) ∧ ∃ corner ∈ polygon, x ≤ corner.x
  inside : ∀ cell ∈ cells, cell.x < sizeX ∧ cell.y < sizeY

theorem filled_of_mem
    {outline : List MapLocation}
    (isCell : cell ∈ outline) :
    Filled outline cell := by
  have inColumn : cell ∈ outline.filter fun other => other.x = cell.x :=
    List.mem_filter.mpr ⟨isCell, by simp⟩
  exact ⟨⟨cell, inColumn, le_refl _⟩, cell, inColumn, le_refl _⟩

theorem Filled.below
    {outline : List MapLocation}
    (filled : Filled outline cell) :
    ∃ high ∈ outline, high.x = cell.x ∧ cell.y ≤ high.y := by
  obtain ⟨high, isHigh, below⟩ := filled.2
  obtain ⟨inOutline, inColumn⟩ := List.mem_filter.mp isHigh
  exact ⟨high, inOutline, by simpa using inColumn, below⟩

theorem convexFillCells_filled
    (isHypot : IsHypot hypot)
    (fits : sizeX * sizeY ≤ 4294967296)
    {polygon : List MapLocation}
    (enough : 3 ≤ polygon.length)
    (inside : ∀ corner ∈ polygon, corner.x < sizeX ∧ corner.y < sizeY) :
    ∃ outline cells,
      ExactlyFilled hypot sizeX sizeY polygon outline cells := by
  obtain ⟨first, rest, rfl⟩ : ∃ first rest, polygon = first :: rest := by
    match polygon, enough with
    | first :: rest, _ => exact ⟨first, rest, rfl⟩
  have further : rest ≠ [] := by
    rintro rfl
    simp at enough
  have twice (low : MapLocation) (isLow : low ∈ first :: rest)
      (high : MapLocation) (isHigh : high ∈ first :: rest) (x : ℕ)
      (atLeast : low.x ≤ x) (atMost : x ≤ high.x) :=
    outlineCells_twice isHypot fits inside further isLow isHigh atLeast atMost
  have member (cell : MapLocation)
      (isCell : cell ∈ outlineCells hypot sizeX first rest) :=
    mem_outlineCells isHypot fits inside isCell
  have isOutline : polygonOutlineCells hypot sizeX (first :: rest) =
      some (outlineCells hypot sizeX first rest) :=
    polygonOutlineCells_eq first rest
  generalize outlineCells hypot sizeX first rest = outline at *
  have column (x : ℕ) (low : MapLocation) (isLow : low ∈ first :: rest)
      (high : MapLocation) (isHigh : high ∈ first :: rest)
      (atLeast : low.x ≤ x) (atMost : x ≤ high.x) :
      ∃ cell ∈ outline, cell.x = x := by
    have positive := Nat.lt_of_lt_of_le two_pos
      (twice low isLow high isHigh x atLeast atMost)
    obtain ⟨cell, isCell, inColumn⟩ := List.countP_pos_iff.mp positive
    exact ⟨cell, isCell, of_decide_eq_true inColumn⟩
  have nonempty : outline ≠ [] := by
    obtain ⟨cell, isCell, -⟩ := column first.x first List.mem_cons_self first
      List.mem_cons_self (le_refl _) (le_refl _)
    exact List.ne_nil_of_mem isCell
  obtain ⟨cells, result, filled⟩ := fillOutline_filled nonempty
    fun low isLow high isHigh x atLeast atMost => by
      obtain ⟨lowCorner, isLowCorner, lowLe⟩ := (member low isLow).2.1
      obtain ⟨highCorner, isHighCorner, leHigh⟩ := (member high isHigh).2.2
      exact twice lowCorner isLowCorner highCorner isHighCorner x
        (lowLe.trans atLeast) (atMost.trans leHigh)
  refine ⟨outline, cells, isOutline, ?_, filled, fun x => ?_,
    fun cell isCell => ?_⟩
  · unfold convexFillCells
    rw [if_neg (by omega), isOutline]
    exact result
  · constructor
    · rintro ⟨cell, isCell, rfl⟩
      obtain ⟨high, isHigh, inColumn, -⟩ := ((filled cell).mp isCell).below
      rw [← inColumn]
      exact (member high isHigh).2
    · rintro ⟨⟨low, isLow, atLeast⟩, high, isHigh, atMost⟩
      obtain ⟨cell, isCell, inColumn⟩ :=
        column x low isLow high isHigh atLeast atMost
      exact ⟨cell, (filled cell).mpr (filled_of_mem isCell), inColumn⟩
  · obtain ⟨high, isHigh, inColumn, below⟩ := ((filled cell).mp isCell).below
    have highInside := (member high isHigh).1
    omega

end Outlines

section Maps

variable
  {K : Type}
  [Field K] [LinearOrder K] [FloorRing K]
  {hypot : K → K → K}
  {map : Costmap2D K}
  {polygon : List (K × K)}

omit [Field K] [LinearOrder K] [FloorRing K] in
theorem getCost_setCosts
    (cost : UInt8)
    {cells : List MapLocation}
    (inside : ∀ cell ∈ cells, cell.x < map.sizeX ∧ cell.y < map.sizeY) :
    let changed := cells.foldl
      (fun map cell => map.setCost cell.x cell.y cost) map
    changed.toGrid = map.toGrid ∧
      ∀ x y, x < map.sizeX → changed.getCost x y =
        if ⟨x, y⟩ ∈ cells then cost else map.getCost x y := by
  induction cells generalizing map with
  | nil => exact ⟨rfl, fun x y _ => by simp⟩
  | cons first rest inductionHypothesis =>
      have firstInside := inside first List.mem_cons_self
      have restInside : ∀ cell ∈ rest,
          cell.x < (map.setCost first.x first.y cost).sizeX ∧
            cell.y < (map.setCost first.x first.y cost).sizeY :=
        fun cell isCell => inside cell (List.mem_cons_of_mem _ isCell)
      obtain ⟨sameGrid, costs⟩ := inductionHypothesis restInside
      refine ⟨sameGrid, fun x y xInside => ?_⟩
      rw [List.foldl_cons, costs x y xInside,
        Costmap2D.getCost_setCost cost firstInside.1 firstInside.2 xInside]
      have isFirst : (⟨x, y⟩ : MapLocation) = first ↔
          first.x = x ∧ first.y = y := by
        rw [MapLocation.mk.injEq, eq_comm, eq_comm (a := y)]
      simp only [List.mem_cons, isFirst]
      by_cases inRest : (⟨x, y⟩ : MapLocation) ∈ rest
      · simp [inRest]
      · simp [inRest]

theorem corners_or_outside
    (map : Costmap2D K)
    (polygon : List (K × K)) :
    (∃ point ∈ polygon, map.worldToMap point = none) ∧
        polygon.mapM (mapLocation? map) = none ∨
      ∃ corners, polygon.mapM (mapLocation? map) = some corners ∧
        polygon.map map.worldToMap =
          corners.map fun corner => some (corner.x, corner.y) := by
  induction polygon with
  | nil => exact Or.inr ⟨[], rfl, rfl⟩
  | cons point rest inductionHypothesis =>
      rw [List.mapM_cons]
      unfold mapLocation? at inductionHypothesis ⊢
      cases mapped : map.worldToMap point with
      | none => exact Or.inl ⟨⟨point, List.mem_cons_self, mapped⟩, rfl⟩
      | some cell =>
          cases inductionHypothesis with
          | inl outside =>
              obtain ⟨⟨other, isOther, unmapped⟩, noCorners⟩ := outside
              refine Or.inl
                ⟨⟨other, List.mem_cons_of_mem _ isOther, unmapped⟩, ?_⟩
              rw [noCorners]
              rfl
          | inr inside =>
              obtain ⟨corners, areCorners, places⟩ := inside
              refine Or.inr ⟨⟨cell.1, cell.2⟩ :: corners, ?_, ?_⟩
              · rw [areCorners]
                rfl
              · rw [List.map_cons, List.map_cons, places, mapped]

/-- Setting the cost of a polygon changes nothing where some point is outside
the map, and otherwise exactly the cells that fill the polygon. -/
inductive PolygonSet
    (hypot : K → K → K)
    (map : Costmap2D K)
    (polygon : List (K × K))
    (costValue : UInt8) : Prop
  | outside
      (point : K × K)
      (isPoint : point ∈ polygon)
      (unmapped : map.worldToMap point = none)
      (unchanged :
        setConvexPolygonCost hypot map polygon costValue = some (false, map))
  | filled
      (corners outline cells : List MapLocation)
      (changed : Costmap2D K)
      (mapped : polygon.map map.worldToMap =
        corners.map fun corner => some (corner.x, corner.y))
      (exactly :
        ExactlyFilled hypot map.sizeX map.sizeY corners outline cells)
      (isSet :
        setConvexPolygonCost hypot map polygon costValue = some (true, changed))
      (sameGrid : changed.toGrid = map.toGrid)
      (costs : ∀ x y, x < map.sizeX → changed.getCost x y =
        if ⟨x, y⟩ ∈ cells then costValue else map.getCost x y)

theorem setConvexPolygonCost_set
    [IsStrictOrderedRing K]
    (isHypot : IsHypot hypot)
    (fits : map.sizeX * map.sizeY ≤ 4294967296)
    (enough : 3 ≤ polygon.length)
    (costValue : UInt8) :
    PolygonSet hypot map polygon costValue := by
  cases corners_or_outside map polygon with
  | inl outside =>
      obtain ⟨⟨point, isPoint, unmapped⟩, noCorners⟩ := outside
      refine .outside point isPoint unmapped ?_
      unfold setConvexPolygonCost
      rw [noCorners]
  | inr inside =>
      obtain ⟨corners, areCorners, places⟩ := inside
      have cornersInside : ∀ corner ∈ corners,
          corner.x < map.sizeX ∧ corner.y < map.sizeY := by
        intro corner isCorner
        have isPlace : some (corner.x, corner.y) ∈
            polygon.map map.worldToMap := by
          rw [places]
          exact List.mem_map_of_mem isCorner
        obtain ⟨point, -, mapped⟩ := List.mem_map.mp isPlace
        exact Grid.worldToMap_lt mapped
      have sameLength : polygon.length = corners.length := by
        simpa using congrArg List.length places
      obtain ⟨outline, cells, exactly⟩ := convexFillCells_filled isHypot fits
        (by omega) cornersInside
      obtain ⟨sameGrid, costs⟩ := getCost_setCosts costValue exactly.inside
      refine .filled corners outline cells _ places exactly ?_ sameGrid costs
      unfold setConvexPolygonCost
      rw [areCorners]
      dsimp only
      rw [exactly.result]
      rfl
end Maps

section RealNumbers

/-- A polygon of map cells is filled exactly on its outline, and setting the
cost of a polygon of points changes exactly the cells that fill it, or nothing
where a point is outside the map.  The positions in the map fit their type. -/
theorem convexFill_exact
    (map : Costmap2D ℝ)
    (polygon : List MapLocation)
    (points : List (ℝ × ℝ))
    (costValue : UInt8)
    (fits : map.sizeX * map.sizeY ≤ 4294967296)
    (enough : 3 ≤ polygon.length)
    (inside : ∀ corner ∈ polygon,
      corner.x < map.sizeX ∧ corner.y < map.sizeY)
    (enoughPoints : 3 ≤ points.length) :
    (∃ outline cells,
        ExactlyFilled hypot map.sizeX map.sizeY polygon outline cells) ∧
      PolygonSet hypot map points costValue :=
  ⟨convexFillCells_filled isHypot_hypot fits enough inside,
    setConvexPolygonCost_set isHypot_hypot fits enoughPoints costValue⟩

/-- A free map of four cells. -/
def fourCells : Costmap2D ℝ :=
  .filled ⟨2, 2, 1, 0, 0⟩ freeSpace

/-- A triangle on it. -/
theorem fourCells_exact :
    (∃ outline cells,
        ExactlyFilled hypot 2 2 [⟨0, 0⟩, ⟨1, 0⟩, ⟨0, 1⟩] outline cells) ∧
      PolygonSet hypot fourCells [(0, 0), (1, 0), (0, 1)] lethalObstacle :=
  convexFill_exact fourCells [⟨0, 0⟩, ⟨1, 0⟩, ⟨0, 1⟩] [(0, 0), (1, 0), (0, 1)]
    lethalObstacle (by decide) (by decide) (by decide) (by decide)

end RealNumbers

end PolygonFill

end NavBim
