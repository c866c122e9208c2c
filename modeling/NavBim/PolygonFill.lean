import NavBim.ClosedWalk
import NavBim.GnomeSort
import NavBim.RaytraceLine

namespace NavBim

/-!
# Filling polygons

The cells of a polygon's sides are sorted by column.  One column after the
other, the lowest and the highest cell are looked for among the cells of the
outline, and all cells between them are appended to the very list that is
scanned.  The first two cells of each column are read without a look at their
column.

A read that is not valid gives no result.
-/

namespace PolygonFill

open Raytrace

section Model

variable
  {K : Type}
  [Field K] [LinearOrder K] [FloorRing K]
  (hypot : K → K → K)
  (sizeX : ℕ)

/-- The cells of a side, with the default limits `UINT_MAX` and 0. -/
def sideCells
    (start target : MapLocation) : List MapLocation :=
  visitedCells hypot start target 4294967295 0 sizeX

/-- For an empty polygon `size() - 1` wraps around. -/
def polygonOutlineCells :
    List MapLocation → Option (List MapLocation)
  | [] => none
  | first :: rest =>
      some ((ClosedWalk.steps (first :: rest)).flatMap
          (fun side => sideCells hypot sizeX side.1 side.2) ++
        sideCells hypot sizeX
          ((first :: rest).getLast (List.cons_ne_nil _ _)) first)

end Model

/-- The sort of the outline; for an empty one `size() - 1` wraps around. -/
def sortByX
    (cells : List MapLocation) : Option (List MapLocation) :=
  if cells.isEmpty then none
  else some (GnomeSort.sortFrom MapLocation.x cells 0)

/-- The loop that looks for the lowest and the highest cell of a column in what
is left of the list, with the index it is at. -/
def scanColumn
    (x : ℕ) :
    List MapLocation → ℕ → MapLocation → MapLocation →
      ℕ × MapLocation × MapLocation
  | [], i, minPt, maxPt => (i, minPt, maxPt)
  | cell :: rest, i, minPt, maxPt =>
      if cell.x = x then
        if cell.y < minPt.y then
          scanColumn x rest (i + 1) cell maxPt
        else if maxPt.y < cell.y then
          scanColumn x rest (i + 1) minPt cell
        else
          scanColumn x rest (i + 1) minPt maxPt
      else
        (i, minPt, maxPt)

/-- The cells of a column between two of them. -/
def columnCells
    (x : ℕ)
    (minPt maxPt : MapLocation) : List MapLocation :=
  (List.range' minPt.y (maxPt.y + 1 - minPt.y)).map fun y => ⟨x, y⟩

/-- The lower and the higher one of two cells. -/
def lowHigh
    (first second : MapLocation) : MapLocation × MapLocation :=
  if first.y < second.y then (first, second) else (second, first)

/-- The loop over the columns that are left. -/
def fillColumns :
    ℕ → ℕ → ℕ → List MapLocation → Option (List MapLocation)
  | 0, _, _, cells => some cells
  | columns + 1, x, i, cells =>
      if cells.length - 1 ≤ i then
        some cells
      else
        match cells[i]?, cells[i + 1]? with
        | some first, some second =>
            let points := lowHigh first second
            let scanned := scanColumn x (cells.drop (i + 2)) (i + 2)
              points.1 points.2
            fillColumns columns (x + 1) scanned.1
              (cells ++ columnCells x scanned.2.1 scanned.2.2)
        | _, _ => none

/-- The part of `convexFillCells` from the sort on. -/
def fillOutline
    (outline : List MapLocation) : Option (List MapLocation) := do
  let cells ← sortByX outline
  let first ← cells.head?
  let last ← cells.getLast?
  fillColumns (last.x + 1 - first.x) first.x 0 cells

section Model

variable
  {K : Type}
  [Field K] [LinearOrder K] [FloorRing K]
  (hypot : K → K → K)

/-- The cells that fill a polygon. -/
def convexFillCells
    (sizeX : ℕ)
    (polygon : List MapLocation) : Option (List MapLocation) :=
  if polygon.length < 3 then
    some []
  else
    (polygonOutlineCells hypot sizeX polygon).bind fillOutline

/-- The cell a point lies in. -/
def mapLocation?
    (map : Costmap2D K)
    (point : K × K) : Option MapLocation :=
  (map.worldToMap point).map fun cell => ⟨cell.1, cell.2⟩

/-- Whether every point is in the map, and the map with the filled cells. -/
def setConvexPolygonCost
    (map : Costmap2D K)
    (polygon : List (K × K))
    (costValue : UInt8) : Option (Bool × Costmap2D K) :=
  match polygon.mapM (mapLocation? map) with
  | none => some (false, map)
  | some mapPolygon =>
      (convexFillCells hypot map.sizeX mapPolygon).map fun cells =>
        (true, cells.foldl (fun map cell => map.setCost cell.x cell.y costValue)
          map)

end Model

/-! ## The columns of a list -/

/-- The cells of a column, with a lowest and a highest one. -/
structure Spans
    (column : List MapLocation)
    (minPt maxPt : MapLocation) : Prop where
  minMem : minPt ∈ column
  maxMem : maxPt ∈ column
  atLeast : ∀ cell ∈ column, minPt.y ≤ cell.y
  atMost : ∀ cell ∈ column, cell.y ≤ maxPt.y

theorem lowHigh_spans
    (first second : MapLocation) :
    Spans [first, second] (lowHigh first second).1
      (lowHigh first second).2 := by
  unfold lowHigh
  split
  · next below =>
      constructor
      · simp
      · simp
      · simp
        omega
      · simp
        omega
  · next above =>
      constructor
      · simp
      · simp
      · simp
        omega
      · simp
        omega

/-- One more cell, with a lowest and a highest cell that take it in. -/
theorem Spans.extend
    {done : List MapLocation}
    {minPt maxPt cell low high : MapLocation}
    (spans : Spans done minPt maxPt)
    (lowMem : low = minPt ∨ low = cell)
    (highMem : high = maxPt ∨ high = cell)
    (lowLe : low.y ≤ minPt.y ∧ low.y ≤ cell.y)
    (leHigh : maxPt.y ≤ high.y ∧ cell.y ≤ high.y) :
    Spans (done ++ [cell]) low high := by
  constructor
  · cases lowMem with
    | inl same => exact List.mem_append_left _ (same ▸ spans.minMem)
    | inr same => simp [same]
  · cases highMem with
    | inl same => exact List.mem_append_left _ (same ▸ spans.maxMem)
    | inr same => simp [same]
  · intro other isOther
    cases List.mem_append.mp isOther with
    | inl before => exact lowLe.1.trans (spans.atLeast other before)
    | inr isCell => exact List.mem_singleton.mp isCell ▸ lowLe.2
  · intro other isOther
    cases List.mem_append.mp isOther with
    | inl before => exact (spans.atMost other before).trans leHigh.1
    | inr isCell => exact List.mem_singleton.mp isCell ▸ leHigh.2

/-- The scan goes over the cells of the column that come first, and keeps the
lowest and the highest one. -/
theorem scanColumn_spans
    {x : ℕ}
    {done column later : List MapLocation}
    {minPt maxPt : MapLocation}
    (i : ℕ)
    (spans : Spans done minPt maxPt)
    (inColumn : ∀ cell ∈ column, cell.x = x)
    (laterColumn : ∀ cell ∈ later.head?, cell.x ≠ x) :
    ∃ lowest highest,
      scanColumn x (column ++ later) i minPt maxPt =
        (i + column.length, lowest, highest) ∧
      Spans (done ++ column) lowest highest := by
  induction column generalizing done i minPt maxPt with
  | nil =>
      refine ⟨minPt, maxPt, ?_, by rwa [List.append_nil]⟩
      cases later with
      | nil => rfl
      | cons cell later =>
          have other := laterColumn cell rfl
          simp [scanColumn, other]
  | cons cell column inductionHypothesis =>
      have here := inColumn cell List.mem_cons_self
      have rest := fun other isOther =>
        inColumn other (List.mem_cons_of_mem cell isOther)
      have next (low high : MapLocation)
          (spansNext : Spans (done ++ [cell]) low high) :
          ∃ lowest highest,
            scanColumn x (column ++ later) (i + 1) low high =
              (i + (cell :: column).length, lowest, highest) ∧
            Spans (done ++ cell :: column) lowest highest := by
        obtain ⟨lowest, highest, scanned, spansAll⟩ :=
          inductionHypothesis (i + 1) spansNext rest
        rw [List.append_assoc, List.singleton_append] at spansAll
        refine ⟨lowest, highest, ?_, spansAll⟩
        rw [scanned, List.length_cons, Nat.add_assoc, Nat.add_comm 1]
      have ordered := spans.atMost minPt spans.minMem
      rw [List.cons_append, scanColumn, if_pos here]
      split
      · next lower =>
          exact next _ _ (spans.extend (Or.inr rfl) (Or.inl rfl) (by omega)
            (by omega))
      · next notLower =>
          split
          · next higher =>
              exact next _ _ (spans.extend (Or.inl rfl) (Or.inr rfl) (by omega)
                (by omega))
          · next notHigher =>
              exact next _ _ (spans.extend (Or.inl rfl) (Or.inl rfl) (by omega)
                (by omega))

theorem mem_columnCells
    {x : ℕ}
    {minPt maxPt cell : MapLocation} :
    cell ∈ columnCells x minPt maxPt ↔
      cell.x = x ∧ minPt.y ≤ cell.y ∧ cell.y ≤ maxPt.y := by
  unfold columnCells
  rw [List.mem_map]
  constructor
  · rintro ⟨y, inRange, rfl⟩
    have bounds := List.mem_range'_1.mp inRange
    refine ⟨rfl, ?_, ?_⟩
    · exact bounds.1
    · dsimp only
      omega
  · rintro ⟨rfl, atLeast, atMost⟩
    exact ⟨cell.y, List.mem_range'_1.mpr (by omega), rfl⟩

/-- Some cell of a column is not above a cell, and some cell is not below it. -/
def Within
    (column : List MapLocation)
    (cell : MapLocation) : Prop :=
  (∃ low ∈ column, low.y ≤ cell.y) ∧ ∃ high ∈ column, cell.y ≤ high.y

theorem Spans.within_iff
    {column : List MapLocation}
    {minPt maxPt cell : MapLocation}
    (spans : Spans column minPt maxPt) :
    Within column cell ↔ minPt.y ≤ cell.y ∧ cell.y ≤ maxPt.y := by
  constructor
  · rintro ⟨⟨low, isLow, below⟩, high, isHigh, above⟩
    exact ⟨(spans.atLeast low isLow).trans below,
      above.trans (spans.atMost high isHigh)⟩
  · exact fun between =>
      ⟨⟨minPt, spans.minMem, between.1⟩, maxPt, spans.maxMem, between.2⟩

/-- The first two cells of a column are read, and the scan ends at the next
column, or at the cells that were appended, which begin with an earlier one. -/
theorem fillColumns_step
    (count : ℕ)
    (consumed : List MapLocation)
    {x : ℕ}
    {column later added : List MapLocation}
    (inColumn : ∀ cell ∈ column, cell.x = x)
    (twice : 2 ≤ column.length)
    (otherColumn : ∀ cell ∈ (later ++ added).head?, cell.x ≠ x) :
    ∃ lowest highest, Spans column lowest highest ∧
      fillColumns (count + 1) x consumed.length
          (consumed ++ (column ++ later) ++ added) =
        fillColumns count (x + 1) (consumed ++ column).length
          (consumed ++ (column ++ later) ++ added ++
            columnCells x lowest highest) := by
  obtain ⟨first, second, more, rfl⟩ : ∃ first second more,
      column = first :: second :: more := by
    match column, twice with
    | first :: second :: more, _ => exact ⟨first, second, more, rfl⟩
  have shape : consumed ++ (first :: second :: more ++ later) ++ added =
      consumed ++ first :: second :: (more ++ (later ++ added)) := by
    simp
  obtain ⟨lowest, highest, scanned, spans⟩ :=
    scanColumn_spans (consumed.length + 2) (lowHigh_spans first second)
      (fun cell isCell => inColumn cell
        (List.mem_cons_of_mem _ (List.mem_cons_of_mem _ isCell)))
      otherColumn
  refine ⟨lowest, highest, spans, ?_⟩
  rw [shape, fillColumns, if_neg (by simp)]
  have atFirst : (consumed ++ first :: second ::
      (more ++ (later ++ added)))[consumed.length]? = some first := by
    simp
  have atSecond : (consumed ++ first :: second ::
      (more ++ (later ++ added)))[consumed.length + 1]? = some second := by
    simp
  have rest : (consumed ++ first :: second ::
      (more ++ (later ++ added))).drop (consumed.length + 2) =
        more ++ (later ++ added) := by
    simp
  have index : (consumed ++ first :: second :: more).length =
      consumed.length + 2 + more.length := by
    simp
    omega
  rw [atFirst, atSecond]
  dsimp only
  rw [rest, scanned, index]

theorem fillColumns_filled
    {column : ℕ → List MapLocation}
    (inColumn : ∀ k, ∀ cell ∈ column k, cell.x = k)
    (count x : ℕ)
    (consumed added : List MapLocation)
    (twice : ∀ k, x ≤ k → k < x + count → 2 ≤ (column k).length)
    (addedBefore : ∀ cell ∈ added.head?, cell.x < x) :
    ∃ filled,
      fillColumns count x consumed.length
          (consumed ++ (List.range' x count).flatMap column ++ added) =
        some (consumed ++ (List.range' x count).flatMap column ++ added ++
          filled) ∧
      ∀ cell, cell ∈ filled ↔
        x ≤ cell.x ∧ cell.x < x + count ∧ Within (column cell.x) cell := by
  induction count generalizing x consumed added with
  | zero =>
      refine ⟨[], by rw [fillColumns, List.append_nil], fun cell => ?_⟩
      constructor
      · exact nofun
      · intro between
        omega
  | succ count inductionHypothesis =>
      rw [List.range'_succ, List.flatMap_cons]
      have otherColumn : ∀ cell ∈
          ((List.range' (x + 1) count).flatMap column ++ added).head?,
          cell.x ≠ x := by
        intro cell isHead
        rw [List.head?_append, Option.mem_def, Option.or_eq_some_iff] at isHead
        cases isHead with
        | inl inLater =>
            obtain ⟨k, inRange, inColumnK⟩ :=
              List.mem_flatMap.mp (List.mem_of_mem_head? inLater)
            have isColumn := inColumn k cell inColumnK
            have later := (List.mem_range'_1.mp inRange).1
            omega
        | inr inAdded => exact (addedBefore cell inAdded.2).ne
      have appended (lowest highest : MapLocation) :
          ∀ cell ∈ (added ++ columnCells x lowest highest).head?,
            cell.x < x + 1 := by
        intro cell isHead
        rw [List.head?_append, Option.mem_def, Option.or_eq_some_iff] at isHead
        cases isHead with
        | inl inAdded => exact (addedBefore cell inAdded).trans (Nat.lt_succ_self x)
        | inr inColumnX =>
            have isColumn :=
              (mem_columnCells.mp (List.mem_of_mem_head? inColumnX.2)).1
            omega
      obtain ⟨lowest, highest, spans, step⟩ :=
        fillColumns_step count consumed (inColumn x)
          (twice x (le_refl _) (by omega)) otherColumn
      obtain ⟨filled, result, isFilled⟩ :=
        inductionHypothesis (x + 1) (consumed ++ column x)
          (added ++ columnCells x lowest highest)
          (fun k atLeast below => twice k (by omega) (by omega))
          (appended lowest highest)
      refine ⟨columnCells x lowest highest ++ filled, ?_, fun cell => ?_⟩
      · rw [step]
        simp only [List.append_assoc] at result ⊢
        rw [result]
      · rw [List.mem_append, mem_columnCells, isFilled, ← spans.within_iff]
        by_cases here : cell.x = x
        · rw [here]
          constructor
          · rintro (⟨-, within⟩ | ⟨later, -, -⟩)
            · exact ⟨le_refl _, by omega, within⟩
            · omega
          · exact fun inRange => Or.inl ⟨rfl, inRange.2.2⟩
        · constructor
          · rintro (⟨same, -⟩ | ⟨later, below, within⟩)
            · exact absurd same here
            · exact ⟨by omega, by omega, within⟩
          · rintro ⟨atLeast, below, within⟩
            exact Or.inr ⟨by omega, by omega, within⟩

/-- A cell is between the lowest and the highest cell of its column. -/
def Filled
    (outline : List MapLocation)
    (cell : MapLocation) : Prop :=
  Within (outline.filter fun other => other.x = cell.x) cell

/-- The sort keeps the columns. -/
theorem filled_perm
    {first second : List MapLocation}
    (same : first.Perm second)
    (cell : MapLocation) :
    Filled first cell ↔ Filled second cell := by
  simp only [Filled, Within, List.mem_filter, same.mem_iff]

theorem sorted_bounds
    {cells : List MapLocation}
    (sorted : cells.Pairwise fun first second => first.x ≤ second.x)
    (nonempty : cells ≠ []) :
    ∃ first last, cells.head? = some first ∧ cells.getLast? = some last ∧
      first ∈ cells ∧ last ∈ cells ∧
      ∀ cell ∈ cells, first.x ≤ cell.x ∧ cell.x ≤ last.x := by
  refine ⟨cells.head nonempty, cells.getLast nonempty,
    List.head?_eq_some_head nonempty, List.getLast?_eq_some_getLast nonempty,
    List.head_mem nonempty, List.getLast_mem nonempty, fun cell isCell => ?_⟩
  constructor
  · cases cells with
    | nil => cases isCell
    | cons first rest =>
        cases List.mem_cons.mp isCell with
        | inl isFirst => exact (congrArg MapLocation.x isFirst).ge
        | inr inRest => exact (List.pairwise_cons.mp sorted).1 cell inRest
  · rw [← List.dropLast_append_getLast nonempty] at sorted isCell
    cases List.mem_append.mp isCell with
    | inl before =>
        exact (List.pairwise_append.mp sorted).2.2 cell before _
          (List.mem_singleton_self _)
    | inr isLast =>
        exact (congrArg MapLocation.x (List.mem_singleton.mp isLast)).le

/-- An outline with two cells at least in every column between its first and its
last one is filled column by column. -/
theorem fillOutline_filled
    {outline : List MapLocation}
    (nonempty : outline ≠ [])
    (twice : ∀ low ∈ outline, ∀ high ∈ outline, ∀ x, low.x ≤ x → x ≤ high.x →
      2 ≤ outline.countP fun cell => cell.x = x) :
    ∃ cells, fillOutline outline = some cells ∧
      ∀ cell, cell ∈ cells ↔ Filled outline cell := by
  have same := GnomeSort.sortFrom_perm MapLocation.x outline 0
  have sorted := GnomeSort.sortFrom_sorted
    (GnomeSort.sortedTo_zero MapLocation.x outline)
  have sortedNonempty :
      GnomeSort.sortFrom MapLocation.x outline 0 ≠ [] := by
    intro empty
    rw [empty] at same
    exact nonempty same.nil_eq.symm
  have isSorted : sortByX outline =
      some (GnomeSort.sortFrom MapLocation.x outline 0) := by
    unfold sortByX
    rw [if_neg (by simpa using nonempty)]
  unfold fillOutline
  rw [isSorted]
  generalize GnomeSort.sortFrom MapLocation.x outline 0 = cells at *
  obtain ⟨first, last, isFirst, isLast, firstMem, lastMem, bounds⟩ :=
    sorted_bounds sorted sortedNonempty
  have groups := GnomeSort.flatten_groups (last.x + 1 - first.x) first.x sorted
    (fun cell isCell => (bounds cell isCell).1)
    (fun cell isCell => by
      have bound := bounds cell isCell
      omega)
  obtain ⟨filled, result, isFilled⟩ := @fillColumns_filled
    (fun k => cells.filter fun cell => cell.x = k)
    (fun k cell isCell => by simpa using (List.mem_filter.mp isCell).2)
    (last.x + 1 - first.x) first.x [] []
    (fun k atLeast below => by
      rw [← List.countP_eq_length_filter, same.countP_eq]
      exact twice first (same.mem_iff.mp firstMem) last
        (same.mem_iff.mp lastMem) k atLeast (by omega))
    nofun
  rw [groups, List.nil_append, List.append_nil, List.length_nil] at result
  simp only [isFirst, isLast, Option.bind_eq_bind, Option.bind_some]
  refine ⟨_, result, fun cell => ?_⟩
  rw [← filled_perm same, List.mem_append, isFilled]
  constructor
  · rintro (isCell | ⟨-, -, within⟩)
    · have inColumn : cell ∈ cells.filter fun other => other.x = cell.x :=
        List.mem_filter.mpr ⟨isCell, by simp⟩
      exact ⟨⟨cell, inColumn, le_refl _⟩, cell, inColumn, le_refl _⟩
    · exact within
  · intro within
    obtain ⟨low, isLow, -⟩ := within.1
    obtain ⟨inCells, inColumn⟩ := List.mem_filter.mp isLow
    have bound := bounds low inCells
    have sameColumn : low.x = cell.x := by simpa using inColumn
    exact Or.inr ⟨by omega, by omega, within⟩

end PolygonFill

end NavBim
