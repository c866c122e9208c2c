import NavBim.InflationCaches

namespace NavBim

namespace InflationLayer

/-!
# The wave of an update

While an update runs, the cells of its bins are the pending entries of a wave,
and the cells that were visited are the settled ones.  The bins order them by
their distances, so the next cell of a bin is the nearest pending entry, and
what is added goes to a later bin.
-/

section Adding

variable {K : Type}

/-- What adding cells does to a state. -/
structure Adds
    (cellInflationRadius level : Nat)
    (state next : InflationState K)
    (new : Set CellData) : Prop where
  rest : next = { state with
    inflationCells := next.inflationCells, enqueued := next.enqueued }
  size : next.inflationCells.size = state.inflationCells.size
  kept : ∀ (b k : Nat) (cell : CellData), (bin state b)[k]? = some cell →
    (bin next b)[k]? = some cell
  old : ∀ (b k : Nat) (cell : CellData), (bin next b)[k]? = some cell →
    (bin state b)[k]? = some cell ∨
      cell ∈ new ∧ binOf cellInflationRadius cell.cell cell.source = some b
  added : ∀ cell ∈ new, ∃ b k : Nat,
    binOf cellInflationRadius cell.cell cell.source = some b ∧
      (bin next b)[k]? = some cell
  enqueued : ∀ pair ∈ next.enqueued, pair ∈ state.enqueued ∨
    ∃ cell ∈ new, pair.1 = level ∧
      binOf cellInflationRadius cell.cell cell.source = some pair.2

variable
  {cellInflationRadius level : Nat}
  {state middle next : InflationState K}
  {new more : Set CellData}

theorem Adds.refl :
    Adds cellInflationRadius level state state ∅ where
  rest := rfl
  size := rfl
  kept := fun _ _ _ found => found
  old := fun _ _ _ found => .inl found
  added := fun _ member => member.elim
  enqueued := fun _ member => .inl member

theorem Adds.trans
    (first : Adds cellInflationRadius level state middle new)
    (second : Adds cellInflationRadius level middle next more) :
    Adds cellInflationRadius level state next (new ∪ more) where
  rest := by
    rw [second.rest, first.rest]
  size := second.size.trans first.size
  kept := fun b k cell found => second.kept b k cell (first.kept b k cell found)
  old := by
    intro b k cell found
    rcases second.old b k cell found with isMiddle | ⟨isNew, isBin⟩
    · rcases first.old b k cell isMiddle with isOld | ⟨isNew, isBin⟩
      · exact .inl isOld
      · exact .inr ⟨.inl isNew, isBin⟩
    · exact .inr ⟨.inr isNew, isBin⟩
  added := by
    rintro cell (isNew | isNew)
    · obtain ⟨b, k, isBin, found⟩ := first.added cell isNew
      exact ⟨b, k, isBin, second.kept b k cell found⟩
    · exact second.added cell isNew
  enqueued := by
    intro pair member
    rcases second.enqueued pair member with isMiddle | ⟨cell, isNew, rest⟩
    · rcases first.enqueued pair isMiddle with isOld | ⟨cell, isNew, rest⟩
      · exact .inl isOld
      · exact .inr ⟨cell, .inl isNew, rest⟩
    · exact .inr ⟨cell, .inr isNew, rest⟩

theorem adds_pushed
    {cell : CellData}
    {dist : Nat}
    (isBin : binOf cellInflationRadius cell.cell cell.source = some dist)
    (inside : dist < state.inflationCells.size) :
    Adds cellInflationRadius level state (pushed state level dist cell)
      {cell} := by
  have isBinOf (b : Nat) : bin (pushed state level dist cell) b =
      if dist = b then (bin state b).push cell else bin state b := by
    rw [bin, bin, pushed, Array.getD_eq_getD_getElem?,
      Array.getD_eq_getD_getElem?, Array.getElem?_modify]
    split
    · case isTrue same =>
      subst same
      rw [Array.getElem?_eq_getElem inside]
      rfl
    · rfl
  refine {
    rest := rfl
    size := Array.size_modify
    kept := ?_
    old := ?_
    added := ?_
    enqueued := ?_
  }
  · intro b k other found
    rw [isBinOf]
    split
    · obtain ⟨isPlace, -⟩ := Array.getElem?_eq_some_iff.mp found
      rw [Array.getElem?_push, if_neg isPlace.ne, found]
    · exact found
  · intro b k other found
    rw [isBinOf] at found
    split at found
    · case isTrue same =>
      subst same
      rw [Array.getElem?_push] at found
      split at found
      · cases found
        exact .inr ⟨rfl, isBin⟩
      · exact .inl found
    · exact .inl found
  · rintro other rfl
    refine ⟨dist, (bin state dist).size, isBin, ?_⟩
    rw [isBinOf, if_pos rfl, Array.getElem?_push, if_pos rfl]
  · intro pair member
    rcases List.mem_cons.mp member with rfl | isOld
    · exact .inr ⟨cell, rfl, rfl, isBin⟩
    · exact .inl isOld

end Adding

section Neighbours

variable
  {K : Type}
  [Field K] [LinearOrder K]
  {falloff : K → K → K → Nat → UInt8}
  {layer : InflationLayer K}
  {level : Nat}
  {state next : InflationState K}

theorem Ready.distanceLookup_ok
    (ready : Ready falloff layer)
    (data : CellData)
    (nearX : coordinateDistance data.x data.srcX <
      layer.cellInflationRadius + 2)
    (nearY : coordinateDistance data.y data.srcY <
      layer.cellInflationRadius + 2) :
    layer.distanceLookup data.x data.y data.srcX data.srcY =
      .ok (distanceSq data.cell data.source) := by
  rw [distanceLookup, ready.cacheLength]
  apply lookup_ok
  rw [ready.cachedDistances _ nearX _ nearY]
  exact congrArg some (hypot_coordinateDistance data.cell data.source)

/-- The cell that is added, if any. -/
def candidate
    (layer : InflationLayer K)
    (seen : Array Bool)
    (onMap : Bool)
    (index : Nat)
    (data : CellData) : Set CellData :=
  {cell | cell = data ∧ onMap = true ∧ seen[index]? = some false ∧
    distanceSq data.cell data.source ≤ layer.cellInflationRadius ^ 2}

/-- Adding a cell that is beside one within the radius reads the tables. -/
theorem Ready.enqueueIf_adds
    (ready : Ready falloff layer)
    (bins : state.inflationCells.size = layer.inflationCells.size)
    (onMap : Bool)
    (index : Nat)
    (data : CellData)
    (inside : onMap = true → index < state.seen.size)
    (near : onMap = true →
      coordinateDistance data.x data.srcX < layer.cellInflationRadius + 2 ∧
        coordinateDistance data.y data.srcY < layer.cellInflationRadius + 2) :
    ∃ next,
      layer.enqueueIf onMap level index data.x data.y data.srcX data.srcY
          state = .ok next ∧
        Adds layer.cellInflationRadius level state next
          (candidate layer state.seen onMap index data) := by
  have nothing (none : candidate layer state.seen onMap index data = ∅) :
      Adds layer.cellInflationRadius level state state
        (candidate layer state.seen onMap index data) := by
    rw [none]
    exact .refl
  cases onMap with
  | false =>
      refine ⟨state, rfl, nothing ?_⟩
      ext cell
      simp [candidate]
  | true =>
      obtain ⟨nearX, nearY⟩ := near rfl
      have isInside := inside rfl
      have isPlace := Array.getElem?_eq_getElem isInside
      rw [enqueueIf, if_pos rfl, enqueue, lookup_ok isPlace, ok_bind]
      cases isSeen : state.seen[index] with
      | true =>
          refine ⟨state, rfl, nothing ?_⟩
          ext cell
          simp [candidate, isPlace, isSeen]
      | false =>
          rw [ready.distanceLookup_ok data nearX nearY]
          simp only [Bool.not_false, if_true, ok_bind]
          by_cases isNear : distanceSq data.cell data.source ≤
              layer.cellInflationRadius ^ 2
          · obtain ⟨dist, isBin, isLevel⟩ := exists_binOf isNear
            have isEntry : matrixEntry (layer.cellInflationRadius + 2)
                layer.distanceMatrix
                ((data.x : ℤ) - data.srcX, (data.y : ℤ) - data.srcY) =
                  some dist := by
              rw [ready.distanceMatrix]
              exact isBin
            have binInside : dist < state.inflationCells.size := by
              rw [bins, ready.inflationCells]
              exact Nat.lt_succ_of_le isLevel
            have single :
                candidate layer state.seen true index data = {data} := by
              ext cell
              simp [candidate, isPlace, isSeen, isNear]
            rw [if_neg (Nat.not_lt.mpr isNear), isEntry]
            simp only [binInside, if_true]
            exact ⟨_, rfl, single ▸ adds_pushed isBin binInside⟩
          · rw [if_pos (Nat.lt_of_not_le isNear)]
            refine ⟨state, rfl, nothing ?_⟩
            ext cell
            simp [candidate, isNear]

/-- The cells that a visited cell adds. -/
def neighbours
    (layer : InflationLayer K)
    (grid : Grid K)
    (seen : Array Bool)
    (data : CellData) : Set CellData :=
  {cell | cell.source = data.source ∧ Beside data.cell cell.cell ∧
    InGrid grid.sizeX grid.sizeY cell.cell ∧
    seen[cell.y * grid.sizeX + cell.x]? = some false ∧
    distanceSq cell.cell cell.source ≤ layer.cellInflationRadius ^ 2}

/-- One of the cells beside a cell, if it is on the map. -/
structure IsNeighbour
    (grid : Grid K)
    (data : CellData)
    (index : Nat)
    (neighbour : CellData) : Prop where
  source : neighbour.source = data.source
  beside : Beside data.cell neighbour.cell
  inGrid : InGrid grid.sizeX grid.sizeY neighbour.cell
  index : index = neighbour.y * grid.sizeX + neighbour.x

section Sides

variable {grid : Grid K} {x y srcX srcY : Nat}

section

omit [Field K] [LinearOrder K]

theorem isNeighbour_left
    (xInside : x < grid.sizeX)
    (yInside : y < grid.sizeY)
    (onMap : decide (0 < x) = true) :
    IsNeighbour grid ⟨x, y, srcX, srcY⟩ (y * grid.sizeX + x - 1)
      ⟨x - 1, y, srcX, srcY⟩ := by
  have notFirst := of_decide_eq_true onMap
  refine ⟨rfl, .inr ⟨rfl, .inr ?_⟩, ⟨?_, yInside⟩, ?_⟩
  · exact Nat.sub_one_add_one notFirst.ne'
  · exact (Nat.sub_le _ _).trans_lt xInside
  · exact Nat.add_sub_assoc notFirst _

theorem isNeighbour_below
    (xInside : x < grid.sizeX)
    (yInside : y < grid.sizeY)
    (onMap : decide (0 < y) = true) :
    IsNeighbour grid ⟨x, y, srcX, srcY⟩ (y * grid.sizeX + x - grid.sizeX)
      ⟨x, y - 1, srcX, srcY⟩ := by
  have notFirst := of_decide_eq_true onMap
  refine ⟨rfl, .inl ⟨rfl, .inr ?_⟩, ⟨xInside, ?_⟩, ?_⟩
  · exact Nat.sub_one_add_one notFirst.ne'
  · exact (Nat.sub_le _ _).trans_lt yInside
  · obtain ⟨before, rfl⟩ := Nat.exists_eq_succ_of_ne_zero notFirst.ne'
    dsimp only
    rw [Nat.succ_mul, Nat.succ_sub_one]
    omega

theorem isNeighbour_right
    (yInside : y < grid.sizeY)
    (onMap : decide (x < grid.sizeX - 1) = true) :
    IsNeighbour grid ⟨x, y, srcX, srcY⟩ (y * grid.sizeX + x + 1)
      ⟨x + 1, y, srcX, srcY⟩ := by
  have notLast := of_decide_eq_true onMap
  exact ⟨rfl, .inr ⟨rfl, .inl rfl⟩,
    ⟨by dsimp only [CellData.cell]; omega, yInside⟩, rfl⟩

theorem isNeighbour_above
    (xInside : x < grid.sizeX)
    (onMap : decide (y < grid.sizeY - 1) = true) :
    IsNeighbour grid ⟨x, y, srcX, srcY⟩ (y * grid.sizeX + x + grid.sizeX)
      ⟨x, y + 1, srcX, srcY⟩ := by
  have notLast := of_decide_eq_true onMap
  refine ⟨rfl, .inl ⟨rfl, .inl rfl⟩,
    ⟨xInside, by dsimp only [CellData.cell]; omega⟩, ?_⟩
  dsimp only
  rw [Nat.succ_mul]
  omega

end

end Sides

section

omit [Field K] [LinearOrder K]

section

variable
  {grid : Grid K}
  {seen : Array Bool}

theorem candidate_subset
    {onMap : Bool}
    {index : Nat}
    {data neighbour : CellData}
    (isNeighbour : onMap = true → IsNeighbour grid data index neighbour) :
    candidate layer seen onMap index neighbour ⊆
      neighbours layer grid seen data := by
  rintro cell ⟨rfl, isOn, unseen, near⟩
  obtain ⟨source, beside, inGrid, isIndex⟩ := isNeighbour isOn
  exact ⟨source, beside, inGrid, isIndex ▸ unseen, near⟩

theorem IsNeighbour.mem_candidate
    {index : Nat}
    {data neighbour : CellData}
    (isNeighbour : IsNeighbour grid data index neighbour)
    (member : neighbour ∈ neighbours layer grid seen data) :
    neighbour ∈ candidate layer seen true index neighbour := by
  obtain ⟨-, -, -, unseen, near⟩ := member
  exact ⟨rfl, rfl, isNeighbour.index ▸ unseen, near⟩

/-- The cells beside a cell are those on its four sides. -/
theorem neighbours_eq
    {x y srcX srcY : Nat}
    (xInside : x < grid.sizeX)
    (yInside : y < grid.sizeY) :
    neighbours layer grid seen ⟨x, y, srcX, srcY⟩ =
      candidate layer seen (decide (0 < x)) (y * grid.sizeX + x - 1)
          ⟨x - 1, y, srcX, srcY⟩ ∪
        candidate layer seen (decide (0 < y))
          (y * grid.sizeX + x - grid.sizeX) ⟨x, y - 1, srcX, srcY⟩ ∪
        candidate layer seen (decide (x < grid.sizeX - 1))
          (y * grid.sizeX + x + 1) ⟨x + 1, y, srcX, srcY⟩ ∪
        candidate layer seen (decide (y < grid.sizeY - 1))
          (y * grid.sizeX + x + grid.sizeX) ⟨x, y + 1, srcX, srcY⟩ := by
  have left := @isNeighbour_left _ grid x y srcX srcY xInside yInside
  have below := @isNeighbour_below _ grid x y srcX srcY xInside yInside
  have right := @isNeighbour_right _ grid x y srcX srcY yInside
  have above := @isNeighbour_above _ grid x y srcX srcY xInside
  apply Set.Subset.antisymm
  · rintro ⟨cellX, cellY, cellSrcX, cellSrcY⟩ member
    obtain ⟨source, beside, inside, -⟩ := id member
    obtain ⟨rfl, rfl⟩ := Prod.mk.inj source
    obtain ⟨cellXInside, cellYInside⟩ := inside
    dsimp only [CellData.cell] at cellXInside cellYInside
    simp only [Beside, CellData.cell] at beside
    rcases beside with ⟨rfl, rfl | rfl⟩ | ⟨rfl, rfl | rfl⟩
    · have isOn : decide (y < grid.sizeY - 1) = true :=
        decide_eq_true (by omega)
      exact .inr (isOn ▸ (above isOn).mem_candidate member)
    · have isOn : decide (0 < cellY + 1) = true :=
        decide_eq_true (Nat.succ_pos _)
      exact .inl (.inl (.inr (isOn ▸ (below isOn).mem_candidate member)))
    · have isOn : decide (x < grid.sizeX - 1) = true :=
        decide_eq_true (by omega)
      exact .inl (.inr (isOn ▸ (right isOn).mem_candidate member))
    · have isOn : decide (0 < cellX + 1) = true :=
        decide_eq_true (Nat.succ_pos _)
      exact .inl (.inl (.inl (isOn ▸ (left isOn).mem_candidate member)))
  · exact Set.union_subset (Set.union_subset (Set.union_subset
      (candidate_subset left) (candidate_subset below))
      (candidate_subset right)) (candidate_subset above)

end

end

section

variable
  (ready : Ready falloff layer)
  (bins : state.inflationCells.size = layer.inflationCells.size)
  (seen : state.seen.size = state.costmap.sizeX * state.costmap.sizeY)
  {data : CellData}

include ready bins seen

/-- A cell beside one within the radius is added without a failure. -/
theorem Ready.neighbour_adds
    (near : distanceSq data.cell data.source ≤ layer.cellInflationRadius ^ 2)
    (onMap : Bool)
    (index : Nat)
    (neighbour : CellData)
    (isNeighbour : onMap = true →
      IsNeighbour state.costmap.toGrid data index neighbour) :
    ∃ next,
      layer.enqueueIf onMap level index neighbour.x neighbour.y neighbour.srcX
          neighbour.srcY state = .ok next ∧
        Adds layer.cellInflationRadius level state next
          (candidate layer state.seen onMap index neighbour) ∧
        next.seen = state.seen ∧ next.costmap = state.costmap ∧
        next.inflationCells.size = layer.inflationCells.size := by
  obtain ⟨next, succeeds, adds⟩ :=
    @Ready.enqueueIf_adds _ _ _ _ _ level _ ready bins onMap index neighbour
      (by
        intro isOn
        obtain ⟨xInside, yInside⟩ := (isNeighbour isOn).inGrid
        rw [(isNeighbour isOn).index, seen]
        exact rowMajor_lt yInside xInside)
      (by
        intro isOn
        have bound :=
          Beside.coordinateDistance_lt (isNeighbour isOn).beside near
        rw [← (isNeighbour isOn).source] at bound
        exact bound)
  have rest := adds.rest
  exact ⟨next, succeeds, adds, by rw [rest], by rw [rest],
    adds.size.trans bins⟩

/-- Around a cell within the radius all reads succeed. -/
theorem Ready.enqueueNeighbours_adds
    (inGrid : InGrid state.costmap.sizeX state.costmap.sizeY data.cell)
    (near : distanceSq data.cell data.source ≤ layer.cellInflationRadius ^ 2) :
    ∃ next,
      layer.enqueueNeighbours level data state = .ok next ∧
        Adds layer.cellInflationRadius level state next
          (neighbours layer state.costmap.toGrid state.seen data) := by
  obtain ⟨x, y, srcX, srcY⟩ := data
  obtain ⟨xInside, yInside⟩ := inGrid
  dsimp only [CellData.cell] at xInside yInside
  obtain ⟨first, isFirst, firstAdds, firstSeen, firstMap, firstBins⟩ :=
    @Ready.neighbour_adds _ _ _ _ _ level _ ready bins seen _ near _ _ _
      (isNeighbour_left xInside yInside)
  obtain ⟨second, isSecond, secondAdds, secondSeen, secondMap, secondBins⟩ :=
    @Ready.neighbour_adds _ _ _ _ _ level first ready firstBins
      (by rw [firstSeen, firstMap, seen]) _ near _ _ _
      (by rw [firstMap]; exact isNeighbour_below xInside yInside)
  obtain ⟨third, isThird, thirdAdds, thirdSeen, thirdMap, thirdBins⟩ :=
    @Ready.neighbour_adds _ _ _ _ _ level second ready secondBins
      (by rw [secondSeen, firstSeen, secondMap, firstMap, seen]) _ near _ _ _
      (by rw [secondMap, firstMap]; exact isNeighbour_right yInside)
  obtain ⟨next, isNext, nextAdds, -, -, -⟩ :=
    @Ready.neighbour_adds _ _ _ _ _ level third ready thirdBins
      (by
        rw [thirdSeen, secondSeen, firstSeen, thirdMap, secondMap, firstMap,
          seen]) _ near _ _ _
      (by
        rw [thirdMap, secondMap, firstMap]
        exact isNeighbour_above xInside)
  have all := ((firstAdds.trans secondAdds).trans thirdAdds).trans nextAdds
  refine ⟨next, ?_, ?_⟩
  · rw [enqueueNeighbours]
    dsimp only [Costmap2D.getIndex]
    rw [isFirst, ok_bind, isSecond, ok_bind, isThird, ok_bind]
    exact isNext
  · rw [thirdSeen, secondSeen, firstSeen] at all
    rw [neighbours_eq xInside yInside]
    exact all

end

end Neighbours

end InflationLayer

end NavBim
