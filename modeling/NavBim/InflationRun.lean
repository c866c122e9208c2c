import NavBim.InflationWave

namespace NavBim

namespace InflationLayer

/-!
# The run of an update

What is known while an update visits the cells of its bins is preserved by each
visit, and so by each bin and by the whole update.  No read fails, and all bins
are empty in the end.
-/

variable
  {K : Type}
  {layer : InflationLayer K}
  {window : Window}
  {costOf : Nat → UInt8}
  {start : Costmap2D K}
  {isSource : GridCell → Prop}
  {level i : Nat}
  {data : CellData}

section Spreading

/-- The cells that are still to be visited: those of later bins, and those of
the bin in work from a place on. -/
def pendingEntries
    (state : InflationState K)
    (level i : Nat) : Set WaveEntry :=
  {entry | ∃ (b k : Nat) (data : CellData), (bin state b)[k]? = some data ∧
    data.toEntry = entry ∧ (level < b ∨ level = b ∧ i ≤ k)}

def settledEntries
    (state : InflationState K) : Set WaveEntry :=
  {entry | ∃ data ∈ state.settled, data.toEntry = entry}

/-- The cost that a visited cell ends up with. -/
def settledCost
    (layer : InflationLayer K)
    (window : Window)
    (costOf : Nat → UInt8)
    (start : Costmap2D K)
    (data : CellData) : UInt8 :=
  if window.Contains data.x data.y then
    layer.assignedCost (start.getCost data.x data.y)
      (costOf (distanceSq data.cell data.source))
  else
    start.getCost data.x data.y

/-- What is known of the costs. -/
structure CostsSpread
    (layer : InflationLayer K)
    (window : Window)
    (costOf : Nat → UInt8)
    (start : Costmap2D K)
    (state : InflationState K) : Prop where
  settled : ∀ data ∈ state.settled,
    state.costmap.getCost data.x data.y =
      settledCost layer window costOf start data
  unsettled : ∀ x < start.sizeX, ∀ y < start.sizeY,
    (∀ data ∈ state.settled, data.cell ≠ (x, y)) →
      state.costmap.getCost x y = start.getCost x y

/-- What is known while cells are visited. -/
structure Spreading
    (layer : InflationLayer K)
    (window : Window)
    (costOf : Nat → UInt8)
    (start : Costmap2D K)
    (isSource : GridCell → Prop)
    (level i : Nat)
    (state : InflationState K) : Prop where
  grid : state.costmap.toGrid = start.toGrid
  seen : state.seen.size = start.sizeX * start.sizeY
  bins : state.inflationCells.size = layer.inflationCells.size
  wave : WaveInvariant start.sizeX start.sizeY (layer.cellInflationRadius ^ 2)
    isSource (settledEntries state) (pendingEntries state level i)
  binned : ∀ (b k : Nat) (data : CellData), (bin state b)[k]? = some data →
    binOf layer.cellInflationRadius data.cell data.source = some b
  seenIff : ∀ x < start.sizeX, ∀ y < start.sizeY,
    state.seen[y * start.sizeX + x]? = some true ↔
      ∃ data ∈ state.settled, data.cell = (x, y)
  done : ∀ b < level, bin state b = #[]
  forward : ∀ pair ∈ state.enqueued, pair.1 < pair.2
  assigned : state.assigned.Nodup
  assignedSettled : ∀ index ∈ state.assigned, ∃ data ∈ state.settled,
    index = data.y * start.sizeX + data.x
  costs : CostsSpread layer window costOf start state

variable
  {state : InflationState K}

/-- The cell at the place in work is pending. -/
theorem mem_pendingEntries
    (found : (bin state level)[i]? = some data) :
    data.toEntry ∈ pendingEntries state level i :=
  ⟨level, i, data, found, rfl, .inr ⟨rfl, le_rfl⟩⟩

/-- It is at least as near as all others. -/
theorem Spreading.minimal
    (spreading :
      Spreading layer window costOf start isSource level i state)
    (found : (bin state level)[i]? = some data)
    (other : WaveEntry)
    (isPending : other ∈ pendingEntries state level i) :
    data.toEntry.distance ≤ other.distance := by
  have near :=
    (spreading.wave.pendingFits _ (mem_pendingEntries found)).limit
  have otherNear := (spreading.wave.pendingFits other isPending).limit
  obtain ⟨b, k, otherData, otherFound, rfl, notBefore⟩ := isPending
  by_contra nearer
  have before := (binOf_lt_iff otherNear near
    (spreading.binned b k otherData otherFound)
    (spreading.binned level i data found)).mp (Nat.lt_of_not_le nearer)
  omega

theorem pendingEntries_succ
    (found : (bin state level)[i]? = some data)
    {next : InflationState K}
    (kept : ∀ (b k : Nat) (cell : CellData),
      (bin state b)[k]? = some cell → (bin next b)[k]? = some cell)
    (other : WaveEntry)
    (isPending : other ∈ pendingEntries state level i) :
    other = data.toEntry ∨ other ∈ pendingEntries next level (i + 1) := by
  obtain ⟨b, k, otherData, otherFound, rfl, notBefore⟩ := isPending
  by_cases isHere : level = b ∧ i = k
  · obtain ⟨rfl, rfl⟩ := isHere
    rw [found, Option.some.injEq] at otherFound
    exact .inl (congrArg CellData.toEntry otherFound.symm)
  · exact .inr ⟨b, k, otherData, kept b k otherData otherFound, rfl, by omega⟩

/-- A cell that was seen before is left out. -/
theorem Spreading.skip
    (spreading :
      Spreading layer window costOf start isSource level i state)
    (found : (bin state level)[i]? = some data)
    (isSettled : ∃ before ∈ state.settled, before.cell = data.cell) :
    Spreading layer window costOf start isSource level (i + 1) state := by
  obtain ⟨before, isBefore, sameCell⟩ := isSettled
  exact {
    grid := spreading.grid
    seen := spreading.seen
    bins := spreading.bins
    wave := spreading.wave.skip (mem_pendingEntries found)
      ⟨before.toEntry, ⟨before, isBefore, rfl⟩, sameCell⟩
      (pendingEntries_succ found fun _ _ _ isCell => isCell)
      (by
        rintro other ⟨b, k, otherData, otherFound, rfl, notBefore⟩
        exact ⟨b, k, otherData, otherFound, rfl, by omega⟩)
    binned := spreading.binned
    seenIff := spreading.seenIff
    done := spreading.done
    forward := spreading.forward
    assigned := spreading.assigned
    assignedSettled := spreading.assignedSettled
    costs := spreading.costs
  }

end Spreading

section Assigning

variable
  [Field K] [LinearOrder K]
  {falloff : K → K → K → Nat → UInt8}
  {state : InflationState K}

theorem Ready.costLookup_ok
    (ready : Ready falloff layer)
    (near : distanceSq data.cell data.source ≤ layer.cellInflationRadius ^ 2) :
    layer.costLookup data.x data.y data.srcX data.srcY =
      .ok (layer.computeCost falloff (distanceSq data.cell data.source)) := by
  obtain ⟨nearX, nearY⟩ := coordinateDistance_le near
  dsimp only [CellData.cell, CellData.source] at nearX nearY
  rw [costLookup, ready.cacheLength]
  apply lookup_ok
  rw [← hypot_coordinateDistance]
  exact ready.cachedCosts _ (by omega) _ (by omega)

/-- What assigning a cost does. -/
structure Assigns
    (layer : InflationLayer K)
    (window : Window)
    (costOf : Nat → UInt8)
    (data : CellData)
    (state next : InflationState K) : Prop where
  rest : next = { state with
    costmap := next.costmap, assigned := next.assigned }
  grid : next.costmap.toGrid = state.costmap.toGrid
  assigned : next.assigned = state.assigned ∨
    next.assigned = (data.y * state.costmap.sizeX + data.x) :: state.assigned
  here : next.costmap.getCost data.x data.y =
    settledCost layer window costOf state.costmap data
  elsewhere : ∀ x < state.costmap.sizeX, ∀ y, data.cell ≠ (x, y) →
    next.costmap.getCost x y = state.costmap.getCost x y

theorem Ready.assignCost_ok
    (ready : Ready falloff layer)
    (inGrid : InGrid state.costmap.sizeX state.costmap.sizeY data.cell)
    (near : distanceSq data.cell data.source ≤ layer.cellInflationRadius ^ 2) :
    ∃ next, layer.assignCost window data state = .ok next ∧
      Assigns layer window (layer.computeCost falloff) data state next := by
  obtain ⟨xInside, yInside⟩ := inGrid
  dsimp only [CellData.cell] at xInside yInside
  have inside := Costmap2D.getIndex_lt xInside yInside
  have isCost :
      state.costmap.costmap[state.costmap.getIndex data.x data.y]? =
        some (state.costmap.getCost data.x data.y) := by
    have isPlace : state.costmap.getIndex data.x data.y <
      state.costmap.costmap.size := inside
    rw [Array.getElem?_eq_getElem isPlace, Costmap2D.getCost,
      Array.getD_eq_getD_getElem?, Array.getElem?_eq_getElem isPlace,
      Option.getD_some]
  rw [assignCost]
  simp only [ready.costLookup_ok near, ok_bind, lookup_ok isCost]
  split
  · case isTrue contains =>
    refine ⟨_, rfl, rfl, rfl, .inr rfl, ?_, ?_⟩
    · dsimp only
      rw [Costmap2D.getCost_setCost _ xInside yInside xInside,
        if_pos ⟨rfl, rfl⟩, settledCost, if_pos contains]
    · intro x otherInside y different
      dsimp only
      rw [Costmap2D.getCost_setCost _ xInside yInside otherInside, if_neg]
      rintro ⟨rfl, rfl⟩
      exact different rfl
  · case isFalse outside =>
    refine ⟨_, rfl, rfl, rfl, .inl rfl, ?_, fun _ _ _ _ => rfl⟩
    rw [settledCost, if_neg outside]

end Assigning

section Visiting

variable
  [Field K] [LinearOrder K]
  {falloff : K → K → K → Nat → UInt8}
  {state next : InflationState K}

/-- The state of a visit before cells are added. -/
structure Visits
    (layer : InflationLayer K)
    (window : Window)
    (costOf : Nat → UInt8)
    (start : Costmap2D K)
    (level : Nat)
    (data : CellData)
    (state next : InflationState K) : Prop where
  grid : next.costmap.toGrid = start.toGrid
  seen : next.seen = state.seen.setIfInBounds
    (data.y * start.sizeX + data.x) true
  settled : next.settled = data :: state.settled
  bins : next.inflationCells.size = state.inflationCells.size
  assigned : next.assigned = state.assigned ∨
    next.assigned = (data.y * start.sizeX + data.x) :: state.assigned
  here : next.costmap.getCost data.x data.y =
    settledCost layer window costOf state.costmap data
  elsewhere : ∀ x < start.sizeX, ∀ y, data.cell ≠ (x, y) →
    next.costmap.getCost x y = state.costmap.getCost x y
  kept : ∀ (b k : Nat) (cell : CellData), (bin state b)[k]? = some cell →
    (bin next b)[k]? = some cell
  old : ∀ (b k : Nat) (cell : CellData), (bin next b)[k]? = some cell →
    (bin state b)[k]? = some cell ∨
      cell ∈ neighbours layer start.toGrid next.seen data ∧
        binOf layer.cellInflationRadius cell.cell cell.source = some b
  added : ∀ cell ∈ neighbours layer start.toGrid next.seen data, ∃ b k : Nat,
    binOf layer.cellInflationRadius cell.cell cell.source = some b ∧
      (bin next b)[k]? = some cell
  enqueued : ∀ pair ∈ next.enqueued, pair ∈ state.enqueued ∨
    ∃ cell ∈ neighbours layer start.toGrid next.seen data, pair.1 = level ∧
      binOf layer.cellInflationRadius cell.cell cell.source = some pair.2

theorem Spreading.visits
    (ready : Ready falloff layer)
    (spreading : Spreading layer window (layer.computeCost falloff) start
      isSource level i state)
    (found : (bin state level)[i]? = some data)
    (unseen : state.seen[data.y * start.sizeX + data.x]? = some false) :
    ∃ next, layer.visitCell window level data state = .ok next ∧
      Visits layer window (layer.computeCost falloff) start level data state
        next := by
  have fits := spreading.wave.pendingFits _ (mem_pendingEntries found)
  have inGrid : InGrid start.sizeX start.sizeY data.cell := fits.inGrid
  have near : distanceSq data.cell data.source ≤
      layer.cellInflationRadius ^ 2 := fits.limit
  have sizeX : state.costmap.sizeX = start.sizeX := by rw [spreading.grid]
  have sizeY : state.costmap.sizeY = start.sizeY := by rw [spreading.grid]
  have isIndex : state.costmap.getIndex data.x data.y =
      data.y * start.sizeX + data.x := by
    rw [Costmap2D.getIndex, sizeX]
  obtain ⟨marked, isMarked⟩ : ∃ marked : InflationState K, marked = { state with
      seen := state.seen.setIfInBounds (data.y * start.sizeX + data.x) true
      settled := data :: state.settled } := ⟨_, rfl⟩
  have markedMap : marked.costmap = state.costmap := by rw [isMarked]
  obtain ⟨middle, isMiddle, assigns⟩ :=
    @Ready.assignCost_ok _ _ window data _ _ _ marked ready
      (by rw [markedMap, sizeX, sizeY]; exact inGrid) near
  have middleRest := assigns.rest
  have middleGrid : middle.costmap.toGrid = start.toGrid := by
    rw [assigns.grid, markedMap, spreading.grid]
  have middleSeen : middle.seen = marked.seen := by rw [middleRest]
  obtain ⟨next, isNext, adds⟩ :=
    @Ready.enqueueNeighbours_adds _ _ _ _ _ level middle ready
      (by rw [middleRest, isMarked]; exact spreading.bins)
      (by
        rw [middleSeen, middleGrid, isMarked]
        dsimp only
        rw [Array.size_setIfInBounds, spreading.seen])
      data (by rw [middleGrid]; exact inGrid) near
  rw [middleGrid] at adds
  have nextRest := adds.rest
  have nextSeen : next.seen = middle.seen := by rw [nextRest]
  have nextMap : next.costmap = middle.costmap := by rw [nextRest]
  have sameBin (b : Nat) : bin middle b = bin state b := by
    rw [bin, bin, middleRest, isMarked]
  have sameEnqueued : middle.enqueued = state.enqueued := by
    rw [middleRest, isMarked]
  refine ⟨next, ?_, ?_⟩
  · rw [visitCell, isIndex, lookup_ok unseen, ok_bind,
      if_neg Bool.false_ne_true, ← isMarked, isMiddle, ok_bind]
    exact isNext
  · refine {
      grid := by rw [nextMap, middleGrid]
      seen := by rw [nextSeen, middleSeen, isMarked]
      settled := by rw [nextRest, middleRest, isMarked]
      bins := by rw [adds.size, middleRest, isMarked]
      assigned := ?_
      here := by
        rw [nextMap, assigns.here, markedMap]
      elsewhere := ?_
      kept := fun b k cell isCell =>
        adds.kept b k cell ((sameBin b).symm ▸ isCell)
      old := ?_
      added := ?_
      enqueued := ?_
    }
    · have sameAssigned : next.assigned = middle.assigned := by rw [nextRest]
      have markedAssigned : marked.assigned = state.assigned := by
        rw [isMarked]
      rw [sameAssigned]
      have result := assigns.assigned
      rw [markedMap, sizeX, markedAssigned] at result
      exact result
    · intro x xInside y different
      rw [nextMap, assigns.elsewhere x (by rw [markedMap, sizeX]; exact xInside)
        y different, markedMap]
    · intro b k cell isCell
      rw [nextSeen, ← sameBin]
      exact adds.old b k cell isCell
    · intro cell isNew
      rw [nextSeen] at isNew
      exact adds.added cell isNew
    · intro pair member
      rw [nextSeen, ← sameEnqueued]
      exact adds.enqueued pair member

end Visiting

section Settling

variable
  {state next : InflationState K}

theorem Visits.settledEntries_eq
    (visits : Visits layer window costOf start level data state next) :
    settledEntries next = insert data.toEntry (settledEntries state) := by
  ext entry
  rw [settledEntries, visits.settled]
  constructor
  · rintro ⟨other, member, rfl⟩
    rcases List.mem_cons.mp member with rfl | isOld
    · exact .inl rfl
    · exact .inr ⟨other, isOld, rfl⟩
  · rintro (rfl | ⟨other, isOld, rfl⟩)
    · exact ⟨data, List.mem_cons_self, rfl⟩
    · exact ⟨other, List.mem_cons_of_mem _ isOld, rfl⟩

/-- What was visited before is not the cell of an unseen place. -/
theorem Spreading.unvisited
    (spreading :
      Spreading layer window costOf start isSource level i state)
    (inGrid : InGrid start.sizeX start.sizeY data.cell)
    (unseen : state.seen[data.y * start.sizeX + data.x]? = some false)
    {other : CellData}
    (member : other ∈ state.settled) :
    other.cell ≠ data.cell := by
  intro isCell
  have isSeen := (spreading.seenIff data.x inGrid.1 data.y inGrid.2).mpr
    ⟨other, member, isCell⟩
  rw [unseen] at isSeen
  cases isSeen

section

variable
  (visits : Visits layer window costOf start level data state next)
  (spreading :
    Spreading layer window costOf start isSource level i state)

include visits spreading

section

variable
  (inGrid : InGrid start.sizeX start.sizeY data.cell)

include inGrid

theorem Visits.seenIff
    {x y : Nat}
    (xInside : x < start.sizeX)
    (yInside : y < start.sizeY) :
    next.seen[y * start.sizeX + x]? = some true ↔
      ∃ other ∈ next.settled, other.cell = (x, y) := by
  obtain ⟨dataXInside, dataYInside⟩ := inGrid
  dsimp only [CellData.cell] at dataXInside dataYInside
  have dataInside : data.y * start.sizeX + data.x < state.seen.size := by
    rw [spreading.seen]
    exact rowMajor_lt dataYInside dataXInside
  have isOld := spreading.seenIff x xInside y yInside
  rw [visits.seen, visits.settled]
  by_cases same : data.cell = (x, y)
  · obtain ⟨rfl, rfl⟩ := Prod.mk.inj same
    rw [Array.getElem?_setIfInBounds_self_of_lt dataInside]
    exact ⟨fun _ => ⟨data, List.mem_cons_self, rfl⟩, fun _ => rfl⟩
  · have apart : data.y * start.sizeX + data.x ≠ y * start.sizeX + x := by
      intro equal
      obtain ⟨sameY, sameX⟩ := rowMajor_inj dataXInside xInside equal
      exact same (Prod.ext sameX sameY)
    rw [Array.getElem?_setIfInBounds_ne apart, isOld]
    constructor
    · rintro ⟨other, member, isCell⟩
      exact ⟨other, List.mem_cons_of_mem _ member, isCell⟩
    · rintro ⟨other, member, isCell⟩
      rcases List.mem_cons.mp member with rfl | isOther
      · exact absurd isCell same
      · exact ⟨other, isOther, isCell⟩

theorem Visits.unseen_iff
    {x y : Nat}
    (xInside : x < start.sizeX)
    (yInside : y < start.sizeY) :
    next.seen[y * start.sizeX + x]? = some false ↔
      ∀ entry ∈ insert data.toEntry (settledEntries state),
        entry.cell ≠ (x, y) := by
  have isSeen := visits.seenIff spreading inGrid xInside yInside
  have size : next.seen.size = start.sizeX * start.sizeY := by
    rw [visits.seen, Array.size_setIfInBounds, spreading.seen]
  have inside : y * start.sizeX + x < next.seen.size := by
    rw [size]
    exact rowMajor_lt yInside xInside
  rw [Array.getElem?_eq_getElem inside, Option.some.injEq] at isSeen ⊢
  rw [← visits.settledEntries_eq, ← Bool.not_eq_true, isSeen]
  constructor
  · rintro notVisited entry ⟨other, member, rfl⟩ isCell
    exact notVisited ⟨other, member, isCell⟩
  · rintro apart ⟨other, member, isCell⟩
    exact apart other.toEntry ⟨other, member, rfl⟩ isCell

theorem Visits.isNext
    {cell : CellData}
    (isNew : cell ∈ neighbours layer start.toGrid next.seen data) :
    IsNext start.sizeX start.sizeY (layer.cellInflationRadius ^ 2)
      (insert data.toEntry (settledEntries state)) data.toEntry
      cell.toEntry := by
  obtain ⟨source, beside, cellInside, unseen, near⟩ := isNew
  exact ⟨source, beside, cellInside, (visits.unseen_iff spreading inGrid
    cellInside.1 cellInside.2).mp unseen, near⟩

theorem Visits.exists_neighbour
    {entry : WaveEntry}
    (isNext : IsNext start.sizeX start.sizeY (layer.cellInflationRadius ^ 2)
      (insert data.toEntry (settledEntries state)) data.toEntry entry) :
    ∃ cell ∈ neighbours layer start.toGrid next.seen data,
      cell.toEntry = entry := by
  obtain ⟨source, beside, cellInside, unsettled, near⟩ := isNext
  refine ⟨⟨entry.cell.1, entry.cell.2, data.srcX, data.srcY⟩,
    ⟨rfl, beside, cellInside, ?_, ?_⟩, ?_⟩
  · exact (visits.unseen_iff spreading inGrid cellInside.1 cellInside.2).mpr
      unsettled
  · rw [WaveEntry.distance, source] at near
    exact near
  · obtain ⟨cell, entrySource⟩ := entry
    dsimp only at source
    rw [source]
    rfl

theorem Visits.assigned_nodup
    (unseen : state.seen[data.y * start.sizeX + data.x]? = some false) :
    next.assigned.Nodup := by
  rcases visits.assigned with same | added
  · rw [same]
    exact spreading.assigned
  · rw [added, List.nodup_cons]
    refine ⟨?_, spreading.assigned⟩
    intro member
    obtain ⟨other, isOther, isIndex⟩ := spreading.assignedSettled _ member
    have otherFits := spreading.wave.settledFits _ ⟨other, isOther, rfl⟩
    obtain ⟨sameY, sameX⟩ := rowMajor_inj inGrid.1 otherFits.inGrid.1 isIndex
    exact spreading.unvisited inGrid unseen isOther
      (Prod.ext sameX.symm sameY.symm)

theorem Visits.costs
    (unseen : state.seen[data.y * start.sizeX + data.x]? = some false) :
    CostsSpread layer window costOf start next := by
  refine ⟨?_, ?_⟩
  · rw [visits.settled]
    intro other member
    rcases List.mem_cons.mp member with rfl | isOld
    · have before : state.costmap.getCost other.x other.y =
          start.getCost other.x other.y :=
        spreading.costs.unsettled _ inGrid.1 _ inGrid.2 fun _ isSettled =>
          spreading.unvisited inGrid unseen isSettled
      rw [visits.here, settledCost, settledCost, before]
    · have otherFits := spreading.wave.settledFits _ ⟨other, isOld, rfl⟩
      rw [visits.elsewhere other.x otherFits.inGrid.1 other.y
        (spreading.unvisited inGrid unseen isOld).symm]
      exact spreading.costs.settled other isOld
  · intro x otherXInside y otherYInside apart
    rw [visits.settled] at apart
    rw [visits.elsewhere x otherXInside y (apart data List.mem_cons_self)]
    exact spreading.costs.unsettled x otherXInside y otherYInside
      fun other member => apart other (List.mem_cons_of_mem _ member)

end

theorem Visits.level_lt
    (sourcesInside : ∀ source, isSource source →
      InGrid start.sizeX start.sizeY source)
    (found : (bin state level)[i]? = some data)
    {cell : CellData}
    (isNew : cell ∈ neighbours layer start.toGrid next.seen data)
    {b : Nat}
    (isBin : binOf layer.cellInflationRadius cell.cell cell.source = some b) :
    level < b := by
  have isPending := mem_pendingEntries found
  have fits := spreading.wave.pendingFits _ isPending
  have isNext := visits.isNext spreading fits.inGrid isNew
  have forward := spreading.wave.next_distance sourcesInside isPending
    (spreading.minimal found) isNext
  exact (binOf_lt_iff fits.limit isNext.limit
    (spreading.binned level i data found) isBin).mp forward

theorem Visits.assigned_settled
    {index : Nat}
    (member : index ∈ next.assigned) :
    ∃ other ∈ next.settled, index = other.y * start.sizeX + other.x := by
  rw [visits.settled]
  have old (isOld : index ∈ state.assigned) :
      ∃ other ∈ data :: state.settled,
        index = other.y * start.sizeX + other.x := by
    obtain ⟨other, isOther, isIndex⟩ := spreading.assignedSettled index isOld
    exact ⟨other, List.mem_cons_of_mem _ isOther, isIndex⟩
  rcases visits.assigned with same | added
  · exact old (same ▸ member)
  · rw [added] at member
    rcases List.mem_cons.mp member with rfl | isOld
    · exact ⟨data, List.mem_cons_self, rfl⟩
    · exact old isOld

end

/-- A visit keeps what is known. -/
theorem Spreading.settle
    (sourcesInside : ∀ source, isSource source →
      InGrid start.sizeX start.sizeY source)
    (spreading :
      Spreading layer window costOf start isSource level i state)
    (found : (bin state level)[i]? = some data)
    (unseen : state.seen[data.y * start.sizeX + data.x]? = some false)
    (visits : Visits layer window costOf start level data state next) :
    Spreading layer window costOf start isSource level (i + 1) next := by
  have isPending := mem_pendingEntries found
  have fits := spreading.wave.pendingFits _ isPending
  have inGrid : InGrid start.sizeX start.sizeY data.cell := fits.inGrid
  have unsettled : ∀ before ∈ settledEntries state,
      before.cell ≠ data.toEntry.cell := by
    rintro before ⟨other, member, rfl⟩
    exact spreading.unvisited inGrid unseen member
  have later (cell : CellData)
      (isNew : cell ∈ neighbours layer start.toGrid next.seen data)
      {b : Nat}
      (isBin : binOf layer.cellInflationRadius cell.cell cell.source =
        some b) :
      level < b :=
    visits.level_lt spreading sourcesInside found isNew isBin
  refine {
    grid := visits.grid
    seen := by rw [visits.seen, Array.size_setIfInBounds, spreading.seen]
    bins := visits.bins.trans spreading.bins
    wave := ?_
    binned := ?_
    seenIff := fun x xInside y yInside =>
      visits.seenIff spreading inGrid xInside yInside
    done := ?_
    forward := ?_
    assigned := visits.assigned_nodup spreading inGrid unseen
    assignedSettled := fun index member =>
      visits.assigned_settled spreading member
    costs := visits.costs spreading inGrid unseen
  }
  · rw [visits.settledEntries_eq]
    refine spreading.wave.settle sourcesInside isPending
      (spreading.minimal found) unsettled
      (pendingEntries_succ found visits.kept) ?_ ?_
    · intro entry isNext
      obtain ⟨cell, isNew, rfl⟩ := visits.exists_neighbour spreading inGrid isNext
      obtain ⟨b, k, isBin, isCell⟩ := visits.added cell isNew
      exact ⟨b, k, cell, isCell, rfl, .inl (later cell isNew isBin)⟩
    · rintro entry ⟨b, k, cell, isCell, rfl, notBefore⟩
      rcases visits.old b k cell isCell with isOld | ⟨isNew, -⟩
      · exact .inl ⟨b, k, cell, isOld, rfl, by omega⟩
      · exact .inr (visits.isNext spreading inGrid isNew)
  · intro b k cell isCell
    rcases visits.old b k cell isCell with isOld | ⟨-, isBin⟩
    · exact spreading.binned b k cell isOld
    · exact isBin
  · intro b before
    apply Array.eq_empty_of_size_eq_zero
    by_contra notEmpty
    have isCell := Array.getElem?_eq_getElem (Nat.pos_of_ne_zero notEmpty)
    rcases visits.old b 0 _ isCell with isOld | ⟨isNew, isBin⟩
    · rw [spreading.done b before] at isOld
      cases isOld
    · exact absurd (later _ isNew isBin) (by omega)
  · intro pair member
    rcases visits.enqueued pair member with isOld | ⟨cell, isNew, same, isBin⟩
    · exact spreading.forward pair isOld
    · rw [same]
      exact later cell isNew isBin

end Settling

end InflationLayer

end NavBim
