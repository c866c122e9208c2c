import NavBim.InflationLayer

namespace NavBim

namespace InflationLayer

/-!
# The tables of the inflation layer

The tables reach one cell further than the inflation radius, so that the cells
beside any cell within the radius are still in them.  The numbers of the bins
order the offsets of cells by their lengths.  Whatever changes the radius
computes all tables for it.
-/

section Tables

variable {α : Type}

@[simp] theorem size_resize
    (table : Array α)
    (size : Nat)
    (value : α) :
    (resize table size value).size = size := by
  simp [resize]

@[simp] theorem size_fill
    (table : Array α)
    (length : Nat)
    (value : Nat → Nat → α) :
    (fill table length value).size = table.size := by
  simp [fill]

theorem fill_getElem?
    {table : Array α}
    {length i j : Nat}
    (value : Nat → Nat → α)
    (isSquare : table.size = length * length)
    (iInside : i < length)
    (jInside : j < length) :
    (fill table length value)[i * length + j]? = some (value i j) := by
  have inside : i * length + j < length * length :=
    rowMajor_lt iInside jInside
  rw [fill, Array.getElem?_mapIdx,
    Array.getElem?_eq_getElem (inside.trans_eq isSquare.symm), Option.map_some,
    if_pos inside, rowMajor_div jInside, rowMajor_mod jInside]

theorem lookup_ok
    {table : Array α}
    {index : Nat}
    {value : α}
    {failure : OutOfBounds}
    (found : table[index]? = some value) :
    lookup table index failure = .ok value := by
  rw [lookup, found]

end Tables

section Levels

/-- The offsets that have a place in the matrix. -/
def InMatrix
    (r : Nat)
    (point : ℤ × ℤ) : Prop :=
  -(r : ℤ) ≤ point.1 ∧ point.1 ≤ r ∧ -(r : ℤ) ≤ point.2 ∧ point.2 ≤ r

structure IsMatrix
    (r : Nat)
    (matrix : Array (Array Nat)) : Prop where
  size : matrix.size = r * 2 + 1
  column : ∀ (i : Nat) (column : Array Nat), matrix[i]? = some column →
    column.size = r * 2 + 1

variable {r : Nat} {matrix : Array (Array Nat)} {point other : ℤ × ℤ}

theorem matrixEntry_eq
    (inMatrix : InMatrix r point) :
    matrixEntry r matrix point =
      matrix[(point.1 + r).toNat]?.bind fun column =>
        column[(point.2 + r).toNat]? := by
  obtain ⟨left, -, below, -⟩ := inMatrix
  rw [matrixEntry, if_neg (by omega)]

theorem IsMatrix.setMatrixEntry
    (isMatrix : IsMatrix r matrix)
    (point : ℤ × ℤ)
    (level : Nat) :
    IsMatrix r (setMatrixEntry r matrix point level) where
  size := by
    rw [InflationLayer.setMatrixEntry, Array.size_modify, isMatrix.size]
  column := by
    intro i column found
    rw [InflationLayer.setMatrixEntry, Array.getElem?_modify] at found
    split at found
    · obtain ⟨old, isOld, rfl⟩ := Option.map_eq_some_iff.mp found
      rw [Array.size_setIfInBounds, isMatrix.column i old isOld]
    · exact isMatrix.column i column found

theorem matrixEntry_set
    (isMatrix : IsMatrix r matrix)
    (inMatrix : InMatrix r point)
    (otherInMatrix : InMatrix r other)
    (level : Nat) :
    matrixEntry r (setMatrixEntry r matrix point level) other =
      if other = point then some level else matrixEntry r matrix other := by
  rw [matrixEntry_eq otherInMatrix, matrixEntry_eq otherInMatrix,
    setMatrixEntry, Array.getElem?_modify]
  obtain ⟨left, right, below, above⟩ := inMatrix
  obtain ⟨otherLeft, otherRight, otherBelow, otherAbove⟩ := otherInMatrix
  by_cases sameX : other.1 = point.1
  · have inside : (point.1 + r).toNat < matrix.size := by
      rw [isMatrix.size]
      omega
    have columnInside : (point.2 + r).toNat <
        (matrix[(point.1 + r).toNat]).size := by
      rw [isMatrix.column _ _ (Array.getElem?_eq_getElem inside)]
      omega
    rw [sameX, if_pos rfl, Array.getElem?_eq_getElem inside, Option.map_some,
      Option.bind_some, Option.bind_some]
    by_cases sameY : other.2 = point.2
    · rw [sameY, Array.getElem?_setIfInBounds_self_of_lt columnInside,
        if_pos (Prod.ext sameX sameY)]
    · rw [Array.getElem?_setIfInBounds_ne (by omega), if_neg]
      rintro rfl
      exact sameY rfl
  · rw [if_neg (by omega), if_neg]
    rintro rfl
    exact sameX rfl

theorem mem_discPoints :
    point ∈ discPoints r ↔
      InMatrix r point ∧
        point.1 * point.1 + point.2 * point.2 ≤ (r : ℤ) * r := by
  rw [discPoints, List.mem_flatMap]
  constructor
  · rintro ⟨j, jInside, member⟩
    obtain ⟨i, iInside, found⟩ := List.mem_filterMap.mp member
    rw [List.mem_range] at iInside jInside
    dsimp only at found
    split at found
    · case isTrue near =>
      cases found
      refine ⟨⟨?_, ?_, ?_, ?_⟩, near⟩ <;> dsimp only <;> omega
    · cases found
  · rintro ⟨⟨left, right, below, above⟩, near⟩
    refine ⟨(point.2 + r).toNat, List.mem_range.mpr (by omega),
      List.mem_filterMap.mpr ⟨(point.1 + r).toNat,
        List.mem_range.mpr (by omega), ?_⟩⟩
    have isX : (((point.1 + r).toNat : ℤ)) - r = point.1 := by omega
    have isY : (((point.2 + r).toNat : ℤ)) - r = point.2 := by omega
    dsimp only
    rw [isX, isY, if_pos near]

/-- The numbers of the offsets around a cell are in the order of their
lengths. -/
theorem generateIntegerDistances_ranks
    (cellInflationRadius : Nat) :
    RanksOf squaredNorm (matrixEntry (cellInflationRadius + 2))
      ((discPoints (cellInflationRadius + 2)).insertionSort fun first second =>
        squaredNorm first ≤ squaredNorm second)
      (generateIntegerDistances cellInflationRadius).1
      (generateIntegerDistances cellInflationRadius).2 := by
  have member {point : ℤ × ℤ}
      (isItem : point ∈
        (discPoints (cellInflationRadius + 2)).insertionSort fun first second =>
          squaredNorm first ≤ squaredNorm second) :
      InMatrix (cellInflationRadius + 2) point :=
    (mem_discPoints.mp ((List.perm_insertionSort _ _).mem_iff.mp isItem)).1
  refine @ranksOf_foldl _ _ _ squaredNorm
    (matrixEntry (cellInflationRadius + 2))
    (setMatrixEntry (cellInflationRadius + 2))
    (InMatrix (cellInflationRadius + 2)) (IsMatrix (cellInflationRadius + 2))
    ?_ ?_ _ (fun point => member) ?_ _ ?_ ?_ rfl
  · intro matrix point other level isMatrix inMatrix otherInMatrix
    exact matrixEntry_set isMatrix inMatrix otherInMatrix level
  · intro matrix point level isMatrix _
    exact isMatrix.setMatrixEntry point level
  · exact List.pairwise_insertionSort _ _
  · refine ⟨Array.size_replicate, ?_⟩
    intro i column found
    rw [Array.getElem?_replicate] at found
    split at found
    · cases found
      exact Array.size_replicate
    · cases found
  · rfl

end Levels

section Distances

variable {cell source cell' source' : GridCell} {limit : Nat}

/-- The offset of a cell from a source. -/
def offset
    (cell source : GridCell) : ℤ × ℤ :=
  ((cell.1 : ℤ) - source.1, (cell.2 : ℤ) - source.2)

theorem squaredNorm_offset
    (cell source : GridCell) :
    squaredNorm (offset cell source) = distanceSq cell source := by
  have isSum := distanceSq_cast cell source
  rw [squaredNorm, offset]
  dsimp only
  rw [← sq, ← sq, ← isSum, Int.toNat_natCast]

theorem coordinateDistance_eq
    (m src : Nat) :
    coordinateDistance m src = ((m : ℤ) - src).natAbs := by
  rw [coordinateDistance]
  split <;> omega

theorem hypot_coordinateDistance
    (cell source : GridCell) :
    hypot (coordinateDistance cell.1 source.1)
        (coordinateDistance cell.2 source.2) =
      distanceSq cell source := by
  rw [hypot, coordinateDistance_eq, coordinateDistance_eq]
  rfl

theorem coordinateDistance_le
    (near : distanceSq cell source ≤ limit ^ 2) :
    coordinateDistance cell.1 source.1 ≤ limit ∧
      coordinateDistance cell.2 source.2 ≤ limit := by
  rw [← hypot_coordinateDistance, hypot] at near
  exact ⟨(Nat.pow_le_pow_iff_left two_ne_zero).mp (by omega),
    (Nat.pow_le_pow_iff_left two_ne_zero).mp (by omega)⟩

theorem Beside.coordinateDistance_lt
    (beside : Beside cell cell')
    (near : distanceSq cell source ≤ limit ^ 2) :
    coordinateDistance cell'.1 source.1 < limit + 2 ∧
      coordinateDistance cell'.2 source.2 < limit + 2 := by
  obtain ⟨nearX, nearY⟩ := coordinateDistance_le near
  rw [coordinateDistance_eq] at nearX nearY ⊢
  rw [coordinateDistance_eq]
  simp only [Beside] at beside
  omega

theorem offset_mem_discPoints
    {cellInflationRadius : Nat}
    (near : distanceSq cell source ≤ cellInflationRadius ^ 2) :
    offset cell source ∈
      (discPoints (cellInflationRadius + 2)).insertionSort fun first second =>
        squaredNorm first ≤ squaredNorm second := by
  rw [(List.perm_insertionSort _ _).mem_iff, mem_discPoints]
  obtain ⟨nearX, nearY⟩ := coordinateDistance_le near
  rw [coordinateDistance_eq] at nearX nearY
  refine ⟨⟨?_, ?_, ?_, ?_⟩, ?_⟩
  · simp only [offset]
    omega
  · simp only [offset]
    omega
  · simp only [offset]
    omega
  · simp only [offset]
    omega
  · have isSum := distanceSq_cast cell source
    have bound : (distanceSq cell source : ℤ) ≤
        (cellInflationRadius : ℤ) ^ 2 := by
      exact_mod_cast near
    simp only [offset]
    push_cast
    nlinarith

/-- The bin of a cell and its source. -/
def binOf
    (cellInflationRadius : Nat)
    (cell source : GridCell) : Option Nat :=
  matrixEntry (cellInflationRadius + 2)
    (generateIntegerDistances cellInflationRadius).1 (offset cell source)

theorem exists_binOf
    {cellInflationRadius : Nat}
    (near : distanceSq cell source ≤ cellInflationRadius ^ 2) :
    ∃ bin, binOf cellInflationRadius cell source = some bin ∧
      bin ≤ (generateIntegerDistances cellInflationRadius).2 :=
  (generateIntegerDistances_ranks cellInflationRadius).exists_rank _
    (offset_mem_discPoints near)

/-- Bins are in the order of the distances. -/
theorem binOf_lt_iff
    {cellInflationRadius first second : Nat}
    (near : distanceSq cell source ≤ cellInflationRadius ^ 2)
    (near' : distanceSq cell' source' ≤ cellInflationRadius ^ 2)
    (isFirst : binOf cellInflationRadius cell source = some first)
    (isSecond : binOf cellInflationRadius cell' source' = some second) :
    distanceSq cell source < distanceSq cell' source' ↔ first < second := by
  have ranks := (generateIntegerDistances_ranks cellInflationRadius).lt_iff _
    (offset_mem_discPoints near) _ (offset_mem_discPoints near') first second
    isFirst isSecond
  rwa [squaredNorm_offset, squaredNorm_offset] at ranks

/-- Obstacles are in the first bin. -/
theorem binOf_self
    (cellInflationRadius : Nat)
    (cell : GridCell) :
    binOf cellInflationRadius cell cell = some 0 := by
  apply (generateIntegerDistances_ranks cellInflationRadius).zero
  · apply offset_mem_discPoints
    rw [distanceSq_self]
    exact Nat.zero_le _
  · rw [squaredNorm_offset, distanceSq_self]

end Distances

section Ready

variable
  {K : Type}
  [Field K] [LinearOrder K] [FloorRing K]
  {falloff : K → K → K → Nat → UInt8}

/-- The tables fit the radius that they were computed for last. -/
def CachedFit
    (layer : InflationLayer K) : Prop :=
  layer.cachedCellInflationRadius = 0 ∨
    layer.cachedDistances.size = (layer.cachedCellInflationRadius + 2) *
      (layer.cachedCellInflationRadius + 2) ∧
    layer.cachedCosts.size = (layer.cachedCellInflationRadius + 2) *
      (layer.cachedCellInflationRadius + 2) ∧
    ∀ i < layer.cachedCellInflationRadius + 2,
      ∀ j < layer.cachedCellInflationRadius + 2,
        layer.cachedDistances[
          i * (layer.cachedCellInflationRadius + 2) + j]? = some (hypot i j)

/-- The tables are those of the radius. -/
structure Ready
    (falloff : K → K → K → Nat → UInt8)
    (layer : InflationLayer K) : Prop where
  cacheLength : layer.cacheLength = layer.cellInflationRadius + 2
  cachedDistances : ∀ i < layer.cellInflationRadius + 2,
    ∀ j < layer.cellInflationRadius + 2,
      layer.cachedDistances[i * (layer.cellInflationRadius + 2) + j]? =
        some (hypot i j)
  cachedCosts : ∀ i < layer.cellInflationRadius + 2,
    ∀ j < layer.cellInflationRadius + 2,
      layer.cachedCosts[i * (layer.cellInflationRadius + 2) + j]? =
        some (layer.computeCost falloff (hypot i j))
  distanceMatrix : layer.distanceMatrix =
    (generateIntegerDistances layer.cellInflationRadius).1
  inflationCells : layer.inflationCells.size =
    (generateIntegerDistances layer.cellInflationRadius).2 + 1

def BinsEmpty
    (inflationCells : Array (Array CellData)) : Prop :=
  ∀ (level : Nat) (cells : Array CellData),
    inflationCells[level]? = some cells → cells = #[]

/-- What holds of a layer between its calls. -/
structure TablesFit
    (falloff : K → K → K → Nat → UInt8)
    (layer : InflationLayer K) : Prop where
  cached : CachedFit layer
  ready : layer.cellInflationRadius = 0 ∨ Ready falloff layer
  empty : BinsEmpty layer.inflationCells

theorem binsEmpty_replicate
    (count : Nat) :
    BinsEmpty (Array.replicate count #[]) := by
  intro level cells found
  rw [Array.getElem?_replicate] at found
  split at found
  · cases found
    rfl
  · cases found

/-- The tables of distances fit as soon as the radius is the one they were
computed for. -/
theorem cachedDistances_fit
    (table : Array Nat)
    (length : Nat) :
    (fill (resize table (length * length) 0) length hypot).size =
        length * length ∧
      ∀ i < length, ∀ j < length,
        (fill (resize table (length * length) 0) length hypot)[
          i * length + j]? = some (hypot i j) := by
  refine ⟨by rw [size_fill, size_resize], ?_⟩
  intro i iInside j jInside
  exact fill_getElem? hypot (size_resize _ _ _) iInside jInside

variable
  {layer : InflationLayer K}

omit [FloorRing K] in
theorem filled_fit
    (length : layer.cacheLength = layer.cellInflationRadius + 2)
    (same : layer.cachedCellInflationRadius = layer.cellInflationRadius)
    (costs : layer.cachedCosts.size = (layer.cellInflationRadius + 2) *
      (layer.cellInflationRadius + 2))
    (size : layer.cachedDistances.size = (layer.cellInflationRadius + 2) *
      (layer.cellInflationRadius + 2))
    (distances : ∀ i < layer.cellInflationRadius + 2,
      ∀ j < layer.cellInflationRadius + 2,
        layer.cachedDistances[i * (layer.cellInflationRadius + 2) + j]? =
          some (hypot i j)) :
    TablesFit falloff { layer with
      cachedCosts := fill layer.cachedCosts (layer.cellInflationRadius + 2)
        fun i j => layer.computeCost falloff (layer.cachedDistances.getD
          (i * (layer.cellInflationRadius + 2) + j) 0)
      distanceMatrix := (generateIntegerDistances layer.cellInflationRadius).1
      inflationCells := Array.replicate
        ((generateIntegerDistances layer.cellInflationRadius).2 + 1) #[] } where
  cached := by
    refine .inr ?_
    dsimp only
    rw [same, size_fill]
    exact ⟨size, costs, distances⟩
  ready := by
    refine .inr ?_
    refine {
      cacheLength := length
      cachedDistances := distances
      cachedCosts := ?_
      distanceMatrix := rfl
      inflationCells := Array.size_replicate
    }
    intro i iInside j jInside
    refine (fill_getElem? _ costs iInside jInside).trans ?_
    rw [Array.getD_eq_getD_getElem?, distances i iInside j jInside]
    rfl
  empty := binsEmpty_replicate _

omit [FloorRing K] in
theorem computeCaches_fit
    (cached : CachedFit layer)
    (empty : BinsEmpty layer.inflationCells) :
    TablesFit falloff (computeCaches falloff layer) := by
  rw [computeCaches]
  by_cases isZero : layer.cellInflationRadius = 0
  · rw [if_pos isZero]
    exact ⟨cached, .inl isZero, empty⟩
  · rw [if_neg isZero]
    dsimp only
    by_cases same :
        layer.cellInflationRadius = layer.cachedCellInflationRadius
    · rw [if_neg (not_not_intro same)]
      obtain ⟨size, costs, distances⟩ :=
        cached.resolve_left (same ▸ isZero)
      rw [← same] at size costs distances
      exact @filled_fit _ _ _ falloff
        { layer with cacheLength := layer.cellInflationRadius + 2 } rfl
        same.symm costs size distances
    · rw [if_pos same]
      obtain ⟨size, distances⟩ := cachedDistances_fit layer.cachedDistances
        (layer.cellInflationRadius + 2)
      exact @filled_fit _ _ _ falloff
        { layer with
          cacheLength := layer.cellInflationRadius + 2
          cachedCosts := resize layer.cachedCosts
            ((layer.cellInflationRadius + 2) *
              (layer.cellInflationRadius + 2)) 0
          cachedDistances := fill (resize layer.cachedDistances
            ((layer.cellInflationRadius + 2) *
              (layer.cellInflationRadius + 2)) 0)
            (layer.cellInflationRadius + 2) hypot
          cachedCellInflationRadius := layer.cellInflationRadius } rfl rfl
        (size_resize _ _ _) size distances

/-- The size of the costmap and the parameters do not matter. -/
theorem TablesFit.matchSize
    (cached : CachedFit layer)
    (empty : BinsEmpty layer.inflationCells)
    (grid : Grid K) :
    TablesFit falloff (matchSize falloff grid layer) := by
  have fit : TablesFit falloff (computeCaches falloff { layer with
      resolution := grid.resolution
      cellInflationRadius := cellDistance grid layer.inflationRadius }) :=
    computeCaches_fit cached empty
  exact ⟨fit.cached, fit.ready.imp id fun ready =>
    ⟨ready.cacheLength, ready.cachedDistances, ready.cachedCosts,
      ready.distanceMatrix, ready.inflationCells⟩, fit.empty⟩

theorem onInitialize_fit
    (name : String)
    (grid : Grid K)
    (enabled : Bool)
    (inflationRadius costScalingFactor : K)
    (inflateUnknown inflateAroundUnknown : Bool) :
    TablesFit falloff (onInitialize falloff grid enabled inflationRadius
      costScalingFactor inflateUnknown inflateAroundUnknown (new name)) := by
  apply TablesFit.matchSize
  · exact .inl rfl
  · intro level cells found
    cases found

theorem TablesFit.onFootprintChanged
    (fit : TablesFit falloff layer)
    (grid : Grid K)
    (inscribedRadius : K) :
    TablesFit falloff
      (onFootprintChanged falloff grid inscribedRadius layer) := by
  have computed : TablesFit falloff (computeCaches falloff { layer with
      inscribedRadius := inscribedRadius
      cellInflationRadius := cellDistance grid layer.inflationRadius }) :=
    computeCaches_fit fit.cached fit.empty
  exact ⟨computed.cached, computed.ready.imp id fun ready =>
    ⟨ready.cacheLength, ready.cachedDistances, ready.cachedCosts,
      ready.distanceMatrix, ready.inflationCells⟩, computed.empty⟩

theorem TablesFit.reset
    (fit : TablesFit falloff layer)
    (grid : Grid K) :
    TablesFit falloff (reset falloff grid layer) := by
  have matched := @TablesFit.matchSize K _ _ _ falloff layer fit.cached
    fit.empty grid
  exact ⟨matched.cached, matched.ready.imp id fun ready =>
    ⟨ready.cacheLength, ready.cachedDistances, ready.cachedCosts,
      ready.distanceMatrix, ready.inflationCells⟩, matched.empty⟩

/-- What holds while parameters are taken over: the tables fit, or they are
computed again in the end. -/
structure ParametersFit
    (falloff : K → K → K → Nat → UInt8)
    (state : InflationLayer K × Bool) : Prop where
  cached : CachedFit state.1
  ready : state.2 = true ∨ state.1.cellInflationRadius = 0 ∨
    Ready falloff state.1
  empty : BinsEmpty state.1.inflationCells

omit [FloorRing K] in
theorem ParametersFit.setParameter
    {state : InflationLayer K × Bool}
    (fit : ParametersFit falloff state)
    (parameter : String × ParameterValue K) :
    ParametersFit falloff (setParameter state parameter) := by
  have kept (enabled inflateUnknown inflateAroundUnknown needReinflation
        current : Bool) :
      ParametersFit falloff ({ state.1 with
        enabled := enabled
        inflateUnknown := inflateUnknown
        inflateAroundUnknown := inflateAroundUnknown
        needReinflation := needReinflation
        current := current }, state.2) :=
    ⟨fit.cached, fit.ready.imp id fun rest => rest.imp id fun ready =>
      ⟨ready.cacheLength, ready.cachedDistances, ready.cachedCosts,
        ready.distanceMatrix, ready.inflationCells⟩, fit.empty⟩
  obtain ⟨name, value⟩ := parameter
  rw [InflationLayer.setParameter]
  cases value with
  | double value =>
      dsimp only
      split
      · exact ⟨fit.cached, .inl rfl, fit.empty⟩
      · split
        · exact ⟨fit.cached, .inl rfl, fit.empty⟩
        · exact fit
  | bool value =>
      dsimp only
      split
      · exact kept value _ _ true false
      · split
        · exact kept _ value _ true _
        · split
          · exact kept _ _ value true _
          · exact fit
  | other => exact fit

theorem TablesFit.dynamicParametersCallback
    (fit : TablesFit falloff layer)
    (grid : Grid K)
    (parameters : List (String × ParameterValue K)) :
    TablesFit falloff
      (dynamicParametersCallback falloff grid parameters layer) := by
  have folded : ParametersFit falloff
      (parameters.foldl setParameter (layer, false)) := by
    have start : ParametersFit falloff (layer, false) :=
      ⟨fit.cached, .inr fit.ready, fit.empty⟩
    generalize (layer, false) = state at start
    induction parameters generalizing state with
    | nil => exact start
    | cons parameter rest inductionHypothesis =>
        exact inductionHypothesis _ (start.setParameter parameter)
  show TablesFit falloff
    (if (parameters.foldl InflationLayer.setParameter (layer, false)).2 then
      InflationLayer.matchSize falloff grid
        (parameters.foldl InflationLayer.setParameter (layer, false)).1
    else (parameters.foldl InflationLayer.setParameter (layer, false)).1)
  split
  · exact TablesFit.matchSize folded.cached folded.empty grid
  · case isFalse notNeeded =>
    exact ⟨folded.cached, folded.ready.resolve_left notNeeded, folded.empty⟩

end Ready

end InflationLayer

end NavBim
