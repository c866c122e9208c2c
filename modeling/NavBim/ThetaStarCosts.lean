import NavBim.ParentForest
import NavBim.ThetaStarStore

namespace NavBim.ThetaStar

/-!
# Costs of Theta*

Every cost of a search is a sum of prices of cells and distances of cells, of
which there are finitely many.  With nonnegative weights such sums do not fall
forever, although they may be as close to each other as they like.
-/

section Sums

variable {K : Type} [Field K] [SquareRoot K] (request : Request K)

/-- What the costs of a search are made of. -/
def Request.summands : Set K :=
  {cost | ∃ level : UInt8, cost = request.price (Request.scaledCost level)} ∪
    {request.price (occupiedCost - 1 : Nat)} ∪
    {cost | ∃ first second : CoordsM, first.Inside request.costmap ∧
      second.Inside request.costmap ∧
        cost = request.getEuclideanCost first.x first.y second.x second.y} ∪
    {cost | ∃ cell : CoordsM, cell.Inside request.costmap ∧
      cost = request.getHCost cell.x cell.y}

/-- The costs that a search can have. -/
def Request.sums : AddSubmonoid K :=
  AddSubmonoid.closure request.summands

omit [Field K] [SquareRoot K] in
theorem finite_inside
    (map : Costmap2D K) :
    {cell : CoordsM | cell.Inside map}.Finite := by
  apply Set.Finite.subset (Set.toFinite (Set.range
    fun cell : Fin map.sizeX × Fin map.sizeY =>
      (⟨cell.1.val, cell.2.val⟩ : CoordsM)))
  rintro ⟨x, y⟩ ⟨left, right, below, above⟩
  refine ⟨(⟨x.toNat, ?_⟩, ⟨y.toNat, ?_⟩), ?_⟩
  · change 0 ≤ x at left
    change x < _ at right
    omega
  · change 0 ≤ y at below
    change y < _ at above
    omega
  · rw [CoordsM.mk.injEq]
    exact ⟨Int.toNat_of_nonneg left, Int.toNat_of_nonneg below⟩

theorem Request.finite_summands :
    request.summands.Finite := by
  have cells := finite_inside request.costmap
  refine (((?_ : Set.Finite _).union (Set.finite_singleton _)).union ?_).union
    ?_
  · apply (Set.finite_range fun level : UInt8 =>
      request.price (Request.scaledCost level)).subset
    rintro cost ⟨level, rfl⟩
    exact ⟨level, rfl⟩
  · apply ((cells.prod cells).image fun pair : CoordsM × CoordsM =>
      request.getEuclideanCost pair.1.x pair.1.y pair.2.x pair.2.y).subset
    rintro cost ⟨first, second, isFirst, isSecond, rfl⟩
    exact ⟨(first, second), ⟨isFirst, isSecond⟩, rfl⟩
  · apply (cells.image fun cell : CoordsM =>
      request.getHCost cell.x cell.y).subset
    rintro cost ⟨cell, inside, rfl⟩
    exact ⟨cell, inside, rfl⟩

variable {request}

theorem price_level_mem (level : UInt8) :
    request.price (Request.scaledCost level) ∈ request.sums :=
  AddSubmonoid.subset_closure (.inl (.inl (.inl ⟨level, rfl⟩)))

theorem price_unknown_mem :
    request.price (occupiedCost - 1 : Nat) ∈ request.sums :=
  AddSubmonoid.subset_closure (.inl (.inl (.inr rfl)))

theorem getTraversalCost_mem (cx cy : ℤ) :
    request.getTraversalCost cx cy ∈ request.sums :=
  price_level_mem _

theorem getEuclideanCost_mem
    {first second : CoordsM}
    (isFirst : first.Inside request.costmap)
    (isSecond : second.Inside request.costmap) :
    request.getEuclideanCost first.x first.y second.x second.y ∈
      request.sums :=
  AddSubmonoid.subset_closure
    (.inl (.inr ⟨first, second, isFirst, isSecond, rfl⟩))

theorem getHCost_mem
    {cell : CoordsM}
    (inside : cell.Inside request.costmap) :
    request.getHCost cell.x cell.y ∈ request.sums :=
  AddSubmonoid.subset_closure (.inr ⟨cell, inside, rfl⟩)

end Sums

/-! ## The cost of a line -/

section Line

variable {K : Type} [Field K] [SquareRoot K] {request : Request K}
  {add : ℤ → ℤ → K → Option K} {line : Request.Line}
  {point next : Request.LinePoint K}

/-- Adding the price of a cell keeps sums. -/
def AddsSums
    (request : Request K)
    (add : ℤ → ℤ → K → Option K) : Prop :=
  ∀ cx cy slCost added, slCost ∈ request.sums →
    add cx cy slCost = some added → added ∈ request.sums

section

variable
  (adds : AddsSums request add)
  (isSum : point.slCost ∈ request.sums)

include adds isSum

theorem crossMinor_mem
    (isNext : Request.crossMinor add line point = some next) :
    next.slCost ∈ request.sums := by
  simp only [Request.crossMinor] at isNext
  split at isNext
  · obtain ⟨cost, isCost, rfl⟩ := Option.map_eq_some_iff.mp isNext
    exact adds _ _ _ _ isSum isCost
  · cases isNext
    exact isSum

theorem passCell_mem
    (isNext : Request.passCell add line point = some next) :
    next.slCost ∈ request.sums := by
  rw [Request.passCell] at isNext
  split at isNext
  · obtain ⟨cost, isCost, rfl⟩ := Option.map_eq_some_iff.mp isNext
    exact adds _ _ _ _ isSum isCost
  · cases isNext
    exact isSum

theorem passBeside_mem
    (isNext : Request.passBeside add line point = some next) :
    next.slCost ∈ request.sums := by
  simp only [Request.passBeside] at isNext
  split at isNext
  · obtain ⟨cost, isCost, rfl⟩ := Option.map_eq_some_iff.mp isNext
    rcases Option.or_eq_some_iff.mp isCost with first | ⟨-, second⟩
    · exact adds _ _ _ _ isSum first
    · exact adds _ _ _ _ isSum second
  · cases isNext
    exact isSum

theorem lineStep_mem
    (isNext : Request.lineStep add line point = some next) :
    next.slCost ∈ request.sums := by
  obtain ⟨crossed, isCrossed, later⟩ := Option.bind_eq_some_iff.mp isNext
  obtain ⟨passed, isPassed, last⟩ := Option.bind_eq_some_iff.mp later
  obtain ⟨beside, isBeside, rfl⟩ := Option.map_eq_some_iff.mp last
  have crossedSum := crossMinor_mem adds isSum isCrossed
  have passedSum := passCell_mem adds crossedSum isPassed
  have besideSum := passBeside_mem adds passedSum isBeside
  exact besideSum

end

theorem walkLine_mem
    (adds : AddsSums request add) :
    ∀ {steps : Nat} {point : Request.LinePoint K} {cost : K},
      point.slCost ∈ request.sums →
      Request.walkLine add line steps point = some cost →
      cost ∈ request.sums := by
  intro steps
  induction steps with
  | zero =>
      intro point cost isSum isCost
      cases isCost
      exact isSum
  | succ steps inductionHypothesis =>
      intro point cost isSum isCost
      obtain ⟨next, isNext, later⟩ := Option.bind_eq_some_iff.mp isCost
      exact inductionHypothesis (lineStep_mem adds isSum isNext) later

variable [LinearOrder K]

theorem addCellPrice_mem
    {cx cy : ℤ}
    {slCost added : K}
    (isSum : slCost ∈ request.sums)
    (isAdded : request.addCellPrice cx cy slCost = some added) :
    added ∈ request.sums := by
  simp only [Request.addCellPrice] at isAdded
  split at isAdded
  · cases isAdded
    apply request.sums.add_mem isSum
    split
    · exact price_unknown_mem
    · exact price_level_mem _
  · cases isAdded

theorem losCheck_mem
    {x0 y0 x1 y1 : ℤ}
    {cost : K}
    (inSight : request.losCheck x0 y0 x1 y1 = some cost) :
    cost ∈ request.sums := by
  simp only [Request.losCheck] at inSight
  have alongX : AddsSums request request.addCellPrice :=
    fun _ _ _ _ => addCellPrice_mem
  have alongY : AddsSums request fun cy cx => request.addCellPrice cx cy :=
    fun _ _ _ _ => addCellPrice_mem
  split at inSight
  · exact walkLine_mem alongX request.sums.zero_mem inSight
  · exact walkLine_mem alongY request.sums.zero_mem inSight

end Line

/-! ## Sums do not fall forever -/

/-- The weights are not negative, and no square root is. -/
structure Request.Nonnegative
    {K : Type}
    [Field K]
    [SquareRoot K]
    [LinearOrder K]
    (request : Request K) : Prop where
  traversal : 0 ≤ request.wTraversalCost
  euclidean : 0 ≤ request.wEucCost
  heuristic : 0 ≤ request.wHeuristicCost
  root : ∀ x : K, 0 ≤ SquareRoot.sqrt x

section Nonnegative

variable {K : Type} [Field K] [SquareRoot K] [LinearOrder K]
  [IsStrictOrderedRing K] {request : Request K}

section

variable
  (nonnegative : request.Nonnegative)

include nonnegative

theorem Request.Nonnegative.price
    (cost : K) :
    0 ≤ request.price cost := by
  have square : 0 ≤ request.wTraversalCost * (cost * cost) :=
    mul_nonneg nonnegative.traversal (mul_self_nonneg cost)
  rw [Request.price, mul_assoc]
  exact div_nonneg (div_nonneg square (Nat.cast_nonneg _)) (Nat.cast_nonneg _)

theorem Request.Nonnegative.summand
    {cost : K}
    (isSummand : cost ∈ request.summands) :
    0 ≤ cost := by
  rcases isSummand with ((⟨level, rfl⟩ | isUnknown) |
    ⟨first, second, -, -, rfl⟩) | ⟨cell, -, rfl⟩
  · exact nonnegative.price _
  · rw [Set.mem_singleton_iff.mp isUnknown]
    exact nonnegative.price _
  · exact mul_nonneg nonnegative.euclidean (nonnegative.root _)
  · exact mul_nonneg nonnegative.heuristic (nonnegative.root _)

theorem Request.Nonnegative.sum
    {cost : K}
    (isSum : cost ∈ request.sums) :
    0 ≤ cost := by
  have le : request.sums ≤ AddSubmonoid.nonneg K := by
    rw [Request.sums, AddSubmonoid.closure_le]
    intro summand isSummand
    exact nonnegative.summand isSummand
  exact le isSum

theorem Request.Nonnegative.wellFounded :
    WellFoundedLT request.sums := by
  have ordered : (request.sums : Set K).IsPWO :=
    Set.IsPWO.addSubmonoid_closure (fun _ => nonnegative.summand)
      request.finite_summands.isPWO
  exact ⟨ordered.isWF⟩

end

end Nonnegative

end NavBim.ThetaStar
