import NavBim.CheckedRuns
import NavBim.Costmap2D
import NavBim.GridWave
import NavBim.SortedRanks

namespace NavBim

/-!
# The inflation layer

Costs are spread from the obstacles of a costmap in a wave.  The cells to visit
are kept in bins, one for each distance that cells around an obstacle can have,
and each keeps the obstacle it was reached from.

Tables of distances, costs and bins are computed once for an inflation radius.
Reading beside a table has no meaning, so it ends the update here.  Distances
are given by their squares, which are exact.
-/

/-- The tables that are read without a check. -/
inductive OutOfBounds where
  | costmap
  | seen
  | cachedDistances
  | cachedCosts
  | distanceMatrix
  | inflationCells
  deriving Repr, DecidableEq

/-- A cell to visit and the obstacle it was reached from. -/
structure CellData where
  x : Nat
  y : Nat
  srcX : Nat
  srcY : Nat
  deriving Repr, DecidableEq

structure InflationLayer (K : Type) where
  name : String
  enabled : Bool
  inflationRadius : K
  inscribedRadius : K
  costScalingFactor : K
  inflateUnknown : Bool
  inflateAroundUnknown : Bool
  cellInflationRadius : Nat
  cachedCellInflationRadius : Nat
  inflationCells : Array (Array CellData)
  resolution : K
  seen : Array Bool
  cachedDistances : Array Nat
  cachedCosts : Array UInt8
  distanceMatrix : Array (Array Nat)
  cacheLength : Nat
  needReinflation : Bool
  current : Bool

/-- The value of a parameter. -/
inductive ParameterValue (K : Type) where
  | double (value : K)
  | bool (value : Bool)
  | other

/-- The cells whose costs may change. -/
structure Window where
  minI : ℤ
  minJ : ℤ
  maxI : ℤ
  maxJ : ℤ

/-- A cell is in a window. -/
def Window.Contains
    (window : Window)
    (x y : Nat) : Prop :=
  window.minI ≤ x ∧ window.minJ ≤ y ∧ x < window.maxI ∧ y < window.maxJ

instance
    (window : Window)
    (x y : Nat) : Decidable (window.Contains x y) :=
  inferInstanceAs (Decidable (_ ∧ _))

/-- The state of an update.  The last three fields only record what happened:
the cells that were visited, the positions that got a cost, and the bin in work
with the bin of each cell that was added. -/
structure InflationState (K : Type) where
  costmap : Costmap2D K
  seen : Array Bool
  inflationCells : Array (Array CellData)
  settled : List CellData
  assigned : List Nat
  enqueued : List (Nat × Nat)

namespace CellData

def cell
    (data : CellData) : GridCell :=
  (data.x, data.y)

def source
    (data : CellData) : GridCell :=
  (data.srcX, data.srcY)

def toEntry
    (data : CellData) : WaveEntry where
  cell := data.cell
  source := data.source

end CellData

namespace InflationLayer

section Tables

variable
  {α : Type}
  (table : Array α)

/-- A place of a table. -/
def lookup
    (index : Nat)
    (failure : OutOfBounds) : Except OutOfBounds α :=
  match table[index]? with
  | some value => .ok value
  | none => .error failure

/-- The square of the Euclidean length. -/
def hypot
    (dx dy : Nat) : Nat :=
  dx ^ 2 + dy ^ 2

def resize
    (size : Nat)
    (value : α) : Array α :=
  .ofFn fun index : Fin size => table.getD index value

/-- Write the places of a square table, row by row. -/
def fill
    (length : Nat)
    (value : Nat → Nat → α) : Array α :=
  table.mapIdx fun index old =>
    if index < length * length then
      value (index / length) (index % length)
    else
      old

/-- The offsets within a distance of `r`. -/
def discPoints
    (r : Nat) : List (ℤ × ℤ) :=
  (List.range (r * 2 + 1)).flatMap fun (j : Nat) =>
    (List.range (r * 2 + 1)).filterMap fun (i : Nat) =>
      let x := (i : ℤ) - r
      let y := (j : ℤ) - r
      if x * x + y * y ≤ r * r then some (x, y) else none

/-- The square of an offset's length. -/
def squaredNorm
    (point : ℤ × ℤ) : Nat :=
  (point.1 * point.1 + point.2 * point.2).toNat

/-- The place of an offset in a matrix with negative indices. -/
def matrixEntry
    (r : Nat)
    (matrix : Array (Array Nat))
    (point : ℤ × ℤ) : Option Nat :=
  if point.1 + r < 0 ∨ point.2 + r < 0 then
    none
  else
    matrix[(point.1 + r).toNat]?.bind fun column =>
      column[(point.2 + r).toNat]?

def setMatrixEntry
    (r : Nat)
    (matrix : Array (Array Nat))
    (point : ℤ × ℤ)
    (level : Nat) : Array (Array Nat) :=
  matrix.modify (point.1 + r).toNat fun column =>
    column.setIfInBounds (point.2 + r).toNat level

/-- Number the distances around a cell, beyond the radius by two cells, and give
the greatest number. -/
def generateIntegerDistances
    (cellInflationRadius : Nat) : Array (Array Nat) × Nat :=
  let r := cellInflationRadius + 2
  let size := r * 2 + 1
  let points := (discPoints r).insertionSort fun first second =>
    squaredNorm first ≤ squaredNorm second
  let ranking := points.foldl (rankItem squaredNorm (setMatrixEntry r)) {
    table := Array.replicate size (Array.replicate size 0)
    last := (0, 0)
    level := 0
  }
  (ranking.table, ranking.level)

end Tables

section Model

variable
  {K : Type}
  [Field K] [LinearOrder K] [FloorRing K]
  (falloff : (costScalingFactor resolution inscribedRadius : K) → Nat → UInt8)

/-- The cost of a cell at a distance.  Beyond the inscribed radius it falls off
with the exponential of the distance. -/
def computeCost
    (layer : InflationLayer K)
    (distance : Nat) : UInt8 :=
  if distance = 0 then
    lethalObstacle
  else if 0 ≤ layer.inscribedRadius ∧
      distance * layer.resolution ^ 2 ≤ layer.inscribedRadius ^ 2 then
    inscribedInflatedObstacle
  else
    falloff layer.costScalingFactor layer.resolution layer.inscribedRadius
      distance

variable
  (grid : Grid K)

/-- A distance in cells, rounded up. -/
def cellDistance
    (worldDist : K) : Nat :=
  ⌈worldDist / grid.resolution⌉.toNat

/-- Compute the tables for a radius.  Distances are kept while the radius is the
same. -/
def computeCaches
    (layer : InflationLayer K) : InflationLayer K :=
  if layer.cellInflationRadius = 0 then
    layer
  else
    let length := layer.cellInflationRadius + 2
    let layer := { layer with cacheLength := length }
    let layer :=
      if layer.cellInflationRadius ≠ layer.cachedCellInflationRadius then
        { layer with
          cachedCosts := resize layer.cachedCosts (length * length) 0
          cachedDistances :=
            fill (resize layer.cachedDistances (length * length) 0) length hypot
          cachedCellInflationRadius := layer.cellInflationRadius }
      else
        layer
    let layer := { layer with
      cachedCosts := fill layer.cachedCosts length fun i j =>
        layer.computeCost falloff
          (layer.cachedDistances.getD (i * length + j) 0) }
    let distances := generateIntegerDistances layer.cellInflationRadius
    { layer with
      distanceMatrix := distances.1
      inflationCells := Array.replicate (distances.2 + 1) #[] }

def matchSize
    (layer : InflationLayer K) : InflationLayer K :=
  let layer := computeCaches falloff { layer with
    resolution := grid.resolution
    cellInflationRadius := cellDistance grid layer.inflationRadius }
  { layer with seen := Array.replicate (grid.sizeX * grid.sizeY) false }

/-- A layer before it is initialized. -/
def new
    (name : String) : InflationLayer K where
  name := name
  enabled := false
  inflationRadius := 0
  inscribedRadius := 0
  costScalingFactor := 0
  inflateUnknown := false
  inflateAroundUnknown := false
  cellInflationRadius := 0
  cachedCellInflationRadius := 0
  inflationCells := #[]
  resolution := 0
  seen := #[]
  cachedDistances := #[]
  cachedCosts := #[]
  distanceMatrix := #[]
  cacheLength := 0
  needReinflation := false
  current := false

/-- Start with the values of the parameters. -/
def onInitialize
    (enabled : Bool)
    (inflationRadius costScalingFactor : K)
    (inflateUnknown inflateAroundUnknown : Bool)
    (layer : InflationLayer K) : InflationLayer K :=
  matchSize falloff grid { layer with
    enabled := enabled
    inflationRadius := inflationRadius
    costScalingFactor := costScalingFactor
    inflateUnknown := inflateUnknown
    inflateAroundUnknown := inflateAroundUnknown
    current := true
    seen := #[]
    cachedDistances := #[]
    cachedCosts := #[]
    needReinflation := false
    cellInflationRadius := cellDistance grid inflationRadius }

def onFootprintChanged
    (inscribedRadius : K)
    (layer : InflationLayer K) : InflationLayer K :=
  let layer := computeCaches falloff { layer with
    inscribedRadius := inscribedRadius
    cellInflationRadius := cellDistance grid layer.inflationRadius }
  { layer with needReinflation := true }

def reset
    (layer : InflationLayer K) : InflationLayer K :=
  { matchSize falloff grid layer with current := false, needReinflation := true }

/-- Take over one parameter, and tell whether the tables have to be computed
again. -/
def setParameter
    (state : InflationLayer K × Bool)
    (parameter : String × ParameterValue K) : InflationLayer K × Bool :=
  let (layer, needCacheRecompute) := state
  match parameter.2 with
  | .double value =>
      if parameter.1 = layer.name ++ "." ++ "inflation_radius" ∧
          layer.inflationRadius ≠ value then
        ({ layer with inflationRadius := value, needReinflation := true }, true)
      else if parameter.1 = layer.name ++ "." ++ "cost_scaling_factor" ∧
          layer.costScalingFactor ≠ value then
        ({ layer with costScalingFactor := value, needReinflation := true },
          true)
      else
        (layer, needCacheRecompute)
  | .bool value =>
      if parameter.1 = layer.name ++ "." ++ "enabled" ∧
          layer.enabled ≠ value then
        ({ layer with
          enabled := value
          needReinflation := true
          current := false }, needCacheRecompute)
      else if parameter.1 = layer.name ++ "." ++ "inflate_unknown" ∧
          layer.inflateUnknown ≠ value then
        ({ layer with inflateUnknown := value, needReinflation := true },
          needCacheRecompute)
      else if parameter.1 = layer.name ++ "." ++ "inflate_around_unknown" ∧
          layer.inflateAroundUnknown ≠ value then
        ({ layer with inflateAroundUnknown := value, needReinflation := true },
          needCacheRecompute)
      else
        (layer, needCacheRecompute)
  | .other => (layer, needCacheRecompute)

def dynamicParametersCallback
    (parameters : List (String × ParameterValue K))
    (layer : InflationLayer K) : InflationLayer K :=
  let (layer, needCacheRecompute) := parameters.foldl setParameter (layer, false)
  if needCacheRecompute then matchSize falloff grid layer else layer

end Model

section Wave

variable {K : Type}

/-- The distance between two coordinates. -/
def coordinateDistance
    (m src : Nat) : Nat :=
  if src < m then m - src else src - m

variable
  (layer : InflationLayer K)

def distanceLookup
    (mx my srcX srcY : Nat) : Except OutOfBounds Nat :=
  lookup layer.cachedDistances
    (coordinateDistance mx srcX * layer.cacheLength +
      coordinateDistance my srcY) .cachedDistances

def costLookup
    (mx my srcX srcY : Nat) : Except OutOfBounds UInt8 :=
  lookup layer.cachedCosts
    (coordinateDistance mx srcX * layer.cacheLength +
      coordinateDistance my srcY) .cachedCosts

/-- Add a cell to the bin of its distance, unless it was seen or is too far from
the source. -/
def enqueue
    (level index mx my srcX srcY : Nat)
    (state : InflationState K) : Except OutOfBounds (InflationState K) := do
  if !(← lookup state.seen index .seen) then
    let distance ← layer.distanceLookup mx my srcX srcY
    if layer.cellInflationRadius ^ 2 < distance then
      return state
    else
      let r := layer.cellInflationRadius + 2
      match matrixEntry r layer.distanceMatrix
          ((mx : ℤ) - srcX, (my : ℤ) - srcY) with
      | none => .error .distanceMatrix
      | some dist =>
          if dist < state.inflationCells.size then
            return { state with
              inflationCells := state.inflationCells.modify dist
                (·.push { x := mx, y := my, srcX := srcX, srcY := srcY })
              enqueued := (level, dist) :: state.enqueued }
          else
            .error .inflationCells
  else
    return state

/-- The new cost of a cell. -/
def assignedCost
    (oldCost cost : UInt8) : UInt8 :=
  if oldCost = noInformation ∧
      (if layer.inflateUnknown then freeSpace < cost
        else inscribedInflatedObstacle ≤ cost) then
    cost
  else
    max oldCost cost

variable
  (window : Window)

/-- Assign the cost of a cell in the window. -/
def assignCost
    (cell : CellData)
    (state : InflationState K) : Except OutOfBounds (InflationState K) := do
  let index := state.costmap.getIndex cell.x cell.y
  let cost ← layer.costLookup cell.x cell.y cell.srcX cell.srcY
  let oldCost ← lookup state.costmap.costmap index .costmap
  if window.Contains cell.x cell.y then
    return { state with
      costmap := state.costmap.setCost cell.x cell.y
        (layer.assignedCost oldCost cost)
      assigned := index :: state.assigned }
  else
    return state

/-- Add a cell if it is on the map. -/
def enqueueIf
    (onMap : Bool)
    (level index mx my srcX srcY : Nat)
    (state : InflationState K) : Except OutOfBounds (InflationState K) :=
  if onMap then
    layer.enqueue level index mx my srcX srcY state
  else
    .ok state

/-- Add the cells beside a cell. -/
def enqueueNeighbours
    (level : Nat)
    (cell : CellData)
    (state : InflationState K) : Except OutOfBounds (InflationState K) := do
  let sizeX := state.costmap.sizeX
  let sizeY := state.costmap.sizeY
  let index := state.costmap.getIndex cell.x cell.y
  let state ← layer.enqueueIf (0 < cell.x) level (index - 1) (cell.x - 1) cell.y
    cell.srcX cell.srcY state
  let state ← layer.enqueueIf (0 < cell.y) level (index - sizeX) cell.x
    (cell.y - 1) cell.srcX cell.srcY state
  let state ← layer.enqueueIf (cell.x < sizeX - 1) level (index + 1)
    (cell.x + 1) cell.y cell.srcX cell.srcY state
  layer.enqueueIf (cell.y < sizeY - 1) level (index + sizeX) cell.x (cell.y + 1)
    cell.srcX cell.srcY state

/-- Visit a cell of a bin, if it was not visited before. -/
def visitCell
    (level : Nat)
    (cell : CellData)
    (state : InflationState K) : Except OutOfBounds (InflationState K) := do
  let index := state.costmap.getIndex cell.x cell.y
  if ← lookup state.seen index .seen then
    return state
  else
    let state ← layer.assignCost window cell { state with
      seen := state.seen.setIfInBounds index true
      settled := cell :: state.settled }
    layer.enqueueNeighbours level cell state

/-- The cells of a bin. -/
def bin
    (state : InflationState K)
    (level : Nat) : Array CellData :=
  state.inflationCells.getD level #[]

/-- A state with one more cell in a bin. -/
def pushed
    (state : InflationState K)
    (level dist : Nat)
    (cell : CellData) : InflationState K :=
  { state with
    inflationCells := state.inflationCells.modify dist (·.push cell)
    enqueued := (level, dist) :: state.enqueued }

variable
  {level index mx my srcX srcY : Nat}
  {state next : InflationState K}

/-- All that adding a cell can do. -/
theorem enqueue_cases
    {layer : InflationLayer K}
    (succeeds :
      layer.enqueue level index mx my srcX srcY state = .ok next) :
    next = state ∨
      ∃ dist, dist < state.inflationCells.size ∧
        next = pushed state level dist
          { x := mx, y := my, srcX := srcX, srcY := srcY } := by
  rw [enqueue] at succeeds
  cases seen : lookup state.seen index .seen with
  | error error =>
      rw [seen] at succeeds
      cases succeeds
  | ok isSeen =>
      rw [seen, ok_bind] at succeeds
      split at succeeds
      · cases near : layer.distanceLookup mx my srcX srcY with
        | error error =>
            rw [near] at succeeds
            cases succeeds
        | ok distance =>
            rw [near, ok_bind] at succeeds
            split at succeeds
            · cases succeeds
              exact .inl rfl
            · dsimp only at succeeds
              split at succeeds
              · cases succeeds
              · split at succeeds
                · case _ dist _ inside =>
                  cases succeeds
                  exact .inr ⟨dist, inside, rfl⟩
                · cases succeeds
      · cases succeeds
        exact .inl rfl

theorem size_bin_pushed
    (state : InflationState K)
    (level dist : Nat)
    (cell : CellData)
    (other : Nat) :
    (bin (pushed state level dist cell) other).size ≤
      (bin state other).size + 1 := by
  rw [bin, bin, pushed, Array.getD_eq_getD_getElem?,
    Array.getD_eq_getD_getElem?, Array.getElem?_modify]
  split
  · cases state.inflationCells[other]? with
    | none => simp
    | some cells => simp
  · exact Nat.le_succ _

/-- Adding a cell makes a bin longer by one at most. -/
theorem enqueue_size
    {layer : InflationLayer K}
    (succeeds :
      layer.enqueue level index mx my srcX srcY state = .ok next)
    (other : Nat) :
    next.seen = state.seen ∧
      (bin next other).size ≤ (bin state other).size + 1 := by
  rcases enqueue_cases succeeds with rfl | ⟨dist, -, rfl⟩
  · exact ⟨rfl, Nat.le_succ _⟩
  · exact ⟨rfl, size_bin_pushed state level dist _ other⟩

/-- A step that is left out adds nothing. -/
theorem enqueueIf_size
    {layer : InflationLayer K}
    {onMap : Bool}
    (succeeds :
      layer.enqueueIf onMap level index mx my srcX srcY state = .ok next)
    (other : Nat) :
    next.seen = state.seen ∧
      (bin next other).size ≤ (bin state other).size + 1 := by
  rw [enqueueIf] at succeeds
  split at succeeds
  · exact enqueue_size succeeds other
  · cases succeeds
    exact ⟨rfl, Nat.le_succ _⟩

theorem bind_eq_ok
    {α β ε : Type}
    {value : Except ε α}
    {next : α → Except ε β}
    {result : β}
    (succeeds : value >>= next = .ok result) :
    ∃ middle, value = .ok middle ∧ next middle = .ok result := by
  cases value with
  | error error => cases succeeds
  | ok middle => exact ⟨middle, rfl, succeeds⟩

theorem enqueueNeighbours_size
    {layer : InflationLayer K}
    {level : Nat}
    {cell : CellData}
    (succeeds : layer.enqueueNeighbours level cell state = .ok next)
    (other : Nat) :
    next.seen = state.seen ∧
      (bin next other).size ≤ (bin state other).size + 4 := by
  rw [enqueueNeighbours] at succeeds
  obtain ⟨first, isFirst, succeeds⟩ := bind_eq_ok succeeds
  obtain ⟨second, isSecond, succeeds⟩ := bind_eq_ok succeeds
  obtain ⟨third, isThird, isNext⟩ := bind_eq_ok succeeds
  obtain ⟨firstSeen, firstSize⟩ := enqueueIf_size isFirst other
  obtain ⟨secondSeen, secondSize⟩ := enqueueIf_size isSecond other
  obtain ⟨thirdSeen, thirdSize⟩ := enqueueIf_size isThird other
  obtain ⟨nextSeen, nextSize⟩ := enqueueIf_size isNext other
  exact ⟨nextSeen.trans (thirdSeen.trans (secondSeen.trans firstSeen)),
    by omega⟩

theorem assignCost_cases
    {layer : InflationLayer K}
    {window : Window}
    {cell : CellData}
    (succeeds : layer.assignCost window cell state = .ok next) :
    ∃ costmap assigned,
      next = { state with costmap := costmap, assigned := assigned } := by
  rw [assignCost] at succeeds
  obtain ⟨cost, -, succeeds⟩ := bind_eq_ok succeeds
  obtain ⟨oldCost, -, succeeds⟩ := bind_eq_ok succeeds
  split at succeeds
  · cases succeeds
    exact ⟨_, _, rfl⟩
  · cases succeeds
    exact ⟨_, _, rfl⟩

theorem count_seen_lt
    {seen : Array Bool}
    {index : Nat}
    (notSeen : seen[index]? = some false) :
    (seen.setIfInBounds index true).count false < seen.count false := by
  obtain ⟨inside, isFalse⟩ := Array.getElem?_eq_some_iff.mp notSeen
  rw [Array.setIfInBounds, dif_pos inside, Array.count_set, isFalse]
  have counted : 0 < seen.count false :=
    Array.count_pos_iff.mpr (Array.mem_of_getElem? notSeen)
  simp only [beq_self_eq_true, if_true, Bool.true_beq, Bool.false_eq_true,
    if_false, Nat.add_zero]
  omega

/-- The work left in a bin.  A cell that is visited adds four at most. -/
def work
    (state : InflationState K)
    (level i : Nat) : Nat :=
  5 * state.seen.count false + ((bin state level).size - i)

theorem visitCell_work
    {layer : InflationLayer K}
    {window : Window}
    {level i : Nat}
    {cell : CellData}
    (found : (bin state level)[i]? = some cell)
    (succeeds : layer.visitCell window level cell state = .ok next) :
    work next level (i + 1) < work state level i := by
  obtain ⟨inside, -⟩ := Array.getElem?_eq_some_iff.mp found
  rw [visitCell] at succeeds
  obtain ⟨isSeen, isLookup, succeeds⟩ := bind_eq_ok succeeds
  split at succeeds
  · cases succeeds
    rw [work, work]
    omega
  · case isFalse notSeen =>
    obtain ⟨middle, isAssigned, succeeds⟩ := bind_eq_ok succeeds
    obtain ⟨costmap, assigned, rfl⟩ := assignCost_cases isAssigned
    obtain ⟨sameSeen, grown⟩ := enqueueNeighbours_size succeeds level
    have unseen : state.seen[state.costmap.getIndex cell.x cell.y]? =
        some false := by
      rw [lookup] at isLookup
      split at isLookup
      · case _ value isValue =>
        cases isLookup
        rw [isValue, Bool.eq_false_of_not_eq_true notSeen]
      · cases isLookup
    have fewer := count_seen_lt unseen
    rw [work, work, sameSeen]
    dsimp only [bin] at grown inside ⊢
    omega

/-- Visit the cells of a bin, including those that are added to it meanwhile. -/
def processBin
    (level i : Nat)
    (state : InflationState K) : Except OutOfBounds (InflationState K) :=
  match _ : (bin state level)[i]? with
  | none => .ok state
  | some cell =>
      match _ : layer.visitCell window level cell state with
      | .error error => .error error
      | .ok next => processBin level (i + 1) next
termination_by work state level i
decreasing_by exact visitCell_work ‹_› ‹_›

/-- Visit a bin and free its memory. -/
def processLevel
    (state : InflationState K)
    (level : Nat) : Except OutOfBounds (InflationState K) := do
  let state ← layer.processBin window level 0 state
  return { state with
    inflationCells := state.inflationCells.setIfInBounds level #[] }

variable
  (costmap : Costmap2D K)

/-- The window and the cells around it, as far as the costmap goes. -/
def expand
    (window : Window) : Window where
  minI := max 0 (window.minI - layer.cellInflationRadius)
  minJ := max 0 (window.minJ - layer.cellInflationRadius)
  maxI := min costmap.sizeX (window.maxI + layer.cellInflationRadius)
  maxJ := min costmap.sizeY (window.maxJ + layer.cellInflationRadius)

/-- Add a cell to the first bin if it is an obstacle. -/
def seedCell
    (j : Nat)
    (obsBin : Array CellData)
    (i : Nat) : Except OutOfBounds (Array CellData) := do
  let cost ← lookup costmap.costmap (costmap.getIndex i j) .costmap
  if cost = lethalObstacle ∨
      (layer.inflateAroundUnknown ∧ cost = noInformation) then
    return obsBin.push { x := i, y := j, srcX := i, srcY := j }
  else
    return obsBin

/-- The first bin, with the obstacles of a window. -/
def seedCells
    (window : Window)
    (obsBin : Array CellData) : Except OutOfBounds (Array CellData) :=
  (List.range' window.minJ.toNat (window.maxJ - window.minJ).toNat).foldlM
    (fun obsBin j =>
      (List.range' window.minI.toNat (window.maxI - window.minI).toNat).foldlM
        (layer.seedCell costmap j) obsBin) obsBin

/-- The places of the costmap that were seen, none of them yet. -/
def clearedSeen
    (seen : Array Bool) : Array Bool :=
  let seen :=
    if seen.size ≠ costmap.sizeX * costmap.sizeY then
      Array.replicate (costmap.sizeX * costmap.sizeY) false
    else
      seen
  seen.map fun _ => false

/-- The layer after an update, and what the update did. -/
def updateCosts
    (window : Window) :
    Except OutOfBounds (InflationLayer K × InflationState K) :=
  let start : InflationState K := {
    costmap := costmap
    seen := layer.seen
    inflationCells := layer.inflationCells
    settled := []
    assigned := []
    enqueued := []
  }
  if !layer.enabled || layer.cellInflationRadius = 0 then
    .ok (layer, start)
  else do
    let obsBin ← lookup layer.inflationCells 0 .inflationCells
    let obsBin ← layer.seedCells costmap (layer.expand costmap window) obsBin
    let state ← (List.range' 0 layer.inflationCells.size).foldlM
      (layer.processLevel window) { start with
        seen := clearedSeen costmap layer.seen
        inflationCells := layer.inflationCells.setIfInBounds 0 obsBin }
    return ({ layer with
      inflationCells := state.inflationCells
      seen := state.seen
      current := true }, state)

end Wave

end InflationLayer

end NavBim
