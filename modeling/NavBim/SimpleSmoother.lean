import Mathlib
import NavBim.Costmap2D
import NavBim.Numerals
import NavBim.SmootherPaths

namespace NavBim

/-!
# The simple smoother

The smoother moves the inner poses of a path, one after the other, towards
their neighbours and towards where they were planned, until a pass changes
little.  A pose whose new position is in collision goes back, at least in the
plane.  The smoothed path is then smoothed again a number of times.

Each pass records its updates, which the code does not.  When time runs out is
a parameter: it is asked for once in each pass.
-/

open SmootherUtils

attribute [local instance] atLeastTwo_2

inductive Dim where
  | x
  | y
  | z
  deriving DecidableEq

namespace SmootherUtils.Position

variable {K : Type}

def getFieldByDim
    (position : Position K) : Dim → K
  | .x => position.x
  | .y => position.y
  | .z => position.z

def setFieldByDim
    (position : Position K)
    (value : K) : Dim → Position K
  | .x => { position with x := value }
  | .y => { position with y := value }
  | .z => { position with z := value }

end SmootherUtils.Position

structure SimpleSmoother (K : Type) where
  tolerance : K
  maxIts : Int
  dataW : K
  smoothW : K
  doRefinement : Bool
  refinementNum : Int
  enforcePathInversion : Bool

/-- What a waypoint is updated from: its planned position, its position and
those of its neighbours. -/
structure Neighborhood (K : Type) where
  planned : Position K
  before : Position K
  current : Position K
  after : Position K
  deriving DecidableEq

/-- The position of a waypoint after its update. -/
structure WaypointUpdate (K : Type) where
  neighborhood : Neighborhood K
  rejected : Bool
  result : Position K
  deriving DecidableEq

/-- The path in a pass, how much it changed, and the waypoints that went
back. -/
structure SmoothingPass (K Q : Type) where
  newPath : Path K Q
  change : K
  skippedWaypoints : Nat
  updates : List (WaypointUpdate K)

/-- The path when smoothing ends, and all updates. -/
structure Smoothed (K Q : Type) where
  path : Path K Q
  ending : SmootherEnd
  updates : List (WaypointUpdate K)

namespace SimpleSmoother

variable
  {K Q : Type}
  [Field K]
  [LinearOrder K]

/-- A coordinate moves towards its planned value and its neighbours. -/
def smoothedField
    (smoother : SimpleSmoother K)
    (neighborhood : Neighborhood K)
    (dim : Dim) : K :=
  let xI := neighborhood.planned.getFieldByDim dim
  let yI := neighborhood.current.getFieldByDim dim
  let yM1 := neighborhood.before.getFieldByDim dim
  let yIp1 := neighborhood.after.getFieldByDim dim
  yI + (smoother.dataW * (xI - yI) +
    smoother.smoothW * (yIp1 + yM1 - 2 * yI))

def smoothedPosition
    (smoother : SimpleSmoother K)
    (neighborhood : Neighborhood K) : Position K where
  x := smoother.smoothedField neighborhood .x
  y := smoother.smoothedField neighborhood .y
  z := smoother.smoothedField neighborhood .z

def waypointChange
    (before after : Position K) : K :=
  |after.x - before.x| + |after.y - before.y| + |after.z - before.z|

/-- The cell is an obstacle; a cell nothing is known about is none. -/
def isObstacle
    (cost : UInt8) : Bool :=
  inscribedInflatedObstacle ≤ cost && cost ≠ noInformation

variable [FloorRing K]

/-- The cost at a position, which is an obstacle outside of the costmap. -/
def costAt
    (costmap : Costmap2D K)
    (position : Position K) : UInt8 :=
  match costmap.worldToMap (position.x, position.y) with
  | some (mx, my) => costmap.getCost mx my
  | none => lethalObstacle

variable
  (smoother : SimpleSmoother K)

/-- The update of a waypoint, in which a collision restores `x` and `y`. -/
def updateWaypoint
    (costmap : Costmap2D K)
    (neighborhood : Neighborhood K) : WaypointUpdate K :=
  let smoothed := smoother.smoothedPosition neighborhood
  if isObstacle (costAt costmap smoothed) then
    { neighborhood
      rejected := true
      result := (smoothed.setFieldByDim neighborhood.current.x .x).setFieldByDim
        neighborhood.current.y .y }
  else
    { neighborhood, rejected := false, result := smoothed }

/-- The update of the waypoint at an index. -/
def smoothWaypoint
    (costmap : Costmap2D K)
    (path : Path K Q)
    (pass : SmoothingPass K Q)
    (i : Nat) : SmoothingPass K Q :=
  match path[i]?, pass.newPath[i - 1]?, pass.newPath[i]?,
    pass.newPath[i + 1]? with
  | some planned, some before, some current, some after =>
      let neighborhood : Neighborhood K :=
        { planned := planned.position
          before := before.position
          current := current.position
          after := after.position }
      let update := smoother.updateWaypoint costmap neighborhood
      let newPath := pass.newPath.set i
        { current with position := update.result }
      if update.rejected then
        { newPath
          change := pass.change
          skippedWaypoints := pass.skippedWaypoints + 1
          updates := pass.updates ++ [update] }
      else
        { newPath
          change := pass.change + waypointChange current.position
            (smoother.smoothedPosition neighborhood)
          skippedWaypoints := pass.skippedWaypoints
          updates := pass.updates ++ [update] }
  -- the loop does not leave the path
  | _, _, _, _ => pass

/-- What the update of a waypoint leaves. -/
structure Updated
    (smoother : SimpleSmoother K)
    (costmap : Costmap2D K)
    (before after : SmoothingPass K Q)
    (i : Nat)
    (waypoint : Pose K Q)
    (neighborhood : Neighborhood K) : Prop where
  isWaypoint : before.newPath[i]? = some waypoint
  hasNext : i + 1 < before.newPath.length
  current : neighborhood.current = waypoint.position
  newPath : after.newPath = before.newPath.set i
    { waypoint with
      position := (smoother.updateWaypoint costmap neighborhood).result }
  updates : after.updates =
    before.updates ++ [smoother.updateWaypoint costmap neighborhood]

theorem smoothWaypoint_cases
    (costmap : Costmap2D K)
    (path : Path K Q)
    (pass : SmoothingPass K Q)
    (i : Nat) :
    smoother.smoothWaypoint costmap path pass i = pass ∨
      ∃ waypoint neighborhood,
        Updated smoother costmap pass
          (smoother.smoothWaypoint costmap path pass i) i waypoint
          neighborhood := by
  rw [smoothWaypoint]
  split
  · case h_1 planned before current after _ _ isCurrent isAfter =>
    refine .inr ⟨current, ⟨planned.position, before.position,
      current.position, after.position⟩, isCurrent,
      (List.getElem?_eq_some_iff.mp isAfter).choose, rfl, ?_, ?_⟩
    · dsimp only
      split
      · rfl
      · rfl
    · dsimp only
      split
      · rfl
      · rfl
  · exact .inl rfl

/-- A pass over the first inner waypoints. -/
def smoothWaypoints
    (costmap : Costmap2D K)
    (path lastPath : Path K Q) : Nat → SmoothingPass K Q
  | 0 =>
      { newPath := lastPath
        change := 0
        skippedWaypoints := 0
        updates := [] }
  | count + 1 =>
      smoother.smoothWaypoint costmap path
        (smoothWaypoints costmap path lastPath count) (count + 1)

def smoothPass
    (costmap : Costmap2D K)
    (path lastPath : Path K Q) : SmoothingPass K Q :=
  smoother.smoothWaypoints costmap path lastPath (path.length - 2)

/-- The loop over the passes, `remaining` being how many there may be.  The new
path of a pass is the last path of the next one. -/
def smoothLoop
    (costmap : Costmap2D K)
    (timeUp : Nat → Bool)
    (path : Path K Q) :
    (remaining its : Nat) → (lastPath : Path K Q) → Smoothed K Q
  | 0, _, lastPath =>
      -- the number of iterations has exceeded the limit
      { path := lastPath, ending := .failed, updates := [] }
  | remaining + 1, its, lastPath =>
      if timeUp its then
        { path := lastPath, ending := .timedOut, updates := [] }
      else
        let pass := smoother.smoothPass costmap path lastPath
        if (path.length - 2) / 2 < pass.skippedWaypoints then
          { path := lastPath, ending := .failed, updates := pass.updates }
        else if smoother.tolerance ≤ pass.change then
          let later := smoothLoop costmap timeUp path remaining
            (its + 1) pass.newPath
          { later with updates := pass.updates ++ later.updates }
        else
          { path := pass.newPath
            ending := .succeeded
            updates := pass.updates }

/-- How often the loop body may run before the limit is exceeded. -/
def iterations
    (smoother : SimpleSmoother K) : Nat :=
  (smoother.maxIts - 1).toNat

variable
  (angles : Angles K Q)

/-- Where smoothing ends, the orientations are updated. -/
def withOrientations
    (smoothed : Smoothed K Q) : Smoothed K Q :=
  { smoothed with
    path := updateApproximatePathOrientations angles smoothed.path }

/-- Smooth a path, and smooth the result again, `refinements` times.  The path
of the caller does not change when a refinement does not succeed. -/
def smoothImpl
    (costmap : Costmap2D K)
    (timeUp : Nat → Nat → Bool) :
    (refinements refinementCtr : Nat) → Path K Q → Smoothed K Q
  | 0, refinementCtr, path =>
      withOrientations angles (smoother.smoothLoop costmap
        (timeUp refinementCtr) path smoother.iterations 1 path)
  | refinements + 1, refinementCtr, path =>
      let looped := smoother.smoothLoop costmap (timeUp refinementCtr) path
        smoother.iterations 1 path
      if looped.ending = .succeeded then
        let refined := smoothImpl costmap timeUp refinements
          (refinementCtr + 1) looped.path
        let updates := looped.updates ++ refined.updates
        if refined.ending = .succeeded then
          withOrientations angles { refined with updates }
        else
          { path, ending := refined.ending, updates }
      else
        withOrientations angles looped

/-- Smooth a segment, whatever became of the segments before it. -/
def smoothSegment
    (costmap : Costmap2D K)
    (timeUp : Nat → Nat → Nat → Bool)
    (_ : Bool)
    (i : Nat)
    (poses : Path K Q) : SmootherEnd × Path K Q :=
  let refinements :=
    if smoother.doRefinement then smoother.refinementNum.toNat else 0
  let smoothed := smoother.smoothImpl angles costmap (timeUp i) refinements 0
    poses
  (smoothed.ending, smoothed.path)

/-- `timeUp` tells of each segment, refinement and iteration if the time is
up then. -/
def smooth
    (costmap : Costmap2D K)
    (timeUp : Nat → Nat → Nat → Bool)
    (path : Path K Q) : SmootherEnd × Path K Q :=
  smoothSegments 3 (smoother.smoothSegment angles costmap timeUp) 0
    (pathSegments angles smoother.enforcePathInversion path) true path

end SimpleSmoother

end NavBim
