import Mathlib
import NavBim.Costmap2D
import NavBim.SmootherPaths

namespace NavBim

/-!
# The Savitzky-Golay smoother

The smoother replaces the inner poses of a path by weighted sums of the poses
around them, the ends standing in for poses outside of the path.  If a pose
ends up in collision, the path goes back to what it was.

The weights come from another library and are part of the smoother.
-/

open SmootherUtils

/-- The highest cost that is no obstacle. -/
def maxNonObstacle : UInt8 := 252

structure SavitzkyGolaySmoother (K : Type) where
  halfWindowSize : Nat
  sgCoeffs : Fin (2 * halfWindowSize + 1) → K
  doRefinement : Bool
  refinementNum : Int
  enforcePathInversion : Bool

namespace SavitzkyGolaySmoother

variable
  {K Q : Type}
  [Field K]
  [LinearOrder K]

def windowSize
    (smoother : SavitzkyGolaySmoother K) : Nat :=
  2 * smoother.halfWindowSize + 1

/-- The weighted sum around an index.  An index outside of the path is clamped
to the path. -/
def accumulate
    (smoother : SavitzkyGolaySmoother K)
    (path : Path K Q)
    (idx : Nat) : K × K :=
  (List.finRange (2 * smoother.halfWindowSize + 1)).foldl
    (fun accum j =>
      let pathIdx := min (idx + j.val - smoother.halfWindowSize)
        (path.length - 1)
      match path[pathIdx]? with
      | some pose =>
          (accum.1 + smoother.sgCoeffs j * pose.position.x,
            accum.2 + smoother.sgCoeffs j * pose.position.y)
      | none => accum)
    (0, 0)

/-- All inner poses are replaced at once; the ends are fixed. -/
def applyFilterOverAxes
    (smoother : SavitzkyGolaySmoother K)
    (path : Path K Q) : Path K Q :=
  path.mapIdx fun idx pose =>
    if 0 < idx ∧ idx < path.length - 1 then
      let accum := smoother.accumulate path idx
      { pose with
        position := { pose.position with x := accum.1, y := accum.2 } }
    else
      pose

variable [FloorRing K]

/-- The pose is in a cell with an obstacle; outside of the costmap there is
none. -/
def inCollision
    (costmap : Costmap2D K)
    (pose : Pose K Q) : Bool :=
  match costmap.worldToMap (pose.position.x, pose.position.y) with
  | some (mx, my) =>
      let cost := costmap.getCost mx my
      maxNonObstacle < cost && cost ≠ noInformation
  | none => false

/-- An inner pose is in collision. -/
def collides
    (costmap : Costmap2D K)
    (path : Path K Q) : Bool :=
  (path.dropLast.drop 1).any (inCollision costmap)

variable
  (smoother : SavitzkyGolaySmoother K)

/-- Filter a path a number of times, if no result is in collision. -/
def filtered
    (costmap : Costmap2D K) : Nat → Path K Q → Option (Path K Q)
  | 0, path => some path
  | passes + 1, path =>
      let smoothed := smoother.applyFilterOverAxes path
      if collides costmap smoothed then
        none
      else
        filtered costmap passes smoothed

/-- The first pass and the refinements. -/
def passes
    (smoother : SavitzkyGolaySmoother K) : Nat :=
  1 + if smoother.doRefinement then smoother.refinementNum.toNat else 0

variable
  (angles : Angles K Q)

def smoothImpl
    (costmap : Costmap2D K)
    (path : Path K Q) : SmootherEnd × Path K Q :=
  match smoother.filtered costmap smoother.passes path with
  | some smoothed =>
      (.succeeded, updateApproximatePathOrientations angles smoothed)
  | none => (.failed, updateApproximatePathOrientations angles path)

/-- Smooth a segment, unless the time is up or another one has failed. -/
def smoothSegment
    (costmap : Costmap2D K)
    (timeUp : Nat → Bool)
    (success : Bool)
    (i : Nat)
    (poses : Path K Q) : SmootherEnd × Path K Q :=
  if timeUp i then
    (.timedOut, poses)
  else if success then
    smoother.smoothImpl angles costmap poses
  else
    (.failed, poses)

/-- `timeUp` tells of each segment if the time is up then. -/
def smooth
    (costmap : Costmap2D K)
    (timeUp : Nat → Bool)
    (path : Path K Q) : SmootherEnd × Path K Q :=
  smoothSegments (smoother.windowSize + 2)
    (smoother.smoothSegment angles costmap timeUp)
    0 (pathSegments angles smoother.enforcePathInversion path) true path

end SavitzkyGolaySmoother

end NavBim
