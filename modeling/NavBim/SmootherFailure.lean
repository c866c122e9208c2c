import Mathlib
import NavBim.SavitzkyGolaySmoother
import NavBim.SmoothedPaths

namespace NavBim

/-!
# Smoothers that fail

When smoothing fails in a segment, the segments before it have been copied back
already.  So the path is as it was exactly when smoothing did not move the poses
of these segments.
-/

namespace SmootherUtils

section Slices

variable
  {α : Type}
  {items copied : List α}
  {segment : PathSegment}

theorem copyBack_eq_iff
    (size : copied.length = (slice items segment).length)
    (rising : segment.start ≤ segment.stop)
    (inside : segment.stop < items.length) :
    copyBack items segment.start copied = items ↔
      copied = slice items segment := by
  rw [length_slice inside] at size
  have fits : segment.start + copied.length ≤ items.length := by omega
  constructor
  · intro same
    refine List.ext_getElem? fun index => ?_
    by_cases inSegment : segment.start + index ≤ segment.stop
    · rw [getElem?_slice inSegment]
      have written := getElem?_copyBack fits (segment.start + index)
      rw [if_pos ⟨Nat.le_add_right _ _, by omega⟩, same,
        Nat.add_sub_cancel_left] at written
      exact written.symm
    · rw [List.getElem?_eq_none (by omega),
        List.getElem?_eq_none (by rw [length_slice inside]; omega)]
  · rintro rfl
    refine List.ext_getElem? fun index => ?_
    rw [getElem?_copyBack fits]
    split
    · case isTrue within =>
      rw [getElem?_slice (by omega), Nat.add_sub_of_le within.1]
    · rfl

theorem slice_congr
    {other : List α}
    (same : ∀ index, segment.start ≤ index → other[index]? = items[index]?) :
    slice other segment = slice items segment := by
  have dropped : other.drop segment.start = items.drop segment.start := by
    refine List.ext_getElem? fun index => ?_
    rw [List.getElem?_drop, List.getElem?_drop]
    exact same _ (Nat.le_add_right _ _)
  rw [slice, slice, dropped]

end Slices

section Copied

variable {K Q : Type}

/-- The segments of a path that smoothing copies back, each as it was and as it
is copied. -/
def copiedSegments
    (minimumPoints : Nat)
    (smoothSegment :
      (success : Bool) → (i : Nat) → Path K Q → SmootherEnd × Path K Q)
    (path : Path K Q) :
    (i : Nat) → List PathSegment → (success : Bool) →
      List (Path K Q × Path K Q)
  | _, [], _ => []
  | i, segment :: rest, success =>
      if minimumPoints < segment.stop - segment.start then
        let smoothed := smoothSegment success i (slice path segment)
        if smoothed.1 = .timedOut then
          []
        else
          (slice path segment, smoothed.2) ::
            copiedSegments minimumPoints smoothSegment path (i + 1) rest
              (success && smoothed.1 = .succeeded)
      else
        copiedSegments minimumPoints smoothSegment path (i + 1) rest success

/-- Smoothing does not move the ends, and the last pose stays as it is. -/
structure KeepsEnds
    (poses smoothed : Path K Q) : Prop where
  length : smoothed.length = poses.length
  first : (positions smoothed).head? = (positions poses).head?
  last : smoothed.getLast? = poses.getLast?

variable
  {minimumPoints : Nat}
  {smoothSegment : Bool → Nat → Path K Q → SmootherEnd × Path K Q}
  {segments : List PathSegment}
  {path : Path K Q}

theorem copiedSegments_congr
    {other : Path K Q}
    {first last i : Nat}
    {success : Bool}
    (divides : Divides first segments last)
    (same : ∀ index, first ≤ index → other[index]? = path[index]?) :
    copiedSegments minimumPoints smoothSegment other i segments success =
      copiedSegments minimumPoints smoothSegment path i segments success := by
  induction segments generalizing first i success with
  | nil =>
      rfl
  | cons segment rest inductionHypothesis =>
      obtain ⟨rfl, rising, later⟩ := divides
      have afterwards : ∀ index, segment.stop ≤ index →
          other[index]? = path[index]? :=
        fun index stop => same index (rising.trans stop)
      rw [copiedSegments, copiedSegments, slice_congr same]
      dsimp only
      split
      · split
        · rfl
        · rw [inductionHypothesis later afterwards]
      · exact inductionHypothesis later afterwards

/-- The path after a segment is copied back. -/
structure CopiedBack
    (segment : PathSegment)
    (path smoothed copied : Path K Q) : Prop where
  length : copied.length = path.length
  upTo :
    ∀ index ≤ segment.start,
      (positions copied)[index]? = (positions path)[index]?
  after : ∀ index, segment.stop ≤ index → copied[index]? = path[index]?
  unmoved :
    positions copied = positions path ↔
      positions smoothed = positions (slice path segment)

theorem KeepsEnds.copiedBack
    {segment : PathSegment}
    {smoothed : Path K Q}
    (keepsEnds : KeepsEnds (slice path segment) smoothed)
    (rising : segment.start ≤ segment.stop)
    (inside : segment.stop < path.length) :
    CopiedBack segment path smoothed
      (copyBack path segment.start smoothed) := by
  have sliced : (slice path segment).length = segment.stop + 1 - segment.start :=
    length_slice inside
  have size := keepsEnds.length.trans sliced
  have fits : segment.start + smoothed.length ≤ path.length := by omega
  have fitsToo : segment.start + (positions smoothed).length ≤
      (positions path).length := by
    rw [positions, positions, List.length_map, List.length_map]
    exact fits
  refine ⟨length_copyBack fits, fun index upTo => ?_, fun index after => ?_, ?_⟩
  · rw [positions_copyBack, getElem?_copyBack fitsToo]
    split
    · case isTrue within =>
      obtain rfl : segment.start = index := le_antisymm within.1 upTo
      rw [Nat.sub_self, ← List.head?_eq_getElem?, keepsEnds.first,
        positions_slice, List.head?_eq_getElem?,
        getElem?_slice (by omega), Nat.add_zero]
    · rfl
  · rw [getElem?_copyBack fits]
    split
    · case isTrue within =>
      obtain rfl : segment.stop = index := by omega
      have last : segment.stop - segment.start = smoothed.length - 1 := by
        omega
      rw [last, ← List.getLast?_eq_getElem?, keepsEnds.last,
        List.getLast?_eq_getElem?, ← keepsEnds.length, ← last,
        getElem?_slice (by omega), Nat.add_sub_of_le rising]
    · rfl
  · rw [positions_copyBack, positions_slice]
    refine copyBack_eq_iff ?_ rising ?_
    · rw [← positions_slice, positions, positions, List.length_map,
        List.length_map, keepsEnds.length]
    · rw [positions, List.length_map]
      exact inside

section

variable
  (keepsEnds : ∀ success i poses,
    KeepsEnds poses (smoothSegment success i poses).2)
  {first : Nat}
  (i : Nat)
  (success : Bool)
  (divides : Divides first segments (path.length - 1))
  (nonempty : 0 < path.length)

include keepsEnds i success divides nonempty

theorem positions_smoothSegments_upTo :
    ∀ index ≤ first,
      (positions (smoothSegments minimumPoints smoothSegment i segments
        success path).2)[index]? = (positions path)[index]? := by
  induction segments generalizing first i success path with
  | nil =>
      exact fun _ _ => rfl
  | cons segment rest inductionHypothesis =>
      obtain ⟨rfl, rising, later⟩ := divides
      intro index upTo
      rw [smoothSegments]
      dsimp only
      split
      · split
        · rfl
        · have inside : segment.stop < path.length := by
            have := later.le
            omega
          have copied :=
            (keepsEnds success i (slice path segment)).copiedBack rising inside
          have divided := copied.length.symm ▸ later
          rw [← copied.upTo index upTo]
          exact inductionHypothesis _ _ divided
            (copied.length.symm ▸ nonempty) index (upTo.trans rising)
      · exact inductionHypothesis _ _ later nonempty index (upTo.trans rising)

theorem positions_smoothSegments_iff :
    positions (smoothSegments minimumPoints smoothSegment i segments
        success path).2 = positions path ↔
      ∀ copied ∈ copiedSegments minimumPoints smoothSegment path i segments
        success, positions copied.2 = positions copied.1 := by
  induction segments generalizing first i success path with
  | nil =>
      exact iff_of_true rfl fun _ isMember => by cases isMember
  | cons segment rest inductionHypothesis =>
      obtain ⟨rfl, rising, later⟩ := divides
      rw [smoothSegments, copiedSegments]
      dsimp only
      split
      · split
        · exact iff_of_true rfl fun _ isMember => by cases isMember
        · have inside : segment.stop < path.length := by
            have := later.le
            omega
          have copied :=
            (keepsEnds success i (slice path segment)).copiedBack rising inside
          have divided := copied.length.symm ▸ later
          have notEmpty := copied.length.symm ▸ nonempty
          have others := inductionHypothesis (i + 1)
            (success && (smoothSegment success i
              (slice path segment)).1 = .succeeded) divided notEmpty
          rw [copiedSegments_congr later copied.after] at others
          rw [List.forall_mem_cons, ← others, ← copied.unmoved]
          constructor
          · intro same
            have here : positions (copyBack path segment.start
                (smoothSegment success i (slice path segment)).2) =
                  positions path := by
              refine List.ext_getElem? fun index => ?_
              rcases Nat.le_total index segment.stop with upTo | after
              · rw [← same]
                exact (positions_smoothSegments_upTo keepsEnds _ _ divided
                  notEmpty index upTo).symm
              · rw [positions, positions, List.getElem?_map,
                  List.getElem?_map, copied.after index after]
            exact ⟨here, same.trans here.symm⟩
          · rintro ⟨here, afterwards⟩
            exact afterwards.trans here
      · exact inductionHypothesis _ _ later nonempty

end

theorem KeepsEnds.refl
    (poses : Path K Q) :
    KeepsEnds poses poses where
  length := rfl
  first := rfl
  last := rfl

theorem KeepsEnds.trans
    {poses middle smoothed : Path K Q}
    (earlier : KeepsEnds poses middle)
    (later : KeepsEnds middle smoothed) :
    KeepsEnds poses smoothed where
  length := later.length.trans earlier.length
  first := later.first.trans earlier.first
  last := later.last.trans earlier.last

theorem keepsEnds_updateApproximatePathOrientations
    [Field K]
    [LinearOrder K]
    (angles : Angles K Q)
    (poses : Path K Q) :
    KeepsEnds poses (updateApproximatePathOrientations angles poses) where
  length := by
    have same := congrArg List.length
      (positions_updateApproximatePathOrientations angles poses)
    rw [positions, positions, List.length_map, List.length_map] at same
    exact same
  first := by
    rw [positions_updateApproximatePathOrientations]
  last := getLast?_updateApproximatePathOrientations angles poses

end Copied

end SmootherUtils

open SmootherUtils

section Failure

variable
  {K Q : Type}
  [Field K]
  [LinearOrder K]
  [FloorRing K]

theorem SimpleSmoother.keepsEnds_smoothSegment
    (smoother : SimpleSmoother K)
    (angles : Angles K Q)
    (costmap : Costmap2D K)
    (timeUp : Nat → Nat → Nat → Bool)
    (success : Bool)
    (i : Nat)
    (poses : Path K Q) :
    KeepsEnds poses
      (smoother.smoothSegment angles costmap timeUp success i poses).2 := by
  have edits : Edits smoother angles costmap poses
      (smoother.smoothSegment angles costmap timeUp success i poses).2 :=
    edits_smoothImpl _ _ _ _
  have guarded := guarded_of_edits edits
  have length := guarded.length
  rw [positions, positions, List.length_map, List.length_map] at length
  exact ⟨length, guarded.first, getLast?_of_edits edits⟩

namespace SavitzkyGolaySmoother

variable
  {smoother : SavitzkyGolaySmoother K}
  {costmap : Costmap2D K}

section

omit [LinearOrder K] [FloorRing K]

theorem getElem?_applyFilterOverAxes
    {path : Path K Q}
    {index : Nat}
    (fixed : ¬(0 < index ∧ index < path.length - 1)) :
    (smoother.applyFilterOverAxes path)[index]? = path[index]? := by
  rw [applyFilterOverAxes, List.getElem?_mapIdx]
  simp only [if_neg fixed, Option.map_id']

theorem keepsEnds_applyFilterOverAxes
    (path : Path K Q) :
    KeepsEnds path (smoother.applyFilterOverAxes path) where
  length := List.length_mapIdx
  first := by
    rw [positions, positions, List.head?_map, List.head?_map,
      List.head?_eq_getElem?, List.head?_eq_getElem?,
      getElem?_applyFilterOverAxes (fun inner => absurd inner.1 (lt_irrefl 0))]
  last := by
    have length : (smoother.applyFilterOverAxes path).length = path.length :=
      List.length_mapIdx
    rw [List.getLast?_eq_getElem?, List.getLast?_eq_getElem?, length,
      getElem?_applyFilterOverAxes
        (fun inner => absurd inner.2 (lt_irrefl _))]

end

theorem keepsEnds_filtered
    {passes : Nat}
    {path smoothed : Path K Q}
    (isFiltered : smoother.filtered costmap passes path = some smoothed) :
    KeepsEnds path smoothed := by
  induction passes generalizing path with
  | zero =>
      obtain rfl : path = smoothed := Option.some.inj isFiltered
      exact .refl path
  | succ passes inductionHypothesis =>
      rw [filtered] at isFiltered
      split at isFiltered
      · exact nomatch isFiltered
      · exact (keepsEnds_applyFilterOverAxes path).trans
          (inductionHypothesis isFiltered)

theorem keepsEnds_smoothSegment
    (smoother : SavitzkyGolaySmoother K)
    (angles : Angles K Q)
    (costmap : Costmap2D K)
    (timeUp : Nat → Bool)
    (success : Bool)
    (i : Nat)
    (poses : Path K Q) :
    KeepsEnds poses
      (smoother.smoothSegment angles costmap timeUp success i poses).2 := by
  rw [smoothSegment]
  split
  · exact .refl poses
  · split
    · rw [smoothImpl]
      split
      · case h_1 smoothed isFiltered =>
        exact (keepsEnds_filtered isFiltered).trans
          (keepsEnds_updateApproximatePathOrientations angles smoothed)
      · exact keepsEnds_updateApproximatePathOrientations angles poses
    · exact .refl poses

end SavitzkyGolaySmoother

/-- What a simple smoother copies back. -/
def SimpleSmoother.copied
    (smoother : SimpleSmoother K)
    (angles : Angles K Q)
    (costmap : Costmap2D K)
    (timeUp : Nat → Nat → Nat → Bool)
    (path : Path K Q) : List (Path K Q × Path K Q) :=
  copiedSegments 3 (smoother.smoothSegment angles costmap timeUp) path 0
    (pathSegments angles smoother.enforcePathInversion path) true

def SavitzkyGolaySmoother.copied
    (smoother : SavitzkyGolaySmoother K)
    (angles : Angles K Q)
    (costmap : Costmap2D K)
    (timeUp : Nat → Bool)
    (path : Path K Q) : List (Path K Q × Path K Q) :=
  copiedSegments (smoother.windowSize + 2)
    (smoother.smoothSegment angles costmap timeUp) path 0
    (pathSegments angles smoother.enforcePathInversion path) true

/-- All segments copied back have the positions they had. -/
def Unmoved
    (copied : List (Path K Q × Path K Q)) : Prop :=
  ∀ segment ∈ copied, positions segment.2 = positions segment.1

/-- A failure leaves the path as it was exactly when smoothing did not move the
segments that were copied back before. -/
theorem failed_smooth_leaves_path_iff
    (simple : SimpleSmoother K)
    (savitzkyGolay : SavitzkyGolaySmoother K)
    (angles : Angles K Q)
    (costmap : Costmap2D K)
    (simpleTimeUp : Nat → Nat → Nat → Bool)
    (savitzkyGolayTimeUp : Nat → Bool)
    (path : Path K Q)
    (nonempty : 0 < path.length) :
    (((simple.smooth angles costmap simpleTimeUp path).1 = .timedOut →
        positions (simple.smooth angles costmap simpleTimeUp path).2 =
          positions path) ↔
      ((simple.smooth angles costmap simpleTimeUp path).1 = .timedOut →
        Unmoved (simple.copied angles costmap simpleTimeUp path))) ∧
    (((savitzkyGolay.smooth angles costmap savitzkyGolayTimeUp path).1 ≠
          .succeeded →
        positions (savitzkyGolay.smooth angles costmap savitzkyGolayTimeUp
          path).2 = positions path) ↔
      ((savitzkyGolay.smooth angles costmap savitzkyGolayTimeUp path).1 ≠
          .succeeded →
        Unmoved (savitzkyGolay.copied angles costmap savitzkyGolayTimeUp
          path))) := by
  refine ⟨imp_congr_right fun _ => ?_, imp_congr_right fun _ => ?_⟩
  · exact positions_smoothSegments_iff
      (simple.keepsEnds_smoothSegment angles costmap simpleTimeUp) 0 true
      (divides_pathSegments _) nonempty
  · exact positions_smoothSegments_iff
      (savitzkyGolay.keepsEnds_smoothSegment angles costmap
        savitzkyGolayTimeUp) 0 true (divides_pathSegments _) nonempty

end Failure

section Samples

/-- A path with a bend that turns around at its seventh pose. -/
def returningPath : Path ℚ Unit :=
  [planePose 0 0, planePose 1 0, planePose 2 1, planePose 3 1, planePose 4 1,
    planePose 5 1, planePose 6 1, planePose 5 2, planePose 4 3, planePose 3 4,
    planePose 2 5, planePose 1 6, planePose 0 7]

/-- A smoother that takes the mean of three positions. -/
def meanSmoother : SavitzkyGolaySmoother ℚ where
  halfWindowSize := 1
  sgCoeffs := fun _ => 1 / 3
  doRefinement := false
  refinementNum := 0
  enforcePathInversion := true

/-- An obstacle on the way back. -/
def obstacleOnReturn : Costmap2D ℚ :=
  freeCostmap.setCost 3 4 lethalObstacle

/-- The time is up before any segment is smoothed. -/
theorem bentPath_unmoved :
    (((sampleSmoother.smooth noAngles freeCostmap (fun _ _ _ => true)
          bentPath).1 = .timedOut →
        positions (sampleSmoother.smooth noAngles freeCostmap
          (fun _ _ _ => true) bentPath).2 = positions bentPath) ∧
      (sampleSmoother.smooth noAngles freeCostmap (fun _ _ _ => true)
        bentPath).1 = .timedOut) := by
  have iffs := failed_smooth_leaves_path_iff sampleSmoother meanSmoother noAngles
    freeCostmap (fun _ _ _ => true) (fun _ => true) bentPath (by decide)
  have noneCopied : sampleSmoother.copied noAngles freeCostmap
      (fun _ _ _ => true) bentPath = [] := by
    decide +kernel
  refine ⟨iffs.1.mpr fun _ => ?_, by decide +kernel⟩
  rw [noneCopied]
  exact fun _ isMember => nomatch isMember

/-- Time runs out on the way back, or there is a collision, when the way there
was smoothed and copied back. -/
theorem returningPath_moved :
    ((sampleSmoother.smooth noAngles freeCostmap (fun i _ _ => i = 1)
        returningPath).1 = .timedOut ∧
      positions (sampleSmoother.smooth noAngles freeCostmap
        (fun i _ _ => i = 1) returningPath).2 ≠ positions returningPath) ∧
    ((meanSmoother.smooth noAngles obstacleOnReturn (fun _ => false)
        returningPath).1 = .failed ∧
      positions (meanSmoother.smooth noAngles obstacleOnReturn
        (fun _ => false) returningPath).2 ≠ positions returningPath) := by
  decide +kernel

end Samples

end NavBim
