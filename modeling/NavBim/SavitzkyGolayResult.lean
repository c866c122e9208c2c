import NavBim.SmootherFailure

namespace NavBim

/-!
# What the Savitzky-Golay smoother accepts

A filtered segment is accepted if none of its poses is in collision after any
pass, and a pose outside of the map is not in collision.  So a result may leave
the map, and does so exactly when the last pass leads outside of it.
-/

variable
  {call : PathSegment × Nat}

namespace SmootherUtils

variable
  {K Q : Type}
  {minimumPoints : Nat}
  {smoothSegment : Bool → Nat → Path K Q → SmootherEnd × Path K Q}
  {segments : List PathSegment}
  {path : Path K Q}

/-- The segments with enough points, each with its number. -/
def longSegments
    (minimumPoints : Nat)
    (segments : List PathSegment)
    (i : Nat) : List (PathSegment × Nat) :=
  (segments.zipIdx i).filter fun call =>
    minimumPoints < call.1.stop - call.1.start

theorem longSegments_cons
    (segment : PathSegment)
    (rest : List PathSegment)
    (i : Nat) :
    longSegments minimumPoints (segment :: rest) i =
      if minimumPoints < segment.stop - segment.start then
        (segment, i) :: longSegments minimumPoints rest (i + 1)
      else
        longSegments minimumPoints rest (i + 1) := by
  rw [longSegments, List.zipIdx_cons, List.filter_cons]
  simp only [decide_eq_true_eq]
  rfl

/-- One segment that failed is enough. -/
theorem smoothSegments_not_succeeded
    (i : Nat) :
    (smoothSegments minimumPoints smoothSegment i segments false path).1 ≠
      .succeeded := by
  induction segments generalizing i path with
  | nil =>
      rintro ⟨⟩
  | cons segment rest inductionHypothesis =>
      rw [smoothSegments]
      dsimp only
      split
      · split
        · rintro ⟨⟩
        · exact inductionHypothesis (i + 1)
      · exact inductionHypothesis (i + 1)

variable
  {segment : PathSegment}

theorem CopiedBack.keepsEnds
    {smoothed copied : Path K Q}
    (isCopied : CopiedBack segment path smoothed copied)
    (inside : segment.stop < path.length) :
    KeepsEnds path copied where
  length := isCopied.length
  first := by
    rw [List.head?_eq_getElem?, List.head?_eq_getElem?]
    exact isCopied.upTo 0 (Nat.zero_le _)
  last := by
    rw [List.getLast?_eq_getElem?, List.getLast?_eq_getElem?, isCopied.length]
    exact isCopied.after _ (Nat.le_sub_one_of_lt inside)

theorem positions_copyBack_inner
    {smoothed : Path K Q}
    (length : smoothed.length = (slice path segment).length)
    (inside : segment.stop < path.length)
    {index : Nat}
    (start : segment.start < index)
    (stop : index < segment.stop) :
    (positions (copyBack path segment.start smoothed))[index]? =
      (positions smoothed)[index - segment.start]? := by
  rw [length_slice inside] at length
  have size : (positions smoothed).length = smoothed.length :=
    List.length_map _
  have fits : segment.start + (positions smoothed).length ≤
      (positions path).length := by
    rw [size, positions, List.length_map]
    omega
  rw [positions_copyBack, getElem?_copyBack fits, if_pos]
  exact ⟨start.le, by omega⟩

theorem Divides.le_start
    {first last : Nat}
    (divides : Divides first segments last)
    (isSegment : segment ∈ segments) :
    first ≤ segment.start := by
  induction segments generalizing first with
  | nil =>
      exact nomatch isSegment
  | cons head rest inductionHypothesis =>
      obtain ⟨rfl, rising, later⟩ := divides
      cases isSegment with
      | head =>
          exact le_refl _
      | tail _ isLater =>
          exact rising.trans (inductionHypothesis later isLater)

variable
  {i : Nat}

theorem longSegments_subset
    (isLong : call ∈ longSegments minimumPoints segments i) :
    call.1 ∈ segments :=
  List.fst_mem_of_mem_zipIdx (List.mem_of_mem_filter isLong)

theorem keepsEnds_smoothSegments
    (keepsEnds : ∀ success i poses,
      KeepsEnds poses (smoothSegment success i poses).2)
    {first : Nat}
    (i : Nat)
    (success : Bool)
    (divides : Divides first segments (path.length - 1)) :
    KeepsEnds path
      (smoothSegments minimumPoints smoothSegment i segments success path).2 := by
  induction segments generalizing first i success path with
  | nil =>
      exact .refl path
  | cons segment rest inductionHypothesis =>
      obtain ⟨rfl, rising, later⟩ := divides
      rw [smoothSegments]
      dsimp only
      split
      · case isTrue isLong =>
        split
        · exact .refl path
        · have inside : segment.stop < path.length := by
            have := later.le
            omega
          have copied :=
            (keepsEnds success i (slice path segment)).copiedBack rising inside
          exact (copied.keepsEnds inside).trans
            (inductionHypothesis _ _ (copied.length.symm ▸ later))
      · exact inductionHypothesis _ _ later

theorem Divides.stop_le
    {first last : Nat}
    (divides : Divides first segments last)
    (isSegment : segment ∈ segments) :
    segment.stop ≤ last := by
  induction segments generalizing first with
  | nil =>
      exact nomatch isSegment
  | cons head rest inductionHypothesis =>
      obtain ⟨rfl, rising, later⟩ := divides
      cases isSegment with
      | head =>
          exact later.le
      | tail _ isLater =>
          exact inductionHypothesis later isLater

theorem stop_lt_of_longSegments
    (divides : Divides 0 segments (path.length - 1))
    (isLong : call ∈ longSegments minimumPoints segments i) :
    call.1.stop < path.length := by
  have stop := divides.stop_le (longSegments_subset isLong)
  rw [longSegments, List.mem_filter, decide_eq_true_eq] at isLong
  omega

theorem mem_inner_iff
    {α : Type}
    {items : List α}
    {item : α} :
    item ∈ items.dropLast.drop 1 ↔
      ∃ index, 0 < index ∧ index + 1 < items.length ∧
        items[index]? = some item := by
  rw [List.mem_iff_getElem?]
  constructor
  · rintro ⟨index, isItem⟩
    rw [List.getElem?_drop, List.getElem?_dropLast] at isItem
    split at isItem
    · exact ⟨1 + index, by omega, by omega, isItem⟩
    · exact nomatch isItem
  · rintro ⟨index, inner, beforeLast, isItem⟩
    refine ⟨index - 1, ?_⟩
    rw [List.getElem?_drop, List.getElem?_dropLast, Nat.add_sub_of_le inner,
      if_pos (by omega)]
    exact isItem

/-- What holds of a successful run, in terms of the path before it. -/
structure RunOver
    (minimumPoints : Nat)
    (smoothSegment : Bool → Nat → Path K Q → SmootherEnd × Path K Q)
    (segments : List PathSegment)
    (i : Nat)
    (path : Path K Q)
    (outcome : SmootherEnd × Path K Q) : Prop where
  succeeded :
    outcome.1 = .succeeded ↔
      ∀ call ∈ longSegments minimumPoints segments i,
        (smoothSegment true call.2 (slice path call.1)).1 = .succeeded
  inner :
    outcome.1 = .succeeded →
      ∀ call ∈ longSegments minimumPoints segments i,
        ∀ index, call.1.start < index → index < call.1.stop →
          (positions outcome.2)[index]? =
            (positions (smoothSegment true call.2
              (slice path call.1)).2)[index - call.1.start]?

theorem RunOver.of_succeeded
    {rest : List PathSegment}
    (keepsEnds : ∀ success i poses,
      KeepsEnds poses (smoothSegment success i poses).2)
    (i : Nat)
    (isLong : minimumPoints < segment.stop - segment.start)
    (rising : segment.start ≤ segment.stop)
    (later : Divides segment.stop rest (path.length - 1))
    (success :
      (smoothSegment true i (slice path segment)).1 = .succeeded)
    {copied : Path K Q}
    (isCopied :
      copied = copyBack path segment.start
        (smoothSegment true i (slice path segment)).2)
    (run : RunOver minimumPoints smoothSegment rest (i + 1) copied
      (smoothSegments minimumPoints smoothSegment (i + 1) rest true copied)) :
    RunOver minimumPoints smoothSegment (segment :: rest) i path
      (smoothSegments minimumPoints smoothSegment (i + 1) rest true
        copied) := by
  have cons : longSegments minimumPoints (segment :: rest) i =
      (segment, i) :: longSegments minimumPoints rest (i + 1) := by
    rw [longSegments_cons, if_pos isLong]
  have inside : segment.stop < path.length := by
    have := later.le
    omega
  have endsKept := keepsEnds true i (slice path segment)
  have copiedBack := endsKept.copiedBack rising inside
  rw [← isCopied] at copiedBack
  -- the later segments are as they were
  have sameSlice : ∀ call ∈ longSegments minimumPoints rest (i + 1),
      slice copied call.1 = slice path call.1 := by
    intro call isLater
    refine slice_congr fun index start => copiedBack.after index ?_
    exact (later.le_start (longSegments_subset isLater)).trans start
  constructor
  · rw [run.succeeded, cons, List.forall_mem_cons]
    constructor
    · intro laterSucceed
      refine ⟨success, fun call isLater => ?_⟩
      rw [← sameSlice call isLater]
      exact laterSucceed call isLater
    · intro allSucceed call isLater
      rw [sameSlice call isLater]
      exact allSucceed.2 call isLater
  · intro succeeds
    rw [cons, List.forall_mem_cons]
    constructor
    · intro index start stop
      have nonempty : 0 < copied.length := by
        rw [copiedBack.length]
        exact Nat.zero_lt_of_lt inside
      rw [positions_smoothSegments_upTo keepsEnds (i + 1) true
        (copiedBack.length.symm ▸ later) nonempty index stop.le, isCopied]
      exact positions_copyBack_inner endsKept.length inside start stop
    · intro call isLater index start stop
      rw [← sameSlice call isLater]
      exact run.inner succeeds call isLater index start stop

theorem RunOver.of_failed
    {rest : List PathSegment}
    {outcome : SmootherEnd × Path K Q}
    (isLong : minimumPoints < segment.stop - segment.start)
    (failed :
      (smoothSegment true i (slice path segment)).1 ≠ .succeeded)
    (fails : outcome.1 ≠ .succeeded) :
    RunOver minimumPoints smoothSegment (segment :: rest) i path outcome where
  succeeded := by
    refine iff_of_false fails fun allSucceed => failed ?_
    refine allSucceed (segment, i) ?_
    rw [longSegments_cons, if_pos isLong]
    exact List.mem_cons_self ..
  inner succeeds := absurd succeeds fails

theorem runOver_smoothSegments
    (keepsEnds : ∀ success i poses,
      KeepsEnds poses (smoothSegment success i poses).2)
    {first : Nat}
    (i : Nat)
    (divides : Divides first segments (path.length - 1)) :
    RunOver minimumPoints smoothSegment segments i path
      (smoothSegments minimumPoints smoothSegment i segments true path) := by
  induction segments generalizing first i path with
  | nil =>
      exact
        { succeeded := iff_of_true rfl (fun _ isLong => by cases isLong)
          inner := fun _ _ isLong => by cases isLong }
  | cons segment rest inductionHypothesis =>
      obtain ⟨rfl, rising, later⟩ := divides
      rw [smoothSegments]
      dsimp only
      by_cases isLong : minimumPoints < segment.stop - segment.start
      · rw [if_pos isLong]
        by_cases success :
          (smoothSegment true i (slice path segment)).1 = .succeeded
        · have inside : segment.stop < path.length := by
            have := later.le
            omega
          have copied := (keepsEnds true i (slice path segment)).copiedBack
            rising inside
          rw [if_neg (by rw [success]; rintro ⟨⟩), Bool.true_and,
            decide_eq_true success]
          exact .of_succeeded keepsEnds i isLong rising later success rfl
            (inductionHypothesis (i + 1) (copied.length.symm ▸ later))
        · rw [decide_eq_false success, Bool.and_false]
          apply RunOver.of_failed isLong success
          split
          · rintro ⟨⟩
          · exact smoothSegments_not_succeeded (i + 1)
      · rw [if_neg isLong]
        have run := inductionHypothesis (i + 1) later
        have cons : longSegments minimumPoints (segment :: rest) i =
            longSegments minimumPoints rest (i + 1) := by
          rw [longSegments_cons, if_neg isLong]
        exact
          { succeeded := by rw [cons]; exact run.succeeded
            inner := by rw [cons]; exact run.inner }

end SmootherUtils

open SmootherUtils

section Result

variable
  {K Q : Type}
  [Field K]
  [LinearOrder K]
  [FloorRing K]

/-- The position is in a cell without an obstacle. -/
def InFreeCell
    (costmap : Costmap2D K)
    (position : Position K) : Prop :=
  ∃ mx my, costmap.worldToMap (position.x, position.y) = some (mx, my) ∧
    (costmap.getCost mx my ≤ maxNonObstacle ∨
      costmap.getCost mx my = noInformation)

/-- The position is in some cell. -/
def InMap
    (costmap : Costmap2D K)
    (position : Position K) : Prop :=
  (costmap.worldToMap (position.x, position.y)).isSome

namespace SavitzkyGolaySmoother

variable
  {smoother : SavitzkyGolaySmoother K}
  {angles : Angles K Q}
  {costmap : Costmap2D K}
  {timeUp : Nat → Bool}
  {path : Path K Q}

/-- The segments of the path that are smoothed, each with its number. -/
def smoothedSegments
    (smoother : SavitzkyGolaySmoother K)
    (angles : Angles K Q)
    (path : Path K Q) : List (PathSegment × Nat) :=
  longSegments (smoother.windowSize + 2)
    (pathSegments angles smoother.enforcePathInversion path) 0

/-- The poses of a segment after some passes of the filter. -/
def afterPasses
    (smoother : SavitzkyGolaySmoother K)
    (passes : Nat)
    (poses : Path K Q) : Path K Q :=
  (smoother.applyFilterOverAxes)^[passes] poses

/-- The result has the length and the ends of the path, and the inner poses of
each smoothed segment are in free cells. -/
structure CollisionFree
    (costmap : Costmap2D K)
    (segments : List (PathSegment × Nat))
    (path result : Path K Q) : Prop where
  length : result.length = path.length
  first : (positions result).head? = (positions path).head?
  last : (positions result).getLast? = (positions path).getLast?
  inner :
    ∀ call ∈ segments,
      ∀ index, call.1.start < index → index < call.1.stop →
        ∀ position ∈ (positions result)[index]?, InFreeCell costmap position

/-- The smoother gives a segment up: the time is up, or a pose is in collision
after one of the passes. -/
def GivesUp
    (smoother : SavitzkyGolaySmoother K)
    (costmap : Costmap2D K)
    (timeUp : Nat → Bool)
    (path : Path K Q)
    (call : PathSegment × Nat) : Prop :=
  timeUp call.2 = true ∨
    ∃ passes < smoother.passes,
      collides costmap
        (smoother.afterPasses (passes + 1) (slice path call.1)) = true

/-- The last pass leaves the inner poses of a segment inside of the map. -/
def StaysInMap
    (smoother : SavitzkyGolaySmoother K)
    (costmap : Costmap2D K)
    (path : Path K Q)
    (call : PathSegment × Nat) : Prop :=
  ∀ pose ∈ (smoother.afterPasses smoother.passes
      (slice path call.1)).dropLast.drop 1,
    InMap costmap pose.position

/-- A segment is filtered exactly if no pass leads to a collision. -/
theorem filtered_eq_some_iff
    {passes : Nat}
    {poses result : Path K Q} :
    smoother.filtered costmap passes poses = some result ↔
      smoother.afterPasses passes poses = result ∧
        ∀ earlier < passes,
          collides costmap (smoother.afterPasses (earlier + 1) poses) =
            false := by
  induction passes generalizing poses with
  | zero =>
      rw [filtered, Option.some_inj]
      exact (and_iff_left fun _ isEarlier => by cases isEarlier).symm
  | succ passes inductionHypothesis =>
      rw [filtered]
      split
      · case isTrue isCollision =>
        refine iff_of_false (by rintro ⟨⟩) ?_
        rintro ⟨-, noCollision⟩
        have first := noCollision 0 passes.succ_pos
        rw [afterPasses, Function.iterate_one, isCollision] at first
        exact Bool.noConfusion first
      · case isFalse noCollision =>
        rw [inductionHypothesis]
        refine and_congr_right fun _ => ?_
        rw [Nat.forall_lt_succ_left]
        exact (and_iff_right (Bool.eq_false_of_not_eq_true noCollision)).symm

theorem smoothSegment_succeeded_iff
    (call : PathSegment × Nat) :
    (smoother.smoothSegment angles costmap timeUp true call.2
        (slice path call.1)).1 = .succeeded ↔
      ¬smoother.GivesUp costmap timeUp path call := by
  rw [smoothSegment, GivesUp, not_or]
  by_cases isTimeUp : timeUp call.2 = true
  · rw [if_pos isTimeUp]
    exact iff_of_false (by rintro ⟨⟩) fun runs => runs.1 isTimeUp
  · rw [if_neg isTimeUp, if_pos rfl, smoothImpl, and_iff_right isTimeUp]
    push Not
    simp only [ne_eq, Bool.not_eq_true]
    split
    · case h_1 smoothed isFiltered =>
      exact iff_of_true rfl (filtered_eq_some_iff.mp isFiltered).2
    · case h_2 notFiltered =>
      refine iff_of_false (by rintro ⟨⟩) fun noCollision => ?_
      have isFiltered := filtered_eq_some_iff.mpr ⟨rfl, noCollision⟩
      cases isFiltered.symm.trans notFiltered

theorem positions_smoothSegment
    (accepted : ¬smoother.GivesUp costmap timeUp path call) :
    positions (smoother.smoothSegment angles costmap timeUp true call.2
        (slice path call.1)).2 =
      positions (smoother.afterPasses smoother.passes
        (slice path call.1)) := by
  rw [GivesUp, not_or] at accepted
  push Not at accepted
  obtain ⟨notUp, noCollision⟩ := accepted
  have isFiltered : smoother.filtered costmap smoother.passes
      (slice path call.1) = some (smoother.afterPasses smoother.passes
        (slice path call.1)) := by
    refine filtered_eq_some_iff.mpr ⟨rfl, fun earlier isEarlier => ?_⟩
    exact Bool.eq_false_of_not_eq_true (noCollision earlier isEarlier)
  rw [smoothSegment, if_neg notUp, if_pos rfl, smoothImpl, isFiltered]
  exact positions_updateApproximatePathOrientations angles _

theorem inFreeCell_iff_inMap
    {pose : Pose K Q}
    (noCollision : inCollision costmap pose = false) :
    InFreeCell costmap pose.position ↔ InMap costmap pose.position := by
  rw [InFreeCell, InMap, Option.isSome_iff_exists]
  rw [inCollision] at noCollision
  constructor
  · rintro ⟨mx, my, isCell, -⟩
    exact ⟨(mx, my), isCell⟩
  · rintro ⟨⟨mx, my⟩, isCell⟩
    rw [isCell] at noCollision
    simp only [Bool.and_eq_false_iff, decide_eq_false_iff_not,
      not_not] at noCollision
    exact ⟨mx, my, isCell, noCollision.imp_left UInt8.not_lt.mp⟩

omit [LinearOrder K] [FloorRing K] in
theorem length_afterPasses
    (passes : Nat)
    (poses : Path K Q) :
    (smoother.afterPasses passes poses).length = poses.length := by
  induction passes generalizing poses with
  | zero =>
      rfl
  | succ passes inductionHypothesis =>
      exact (inductionHypothesis _).trans List.length_mapIdx

/-- The result is collision free in a segment that is not given up exactly if
the segment stays in the map. -/
theorem inner_iff_staysInMap
    (inside : call.1.stop < path.length)
    (accepted : ¬smoother.GivesUp costmap timeUp path call)
    {result : Path K Q}
    (inner :
      ∀ index, call.1.start < index → index < call.1.stop →
        (positions result)[index]? =
          (positions (smoother.smoothSegment angles costmap timeUp true call.2
            (slice path call.1)).2)[index - call.1.start]?) :
    (∀ index, call.1.start < index → index < call.1.stop →
      ∀ position ∈ (positions result)[index]?, InFreeCell costmap position) ↔
        smoother.StaysInMap costmap path call := by
  have size : (smoother.afterPasses smoother.passes
      (slice path call.1)).length = call.1.stop + 1 - call.1.start :=
    (length_afterPasses _ _).trans (length_slice inside)
  have sameSegment : positions (smoother.smoothSegment angles costmap timeUp
      true call.2 (slice path call.1)).2 = _ :=
    positions_smoothSegment accepted
  rw [GivesUp, not_or] at accepted
  push Not at accepted
  rw [StaysInMap]
  generalize isLast : smoother.afterPasses smoother.passes
    (slice path call.1) = last at size sameSegment
  have noCollision : collides costmap last = false := by
    have lastPass : smoother.passes = (smoother.passes - 1) + 1 := by
      rw [passes, Nat.add_comm]
      rfl
    have := accepted.2 (smoother.passes - 1) (by omega)
    rw [← lastPass, isLast] at this
    exact Bool.eq_false_of_not_eq_true this
  rw [collides, List.any_eq_false] at noCollision
  have inFreeCell_iff : ∀ pose ∈ last.dropLast.drop 1,
      (InFreeCell costmap pose.position ↔ InMap costmap pose.position) :=
    fun pose isInner => inFreeCell_iff_inMap
      (Bool.eq_false_of_not_eq_true (noCollision pose isInner))
  constructor
  · intro free pose isInner
    rw [← inFreeCell_iff pose isInner]
    obtain ⟨index, first, beforeLast, isPose⟩ := mem_inner_iff.mp isInner
    refine free (call.1.start + index) (by omega) (by omega) pose.position ?_
    rw [inner _ (by omega) (by omega), sameSegment, Nat.add_sub_cancel_left,
      positions, List.getElem?_map, isPose]
    rfl
  · intro inMap index start stop position isPosition
    rw [inner index start stop, sameSegment, positions, List.getElem?_map,
      Option.mem_def, Option.map_eq_some_iff] at isPosition
    obtain ⟨pose, isPose, rfl⟩ := isPosition
    have isInner : pose ∈ last.dropLast.drop 1 :=
      mem_inner_iff.mpr ⟨index - call.1.start, by omega, by omega, isPose⟩
    exact (inFreeCell_iff pose isInner).mpr (inMap pose isInner)

/-- What the smoother accepts is collision free exactly if the last pass stays
inside of the map in all segments, or the smoother gives some segment up. -/
theorem smooth_collisionFree_iff
    (smoother : SavitzkyGolaySmoother K)
    (angles : Angles K Q)
    (costmap : Costmap2D K)
    (timeUp : Nat → Bool)
    (path : Path K Q) :
    ((smoother.smooth angles costmap timeUp path).1 = .succeeded →
      CollisionFree costmap (smoother.smoothedSegments angles path) path
        (smoother.smooth angles costmap timeUp path).2) ↔
      (∃ call ∈ smoother.smoothedSegments angles path,
        smoother.GivesUp costmap timeUp path call) ∨
      ∀ call ∈ smoother.smoothedSegments angles path,
        smoother.StaysInMap costmap path call := by
  have keepsEnds := smoother.keepsEnds_smoothSegment angles costmap timeUp
  have divides : Divides 0
      (pathSegments angles smoother.enforcePathInversion path)
      (path.length - 1) :=
    divides_pathSegments _
  have run : RunOver (smoother.windowSize + 2)
      (smoother.smoothSegment angles costmap timeUp)
      (pathSegments angles smoother.enforcePathInversion path) 0 path
      (smoother.smooth angles costmap timeUp path) :=
    runOver_smoothSegments keepsEnds 0 divides
  have ends : KeepsEnds path (smoother.smooth angles costmap timeUp path).2 :=
    keepsEnds_smoothSegments keepsEnds 0 true divides
  have succeeded := run.succeeded
  simp only [smoothSegment_succeeded_iff] at succeeded
  rw [← smoothedSegments] at succeeded
  by_cases givesUp : ∃ call ∈ smoother.smoothedSegments angles path,
      smoother.GivesUp costmap timeUp path call
  · refine iff_of_true (fun isSuccess => ?_) (.inl givesUp)
    obtain ⟨call, isSegment, isGivenUp⟩ := givesUp
    exact absurd isGivenUp (succeeded.mp isSuccess call isSegment)
  · rw [or_iff_right givesUp]
    push Not at givesUp
    have isSuccess := succeeded.mpr givesUp
    rw [imp_iff_right isSuccess]
    have iffs := fun call isSegment => inner_iff_staysInMap
      (stop_lt_of_longSegments divides isSegment)
      (givesUp call isSegment) (run.inner isSuccess call isSegment)
    constructor
    · intro free call isSegment
      exact (iffs call isSegment).mp (free.inner call isSegment)
    · intro stays
      exact
        { length := ends.length
          first := ends.first
          last := by
            rw [positions, positions, List.getLast?_map, List.getLast?_map,
              ends.last]
          inner := fun call isSegment =>
            (iffs call isSegment).mpr (stays call isSegment) }

section Samples

/-- The smoother with the window of seven points for cubic polynomials. -/
def cubicSmoother : SavitzkyGolaySmoother ℚ where
  halfWindowSize := 3
  sgCoeffs := fun j =>
    ([-2, 3, 6, 7, 6, 3, -2] : List ℚ).getD j 0 / 21
  doRefinement := true
  refinementNum := 2
  enforcePathInversion := true

/-- A path down to the border of the map, and along it. -/
def borderPath : Path ℚ Unit :=
  [planePose 0 3, planePose 0 2, planePose 0 1, planePose 0 0, planePose 1 0,
    planePose 2 0, planePose 3 0, planePose 4 0, planePose 5 0, planePose 6 0,
    planePose 7 0, planePose 8 0]

/-- Filtering leads out of the map, and the smoother accepts it. -/
theorem borderPath_leaves_map :
    ¬((cubicSmoother.smooth noAngles freeCostmap (fun _ => false)
          borderPath).1 = .succeeded →
      CollisionFree freeCostmap
        (cubicSmoother.smoothedSegments noAngles borderPath) borderPath
        (cubicSmoother.smooth noAngles freeCostmap (fun _ => false)
          borderPath).2) := by
  intro collisionFree
  have succeeds : (cubicSmoother.smooth noAngles freeCostmap (fun _ => false)
      borderPath).1 = .succeeded := by
    decide +kernel
  have isSegment : (⟨0, 11⟩, 0) ∈
      cubicSmoother.smoothedSegments noAngles borderPath := by
    decide +kernel
  have outside : ∃ position ∈ (positions (cubicSmoother.smooth noAngles
      freeCostmap (fun _ => false) borderPath).2)[5]?,
        freeCostmap.worldToMap (position.x, position.y) = none := by
    decide +kernel
  obtain ⟨position, isPosition, isOutside⟩ := outside
  obtain ⟨mx, my, isCell, -⟩ := (collisionFree succeeds).inner _ isSegment 5
    (by decide) (by decide) position isPosition
  exact nomatch isOutside.symm.trans isCell

end Samples

end SavitzkyGolaySmoother

end Result

end NavBim
