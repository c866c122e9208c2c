import Mathlib
import NavBim.Numerals
import NavBim.SimpleSmoother

namespace NavBim

/-!
# Where the simple smoother moves a path

An update moves a pose to a free place or lets it stay in the plane, and no
update moves the ends.  Both hold of every path between two updates, so it does
not matter where smoothing ends.

A rejected update restores `x` and `y` but not the height.
-/

open SmootherUtils

attribute [local instance] atLeastTwo_2

section Guarded

variable
  {K : Type}
  [Field K]
  [LinearOrder K]
  [FloorRing K]

/-- The position is in a cell that is free or nothing is known about. -/
def Admissible
    (costmap : Costmap2D K)
    (position : Position K) : Prop :=
  ∃ mx my, costmap.worldToMap (position.x, position.y) = some (mx, my) ∧
    (costmap.getCost mx my < inscribedInflatedObstacle ∨
      costmap.getCost mx my = noInformation)

/-- The ends are where they were, and each other position is where it was in
the plane or is admissible. -/
structure Guarded
    (costmap : Costmap2D K)
    (before after : List (Position K)) : Prop where
  length : after.length = before.length
  first : after.head? = before.head?
  last : after.getLast? = before.getLast?
  waypoints :
    ∀ (i : Nat), ∀ old ∈ before[i]?, ∀ new ∈ after[i]?,
      (new.x = old.x ∧ new.y = old.y) ∨ Admissible costmap new

variable
  {costmap : Costmap2D K}
  {before middle after : List (Position K)}

/-- Whether a position is admissible depends on the plane only. -/
theorem Admissible.congr
    {position other : Position K}
    (admissible : Admissible costmap position)
    (sameX : other.x = position.x)
    (sameY : other.y = position.y) :
    Admissible costmap other := by
  rw [Admissible, sameX, sameY]
  exact admissible

theorem Guarded.refl
    (positions : List (Position K)) :
    Guarded costmap positions positions where
  length := rfl
  first := rfl
  last := rfl
  waypoints i old isOld new isNew := by
    obtain rfl := Option.some.inj (isOld.symm.trans isNew)
    exact .inl ⟨rfl, rfl⟩

theorem Guarded.trans
    (earlier : Guarded costmap before middle)
    (later : Guarded costmap middle after) :
    Guarded costmap before after where
  length := later.length.trans earlier.length
  first := later.first.trans earlier.first
  last := later.last.trans earlier.last
  waypoints i old isOld new isNew := by
    have inMiddle : i < middle.length := by
      rw [← later.length]
      exact (List.getElem?_eq_some_iff.mp isNew).choose
    have isMiddle := List.getElem?_eq_getElem inMiddle
    cases later.waypoints i _ isMiddle new isNew with
    | inr admissible =>
        exact .inr admissible
    | inl same =>
        cases earlier.waypoints i old isOld _ isMiddle with
        | inl unmoved =>
            exact .inl ⟨same.1.trans unmoved.1, same.2.trans unmoved.2⟩
        | inr admissible =>
            exact .inr (admissible.congr same.1 same.2)

/-- An inner position may move to an admissible place. -/
theorem Guarded.set
    {i : Nat}
    {old new : Position K}
    (isOld : before[i]? = some old)
    (notFirst : 0 < i)
    (notLast : i + 1 < before.length)
    (moved : (new.x = old.x ∧ new.y = old.y) ∨ Admissible costmap new) :
    Guarded costmap before (before.set i new) where
  length := List.length_set
  first := by
    rw [List.head?_eq_getElem?, List.getElem?_set_ne (Nat.ne_of_gt notFirst),
      List.head?_eq_getElem?]
  last := by
    rw [List.getLast?_eq_getElem?, List.length_set,
      List.getElem?_set_ne (by omega), List.getLast?_eq_getElem?]
  waypoints index other isOther result isResult := by
    by_cases same : i = index
    · obtain rfl := same
      obtain rfl := Option.some.inj (isOld.symm.trans isOther)
      have written : (before.set i new)[i]? = some new :=
        List.getElem?_set_self (Nat.lt_of_succ_lt notLast)
      obtain rfl := Option.some.inj (written.symm.trans isResult)
      exact moved
    · have kept : before[index]? = some result := by
        rw [← List.getElem?_set_ne same]
        exact isResult
      obtain rfl := Option.some.inj (isOther.symm.trans kept)
      exact .inl ⟨rfl, rfl⟩

theorem Guarded.copyBack
    {segment : PathSegment}
    (rising : segment.start ≤ segment.stop)
    (inside : segment.stop < before.length)
    (guarded : Guarded costmap (slice before segment) after) :
    Guarded costmap before (copyBack before segment.start after) := by
  have size : after.length = segment.stop + 1 - segment.start :=
    guarded.length.trans (length_slice inside)
  have fits : segment.start + after.length ≤ before.length := by omega
  have whole : (SmootherUtils.copyBack before segment.start after).length =
      before.length :=
    length_copyBack fits
  have inSegment : ∀ index, segment.start ≤ index → index ≤ segment.stop →
      (slice before segment)[index - segment.start]? = before[index]? := by
    intro index start stop
    rw [getElem?_slice (by omega), Nat.add_sub_of_le start]
  have unmoved : ∀ index,
      (segment.start ≤ index → index ≤ segment.stop →
        after[index - segment.start]? =
          (slice before segment)[index - segment.start]?) →
      (SmootherUtils.copyBack before segment.start after)[index]? =
        before[index]? := by
    intro index same
    rw [getElem?_copyBack fits]
    split
    · case isTrue within =>
      have stop : index ≤ segment.stop := by omega
      exact (same within.1 stop).trans (inSegment index within.1 stop)
    · rfl
  refine ⟨whole, ?_, ?_, fun index old isOld new isNew => ?_⟩
  · rw [List.head?_eq_getElem?, List.head?_eq_getElem?]
    refine unmoved 0 fun start _ => ?_
    rw [Nat.le_zero.mp start, ← List.head?_eq_getElem?,
      ← List.head?_eq_getElem?]
    exact guarded.first
  · rw [List.getLast?_eq_getElem?, List.getLast?_eq_getElem?, whole]
    refine unmoved (before.length - 1) fun _ stop => ?_
    -- the segment ends where the path ends
    have last : before.length - 1 - segment.start = after.length - 1 := by
      omega
    rw [last, ← List.getLast?_eq_getElem?, guarded.last,
      List.getLast?_eq_getElem?, guarded.length]
  · rw [getElem?_copyBack fits] at isNew
    split at isNew
    · case isTrue within =>
      exact guarded.waypoints (index - segment.start) old
        ((inSegment index within.1 (by omega)).trans isOld) new isNew
    · obtain rfl := Option.some.inj (isOld.symm.trans isNew)
      exact .inl ⟨rfl, rfl⟩

end Guarded

namespace SimpleSmoother

variable
  {K Q : Type}
  [Field K]
  [LinearOrder K]
  [FloorRing K]
  {smoother : SimpleSmoother K}
  {angles : Angles K Q}
  {costmap : Costmap2D K}
  {path : Path K Q}

theorem admissible_of_not_isObstacle
    {position : Position K}
    (free : isObstacle (costAt costmap position) = false) :
    Admissible costmap position := by
  rw [costAt] at free
  cases mapped : costmap.worldToMap (position.x, position.y) with
  | none =>
      rw [mapped] at free
      have obstacle : isObstacle lethalObstacle = true := by decide
      exact nomatch obstacle.symm.trans free
  | some cell =>
      rw [mapped, isObstacle, Bool.and_eq_false_iff] at free
      refine ⟨cell.1, cell.2, mapped, ?_⟩
      cases free with
      | inl low =>
          exact .inl (UInt8.not_le.mp (of_decide_eq_false low))
      | inr unknown =>
          exact .inr (not_not.mp (of_decide_eq_false unknown))

theorem updateWaypoint_result
    (smoother : SimpleSmoother K)
    (costmap : Costmap2D K)
    (neighborhood : Neighborhood K) :
    ((smoother.updateWaypoint costmap neighborhood).result.x =
        neighborhood.current.x ∧
      (smoother.updateWaypoint costmap neighborhood).result.y =
        neighborhood.current.y) ∨
      Admissible costmap
        (smoother.updateWaypoint costmap neighborhood).result := by
  rw [updateWaypoint]
  cases collides : isObstacle
      (costAt costmap (smoother.smoothedPosition neighborhood)) with
  | true =>
      exact .inl ⟨rfl, rfl⟩
  | false =>
      exact .inr (admissible_of_not_isObstacle collides)

/-- What happens to a path: an inner waypoint is updated, or the orientations
are. -/
inductive Edited
    (smoother : SimpleSmoother K)
    (angles : Angles K Q)
    (costmap : Costmap2D K) :
    Path K Q → Path K Q → Prop where
  | update
      {path : Path K Q}
      {i : Nat}
      {waypoint : Pose K Q}
      (neighborhood : Neighborhood K)
      (isWaypoint : path[i]? = some waypoint)
      (hasBefore : 0 < i)
      (hasNext : i + 1 < path.length)
      (current : neighborhood.current = waypoint.position) :
      Edited smoother angles costmap path (path.set i
        { waypoint with
          position := (smoother.updateWaypoint costmap neighborhood).result })
  | align
      (path : Path K Q) :
      Edited smoother angles costmap path
        (updateApproximatePathOrientations angles path)

open Relation in
/-- All edits from one path to another one. -/
abbrev Edits
    (smoother : SimpleSmoother K)
    (angles : Angles K Q)
    (costmap : Costmap2D K) :
    Path K Q → Path K Q → Prop :=
  ReflTransGen (Edited smoother angles costmap)

theorem edits_smoothWaypoints
    (angles : Angles K Q)
    (lastPath : Path K Q)
    (count : Nat) :
    Edits smoother angles costmap lastPath
      (smoother.smoothWaypoints costmap path lastPath count).newPath := by
  induction count with
  | zero =>
      exact .refl
  | succ count inductionHypothesis =>
      rw [smoothWaypoints]
      cases smoother.smoothWaypoint_cases costmap path
          (smoother.smoothWaypoints costmap path lastPath count) (count + 1) with
      | inl unchanged =>
          rw [unchanged]
          exact inductionHypothesis
      | inr changed =>
          obtain ⟨waypoint, neighborhood, updated⟩ := changed
          rw [updated.newPath]
          exact inductionHypothesis.tail
            (.update neighborhood updated.isWaypoint (Nat.succ_pos count)
              updated.hasNext updated.current)

theorem edits_smoothLoop
    (angles : Angles K Q)
    (timeUp : Nat → Bool)
    (remaining its : Nat)
    (lastPath : Path K Q) :
    Edits smoother angles costmap lastPath
      (smoother.smoothLoop costmap timeUp path remaining its lastPath).path := by
  induction remaining generalizing its lastPath with
  | zero =>
      exact .refl
  | succ remaining inductionHypothesis =>
      have pass : Edits smoother angles costmap lastPath
          (smoother.smoothPass costmap path lastPath).newPath :=
        edits_smoothWaypoints angles lastPath _
      rw [smoothLoop]
      dsimp only
      split
      · exact .refl
      · split
        · exact .refl
        · split
          · exact pass.trans (inductionHypothesis _ _)
          · exact pass

/-- Wherever smoothing ends, only edits have led there. -/
theorem edits_smoothImpl
    (timeUp : Nat → Nat → Bool)
    (refinements refinementCtr : Nat)
    (path : Path K Q) :
    Edits smoother angles costmap path
      (smoother.smoothImpl angles costmap timeUp refinements refinementCtr
        path).path := by
  induction refinements generalizing refinementCtr path with
  | zero =>
      rw [smoothImpl]
      exact (edits_smoothLoop angles _ _ _ _).tail (.align _)
  | succ refinements inductionHypothesis =>
      have looped : Edits smoother angles costmap path
          (smoother.smoothLoop costmap (timeUp refinementCtr) path
            smoother.iterations 1 path).path :=
        edits_smoothLoop angles _ _ _ _
      rw [smoothImpl]
      dsimp only
      split
      · split
        · exact (looped.trans (inductionHypothesis _ _)).tail (.align _)
        · exact .refl
      · exact looped.tail (.align _)

variable {poses : Path K Q}

theorem Edited.guarded
    (edited : Edited smoother angles costmap path poses) :
    Guarded costmap (positions path) (positions poses) := by
  cases edited with
  | update neighborhood isWaypoint hasBefore hasNext current =>
      rename_i i waypoint
      have isOld : (positions path)[i]? = some neighborhood.current := by
        rw [positions, List.getElem?_map, isWaypoint, current]
        rfl
      have notLast : i + 1 < (positions path).length := by
        rw [positions, List.length_map]
        exact hasNext
      rw [positions_set]
      exact Guarded.set isOld hasBefore notLast
        (updateWaypoint_result smoother costmap neighborhood)
  | align =>
      rw [positions_updateApproximatePathOrientations]
      exact .refl _

theorem guarded_of_edits
    (edits : Edits smoother angles costmap path poses) :
    Guarded costmap (positions path) (positions poses) := by
  induction edits with
  | refl =>
      exact .refl _
  | tail _ edited inductionHypothesis =>
      exact inductionHypothesis.trans edited.guarded

/-- The last pose stays as it is. -/
theorem getLast?_of_edits
    (edits : Edits smoother angles costmap path poses) :
    poses.getLast? = path.getLast? := by
  induction edits with
  | refl =>
      rfl
  | tail _ edited inductionHypothesis =>
      rw [← inductionHypothesis]
      cases edited with
      | update _ _ _ hasNext _ =>
          rw [List.getLast?_eq_getElem?, List.length_set,
            List.getElem?_set_ne (by omega), List.getLast?_eq_getElem?]
      | align =>
          exact getLast?_updateApproximatePathOrientations angles _

/-- A rejected update leaves the waypoint where it was. -/
def Restored
    (update : WaypointUpdate K) : Prop :=
  update.rejected = true → update.result = update.neighborhood.current

instance decidableRestored
    (update : WaypointUpdate K) :
    Decidable (Restored update) :=
  inferInstanceAs (Decidable (_ → _))

/-- If the new position of a waypoint is in collision, its new height is the
old one. -/
def KeepsHeight
    (smoother : SimpleSmoother K)
    (costmap : Costmap2D K)
    (neighborhood : Neighborhood K) : Prop :=
  isObstacle (costAt costmap (smoother.smoothedPosition neighborhood)) = true →
    smoother.dataW * (neighborhood.planned.z - neighborhood.current.z) +
      smoother.smoothW * (neighborhood.after.z + neighborhood.before.z -
        2 * neighborhood.current.z) = 0

theorem restored_updateWaypoint
    (neighborhood : Neighborhood K) :
    Restored (smoother.updateWaypoint costmap neighborhood) ↔
      smoother.KeepsHeight costmap neighborhood := by
  rw [updateWaypoint, KeepsHeight]
  cases collides : isObstacle
      (costAt costmap (smoother.smoothedPosition neighborhood)) with
  | false =>
      exact iff_of_true (fun rejected => nomatch rejected)
        (fun collides => nomatch collides)
  | true =>
      have height : smoother.smoothedField neighborhood .z =
          neighborhood.current.z ↔ _ :=
        add_eq_left
      constructor
      · intro restored _
        exact height.mp (congrArg Position.z (restored rfl))
      · intro level _
        have same := height.mpr (level rfl)
        obtain ⟨planned, before, ⟨x, y, z⟩, after⟩ := neighborhood
        exact congrArg (Position.mk x y) same

/-- The updates are what the code does with the waypoints. -/
def Recorded
    (smoother : SimpleSmoother K)
    (costmap : Costmap2D K)
    (updates : List (WaypointUpdate K)) : Prop :=
  ∀ update ∈ updates,
    update = smoother.updateWaypoint costmap update.neighborhood

theorem Recorded.append
    {earlier later : List (WaypointUpdate K)}
    (first : Recorded smoother costmap earlier)
    (second : Recorded smoother costmap later) :
    Recorded smoother costmap (earlier ++ later) := by
  intro update isMember
  cases List.mem_append.mp isMember with
  | inl isEarlier =>
      exact first update isEarlier
  | inr isLater =>
      exact second update isLater

theorem recorded_nil :
    Recorded smoother costmap [] :=
  fun _ isMember => nomatch isMember

theorem recorded_updateWaypoint
    (neighborhood : Neighborhood K) :
    Recorded smoother costmap
      [smoother.updateWaypoint costmap neighborhood] := by
  intro update isMember
  obtain rfl := List.mem_singleton.mp isMember
  have same : (smoother.updateWaypoint costmap neighborhood).neighborhood =
      neighborhood := by
    rw [updateWaypoint]
    split
    · rfl
    · rfl
  rw [same]

theorem recorded_smoothWaypoints
    (lastPath : Path K Q)
    (count : Nat) :
    Recorded smoother costmap
      (smoother.smoothWaypoints costmap path lastPath count).updates := by
  induction count with
  | zero =>
      exact recorded_nil
  | succ count inductionHypothesis =>
      rw [smoothWaypoints]
      cases smoother.smoothWaypoint_cases costmap path
          (smoother.smoothWaypoints costmap path lastPath count) (count + 1) with
      | inl unchanged =>
          rw [unchanged]
          exact inductionHypothesis
      | inr changed =>
          obtain ⟨waypoint, neighborhood, updated⟩ := changed
          rw [updated.updates]
          exact inductionHypothesis.append
            (recorded_updateWaypoint neighborhood)

theorem recorded_smoothLoop
    (timeUp : Nat → Bool)
    (remaining its : Nat)
    (lastPath : Path K Q) :
    Recorded smoother costmap
      (smoother.smoothLoop costmap timeUp path remaining its
        lastPath).updates := by
  induction remaining generalizing its lastPath with
  | zero =>
      exact recorded_nil
  | succ remaining inductionHypothesis =>
      have pass : Recorded smoother costmap
          (smoother.smoothPass costmap path lastPath).updates :=
        recorded_smoothWaypoints lastPath _
      rw [smoothLoop]
      dsimp only
      split
      · exact recorded_nil
      · split
        · exact pass
        · split
          · exact pass.append (inductionHypothesis _ _)
          · exact pass

theorem recorded_smoothImpl
    (timeUp : Nat → Nat → Bool)
    (refinements refinementCtr : Nat)
    (path : Path K Q) :
    Recorded smoother costmap
      (smoother.smoothImpl angles costmap timeUp refinements refinementCtr
        path).updates := by
  induction refinements generalizing refinementCtr path with
  | zero =>
      rw [smoothImpl]
      exact recorded_smoothLoop _ _ _ _
  | succ refinements inductionHypothesis =>
      have looped : Recorded smoother costmap
          (smoother.smoothLoop costmap (timeUp refinementCtr) path
            smoother.iterations 1 path).updates :=
        recorded_smoothLoop _ _ _ _
      rw [smoothImpl]
      dsimp only
      split
      · split
        · exact looped.append (inductionHypothesis _ _)
        · exact looped.append (inductionHypothesis _ _)
      · exact looped

/-- In all passes, rejected updates are undone exactly when those that end in a
collision would not change the height. -/
theorem restored_iff_keepsHeight
    (smoother : SimpleSmoother K)
    (angles : Angles K Q)
    (costmap : Costmap2D K)
    (timeUp : Nat → Nat → Bool)
    (refinements refinementCtr : Nat)
    (path : Path K Q) :
    (∀ update ∈ (smoother.smoothImpl angles costmap timeUp refinements
        refinementCtr path).updates, Restored update) ↔
      ∀ update ∈ (smoother.smoothImpl angles costmap timeUp refinements
        refinementCtr path).updates,
        smoother.KeepsHeight costmap update.neighborhood := by
  have recorded : Recorded smoother costmap (smoother.smoothImpl angles
      costmap timeUp refinements refinementCtr path).updates :=
    recorded_smoothImpl timeUp refinements refinementCtr path
  refine forall₂_congr fun update isMember => ?_
  rw [← restored_updateWaypoint, ← recorded update isMember]

end SimpleSmoother

theorem guarded_smoothSegments
    {K Q : Type}
    [Field K]
    [LinearOrder K]
    [FloorRing K]
    {costmap : Costmap2D K}
    {minimumPoints : Nat}
    {smoothSegment : Bool → Nat → Path K Q → SmootherEnd × Path K Q}
    (guards : ∀ success i poses, Guarded costmap (positions poses)
      (positions (smoothSegment success i poses).2))
    {segments : List PathSegment}
    {first i : Nat}
    {success : Bool}
    {path : Path K Q}
    (divides : Divides first segments (path.length - 1))
    (nonempty : 0 < path.length) :
    Guarded costmap (positions path)
      (positions (smoothSegments minimumPoints smoothSegment i segments success
        path).2) := by
  induction segments generalizing first i success path with
  | nil =>
      exact .refl _
  | cons segment rest inductionHypothesis =>
      obtain ⟨rfl, rising, later⟩ := divides
      rw [smoothSegments]
      dsimp only
      split
      · split
        · exact .refl _
        · have inside : segment.stop < (positions path).length := by
            have := later.le
            rw [positions, List.length_map]
            omega
          have guarded := guards success i (slice path segment)
          rw [positions_slice] at guarded
          have copied := guarded.copyBack rising inside
          rw [← positions_copyBack] at copied
          have size : (copyBack path segment.start
              (smoothSegment success i (slice path segment)).2).length =
                path.length := by
            have := copied.length
            rw [positions, positions, List.length_map, List.length_map] at this
            exact this
          have divided : Divides segment.stop rest
              ((copyBack path segment.start
                (smoothSegment success i (slice path segment)).2).length -
                  1) := by
            rw [size]
            exact later
          exact copied.trans
            (inductionHypothesis divided (size.symm ▸ nonempty))
      · exact inductionHypothesis later nonempty

/-- However smoothing ends, each pose of the path is where it was in the plane
or in a free place, and the ends have not moved. -/
theorem SimpleSmoother.smooth_guarded
    {K Q : Type}
    [Field K]
    [LinearOrder K]
    [FloorRing K]
    (smoother : SimpleSmoother K)
    (angles : Angles K Q)
    (costmap : Costmap2D K)
    (timeUp : Nat → Nat → Nat → Bool)
    (path : Path K Q)
    (nonempty : 0 < path.length) :
    Guarded costmap (positions path)
      (positions (smoother.smooth angles costmap timeUp path).2) :=
  guarded_smoothSegments
    (fun _ _ _ => SimpleSmoother.guarded_of_edits (edits_smoothImpl _ _ _ _))
    (divides_pathSegments _) nonempty

section Samples

/-- Angles do not matter for positions. -/
def noAngles : Angles ℚ Unit where
  getYaw := fun _ => 0
  atan2 := fun _ _ => 0
  shortestAngularDistance := fun _ _ => 0
  orientationAroundZAxis := fun _ => ()
  pi := 3

/-- A pose in the plane. -/
def planePose
    (x y : ℚ) : Pose ℚ Unit where
  position := ⟨x, y, 0⟩
  orientation := ()

/-- A path with a bend. -/
def bentPath : Path ℚ Unit :=
  [planePose 0 0, planePose 1 0, planePose 2 1, planePose 3 1, planePose 4 1]

def sampleSmoother : SimpleSmoother ℚ where
  tolerance := 1 / 100
  maxIts := 3
  dataW := 1 / 5
  smoothW := 3 / 10
  doRefinement := true
  refinementNum := 1
  enforcePathInversion := true

def freeCostmap : Costmap2D ℚ :=
  .filled ⟨10, 10, 1, 0, 0⟩ freeSpace

theorem bentPath_guarded :
    Guarded freeCostmap (positions bentPath)
      (positions (sampleSmoother.smooth noAngles freeCostmap
        (fun _ _ its => its = 2) bentPath).2) :=
  sampleSmoother.smooth_guarded noAngles freeCostmap _ bentPath (by decide)

/-- A path with a bump, of which no waypoint may move. -/
def bumpyPath : Path ℚ Unit :=
  [planePose 0 0, planePose 1 0, ⟨⟨2, 0, 1⟩, ()⟩, planePose 3 0, planePose 4 0]

/-- The first inner waypoint of the path is rejected and keeps a new height. -/
theorem bumpyPath_not_restored :
    ¬∀ update ∈ (sampleSmoother.smoothImpl noAngles
        (.filled ⟨10, 10, 1, 0, 0⟩ lethalObstacle) (fun _ _ => false) 1 0
        bumpyPath).updates,
      SimpleSmoother.Restored update := by
  decide +kernel

end Samples

end NavBim
