import Mathlib
import NavBim.EventRun
import NavBim.WaypointFollower

namespace NavBim

/-!
# Goals of the waypoint follower

A goal asks for its waypoints in an order.  The follower keeps to the order
when the waypoints it is done with, and those that its variables still stand
for, make up the order of the goal it follows.

The variables belong to a call of the handler and not to a goal.  A goal that
preempts another one keeps to its order if what the earlier goal left behind is
what it would have started with.
-/

namespace WaypointVisit

variable {Pose : Type}

def place
    (visit : WaypointVisit Pose) : Pose × Nat :=
  (visit.navigation.pose, visit.index.toNat)

/-- The navigation has an outcome. -/
def ended
    (visit : WaypointVisit Pose) : Bool :=
  match visit.navigation.state with
  | .sent | .accepted => false
  | .rejected | .finished _ => true

def failed
    (visit : WaypointVisit Pose) : Bool :=
  visit.navigation.state ≠ .finished .succeeded ||
    visit.taskExecuted = some false

end WaypointVisit

/-- The places of the waypoints that failed. -/
def failedPlaces
    {Pose : Type}
    (visits : List (WaypointVisit Pose)) : List (Pose × Nat) :=
  (visits.filter WaypointVisit.failed).map WaypointVisit.place

def MissedWaypoint.place
    {Pose : Type}
    (missed : MissedWaypoint Pose) : Pose × Nat :=
  (missed.goal, missed.index.toNat)

/-- The waypoints from an index on, and then all of them some times over. -/
def waypointOrder
    {Pose : Type}
    (poses : List Pose)
    (index loops : Nat) : List (Pose × Nat) :=
  poses.zipIdx.drop index ++ (List.replicate loops poses.zipIdx).flatten

def WaypointGoal.order
    {Pose : Type}
    (goal : WaypointGoal Pose) : List (Pose × Nat) :=
  waypointOrder goal.poses goal.goalIndex.toNat goal.numberOfLoops.toNat

/-- The goal was executed as it was asked, at least up to where it stopped. -/
structure FollowReport.AsAsked
    {Pose : Type}
    (report : FollowReport Pose) : Prop where
  ended : ∀ visit ∈ report.visits, visit.ended
  ordered : report.visits.map WaypointVisit.place <+: report.goal.order
  complete : report.succeeded →
    report.visits.map WaypointVisit.place = report.goal.order
  missed : report.missedWaypoints.map MissedWaypoint.place =
    failedPlaces report.visits

namespace FollowLoop

variable {Pose : Type}

/-- The waypoints that the variables of the loop stand for. -/
def remaining
    (followed : FollowLoop Pose) : List (Pose × Nat) :=
  waypointOrder followed.poses followed.goalIndex.toNat
    (followed.noOfLoops - followed.currentLoopNo).toNat

/-- What the loop did and will do is what its goal asks for. -/
structure Follows
    (followed : FollowLoop Pose) : Prop where
  poses : followed.poses = followed.goal.poses
  inRange : followed.goalIndex.toNat < followed.poses.length
  loops : followed.currentLoopNo ≤ followed.noOfLoops
  order : followed.visits.map WaypointVisit.place ++ followed.remaining =
    followed.goal.order
  ended : ∀ visit ∈ followed.visits, visit.ended
  missed : followed.missedWaypoints.map MissedWaypoint.place =
    failedPlaces followed.visits

end FollowLoop

namespace WaypointFollower

variable {Pose : Type}

/-- The status tells the outcome of the navigation sent last. -/
def Tells
    (status : WaypointStatus)
    (state : GoalProgress) : Prop :=
  match status with
  | .processing => True
  | .succeeded => state = .finished .succeeded
  | .failed | .unknown =>
      state = .rejected ∨ ∃ code ≠ .succeeded, state = .finished code

/-- The navigation sent last is the one to the waypoint of the loop. -/
def Tracks
    (follower : WaypointFollower Pose)
    (followed : FollowLoop Pose) : Prop :=
  ∃ navigation,
    follower.navigations.getLast? = some navigation ∧
    followed.poses[followed.goalIndex.toNat]? = some navigation.pose ∧
    Tells follower.status navigation.state

/-- Every access is in range, and every goal was executed as it was asked. -/
structure Good
    (follower : WaypointFollower Pose) : Prop where
  inRange : follower.fault ≠ some .poseOutOfRange
  asAsked : ∀ report ∈ follower.reports, report.AsAsked

structure Consistent
    (follower : WaypointFollower Pose) : Prop extends Good follower where
  follows : ∀ followed ∈ follower.current, followed.Follows
  tracks : ∀ followed ∈ follower.current, followed.newGoal = false →
    follower.Tracks followed

/--
The first index of a goal is one of its poses.  A goal that preempts another
one starts at its first pose and asks for as many loops as are left, and no
waypoint was missed so far.  The only rejection that arrives while a navigation
is under way or has succeeded is its own.
-/
def Expected
    (follower : WaypointFollower Pose) :
    FollowerEvent Pose → Prop
  | .start goal _ =>
      goal.poses = [] ∨ goal.goalIndex.toNat < goal.poses.length
  | .round found =>
      found.ok = true → found.cancelRequested = false →
        ∀ goal ∈ found.pendingGoal, ∀ followed ∈ follower.current,
          followed.missedWaypoints = [] ∧
            (goal.poses ≠ [] → goal.goalIndex = 0 ∧
              followed.noOfLoops - followed.currentLoopNo =
                goal.numberOfLoops)
  | .rejected navigation =>
      follower.stateOf navigation = some .sent →
        follower.isLatest navigation = false →
          ∀ followed ∈ follower.current, followed.newGoal = true ∨
            follower.status = .failed ∨ follower.status = .unknown
  | .accepted _ => True
  | .result _ _ _ => True

theorem failedPlaces_append
    (visits : List (WaypointVisit Pose))
    (visit : WaypointVisit Pose) :
    failedPlaces (visits ++ [visit]) =
      failedPlaces visits ++ failedPlaces [visit] := by
  simp only [failedPlaces, List.filter_append, List.map_append]

theorem failedPlaces_of_failed
    {visit : WaypointVisit Pose}
    (failed : visit.failed = true) :
    failedPlaces [visit] = [visit.place] := by
  simp only [failedPlaces, List.filter_cons_of_pos failed, List.filter_nil,
    List.map_cons, List.map_nil]

theorem failedPlaces_of_not_failed
    {visit : WaypointVisit Pose}
    (succeeded : visit.failed = false) :
    failedPlaces [visit] = [] := by
  simp only [failedPlaces, List.filter_cons, succeeded, Bool.false_eq_true,
    if_false, List.filter_nil, List.map_nil]

theorem remaining_eq_cons
    {followed : FollowLoop Pose}
    {pose : Pose}
    (found : followed.poses[followed.goalIndex.toNat]? = some pose) :
    followed.remaining =
      (pose, followed.goalIndex.toNat) ::
        waypointOrder followed.poses (followed.goalIndex.toNat + 1)
          (followed.noOfLoops - followed.currentLoopNo).toNat := by
  obtain ⟨inRange, isPose⟩ := List.getElem?_eq_some_iff.mp found
  have inPlaces : followed.goalIndex.toNat < followed.poses.zipIdx.length := by
    rw [List.length_zipIdx]
    exact inRange
  rw [FollowLoop.remaining, waypointOrder, List.drop_eq_getElem_cons inPlaces,
    List.getElem_zipIdx, isPose, Nat.zero_add]
  rfl

theorem waypointOrder_past_end
    (poses : List Pose)
    (loops : Nat) :
    waypointOrder poses poses.length loops =
      (List.replicate loops poses.zipIdx).flatten := by
  rw [waypointOrder, List.drop_eq_nil_of_le List.length_zipIdx.le,
    List.nil_append]

theorem waypointOrder_first
    (poses : List Pose)
    (loops : Nat) :
    waypointOrder poses 0 loops =
      (List.replicate (loops + 1) poses.zipIdx).flatten := by
  rw [waypointOrder, List.drop_zero, List.replicate_succ, List.flatten_cons]

/-- The loop is done with its waypoint, but still stands at it. -/
structure Handled
    (followed : FollowLoop Pose) : Prop where
  poses : followed.poses = followed.goal.poses
  inRange : followed.goalIndex.toNat < followed.poses.length
  loops : followed.currentLoopNo ≤ followed.noOfLoops
  order : followed.visits.map WaypointVisit.place ++
    waypointOrder followed.poses (followed.goalIndex.toNat + 1)
      (followed.noOfLoops - followed.currentLoopNo).toNat =
    followed.goal.order
  ended : ∀ visit ∈ followed.visits, visit.ended
  missed : followed.missedWaypoints.map MissedWaypoint.place =
    failedPlaces followed.visits

section Handling

variable
  {follower : WaypointFollower Pose}
  {followed : FollowLoop Pose}

theorem visited_eq
    {navigation : Navigation Pose}
    (latest : follower.navigations.getLast? = some navigation)
    (taskExecuted : Option Bool) :
    follower.visited followed taskExecuted =
      { followed with
        visits := followed.visits ++
          [{ index := followed.goalIndex, navigation, taskExecuted }] } := by
  rw [visited, latest]

theorem handled_of_visit
    {navigation : Navigation Pose}
    {taskExecuted : Option Bool}
    (entries : List (MissedWaypoint Pose))
    (follows : followed.Follows)
    (found : followed.poses[followed.goalIndex.toNat]? =
      some navigation.pose)
    (ended : WaypointVisit.ended
      ⟨followed.goalIndex, navigation, taskExecuted⟩)
    (entered : entries.map MissedWaypoint.place =
      failedPlaces [⟨followed.goalIndex, navigation, taskExecuted⟩]) :
    Handled { followed with
      missedWaypoints := followed.missedWaypoints ++ entries
      visits := followed.visits ++
        [⟨followed.goalIndex, navigation, taskExecuted⟩] } where
  poses := follows.poses
  inRange := follows.inRange
  loops := follows.loops
  order := by
    rw [List.map_append, List.append_assoc, ← follows.order,
      remaining_eq_cons found]
    rfl
  ended visit member := by
    rcases List.mem_append.mp member with before | isNew
    · exact follows.ended visit before
    · rw [List.mem_singleton.mp isNew]
      exact ended
  missed := by
    rw [List.map_append, failedPlaces_append, follows.missed, entered]

theorem Consistent.of_report
    (good : Good follower)
    {succeeded : Bool}
    (asAsked : FollowReport.AsAsked ⟨followed.goal, succeeded,
      followed.missedWaypoints, followed.visits⟩) :
    Consistent (follower.report followed succeeded) where
  inRange := good.inRange
  asAsked report member := by
    rcases List.mem_append.mp member with before | isNew
    · exact good.asAsked report before
    · rw [List.mem_singleton.mp isNew]
      exact asAsked
  follows _ isCurrent := nomatch isCurrent
  tracks _ isCurrent := nomatch isCurrent

theorem Handled.stop
    (good : Good follower)
    (handled : Handled followed) :
    Consistent (follower.stop followed) := by
  have reported : Consistent (follower.report followed false) :=
    .of_report good {
      ended := handled.ended
      ordered := ⟨_, handled.order⟩
      complete := nofun
      missed := handled.missed }
  exact { reported with }

theorem Handled.goalIndex_succ
    (handled : Handled followed) :
    (followed.goalIndex + 1).toNat = followed.goalIndex.toNat + 1 := by
  have fits := followed.goal.fits
  rw [← handled.poses] at fits
  rw [UInt32.toNat_add, UInt32.toNat_one]
  exact Nat.mod_eq_of_lt (lt_of_le_of_lt handled.inRange fits)

theorem Handled.loopsLeft
    (handled : Handled followed)
    (more : followed.currentLoopNo ≠ followed.noOfLoops) :
    (followed.noOfLoops - followed.currentLoopNo).toNat =
        (followed.noOfLoops - (followed.currentLoopNo + 1)).toNat + 1 ∧
      followed.currentLoopNo + 1 ≤ followed.noOfLoops := by
  have before : followed.currentLoopNo.toNat < followed.noOfLoops.toNat :=
    lt_of_le_of_ne handled.loops fun same => more (UInt32.toNat_inj.mp same)
  have next : (followed.currentLoopNo + 1).toNat =
      followed.currentLoopNo.toNat + 1 := by
    rw [UInt32.toNat_add, UInt32.toNat_one]
    exact Nat.mod_eq_of_lt (lt_of_le_of_lt before (UInt32.toNat_lt _))
  have within : followed.currentLoopNo + 1 ≤ followed.noOfLoops := by
    rw [UInt32.le_iff_toNat_le, next]
    exact before
  rw [UInt32.toNat_sub_of_le _ _ handled.loops,
    UInt32.toNat_sub_of_le _ _ within, next]
  exact ⟨by omega, within⟩

theorem Consistent.of_newGoal
    (good : Good follower)
    (follows : followed.Follows)
    (newGoal : followed.newGoal = true) :
    Consistent { follower with current := some followed } where
  inRange := good.inRange
  asAsked := good.asAsked
  follows other isCurrent := by
    rw [← Option.some.inj isCurrent]
    exact follows
  tracks other isCurrent notNew := by
    rw [← Option.some.inj isCurrent, newGoal] at notNew
    exact nomatch notNew

theorem Handled.advance
    (good : Good follower)
    (handled : Handled followed) :
    Consistent (follower.advance followed) := by
  rw [WaypointFollower.advance]
  dsimp only
  by_cases atEnd : (followed.goalIndex + 1).toNat ≥ followed.poses.length
  · have isLast : followed.goalIndex.toNat + 1 = followed.poses.length := by
      rw [handled.goalIndex_succ] at atEnd
      exact le_antisymm handled.inRange atEnd
    have order := handled.order
    rw [isLast, waypointOrder_past_end] at order
    rw [if_pos atEnd]
    by_cases done : followed.currentLoopNo = followed.noOfLoops
    · rw [if_pos done]
      rw [done, UInt32.sub_self, UInt32.toNat_zero, List.replicate_zero,
        List.flatten_nil, List.append_nil] at order
      have reported : Consistent (follower.report
          { followed with
            goalIndex := followed.goalIndex + 1
            newGoal := true } true) :=
        .of_report good {
          ended := handled.ended
          ordered := by
            rw [order]
          complete := fun _ => order
          missed := handled.missed }
      exact { reported with }
    · rw [if_neg done]
      obtain ⟨left, within⟩ := handled.loopsLeft done
      refine .of_newGoal good ?_ rfl
      exact {
        poses := handled.poses
        inRange := Nat.zero_lt_of_lt handled.inRange
        loops := within
        order := by
          rw [← order, left, ← waypointOrder_first]
          rfl
        ended := handled.ended
        missed := handled.missed }
  · rw [if_neg atEnd]
    refine .of_newGoal good ?_ rfl
    exact {
      poses := handled.poses
      inRange := not_le.mp atEnd
      loops := handled.loops
      order := by
        rw [← handled.order, ← handled.goalIndex_succ]
        rfl
      ended := handled.ended
      missed := handled.missed }

/-- A status other than processing tells that the navigation has an outcome,
and whether it failed. -/
theorem Tells.outcome
    {status : WaypointStatus}
    {navigation : Navigation Pose}
    (tells : Tells status navigation.state)
    (hasOutcome : status ≠ .processing)
    (index : UInt32)
    (taskExecuted : Option Bool) :
    WaypointVisit.ended ⟨index, navigation, taskExecuted⟩ ∧
      WaypointVisit.failed ⟨index, navigation, taskExecuted⟩ =
        (status ≠ .succeeded || taskExecuted = some false) := by
  cases status with
  | processing =>
      exact absurd rfl hasOutcome
  | succeeded =>
      have state : navigation.state = .finished .succeeded := tells
      simp only [WaypointVisit.ended, WaypointVisit.failed, state, ne_eq,
        not_true_eq_false, decide_false, Bool.false_or, and_self]
  | failed | unknown =>
      rcases tells with rejected | ⟨code, notSucceeded, finished⟩
      · simp [WaypointVisit.ended, WaypointVisit.failed, rejected]
      · simp [WaypointVisit.ended, WaypointVisit.failed, finished,
          notSucceeded]

theorem Consistent.processStatus
    (consistent : Consistent follower)
    (follows : followed.Follows)
    (tracked : follower.Tracks followed)
    (hasOutcome : follower.status ≠ .processing)
    (found : FollowRound Pose)
    {pose : Pose}
    (poseFound : followed.poses[followed.goalIndex.toNat]? = some pose) :
    Consistent (follower.processStatus followed found pose) := by
  obtain ⟨navigation, latest, target, tells⟩ := tracked
  obtain rfl : pose = navigation.pose :=
    Option.some.inj (poseFound.symm.trans target)
  have good := consistent.toGood
  rw [WaypointFollower.processStatus]
  cases status : follower.status with
  | processing =>
      exact consistent
  | failed | unknown =>
      have outcome := tells.outcome hasOutcome followed.goalIndex none
      rw [status] at outcome
      have handled : Handled (missed (follower.visited followed none)
          navigation.pose follower.errorCode) := by
        rw [visited_eq latest]
        exact handled_of_visit _ follows target outcome.1
          (failedPlaces_of_failed outcome.2).symm
      dsimp only
      cases found.stopOnFailure with
      | true =>
          exact handled.stop good
      | false =>
          exact handled.advance good
  | succeeded =>
      have outcome := tells.outcome hasOutcome followed.goalIndex
        (some found.taskExecuted)
      rw [status] at outcome
      dsimp only
      cases executed : found.taskExecuted with
      | true =>
          rw [executed] at outcome
          have handled : Handled (follower.visited followed (some true)) := by
            rw [visited_eq latest]
            have done := handled_of_visit [] follows target outcome.1
              (failedPlaces_of_not_failed outcome.2).symm
            rw [List.append_nil] at done
            exact done
          exact handled.advance good
      | false =>
          rw [executed] at outcome
          have handled : Handled (missed
              (follower.visited followed (some false)) navigation.pose
              taskExecutorFailed) := by
            rw [visited_eq latest]
            exact handled_of_visit _ follows target outcome.1
              (failedPlaces_of_failed outcome.2).symm
          cases found.stopOnFailure with
          | true =>
              exact handled.stop good
          | false =>
              exact handled.advance good

theorem Consistent.follow
    (consistent : Consistent follower)
    (follows : followed.Follows)
    (tracks : followed.newGoal = false → follower.Tracks followed)
    (found : FollowRound Pose) :
    Consistent (follower.follow followed found) := by
  obtain ⟨pose, poseFound⟩ : ∃ pose,
      followed.poses[followed.goalIndex.toNat]? = some pose :=
    ⟨_, List.getElem?_eq_getElem follows.inRange⟩
  rw [WaypointFollower.follow, poseFound]
  cases newGoal : followed.newGoal with
  | true =>
      rw [if_pos rfl]
      exact {
        inRange := consistent.inRange
        asAsked := consistent.asAsked
        follows := by
          rintro other ⟨⟩
          exact { follows with }
        tracks := by
          rintro other ⟨⟩ -
          exact ⟨_, List.getLast?_concat, poseFound, trivial⟩ }
  | false =>
      rw [if_neg Bool.false_ne_true]
      by_cases busy : follower.status = .processing
      · rw [if_pos busy]
        exact consistent
      · rw [if_neg busy]
        exact consistent.processStatus follows (tracks newGoal) busy found
          poseFound

theorem follows_restarted
    {goal : WaypointGoal Pose}
    (follows : followed.Follows)
    (nonempty : goal.poses ≠ [])
    (noneMissed : followed.missedWaypoints = [])
    (first : goal.goalIndex = 0)
    (loops : followed.noOfLoops - followed.currentLoopNo =
      goal.numberOfLoops) :
    (restarted (preempted followed goal)).Follows where
  poses := rfl
  inRange := List.length_pos_iff.mpr nonempty
  loops := follows.loops
  order := by
    have order : goal.order = waypointOrder goal.poses 0
        (followed.noOfLoops - followed.currentLoopNo).toNat := by
      rw [WaypointGoal.order, first, loops]
      rfl
    exact order.symm
  ended _ member := nomatch member
  missed := by
    dsimp only [restarted, preempted]
    rw [noneMissed]
    rfl

theorem Consistent.round
    (consistent : Consistent follower)
    (isCurrent : follower.current = some followed)
    {found : FollowRound Pose}
    (expected : Expected follower (.round found)) :
    Consistent (follower.round followed found) := by
  rw [WaypointFollower.round]
  by_cases leaves : (!found.ok || found.cancelRequested) = true
  · rw [if_pos leaves]
    exact {
      inRange := consistent.inRange
      asAsked := consistent.asAsked
      follows := nofun
      tracks := nofun }
  · rw [if_neg leaves]
    have follows := consistent.follows followed isCurrent
    cases pending : found.pendingGoal with
    | none =>
        exact consistent.follow follows
          (consistent.tracks followed isCurrent) found
    | some goal =>
        simp only [Bool.or_eq_true, Bool.not_eq_true', not_or,
          Bool.not_eq_false, Bool.not_eq_true] at leaves
        obtain ⟨noneMissed, asStarted⟩ :=
          expected leaves.1 leaves.2 goal pending followed isCurrent
        dsimp only
        by_cases empty : goal.poses = []
        · rw [if_pos (List.isEmpty_iff.mpr empty)]
          exact .of_report consistent.toGood {
            ended := nofun
            ordered := List.nil_prefix
            complete := nofun
            missed := by
              rw [preempted, noneMissed]
              rfl }
        · rw [if_neg fun isEmpty => empty (List.isEmpty_iff.mp isEmpty)]
          obtain ⟨first, loops⟩ := asStarted empty
          exact consistent.follow
            (follows_restarted follows empty noneMissed first loops) nofun
            found

theorem getLast?_setState
    (navigation : Nat)
    (state : GoalProgress) :
    (follower.setState navigation state).navigations.getLast? =
      follower.navigations.getLast?.map fun latest =>
        if follower.isLatest navigation then
          { latest with state }
        else
          latest := by
  rw [List.getLast?_eq_getElem?, List.getLast?_eq_getElem?, setState]
  dsimp only
  rw [List.length_modify, List.getElem?_modify, isLatest]
  cases length : follower.navigations.length with
  | zero =>
      rw [List.length_eq_zero_iff.mp length]
      rfl
  | succ before =>
      simp only [Nat.add_sub_cancel, Nat.add_right_cancel_iff,
        decide_eq_true_eq]
      rfl

variable
  {navigation : Nat}

/-- A response that is not about the navigation sent last does not concern the
loop. -/
theorem Tracks.setState_other
    (tracked : follower.Tracks followed)
    (other : follower.isLatest navigation = false)
    (state : GoalProgress) :
    (follower.setState navigation state).Tracks followed := by
  obtain ⟨latest, isLast, target, tells⟩ := tracked
  refine ⟨latest, ?_, target, tells⟩
  rw [getLast?_setState, isLast, other]
  rfl

/-- The navigation sent last is under way if it has no outcome yet. -/
theorem Tracks.setState_latest
    {state : GoalProgress}
    (tracked : follower.Tracks followed)
    (isLatest : follower.isLatest navigation = true)
    {status : WaypointStatus}
    (tells : Tells status state) :
    Tracks { follower.setState navigation state with status } followed := by
  obtain ⟨latest, isLast, target, -⟩ := tracked
  refine ⟨{ latest with state }, ?_, target, tells⟩
  have last := follower.getLast?_setState navigation state
  rw [isLast, isLatest] at last
  exact last

theorem Consistent.of_response
    {after : WaypointFollower Pose}
    (consistent : Consistent follower)
    (inRange : after.fault ≠ some .poseOutOfRange)
    (reports : after.reports = follower.reports)
    (current : after.current = follower.current)
    (tracks : ∀ followed ∈ follower.current, followed.newGoal = false →
      follower.Tracks followed → after.Tracks followed) :
    Consistent after where
  inRange := inRange
  asAsked := by
    rw [reports]
    exact consistent.asAsked
  follows := by
    rw [current]
    exact consistent.follows
  tracks := by
    rw [current]
    exact fun followed isCurrent notNew => tracks followed isCurrent notNew
      (consistent.tracks followed isCurrent notNew)

theorem Tracks.processing
    {state : GoalProgress}
    (tracked : follower.Tracks followed)
    (isLatest : follower.isLatest navigation = true)
    (stateOf : follower.stateOf navigation = some state)
    (underWay : state = .sent ∨ state = .accepted) :
    follower.status = .processing := by
  obtain ⟨latest, isLast, -, tells⟩ := tracked
  have place : navigation = follower.navigations.length - 1 := by
    have length : navigation + 1 = follower.navigations.length :=
      of_decide_eq_true isLatest
    rw [← length, Nat.add_sub_cancel]
  rw [WaypointFollower.stateOf, place, ← List.getLast?_eq_getElem?, isLast]
    at stateOf
  obtain rfl : latest.state = state := Option.some.inj stateOf
  cases status : follower.status with
  | processing =>
      rfl
  | succeeded =>
      rw [status] at tells
      have finished : latest.state = .finished .succeeded := tells
      rw [finished] at underWay
      exact nomatch underWay
  | failed | unknown =>
      rw [status] at tells
      rcases tells with rejected | ⟨code, -, finished⟩
      · rw [rejected] at underWay
        exact nomatch underWay
      · rw [finished] at underWay
        exact nomatch underWay

section

variable
  (consistent : Consistent follower)

include consistent

theorem Consistent.accepted
    (wasSent : follower.stateOf navigation = some .sent) :
    Consistent (follower.setState navigation .accepted) := by
  refine consistent.of_response consistent.inRange rfl rfl ?_
  intro followed _ _ tracked
  cases isLatest : follower.isLatest navigation with
  | false =>
      exact tracked.setState_other isLatest _
  | true =>
      have status := tracked.processing isLatest wasSent (.inl rfl)
      refine tracked.setState_latest isLatest ?_
      rw [status]
      trivial

theorem Consistent.rejected
    (wasSent : follower.stateOf navigation = some .sent)
    (expected : Expected follower (.rejected navigation)) :
    Consistent (follower.setState navigation .rejected).goalResponseCallback
    := by
  refine consistent.of_response consistent.inRange rfl rfl ?_
  intro followed isCurrent notNew tracked
  cases isLatest : follower.isLatest navigation with
  | true =>
      exact tracked.setState_latest isLatest (.inl rfl)
  | false =>
      obtain ⟨latest, isLast, target, tells⟩ :=
        tracked.setState_other isLatest .rejected
      refine ⟨latest, isLast, target, ?_⟩
      rcases expected wasSent isLatest followed isCurrent with
        isNew | failed | unknown
      · rw [notNew] at isNew
        exact nomatch isNew
      · have told : Tells follower.status latest.state := tells
        rw [failed] at told
        exact told
      · have told : Tells follower.status latest.state := tells
        rw [unknown] at told
        exact told

theorem Consistent.result
    (navigation : Nat)
    (code : ResultCode)
    (errorCode : Int) :
    Consistent ((follower.setState navigation (.finished code)).resultCallback
      navigation code errorCode) := by
  have isLatest_setState :
      (follower.setState navigation (.finished code)).isLatest navigation =
        follower.isLatest navigation := by
    rw [isLatest, isLatest, setState, List.length_modify]
  cases isLatest : follower.isLatest navigation with
  | false =>
      have unconcerned :
          Consistent (follower.setState navigation (.finished code)) :=
        consistent.of_response consistent.inRange rfl rfl
          fun _ _ _ tracked => tracked.setState_other isLatest _
      rw [resultCallback, isLatest_setState, isLatest]
      split
      · exact { unconcerned with inRange := nofun }
      · exact { unconcerned with inRange := nofun }
      · exact { unconcerned with inRange := nofun }
      · exact unconcerned
      · exact unconcerned
  | true =>
      have length : navigation + 1 = follower.navigations.length :=
        of_decide_eq_true isLatest
      obtain ⟨latest, isLast⟩ : ∃ latest,
          follower.navigations.getLast? = some latest := by
        rw [List.getLast?_eq_getElem?, ← length, Nat.add_sub_cancel]
        have inRange : navigation < follower.navigations.length :=
          length ▸ Nat.lt_succ_self navigation
        exact ⟨_, List.getElem?_eq_getElem inRange⟩
      rw [resultCallback, isLatest_setState, isLatest, getLast?_setState,
        isLast, isLatest]
      dsimp only [Option.map_some, if_true]
      cases code with
      | succeeded =>
          exact consistent.of_response consistent.inRange rfl rfl
            fun _ _ _ tracked => tracked.setState_latest isLatest rfl
      | aborted =>
          have told : Tells .failed (.finished .aborted) :=
            .inr ⟨.aborted, nofun, rfl⟩
          exact consistent.of_response consistent.inRange rfl rfl
            fun _ _ _ tracked => tracked.setState_latest isLatest told
      | canceled =>
          have told : Tells .failed (.finished .canceled) :=
            .inr ⟨.canceled, nofun, rfl⟩
          exact consistent.of_response consistent.inRange rfl rfl
            fun _ _ _ tracked => tracked.setState_latest isLatest told
      | unknown =>
          have told : Tells .unknown (.finished .unknown) :=
            .inr ⟨.unknown, nofun, rfl⟩
          exact consistent.of_response consistent.inRange rfl rfl
            fun _ _ _ tracked => tracked.setState_latest isLatest told

theorem Consistent.start
    (goal : WaypointGoal Pose)
    (serverActive : Bool)
    (expected : Expected follower (.start goal serverActive)) :
    Consistent (follower.start goal serverActive) := by
  rw [WaypointFollower.start]
  cases serverActive with
  | false =>
      exact {
        inRange := consistent.inRange
        asAsked := consistent.asAsked
        follows := nofun
        tracks := nofun }
  | true =>
      by_cases empty : goal.poses = []
      · rw [if_neg (by nofun), if_pos (List.isEmpty_iff.mpr empty)]
        exact .of_report consistent.toGood {
          ended := nofun
          ordered := List.nil_prefix
          complete := nofun
          missed := rfl }
      · rw [if_neg (by nofun),
          if_neg fun isEmpty => empty (List.isEmpty_iff.mp isEmpty)]
        refine .of_newGoal consistent.toGood ?_ rfl
        exact {
          poses := rfl
          inRange := expected.resolve_left empty
          loops := UInt32.zero_le
          order := by
            rw [FollowLoop.remaining, UInt32.sub_zero]
            rfl
          ended := nofun
          missed := rfl }

theorem Consistent.step
    (event : FollowerEvent Pose)
    (expected : Expected follower event) :
    Consistent (follower.step event) := by
  unfold WaypointFollower.step
  split
  · exact consistent
  · cases event with
    | start goal serverActive =>
        dsimp only
        cases isCurrent : follower.current with
        | none =>
            exact consistent.start goal serverActive expected
        | some followed =>
            exact consistent
    | round found =>
        dsimp only
        cases isCurrent : follower.current with
        | none =>
            exact consistent
        | some followed =>
            exact consistent.round isCurrent expected
    | accepted navigation =>
        dsimp only
        split
        · case isTrue wasSent =>
          exact consistent.accepted wasSent
        · exact consistent
    | rejected navigation =>
        dsimp only
        split
        · case isTrue wasSent =>
          exact consistent.rejected wasSent expected
        · exact consistent
    | result navigation code errorCode =>
        dsimp only
        split
        · exact consistent.result navigation code errorCode
        · exact consistent

end

end Handling

theorem Consistent.initial :
    Consistent (WaypointFollower.initial : WaypointFollower Pose) where
  inRange := nofun
  asAsked := nofun
  follows := nofun
  tracks := nofun

/-- A step always has a result. -/
def stepsTo
    (follower : WaypointFollower Pose)
    (event : FollowerEvent Pose) : Option (WaypointFollower Pose) :=
  some (follower.step event)

/-- Goals are executed as they were asked in every run whose steps are
expected. -/
theorem executesAsAsked
    (events : List (FollowerEvent Pose))
    (expected : EventRun.Conforms stepsTo Expected initial events) :
    EventRun.Stays stepsTo Good initial events := by
  refine EventRun.Stays.weaken (fun _ => Consistent.toGood) ?_
  refine EventRun.stays_of_conforms ?_ Consistent.initial expected
  intro follower event consistent isExpected
  exact ⟨_, rfl, consistent.step event isExpected⟩

/-- A goal for two poses. -/
def twoPoses
    (goalIndex numberOfLoops : UInt32) : WaypointGoal Nat where
  numberOfLoops
  goalIndex
  poses := [1, 2]
  fits := by decide

def quietRound : FollowRound Nat where
  ok := true
  cancelRequested := false
  pendingGoal := none
  stopOnFailure := false
  taskExecuted := true

/-- A navigation is accepted and comes to an end. -/
def navigated
    (navigation : Nat)
    (code : ResultCode) : List (FollowerEvent Nat) :=
  [.round quietRound, .accepted navigation, .result navigation code 0,
    .round quietRound]

theorem twoPoses_executesAsAsked :
    EventRun.Stays stepsTo Good initial
      (.start (twoPoses 1 1) true :: navigated 0 .succeeded ++
        navigated 1 .aborted ++ navigated 2 .succeeded) := by
  apply executesAsAsked
  simp [EventRun.Conforms, stepsTo, navigated, Expected, quietRound, twoPoses]

/-- Goals that are not executed as they were asked: one whose first index is
not one of its poses, one that preempts another one that still has two loops to
go, and one that preempts another one that missed a waypoint. -/
theorem goals_not_executed_as_asked :
    ¬EventRun.Stays stepsTo Good initial
        [.start (twoPoses 2 0) true, .round quietRound] ∧
      ¬EventRun.Stays stepsTo Good initial
        ([.start (twoPoses 0 1) true, .round quietRound,
          .round { quietRound with pendingGoal := some (twoPoses 0 0) },
          .accepted 1, .result 1 .succeeded 0, .round quietRound] ++
          navigated 2 .succeeded ++ navigated 3 .succeeded ++
          navigated 4 .succeeded) ∧
      ¬EventRun.Stays stepsTo Good initial
        ([.start (twoPoses 0 0) true] ++ navigated 0 .aborted ++
          [.round { quietRound with pendingGoal := some (twoPoses 0 0) },
            .accepted 1, .result 1 .succeeded 0, .round quietRound] ++
          navigated 2 .succeeded) := by
  refine ⟨fun stays => ?_, fun stays => ?_, fun stays => ?_⟩
  · obtain ⟨last, reached, good⟩ := stays.reaches
    obtain rfl := Option.some.inj reached
    exact good.inRange (by decide)
  · obtain ⟨last, reached, good⟩ := stays.reaches
    obtain rfl := Option.some.inj reached
    have asAsked := good.asAsked _ (List.mem_singleton_self _)
    exact absurd (asAsked.complete rfl) (by decide)
  · obtain ⟨last, reached, good⟩ := stays.reaches
    obtain rfl := Option.some.inj reached
    have asAsked := good.asAsked _ (List.mem_singleton_self _)
    exact absurd asAsked.missed (by decide)

end WaypointFollower

end NavBim
