import Mathlib
import NavBim.ActionClient

namespace NavBim

/-!
# The waypoint follower

The follower sends one navigation for each waypoint of its goal.  One round of
its loop looks for a cancel request and for another goal, sends a navigation if
it is time for one, and deals with the outcome of the navigation sent last.
Between the rounds it takes in the responses to its navigations.

The follower does not know a navigation other than by these responses.  What
became of each navigation is kept beside it, and so are the waypoints it dealt
with and the results it reported.
-/

/-- A goal with its poses.  A message holds fewer than `2 ^ 32` of them. -/
structure WaypointGoal (Pose : Type) where
  numberOfLoops : UInt32
  goalIndex : UInt32
  poses : List Pose
  fits : poses.length < 2 ^ 32

structure Navigation (Pose : Type) where
  pose : Pose
  state : GoalProgress
  deriving DecidableEq

inductive WaypointStatus where
  | unknown
  | processing
  | failed
  | succeeded
  deriving DecidableEq, Repr

structure MissedWaypoint (Pose : Type) where
  index : UInt32
  goal : Pose
  errorCode : Int
  deriving DecidableEq

/-- A waypoint that the follower is done with.  Its task may not have run. -/
structure WaypointVisit (Pose : Type) where
  index : UInt32
  navigation : Navigation Pose
  taskExecuted : Option Bool
  deriving DecidableEq

/-- The variables of the loop, with the waypoints of the goal done so far. -/
structure FollowLoop (Pose : Type) where
  goal : WaypointGoal Pose
  currentLoopNo : UInt32
  noOfLoops : UInt32
  poses : List Pose
  goalIndex : UInt32
  newGoal : Bool
  missedWaypoints : List (MissedWaypoint Pose)
  visits : List (WaypointVisit Pose)

/-- A goal that ended with the result of the loop. -/
structure FollowReport (Pose : Type) where
  goal : WaypointGoal Pose
  succeeded : Bool
  missedWaypoints : List (MissedWaypoint Pose)
  visits : List (WaypointVisit Pose)

/--
An access outside the poses, a use of the handle of a rejected navigation, or
waiting for a response that only the waiting thread can take in.
-/
inductive FollowerFault where
  | poseOutOfRange
  | nullHandle
  | blocked
  deriving DecidableEq, Repr

structure WaypointFollower (Pose : Type) where
  status : WaypointStatus
  errorCode : Int
  navigations : List (Navigation Pose)
  current : Option (FollowLoop Pose)
  reports : List (FollowReport Pose)
  fault : Option FollowerFault

/-- What a round of the loop finds. -/
structure FollowRound (Pose : Type) where
  ok : Bool
  cancelRequested : Bool
  pendingGoal : Option (WaypointGoal Pose)
  stopOnFailure : Bool
  taskExecuted : Bool

inductive FollowerEvent (Pose : Type) where
  | start (goal : WaypointGoal Pose) (serverActive : Bool)
  | round (found : FollowRound Pose)
  | accepted (navigation : Nat)
  | rejected (navigation : Nat)
  | result (navigation : Nat) (code : ResultCode) (errorCode : Int)

namespace WaypointFollower

variable {Pose : Type}

def initial : WaypointFollower Pose where
  status := .unknown
  errorCode := 0
  navigations := []
  current := none
  reports := []
  fault := none

def taskExecutorFailed : Int := 601

variable
  (follower : WaypointFollower Pose)

def fail
    (fault : FollowerFault) : WaypointFollower Pose :=
  { follower with fault := some fault }

variable
  (followed : FollowLoop Pose)

/-- The loop is left, and the goal ends with the result of the loop. -/
def report
    (succeeded : Bool) : WaypointFollower Pose :=
  { follower with
    current := none
    reports := follower.reports ++ [{
      goal := followed.goal
      succeeded
      missedWaypoints := followed.missedWaypoints
      visits := followed.visits }] }

/-- A new call of the handler, up to the loop. -/
def start
    (goal : WaypointGoal Pose)
    (serverActive : Bool) : WaypointFollower Pose :=
  let followed : FollowLoop Pose := {
    goal
    currentLoopNo := 0
    noOfLoops := goal.numberOfLoops
    poses := goal.poses
    goalIndex := goal.goalIndex
    newGoal := true
    missedWaypoints := []
    visits := [] }
  if !serverActive then
    { follower with current := none }
  else if goal.poses.isEmpty then
    follower.report followed false
  else
    { follower with current := some followed }

/-- Another goal takes the place of the one being followed. -/
def preempted
    (goal : WaypointGoal Pose) : FollowLoop Pose :=
  { followed with goal, poses := goal.poses, visits := [] }

def restarted
    (followed : FollowLoop Pose) : FollowLoop Pose :=
  { followed with goalIndex := 0, newGoal := true }

def missed
    (pose : Pose)
    (errorCode : Int) : FollowLoop Pose :=
  { followed with
    missedWaypoints := followed.missedWaypoints ++
      [{ index := followed.goalIndex, goal := pose, errorCode }] }

/-- The follower is done with the navigation sent last. -/
def visited
    (taskExecuted : Option Bool) : FollowLoop Pose :=
  match follower.navigations.getLast? with
  | some navigation =>
      { followed with
        visits := followed.visits ++
          [{ index := followed.goalIndex, navigation, taskExecuted }] }
  | none => followed

/-- The goal ends before its last waypoint. -/
def stop
    (followed : FollowLoop Pose) : WaypointFollower Pose :=
  { follower.report followed false with errorCode := 0 }

/-- On to the next waypoint, to the next loop or to the end. -/
def advance
    (followed : FollowLoop Pose) : WaypointFollower Pose :=
  let next := { followed with
    goalIndex := followed.goalIndex + 1
    newGoal := true }
  if next.goalIndex.toNat ≥ next.poses.length then
    if next.currentLoopNo = next.noOfLoops then
      { follower.report next true with errorCode := 0 }
    else
      { follower with
        current := some { next with
          goalIndex := 0
          currentLoopNo := next.currentLoopNo + 1 } }
  else
    { follower with current := some next }

/-- Send a navigation to the waypoint if it is time for one. -/
def sendGoal
    (pose : Pose) : WaypointFollower Pose :=
  { follower with
    navigations := follower.navigations ++ [{ pose, state := .sent }]
    status := .processing
    current := some { followed with newGoal := false } }

/-- Deal with the outcome of the navigation sent last. -/
def processStatus
    (found : FollowRound Pose)
    (pose : Pose) : WaypointFollower Pose :=
  match follower.status with
  | .processing => follower
  | .failed | .unknown =>
      let failed := missed (follower.visited followed none) pose
        follower.errorCode
      if found.stopOnFailure then
        follower.stop failed
      else
        follower.advance failed
  | .succeeded =>
      let done := follower.visited followed (some found.taskExecuted)
      if found.taskExecuted then
        follower.advance done
      else
        let failed := missed done pose taskExecutorFailed
        if found.stopOnFailure then
          follower.stop failed
        else
          follower.advance failed

/-- The round from where the goal to follow is settled. -/
def follow
    (found : FollowRound Pose) : WaypointFollower Pose :=
  if followed.newGoal then
    match followed.poses[followed.goalIndex.toNat]? with
    | some pose => follower.sendGoal followed pose
    | none => follower.fail .poseOutOfRange
  else if follower.status = .processing then
    follower
  else
    match followed.poses[followed.goalIndex.toNat]? with
    | some pose => follower.processStatus followed found pose
    | none => follower.fail .poseOutOfRange

/-- One round of the loop, up to where the responses are taken in. -/
def round
    (found : FollowRound Pose) : WaypointFollower Pose :=
  if !found.ok || found.cancelRequested then
    { follower with current := none }
  else
    match found.pendingGoal with
    | some goal =>
        let next := preempted followed goal
        if goal.poses.isEmpty then
          follower.report next false
        else
          follower.follow (restarted next) found
    | none => follower.follow followed found

def setState
    (navigation : Nat)
    (state : GoalProgress) : WaypointFollower Pose :=
  { follower with
    navigations := follower.navigations.modify navigation
      ({ · with state }) }

/-- The number of the navigation sent last. -/
def isLatest
    (navigation : Nat) : Bool :=
  navigation + 1 = follower.navigations.length

def stateOf
    (navigation : Nat) : Option GoalProgress :=
  (follower.navigations[navigation]?).map Navigation.state

/-- The response to a rejected navigation, whichever one it is. -/
def goalResponseCallback
    (follower : WaypointFollower Pose) : WaypointFollower Pose :=
  { follower with status := .failed }

/-- The outcome of a navigation that is the one sent last. -/
def recordResult
    (code : ResultCode)
    (errorCode : Int) : WaypointFollower Pose :=
  match code with
  | .succeeded => { follower with status := .succeeded }
  | .aborted => { follower with status := .failed, errorCode }
  | .canceled => { follower with status := .failed }
  | .unknown => { follower with status := .unknown }

/-- The result is compared with the handle of the navigation sent last. -/
def resultCallback
    (navigation : Nat)
    (code : ResultCode)
    (errorCode : Int) : WaypointFollower Pose :=
  match follower.navigations.getLast?.map Navigation.state with
  | none | some .sent => follower.fail .blocked
  | some .rejected => follower.fail .nullHandle
  | some .accepted | some (.finished _) =>
      if follower.isLatest navigation then
        follower.recordResult code errorCode
      else
        follower

/--
A round needs a loop.  The server answers each navigation once, and gives one
result for each navigation that it accepted.  A follower with a fault stands.
-/
def step
    (event : FollowerEvent Pose) : WaypointFollower Pose :=
  if follower.fault.isSome then
    follower
  else
    match event with
    | .start goal serverActive =>
        match follower.current with
        | none => follower.start goal serverActive
        | some _ => follower
    | .round found =>
        match follower.current with
        | none => follower
        | some followed => follower.round followed found
    | .accepted navigation =>
        if follower.stateOf navigation = some .sent then
          follower.setState navigation .accepted
        else
          follower
    | .rejected navigation =>
        if follower.stateOf navigation = some .sent then
          (follower.setState navigation .rejected).goalResponseCallback
        else
          follower
    | .result navigation code errorCode =>
        if follower.stateOf navigation = some .accepted then
          (follower.setState navigation (.finished code)).resultCallback
            navigation code errorCode
        else
          follower

end WaypointFollower

end NavBim
