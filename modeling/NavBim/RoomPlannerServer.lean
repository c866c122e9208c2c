import NavBim.SimpleActionServer

namespace NavBim

/-!
# Plans for single rooms

The room planner reads its goal once, at the start of the callback, and then
asks the server whether a newer goal waits.  Accepting the newer goal makes it
the current one, but the callback keeps the goal it has read: the new goal is
assigned to a copy.  The plan is reported to the goal that is current at the
end.

Between any two steps of the worker goals can arrive and be cancelled.
-/

/-- What a path in a room is planned from. -/
structure RoomRequest (Pose : Type) where
  start : Pose
  goal : Pose
  floorName : String
  roomName : String
  deriving DecidableEq

structure RoomGoal (Pose : Type) extends RoomRequest Pose where
  plannerId : String
  useStart : Bool
  deriving DecidableEq

structure RoomResult (Pose : Type) where
  path : List Pose := []
  errorCode : Nat := 0
  errorMsg : String := ""
  warnings : String := ""
  deriving DecidableEq

instance {Pose : Type} : Inhabited (RoomResult Pose) :=
  ⟨{}⟩

/-- What the planner finds while it plans: whether the robot is localized, the
costmaps, the planner plugins and the smoother.  `createPlan` and `robotPose`
fail where the code throws an exception. -/
structure PlanningWorld (Pose Costmap : Type) where
  robotPose : Except String Bool
  isMultiCostmap : Bool
  floorCostmap : String → Option Costmap
  roomCostmap : String → String → Option Costmap
  planners : List String
  defaultId : String
  createPlan : String → Costmap → Pose → Pose → Except String (List Pose)
  smooth : Costmap → List Pose → List Pose × String
  positionText : Pose → String

section Planning

variable {Pose Costmap : Type}

variable
  (world : PlanningWorld Pose Costmap)

/-- The plugin for a request; no name means the only one there is. -/
def getPlan
    (map : Costmap)
    (goal : RoomGoal Pose) : Except String (List Pose) :=
  if goal.plannerId ∈ world.planners then
    world.createPlan goal.plannerId map goal.start goal.goal
  else
    match world.planners, goal.plannerId with
    | [only], "" => world.createPlan only map goal.start goal.goal
    | _, _ => .error ("Planner id " ++ goal.plannerId ++ " is invalid")

def exceptionWarning
    (goal : RoomGoal Pose)
    (what : String) : String :=
  goal.plannerId ++ " plugin failed to plan in room '" ++ goal.roomName ++
    "' on floor '" ++ goal.floorName ++ "' from (" ++
    world.positionText goal.start ++ ") to (" ++
    world.positionText goal.goal ++ "): \"" ++ what ++ "\""

/-- The costmap of the room, or of the floor if it is named as the room. -/
def planningCostmap
    (goal : RoomGoal Pose) : Option Costmap :=
  if goal.roomName = goal.floorName then
    world.floorCostmap goal.floorName
  else
    world.roomCostmap goal.floorName goal.roomName

/-- Plan and smooth in a costmap.  An empty path is a result, too. -/
def planInCostmap
    (map : Costmap)
    (goal : RoomGoal Pose) :
    Except (RoomResult Pose) (RoomResult Pose) :=
  match getPlan world map goal with
  | .error what =>
      .error { errorCode := 200, errorMsg := exceptionWarning world goal what }
  | .ok planned =>
      let smoothed :=
        if 2 < planned.length then world.smooth map planned else (planned, "")
      if smoothed.1.isEmpty then
        .ok { path := smoothed.1
              errorCode := 210
              errorMsg := "No valid path found in room"
              warnings := smoothed.2 }
      else
        .ok { path := smoothed.1
              errorCode := 0
              errorMsg := "Path found successfully"
              warnings := smoothed.2 }

/-- The plugin that has to be there; no name means the default. -/
def requestedPlanner
    (goal : RoomGoal Pose) : String :=
  if goal.plannerId = "" then world.defaultId else goal.plannerId

/-- The part of the callback between the check for preemption and the result.
An error is reported as a failure of the goal. -/
def planInRoom
    (goal : RoomGoal Pose) :
    Except (RoomResult Pose) (RoomResult Pose) :=
  match goal.useStart, world.robotPose with
  | false, .error _ =>
      .error { errorCode := 204
               errorMsg := "Failed to get robot pose - robot may not be localized" }
  | false, .ok false =>
      .error { errorCode := 204
               errorMsg := "Robot not localized - please set initial pose" }
  | _, _ =>
      if !world.isMultiCostmap then
        .error { errorCode := 200
                 errorMsg := "Internal error: costmap type mismatch" }
      else
        match planningCostmap world goal with
        | none =>
            .error { errorCode := 202
                     errorMsg :=
                       if goal.roomName = goal.floorName then
                         "Failed to get aggregated costmap for specified floor"
                       else
                         "Failed to get costmap for specified room" }
        | some map =>
            if requestedPlanner world goal ∈ world.planners then
              planInCostmap world map goal
            else
              .error { errorCode := 201
                       errorMsg := "Planner plugin not found: " ++
                         requestedPlanner world goal }

theorem planInRoom_eq_ok
    {world : PlanningWorld Pose Costmap}
    {goal : RoomGoal Pose}
    {result : RoomResult Pose}
    (isPlan : planInRoom world goal = .ok result) :
    ∃ map, planInCostmap world map goal = .ok result := by
  simp only [planInRoom] at isPlan
  split at isPlan
  · cases isPlan
  · cases isPlan
  · split at isPlan
    · cases isPlan
    · split at isPlan
      · cases isPlan
      · rename_i map _
        split at isPlan
        · exact ⟨map, isPlan⟩
        · cases isPlan

end Planning

/-- Where the worker is.  The goal is the one the callback has read. -/
inductive PlannerWorker (Pose : Type) where
  | idle
  | looping
  | starting
  | read (goal : RoomGoal Pose)
  | preempting (goal : RoomGoal Pose)
  | accepting (goal : RoomGoal Pose)
  | planning (goal : RoomGoal Pose)
  | planned (goal : RoomGoal Pose) (result : RoomResult Pose)
  | reporting (goal : RoomGoal Pose) (result : RoomResult Pose)
  | stopping
  | returned
  | leaving
  deriving DecidableEq

/-- The worker's thread has not ended. -/
def PlannerWorker.isRunning
    {Pose : Type} : PlannerWorker Pose → Bool
  | .idle => false
  | _ => true

structure RoomPlanner (Pose : Type) where
  server : ActionServer (RoomGoal Pose) (RoomResult Pose)
  worker : PlannerWorker Pose
  deriving DecidableEq

section Steps

variable {Pose Costmap : Type}

/-- A goal arrives, which may start the worker. -/
def RoomPlanner.accept
    (planner : RoomPlanner Pose)
    (goal : RoomGoal Pose) : RoomPlanner Pose :=
  let accepted :=
    planner.server.handleAccepted planner.worker.isRunning goal
  { server := accepted.1
    worker := if accepted.2 then .looping else planner.worker }

/-- One step of the worker that does not plan.  `none` means that the worker
cannot take one here. -/
def RoomPlanner.work
    (planner : RoomPlanner Pose) : Option (RoomPlanner Pose) :=
  let server := planner.server
  match planner.worker with
  | .looping =>
      if server.isActive server.currentHandle then
        some { planner with worker := .starting }
      else
        some { planner with worker := .leaving }
  | .starting =>
      server.getCurrentGoal.map fun goal =>
        { planner with worker := .read goal }
  | .read goal =>
      if server.isCancelRequested then
        some { planner with worker := .stopping }
      else
        some { planner with worker := .preempting goal }
  | .preempting goal =>
      if server.preemptRequested then
        some { planner with worker := .accepting goal }
      else
        some { planner with worker := .planning goal }
  | .accepting goal =>
      -- the goal that is accepted does not replace the one that was read
      some { server := server.acceptPendingGoal, worker := .planning goal }
  | .planned goal result =>
      if server.isCancelRequested then
        some { planner with worker := .stopping }
      else
        some { planner with worker := .reporting goal result }
  | .reporting _ result =>
      some { server := server.succeededCurrent result, worker := .returned }
  | .stopping =>
      some { server := server.terminateAll default, worker := .returned }
  | .returned =>
      let ended := server.terminateCurrent default
      if ended.isActive ended.pendingHandle then
        some { server := ended.acceptPendingGoal, worker := .looping }
      else
        some { server := ended, worker := .leaving }
  | .leaving => some { planner with worker := .idle }
  | .planning _ => none
  | .idle => none

/-- The worker plans for the goal it has read. -/
def RoomPlanner.plan
    (planner : RoomPlanner Pose)
    (world : PlanningWorld Pose Costmap)
    (goal : RoomGoal Pose) : RoomPlanner Pose :=
  match planInRoom world goal with
  | .ok result => { planner with worker := .planned goal result }
  | .error result =>
      { server := planner.server.terminateCurrent result, worker := .returned }

/-- The runs of the planner in some worlds, with a condition on the states
steps start in. -/
inductive PlannerRun
    (worlds : Set (PlanningWorld Pose Costmap))
    (condition : RoomPlanner Pose → Prop) :
    RoomPlanner Pose → Prop where
  | start : PlannerRun worlds condition ⟨⟨[], none, none, false⟩, .idle⟩
  | accept {planner : RoomPlanner Pose} (goal : RoomGoal Pose) :
      PlannerRun worlds condition planner →
      condition planner →
      PlannerRun worlds condition (planner.accept goal)
  | cancel {planner : RoomPlanner Pose} (id : Nat) :
      PlannerRun worlds condition planner →
      condition planner →
      PlannerRun worlds condition
        { planner with server := planner.server.handleCancel id }
  | work {planner next : RoomPlanner Pose} :
      PlannerRun worlds condition planner →
      condition planner →
      planner.work = some next →
      PlannerRun worlds condition next
  | plan {planner : RoomPlanner Pose} {goal : RoomGoal Pose}
      (world : PlanningWorld Pose Costmap) :
      PlannerRun worlds condition planner →
      condition planner →
      world ∈ worlds →
      planner.worker = .planning goal →
      PlannerRun worlds condition (planner.plan world goal)

/-- The result can be planned from the fields of a request. -/
def PlannedFrom
    (worlds : Set (PlanningWorld Pose Costmap))
    (request : RoomRequest Pose)
    (result : RoomResult Pose) : Prop :=
  ∃ world ∈ worlds, ∃ goal : RoomGoal Pose,
    goal.toRoomRequest = request ∧ planInRoom world goal = .ok result

/-- Every goal that succeeded has a plan for its own request. -/
def OwnPlans
    (worlds : Set (PlanningWorld Pose Costmap))
    (planner : RoomPlanner Pose) : Prop :=
  ∀ handle ∈ planner.server.handles, ∀ result,
    handle.status = .succeeded result →
      PlannedFrom worlds handle.goal.toRoomRequest result

/-- When the callback accepts a newer goal, this has the same request as the
goal the callback has read. -/
def AcceptsSameRequest
    (planner : RoomPlanner Pose) : Prop :=
  ∀ goal, planner.worker = .accepting goal →
    planner.server.isActive planner.server.pendingHandle = true →
      ∀ id, planner.server.pendingHandle = some id →
        ∀ newer, planner.server.goal? id = some newer →
          newer.toRoomRequest = goal.toRoomRequest

end Steps

section Invariant

variable {Pose Costmap : Type}
  {worlds : Set (PlanningWorld Pose Costmap)} {planner next : RoomPlanner Pose}

/-- The goal the callback has read. -/
def PlannerWorker.goal? : PlannerWorker Pose → Option (RoomGoal Pose)
  | .read goal => some goal
  | .preempting goal => some goal
  | .accepting goal => some goal
  | .planning goal => some goal
  | .planned goal _ => some goal
  | .reporting goal _ => some goal
  | _ => none

/-- The result the callback has planned. -/
def PlannerWorker.result? : PlannerWorker Pose → Option (RoomResult Pose)
  | .planned _ result => some result
  | .reporting _ result => some result
  | _ => none

/-- Every success is the plan of its goal. -/
def OwnSuccesses
    (worlds : Set (PlanningWorld Pose Costmap))
    (server : ActionServer (RoomGoal Pose) (RoomResult Pose)) : Prop :=
  ∀ id goal result, server.goal? id = some goal →
    server.status? id = some (.succeeded result) →
      PlannedFrom worlds goal.toRoomRequest result

/-- The current goal has the request of a goal. -/
def ServesRequest
    (server : ActionServer (RoomGoal Pose) (RoomResult Pose))
    (goal : RoomGoal Pose) : Prop :=
  ∀ id, server.currentHandle = some id →
    ∃ held, server.goal? id = some held ∧
      held.toRoomRequest = goal.toRoomRequest

/-- The callback works for the current goal. -/
structure PlannerInvariant
    (worlds : Set (PlanningWorld Pose Costmap))
    (planner : RoomPlanner Pose) : Prop where
  serves : ∀ goal, planner.worker.goal? = some goal →
    ServesRequest planner.server goal
  planned : ∀ goal result, planner.worker.goal? = some goal →
    planner.worker.result? = some result →
      PlannedFrom worlds goal.toRoomRequest result
  own : OwnSuccesses worlds planner.server

variable {before after : ActionServer (RoomGoal Pose) (RoomResult Pose)}

theorem OwnSuccesses.keeps
    (own : OwnSuccesses worlds before)
    (keeps : before.Keeps after) :
    OwnSuccesses worlds after := by
  intro id goal result isGoal isSucceeded
  have wasSucceeded := keeps.succeeded id result isSucceeded
  obtain ⟨old, wasGoal⟩ := ActionServer.exists_goal wasSucceeded
  obtain rfl : old = goal :=
    Option.some.inj ((keeps.goals id old wasGoal).symm.trans isGoal)
  exact own id old result wasGoal wasSucceeded

variable
  {goal : RoomGoal Pose}

theorem ServesRequest.keeps
    (serves : ServesRequest before goal)
    (keeps : before.Keeps after)
    (sameCurrent : after.currentHandle = before.currentHandle) :
    ServesRequest after goal := by
  intro id isCurrent
  obtain ⟨held, isGoal, same⟩ := serves id (sameCurrent ▸ isCurrent)
  exact ⟨held, keeps.goals id held isGoal, same⟩

/-- A callback that has returned only needs the successes to be right. -/
theorem PlannerInvariant.of_no_goal
    (noGoal : planner.worker.goal? = none)
    (own : OwnSuccesses worlds planner.server) :
    PlannerInvariant worlds planner where
  serves := by simp [noGoal]
  planned := by simp [noGoal]
  own := own

theorem PlannerInvariant.accept
    (invariant : PlannerInvariant worlds planner)
    (goal : RoomGoal Pose) :
    PlannerInvariant worlds (planner.accept goal) := by
  have keeps : planner.server.Keeps (planner.accept goal).server :=
    ActionServer.keeps_handleAccepted _ goal
  have own := invariant.own.keeps keeps
  cases isRunning : planner.worker.isRunning with
  | false =>
    have isIdle : planner.worker = .idle := by
      cases worker : planner.worker <;>
        simp_all [PlannerWorker.isRunning]
    refine .of_no_goal ?_ own
    simp only [RoomPlanner.accept, isIdle]
    split <;> rfl
  | true =>
    have sameWorker : (planner.accept goal).worker = planner.worker := by
      simp [RoomPlanner.accept, isRunning, ActionServer.handleAccepted]
    have sameCurrent :
        (planner.accept goal).server.currentHandle =
          planner.server.currentHandle := by
      simp only [RoomPlanner.accept, isRunning]
      exact ActionServer.currentHandle_handleAccepted goal
    refine ⟨?_, ?_, own⟩
    · rw [sameWorker]
      intro read isRead
      exact (invariant.serves read isRead).keeps keeps sameCurrent
    · rw [sameWorker]
      exact invariant.planned

theorem PlannerInvariant.cancel
    (invariant : PlannerInvariant worlds planner)
    (id : Nat) :
    PlannerInvariant worlds
      { planner with server := planner.server.handleCancel id } where
  serves := fun goal isRead =>
    (invariant.serves goal isRead).keeps (ActionServer.keeps_handleCancel id)
      (ActionServer.currentHandle_handleCancel id)
  planned := invariant.planned
  own := invariant.own.keeps (ActionServer.keeps_handleCancel id)

theorem PlannerInvariant.move
    {worker : PlannerWorker Pose}
    (invariant : PlannerInvariant worlds planner)
    (sameGoal : worker.goal? = planner.worker.goal?)
    (sameResult : worker.result? = planner.worker.result?) :
    PlannerInvariant worlds { planner with worker } where
  serves := fun goal isRead => invariant.serves goal (sameGoal ▸ isRead)
  planned := fun goal result isRead isPlanned =>
    invariant.planned goal result (sameGoal ▸ isRead) (sameResult ▸ isPlanned)
  own := invariant.own

theorem ServesRequest.acceptPending
    (serves : ServesRequest before goal)
    (sameRequest : before.isActive before.pendingHandle = true →
      ∀ id, before.pendingHandle = some id →
        ∀ newer, before.goal? id = some newer →
          newer.toRoomRequest = goal.toRoomRequest) :
    ServesRequest before.acceptPendingGoal goal := by
  by_cases isActive : before.isActive before.pendingHandle = true
  · intro id isCurrent
    have isPending : before.pendingHandle = some id := by
      simpa [ActionServer.acceptPendingGoal, isActive] using isCurrent
    have hasStatus : ∃ status, before.status? id = some status := by
      rw [isPending, ActionServer.isActive, Option.bind_some] at isActive
      cases held : before.status? id with
      | none => simp [held] at isActive
      | some status => exact ⟨status, rfl⟩
    obtain ⟨status, isStatus⟩ := hasStatus
    obtain ⟨newer, isGoal⟩ := ActionServer.exists_goal isStatus
    exact ⟨newer, ActionServer.keeps_acceptPendingGoal.goals id newer isGoal,
      sameRequest isActive id isPending newer isGoal⟩
  · rw [ActionServer.acceptPendingGoal, if_neg isActive]
    exact serves

theorem OwnSuccesses.succeededCurrent
    {result : RoomResult Pose}
    (own : OwnSuccesses worlds before)
    (serves : ServesRequest before goal)
    (isPlan : PlannedFrom worlds goal.toRoomRequest result) :
    OwnSuccesses worlds (before.succeededCurrent result) := by
  cases isCurrent : before.currentHandle with
  | none => simpa [ActionServer.succeededCurrent, isCurrent] using own
  | some current =>
      by_cases isActive : before.isActive (some current) = true
      · intro id held reported isGoal isSucceeded
        simp only [ActionServer.succeededCurrent, isCurrent, isActive,
          if_true] at isGoal isSucceeded
        have wasGoal : before.goal? id = some held :=
          (ActionServer.goal?_setStatus before current id _).symm.trans isGoal
        have status := (ActionServer.status?_setStatus before current id
          (.succeeded result)).symm.trans isSucceeded
        by_cases isReported : current = id
        · subst isReported
          rw [if_pos rfl] at status
          obtain ⟨_, -, same⟩ := Option.map_eq_some_iff.mp status
          cases same
          obtain ⟨served, isServed, sameRequest⟩ := serves current isCurrent
          obtain rfl : served = held :=
            Option.some.inj (isServed.symm.trans wasGoal)
          rw [sameRequest]
          exact isPlan
        · rw [if_neg isReported] at status
          exact own id held reported wasGoal status
      · simpa [ActionServer.succeededCurrent, isCurrent, isActive] using own

theorem PlannerInvariant.work
    (invariant : PlannerInvariant worlds planner)
    (sameRequest : AcceptsSameRequest planner)
    (isStep : planner.work = some next) :
    PlannerInvariant worlds next := by
  obtain ⟨server, worker⟩ := planner
  cases worker with
  | idle => cases isStep
  | planning goal => cases isStep
  | looping =>
      simp only [RoomPlanner.work] at isStep
      split at isStep <;> cases isStep <;> exact .of_no_goal rfl invariant.own
  | starting =>
      obtain ⟨goal, isCurrentGoal, rfl⟩ := Option.map_eq_some_iff.mp isStep
      refine ⟨?_, by simp [PlannerWorker.result?], invariant.own⟩
      rintro _ ⟨⟩ id isCurrent
      simp only [ActionServer.getCurrentGoal] at isCurrentGoal
      split at isCurrentGoal
      · rw [isCurrent] at isCurrentGoal
        exact ⟨goal, isCurrentGoal, rfl⟩
      · cases isCurrentGoal
  | read goal =>
      simp only [RoomPlanner.work] at isStep
      split at isStep
      · cases isStep
        exact .of_no_goal rfl invariant.own
      · cases isStep
        exact invariant.move rfl rfl
  | preempting goal =>
      simp only [RoomPlanner.work] at isStep
      split at isStep <;> cases isStep <;> exact invariant.move rfl rfl
  | accepting goal =>
      cases isStep
      refine ⟨?_, by simp [PlannerWorker.result?],
        invariant.own.keeps ActionServer.keeps_acceptPendingGoal⟩
      rintro _ ⟨⟩
      exact (invariant.serves goal rfl).acceptPending
        (sameRequest goal rfl)
  | planned goal result =>
      simp only [RoomPlanner.work] at isStep
      split at isStep
      · cases isStep
        exact .of_no_goal rfl invariant.own
      · cases isStep
        exact invariant.move rfl rfl
  | reporting goal result =>
      cases isStep
      exact .of_no_goal rfl (invariant.own.succeededCurrent
        (invariant.serves goal rfl) (invariant.planned goal result rfl rfl))
  | stopping =>
      cases isStep
      exact .of_no_goal rfl
        (invariant.own.keeps (ActionServer.keeps_terminateAll default))
  | returned =>
      have ended := invariant.own.keeps
        (ActionServer.keeps_terminateCurrent default)
      simp only [RoomPlanner.work] at isStep
      split at isStep
      · cases isStep
        exact .of_no_goal rfl
          (ended.keeps ActionServer.keeps_acceptPendingGoal)
      · cases isStep
        exact .of_no_goal rfl ended
  | leaving =>
      cases isStep
      exact .of_no_goal rfl invariant.own

theorem PlannerInvariant.plan
    {world : PlanningWorld Pose Costmap}
    {goal : RoomGoal Pose}
    (invariant : PlannerInvariant worlds planner)
    (inWorld : world ∈ worlds)
    (isPlanning : planner.worker = .planning goal) :
    PlannerInvariant worlds (planner.plan world goal) := by
  cases isPlan : planInRoom world goal with
  | error result =>
      simp only [RoomPlanner.plan, isPlan]
      exact .of_no_goal rfl
        (invariant.own.keeps (ActionServer.keeps_terminateCurrent result))
  | ok result =>
      simp only [RoomPlanner.plan, isPlan]
      refine ⟨?_, ?_, invariant.own⟩
      · rintro _ ⟨⟩
        exact invariant.serves goal (by rw [isPlanning]; rfl)
      · rintro _ _ ⟨⟩ ⟨⟩
        exact ⟨world, inWorld, goal, rfl, isPlan⟩

theorem PlannerRun.invariant
    (run : PlannerRun worlds AcceptsSameRequest planner) :
    PlannerInvariant worlds planner := by
  induction run with
  | start => exact .of_no_goal rfl (by intro id goal result isGoal; cases isGoal)
  | accept goal _ _ invariant => exact invariant.accept goal
  | cancel id _ _ invariant => exact invariant.cancel id
  | work _ sameRequest isStep invariant =>
      exact invariant.work sameRequest isStep
  | plan world _ _ inWorld isPlanning invariant =>
      exact invariant.plan inWorld isPlanning

/-- In every run in which the callback never accepts a goal with another
request than the one it has read, goals that succeed have their own plan. -/
theorem succeeded_goals_have_own_plans
    (worlds : Set (PlanningWorld Pose Costmap))
    (planner : RoomPlanner Pose)
    (run : PlannerRun worlds AcceptsSameRequest planner) :
    OwnPlans worlds planner := by
  intro handle isMember result isSucceeded
  obtain ⟨id, isHandle⟩ := List.mem_iff_getElem?.mp isMember
  have isGoal : planner.server.goal? id = some handle.goal := by
    rw [ActionServer.goal?, isHandle]
    rfl
  have status : planner.server.status? id = some (.succeeded result) := by
    rw [ActionServer.status?, isHandle, ← isSucceeded]
    rfl
  exact run.invariant.own id handle.goal result isGoal status

end Invariant

/-- A world in which every path goes straight from the start to the goal. -/
def straightWorld : PlanningWorld Nat Unit where
  robotPose := .ok true
  isMultiCostmap := true
  floorCostmap := fun _ => some ()
  roomCostmap := fun _ _ => some ()
  planners := ["planner"]
  defaultId := "planner"
  createPlan := fun _ _ start goal => .ok [start, goal]
  smooth := fun _ path => (path, "")
  positionText := fun _ => ""

def hallGoal
    (goal : Nat) : RoomGoal Nat :=
  ⟨⟨0, goal, "floor", "hall"⟩, "planner", true⟩

theorem getPlan_straightWorld
    {goal : RoomGoal Nat}
    {path : List Nat}
    (isPlan : getPlan straightWorld () goal = .ok path) :
    path = [goal.start, goal.goal] := by
  simp only [getPlan] at isPlan
  split at isPlan
  · cases isPlan
    rfl
  · split at isPlan
    · cases isPlan
      rfl
    · cases isPlan

theorem path_straightWorld
    {goal : RoomGoal Nat}
    {result : RoomResult Nat}
    (isPlan : planInRoom straightWorld goal = .ok result) :
    result.path = [goal.start, goal.goal] := by
  obtain ⟨map, inCostmap⟩ := planInRoom_eq_ok isPlan
  simp only [planInCostmap] at inCostmap
  split at inCostmap
  · cases inCostmap
  · rename_i planned isPlanned
    obtain rfl := getPlan_straightWorld isPlanned
    cases inCostmap
    rfl

/-- A goal that arrives before the check for preemption gets the plan of the
goal before it. -/
theorem newer_goal_gets_older_plan :
    ∃ planner : RoomPlanner Nat,
      PlannerRun {straightWorld} (fun _ => True) planner ∧
        ¬ OwnPlans {straightWorld} planner := by
  have first : PlannerRun {straightWorld} (fun _ => True) _ :=
    .accept (hallGoal 1) .start trivial
  have started := PlannerRun.work first trivial rfl
  have hasRead := PlannerRun.work started trivial rfl
  have notCanceled := PlannerRun.work hasRead trivial rfl
  have second := PlannerRun.accept (hallGoal 2) notCanceled trivial
  have preempted := PlannerRun.work second trivial rfl
  have accepted := PlannerRun.work preempted trivial rfl
  have planned := PlannerRun.plan straightWorld accepted trivial rfl rfl
  have checked := PlannerRun.work planned trivial rfl
  have reported := PlannerRun.work checked trivial rfl
  refine ⟨_, reported, ?_⟩
  intro own
  obtain ⟨world, rfl, goal, isRequest, isPlan⟩ := own
    ⟨hallGoal 2, .succeeded ⟨[0, 1], 0, "Path found successfully", ""⟩⟩
    (by decide +kernel) _ rfl
  have path := path_straightWorld isPlan
  rw [show goal.start = 0 from congrArg RoomRequest.start isRequest,
    show goal.goal = 2 from congrArg RoomRequest.goal isRequest] at path
  cases path

/-- A goal that is not disturbed gets its own plan. -/
theorem single_goal_gets_own_plan :
    ∃ planner : RoomPlanner Nat,
      PlannerRun {straightWorld} AcceptsSameRequest planner ∧
        (⟨hallGoal 1, .succeeded ⟨[0, 1], 0, "Path found successfully", ""⟩⟩ ∈
          planner.server.handles) ∧
        OwnPlans {straightWorld} planner := by
  have first : PlannerRun {straightWorld} AcceptsSameRequest _ :=
    .accept (hallGoal 1) .start (by intro goal isAccepting; cases isAccepting)
  have started := PlannerRun.work first
    (by intro goal isAccepting; cases isAccepting) rfl
  have hasRead := PlannerRun.work started
    (by intro goal isAccepting; cases isAccepting) rfl
  have notCanceled := PlannerRun.work hasRead
    (by intro goal isAccepting; cases isAccepting) rfl
  have notPreempted := PlannerRun.work notCanceled
    (by intro goal isAccepting; cases isAccepting) rfl
  have planned := PlannerRun.plan straightWorld notPreempted
    (by intro goal isAccepting; cases isAccepting) rfl rfl
  have checked := PlannerRun.work planned
    (by intro goal isAccepting; cases isAccepting) rfl
  have reported := PlannerRun.work checked
    (by intro goal isAccepting; cases isAccepting) rfl
  exact ⟨_, reported, by decide +kernel,
    succeeded_goals_have_own_plans _ _ reported⟩

end NavBim
