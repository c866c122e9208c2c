import Mathlib
import NavBim.ActionClient
import NavBim.RecoveryNode

namespace NavBim

/-!
# A node of the behavior tree that sends goals to an action server

A call of `tick` or `halt` spins the node's own executor at some places, and
there it takes in the messages that have arrived: the response to a goal, a
status, feedback, a result.  A call is cut at these places, so a step is the
part of a call up to its next spin, one message, or one step of the server.

The goals are numbered in the order in which they were sent.  Beside the node
are kept what the server did with each goal, which messages about it have been
taken in, and the goal sent last since the node became active.
-/

/-- What the client was told of an accepted goal. -/
inductive KnownStatus where
  | accepted
  | executing
  | canceling
  | ended
  deriving DecidableEq, Repr

structure SentGoal where
  progress : GoalProgress
  cancelRequested : Bool
  answered : Bool
  known : KnownStatus
  resultTaken : Bool
  deriving DecidableEq, Repr

/--
Where a call is.  Waiting for the response to a goal goes on until a time.  A
call that uses a null handle comes to nothing, and so does one in which the
callback of a result does.
-/
inductive CallPhase where
  | resting
  | acknowledging (isUpdate : Bool) (elapsed : Int)
  | spinning
  | checking
  | cancelling
  | crashed
  | callbackCrashed
  deriving DecidableEq, Repr

/--
What the last call came to.  A tick may give up without a result, wait for one
or come back through the hook for the result.
-/
inductive BtReturn where
  | halted
  | gaveUp
  | waiting
  | finished (status : NodeStatus)
  | threw
  deriving DecidableEq, Repr

structure BtActionNode where
  status : NodeStatus
  goalUpdated : Bool
  goalResultAvailable : Bool
  goalHandle : Option Nat
  futureGoalHandle : Option Nat
  result : Option (Nat × ResultCode)
  feedback : Option Nat
  goals : List SentGoal
  activationGoal : Option Nat
  phase : CallPhase
  returned : Option BtReturn
  deriving DecidableEq, Repr

structure BtTimeouts where
  serverTimeout : Int
  maxTimeout : Int

/--
What a part of a tick finds: what the hooks say, what the clock shows when the
goal is asked for and right after an update, and whether ROS is up.
-/
structure TickInput where
  shouldSendGoal : Bool
  elapsed : Int
  interrupted : Bool
  ok : Bool
  goalUpdated : Option Bool
  updateElapsed : Int
  outcome : NodeStatus

/-- A message of the server about a goal. -/
inductive BtMessage where
  | response
  | status (known : KnownStatus)
  | feedback
  | result

inductive BtEvent where
  | serverAccepts (goal : Nat)
  | serverRejects (goal : Nat)
  | serverFinishes (goal : Nat) (code : ResultCode)
  | cancelRequested (goal : Nat)
  | message (goal : Nat) (message : BtMessage)
  | tick (input : TickInput)
  | spinEnds (input : TickInput)
  | halt
  | resetStatus

/-- The tree's own test for a node that is not at rest. -/
def isStatusActive : NodeStatus → Bool
  | .idle | .skipped => false
  | .running | .success | .failure => true

namespace BtActionNode

def initial : BtActionNode where
  status := .idle
  goalUpdated := false
  goalResultAvailable := false
  goalHandle := none
  futureGoalHandle := none
  result := none
  feedback := none
  goals := []
  activationGoal := none
  phase := .resting
  returned := none

variable
  (node : BtActionNode)

def returns
    (returned : BtReturn) : BtActionNode :=
  { node with phase := .resting, returned := some returned }

/-- A tick that comes back with `FAILURE` and without a result. -/
def giveUp
    (node : BtActionNode) : BtActionNode :=
  { node with status := .failure }.returns .gaveUp

/-- A tick that comes back with `RUNNING`. -/
def wait
    (node : BtActionNode) : BtActionNode :=
  { node with status := .running }.returns .waiting

def sendNewGoal
    (node : BtActionNode) : BtActionNode :=
  { node with
    goalResultAvailable := false
    futureGoalHandle := some node.goals.length
    activationGoal := some node.goals.length
    goals := node.goals ++ [{
      progress := .sent
      cancelRequested := false
      answered := false
      known := .accepted
      resultTaken := false }] }

def isAnswered
    (goal : Nat) : Bool :=
  (node.goals[goal]?).any SentGoal.answered

def isRejected
    (goal : Nat) : Bool :=
  (node.goals[goal]?).any (·.progress = .rejected)

/-- The client takes the goal to be accepted or executing. -/
def isKnownActive
    (goal : Nat) : Bool :=
  (node.goals[goal]?).any fun sent =>
    sent.known = .accepted || sent.known = .executing

variable
  (timeouts : BtTimeouts)

/-- The goal was not acknowledged, and it may be too late for that. -/
def notAcknowledged
    (node : BtActionNode)
    (elapsed : Int) : BtActionNode :=
  if elapsed < timeouts.serverTimeout then
    node.wait
  else
    { node with futureGoalHandle := none }.giveUp

/-- `is_future_goal_handle_complete` up to its spin. -/
def startWaiting
    (node : BtActionNode)
    (isUpdate : Bool)
    (elapsed : Int) : BtActionNode :=
  let remaining := timeouts.serverTimeout - elapsed
  if remaining ≤ 0 then
    notAcknowledged timeouts { node with futureGoalHandle := none } elapsed
  else
    let timeout := if remaining > timeouts.maxTimeout then
      timeouts.maxTimeout
    else
      remaining
    { node with phase := .acknowledging isUpdate (elapsed + timeout) }

/-- The end of a tick, with the hook for the code of the result. -/
def finish
    (outcome : NodeStatus) : BtActionNode :=
  match node.result.map Prod.snd with
  | some .succeeded | some .aborted | some .canceled =>
      { node with goalHandle := none, status := outcome }.returns
        (.finished outcome)
  | some .unknown | none => node.returns .threw

/-- The part of a tick for a goal that was acknowledged, up to its spin. -/
def runningLoop
    (node : BtActionNode)
    (input : TickInput) : BtActionNode :=
  if input.ok && !node.goalResultAvailable then
    let waited := { node with
      goalUpdated := input.goalUpdated.getD node.goalUpdated
      feedback := none }
    match waited.goalHandle with
    | none => { waited with phase := .crashed }
    | some handle =>
        if waited.goalUpdated && waited.isKnownActive handle then
          startWaiting timeouts { waited with goalUpdated := false }.sendNewGoal
            true input.updateElapsed
        else
          { waited with phase := .spinning }
  else
    node.finish input.outcome

/-- The part of a tick after the goal was sent, if it had to be. -/
def awaitResponse
    (node : BtActionNode)
    (input : TickInput) : BtActionNode :=
  match node.futureGoalHandle with
  | some _ => startWaiting timeouts node false input.elapsed
  | none => runningLoop timeouts node input

def tick
    (node : BtActionNode)
    (input : TickInput) : BtActionNode :=
  let called := { node with returned := none }
  if isStatusActive called.status then
    awaitResponse timeouts called input
  else
    let activated := { called with
      result := none
      activationGoal := none
      status := .running }
    if input.shouldSendGoal then
      awaitResponse timeouts activated.sendNewGoal input
    else
      activated.giveUp

/-- A tick goes on after the spin for the response to a goal. -/
def afterWaiting
    (node : BtActionNode)
    (isUpdate : Bool)
    (elapsed : Int)
    (input : TickInput) : BtActionNode :=
  match node.futureGoalHandle with
  | none => node
  | some goal =>
      if node.isAnswered goal then
        if node.isRejected goal then
          { node with futureGoalHandle := none, goalHandle := none }.giveUp
        else
          let acknowledged := { node with
            futureGoalHandle := none
            goalHandle := some goal }
          if isUpdate then
            { acknowledged with phase := .spinning }
          else
            runningLoop timeouts acknowledged input
      else if input.interrupted then
        { node with futureGoalHandle := none }.giveUp
      else
        notAcknowledged timeouts node elapsed

/-- A tick goes on after the spin for the result. -/
def afterSpinning
    (input : TickInput) : BtActionNode :=
  if node.goalResultAvailable then
    node.finish input.outcome
  else
    node.wait

def leaveHalt
    (node : BtActionNode) : BtActionNode :=
  { node with status := .idle }.returns .halted

/-- `should_cancel_goal` up to its spin. -/
def halt
    (node : BtActionNode) : BtActionNode :=
  let called := { node with returned := none }
  if called.status ≠ .running then
    called.leaveHalt
  else
    match called.goalHandle with
    | none => called.leaveHalt
    | some _ => { called with phase := .checking }

/-- The rest of `should_cancel_goal`, and the request to cancel the goal. -/
def afterChecking
    (node : BtActionNode) : BtActionNode :=
  match node.goalHandle with
  | none => node
  | some handle =>
      if node.isKnownActive handle then
        { node with
          goals := node.goals.modify handle
            ({ · with cancelRequested := true })
          phase := .cancelling }
      else
        node.leaveHalt

/-- A call goes on after a spin. -/
def spinEnds
    (node : BtActionNode)
    (input : TickInput) : BtActionNode :=
  match node.phase with
  | .acknowledging isUpdate elapsed =>
      afterWaiting timeouts node isUpdate elapsed input
  | .spinning => node.afterSpinning input
  | .checking => node.afterChecking
  | .cancelling => node.leaveHalt
  | .resting | .crashed | .callbackCrashed => node

/-- The executor takes in messages until the goal waited for is answered. -/
def takesMessages
    (node : BtActionNode) : Bool :=
  match node.phase with
  | .acknowledging _ _ => !node.futureGoalHandle.any node.isAnswered
  | .spinning | .checking | .cancelling => true
  | .resting | .crashed | .callbackCrashed => false

variable
  (goal : Nat)

def setGoal
    (change : SentGoal → SentGoal) : BtActionNode :=
  { node with goals := node.goals.modify goal change }

/-- The callback for the result of a goal. -/
def resultCallback
    (code : ResultCode) : BtActionNode :=
  if node.futureGoalHandle.isSome then
    node
  else
    match node.goalHandle with
    | none => { node with phase := .callbackCrashed }
    | some handle =>
        if handle = goal then
          { node with
            goalResultAvailable := true
            result := some (goal, code) }
        else
          node

/-- A message that the server has sent for a goal in this state. -/
def isSent
    (sent : SentGoal) : BtMessage → Bool
  | .response => !sent.answered && sent.progress ≠ .sent
  | .status known =>
      sent.answered && sent.progress ≠ .rejected && !sent.resultTaken &&
        (known ≠ .canceling || sent.cancelRequested) &&
        (known ≠ .ended || sent.progress ≠ .accepted)
  | .feedback => sent.answered && sent.progress ≠ .rejected
  | .result => sent.answered && !sent.resultTaken

/-- A message about a goal is taken in.  A result is there once the goal has
come to its end. -/
def takeMessage
    (sent : SentGoal) : BtMessage → BtActionNode
  | .response =>
      node.setGoal goal ({ · with answered := true, known := .accepted })
  | .status known => node.setGoal goal ({ · with known })
  | .feedback => { node with feedback := some goal }
  | .result =>
      match sent.progress with
      | .finished code =>
          (node.setGoal goal ({ · with
            known := .ended
            resultTaken := true })).resultCallback goal code
      | .sent | .accepted | .rejected => node

def onMessage
    (message : BtMessage) : BtActionNode :=
  match node.goals[goal]? with
  | some sent =>
      if node.takesMessages && isSent sent message then
        node.takeMessage goal sent message
      else
        node
  | none => node

/-- The server goes on with a goal that has come so far. -/
def serverMoves
    (before after : GoalProgress) : BtActionNode :=
  node.setGoal goal fun sent =>
    if sent.progress = before then { sent with progress := after } else sent

def step
    (node : BtActionNode) : BtEvent → BtActionNode
  | .serverAccepts goal => node.serverMoves goal .sent .accepted
  | .serverRejects goal => node.serverMoves goal .sent .rejected
  | .serverFinishes goal code =>
      node.serverMoves goal .accepted (.finished code)
  | .cancelRequested goal =>
      node.setGoal goal ({ · with cancelRequested := true })
  | .message goal message => node.onMessage goal message
  | .tick input =>
      if node.phase = .resting then tick timeouts node input else node
  | .spinEnds input => spinEnds timeouts node input
  | .halt => if node.phase = .resting then node.halt else node
  | .resetStatus =>
      if node.phase = .resting ∧ node.status ≠ .running then
        { node with status := .idle }
      else
        node

end BtActionNode

end NavBim
