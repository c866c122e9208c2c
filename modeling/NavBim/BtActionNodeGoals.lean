import Mathlib
import NavBim.BtActionNodeCalls
import NavBim.EventRun

namespace NavBim

/-!
# Goals that a node leaves behind

A goal is settled when it was rejected, has come to an end, is to be cancelled,
or was followed by a goal that the server accepted.  While a node is running,
the only goals that may not be settled are the one it waits for and the one of
its handle.

A node lets go of the goal it waits for when its response does not come in
time, and `halt` cancels the goal of the handle only.  So it is the time of the
responses that decides whether a goal is left running.
-/

namespace BtActionNode

def Settled
    (goals : List SentGoal)
    (goal : Nat) : Prop :=
  ∀ sent ∈ goals[goal]?, sent.Done ∨
    ∃ later > goal, ∃ other ∈ goals[later]?, other.WasAccepted

def AllSettled
    (goals : List SentGoal) : Prop :=
  ∀ goal, Settled goals goal

/-- A call that is over, unless the node goes on running. -/
def isEnd : BtReturn → Bool
  | .halted | .gaveUp | .finished .success | .finished .failure => true
  | .waiting | .threw | .finished .idle | .finished .running
  | .finished .skipped => false

/-- A halt or a tick that came back with a result leaves no goal running. -/
def LeavesNoGoal
    (node : BtActionNode) : Prop :=
  ∀ returned ∈ node.returned, isEnd returned = true → AllSettled node.goals

/-- The goals that may be left are the two that the node holds. -/
def Minds
    (node : BtActionNode) : Prop :=
  ∀ goal, node.futureGoalHandle ≠ some goal → node.goalHandle ≠ some goal →
    Settled node.goals goal

structure Tends
    (node : BtActionNode) : Prop where
  minds : node.Minds
  leavesNoGoal : node.LeavesNoGoal
  calling : node.phase ≠ .resting → node.returned = none
  inactive : node.status ≠ .running → AllSettled node.goals ∨
    node.phase = .spinning ∨ ∃ elapsed, node.phase = .acknowledging true elapsed

/-- The goal that the node waits for is settled. -/
def FutureSettled
    (node : BtActionNode) : Prop :=
  ∀ goal ∈ node.futureGoalHandle, Settled node.goals goal

/-- If the goal is updated, there is time to wait for the response. -/
def UpdatesInTime
    (timeouts : BtTimeouts)
    (node : BtActionNode)
    (input : TickInput) : Prop :=
  input.ok = true → node.goalResultAvailable = false →
    input.goalUpdated.getD node.goalUpdated = true →
      ∀ handle ∈ node.goalHandle, node.isKnownActive handle = true →
        input.updateElapsed < timeouts.serverTimeout

/--
The server answers in time.  When a tick gives up waiting for a response, all
goals are settled.  When an update is rejected, the goal before it is settled.
When a halt comes back, the goal that the node still waits for is settled.
-/
def AnswersInTime
    (timeouts : BtTimeouts)
    (node : BtActionNode) : BtEvent → Prop
  | .tick input => node.phase = .resting →
      if isStatusActive node.status then
        if node.futureGoalHandle.isSome then
          input.elapsed < timeouts.serverTimeout ∨ AllSettled node.goals
        else
          UpdatesInTime timeouts node input
      else
        input.shouldSendGoal = true → input.elapsed < timeouts.serverTimeout
  | .spinEnds input =>
      match node.phase with
      | .acknowledging isUpdate elapsed => ∀ goal ∈ node.futureGoalHandle,
          if node.isAnswered goal then
            if node.isRejected goal then
              ∀ handle ∈ node.goalHandle, Settled node.goals handle
            else
              isUpdate = false →
                UpdatesInTime timeouts { node with goalHandle := some goal }
                  input
          else
            input.interrupted = true ∨ timeouts.serverTimeout ≤ elapsed →
              AllSettled node.goals
      | .checking => ∀ handle ∈ node.goalHandle,
          node.isKnownActive handle = false → node.FutureSettled
      | .cancelling => node.FutureSettled
      | .resting | .spinning | .crashed | .callbackCrashed => True
  | .halt => node.phase = .resting → node.status = .running →
      node.goalHandle = none → node.FutureSettled
  | _ => True

variable
  {node : BtActionNode}
  {timeouts : BtTimeouts}

variable
  {goals : List SentGoal}
  {goal : Nat}

theorem settled_modify
    {change : SentGoal → SentGoal}
    (carries : Carries goals goal change)
    {other : Nat}
    (settled : Settled goals other) :
    Settled (goals.modify goal change) other := by
  intro after foundAfter
  cases found : goals[other]? with
  | none =>
      rw [List.getElem?_modify, found] at foundAfter
      exact nomatch foundAfter
  | some sent =>
      obtain ⟨same, foundSame, goesOn⟩ := carries.found found
      obtain rfl : same = after :=
        Option.some.inj (foundSame.symm.trans foundAfter)
      rcases settled sent found with done | ⟨later, isLater, next, foundNext,
        accepted⟩
      · exact .inl (goesOn.done done)
      · obtain ⟨nextAfter, foundNextAfter, nextGoesOn⟩ :=
          carries.found foundNext
        exact .inr ⟨later, isLater, nextAfter, foundNextAfter,
          nextGoesOn.accepted accepted⟩

/-- Sending a goal does not unsettle another one. -/
theorem settled_append
    (settled : Settled goals goal)
    (notNew : goal ≠ goals.length)
    (sentNow : SentGoal) :
    Settled (goals ++ [sentNow]) goal := by
  intro sent found
  have before : goals[goal]? = some sent := by
    have inRange := (List.getElem?_eq_some_iff.mp found).1
    rw [List.length_append, List.length_singleton] at inRange
    have inGoals : goal < goals.length :=
      lt_of_le_of_ne (Nat.le_of_lt_succ inRange) notNew
    rw [List.getElem?_append_left inGoals] at found
    exact found
  rcases settled sent before with done | ⟨later, isLater, other, foundOther,
    accepted⟩
  · exact .inl done
  · exact .inr ⟨later, isLater, other, getElem?_append_of_some foundOther,
      accepted⟩

theorem settled_of_done
    {sent : SentGoal}
    (found : goals[goal]? = some sent)
    (done : sent.Done) :
    Settled goals goal := by
  intro other foundOther
  rw [← Option.some.inj (found.symm.trans foundOther)]
  exact .inl done

theorem not_allSettled_sendNewGoal
    (node : BtActionNode) :
    ¬AllSettled node.sendNewGoal.goals := by
  intro settled
  have found : node.sendNewGoal.goals[node.goals.length]? = some {
      progress := .sent
      cancelRequested := false
      answered := false
      known := .accepted
      resultTaken := false } := List.getElem?_concat_length
  rcases settled node.goals.length _ found with
    (rejected | ⟨code, finished⟩ | cancelRequested) | ⟨later, isLater, other,
      foundOther, -⟩
  · exact nomatch rejected
  · exact nomatch finished
  · exact nomatch cancelRequested
  · have inRange := (List.getElem?_eq_some_iff.mp foundOther).1
    rw [sendNewGoal, List.length_append, List.length_singleton] at inRange
    exact absurd isLater (not_lt.mpr (Nat.le_of_lt_succ inRange))

theorem Tends.initial : Tends initial where
  minds _ _ _ _ found := nomatch found
  leavesNoGoal _ returned := nomatch returned
  calling inCall := absurd rfl inCall
  inactive _ := .inl fun _ _ found => nomatch found

theorem minds_of_allSettled
    (settled : AllSettled node.goals) :
    Minds node :=
  fun goal _ _ => settled goal

theorem tends_giveUp
    (settled : AllSettled node.goals) :
    Tends node.giveUp where
  minds goal _ _ := settled goal
  leavesNoGoal _ _ _ := settled
  calling inCall := absurd rfl inCall
  inactive _ := .inl settled

theorem tends_leaveHalt
    (settled : AllSettled node.goals) :
    Tends node.leaveHalt where
  minds goal _ _ := settled goal
  leavesNoGoal _ _ _ := settled
  calling inCall := absurd rfl inCall
  inactive _ := .inl settled

theorem Minds.wait
    (minds : Minds node) :
    Tends node.wait where
  minds := minds
  leavesNoGoal returned isReturned isEnd := by
    rw [← Option.some.inj isReturned] at isEnd
    exact nomatch isEnd
  calling inCall := absurd rfl inCall
  inactive notRunning := absurd rfl notRunning

variable
  {elapsed : Int}

theorem Minds.notAcknowledged
    (minds : Minds node)
    (inTime : timeouts.serverTimeout ≤ elapsed → AllSettled node.goals) :
    Tends (notAcknowledged timeouts node elapsed) := by
  rw [BtActionNode.notAcknowledged]
  split
  · exact minds.wait
  · case isFalse late =>
    exact tends_giveUp (inTime (not_lt.mp late))

variable
  {isUpdate : Bool}

theorem Minds.startWaiting
    (minds : Minds node)
    (notReturned : node.returned = none)
    (inactive : node.status ≠ .running → AllSettled node.goals ∨
      isUpdate = true)
    (inTime : elapsed < timeouts.serverTimeout ∨ AllSettled node.goals) :
    Tends (startWaiting timeouts node isUpdate elapsed) := by
  rw [BtActionNode.startWaiting]
  dsimp only
  by_cases late : timeouts.serverTimeout - elapsed ≤ 0
  · have isLate : ¬elapsed < timeouts.serverTimeout :=
      not_lt.mpr (sub_nonpos.mp late)
    rw [if_pos late, BtActionNode.notAcknowledged, if_neg isLate]
    exact tends_giveUp (inTime.resolve_left isLate)
  · rw [if_neg late]
    exact {
      minds := minds
      leavesNoGoal := fun _ isReturned =>
        by cases notReturned.symm.trans isReturned
      calling := fun _ => notReturned
      inactive := fun notRunning => by
        rcases inactive notRunning with settled | isUpdated
        · exact .inl settled
        · rw [isUpdated]
          exact .inr (.inr ⟨_, rfl⟩) }

theorem Minds.sendNewGoal
    (minds : Minds node)
    (free : node.futureGoalHandle = none ∨ AllSettled node.goals) :
    Minds node.sendNewGoal := by
  intro goal notFuture notHandle
  have notNew : goal ≠ node.goals.length := by
    rintro rfl
    exact notFuture rfl
  refine settled_append ?_ notNew _
  rcases free with noFuture | settled
  · refine minds goal ?_ notHandle
    rw [noFuture]
    nofun
  · exact settled goal

theorem Minds.allSettled_of_available
    (minds : Minds node)
    (known : Known node)
    (noFuture : node.futureGoalHandle = none)
    (available : node.goalResultAvailable = true) :
    AllSettled node.goals := by
  intro goal
  by_cases isHandle : node.goalHandle = some goal
  · obtain ⟨sent, found, code, finished⟩ :=
      known.available available goal isHandle
    exact settled_of_done found (.inr (.inl ⟨code, finished⟩))
  · refine minds goal ?_ isHandle
    rw [noFuture]
    nofun

theorem Minds.finish
    (minds : Minds node)
    (known : Known node)
    (noFuture : node.futureGoalHandle = none)
    (inactive : node.status ≠ .running → AllSettled node.goals)
    (outcome : NodeStatus) :
    Tends (node.finish outcome) := by
  rcases node.finish_cases outcome with ⟨⟨goal, code, result⟩, isFinish⟩ |
    isFinish
  · have settled := minds.allSettled_of_available known noFuture
      (known.result goal code result).1
    rw [isFinish]
    exact {
      minds := fun goal _ _ => settled goal
      leavesNoGoal := fun _ _ _ => settled
      calling := fun inCall => absurd rfl inCall
      inactive := fun _ => .inl settled }
  · rw [isFinish]
    exact {
      minds := minds
      leavesNoGoal := fun returned isReturned isEnd => by
        rw [← Option.some.inj isReturned] at isEnd
        exact nomatch isEnd
      calling := fun inCall => absurd rfl inCall
      inactive := fun notRunning => .inl (inactive notRunning) }

variable
  {input : TickInput}

theorem Minds.runningLoop
    (minds : Minds node)
    (known : Known node)
    (notReturned : node.returned = none)
    (noFuture : node.futureGoalHandle = none)
    (inactive : node.status ≠ .running → AllSettled node.goals)
    (inTime : UpdatesInTime timeouts node input) :
    Tends (runningLoop timeouts node input) := by
  have goesOn : ∀ phase : CallPhase,
      Tends { node with
        goalUpdated := input.goalUpdated.getD node.goalUpdated
        feedback := none
        phase } := fun phase => {
    minds := minds
    leavesNoGoal := fun _ isReturned =>
      nomatch notReturned.symm.trans isReturned
    calling := fun _ => notReturned
    inactive := fun notRunning => .inl (inactive notRunning) }
  rw [BtActionNode.runningLoop]
  by_cases loops : (input.ok && !node.goalResultAvailable) = true
  · rw [if_pos loops]
    rw [Bool.and_eq_true, Bool.not_eq_true'] at loops
    dsimp only
    split
    · exact goesOn .crashed
    · case h_2 handle isHandle =>
      split
      · case isTrue updates =>
        rw [Bool.and_eq_true] at updates
        have early := inTime loops.1 loops.2 updates.1 handle isHandle updates.2
        refine Minds.startWaiting (Minds.sendNewGoal ?_ (.inl ?_)) ?_
          (fun _ => .inr rfl) (.inl early)
        · exact minds
        · exact noFuture
        · exact notReturned
      · exact goesOn .spinning
  · rw [if_neg loops]
    exact minds.finish known noFuture inactive input.outcome

theorem Tends.tick
    (tends : Tends node)
    (held : Held node)
    (resting : node.phase = .resting)
    (inTime : AnswersInTime timeouts node (.tick input)) :
    Tends (tick timeouts node input) := by
  have answers := inTime resting
  have settledAtRest : node.status ≠ .running → AllSettled node.goals := by
    intro notRunning
    rcases tends.inactive notRunning with settled | spinning | ⟨_, waiting⟩
    · exact settled
    · exact nomatch resting.symm.trans spinning
    · exact nomatch resting.symm.trans waiting
  rw [BtActionNode.tick]
  dsimp only
  by_cases active : isStatusActive node.status = true
  · rw [if_pos active] at answers ⊢
    rw [awaitResponse]
    split
    · case h_1 goal isFuture =>
      have hasFuture : node.futureGoalHandle.isSome = true :=
        Option.isSome_of_mem isFuture
      rw [if_pos hasFuture] at answers
      refine Minds.startWaiting ?_ rfl ?_ ?_
      · exact tends.minds
      · exact fun notRunning => .inl (settledAtRest notRunning)
      · exact answers
    · case h_2 noFuture =>
      have hasNone : ¬node.futureGoalHandle.isSome = true :=
        Option.not_isSome_iff_eq_none.mpr noFuture
      rw [if_neg hasNone] at answers
      refine Minds.runningLoop ?_ ?_ rfl noFuture ?_ ?_
      · exact tends.minds
      · exact { held.toKnown with }
      · exact settledAtRest
      · exact answers
  · rw [if_neg active] at answers ⊢
    have settled : AllSettled node.goals := by
      refine settledAtRest fun running => active ?_
      rw [running]
      rfl
    split
    · case isTrue sends =>
      refine Minds.startWaiting (Minds.sendNewGoal ?_ (.inr ?_)) ?_ ?_ ?_
      · exact minds_of_allSettled settled
      · exact settled
      · rfl
      · exact fun notRunning => absurd rfl notRunning
      · exact .inl (answers sends)
    · exact tends_giveUp settled

theorem Known.minds_acknowledged
    (known : Known node)
    (isFuture : node.futureGoalHandle = some goal)
    (answered : node.isAnswered goal = true)
    (notRejected : ¬node.isRejected goal = true) :
    Minds { node with
      futureGoalHandle := none
      goalHandle := some goal } := by
  obtain ⟨sent, found, accepted⟩ :=
    (known.acknowledged isFuture answered notRejected).handle goal rfl
  intro other _ notHandle
  by_cases isBefore : other < goal
  · exact fun _ _ => .inr ⟨goal, isBefore, sent, found, accepted⟩
  · intro next foundNext
    have inRange := (List.getElem?_eq_some_iff.mp foundNext).1
    rw [← known.future goal isFuture] at inRange
    have same : other = goal :=
      le_antisymm (Nat.le_of_lt_succ inRange) (not_lt.mp isBefore)
    rw [same] at notHandle
    exact absurd rfl notHandle

theorem Minds.allSettled
    (minds : Minds node)
    (future : FutureSettled node)
    (handle : ∀ goal ∈ node.goalHandle, Settled node.goals goal) :
    AllSettled node.goals := by
  intro goal
  by_cases isFuture : node.futureGoalHandle = some goal
  · exact future goal isFuture
  · by_cases isHandle : node.goalHandle = some goal
    · exact handle goal isHandle
    · exact minds goal isFuture isHandle

theorem isRejected_eq_true
    (rejected : node.isRejected goal = true) :
    Settled node.goals goal := by
  intro sent found
  rw [isRejected, found] at rejected
  exact .inl (.inl (of_decide_eq_true rejected))

section

variable
  (tends : Tends node)

include tends

theorem Tends.afterWaiting
    (held : Held node)
    (phase : node.phase = .acknowledging isUpdate elapsed)
    (inTime : AnswersInTime timeouts node (.spinEnds input)) :
    Tends (afterWaiting timeouts node isUpdate elapsed input) := by
  rw [AnswersInTime, phase] at inTime
  have notReturned : node.returned = none :=
    tends.calling (by rw [phase]; rintro ⟨⟩)
  rw [BtActionNode.afterWaiting]
  split
  · exact tends
  · case h_2 goal isFuture =>
    have answers := inTime goal isFuture
    by_cases answered : node.isAnswered goal = true
    · rw [if_pos answered] at answers ⊢
      by_cases rejected : node.isRejected goal = true
      · rw [if_pos rejected] at answers ⊢
        refine tends_giveUp (tends.minds.allSettled ?_ answers)
        intro other isOther
        rw [← Option.some.inj (isFuture.symm.trans isOther)]
        exact isRejected_eq_true rejected
      · rw [if_neg rejected] at answers ⊢
        have known := held.toKnown.acknowledged isFuture answered rejected
        have minds := held.toKnown.minds_acknowledged isFuture answered
          rejected
        dsimp only
        by_cases updated : isUpdate = true
        · rw [if_pos updated]
          exact {
            minds := minds
            leavesNoGoal := fun _ isReturned =>
              by cases notReturned.symm.trans isReturned
            calling := fun _ => notReturned
            inactive := fun _ => .inr (.inl rfl) }
        · rw [if_neg updated]
          have isFirst : isUpdate = false := Bool.not_eq_true _ ▸ updated
          refine minds.runningLoop known notReturned rfl ?_ (answers isFirst)
          intro notRunning
          rcases tends.inactive notRunning with settled | spinning |
            ⟨_, waiting⟩
          · exact settled
          · cases phase.symm.trans spinning
          · rw [phase, isFirst] at waiting
            cases waiting
    · rw [if_neg answered] at answers ⊢
      split
      · case isTrue interrupted =>
        exact tends_giveUp (answers (.inl interrupted))
      · exact tends.minds.notAcknowledged fun late => answers (.inr late)

theorem Tends.spinEnds
    (held : Held node)
    (inTime : AnswersInTime timeouts node (.spinEnds input)) :
    Tends (spinEnds timeouts node input) := by
  have inCall := held.inCall
  rw [BtActionNode.spinEnds]
  split
  · case h_1 isUpdate elapsed phase =>
    exact tends.afterWaiting held phase inTime
  · case h_2 phase =>
    rw [InCall, phase] at inCall
    rw [afterSpinning]
    split
    · case isTrue available =>
      exact tends.minds.finish held.toKnown inCall.1
        (fun _ => tends.minds.allSettled_of_available held.toKnown inCall.1
          available) input.outcome
    · exact tends.minds.wait
  · case h_3 phase =>
    rw [AnswersInTime, phase] at inTime
    have notReturned := tends.calling (by rw [phase]; rintro ⟨⟩)
    rw [afterChecking]
    split
    · exact tends
    · case h_2 handle isHandle =>
      have carries := carries_cancelRequested node.goals handle
      split
      · exact {
          minds := fun goal notFuture notHandle =>
            settled_modify carries (tends.minds goal notFuture notHandle)
          leavesNoGoal := fun _ isReturned =>
            by cases notReturned.symm.trans isReturned
          calling := fun _ => notReturned
          inactive := fun notRunning => by
            rcases tends.inactive notRunning with settled | spinning |
              ⟨_, waiting⟩
            · exact .inl fun goal => settled_modify carries (settled goal)
            · cases phase.symm.trans spinning
            · cases phase.symm.trans waiting }
      · case isFalse inactive =>
        have isInactive := Bool.not_eq_true _ ▸ inactive
        refine tends_leaveHalt (tends.minds.allSettled
          (inTime handle isHandle isInactive) ?_)
        intro goal isGoal
        obtain rfl := Option.some.inj (isHandle.symm.trans isGoal)
        obtain ⟨sent, found, -⟩ := held.handle handle isHandle
        refine settled_of_done found ((held.told handle sent found).done ?_)
        rw [isKnownActive, found] at isInactive
        exact isInactive
  · case h_4 phase =>
    rw [AnswersInTime, phase] at inTime
    rw [InCall, phase] at inCall
    refine tends_leaveHalt (tends.minds.allSettled inTime fun goal isHandle => ?_)
    obtain ⟨sent, found, cancelRequested⟩ := inCall.2 goal isHandle
    exact settled_of_done found (.inr (.inr cancelRequested))
  · exact tends
  · exact tends
  · exact tends

theorem Tends.halt
    (resting : node.phase = .resting)
    (inTime : AnswersInTime timeouts node .halt) :
    Tends node.halt := by
  rw [BtActionNode.halt]
  dsimp only
  by_cases notRunning : node.status ≠ .running
  · rw [if_pos notRunning]
    refine tends_leaveHalt ?_
    rcases tends.inactive notRunning with settled | spinning | ⟨_, waiting⟩
    · exact settled
    · cases resting.symm.trans spinning
    · cases resting.symm.trans waiting
  · rw [if_neg notRunning]
    have running := not_not.mp notRunning
    split
    · case h_1 noHandle =>
      refine tends_leaveHalt (tends.minds.allSettled
        (inTime resting running noHandle) fun goal isHandle => ?_)
      cases noHandle.symm.trans isHandle
    · exact {
        minds := tends.minds
        leavesNoGoal := fun _ => by rintro ⟨⟩
        calling := fun _ => rfl
        inactive := fun isInactive => absurd running isInactive }

theorem Tends.setGoal
    {change : SentGoal → SentGoal}
    (carries : Carries node.goals goal change) :
    Tends (node.setGoal goal change) where
  minds other notFuture notHandle :=
    settled_modify carries (tends.minds other notFuture notHandle)
  leavesNoGoal returned isReturned isEnd other :=
    settled_modify carries (tends.leavesNoGoal returned isReturned isEnd other)
  calling := tends.calling
  inactive notRunning := by
    rcases tends.inactive notRunning with settled | inCall
    · exact .inl fun other => settled_modify carries (settled other)
    · exact .inr inCall

theorem Tends.onMessage
    (held : Held node)
    (goal : Nat)
    (message : BtMessage) :
    Tends (node.onMessage goal message) := by
  rcases held.toKnown.onMessage_cases goal message with
    ignored | ⟨spins, ⟨feedback, taken⟩ | ⟨change, carries,
      taken | ⟨code, sent, found, finished, taken⟩⟩⟩
  · rw [ignored]
    exact tends
  · rw [taken]
    exact { tends with }
  · rw [taken]
    exact tends.setGoal carries
  · rw [taken]
    rcases (node.setGoal goal change).resultCallback_cases (held.ready spins)
        goal code with isIgnored | ⟨-, -, isTaken⟩
    · rw [isIgnored]
      exact tends.setGoal carries
    · rw [isTaken]
      exact { tends.setGoal carries with }

theorem Tends.step
    (held : Held node)
    (event : BtEvent)
    (inTime : AnswersInTime timeouts node event) :
    Tends (step timeouts node event) := by
  cases event with
  | serverAccepts goal =>
      exact tends.setGoal
        (carries_serverMoves _ goal (.inl ⟨rfl, .inl rfl⟩))
  | serverRejects goal =>
      exact tends.setGoal
        (carries_serverMoves _ goal (.inl ⟨rfl, .inr rfl⟩))
  | serverFinishes goal code =>
      exact tends.setGoal
        (carries_serverMoves _ goal (.inr ⟨rfl, code, rfl⟩))
  | cancelRequested goal =>
      exact tends.setGoal (carries_cancelRequested _ goal)
  | message goal message =>
      exact tends.onMessage held goal message
  | tick input =>
      unfold BtActionNode.step
      dsimp only
      split
      · case isTrue resting =>
        exact tends.tick held resting inTime
      · exact tends
  | spinEnds input =>
      exact tends.spinEnds held inTime
  | halt =>
      unfold BtActionNode.step
      dsimp only
      split
      · case isTrue resting =>
        exact tends.halt resting inTime
      · exact tends
  | resetStatus =>
      unfold BtActionNode.step
      dsimp only
      split
      · case isTrue rests =>
        refine { tends with inactive := fun _ => ?_ }
        rcases tends.inactive rests.2 with settled | spinning | ⟨_, waiting⟩
        · exact .inl settled
        · exact nomatch rests.1.symm.trans spinning
        · exact nomatch rests.1.symm.trans waiting
      · exact tends

end

theorem LeavesNoGoal.allSettled_of_giveUp
    (leaves : LeavesNoGoal node.giveUp) :
    AllSettled node.goals :=
  leaves .gaveUp rfl rfl

theorem LeavesNoGoal.allSettled_of_leaveHalt
    (leaves : LeavesNoGoal node.leaveHalt) :
    AllSettled node.goals :=
  leaves .halted rfl rfl

theorem LeavesNoGoal.startWaiting
    (leaves : LeavesNoGoal
      (startWaiting timeouts node isUpdate elapsed)) :
    elapsed < timeouts.serverTimeout ∨ AllSettled node.goals := by
  by_cases early : elapsed < timeouts.serverTimeout
  · exact .inl early
  · rw [BtActionNode.startWaiting, notAcknowledged, if_neg early] at leaves
    rw [if_pos (sub_nonpos.mpr (not_lt.mp early))] at leaves
    exact .inr leaves.allSettled_of_giveUp

theorem LeavesNoGoal.runningLoop
    (leaves : LeavesNoGoal (runningLoop timeouts node input)) :
    UpdatesInTime timeouts node input := by
  intro ok unavailable updated handle isHandle active
  have loops : (input.ok && !node.goalResultAvailable) = true := by
    rw [ok, unavailable]
    rfl
  rw [BtActionNode.runningLoop, if_pos loops] at leaves
  dsimp only at leaves
  split at leaves
  · case h_1 noHandle =>
    cases noHandle.symm.trans isHandle
  · case h_2 other isOther =>
    obtain rfl := Option.some.inj (isHandle.symm.trans isOther)
    split at leaves
    · refine leaves.startWaiting.resolve_right fun settled => ?_
      exact not_allSettled_sendNewGoal _ settled
    · case isFalse notUpdated =>
      rw [updated, Bool.true_and] at notUpdated
      exact absurd active notUpdated

theorem LeavesNoGoal.tick
    (leaves : LeavesNoGoal (tick timeouts node input)) :
    AnswersInTime timeouts node (.tick input) := by
  intro _
  rw [BtActionNode.tick] at leaves
  dsimp only at leaves
  by_cases active : isStatusActive node.status = true
  · rw [if_pos active] at leaves ⊢
    rw [awaitResponse] at leaves
    split at leaves
    · case h_1 goal isFuture =>
      rw [if_pos (Option.isSome_of_mem isFuture)]
      exact leaves.startWaiting
    · case h_2 noFuture =>
      rw [if_neg (Option.not_isSome_iff_eq_none.mpr noFuture)]
      exact leaves.runningLoop
  · rw [if_neg active] at leaves ⊢
    intro sends
    rw [if_pos sends] at leaves
    refine LeavesNoGoal.startWaiting leaves |>.resolve_right fun settled => ?_
    exact not_allSettled_sendNewGoal _ settled

theorem LeavesNoGoal.afterWaiting
    (phase : node.phase = .acknowledging isUpdate elapsed)
    (leaves : LeavesNoGoal
      (afterWaiting timeouts node isUpdate elapsed input)) :
    AnswersInTime timeouts node (.spinEnds input) := by
  rw [AnswersInTime, phase]
  dsimp only
  intro goal isFuture
  have waits : node.futureGoalHandle = some goal := isFuture
  rw [BtActionNode.afterWaiting] at leaves
  split at leaves
  · case h_1 noFuture =>
    cases noFuture.symm.trans waits
  · case h_2 other isOther =>
    obtain rfl := Option.some.inj (waits.symm.trans isOther)
    by_cases answered : node.isAnswered goal = true
    · rw [if_pos answered] at leaves ⊢
      by_cases rejected : node.isRejected goal = true
      · rw [if_pos rejected] at leaves ⊢
        exact fun handle _ => leaves.allSettled_of_giveUp handle
      · rw [if_neg rejected] at leaves ⊢
        intro isFirst
        rw [isFirst, if_neg Bool.false_ne_true] at leaves
        exact leaves.runningLoop
    · rw [if_neg answered] at leaves ⊢
      intro late
      by_cases interrupted : input.interrupted = true
      · rw [if_pos interrupted] at leaves
        exact leaves.allSettled_of_giveUp
      · rw [if_neg interrupted, notAcknowledged,
          if_neg (not_lt.mpr (late.resolve_left interrupted))] at leaves
        exact leaves.allSettled_of_giveUp

theorem LeavesNoGoal.spinEnds
    (leaves : LeavesNoGoal (spinEnds timeouts node input)) :
    AnswersInTime timeouts node (.spinEnds input) := by
  rw [BtActionNode.spinEnds] at leaves
  split at leaves
  · case h_1 isUpdate elapsed phase =>
    exact leaves.afterWaiting phase
  · case h_2 phase =>
    rw [AnswersInTime, phase]
    trivial
  · case h_3 phase =>
    rw [AnswersInTime, phase]
    intro handle isHandle inactive goal _
    rw [afterChecking] at leaves
    split at leaves
    · case h_1 noHandle =>
      cases noHandle.symm.trans isHandle
    · case h_2 other isOther =>
      obtain rfl := Option.some.inj (isOther.symm.trans isHandle)
      rw [inactive, if_neg Bool.false_ne_true] at leaves
      exact leaves.allSettled_of_leaveHalt goal
  · case h_4 phase =>
    rw [AnswersInTime, phase]
    exact fun goal _ => leaves.allSettled_of_leaveHalt goal
  · case h_5 phase =>
    rw [AnswersInTime, phase]
    trivial
  · case h_6 phase =>
    rw [AnswersInTime, phase]
    trivial
  · case h_7 phase =>
    rw [AnswersInTime, phase]
    trivial

theorem LeavesNoGoal.halt
    (leaves : LeavesNoGoal node.halt) :
    AnswersInTime timeouts node .halt := by
  intro _ running noHandle goal _
  rw [BtActionNode.halt] at leaves
  dsimp only at leaves
  rw [if_neg (not_not.mpr running)] at leaves
  split at leaves
  · exact leaves.allSettled_of_leaveHalt goal
  · case h_2 handle isHandle =>
    cases noHandle.symm.trans isHandle

theorem LeavesNoGoal.step
    {event : BtEvent}
    (leaves : LeavesNoGoal (step timeouts node event)) :
    AnswersInTime timeouts node event := by
  cases event with
  | serverAccepts | serverRejects | serverFinishes | cancelRequested | message
  | resetStatus =>
      trivial
  | tick input =>
      intro resting
      rw [BtActionNode.step, if_pos resting] at leaves
      exact leaves.tick resting
  | spinEnds input =>
      exact leaves.spinEnds
  | halt =>
      intro resting
      rw [BtActionNode.step, if_pos resting] at leaves
      exact (leaves.halt : AnswersInTime timeouts node .halt) resting

/-- No goal is left running behind a node exactly in the runs in which the
server answers in time. -/
theorem leavesNoGoal_iff
    (timeouts : BtTimeouts)
    (events : List BtEvent) :
    EventRun.Stays (stepsTo timeouts) LeavesNoGoal initial events ↔
      EventRun.Conforms (stepsTo timeouts) (AnswersInTime timeouts) initial
        events := by
  have isGood : ∀ node, Held node ∧ Tends node → LeavesNoGoal node :=
    fun _ ⟨_, tends⟩ => tends.leavesNoGoal
  apply EventRun.stays_iff_conforms isGood
  · intro node event ⟨held, tends⟩ inTime
    exact ⟨_, rfl, held.step event, tends.step held event inTime⟩
  · intro node event _ late next isNext leaves
    obtain rfl := Option.some.inj isNext
    exact late leaves.step
  · exact ⟨.initial, .initial⟩

def patientTimeouts : BtTimeouts where
  serverTimeout := 1000
  maxTimeout := 10

def plainInput : TickInput where
  shouldSendGoal := true
  elapsed := 0
  interrupted := false
  ok := true
  goalUpdated := none
  updateElapsed := 0
  outcome := .success

/-- A node is halted before it has taken in the response to its goal. -/
theorem halt_leaves_unanswered_goal :
    ¬EventRun.Stays (stepsTo patientTimeouts) LeavesNoGoal initial
      [.tick plainInput, .serverAccepts 0, .spinEnds plainInput, .halt] := by
  intro stays
  obtain ⟨last, reached, leaves⟩ := stays.reaches
  obtain rfl := Option.some.inj reached
  rcases leaves .halted rfl rfl 0 _ rfl with
    (rejected | ⟨code, finished⟩ | cancelRequested) |
      ⟨later, isLater, other, found, -⟩
  · exact nomatch rejected
  · exact nomatch finished
  · exact nomatch cancelRequested
  · have inRange := (List.getElem?_eq_some_iff.mp found).1
    exact absurd isLater (not_lt.mpr (Nat.le_of_lt_succ inRange))

end BtActionNode

end NavBim
