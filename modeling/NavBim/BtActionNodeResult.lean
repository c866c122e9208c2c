import Mathlib
import NavBim.BtActionNodeCalls
import NavBim.EventRun

namespace NavBim

/-!
# Whose result a node acts on

While a node is active, the goal it sent last is the one it waits for, the one
of its handle or the one whose result it has acted on.  A tick that gives up
lets go of the goal it waited for but keeps the handle of an earlier goal, so a
node that gave up has to be reset before it is ticked again.
-/

namespace BtActionNode

/-- The goal sent last is the one that the node deals with. -/
structure DealsWith
    (node : BtActionNode)
    (goal : Nat) : Prop where
  sentLast : node.activationGoal = some goal
  current : node.futureGoalHandle = some goal ∨
    (node.futureGoalHandle = none ∧ (node.goalHandle = some goal ∨
      (node.goalHandle = none ∧ node.goalResultAvailable = true)))
  result : ∀ other code, node.result = some (other, code) → other = goal

/-- The result is that of the goal sent last, and no callback failed. -/
structure ActsOnOwnResult
    (node : BtActionNode) : Prop where
  callbacks : node.phase ≠ .callbackCrashed
  own : ∀ status, node.returned = some (.finished status) →
    ∃ goal code, node.activationGoal = some goal ∧
      node.result = some (goal, code) ∧
      ∃ sent ∈ node.goals[goal]?, sent.progress = .finished code

/-- A call is under way. -/
structure Called
    (node : BtActionNode) : Prop where
  notReturned : node.returned = none
  active : isStatusActive node.status = true

structure Owns
    (node : BtActionNode) : Prop where
  dealsWith : isStatusActive node.status = true →
    node.returned ≠ some .gaveUp → ∃ goal, node.DealsWith goal
  gaveUp : node.returned = some .gaveUp → node.status ≠ .running
  calling : node.phase ≠ .resting → node.Called
  finished : ∀ status, node.returned = some (.finished status) →
    ∃ goal code, node.activationGoal = some goal ∧
      node.result = some (goal, code)

/-- A node that gave up is reset or halted before it is ticked again. -/
def ResetFirst
    (node : BtActionNode) : BtEvent → Prop
  | .tick _ => isStatusActive node.status = true →
      node.returned ≠ some .gaveUp
  | _ => True

variable
  {node : BtActionNode}
  {timeouts : BtTimeouts}

theorem Held.callbacks
    (held : Held node) :
    node.phase ≠ .callbackCrashed := by
  intro crashed
  have inCall := held.inCall
  rw [InCall, crashed] at inCall
  exact inCall

theorem Held.usesOwnResult
    (held : Held node)
    (owns : Owns node) :
    ActsOnOwnResult node where
  callbacks := held.callbacks
  own status returned := by
    obtain ⟨goal, code, sentLast, result⟩ := owns.finished status returned
    exact ⟨goal, code, sentLast, result, (held.result goal code result).2⟩

theorem Owns.initial : Owns initial where
  dealsWith active := nomatch active
  gaveUp returned := nomatch returned
  calling inCall := absurd rfl inCall
  finished _ returned := nomatch returned

theorem Owns.giveUp : Owns node.giveUp where
  dealsWith _ notGivenUp := absurd rfl notGivenUp
  gaveUp _ := nofun
  calling inCall := absurd rfl inCall
  finished _ returned := nomatch returned

theorem Owns.leaveHalt : Owns node.leaveHalt where
  dealsWith active := nomatch active
  gaveUp _ := nofun
  calling inCall := absurd rfl inCall
  finished _ returned := nomatch returned

variable
  {goal : Nat}

section

variable
  (dealsWith : node.DealsWith goal)

include dealsWith

theorem DealsWith.wait :
    Owns node.wait where
  dealsWith _ _ := ⟨goal, { dealsWith with }⟩
  gaveUp returned := nomatch returned
  calling inCall := absurd rfl inCall
  finished _ returned := nomatch returned

theorem DealsWith.inPhase
    (called : Called node) :
    Owns node where
  dealsWith _ _ := ⟨goal, dealsWith⟩
  gaveUp returned := nomatch called.notReturned.symm.trans returned
  calling _ := called
  finished _ returned := nomatch called.notReturned.symm.trans returned

theorem DealsWith.notAcknowledged
    (elapsed : Int) :
    Owns (notAcknowledged timeouts node elapsed) := by
  rw [BtActionNode.notAcknowledged]
  split
  · exact dealsWith.wait
  · exact .giveUp

theorem DealsWith.startWaiting
    (called : Called node)
    (isUpdate : Bool)
    (elapsed : Int) :
    Owns (startWaiting timeouts node isUpdate elapsed) := by
  rw [BtActionNode.startWaiting]
  dsimp only
  by_cases late : timeouts.serverTimeout - elapsed ≤ 0
  · rw [if_pos late, BtActionNode.notAcknowledged,
      if_neg (not_lt.mpr (sub_nonpos.mp late))]
    exact .giveUp
  · rw [if_neg late]
    refine DealsWith.inPhase (?_ : DealsWith _ goal) ?_
    · exact { dealsWith with }
    · exact { called with }

end

theorem dealsWith_sendNewGoal
    (noResult : node.result = none) :
    node.sendNewGoal.DealsWith node.goals.length where
  sentLast := rfl
  current := .inl rfl
  result _ _ result := nomatch noResult.symm.trans result

section

variable
  (dealsWith : node.DealsWith goal)
  (known : Known node)

include dealsWith known

theorem DealsWith.finish
    (noFuture : node.futureGoalHandle = none)
    (outcome : NodeStatus) :
    Owns (node.finish outcome) := by
  rcases node.finish_cases outcome with ⟨⟨other, code, result⟩, isFinish⟩ |
    isFinish
  · obtain rfl := dealsWith.result other code result
    have available := (known.result other code result).1
    rw [isFinish]
    exact {
      dealsWith := fun _ _ => ⟨other, {
        sentLast := dealsWith.sentLast
        current := .inr ⟨noFuture, .inr ⟨rfl, available⟩⟩
        result := dealsWith.result }⟩
      gaveUp := nofun
      calling := fun inCall => absurd rfl inCall
      finished := fun _ _ => ⟨other, code, dealsWith.sentLast, result⟩ }
  · rw [isFinish]
    exact {
      dealsWith := fun _ _ => ⟨goal, { dealsWith with }⟩
      gaveUp := nofun
      calling := fun inCall => absurd rfl inCall
      finished := nofun }

theorem DealsWith.runningLoop
    (called : Called node)
    (noFuture : node.futureGoalHandle = none)
    (input : TickInput) :
    Owns (runningLoop timeouts node input) := by
  rw [BtActionNode.runningLoop]
  by_cases loops : (input.ok && !node.goalResultAvailable) = true
  · rw [if_pos loops]
    have noResult : node.result = none := by
      apply known.result_eq_none
      rw [Bool.and_eq_true, Bool.not_eq_true'] at loops
      exact loops.2
    dsimp only
    split
    · refine DealsWith.inPhase (?_ : DealsWith _ goal) ?_
      · exact { dealsWith with }
      · exact { called with }
    · split
      · refine DealsWith.startWaiting (dealsWith_sendNewGoal ?_) ?_ _ _
        · exact noResult
        · exact { called with }
      · refine DealsWith.inPhase (?_ : DealsWith _ goal) ?_
        · exact { dealsWith with }
        · exact { called with }
  · rw [if_neg loops]
    exact dealsWith.finish known noFuture input.outcome

theorem DealsWith.awaitResponse
    (called : Called node)
    (input : TickInput) :
    Owns (awaitResponse timeouts node input) := by
  rw [BtActionNode.awaitResponse]
  split
  · exact dealsWith.startWaiting called _ _
  · case h_2 noFuture =>
    exact dealsWith.runningLoop known called noFuture input

end

section

variable
  (owns : Owns node)

include owns

theorem Owns.tick
    (held : Held node)
    (input : TickInput)
    (reset : ResetFirst node (.tick input)) :
    Owns (tick timeouts node input) := by
  rw [BtActionNode.tick]
  dsimp only
  split
  · case isTrue active =>
    obtain ⟨goal, dealsWith⟩ := owns.dealsWith active (reset active)
    refine DealsWith.awaitResponse (?_ : DealsWith _ goal) ?_ ?_ input
    · exact { dealsWith with }
    · exact { held.toKnown with }
    · exact ⟨rfl, active⟩
  · have activated : Known { node with
        returned := none
        result := none
        activationGoal := none
        status := .running } :=
      { held.toKnown with result := fun _ _ isResult => by cases isResult }
    split
    · exact (dealsWith_sendNewGoal rfl).awaitResponse
        (activated.sendNewGoal rfl) ⟨rfl, rfl⟩ input
    · exact .giveUp

theorem Owns.dealsWith_inCall
    (inCall : node.phase ≠ .resting) :
    ∃ goal, node.DealsWith goal := by
  have called := owns.calling inCall
  refine owns.dealsWith called.active fun gaveUp => ?_
  exact nomatch called.notReturned.symm.trans gaveUp

theorem Owns.afterWaiting
    (known : Known node)
    (inCall : node.phase ≠ .resting)
    (isUpdate : Bool)
    (elapsed : Int)
    (input : TickInput) :
    Owns (afterWaiting timeouts node isUpdate elapsed input) := by
  obtain ⟨goal, dealsWith⟩ := owns.dealsWith_inCall inCall
  have called := owns.calling inCall
  rw [BtActionNode.afterWaiting]
  split
  · exact owns
  · case h_2 waited isFuture =>
    obtain rfl : waited = goal := by
      rcases dealsWith.current with same | ⟨noFuture, -⟩
      · exact Option.some.inj (isFuture.symm.trans same)
      · cases isFuture.symm.trans noFuture
    split
    · case isTrue answered =>
      split
      · exact .giveUp
      · case isFalse notRejected =>
        have acknowledged := known.acknowledged isFuture answered notRejected
        have dealt : DealsWith { node with
            futureGoalHandle := none
            goalHandle := some waited } waited := {
          sentLast := dealsWith.sentLast
          current := .inr ⟨rfl, .inl rfl⟩
          result := dealsWith.result }
        dsimp only
        split
        · refine DealsWith.inPhase (?_ : DealsWith _ waited) ?_
          · exact { dealt with }
          · exact { called with }
        · exact dealt.runningLoop acknowledged { called with } rfl input
    · split
      · exact .giveUp
      · exact dealsWith.notAcknowledged elapsed

theorem Owns.spinEnds
    (held : Held node)
    (input : TickInput) :
    Owns (spinEnds timeouts node input) := by
  have inCall := held.inCall
  rw [BtActionNode.spinEnds]
  split
  · case h_1 isUpdate elapsed phase =>
    exact owns.afterWaiting held.toKnown (by rw [phase]; rintro ⟨⟩) _ _ input
  · case h_2 phase =>
    rw [InCall, phase] at inCall
    obtain ⟨goal, dealsWith⟩ := owns.dealsWith_inCall (by rw [phase]; rintro ⟨⟩)
    rw [afterSpinning]
    split
    · exact dealsWith.finish held.toKnown inCall.1 input.outcome
    · exact dealsWith.wait
  · case h_3 phase =>
    obtain ⟨goal, dealsWith⟩ := owns.dealsWith_inCall (by rw [phase]; rintro ⟨⟩)
    have called := owns.calling (by rw [phase]; rintro ⟨⟩)
    rw [afterChecking]
    split
    · exact owns
    · split
      · refine DealsWith.inPhase (?_ : DealsWith _ goal) ?_
        · exact { dealsWith with }
        · exact { called with }
      · exact .leaveHalt
  · exact .leaveHalt
  · exact owns
  · exact owns
  · exact owns

theorem Owns.halt :
    Owns node.halt := by
  rw [BtActionNode.halt]
  dsimp only
  by_cases running : node.status ≠ .running
  · rw [if_pos running]
    exact .leaveHalt
  · rw [if_neg running]
    split
    · exact .leaveHalt
    · have isRunning := not_not.mp running
      have active : isStatusActive node.status = true := by
        rw [isRunning]
        rfl
      obtain ⟨goal, dealsWith⟩ := owns.dealsWith active fun gaveUp =>
        owns.gaveUp gaveUp isRunning
      refine DealsWith.inPhase (?_ : DealsWith _ goal) ⟨rfl, active⟩
      exact { dealsWith with }

theorem Owns.resultCallback
    (inCall : node.phase ≠ .resting)
    (ready : node.futureGoalHandle.isSome ∨ node.goalHandle.isSome)
    (goal : Nat)
    (code : ResultCode) :
    Owns (node.resultCallback goal code) := by
  obtain ⟨current, dealsWith⟩ := owns.dealsWith_inCall inCall
  rcases node.resultCallback_cases ready goal code with
    ignored | ⟨noFuture, isHandle, taken⟩
  · rw [ignored]
    exact owns
  · obtain rfl : goal = current := by
      rcases dealsWith.current with isFuture | ⟨-, same | ⟨noHandle, -⟩⟩
      · exact nomatch noFuture.symm.trans isFuture
      · exact Option.some.inj (isHandle.symm.trans same)
      · exact nomatch isHandle.symm.trans noHandle
    rw [taken]
    refine DealsWith.inPhase (?_ : DealsWith _ goal)
      { owns.calling inCall with }
    exact {
      sentLast := dealsWith.sentLast
      current := .inr ⟨noFuture, .inl isHandle⟩
      result := by
        rintro _ _ ⟨⟩
        rfl }

/-- What happened to a goal is not the node's own doing. -/
theorem Owns.setGoal
    (goal : Nat)
    (change : SentGoal → SentGoal) :
    Owns (node.setGoal goal change) where
  dealsWith active notGivenUp := by
    obtain ⟨current, dealsWith⟩ := owns.dealsWith active notGivenUp
    exact ⟨current, { dealsWith with }⟩
  gaveUp := owns.gaveUp
  calling inCall := { owns.calling inCall with }
  finished := owns.finished

theorem Owns.onMessage
    (held : Held node)
    (goal : Nat)
    (message : BtMessage) :
    Owns (node.onMessage goal message) := by
  have inCall : node.takesMessages = true → node.phase ≠ .resting := by
    intro spins resting
    rw [takesMessages, resting] at spins
    exact nomatch spins
  rcases held.toKnown.onMessage_cases goal message with
    ignored | ⟨spins, ⟨feedback, taken⟩ | ⟨change, carries,
      taken | ⟨code, sent, found, finished, taken⟩⟩⟩
  · rw [ignored]
    exact owns
  · rw [taken]
    obtain ⟨current, dealsWith⟩ := owns.dealsWith_inCall (inCall spins)
    refine DealsWith.inPhase (?_ : DealsWith _ current)
      { owns.calling (inCall spins) with }
    exact { dealsWith with }
  · rw [taken]
    exact owns.setGoal goal change
  · rw [taken]
    exact (owns.setGoal goal change).resultCallback (inCall spins)
      (held.ready spins) goal code

theorem Owns.step
    (held : Held node)
    (event : BtEvent)
    (reset : ResetFirst node event) :
    Owns (step timeouts node event) := by
  cases event with
  | serverAccepts goal | serverRejects goal | serverFinishes goal code
  | cancelRequested goal =>
      exact owns.setGoal goal _
  | message goal message =>
      exact owns.onMessage held goal message
  | tick input =>
      unfold BtActionNode.step
      dsimp only
      split
      · exact owns.tick held input reset
      · exact owns
  | spinEnds input =>
      exact owns.spinEnds held input
  | halt =>
      unfold BtActionNode.step
      dsimp only
      split
      · exact owns.halt
      · exact owns
  | resetStatus =>
      unfold BtActionNode.step
      dsimp only
      split
      · exact {
          dealsWith := nofun
          gaveUp := fun _ => nofun
          calling := fun inCall => absurd ‹_ ∧ _›.1 inCall
          finished := owns.finished }
      · exact owns

end

/-- The callback of a result always finds a handle, and a node that is reset
after it gave up acts on the result of the goal that it sent last. -/
theorem actsOnOwnResult
    (timeouts : BtTimeouts)
    (events : List BtEvent) :
    EventRun.Stays (stepsTo timeouts) (·.phase ≠ .callbackCrashed) initial
        events ∧
      (EventRun.Conforms (stepsTo timeouts) ResetFirst initial events →
        EventRun.Stays (stepsTo timeouts) ActsOnOwnResult initial events) := by
  constructor
  · have stays : EventRun.Stays (stepsTo timeouts) Held initial events := by
      refine EventRun.stays_of_conforms ?_ .initial
        (EventRun.conforms_of_always fun _ _ => trivial)
      intro node event held _
      exact ⟨_, rfl, held.step event⟩
    exact stays.weaken fun _ held => held.callbacks
  · intro resets
    have stays : EventRun.Stays (stepsTo timeouts)
        (fun node => Held node ∧ Owns node) initial events := by
      refine EventRun.stays_of_conforms ?_ ⟨.initial, .initial⟩ resets
      intro node event ⟨held, owns⟩ reset
      exact ⟨_, rfl, held.step event, owns.step held event reset⟩
    exact stays.weaken fun _ ⟨held, owns⟩ => held.usesOwnResult owns

instance
    (node : BtActionNode)
    (event : BtEvent) : Decidable (ResetFirst node event) :=
  match event with
  | .tick _ => inferInstanceAs (Decidable (_ → _))
  | .serverAccepts _ | .serverRejects _ | .serverFinishes _ _
  | .cancelRequested _ | .message _ _ | .spinEnds _ | .halt
  | .resetStatus => isTrue trivial

/-- A tick in which a goal may be updated, some time after it was sent. -/
def tickInput
    (goalUpdated : Option Bool)
    (elapsed : Int) : TickInput where
  shouldSendGoal := true
  elapsed
  interrupted := false
  ok := true
  goalUpdated
  updateElapsed := 0
  outcome := .success

def oneSecond : BtTimeouts where
  serverTimeout := 1000
  maxTimeout := 10

/-- A goal is accepted and then updated, and the update is not acknowledged. -/
def unansweredUpdate : List BtEvent :=
  [.tick (tickInput none 0), .serverAccepts 0, .message 0 .response,
    .spinEnds (tickInput none 0), .spinEnds (tickInput none 0),
    .tick (tickInput (some true) 0), .spinEnds (tickInput none 0),
    .tick (tickInput none 1000)]

theorem unansweredUpdate_reset :
    EventRun.Stays (stepsTo oneSecond) ActsOnOwnResult initial
      (unansweredUpdate ++ [.resetStatus, .tick (tickInput none 0),
        .serverAccepts 2, .message 2 .response, .spinEnds (tickInput none 0),
        .serverFinishes 0 .aborted, .message 0 .result,
        .serverFinishes 2 .succeeded, .message 2 .result,
        .spinEnds (tickInput none 0)]) :=
  (actsOnOwnResult oneSecond _).2 (by decide +kernel)

/-- A node that is ticked again after it gave up on an update comes back with
the result of the goal that it had updated. -/
theorem unansweredUpdate_ticked_again :
    ¬EventRun.Stays (stepsTo oneSecond) ActsOnOwnResult initial
      (unansweredUpdate ++ [.tick (tickInput none 0),
        .serverFinishes 0 .succeeded, .message 0 .result,
        .spinEnds (tickInput none 0)]) := by
  intro stays
  obtain ⟨last, reached, acts⟩ := stays.reaches
  obtain rfl := Option.some.inj reached
  obtain ⟨goal, code, sentLast, result, -⟩ := acts.own .success (by
    decide +kernel)
  have own : goal = 1 := by
    refine Option.some.inj (sentLast.symm.trans ?_)
    decide +kernel
  have other : goal = 0 := by
    refine congrArg Prod.fst (Option.some.inj (result.symm.trans
      (?_ : _ = some (0, .succeeded))))
    decide +kernel
  exact nomatch own.symm.trans other

end BtActionNode

end NavBim
