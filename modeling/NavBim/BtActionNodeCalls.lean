import Mathlib
import NavBim.BtActionNode

namespace NavBim

/-!
# What a node knows of its goals

A node holds a future for the goal it sent last, and a handle for a goal that
the server accepted.  A result that is at hand is the result of the goal of the
handle.  These facts hold in every run, whatever the messages and their order.
-/

variable
  {sent : SentGoal}

namespace SentGoal

def WasAccepted
    (sent : SentGoal) : Prop :=
  sent.progress = .accepted ∨ ∃ code, sent.progress = .finished code

/-- The goal was rejected or has come to an end, or it is to be cancelled. -/
def Done
    (sent : SentGoal) : Prop :=
  sent.progress = .rejected ∨ (∃ code, sent.progress = .finished code) ∨
    sent.cancelRequested = true

/-- What the client was told is so. -/
structure Told
    (sent : SentGoal) : Prop where
  answered : sent.answered = true → sent.progress ≠ .sent
  canceling : sent.known = .canceling → sent.cancelRequested = true
  ended : sent.known = .ended → ∃ code, sent.progress = .finished code

/-- A goal only goes on. -/
structure GoesOn
    (before after : SentGoal) : Prop where
  accepted : before.WasAccepted → after.WasAccepted
  finished : ∀ code, before.progress = .finished code →
    after.progress = .finished code
  rejected : before.progress = .rejected → after.progress = .rejected
  cancelRequested : before.cancelRequested = true →
    after.cancelRequested = true

theorem GoesOn.of_progress
    {before after : SentGoal}
    (progress : after.progress = before.progress)
    (cancelRequested : before.cancelRequested = true →
      after.cancelRequested = true) :
    GoesOn before after where
  accepted accepted := by
    rw [WasAccepted, progress]
    exact accepted
  finished code finished := progress.trans finished
  rejected rejected := progress.trans rejected
  cancelRequested := cancelRequested

theorem GoesOn.done
    {before after : SentGoal}
    (goesOn : GoesOn before after)
    (done : before.Done) :
    after.Done := by
  rcases done with rejected | ⟨code, finished⟩ | cancelRequested
  · exact .inl (goesOn.rejected rejected)
  · exact .inr (.inl ⟨code, goesOn.finished code finished⟩)
  · exact .inr (.inr (goesOn.cancelRequested cancelRequested))

/-- The client takes a goal to be under way, or it is done. -/
theorem Told.done
    (told : sent.Told)
    (inactive : (sent.known = .accepted || sent.known = .executing) = false) :
    sent.Done := by
  cases known : sent.known with
  | accepted | executing =>
      rw [known] at inactive
      exact nomatch inactive
  | canceling =>
      exact .inr (.inr (told.canceling known))
  | ended =>
      exact .inr (.inl (told.ended known))

end SentGoal

namespace BtActionNode

/-- A change of one goal that keeps what the client was told, and goes on. -/
structure Carries
    (goals : List SentGoal)
    (goal : Nat)
    (change : SentGoal → SentGoal) : Prop where
  told : ∀ sent ∈ goals[goal]?, sent.Told → (change sent).Told
  goesOn : ∀ sent ∈ goals[goal]?, sent.GoesOn (change sent)

/-- What a call knows at any point. -/
structure Known
    (node : BtActionNode) : Prop where
  told : ∀ goal : Nat, ∀ sent ∈ node.goals[goal]?, sent.Told
  future : ∀ goal ∈ node.futureGoalHandle, goal + 1 = node.goals.length
  handle : ∀ goal ∈ node.goalHandle,
    ∃ sent ∈ node.goals[goal]?, sent.WasAccepted
  waits : node.futureGoalHandle.isSome → node.goalResultAvailable = false
  result : ∀ goal code, node.result = some (goal, code) →
    node.goalResultAvailable = true ∧
      ∃ sent ∈ node.goals[goal]?, sent.progress = .finished code
  available : node.goalResultAvailable = true → ∀ goal ∈ node.goalHandle,
    ∃ sent ∈ node.goals[goal]?, ∃ code, sent.progress = .finished code

/-- What a call knows while it spins. -/
def InCall
    (node : BtActionNode) : Prop :=
  match node.phase with
  | .resting | .crashed => True
  | .acknowledging _ _ => node.futureGoalHandle.isSome
  | .spinning => node.futureGoalHandle = none ∧ node.goalHandle.isSome
  | .checking => node.goalHandle.isSome
  | .cancelling => node.goalHandle.isSome ∧ ∀ goal ∈ node.goalHandle,
      ∃ sent ∈ node.goals[goal]?, sent.cancelRequested = true
  | .callbackCrashed => False

structure Held
    (node : BtActionNode) : Prop extends Known node where
  inCall : node.InCall

variable
  {node : BtActionNode}
  {timeouts : BtTimeouts}

theorem Held.initial : Held initial where
  told _ _ found := nomatch found
  future _ isFuture := nomatch isFuture
  handle _ isHandle := nomatch isHandle
  waits isFuture := nomatch isFuture
  result _ _ isResult := nomatch isResult
  available _ _ isHandle := nomatch isHandle
  inCall := trivial

variable
  {goals : List SentGoal}
  {goal : Nat}
  {change : SentGoal → SentGoal}

theorem Carries.found
    (carries : Carries goals goal change)
    {other : Nat}
    (found : goals[other]? = some sent) :
    ∃ after, (goals.modify goal change)[other]? = some after ∧
      sent.GoesOn after := by
  rw [List.getElem?_modify, found]
  by_cases same : goal = other
  · subst same
    refine ⟨change sent, ?_, carries.goesOn sent found⟩
    simp only [if_true, Option.map_eq_map, Option.map_some]
  · refine ⟨sent, ?_, .of_progress rfl id⟩
    simp only [same, if_false, Option.map_eq_map, Option.map_some]

theorem Carries.told_modify
    (carries : Carries goals goal change)
    (told : ∀ other : Nat, ∀ sent ∈ goals[other]?, sent.Told)
    (other : Nat) :
    ∀ sent ∈ (goals.modify goal change)[other]?, sent.Told := by
  intro after found
  rw [List.getElem?_modify] at found
  cases before : goals[other]? with
  | none =>
      rw [before] at found
      exact nomatch found
  | some sent =>
      rw [before] at found
      by_cases same : goal = other
      · subst same
        simp only [if_true, Option.map_eq_map, Option.map_some] at found
        rw [← Option.some.inj found]
        exact carries.told sent before (told goal sent before)
      · simp only [same, if_false, Option.map_eq_map, Option.map_some] at found
        rw [← Option.some.inj found]
        exact told other sent before

theorem Known.setGoal
    (known : Known node)
    (carries : Carries node.goals goal change) :
    Known (node.setGoal goal change) where
  told := carries.told_modify known.told
  future other isFuture := by
    rw [BtActionNode.setGoal, List.length_modify]
    exact known.future other isFuture
  handle other isHandle := by
    obtain ⟨sent, found, accepted⟩ := known.handle other isHandle
    obtain ⟨after, foundAfter, goesOn⟩ := carries.found found
    exact ⟨after, foundAfter, goesOn.accepted accepted⟩
  waits := known.waits
  result other code isResult := by
    obtain ⟨available, sent, found, finished⟩ :=
      known.result other code isResult
    obtain ⟨after, foundAfter, goesOn⟩ := carries.found found
    exact ⟨available, after, foundAfter, goesOn.finished code finished⟩
  available isAvailable other isHandle := by
    obtain ⟨sent, found, code, finished⟩ :=
      known.available isAvailable other isHandle
    obtain ⟨after, foundAfter, goesOn⟩ := carries.found found
    exact ⟨after, foundAfter, code, goesOn.finished code finished⟩

theorem InCall.setGoal
    (inCall : InCall node)
    (carries : Carries node.goals goal change) :
    InCall (node.setGoal goal change) := by
  unfold InCall at inCall ⊢
  dsimp only [BtActionNode.setGoal]
  cases phase : node.phase with
  | resting | crashed =>
      trivial
  | acknowledging | spinning | checking =>
      rw [phase] at inCall
      exact inCall
  | cancelling =>
      rw [phase] at inCall
      refine ⟨inCall.1, fun other isHandle => ?_⟩
      obtain ⟨sent, found, cancelRequested⟩ := inCall.2 other isHandle
      obtain ⟨after, foundAfter, goesOn⟩ := carries.found found
      exact ⟨after, foundAfter, goesOn.cancelRequested cancelRequested⟩
  | callbackCrashed =>
      rw [phase] at inCall
      exact inCall

theorem Held.setGoal
    (held : Held node)
    (carries : Carries node.goals goal change) :
    Held (node.setGoal goal change) where
  toKnown := held.toKnown.setGoal carries
  inCall := held.inCall.setGoal carries

theorem carries_cancelRequested
    (goals : List SentGoal)
    (goal : Nat) :
    Carries goals goal ({ · with cancelRequested := true }) where
  told _ _ told := {
    answered := told.answered
    canceling := fun _ => rfl
    ended := told.ended }
  goesOn _ _ := .of_progress rfl fun _ => rfl

theorem carries_answered
    (found : goals[goal]? = some sent)
    (hasAnswer : sent.progress ≠ .sent) :
    Carries goals goal ({ · with answered := true, known := .accepted }) where
  told other isOther _ := {
    answered := fun _ => by
      rw [← Option.some.inj (found.symm.trans isOther)]
      exact hasAnswer
    canceling := nofun
    ended := nofun }
  goesOn _ _ := .of_progress rfl id

/-- A status message that tells what is so. -/
theorem carries_known
    (found : goals[goal]? = some sent)
    {known : KnownStatus}
    (resultTaken : SentGoal → Bool)
    (canceling : known = .canceling → sent.cancelRequested = true)
    (ended : known = .ended → ∃ code, sent.progress = .finished code) :
    Carries goals goal fun before =>
      { before with known, resultTaken := resultTaken before } where
  told other isOther told := by
    obtain rfl : sent = other := Option.some.inj (found.symm.trans isOther)
    exact {
      answered := told.answered
      canceling := canceling
      ended := ended }
  goesOn _ _ := .of_progress rfl id

theorem carries_serverMoves
    (goals : List SentGoal)
    (goal : Nat)
    {before after : GoalProgress}
    (moves : (before = .sent ∧ (after = .accepted ∨ after = .rejected)) ∨
      (before = .accepted ∧ ∃ code, after = .finished code)) :
    Carries goals goal fun sent =>
      if sent.progress = before then { sent with progress := after }
      else sent where
  told sent _ told := by
    by_cases concerned : sent.progress = before
    · rw [if_pos concerned]
      exact {
        answered := fun _ isSent => by
          rcases moves with ⟨-, isAccepted | isRejected⟩ | ⟨-, code, isFinished⟩
          · exact nomatch isAccepted.symm.trans isSent
          · exact nomatch isRejected.symm.trans isSent
          · exact nomatch isFinished.symm.trans isSent
        canceling := told.canceling
        ended := fun known => by
          obtain ⟨code, finished⟩ := told.ended known
          rcases moves with ⟨wasSent, -⟩ | ⟨wasAccepted, -⟩
          · exact nomatch finished.symm.trans (concerned.trans wasSent)
          · exact nomatch finished.symm.trans (concerned.trans wasAccepted) }
    · rw [if_neg concerned]
      exact told
  goesOn sent _ := by
    by_cases concerned : sent.progress = before
    · rw [if_pos concerned]
      rcases moves with ⟨wasSent, -⟩ | ⟨wasAccepted, isFinished⟩
      · have progress := concerned.trans wasSent
        exact {
          accepted := fun accepted => by
            rcases accepted with accepted | ⟨code, finished⟩
            · exact nomatch accepted.symm.trans progress
            · exact nomatch finished.symm.trans progress
          finished := fun code finished => nomatch finished.symm.trans progress
          rejected := fun rejected => nomatch rejected.symm.trans progress
          cancelRequested := id }
      · have progress := concerned.trans wasAccepted
        exact {
          accepted := fun _ => .inr isFinished
          finished := fun code finished => nomatch finished.symm.trans progress
          rejected := fun rejected => nomatch rejected.symm.trans progress
          cancelRequested := id }
    · rw [if_neg concerned]
      exact .of_progress rfl id

theorem Held.ready
    (held : Held node)
    (spins : node.takesMessages = true) :
    node.futureGoalHandle.isSome ∨ node.goalHandle.isSome := by
  have inCall := held.inCall
  unfold InCall at inCall
  unfold takesMessages at spins
  cases phase : node.phase with
  | resting | crashed | callbackCrashed =>
      rw [phase] at spins
      exact nomatch spins
  | acknowledging =>
      rw [phase] at inCall
      exact .inl inCall
  | spinning =>
      rw [phase] at inCall
      exact .inr inCall.2
  | checking =>
      rw [phase] at inCall
      exact .inr inCall
  | cancelling =>
      rw [phase] at inCall
      exact .inr inCall.1

/-- The callback for a result ignores it, or it is the result of the handle.
The handle is there when the callback needs it. -/
theorem resultCallback_cases
    (node : BtActionNode)
    (ready : node.futureGoalHandle.isSome ∨ node.goalHandle.isSome)
    (goal : Nat)
    (code : ResultCode) :
    node.resultCallback goal code = node ∨
      node.futureGoalHandle = none ∧ node.goalHandle = some goal ∧
        node.resultCallback goal code =
          { node with
            goalResultAvailable := true
            result := some (goal, code) } := by
  rw [resultCallback]
  split
  · exact .inl rfl
  · case isFalse notWaiting =>
    have noFuture := Option.not_isSome_iff_eq_none.mp notWaiting
    split
    · case h_1 noHandle =>
      rw [noFuture, noHandle] at ready
      exact nomatch ready
    · case h_2 handle isHandle =>
      split
      · case isTrue own =>
        exact .inr ⟨noFuture, own ▸ isHandle, rfl⟩
      · exact .inl rfl

theorem Held.resultCallback
    (held : Held node)
    (ready : node.futureGoalHandle.isSome ∨ node.goalHandle.isSome)
    {code : ResultCode}
    (found : node.goals[goal]? = some sent)
    (finished : sent.progress = .finished code) :
    Held (node.resultCallback goal code) := by
  rcases node.resultCallback_cases ready goal code with
    ignored | ⟨noFuture, isHandle, taken⟩
  · rw [ignored]
    exact held
  · rw [taken]
    exact {
      told := held.told
      future := held.future
      handle := held.handle
      waits := fun isFuture => by
        rw [noFuture] at isFuture
        exact nomatch isFuture
      result := by
        rintro _ _ ⟨⟩
        exact ⟨rfl, sent, found, finished⟩
      available := fun _ other isOther => by
        obtain rfl := Option.some.inj (isHandle.symm.trans isOther)
        exact ⟨sent, found, code, finished⟩
      inCall := held.inCall }

theorem Known.returns
    (known : Known node)
    (returned : BtReturn) :
    Held (node.returns returned) :=
  { known with inCall := trivial }

theorem Known.withoutFuture
    (known : Known node) :
    Known { node with futureGoalHandle := none } :=
  { known with
    future := nofun
    waits := nofun }

theorem Known.withoutHandle
    (known : Known node) :
    Known { node with goalHandle := none } :=
  { known with
    handle := nofun
    available := nofun }

theorem Known.result_eq_none
    (known : Known node)
    (unavailable : node.goalResultAvailable = false) :
    node.result = none := by
  cases result : node.result with
  | none =>
      rfl
  | some found =>
      have available := (known.result found.1 found.2 result).1
      exact nomatch unavailable.symm.trans available

theorem getElem?_append_of_some
    {goals more : List SentGoal}
    (found : goals[goal]? = some sent) :
    (goals ++ more)[goal]? = some sent := by
  obtain ⟨inRange, -⟩ := List.getElem?_eq_some_iff.mp found
  exact (List.getElem?_append_left inRange).trans found

section

variable
  (known : Known node)

include known

theorem Known.sendNewGoal
    (noResult : node.result = none) :
    Known node.sendNewGoal where
  told goal sent found := by
    rcases List.mem_append.mp (List.mem_of_getElem? found) with before | isNew
    · obtain ⟨place, foundBefore⟩ := List.mem_iff_getElem?.mp before
      exact known.told place sent foundBefore
    · rw [List.mem_singleton.mp isNew]
      exact {
        answered := nofun
        canceling := nofun
        ended := nofun }
  future goal isFuture := by
    obtain rfl : node.goals.length = goal := Option.some.inj isFuture
    rw [BtActionNode.sendNewGoal, List.length_append]
    rfl
  handle goal isHandle := by
    obtain ⟨sent, found, accepted⟩ := known.handle goal isHandle
    exact ⟨sent, getElem?_append_of_some found, accepted⟩
  waits _ := rfl
  result goal code isResult := nomatch noResult.symm.trans isResult
  available := nofun

theorem Known.wait :
    Held node.wait := by
  refine Known.returns ?_ .waiting
  exact { known with }

theorem Known.giveUp :
    Held node.giveUp := by
  refine Known.returns ?_ .gaveUp
  exact { known with }

theorem Known.leaveHalt :
    Held node.leaveHalt := by
  refine Known.returns ?_ .halted
  exact { known with }

theorem Known.notAcknowledged
    (elapsed : Int) :
    Held (notAcknowledged timeouts node elapsed) := by
  rw [BtActionNode.notAcknowledged]
  split
  · exact known.wait
  · exact known.withoutFuture.giveUp

theorem Known.startWaiting
    (hasFuture : node.futureGoalHandle.isSome)
    (isUpdate : Bool)
    (elapsed : Int) :
    Held (startWaiting timeouts node isUpdate elapsed) := by
  rw [BtActionNode.startWaiting]
  dsimp only
  by_cases late : timeouts.serverTimeout - elapsed ≤ 0
  · rw [if_pos late]
    exact known.withoutFuture.notAcknowledged elapsed
  · rw [if_neg late]
    exact { known with inCall := hasFuture }

end

/-- A tick that comes to its end has the result of a goal, or it throws. -/
theorem finish_cases
    (node : BtActionNode)
    (outcome : NodeStatus) :
    ((∃ goal code, node.result = some (goal, code)) ∧
        node.finish outcome =
          { node with goalHandle := none, status := outcome }.returns
            (.finished outcome)) ∨
      node.finish outcome = node.returns .threw := by
  have found : ∀ code, node.result.map Prod.snd = some code →
      ∃ goal code, node.result = some (goal, code) := by
    intro code isCode
    obtain ⟨⟨goal, other⟩, result, -⟩ := Option.map_eq_some_iff.mp isCode
    exact ⟨goal, other, result⟩
  rw [BtActionNode.finish]
  split
  · case h_1 isCode =>
    exact .inl ⟨found _ isCode, rfl⟩
  · case h_2 isCode =>
    exact .inl ⟨found _ isCode, rfl⟩
  · case h_3 isCode =>
    exact .inl ⟨found _ isCode, rfl⟩
  · exact .inr rfl
  · exact .inr rfl

theorem Known.finish
    (known : Known node)
    (outcome : NodeStatus) :
    Held (node.finish outcome) := by
  rcases node.finish_cases outcome with ⟨-, finished⟩ | threw
  · rw [finished]
    refine Known.returns ?_ _
    exact { known.withoutHandle with }
  · rw [threw]
    exact known.returns .threw

theorem Known.runningLoop
    (known : Known node)
    (noFuture : node.futureGoalHandle = none)
    (input : TickInput) :
    Held (runningLoop timeouts node input) := by
  rw [BtActionNode.runningLoop]
  by_cases loops : (input.ok && !node.goalResultAvailable) = true
  · rw [if_pos loops]
    have noResult : node.result = none := by
      apply known.result_eq_none
      rw [Bool.and_eq_true, Bool.not_eq_true'] at loops
      exact loops.2
    dsimp only
    split
    · exact { known with inCall := trivial }
    · case h_2 handle isHandle =>
      split
      · refine Known.startWaiting (Known.sendNewGoal ?_ ?_) rfl _ _
        · exact { known with }
        · exact noResult
      · exact {
          known with
          inCall := ⟨noFuture, by rw [isHandle]; rfl⟩ }
  · rw [if_neg loops]
    exact known.finish input.outcome

theorem Known.awaitResponse
    (known : Known node)
    (input : TickInput) :
    Held (awaitResponse timeouts node input) := by
  rw [BtActionNode.awaitResponse]
  split
  · case h_1 goal isFuture =>
    exact known.startWaiting (by rw [isFuture]; rfl) _ _
  · case h_2 noFuture =>
    exact known.runningLoop noFuture input

theorem Held.tick
    (held : Held node)
    (input : TickInput) :
    Held (tick timeouts node input) := by
  rw [BtActionNode.tick]
  dsimp only
  split
  · refine Known.awaitResponse ?_ input
    exact { held.toKnown with }
  · have activated : Known { node with
        returned := none
        result := none
        activationGoal := none
        status := .running } :=
      { held.toKnown with result := nofun }
    split
    · exact (activated.sendNewGoal rfl).awaitResponse input
    · exact activated.giveUp

theorem Known.acknowledged
    (known : Known node)
    (isFuture : node.futureGoalHandle = some goal)
    (answered : node.isAnswered goal = true)
    (notRejected : ¬node.isRejected goal = true) :
    Known { node with
      futureGoalHandle := none
      goalHandle := some goal } := by
  have unavailable : node.goalResultAvailable = false :=
    known.waits (by rw [isFuture]; rfl)
  exact {
    known with
    future := nofun
    waits := nofun
    handle := by
      rintro _ ⟨⟩
      unfold isAnswered at answered
      unfold isRejected at notRejected
      cases found : node.goals[goal]? with
      | none =>
          rw [found] at answered
          exact nomatch answered
      | some sent =>
          rw [found] at answered notRejected
          refine ⟨sent, rfl, ?_⟩
          have hasAnswer := (known.told goal sent found).answered answered
          cases progress : sent.progress with
          | sent =>
              exact absurd progress hasAnswer
          | accepted =>
              exact .inl progress
          | rejected =>
              exact absurd (decide_eq_true progress) notRejected
          | finished code =>
              exact .inr ⟨code, progress⟩
    available := fun available =>
      nomatch unavailable.symm.trans available }

theorem Known.afterWaiting
    (known : Known node)
    (inCall : InCall node)
    (isUpdate : Bool)
    (elapsed : Int)
    (input : TickInput) :
    Held (afterWaiting timeouts node isUpdate elapsed input) := by
  rw [BtActionNode.afterWaiting]
  split
  · exact { known with inCall }
  · case h_2 goal isFuture =>
    split
    · case isTrue answered =>
      split
      · refine Known.giveUp ?_
        exact { known.withoutFuture.withoutHandle with }
      · case isFalse notRejected =>
        have acknowledged := known.acknowledged isFuture answered notRejected
        dsimp only
        split
        · exact { acknowledged with inCall := ⟨rfl, rfl⟩ }
        · exact acknowledged.runningLoop rfl input
    · split
      · exact known.withoutFuture.giveUp
      · exact known.notAcknowledged elapsed

theorem Held.halt
    (held : Held node) :
    Held node.halt := by
  rw [BtActionNode.halt]
  dsimp only
  split
  · refine Known.leaveHalt ?_
    exact { held.toKnown with }
  · split
    · refine Known.leaveHalt ?_
      exact { held.toKnown with }
    · case h_2 handle isHandle =>
      exact { held.toKnown with inCall := Option.isSome_of_mem isHandle }

theorem Held.afterChecking
    (held : Held node) :
    Held node.afterChecking := by
  rw [BtActionNode.afterChecking]
  split
  · exact held
  · case h_2 handle isHandle =>
    split
    · have carries := carries_cancelRequested node.goals handle
      refine { held.toKnown.setGoal carries with inCall := ?_ }
      refine ⟨Option.isSome_of_mem isHandle, fun goal isGoal => ?_⟩
      obtain rfl := Option.some.inj (isHandle.symm.trans isGoal)
      obtain ⟨sent, found, -⟩ := held.handle handle isHandle
      refine ⟨{ sent with cancelRequested := true }, ?_, rfl⟩
      dsimp only
      rw [List.getElem?_modify, found]
      simp only [if_true, Option.map_eq_map, Option.map_some, Option.mem_def]
    · exact held.leaveHalt

theorem Held.spinEnds
    (held : Held node)
    (input : TickInput) :
    Held (spinEnds timeouts node input) := by
  rw [BtActionNode.spinEnds]
  split
  · exact held.toKnown.afterWaiting held.inCall _ _ input
  · rw [afterSpinning]
    split
    · exact held.finish input.outcome
    · exact held.wait
  · exact held.afterChecking
  · exact held.leaveHalt
  · exact held
  · exact held
  · exact held

theorem carries_statusMessage
    (found : goals[goal]? = some sent)
    (told : sent.Told)
    {known : KnownStatus}
    (arrives : isSent sent (.status known) = true) :
    Carries goals goal ({ · with known }) := by
  simp only [isSent, Bool.and_eq_true, Bool.or_eq_true, decide_eq_true_eq]
    at arrives
  obtain ⟨⟨⟨⟨answered, notRejected⟩, -⟩, canceling⟩, ended⟩ := arrives
  refine carries_known found SentGoal.resultTaken ?_ ?_
  · intro isCanceling
    exact canceling.resolve_left (not_not.mpr isCanceling)
  · intro isEnded
    have notAccepted := ended.resolve_left (not_not.mpr isEnded)
    cases progress : sent.progress with
    | sent =>
        exact absurd progress (told.answered answered)
    | accepted =>
        exact absurd progress notAccepted
    | rejected =>
        exact absurd progress notRejected
    | finished code =>
        exact ⟨code, rfl⟩

/-- What a message can do: nothing, a change of what is known of a goal, or
after that a call of the callback for a result. -/
theorem Known.onMessage_cases
    (known : Known node)
    (goal : Nat)
    (message : BtMessage) :
    node.onMessage goal message = node ∨
      node.takesMessages = true ∧
        ((∃ feedback, node.onMessage goal message = { node with feedback }) ∨
          ∃ change, Carries node.goals goal change ∧
            (node.onMessage goal message = node.setGoal goal change ∨
              ∃ code, ∃ sent ∈ (node.setGoal goal change).goals[goal]?,
                sent.progress = .finished code ∧
                node.onMessage goal message =
                  (node.setGoal goal change).resultCallback goal code)) := by
  rw [onMessage]
  split
  · case h_1 sent found =>
    split
    · case isTrue arrives =>
      rw [Bool.and_eq_true] at arrives
      have told := known.told goal sent found
      cases message with
      | response =>
          have arrived := arrives.2
          simp only [isSent, Bool.and_eq_true, decide_eq_true_eq] at arrived
          exact .inr ⟨arrives.1, .inr ⟨_, carries_answered found arrived.2,
            .inl rfl⟩⟩
      | status known =>
          exact .inr ⟨arrives.1, .inr ⟨_,
            carries_statusMessage found told arrives.2, .inl rfl⟩⟩
      | feedback =>
          exact .inr ⟨arrives.1, .inl ⟨some goal, rfl⟩⟩
      | result =>
          rw [takeMessage]
          split
          · case h_1 code finished =>
            have carries : Carries node.goals goal
                ({ · with known := .ended, resultTaken := true }) :=
              carries_known found (fun _ => true) nofun fun _ =>
                ⟨code, finished⟩
            obtain ⟨after, foundAfter, goesOn⟩ := carries.found found
            exact .inr ⟨arrives.1, .inr ⟨_, carries, .inr ⟨code, after,
              foundAfter, goesOn.finished code finished, rfl⟩⟩⟩
          · exact .inl rfl
          · exact .inl rfl
          · exact .inl rfl
    · exact .inl rfl
  · exact .inl rfl

theorem Held.onMessage
    (held : Held node)
    (goal : Nat)
    (message : BtMessage) :
    Held (node.onMessage goal message) := by
  rcases held.toKnown.onMessage_cases goal message with
    ignored | ⟨spins, ⟨feedback, taken⟩ | ⟨change, carries,
      taken | ⟨code, sent, found, finished, taken⟩⟩⟩
  · rw [ignored]
    exact held
  · rw [taken]
    exact { held with }
  · rw [taken]
    exact held.setGoal carries
  · rw [taken]
    exact (held.setGoal carries).resultCallback (held.ready spins) found
      finished

theorem Held.step
    (held : Held node)
    (event : BtEvent) :
    Held (step timeouts node event) := by
  cases event with
  | serverAccepts goal =>
      exact held.setGoal
        (carries_serverMoves _ goal (.inl ⟨rfl, .inl rfl⟩))
  | serverRejects goal =>
      exact held.setGoal
        (carries_serverMoves _ goal (.inl ⟨rfl, .inr rfl⟩))
  | serverFinishes goal code =>
      exact held.setGoal
        (carries_serverMoves _ goal (.inr ⟨rfl, code, rfl⟩))
  | cancelRequested goal =>
      exact held.setGoal (carries_cancelRequested _ goal)
  | message goal message =>
      exact held.onMessage goal message
  | tick input =>
      unfold BtActionNode.step
      dsimp only
      split
      · exact held.tick input
      · exact held
  | spinEnds input =>
      exact held.spinEnds input
  | halt =>
      unfold BtActionNode.step
      dsimp only
      split
      · exact held.halt
      · exact held
  | resetStatus =>
      unfold BtActionNode.step
      dsimp only
      split
      · exact { held with }
      · exact held

/-- A step always has a result. -/
def stepsTo
    (timeouts : BtTimeouts)
    (node : BtActionNode)
    (event : BtEvent) : Option BtActionNode :=
  some (step timeouts node event)

end BtActionNode

end NavBim
