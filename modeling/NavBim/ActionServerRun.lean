import NavBim.SimpleActionServer

namespace NavBim

/-!
# The action server and its worker

A goal that finds no worker starts one, with `std::async`; a goal that finds
one waits in the pending slot.  The worker runs the execute callback on the
current goal, takes the pending goal when the callback is done, and stops when
there is none.  Whether there is a worker is asked of its future, and the
future is not ready until some time after the worker's last section under the
lock.

A step is one section under the lock, or one of the worker's steps outside of
it.  The server stays active, and the completion callback does not use it.
-/

/-- Where the worker is.  `ended` is a future that is ready, or none. -/
inductive WorkerPhase where
  | ended
  | checking
  | executing
  | failed
  | leaving
  deriving DecidableEq, Repr

/-- The calls with which the execute callback changes the server. -/
inductive CallbackCall (Result : Type) where
  | succeededCurrent (result : Result)
  | terminateCurrent (result : Result)
  | terminateAll (result : Result)
  | terminatePendingGoal
  | acceptPendingGoal
  deriving DecidableEq, Repr

inductive ActionEvent (Goal Result : Type) where
  | accept (goal : Goal)
  | cancel (id : Nat)
  | check
  | call (call : CallbackCall Result)
  | returned
  | threw
  | terminated
  | finished
  deriving DecidableEq, Repr

structure ActionSystem (Goal Result : Type) where
  server : ActionServer Goal Result
  phase : WorkerPhase
  deriving DecidableEq

namespace ActionServer

variable {Goal Result : Type} {server : ActionServer Goal Result}

/-- An active goal is the current or the pending one, and these are two. -/
structure Held (server : ActionServer Goal Result) : Prop where
  owned : ∀ id : Nat, server.isActive (some id) = true →
    server.currentHandle = some id ∨ server.pendingHandle = some id
  current_lt : ∀ id : Nat, server.currentHandle = some id →
    id < server.handles.length
  pending_lt : ∀ id : Nat, server.pendingHandle = some id →
    id < server.handles.length
  apart : ∀ id : Nat, server.currentHandle = some id →
    server.pendingHandle ≠ some id

/-- No goal that has been accepted is still to be executed or ended. -/
def NoneActive (server : ActionServer Goal Result) : Prop :=
  ∀ id : Nat, server.isActive (some id) = false

theorem isActive_some
    (server : ActionServer Goal Result)
    (id : Nat) :
    server.isActive (some id) = true ↔
      server.status? id = some .executing ∨
        server.status? id = some .canceling := by
  simp only [isActive, Option.bind_some]
  split
  · case h_1 status => simp [status]
  · case h_2 status => simp [status]
  · case h_3 notExecuting notCanceling =>
    simp only [Bool.false_eq_true, false_iff, not_or]
    exact ⟨notExecuting, notCanceling⟩

theorem isActive_setStatus_of_ne
    {id other : Nat}
    (status : GoalStatus Result)
    (different : id ≠ other) :
    (server.setStatus id status).isActive (some other) =
      server.isActive (some other) := by
  simp only [isActive, Option.bind_some, status?_setStatus, if_neg different]

variable
  {id : Nat}
  {status : GoalStatus Result}

theorem isActive_setStatus_self
    (notExecuting : status ≠ .executing)
    (notCanceling : status ≠ .canceling) :
    (server.setStatus id status).isActive (some id) = false := by
  rw [Bool.eq_false_iff]
  intro active
  rw [isActive_some, status?_setStatus, if_pos rfl] at active
  rcases active with executing | canceling
  · obtain ⟨_, -, same⟩ := Option.map_eq_some_iff.mp executing
    exact notExecuting same
  · obtain ⟨_, -, same⟩ := Option.map_eq_some_iff.mp canceling
    exact notCanceling same

theorem isActive_setStatus_ended
    (notExecuting : status ≠ .executing)
    (notCanceling : status ≠ .canceling)
    (id other : Nat) :
    (server.setStatus id status).isActive (some other) = true ↔
      server.isActive (some other) = true ∧ id ≠ other := by
  by_cases same : id = other
  · subst same
    simp [isActive_setStatus_self notExecuting notCanceling]
  · rw [isActive_setStatus_of_ne status same]
    simp [same]

theorem isActive_handleCancel
    (id other : Nat) :
    (server.handleCancel id).isActive (some other) =
      server.isActive (some other) := by
  rw [handleCancel]
  split
  · case isTrue active =>
    by_cases same : id = other
    · subst same
      rw [active, isActive_some, status?_setStatus, if_pos rfl]
      right
      rcases (isActive_some server id).mp active with held | held
      · rw [held, Option.map_some]
      · rw [held, Option.map_some]
    · exact isActive_setStatus_of_ne .canceling same
  · rfl

/-- What an operation that only ends goals does to the server. -/
structure Fewer (before after : ActionServer Goal Result) : Prop where
  active : ∀ id : Nat, after.isActive (some id) = true →
    before.isActive (some id) = true
  length : after.handles.length = before.handles.length
  current : ∀ id : Nat, after.currentHandle = some id →
    before.currentHandle = some id ∨
      before.pendingHandle = some id ∧ after.pendingHandle = none
  pending : ∀ id : Nat, after.pendingHandle = some id →
    before.pendingHandle = some id
  kept : ∀ id : Nat, after.isActive (some id) = true →
    before.currentHandle = some id ∨ before.pendingHandle = some id →
      after.currentHandle = some id ∨ after.pendingHandle = some id

theorem Fewer.refl (server : ActionServer Goal Result) :
    Fewer server server where
  active _ active := active
  length := rfl
  current _ held := .inl held
  pending _ held := held
  kept _ _ held := held

variable
  {before after : ActionServer Goal Result}

theorem Held.of_fewer
    (held : Held before)
    (fewer : Fewer before after) :
    Held after where
  owned id active :=
    fewer.kept id active (held.owned id (fewer.active id active))
  current_lt id current := by
    rw [fewer.length]
    rcases fewer.current id current with same | ⟨moved, -⟩
    · exact held.current_lt id same
    · exact held.pending_lt id moved
  pending_lt id pending := by
    rw [fewer.length]
    exact held.pending_lt id (fewer.pending id pending)
  apart id current := by
    rcases fewer.current id current with same | ⟨-, emptied⟩
    · intro pending
      exact held.apart id same (fewer.pending id pending)
    · rw [emptied]
      exact nofun

theorem length_setStatus
    (id : Nat)
    (status : GoalStatus Result) :
    (server.setStatus id status).handles.length = server.handles.length :=
  List.length_modify _ _ _

/-- The current goal, if it is active, is ended and its slot emptied. -/
structure EndsCurrent (before after : ActionServer Goal Result) : Prop where
  active : ∀ id : Nat, after.isActive (some id) = true ↔
    before.isActive (some id) = true ∧ before.currentHandle ≠ some id
  length : after.handles.length = before.handles.length
  current : after.currentHandle = none ∨
    after.currentHandle = before.currentHandle
  pending : after.pendingHandle = before.pendingHandle

/-- The same for the pending goal. -/
structure EndsPending (before after : ActionServer Goal Result) : Prop where
  active : ∀ id : Nat, after.isActive (some id) = true ↔
    before.isActive (some id) = true ∧ before.pendingHandle ≠ some id
  length : after.handles.length = before.handles.length
  current : after.currentHandle = before.currentHandle
  pending : after.pendingHandle = none ∨
    after.pendingHandle = before.pendingHandle

theorem EndsCurrent.fewer
    (ends : EndsCurrent before after) :
    Fewer before after where
  active id held := ((ends.active id).mp held).1
  length := ends.length
  current id held := by
    rcases ends.current with emptied | same
    · rw [emptied] at held
      cases held
    · exact .inl (same ▸ held)
  pending id held := ends.pending ▸ held
  kept id held handle := by
    rcases handle with isCurrent | isPending
    · exact absurd isCurrent ((ends.active id).mp held).2
    · exact .inr (ends.pending.trans isPending)

theorem EndsPending.fewer
    (ends : EndsPending before after) :
    Fewer before after where
  active id held := ((ends.active id).mp held).1
  length := ends.length
  current id held := .inl (ends.current ▸ held)
  pending id held := by
    rcases ends.pending with emptied | same
    · rw [emptied] at held
      cases held
    · exact same ▸ held
  kept id held handle := by
    rcases handle with isCurrent | isPending
    · exact .inl (ends.current.trans isCurrent)
    · exact absurd isPending ((ends.active id).mp held).2

/-- A slot without an active goal says nothing about the active ones. -/
theorem isActive_and_ne
    {handle : Option Nat}
    (inactive : server.isActive handle = false)
    (id : Nat) :
    server.isActive (some id) = true ↔
      server.isActive (some id) = true ∧ handle ≠ some id := by
  constructor
  · intro active
    refine ⟨active, ?_⟩
    rintro rfl
    cases inactive.symm.trans active
  · exact And.left

theorem endsCurrent_refl
    (inactive : server.isActive server.currentHandle = false) :
    EndsCurrent server server where
  active := isActive_and_ne inactive
  length := rfl
  current := .inr rfl
  pending := rfl

theorem endsPending_refl
    (inactive : server.isActive server.pendingHandle = false) :
    EndsPending server server where
  active := isActive_and_ne inactive
  length := rfl
  current := rfl
  pending := .inr rfl

theorem endsCurrent_setStatus
    (isCurrent : server.currentHandle = some id)
    (notExecuting : status ≠ .executing)
    (notCanceling : status ≠ .canceling) :
    EndsCurrent server
      { server.setStatus id status with currentHandle := none } where
  active other := by
    rw [isCurrent]
    exact (isActive_setStatus_ended notExecuting notCanceling id other).trans
      (and_congr_right fun _ => by simp)
  length := length_setStatus id status
  current := .inl rfl
  pending := rfl

theorem endsPending_setStatus
    (isPending : server.pendingHandle = some id)
    (notExecuting : status ≠ .executing)
    (notCanceling : status ≠ .canceling) :
    EndsPending server
      { server.setStatus id status with pendingHandle := none } where
  active other := by
    rw [isPending]
    exact (isActive_setStatus_ended notExecuting notCanceling id other).trans
      (and_congr_right fun _ => by simp)
  length := length_setStatus id status
  current := rfl
  pending := .inl rfl

theorem endsCurrent_terminateCurrent (result : Result) :
    EndsCurrent server (server.terminateCurrent result) := by
  rw [terminateCurrent]
  split
  · case h_1 id isCurrent =>
    split
    · rw [endGoal]
      split
      · exact endsCurrent_setStatus isCurrent (by simp) (by simp)
      · exact endsCurrent_setStatus isCurrent (by simp) (by simp)
    · case isFalse inactive =>
      apply endsCurrent_refl
      rw [isCurrent]
      exact Bool.eq_false_iff.mpr inactive
  · case h_2 empty =>
    apply endsCurrent_refl
    rw [empty]
    rfl

theorem endsPending_terminatePending (result : Result) :
    EndsPending server (server.terminatePending result) := by
  rw [terminatePending]
  split
  · case h_1 id isPending =>
    split
    · rw [endGoal]
      split
      · exact endsPending_setStatus isPending (by simp) (by simp)
      · exact endsPending_setStatus isPending (by simp) (by simp)
    · case isFalse inactive =>
      apply endsPending_refl
      rw [isPending]
      exact Bool.eq_false_iff.mpr inactive
  · case h_2 empty =>
    apply endsPending_refl
    rw [empty]
    rfl

theorem endsCurrent_succeededCurrent (result : Result) :
    EndsCurrent server (server.succeededCurrent result) := by
  rw [succeededCurrent]
  split
  · case h_1 id isCurrent =>
    split
    · exact endsCurrent_setStatus isCurrent (by simp) (by simp)
    · case isFalse inactive =>
      apply endsCurrent_refl
      rw [isCurrent]
      exact Bool.eq_false_iff.mpr inactive
  · case h_2 empty =>
    apply endsCurrent_refl
    rw [empty]
    rfl

/-- Whether a preemption is requested does not matter to who holds a goal. -/
theorem Held.congr
    {other : ActionServer Goal Result}
    (held : Held server)
    (handles : other.handles = server.handles)
    (current : other.currentHandle = server.currentHandle)
    (pending : other.pendingHandle = server.pendingHandle) :
    Held other := by
  obtain ⟨otherHandles, otherCurrent, otherPending, otherRequested⟩ := other
  subst handles current pending
  exact ⟨held.owned, held.current_lt, held.pending_lt, held.apart⟩

/-- With both goals ended nothing is active. -/
theorem Held.noneActive_terminateAll
    (held : Held server)
    (result : Result) :
    NoneActive (server.terminateAll result) := by
  have first : EndsCurrent server (server.terminateCurrent result) :=
    endsCurrent_terminateCurrent result
  have second :
      EndsPending (server.terminateCurrent result)
        ((server.terminateCurrent result).terminatePending result) :=
    endsPending_terminatePending result
  intro id
  rw [Bool.eq_false_iff]
  intro active
  obtain ⟨stillActive, notPending⟩ := (second.active id).mp active
  obtain ⟨wasActive, notCurrent⟩ := (first.active id).mp stillActive
  rcases held.owned id wasActive with isCurrent | isPending
  · exact notCurrent isCurrent
  · exact notPending (first.pending.trans isPending)

theorem Held.terminateAll
    (held : Held server)
    (result : Result) :
    Held (server.terminateAll result) :=
  ((held.of_fewer (endsCurrent_terminateCurrent result).fewer).of_fewer
    (endsPending_terminatePending result).fewer).congr rfl rfl rfl

theorem Held.handleCancel
    (held : Held server)
    (id : Nat) :
    Held (server.handleCancel id) := by
  have length : (server.handleCancel id).handles.length =
      server.handles.length := by
    rw [ActionServer.handleCancel]
    split
    · exact length_setStatus id _
    · rfl
  have pending : (server.handleCancel id).pendingHandle =
      server.pendingHandle := by
    rw [ActionServer.handleCancel]
    split
    · rfl
    · rfl
  have current :
      (server.handleCancel id).currentHandle = server.currentHandle :=
    currentHandle_handleCancel id
  constructor
  · intro other active
    rw [current, pending]
    rw [isActive_handleCancel] at active
    exact held.owned other active
  · rw [current, length]
    exact held.current_lt
  · rw [pending, length]
    exact held.pending_lt
  · rw [current, pending]
    exact held.apart

theorem isActive_append
    (goal : Goal)
    (id : Nat) :
    isActive
        { server with handles := server.handles ++ [⟨goal, .executing⟩] }
        (some id) = true ↔
      server.isActive (some id) = true ∨ id = server.handles.length := by
  rw [isActive_some, isActive_some, status?, status?]
  rcases Nat.lt_trichotomy id server.handles.length with less | same | more
  · rw [List.getElem?_append_left less]
    simp [Nat.ne_of_lt less]
  · subst same
    rw [List.getElem?_concat_length]
    simp
  · have outside : server.handles[id]? = none :=
      List.getElem?_eq_none (Nat.le_of_lt more)
    have outsideNew :
        (server.handles ++ [⟨goal, GoalStatus.executing⟩])[id]? = none :=
      List.getElem?_eq_none (by
        rw [List.length_append, List.length_singleton]
        exact more)
    rw [outside, outsideNew]
    simp [Nat.ne_of_gt more]

/-- The pending goal, if it is active, is ended. -/
def terminatePendingGoal
    [Inhabited Result]
    (server : ActionServer Goal Result) : ActionServer Goal Result :=
  if server.isActive server.pendingHandle then
    { server.terminatePending default with preemptRequested := false }
  else
    server

section Empty

variable [Inhabited Result]

theorem Held.terminatePendingGoal
    (held : Held server) :
    Held server.terminatePendingGoal := by
  rw [ActionServer.terminatePendingGoal]
  split
  · exact (held.of_fewer (endsPending_terminatePending default).fewer).congr
      rfl rfl rfl
  · exact held

/-- The current goal is ended, and the pending one takes its slot. -/
theorem fewer_acceptPendingGoal
    (held : Held server) :
    Fewer server server.acceptPendingGoal := by
  rw [acceptPendingGoal]
  split
  · case isTrue isPending =>
    have aborted : ∀ id : Nat,
        server.abortCurrent.isActive (some id) = true ↔
          server.isActive (some id) = true ∧
            server.currentHandle ≠ some id := by
      intro id
      rw [abortCurrent]
      split
      · case h_1 current isCurrent =>
        rw [isCurrent]
        split
        · exact (isActive_setStatus_ended (by simp) (by simp) current
            id).trans (and_congr_right fun _ => by simp)
        · case isFalse spared =>
          have inactive : server.isActive (some current) = false := by
            have notPending := held.apart current isCurrent
            cases active : server.isActive (some current) with
            | false => rfl
            | true =>
                apply absurd _ spared
                rw [active, Bool.true_and, bne_iff_ne]
                exact notPending.symm
          exact isActive_and_ne inactive id
      · case h_2 empty =>
        simp [empty]
    have length : server.abortCurrent.handles.length =
        server.handles.length := by
      rw [abortCurrent]
      split
      · split
        · exact length_setStatus _ _
        · rfl
      · rfl
    exact
      { active := fun id active => ((aborted id).mp active).1
        length
        current := fun id current => .inr ⟨current, rfl⟩
        pending := fun id pending => by cases pending
        kept := by
          intro id active handle
          rcases handle with isCurrent | isPending
          · exact absurd isCurrent ((aborted id).mp active).2
          · exact .inl isPending }
  · exact .refl server

theorem isActive_acceptPendingGoal
    (held : Held server)
    (isPending : server.isActive server.pendingHandle = true) :
    server.acceptPendingGoal.isActive
      server.acceptPendingGoal.currentHandle = true := by
  cases pending : server.pendingHandle with
  | none =>
      rw [pending] at isPending
      cases isPending
  | some id =>
      rw [pending] at isPending
      have current : server.acceptPendingGoal.currentHandle = some id := by
        rw [acceptPendingGoal, pending, if_pos isPending]
      have kept : server.acceptPendingGoal.isActive (some id) =
          server.abortCurrent.isActive (some id) := by
        rw [acceptPendingGoal, pending, if_pos isPending]
        rfl
      rw [current, kept, abortCurrent]
      split
      · case h_1 other isCurrent =>
        split
        · have different : other ≠ id := by
            rintro rfl
            exact held.apart other isCurrent pending
          rw [isActive_setStatus_of_ne _ different]
          exact isPending
        · exact isPending
      · exact isPending

variable
  {isRunning : Bool}

section

variable
  (held : Held server)

include held

/-- A goal that has to wait: it is the pending one, and of the others only
the goal that was pending is ended. -/
theorem isActive_handleAccepted
    (busy : (server.isActive server.currentHandle || isRunning) = true)
    (goal : Goal) :
    (server.handleAccepted isRunning goal).2 = false ∧
      (server.handleAccepted isRunning goal).1.currentHandle =
        server.currentHandle ∧
      (server.handleAccepted isRunning goal).1.pendingHandle =
        some server.handles.length ∧
      (server.handleAccepted isRunning goal).1.handles.length =
        server.handles.length + 1 ∧
      ∀ id : Nat,
        (server.handleAccepted isRunning goal).1.isActive (some id) = true ↔
          server.isActive (some id) = true ∧ server.pendingHandle ≠ some id ∨
            id = server.handles.length := by
  have ends : EndsPending
      { server with handles := server.handles ++ [⟨goal, .executing⟩] } _ :=
    endsPending_terminatePending default
  rw [handleAccepted, if_pos busy]
  refine ⟨rfl, ends.current, rfl, ?_, ?_⟩
  · rw [ends.length, List.length_append, List.length_singleton]
  · intro id
    refine (ends.active id).trans ?_
    rw [isActive_append, or_and_right]
    refine or_congr_right (and_iff_left_of_imp ?_)
    rintro rfl pending
    exact Nat.lt_irrefl _ (held.pending_lt _ pending)

theorem Held.parked
    (busy : (server.isActive server.currentHandle || isRunning) = true)
    (goal : Goal) :
    Held (server.handleAccepted isRunning goal).1 := by
  obtain ⟨-, current, pending, length, active⟩ :=
    isActive_handleAccepted held busy goal
  constructor
  · intro id isActive
    rw [current, pending]
    rcases (active id).mp isActive with ⟨wasActive, notPending⟩ | isNew
    · exact .inl ((held.owned id wasActive).resolve_right notPending)
    · exact .inr (congrArg some isNew.symm)
  · intro id isCurrent
    rw [current] at isCurrent
    rw [length]
    exact Nat.lt_succ_of_lt (held.current_lt id isCurrent)
  · intro id isPending
    rw [pending] at isPending
    rw [length, ← Option.some.inj isPending]
    exact Nat.lt_succ_self _
  · intro id isCurrent
    rw [current] at isCurrent
    rw [pending]
    have less := held.current_lt id isCurrent
    intro same
    exact Nat.ne_of_gt less (Option.some.inj same)

/-- Without a current goal or a worker the new goal is the current one, and a
goal that was left pending is ended. -/
theorem isActive_handleAccepted_free
    (free : (server.isActive server.currentHandle || isRunning) = false)
    (goal : Goal) :
    (server.handleAccepted isRunning goal).2 = true ∧
      (server.handleAccepted isRunning goal).1.currentHandle =
        some server.handles.length ∧
      ((server.handleAccepted isRunning goal).1.pendingHandle = none ∨
        (server.handleAccepted isRunning goal).1.pendingHandle =
          server.pendingHandle) ∧
      (server.handleAccepted isRunning goal).1.handles.length =
        server.handles.length + 1 ∧
      ∀ id : Nat,
        (server.handleAccepted isRunning goal).1.isActive (some id) = true ↔
          server.isActive (some id) = true ∧ server.pendingHandle ≠ some id ∨
            id = server.handles.length := by
  have fresh : server.pendingHandle ≠ some server.handles.length := by
    intro pending
    exact Nat.lt_irrefl _ (held.pending_lt _ pending)
  rw [handleAccepted, if_neg (Bool.eq_false_iff.mp free)]
  split
  · have ends : EndsPending
        { server with handles := server.handles ++ [⟨goal, .executing⟩] } _ :=
      endsPending_terminatePending default
    refine ⟨rfl, rfl, ends.pending, ?_, ?_⟩
    · rw [ends.length, List.length_append, List.length_singleton]
    · intro id
      refine (ends.active id).trans ?_
      rw [isActive_append, or_and_right]
      refine or_congr_right (and_iff_left_of_imp ?_)
      rintro rfl
      exact fresh
  · case isFalse inactive =>
    refine ⟨rfl, rfl, .inr rfl, ?_, ?_⟩
    · rw [List.length_append, List.length_singleton]
    · intro id
      refine (isActive_append goal id).trans (or_congr_left ?_)
      exact isActive_and_ne (Bool.eq_false_iff.mpr inactive) id

theorem Held.started
    (free : (server.isActive server.currentHandle || isRunning) = false)
    (goal : Goal) :
    Held (server.handleAccepted isRunning goal).1 := by
  obtain ⟨-, current, pending, length, active⟩ :=
    isActive_handleAccepted_free held free goal
  have wasPending : ∀ id : Nat,
      (server.handleAccepted isRunning goal).1.pendingHandle = some id →
        server.pendingHandle = some id := by
    intro id isPending
    rcases pending with emptied | same
    · rw [emptied] at isPending
      cases isPending
    · exact same ▸ isPending
  constructor
  · intro id isActive
    rw [current]
    rcases (active id).mp isActive with ⟨wasActive, notPending⟩ | isNew
    · have isCurrent := (held.owned id wasActive).resolve_right notPending
      rw [isCurrent, wasActive] at free
      cases free
    · exact .inl (congrArg some isNew.symm)
  · intro id isCurrent
    rw [current] at isCurrent
    rw [length, ← Option.some.inj isCurrent]
    exact Nat.lt_succ_self _
  · intro id isPending
    rw [length]
    exact Nat.lt_succ_of_lt (held.pending_lt id (wasPending id isPending))
  · intro id isCurrent isPending
    rw [current] at isCurrent
    have less := held.pending_lt id (wasPending id isPending)
    rw [← Option.some.inj isCurrent] at less
    exact Nat.lt_irrefl _ less

theorem Held.handleAccepted
    (isRunning : Bool)
    (goal : Goal) :
    Held (server.handleAccepted isRunning goal).1 := by
  cases busy : server.isActive server.currentHandle || isRunning with
  | true => exact held.parked busy goal
  | false => exact held.started busy goal

end

end Empty

end ActionServer

/-!
## Runs of the server with its worker
-/

namespace ActionSystem

open ActionServer

variable {Goal Result : Type} [Inhabited Result]

def call
    (server : ActionServer Goal Result) :
    CallbackCall Result → ActionServer Goal Result
  | .succeededCurrent result => server.succeededCurrent result
  | .terminateCurrent result => server.terminateCurrent result
  | .terminateAll result => server.terminateAll result
  | .terminatePendingGoal => server.terminatePendingGoal
  | .acceptPendingGoal => server.acceptPendingGoal

/-- The section after the execute callback: the current goal is ended if it
still is active, and the pending one is taken if there is one. -/
def processed (server : ActionServer Goal Result) :
    ActionSystem Goal Result :=
  let ended := server.terminateCurrent default
  if ended.isActive ended.pendingHandle then
    { server := ended.acceptPendingGoal
      phase := .checking }
  else
    { server := ended
      phase := .leaving }

/-- A goal arrives and waits, or starts a worker. -/
def accepted
    (system : ActionSystem Goal Result)
    (goal : Goal) : ActionSystem Goal Result :=
  let accepted :=
    system.server.handleAccepted (system.phase != .ended) goal
  { server := accepted.1
    phase := if accepted.2 then .checking else system.phase }

/-- One step; `none` where the worker is not at the step. -/
def step
    (system : ActionSystem Goal Result) :
    ActionEvent Goal Result → Option (ActionSystem Goal Result)
  | .accept goal => some (system.accepted goal)
  | .cancel id =>
      some { system with server := system.server.handleCancel id }
  | .check =>
      match system.phase with
      | .checking =>
          if system.server.isActive system.server.currentHandle then
            some { system with phase := .executing }
          else
            some { system with phase := .leaving }
      | _ => none
  | .call name =>
      match system.phase with
      | .executing =>
          some { system with server := call system.server name }
      | _ => none
  | .returned =>
      match system.phase with
      | .executing => some (processed system.server)
      | _ => none
  | .threw =>
      match system.phase with
      | .executing => some { system with phase := .failed }
      | _ => none
  | .terminated =>
      match system.phase with
      | .failed =>
          some
            { server := system.server.terminateAll default
              phase := .leaving }
      | _ => none
  | .finished =>
      match system.phase with
      | .leaving => some { system with phase := .ended }
      | _ => none

/-- The states of the runs in which every step meets a condition. -/
inductive Reached
    (condition :
      ActionSystem Goal Result → ActionEvent Goal Result → Prop) :
    ActionSystem Goal Result → Prop where
  | start :
      Reached condition
        { server := ⟨[], none, none, false⟩
          phase := .ended }
  | step
      {system next : ActionSystem Goal Result}
      (event : ActionEvent Goal Result) :
      Reached condition system →
      condition system event →
      system.step event = some next →
      Reached condition next

/-- The goal does not arrive between the worker's last section under the lock
and its end. -/
def NotLate
    (system : ActionSystem Goal Result)
    (event : ActionEvent Goal Result) : Prop :=
  ∀ goal : Goal, event = .accept goal → system.phase ≠ .leaving

/-- What holds at each place of the worker. -/
structure Sound (system : ActionSystem Goal Result) : Prop where
  held : Held system.server
  checking : system.phase = .checking →
    system.server.isActive system.server.currentHandle = true
  settled : system.phase = .leaving ∨ system.phase = .ended →
    NoneActive system.server

theorem held_call
    {server : ActionServer Goal Result}
    (held : Held server)
    (name : CallbackCall Result) :
    Held (call server name) := by
  cases name with
  | succeededCurrent result =>
      exact held.of_fewer (endsCurrent_succeededCurrent result).fewer
  | terminateCurrent result =>
      exact held.of_fewer (endsCurrent_terminateCurrent result).fewer
  | terminateAll result => exact held.terminateAll result
  | terminatePendingGoal => exact held.terminatePendingGoal
  | acceptPendingGoal => exact held.of_fewer (fewer_acceptPendingGoal held)

/-- After the section the worker has a goal, or there is none left. -/
theorem sound_processed
    {server : ActionServer Goal Result}
    (held : Held server) :
    Sound (processed server) := by
  have ends : EndsCurrent server (server.terminateCurrent default) :=
    endsCurrent_terminateCurrent default
  have heldEnded := held.of_fewer ends.fewer
  rw [processed]
  split
  · case isTrue isPending =>
    exact
      { held := heldEnded.of_fewer (fewer_acceptPendingGoal heldEnded)
        checking := fun _ => isActive_acceptPendingGoal heldEnded isPending
        settled := by
          rintro (leaving | ended)
          · cases leaving
          · cases ended }
  · case isFalse notPending =>
    refine ⟨heldEnded, nofun, fun _ => ?_⟩
    intro id
    rw [Bool.eq_false_iff]
    intro active
    obtain ⟨wasActive, notCurrent⟩ := (ends.active id).mp active
    have isPending := (held.owned id wasActive).resolve_left notCurrent
    apply notPending
    rw [ends.pending, isPending]
    exact active

omit [Inhabited Result] in
theorem isActive_currentHandle_handleCancel
    {server : ActionServer Goal Result}
    (id : Nat)
    (active : server.isActive server.currentHandle = true) :
    (server.handleCancel id).isActive
      (server.handleCancel id).currentHandle = true := by
  rw [currentHandle_handleCancel]
  cases current : server.currentHandle with
  | none =>
      rw [current] at active
      cases active
  | some other =>
      rw [isActive_handleCancel, ← current]
      exact active

variable
  {event : ActionEvent Goal Result}

theorem step_cases
    {system next : ActionSystem Goal Result}
    (stepped : system.step event = some next) :
    (∃ goal : Goal, event = .accept goal ∧ next = system.accepted goal) ∨
    (∃ id : Nat, event = .cancel id ∧
      next = { system with server := system.server.handleCancel id }) ∨
    (system.phase = .checking ∧
      system.server.isActive system.server.currentHandle = true ∧
      next = { system with phase := .executing }) ∨
    (system.phase = .checking ∧
      system.server.isActive system.server.currentHandle = false ∧
      next = { system with phase := .leaving }) ∨
    (∃ name : CallbackCall Result, system.phase = .executing ∧
      next = { system with server := call system.server name }) ∨
    (system.phase = .executing ∧ next = processed system.server) ∨
    (system.phase = .executing ∧ next = { system with phase := .failed }) ∨
    (system.phase = .failed ∧
      next =
        { server := system.server.terminateAll default
          phase := .leaving }) ∨
    (system.phase = .leaving ∧ next = { system with phase := .ended }) := by
  cases event with
  | accept goal =>
      cases stepped
      exact .inl ⟨goal, rfl, rfl⟩
  | cancel id =>
      cases stepped
      exact .inr (.inl ⟨id, rfl, rfl⟩)
  | check =>
      simp only [step] at stepped
      split at stepped
      · case h_1 place =>
        split at stepped
        · case isTrue active =>
          cases stepped
          exact .inr (.inr (.inl ⟨place, active, rfl⟩))
        · case isFalse inactive =>
          cases stepped
          exact .inr (.inr (.inr (.inl
            ⟨place, Bool.eq_false_iff.mpr inactive, rfl⟩)))
      · cases stepped
  | call name =>
      simp only [step] at stepped
      split at stepped
      · case h_1 place =>
        cases stepped
        exact .inr (.inr (.inr (.inr (.inl ⟨name, place, rfl⟩))))
      · cases stepped
  | returned =>
      simp only [step] at stepped
      split at stepped
      · case h_1 place =>
        cases stepped
        exact .inr (.inr (.inr (.inr (.inr (.inl ⟨place, rfl⟩)))))
      · cases stepped
  | threw =>
      simp only [step] at stepped
      split at stepped
      · case h_1 place =>
        cases stepped
        exact .inr (.inr (.inr (.inr (.inr (.inr (.inl ⟨place, rfl⟩))))))
      · cases stepped
  | terminated =>
      simp only [step] at stepped
      split at stepped
      · case h_1 place =>
        cases stepped
        exact .inr (.inr (.inr (.inr (.inr (.inr (.inr (.inl
          ⟨place, rfl⟩)))))))
      · cases stepped
  | finished =>
      simp only [step] at stepped
      split at stepped
      · case h_1 place =>
        cases stepped
        exact .inr (.inr (.inr (.inr (.inr (.inr (.inr (.inr
          ⟨place, rfl⟩)))))))
      · cases stepped

/-- Ownership is kept by every step, whatever its condition. -/
theorem held_step
    {system next : ActionSystem Goal Result}
    (held : Held system.server)
    (stepped : system.step event = some next) :
    Held next.server := by
  obtain ⟨goal, -, rfl⟩ | ⟨id, -, rfl⟩ | ⟨-, -, rfl⟩ | ⟨-, -, rfl⟩ |
      ⟨name, -, rfl⟩ | ⟨-, rfl⟩ | ⟨-, rfl⟩ | ⟨-, rfl⟩ | ⟨-, rfl⟩ :=
    step_cases stepped
  · exact held.handleAccepted _ goal
  · exact held.handleCancel id
  · exact held
  · exact held
  · exact held_call held name
  · exact (sound_processed held).held
  · exact held
  · exact held.terminateAll default
  · exact held

section

omit [Inhabited Result]

theorem held_start :
    Held (⟨[], none, none, false⟩ : ActionServer Goal Result) where
  owned id active := by
    rw [isActive_some] at active
    rcases active with executing | canceling
    · cases executing
    · cases canceling
  current_lt id current := by cases current
  pending_lt id pending := by cases pending
  apart id current := by cases current

theorem noneActive_start :
    NoneActive (⟨[], none, none, false⟩ : ActionServer Goal Result) := by
  intro id
  rw [Bool.eq_false_iff]
  intro active
  rcases held_start.owned id active with current | pending
  · cases current
  · cases pending

end

theorem Reached.held
    {condition :
      ActionSystem Goal Result → ActionEvent Goal Result → Prop}
    {system : ActionSystem Goal Result}
    (reached : Reached condition system) :
    Held system.server := by
  induction reached with
  | start => exact held_start
  | step event before allowed stepped held => exact held_step held stepped

variable
  {system : ActionSystem Goal Result}

/-- A goal that waits leaves the worker where it is. -/
theorem phase_accepted
    (held : Held system.server)
    (running : system.phase ≠ .ended)
    (goal : Goal) :
    (system.accepted goal).phase = system.phase := by
  have busy :
      (system.server.isActive system.server.currentHandle ||
        (system.phase != .ended)) = true := by
    rw [Bool.or_eq_true, bne_iff_ne]
    exact .inr running
  have parked := (isActive_handleAccepted held busy goal).1
  simp only [accepted, parked, Bool.false_eq_true, if_false]

/-- A goal that is not late finds a worker that will take it, or starts one. -/
theorem Sound.accepted
    (sound : Sound system)
    (inTime : system.phase ≠ .leaving)
    (goal : Goal) :
    Sound (system.accepted goal) := by
  have held := sound.held.handleAccepted (system.phase != .ended) goal
  by_cases ended : system.phase = .ended
  · -- no worker, so no goal is active and the new one starts a worker
    have none := sound.settled (.inr ended)
    have inactive :
        system.server.isActive system.server.currentHandle = false := by
      cases system.server.currentHandle with
      | none => rfl
      | some id => exact none id
    have free :
        (system.server.isActive system.server.currentHandle ||
          (system.phase != .ended)) = false := by
      rw [inactive, ended]
      rfl
    obtain ⟨started, current, -, -, active⟩ :=
      isActive_handleAccepted_free sound.held free goal
    have phase : (system.accepted goal).phase = .checking := by
      simp only [ActionSystem.accepted, started, if_true]
    refine ⟨held, fun _ => ?_, ?_⟩
    · simp only [ActionSystem.accepted, current]
      exact (active _).mpr (.inr rfl)
    · rw [phase]
      rintro (leaving | ended)
      · cases leaving
      · cases ended
  · have busy :
        (system.server.isActive system.server.currentHandle ||
          (system.phase != .ended)) = true := by
      rw [Bool.or_eq_true, bne_iff_ne]
      exact .inr ended
    obtain ⟨-, current, -, -, active⟩ :=
      isActive_handleAccepted sound.held busy goal
    have phase := phase_accepted sound.held ended goal
    refine ⟨held, ?_, ?_⟩
    · rw [phase]
      intro checking
      have before := sound.checking checking
      simp only [ActionSystem.accepted, current]
      cases isCurrent : system.server.currentHandle with
      | none =>
          rw [isCurrent] at before
          cases before
      | some id =>
          rw [isCurrent] at before
          exact (active id).mpr
            (.inl ⟨before, sound.held.apart id isCurrent⟩)
    · rw [phase]
      rintro (leaving | isEnded)
      · exact absurd leaving inTime
      · exact absurd isEnded ended

section

omit [Inhabited Result]

theorem Sound.cancelled
    (sound : Sound system)
    (id : Nat) :
    Sound { system with server := system.server.handleCancel id } where
  held := sound.held.handleCancel id
  checking checking :=
    isActive_currentHandle_handleCancel id (sound.checking checking)
  settled place := by
    intro other
    rw [isActive_handleCancel]
    exact sound.settled place other

/-- Outside of the two places the invariant asks for ownership only. -/
theorem Sound.working
    (held : Held system.server)
    (working : system.phase = .executing ∨ system.phase = .failed) :
    Sound system where
  held := held
  checking checking := by
    rcases working with executing | failed
    · cases executing.symm.trans checking
    · cases failed.symm.trans checking
  settled settled := by
    rcases working with executing | failed <;>
      rcases settled with leaving | ended
    · cases executing.symm.trans leaving
    · cases executing.symm.trans ended
    · cases failed.symm.trans leaving
    · cases failed.symm.trans ended

end

theorem Sound.step
    {system next : ActionSystem Goal Result}
    (sound : Sound system)
    (inTime : NotLate system event)
    (stepped : system.step event = some next) :
    Sound next := by
  obtain ⟨goal, rfl, rfl⟩ | ⟨id, -, rfl⟩ | ⟨-, -, rfl⟩ |
      ⟨place, inactive, rfl⟩ | ⟨name, place, rfl⟩ | ⟨-, rfl⟩ | ⟨-, rfl⟩ |
      ⟨-, rfl⟩ | ⟨place, rfl⟩ :=
    step_cases stepped
  · exact sound.accepted (inTime goal rfl) goal
  · exact sound.cancelled id
  · exact .working sound.held (.inl rfl)
  · cases inactive.symm.trans (sound.checking place)
  · exact .working (held_call sound.held name) (.inl place)
  · exact sound_processed sound.held
  · exact .working sound.held (.inr rfl)
  · exact ⟨sound.held.terminateAll default, nofun,
      fun _ => sound.held.noneActive_terminateAll default⟩
  · exact ⟨sound.held, nofun, fun _ => sound.settled (.inl place)⟩

theorem Reached.sound
    (reached : Reached NotLate system) :
    Sound system := by
  induction reached with
  | start =>
      exact ⟨held_start, nofun, fun _ => noneActive_start⟩
  | step event before inTime stepped sound => exact sound.step inTime stepped

/-- No goal is lost in a run in which no goal is late; and a late goal is
lost, it is active and pending when the worker has ended. -/
theorem noneActive_of_notLate
    (Goal Result : Type)
    [Inhabited Result] :
    (∀ system : ActionSystem Goal Result, Reached NotLate system →
      system.phase = .ended → NoneActive system.server) ∧
    (∀ (system : ActionSystem Goal Result) (goal : Goal),
      Reached (fun _ _ => True) system → system.phase = .leaving →
        ∃ late lost : ActionSystem Goal Result,
          system.step (.accept goal) = some late ∧
          late.step .finished = some lost ∧
          lost.phase = .ended ∧
          lost.server.pendingHandle = some system.server.handles.length ∧
          lost.server.isActive lost.server.pendingHandle = true) := by
  constructor
  · intro system reached ended
    exact reached.sound.settled (.inr ended)
  · intro system goal reached leaving
    have running : system.phase ≠ .ended := by
      rw [leaving]
      exact nofun
    have busy :
        (system.server.isActive system.server.currentHandle ||
          (system.phase != .ended)) = true := by
      rw [Bool.or_eq_true, bne_iff_ne]
      exact .inr running
    obtain ⟨-, -, pending, -, active⟩ :=
      isActive_handleAccepted reached.held busy goal
    have late : (system.accepted goal).phase = .leaving :=
      (phase_accepted reached.held running goal).trans leaving
    refine ⟨system.accepted goal,
      { system.accepted goal with phase := .ended }, rfl, ?_, rfl, pending,
      ?_⟩
    · simp only [ActionSystem.step, late]
    · show (system.accepted goal).server.isActive
        (system.accepted goal).server.pendingHandle = true
      simp only [ActionSystem.accepted, pending]
      exact (active _).mpr (.inr rfl)

/-- Goals and results by number.  The worker has done the goal and is about to
end. -/
def servedOne : ActionSystem Nat Nat :=
  { server :=
      { handles := [⟨7, .succeeded 70⟩]
        currentHandle := none
        pendingHandle := none
        preemptRequested := false }
    phase := .leaving }

theorem reached_servedOne
    {condition : ActionSystem Nat Nat → ActionEvent Nat Nat → Prop}
    (allowed : ∀ (system : ActionSystem Nat Nat) (event : ActionEvent Nat Nat),
      system.phase ≠ .leaving → condition system event) :
    Reached condition servedOne := by
  have accepted := Reached.start.step (.accept 7) (allowed _ _ nofun) rfl
  have executing := accepted.step .check (allowed _ _ nofun) rfl
  have succeeded :=
    executing.step (.call (.succeededCurrent 70)) (allowed _ _ nofun) rfl
  exact succeeded.step .returned (allowed _ _ nofun) rfl

theorem noneActive_servedOne :
    ∃ system : ActionSystem Nat Nat,
      Reached NotLate system ∧ system.phase = .ended ∧
        system.server.handles ≠ [] ∧ NoneActive system.server := by
  have reached : Reached NotLate servedOne :=
    reached_servedOne fun system event place _ _ => place
  have ended : Reached NotLate { servedOne with phase := .ended } :=
    reached.step .finished nofun rfl
  exact ⟨_, ended, rfl, by decide,
    (noneActive_of_notLate Nat Nat).1 _ ended rfl⟩

/-- A goal that arrives when the worker has done its last section waits for a
worker that is gone. -/
theorem not_noneActive_late :
    ¬ ∀ (Goal Result : Type) [Inhabited Result]
      (system : ActionSystem Goal Result),
      Reached (fun _ _ => True) system → system.phase = .ended →
        NoneActive system.server := by
  intro always
  have reached : Reached (fun _ _ => True) servedOne :=
    reached_servedOne fun _ _ _ => trivial
  have late := reached.step (.accept 8) trivial rfl
  have lost := late.step .finished trivial rfl
  have active := always Nat Nat _ lost rfl 1
  cases active

end ActionSystem

end NavBim
