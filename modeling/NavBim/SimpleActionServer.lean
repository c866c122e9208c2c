import Mathlib

namespace NavBim

/-!
# A server for one goal at a time

The action server works on one goal, the current one, and keeps at most one
more, the pending one.  A goal that arrives while another one is pending
replaces it.  The operations hold the server's lock, so each is one step.  The
server stays active here.

Most operations only end goals without success.  `Keeps` says this once.
-/

/-- The state of a goal.  A goal that has ended carries its result. -/
inductive GoalStatus (Result : Type) where
  | executing
  | canceling
  | succeeded (result : Result)
  | aborted (result : Result)
  | canceled (result : Result)
  deriving DecidableEq

structure GoalHandle (Goal Result : Type) where
  goal : Goal
  status : GoalStatus Result
  deriving DecidableEq

/-- The goals accepted so far, and which of them are current and pending. -/
structure ActionServer (Goal Result : Type) where
  handles : List (GoalHandle Goal Result)
  currentHandle : Option Nat
  pendingHandle : Option Nat
  preemptRequested : Bool
  deriving DecidableEq

namespace ActionServer

variable {Goal Result : Type}

/-- The goal of a handle. -/
def goal?
    (server : ActionServer Goal Result)
    (id : Nat) : Option Goal :=
  (server.handles[id]?).map GoalHandle.goal

def status?
    (server : ActionServer Goal Result)
    (id : Nat) : Option (GoalStatus Result) :=
  (server.handles[id]?).map GoalHandle.status

def isActive
    (server : ActionServer Goal Result)
    (handle : Option Nat) : Bool :=
  match handle.bind server.status? with
  | some .executing => true
  | some .canceling => true
  | _ => false

def isCanceling
    (server : ActionServer Goal Result)
    (handle : Option Nat) : Bool :=
  match handle.bind server.status? with
  | some .canceling => true
  | _ => false

def setStatus
    (server : ActionServer Goal Result)
    (id : Nat)
    (status : GoalStatus Result) : ActionServer Goal Result :=
  { server with
    handles := server.handles.modify id fun handle => { handle with status } }

/-- The handles after ending a goal without success. -/
def endGoal
    (server : ActionServer Goal Result)
    (id : Nat)
    (result : Result) : ActionServer Goal Result :=
  if server.isCanceling (some id) then
    server.setStatus id (.canceled result)
  else
    server.setStatus id (.aborted result)

def terminateCurrent
    (server : ActionServer Goal Result)
    (result : Result) : ActionServer Goal Result :=
  match server.currentHandle with
  | some id =>
      if server.isActive (some id) then
        { server.endGoal id result with currentHandle := none }
      else
        server
  | none => server

def terminatePending
    (server : ActionServer Goal Result)
    (result : Result) : ActionServer Goal Result :=
  match server.pendingHandle with
  | some id =>
      if server.isActive (some id) then
        { server.endGoal id result with pendingHandle := none }
      else
        server
  | none => server

def terminateAll
    (server : ActionServer Goal Result)
    (result : Result) : ActionServer Goal Result :=
  { (server.terminateCurrent result).terminatePending result with
    preemptRequested := false }

/-- The goal being worked on, unless it has ended. -/
def getCurrentGoal
    (server : ActionServer Goal Result) : Option Goal :=
  if server.isActive server.currentHandle then
    server.currentHandle.bind server.goal?
  else
    none

/-- A pending goal is asked before the current one. -/
def isCancelRequested
    (server : ActionServer Goal Result) : Bool :=
  if server.currentHandle.isNone then
    false
  else if server.pendingHandle.isSome then
    server.isCanceling server.pendingHandle
  else
    server.isCanceling server.currentHandle

def succeededCurrent
    (server : ActionServer Goal Result)
    (result : Result) : ActionServer Goal Result :=
  match server.currentHandle with
  | some id =>
      if server.isActive (some id) then
        { server.setStatus id (.succeeded result) with currentHandle := none }
      else
        server
  | none => server

/-- A client asks to cancel a goal. -/
def handleCancel
    (server : ActionServer Goal Result)
    (id : Nat) : ActionServer Goal Result :=
  if server.isActive (some id) then
    server.setStatus id .canceling
  else
    server

variable [Inhabited Result]

/-- The current goal is aborted with an empty result if it is still active. -/
def abortCurrent
    (server : ActionServer Goal Result) : ActionServer Goal Result :=
  match server.currentHandle with
  | some id =>
      if server.isActive (some id) && some id != server.pendingHandle then
        server.setStatus id (.aborted default)
      else
        server
  | none => server

/-- The pending goal becomes the current one. -/
def acceptPendingGoal
    (server : ActionServer Goal Result) : ActionServer Goal Result :=
  if server.isActive server.pendingHandle then
    { server.abortCurrent with
      currentHandle := server.pendingHandle
      pendingHandle := none
      preemptRequested := false }
  else
    server

/-- A new goal waits while there is a current goal or a worker; otherwise it
is the current goal and a worker is started. -/
def handleAccepted
    (server : ActionServer Goal Result)
    (isRunning : Bool)
    (goal : Goal) : ActionServer Goal Result × Bool :=
  let id := server.handles.length
  let accepted : ActionServer Goal Result :=
    { server with handles := server.handles ++ [⟨goal, .executing⟩] }
  if server.isActive server.currentHandle || isRunning then
    ({ accepted.terminatePending default with
      pendingHandle := some id
      preemptRequested := true }, false)
  else if server.isActive server.pendingHandle then
    ({ accepted.terminatePending default with
      preemptRequested := false
      currentHandle := some id }, true)
  else
    ({ accepted with currentHandle := some id }, true)

section Frame

omit [Inhabited Result]

/-- Goals stay what they are, and no goal succeeds. -/
structure Keeps
    (before after : ActionServer Goal Result) : Prop where
  goals : ∀ id goal, before.goal? id = some goal → after.goal? id = some goal
  succeeded : ∀ id result,
    after.status? id = some (.succeeded result) →
      before.status? id = some (.succeeded result)

variable {before middle after server : ActionServer Goal Result}

theorem Keeps.refl
    (server : ActionServer Goal Result) :
    Keeps server server :=
  ⟨fun _ _ held => held, fun _ _ held => held⟩

theorem Keeps.trans
    (first : Keeps before middle)
    (second : Keeps middle after) :
    Keeps before after :=
  ⟨fun id goal held => second.goals id goal (first.goals id goal held),
    fun id result held =>
      first.succeeded id result (second.succeeded id result held)⟩

/-- Which goals are current and pending does not matter. -/
theorem Keeps.congr
    {other : ActionServer Goal Result}
    (keeps : Keeps before after)
    (same : other.handles = after.handles) :
    Keeps before other := by
  have goals : other.goal? = after.goal? := by
    funext id
    rw [goal?, goal?, same]
  have statuses : other.status? = after.status? := by
    funext id
    rw [status?, status?, same]
  exact ⟨goals ▸ keeps.goals, statuses ▸ keeps.succeeded⟩

@[simp] theorem goal?_setStatus
    (server : ActionServer Goal Result)
    (id other : Nat)
    (status : GoalStatus Result) :
    (server.setStatus id status).goal? other = server.goal? other := by
  simp only [goal?, setStatus, List.getElem?_modify]
  split
  · cases server.handles[other]? <;> rfl
  · cases server.handles[other]? <;> rfl

theorem status?_setStatus
    (server : ActionServer Goal Result)
    (id other : Nat)
    (status : GoalStatus Result) :
    (server.setStatus id status).status? other =
      if id = other then (server.status? other).map fun _ => status
      else server.status? other := by
  simp only [status?, setStatus, List.getElem?_modify]
  split
  · cases server.handles[other]? <;> rfl
  · cases server.handles[other]? <;> rfl

theorem exists_goal
    {id : Nat}
    {status : GoalStatus Result}
    (held : server.status? id = some status) :
    ∃ goal, server.goal? id = some goal := by
  obtain ⟨handle, found, -⟩ := Option.map_eq_some_iff.mp held
  exact ⟨handle.goal, by rw [goal?, found]; rfl⟩

theorem keeps_setStatus
    {id : Nat}
    {status : GoalStatus Result}
    (noSuccess : ∀ result, status ≠ .succeeded result) :
    Keeps server (server.setStatus id status) where
  goals := by simp
  succeeded := by
    intro other result held
    rw [status?_setStatus] at held
    split at held
    · obtain ⟨_, -, isStatus⟩ := Option.map_eq_some_iff.mp held
      exact absurd isStatus (noSuccess result)
    · exact held

theorem keeps_endGoal
    (id : Nat)
    (result : Result) :
    Keeps server (server.endGoal id result) := by
  rw [endGoal]
  split
  · exact keeps_setStatus (by simp)
  · exact keeps_setStatus (by simp)

theorem keeps_terminateCurrent
    (result : Result) :
    Keeps server (server.terminateCurrent result) := by
  rw [terminateCurrent]
  split
  · split
    · exact (keeps_endGoal _ result).congr rfl
    · exact .refl server
  · exact .refl server

theorem keeps_terminatePending
    (result : Result) :
    Keeps server (server.terminatePending result) := by
  rw [terminatePending]
  split
  · split
    · exact (keeps_endGoal _ result).congr rfl
    · exact .refl server
  · exact .refl server

theorem keeps_terminateAll
    (result : Result) :
    Keeps server (server.terminateAll result) :=
  ((keeps_terminateCurrent result).trans
    (keeps_terminatePending result)).congr rfl

theorem keeps_handleCancel
    (id : Nat) :
    Keeps server (server.handleCancel id) := by
  rw [handleCancel]
  split
  · exact keeps_setStatus (by simp)
  · exact .refl server

@[simp] theorem currentHandle_handleCancel
    (id : Nat) :
    (server.handleCancel id).currentHandle = server.currentHandle := by
  rw [handleCancel]
  split <;> rfl

theorem currentHandle_terminatePending
    (result : Result) :
    (server.terminatePending result).currentHandle = server.currentHandle := by
  rw [terminatePending]
  split
  · split
    · rw [endGoal]
      split <;> rfl
    · rfl
  · rfl

/-- A new goal at the end of the list. -/
theorem keeps_append
    (goal : Goal) :
    Keeps server
      { server with handles := server.handles ++ [⟨goal, .executing⟩] } where
  goals := by
    intro id held found
    obtain ⟨handle, isHandle, rfl⟩ := Option.map_eq_some_iff.mp found
    have inside := (List.getElem?_eq_some_iff.mp isHandle).1
    simp only [goal?, List.getElem?_append_left inside, isHandle]
    rfl
  succeeded := by
    intro id result held
    obtain ⟨handle, isHandle, isSucceeded⟩ := Option.map_eq_some_iff.mp held
    by_cases inside : id < server.handles.length
    · rw [List.getElem?_append_left inside] at isHandle
      rw [status?, isHandle, ← isSucceeded]
      rfl
    · have isNew : handle = ⟨goal, .executing⟩ := by
        rw [List.getElem?_append_right (not_lt.mp inside)] at isHandle
        exact List.mem_singleton.mp (List.mem_of_getElem? isHandle)
      rw [isNew] at isSucceeded
      cases isSucceeded

variable [Inhabited Result]

theorem keeps_abortCurrent :
    Keeps server server.abortCurrent := by
  rw [abortCurrent]
  split
  · split
    · exact keeps_setStatus (by simp)
    · exact .refl server
  · exact .refl server

theorem keeps_acceptPendingGoal :
    Keeps server server.acceptPendingGoal := by
  rw [acceptPendingGoal]
  split
  · exact keeps_abortCurrent.congr rfl
  · exact .refl server

theorem keeps_handleAccepted
    (isRunning : Bool)
    (goal : Goal) :
    Keeps server (server.handleAccepted isRunning goal).1 := by
  have accepted : Keeps server _ := keeps_append goal
  have terminated := accepted.trans (keeps_terminatePending default)
  rw [handleAccepted]
  split
  · exact terminated.congr rfl
  · split
    · exact terminated.congr rfl
    · exact accepted.congr rfl

theorem currentHandle_handleAccepted
    (goal : Goal) :
    (server.handleAccepted true goal).1.currentHandle =
      server.currentHandle := by
  rw [handleAccepted, Bool.or_true, if_pos rfl]
  exact currentHandle_terminatePending default

end Frame

end ActionServer

end NavBim
