import Mathlib.Data.List.Basic
import Mathlib.Tactic

namespace NavBim

/-!
# The recovery node of the behavior tree

The node has two children.  It runs the first one, and each time that one
fails it runs the second one to recover and then tries the first one again,
at most `number_of_retries` times.  A call of `tick` goes on until a child
answers `RUNNING` or the node has a result of its own.

An activation is the work from a node at rest to its next result.  A run keeps
the ticks of the children in the present activation beside the node, so that
the node's two counters can be compared with what the children have answered.
-/

/-- The answer of a node of the tree to a tick. -/
inductive NodeStatus where
  | idle
  | running
  | success
  | failure
  | skipped
  deriving DecidableEq, Repr

/-- One tick of a child, with the child's place and its answer. -/
structure ChildTick where
  child : Nat
  status : NodeStatus
  deriving DecidableEq, Repr

structure RecoveryNode where
  name : String
  currentChildIdx : Nat := 0
  numberOfRetries : Nat := 1
  retryCount : Nat := 0
  deriving DecidableEq, Repr

/-- A call of `tick` returns a status, or an exception leaves it. -/
inductive TickOutcome where
  | returned (status : NodeStatus)
  | thrown (message : String)
  deriving DecidableEq, Repr

/-- Everything one call of `tick` does: the node and the outcome, the ticks of
the children and the children that were halted, in order. -/
structure TickResult where
  node : RecoveryNode
  outcome : TickOutcome
  ticks : List ChildTick
  halts : List Nat
  deriving DecidableEq, Repr

/-- A pass of the loop ends the call, or goes on to the next pass. -/
inductive LoopPass where
  | leave (node : RecoveryNode) (outcome : TickOutcome) (halts : List Nat)
  | next (node : RecoveryNode) (halts : List Nat)
  deriving DecidableEq, Repr

variable
  {node : RecoveryNode}

namespace RecoveryNode

def halt (node : RecoveryNode) : RecoveryNode :=
  { node with
    retryCount := 0
    currentChildIdx := 0 }

/-- A node at rest: no child is due but the first, and no retry is counted. -/
def AtRest (node : RecoveryNode) : Prop :=
  node.retryCount = 0 ∧ node.currentChildIdx = 0

def idleMessage : String :=
  "A child node must never return IDLE"

def firstChildTicked
    (node : RecoveryNode) : NodeStatus → LoopPass
  | .skipped => .leave node.halt (.returned .skipped) [0, 1]
  | .success => .leave node.halt (.returned .success) [1, 0, 1]
  | .running => .leave node (.returned .running) []
  | .failure =>
      if node.retryCount < node.numberOfRetries then
        .next { node with currentChildIdx := node.currentChildIdx + 1 } [0]
      else
        .leave node.halt (.returned .failure) [0, 1]
  | .idle => .leave node (.thrown idleMessage) []

def secondChildTicked
    (node : RecoveryNode) : NodeStatus → LoopPass
  -- the index is set back here, the retry count is not
  | .skipped =>
      .leave { node with currentChildIdx := 0 } (.returned .failure) [1]
  | .running => .leave node (.returned .running) []
  | .success =>
      .next
        { node with
          retryCount := node.retryCount + 1
          currentChildIdx := 0 }
        [1]
  | .failure => .leave node.halt (.returned .failure) [0, 1]
  | .idle => .leave node (.thrown idleMessage) []

/-- One pass of the loop, once the current child has answered. -/
def childTicked
    (node : RecoveryNode)
    (status : NodeStatus) : LoopPass :=
  if node.currentChildIdx = 0 then
    node.firstChildTicked status
  else
    node.secondChildTicked status

/-- What is left to do at most: both children for each retry. -/
def passesLeft (node : RecoveryNode) : Nat :=
  2 * (node.numberOfRetries + 1 - node.retryCount) - node.currentChildIdx

variable
  {status : NodeStatus}
  {halts : List Nat}

/-- The two passes that stay in the loop: to the second child when the first
one fails with a retry left, and back when the second one succeeds. -/
theorem childTicked_next
    {node after : RecoveryNode}
    (passed : node.childTicked status = .next after halts) :
    (node.currentChildIdx = 0 ∧ status = .failure ∧
      node.retryCount < node.numberOfRetries ∧
      after = { node with currentChildIdx := node.currentChildIdx + 1 }) ∨
    (node.currentChildIdx ≠ 0 ∧ status = .success ∧
      after =
        { node with
          retryCount := node.retryCount + 1
          currentChildIdx := 0 }) := by
  by_cases first : node.currentChildIdx = 0
  · left
    cases status <;>
      simp only [childTicked, first, if_true, firstChildTicked,
        reduceCtorEq] at passed
    split at passed
    · case isTrue room =>
      injection passed with same _
      exact ⟨first, rfl, room, by rw [← same, first]⟩
    · cases passed
  · right
    cases status <;>
      simp only [childTicked, first, if_false, secondChildTicked,
        reduceCtorEq] at passed
    injection passed with same _
    exact ⟨first, rfl, same.symm⟩

theorem passesLeft_lt
    {node after : RecoveryNode}
    (inLoop : node.currentChildIdx < 2 ∧
      node.retryCount ≤ node.numberOfRetries)
    (passed : node.childTicked status = .next after halts) :
    after.passesLeft < node.passesLeft := by
  obtain ⟨index, retries⟩ := inLoop
  obtain ⟨first, -, -, rfl⟩ | ⟨second, -, rfl⟩ := childTicked_next passed
  · simp only [passesLeft, first]
    omega
  · simp only [passesLeft]
    omega

/-- A call of `tick` is over once the node has a result. -/
def ends : TickOutcome → Bool
  | .returned .success => true
  | .returned .failure => true
  | .returned .skipped => true
  | _ => false

/-- The passes that leave the loop.  A child that is still running, or that
answers against the rules, changes nothing.  Every result goes through `halt`
but one: a second child that is skipped. -/
theorem childTicked_leave
    {node after : RecoveryNode}
    {outcome : TickOutcome}
    (passed : node.childTicked status = .leave after outcome halts) :
    (after = node ∧ ends outcome = false ∧
      (status = .running ∨ status = .idle)) ∨
    (after = node.halt ∧ ends outcome = true ∧ node.currentChildIdx = 0 ∧
      (status = .success ∨ status = .skipped)) ∨
    (after = node.halt ∧ ends outcome = true ∧ node.currentChildIdx = 0 ∧
      status = .failure ∧ node.numberOfRetries ≤ node.retryCount) ∨
    (after = node.halt ∧ ends outcome = true ∧ node.currentChildIdx ≠ 0 ∧
      status = .failure) ∨
    (after = { node with currentChildIdx := 0 } ∧ ends outcome = true ∧
      node.currentChildIdx ≠ 0 ∧ status = .skipped) := by
  by_cases first : node.currentChildIdx = 0
  · cases status <;>
      simp only [childTicked, first, if_true, firstChildTicked] at passed
    case failure =>
      split at passed
      · cases passed
      · case isFalse full =>
        cases passed
        exact .inr (.inr (.inl
          ⟨rfl, rfl, first, rfl, Nat.not_lt.mp full⟩))
    case idle =>
      cases passed
      exact .inl ⟨rfl, rfl, .inr rfl⟩
    case running =>
      cases passed
      exact .inl ⟨rfl, rfl, .inl rfl⟩
    case success =>
      cases passed
      exact .inr (.inl ⟨rfl, rfl, first, .inl rfl⟩)
    case skipped =>
      cases passed
      exact .inr (.inl ⟨rfl, rfl, first, .inr rfl⟩)
  · cases status <;>
      simp only [childTicked, first, if_false, secondChildTicked,
        reduceCtorEq] at passed
    case idle =>
      cases passed
      exact .inl ⟨rfl, rfl, .inr rfl⟩
    case running =>
      cases passed
      exact .inl ⟨rfl, rfl, .inl rfl⟩
    case failure =>
      cases passed
      exact .inr (.inr (.inr (.inl ⟨rfl, rfl, first, rfl⟩)))
    case skipped =>
      cases passed
      exact .inr (.inr (.inr (.inr ⟨rfl, rfl, first, rfl⟩)))

/-- The loop of `tick`.  The children's answers are a stream, and `asked` of
them have been used. -/
def tickLoop
    (answers : Nat → NodeStatus)
    (asked : Nat)
    (node : RecoveryNode)
    (ticks : List ChildTick)
    (halts : List Nat) : TickResult :=
  if _inLoop : node.currentChildIdx < 2 ∧
      node.retryCount ≤ node.numberOfRetries then
    match passed : node.childTicked (answers asked) with
    | .leave after outcome halted =>
        { node := after
          outcome
          ticks := ticks ++ [⟨node.currentChildIdx, answers asked⟩]
          halts := halts ++ halted }
    | .next after halted =>
        tickLoop answers (asked + 1) after
          (ticks ++ [⟨node.currentChildIdx, answers asked⟩])
          (halts ++ halted)
  else
    { node := node.halt
      outcome := .returned .failure
      ticks
      halts := halts ++ [0, 1] }
  termination_by node.passesLeft
  decreasing_by exact passesLeft_lt _inLoop passed

/-- A call of `tick`.  The port is read anew each time, and a port that cannot
be read leaves the value as it was. -/
def tick
    (childrenCount : Nat)
    (port : Option Nat)
    (answers : Nat → NodeStatus)
    (node : RecoveryNode) : TickResult :=
  let node :=
    { node with numberOfRetries := port.getD node.numberOfRetries }
  if childrenCount ≠ 2 then
    { node
      outcome := .thrown
        ("Recovery Node '" ++ node.name ++ "' must only have 2 children.")
      ticks := []
      halts := [] }
  else
    tickLoop answers 0 node [] []

variable
  (ticks : List ChildTick)

section

variable
  {answers : Nat → NodeStatus}
  {asked : Nat}
  {node after : RecoveryNode}

theorem tickLoop_of_next
    {halted : List Nat}
    (halts : List Nat)
    (inLoop : node.currentChildIdx < 2 ∧
      node.retryCount ≤ node.numberOfRetries)
    (passed : node.childTicked (answers asked) = .next after halted) :
    tickLoop answers asked node ticks halts =
      tickLoop answers (asked + 1) after
        (ticks ++ [⟨node.currentChildIdx, answers asked⟩])
        (halts ++ halted) := by
  rw [tickLoop, dif_pos inLoop]
  split
  · case h_1 other =>
    cases passed.symm.trans other
  · case h_2 other =>
    cases passed.symm.trans other
    rfl

theorem tickLoop_of_leave
    {outcome : TickOutcome}
    {halted : List Nat}
    (halts : List Nat)
    (inLoop : node.currentChildIdx < 2 ∧
      node.retryCount ≤ node.numberOfRetries)
    (passed :
      node.childTicked (answers asked) = .leave after outcome halted) :
    tickLoop answers asked node ticks halts =
      { node := after
        outcome
        ticks := ticks ++ [⟨node.currentChildIdx, answers asked⟩]
        halts := halts ++ halted } := by
  rw [tickLoop, dif_pos inLoop]
  split
  · case h_1 other =>
    cases passed.symm.trans other
    rfl
  · case h_2 other =>
    cases passed.symm.trans other

end

theorem tickLoop_name
    (answers : Nat → NodeStatus)
    (asked : Nat)
    (node : RecoveryNode)
    (ticks : List ChildTick)
    (halts : List Nat) :
    (tickLoop answers asked node ticks halts).node.name = node.name := by
  fun_induction tickLoop answers asked node ticks halts with
  | case1 asked node ticks halts inLoop after outcome halted passed =>
      obtain ⟨rfl, -⟩ | ⟨rfl, -⟩ | ⟨rfl, -⟩ | ⟨rfl, -⟩ | ⟨rfl, -⟩ :=
        childTicked_leave passed
      all_goals rfl
  | case2 asked node ticks halts inLoop after halted passed ih =>
      rw [ih]
      obtain ⟨-, -, -, rfl⟩ | ⟨-, -, rfl⟩ := childTicked_next passed
      all_goals rfl
  | case3 => rfl

/-!
## One call, seen from its activation

`past` are the ticks of the children in the earlier calls of the activation.
-/

/-- How often the second child has succeeded. -/
def recoveries (ticks : List ChildTick) : Nat :=
  ticks.count ⟨1, .success⟩

/-- A tick of the first child with a final answer. -/
def isTry (tick : ChildTick) : Bool :=
  tick.child == 0 &&
    (tick.status == .success || tick.status == .failure ||
      tick.status == .skipped)

/-- How often the first child has been tried to the end. -/
def tries (ticks : List ChildTick) : Nat :=
  ticks.countP isTry

/-- The second child was skipped in an activation in which it had succeeded
before. -/
def SkippedLate (ticks : List ChildTick) : Prop :=
  ⟨1, .skipped⟩ ∈ ticks ∧ ⟨1, .success⟩ ∈ ticks

/-- The counters of the node are those of the present activation. -/
structure Tracks
    (retries : Nat)
    (node : RecoveryNode)
    (ticks : List ChildTick) : Prop where
  counted : node.retryCount = recoveries ticks
  tried : tries ticks = recoveries ticks + node.currentChildIdx
  room : recoveries ticks + node.currentChildIdx ≤ retries
  index : node.currentChildIdx ≤ 1
  unskipped : ⟨1, .skipped⟩ ∉ ticks

/-- What a call of `tick` leaves of an activation that has seen `past`. -/
structure TickSpec
    (retries : Nat)
    (past : List ChildTick)
    (result : TickResult) : Prop where
  goesOn :
    ends result.outcome = false →
      Tracks retries result.node (past ++ result.ticks)
  atRest :
    ends result.outcome = true →
      (result.node.AtRest ↔ ¬ SkippedLate (past ++ result.ticks))
  recoveries_le : recoveries (past ++ result.ticks) ≤ retries
  tries_le : tries (past ++ result.ticks) ≤ retries + 1
  exhausted :
    ends result.outcome = true →
    (past ++ result.ticks).getLast? = some ⟨0, .failure⟩ →
      tries (past ++ result.ticks) = retries + 1

theorem recoveries_snoc
    (tick : ChildTick) :
    recoveries (ticks ++ [tick]) =
      recoveries ticks + if tick = ⟨1, .success⟩ then 1 else 0 := by
  simp [recoveries, List.count_append, List.count_singleton]

theorem tries_snoc
    (tick : ChildTick) :
    tries (ticks ++ [tick]) =
      tries ticks + if isTry tick then 1 else 0 := by
  simp [tries, List.countP_append, List.countP_singleton]

theorem recoveries_pos_iff (ticks : List ChildTick) :
    0 < recoveries ticks ↔ ⟨1, .success⟩ ∈ ticks :=
  List.count_pos_iff

theorem atRest_halt (node : RecoveryNode) : node.halt.AtRest :=
  ⟨rfl, rfl⟩

variable
  {tick : ChildTick}

section

variable
  {retries : Nat}
  {ticks : List ChildTick}
  (tracked : Tracks retries node ticks)

include tracked

/-- A tick that is not a skip of the second child adds no late skip. -/
theorem Tracks.not_skippedLate
    (other : tick ≠ ⟨1, .skipped⟩) :
    ¬ SkippedLate (ticks ++ [tick]) := by
  rintro ⟨skipped, -⟩
  rcases List.mem_append.mp skipped with earlier | last
  · exact tracked.unskipped earlier
  · exact other (List.mem_singleton.mp last).symm

theorem Tracks.index_eq_one
    (second : node.currentChildIdx ≠ 0) :
    node.currentChildIdx = 1 := by
  have index := tracked.index
  omega

end

theorem AtRest.tracks
    (rest : node.AtRest)
    (retries : Nat) :
    Tracks retries node [] := by
  obtain ⟨count, index⟩ := rest
  constructor
  · exact count
  · rw [index]
    rfl
  · rw [index]
    exact Nat.zero_le retries
  · rw [index]
    exact Nat.zero_le 1
  · exact List.not_mem_nil

variable
  {result : TickResult}

section

variable
  {retries : Nat}
  {past ticks : List ChildTick}
  (tracked : Tracks retries node ticks)

include tracked

/-- Leaving the loop on a result through `halt`. -/
theorem Tracks.halted
    (reached : past ++ result.ticks = ticks ++ [tick])
    (done : ends result.outcome = true)
    (halted : result.node = node.halt)
    (unrecovered : tick ≠ ⟨1, .success⟩)
    (unskipped : tick ≠ ⟨1, .skipped⟩)
    (first : isTry tick = true → node.currentChildIdx = 0)
    (full : tick = ⟨0, .failure⟩ → retries ≤ node.retryCount) :
    TickSpec retries past result := by
  have kept : recoveries (past ++ result.ticks) = recoveries ticks := by
    rw [reached, recoveries_snoc, if_neg unrecovered, Nat.add_zero]
  have counted := tracked.counted
  have tried := tracked.tried
  have room := tracked.room
  have index := tracked.index
  have triedNow := tries_snoc ticks tick
  refine
    { goesOn := fun running => absurd (done.symm.trans running) (by decide)
      atRest := ?_
      recoveries_le := by omega
      tries_le := ?_
      exhausted := ?_ }
  · intro _
    rw [halted, reached]
    exact ⟨fun _ => tracked.not_skippedLate unskipped,
      fun _ => atRest_halt node⟩
  · rw [reached, triedNow]
    by_cases isFinal : isTry tick = true
    · have zero := first isFinal
      rw [if_pos isFinal]
      omega
    · rw [if_neg isFinal]
      omega
  · intro _ last
    rw [reached, List.getLast?_concat, Option.some.injEq] at last
    have isFinal : isTry tick = true := by
      rw [last]
      rfl
    have zero := first isFinal
    have enough := full last
    rw [reached, triedNow, if_pos isFinal]
    omega

/-- Leaving the loop on the skip of the second child: only the index is set
back, so the node is at rest just when nothing had been recovered. -/
theorem Tracks.skipped
    (reached : past ++ result.ticks = ticks ++ [⟨1, .skipped⟩])
    (done : ends result.outcome = true)
    (kept : result.node = { node with currentChildIdx := 0 }) :
    TickSpec retries past result := by
  have recovered : recoveries (past ++ result.ticks) = recoveries ticks := by
    rw [reached, recoveries_snoc]
    rfl
  have triedNow : tries (past ++ result.ticks) = tries ticks := by
    rw [reached, tries_snoc]
    rfl
  have counted := tracked.counted
  have tried := tracked.tried
  have room := tracked.room
  refine
    { goesOn := fun running => absurd (done.symm.trans running) (by decide)
      atRest := ?_
      recoveries_le := by omega
      tries_le := by omega
      exhausted := ?_ }
  · intro _
    have late :
        SkippedLate (past ++ result.ticks) ↔ 0 < node.retryCount := by
      rw [counted, ← recovered, recoveries_pos_iff]
      refine ⟨And.right, fun recovered => ⟨?_, recovered⟩⟩
      rw [reached]
      exact List.mem_append_right _ (List.mem_singleton.mpr rfl)
    rw [kept, late]
    show node.retryCount = 0 ∧ 0 = 0 ↔ ¬ 0 < node.retryCount
    omega
  · intro _ last
    rw [reached, List.getLast?_concat, Option.some.injEq] at last
    cases last

/-- Leaving the loop while a child has no final answer. -/
theorem Tracks.waiting
    (reached : past ++ result.ticks = ticks ++ [tick])
    (running : ends result.outcome = false)
    (kept : result.node = node)
    (still : tick.status = .running ∨ tick.status = .idle) :
    TickSpec retries past result := by
  have unrecovered : tick ≠ ⟨1, .success⟩ := by
    rintro rfl
    cases still with
    | inl other => cases other
    | inr other => cases other
  have unskipped : tick ≠ ⟨1, .skipped⟩ := by
    rintro rfl
    cases still with
    | inl other => cases other
    | inr other => cases other
  have noTry : isTry tick = false := by
    cases still with
    | inl other => simp [isTry, other]
    | inr other => simp [isTry, other]
  have recovered : recoveries (past ++ result.ticks) = recoveries ticks := by
    rw [reached, recoveries_snoc, if_neg unrecovered, Nat.add_zero]
  have triedNow : tries (past ++ result.ticks) = tries ticks := by
    rw [reached, tries_snoc, noTry]
    rfl
  have counted := tracked.counted
  have tried := tracked.tried
  have room := tracked.room
  have index := tracked.index
  have goesOn : Tracks retries result.node (past ++ result.ticks) := by
    rw [kept]
    refine
      { counted := by omega
        tried := by omega
        room := by omega
        index
        unskipped := ?_ }
    rw [reached]
    intro skipped
    rcases List.mem_append.mp skipped with earlier | last
    · exact tracked.unskipped earlier
    · exact unskipped (List.mem_singleton.mp last).symm
  exact
    { goesOn := fun _ => goesOn
      atRest := fun done => absurd (done.symm.trans running) (by decide)
      recoveries_le := by omega
      tries_le := by omega
      exhausted := fun done =>
        absurd (done.symm.trans running) (by decide) }

end

/-- A pass that stays in the loop counts its tick. -/
theorem Tracks.passed
    {node after : RecoveryNode}
    {ticks : List ChildTick}
    (tracked : Tracks node.numberOfRetries node ticks)
    (passed : node.childTicked status = .next after halts) :
    Tracks node.numberOfRetries after
        (ticks ++ [⟨node.currentChildIdx, status⟩]) ∧
      after.numberOfRetries = node.numberOfRetries := by
  have counted := tracked.counted
  have tried := tracked.tried
  have room := tracked.room
  obtain ⟨first, rfl, free, rfl⟩ | ⟨second, rfl, rfl⟩ :=
    childTicked_next passed
  · have recovered :
        recoveries (ticks ++ [⟨node.currentChildIdx, .failure⟩]) =
          recoveries ticks := by
      rw [recoveries_snoc, first]
      rfl
    have triedNow :
        tries (ticks ++ [⟨node.currentChildIdx, .failure⟩]) =
          tries ticks + 1 := by
      rw [tries_snoc, first]
      rfl
    refine ⟨?_, rfl⟩
    constructor
    · show node.retryCount = _
      omega
    · show _ = _ + (node.currentChildIdx + 1)
      omega
    · show _ + (node.currentChildIdx + 1) ≤ _
      omega
    · show node.currentChildIdx + 1 ≤ 1
      omega
    · simp [tracked.unskipped]
  · have one := tracked.index_eq_one second
    have recovered :
        recoveries (ticks ++ [⟨node.currentChildIdx, .success⟩]) =
          recoveries ticks + 1 := by
      rw [recoveries_snoc, one]
      rfl
    have triedNow :
        tries (ticks ++ [⟨node.currentChildIdx, .success⟩]) =
          tries ticks := by
      rw [tries_snoc, one]
      rfl
    refine ⟨?_, rfl⟩
    constructor
    · show node.retryCount + 1 = _
      omega
    · show _ = _ + 0
      omega
    · show _ + 0 ≤ _
      omega
    · exact Nat.zero_le 1
    · simp [tracked.unskipped]

/-- The loop counts on from where the activation stands. -/
theorem tickLoop_spec
    (past : List ChildTick)
    (answers : Nat → NodeStatus)
    (asked : Nat)
    (node : RecoveryNode)
    (ticks : List ChildTick)
    (halts : List Nat)
    (tracked : Tracks node.numberOfRetries node (past ++ ticks)) :
    TickSpec node.numberOfRetries past
      (tickLoop answers asked node ticks halts) := by
  fun_induction tickLoop answers asked node ticks halts with
  | case1 asked node ticks halts inLoop after outcome halted passed =>
      have reached :
          past ++ (ticks ++ [⟨node.currentChildIdx, answers asked⟩]) =
            past ++ ticks ++ [⟨node.currentChildIdx, answers asked⟩] :=
        (List.append_assoc _ _ _).symm
      obtain ⟨rfl, running, still⟩ | ⟨rfl, done, first, final⟩ |
          ⟨rfl, done, first, failed, full⟩ | ⟨rfl, done, second, failed⟩ |
          ⟨rfl, done, second, skipped⟩ :=
        childTicked_leave passed
      · exact tracked.waiting reached running rfl still
      · refine tracked.halted reached done rfl ?_ ?_ (fun _ => first) ?_
        · simp [first]
        · simp [first]
        · intro failed
          injection failed with _ failed
          cases final with
          | inl success => cases success.symm.trans failed
          | inr skipped => cases skipped.symm.trans failed
      · refine tracked.halted reached done rfl ?_ ?_ (fun _ => first)
          (fun _ => full)
        · simp [first]
        · simp [first]
      · have one := tracked.index_eq_one second
        refine tracked.halted reached done rfl ?_ ?_ ?_ ?_
        · simp [failed]
        · simp [failed]
        · simp [isTry, one]
        · simp [one]
      · have one := tracked.index_eq_one second
        rw [one, skipped] at reached
        rw [one, skipped]
        exact tracked.skipped reached done rfl
  | case2 asked node ticks halts inLoop after halted passed ih =>
      obtain ⟨goesOn, limit⟩ := tracked.passed passed
      rw [← limit]
      apply ih
      rw [limit, ← List.append_assoc]
      exact goesOn
  | case3 asked node ticks halts outside =>
      have room := tracked.room
      have index := tracked.index
      have counted := tracked.counted
      exact absurd ⟨by omega, by omega⟩ outside

/-!
## Runs of the node
-/

/-- Without its two children the node throws before it ticks anything. -/
theorem tick_of_children_ne
    {childrenCount : Nat}
    (node : RecoveryNode)
    (port : Option Nat)
    (answers : Nat → NodeStatus)
    (other : childrenCount ≠ 2) :
    ∃ message : String,
      node.tick childrenCount port answers =
        { node :=
            { node with numberOfRetries := port.getD node.numberOfRetries }
          outcome := .thrown message
          ticks := []
          halts := [] } :=
  ⟨_, if_pos other⟩

theorem tick_of_two_children
    (node : RecoveryNode)
    (retries : Nat)
    (answers : Nat → NodeStatus) :
    node.tick 2 (some retries) answers =
      tickLoop answers 0 { node with numberOfRetries := retries } [] [] :=
  rfl

theorem tick_name
    (node : RecoveryNode)
    (childrenCount : Nat)
    (port : Option Nat)
    (answers : Nat → NodeStatus) :
    (node.tick childrenCount port answers).node.name = node.name := by
  by_cases two : childrenCount = 2
  · subst two
    exact tickLoop_name answers 0 _ [] []
  · obtain ⟨message, thrown⟩ := tick_of_children_ne node port answers two
    rw [thrown]

/-- The two counters and the name are all that a call uses of the node when
the port can be read. -/
theorem tick_congr
    {node other : RecoveryNode}
    (childrenCount retries : Nat)
    (answers : Nat → NodeStatus)
    (name : node.name = other.name)
    (index : node.currentChildIdx = other.currentChildIdx)
    (count : node.retryCount = other.retryCount) :
    node.tick childrenCount (some retries) answers =
      other.tick childrenCount (some retries) answers := by
  simp only [tick, Option.getD_some, name, index, count]

theorem tick_spec
    {retries : Nat}
    {past : List ChildTick}
    (childrenCount : Nat)
    (answers : Nat → NodeStatus)
    (tracked : Tracks retries node past) :
    TickSpec retries past
      (node.tick childrenCount (some retries) answers) := by
  obtain ⟨counted, tried, room, index, unskipped⟩ := tracked
  by_cases two : childrenCount = 2
  · subst two
    refine tickLoop_spec past answers 0
      { node with numberOfRetries := retries } [] [] ?_
    rw [List.append_nil]
    exact ⟨counted, tried, room, index, unskipped⟩
  · obtain ⟨message, thrown⟩ :=
      tick_of_children_ne node (some retries) answers two
    rw [thrown]
    constructor
    · intro _
      rw [List.append_nil]
      exact ⟨counted, tried, room, index, unskipped⟩
    · intro done
      cases done
    · rw [List.append_nil]
      omega
    · rw [List.append_nil]
      omega
    · intro done
      cases done

end RecoveryNode

/-!
## Runs of the node

The port holds the same number of retries at every tick.
-/

/-- What the tree does with the node: it ticks it, the children answering in
turn, or it halts it. -/
inductive RecoveryCall where
  | tick (answers : Nat → NodeStatus)
  | halt

/-- A node with the calls of its present activation, and the ticks of the
children in them. -/
structure RecoveryRun where
  node : RecoveryNode
  calls : List (Nat → NodeStatus)
  ticks : List ChildTick

namespace RecoveryRun

open RecoveryNode

/-- A node as it is constructed. -/
def created (name : String) : RecoveryRun :=
  { node := { name }
    calls := []
    ticks := [] }

section Runs

variable (childrenCount retries : Nat) (name : String)

/-- The call of `tick` that a state of the run makes next. -/
def ticked
    (state : RecoveryRun)
    (answers : Nat → NodeStatus) : TickResult :=
  state.node.tick childrenCount (some retries) answers

def step
    (state : RecoveryRun) : RecoveryCall → RecoveryRun
  | .tick answers =>
      let result := state.ticked childrenCount retries answers
      if ends result.outcome then
        { node := result.node
          calls := []
          ticks := [] }
      else
        { node := result.node
          calls := state.calls ++ [answers]
          ticks := state.ticks ++ result.ticks }
  | .halt =>
      { node := state.node.halt
        calls := []
        ticks := [] }

def run (calls : List RecoveryCall) : RecoveryRun :=
  calls.foldl (step childrenCount retries) (created name)

/-- Each call of `tick` in a run that ends an activation leaves the node at
rest.  Every activation keeps within the number of retries, uses all of them
before it fails for want of another, and goes as it would go on a new node. -/
def ActivationsIndependent (calls : List RecoveryCall) : Prop :=
  ∀ (earlier : List RecoveryCall) (answers : Nat → NodeStatus)
    (later : List RecoveryCall),
    calls = earlier ++ .tick answers :: later →
    let before := run childrenCount retries name earlier
    let result := before.ticked childrenCount retries answers
    let activation := before.ticks ++ result.ticks
    (ends result.outcome = true → result.node.AtRest) ∧
      recoveries activation ≤ retries ∧
      tries activation ≤ retries + 1 ∧
      (ends result.outcome = true →
        activation.getLast? = some ⟨0, .failure⟩ →
          tries activation = retries + 1) ∧
      result =
        (run childrenCount retries name
          (before.calls.map .tick)).ticked childrenCount retries answers

/-- In no activation of the run is the second child skipped after it has
succeeded. -/
def NeverSkippedLate (calls : List RecoveryCall) : Prop :=
  ∀ (earlier : List RecoveryCall) (answers : Nat → NodeStatus)
    (later : List RecoveryCall),
    calls = earlier ++ .tick answers :: later →
    let before := run childrenCount retries name earlier
    ¬ SkippedLate
      (before.ticks ++ (before.ticked childrenCount retries answers).ticks)

theorem run_snoc
    (calls : List RecoveryCall)
    (call : RecoveryCall) :
    run childrenCount retries name (calls ++ [call]) =
      step childrenCount retries (run childrenCount retries name calls)
        call := by
  simp only [run, List.foldl_append, List.foldl_cons, List.foldl_nil]

/-- What a run keeps as long as no activation ends in a late skip. -/
structure Sound (state : RecoveryRun) : Prop where
  tracked : Tracks retries state.node state.ticks
  named : state.node.name = name
  index :
    state.node.currentChildIdx =
      (run childrenCount retries name
        (state.calls.map .tick)).node.currentChildIdx
  count :
    state.node.retryCount =
      (run childrenCount retries name
        (state.calls.map .tick)).node.retryCount
  replayed :
    (run childrenCount retries name (state.calls.map .tick)).node.name = name

variable {childrenCount retries name}

theorem Sound.of_atRest
    (rest : node.AtRest)
    (named : node.name = name) :
    Sound childrenCount retries name
      { node
        calls := []
        ticks := [] } where
  tracked := rest.tracks retries
  named := named
  index := rest.2
  count := rest.1
  replayed := rfl

variable
  {state : RecoveryRun}

/-- The next call goes as it would on a new node after the calls of the
present activation. -/
theorem Sound.ticked_eq
    (sound : Sound childrenCount retries name state)
    (answers : Nat → NodeStatus) :
    state.ticked childrenCount retries answers =
      (run childrenCount retries name
        (state.calls.map .tick)).ticked childrenCount retries answers :=
  tick_congr childrenCount retries answers
    (sound.named.trans sound.replayed.symm) sound.index sound.count

theorem step_tick_node
    (state : RecoveryRun)
    (answers : Nat → NodeStatus) :
    (step childrenCount retries state (.tick answers)).node =
      (state.ticked childrenCount retries answers).node := by
  simp only [step]
  split
  · rfl
  · rfl

theorem Sound.step
    (sound : Sound childrenCount retries name state)
    (call : RecoveryCall)
    (unskipped : ∀ answers : Nat → NodeStatus, call = .tick answers →
      ¬ SkippedLate
        (state.ticks ++
          (state.ticked childrenCount retries answers).ticks)) :
    Sound childrenCount retries name
      (state.step childrenCount retries call) := by
  cases call with
  | halt => exact Sound.of_atRest (atRest_halt state.node) sound.named
  | tick answers =>
      have spec := tick_spec childrenCount answers sound.tracked
      have named := (tick_name state.node childrenCount (some retries)
        answers).trans sound.named
      simp only [RecoveryRun.step]
      split
      · case isTrue done =>
        have rest := (spec.atRest done).mpr (unskipped answers rfl)
        exact Sound.of_atRest rest named
      · case isFalse running =>
        have replay :
            (run childrenCount retries name
              ((state.calls ++ [answers]).map .tick)).node =
              (state.ticked childrenCount retries answers).node := by
          rw [List.map_append, List.map_singleton, run_snoc, step_tick_node,
            ← sound.ticked_eq answers]
        exact
          { tracked := spec.goesOn (Bool.eq_false_iff.mpr running)
            named
            index := congrArg currentChildIdx replay.symm
            count := congrArg retryCount replay.symm
            replayed := (congrArg RecoveryNode.name replay).trans named }

/-- A part of a run from its beginning has no late skip either. -/
theorem NeverSkippedLate.earlier
    {earlier later : List RecoveryCall}
    (unskipped :
      NeverSkippedLate childrenCount retries name (earlier ++ later)) :
    NeverSkippedLate childrenCount retries name earlier := by
  intro before answers rest split
  apply unskipped before answers (rest ++ later)
  rw [split, List.append_assoc, List.cons_append]

theorem NeverSkippedLate.sound
    {calls : List RecoveryCall}
    (unskipped : NeverSkippedLate childrenCount retries name calls) :
    Sound childrenCount retries name
      (run childrenCount retries name calls) := by
  induction calls using List.reverseRecOn with
  | nil => exact Sound.of_atRest ⟨rfl, rfl⟩ rfl
  | append_singleton calls call ih =>
      rw [run_snoc]
      apply (ih unskipped.earlier).step call
      rintro answers rfl
      exact unskipped calls answers [] rfl

/-- An activation that has seen a late skip is over, and its node is not at
rest. -/
theorem Sound.not_skippedLate
    {answers : Nat → NodeStatus}
    (sound : Sound childrenCount retries name state)
    (rest :
      ends (state.ticked childrenCount retries answers).outcome = true →
        (state.ticked childrenCount retries answers).node.AtRest) :
    ¬ SkippedLate
      (state.ticks ++ (state.ticked childrenCount retries answers).ticks) := by
  have spec := tick_spec childrenCount answers sound.tracked
  intro late
  cases outcome :
      ends (state.ticked childrenCount retries answers).outcome with
  | false => exact (spec.goesOn outcome).unskipped late.1
  | true => exact (spec.atRest outcome).mp (rest outcome) late

theorem ActivationsIndependent.neverSkippedLate
    {calls : List RecoveryCall}
    (independent : ActivationsIndependent childrenCount retries name calls) :
    NeverSkippedLate childrenCount retries name calls := by
  induction calls using List.reverseRecOn with
  | nil =>
      intro earlier answers later split
      cases earlier with
      | nil => cases split
      | cons _ _ => cases split
  | append_singleton calls call ih =>
      have unskipped : NeverSkippedLate childrenCount retries name calls := by
        apply ih
        intro earlier answers later split
        apply independent earlier answers (later ++ [call])
        rw [split, List.append_assoc, List.cons_append]
      intro earlier answers later split
      -- the tick is the last call, or one of the calls before it
      rcases List.eq_nil_or_concat later with rfl | ⟨rest, last, rfl⟩
      · have same := List.append_inj' split rfl
        rw [← same.1]
        apply unskipped.sound.not_skippedLate
        rw [same.1]
        exact (independent earlier answers [] split).1
      · apply unskipped earlier answers rest
        rw [List.concat_eq_append, ← List.cons_append,
          ← List.append_assoc] at split
        exact (List.append_inj' split rfl).1

/-- The activations of a node are independent of each other just when none of
them ends with the second child skipped after it had succeeded. -/
theorem activationsIndependent_iff
    (childrenCount retries : Nat)
    (name : String)
    (calls : List RecoveryCall) :
    ActivationsIndependent childrenCount retries name calls ↔
      NeverSkippedLate childrenCount retries name calls := by
  constructor
  · exact ActivationsIndependent.neverSkippedLate
  · intro unskipped earlier answers later split
    have early : NeverSkippedLate childrenCount retries name earlier := by
      rw [split] at unskipped
      exact unskipped.earlier
    have sound := early.sound
    have spec := tick_spec childrenCount answers sound.tracked
    exact
      ⟨fun done =>
          (spec.atRest done).mpr (unskipped earlier answers later split),
        spec.recoveries_le, spec.tries_le, spec.exhausted,
        sound.ticked_eq answers⟩

end Runs

/-- The first child fails, the second one recovers, the first one fails again
and the second one is skipped. -/
def recoveredThenSkipped : Nat → NodeStatus
  | 0 => .failure
  | 1 => .success
  | 2 => .failure
  | _ => .skipped

theorem tick_recoveredThenSkipped :
    RecoveryNode.tick 2 (some 2) recoveredThenSkipped
        { name := "NavigateRecovery" } =
      { node :=
          { name := "NavigateRecovery"
            currentChildIdx := 0
            numberOfRetries := 2
            retryCount := 1 }
        outcome := .returned .failure
        ticks :=
          [⟨0, .failure⟩, ⟨1, .success⟩, ⟨0, .failure⟩, ⟨1, .skipped⟩]
        halts := [0, 1, 0, 1] } := by
  rw [tick_of_two_children, tickLoop_of_next _ _ ⟨by decide, by decide⟩ rfl,
    tickLoop_of_next _ _ ⟨by decide, by decide⟩ rfl,
    tickLoop_of_next _ _ ⟨by decide, by decide⟩ rfl,
    tickLoop_of_leave _ _ ⟨by decide, by decide⟩ rfl]
  rfl

/-- With two retries, a recovery and then a skip leave a retry counted: the
next activation has only one left. -/
theorem not_activationsIndependent :
    ¬ ∀ (childrenCount retries : Nat) (name : String)
      (calls : List RecoveryCall),
      ActivationsIndependent childrenCount retries name calls := by
  intro independent
  have rest :=
    (independent 2 2 "NavigateRecovery" [.tick recoveredThenSkipped]
      [] recoveredThenSkipped [] rfl).1
  have ticked : (run 2 2 "NavigateRecovery" []).ticked 2 2
      recoveredThenSkipped = _ :=
    tick_recoveredThenSkipped
  rw [ticked] at rest
  cases (rest rfl).1

end RecoveryRun

end NavBim
