import NavBim.RecoveryNode

namespace NavBim

/-!
# The round robin of the behavior tree

The node ticks its children in turn until one of them succeeds.  It gives up
when as many children as there are have failed or were skipped.  Failures are
counted over several calls, skips in one call only, and the turn goes on from
call to call.

What the children have answered since the node's last result or halt is kept
beside the node, to be compared with the counters.
-/

structure RoundRobinNode where
  childrenCount : Nat
  currentChildIdx : Nat := 0
  numFailedChildren : Nat := 0
  deriving DecidableEq, Repr

/-- Everything one call of `tick` does: the node and the outcome, the ticks of
the children and the children that were halted, in order. -/
structure RoundRobinResult where
  node : RoundRobinNode
  outcome : TickOutcome
  ticks : List ChildTick
  halts : List Nat
  deriving DecidableEq, Repr

/-- A call of the node.  The children's answers to a tick are given in order. -/
inductive RoundRobinCall where
  | tick (answers : Nat → NodeStatus)
  | halt

namespace RoundRobinNode

def halt
    (node : RoundRobinNode) : RoundRobinNode :=
  { node with
    currentChildIdx := 0
    numFailedChildren := 0 }

/-- The turn of the next child, or of the first one again. -/
def increment
    (node : RoundRobinNode) : RoundRobinNode :=
  { node with
    currentChildIdx :=
      if node.currentChildIdx + 1 = node.childrenCount then 0
      else node.currentChildIdx + 1 }

/-- A failure is counted before the next turn. -/
def countFailure
    (node : RoundRobinNode) : RoundRobinNode :=
  { node.increment with numFailedChildren := node.numFailedChildren + 1 }

/-- A tick of a child before the rest of a call. -/
def ticked
    (tick : ChildTick)
    (rest : RoundRobinResult) : RoundRobinResult :=
  { rest with ticks := tick :: rest.ticks }

/-- The loop of `tick`.  The children's answers are a stream, and `asked` of
them have been used. -/
def tickLoop
    (answers : Nat → NodeStatus)
    (asked : Nat)
    (node : RoundRobinNode)
    (numSkippedChildren : Nat) : RoundRobinResult :=
  if _inLoop :
      node.numFailedChildren + numSkippedChildren < node.childrenCount then
    ticked ⟨node.currentChildIdx, answers asked⟩ <|
      match answers asked with
      | .success =>
          { node := { node.increment with numFailedChildren := 0 }
            outcome := .returned .success
            ticks := []
            halts := List.range node.childrenCount }
      | .failure =>
          tickLoop answers (asked + 1) node.countFailure numSkippedChildren
      | .skipped =>
          tickLoop answers (asked + 1) node.increment (numSkippedChildren + 1)
      | .running =>
          { node
            outcome := .returned .running
            ticks := []
            halts := [] }
      -- the turn has gone on to the next child already
      | .idle =>
          { node := node.increment
            outcome := .thrown "Invalid status return from BT node"
            ticks := []
            halts := [] }
  else
    { node := node.halt
      outcome := .returned
        (if numSkippedChildren = node.childrenCount then .skipped
        else .failure)
      ticks := []
      halts := List.range node.childrenCount }
  termination_by
    node.childrenCount - (node.numFailedChildren + numSkippedChildren)
  decreasing_by
    · simp only [countFailure, increment]
      omega
    · simp only [increment]
      omega

def tick
    (answers : Nat → NodeStatus)
    (node : RoundRobinNode) : RoundRobinResult :=
  node.tickLoop answers 0 0

/-- A child has been ticked to completion, and has failed or was skipped. -/
def HasGivenUp
    (ticks : List ChildTick)
    (child : Nat) : Prop :=
  ⟨child, .failure⟩ ∈ ticks ∨ ⟨child, .skipped⟩ ∈ ticks

/-- The last children before the present one have given up. -/
def GivenUpBefore
    (node : RoundRobinNode)
    (count : Nat)
    (ticks : List ChildTick) : Prop :=
  ∀ child < node.childrenCount,
    (child < node.currentChildIdx ∧ node.currentChildIdx ≤ child + count) ∨
      (node.currentChildIdx ≤ child ∧
        node.currentChildIdx + node.childrenCount ≤ child + count) →
    HasGivenUp ticks child

/-- No child has answered against the rules. -/
def NoIdle
    (ticks : List ChildTick) : Prop :=
  ∀ tick ∈ ticks, tick.status ≠ .idle

/-- The node and the ticks of the children since its last result or halt. -/
structure RoundRobinRun where
  node : RoundRobinNode
  ticks : List ChildTick

def RoundRobinRun.step
    (run : RoundRobinRun) : RoundRobinCall → RoundRobinRun
  | .tick answers =>
      let result := run.node.tick answers
      { node := result.node
        ticks :=
          if RecoveryNode.ends result.outcome then []
          else run.ticks ++ result.ticks }
  | .halt => { node := run.node.halt, ticks := [] }

/-- The node after any calls. -/
def run
    (childrenCount : Nat)
    (calls : List RoundRobinCall) : RoundRobinRun :=
  calls.foldl RoundRobinRun.step { node := { childrenCount }, ticks := [] }

section Turns

variable
  {answers : Nat → NodeStatus}
  {node : RoundRobinNode}
  {past : List ChildTick}
  {count : Nat}

theorem HasGivenUp.append
    {child : Nat}
    (hasGivenUp : HasGivenUp past child)
    (later : List ChildTick) :
    HasGivenUp (past ++ later) child :=
  hasGivenUp.imp (List.mem_append_left later) (List.mem_append_left later)

theorem increment_lt
    (inside : node.currentChildIdx < node.childrenCount) :
    node.increment.currentChildIdx < node.childrenCount := by
  rw [increment]
  dsimp only
  split
  · exact Nat.zero_lt_of_lt inside
  · omega

section

variable
  (before : GivenUpBefore node count past)

include before

/-- When the present child gives up, it is one more before the next turn. -/
theorem GivenUpBefore.increment
    {tick : ChildTick}
    (givesUp : HasGivenUp [tick] node.currentChildIdx) :
    GivenUpBefore node.increment (count + 1) (past ++ [tick]) := by
  intro child inside near
  by_cases isPresent : child = node.currentChildIdx
  · rw [isPresent]
    exact givesUp.imp (List.mem_append_right past) (List.mem_append_right past)
  · have earlier : HasGivenUp past child := by
      apply before child inside
      simp only [RoundRobinNode.increment] at near inside
      split at near
      · omega
      · omega
    exact earlier.append _

theorem GivenUpBefore.all
    (turnInside : node.currentChildIdx < node.childrenCount)
    (enough : node.childrenCount ≤ count)
    (child : Nat)
    (inside : child < node.childrenCount) :
    HasGivenUp past child := by
  apply before child inside
  omega

theorem GivenUpBefore.mono
    {fewer : Nat}
    (isFewer : fewer ≤ count)
    (later : List ChildTick) :
    GivenUpBefore node fewer (past ++ later) := by
  intro child inside near
  exact (before child inside (by omega)).append later

end

/-- The turn of a child, and what is known of the ones before it. -/
structure InTurn
    (node : RoundRobinNode)
    (count : Nat)
    (past : List ChildTick) : Prop where
  inside : node.currentChildIdx < node.childrenCount
  before : NoIdle past → GivenUpBefore node count past

/-- What is known at the end of the loop. -/
structure LoopSpec
    (node : RoundRobinNode)
    (past : List ChildTick)
    (result : RoundRobinResult) : Prop where
  childrenCount : result.node.childrenCount = node.childrenCount
  inside : result.node.currentChildIdx < node.childrenCount
  few : result.node.numFailedChildren ≤ node.childrenCount
  goesOn : RecoveryNode.ends result.outcome = false →
    InTurn result.node result.node.numFailedChildren (past ++ result.ticks)
  atRest : RecoveryNode.ends result.outcome = true →
    result.node.numFailedChildren = 0
  gaveUp : result.outcome = .returned .failure ∨
      result.outcome = .returned .skipped →
    NoIdle (past ++ result.ticks) →
      ∀ child < node.childrenCount, HasGivenUp (past ++ result.ticks) child

theorem NoIdle.left
    {later : List ChildTick}
    (noIdle : NoIdle (past ++ later)) :
    NoIdle past :=
  fun tick member => noIdle tick (List.mem_append_left later member)

theorem LoopSpec.ticked
    {after : RoundRobinNode}
    {tick : ChildTick}
    {rest : RoundRobinResult}
    (spec : LoopSpec after (past ++ [tick]) rest)
    (same : after.childrenCount = node.childrenCount) :
    LoopSpec node past (RoundRobinNode.ticked tick rest) := by
  obtain ⟨childrenCount, inside, few, goesOn, atRest, gaveUp⟩ := spec
  rw [List.append_assoc] at goesOn gaveUp
  rw [same] at childrenCount inside few gaveUp
  exact ⟨childrenCount, inside, few, goesOn, atRest, gaveUp⟩

theorem InTurn.next
    (inTurn : InTurn node count past)
    {tick : ChildTick}
    (givesUp : HasGivenUp [tick] node.currentChildIdx) :
    InTurn node.increment (count + 1) (past ++ [tick]) :=
  ⟨increment_lt inTurn.inside,
    fun noIdle => (inTurn.before noIdle.left).increment givesUp⟩

/-- The loop counts children that give up one after another, so that it ends
only after a whole round. -/
theorem tickLoop_spec
    {asked skipped remaining : Nat}
    (inTurn : InTurn node (node.numFailedChildren + skipped) past)
    (isRemaining :
      node.numFailedChildren + skipped + remaining = node.childrenCount) :
    LoopSpec node past (node.tickLoop answers asked skipped) ∧
      (node.tickLoop answers asked skipped).ticks.length ≤ remaining := by
  induction remaining generalizing node past asked skipped with
  | zero =>
      rw [tickLoop, dif_neg (by omega)]
      refine ⟨⟨rfl, Nat.zero_lt_of_lt inTurn.inside, Nat.zero_le _,
        fun goesOn => ?_, fun _ => rfl, fun _ noIdle child inside => ?_⟩, Nat.le_refl _⟩
      · dsimp only at goesOn
        split at goesOn
        · cases goesOn
        · cases goesOn
      · rw [List.append_nil] at noIdle ⊢
        exact (inTurn.before noIdle).all inTurn.inside (by omega) child inside
  | succ remaining inductionHypothesis =>
      rw [tickLoop, dif_pos (by omega)]
      generalize answers asked = status
      have isFull :
          ([⟨node.currentChildIdx, status⟩] : List ChildTick).length ≤
            remaining + 1 := Nat.succ_le_succ (Nat.zero_le _)
      have isFew : node.numFailedChildren ≤ node.childrenCount := by omega
      cases status with
      | success =>
          refine ⟨LoopSpec.ticked ⟨rfl, increment_lt inTurn.inside,
            Nat.zero_le _, nofun, fun _ => rfl, ?_⟩ rfl, isFull⟩
          rintro (isOver | isOver)
          · cases isOver
          · cases isOver
      | failure =>
          have next : InTurn node.countFailure
              (node.countFailure.numFailedChildren + skipped)
              (past ++ [⟨node.currentChildIdx, .failure⟩]) := by
            rw [countFailure, Nat.add_right_comm]
            have counted : InTurn node.increment _
                (past ++ [⟨node.currentChildIdx, .failure⟩]) :=
              inTurn.next (.inl List.mem_cons_self)
            exact ⟨counted.inside, counted.before⟩
          obtain ⟨spec, length⟩ := @inductionHypothesis _ _ (asked + 1) _ next
            (by simp only [countFailure, increment]; omega)
          exact ⟨LoopSpec.ticked spec rfl, Nat.succ_le_succ length⟩
      | skipped =>
          have next : InTurn node.increment
              (node.increment.numFailedChildren + (skipped + 1))
              (past ++ [⟨node.currentChildIdx, .skipped⟩]) :=
            inTurn.next (.inr List.mem_cons_self)
          obtain ⟨spec, length⟩ := @inductionHypothesis _ _ (asked + 1) _ next
            (by simp only [increment]; omega)
          exact ⟨LoopSpec.ticked spec rfl, Nat.succ_le_succ length⟩
      | running =>
          refine ⟨LoopSpec.ticked ⟨rfl, inTurn.inside, isFew,
            fun _ => ?_, nofun, ?_⟩ rfl, isFull⟩
          · rw [List.append_nil]
            exact ⟨inTurn.inside, fun noIdle =>
              (inTurn.before noIdle.left).mono (Nat.le_add_right _ _) _⟩
          · rintro (isOver | isOver)
            · cases isOver
            · cases isOver
      | idle =>
          refine ⟨LoopSpec.ticked ⟨rfl, increment_lt inTurn.inside,
            isFew, fun _ => ?_, nofun, ?_⟩ rfl, isFull⟩
          · rw [List.append_nil]
            refine ⟨increment_lt inTurn.inside, fun noIdle => ?_⟩
            exact absurd rfl
              (noIdle _ (List.mem_append_right past List.mem_cons_self))
          · rintro (isOver | isOver)
            · cases isOver
            · cases isOver

theorem tick_spec
    (inTurn : InTurn node node.numFailedChildren past)
    (isFewer : node.numFailedChildren ≤ node.childrenCount) :
    LoopSpec node past (node.tick answers) ∧
      (node.tick answers).ticks.length ≤ node.childrenCount := by
  obtain ⟨spec, length⟩ := @tickLoop_spec answers node past 0 0
    (node.childrenCount - node.numFailedChildren) inTurn (by omega)
  exact ⟨spec, length.trans (Nat.sub_le _ _)⟩

end Turns

section Runs

variable {childrenCount : Nat}

theorem inTurn_zero
    {node : RoundRobinNode}
    (inside : node.currentChildIdx < node.childrenCount) :
    InTurn node 0 [] :=
  ⟨inside, fun _ child _ near => by omega⟩

/-- After any calls there is a child in turn, and behind it as many have given
up as failures are counted. -/
theorem run_inTurn
    (positive : 0 < childrenCount)
    (calls : List RoundRobinCall) :
    (run childrenCount calls).node.childrenCount = childrenCount ∧
      (run childrenCount calls).node.numFailedChildren ≤
        (run childrenCount calls).node.childrenCount ∧
      InTurn (run childrenCount calls).node
        (run childrenCount calls).node.numFailedChildren
        (run childrenCount calls).ticks := by
  induction calls using List.reverseRecOn with
  | nil =>
      exact ⟨rfl, Nat.zero_le _, inTurn_zero positive⟩
  | append_singleton calls call inductionHypothesis =>
      obtain ⟨same, few, inTurn⟩ := inductionHypothesis
      rw [run, List.foldl_append, ← run, List.foldl_cons, List.foldl_nil]
      cases call with
      | tick answers =>
          have spec : LoopSpec _ _ ((run childrenCount calls).node.tick answers) :=
            (tick_spec inTurn few).1
          rw [RoundRobinRun.step]
          refine ⟨spec.childrenCount.trans same,
            spec.few.trans spec.childrenCount.ge, ?_⟩
          dsimp only
          split
          · case isTrue ends =>
            rw [spec.atRest ends]
            exact inTurn_zero (spec.childrenCount ▸ spec.inside)
          · case isFalse goesOn =>
            exact spec.goesOn (Bool.not_eq_true _ ▸ goesOn)
      | halt =>
          refine ⟨same, Nat.zero_le _, inTurn_zero ?_⟩
          exact Nat.zero_lt_of_lt inTurn.inside

/-- After any calls the index is inside the children, and the next call ticks no
more children than there are.  It gives up only after every child has, since the
last result or halt, if no child has answered against the rules since. -/
theorem tick_givesUpAfterAll
    (positive : 0 < childrenCount)
    (calls : List RoundRobinCall)
    (answers : Nat → NodeStatus) :
    (run childrenCount calls).node.currentChildIdx < childrenCount ∧
      ((run childrenCount calls).node.tick answers).ticks.length ≤
        childrenCount ∧
      (((run childrenCount calls).node.tick answers).outcome =
            .returned .failure ∨
          ((run childrenCount calls).node.tick answers).outcome =
            .returned .skipped →
        NoIdle ((run childrenCount calls).ticks ++
          ((run childrenCount calls).node.tick answers).ticks) →
        ∀ child < childrenCount,
          HasGivenUp ((run childrenCount calls).ticks ++
            ((run childrenCount calls).node.tick answers).ticks) child) := by
  obtain ⟨same, few, inTurn⟩ := run_inTurn positive calls
  obtain ⟨spec, length⟩ := @tick_spec answers _ _ inTurn few
  have inside := inTurn.inside
  rw [same] at inside length
  refine ⟨inside, length, ?_⟩
  have gaveUp := spec.gaveUp
  rw [same] at gaveUp
  exact gaveUp

/-- One of two children fails, and the other one is skipped in the next call. -/
theorem twoChildren_givesUpAfterAll :
    let before := run 2
      [.tick fun asked => if asked = 0 then .failure else .running]
    let result := before.node.tick fun _ => .skipped
    before.node.currentChildIdx < 2 ∧ result.ticks.length ≤ 2 ∧
      (result.outcome = .returned .failure ∨
        result.outcome = .returned .skipped →
          NoIdle (before.ticks ++ result.ticks) →
          ∀ child < 2, HasGivenUp (before.ticks ++ result.ticks) child) :=
  tick_givesUpAfterAll Nat.zero_lt_two _ _

example :
    ((run 2 [.tick fun asked =>
      if asked = 0 then .failure else .running]).node.tick
        fun _ => .skipped).outcome = .returned .failure := by
  decide +kernel

/-- One of two children fails, and the other one answers against the rules.  The
first one has the next turn, fails again and is counted twice. -/
theorem idleChild_never_givenUp :
    ¬ ∀ childrenCount : Nat, 0 < childrenCount →
      ∀ (calls : List RoundRobinCall) (answers : Nat → NodeStatus),
        ((run childrenCount calls).node.tick answers).outcome =
              .returned .failure ∨
            ((run childrenCount calls).node.tick answers).outcome =
              .returned .skipped →
          ∀ child < childrenCount,
            HasGivenUp ((run childrenCount calls).ticks ++
              ((run childrenCount calls).node.tick answers).ticks) child := by
  intro always
  have gaveUp := always 2 Nat.zero_lt_two
    [.tick fun asked => if asked = 0 then .failure else .idle]
    (fun _ => .failure) (by decide +kernel) 1 Nat.one_lt_two
  rcases gaveUp with failed | skipped
  · exact absurd failed (by decide +kernel)
  · exact absurd skipped (by decide +kernel)

end Runs

end RoundRobinNode

end NavBim
