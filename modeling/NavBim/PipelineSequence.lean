import NavBim.RecoveryNode

namespace NavBim

/-!
# The pipeline sequence of the behavior tree

The node ticks all children again that were ticked before, and goes on behind
them only when they are done with.  How far it got is kept in one index.

A child may answer `RUNNING` again after it succeeded.  What the children have
answered since the last reset is kept beside the node, to be compared with the
index.
-/

structure PipelineSequence where
  /-- The names of the children. -/
  children : List String
  lastChildTicked : Nat := 0
  deriving DecidableEq, Repr

/-- Everything one call of `tick` does: the node and the outcome, the ticks of
the children and the children that were halted, in order. -/
structure PipelineResult where
  node : PipelineSequence
  outcome : TickOutcome
  ticks : List ChildTick
  halts : List Nat
  deriving DecidableEq, Repr

/-- A call of the node.  The children's answers to a tick are given. -/
inductive PipelineCall where
  | tick (answers : Nat → NodeStatus)
  | halt

namespace PipelineSequence

def halt
    (node : PipelineSequence) : PipelineSequence :=
  { node with lastChildTicked := 0 }

def invalidStatus
    (node : PipelineSequence)
    (child : Nat) : String :=
  "Invalid node status. Received status IDLEfrom child " ++
    node.children.getD child ""

/-- The end of a call that resets the node. -/
def reset
    (node : PipelineSequence)
    (status : NodeStatus) : PipelineResult where
  node := { node with lastChildTicked := 0 }
  outcome := .returned status
  ticks := []
  halts := List.range node.children.length

/-- A tick of a child before the rest of a call. -/
def ticked
    (tick : ChildTick)
    (rest : PipelineResult) : PipelineResult :=
  { rest with ticks := tick :: rest.ticks }

/-- The loop over the children from one on, some of them skipped so far. -/
def tickFrom
    (answers : Nat → NodeStatus)
    (node : PipelineSequence)
    (skippedCount : Nat) : List Nat → PipelineResult
  | [] =>
      if skippedCount = node.children.length then
        node.reset .skipped
      else
        node.reset .success
  | i :: rest =>
      ticked ⟨i, answers i⟩ <|
        match answers i with
        | .failure => node.reset .failure
        | .skipped => tickFrom answers node (skippedCount + 1) rest
        | .success => tickFrom answers node skippedCount rest
        | .running =>
            if node.lastChildTicked ≤ i then
              { node := { node with lastChildTicked := i }
                outcome := .returned .running
                ticks := []
                halts := [] }
            else
              tickFrom answers node skippedCount rest
        | .idle =>
            { node
              outcome := .thrown (node.invalidStatus i)
              ticks := []
              halts := [] }

def tick
    (answers : Nat → NodeStatus)
    (node : PipelineSequence) : PipelineResult :=
  node.tickFrom answers 0 (List.range node.children.length)

/-- The status of a child that the pipeline can go on behind. -/
def Passes : NodeStatus → Prop
  | .success => True
  | .skipped => True
  | _ => False

/-- A child has succeeded or was skipped. -/
def HasPassed
    (ticks : List ChildTick)
    (child : Nat) : Prop :=
  ∃ status, ⟨child, status⟩ ∈ ticks ∧ Passes status

/-- Each child is ticked only when all earlier ones have passed. -/
def InOrder
    (past : List ChildTick) : List ChildTick → Prop
  | [] => True
  | tick :: rest =>
      (∀ earlier < tick.child, HasPassed past earlier) ∧
        InOrder (past ++ [tick]) rest

/-- The node and the ticks of the children since it was reset. -/
structure PipelineRun where
  node : PipelineSequence
  ticks : List ChildTick

def PipelineRun.step
    (run : PipelineRun) : PipelineCall → PipelineRun
  | .tick answers =>
      let result := run.node.tick answers
      { node := result.node
        ticks :=
          if RecoveryNode.ends result.outcome then []
          else run.ticks ++ result.ticks }
  | .halt => { node := run.node.halt, ticks := [] }

/-- The node after any calls. -/
def run
    (children : List String)
    (calls : List PipelineCall) : PipelineRun :=
  calls.foldl PipelineRun.step { node := { children }, ticks := [] }

section Order

variable
  {answers : Nat → NodeStatus}
  {node : PipelineSequence}
  {past : List ChildTick}

/-- All children before the index have passed since the last reset. -/
structure Reached
    (node : PipelineSequence)
    (past : List ChildTick) : Prop where
  inside : node.lastChildTicked < node.children.length
  passed : ∀ child < node.lastChildTicked, HasPassed past child

theorem HasPassed.append
    {child : Nat}
    (hasPassed : HasPassed past child)
    (later : List ChildTick) :
    HasPassed (past ++ later) child := by
  obtain ⟨status, member, passes⟩ := hasPassed
  exact ⟨status, List.mem_append_left later member, passes⟩

theorem HasPassed.ticked
    {child : Nat}
    {status : NodeStatus}
    (passes : Passes status) :
    HasPassed (past ++ [⟨child, status⟩]) child :=
  ⟨status, List.mem_append_right past List.mem_cons_self, passes⟩

theorem Reached.append
    (reached : Reached node past)
    (later : List ChildTick) :
    Reached node (past ++ later) :=
  ⟨reached.inside, fun child before => (reached.passed child before).append _⟩

/-- What is known at the end of the loop over some of the children. -/
structure LoopSpec
    (node : PipelineSequence)
    (past : List ChildTick)
    (result : PipelineResult) : Prop where
  children : result.node.children = node.children
  inOrder : InOrder past result.ticks
  goesOn : RecoveryNode.ends result.outcome = false →
    Reached result.node (past ++ result.ticks)
  atRest : RecoveryNode.ends result.outcome = true →
    result.node.lastChildTicked = 0

theorem loopSpec_reset
    (node : PipelineSequence)
    (past : List ChildTick)
    {status : NodeStatus}
    (isResult : RecoveryNode.ends (.returned status) = true) :
    LoopSpec node past (node.reset status) where
  children := rfl
  inOrder := trivial
  goesOn := fun goesOn => by
    cases isResult.symm.trans goesOn
  atRest := fun _ => rfl

theorem LoopSpec.ticked
    {tick : ChildTick}
    {rest : PipelineResult}
    (earlier : ∀ child < tick.child, HasPassed past child)
    (spec : LoopSpec node (past ++ [tick]) rest) :
    LoopSpec node past (PipelineSequence.ticked tick rest) where
  children := spec.children
  inOrder := ⟨earlier, spec.inOrder⟩
  goesOn := by
    intro goesOn
    have reached := spec.goesOn goesOn
    rw [List.append_assoc] at reached
    exact reached
  atRest := spec.atRest

/-- All earlier children have passed when the loop goes on to the next one. -/
theorem hasPassed_of_lt_succ
    {first : Nat}
    {tick : ChildTick}
    (earlier : ∀ child < first, HasPassed past child)
    (passed : HasPassed (past ++ [tick]) first) :
    ∀ child < first + 1, HasPassed (past ++ [tick]) child := by
  intro child before
  rcases Nat.lt_succ_iff_lt_or_eq.mp before with less | rfl
  · exact (earlier child less).append _
  · exact passed

/-- The loop ticks the children in order.  A child that is running again has
passed before if the index is behind it. -/
theorem tickFrom_spec
    (reached : Reached node past)
    {first count : Nat}
    (isEnd : first + count = node.children.length)
    (earlier : ∀ child < first, HasPassed past child)
    (skippedCount : Nat) :
    LoopSpec node past
      (node.tickFrom answers skippedCount (List.range' first count)) := by
  induction count generalizing past first skippedCount with
  | zero =>
      rw [List.range'_zero, tickFrom]
      split
      · exact loopSpec_reset node past rfl
      · exact loopSpec_reset node past rfl
  | succ count inductionHypothesis =>
      have goOn (status : NodeStatus)
          (passed : HasPassed (past ++ [⟨first, status⟩]) first)
          (skipped : Nat) :
          LoopSpec node (past ++ [⟨first, status⟩])
            (node.tickFrom answers skipped
              (List.range' (first + 1) count)) :=
        inductionHypothesis (reached.append _) (by omega)
          (hasPassed_of_lt_succ earlier passed) skipped
      rw [List.range'_succ, tickFrom]
      apply LoopSpec.ticked earlier
      generalize answers first = status
      cases status with
      | failure =>
          exact loopSpec_reset node _ rfl
      | skipped =>
          exact goOn .skipped (.ticked trivial) _
      | success =>
          exact goOn .success (.ticked trivial) _
      | running =>
          by_cases isFurther : node.lastChildTicked ≤ first
          · rw [if_pos isFurther]
            refine ⟨rfl, trivial, fun _ => ⟨?_, ?_⟩, fun ends => by cases ends⟩
            · show first < node.children.length
              omega
            · intro child before
              rw [List.append_nil]
              exact (earlier child before).append _
          · rw [if_neg isFurther]
            exact goOn .running
              ((reached.passed first (Nat.lt_of_not_le isFurther)).append _) _
      | idle =>
          refine ⟨rfl, trivial, fun _ => ?_, fun ends => by cases ends⟩
          rw [List.append_nil]
          exact reached.append _

theorem tickFrom_last
    (inside : node.lastChildTicked < node.children.length)
    {first count : Nat}
    (isEnd : first + (count + 1) = node.children.length)
    (skippedCount : Nat)
    (isDone :
      (node.tickFrom answers skippedCount
          (List.range' first (count + 1))).outcome = .returned .success ∨
        (node.tickFrom answers skippedCount
          (List.range' first (count + 1))).outcome = .returned .skipped) :
    ∃ status, ⟨node.children.length - 1, status⟩ ∈
        (node.tickFrom answers skippedCount
          (List.range' first (count + 1))).ticks ∧
      Passes status := by
  induction count generalizing first skippedCount with
  | zero =>
      have isLast : node.children.length - 1 = first := by omega
      rw [List.range'_succ, tickFrom] at isDone ⊢
      rw [isLast]
      refine ⟨answers first, List.mem_cons_self, ?_⟩
      rw [PipelineSequence.ticked] at isDone
      generalize answers first = status at isDone
      cases status with
      | success => trivial
      | skipped => trivial
      | failure => rcases isDone with isDone | isDone <;> cases isDone
      | running =>
          dsimp only at isDone
          rw [if_pos (by omega)] at isDone
          rcases isDone with isDone | isDone <;> cases isDone
      | idle => rcases isDone with isDone | isDone <;> cases isDone
  | succ count inductionHypothesis =>
      have goOn (skipped : Nat)
          (isDone :
            (node.tickFrom answers skipped
                (List.range' (first + 1) (count + 1))).outcome =
                .returned .success ∨
              (node.tickFrom answers skipped
                (List.range' (first + 1) (count + 1))).outcome =
                .returned .skipped)
          (tick : ChildTick) :
          ∃ status, ⟨node.children.length - 1, status⟩ ∈
              tick :: (node.tickFrom answers skipped
                (List.range' (first + 1) (count + 1))).ticks ∧
            Passes status := by
        obtain ⟨status, member, passes⟩ :=
          inductionHypothesis (by omega) skipped isDone
        exact ⟨status, List.mem_cons_of_mem _ member, passes⟩
      rw [List.range'_succ, tickFrom] at isDone ⊢
      rw [PipelineSequence.ticked] at isDone ⊢
      generalize answers first = status at isDone ⊢
      cases status with
      | success => exact goOn _ isDone _
      | skipped => exact goOn _ isDone _
      | failure => rcases isDone with isDone | isDone <;> cases isDone
      | running =>
          by_cases isFurther : node.lastChildTicked ≤ first
          · dsimp only at isDone
            rw [if_pos isFurther] at isDone
            rcases isDone with isDone | isDone <;> cases isDone
          · dsimp only at isDone ⊢
            rw [if_neg isFurther] at isDone ⊢
            exact goOn _ isDone _
      | idle => rcases isDone with isDone | isDone <;> cases isDone

/-- One call of a node that got as far as its index says. -/
theorem tick_spec
    (reached : Reached node past) :
    LoopSpec node past (node.tick answers) := by
  rw [tick, List.range_eq_range']
  exact tickFrom_spec reached (Nat.zero_add _)
    (fun child before => absurd before (Nat.not_lt_zero child)) 0

theorem tick_last
    (inside : node.lastChildTicked < node.children.length)
    (isDone : (node.tick answers).outcome = .returned .success ∨
      (node.tick answers).outcome = .returned .skipped) :
    ∃ status, ⟨node.children.length - 1, status⟩ ∈ (node.tick answers).ticks ∧
      Passes status := by
  obtain ⟨count, isCount⟩ : ∃ count, node.children.length = count + 1 :=
    Nat.exists_eq_succ_of_ne_zero (Nat.ne_zero_of_lt inside)
  rw [tick, List.range_eq_range', isCount] at isDone
  have last :=
    tickFrom_last inside ((Nat.zero_add _).trans isCount.symm) 0 isDone
  rw [← isCount, ← List.range_eq_range'] at last
  exact last

end Order

section Runs

variable
  {children : List String}

/-- The index is behind children that have passed since the last reset. -/
theorem run_reached
    (notEmpty : children ≠ [])
    (calls : List PipelineCall) :
    (run children calls).node.children = children ∧
      Reached (run children calls).node (run children calls).ticks := by
  induction calls using List.reverseRecOn with
  | nil =>
      refine ⟨rfl, List.length_pos_iff.mpr notEmpty, ?_⟩
      intro child before
      exact absurd before (Nat.not_lt_zero child)
  | append_singleton calls call inductionHypothesis =>
      obtain ⟨same, reached⟩ := inductionHypothesis
      rw [run, List.foldl_append, ← run, List.foldl_cons, List.foldl_nil]
      have positive : 0 < (run children calls).node.children.length :=
        Nat.zero_lt_of_lt reached.inside
      cases call with
      | tick answers =>
          have spec : LoopSpec _ _ ((run children calls).node.tick answers) :=
            tick_spec reached
          refine ⟨spec.children.trans same, ?_⟩
          rw [PipelineRun.step]
          by_cases ends : RecoveryNode.ends
              ((run children calls).node.tick answers).outcome = true
          · dsimp only
            rw [if_pos ends]
            refine ⟨?_, ?_⟩
            · rw [spec.atRest ends, spec.children]
              exact positive
            · intro child before
              rw [spec.atRest ends] at before
              exact absurd before (Nat.not_lt_zero child)
          · dsimp only
            rw [if_neg ends]
            exact spec.goesOn (Bool.not_eq_true _ ▸ ends)
      | halt =>
          refine ⟨same, positive, ?_⟩
          intro child before
          exact absurd before (Nat.not_lt_zero child)

/-- After any calls the index is inside the children, and in the next call each
child is ticked only behind children that have passed since the last reset.  The
call is done only if the last child passes in it. -/
theorem tick_inPipelineOrder
    (notEmpty : children ≠ [])
    (calls : List PipelineCall)
    (answers : Nat → NodeStatus) :
    (run children calls).node.lastChildTicked < children.length ∧
      InOrder (run children calls).ticks
        ((run children calls).node.tick answers).ticks ∧
      (((run children calls).node.tick answers).outcome = .returned .success ∨
        ((run children calls).node.tick answers).outcome =
          .returned .skipped →
        ∃ status, ⟨children.length - 1, status⟩ ∈
            ((run children calls).node.tick answers).ticks ∧
          Passes status) := by
  obtain ⟨same, reached⟩ := run_reached notEmpty calls
  have inside := reached.inside
  rw [same] at inside
  refine ⟨inside, (tick_spec reached).inOrder, fun isDone => ?_⟩
  have last := tick_last reached.inside isDone
  rw [same] at last
  exact last

/-- Two children, the second one running and then done. -/
theorem twoChildren_inPipelineOrder :
    let answers : Nat → NodeStatus :=
      fun child => if child = 0 then .running else .success
    let node := run ["compute", "follow"]
      [.tick fun child => if child = 0 then .success else .running]
    node.node.lastChildTicked < 2 ∧
      InOrder node.ticks (node.node.tick answers).ticks ∧
      ((node.node.tick answers).outcome = .returned .success ∨
        (node.node.tick answers).outcome = .returned .skipped →
        ∃ status, ⟨1, status⟩ ∈ (node.node.tick answers).ticks ∧
          Passes status) :=
  tick_inPipelineOrder (List.cons_ne_nil _ _) _ _

example :
    ((run ["compute", "follow"]
        [.tick fun child => if child = 0 then .success else .running]).node.tick
      fun child => if child = 0 then .running else .success).outcome =
        .returned .success := by
  decide

end Runs

end PipelineSequence

end NavBim
