import Mathlib.Tactic
import NavBim.EventRun
import NavBim.LifecycleShutdown

namespace NavBim

/-!
# Runs of the lifecycle manager

Commands, checks of the bonds and checks for respawned nodes come in any order,
and between them the nodes may change by themselves.  A run keeps beside the
manager where the nodes were at the end of the last command.

A run is safe when no step uses a client or a bond that is not there, and an
active manager has all its nodes active and bonded.  A shutdown destroys the
clients for good, so what comes after it decides.
-/

inductive LifecycleCommand where
  | startup
  | configure
  | cleanup
  | reset
  | shutdown
  | pause
  | resume
  deriving DecidableEq, Repr

inductive LifecycleEvent where
  | command (command : LifecycleCommand)
  | bondCheck
  | respawnCheck
  | nodesMove (nodes : String → PrimaryState)

structure LifecycleRun where
  manager : LifecycleManager
  nodesAtCommand : String → PrimaryState

variable
  {manager : LifecycleManager}

namespace LifecycleManager

variable
  {parameters : LifecycleParameters}
  {surroundings : Surroundings}

def managerCallback
    (parameters : LifecycleParameters)
    (surroundings : Surroundings)
    (manager : LifecycleManager) :
    LifecycleCommand → Option (Bool × LifecycleManager)
  | .startup => startup parameters surroundings manager
  | .configure => configure parameters surroundings manager
  | .cleanup => cleanup parameters surroundings manager
  | .reset => reset parameters surroundings manager false
  | .shutdown => shutdown parameters surroundings manager
  | .pause => pause parameters surroundings manager
  | .resume => resume parameters surroundings manager

/-- A node that is active and has a bond, if there are bonds. -/
structure Up
    (parameters : LifecycleParameters)
    (manager : LifecycleManager)
    (nodeName : String) : Prop where
  active : manager.nodes nodeName = .active
  bonded : 0 < parameters.bondTimeout → nodeName ∈ manager.bondMap

/-- What asking nodes for a transition leaves as it was. -/
structure Unchanged
    (parameters : LifecycleParameters)
    (before after : LifecycleManager) : Prop where
  nodeMap : after.nodeMap = before.nodeMap
  managedNodesState : after.managedNodesState = before.managedNodesState
  bondRespawnTimer : after.bondRespawnTimer = before.bondRespawnTimer
  noBonds : parameters.bondTimeout ≤ 0 → before.bondMap = ∅ →
    after.bondMap = ∅

theorem Unchanged.refl
    (manager : LifecycleManager) :
    Unchanged parameters manager manager where
  nodeMap := rfl
  managedNodesState := rfl
  bondRespawnTimer := rfl
  noBonds _ empty := empty

theorem Unchanged.trans
    {first second third : LifecycleManager}
    (earlier : Unchanged parameters first second)
    (later : Unchanged parameters second third) :
    Unchanged parameters first third where
  nodeMap := later.nodeMap.trans earlier.nodeMap
  managedNodesState :=
    later.managedNodesState.trans earlier.managedNodesState
  bondRespawnTimer := later.bondRespawnTimer.trans earlier.bondRespawnTimer
  noBonds disabled empty :=
    later.noBonds disabled (earlier.noBonds disabled empty)

theorem unchanged_called
    (manager : LifecycleManager)
    (nodeName : String)
    (state : PrimaryState) :
    Unchanged parameters manager (manager.called nodeName state) where
  nodeMap := rfl
  managedNodesState := rfl
  bondRespawnTimer := rfl
  noBonds _ empty := empty

theorem unchanged_createBondConnection
    (manager : LifecycleManager)
    (nodeName : String) :
    Unchanged parameters manager
      (createBondConnection parameters surroundings manager nodeName).2 := by
  rw [createBondConnection]
  split
  · case isTrue needed =>
    have unchanged : Unchanged parameters manager
        { manager with bondMap := insert nodeName manager.bondMap } :=
      ⟨rfl, rfl, rfl, fun disabled => absurd needed.2 (not_lt.mpr disabled)⟩
    split
    · exact unchanged
    · exact unchanged
  · exact .refl manager

theorem unchanged_afterTransition
    (manager : LifecycleManager)
    (nodeName : String)
    (transition : Transition) :
    Unchanged parameters manager
      (afterTransition parameters surroundings manager nodeName
        transition).2 := by
  cases transition with
  | activate =>
      exact unchanged_createBondConnection manager nodeName
  | deactivate =>
      exact ⟨rfl, rfl, rfl, fun _ empty => by
        simp only [afterTransition, empty, Finset.erase_empty]⟩
  | configure | cleanup | unconfiguredShutdown =>
      exact .refl manager

theorem bonded_createBondConnection
    (manager : LifecycleManager)
    {nodeName other : String}
    (concerned : other = nodeName ∨
      (0 < parameters.bondTimeout → other ∈ manager.bondMap))
    (enabled : 0 < parameters.bondTimeout) :
    other ∈ (createBondConnection parameters surroundings manager
      nodeName).2.bondMap := by
  rw [createBondConnection]
  by_cases isNew : nodeName ∉ manager.bondMap ∧ 0 < parameters.bondTimeout
  · rw [if_pos isNew]
    have member : other ∈ insert nodeName manager.bondMap := by
      rcases concerned with same | held
      · exact Finset.mem_insert.mpr (.inl same)
      · exact Finset.mem_insert_of_mem (held enabled)
    split
    · exact member
    · exact member
  · rw [if_neg isNew]
    rcases concerned with same | held
    · subst same
      by_contra missing
      exact isNew ⟨missing, enabled⟩
    · exact held enabled

theorem nodes_createBondConnection
    (manager : LifecycleManager)
    (nodeName : String) :
    (createBondConnection parameters surroundings manager nodeName).2.nodes =
      manager.nodes := by
  rw [createBondConnection]
  split
  · split
    · rfl
    · rfl
  · rfl

section Calls

variable (parameters) (surroundings)

/-- Asking one node leaves the rest; an activated node is up, and no node that
was up goes down by an activation that succeeds. -/
theorem changeStateForNode_spec
    {nodeName : String}
    (hasClient : nodeName ∈ manager.nodeMap)
    (transition : Transition) :
    ∃ change after,
      changeStateForNode parameters surroundings manager nodeName transition =
        some (change, after) ∧
      Unchanged parameters manager after ∧
      (transition = .activate → change = .changed →
        ∀ other, other = nodeName ∨ Up parameters manager other →
          Up parameters after other) := by
  rw [changeStateForNode, if_pos hasClient]
  refine ⟨_, _, rfl, ?_, ?_⟩
  · cases surroundings.react manager.calls nodeName transition
        (manager.nodes nodeName) with
    | unavailable | interrupted | unreadable =>
        exact unchanged_called manager nodeName _
    | answered state =>
        dsimp only
        split
        · exact (unchanged_called manager nodeName state).trans
            (unchanged_afterTransition _ nodeName transition)
        · exact unchanged_called manager nodeName state
  · intro activates changed other concerned
    subst activates
    generalize surroundings.react manager.calls nodeName .activate
      (manager.nodes nodeName) = reaction at changed ⊢
    cases reaction with
    | unavailable | interrupted | unreadable =>
        cases changed
    | answered state =>
        dsimp only at changed ⊢
        by_cases expected : state = transitionState .activate
        · rw [if_pos expected]
          constructor
          · rw [afterTransition, nodes_createBondConnection, called, expected]
            rcases concerned with same | up
            · rw [same]
              exact Function.update_self _ _ _
            · by_cases same : other = nodeName
              · rw [same]
                exact Function.update_self _ _ _
              · exact (Function.update_of_ne same _ _).trans up.active
          · rw [afterTransition]
            exact bonded_createBondConnection _
              (concerned.imp_right fun up => up.bonded)
        · rw [if_neg expected] at changed
          cases changed

theorem changeStates_spec
    (transition : Transition)
    (hardChange : Bool)
    (manager : LifecycleManager)
    (order : List String)
    (hasClients : ∀ name ∈ order, name ∈ manager.nodeMap) :
    ∃ value after,
      changeStates parameters surroundings transition hardChange order
          manager = some (value, after) ∧
      Unchanged parameters manager after ∧
      (transition = .activate → hardChange = false → value = true →
        ∀ other, other ∈ order ∨ Up parameters manager other →
          Up parameters after other) := by
  induction order generalizing manager with
  | nil =>
      refine ⟨true, manager, rfl, .refl manager, ?_⟩
      intro _ _ _ other concerned
      exact concerned.resolve_left List.not_mem_nil
  | cons first rest inductionHypothesis =>
      obtain ⟨change, asked, called, unchanged, goesUp⟩ :=
        changeStateForNode_spec parameters surroundings
          (hasClients first (by simp)) transition
      obtain ⟨value, after, looped, later, restUp⟩ :=
        inductionHypothesis asked fun name member => by
          rw [unchanged.nodeMap]
          exact hasClients name (by simp [member])
      rw [changeStates, called, Option.bind_some]
      cases change with
      | changed =>
          refine ⟨value, after, looped, unchanged.trans later, ?_⟩
          intro activates soft succeeds other concerned
          refine restUp activates soft succeeds other ?_
          rcases concerned with member | up
          · rcases List.mem_cons.mp member with same | inRest
            · exact .inr (goesUp activates rfl other (.inl same))
            · exact .inl inRest
          · exact .inr (goesUp activates rfl other (.inr up))
      | failed =>
          cases hardChange with
          | true =>
              exact
                ⟨value, after, looped, unchanged.trans later,
                  fun _ hard => by cases hard⟩
          | false =>
              exact
                ⟨false, asked, rfl, unchanged,
                  fun _ _ succeeds => by cases succeeds⟩
      | threw =>
          exact
            ⟨false, asked, rfl, unchanged,
              fun _ _ succeeds => by cases succeeds⟩

variable {parameters}

/-- Every managed node has its client. -/
def HasClients
    (parameters : LifecycleParameters)
    (manager : LifecycleManager) : Prop :=
  ∀ name ∈ parameters.nodeNames, name ∈ manager.nodeMap

theorem mem_inOrder
    {transition : Transition}
    {name : String} :
    name ∈ inOrder parameters transition ↔ name ∈ parameters.nodeNames := by
  cases transition <;> simp [inOrder]

theorem HasClients.of_unchanged
    {before after : LifecycleManager}
    (hasClients : HasClients parameters before)
    (unchanged : Unchanged parameters before after) :
    HasClients parameters after := by
  rw [HasClients, unchanged.nodeMap]
  exact hasClients

theorem isActive_eq_true
    {manager : LifecycleManager} :
    manager.isActive = true ↔ manager.managedNodesState = .active :=
  beq_iff_eq

theorem changeStateForAllNodes_spec
    (hasClients : HasClients parameters manager)
    (transition : Transition)
    (hardChange : Bool) :
    ∃ value after,
      changeStateForAllNodes parameters surroundings manager transition
          hardChange = some (value, after) ∧
      Unchanged parameters manager after ∧
      (transition = .activate → hardChange = false → value = true →
        ∀ name ∈ parameters.nodeNames, Up parameters after name) := by
  obtain ⟨value, after, ran, unchanged, goesUp⟩ :=
    changeStates_spec parameters surroundings transition hardChange manager
      (inOrder parameters transition)
      fun name member => hasClients name (mem_inOrder.mp member)
  exact
    ⟨value, after, ran, unchanged, fun activates soft succeeds name member =>
      goesUp activates soft succeeds name (.inl (mem_inOrder.mpr member))⟩

theorem changeTwice_spec
    (hasClients : HasClients parameters manager)
    (first second : Transition)
    (hardChange : Bool) :
    ∃ value after,
      changeTwice parameters surroundings manager first second hardChange =
        some (value, after) ∧
      Unchanged parameters manager after ∧
      (second = .activate → hardChange = false → value = true →
        ∀ name ∈ parameters.nodeNames, Up parameters after name) := by
  obtain ⟨firstDone, between, firstRan, firstUnchanged, -⟩ :=
    changeStateForAllNodes_spec surroundings hasClients
      first hardChange
  obtain ⟨value, after, secondRan, secondUnchanged, goesUp⟩ :=
    changeStateForAllNodes_spec surroundings
      (hasClients.of_unchanged firstUnchanged) second hardChange
  cases firstDone with
  | true =>
      refine
        ⟨value, after, ?_, firstUnchanged.trans secondUnchanged, goesUp⟩
      simp only [changeTwice, firstRan, secondRan, Option.bind_eq_bind,
        Option.bind_some, if_true]
  | false =>
      refine
        ⟨false, between, ?_, firstUnchanged,
          fun _ _ succeeds => by cases succeeds⟩
      simp only [changeTwice, firstRan, Option.bind_eq_bind,
        Option.bind_some, Bool.false_eq_true, if_false, Option.pure_def]

/-- What every command but a shutdown, and a hard reset, do to the manager. -/
structure Commanded
    (parameters : LifecycleParameters)
    (before after : LifecycleManager) : Prop where
  nodeMap : after.nodeMap = before.nodeMap
  notFinalized : after.managedNodesState ≠ .finalized
  noBonds : parameters.bondTimeout ≤ 0 → before.bondMap = ∅ →
    after.bondMap = ∅
  up : after.managedNodesState = .active →
    ∀ name ∈ parameters.nodeNames, Up parameters after name

theorem Unchanged.commanded
    {before between after : LifecycleManager}
    (unchanged : Unchanged parameters before between)
    (sameMap : after.nodeMap = between.nodeMap)
    (sameBonds : after.bondMap = between.bondMap)
    (notFinalized : after.managedNodesState ≠ .finalized)
    (notActive : after.managedNodesState ≠ .active) :
    Commanded parameters before after where
  nodeMap := sameMap.trans unchanged.nodeMap
  notFinalized := notFinalized
  noBonds disabled empty := sameBonds.trans (unchanged.noBonds disabled empty)
  up isActive := absurd isActive notActive

theorem Unchanged.commanded_active
    {before after : LifecycleManager}
    (unchanged : Unchanged parameters before after)
    (goesUp : ∀ name ∈ parameters.nodeNames, Up parameters after name) :
    Commanded parameters before
      (createBondTimer parameters
        { after with managedNodesState := .active }) := by
  rw [createBondTimer]
  split
  · exact
      ⟨unchanged.nodeMap, nofun, unchanged.noBonds, fun _ name member =>
        ⟨(goesUp name member).active, (goesUp name member).bonded⟩⟩
  · exact
      ⟨unchanged.nodeMap, nofun, unchanged.noBonds, fun _ name member =>
        ⟨(goesUp name member).active, (goesUp name member).bonded⟩⟩

section

variable
  (hasClients : HasClients parameters manager)

include hasClients

theorem startup_spec :
    ∃ value after,
      startup parameters surroundings manager = some (value, after) ∧
        Commanded parameters manager after := by
  obtain ⟨done, after, ran, unchanged, goesUp⟩ :=
    changeTwice_spec surroundings hasClients .configure
      .activate false
  cases done with
  | true =>
      refine ⟨true, _, ?_, unchanged.commanded_active (goesUp rfl rfl rfl)⟩
      simp only [startup, ran, Option.bind_eq_bind, Option.bind_some, if_true,
        Option.pure_def]
  | false =>
      refine
        ⟨false, { after with managedNodesState := .unknown }, ?_,
          unchanged.commanded rfl rfl nofun nofun⟩
      simp only [startup, ran, Option.bind_eq_bind, Option.bind_some,
        Bool.false_eq_true, if_false, Option.pure_def]

theorem changeOnce_spec
    (transition : Transition)
    {reached : NodeState}
    (notFinalized : reached ≠ .finalized)
    (notActive : reached ≠ .active) :
    ∃ value after,
      changeOnce parameters surroundings manager transition reached =
          some (value, after) ∧
        Commanded parameters manager after := by
  obtain ⟨done, after, ran, unchanged, -⟩ :=
    changeStateForAllNodes_spec surroundings hasClients
      transition false
  cases done with
  | true =>
      refine
        ⟨true, { after with managedNodesState := reached }, ?_,
          unchanged.commanded rfl rfl notFinalized notActive⟩
      simp only [changeOnce, ran, Option.bind_eq_bind, Option.bind_some,
        if_true, Option.pure_def]
  | false =>
      refine
        ⟨false, { after with managedNodesState := .unknown }, ?_,
          unchanged.commanded rfl rfl nofun nofun⟩
      simp only [changeOnce, ran, Option.bind_eq_bind, Option.bind_some,
        Bool.false_eq_true, if_false, Option.pure_def]

theorem resume_spec :
    ∃ value after,
      resume parameters surroundings manager = some (value, after) ∧
        Commanded parameters manager after := by
  obtain ⟨done, after, ran, unchanged, goesUp⟩ :=
    changeStateForAllNodes_spec surroundings hasClients
      .activate false
  cases done with
  | true =>
      refine ⟨true, _, ?_, unchanged.commanded_active (goesUp rfl rfl rfl)⟩
      simp only [resume, changeOnce, ran, Option.bind_eq_bind,
        Option.bind_some, if_true, Option.pure_def]
  | false =>
      refine
        ⟨false, { after with managedNodesState := .unknown }, ?_,
          unchanged.commanded rfl rfl nofun nofun⟩
      simp only [resume, changeOnce, ran, Option.bind_eq_bind,
        Option.bind_some, Bool.false_eq_true, if_false, Option.pure_def]

theorem reset_spec
    (hardReset : Bool) :
    ∃ value after,
      reset parameters surroundings manager hardReset = some (value, after) ∧
        Commanded parameters manager after ∧
        (hardReset = true → after.managedNodesState = .unconfigured) := by
  have stillClients : HasClients parameters manager.destroyBondTimer :=
    hasClients
  obtain ⟨done, after, ran, unchanged, -⟩ :=
    changeTwice_spec surroundings stillClients .deactivate .cleanup hardReset
  have sinceStart : Unchanged parameters manager after :=
    ⟨unchanged.nodeMap, unchanged.managedNodesState,
      unchanged.bondRespawnTimer, unchanged.noBonds⟩
  cases ends : done || hardReset with
  | true =>
      refine
        ⟨true, { after with managedNodesState := .unconfigured }, ?_,
          sinceStart.commanded rfl rfl (by rintro ⟨⟩) (by rintro ⟨⟩), fun _ => rfl⟩
      simp only [reset, ran, ends, Option.bind_eq_bind, Option.bind_some,
        if_true, Option.pure_def]
  | false =>
      refine
        ⟨false, { after with managedNodesState := .unknown }, ?_,
          sinceStart.commanded rfl rfl (by rintro ⟨⟩) (by rintro ⟨⟩), fun hard => ?_⟩
      · simp only [reset, ran, ends, Option.bind_eq_bind, Option.bind_some,
          Bool.false_eq_true, if_false, Option.pure_def]
      · rw [hard, Bool.or_true] at ends
        cases ends

theorem shutdown_spec :
    ∃ after,
      shutdown parameters surroundings manager = some (true, after) ∧
        after.nodeMap = ∅ ∧
        after.managedNodesState = .finalized ∧
        (parameters.bondTimeout ≤ 0 → manager.bondMap = ∅ →
          after.bondMap = ∅) := by
  have stillClients : HasClients parameters
      { manager.destroyBondTimer with managedNodesState := .finalized } :=
    hasClients
  obtain ⟨_, first, firstRan, firstUnchanged, -⟩ :=
    changeStateForAllNodes_spec surroundings stillClients .deactivate false
  have firstClients : HasClients parameters first := by
    rw [HasClients, firstUnchanged.nodeMap]
    exact hasClients
  obtain ⟨_, second, secondRan, secondUnchanged, -⟩ :=
    changeStateForAllNodes_spec surroundings firstClients
      .cleanup false
  obtain ⟨_, third, thirdRan, thirdUnchanged, -⟩ :=
    changeStateForAllNodes_spec surroundings
      (firstClients.of_unchanged secondUnchanged) .unconfiguredShutdown false
  have unchanged :=
    (firstUnchanged.trans secondUnchanged).trans thirdUnchanged
  refine ⟨third.destroyLifecycleServiceClients, ?_, rfl,
    unchanged.managedNodesState, unchanged.noBonds⟩
  simp only [shutdown, shutdownAllNodes, firstRan, secondRan, thirdRan,
    Option.bind_eq_bind, Option.bind_some, Option.pure_def]

theorem managerCallback_spec
    {command : LifecycleCommand}
    (notShutdown : command ≠ .shutdown) :
    ∃ value after,
      managerCallback parameters surroundings manager command =
          some (value, after) ∧
        Commanded parameters manager after := by
  cases command with
  | startup =>
      exact startup_spec surroundings hasClients
  | configure =>
      exact changeOnce_spec surroundings hasClients .configure nofun nofun
  | cleanup =>
      exact changeOnce_spec surroundings hasClients .cleanup nofun nofun
  | reset =>
      obtain ⟨value, after, ran, commanded, -⟩ :=
        reset_spec surroundings hasClients false
      exact ⟨value, after, ran, commanded⟩
  | shutdown =>
      exact absurd rfl notShutdown
  | pause =>
      have stillClients : HasClients parameters manager.destroyBondTimer :=
        hasClients
      obtain ⟨value, after, ran, commanded⟩ :=
        changeOnce_spec surroundings stillClients .deactivate
          (nofun : NodeState.inactive ≠ .finalized) nofun
      exact
        ⟨value, after, ran, commanded.nodeMap, commanded.notFinalized,
          commanded.noBonds, commanded.up⟩
  | resume =>
      exact resume_spec surroundings hasClients

end

/-- A check of the bonds that are all there changes nothing that matters, or
brings the nodes down. -/
theorem checkBonds_spec
    (manager : LifecycleManager)
    (hasClients : HasClients parameters manager)
    (order : List String)
    (bonded : ∀ name ∈ order, name ∈ manager.bondMap) :
    ∃ after,
      checkBonds parameters surroundings order manager = some after ∧
      after.nodeMap = manager.nodeMap ∧
      (after.managedNodesState = manager.managedNodesState ∧
          after.bondMap = manager.bondMap ∨
        after.managedNodesState = .unconfigured ∧ after.bondMap = ∅) := by
  induction order generalizing manager with
  | nil =>
      exact ⟨manager, rfl, rfl, .inl ⟨rfl, rfl⟩⟩
  | cons first rest inductionHypothesis =>
      rw [checkBonds]
      split
      · exact ⟨manager, rfl, rfl, .inl ⟨rfl, rfl⟩⟩
      · rw [if_neg (not_not_intro (bonded first (by simp)))]
        split
        · obtain ⟨value, after, ran, commanded, isHard⟩ :=
            reset_spec surroundings hasClients true
          rw [ran]
          exact ⟨_, rfl, commanded.nodeMap, .inr ⟨isHard rfl, rfl⟩⟩
        · exact inductionHypothesis { manager with calls := manager.calls + 1 }
            hasClients fun name member => bonded name (by simp [member])

theorem liveServers_spec
    (manager : LifecycleManager)
    (order : List String)
    (hasClients : ∀ name ∈ order, name ∈ manager.nodeMap) :
    ∃ live calls,
      liveServers surroundings order manager =
        some (live, { manager with calls }) := by
  induction order generalizing manager with
  | nil =>
      exact ⟨.all, manager.calls, rfl⟩
  | cons first rest inductionHypothesis =>
      rw [liveServers]
      split
      · exact ⟨.stopped, manager.calls, rfl⟩
      · rw [if_neg (not_not_intro (hasClients first (by simp)))]
        split
        · exact inductionHypothesis { manager with calls := manager.calls + 1 }
            fun name member => hasClients name (by simp [member])
        · exact ⟨.missing, manager.calls + 1, rfl⟩

theorem checkBondRespawnConnection_spec
    (hasClients : HasClients parameters manager) :
    ∃ after,
      checkBondRespawnConnection parameters surroundings manager =
        some after ∧
      (after.nodeMap = manager.nodeMap ∧
          after.managedNodesState = manager.managedNodesState ∧
          after.bondMap = manager.bondMap ∨
        manager.isActive = false ∧ manager.bondRespawnTimer = true ∧
          Commanded parameters manager after) := by
  rw [checkBondRespawnConnection]
  by_cases noTimer : manager.bondRespawnTimer = false
  · rw [if_pos noTimer]
    exact ⟨manager, rfl, .inl ⟨rfl, rfl, rfl⟩⟩
  · rw [if_neg noTimer]
    by_cases skipped : (manager.isActive ||
        !surroundings.ok manager.calls ||
        parameters.nodeNames.isEmpty) = true
    · rw [if_pos skipped]
      exact ⟨_, rfl, .inl ⟨rfl, rfl, rfl⟩⟩
    · rw [if_neg skipped]
      simp only [Bool.or_eq_true, not_or] at skipped
      obtain ⟨live, calls, counted⟩ :=
        liveServers_spec surroundings manager parameters.nodeNames hasClients
      rw [counted]
      cases live with
      | stopped =>
          exact ⟨_, rfl, .inl ⟨rfl, rfl, rfl⟩⟩
      | missing =>
          simp only [Option.bind_eq_bind, Option.bind_some]
          split
          · exact ⟨_, rfl, .inl ⟨rfl, rfl, rfl⟩⟩
          · exact ⟨_, rfl, .inl ⟨rfl, rfl, rfl⟩⟩
      | all =>
          have stillClients : HasClients parameters
              { manager with calls := calls, bondRespawnTimer := false } :=
            hasClients
          obtain ⟨value, after, ran, commanded⟩ :=
            startup_spec surroundings stillClients
          have timer : manager.bondRespawnTimer = true :=
            Bool.eq_false_iff.not_left.mp noTimer
          refine ⟨after, ?_, .inr ⟨Bool.eq_false_iff.mpr skipped.1.1, timer,
            commanded.nodeMap, commanded.notFinalized, commanded.noBonds,
            commanded.up⟩⟩
          simp only [Option.bind_eq_bind, Option.bind_some, ran,
            Option.pure_def]

end Calls

end LifecycleManager

namespace LifecycleRun

open LifecycleManager

variable
  {parameters : LifecycleParameters}
  {surroundings : Surroundings}

/-- The events that are a command, or may issue one. -/
def isCommand
    (manager : LifecycleManager) :
    LifecycleEvent → Bool
  | .command _ => true
  | .respawnCheck => manager.bondRespawnTimer && !manager.isActive
  | _ => false

/-- What one event does to the manager. -/
def handle
    (parameters : LifecycleParameters)
    (surroundings : Surroundings)
    (manager : LifecycleManager) :
    LifecycleEvent → Option LifecycleManager
  | .command command =>
      (managerCallback parameters surroundings manager command).map Prod.snd
  | .bondCheck => checkBondConnections parameters surroundings manager
  | .respawnCheck =>
      checkBondRespawnConnection parameters surroundings manager
  | .nodesMove nodes => some { manager with nodes }

def step
    (parameters : LifecycleParameters)
    (surroundings : Surroundings)
    (run : LifecycleRun)
    (event : LifecycleEvent) : Option LifecycleRun :=
  (handle parameters surroundings run.manager event).map fun manager =>
    { manager
      nodesAtCommand :=
        if isCommand run.manager event then
          manager.nodes
        else
          run.nodesAtCommand }

/-- The manager once the clients have been created, with any nodes. -/
def initial
    (parameters : LifecycleParameters)
    (nodes : String → PrimaryState) : LifecycleRun where
  manager := createLifecycleServiceClients parameters
    { nodes
      nodeMap := ∅
      bondMap := ∅
      bondTimer := false
      bondRespawnTimer := false
      managedNodesState := .unconfigured
      calls := 0 }
  nodesAtCommand := nodes

/-- An active manager had every node active at the end of the last command,
and has a bond with each if there are bonds. -/
def Good
    (parameters : LifecycleParameters)
    (run : LifecycleRun) : Prop :=
  run.manager.managedNodesState = .active →
    ∀ name ∈ parameters.nodeNames,
      run.nodesAtCommand name = .active ∧
        (0 < parameters.bondTimeout → name ∈ run.manager.bondMap)

/-- The event uses a client of a manager that is not active. -/
def UsesClients
    (surroundings : Surroundings)
    (manager : LifecycleManager) :
    LifecycleEvent → Prop
  | .command _ => True
  | .respawnCheck =>
      manager.bondRespawnTimer = true ∧ surroundings.ok manager.calls = true
  | _ => False

/-- No event uses a client after the nodes have been shut down. -/
def LeavesShutdown
    (parameters : LifecycleParameters)
    (surroundings : Surroundings)
    (run : LifecycleRun)
    (event : LifecycleEvent) : Prop :=
  parameters.nodeNames = [] ∨
    run.manager.managedNodesState ≠ .finalized ∨
    ¬UsesClients surroundings run.manager event

/-- The clients are there until a shutdown, and not after it. -/
structure Consistent
    (parameters : LifecycleParameters)
    (run : LifecycleRun) : Prop where
  clients : run.manager.managedNodesState ≠ .finalized →
    HasClients parameters run.manager
  destroyed : run.manager.managedNodesState = .finalized →
    run.manager.nodeMap = ∅
  noBonds : parameters.bondTimeout ≤ 0 → run.manager.bondMap = ∅
  good : Good parameters run

theorem Consistent.initial
    (parameters : LifecycleParameters)
    (nodes : String → PrimaryState) :
    Consistent parameters (initial parameters nodes) where
  clients _ _ member :=
    Finset.mem_union_right _ (List.mem_toFinset.mpr member)
  destroyed := nofun
  noBonds _ := rfl
  good := nofun

variable
  {run : LifecycleRun}
  {after : LifecycleManager}

section

variable
  (consistent : Consistent parameters run)

include consistent

theorem Consistent.of_commanded
    (hasClients : HasClients parameters run.manager)
    (commanded : Commanded parameters run.manager after) :
    Consistent parameters ⟨after, after.nodes⟩ where
  clients _ := by
    rw [HasClients, commanded.nodeMap]
    exact hasClients
  destroyed isFinalized := absurd isFinalized commanded.notFinalized
  noBonds disabled :=
    commanded.noBonds disabled (consistent.noBonds disabled)
  good isActive name member :=
    ⟨(commanded.up isActive name member).active,
      (commanded.up isActive name member).bonded⟩

/-- So does an event that leaves what counts. -/
theorem Consistent.of_same
    (sameMap : after.nodeMap = run.manager.nodeMap)
    (sameState :
      after.managedNodesState = run.manager.managedNodesState)
    (sameBonds : after.bondMap = run.manager.bondMap) :
    Consistent parameters ⟨after, run.nodesAtCommand⟩ where
  clients notFinalized := by
    rw [HasClients, sameMap]
    exact consistent.clients (sameState ▸ notFinalized)
  destroyed isFinalized :=
    sameMap.trans (consistent.destroyed (sameState ▸ isFinalized))
  noBonds disabled := sameBonds.trans (consistent.noBonds disabled)
  good isActive name member := by
    have before := consistent.good (sameState ▸ isActive) name member
    exact ⟨before.1, fun enabled => sameBonds ▸ before.2 enabled⟩

/-- The clients are there for every event that does not come after a shutdown,
and without nodes none is needed. -/
theorem Consistent.hasClients
    (alive : parameters.nodeNames = [] ∨
      run.manager.managedNodesState ≠ .finalized) :
    HasClients parameters run.manager := by
  rcases alive with empty | notFinalized
  · intro name member
    rw [empty] at member
    exact absurd member List.not_mem_nil
  · exact consistent.clients notFinalized

end

variable
  {event : LifecycleEvent}

theorem step_of_isCommand
    (handled : handle parameters surroundings run.manager event = some after)
    (issued : isCommand run.manager event = true) :
    step parameters surroundings run event = some ⟨after, after.nodes⟩ := by
  rw [step, handled, Option.map_some, issued, if_pos rfl]

theorem step_of_not_isCommand
    (handled : handle parameters surroundings run.manager event = some after)
    (notIssued : isCommand run.manager event = false) :
    step parameters surroundings run event =
      some ⟨after, run.nodesAtCommand⟩ := by
  rw [step, handled, Option.map_some, notIssued,
    if_neg Bool.false_ne_true]

section

variable
  (consistent : Consistent parameters run)

include consistent

theorem step_command
    (hasClients : HasClients parameters run.manager)
    (command : LifecycleCommand) :
    ∃ next ∈ step parameters surroundings run (.command command),
      Consistent parameters next := by
  by_cases isShutdown : command = .shutdown
  · subst isShutdown
    obtain ⟨after, ran, destroyed, isFinalized, noBonds⟩ :=
      shutdown_spec surroundings hasClients
    have handled :
        handle parameters surroundings run.manager (.command .shutdown) =
          some after := by
      rw [handle, managerCallback, ran, Option.map_some]
    exact
      ⟨_, step_of_isCommand handled rfl,
        fun notFinalized => absurd isFinalized notFinalized,
        fun _ => destroyed,
        fun disabled => noBonds disabled (consistent.noBonds disabled),
        fun isActive => (nomatch isFinalized.symm.trans isActive)⟩
  · obtain ⟨value, after, ran, commanded⟩ :=
      managerCallback_spec surroundings hasClients
        isShutdown
    have handled :
        handle parameters surroundings run.manager (.command command) =
          some after := by
      rw [handle, ran, Option.map_some]
    exact
      ⟨_, step_of_isCommand handled rfl,
        consistent.of_commanded hasClients commanded⟩

theorem step_bondCheck :
    ∃ next ∈ step parameters surroundings run .bondCheck,
      Consistent parameters next := by
  have checked :
      ∃ after,
        handle parameters surroundings run.manager .bondCheck = some after ∧
          Consistent parameters ⟨after, run.nodesAtCommand⟩ := by
    rw [handle, checkBondConnections]
    by_cases skipped : (!run.manager.isActive ||
        !surroundings.ok run.manager.calls ||
        decide (run.manager.bondMap = ∅)) = true
    · rw [if_pos skipped]
      exact ⟨run.manager, rfl, consistent⟩
    · rw [if_neg skipped]
      simp only [Bool.or_eq_true, Bool.not_eq_true', not_or,
        Bool.not_eq_false, decide_eq_true_eq] at skipped
      obtain ⟨⟨isActive, -⟩, hasBonds⟩ := skipped
      have active := isActive_eq_true.mp isActive
      have enabled : 0 < parameters.bondTimeout := by
        by_contra disabled
        exact hasBonds (consistent.noBonds (not_lt.mp disabled))
      have hasClients : HasClients parameters run.manager :=
        consistent.clients (by rw [active]; exact nofun)
      obtain ⟨after, ran, sameMap, ends⟩ :=
        checkBonds_spec surroundings run.manager hasClients
          parameters.nodeNames
          fun name member => (consistent.good active name member).2 enabled
      refine ⟨after, ran, ?_⟩
      rcases ends with ⟨sameState, sameBonds⟩ | ⟨isUnconfigured, noBonds⟩
      · exact consistent.of_same sameMap sameState sameBonds
      · constructor
        · intro _
          rw [HasClients, sameMap]
          exact hasClients
        · intro isFinalized
          exact nomatch isUnconfigured.symm.trans isFinalized
        · exact fun _ => noBonds
        · intro isActive
          exact nomatch isUnconfigured.symm.trans isActive
  obtain ⟨after, handled, kept⟩ := checked
  exact ⟨_, step_of_not_isCommand handled rfl, kept⟩

theorem step_respawnCheck
    (hasClients : HasClients parameters run.manager) :
    ∃ next ∈ step parameters surroundings run .respawnCheck,
      Consistent parameters next := by
  obtain ⟨after, ran, ends⟩ :=
    checkBondRespawnConnection_spec surroundings hasClients
  cases issued : isCommand run.manager .respawnCheck with
  | false =>
      refine ⟨_, step_of_not_isCommand ran issued, ?_⟩
      rcases ends with ⟨sameMap, sameState, sameBonds⟩ |
        ⟨notActive, timer, -⟩
      · exact consistent.of_same sameMap sameState sameBonds
      · rw [isCommand, timer, notActive] at issued
        exact nomatch issued
  | true =>
      refine ⟨_, step_of_isCommand ran issued, ?_⟩
      rcases ends with ⟨sameMap, sameState, sameBonds⟩ | ⟨-, -, commanded⟩
      · have kept := consistent.of_same sameMap sameState sameBonds
        have notActive : after.managedNodesState ≠ .active := by
          intro isActive
          rw [sameState] at isActive
          rw [isCommand, isActive_eq_true.mpr isActive] at issued
          rw [Bool.not_true, Bool.and_false] at issued
          exact nomatch issued
        exact
          ⟨kept.clients, kept.destroyed, kept.noBonds,
            fun isActive => absurd isActive notActive⟩
      · exact consistent.of_commanded hasClients commanded

theorem step_respawnCheck_notDue
    (isFinalized : run.manager.managedNodesState = .finalized)
    (notDue : ¬UsesClients surroundings run.manager .respawnCheck) :
    ∃ next ∈ step parameters surroundings run .respawnCheck,
      Consistent parameters next := by
  have checked :
      ∃ after,
        handle parameters surroundings run.manager .respawnCheck =
            some after ∧
          after.nodeMap = run.manager.nodeMap ∧
          after.managedNodesState = run.manager.managedNodesState ∧
          after.bondMap = run.manager.bondMap := by
    rw [handle, checkBondRespawnConnection]
    by_cases noTimer : run.manager.bondRespawnTimer = false
    · rw [if_pos noTimer]
      exact ⟨_, rfl, rfl, rfl, rfl⟩
    · rw [if_neg noTimer]
      have notOk : surroundings.ok run.manager.calls = false := by
        by_contra isOk
        exact notDue
          ⟨Bool.eq_false_iff.not_left.mp noTimer,
            Bool.eq_false_iff.not_left.mp isOk⟩
      rw [notOk, Bool.not_false, Bool.or_true, Bool.true_or, if_pos rfl]
      exact ⟨_, rfl, rfl, rfl, rfl⟩
  obtain ⟨after, handled, sameMap, sameState, sameBonds⟩ := checked
  have kept := consistent.of_same sameMap sameState sameBonds
  cases issued : isCommand run.manager .respawnCheck with
  | false =>
      exact ⟨_, step_of_not_isCommand handled issued, kept⟩
  | true =>
      exact
        ⟨_, step_of_isCommand handled issued, kept.clients, kept.destroyed,
          kept.noBonds, fun isActive => (nomatch
            (sameState.trans isFinalized).symm.trans isActive)⟩

theorem step_keeps
    (leaves : LeavesShutdown parameters surroundings run event) :
    ∃ next ∈ step parameters surroundings run event,
      Consistent parameters next := by
  cases event with
  | command command =>
      refine step_command consistent (consistent.hasClients ?_) command
      rcases leaves with empty | notFinalized | unused
      · exact .inl empty
      · exact .inr notFinalized
      · exact absurd trivial unused
  | bondCheck =>
      exact step_bondCheck consistent
  | respawnCheck =>
      by_cases isFinalized : run.manager.managedNodesState = .finalized
      · rcases leaves with empty | notFinalized | unused
        · exact step_respawnCheck consistent
            (consistent.hasClients (.inl empty))
        · exact absurd isFinalized notFinalized
        · exact step_respawnCheck_notDue consistent isFinalized unused
      · exact step_respawnCheck consistent (consistent.clients isFinalized)
  | nodesMove nodes =>
      exact
        ⟨_, step_of_not_isCommand rfl rfl, consistent.of_same rfl rfl rfl⟩

end

/-- Without clients no phase gets past the first node. -/
theorem changeStateForAllNodes_eq_none
    (hasNodes : parameters.nodeNames ≠ [])
    (destroyed : manager.nodeMap = ∅)
    (transition : Transition)
    (hardChange : Bool) :
    changeStateForAllNodes parameters surroundings manager transition
      hardChange = none := by
  rw [changeStateForAllNodes]
  cases order : inOrder parameters transition with
  | nil =>
      have empty : parameters.nodeNames = [] := by
        cases transition <;> simpa [inOrder] using order
      exact absurd empty hasNodes
  | cons first rest =>
      rw [changeStates, changeStateForNode, destroyed,
        if_neg (Finset.notMem_empty first), Option.bind_none]

theorem managerCallback_eq_none
    (hasNodes : parameters.nodeNames ≠ [])
    (destroyed : manager.nodeMap = ∅)
    (command : LifecycleCommand) :
    managerCallback parameters surroundings manager command = none := by
  have noPhase : ∀ other : LifecycleManager, other.nodeMap = ∅ →
      ∀ transition hardChange,
        changeStateForAllNodes parameters surroundings other transition
          hardChange = none := fun other =>
    changeStateForAllNodes_eq_none hasNodes
  have stillDestroyed : manager.destroyBondTimer.nodeMap = ∅ := destroyed
  cases command with
  | startup =>
      simp only [managerCallback, startup, changeTwice,
        noPhase manager destroyed, Option.bind_eq_bind, Option.bind_none]
  | configure =>
      simp only [managerCallback, configure, changeOnce,
        noPhase manager destroyed, Option.bind_eq_bind, Option.bind_none]
  | cleanup =>
      simp only [managerCallback, cleanup, changeOnce,
        noPhase manager destroyed, Option.bind_eq_bind, Option.bind_none]
  | reset =>
      simp only [managerCallback, reset, changeTwice,
        noPhase _ stillDestroyed, Option.bind_eq_bind, Option.bind_none]
  | shutdown =>
      have finalizedDestroyed :
          { manager.destroyBondTimer with
            managedNodesState := .finalized }.nodeMap = ∅ := destroyed
      simp only [managerCallback, shutdown, shutdownAllNodes,
        noPhase _ finalizedDestroyed, Option.bind_eq_bind, Option.bind_none]
  | pause =>
      simp only [managerCallback, pause, changeOnce,
        noPhase _ stillDestroyed, Option.bind_eq_bind, Option.bind_none]
  | resume =>
      simp only [managerCallback, resume, changeOnce,
        noPhase manager destroyed, Option.bind_eq_bind, Option.bind_none]

theorem step_eq_none
    (consistent : Consistent parameters run)
    (uses : ¬LeavesShutdown parameters surroundings run event) :
    step parameters surroundings run event = none := by
  simp only [LeavesShutdown, not_or, not_not] at uses
  obtain ⟨hasNodes, isFinalized, used⟩ := uses
  have destroyed := consistent.destroyed isFinalized
  cases event with
  | command command =>
      rw [step, handle, managerCallback_eq_none hasNodes destroyed]
      rfl
  | bondCheck =>
      exact used.elim
  | respawnCheck =>
      have notActive : run.manager.isActive = false :=
        Bool.eq_false_iff.mpr fun isActive =>
          nomatch isFinalized.symm.trans (isActive_eq_true.mp isActive)
      rw [step, handle, checkBondRespawnConnection]
      cases names : parameters.nodeNames with
      | nil =>
          exact absurd names hasNodes
      | cons first rest =>
          rw [used.1, notActive, used.2]
          simp only [Bool.true_eq_false, if_false, Bool.not_true,
            Bool.or_false, List.isEmpty_cons, Bool.false_eq_true]
          rw [liveServers, used.2, if_neg Bool.true_eq_false.mp, destroyed,
            if_pos (Finset.notMem_empty first)]
          rfl
  | nodesMove nodes =>
      exact used.elim

/-- A run is safe exactly when nothing uses a client after a shutdown. -/
theorem staysGood_iff
    (parameters : LifecycleParameters)
    (surroundings : Surroundings)
    (nodes : String → PrimaryState)
    (events : List LifecycleEvent) :
    EventRun.Stays (step parameters surroundings) (Good parameters)
        (initial parameters nodes) events ↔
      EventRun.Conforms (step parameters surroundings)
        (LeavesShutdown parameters surroundings)
        (initial parameters nodes) events := by
  apply EventRun.stays_iff_conforms
  · intro run consistent
    exact Consistent.good consistent
  · intro run event consistent leaves
    exact step_keeps consistent leaves
  · intro run event consistent uses next stepped
    rw [step_eq_none consistent uses] at stepped
    exact nomatch stepped
  · exact Consistent.initial parameters nodes

/-- A startup after a shutdown asks the destroyed clients. -/
theorem startup_after_shutdown_not_good :
    ¬EventRun.Stays (step twoNodes quietSurroundings) (Good twoNodes)
      (initial twoNodes fun _ => .unconfigured)
      [.command .startup, .command .shutdown, .command .startup] := by
  intro stays
  obtain ⟨last, reached, -⟩ := stays.reaches
  have undefined :
      EventRun.runEvents (step twoNodes quietSurroundings)
        (initial twoNodes fun _ => .unconfigured)
        [.command .startup, .command .shutdown, .command .startup] = none := by
    decide +kernel
  rw [undefined] at reached
  exact nomatch reached

end LifecycleRun

end NavBim
