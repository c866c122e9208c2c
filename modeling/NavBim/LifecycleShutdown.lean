import Mathlib.Data.List.TakeWhile
import Mathlib.Tactic
import NavBim.LifecycleManager

namespace NavBim

/-!
# Bringing the nodes down

The services of each node are of one kind during a command.  A phase then moves
the nodes up to the first one at which it stops, in the reverse order of the
names.  A soft phase stops at each node that does not get into the expected
state, a hard phase only at an exception.

Both ways down are compared with what their names promise for the nodes whose
services answer.
-/

/-- How the services of a node behave: they answer and the node takes the
transitions its state allows, or it stays where it is, or a call returns
`false`, or it throws. -/
inductive ServiceKind where
  | answers
  | refuses
  | fails
  | throws
  deriving DecidableEq, Repr

namespace PrimaryState

/-- The transitions of a lifecycle node.  Others leave the state. -/
def after :
    Transition → PrimaryState → PrimaryState
  | .configure, .unconfigured => .inactive
  | .cleanup, .inactive => .unconfigured
  | .activate, .inactive => .active
  | .deactivate, .active => .inactive
  | .unconfiguredShutdown, .unconfigured => .finalized
  | _, state => state

/-- A node that is not finalized has still to be brought down. -/
def isLive
    (state : PrimaryState) : Bool :=
  state != .finalized

theorem after_after
    (transition : Transition)
    (state : PrimaryState) :
    after transition (after transition state) = after transition state := by
  cases transition <;> cases state <;> rfl

end PrimaryState

namespace ServiceKind

def react :
    ServiceKind → Transition → PrimaryState → Reaction
  | .answers, transition, state => .answered (state.after transition)
  | .refuses, _, state => .answered state
  | .fails, _, state => .interrupted state
  | .throws, _, _ => .unavailable

/-- The state of a node after it was asked for a transition. -/
def moved :
    ServiceKind → Transition → PrimaryState → PrimaryState
  | .answers, transition, state => state.after transition
  | _, _, state => state

variable
  (service : ServiceKind)

/-- A node that is asked gets into the expected state, or is there already. -/
def passes
    (transition : Transition)
    (state : PrimaryState) : Bool :=
  match service with
  | .answers => state.after transition == transitionState transition
  | .refuses => state == transitionState transition
  | _ => false

/-- The loop over the nodes goes on after this one. -/
def proceeds
    (transition : Transition)
    (hardChange : Bool)
    (state : PrimaryState) : Bool :=
  service.passes transition state || hardChange && service != .throws

section

variable
  (transition : Transition)

include transition

theorem moved_moved
    (state : PrimaryState) :
    service.moved transition (service.moved transition state) =
      service.moved transition state := by
  cases service
  case answers =>
    exact state.after_after transition
  all_goals rfl

theorem proceeds_moved
    (hardChange : Bool)
    (state : PrimaryState) :
    service.proceeds transition hardChange (service.moved transition state) =
      service.proceeds transition hardChange state := by
  cases service
  case answers =>
    simp only [proceeds, passes, moved, state.after_after]
  all_goals rfl

theorem proceeds_hard
    (state : PrimaryState) :
    service.proceeds transition true state = (service != .throws) := by
  cases service <;> simp [proceeds, passes]

theorem proceeds_soft
    (state : PrimaryState) :
    service.proceeds transition false state =
      service.passes transition state := by
  simp [proceeds]

end

end ServiceKind

namespace LifecycleManager

variable
  {parameters : LifecycleParameters}
  {surroundings : Surroundings}
  {services : String → ServiceKind}
  {manager : LifecycleManager}

variable (parameters surroundings services)

/-- The surroundings with services of one kind for each node. -/
def withServices : Surroundings :=
  { surroundings with
    react := fun _ nodeName transition state =>
      (services nodeName).react transition state }

/-- What one node and the loop's decision come to for one way down. -/
structure Asked
    (transition : Transition)
    (nodeName : String)
    (before : LifecycleManager)
    (change : NodeChange)
    (after : LifecycleManager) : Prop where
  nodes : after.nodes = Function.update before.nodes nodeName
    ((services nodeName).moved transition (before.nodes nodeName))
  nodeMap : after.nodeMap = before.nodeMap
  changed : change = .changed ↔
    (services nodeName).passes transition (before.nodes nodeName) = true
  threw : change = .threw ↔ services nodeName = .throws

variable
  {nodeName : String}

theorem changeStateForNode_asked
    {transition : Transition}
    (hasClient : nodeName ∈ manager.nodeMap)
    (goesDown : transition ≠ .activate) :
    ∃ change after,
      changeStateForNode parameters (withServices surroundings services)
          manager nodeName transition = some (change, after) ∧
        Asked services transition nodeName manager change after := by
  rw [changeStateForNode, if_pos hasClient]
  simp only [withServices]
  cases kind : services nodeName with
  | answers =>
      simp only [ServiceKind.react]
      by_cases expected :
          (manager.nodes nodeName).after transition =
            transitionState transition
      · rw [if_pos expected]
        cases transition
        case activate =>
          exact absurd rfl goesDown
        all_goals
          exact
            ⟨.changed, _, rfl, by simp [called, kind, ServiceKind.moved], rfl,
              by simp [kind, ServiceKind.passes, expected], by simp [kind]⟩
      · rw [if_neg expected]
        exact
          ⟨.failed, _, rfl, by simp [called, kind, ServiceKind.moved], rfl,
            by simp [kind, ServiceKind.passes, expected], by simp [kind]⟩
  | refuses =>
      simp only [ServiceKind.react]
      by_cases expected :
          manager.nodes nodeName = transitionState transition
      · rw [if_pos expected]
        cases transition
        case activate =>
          exact absurd rfl goesDown
        all_goals
          exact
            ⟨.changed, _, rfl, by simp [called, kind, ServiceKind.moved], rfl,
              by simp [kind, ServiceKind.passes, expected], by simp [kind]⟩
      · rw [if_neg expected]
        exact
          ⟨.failed, _, rfl, by simp [called, kind, ServiceKind.moved], rfl,
            by simp [kind, ServiceKind.passes, expected], by simp [kind]⟩
  | fails =>
      exact
        ⟨.failed, _, rfl, by simp [called, kind, ServiceKind.moved], rfl,
          by simp [kind, ServiceKind.passes], by simp [kind]⟩
  | throws =>
      exact
        ⟨.threw, _, rfl, by simp [called, kind, ServiceKind.moved], rfl,
          by simp [kind, ServiceKind.passes], by simp [kind]⟩

section

variable
  (transition : Transition)
  (hardChange : Bool)

/-- The loop over the nodes goes on after this one. -/
def goesOn
    (nodes : String → PrimaryState)
    (nodeName : String) : Bool :=
  (services nodeName).proceeds transition hardChange (nodes nodeName)

/-- The nodes after a phase that goes through the names in this order. -/
def phaseNodes
    (order : List String)
    (nodes : String → PrimaryState)
    (nodeName : String) : PrimaryState :=
  if nodeName ∈
      order.takeWhile (goesOn services transition hardChange nodes) then
    (services nodeName).moved transition (nodes nodeName)
  else
    nodes nodeName

/-- Asking a node once more changes nothing for the rest of the loop. -/
theorem goesOn_update
    (nodes : String → PrimaryState)
    (nodeName : String) :
    goesOn services transition hardChange
        (Function.update nodes nodeName
          ((services nodeName).moved transition (nodes nodeName))) =
      goesOn services transition hardChange nodes := by
  funext name
  simp only [goesOn]
  by_cases same : name = nodeName
  · subst same
    rw [Function.update_self, ServiceKind.proceeds_moved]
  · rw [Function.update_of_ne same]

end

/-- A node at which a soft phase stops does not move, and one at which a hard
phase stops does not either. -/
theorem moved_of_not_proceeds
    {service : ServiceKind}
    {transition : Transition}
    {hardChange : Bool}
    {state : PrimaryState}
    (stops : service.proceeds transition hardChange state = false) :
    service.moved transition state = state := by
  cases service
  case answers =>
    cases transition <;> cases state <;> cases hardChange <;>
      first | rfl | exact absurd stops (by decide)
  all_goals rfl

/-- One pass of the loop: the node is asked, and the loop goes on or ends. -/
theorem changeStates_cons_static
    {transition : Transition}
    (goesDown : transition ≠ .activate)
    (hardChange : Bool)
    {first : String}
    (rest : List String)
    (hasClient : first ∈ manager.nodeMap) :
    ∃ asked,
      asked.nodes = Function.update manager.nodes first
        ((services first).moved transition (manager.nodes first)) ∧
      asked.nodeMap = manager.nodeMap ∧
      changeStates parameters (withServices surroundings services) transition
          hardChange (first :: rest) manager =
        if goesOn services transition hardChange manager.nodes first then
          changeStates parameters (withServices surroundings services)
            transition hardChange rest asked
        else
          some (false, asked) := by
  obtain ⟨change, asked, called, result⟩ :=
    changeStateForNode_asked parameters surroundings services hasClient
      goesDown
  refine ⟨asked, result.nodes, result.nodeMap, ?_⟩
  rw [changeStates, called, Option.bind_some]
  cases change with
  | changed =>
      have passed := result.changed.mp rfl
      rw [goesOn, ServiceKind.proceeds, passed, Bool.true_or, if_pos rfl]
  | failed =>
      have notPassed : (services first).passes transition
          (manager.nodes first) = false :=
        Bool.eq_false_iff.mpr fun passed =>
          nomatch result.changed.mpr passed
      have notThrown : services first ≠ .throws := fun throws =>
        nomatch result.threw.mpr throws
      have answered : (services first != .throws) = true :=
        bne_iff_ne.mpr notThrown
      rw [goesOn, ServiceKind.proceeds, notPassed, Bool.false_or, answered,
        Bool.and_true]
  | threw =>
      rw [goesOn, result.threw.mp rfl]
      simp [ServiceKind.proceeds, ServiceKind.passes]

/-- A phase reaches the nodes up to the first one at which it stops. -/
theorem changeStates_static
    (manager : LifecycleManager)
    {transition : Transition}
    (goesDown : transition ≠ .activate)
    (hardChange : Bool)
    (order : List String)
    (hasClients : ∀ name ∈ order, name ∈ manager.nodeMap) :
    ∃ after,
      changeStates parameters (withServices surroundings services) transition
          hardChange order manager =
        some (order.all (goesOn services transition hardChange manager.nodes),
          after) ∧
      after.nodes =
        phaseNodes services transition hardChange order manager.nodes ∧
      after.nodeMap = manager.nodeMap := by
  induction order generalizing manager with
  | nil =>
      exact ⟨manager, rfl, by funext name; simp [phaseNodes], rfl⟩
  | cons first rest inductionHypothesis =>
      obtain ⟨asked, nodes, nodeMap, loops⟩ :=
        changeStates_cons_static parameters surroundings services goesDown
          hardChange rest (hasClients first (by simp))
      rw [loops]
      have sameDecision := goesOn_update services transition hardChange
        manager.nodes first
      rw [← nodes] at sameDecision
      by_cases proceeds :
          goesOn services transition hardChange manager.nodes first = true
      · obtain ⟨after, looped, moved, kept⟩ :=
          inductionHypothesis asked fun name member => by
            rw [nodeMap]
            exact hasClients name (by simp [member])
        refine ⟨after, ?_, ?_, kept.trans nodeMap⟩
        · rw [if_pos proceeds, looped, sameDecision, List.all_cons, proceeds,
            Bool.true_and]
        · rw [moved]
          funext name
          rw [phaseNodes, phaseNodes, sameDecision,
            List.takeWhile_cons_of_pos proceeds, nodes]
          by_cases same : name = first
          · subst same
            simp [ServiceKind.moved_moved]
          · simp [same]
      · have stops := Bool.eq_false_iff.mpr proceeds
        refine ⟨asked, ?_, ?_, nodeMap⟩
        · rw [if_neg proceeds, List.all_cons, stops, Bool.false_and]
        · rw [nodes, moved_of_not_proceeds stops, Function.update_eq_self]
          funext name
          rw [phaseNodes, List.takeWhile_cons_of_neg proceeds]
          simp

/-- An item is among the leading ones that pass when it passes itself and so
does everything before it. -/
theorem mem_takeWhile_iff
    {Item : Type}
    [DecidableEq Item]
    {items : List Item}
    {item : Item}
    (member : item ∈ items)
    (passes : Item → Bool) :
    item ∈ items.takeWhile passes ↔
      passes item = true ∧
        ∀ earlier ∈ items.takeWhile (· ≠ item), passes earlier = true := by
  induction items with
  | nil =>
      simp at member
  | cons first rest inductionHypothesis =>
      by_cases same : first = item
      · subst same
        cases passed : passes first with
        | true => simp [passed]
        | false => simp [passed]
      · have later : item ∈ rest :=
          (List.mem_cons.mp member).resolve_left (Ne.symm same)
        have ne : (decide (first ≠ item)) = true := decide_eq_true same
        cases passed : passes first with
        | true =>
            rw [List.takeWhile_cons_of_pos passed, List.mem_cons,
              inductionHypothesis later]
            simp [same, Ne.symm same, passed]
        | false =>
            simp [same, passed]

/-- A soft phase comes to a node and moves on. -/
def Reaches
    (transition : Transition)
    (nodeNames : List String)
    (nodes : String → PrimaryState)
    (nodeName : String) : Prop :=
  nodeName ∈
    nodeNames.reverse.takeWhile (goesOn services transition false nodes)

/-- The nodes after a soft phase in reverse order. -/
def softPhase
    (transition : Transition)
    (nodeNames : List String)
    (nodes : String → PrimaryState) : String → PrimaryState :=
  phaseNodes services transition false nodeNames.reverse nodes

/-- The nodes after the last place of a name in the list. -/
def nodesAfter
    (nodeNames : List String)
    (nodeName : String) : List String :=
  nodeNames.reverse.takeWhile (· ≠ nodeName)

theorem mem_of_mem_nodesAfter
    {nodeNames : List String}
    {nodeName later : String}
    (member : later ∈ nodesAfter nodeNames nodeName) :
    later ∈ nodeNames :=
  List.mem_reverse.mp (List.takeWhile_subset _ member)

variable {parameters surroundings services}

theorem reaches_iff
    {nodeNames : List String}
    (member : nodeName ∈ nodeNames)
    (transition : Transition)
    (nodes : String → PrimaryState) :
    Reaches services transition nodeNames nodes nodeName ↔
      (services nodeName).passes transition (nodes nodeName) = true ∧
        ∀ later ∈ nodesAfter nodeNames nodeName,
          (services later).passes transition (nodes later) = true := by
  rw [Reaches, mem_takeWhile_iff (List.mem_reverse.mpr member)]
  simp only [goesOn, ServiceKind.proceeds_soft]
  rfl

theorem softPhase_of_reaches
    {transition : Transition}
    {nodeNames : List String}
    {nodes : String → PrimaryState}
    (answers : services nodeName = .answers)
    (reached : Reaches services transition nodeNames nodes nodeName) :
    softPhase services transition nodeNames nodes nodeName =
      (nodes nodeName).after transition := by
  rw [Reaches] at reached
  rw [softPhase, phaseNodes, if_pos reached, answers, ServiceKind.moved]

theorem softPhase_answers
    (answers : services nodeName = .answers)
    (transition : Transition)
    (nodeNames : List String)
    (nodes : String → PrimaryState) :
    Reaches services transition nodeNames nodes nodeName ∧
        softPhase services transition nodeNames nodes nodeName =
          (nodes nodeName).after transition ∨
      softPhase services transition nodeNames nodes nodeName =
        nodes nodeName := by
  by_cases reached : Reaches services transition nodeNames nodes nodeName
  · exact .inl ⟨reached, softPhase_of_reaches answers reached⟩
  · right
    rw [Reaches] at reached
    rw [softPhase, phaseNodes, if_neg reached]

/-- Any other node stays where it is. -/
theorem softPhase_of_ne_answers
    (other : services nodeName ≠ .answers)
    (transition : Transition)
    (nodeNames : List String)
    (nodes : String → PrimaryState) :
    softPhase services transition nodeNames nodes nodeName =
      nodes nodeName := by
  rw [softPhase, phaseNodes]
  cases kind : services nodeName with
  | answers =>
      exact absurd kind other
  | refuses | fails | throws =>
      exact ite_self _

/-- A node that the transition does not concern stays where it is. -/
theorem softPhase_of_after_eq
    {transition : Transition}
    {nodes : String → PrimaryState}
    (answers : services nodeName = .answers)
    (unchanged : (nodes nodeName).after transition = nodes nodeName)
    (nodeNames : List String) :
    softPhase services transition nodeNames nodes nodeName =
      nodes nodeName := by
  rcases softPhase_answers answers transition nodeNames nodes with
    ⟨-, taken⟩ | stayed
  · exact taken.trans unchanged
  · exact stayed

variable (services)

/-- The nodes after the three phases of a shutdown. -/
def shutdownNodes
    (nodeNames : List String)
    (nodes : String → PrimaryState) : String → PrimaryState :=
  softPhase services .unconfiguredShutdown nodeNames
    (softPhase services .cleanup nodeNames
      (softPhase services .deactivate nodeNames nodes))

/-- A later node does not keep a shutdown from the given one. -/
structure LetsThrough
    (nodes : String → PrimaryState)
    (nodeName later : String) : Prop where
  answers : services later = .answers ∨
    services later = .refuses ∧ nodes later = .finalized ∧
      nodes nodeName = .unconfigured
  ofActive : nodes nodeName = .active →
    nodes later = .active ∨ nodes later = .inactive
  ofInactive : nodes nodeName = .inactive → nodes later ≠ .finalized

/-- Every live node whose services answer is reached by the shutdown. -/
def ShutdownReaches
    (nodeNames : List String)
    (nodes : String → PrimaryState) : Prop :=
  ∀ nodeName ∈ nodeNames,
    services nodeName = .answers →
    (nodes nodeName).isLive = true →
    ∀ later ∈ nodesAfter nodeNames nodeName,
      LetsThrough services nodes nodeName later

/-- The live nodes whose services answer end in the given state. -/
def BringsDown
    (nodeNames : List String)
    (goal : PrimaryState)
    (before after : String → PrimaryState) : Prop :=
  ∀ nodeName ∈ nodeNames,
    services nodeName = .answers →
    (before nodeName).isLive = true →
    after nodeName = goal

variable {services}

section Shutdown

variable
  {nodeNames : List String}
  {nodes : String → PrimaryState}

section

variable
  (reaches : ShutdownReaches services nodeNames nodes)
  (member : nodeName ∈ nodeNames)
  (answers : services nodeName = .answers)

include reaches member answers

/-- With nothing in the way the first phase leaves no node active. -/
theorem ShutdownReaches.deactivates :
    softPhase services .deactivate nodeNames nodes nodeName =
      (nodes nodeName).after .deactivate := by
  cases state : nodes nodeName with
  | active =>
      have reached : Reaches services .deactivate nodeNames nodes nodeName := by
        rw [reaches_iff member]
        refine ⟨?_, fun later isLater => ?_⟩
        · rw [answers, state]
          rfl
        · have lets := reaches nodeName member answers (by rw [state]; rfl)
            later isLater
          have laterAnswers : services later = .answers := by
            rcases lets.answers with laterAnswers | ⟨-, -, isUnconfigured⟩
            · exact laterAnswers
            · rw [state] at isUnconfigured
              exact nomatch isUnconfigured
          rcases lets.ofActive state with laterState | laterState
          · rw [laterAnswers, laterState]
            rfl
          · rw [laterAnswers, laterState]
            rfl
      rw [softPhase_of_reaches answers reached, state]
  | unconfigured | inactive | finalized =>
      rw [softPhase_of_after_eq answers (by rw [state]; rfl), state]
      rfl

theorem ShutdownReaches.cleansUp :
    softPhase services .cleanup nodeNames
        (softPhase services .deactivate nodeNames nodes) nodeName =
      if nodes nodeName = .finalized then .finalized else .unconfigured := by
  have deactivated := reaches.deactivates member answers
  by_cases needed : nodes nodeName = .active ∨ nodes nodeName = .inactive
  · have isInactive :
        softPhase services .deactivate nodeNames nodes nodeName =
          .inactive := by
      rcases needed with state | state
      · rw [deactivated, state]
        rfl
      · rw [deactivated, state]
        rfl
    have notFinalized : nodes nodeName ≠ .finalized := by
      rcases needed with state | state
      · rw [state]
        exact nofun
      · rw [state]
        exact nofun
    have live : (nodes nodeName).isLive = true :=
      bne_iff_ne.mpr notFinalized
    have reached : Reaches services .cleanup nodeNames
        (softPhase services .deactivate nodeNames nodes) nodeName := by
      rw [reaches_iff member]
      refine ⟨?_, fun later isLater => ?_⟩
      · rw [answers, isInactive]
        rfl
      · have lets := reaches nodeName member answers live later isLater
        have laterAnswers : services later = .answers := by
          rcases lets.answers with laterAnswers | ⟨-, -, isUnconfigured⟩
          · exact laterAnswers
          · rw [isUnconfigured] at needed
            exact nomatch needed
        have laterLive : nodes later ≠ .finalized := by
          intro laterState
          rcases needed with state | state
          · rcases lets.ofActive state with other | other
            · exact nomatch laterState.symm.trans other
            · exact nomatch laterState.symm.trans other
          · exact lets.ofInactive state laterState
        rw [laterAnswers, reaches.deactivates
          (mem_of_mem_nodesAfter isLater) laterAnswers]
        cases laterState : nodes later with
        | finalized => exact absurd laterState laterLive
        | unconfigured | inactive | active => rfl
    rw [softPhase_of_reaches answers reached, isInactive,
      if_neg notFinalized]
    rfl
  · have unchanged :
        softPhase services .deactivate nodeNames nodes nodeName =
          nodes nodeName := by
      rw [deactivated]
      cases state : nodes nodeName with
      | active => exact absurd (.inl state) needed
      | unconfigured | inactive | finalized => rfl
    have stays : (softPhase services .deactivate nodeNames nodes
        nodeName).after .cleanup =
          softPhase services .deactivate nodeNames nodes nodeName := by
      rw [unchanged]
      cases state : nodes nodeName with
      | inactive => exact absurd (.inr state) needed
      | unconfigured | active | finalized => rfl
    rw [softPhase_of_after_eq answers stays, unchanged]
    cases state : nodes nodeName with
    | unconfigured => rfl
    | inactive => exact absurd (.inr state) needed
    | active => exact absurd (.inl state) needed
    | finalized => rfl

end

/-- Then the third phase finalizes every live node. -/
theorem ShutdownReaches.finalizes
    (reaches : ShutdownReaches services nodeNames nodes) :
    BringsDown services nodeNames .finalized nodes
      (shutdownNodes services nodeNames nodes) := by
  intro nodeName member answers live
  have cleaned := reaches.cleansUp member answers
  rw [if_neg (bne_iff_ne.mp live)] at cleaned
  have reached : Reaches services .unconfiguredShutdown nodeNames
      (softPhase services .cleanup nodeNames
        (softPhase services .deactivate nodeNames nodes)) nodeName := by
    rw [reaches_iff member]
    refine ⟨?_, fun later isLater => ?_⟩
    · rw [answers, cleaned]
      rfl
    · have lets := reaches nodeName member answers live later isLater
      rcases lets.answers with laterAnswers | ⟨refuses, isFinalized, -⟩
      · rw [laterAnswers, reaches.cleansUp (mem_of_mem_nodesAfter isLater)
          laterAnswers]
        split
        · rfl
        · rfl
      · have notAnswers : services later ≠ .answers := by
          rw [refuses]
          exact nofun
        rw [softPhase_of_ne_answers notAnswers,
          softPhase_of_ne_answers notAnswers, refuses, isFinalized]
        rfl
  rw [shutdownNodes, softPhase_of_reaches answers reached, cleaned]
  rfl

theorem reaches_of_moved
    {transition : Transition}
    (answers : services nodeName = .answers)
    (moved : softPhase services transition nodeNames nodes nodeName ≠
      nodes nodeName) :
    Reaches services transition nodeNames nodes nodeName ∧
      softPhase services transition nodeNames nodes nodeName =
        (nodes nodeName).after transition := by
  rcases softPhase_answers answers transition nodeNames nodes with
    taken | stayed
  · exact taken
  · exact absurd stayed moved

theorem softPhase_ne
    {transition : Transition}
    {state : PrimaryState}
    (answers : services nodeName = .answers)
    (avoids :
      ∀ before : PrimaryState,
        before ≠ state → before.after transition ≠ state)
    (differs : nodes nodeName ≠ state) :
    softPhase services transition nodeNames nodes nodeName ≠ state := by
  rcases softPhase_answers answers transition nodeNames nodes with
    ⟨-, taken⟩ | stayed
  · rw [taken]
    exact avoids (nodes nodeName) differs
  · rw [stayed]
    exact differs

/-- What a shutdown that brings a live node down has done to it. -/
theorem reaches_of_finalized
    (answers : services nodeName = .answers)
    (live : (nodes nodeName).isLive = true)
    (finalized :
      shutdownNodes services nodeNames nodes nodeName = .finalized) :
    Reaches services .unconfiguredShutdown nodeNames
        (softPhase services .cleanup nodeNames
          (softPhase services .deactivate nodeNames nodes)) nodeName ∧
      (nodes nodeName ≠ .unconfigured →
        Reaches services .cleanup nodeNames
          (softPhase services .deactivate nodeNames nodes) nodeName) ∧
      (nodes nodeName = .active →
        Reaches services .deactivate nodeNames nodes nodeName) := by
  let deactivated := softPhase services .deactivate nodeNames nodes
  let cleaned := softPhase services .cleanup nodeNames deactivated
  have notFinalized : cleaned nodeName ≠ .finalized :=
    softPhase_ne answers
      (fun before => by cases before <;> simp [PrimaryState.after])
      (softPhase_ne answers
        (fun before => by cases before <;> simp [PrimaryState.after])
        (bne_iff_ne.mp live))
  rw [shutdownNodes] at finalized
  obtain ⟨reachesLast, lastAfter⟩ :=
    reaches_of_moved answers
      (show softPhase services .unconfiguredShutdown nodeNames cleaned
          nodeName ≠ cleaned nodeName by
        rw [finalized]
        exact notFinalized.symm)
  have wasCleaned : cleaned nodeName = .unconfigured := by
    rw [finalized] at lastAfter
    cases state : cleaned nodeName with
    | unconfigured =>
        rfl
    | finalized =>
        exact absurd state notFinalized
    | inactive | active =>
        rw [state] at lastAfter
        cases lastAfter
  refine ⟨reachesLast, ?_, ?_⟩
  · intro notUnconfigured
    have moved : cleaned nodeName ≠ deactivated nodeName := by
      rw [wasCleaned]
      exact (softPhase_ne answers
        (fun before => by cases before <;> simp [PrimaryState.after])
        notUnconfigured).symm
    exact (reaches_of_moved answers moved).1
  · intro isActive
    have moved : deactivated nodeName ≠ nodes nodeName := by
      intro stayed
      rcases softPhase_answers answers .cleanup nodeNames deactivated with
        ⟨-, taken⟩ | kept
      · rw [stayed, isActive] at taken
        exact nomatch wasCleaned.symm.trans taken
      · rw [stayed, isActive] at kept
        exact nomatch wasCleaned.symm.trans kept
    exact (reaches_of_moved answers moved).1

theorem shutdownReaches_of_bringsDown
    (finalizes : BringsDown services nodeNames .finalized nodes
      (shutdownNodes services nodeNames nodes)) :
    ShutdownReaches services nodeNames nodes := by
  intro nodeName member answers live later isLater
  obtain ⟨last, second, first⟩ :=
    reaches_of_finalized answers live (finalizes nodeName member answers live)
  have passesLast := ((reaches_iff member _ _).mp last).2 later isLater
  have passesSecond := fun needed =>
    ((reaches_iff member _ _).mp (second needed)).2 later isLater
  have passesFirst := fun needed =>
    ((reaches_iff member _ _).mp (first needed)).2 later isLater
  cases kind : services later with
  | answers =>
      refine ⟨.inl kind, fun isActive => ?_, fun isInactive => ?_⟩
      · have passed := passesFirst isActive
        rw [kind] at passed
        cases state : nodes later with
        | active => exact .inl rfl
        | inactive => exact .inr rfl
        | unconfigured | finalized =>
            rw [state] at passed
            exact nomatch passed
      · intro finalized
        have passed := passesSecond (by rw [isInactive]; exact nofun)
        rw [kind, softPhase_of_after_eq kind (by rw [finalized]; rfl),
          finalized] at passed
        exact nomatch passed
  | refuses =>
      have notAnswers : services later ≠ .answers := by
        rw [kind]
        exact nofun
      rw [softPhase_of_ne_answers notAnswers,
        softPhase_of_ne_answers notAnswers, kind] at passesLast
      have isFinalized : nodes later = .finalized := beq_iff_eq.mp passesLast
      have isUnconfigured : nodes nodeName = .unconfigured := by
        by_contra needed
        have passed := passesSecond needed
        rw [softPhase_of_ne_answers notAnswers, kind, isFinalized] at passed
        exact nomatch passed
      exact
        ⟨.inr ⟨kind, isFinalized, isUnconfigured⟩,
          fun isActive => (nomatch isUnconfigured.symm.trans isActive),
          fun isInactive => (nomatch isUnconfigured.symm.trans isInactive)⟩
  | fails | throws =>
      rw [kind] at passesLast
      exact nomatch passesLast

end Shutdown

variable (surroundings services)

theorem changeStateForAllNodes_static
    (manager : LifecycleManager)
    (transition : Transition)
    (notConfigure : transition ≠ .configure)
    (notActivate : transition ≠ .activate)
    (hardChange : Bool)
    (hasClients : ∀ name ∈ parameters.nodeNames, name ∈ manager.nodeMap) :
    ∃ after,
      changeStateForAllNodes parameters (withServices surroundings services)
          manager transition hardChange =
        some (parameters.nodeNames.reverse.all
          (goesOn services transition hardChange manager.nodes), after) ∧
      after.nodes = phaseNodes services transition hardChange
        parameters.nodeNames.reverse manager.nodes ∧
      ∀ name ∈ parameters.nodeNames, name ∈ after.nodeMap := by
  have reversed :
      inOrder parameters transition = parameters.nodeNames.reverse := by
    cases transition
    case configure => exact absurd rfl notConfigure
    case activate => exact absurd rfl notActivate
    all_goals rfl
  obtain ⟨after, phase, nodes, nodeMap⟩ :=
    changeStates_static parameters surroundings services manager notActivate
      hardChange parameters.nodeNames.reverse fun name member =>
        hasClients name (List.mem_reverse.mp member)
  refine ⟨after, ?_, nodes, ?_⟩
  · rw [changeStateForAllNodes, reversed, phase]
  · rw [nodeMap]
    exact hasClients

theorem shutdown_static
    (hasClients : ∀ name ∈ parameters.nodeNames, name ∈ manager.nodeMap) :
    ∃ after,
      shutdown parameters (withServices surroundings services) manager =
        some (true, after) ∧
      after.nodes =
        shutdownNodes services parameters.nodeNames manager.nodes := by
  obtain ⟨first, firstPhase, firstNodes, firstClients⟩ :=
    changeStateForAllNodes_static surroundings services
      { manager.destroyBondTimer with managedNodesState := .finalized }
      .deactivate nofun nofun false hasClients
  obtain ⟨second, secondPhase, secondNodes, secondClients⟩ :=
    changeStateForAllNodes_static surroundings services first .cleanup
      nofun nofun false firstClients
  obtain ⟨third, thirdPhase, thirdNodes, -⟩ :=
    changeStateForAllNodes_static surroundings services second
      .unconfiguredShutdown nofun nofun false secondClients
  refine ⟨third.destroyLifecycleServiceClients, ?_, ?_⟩
  · simp only [shutdown, shutdownAllNodes, firstPhase, secondPhase,
      thirdPhase, Option.bind_eq_bind, Option.bind_some, Option.pure_def]
  · rw [shutdownNodes, softPhase, softPhase, softPhase]
    exact thirdNodes.trans
      (by rw [secondNodes, firstNodes, destroyBondTimer])

/-- No node of the list throws. -/
def NoneThrows
    (nodeNames : List String) : Prop :=
  ∀ nodeName ∈ nodeNames, services nodeName ≠ .throws

variable {services} in
theorem all_goesOn_hard
    (transition : Transition)
    (nodeNames : List String)
    (nodes : String → PrimaryState) :
    nodeNames.reverse.all (goesOn services transition true nodes) = true ↔
      NoneThrows services nodeNames := by
  simp [goesOn, ServiceKind.proceeds_hard, NoneThrows]

variable {services} in
theorem phaseNodes_hard
    {nodeNames : List String}
    (noneThrows : NoneThrows services nodeNames)
    (member : nodeName ∈ nodeNames)
    (answers : services nodeName = .answers)
    (transition : Transition)
    (nodes : String → PrimaryState) :
    phaseNodes services transition true nodeNames.reverse nodes nodeName =
      (nodes nodeName).after transition := by
  have goesOnAll := (all_goesOn_hard transition nodeNames nodes).mpr noneThrows
  rw [phaseNodes, List.takeWhile_eq_self_iff.mpr
    (List.all_eq_true.mp goesOnAll), if_pos (List.mem_reverse.mpr member),
    answers, ServiceKind.moved]

theorem hardReset_static
    (hasClients : ∀ name ∈ parameters.nodeNames, name ∈ manager.nodeMap) :
    ∃ after,
      reset parameters (withServices surroundings services) manager true =
        some (true, after) ∧
      (NoneThrows services parameters.nodeNames →
        after.nodes = phaseNodes services .cleanup true
          parameters.nodeNames.reverse
          (phaseNodes services .deactivate true parameters.nodeNames.reverse
            manager.nodes)) ∧
      (¬NoneThrows services parameters.nodeNames →
        after.nodes = phaseNodes services .deactivate true
          parameters.nodeNames.reverse manager.nodes) := by
  obtain ⟨first, firstPhase, firstNodes, firstClients⟩ :=
    changeStateForAllNodes_static surroundings services
      manager.destroyBondTimer .deactivate nofun nofun true hasClients
  obtain ⟨second, secondPhase, secondNodes, -⟩ :=
    changeStateForAllNodes_static surroundings services first .cleanup
      nofun nofun true firstClients
  by_cases noneThrows : NoneThrows services parameters.nodeNames
  · have completes := (all_goesOn_hard .deactivate parameters.nodeNames
      manager.destroyBondTimer.nodes).mpr noneThrows
    refine ⟨{ second with managedNodesState := .unconfigured }, ?_,
      fun _ => ?_, fun throws => absurd noneThrows throws⟩
    · simp only [reset, changeTwice, firstPhase, completes, secondPhase,
        Option.bind_eq_bind, Option.bind_some, if_true, Bool.or_true,
        Option.pure_def]
    · exact secondNodes.trans (by rw [firstNodes, destroyBondTimer])
  · have stops := Bool.eq_false_iff.mpr
      (mt (all_goesOn_hard .deactivate parameters.nodeNames
        manager.destroyBondTimer.nodes).mp noneThrows)
    refine ⟨{ first with managedNodesState := .unconfigured }, ?_,
      fun quiet => absurd quiet noneThrows, fun _ => ?_⟩
    · simp only [reset, changeTwice, firstPhase, stops,
        Option.bind_eq_bind, Option.bind_some, Bool.false_eq_true, if_false,
        Bool.or_true, if_true, Option.pure_def]
    · exact firstNodes.trans (by rw [destroyBondTimer])

/-- Every live node whose services answer is unconfigured already. -/
def NothingToReset
    (nodeNames : List String)
    (nodes : String → PrimaryState) : Prop :=
  ∀ nodeName ∈ nodeNames,
    services nodeName = .answers →
    (nodes nodeName).isLive = true →
    nodes nodeName = .unconfigured

/-- A command returns and leaves the live nodes in the given state. -/
def Achieves
    (nodeNames : List String)
    (goal : PrimaryState)
    (before : LifecycleManager)
    (result : Option (Bool × LifecycleManager)) : Prop :=
  ∃ value after,
    result = some (value, after) ∧
      BringsDown services nodeNames goal before.nodes after.nodes

variable {surroundings services}

theorem achieves_some
    {nodeNames : List String}
    {goal : PrimaryState}
    {value : Bool}
    {after : LifecycleManager} :
    Achieves services nodeNames goal manager (some (value, after)) ↔
      BringsDown services nodeNames goal manager.nodes after.nodes := by
  constructor
  · rintro ⟨_, _, same, bringsDown⟩
    cases same
    exact bringsDown
  · intro bringsDown
    exact ⟨value, after, rfl, bringsDown⟩

/-- A hard reset brings the nodes down when no node throws, and else only
those that were down. -/
theorem hardReset_achieves_iff
    (hasClients : ∀ name ∈ parameters.nodeNames, name ∈ manager.nodeMap) :
    Achieves services parameters.nodeNames .unconfigured manager
        (reset parameters (withServices surroundings services) manager true) ↔
      NoneThrows services parameters.nodeNames ∨
        NothingToReset services parameters.nodeNames manager.nodes := by
  obtain ⟨after, ran, quiet, disturbed⟩ :=
    hardReset_static surroundings services hasClients
  rw [ran, achieves_some]
  by_cases noneThrows : NoneThrows services parameters.nodeNames
  · refine ⟨fun _ => .inl noneThrows, fun _ => ?_⟩
    intro nodeName member answers live
    rw [quiet noneThrows, phaseNodes_hard noneThrows member answers,
      phaseNodes_hard noneThrows member answers]
    cases state : manager.nodes nodeName with
    | finalized =>
        rw [state] at live
        exact nomatch live
    | unconfigured | inactive | active => rfl
  · rw [disturbed noneThrows]
    have stays : ∀ nodeName, services nodeName = .answers →
        (phaseNodes services .deactivate true parameters.nodeNames.reverse
            manager.nodes nodeName = .unconfigured ↔
          manager.nodes nodeName = .unconfigured) := by
      intro nodeName answers
      rw [phaseNodes]
      split
      · rw [answers, ServiceKind.moved]
        cases manager.nodes nodeName <;> simp [PrimaryState.after]
      · rfl
    constructor
    · intro bringsDown
      refine .inr fun nodeName member answers live => ?_
      exact (stays nodeName answers).mp
        (bringsDown nodeName member answers live)
    · rintro (quietNodes | nothing)
      · exact absurd quietNodes noneThrows
      · intro nodeName member answers live
        exact (stays nodeName answers).mpr
          (nothing nodeName member answers live)

theorem shutdown_achieves_iff
    (hasClients : ∀ name ∈ parameters.nodeNames, name ∈ manager.nodeMap) :
    Achieves services parameters.nodeNames .finalized manager
        (shutdown parameters (withServices surroundings services) manager) ↔
      ShutdownReaches services parameters.nodeNames manager.nodes := by
  obtain ⟨after, ran, nodes⟩ :=
    shutdown_static surroundings services hasClients
  rw [ran, achieves_some, nodes]
  exact ⟨shutdownReaches_of_bringsDown, ShutdownReaches.finalizes⟩

/-- Both ways down, from any state in which the clients have been created. -/
theorem bringsEveryNodeDown_iff
    (parameters : LifecycleParameters)
    (surroundings : Surroundings)
    (services : String → ServiceKind)
    (manager : LifecycleManager) :
    let created := createLifecycleServiceClients parameters manager
    let outside := withServices surroundings services
    (Achieves services parameters.nodeNames .unconfigured created
          (reset parameters outside created true) ↔
        NoneThrows services parameters.nodeNames ∨
          NothingToReset services parameters.nodeNames manager.nodes) ∧
      (Achieves services parameters.nodeNames .finalized created
          (shutdown parameters outside created) ↔
        ShutdownReaches services parameters.nodeNames manager.nodes) := by
  intro created outside
  have hasClients : ∀ name ∈ parameters.nodeNames,
      name ∈ created.nodeMap := fun name member =>
    Finset.mem_union_right _ (List.mem_toFinset.mpr member)
  exact
    ⟨hardReset_achieves_iff hasClients, shutdown_achieves_iff hasClients⟩

section CrashedNode

def twoNodes : LifecycleParameters where
  nodeNames := ["controller_server", "planner_server"]
  bondTimeout := 4000
  attemptRespawnReconnection := true

/-- The services of the planner are gone. -/
def plannerCrashed : String → ServiceKind
  | "planner_server" => .throws
  | _ => .answers

def quietSurroundings : Surroundings where
  react _ _ transition state := .answered (state.after transition)
  waitUntilFormed _ _ := true
  isBroken _ _ := false
  ok _ := true
  isAlive _ _ := true
  respawnExpired _ := false

def bothActive : LifecycleManager where
  nodes _ := .active
  nodeMap := {"controller_server", "planner_server"}
  bondMap := {"controller_server", "planner_server"}
  bondTimer := true
  bondRespawnTimer := false
  managedNodesState := .active
  calls := 0

/-- The controller goes on when the planner has crashed. -/
theorem crashed_planner_keeps_controller_up :
    ¬Achieves plannerCrashed twoNodes.nodeNames .unconfigured bothActive
        (reset twoNodes (withServices quietSurroundings plannerCrashed)
          bothActive true) ∧
      ¬Achieves plannerCrashed twoNodes.nodeNames .finalized bothActive
        (shutdown twoNodes (withServices quietSurroundings plannerCrashed)
          bothActive) := by
  have hasClients : ∀ name ∈ twoNodes.nodeNames,
      name ∈ bothActive.nodeMap := by
    decide
  constructor
  · rw [hardReset_achieves_iff hasClients]
    rintro (noneThrows | nothing)
    · exact noneThrows "planner_server" (by decide) rfl
    · exact nomatch nothing "controller_server" (by decide) rfl rfl
  · rw [shutdown_achieves_iff hasClients]
    intro reaches
    have lets := reaches "controller_server" (by decide) rfl rfl
      "planner_server" (by decide)
    rcases lets.answers with answers | ⟨refuses, -⟩
    · exact nomatch answers
    · exact nomatch refuses

end CrashedNode

end LifecycleManager

end NavBim
