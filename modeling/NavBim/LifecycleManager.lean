import Mathlib.Data.Finset.Basic
import Mathlib.Data.Finset.Insert
import Mathlib.Data.Finset.Erase

namespace NavBim

/-!
# The lifecycle manager

The manager brings a list of nodes up and down together.  It keeps a client for
the services of each node, a bond with each node that it has activated, a timer
that looks after the bonds, and one state for all of its nodes.

The services of a node may fail in two ways.  A call returns `false`, or it
throws.  What the nodes, the bonds and the clock do is given from outside, and
may be different at each call.  Using a client that is not there has no result.
-/

/-- The primary states of a managed node. -/
inductive PrimaryState where
  | unconfigured
  | inactive
  | active
  | finalized
  deriving DecidableEq, Repr

inductive Transition where
  | configure
  | cleanup
  | activate
  | deactivate
  | unconfiguredShutdown
  deriving DecidableEq, Repr

/-- The state in which a node is expected after a transition. -/
def transitionState : Transition → PrimaryState
  | .configure => .inactive
  | .cleanup => .unconfigured
  | .activate => .active
  | .deactivate => .inactive
  | .unconfiguredShutdown => .finalized

/-- The state of all managed nodes, as the manager sees it. -/
inductive NodeState where
  | unconfigured
  | inactive
  | active
  | finalized
  | unknown
  deriving DecidableEq, Repr

/-- What a node does when it is asked for a transition: the state in which it
ends, and how its two services answer. -/
inductive Reaction where
  | unavailable
  | interrupted (state : PrimaryState)
  | unreadable (state : PrimaryState)
  | answered (state : PrimaryState)
  deriving DecidableEq, Repr

/-- `changeStateForNode` returns a value, or an exception leaves it. -/
inductive NodeChange where
  | changed
  | failed
  | threw
  deriving DecidableEq, Repr

structure LifecycleParameters where
  nodeNames : List String
  bondTimeout : Int
  attemptRespawnReconnection : Bool
  deriving DecidableEq, Repr

/-- Everything that is decided outside of the manager.  The number counts the
calls made before. -/
structure Surroundings where
  react : Nat → String → Transition → PrimaryState → Reaction
  waitUntilFormed : Nat → String → Bool
  isBroken : Nat → String → Bool
  ok : Nat → Bool
  isAlive : Nat → String → Bool
  respawnExpired : Nat → Bool

/-- The manager together with the nodes it manages. -/
structure LifecycleManager where
  nodes : String → PrimaryState
  nodeMap : Finset String
  bondMap : Finset String
  bondTimer : Bool
  bondRespawnTimer : Bool
  managedNodesState : NodeState
  calls : Nat

/-- How far the check for respawned nodes gets. -/
inductive LiveServers where
  | stopped
  | missing
  | all
  deriving DecidableEq, Repr

namespace LifecycleManager

variable
  (parameters : LifecycleParameters)
  (surroundings : Surroundings)

def isActive
    (manager : LifecycleManager) : Bool :=
  manager.managedNodesState == .active

def createLifecycleServiceClients
    (manager : LifecycleManager) : LifecycleManager :=
  { manager with nodeMap := manager.nodeMap ∪ parameters.nodeNames.toFinset }

/-- The entries stay in the map, but they hold no client any more. -/
def destroyLifecycleServiceClients
    (manager : LifecycleManager) : LifecycleManager :=
  { manager with nodeMap := ∅ }

variable
  (manager : LifecycleManager)
  (nodeName : String)

/-- One more call was made, and the node is in the given state after it. -/
def called
    (state : PrimaryState) : LifecycleManager :=
  { manager with
    nodes := Function.update manager.nodes nodeName state
    calls := manager.calls + 1 }

/-- The bond stays in the map when it does not form in time. -/
def createBondConnection
    (nodeName : String) : NodeChange × LifecycleManager :=
  if nodeName ∉ manager.bondMap ∧ 0 < parameters.bondTimeout then
    let bonded := { manager with bondMap := insert nodeName manager.bondMap }
    if surroundings.waitUntilFormed manager.calls nodeName then
      (.changed, bonded)
    else
      (.failed, bonded)
  else
    (.changed, manager)

/-- What follows once the node has reached the expected state. -/
def afterTransition
    (transition : Transition) : NodeChange × LifecycleManager :=
  match transition with
  | .activate =>
      createBondConnection parameters surroundings manager nodeName
  | .deactivate =>
      (.changed, { manager with bondMap := manager.bondMap.erase nodeName })
  | _ => (.changed, manager)

def changeStateForNode
    (transition : Transition) : Option (NodeChange × LifecycleManager) :=
  if nodeName ∈ manager.nodeMap then
    let before := manager.nodes nodeName
    some <|
      match surroundings.react manager.calls nodeName transition before with
      | .unavailable => (.threw, manager.called nodeName before)
      | .interrupted state => (.failed, manager.called nodeName state)
      | .unreadable state => (.threw, manager.called nodeName state)
      | .answered state =>
          if state = transitionState transition then
            afterTransition parameters surroundings
              (manager.called nodeName state) nodeName transition
          else
            (.failed, manager.called nodeName state)
  else
    none

variable
  (transition : Transition)

/-- The loop over the nodes.  An exception ends it also for a hard change. -/
def changeStates
    (hardChange : Bool) :
    List String → LifecycleManager → Option (Bool × LifecycleManager)
  | [], manager => some (true, manager)
  | nodeName :: rest, manager =>
      (changeStateForNode parameters surroundings manager nodeName
          transition).bind fun
        | (.changed, after) => changeStates hardChange rest after
        | (.failed, after) =>
            if hardChange then
              changeStates hardChange rest after
            else
              some (false, after)
        | (.threw, after) => some (false, after)

/-- Nodes are brought up in their order and down in the reverse order. -/
def inOrder
    (transition : Transition) : List String :=
  match transition with
  | .configure => parameters.nodeNames
  | .activate => parameters.nodeNames
  | _ => parameters.nodeNames.reverse

def changeStateForAllNodes
    (hardChange : Bool) : Option (Bool × LifecycleManager) :=
  changeStates parameters surroundings transition hardChange
    (inOrder parameters transition) manager

/-- The answers of the three phases are not looked at. -/
def shutdownAllNodes
    (manager : LifecycleManager) : Option LifecycleManager := do
  let finalized := { manager with managedNodesState := .finalized }
  let (_, deactivated) ←
    changeStateForAllNodes parameters surroundings finalized .deactivate false
  let (_, cleaned) ←
    changeStateForAllNodes parameters surroundings deactivated .cleanup false
  let (_, shutDown) ←
    changeStateForAllNodes parameters surroundings cleaned
      .unconfiguredShutdown false
  return shutDown

def createBondTimer
    (manager : LifecycleManager) : LifecycleManager :=
  if parameters.bondTimeout ≤ 0 then
    manager
  else
    { manager with bondTimer := true }

def destroyBondTimer
    (manager : LifecycleManager) : LifecycleManager :=
  { manager with bondTimer := false }

/-- The two phases are joined by `||`, so the second one runs only when the
first one returned `true`. -/
def changeTwice
    (first second : Transition)
    (hardChange : Bool) : Option (Bool × LifecycleManager) := do
  let (firstDone, between) ←
    changeStateForAllNodes parameters surroundings manager first hardChange
  if firstDone then
    changeStateForAllNodes parameters surroundings between second hardChange
  else
    return (false, between)

def startup
    (manager : LifecycleManager) : Option (Bool × LifecycleManager) := do
  let (done, after) ←
    changeTwice parameters surroundings manager .configure .activate false
  if done then
    return (true,
      createBondTimer parameters { after with managedNodesState := .active })
  else
    return (false, { after with managedNodesState := .unknown })

/-- The common body of the commands with one transition. -/
def changeOnce
    (reached : NodeState) : Option (Bool × LifecycleManager) := do
  let (done, after) ←
    changeStateForAllNodes parameters surroundings manager transition false
  if done then
    return (true, { after with managedNodesState := reached })
  else
    return (false, { after with managedNodesState := .unknown })

def configure
    (manager : LifecycleManager) : Option (Bool × LifecycleManager) :=
  changeOnce parameters surroundings manager .configure .inactive

def cleanup
    (manager : LifecycleManager) : Option (Bool × LifecycleManager) :=
  changeOnce parameters surroundings manager .cleanup .unconfigured

def shutdown
    (manager : LifecycleManager) : Option (Bool × LifecycleManager) := do
  let after ←
    shutdownAllNodes parameters surroundings manager.destroyBondTimer
  return (true, after.destroyLifecycleServiceClients)

def reset
    (hardReset : Bool) : Option (Bool × LifecycleManager) := do
  let (done, after) ←
    changeTwice parameters surroundings manager.destroyBondTimer
      .deactivate .cleanup hardReset
  if done || hardReset then
    return (true, { after with managedNodesState := .unconfigured })
  else
    return (false, { after with managedNodesState := .unknown })

def pause
    (manager : LifecycleManager) : Option (Bool × LifecycleManager) :=
  changeOnce parameters surroundings manager.destroyBondTimer
    .deactivate .inactive

def resume
    (manager : LifecycleManager) : Option (Bool × LifecycleManager) := do
  let (done, after) ←
    changeOnce parameters surroundings manager .activate .active
  if done then
    return (true, createBondTimer parameters after)
  else
    return (false, after)

/-- The loop over the bonds.  An entry that is missing is created empty, so
asking it has no result. -/
def checkBonds :
    List String → LifecycleManager → Option LifecycleManager
  | [], manager => some manager
  | nodeName :: rest, manager =>
      if surroundings.ok manager.calls = false then
        some manager
      else if nodeName ∉ manager.bondMap then
        none
      else if surroundings.isBroken manager.calls nodeName then do
        let (_, after) ← reset parameters surroundings manager true
        return { after with
          bondMap := ∅
          bondRespawnTimer :=
            after.bondRespawnTimer || parameters.attemptRespawnReconnection }
      else
        checkBonds rest { manager with calls := manager.calls + 1 }

def checkBondConnections
    (manager : LifecycleManager) : Option LifecycleManager :=
  if !manager.isActive || !surroundings.ok manager.calls ||
      decide (manager.bondMap = ∅) then
    some manager
  else
    checkBonds parameters surroundings parameters.nodeNames manager

/-- Counts the servers that answer, up to the first that does not. -/
def liveServers :
    List String → LifecycleManager → Option (LiveServers × LifecycleManager)
  | [], manager => some (.all, manager)
  | nodeName :: rest, manager =>
      if surroundings.ok manager.calls = false then
        some (.stopped, manager)
      else if nodeName ∉ manager.nodeMap then
        none
      else
        let after := { manager with calls := manager.calls + 1 }
        if surroundings.isAlive manager.calls nodeName then
          liveServers rest after
        else
          some (.missing, after)

/-- The callback of the respawn timer.  Without a timer it is not called. -/
def checkBondRespawnConnection
    (manager : LifecycleManager) : Option LifecycleManager :=
  if manager.bondRespawnTimer = false then
    some manager
  else if manager.isActive || !surroundings.ok manager.calls ||
      parameters.nodeNames.isEmpty then
    some { manager with bondRespawnTimer := false }
  else do
    let (live, counted) ←
      liveServers surroundings parameters.nodeNames manager
    match live with
    | .stopped => return counted
    | .missing =>
        if surroundings.respawnExpired counted.calls then
          return { counted with bondRespawnTimer := false }
        else
          return counted
    | .all =>
        let (_, started) ←
          startup parameters surroundings
            { counted with bondRespawnTimer := false }
        return started

end LifecycleManager

end NavBim
