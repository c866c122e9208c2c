import Mathlib.Algebra.Order.Monoid.WithTop
import Mathlib.Data.List.Perm.Basic
import NavBim.RouteGraph

namespace NavBim

/-!
# The route planner

A search from the start node to the goal node over the edges that are not
blocked.  The cost of an edge comes from the scoring plugins, or from the edge
where it says so or there are no plugins.  An edge that should have a cost and
has none ends the search with an exception.

The queue belongs to the planner and outlives a search.  Its entries point to
nodes of the graph that was searched, so an entry says which graph that was.
A node that has not been reached has the cost `⊤`, which stands for the
greatest number there is.  The sums are exact.
-/

inductive EdgeType where
  | none
  | start
  | end_
  deriving DecidableEq, Repr

/-- What a scoring plugin says about an edge, or it throws. -/
inductive PluginScore (F : Type) where
  | scored (value : F)
  | rejected
  | raised
  deriving DecidableEq

inductive RouteError where
  | outOfRange
  | noValidGraph (message : String)
  | noValidRouteCouldBeFound (message : String)
  | timedOut (message : String)
  | pluginRaised
  deriving DecidableEq, Repr

/-- A node of some graph. -/
structure NodePtr where
  graph : Nat
  index : Nat
  deriving DecidableEq, Repr

structure QueueElement (F : Type) where
  cost : F
  node : NodePtr
  deriving DecidableEq

/-- A priority queue of nodes.  Which of several least entries it takes is left
open. -/
structure NodeQueue (F : Type) [LinearOrder F] where
  emplace : QueueElement F → List (QueueElement F) → List (QueueElement F)
  pop : List (QueueElement F) →
    Option (QueueElement F × List (QueueElement F))
  emplace_perm : ∀ element queue,
    (emplace element queue).Perm (element :: queue)
  pop_nil : pop [] = none
  pop_perm : ∀ {queue element rest}, pop queue = some (element, rest) →
    (element :: rest).Perm queue
  pop_isSome : ∀ {queue}, queue ≠ [] → (pop queue).isSome
  pop_least : ∀ {queue element rest}, pop queue = some (element, rest) →
    ∀ other ∈ queue, element.cost ≤ other.cost

structure SearchState (F : Type) where
  parentEdge : Option EdgePtr := none
  integratedCost : WithTop F := ⊤
  traversalCost : WithTop F := ⊤

structure Route (F : Type) where
  startNode : Nat
  edges : List EdgePtr
  routeCost : WithTop F
  deriving DecidableEq

/-- The arguments of `findRoute`, with the graph's identity and the plugins. -/
structure RouteCall (F Request : Type) where
  graphId : Nat
  graph : RouteGraph F
  startIndex : Nat
  goalIndex : Nat
  blockedIds : List UInt32
  request : Request
  plugins : List
    (RouteGraph F → EdgePtr → Request → EdgeType → PluginScore F)

structure RoutePlanner (F : Type) where
  maxIterations : Nat
  startId : UInt32 := 0
  goalId : UInt32 := 0
  queue : List (QueueElement F) := []
  deriving DecidableEq

/-- The part of the memory that a search changes. -/
structure RouteSearch (F : Type) where
  states : Nat → SearchState F
  queue : List (QueueElement F)

inductive TraversalCost (F : Type) where
  | cost (value : F)
  | unusable
  | error (error : RouteError)
  deriving DecidableEq

/-- How a search ends.  The last one has used a node of another graph. -/
inductive SearchEnd where
  | finished
  | failed (error : RouteError)
  | foreignNode
  deriving DecidableEq, Repr

/-- How a call ends.  The last two have used a node of another graph and do not
return. -/
inductive CallResult (F : Type) where
  | returned (route : Route F)
  | threw (error : RouteError)
  | foreignNode
  | endless
  deriving DecidableEq

namespace RoutePlanner

variable {F Request : Type} [AddCommMonoid F] [LinearOrder F]

section Edges

variable (call : RouteCall F Request)

def classifyEdge
    (startId goalId : UInt32)
    (pointer : EdgePtr)
    (edge : DirectionalEdge F) : EdgeType :=
  if call.graph.nodeid? pointer.start = some startId then
    .start
  else if call.graph.nodeid? edge.endNode = some goalId then
    .end_
  else
    .none

/-- The scores of the plugins are added up, until one rejects the edge. -/
def scoreFrom
    (pointer : EdgePtr)
    (edgeType : EdgeType) :
    List (RouteGraph F → EdgePtr → Request → EdgeType → PluginScore F) →
    F → PluginScore F
  | [], total => .scored total
  | plugin :: rest, total =>
      match plugin call.graph pointer call.request edgeType with
      | .scored value => scoreFrom pointer edgeType rest (total + value)
      | .rejected => .rejected
      | .raised => .raised

def isBlocked
    (edge : DirectionalEdge F) : Bool :=
  call.blockedIds.any fun id =>
    id == edge.edgeid || call.graph.nodeid? edge.endNode == some id

def getTraversalCost
    (startId goalId : UInt32)
    (pointer : EdgePtr)
    (edge : DirectionalEdge F) : TraversalCost F :=
  if isBlocked call edge then
    .unusable
  else if !edge.edgeCost.overridable || call.plugins.isEmpty then
    if edge.edgeCost.cost ≤ 0 then
      .error (.noValidGraph
        ("Edge " ++ toString edge.edgeid ++
          " doesn't contain and cannot compute a valid edge cost!"))
    else
      .cost edge.edgeCost.cost
  else
    match scoreFrom call pointer
        (classifyEdge call startId goalId pointer edge) call.plugins 0 with
    | .scored value => .cost value
    | .rejected => .unusable
    | .raised => .error .pluginRaised

end Edges

section Search

variable
  (queueOps : NodeQueue F)
  (call : RouteCall F Request)
  (startId goalId : UInt32)

/-- A cheaper way to a neighbor is kept, and the neighbor gets an entry. -/
def reach
    (search : RouteSearch F)
    (neighbor : Nat)
    (pointer : EdgePtr)
    (potentialCost traversalCost : F) : RouteSearch F where
  states := Function.update search.states neighbor
    { parentEdge := some pointer
      integratedCost := potentialCost
      traversalCost := traversalCost }
  queue := queueOps.emplace ⟨potentialCost, ⟨call.graphId, neighbor⟩⟩
    search.queue

omit [AddCommMonoid F] in
theorem reach_states_of_ne
    {neighbor index : Nat}
    (different : index ≠ neighbor)
    (search : RouteSearch F)
    (pointer : EdgePtr)
    (potentialCost traversalCost : F) :
    (reach queueOps call search neighbor pointer potentialCost
      traversalCost).states index = search.states index :=
  Function.update_of_ne different _ _

/-- The loop over the edges of a node.  An exception leaves it. -/
def expandEdges
    (currCost : F)
    (node : Nat) :
    List (DirectionalEdge F) → Nat → RouteSearch F →
      Option RouteError × RouteSearch F
  | [], _, search => (none, search)
  | edge :: rest, edgeNum, search =>
      match getTraversalCost call startId goalId ⟨node, edgeNum⟩ edge with
      | .error error => (some error, search)
      | .unusable => expandEdges currCost node rest (edgeNum + 1) search
      | .cost traversalCost =>
          if (currCost + traversalCost : F) <
              (search.states edge.endNode).integratedCost then
            expandEdges currCost node rest (edgeNum + 1)
              (reach queueOps call search edge.endNode ⟨node, edgeNum⟩
                (currCost + traversalCost) traversalCost)
          else
            expandEdges currCost node rest (edgeNum + 1) search

/-- The loop of the search, with the number of iterations that are left. -/
def traverse :
    Nat → RouteSearch F → SearchEnd × RouteSearch F
  | 0, search =>
      (.failed (.timedOut "Maximum iterations was exceeded!"),
        { search with queue := [] })
  | iterations + 1, search =>
      match queueOps.pop search.queue with
      | none => (.finished, search)
      | some (element, rest) =>
          let popped := { search with queue := rest }
          if element.node.graph ≠ call.graphId ∨
              call.graph.nodes.length ≤ element.node.index then
            (.foreignNode, popped)
          else if (element.cost : WithTop F) ≠
              (search.states element.node.index).integratedCost then
            traverse iterations popped
          else if call.graph.nodeid? element.node.index = some goalId then
            (.finished, { search with queue := [] })
          else
            match expandEdges queueOps call startId goalId element.cost
                element.node.index
                (call.graph.getEdges element.node.index) 0 popped with
            | (none, expanded) => traverse iterations expanded
            | (some error, expanded) => (.failed error, expanded)

end Search

/-- The edges from the goal back to the start.  The parent of the goal is the
variable that walks along them. -/
def collectEdges
    (goal : Nat) :
    Nat → (Nat → SearchState F) → List EdgePtr → Option (List EdgePtr)
  | fuel, states, edges =>
      match (states goal).parentEdge with
      | none => some edges
      | some parentEdge =>
          match fuel with
          | 0 => none
          | fuel + 1 =>
              collectEdges goal fuel
                (Function.update states goal
                  { states goal with
                    parentEdge := (states parentEdge.start).parentEdge })
                (edges ++ [parentEdge])

/-- The search of `findShortestGraphTraversal` from fresh search states. -/
def findShortestGraphTraversal
    (queueOps : NodeQueue F)
    (planner : RoutePlanner F)
    (call : RouteCall F Request)
    (startId goalId : UInt32) : SearchEnd × RouteSearch F :=
  traverse queueOps call startId goalId planner.maxIterations
    { states := Function.update (fun _ => {}) call.startIndex
        { integratedCost := (0 : F) }
      queue := queueOps.emplace ⟨0, ⟨call.graphId, call.startIndex⟩⟩
        planner.queue }

/-- The route once the search has come to its end. -/
def routeOf
    (call : RouteCall F Request)
    (states : Nat → SearchState F) : CallResult F :=
  if (states call.goalIndex).parentEdge = none then
    .threw (.noValidRouteCouldBeFound
      "Could not find a route to the requested goal!")
  else
    match collectEdges call.goalIndex call.graph.nodes.length states [] with
    | some edges =>
        .returned
          { startNode := call.startIndex
            edges := edges.reverse
            routeCost := (states call.goalIndex).integratedCost }
    | none => .endless

def findRoute
    (queueOps : NodeQueue F)
    (planner : RoutePlanner F)
    (call : RouteCall F Request) : CallResult F × RoutePlanner F :=
  if call.graph.nodes = [] then
    (.threw (.noValidGraph "Graph is invalid for routing!"), planner)
  else
    match call.graph.nodeid? call.startIndex,
        call.graph.nodeid? call.goalIndex with
    | some startId, some goalId =>
        let (ending, search) :=
          findShortestGraphTraversal queueOps planner call startId goalId
        let after :=
          { planner with startId, goalId, queue := search.queue }
        match ending with
        | .failed error => (.threw error, after)
        | .foreignNode => (.foreignNode, after)
        | .finished => (routeOf call search.states, after)
    | _, _ => (.threw .outOfRange, planner)

end RoutePlanner

end NavBim
