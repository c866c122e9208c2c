import Mathlib.Data.List.Basic

namespace NavBim

/-!
# The route graph

Nodes own the edges that leave them.  A pointer to a node is its place in the
graph, and a pointer to an edge is its node with its place among the edges of
the node.  Nodes and edges carry metadata and operations from the graph file.

`F` stands for the single precision numbers of the program.
-/

/-- A value of the metadata that is neither an array nor metadata itself. -/
inductive MetadataPrimitive (F : Type) where
  | string (value : String)
  | int (value : Int32)
  | unsigned (value : UInt32)
  | float (value : F)
  | bool (value : Bool)
  deriving DecidableEq

inductive MetadataValue (F : Type) where
  | primitive (value : MetadataPrimitive F)
  | array (values : List (MetadataPrimitive F))
  | metadata (data : List (String × MetadataValue F))

/-- Values by key.  The order of the entries does not matter. -/
structure Metadata (F : Type) where
  data : List (String × MetadataValue F) := []

inductive OperationTrigger where
  | node
  | onEnter
  | onExit
  deriving DecidableEq, Repr

structure Operation (F : Type) where
  type : String
  trigger : OperationTrigger
  metadata : Metadata F

structure EdgeCost (F : Type) where
  cost : F
  overridable : Bool
  deriving DecidableEq

structure DirectionalEdge (F : Type) where
  edgeid : UInt32
  endNode : Nat
  edgeCost : EdgeCost F
  metadata : Metadata F := {}
  operations : List (Operation F) := []

structure Coordinates (F : Type) where
  frameId : String
  x : F
  y : F
  deriving DecidableEq

structure RouteNode (F : Type) where
  nodeid : UInt32
  coords : Coordinates F
  neighbors : List (DirectionalEdge F)
  metadata : Metadata F := {}
  operations : List (Operation F) := []

/-- The nodes in their order.  Every edge ends at one of them. -/
structure RouteGraph (F : Type) where
  nodes : List (RouteNode F)
  endsInside : ∀ node ∈ nodes, ∀ edge ∈ node.neighbors,
    edge.endNode < nodes.length

structure EdgePtr where
  start : Nat
  edgeNum : Nat
  deriving DecidableEq, Repr

namespace RouteGraph

variable {F : Type}

variable
  (graph : RouteGraph F)

def getEdges
    (index : Nat) : List (DirectionalEdge F) :=
  (graph.nodes[index]?).elim [] RouteNode.neighbors

def edge?
    (edge : EdgePtr) : Option (DirectionalEdge F) :=
  (graph.getEdges edge.start)[edge.edgeNum]?

def nodeid?
    (index : Nat) : Option UInt32 :=
  (graph.nodes[index]?).map RouteNode.nodeid

variable
  {edge : DirectionalEdge F}

theorem endNode_lt
    {pointer : EdgePtr}
    (found : graph.edge? pointer = some edge) :
    edge.endNode < graph.nodes.length := by
  rw [edge?, getEdges] at found
  cases held : graph.nodes[pointer.start]? with
  | none =>
      rw [held] at found
      exact nomatch found
  | some node =>
      rw [held] at found
      exact
        graph.endsInside node (List.mem_of_getElem? held) edge
          (List.mem_of_getElem? found)

theorem edge_of_drop
    {node edgeNum : Nat}
    {rest : List (DirectionalEdge F)}
    (remaining : edge :: rest = (graph.getEdges node).drop edgeNum) :
    graph.edge? ⟨node, edgeNum⟩ = some edge ∧
      rest = (graph.getEdges node).drop (edgeNum + 1) := by
  constructor
  · rw [edge?, ← List.head?_drop, ← remaining, List.head?_cons]
  · rw [← List.tail_drop, ← remaining, List.tail_cons]

theorem start_lt
    {pointer : EdgePtr}
    (found : graph.edge? pointer = some edge) :
    pointer.start < graph.nodes.length := by
  rw [edge?, getEdges] at found
  by_contra outside
  rw [List.getElem?_eq_none (Nat.not_lt.mp outside)] at found
  exact nomatch found

end RouteGraph

end NavBim
