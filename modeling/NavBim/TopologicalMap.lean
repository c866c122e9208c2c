import NavBim.TopologicalGraph

namespace NavBim

/-!
# The map object of the planner

`TopologicalMap` wraps the graph with lookups by id and name, the largest ids
and the set of floor vertices.  All of these are recomputed from the graph
after loading.
-/

/-- `std::to_string` of an `int`. -/
def idString
    (id : Int32) : String :=
  toString id.toInt

/-- The members of class `TopologicalMap` that are derived from the graph. -/
structure TopologicalMap (K : Type) where
  graph : TopologicalGraph K
  idToVertex : String → Option Nat
  nameToVertex : String → Option Nat
  maxNodeId : Int32
  maxEdgeId : Int32
  floorVertices : Finset Nat

namespace TopologicalMap

variable {K : Type}

/-- The map after construction or `clear`. -/
def empty : TopologicalMap K where
  graph := TopologicalGraph.empty
  idToVertex := fun _ => none
  nameToVertex := fun _ => none
  maxNodeId := -1
  maxEdgeId := -1
  floorVertices := ∅

/-- `buildLookupMaps`: a later vertex replaces an earlier one. -/
def buildLookupMaps
    (graph : TopologicalGraph K) :
    (String → Option Nat) × (String → Option Nat) :=
  graph.vertices.zipIdx.foldl
    (fun lookups indexed =>
      (Function.update lookups.1 (idString indexed.1.id) (some indexed.2),
        if indexed.1.name.isEmpty then
          lookups.2
        else
          Function.update lookups.2 indexed.1.name (some indexed.2)))
    (fun _ => none, fun _ => none)

/-- The largest id of a list, at least `-1`. -/
def largestId
    (ids : List Int32) : Int32 :=
  ids.foldl (fun largest id => if largest < id then id else largest) (-1)

/-- Vertices of type floor. -/
def floorVerticesOf
    (graph : TopologicalGraph K) : Finset Nat :=
  ((graph.vertices.zipIdx.filter fun indexed =>
    indexed.1.type == "floor").map Prod.snd).toFinset

/-- A graph with its lookups and caches. -/
def ofGraph
    (graph : TopologicalGraph K) : TopologicalMap K where
  graph := graph
  idToVertex := (buildLookupMaps graph).1
  nameToVertex := (buildLookupMaps graph).2
  maxNodeId := largestId (graph.vertices.map NodeProperties.id)
  maxEdgeId :=
    largestId (graph.edges.map fun edge => edge.properties.id)
  floorVertices := floorVerticesOf graph

/-- `findVertexById`. -/
def findVertexById
    (topologicalMap : TopologicalMap K)
    (nodeId : String) : Option Nat :=
  topologicalMap.idToVertex nodeId

/-- `findVertexByName`. -/
def findVertexByName
    (topologicalMap : TopologicalMap K)
    (nodeName : String) : Option Nat :=
  topologicalMap.nameToVertex nodeName

end TopologicalMap

end NavBim
