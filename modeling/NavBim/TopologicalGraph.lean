import Mathlib

namespace NavBim

/-!
# The topological map graph

Node and edge records of `topological_map_types.hpp` and the operations of the
Boost adjacency list that stores them.  Numbers are elements of an ordered
field `K`; a cost may also be infinite, so costs live in `WithTop K`.

The graph keeps its vertices in a vector and its edges in one list in the
order of insertion.  The out-edges of a vertex come in that order too, because
Boost appends to the out-edge vector of both ends when an edge is added.
A vertex descriptor is an index into the vertex vector.
-/

/-- A waypoint, `std::array<double, 3>`. -/
abbrev Coords (K : Type) := K × K × K

/-- Node position. -/
structure Position (K : Type) where
  x : K
  y : K
  z : K
  deriving Repr, DecidableEq

/-- The position as an array of coordinates. -/
def Position.coords
    {K : Type}
    (position : Position K) : Coords K :=
  (position.x, position.y, position.z)

/-- Axis-aligned bounding box. -/
structure BoundingBox (K : Type) where
  minX : K
  maxX : K
  minY : K
  maxY : K
  minZ : K
  maxZ : K
  deriving Repr, DecidableEq

/-- A ring of a polygon, `std::vector<Point2D>`. -/
abbrev Ring (K : Type) := List (K × K)

/-- A polygon with an outer ring and holes. -/
structure Polygon (K : Type) where
  outer : Ring K
  inners : List (Ring K)
  deriving Repr, DecidableEq

/-- Node properties of the topological graph. -/
structure NodeProperties (K : Type) where
  id : Int32
  name : String
  type : String
  subtype : Option String
  position : Position K
  ifcGuid : Option String
  minZ : Option K
  maxZ : Option K
  bbox : Option (BoundingBox K)
  polygon : Option (Polygon K)
  floor : Option (List String)
  deriving DecidableEq

/--
Edge properties of the topological graph.  A planned value of `-1` means that
the edge has not been planned, an absent `path` is a null pointer.
-/
structure EdgeProperties (K : Type) where
  id : Int32
  type : String
  subtype : Option String
  estimatedDistance : WithTop K
  plannedDistance : WithTop K
  estimatedCost : WithTop K
  plannedCost : WithTop K
  path : Option (List (Coords K))
  pathFrameId : String
  roomId : Option Int32
  deriving DecidableEq

section Defaults

variable {K : Type} [Field K]

/-- The position `Position()`. -/
def Position.origin : Position K where
  x := 0
  y := 0
  z := 0

/-- The bounding box `BoundingBox()`. -/
def BoundingBox.zero : BoundingBox K where
  minX := 0
  maxX := 0
  minY := 0
  maxY := 0
  minZ := 0
  maxZ := 0

/-- The node properties `NodeProperties()`. -/
def NodeProperties.unset : NodeProperties K where
  id := -1
  name := ""
  type := "unknown"
  subtype := none
  position := Position.origin
  ifcGuid := none
  minZ := none
  maxZ := none
  bbox := none
  polygon := none
  floor := none

/-- The value of a planned distance or cost that has not been planned. -/
def unplanned : WithTop K :=
  ((-1 : K) : WithTop K)

/-- The edge properties `EdgeProperties()`. -/
def EdgeProperties.unset : EdgeProperties K where
  id := -1
  type := "unknown"
  subtype := none
  estimatedDistance := 0
  plannedDistance := unplanned
  estimatedCost := 0
  plannedCost := unplanned
  path := none
  pathFrameId := "ifc"
  roomId := none

instance : Inhabited (NodeProperties K) :=
  ⟨NodeProperties.unset⟩

end Defaults

/-- One entry of the global edge list, with the ends as given to `add_edge`. -/
structure StoredEdge (K : Type) where
  source : Nat
  target : Nat
  properties : EdgeProperties K
  deriving DecidableEq

/-- Change the properties of an edge and keep its ends. -/
def StoredEdge.mapProperties
    {K : Type}
    (change : EdgeProperties K → EdgeProperties K)
    (edge : StoredEdge K) : StoredEdge K :=
  { edge with properties := change edge.properties }

/-- The edge joins `u` and `v`, in either direction. -/
def StoredEdge.joins
    {K : Type}
    (edge : StoredEdge K)
    (u v : Nat) : Bool :=
  (edge.source == u && edge.target == v) ||
    (edge.source == v && edge.target == u)

/--
The topological graph.  Every edge ends at existing vertices, which all
operations below preserve.
-/
@[ext] structure TopologicalGraph (K : Type) where
  vertices : List (NodeProperties K)
  edges : List (StoredEdge K)
  endsValid :
    ∀ edge ∈ edges,
      edge.source < vertices.length ∧
        edge.target < vertices.length

namespace StoredEdge

variable {K : Type}

theorem joins_iff
    {edge : StoredEdge K}
    {u v : Nat} :
    edge.joins u v = true ↔
      (edge.source = u ∧ edge.target = v) ∨
        (edge.source = v ∧ edge.target = u) := by
  simp [joins]

/-- Joining is symmetric in the two ends. -/
theorem joins_comm
    (edge : StoredEdge K)
    (u v : Nat) :
    edge.joins u v = edge.joins v u := by
  simp [joins, Bool.or_comm]

theorem same_pair_of_joins
    {edge : StoredEdge K}
    {u v a b : Nat}
    (first : edge.joins u v = true)
    (second : edge.joins a b = true) :
    (u = a ∧ v = b) ∨ (u = b ∧ v = a) := by
  rw [joins_iff] at first second
  omega

end StoredEdge

/-- Apply a change to the first list element that satisfies a test. -/
def modifyFirst
    {α : Type}
    (test : α → Bool)
    (change : α → α) : List α → List α
  | [] => []
  | item :: rest =>
      if test item then
        change item :: rest
      else
        item :: modifyFirst test change rest

section ModifyFirst

variable {α : Type}

/-- A projection that the change respects is not affected. -/
theorem map_modifyFirst
    {β : Type}
    (test : α → Bool)
    (change : α → α)
    (project : α → β)
    (keeps : ∀ item, project (change item) = project item)
    (items : List α) :
    (modifyFirst test change items).map project =
      items.map project := by
  induction items with
  | nil =>
      rfl
  | cons item rest inductionHypothesis =>
      simp only [modifyFirst]
      split <;> simp [keeps, inductionHypothesis]

section

variable
  {test : α → Bool}
  {change : α → α}
  {items : List α}
  {item : α}
  (member : item ∈ modifyFirst test change items)

include member

/-- Every element of the result is an old element or the changed first match. -/
theorem mem_modifyFirst_find :
    item ∈ items ∨
      ∃ old, items.find? test = some old ∧ item = change old := by
  induction items with
  | nil =>
      simp [modifyFirst] at member
  | cons head rest inductionHypothesis =>
      simp only [modifyFirst] at member
      split at member
      · rename_i matched
        rcases List.mem_cons.mp member with isHead | inRest
        · exact Or.inr ⟨head, by simp [matched], isHead⟩
        · exact Or.inl (by simp [inRest])
      · rename_i unmatched
        rcases List.mem_cons.mp member with isHead | inRest
        · exact Or.inl (by simp [isHead])
        · rcases inductionHypothesis inRest with old | ⟨old, found, same⟩
          · exact Or.inl (by simp [old])
          · exact Or.inr ⟨old, by simp [unmatched, found], same⟩

theorem mem_modifyFirst :
    item ∈ items ∨
      ∃ old ∈ items, test old = true ∧ item = change old := by
  rcases mem_modifyFirst_find member with old | ⟨old, found, same⟩
  · exact Or.inl old
  · exact Or.inr
      ⟨old, List.mem_of_find?_eq_some found, List.find?_some found, same⟩

end

/-- Searching with the same test finds the changed element. -/
theorem find?_modifyFirst_same
    (test : α → Bool)
    (change : α → α)
    (keeps : ∀ item, test item = true → test (change item) = true)
    (items : List α) :
    (modifyFirst test change items).find? test =
      (items.find? test).map change := by
  induction items with
  | nil =>
      rfl
  | cons item rest inductionHypothesis =>
      by_cases matched : test item = true
      · simp [modifyFirst, matched, keeps item matched]
      · simp [modifyFirst, matched, inductionHypothesis]

/-- Searching with a test that excludes the changed elements is unaffected. -/
theorem find?_modifyFirst_other
    (test other : α → Bool)
    (change : α → α)
    (excludes :
      ∀ item, test item = true →
        other item = false ∧ other (change item) = false)
    (items : List α) :
    (modifyFirst test change items).find? other =
      items.find? other := by
  induction items with
  | nil =>
      rfl
  | cons item rest inductionHypothesis =>
      by_cases matched : test item = true
      · simp [modifyFirst, matched, excludes item matched]
      · simp only [modifyFirst, matched, Bool.false_eq_true, ↓reduceIte,
          List.find?_cons, inductionHypothesis]

end ModifyFirst

namespace TopologicalGraph

variable {K : Type}

/-- The graph without vertices. -/
def empty : TopologicalGraph K where
  vertices := []
  edges := []
  endsValid := by simp

/-- `boost::num_vertices`. -/
def numVertices
    (graph : TopologicalGraph K) : Nat :=
  graph.vertices.length

/-- Vertex properties, `graph[v]`. -/
def node
    [Field K]
    (graph : TopologicalGraph K)
    (vertex : Nat) : NodeProperties K :=
  graph.vertices.getD vertex default

/-- `boost::edge(u, v, graph)`: the first edge between the two vertices. -/
def edge?
    (graph : TopologicalGraph K)
    (u v : Nat) : Option (StoredEdge K) :=
  graph.edges.find? (fun edge => edge.joins u v)

/--
Targets of `boost::out_edges(u, graph)`, which is also the range
`boost::adjacent_vertices(u, graph)`.  A self-loop appears twice, as in the
out-edge vector of an undirected graph.
-/
def outTargets
    (graph : TopologicalGraph K)
    (u : Nat) : List Nat :=
  graph.edges.flatMap (fun edge =>
    (if edge.source = u then [edge.target] else []) ++
      (if edge.target = u then [edge.source] else []))

/-- Change the properties of the edge that `boost::edge(u, v, graph)` finds. -/
def modifyEdge
    (graph : TopologicalGraph K)
    (u v : Nat)
    (change : EdgeProperties K → EdgeProperties K) :
    TopologicalGraph K where
  vertices := graph.vertices
  edges :=
    modifyFirst (fun edge => edge.joins u v)
      (StoredEdge.mapProperties change) graph.edges
  endsValid := by
    intro edge member
    rcases mem_modifyFirst member with old | ⟨old, inOld, -, same⟩
    · exact graph.endsValid edge old
    · subst same
      exact graph.endsValid old inOld

/-- `boost::add_vertex` followed by setting the new vertex's properties. -/
def addVertex
    (graph : TopologicalGraph K)
    (properties : NodeProperties K) :
    TopologicalGraph K where
  vertices := graph.vertices ++ [properties]
  edges := graph.edges
  endsValid := by
    intro edge member
    have valid := graph.endsValid edge member
    simp only [List.length_append, List.length_singleton]
    omega

/--
`boost::add_edge` followed by setting the new edge's properties.  The vertex
vector is enlarged when an end lies beyond it, and parallel edges are allowed,
so the insertion always succeeds.
-/
def addEdge
    [Field K]
    (graph : TopologicalGraph K)
    (u v : Nat)
    (properties : EdgeProperties K) :
    TopologicalGraph K where
  vertices :=
    graph.vertices ++
      List.replicate (max u v + 1 - graph.vertices.length) default
  edges := graph.edges ++ [⟨u, v, properties⟩]
  endsValid := by
    intro edge member
    simp only [List.length_append, List.length_replicate]
    rcases List.mem_append.mp member with old | new
    · have valid := graph.endsValid edge old
      omega
    · rw [List.mem_singleton] at new
      subst new
      simp only
      omega

/-- `boost::clear_vertex`: drop every edge at the vertex. -/
def clearVertex
    (graph : TopologicalGraph K)
    (vertex : Nat) :
    TopologicalGraph K where
  vertices := graph.vertices
  edges :=
    graph.edges.filter (fun edge =>
      decide (edge.source ≠ vertex ∧ edge.target ≠ vertex))
  endsValid := by
    intro edge member
    exact graph.endsValid edge (List.mem_of_mem_filter member)

/-- Descriptors above a removed vertex move down by one. -/
def shiftDown
    (removed vertex : Nat) : Nat :=
  if removed < vertex then vertex - 1 else vertex

/--
`boost::clear_vertex` and `boost::remove_vertex` of an existing vertex: the
vertex vector closes the gap and all later descriptors shift.
-/
def removeVertex
    (graph : TopologicalGraph K)
    (vertex : Nat) :
    TopologicalGraph K where
  vertices := graph.vertices.eraseIdx vertex
  edges :=
    (graph.clearVertex vertex).edges.map (fun edge =>
      { edge with
        source := shiftDown vertex edge.source
        target := shiftDown vertex edge.target })
  endsValid := by
    intro edge member
    obtain ⟨old, inOld, same⟩ := List.mem_map.mp member
    have valid := (graph.clearVertex vertex).endsValid old inOld
    have apart := List.of_mem_filter inOld
    simp only [decide_eq_true_eq] at apart
    subst same
    have bound :
        (graph.clearVertex vertex).vertices.length =
          graph.vertices.length := rfl
    simp only [shiftDown, List.length_eraseIdx]
    split <;> split <;> split <;> omega

section Adjacency

theorem edge?_eq_some
    {graph : TopologicalGraph K}
    {u v : Nat}
    {edge : StoredEdge K}
    (found : graph.edge? u v = some edge) :
    edge ∈ graph.edges ∧ edge.joins u v = true :=
  ⟨List.mem_of_find?_eq_some found,
    by simpa using List.find?_some found⟩

/-- The edge lookup does not depend on the order of the ends. -/
theorem edge?_comm
    (graph : TopologicalGraph K)
    (u v : Nat) :
    graph.edge? u v = graph.edge? v u := by
  unfold edge?
  congr 1
  funext edge
  exact edge.joins_comm u v

section

variable
  {graph : TopologicalGraph K}
  {u v : Nat}

/-- The neighbours of a vertex are the other ends of its edges. -/
theorem mem_outTargets :
    v ∈ graph.outTargets u ↔
      ∃ edge ∈ graph.edges, edge.joins u v = true := by
  simp only [outTargets, List.mem_flatMap, List.mem_append,
    StoredEdge.joins_iff]
  refine exists_congr fun edge => and_congr_right fun _ => ?_
  split <;> split <;> simp_all <;> tauto

theorem mem_outTargets_comm :
    v ∈ graph.outTargets u ↔ u ∈ graph.outTargets v := by
  simp only [mem_outTargets]
  refine exists_congr fun edge => and_congr_right fun _ => ?_
  rw [edge.joins_comm]

/-- An edge is found between two vertices exactly when they are adjacent. -/
theorem edge?_isSome_iff :
    (graph.edge? u v).isSome = true ↔ v ∈ graph.outTargets u := by
  rw [mem_outTargets, edge?, List.find?_isSome]

/-- Neighbours are existing vertices. -/
theorem lt_of_mem_outTargets
    (adjacent : v ∈ graph.outTargets u) :
    u < graph.numVertices ∧ v < graph.numVertices := by
  obtain ⟨edge, member, joined⟩ := mem_outTargets.mp adjacent
  have valid := graph.endsValid edge member
  rw [StoredEdge.joins_iff] at joined
  unfold numVertices
  omega

end

theorem outTargets_congr
    {first second : TopologicalGraph K}
    (sameEnds :
      first.edges.map (fun edge => (edge.source, edge.target)) =
        second.edges.map (fun edge => (edge.source, edge.target)))
    (vertex : Nat) :
    first.outTargets vertex = second.outTargets vertex := by
  have throughEnds
      (edges : List (StoredEdge K)) :
      edges.flatMap (fun edge =>
          (if edge.source = vertex then [edge.target] else []) ++
            (if edge.target = vertex then [edge.source] else [])) =
        (edges.map (fun edge => (edge.source, edge.target))).flatMap
          (fun ends =>
            (if ends.1 = vertex then [ends.2] else []) ++
              (if ends.2 = vertex then [ends.1] else [])) := by
    rw [List.flatMap_map]
  unfold outTargets
  rw [throughEnds, throughEnds, sameEnds]

end Adjacency

section ModifyEdge

variable
  (graph : TopologicalGraph K)
  (u v : Nat)
  (change : EdgeProperties K → EdgeProperties K)

@[simp] theorem numVertices_modifyEdge :
    (graph.modifyEdge u v change).numVertices = graph.numVertices :=
  rfl

@[simp] theorem vertices_modifyEdge :
    (graph.modifyEdge u v change).vertices = graph.vertices :=
  rfl

@[simp] theorem node_modifyEdge
    [Field K]
    (vertex : Nat) :
    (graph.modifyEdge u v change).node vertex = graph.node vertex :=
  rfl

theorem ends_modifyEdge :
    (graph.modifyEdge u v change).edges.map
        (fun edge => (edge.source, edge.target)) =
      graph.edges.map (fun edge => (edge.source, edge.target)) :=
  map_modifyFirst _ (StoredEdge.mapProperties change) _
    (fun _ => rfl) _

@[simp] theorem outTargets_modifyEdge
    (vertex : Nat) :
    (graph.modifyEdge u v change).outTargets vertex =
      graph.outTargets vertex :=
  outTargets_congr (graph.ends_modifyEdge u v change) vertex

/-- The changed edge is found with its new properties. -/
theorem edge?_modifyEdge_same :
    (graph.modifyEdge u v change).edge? u v =
      (graph.edge? u v).map (StoredEdge.mapProperties change) := by
  apply find?_modifyFirst_same
  intro edge joined
  exact joined

/-- Lookups of other pairs of vertices are not affected. -/
theorem edge?_modifyEdge_other
    {a b : Nat}
    (apart : ¬((a = u ∧ b = v) ∨ (a = v ∧ b = u))) :
    (graph.modifyEdge u v change).edge? a b =
      graph.edge? a b := by
  apply find?_modifyFirst_other
  intro edge joined
  have notJoined : edge.joins a b = false := by
    by_contra joinsOther
    rw [Bool.not_eq_false] at joinsOther
    exact apart (edge.same_pair_of_joins joinsOther joined)
  exact ⟨notJoined, notJoined⟩

end ModifyEdge

section Building

variable [Field K]

/-- An edge between existing vertices does not enlarge the vertex vector. -/
theorem vertices_addEdge
    {graph : TopologicalGraph K}
    {u v : Nat}
    (sourceLt : u < graph.numVertices)
    (targetLt : v < graph.numVertices)
    (properties : EdgeProperties K) :
    (graph.addEdge u v properties).vertices = graph.vertices := by
  have enough : max u v + 1 - graph.vertices.length = 0 := by
    simp only [numVertices] at sourceLt targetLt
    omega
  simp [addEdge, enough]

theorem foldlM_addEdge
    {α : Type}
    {step : TopologicalGraph K → α → Option (TopologicalGraph K)}
    {items : List α}
    {edges : List (StoredEdge K)}
    (adds :
      List.Forall₂ (fun item edge =>
        ∀ graph,
          step graph item =
            some (graph.addEdge edge.source edge.target edge.properties))
        items edges) :
    ∀ graph : TopologicalGraph K,
      (∀ edge ∈ edges,
        edge.source < graph.numVertices ∧
          edge.target < graph.numVertices) →
      ∃ built,
        items.foldlM step graph = some built ∧
          built.vertices = graph.vertices ∧
          built.edges = graph.edges ++ edges := by
  induction adds with
  | nil =>
      intro graph _
      exact ⟨graph, rfl, rfl, by simp⟩
  | @cons item edge items edges isAdded _ inductionHypothesis =>
      intro graph bounded
      have edgeBound := bounded edge (by simp)
      have sameVertices :=
        vertices_addEdge edgeBound.1 edgeBound.2 edge.properties
      obtain ⟨built, isBuilt, vertices, newEdges⟩ :=
        inductionHypothesis
          (graph.addEdge edge.source edge.target edge.properties)
          (by
            intro later member
            rw [numVertices, sameVertices]
            exact bounded later (by simp [member]))
      refine ⟨built, ?_, vertices.trans sameVertices, ?_⟩
      · simp [List.foldlM_cons, isAdded graph, isBuilt]
      · rw [newEdges]
        simp [addEdge]

end Building

end TopologicalGraph

section Ids

variable {K : Type}

/-- All node ids are different. -/
def DistinctIds
    (graph : TopologicalGraph K) : Prop :=
  (graph.vertices.map NodeProperties.id).Nodup

theorem DistinctIds.vertex_eq
    [Field K]
    {graph : TopologicalGraph K}
    (distinct : DistinctIds graph)
    {u v : Nat}
    (uInGraph : u < graph.numVertices)
    (vInGraph : v < graph.numVertices)
    (sameId : (graph.node u).id = (graph.node v).id) :
    u = v := by
  have idAt
      {vertex : Nat}
      (inGraph : vertex < graph.numVertices) :
      (graph.vertices.map NodeProperties.id)[vertex]? =
        some (graph.node vertex).id := by
    have inList : vertex < graph.vertices.length := inGraph
    simp [TopologicalGraph.node, inList]
  refine (List.getElem?_inj ?_ distinct).mp ?_
  · rw [List.length_map]
    exact uInGraph
  · rw [idAt uInGraph, idAt vInGraph, sameId]

end Ids

end NavBim
