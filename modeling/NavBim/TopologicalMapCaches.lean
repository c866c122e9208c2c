import NavBim.EventRun
import NavBim.OptionalFolds
import NavBim.PathOrientationRun
import NavBim.TopomapReplica

namespace NavBim

/-!
# Caches of the map object

Loading a message builds five caches of the graph: two lookups, two largest
ids and the set of floor vertices.  `clear` empties all of them but the last,
and a load that fails part of the way ends with `clear`.

So the set of floor vertices outlives its graph.  The module says after which
calls the caches describe the graph.
-/

section Calls

variable {K : Type}

/-- The calls that change a map object. -/
inductive MapCall (K : Type) where
  | loadFromMessage (topomap : Topomap K)
  | clear

/-- A map object and the message that its graph was made from, if any. -/
structure LoadedMap (K : Type) where
  topologicalMap : TopologicalMap K
  loaded : Option (Topomap K)

/-- The map object after construction. -/
def LoadedMap.constructed : LoadedMap K where
  topologicalMap := TopologicalMap.empty
  loaded := none

/-- One call. -/
def LoadedMap.call
    [DecidableEq K] [Field K]
    (state : LoadedMap K) : MapCall K → LoadedMap K
  | .loadFromMessage topomap =>
      let result := state.topologicalMap.loadFromMessage topomap
      { topologicalMap := result.2
        loaded := if result.1 then some topomap else none }
  | .clear =>
      { topologicalMap := state.topologicalMap.clear
        loaded := none }

end Calls

section Specification

variable {K : Type}

/-- The only index at which a list has a value. -/
def IsOnly
    {α : Type}
    (items : List α)
    (item : α)
    (index : Nat) : Prop :=
  items[index]? = some item ∧
    ∀ other ≠ index, items[other]? ≠ some item

/-- The largest id, or `-1` if there is none. -/
def IsMaxId
    (ids : List Int32)
    (largest : Int32) : Prop :=
  if ids = [] then
    largest = -1
  else
    largest ∈ ids ∧ ∀ id ∈ ids, id ≤ largest

theorem isMaxId_nil :
    IsMaxId [] (-1) := by
  simp [IsMaxId]

/-- The ids of a message's nodes, as texts. -/
def nodeIds
    (topomap : Topomap K) : List String :=
  topomap.nodes.map TopomapNode.id

/-- The caches say about the graph what they are meant to say. -/
structure CachesDescribe
    (state : LoadedMap K) : Prop where
  floorVertices :
    ∀ vertex,
      vertex ∈ state.topologicalMap.floorVertices ↔
        ∃ node,
          state.topologicalMap.graph.vertices[vertex]? = some node ∧
            node.type = "floor"
  maxNodeId :
    IsMaxId (state.topologicalMap.graph.vertices.map NodeProperties.id)
      state.topologicalMap.maxNodeId
  maxEdgeId :
    IsMaxId
      (state.topologicalMap.graph.edges.map fun edge => edge.properties.id)
      state.topologicalMap.maxEdgeId
  /-- Nodes become vertices in the order of the message. -/
  idToVertex :
    ∀ topomap ∈ state.loaded, ∀ nodeId vertex,
      IsOnly (nodeIds topomap) nodeId vertex →
        state.topologicalMap.findVertexById nodeId = some vertex

/-- The edges of a message that join two of its nodes. -/
def joinedEdges
    (topomap : Topomap K) : List (TopomapEdge K) :=
  topomap.edges.filter fun edge =>
    edge.source ∈ nodeIds topomap ∧ edge.target ∈ nodeIds topomap

/-- All ids that are read are numbers. -/
structure Readable
    (topomap : Topomap K) : Prop where
  nodes : ∀ node ∈ topomap.nodes, stoi node.id ≠ none
  edges :
    ∀ edge ∈ joinedEdges topomap,
      stoi edge.id ≠ none ∧
        (edge.roomId ≠ "" → stoi edge.roomId ≠ none)

/-- There are no ids, or one of them is at least `-1`. -/
def ReachesMinusOne
    (ids : List String) : Prop :=
  ids = [] ∨ ∃ text ∈ ids, ∃ id ∈ stoi text, -1 ≤ id

/-- What a message has to be like for the caches of its graph. -/
structure FitsCaches
    (topomap : Topomap K) : Prop where
  maxNodeId : ReachesMinusOne (nodeIds topomap)
  maxEdgeId : ReachesMinusOne ((joinedEdges topomap).map TopomapEdge.id)
  /-- An id is written as the lookup writes it, and no later one is equal. -/
  idToVertex :
    ∀ nodeId vertex,
      IsOnly (nodeIds topomap) nodeId vertex →
        ∃ id,
          idString id = nodeId ∧
            IsLast ((nodeIds topomap).map stoi) (some id) vertex

/-- What a call needs for the caches to describe the graph afterwards. -/
def KeepsCaches
    (state : LoadedMap K) : MapCall K → Prop
  | .loadFromMessage topomap =>
      (Readable topomap → FitsCaches topomap) ∧
        (¬ Readable topomap → state.topologicalMap.floorVertices = ∅)
  | .clear => state.topologicalMap.floorVertices = ∅

end Specification

namespace TopologicalMap

variable {K : Type}

theorem largestId_append
    (ids : List Int32)
    (last : Int32) :
    largestId (ids ++ [last]) =
      if largestId ids < last then last else largestId ids := by
  rw [largestId, List.foldl_append]
  rfl

theorem largestId_cases
    (ids : List Int32) :
    -1 ≤ largestId ids ∧ (largestId ids = -1 ∨ largestId ids ∈ ids) := by
  induction ids using List.reverseRecOn with
  | nil =>
      exact ⟨Int32.le_refl _, Or.inl rfl⟩
  | append_singleton ids last inductionHypothesis =>
      obtain ⟨bound, isFound⟩ := inductionHypothesis
      rw [largestId_append]
      split
      · rename_i smaller
        refine ⟨Int32.le_trans bound (Int32.le_of_lt smaller), Or.inr ?_⟩
        exact List.mem_append_right _ List.mem_cons_self
      · refine ⟨bound, isFound.imp_right ?_⟩
        exact List.mem_append_left _

/-- The search finds the largest id if it is not below the start. -/
theorem isMaxId_largestId_iff
    (ids : List Int32) :
    IsMaxId ids (largestId ids) ↔ ids = [] ∨ ∃ id ∈ ids, -1 ≤ id := by
  rw [IsMaxId]
  split
  · rename_i noIds
    subst noIds
    exact iff_of_true rfl (Or.inl rfl)
  · rename_i someIds
    obtain ⟨bound, isFound⟩ := largestId_cases ids
    constructor
    · rintro ⟨member, -⟩
      exact Or.inr ⟨_, member, bound⟩
    · intro reaches
      obtain ⟨id, member, notBelow⟩ := reaches.resolve_left someIds
      refine ⟨?_, fun other => le_largestId⟩
      cases isFound with
      | inl isStart =>
          have above : id ≤ -1 := isStart ▸ le_largestId member
          rw [isStart, Int32.le_antisymm notBelow above]
          exact member
      | inr found =>
          exact found

theorem mem_floorVerticesOf_iff
    (graph : TopologicalGraph K)
    (vertex : Nat) :
    vertex ∈ floorVerticesOf graph ↔
      ∃ node,
        graph.vertices[vertex]? = some node ∧ node.type = "floor" := by
  simp [floorVerticesOf, List.mem_zipIdx_iff_getElem?]

theorem findVertexById_eq_some_iff
    (graph : TopologicalGraph K)
    (nodeId : String)
    (vertex : Nat) :
    (ofGraph graph).findVertexById nodeId = some vertex ↔
      IsLast (graph.vertices.map fun node => idString node.id)
        nodeId vertex := by
  simp only [findVertexById, ofGraph, buildLookupMaps]
  induction graph.vertices using List.reverseRecOn generalizing vertex with
  | nil =>
      simp [IsLast]
  | append_singleton vertices last inductionHypothesis =>
      simp only [List.zipIdx_append, List.zipIdx_singleton,
        List.foldl_append, List.foldl_cons, List.foldl_nil, Nat.zero_add,
        List.map_append, List.map_cons, List.map_nil]
      by_cases isId : idString last.id = nodeId
      · subst isId
        rw [Function.update_self, isLast_append_same, Option.some_inj,
          List.length_map]
        exact eq_comm
      · rw [Function.update_of_ne (Ne.symm isId), inductionHypothesis,
          isLast_append_other isId]

end TopologicalMap

section Reading

variable {K : Type} [DecidableEq K] [Field K]

theorem isSome_readNodeMsg
    (msg : TopomapNode K) :
    (readNodeMsg msg).isSome ↔ stoi msg.id ≠ none := by
  rw [readNodeMsg, Option.isSome_iff_ne_none]
  cases stoi msg.id with
  | none =>
      simp
  | some id =>
      simp

omit [DecidableEq K] [Field K] in
theorem isSome_readEdgeMsg
    (msg : TopomapEdge K) :
    (readEdgeMsg msg).isSome ↔
      stoi msg.id ≠ none ∧ (msg.roomId ≠ "" → stoi msg.roomId ≠ none) := by
  rw [readEdgeMsg]
  cases stoi msg.id with
  | none =>
      simp
  | some id =>
      by_cases noRoom : msg.roomId = ""
      · simp [noRoom]
      · cases stoi msg.roomId with
        | none =>
            simp [noRoom]
        | some room =>
            simp [noRoom]

/-- What the nodes of a message leave behind. -/
structure NodesReceived
    (nodes : List (TopomapNode K))
    (received : ReceivedNodes K) : Prop where
  vertices :
    List.Forall₂ (fun msg props => readNodeMsg msg = some props)
      nodes received.graph.vertices
  edges : received.graph.edges = []
  known :
    ∀ text,
      (received.idMap text).isSome ↔ text ∈ nodes.map TopomapNode.id
  bounded :
    ∀ text vertex,
      received.idMap text = some vertex →
        vertex < received.graph.numVertices

theorem NodesReceived.receiveNode
    {nodes : List (TopomapNode K)}
    {received next : ReceivedNodes K}
    {msg : TopomapNode K}
    (before : NodesReceived nodes received)
    (isNext : NavBim.receiveNode received msg = some next) :
    NodesReceived (nodes ++ [msg]) next := by
  obtain ⟨props, reads, isNext⟩ := Option.bind_eq_some_iff.mp isNext
  rw [← Option.some.inj isNext]
  constructor
  · exact List.rel_append before.vertices (.cons reads .nil)
  · exact before.edges
  · intro text
    simp only [Function.update_apply, List.map_append, List.mem_append]
    split
    · rename_i same
      simp [same]
    · rename_i other
      simp [before.known, other]
  · intro text vertex isVertex
    simp only [Function.update_apply] at isVertex
    simp only [TopologicalGraph.numVertices, TopologicalGraph.addVertex,
      List.length_append, List.length_singleton]
    split at isVertex
    · rw [← Option.some.inj isVertex]
      exact Nat.lt_succ_self _
    · exact Nat.lt_succ_of_lt (before.bounded text vertex isVertex)

theorem nodesReceived_foldlM
    {nodes : List (TopomapNode K)}
    {received : ReceivedNodes K}
    (isReceived :
      nodes.foldlM receiveNode ⟨TopologicalGraph.empty, fun _ => none⟩ =
        some received) :
    NodesReceived nodes received := by
  induction nodes using List.reverseRecOn generalizing received with
  | nil =>
      rw [← Option.some.inj isReceived]
      exact ⟨.nil, rfl, by simp, by simp⟩
  | append_singleton nodes msg inductionHypothesis =>
      rw [List.foldlM_append] at isReceived
      obtain ⟨before, isBefore, isNext⟩ :=
        Option.bind_eq_some_iff.mp isReceived
      have isNext : receiveNode before msg = some received := by
        simpa using isNext
      exact (inductionHypothesis isBefore).receiveNode isNext

variable
  {idMap : String → Option Nat}

omit [DecidableEq K] in
/-- Edges are read if both of their ends are known. -/
theorem isSome_foldlM_receiveEdge_iff
    (msgs : List (TopomapEdge K))
    (graph : TopologicalGraph K) :
    (msgs.foldlM (receiveEdge idMap) graph).isSome ↔
      ∀ msg ∈ msgs,
        (idMap msg.source).isSome ∧ (idMap msg.target).isSome →
          (readEdgeMsg msg).isSome := by
  refine isSome_foldlM_iff (fun built msg => ?_) msgs graph
  rw [receiveEdge]
  cases idMap msg.source with
  | none =>
      simp
  | some u =>
      cases idMap msg.target with
      | none =>
          simp
      | some v =>
          simp

omit [DecidableEq K] in
theorem edgesReceived_foldlM
    {before after : TopologicalGraph K}
    {msgs : List (TopomapEdge K)}
    (bounded :
      ∀ text vertex, idMap text = some vertex → vertex < before.numVertices)
    (noEdges : before.edges = [])
    (isReceived : msgs.foldlM (receiveEdge idMap) before = some after) :
    after.vertices = before.vertices ∧
      List.Forall₂ (fun msg edge => readEdgeMsg msg = some edge.properties)
        (msgs.filter fun msg =>
          (idMap msg.source).isSome && (idMap msg.target).isSome)
        after.edges := by
  induction msgs using List.reverseRecOn generalizing after with
  | nil =>
      rw [← Option.some.inj isReceived, noEdges]
      exact ⟨rfl, .nil⟩
  | append_singleton msgs msg inductionHypothesis =>
      rw [List.foldlM_append] at isReceived
      obtain ⟨built, isBuilt, isNext⟩ :=
        Option.bind_eq_some_iff.mp isReceived
      obtain ⟨sameVertices, edges⟩ := inductionHypothesis isBuilt
      have isNext : receiveEdge idMap built msg = some after := by
        simpa using isNext
      rw [List.filter_append]
      unfold receiveEdge at isNext
      split at isNext
      · rename_i u v isSource isTarget
        obtain ⟨props, reads, isAdded⟩ := Option.map_eq_some_iff.mp isNext
        have sameSize : built.numVertices = before.numVertices :=
          congrArg List.length sameVertices
        rw [← isAdded, List.filter_cons_of_pos (by simp [isSource, isTarget])]
        constructor
        · rw [TopologicalGraph.vertices_addEdge
            (by rw [sameSize]; exact bounded _ _ isSource)
            (by rw [sameSize]; exact bounded _ _ isTarget)]
          exact sameVertices
        · exact List.rel_append edges (.cons reads .nil)
      · rename_i unknown
        rw [← Option.some.inj isNext, List.filter_cons_of_neg ?_]
        · simpa using ⟨sameVertices, edges⟩
        · intro known
          rw [Bool.and_eq_true, Option.isSome_iff_exists,
            Option.isSome_iff_exists] at known
          obtain ⟨⟨u, isSource⟩, v, isTarget⟩ := known
          exact unknown u v isSource isTarget

/-- The graph has the nodes and the joined edges of the message. -/
structure GraphOf
    (topomap : Topomap K)
    (graph : TopologicalGraph K) : Prop where
  vertices :
    List.Forall₂ (fun msg props => readNodeMsg msg = some props)
      topomap.nodes graph.vertices
  edges :
    List.Forall₂ (fun msg edge => readEdgeMsg msg = some edge.properties)
      (joinedEdges topomap) graph.edges

omit [DecidableEq K] [Field K] in
theorem joinedEdges_eq
    {topomap : Topomap K}
    (known : ∀ text, (idMap text).isSome ↔ text ∈ nodeIds topomap) :
    joinedEdges topomap =
      topomap.edges.filter fun msg =>
        (idMap msg.source).isSome && (idMap msg.target).isSome := by
  refine List.filter_congr fun msg _ => ?_
  rw [Bool.eq_iff_iff, Bool.and_eq_true, known, known, decide_eq_true_eq]

theorem graphOf_of_readTopomap
    {topomap : Topomap K}
    {graph : TopologicalGraph K}
    (isGraph : readTopomap topomap = some graph) :
    GraphOf topomap graph := by
  obtain ⟨received, isReceived, isGraph⟩ :=
    Option.bind_eq_some_iff.mp isGraph
  have nodes := nodesReceived_foldlM isReceived
  obtain ⟨sameVertices, edges⟩ :=
    edgesReceived_foldlM nodes.bounded nodes.edges isGraph
  rw [← joinedEdges_eq nodes.known] at edges
  refine ⟨?_, edges⟩
  rw [sameVertices]
  exact nodes.vertices

/-- Loading fails exactly when an id is not a number. -/
theorem isSome_readTopomap_iff
    (topomap : Topomap K) :
    (readTopomap topomap).isSome ↔ Readable topomap := by
  have isSome_receiveNode
      (received : ReceivedNodes K)
      (msg : TopomapNode K) :
      (receiveNode received msg).isSome ↔ stoi msg.id ≠ none := by
    rw [← isSome_readNodeMsg, receiveNode]
    cases readNodeMsg msg with
    | none =>
        simp
    | some props =>
        simp
  have nodesRead :=
    isSome_foldlM_iff isSome_receiveNode topomap.nodes
      ⟨TopologicalGraph.empty, fun _ => none⟩
  rw [readTopomap]
  cases isReceived : topomap.nodes.foldlM receiveNode
      ⟨TopologicalGraph.empty, fun _ => none⟩ with
  | none =>
      rw [isReceived] at nodesRead
      refine iff_of_false (by simp) fun readable => ?_
      exact absurd (nodesRead.mpr readable.nodes) (by simp)
  | some received =>
      rw [isReceived] at nodesRead
      have known := (nodesReceived_foldlM isReceived).known
      rw [Option.bind_eq_bind, Option.bind_some,
        isSome_foldlM_receiveEdge_iff]
      constructor
      · intro edges
        refine ⟨nodesRead.mp rfl, fun edge joined => ?_⟩
        rw [joinedEdges_eq known, List.mem_filter, Bool.and_eq_true] at joined
        rw [← isSome_readEdgeMsg]
        exact edges edge joined.1 joined.2
      · intro readable edge member ends
        rw [isSome_readEdgeMsg]
        refine readable.edges edge ?_
        rw [joinedEdges_eq known, List.mem_filter, Bool.and_eq_true]
        exact ⟨member, ends⟩

end Reading

section Describing

theorem isLast_map_iff
    {α β : Type}
    {f : α → β}
    (injective : Function.Injective f)
    (items : List α)
    (item : α)
    (index : Nat) :
    IsLast (items.map f) (f item) index ↔ IsLast items item index := by
  simp [IsLast, List.getElem?_map, injective.eq_iff]

theorem isLast_idString_iff
    (ids : List Int32)
    (text : String)
    (index : Nat) :
    IsLast (ids.map idString) text index ↔
      ∃ id, idString id = text ∧ IsLast (ids.map some) (some id) index := by
  have injective : Function.Injective idString :=
    fun _ _ => idString_inj.mp
  constructor
  · intro isLast
    have atIndex := isLast.1
    rw [List.getElem?_map, Option.map_eq_some_iff] at atIndex
    obtain ⟨id, -, rfl⟩ := atIndex
    refine ⟨id, rfl, ?_⟩
    rw [isLast_map_iff (Option.some_injective _)]
    exact (isLast_map_iff injective ids id index).mp isLast
  · rintro ⟨id, rfl, isLast⟩
    rw [isLast_map_iff (Option.some_injective _)] at isLast
    exact (isLast_map_iff injective ids id index).mpr isLast

theorem reachesMinusOne_iff
    {texts : List String}
    {ids : List Int32}
    (read : texts.map stoi = ids.map some) :
    ReachesMinusOne texts ↔ ids = [] ∨ ∃ id ∈ ids, -1 ≤ id := by
  have empty_iff : texts = [] ↔ ids = [] := by
    rw [← List.length_eq_zero_iff, ← List.length_map stoi, read,
      List.length_map, List.length_eq_zero_iff]
  have mem_iff
      (id : Int32) :
      id ∈ ids ↔ ∃ text ∈ texts, stoi text = some id := by
    rw [← List.mem_map, read, List.mem_map_of_injective]
    exact Option.some_injective _
  rw [ReachesMinusOne, empty_iff]
  refine or_congr_right ?_
  constructor
  · rintro ⟨text, member, id, isId, notBelow⟩
    exact ⟨id, (mem_iff id).mpr ⟨text, member, isId⟩, notBelow⟩
  · rintro ⟨id, member, notBelow⟩
    obtain ⟨text, inTexts, isId⟩ := (mem_iff id).mp member
    exact ⟨text, inTexts, id, isId, notBelow⟩

variable {K : Type} [DecidableEq K] [Field K]

section

omit [DecidableEq K] [Field K]

theorem stoi_of_readEdgeMsg
    {msg : TopomapEdge K}
    {props : EdgeProperties K}
    (isRead : readEdgeMsg msg = some props) :
    stoi msg.id = some props.id := by
  obtain ⟨id, isId, isRead⟩ := Option.bind_eq_some_iff.mp isRead
  rw [isId]
  dsimp only at isRead
  split at isRead
  · rw [← Option.some.inj isRead]
  · obtain ⟨room, -, isRead⟩ := Option.bind_eq_some_iff.mp isRead
    rw [← Option.some.inj isRead]

theorem map_stoi_edges
    {msgs : List (TopomapEdge K)}
    {edges : List (StoredEdge K)}
    (reads :
      List.Forall₂ (fun msg edge => readEdgeMsg msg = some edge.properties)
        msgs edges) :
    (msgs.map TopomapEdge.id).map stoi =
      (edges.map fun edge => edge.properties.id).map some := by
  induction reads with
  | nil =>
      rfl
  | cons isRead _ inductionHypothesis =>
      simp only [List.map_cons, inductionHypothesis,
        stoi_of_readEdgeMsg isRead]

end

theorem map_stoi_nodes
    {msgs : List (TopomapNode K)}
    {nodes : List (NodeProperties K)}
    (reads :
      List.Forall₂ (fun msg props => readNodeMsg msg = some props)
        msgs nodes) :
    (msgs.map TopomapNode.id).map stoi =
      (nodes.map NodeProperties.id).map some := by
  induction reads with
  | nil =>
      rfl
  | cons isRead _ inductionHypothesis =>
      obtain ⟨id, isId, isRead⟩ := Option.bind_eq_some_iff.mp isRead
      simp only [List.map_cons, inductionHypothesis, isId,
        ← Option.some.inj isRead]

omit [DecidableEq K] in
theorem cachesDescribe_clear_iff
    (topologicalMap : TopologicalMap K) :
    CachesDescribe ⟨topologicalMap.clear, none⟩ ↔
      topologicalMap.floorVertices = ∅ := by
  constructor
  · intro describes
    refine Finset.eq_empty_of_forall_notMem fun vertex member => ?_
    obtain ⟨node, atVertex, -⟩ :=
      (describes.floorVertices vertex).mp member
    cases atVertex
  · intro noFloors
    constructor
    · intro vertex
      simp [TopologicalMap.clear, TopologicalMap.empty,
        TopologicalGraph.empty, noFloors]
    · exact isMaxId_nil
    · exact isMaxId_nil
    · intro topomap isLoaded
      cases isLoaded

/-- After a load only the lookup and the largest ids can go wrong. -/
theorem cachesDescribe_ofGraph_iff
    {topomap : Topomap K}
    {graph : TopologicalGraph K}
    (isGraph : GraphOf topomap graph) :
    CachesDescribe ⟨TopologicalMap.ofGraph graph, some topomap⟩ ↔
      FitsCaches topomap := by
  have nodes := map_stoi_nodes isGraph.vertices
  have edges := map_stoi_edges isGraph.edges
  have maxNodeId_iff :=
    (TopologicalMap.isMaxId_largestId_iff _).trans
      (reachesMinusOne_iff nodes).symm
  have maxEdgeId_iff :=
    (TopologicalMap.isMaxId_largestId_iff _).trans
      (reachesMinusOne_iff edges).symm
  have found_iff
      (nodeId : String)
      (vertex : Nat) :
      (TopologicalMap.ofGraph graph).findVertexById nodeId = some vertex ↔
        ∃ id,
          idString id = nodeId ∧
            IsLast ((nodeIds topomap).map stoi) (some id) vertex := by
    rw [TopologicalMap.findVertexById_eq_some_iff, nodeIds, nodes,
      ← isLast_idString_iff, List.map_map]
    rfl
  constructor
  · intro describes
    constructor
    · exact maxNodeId_iff.mp describes.maxNodeId
    · exact maxEdgeId_iff.mp describes.maxEdgeId
    · intro nodeId vertex isOnly
      rw [← found_iff]
      exact describes.idToVertex topomap rfl nodeId vertex isOnly
  · intro fits
    constructor
    · exact TopologicalMap.mem_floorVerticesOf_iff graph
    · exact maxNodeId_iff.mpr fits.maxNodeId
    · exact maxEdgeId_iff.mpr fits.maxEdgeId
    · intro other isLoaded nodeId vertex isOnly
      rw [Option.mem_some_iff] at isLoaded
      subst isLoaded
      exact (found_iff nodeId vertex).mpr
        (fits.idToVertex nodeId vertex isOnly)

theorem cachesDescribe_call_iff
    (state : LoadedMap K)
    (call : MapCall K) :
    CachesDescribe (state.call call) ↔ KeepsCaches state call := by
  cases call with
  | clear =>
      exact cachesDescribe_clear_iff state.topologicalMap
  | loadFromMessage topomap =>
      have readable_iff := isSome_readTopomap_iff topomap
      rw [LoadedMap.call, TopologicalMap.loadFromMessage, KeepsCaches]
      cases isGraph : readTopomap topomap with
      | none =>
          have unreadable : ¬ Readable topomap := by
            rw [← readable_iff, isGraph]
            simp
          simp only [unreadable, false_imp_iff, not_false_eq_true,
            true_imp_iff, true_and]
          exact cachesDescribe_clear_iff state.topologicalMap
      | some graph =>
          have readable : Readable topomap := by
            rw [← readable_iff, isGraph]
            rfl
          simp only [readable, not_true_eq_false, false_imp_iff,
            true_imp_iff, and_true]
          exact cachesDescribe_ofGraph_iff (graphOf_of_readTopomap isGraph)

omit [DecidableEq K] in
theorem cachesDescribe_constructed :
    CachesDescribe (LoadedMap.constructed : LoadedMap K) :=
  (cachesDescribe_clear_iff TopologicalMap.empty).mpr rfl

/-- One call as a step of a run. -/
def LoadedMap.step
    (state : LoadedMap K)
    (call : MapCall K) : Option (LoadedMap K) :=
  some (state.call call)

/--
The caches describe the graph throughout a run exactly when the map is never
cleared while floor vertices are cached, no load fails then either, and the
loaded messages have ids that the lookups and the largest ids are made for.
-/
theorem caches_describe_iff
    (calls : List (MapCall K)) :
    EventRun.Stays LoadedMap.step CachesDescribe
        LoadedMap.constructed calls ↔
      EventRun.Conforms LoadedMap.step KeepsCaches
        (LoadedMap.constructed : LoadedMap K) calls := by
  refine EventRun.stays_iff_conforms (fun _ => id) ?_ ?_
    cachesDescribe_constructed calls
  · intro state call _ keeps
    exact ⟨_, rfl, (cachesDescribe_call_iff state call).mpr keeps⟩
  · rintro state call - breaks next ⟨⟩ describes
    exact breaks ((cachesDescribe_call_iff state call).mp describes)

/-- A message with a single storey. -/
def storeyMessage : Topomap ℚ where
  nodes :=
    [{ id := "0", name := "ground", type := "floor", ifcGuid := ""
       position := ⟨0, 0, 0⟩, minZ := 0, maxZ := 3, floor := []
       subtype := "", bbox := BoundingBox.zero, polygon := ⟨[], []⟩ }]
  edges := []

/-- The storey is still a floor vertex after the graph is gone. -/
theorem storey_outlives_graph :
    ¬ EventRun.Stays LoadedMap.step CachesDescribe LoadedMap.constructed
      [.loadFromMessage storeyMessage, .clear] := by
  intro stays
  obtain ⟨last, reached, describes⟩ := stays.reaches
  obtain rfl := Option.some.inj reached
  have noFloors :
      (TopologicalMap.empty.loadFromMessage storeyMessage).2.floorVertices =
        ∅ :=
    (cachesDescribe_call_iff _ MapCall.clear).mp describes
  exact absurd noFloors (by decide +kernel)

end Describing

end NavBim
