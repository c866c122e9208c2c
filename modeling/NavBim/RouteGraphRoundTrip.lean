import NavBim.RouteGraphEdges
import NavBim.RouteGraphReload

namespace NavBim

/-!
# The round trip of a route graph

A graph that was loaded from a file comes back from the file it is saved to
exactly when that file can say everything about it.
-/

open GeoJsonGraphFileLoader
open GeoJsonGraphFileSaver

variable {D F : Type} {numbers : FileNumbers D F}

variable
  {features : List (Json D)}

section Features

theorem foldlM_addElement_points
    (arePoints :
      ∀ feature ∈ features, ∀ found,
        addElement found feature =
          some { found with nodes := found.nodes ++ [feature] })
    (found : GraphElements D) :
    features.foldlM addElement found =
      some { found with nodes := found.nodes ++ features } := by
  induction features generalizing found with
  | nil =>
      simp
  | cons feature rest inductionHypothesis =>
      rw [List.forall_mem_cons] at arePoints
      rw [List.foldlM_cons, arePoints.1, Option.bind_eq_bind,
        Option.bind_some, inductionHypothesis arePoints.2]
      simp

theorem foldlM_addElement_lines
    (areLines :
      ∀ feature ∈ features, ∀ found,
        addElement found feature =
          some { found with edges := found.edges ++ [feature] })
    (found : GraphElements D) :
    features.foldlM addElement found =
      some { found with edges := found.edges ++ features } := by
  induction features generalizing found with
  | nil =>
      simp
  | cons feature rest inductionHypothesis =>
      rw [List.forall_mem_cons] at areLines
      rw [List.foldlM_cons, areLines.1, Option.bind_eq_bind,
        Option.bind_some, inductionHypothesis areLines.2]
      simp

theorem addElement_of_type
    {feature geometry type : Json D}
    (isGeometry : feature.field? "geometry" = some geometry)
    (isType : geometry.field? "type" = some type)
    (found : GraphElements D) :
    addElement found feature.asParsed =
      if type.asParsed.IsText "Point" then
        some { found with nodes := found.nodes ++ [feature.asParsed] }
      else if type.asParsed.IsText "MultiLineString" ∨
          type.asParsed.IsText "LineString" then
        some { found with edges := found.edges ++ [feature.asParsed] }
      else
        some found := by
  rw [addElement, Json.field?_asParsed, isGeometry, Option.map_some,
    Option.bind_eq_bind, Option.bind_some, Json.field?_asParsed, isType]
  rfl

theorem addElement_nodeToJson
    (node : RouteNode F)
    (found : GraphElements D) :
    addElement found (nodeToJson numbers node).asParsed =
      some
        { found with
          nodes := found.nodes ++ [(nodeToJson numbers node).asParsed] } := by
  rw [addElement_of_type rfl rfl]
  rfl

theorem addElement_edgeToJson
    (startid endid : UInt32)
    (edge : DirectionalEdge F)
    (found : GraphElements D) :
    addElement found (edgeToJson numbers startid endid edge).asParsed =
      some
        { found with
          edges :=
            found.edges ++
              [(edgeToJson numbers startid endid edge).asParsed] } := by
  rw [addElement_of_type rfl rfl]
  rfl

/-- The loader finds the points and the lines that were written. -/
theorem getGraphElements_saveGraph
    (graph : RouteGraph F) :
    (saveGraph numbers graph).asParsed.field? "features" =
        some (Json.arr
          (loadNodesFromGraph numbers graph ++
            loadEdgesFromGraph numbers graph)).asParsed ∧
      getGraphElements
          (Json.arr
            (loadNodesFromGraph numbers graph ++
              loadEdgesFromGraph numbers graph)).asParsed =
        some
          { nodes := (loadNodesFromGraph numbers graph).map Json.asParsed
            edges := (loadEdgesFromGraph numbers graph).map Json.asParsed } := by
  constructor
  · rw [Json.field?_asParsed]
    rfl
  · have arePoints :
        ∀ feature ∈ (loadNodesFromGraph numbers graph).map Json.asParsed,
          ∀ found,
            addElement found feature =
              some { found with nodes := found.nodes ++ [feature] } := by
      intro feature isFeature found
      obtain ⟨json, isJson, rfl⟩ := List.mem_map.mp isFeature
      obtain ⟨node, -, rfl⟩ := List.mem_map.mp isJson
      exact addElement_nodeToJson node found
    have areLines :
        ∀ feature ∈ (loadEdgesFromGraph numbers graph).map Json.asParsed,
          ∀ found,
            addElement found feature =
              some { found with edges := found.edges ++ [feature] } := by
      intro feature isFeature found
      obtain ⟨json, isJson, rfl⟩ := List.mem_map.mp isFeature
      obtain ⟨node, -, isJson⟩ := List.mem_flatMap.mp isJson
      obtain ⟨edge, -, rfl⟩ := List.mem_map.mp isJson
      exact addElement_edgeToJson _ _ edge found
    rw [getGraphElements, Json.elements_asParsed_arr, List.map_append,
      List.foldlM_append, foldlM_addElement_points arePoints,
      Option.bind_eq_bind, Option.bind_some,
      foldlM_addElement_lines areLines]
    rfl

end Features

section Ids

theorem graphToIdMap_of_distinct
    {nodes : List (RouteNode F)}
    (distinct : (nodes.map RouteNode.nodeid).Nodup)
    {index : Nat}
    {node : RouteNode F}
    (isNode : nodes[index]? = some node) :
    graphToIdMap nodes node.nodeid = some index := by
  induction nodes using List.reverseRecOn with
  | nil =>
      cases isNode
  | append_singleton nodes last inductionHypothesis =>
      rw [List.map_append, List.nodup_append] at distinct
      rw [graphToIdMap_append, Function.update_apply]
      rw [List.getElem?_append] at isNode
      split at isNode
      · rename_i inside
        have notLast : node.nodeid ≠ last.nodeid :=
          distinct.2.2 _
            (List.mem_map_of_mem (List.mem_of_getElem? isNode)) _
            (List.mem_singleton_self _)
        rw [if_neg notLast]
        exact inductionHypothesis distinct.1 isNode
      · rename_i outside
        obtain ⟨isFirst, -⟩ := List.getElem?_eq_some_iff.mp isNode
        rw [List.length_singleton] at isFirst
        have isPlace : index = nodes.length := by
          omega
        rw [isPlace, Nat.sub_self] at isNode
        rw [if_pos (congrArg RouteNode.nodeid (Option.some.inj isNode)).symm,
          isPlace]

/-- An edge with the ids of its ends. -/
def startedEdgeToJson
    (numbers : FileNumbers D F)
    (graph : RouteGraph F)
    (started : Nat × DirectionalEdge F) : Json D :=
  edgeToJson numbers ((graph.nodeid? started.1).getD 0)
    ((graph.nodeid? started.2.endNode).getD 0) started.2

theorem loadEdgesFromGraph_eq
    (graph : RouteGraph F) :
    loadEdgesFromGraph numbers graph =
      (startedEdges graph.nodes).map (startedEdgeToJson numbers graph) := by
  have indexed :
      loadEdgesFromGraph numbers graph =
        graph.nodes.zipIdx.flatMap fun indexed =>
          indexed.1.neighbors.map fun edge =>
            edgeToJson numbers indexed.1.nodeid
              ((graph.nodeid? edge.endNode).getD 0) edge := by
    rw [loadEdgesFromGraph]
    nth_rewrite 1 [← List.zipIdx_map_fst 0 graph.nodes]
    rw [List.flatMap_map]
  rw [indexed, startedEdges, List.map_flatMap]
  apply List.flatMap_congr
  intro indexed isIndexed
  rw [List.map_map]
  apply List.map_congr_left
  intro edge _
  have isNode := List.mem_zipIdx_iff_getElem?.mp isIndexed
  simp [startedEdgeToJson, RouteGraph.nodeid?, isNode]

end Ids

variable
  {fresh : List (RouteNode F)}
  {edges : List (Nat × DirectionalEdge F)}

section Loaded

variable [IntegerPart D]

variable
  {json : Json D}

theorem nodeOrdered_of_convertNode
    {node : RouteNode F}
    (converted : convertNode numbers json = some node) :
    NodeOrdered node := by
  simp only [convertNode, Option.bind_eq_bind, Option.bind_eq_some_iff]
    at converted
  obtain ⟨_, -, _, -, _, -, _, -, operations, areOperations, metadata,
    isMetadata, same⟩ := converted
  rw [← Option.some.inj same]
  exact ⟨metadataOrdered_of_converted isMetadata,
    operationsOrdered_of_converted areOperations⟩

theorem startedEdges_of_read
    (areNodes : features.mapM (convertNode numbers) = some fresh)
    (started : Nat × DirectionalEdge F) :
    started ∉ startedEdges fresh := by
  intro isStarted
  obtain ⟨node, isNode, isEdge⟩ := mem_startedEdges_iff.mp isStarted
  obtain ⟨feature, -, converted⟩ :=
    exists_of_mem_results (mapM_eq_some_iff_forall₂.mp areNodes)
      (List.mem_of_getElem? isNode)
  rw [neighbors_of_convertNode converted] at isEdge
  cases isEdge

variable [Zero F]

section

variable
  {idMap : UInt32 → Option Nat}
  {edge : Nat × DirectionalEdge F}
  (converted : convertEdge numbers idMap json = some edge)

include converted

theorem edgeOrdered_of_convertEdge :
    EdgeOrdered edge.2 := by
  simp only [convertEdge, Option.bind_eq_bind, Option.bind_eq_some_iff]
    at converted
  obtain ⟨_, -, _, -, _, -, _, -, _, -, _, -, _, -, _, -, _, -, _, -,
    operations, areOperations, metadata, isMetadata, same⟩ := converted
  rw [← Option.some.inj same]
  exact ⟨metadataOrdered_of_converted isMetadata,
    operationsOrdered_of_converted areOperations⟩

theorem start_of_convertEdge :
    ∃ startid, idMap startid = some edge.1 := by
  simp only [convertEdge, Option.bind_eq_bind, Option.bind_eq_some_iff]
    at converted
  obtain ⟨_, -, _, -, _, -, _, -, startid, -, _, -, _, -, _, isStart, _, -,
    _, -, _, -, _, -, same⟩ := converted
  rw [← Option.some.inj same]
  exact ⟨startid, isStart⟩

end

theorem loadNodes_eq_some_iff
    {nodes : List (RouteNode F)} :
    loadNodes numbers json = some nodes ↔
      ∃ features elements fresh edges,
        json.field? "features" = some features ∧
        getGraphElements features = some elements ∧
        elements.nodes ≠ [] ∧
        elements.edges ≠ [] ∧
        elements.nodes.mapM (convertNode numbers) = some fresh ∧
        elements.edges.mapM (convertEdge numbers (graphToIdMap fresh)) =
          some edges ∧
        edges.foldl addEdge fresh = nodes := by
  simp only [loadNodes, addEdgesToGraph, foldlM_map_eq, Option.bind_eq_bind,
    Option.bind_eq_some_iff]
  constructor
  · rintro ⟨features, areFeatures, elements, areElements, isRead⟩
    split at isRead
    · cases isRead
    · rename_i notEmpty
      obtain ⟨fresh, isFresh, isRead⟩ := Option.bind_eq_some_iff.mp isRead
      obtain ⟨edges, areEdges, isBuilt⟩ := Option.map_eq_some_iff.mp isRead
      rw [Bool.or_eq_true, List.isEmpty_iff, List.isEmpty_iff, not_or]
        at notEmpty
      exact ⟨features, elements, fresh, edges, areFeatures, areElements,
        notEmpty.1, notEmpty.2, isFresh, areEdges, isBuilt⟩
  · rintro ⟨features, elements, fresh, edges, areFeatures, areElements,
      hasNodes, hasEdges, isFresh, areEdges, isBuilt⟩
    refine ⟨features, areFeatures, elements, areElements, ?_⟩
    rw [if_neg (by simp [hasNodes, hasEdges]), isFresh, Option.bind_some,
      areEdges, Option.map_some, isBuilt]

theorem starts_lt_of_read
    (areEdges :
      features.mapM (convertEdge numbers (graphToIdMap fresh)) =
        some edges) :
    ∀ edge ∈ edges, edge.1 < fresh.length := by
  intro edge isEdge
  obtain ⟨feature, -, converted⟩ :=
    exists_of_mem_results (mapM_eq_some_iff_forall₂.mp areEdges) isEdge
  obtain ⟨startid, isStart⟩ := start_of_convertEdge converted
  exact graphToIdMap_lt isStart

/-- What is known of the nodes that a file was loaded into. -/
structure ReadNodes
    (nodes : List (RouteNode F)) : Prop where
  nodesOrdered : ∀ node ∈ nodes, NodeOrdered node
  edgesOrdered : ∀ started ∈ startedEdges nodes, EdgeOrdered started.2
  hasEdges : startedEdges nodes ≠ []

theorem readNodes_of_loadNodes
    {nodes : List (RouteNode F)}
    (loaded : loadNodes numbers json = some nodes) :
    ReadNodes nodes := by
  obtain ⟨features, elements, fresh, edges, -, -, -, hasEdges, areNodes,
    areEdges, rfl⟩ := loadNodes_eq_some_iff.mp loaded
  have inside := starts_lt_of_read areEdges
  constructor
  · intro node isNode
    obtain ⟨source, isSource, same⟩ :
        ∃ source ∈ fresh, source.withoutEdges = node.withoutEdges := by
      apply List.mem_map.mp
      rw [← map_withoutEdges_foldl_addEdge edges]
      exact List.mem_map_of_mem isNode
    obtain ⟨feature, -, converted⟩ :=
      exists_of_mem_results (mapM_eq_some_iff_forall₂.mp areNodes) isSource
    have ordered := nodeOrdered_of_convertNode converted
    have sameMetadata := congrArg RouteNode.metadata same
    have sameOperations := congrArg RouteNode.operations same
    constructor
    · exact sameMetadata ▸ ordered.metadata
    · exact sameOperations ▸ ordered.operations
  · intro started isStarted
    rw [mem_startedEdges_foldl_iff inside] at isStarted
    obtain ⟨feature, -, converted⟩ :=
      exists_of_mem_results (mapM_eq_some_iff_forall₂.mp areEdges)
        (isStarted.resolve_left (startedEdges_of_read areNodes started))
    exact edgeOrdered_of_convertEdge converted
  · have sameLength :=
      (mapM_eq_some_iff_forall₂.mp areEdges).length_eq
    cases edges with
    | nil =>
        exact absurd (List.length_eq_zero_iff.mp sameLength) hasEdges
    | cons edge rest =>
        have isStarted :
            edge ∈ startedEdges ((edge :: rest).foldl addEdge fresh) :=
          (mem_startedEdges_foldl_iff inside).mpr
            (.inr List.mem_cons_self)
        exact List.ne_nil_of_mem isStarted

end Loaded

section RoundTrip

/-- Ids that are written stand for the places of their nodes. -/
theorem graphToIdMap_nodeid
    (graph : RouteGraph F)
    (distinct : (graph.nodes.map RouteNode.nodeid).Nodup)
    {index : Nat}
    (inside : index < graph.nodes.length) :
    graphToIdMap (graph.nodes.map RouteNode.withoutEdges)
        ((graph.nodeid? index).getD 0) = some index := by
  have distinctBefore :
      ((graph.nodes.map RouteNode.withoutEdges).map
        RouteNode.nodeid).Nodup := by
    rw [List.map_map]
    exact distinct
  have isNode :
      (graph.nodes.map RouteNode.withoutEdges)[index]? =
        some (graph.nodes[index].withoutEdges) := by
    rw [List.getElem?_map, List.getElem?_eq_getElem inside, Option.map_some]
  have isIndex := graphToIdMap_of_distinct distinctBefore isNode
  rw [RouteGraph.nodeid?, List.getElem?_eq_getElem inside]
  exact isIndex

variable
  {graph : RouteGraph F}

theorem loadNodesFromGraph_of_notDeleted
    (notDeleted : ∀ node ∈ graph.nodes, node.nodeid ≠ deletedId) :
    loadNodesFromGraph numbers graph =
      graph.nodes.map (nodeToJson numbers) := by
  rw [loadNodesFromGraph, List.filter_eq_self.mpr]
  simpa using notDeleted

variable [IntegerPart D]

/-- No node is left out when as many nodes come back. -/
theorem notDeleted_of_built
    (areNodes :
      ((loadNodesFromGraph numbers graph).map Json.asParsed).mapM
        (convertNode numbers) = some fresh)
    (isBuilt : edges.foldl addEdge fresh = graph.nodes) :
    ∀ node ∈ graph.nodes, node.nodeid ≠ deletedId := by
  have sameLength :
      (graph.nodes.filter fun node => node.nodeid ≠ deletedId).length =
        graph.nodes.length := by
    have readLength := (mapM_eq_some_iff_forall₂.mp areNodes).length_eq
    rw [List.length_map, loadNodesFromGraph, List.length_map] at readLength
    rw [readLength, ← length_foldl_addEdge edges fresh, isBuilt]
  intro node isNode
  simpa using List.length_filter_eq_length_iff.mp sameLength node isNode

theorem fresh_eq_of_built
    {nodes fresh : List (RouteNode F)}
    (areNodes : features.mapM (convertNode numbers) = some fresh)
    (isBuilt : edges.foldl addEdge fresh = nodes) :
    fresh = nodes.map RouteNode.withoutEdges := by
  have withoutEdges : ∀ node ∈ fresh, node.withoutEdges = node := by
    intro node isNode
    obtain ⟨feature, -, converted⟩ :=
      exists_of_mem_results (mapM_eq_some_iff_forall₂.mp areNodes) isNode
    rw [RouteNode.withoutEdges, ← neighbors_of_convertNode converted]
  calc
    fresh = fresh.map RouteNode.withoutEdges :=
      ((List.map_congr_left withoutEdges).trans (List.map_id fresh)).symm
    _ = nodes.map RouteNode.withoutEdges := by
      rw [← isBuilt, map_withoutEdges_foldl_addEdge]

variable [Zero F]

theorem start_of_written
    (distinct : (graph.nodes.map RouteNode.nodeid).Nodup)
    {started edge : Nat × DirectionalEdge F}
    (isStarted : started ∈ startedEdges graph.nodes)
    (converted :
      convertEdge numbers
          (graphToIdMap (graph.nodes.map RouteNode.withoutEdges))
          (startedEdgeToJson numbers graph started).asParsed = some edge) :
    edge.1 = started.1 := by
  rw [startedEdgeToJson, convertEdge_eq,
    graphToIdMap_nodeid graph distinct
      (start_lt_of_mem_startedEdges isStarted)] at converted
  simp only [Option.bind_eq_some_iff] at converted
  obtain ⟨start, isStart, _, -, _, -, _, -, _, -, same⟩ := converted
  rw [← Option.some.inj same]
  exact (Option.some.inj isStart).symm

theorem convertEdge_written_iff
    (distinct : (graph.nodes.map RouteNode.nodeid).Nodup)
    {started : Nat × DirectionalEdge F}
    (isStarted : started ∈ startedEdges graph.nodes)
    (ordered : EdgeOrdered started.2) :
    convertEdge numbers
        (graphToIdMap (graph.nodes.map RouteNode.withoutEdges))
        (startedEdgeToJson numbers graph started).asParsed = some started ↔
      EdgeKept numbers started.2 := by
  obtain ⟨node, isNode, isEdge⟩ := mem_startedEdges_iff.mp isStarted
  exact convertEdge_iff
    (graphToIdMap_nodeid graph distinct
      (start_lt_of_mem_startedEdges isStarted))
    (graphToIdMap_nodeid graph distinct
      (graph.endsInside node (List.mem_of_getElem? isNode) started.2 isEdge))
    ordered

theorem reload_eq_some_iff_read
    (text : JsonText D)
    {graph : RouteGraph F} :
    reload numbers text graph = some graph ↔
      ∃ fresh edges,
        loadNodesFromGraph numbers graph ≠ [] ∧
        startedEdges graph.nodes ≠ [] ∧
        ((loadNodesFromGraph numbers graph).map Json.asParsed).mapM
            (convertNode numbers) = some fresh ∧
        ((startedEdges graph.nodes).map fun started =>
            (startedEdgeToJson numbers graph started).asParsed).mapM
              (convertEdge numbers (graphToIdMap fresh)) = some edges ∧
        edges.foldl addEdge fresh = graph.nodes := by
  obtain ⟨isFeatures, areElements⟩ :=
    @getGraphElements_saveGraph D F numbers graph
  rw [reload, text.parse_dump, Option.bind_some,
    loadGraphFromFile_eq_some_iff, loadNodes_eq_some_iff]
  rw [loadEdgesFromGraph_eq] at isFeatures areElements
  constructor
  · rintro ⟨features, elements, fresh, edges, areFeatures, isElements,
      hasNodes, hasEdges, areNodes, areEdges, isBuilt⟩
    rw [isFeatures] at areFeatures
    obtain rfl := Option.some.inj areFeatures
    rw [areElements] at isElements
    obtain rfl := Option.some.inj isElements
    rw [List.map_map] at areEdges
    exact ⟨fresh, edges, fun none => hasNodes (by simp [none]),
      fun none => hasEdges (by simp [none]), areNodes, areEdges, isBuilt⟩
  · rintro ⟨fresh, edges, hasNodes, hasEdges, areNodes, areEdges, isBuilt⟩
    refine ⟨_, _, fresh, edges, isFeatures, areElements, ?_, ?_, areNodes,
      ?_, isBuilt⟩
    · simpa using hasNodes
    · simpa using hasEdges
    · rw [List.map_map]
      exact areEdges

theorem edges_eq_of_built
    (distinct : (graph.nodes.map RouteNode.nodeid).Nodup)
    (areEdges :
      ((startedEdges graph.nodes).map fun started =>
          (startedEdgeToJson numbers graph started).asParsed).mapM
            (convertEdge numbers
              (graphToIdMap (graph.nodes.map RouteNode.withoutEdges))) =
        some edges)
    (isBuilt :
      edges.foldl addEdge (graph.nodes.map RouteNode.withoutEdges) =
        graph.nodes) :
    edges = startedEdges graph.nodes := by
  refine foldl_addEdge_injective (starts_lt_of_read areEdges) ?_
    (isBuilt.trans (foldl_addEdge_startedEdges graph.nodes).symm)
  rw [mapM_eq_some_iff_forall₂, List.forall₂_map_left_iff] at areEdges
  apply map_eq_map_of_results areEdges
  intro started isStarted edge converted
  exact start_of_written distinct isStarted converted

theorem reload_eq_some_iff_kept
    (text : JsonText D)
    (distinct : (graph.nodes.map RouteNode.nodeid).Nodup)
    (loaded : ReadNodes graph.nodes) :
    reload numbers text graph = some graph ↔ GraphKept numbers graph := by
  have nodesBack :
      ((graph.nodes.map fun node =>
          (nodeToJson numbers node).asParsed).mapM (convertNode numbers) =
        some (graph.nodes.map RouteNode.withoutEdges)) ↔
        ∀ node ∈ graph.nodes, NodeKept numbers node := by
    rw [mapM_map_eq_map_iff]
    exact forall₂_congr fun node isNode =>
      convertNode_iff (loaded.nodesOrdered node isNode)
  have edgesBack :
      (((startedEdges graph.nodes).map fun started =>
          (startedEdgeToJson numbers graph started).asParsed).mapM
            (convertEdge numbers
              (graphToIdMap (graph.nodes.map RouteNode.withoutEdges))) =
        some (startedEdges graph.nodes)) ↔
        ∀ node ∈ graph.nodes, ∀ edge ∈ node.neighbors,
          EdgeKept numbers edge := by
    rw [mapM_map_eq_some_iff, ← forall_startedEdges_iff]
    exact forall₂_congr fun started isStarted =>
      convertEdge_written_iff distinct isStarted
        (loaded.edgesOrdered started isStarted)
  rw [reload_eq_some_iff_read]
  constructor
  · rintro ⟨fresh, edges, -, -, areNodes, areEdges, isBuilt⟩
    have notDeleted := notDeleted_of_built areNodes isBuilt
    obtain rfl := fresh_eq_of_built areNodes isBuilt
    obtain rfl := edges_eq_of_built distinct areEdges isBuilt
    rw [loadNodesFromGraph_of_notDeleted notDeleted, List.map_map]
      at areNodes
    constructor
    · exact notDeleted
    · exact nodesBack.mp areNodes
    · exact edgesBack.mp areEdges
  · intro kept
    have hasNodes : graph.nodes ≠ [] := by
      intro none
      apply loaded.hasEdges
      rw [none]
      rfl
    refine ⟨graph.nodes.map RouteNode.withoutEdges,
      startedEdges graph.nodes, ?_, loaded.hasEdges, ?_,
      edgesBack.mpr kept.edges, foldl_addEdge_startedEdges graph.nodes⟩
    · rw [loadNodesFromGraph_of_notDeleted kept.notDeleted]
      simpa using hasNodes
    · rw [loadNodesFromGraph_of_notDeleted kept.notDeleted, List.map_map]
      exact nodesBack.mpr kept.nodes

/-- A loaded graph comes back exactly if its file can say everything. -/
theorem reload_loaded_iff
    (text : JsonText D)
    {json : Json D}
    {graph : RouteGraph F}
    (loaded : loadGraphFromFile numbers json = some graph)
    (distinct : (graph.nodes.map RouteNode.nodeid).Nodup) :
    reload numbers text graph = some graph ↔ GraphKept numbers graph :=
  reload_eq_some_iff_kept text distinct
    (readNodes_of_loadNodes
      ((loadGraphFromFile_eq_some_iff numbers).mp loaded))

end RoundTrip

section Files

/-- Numbers that all fit into a file. -/
def rationalNumbers : FileNumbers ℚ ℚ where
  toDouble := fun value => (value : WithTop ℚ)
  toFloat := id
  ofInteger := fun value => value
  toFloat_toDouble := fun isDouble => (WithTop.coe_injective isDouble).symm

/-- Values that are their own texts. -/
def plainText : JsonText ℚ where
  Text := Json ℚ
  dump := Json.asParsed
  parse := some
  parse_dump := fun _ => rfl

/-- A node with the operations that a file states, and an edge to itself. -/
def fileWithOperations
    (operations : List (String × Json ℚ)) : Json ℚ :=
  .obj
    [("features",
      .arr
        [.obj
          [("geometry",
              .obj
                [("type", .str "Point"),
                  ("coordinates", .arr [.int 0, .int 0])]),
            ("properties",
              .obj [("id", .int 1), ("operations", .obj operations)])],
        .obj
          [("geometry", .obj [("type", .str "MultiLineString")]),
            ("properties",
              .obj
                [("id", .int 2), ("startid", .int 1), ("endid", .int 1)])]])]

def speedLimitToJson
    (trigger : OperationTrigger) : Json ℚ :=
  .obj [("type", .str "AdjustSpeedLimit"), ("trigger", .str trigger.text)]

def speedLimit
    (trigger : OperationTrigger) : Operation ℚ where
  type := "AdjustSpeedLimit"
  trigger := trigger
  metadata := {}

/-- The graph of such a file. -/
def graphWithOperations
    (operations : List (Operation ℚ)) : RouteGraph ℚ where
  nodes :=
    [{ nodeid := 1
       coords := { frameId := "map", x := 0, y := 0 }
       neighbors :=
         [{ edgeid := 2
            endNode := 0
            edgeCost := { cost := 0, overridable := true } }]
       operations := operations }]
  endsInside := by simp

/-- One operation comes back. -/
theorem reload_single_operation :
    reload rationalNumbers plainText
        (graphWithOperations [speedLimit .onExit]) =
      some (graphWithOperations [speedLimit .onExit]) := by
  have loaded :
      loadGraphFromFile rationalNumbers
          (fileWithOperations [("exit", speedLimitToJson .onExit)]) =
        some (graphWithOperations [speedLimit .onExit]) :=
    (loadGraphFromFile_eq_some_iff rationalNumbers).mpr rfl
  have noMetadata : MetadataKept rationalNumbers {} :=
    trivial
  have finite : IsFinite rationalNumbers 0 :=
    WithTop.coe_ne_top
  apply (reload_loaded_iff plainText loaded (by decide)).mpr
  constructor
  · intro node isNode
    obtain rfl := List.mem_singleton.mp isNode
    decide
  · intro node isNode
    obtain rfl := List.mem_singleton.mp isNode
    exact ⟨finite, finite, noMetadata, List.pairwise_singleton _ _,
      fun operation isOperation =>
        List.mem_singleton.mp isOperation ▸ noMetadata⟩
  · intro node isNode edge isEdge
    obtain rfl := List.mem_singleton.mp isNode
    obtain rfl := List.mem_singleton.mp isEdge
    exact ⟨finite, noMetadata, List.Pairwise.nil, by simp⟩

/-- Of two operations with one type only the second comes back. -/
theorem operation_lost_after_reload :
    loadGraphFromFile rationalNumbers
        (fileWithOperations
          [("enter", speedLimitToJson .onEnter),
            ("exit", speedLimitToJson .onExit)]) =
      some (graphWithOperations [speedLimit .onEnter, speedLimit .onExit]) ∧
    ((graphWithOperations
      [speedLimit .onEnter, speedLimit .onExit]).nodes.map
        RouteNode.nodeid).Nodup ∧
    reload rationalNumbers plainText
        (graphWithOperations [speedLimit .onEnter, speedLimit .onExit]) =
      some (graphWithOperations [speedLimit .onExit]) ∧
    graphWithOperations [speedLimit .onExit] ≠
      graphWithOperations [speedLimit .onEnter, speedLimit .onExit] := by
  refine ⟨(loadGraphFromFile_eq_some_iff rationalNumbers).mpr rfl,
    by decide, ?_, ?_⟩
  · rw [reload, plainText.parse_dump, Option.bind_some,
      loadGraphFromFile_eq_some_iff]
    rfl
  · simp [graphWithOperations]

end Files

end NavBim
