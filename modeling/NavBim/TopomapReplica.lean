import NavBim.TopomapMessages
import NavBim.TopomapServer

namespace NavBim

/-!
# The planner's replica of the map

The planner works on a copy of the server's map that it receives as a message.
The module says which maps arrive unchanged: a message cannot tell an absent
value from its default, rings are closed on arrival, and the two sides look up
names in different ways.
-/

section Floors

variable {K : Type} [Field K] [LinearOrder K]

/-- One step of the search for the floor with the smallest `z_diff`. -/
def floorStep
    (height : K)
    (best : WithTop K × Option Nat)
    (indexed : NodeProperties K × Nat) : WithTop K × Option Nat :=
  let node := indexed.1
  if node.type = "floor" then
    match node.minZ, node.maxZ with
    | some minZ, some maxZ =>
        if minZ ≤ height ∧ height < maxZ then
          let zDiff : WithTop K := ((height - minZ : K) : WithTop K)
          if zDiff < best.1 then (zDiff, some indexed.2) else best
        else
          best
    | _, _ => best
  else
    best

/-- `findFloorByHeight`, the same loop in the server and in the planner. -/
def findFloorByHeight
    (graph : TopologicalGraph K)
    (height : K) : Option Nat :=
  (graph.vertices.zipIdx.foldl (floorStep height) (⊤, none)).2

end Floors

section Shared

variable {K : Type}

/-- The properties of a node that matter on both sides. -/
def sharedNode
    (props : NodeProperties K) : NodeProperties K :=
  { props with
    ifcGuid := none
    minZ := if props.type = "floor" then props.minZ else none
    maxZ := if props.type = "floor" then props.maxZ else none
    bbox :=
      if props.type = "room" ∨ props.type = "transition" then
        props.bbox
      else
        none
    polygon := if props.type = "room" then props.polygon else none }

/-- The replica has the server's nodes and edges and answers like the server. -/
structure ReplicaAgrees
    [Field K] [LinearOrder K]
    (graph : TopologicalGraph K)
    (replica : TopologicalMap K) : Prop where
  vertices :
    replica.graph.vertices.map sharedNode = graph.vertices.map sharedNode
  edges :
    replica.graph.edges.map (StoredEdge.mapProperties edgeContent) =
      graph.edges.map (StoredEdge.mapProperties edgeContent)
  floors :
    ∀ height,
      findFloorByHeight replica.graph height =
        findFloorByHeight graph height
  names :
    ∀ name, replica.findVertexByName name = getVertexByName graph name

/-- The corners of all polygons are single precision numbers. -/
def Representable
    (toFloat : K → K)
    (graph : TopologicalGraph K) : Prop :=
  ∀ node ∈ graph.vertices, ∀ polygon ∈ node.polygon,
    ∀ ring ∈ polygon.outer :: polygon.inners, ∀ point ∈ ring,
      toFloat point.1 = point.1 ∧ toFloat point.2 = point.2

/-- A message says everything about the node. -/
structure SendableNode
    [Field K]
    (props : NodeProperties K) : Prop where
  subtype : props.subtype ≠ some ""
  floor : props.floor ≠ some []
  zRange : props.type = "floor" → props.minZ ≠ none ∧ props.maxZ ≠ none
  bbox :
    props.type = "room" ∨ props.type = "transition" →
      ∀ bbox ∈ props.bbox, bbox.minX ≠ 0 ∨ bbox.maxX ≠ 0
  polygon :
    props.type = "room" →
      ∀ polygon ∈ props.polygon,
        polygon.outer ≠ [] ∧
          ∀ ring ∈ polygon.outer :: polygon.inners,
            ring.head? = ring.getLast?

/-- A message says everything about the map. -/
structure Sendable
    [Field K]
    (graph : TopologicalGraph K) : Prop where
  nodes : ∀ node ∈ graph.vertices, SendableNode node
  edges : ∀ edge ∈ graph.edges, edge.properties.subtype ≠ some ""
  distinctNames : (graph.vertices.map NodeProperties.name).Nodup
  named : "" ∉ graph.vertices.map NodeProperties.name

end Shared

section Received

variable {K : Type} [Field K]

/-- An edge after it was sent and received. -/
def replicaEdge
    (props : EdgeProperties K) : EdgeProperties K :=
  { props with
    subtype := nonemptyText props.subtype
    path := nonemptyList props.path
    pathFrameId := "ifc" }

theorem textIfAny_getD
    (text : Option String) :
    textIfAny (text.getD "") = nonemptyText text := by
  cases text with
  | none => rfl
  | some text => rfl

theorem listIfAny_getD
    {α : Type}
    (items : Option (List α)) :
    listIfAny (items.getD []) = nonemptyList items := by
  match items with
  | none => rfl
  | some [] => rfl
  | some (first :: rest) => rfl

/-- A sent edge is received. -/
theorem readEdgeMsg_convert
    (graph : TopologicalGraph K)
    (edge : StoredEdge K) :
    readEdgeMsg (convertToTopomapEdgeMsg graph edge) =
      some (replicaEdge edge.properties) := by
  have poses :
      listIfAny (convertToTopomapEdgeMsg graph edge).path.poses =
        nonemptyList edge.properties.path := by
    simp only [convertToTopomapEdgeMsg]
    match edge.properties.path with
    | none => rfl
    | some [] => rfl
    | some (first :: rest) => rfl
  simp only [readEdgeMsg, poses]
  cases room : edge.properties.roomId with
  | none =>
      simp [convertToTopomapEdgeMsg, replicaEdge, room, textIfAny_getD]
  | some roomId =>
      simp [convertToTopomapEdgeMsg, replicaEdge, room, textIfAny_getD]

variable [DecidableEq K]

variable
  (toFloat : K → K)

/-- A node after it was sent and received. -/
def replicaNode
    (props : NodeProperties K) : NodeProperties K :=
  let msg := convertToTopomapNodeMsg toFloat props
  { props with
    subtype := nonemptyText props.subtype
    ifcGuid := nonemptyText props.ifcGuid
    minZ := if props.type = "floor" then some msg.minZ else none
    maxZ := if props.type = "floor" then some msg.maxZ else none
    bbox :=
      if props.type = "room" ∨ props.type = "transition" then
        if msg.bbox.minX ≠ 0 ∨ msg.bbox.maxX ≠ 0 then
          some msg.bbox
        else
          none
      else
        none
    polygon :=
      if props.type = "room" ∧ msg.polygon.outer ≠ [] then
        some (convertPolygonFromMessage msg.polygon)
      else
        none
    floor := nonemptyList props.floor }

/-- A sent node is received. -/
theorem readNodeMsg_convert
    (props : NodeProperties K) :
    readNodeMsg (convertToTopomapNodeMsg toFloat props) =
      some (replicaNode toFloat props) := by
  simp only [readNodeMsg, convertToTopomapNodeMsg, stoi_idString,
    textIfAny_getD, listIfAny_getD]
  rfl

/-- A message that is read as a node and names it by the text of its id. -/
structure NodeReads
    (msg : TopomapNode K)
    (props : NodeProperties K) : Prop where
  id : msg.id = idString props.id
  reads : readNodeMsg msg = some props

/-- A message that is read as an edge between the nodes with the right ids. -/
structure EdgeReads
    (graph : TopologicalGraph K)
    (msg : TopomapEdge K)
    (edge : StoredEdge K) : Prop where
  source : msg.source = idString (graph.node edge.source).id
  target : msg.target = idString (graph.node edge.target).id
  reads : readEdgeMsg msg = some edge.properties

/--
Receiving the nodes of a message builds the graph that loading them from a file
builds, with texts of ids as keys.
-/
theorem foldlM_receiveNode
    {msgs : List (TopomapNode K)}
    {nodes : List (NodeProperties K)}
    (reads : List.Forall₂ NodeReads msgs nodes) :
    ∀ (received : ReceivedNodes K) (loaded : LoadedNodes K),
      received.graph = loaded.graph →
      (∀ id, received.idMap (idString id) = loaded.idToVertex id) →
      ∃ final,
        msgs.foldlM receiveNode received = some final ∧
          final.graph = (nodes.foldl addNode loaded).graph ∧
          ∀ id,
            final.idMap (idString id) =
              (nodes.foldl addNode loaded).idToVertex id := by
  induction reads with
  | nil =>
      intro received loaded sameGraph sameIds
      exact ⟨received, rfl, sameGraph, sameIds⟩
  | @cons msg node msgs nodes isRead _ inductionHypothesis =>
      intro received loaded sameGraph sameIds
      obtain ⟨final, isFinal, finalGraph, finalIds⟩ :=
        inductionHypothesis
          ⟨received.graph.addVertex node,
            Function.update received.idMap (idString node.id)
              (some received.graph.numVertices)⟩
          (addNode loaded node)
          (by simp [addNode, sameGraph])
          (by
            intro id
            simp [addNode, Function.update_apply, idString_inj,
              sameGraph, sameIds])
      refine ⟨final, ?_, finalGraph, finalIds⟩
      rw [List.foldlM_cons, receiveNode, isRead.reads, isRead.id]
      exact isFinal

theorem foldlM_receiveNode_known
    {msgs : List (TopomapNode K)}
    {graph : TopologicalGraph K}
    (reads : List.Forall₂ NodeReads msgs graph.vertices)
    (distinct : (graph.vertices.map NodeProperties.id).Nodup) :
    ∃ nodes,
      msgs.foldlM receiveNode ⟨TopologicalGraph.empty, fun _ => none⟩ =
          some nodes ∧
        nodes.graph.vertices = graph.vertices ∧
        nodes.graph.edges = [] ∧
        ∀ vertex < graph.numVertices,
          nodes.idMap (idString (graph.node vertex).id) =
            some vertex := by
  obtain ⟨nodes, isNodes, nodesGraph, nodeIds⟩ :=
    foldlM_receiveNode reads
      ⟨TopologicalGraph.empty, fun _ => none⟩
      ⟨TopologicalGraph.empty, fun _ => none⟩ rfl (fun _ => rfl)
  have initially :
      NodesLoaded ([] : List (NodeProperties K))
        ⟨TopologicalGraph.empty, fun _ => none⟩ :=
    ⟨rfl, rfl, by simp⟩
  have known :=
    NodesLoaded.foldl graph.vertices initially
      (by rw [List.nil_append]; exact distinct)
  rw [List.nil_append] at known
  refine ⟨nodes, isNodes, ?_, ?_, ?_⟩
  · rw [nodesGraph]
    exact known.vertices
  · rw [nodesGraph]
    exact known.edges
  · intro vertex inGraph
    have inList : vertex < graph.vertices.length := inGraph
    rw [nodeIds, known.idToVertex_iff]
    exact ⟨inList, by simp [TopologicalGraph.node, inList]⟩

theorem readTopomap_of_reads
    {topomap : Topomap K}
    {graph : TopologicalGraph K}
    (distinct : (graph.vertices.map NodeProperties.id).Nodup)
    (nodeReads : List.Forall₂ NodeReads topomap.nodes graph.vertices)
    (edgeReads :
      List.Forall₂ (EdgeReads graph) topomap.edges graph.edges) :
    readTopomap topomap = some graph := by
  obtain ⟨nodes, isNodes, nodesVertices, nodesEdges, idKnown⟩ :=
    foldlM_receiveNode_known nodeReads distinct
  have valid :
      List.Forall₂ (fun edge msg =>
        edge ∈ graph.edges ∧ EdgeReads graph msg edge)
        graph.edges topomap.edges :=
    (List.forall₂_and_left _ _).mpr ⟨fun _ member => member, edgeReads.flip⟩
  have adds :
      List.Forall₂ (fun msg edge =>
        ∀ built,
          receiveEdge nodes.idMap built msg =
            some (built.addEdge edge.source edge.target edge.properties))
        topomap.edges graph.edges := by
    refine (valid.imp ?_).flip
    intro edge msg ⟨member, isRead⟩ built
    have ends := graph.endsValid edge member
    have source : nodes.idMap msg.source = some edge.source := by
      rw [isRead.source]
      exact idKnown _ ends.1
    have target : nodes.idMap msg.target = some edge.target := by
      rw [isRead.target]
      exact idKnown _ ends.2
    simp [receiveEdge, source, target, isRead.reads]
  obtain ⟨received, isReceived, vertices, edges⟩ :=
    TopologicalGraph.foldlM_addEdge adds nodes.graph (by
      intro edge member
      rw [TopologicalGraph.numVertices, nodesVertices]
      exact graph.endsValid edge member)
  have same : received = graph := by
    refine TopologicalGraph.ext (vertices.trans nodesVertices) ?_
    rw [edges, nodesEdges, List.nil_append]
  rw [readTopomap, isNodes, ← same]
  exact isReceived

theorem readTopomap_getTopologicalMap
    (graph : TopologicalGraph K)
    (distinct : (graph.vertices.map NodeProperties.id).Nodup) :
    ∃ received,
      readTopomap (getTopologicalMap toFloat graph).topomap =
          some received ∧
        received.vertices = graph.vertices.map (replicaNode toFloat) ∧
        received.edges =
          graph.edges.map (StoredEdge.mapProperties replicaEdge) := by
  have sent :
      (getTopologicalMap toFloat graph).topomap =
        ⟨graph.vertices.map (convertToTopomapNodeMsg toFloat),
          graph.edges.map (convertToTopomapEdgeMsg graph)⟩ := by
    by_cases isEmpty : graph.numVertices = 0
    · have noVertices : graph.vertices = [] :=
        List.eq_nil_of_length_eq_zero isEmpty
      have noEdges : graph.edges = [] := by
        rw [List.eq_nil_iff_forall_not_mem]
        intro edge member
        have valid := graph.endsValid edge member
        simp [noVertices] at valid
      simp [getTopologicalMap, isEmpty, noVertices, noEdges]
    · simp [getTopologicalMap, isEmpty]
  let replica : TopologicalGraph K :=
    { vertices := graph.vertices.map (replicaNode toFloat)
      edges := graph.edges.map (StoredEdge.mapProperties replicaEdge)
      endsValid := by
        intro edge member
        obtain ⟨old, inOld, isEdge⟩ := List.mem_map.mp member
        rw [List.length_map, ← isEdge]
        exact graph.endsValid old inOld }
  have sameId
      (vertex : Nat)
      (inGraph : vertex < graph.vertices.length) :
      (replica.node vertex).id = (graph.node vertex).id := by
    simp [replica, TopologicalGraph.node, inGraph, replicaNode]
  refine ⟨replica, ?_, rfl, rfl⟩
  rw [sent]
  refine readTopomap_of_reads ?_ ?_ ?_
  · have sameIds :
        replica.vertices.map NodeProperties.id =
          graph.vertices.map NodeProperties.id := by
      rw [List.map_map]
      rfl
    rw [sameIds]
    exact distinct
  · rw [List.forall₂_map_left_iff, List.forall₂_map_right_iff,
      List.forall₂_same]
    intro props _
    exact ⟨rfl, readNodeMsg_convert toFloat props⟩
  · rw [List.forall₂_map_left_iff, List.forall₂_map_right_iff,
      List.forall₂_same]
    intro edge member
    have valid := graph.endsValid edge member
    refine ⟨?_, ?_, readEdgeMsg_convert graph edge⟩
    · exact congrArg idString (sameId edge.source valid.1).symm
    · exact congrArg idString (sameId edge.target valid.2).symm

end Received

section Unchanged

variable {K : Type}

theorem floorStep_sharedNode
    [Field K] [LinearOrder K]
    (height : K)
    (best : WithTop K × Option Nat)
    (node : NodeProperties K)
    (index : Nat) :
    floorStep height best (sharedNode node, index) =
      floorStep height best (node, index) := by
  by_cases floor : node.type = "floor"
  · simp only [floorStep, sharedNode, floor, ↓reduceIte]
  · simp only [floorStep, sharedNode, floor, ↓reduceIte]

theorem findFloorByHeight_congr
    [Field K] [LinearOrder K]
    {first second : TopologicalGraph K}
    (same :
      first.vertices.map sharedNode = second.vertices.map sharedNode)
    (height : K) :
    findFloorByHeight first height = findFloorByHeight second height := by
  have throughShared
      (graph : TopologicalGraph K) :
      findFloorByHeight graph height =
        ((graph.vertices.map sharedNode).zipIdx.foldl
          (floorStep height) (⊤, none)).2 := by
    rw [List.zipIdx_map, List.foldl_map, findFloorByHeight]
    simp only [Prod.map, id_eq, floorStep_sharedNode]
  rw [throughShared, throughShared, same]

/-- Closing a ring changes it exactly when it is open. -/
theorem closeRing_eq_iff
    [DecidableEq K]
    (ring : Ring K) :
    closeRing ring = ring ↔ ring.head? = ring.getLast? := by
  cases ring with
  | nil =>
      simp [closeRing]
  | cons front rest =>
      have last :
          (front :: rest).getLast? =
            some ((front :: rest).getLast (by simp)) :=
        List.getLast?_eq_some_getLast (by simp)
      simp only [closeRing, List.head?_cons, last, Option.some_inj]
      split
      · rename_i apart
        have differs : front ≠ (front :: rest).getLast (by simp) := by
          intro same
          rw [← same] at apart
          simp at apart
        simp [differs]
      · rename_i together
        have equal : front = (front :: rest).getLast (by simp) := by
          rw [not_or, not_not, not_not] at together
          exact Prod.ext together.1 together.2
        simp [← equal]

theorem map_eq_self_iff
    {α : Type}
    {change : α → α}
    {items : List α} :
    items.map change = items ↔ ∀ item ∈ items, change item = item := by
  have pointwise :
      items.map change = items.map id ↔
        ∀ item ∈ items, change item = id item :=
    List.map_inj_left
  simpa using pointwise

/-- Single precision corners are not changed. -/
theorem convertPolygon_of_exact
    {toFloat : K → K}
    {polygon : Polygon K}
    (exactCorners :
      ∀ ring ∈ polygon.outer :: polygon.inners, ∀ point ∈ ring,
        toFloat point.1 = point.1 ∧ toFloat point.2 = point.2) :
    convertPolygon toFloat polygon = polygon := by
  have sameRing
      (ring : Ring K)
      (member : ring ∈ polygon.outer :: polygon.inners) :
      convertRing toFloat ring = ring := by
    refine map_eq_self_iff.mpr ?_
    intro point inRing
    have same := exactCorners ring member point inRing
    exact Prod.ext same.1 same.2
  have sameOuter := sameRing polygon.outer (by simp)
  have sameInners : polygon.inners.map (convertRing toFloat) =
      polygon.inners := by
    refine map_eq_self_iff.mpr ?_
    intro ring member
    exact sameRing ring (by simp [member])
  rw [convertPolygon, sameOuter, sameInners]

/-- A polygon is received unchanged exactly when its rings are closed. -/
theorem convertPolygonFromMessage_eq_iff
    [DecidableEq K]
    (polygon : Polygon K) :
    convertPolygonFromMessage polygon = polygon ↔
      ∀ ring ∈ polygon.outer :: polygon.inners,
        ring.head? = ring.getLast? := by
  obtain ⟨outer, inners⟩ := polygon
  simp only [convertPolygonFromMessage, Polygon.mk.injEq,
    List.forall_mem_cons, closeRing_eq_iff, map_eq_self_iff]

/-- An edge arrives unchanged exactly when its subtype is not empty. -/
theorem edgeContent_replicaEdge_iff
    (edge : StoredEdge K) :
    (edge.mapProperties replicaEdge).mapProperties edgeContent =
        edge.mapProperties edgeContent ↔
      edge.properties.subtype ≠ some "" := by
  rw [← nonemptyText_eq_iff]
  simp [StoredEdge.mapProperties, edgeContent, replicaEdge]

variable [Field K] [DecidableEq K]

theorem receivedBox_eq_iff
    (bbox : Option (BoundingBox K)) :
    (if (bbox.getD BoundingBox.zero).minX ≠ 0 ∨
          (bbox.getD BoundingBox.zero).maxX ≠ 0 then
        some (bbox.getD BoundingBox.zero)
      else
        none) = bbox ↔
      ∀ box ∈ bbox, box.minX ≠ 0 ∨ box.maxX ≠ 0 := by
  cases bbox with
  | none =>
      simp [BoundingBox.zero]
  | some box =>
      simp only [Option.getD_some, Option.mem_some_iff, forall_eq']
      split <;> simp_all

section

variable
  {toFloat : K → K}
  {props : NodeProperties K}
  (exactCorners :
    ∀ polygon ∈ props.polygon,
      ∀ ring ∈ polygon.outer :: polygon.inners, ∀ point ∈ ring,
        toFloat point.1 = point.1 ∧ toFloat point.2 = point.2)

include exactCorners

theorem receivedPolygon_eq_iff :
    (if (convertToTopomapNodeMsg toFloat props).polygon.outer ≠ [] then
        some (convertPolygonFromMessage
          (convertToTopomapNodeMsg toFloat props).polygon)
      else
        none) = props.polygon ↔
      ∀ polygon ∈ props.polygon,
        polygon.outer ≠ [] ∧
          ∀ ring ∈ polygon.outer :: polygon.inners,
            ring.head? = ring.getLast? := by
  cases isPolygon : props.polygon with
  | none =>
      simp [convertToTopomapNodeMsg, isPolygon]
  | some polygon =>
      have sent :
          (convertToTopomapNodeMsg toFloat props).polygon = polygon := by
        simp only [convertToTopomapNodeMsg, isPolygon]
        exact convertPolygon_of_exact (exactCorners polygon (by simp [isPolygon]))
      simp only [sent, Option.mem_some_iff, forall_eq']
      split
      · rename_i corners
        rw [Option.some_inj, convertPolygonFromMessage_eq_iff]
        simp [corners]
      · rename_i noCorners
        simp [noCorners]

/-- A node arrives unchanged exactly when a message can say it. -/
theorem sharedNode_replicaNode_iff :
    sharedNode (replicaNode toFloat props) = sharedNode props ↔
      SendableNode props := by
  have zIff
      (value : Option K) :
      some (value.getD 0) = value ↔ value ≠ none := by
    cases value <;> simp
  have split :
      sharedNode (replicaNode toFloat props) = sharedNode props ↔
        nonemptyText props.subtype = props.subtype ∧
          (props.type = "floor" →
            some (props.minZ.getD 0) = props.minZ ∧
              some (props.maxZ.getD 0) = props.maxZ) ∧
          (props.type = "room" ∨ props.type = "transition" →
            (if (props.bbox.getD BoundingBox.zero).minX ≠ 0 ∨
                  (props.bbox.getD BoundingBox.zero).maxX ≠ 0 then
                some (props.bbox.getD BoundingBox.zero)
              else
                none) = props.bbox) ∧
          (props.type = "room" →
            (if (convertToTopomapNodeMsg toFloat
                  props).polygon.outer ≠ [] then
                some (convertPolygonFromMessage
                  (convertToTopomapNodeMsg toFloat props).polygon)
              else
                none) = props.polygon) ∧
          nonemptyList props.floor = props.floor := by
    simp only [sharedNode, replicaNode, NodeProperties.mk.injEq, true_and]
    have sentBox :
        (convertToTopomapNodeMsg toFloat props).bbox =
          props.bbox.getD BoundingBox.zero :=
      rfl
    by_cases floor : props.type = "floor"
    · simp [floor, convertToTopomapNodeMsg, and_assoc]
    · by_cases room : props.type = "room"
      · simp [room, sentBox]
      · by_cases transition : props.type = "transition"
        · simp [transition, sentBox]
        · simp [floor, room, transition]
  rw [split, nonemptyText_eq_iff, nonemptyList_eq_iff, zIff, zIff,
    receivedBox_eq_iff, receivedPolygon_eq_iff exactCorners]
  constructor
  · rintro ⟨subtype, zRange, bbox, polygon, floor⟩
    exact ⟨subtype, floor, zRange, bbox, polygon⟩
  · rintro ⟨subtype, floor, zRange, bbox, polygon⟩
    exact ⟨subtype, zRange, bbox, polygon, floor⟩

end

end Unchanged

section Names

/-- The first index at which a list has a value. -/
def IsFirst
    {α : Type}
    (items : List α)
    (item : α)
    (index : Nat) : Prop :=
  items[index]? = some item ∧
    ∀ earlier < index, items[earlier]? ≠ some item

/-- The last index at which a list has a value. -/
def IsLast
    {α : Type}
    (items : List α)
    (item : α)
    (index : Nat) : Prop :=
  items[index]? = some item ∧
    ∀ later > index, items[later]? ≠ some item

theorem exists_isFirst
    {α : Type}
    {items : List α}
    {item : α}
    {index : Nat}
    (atIndex : items[index]? = some item) :
    ∃ first ≤ index, IsFirst items item first := by
  classical
  have exists_index : ∃ index, items[index]? = some item :=
    ⟨index, atIndex⟩
  refine ⟨Nat.find exists_index, Nat.find_min' exists_index atIndex,
    Nat.find_spec exists_index, ?_⟩
  intro earlier isEarlier
  exact Nat.find_min exists_index isEarlier

theorem first_iff_last
    (names : List String) :
    (∀ name index,
        (name ≠ "" ∧ IsLast names name index) ↔ IsFirst names name index) ↔
      names.Nodup ∧ "" ∉ names := by
  constructor
  · intro agree
    constructor
    · rw [List.nodup_iff_getElem?_ne_getElem?]
      intro first second before inList same
      have atSecond : names[second]? = some names[second] :=
        List.getElem?_eq_getElem inList
      obtain ⟨index, notLater, isFirst⟩ :=
        exists_isFirst (same.trans atSecond)
      have isLast := ((agree _ _).mpr isFirst).2
      exact isLast.2 second (by omega) atSecond
    · intro member
      obtain ⟨index, atIndex⟩ := List.mem_iff_getElem?.mp member
      obtain ⟨first, -, isFirst⟩ := exists_isFirst atIndex
      exact ((agree _ _).mpr isFirst).1 rfl
  · rintro ⟨distinct, named⟩ name index
    have unique
        {first second : Nat}
        (atFirst : names[first]? = some name)
        (atSecond : names[second]? = some name) :
        first = second := by
      obtain ⟨inList, -⟩ := List.getElem?_eq_some_iff.mp atFirst
      exact (List.getElem?_inj inList distinct).mp
        (atFirst.trans atSecond.symm)
    constructor
    · rintro ⟨-, atIndex, -⟩
      refine ⟨atIndex, ?_⟩
      intro earlier before atEarlier
      have same := unique atEarlier atIndex
      omega
    · rintro ⟨atIndex, -⟩
      refine ⟨?_, atIndex, ?_⟩
      · rintro rfl
        exact named (List.mem_of_getElem? atIndex)
      · intro later after atLater
        have same := unique atLater atIndex
        omega

section Append

variable {α : Type} {items : List α} {item last : α}

theorem getElem?_append_singleton_iff
    {index : Nat} :
    (items ++ [last])[index]? = some item ↔
      items[index]? = some item ∨ (index = items.length ∧ last = item) := by
  rw [List.getElem?_append]
  split
  · rename_i inList
    have notLength : index ≠ items.length := by omega
    simp [notLength]
  · rename_i beyond
    rw [List.getElem?_singleton, List.getElem?_eq_none (by omega)]
    split
    · rename_i isLast
      have isLength : index = items.length := by omega
      simp [isLength]
    · rename_i notLast
      simp
      omega

theorem isLast_append_same
    {index : Nat} :
    IsLast (items ++ [item]) item index ↔ index = items.length := by
  simp only [IsLast, ne_eq, getElem?_append_singleton_iff]
  constructor
  · rintro ⟨atIndex | isLength, noneLater⟩
    · obtain ⟨inList, -⟩ := List.getElem?_eq_some_iff.mp atIndex
      exact absurd (Or.inr (by simp)) (noneLater items.length inList)
    · exact isLength.1
  · rintro rfl
    refine ⟨Or.inr (by simp), ?_⟩
    rintro later isLater (atLater | isLength)
    · obtain ⟨inList, -⟩ := List.getElem?_eq_some_iff.mp atLater
      omega
    · omega

/-- Appending another value changes nothing. -/
theorem isLast_append_other
    {index : Nat}
    (other : last ≠ item) :
    IsLast (items ++ [last]) item index ↔ IsLast items item index := by
  simp [IsLast, getElem?_append_singleton_iff, other]

end Append

variable {K : Type}

theorem findVertexByName_eq_some_iff
    (graph : TopologicalGraph K)
    (name : String)
    (vertex : Nat) :
    (TopologicalMap.ofGraph graph).findVertexByName name = some vertex ↔
      name ≠ "" ∧
        IsLast (graph.vertices.map NodeProperties.name) name vertex := by
  simp only [TopologicalMap.findVertexByName, TopologicalMap.ofGraph,
    TopologicalMap.buildLookupMaps]
  induction graph.vertices using List.reverseRecOn generalizing vertex with
  | nil =>
      simp [IsLast]
  | append_singleton vertices last inductionHypothesis =>
      simp only [List.zipIdx_append, List.zipIdx_singleton,
        List.foldl_append, List.foldl_cons, List.foldl_nil, Nat.zero_add,
        List.map_append, List.map_cons, List.map_nil]
      split
      · rename_i unnamed
        rw [inductionHypothesis]
        refine and_congr_right fun named => ?_
        rw [isLast_append_other]
        intro isName
        exact named (isName.symm.trans (String.isEmpty_iff.mp unnamed))
      · rename_i isNamed
        rw [String.isEmpty_iff] at isNamed
        by_cases isName : last.name = name
        · subst isName
          rw [Function.update_self, isLast_append_same, Option.some_inj,
            List.length_map]
          exact ⟨fun same => ⟨isNamed, same.symm⟩, fun same => same.2.symm⟩
        · rw [Function.update_of_ne (Ne.symm isName), inductionHypothesis,
            isLast_append_other isName]

variable [Field K]

theorem getVertexByName_eq_some_iff
    (graph : TopologicalGraph K)
    (name : String)
    (vertex : Nat) :
    getVertexByName graph name = some vertex ↔
      IsFirst (graph.vertices.map NodeProperties.name) name vertex := by
  have nameAt
      {vertex : Nat}
      (inGraph : vertex < graph.vertices.length) :
      (graph.vertices.map NodeProperties.name)[vertex]? = some name ↔
        (graph.node vertex).name = name := by
    simp [TopologicalGraph.node, inGraph]
  simp only [getVertexByName, List.find?_range_eq_some, IsFirst,
    List.mem_range, TopologicalGraph.numVertices, beq_iff_eq,
    Bool.not_eq_eq_eq_not, Bool.not_true, beq_eq_false_iff_ne]
  constructor
  · rintro ⟨isName, inGraph, noneBefore⟩
    refine ⟨(nameAt inGraph).mpr isName, ?_⟩
    intro earlier before atEarlier
    exact noneBefore earlier before ((nameAt (by omega)).mp atEarlier)
  · rintro ⟨atVertex, noneBefore⟩
    have inGraph : vertex < graph.vertices.length := by
      obtain ⟨inList, -⟩ := List.getElem?_eq_some_iff.mp atVertex
      simpa using inList
    refine ⟨(nameAt inGraph).mp atVertex, inGraph, ?_⟩
    intro earlier before isName
    exact noneBefore earlier before ((nameAt (by omega)).mpr isName)

theorem names_agree_iff
    {graph : TopologicalGraph K}
    {received : TopologicalGraph K}
    (sameNames :
      received.vertices.map NodeProperties.name =
        graph.vertices.map NodeProperties.name) :
    (∀ name,
        (TopologicalMap.ofGraph received).findVertexByName name =
          getVertexByName graph name) ↔
      (graph.vertices.map NodeProperties.name).Nodup ∧
        "" ∉ graph.vertices.map NodeProperties.name := by
  rw [← first_iff_last]
  refine forall_congr' fun name => ?_
  constructor
  · intro same vertex
    rw [← getVertexByName_eq_some_iff, ← same,
      findVertexByName_eq_some_iff, sameNames]
  · intro same
    apply Option.ext
    intro vertex
    rw [getVertexByName_eq_some_iff, findVertexByName_eq_some_iff,
      sameNames, same]

end Names

section Agreement

variable {K : Type} [Field K] [LinearOrder K]

/--
The replica that the planner loads from the server's message agrees with the
server's map exactly when the message can say everything about the map.
-/
theorem replica_agrees_iff
    (toFloat : K → K)
    (graph : TopologicalGraph K)
    (distinct : (graph.vertices.map NodeProperties.id).Nodup)
    (representable : Representable toFloat graph)
    (previous : TopologicalMap K) :
    let loaded :=
      previous.loadFromMessage (getTopologicalMap toFloat graph).topomap
    (loaded.1 = true ∧ ReplicaAgrees graph loaded.2) ↔ Sendable graph := by
  obtain ⟨received, isReceived, vertices, edges⟩ :=
    readTopomap_getTopologicalMap toFloat graph distinct
  have loads :
      previous.loadFromMessage (getTopologicalMap toFloat graph).topomap =
        (true, TopologicalMap.ofGraph received) := by
    simp [TopologicalMap.loadFromMessage, isReceived]
  have nodesIff :
      received.vertices.map sharedNode = graph.vertices.map sharedNode ↔
        ∀ node ∈ graph.vertices, SendableNode node := by
    rw [vertices, List.map_map, List.map_inj_left]
    exact forall₂_congr fun node member =>
      sharedNode_replicaNode_iff (representable node member)
  have edgesIff :
      received.edges.map (StoredEdge.mapProperties edgeContent) =
          graph.edges.map (StoredEdge.mapProperties edgeContent) ↔
        ∀ edge ∈ graph.edges, edge.properties.subtype ≠ some "" := by
    rw [edges, List.map_map, List.map_inj_left]
    exact forall₂_congr fun edge _ => edgeContent_replicaEdge_iff edge
  have sameNames :
      received.vertices.map NodeProperties.name =
        graph.vertices.map NodeProperties.name := by
    rw [vertices, List.map_map]
    rfl
  have namesIff := names_agree_iff sameNames
  simp only [loads, true_and]
  constructor
  · intro agrees
    have names := namesIff.mp agrees.names
    exact ⟨nodesIff.mp agrees.vertices, edgesIff.mp agrees.edges,
      names.1, names.2⟩
  · intro sendable
    have sameNodes := nodesIff.mpr sendable.nodes
    exact ⟨sameNodes, edgesIff.mpr sendable.edges,
      findFloorByHeight_congr sameNodes,
      namesIff.mpr ⟨sendable.distinctNames, sendable.named⟩⟩

end Agreement

section Doors

/-- A hall with one door on the ground floor. -/
def hallMap
    (doorBox : BoundingBox ℚ) : TopologicalGraph ℚ where
  vertices :=
    [{ (NodeProperties.unset : NodeProperties ℚ) with
        id := 1
        name := "Ground"
        type := "floor"
        minZ := some 0
        maxZ := some 3 },
      { (NodeProperties.unset : NodeProperties ℚ) with
        id := 2
        name := "Hall"
        type := "room"
        position := ⟨2, 2, 0⟩
        bbox := some ⟨0, 4, 0, 4, 0, 3⟩
        polygon := some ⟨[(0, 0), (4, 0), (4, 4), (0, 4), (0, 0)], []⟩
        floor := some ["Ground"] },
      { (NodeProperties.unset : NodeProperties ℚ) with
        id := 3
        name := "Door"
        type := "transition"
        subtype := some "door"
        position := ⟨0, 2, 0⟩
        bbox := some doorBox
        floor := some ["Ground"] }]
  edges :=
    [⟨1, 2, { (EdgeProperties.unset : EdgeProperties ℚ) with
        id := 1
        type := "room" }⟩]
  endsValid := by simp

theorem hallMap_loaded
    (doorBox : BoundingBox ℚ) :
    loadFromJson (toJson (hallMap doorBox)) = some (hallMap doorBox) := by
  have distinct : ([1, 2, 3] : List Int32).Nodup := by
    decide
  obtain ⟨reloaded, isReloaded, vertices, edges⟩ :=
    loadFromJson_toJson (hallMap doorBox) distinct
  rw [isReloaded, Option.some_inj]
  exact TopologicalGraph.ext (vertices.trans rfl) (edges.trans rfl)

/-- A door without thickness in the plane `x = 0` loses its bounding box. -/
theorem thin_door_loses_box :
    let graph := hallMap ⟨0, 0, 1, 3, 0, 2⟩
    let loaded :=
      TopologicalMap.empty.loadFromMessage
        (getTopologicalMap (fun value => value) graph).topomap
    loadFromJson (toJson graph) = some graph ∧
      (graph.vertices.map NodeProperties.id).Nodup ∧
      Representable (fun value => value) graph ∧
      ¬ (loaded.1 = true ∧ ReplicaAgrees graph loaded.2) := by
  refine ⟨hallMap_loaded _, by decide, ?_, ?_⟩
  · intro node _ polygon _ ring _ point _
    exact ⟨rfl, rfl⟩
  · rintro ⟨-, agrees⟩
    exact absurd agrees.vertices (by decide +kernel)

/-- A door of some thickness arrives. -/
theorem thick_door_arrives :
    let graph := hallMap ⟨-1, 1, 1, 3, 0, 2⟩
    let loaded :=
      TopologicalMap.empty.loadFromMessage
        (getTopologicalMap (fun value => value) graph).topomap
    loadFromJson (toJson graph) = some graph ∧
      loaded.1 = true ∧ ReplicaAgrees graph loaded.2 := by
  refine ⟨hallMap_loaded _, ?_⟩
  refine (replica_agrees_iff (fun value => value) (hallMap _) (by decide)
    (fun _ _ _ _ _ _ _ _ => ⟨rfl, rfl⟩) TopologicalMap.empty).mpr ?_
  refine ⟨?_, by decide, by decide, by decide⟩
  intro node member
  simp only [hallMap, List.mem_cons, List.not_mem_nil, or_false] at member
  rcases member with rfl | rfl | rfl
  · exact ⟨by decide, by decide, by simp, by simp [NodeProperties.unset],
      by simp [NodeProperties.unset]⟩
  · exact ⟨by decide, by decide, by simp, by simp, by simp⟩
  · exact ⟨by decide, by decide, by simp, by simp,
      by simp [NodeProperties.unset]⟩

end Doors

end NavBim
