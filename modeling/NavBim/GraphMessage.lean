import NavBim.OptionalFolds
import NavBim.TopomapReplica

namespace NavBim

/-!
# Graphs as messages

`convertGraphToMessage` writes the planner's graph back into a `Topomap`
message, for the pruned graph that is published.  It does the work of the
server's conversion once more, but assigns the number of a room directly to the
text of the message.
-/

section Encoding

variable {K : Type} [Field K]

/--
`std::string` assigned from an `int`: the number is converted to a `char`,
which becomes the only character of the text.
-/
def assignedText
    (value : Int32) : String :=
  String.singleton (Char.ofNat (value.toInt % 256).toNat)

/-- The message of a node, as `convertGraphToMessage` fills it. -/
def graphNodeMsg
    (toFloat : K → K)
    (props : NodeProperties K) : TopomapNode K where
  id := idString props.id
  name := props.name
  type := props.type
  ifcGuid := props.ifcGuid.getD ""
  position := props.position
  minZ := if props.type = "floor" then props.minZ.getD 0 else 0
  maxZ := if props.type = "floor" then props.maxZ.getD 0 else 0
  floor := props.floor.getD []
  subtype := props.subtype.getD ""
  bbox := props.bbox.getD BoundingBox.zero
  polygon :=
    match props.polygon with
    | some polygon => convertPolygon toFloat polygon
    | none => ⟨[], []⟩

/-- The message of an edge, as `convertGraphToMessage` fills it. -/
def graphEdgeMsg
    (graph : TopologicalGraph K)
    (edge : StoredEdge K) : TopomapEdge K :=
  let props := edge.properties
  { source := idString (graph.node edge.source).id
    target := idString (graph.node edge.target).id
    id := idString props.id
    type := props.type
    subtype := props.subtype.getD ""
    roomId :=
      match props.roomId with
      | some roomId => assignedText roomId
      | none => ""
    estimatedDistance := props.estimatedDistance
    plannedDistance := props.plannedDistance
    estimatedCost := props.estimatedCost
    plannedCost := props.plannedCost
    path :=
      match props.path with
      | some (first :: rest) => ⟨"ifc", first :: rest⟩
      | _ => ⟨"", []⟩ }

/-- `convertGraphToMessage`. -/
def convertGraphToMessage
    (toFloat : K → K)
    (graph : TopologicalGraph K) : Topomap K where
  nodes := graph.vertices.map (graphNodeMsg toFloat)
  edges := graph.edges.map (graphEdgeMsg graph)

end Encoding

section Texts

/-- A single character is read as a number only if it is a digit. -/
theorem stoi_singleton
    {char : Char}
    {value : Int32}
    (reads : stoi (String.singleton char) = some value) :
    48 ≤ char.toNat ∧ value.toInt + 48 = char.toNat := by
  by_cases digit : char.isDigit = true
  · have bounds : 48 ≤ char.toNat ∧ char.toNat ≤ 57 := by
      simp only [Char.isDigit, ge_iff_le, Bool.and_eq_true,
        decide_eq_true_eq, UInt32.le_iff_toNat_le] at digit
      exact digit
    have small : ((char.toNat - '0'.toNat : Nat) : Int) < 2 ^ 31 := by
      simp only [Char.reduceToNat]
      omega
    simp only [stoi, String.toList_singleton, List.dropWhile_cons,
      isSpace_of_isDigit digit, Bool.false_eq_true, if_false,
      splitSign_of_isDigit [] digit, List.takeWhile_cons, digit, if_true,
      List.takeWhile_nil, List.isEmpty_cons, Nat.ofDigitChars_cons,
      Nat.ofDigitChars_nil, Nat.mul_zero, Nat.zero_add] at reads
    split at reads
    · rw [← Option.some.inj reads,
        Int32.toInt_ofInt_of_le (by omega) small]
      simp only [Char.reduceToNat]
      omega
    · cases reads
  · exfalso
    have noDigits :
        (splitSign ([char].dropWhile isSpace)).2.takeWhile Char.isDigit =
          [] := by
      rw [List.dropWhile_cons]
      split
      · rfl
      · unfold splitSign
        split
        · rename_i minus
          cases minus
          rfl
        · rename_i plus
          cases plus
          rfl
        · simp [digit]
    simp [stoi, noDigits] at reads

/--
No number is read back from the text it was assigned to: the digits have the
codes 48 to 57, and stand for other numbers.
-/
theorem stoi_assignedText_ne
    (value : Int32) :
    stoi (assignedText value) ≠ some value := by
  intro reads
  have isValid : (value.toInt % 256).toNat.isValidChar :=
    Or.inl (by omega)
  have code :
      (Char.ofNat (value.toInt % 256).toNat).toNat =
        (value.toInt % 256).toNat := by
    simp [Char.ofNat, isValid, Char.ofNatAux, Char.toNat]
  have digit := stoi_singleton reads
  rw [code] at digit
  omega

@[simp] theorem isEmpty_assignedText
    (value : Int32) :
    (assignedText value).isEmpty = false := by
  simp [assignedText]

end Texts

section Received

variable {K : Type}

/-- The form of the nodes that are read from a message. -/
structure ReceivedNode
    [Field K]
    (props : NodeProperties K) : Prop where
  sendable : SendableNode props
  ifcGuid : props.ifcGuid ≠ some ""
  noRange :
    props.type ≠ "floor" → props.minZ = none ∧ props.maxZ = none
  noBox :
    ¬ (props.type = "room" ∨ props.type = "transition") →
      props.bbox = none
  noPolygon : props.type ≠ "room" → props.polygon = none

/-- The form of the edges that are read from a message. -/
structure ReceivedEdge
    (props : EdgeProperties K) : Prop where
  subtype : props.subtype ≠ some ""
  path : props.path ≠ some []
  pathFrameId : props.pathFrameId = "ifc"

theorem textIfAny_ne
    (text : String) :
    textIfAny text ≠ some "" := by
  unfold textIfAny
  split
  · simp
  · rename_i nonempty
    intro isEmpty
    rw [Option.some_inj] at isEmpty
    rw [isEmpty] at nonempty
    exact nonempty rfl

theorem listIfAny_ne
    {α : Type}
    (items : List α) :
    listIfAny items ≠ some [] := by
  unfold listIfAny
  split
  · simp
  · rename_i nonempty
    intro isEmpty
    rw [Option.some_inj] at isEmpty
    rw [isEmpty] at nonempty
    exact nonempty rfl

theorem receivedEdge_of_read
    {msg : TopomapEdge K}
    {props : EdgeProperties K}
    (reads : readEdgeMsg msg = some props) :
    ReceivedEdge props ∧
      (msg.roomId.isEmpty = false → stoi msg.roomId = props.roomId) := by
  obtain ⟨id, -, withId⟩ := Option.bind_eq_some_iff.mp reads
  cases noRoom : msg.roomId.isEmpty with
  | true =>
      rw [noRoom, if_pos rfl] at withId
      rw [← Option.some.inj withId]
      exact ⟨⟨textIfAny_ne _, listIfAny_ne _, rfl⟩, by simp⟩
  | false =>
      rw [noRoom, if_neg (by simp)] at withId
      obtain ⟨readId, isReadId, isProps⟩ :=
        Option.bind_eq_some_iff.mp withId
      obtain ⟨roomId, isRoomId, sameRoom⟩ :=
        Option.map_eq_some_iff.mp isReadId
      rw [← Option.some.inj isProps]
      exact ⟨⟨textIfAny_ne _, listIfAny_ne _, rfl⟩,
        fun _ => isRoomId.trans sameRoom⟩

theorem closeRing_closed
    [DecidableEq K]
    (ring : Ring K) :
    (closeRing ring).head? = (closeRing ring).getLast? := by
  unfold closeRing
  split
  · rename_i front back isFront isBack
    split
    · rw [List.getLast?_concat, List.head?_append, isFront]
      rfl
    · rename_i together
      rw [not_or, not_not, not_not] at together
      rw [isFront, isBack, Prod.ext together.1 together.2]
  · rename_i noEnds
    cases ring with
    | nil => rfl
    | cons front rest =>
        exact absurd (List.getLast?_eq_some_getLast (by simp))
          (noEnds front _ rfl)

/-- Closing a ring does not empty it. -/
theorem closeRing_ne_nil
    [DecidableEq K]
    {ring : Ring K}
    (nonempty : ring ≠ []) :
    closeRing ring ≠ [] := by
  unfold closeRing
  split
  · split
    · simp
    · exact nonempty
  · exact nonempty

variable [Field K]

theorem readEdgeMsg_graphEdgeMsg_iff
    (graph : TopologicalGraph K)
    {edge : StoredEdge K}
    (received : ReceivedEdge edge.properties) :
    readEdgeMsg (graphEdgeMsg graph edge) = some edge.properties ↔
      edge.properties.roomId = none := by
  constructor
  · intro reads
    cases isRoom : edge.properties.roomId with
    | none => rfl
    | some roomId =>
        have readRoom := (receivedEdge_of_read reads).2
        simp only [graphEdgeMsg, isRoom, isEmpty_assignedText,
          forall_const] at readRoom
        exact absurd readRoom (stoi_assignedText_ne roomId)
  · intro noRoom
    have same :
        readEdgeMsg (graphEdgeMsg graph edge) =
          readEdgeMsg (convertToTopomapEdgeMsg graph edge) := by
      have samePoses :
          (graphEdgeMsg graph edge).path.poses =
            (convertToTopomapEdgeMsg graph edge).path.poses := by
        simp only [graphEdgeMsg, convertToTopomapEdgeMsg]
        cases edge.properties.path with
        | none => rfl
        | some poses => cases poses <;> rfl
      simp only [readEdgeMsg, samePoses]
      simp [graphEdgeMsg, convertToTopomapEdgeMsg, noRoom]
    rw [same, readEdgeMsg_convert]
    have sameSubtype := nonemptyText_eq_iff.mpr received.subtype
    have samePath := nonemptyList_eq_iff.mpr received.path
    simp [replicaEdge, sameSubtype, samePath, received.pathFrameId.symm]

theorem foldlM_receiveEdge_reads
    {idMap : String → Option Nat}
    (msgs : List (TopomapEdge K)) :
    ∀ {graph final : TopologicalGraph K},
      (∀ msg ∈ msgs,
        (idMap msg.source).isSome = true ∧
          (idMap msg.target).isSome = true) →
      msgs.foldlM (receiveEdge idMap) graph = some final →
      ∃ added,
        final.edges = graph.edges ++ added ∧
          List.Forall₂ (fun msg edge =>
            readEdgeMsg msg = some edge.properties) msgs added := by
  induction msgs with
  | nil =>
      intro graph final _ run
      rw [← Option.some.inj run]
      exact ⟨[], by simp, .nil⟩
  | cons msg rest inductionHypothesis =>
      intro graph final known run
      obtain ⟨source, target⟩ := known msg List.mem_cons_self
      obtain ⟨u, isSource⟩ := Option.isSome_iff_exists.mp source
      obtain ⟨v, isTarget⟩ := Option.isSome_iff_exists.mp target
      rw [List.foldlM_cons] at run
      obtain ⟨next, isNext, continues⟩ := Option.bind_eq_some_iff.mp run
      simp only [receiveEdge, isSource, isTarget] at isNext
      obtain ⟨props, reads, isAdded⟩ := Option.map_eq_some_iff.mp isNext
      obtain ⟨added, edges, allRead⟩ :=
        inductionHypothesis
          (fun other member => known other (List.mem_cons_of_mem _ member))
          continues
      refine ⟨⟨u, v, props⟩ :: added, ?_, .cons reads allRead⟩
      rw [edges, ← isAdded]
      simp [TopologicalGraph.addEdge]

variable [DecidableEq K]

/-- Nodes are read in this form. -/
theorem receivedNode_of_read
    {msg : TopomapNode K}
    {props : NodeProperties K}
    (reads : readNodeMsg msg = some props) :
    ReceivedNode props := by
  obtain ⟨id, -, isProps⟩ := Option.bind_eq_some_iff.mp reads
  rw [← Option.some.inj isProps]
  refine ⟨⟨textIfAny_ne _, listIfAny_ne _, ?_, ?_, ?_⟩, textIfAny_ne _,
    ?_, ?_, ?_⟩
  · intro isFloor
    simp only at isFloor
    simp [isFloor]
  · intro hasBox bbox isBox
    simp only at hasBox isBox
    rw [if_pos hasBox] at isBox
    split at isBox
    · rename_i nonzero
      cases isBox
      exact nonzero
    · cases isBox
  · intro isRoom polygon isPolygon
    simp only at isPolygon
    split at isPolygon
    · rename_i corners
      cases isPolygon
      refine ⟨?_, ?_⟩
      · exact closeRing_ne_nil corners.2
      · intro ring member
        rcases List.mem_cons.mp member with isOuter | isInner
        · rw [isOuter]
          exact closeRing_closed _
        · obtain ⟨old, -, isRing⟩ := List.mem_map.mp isInner
          rw [← isRing]
          exact closeRing_closed _
    · cases isPolygon
  · intro notFloor
    simp only at notFloor
    simp [notFloor]
  · intro noBox
    simp only at noBox
    simp [noBox]
  · intro notRoom
    simp only at notRoom
    simp [notRoom]

theorem readNodeMsg_graphNodeMsg
    {toFloat : K → K}
    {props : NodeProperties K}
    (exactCorners :
      ∀ polygon ∈ props.polygon,
        ∀ ring ∈ polygon.outer :: polygon.inners, ∀ point ∈ ring,
          toFloat point.1 = point.1 ∧ toFloat point.2 = point.2)
    (received : ReceivedNode props) :
    readNodeMsg (graphNodeMsg toFloat props) = some props := by
  have same :
      readNodeMsg (graphNodeMsg toFloat props) =
        readNodeMsg (convertToTopomapNodeMsg toFloat props) := by
    have isConverted :
        graphNodeMsg toFloat props =
          let converted := convertToTopomapNodeMsg toFloat props
          { converted with
            minZ := if converted.type = "floor" then converted.minZ else 0
            maxZ := if converted.type = "floor" then converted.maxZ else 0 } :=
      rfl
    rw [isConverted]
    by_cases isFloor : (convertToTopomapNodeMsg toFloat props).type = "floor"
    · simp only [readNodeMsg, isFloor, if_true]
    · simp only [readNodeMsg, isFloor, if_false]
  rw [same, readNodeMsg_convert, Option.some_inj]
  have sameSubtype := nonemptyText_eq_iff.mpr received.sendable.subtype
  have sameGuid := nonemptyText_eq_iff.mpr received.ifcGuid
  have sameFloor := nonemptyList_eq_iff.mpr received.sendable.floor
  have sameRange :
      (if props.type = "floor" then some (props.minZ.getD 0) else none) =
          props.minZ ∧
        (if props.type = "floor" then some (props.maxZ.getD 0)
          else none) = props.maxZ := by
    by_cases isFloor : props.type = "floor"
    · obtain ⟨hasMin, hasMax⟩ := received.sendable.zRange isFloor
      obtain ⟨minZ, isMin⟩ := Option.ne_none_iff_exists'.mp hasMin
      obtain ⟨maxZ, isMax⟩ := Option.ne_none_iff_exists'.mp hasMax
      simp [isFloor, isMin, isMax]
    · obtain ⟨noMin, noMax⟩ := received.noRange isFloor
      simp [isFloor, noMin, noMax]
  have sameBox :
      (if props.type = "room" ∨ props.type = "transition" then
          if (props.bbox.getD BoundingBox.zero).minX ≠ 0 ∨
              (props.bbox.getD BoundingBox.zero).maxX ≠ 0 then
            some (props.bbox.getD BoundingBox.zero)
          else
            none
        else
          none) = props.bbox := by
    by_cases hasBox : props.type = "room" ∨ props.type = "transition"
    · rw [if_pos hasBox]
      exact (receivedBox_eq_iff props.bbox).mpr
        (received.sendable.bbox hasBox)
    · rw [if_neg hasBox, received.noBox hasBox]
  have samePolygon :
      (if props.type = "room" ∧
          (convertToTopomapNodeMsg toFloat props).polygon.outer ≠ [] then
          some (convertPolygonFromMessage
            (convertToTopomapNodeMsg toFloat props).polygon)
        else
          none) = props.polygon := by
    by_cases isRoom : props.type = "room"
    · simp only [isRoom, true_and]
      exact (receivedPolygon_eq_iff exactCorners).mpr
        (received.sendable.polygon isRoom)
    · rw [if_neg (by simp [isRoom]), received.noPolygon isRoom]
  obtain ⟨id, name, type, subtype, position, ifcGuid, minZ, maxZ, bbox,
    polygon, floor⟩ := props
  simp only [replicaNode, NodeProperties.mk.injEq, true_and]
  exact ⟨sameSubtype, sameGuid, sameRange.1, sameRange.2, sameBox,
    samePolygon, sameFloor⟩

theorem received_of_readTopomap
    {topomap : Topomap K}
    {graph : TopologicalGraph K}
    (isReceived : readTopomap topomap = some graph) :
    (∀ node ∈ graph.vertices, ReceivedNode node) ∧
      ∀ edge ∈ graph.edges, ReceivedEdge edge.properties := by
  obtain ⟨nodes, isNodes, isGraph⟩ :=
    Option.bind_eq_some_iff.mp isReceived
  have nodesReceived :
      (∀ node ∈ nodes.graph.vertices, ReceivedNode node) ∧
        nodes.graph.edges = [] ∧
        ∀ id vertex,
          nodes.idMap id = some vertex →
            vertex < nodes.graph.numVertices := by
    refine foldlM_keeps
      (motive := fun received : ReceivedNodes K =>
        (∀ node ∈ received.graph.vertices, ReceivedNode node) ∧
          received.graph.edges = [] ∧
          ∀ id vertex,
            received.idMap id = some vertex →
              vertex < received.graph.numVertices)
      ?_ topomap.nodes ?_ isNodes
    · rintro received next msg ⟨vertices, edges, known⟩ isNext
      obtain ⟨props, reads, isNext⟩ := Option.bind_eq_some_iff.mp isNext
      rw [← Option.some.inj isNext]
      refine ⟨?_, edges, ?_⟩
      · intro node member
        rcases List.mem_append.mp member with old | new
        · exact vertices node old
        · rw [List.mem_singleton] at new
          rw [new]
          exact receivedNode_of_read reads
      · intro id vertex isVertex
        have size :
            (received.graph.addVertex props).numVertices =
              received.graph.numVertices + 1 := by
          simp [TopologicalGraph.addVertex, TopologicalGraph.numVertices]
        simp only [size, Function.update_apply] at isVertex ⊢
        split at isVertex
        · rw [Option.some_inj] at isVertex
          omega
        · have old := known id vertex isVertex
          omega
    · refine ⟨?_, rfl, ?_⟩
      · intro node member
        cases member
      · intro id vertex isVertex
        cases isVertex
  obtain ⟨vertices, noEdges, known⟩ := nodesReceived
  have edgesReceived :
      graph.vertices = nodes.graph.vertices ∧
        ∀ edge ∈ graph.edges, ReceivedEdge edge.properties := by
    refine foldlM_keeps
      (motive := fun built : TopologicalGraph K =>
        built.vertices = nodes.graph.vertices ∧
          ∀ edge ∈ built.edges, ReceivedEdge edge.properties)
      ?_ topomap.edges ⟨rfl, ?_⟩ isGraph
    · rintro built next msg ⟨sameVertices, edges⟩ isNext
      unfold receiveEdge at isNext
      split at isNext
      · rename_i u v isSource isTarget
        obtain ⟨props, reads, isAdded⟩ :=
          Option.map_eq_some_iff.mp isNext
        have sameSize : built.numVertices = nodes.graph.numVertices :=
          congrArg List.length sameVertices
        rw [← isAdded]
        refine ⟨?_, ?_⟩
        · rw [TopologicalGraph.vertices_addEdge
            (by rw [sameSize]; exact known _ _ isSource)
            (by rw [sameSize]; exact known _ _ isTarget)]
          exact sameVertices
        · intro edge member
          rcases List.mem_append.mp member with old | new
          · exact edges edge old
          · rw [List.mem_singleton] at new
            rw [new]
            exact (receivedEdge_of_read reads).1
      · rw [← Option.some.inj isNext]
        exact ⟨sameVertices, edges⟩
    · intro edge member
      rw [noEdges] at member
      cases member
  refine ⟨?_, edgesReceived.2⟩
  rw [edgesReceived.1]
  exact vertices

/--
The message of a received graph is received as the same graph exactly when no
edge of the graph belongs to a room.
-/
theorem convertGraphToMessage_faithful_iff
    (toFloat : K → K)
    (topomap : Topomap K)
    (graph : TopologicalGraph K)
    (isReceived : readTopomap topomap = some graph)
    (distinct : (graph.vertices.map NodeProperties.id).Nodup)
    (representable : Representable toFloat graph)
    (previous : TopologicalMap K) :
    (previous.loadFromMessage
          (convertGraphToMessage toFloat graph)).1 = true ∧
        (previous.loadFromMessage
          (convertGraphToMessage toFloat graph)).2.graph = graph ↔
      ∀ edge ∈ graph.edges, edge.properties.roomId = none := by
  obtain ⟨nodeForm, edgeForm⟩ := received_of_readTopomap isReceived
  have nodeReads :
      List.Forall₂ NodeReads (graph.vertices.map (graphNodeMsg toFloat))
        graph.vertices := by
    rw [List.forall₂_map_left_iff, List.forall₂_same]
    intro props member
    exact ⟨rfl, readNodeMsg_graphNodeMsg (representable props member)
      (nodeForm props member)⟩
  have isLoaded :
      ((previous.loadFromMessage
            (convertGraphToMessage toFloat graph)).1 = true ∧
          (previous.loadFromMessage
            (convertGraphToMessage toFloat graph)).2.graph = graph) ↔
        readTopomap (convertGraphToMessage toFloat graph) =
          some graph := by
    unfold TopologicalMap.loadFromMessage
    cases readTopomap (convertGraphToMessage toFloat graph) with
    | none => simp
    | some received => simp [TopologicalMap.ofGraph]
  rw [isLoaded]
  constructor
  · intro reads
    obtain ⟨nodes, isNodes, vertices, noEdges, idKnown⟩ :=
      foldlM_receiveNode_known nodeReads distinct
    rw [readTopomap] at reads
    obtain ⟨received, isNodes', isGraph⟩ :=
      Option.bind_eq_some_iff.mp reads
    have sameNodes : received = nodes :=
      Option.some.inj (isNodes'.symm.trans isNodes)
    rw [sameNodes] at isGraph
    obtain ⟨added, isAdded, allRead⟩ :=
      foldlM_receiveEdge_reads _ (by
        intro msg member
        obtain ⟨edge, inEdges, isMsg⟩ := List.mem_map.mp member
        have valid := graph.endsValid edge inEdges
        rw [← isMsg]
        constructor
        · exact Option.isSome_iff_exists.mpr ⟨_, idKnown _ valid.1⟩
        · exact Option.isSome_iff_exists.mpr ⟨_, idKnown _ valid.2⟩)
        isGraph
    rw [noEdges, List.nil_append] at isAdded
    rw [← isAdded] at allRead
    have edgeReads :
        ∀ edge ∈ graph.edges,
          readEdgeMsg (graphEdgeMsg graph edge) =
            some edge.properties :=
      List.forall₂_same.mp (List.forall₂_map_left_iff.mp allRead)
    intro edge member
    exact (readEdgeMsg_graphEdgeMsg_iff graph
      (edgeForm edge member)).mp (edgeReads edge member)
  · intro noRooms
    refine readTopomap_of_reads distinct nodeReads ?_
    change List.Forall₂ (EdgeReads graph)
      (graph.edges.map (graphEdgeMsg graph)) graph.edges
    rw [List.forall₂_map_left_iff, List.forall₂_same]
    intro edge member
    exact ⟨rfl, rfl,
      (readEdgeMsg_graphEdgeMsg_iff graph (edgeForm edge member)).mpr
        (noRooms edge member)⟩

end Received

section Samples

/-- Two doors of the room with the given id, if any. -/
def suiteMessage
    (roomId : String) : Topomap ℚ where
  nodes :=
    [⟨"1", "left", "transition", "", ⟨0, 0, 0⟩, 0, 0, ["ground"], "door",
        ⟨0, 1, 0, 1, 0, 2⟩, ⟨[], []⟩⟩,
      ⟨"2", "right", "transition", "", ⟨4, 0, 0⟩, 0, 0, ["ground"], "door",
        ⟨4, 5, 0, 1, 0, 2⟩, ⟨[], []⟩⟩,
      ⟨"5", "suite", "room", "", ⟨2, 0, 0⟩, 0, 0, ["ground"], "",
        ⟨0, 5, 0, 3, 0, 3⟩, ⟨[(0, 0), (5, 0), (5, 3), (0, 3)], []⟩⟩]
  edges :=
    [⟨"1", "2", "7", "transition", "", roomId, 4, -1, 4, -1, ⟨"", []⟩⟩]

/-- The graph of the two doors and their room. -/
def suiteMap
    (roomId : Option Int32) : TopologicalGraph ℚ where
  vertices :=
    [⟨1, "left", "transition", some "door", ⟨0, 0, 0⟩, none, none, none,
        some ⟨0, 1, 0, 1, 0, 2⟩, none, some ["ground"]⟩,
      ⟨2, "right", "transition", some "door", ⟨4, 0, 0⟩, none, none, none,
        some ⟨4, 5, 0, 1, 0, 2⟩, none, some ["ground"]⟩,
      ⟨5, "suite", "room", none, ⟨2, 0, 0⟩, none, none, none,
        some ⟨0, 5, 0, 3, 0, 3⟩,
        some ⟨[(0, 0), (5, 0), (5, 3), (0, 3), (0, 0)], []⟩,
        some ["ground"]⟩]
  edges :=
    [⟨0, 1,
      ⟨7, "transition", none, 4, -1, 4, -1, none, "ifc", roomId⟩⟩]
  endsValid := by simp

theorem suiteMap_received :
    readTopomap (suiteMessage "5") = some (suiteMap (some 5)) ∧
      readTopomap (suiteMessage "") = some (suiteMap none) := by
  have sameGraph
      {received graph : TopologicalGraph ℚ}
      (same :
        (received.vertices, received.edges) =
          (graph.vertices, graph.edges)) :
      received = graph := by
    rw [Prod.mk.injEq] at same
    exact TopologicalGraph.ext same.1 same.2
  have withRoom :
      (readTopomap (suiteMessage "5")).map
          (fun graph => (graph.vertices, graph.edges)) =
        some ((suiteMap (some 5)).vertices, (suiteMap (some 5)).edges) := by
    decide +kernel
  have withoutRoom :
      (readTopomap (suiteMessage "")).map
          (fun graph => (graph.vertices, graph.edges)) =
        some ((suiteMap none).vertices, (suiteMap none).edges) := by
    decide +kernel
  obtain ⟨first, isFirst, sameFirst⟩ :=
    Option.map_eq_some_iff.mp withRoom
  obtain ⟨second, isSecond, sameSecond⟩ :=
    Option.map_eq_some_iff.mp withoutRoom
  rw [isFirst, isSecond, sameGraph sameFirst, sameGraph sameSecond]
  exact ⟨rfl, rfl⟩

/-- All numbers are taken for single precision numbers. -/
theorem suiteMap_representable
    (roomId : Option Int32) :
    Representable id (suiteMap roomId) := by
  intro node _ polygon _ ring _ point _
  exact ⟨rfl, rfl⟩

/-- The number of the room becomes a control character; nothing is loaded. -/
theorem room_number_is_rejected :
    readTopomap (suiteMessage "5") = some (suiteMap (some 5)) ∧
      ((suiteMap (some 5)).vertices.map NodeProperties.id).Nodup ∧
      Representable id (suiteMap (some 5)) ∧
      (TopologicalMap.empty.loadFromMessage
        (convertGraphToMessage id (suiteMap (some 5)))).1 = false ∧
      (TopologicalMap.empty.loadFromMessage
        (convertGraphToMessage id
          (suiteMap (some 5)))).2.graph.numVertices = 0 := by
  refine ⟨suiteMap_received.1, by decide, suiteMap_representable _,
    by decide +kernel, by decide +kernel⟩

/-- Without a room on the edge the map arrives as it is. -/
theorem suiteMap_without_room :
    (TopologicalMap.empty.loadFromMessage
        (convertGraphToMessage id (suiteMap none))).1 = true ∧
      (TopologicalMap.empty.loadFromMessage
        (convertGraphToMessage id (suiteMap none))).2.graph =
          suiteMap none :=
  (convertGraphToMessage_faithful_iff id (suiteMessage "")
    (suiteMap none) suiteMap_received.2 (by decide)
    (suiteMap_representable _) TopologicalMap.empty).mpr (by decide)

end Samples

end NavBim
