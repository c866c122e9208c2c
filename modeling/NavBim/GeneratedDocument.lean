import Mathlib
import NavBim.GeneratedIds
import NavBim.MapDocument
import NavBim.PlannedCosts
import NavBim.TopomapServer

namespace NavBim

/-!
# The file of a generated map

The generator writes its map as a node-link document, with the edges in the order
in which the graph reports them.  The topomap server reads it back: there is a
vertex for every node and an edge for every edge, with the attributes that the
server knows of.  Saving the loaded map loses nothing but plans of zero.
-/

open Json

section Writer

variable {K : Type}

def GeneratedType.name : GeneratedType → String
  | .floor => "floor"
  | .room => "room"
  | .transition => "transition"
  | .stair => "stair"
  | .ramp => "ramp"

def TransitionKind.name : TransitionKind → String
  | .door => "door"
  | .stairStart => "stair_start"
  | .stairEnd => "stair_end"
  | .rampStart => "ramp_start"
  | .rampEnd => "ramp_end"

/-- The attributes of a node that the generator only stores. -/
structure StoredAttributes (K : Type) where
  ifcGuid : Option String
  bbox : Option (BoundingBox K)
  polygon : Option (DocumentArea K)
  parentFloor : Option String

def FloorReference.json : FloorReference → Json K
  | .one name => .str name
  | .many names => .arr (names.map .str)

/-- A node of the document. -/
def generatedNodeJson
    (id : Nat)
    (node : GeneratedNode K)
    (stored : StoredAttributes K) : Json K :=
  .obj
    (optionalField "name" (node.attributes.name.map .str) ++
      optionalField "type" (some (.str node.type.name)) ++
      optionalField "subtype"
        (node.subtype.map fun kind => .str kind.name) ++
      optionalField "floor" (node.attributes.floor.map FloorReference.json) ++
      optionalField "position" (node.attributes.position.map positionJson) ++
      optionalField "min_z" (node.attributes.minZ.map number) ++
      optionalField "max_z" (node.attributes.maxZ.map number) ++
      optionalField "walking_line"
        (node.attributes.walkingLine.map ringJson) ++
      optionalField "ifc_guid" (stored.ifcGuid.map .str) ++
      optionalField "bbox" (stored.bbox.map boundingBoxJson) ++
      optionalField "polygon" (stored.polygon.map geoJson) ++
      optionalField "parent_floor" (stored.parentFloor.map .str) ++
      optionalField "id" (some (.int id)))

def GeneratedEdgeData.name : GeneratedEdgeData K → String
  | .floor => "floor"
  | .room => "room"
  | .transition _ => "transition"

/-- The attributes of an edge between transitions. -/
def transitionFields
    (data : TransitionEdge K) : List (String × Json K) :=
  optionalField "estimated_distance"
      (some (.float (data.estimatedDistance : WithTop K))) ++
    optionalField "planned_distance"
      (some (.float (data.plannedDistance : WithTop K))) ++
    optionalField "estimated_cost"
      (some (.float (data.estimatedCost : WithTop K))) ++
    optionalField "planned_cost"
      (some (.float (data.plannedCost : WithTop K))) ++
    optionalField "path"
      (some (.arr (data.path.map fun waypoint =>
        .arr [number waypoint.1, number waypoint.2.1,
          number waypoint.2.2]))) ++
    optionalField "room_id" (some (.int data.roomId)) ++
    optionalField "subtype" (data.subtype.map fun type => .str type.name)

def GeneratedEdgeData.fields : GeneratedEdgeData K → List (String × Json K)
  | .floor => []
  | .room => []
  | .transition data => transitionFields data

/-- A link of the document. -/
def generatedLinkJson
    (entry : (Nat × Nat) × GeneratedEdge K) : Json K :=
  .obj
    (optionalField "type" (some (.str entry.2.data.name)) ++
      entry.2.data.fields ++
      optionalField "id" (some (.int entry.2.id)) ++
      optionalField "source" (some (.int entry.1.1)) ++
      optionalField "target" (some (.int entry.1.2)))

/-- `nx.node_link_data`, with geometries as their mappings. -/
def nodeLinkData
    (map : GeneratedMap K)
    (stored : Nat → StoredAttributes K) : Json K :=
  .obj
    [("directed", .bool false),
      ("multigraph", .bool false),
      ("graph", .obj []),
      ("nodes", .arr (map.nodes.map fun node =>
        generatedNodeJson node.1 node.2 (stored node.1))),
      ("links", .arr (map.reportedEdges.map generatedLinkJson))]

end Writer

/-! ## Reading -/

section Reader

variable {K : Type} [Field K]

/-- The floors that the server knows of. -/
def FloorReference.loaded : FloorReference → Option (List String)
  | .one name => some [name]
  | .many names => nonemptyList (some names)

/-- The vertex of a node. -/
def loadedNode
    (id : Nat)
    (node : GeneratedNode K)
    (stored : StoredAttributes K) : NodeProperties K where
  id := Int32.ofInt id
  name := node.attributes.name.getD ""
  type := node.type.name
  subtype := node.subtype.map TransitionKind.name
  position := node.attributes.position.getD Position.origin
  ifcGuid := stored.ifcGuid
  minZ := node.attributes.minZ
  maxZ := node.attributes.maxZ
  bbox := stored.bbox
  polygon := stored.polygon.bind DocumentArea.loaded
  floor := node.attributes.floor.bind FloorReference.loaded

/-- The properties of an edge. -/
def loadedEdge
    (edge : GeneratedEdge K) : EdgeProperties K :=
  match edge.data with
  | .floor => { EdgeProperties.unset with
      id := Int32.ofInt edge.id
      type := "floor" }
  | .room => { EdgeProperties.unset with
      id := Int32.ofInt edge.id
      type := "room" }
  | .transition data =>
      { id := Int32.ofInt edge.id
        type := "transition"
        subtype := data.subtype.map GeneratedType.name
        estimatedDistance := (data.estimatedDistance : WithTop K)
        plannedDistance := (data.plannedDistance : WithTop K)
        estimatedCost := (data.estimatedCost : WithTop K)
        plannedCost := (data.plannedCost : WithTop K)
        path := some data.path
        pathFrameId := "ifc"
        roomId := some (Int32.ofInt data.roomId) }

section

omit [Field K]

theorem read_text
    (text : Option String) :
    (((text.map .str : Option (Json K))).map (present getString)).getD
        (some none) =
      some text := by
  cases text with
  | none => rfl
  | some text => rfl

theorem read_named
    {α : Type}
    (name : α → String)
    (value : Option α) :
    (((value.map fun entry => .str (name entry) : Option (Json K))).map
        (present getString)).getD (some none) =
      some (value.map name) := by
  cases value with
  | none => rfl
  | some entry => rfl

theorem read_optionalName
    (name : Option String) :
    ((name.map .str : Option (Json K)).map getString).getD (some "") =
      some (name.getD "") := by
  cases name with
  | none => rfl
  | some name => rfl

theorem read_floorReference
    (floor : Option FloorReference) :
    ((floor.map FloorReference.json : Option (Json K)).map
        parseFloorList).getD (some none) =
      some (floor.bind FloorReference.loaded) := by
  cases floor with
  | none =>
      rfl
  | some reference =>
      cases reference with
      | one name =>
          rfl
      | many names =>
          simp only [Option.map_some, Option.getD_some, FloorReference.json,
            parseFloorList, mapM_getString, Option.bind_some,
            FloorReference.loaded]
          cases names with
          | nil => rfl
          | cons name rest => rfl

end

theorem read_position
    (position : Option (Position K)) :
    ((position.map positionJson).map parsePosition).getD
        (some Position.origin) =
      some (position.getD Position.origin) := by
  cases position with
  | none => rfl
  | some position => rfl

omit [Field K] in
theorem field_generatedLinkJson
    (entry : (Nat × Nat) × GeneratedEdge K) :
    (generatedLinkJson entry).field? "source" = some (.int entry.1.1) ∧
      (generatedLinkJson entry).field? "target" = some (.int entry.1.2) := by
  unfold generatedLinkJson
  cases entry.2.data with
  | floor => simp [List.lookup_append, GeneratedEdgeData.fields]
  | room => simp [List.lookup_append, GeneratedEdgeData.fields]
  | transition data =>
      simp [List.lookup_append, GeneratedEdgeData.fields, transitionFields]

variable [IntegerPart K]

theorem parseNodeProperties_generated
    (id : Nat)
    (node : GeneratedNode K)
    (stored : StoredAttributes K) :
    parseNodeProperties (generatedNodeJson id node stored) =
      some (loadedNode id node stored) := by
  simp [parseNodeProperties, generatedNodeJson, List.lookup_append,
    loadedNode, -Option.map_map, read_present getFinite_number,
    read_present parseBoundingBox_boundingBoxJson, read_text,
    read_named TransitionKind.name, read_optionalName, read_floorReference,
    read_position, read_geoJson, getInt]

theorem parseEdgeProperties_generated
    (entry : (Nat × Nat) × GeneratedEdge K) :
    parseEdgeProperties (generatedLinkJson entry) =
      some (loadedEdge entry.2) := by
  unfold generatedLinkJson loadedEdge
  cases entry.2.data with
  | floor =>
      simp [parseEdgeProperties, List.lookup_append, GeneratedEdgeData.fields,
        GeneratedEdgeData.name, getInt, EdgeProperties.unset]
  | room =>
      simp [parseEdgeProperties, List.lookup_append, GeneratedEdgeData.fields,
        GeneratedEdgeData.name, getInt, EdgeProperties.unset]
  | transition data =>
      simp [parseEdgeProperties, List.lookup_append, GeneratedEdgeData.fields,
        GeneratedEdgeData.name, transitionFields, getInt, -Option.map_map,
        read_named GeneratedType.name, present, getDouble, parsePath,
        parseWaypoints_path]

end Reader

/-! ## Loading -/

section Loading

variable {K : Type}

/-- The nodes are numbered in their order. -/
def NumberedNodes
    (map : GeneratedMap K) : Prop :=
  map.nodes.map Prod.fst = List.range map.nodes.length

/-- Edges lead from one node to another. -/
def HasEnds
    (map : GeneratedMap K) : Prop :=
  ∀ first second edge, map.edge? first second = some edge →
    map.hasNode first = true ∧ map.hasNode second = true

theorem NumberedNodes.hasNode_iff
    {map : GeneratedMap K}
    (numbered : NumberedNodes map)
    {id : Nat} :
    map.hasNode id = true ↔ id < map.nodes.length := by
  rw [NetworkGraph.hasNode, decide_eq_true_eq, numbered, List.mem_range]

theorem NumberedNodes.getElem_fst
    {map : GeneratedMap K}
    (numbered : NumberedNodes map)
    {id : Nat}
    (inMap : id < map.nodes.length) :
    map.nodes[id].1 = id := by
  have isId : (map.nodes.map Prod.fst)[id]? = (List.range map.nodes.length)[id]? :=
    congrArg (·[id]?) numbered
  rw [List.getElem?_map, List.getElem?_eq_getElem inMap,
    List.getElem?_range inMap] at isId
  exact Option.some.inj isId

/-- Small numbers are different ids. -/
theorem ofInt_injective
    {first second : Nat}
    (firstSmall : first < 2 ^ 31)
    (secondSmall : second < 2 ^ 31)
    (same : Int32.ofInt first = Int32.ofInt second) :
    first = second := by
  have toInt {number : Nat} (isSmall : number < 2 ^ 31) :
      (Int32.ofInt number).toInt = number := by
    have isSize : Int32.size = 2 ^ 32 := rfl
    rw [Int32.toInt_ofInt, isSize, Int.bmod_eq_of_le]
    · omega
    · omega
  have sameInt := congrArg Int32.toInt same
  rw [toInt firstSmall, toInt secondSmall] at sameInt
  exact Int.ofNat_inj.mp sameInt

variable [Field K] [IntegerPart K]

/-- The server reads the file of a generated map. -/
theorem loadFromJson_nodeLinkData
    {map : GeneratedMap K}
    (numbered : NumberedNodes map)
    (hasEnds : HasEnds map)
    (few : map.nodes.length ≤ 2 ^ 31)
    (stored : Nat → StoredAttributes K) :
    ∃ graph,
      loadFromJson (nodeLinkData map stored) = some graph ∧
        graph.vertices = map.nodes.map (fun node =>
          loadedNode node.1 node.2 (stored node.1)) ∧
        (graph.vertices.map NodeProperties.id).Nodup ∧
        graph.edges = map.reportedEdges.map fun entry =>
          ⟨entry.1.1, entry.1.2, loadedEdge entry.2⟩ := by
  have small {id : Nat} (isNode : map.hasNode id = true) : id < 2 ^ 31 :=
    (numbered.hasNode_iff.mp isNode).trans_le few
  have distinct : ((map.nodes.map fun node =>
      loadedNode node.1 node.2 (stored node.1)).map
        NodeProperties.id).Nodup := by
    have isIds : (map.nodes.map fun node =>
        loadedNode node.1 node.2 (stored node.1)).map NodeProperties.id =
        (map.nodes.map Prod.fst).map fun id : Nat => Int32.ofInt id := by
      rw [List.map_map, List.map_map]
      rfl
    rw [isIds]
    refine map.nodesDistinct.map_on fun first isFirst second isSecond same => ?_
    exact ofInt_injective (small (decide_eq_true isFirst))
      (small (decide_eq_true isSecond)) same
  have nodesParsed :
      List.Forall₂ (fun json props =>
        parseNodeProperties json = some props)
        (map.nodes.map fun node =>
          generatedNodeJson node.1 node.2 (stored node.1))
        (map.nodes.map fun node =>
          loadedNode node.1 node.2 (stored node.1)) := by
    rw [List.forall₂_map_left_iff, List.forall₂_map_right_iff,
      List.forall₂_same]
    intro node _
    exact parseNodeProperties_generated node.1 node.2 (stored node.1)
  obtain ⟨loaded, isLoaded, known⟩ :=
    foldlM_loadNode_spec nodesParsed distinct
  have idKnown {id : Nat} (isNode : map.hasNode id = true) :
      loaded.idToVertex (Int32.ofInt id) = some id := by
    have inMap := numbered.hasNode_iff.mp isNode
    rw [known.idToVertex_iff]
    refine ⟨by rw [List.length_map]; exact inMap, ?_⟩
    rw [List.getElem_map, numbered.getElem_fst inMap]
    rfl
  have linksParsed :
      List.Forall₂ (LinkParses loaded.idToVertex)
        (map.reportedEdges.map generatedLinkJson)
        (map.reportedEdges.map fun entry =>
          ⟨entry.1.1, entry.1.2, loadedEdge entry.2⟩) := by
    rw [List.forall₂_map_left_iff, List.forall₂_map_right_iff,
      List.forall₂_same]
    intro entry member
    have isEdge := (NetworkGraph.of_mem_reportFrom member).2.2
    obtain ⟨isFirst, isSecond⟩ := hasEnds _ _ _ isEdge
    obtain ⟨source, target⟩ := field_generatedLinkJson entry
    exact ⟨⟨_, _, source, rfl, idKnown isFirst⟩,
      ⟨_, _, target, rfl, idKnown isSecond⟩,
      parseEdgeProperties_generated entry⟩
  obtain ⟨graph, isGraph, vertices, edges⟩ :=
    foldlM_loadLink linksParsed loaded.graph known.idToVertex_lt
  have loadedVertices := vertices.trans known.vertices
  refine ⟨graph, ?_, loadedVertices, loadedVertices ▸ distinct, ?_⟩
  · simp [loadFromJson, nodeLinkData, List.lookup_cons, items?, isLoaded,
      isGraph]
  · rw [edges, known.edges, List.nil_append]

end Loading

/-! ## Generated maps -/

section Generated

variable
  {K : Type} [Field K]
  {topologicalMap : TopologyGraph K}

variable
  {converted : GeneratedMap K}

section

variable
  (isConverted : convertToIntegerIds topologicalMap = .ok converted)

include isConverted

theorem length_of_convertToIntegerIds :
    converted.nodes.length = (keptIds topologicalMap).length := by
  have size := congrArg List.length
    (renumbered_convertToIntegerIds isConverted).nodeIds
  rwa [List.length_map, List.length_range] at size

theorem numberedNodes_of_convertToIntegerIds :
    NumberedNodes converted := by
  rw [NumberedNodes, (renumbered_convertToIntegerIds isConverted).nodeIds,
    length_of_convertToIntegerIds isConverted]

/-- The edges that are converted lead to kept nodes, and none has a plan. -/
theorem edge_of_convertToIntegerIds :
    ∀ first second edge, converted.edge? first second = some edge →
      (first < (keptIds topologicalMap).length ∧
        second < (keptIds topologicalMap).length) ∧
        ∀ data, edge.data ≠ .transition data := by
  obtain ⟨conversion, nodesConverted, isResult⟩ := bind_eq_ok isConverted
  have mapping := (numbered_convertNodes nodesConverted).mapping
  have small {id : String} {number : Nat}
      (found : conversion.idMapping.lookup id = some number) :
      number < (keptIds topologicalMap).length := by
    rw [mapping, lookup_zipIdx_iff nodup_keptIds] at found
    exact (List.getElem?_eq_some_iff.mp found.2).1
  cases isResult
  unfold convertEdges
  refine List.foldlRecOn (motive := fun state : GeneratedMap K × Nat =>
    ∀ first second edge, state.1.edge? first second = some edge →
      (first < (keptIds topologicalMap).length ∧
        second < (keptIds topologicalMap).length) ∧
        ∀ data, edge.data ≠ .transition data) _ _ ?_ ?_
  · intro first second edge found
    rw [NetworkGraph.edge?, convertNodes_edges nodesConverted] at found
    cases found
  · intro state holds edge _
    rw [convertEdge]
    split
    · next newFirst newSecond isFirst isSecond =>
        have noPlan (data : TransitionEdge K) :
            edge.2.generated ≠ .transition data := by
          intro same
          cases kind : edge.2 <;> rw [kind] at same <;> cases same
        intro first second found isFound
        rw [NetworkGraph.edge?_addEdge] at isFound
        split at isFound
        · next same =>
            cases isFound
            cases same with
            | inl same =>
                cases same
                exact ⟨⟨small isFirst, small isSecond⟩, noPlan⟩
            | inr same =>
                cases same
                exact ⟨⟨small isSecond, small isFirst⟩, noPlan⟩
        · exact holds first second found isFound
    · exact holds

theorem hasEnds_of_convertToIntegerIds :
    HasEnds converted := by
  have numbered := numberedNodes_of_convertToIntegerIds isConverted
  intro first second edge found
  rw [numbered.hasNode_iff, numbered.hasNode_iff,
    length_of_convertToIntegerIds isConverted]
  exact (edge_of_convertToIntegerIds isConverted first second edge found).1

end

end Generated

section Added

variable
  {K : Type}
  [Field K] [SquareRoot K] [LinearOrder K] [FloorSemiring K]
  {manager : TopologyManager K}
  {round : K → K}
  {before after : GeneratedMap K}

omit [Field K] [SquareRoot K] [LinearOrder K] [FloorSemiring K] in
theorem hasNode_of_node?
    {map : GeneratedMap K}
    {id : Nat}
    {node : GeneratedNode K}
    (isNode : map.node? id = some node) :
    map.hasNode id = true :=
  decide_eq_true (List.mem_map_of_mem (map.node?_eq_some_iff.mp isNode))

theorem TransitionsAdded.hasEnds
    (state : TransitionsAdded manager round before after)
    (hasEnds : HasEnds before) :
    HasEnds after := by
  have sameNode (id : Nat) : after.hasNode id = before.hasNode id := by
    unfold NetworkGraph.hasNode
    rw [state.nodes]
  intro first second edge found
  rw [sameNode, sameNode]
  rcases state.added first second edge found with
    wasFound | ⟨-, room, -, -, isFirst, isSecond, -⟩
  · exact hasEnds first second edge wasFound
  · obtain ⟨firstNode, isFirstNode, -⟩ :=
      (mem_transitionNeighbors.mp isFirst).2
    obtain ⟨secondNode, isSecondNode, -⟩ :=
      (mem_transitionNeighbors.mp isSecond).2
    exact ⟨hasNode_of_node? isFirstNode, hasNode_of_node? isSecondNode⟩

theorem numbered_hasEnds_of_generated
    {topologyGraph : TopologyGraph K}
    {map : GeneratedMap K}
    (isGenerated :
      generateTopologicalMap manager round topologyGraph = .ok map) :
    NumberedNodes map ∧ HasEnds map := by
  obtain ⟨converted, isConverted, isAdded⟩ := bind_eq_ok isGenerated
  have state := transitionsAdded_of_addTransitionEdges isAdded
  constructor
  · rw [NumberedNodes, state.nodes]
    exact numberedNodes_of_convertToIntegerIds isConverted
  · exact state.hasEnds (hasEnds_of_convertToIntegerIds isConverted)

omit [FloorSemiring K] in
theorem pathTotal_nonneg
    [IsStrictOrderedRing K]
    (root : ∀ value : K, 0 ≤ SquareRoot.sqrt value)
    (weight : K)
    (path : List (Coords K)) :
    0 ≤ pathTotal weight path := by
  apply List.sum_nonneg
  intro length isLength
  obtain ⟨segment, -, rfl⟩ := List.mem_map.mp isLength
  exact root _

/-- Whatever the loaded map stores a path for has costs that can be used. -/
theorem generated_map_usable
    [IsStrictOrderedRing K]
    (root : ∀ value : K, 0 ≤ SquareRoot.sqrt value)
    {topologyGraph : TopologyGraph K}
    {map : GeneratedMap K}
    (isGenerated :
      generateTopologicalMap manager round topologyGraph = .ok map)
    {graph : TopologicalGraph K}
    (edges : graph.edges = map.reportedEdges.map (fun entry =>
      ⟨entry.1.1, entry.1.2, loadedEdge entry.2⟩)) :
    UsableCosts graph := by
  obtain ⟨converted, isConverted, isAdded⟩ := bind_eq_ok isGenerated
  have state := transitionsAdded_of_addTransitionEdges isAdded
  have planned (roomId : Nat) (room : GeneratedNode K)
      (start goal : Position K) :
      let data := transitionEdge manager round roomId room start goal
      2 ≤ data.path.length →
        0 ≤ data.plannedDistance ∧ 0 ≤ data.plannedCost := by
    unfold transitionEdge
    split
    · dsimp only
      split
      · exact nofun
      · exact fun _ => ⟨pathTotal_nonneg root _ _, pathTotal_nonneg root _ _⟩
    · exact nofun
  rintro _ isStored long
  rw [edges] at isStored
  obtain ⟨entry, isReported, rfl⟩ := List.mem_map.mp isStored
  have found := (NetworkGraph.of_mem_reportFrom isReported).2.2
  dsimp only at long ⊢
  cases isData : entry.2.data with
  | floor | room =>
      simp only [loadedEdge, isData] at long
      cases long
  | transition data =>
      simp only [loadedEdge, isData, Option.getD_some] at long ⊢
      rcases state.added _ _ _ found with
        wasFound | ⟨-, room, -, -, -, -, start, goal, -, -, isEdge⟩
      · exact absurd isData
          ((edge_of_convertToIntegerIds isConverted _ _ _ wasFound).2 data)
      · have costs : 0 ≤ data.plannedDistance ∧ 0 ≤ data.plannedCost := by
          rw [isData] at isEdge
          rcases isEdge with isEdge | isEdge <;>
            cases isEdge <;> exact planned _ _ _ _ long
        exact ⟨WithTop.coe_nonneg.mpr costs.1, WithTop.coe_nonneg.mpr costs.2⟩

/-- The server reads the file of every map that is generated.  The vertices and
edges it loads are those of the map, in the order of the file, and vertices are
adjacent exactly if their nodes are. -/
theorem generated_map_loads
    [IntegerPart K]
    (manager : TopologyManager K)
    (round : K → K)
    (topologyGraph : TopologyGraph K)
    (map : GeneratedMap K)
    (isGenerated :
      generateTopologicalMap manager round topologyGraph = .ok map)
    (few : map.nodes.length ≤ 2 ^ 31)
    (stored : Nat → StoredAttributes K) :
    ∃ graph,
      loadFromJson (nodeLinkData map stored) = some graph ∧
        graph.vertices = map.nodes.map (fun node =>
          loadedNode node.1 node.2 (stored node.1)) ∧
        graph.edges = map.reportedEdges.map (fun entry =>
          ⟨entry.1.1, entry.1.2, loadedEdge entry.2⟩) ∧
        ∀ u v, v ∈ graph.outTargets u ↔ map.hasEdge u v = true := by
  obtain ⟨numbered, hasEnds⟩ := numbered_hasEnds_of_generated isGenerated
  obtain ⟨graph, isLoaded, vertices, -, edges⟩ :=
    loadFromJson_nodeLinkData numbered hasEnds few stored
  refine ⟨graph, isLoaded, vertices, edges, fun u v => ?_⟩
  rw [TopologicalGraph.mem_outTargets, edges, NetworkGraph.hasEdge,
    Option.isSome_iff_exists]
  constructor
  · rintro ⟨edge, isEdge, joins⟩
    obtain ⟨entry, isReported, isEntry⟩ := List.mem_map.mp isEdge
    have isStored := (NetworkGraph.of_mem_reportFrom isReported).2.2
    rw [← isEntry, StoredEdge.joins_iff] at joins
    dsimp only at joins
    rcases joins with ⟨isFirst, isSecond⟩ | ⟨isFirst, isSecond⟩
    · rw [isFirst, isSecond] at isStored
      exact ⟨_, isStored⟩
    · rw [isFirst, isSecond, NetworkGraph.edge?_comm] at isStored
      exact ⟨_, isStored⟩
  · rintro ⟨edge, isStored⟩
    obtain ⟨isFirst, isSecond⟩ := hasEnds u v edge isStored
    obtain ⟨entry, isReported, same, -⟩ :=
      (NetworkGraph.reportedEdges_iff isFirst isSecond).mpr isStored
    refine ⟨_, List.mem_map_of_mem isReported, ?_⟩
    rw [StoredEdge.joins_iff]
    rcases same with same | same
    · rw [same]
      exact .inl ⟨rfl, rfl⟩
    · rw [same]
      exact .inr ⟨rfl, rfl⟩

/-- The plan of the edge is none of those that the server's file leaves out. -/
def GeneratedEdgeData.KeepsPlan : GeneratedEdgeData K → Prop
  | .transition data => data.plannedDistance ≠ 0 ∧ data.plannedCost ≠ 0
  | _ => True

section

omit [SquareRoot K] [LinearOrder K] [FloorSemiring K]

theorem saveableNode_loadedNode
    (id : Nat)
    (node : GeneratedNode K)
    (stored : StoredAttributes K) :
    SaveableNode (loadedNode id node stored) where
  subtype := by
    intro same
    obtain ⟨kind, -, isEmpty⟩ := Option.map_eq_some_iff.mp same
    cases kind <;> exact absurd isEmpty (by decide)
  floor := by
    intro same
    obtain ⟨reference, -, isEmpty⟩ := Option.bind_eq_some_iff.mp same
    cases reference with
    | one name => cases isEmpty
    | many names => cases names <;> cases isEmpty
  holes := by
    intro polygon isPolygon
    obtain ⟨area, -, isLoaded⟩ := Option.bind_eq_some_iff.mp isPolygon
    cases area <;> cases isLoaded
    rfl

theorem saveableEdge_loadedEdge_iff
    (edge : GeneratedEdge K) :
    SaveableEdge (loadedEdge edge) ↔ edge.data.KeepsPlan := by
  unfold loadedEdge GeneratedEdgeData.KeepsPlan
  have noText : none ≠ some "" := (Option.some_ne_none "").symm
  cases edge.data with
  | floor => exact iff_of_true ⟨noText, .inr ⟨rfl, rfl⟩, rfl, rfl, rfl⟩ trivial
  | room => exact iff_of_true ⟨noText, .inr ⟨rfl, rfl⟩, rfl, rfl, rfl⟩ trivial
  | transition data =>
      have plan {distance cost : WithTop K} {path : List (Coords K)} :
          PlanFits "transition" distance cost path ↔
            distance ≠ 0 ∧ cost ≠ 0 := by
        rw [PlanFits, if_pos rfl]
      have coe_ne {value : K} : (value : WithTop K) ≠ 0 ↔ value ≠ 0 :=
        WithTop.coe_eq_zero.not
      constructor
      · intro saveable
        obtain ⟨distance, cost⟩ := plan.mp saveable.plan
        exact ⟨coe_ne.mp distance, coe_ne.mp cost⟩
      · intro keeps
        refine ⟨fun same => ?_, .inl rfl,
          plan.mpr ⟨coe_ne.mpr keeps.1, coe_ne.mpr keeps.2⟩⟩
        obtain ⟨type, -, isEmpty⟩ := Option.map_eq_some_iff.mp same
        cases type <;> exact absurd isEmpty (by decide)

end

/-- The map that the server has loaded from a generated file survives saving and
loading exactly if no edge between transitions was generated with a plan of
zero. -/
theorem generated_map_reloads_iff
    [CharZero K] [IntegerPart K]
    (manager : TopologyManager K)
    (round : K → K)
    (topologyGraph : TopologyGraph K)
    (map : GeneratedMap K)
    (isGenerated :
      generateTopologicalMap manager round topologyGraph = .ok map)
    (few : map.nodes.length ≤ 2 ^ 31)
    (stored : Nat → StoredAttributes K) :
    ∃ graph,
      loadFromJson (nodeLinkData map stored) = some graph ∧
        (Reloads graph ↔
          ∀ first second edge, map.edge? first second = some edge →
            edge.data.KeepsPlan) := by
  obtain ⟨numbered, hasEnds⟩ := numbered_hasEnds_of_generated isGenerated
  obtain ⟨graph, isLoaded, vertices, distinct, edges⟩ :=
    loadFromJson_nodeLinkData numbered hasEnds few stored
  refine ⟨graph, isLoaded, ?_⟩
  rw [reloads_iff_saveable graph distinct]
  constructor
  · intro saveable first second edge isStored
    obtain ⟨isFirst, isSecond⟩ := hasEnds first second edge isStored
    obtain ⟨entry, isReported, -, isEdge⟩ :=
      (NetworkGraph.reportedEdges_iff isFirst isSecond).mpr isStored
    rw [← isEdge, ← saveableEdge_loadedEdge_iff]
    exact saveable.edges _ (edges ▸ List.mem_map_of_mem isReported)
  · intro keeps
    constructor
    · intro node isNode
      rw [vertices] at isNode
      obtain ⟨_, -, rfl⟩ := List.mem_map.mp isNode
      exact saveableNode_loadedNode _ _ _
    · intro edge isEdge
      rw [edges] at isEdge
      obtain ⟨entry, isReported, rfl⟩ := List.mem_map.mp isEdge
      have isStored := (NetworkGraph.of_mem_reportFrom isReported).2.2
      exact (saveableEdge_loadedEdge_iff entry.2).mpr (keeps _ _ _ isStored)

end Added

/-- The map of a hall with two doors and the rooms next to it. -/
theorem hall_map :
    ∃ map : GeneratedMap ℚ,
      generateTopologicalMap ⟨3, 1 / 20⟩ id
          (buildTopologyGraph (hallBuilding "salon" "store")) = .ok map ∧
        map.nodes.length = 6 ∧ map.hasEdge 5 4 = true := by
  have facts :
      (generateTopologicalMap (⟨3, 1 / 20⟩ : TopologyManager ℚ) id
        (buildTopologyGraph (hallBuilding "salon" "store"))).map
        (fun map => (map.nodes.length, map.hasEdge 5 4)) = .ok (6, true) := by
    decide +kernel
  cases isGenerated : generateTopologicalMap (⟨3, 1 / 20⟩ : TopologyManager ℚ)
      id (buildTopologyGraph (hallBuilding "salon" "store")) with
  | error what =>
      rw [isGenerated] at facts
      cases facts
  | ok map =>
      rw [isGenerated] at facts
      exact ⟨map, rfl, Prod.mk.inj (Except.ok.inj facts)⟩

/-- A hall with two doors comes through the file. -/
theorem hall_map_loads :
    ∃ (map : GeneratedMap ℚ) (graph : TopologicalGraph ℚ),
      generateTopologicalMap ⟨3, 1 / 20⟩ id
          (buildTopologyGraph (hallBuilding "salon" "store")) = .ok map ∧
        loadFromJson
            (nodeLinkData map fun _ => ⟨none, none, none, none⟩) =
          some graph ∧
        graph.numVertices = 6 ∧
        4 ∈ graph.outTargets 5 := by
  obtain ⟨map, isGenerated, size, isEdge⟩ := hall_map
  obtain ⟨graph, isLoaded, vertices, -, adjacent⟩ := generated_map_loads
    ⟨3, 1 / 20⟩ id _ map isGenerated (size.trans_le (by decide))
    fun _ => ⟨none, none, none, none⟩
  refine ⟨map, graph, isGenerated, isLoaded, ?_, (adjacent 5 4).mpr isEdge⟩
  rw [TopologicalGraph.numVertices, vertices, List.length_map, size]

theorem hall_map_reloads_iff :
    ∃ (map : GeneratedMap ℚ) (graph : TopologicalGraph ℚ),
      loadFromJson (nodeLinkData map fun _ => ⟨none, none, none, none⟩) =
          some graph ∧
        (Reloads graph ↔
          ∀ first second edge, map.edge? first second = some edge →
            edge.data.KeepsPlan) := by
  obtain ⟨map, isGenerated, size, -⟩ := hall_map
  exact ⟨map, generated_map_reloads_iff ⟨3, 1 / 20⟩ id _ map isGenerated
    (size.trans_le (by decide)) fun _ => ⟨none, none, none, none⟩⟩

end NavBim
