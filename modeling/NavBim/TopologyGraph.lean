import NavBim.NetworkGraph
import NavBim.TopologicalGraph

namespace NavBim

/-!
# From a building to its topological map

The generator collects floors, rooms and IFC elements in one graph.  Their ids
are names and GUIDs, and a node that is added under an id that is taken gets the
new attributes on top of the old ones.  The topological map keeps the nodes that
matter for navigation and numbers them.

Which element belongs to which room follows from the geometry; here it is part
of the elements.  Where the code raises an exception there is no map.
-/

inductive RoomKind where
  | room
  | ifcRoom
  | detectedRoom
  | combinedRoom
  deriving DecidableEq

inductive ElementType where
  | ifcSpace
  | ifcDoor
  | ifcStair
  | ifcStairFlight
  | ifcRamp
  | ifcRampFlight
  | other (name : String)
  deriving DecidableEq

/-- Type of a node of the topology graph. -/
inductive TopologyType where
  | floor
  | stairSlabFloor
  | room (kind : RoomKind)
  | element (type : ElementType)
  deriving DecidableEq

/-- One floor, or the list of floors of a node. -/
inductive FloorReference where
  | one (name : String)
  | many (names : List String)
  deriving DecidableEq

/-- The attributes of a node that are read again. -/
structure NodeAttributes (K : Type) where
  name : Option String := none
  floor : Option FloorReference := none
  position : Option (Position K) := none
  minZ : Option K := none
  maxZ : Option K := none
  walkingLine : Option (List (K × K)) := none
  deriving DecidableEq

structure TopologyNode (K : Type) where
  type : TopologyType
  attributes : NodeAttributes K
  deriving DecidableEq

inductive TopologyEdge where
  | floor
  | room
  deriving DecidableEq

abbrev TopologyGraph (K : Type) :=
  NetworkGraph String (TopologyNode K) TopologyEdge

structure BuildingFloor (K : Type) where
  floorName : String
  isStairSlab : Bool
  minZ : K
  maxZ : K
  position : Option (Position K)

/-- A room, known by its name or, if it comes from an IFC space, by its GUID. -/
structure BuildingRoom (K : Type) where
  kind : RoomKind
  id : String
  name : String
  floor : Option (List String)
  position : Option (Position K)
  hasShape : Bool
  containedIn : Option String

/-- What stairs and ramps have besides the data of other elements. -/
structure StairRamp (K : Type) where
  startFloor : Option String
  endFloor : Option String
  startRoom : Option String
  endRoom : Option String
  startPosition : Option (Position K)
  endPosition : Option (Position K)
  hasPolygons : Bool
  walkingLine : Option (List (K × K))

structure BuildingElement (K : Type) where
  ifcGuid : String
  elementType : ElementType
  floor : List String
  room : List String
  position : Option (Position K)
  hasShape : Bool
  stairRamp : Option (StairRamp K)

structure Building (K : Type) where
  elements : List (BuildingElement K)
  floors : List (BuildingFloor K)
  rooms : List (BuildingRoom K)

section TopologyGraph

variable {K : Type}

/-- The attributes that are set, and the old ones otherwise. -/
def NodeAttributes.over
    (new old : NodeAttributes K) : NodeAttributes K where
  name := new.name <|> old.name
  floor := new.floor <|> old.floor
  position := new.position <|> old.position
  minZ := new.minZ <|> old.minZ
  maxZ := new.maxZ <|> old.maxZ
  walkingLine := new.walkingLine <|> old.walkingLine

def addTopologyNode
    (graph : TopologyGraph K)
    (id : String)
    (type : TopologyType)
    (attributes : NodeAttributes K) : TopologyGraph K :=
  graph.addNode id fun
    | none => ⟨type, attributes⟩
    | some old => ⟨type, attributes.over old.attributes⟩

def BuildingFloor.addToTopologyGraph
    (graph : TopologyGraph K)
    (floor : BuildingFloor K) : TopologyGraph K :=
  addTopologyNode graph floor.floorName
    (if floor.isStairSlab then .stairSlabFloor else .floor)
    { name := some floor.floorName
      minZ := some floor.minZ
      maxZ := some floor.maxZ
      position := floor.position }

/-- Rooms without a shape, and those that are part of a combined room, are left
out. -/
def BuildingRoom.addToTopologyGraph
    (graph : TopologyGraph K)
    (room : BuildingRoom K) : TopologyGraph K :=
  if !room.hasShape || room.position.isNone || room.floor.isNone then
    graph
  else if room.kind = .ifcRoom && room.containedIn.isSome then
    graph
  else
    addTopologyNode graph room.id (.room room.kind)
      { name := some room.name
        floor := room.floor.map .many
        position := room.position }

/-- Stairs and ramps are added as three nodes. -/
def StairRamp.addToTopologyGraph
    (graph : TopologyGraph K)
    (element : BuildingElement K)
    (stair : StairRamp K) : TopologyGraph K :=
  if !element.hasShape || element.position.isNone || !stair.hasPolygons ||
      stair.startPosition.isNone || stair.startFloor.isNone ||
      stair.endPosition.isNone || stair.endFloor.isNone then
    graph
  else
    let graph := addTopologyNode graph element.ifcGuid
      (.element element.elementType)
      { position := element.position
        walkingLine := stair.walkingLine }
    let graph := addTopologyNode graph (element.ifcGuid ++ "_start")
      (.element element.elementType)
      { position := stair.startPosition
        floor := stair.startFloor.map .one }
    addTopologyNode graph (element.ifcGuid ++ "_end")
      (.element element.elementType)
      { position := stair.endPosition
        floor := stair.endFloor.map .one }

def BuildingElement.addToTopologyGraph
    (graph : TopologyGraph K)
    (element : BuildingElement K) : TopologyGraph K :=
  match element.stairRamp with
  | some stair => stair.addToTopologyGraph graph element
  | none =>
      if element.elementType = .ifcSpace then
        graph
      else if !element.hasShape || element.position.isNone then
        graph
      else
        addTopologyNode graph element.ifcGuid (.element element.elementType)
          { position := element.position
            floor := some (.many element.floor) }

/-- An edge between two nodes, if there are such nodes. -/
def connect
    (type : TopologyEdge)
    (graph : TopologyGraph K)
    (first second : String) : TopologyGraph K :=
  if graph.hasNode first && graph.hasNode second then
    graph.addEdge first second type
  else
    graph

def connectRoom
    (graph : TopologyGraph K)
    (room : BuildingRoom K) : TopologyGraph K :=
  (room.floor.getD []).foldl
    (fun graph floorName => connect .floor graph floorName room.id) graph

/-- The ends of a stair or ramp are connected with it and with their rooms. -/
def connectStairRamp
    (graph : TopologyGraph K)
    (ifcGuid : String)
    (stair : StairRamp K) : TopologyGraph K :=
  let graph := connect .room graph (ifcGuid ++ "_start") ifcGuid
  let graph := connect .room graph (ifcGuid ++ "_end") ifcGuid
  let graph := stair.startRoom.elim graph
    (connect .room graph (ifcGuid ++ "_start"))
  stair.endRoom.elim graph (connect .room graph (ifcGuid ++ "_end"))

def connectElement
    (graph : TopologyGraph K)
    (element : BuildingElement K) : TopologyGraph K :=
  if graph.hasNode element.ifcGuid then
    let graph := element.floor.foldl
      (fun graph floorName => connect .floor graph floorName element.ifcGuid)
      graph
    match element.stairRamp with
    | some stair => connectStairRamp graph element.ifcGuid stair
    | none =>
        element.room.foldl
          (fun graph roomId =>
            if roomId ≠ element.ifcGuid ∧ element.elementType ≠ .ifcSpace then
              connect .room graph roomId element.ifcGuid
            else
              graph)
          graph
  else
    graph

def buildTopologyGraph
    (building : Building K) : TopologyGraph K :=
  let graph := building.floors.foldl BuildingFloor.addToTopologyGraph .empty
  let graph := building.rooms.foldl BuildingRoom.addToTopologyGraph graph
  let graph := building.elements.foldl BuildingElement.addToTopologyGraph graph
  let graph := building.rooms.foldl connectRoom graph
  building.elements.foldl connectElement graph

end TopologyGraph

/-- Type of a node of the topological map. -/
inductive GeneratedType where
  | floor
  | room
  | transition
  | stair
  | ramp
  deriving DecidableEq

inductive TransitionKind where
  | door
  | stairStart
  | stairEnd
  | rampStart
  | rampEnd
  deriving DecidableEq

structure GeneratedNode (K : Type) where
  type : GeneratedType
  subtype : Option TransitionKind
  attributes : NodeAttributes K
  deriving DecidableEq

/-- Attributes of an edge between two transitions. -/
structure TransitionEdge (K : Type) where
  estimatedDistance : K
  plannedDistance : K
  estimatedCost : K
  plannedCost : K
  path : List (Coords K)
  roomId : Nat
  subtype : Option GeneratedType
  deriving DecidableEq

inductive GeneratedEdgeData (K : Type) where
  | floor
  | room
  | transition (data : TransitionEdge K)
  deriving DecidableEq

structure GeneratedEdge (K : Type) where
  id : Nat
  data : GeneratedEdgeData K
  deriving DecidableEq

/-- The topological map, with numbers as ids. -/
abbrev GeneratedMap (K : Type) :=
  NetworkGraph Nat (GeneratedNode K) (GeneratedEdge K)

section TopologicalMap

variable {K : Type}

/-- Floors, rooms, doors, stairs and ramps matter for navigation. -/
def isNecessary : TopologyType → Bool
  | .floor => true
  | .stairSlabFloor => true
  | .room _ => true
  | .element .ifcSpace => false
  | .element (.other _) => false
  | .element _ => true

def removeUnnecessaryNodes
    (topologyGraph : TopologyGraph K) : TopologyGraph K :=
  (topologyGraph.nodes.filter fun node => !isNecessary node.2.type).foldl
    (fun graph node => graph.removeNode node.1) topologyGraph.copy

variable [Field K]

def convertFloor
    (attributes : NodeAttributes K) : Except String (GeneratedNode K) :=
  match attributes.position, attributes.minZ with
  | some _, _ => .ok ⟨.floor, none, attributes⟩
  | none, some minZ =>
      .ok ⟨.floor, none, { attributes with position := some ⟨0, 0, minZ⟩ }⟩
  | none, none => .error "KeyError: 'min_z'"

/-- The height of an end of a stair or ramp is the one of its floor. -/
def heightOfFloor
    (graph : TopologyGraph K)
    (attributes : NodeAttributes K) : Except String K :=
  match attributes.floor with
  | some (.one floorName) =>
      match graph.node? floorName with
      | some floor =>
          match floor.attributes.minZ with
          | some minZ => .ok minZ
          | none => .error "KeyError: 'min_z'"
      | none => .error ("KeyError: '" ++ floorName ++ "'")
  | some (.many _) => .error "TypeError: unhashable type: 'list'"
  | none => .error "KeyError: 'floor'"

def convertEnd
    (graph : TopologyGraph K)
    (subtype : TransitionKind)
    (attributes : NodeAttributes K) : Except String (GeneratedNode K) :=
  match heightOfFloor graph attributes, attributes.position with
  | .error what, _ => .error what
  | .ok _, none =>
      .error "TypeError: 'NoneType' object does not support item assignment"
  | .ok minZ, some position =>
      .ok ⟨.transition, some subtype,
        { attributes with position := some { position with z := minZ } }⟩

/-- A stair or ramp, or one of its ends, told apart by the id. -/
def convertStairRamp
    (graph : TopologyGraph K)
    (oldId : String)
    (type : GeneratedType)
    (startSubtype endSubtype : TransitionKind)
    (attributes : NodeAttributes K) : Except String (GeneratedNode K) :=
  if "_start".toList.isSuffixOf oldId.toList then
    convertEnd graph startSubtype attributes
  else if "_end".toList.isSuffixOf oldId.toList then
    convertEnd graph endSubtype attributes
  else
    .ok ⟨type, none, attributes⟩

/-- The node of the topological map, if there is one. -/
def convertNode
    (graph : TopologyGraph K)
    (oldId : String)
    (node : TopologyNode K) : Except String (Option (GeneratedNode K)) :=
  match node.type with
  | .floor => some <$> convertFloor node.attributes
  | .stairSlabFloor => some <$> convertFloor node.attributes
  | .room _ => .ok (some ⟨.room, none, node.attributes⟩)
  | .element .ifcDoor =>
      .ok (some ⟨.transition, some .door, node.attributes⟩)
  | .element .ifcStair =>
      some <$> convertStairRamp graph oldId .stair .stairStart .stairEnd
        node.attributes
  | .element .ifcStairFlight =>
      some <$> convertStairRamp graph oldId .stair .stairStart .stairEnd
        node.attributes
  | .element .ifcRamp =>
      some <$> convertStairRamp graph oldId .ramp .rampStart .rampEnd
        node.attributes
  | .element .ifcRampFlight =>
      some <$> convertStairRamp graph oldId .ramp .rampStart .rampEnd
        node.attributes
  | .element .ifcSpace => .ok none
  | .element (.other _) => .ok none

/-- The new graph, the new ids of the nodes and the next id. -/
structure Conversion (K : Type) where
  newGraph : GeneratedMap K
  idMapping : List (String × Nat)
  newNodeId : Nat

def convertNodes
    (graph : TopologyGraph K) : Except String (Conversion K) :=
  graph.nodes.foldlM
    (fun conversion node => do
      match ← convertNode graph node.1 node.2 with
      | some newNode =>
          pure
            { newGraph := conversion.newGraph.addNode conversion.newNodeId
                fun _ => newNode
              idMapping := conversion.idMapping ++
                [(node.1, conversion.newNodeId)]
              newNodeId := conversion.newNodeId + 1 }
      | none => pure conversion)
    ⟨.empty, [], 0⟩

def TopologyEdge.generated : TopologyEdge → GeneratedEdgeData K
  | .floor => .floor
  | .room => .room

/-- The new graph and the next edge id after an edge. -/
def convertEdge
    (idMapping : List (String × Nat))
    (state : GeneratedMap K × Nat)
    (edge : (String × String) × TopologyEdge) : GeneratedMap K × Nat :=
  match idMapping.lookup edge.1.1, idMapping.lookup edge.1.2 with
  | some newFirst, some newSecond =>
      (state.1.addEdge newFirst newSecond ⟨state.2, edge.2.generated⟩,
        state.2 + 1)
  | _, _ => state

/-- Edges between nodes that were converted are numbered in their order. -/
def convertEdges
    (conversion : Conversion K)
    (edges : List ((String × String) × TopologyEdge)) : GeneratedMap K × Nat :=
  edges.foldl (convertEdge conversion.idMapping) (conversion.newGraph, 0)

def convertToIntegerIds
    (topologicalMap : TopologyGraph K) : Except String (GeneratedMap K) := do
  let conversion ← convertNodes topologicalMap
  pure (convertEdges conversion topologicalMap.reportedEdges).1

end TopologicalMap

section Loops

variable {State Item : Type} {step : State → Item → Except String State}
  {items : List Item} {state final : State}

theorem bind_eq_ok
    {Value Result : Type}
    {value : Except String Value}
    {next : Value → Except String Result}
    {result : Result}
    (isOk : (do next (← value)) = .ok result) :
    ∃ found, value = .ok found ∧ next found = .ok result := by
  cases value with
  | error what => cases isOk
  | ok found => exact ⟨found, rfl, isOk⟩

theorem map_some_eq_ok
    {Value : Type}
    {value : Except String Value}
    {result : Value}
    (isOk : some <$> value = .ok (some result)) :
    value = .ok result := by
  cases value with
  | error what => cases isOk
  | ok found =>
      cases isOk
      rfl

variable
  {motive : State → Prop}

theorem loop_keeps
    (keeps : ∀ item ∈ items, ∀ state next,
      motive state → step state item = .ok next → motive next)
    (holds : motive state)
    (run : items.foldlM step state = .ok final) :
    motive final := by
  induction items generalizing state with
  | nil =>
      cases run
      exact holds
  | cons item rest inductionHypothesis =>
      rw [List.foldlM_cons] at run
      obtain ⟨next, isNext, continues⟩ := bind_eq_ok run
      apply inductionHypothesis _ _ continues
      · intro later isLater
        exact keeps later (List.mem_cons_of_mem item isLater)
      · exact keeps item List.mem_cons_self state next holds isNext

theorem loop_succeeds
    (succeeds : ∀ item ∈ items, ∀ state, motive state →
      ∃ next, step state item = .ok next ∧ motive next)
    (holds : motive state) :
    ∃ final, items.foldlM step state = .ok final ∧ motive final := by
  induction items generalizing state with
  | nil => exact ⟨state, rfl, holds⟩
  | cons item rest inductionHypothesis =>
      obtain ⟨next, isNext, nextHolds⟩ :=
        succeeds item List.mem_cons_self state holds
      rw [List.foldlM_cons, isNext]
      apply inductionHypothesis _ nextHolds
      intro later isLater
      exact succeeds later (List.mem_cons_of_mem item isLater)

/-- What the step of an item achieves, and later steps keep, holds at the end of
a loop for all its items. -/
theorem loop_achieves
    (achieved : Item → State → Prop)
    (keeps : ∀ item ∈ items, ∀ state next,
      motive state → step state item = .ok next → motive next)
    (achieves : ∀ item ∈ items, ∀ state next,
      motive state → step state item = .ok next → achieved item next)
    (stays : ∀ item ∈ items, ∀ other state next, motive state →
      achieved other state → step state item = .ok next → achieved other next)
    (holds : motive state)
    (run : items.foldlM step state = .ok final) :
    ∀ item ∈ items, achieved item final := by
  induction items generalizing state with
  | nil =>
      intro item isItem
      cases isItem
  | cons item rest inductionHypothesis =>
      rw [List.foldlM_cons] at run
      obtain ⟨next, isNext, continues⟩ := bind_eq_ok run
      have isMember : ∀ later ∈ rest, later ∈ item :: rest :=
        fun later => List.mem_cons_of_mem item
      have nextHolds : motive next :=
        keeps item List.mem_cons_self state next holds isNext
      rw [List.forall_mem_cons]
      refine ⟨?_, ?_⟩
      · have isAchieved : motive next ∧ achieved item next :=
          ⟨nextHolds, achieves item List.mem_cons_self state next holds isNext⟩
        refine (loop_keeps (motive := fun state =>
          motive state ∧ achieved item state) ?_ isAchieved continues).2
        intro later isLater state next ⟨holds, isAchieved⟩ isNext
        exact ⟨keeps later (isMember later isLater) state next holds isNext,
          stays later (isMember later isLater) item state next holds isAchieved
            isNext⟩
      · apply inductionHypothesis _ _ _ nextHolds continues
        · exact fun later isLater => keeps later (isMember later isLater)
        · exact fun later isLater => achieves later (isMember later isLater)
        · exact fun later isLater => stays later (isMember later isLater)

end Loops

section Conversion

variable {K : Type} [Field K] {topologicalMap : TopologyGraph K}

/-- There are no edges between transitions yet. -/
def HasNoTransitionEdges
    (graph : GeneratedMap K) : Prop :=
  ∀ first second edge, graph.edge? first second = some edge →
    edge.data = .floor ∨ edge.data = .room

theorem convertNodes_edges
    {conversion : Conversion K}
    (converted : convertNodes topologicalMap = .ok conversion) :
    conversion.newGraph.edges = [] := by
  refine loop_keeps (motive := fun conversion : Conversion K =>
    conversion.newGraph.edges = []) ?_ rfl converted
  intro node _ state next noEdges isNext
  obtain ⟨newNode, -, isNext⟩ := bind_eq_ok isNext
  cases newNode with
  | none =>
      cases isNext
      exact noEdges
  | some newNode =>
      cases isNext
      exact noEdges

theorem convertToIntegerIds_edges
    {converted : GeneratedMap K}
    (isConverted : convertToIntegerIds topologicalMap = .ok converted) :
    HasNoTransitionEdges converted := by
  obtain ⟨conversion, nodesConverted, isConverted⟩ := bind_eq_ok isConverted
  cases isConverted
  rw [convertEdges]
  refine List.foldlRecOn (motive := fun state : GeneratedMap K × Nat =>
    HasNoTransitionEdges state.1) _ _ ?_ ?_
  · intro first second edge found
    simp [NetworkGraph.edge?, convertNodes_edges nodesConverted] at found
  · intro state holds edge _
    rw [convertEdge]
    split
    · intro first second found isFound
      rw [NetworkGraph.edge?_addEdge] at isFound
      split at isFound
      · cases isFound
        cases edge.2 with
        | floor => exact .inl rfl
        | room => exact .inr rfl
      · exact holds first second found isFound
    · exact holds

end Conversion

section Positions

variable {K : Type} {graph : TopologyGraph K}

/-- All nodes but floors have a position. -/
def HasPositions
    (graph : TopologyGraph K) : Prop :=
  ∀ node ∈ graph.nodes,
    node.2.type = .floor ∨ node.2.type = .stairSlabFloor ∨
      node.2.attributes.position.isSome = true

variable
  {attributes : NodeAttributes K}

theorem HasPositions.addTopologyNode
    {id : String}
    {type : TopologyType}
    (positions : HasPositions graph)
    (hasPosition : type = .floor ∨ type = .stairSlabFloor ∨
      attributes.position.isSome = true) :
    HasPositions (addTopologyNode graph id type attributes) := by
  intro node isNode
  rcases NetworkGraph.mem_insertNode isNode with isOld | ⟨old, rfl⟩
  · exact positions node isOld
  · cases old with
    | none => exact hasPosition
    | some old =>
        refine hasPosition.imp_right (Or.imp_right ?_)
        intro isSome
        obtain ⟨position, isPosition⟩ := Option.isSome_iff_exists.mp isSome
        simp [NodeAttributes.over, isPosition]

theorem HasPositions.addRoom
    (positions : HasPositions graph)
    (room : BuildingRoom K) :
    HasPositions (room.addToTopologyGraph graph) := by
  rw [BuildingRoom.addToTopologyGraph]
  split
  · exact positions
  · rename_i isComplete
    split
    · exact positions
    · apply positions.addTopologyNode
      simp only [Bool.or_eq_true, not_or, Bool.not_eq_true] at isComplete
      exact .inr (.inr (by simpa using isComplete.1.2))

theorem HasPositions.addElement
    (positions : HasPositions graph)
    (element : BuildingElement K) :
    HasPositions (element.addToTopologyGraph graph) := by
  rw [BuildingElement.addToTopologyGraph]
  split
  · rename_i stair _
    rw [StairRamp.addToTopologyGraph]
    split
    · exact positions
    · rename_i isComplete
      simp only [Bool.or_eq_true, not_or, Bool.not_eq_true,
        Option.isNone_eq_false_iff] at isComplete
      obtain ⟨⟨⟨⟨⟨⟨-, hasPosition⟩, -⟩, hasStart⟩, -⟩, hasEnd⟩, -⟩ := isComplete
      exact ((positions.addTopologyNode (.inr (.inr hasPosition)))
        |>.addTopologyNode (.inr (.inr hasStart)))
        |>.addTopologyNode (.inr (.inr hasEnd))
  · split
    · exact positions
    · split
      · exact positions
      · rename_i isComplete
        apply positions.addTopologyNode
        simp only [Bool.or_eq_true, not_or, Bool.not_eq_true] at isComplete
        exact .inr (.inr (by simpa using isComplete.2))

theorem HasPositions.mono
    {other : TopologyGraph K}
    (positions : HasPositions graph)
    (fewer : other.nodes ⊆ graph.nodes) :
    HasPositions other :=
  fun node isNode => positions node (fewer isNode)

theorem HasPositions.connect
    {type : TopologyEdge}
    {first second : String}
    (positions : HasPositions graph) :
    HasPositions (connect type graph first second) := by
  rw [NavBim.connect]
  split
  · exact positions
  · exact positions

theorem HasPositions.connectFloors
    (positions : HasPositions graph)
    (id : String)
    (floors : List String) :
    HasPositions (floors.foldl
      (fun graph floorName => NavBim.connect .floor graph floorName id)
      graph) :=
  List.foldlRecOn _ _ positions fun _ holds _ _ => holds.connect

theorem HasPositions.connectElement
    (positions : HasPositions graph)
    (element : BuildingElement K) :
    HasPositions (connectElement graph element) := by
  rw [NavBim.connectElement]
  split
  · have withFloors := positions.connectFloors element.ifcGuid element.floor
    dsimp only
    split
    · rename_i stair _
      rw [connectStairRamp]
      cases stair.startRoom with
      | none =>
          cases stair.endRoom with
          | none => exact withFloors.connect.connect
          | some endRoom => exact withFloors.connect.connect.connect
      | some startRoom =>
          cases stair.endRoom with
          | none => exact withFloors.connect.connect.connect
          | some endRoom => exact withFloors.connect.connect.connect.connect
    · refine List.foldlRecOn _ _ withFloors fun graph holds room _ => ?_
      split
      · exact holds.connect
      · exact holds
  · exact positions

theorem buildTopologyGraph_positions
    (building : Building K) :
    HasPositions (buildTopologyGraph building) := by
  have withFloors : HasPositions (building.floors.foldl
      BuildingFloor.addToTopologyGraph .empty) := by
    refine List.foldlRecOn _ _ (fun node isNode => by cases isNode) ?_
    intro graph holds floor _
    apply holds.addTopologyNode
    split
    · exact .inr (.inl rfl)
    · exact .inl rfl
  have withRooms := List.foldlRecOn building.rooms _ withFloors
    fun graph holds room _ => holds.addRoom room
  have withElements := List.foldlRecOn building.elements _ withRooms
    fun graph holds element _ => holds.addElement element
  have connectedRooms := List.foldlRecOn building.rooms connectRoom
    withElements fun graph holds room _ =>
      holds.connectFloors room.id (room.floor.getD [])
  exact List.foldlRecOn building.elements _ connectedRooms
    fun graph holds element _ => holds.connectElement element

theorem removeUnnecessaryNodes_positions
    (positions : HasPositions graph) :
    HasPositions (removeUnnecessaryNodes graph) := by
  refine List.foldlRecOn _ _ ?_ ?_
  · apply positions.mono
    rw [NetworkGraph.nodes_copy]
    exact List.Subset.refl _
  · intro smaller holds node _
    exact holds.mono List.filter_sublist.subset

/-- All transitions have a position. -/
def TransitionsHavePositions
    (map : GeneratedMap K) : Prop :=
  ∀ node ∈ map.nodes, node.2.type = .transition →
    node.2.attributes.position.isSome = true

theorem convertEnd_position
    {subtype : TransitionKind}
    {node : GeneratedNode K}
    (isConverted : convertEnd graph subtype attributes = .ok node) :
    node.attributes.position.isSome = true := by
  rw [convertEnd] at isConverted
  split at isConverted
  · cases isConverted
  · cases isConverted
  · cases isConverted
    rfl

theorem convertStairRamp_position
    {oldId : String}
    {type : GeneratedType}
    {startSubtype endSubtype : TransitionKind}
    {node : GeneratedNode K}
    (hasPosition : attributes.position.isSome = true)
    (isConverted : convertStairRamp graph oldId type startSubtype endSubtype
      attributes = .ok node) :
    node.attributes.position.isSome = true := by
  rw [convertStairRamp] at isConverted
  split at isConverted
  · exact convertEnd_position isConverted
  · split at isConverted
    · exact convertEnd_position isConverted
    · cases isConverted
      exact hasPosition

theorem convertNode_position
    [Field K]
    {oldId : String}
    {node : TopologyNode K}
    {newNode : GeneratedNode K}
    (hasPosition : node.type = .floor ∨ node.type = .stairSlabFloor ∨
      node.attributes.position.isSome = true)
    (isConverted : convertNode graph oldId node = .ok (some newNode))
    (isTransition : newNode.type = .transition) :
    newNode.attributes.position.isSome = true := by
  obtain ⟨type, attributes⟩ := node
  have notFloor : ∀ {attributes : NodeAttributes K},
      (some <$> convertFloor attributes) ≠ .ok (some newNode) := by
    intro attributes isFloor
    have isFloor := map_some_eq_ok isFloor
    rw [convertFloor] at isFloor
    split at isFloor <;> cases isFloor <;> cases isTransition
  have ofOther : type ≠ .floor → type ≠ .stairSlabFloor →
      attributes.position.isSome = true := by
    intro isNoFloor isNoSlab
    exact (hasPosition.resolve_left isNoFloor).resolve_left isNoSlab
  cases type with
  | floor => exact absurd isConverted notFloor
  | stairSlabFloor => exact absurd isConverted notFloor
  | room kind =>
      cases isConverted
      cases isTransition
  | element type =>
      have isPositioned := ofOther (by simp) (by simp)
      cases type with
      | ifcSpace => cases isConverted
      | other name => cases isConverted
      | ifcDoor =>
          cases isConverted
          exact isPositioned
      | ifcStair =>
          exact convertStairRamp_position isPositioned
            (map_some_eq_ok isConverted)
      | ifcStairFlight =>
          exact convertStairRamp_position isPositioned
            (map_some_eq_ok isConverted)
      | ifcRamp =>
          exact convertStairRamp_position isPositioned
            (map_some_eq_ok isConverted)
      | ifcRampFlight =>
          exact convertStairRamp_position isPositioned
            (map_some_eq_ok isConverted)

theorem convertToIntegerIds_positions
    [Field K]
    {converted : GeneratedMap K}
    (positions : HasPositions graph)
    (isConverted : convertToIntegerIds graph = .ok converted) :
    TransitionsHavePositions converted := by
  obtain ⟨conversion, nodesConverted, isConverted⟩ := bind_eq_ok isConverted
  cases isConverted
  have nodesPositioned : TransitionsHavePositions conversion.newGraph := by
    refine loop_keeps (motive := fun conversion : Conversion K =>
      TransitionsHavePositions conversion.newGraph) ?_
      (fun node isNode => by cases isNode) nodesConverted
    intro node isNode state next holds isNext
    obtain ⟨newNode, nodeConverted, isNext⟩ := bind_eq_ok isNext
    cases newNode with
    | none =>
        cases isNext
        exact holds
    | some newNode =>
        cases isNext
        intro entry isEntry isTransition
        rcases NetworkGraph.mem_insertNode isEntry with isOld | ⟨_, rfl⟩
        · exact holds entry isOld isTransition
        · exact convertNode_position (positions node isNode) nodeConverted
            isTransition
  refine List.foldlRecOn (motive := fun state : GeneratedMap K × Nat =>
    TransitionsHavePositions state.1) _ _ nodesPositioned ?_
  intro state holds edge _
  rw [convertEdge]
  split
  · exact holds
  · exact holds

end Positions

end NavBim
