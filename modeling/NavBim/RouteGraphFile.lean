import Mathlib
import NavBim.Json
import NavBim.OptionalFolds
import NavBim.RouteGraph
import NavBim.SortedEntries

namespace NavBim

/-!
# Files of route graphs

The saver writes a route graph as GeoJSON: a point for each node and a line for
each edge.  Metadata are nested objects, and the operations of a node or edge
are an object with their types as keys.  The loader takes points and lines in
the order of the file.

Metadata are kept as entries with increasing keys, so that equal metadata are
equal lists.  Where the loader throws an exception, or reads what is not there,
it has no result.
-/

open SortedEntries

/-- Single precision numbers and the double precision numbers of a file.  An
infinite number has no finite double. -/
structure FileNumbers (D F : Type) where
  toDouble : F → WithTop D
  toFloat : D → F
  ofInteger : Int → F
  /-- A float is read back from its double. -/
  toFloat_toDouble :
    ∀ {value : F} {double : D},
      toDouble value = (double : WithTop D) → toFloat double = value

namespace Json

variable {D : Type}

mutual

/-- A value after it was written as a text and parsed: `dump` writes numbers
that are not finite as `null`. -/
def asParsed : Json D → Json D
  | .float none => .null
  | .arr items => .arr (itemsAsParsed items)
  | .obj fields => .obj (fieldsAsParsed fields)
  | json => json

def itemsAsParsed : List (Json D) → List (Json D)
  | [] => []
  | item :: rest => asParsed item :: itemsAsParsed rest

def fieldsAsParsed : List (String × Json D) → List (String × Json D)
  | [] => []
  | (key, json) :: rest => (key, asParsed json) :: fieldsAsParsed rest

end

/-- What a range over a value visits. -/
def elements : Json D → List (Json D)
  | .null => []
  | .arr items => items
  | .obj fields => fields.map Prod.snd
  | json => [json]

def IsText
    (text : String) : Json D → Prop
  | .str other => other = text
  | _ => False

instance
    (text : String) : ∀ json : Json D, Decidable (json.IsText text)
  | .str other => inferInstanceAs (Decidable (other = text))
  | .null => isFalse id
  | .bool _ => isFalse id
  | .int _ => isFalse id
  | .float _ => isFalse id
  | .arr _ => isFalse id
  | .obj _ => isFalse id

/-- `get<bool>`. -/
def getBool : Json D → Option Bool
  | .bool value => some value
  | _ => none

/-- `get<unsigned int>`. -/
def getUnsigned
    [IntegerPart D] : Json D → Option UInt32
  | .int value => some (UInt32.ofInt value)
  | .bool value => some (if value then 1 else 0)
  | .float (value : D) =>
      some (UInt32.ofInt (IntegerPart.integerPart value))
  | _ => none

/-- `get<float>`. -/
def getFloat
    {F : Type}
    (numbers : FileNumbers D F) : Json D → Option F
  | .int value => some (numbers.ofInteger value)
  | .bool value => some (numbers.ofInteger (if value then 1 else 0))
  | .float (value : D) => some (numbers.toFloat value)
  | _ => none

end Json

/-- The texts of JSON values.  A text is parsed as what was written, up to
numbers that are not finite. -/
structure JsonText (D : Type) where
  Text : Type
  dump : Json D → Text
  parse : Text → Option (Json D)
  parse_dump : ∀ json, parse (dump json) = some json.asParsed

variable {D F : Type}

/-- `NLOHMANN_JSON_SERIALIZE_ENUM` of `OperationTrigger`. -/
def OperationTrigger.text : OperationTrigger → String
  | .node => "NODE"
  | .onEnter => "ON_ENTER"
  | .onExit => "ON_EXIT"

/-- The trigger of a text; other values stand for the first one. -/
def OperationTrigger.ofJson
    (json : Json D) : OperationTrigger :=
  if json.IsText "ON_ENTER" then
    .onEnter
  else if json.IsText "ON_EXIT" then
    .onExit
  else
    .node

namespace GeoJsonGraphFileSaver

variable (numbers : FileNumbers D F)

/-- The id that stands for a deleted node. -/
def deletedId : UInt32 := 2147483647

def primitiveToJson : MetadataPrimitive F → Json D
  | .string value => .str value
  | .int value => .int value.toInt
  | .unsigned value => .int value.toNat
  | .float value => .float (numbers.toDouble value)
  | .bool value => .bool value

mutual

def valueToJson : MetadataValue F → Json D
  | .primitive value => primitiveToJson numbers value
  | .array values => .arr (values.map (primitiveToJson numbers))
  | .metadata [] => .null
  | .metadata (entry :: rest) =>
      .obj (ofEntries (entriesToJson (entry :: rest)))

def entriesToJson :
    List (String × MetadataValue F) → List (String × Json D)
  | [] => []
  | (key, value) :: rest => (key, valueToJson value) :: entriesToJson rest

end

/-- `convertMetaDataToJson`, and nothing if there are no entries. -/
def convertMetaDataToJson
    (metadata : Metadata F) : Option (Json D) :=
  if metadata.data = [] then
    none
  else
    some (.obj (ofEntries (entriesToJson numbers metadata.data)))

def operationToJson
    (operation : Operation F) : Json D :=
  .obj
    ([("type", .str operation.type),
      ("trigger", .str operation.trigger.text)] ++
      optionalField "metadata"
        (convertMetaDataToJson numbers operation.metadata))

/-- `convertOperationsToJson`, and nothing if there are no operations. -/
def convertOperationsToJson
    (operations : List (Operation F)) : Option (Json D) :=
  if operations = [] then
    none
  else
    some (.obj (ofEntries (operations.map fun operation =>
      (operation.type, operationToJson numbers operation))))

def nodeProperties
    (node : RouteNode F) : Json D :=
  .obj
    ([("id", .int node.nodeid.toNat),
      ("frame", .str node.coords.frameId)] ++
      optionalField "metadata"
        (convertMetaDataToJson numbers node.metadata) ++
      optionalField "operations"
        (convertOperationsToJson numbers node.operations))

def nodeToJson
    (node : RouteNode F) : Json D :=
  .obj
    [("geometry",
        .obj
          [("type", .str "Point"),
            ("coordinates",
              .arr
                [.float (numbers.toDouble node.coords.x),
                  .float (numbers.toDouble node.coords.y)])]),
      ("properties", nodeProperties numbers node),
      ("type", .str "Feature")]

def loadNodesFromGraph
    (graph : RouteGraph F) : List (Json D) :=
  (graph.nodes.filter fun node => node.nodeid ≠ deletedId).map
    (nodeToJson numbers)

/-- The properties of an edge with the ids of its ends. -/
def edgeProperties
    (startid endid : UInt32)
    (edge : DirectionalEdge F) : Json D :=
  .obj
    ([("id", .int edge.edgeid.toNat),
      ("startid", .int startid.toNat),
      ("endid", .int endid.toNat)] ++
      optionalField "metadata"
        (convertMetaDataToJson numbers edge.metadata) ++
      optionalField "operations"
        (convertOperationsToJson numbers edge.operations) ++
      [("cost", .float (numbers.toDouble edge.edgeCost.cost)),
        ("overridable", .bool edge.edgeCost.overridable)])

def edgeToJson
    (startid endid : UInt32)
    (edge : DirectionalEdge F) : Json D :=
  .obj
    [("geometry", .obj [("type", .str "MultiLineString")]),
      ("properties", edgeProperties numbers startid endid edge),
      ("type", .str "Feature")]

def loadEdgesFromGraph
    (graph : RouteGraph F) : List (Json D) :=
  graph.nodes.flatMap fun node =>
    node.neighbors.map fun edge =>
      edgeToJson numbers node.nodeid
        ((graph.nodeid? edge.endNode).getD 0) edge

/-- The value that `saveGraphToFile` writes. -/
def saveGraph
    (graph : RouteGraph F) : Json D :=
  .obj
    [("type", .str "FeatureCollection"),
      ("name", .str "graph"),
      ("crs",
        .obj
          [("type", .str "name"),
            ("properties",
              .obj [("name", .str "urn:ogc:def:crs:EPSG::3857")])]),
      ("features",
        .arr (loadNodesFromGraph numbers graph ++
          loadEdgesFromGraph numbers graph))]

end GeoJsonGraphFileSaver

namespace GeoJsonGraphFileLoader

variable (numbers : FileNumbers D F)

/-- The points and the lines among features. -/
structure GraphElements (D : Type) where
  nodes : List (Json D)
  edges : List (Json D)

def addElement
    (found : GraphElements D)
    (feature : Json D) : Option (GraphElements D) := do
  let geometry ← feature.field? "geometry"
  let type ← geometry.field? "type"
  if type.IsText "Point" then
    some { found with nodes := found.nodes ++ [feature] }
  else if type.IsText "MultiLineString" ∨ type.IsText "LineString" then
    some { found with edges := found.edges ++ [feature] }
  else
    some found

def getGraphElements
    (features : Json D) : Option (GraphElements D) :=
  features.elements.foldlM addElement ⟨[], []⟩

/-- An integer that is not negative is parsed as an unsigned one. -/
def setPrimitiveType : Json D → Option (MetadataPrimitive F)
  | .int value =>
      some
        (if 0 ≤ value then
          .unsigned (UInt32.ofInt value)
        else
          .int (Int32.ofInt value))
  | .float (value : D) => some (.float (numbers.toFloat value))
  | .bool value => some (.bool value)
  | .str value => some (.string value)
  | _ => none

mutual

def convertValue : Json D → Option (MetadataValue F)
  | .obj fields =>
      (convertEntries fields).map fun entries =>
        .metadata (ofEntries entries)
  | .arr items =>
      (items.mapM (setPrimitiveType numbers)).map .array
  | json => (setPrimitiveType numbers json).map .primitive

def convertEntries :
    List (String × Json D) → Option (List (String × MetadataValue F))
  | [] => some []
  | (key, json) :: rest =>
      (convertValue json).bind fun value =>
        (convertEntries rest).map fun others => (key, value) :: others

end

/-- An element of an array of metadata, whose key is its place.  An object has
no such key. -/
def convertElement
    (element : Json D × Nat) : Option (String × MetadataValue F) :=
  match element.1 with
  | .obj _ => some (toString element.2, .metadata [])
  | json =>
      (convertValue numbers json).map fun value => (toString element.2, value)

/-- The entries of what is found under the key for metadata. -/
def convertItems : Json D → Option (List (String × MetadataValue F))
  | .null => some []
  | .obj fields => convertEntries numbers fields
  | .arr items => items.zipIdx.mapM (convertElement numbers)
  | json =>
      (setPrimitiveType numbers json).map fun value =>
        [("", .primitive value)]

def convertMetaDataFromJson
    (properties : Json D) : Option (Metadata F) :=
  readField properties "metadata"
    (fun json => (convertItems numbers json).map fun entries =>
      { data := ofEntries entries })
    {}

def convertOperationFromJson
    (json : Json D) : Option (Operation F) := do
  let typeJson ← json.field? "type"
  let type ← typeJson.getString
  let trigger ← json.field? "trigger"
  let metadata ← convertMetaDataFromJson numbers json
  some
    { type := type
      trigger := OperationTrigger.ofJson trigger
      metadata := metadata }

def convertOperationsFromJson
    (properties : Json D) : Option (List (Operation F)) :=
  readField properties "operations"
    (fun json => json.elements.mapM (convertOperationFromJson numbers)) []

def convertCoordinatesFromJson
    (node : Json D) : Option (Coordinates F) := do
  let properties ← node.field? "properties"
  let frameId ← readField properties "frame" Json.getString "map"
  let geometry ← node.field? "geometry"
  let coordinates ← geometry.field? "coordinates"
  let items ← coordinates.items?
  let x ← items[0]?
  let y ← items[1]?
  some
    { frameId := frameId
      x := ← x.getFloat numbers
      y := ← y.getFloat numbers }

def convertEdgeCostFromJson
    [Zero F]
    (properties : Json D) : Option (EdgeCost F) := do
  some
    { cost := ← readField properties "cost" (Json.getFloat numbers) 0
      overridable := ← readField properties "overridable" Json.getBool true }

variable [IntegerPart D]

/-- One node of `addNodesToGraph`. -/
def convertNode
    (node : Json D) : Option (RouteNode F) := do
  let properties ← node.field? "properties"
  let id ← properties.field? "id"
  some
    { nodeid := ← id.getUnsigned
      coords := ← convertCoordinatesFromJson numbers node
      operations := ← convertOperationsFromJson numbers properties
      metadata := ← convertMetaDataFromJson numbers properties
      neighbors := [] }

/-- `graph_to_id_map`: a later node replaces an earlier one. -/
def graphToIdMap
    (nodes : List (RouteNode F)) : UInt32 → Option Nat :=
  nodes.zipIdx.foldl
    (fun map indexed =>
      Function.update map indexed.1.nodeid (some indexed.2))
    (fun _ => none)

/-- One edge of `addEdgesToGraph`, with the node that it starts at. -/
def convertEdge
    [Zero F]
    (idMap : UInt32 → Option Nat)
    (edge : Json D) : Option (Nat × DirectionalEdge F) := do
  let properties ← edge.field? "properties"
  let id ← properties.field? "id"
  let edgeid ← id.getUnsigned
  let startJson ← properties.field? "startid"
  let startid ← startJson.getUnsigned
  let endJson ← properties.field? "endid"
  let endid ← endJson.getUnsigned
  let start ← idMap startid
  let endNode ← idMap endid
  some
    (start,
      { edgeid := edgeid
        endNode := endNode
        edgeCost := ← convertEdgeCostFromJson numbers properties
        operations := ← convertOperationsFromJson numbers properties
        metadata := ← convertMetaDataFromJson numbers properties })

omit [IntegerPart D] in
/-- `addEdge` of the node that the edge starts at. -/
def addEdge
    (nodes : List (RouteNode F))
    (edge : Nat × DirectionalEdge F) : List (RouteNode F) :=
  nodes.modify edge.1 fun node =>
    { node with neighbors := node.neighbors ++ [edge.2] }

def addEdgesToGraph
    [Zero F]
    (nodes : List (RouteNode F))
    (edges : List (Json D)) : Option (List (RouteNode F)) :=
  edges.foldlM
    (fun graph edge =>
      (convertEdge numbers (graphToIdMap nodes) edge).map (addEdge graph))
    nodes

/-- The nodes that `loadGraphFromFile` makes of a file. -/
def loadNodes
    [Zero F]
    (json : Json D) : Option (List (RouteNode F)) := do
  let features ← json.field? "features"
  let elements ← getGraphElements features
  if elements.nodes.isEmpty || elements.edges.isEmpty then
    none
  else do
    let nodes ← elements.nodes.mapM (convertNode numbers)
    addEdgesToGraph numbers nodes elements.edges

section Ends

variable {numbers : FileNumbers D F}

omit [IntegerPart D] in
theorem graphToIdMap_append
    (nodes : List (RouteNode F))
    (last : RouteNode F) :
    graphToIdMap (nodes ++ [last]) =
      Function.update (graphToIdMap nodes) last.nodeid
        (some nodes.length) := by
  rw [graphToIdMap, List.zipIdx_append, List.foldl_append]
  simp only [List.zipIdx_singleton, List.foldl_cons, List.foldl_nil,
    Nat.zero_add]
  rfl

theorem graphToIdMap_lt
    {nodes : List (RouteNode F)}
    {id : UInt32}
    {index : Nat}
    (isIndex : graphToIdMap nodes id = some index) :
    index < nodes.length := by
  induction nodes using List.reverseRecOn with
  | nil =>
      cases isIndex
  | append_singleton nodes last inductionHypothesis =>
      rw [graphToIdMap_append, Function.update_apply] at isIndex
      rw [List.length_append, List.length_singleton]
      split at isIndex
      · rw [← Option.some.inj isIndex]
        exact Nat.lt_succ_self _
      · exact Nat.lt_succ_of_lt (inductionHypothesis isIndex)

theorem length_addEdge
    (nodes : List (RouteNode F))
    (edge : Nat × DirectionalEdge F) :
    (addEdge nodes edge).length = nodes.length :=
  List.length_modify _ _ _

theorem endNode_of_convertEdge
    [Zero F]
    {idMap : UInt32 → Option Nat}
    {json : Json D}
    {edge : Nat × DirectionalEdge F}
    (converted : convertEdge numbers idMap json = some edge) :
    ∃ endid, idMap endid = some edge.2.endNode := by
  simp only [convertEdge, Option.bind_eq_bind, Option.bind_eq_some_iff]
    at converted
  obtain ⟨_, -, _, -, _, -, _, -, _, -, _, -, endid, -, _, -, _, isEnd,
    _, -, _, -, _, -, same⟩ := converted
  rw [← Option.some.inj same]
  exact ⟨endid, isEnd⟩

theorem neighbors_of_convertNode
    {json : Json D}
    {node : RouteNode F}
    (converted : convertNode numbers json = some node) :
    node.neighbors = [] := by
  simp only [convertNode, Option.bind_eq_bind, Option.bind_eq_some_iff]
    at converted
  obtain ⟨_, -, _, -, _, -, _, -, _, -, _, -, same⟩ := converted
  rw [← Option.some.inj same]

theorem endsInside_of_loadNodes
    [Zero F]
    {json : Json D}
    {nodes : List (RouteNode F)}
    (loaded : loadNodes numbers json = some nodes) :
    ∀ node ∈ nodes, ∀ edge ∈ node.neighbors,
      edge.endNode < nodes.length := by
  obtain ⟨features, -, loaded⟩ := Option.bind_eq_some_iff.mp loaded
  obtain ⟨elements, -, loaded⟩ := Option.bind_eq_some_iff.mp loaded
  split at loaded
  · cases loaded
  · obtain ⟨fresh, isFresh, loaded⟩ := Option.bind_eq_some_iff.mp loaded
    have kept :
        nodes.length = fresh.length ∧
          ∀ node ∈ nodes, ∀ edge ∈ node.neighbors,
            edge.endNode < fresh.length := by
      refine foldlM_keeps
        (motive := fun built : List (RouteNode F) =>
          built.length = fresh.length ∧
            ∀ node ∈ built, ∀ edge ∈ node.neighbors,
              edge.endNode < fresh.length)
        ?_ elements.edges ⟨rfl, ?_⟩ loaded
      · intro built next feature ⟨sameLength, inside⟩ isNext
        obtain ⟨added, converted, isNext⟩ := Option.map_eq_some_iff.mp isNext
        obtain ⟨endid, isEnd⟩ := endNode_of_convertEdge converted
        rw [← isNext]
        refine ⟨(length_addEdge built added).trans sameLength, ?_⟩
        intro node member edge isEdge
        rw [addEdge, List.mem_iff_getElem?] at member
        obtain ⟨index, atIndex⟩ := member
        rw [List.getElem?_modify, Option.map_eq_map,
          Option.map_eq_some_iff] at atIndex
        obtain ⟨old, isOld, isNode⟩ := atIndex
        have oldInside := inside old (List.mem_of_getElem? isOld)
        split at isNode
        · rw [← isNode] at isEdge
          cases List.mem_append.mp isEdge with
          | inl before =>
              exact oldInside edge before
          | inr isAdded =>
              rw [List.mem_singleton.mp isAdded]
              exact graphToIdMap_lt isEnd
        · rw [← isNode] at isEdge
          exact oldInside edge isEdge
      · intro node member edge isEdge
        obtain ⟨feature, -, converted⟩ :=
          exists_of_mem_results (mapM_eq_some_iff_forall₂.mp isFresh) member
        rw [neighbors_of_convertNode converted] at isEdge
        cases isEdge
    rw [kept.1]
    exact kept.2

end Ends

/-- `loadGraphFromFile`, into an empty graph. -/
def loadGraphFromFile
    [Zero F]
    (json : Json D) : Option (RouteGraph F) :=
  (loadNodes numbers json).pmap RouteGraph.mk fun _ loaded =>
    endsInside_of_loadNodes loaded

theorem loadGraphFromFile_eq_some_iff
    [Zero F]
    {json : Json D}
    {graph : RouteGraph F} :
    loadGraphFromFile numbers json = some graph ↔
      loadNodes numbers json = some graph.nodes := by
  rw [loadGraphFromFile, Option.pmap_eq_some_iff]
  constructor
  · rintro ⟨nodes, _, loaded, rfl⟩
    exact loaded
  · intro loaded
    exact ⟨graph.nodes, endsInside_of_loadNodes loaded, loaded, rfl⟩

/-- Save a graph, and load it again. -/
def reload
    [Zero F]
    (text : JsonText D)
    (graph : RouteGraph F) : Option (RouteGraph F) :=
  (text.parse (text.dump
    (GeoJsonGraphFileSaver.saveGraph numbers graph))).bind
      (loadGraphFromFile numbers)

end GeoJsonGraphFileLoader

end NavBim
