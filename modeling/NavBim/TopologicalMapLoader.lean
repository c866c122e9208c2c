import NavBim.Json
import NavBim.TopologicalGraph

namespace NavBim

/-!
# Loading and saving the map

`TopologicalMapLoader` reads and writes maps as node-link JSON documents.  An
exception in the reader makes loading fail, except inside `parsePolygon`,
which then reports that there is no polygon.

Saving and reloading a graph changes its properties in a way that does not
depend on the rest of the graph; `reloadedNode` and `reloadedEdge` say how.
-/

open Json

section Reader

variable {K : Type}

/-- A value for an optional property. -/
def present
    {α : Type}
    (read : Json K → Option α)
    (json : Json K) : Option (Option α) :=
  (read json).map some

/-- The floor list, from an array of names or a single name. -/
def parseFloorList : Json K → Option (Option (List String))
  | .arr items => do
      let names ← items.mapM getString
      return if names.isEmpty then none else some names
  | .str name => some (some [name])
  | _ => some none

variable [Field K]

/-- `parsePosition`. -/
def parsePosition
    (json : Json K) : Option (Position K) := do
  let x ← readField json "x" getFinite 0
  let y ← readField json "y" getFinite 0
  let z ← readField json "z" getFinite 0
  return ⟨x, y, z⟩

/-- `parseBoundingBox`. -/
def parseBoundingBox
    (json : Json K) : Option (BoundingBox K) := do
  let minX ← readField json "min_x" getFinite 0
  let maxX ← readField json "max_x" getFinite 0
  let minY ← readField json "min_y" getFinite 0
  let maxY ← readField json "max_y" getFinite 0
  let minZ ← readField json "min_z" getFinite 0
  let maxZ ← readField json "max_z" getFinite 0
  return ⟨minX, maxX, minY, maxY, minZ, maxZ⟩

/-- The points of a ring; elements that are no pairs are passed over. -/
def parsePoints : List (Json K) → Option (Ring K)
  | [] => some []
  | .arr (x :: y :: _) :: rest => do
      let px ← x.getFinite
      let py ← y.getFinite
      let points ← parsePoints rest
      return (px, py) :: points
  | _ :: rest => parsePoints rest

/-- `parsePolygon`: the first ring of the coordinates. -/
def parsePolygon
    (json : Json K) : Option (Polygon K) :=
  match json.field? "coordinates" with
  | some (.arr (.arr outerRing :: _)) =>
      (parsePoints outerRing).map fun points => ⟨points, []⟩
  | _ => none

/-- The waypoints of a path; elements that are no triples are passed over. -/
def parseWaypoints : List (Json K) → Option (List (Coords K))
  | [] => some []
  | .arr (x :: y :: z :: _) :: rest => do
      let px ← x.getFinite
      let py ← y.getFinite
      let pz ← z.getFinite
      let points ← parseWaypoints rest
      return (px, py, pz) :: points
  | _ :: rest => parseWaypoints rest

/-- The path of an edge, if the field is an array. -/
def parsePath : Json K → Option (Option (List (Coords K)))
  | .arr items => (parseWaypoints items).map some
  | _ => some none

variable [IntegerPart K]

/-- `parseNodeProperties`. -/
def parseNodeProperties
    (json : Json K) : Option (NodeProperties K) := do
  let id ← readField json "id" getInt (-1)
  let type ← readField json "type" getString "unknown"
  let name ← readField json "name" getString ""
  let subtype ← readField json "subtype" (present getString) none
  let ifcGuid ← readField json "ifc_guid" (present getString) none
  let position ← readField json "position" parsePosition Position.origin
  let minZ ← readField json "min_z" (present getFinite) none
  let maxZ ← readField json "max_z" (present getFinite) none
  let bbox ← readField json "bbox" (present parseBoundingBox) none
  let polygon ← readField json "polygon" (fun value =>
    some (parsePolygon value)) none
  let floor ← readField json "floor" parseFloorList none
  some
    { id := id
      name := name
      type := type
      subtype := subtype
      position := position
      ifcGuid := ifcGuid
      minZ := minZ
      maxZ := maxZ
      bbox := bbox
      polygon := polygon
      floor := floor }

/-- `parseEdgeProperties`. -/
def parseEdgeProperties
    (json : Json K) : Option (EdgeProperties K) := do
  let id ← readField json "id" getInt (-1)
  let type ← readField json "type" getString "unknown"
  let subtype ← readField json "subtype" (present getString) none
  let roomId ← readField json "room_id" (present getInt) none
  let estimatedDistance ←
    readField json "estimated_distance" getDouble 0
  let plannedDistance ←
    readField json "planned_distance" getDouble unplanned
  let estimatedCost ← readField json "estimated_cost" getDouble 0
  let plannedCost ← readField json "planned_cost" getDouble unplanned
  let path ← readField json "path" parsePath none
  some
    { id := id
      type := type
      subtype := subtype
      estimatedDistance := estimatedDistance
      plannedDistance := plannedDistance
      estimatedCost := estimatedCost
      plannedCost := plannedCost
      path := path
      pathFrameId := "ifc"
      roomId := roomId }

/-- The graph and `id_to_vertex` while nodes are loaded. -/
structure LoadedNodes (K : Type) where
  graph : TopologicalGraph K
  idToVertex : Int32 → Option Nat

/-- Load one element of `nodes`. -/
def loadNode
    (loaded : LoadedNodes K)
    (json : Json K) : Option (LoadedNodes K) := do
  let props ← parseNodeProperties json
  some
    { graph := loaded.graph.addVertex props
      idToVertex :=
        Function.update loaded.idToVertex props.id
          (some loaded.graph.numVertices) }

/-- Load one element of `links`; links without known ends are passed over. -/
def loadLink
    (idToVertex : Int32 → Option Nat)
    (graph : TopologicalGraph K)
    (json : Json K) : Option (TopologicalGraph K) :=
  match json.field? "source", json.field? "target" with
  | some source, some target => do
      let sourceId ← source.getInt
      let targetId ← target.getInt
      match idToVertex sourceId, idToVertex targetId with
      | some u, some v =>
          (parseEdgeProperties json).map (graph.addEdge u v)
      | _, _ => some graph
  | _, _ => some graph

/-- `loadFromJson`. -/
def loadFromJson
    (json : Json K) : Option (TopologicalGraph K) := do
  let nodes ← (json.field? "nodes").bind items?
  let loaded ←
    nodes.foldlM loadNode ⟨TopologicalGraph.empty, fun _ => none⟩
  let links ← (json.field? "links").bind items?
  links.foldlM (loadLink loaded.idToVertex) loaded.graph

end Reader

section Writer

variable {K : Type}

/-- A text that is written only if it is not empty. -/
def textJson : Option String → Option (Json K)
  | some text => if text.isEmpty then none else some (.str text)
  | none => none

/-- The position as an object. -/
def positionJson
    (position : Position K) : Json K :=
  .obj
    [("x", number position.x), ("y", number position.y),
      ("z", number position.z)]

/-- The bounding box as an object. -/
def boundingBoxJson
    (bbox : BoundingBox K) : Json K :=
  .obj
    [("min_x", number bbox.minX), ("max_x", number bbox.maxX),
      ("min_y", number bbox.minY), ("max_y", number bbox.maxY),
      ("min_z", number bbox.minZ), ("max_z", number bbox.maxZ)]

/-- A ring as an array of pairs. -/
def ringJson
    (ring : Ring K) : Json K :=
  .arr (ring.map fun point => .arr [number point.1, number point.2])

/-- `polygonToGeoJson`: the outer ring only. -/
def polygonToGeoJson
    (polygon : Polygon K) : Json K :=
  .obj
    [("type", .str "Polygon"),
      ("coordinates", .arr [ringJson polygon.outer])]

/-- The floor names, if there are any. -/
def floorJson : Option (List String) → Option (Json K)
  | some (name :: names) => some (.arr ((name :: names).map .str))
  | _ => none

/-- A node of the document. -/
def nodeJson
    (props : NodeProperties K) : Json K :=
  .obj
    (optionalField "id" (some (.int props.id.toInt)) ++
      optionalField "type" (some (.str props.type)) ++
      optionalField "name" (textJson (some props.name)) ++
      optionalField "subtype" (textJson props.subtype) ++
      optionalField "ifc_guid" (textJson props.ifcGuid) ++
      optionalField "position" (some (positionJson props.position)) ++
      optionalField "min_z"
        (props.minZ.map number) ++
      optionalField "max_z"
        (props.maxZ.map number) ++
      optionalField "bbox" (props.bbox.map boundingBoxJson) ++
      optionalField "polygon" (props.polygon.map polygonToGeoJson) ++
      optionalField "floor" (floorJson props.floor))

/-- The waypoints of a path, if there are any. -/
def pathJson : Option (List (Coords K)) → Option (Json K)
  | some (first :: rest) =>
      some (.arr ((first :: rest).map fun waypoint =>
        .arr [number waypoint.1, number waypoint.2.1,
          number waypoint.2.2]))
  | _ => none

variable [Field K] [DecidableEq K]

/-- A distance or cost that is written only if it is not zero. -/
def nonzeroJson
    (value : WithTop K) : Option (Json K) :=
  if value ≠ 0 then some (.float value) else none

/-- A link of the document; only transition edges have costs and paths. -/
def linkJson
    (graph : TopologicalGraph K)
    (edge : StoredEdge K) : Json K :=
  let props := edge.properties
  let transition {α : Type} (value : Option α) : Option α :=
    if props.type = "transition" then value else none
  .obj
    (optionalField "id" (some (.int props.id.toInt)) ++
      optionalField "source"
        (some (.int (graph.node edge.source).id.toInt)) ++
      optionalField "target"
        (some (.int (graph.node edge.target).id.toInt)) ++
      optionalField "type" (some (.str props.type)) ++
      optionalField "subtype" (textJson props.subtype) ++
      optionalField "room_id"
        (props.roomId.map fun roomId => .int roomId.toInt) ++
      optionalField "estimated_distance"
        (transition (nonzeroJson props.estimatedDistance)) ++
      optionalField "planned_distance"
        (transition (nonzeroJson props.plannedDistance)) ++
      optionalField "estimated_cost"
        (transition (nonzeroJson props.estimatedCost)) ++
      optionalField "planned_cost"
        (transition (nonzeroJson props.plannedCost)) ++
      optionalField "path" (transition (pathJson props.path)))

/-- `toJson`. -/
def toJson
    (graph : TopologicalGraph K) : Json K :=
  .obj
    [("directed", .bool false),
      ("multigraph", .bool false),
      ("graph", .obj []),
      ("nodes", .arr (graph.vertices.map nodeJson)),
      ("links", .arr (graph.edges.map (linkJson graph)))]

end Writer

section Reload

variable {K : Type}

/-- An optional text without the empty text. -/
def nonemptyText : Option String → Option String
  | some text => if text.isEmpty then none else some text
  | none => none

/-- An optional list without the empty list. -/
def nonemptyList {α : Type} : Option (List α) → Option (List α)
  | some (first :: rest) => some (first :: rest)
  | _ => none

/-- A node after it was saved and loaded. -/
def reloadedNode
    (props : NodeProperties K) : NodeProperties K :=
  { props with
    subtype := nonemptyText props.subtype
    ifcGuid := nonemptyText props.ifcGuid
    polygon := props.polygon.map fun polygon => ⟨polygon.outer, []⟩
    floor := nonemptyList props.floor }

variable [Field K] [DecidableEq K]

/-- A planned value after it was saved and loaded. -/
def reloadedPlan
    (value : WithTop K) : WithTop K :=
  if value ≠ 0 then value else unplanned

/-- The properties of an edge after it was saved and loaded. -/
def reloadedEdge
    (props : EdgeProperties K) : EdgeProperties K :=
  if props.type = "transition" then
    { props with
      subtype := nonemptyText props.subtype
      plannedDistance := reloadedPlan props.plannedDistance
      plannedCost := reloadedPlan props.plannedCost
      path := nonemptyList props.path
      pathFrameId := "ifc" }
  else
    { EdgeProperties.unset with
      id := props.id
      type := props.type
      subtype := nonemptyText props.subtype
      roomId := props.roomId }

end Reload

section RoundTrip

variable {K : Type}

theorem mapM_getString
    (names : List String) :
    (names.map Json.str : List (Json K)).mapM getString = some names := by
  induction names with
  | nil =>
      rfl
  | cons name rest inductionHypothesis =>
      simp [List.mapM_cons, inductionHypothesis]

/-- What can be read back is read back as an optional value. -/
theorem read_present
    {α : Type}
    {read : Json K → Option α}
    {write : α → Json K}
    (inverse : ∀ value, read (write value) = some value)
    (value : Option α) :
    ((value.map write).map (present read)).getD (some none) =
      some value := by
  cases value with
  | none =>
      rfl
  | some value =>
      simp [present, inverse]

/-- An optional text is read back without the empty text. -/
@[simp] theorem read_textJson
    (text : Option String) :
    ((textJson text : Option (Json K)).map (present getString)).getD
        (some none) =
      some (nonemptyText text) := by
  cases text with
  | none =>
      rfl
  | some text =>
      simp only [textJson, nonemptyText]
      split <;> rfl

/-- A name is read back unchanged, because the empty name is the default. -/
@[simp] theorem read_name
    (name : String) :
    ((textJson (some name) : Option (Json K)).map getString).getD
        (some "") =
      some name := by
  simp only [textJson]
  split
  · rename_i isEmpty
    rw [String.isEmpty_iff] at isEmpty
    simp [isEmpty]
  · rfl

@[simp] theorem read_floorJson
    (floor : Option (List String)) :
    ((floorJson floor : Option (Json K)).map parseFloorList).getD
        (some none) =
      some (nonemptyList floor) := by
  match floor with
  | none => rfl
  | some [] => rfl
  | some (name :: names) =>
      simp only [floorJson, nonemptyList, Option.map_some,
        Option.getD_some, parseFloorList, mapM_getString]
      rfl

variable [Field K]

@[simp] theorem parsePosition_positionJson
    (position : Position K) :
    parsePosition (positionJson position) = some position := by
  rfl

@[simp] theorem parseBoundingBox_boundingBoxJson
    (bbox : BoundingBox K) :
    parseBoundingBox (boundingBoxJson bbox) = some bbox := by
  rfl

theorem parsePoints_ring
    (ring : Ring K) :
    parsePoints
        (ring.map fun point => .arr [number point.1, number point.2]) =
      some ring := by
  induction ring with
  | nil =>
      rfl
  | cons point rest inductionHypothesis =>
      simp only [List.map_cons, parsePoints, inductionHypothesis]
      rfl

/-- A polygon is read back without its holes. -/
@[simp] theorem parsePolygon_polygonToGeoJson
    (polygon : Polygon K) :
    parsePolygon (polygonToGeoJson polygon) =
      some ⟨polygon.outer, []⟩ := by
  simp [parsePolygon, polygonToGeoJson, ringJson, List.lookup_cons,
    parsePoints_ring]

theorem parseWaypoints_path
    (path : List (Coords K)) :
    parseWaypoints
        (path.map fun waypoint =>
          .arr [number waypoint.1, number waypoint.2.1,
            number waypoint.2.2]) =
      some path := by
  induction path with
  | nil =>
      rfl
  | cons waypoint rest inductionHypothesis =>
      simp only [List.map_cons, parseWaypoints, inductionHypothesis]
      rfl

@[simp] theorem read_polygon
    (polygon : Option (Polygon K)) :
    ((polygon.map polygonToGeoJson).map fun value =>
        some (parsePolygon value)).getD (some none) =
      some (polygon.map fun polygon => ⟨polygon.outer, []⟩) := by
  cases polygon <;> simp

@[simp] theorem read_pathJson
    (path : Option (List (Coords K))) :
    ((pathJson path).map parsePath).getD (some none) =
      some (nonemptyList path) := by
  match path with
  | none => rfl
  | some [] => rfl
  | some (waypoint :: rest) =>
      simp only [pathJson, nonemptyList, Option.map_some,
        Option.getD_some, parsePath, parseWaypoints_path]

section Links

variable [DecidableEq K]

/-- An estimated value is read back unchanged, because zero is the default. -/
@[simp] theorem read_estimate
    (value : WithTop K) :
    ((nonzeroJson value).map getDouble).getD (some 0) = some value := by
  unfold nonzeroJson
  split
  · rfl
  · rename_i isZero
    rw [not_not] at isZero
    rw [isZero]
    rfl

@[simp] theorem read_plan
    (value : WithTop K) :
    ((nonzeroJson value).map getDouble).getD (some unplanned) =
      some (reloadedPlan value) := by
  unfold nonzeroJson reloadedPlan
  split <;> rfl

/-- The ids of the ends of a written link are read back. -/
theorem linkJson_ends
    (graph : TopologicalGraph K)
    (edge : StoredEdge K) :
    (linkJson graph edge).field? "source" =
        some (.int (graph.node edge.source).id.toInt) ∧
      (linkJson graph edge).field? "target" =
        some (.int (graph.node edge.target).id.toInt) := by
  constructor <;> simp [linkJson, List.lookup_append]

end Links

variable [IntegerPart K]

theorem parseNodeProperties_nodeJson
    (props : NodeProperties K) :
    parseNodeProperties (nodeJson props) = some (reloadedNode props) := by
  simp [parseNodeProperties, nodeJson, List.lookup_append, reloadedNode,
    -Option.map_map, read_present getFinite_number,
    read_present parseBoundingBox_boundingBoxJson]

variable [DecidableEq K]

theorem parseEdgeProperties_linkJson
    (graph : TopologicalGraph K)
    (edge : StoredEdge K) :
    parseEdgeProperties (linkJson graph edge) =
      some (reloadedEdge edge.properties) := by
  by_cases transition : edge.properties.type = "transition"
  · simp [parseEdgeProperties, linkJson, List.lookup_append,
      reloadedEdge, transition, -Option.map_map,
      read_present getInt_int]
  · simp [parseEdgeProperties, linkJson, List.lookup_append,
      reloadedEdge, transition, -Option.map_map,
      read_present getInt_int, EdgeProperties.unset]

end RoundTrip

section Loading

variable {K : Type}

/-- The state after a node with the given properties was added. -/
def addNode
    (loaded : LoadedNodes K)
    (props : NodeProperties K) : LoadedNodes K where
  graph := loaded.graph.addVertex props
  idToVertex :=
    Function.update loaded.idToVertex props.id
      (some loaded.graph.numVertices)

/-- What is known about the loaded nodes. -/
structure NodesLoaded
    (nodes : List (NodeProperties K))
    (loaded : LoadedNodes K) : Prop where
  vertices : loaded.graph.vertices = nodes
  edges : loaded.graph.edges = []
  idToVertex_iff :
    ∀ {id vertex},
      loaded.idToVertex id = some vertex ↔
        ∃ inList : vertex < nodes.length, nodes[vertex].id = id

theorem NodesLoaded.add
    {nodes : List (NodeProperties K)}
    {loaded : LoadedNodes K}
    (known : NodesLoaded nodes loaded)
    {props : NodeProperties K}
    (newId : ∀ node ∈ nodes, node.id ≠ props.id) :
    NodesLoaded (nodes ++ [props]) (addNode loaded props) where
  vertices := by
    simp [addNode, TopologicalGraph.addVertex, known.vertices]
  edges := by
    simp [addNode, TopologicalGraph.addVertex, known.edges]
  idToVertex_iff := by
    intro id vertex
    have size : loaded.graph.numVertices = nodes.length := by
      rw [TopologicalGraph.numVertices, known.vertices]
    simp only [addNode, Function.update_apply, size]
    split
    · rename_i isNew
      subst isNew
      constructor
      · intro same
        rw [Option.some_inj] at same
        subst same
        exact ⟨by simp, by simp⟩
      · rintro ⟨inList, isId⟩
        by_cases old : vertex < nodes.length
        · rw [List.getElem_append_left old] at isId
          exact absurd isId (newId _ (List.getElem_mem old))
        · rw [List.length_append, List.length_singleton] at inList
          congr 1
          omega
    · rename_i isOld
      rw [known.idToVertex_iff]
      constructor
      · rintro ⟨inList, isId⟩
        refine ⟨by rw [List.length_append]; omega, ?_⟩
        rw [List.getElem_append_left inList]
        exact isId
      · rintro ⟨inList, isId⟩
        by_cases old : vertex < nodes.length
        · rw [List.getElem_append_left old] at isId
          exact ⟨old, isId⟩
        · rw [List.getElem_append_right (by omega)] at isId
          simp at isId
          exact absurd isId.symm isOld

theorem NodesLoaded.foldl
    (more : List (NodeProperties K)) :
    ∀ {nodes loaded},
      NodesLoaded nodes loaded →
      ((nodes ++ more).map NodeProperties.id).Nodup →
      NodesLoaded (nodes ++ more) (more.foldl addNode loaded) := by
  induction more with
  | nil =>
      intro nodes loaded known _
      simpa using known
  | cons props rest inductionHypothesis =>
      intro nodes loaded known distinct
      have newId : ∀ node ∈ nodes, node.id ≠ props.id := by
        intro node member
        rw [List.map_append, List.nodup_append] at distinct
        exact distinct.2.2 node.id (List.mem_map_of_mem member) props.id
          (by simp)
      have next :=
        inductionHypothesis (known.add newId)
          (by simpa using distinct)
      simpa using next

theorem NodesLoaded.idToVertex_lt
    {nodes : List (NodeProperties K)}
    {loaded : LoadedNodes K}
    (known : NodesLoaded nodes loaded)
    (id : Int32)
    (vertex : Nat)
    (isVertex : loaded.idToVertex id = some vertex) :
    vertex < loaded.graph.numVertices := by
  obtain ⟨inList, -⟩ := known.idToVertex_iff.mp isVertex
  rw [TopologicalGraph.numVertices, known.vertices]
  exact inList

variable [Field K] [IntegerPart K]

variable
  {jsons : List (Json K)}

section

variable
  {nodes : List (NodeProperties K)}
  (parsed : List.Forall₂ (fun json props =>
    parseNodeProperties json = some props) jsons nodes)

include parsed

theorem foldlM_loadNode :
    ∀ loaded,
      jsons.foldlM loadNode loaded = some (nodes.foldl addNode loaded) := by
  induction parsed with
  | nil =>
      intro loaded
      rfl
  | @cons json props jsons nodes isParsed _ inductionHypothesis =>
      intro loaded
      have first : loadNode loaded json = some (addNode loaded props) := by
        simp only [loadNode, isParsed]
        rfl
      simp [List.foldlM_cons, first, inductionHypothesis]

theorem foldlM_loadNode_spec
    (distinct : (nodes.map NodeProperties.id).Nodup) :
    ∃ loaded,
      jsons.foldlM loadNode ⟨TopologicalGraph.empty, fun _ => none⟩ =
          some loaded ∧
        NodesLoaded nodes loaded := by
  refine ⟨_, foldlM_loadNode parsed _, ?_⟩
  have initially :
      NodesLoaded ([] : List (NodeProperties K))
        ⟨TopologicalGraph.empty, fun _ => none⟩ :=
    ⟨rfl, rfl, by simp⟩
  exact NodesLoaded.foldl nodes initially distinct

end

/-- A link between loaded nodes is read as the given edge. -/
structure LinkParses
    (idToVertex : Int32 → Option Nat)
    (json : Json K)
    (edge : StoredEdge K) : Prop where
  source :
    ∃ value id,
      json.field? "source" = some value ∧ value.getInt = some id ∧
        idToVertex id = some edge.source
  target :
    ∃ value id,
      json.field? "target" = some value ∧ value.getInt = some id ∧
        idToVertex id = some edge.target
  properties : parseEdgeProperties json = some edge.properties

theorem foldlM_loadLink
    {idToVertex : Int32 → Option Nat}
    {edges : List (StoredEdge K)}
    (parsed : List.Forall₂ (LinkParses idToVertex) jsons edges) :
    ∀ graph : TopologicalGraph K,
      (∀ id vertex, idToVertex id = some vertex →
        vertex < graph.numVertices) →
      ∃ loaded,
        jsons.foldlM (loadLink idToVertex) graph = some loaded ∧
          loaded.vertices = graph.vertices ∧
          loaded.edges = graph.edges ++ edges := by
  intro graph bounded
  have adds :
      List.Forall₂ (fun json edge =>
        ∀ graph,
          loadLink idToVertex graph json =
            some (graph.addEdge edge.source edge.target edge.properties))
        jsons edges := by
    refine parsed.imp ?_
    intro json edge isParsed graph
    obtain ⟨sourceValue, sourceId, hasSource, readSource, isSource⟩ :=
      isParsed.source
    obtain ⟨targetValue, targetId, hasTarget, readTarget, isTarget⟩ :=
      isParsed.target
    simp [loadLink, hasSource, hasTarget, readSource, readTarget,
      isSource, isTarget, isParsed.properties]
  refine TopologicalGraph.foldlM_addEdge adds graph ?_
  intro edge member
  obtain ⟨index, inList, isEdge⟩ := List.getElem_of_mem member
  have isParsed :=
    parsed.get (i := index) (by rw [parsed.length_eq]; exact inList) inList
  rw [List.get_eq_getElem, List.get_eq_getElem, isEdge] at isParsed
  obtain ⟨_, _, -, -, isSource⟩ := isParsed.source
  obtain ⟨_, _, -, -, isTarget⟩ := isParsed.target
  exact ⟨bounded _ _ isSource, bounded _ _ isTarget⟩

end Loading

section Reloaded

variable {K : Type} [Field K] [DecidableEq K] [IntegerPart K]

theorem loadFromJson_toJson
    (graph : TopologicalGraph K)
    (distinct : (graph.vertices.map NodeProperties.id).Nodup) :
    ∃ reloaded,
      loadFromJson (toJson graph) = some reloaded ∧
        reloaded.vertices = graph.vertices.map reloadedNode ∧
        reloaded.edges =
          graph.edges.map (StoredEdge.mapProperties reloadedEdge) := by
  have sameIds :
      (graph.vertices.map reloadedNode).map NodeProperties.id =
        graph.vertices.map NodeProperties.id := by
    rw [List.map_map]
    rfl
  have nodesParsed :
      List.Forall₂ (fun json props =>
        parseNodeProperties json = some props)
        (graph.vertices.map nodeJson)
        (graph.vertices.map reloadedNode) := by
    rw [List.forall₂_map_left_iff, List.forall₂_map_right_iff,
      List.forall₂_same]
    intro props _
    exact parseNodeProperties_nodeJson props
  obtain ⟨loaded, isLoaded, known⟩ :=
    foldlM_loadNode_spec nodesParsed (by rw [sameIds]; exact distinct)
  have idKnown
      {vertex : Nat}
      (inGraph : vertex < graph.vertices.length) :
      loaded.idToVertex (graph.node vertex).id = some vertex := by
    rw [known.idToVertex_iff]
    refine ⟨by simpa using inGraph, ?_⟩
    simp [reloadedNode, TopologicalGraph.node, inGraph]
  have linksParsed :
      List.Forall₂ (LinkParses loaded.idToVertex)
        (graph.edges.map (linkJson graph))
        (graph.edges.map (StoredEdge.mapProperties reloadedEdge)) := by
    rw [List.forall₂_map_left_iff, List.forall₂_map_right_iff,
      List.forall₂_same]
    intro edge member
    have valid := graph.endsValid edge member
    have ends := linkJson_ends graph edge
    exact ⟨⟨_, _, ends.1, getInt_int _, idKnown valid.1⟩,
      ⟨_, _, ends.2, getInt_int _, idKnown valid.2⟩,
      parseEdgeProperties_linkJson graph edge⟩
  obtain ⟨reloaded, isReloaded, vertices, edges⟩ :=
    foldlM_loadLink linksParsed loaded.graph known.idToVertex_lt
  refine ⟨reloaded, ?_, vertices.trans known.vertices, ?_⟩
  · simp [loadFromJson, toJson, List.lookup_cons, items?, isLoaded,
      isReloaded]
  · rw [edges, known.edges, List.nil_append]

end Reloaded

end NavBim
