import NavBim.TopologicalMapLoader

namespace NavBim

/-!
# Documents of the map generator

The generator writes a node-link document with integer ids, GeoJSON polygons
with any number of rings, several polygons for the area of a floor with separate
slabs, and costs and paths on transition links only.  The module describes such documents by their content and compares a document with
what the server writes after loading it.
-/

open Json

/-- The field `floor`: one name or several. -/
inductive DocumentFloor where
  | name (text : String)
  | names (texts : List String)
  deriving DecidableEq

namespace DocumentFloor

/-- The names, however they are written. -/
def toList : DocumentFloor → List String
  | .name text => [text]
  | .names texts => texts

/-- The value of the field. -/
def json {K : Type} : DocumentFloor → Json K
  | .name text => .str text
  | .names texts => .arr (texts.map .str)

end DocumentFloor

/-- The area of a node; the slabs of a floor need not touch each other. -/
inductive DocumentArea (K : Type) where
  | polygon (area : Polygon K)
  | multiPolygon
      (parts : List (Polygon K))
      (outlines : ∀ part ∈ parts, 2 ≤ part.outer.length)

/-- The keys of a node that the reader looks at. -/
def nodeKeys : List String :=
  ["id", "type", "name", "subtype", "ifc_guid", "position", "min_z",
    "max_z", "bbox", "polygon", "floor"]

/-- The keys of a link that the reader looks at. -/
def linkKeys : List String :=
  ["id", "source", "target", "type", "subtype", "room_id",
    "estimated_distance", "planned_distance", "estimated_cost",
    "planned_cost", "path"]

/-- A node of a generated document; `others` are attributes nobody reads. -/
structure DocumentNode (K : Type) where
  id : Int32
  type : String
  name : Option String
  subtype : Option String
  ifcGuid : Option String
  position : Position K
  minZ : Option K
  maxZ : Option K
  bbox : Option (BoundingBox K)
  polygon : Option (DocumentArea K)
  floor : Option DocumentFloor
  others : List (String × Json K)
  othersFree : ∀ key ∈ nodeKeys, others.lookup key = none

/-- A link of a generated document. -/
structure DocumentLink (K : Type) where
  id : Int32
  source : Int32
  target : Int32
  type : String
  subtype : Option String
  roomId : Option Int32
  estimatedDistance : Option K
  plannedDistance : Option K
  estimatedCost : Option K
  plannedCost : Option K
  path : Option (List (Coords K))
  others : List (String × Json K)
  othersFree : ∀ key ∈ linkKeys, others.lookup key = none
  /-- Only transition links have costs and waypoints. -/
  costFree :
    type ≠ "transition" →
      estimatedDistance = none ∧ plannedDistance = none ∧
        estimatedCost = none ∧ plannedCost = none ∧ path.getD [] = []

/-- A generated document: distinct ids, and links between its nodes. -/
structure MapDocument (K : Type) where
  nodes : List (DocumentNode K)
  links : List (DocumentLink K)
  distinctIds : (nodes.map DocumentNode.id).Nodup
  knownEnds :
    ∀ link ∈ links,
      link.source ∈ nodes.map DocumentNode.id ∧
        link.target ∈ nodes.map DocumentNode.id

section Writing

variable {K : Type}

/-- All rings of a polygon, the outer ring first. -/
def ringsJson
    (polygon : Polygon K) : Json K :=
  .arr (ringJson polygon.outer :: polygon.inners.map ringJson)

/-- The area in the form of GeoJSON. -/
def geoJson : DocumentArea K → Json K
  | .polygon area =>
      .obj [("type", .str "Polygon"), ("coordinates", ringsJson area)]
  | .multiPolygon parts _ =>
      .obj
        [("type", .str "MultiPolygon"),
          ("coordinates", .arr (parts.map ringsJson))]

/-- What the reader keeps: the outer ring of a polygon, nothing of several. -/
def DocumentArea.loaded : DocumentArea K → Option (Polygon K)
  | .polygon area => some ⟨area.outer, []⟩
  | .multiPolygon _ _ => none

/-- The waypoints of a path. -/
def waypointsJson
    (path : List (Coords K)) : Json K :=
  .arr (path.map fun waypoint =>
    .arr [number waypoint.1, number waypoint.2.1, number waypoint.2.2])

/-- The fields of a node that the reader looks at. -/
def DocumentNode.fields
    (node : DocumentNode K) : List (String × Json K) :=
  optionalField "id" (some (.int node.id.toInt)) ++
    optionalField "type" (some (.str node.type)) ++
    optionalField "name" (node.name.map .str) ++
    optionalField "subtype" (node.subtype.map .str) ++
    optionalField "ifc_guid" (node.ifcGuid.map .str) ++
    optionalField "position" (some (positionJson node.position)) ++
    optionalField "min_z" (node.minZ.map number) ++
    optionalField "max_z" (node.maxZ.map number) ++
    optionalField "bbox" (node.bbox.map boundingBoxJson) ++
    optionalField "polygon" (node.polygon.map geoJson) ++
    optionalField "floor" (node.floor.map DocumentFloor.json)

/-- The node as it stands in the document. -/
def DocumentNode.json
    (node : DocumentNode K) : Json K :=
  .obj (node.fields ++ node.others)

/-- The fields of a link that the reader looks at. -/
def DocumentLink.fields
    (link : DocumentLink K) : List (String × Json K) :=
  optionalField "id" (some (.int link.id.toInt)) ++
    optionalField "source" (some (.int link.source.toInt)) ++
    optionalField "target" (some (.int link.target.toInt)) ++
    optionalField "type" (some (.str link.type)) ++
    optionalField "subtype" (link.subtype.map .str) ++
    optionalField "room_id"
      (link.roomId.map fun roomId => .int roomId.toInt) ++
    optionalField "estimated_distance"
      (link.estimatedDistance.map number) ++
    optionalField "planned_distance" (link.plannedDistance.map number) ++
    optionalField "estimated_cost" (link.estimatedCost.map number) ++
    optionalField "planned_cost" (link.plannedCost.map number) ++
    optionalField "path" (link.path.map waypointsJson)

/-- The link as it stands in the document. -/
def DocumentLink.json
    (link : DocumentLink K) : Json K :=
  .obj (link.fields ++ link.others)

/-- Other attributes hide nothing that the reader looks at. -/
theorem DocumentNode.field?_json
    (node : DocumentNode K)
    {key : String}
    (isRead : key ∈ nodeKeys) :
    node.json.field? key = node.fields.lookup key := by
  simp [DocumentNode.json, List.lookup_append, node.othersFree key isRead]

theorem DocumentLink.field?_json
    (link : DocumentLink K)
    {key : String}
    (isRead : key ∈ linkKeys) :
    link.json.field? key = link.fields.lookup key := by
  simp [DocumentLink.json, List.lookup_append, link.othersFree key isRead]

/-- The document in node-link form. -/
def MapDocument.json
    (document : MapDocument K) : Json K :=
  .obj
    [("directed", .bool false),
      ("multigraph", .bool false),
      ("graph", .obj []),
      ("nodes", .arr (document.nodes.map DocumentNode.json)),
      ("links", .arr (document.links.map DocumentLink.json))]

end Writing

section Content

variable {K : Type} [Field K]

/-- The value of a field, or the default that its absence stands for. -/
def fieldOr
    (json : Json K)
    (key : String)
    (default : Json K) : Json K :=
  (json.field? key).getD default

/-- Keys of a node with the values that their absence stands for. -/
def nodeDefaults : List (String × Json K) :=
  [("id", .null), ("type", .null), ("name", .str ""),
    ("subtype", .str ""), ("position", .null), ("min_z", .null),
    ("max_z", .null), ("bbox", .null), ("polygon", .null)]

/-- Keys of a link with the values that their absence stands for. -/
def linkDefaults : List (String × Json K) :=
  [("id", .null), ("source", .null), ("target", .null), ("type", .null),
    ("subtype", .str ""), ("room_id", .null),
    ("estimated_distance", .float 0), ("planned_distance", .float unplanned),
    ("estimated_cost", .float 0), ("planned_cost", .float unplanned),
    ("path", .arr [])]

/-- A single floor name is a list of one name. -/
def floorValue : Json K → Json K
  | .str name => .arr [.str name]
  | json => json

/-- Two nodes of documents have the same values. -/
def SameNode
    (first second : Json K) : Prop :=
  (∀ entry ∈ (nodeDefaults : List (String × Json K)),
    fieldOr first entry.1 entry.2 = fieldOr second entry.1 entry.2) ∧
    floorValue (fieldOr first "floor" (.arr [])) =
      floorValue (fieldOr second "floor" (.arr []))

/-- Two links of documents have the same values. -/
def SameLink
    (first second : Json K) : Prop :=
  ∀ entry ∈ (linkDefaults : List (String × Json K)),
    fieldOr first entry.1 entry.2 = fieldOr second entry.1 entry.2

/-- The elements of an array field of a document. -/
def listField
    (json : Json K)
    (key : String) : List (Json K) :=
  ((json.field? key).bind items?).getD []

/-- Two documents have the same nodes and links with the same values. -/
def SameDocument
    (first second : Json K) : Prop :=
  List.Forall₂ SameNode (listField first "nodes")
      (listField second "nodes") ∧
    List.Forall₂ SameLink (listField first "links")
      (listField second "links")

variable [DecidableEq K] [IntegerPart K]

/-- The document can be loaded, and saving the map writes its content. -/
def PreservesContent
    (document : MapDocument K) : Prop :=
  ∃ graph,
    loadFromJson document.json = some graph ∧
      SameDocument (toJson graph) document.json

end Content

section Loaded

variable {K : Type}

theorem read_floor
    (floor : Option DocumentFloor) :
    ((floor.map (DocumentFloor.json : DocumentFloor → Json K)).map
        parseFloorList).getD (some none) =
      some (nonemptyList (floor.map DocumentFloor.toList)) := by
  match floor with
  | none => rfl
  | some (.name text) => rfl
  | some (.names []) => rfl
  | some (.names (text :: texts)) =>
      simp only [Option.map_some, DocumentFloor.json, parseFloorList,
        mapM_getString, DocumentFloor.toList, nonemptyList]
      rfl

variable [Field K]

/-- The properties that the reader gives to a node of a document. -/
def DocumentNode.properties
    (node : DocumentNode K) : NodeProperties K where
  id := node.id
  name := node.name.getD ""
  type := node.type
  subtype := node.subtype
  position := node.position
  ifcGuid := node.ifcGuid
  minZ := node.minZ
  maxZ := node.maxZ
  bbox := node.bbox
  polygon := node.polygon.bind DocumentArea.loaded
  floor := nonemptyList (node.floor.map DocumentFloor.toList)

/-- The properties that the reader gives to a link of a document. -/
def DocumentLink.properties
    (link : DocumentLink K) : EdgeProperties K where
  id := link.id
  type := link.type
  subtype := link.subtype
  estimatedDistance := ((link.estimatedDistance.getD 0 : K) : WithTop K)
  plannedDistance := ((link.plannedDistance.getD (-1) : K) : WithTop K)
  estimatedCost := ((link.estimatedCost.getD 0 : K) : WithTop K)
  plannedCost := ((link.plannedCost.getD (-1) : K) : WithTop K)
  path := link.path
  pathFrameId := "ifc"
  roomId := link.roomId

theorem parsePolygon_geoJson
    (area : DocumentArea K) :
    parsePolygon (geoJson area) = area.loaded := by
  cases area with
  | polygon area =>
      simp [parsePolygon, geoJson, ringsJson, ringJson, List.lookup_cons,
        parsePoints_ring, DocumentArea.loaded]
  | multiPolygon parts outlines =>
      cases parts with
      | nil =>
          simp [parsePolygon, geoJson, List.lookup_cons,
            DocumentArea.loaded]
      | cons part rest =>
          have outline := outlines part List.mem_cons_self
          obtain ⟨outer, inners⟩ := part
          -- the rings of the first part are no points
          rcases outer with _ | ⟨first, _ | ⟨second, points⟩⟩
          · simp at outline
          · simp at outline
          · simp [parsePolygon, geoJson, ringsJson, ringJson, List.lookup_cons,
              parsePoints, getFinite, getDouble, DocumentArea.loaded]

theorem read_geoJson
    (area : Option (DocumentArea K)) :
    ((area.map geoJson).map fun value =>
        some (parsePolygon value)).getD (some none) =
      some (area.bind DocumentArea.loaded) := by
  cases area <;> simp [parsePolygon_geoJson]

theorem read_waypoints
    (path : Option (List (Coords K))) :
    ((path.map waypointsJson).map parsePath).getD (some none) =
      some path := by
  cases path <;> simp [waypointsJson, parsePath, parseWaypoints_path]

variable [IntegerPart K]

/-- The reader of nodes looks at the listed keys only. -/
theorem parseNodeProperties_congr
    {first second : Json K}
    (same : ∀ key ∈ nodeKeys, first.field? key = second.field? key) :
    parseNodeProperties first = parseNodeProperties second := by
  simp only [parseNodeProperties, readField, same "id" (by decide),
    same "type" (by decide), same "name" (by decide),
    same "subtype" (by decide), same "ifc_guid" (by decide),
    same "position" (by decide), same "min_z" (by decide),
    same "max_z" (by decide), same "bbox" (by decide),
    same "polygon" (by decide), same "floor" (by decide)]

theorem parseEdgeProperties_congr
    {first second : Json K}
    (same : ∀ key ∈ linkKeys, first.field? key = second.field? key) :
    parseEdgeProperties first = parseEdgeProperties second := by
  simp only [parseEdgeProperties, readField, same "id" (by decide),
    same "type" (by decide), same "subtype" (by decide),
    same "room_id" (by decide), same "estimated_distance" (by decide),
    same "planned_distance" (by decide),
    same "estimated_cost" (by decide), same "planned_cost" (by decide),
    same "path" (by decide)]

theorem DocumentNode.parseNodeProperties_json
    (node : DocumentNode K) :
    parseNodeProperties node.json = some node.properties := by
  have onlyFields :
      parseNodeProperties node.json =
        parseNodeProperties (.obj node.fields) :=
    parseNodeProperties_congr fun _ isRead => node.field?_json isRead
  have readName :
      ((node.name.map .str : Option (Json K)).map getString).getD
          (some "") = some (node.name.getD "") := by
    cases node.name <;> rfl
  rw [onlyFields]
  simp [parseNodeProperties, DocumentNode.fields, List.lookup_append,
    DocumentNode.properties, -Option.map_map, readName,
    read_present getString_str, read_present getFinite_number,
    read_present parseBoundingBox_boundingBoxJson, read_floor,
    read_geoJson]

theorem DocumentLink.parseEdgeProperties_json
    (link : DocumentLink K) :
    parseEdgeProperties link.json = some link.properties := by
  have onlyFields :
      parseEdgeProperties link.json =
        parseEdgeProperties (.obj link.fields) :=
    parseEdgeProperties_congr fun _ isRead => link.field?_json isRead
  have readEstimate
      (value : Option K) :
      ((value.map number).map getDouble).getD (some 0) =
        some ((value.getD 0 : K) : WithTop K) := by
    cases value <;> rfl
  have readPlan
      (value : Option K) :
      ((value.map number).map getDouble).getD (some unplanned) =
        some ((value.getD (-1) : K) : WithTop K) := by
    cases value <;> rfl
  rw [onlyFields]
  simp [parseEdgeProperties, DocumentLink.fields, List.lookup_append,
    DocumentLink.properties, -Option.map_map, readEstimate, readPlan,
    read_present getString_str, read_present getInt_int, read_waypoints]

/-- An edge of the loaded graph is a link of the document. -/
structure IsLoadedLink
    (graph : TopologicalGraph K)
    (link : DocumentLink K)
    (edge : StoredEdge K) : Prop where
  properties : edge.properties = link.properties
  source : (graph.node edge.source).id = link.source
  target : (graph.node edge.target).id = link.target

theorem MapDocument.loadFromJson_json
    (document : MapDocument K) :
    ∃ graph,
      loadFromJson document.json = some graph ∧
        graph.vertices = document.nodes.map DocumentNode.properties ∧
        List.Forall₂ (IsLoadedLink graph) document.links graph.edges := by
  have nodesParsed :
      List.Forall₂ (fun json props =>
        parseNodeProperties json = some props)
        (document.nodes.map DocumentNode.json)
        (document.nodes.map DocumentNode.properties) := by
    rw [List.forall₂_map_left_iff, List.forall₂_map_right_iff,
      List.forall₂_same]
    intro node _
    exact node.parseNodeProperties_json
  have sameIds :
      (document.nodes.map DocumentNode.properties).map NodeProperties.id =
        document.nodes.map DocumentNode.id := by
    rw [List.map_map]
    rfl
  obtain ⟨loaded, isLoaded, known⟩ :=
    foldlM_loadNode_spec nodesParsed
      (by rw [sameIds]; exact document.distinctIds)
  -- Every id of a node is found, at a vertex with that id.
  have found
      {id : Int32}
      (isId : id ∈ document.nodes.map DocumentNode.id) :
      ∃ vertex, loaded.idToVertex id = some vertex := by
    rw [← sameIds] at isId
    obtain ⟨vertex, inList, atVertex⟩ := List.getElem_of_mem isId
    rw [List.length_map] at inList
    exact ⟨vertex, known.idToVertex_iff.mpr
      ⟨inList, by simpa using atVertex⟩⟩
  let vertexOf (id : Int32) : Nat := (loaded.idToVertex id).getD 0
  have isVertexOf
      {id : Int32}
      (isId : id ∈ document.nodes.map DocumentNode.id) :
      loaded.idToVertex id = some (vertexOf id) := by
    obtain ⟨vertex, isVertex⟩ := found isId
    simp only [vertexOf, isVertex, Option.getD_some]
  let edgeOf (link : DocumentLink K) : StoredEdge K :=
    ⟨vertexOf link.source, vertexOf link.target, link.properties⟩
  have linksParsed :
      List.Forall₂ (LinkParses loaded.idToVertex)
        (document.links.map DocumentLink.json)
        (document.links.map edgeOf) := by
    rw [List.forall₂_map_left_iff, List.forall₂_map_right_iff,
      List.forall₂_same]
    intro link member
    have ends := document.knownEnds link member
    refine ⟨⟨_, _, ?_, getInt_int link.source, isVertexOf ends.1⟩,
      ⟨_, _, ?_, getInt_int link.target, isVertexOf ends.2⟩,
      link.parseEdgeProperties_json⟩
    · rw [link.field?_json (by decide)]
      simp [DocumentLink.fields, List.lookup_append]
    · rw [link.field?_json (by decide)]
      simp [DocumentLink.fields, List.lookup_append]
  obtain ⟨graph, isGraph, vertices, edges⟩ :=
    foldlM_loadLink linksParsed loaded.graph known.idToVertex_lt
  rw [known.vertices] at vertices
  rw [known.edges, List.nil_append] at edges
  refine ⟨graph, ?_, vertices, ?_⟩
  · simp [loadFromJson, MapDocument.json, List.lookup_cons, items?,
      isLoaded, isGraph]
  · have idAt
        {id : Int32}
        (isId : id ∈ document.nodes.map DocumentNode.id) :
        (graph.node (vertexOf id)).id = id := by
      obtain ⟨inList, isAt⟩ :=
        known.idToVertex_iff.mp (isVertexOf isId)
      have inNodes : vertexOf id < document.nodes.length := by
        simpa using inList
      simpa [TopologicalGraph.node, vertices, inNodes] using isAt
    rw [edges, List.forall₂_map_right_iff, List.forall₂_same]
    intro link member
    have ends := document.knownEnds link member
    exact ⟨rfl, idAt ends.1, idAt ends.2⟩

end Loaded

section Preserved

variable {K : Type}

/-- Leaving out the empty text writes the same text, up to the default. -/
theorem textJson_getD
    (text : Option String) :
    (textJson text : Option (Json K)).getD (.str "") =
      (text.map .str).getD (.str "") := by
  cases text with
  | none =>
      rfl
  | some text =>
      simp only [textJson]
      split
      · rename_i isEmpty
        simp [String.isEmpty_iff.mp isEmpty]
      · rfl

theorem floorValue_floorJson
    (floor : Option DocumentFloor) :
    floorValue
        ((floorJson (nonemptyList (floor.map DocumentFloor.toList)) :
          Option (Json K)).getD (.arr [])) =
      floorValue ((floor.map DocumentFloor.json).getD (.arr [])) := by
  match floor with
  | none => rfl
  | some (.name text) => rfl
  | some (.names []) => rfl
  | some (.names (text :: texts)) => rfl

/-- The area is a single polygon without holes. -/
def DocumentArea.IsOutline
    (area : DocumentArea K) : Prop :=
  ∃ outer, area = .polygon ⟨outer, []⟩

/-- An area is written as it was exactly when it is an outline. -/
theorem polygonToGeoJson_eq_iff
    (area : Option (DocumentArea K)) :
    ((area.bind DocumentArea.loaded).map polygonToGeoJson).getD .null =
        (area.map geoJson).getD .null ↔
      ∀ inside ∈ area, inside.IsOutline := by
  match area with
  | none => simp
  | some (.polygon ⟨outer, []⟩) =>
      simp [polygonToGeoJson, geoJson, ringsJson, DocumentArea.loaded,
        DocumentArea.IsOutline]
  | some (.polygon ⟨outer, hole :: rest⟩) =>
      simp [polygonToGeoJson, geoJson, ringsJson, DocumentArea.loaded,
        DocumentArea.IsOutline]
  | some (.multiPolygon parts outlines) =>
      simp [geoJson, DocumentArea.loaded, DocumentArea.IsOutline]

theorem DocumentNode.sameNode_iff
    (node : DocumentNode K) :
    SameNode (nodeJson node.properties) node.json ↔
      ∀ area ∈ node.polygon, area.IsOutline := by
  have field
      (key : String)
      (isRead : key ∈ nodeKeys)
      (default : Json K) :
      fieldOr node.json key default =
        (node.fields.lookup key).getD default := by
    rw [fieldOr, node.field?_json isRead]
  simp only [SameNode, nodeDefaults, List.forall_mem_cons,
    List.not_mem_nil, false_implies, implies_true, and_true,
    field "id" (by decide), field "type" (by decide),
    field "name" (by decide), field "subtype" (by decide),
    field "position" (by decide), field "min_z" (by decide),
    field "max_z" (by decide), field "bbox" (by decide),
    field "polygon" (by decide), field "floor" (by decide)]
  simp [fieldOr, nodeJson, DocumentNode.fields, List.lookup_append,
    DocumentNode.properties, -Option.map_map, -Option.map_bind,
    textJson_getD, floorValue_floorJson, polygonToGeoJson_eq_iff]

/-- The nodes are written as they were exactly when each area is an outline. -/
theorem forall₂_sameNode_iff
    (nodes : List (DocumentNode K)) :
    List.Forall₂ SameNode
        ((nodes.map DocumentNode.properties).map nodeJson)
        (nodes.map DocumentNode.json) ↔
      ∀ node ∈ nodes, ∀ area ∈ node.polygon, area.IsOutline := by
  rw [List.map_map, List.forall₂_map_left_iff,
    List.forall₂_map_right_iff, List.forall₂_same]
  exact forall₂_congr fun node _ => node.sameNode_iff

/-- The waypoints are written as they were, up to the default. -/
theorem pathJson_getD
    (path : Option (List (Coords K))) :
    (pathJson path).getD (.arr []) =
      (path.map waypointsJson).getD (.arr []) := by
  match path with
  | none => rfl
  | some [] => rfl
  | some (waypoint :: rest) => rfl

variable [Field K] [DecidableEq K]

/-- An estimated value is written as it was, up to the default. -/
theorem nonzeroJson_estimate
    (value : Option K) :
    (nonzeroJson ((value.getD 0 : K) : WithTop K)).getD (.float 0) =
      (value.map number).getD (.float 0) := by
  simp only [nonzeroJson]
  split
  · cases value with
    | none => rfl
    | some value => rfl
  · rename_i isZero
    cases value with
    | none => rfl
    | some value =>
        rw [not_not, Option.getD_some] at isZero
        simp [number, isZero]

/-- A planned value is written as it was exactly when it is not zero. -/
theorem nonzeroJson_plan_iff
    (value : Option K) :
    (nonzeroJson ((value.getD (-1) : K) : WithTop K)).getD
          (.float unplanned) =
        (value.map number).getD (.float unplanned) ↔
      value ≠ some 0 := by
  have apart : (unplanned : WithTop K) ≠ 0 := by
    intro isZero
    exact neg_ne_zero.mpr one_ne_zero (WithTop.coe_eq_zero.mp isZero)
  cases value with
  | none =>
      have written :
          nonzeroJson (unplanned : WithTop K) =
            some (.float unplanned) := by
        simp [nonzeroJson, apart]
      rw [Option.getD_none, ← unplanned, written]
      simp
  | some value =>
      by_cases isZero : value = 0
      · subst isZero
        simpa [nonzeroJson, number] using apart
      · simp [nonzeroJson, number, isZero, ← WithTop.coe_zero]

/--
A link is written as it was exactly when it was not planned with distance or
cost zero.
-/
theorem DocumentLink.sameLink_iff
    (link : DocumentLink K)
    {graph : TopologicalGraph K}
    {edge : StoredEdge K}
    (properties : edge.properties = link.properties)
    (source : (graph.node edge.source).id = link.source)
    (target : (graph.node edge.target).id = link.target) :
    SameLink (linkJson graph edge) link.json ↔
      link.plannedDistance ≠ some 0 ∧ link.plannedCost ≠ some 0 := by
  have field
      (key : String)
      (isRead : key ∈ linkKeys)
      (default : Json K) :
      fieldOr link.json key default =
        (link.fields.lookup key).getD default := by
    rw [fieldOr, link.field?_json isRead]
  simp only [SameLink, linkDefaults, List.forall_mem_cons,
    List.not_mem_nil, false_implies, implies_true, and_true,
    field "id" (by decide), field "source" (by decide),
    field "target" (by decide), field "type" (by decide),
    field "subtype" (by decide), field "room_id" (by decide),
    field "estimated_distance" (by decide),
    field "planned_distance" (by decide),
    field "estimated_cost" (by decide), field "planned_cost" (by decide),
    field "path" (by decide)]
  by_cases transition : link.type = "transition"
  · simp [fieldOr, linkJson, DocumentLink.fields, List.lookup_append,
      properties, source, target, DocumentLink.properties, transition,
      -Option.map_map, -Option.getD_map, textJson_getD, pathJson_getD,
      nonzeroJson_estimate, nonzeroJson_plan_iff]
  · obtain ⟨noDistance, noPlannedDistance, noCost, noPlannedCost, noPath⟩ :=
      link.costFree transition
    have noWaypoints :
        (link.path.map waypointsJson).getD (.arr []) = .arr [] := by
      cases path : link.path with
      | none => rfl
      | some waypoints =>
          rw [path, Option.getD_some] at noPath
          simp [noPath, waypointsJson]
    simp [fieldOr, linkJson, DocumentLink.fields, List.lookup_append,
      properties, source, target, DocumentLink.properties, transition,
      -Option.map_map, -Option.getD_map, textJson_getD, noWaypoints,
      noDistance, noPlannedDistance, noCost, noPlannedCost]

/-- The links are written as they were exactly when none is planned zero. -/
theorem forall₂_sameLink_iff
    {graph : TopologicalGraph K}
    {links : List (DocumentLink K)}
    {edges : List (StoredEdge K)}
    (loaded : List.Forall₂ (IsLoadedLink graph) links edges) :
    List.Forall₂ SameLink (edges.map (linkJson graph))
        (links.map DocumentLink.json) ↔
      ∀ link ∈ links,
        link.plannedDistance ≠ some 0 ∧ link.plannedCost ≠ some 0 := by
  induction loaded with
  | nil =>
      simp
  | @cons link edge links edges isLoaded _ inductionHypothesis =>
      rw [List.map_cons, List.map_cons, List.forall₂_cons,
        List.forall_mem_cons, inductionHypothesis,
        link.sameLink_iff isLoaded.properties isLoaded.source
          isLoaded.target]

variable [IntegerPart K]

theorem MapDocument.preserves_iff
    {document : MapDocument K}
    {graph : TopologicalGraph K}
    (isLoaded : loadFromJson document.json = some graph) :
    PreservesContent document ↔
      List.Forall₂ SameNode (graph.vertices.map nodeJson)
          (document.nodes.map DocumentNode.json) ∧
        List.Forall₂ SameLink (graph.edges.map (linkJson graph))
          (document.links.map DocumentLink.json) := by
  have onlyGraph :
      PreservesContent document ↔
        SameDocument (toJson graph) document.json := by
    simp [PreservesContent, isLoaded]
  rw [onlyGraph]
  simp [SameDocument, listField, toJson, MapDocument.json,
    List.lookup_cons, items?]

/--
Loading a generated document and saving it again preserves its content exactly
when each area is a single polygon without holes and no link is planned with
distance or cost zero.
-/
theorem preservesContent_iff
    (document : MapDocument K) :
    PreservesContent document ↔
      (∀ node ∈ document.nodes,
        ∀ area ∈ node.polygon, area.IsOutline) ∧
        ∀ link ∈ document.links,
          link.plannedDistance ≠ some 0 ∧ link.plannedCost ≠ some 0 := by
  obtain ⟨graph, isLoaded, vertices, edges⟩ := document.loadFromJson_json
  rw [MapDocument.preserves_iff isLoaded, vertices, forall₂_sameNode_iff,
    forall₂_sameLink_iff edges]

end Preserved

section Courtyard

/-- A square ring. -/
def squareRing
    (low high : ℚ) : Ring ℚ :=
  [(low, low), (high, low), (high, high), (low, high), (low, low)]

/-- A document with one room around a courtyard. -/
def courtyardDocument : MapDocument ℚ where
  nodes :=
    [{ id := 1
       type := "room"
       name := some "Gallery"
       subtype := none
       ifcGuid := none
       position := ⟨1, 1, 0⟩
       minZ := none
       maxZ := none
       bbox := some ⟨0, 6, 0, 6, 0, 3⟩
       polygon := some (.polygon ⟨squareRing 0 6, [squareRing 2 4]⟩)
       floor := some (.name "Ground")
       others := []
       othersFree := by simp }]
  links := []
  distinctIds := by simp
  knownEnds := by simp

/-- The courtyard is lost when the map is loaded and saved. -/
theorem courtyard_lost :
    ¬ PreservesContent courtyardDocument := by
  obtain ⟨graph, isLoaded, vertices, -⟩ :=
    courtyardDocument.loadFromJson_json
  rw [MapDocument.preserves_iff isLoaded, vertices, forall₂_sameNode_iff]
  simp [courtyardDocument, DocumentArea.IsOutline]

end Courtyard

end NavBim
