import NavBim.RouteGraphFile

namespace NavBim

/-!
# Saving and reloading a route graph

A loaded graph comes back from its file when the file can say everything about
it.  Empty metadata inside of metadata become `null`, integers come back
without their sign's type, operations become an object with their types as
keys, numbers that are not finite are lost, and one id stands for a deleted
node.
-/

open SortedEntries

section Parsing

variable {D : Type}

namespace Json

theorem itemsAsParsed_eq
    (items : List (Json D)) :
    itemsAsParsed items = items.map asParsed := by
  induction items with
  | nil =>
      rfl
  | cons item rest inductionHypothesis =>
      rw [itemsAsParsed, inductionHypothesis, List.map_cons]

theorem fieldsAsParsed_eq
    (fields : List (String × Json D)) :
    fieldsAsParsed fields =
      fields.map fun field => (field.1, field.2.asParsed) := by
  induction fields with
  | nil =>
      rfl
  | cons field rest inductionHypothesis =>
      rw [fieldsAsParsed, inductionHypothesis, List.map_cons]

theorem lookup_fieldsAsParsed
    (fields : List (String × Json D))
    (key : String) :
    (fieldsAsParsed fields).lookup key =
      (fields.lookup key).map asParsed := by
  induction fields with
  | nil =>
      rfl
  | cons field rest inductionHypothesis =>
      rw [fieldsAsParsed, List.lookup_cons, List.lookup_cons]
      split
      · rfl
      · exact inductionHypothesis

theorem field?_asParsed
    (json : Json D)
    (key : String) :
    json.asParsed.field? key = (json.field? key).map asParsed := by
  cases json with
  | obj fields =>
      rw [asParsed, field?_obj, field?_obj, lookup_fieldsAsParsed]
  | float value =>
      cases value with
      | top =>
          rfl
      | coe value =>
          rfl
  | null =>
      rfl
  | bool value =>
      rfl
  | int value =>
      rfl
  | str text =>
      rfl
  | arr items =>
      rfl

theorem elements_asParsed_arr
    (items : List (Json D)) :
    (Json.arr items).asParsed.elements = items.map asParsed := by
  rw [asParsed, elements, itemsAsParsed_eq]

theorem elements_asParsed_obj
    (fields : List (String × Json D)) :
    (Json.obj fields).asParsed.elements =
      fields.map fun field => field.2.asParsed := by
  rw [asParsed, elements, fieldsAsParsed_eq, List.map_map]
  rfl

end Json

end Parsing

section Kept

variable {D F : Type} (numbers : FileNumbers D F)

def IsFinite
    (value : F) : Prop :=
  numbers.toDouble value ≠ ⊤

/-- Only negative integers are read as signed ones. -/
def PrimitiveKept : MetadataPrimitive F → Prop
  | .int value => value.toInt < 0
  | .float value => IsFinite numbers value
  | _ => True

mutual

/-- There are no empty metadata inside of metadata. -/
def ValueKept : MetadataValue F → Prop
  | .primitive value => PrimitiveKept numbers value
  | .array values => ∀ value ∈ values, PrimitiveKept numbers value
  | .metadata entries => entries ≠ [] ∧ EntriesKept entries

def EntriesKept : List (String × MetadataValue F) → Prop
  | [] => True
  | (_, value) :: rest => ValueKept value ∧ EntriesKept rest

end

def MetadataKept
    (metadata : Metadata F) : Prop :=
  EntriesKept numbers metadata.data

/-- Operations are in the order of their types, without a type twice. -/
def OperationsKept
    (operations : List (Operation F)) : Prop :=
  (operations.Pairwise fun first second => first.type < second.type) ∧
    ∀ operation ∈ operations, MetadataKept numbers operation.metadata

structure NodeKept
    (node : RouteNode F) : Prop where
  x : IsFinite numbers node.coords.x
  y : IsFinite numbers node.coords.y
  metadata : MetadataKept numbers node.metadata
  operations : OperationsKept numbers node.operations

structure EdgeKept
    (edge : DirectionalEdge F) : Prop where
  cost : IsFinite numbers edge.edgeCost.cost
  metadata : MetadataKept numbers edge.metadata
  operations : OperationsKept numbers edge.operations

/-- A file says everything about the graph. -/
structure GraphKept
    (graph : RouteGraph F) : Prop where
  notDeleted :
    ∀ node ∈ graph.nodes,
      node.nodeid ≠ GeoJsonGraphFileSaver.deletedId
  nodes : ∀ node ∈ graph.nodes, NodeKept numbers node
  edges :
    ∀ node ∈ graph.nodes, ∀ edge ∈ node.neighbors, EdgeKept numbers edge

mutual

/-- Metadata are kept with increasing keys. -/
def ValueOrdered : MetadataValue F → Prop
  | .metadata entries => Increasing entries ∧ EntriesOrdered entries
  | _ => True

def EntriesOrdered : List (String × MetadataValue F) → Prop
  | [] => True
  | (_, value) :: rest => ValueOrdered value ∧ EntriesOrdered rest

end

def MetadataOrdered
    (metadata : Metadata F) : Prop :=
  Increasing metadata.data ∧ EntriesOrdered metadata.data

end Kept

section Metadata

open GeoJsonGraphFileSaver GeoJsonGraphFileLoader

variable {D F : Type} {numbers : FileNumbers D F}

theorem ofInt_toNat
    (value : UInt32) :
    UInt32.ofInt value.toNat = value := by
  have small : ((value.toNat : Int) % 2 ^ 32).toNat = value.toNat := by
    have bound := value.toNat_lt
    omega
  rw [UInt32.ofInt, small, UInt32.ofNat_toNat]

theorem getFloat_asParsed_iff
    (value : F) :
    (Json.float (numbers.toDouble value)).asParsed.getFloat numbers =
        some value ↔
      IsFinite numbers value := by
  rw [IsFinite]
  cases isDouble : numbers.toDouble value with
  | top =>
      exact iff_of_false (by simp [Json.asParsed, Json.getFloat])
        (not_not.mpr rfl)
  | coe double =>
      refine iff_of_true ?_ (WithTop.coe_ne_top)
      exact congrArg some (numbers.toFloat_toDouble isDouble)

theorem setPrimitiveType_iff
    (value : MetadataPrimitive F) :
    setPrimitiveType numbers (primitiveToJson numbers value).asParsed =
        some value ↔
      PrimitiveKept numbers value := by
  cases value with
  | string value =>
      exact iff_of_true rfl trivial
  | bool value =>
      exact iff_of_true rfl trivial
  | unsigned value =>
      refine iff_of_true ?_ trivial
      simp [primitiveToJson, Json.asParsed, setPrimitiveType, ofInt_toNat]
  | int value =>
      simp only [primitiveToJson, Json.asParsed, setPrimitiveType,
        PrimitiveKept]
      split
      · rename_i notNegative
        exact iff_of_false (by simp) (not_lt.mpr notNegative)
      · rename_i negative
        exact iff_of_true (by rw [Int32.ofInt_toInt]) (not_le.mp negative)
  | float value =>
      have comesBack := @getFloat_asParsed_iff D F numbers value
      rw [PrimitiveKept, ← comesBack, primitiveToJson]
      cases numbers.toDouble value with
      | top =>
          exact iff_of_false (by simp [Json.asParsed, setPrimitiveType])
            (by simp [Json.asParsed, Json.getFloat])
      | coe double =>
          simp [Json.asParsed, setPrimitiveType, Json.getFloat]

theorem keys_entriesToJson
    (entries : List (String × MetadataValue F)) :
    (entriesToJson numbers entries).map Prod.fst =
      entries.map Prod.fst := by
  induction entries with
  | nil =>
      rfl
  | cons entry rest inductionHypothesis =>
      rw [entriesToJson, List.map_cons, List.map_cons, inductionHypothesis]

theorem keys_convertEntries
    {fields : List (String × Json D)}
    {entries : List (String × MetadataValue F)}
    (converted : convertEntries numbers fields = some entries) :
    entries.map Prod.fst = fields.map Prod.fst := by
  induction fields generalizing entries with
  | nil =>
      rw [← Option.some.inj converted]
      rfl
  | cons field rest inductionHypothesis =>
      obtain ⟨value, -, converted⟩ := Option.bind_eq_some_iff.mp converted
      obtain ⟨others, areOthers, same⟩ := Option.map_eq_some_iff.mp converted
      rw [← same, List.map_cons, List.map_cons,
        inductionHypothesis areOthers]

/-- Whether keys increase depends on the keys only. -/
theorem increasing_congr
    {Value Other : Type}
    {entries : List (String × Value)}
    {others : List (String × Other)}
    (sameKeys : entries.map Prod.fst = others.map Prod.fst) :
    Increasing entries ↔ Increasing others := by
  have increasing_iff
      {Value : Type}
      (entries : List (String × Value)) :
      Increasing entries ↔
        (entries.map Prod.fst).Pairwise (· < ·) :=
    List.pairwise_map.symm
  rw [increasing_iff, increasing_iff, sameKeys]

/-- Entries whose keys increase are written and parsed one by one. -/
theorem asParsed_entries
    {entries : List (String × MetadataValue F)}
    (increasing : Increasing entries) :
    (Json.obj (ofEntries (entriesToJson numbers entries))).asParsed =
      .obj (Json.fieldsAsParsed (entriesToJson numbers entries)) := by
  have written : Increasing (entriesToJson numbers entries) :=
    (increasing_congr (keys_entriesToJson entries)).mpr increasing
  rw [Json.asParsed, ofEntries_of_increasing written]

/-- Entries that are read come in the order of their keys already. -/
theorem ofEntries_read_iff
    {entries : List (String × MetadataValue F)}
    (increasing : Increasing entries) :
    (∃ read,
      convertEntries numbers
          (Json.fieldsAsParsed (entriesToJson numbers entries)) =
        some read ∧ ofEntries read = entries) ↔
      convertEntries numbers
          (Json.fieldsAsParsed (entriesToJson numbers entries)) =
        some entries := by
  constructor
  · rintro ⟨read, converted, same⟩
    have sameKeys : read.map Prod.fst = entries.map Prod.fst := by
      rw [keys_convertEntries converted, Json.fieldsAsParsed_eq,
        List.map_map, ← keys_entriesToJson entries]
      rfl
    rw [ofEntries_of_increasing
      ((increasing_congr sameKeys).mpr increasing)] at same
    rw [converted, same]
  · intro converted
    exact ⟨entries, converted, ofEntries_of_increasing increasing⟩

mutual

theorem convertValue_iff
    (value : MetadataValue F)
    (ordered : ValueOrdered value) :
    convertValue numbers (valueToJson numbers value).asParsed = some value ↔
      ValueKept numbers value := by
  cases value with
  | primitive value =>
      have asPrimitive :
          convertValue numbers (primitiveToJson numbers value).asParsed =
            (setPrimitiveType numbers
              (primitiveToJson numbers value).asParsed).map .primitive := by
        cases value with
        | float value =>
            rw [primitiveToJson]
            cases numbers.toDouble value with
            | top =>
                rfl
            | coe double =>
                rfl
        | string value =>
            rfl
        | int value =>
            rfl
        | unsigned value =>
            rfl
        | bool value =>
            rfl
      rw [valueToJson, asPrimitive, ValueKept, ← setPrimitiveType_iff,
        Option.map_eq_some_iff]
      simp
  | array values =>
      rw [valueToJson, ValueKept, Json.asParsed, Json.itemsAsParsed_eq,
        List.map_map, convertValue]
      have comeBack :
          (values.map (Json.asParsed ∘ primitiveToJson numbers)).mapM
              (setPrimitiveType numbers) = some values ↔
            ∀ value ∈ values, PrimitiveKept numbers value := by
        rw [mapM_map_eq_some_iff]
        exact forall₂_congr fun value _ => setPrimitiveType_iff value
      rw [← comeBack, Option.map_eq_some_iff]
      simp
  | metadata entries =>
      cases entries with
      | nil =>
          refine iff_of_false ?_ fun kept => kept.1 rfl
          simp [valueToJson, Json.asParsed, convertValue, setPrimitiveType]
      | cons entry rest =>
          obtain ⟨increasing, entriesOrdered⟩ := ordered
          have comeBack := convertEntries_iff (entry :: rest) entriesOrdered
          rw [valueToJson, asParsed_entries increasing, convertValue,
            Option.map_eq_some_iff, ValueKept, ← comeBack,
            ← ofEntries_read_iff increasing]
          simp

theorem convertEntries_iff
    (entries : List (String × MetadataValue F))
    (ordered : EntriesOrdered entries) :
    convertEntries numbers
        (Json.fieldsAsParsed (entriesToJson numbers entries)) =
        some entries ↔
      EntriesKept numbers entries := by
  cases entries with
  | nil =>
      exact iff_of_true rfl trivial
  | cons entry rest =>
      obtain ⟨key, value⟩ := entry
      have valueBack := convertValue_iff value ordered.1
      have restBack := convertEntries_iff rest ordered.2
      rw [EntriesKept, ← valueBack, ← restBack, entriesToJson,
        Json.fieldsAsParsed, convertEntries]
      simp [Option.bind_eq_some_iff, Option.map_eq_some_iff]

end

theorem readField_asParsed
    {α : Type}
    {properties : Json D}
    {key : String}
    {field : Option (Json D)}
    (isField : properties.field? key = field)
    (read : Json D → Option α)
    (default : α) :
    readField properties.asParsed key read default =
      field.elim (some default) fun json => read json.asParsed := by
  rw [readField, Json.field?_asParsed, isField]
  cases field with
  | none =>
      rfl
  | some json =>
      rfl

theorem convertMetaDataFromJson_iff
    {properties : Json D}
    {metadata : Metadata F}
    (isField :
      properties.field? "metadata" = convertMetaDataToJson numbers metadata)
    (ordered : MetadataOrdered metadata) :
    convertMetaDataFromJson numbers properties.asParsed = some metadata ↔
      MetadataKept numbers metadata := by
  obtain ⟨entries⟩ := metadata
  obtain ⟨increasing, entriesOrdered⟩ := ordered
  rw [convertMetaDataFromJson, readField_asParsed isField,
    convertMetaDataToJson, MetadataKept]
  split
  · rename_i noEntries
    obtain rfl : entries = [] := noEntries
    exact iff_of_true rfl trivial
  · have comeBack := @convertEntries_iff D F numbers entries entriesOrdered
    rw [← comeBack, ← ofEntries_read_iff increasing, Option.elim_some,
      asParsed_entries increasing, convertItems, Option.map_eq_some_iff]
    simp

end Metadata

section Operations

open GeoJsonGraphFileSaver GeoJsonGraphFileLoader

variable {D F : Type} {numbers : FileNumbers D F}

theorem ofJson_text
    (trigger : OperationTrigger) :
    OperationTrigger.ofJson (Json.str trigger.text : Json D).asParsed =
      trigger := by
  cases trigger with
  | node =>
      rfl
  | onEnter =>
      rfl
  | onExit =>
      rfl

/-- Reading an operation back keeps its type and its trigger. -/
theorem convertOperationFromJson_eq
    (operation : Operation F) :
    convertOperationFromJson numbers
        (operationToJson numbers operation).asParsed =
      (convertMetaDataFromJson numbers
        (operationToJson numbers operation).asParsed).map fun metadata =>
          { operation with metadata := metadata } := by
  have type :
      (operationToJson numbers operation).field? "type" =
        some (.str operation.type) := by
    simp [operationToJson]
  have trigger :
      (operationToJson numbers operation).field? "trigger" =
        some (.str operation.trigger.text) := by
    simp [operationToJson, List.lookup_cons]
  rw [convertOperationFromJson, Json.field?_asParsed, type,
    Json.field?_asParsed, trigger]
  simp only [Option.map_some, Option.bind_eq_bind, Option.bind_some,
    ofJson_text]
  cases convertMetaDataFromJson numbers
      (operationToJson numbers operation).asParsed with
  | none =>
      rfl
  | some metadata =>
      rfl

theorem convertOperationFromJson_iff
    {operation : Operation F}
    (ordered : MetadataOrdered operation.metadata) :
    convertOperationFromJson numbers
        (operationToJson numbers operation).asParsed = some operation ↔
      MetadataKept numbers operation.metadata := by
  have isField :
      (operationToJson numbers operation).field? "metadata" =
        convertMetaDataToJson numbers operation.metadata := by
    simp [operationToJson, List.lookup_cons]
  rw [convertOperationFromJson_eq, Option.map_eq_some_iff,
    ← convertMetaDataFromJson_iff isField ordered]
  constructor
  · rintro ⟨metadata, isRead, same⟩
    rw [isRead, ← congrArg Operation.metadata same]
  · intro isRead
    exact ⟨operation.metadata, isRead, rfl⟩

theorem types_of_read
    {operations : List (Operation F)}
    {fields : List (String × Json D)}
    (written : ∀ field ∈ fields, ∃ operation : Operation F,
      field = (operation.type, operationToJson numbers operation))
    (read :
      (fields.map fun field => field.2.asParsed).mapM
        (convertOperationFromJson numbers) = some operations) :
    operations.map Operation.type = fields.map Prod.fst := by
  rw [mapM_eq_some_iff_forall₂, List.forall₂_map_left_iff] at read
  apply map_eq_map_of_results read
  intro field isField operation isRead
  obtain ⟨source, rfl⟩ := written field isField
  rw [convertOperationFromJson_eq] at isRead
  obtain ⟨metadata, -, same⟩ := Option.map_eq_some_iff.mp isRead
  rw [← same]

/-- Operations come back if they are in the order of their types. -/
theorem convertOperationsFromJson_iff
    {properties : Json D}
    {operations : List (Operation F)}
    (isField :
      properties.field? "operations" =
        convertOperationsToJson numbers operations)
    (ordered :
      ∀ operation ∈ operations, MetadataOrdered operation.metadata) :
    convertOperationsFromJson numbers properties.asParsed =
        some operations ↔
      OperationsKept numbers operations := by
  rw [convertOperationsFromJson, readField_asParsed isField,
    convertOperationsToJson]
  split
  · rename_i noOperations
    subst noOperations
    exact iff_of_true rfl ⟨List.Pairwise.nil, by simp⟩
  · rw [Option.elim_some, Json.elements_asParsed_obj]
    have comeBack :
        ((operations.map fun operation =>
              (operation.type, operationToJson numbers operation)).map
            fun field => field.2.asParsed).mapM
              (convertOperationFromJson numbers) = some operations ↔
          ∀ operation ∈ operations,
            MetadataKept numbers operation.metadata := by
      rw [List.map_map, mapM_map_eq_some_iff]
      exact forall₂_congr fun operation member =>
        convertOperationFromJson_iff (ordered operation member)
    have increasing_iff :
        Increasing (operations.map fun operation =>
            (operation.type, operationToJson numbers operation)) ↔
          operations.Pairwise fun first second =>
            first.type < second.type :=
      List.pairwise_map
    rw [OperationsKept, ← increasing_iff, ← comeBack]
    constructor
    · intro read
      have sameTypes :=
        types_of_read
          (fun field member => (by
            obtain ⟨operation, -, isField⟩ :=
              List.mem_map.mp (mem_of_mem_ofEntries member)
            exact ⟨operation, isField.symm⟩))
          read
      have increasing :
          Increasing (operations.map fun operation =>
            (operation.type, operationToJson numbers operation)) := by
        refine (increasing_congr ?_).mp
          (increasing_ofEntries (operations.map fun operation =>
            (operation.type, operationToJson numbers operation)))
        rw [← sameTypes, List.map_map]
        rfl
      rw [ofEntries_of_increasing increasing] at read
      exact ⟨increasing, read⟩
    · rintro ⟨increasing, read⟩
      rw [ofEntries_of_increasing increasing]
      exact read

end Operations

section Elements

open GeoJsonGraphFileSaver GeoJsonGraphFileLoader

variable {D F : Type} {numbers : FileNumbers D F}

section Nodes

variable (numbers) (node : RouteNode F)

theorem nodeToJson_properties :
    (nodeToJson numbers node).field? "properties" =
      some (nodeProperties numbers node) := by
  simp [nodeToJson, List.lookup_cons]

theorem nodeProperties_id :
    (nodeProperties numbers node).field? "id" =
      some (.int node.nodeid.toNat) := by
  simp [nodeProperties]

theorem nodeProperties_frame :
    (nodeProperties numbers node).field? "frame" =
      some (.str node.coords.frameId) := by
  simp [nodeProperties, List.lookup_cons]

theorem nodeProperties_metadata :
    (nodeProperties numbers node).field? "metadata" =
      convertMetaDataToJson numbers node.metadata := by
  simp [nodeProperties, List.lookup_cons, List.lookup_append]

theorem nodeProperties_operations :
    (nodeProperties numbers node).field? "operations" =
      convertOperationsToJson numbers node.operations := by
  simp [nodeProperties, List.lookup_cons, List.lookup_append]

end Nodes

theorem convertCoordinatesFromJson_iff
    (node : RouteNode F) :
    convertCoordinatesFromJson numbers (nodeToJson numbers node).asParsed =
        some node.coords ↔
      IsFinite numbers node.coords.x ∧ IsFinite numbers node.coords.y := by
  have geometry :
      (nodeToJson numbers node).field? "geometry" =
        some (.obj
          [("type", .str "Point"),
            ("coordinates",
              .arr
                [.float (numbers.toDouble node.coords.x),
                  .float (numbers.toDouble node.coords.y)])]) := by
    simp [nodeToJson]
  have frame :
      readField (nodeProperties numbers node).asParsed "frame"
          Json.getString "map" =
        some node.coords.frameId :=
    readField_asParsed (nodeProperties_frame numbers node) _ _
  have read :
      convertCoordinatesFromJson numbers
          (nodeToJson numbers node).asParsed =
        ((Json.float (numbers.toDouble node.coords.x)).asParsed.getFloat
          numbers).bind fun x =>
          ((Json.float (numbers.toDouble node.coords.y)).asParsed.getFloat
            numbers).bind fun y =>
            some { frameId := node.coords.frameId, x := x, y := y } := by
    rw [convertCoordinatesFromJson, Json.field?_asParsed,
      nodeToJson_properties, Json.field?_asParsed, geometry]
    simp only [Option.map_some, Option.bind_eq_bind, Option.bind_some]
    rw [frame]
    rfl
  rw [read, ← getFloat_asParsed_iff node.coords.x,
    ← getFloat_asParsed_iff node.coords.y,
    Option.bind_eq_some_iff]
  constructor
  · rintro ⟨x, isX, isRead⟩
    obtain ⟨y, isY, same⟩ := Option.bind_eq_some_iff.mp isRead
    have sameCoords := Option.some.inj same
    rw [isX, isY, ← congrArg Coordinates.x sameCoords,
      ← congrArg Coordinates.y sameCoords]
    exact ⟨rfl, rfl⟩
  · rintro ⟨isX, isY⟩
    refine ⟨_, isX, ?_⟩
    rw [isY]
    rfl

/-- What a graph's metadata are like at every node and edge. -/
structure NodeOrdered
    (node : RouteNode F) : Prop where
  metadata : MetadataOrdered node.metadata
  operations :
    ∀ operation ∈ node.operations, MetadataOrdered operation.metadata

structure EdgeOrdered
    (edge : DirectionalEdge F) : Prop where
  metadata : MetadataOrdered edge.metadata
  operations :
    ∀ operation ∈ edge.operations, MetadataOrdered operation.metadata

section Edges

variable (numbers) (startid endid : UInt32) (edge : DirectionalEdge F)

theorem edgeToJson_properties :
    (edgeToJson numbers startid endid edge).field? "properties" =
      some (edgeProperties numbers startid endid edge) := by
  simp [edgeToJson, List.lookup_cons]

theorem edgeProperties_id :
    (edgeProperties numbers startid endid edge).field? "id" =
      some (.int edge.edgeid.toNat) := by
  simp [edgeProperties]

theorem edgeProperties_startid :
    (edgeProperties numbers startid endid edge).field? "startid" =
      some (.int startid.toNat) := by
  simp [edgeProperties, List.lookup_cons]

theorem edgeProperties_endid :
    (edgeProperties numbers startid endid edge).field? "endid" =
      some (.int endid.toNat) := by
  simp [edgeProperties, List.lookup_cons]

theorem edgeProperties_metadata :
    (edgeProperties numbers startid endid edge).field? "metadata" =
      convertMetaDataToJson numbers edge.metadata := by
  simp [edgeProperties, List.lookup_cons, List.lookup_append]

theorem edgeProperties_operations :
    (edgeProperties numbers startid endid edge).field? "operations" =
      convertOperationsToJson numbers edge.operations := by
  simp [edgeProperties, List.lookup_cons, List.lookup_append]

theorem edgeProperties_cost :
    (edgeProperties numbers startid endid edge).field? "cost" =
      some (.float (numbers.toDouble edge.edgeCost.cost)) := by
  simp [edgeProperties, List.lookup_cons, List.lookup_append]

theorem edgeProperties_overridable :
    (edgeProperties numbers startid endid edge).field? "overridable" =
      some (.bool edge.edgeCost.overridable) := by
  simp [edgeProperties, List.lookup_cons, List.lookup_append]

end Edges

variable [IntegerPart D]

theorem getUnsigned_asParsed
    (value : UInt32) :
    (Json.int value.toNat : Json D).asParsed.getUnsigned = some value :=
  congrArg some (ofInt_toNat value)

/-- A node comes back without its edges if it can be kept. -/
theorem convertNode_iff
    {node : RouteNode F}
    (ordered : NodeOrdered node) :
    convertNode numbers (nodeToJson numbers node).asParsed =
        some { node with neighbors := [] } ↔
      NodeKept numbers node := by
  have coords := @convertCoordinatesFromJson_iff D F numbers node
  have operations :=
    convertOperationsFromJson_iff (nodeProperties_operations numbers node)
      ordered.operations
  have metadata :=
    convertMetaDataFromJson_iff (nodeProperties_metadata numbers node)
      ordered.metadata
  have read :
      convertNode numbers (nodeToJson numbers node).asParsed =
        (convertCoordinatesFromJson numbers
          (nodeToJson numbers node).asParsed).bind fun coords =>
        (convertOperationsFromJson numbers
          (nodeProperties numbers node).asParsed).bind fun operations =>
        (convertMetaDataFromJson numbers
          (nodeProperties numbers node).asParsed).bind fun metadata =>
        some
          { nodeid := node.nodeid
            coords := coords
            operations := operations
            metadata := metadata
            neighbors := [] } := by
    rw [convertNode, Json.field?_asParsed, nodeToJson_properties]
    simp only [Option.map_some, Option.bind_eq_bind, Option.bind_some]
    rw [Json.field?_asParsed, nodeProperties_id]
    simp only [Option.map_some, Option.bind_some, getUnsigned_asParsed]
  rw [read]
  constructor
  · intro isRead
    obtain ⟨_, isCoords, isRead⟩ := Option.bind_eq_some_iff.mp isRead
    obtain ⟨_, areOperations, isRead⟩ := Option.bind_eq_some_iff.mp isRead
    obtain ⟨_, isMetadata, isRead⟩ := Option.bind_eq_some_iff.mp isRead
    have same := Option.some.inj isRead
    obtain ⟨x, y⟩ := coords.mp
      (isCoords.trans (congrArg (fun read => some read.coords) same))
    constructor
    · exact x
    · exact y
    · exact metadata.mp
        (isMetadata.trans (congrArg (fun read => some read.metadata) same))
    · exact operations.mp
        (areOperations.trans
          (congrArg (fun read => some read.operations) same))
  · intro kept
    rw [coords.mpr ⟨kept.x, kept.y⟩, Option.bind_some,
      operations.mpr kept.operations, Option.bind_some,
      metadata.mpr kept.metadata]
    rfl

variable [Zero F]

theorem convertEdge_eq
    (idMap : UInt32 → Option Nat)
    (startid endid : UInt32)
    (edge : DirectionalEdge F) :
    convertEdge numbers idMap
        (edgeToJson numbers startid endid edge).asParsed =
      (idMap startid).bind fun start =>
      (idMap endid).bind fun endNode =>
      ((Json.float (numbers.toDouble edge.edgeCost.cost)).asParsed.getFloat
        numbers).bind fun cost =>
      (convertOperationsFromJson numbers
        (edgeProperties numbers startid endid edge).asParsed).bind
          fun operations =>
      (convertMetaDataFromJson numbers
        (edgeProperties numbers startid endid edge).asParsed).bind
          fun metadata =>
      some
        (start,
          { edgeid := edge.edgeid
            endNode := endNode
            edgeCost :=
              { cost := cost
                overridable := edge.edgeCost.overridable }
            operations := operations
            metadata := metadata }) := by
  have cost :=
    readField_asParsed (edgeProperties_cost numbers startid endid edge)
      (Json.getFloat numbers) 0
  have overridable :=
    readField_asParsed
      (edgeProperties_overridable numbers startid endid edge)
      Json.getBool true
  rw [convertEdge, Json.field?_asParsed, edgeToJson_properties]
  simp only [Option.map_some, Option.bind_eq_bind, Option.bind_some]
  rw [Json.field?_asParsed, edgeProperties_id, Json.field?_asParsed,
    edgeProperties_startid, Json.field?_asParsed, edgeProperties_endid]
  simp only [Option.map_some, Option.bind_some, getUnsigned_asParsed]
  have isOverridable :
      (Json.bool edge.edgeCost.overridable : Json D).asParsed.getBool =
        some edge.edgeCost.overridable :=
    rfl
  rw [convertEdgeCostFromJson, cost, overridable]
  simp only [Option.elim_some, isOverridable, Option.bind_eq_bind,
    Option.bind_some, Option.bind_assoc]

theorem convertEdge_iff
    {idMap : UInt32 → Option Nat}
    {startid endid : UInt32}
    {start : Nat}
    {edge : DirectionalEdge F}
    (isStart : idMap startid = some start)
    (isEnd : idMap endid = some edge.endNode)
    (ordered : EdgeOrdered edge) :
    convertEdge numbers idMap
        (edgeToJson numbers startid endid edge).asParsed =
        some (start, edge) ↔
      EdgeKept numbers edge := by
  have cost := @getFloat_asParsed_iff D F numbers edge.edgeCost.cost
  have operations :=
    convertOperationsFromJson_iff
      (edgeProperties_operations numbers startid endid edge)
      ordered.operations
  have metadata :=
    convertMetaDataFromJson_iff
      (edgeProperties_metadata numbers startid endid edge)
      ordered.metadata
  rw [convertEdge_eq, isStart, Option.bind_some, isEnd, Option.bind_some]
  constructor
  · intro isRead
    obtain ⟨_, isCost, isRead⟩ := Option.bind_eq_some_iff.mp isRead
    obtain ⟨_, areOperations, isRead⟩ := Option.bind_eq_some_iff.mp isRead
    obtain ⟨_, isMetadata, isRead⟩ := Option.bind_eq_some_iff.mp isRead
    have same := congrArg Prod.snd (Option.some.inj isRead)
    constructor
    · exact cost.mp
        (isCost.trans (congrArg (fun read => some read.edgeCost.cost) same))
    · exact metadata.mp
        (isMetadata.trans (congrArg (fun read => some read.metadata) same))
    · exact operations.mp
        (areOperations.trans
          (congrArg (fun read => some read.operations) same))
  · intro kept
    rw [cost.mpr kept.cost, Option.bind_some,
      operations.mpr kept.operations, Option.bind_some,
      metadata.mpr kept.metadata]
    rfl

end Elements

section Loaded

open GeoJsonGraphFileSaver GeoJsonGraphFileLoader

variable {D F : Type} {numbers : FileNumbers D F}

theorem entriesOrdered_iff
    (entries : List (String × MetadataValue F)) :
    EntriesOrdered entries ↔ ∀ entry ∈ entries, ValueOrdered entry.2 := by
  induction entries with
  | nil =>
      exact iff_of_true trivial (by simp)
  | cons entry rest inductionHypothesis =>
      rw [EntriesOrdered, inductionHypothesis, List.forall_mem_cons]

theorem entriesOrdered_ofEntries
    {entries : List (String × MetadataValue F)}
    (ordered : EntriesOrdered entries) :
    Increasing (ofEntries entries) ∧ EntriesOrdered (ofEntries entries) := by
  rw [entriesOrdered_iff] at ordered ⊢
  exact ⟨increasing_ofEntries entries, fun entry member =>
    ordered entry (mem_of_mem_ofEntries member)⟩

theorem valueOrdered_of_primitive
    (json : Json D)
    {value : MetadataValue F}
    (converted :
      (setPrimitiveType numbers json).map .primitive = some value) :
    ValueOrdered value := by
  obtain ⟨primitive, -, same⟩ := Option.map_eq_some_iff.mp converted
  rw [← same]
  trivial

mutual

/-- The loader keeps all metadata with increasing keys. -/
theorem valueOrdered_of_convertValue
    (json : Json D)
    {value : MetadataValue F}
    (converted : convertValue numbers json = some value) :
    ValueOrdered value := by
  cases json with
  | obj fields =>
      rw [convertValue] at converted
      obtain ⟨entries, areEntries, same⟩ :=
        Option.map_eq_some_iff.mp converted
      rw [← same]
      exact entriesOrdered_ofEntries
        (entriesOrdered_of_convertEntries fields areEntries)
  | arr items =>
      rw [convertValue] at converted
      obtain ⟨values, -, same⟩ := Option.map_eq_some_iff.mp converted
      rw [← same]
      trivial
  | null =>
      cases converted
  | bool flag =>
      exact @valueOrdered_of_primitive D F numbers (.bool flag) _ converted
  | int number =>
      exact @valueOrdered_of_primitive D F numbers (.int number) _ converted
  | float number =>
      exact @valueOrdered_of_primitive D F numbers (.float number) _ converted
  | str text =>
      exact @valueOrdered_of_primitive D F numbers (.str text) _ converted

theorem entriesOrdered_of_convertEntries
    (fields : List (String × Json D))
    {entries : List (String × MetadataValue F)}
    (converted : convertEntries numbers fields = some entries) :
    EntriesOrdered entries := by
  cases fields with
  | nil =>
      rw [← Option.some.inj converted]
      trivial
  | cons field rest =>
      obtain ⟨key, json⟩ := field
      rw [convertEntries] at converted
      obtain ⟨value, isValue, converted⟩ :=
        Option.bind_eq_some_iff.mp converted
      obtain ⟨others, areOthers, same⟩ :=
        Option.map_eq_some_iff.mp converted
      rw [← same]
      exact ⟨valueOrdered_of_convertValue json isValue,
        entriesOrdered_of_convertEntries rest areOthers⟩

end

theorem entriesOrdered_of_single
    (json : Json D)
    {entries : List (String × MetadataValue F)}
    (converted :
      (setPrimitiveType numbers json).map
          (fun value => [("", MetadataValue.primitive value)]) =
        some entries) :
    EntriesOrdered entries := by
  obtain ⟨primitive, -, same⟩ := Option.map_eq_some_iff.mp converted
  rw [← same]
  exact ⟨trivial, trivial⟩

theorem entriesOrdered_of_convertItems
    {json : Json D}
    {entries : List (String × MetadataValue F)}
    (converted : convertItems numbers json = some entries) :
    EntriesOrdered entries := by
  cases json with
  | null =>
      rw [← Option.some.inj converted]
      trivial
  | obj fields =>
      exact entriesOrdered_of_convertEntries fields converted
  | arr items =>
      rw [entriesOrdered_iff]
      intro entry member
      obtain ⟨item, -, isEntry⟩ :=
        exists_of_mem_results (mapM_eq_some_iff_forall₂.mp converted) member
      rw [convertElement] at isEntry
      split at isEntry
      · rw [← Option.some.inj isEntry]
        exact ⟨List.Pairwise.nil, trivial⟩
      · obtain ⟨value, isValue, same⟩ := Option.map_eq_some_iff.mp isEntry
        rw [← same]
        exact valueOrdered_of_convertValue _ isValue
  | bool flag =>
      exact @entriesOrdered_of_single D F numbers (.bool flag) _ converted
  | int number =>
      exact @entriesOrdered_of_single D F numbers (.int number) _ converted
  | float number =>
      exact @entriesOrdered_of_single D F numbers (.float number) _ converted
  | str text =>
      exact @entriesOrdered_of_single D F numbers (.str text) _ converted

theorem metadataOrdered_of_converted
    {properties : Json D}
    {metadata : Metadata F}
    (converted :
      convertMetaDataFromJson numbers properties = some metadata) :
    MetadataOrdered metadata := by
  rw [convertMetaDataFromJson, readField] at converted
  split at converted
  · rw [← Option.some.inj converted]
    exact ⟨List.Pairwise.nil, trivial⟩
  · obtain ⟨entries, areEntries, same⟩ :=
      Option.map_eq_some_iff.mp converted
    rw [← same]
    exact entriesOrdered_ofEntries
      (entriesOrdered_of_convertItems areEntries)

theorem operationsOrdered_of_converted
    {properties : Json D}
    {operations : List (Operation F)}
    (converted :
      convertOperationsFromJson numbers properties = some operations) :
    ∀ operation ∈ operations, MetadataOrdered operation.metadata := by
  rw [convertOperationsFromJson, readField] at converted
  split at converted
  · rw [← Option.some.inj converted]
    simp
  · intro operation member
    obtain ⟨json, -, isRead⟩ :=
      exists_of_mem_results (mapM_eq_some_iff_forall₂.mp converted) member
    simp only [convertOperationFromJson, Option.bind_eq_bind,
      Option.bind_eq_some_iff] at isRead
    obtain ⟨_, -, _, -, _, -, metadata, isMetadata, same⟩ := isRead
    rw [← Option.some.inj same]
    exact metadataOrdered_of_converted isMetadata

end Loaded

end NavBim
