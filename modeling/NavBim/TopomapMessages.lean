import NavBim.TopologicalMap

namespace NavBim

/-!
# Maps as messages

The server sends its map as a `Topomap` message and the planner builds its own
map from it.  Optional properties become default values of the message, ids
become decimal texts, and the corners of polygons become single precision
numbers; `loadFromMessage` guesses from the defaults what was absent.
-/

section Texts

/-- `std::isspace`. -/
def isSpace
    (char : Char) : Bool :=
  char == ' ' || ('\t' ≤ char && char ≤ '\r')

/-- The sign of a number and what follows it. -/
def splitSign : List Char → Bool × List Char
  | '-' :: rest => (true, rest)
  | '+' :: rest => (false, rest)
  | rest => (false, rest)

/-- `std::stoi`; it throws if there are no digits or the number is too large. -/
def stoi
    (text : String) : Option Int32 :=
  let signed := splitSign (text.toList.dropWhile isSpace)
  let digits := signed.2.takeWhile Char.isDigit
  let magnitude : Int := Nat.ofDigitChars 10 digits 0
  let value := if signed.1 then -magnitude else magnitude
  if digits.isEmpty then
    none
  else if
      Int32.minValue.toInt ≤ value ∧ value ≤ Int32.maxValue.toInt then
    some (Int32.ofInt value)
  else
    none

/-- Decimal digits are all read. -/
theorem takeWhile_isDigit_toDigits
    (value : Nat) :
    (Nat.toDigits 10 value).takeWhile Char.isDigit =
      Nat.toDigits 10 value := by
  rw [List.takeWhile_eq_self_iff]
  intro char member
  exact Nat.isDigit_of_mem_toDigits (by decide) (by decide) member

theorem isSpace_of_isDigit
    {char : Char}
    (digit : char.isDigit = true) :
    isSpace char = false := by
  have notSmall : ¬ char ≤ '\r' := by
    intro small
    simp only [Char.isDigit, ge_iff_le, Bool.and_eq_true,
      decide_eq_true_eq, UInt32.le_iff_toNat_le] at digit
    simp only [Char.le_def, UInt32.le_iff_toNat_le] at small
    exact absurd (digit.1.trans small) (by decide)
  have notBlank : char ≠ ' ' := by
    rintro rfl
    exact absurd digit (by decide)
  simp [isSpace, notSmall, notBlank]

theorem splitSign_of_isDigit
    {char : Char}
    (rest : List Char)
    (digit : char.isDigit = true) :
    splitSign (char :: rest) = (false, char :: rest) := by
  simp only [splitSign]
  split
  · rename_i minus
    cases minus
    exact absurd digit (by decide)
  · rename_i plus
    cases plus
    exact absurd digit (by decide)
  · rfl

/-- The digits of a number have neither spaces nor a sign in front. -/
theorem toDigits_unsigned
    (value : Nat) :
    (Nat.toDigits 10 value).dropWhile isSpace = Nat.toDigits 10 value ∧
      splitSign (Nat.toDigits 10 value) =
        (false, Nat.toDigits 10 value) := by
  cases digits : Nat.toDigits 10 value with
  | nil =>
      exact ⟨rfl, rfl⟩
  | cons first rest =>
      have firstMember : first ∈ Nat.toDigits 10 value := by
        simp [digits]
      have firstDigit : first.isDigit = true :=
        Nat.isDigit_of_mem_toDigits (by decide) (by decide) firstMember
      constructor
      · simp [isSpace_of_isDigit firstDigit]
      · exact splitSign_of_isDigit rest firstDigit

/-- Every id is read back from its text. -/
@[simp] theorem stoi_idString
    (id : Int32) :
    stoi (idString id) = some id := by
  have inRange :
      Int32.minValue.toInt ≤ id.toInt ∧
        id.toInt ≤ Int32.maxValue.toInt :=
    ⟨id.minValue_le_toInt, id.toInt_le⟩
  have nonempty
      (value : Nat) :
      (Nat.toDigits 10 value).isEmpty = false := by
    simp
  simp only [stoi, idString, Int.toString_eq_repr, Int.repr_eq_if]
  split
  · rename_i nonnegative
    have unsigned := toDigits_unsigned id.toInt.toNat
    simp only [Nat.toList_repr, unsigned.1, unsigned.2,
      takeWhile_isDigit_toDigits, nonempty,
      Nat.ofDigitChars_ten_toDigits, Bool.false_eq_true, if_false,
      Int.toNat_of_nonneg nonnegative]
    rw [if_pos inRange, Int32.ofInt_toInt]
  · rename_i negative
    have minus
        (rest : List Char) :
        splitSign (List.dropWhile isSpace ('-' :: rest)) =
          (true, rest) := by
      rw [List.dropWhile_cons_of_neg (by decide)]
      rfl
    have opposite : -((-id.toInt).toNat : Int) = id.toInt := by
      omega
    have text :
        ("-" ++ (-id.toInt).toNat.repr).toList =
          '-' :: Nat.toDigits 10 (-id.toInt).toNat := by
      rw [String.toList_append, Nat.toList_repr]
      rfl
    simp only [text, minus, takeWhile_isDigit_toDigits, nonempty,
      Nat.ofDigitChars_ten_toDigits, Bool.false_eq_true, if_false,
      if_true, opposite]
    rw [if_pos inRange, Int32.ofInt_toInt]

/-- Different ids have different texts. -/
theorem idString_inj
    {first second : Int32} :
    idString first = idString second ↔ first = second := by
  constructor
  · intro same
    have reads := congrArg stoi same
    rw [stoi_idString, stoi_idString, Option.some_inj] at reads
    exact reads
  · rintro rfl
    rfl

@[simp] theorem isEmpty_idString
    (id : Int32) :
    (idString id).isEmpty = false := by
  by_contra isEmpty
  rw [Bool.not_eq_false, String.isEmpty_iff] at isEmpty
  have reads := stoi_idString id
  rw [isEmpty] at reads
  exact absurd reads (by simp [stoi, splitSign])

end Texts

/-- `navbim_msgs/TopomapNode`, with the ring of each polygon as its points. -/
structure TopomapNode (K : Type) where
  id : String
  name : String
  type : String
  ifcGuid : String
  position : Position K
  minZ : K
  maxZ : K
  floor : List String
  subtype : String
  bbox : BoundingBox K
  polygon : Polygon K

/-- `nav_msgs/Path`: the frame and the positions of the poses. -/
structure PathMessage (K : Type) where
  frameId : String
  poses : List (Coords K)

/-- `navbim_msgs/TopomapEdge`. -/
structure TopomapEdge (K : Type) where
  source : String
  target : String
  id : String
  type : String
  subtype : String
  roomId : String
  estimatedDistance : WithTop K
  plannedDistance : WithTop K
  estimatedCost : WithTop K
  plannedCost : WithTop K
  path : PathMessage K

/-- The nodes and edges of `navbim_msgs/Topomap`. -/
structure Topomap (K : Type) where
  nodes : List (TopomapNode K)
  edges : List (TopomapEdge K)

/-- The response of `GetTopologicalMap`. -/
structure GetTopologicalMapResponse (K : Type) where
  success : Bool
  message : String
  topomap : Topomap K

section Sending

variable {K : Type}

variable
  (toFloat : K → K)

/-- The points of a ring as `geometry_msgs/Point32`. -/
def convertRing
    (ring : Ring K) : Ring K :=
  ring.map fun point => (toFloat point.1, toFloat point.2)

/-- The rings of a polygon as a message. -/
def convertPolygon
    (polygon : Polygon K) : Polygon K where
  outer := convertRing toFloat polygon.outer
  inners := polygon.inners.map (convertRing toFloat)

variable [Field K]

/-- `convertToTopomapNodeMsg`. -/
def convertToTopomapNodeMsg
    (props : NodeProperties K) : TopomapNode K where
  id := idString props.id
  name := props.name
  type := props.type
  ifcGuid := props.ifcGuid.getD ""
  position := props.position
  minZ := props.minZ.getD 0
  maxZ := props.maxZ.getD 0
  floor := props.floor.getD []
  subtype := props.subtype.getD ""
  bbox := props.bbox.getD BoundingBox.zero
  polygon :=
    match props.polygon with
    | some polygon => convertPolygon toFloat polygon
    | none => ⟨[], []⟩

/-- `convertToTopomapEdgeMsg`. -/
def convertToTopomapEdgeMsg
    (graph : TopologicalGraph K)
    (edge : StoredEdge K) : TopomapEdge K :=
  let props := edge.properties
  { source := idString (graph.node edge.source).id
    target := idString (graph.node edge.target).id
    id := idString props.id
    type := props.type
    subtype := props.subtype.getD ""
    roomId :=
      match props.roomId with
      | some roomId => idString roomId
      | none => ""
    estimatedDistance := props.estimatedDistance
    plannedDistance := props.plannedDistance
    estimatedCost := props.estimatedCost
    plannedCost := props.plannedCost
    path :=
      match props.path with
      | some (first :: rest) => ⟨props.pathFrameId, first :: rest⟩
      | _ => ⟨"", []⟩ }

/-- `getTopologicalMapCallback`. -/
def getTopologicalMap
    (graph : TopologicalGraph K) : GetTopologicalMapResponse K :=
  if graph.numVertices = 0 then
    { success := false
      message := "Topological graph not initialized"
      topomap := ⟨[], []⟩ }
  else
    { success := true
      message :=
        "Topological map retrieved: " ++ toString graph.numVertices ++
          " nodes, " ++ toString graph.edges.length ++ " edges"
      topomap :=
        { nodes := graph.vertices.map (convertToTopomapNodeMsg toFloat)
          edges := graph.edges.map (convertToTopomapEdgeMsg graph) } }

end Sending

section Receiving

variable {K : Type} [DecidableEq K]

/-- Append the first point of a ring if it is not the last one. -/
def closeRing
    (ring : Ring K) : Ring K :=
  match ring.head?, ring.getLast? with
  | some front, some back =>
      if front.1 ≠ back.1 ∨ front.2 ≠ back.2 then
        ring ++ [front]
      else
        ring
  | _, _ => ring

/-- `convertPolygonFromMessage`. -/
def convertPolygonFromMessage
    (polygon : Polygon K) : Polygon K where
  outer := closeRing polygon.outer
  inners := polygon.inners.map closeRing

/-- A text that is present if it is not empty. -/
def textIfAny
    (text : String) : Option String :=
  if text.isEmpty then none else some text

/-- A list that is present if it is not empty. -/
def listIfAny
    {α : Type}
    (items : List α) : Option (List α) :=
  if items.isEmpty then none else some items

variable [Field K]

/-- The properties of a received node. -/
def readNodeMsg
    (msg : TopomapNode K) : Option (NodeProperties K) := do
  let id ← stoi msg.id
  some
    { id := id
      name := msg.name
      type := msg.type
      subtype := textIfAny msg.subtype
      position := msg.position
      ifcGuid := textIfAny msg.ifcGuid
      minZ := if msg.type = "floor" then some msg.minZ else none
      maxZ := if msg.type = "floor" then some msg.maxZ else none
      bbox :=
        if msg.type = "room" ∨ msg.type = "transition" then
          if msg.bbox.minX ≠ 0 ∨ msg.bbox.maxX ≠ 0 then
            some msg.bbox
          else
            none
        else
          none
      polygon :=
        if msg.type = "room" ∧ msg.polygon.outer ≠ [] then
          some (convertPolygonFromMessage msg.polygon)
        else
          none
      floor := listIfAny msg.floor }

/-- The properties of a received edge. -/
def readEdgeMsg
    (msg : TopomapEdge K) : Option (EdgeProperties K) := do
  let id ← stoi msg.id
  let roomId ←
    if msg.roomId.isEmpty then some none
    else (stoi msg.roomId).map some
  some
    { id := id
      type := msg.type
      subtype := textIfAny msg.subtype
      estimatedDistance := msg.estimatedDistance
      plannedDistance := msg.plannedDistance
      estimatedCost := msg.estimatedCost
      plannedCost := msg.plannedCost
      path := listIfAny msg.path.poses
      pathFrameId := "ifc"
      roomId := roomId }

/-- The graph and `id_map` while a message is loaded. -/
structure ReceivedNodes (K : Type) where
  graph : TopologicalGraph K
  idMap : String → Option Nat

/-- Add one node of a message. -/
def receiveNode
    (received : ReceivedNodes K)
    (msg : TopomapNode K) : Option (ReceivedNodes K) := do
  let props ← readNodeMsg msg
  some
    { graph := received.graph.addVertex props
      idMap :=
        Function.update received.idMap msg.id
          (some received.graph.numVertices) }

/-- Add one edge of a message; edges without known ends are passed over. -/
def receiveEdge
    (idMap : String → Option Nat)
    (graph : TopologicalGraph K)
    (msg : TopomapEdge K) : Option (TopologicalGraph K) :=
  match idMap msg.source, idMap msg.target with
  | some u, some v => (readEdgeMsg msg).map (graph.addEdge u v)
  | _, _ => some graph

/-- The graph of a message, if no exception is thrown. -/
def readTopomap
    (topomap : Topomap K) : Option (TopologicalGraph K) := do
  let received ←
    topomap.nodes.foldlM receiveNode
      ⟨TopologicalGraph.empty, fun _ => none⟩
  topomap.edges.foldlM (receiveEdge received.idMap) received.graph

/-- `clear`, which keeps the set of floor vertices. -/
def TopologicalMap.clear
    (topologicalMap : TopologicalMap K) : TopologicalMap K :=
  { TopologicalMap.empty with
    floorVertices := topologicalMap.floorVertices }

/-- `loadFromMessage`: the result and the map afterwards. -/
def TopologicalMap.loadFromMessage
    (topologicalMap : TopologicalMap K)
    (topomap : Topomap K) : Bool × TopologicalMap K :=
  match readTopomap topomap with
  | some graph => (true, TopologicalMap.ofGraph graph)
  | none => (false, topologicalMap.clear)

end Receiving

end NavBim
