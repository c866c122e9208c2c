import NavBim.TopologyGraph
import NavBim.WalkingLine

namespace NavBim

/-!
# Edges between the transitions of a room

For every room, stair and ramp the generator connects all pairs of transitions
that are adjacent to it.  The edge stores which room it leads through and, for
stairs and ramps, the path along the walking line.

There is one edge at most between two transitions.  If two rooms have a pair of
transitions in common, the edge belongs to the one that comes first.
-/

/-- The parameters of the generator that are read here. -/
structure TopologyManager (K : Type) where
  penalizeZMovement : K
  resolution : K

/-- Rooms, stairs and ramps are passed between transitions. -/
def GeneratedType.isPassable : GeneratedType → Bool
  | .room => true
  | .stair => true
  | .ramp => true
  | .floor => false
  | .transition => false

/-- All pairs of a list, the earlier element first. -/
def orderedPairs
    {Item : Type} :
    List Item → List (Item × Item)
  | [] => []
  | first :: rest => rest.map (fun second => (first, second)) ++ orderedPairs rest

section Model

variable {K : Type}

def nodePosition
    (map : GeneratedMap K)
    (id : Nat) : Except String (Position K) :=
  match map.node? id with
  | some node =>
      match node.attributes.position with
      | some position => .ok position
      | none => .error "TypeError: 'NoneType' object is not subscriptable"
  | none => .error "KeyError"

def transitionNeighbors
    (map : GeneratedMap K)
    (roomId : Nat) : List Nat :=
  (map.neighbors roomId).filter fun id =>
    (map.node? id).any fun node => node.type = .transition

variable [Field K] [SquareRoot K]

def euclideanDistanceBetween
    (first second : Position K) : K :=
  SquareRoot.sqrt ((first.x - second.x) ^ 2 + (first.y - second.y) ^ 2 +
    (first.z - second.z) ^ 2)

def costBetween
    (first second : Position K)
    (penalizeZMovement : K) : K :=
  SquareRoot.sqrt ((first.x - second.x) ^ 2 + (first.y - second.y) ^ 2 +
    (penalizeZMovement * (first.z - second.z)) ^ 2)

variable [LinearOrder K] [FloorSemiring K]
  (manager : TopologyManager K) (round : K → K)

/-- The path of a stair or ramp between two heights. -/
def walkingPath
    (room : GeneratedNode K)
    (startZ endZ : K) : List (Coords K) :=
  match room.attributes.walkingLine with
  | some line =>
      interpolateWalkingLine3d round manager.resolution line startZ endZ
  | none => []

/-- An edge that has not been planned. -/
def unplannedTransition
    (roomId : Nat)
    (first second : Position K) : TransitionEdge K where
  estimatedDistance := euclideanDistanceBetween first second
  plannedDistance := -1
  estimatedCost := costBetween first second 1
  plannedCost := -1
  path := []
  roomId := roomId
  subtype := none

/-- The edge of a room between two of its transitions.  On stairs and ramps it
is planned along the walking line. -/
def transitionEdge
    (roomId : Nat)
    (room : GeneratedNode K)
    (first second : Position K) : TransitionEdge K :=
  let edge := unplannedTransition roomId first second
  if room.type = .stair ∨ room.type = .ramp then
    let path := walkingPath manager round room first.z second.z
    if path = [] then
      { edge with subtype := some room.type }
    else
      { edge with
        subtype := some room.type
        path := path
        plannedCost := pathTotal manager.penalizeZMovement path
        plannedDistance := pathTotal 1 path }
  else
    edge

def addTransitionEdge
    (room : Nat × GeneratedNode K)
    (map : GeneratedMap K)
    (pair : Nat × Nat) : Except String (GeneratedMap K) :=
  if map.hasEdge pair.1 pair.2 then
    .ok map
  else do
    let first ← nodePosition map pair.1
    let second ← nodePosition map pair.2
    let edge := transitionEdge manager round room.1 room.2 first second
    pure (map.addEdge pair.1 pair.2 ⟨map.edges.length, .transition edge⟩)

/-- The loop over the pairs of transitions of a room. -/
def connectTransitions
    (map : GeneratedMap K)
    (room : Nat × GeneratedNode K) : Except String (GeneratedMap K) :=
  if room.2.type.isPassable then
    (orderedPairs (transitionNeighbors map room.1)).foldlM
      (addTransitionEdge manager round room) map
  else
    .ok map

def addTransitionEdges
    (map : GeneratedMap K) : Except String (GeneratedMap K) :=
  map.nodes.foldlM (connectTransitions manager round) map

def generateTopologicalMap
    (topologyGraph : TopologyGraph K) : Except String (GeneratedMap K) := do
  let converted ← convertToIntegerIds (removeUnnecessaryNodes topologyGraph)
  addTransitionEdges manager round converted

/-- There is an edge between two transitions that leads through the room, along
its path if it is a stair or ramp. -/
def HasOwnEdge
    (map : GeneratedMap K)
    (room : Nat × GeneratedNode K)
    (first second : Nat) : Prop :=
  ∃ edge data,
    map.edge? first second = some edge ∧
    edge.data = .transition data ∧
    data.roomId = room.1 ∧
    (room.2.type = .stair ∨ room.2.type = .ramp →
      data.subtype = some room.2.type ∧
      ∃ start goal,
        nodePosition map first = .ok start ∧
        nodePosition map second = .ok goal ∧
        (data.path = walkingPath manager round room.2 start.z goal.z ∨
          data.path = walkingPath manager round room.2 goal.z start.z))

/-- Transitions of a room are not adjacent, and not transitions of another room
in common. -/
def SharesNoPair
    (map : GeneratedMap K) : Prop :=
  ∀ room ∈ map.nodes, room.2.type.isPassable = true →
    ∀ first ∈ transitionNeighbors map room.1,
    ∀ second ∈ transitionNeighbors map room.1, first ≠ second →
      map.hasEdge first second = false ∧
      ∀ other ∈ map.nodes, other.2.type.isPassable = true →
        first ∈ transitionNeighbors map other.1 →
        second ∈ transitionNeighbors map other.1 → other = room

instance [DecidableEq K] (map : GeneratedMap K) :
    Decidable (SharesNoPair map) :=
  inferInstanceAs (Decidable (∀ room ∈ map.nodes, _))

end Model

section Pairs

variable {Item : Type} {items : List Item} {first second : Item}

theorem mem_of_mem_orderedPairs
    (isPair : (first, second) ∈ orderedPairs items) :
    first ∈ items ∧ second ∈ items := by
  induction items with
  | nil => cases isPair
  | cons item rest inductionHypothesis =>
      rw [orderedPairs, List.mem_append, List.mem_map] at isPair
      rcases isPair with ⟨other, isLater, isPair⟩ | isLater
      · cases isPair
        exact ⟨List.mem_cons_self, List.mem_cons_of_mem _ isLater⟩
      · have isMember := inductionHypothesis isLater
        exact ⟨List.mem_cons_of_mem _ isMember.1,
          List.mem_cons_of_mem _ isMember.2⟩

theorem mem_orderedPairs
    (isFirst : first ∈ items)
    (isSecond : second ∈ items)
    (differ : first ≠ second) :
    (first, second) ∈ orderedPairs items ∨
      (second, first) ∈ orderedPairs items := by
  induction items with
  | nil => cases isFirst
  | cons item rest inductionHypothesis =>
      simp only [orderedPairs, List.mem_append, List.mem_map, Prod.mk.injEq]
      rcases List.mem_cons.mp isFirst with rfl | firstLater
      · rcases List.mem_cons.mp isSecond with rfl | secondLater
        · exact absurd rfl differ
        · exact .inl (.inl ⟨second, secondLater, rfl, rfl⟩)
      · rcases List.mem_cons.mp isSecond with rfl | secondLater
        · exact .inr (.inl ⟨first, firstLater, rfl, rfl⟩)
        · exact (inductionHypothesis firstLater secondLater).imp .inr .inr

end Pairs

theorem mem_transitionNeighbors
    {K : Type}
    {map : GeneratedMap K}
    {roomId id : Nat} :
    id ∈ transitionNeighbors map roomId ↔
      map.hasEdge roomId id = true ∧
        ∃ node, map.node? id = some node ∧ node.type = .transition := by
  simp only [transitionNeighbors, List.mem_filter, NetworkGraph.mem_neighbors,
    Option.any_eq_true, decide_eq_true_eq]

section Added

variable {K : Type} [Field K] [SquareRoot K] [LinearOrder K] [FloorSemiring K]
  {manager : TopologyManager K} {round : K → K}
  {before map after : GeneratedMap K}
  {room : Nat × GeneratedNode K}

/-- The edge was added for a room. -/
def AddedFor
    (manager : TopologyManager K)
    (round : K → K)
    (map : GeneratedMap K)
    (room : Nat × GeneratedNode K)
    (first second : Nat)
    (edge : GeneratedEdge K) : Prop :=
  ∃ start goal,
    nodePosition map first = .ok start ∧
    nodePosition map second = .ok goal ∧
    (edge.data =
        .transition (transitionEdge manager round room.1 room.2 start goal) ∨
      edge.data =
        .transition (transitionEdge manager round room.1 room.2 goal start))

theorem AddedFor.symm
    {first second : Nat}
    {edge : GeneratedEdge K}
    (added : AddedFor manager round map room first second edge) :
    AddedFor manager round map room second first edge := by
  obtain ⟨start, goal, isStart, isGoal, data⟩ := added
  exact ⟨goal, start, isGoal, isStart, data.symm⟩

/-- What adding edges between transitions has done to a map so far. -/
structure TransitionsAdded
    (manager : TopologyManager K)
    (round : K → K)
    (before map : GeneratedMap K) : Prop where
  nodes : map.nodes = before.nodes
  kept : ∀ first second edge, before.edge? first second = some edge →
    map.edge? first second = some edge
  added : ∀ first second edge, map.edge? first second = some edge →
    before.edge? first second = some edge ∨
    before.edge? first second = none ∧
    ∃ room ∈ before.nodes, room.2.type.isPassable = true ∧
      first ∈ transitionNeighbors before room.1 ∧
      second ∈ transitionNeighbors before room.1 ∧
      AddedFor manager round before room first second edge

variable
  {pair : Nat × Nat}

namespace TransitionsAdded

theorem refl
    (before : GeneratedMap K) :
    TransitionsAdded manager round before before where
  nodes := rfl
  kept := fun _ _ _ found => found
  added := fun _ _ _ found => .inl found

section

variable
  (state : TransitionsAdded manager round before map)

include state

theorem node?_eq
    (id : Nat) :
    map.node? id = before.node? id := by
  rw [NetworkGraph.node?, NetworkGraph.node?, state.nodes]

theorem nodePosition_eq
    (id : Nat) :
    nodePosition map id = nodePosition before id := by
  rw [nodePosition, nodePosition, state.node?_eq]

theorem mem_transitionNeighbors_iff
    (isRoom : room ∈ before.nodes)
    (isPassable : room.2.type.isPassable = true)
    {id : Nat} :
    id ∈ transitionNeighbors map room.1 ↔
      id ∈ transitionNeighbors before room.1 := by
  simp only [mem_transitionNeighbors, state.node?_eq]
  refine and_congr_left fun _ => ?_
  simp only [NetworkGraph.hasEdge, Option.isSome_iff_exists]
  constructor
  · rintro ⟨edge, found⟩
    rcases state.added room.1 id edge found with
      wasFound | ⟨-, _, -, -, isTransition, -⟩
    · exact ⟨edge, wasFound⟩
    · obtain ⟨node, isNode, hasType⟩ :=
        (mem_transitionNeighbors.mp isTransition).2
      have sameNode : some node = some room.2 :=
        isNode.symm.trans ((before.node?_eq_some_iff).mpr isRoom)
      rw [← Option.some.inj sameNode, hasType] at isPassable
      cases isPassable
  · rintro ⟨edge, found⟩
    exact ⟨edge, state.kept room.1 id edge found⟩

end

variable
  {next : GeneratedMap K}

theorem addTransitionEdge
    (state : TransitionsAdded manager round before map)
    (isRoom : room ∈ before.nodes)
    (isPassable : room.2.type.isPassable = true)
    (isFirst : pair.1 ∈ transitionNeighbors before room.1)
    (isSecond : pair.2 ∈ transitionNeighbors before room.1)
    (isNext : addTransitionEdge manager round room map pair = .ok next) :
    TransitionsAdded manager round before next := by
  rw [NavBim.addTransitionEdge] at isNext
  split at isNext
  · cases isNext
    exact state
  · rename_i noEdge
    obtain ⟨start, isStart, isNext⟩ := bind_eq_ok isNext
    obtain ⟨goal, isGoal, isNext⟩ := bind_eq_ok isNext
    cases isNext
    rw [state.nodePosition_eq] at isStart isGoal
    have wasNone : before.edge? pair.1 pair.2 = none := by
      rw [Option.eq_none_iff_forall_ne_some]
      intro edge wasFound
      apply noEdge
      rw [NetworkGraph.hasEdge, state.kept _ _ edge wasFound]
      rfl
    have addedHere : ∀ edge : GeneratedEdge K,
        edge.data = .transition
          (transitionEdge manager round room.1 room.2 start goal) →
        AddedFor manager round before room pair.1 pair.2 edge :=
      fun edge data => ⟨start, goal, isStart, isGoal, .inl data⟩
    constructor
    case nodes => exact state.nodes
    case kept =>
      intro first second edge wasFound
      rw [NetworkGraph.edge?_addEdge, if_neg]
      · exact state.kept first second edge wasFound
      · rintro (same | same)
        · cases same
          rw [wasNone] at wasFound
          cases wasFound
        · cases same
          rw [before.edge?_comm, wasNone] at wasFound
          cases wasFound
    case added =>
      intro first second edge found
      rw [NetworkGraph.edge?_addEdge] at found
      split at found
      · rename_i isPair
        cases found
        rcases isPair with same | same
        · cases same
          exact .inr ⟨wasNone, room, isRoom, isPassable, isFirst, isSecond,
            addedHere _ rfl⟩
        · cases same
          exact .inr ⟨before.edge?_comm _ _ ▸ wasNone, room, isRoom, isPassable,
            isSecond, isFirst, (addedHere _ rfl).symm⟩
      · exact state.added first second edge found

theorem hasEdge_next
    (isNext : NavBim.addTransitionEdge manager round room map pair = .ok next) :
    next.hasEdge pair.1 pair.2 = true ∧
      ∀ first second, map.hasEdge first second = true →
        next.hasEdge first second = true := by
  rw [NavBim.addTransitionEdge] at isNext
  split at isNext
  · rename_i isEdge
    cases isNext
    exact ⟨isEdge, fun _ _ => id⟩
  · obtain ⟨start, -, isNext⟩ := bind_eq_ok isNext
    obtain ⟨goal, -, isNext⟩ := bind_eq_ok isNext
    cases isNext
    simp only [NetworkGraph.hasEdge, NetworkGraph.edge?_addEdge]
    refine ⟨?_, ?_⟩
    · rw [if_pos (.inl rfl)]
      rfl
    · intro first second isEdge
      split
      · rfl
      · exact isEdge

theorem connectTransitions
    (state : TransitionsAdded manager round before map)
    (isRoom : room ∈ before.nodes)
    (isNext : connectTransitions manager round map room = .ok next) :
    TransitionsAdded manager round before next := by
  rw [NavBim.connectTransitions] at isNext
  split at isNext
  · rename_i isPassable
    refine loop_keeps ?_ state isNext
    intro pair isPair earlier later holds isLater
    have isMember := mem_of_mem_orderedPairs isPair
    simp only [state.mem_transitionNeighbors_iff isRoom isPassable] at isMember
    exact holds.addTransitionEdge isRoom isPassable isMember.1 isMember.2 isLater
  · cases isNext
    exact state

theorem hasEdge_connectTransitions
    (isNext : NavBim.connectTransitions manager round map room = .ok next)
    {first second : Nat}
    (isEdge : map.hasEdge first second = true) :
    next.hasEdge first second = true := by
  rw [NavBim.connectTransitions] at isNext
  split at isNext
  · refine loop_keeps (motive := fun map : GeneratedMap K =>
      map.hasEdge first second = true) ?_ isEdge isNext
    intro pair _ earlier later isEdge isLater
    exact (hasEdge_next isLater).2 first second isEdge
  · cases isNext
    exact isEdge

theorem hasEdge_of_connected
    (state : TransitionsAdded manager round before map)
    (isRoom : room ∈ before.nodes)
    (isPassable : room.2.type.isPassable = true)
    (isNext : NavBim.connectTransitions manager round map room = .ok next)
    {first second : Nat}
    (isFirst : first ∈ transitionNeighbors before room.1)
    (isSecond : second ∈ transitionNeighbors before room.1)
    (differ : first ≠ second) :
    next.hasEdge first second = true := by
  rw [← state.mem_transitionNeighbors_iff isRoom isPassable] at isFirst isSecond
  rw [NavBim.connectTransitions, if_pos isPassable] at isNext
  have connected := loop_achieves (motive := fun _ => True)
    (fun pair (map : GeneratedMap K) => map.hasEdge pair.1 pair.2 = true)
    (fun _ _ _ _ _ _ => trivial)
    (fun pair _ _ _ _ isLater => (hasEdge_next isLater).1)
    (fun pair _ other _ _ _ isEdge isLater =>
      (hasEdge_next isLater).2 other.1 other.2 isEdge)
    trivial isNext
  rcases mem_orderedPairs isFirst isSecond differ with isPair | isPair
  · exact connected _ isPair
  · have isEdge := connected _ isPair
    rwa [NetworkGraph.hasEdge, NetworkGraph.edge?_comm] at isEdge

end TransitionsAdded

theorem transitionsAdded_of_addTransitionEdges
    (isAfter : addTransitionEdges manager round before = .ok after) :
    TransitionsAdded manager round before after := by
  refine loop_keeps ?_ (.refl before) isAfter
  intro room isRoom earlier later state isLater
  exact state.connectTransitions isRoom isLater

theorem hasEdge_of_addTransitionEdges
    (isAfter : addTransitionEdges manager round before = .ok after)
    (isRoom : room ∈ before.nodes)
    (isPassable : room.2.type.isPassable = true)
    {first second : Nat}
    (isFirst : first ∈ transitionNeighbors before room.1)
    (isSecond : second ∈ transitionNeighbors before room.1)
    (differ : first ≠ second) :
    after.hasEdge first second = true := by
  refine loop_achieves
    (motive := TransitionsAdded manager round before)
    (fun room (map : GeneratedMap K) =>
      room ∈ before.nodes → room.2.type.isPassable = true →
        ∀ first ∈ transitionNeighbors before room.1,
        ∀ second ∈ transitionNeighbors before room.1, first ≠ second →
          map.hasEdge first second = true)
    ?_ ?_ ?_ (.refl before) isAfter room isRoom isRoom isPassable first isFirst
      second isSecond differ
  · intro room isRoom earlier later state isLater
    exact state.connectTransitions isRoom isLater
  · intro room isRoom earlier later state isLater _ isPassable first isFirst
      second isSecond differ
    exact state.hasEdge_of_connected isRoom isPassable isLater isFirst isSecond
      differ
  · intro room isRoom other earlier later state achieved isLater isOther
      isPassable first isFirst second isSecond differ
    exact TransitionsAdded.hasEdge_connectTransitions isLater
      (achieved isOther isPassable first isFirst second isSecond differ)

section Edge

variable {roomId : Nat} {node : GeneratedNode K} {first second : Position K}

@[simp] theorem transitionEdge_roomId :
    (transitionEdge manager round roomId node first second).roomId =
      roomId := by
  simp only [transitionEdge]
  split
  · split <;> rfl
  · rfl

theorem transitionEdge_vertical
    (isVertical : node.type = .stair ∨ node.type = .ramp) :
    (transitionEdge manager round roomId node first second).subtype =
        some node.type ∧
      (transitionEdge manager round roomId node first second).path =
        walkingPath manager round node first.z second.z := by
  simp only [transitionEdge, if_pos isVertical]
  split
  · rename_i noPath
    exact ⟨rfl, noPath.symm⟩
  · exact ⟨rfl, rfl⟩

end Edge

theorem AddedFor.hasOwnEdge
    {first second : Nat}
    {edge : GeneratedEdge K}
    (added : AddedFor manager round map room first second edge)
    (found : map.edge? first second = some edge) :
    HasOwnEdge manager round map room first second := by
  obtain ⟨start, goal, isStart, isGoal, data | data⟩ := added
  · refine ⟨edge, _, found, data, transitionEdge_roomId, fun isVertical => ?_⟩
    obtain ⟨subtype, path⟩ := transitionEdge_vertical isVertical
    exact ⟨subtype, start, goal, isStart, isGoal, .inl path⟩
  · refine ⟨edge, _, found, data, transitionEdge_roomId, fun isVertical => ?_⟩
    obtain ⟨subtype, path⟩ := transitionEdge_vertical isVertical
    exact ⟨subtype, start, goal, isStart, isGoal, .inr path⟩

theorem HasOwnEdge.room_unique
    {other : Nat × GeneratedNode K}
    {first second : Nat}
    (isOwn : HasOwnEdge manager round map room first second)
    (isOther : HasOwnEdge manager round map other first second)
    (isRoom : room ∈ map.nodes)
    (isOtherRoom : other ∈ map.nodes) :
    other = room := by
  obtain ⟨edge, data, found, isData, isId, -⟩ := isOwn
  obtain ⟨otherEdge, otherData, otherFound, isOtherData, isOtherId, -⟩ := isOther
  obtain rfl : otherEdge = edge := Option.some.inj (otherFound.symm.trans found)
  obtain rfl : otherData = data :=
    GeneratedEdgeData.transition.inj (isOtherData.symm.trans isData)
  exact List.inj_on_of_nodup_map map.nodesDistinct isOtherRoom isRoom
    (isOtherId.symm.trans isId)

/-- Every room has an edge of its own between any two of its transitions. -/
def RoomsHaveOwnEdges
    (manager : TopologyManager K)
    (round : K → K)
    (map : GeneratedMap K) : Prop :=
  ∀ room ∈ map.nodes, room.2.type.isPassable = true →
    ∀ first ∈ transitionNeighbors map room.1,
    ∀ second ∈ transitionNeighbors map room.1, first ≠ second →
      HasOwnEdge manager round map room first second

theorem roomsHaveOwnEdges_iff
    (noTransitionEdges : HasNoTransitionEdges before)
    (isAfter : addTransitionEdges manager round before = .ok after) :
    RoomsHaveOwnEdges manager round after ↔ SharesNoPair before := by
  have state := transitionsAdded_of_addTransitionEdges isAfter
  constructor
  · intro haveOwn room isRoom isPassable first isFirst second isSecond differ
    have own : ∀ other ∈ before.nodes, other.2.type.isPassable = true →
        first ∈ transitionNeighbors before other.1 →
        second ∈ transitionNeighbors before other.1 →
        HasOwnEdge manager round after other first second := by
      intro other isOther otherPassable firstOfOther secondOfOther
      rw [← state.mem_transitionNeighbors_iff isOther otherPassable]
        at firstOfOther secondOfOther
      exact haveOwn other (state.nodes ▸ isOther) otherPassable first
        firstOfOther second secondOfOther differ
    have roomOwn := own room isRoom isPassable isFirst isSecond
    refine ⟨?_, ?_⟩
    · rw [NetworkGraph.hasEdge, Option.isSome_eq_false_iff,
        Option.isNone_iff_eq_none, Option.eq_none_iff_forall_ne_some]
      intro edge wasFound
      obtain ⟨found, data, isFound, isData, -⟩ := roomOwn
      obtain rfl : edge = found := Option.some.inj
        ((state.kept first second edge wasFound).symm.trans isFound)
      rcases noTransitionEdges first second edge wasFound with isFloor | isRoom
      · cases isData.symm.trans isFloor
      · cases isData.symm.trans isRoom
    · intro other isOther otherPassable firstOfOther secondOfOther
      exact roomOwn.room_unique
        (own other isOther otherPassable firstOfOther secondOfOther)
        (state.nodes ▸ isRoom) (state.nodes ▸ isOther)
  · intro sharesNone room isRoom isPassable first isFirst second isSecond differ
    rw [state.nodes] at isRoom
    rw [state.mem_transitionNeighbors_iff isRoom isPassable] at isFirst isSecond
    obtain ⟨noEdge, isOnlyRoom⟩ :=
      sharesNone room isRoom isPassable first isFirst second isSecond differ
    obtain ⟨edge, found⟩ := Option.isSome_iff_exists.mp
      (hasEdge_of_addTransitionEdges isAfter isRoom isPassable isFirst isSecond
        differ)
    rcases state.added first second edge found with
      wasFound | ⟨-, other, isOther, otherPassable, firstOfOther, secondOfOther,
        added⟩
    · rw [NetworkGraph.hasEdge, wasFound] at noEdge
      cases noEdge
    · obtain rfl := isOnlyRoom other isOther otherPassable firstOfOther
        secondOfOther
      obtain ⟨start, goal, isStart, isGoal, data⟩ := added
      rw [← state.nodePosition_eq] at isStart isGoal
      exact AddedFor.hasOwnEdge ⟨start, goal, isStart, isGoal, data⟩ found

section Success

omit [Field K] [SquareRoot K] [LinearOrder K] [FloorSemiring K] in
theorem nodePosition_succeeds
    {roomId id : Nat}
    (positions : TransitionsHavePositions map)
    (isNeighbor : id ∈ transitionNeighbors map roomId) :
    ∃ position, nodePosition map id = .ok position := by
  obtain ⟨node, isNode, isTransition⟩ := (mem_transitionNeighbors.mp isNeighbor).2
  have hasPosition : node.attributes.position.isSome = true :=
    positions (id, node) (map.node?_eq_some_iff.mp isNode) isTransition
  obtain ⟨position, isPosition⟩ := Option.isSome_iff_exists.mp hasPosition
  exact ⟨position, by simp only [nodePosition, isNode, isPosition]⟩

theorem TransitionsAdded.addTransitionEdge_succeeds
    (state : TransitionsAdded manager round before map)
    (positions : TransitionsHavePositions before)
    (isRoom : room ∈ before.nodes)
    (isPassable : room.2.type.isPassable = true)
    (isFirst : pair.1 ∈ transitionNeighbors before room.1)
    (isSecond : pair.2 ∈ transitionNeighbors before room.1) :
    ∃ next, NavBim.addTransitionEdge manager round room map pair = .ok next ∧
      TransitionsAdded manager round before next := by
  obtain ⟨start, isStart⟩ := nodePosition_succeeds positions isFirst
  obtain ⟨goal, isGoal⟩ := nodePosition_succeeds positions isSecond
  rw [← state.nodePosition_eq] at isStart isGoal
  have succeeds :
      ∃ next, NavBim.addTransitionEdge manager round room map pair =
        .ok next := by
    rw [NavBim.addTransitionEdge]
    split
    · exact ⟨map, rfl⟩
    · rw [isStart, isGoal]
      exact ⟨_, rfl⟩
  obtain ⟨next, isNext⟩ := succeeds
  exact ⟨next, isNext,
    state.addTransitionEdge isRoom isPassable isFirst isSecond isNext⟩

theorem addTransitionEdges_succeeds
    (positions : TransitionsHavePositions before) :
    ∃ after, addTransitionEdges manager round before = .ok after := by
  have succeeds : ∀ room ∈ before.nodes, ∀ map,
      TransitionsAdded manager round before map →
      ∃ next, connectTransitions manager round map room = .ok next ∧
        TransitionsAdded manager round before next := by
    intro room isRoom map state
    rw [connectTransitions]
    split
    · rename_i isPassable
      refine loop_succeeds ?_ state
      intro pair isPair earlier holds
      have isMember := mem_of_mem_orderedPairs isPair
      simp only [state.mem_transitionNeighbors_iff isRoom isPassable] at isMember
      exact holds.addTransitionEdge_succeeds positions isRoom isPassable
        isMember.1 isMember.2
    · exact ⟨map, rfl, state⟩
  obtain ⟨after, isAfter, -⟩ := loop_succeeds succeeds (.refl before)
  exact ⟨after, isAfter⟩

end Success

/-- The map of a building is generated, and every room has an edge of its own
between any two of its transitions exactly if no two rooms have two transitions
in common, and no two transitions of a room were adjacent before. -/
theorem rooms_have_own_edges_iff
    (manager : TopologyManager K)
    (round : K → K)
    (building : Building K)
    (before : GeneratedMap K)
    (isConverted : convertToIntegerIds
      (removeUnnecessaryNodes (buildTopologyGraph building)) = .ok before) :
    ∃ after,
      generateTopologicalMap manager round (buildTopologyGraph building) =
        .ok after ∧
      (RoomsHaveOwnEdges manager round after ↔ SharesNoPair before) := by
  have positions := convertToIntegerIds_positions
    (removeUnnecessaryNodes_positions (buildTopologyGraph_positions building))
    isConverted
  obtain ⟨after, isAfter⟩ := addTransitionEdges_succeeds positions
  refine ⟨after, ?_, ?_⟩
  · rw [generateTopologicalMap, isConverted]
    exact isAfter
  · exact roomsHaveOwnEdges_iff (convertToIntegerIds_edges isConverted) isAfter

end Added

/-- A room on the only floor. -/
def plainRoom
    (id : String) : BuildingRoom ℚ where
  kind := .detectedRoom
  id := id
  name := id
  floor := some ["floor"]
  position := some ⟨0, 0, 0⟩
  hasShape := true
  containedIn := none

/-- A door between rooms of the only floor. -/
def plainDoor
    (ifcGuid : String)
    (room : List String)
    (position : Position ℚ) : BuildingElement ℚ where
  ifcGuid := ifcGuid
  elementType := .ifcDoor
  floor := ["floor"]
  room := room
  position := some position
  hasShape := true
  stairRamp := none

/-- A hall with two doors to the given rooms. -/
def hallBuilding
    (first second : String) : Building ℚ where
  elements :=
    [plainDoor "door1" ["hall", first] ⟨0, 0, 0⟩,
      plainDoor "door2" ["hall", second] ⟨3, 4, 0⟩]
  floors := [⟨"floor", false, 0, 3, none⟩]
  rooms := [plainRoom "hall", plainRoom "salon", plainRoom "store"]

/-- If both doors lead to the salon, the edge between them belongs to the hall,
and the salon has none. -/
theorem salon_has_no_own_edge :
    ∃ after,
      generateTopologicalMap ⟨3, 1 / 20⟩ id
        (buildTopologyGraph (hallBuilding "salon" "salon")) = .ok after ∧
      ¬ RoomsHaveOwnEdges (⟨3, 1 / 20⟩ : TopologyManager ℚ) id after := by
  have facts :
      (generateTopologicalMap (⟨3, 1 / 20⟩ : TopologyManager ℚ) id
        (buildTopologyGraph (hallBuilding "salon" "salon"))).map
        (fun after => ((after.node? 2).map GeneratedNode.type,
          transitionNeighbors after 2,
          (after.edge? 4 5).map GeneratedEdge.data)) =
        .ok (some .room, [4, 5],
          some (.transition ⟨5, -1, 5, -1, [], 1, none⟩)) := by
    decide +kernel
  cases generated : generateTopologicalMap (⟨3, 1 / 20⟩ : TopologyManager ℚ) id
      (buildTopologyGraph (hallBuilding "salon" "salon")) with
  | error what =>
      rw [generated] at facts
      cases facts
  | ok after =>
      rw [generated] at facts
      obtain ⟨isRoom, isNeighbors, isEdge⟩ : _ ∧ _ ∧ _ := by
        simpa only [Prod.mk.injEq] using Except.ok.inj facts
      refine ⟨after, rfl, fun haveOwn => ?_⟩
      obtain ⟨salon, isSalon, hasType⟩ := Option.map_eq_some_iff.mp isRoom
      obtain ⟨edge, data, found, isData, isId, -⟩ := haveOwn (2, salon)
        (after.node?_eq_some_iff.mp isSalon) (by rw [hasType]; rfl)
        4 (by simp [isNeighbors]) 5 (by simp [isNeighbors]) (by simp)
      rw [found, Option.map_some, isData] at isEdge
      cases isEdge
      cases isId

/-- If the doors lead to two rooms, every room has its own edges. -/
theorem hall_has_own_edge :
    ∃ before after,
      convertToIntegerIds (removeUnnecessaryNodes
        (buildTopologyGraph (hallBuilding "salon" "store"))) = .ok before ∧
      generateTopologicalMap ⟨3, 1 / 20⟩ id
        (buildTopologyGraph (hallBuilding "salon" "store")) = .ok after ∧
      RoomsHaveOwnEdges (⟨3, 1 / 20⟩ : TopologyManager ℚ) id after := by
  have facts :
      (convertToIntegerIds (removeUnnecessaryNodes
        (buildTopologyGraph (hallBuilding "salon" "store")))).map
        (fun before => decide (SharesNoPair before)) = .ok true := by
    decide +kernel
  cases isConverted : convertToIntegerIds (removeUnnecessaryNodes
      (buildTopologyGraph (hallBuilding "salon" "store"))) with
  | error what =>
      rw [isConverted] at facts
      cases facts
  | ok before =>
      rw [isConverted] at facts
      have sharesNone := of_decide_eq_true (Except.ok.inj facts)
      obtain ⟨after, generated, haveOwn⟩ := rooms_have_own_edges_iff
        (⟨3, 1 / 20⟩ : TopologyManager ℚ) id _ before isConverted
      exact ⟨before, after, rfl, generated, haveOwn.mpr sharesNone⟩

end NavBim
