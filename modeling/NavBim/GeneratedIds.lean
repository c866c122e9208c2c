import NavBim.NetworkGraphReport
import NavBim.TransitionEdges

namespace NavBim

/-!
# The ids of the topological map

The kept nodes are numbered in their order, and so are the edges between them.
An edge between two transitions gets the number of edges as its id.  So the ids
of the edges are their places.
-/

section Kept

variable
  {K : Type}
  {topologicalMap : TopologyGraph K}

/-- The ids of the nodes that are kept. -/
def keptIds
    (topologicalMap : TopologyGraph K) : List String :=
  (topologicalMap.nodes.filter fun node => isNecessary node.2.type).map
    Prod.fst

theorem nodup_keptIds :
    (keptIds topologicalMap).Nodup :=
  topologicalMap.nodesDistinct.sublist (List.filter_sublist.map Prod.fst)

theorem hasNode_of_keptIds
    {id : String}
    (isKept : id ∈ keptIds topologicalMap) :
    topologicalMap.hasNode id = true := by
  obtain ⟨node, isNode, rfl⟩ := List.mem_map.mp isKept
  exact decide_eq_true (List.mem_map_of_mem (List.mem_of_mem_filter isNode))

variable [Field K]

theorem convertNode_isSome
    {oldId : String}
    {node : TopologyNode K}
    {converted : Option (GeneratedNode K)}
    (isConverted : convertNode topologicalMap oldId node = .ok converted) :
    converted.isSome = isNecessary node.type := by
  have isSome {value : Except String (GeneratedNode K)}
      (isOk : some <$> value = .ok converted) : converted.isSome = true := by
    cases value with
    | error what =>
        cases isOk
    | ok found =>
        cases isOk
        rfl
  rw [convertNode] at isConverted
  split at isConverted
  all_goals
    rename_i isType
    rw [isType]
    first
    | exact isSome isConverted
    | cases isConverted
      rfl

/-- The nodes with these ids have been converted. -/
structure Numbered
    (conversion : Conversion K)
    (ids : List String) : Prop where
  mapping : conversion.idMapping = ids.zipIdx
  next : conversion.newNodeId = ids.length
  nodes : conversion.newGraph.nodes.map Prod.fst = List.range ids.length

omit [Field K] in
/-- The next node gets the next number. -/
theorem Numbered.convert
    {state : Conversion K}
    {ids : List String}
    (numbered : Numbered state ids)
    (id : String)
    (newNode : GeneratedNode K) :
    Numbered
      { newGraph := state.newGraph.addNode state.newNodeId fun _ => newNode
        idMapping := state.idMapping ++ [(id, state.newNodeId)]
        newNodeId := state.newNodeId + 1 }
      (ids ++ [id]) where
  mapping := by
    rw [List.zipIdx_append, ← numbered.mapping, numbered.next, Nat.zero_add]
    rfl
  next := by
    rw [List.length_append, numbered.next]
    rfl
  nodes := by
    have isNew : ids.length ∉ state.newGraph.nodes.map Prod.fst := by
      rw [numbered.nodes]
      exact List.not_mem_range_self
    rw [List.length_append, List.length_singleton, List.range_succ,
      ← numbered.nodes, numbered.next]
    exact (NetworkGraph.insertNode_ids _ _ _).trans (if_neg isNew)

theorem numbered_foldlM
    {ids : List String}
    {nodes : List (String × TopologyNode K)}
    {state conversion : Conversion K}
    (numbered : Numbered state ids)
    (run : nodes.foldlM
      (fun conversion node => do
        match ← convertNode topologicalMap node.1 node.2 with
        | some newNode =>
            pure
              { newGraph := conversion.newGraph.addNode conversion.newNodeId
                  fun _ => newNode
                idMapping := conversion.idMapping ++
                  [(node.1, conversion.newNodeId)]
                newNodeId := conversion.newNodeId + 1 }
        | none => pure conversion) state = .ok conversion) :
    Numbered conversion (ids ++
      (nodes.filter fun node => isNecessary node.2.type).map Prod.fst) := by
  induction nodes generalizing ids state with
  | nil =>
      cases run
      rw [List.filter_nil, List.map_nil, List.append_nil]
      exact numbered
  | cons node rest inductionHypothesis =>
      rw [List.foldlM_cons] at run
      obtain ⟨next, isNext, continues⟩ := bind_eq_ok run
      obtain ⟨converted, isConverted, isNext⟩ := bind_eq_ok isNext
      have isKept : isNecessary node.2.type = converted.isSome :=
        (convertNode_isSome isConverted).symm
      cases converted with
      | none =>
          cases isNext
          rw [List.filter_cons, isKept]
          exact inductionHypothesis numbered continues
      | some newNode =>
          cases isNext
          rw [List.filter_cons, isKept, Option.isSome_some, if_pos rfl,
            List.map_cons, List.append_cons]
          exact inductionHypothesis (numbered.convert node.1 newNode) continues

theorem numbered_convertNodes
    {conversion : Conversion K}
    (converted : convertNodes topologicalMap = .ok conversion) :
    Numbered conversion (keptIds topologicalMap) := by
  have starts : Numbered (⟨.empty, [], 0⟩ : Conversion K) [] :=
    ⟨rfl, rfl, rfl⟩
  exact numbered_foldlM starts converted

end Kept

section Lookups

variable
  {Id : Type}
  [DecidableEq Id]
  {ids : List Id}

theorem lookup_zipIdx_iff
    (distinct : ids.Nodup)
    (start : Nat)
    {id : Id}
    {number : Nat} :
    (ids.zipIdx start).lookup id = some number ↔
      start ≤ number ∧ ids[number - start]? = some id := by
  induction ids generalizing start with
  | nil =>
      exact iff_of_false nofun (fun ⟨_, isId⟩ => nomatch isId)
  | cons head rest inductionHypothesis =>
      rw [List.nodup_cons] at distinct
      rw [List.zipIdx_cons, List.lookup_cons]
      by_cases isHead : id = head
      · rw [beq_iff_eq.mpr isHead, isHead]
        dsimp only
        rw [Option.some_inj]
        constructor
        · rintro rfl
          rw [Nat.sub_self]
          exact ⟨le_refl _, rfl⟩
        · rintro ⟨le, isId⟩
          by_contra differ
          have later : number - start = (number - start - 1) + 1 := by
            omega
          rw [later, List.getElem?_cons_succ] at isId
          exact distinct.1 (List.mem_of_getElem? isId)
      · rw [beq_eq_false_iff_ne.mpr isHead]
        dsimp only
        rw [inductionHypothesis distinct.2]
        constructor
        · rintro ⟨le, isId⟩
          have later : number - start = (number - (start + 1)) + 1 := by
            omega
          rw [later, List.getElem?_cons_succ]
          exact ⟨by omega, isId⟩
        · rintro ⟨le, isId⟩
          have differ : number ≠ start := by
            rintro rfl
            rw [Nat.sub_self, List.getElem?_cons_zero] at isId
            exact isHead (Option.some.inj isId).symm
          have later : number - start = (number - (start + 1)) + 1 := by
            omega
          rw [later, List.getElem?_cons_succ] at isId
          exact ⟨by omega, isId⟩

end Lookups

section Edges

variable
  {K : Type}
  {idMapping : List (String × Nat)}

/-- The edge between the new ids, if both ends have one. -/
def renumbered
    (idMapping : List (String × Nat))
    (edge : (String × String) × TopologyEdge) :
    Option ((Nat × Nat) × TopologyEdge) :=
  match idMapping.lookup edge.1.1, idMapping.lookup edge.1.2 with
  | some newFirst, some newSecond => some ((newFirst, newSecond), edge.2)
  | _, _ => none

theorem renumbered_eq_some_iff
    {edge : (String × String) × TopologyEdge}
    {new : (Nat × Nat) × TopologyEdge} :
    renumbered idMapping edge = some new ↔
      idMapping.lookup edge.1.1 = some new.1.1 ∧
        idMapping.lookup edge.1.2 = some new.1.2 ∧ edge.2 = new.2 := by
  obtain ⟨⟨first, second⟩, type⟩ := new
  rw [renumbered]
  split
  · rename_i newFirst newSecond isFirst isSecond
    simp only [isFirst, isSecond, Option.some.injEq, Prod.mk.injEq, and_assoc]
  · rename_i missing
    exact iff_of_false nofun fun ⟨isFirst, isSecond, _⟩ =>
      missing _ _ isFirst isSecond

theorem convertEdge_renumbered
    (state : GeneratedMap K × Nat)
    (edge : (String × String) × TopologyEdge) :
    convertEdge idMapping state edge =
      (renumbered idMapping edge).elim state fun new =>
        (state.1.addEdge new.1.1 new.1.2 ⟨state.2, new.2.generated⟩,
          state.2 + 1) := by
  rw [convertEdge, renumbered]
  cases idMapping.lookup edge.1.1 with
  | none =>
      rfl
  | some newFirst =>
      cases idMapping.lookup edge.1.2 with
      | none =>
          rfl
      | some newSecond =>
          rfl

/-- The edge of the topological map with a number. -/
def generatedEdge
    (edge : ((Nat × Nat) × TopologyEdge) × Nat) :
    (Nat × Nat) × GeneratedEdge K :=
  (edge.1.1, ⟨edge.2, edge.1.2.generated⟩)

/-- Edges with ends of their own are added in their order, and each one gets its
place as its id. -/
theorem edges_convertEdge_foldl
    (edges : List ((String × String) × TopologyEdge))
    (state : GeneratedMap K × Nat)
    (isPlace : state.2 = state.1.edges.length)
    (apart : (state.1.edges.map Prod.fst ++
        (edges.filterMap (renumbered idMapping)).map Prod.fst).Pairwise
      fun first second => ¬SameEnds first second) :
    (edges.foldl (convertEdge idMapping) state).1.nodes = state.1.nodes ∧
      (edges.foldl (convertEdge idMapping) state).1.edges =
        state.1.edges ++
          ((edges.filterMap (renumbered idMapping)).zipIdx state.2).map
            generatedEdge := by
  induction edges generalizing state with
  | nil =>
      exact ⟨rfl, (List.append_nil _).symm⟩
  | cons edge rest inductionHypothesis =>
      rw [List.foldl_cons]
      rw [convertEdge_renumbered]
      cases isNew : renumbered idMapping edge with
      | none =>
          rw [List.filterMap_cons_none isNew] at apart ⊢
          exact inductionHypothesis state isPlace apart
      | some new =>
          rw [List.filterMap_cons_some isNew, List.map_cons] at apart
          have newEnds : ∀ entry ∈ state.1.edges,
              ¬SameEnds entry.1 (new.1.1, new.1.2) := by
            intro entry isEntry
            exact (List.pairwise_append.mp apart).2.2 entry.1
              (List.mem_map_of_mem isEntry) new.1 List.mem_cons_self
          have added := NetworkGraph.edges_addEdge newEnds
            (⟨state.2, new.2.generated⟩ : GeneratedEdge K)
          rw [List.append_cons] at apart
          obtain ⟨nodes, edges⟩ := inductionHypothesis
            (state.1.addEdge new.1.1 new.1.2 ⟨state.2, new.2.generated⟩,
              state.2 + 1)
            (by
              rw [added, List.length_append, isPlace]
              rfl)
            (by
              rw [added, List.map_append]
              exact apart)
          rw [List.filterMap_cons_some isNew, List.zipIdx_cons, List.map_cons,
            List.append_cons]
          refine ⟨nodes, edges.trans ?_⟩
          rw [added]
          rfl

/-- Different ends stay different. -/
theorem renumbered_apart
    {ids : List String}
    (distinct : ids.Nodup)
    {edges : List ((String × String) × TopologyEdge)}
    (apart : edges.Pairwise fun first second =>
      ¬SameEnds first.1 second.1) :
    ((edges.filterMap (renumbered ids.zipIdx)).map Prod.fst).Pairwise
      fun first second => ¬SameEnds first second := by
  have sameId {first second : String} {number : Nat}
      (isFirst : ids.zipIdx.lookup first = some number)
      (isSecond : ids.zipIdx.lookup second = some number) :
      first = second := by
    rw [lookup_zipIdx_iff distinct] at isFirst isSecond
    exact Option.some.inj (isFirst.2.symm.trans isSecond.2)
  rw [List.pairwise_map]
  refine apart.filterMap _ ?_
  intro first second different newFirst isFirst newSecond isSecond same
  rw [renumbered_eq_some_iff] at isFirst isSecond
  apply different
  cases same with
  | inl same =>
      rw [same] at isFirst
      exact .inl (Prod.ext (sameId isFirst.1 isSecond.1)
        (sameId isFirst.2.1 isSecond.2.1))
  | inr same =>
      rw [same] at isFirst
      exact .inr (Prod.ext (sameId isFirst.1 isSecond.2.1)
        (sameId isFirst.2.1 isSecond.1))

theorem renumbered_sameEnds_iff
    {ids : List String}
    (distinct : ids.Nodup)
    {i j : Nat}
    {first second : String}
    (isFirst : ids[i]? = some first)
    (isSecond : ids[j]? = some second)
    {edges : List ((String × String) × TopologyEdge)}
    {type : TopologyEdge} :
    (∃ new ∈ edges.filterMap (renumbered ids.zipIdx),
      SameEnds new.1 (i, j) ∧ new.2 = type) ↔
        ∃ edge ∈ edges, SameEnds edge.1 (first, second) ∧ edge.2 = type := by
  have lookup_iff {id : String} {number : Nat} :
      ids.zipIdx.lookup id = some number ↔ ids[number]? = some id :=
    (lookup_zipIdx_iff distinct 0).trans (and_iff_right (Nat.zero_le _))
  simp only [List.mem_filterMap, renumbered_eq_some_iff, lookup_iff]
  constructor
  · rintro ⟨new, ⟨edge, isEdge, isNewFirst, isNewSecond, sameType⟩, same, isType⟩
    refine ⟨edge, isEdge, ?_, sameType.trans isType⟩
    cases same with
    | inl same =>
        rw [same] at isNewFirst isNewSecond
        exact .inl (Prod.ext
          (Option.some.inj (isNewFirst.symm.trans isFirst))
          (Option.some.inj (isNewSecond.symm.trans isSecond)))
    | inr same =>
        rw [same] at isNewFirst isNewSecond
        exact .inr (Prod.ext
          (Option.some.inj (isNewFirst.symm.trans isSecond))
          (Option.some.inj (isNewSecond.symm.trans isFirst)))
  · rintro ⟨edge, isEdge, same, isType⟩
    cases same with
    | inl same =>
        rw [Prod.ext_iff] at same
        exact ⟨((i, j), type),
          ⟨edge, isEdge, same.1 ▸ isFirst, same.2 ▸ isSecond, isType⟩,
          .inl rfl, rfl⟩
    | inr same =>
        rw [Prod.ext_iff] at same
        exact ⟨((j, i), type),
          ⟨edge, isEdge, same.1 ▸ isSecond, same.2 ▸ isFirst, isType⟩,
          .inr rfl, rfl⟩

end Edges

section Converted

variable
  {K : Type}
  {topologicalMap : TopologyGraph K}

/-- The nodes have their places as ids, the edges have theirs, and there is an
edge between two nodes if there was one of the same type. -/
structure Renumbered
    (topologicalMap : TopologyGraph K)
    (converted : GeneratedMap K) : Prop where
  nodeIds :
    converted.nodes.map Prod.fst =
      List.range (keptIds topologicalMap).length
  edgeIds :
    converted.edges.map (fun edge => edge.2.id) =
      List.range converted.edges.length
  adjacent :
    ∀ (i j : Nat),
      ∀ first ∈ (keptIds topologicalMap)[i]?,
      ∀ second ∈ (keptIds topologicalMap)[j]?, ∀ type,
        (∃ edge, converted.edge? i j = some edge ∧
            edge.data = type.generated) ↔
          topologicalMap.edge? first second = some type

theorem generated_injective
    {type other : TopologyEdge}
    (same : type.generated (K := K) = other.generated) :
    type = other := by
  cases type with
  | floor =>
      cases other with
      | floor =>
          rfl
      | room =>
          exact nomatch same
  | room =>
      cases other with
      | floor =>
          exact nomatch same
      | room =>
          rfl

variable [Field K]

theorem renumbered_convertToIntegerIds
    {converted : GeneratedMap K}
    (isConverted : convertToIntegerIds topologicalMap = .ok converted) :
    Renumbered topologicalMap converted := by
  obtain ⟨conversion, nodesConverted, isConverted⟩ := bind_eq_ok isConverted
  cases isConverted
  have numbered := numbered_convertNodes nodesConverted
  have noEdges := convertNodes_edges nodesConverted
  have distinct : (keptIds topologicalMap).Nodup := nodup_keptIds
  have apart : (conversion.newGraph.edges.map Prod.fst ++
      (topologicalMap.reportedEdges.filterMap
        (renumbered conversion.idMapping)).map Prod.fst).Pairwise
        fun first second => ¬SameEnds first second := by
    rw [noEdges, numbered.mapping]
    exact renumbered_apart distinct NetworkGraph.reportedEdges_pairwise
  obtain ⟨nodes, edges⟩ := edges_convertEdge_foldl
    topologicalMap.reportedEdges (conversion.newGraph, 0)
    (by rw [noEdges]; rfl) apart
  rw [noEdges, List.nil_append, numbered.mapping] at edges
  rw [convertEdges, numbered.mapping]
  rw [numbered.mapping] at nodes
  constructor
  case nodeIds =>
    rw [nodes]
    exact numbered.nodes
  case edgeIds =>
    rw [edges, List.map_map, List.length_map, List.length_zipIdx,
      List.range_eq_range']
    exact List.zipIdx_map_snd 0 _
  case adjacent =>
    intro i j first isFirst second isSecond type
    rw [← NetworkGraph.reportedEdges_iff
        (hasNode_of_keptIds (List.mem_of_getElem? isFirst))
        (hasNode_of_keptIds (List.mem_of_getElem? isSecond)),
      ← renumbered_sameEnds_iff distinct isFirst isSecond]
    simp only [NetworkGraph.edge?_eq_some_iff, edges]
    constructor
    · rintro ⟨edge, ⟨entry, isEntry, same, rfl⟩, isType⟩
      obtain ⟨call, isCall, rfl⟩ := List.mem_map.mp isEntry
      exact ⟨call.1, List.fst_mem_of_mem_zipIdx isCall, same,
        generated_injective isType⟩
    · rintro ⟨new, isNew, same, rfl⟩
      rw [← List.zipIdx_map_fst 0 (List.filterMap _ _)] at isNew
      obtain ⟨call, isCall, rfl⟩ := List.mem_map.mp isNew
      exact ⟨_, ⟨_, List.mem_map_of_mem isCall, same, rfl⟩, rfl⟩

end Converted

section Transitions

variable
  {K : Type}
  [Field K]
  [SquareRoot K]
  [LinearOrder K]
  [FloorSemiring K]
  {manager : TopologyManager K}
  {round : K → K}
  {map next : GeneratedMap K}

/-- The ids of the edges are their places. -/
def PlacesAsIds
    (map : GeneratedMap K) : Prop :=
  map.edges.map (fun edge => edge.2.id) = List.range map.edges.length

theorem PlacesAsIds.addTransitionEdge
    (places : PlacesAsIds map)
    {room : Nat × GeneratedNode K}
    {pair : Nat × Nat}
    (isNext : addTransitionEdge manager round room map pair = .ok next) :
    PlacesAsIds next := by
  rw [NavBim.addTransitionEdge] at isNext
  split at isNext
  · cases isNext
    exact places
  · case isFalse noEdge =>
    obtain ⟨start, -, isNext⟩ := bind_eq_ok isNext
    obtain ⟨goal, -, isNext⟩ := bind_eq_ok isNext
    cases isNext
    have isNew : ∀ entry ∈ map.edges,
        ¬SameEnds entry.1 (pair.1, pair.2) := by
      intro entry isEntry same
      apply noEdge
      rw [NetworkGraph.hasEdge,
        NetworkGraph.edge?_eq_some_iff.mpr ⟨entry, isEntry, same, rfl⟩]
      rfl
    rw [PlacesAsIds, NetworkGraph.edges_addEdge isNew, List.map_append,
      List.length_append, places, List.map_singleton, List.length_singleton,
      List.range_succ]

theorem PlacesAsIds.addTransitionEdges
    (places : PlacesAsIds map)
    (isNext : addTransitionEdges manager round map = .ok next) :
    PlacesAsIds next := by
  refine loop_keeps ?_ places isNext
  intro room _ earlier later places isLater
  rw [connectTransitions] at isLater
  split at isLater
  · refine loop_keeps ?_ places isLater
    intro pair _ state following places isFollowing
    exact places.addTransitionEdge isFollowing
  · cases isLater
    exact places

theorem AddedFor.leadsThrough
    {room : Nat × GeneratedNode K}
    {first second : Nat}
    {edge : GeneratedEdge K}
    (added : AddedFor manager round map room first second edge) :
    ∃ data, edge.data = .transition data ∧ data.roomId = room.1 := by
  obtain ⟨start, goal, -, -, isData⟩ := added
  cases isData with
  | inl isData =>
      exact ⟨_, isData, transitionEdge_roomId⟩
  | inr isData =>
      exact ⟨_, isData, transitionEdge_roomId⟩

/-- Ids are places, kept nodes have the edges they had, and an edge between two
transitions leads through a room, stair or ramp next to both. -/
structure IdsConsistent
    (topologicalMap : TopologyGraph K)
    (generated : GeneratedMap K) : Prop
    extends Renumbered topologicalMap generated where
  rooms :
    ∀ first second edge data,
      generated.edge? first second = some edge →
        edge.data = .transition data →
          ∃ room, generated.node? data.roomId = some room ∧
            room.type.isPassable = true ∧
            generated.hasEdge data.roomId first = true ∧
            generated.hasEdge data.roomId second = true

/-- The ids of a generated map are unique and consistent. -/
theorem idsConsistent_of_generated
    (manager : TopologyManager K)
    (round : K → K)
    (topologicalMap : TopologyGraph K)
    (converted generated : GeneratedMap K)
    (isConverted : convertToIntegerIds topologicalMap = .ok converted)
    (isGenerated : addTransitionEdges manager round converted =
      .ok generated) :
    IdsConsistent topologicalMap generated := by
  have renumbered := renumbered_convertToIntegerIds isConverted
  have noTransitions := convertToIntegerIds_edges isConverted
  have state := transitionsAdded_of_addTransitionEdges isGenerated
  have places : PlacesAsIds converted := renumbered.edgeIds
  constructor
  case toRenumbered =>
    constructor
    case nodeIds =>
      rw [state.nodes]
      exact renumbered.nodeIds
    case edgeIds =>
      exact places.addTransitionEdges isGenerated
    case adjacent =>
      intro i j first isFirst second isSecond type
      rw [← renumbered.adjacent i j first isFirst second isSecond type]
      constructor
      · rintro ⟨edge, isEdge, isType⟩
        cases state.added i j edge isEdge with
        | inl wasEdge =>
            exact ⟨edge, wasEdge, isType⟩
        | inr isAdded =>
            obtain ⟨-, room, -, -, -, -, added⟩ := isAdded
            obtain ⟨data, isData, -⟩ := added.leadsThrough
            cases type with
            | floor =>
                exact nomatch isType.symm.trans isData
            | room =>
                exact nomatch isType.symm.trans isData
      · rintro ⟨edge, wasEdge, isType⟩
        exact ⟨edge, state.kept i j edge wasEdge, isType⟩
  case rooms =>
    intro first second edge data isEdge isData
    cases state.added first second edge isEdge with
    | inl wasEdge =>
        cases noTransitions first second edge wasEdge with
        | inl isFloor =>
            exact nomatch isData.symm.trans isFloor
        | inr isRoom =>
            exact nomatch isData.symm.trans isRoom
    | inr isAdded =>
        obtain ⟨-, room, isRoom, isPassable, isFirst, isSecond, added⟩ := isAdded
        obtain ⟨own, isOwn, isId⟩ := added.leadsThrough
        obtain rfl : data = own :=
          GeneratedEdgeData.transition.inj (isData.symm.trans isOwn)
        have isNext : ∀ id, id ∈ transitionNeighbors converted room.1 →
            generated.hasEdge room.1 id = true := by
          intro id isNeighbor
          have wasNext := (mem_transitionNeighbors.mp isNeighbor).1
          obtain ⟨wasEdge, isWasEdge⟩ := Option.isSome_iff_exists.mp wasNext
          rw [NetworkGraph.hasEdge, state.kept room.1 id wasEdge isWasEdge]
          rfl
        rw [isId]
        refine ⟨room.2, ?_, isPassable, isNext _ isFirst, isNext _ isSecond⟩
        rw [state.node?_eq, NetworkGraph.node?_eq_some_iff]
        exact isRoom

end Transitions

/-- The ids of a map with three rooms and two doors. -/
theorem hall_idsConsistent :
    ∃ generated : GeneratedMap ℚ,
      generateTopologicalMap ⟨3, 1 / 20⟩ id
          (buildTopologyGraph (hallBuilding "salon" "store")) =
        .ok generated ∧
      IdsConsistent (removeUnnecessaryNodes
        (buildTopologyGraph (hallBuilding "salon" "store"))) generated := by
  have facts :
      (generateTopologicalMap (⟨3, 1 / 20⟩ : TopologyManager ℚ) id
        (buildTopologyGraph (hallBuilding "salon" "store"))).map
        (fun generated => generated.edges.length) = .ok 10 := by
    decide +kernel
  cases isGenerated : generateTopologicalMap (⟨3, 1 / 20⟩ : TopologyManager ℚ)
      id (buildTopologyGraph (hallBuilding "salon" "store")) with
  | error what =>
      rw [isGenerated] at facts
      exact nomatch facts
  | ok generated =>
      obtain ⟨converted, isConverted, isAdded⟩ := bind_eq_ok isGenerated
      exact ⟨generated, rfl, idsConsistent_of_generated ⟨3, 1 / 20⟩ id _
        converted generated isConverted isAdded⟩

end NavBim
