import NavBim.FirstGreatest
import NavBim.TopomapReplica

namespace NavBim

/-!
# Looking up the floor of a height

The planner, the server and the scripts each look for the floor that a height
belongs to.  Among the floors that contain the height they take the one with
the largest `min_z`.  They differ where a floor has no bound.
-/

/-- What the scripts read of a node. -/
structure NodeData (K : Type) where
  nodeId : Int
  type : Option String
  name : Option String
  minZ : Option K
  maxZ : Option K

section Lookup

variable {K : Type}

/-- A bound that is missing is infinite. -/
def lowerBound : Option K → WithBot K
  | some minZ => minZ
  | none => ⊥

def upperBound : Option K → WithTop K
  | some maxZ => maxZ
  | none => ⊤

variable [Field K] [LinearOrder K]

namespace TopologicalMapUtils

def findFloorByHeight
    (map : TopologicalGraph K)
    (height : K) : Option Nat :=
  NavBim.findFloorByHeight map height

end TopologicalMapUtils

namespace NetworkUtils

def floorName
    (data : NodeData K) : String :=
  data.name.getD ("Floor_" ++ toString data.nodeId)

/-- `z - min_z`. -/
def zDiff
    (z : K) : WithBot K → WithTop K
  | (minZ : K) => ((z - minZ : K) : WithTop K)
  | none => ⊤

def floorStep
    (z : K)
    (best : WithTop K × Option String)
    (data : NodeData K) : WithTop K × Option String :=
  let minZ := lowerBound data.minZ
  let maxZ := upperBound data.maxZ
  if data.type = some "floor" then
    if minZ ≤ z ∧ z < maxZ ∧ zDiff z minZ < best.1 then
      (zDiff z minZ, some (floorName data))
    else
      best
  else
    best

/-- `find_floor_by_height`. -/
def findFloorByHeight
    (nodes : List (NodeData K))
    (z : K) : Option String :=
  (nodes.foldl (floorStep z) (⊤, none)).2

end NetworkUtils

/-- The height is in `[min_z, max_z)` of the floor. -/
def FloorContains
    (height : K)
    (node : NodeProperties K) : Prop :=
  node.type = "floor" ∧
    lowerBound node.minZ ≤ height ∧ height < upperBound node.maxZ

def HasBounds
    (node : NodeProperties K) : Prop :=
  node.minZ ≠ none ∧ node.maxZ ≠ none

instance
    (height : K)
    (node : NodeProperties K) : Decidable (FloorContains height node) :=
  inferInstanceAs (Decidable (_ ∧ _))

instance
    (node : NodeProperties K) : Decidable (HasBounds node) :=
  inferInstanceAs (Decidable (_ ∧ _))

/-- The first floor with the largest `min_z` of those that contain the
height. -/
def IsFloorAt
    (graph : TopologicalGraph K)
    (height : K)
    (vertex : Nat) : Prop :=
  ∃ node,
    FirstGreatest graph.vertices (FloorContains height)
      (fun node => lowerBound node.minZ) vertex node

/-- The scripts read the node that the C++ programs have. -/
structure SameData
    (node : NodeProperties K)
    (data : NodeData K) : Prop where
  type : data.type.getD "" = node.type
  name : data.name.getD "" = node.name
  minZ : data.minZ = node.minZ
  maxZ : data.maxZ = node.maxZ

/-- All three find the floor, and no floor where there is none. -/
structure LookupsAgree
    (graph : TopologicalGraph K)
    (nodes : List (NodeData K))
    (height : K) : Prop where
  planner :
    ∀ vertex,
      findFloorByHeight graph height = some vertex ↔
        IsFloorAt graph height vertex
  server :
    ∀ vertex,
      TopologicalMapUtils.findFloorByHeight graph height = some vertex ↔
        IsFloorAt graph height vertex
  scripts :
    ∀ name,
      NetworkUtils.findFloorByHeight nodes height = some name ↔
        ∃ vertex data,
          IsFloorAt graph height vertex ∧
          nodes[vertex]? = some data ∧
          NetworkUtils.floorName data = name

/-- A floor without a bound that contains the height has a larger `min_z` of a
floor with bounds above it, or the same one before it. -/
def BoundedFloorsPrevail
    (graph : TopologicalGraph K)
    (height : K) : Prop :=
  ∀ (vertex : Nat) node, graph.vertices[vertex]? = some node →
    FloorContains height node → ¬ HasBounds node →
    ∃ (other : Nat) (otherNode : NodeProperties K),
      graph.vertices[other]? = some otherNode ∧
      (FloorContains height otherNode ∧ HasBounds otherNode) ∧
      (lowerBound node.minZ < lowerBound otherNode.minZ ∨
        lowerBound node.minZ = lowerBound otherNode.minZ ∧ other < vertex)

section Scans

variable [IsStrictOrderedRing K] {height : K}

omit [IsStrictOrderedRing K] [LinearOrder K] in
theorem zDiff_ne_top_iff
    (minZ : Option K) :
    NetworkUtils.zDiff height (lowerBound minZ) ≠ ⊤ ↔ minZ ≠ none := by
  cases minZ with
  | none =>
      simp [lowerBound, NetworkUtils.zDiff]
  | some minZ =>
      simp [lowerBound, NetworkUtils.zDiff]

/-- A larger `min_z` is closer to the height. -/
theorem zDiff_lt_iff
    (first second : Option K) :
    NetworkUtils.zDiff height (lowerBound first) <
        NetworkUtils.zDiff height (lowerBound second) ↔
      lowerBound second < lowerBound first := by
  cases first with
  | none =>
      exact iff_of_false not_top_lt not_lt_bot
  | some first =>
      cases second with
      | none =>
          exact iff_of_true (WithTop.coe_lt_top _) (WithBot.bot_lt_coe _)
      | some second =>
          exact WithTop.coe_lt_coe.trans
            ((sub_lt_sub_iff_left height).trans WithBot.coe_lt_coe.symm)

section

omit [IsStrictOrderedRing K]

theorem floorStep_eq_scanStep
    (best : WithTop K × Option Nat)
    (indexed : NodeProperties K × Nat) :
    floorStep height best indexed =
      scanStep
        (fun indexed : NodeProperties K × Nat =>
          FloorContains height indexed.1 ∧ HasBounds indexed.1)
        (fun indexed =>
          NetworkUtils.zDiff height (lowerBound indexed.1.minZ))
        Prod.snd best indexed := by
  obtain ⟨⟨id, name, type, subtype, position, ifcGuid, minZ, maxZ, bbox,
    polygon, floor⟩, vertex⟩ := indexed
  simp only [floorStep, scanStep, FloorContains, HasBounds]
  by_cases isFloor : type = "floor"
  · cases minZ with
    | none =>
        simp [isFloor]
    | some minZ =>
        cases maxZ with
        | none =>
            simp [isFloor]
        | some maxZ =>
            simp only [isFloor, lowerBound, upperBound, NetworkUtils.zDiff,
              WithBot.coe_le_coe, WithTop.coe_lt_coe]
            by_cases contains : minZ ≤ height ∧ height < maxZ
            · simp [contains]
            · simp [contains]
  · simp [isFloor]

theorem pythonStep_eq_scanStep
    (best : WithTop K × Option String)
    (data : NodeData K) :
    NetworkUtils.floorStep height best data =
      scanStep
        (fun data : NodeData K =>
          data.type = some "floor" ∧
            lowerBound data.minZ ≤ height ∧ height < upperBound data.maxZ)
        (fun data => NetworkUtils.zDiff height (lowerBound data.minZ))
        NetworkUtils.floorName best data := by
  simp only [NetworkUtils.floorStep, scanStep]
  by_cases isFloor : data.type = some "floor"
  · simp only [isFloor, ↓reduceIte, true_and, and_assoc]
  · simp [isFloor]

theorem foldl_floorStep
    (graph : TopologicalGraph K) :
    findFloorByHeight graph height =
      (graph.vertices.zipIdx.foldl
        (scanStep
          (fun indexed =>
            FloorContains height indexed.1 ∧ HasBounds indexed.1)
          (fun indexed =>
            NetworkUtils.zDiff height (lowerBound indexed.1.minZ))
          Prod.snd) (⊤, none)).2 := by
  rw [findFloorByHeight]
  congr 2
  funext best indexed
  exact floorStep_eq_scanStep best indexed

end

theorem findFloorByHeight_eq_some_iff
    (graph : TopologicalGraph K)
    (vertex : Nat) :
    findFloorByHeight graph height = some vertex ↔
      ∃ node,
        FirstGreatest graph.vertices
          (fun node => FloorContains height node ∧ HasBounds node)
          (fun node => lowerBound node.minZ) vertex node := by
  have usable :
      ∀ node : NodeProperties K,
        (FloorContains height node ∧ HasBounds node) ∧
            NetworkUtils.zDiff height (lowerBound node.minZ) ≠ ⊤ ↔
          FloorContains height node ∧ HasBounds node := by
    intro node
    rw [zDiff_ne_top_iff, and_iff_left_iff_imp]
    exact fun bounded => bounded.2.1
  rw [foldl_floorStep, foldl_scanStep_eq_some_iff
    (fun indexed : NodeProperties K × Nat => lowerBound indexed.1.minZ)
    (fun first second _ _ => zDiff_lt_iff first.1.minZ second.1.minZ)]
  have numbered
      (place : Nat)
      (indexed : NodeProperties K × Nat) :=
    @FirstGreatest.zipIdx_iff _ _ _ graph.vertices place
      (fun node : NodeProperties K =>
        (FloorContains height node ∧ HasBounds node) ∧
          NetworkUtils.zDiff height (lowerBound node.minZ) ≠ ⊤)
      (fun node : NodeProperties K => lowerBound node.minZ) indexed
  constructor
  · rintro ⟨place, indexed, first, rfl⟩
    obtain ⟨first, rfl⟩ := (numbered place indexed).mp first
    exact ⟨indexed.1, (FirstGreatest.congr usable).mp first⟩
  · rintro ⟨node, first⟩
    refine ⟨vertex, (node, vertex), ?_, rfl⟩
    exact (numbered vertex (node, vertex)).mpr
      ⟨(FirstGreatest.congr usable).mpr first, rfl⟩

omit [IsStrictOrderedRing K] in
theorem foldl_pythonStep
    (nodes : List (NodeData K)) :
    NetworkUtils.findFloorByHeight nodes height =
      (nodes.foldl
        (scanStep
          (fun data : NodeData K =>
            data.type = some "floor" ∧
              lowerBound data.minZ ≤ height ∧ height < upperBound data.maxZ)
          (fun data => NetworkUtils.zDiff height (lowerBound data.minZ))
          NetworkUtils.floorName) (⊤, none)).2 := by
  rw [NetworkUtils.findFloorByHeight]
  congr 2
  funext best data
  exact pythonStep_eq_scanStep best data

theorem pythonFindFloorByHeight_eq_some_iff
    {graph : TopologicalGraph K}
    {nodes : List (NodeData K)}
    (sameNodes : List.Forall₂ SameData graph.vertices nodes)
    (name : String) :
    NetworkUtils.findFloorByHeight nodes height = some name ↔
      ∃ vertex node data,
        FirstGreatest graph.vertices
            (fun node => FloorContains height node ∧ node.minZ ≠ none)
            (fun node => lowerBound node.minZ) vertex node ∧
          nodes[vertex]? = some data ∧
          NetworkUtils.floorName data = name := by
  have sameCandidate :
      ∀ (node : NodeProperties K) (data : NodeData K), SameData node data →
        (FloorContains height node ∧ node.minZ ≠ none ↔
          (data.type = some "floor" ∧
              lowerBound data.minZ ≤ height ∧
                height < upperBound data.maxZ) ∧
            NetworkUtils.zDiff height (lowerBound data.minZ) ≠ ⊤) := by
    intro node data same
    have isFloor : node.type = "floor" ↔ data.type = some "floor" := by
      rw [← same.type]
      cases data.type with
      | none =>
          exact iff_of_false (by decide) nofun
      | some type =>
          exact Option.some_inj.symm
    rw [FloorContains, isFloor, zDiff_ne_top_iff, same.minZ, same.maxZ]
  have sameKey :
      ∀ (node : NodeProperties K) (data : NodeData K), SameData node data →
        lowerBound node.minZ = lowerBound data.minZ :=
    fun node data same => congrArg lowerBound same.minZ.symm
  rw [foldl_pythonStep, foldl_scanStep_eq_some_iff
    (fun data : NodeData K => lowerBound data.minZ)
    (fun first second _ _ => zDiff_lt_iff first.minZ second.minZ)]
  constructor
  · rintro ⟨vertex, data, first, isName⟩
    obtain ⟨node, -, firstNode⟩ :=
      FirstGreatest.of_forall₂ sameNodes.flip
        (fun data node same => (sameCandidate node data same).symm)
        (fun data node same => (sameKey node data same).symm) first
    exact ⟨vertex, node, data, firstNode, first.atPlace, isName⟩
  · rintro ⟨vertex, node, data, first, isData, isName⟩
    obtain ⟨found, -, firstData⟩ :=
      FirstGreatest.of_forall₂ sameNodes sameCandidate sameKey first
    have sameData := firstData.atPlace
    rw [isData] at sameData
    exact ⟨vertex, data, Option.some.inj sameData ▸ firstData, isName⟩

end Scans

section Agreement

variable
  [IsStrictOrderedRing K]
  {graph : TopologicalGraph K}
  {nodes : List (NodeData K)}
  {height : K}

omit [Field K] [IsStrictOrderedRing K] in
theorem firstGreatest_iff_of_prevail
    (prevail : BoundedFloorsPrevail graph height)
    {kind : NodeProperties K → Prop}
    (bounded : ∀ node, HasBounds node → kind node)
    (vertex : Nat)
    (node : NodeProperties K) :
    FirstGreatest graph.vertices
        (fun node => FloorContains height node ∧ kind node)
        (fun node => lowerBound node.minZ) vertex node ↔
      FirstGreatest graph.vertices (FloorContains height)
        (fun node => lowerBound node.minZ) vertex node := by
  apply FirstGreatest.restrict_iff
  · exact fun node contains => contains.1
  · intro place node isNode contains notKind
    have notBounded : ¬ HasBounds node :=
      fun both => notKind ⟨contains, bounded node both⟩
    obtain ⟨other, otherNode, isOther, ⟨otherContains, both⟩, better⟩ :=
      prevail place node isNode contains notBounded
    exact ⟨other, otherNode, isOther,
      ⟨otherContains, bounded otherNode both⟩, better⟩

/-- The three lookups agree exactly if floors with both bounds prevail. -/
theorem lookupsAgree_iff
    (sameNodes : List.Forall₂ SameData graph.vertices nodes)
    (height : K) :
    LookupsAgree graph nodes height ↔
      BoundedFloorsPrevail graph height := by
  constructor
  · intro agree vertex node isNode contains notBounded
    obtain ⟨place, first, isFirst⟩ :=
      FirstGreatest.exists_of_candidate
        (fun node : NodeProperties K => lowerBound node.minZ) isNode contains
    have found := (agree.planner place).mpr ⟨first, isFirst⟩
    obtain ⟨other, isOther⟩ :=
      (findFloorByHeight_eq_some_iff graph place).mp found
    refine ⟨place, other, isOther.atPlace, isOther.isCandidate, ?_⟩
    have sameNode := isOther.atPlace
    rw [isFirst.atPlace] at sameNode
    obtain rfl := Option.some.inj sameNode
    rcases isFirst.greatest vertex node isNode contains with
      smaller | ⟨same, before⟩
    · exact .inl smaller
    · refine .inr ⟨same, before.lt_of_ne ?_⟩
      rintro rfl
      rw [isFirst.atPlace] at isNode
      exact notBounded (Option.some.inj isNode ▸ isOther.isCandidate.2)
  · intro prevail
    have isFloorAt :
        ∀ vertex,
          findFloorByHeight graph height = some vertex ↔
            IsFloorAt graph height vertex := by
      intro vertex
      rw [findFloorByHeight_eq_some_iff]
      exact exists_congr fun node =>
        firstGreatest_iff_of_prevail prevail (fun _ => id) vertex node
    refine ⟨isFloorAt, isFloorAt, ?_⟩
    intro name
    rw [pythonFindFloorByHeight_eq_some_iff sameNodes]
    constructor
    · rintro ⟨vertex, node, data, first, isData, isName⟩
      exact ⟨vertex, data,
        ⟨node, (firstGreatest_iff_of_prevail prevail
          (fun _ both => both.1) vertex node).mp first⟩,
        isData, isName⟩
    · rintro ⟨vertex, data, ⟨node, first⟩, isData, isName⟩
      exact ⟨vertex, node, data,
        (firstGreatest_iff_of_prevail prevail
          (fun _ both => both.1) vertex node).mpr first,
        isData, isName⟩

end Agreement

end Lookup

section Roof

/-- A floor of a map. -/
def floorNode
    (name : String)
    (minZ maxZ : Option ℚ) : NodeProperties ℚ where
  id := 0
  name := name
  type := "floor"
  subtype := none
  position := ⟨0, 0, 0⟩
  ifcGuid := none
  minZ := minZ
  maxZ := maxZ
  bbox := none
  polygon := none
  floor := none

def floorData
    (name : String)
    (minZ maxZ : Option ℚ) : NodeData ℚ where
  nodeId := 0
  type := some "floor"
  name := some name
  minZ := minZ
  maxZ := maxZ

/-- A map with a ground floor and a roof, which may have no upper bound. -/
def roofGraph
    (maxZ : Option ℚ) : TopologicalGraph ℚ where
  vertices :=
    [floorNode "EG" (some 0) (some 3), floorNode "Dach" (some 3) maxZ]
  edges := []
  endsValid := by simp

def roofNodes
    (maxZ : Option ℚ) : List (NodeData ℚ) :=
  [floorData "EG" (some 0) (some 3), floorData "Dach" (some 3) maxZ]

theorem sameData_roof
    (maxZ : Option ℚ) :
    List.Forall₂ SameData (roofGraph maxZ).vertices (roofNodes maxZ) :=
  .cons ⟨rfl, rfl, rfl, rfl⟩ (.cons ⟨rfl, rfl, rfl, rfl⟩ .nil)

/-- A roof with an upper bound is found by all three. -/
theorem lookupsAgree_bounded_roof :
    LookupsAgree (roofGraph (some 6)) (roofNodes (some 6)) 4 := by
  apply (lookupsAgree_iff (sameData_roof (some 6)) 4).mpr
  intro vertex node isNode _ notBounded
  have isVertex := List.mem_of_getElem? isNode
  simp only [roofGraph, List.mem_cons, List.not_mem_nil, or_false] at isVertex
  rcases isVertex with rfl | rfl
  · exact absurd ⟨by rintro ⟨⟩, by rintro ⟨⟩⟩ notBounded
  · exact absurd ⟨by rintro ⟨⟩, by rintro ⟨⟩⟩ notBounded

/-- A roof without an upper bound is found by the scripts only. -/
theorem open_roof_lost_by_planner :
    findFloorByHeight (roofGraph none) 4 = none ∧
      TopologicalMapUtils.findFloorByHeight (roofGraph none) 4 = none ∧
      NetworkUtils.findFloorByHeight (roofNodes none) 4 = some "Dach" ∧
      ¬ LookupsAgree (roofGraph none) (roofNodes none) 4 := by
  have notFound : findFloorByHeight (roofGraph none) 4 = none := by
    decide +kernel
  have found :
      NetworkUtils.findFloorByHeight (roofNodes none) 4 = some "Dach" := by
    decide +kernel
  refine ⟨notFound, notFound, found, ?_⟩
  intro agree
  obtain ⟨vertex, data, isFloor, -⟩ := (agree.scripts "Dach").mp found
  rw [(agree.planner vertex).mpr isFloor] at notFound
  cases notFound

end Roof

end NavBim
