import NavBim.AugmentedGraphView
import NavBim.RoomGraph
import NavBim.TopomapPlannerSteps

namespace NavBim

/-!
# Pruning the graph before planning

`pruneGraph` collects vertices that the planner may ignore: floors, vertices of
other floors, unreachable components and dead-end transitions.  Connectivity
is decided by numbering the connected components of the graph filtered by the
vertices collected so far.
-/

open GraphReach

section Model

variable {K : Type}

/-- `isOnSameFloor`. -/
def isOnSameFloor
    (floor1 floor2 : Option (List String)) : Bool :=
  match floor1, floor2 with
  | some names1, some names2 =>
      names1.any fun f1 => names2.any fun f2 => f1 == f2
  | _, _ => false

/-- `boost::vertices` of the filtered graph. -/
def filteredVertices
    (graph : TopologicalGraph K)
    (disabled : Finset Nat) : List Nat :=
  (List.range graph.numVertices).filter fun vertex =>
    decide (vertex ∉ disabled)

/--
`boost::connected_components` on the filtered graph.  Disabled vertices keep
the number `0` of the freshly allocated vector.
-/
def filteredComponents
    (graph : TopologicalGraph K)
    (disabled : Finset Nat) : Components Nat :=
  connectedComponents (filteredTargets graph disabled)
    graph.numVertices (filteredVertices graph disabled)

/-- The enabled vertices with another component number than the start. -/
def otherComponents
    (graph : TopologicalGraph K)
    (disabled : Finset Nat)
    (start : Nat) : Finset Nat :=
  ((filteredVertices graph disabled).filter fun vertex =>
    decide ((filteredComponents graph disabled).component vertex ≠
      (filteredComponents graph disabled).component start)).toFinset

/-- Phase 3: remove unreachable components. -/
def removeUnreachableComponents
    (graph : TopologicalGraph K)
    (start : Nat)
    (disabled : Finset Nat) : Finset Nat :=
  if 1 < (filteredComponents graph disabled).count then
    disabled ∪ otherComponents graph disabled start
  else
    disabled

variable [Field K]

/-- One step of the loop that looks for start and goal by name. -/
def lookForEnds
    (graph : TopologicalGraph K)
    (found : Option Nat × Option Nat)
    (vertex : Nat) : Option Nat × Option Nat :=
  if found.1.isSome && found.2.isSome then
    found
  else if (graph.node vertex).name == "start" then
    (some vertex, found.2)
  else if (graph.node vertex).name == "goal" then
    (found.1, some vertex)
  else
    found

/-- The vertices named `start` and `goal`. -/
def findStartAndGoal
    (graph : TopologicalGraph K) : Option Nat × Option Nat :=
  (List.range graph.numVertices).foldl (lookForEnds graph) (none, none)

/-- The vertices that share no floor with the start. -/
def otherFloorVertices
    (graph : TopologicalGraph K)
    (start : Nat) : Finset Nat :=
  ((List.range graph.numVertices).filter fun vertex =>
    !isOnSameFloor (graph.node vertex).floor
      (graph.node start).floor).toFinset

/-- Phase 2: same-floor optimization. -/
def disableOtherFloors
    (graph : TopologicalGraph K)
    (start goal : Nat)
    (disabled : Finset Nat) : Finset Nat :=
  if isOnSameFloor (graph.node start).floor (graph.node goal).floor then
    let other := otherFloorVertices graph start
    if other.Nonempty then
      let test := disabled ∪ other
      if (filteredComponents graph test).component start =
          (filteredComponents graph test).component goal then
        disabled ∪ other
      else
        disabled
    else
      disabled
  else
    disabled

/-- Enabled transitions other than start and goal. -/
def transitionNodes
    (graph : TopologicalGraph K)
    (disabled : Finset Nat) : List Nat :=
  (filteredVertices graph disabled).filter fun vertex =>
    (graph.node vertex).type == "transition" &&
      (graph.node vertex).name != "start" &&
      (graph.node vertex).name != "goal"

/-- The edge that `boost::edge(u, v, graph)` finds is a room edge. -/
def isRoomEdge
    (graph : TopologicalGraph K)
    (u v : Nat) : Bool :=
  match graph.edge? u v with
  | none => false
  | some edge => edge.properties.type == "room"

/-- Number of room edges of a vertex to enabled vertices. -/
def numRoomEdges
    (graph : TopologicalGraph K)
    (disabled : Finset Nat)
    (vertex : Nat) : Nat :=
  (graph.outTargets vertex).countP fun next =>
    decide (next ∉ disabled) && isRoomEdge graph vertex next

/-- Phase 4 for one transition: remove a dead end. -/
def pruneTransition
    (graph : TopologicalGraph K)
    (start goal : Nat)
    (disabled : Finset Nat)
    (vertex : Nat) : Finset Nat :=
  if vertex ∈ disabled then
    disabled
  else if numRoomEdges graph disabled vertex < 2 then
    insert vertex disabled
  else
    let test := insert vertex disabled
    if 1 < (filteredComponents graph test).count ∧
        (filteredComponents graph test).component start =
          (filteredComponents graph test).component goal then
      insert vertex disabled ∪ otherComponents graph test start
    else
      disabled

/-- Phase 4: remove dead-end transitions. -/
def removeDeadEnds
    (graph : TopologicalGraph K)
    (start goal : Nat)
    (disabled : Finset Nat) : Finset Nat :=
  (transitionNodes graph disabled).foldl
    (pruneTransition graph start goal) disabled

/-- Start and goal are in one room and joined by a direct edge. -/
def sameRoomNavigation
    (graph : TopologicalGraph K)
    (start goal : Nat)
    (startRoom goalRoom : Option Nat) : Bool :=
  startRoom.isSome && goalRoom.isSome && startRoom == goalRoom &&
    (graph.edge? start goal).isSome

/-- `pruneGraph`. -/
def pruneGraph
    (graph : TopologicalGraph K)
    (floorVertices : Finset Nat)
    (startRoom goalRoom : Option Nat) : Finset Nat :=
  match findStartAndGoal graph with
  | (some start, some goal) =>
      let components := filteredComponents graph floorVertices
      if components.component start ≠ components.component goal then
        floorVertices
      else if sameRoomNavigation graph start goal startRoom goalRoom then
        floorVertices
      else
        removeDeadEnds graph start goal
          (removeUnreachableComponents graph start
            (disableOtherFloors graph start goal floorVertices))
  | _ => ∅

/-- A room, a stair or a ramp. -/
def isPlace
    (node : NodeProperties K) : Bool :=
  node.type == "room" || node.type == "stair" || node.type == "ramp"

/-- The vertices that `computePathToPose` always disables. -/
def unplannedVertices
    (graph : TopologicalGraph K) : Finset Nat :=
  ((List.range graph.numVertices).filter fun vertex =>
    (graph.node vertex).type == "floor" ||
      isPlace (graph.node vertex)).toFinset

/-- The disabled vertices of a request, with the pruned ones. -/
def disabledVertices
    (graph : TopologicalGraph K)
    (pruned : Finset Nat) : Finset Nat :=
  unplannedVertices graph ∪ pruned

end Model

section SameFloor

variable {floor1 floor2 : Option (List String)}

theorem isOnSameFloor_iff :
    isOnSameFloor floor1 floor2 = true ↔
      ∃ names1 names2 name,
        floor1 = some names1 ∧ floor2 = some names2 ∧
          name ∈ names1 ∧ name ∈ names2 := by
  cases floor1 <;> cases floor2 <;> simp [isOnSameFloor]

theorem isOnSameFloor_symm
    (same : isOnSameFloor floor1 floor2 = true) :
    isOnSameFloor floor2 floor1 = true := by
  obtain ⟨names1, names2, name, is1, is2, in1, in2⟩ :=
    isOnSameFloor_iff.mp same
  exact isOnSameFloor_iff.mpr ⟨names2, names1, name, is2, is1, in2, in1⟩

theorem isOnSameFloor_self
    (same : isOnSameFloor floor1 floor2 = true) :
    isOnSameFloor floor1 floor1 = true := by
  obtain ⟨names1, _, name, is1, _, in1, _⟩ := isOnSameFloor_iff.mp same
  exact isOnSameFloor_iff.mpr ⟨names1, names1, name, is1, is1, in1, in1⟩

end SameFloor

section Components

variable {K : Type}

/-- Two vertices are joined by an edge. -/
def TopologicalGraph.Adjacent
    (graph : TopologicalGraph K)
    (u v : Nat) : Prop :=
  v ∈ graph.outTargets u

/-- The vertices of the filtered graph. -/
def enabledSet
    (graph : TopologicalGraph K)
    (disabled : Finset Nat) : Set Nat :=
  {vertex | vertex < graph.numVertices ∧ vertex ∉ disabled}

variable
  {graph : TopologicalGraph K}
  {disabled : Finset Nat}
  {u v : Nat}

theorem TopologicalGraph.Adjacent.symm
    (adjacent : graph.Adjacent u v) :
    graph.Adjacent v u :=
  TopologicalGraph.mem_outTargets_comm.mp adjacent

theorem mem_filteredVertices :
    v ∈ filteredVertices graph disabled ↔
      v ∈ enabledSet graph disabled := by
  simp [filteredVertices, enabledSet]

/-- Filtered edges are the edges between enabled vertices. -/
theorem mem_filteredTargets_iff :
    v ∈ filteredTargets graph disabled u ↔
      Within graph.Adjacent (enabledSet graph disabled) u v := by
  constructor
  · intro member
    rw [mem_filteredTargets] at member
    have bounds := enabled_of_filteredEdge member
    obtain ⟨edge, isEdge⟩ := Option.isSome_iff_exists.mp member
    obtain ⟨-, -, inGraph⟩ := filteredEdge?_eq_some.mp isEdge
    exact ⟨TopologicalGraph.edge?_isSome_iff.mp (by rw [inGraph]; rfl),
      bounds.1, bounds.2⟩
  · rintro ⟨adjacent, uEnabled, vEnabled⟩
    simp only [filteredTargets, if_neg uEnabled.2, List.mem_filter,
      decide_eq_true_eq]
    exact ⟨adjacent, vEnabled.2⟩

theorem enabledSet_insert :
    enabledSet graph (insert v disabled) =
      enabledSet graph disabled \ {v} := by
  ext other
  simp only [enabledSet, Set.mem_ofPred_eq, Finset.mem_insert,
    Set.mem_sdiff, Set.mem_singleton_iff]
  tauto

section

variable
  (uEnabled : u ∈ enabledSet graph disabled)

include uEnabled

/-- The search from an enabled vertex finds what is joined to it. -/
theorem mem_reachable_filtered :
    v ∈ reachable (filteredTargets graph disabled) graph.numVertices {u} ↔
      Linked graph.Adjacent (enabledSet graph disabled) u v := by
  have inside : ({u} : Finset Nat) ⊆ Finset.range graph.numVertices := by
    rw [Finset.singleton_subset_iff, Finset.mem_range]
    exact uEnabled.1
  have closed :
      ∀ vertex ∈ Finset.range graph.numVertices,
        ∀ next ∈ filteredTargets graph disabled vertex,
          next ∈ Finset.range graph.numVertices := by
    intro vertex _ next member
    exact Finset.mem_range.mpr (mem_filteredTargets_iff.mp member).2.2.1
  rw [mem_reachable_iff inside closed (by simp)]
  simp only [Finset.mem_singleton, exists_eq_left, mem_filteredTargets_iff]
  rfl

/-- Equal component numbers of enabled vertices mean that they are joined. -/
theorem component_filtered_iff
    (vEnabled : v ∈ enabledSet graph disabled) :
    (filteredComponents graph disabled).component u =
        (filteredComponents graph disabled).component v ↔
      Linked graph.Adjacent (enabledSet graph disabled) u v :=
  component_eq_iff
    (joined_equivalence TopologicalGraph.Adjacent.symm)
    (fun _ member =>
      mem_reachable_filtered (mem_filteredVertices.mp member))
    (mem_filteredVertices.mpr uEnabled)
    (mem_filteredVertices.mpr vEnabled)

/-- Several components mean that some vertex is not joined to the given one. -/
theorem one_lt_count_filtered_iff :
    1 < (filteredComponents graph disabled).count ↔
      ∃ vertex ∈ enabledSet graph disabled,
        ¬Linked graph.Adjacent (enabledSet graph disabled) u vertex := by
  have symmetric := @TopologicalGraph.Adjacent.symm K graph
  have joined :
      Equivalence (Linked graph.Adjacent (enabledSet graph disabled)) :=
    joined_equivalence symmetric
  refine (one_lt_count_iff joined fun vertex member =>
    mem_reachable_filtered (mem_filteredVertices.mp member)).trans ?_
  simp only [mem_filteredVertices]
  constructor
  · rintro ⟨first, inFirst, second, inSecond, apart⟩
    by_cases toFirst :
        Linked graph.Adjacent (enabledSet graph disabled) u first
    · refine ⟨second, inSecond, ?_⟩
      intro toSecond
      exact apart ((toFirst.symm symmetric).trans toSecond)
    · exact ⟨first, inFirst, toFirst⟩
  · rintro ⟨vertex, inVertex, apart⟩
    exact ⟨u, uEnabled, vertex, inVertex, apart⟩

theorem mem_otherComponents :
    v ∈ otherComponents graph disabled u ↔
      v ∈ enabledSet graph disabled ∧
        ¬Linked graph.Adjacent (enabledSet graph disabled) u v := by
  simp only [otherComponents, List.mem_toFinset, List.mem_filter,
    mem_filteredVertices, decide_eq_true_eq]
  refine and_congr_right fun vEnabled => not_congr ?_
  rw [eq_comm]
  exact component_filtered_iff uEnabled vEnabled

theorem enabledSet_union_otherComponents :
    enabledSet graph (disabled ∪ otherComponents graph disabled u) =
      componentOf graph.Adjacent (enabledSet graph disabled) u := by
  ext vertex
  have other := mem_otherComponents (v := vertex) uEnabled
  simp only [enabledSet, componentOf, Set.mem_ofPred_eq, Finset.mem_union]
    at other ⊢
  tauto

end

/-- Phase 4 adds vertices only. -/
theorem subset_pruneTransition
    {start goal vertex : Nat} :
    disabled ⊆ pruneTransition graph start goal disabled vertex := by
  simp only [pruneTransition]
  split_ifs
  · exact subset_rfl
  · exact Finset.subset_insert _ _
  · exact (Finset.subset_insert _ _).trans Finset.subset_union_left
  · exact subset_rfl

theorem subset_removeUnreachableComponents :
    disabled ⊆ removeUnreachableComponents graph u disabled := by
  unfold removeUnreachableComponents
  split
  · exact Finset.subset_union_left
  · exact subset_rfl

/-- Phase 3 leaves the component of the start. -/
theorem enabledSet_removeUnreachableComponents
    (uEnabled : u ∈ enabledSet graph disabled) :
    enabledSet graph (removeUnreachableComponents graph u disabled) =
      componentOf graph.Adjacent (enabledSet graph disabled) u := by
  unfold removeUnreachableComponents
  split
  · exact enabledSet_union_otherComponents uEnabled
  · rename_i single
    rw [one_lt_count_filtered_iff uEnabled] at single
    push Not at single
    apply Set.Subset.antisymm
    · intro vertex member
      exact ⟨member, single vertex member⟩
    · exact componentOf_subset

end Components

end NavBim
