import NavBim.ParentForest
import NavBim.TopomapPlanner

namespace NavBim

/-!
# What one iteration of the planner does

One lemma for each part of an iteration: which fields it leaves alone, what
the recursive score update computes when the predecessors form a tree, and how
the open set changes.  Later modules cite these and do not unfold the planner.
-/

section FilteredGraph

variable
  {K : Type}
  {graph : TopologicalGraph K}
  {disabled : Finset Nat}
  {u v : Nat}

theorem filteredEdge?_comm
    (graph : TopologicalGraph K)
    (disabled : Finset Nat)
    (u v : Nat) :
    filteredEdge? graph disabled u v =
      filteredEdge? graph disabled v u := by
  unfold filteredEdge?
  rw [graph.edge?_comm u v]
  congr 1
  exact propext Or.comm

theorem filteredEdge?_eq_some
    {edge : StoredEdge K} :
    filteredEdge? graph disabled u v = some edge ↔
      u ∉ disabled ∧ v ∉ disabled ∧ graph.edge? u v = some edge := by
  unfold filteredEdge?
  split
  · rename_i hidden
    simp only [reduceCtorEq, false_iff]
    tauto
  · rename_i visible
    push Not at visible
    tauto

/-- Filtered neighbours are the far ends of filtered edges. -/
theorem mem_filteredTargets :
    v ∈ filteredTargets graph disabled u ↔
      (filteredEdge? graph disabled u v).isSome = true := by
  unfold filteredTargets filteredEdge?
  by_cases uHidden : u ∈ disabled
  · simp [uHidden]
  · by_cases vHidden : v ∈ disabled
    · simp [vHidden]
    · simp [uHidden, vHidden, TopologicalGraph.edge?_isSome_iff]

theorem enabled_of_filteredEdge
    (found : (filteredEdge? graph disabled u v).isSome = true) :
    (u < graph.numVertices ∧ u ∉ disabled) ∧
      (v < graph.numVertices ∧ v ∉ disabled) := by
  obtain ⟨edge, isEdge⟩ := Option.isSome_iff_exists.mp found
  obtain ⟨uEnabled, vEnabled, inGraph⟩ := filteredEdge?_eq_some.mp isEdge
  have adjacent : v ∈ graph.outTargets u :=
    TopologicalGraph.edge?_isSome_iff.mp (by rw [inGraph]; rfl)
  have bounds := TopologicalGraph.lt_of_mem_outTargets adjacent
  exact ⟨⟨bounds.1, uEnabled⟩, bounds.2, vEnabled⟩

variable
  (graph disabled)
  (a b : Nat)
  (change : EdgeProperties K → EdgeProperties K)

@[simp] theorem filteredTargets_modifyEdge
    (vertex : Nat) :
    filteredTargets (graph.modifyEdge a b change) disabled vertex =
      filteredTargets graph disabled vertex := by
  simp [filteredTargets]

@[simp] theorem filteredEdge?_modifyEdge_isSome
    (u v : Nat) :
    (filteredEdge? (graph.modifyEdge a b change) disabled u v).isSome =
      (filteredEdge? graph disabled u v).isSome := by
  rw [Bool.eq_iff_iff, ← mem_filteredTargets, ← mem_filteredTargets,
    filteredTargets_modifyEdge]

/-- The changed edge is found with its new properties. -/
theorem filteredEdge?_modifyEdge_same :
    filteredEdge? (graph.modifyEdge a b change) disabled a b =
      (filteredEdge? graph disabled a b).map
        (StoredEdge.mapProperties change) := by
  unfold filteredEdge?
  split
  · rfl
  · exact graph.edge?_modifyEdge_same a b change

/-- Lookups of other pairs are not affected. -/
theorem filteredEdge?_modifyEdge_other
    {u v : Nat}
    (apart : ¬((u = a ∧ v = b) ∨ (u = b ∧ v = a))) :
    filteredEdge? (graph.modifyEdge a b change) disabled u v =
      filteredEdge? graph disabled u v := by
  unfold filteredEdge?
  rw [graph.edge?_modifyEdge_other a b change apart]

end FilteredGraph

section SameShape

variable {K : Type}

/-- Two graphs that differ at most in the properties of their edges. -/
structure SameShape
    (first second : TopologicalGraph K) : Prop where
  vertices : second.vertices = first.vertices
  ends :
    second.edges.map (fun edge => (edge.source, edge.target)) =
      first.edges.map (fun edge => (edge.source, edge.target))

namespace SameShape

variable
  {first second third : TopologicalGraph K}
  (shape : SameShape first second)

theorem refl
    (graph : TopologicalGraph K) :
    SameShape graph graph :=
  ⟨rfl, rfl⟩

include shape

theorem modifyEdge
    (u v : Nat)
    (change : EdgeProperties K → EdgeProperties K) :
    SameShape first (second.modifyEdge u v change) :=
  ⟨shape.vertices, (second.ends_modifyEdge u v change).trans shape.ends⟩

theorem numVertices :
    second.numVertices = first.numVertices := by
  unfold TopologicalGraph.numVertices
  rw [shape.vertices]

theorem node
    [Field K]
    (vertex : Nat) :
    second.node vertex = first.node vertex := by
  unfold TopologicalGraph.node
  rw [shape.vertices]

theorem filteredTargets
    (disabled : Finset Nat)
    (vertex : Nat) :
    NavBim.filteredTargets second disabled vertex =
      NavBim.filteredTargets first disabled vertex := by
  unfold NavBim.filteredTargets
  rw [TopologicalGraph.outTargets_congr shape.ends]

theorem filteredEdge?_isSome
    (disabled : Finset Nat)
    (u v : Nat) :
    (filteredEdge? second disabled u v).isSome =
      (filteredEdge? first disabled u v).isSome := by
  rw [Bool.eq_iff_iff, ← mem_filteredTargets, ← mem_filteredTargets,
    shape.filteredTargets]

end SameShape

end SameShape

section EdgeNames

variable
  {K : Type}
  (graph : TopologicalGraph K)
  (a b : Nat)
  {change : EdgeProperties K → EdgeProperties K}
  (keepsRoom : ∀ properties, (change properties).roomId = properties.roomId)

include keepsRoom

theorem roomId_modifyEdge
    (u v : Nat) :
    ((graph.modifyEdge a b change).edge? u v).map
        (fun edge => edge.properties.roomId) =
      (graph.edge? u v).map (fun edge => edge.properties.roomId) := by
  by_cases same : (u = a ∧ v = b) ∨ (u = b ∧ v = a)
  · have atPair :
        (graph.modifyEdge a b change).edge? u v =
          (graph.edge? u v).map (StoredEdge.mapProperties change) := by
      rcases same with ⟨rfl, rfl⟩ | ⟨rfl, rfl⟩
      · exact graph.edge?_modifyEdge_same _ _ change
      · rw [TopologicalGraph.edge?_comm, graph.edge?_comm]
        exact graph.edge?_modifyEdge_same _ _ change
    rw [atPair, Option.map_map]
    cases graph.edge? u v with
    | none =>
        rfl
    | some edge =>
        simp [StoredEdge.mapProperties, keepsRoom]
  · rw [graph.edge?_modifyEdge_other a b change same]

/-- The names passed on for an edge depend on its room only. -/
theorem edgeNames_modifyEdge
    [Field K]
    (u v : Nat) :
    edgeNames (graph.modifyEdge a b change) u v = edgeNames graph u v := by
  have sameFloor
      (u v : Nat) :
      getFloorOfEdge (graph.modifyEdge a b change) u v =
        getFloorOfEdge graph u v := by
    have rooms := roomId_modifyEdge graph a b keepsRoom u v
    unfold getFloorOfEdge
    cases changed : (graph.modifyEdge a b change).edge? u v <;>
      cases old : graph.edge? u v <;> simp_all
  have sameRoom
      (u v : Nat) :
      getRoomNameOfEdge (graph.modifyEdge a b change) u v =
        getRoomNameOfEdge graph u v := by
    have rooms := roomId_modifyEdge graph a b keepsRoom u v
    unfold getRoomNameOfEdge
    cases changed : (graph.modifyEdge a b change).edge? u v <;>
      cases old : graph.edge? u v <;> simp_all
  unfold edgeNames
  simp only [TopologicalGraph.node_modifyEdge,
    TopologicalGraph.vertices_modifyEdge, sameFloor, sameRoom]

end EdgeNames

section EdgePair

theorem edgePair_comm
    (u v : Nat) :
    edgePair u v = edgePair v u := by
  simp [edgePair, min_comm, max_comm]

/-- A normalised pair is the pair of its own components. -/
theorem edgePair_of_le
    {u v : Nat}
    (ordered : u ≤ v) :
    edgePair u v = (u, v) := by
  simp [edgePair, ordered]

theorem edgePair_eq_iff
    {u v a b : Nat} :
    edgePair u v = edgePair a b ↔
      (u = a ∧ v = b) ∨ (u = b ∧ v = a) := by
  simp only [edgePair, Prod.mk.injEq]
  omega

theorem filteredEdge?_edgePair
    {K : Type}
    (graph : TopologicalGraph K)
    (disabled : Finset Nat)
    (u v : Nat) :
    filteredEdge? graph disabled (edgePair u v).1 (edgePair u v).2 =
      filteredEdge? graph disabled u v := by
  rcases Nat.le_total u v with ordered | ordered
  · rw [edgePair_of_le ordered]
  · rw [edgePair_comm, edgePair_of_le ordered, filteredEdge?_comm]

end EdgePair

section Orient

variable {K : Type} [LinearOrder K]

/-- Orienting an edge only swaps its ends, and the better end comes first. -/
theorem orient_spec
    (gScore : Nat → WithTop K)
    (u v : Nat) :
    (orient gScore u v = (u, v) ∨ orient gScore u v = (v, u)) ∧
      gScore (orient gScore u v).1 ≤ gScore (orient gScore u v).2 := by
  unfold orient
  split
  · rename_i ordered
    exact ⟨Or.inl rfl, ordered⟩
  · rename_i ordered
    exact ⟨Or.inr rfl, (not_le.mp ordered).le⟩

/-- If one end is strictly better, it comes first. -/
theorem orient_of_lt
    {gScore : Nat → WithTop K}
    {u v : Nat}
    (better : gScore u < gScore v) :
    orient gScore u v = (u, v) ∧ orient gScore v u = (u, v) := by
  simp [orient, better.le, better]

end Orient

section ScoreUpdate

open ParentForest

variable {K : Type} [Field K]

/-- Strict descendants among a list of vertices. -/
private noncomputable def descendants
    (cameFrom : Nat → Option Nat)
    (entries : List Nat)
    (node : Nat) : Finset Nat :=
  open Classical in
  entries.toFinset.filter (fun vertex => StrictlyBelow cameFrom node vertex)

/-- A child has fewer strict descendants than its parent. -/
private theorem card_descendants_lt
    {cameFrom : Nat → Option Nat}
    {root node child : Nat}
    {entries : List Nat}
    (rooted : RootedAt cameFrom root)
    (listed : child ∈ entries)
    (isChild : cameFrom child = some node) :
    (descendants cameFrom entries child).card <
      (descendants cameFrom entries node).card := by
  apply Finset.card_lt_card
  refine Finset.ssubset_iff_subset_ne.mpr ⟨?_, ?_⟩
  · intro vertex member
    simp only [descendants, Finset.mem_filter] at member ⊢
    exact ⟨member.1, Relation.TransGen.head isChild member.2⟩
  · intro same
    have childBelow : child ∈ descendants cameFrom entries node := by
      simp only [descendants, Finset.mem_filter, List.mem_toFinset]
      exact ⟨listed, Relation.TransGen.single isChild⟩
    rw [← same] at childBelow
    simp only [descendants, Finset.mem_filter] at childBelow
    exact rooted.acyclic child childBelow.2

open Classical in
/-- `delta` is taken off the scores of a set of vertices, which are noted. -/
private structure Lowered
    (delta : WithTop K)
    (inside : Nat → Prop)
    (before after : ScoreUpdate K) : Prop where
  score :
    ∀ vertex,
      after.gScore vertex =
        if inside vertex then
          costSub (before.gScore vertex) delta
        else
          before.gScore vertex
  nodes :
    ∀ vertex,
      vertex ∈ after.updatedNodes ↔
        vertex ∈ before.updatedNodes ∨ inside vertex

private theorem Lowered.none
    (delta : WithTop K)
    (scores : ScoreUpdate K) :
    Lowered delta (fun _ => False) scores scores where
  score _ := (if_neg id).symm
  nodes _ := (iff_of_eq (or_false _)).symm

private theorem Lowered.single
    (delta : WithTop K)
    (scores : ScoreUpdate K)
    (node : Nat) :
    Lowered delta (· = node) scores
      { gScore :=
          Function.update scores.gScore node
            (costSub (scores.gScore node) delta)
        updatedNodes := node :: scores.updatedNodes } := by
  refine ⟨?_, ?_⟩
  · intro vertex
    by_cases same : vertex = node
    · rw [same, if_pos rfl]
      exact Function.update_self _ _ _
    · rw [if_neg same]
      exact Function.update_of_ne same _ _
  · intro vertex
    exact List.mem_cons.trans or_comm

private theorem Lowered.congr
    {delta : WithTop K}
    {inside other : Nat → Prop}
    {before after : ScoreUpdate K}
    (lowered : Lowered delta inside before after)
    (same : ∀ vertex, inside vertex ↔ other vertex) :
    Lowered delta other before after := by
  have equal : inside = other := funext fun vertex => propext (same vertex)
  exact equal ▸ lowered

/-- Two sets that have no vertex in common are lowered one after the other. -/
private theorem Lowered.trans
    {delta : WithTop K}
    {first second : Nat → Prop}
    {before middle after : ScoreUpdate K}
    (lower : Lowered delta first before middle)
    (lowerMore : Lowered delta second middle after)
    (disjoint : ∀ vertex, first vertex → ¬ second vertex) :
    Lowered delta (fun vertex => first vertex ∨ second vertex)
      before after := by
  refine ⟨?_, ?_⟩
  · intro vertex
    rw [lowerMore.score vertex, lower.score vertex]
    by_cases inFirst : first vertex
    · rw [if_neg (disjoint vertex inFirst), if_pos inFirst,
        if_pos (Or.inl inFirst)]
    · rw [if_neg inFirst]
      by_cases inSecond : second vertex
      · rw [if_pos inSecond, if_pos (Or.inr inSecond)]
      · rw [if_neg inSecond, if_neg (not_or.mpr ⟨inFirst, inSecond⟩)]
  · intro vertex
    rw [lowerMore.nodes vertex, lower.nodes vertex, or_assoc]

/--
The loop over the map, from any point on: it lowers the subtrees of those
children of the node that are still ahead.
-/
private theorem lowered_children
    {cameFrom : Nat → Option Nat}
    {root node : Nat}
    (rooted : RootedAt cameFrom root)
    {delta : WithTop K}
    {lowerBelow : Nat → ScoreUpdate K → Option (ScoreUpdate K)}
    (recursion :
      ∀ child scores, cameFrom child = some node →
        ∃ result, lowerBelow child scores = some result ∧
          Lowered delta (StrictlyBelow cameFrom child) scores result)
    (ahead : List Nat) :
    ∀ scores : ScoreUpdate K,
      ahead.Nodup →
      ∃ result,
        ahead.foldlM
            (fun scores successor =>
              if cameFrom successor = some node then
                lowerBelow successor
                  { gScore :=
                      Function.update scores.gScore successor
                        (costSub (scores.gScore successor) delta)
                    updatedNodes := successor :: scores.updatedNodes }
              else
                some scores)
            scores = some result ∧
          Lowered delta
            (fun vertex =>
              ∃ child ∈ ahead,
                cameFrom child = some node ∧ Below cameFrom child vertex)
            scores result := by
  induction ahead with
  | nil =>
      intro scores _
      exact ⟨scores, rfl, (Lowered.none delta scores).congr (by simp)⟩
  | cons successor rest restLoop =>
      intro scores distinct
      obtain ⟨notAhead, restDistinct⟩ := List.nodup_cons.mp distinct
      by_cases isChild : cameFrom successor = some node
      · obtain ⟨middle, middleRun, below⟩ := recursion successor
          { gScore :=
              Function.update scores.gScore successor
                (costSub (scores.gScore successor) delta)
            updatedNodes := successor :: scores.updatedNodes }
          isChild
        obtain ⟨result, resultRun, later⟩ := restLoop middle restDistinct
        have subtree :
            Lowered delta (Below cameFrom successor) scores middle := by
          refine ((Lowered.single delta scores successor).trans below ?_).congr
            fun vertex => Relation.reflTransGen_iff_eq_or_transGen.symm
          rintro vertex rfl
          exact rooted.acyclic vertex
        refine ⟨result, ?_, (subtree.trans later ?_).congr ?_⟩
        · rw [List.foldlM_cons, if_pos isChild, middleRun]
          exact resultRun
        · -- Subtrees of later children do not contain the vertex.
          rintro vertex inFirst ⟨child, inRest, childOfNode, belowChild⟩
          have same :=
            rooted.children_disjoint isChild childOfNode inFirst belowChild
          subst same
          exact notAhead inRest
        · intro vertex
          simp [isChild]
      · obtain ⟨result, resultRun, later⟩ := restLoop scores restDistinct
        refine ⟨result, ?_, later.congr ?_⟩
        · rw [List.foldlM_cons, if_neg isChild]
          exact resultRun
        · intro vertex
          simp [isChild]

/--
In a tree the recursive update takes `delta` off every strict descendant of a
node exactly once, provided the fuel exceeds their number.
-/
private theorem updateGScoreRecursively_of_card_lt
    {cameFrom : Nat → Option Nat}
    {root : Nat}
    {entries : List Nat}
    (rooted : RootedAt cameFrom root)
    (distinct : entries.Nodup)
    (listed :
      ∀ {vertex above}, cameFrom vertex = some above → vertex ∈ entries)
    (delta : WithTop K) :
    ∀ (fuel node : Nat) (scores : ScoreUpdate K),
      (descendants cameFrom entries node).card < fuel →
      ∃ result,
        updateGScoreRecursively cameFrom entries fuel node delta scores =
            some result ∧
          Lowered delta (StrictlyBelow cameFrom node) scores result := by
  intro fuel
  induction fuel with
  | zero =>
      intro node scores enough
      exact absurd enough (Nat.not_lt_zero _)
  | succ fuel recursion =>
      intro node scores enough
      have recurse :
          ∀ child scores, cameFrom child = some node →
            ∃ result,
              updateGScoreRecursively cameFrom entries fuel child delta
                  scores = some result ∧
                Lowered delta (StrictlyBelow cameFrom child) scores
                  result := by
        intro child scores isChild
        have fewer :=
          card_descendants_lt rooted (listed isChild) isChild
        exact recursion child scores
          (lt_of_lt_of_le fewer (Nat.le_of_lt_succ enough))
      obtain ⟨result, run, lowered⟩ :=
        lowered_children rooted recurse entries scores distinct
      refine ⟨result, run, lowered.congr ?_⟩
      intro vertex
      rw [strictlyBelow_iff_child]
      constructor
      · rintro ⟨child, -, isChild, below⟩
        exact ⟨child, isChild, below⟩
      · rintro ⟨child, isChild, below⟩
        exact ⟨child, listed isChild, isChild, below⟩

open Classical in
/-- The recursive update ends whenever the predecessors form a tree. -/
theorem updateGScoreRecursively_spec
    {cameFrom : Nat → Option Nat}
    {root count : Nat}
    (rooted : RootedAt cameFrom root)
    (bounded :
      ∀ {vertex above}, cameFrom vertex = some above → vertex < count)
    (delta : WithTop K)
    (node : Nat)
    (scores : ScoreUpdate K) :
    ∃ result,
      updateGScoreRecursively cameFrom (List.range count)
          ((List.range count).length + 1) node delta scores =
          some result ∧
        (∀ vertex,
          result.gScore vertex =
            if StrictlyBelow cameFrom node vertex then
              costSub (scores.gScore vertex) delta
            else
              scores.gScore vertex) ∧
        (∀ vertex,
          vertex ∈ result.updatedNodes ↔
            vertex ∈ scores.updatedNodes ∨
              StrictlyBelow cameFrom node vertex) := by
  have enough :
      (descendants cameFrom (List.range count) node).card ≤
        (List.range count).length :=
    calc
      (descendants cameFrom (List.range count) node).card ≤
          (List.range count).toFinset.card :=
        Finset.card_le_card (Finset.filter_subset _ _)
      _ ≤ (List.range count).length :=
        List.toFinset_card_le _
  obtain ⟨result, run, lowered⟩ :=
    updateGScoreRecursively_of_card_lt rooted List.nodup_range
      (fun link => List.mem_range.mpr (bounded link)) delta _ node scores
      (Nat.lt_succ_of_le enough)
  exact ⟨result, run, lowered.score, lowered.nodes⟩

end ScoreUpdate

end NavBim
