import Mathlib.Data.List.Pairwise
import NavBim.NetworkGraph

namespace NavBim

/-!
# The edges that a graph reports

A graph reports its edges node by node.  Every edge between two nodes is
reported, and none is reported twice, whichever way round.
-/

namespace NetworkGraph

variable
  {I N E : Type}
  [DecidableEq I]
  {graph : NetworkGraph I N E}

variable
  {first second : I}

theorem edge?_eq_some_iff
    {data : E} :
    graph.edge? first second = some data ↔
      ∃ entry ∈ graph.edges,
        SameEnds entry.1 (first, second) ∧ entry.2 = data := by
  rw [edge?, Option.map_eq_some_iff]
  constructor
  · rintro ⟨entry, isFound, isData⟩
    have sameEnds := List.find?_some isFound
    rw [decide_eq_true_eq] at sameEnds
    exact ⟨entry, List.mem_of_find?_eq_some isFound, sameEnds, isData⟩
  · rintro ⟨entry, isEntry, sameEnds, isData⟩
    have isFound : (graph.edges.find? fun other =>
        SameEnds other.1 (first, second)).isSome :=
      List.find?_isSome.mpr ⟨entry, isEntry, decide_eq_true sameEnds⟩
    obtain ⟨found, isFound⟩ := Option.isSome_iff_exists.mp isFound
    refine ⟨found, isFound, ?_⟩
    -- no two edges have the same ends
    have sameToo := List.find?_some isFound
    rw [decide_eq_true_eq] at sameToo
    have distinct := List.pairwise_map.mp graph.edgesDistinct
    have : Std.Symm fun entry other : (I × I) × E =>
        ¬SameEnds entry.1 other.1 :=
      ⟨fun _ _ apart same => apart same.symm⟩
    have isSame : found = entry := by
      by_contra differ
      exact (distinct.forall (List.mem_of_find?_eq_some isFound) isEntry
        differ) (sameToo.trans sameEnds.symm)
    rw [isSame]
    exact isData

theorem mem_adjacency
    {id other : I}
    {data : E} :
    (other, data) ∈ graph.adjacency id ↔
      graph.edge? id other = some data := by
  rw [edge?_eq_some_iff, adjacency, List.mem_filterMap]
  refine exists_congr fun entry => and_congr_right fun _ => ?_
  rw [Option.map_eq_some_iff]
  constructor
  · rintro ⟨found, isOther, same⟩
    cases same
    exact ⟨otherEnd_eq_some_iff.mp isOther, rfl⟩
  · rintro ⟨sameEnds, rfl⟩
    exact ⟨other, otherEnd_eq_some_iff.mpr sameEnds, rfl⟩

/-- A node has one edge at most to another one. -/
theorem adjacency_pairwise
    (id : I) :
    (graph.adjacency id).Pairwise fun first second => first.1 ≠ second.1 := by
  refine (List.pairwise_map.mp graph.edgesDistinct).filterMap _ ?_
  intro first second apart neighbor isNeighbor other isOther same
  obtain ⟨firstEnd, isFirst, rfl⟩ := Option.map_eq_some_iff.mp isNeighbor
  obtain ⟨secondEnd, isSecond, rfl⟩ := Option.map_eq_some_iff.mp isOther
  obtain rfl : firstEnd = secondEnd := same
  exact apart ((otherEnd_eq_some_iff.mp isFirst).trans
    (otherEnd_eq_some_iff.mp isSecond).symm)

variable
  {seen ids : List I}

theorem of_mem_reportFrom
    {entry : (I × I) × E}
    (isReported : entry ∈ graph.reportFrom seen ids) :
    entry.1.1 ∈ ids ∧ entry.1.2 ∉ seen ∧
      graph.edge? entry.1.1 entry.1.2 = some entry.2 := by
  induction ids generalizing seen with
  | nil =>
      exact nomatch isReported
  | cons id rest inductionHypothesis =>
      rw [reportFrom, List.mem_append, List.mem_map] at isReported
      cases isReported with
      | inl isHere =>
          obtain ⟨neighbor, isNeighbor, rfl⟩ := isHere
          rw [List.mem_filter, decide_eq_true_eq] at isNeighbor
          exact ⟨List.mem_cons_self, isNeighbor.2,
            mem_adjacency.mp isNeighbor.1⟩
      | inr isLater =>
          obtain ⟨isId, notSeen, isEdge⟩ := inductionHypothesis isLater
          exact ⟨List.mem_cons_of_mem id isId,
            fun isSeen => notSeen (List.mem_cons_of_mem id isSeen), isEdge⟩

theorem reportFrom_pairwise
    (distinct : ids.Nodup) :
    (graph.reportFrom seen ids).Pairwise fun first second =>
      ¬SameEnds first.1 second.1 := by
  induction ids generalizing seen with
  | nil =>
      exact .nil
  | cons id rest inductionHypothesis =>
      rw [List.nodup_cons] at distinct
      rw [reportFrom, List.pairwise_append]
      refine ⟨?_, inductionHypothesis distinct.2, ?_⟩
      · rw [List.pairwise_map]
        refine ((graph.adjacency_pairwise id).filter _).imp ?_
        intro first second apart same
        rw [SameEnds, Prod.ext_iff, Prod.ext_iff] at same
        cases same with
        | inl same =>
            exact apart same.2
        | inr same =>
            exact apart (same.2.trans same.1)
      · intro first isHere second isLater same
        obtain ⟨neighbor, -, rfl⟩ := List.mem_map.mp isHere
        obtain ⟨isLaterId, notSeen, -⟩ := of_mem_reportFrom isLater
        rw [List.mem_cons, not_or] at notSeen
        cases same with
        | inl same =>
            rw [← same] at isLaterId
            exact distinct.1 isLaterId
        | inr same =>
            rw [Prod.ext_iff] at same
            exact notSeen.1 same.1.symm

theorem mem_reportFrom
    {data : E}
    (isEdge : graph.edge? first second = some data)
    (isFirst : first ∈ ids)
    (isSecond : second ∈ ids)
    (firstNotSeen : first ∉ seen)
    (secondNotSeen : second ∉ seen) :
    ∃ entry ∈ graph.reportFrom seen ids,
      SameEnds entry.1 (first, second) ∧ entry.2 = data := by
  induction ids generalizing seen with
  | nil =>
      exact nomatch isFirst
  | cons id rest inductionHypothesis =>
      have reportsHere : ∀ other, graph.edge? id other = some data →
          other ∉ seen →
          ((id, other), data) ∈ graph.reportFrom seen (id :: rest) := by
        intro other isOther notSeen
        rw [reportFrom, List.mem_append, List.mem_map]
        refine .inl ⟨(other, data), ?_, rfl⟩
        exact List.mem_filter.mpr
          ⟨mem_adjacency.mpr isOther, decide_eq_true notSeen⟩
      by_cases atFirst : first = id
      · rw [atFirst] at isEdge ⊢
        exact ⟨_, reportsHere second isEdge secondNotSeen, .inl rfl, rfl⟩
      · by_cases atSecond : second = id
        · rw [edge?_comm, atSecond] at isEdge
          rw [atSecond]
          exact ⟨_, reportsHere first isEdge firstNotSeen, .swap _ _, rfl⟩
        · have later {end' : I} (notHere : end' ≠ id)
              (notSeen : end' ∉ seen) : end' ∉ id :: seen := by
            rw [List.mem_cons, not_or]
            exact ⟨notHere, notSeen⟩
          obtain ⟨entry, isReported, same⟩ := inductionHypothesis
            (List.mem_of_ne_of_mem atFirst isFirst)
            (List.mem_of_ne_of_mem atSecond isSecond)
            (later atFirst firstNotSeen) (later atSecond secondNotSeen)
          refine ⟨entry, ?_, same⟩
          rw [reportFrom, List.mem_append]
          exact .inr isReported

theorem reportedEdges_pairwise :
    graph.reportedEdges.Pairwise fun first second =>
      ¬SameEnds first.1 second.1 :=
  reportFrom_pairwise graph.nodesDistinct

theorem reportedEdges_iff
    (isFirst : graph.hasNode first)
    (isSecond : graph.hasNode second)
    {data : E} :
    (∃ entry ∈ graph.reportedEdges,
      SameEnds entry.1 (first, second) ∧ entry.2 = data) ↔
        graph.edge? first second = some data := by
  constructor
  · rintro ⟨⟨⟨a, b⟩, _⟩, isReported, same, rfl⟩
    have isEdge := (of_mem_reportFrom isReported).2.2
    cases same with
    | inl same =>
        cases same
        exact isEdge
    | inr same =>
        cases same
        rw [edge?_comm]
        exact isEdge
  · intro isEdge
    exact mem_reportFrom isEdge (of_decide_eq_true isFirst)
      (of_decide_eq_true isSecond) List.not_mem_nil List.not_mem_nil

theorem edges_addEdge
    (isNew : ∀ entry ∈ graph.edges, ¬SameEnds entry.1 (first, second))
    (data : E) :
    (graph.addEdge first second data).edges =
      graph.edges ++ [((first, second), data)] := by
  have appended : ∀ edges : List ((I × I) × E),
      (∀ entry ∈ edges, ¬SameEnds entry.1 (first, second)) →
        insertEdge (first, second) data edges =
          edges ++ [((first, second), data)] := by
    intro edges isNew
    induction edges with
    | nil =>
        rfl
    | cons entry rest inductionHypothesis =>
        rw [List.forall_mem_cons] at isNew
        rw [insertEdge, if_neg isNew.1, inductionHypothesis isNew.2]
        rfl
  exact appended graph.edges isNew

end NetworkGraph

end NavBim
