import Mathlib.Data.List.Nodup

namespace NavBim

/-!
# Simple graphs with attributes

An undirected graph that keeps its nodes and its edges in the order in which
they were added.  There is one edge at most between two nodes; adding it again
replaces its attributes and keeps its place.  The neighbours of a node come in
the order of its edges.
-/

section Ends

variable {I : Type}

/-- Two pairs of ends belong to the same edge. -/
def SameEnds
    (first second : I × I) : Prop :=
  first = second ∨ first = second.swap

instance [DecidableEq I] (first second : I × I) :
    Decidable (SameEnds first second) :=
  inferInstanceAs (Decidable (_ ∨ _))

theorem SameEnds.symm
    {first second : I × I}
    (same : SameEnds first second) :
    SameEnds second first := by
  rcases same with rfl | rfl
  · exact .inl rfl
  · exact .inr (Prod.swap_swap second).symm

theorem SameEnds.trans
    {first second third : I × I}
    (same : SameEnds first second)
    (same' : SameEnds second third) :
    SameEnds first third := by
  rcases same with rfl | rfl
  · exact same'
  · rcases same' with rfl | rfl
    · exact .inr rfl
    · exact .inl (Prod.swap_swap third)

theorem SameEnds.swap
    (first second : I) :
    SameEnds (first, second) (second, first) :=
  .inr rfl

/-- The other end of an edge. -/
def otherEnd
    [DecidableEq I]
    (id : I)
    (ends : I × I) : Option I :=
  if ends.1 = id then some ends.2
  else if ends.2 = id then some ends.1
  else none

theorem otherEnd_eq_some_iff
    [DecidableEq I]
    {id other : I}
    {ends : I × I} :
    otherEnd id ends = some other ↔ SameEnds ends (id, other) := by
  obtain ⟨first, second⟩ := ends
  simp only [otherEnd, SameEnds, Prod.swap_prod_mk, Prod.mk.injEq]
  split
  · rename_i isFirst
    subst isFirst
    constructor
    · intro isOther
      exact .inl ⟨rfl, Option.some.inj isOther⟩
    · rintro (⟨-, rfl⟩ | ⟨rfl, rfl⟩)
      · rfl
      · rfl
  · rename_i notFirst
    split
    · rename_i isSecond
      subst isSecond
      simp [notFirst]
    · rename_i notSecond
      simp [notFirst, notSecond]

end Ends

structure NetworkGraph (I N E : Type) where
  nodes : List (I × N)
  edges : List ((I × I) × E)
  nodesDistinct : (nodes.map Prod.fst).Nodup
  edgesDistinct : (edges.map Prod.fst).Pairwise fun first second =>
    ¬ SameEnds first second

namespace NetworkGraph

section Entries

variable {I N E : Type} [DecidableEq I]

/-- Update the entry of a node, or append a new one. -/
def insertNode
    (id : I)
    (update : Option N → N) :
    List (I × N) → List (I × N)
  | [] => [(id, update none)]
  | node :: rest =>
      if node.1 = id then
        (id, update (some node.2)) :: rest
      else
        node :: insertNode id update rest

theorem insertNode_ids
    (id : I)
    (update : Option N → N)
    (nodes : List (I × N)) :
    (insertNode id update nodes).map Prod.fst =
      if id ∈ nodes.map Prod.fst then
        nodes.map Prod.fst
      else
        nodes.map Prod.fst ++ [id] := by
  induction nodes with
  | nil => rfl
  | cons node rest inductionHypothesis =>
      rw [insertNode]
      split
      · rename_i isNode
        simp [isNode]
      · rename_i notNode
        simp only [List.map_cons, inductionHypothesis, List.mem_cons,
          Ne.symm notNode, false_or]
        split <;> rfl

theorem mem_insertNode
    {id : I}
    {update : Option N → N}
    {nodes : List (I × N)}
    {node : I × N}
    (isMember : node ∈ insertNode id update nodes) :
    node ∈ nodes ∨ ∃ old, node = (id, update old) := by
  induction nodes with
  | nil => exact .inr ⟨none, List.mem_singleton.mp isMember⟩
  | cons first rest inductionHypothesis =>
      rw [insertNode] at isMember
      split at isMember
      · rcases List.mem_cons.mp isMember with isFirst | isLater
        · exact .inr ⟨some first.2, isFirst⟩
        · exact .inl (List.mem_cons_of_mem first isLater)
      · rcases List.mem_cons.mp isMember with rfl | isLater
        · exact .inl List.mem_cons_self
        · exact (inductionHypothesis isLater).imp_left
            (List.mem_cons_of_mem first)

/-- Replace the attributes of an edge, or append a new one. -/
def insertEdge
    (ends : I × I)
    (data : E) :
    List ((I × I) × E) → List ((I × I) × E)
  | [] => [(ends, data)]
  | edge :: rest =>
      if SameEnds edge.1 ends then
        (edge.1, data) :: rest
      else
        edge :: insertEdge ends data rest

theorem insertEdge_ends
    (ends : I × I)
    (data : E)
    (edges : List ((I × I) × E)) :
    (insertEdge ends data edges).map Prod.fst = edges.map Prod.fst ∨
      (insertEdge ends data edges).map Prod.fst =
          edges.map Prod.fst ++ [ends] ∧
        ∀ edge ∈ edges, ¬ SameEnds edge.1 ends := by
  induction edges with
  | nil => exact .inr ⟨rfl, by simp⟩
  | cons edge rest inductionHypothesis =>
      rw [insertEdge]
      split
      · exact .inl rfl
      · rename_i notEdge
        rcases inductionHypothesis with replaced | ⟨added, isNew⟩
        · exact .inl (congrArg (edge.1 :: ·) replaced)
        · exact .inr ⟨congrArg (edge.1 :: ·) added,
            List.forall_mem_cons.mpr ⟨notEdge, isNew⟩⟩

theorem find?_insertEdge
    (ends wanted : I × I)
    (data : E)
    (edges : List ((I × I) × E)) :
    ((insertEdge ends data edges).find? fun edge =>
        SameEnds edge.1 wanted).map Prod.snd =
      if SameEnds ends wanted then
        some data
      else
        (edges.find? fun edge => SameEnds edge.1 wanted).map Prod.snd := by
  induction edges with
  | nil =>
      simp only [insertEdge, List.find?_cons, List.find?_nil]
      split <;> simp_all
  | cons edge rest inductionHypothesis =>
      rw [insertEdge]
      split
      · rename_i isEdge
        have sameWanted :
            SameEnds edge.1 wanted ↔ SameEnds ends wanted :=
          ⟨isEdge.symm.trans, isEdge.trans⟩
        simp only [List.find?_cons, sameWanted]
        split
        · simp_all
        · simp_all
      · rename_i notEdge
        simp only [List.find?_cons]
        split
        · rename_i isWanted
          have notSame : ¬ SameEnds ends wanted := fun same =>
            notEdge ((of_decide_eq_true isWanted).trans same.symm)
          rw [if_neg notSame]
        · exact inductionHypothesis

end Entries

variable {I N E : Type} [DecidableEq I]

def empty : NetworkGraph I N E where
  nodes := []
  edges := []
  nodesDistinct := List.nodup_nil
  edgesDistinct := List.Pairwise.nil

variable
  (graph : NetworkGraph I N E)

def node?
    (id : I) : Option N :=
  (graph.nodes.find? fun node => node.1 = id).map Prod.snd

def hasNode
    (id : I) : Bool :=
  id ∈ graph.nodes.map Prod.fst

def edge?
    (first second : I) : Option E :=
  (graph.edges.find? fun edge => SameEnds edge.1 (first, second)).map Prod.snd

def hasEdge
    (first second : I) : Bool :=
  (graph.edge? first second).isSome

/-- Add a node, or update its attributes. -/
def addNode
    (id : I)
    (update : Option N → N) : NetworkGraph I N E where
  nodes := insertNode id update graph.nodes
  edges := graph.edges
  nodesDistinct := by
    rw [insertNode_ids]
    split
    · exact graph.nodesDistinct
    · rename_i isNew
      exact graph.nodesDistinct.append (List.nodup_singleton id)
        (List.disjoint_singleton.mpr isNew)
  edgesDistinct := graph.edgesDistinct

def addEdge
    (first second : I)
    (data : E) : NetworkGraph I N E where
  nodes := graph.nodes
  edges := insertEdge (first, second) data graph.edges
  nodesDistinct := graph.nodesDistinct
  edgesDistinct := by
    rcases insertEdge_ends (first, second) data graph.edges with
      replaced | ⟨added, isNew⟩
    · rw [replaced]
      exact graph.edgesDistinct
    · rw [added, List.pairwise_append]
      refine ⟨graph.edgesDistinct, List.pairwise_singleton _ _, ?_⟩
      simpa using isNew

/-- A node is removed together with its edges. -/
def removeNode
    (id : I) : NetworkGraph I N E where
  nodes := graph.nodes.filter fun node => node.1 ≠ id
  edges := graph.edges.filter fun edge => edge.1.1 ≠ id ∧ edge.1.2 ≠ id
  nodesDistinct :=
    graph.nodesDistinct.sublist (List.filter_sublist.map Prod.fst)
  edgesDistinct :=
    graph.edgesDistinct.sublist (List.filter_sublist.map Prod.fst)

/-- The neighbours of a node with the attributes of the edges. -/
def adjacency
    (id : I) : List (I × E) :=
  graph.edges.filterMap fun edge =>
    (otherEnd id edge.1).map fun other => (other, edge.2)

def neighbors
    (id : I) : List I :=
  graph.edges.filterMap fun edge => otherEnd id edge.1

/-- The edges in the order in which they are reported: node by node, without
those to nodes that came before. -/
def reportFrom
    (seen : List I) :
    List I → List ((I × I) × E)
  | [] => []
  | id :: rest =>
      ((graph.adjacency id).filter fun neighbor => neighbor.1 ∉ seen).map
          (fun neighbor => ((id, neighbor.1), neighbor.2)) ++
        reportFrom (id :: seen) rest

def reportedEdges
    (graph : NetworkGraph I N E) : List ((I × I) × E) :=
  graph.reportFrom [] (graph.nodes.map Prod.fst)

/-- A copy adds the edges in the order in which they are reported. -/
def copy
    (graph : NetworkGraph I N E) : NetworkGraph I N E :=
  graph.reportedEdges.foldl
    (fun copied edge => copied.addEdge edge.1.1 edge.1.2 edge.2)
    { graph with edges := [], edgesDistinct := List.Pairwise.nil }

@[simp] theorem nodes_addEdge
    (graph : NetworkGraph I N E)
    (first second : I)
    (data : E) :
    (graph.addEdge first second data).nodes = graph.nodes :=
  rfl

@[simp] theorem nodes_copy
    (graph : NetworkGraph I N E) :
    graph.copy.nodes = graph.nodes := by
  refine List.foldlRecOn (motive := fun copied : NetworkGraph I N E =>
    copied.nodes = graph.nodes) _ _ rfl ?_
  intro copied sameNodes edge _
  exact sameNodes

theorem node?_eq_some_iff
    {id : I}
    {node : N} :
    graph.node? id = some node ↔ (id, node) ∈ graph.nodes := by
  simp only [node?, Option.map_eq_some_iff, Prod.exists, exists_eq_right]
  constructor
  · rintro ⟨foundId, found⟩
    have isId : foundId = id := by
      simpa using List.find?_some found
    subst isId
    exact List.mem_of_find?_eq_some found
  · intro isMember
    have isFound : (graph.nodes.find? fun node => node.1 = id).isSome := by
      rw [List.find?_isSome]
      exact ⟨(id, node), isMember, by simp⟩
    obtain ⟨⟨foundId, found⟩, isFound⟩ := Option.isSome_iff_exists.mp isFound
    have isId : foundId = id := by
      simpa using List.find?_some isFound
    subst isId
    have sameNode : (foundId, found) = (foundId, node) :=
      List.inj_on_of_nodup_map graph.nodesDistinct
        (List.mem_of_find?_eq_some isFound) isMember rfl
    exact ⟨foundId, sameNode ▸ isFound⟩

theorem edge?_addEdge
    (first second : I)
    (data : E)
    (a b : I) :
    (graph.addEdge first second data).edge? a b =
      if SameEnds (first, second) (a, b) then some data
      else graph.edge? a b :=
  find?_insertEdge (first, second) (a, b) data graph.edges

theorem edge?_comm
    (first second : I) :
    graph.edge? first second = graph.edge? second first := by
  have sameEdge : ∀ ends : I × I,
      SameEnds ends (first, second) ↔ SameEnds ends (second, first) :=
    fun ends => ⟨fun same => same.trans (.swap first second),
      fun same => same.trans (.swap second first)⟩
  simp only [edge?, sameEdge]

theorem mem_neighbors
    {id other : I} :
    other ∈ graph.neighbors id ↔ graph.hasEdge id other = true := by
  simp only [neighbors, List.mem_filterMap, otherEnd_eq_some_iff, hasEdge,
    edge?, Option.isSome_map, List.find?_isSome, decide_eq_true_eq]

end NetworkGraph

end NavBim
