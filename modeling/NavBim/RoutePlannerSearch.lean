import Mathlib.Tactic
import NavBim.LabelSearch
import NavBim.RoutePlanner

namespace NavBim.RoutePlanner

/-!
# The routes that the planner finds

The search of the planner is a search with labels over the edges that have a
cost.  Each part of the loop is one of the steps of such a search.  Only the
goal is never settled, since the search ends when it comes to it, and so the
way back from the goal does not change what it reads.
-/

open LabelSearch

variable {F Request : Type} [AddCommMonoid F] [LinearOrder F]

section Network

variable
  (call : RouteCall F Request)
  (startId goalId : UInt32)

/-- The cost of an edge that can be used. -/
def edgePrice
    (pointer : EdgePtr) : Option F :=
  match call.graph.edge? pointer with
  | none => none
  | some edge =>
      match getTraversalCost call startId goalId pointer edge with
      | .cost value => some value
      | _ => none

/-- The edges that a route may use, with their costs. -/
def routeNetwork : Network Nat EdgePtr F where
  start := call.startIndex
  source := EdgePtr.start
  target pointer :=
    (call.graph.edge? pointer).elim pointer.start DirectionalEdge.endNode
  price := edgePrice call startId goalId

/-- Consecutive edges that can be used, from the start to the goal, with the
sum of their costs. -/
def IsRoute
    (edges : List EdgePtr)
    (total : F) : Prop :=
  Walk (routeNetwork call startId goalId) call.goalIndex edges total

/-- What a search knows about the nodes. -/
def labelsOf
    (states : Nat → SearchState F) : Labels Nat EdgePtr F where
  cost index := (states index).integratedCost
  parent index := (states index).parentEdge

/-- The node has an entry in the queue. -/
def IsOpen
    (queue : List (QueueElement F))
    (key : F)
    (index : Nat) : Prop :=
  (⟨key, ⟨call.graphId, index⟩⟩ : QueueElement F) ∈ queue

/-- The entry points to a node of the graph of the call. -/
def IsOwn
    (element : QueueElement F) : Prop :=
  element.node.graph = call.graphId ∧
    element.node.index < call.graph.nodes.length

end Network

variable
  {queueOps : NodeQueue F}
  {call : RouteCall F Request}
  {startId goalId : UInt32}

omit [AddCommMonoid F] [LinearOrder F] in
theorem labelsOf_update
    (states : Nat → SearchState F)
    (index : Nat)
    (pointer : EdgePtr)
    (cost traversalCost : F) :
    labelsOf (Function.update states index
      { parentEdge := some pointer
        integratedCost := cost
        traversalCost := traversalCost }) =
      (labelsOf states).relabel index cost pointer := by
  rw [labelsOf, Labels.relabel]
  congr 1
  · funext other
    by_cases same : other = index
    · rw [same, Function.update_self, Function.update_self]
    · rw [Function.update_of_ne same, Function.update_of_ne same, labelsOf]
  · funext other
    by_cases same : other = index
    · rw [same, Function.update_self, Function.update_self]
    · rw [Function.update_of_ne same, Function.update_of_ne same, labelsOf]

theorem edgePrice_eq_some
    {pointer : EdgePtr}
    {value : F} :
    edgePrice call startId goalId pointer = some value ↔
      ∃ edge, call.graph.edge? pointer = some edge ∧
        getTraversalCost call startId goalId pointer edge = .cost value := by
  rw [edgePrice]
  cases found : call.graph.edge? pointer with
  | none =>
      simp
  | some edge =>
      simp only [Option.some.injEq, exists_eq_left']
      cases getTraversalCost call startId goalId pointer edge with
      | cost other => simp
      | unusable | error => simp

/-- The state of the search between two passes of a loop. -/
structure Searching
    (call : RouteCall F Request)
    (startId goalId : UInt32)
    (search : RouteSearch F)
    (Settled : Nat → Prop)
    (Waiting : EdgePtr → Prop) : Prop where
  invariant : Invariant (routeNetwork call startId goalId)
    (labelsOf search.states) (IsOpen call search.queue) Settled Waiting
  own : ∀ element ∈ search.queue, IsOwn call element
  goalUnsettled : ¬Settled call.goalIndex

/-- No usable edge has a negative cost. -/
def NonnegativeCosts
    (call : RouteCall F Request)
    (startId goalId : UInt32) : Prop :=
  ∀ pointer value,
    edgePrice call startId goalId pointer = some value → 0 ≤ value

omit [AddCommMonoid F] in
theorem mem_emplace
    {element other : QueueElement F}
    {queue : List (QueueElement F)} :
    other ∈ queueOps.emplace element queue ↔
      other = element ∨ other ∈ queue := by
  rw [(queueOps.emplace_perm element queue).mem_iff, List.mem_cons]

omit [AddCommMonoid F] in
theorem mem_of_pop
    {queue rest : List (QueueElement F)}
    {element other : QueueElement F}
    (popped : queueOps.pop queue = some (element, rest)) :
    other ∈ queue ↔ other = element ∨ other ∈ rest := by
  rw [← (queueOps.pop_perm popped).mem_iff, List.mem_cons]

/-- The edges of a node that have not been looked at yet. -/
def FromEdge
    (node edgeNum : Nat)
    (pointer : EdgePtr) : Prop :=
  pointer.start = node ∧ edgeNum ≤ pointer.edgeNum

theorem fromEdge_succ
    {node edgeNum : Nat}
    {pointer : EdgePtr}
    (waits : FromEdge node edgeNum pointer) :
    pointer = ⟨node, edgeNum⟩ ∨ FromEdge node (edgeNum + 1) pointer := by
  obtain ⟨start, place⟩ := pointer
  obtain ⟨sameStart, atLeast⟩ := waits
  rcases Nat.eq_or_lt_of_le atLeast with same | later
  · left
    exact congrArg₂ EdgePtr.mk sameStart same.symm
  · exact .inr ⟨sameStart, later⟩

/-- What holds while the edges of a settled node are looked at. -/
structure Expanding
    (call : RouteCall F Request)
    (startId goalId : UInt32)
    (node : Nat)
    (currCost : F)
    (search : RouteSearch F)
    (Settled : Nat → Prop)
    (Waiting : EdgePtr → Prop) : Prop
    extends Searching call startId goalId search Settled Waiting where
  settledNode : Settled node
  nodeCost : (search.states node).integratedCost = currCost
  floor : ∀ index, Settled index →
    (search.states index).integratedCost ≤ currCost

section Expand

variable
  {node edgeNum : Nat}
  {currCost : F}
  {search : RouteSearch F}
  {Settled : Nat → Prop}
  {edge : DirectionalEdge F}

theorem Expanding.pass
    (expanding : Expanding call startId goalId node currCost search Settled
      (FromEdge node edgeNum))
    (noGain : ∀ value,
      edgePrice call startId goalId ⟨node, edgeNum⟩ = some value →
      (search.states
        ((routeNetwork call startId goalId).target
          ⟨node, edgeNum⟩)).integratedCost ≤
        (currCost + value : F)) :
    Expanding call startId goalId node currCost search Settled
      (FromEdge node (edgeNum + 1)) where
  invariant := by
    refine expanding.invariant.pass ⟨node, edgeNum⟩ ?_
      fun other => fromEdge_succ
    intro value priced
    have below := noGain value priced
    rw [WithTop.coe_add, ← expanding.nodeCost] at below
    exact below
  own := expanding.own
  goalUnsettled := expanding.goalUnsettled
  settledNode := expanding.settledNode
  nodeCost := expanding.nodeCost
  floor := expanding.floor

theorem target_of_edge
    {pointer : EdgePtr}
    (found : call.graph.edge? pointer = some edge) :
    (routeNetwork call startId goalId).target pointer = edge.endNode := by
  rw [routeNetwork]
  simp only [found, Option.elim_some]

variable [IsOrderedAddMonoid F]

/-- A cheaper way to a neighbor is a step of the search with labels. -/
theorem Expanding.reach
    (expanding : Expanding call startId goalId node currCost search Settled
      (FromEdge node edgeNum))
    (nonneg : NonnegativeCosts call startId goalId)
    (found : call.graph.edge? ⟨node, edgeNum⟩ = some edge)
    {value : F}
    (priced : edgePrice call startId goalId ⟨node, edgeNum⟩ = some value)
    (gain : (currCost + value : F) <
      (search.states edge.endNode).integratedCost) :
    Expanding call startId goalId node currCost
      (reach queueOps call search edge.endNode ⟨node, edgeNum⟩
        (currCost + value) value) Settled
      (FromEdge node (edgeNum + 1)) := by
  have isTarget : (routeNetwork call startId goalId).target ⟨node, edgeNum⟩ =
      edge.endNode := target_of_edge found
  have valueNonneg := nonneg _ value priced
  have kept : ∀ index, Settled index → index ≠ edge.endNode := by
    intro index settled same
    have below := expanding.floor index settled
    rw [same] at below
    have above : (search.states edge.endNode).integratedCost ≤
        (currCost + value : F) :=
      below.trans (WithTop.coe_le_coe.mpr (le_add_of_nonneg_right valueNonneg))
    exact absurd gain (not_lt.mpr above)
  constructor
  case toSearching =>
    constructor
    case invariant =>
      rw [RoutePlanner.reach, labelsOf_update, ← isTarget]
      refine expanding.invariant.relax ⟨node, edgeNum⟩
        expanding.settledNode expanding.nodeCost priced valueNonneg
        expanding.floor ?_ ?_ fun other => fromEdge_succ
      · rw [isTarget]
        exact gain
      · intro other index
        rw [IsOpen, mem_emplace, isTarget]
        simp [IsOpen]
    case own =>
      intro element member
      rw [RoutePlanner.reach] at member
      rcases mem_emplace.mp member with isNew | before
      · rw [isNew]
        exact ⟨rfl, call.graph.endNode_lt found⟩
      · exact expanding.own element before
    case goalUnsettled =>
      exact expanding.goalUnsettled
  case settledNode =>
    exact expanding.settledNode
  case nodeCost =>
    rw [reach_states_of_ne queueOps call
      (kept node expanding.settledNode)]
    exact expanding.nodeCost
  case floor =>
    intro index settled
    rw [reach_states_of_ne queueOps call (kept index settled)]
    exact expanding.floor index settled

/-- An edge whose cost throws, at the end of edges that can be used. -/
def ThrowsAt
    (call : RouteCall F Request)
    (startId goalId : UInt32)
    (error : RouteError) : Prop :=
  ∃ pointer edge edges total,
    call.graph.edge? pointer = some edge ∧
      getTraversalCost call startId goalId pointer edge = .error error ∧
      Walk (routeNetwork call startId goalId) pointer.start edges total

/-- The loop over the edges of a node looks at all of them, or an exception
ends it. -/
theorem expandEdges_spec
    (queueOps : NodeQueue F)
    (nonneg : NonnegativeCosts call startId goalId)
    (edges : List (DirectionalEdge F))
    (edgeNum : Nat)
    (search : RouteSearch F)
    (remaining : edges = (call.graph.getEdges node).drop edgeNum)
    (expanding : Expanding call startId goalId node currCost search Settled
      (FromEdge node edgeNum)) :
    match expandEdges queueOps call startId goalId currCost node edges
      edgeNum search with
    | (none, after) =>
        Searching call startId goalId after Settled fun _ => False
    | (some error, _) => ThrowsAt call startId goalId error := by
  induction edges generalizing edgeNum search with
  | nil =>
      rw [expandEdges]
      refine ⟨?_, expanding.own, expanding.goalUnsettled⟩
      have noneLeft : ∀ pointer value, FromEdge node edgeNum pointer →
          edgePrice call startId goalId pointer ≠ some value := by
        intro pointer value waits priced
        obtain ⟨edge, found, -⟩ := edgePrice_eq_some.mp priced
        rw [RouteGraph.edge?, waits.1] at found
        have inside := (List.getElem?_eq_some_iff.mp found).1
        have outside := List.drop_eq_nil_iff.mp remaining.symm
        exact absurd inside (not_lt.mpr (outside.trans waits.2))
      exact expanding.invariant.waits fun pointer value priced waits =>
        noneLeft pointer value waits priced
  | cons edge rest inductionHypothesis =>
      obtain ⟨found, restRemaining⟩ := call.graph.edge_of_drop remaining
      have isTarget :
          (routeNetwork call startId goalId).target ⟨node, edgeNum⟩ =
            edge.endNode := target_of_edge found
      rw [expandEdges]
      cases cost : getTraversalCost call startId goalId ⟨node, edgeNum⟩ edge
        with
      | error error =>
          obtain ⟨edges, chain⟩ :=
            expanding.invariant.chained node currCost expanding.nodeCost
          exact ⟨⟨node, edgeNum⟩, edge, edges, currCost, found, cost,
            chain.walk⟩
      | unusable =>
          refine inductionHypothesis (edgeNum + 1) search restRemaining
            (expanding.pass fun value priced => ?_)
          obtain ⟨other, otherFound, priced⟩ := edgePrice_eq_some.mp priced
          rw [found] at otherFound
          rw [← Option.some.inj otherFound, cost] at priced
          cases priced
      | cost value =>
          have priced : edgePrice call startId goalId ⟨node, edgeNum⟩ =
              some value := edgePrice_eq_some.mpr ⟨edge, found, cost⟩
          by_cases gain : (currCost + value : F) <
              (search.states edge.endNode).integratedCost
          · simp only [gain, if_true]
            exact inductionHypothesis (edgeNum + 1) _ restRemaining
              (expanding.reach nonneg found priced gain)
          · simp only [gain, if_false]
            refine inductionHypothesis (edgeNum + 1) search restRemaining
              (expanding.pass fun other otherPriced => ?_)
            rw [priced] at otherPriced
            rw [← Option.some.inj otherPriced, isTarget]
            exact not_lt.mp gain

end Expand

/-- What the search has found out about the goal when it is finished. -/
def GoalSettled
    (call : RouteCall F Request)
    (startId goalId : UInt32)
    (states : Nat → SearchState F) : Prop :=
  (states call.goalIndex).integratedCost = ⊤ ∧
      (∀ edges total, ¬IsRoute call startId goalId edges total) ∨
    ∃ key : F, (states call.goalIndex).integratedCost = key ∧
      ∀ edges total, IsRoute call startId goalId edges total → key ≤ total

/-- The search states at the end of a search that is finished. -/
structure Finished
    (call : RouteCall F Request)
    (startId goalId : UInt32)
    (states : Nat → SearchState F) : Prop where
  goal : GoalSettled call startId goalId states
  chained : ∃ Open Settled,
    Invariant (routeNetwork call startId goalId) (labelsOf states) Open
        Settled (fun _ => False) ∧
      ¬Settled call.goalIndex

section Traverse

section

variable
  [IsOrderedAddMonoid F]
  {search : RouteSearch F}
  {Settled : Nat → Prop}
  (searching : Searching call startId goalId search Settled fun _ => False)
  (nonneg : NonnegativeCosts call startId goalId)

include searching nonneg

/-- An entry for the goal that is up to date ends the search. -/
theorem Searching.finished_at_goal
    {key : F}
    (isCost : (search.states call.goalIndex).integratedCost = key)
    (least : ∀ other ∈ search.queue, key ≤ other.cost) :
    Finished call startId goalId search.states where
  goal := .inr ⟨key, isCost, fun _ _ walk =>
    searching.invariant.least_le nonneg isCost
      (fun _ _ isOpen => least _ isOpen) walk⟩
  chained := ⟨_, _, searching.invariant, searching.goalUnsettled⟩

theorem Searching.finished_of_empty
    (empty : search.queue = []) :
    Finished call startId goalId search.states := by
  have noneOpen : ∀ key index, ¬IsOpen call search.queue key index := by
    intro key index isOpen
    rw [IsOpen, empty] at isOpen
    exact absurd isOpen List.not_mem_nil
  have unreached : (search.states call.goalIndex).integratedCost = ⊤ := by
    by_contra finite
    rcases searching.invariant.held call.goalIndex finite with
      settled | ⟨key, -, isOpen⟩
    · exact searching.goalUnsettled settled
    · exact noneOpen key _ isOpen
  exact
    ⟨.inl ⟨unreached,
        searching.invariant.not_walk nonneg noneOpen unreached⟩,
      ⟨_, _, searching.invariant, searching.goalUnsettled⟩⟩

end

section

variable
  {search : RouteSearch F}
  {Settled : Nat → Prop}
  (searching : Searching call startId goalId search Settled fun _ => False)
  {element : QueueElement F}
  {rest : List (QueueElement F)}
  (popped : queueOps.pop search.queue = some (element, rest))

include searching popped

theorem Searching.expanding
    (upToDate : (search.states element.node.index).integratedCost =
      element.cost)
    (notGoal : element.node.index ≠ call.goalIndex) :
    Expanding call startId goalId element.node.index element.cost
      { search with queue := rest }
      (fun index => Settled index ∨ index = element.node.index)
      (FromEdge element.node.index 0) := by
  have member : element ∈ search.queue :=
    (mem_of_pop popped).mpr (.inl rfl)
  have isOwn := searching.own element member
  have least := queueOps.pop_least popped
  have different : ∀ other index,
      (other, index) ≠ (element.cost, element.node.index) →
      IsOpen call search.queue other index → IsOpen call rest other index := by
    intro other index notPopped isOpen
    rcases (mem_of_pop popped).mp isOpen with same | later
    · exact absurd (by rw [← same]) notPopped
    · exact later
  constructor
  case toSearching =>
    constructor
    case invariant =>
      refine (searching.invariant.settle upToDate
        (fun other index isOpen => least _ isOpen)
        (fun other index isOpen => (mem_of_pop popped).mpr (.inr isOpen))
        different).waits ?_
      intro pointer value priced isSource
      exact ⟨isSource, Nat.zero_le _⟩
    case own =>
      intro other later
      exact searching.own other ((mem_of_pop popped).mpr (.inr later))
    case goalUnsettled =>
      rintro (settled | isGoal)
      · exact searching.goalUnsettled settled
      · exact notGoal isGoal.symm
  case settledNode =>
    exact .inr rfl
  case nodeCost =>
    exact upToDate
  case floor =>
    intro index settled
    have isOpen :
        IsOpen call search.queue element.cost element.node.index := by
      rw [IsOpen, ← isOwn.1]
      exact member
    rcases settled with before | same
    · exact searching.invariant.settled_le index _ _ before isOpen
    · rw [same]
      exact upToDate.le

/-- An entry that is out of date is dropped. -/
theorem Searching.skip
    (outdated : (element.cost : WithTop F) ≠
      (search.states element.node.index).integratedCost) :
    Searching call startId goalId { search with queue := rest } Settled
      fun _ => False where
  invariant := by
    refine searching.invariant.skip outdated.symm
      (fun other index isOpen => (mem_of_pop popped).mpr (.inr isOpen)) ?_
    intro other index notPopped isOpen
    rcases (mem_of_pop popped).mp isOpen with same | later
    · exact absurd (by rw [← same]) notPopped
    · exact later
  own other later :=
    searching.own other ((mem_of_pop popped).mpr (.inr later))
  goalUnsettled := searching.goalUnsettled

end

/-- The search ends at the goal or with an empty queue, or at its limit, or
with the exception of an edge that it met. -/
theorem traverse_spec
    [IsOrderedAddMonoid F]
    (queueOps : NodeQueue F)
    (startId : UInt32)
    (nonneg : NonnegativeCosts call startId goalId)
    (goalIs : call.graph.nodeid? call.goalIndex = some goalId)
    (goalUnique : ∀ index, call.graph.nodeid? index = some goalId →
      index = call.goalIndex)
    (iterations : Nat)
    (search : RouteSearch F)
    (Settled : Nat → Prop)
    (searching :
      Searching call startId goalId search Settled fun _ => False) :
    match traverse queueOps call startId goalId iterations search with
    | (.finished, after) => Finished call startId goalId after.states
    | (.failed error, _) =>
        error = .timedOut "Maximum iterations was exceeded!" ∨
          ThrowsAt call startId goalId error
    | (.foreignNode, _) => False := by
  induction iterations generalizing search Settled with
  | zero =>
      exact .inl rfl
  | succ iterations inductionHypothesis =>
      rw [traverse]
      cases popped : queueOps.pop search.queue with
      | none =>
          have empty : search.queue = [] := by
            by_contra nonempty
            have isSome := queueOps.pop_isSome nonempty
            rw [popped] at isSome
            exact nomatch isSome
          exact searching.finished_of_empty nonneg empty
      | some entry =>
          obtain ⟨element, rest⟩ := entry
          have member : element ∈ search.queue :=
            (mem_of_pop popped).mpr (.inl rfl)
          have isOwn := searching.own element member
          have notForeign : ¬(element.node.graph ≠ call.graphId ∨
              call.graph.nodes.length ≤ element.node.index) := by
            rintro (otherGraph | outside)
            · exact otherGraph isOwn.1
            · exact absurd isOwn.2 (not_lt.mpr outside)
          simp only [notForeign, if_false]
          by_cases outdated : (element.cost : WithTop F) ≠
              (search.states element.node.index).integratedCost
          · simp only [outdated, ne_eq, not_false_eq_true, if_true]
            exact inductionHypothesis _ Settled
              (searching.skip popped outdated)
          · have upToDate := (not_ne_iff.mp outdated).symm
            simp only [outdated, if_false]
            by_cases isGoal :
                call.graph.nodeid? element.node.index = some goalId
            · simp only [isGoal, if_true]
              rw [goalUnique _ isGoal] at upToDate
              exact searching.finished_at_goal nonneg upToDate
                (queueOps.pop_least popped)
            · simp only [isGoal, if_false]
              have notGoal : element.node.index ≠ call.goalIndex := by
                intro same
                rw [same] at isGoal
                exact isGoal goalIs
              have expanded := expandEdges_spec queueOps nonneg
                (call.graph.getEdges element.node.index) 0
                { search with queue := rest } List.drop_zero.symm
                (searching.expanding popped upToDate notGoal)
              generalize expandEdges queueOps call startId goalId element.cost
                element.node.index
                (call.graph.getEdges element.node.index) 0
                { search with queue := rest } = outcome at expanded ⊢
              obtain ⟨error, after⟩ := outcome
              cases error with
              | none =>
                  exact inductionHypothesis after _ expanded
              | some error =>
                  exact .inr expanded

end Traverse

section Collect

theorem collectEdges_chain
    {labels : Labels Nat EdgePtr F}
    {Settled : Nat → Prop}
    {goal : Nat}
    (goalUnsettled : ¬Settled goal)
    (noParent : labels.parent call.startIndex = none)
    {vertex : Nat}
    {edges : List EdgePtr}
    {total : F}
    (chain : Chain (routeNetwork call startId goalId) labels Settled vertex
      edges total)
    {fuel : Nat}
    (enough : edges.length ≤ fuel)
    (states : Nat → SearchState F)
    (sameParent : (states goal).parentEdge = labels.parent vertex)
    (sameOthers : ∀ index, index ≠ goal →
      (states index).parentEdge = labels.parent index)
    (collected : List EdgePtr) :
    collectEdges goal fuel states collected =
      some (collected ++ edges.reverse) := by
  induction chain generalizing fuel states collected with
  | start =>
      have atStart : (states goal).parentEdge = none :=
        sameParent.trans noParent
      cases fuel with
      | zero | succ =>
          rw [collectEdges, atStart, List.reverse_nil, List.append_nil]
  | @step edges edge total price chain settled parent priced
      inductionHypothesis =>
      rw [List.length_append] at enough
      obtain ⟨fuel, rfl⟩ : ∃ smaller, fuel = smaller + 1 :=
        ⟨fuel - 1, (Nat.sub_add_cancel
          ((Nat.le_add_left 1 _).trans enough)).symm⟩
      have notGoal : edge.start ≠ goal := by
        intro same
        rw [← same] at goalUnsettled
        exact goalUnsettled settled
      have atEdge : (states goal).parentEdge = some edge :=
        sameParent.trans parent
      rw [collectEdges, atEdge]
      simp only
      rw [inductionHypothesis (Nat.le_of_succ_le_succ enough) _ ?_ ?_,
        List.reverse_append, List.reverse_singleton, List.append_assoc]
      · rw [Function.update_self]
        exact sameOthers edge.start notGoal
      · intro index different
        rw [Function.update_of_ne different]
        exact sameOthers index different

theorem length_chain_le
    {labels : Labels Nat EdgePtr F}
    {Settled : Nat → Prop}
    (noParent : labels.parent call.startIndex = none)
    {vertex : Nat}
    {edges : List EdgePtr}
    {total : F}
    (chain : Chain (routeNetwork call startId goalId) labels Settled vertex
      edges total) :
    edges.length ≤ call.graph.nodes.length := by
  have distinct := chain.sources_nodup noParent
  have inside : edges.map EdgePtr.start ⊆
      List.range call.graph.nodes.length := by
    intro index member
    obtain ⟨edge, isEdge, rfl⟩ := List.mem_map.mp member
    obtain ⟨value, priced⟩ := chain.walk.priced isEdge
    obtain ⟨found, isFound, -⟩ := edgePrice_eq_some.mp priced
    exact List.mem_range.mpr (call.graph.start_lt isFound)
  have shorter := (List.subperm_of_subset distinct inside).length_le
  rw [List.length_map, List.length_range] at shorter
  exact shorter

end Collect

section Route

theorem routeOf_finished
    {states : Nat → SearchState F}
    (finished : Finished call startId goalId states)
    (different : call.startIndex ≠ call.goalIndex) :
    (∃ route total,
      routeOf call states = .returned route ∧
        route.startNode = call.startIndex ∧
        route.routeCost = (total : F) ∧
        IsRoute call startId goalId route.edges total ∧
        ∀ edges other, IsRoute call startId goalId edges other →
          total ≤ other) ∨
      routeOf call states = .threw (.noValidRouteCouldBeFound
          "Could not find a route to the requested goal!") ∧
        ∀ edges total, ¬IsRoute call startId goalId edges total := by
  obtain ⟨Open, Settled, invariant, goalUnsettled⟩ := finished.chained
  rcases finished.goal with ⟨unreached, noRoute⟩ | ⟨key, isCost, least⟩
  · right
    have noParent : (states call.goalIndex).parentEdge = none :=
      invariant.unreached call.goalIndex unreached
    rw [routeOf, if_pos noParent]
    exact ⟨rfl, noRoute⟩
  · left
    obtain ⟨edges, chain⟩ := invariant.chained call.goalIndex key isCost
    have hasParent : (labelsOf states).parent call.goalIndex ≠ none := by
      generalize call.goalIndex = goal at chain different
      cases chain with
      | start =>
          exact absurd rfl different
      | step _ _ parent _ =>
          rw [parent]
          exact Option.some_ne_none _
    have collected := collectEdges_chain goalUnsettled invariant.start_parent
      chain (length_chain_le invariant.start_parent chain) states rfl
      (fun _ _ => rfl) []
    rw [List.nil_append] at collected
    refine ⟨⟨call.startIndex, edges, key⟩, key, ?_, rfl, rfl, chain.walk,
      least⟩
    have notNone : (states call.goalIndex).parentEdge ≠ none := hasParent
    rw [routeOf, if_neg notNone, collected]
    simp only [List.reverse_reverse, isCost]

end Route

section Claims

/-- The plugins are fixed functions, and no score is negative. -/
def ScoresNonnegative
    (call : RouteCall F Request) : Prop :=
  ∀ plugin ∈ call.plugins, ∀ pointer edgeType,
    plugin call.graph pointer call.request edgeType ≠ .raised ∧
      ∀ value, plugin call.graph pointer call.request edgeType =
        .scored value → 0 ≤ value

/-- An edge that is not blocked and should have a cost of its own, but the
cost is not positive. -/
structure HasNoCost
    (call : RouteCall F Request)
    (edge : DirectionalEdge F) : Prop where
  notBlocked : isBlocked call edge = false
  ownCost : edge.edgeCost.overridable = false ∨ call.plugins = []
  notPositive : edge.edgeCost.cost ≤ 0

/-- The message of the exception for an edge without a cost. -/
def noCostMessage
    (edge : DirectionalEdge F) : String :=
  "Edge " ++ toString edge.edgeid ++
    " doesn't contain and cannot compute a valid edge cost!"

variable [IsOrderedAddMonoid F]

/-- The sum of the scores of the plugins is not negative, and is there or the
edge is rejected. -/
theorem scoreFrom_nonneg
    (pointer : EdgePtr)
    (edgeType : EdgeType)
    (plugins : List
      (RouteGraph F → EdgePtr → Request → EdgeType → PluginScore F))
    (scores : ∀ plugin ∈ plugins,
      plugin call.graph pointer call.request edgeType ≠ .raised ∧
        ∀ value, plugin call.graph pointer call.request edgeType =
          .scored value → 0 ≤ value)
    {total : F}
    (nonneg : 0 ≤ total) :
    scoreFrom call pointer edgeType plugins total = .rejected ∨
      ∃ value, scoreFrom call pointer edgeType plugins total =
        .scored value ∧ 0 ≤ value := by
  induction plugins generalizing total with
  | nil =>
      exact .inr ⟨total, rfl, nonneg⟩
  | cons plugin rest inductionHypothesis =>
      have here := scores plugin (by simp)
      rw [scoreFrom]
      cases score : plugin call.graph pointer call.request edgeType with
      | scored value =>
          exact inductionHypothesis
            (fun other member => scores other (by simp [member]))
            (add_nonneg nonneg (here.2 value score))
      | rejected =>
          exact .inl rfl
      | raised =>
          exact absurd score here.1

theorem getTraversalCost_cases
    (scores : ScoresNonnegative call)
    (pointer : EdgePtr)
    (edge : DirectionalEdge F) :
    getTraversalCost call startId goalId pointer edge = .unusable ∨
      (∃ value, getTraversalCost call startId goalId pointer edge =
        .cost value ∧ 0 ≤ value) ∨
      getTraversalCost call startId goalId pointer edge =
          .error (.noValidGraph (noCostMessage edge)) ∧
        HasNoCost call edge := by
  rw [getTraversalCost]
  cases blocked : isBlocked call edge with
  | true =>
      exact .inl rfl
  | false =>
      simp only [Bool.false_eq_true, if_false]
      by_cases own : (!edge.edgeCost.overridable || call.plugins.isEmpty) = true
      · rw [if_pos own]
        by_cases notPositive : edge.edgeCost.cost ≤ 0
        · rw [if_pos notPositive]
          refine .inr (.inr ⟨rfl, blocked, ?_, notPositive⟩)
          rw [Bool.or_eq_true, Bool.not_eq_true', List.isEmpty_iff] at own
          exact own
        · rw [if_neg notPositive]
          exact .inr (.inl ⟨_, rfl, (not_le.mp notPositive).le⟩)
      · rw [if_neg own]
        rcases scoreFrom_nonneg pointer
          (classifyEdge call startId goalId pointer edge) call.plugins
          (fun plugin member => scores plugin member pointer _) le_rfl with
          rejected | ⟨value, scored, nonneg⟩
        · rw [rejected]
          exact .inl rfl
        · rw [scored]
          exact .inr (.inl ⟨value, rfl, nonneg⟩)

theorem nonnegativeCosts_of_scores
    (scores : ScoresNonnegative call) :
    NonnegativeCosts call startId goalId := by
  intro pointer value priced
  obtain ⟨edge, -, cost⟩ := edgePrice_eq_some.mp priced
  rcases getTraversalCost_cases scores pointer edge with
    unusable | ⟨other, isOther, nonneg⟩ | ⟨throws, -⟩
  · exact nomatch cost.symm.trans unusable
  · rw [cost] at isOther
    cases isOther
    exact nonneg
  · exact nomatch cost.symm.trans throws

omit [IsOrderedAddMonoid F] in
/-- The search before its first pass. -/
theorem searching_initial
    (inside : call.startIndex < call.graph.nodes.length)
    (queue : List (QueueElement F))
    (onlyStart : queue = queueOps.emplace
      ⟨0, ⟨call.graphId, call.startIndex⟩⟩ []) :
    Searching call startId goalId
      { states := Function.update (fun _ => {}) call.startIndex
          { integratedCost := (0 : F) }
        queue }
      (fun _ => False) (fun _ => False) where
  invariant := by
    have labels :
        labelsOf (Function.update (fun _ => {}) call.startIndex
          ({ integratedCost := (0 : F) } : SearchState F)) =
        Labels.initial call.startIndex := by
      rw [labelsOf, Labels.initial]
      congr 1
      · funext index
        by_cases isStart : index = call.startIndex
        · rw [isStart, Function.update_self, if_pos rfl]
          rfl
        · rw [Function.update_of_ne isStart, if_neg isStart]
      · funext index
        by_cases isStart : index = call.startIndex
        · rw [isStart, Function.update_self]
        · rw [Function.update_of_ne isStart]
    rw [labels]
    refine Invariant.initial (routeNetwork call startId goalId) ?_
    rw [IsOpen, onlyStart]
    exact mem_emplace.mpr (.inl rfl)
  own element member := by
    rw [onlyStart] at member
    rcases mem_emplace.mp member with isStart | isOther
    · rw [isStart]
      exact ⟨rfl, inside⟩
    · exact absurd isOther List.not_mem_nil
  goalUnsettled := id

theorem throwsAt_hasNoCost
    (scores : ScoresNonnegative call)
    {error : RouteError}
    (throws : ThrowsAt call startId goalId error) :
    ∃ pointer edge edges total,
      call.graph.edge? pointer = some edge ∧
        HasNoCost call edge ∧
        Walk (routeNetwork call startId goalId) pointer.start edges total ∧
        error = .noValidGraph (noCostMessage edge) := by
  obtain ⟨pointer, edge, edges, total, found, cost, walk⟩ := throws
  rcases getTraversalCost_cases scores pointer edge with
    unusable | ⟨value, isCost, -⟩ | ⟨isError, hasNoCost⟩
  · exact nomatch cost.symm.trans unusable
  · exact nomatch cost.symm.trans isCost
  · rw [cost] at isError
    exact
      ⟨pointer, edge, edges, total, found, hasNoCost, walk,
        TraversalCost.error.inj isError⟩

/-- The planner returns a cheapest route, or says that there is none, or meets
an edge that should have a cost and has none. -/
theorem findRoute_cheapest
    (queueOps : NodeQueue F)
    (planner : RoutePlanner F)
    (call : RouteCall F Request)
    (startId goalId : UInt32)
    (startFound : call.graph.nodeid? call.startIndex = some startId)
    (goalFound : call.graph.nodeid? call.goalIndex = some goalId)
    (different : call.startIndex ≠ call.goalIndex)
    (goalUnique : ∀ index, call.graph.nodeid? index = some goalId →
      index = call.goalIndex)
    (scores : ScoresNonnegative call)
    (emptyQueue : planner.queue = [])
    (inTime : (findRoute queueOps planner call).1 ≠
      .threw (.timedOut "Maximum iterations was exceeded!")) :
    (∃ route total,
      (findRoute queueOps planner call).1 = .returned route ∧
        route.startNode = call.startIndex ∧
        route.routeCost = (total : F) ∧
        IsRoute call startId goalId route.edges total ∧
        ∀ edges other, IsRoute call startId goalId edges other →
          total ≤ other) ∨
      ((findRoute queueOps planner call).1 =
          .threw (.noValidRouteCouldBeFound
            "Could not find a route to the requested goal!") ∧
        ∀ edges total, ¬IsRoute call startId goalId edges total) ∨
      ∃ pointer edge edges total,
        call.graph.edge? pointer = some edge ∧
          HasNoCost call edge ∧
          Walk (routeNetwork call startId goalId) pointer.start edges total ∧
          (findRoute queueOps planner call).1 =
            .threw (.noValidGraph (noCostMessage edge)) := by
  have nonempty : call.graph.nodes ≠ [] := by
    intro empty
    rw [RouteGraph.nodeid?, empty] at startFound
    exact nomatch startFound
  have inside : call.startIndex < call.graph.nodes.length := by
    by_contra outside
    rw [RouteGraph.nodeid?, List.getElem?_eq_none (not_lt.mp outside)]
      at startFound
    exact nomatch startFound
  have ended := traverse_spec queueOps startId
    (nonnegativeCosts_of_scores scores) goalFound goalUnique
    planner.maxIterations _ _
    (searching_initial inside
      (queueOps.emplace ⟨0, ⟨call.graphId, call.startIndex⟩⟩ planner.queue)
      (by rw [emptyQueue]))
  rw [findRoute, if_neg nonempty, startFound, goalFound] at inTime ⊢
  simp only [findShortestGraphTraversal] at inTime ⊢
  generalize traverse queueOps call startId goalId planner.maxIterations _ =
    outcome at ended inTime ⊢
  obtain ⟨ending, search⟩ := outcome
  cases ending with
  | finished =>
      rcases routeOf_finished ended different with found | none
      · exact .inl found
      · exact .inr (.inl none)
  | failed error =>
      rcases ended with isLate | throws
      · rw [isLate] at inTime
        exact absurd rfl inTime
      · obtain ⟨pointer, edge, edges, total, found, hasNoCost, walk, same⟩ :=
          throwsAt_hasNoCost scores throws
        rw [same]
        exact
          .inr (.inr
            ⟨pointer, edge, edges, total, found, hasNoCost, walk, rfl⟩)
  | foreignNode =>
      exact ended.elim

end Claims

section Examples

/-- A queue that looks through all of its entries. -/
def scanQueue
    (F : Type)
    [LinearOrder F] : NodeQueue F where
  emplace element queue := element :: queue
  pop queue := (queue.argmin QueueElement.cost).map fun element =>
    (element, queue.erase element)
  emplace_perm _ _ := .refl _
  pop_nil := rfl
  pop_perm popped := by
    obtain ⟨element, isLeast, same⟩ := Option.map_eq_some_iff.mp popped
    cases same
    exact (List.perm_cons_erase (List.argmin_mem isLeast)).symm
  pop_isSome nonempty := by
    rw [Option.isSome_map, Option.isSome_iff_ne_none]
    exact fun none => nonempty (List.argmin_eq_none.mp none)
  pop_least popped other member := by
    obtain ⟨element, isLeast, same⟩ := Option.map_eq_some_iff.mp popped
    cases same
    exact List.le_of_mem_argmin member isLeast

def exampleNode
    (nodeid : UInt32)
    (neighbors : List (DirectionalEdge ℕ)) : RouteNode ℕ where
  nodeid := nodeid
  coords := ⟨"map", 0, 0⟩
  neighbors := neighbors

def exampleEdge
    (edgeid : UInt32)
    (endNode cost : Nat) : DirectionalEdge ℕ where
  edgeid := edgeid
  endNode := endNode
  edgeCost := ⟨cost, true⟩

def exampleCall
    (graph : RouteGraph ℕ)
    (goalIndex : Nat) : RouteCall ℕ Unit where
  graphId := 0
  graph := graph
  startIndex := 0
  goalIndex := goalIndex
  blockedIds := []
  request := ()
  plugins := []

/-- Three nodes in a row, of which the last two have the same id. -/
def twinGraph : RouteGraph ℕ where
  nodes :=
    [exampleNode 1 [exampleEdge 10 1 1], exampleNode 2 [exampleEdge 11 2 1],
      exampleNode 2 []]
  endsInside := by simp [exampleNode, exampleEdge]

/-- An edge without a cost. -/
def freeGraph : RouteGraph ℕ where
  nodes := [exampleNode 1 [exampleEdge 10 1 0], exampleNode 2 []]
  endsInside := by simp [exampleNode, exampleEdge]

/-- An edge to the goal, a cheaper way over a third node, and an edge that is
cheaper still. -/
def detourGraph : RouteGraph ℕ where
  nodes :=
    [exampleNode 1
        [exampleEdge 10 1 4, exampleEdge 11 2 1, exampleEdge 13 1 1],
      exampleNode 2 [], exampleNode 3 [exampleEdge 12 1 1]]
  endsInside := by simp [exampleNode, exampleEdge]

/-- The cheapest edge is blocked. -/
def detourCall : RouteCall ℕ Unit :=
  { exampleCall detourGraph 1 with blockedIds := [13] }

/-- The search stops at the other node with the goal's id, and an edge without
a cost is not an edge that is left out. -/
theorem twin_goal_and_free_edge :
    ((findRoute (scanQueue ℕ) ⟨10, 0, 0, []⟩ (exampleCall twinGraph 2)).1 =
        .threw (.noValidRouteCouldBeFound
          "Could not find a route to the requested goal!") ∧
      IsRoute (exampleCall twinGraph 2) 1 2 [⟨0, 0⟩, ⟨1, 0⟩] 2) ∧
      (findRoute (scanQueue ℕ) ⟨10, 0, 0, []⟩ (exampleCall freeGraph 1)).1 =
        .threw (.noValidGraph
          "Edge 10 doesn't contain and cannot compute a valid edge cost!") :=
        by
  refine ⟨⟨by decide +kernel, ?_⟩, by decide +kernel⟩
  let network := routeNetwork (exampleCall twinGraph 2) 1 2
  have first : Walk network (network.target ⟨0, 0⟩) ([] ++ [⟨0, 0⟩]) (0 + 1) :=
    .step .start (by decide +kernel)
  have second : Walk network (network.target ⟨1, 0⟩)
      ([⟨0, 0⟩] ++ [⟨1, 0⟩]) (1 + 1) :=
    .step first (by decide +kernel)
  exact second

/-- The planner finds the cheapest of the two ways that are left. -/
theorem detour_route :
    ∃ route total,
      (findRoute (scanQueue ℕ) ⟨10, 0, 0, []⟩ detourCall).1 =
          .returned route ∧
        route.edges = [⟨0, 1⟩, ⟨2, 0⟩] ∧
        IsRoute detourCall 1 2 route.edges total ∧
        ∀ edges other, IsRoute detourCall 1 2 edges other →
          total ≤ other := by
  have found :
      (findRoute (scanQueue ℕ) ⟨10, 0, 0, []⟩ detourCall).1 =
        .returned ⟨0, [⟨0, 1⟩, ⟨2, 0⟩], (2 : ℕ)⟩ := by
    decide +kernel
  rcases findRoute_cheapest (scanQueue ℕ) ⟨10, 0, 0, []⟩ detourCall 1 2 rfl
      rfl (by decide)
      (fun index found => by
        match index with
        | 0 => exact absurd found (by decide)
        | 1 => rfl
        | 2 => exact absurd found (by decide)
        | _ + 3 => exact absurd found (by simp [detourCall, exampleCall,
            detourGraph, RouteGraph.nodeid?]))
      (fun plugin member => absurd member List.not_mem_nil) rfl
      (by decide +kernel) with
    ⟨route, total, returned, -, -, isRoute, cheapest⟩ | ⟨none, -⟩ |
    ⟨_, _, _, _, _, _, _, throws⟩
  · cases found.symm.trans returned
    exact ⟨_, total, found, rfl, isRoute, cheapest⟩
  · exact nomatch found.symm.trans none
  · exact nomatch found.symm.trans throws

end Examples

end NavBim.RoutePlanner
