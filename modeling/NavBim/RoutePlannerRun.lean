import Mathlib.Tactic
import NavBim.EventRun
import NavBim.RoutePlannerSearch

namespace NavBim

/-!
# One planner for many requests

The queue is all that a call leaves for the next one.  A call that finds it
empty does what it does with a new planner, and uses nodes of its own graph
only.  It leaves the queue empty again, unless the cost of an edge throws.
-/

/-- The calls made so far, each with its result, beside the planner. -/
structure RouteRun (F Request : Type) where
  planner : RoutePlanner F
  history : List (RouteCall F Request × CallResult F)

namespace RoutePlanner

variable {F Request : Type} [AddCommMonoid F] [LinearOrder F]

/-- A planner that has not been used. -/
def fresh
    (maxIterations : Nat) : RoutePlanner F where
  maxIterations := maxIterations

variable
  {call : RouteCall F Request}
  {startId goalId : UInt32}

/-- The entries of the queue point to nodes of the graph of the call. -/
def Own
    (call : RouteCall F Request)
    (search : RouteSearch F) : Prop :=
  ∀ element ∈ search.queue, IsOwn call element

/-- The exception of an edge of the graph. -/
def EdgeThrows
    (call : RouteCall F Request)
    (startId goalId : UInt32)
    (error : RouteError) : Prop :=
  ∃ pointer edge,
    call.graph.edge? pointer = some edge ∧
      getTraversalCost call startId goalId pointer edge = .error error

variable
  (queueOps : NodeQueue F)

/-- Looking at the edges of a node adds entries of the same graph, and only the
cost of an edge throws. -/
theorem expandEdges_own
    (startId goalId : UInt32)
    (currCost : F)
    (node : Nat)
    (edges : List (DirectionalEdge F))
    (edgeNum : Nat)
    (search : RouteSearch F)
    (remaining : edges = (call.graph.getEdges node).drop edgeNum)
    (own : Own call search) :
    match expandEdges queueOps call startId goalId currCost node edges
      edgeNum search with
    | (none, after) => Own call after
    | (some error, _) => EdgeThrows call startId goalId error := by
  induction edges generalizing edgeNum search with
  | nil =>
      exact own
  | cons edge rest inductionHypothesis =>
      obtain ⟨found, restRemaining⟩ := call.graph.edge_of_drop remaining
      rw [expandEdges]
      cases cost : getTraversalCost call startId goalId ⟨node, edgeNum⟩ edge
        with
      | error error =>
          exact ⟨_, edge, found, cost⟩
      | unusable =>
          exact inductionHypothesis _ _ restRemaining own
      | cost value =>
          by_cases gain : (currCost + value : F) <
              (search.states edge.endNode).integratedCost
          · simp only [gain, if_true]
            refine inductionHypothesis _ _ restRemaining ?_
            intro element member
            rcases mem_emplace.mp member with isNew | before
            · rw [isNew]
              exact ⟨rfl, call.graph.endNode_lt found⟩
            · exact own element before
          · simp only [gain, if_false]
            exact inductionHypothesis _ _ restRemaining own

/-- A search with entries of its own graph uses no other node, and it leaves
the queue empty unless the cost of an edge throws. -/
theorem traverse_own
    (startId goalId : UInt32)
    (iterations : Nat)
    (search : RouteSearch F)
    (own : Own call search) :
    match traverse queueOps call startId goalId iterations search with
    | (.finished, after) => after.queue = []
    | (.failed error, after) =>
        after.queue = [] ∨ EdgeThrows call startId goalId error
    | (.foreignNode, _) => False := by
  induction iterations generalizing search with
  | zero =>
      exact .inl rfl
  | succ iterations inductionHypothesis =>
      rw [traverse]
      cases popped : queueOps.pop search.queue with
      | none =>
          by_contra nonempty
          have isSome := queueOps.pop_isSome nonempty
          rw [popped] at isSome
          cases isSome
      | some entry =>
          obtain ⟨element, rest⟩ := entry
          have isOwn := own element ((mem_of_pop popped).mpr (.inl rfl))
          have restOwn : Own call { search with queue := rest } :=
            fun other later => own other ((mem_of_pop popped).mpr (.inr later))
          have notForeign : ¬(element.node.graph ≠ call.graphId ∨
              call.graph.nodes.length ≤ element.node.index) := by
            rintro (otherGraph | outside)
            · exact otherGraph isOwn.1
            · exact absurd isOwn.2 (not_lt.mpr outside)
          simp only [notForeign, if_false]
          by_cases outdated : (element.cost : WithTop F) ≠
              (search.states element.node.index).integratedCost
          · simp only [outdated, ne_eq, not_false_eq_true, if_true]
            exact inductionHypothesis _ restOwn
          · simp only [outdated, if_false]
            by_cases isGoal :
                call.graph.nodeid? element.node.index = some goalId
            · simp only [isGoal, if_true]
            · simp only [isGoal, if_false]
              have expanded := expandEdges_own queueOps startId goalId
                element.cost element.node.index
                (call.graph.getEdges element.node.index) 0
                { search with queue := rest } List.drop_zero.symm restOwn
              generalize expandEdges queueOps call startId goalId element.cost
                element.node.index
                (call.graph.getEdges element.node.index) 0
                { search with queue := rest } = outcome at expanded ⊢
              obtain ⟨error, after⟩ := outcome
              cases error with
              | none =>
                  exact inductionHypothesis after expanded
              | some error =>
                  exact .inr expanded

omit [AddCommMonoid F] [LinearOrder F] in
theorem routeOf_ne_foreignNode
    (call : RouteCall F Request)
    (states : Nat → SearchState F) :
    routeOf call states ≠ .foreignNode := by
  rw [routeOf]
  split
  · rintro ⟨⟩
  · split
    · rintro ⟨⟩
    · rintro ⟨⟩

/-- A call that finds the queue empty uses no node of another graph, and leaves
the queue empty unless the cost of an edge throws. -/
theorem findRoute_emptyQueue
    (planner : RoutePlanner F)
    (call : RouteCall F Request)
    (emptyQueue : planner.queue = []) :
    (findRoute queueOps planner call).1 ≠ .foreignNode ∧
      ((findRoute queueOps planner call).2.queue = [] ∨
        ∃ startId goalId error,
          (findRoute queueOps planner call).1 = .threw error ∧
            EdgeThrows call startId goalId error) := by
  rw [findRoute]
  split
  · exact ⟨by rintro ⟨⟩, .inl emptyQueue⟩
  · split
    · case h_1 startId goalId startFound goalFound =>
      have own : Own call
          { states := Function.update (fun _ => {}) call.startIndex
              { integratedCost := (0 : F) }
            queue := queueOps.emplace ⟨0, ⟨call.graphId, call.startIndex⟩⟩
              planner.queue } := by
        intro element member
        rcases mem_emplace.mp member with isStart | before
        · rw [isStart]
          refine ⟨rfl, ?_⟩
          by_contra outside
          rw [RouteGraph.nodeid?, List.getElem?_eq_none (not_lt.mp outside)]
            at startFound
          cases startFound
        · rw [emptyQueue] at before
          exact absurd before List.not_mem_nil
      have ended := traverse_own queueOps startId goalId planner.maxIterations
        _ own
      simp only [findShortestGraphTraversal]
      generalize traverse queueOps call startId goalId planner.maxIterations
        _ = outcome at ended ⊢
      obtain ⟨ending, search⟩ := outcome
      cases ending with
      | finished =>
          exact ⟨routeOf_ne_foreignNode call search.states, .inl ended⟩
      | failed error =>
          refine ⟨by rintro ⟨⟩, ended.imp_right fun throws => ?_⟩
          exact ⟨startId, goalId, error, rfl, throws⟩
      | foreignNode =>
          exact ended.elim
    · exact ⟨by rintro ⟨⟩, .inl emptyQueue⟩

theorem findRoute_congr
    {planner other : RoutePlanner F}
    (sameLimit : planner.maxIterations = other.maxIterations)
    (sameQueue : planner.queue = other.queue)
    (call : RouteCall F Request) :
    (findRoute queueOps planner call).1 = (findRoute queueOps other call).1 := by
  rw [findRoute, findRoute]
  simp only [findShortestGraphTraversal, sameLimit, sameQueue]
  split
  · rfl
  · split
    · generalize traverse queueOps call _ _ other.maxIterations _ = outcome
      obtain ⟨ending, search⟩ := outcome
      cases ending with
      | finished | failed | foreignNode => rfl
    · rfl

theorem findRoute_maxIterations
    (planner : RoutePlanner F)
    (call : RouteCall F Request) :
    (findRoute queueOps planner call).2.maxIterations =
      planner.maxIterations := by
  rw [findRoute]
  split
  · rfl
  · split
    · simp only
      split
      · rfl
      · rfl
      · rfl
    · rfl

/-- Two nodes without edges, in a graph of their own. -/
def isolatedCall
    (graphId : Nat)
    (request : Request) : RouteCall F Request where
  graphId := graphId
  graph :=
    { nodes :=
        [⟨1, ⟨"map", 0, 0⟩, [], {}, []⟩, ⟨2, ⟨"map", 0, 0⟩, [], {}, []⟩]
      endsInside := by simp }
  startIndex := 0
  goalIndex := 1
  blockedIds := []
  request := request
  plugins := []

theorem traverse_foreign
    (startId goalId : UInt32)
    (iterations : Nat)
    {search : RouteSearch F}
    {element : QueueElement F}
    {rest : List (QueueElement F)}
    (popped : queueOps.pop search.queue = some (element, rest))
    (foreign : element.node.graph ≠ call.graphId) :
    (traverse queueOps call startId goalId (iterations + 1) search).1 =
      .foreignNode := by
  have isForeign : element.node.graph ≠ call.graphId ∨
      call.graph.nodes.length ≤ element.node.index := .inl foreign
  rw [traverse, popped]
  simp only [isForeign, if_true]

omit [AddCommMonoid F] in
theorem exists_pop
    {queue : List (QueueElement F)}
    (nonempty : queue ≠ []) :
    ∃ element rest, queueOps.pop queue = some (element, rest) := by
  obtain ⟨⟨element, rest⟩, popped⟩ :=
    Option.isSome_iff_exists.mp (queueOps.pop_isSome nonempty)
  exact ⟨element, rest, popped⟩

theorem findRoute_of_foreignNode
    {queueOps : NodeQueue F}
    {planner : RoutePlanner F}
    (startFound : call.graph.nodeid? call.startIndex = some startId)
    (goalFound : call.graph.nodeid? call.goalIndex = some goalId)
    (ends : (findShortestGraphTraversal queueOps planner call startId
      goalId).1 = .foreignNode) :
    (findRoute queueOps planner call).1 = .foreignNode := by
  have nonempty : call.graph.nodes ≠ [] := by
    intro empty
    rw [RouteGraph.nodeid?, empty] at startFound
    cases startFound
  rw [findRoute, if_neg nonempty, startFound, goalFound]
  dsimp only
  generalize findShortestGraphTraversal queueOps planner call startId goalId =
    outcome at ends ⊢
  obtain ⟨ending, search⟩ := outcome
  cases ends
  rfl

/-- With an entry left, a call on another graph uses a node that is not its
own. -/
theorem findRoute_leftover
    (request : Request)
    {planner : RoutePlanner F}
    (leftover : planner.queue ≠ [])
    (enough : 2 ≤ planner.maxIterations)
    {graphId : Nat}
    (otherGraph : ∀ element ∈ planner.queue, element.node.graph ≠ graphId) :
    (findRoute queueOps planner (isolatedCall graphId request)).1 =
      .foreignNode := by
  obtain ⟨iterations, isLimit⟩ : ∃ iterations,
      planner.maxIterations = iterations + 1 + 1 :=
    ⟨planner.maxIterations - 2, (Nat.sub_add_cancel enough).symm⟩
  have ends :
      (findShortestGraphTraversal queueOps planner
        (isolatedCall graphId request) 1 2).1 = .foreignNode := by
    rw [findShortestGraphTraversal, isLimit]
    have hasStart : queueOps.emplace ⟨0, ⟨graphId, 0⟩⟩ planner.queue ≠ [] := by
      intro empty
      have member : (⟨0, ⟨graphId, 0⟩⟩ : QueueElement F) ∈
          queueOps.emplace ⟨0, ⟨graphId, 0⟩⟩ planner.queue :=
        mem_emplace.mpr (.inl rfl)
      rw [empty] at member
      exact absurd member List.not_mem_nil
    obtain ⟨element, rest, popped⟩ := exists_pop queueOps hasStart
    rcases mem_emplace.mp ((mem_of_pop popped).mpr (.inl rfl)) with
      isStart | isLeftover
    · have restPerm : rest.Perm planner.queue := by
        rw [isStart] at popped
        exact ((queueOps.pop_perm popped).trans
          (queueOps.emplace_perm _ _)).cons_inv
      have restLeft : rest ≠ [] := by
        intro empty
        rw [empty, List.nil_perm] at restPerm
        exact leftover restPerm
      obtain ⟨other, later, poppedNext⟩ := exists_pop queueOps restLeft
      have isOld : other ∈ planner.queue :=
        restPerm.mem_iff.mp ((mem_of_pop poppedNext).mpr (.inl rfl))
      have goesOn :
          traverse queueOps (isolatedCall graphId request) 1 2
              (iterations + 1 + 1)
              { states := Function.update (fun _ => {}) 0
                  { integratedCost := (0 : F) }
                queue := queueOps.emplace ⟨0, ⟨graphId, 0⟩⟩ planner.queue } =
            traverse queueOps (isolatedCall graphId request) 1 2
              (iterations + 1)
              { states := Function.update (fun _ => {}) 0
                  { integratedCost := (0 : F) }
                queue := rest } := by
        rw [traverse]
        simp only [popped, isStart]
        simp [isolatedCall, RouteGraph.nodeid?, RouteGraph.getEdges,
          expandEdges]
      exact (congrArg Prod.fst goesOn).trans
        (traverse_foreign queueOps 1 2 iterations poppedNext
          (otherGraph other isOld))
    · exact traverse_foreign queueOps 1 2 (iterations + 1) popped
        (otherGraph element isLeftover)
  exact findRoute_of_foreignNode rfl rfl ends

end RoutePlanner

namespace RouteRun

open RoutePlanner

variable {F Request : Type} [AddCommMonoid F] [LinearOrder F]

def initial
    (maxIterations : Nat) : RouteRun F Request where
  planner := fresh maxIterations
  history := []

def step
    (queueOps : NodeQueue F)
    (run : RouteRun F Request)
    (call : RouteCall F Request) : Option (RouteRun F Request) :=
  some
    { planner := (findRoute queueOps run.planner call).2
      history :=
        run.history ++ [(call, (findRoute queueOps run.planner call).1)] }

/-- Each call ended as on a new planner, and used no node of another graph. -/
def Independent
    (queueOps : NodeQueue F)
    (maxIterations : Nat)
    (run : RouteRun F Request) : Prop :=
  ∀ call result, (call, result) ∈ run.history →
    result = (findRoute queueOps (fresh maxIterations) call).1 ∧
      result ≠ .foreignNode

/-- The call finds the queue empty. -/
def FindsEmptyQueue
    (run : RouteRun F Request)
    (_ : RouteCall F Request) : Prop :=
  run.planner.queue = []

theorem step_independent
    (queueOps : NodeQueue F)
    (maxIterations : Nat)
    (run : RouteRun F Request)
    (call : RouteCall F Request)
    (before : Independent queueOps maxIterations run ∧
      run.planner.maxIterations = maxIterations)
    (emptyQueue : FindsEmptyQueue run call) :
    ∃ next ∈ step queueOps run call,
      Independent queueOps maxIterations next ∧
        next.planner.maxIterations = maxIterations := by
  refine ⟨_, rfl, ?_,
    (findRoute_maxIterations queueOps run.planner call).trans before.2⟩
  intro other result member
  rcases List.mem_append.mp member with earlier | isLast
  · exact before.1 other result earlier
  · cases List.mem_singleton.mp isLast
    have sameQueue : run.planner.queue =
        (fresh maxIterations : RoutePlanner F).queue := emptyQueue
    refine ⟨findRoute_congr queueOps before.2 sameQueue call, ?_⟩
    exact (findRoute_emptyQueue queueOps run.planner call emptyQueue).1

/-- Calls that find the queue empty do not influence one another, and no other
condition is enough: with an entry left there is a call that goes wrong. -/
theorem requests_independent
    (queueOps : NodeQueue F)
    (maxIterations : Nat)
    (request : Request) :
    (∀ calls : List (RouteCall F Request),
      EventRun.Conforms (step queueOps) FindsEmptyQueue
          (initial maxIterations) calls →
        EventRun.Stays (step queueOps) (Independent queueOps maxIterations)
          (initial maxIterations) calls) ∧
      ∀ planner : RoutePlanner F,
        planner.queue ≠ [] →
        2 ≤ planner.maxIterations →
        ∃ call : RouteCall F Request,
          (findRoute queueOps planner call).1 = .foreignNode ∧
            (findRoute queueOps (fresh planner.maxIterations) call).1 ≠
              .foreignNode := by
  constructor
  · intro calls conforms
    have starts : Independent queueOps maxIterations
        (initial maxIterations : RouteRun F Request) ∧
        (initial maxIterations :
          RouteRun F Request).planner.maxIterations = maxIterations :=
      ⟨fun _ _ member => absurd member List.not_mem_nil, rfl⟩
    exact (EventRun.stays_of_conforms
      (step_independent queueOps maxIterations) starts conforms).weaken
        fun run kept => kept.1
  · intro planner leftover enough
    obtain ⟨graphId, isNew⟩ := Infinite.exists_notMem_finset
      (planner.queue.map fun element => element.node.graph).toFinset
    refine ⟨isolatedCall graphId request, ?_, ?_⟩
    · refine findRoute_leftover queueOps request leftover enough ?_
      intro element member same
      exact isNew (List.mem_toFinset.mpr
        (List.mem_map.mpr ⟨element, member, same⟩))
    · exact (findRoute_emptyQueue queueOps _ _ rfl).1

def pairGraph : RouteGraph ℕ where
  nodes := [exampleNode 1 [exampleEdge 10 1 4], exampleNode 2 []]
  endsInside := by simp [exampleNode, exampleEdge]

/-- Asking for a route twice gives it twice. -/
theorem pair_twice_independent :
    EventRun.Stays (step (scanQueue ℕ)) (Independent (scanQueue ℕ) 10)
      (initial 10)
      [exampleCall pairGraph 1, exampleCall pairGraph 1] := by
  apply (requests_independent (scanQueue ℕ) 10 ()).1
  refine ⟨rfl, fun next stepped => ?_⟩
  cases stepped
  have emptied : (findRoute (scanQueue ℕ) (fresh 10)
      (exampleCall pairGraph 1)).2.queue = [] := by
    decide +kernel
  exact ⟨emptied, fun _ _ => trivial⟩

/-- The first node has an edge with a cost and one without. -/
def brokenGraph : RouteGraph ℕ where
  nodes :=
    [exampleNode 1 [exampleEdge 10 1 1, exampleEdge 11 1 0], exampleNode 2 []]
  endsInside := by simp [exampleNode, exampleEdge]

/-- A call that ends with an exception leaves the way to another graph open. -/
theorem exception_leaves_entry :
    let failed := findRoute (scanQueue ℕ) (fresh 10)
      (exampleCall brokenGraph 1)
    let later := { exampleCall pairGraph 1 with graphId := 1 }
    failed.1 = .threw (.noValidGraph
        "Edge 11 doesn't contain and cannot compute a valid edge cost!") ∧
      (findRoute (scanQueue ℕ) failed.2 later).1 = .foreignNode ∧
      (findRoute (scanQueue ℕ) (fresh 10) later).1 =
        .returned ⟨0, [⟨0, 0⟩], (4 : ℕ)⟩ := by
  decide +kernel

end RouteRun

end NavBim
