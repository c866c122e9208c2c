import NavBim.ThetaStarCosts

namespace NavBim.ThetaStar

/-!
# What Theta* finds

The nodes of a search are cells that can be reached from the start, and they form
a tree below the start, in which costs do not fall on the way down.  So a search
that comes to the goal finds a path from the start to the goal.
-/

/-- Cells side by side, with the corners or without. -/
def Corners.Neighbours
    (corners : Corners)
    (first second : CoordsM) : Prop :=
  match corners with
  | .four => |second.x - first.x| + |second.y - first.y| = 1
  | .eight => max |second.x - first.x| |second.y - first.y| = 1

instance (corners : Corners) (first second : CoordsM) :
    Decidable (corners.Neighbours first second) :=
  match corners with
  | .four => inferInstanceAs (Decidable (_ = _))
  | .eight => inferInstanceAs (Decidable (_ = _))

theorem exists_mem_moves
    {corners : Corners}
    {first second : CoordsM}
    (neighbours : corners.Neighbours first second) :
    ∃ move ∈ moves.take corners.howMany,
      (⟨first.x + move.x, first.y + move.y⟩ : CoordsM) = second := by
  obtain ⟨x, y⟩ := first
  obtain ⟨x', y'⟩ := second
  refine ⟨⟨x' - x, y' - y⟩, ?_, by simp⟩
  have small : ∀ d : ℤ, |d| ≤ 1 → d ∈ [-1, 0, 1] := by
    intro d bound
    have := abs_le.mp bound
    simp
    omega
  cases corners with
  | four =>
      change |x' - x| + |y' - y| = 1 at neighbours
      have far := abs_nonneg (x' - x)
      have high := abs_nonneg (y' - y)
      have among : ∀ dx ∈ [-1, 0, 1], ∀ dy ∈ [-1, 0, 1], |dx| + |dy| = 1 →
          (⟨dx, dy⟩ : CoordsM) ∈ moves.take 4 := by
        decide
      exact among _ (small _ (by omega)) _ (small _ (by omega)) neighbours
  | eight =>
      change max |x' - x| |y' - y| = 1 at neighbours
      have among : ∀ dx ∈ [-1, 0, 1], ∀ dy ∈ [-1, 0, 1], max |dx| |dy| = 1 →
          (⟨dx, dy⟩ : CoordsM) ∈ moves.take 8 := by
        decide
      exact among _ (small _ (by omega)) _ (small _ (by omega)) neighbours

variable {K : Type}

/-- A step to a safe cell. -/
def Request.SafeStep
    (request : Request K)
    (first second : CoordsM) : Prop :=
  request.corners.Neighbours first second ∧
    second.Inside request.costmap ∧ request.isSafe second.x second.y

/-- The cell can be reached from the start by such steps. -/
def Request.Reachable
    (request : Request K)
    (cell : CoordsM) : Prop :=
  Relation.ReflTransGen request.SafeStep request.src cell

theorem neighbours_of_mem_moves
    {corners : Corners}
    {move : CoordsM}
    (isMove : move ∈ moves.take corners.howMany)
    (cell : CoordsM) :
    corners.Neighbours cell ⟨cell.x + move.x, cell.y + move.y⟩ := by
  cases corners with
  | four =>
      show |cell.x + move.x - cell.x| + |cell.y + move.y - cell.y| = 1
      rw [add_sub_cancel_left, add_sub_cancel_left]
      revert move
      decide
  | eight =>
      show max |cell.x + move.x - cell.x| |cell.y + move.y - cell.y| = 1
      rw [add_sub_cancel_left, add_sub_cancel_left]
      revert move
      decide

/-- The parent of a node.  The start has none here. -/
def Search.parentOf
    (search : Search K)
    (id : Nat) : Option Nat :=
  if id = 0 ∨ search.indexGenerated ≤ id then none
  else (search.nodesData id).parentId

def Search.costOf
    (search : Search K)
    (id : Nat) : WithTop K :=
  if id < search.indexGenerated then (search.nodesData id).g else ⊤

theorem costOf_generated
    {search : Search K}
    {id : Nat}
    (generated : id < search.indexGenerated) :
    search.costOf id = (search.nodesData id).g :=
  if_pos generated

variable [Field K] [SquareRoot K] [LinearOrder K]

/-- What is known of the nodes of a search. -/
structure Searched
    (request : Request K)
    (search : Search K) : Prop where
  tree : ParentForest.FallingTree search.parentOf search.costOf 0
  rootCell : (search.nodesData 0).cell = request.src
  rootParent : (search.nodesData 0).parentId = some 0
  sums : ∀ id < search.indexGenerated, ∃ g ∈ request.sums,
    (search.nodesData id).g = (g : K)
  reached : ∀ id < search.indexGenerated,
    request.Reachable (search.nodesData id).cell

section Invariant

variable {request : Request K} {before after : Search K}

theorem Searched.below_root
    (searched : Searched request before)
    (stored : Stored request before)
    {id : Nat}
    (generated : id < before.indexGenerated) :
    ParentForest.Below before.parentOf 0 id := by
  by_cases isRoot : id = 0
  · rw [isRoot]
    exact Relation.ReflTransGen.refl
  · obtain ⟨parent, -, isParent⟩ := stored.parent id generated
    have hangs : before.parentOf id = some parent := by
      rw [Search.parentOf, if_neg (by omega)]
      exact isParent
    exact searched.tree.reaches hangs

variable [IsStrictOrderedRing K]

section

variable
  (nonnegative : request.Nonnegative)
  (searched : Searched request before)
  (stored : Stored request before)

include nonnegative searched stored

theorem Searched.improve
    {id above : Nat}
    {node : TreeNode K}
    {cost : K}
    (aboveMade : above < before.indexGenerated)
    (isCost : cost ∈ request.sums)
    (newG : node.g = (before.nodesData above).g + (cost : K))
    (newParent : node.parentId = some above)
    (cheaper : node.g < before.costOf id)
    (reached : request.Reachable node.cell)
    (nodes : after.nodesData = Function.update before.nodesData id node)
    (isMade : id < after.indexGenerated)
    (others : ∀ other, other ≠ id →
      (other < after.indexGenerated ↔ other < before.indexGenerated)) :
    Searched request after := by
  obtain ⟨gAbove, aboveSum, isAbove⟩ := searched.sums above aboveMade
  have newSum : node.g = ((gAbove + cost : K) : WithTop K) := by
    rw [newG, isAbove]
    rfl
  have dearer : before.costOf above ≤ node.g := by
    rw [costOf_generated aboveMade, isAbove, newSum, WithTop.coe_le_coe]
    exact le_add_of_nonneg_right (nonnegative.sum isCost)
  obtain ⟨notRoot, tree⟩ := searched.tree.improve
    (searched.below_root stored aboveMade) dearer cheaper
  have nodeOf : ∀ other, other ≠ id →
      after.nodesData other = before.nodesData other := by
    intro other different
    rw [nodes, Function.update_of_ne different]
  have nodeAtId : after.nodesData id = node := by
    rw [nodes, Function.update_self]
  have parents : after.parentOf =
      Function.update before.parentOf id (some above) := by
    funext other
    by_cases isId : other = id
    · subst isId
      rw [Function.update_self, Search.parentOf, if_neg (by omega), nodeAtId]
      exact newParent
    · rw [Function.update_of_ne isId, Search.parentOf, Search.parentOf,
        nodeOf other isId]
      simp only [← not_lt, others other isId]
  have costs : after.costOf = Function.update before.costOf id node.g := by
    funext other
    by_cases isId : other = id
    · subst isId
      rw [Function.update_self, Search.costOf, if_pos isMade, nodeAtId]
    · rw [Function.update_of_ne isId, Search.costOf, Search.costOf,
        nodeOf other isId]
      simp only [others other isId]
  refine ⟨?_, ?_, ?_, ?_, ?_⟩
  · rw [parents, costs]
    exact tree
  · rw [nodeOf 0 (Ne.symm notRoot)]
    exact searched.rootCell
  · rw [nodeOf 0 (Ne.symm notRoot)]
    exact searched.rootParent
  · intro other made
    by_cases isId : other = id
    · rw [isId, nodeAtId]
      exact ⟨_, request.sums.add_mem aboveSum isCost, newSum⟩
    · rw [nodeOf other isId]
      exact searched.sums other ((others other isId).mp made)
  · intro other made
    by_cases isId : other = id
    · rw [isId, nodeAtId]
      exact reached
    · rw [nodeOf other isId]
      exact searched.reached other ((others other isId).mp made)

theorem Searched.reparents
    (reparents : Reparents request before after) :
    Searched request after := by
  obtain ⟨node, rfl, sameCell, sameH, changes⟩ := reparents
  have isChanged : (before.setNode before.curr node).nodesData =
      Function.update before.nodesData before.curr node :=
    rfl
  rcases changes with ⟨sameG, -, sameParent⟩ |
    ⟨parent, grandparent, losCost, isParent, isGrandparent, inSight, newParent,
      newG, -, cheaper⟩
  · -- only the mark of the queue changes
    have fields : ∀ other,
        ((before.setNode before.curr node).nodesData other).cell =
            (before.nodesData other).cell ∧
          ((before.setNode before.curr node).nodesData other).g =
            (before.nodesData other).g ∧
          ((before.setNode before.curr node).nodesData other).parentId =
            (before.nodesData other).parentId := by
      intro other
      by_cases isCurr : other = before.curr
      · rw [isCurr, nodesData_setNode_self]
        exact ⟨sameCell, sameG, sameParent⟩
      · simp only [Search.setNode, Function.update_of_ne isCurr]
        exact ⟨trivial, trivial, trivial⟩
    have parents : (before.setNode before.curr node).parentOf =
        before.parentOf := by
      funext other
      rw [Search.parentOf, Search.parentOf, (fields other).2.2]
      rfl
    have costs : (before.setNode before.curr node).costOf =
        before.costOf := by
      funext other
      rw [Search.costOf, Search.costOf, (fields other).2.1]
      rfl
    refine ⟨?_, ?_, ?_, ?_, ?_⟩
    · rw [parents, costs]
      exact searched.tree
    · rw [(fields 0).1]
      exact searched.rootCell
    · rw [(fields 0).2.2]
      exact searched.rootParent
    · intro other made
      rw [(fields other).2.1]
      exact searched.sums other made
    · intro other made
      rw [(fields other).1]
      exact searched.reached other made
  · obtain ⟨above, aboveMade, isAbove⟩ :=
      stored.parent before.curr stored.curr_lt
    obtain rfl : parent = above :=
      Option.some.inj (isParent.symm.trans isAbove)
    obtain ⟨top, made, isTop⟩ := stored.parent parent aboveMade
    obtain rfl : grandparent = top :=
      Option.some.inj (isGrandparent.symm.trans isTop)
    have distance := getEuclideanCost_mem
      (stored.inside _ stored.curr_lt) (stored.inside _ made)
    have isCost := request.sums.add_mem distance (losCheck_mem inSight)
    refine searched.improve nonnegative stored made isCost ?_ newParent ?_ ?_
      isChanged stored.curr_lt (fun _ _ => Iff.rfl)
    · rw [newG, WithTop.coe_add, add_assoc]
      rfl
    · rw [costOf_generated stored.curr_lt]
      exact cheaper
    · rw [sameCell]
      exact searched.reached before.curr stored.curr_lt

end

omit [IsStrictOrderedRing K] in
/-- The neighbour is one step away. -/
theorem Opens.safeStep
    {move : CoordsM}
    (isMove : move ∈ moves.take request.corners.howMany)
    {id : Nat}
    {g : K}
    (opens : Opens request (before.neighbor move) before after id g) :
    request.SafeStep before.currData.cell (before.neighbor move) :=
  ⟨neighbours_of_mem_moves isMove before.currData.cell, opens.inside,
    opens.safe⟩

section

variable
  (nonnegative : request.Nonnegative)
  (searched : Searched request before)
  (stored : Stored request before)

include nonnegative searched stored

theorem Searched.opens
    {move : CoordsM}
    (isMove : move ∈ moves.take request.corners.howMany)
    {id : Nat}
    {g : K}
    (opens : Opens request (before.neighbor move) before after id g) :
    Searched request after := by
  have step := opens.safeStep isMove
  have distance := getEuclideanCost_mem
    (stored.inside _ stored.curr_lt) opens.inside
  have others : ∀ other, other ≠ id →
      (other < after.indexGenerated ↔ other < before.indexGenerated) := by
    intro other different
    exact ⟨fun made => opens.old_of_ne made different,
      fun made => made.trans_le opens.generated_le⟩
  have isCost := request.sums.add_mem distance
    (getTraversalCost_mem (before.neighbor move).x (before.neighbor move).y)
  refine searched.improve nonnegative stored stored.curr_lt isCost ?_ rfl ?_ ?_
    opens.nodes (opens.id_lt stored) others
  · show (g : WithTop K) = _
    rw [← opens.cost, Request.costOver, WithTop.coe_add, add_assoc]
    rfl
  · show (g : WithTop K) < _
    have cheaper := opens.cheaper
    rw [Search.score] at cheaper
    rcases opens.known_or_new with ⟨known, -⟩ | ⟨-, isNew, -⟩
    · rw [known] at cheaper
      obtain ⟨made, isCell⟩ := stored.node_of_getIndex opens.inside known
      obtain ⟨gOld, isG, -, isF⟩ := stored.cost id made
      have sameX : (before.nodesData id).x = (before.neighbor move).x :=
        congrArg CoordsM.x isCell
      have sameY : (before.nodesData id).y = (before.neighbor move).y :=
        congrArg CoordsM.y isCell
      change _ < (before.nodesData id).f at cheaper
      rw [isF, sameX, sameY, WithTop.coe_lt_coe] at cheaper
      rw [costOf_generated made, isG, WithTop.coe_lt_coe]
      exact lt_of_add_lt_add_right cheaper
    · rw [Search.costOf, if_neg (by omega)]
      exact WithTop.coe_lt_top g
  · exact (searched.reached _ stored.curr_lt).tail step

theorem Searched.expand :
    Searched request (expand request before) := by
  refine (expand_keeps stored ?_ ?_).2
  · intro after reparents
    exact searched.reparents nonnegative stored reparents
  · intro move middle after id g isMove isStored isSearched opens
    exact isSearched.opens nonnegative isStored isMove opens

end

end Invariant

section Reached

variable {request : Request K} {planner : Planner K} {search : Search K}

theorem searched_startSearch
    (request : Request K)
    (planner : Planner K) :
    Searched request (startSearch request planner) := by
  have started := started_startSearch request planner
  have noParent : (startSearch request planner).parentOf = fun _ => none := by
    funext id
    rw [Search.parentOf, started.generated, if_pos (by omega)]
  have first : ∀ id < (startSearch request planner).indexGenerated,
      id = 0 := by
    intro id generated
    rw [started.generated] at generated
    exact Nat.lt_one_iff.mp generated
  refine ⟨⟨⟨?_, ?_⟩, ?_⟩, ?_, ?_, ?_, ?_⟩
  · rw [noParent]
  · intro vertex above hangs
    rw [noParent] at hangs
    cases hangs
  · intro vertex above hangs
    rw [noParent] at hangs
    cases hangs
  · rw [started.node]
    rfl
  · rw [started.node]
    rfl
  · intro id made
    rw [first id made, started.node]
    exact ⟨_, getTraversalCost_mem _ _, rfl⟩
  · intro id made
    rw [first id made, started.node]
    exact Relation.ReflTransGen.refl

theorem Visited.searched
    [IsStrictOrderedRing K]
    (nonnegative : request.Nonnegative)
    (clean : planner.Clean)
    (visited : Visited request planner search) :
    Searched request search := by
  induction visited with
  | start => exact searched_startSearch request planner
  | next before isNext inductionHypothesis =>
      obtain ⟨-, -, rfl, -⟩ := pass_eq_next isNext
      have expanded :=
        inductionHypothesis.expand nonnegative (before.stored clean).1
      exact ⟨expanded.tree, expanded.rootCell, expanded.rootParent,
        expanded.sums, expanded.reached⟩

/-! ## The path -/

/-- The middle of a cell in the world. -/
def Request.worldOf
    (request : Request K)
    (cell : CoordsM) : K × K :=
  request.costmap.mapToWorld cell.x.toNat cell.y.toNat

/-- The parents of a node lead to the start. -/
theorem Searched.exists_parents
    (searched : Searched request search)
    {id : Nat}
    (below : ParentForest.Below search.parentOf 0 id) :
    ∃ fuel rest, parents search fuel id = some (id :: rest) ∧
      (id :: rest).getLast? = some 0 := by
  induction below with
  | refl =>
      refine ⟨1, [], ?_, rfl⟩
      rw [parents, searched.rootParent]
      rfl
  | tail upper last inductionHypothesis =>
      rename_i middle bottom
      obtain ⟨fuel, rest, isRest, atEnd⟩ := inductionHypothesis
      have different : middle ≠ bottom := by
        rintro rfl
        exact searched.tree.acyclic middle (.single last)
      have isParent : (search.nodesData bottom).parentId = some middle := by
        have hangs : search.parentOf bottom = some middle := last
        rw [Search.parentOf] at hangs
        split at hangs
        · cases hangs
        · exact hangs
      refine ⟨fuel + 1, middle :: rest, ?_, ?_⟩
      · rw [parents, isParent]
        simp only [if_neg different, isRest, Option.map_some]
      · rw [List.getLast?_cons_cons]
        exact atEnd

/-- From the goal the search goes back to the start. -/
theorem Searched.exists_backtrace
    (searched : Searched request search)
    (stored : Stored request search)
    (isGoal : request.isGoal search.currData) :
    ∃ fuel path, backtrace request search fuel = some path ∧
      path.head? = some (request.worldOf request.src) ∧
      path.getLast? = some (request.worldOf request.dst) := by
  obtain ⟨fuel, rest, isRest, atEnd⟩ := searched.exists_parents
    (searched.below_root stored stored.curr_lt)
  have goalCell : search.currData.cell = request.dst := by
    obtain ⟨sameX, sameY⟩ := isGoal
    rw [TreeNode.cell, sameX, sameY]
  have isPath : backtrace request search fuel =
      some ((search.curr :: search.curr :: rest).map fun id =>
        request.worldOf (search.nodesData id).cell).reverse := by
    rw [backtrace, isRest]
    rfl
  refine ⟨fuel, _, isPath, ?_, ?_⟩
  · rw [List.head?_reverse, List.getLast?_map, List.getLast?_cons_cons, atEnd,
      Option.map_some, searched.rootCell]
  · rw [List.getLast?_reverse, List.map_cons, List.head?_cons]
    exact congrArg (fun cell => some (request.worldOf cell)) goalCell

end Reached

end NavBim.ThetaStar
