import NavBim.ThetaStar

namespace NavBim.ThetaStar

/-!
# Steps of Theta*

This module says once what the parts of a pass can do: the current node may get
another parent, and each neighbour may be opened with the current node as its
parent.  Invariants of the search follow from this.
-/

variable {K : Type}

/-- The number of cells. -/
def Request.area (request : Request K) : Nat :=
  request.costmap.sizeX * request.costmap.sizeY

section Index

variable {request : Request K} {search : Search K}

section

variable
  (sameSize : search.sizeX = request.costmap.sizeX)
  {cell : CoordsM}
  (inside : cell.Inside request.costmap)

include sameSize inside

/-- Cells have different positions in the first part of the vector. -/
theorem index_eq :
    search.index cell.x cell.y =
      request.costmap.getIndex cell.x.toNat cell.y.toNat := by
  obtain ⟨left, -, below, -⟩ := inside
  obtain ⟨x, isX⟩ := Int.eq_ofNat_of_zero_le left
  obtain ⟨y, isY⟩ := Int.eq_ofNat_of_zero_le below
  rw [Search.index, Costmap2D.getIndex, isX, isY, sameSize]
  have asNat : (request.costmap.sizeX * (y : ℤ) + x : ℤ) =
      ((y * request.costmap.sizeX + x : Nat) : ℤ) := by
    push_cast
    ring
  rw [asNat, Int.toNat_natCast, Int.toNat_natCast, Int.toNat_natCast]

theorem index_lt :
    search.index cell.x cell.y < request.area := by
  rw [index_eq sameSize inside, Request.area, ← request.costmap.size_costmap]
  obtain ⟨left, right, below, above⟩ := inside
  exact Costmap2D.getIndex_lt (by omega) (by omega)

end

theorem index_inj
    (sameSize : search.sizeX = request.costmap.sizeX)
    {first second : CoordsM}
    (isFirst : first.Inside request.costmap)
    (isSecond : second.Inside request.costmap)
    (same : search.index first.x first.y = search.index second.x second.y) :
    first = second := by
  rw [index_eq sameSize isFirst, index_eq sameSize isSecond] at same
  obtain ⟨left, right, below, -⟩ := isFirst
  obtain ⟨left', right', below', -⟩ := isSecond
  obtain ⟨sameX, sameY⟩ :=
    (Costmap2D.getIndex_eq_iff (by omega) (by omega)).mp same
  obtain ⟨x, y⟩ := first
  obtain ⟨x', y'⟩ := second
  change 0 ≤ x at left
  change 0 ≤ x' at left'
  change 0 ≤ y at below
  change 0 ≤ y' at below'
  change x.toNat = x'.toNat at sameX
  change y.toNat = y'.toNat at sameY
  rw [CoordsM.mk.injEq]
  omega

end Index

/-! ## Nodes -/

/-- Taking a node out of the queue changes nothing else of it. -/
theorem leaveQueue_node
    (search : Search K)
    (id : Nat) :
    let left := search.setNode search.curr
      { search.currData with isInQueue := false }
    (left.nodesData id).x = (search.nodesData id).x ∧
      (left.nodesData id).y = (search.nodesData id).y ∧
      (left.nodesData id).g = (search.nodesData id).g ∧
      (left.nodesData id).parentId = (search.nodesData id).parentId := by
  intro left
  by_cases isCurr : id = search.curr
  · rw [isCurr]
    simp only [left, Search.setNode, Function.update_self]
    exact ⟨rfl, rfl, rfl, rfl⟩
  · simp only [left, Search.setNode, Function.update_of_ne isCurr]
    exact ⟨trivial, trivial, trivial, trivial⟩

theorem nodesData_setNode_self
    (search : Search K)
    (id : Nat)
    (node : TreeNode K) :
    (search.setNode id node).nodesData id = node := by
  simp only [Search.setNode, Function.update_self]

theorem setNode_setNode
    (search : Search K)
    (id : Nat)
    (first second : TreeNode K) :
    (search.setNode id first).setNode id second =
      search.setNode id second := by
  simp only [Search.setNode, Function.update_idem]

/-- What making a node does to the containers. -/
theorem nodeAt_none
    {search : Search K}
    {cell : CoordsM}
    (unknown : search.getIndex cell.x cell.y = none)
    (generated : search.indexGenerated ≤ search.dataSize)
    (fits : search.dataSize ≤ search.dataCapacity) :
    ∃ made, nodeAt search cell.x cell.y = (made, search.indexGenerated) ∧
      made.nodesData =
        Function.update search.nodesData search.indexGenerated {} ∧
      made.nodePosition = Function.update search.nodePosition
        (search.index cell.x cell.y) (some search.indexGenerated) ∧
      made.indexGenerated = search.indexGenerated + 1 ∧
      made.queue = search.queue ∧ made.curr = search.curr ∧
      made.sizeX = search.sizeX ∧ made.sizeY = search.sizeY ∧
      made.positionSize = search.positionSize ∧
      made.dataSize = max search.dataSize (search.indexGenerated + 1) ∧
      made.dataSize ≤ made.dataCapacity ∧
      (search.indexGenerated + 1 ≤ search.dataCapacity →
        made.dataCapacity = search.dataCapacity ∧
          made.reallocated = search.reallocated) := by
  simp only [nodeAt, unknown, Search.addToNodesData]
  refine ⟨_, rfl, ?_⟩
  split
  · case isTrue full =>
    have isSize : search.dataSize = search.indexGenerated :=
      le_antisymm full generated
    refine ⟨by rw [isSize]; rfl, rfl, rfl, rfl, rfl, rfl, rfl, rfl, ?_, ?_, ?_⟩
    · show search.dataSize + 1 = _
      rw [isSize, max_eq_right (Nat.le_succ _)]
    · show search.dataSize + 1 ≤ ite _ _ _
      split
      · omega
      · omega
    · intro hasRoom
      have apart : search.dataSize ≠ search.dataCapacity := by omega
      refine ⟨if_neg apart, ?_⟩
      show (search.reallocated || decide _) = _
      rw [decide_eq_false apart, Bool.or_false]
  · case isFalse old =>
    refine ⟨rfl, rfl, rfl, rfl, rfl, rfl, rfl, rfl, ?_, fits, ?_⟩
    · show search.dataSize = _
      omega
    · intro hasRoom
      exact ⟨rfl, rfl⟩

variable [Field K] [SquareRoot K] [LinearOrder K]

/-- The key under which a cell is known. -/
def Search.score
    (search : Search K)
    (cell : CoordsM) : WithTop K :=
  match search.getIndex cell.x cell.y with
  | none => ⊤
  | some id => search.key id

/-- The containers fit together: each node has its own cell, and the cell points
to the node. -/
structure Stored
    (request : Request K)
    (search : Search K) : Prop where
  sizeX : search.sizeX = request.costmap.sizeX
  sizeY : search.sizeY = request.costmap.sizeY
  covers : request.area ≤ search.positionSize
  generated_le : search.indexGenerated ≤ search.dataSize
  fits : search.dataSize ≤ search.dataCapacity
  curr_lt : search.curr < search.indexGenerated
  queue_lt : ∀ id ∈ search.queue, id < search.indexGenerated
  inside : ∀ id < search.indexGenerated,
    (search.nodesData id).cell.Inside request.costmap
  position : ∀ id < search.indexGenerated,
    search.getIndex (search.nodesData id).x (search.nodesData id).y = some id
  pointed : ∀ index id, search.nodePosition index = some id →
    id < search.indexGenerated ∧
      search.index (search.nodesData id).x (search.nodesData id).y = index
  parent : ∀ id < search.indexGenerated, ∃ parent < search.indexGenerated,
    (search.nodesData id).parentId = some parent
  cost : ∀ id < search.indexGenerated, ∃ g : K,
    (search.nodesData id).g = g ∧
      (search.nodesData id).h = request.getHCost (search.nodesData id).x
        (search.nodesData id).y ∧
      (search.nodesData id).f = (g + request.getHCost (search.nodesData id).x
        (search.nodesData id).y : K)

/-! ## The parent of the current node -/

/-- The current node leaves the queue, perhaps with a better parent. -/
structure Reparents
    (request : Request K)
    (before after : Search K) : Prop where
  /-- Only this node changes. -/
  same : ∃ node, after = before.setNode before.curr node ∧
    node.cell = before.currData.cell ∧ node.h = before.currData.h ∧
      ((node.g = before.currData.g ∧ node.f = before.currData.f ∧
          node.parentId = before.currData.parentId) ∨
        ∃ parent grandparent losCost,
          before.currData.parentId = some parent ∧
          (before.nodesData parent).parentId = some grandparent ∧
          request.losCheck before.currData.x before.currData.y
            (before.nodesData grandparent).x
            (before.nodesData grandparent).y = some losCost ∧
          node.parentId = some grandparent ∧
          node.g = (before.nodesData grandparent).g +
            (request.getEuclideanCost before.currData.x before.currData.y
              (before.nodesData grandparent).x
              (before.nodesData grandparent).y : K) + (losCost : K) ∧
          node.f = node.g + node.h ∧ node.g < before.currData.g)

theorem resetParent_spec
    (request : Request K)
    (search : Search K) :
    Reparents request search (resetParent request search) := by
  have stays : Reparents request search (search.setNode search.curr
      { search.currData with isInQueue := false }) :=
    ⟨_, rfl, rfl, rfl, .inl ⟨rfl, rfl, rfl⟩⟩
  simp only [resetParent]
  split
  · exact stays
  · case h_2 grandparent isGrandparent =>
    obtain ⟨parent, isParent, above⟩ :=
      Option.bind_eq_some_iff.mp isGrandparent
    have sameParent := (leaveQueue_node search parent).2.2.2
    obtain ⟨sameX, sameY, sameG, -⟩ := leaveQueue_node search grandparent
    split
    · exact stays
    · case h_2 losCost inSight =>
      split
      · case isTrue cheaper =>
        rw [sameX, sameY] at inSight
        rw [sameX, sameY, sameG] at cheaper
        rw [sameParent] at above
        refine ⟨_, setNode_setNode search search.curr _ _, rfl, rfl, .inr
          ⟨parent, grandparent, losCost, isParent, above, inSight, rfl, ?_,
            rfl, ?_⟩⟩
        · show _ + _ + _ = _
          rw [sameX, sameY, sameG]
        · show _ + _ + _ < _
          rw [sameX, sameY, sameG]
          exact cheaper
      · exact stays

/-! ## Neighbours -/

/-- A neighbour of the current node. -/
def Search.neighbor
    (search : Search K)
    (move : CoordsM) : CoordsM :=
  ⟨search.currData.x + move.x, search.currData.y + move.y⟩

/-- The cost of a cell over the current node. -/
def Request.costOver
    (request : Request K)
    (node : TreeNode K)
    (cell : CoordsM) : WithTop K :=
  node.g + (request.getEuclideanCost node.x node.y cell.x cell.y : K) +
    (request.getTraversalCost cell.x cell.y : K)

/-- A node in the queue. -/
def openedNode
    (request : Request K)
    (parent : Nat)
    (cell : CoordsM)
    (g : K) : TreeNode K where
  x := cell.x
  y := cell.y
  g := g
  h := request.getHCost cell.x cell.y
  parentId := some parent
  isInQueue := true
  f := (g + request.getHCost cell.x cell.y : K)

/-- A neighbour of the current node is opened: it is a known node or a new one,
and the way over the current node is cheaper than what is known. -/
structure Opens
    (request : Request K)
    (cell : CoordsM)
    (before after : Search K)
    (id : Nat)
    (g : K) : Prop where
  inside : cell.Inside request.costmap
  safe : request.isSafe cell.x cell.y
  cost : request.costOver before.currData cell = g
  cheaper : ((g + request.getHCost cell.x cell.y : K) : WithTop K) <
    before.score cell
  nodes : after.nodesData = Function.update before.nodesData id
    (openedNode request before.curr cell g)
  position : after.nodePosition = Function.update before.nodePosition
    (before.index cell.x cell.y) (some id)
  known_or_new :
    (before.getIndex cell.x cell.y = some id ∧
      after.indexGenerated = before.indexGenerated) ∨
    (before.getIndex cell.x cell.y = none ∧ id = before.indexGenerated ∧
      after.indexGenerated = before.indexGenerated + 1)
  queue :
    if id < before.indexGenerated ∧ (before.nodesData id).isInQueue then
      after.queue = before.queue
    else
      after.queue.Perm (id :: before.queue)
  curr : after.curr = before.curr
  sizeX : after.sizeX = before.sizeX
  sizeY : after.sizeY = before.sizeY
  positionSize : after.positionSize = before.positionSize
  dataSize : after.dataSize = max before.dataSize after.indexGenerated
  fits : after.dataSize ≤ after.dataCapacity
  kept : after.indexGenerated ≤ before.dataCapacity →
    after.dataCapacity = before.dataCapacity ∧
      after.reallocated = before.reallocated

/-- The cell has a node. -/
def Search.Has
    (search : Search K)
    (cell : CoordsM) : Prop :=
  ∃ id < search.indexGenerated, (search.nodesData id).cell = cell

section Neighbor

variable {request : Request K} {search : Search K}

omit [LinearOrder K] in
theorem Stored.node_of_getIndex
    (stored : Stored request search)
    {cell : CoordsM}
    (inside : cell.Inside request.costmap)
    {id : Nat}
    (known : search.getIndex cell.x cell.y = some id) :
    id < search.indexGenerated ∧ (search.nodesData id).cell = cell := by
  obtain ⟨generated, sameIndex⟩ := stored.pointed _ id known
  exact ⟨generated,
    index_inj stored.sizeX (stored.inside id generated) inside sameIndex⟩

theorem improveNode_spec
    (request : Request K)
    {cell : CoordsM}
    {id : Nat}
    {g : K}
    (placed : (search.nodesData id).isInQueue →
      (search.nodesData id).cell = cell)
    (cheaper : ((g + request.getHCost cell.x cell.y : K) : WithTop K) <
      (search.nodesData id).f) :
    ∃ queue, improveNode request search id cell.x cell.y g =
        { search.setNode id (openedNode request search.curr cell g) with
          queue := queue } ∧
      if (search.nodesData id).isInQueue then queue = search.queue
      else queue.Perm (id :: search.queue) := by
  rw [WithTop.coe_add] at cheaper
  simp only [improveNode]
  rw [if_pos cheaper]
  split
  · case isTrue queued =>
    have isCell := placed queued
    refine ⟨search.queue, ?_, rfl⟩
    subst isCell
    have same : openedNode request search.curr (search.nodesData id).cell g =
        { search.nodesData id with
          g := g
          h := request.getHCost (search.nodesData id).cell.x
            (search.nodesData id).cell.y
          f := (g : WithTop K) + (request.getHCost
            (search.nodesData id).cell.x (search.nodesData id).cell.y : K)
          parentId := some search.curr } := by
      simp only [openedNode, queued, WithTop.coe_add, TreeNode.cell]
    rw [same]
    rfl
  · refine ⟨request.queue.push
      (search.setNode id (openedNode request search.curr cell g)).key
      search.queue id, ?_, request.queue.push_perm _ _ _⟩
    simp only [openedNode, WithTop.coe_add]
    rfl

theorem improveNode_of_not_cheaper
    {cell : CoordsM}
    {id : Nat}
    {g : K}
    (dear : ¬ ((g + request.getHCost cell.x cell.y : K) : WithTop K) <
      (search.nodesData id).f) :
    improveNode request search id cell.x cell.y g = search := by
  rw [WithTop.coe_add] at dear
  simp only [improveNode]
  rw [if_neg dear]

theorem setNeighbor_eq
    (request : Request K)
    (search : Search K)
    (move : CoordsM) :
    setNeighbor request search move =
      if (search.neighbor move).Inside request.costmap ∧
          request.isSafe (search.neighbor move).x
            (search.neighbor move).y then
        improveNode request
          (nodeAt search (search.neighbor move).x (search.neighbor move).y).1
          (nodeAt search (search.neighbor move).x (search.neighbor move).y).2
          (search.neighbor move).x (search.neighbor move).y
          (request.costOver search.currData (search.neighbor move))
      else
        search :=
  rfl

section

variable
  (stored : Stored request search)
  {cell : CoordsM}
  (inside : cell.Inside request.costmap)
  (safe : request.isSafe cell.x cell.y)

include stored inside safe

theorem improveNode_known
    {id : Nat}
    (known : search.getIndex cell.x cell.y = some id)
    {g : K}
    (cost : request.costOver search.currData cell = g) :
    improveNode request search id cell.x cell.y g = search ∨
      Opens request cell search
        (improveNode request search id cell.x cell.y g) id g := by
  obtain ⟨generated, isCell⟩ := stored.node_of_getIndex inside known
  by_cases cheaper : ((g + request.getHCost cell.x cell.y : K) : WithTop K) <
      (search.nodesData id).f
  · right
    obtain ⟨queue, isOpened, pushed⟩ :=
      improveNode_spec request (fun _ => isCell) cheaper
    rw [isOpened]
    refine {
      inside := inside
      safe := safe
      cost := cost
      cheaper := ?_
      nodes := rfl
      position := ?_
      known_or_new := .inl ⟨known, rfl⟩
      queue := by simpa only [generated, true_and] using pushed
      curr := rfl
      sizeX := rfl
      sizeY := rfl
      positionSize := rfl
      dataSize := (max_eq_left stored.generated_le).symm
      fits := stored.fits
      kept := fun _ => ⟨rfl, rfl⟩ }
    · simp only [Search.score, known]
      exact cheaper
    · exact (Function.update_eq_self_iff.mpr known.symm).symm
  · left
    exact improveNode_of_not_cheaper cheaper

theorem improveNode_new
    (unknown : search.getIndex cell.x cell.y = none)
    {g : K}
    (cost : request.costOver search.currData cell = g) :
    Opens request cell search
      (improveNode request (nodeAt search cell.x cell.y).1
        (nodeAt search cell.x cell.y).2 cell.x cell.y g)
      search.indexGenerated g := by
  obtain ⟨made, isMade, nodes, position, generated, queue, curr, sizeX, sizeY,
    positionSize, dataSize, fits, kept⟩ :=
      nodeAt_none unknown stored.generated_le stored.fits
  have isNew : made.nodesData search.indexGenerated = {} := by
    rw [nodes, Function.update_self]
  have notQueued : (made.nodesData search.indexGenerated).isInQueue →
      (made.nodesData search.indexGenerated).cell = cell := by
    rw [isNew]
    intro queued
    cases queued
  have cheaper : ((g + request.getHCost cell.x cell.y : K) : WithTop K) <
      (made.nodesData search.indexGenerated).f := by
    rw [isNew]
    exact WithTop.coe_lt_top _
  obtain ⟨pushed, isOpened, isPushed⟩ :=
    improveNode_spec request notQueued cheaper
  rw [isMade]
  simp only []
  rw [isOpened]
  refine {
    inside := inside
    safe := safe
    cost := cost
    cheaper := ?_
    nodes := ?_
    position := position
    known_or_new := .inr ⟨unknown, rfl, generated⟩
    queue := ?_
    curr := curr
    sizeX := sizeX
    sizeY := sizeY
    positionSize := positionSize
    dataSize := ?_
    fits := fits
    kept := ?_ }
  · simp only [Search.score, unknown]
    exact WithTop.coe_lt_top _
  · show Function.update made.nodesData _ _ = _
    rw [nodes, Function.update_idem, curr]
  · rw [if_neg fun old => lt_irrefl _ old.1, ← queue]
    rwa [isNew, if_neg Bool.false_ne_true] at isPushed
  · show made.dataSize = max _ made.indexGenerated
    rw [dataSize, generated]
  · intro hasRoom
    change made.indexGenerated ≤ _ at hasRoom
    rw [generated] at hasRoom
    exact kept hasRoom

end

/-- A neighbour is opened, or left as it is if it has a node or is not free. -/
theorem setNeighbor_spec
    (stored : Stored request search)
    (move : CoordsM) :
    (setNeighbor request search move = search ∧
        ((search.neighbor move).Inside request.costmap →
          request.isSafe (search.neighbor move).x (search.neighbor move).y →
            search.Has (search.neighbor move))) ∨
      ∃ id g, Opens request (search.neighbor move) search
        (setNeighbor request search move) id g := by
  obtain ⟨gCurr, isG, -, -⟩ := stored.cost search.curr stored.curr_lt
  have cost : request.costOver search.currData (search.neighbor move) =
      ((gCurr + request.getEuclideanCost search.currData.x search.currData.y
          (search.neighbor move).x (search.neighbor move).y +
        request.getTraversalCost (search.neighbor move).x
          (search.neighbor move).y : K) : WithTop K) := by
    rw [Request.costOver, Search.currData, isG]
    push_cast
    rfl
  rw [setNeighbor_eq, cost]
  split
  · case isTrue free =>
    cases known : search.getIndex (search.neighbor move).x
        (search.neighbor move).y with
    | some id =>
        have isNode : nodeAt search (search.neighbor move).x
            (search.neighbor move).y = (search, id) := by
          simp only [nodeAt, known]
        rw [isNode]
        rcases improveNode_known stored free.1 free.2 known cost with
          same | opens
        · exact .inl ⟨same,
            fun inside _ => ⟨id, stored.node_of_getIndex inside known⟩⟩
        · exact .inr ⟨id, _, opens⟩
    | none =>
        exact .inr ⟨_, _, improveNode_new stored free.1 free.2 known cost⟩
  · case isFalse blocked =>
    exact .inl ⟨rfl, fun inside safe => absurd ⟨inside, safe⟩ blocked⟩

end Neighbor

/-! ## The containers keep fitting together -/

section Kept

variable {request : Request K} {before after : Search K}

omit [LinearOrder K] in
theorem Stored.exists_g
    (stored : Stored request before)
    {id : Nat}
    (generated : id < before.indexGenerated) :
    ∃ g : K, (before.nodesData id).g = g := by
  obtain ⟨g, isG, -⟩ := stored.cost id generated
  exact ⟨g, isG⟩

omit [LinearOrder K] in
theorem Stored.setNode
    (stored : Stored request before)
    {id : Nat}
    {node : TreeNode K}
    (sameCell : node.cell = (before.nodesData id).cell)
    (parent : id < before.indexGenerated →
      ∃ parent < before.indexGenerated, node.parentId = some parent)
    (cost : id < before.indexGenerated → ∃ g : K, node.g = g ∧
      node.h = request.getHCost node.x node.y ∧
      node.f = (g + request.getHCost node.x node.y : K)) :
    Stored request (before.setNode id node) := by
  have cells : ∀ other,
      ((before.setNode id node).nodesData other).cell =
        (before.nodesData other).cell := by
    intro other
    by_cases isId : other = id
    · rw [isId, ← sameCell]
      simp only [Search.setNode, Function.update_self]
    · simp only [Search.setNode, Function.update_of_ne isId]
  have places : ∀ other,
      before.index ((before.setNode id node).nodesData other).x
          ((before.setNode id node).nodesData other).y =
        before.index (before.nodesData other).x (before.nodesData other).y := by
    intro other
    exact congrArg (fun cell : CoordsM => before.index cell.x cell.y)
      (cells other)
  refine {
    sizeX := stored.sizeX
    sizeY := stored.sizeY
    covers := stored.covers
    generated_le := stored.generated_le
    fits := stored.fits
    curr_lt := stored.curr_lt
    queue_lt := stored.queue_lt
    inside := ?_
    position := ?_
    pointed := ?_
    parent := ?_
    cost := ?_ }
  · intro other generated
    rw [cells]
    exact stored.inside other generated
  · intro other generated
    show before.nodePosition (before.index _ _) = _
    rw [places]
    exact stored.position other generated
  · intro index other points
    obtain ⟨generated, isIndex⟩ := stored.pointed index other points
    refine ⟨generated, ?_⟩
    show before.index _ _ = _
    rw [places]
    exact isIndex
  · intro other generated
    by_cases isId : other = id
    · subst isId
      simp only [Search.setNode, Function.update_self]
      exact parent generated
    · simp only [Search.setNode, Function.update_of_ne isId]
      exact stored.parent other generated
  · intro other generated
    by_cases isId : other = id
    · subst isId
      simp only [Search.setNode, Function.update_self]
      exact cost generated
    · simp only [Search.setNode, Function.update_of_ne isId]
      exact stored.cost other generated

theorem Reparents.sameCell
    (reparents : Reparents request before after)
    (id : Nat) :
    (after.nodesData id).cell = (before.nodesData id).cell := by
  obtain ⟨node, rfl, sameCell, -⟩ := reparents
  by_cases isCurr : id = before.curr
  · rw [isCurr, nodesData_setNode_self]
    exact sameCell
  · simp only [Search.setNode, Function.update_of_ne isCurr]

theorem Stored.reparents
    (stored : Stored request before)
    (reparents : Reparents request before after) :
    Stored request after := by
  obtain ⟨node, rfl, sameCell, sameH, changes⟩ := reparents
  obtain ⟨g, isG, isH, isF⟩ := stored.cost before.curr stored.curr_lt
  have sameX : node.x = before.currData.x := congrArg CoordsM.x sameCell
  have sameY : node.y = before.currData.y := congrArg CoordsM.y sameCell
  obtain ⟨above, aboveMade, isAbove⟩ :=
    stored.parent before.curr stored.curr_lt
  rcases changes with ⟨sameG, sameF, sameParent⟩ |
    ⟨parent, grandparent, losCost, isParent, isGrandparent, -, newParent, newG,
      newF, -⟩
  · apply stored.setNode sameCell
    · intro _
      exact ⟨above, aboveMade, sameParent.trans isAbove⟩
    · intro _
      rw [sameX, sameY]
      exact ⟨g, sameG.trans isG, sameH.trans isH, sameF.trans isF⟩
  · obtain rfl : parent = above :=
      Option.some.inj (isParent.symm.trans isAbove)
    obtain ⟨top, made, isTop⟩ := stored.parent parent aboveMade
    obtain rfl : grandparent = top :=
      Option.some.inj (isGrandparent.symm.trans isTop)
    apply stored.setNode sameCell
    · intro _
      exact ⟨grandparent, made, newParent⟩
    · intro _
      obtain ⟨gAbove, isGAbove⟩ := stored.exists_g made
      rw [isGAbove] at newG
      rw [sameX, sameY]
      refine ⟨gAbove + _ + losCost, newG, sameH.trans isH, ?_⟩
      rw [newF, newG, sameH.trans isH]
      rfl

section Opened

variable {cell : CoordsM} {id : Nat} {g : K}

theorem Opens.generated_le
    (opens : Opens request cell before after id g) :
    before.indexGenerated ≤ after.indexGenerated := by
  rcases opens.known_or_new with ⟨-, same⟩ | ⟨-, -, more⟩
  · exact same.ge
  · omega

theorem Opens.id_lt
    (stored : Stored request before)
    (opens : Opens request cell before after id g) :
    id < after.indexGenerated := by
  rcases opens.known_or_new with ⟨known, same⟩ | ⟨-, isNew, more⟩
  · rw [same]
    exact (stored.pointed _ id known).1
  · omega

variable
  {other : Nat}

section

variable
  (opens : Opens request cell before after id g)

include opens

theorem Opens.old_of_ne
    (generated : other < after.indexGenerated)
    (different : other ≠ id) :
    other < before.indexGenerated := by
  rcases opens.known_or_new with ⟨-, same⟩ | ⟨-, isNew, more⟩
  · rwa [same] at generated
  · omega

theorem Opens.node_of_ne
    (different : other ≠ id) :
    after.nodesData other = before.nodesData other := by
  rw [opens.nodes, Function.update_of_ne different]

theorem Opens.node_self :
    after.nodesData id = openedNode request before.curr cell g := by
  rw [opens.nodes, Function.update_self]

theorem Opens.queue_or :
    after.queue = before.queue ∨
      after.queue.Perm (id :: before.queue) := by
  have queue := opens.queue
  split at queue
  · exact .inl queue
  · exact .inr queue

theorem Opens.index
    (x y : ℤ) :
    after.index x y = before.index x y := by
  rw [Search.index, Search.index, opens.sizeX]

end

section

variable
  (stored : Stored request before)
  (opened : Opens request cell before after id g)

include stored opened

theorem Opens.index_ne
    (generated : other < before.indexGenerated)
    (different : other ≠ id) :
    before.index (before.nodesData other).x (before.nodesData other).y ≠
      before.index cell.x cell.y := by
  intro same
  have points := stored.position other generated
  rw [Search.getIndex, same] at points
  rcases opened.known_or_new with ⟨known, -⟩ | ⟨unknown, -⟩
  · exact different (Option.some.inj (points.symm.trans known))
  · exact Option.some_ne_none _ (points.symm.trans unknown)

/-- A known node keeps its cell when a neighbour is opened. -/
theorem Opens.sameCell
    (generated : other < before.indexGenerated) :
    (after.nodesData other).cell = (before.nodesData other).cell := by
  by_cases isId : other = id
  · cases isId
    rw [opened.node_self]
    rcases opened.known_or_new with ⟨known, -⟩ | ⟨-, isNew, -⟩
    · exact (stored.node_of_getIndex opened.inside known).2.symm
    · omega
  · rw [opened.node_of_ne isId]

theorem Stored.opens :
    Stored request after := by
  have more := opened.generated_le
  have isNode := opened.node_self
  refine {
    sizeX := opened.sizeX.trans stored.sizeX
    sizeY := opened.sizeY.trans stored.sizeY
    covers := stored.covers.trans_eq opened.positionSize.symm
    generated_le := ?_
    fits := opened.fits
    curr_lt := ?_
    queue_lt := ?_
    inside := ?_
    position := ?_
    pointed := ?_
    parent := ?_
    cost := ?_ }
  · rw [opened.dataSize]
    exact le_max_right _ _
  · rw [opened.curr]
    exact stored.curr_lt.trans_le more
  · intro other queued
    rcases opened.queue_or with same | pushed
    · rw [same] at queued
      exact (stored.queue_lt other queued).trans_le more
    · rcases List.mem_cons.mp (pushed.mem_iff.mp queued) with rfl | old
      · exact opened.id_lt stored
      · exact (stored.queue_lt other old).trans_le more
  · intro other generated
    by_cases isId : other = id
    · rw [isId, isNode]
      exact opened.inside
    · rw [opened.node_of_ne isId]
      exact stored.inside other (opened.old_of_ne generated isId)
  · intro other generated
    rw [Search.getIndex, opened.index, opened.position]
    by_cases isId : other = id
    · rw [isId, isNode]
      exact Function.update_self _ _ _
    · have old := opened.old_of_ne generated isId
      rw [opened.node_of_ne isId,
        Function.update_of_ne (opened.index_ne stored old isId)]
      exact stored.position other old
  · intro index other points
    rw [opened.index]
    rw [opened.position] at points
    by_cases isCell : index = before.index cell.x cell.y
    · rw [isCell, Function.update_self] at points
      obtain rfl : id = other := Option.some.inj points
      rw [isNode, isCell]
      exact ⟨opened.id_lt stored, rfl⟩
    · rw [Function.update_of_ne isCell] at points
      obtain ⟨old, isIndex⟩ := stored.pointed index other points
      have isOther : other ≠ id := by
        rintro rfl
        rcases opened.known_or_new with ⟨known, -⟩ | ⟨-, isNew, -⟩
        · apply isCell
          rw [← isIndex]
          exact (stored.pointed _ other known).2
        · exact absurd isNew old.ne
      rw [opened.node_of_ne isOther]
      exact ⟨old.trans_le more, isIndex⟩
  · intro other generated
    by_cases isId : other = id
    · rw [isId, isNode]
      exact ⟨before.curr, stored.curr_lt.trans_le more, rfl⟩
    · rw [opened.node_of_ne isId]
      obtain ⟨parent, made, isParent⟩ :=
        stored.parent other (opened.old_of_ne generated isId)
      exact ⟨parent, made.trans_le more, isParent⟩
  · intro other generated
    by_cases isId : other = id
    · rw [isId, isNode]
      exact ⟨g, rfl, rfl, rfl⟩
    · rw [opened.node_of_ne isId]
      exact stored.cost other (opened.old_of_ne generated isId)

end

end Opened

/-- The rule of the loop over the neighbours.  `motive` is about the moves that
are left. -/
theorem foldl_setNeighbor_keeps
    {motive : List CoordsM → Search K → Prop}
    (left : ∀ {move rest search},
      Stored request search → motive (move :: rest) search →
      ((search.neighbor move).Inside request.costmap →
          request.isSafe (search.neighbor move).x (search.neighbor move).y →
            search.Has (search.neighbor move)) → motive rest search)
    (opened : ∀ {move rest search after id g},
      move ∈ moves.take request.corners.howMany → Stored request search →
      motive (move :: rest) search →
      Opens request (search.neighbor move) search after id g →
        motive rest after)
    (steps : List CoordsM)
    {search : Search K}
    (areMoves : ∀ move ∈ steps, move ∈ moves.take request.corners.howMany)
    (stored : Stored request search)
    (holds : motive steps search) :
    Stored request (steps.foldl (setNeighbor request) search) ∧
      motive [] (steps.foldl (setNeighbor request) search) := by
  induction steps generalizing search with
  | nil => exact ⟨stored, holds⟩
  | cons move rest inductionHypothesis =>
      have later : ∀ other ∈ rest, other ∈ moves.take request.corners.howMany :=
        fun other present => areMoves other (List.mem_cons_of_mem _ present)
      rw [List.foldl_cons]
      rcases setNeighbor_spec stored move with ⟨same, has⟩ | ⟨id, g, opens⟩
      · rw [same]
        exact inductionHypothesis later stored (left stored holds has)
      · exact inductionHypothesis later (stored.opens opens)
          (opened (areMoves move List.mem_cons_self) stored holds opens)

/-- What holds after the current node changed its parent, and is kept by opening
a neighbour, holds after the whole expansion. -/
theorem expand_keeps
    {motive : Search K → Prop}
    (stored : Stored request before)
    (reparented : ∀ after, Reparents request before after → motive after)
    (opened : ∀ {move search after id g},
      move ∈ moves.take request.corners.howMany → Stored request search →
      motive search →
      Opens request (search.neighbor move) search after id g → motive after) :
    Stored request (expand request before) ∧
      motive (expand request before) :=
  have changed := resetParent_spec request before
  foldl_setNeighbor_keeps (motive := fun _ => motive)
    (fun _ holds _ => holds) opened _ (fun _ present => present)
    (stored.reparents changed) (reparented _ changed)

omit [LinearOrder K] in
/-- Taking a node from the queue. -/
theorem Stored.takeNext
    (stored : Stored request before)
    (notEmpty : before.queue ≠ []) :
    Stored request (takeNext request before) := by
  have taken := request.queue.pop_perm before.key before.queue notEmpty
  refine {
    sizeX := stored.sizeX
    sizeY := stored.sizeY
    covers := stored.covers
    generated_le := stored.generated_le
    fits := stored.fits
    curr_lt := stored.queue_lt _ (taken.mem_iff.mp List.mem_cons_self)
    queue_lt := ?_
    inside := stored.inside
    position := stored.position
    pointed := stored.pointed
    parent := stored.parent
    cost := stored.cost }
  intro id queued
  exact stored.queue_lt id (taken.mem_iff.mp (List.mem_cons_of_mem _ queued))

end Kept

end NavBim.ThetaStar
