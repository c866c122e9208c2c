import NavBim.ThetaStarSearch

namespace NavBim.ThetaStar

/-!
# The border of a search

The cells that a search has looked at have a border of safe cells beside them.
Each of these has a node, which is in the queue exactly once, and there are no
other nodes.  So as long as the goal can be reached and was not looked at, there
is something in the queue.
-/

variable {K : Type} [Field K] [SquareRoot K] [LinearOrder K]

/-- A cell that was not looked at, beside one that was. -/
def Request.Borders
    (request : Request K)
    (cells : List CoordsM)
    (cell : CoordsM) : Prop :=
  cell ∉ cells ∧ ∃ looked ∈ cells, request.SafeStep looked cell

omit [Field K] [SquareRoot K] [LinearOrder K] in
/-- The way to a cell crosses the border. -/
theorem Request.exists_borders
    {request : Request K}
    {cells : List CoordsM}
    {cell : CoordsM}
    (reached : request.Reachable cell)
    (src : request.src ∈ cells)
    (notLooked : cell ∉ cells) :
    ∃ beside, request.Borders cells beside := by
  induction reached with
  | refl => exact absurd src notLooked
  | @tail middle _ _ step inductionHypothesis =>
      by_cases looked : middle ∈ cells
      · exact ⟨_, notLooked, middle, looked, step⟩
      · exact inductionHypothesis looked

/-- The states in which a pass begins, with the cells that are looked at up to
this pass. -/
inductive LooksAt
    (request : Request K)
    (planner : Planner K) : List CoordsM → Search K → Prop where
  | start :
      LooksAt request planner [request.src] (startSearch request planner)
  | next {cells : List CoordsM} {search after : Search K} :
      LooksAt request planner cells search →
      pass request search = .next after →
      LooksAt request planner (after.currData.cell :: cells) after

theorem LooksAt.visited
    {request : Request K}
    {planner : Planner K}
    {cells : List CoordsM}
    {search : Search K}
    (looks : LooksAt request planner cells search) :
    Visited request planner search := by
  induction looks with
  | start => exact .start
  | next _ isNext inductionHypothesis => exact .next inductionHypothesis isNext

/-- A node that was not looked at is queued once, and its cell is on the
border. -/
def Waits
    (request : Request K)
    (cells : List CoordsM)
    (search : Search K) : Prop :=
  ∀ id < search.indexGenerated, (search.nodesData id).cell ∉ cells →
    (search.nodesData id).isInQueue = true ∧ search.queue.count id = 1 ∧
      ∃ looked ∈ cells, request.SafeStep looked (search.nodesData id).cell

omit [Field K] [SquareRoot K] [LinearOrder K] in
/-- A neighbour depends on the current cell only. -/
theorem neighbor_eq
    {before after : Search K}
    (same : after.currData.cell = before.currData.cell)
    (move : CoordsM) :
    after.neighbor move = before.neighbor move :=
  congrArg (fun cell : CoordsM =>
    (⟨cell.x + move.x, cell.y + move.y⟩ : CoordsM)) same

section Expand

variable {request : Request K} {before : Search K} {cells : List CoordsM}

theorem Waits.opens
    {move : CoordsM}
    {id : Nat}
    {g : K}
    {after : Search K}
    (waits : Waits request cells before)
    (stored : Stored request before)
    (looked : before.currData.cell ∈ cells)
    (isMove : move ∈ moves.take request.corners.howMany)
    (opens : Opens request (before.neighbor move) before after id g) :
    Waits request cells after := by
  intro other made notLooked
  by_cases isId : other = id
  · cases isId
    have queue := opens.queue
    rw [opens.node_self] at notLooked ⊢
    refine ⟨rfl, ?_, _, looked, opens.safeStep isMove⟩
    rcases opens.known_or_new with ⟨known, -⟩ | ⟨-, isNew, -⟩
    · -- it waits already
      obtain ⟨generated, isCell⟩ := stored.node_of_getIndex opens.inside known
      obtain ⟨inQueue, once, -⟩ :=
        waits id generated (by rw [isCell]; exact notLooked)
      rw [if_pos ⟨generated, inQueue⟩] at queue
      rw [queue]
      exact once
    · have absent : id ∉ before.queue := fun queued =>
        (stored.queue_lt id queued).ne isNew
      rw [if_neg fun old => old.1.ne isNew] at queue
      rw [queue.count_eq, List.count_cons_self,
        List.count_eq_zero.mpr absent]
  · rw [opens.node_of_ne isId] at notLooked ⊢
    obtain ⟨inQueue, once, beside⟩ :=
      waits other (opens.old_of_ne made isId) notLooked
    refine ⟨inQueue, ?_, beside⟩
    rcases opens.queue_or with same | pushed
    · rw [same]
      exact once
    · rw [pushed.count_eq, List.count_cons_of_ne (Ne.symm isId)]
      exact once

theorem Waits.expand
    (waits : Waits request cells before)
    (stored : Stored request before)
    (looked : before.currData.cell ∈ cells) :
    Waits request cells (expand request before) := by
  refine (expand_keeps (motive := fun search =>
    search.currData.cell ∈ cells ∧ Waits request cells search)
    stored ?_ ?_).2.2
  · rintro after ⟨node, rfl, sameCell, -⟩
    have isCell : ((before.setNode before.curr node).nodesData
        before.curr).cell = before.currData.cell := by
      rw [nodesData_setNode_self, sameCell]
    refine ⟨isCell.symm ▸ looked, ?_⟩
    intro id made notLooked
    by_cases isCurr : id = before.curr
    · rw [isCurr, isCell] at notLooked
      exact absurd looked notLooked
    · simp only [Search.setNode, Function.update_of_ne isCurr] at notLooked ⊢
      exact waits id made notLooked
  · intro move middle after id g isMove isStored holds opens
    refine ⟨?_, holds.2.opens isStored holds.1 isMove opens⟩
    show (after.nodesData after.curr).cell ∈ cells
    rw [opens.curr, opens.sameCell isStored isStored.curr_lt]
    exact holds.1

/-- The loop over the neighbours has given nodes to the safe ones, but for the
moves that are left. -/
structure CoversExcept
    (request : Request K)
    (before : Search K)
    (rest : List CoordsM)
    (search : Search K) : Prop where
  sameCell : search.currData.cell = before.currData.cell
  keeps : ∀ cell, before.Has cell → search.Has cell
  covers : ∀ cell, request.SafeStep before.currData.cell cell →
    search.Has cell ∨ ∃ move ∈ rest, before.neighbor move = cell

omit [Field K] [SquareRoot K] [LinearOrder K] in
theorem CoversExcept.next
    {move : CoordsM}
    {rest : List CoordsM}
    {search after : Search K}
    (covered : CoversExcept request before (move :: rest) search)
    (sameCell : after.currData.cell = search.currData.cell)
    (kept : ∀ cell, search.Has cell → after.Has cell)
    (has : request.SafeStep before.currData.cell (before.neighbor move) →
      after.Has (before.neighbor move)) :
    CoversExcept request before rest after where
  sameCell := sameCell.trans covered.sameCell
  keeps cell isNode := kept cell (covered.keeps cell isNode)
  covers cell step := by
    rcases covered.covers cell step with known | ⟨other, member, rfl⟩
    · exact .inl (kept cell known)
    · rcases List.mem_cons.mp member with rfl | later
      · exact .inl (has step)
      · exact .inr ⟨other, later, rfl⟩

/-- After a pass each safe cell beside the current one has a node, and no node
is lost. -/
theorem expand_covers
    (stored : Stored request before) :
    CoversExcept request before [] (expand request before) := by
  have changed := resetParent_spec request before
  refine (foldl_setNeighbor_keeps (motive := CoversExcept request before)
    ?_ ?_ _ (fun _ isMove => isMove) (stored.reparents changed) ?_).2
  · intro move rest search _ covered has
    rw [neighbor_eq covered.sameCell] at has
    exact covered.next rfl (fun _ => id) fun step => has step.2.1 step.2.2
  · intro move rest search after id g _ isStored covered opens
    refine covered.next ?_ ?_ fun _ => ⟨id, opens.id_lt isStored, ?_⟩
    · rw [Search.currData, opens.curr]
      exact opens.sameCell isStored isStored.curr_lt
    · rintro cell ⟨other, made, rfl⟩
      exact ⟨other, made.trans_le opens.generated_le,
        opens.sameCell isStored made⟩
    · rw [opens.node_self]
      exact neighbor_eq covered.sameCell move
  · have sameCell := changed.sameCell
    obtain ⟨node, isAfter, isCell, -⟩ := changed
    refine ⟨?_, ?_, fun cell step => .inr (exists_mem_moves step.1)⟩
    · rw [isAfter]
      exact (congrArg TreeNode.cell (nodesData_setNode_self _ _ _)).trans isCell
    · rintro cell ⟨id, made, rfl⟩
      refine ⟨id, ?_, sameCell id⟩
      rw [isAfter]
      exact made

end Expand

/-- What is known of the cells that are looked at up to a pass. -/
structure Covers
    (request : Request K)
    (cells : List CoordsM)
    (search : Search K) : Prop where
  src : request.src ∈ cells
  current : search.currData.cell ∈ cells
  waits : Waits request cells search
  earlier : ∀ looked ∈ cells, looked = search.currData.cell ∨
    looked ≠ request.dst ∧
      ∀ cell, request.SafeStep looked cell → search.Has cell

section Passes

variable {request : Request K} {planner : Planner K} {search : Search K}
  {cells : List CoordsM}

theorem Covers.expanded
    (covers : Covers request cells search)
    (stored : Stored request search)
    (notGoal : ¬ request.isGoal search.currData) :
    Waits request cells (expand request search) ∧
      ∀ looked ∈ cells, looked ≠ request.dst ∧
        ∀ cell, request.SafeStep looked cell →
          (expand request search).Has cell := by
  have after := expand_covers stored
  refine ⟨covers.waits.expand stored covers.current, ?_⟩
  intro looked member
  rcases covers.earlier looked member with rfl | ⟨notDst, known⟩
  · refine ⟨?_, fun cell step => (after.covers cell step).resolve_right ?_⟩
    · intro isDst
      exact notGoal ⟨congrArg CoordsM.x isDst, congrArg CoordsM.y isDst⟩
    · rintro ⟨_, none, -⟩
      cases none
  · exact ⟨notDst, fun cell step => after.keeps cell (known cell step)⟩

theorem LooksAt.covers
    (clean : planner.Clean)
    (looks : LooksAt request planner cells search) :
    Covers request cells search := by
  induction looks with
  | start =>
      have started := started_startSearch request planner
      have isCell : (startSearch request planner).currData.cell =
          request.src := by
        rw [Search.currData, started.curr, started.node]
        rfl
      refine ⟨List.mem_singleton_self _, ?_, ?_, ?_⟩
      · rw [isCell]
        exact List.mem_singleton_self _
      · intro id made notLooked
        rw [started.generated, Nat.lt_one_iff] at made
        rw [made, started.node] at notLooked
        exact absurd (List.mem_singleton_self _) notLooked
      · intro looked member
        exact .inl ((List.mem_singleton.mp member).trans isCell.symm)
  | @next cells search after looks isNext covers =>
      obtain ⟨stored, notEmpty⟩ := looks.visited.stored clean
      obtain ⟨notGoal, -, rfl, -⟩ := pass_eq_next isNext
      obtain ⟨waits, known⟩ := covers.expanded stored notGoal
      have queued := stored.expand.2 notEmpty
      refine ⟨List.mem_cons_of_mem _ covers.src, List.mem_cons_self, ?_, ?_⟩
      · intro id made notLooked
        obtain ⟨notCurr, notEarlier⟩ := not_or.mp (mt List.mem_cons.mpr notLooked)
        obtain ⟨inQueue, once, looked, member, step⟩ :=
          waits id made notEarlier
        have different : id ≠ (takeNext request (expand request search)).curr := by
          rintro rfl
          exact notCurr rfl
        have taken :
            ((takeNext request (expand request search)).curr ::
              (takeNext request (expand request search)).queue).count id =
              (expand request search).queue.count id :=
          (request.queue.pop_perm _ _ queued).count_eq id
        rw [List.count_cons_of_ne (Ne.symm different)] at taken
        exact ⟨inQueue, taken.trans once, looked,
          List.mem_cons_of_mem _ member, step⟩
      · intro looked member
        exact (List.mem_cons.mp member).imp id (known looked)

theorem one_lt_length_of_ne
    {Item : Type}
    {items : List Item}
    {first second : Item}
    (isFirst : first ∈ items)
    (isSecond : second ∈ items)
    (different : first ≠ second) :
    1 < items.length := by
  match items with
  | [] => cases isFirst
  | [_] =>
      exact absurd ((List.mem_singleton.mp isFirst).trans
        (List.mem_singleton.mp isSecond).symm) different
  | _ :: _ :: _ => simp

/-- If the goal can be reached, a pass before it leaves two nodes in the queue
exactly if the border has two cells or one of the cells that were looked at is
in the queue again. -/
theorem Covers.two_queued_iff
    (covers : Covers request cells search)
    (stored : Stored request search)
    (notGoal : ¬ request.isGoal search.currData)
    (reached : request.Reachable request.dst) :
    1 < (expand request search).queue.length ↔
      ((∃! cell, request.Borders cells cell) →
        ∃ id ∈ (expand request search).queue,
          ((expand request search).nodesData id).cell ∈ cells) := by
  obtain ⟨waits, known⟩ := covers.expanded stored notGoal
  have isStored := stored.expand.1
  have nodeOf : ∀ cell, request.Borders cells cell →
      ∃ id ∈ (expand request search).queue,
        ((expand request search).nodesData id).cell = cell := by
    rintro cell ⟨notLooked, looked, member, step⟩
    obtain ⟨id, made, rfl⟩ := (known looked member).2 cell step
    exact ⟨id, List.count_pos_iff.mp
      (by rw [(waits id made notLooked).2.1]; exact one_pos), rfl⟩
  obtain ⟨cell, border⟩ := request.exists_borders reached covers.src
    fun looked => (known _ looked).1 rfl
  obtain ⟨id, isQueued, isCell⟩ := nodeOf cell border
  constructor
  · intro two unique
    by_contra none
    push Not at none
    -- then the border cell's node is all there is
    have all : ∀ other ∈ (expand request search).queue, id = other := by
      intro other member
      have made := isStored.queue_lt other member
      have notLooked := none other member
      have sameCell := unique.unique border
        ⟨notLooked, (waits other made notLooked).2.2⟩
      have points := isStored.position id (isStored.queue_lt id isQueued)
      rw [← isCell] at sameCell
      have sameX : ((expand request search).nodesData id).x =
          ((expand request search).nodesData other).x :=
        congrArg CoordsM.x sameCell
      have sameY : ((expand request search).nodesData id).y =
          ((expand request search).nodesData other).y :=
        congrArg CoordsM.y sameCell
      rw [sameX, sameY, isStored.position other made] at points
      exact (Option.some.inj points).symm
    have once := (waits id (isStored.queue_lt id isQueued)
      (none id isQueued)).2.1
    rw [List.count_eq_length.mpr all] at once
    exact two.ne' once
  · intro again
    by_cases unique : ∃! cell, request.Borders cells cell
    · obtain ⟨other, member, looked⟩ := again unique
      refine one_lt_length_of_ne isQueued member ?_
      rintro rfl
      rw [isCell] at looked
      exact border.1 looked
    · obtain ⟨second, isSecond, different⟩ :
          ∃ second, request.Borders cells second ∧ second ≠ cell := by
        by_contra none
        push Not at none
        exact unique ⟨cell, border, none⟩
      obtain ⟨other, member, rfl⟩ := nodeOf second isSecond
      refine one_lt_length_of_ne isQueued member ?_
      rintro rfl
      exact different isCell

end Passes

end NavBim.ThetaStar
