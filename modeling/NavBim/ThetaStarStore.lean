import NavBim.ThetaStarSteps

namespace NavBim.ThetaStar

/-!
# The node store of Theta* over many calls

A planner is called with costmaps of different sizes.  At the beginning of a call
the vector of positions grows by the difference to the last costmap, and the
vector of nodes gets room for the new costmap, but only if there are too few
positions.  The positions never become fewer.  So after a small costmap they grow
by too much, and a later costmap may find enough positions but not enough room
for its nodes.
-/

variable {K : Type}

/-! ## Resetting the containers -/

/-- Only positions of the last costmap are in use. -/
structure Planner.Clean (planner : Planner K) : Prop where
  covers : planner.sizeX * planner.sizeY ≤ planner.positionSize
  unused : ∀ index, planner.sizeX * planner.sizeY ≤ index →
    planner.nodePosition index = none
  fits : planner.dataSize ≤ planner.dataCapacity

theorem clean_new : (Planner.new : Planner K).Clean where
  covers := le_rfl
  unused _ _ := rfl
  fits := le_rfl

theorem Planner.Clean.initializePosn
    {planner : Planner K}
    (clean : planner.Clean)
    (sizeInc : ℤ)
    (index : Nat) :
    (initializePosn planner sizeInc).nodePosition index = none := by
  show ite _ _ (ite _ _ _) = none
  split
  · rfl
  · case isFalse notCleared =>
    split
    · rfl
    · apply clean.unused
      by_contra inLast
      have few := clean.covers
      apply notCleared
      omega

/-- What a call finds after the reset. -/
structure Ready
    (planner ready : Planner K)
    (width height : Nat) : Prop where
  sizeX : ready.sizeX = width
  sizeY : ready.sizeY = height
  covers : width * height ≤ ready.positionSize
  null : ∀ index, ready.nodePosition index = none
  dataSize : ready.dataSize = planner.dataSize
  capacity : ready.dataCapacity =
    if planner.positionSize < width * height then
      max planner.dataCapacity (width * height)
    else planner.dataCapacity

theorem resetContainers_ready
    {planner : Planner K}
    (clean : planner.Clean)
    (sizeX sizeY : Nat) :
    Ready planner (resetContainers planner sizeX sizeY) sizeX sizeY := by
  simp only [resetContainers]
  split
  · case isTrue grows =>
    obtain ⟨-, few⟩ := grows
    refine ⟨rfl, rfl, ?_, clean.initializePosn _, rfl, ?_⟩
    · show _ ≤ planner.positionSize + Int.toNat _
      have last := clean.covers
      have areas : ((sizeY * sizeX : ℤ) - planner.sizeY * planner.sizeX) =
          ((sizeX * sizeY : Nat) : ℤ) -
            (planner.sizeX * planner.sizeY : Nat) := by
        push_cast
        ring
      rw [areas]
      omega
    · rw [if_pos few]
      rfl
  · case isFalse enough =>
    have many : ¬ planner.positionSize < sizeX * sizeY := by
      intro few
      apply enough
      refine ⟨?_, few⟩
      by_contra same
      rw [not_or, not_not, not_not] at same
      have last := clean.covers
      rw [same.1, same.2] at last
      omega
    refine ⟨rfl, rfl, ?_, clean.initializePosn 0, rfl, ?_⟩
    · exact not_lt.mp many
    · rw [if_neg many]
      rfl

variable [Field K] [SquareRoot K] [LinearOrder K]

/-! ## One call -/

/-- The states in which a pass of the loop begins. -/
inductive Visited
    (request : Request K)
    (planner : Planner K) : Search K → Prop where
  | start : Visited request planner (startSearch request planner)
  | next {search after : Search K} :
      Visited request planner search →
      pass request search = .next after →
      Visited request planner after

theorem pass_eq_next
    {request : Request K}
    {search after : Search K}
    (isNext : pass request search = .next after) :
    ¬ request.isGoal search.currData ∧
      (expand request search).reallocated = false ∧
      after = takeNext request (expand request search) ∧
      after.queue ≠ [] := by
  rw [pass] at isNext
  split at isNext
  · cases isNext
  · case isFalse notGoal =>
    split at isNext
    · cases isNext
    · case isFalse notMoved =>
      split at isNext
      · cases isNext
      · case isFalse notEmpty =>
        cases isNext
        exact ⟨notGoal, Bool.eq_false_of_not_eq_true notMoved, rfl, notEmpty⟩

section Call

variable {request : Request K} {planner : Planner K} {search : Search K}

/-- The start is the only node. -/
structure Started
    (request : Request K)
    (ready : Planner K)
    (search : Search K) : Prop where
  sizeX : search.sizeX = ready.sizeX
  sizeY : search.sizeY = ready.sizeY
  positionSize : search.positionSize = ready.positionSize
  position : search.nodePosition = Function.update ready.nodePosition
    (search.index request.src.x request.src.y) (some 0)
  node : search.nodesData 0 = srcNode request
  generated : search.indexGenerated = 1
  curr : search.curr = 0
  queue : search.queue.Perm [0]
  reallocated : search.reallocated = false
  dataSize : search.dataSize = max ready.dataSize 1
  fits : ready.dataSize ≤ ready.dataCapacity →
    search.dataSize ≤ search.dataCapacity
  capacity : ready.dataCapacity ≤ search.dataCapacity

omit [LinearOrder K] in
theorem started_startSearch
    (request : Request K)
    (planner : Planner K) :
    Started request (resetContainers planner request.costmap.sizeX
      request.costmap.sizeY) (startSearch request planner) := by
  have node : (startSearch request planner).nodesData 0 = srcNode request := by
    simp only [startSearch, Search.addIndex, nodesData_setNode_self]
  revert node
  simp only [startSearch, Search.addToNodesData]
  split
  · case isTrue none =>
    intro node
    have noNode := Nat.le_zero.mp none
    refine ⟨rfl, rfl, rfl, rfl, node, rfl, rfl,
      request.queue.push_perm _ _ _, rfl, ?_, ?_, ?_⟩
    · show _ + 1 = _
      rw [noNode]
      rfl
    · intro fits
      show _ + 1 ≤ ite _ _ _
      split
      · omega
      · omega
    · show _ ≤ ite _ _ _
      split
      · omega
      · exact le_rfl
  · case isFalse some =>
    intro node
    refine ⟨rfl, rfl, rfl, rfl, node, rfl, rfl,
      request.queue.push_perm _ _ _, rfl, ?_, ?_, le_rfl⟩
    · show _ = max _ 1
      rw [max_eq_left (not_le.mp some)]
      rfl
    · intro fits
      exact fits

omit [LinearOrder K] in
theorem stored_startSearch
    (clean : planner.Clean) :
    Stored request (startSearch request planner) := by
  have ready := resetContainers_ready clean request.costmap.sizeX
    request.costmap.sizeY
  have started := started_startSearch request planner
  have sameSize : (startSearch request planner).sizeX =
      request.costmap.sizeX :=
    started.sizeX.trans ready.sizeX
  have room : planner.dataSize ≤ (resetContainers planner
      request.costmap.sizeX request.costmap.sizeY).dataCapacity := by
    rw [ready.capacity]
    split
    · exact clean.fits.trans (le_max_left _ _)
    · exact clean.fits
  have first : ∀ id < (startSearch request planner).indexGenerated,
      id = 0 := by
    intro id generated
    rw [started.generated] at generated
    exact Nat.lt_one_iff.mp generated
  refine {
    sizeX := sameSize
    sizeY := started.sizeY.trans ready.sizeY
    covers := ready.covers.trans_eq started.positionSize.symm
    generated_le := ?_
    fits := started.fits (ready.dataSize.trans_le room)
    curr_lt := ?_
    queue_lt := ?_
    inside := ?_
    position := ?_
    pointed := ?_
    parent := ?_
    cost := ?_ }
  · rw [started.generated, started.dataSize]
    exact le_max_right _ _
  · rw [started.curr, started.generated]
    exact Nat.one_pos
  · intro id queued
    rw [started.generated, List.mem_singleton.mp
      (started.queue.mem_iff.mp queued)]
    exact Nat.one_pos
  · intro id generated
    rw [first id generated, started.node]
    exact request.srcInside
  · intro id generated
    rw [first id generated, started.node, Search.getIndex, started.position]
    exact Function.update_self _ _ _
  · intro index id points
    rw [started.position] at points
    by_cases isSrc : index = (startSearch request planner).index
        request.src.x request.src.y
    · rw [isSrc, Function.update_self] at points
      obtain rfl : 0 = id := Option.some.inj points
      rw [started.generated, started.node, isSrc]
      exact ⟨Nat.one_pos, rfl⟩
    · rw [Function.update_of_ne isSrc, ready.null] at points
      cases points
  · intro id generated
    refine ⟨0, Nat.zero_lt_of_lt generated, ?_⟩
    rw [first id generated, started.node]
    rfl
  · intro id generated
    rw [first id generated, started.node]
    exact ⟨_, rfl, rfl, rfl⟩

/-- The queue only grows while a node is expanded. -/
theorem Stored.expand
    (stored : Stored request search) :
    Stored request (expand request search) ∧
      (search.queue ≠ [] → (ThetaStar.expand request search).queue ≠ []) := by
  apply expand_keeps (motive := fun after =>
    search.queue ≠ [] → after.queue ≠ []) stored
  · rintro after ⟨node, rfl, -⟩ notEmpty
    exact notEmpty
  · intro move middle after id g _ _ holds opens notEmpty
    rcases opens.queue_or with same | pushed
    · rw [same]
      exact holds notEmpty
    · intro empty
      rw [empty] at pushed
      exact List.cons_ne_nil _ _ (List.nil_perm.mp pushed)

theorem Visited.stored
    (clean : planner.Clean)
    (visited : Visited request planner search) :
    Stored request search ∧ search.queue ≠ [] := by
  induction visited with
  | start =>
      refine ⟨stored_startSearch clean, ?_⟩
      intro empty
      have queue := (started_startSearch request planner).queue
      rw [empty] at queue
      exact List.cons_ne_nil _ _ (List.nil_perm.mp queue)
  | next _ isNext inductionHypothesis =>
      obtain ⟨stored, notEmpty⟩ := inductionHypothesis
      obtain ⟨-, -, rfl, stillOne⟩ := pass_eq_next isNext
      have expanded := stored.expand
      exact ⟨expanded.1.takeNext (expanded.2 notEmpty), stillOne⟩

omit [LinearOrder K] in
/-- There is at most one node for each cell. -/
theorem Stored.generated_le_area
    (stored : Stored request search) :
    search.indexGenerated ≤ request.area := by
  have injective : Function.Injective fun id : Fin search.indexGenerated =>
      (⟨search.index (search.nodesData id).x (search.nodesData id).y,
        index_lt stored.sizeX (stored.inside id id.isLt)⟩ :
        Fin request.area) := by
    intro first second same
    have sameIndex := congrArg Fin.val same
    have firstAt := stored.position first first.isLt
    have secondAt := stored.position second second.isLt
    rw [Search.getIndex] at firstAt secondAt
    change search.index _ _ = search.index _ _ at sameIndex
    rw [sameIndex] at firstAt
    exact Fin.ext (Option.some.inj (firstAt.symm.trans secondAt))
  have counted := Fintype.card_le_of_injective _ injective
  rwa [Fintype.card_fin, Fintype.card_fin] at counted

/-- There is room for all nodes, and they were not moved. -/
structure HasRoom
    (request : Request K)
    (search : Search K) : Prop where
  room : request.area ≤ search.dataCapacity
  unmoved : search.reallocated = false

theorem HasRoom.expand
    (hasRoom : HasRoom request search)
    (stored : Stored request search) :
    HasRoom request (expand request search) := by
  refine (expand_keeps stored ?_ ?_).2
  · rintro after ⟨node, rfl, -⟩
    exact ⟨hasRoom.room, hasRoom.unmoved⟩
  · intro move middle after id g _ isStored isRoom opens
    obtain ⟨sameCapacity, sameMoved⟩ := opens.kept
      ((isStored.opens opens).generated_le_area.trans isRoom.room)
    exact ⟨isRoom.room.trans_eq sameCapacity.symm,
      sameMoved.trans isRoom.unmoved⟩

theorem Visited.hasRoom
    (clean : planner.Clean)
    (room : request.area ≤ (resetContainers planner request.costmap.sizeX
      request.costmap.sizeY).dataCapacity)
    (visited : Visited request planner search) :
    HasRoom request search := by
  induction visited with
  | start =>
      have started := started_startSearch request planner
      exact ⟨room.trans started.capacity, started.reallocated⟩
  | next before isNext inductionHypothesis =>
      obtain ⟨-, -, rfl, -⟩ := pass_eq_next isNext
      have expanded := inductionHypothesis.expand (before.stored clean).1
      exact ⟨expanded.room, expanded.unmoved⟩

omit [LinearOrder K] in
theorem Stored.clean
    (stored : Stored request search) :
    search.toPlanner.Clean where
  covers := by
    rw [stored.sizeX, stored.sizeY]
    exact stored.covers
  unused index outside := by
    rw [stored.sizeX, stored.sizeY] at outside
    cases points : search.nodePosition index with
    | none => rfl
    | some id =>
        obtain ⟨generated, isIndex⟩ := stored.pointed index id points
        have isInside : search.index (search.nodesData id).x
            (search.nodesData id).y < request.area :=
          index_lt stored.sizeX (stored.inside id generated)
        rw [isIndex] at isInside
        exact absurd outside (not_le.mpr isInside)
  fits := stored.fits

end Call

/-! ## Many calls -/

/-- After the reset there are positions for all cells, they are empty, and there is
room for all nodes, so that no pass moves the nodes. -/
structure StoreSurvives
    (planner : Planner K)
    (request : Request K) : Prop where
  positions : request.area ≤ (resetContainers planner request.costmap.sizeX
    request.costmap.sizeY).positionSize
  null : ∀ index < request.area, (resetContainers planner
    request.costmap.sizeX request.costmap.sizeY).nodePosition index = none
  room : request.area ≤ (resetContainers planner request.costmap.sizeX
    request.costmap.sizeY).dataCapacity
  unmoved : ∀ search, Visited request planner search →
    (expand request search).reallocated = false

/-- There is room for the nodes already, or there are too few positions. -/
def ReservesEnough
    (planner : Planner K)
    (request : Request K) : Prop :=
  request.area ≤ planner.dataCapacity ∨ planner.positionSize < request.area

theorem storeSurvives_iff
    {planner : Planner K}
    (clean : planner.Clean)
    (request : Request K) :
    StoreSurvives planner request ↔ ReservesEnough planner request := by
  have ready := resetContainers_ready clean request.costmap.sizeX
    request.costmap.sizeY
  have hasRoom : request.area ≤ (resetContainers planner
      request.costmap.sizeX request.costmap.sizeY).dataCapacity ↔
      ReservesEnough planner request := by
    rw [ready.capacity, ReservesEnough, Request.area]
    split
    · case isTrue few =>
      exact ⟨fun _ => .inr few, fun _ => le_max_right _ _⟩
    · case isFalse many =>
      exact ⟨.inl, fun enough => enough.resolve_right many⟩
  constructor
  · intro survives
    exact hasRoom.mp survives.room
  · intro reserves
    refine ⟨ready.covers, fun index _ => ready.null index,
      hasRoom.mpr reserves, ?_⟩
    intro search visited
    exact ((visited.hasRoom clean (hasRoom.mpr reserves)).expand
      (visited.stored clean).1).unmoved

/-- Calls of one planner, each with the planner that it found.  A call ends at the
beginning of a pass, when the goal is found or the call is cancelled, or after
the last node was expanded. -/
inductive PlannerRun :
    List (Planner K × Request K) → Planner K → Prop where
  | start : PlannerRun [] Planner.new
  | call
      {calls : List (Planner K × Request K)}
      {planner : Planner K}
      {request : Request K}
      {search last : Search K} :
      PlannerRun calls planner →
      Visited request planner search →
      last = search ∨ last = expand request search →
      PlannerRun (calls ++ [(planner, request)]) last.toPlanner

section

variable
  {calls : List (Planner K × Request K)}
  {planner : Planner K}
  (run : PlannerRun calls planner)

include run

theorem PlannerRun.clean :
    planner.Clean ∧ ∀ call ∈ calls, call.1.Clean := by
  induction run with
  | start => exact ⟨clean_new, fun _ called => nomatch called⟩
  | call _ visited ends inductionHypothesis =>
      obtain ⟨clean, earlier⟩ := inductionHypothesis
      have stored := (visited.stored clean).1
      refine ⟨?_, ?_⟩
      · rcases ends with rfl | rfl
        · exact stored.clean
        · exact stored.expand.1.clean
      · intro call called
        rcases List.mem_append.mp called with old | isNew
        · exact earlier call old
        · rw [List.mem_singleton.mp isNew]
          exact clean

/-- The store survives a run exactly if each call reserves enough. -/
theorem store_survives_run_iff :
    (∀ call ∈ calls, StoreSurvives call.1 call.2) ↔
      ∀ call ∈ calls, ReservesEnough call.1 call.2 := by
  have clean := run.clean.2
  constructor
  · intro survives call called
    exact (storeSurvives_iff (clean call called) call.2).mp
      (survives call called)
  · intro reserves call called
    exact (storeSurvives_iff (clean call called) call.2).mpr
      (reserves call called)

end

/-! ## A planner that sees a small room in between -/

/-- A queue that gives its first least node. -/
def leastFirst : PriorityQueue ℚ where
  push _ queue node := queue ++ [node]
  top key queue := (queue.argmin key).getD 0
  pop key queue := queue.erase ((queue.argmin key).getD 0)
  push_perm key queue node := List.perm_append_singleton node queue
  pop_perm key queue notEmpty := by
    obtain ⟨least, isLeast⟩ : ∃ least, queue.argmin key = some least := by
      apply Option.ne_none_iff_exists'.mp
      rw [ne_eq, List.argmin_eq_none]
      exact notEmpty
    rw [isLeast, Option.getD_some]
    exact (List.perm_cons_erase (List.argmin_mem isLeast)).symm

/-- A free corridor of cells in a row. -/
def corridor (length : Nat) : Costmap2D ℚ :=
  Costmap2D.filled {
    sizeX := length + 1
    sizeY := 1
    resolution := 1 / 20
    originX := 0
    originY := 0 } freeSpace

/-- From the first cell of a corridor to another one, with default weights. -/
def corridorRequest (length : Nat) (goal : ℤ) : Request ℚ where
  queue := leastFirst
  wTraversalCost := 1
  wEucCost := 2
  wHeuristicCost := 1
  corners := .eight
  allowUnknown := true
  costmap := corridor length
  stray _ _ := unknownCost
  src := ⟨0, 0⟩
  dst := ⟨goal, 0⟩
  srcInside := by
    refine ⟨le_rfl, ?_, le_rfl, ?_⟩
    · show (0 : ℤ) < ((length + 1 : Nat) : ℤ)
      omega
    · show (0 : ℤ) < ((1 : Nat) : ℤ)
      omega

/-- The planner after calls in which the start is the goal. -/
def plannerAfter : List Nat → Planner ℚ
  | [] => Planner.new
  | length :: earlier =>
      (startSearch (corridorRequest length 0)
        (plannerAfter earlier)).toPlanner

/-- These calls with the planners they find. -/
def callsOf : List Nat → List (Planner ℚ × Request ℚ)
  | [] => []
  | length :: earlier =>
      callsOf earlier ++ [(plannerAfter earlier, corridorRequest length 0)]

theorem plannerRun_callsOf (lengths : List Nat) :
    PlannerRun (callsOf lengths) (plannerAfter lengths) := by
  induction lengths with
  | nil => exact .start
  | cons length earlier inductionHypothesis =>
      exact .call inductionHypothesis .start (.inl rfl)

/-- Corridors of four, one, five and six cells: there is room for five nodes only
in the last one. -/
theorem small_room_leaves_no_room :
    PlannerRun (callsOf [5, 4, 0, 3]) (plannerAfter [5, 4, 0, 3]) ∧
      ∃ call ∈ callsOf [5, 4, 0, 3], ¬ StoreSurvives call.1 call.2 := by
  refine ⟨plannerRun_callsOf _, (plannerAfter [4, 0, 3], corridorRequest 5 0),
    List.mem_append_right _ (List.mem_singleton_self _), ?_⟩
  intro survives
  have room := survives.room
  exact absurd room (by decide +kernel)

/-- A larger map after a smaller one. -/
theorem growing_rooms_survive :
    PlannerRun (callsOf [5, 3]) (plannerAfter [5, 3]) ∧
      ∀ call ∈ callsOf [5, 3], StoreSurvives call.1 call.2 := by
  have run := plannerRun_callsOf [5, 3]
  refine ⟨run, (store_survives_run_iff run).mpr ?_⟩
  intro call called
  rcases List.mem_append.mp called with first | second
  · rw [List.mem_singleton.mp first]
    exact .inr (by decide +kernel)
  · rw [List.mem_singleton.mp second]
    exact .inr (by decide +kernel)

end NavBim.ThetaStar
