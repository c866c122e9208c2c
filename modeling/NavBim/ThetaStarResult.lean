import NavBim.ThetaStarFrontier

namespace NavBim.ThetaStar

/-!
# What Theta* returns

A search ends: a node comes into the queue only with a smaller cost, and costs do
not fall forever.  It returns true when it comes to the goal.  But it returns
false as soon as the queue is empty, and then the last node that was taken has
not been looked at.  So a path is found exactly if the cells that were looked at
never have a border of one cell, as in a corridor, unless one of them is in the
queue again.
-/

/-- The key that is known at a position. -/
def Search.scoreAt
    {K : Type}
    (search : Search K)
    (index : Nat) : WithTop K :=
  match search.nodePosition index with
  | none => ⊤
  | some id => search.key id

variable {K : Type} [Field K] [SquareRoot K] [LinearOrder K]

section Falls

variable {request : Request K} {before after : Search K} {cell : CoordsM}
  {id : Nat} {g : K}

theorem Opens.scoreAt_self
    (opens : Opens request cell before after id g) :
    after.scoreAt (before.index cell.x cell.y) <
      before.scoreAt (before.index cell.x cell.y) := by
  have score : after.scoreAt (before.index cell.x cell.y) =
      ((g + request.getHCost cell.x cell.y : K) : WithTop K) := by
    rw [Search.scoreAt, opens.position, Function.update_self]
    show (after.nodesData id).f = _
    rw [opens.node_self]
    rfl
  rw [score]
  exact opens.cheaper

theorem Opens.scoreAt_of_ne
    (stored : Stored request before)
    (opens : Opens request cell before after id g)
    {index : Nat}
    (different : index ≠ before.index cell.x cell.y) :
    after.scoreAt index = before.scoreAt index := by
  rw [Search.scoreAt, Search.scoreAt, opens.position,
    Function.update_of_ne different]
  cases points : before.nodePosition index with
  | none => rfl
  | some other =>
      obtain ⟨made, isIndex⟩ := stored.pointed index other points
      have isOther : other ≠ id := by
        rintro rfl
        rcases opens.known_or_new with ⟨known, -⟩ | ⟨-, isNew, -⟩
        · exact different
            (isIndex.symm.trans (stored.pointed _ other known).2)
        · exact absurd isNew made.ne
      show (after.nodesData other).f = (before.nodesData other).f
      rw [opens.node_of_ne isOther]

variable [IsStrictOrderedRing K]

theorem Reparents.scoreAt_le
    (stored : Stored request before)
    (reparents : Reparents request before after)
    (index : Nat) :
    after.scoreAt index ≤ before.scoreAt index := by
  obtain ⟨node, rfl, -, sameH, changes⟩ := reparents
  have smaller : node.f ≤ before.currData.f := by
    rcases changes with ⟨-, sameF, -⟩ |
      ⟨parent, grandparent, losCost, -, -, -, -, -, newF, cheaper⟩
    · exact sameF.le
    · obtain ⟨gCurr, isG, isH, isF⟩ := stored.cost before.curr stored.curr_lt
      have sum : before.currData.f =
          before.currData.g + before.currData.h := by
        rw [Search.currData, isF, isG, isH]
        rfl
      rw [newF, sum, sameH]
      exact add_le_add_left cheaper.le _
  rw [Search.scoreAt, Search.scoreAt]
  show (match before.nodePosition index with
    | none => ⊤
    | some id => (before.setNode before.curr node).key id) ≤ _
  cases before.nodePosition index with
  | none => exact le_rfl
  | some id =>
      show ((before.setNode before.curr node).nodesData id).f ≤
        (before.nodesData id).f
      by_cases isCurr : id = before.curr
      · rw [isCurr, nodesData_setNode_self]
        exact smaller
      · simp only [Search.setNode, Function.update_of_ne isCurr]
        exact le_rfl

/-- No score rises, and the queue does not grow unless a score falls. -/
structure Falls
    (request : Request K)
    (before after : Search K) : Prop where
  scores : ∀ index, after.scoreAt index ≤ before.scoreAt index
  queue : after.queue.length ≤ before.queue.length ∨
    ∃ index < request.area, after.scoreAt index < before.scoreAt index

theorem falls_expand
    (stored : Stored request before) :
    Falls request before (expand request before) := by
  refine (expand_keeps stored ?_ ?_).2
  · intro after reparents
    refine ⟨reparents.scoreAt_le stored, .inl ?_⟩
    obtain ⟨node, rfl, -⟩ := reparents
    exact le_rfl
  · intro move middle after id g _ isStored falls opens
    have inside : middle.index (middle.neighbor move).x
        (middle.neighbor move).y < request.area :=
      index_lt isStored.sizeX opens.inside
    refine ⟨?_, .inr ⟨_, inside, ?_⟩⟩
    · intro index
      by_cases isCell : index = middle.index (middle.neighbor move).x
          (middle.neighbor move).y
      · rw [isCell]
        exact opens.scoreAt_self.le.trans (falls.scores _)
      · rw [opens.scoreAt_of_ne isStored isCell]
        exact falls.scores index
    · exact opens.scoreAt_self.trans_le (falls.scores _)

end Falls

/-! ## The search ends -/

section Ends

variable {request : Request K} {planner : Planner K} {search after : Search K}

/-- The keys that are known for the cells, as sums. -/
def Measures
    (request : Request K)
    (search : Search K)
    (scores : Fin request.area → WithTop request.sums) : Prop :=
  ∀ index, (scores index).map Subtype.val = search.scoreAt index

theorem exists_measures
    (stored : Stored request search)
    (searched : Searched request search) :
    ∃ scores, Measures request search scores := by
  have each : ∀ index : Fin request.area, ∃ score : WithTop request.sums,
      score.map Subtype.val = search.scoreAt index := by
    intro index
    rw [Search.scoreAt]
    cases points : search.nodePosition index with
    | none => exact ⟨⊤, rfl⟩
    | some id =>
        obtain ⟨made, -⟩ := stored.pointed index id points
        obtain ⟨g, isSum, isG⟩ := searched.sums id made
        obtain ⟨gStored, sameG, -, isF⟩ := stored.cost id made
        obtain rfl : g = gStored := WithTop.coe_inj.mp (isG.symm.trans sameG)
        have fSum := request.sums.add_mem isSum
          (getHCost_mem (stored.inside id made))
        exact ⟨((⟨_, fSum⟩ : request.sums) : WithTop request.sums), isF.symm⟩
  choose scores isScore using each
  exact ⟨scores, isScore⟩

/-- The keys first, then how many nodes are queued. -/
def rank
    (search : Search K)
    (scores : Fin request.area → WithTop request.sums) :
    (Fin request.area → WithTop request.sums) ×ₗ Nat :=
  toLex (scores, search.queue.length)

omit [Field K] [SquareRoot K] [LinearOrder K] in
theorem takeNext_length
    (request : Request K)
    (notEmpty : search.queue ≠ []) :
    (takeNext request search).queue.length + 1 = search.queue.length :=
  (request.queue.pop_perm search.key search.queue notEmpty).length_eq

theorem rank_takeNext_lt
    [IsStrictOrderedRing K]
    (stored : Stored request search)
    (notEmpty : search.queue ≠ [])
    {scores lower : Fin request.area → WithTop request.sums}
    (measures : Measures request search scores)
    (measuresNext : Measures request
      (takeNext request (expand request search)) lower) :
    rank (takeNext request (expand request search)) lower <
      rank search scores := by
  have falls := falls_expand stored
  have taken := takeNext_length request (stored.expand.2 notEmpty)
  have shorter : (takeNext request (expand request search)).queue.length <
      (expand request search).queue.length :=
    Nat.lt_of_succ_le taken.le
  refine Prod.Lex.toLex_lt_toLex'.mpr ⟨?_, ?_⟩
  · intro index
    apply (WithTop.map_le_iff Subtype.val Iff.rfl).mp
    rw [measures index, measuresNext index]
    exact falls.scores index
  · intro same
    change lower = scores at same
    -- no score fell, so nothing came into the queue
    rcases falls.queue with noMore | ⟨index, inside, fell⟩
    · exact shorter.trans_le noMore
    · have before := measures ⟨index, inside⟩
      have next := measuresNext ⟨index, inside⟩
      rw [same] at next
      exact absurd (next.symm.trans before) fell.ne

/-! ## What the call returns -/

/-- True exactly if the goal can be reached, with a path from the start to the
goal. -/
structure Request.Answers
    (request : Request K)
    (outcome : Outcome K) : Prop where
  success : outcome.success = true ↔ request.Reachable request.dst
  path : outcome.success = true →
    outcome.rawPath.head? = some (request.worldOf request.src) ∧
      outcome.rawPath.getLast? = some (request.worldOf request.dst)

/-- The call returns, and with the right answer. -/
def FindsPath
    (request : Request K)
    (planner : Planner K) : Prop :=
  ∃ fuel outcome, generatePath request planner fuel = some outcome ∧
    request.Answers outcome

/-- Looking at the current node does not move the nodes.  If the goal can be
reached and a single cell borders those that were looked at, one of these is
opened again. -/
structure GoesOn
    (request : Request K)
    (cells : List CoordsM)
    (search : Search K) : Prop where
  unmoved : (expand request search).reallocated = false
  reopened : request.Reachable request.dst →
    (∃! cell, request.Borders cells cell) →
      ∃ id ∈ (expand request search).queue,
        ((expand request search).nodesData id).cell ∈ cells

/-- This holds for all nodes before the goal that the search looks at. -/
def NeverRunsDry
    (request : Request K)
    (planner : Planner K) : Prop :=
  ∀ cells search, LooksAt request planner cells search →
    ¬ request.isGoal search.currData → GoesOn request cells search

/-- How a pass ends that leaves the nodes in place. -/
theorem pass_of_unmoved
    (notGoal : ¬ request.isGoal search.currData)
    (unmoved : (expand request search).reallocated = false) :
    pass request search =
      if (takeNext request (expand request search)).queue = [] then .failed
      else .next (takeNext request (expand request search)) := by
  rw [pass, if_neg notGoal, unmoved, if_neg Bool.false_ne_true]

theorem Searched.answers_goal
    (searched : Searched request search)
    (stored : Stored request search)
    (isGoal : request.isGoal search.currData) :
    ∃ fuel outcome, searchLoop request fuel search = some outcome ∧
      request.Answers outcome := by
  obtain ⟨fuel, path, isPath, first, last⟩ :=
    searched.exists_backtrace stored isGoal
  have reached : request.Reachable request.dst := by
    have here := searched.reached search.curr stored.curr_lt
    obtain ⟨sameX, sameY⟩ := isGoal
    have goalCell : (search.nodesData search.curr).cell = request.dst :=
      congrArg₂ CoordsM.mk sameX sameY
    rw [goalCell] at here
    exact here
  refine ⟨fuel + 1, ⟨true, path⟩, ?_, ⟨fun _ => reached, fun _ => rfl⟩,
    fun _ => ⟨first, last⟩⟩
  rw [searchLoop, pass, if_pos isGoal]
  simp only [isPath, Option.map_some]

section

variable
  [IsStrictOrderedRing K]
  (nonnegative : request.Nonnegative)
  (clean : planner.Clean)
  (neverDry : NeverRunsDry request planner)

include nonnegative clean neverDry

theorem exists_answer
    {cells : List CoordsM}
    (looks : LooksAt request planner cells search)
    {scores : Fin request.area → WithTop request.sums}
    (measures : Measures request search scores) :
    ∃ fuel outcome, searchLoop request fuel search = some outcome ∧
      request.Answers outcome := by
  have := nonnegative.wellFounded
  induction isRank : rank search scores using WellFoundedLT.induction
    generalizing search cells scores with
  | ind _ inductionHypothesis =>
      obtain ⟨stored, notEmpty⟩ := looks.visited.stored clean
      have searched := looks.visited.searched nonnegative clean
      by_cases isGoal : request.isGoal search.currData
      · exact searched.answers_goal stored isGoal
      · have goesOn := neverDry cells search looks isGoal
        have isPass := pass_of_unmoved isGoal goesOn.unmoved
        split at isPass
        · case isTrue empty =>
          refine ⟨1, ⟨false, []⟩, ?_, ⟨?_, ?_⟩, ?_⟩
          · rw [searchLoop, isPass]
          · intro success
            cases success
          · intro reached
            have two := ((looks.covers clean).two_queued_iff stored isGoal
              reached).mpr (goesOn.reopened reached)
            have one := takeNext_length request (stored.expand.2 notEmpty)
            rw [empty, List.length_nil] at one
            omega
          · intro success
            cases success
        · case isFalse stillOne =>
          have next := looks.next isPass
          obtain ⟨lower, measuresNext⟩ := exists_measures
            (next.visited.stored clean).1
            (next.visited.searched nonnegative clean)
          obtain ⟨fuel, outcome, isOutcome, answers⟩ :=
            inductionHypothesis _
              (isRank ▸ rank_takeNext_lt stored notEmpty measures measuresNext)
              next measuresNext rfl
          refine ⟨fuel + 1, outcome, ?_, answers⟩
          rw [searchLoop, isPass]
          exact isOutcome

theorem NeverRunsDry.findsPath :
    FindsPath request planner := by
  obtain ⟨scores, measures⟩ := exists_measures
    (Visited.start.stored clean).1 (searched_startSearch request planner)
  exact exists_answer nonnegative clean neverDry .start measures

end

/-- What the call returns is returned from each of its passes. -/
theorem Visited.returns
    {fuel : Nat}
    {outcome : Outcome K}
    (isOutcome : generatePath request planner fuel = some outcome)
    (visited : Visited request planner search) :
    ∃ rest, searchLoop request (rest + 1) search = some outcome := by
  have positive : ∀ {fuel : Nat} {search : Search K},
      searchLoop request fuel search = some outcome →
      ∃ rest, searchLoop request (rest + 1) search = some outcome := by
    intro fuel search ends
    cases fuel with
    | zero => cases ends
    | succ rest => exact ⟨rest, ends⟩
  induction visited with
  | start => exact positive isOutcome
  | next _ isNext inductionHypothesis =>
      obtain ⟨rest, ends⟩ := inductionHypothesis
      rw [searchLoop, isNext] at ends
      exact positive ends

/-- A search that finds its path leaves two nodes in the queue before the goal. -/
theorem FindsPath.two_queued
    (clean : planner.Clean)
    (finds : FindsPath request planner)
    (visited : Visited request planner search)
    (notGoal : ¬ request.isGoal search.currData) :
    (expand request search).reallocated = false ∧
      (request.Reachable request.dst →
        1 < (expand request search).queue.length) := by
  obtain ⟨fuel, outcome, isOutcome, answers⟩ := finds
  obtain ⟨stored, notEmpty⟩ := visited.stored clean
  obtain ⟨rest, ends⟩ := visited.returns isOutcome
  have unmoved : (expand request search).reallocated = false := by
    by_contra moved
    rw [Bool.not_eq_false] at moved
    rw [searchLoop, pass, if_neg notGoal, if_pos moved] at ends
    cases ends
  refine ⟨unmoved, ?_⟩
  intro reached
  have taken := takeNext_length request (stored.expand.2 notEmpty)
  by_contra one
  have empty : (takeNext request (expand request search)).queue = [] := by
    apply List.length_eq_zero_iff.mp
    omega
  rw [searchLoop, pass_of_unmoved notGoal unmoved, if_pos empty] at ends
  cases ends
  cases answers.success.mpr reached

theorem FindsPath.neverRunsDry
    (clean : planner.Clean)
    (finds : FindsPath request planner) :
    NeverRunsDry request planner := by
  intro cells search looks notGoal
  obtain ⟨unmoved, two⟩ := finds.two_queued clean looks.visited notGoal
  exact ⟨unmoved, fun reached =>
    ((looks.covers clean).two_queued_iff (looks.visited.stored clean).1 notGoal
      reached).mp (two reached)⟩

end Ends

/-- In every run of a planner, a call finds a path if there is one exactly if the
search never runs dry. -/
theorem findsPath_iff
    [IsStrictOrderedRing K]
    {calls : List (Planner K × Request K)}
    {planner : Planner K}
    (run : PlannerRun calls planner)
    {request : Request K}
    (nonnegative : request.Nonnegative) :
    FindsPath request planner ↔ NeverRunsDry request planner := by
  have clean := run.clean.1
  exact ⟨fun finds => finds.neverRunsDry clean,
    fun neverDry => neverDry.findsPath nonnegative clean⟩

/-! ## A corridor of three cells -/

theorem nonnegative_corridorRequest
    (length : Nat)
    (goal : ℤ) :
    (corridorRequest length goal).Nonnegative where
  traversal := zero_le_one
  euclidean := zero_le_two
  heuristic := zero_le_one
  root := Rat.sqrt_nonneg

/-- From the first cell to the last one.  The start is looked at twice, and then
its only neighbour is taken from the queue and not looked at. -/
theorem corridor_end_not_found :
    PlannerRun [] (Planner.new : Planner ℚ) ∧
      (corridorRequest 2 2).Nonnegative ∧
      (corridorRequest 2 2).Reachable (corridorRequest 2 2).dst ∧
      ¬ FindsPath (corridorRequest 2 2) Planner.new := by
  have firstStep : (corridorRequest 2 2).SafeStep ⟨0, 0⟩ ⟨1, 0⟩ :=
    ⟨by decide, by decide, by decide +kernel⟩
  have secondStep : (corridorRequest 2 2).SafeStep ⟨1, 0⟩ ⟨2, 0⟩ :=
    ⟨by decide, by decide, by decide +kernel⟩
  have reached : (corridorRequest 2 2).Reachable (corridorRequest 2 2).dst :=
    (Relation.ReflTransGen.single firstStep).tail secondStep
  refine ⟨.start, nonnegative_corridorRequest 2 2, reached, ?_⟩
  intro finds
  have isNext : pass (corridorRequest 2 2)
      (startSearch (corridorRequest 2 2) Planner.new) =
      .next (takeNext (corridorRequest 2 2) (expand (corridorRequest 2 2)
        (startSearch (corridorRequest 2 2) Planner.new))) := by
    rw [pass_of_unmoved (by decide +kernel) (by decide +kernel),
      if_neg (by decide +kernel)]
  have queued := finds.two_queued clean_new (Visited.start.next isNext)
    (by decide +kernel)
  exact absurd (queued.2 reached) (by decide +kernel)

/-- From the middle to the last cell. -/
def middleRequest : Request ℚ :=
  { corridorRequest 2 2 with
    src := ⟨1, 0⟩
    srcInside := by decide }

/-- The first cell stays in the queue while the last one is taken. -/
theorem corridor_middle_found :
    FindsPath middleRequest Planner.new ∧
      NeverRunsDry middleRequest Planner.new := by
  have isStep : middleRequest.SafeStep ⟨1, 0⟩ ⟨2, 0⟩ :=
    ⟨by decide, by decide, by decide +kernel⟩
  have reached : middleRequest.Reachable middleRequest.dst :=
    Relation.ReflTransGen.single isStep
  have nonnegative : middleRequest.Nonnegative :=
    ⟨zero_le_one, zero_le_two, zero_le_one, Rat.sqrt_nonneg⟩
  have ran : (generatePath middleRequest Planner.new 9).map
      (fun outcome => (outcome.success, outcome.rawPath)) =
      some (true, [(3 / 40, 1 / 40), (1 / 8, 1 / 40), (1 / 8, 1 / 40)]) := by
    decide +kernel
  obtain ⟨⟨success, path⟩, isOutcome, same⟩ := Option.map_eq_some_iff.mp ran
  cases same
  have finds : FindsPath middleRequest Planner.new := by
    refine ⟨9, _, isOutcome, ⟨fun _ => reached, fun _ => rfl⟩, ?_⟩
    intro _
    decide +kernel
  exact ⟨finds, (findsPath_iff .start nonnegative).mp finds⟩

end NavBim.ThetaStar
