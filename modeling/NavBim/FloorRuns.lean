import Mathlib
import NavBim.FloorSegmentation
import NavBim.MaximalRuns
import NavBim.PathOrientation

namespace NavBim

/-!
# Floor segments and the runs of a plan

The segments of a plan are the maximal runs of coarse edges that are no stairs
and no ramps.  The indices of a segment are those of the first waypoints at the
places where its run starts and ends, so they are right when the path has not
been at these places before.
-/

open MaximalRuns

section Closest

variable
  {K : Type}
  [Field K]
  [LinearOrder K]
  [IsStrictOrderedRing K]
  {coords : Coords K}

theorem squaredDistance_eq_zero_iff
    {first second : Coords K} :
    squaredDistance first second = 0 ↔ first = second := by
  obtain ⟨x, y, z⟩ := first
  obtain ⟨x', y', z'⟩ := second
  rw [squaredDistance, Prod.mk.injEq, Prod.mk.injEq,
    add_eq_zero_iff_of_nonneg (add_nonneg (sq_nonneg _) (sq_nonneg _))
      (sq_nonneg _),
    add_eq_zero_iff_of_nonneg (sq_nonneg _) (sq_nonneg _), sq_eq_zero_iff,
    sq_eq_zero_iff, sq_eq_zero_iff, sub_eq_zero, sub_eq_zero, sub_eq_zero,
    and_assoc]

theorem squaredDistance_nonneg
    (first second : Coords K) :
    0 ≤ squaredDistance first second :=
  add_nonneg (add_nonneg (sq_nonneg _) (sq_nonneg _)) (sq_nonneg _)

/-- Nothing is closer than distance zero. -/
theorem foldl_closestStep_of_zero
    (waypoints : List (Coords K × Nat))
    (index : Nat) :
    waypoints.foldl (closestStep coords) (0, index) = (0, index) := by
  induction waypoints with
  | nil =>
      rfl
  | cons waypoint rest inductionHypothesis =>
      have notCloser : ¬((squaredDistance waypoint.1 coords : K) : WithTop K) <
          0 := by
        rw [not_lt]
        exact_mod_cast squaredDistance_nonneg _ _
      rw [List.foldl_cons, closestStep]
      dsimp only
      rw [if_neg notCloser]
      exact inductionHypothesis

/-- The closest waypoint to a place on the path is the first one there. -/
theorem foldl_closestStep
    {path : List (Coords K)}
    (onPath : coords ∈ path)
    (start : Nat)
    {closest : WithTop K × Nat}
    (positive : 0 < closest.1) :
    ((path.zipIdx start).foldl (closestStep coords) closest).2 =
      start + path.idxOf coords := by
  induction path generalizing start closest with
  | nil =>
      exact nomatch onPath
  | cons waypoint rest inductionHypothesis =>
      rw [List.zipIdx_cons, List.foldl_cons, closestStep]
      dsimp only
      by_cases here : waypoint = coords
      · have zero : squaredDistance waypoint coords = 0 :=
          squaredDistance_eq_zero_iff.mpr here
        have first : (waypoint :: rest).idxOf coords = 0 := by
          rw [here, List.idxOf_cons_self]
        rw [zero, WithTop.coe_zero, if_pos positive,
          foldl_closestStep_of_zero, first]
        rfl
      · have later : coords ∈ rest :=
          (List.mem_cons.mp onPath).resolve_left (Ne.symm here)
        have away : 0 < squaredDistance waypoint coords :=
          lt_of_le_of_ne (squaredDistance_nonneg _ _)
            (fun zero => here (squaredDistance_eq_zero_iff.mp zero.symm))
        rw [List.idxOf_cons_ne _ here]
        have next : ∀ best : WithTop K × Nat, 0 < best.1 →
            ((rest.zipIdx (start + 1)).foldl (closestStep coords) best).2 =
              start + (rest.idxOf coords).succ := by
          intro best isPositive
          rw [inductionHypothesis later (start + 1) isPositive]
          omega
        split
        · exact next _ (WithTop.coe_pos.mpr away)
        · exact next _ positive

theorem findClosestIndex_eq
    {path : List (Coords K)}
    (onPath : coords ∈ path) :
    findClosestIndex path coords = path.idxOf coords := by
  rw [findClosestIndex, foldl_closestStep onPath 0 (WithTop.coe_lt_top 0)]
  exact Nat.zero_add _

end Closest

section Runs

variable
  {K : Type}
  [Field K]
  (graph : TopologicalGraph K)
  (coarsePath : List Nat)

/-- The place of a vertex of the coarse path. -/
def placeAt
    (index : Nat) : Coords K :=
  (graph.node (coarsePath.getD index 0)).position.coords

/-- There is a name for the floor of a vertex of the coarse path. -/
def Named
    (index : Nat) : Prop :=
  (segmentFloorName (graph.node (coarsePath.getD index 0))).isSome

/-- A coarse edge is a stair or a ramp. -/
def verticalAt
    (index : Nat) : Bool :=
  (graph.edge? (coarsePath.getD index 0) (coarsePath.getD (index + 1) 0)).any
    isVertical

/-- The runs of coarse edges that are no stairs and no ramps. -/
abbrev FloorRun
    (first last : Nat) : Prop :=
  MaximalRun (verticalAt graph coarsePath) (coarsePath.length - 1) first last

/-- The places where the segments start and end are those of the runs. -/
structure Simulates
    (runs : RunScan)
    (scan : SegmentScan K) : Prop where
  currentSegment : scan.currentSegment = runs.done.length
  places :
    scan.segments.map (fun segment => (segment.startCoords, segment.endCoords)) =
      runs.runs.map fun run =>
        (placeAt graph coarsePath run.1, placeAt graph coarsePath (run.2 + 1))

/-- The scan of the edges fails exactly when a run starts on a floor without
a name. -/
def ScanMatches
    (runs : RunScan) : Option (SegmentScan K) → Prop
  | some scan =>
      Simulates graph coarsePath runs scan ∧
        ∀ run ∈ runs.runs, Named graph coarsePath run.1
  | none => ∃ run ∈ runs.runs, ¬Named graph coarsePath run.1

variable
  {graph coarsePath}
  {runs : RunScan}
  {scan : SegmentScan K}
  {index : Nat}

theorem Simulates.length
    (simulates : Simulates graph coarsePath runs scan) :
    scan.segments.length = runs.runs.length := by
  have same := congrArg List.length simulates.places
  rw [List.length_map, List.length_map] at same
  exact same

variable
  {edge : StoredEdge K}

section

variable
  (simulates : Simulates graph coarsePath runs scan)
  (named : ∀ run ∈ runs.runs, Named graph coarsePath run.1)

include simulates named

section

variable
  (isEdge : graph.edge? (coarsePath.getD index 0)
    (coarsePath.getD (index + 1) 0) = some edge)

include isEdge

/-- A stair or ramp ends the current run. -/
theorem Simulates.scanEdge_vertical
    (isStair : isVertical edge = true) :
    ScanMatches graph coarsePath (runs.step index true)
      (NavBim.scanEdge graph scan
        (coarsePath.getD index 0, coarsePath.getD (index + 1) 0)) := by
  rw [NavBim.scanEdge, isEdge]
  dsimp only
  rw [isStair]
  have length := simulates.length
  rw [if_pos rfl]
  refine ⟨⟨length, ?_⟩, fun run isRun => named run ?_⟩
  · rw [simulates.places]
    exact congrArg _ (List.append_nil _).symm
  · rw [RunScan.runs, RunScan.step, Option.toList_none,
      List.append_nil] at isRun
    exact isRun

theorem Simulates.scanEdge_first
    (isStair : isVertical edge = false)
    (isCurrent : runs.current = none) :
    ScanMatches graph coarsePath (runs.step index false)
      (NavBim.scanEdge graph scan
        (coarsePath.getD index 0, coarsePath.getD (index + 1) 0)) := by
  rw [NavBim.scanEdge, isEdge]
  dsimp only
  rw [isStair]
  have length := simulates.length
  rw [if_neg Bool.false_ne_true]
  have onlyDone : runs.runs = runs.done := by
    rw [RunScan.runs, isCurrent, Option.toList_none, List.append_nil]
  rw [onlyDone] at length
  have next : (runs.step index false).runs =
      runs.runs ++ [(index, index)] := by
    rw [RunScan.step, isCurrent, onlyDone]
    rfl
  have done : (runs.step index false).done = runs.done := by
    rw [RunScan.step, isCurrent]
  rw [if_pos (simulates.currentSegment.trans length.symm)]
  cases isNamed : segmentFloorName (graph.node (coarsePath.getD index 0)) with
  | none =>
      refine ⟨(index, index), ?_, ?_⟩
      · rw [next]
        exact List.mem_append_right _ (List.mem_singleton_self _)
      · rw [Named, isNamed]
        exact Bool.false_ne_true
  | some name =>
      refine ⟨⟨?_, ?_⟩, fun run isRun => ?_⟩
      · rw [done]
        exact simulates.currentSegment
      · rw [next, List.map_append, List.map_append, simulates.places]
        rfl
      · rw [next] at isRun
        cases List.mem_append.mp isRun with
        | inl before =>
            exact named run before
        | inr isNew =>
            obtain rfl := List.mem_singleton.mp isNew
            rw [Named, isNamed]
            rfl

theorem Simulates.scanEdge_later
    (isStair : isVertical edge = false)
    {first last : Nat}
    (isCurrent : runs.current = some (first, last)) :
    ScanMatches graph coarsePath (runs.step index false)
      (NavBim.scanEdge graph scan
        (coarsePath.getD index 0, coarsePath.getD (index + 1) 0)) := by
  rw [NavBim.scanEdge, isEdge]
  dsimp only
  rw [isStair]
  have length := simulates.length
  rw [if_neg Bool.false_ne_true]
  have withCurrent : runs.runs = runs.done ++ [(first, last)] := by
    rw [RunScan.runs, isCurrent]
    rfl
  have next : (runs.step index false).runs =
      runs.done ++ [(first, index)] := by
    rw [RunScan.step, isCurrent]
    rfl
  have done : (runs.step index false).done = runs.done := by
    rw [RunScan.step, isCurrent]
  have places := simulates.places
  rw [withCurrent, List.map_append] at places
  obtain ⟨closed, current, segments, isClosed, isOpen⟩ :=
    List.map_eq_append_iff.mp places
  obtain ⟨segment, rfl, isSegment⟩ := List.map_eq_singleton_iff.mp isOpen
  rw [withCurrent, List.length_append, List.length_singleton] at length
  have extends_ : scan.currentSegment ≠ scan.segments.length := by
    rw [simulates.currentSegment, length]
    exact Nat.ne_of_lt (Nat.lt_succ_self _)
  rw [if_neg extends_]
  refine ⟨⟨?_, ?_⟩, fun run isRun => ?_⟩
  · rw [done]
    exact simulates.currentSegment
  · obtain ⟨isStart, -⟩ := Prod.mk.inj isSegment
    rw [next, List.map_append, segments, List.dropLast_concat,
      List.getLast?_concat, List.map_append, isClosed]
    exact congrArg (fun place => _ ++ [(place, _)]) isStart
  · rw [next] at isRun
    cases List.mem_append.mp isRun with
    | inl before =>
        refine named run ?_
        rw [withCurrent]
        exact List.mem_append_left _ before
    | inr isNew =>
        obtain rfl := List.mem_singleton.mp isNew
        refine named (first, last) ?_
        rw [withCurrent]
        exact List.mem_append_right _ (List.mem_singleton_self _)

end

theorem Simulates.scanEdge
    (found : (graph.edge? (coarsePath.getD index 0)
      (coarsePath.getD (index + 1) 0)).isSome) :
    ScanMatches graph coarsePath
      (runs.step index (verticalAt graph coarsePath index))
      (NavBim.scanEdge graph scan
        (coarsePath.getD index 0, coarsePath.getD (index + 1) 0)) := by
  obtain ⟨edge, isEdge⟩ := Option.isSome_iff_exists.mp found
  have vertical : verticalAt graph coarsePath index = isVertical edge := by
    rw [verticalAt, isEdge]
    rfl
  rw [vertical]
  cases isStair : isVertical edge with
  | true =>
      exact simulates.scanEdge_vertical named isEdge isStair
  | false =>
      cases isCurrent : runs.current with
      | none =>
          exact simulates.scanEdge_first named isEdge isStair isCurrent
      | some run =>
          exact simulates.scanEdge_later named isEdge isStair isCurrent

end

theorem exists_run_step
    {run : Nat × Nat}
    (isRun : run ∈ runs.runs)
    (separates : Bool) :
    ∃ next ∈ (runs.step index separates).runs, next.1 = run.1 := by
  cases separates with
  | true =>
      refine ⟨run, ?_, rfl⟩
      rw [RunScan.step, RunScan.runs, Option.toList_none, List.append_nil]
      exact isRun
  | false =>
      rw [RunScan.step]
      cases isCurrent : runs.current with
      | none =>
          rw [RunScan.runs, isCurrent, Option.toList_none,
            List.append_nil] at isRun
          exact ⟨run, List.mem_append_left _ isRun, rfl⟩
      | some current =>
          rw [RunScan.runs, isCurrent] at isRun
          cases List.mem_append.mp isRun with
          | inl closed =>
              exact ⟨run, List.mem_append_left _ closed, rfl⟩
          | inr isOpen =>
              obtain rfl := List.mem_singleton.mp isOpen
              exact ⟨(run.1, index),
                List.mem_append_right _ (List.mem_singleton_self _), rfl⟩

theorem getElem?_coarseEdges
    (inside : index < coarsePath.length - 1) :
    (coarseEdges coarsePath)[index]? =
      some (coarsePath.getD index 0, coarsePath.getD (index + 1) 0) := by
  have here : index < coarsePath.length := by omega
  have next : index + 1 < coarsePath.length := by omega
  rw [coarseEdges, List.getElem?_zip_eq_some, List.getElem?_tail,
    List.getElem?_eq_getElem here, List.getElem?_eq_getElem next,
    List.getD_eq_getElem?_getD, List.getD_eq_getElem?_getD,
    List.getElem?_eq_getElem here, List.getElem?_eq_getElem next]
  exact ⟨rfl, rfl⟩

theorem length_coarseEdges :
    (coarseEdges coarsePath).length = coarsePath.length - 1 := by
  rw [coarseEdges, List.length_zip, List.length_tail]
  omega

/-- All edges of the coarse path are in the graph. -/
def EdgesFound
    (graph : TopologicalGraph K)
    (coarsePath : List Nat) : Prop :=
  ∀ ends ∈ coarseEdges coarsePath, (graph.edge? ends.1 ends.2).isSome

theorem scanMatches_take
    (edges : EdgesFound graph coarsePath)
    {count : Nat}
    (upTo : count ≤ coarsePath.length - 1) :
    ScanMatches graph coarsePath (scanRuns (verticalAt graph coarsePath) count)
      (((coarseEdges coarsePath).take count).foldlM (NavBim.scanEdge graph)
        ⟨[], 0⟩) := by
  induction count with
  | zero =>
      exact ⟨⟨rfl, rfl⟩, fun run isRun => nomatch isRun⟩
  | succ count inductionHypothesis =>
      have before := inductionHypothesis (Nat.le_of_succ_le upTo)
      have isEdge := getElem?_coarseEdges upTo
      have found := edges _ (List.mem_of_getElem? isEdge)
      rw [List.take_add_one, isEdge, List.foldlM_append, scanRuns]
      cases result : ((coarseEdges coarsePath).take count).foldlM
          (NavBim.scanEdge graph) ⟨[], 0⟩ with
      | none =>
          rw [result] at before
          obtain ⟨run, isRun, unnamed⟩ := before
          obtain ⟨next, isNext, same⟩ := exists_run_step isRun
            (verticalAt graph coarsePath count)
          exact ⟨next, isNext, by rw [same]; exact unnamed⟩
      | some scan =>
          rw [result] at before
          have matched := before.1.scanEdge before.2 found
          simp only [Option.toList_some, List.foldlM_cons, List.foldlM_nil,
            bind_pure]
          exact matched

theorem scanMatches
    (edges : EdgesFound graph coarsePath) :
    ScanMatches graph coarsePath
      (scanRuns (verticalAt graph coarsePath) (coarsePath.length - 1))
      ((coarseEdges coarsePath).foldlM (NavBim.scanEdge graph) ⟨[], 0⟩) := by
  have all := scanMatches_take edges (Nat.le_refl (coarsePath.length - 1))
  rw [← length_coarseEdges, List.take_length] at all
  rw [← length_coarseEdges]
  exact all

end Runs

section Blocks

variable
  {K : Type}
  [Field K]

/-- The path is made of blocks, one for each coarse edge, that run from its
first to its second vertex. -/
structure MadeOfBlocks
    (graph : TopologicalGraph K)
    (coarsePath : List Nat)
    (blocks : List (List (Coords K))) : Prop where
  edges : EdgesFound graph coarsePath
  length : blocks.length = coarsePath.length - 1
  runs :
    ∀ index, ∀ block ∈ blocks[index]?,
      Runs block (placeAt graph coarsePath index)
        (placeAt graph coarsePath (index + 1))

/-- Where a block starts in the path. -/
def offset
    (blocks : List (List (Coords K)))
    (index : Nat) : Nat :=
  (blocks.take index).flatten.length

/-- A waypoint belongs to a block.  Where a block ends the next one starts, so
the last waypoint of a block belongs to the next block, too. -/
def InBlock
    (blocks : List (List (Coords K)))
    (index waypoint : Nat) : Prop :=
  offset blocks index - 1 ≤ waypoint ∧ waypoint < offset blocks (index + 1)

/-- A segment is the one of a run. -/
structure SegmentOfRun
    (blocks : List (List (Coords K)))
    (segment : FloorSegment K)
    (run : Nat × Nat) : Prop where
  ordered : segment.startIndex ≤ segment.endIndex
  inside : segment.endIndex < blocks.flatten.length
  starts : InBlock blocks run.1 segment.startIndex
  ends : InBlock blocks run.2 segment.endIndex

/-- There is one segment for each run, in order. -/
def WellFormed
    (graph : TopologicalGraph K)
    (coarsePath : List Nat)
    (blocks : List (List (Coords K)))
    (segments : List (FloorSegment K)) : Prop :=
  ∃ runs : List (Nat × Nat),
    (∀ first last, (first, last) ∈ runs ↔
      FloorRun graph coarsePath first last) ∧
    runs.Pairwise (fun run next => run.2 < next.1) ∧
    List.Forall₂ (SegmentOfRun blocks) segments runs ∧
    segments.Pairwise fun segment next =>
      segment.endIndex ≤ next.startIndex

/-- The path has not been before where a run starts, and where the last edge of
a run ends.  The last run ends where the path ends. -/
structure FirstVisits
    (graph : TopologicalGraph K)
    (coarsePath : List Nat)
    (blocks : List (List (Coords K)))
    (first last : Nat) : Prop where
  named : Named graph coarsePath first
  start :
    placeAt graph coarsePath first ∉
      blocks.flatten.take (offset blocks first - 1)
  stop :
    (∃ later end_, FloorRun graph coarsePath later end_ ∧ last < later) →
      placeAt graph coarsePath (last + 1) ∉
        blocks.flatten.take (offset blocks last - 1)
  final :
    (¬∃ later end_, FloorRun graph coarsePath later end_ ∧ last < later) →
      last + 1 = coarsePath.length - 1

variable
  {graph : TopologicalGraph K}
  {coarsePath : List Nat}
  {blocks : List (List (Coords K))}
  {index first last : Nat}

section

omit [Field K]

theorem offset_succ
    {block : List (Coords K)}
    (isBlock : blocks[index]? = some block) :
    offset blocks (index + 1) = offset blocks index + block.length := by
  rw [offset, offset, List.take_add_one, isBlock, List.flatten_append,
    List.length_append]
  simp

theorem offset_le
    {later : Nat}
    (le : index ≤ later) :
    offset blocks index ≤ offset blocks later := by
  induction le with
  | refl =>
      exact Nat.le_refl _
  | step _ inductionHypothesis =>
      refine inductionHypothesis.trans ?_
      rw [offset, offset, List.take_add_one, List.flatten_append,
        List.length_append]
      exact Nat.le_add_right _ _

theorem offset_length :
    offset blocks blocks.length = blocks.flatten.length := by
  rw [offset, List.take_length]

/-- A waypoint of a block is a waypoint of the path. -/
theorem getElem?_flatten
    {block : List (Coords K)}
    (isBlock : blocks[index]? = some block)
    {place : Nat}
    (inside : place < block.length) :
    blocks.flatten[offset blocks index + place]? = block[place]? := by
  obtain ⟨inBlocks, rfl⟩ := List.getElem?_eq_some_iff.mp isBlock
  have split : blocks = blocks.take index ++ blocks.drop index :=
    (List.take_append_drop index blocks).symm
  rw [List.drop_eq_getElem_cons inBlocks] at split
  have flat : blocks.flatten = (blocks.take index).flatten ++
      (blocks[index] ++ (blocks.drop (index + 1)).flatten) := by
    conv_lhs => rw [split, List.flatten_append, List.flatten_cons]
  rw [flat, offset, List.getElem?_append_right (Nat.le_add_right _ _),
    Nat.add_sub_cancel_left, List.getElem?_append_left inside]

end

/-- The block of a coarse edge, and the waypoints at its ends. -/
structure BlockAt
    (graph : TopologicalGraph K)
    (coarsePath : List Nat)
    (blocks : List (List (Coords K)))
    (index : Nat) : Prop where
  lt : offset blocks index < offset blocks (index + 1)
  first :
    blocks.flatten[offset blocks index]? = some (placeAt graph coarsePath index)
  last :
    blocks.flatten[offset blocks (index + 1) - 1]? =
      some (placeAt graph coarsePath (index + 1))

theorem MadeOfBlocks.blockAt
    (made : MadeOfBlocks graph coarsePath blocks)
    (inside : index < coarsePath.length - 1) :
    BlockAt graph coarsePath blocks index := by
  have inBlocks : index < blocks.length := by
    rw [made.length]
    exact inside
  obtain ⟨block, isBlock⟩ : ∃ block, blocks[index]? = some block :=
    ⟨_, List.getElem?_eq_getElem inBlocks⟩
  have runs := made.runs index block isBlock
  have positive : 0 < block.length := List.length_pos_iff.mpr runs.ne_nil
  have next := offset_succ isBlock
  refine ⟨by omega, ?_, ?_⟩
  · have same := getElem?_flatten isBlock positive
    rw [Nat.add_zero, ← List.head?_eq_getElem?] at same
    exact same.trans runs.1
  · have place : offset blocks (index + 1) - 1 =
        offset blocks index + (block.length - 1) := by
      omega
    rw [place, getElem?_flatten isBlock (by omega),
      ← List.getLast?_eq_getElem?]
    exact runs.2

omit [Field K] in
theorem idxOf_le
    [DecidableEq K]
    {path : List (Coords K)}
    {coords : Coords K}
    (isPlace : path[index]? = some coords) :
    path.idxOf coords ≤ index := by
  have taken : (path.take (index + 1))[index]? = some coords := by
    rw [List.getElem?_take_of_lt (Nat.lt_succ_self index)]
    exact isPlace
  have inTake := List.mem_of_getElem? taken
  exact Nat.le_of_lt_succ
    ((List.mem_take_iff_idxOf_lt (List.mem_of_getElem? isPlace)).mp inTake)

theorem BlockAt.inBlock_start
    [DecidableEq K]
    (block : BlockAt graph coarsePath blocks index)
    (before : index = 0 ∨ BlockAt graph coarsePath blocks (index - 1)) :
    blocks.flatten.idxOf (placeAt graph coarsePath index) ≤
        offset blocks index - 1 ∧
      (InBlock blocks index
          (blocks.flatten.idxOf (placeAt graph coarsePath index)) ↔
        placeAt graph coarsePath index ∉
          blocks.flatten.take (offset blocks index - 1)) := by
  have upTo : blocks.flatten.idxOf (placeAt graph coarsePath index) ≤
      offset blocks index - 1 := by
    rcases before with rfl | earlier
    · exact idxOf_le block.first
    · cases index with
      | zero =>
          exact idxOf_le block.first
      | succ index =>
          exact idxOf_le earlier.last
  refine ⟨upTo, ?_⟩
  rw [List.mem_take_iff_idxOf_lt (List.mem_of_getElem? block.first), not_lt]
  have lt := block.lt
  exact ⟨And.left, fun ge => ⟨ge, by omega⟩⟩

/-- The first waypoint at the place where a block ends. -/
theorem BlockAt.inBlock_stop
    [DecidableEq K]
    (block : BlockAt graph coarsePath blocks index) :
    blocks.flatten.idxOf (placeAt graph coarsePath (index + 1)) ≤
        offset blocks (index + 1) - 1 ∧
      (InBlock blocks index
          (blocks.flatten.idxOf (placeAt graph coarsePath (index + 1))) ↔
        placeAt graph coarsePath (index + 1) ∉
          blocks.flatten.take (offset blocks index - 1)) := by
  have upTo := idxOf_le block.last
  refine ⟨upTo, ?_⟩
  rw [List.mem_take_iff_idxOf_lt (List.mem_of_getElem? block.last), not_lt]
  have lt := block.lt
  exact ⟨And.left, fun ge => ⟨ge, by omega⟩⟩

end Blocks

section Plans

variable
  {K : Type}
  [Field K]
  [LinearOrder K]
  [IsStrictOrderedRing K]
  {graph : TopologicalGraph K}
  {coarsePath : List Nat}
  {blocks : List (List (Coords K))}

variable
  {segments : List (FloorSegment K)}

omit [IsStrictOrderedRing K] in
theorem getElem?_fillIndices
    {runs : List (Nat × Nat)}
    {path : List (Coords K)}
    (places :
      segments.map (fun segment => (segment.startCoords, segment.endCoords)) =
        runs.map fun run =>
          (placeAt graph coarsePath run.1, placeAt graph coarsePath (run.2 + 1)))
    {index : Nat}
    {segment : FloorSegment K}
    {run : Nat × Nat}
    (isSegment : (fillIndices path segments)[index]? = some segment)
    (isRun : runs[index]? = some run) :
    segment.startIndex =
        findClosestIndex path (placeAt graph coarsePath run.1) ∧
      segment.endIndex =
        if index = runs.length - 1 then
          path.length - 1
        else
          findClosestIndex path (placeAt graph coarsePath (run.2 + 1)) := by
  have sameLength := congrArg List.length places
  rw [List.length_map, List.length_map] at sameLength
  rw [fillIndices, List.getElem?_mapIdx] at isSegment
  obtain ⟨before, isBefore, rfl⟩ := Option.map_eq_some_iff.mp isSegment
  have place := congrArg (fun items => items[index]?) places
  rw [List.getElem?_map, List.getElem?_map, isBefore, isRun] at place
  obtain ⟨isStart, isEnd⟩ := Prod.mk.inj (Option.some.inj place)
  rw [isStart, isEnd, sameLength]
  exact ⟨rfl, rfl⟩

section

omit [Field K] [LinearOrder K] [IsStrictOrderedRing K]

theorem isLast_iff
    {runs : List (Nat × Nat)}
    (isRun : ∀ first last, (first, last) ∈ runs ↔
      FloorRun graph coarsePath first last)
    (sorted : runs.Pairwise (fun run next => run.2 < next.1))
    {index first last : Nat}
    (atIndex : runs[index]? = some (first, last)) :
    index = runs.length - 1 ↔
      ¬∃ later end_, FloorRun graph coarsePath later end_ ∧ last < later := by
  obtain ⟨inside, isHere⟩ := List.getElem?_eq_some_iff.mp atIndex
  have ordered : first ≤ last :=
    ((isRun first last).mp (List.mem_of_getElem? atIndex)).ordered
  rw [List.pairwise_iff_getElem] at sorted
  constructor
  · rintro isLast ⟨later, end_, run, beyond⟩
    obtain ⟨other, inList, isOther⟩ :=
      List.mem_iff_getElem.mp ((isRun later end_).mpr run)
    rcases Nat.lt_or_eq_of_le (Nat.le_sub_one_of_lt inList) with before | same
    · have apart := sorted other index inList inside (isLast ▸ before)
      rw [isHere, isOther] at apart
      have := run.ordered
      dsimp only at apart
      omega
    · have equal : (later, end_) = (first, last) := by
        rw [← isOther, ← isHere]
        congr 1
        omega
      obtain ⟨rfl, rfl⟩ := Prod.mk.inj equal
      omega
  · intro noLater
    by_contra notLast
    have next : index + 1 < runs.length := by omega
    have apart := sorted index (index + 1) inside next (Nat.lt_succ_self _)
    rw [isHere] at apart
    exact noLater ⟨_, _, (isRun _ _).mp (List.getElem_mem next), apart⟩

theorem exists_run_of_mem
    {runs : List (Nat × Nat)}
    {segment : FloorSegment K}
    (areRuns : List.Forall₂ (SegmentOfRun blocks) segments runs)
    (isMember : segment ∈ segments) :
    ∃ run ∈ runs, SegmentOfRun blocks segment run := by
  induction areRuns with
  | nil =>
      exact nomatch isMember
  | cons isRun _ inductionHypothesis =>
      cases List.mem_cons.mp isMember with
      | inl isFirst =>
          exact ⟨_, List.mem_cons_self, isFirst ▸ isRun⟩
      | inr isOther =>
          obtain ⟨run, inRest, segmentOfRun⟩ := inductionHypothesis isOther
          exact ⟨run, List.mem_cons_of_mem _ inRest, segmentOfRun⟩

theorem pairwise_of_segmentOfRun
    {runs : List (Nat × Nat)}
    (areRuns : List.Forall₂ (SegmentOfRun blocks) segments runs)
    (sorted : runs.Pairwise (fun run next => run.2 < next.1)) :
    segments.Pairwise fun segment next =>
      segment.endIndex ≤ next.startIndex := by
  induction areRuns with
  | nil =>
      exact .nil
  | cons isRun others inductionHypothesis =>
      obtain ⟨before, sorted⟩ := List.pairwise_cons.mp sorted
      refine List.pairwise_cons.mpr
        ⟨fun next isNext => ?_, inductionHypothesis sorted⟩
      obtain ⟨run, isOther, segmentOfRun⟩ := exists_run_of_mem others isNext
      have le : offset blocks (_ + 1) ≤ offset blocks run.1 :=
        offset_le (before run isOther)
      have upTo := isRun.ends.2
      have from_ := segmentOfRun.starts.1
      omega

end

omit [LinearOrder K] [IsStrictOrderedRing K] in
theorem inBlock_end_iff
    (made : MadeOfBlocks graph coarsePath blocks)
    {last : Nat}
    (inside : last < coarsePath.length - 1) :
    InBlock blocks last (blocks.flatten.length - 1) ↔
      last + 1 = coarsePath.length - 1 := by
  have positive := (made.blockAt inside).lt
  constructor
  · intro inBlock
    by_contra more
    have later : last + 1 < coarsePath.length - 1 := by omega
    have next := (made.blockAt later).lt
    have upTo : offset blocks (last + 1 + 1) ≤ blocks.flatten.length := by
      rw [← offset_length, made.length]
      exact offset_le later
    have before := inBlock.2
    omega
  · intro isLast
    have size : offset blocks (last + 1) = blocks.flatten.length := by
      rw [isLast, ← made.length, offset_length]
    rw [InBlock, size]
    omega

theorem segmentOfRun_iff
    (made : MadeOfBlocks graph coarsePath blocks)
    {first last : Nat}
    (run : FloorRun graph coarsePath first last)
    {segment : FloorSegment K}
    (isStart : segment.startIndex =
      findClosestIndex blocks.flatten (placeAt graph coarsePath first))
    (isEnd :
      (∃ later end_, FloorRun graph coarsePath later end_ ∧ last < later) →
        segment.endIndex = findClosestIndex blocks.flatten
          (placeAt graph coarsePath (last + 1)))
    (isFinal :
      (¬∃ later end_, FloorRun graph coarsePath later end_ ∧ last < later) →
        segment.endIndex = blocks.flatten.length - 1)
    (named : Named graph coarsePath first) :
    SegmentOfRun blocks segment (first, last) ↔
      FirstVisits graph coarsePath blocks first last := by
  have ordered := run.ordered
  have inside := run.inside
  have atFirst := made.blockAt (lt_of_le_of_lt ordered inside)
  have atLast := made.blockAt inside
  have before : first = 0 ∨ BlockAt graph coarsePath blocks (first - 1) := by
    rcases Nat.eq_zero_or_pos first with isFirst | positive
    · exact .inl isFirst
    · exact .inr (made.blockAt (by omega))
  obtain ⟨startUpTo, startIff⟩ := atFirst.inBlock_start before
  rw [findClosestIndex_eq (List.mem_of_getElem? atFirst.first)] at isStart
  rw [← isStart] at startUpTo startIff
  have offsets : offset blocks first ≤ offset blocks last := offset_le ordered
  have size : offset blocks (last + 1) ≤ blocks.flatten.length := by
    rw [← offset_length]
    exact offset_le (by rw [made.length]; exact inside)
  have nonempty := atLast.lt
  by_cases followed :
      ∃ later end_, FloorRun graph coarsePath later end_ ∧ last < later
  · have isEnd := isEnd followed
    rw [findClosestIndex_eq (List.mem_of_getElem? atLast.last)] at isEnd
    obtain ⟨endUpTo, endIff⟩ := atLast.inBlock_stop
    rw [← isEnd] at endUpTo endIff
    constructor
    · intro segmentOfRun
      exact ⟨named, startIff.mp segmentOfRun.starts,
        fun _ => endIff.mp segmentOfRun.ends, fun none => absurd followed none⟩
    · intro visits
      have ends := endIff.mpr (visits.stop followed)
      have from_ := ends.1
      exact ⟨by omega, by omega, startIff.mpr visits.start, ends⟩
  · have isEnd := isFinal followed
    have endIff := inBlock_end_iff made inside
    rw [← isEnd] at endIff
    constructor
    · intro segmentOfRun
      exact ⟨named, startIff.mp segmentOfRun.starts,
        fun some => absurd some followed, fun _ => endIff.mp segmentOfRun.ends⟩
    · intro visits
      exact ⟨by omega, by omega, startIff.mpr visits.start,
        endIff.mpr (visits.final followed)⟩

omit [Field K] [LinearOrder K] [IsStrictOrderedRing K] in
/-- The runs of a plan, in order. -/
theorem exists_runs
    (graph : TopologicalGraph K)
    (coarsePath : List Nat) :
    ∃ runs,
      runs = (scanRuns (verticalAt graph coarsePath)
        (coarsePath.length - 1)).runs ∧
      (∀ first last, (first, last) ∈ runs ↔
        FloorRun graph coarsePath first last) ∧
      runs.Pairwise (fun run next => run.2 < next.1) := by
  have scanned := scanned_scanRuns (verticalAt graph coarsePath)
    (coarsePath.length - 1)
  exact ⟨_, rfl, fun _ _ => scanned.mem_runs, scanned.sorted⟩

theorem wellFormed_fillIndices_iff
    (made : MadeOfBlocks graph coarsePath blocks)
    {runs : List (Nat × Nat)}
    (isRun : ∀ first last, (first, last) ∈ runs ↔
      FloorRun graph coarsePath first last)
    (sorted : runs.Pairwise (fun run next => run.2 < next.1))
    (named : ∀ run ∈ runs, Named graph coarsePath run.1)
    {segments : List (FloorSegment K)}
    (places :
      segments.map (fun segment => (segment.startCoords, segment.endCoords)) =
        runs.map fun run =>
          (placeAt graph coarsePath run.1, placeAt graph coarsePath (run.2 + 1))) :
    WellFormed graph coarsePath blocks (fillIndices blocks.flatten segments) ↔
      ∀ first last, FloorRun graph coarsePath first last →
        FirstVisits graph coarsePath blocks first last := by
  have sameLength : (fillIndices blocks.flatten segments).length =
      runs.length := by
    have lengths := congrArg List.length places
    rw [List.length_map, List.length_map] at lengths
    rw [fillIndices, List.length_mapIdx]
    exact lengths
  have each : ∀ (index first last : Nat) (segment : FloorSegment K),
      (fillIndices blocks.flatten segments)[index]? = some segment →
      runs[index]? = some (first, last) →
      (SegmentOfRun blocks segment (first, last) ↔
        FirstVisits graph coarsePath blocks first last) := by
    intro index first last segment isSegment atIndex
    have member := List.mem_of_getElem? atIndex
    have isLast := isLast_iff isRun sorted atIndex
    obtain ⟨isStart, isEnd⟩ := getElem?_fillIndices places isSegment atIndex
    refine segmentOfRun_iff made ((isRun first last).mp member) isStart
      (fun followed => ?_) (fun final => ?_) (named _ member)
    · rw [isEnd, if_neg (fun final => isLast.mp final followed)]
    · rw [isEnd, if_pos (isLast.mpr final)]
  constructor
  · rintro ⟨others, areRuns, othersSorted, matched, -⟩ first last run
    have ordered : ∀ run ∈ runs, run.1 ≤ run.2 :=
      fun run member => ((isRun run.1 run.2).mp member).ordered
    obtain rfl := eq_of_mem_iff ordered sorted othersSorted
      (fun run => (isRun run.1 run.2).trans (areRuns run.1 run.2).symm)
    obtain ⟨index, atIndex⟩ :=
      List.mem_iff_getElem?.mp ((isRun first last).mpr run)
    obtain ⟨inside, isHere⟩ := List.getElem?_eq_some_iff.mp atIndex
    have isSegment := List.getElem?_eq_getElem (sameLength ▸ inside)
    refine (each index first last _ isSegment atIndex).mp ?_
    have pair := (List.forall₂_iff_get.mp matched).2 index
      (sameLength ▸ inside) inside
    rw [List.get_eq_getElem, List.get_eq_getElem, isHere] at pair
    exact pair
  · intro visits
    have matched : List.Forall₂ (SegmentOfRun blocks)
        (fillIndices blocks.flatten segments) runs := by
      refine List.forall₂_iff_get.mpr ⟨sameLength, fun index inLeft inRight => ?_⟩
      have atIndex := List.getElem?_eq_getElem inRight
      refine (each index _ _ _ (List.getElem?_eq_getElem inLeft) atIndex).mpr ?_
      exact visits _ _ ((isRun _ _).mp (List.getElem_mem inRight))
    exact ⟨runs, isRun, sorted, matched, pairwise_of_segmentOfRun matched sorted⟩

/-- The segments of a plan are well-formed exactly if the path comes to the
ends of its runs for the first time. -/
theorem calculateFloorSegments_wellFormed_iff
    (graph : TopologicalGraph K)
    (coarsePath : List Nat)
    (blocks : List (List (Coords K)))
    (made : MadeOfBlocks graph coarsePath blocks) :
    (∃ segments ∈ calculateFloorSegments coarsePath graph blocks.flatten,
        WellFormed graph coarsePath blocks segments) ↔
      ∀ first last, FloorRun graph coarsePath first last →
        FirstVisits graph coarsePath blocks first last := by
  rw [calculateFloorSegments]
  by_cases edge : 0 < coarsePath.length - 1
  · have notEmpty : ¬(coarsePath.length < 2 ∨ blocks.flatten = []) := by
      rintro (short | isEmpty)
      · omega
      · have first := (made.blockAt edge).first
        rw [isEmpty] at first
        exact nomatch first
    rw [if_neg notEmpty]
    have scanned := scanMatches made.edges
    obtain ⟨runs, areRuns, isRun, sorted⟩ := exists_runs graph coarsePath
    cases result : (coarseEdges coarsePath).foldlM (NavBim.scanEdge graph)
        ⟨[], 0⟩ with
    | none =>
        rw [result, ScanMatches, ← areRuns] at scanned
        obtain ⟨run, member, unnamed⟩ := scanned
        refine iff_of_false (fun ⟨_, isNone, _⟩ => nomatch isNone)
          fun visits => ?_
        exact unnamed (visits _ _ ((isRun run.1 run.2).mp member)).named
    | some scan =>
        rw [result, ScanMatches, ← areRuns] at scanned
        obtain ⟨simulates, named⟩ := scanned
        have places := simulates.places
        rw [← areRuns] at places
        have iff := wellFormed_fillIndices_iff made isRun sorted named places
        constructor
        · rintro ⟨segments, isResult, wellFormed⟩
          obtain rfl := Option.some.inj isResult
          exact iff.mp wellFormed
        · intro visits
          exact ⟨_, rfl, iff.mpr visits⟩
  · have noRun : ∀ first last, ¬FloorRun graph coarsePath first last :=
      fun _ _ run => edge (Nat.zero_lt_of_lt run.inside)
    rw [if_pos (.inl (by omega))]
    refine iff_of_true ⟨[], rfl, [], fun first last => ?_, .nil, .nil, .nil⟩
      (fun first last run => absurd run (noRun first last))
    exact iff_of_false List.not_mem_nil (noRun first last)

end Plans

section Samples

def landing
    (name : String)
    (x y : ℚ) : NodeProperties ℚ :=
  { NodeProperties.unset with
    name := name
    position := { x := x, y := y, z := 0 }
    floor := some ["ground"] }

def passage
    (source : Nat)
    (subtype : Option String) : StoredEdge ℚ where
  source := source
  target := source + 1
  properties := { EdgeProperties.unset with subtype := subtype }

/-- One way, up a stair. -/
def oneWay : TopologicalGraph ℚ where
  vertices :=
    [landing "start" 0 0, landing "foot" 2 0, landing "head" 3 0,
      landing "goal" 4 0]
  edges := [passage 0 none, passage 1 (some "stair"), passage 2 none]
  endsValid := by simp [passage]

def stairBlocks : List (List (Coords ℚ)) :=
  [[(0, 0, 0), (1, 0, 0), (2, 0, 0)], [(2, 0, 0), (3, 0, 0)],
    [(3, 0, 0), (4, 0, 0)]]

theorem oneWay_wellFormed :
    ∃ segments ∈ calculateFloorSegments [0, 1, 2, 3] oneWay
        stairBlocks.flatten,
      WellFormed oneWay [0, 1, 2, 3] stairBlocks segments := by
  have made : MadeOfBlocks oneWay [0, 1, 2, 3] stairBlocks := by
    refine ⟨by unfold EdgesFound; decide, rfl, fun index block isBlock => ?_⟩
    obtain ⟨inside, -⟩ := List.getElem?_eq_some_iff.mp isBlock
    have bound : index < 3 := inside
    interval_cases index <;>
      (obtain rfl := Option.some.inj isBlock; exact ⟨rfl, rfl⟩)
  have level : ∀ index < 3, verticalAt oneWay [0, 1, 2, 3] index = false →
      index = 0 ∨ index = 2 := by
    decide
  -- one run before the stair, and one after it
  have isRun {first last : Nat}
      (run : FloorRun oneWay [0, 1, 2, 3] first last) :
      first = last ∧ (last = 0 ∨ last = 2) := by
    have inside : last < 3 := run.inside
    have ordered := run.ordered
    have atFirst := level first (by omega) (run.unbroken first le_rfl ordered)
    have atLast := level last inside (run.unbroken last ordered le_rfl)
    by_cases across : first ≤ 1 ∧ 1 ≤ last
    · have := level 1 (by decide) (run.unbroken 1 across.1 across.2)
      omega
    · omega
  have second : FloorRun oneWay [0, 1, 2, 3] 2 2 := by
    refine ⟨le_rfl, by decide, fun index lower upper => ?_,
      .inr (by decide), .inl rfl⟩
    obtain rfl : index = 2 := by omega
    decide
  refine (calculateFloorSegments_wellFormed_iff oneWay [0, 1, 2, 3] _ made).mpr
    fun first last run => ?_
  obtain ⟨rfl, rfl | rfl⟩ := isRun run
  · refine ⟨rfl, by decide +kernel, fun _ => by decide +kernel, fun only => ?_⟩
    exact absurd ⟨2, 2, second, Nat.two_pos⟩ only
  · refine ⟨rfl, by decide +kernel, ?_, fun _ => rfl⟩
    rintro ⟨later, end_, next, beyond⟩
    have inside : end_ < 3 := next.inside
    have := next.ordered
    omega

/-- Two ramps: the way to the first one leads over the start of the second. -/
def twoRamps : TopologicalGraph ℚ where
  vertices :=
    [landing "start" 0 0, landing "up" 2 0, landing "top" 3 0,
      landing "down" 1 0, landing "bottom" 1 1, landing "goal" 1 2]
  edges :=
    [passage 0 none, passage 1 (some "ramp"), passage 2 none,
      passage 3 (some "ramp"), passage 4 none]
  endsValid := by simp [passage]

def rampBlocks : List (List (Coords ℚ)) :=
  [[(0, 0, 0), (1, 0, 0), (2, 0, 0)], [(2, 0, 0), (3, 0, 0)],
    [(3, 0, 0), (1, 0, 0)], [(1, 0, 0), (1, 1, 0)], [(1, 1, 0), (1, 2, 0)]]

theorem rampBlocks_madeOfBlocks :
    MadeOfBlocks twoRamps [0, 1, 2, 3, 4, 5] rampBlocks := by
  refine ⟨by unfold EdgesFound; decide, rfl, fun index block isBlock => ?_⟩
  obtain ⟨inside, -⟩ := List.getElem?_eq_some_iff.mp isBlock
  have bound : index < 5 := inside
  interval_cases index <;>
    (obtain rfl := Option.some.inj isBlock; exact ⟨rfl, rfl⟩)

/-- The second segment ends before it starts. -/
theorem rampBlocks_not_wellFormed :
    MadeOfBlocks twoRamps [0, 1, 2, 3, 4, 5] rampBlocks ∧
      ¬∃ segments ∈ calculateFloorSegments [0, 1, 2, 3, 4, 5] twoRamps
          rampBlocks.flatten,
        WellFormed twoRamps [0, 1, 2, 3, 4, 5] rampBlocks segments := by
  refine ⟨rampBlocks_madeOfBlocks, ?_⟩
  rintro ⟨segments, isResult, runs, -, -, matched, -⟩
  have indices : (calculateFloorSegments [0, 1, 2, 3, 4, 5] twoRamps
      rampBlocks.flatten).map (List.map fun segment =>
        (segment.startIndex, segment.endIndex)) =
      some [(0, 2), (4, 1), (8, 10)] := by
    decide +kernel
  rw [isResult] at indices
  have isMember : (4, 1) ∈ segments.map fun segment =>
      (segment.startIndex, segment.endIndex) := by
    rw [Option.some.inj indices]
    decide
  obtain ⟨segment, inSegments, isSegment⟩ := List.mem_map.mp isMember
  obtain ⟨run, -, segmentOfRun⟩ := exists_run_of_mem matched inSegments
  obtain ⟨isStart, isEnd⟩ := Prod.mk.inj isSegment
  have ordered := segmentOfRun.ordered
  omega

end Samples

end NavBim
