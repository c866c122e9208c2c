import Mathlib
import NavBim.TopologicalGraph
import NavBim.TopomapPlanner

namespace NavBim

/-!
# Floor segments

A path on several floors is cut into segments, one for each way between stairs
and ramps.  A segment knows the places where it starts and ends, and its indices
are those of the waypoints that are closest to these places.

Distances are compared by their squares, which is the same for exact numbers.
-/

structure FloorSegment (K : Type) where
  floorName : String
  startCoords : Coords K
  endCoords : Coords K
  startIndex : Nat
  endIndex : Nat
  deriving DecidableEq

section Segments

variable
  {K : Type}
  [Field K]

/-- The edge between two vertices is a stair or a ramp. -/
def isVertical
    (edge : StoredEdge K) : Bool :=
  edge.properties.subtype = some "stair" ||
    edge.properties.subtype = some "ramp"

/-- The name of the first floor, which has to be there if there is a list. -/
def segmentFloorName
    (node : NodeProperties K) : Option String :=
  match node.floor with
  | none => some "unknown"
  | some names => names.head?

/-- The segments so far, and the index of the current one, which does not exist
after a stair or a ramp. -/
structure SegmentScan (K : Type) where
  segments : List (FloorSegment K)
  currentSegment : Nat

/-- One edge of the coarse path.  There is an exception if the floor of a node
has no name. -/
def scanEdge
    (graph : TopologicalGraph K)
    (scan : SegmentScan K)
    (ends : Nat × Nat) : Option (SegmentScan K) :=
  match graph.edge? ends.1 ends.2 with
  | none => some scan
  | some edge =>
      if isVertical edge then
        some { scan with currentSegment := scan.segments.length }
      else if scan.currentSegment = scan.segments.length then
        (segmentFloorName (graph.node ends.1)).map fun name =>
          { scan with
            segments := scan.segments ++
              [{ floorName := name
                 startCoords := (graph.node ends.1).position.coords
                 endCoords := (graph.node ends.2).position.coords
                 startIndex := 0
                 endIndex := 0 }] }
      else
        some
          { scan with
            segments := scan.segments.dropLast ++
              (scan.segments.getLast?.map fun segment =>
                { segment with
                  endCoords :=
                    (graph.node ends.2).position.coords }).toList }

variable [LinearOrder K]

def squaredDistance
    (first second : Coords K) : K :=
  (first.1 - second.1) ^ 2 + (first.2.1 - second.2.1) ^ 2 +
    (first.2.2 - second.2.2) ^ 2

/-- The closest waypoint found so far: its distance, infinite at first, and its
index. -/
def closestStep
    (coords : Coords K)
    (closest : WithTop K × Nat)
    (waypoint : Coords K × Nat) : WithTop K × Nat :=
  let dist : WithTop K := ((squaredDistance waypoint.1 coords : K) : WithTop K)
  if dist < closest.1 then (dist, waypoint.2) else closest

def findClosestIndex
    (path : List (Coords K))
    (coords : Coords K) : Nat :=
  (path.zipIdx.foldl (closestStep coords) (⊤, 0)).2

/-- The last segment extends to the end of the path. -/
def fillIndices
    (path : List (Coords K))
    (segments : List (FloorSegment K)) : List (FloorSegment K) :=
  segments.mapIdx fun idx segment =>
    { segment with
      startIndex := findClosestIndex path segment.startCoords
      endIndex :=
        if idx = segments.length - 1 then
          path.length - 1
        else
          findClosestIndex path segment.endCoords }

def calculateFloorSegments
    (coarsePath : List Nat)
    (graph : TopologicalGraph K)
    (path : List (Coords K)) : Option (List (FloorSegment K)) :=
  if coarsePath.length < 2 ∨ path = [] then
    some []
  else
    ((coarseEdges coarsePath).foldlM (scanEdge graph) ⟨[], 0⟩).map fun scan =>
      fillIndices path scan.segments

end Segments

section Shift

variable
  {K : Type}
  [Field K]
  [LinearOrder K]

/-- Go back as long as waypoints are near; the start is one before them. -/
def shiftStart
    (near : Nat → Bool) :
    (idx startIndex : Nat) → Nat
  | 0, startIndex => if near 0 then 0 else startIndex
  | idx + 1, startIndex =>
      if near (idx + 1) then shiftStart near idx idx else startIndex

/-- Go on as long as waypoints are near; the end is one after them, if there is
one. -/
def shiftEnd
    (near : Nat → Bool)
    (size : Nat) :
    (remaining idx endIndex : Nat) → Nat
  | 0, _, endIndex => endIndex
  | remaining + 1, idx, endIndex =>
      if near idx then
        shiftEnd near size remaining (idx + 1)
          (if idx + 1 < size then idx + 1 else idx)
      else
        endIndex

/-- The distance in the plane is at most the shift. -/
def isNear
    (path : List (Coords K))
    (shiftDistance : K)
    (original idx : Nat) : Bool :=
  match path[idx]?, path[original]? with
  | some pose, some origin =>
      decide (0 ≤ shiftDistance ∧
        (pose.1 - origin.1) ^ 2 + (pose.2.1 - origin.2.1) ^ 2 ≤
          shiftDistance ^ 2)
  | _, _ => false

def applySegmentShift
    (segments : List (FloorSegment K))
    (path : List (Coords K))
    (shiftDistance : K) : List (FloorSegment K) :=
  segments.map fun segment =>
    { segment with
      startIndex :=
        if 0 < segment.startIndex then
          shiftStart (isNear path shiftDistance segment.startIndex)
            segment.startIndex segment.startIndex
        else
          segment.startIndex
      endIndex :=
        shiftEnd (isNear path shiftDistance segment.endIndex) path.length
          (path.length - segment.endIndex) segment.endIndex segment.endIndex }

variable
  {near : Nat → Bool}

theorem shiftStart_spec
    {idx : Nat}
    (isNear : near idx = true)
    (startIndex : Nat) :
    ∃ first,
      IsLeast { a | a ≤ idx ∧ ∀ j, a ≤ j → j ≤ idx → near j = true } first ∧
        shiftStart near idx startIndex = first - 1 := by
  induction idx generalizing startIndex with
  | zero =>
      refine ⟨0, ⟨⟨le_refl 0, fun j _ le => ?_⟩, fun a _ => Nat.zero_le a⟩, ?_⟩
      · rw [Nat.le_zero.mp le]
        exact isNear
      · rw [shiftStart, if_pos isNear]
  | succ idx inductionHypothesis =>
      rw [shiftStart, if_pos isNear]
      by_cases more : near idx = true
      · obtain ⟨first, ⟨⟨le, all⟩, least⟩, isStart⟩ :=
          inductionHypothesis more idx
        refine ⟨first, ⟨⟨Nat.le_succ_of_le le, fun j from_ upTo => ?_⟩,
          fun a member => ?_⟩, isStart⟩
        · rcases Nat.le_succ_iff.mp upTo with earlier | rfl
          · exact all j from_ earlier
          · exact isNear
        · rcases Nat.le_succ_iff.mp member.1 with earlier | rfl
          · exact least ⟨earlier, fun j from_ upTo =>
              member.2 j from_ (Nat.le_succ_of_le upTo)⟩
          · exact Nat.le_succ_of_le le
      · refine ⟨idx + 1, ⟨⟨le_refl _, fun j from_ upTo => ?_⟩,
          fun a member => ?_⟩, ?_⟩
        · rw [le_antisymm upTo from_]
          exact isNear
        · by_contra before
          exact more (member.2 idx (by omega) (Nat.le_succ idx))
        · cases idx with
          | zero =>
              rw [shiftStart, if_neg more]
          | succ earlier =>
              rw [shiftStart, if_neg more]
              rfl

theorem shiftEnd_spec
    {size remaining idx : Nat}
    (isNear : near idx = true)
    (rest : idx + (remaining + 1) = size)
    (endIndex : Nat) :
    ∃ last,
      IsGreatest { b | idx ≤ b ∧ b < size ∧
          ∀ j, idx ≤ j → j ≤ b → near j = true } last ∧
        shiftEnd near size (remaining + 1) idx endIndex =
          min (size - 1) (last + 1) := by
  induction remaining generalizing idx endIndex with
  | zero =>
      refine ⟨idx, ⟨⟨le_refl _, by omega, fun j from_ upTo => ?_⟩,
        fun b member => ?_⟩, ?_⟩
      · rw [le_antisymm upTo from_]
        exact isNear
      · have bound : b < size := member.2.1
        omega
      · rw [shiftEnd, if_pos isNear, shiftEnd, if_neg (by omega)]
        omega
  | succ remaining inductionHypothesis =>
      rw [shiftEnd, if_pos isNear, if_pos (by omega)]
      by_cases more : near (idx + 1) = true
      · obtain ⟨last, ⟨⟨le, bound, all⟩, greatest⟩, isEnd⟩ :=
          inductionHypothesis more (by omega) (idx + 1)
        refine ⟨last, ⟨⟨Nat.le_of_succ_le le, bound, fun j from_ upTo => ?_⟩,
          fun b member => ?_⟩, isEnd⟩
        · rcases Nat.eq_or_lt_of_le from_ with rfl | later
          · exact isNear
          · exact all j later upTo
        · rcases Nat.eq_or_lt_of_le member.1 with rfl | later
          · exact Nat.le_of_succ_le le
          · exact greatest ⟨later, member.2.1, fun j from_ upTo =>
              member.2.2 j (Nat.le_of_succ_le from_) upTo⟩
      · refine ⟨idx, ⟨⟨le_refl _, by omega, fun j from_ upTo => ?_⟩,
          fun b member => ?_⟩, ?_⟩
        · rw [le_antisymm upTo from_]
          exact isNear
        · by_contra beyond
          exact more (member.2.2 (idx + 1) (Nat.le_succ idx) (by omega))
        · rw [shiftEnd, if_neg more]
          omega

/-- A waypoint is within a distance of another one in the plane. -/
def WithinDistance
    (path : List (Coords K))
    (distance : K)
    (center idx : Nat) : Prop :=
  ∃ pose ∈ path[idx]?, ∃ origin ∈ path[center]?,
    (pose.1 - origin.1) ^ 2 + (pose.2.1 - origin.2.1) ^ 2 ≤ distance ^ 2

/-- The window of a segment with one more waypoint on each side than there are
near waypoints in a row. -/
structure Widened
    (path : List (Coords K))
    (shiftDistance : K)
    (before after : FloorSegment K) : Prop where
  unchanged :
    { after with
      startIndex := before.startIndex
      endIndex := before.endIndex } = before
  startIndex :
    ∃ a,
      IsLeast { a | a ≤ before.startIndex ∧
          ∀ j, a ≤ j → j ≤ before.startIndex →
            WithinDistance path shiftDistance before.startIndex j } a ∧
        after.startIndex = a - 1
  endIndex :
    ∃ b,
      IsGreatest { b | before.endIndex ≤ b ∧ b < path.length ∧
          ∀ j, before.endIndex ≤ j → j ≤ b →
            WithinDistance path shiftDistance before.endIndex j } b ∧
        after.endIndex = min (path.length - 1) (b + 1)

/-- A widened window contains the window and stays inside of the path. -/
theorem Widened.contains
    {path : List (Coords K)}
    {shiftDistance : K}
    {before after : FloorSegment K}
    (widened : Widened path shiftDistance before after) :
    after.startIndex ≤ before.startIndex ∧
      before.endIndex ≤ after.endIndex ∧
        after.endIndex < path.length := by
  obtain ⟨first, ⟨⟨le, -⟩, -⟩, isStart⟩ := widened.startIndex
  obtain ⟨last, ⟨⟨from_, inside, -⟩, -⟩, isEnd⟩ := widened.endIndex
  omega

variable
  {path : List (Coords K)}
  {shiftDistance : K}

theorem isNear_iff
    (nonneg : 0 ≤ shiftDistance)
    {original idx : Nat} :
    isNear path shiftDistance original idx = true ↔
      WithinDistance path shiftDistance original idx := by
  rw [isNear, WithinDistance]
  cases path[idx]? with
  | none =>
      simp
  | some pose =>
      cases path[original]? with
      | none =>
          simp
      | some origin =>
          simp [nonneg]

variable [IsStrictOrderedRing K]

/-- A waypoint is near itself. -/
theorem within_self
    {idx : Nat}
    (inside : idx < path.length) :
    WithinDistance path shiftDistance idx idx := by
  refine ⟨path.get ⟨idx, inside⟩, List.getElem?_eq_getElem inside,
    path.get ⟨idx, inside⟩, List.getElem?_eq_getElem inside, ?_⟩
  rw [sub_self, sub_self]
  have nonneg := sq_nonneg shiftDistance
  rwa [zero_pow two_ne_zero, add_zero]

/-- Each output segment is the widened window of its input. -/
theorem applySegmentShift_widened
    (segments : List (FloorSegment K))
    (path : List (Coords K))
    (shiftDistance : K)
    (valid : ∀ segment ∈ segments,
      segment.startIndex ≤ segment.endIndex ∧
        segment.endIndex < path.length)
    (nonneg : 0 ≤ shiftDistance) :
    List.Forall₂
      (fun before after =>
        Widened path shiftDistance before after ∧
          after.startIndex ≤ before.startIndex ∧
            before.endIndex ≤ after.endIndex ∧
              after.endIndex < path.length)
      segments (applySegmentShift segments path shiftDistance) := by
  rw [applySegmentShift, List.forall₂_map_right_iff, List.forall₂_same]
  intro segment isMember
  obtain ⟨ordered, inside⟩ := valid segment isMember
  have iffs : ∀ original idx, isNear path shiftDistance original idx = true ↔
      WithinDistance path shiftDistance original idx :=
    fun _ _ => isNear_iff nonneg
  obtain ⟨first, isFirst, isStart⟩ := shiftStart_spec
    ((iffs _ _).mpr (within_self (lt_of_le_of_lt ordered inside)))
    segment.startIndex
  have rest : segment.endIndex + (path.length - segment.endIndex - 1 + 1) =
      path.length := by
    omega
  have remaining : path.length - segment.endIndex =
      path.length - segment.endIndex - 1 + 1 := by
    omega
  obtain ⟨last, isLast, isEnd⟩ := shiftEnd_spec
    ((iffs _ _).mpr (within_self inside)) rest segment.endIndex
  rw [← remaining] at isEnd
  simp only [iffs] at isFirst isLast
  have widened : Widened path shiftDistance segment
      { segment with
        startIndex :=
          if 0 < segment.startIndex then
            shiftStart (isNear path shiftDistance segment.startIndex)
              segment.startIndex segment.startIndex
          else
            segment.startIndex
        endIndex :=
          shiftEnd (isNear path shiftDistance segment.endIndex) path.length
            (path.length - segment.endIndex) segment.endIndex
            segment.endIndex } := by
    refine ⟨rfl, ⟨first, isFirst, ?_⟩, ⟨last, isLast, isEnd⟩⟩
    by_cases positive : 0 < segment.startIndex
    · exact (if_pos positive).trans isStart
    · have atStart : segment.startIndex = 0 := Nat.eq_zero_of_not_pos positive
      have le : first ≤ segment.startIndex := isFirst.1.1
      refine (if_neg positive).trans ?_
      omega
  exact ⟨widened, widened.contains⟩

end Shift

section Samples

/-- Four waypoints in a row. -/
def straightPath : List (Coords ℚ) :=
  [(0, 0, 0), (1, 0, 0), (2, 0, 0), (3, 0, 0)]

def middleSegment : FloorSegment ℚ where
  floorName := "ground"
  startCoords := (1, 0, 0)
  endCoords := (2, 0, 0)
  startIndex := 1
  endIndex := 2

theorem middleSegment_widened :
    List.Forall₂
      (fun before after =>
        Widened straightPath (1 / 2) before after ∧
          after.startIndex ≤ before.startIndex ∧
            before.endIndex ≤ after.endIndex ∧
              after.endIndex < straightPath.length)
      [middleSegment] (applySegmentShift [middleSegment] straightPath (1 / 2)) :=
  applySegmentShift_widened [middleSegment] straightPath (1 / 2)
    (by decide) (by decide +kernel)

end Samples

end NavBim
