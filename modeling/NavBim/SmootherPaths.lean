import Mathlib
import NavBim.Numerals

namespace NavBim

/-!
# Paths of the smoothers

A smoother divides a path where its direction turns around, smooths the
segments that are long enough one after the other and copies each one back
before it goes on with the next.  Neighbouring segments share a pose.

The functions for angles come from other libraries and are a parameter.
-/

attribute [local instance] atLeastTwo_2 atLeastTwo_10000

namespace SmootherUtils

structure Position (K : Type) where
  x : K
  y : K
  z : K
  deriving DecidableEq

structure Pose (K Q : Type) where
  position : Position K
  orientation : Q
  deriving DecidableEq

abbrev Path (K Q : Type) := List (Pose K Q)

/-- A segment by its first and its last index. -/
structure PathSegment where
  start : Nat
  stop : Nat
  deriving DecidableEq

/-- What other libraries compute with angles. -/
structure Angles (K Q : Type) where
  getYaw : Q → K
  atan2 : K → K → K
  shortestAngularDistance : K → K → K
  orientationAroundZAxis : K → Q
  pi : K

/-- The positions of the poses. -/
def positions
    {K Q : Type}
    (path : Path K Q) : List (Position K) :=
  path.map Pose.position

theorem positions_set
    {K Q : Type}
    (path : Path K Q)
    (i : Nat)
    (pose : Pose K Q) :
    positions (path.set i pose) = (positions path).set i pose.position :=
  List.map_set

section Slices

variable {α : Type}

/-- The items of a segment. -/
def slice
    (items : List α)
    (segment : PathSegment) : List α :=
  (items.drop segment.start).take (segment.stop + 1 - segment.start)

/-- Copy items over those from an index on. -/
def copyBack
    (items : List α)
    (start : Nat)
    (copied : List α) : List α :=
  items.take start ++ copied ++ items.drop (start + copied.length)

variable
  {items : List α}
  {segment : PathSegment}

theorem length_slice
    (inside : segment.stop < items.length) :
    (slice items segment).length = segment.stop + 1 - segment.start := by
  rw [slice, List.length_take, List.length_drop]
  exact Nat.min_eq_left (Nat.sub_le_sub_right inside _)

theorem getElem?_slice
    {index : Nat}
    (inSegment : segment.start + index ≤ segment.stop) :
    (slice items segment)[index]? = items[segment.start + index]? := by
  rw [slice, List.getElem?_take_of_lt (by omega), List.getElem?_drop]

section

variable
  {start : Nat}
  {copied : List α}
  (fits : start + copied.length ≤ items.length)

include fits

theorem getElem?_copyBack
    (index : Nat) :
    (copyBack items start copied)[index]? =
      if start ≤ index ∧ index < start + copied.length then
        copied[index - start]?
      else
        items[index]? := by
  have taken : (items.take start).length = start :=
    List.length_take_of_le (Nat.le_of_add_right_le fits)
  rw [copyBack, List.append_assoc, List.getElem?_append, taken]
  by_cases before : index < start
  · rw [if_pos before, if_neg (by omega), List.getElem?_take_of_lt before]
  · rw [if_neg before, List.getElem?_append]
    by_cases inside : index - start < copied.length
    · rw [if_pos inside, if_pos (by omega)]
    · rw [if_neg inside, if_neg (by omega), List.getElem?_drop]
      congr 1
      omega

theorem length_copyBack :
    (copyBack items start copied).length = items.length := by
  rw [copyBack, List.length_append, List.length_append, List.length_drop,
    List.length_take_of_le (Nat.le_of_add_right_le fits)]
  exact Nat.add_sub_of_le fits

end

theorem positions_slice
    {K Q : Type}
    (path : Path K Q) :
    positions (slice path segment) = slice (positions path) segment := by
  rw [positions, slice, List.map_take, List.map_drop]
  rfl

theorem positions_copyBack
    {K Q : Type}
    (path poses : Path K Q)
    (start : Nat) :
    positions (copyBack path start poses) =
      copyBack (positions path) start (positions poses) := by
  rw [positions, copyBack, List.map_append, List.map_append, List.map_take,
    List.map_drop, copyBack, positions, positions, List.length_map]

end Slices

section Directions

variable
  {K Q : Type}
  [Field K]
  [LinearOrder K]

/-- The segments found so far, and where the next one starts. -/
structure SegmentSearch where
  segments : List PathSegment
  start : Nat

/-- A segment ends at an index. -/
def SegmentSearch.cut
    (search : SegmentSearch)
    (idx : Nat) : SegmentSearch where
  segments := search.segments ++ [⟨search.start, idx⟩]
  start := idx

/-- Cut where the direction turns around, and where the robot turns on the
spot. -/
def cutAtCusp
    (angles : Angles K Q)
    (path : Path K Q)
    (search : SegmentSearch)
    (idx : Nat) : SegmentSearch :=
  match path[idx - 1]?, path[idx]?, path[idx + 1]? with
  | some before, some current, some next =>
      let oaX := current.position.x - before.position.x
      let oaY := current.position.y - before.position.y
      let abX := next.position.x - current.position.x
      let abY := next.position.y - current.position.y
      let dotProduct := oaX * abX + oaY * abY
      let cusp := if dotProduct < 0 then search.cut idx else search
      let dtheta := angles.shortestAngularDistance
        (angles.getYaw current.orientation) (angles.getYaw next.orientation)
      if |abX| < 1 / 10000 ∧ |abY| < 1 / 10000 ∧ 1 / 10000 < |dtheta| then
        cusp.cut idx
      else
        cusp
  | _, _, _ => search

def findDirectionalPathSegments
    (angles : Angles K Q)
    (path : Path K Q) : List PathSegment :=
  let search := (List.range' 1 (path.length - 2)).foldl
    (cutAtCusp angles path) ⟨[], 0⟩
  (search.cut (path.length - 1)).segments

/-- Let each pose but the last look to the next one, or away from it. -/
def alignOrientations
    (angles : Angles K Q)
    (reversing : Bool) : Path K Q → Path K Q
  | current :: next :: rest =>
      let dx := next.position.x - current.position.x
      let dy := next.position.y - current.position.y
      let theta := angles.atan2 dy dx
      let aligned :=
        if |dx| < 1 / 10000 ∧ |dy| < 1 / 10000 then
          current
        else
          { current with
            orientation := angles.orientationAroundZAxis
              (if reversing then theta + angles.pi else theta) }
      aligned :: alignOrientations angles reversing (next :: rest)
  | path => path

/-- The path goes backwards at its second pose. -/
def isReversing
    (angles : Angles K Q)
    (path : Path K Q) : Bool :=
  match path[1]?, path[2]? with
  | some second, some third =>
      let theta := angles.atan2 (third.position.y - second.position.y)
        (third.position.x - second.position.x)
      decide (angles.pi / 2 < |angles.shortestAngularDistance
        (angles.getYaw second.orientation) theta|)
  | _, _ => false

def updateApproximatePathOrientations
    (angles : Angles K Q)
    (path : Path K Q) : Path K Q :=
  alignOrientations angles (isReversing angles path) path

@[simp] theorem positions_alignOrientations
    (angles : Angles K Q)
    (reversing : Bool)
    (path : Path K Q) :
    positions (alignOrientations angles reversing path) = positions path := by
  fun_induction alignOrientations angles reversing path with
  | case1 current next rest dx dy theta aligned inductionHypothesis =>
      have position : aligned.position = current.position := by
        by_cases overlapping : |dx| < 1 / 10000 ∧ |dy| < 1 / 10000
        · exact congrArg Pose.position (if_pos overlapping)
        · refine (congrArg Pose.position (if_neg overlapping)).trans ?_
          rfl
      exact congrArg₂ List.cons position inductionHypothesis
  | case2 path =>
      rfl

@[simp] theorem positions_updateApproximatePathOrientations
    (angles : Angles K Q)
    (path : Path K Q) :
    positions (updateApproximatePathOrientations angles path) =
      positions path :=
  positions_alignOrientations angles _ path

theorem getLast?_alignOrientations
    (angles : Angles K Q)
    (reversing : Bool)
    (path : Path K Q) :
    (alignOrientations angles reversing path).getLast? = path.getLast? := by
  fun_induction alignOrientations angles reversing path with
  | case1 current next rest dx dy theta aligned inductionHypothesis =>
      rw [List.getLast?_cons_cons, ← inductionHypothesis]
      cases rest with
      | nil =>
          rfl
      | cons following rest =>
          exact List.getLast?_cons_cons
  | case2 path =>
      rfl

theorem getLast?_updateApproximatePathOrientations
    (angles : Angles K Q)
    (path : Path K Q) :
    (updateApproximatePathOrientations angles path).getLast? =
      path.getLast? :=
  getLast?_alignOrientations angles _ path

end Directions

section Segments

variable {K Q : Type}

/-- How smoothing ends. -/
inductive SmootherEnd where
  | succeeded
  | failed
  | timedOut
  deriving DecidableEq

/-- The segments that a smoother works on. -/
def pathSegments
    [Field K]
    [LinearOrder K]
    (angles : Angles K Q)
    (enforcePathInversion : Bool)
    (path : Path K Q) : List PathSegment :=
  if enforcePathInversion then
    findDirectionalPathSegments angles path
  else
    [⟨0, path.length - 1⟩]

/-- Smooth the segments with enough points, and copy each one back.  When time
runs out in a segment, those before it have been copied. -/
def smoothSegments
    (minimumPoints : Nat)
    (smoothSegment :
      (success : Bool) → (i : Nat) → Path K Q → SmootherEnd × Path K Q) :
    (i : Nat) → List PathSegment → (success : Bool) → Path K Q →
      SmootherEnd × Path K Q
  | _, [], success, path =>
      (if success then .succeeded else .failed, path)
  | i, segment :: rest, success, path =>
      if minimumPoints < segment.stop - segment.start then
        let smoothed := smoothSegment success i (slice path segment)
        if smoothed.1 = .timedOut then
          (.timedOut, path)
        else
          smoothSegments minimumPoints smoothSegment (i + 1) rest
            (success && smoothed.1 = .succeeded)
            (copyBack path segment.start smoothed.2)
      else
        smoothSegments minimumPoints smoothSegment (i + 1) rest success path

end Segments

section Division

/-- Segments that follow each other from one index to another one. -/
def Divides : Nat → List PathSegment → Nat → Prop
  | first, [], last => first = last
  | first, segment :: rest, last =>
      segment.start = first ∧ first ≤ segment.stop ∧
        Divides segment.stop rest last

theorem Divides.append
    {first middle last : Nat}
    {segments : List PathSegment}
    (divides : Divides first segments middle)
    (le : middle ≤ last) :
    Divides first (segments ++ [⟨middle, last⟩]) last := by
  induction segments generalizing first with
  | nil =>
      obtain rfl : first = middle := divides
      exact ⟨rfl, le, rfl⟩
  | cons segment rest inductionHypothesis =>
      obtain ⟨start, rising, later⟩ := divides
      exact ⟨start, rising, inductionHypothesis later⟩

theorem Divides.le
    {first last : Nat}
    {segments : List PathSegment}
    (divides : Divides first segments last) :
    first ≤ last := by
  induction segments generalizing first with
  | nil =>
      exact Nat.le_of_eq divides
  | cons segment rest inductionHypothesis =>
      obtain ⟨-, rising, later⟩ := divides
      exact rising.trans (inductionHypothesis later)

variable
  {K Q : Type}
  [Field K]
  [LinearOrder K]
  {angles : Angles K Q}
  {path : Path K Q}

/-- What is found so far divides the path up to the next start. -/
structure Found
    (search : SegmentSearch)
    (idx : Nat) : Prop where
  divides : Divides 0 search.segments search.start
  start_le : search.start ≤ idx

theorem Found.cut
    {search : SegmentSearch}
    {idx : Nat}
    (found : Found search idx) :
    Found (search.cut idx) idx where
  divides := found.divides.append found.start_le
  start_le := le_refl idx

theorem Found.cutAtCusp
    {search : SegmentSearch}
    {idx : Nat}
    (found : Found search idx) :
    Found (cutAtCusp angles path search idx) idx := by
  rw [SmootherUtils.cutAtCusp]
  split
  · dsimp only
    split
    · split
      · exact found.cut.cut
      · exact found.cut
    · split
      · exact found.cut
      · exact found
  · exact found

theorem Found.foldl
    {search : SegmentSearch}
    {idx count : Nat}
    (found : Found search idx) :
    Found ((List.range' idx count).foldl (SmootherUtils.cutAtCusp angles path) search)
      (idx + count) := by
  induction count generalizing search idx with
  | zero =>
      exact found
  | succ count inductionHypothesis =>
      have here : Found (SmootherUtils.cutAtCusp angles path search idx) idx :=
        found.cutAtCusp
      have next : Found (SmootherUtils.cutAtCusp angles path search idx) (idx + 1) :=
        { here with start_le := here.start_le.trans (Nat.le_succ idx) }
      have last : idx + (count + 1) = idx + 1 + count := by omega
      rw [last]
      exact inductionHypothesis next

/-- The segments follow each other from the first pose to the last one. -/
theorem divides_findDirectionalPathSegments :
    Divides 0 (findDirectionalPathSegments angles path) (path.length - 1) := by
  have starts : Found ⟨[], 0⟩ 0 := ⟨rfl, le_refl 0⟩
  have found : Found ((List.range' 1 (path.length - 2)).foldl
      (SmootherUtils.cutAtCusp angles path) ⟨[], 0⟩) (path.length - 1) := by
    cases count : path.length - 2 with
    | zero =>
        exact { starts with start_le := Nat.zero_le _ }
    | succ more =>
        have last : path.length - 1 = 1 + (more + 1) := by omega
        rw [last]
        exact Found.foldl { starts with start_le := Nat.zero_le 1 }
  exact found.cut.divides

theorem divides_pathSegments
    (enforcePathInversion : Bool) :
    Divides 0 (pathSegments angles enforcePathInversion path)
      (path.length - 1) := by
  cases enforcePathInversion with
  | true =>
      exact divides_findDirectionalPathSegments
  | false =>
      exact ⟨rfl, Nat.zero_le _, rfl⟩

end Division

end SmootherUtils

end NavBim
