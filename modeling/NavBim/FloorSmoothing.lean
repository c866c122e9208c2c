import NavBim.SmootherPaths

namespace NavBim

/-!
# Smoothing a path floor by floor

The room planner server smooths the segments of a path one after the other,
each with the costmap of its floor, and puts every smoothed segment in place of
the old one.  Segments may overlap: a later one starts from what the earlier
ones have left.
-/

open SmootherUtils

variable {Pose : Type}

/-- The outcome of smoothing one segment. -/
inductive SegmentOutcome (Pose : Type) where
  | smoothed (poses : List Pose)
  | notSmoothed
  | threw
  deriving DecidableEq

/-- What the server works with.  `smooth` gets the number of the call, since a
smoother may keep a state and look at the clock. -/
structure FloorSmoother (Pose : Type) where
  isInitialized : Bool
  isMultiCostmap : Bool
  hasCostmap : String → Bool
  hasMutex : String → Bool
  smooth : Nat → String → List Pose → SegmentOutcome Pose

structure FloorPathSegment where
  floorName : String
  startIdx : Nat
  endIdx : Nat
  deriving DecidableEq

/-- The items of the segment, the last one inclusive. -/
def FloorPathSegment.cutOut
    (segment : FloorPathSegment)
    (poses : List Pose) : List Pose :=
  slice poses ⟨segment.startIdx, segment.endIdx⟩

/-- `erase`, and `insert` at the same place. -/
def FloorPathSegment.replace
    (segment : FloorPathSegment)
    (poses smoothed : List Pose) : List Pose :=
  poses.take segment.startIdx ++ smoothed ++ poses.drop (segment.endIdx + 1)

/-- One round of the loop over the segments. -/
def smoothFloorSegment
    (smoother : FloorSmoother Pose)
    (smoothed : List Pose)
    (call : FloorPathSegment × Nat) : List Pose :=
  let segment := call.1
  if segment.endIdx < segment.startIdx ∨
      smoothed.length ≤ segment.endIdx then
    smoothed
  else if !smoother.hasCostmap segment.floorName then
    smoothed
  else if !smoother.hasMutex segment.floorName then
    smoothed
  else
    match smoother.smooth call.2 segment.floorName
        (segment.cutOut smoothed) with
    | .smoothed poses => segment.replace smoothed poses
    | .notSmoothed => smoothed
    | .threw => smoothed

def smoothFloorSegments
    (smoother : FloorSmoother Pose)
    (path : List Pose)
    (floorSegments : List FloorPathSegment) : List Pose :=
  if !smoother.isInitialized then
    path
  else if !smoother.isMultiCostmap then
    path
  else
    floorSegments.zipIdx.foldl (smoothFloorSegment smoother) path

structure SmoothFloorsRequest (Pose : Type) where
  path : List Pose
  floorNames : List String
  segmentStartIndices : List Nat
  segmentEndIndices : List Nat

structure SmoothFloorsResponse (Pose : Type) where
  smoothedPath : List Pose
  success : Bool
  message : String
  deriving DecidableEq

/-- The segments of the request, as far as the arrays go. -/
def SmoothFloorsRequest.segments
    (request : SmoothFloorsRequest Pose) : List FloorPathSegment :=
  List.zipWith3 FloorPathSegment.mk request.floorNames
    request.segmentStartIndices request.segmentEndIndices

/-- The indices are valid, and there are three poses at least. -/
def Accepted
    (path : List Pose)
    (segment : FloorPathSegment) : Prop :=
  segment.startIdx < path.length ∧ segment.endIdx < path.length ∧
    segment.startIdx + 1 < segment.endIdx

instance
    (path : List Pose)
    (segment : FloorPathSegment) : Decidable (Accepted path segment) :=
  inferInstanceAs (Decidable (_ ∧ _))

def SmoothFloorsRequest.acceptedSegments
    (request : SmoothFloorsRequest Pose) : List FloorPathSegment :=
  request.segments.filter (Accepted request.path)

/-- The path is sent back as it came. -/
def SmoothFloorsRequest.refused
    (request : SmoothFloorsRequest Pose)
    (message : String) : SmoothFloorsResponse Pose where
  smoothedPath := request.path
  success := false
  message := message

def smoothPathWithFloorCostmaps
    (smoother : FloorSmoother Pose)
    (request : SmoothFloorsRequest Pose) : SmoothFloorsResponse Pose :=
  if request.floorNames.isEmpty then
    request.refused "No floor names provided"
  else if request.path.isEmpty then
    request.refused "Empty path provided"
  else if request.floorNames.length ≠ request.segmentStartIndices.length ∨
      request.floorNames.length ≠ request.segmentEndIndices.length then
    request.refused
      "Mismatched floor_names, segment_start_indices, and segment_end_indices sizes"
  else
    { smoothedPath :=
        smoothFloorSegments smoother request.path request.acceptedSegments
      success := true
      message := "Floor smoothing completed successfully" }

/-- A smoothed segment has as many poses, and the same ones at its ends. -/
def PreservesEnds
    (smoother : FloorSmoother Pose) : Prop :=
  ∀ call floorName poses smoothed,
    smoother.smooth call floorName poses = .smoothed smoothed →
    smoothed.length = poses.length ∧
      smoothed.head? = poses.head? ∧
      smoothed.getLast? = poses.getLast?

/-- The index is between the ends of the segment. -/
def FloorPathSegment.Inside
    (segment : FloorPathSegment)
    (index : Nat) : Prop :=
  segment.startIdx < index ∧ index < segment.endIdx

/-- The poses are as many, and those inside of no segment are the same. -/
structure KeepsOutside
    (segments : List FloorPathSegment)
    (before after : List Pose) : Prop where
  length : after.length = before.length
  outside :
    ∀ index, (∀ segment ∈ segments, ¬ segment.Inside index) →
      after[index]? = before[index]?

namespace KeepsOutside

variable
  {segments : List FloorPathSegment}
  {before middle after : List Pose}

theorem refl
    (segments : List FloorPathSegment)
    (poses : List Pose) :
    KeepsOutside segments poses poses where
  length := rfl
  outside := fun _ _ => rfl

theorem trans
    (first : KeepsOutside segments before middle)
    (second : KeepsOutside segments middle after) :
    KeepsOutside segments before after where
  length := second.length.trans first.length
  outside := fun index isOutside =>
    (second.outside index isOutside).trans (first.outside index isOutside)

end KeepsOutside

section Frame

variable
  {smoother : FloorSmoother Pose}
  {segment : FloorPathSegment}
  {poses smoothed : List Pose}

theorem length_cutOut
    (inside : segment.endIdx < poses.length) :
    (segment.cutOut poses).length =
      segment.endIdx + 1 - segment.startIdx := by
  exact length_slice inside

/-- As many poses are put in as are taken out. -/
theorem replace_eq_copyBack
    (ordered : segment.startIdx ≤ segment.endIdx)
    (sameLength :
      smoothed.length = segment.endIdx + 1 - segment.startIdx) :
    segment.replace poses smoothed =
      copyBack poses segment.startIdx smoothed := by
  have stop : segment.startIdx + smoothed.length = segment.endIdx + 1 := by
    rw [sameLength]
    exact Nat.add_sub_of_le (ordered.trans (Nat.le_succ _))
  rw [FloorPathSegment.replace, copyBack, stop]

/-- A segment whose ends stay changes nothing outside of it. -/
theorem keepsOutside_replace
    (ordered : segment.startIdx ≤ segment.endIdx)
    (inside : segment.endIdx < poses.length)
    (sameLength : smoothed.length = (segment.cutOut poses).length)
    (sameHead : smoothed.head? = (segment.cutOut poses).head?)
    (sameLast : smoothed.getLast? = (segment.cutOut poses).getLast?) :
    KeepsOutside [segment] poses (segment.replace poses smoothed) := by
  rw [length_cutOut inside] at sameLength
  have fits : segment.startIdx + smoothed.length ≤ poses.length := by
    omega
  rw [replace_eq_copyBack ordered sameLength]
  refine ⟨length_copyBack fits, ?_⟩
  intro index isOutside
  have notInside := isOutside segment (List.mem_singleton_self segment)
  rw [FloorPathSegment.Inside, not_and_or, not_lt, not_lt] at notInside
  have atPlace
      {place : Nat}
      (inSegment : segment.startIdx + place ≤ segment.endIdx) :
      (segment.cutOut poses)[place]? = poses[segment.startIdx + place]? :=
    getElem?_slice inSegment
  rw [getElem?_copyBack fits]
  split
  · rename_i inWindow
    -- only the ends of the window are outside of the segment
    have isEnd : index = segment.startIdx ∨ index = segment.endIdx := by
      omega
    rcases isEnd with isStart | isLast
    · rw [isStart, Nat.sub_self, ← List.head?_eq_getElem?, sameHead,
        List.head?_eq_getElem?, atPlace ordered, Nat.add_zero]
    · have lastPlace : index - segment.startIdx = smoothed.length - 1 := by
        omega
      have sameLengths : smoothed.length = (segment.cutOut poses).length := by
        rw [length_cutOut inside, sameLength]
      rw [lastPlace, ← List.getLast?_eq_getElem?, sameLast,
        List.getLast?_eq_getElem?, ← sameLengths, ← lastPlace, isLast,
        atPlace (Nat.add_sub_of_le ordered).le, Nat.add_sub_of_le ordered]
  · rfl

/-- One round changes nothing outside of its segment. -/
theorem keepsOutside_smoothFloorSegment
    (preserves : PreservesEnds smoother)
    (poses : List Pose)
    (call : FloorPathSegment × Nat) :
    KeepsOutside [call.1] poses (smoothFloorSegment smoother poses call) := by
  simp only [smoothFloorSegment]
  split
  · exact .refl _ _
  · rename_i valid
    rw [not_or, not_lt, not_le] at valid
    split
    · exact .refl _ _
    · split
      · exact .refl _ _
      · split
        · rename_i smoothed isSmoothed
          obtain ⟨sameLength, sameHead, sameLast⟩ :=
            preserves _ _ _ _ isSmoothed
          exact keepsOutside_replace valid.1 valid.2 sameLength sameHead
            sameLast
        · exact .refl _ _
        · exact .refl _ _

theorem KeepsOutside.of_mem
    {segments : List FloorPathSegment}
    {before after : List Pose}
    (isSegment : segment ∈ segments)
    (keeps : KeepsOutside [segment] before after) :
    KeepsOutside segments before after where
  length := keeps.length
  outside := by
    intro index isOutside
    apply keeps.outside index
    intro other isOther
    rw [List.mem_singleton.mp isOther]
    exact isOutside segment isSegment

/-- All rounds change nothing outside of the segments. -/
theorem keepsOutside_foldl
    (preserves : PreservesEnds smoother)
    {segments : List FloorPathSegment}
    (calls : List (FloorPathSegment × Nat))
    (areSegments : ∀ call ∈ calls, call.1 ∈ segments)
    (poses : List Pose) :
    KeepsOutside segments poses
      (calls.foldl (smoothFloorSegment smoother) poses) := by
  induction calls generalizing poses with
  | nil =>
      exact .refl segments poses
  | cons call rest inductionHypothesis =>
      rw [List.forall_mem_cons] at areSegments
      exact ((keepsOutside_smoothFloorSegment preserves poses call).of_mem
        areSegments.1).trans (inductionHypothesis areSegments.2 _)

theorem keepsOutside_smoothFloorSegments
    (preserves : PreservesEnds smoother)
    (path : List Pose)
    (segments : List FloorPathSegment) :
    KeepsOutside segments path
      (smoothFloorSegments smoother path segments) := by
  rw [smoothFloorSegments]
  split
  · exact .refl segments path
  · split
    · exact .refl segments path
    · apply keepsOutside_foldl preserves
      intro call isCall
      exact List.fst_mem_of_mem_zipIdx isCall

end Frame

/-- Floor smoothing keeps the number of poses, and every pose that is inside of
no accepted segment. -/
theorem keepsOutside_smoothPathWithFloorCostmaps
    (smoother : FloorSmoother Pose)
    (preserves : PreservesEnds smoother)
    (request : SmoothFloorsRequest Pose) :
    KeepsOutside request.acceptedSegments request.path
      (smoothPathWithFloorCostmaps smoother request).smoothedPath := by
  rw [smoothPathWithFloorCostmaps]
  split
  · exact .refl _ _
  · split
    · exact .refl _ _
    · split
      · exact .refl _ _
      · exact keepsOutside_smoothFloorSegments preserves request.path _

section Samples

/-- A smoother that moves the second of three poses to the middle. -/
def middleSmoother : FloorSmoother ℚ where
  isInitialized := true
  isMultiCostmap := true
  hasCostmap := fun floorName => floorName ≠ "roof"
  hasMutex := fun _ => true
  smooth
    | _, _, [first, _, last] => .smoothed [first, (first + last) / 2, last]
    | _, _, _ => .notSmoothed

/-- Two segments overlap, one goes backwards, and the roof has no costmap. -/
def overlappingFloors : SmoothFloorsRequest ℚ where
  path := [0, 5, 2, 9, 4]
  floorNames := ["ground", "first", "cellar", "roof"]
  segmentStartIndices := [0, 1, 3, 2]
  segmentEndIndices := [2, 3, 0, 4]

theorem preservesEnds_middleSmoother :
    PreservesEnds middleSmoother := by
  intro call floorName poses smoothed isSmoothed
  simp only [middleSmoother] at isSmoothed
  split at isSmoothed
  · cases isSmoothed
    exact ⟨rfl, rfl, rfl⟩
  · exact nomatch isSmoothed

theorem overlappingFloors_keepsOutside :
    KeepsOutside overlappingFloors.acceptedSegments overlappingFloors.path
        (smoothPathWithFloorCostmaps middleSmoother
          overlappingFloors).smoothedPath ∧
      (smoothPathWithFloorCostmaps middleSmoother
        overlappingFloors).smoothedPath = [0, 1, 5, 9, 4] := by
  constructor
  · exact keepsOutside_smoothPathWithFloorCostmaps middleSmoother
      preservesEnds_middleSmoother overlappingFloors
  · decide +kernel

end Samples

end NavBim
