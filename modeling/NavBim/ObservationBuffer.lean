import NavBim.ClockedScan
import Mathlib.Data.Rat.Defs
import Mathlib.Order.Monotone.Basic

namespace NavBim

/-!
# The observation buffer

Clouds of a sensor are buffered with the newest one in front.  The buffer is
scanned from the front for observations that are too old, and the first one is
removed together with all that follow.  Clouds may be received in any order of
their stamps.

Times are whole nanoseconds.  The clock is read again for each observation, and
the number of readings is counted.
-/

/-- `sensor_msgs/PointCloud2`. -/
structure PointCloud (P : Type) where
  stamp : ℤ
  frameId : String
  points : List P
  deriving DecidableEq

/-- An observation made by a sensor. -/
structure Observation (K P : Type) where
  origin : K × K × K
  cloud : PointCloud P
  obstacleMaxRange : K
  obstacleMinRange : K
  raytraceMaxRange : K
  raytraceMinRange : K
  deriving DecidableEq

/-- Transforms between frames, if they are available: of the origin of a frame
at a time, and of a cloud. -/
structure TransformBuffer (K P : Type) where
  transformOrigin : String → ℤ → String → Option (K × K × K)
  transformCloud : PointCloud P → String → Option (PointCloud P)

/-- What a buffer is constructed with. -/
structure BufferParameters (K : Type) where
  observationKeepTime : ℤ
  globalFrame : String
  sensorFrame : String
  minObstacleHeight : K
  maxObstacleHeight : K
  obstacleMaxRange : K
  obstacleMinRange : K
  raytraceMaxRange : K
  raytraceMinRange : K

structure ObservationBuffer (K P : Type) extends BufferParameters K where
  lastUpdated : ℤ
  observationList : List (Observation K P)
  /-- How often the clock was read. -/
  reads : Nat

/-- A call of the buffer. -/
inductive BufferCall (P : Type) where
  | bufferCloud (cloud : PointCloud P)
  | getObservations

namespace ObservationBuffer

section Model

variable
  {K P : Type}
  (clock : Nat → ℤ)

/-- An observation is older than it is kept, at a reading of the clock. -/
def IsStale
    (observationKeepTime : ℤ)
    (reads : Nat)
    (observation : Observation K P) : Prop :=
  clock reads - observation.cloud.stamp > observationKeepTime

instance
    (observationKeepTime : ℤ)
    (reads : Nat)
    (observation : Observation K P) :
    Decidable (IsStale clock observationKeepTime reads observation) :=
  inferInstanceAs (Decidable (_ > _))

def purgeStaleObservations
    (buffer : ObservationBuffer K P) : ObservationBuffer K P :=
  match buffer.observationList with
  | [] => buffer
  | first :: _ =>
      if buffer.observationKeepTime = 0 then
        { buffer with observationList := [first] }
      else
        let scanned := scanStale (IsStale clock buffer.observationKeepTime)
          buffer.reads buffer.observationList
        { buffer with
          observationList := scanned.1
          reads := scanned.2 }

/-- The observations for the caller, and the buffer afterwards. -/
def getObservations
    (buffer : ObservationBuffer K P) :
    List (Observation K P) × ObservationBuffer K P :=
  let purged := buffer.purgeStaleObservations clock
  (purged.observationList, purged)

variable
  [LE K] [DecidableLE K]
  (tf : TransformBuffer K P)
  (z : P → K)

/-- The observation to be buffered for a cloud, if the transforms are
available.  Points that are too low or too high are left out. -/
def observation?
    (parameters : BufferParameters K)
    (cloud : PointCloud P) : Option (Observation K P) := do
  let originFrame :=
    if parameters.sensorFrame = "" then cloud.frameId
    else parameters.sensorFrame
  let origin ←
    tf.transformOrigin originFrame cloud.stamp parameters.globalFrame
  let globalFrameCloud ← tf.transformCloud cloud parameters.globalFrame
  some {
    origin := origin
    cloud := {
      stamp := cloud.stamp
      frameId := globalFrameCloud.frameId
      points := globalFrameCloud.points.filter fun point =>
        z point ≤ parameters.maxObstacleHeight ∧
          parameters.minObstacleHeight ≤ z point }
    obstacleMaxRange := parameters.obstacleMaxRange
    obstacleMinRange := parameters.obstacleMinRange
    raytraceMaxRange := parameters.raytraceMaxRange
    raytraceMinRange := parameters.raytraceMinRange }

def bufferCloud
    (buffer : ObservationBuffer K P)
    (cloud : PointCloud P) : ObservationBuffer K P :=
  match observation? tf z buffer.toBufferParameters cloud with
  | none => buffer
  | some observation =>
      purgeStaleObservations clock { buffer with
        observationList := observation :: buffer.observationList
        lastUpdated := clock buffer.reads
        reads := buffer.reads + 1 }

def step
    (buffer : ObservationBuffer K P) :
    BufferCall P → ObservationBuffer K P
  | .bufferCloud cloud => buffer.bufferCloud clock tf z cloud
  | .getObservations => (buffer.getObservations clock).2

def run
    (calls : List (BufferCall P))
    (buffer : ObservationBuffer K P) : ObservationBuffer K P :=
  calls.foldl (fun buffer => step clock tf z buffer) buffer

/-- The observation of a call, if it is a successful one of a cloud. -/
def BufferCall.observation?
    (parameters : BufferParameters K) :
    BufferCall P → Option (Observation K P)
  | .bufferCloud cloud => ObservationBuffer.observation? tf z parameters cloud
  | .getObservations => none

/-- All observations of successful calls, the last one first. -/
def buffered
    (parameters : BufferParameters K)
    (calls : List (BufferCall P)) : List (Observation K P) :=
  (calls.filterMap (BufferCall.observation? tf z parameters)).reverse

end Model

section Runs

variable
  {K P : Type}
  {clock : Nat → ℤ}
  {buffer : ObservationBuffer K P}
  {items : List (Observation K P)}

theorem isStale_forever
    (monotone : Monotone clock)
    (observationKeepTime : ℤ)
    (observation : Observation K P)
    (reads later : Nat)
    (isLater : reads ≤ later)
    (isStale : IsStale clock observationKeepTime reads observation) :
    IsStale clock observationKeepTime later observation :=
  lt_of_lt_of_le isStale (sub_le_sub_right (monotone isLater) _)

/-- The buffer holds all observations up to one that is stale now. -/
def Holds
    (clock : Nat → ℤ)
    (buffer : ObservationBuffer K P)
    (items : List (Observation K P)) : Prop :=
  ScanCut (IsStale clock buffer.observationKeepTime) buffer.reads
    buffer.observationList items

theorem purgeStaleObservations_eq
    (keeps : 0 < buffer.observationKeepTime) :
    buffer.purgeStaleObservations clock =
      { buffer with
        observationList := (scanStale
          (IsStale clock buffer.observationKeepTime) buffer.reads
          buffer.observationList).1
        reads := (scanStale
          (IsStale clock buffer.observationKeepTime) buffer.reads
          buffer.observationList).2 } := by
  obtain ⟨parameters, lastUpdated, observationList, reads⟩ := buffer
  cases observationList with
  | nil => rfl
  | cons first rest =>
      rw [purgeStaleObservations]
      exact if_neg (ne_of_gt keeps)

theorem Holds.purge
    (monotone : Monotone clock)
    (keeps : 0 < buffer.observationKeepTime)
    (holds : Holds clock buffer items) :
    Holds clock (buffer.purgeStaleObservations clock) items := by
  rw [purgeStaleObservations_eq keeps]
  exact ScanCut.scanStale (isStale_forever monotone _) holds

@[simp] theorem purgeStaleObservations_toBufferParameters
    (buffer : ObservationBuffer K P) :
    (buffer.purgeStaleObservations clock).toBufferParameters =
      buffer.toBufferParameters := by
  rw [purgeStaleObservations]
  split
  · rfl
  · split
    · rfl
    · rfl

variable
  [LE K] [DecidableLE K]
  {tf : TransformBuffer K P}
  {z : P → K}

@[simp] theorem step_toBufferParameters
    (buffer : ObservationBuffer K P)
    (call : BufferCall P) :
    (buffer.step clock tf z call).toBufferParameters =
      buffer.toBufferParameters := by
  cases call with
  | bufferCloud cloud =>
      rw [step, bufferCloud]
      split
      · rfl
      · exact purgeStaleObservations_toBufferParameters _
  | getObservations => exact purgeStaleObservations_toBufferParameters _

theorem Holds.step
    (monotone : Monotone clock)
    (keeps : 0 < buffer.observationKeepTime)
    (holds : Holds clock buffer items)
    (call : BufferCall P) :
    Holds clock (buffer.step clock tf z call)
      ((BufferCall.observation? tf z buffer.toBufferParameters call).toList ++
        items) := by
  cases call with
  | bufferCloud cloud =>
      rw [ObservationBuffer.step, bufferCloud, BufferCall.observation?]
      cases observation? tf z buffer.toBufferParameters cloud with
      | none => exact holds
      | some observation =>
          have added : Holds clock
              { buffer with
                observationList := observation :: buffer.observationList
                lastUpdated := clock buffer.reads
                reads := buffer.reads + 1 } (observation :: items) :=
            (ScanCut.cons holds observation).mono (Nat.le_succ _)
          exact added.purge monotone keeps
  | getObservations => exact holds.purge monotone keeps

theorem buffered_cons
    (parameters : BufferParameters K)
    (call : BufferCall P)
    (rest : List (BufferCall P)) :
    buffered tf z parameters (call :: rest) =
      buffered tf z parameters rest ++
        (BufferCall.observation? tf z parameters call).toList := by
  rw [buffered, List.filterMap_cons]
  cases BufferCall.observation? tf z parameters call with
  | none => exact (List.append_nil _).symm
  | some observation => exact List.reverse_cons

theorem run_toBufferParameters
    (calls : List (BufferCall P))
    (buffer : ObservationBuffer K P) :
    (buffer.run clock tf z calls).toBufferParameters =
      buffer.toBufferParameters := by
  induction calls generalizing buffer with
  | nil => rfl
  | cons call rest inductionHypothesis =>
      exact (inductionHypothesis _).trans (step_toBufferParameters buffer call)

theorem Holds.run
    (monotone : Monotone clock)
    (keeps : 0 < buffer.observationKeepTime)
    (holds : Holds clock buffer items)
    (calls : List (BufferCall P)) :
    Holds clock (buffer.run clock tf z calls)
      (buffered tf z buffer.toBufferParameters calls ++ items) := by
  induction calls generalizing buffer items with
  | nil =>
      exact holds
  | cons call rest inductionHypothesis =>
      have same : (buffer.step clock tf z call).toBufferParameters =
          buffer.toBufferParameters := step_toBufferParameters buffer call
      have keepsAfter :
          0 < (buffer.step clock tf z call).observationKeepTime := by
        rw [same]
        exact keeps
      have after := inductionHypothesis keepsAfter
        (holds.step monotone keeps call)
      rw [same] at after
      rw [buffered_cons, List.append_assoc]
      exact after

/-- The observations that are not older than they are kept, of all that were
buffered in a run. -/
def current
    (clock : Nat → ℤ)
    (tf : TransformBuffer K P)
    (z : P → K)
    (buffer : ObservationBuffer K P)
    (calls : List (BufferCall P)) : List (Observation K P) :=
  freshItems (IsStale clock buffer.observationKeepTime)
    (buffer.run clock tf z calls).reads
    (buffered tf z buffer.toBufferParameters calls)

/-- After any calls, exactly the observations that are not too old are returned,
exactly if none of them was received before one that is too old. -/
theorem getObservations_current_iff
    (clock : Nat → ℤ)
    (monotone : Monotone clock)
    (tf : TransformBuffer K P)
    (z : P → K)
    (buffer : ObservationBuffer K P)
    (isEmpty : buffer.observationList = [])
    (keeps : 0 < buffer.observationKeepTime)
    (calls : List (BufferCall P)) :
    ((buffer.run clock tf z calls).getObservations clock).1 =
        buffer.current clock tf z calls ↔
      FreshFirst (IsStale clock buffer.observationKeepTime)
        (buffer.run clock tf z calls).reads
        (buffered tf z buffer.toBufferParameters calls) := by
  have nothing : Holds clock buffer ([] : List (Observation K P)) := by
    rw [Holds, isEmpty]
    exact ScanCut.refl []
  have holds : Holds clock (buffer.run clock tf z calls)
      (buffered tf z buffer.toBufferParameters calls ++ []) :=
    nothing.run monotone keeps calls
  have same : (buffer.run clock tf z calls).toBufferParameters =
      buffer.toBufferParameters := run_toBufferParameters calls buffer
  rw [List.append_nil, Holds] at holds
  rw [← scanStale_eq_freshItems_iff, current, getObservations,
    purgeStaleObservations_eq (by rw [same]; exact keeps)]
  dsimp only
  rw [holds.scanStale_eq, same]

/-- Transforms between frames that are the same. -/
def sameFrames : TransformBuffer ℚ (ℚ × ℚ × ℚ) where
  transformOrigin := fun _ _ _ => some (0, 0, 0)
  transformCloud := fun cloud globalFrame =>
    some { cloud with frameId := globalFrame }

/-- A buffer that keeps observations for ten nanoseconds. -/
def shortBuffer : ObservationBuffer ℚ (ℚ × ℚ × ℚ) where
  observationKeepTime := 10
  globalFrame := "map"
  sensorFrame := ""
  minObstacleHeight := 0
  maxObstacleHeight := 2
  obstacleMaxRange := 3
  obstacleMinRange := 0
  raytraceMaxRange := 4
  raytraceMinRange := 0
  lastUpdated := 0
  observationList := []
  reads := 0

/-- A cloud with a point that is high enough and one that is not. -/
def cloudAt
    (stamp : ℤ) : PointCloud (ℚ × ℚ × ℚ) :=
  ⟨stamp, "laser", [(1, 0, 1), (1, 0, 3)]⟩

/-- Clouds in the order of their stamps, one each five nanoseconds. -/
theorem ordered_current :
    ((shortBuffer.run (fun reads => 3 * reads) sameFrames (·.2.2)
          [.bufferCloud (cloudAt 0), .bufferCloud (cloudAt 5)]).getObservations
            fun reads => 3 * reads).1 =
      shortBuffer.current (fun reads => 3 * reads) sameFrames (·.2.2)
        [.bufferCloud (cloudAt 0), .bufferCloud (cloudAt 5)] := by
  refine (getObservations_current_iff (fun reads => 3 * (reads : ℤ))
    (fun _ _ ordered => by
      have := Int.ofNat_le.mpr ordered
      dsimp only
      omega)
    sameFrames (·.2.2) shortBuffer rfl (by decide) _).mpr ?_
  have two : (buffered sameFrames (·.2.2) shortBuffer.toBufferParameters
      [.bufferCloud (cloudAt 0), .bufferCloud (cloudAt 5)]).length = 2 := by
    decide +kernel
  have fresh : ∀ item ∈ (buffered sameFrames (·.2.2)
        shortBuffer.toBufferParameters
        [.bufferCloud (cloudAt 0), .bufferCloud (cloudAt 5)])[0]?,
      ¬IsStale (fun reads => 3 * (reads : ℤ)) 10
        (shortBuffer.run (fun reads => 3 * reads) sameFrames (·.2.2)
          [.bufferCloud (cloudAt 0), .bufferCloud (cloudAt 5)]).reads item := by
    decide +kernel
  intro i j first second before isFirst isSecond stale
  have inside := (List.getElem?_eq_some_iff.mp isSecond).1
  obtain rfl : i = 0 := by omega
  exact absurd stale (fresh first isFirst)

/-- A cloud that arrives late removes a newer one. -/
theorem lateCloud_not_current :
    ¬ ∀ (clock : Nat → ℤ), Monotone clock →
      ∀ (tf : TransformBuffer ℚ (ℚ × ℚ × ℚ)) (z : ℚ × ℚ × ℚ → ℚ)
        (buffer : ObservationBuffer ℚ (ℚ × ℚ × ℚ)),
        buffer.observationList = [] → 0 < buffer.observationKeepTime →
      ∀ calls : List (BufferCall (ℚ × ℚ × ℚ)),
        ((buffer.run clock tf z calls).getObservations clock).1 =
          buffer.current clock tf z calls := by
  intro always
  have isCurrent := always (fun _ => 20) monotone_const sameFrames (·.2.2)
    shortBuffer rfl (by decide)
    [.bufferCloud (cloudAt 20), .bufferCloud (cloudAt 0)]
  exact absurd isCurrent (by decide +kernel)

end Runs

end ObservationBuffer

end NavBim
