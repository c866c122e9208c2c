import Mathlib.Algebra.Order.Field.Basic
import Mathlib.Data.Fintype.Pi
import Mathlib.Order.Interval.Set.UnorderedInterval
import Mathlib.Tactic

namespace NavBim

/-!
# The velocity smoother

A command is followed within the accelerations that each axis allows.  To keep
the direction of a command, the changes of all axes are scaled by one factor.

Numbers are exact here.  Times are whole nanoseconds.
-/

/-- The axes of a twist that are smoothed. -/
inductive Axis where
  | linearX
  | linearY
  | angularZ
  deriving DecidableEq, Repr

/-- In the order in which they are looked at. -/
def Axis.all : List Axis :=
  [.linearX, .linearY, .angularZ]

theorem Axis.mem_all
    (axis : Axis) :
    axis ∈ Axis.all := by
  cases axis with
  | linearX => exact List.mem_cons_self
  | linearY => exact List.mem_cons_of_mem _ List.mem_cons_self
  | angularZ =>
      exact List.mem_cons_of_mem _ (List.mem_cons_of_mem _ List.mem_cons_self)

instance : Fintype Axis where
  elems := Axis.all.toFinset
  complete := fun axis => List.mem_toFinset.mpr axis.mem_all

/-- A value for each axis. -/
abbrev Twist (K : Type) := Axis → K

structure TwistStamped (K : Type) where
  frameId : String
  stamp : ℤ
  twist : Twist K

structure VelocitySmoother (K : Type) where
  command : Option (TwistStamped K)
  lastCommandTime : ℤ
  lastCmd : TwistStamped K
  stopped : Bool
  openLoop : Bool
  scaleVelocities : Bool
  stampSmoothedVelocityWithSmoothingTime : Bool
  velocityTimeout : ℤ
  smoothingFrequency : K
  maxVelocities : Twist K
  minVelocities : Twist K
  maxAccels : Twist K
  maxDecels : Twist K
  deadbandVelocities : Twist K

/-- `std::clamp`. -/
def clamp
    {K : Type}
    [LinearOrder K]
    (value low high : K) : K :=
  if value < low then low else if high < value then high else value

namespace VelocitySmoother

section Model

variable
  {K : Type}
  [Field K] [LinearOrder K]

/-- The magnitude increases, and the speed does not pass through zero. -/
def Accelerates
    (vCurr vCmd : K) : Prop :=
  |vCmd| ≥ |vCurr| ∧ vCurr * vCmd ≥ 0

instance
    (vCurr vCmd : K) : Decidable (Accelerates vCurr vCmd) :=
  inferInstanceAs (Decidable (_ ∧ _))

def componentMax
    (smoothingFrequency vCurr vCmd accel decel : K) : K :=
  if Accelerates vCurr vCmd then accel / smoothingFrequency
  else -decel / smoothingFrequency

def componentMin
    (smoothingFrequency vCurr vCmd accel decel : K) : K :=
  if Accelerates vCurr vCmd then -accel / smoothingFrequency
  else decel / smoothingFrequency

/-- The factor that brings a change to its limit, or `-1` if it is within. -/
def findEtaConstraint
    (smoothingFrequency vCurr vCmd accel decel : K) : K :=
  let dv := vCmd - vCurr
  let vComponentMax := componentMax smoothingFrequency vCurr vCmd accel decel
  let vComponentMin := componentMin smoothingFrequency vCurr vCmd accel decel
  if dv > vComponentMax then
    vComponentMax / dv
  else if dv < vComponentMin then
    vComponentMin / dv
  else
    -1

def applyConstraints
    (smoothingFrequency vCurr vCmd accel decel eta : K) : K :=
  let dv := vCmd - vCurr
  vCurr + clamp (eta * dv)
    (componentMin smoothingFrequency vCurr vCmd accel decel)
    (componentMax smoothingFrequency vCurr vCmd accel decel)

/-- The factor that is farther from one, if the new one is a factor. -/
def updateEta
    (eta currEta : K) : K :=
  if currEta > 0 ∧ |1 - currEta| > |1 - eta| then currEta else eta

variable (smoother : VelocitySmoother K)

def axisEta
    (current command : Twist K)
    (axis : Axis) : K :=
  findEtaConstraint smoother.smoothingFrequency (current axis) (command axis)
    (smoother.maxAccels axis) (smoother.maxDecels axis)

/-- The factor for the changes of all axes. -/
def scaleFactor
    (current command : Twist K) : K :=
  if smoother.scaleVelocities then
    Axis.all.foldl
      (fun eta axis =>
        updateEta eta (smoother.axisEta current command axis)) 1
  else
    1

/-- Command a stop if there was no command for too long. -/
def timedCommand
    (now later : ℤ)
    (command : TwistStamped K) : TwistStamped K :=
  if now - smoother.lastCommandTime > smoother.velocityTimeout then
    { frameId := "", stamp := later, twist := fun _ => 0 }
  else
    command

/-- A command within the velocity limits. -/
def limitedCommand
    (command : TwistStamped K) : TwistStamped K :=
  { command with
    twist := fun axis =>
      clamp (command.twist axis) (smoother.minVelocities axis)
        (smoother.maxVelocities axis) }

/-- The velocity that is fed back. -/
def currentTwist
    (odometry : Twist K) : Twist K :=
  if smoother.openLoop then smoother.lastCmd.twist else odometry

def smoothedTwist
    (current command : Twist K) : Twist K :=
  fun axis =>
    applyConstraints smoother.smoothingFrequency (current axis) (command axis)
      (smoother.maxAccels axis) (smoother.maxDecels axis)
      (smoother.scaleFactor current command)

def deadband
    (twist : Twist K) : Twist K :=
  fun axis =>
    if |twist axis| < smoother.deadbandVelocities axis then 0 else twist axis

/-- Nothing is left to do after the last command. -/
def Rests
    (now : ℤ) : Prop :=
  now - smoother.lastCommandTime > smoother.velocityTimeout ∧
    ((∀ axis, smoother.lastCmd.twist axis = 0) ∨ smoother.stopped)

instance
    (now : ℤ) : Decidable (smoother.Rests now) :=
  inferInstanceAs (Decidable (_ ∧ _))

/-- The smoother after its timer, and what is published.  The clock is read
again for the stamp of a command to stop. -/
def smootherTimer
    (now later : ℤ)
    (odometry : Twist K) : VelocitySmoother K × Option (TwistStamped K) :=
  match smoother.command with
  | none => (smoother, none)
  | some command =>
      let stamp :=
        if smoother.stampSmoothedVelocityWithSmoothingTime then
          command.stamp + (now - smoother.lastCommandTime)
        else
          command.stamp
      if smoother.Rests now then
        ({ smoother with stopped := true }, none)
      else
        let target := smoother.limitedCommand
          (smoother.timedCommand now later command)
        let twist := smoother.smoothedTwist (smoother.currentTwist odometry)
          target.twist
        let cmdVel : TwistStamped K :=
          { frameId := command.frameId, stamp, twist }
        ({ smoother with
            command := some target
            lastCmd := cmdVel
            stopped := false },
          some { cmdVel with twist := smoother.deadband twist })

end Model

section Clamp

variable
  {K : Type}
  [LinearOrder K]
  {value low high : K}

theorem clamp_of_mem
    (isLow : low ≤ value)
    (isHigh : value ≤ high) :
    clamp value low high = value := by
  rw [clamp, if_neg (not_lt.mpr isLow), if_neg (not_lt.mpr isHigh)]

theorem clamp_mem
    (ordered : low ≤ high)
    (value : K) :
    low ≤ clamp value low high ∧ clamp value low high ≤ high := by
  rw [clamp]
  split
  · exact ⟨le_rfl, ordered⟩
  · case isFalse isLow =>
    split
    · exact ⟨ordered, le_rfl⟩
    · case isFalse isHigh =>
      exact ⟨not_lt.mp isLow, not_lt.mp isHigh⟩

end Clamp

section Steps

variable
  {K : Type}
  [Field K] [LinearOrder K]
  {smoothingFrequency vCurr vCmd accel decel : K}

/-- The limits for both directions are the same. -/
theorem componentMin_eq :
    componentMin smoothingFrequency vCurr vCmd accel decel =
      -componentMax smoothingFrequency vCurr vCmd accel decel := by
  rw [componentMin, componentMax]
  split
  · exact neg_div _ _
  · rw [neg_div, neg_neg]

variable [IsStrictOrderedRing K]

theorem componentMax_pos
    (frequencyPositive : 0 < smoothingFrequency)
    (accelPositive : 0 < accel)
    (decelNegative : decel < 0) :
    0 < componentMax smoothingFrequency vCurr vCmd accel decel := by
  rw [componentMax]
  split
  · exact div_pos accelPositive frequencyPositive
  · exact div_pos (neg_pos.mpr decelNegative) frequencyPositive

/-- A change is within its limit, or it is brought there by the factor. -/
theorem findEtaConstraint_cases
    (limitPositive :
      0 < componentMax smoothingFrequency vCurr vCmd accel decel) :
    (|vCmd - vCurr| ≤
          componentMax smoothingFrequency vCurr vCmd accel decel ∧
        findEtaConstraint smoothingFrequency vCurr vCmd accel decel = -1) ∨
      (componentMax smoothingFrequency vCurr vCmd accel decel <
          |vCmd - vCurr| ∧
        findEtaConstraint smoothingFrequency vCurr vCmd accel decel =
          componentMax smoothingFrequency vCurr vCmd accel decel /
            |vCmd - vCurr|) := by
  rw [findEtaConstraint, componentMin_eq]
  generalize componentMax smoothingFrequency vCurr vCmd accel decel = limit
    at limitPositive
  generalize vCmd - vCurr = dv
  by_cases isAbove : dv > limit
  · right
    have positive : 0 < dv := limitPositive.trans isAbove
    rw [if_pos isAbove, abs_of_pos positive]
    exact ⟨isAbove, rfl⟩
  · rw [if_neg isAbove]
    by_cases isBelow : dv < -limit
    · right
      have negative : dv < 0 := isBelow.trans (neg_neg_of_pos limitPositive)
      rw [if_pos isBelow, abs_of_neg negative, neg_div, div_neg]
      exact ⟨lt_neg_of_lt_neg isBelow, rfl⟩
    · left
      rw [if_neg isBelow]
      exact ⟨abs_le.mpr ⟨not_lt.mp isBelow, not_lt.mp isAbove⟩, rfl⟩

/-- Within the limit the whole scaled change is applied. -/
theorem applyConstraints_of_within
    {eta : K}
    (within : |eta * (vCmd - vCurr)| ≤
      componentMax smoothingFrequency vCurr vCmd accel decel) :
    applyConstraints smoothingFrequency vCurr vCmd accel decel eta =
      vCurr + eta * (vCmd - vCurr) := by
  obtain ⟨isLow, isHigh⟩ := abs_le.mp within
  rw [applyConstraints, componentMin_eq, clamp_of_mem isLow isHigh]

/-- Of two factors the smaller one is taken. -/
theorem updateEta_of_factor
    {eta currEta : K}
    (isFactor : eta ≤ 1)
    (positive : 0 < currEta)
    (less : currEta < 1) :
    updateEta eta currEta = min currEta eta := by
  have compare : |1 - currEta| > |1 - eta| ↔ currEta < eta := by
    rw [abs_of_pos (sub_pos.mpr less), abs_of_nonneg (sub_nonneg.mpr isFactor)]
    exact sub_lt_sub_iff_left 1
  rw [updateEta]
  by_cases isLess : currEta < eta
  · rw [if_pos ⟨positive, compare.mpr isLess⟩, min_eq_left isLess.le]
  · rw [if_neg fun both => isLess (compare.mp both.2),
      min_eq_right (not_lt.mp isLess)]

theorem updateEta_neg_one
    (eta : K) :
    updateEta eta (-1) = eta :=
  if_neg fun both => absurd both.1 (not_lt.mpr (neg_nonpos.mpr zero_le_one))

end Steps

section Factor

variable
  {K : Type}
  [Field K] [LinearOrder K]
  (smoother : VelocitySmoother K)
  (current command : Twist K)

/-- How much an axis may change in one step. -/
def stepLimit
    (axis : Axis) : K :=
  componentMax smoother.smoothingFrequency (current axis) (command axis)
    (smoother.maxAccels axis) (smoother.maxDecels axis)

/-- A factor that brings the changes of some axes within their limits. -/
structure Admissible
    (axes : List Axis)
    (eta : K) : Prop where
  positive : 0 < eta
  le_one : eta ≤ 1
  within : ∀ axis ∈ axes,
    |eta * (command axis - current axis)| ≤
      smoother.stepLimit current command axis

/-- Every axis can speed up and slow down. -/
structure HasLimits : Prop where
  frequency : 0 < smoother.smoothingFrequency
  accel : ∀ axis, 0 < smoother.maxAccels axis
  decel : ∀ axis, smoother.maxDecels axis < 0

variable
  {smoother current command}
  [IsStrictOrderedRing K]

theorem HasLimits.stepLimit_pos
    (limits : smoother.HasLimits)
    (axis : Axis) :
    0 < smoother.stepLimit current command axis :=
  componentMax_pos limits.frequency (limits.accel axis) (limits.decel axis)

theorem axisEta_cases
    (limits : smoother.HasLimits)
    (axis : Axis) :
    (|command axis - current axis| ≤ smoother.stepLimit current command axis ∧
        smoother.axisEta current command axis = -1) ∨
      (smoother.stepLimit current command axis <
          |command axis - current axis| ∧
        smoother.axisEta current command axis =
          smoother.stepLimit current command axis /
            |command axis - current axis|) :=
  findEtaConstraint_cases (limits.stepLimit_pos axis)

/-- A smaller factor is admissible as well. -/
theorem Admissible.mono
    {axes : List Axis}
    {eta less : K}
    (admissible : smoother.Admissible current command axes eta)
    (positive : 0 < less)
    (isLess : less ≤ eta) :
    smoother.Admissible current command axes less := by
  refine ⟨positive, isLess.trans admissible.le_one, fun axis member => ?_⟩
  refine le_trans ?_ (admissible.within axis member)
  rw [abs_mul, abs_mul, abs_of_pos positive, abs_of_pos admissible.positive]
  exact mul_le_mul_of_nonneg_right isLess (abs_nonneg _)

section

variable
  (limits : smoother.HasLimits)

include limits

theorem updateEta_isGreatest
    {axes : List Axis}
    {eta : K}
    (greatest : IsGreatest
      {factor | smoother.Admissible current command axes factor} eta)
    (axis : Axis) :
    IsGreatest
      {factor | smoother.Admissible current command (axis :: axes) factor}
      (updateEta eta (smoother.axisEta current command axis)) := by
  obtain ⟨admissible, isGreatest⟩ := greatest
  have positive := admissible.positive
  have limitPositive : 0 < smoother.stepLimit current command axis :=
    limits.stepLimit_pos axis
  have before {factor : K}
      (isFactor :
        smoother.Admissible current command (axis :: axes) factor) :
      factor ≤ eta :=
    isGreatest ⟨isFactor.positive, isFactor.le_one, fun other member =>
      isFactor.within other (List.mem_cons_of_mem _ member)⟩
  rcases @axisEta_cases K _ _ smoother current command _ limits axis with
    ⟨within, isEta⟩ | ⟨above, isEta⟩
  · rw [isEta, updateEta_neg_one]
    refine ⟨⟨positive, admissible.le_one,
      List.forall_mem_cons.mpr ⟨?_, admissible.within⟩⟩, fun _ => before⟩
    rw [abs_mul, abs_of_pos positive]
    exact (mul_le_of_le_one_left (abs_nonneg _) admissible.le_one).trans within
  · have distance : 0 < |command axis - current axis| :=
      limitPositive.trans above
    have ratioPositive := div_pos limitPositive distance
    have ratioLess := (div_lt_one distance).mpr above
    rw [isEta, updateEta_of_factor admissible.le_one ratioPositive ratioLess]
    have minPositive := lt_min ratioPositive positive
    have smaller := admissible.mono minPositive (min_le_right _ _)
    refine ⟨⟨minPositive, smaller.le_one,
      List.forall_mem_cons.mpr ⟨?_, smaller.within⟩⟩, ?_⟩
    · rw [abs_mul, abs_of_pos minPositive, ← le_div_iff₀ distance]
      exact min_le_left _ _
    · intro factor isFactor
      refine le_min ?_ (before isFactor)
      have within := isFactor.within axis List.mem_cons_self
      rw [abs_mul, abs_of_pos isFactor.positive,
        ← le_div_iff₀ distance] at within
      exact within

theorem foldl_updateEta_isGreatest
    (axes : List Axis)
    {done : List Axis}
    {eta : K}
    (greatest : IsGreatest
      {factor | smoother.Admissible current command done factor} eta) :
    IsGreatest
      {factor |
        smoother.Admissible current command (axes.reverse ++ done) factor}
      (axes.foldl
        (fun eta axis =>
          updateEta eta (smoother.axisEta current command axis)) eta) := by
  induction axes generalizing done eta with
  | nil =>
      exact greatest
  | cons axis rest inductionHypothesis =>
      have next := inductionHypothesis (updateEta_isGreatest limits greatest axis)
      rw [List.reverse_cons, List.append_assoc]
      exact next

theorem scaleFactor_isGreatest
    (scales : smoother.scaleVelocities = true) :
    IsGreatest {factor | 0 < factor ∧ factor ≤ 1 ∧ ∀ axis,
        |factor * (command axis - current axis)| ≤
          smoother.stepLimit current command axis}
      (smoother.scaleFactor current command) := by
  have whole : IsGreatest
      {factor | smoother.Admissible current command [] factor} 1 :=
    ⟨⟨one_pos, le_rfl, fun _ member => by cases member⟩,
      fun _ isFactor => isFactor.le_one⟩
  obtain ⟨admissible, isGreatest⟩ :=
    foldl_updateEta_isGreatest limits Axis.all whole
  rw [scaleFactor, if_pos scales]
  refine ⟨⟨admissible.positive, admissible.le_one, fun axis => ?_⟩, ?_⟩
  · exact admissible.within axis
      (List.mem_append_left _ (List.mem_reverse.mpr axis.mem_all))
  · rintro factor ⟨positive, isFactor, within⟩
    exact isGreatest ⟨positive, isFactor, fun axis _ => within axis⟩

theorem smoothedTwist_eq
    (scales : smoother.scaleVelocities = true)
    (axis : Axis) :
    smoother.smoothedTwist current command axis =
      current axis + smoother.scaleFactor current command *
        (command axis - current axis) :=
  applyConstraints_of_within
    ((scaleFactor_isGreatest limits scales).1.2.2 axis)

end

end Factor

section Timer

variable
  {K : Type}
  [Field K] [LinearOrder K]
  {smoother : VelocitySmoother K}

/-- What the timer computes when there is something to do. -/
theorem smootherTimer_twist
    {command : TwistStamped K}
    (hasCommand : smoother.command = some command)
    {now : ℤ}
    (notResting : ¬ smoother.Rests now)
    (later : ℤ)
    (odometry : Twist K) :
    (smoother.smootherTimer now later odometry).1.lastCmd.twist =
      smoother.smoothedTwist (smoother.currentTwist odometry)
        (smoother.limitedCommand
          (smoother.timedCommand now later command)).twist := by
  rw [smootherTimer, hasCommand]
  dsimp only
  rw [if_neg notResting]

variable [IsStrictOrderedRing K]

/-- A part of the way to a goal does not lead beyond it. -/
theorem scaled_mem_uIcc
    {eta : K}
    (notNegative : 0 ≤ eta)
    (le_one : eta ≤ 1)
    (start goal : K) :
    start + eta * (goal - start) ∈ Set.uIcc start goal := by
  rw [Set.mem_uIcc]
  rcases le_total start goal with up | down
  · left
    have way : 0 ≤ goal - start := sub_nonneg.mpr up
    have part := mul_le_of_le_one_left way le_one
    have forward := mul_nonneg notNegative way
    exact ⟨le_add_of_nonneg_right forward, by linarith⟩
  · right
    have way : 0 ≤ start - goal := sub_nonneg.mpr down
    have part := mul_le_of_le_one_left way le_one
    have forward := mul_nonneg notNegative way
    exact ⟨by linarith, by linarith⟩

/-- The change of a twist has the direction of the command, and the greatest
length that all axes allow.  No axis goes beyond its command or, from a velocity
within the limits, beyond a limit. -/
theorem smootherTimer_scaled
    (limits : smoother.HasLimits)
    (scales : smoother.scaleVelocities = true)
    {command : TwistStamped K}
    (hasCommand : smoother.command = some command)
    {now : ℤ}
    (notResting : ¬ smoother.Rests now)
    (later : ℤ)
    (odometry : Twist K) :
    let target := (smoother.limitedCommand
      (smoother.timedCommand now later command)).twist
    let current := smoother.currentTwist odometry
    let twist := (smoother.smootherTimer now later odometry).1.lastCmd.twist
    ∃ eta, IsGreatest {factor | 0 < factor ∧ factor ≤ 1 ∧ ∀ axis,
          |factor * (target axis - current axis)| ≤
            smoother.stepLimit current target axis} eta ∧
      (∀ axis, twist axis =
        current axis + eta * (target axis - current axis)) ∧
      (∀ axis, twist axis ∈ Set.uIcc (current axis) (target axis)) ∧
      ∀ axis, smoother.minVelocities axis ≤ current axis →
        current axis ≤ smoother.maxVelocities axis →
          smoother.minVelocities axis ≤ twist axis ∧
            twist axis ≤ smoother.maxVelocities axis := by
  intro target current twist
  have greatest : IsGreatest _ (smoother.scaleFactor current target) :=
    scaleFactor_isGreatest limits scales
  obtain ⟨positive, le_one, -⟩ := greatest.1
  have isTwist (axis : Axis) :
      twist axis = current axis +
        smoother.scaleFactor current target * (target axis - current axis) := by
    rw [← smoothedTwist_eq limits scales axis]
    exact congrFun
      (smootherTimer_twist hasCommand notResting later odometry) axis
  have between (axis : Axis) :
      twist axis ∈ Set.uIcc (current axis) (target axis) := by
    rw [isTwist axis]
    exact scaled_mem_uIcc positive.le le_one _ _
  refine ⟨_, greatest, isTwist, between, fun axis isLow isHigh => ?_⟩
  obtain ⟨targetLow, targetHigh⟩ :=
    clamp_mem (isLow.trans isHigh)
      ((smoother.timedCommand now later command).twist axis)
  exact ⟨(le_inf isLow targetLow).trans (between axis).1,
    (between axis).2.trans (sup_le isHigh targetHigh)⟩

/-- A robot that drives forward and is to turn. -/
def turningRobot : VelocitySmoother ℚ where
  command := some {
    frameId := "base_link"
    stamp := 0
    twist := fun axis => if axis = .angularZ then 1 else 0 }
  lastCommandTime := 0
  lastCmd := {
    frameId := "base_link"
    stamp := 0
    twist := fun axis => if axis = .linearX then 1 / 2 else 0 }
  stopped := false
  openLoop := true
  scaleVelocities := true
  stampSmoothedVelocityWithSmoothingTime := false
  velocityTimeout := 1000
  smoothingFrequency := 20
  maxVelocities := fun _ => 1
  minVelocities := fun _ => -1
  maxAccels := fun _ => 2
  maxDecels := fun _ => -3
  deadbandVelocities := fun _ => 0

theorem turningRobot_hasLimits : turningRobot.HasLimits :=
  ⟨by decide +kernel, by decide +kernel, by decide +kernel⟩

theorem turningRobot_scaled :
    let command : TwistStamped ℚ := {
      frameId := "base_link"
      stamp := 0
      twist := fun axis => if axis = .angularZ then 1 else 0 }
    let target := (turningRobot.limitedCommand
      (turningRobot.timedCommand 10 10 command)).twist
    let current := turningRobot.currentTwist fun _ => 0
    let twist :=
      (turningRobot.smootherTimer 10 10 fun _ => 0).1.lastCmd.twist
    ∃ eta, IsGreatest {factor | 0 < factor ∧ factor ≤ 1 ∧ ∀ axis,
          |factor * (target axis - current axis)| ≤
            turningRobot.stepLimit current target axis} eta ∧
      (∀ axis, twist axis =
        current axis + eta * (target axis - current axis)) ∧
      (∀ axis, twist axis ∈ Set.uIcc (current axis) (target axis)) ∧
      ∀ axis, turningRobot.minVelocities axis ≤ current axis →
        current axis ≤ turningRobot.maxVelocities axis →
          turningRobot.minVelocities axis ≤ twist axis ∧
            twist axis ≤ turningRobot.maxVelocities axis :=
  smootherTimer_scaled turningRobot_hasLimits rfl rfl (by decide +kernel) 10 _

end Timer

section Speed

variable
  {K : Type}
  [Field K] [LinearOrder K] [IsStrictOrderedRing K]

theorem clamp_eq_part
    {limit eta : K}
    (limitPositive : 0 < limit)
    (positive : 0 < eta)
    (le_one : eta ≤ 1)
    (change : K) :
    ∃ part, 0 ≤ part ∧ part ≤ 1 ∧
      clamp (eta * change) (-limit) limit = part * change := by
  by_cases within : |eta * change| ≤ limit
  · obtain ⟨isLow, isHigh⟩ := abs_le.mp within
    exact ⟨eta, positive.le, le_one, clamp_of_mem isLow isHigh⟩
  · have outside : limit < |change| := by
      rw [abs_mul, abs_of_pos positive, not_le] at within
      exact within.trans_le (mul_le_of_le_one_left (abs_nonneg _) le_one)
    have distance := limitPositive.trans outside
    refine ⟨limit / |change|, (div_pos limitPositive distance).le,
      ((div_lt_one distance).mpr outside).le, ?_⟩
    rw [not_le] at within
    rcases lt_or_gt_of_ne (abs_pos.mp distance) with isNegative | isPositive
    · rw [abs_of_neg (mul_neg_of_pos_of_neg positive isNegative)] at within
      rw [clamp, if_pos (lt_neg_of_lt_neg within), abs_of_neg isNegative,
        div_neg, neg_mul, div_mul_cancel₀ _ isNegative.ne]
    · rw [abs_of_pos (mul_pos positive isPositive)] at within
      rw [clamp, if_neg (by linarith), if_pos within, abs_of_pos isPositive,
        div_mul_cancel₀ _ isPositive.ne']

variable {smoothingFrequency vCurr vCmd accel decel eta : K}

/-- The result lies between the current velocity and the command, and is not
farther from the current velocity than the limit. -/
theorem applyConstraints_part
    (frequencyPositive : 0 < smoothingFrequency)
    (accelPositive : 0 < accel)
    (decelNegative : decel < 0)
    (positive : 0 < eta)
    (le_one : eta ≤ 1) :
    (∃ part, 0 ≤ part ∧ part ≤ 1 ∧
      applyConstraints smoothingFrequency vCurr vCmd accel decel eta =
        vCurr + part * (vCmd - vCurr)) ∧
      |applyConstraints smoothingFrequency vCurr vCmd accel decel eta - vCurr| ≤
        componentMax smoothingFrequency vCurr vCmd accel decel := by
  have limitPositive :
      0 < componentMax smoothingFrequency vCurr vCmd accel decel :=
    componentMax_pos frequencyPositive accelPositive decelNegative
  rw [applyConstraints, componentMin_eq]
  constructor
  · obtain ⟨part, notNegative, isPart, isClamp⟩ :=
      clamp_eq_part limitPositive positive le_one (vCmd - vCurr)
    exact ⟨part, notNegative, isPart, by rw [isClamp]⟩
  · rw [add_sub_cancel_left]
    obtain ⟨isLow, isHigh⟩ :=
      clamp_mem (neg_le_self limitPositive.le) (eta * (vCmd - vCurr))
    exact abs_le.mpr ⟨isLow, isHigh⟩

/-- A part of a change that does not accelerate does not increase the magnitude
before it passes through zero. -/
theorem abs_part_le
    {part : K}
    (notNegative : 0 ≤ part)
    (isPart : part ≤ 1)
    (slows : ¬ Accelerates vCurr vCmd)
    (sameSign : 0 ≤ (vCurr + part * (vCmd - vCurr)) * vCurr) :
    |vCurr + part * (vCmd - vCurr)| ≤ |vCurr| := by
  rw [Accelerates, not_and_or, not_le, not_le] at slows
  rcases slows with smaller | opposite
  · have split : vCurr + part * (vCmd - vCurr) =
        (1 - part) * vCurr + part * vCmd := by ring
    calc |vCurr + part * (vCmd - vCurr)|
        = |(1 - part) * vCurr + part * vCmd| := by rw [split]
      _ ≤ |(1 - part) * vCurr| + |part * vCmd| := abs_add_le _ _
      _ = (1 - part) * |vCurr| + part * |vCmd| := by
          rw [abs_mul, abs_mul, abs_of_nonneg (sub_nonneg.mpr isPart),
            abs_of_nonneg notNegative]
      _ ≤ (1 - part) * |vCurr| + part * |vCurr| := by
          gcongr
      _ = |vCurr| := by ring
  · have moving : vCurr ≠ 0 := by
      rintro rfl
      rw [zero_mul] at opposite
      exact absurd opposite (lt_irrefl _)
    have bound : (vCurr + part * (vCmd - vCurr)) * vCurr ≤ vCurr * vCurr := by
      nlinarith [mul_nonneg notNegative (mul_self_nonneg vCurr),
        mul_nonneg notNegative (neg_pos.mpr opposite).le]
    have magnitudes :
        |vCurr + part * (vCmd - vCurr)| * |vCurr| ≤ |vCurr| * |vCurr| := by
      rw [← abs_mul, ← abs_mul, abs_of_nonneg sameSign,
        abs_of_nonneg (mul_self_nonneg vCurr)]
      exact bound
    exact le_of_mul_le_mul_right magnitudes (abs_pos.mpr moving)

/-- A part of a change that accelerates does not pass through zero. -/
theorem part_mul_nonneg
    {part : K}
    (notNegative : 0 ≤ part)
    (isPart : part ≤ 1)
    (accelerates : Accelerates vCurr vCmd) :
    0 ≤ (vCurr + part * (vCmd - vCurr)) * vCurr := by
  have split : (vCurr + part * (vCmd - vCurr)) * vCurr =
      (1 - part) * (vCurr * vCurr) + part * (vCurr * vCmd) := by ring
  rw [split]
  exact add_nonneg
    (mul_nonneg (sub_nonneg.mpr isPart) (mul_self_nonneg vCurr))
    (mul_nonneg notNegative accelerates.2)

/-- The speed increases by the step of an acceleration at most, unless it passes
through zero: then both speeds together are within the step of a deceleration. -/
theorem applyConstraints_speed
    (frequencyPositive : 0 < smoothingFrequency)
    (accelPositive : 0 < accel)
    (decelNegative : decel < 0)
    (positive : 0 < eta)
    (le_one : eta ≤ 1) :
    (0 ≤ applyConstraints smoothingFrequency vCurr vCmd accel decel eta *
          vCurr →
        |applyConstraints smoothingFrequency vCurr vCmd accel decel eta| ≤
          |vCurr| + accel / smoothingFrequency) ∧
      (applyConstraints smoothingFrequency vCurr vCmd accel decel eta *
          vCurr < 0 →
        |applyConstraints smoothingFrequency vCurr vCmd accel decel eta| ≤
          -decel / smoothingFrequency - |vCurr|) := by
  obtain ⟨⟨part, notNegative, isPart, isResult⟩, within⟩ :=
    @applyConstraints_part K _ _ _ _ vCurr vCmd _ _ _ frequencyPositive
      accelPositive decelNegative positive le_one
  generalize applyConstraints smoothingFrequency vCurr vCmd accel decel eta = v
    at isResult within ⊢
  by_cases accelerates : Accelerates vCurr vCmd
  · have sameSign : 0 ≤ v * vCurr := by
      rw [isResult]
      exact part_mul_nonneg notNegative isPart accelerates
    rw [componentMax, if_pos accelerates] at within
    refine ⟨fun _ => ?_, fun opposite => absurd opposite (not_lt.mpr sameSign)⟩
    have triangle := abs_sub_abs_le_abs_sub v vCurr
    linarith
  · rw [componentMax, if_neg accelerates] at within
    constructor
    · intro sameSign
      have slower : |v| ≤ |vCurr| := by
        rw [isResult] at sameSign ⊢
        exact abs_part_le notNegative isPart accelerates sameSign
      have step := div_pos accelPositive frequencyPositive
      linarith
    · intro opposite
      have apart : |v - vCurr| = |v| + |vCurr| := by
        rcases mul_neg_iff.mp opposite with ⟨up, down⟩ | ⟨down, up⟩
        · rw [abs_of_pos up, abs_of_neg down, abs_of_pos (by linarith),
            sub_eq_add_neg]
        · rw [abs_of_neg down, abs_of_pos up, abs_of_neg (by linarith)]
          ring
      linarith

/-- A robot that is told to go back does so as fast as it may slow down. -/
theorem reversing_speed :
    let v := applyConstraints (1 : ℚ) (1 / 10) (-10) 1 (-5) 1
    (0 ≤ v * (1 / 10) → |v| ≤ |1 / 10| + 1 / 1) ∧
      (v * (1 / 10) < 0 → |v| ≤ -(-5) / 1 - |1 / 10|) :=
  applyConstraints_speed one_pos one_pos (by decide +kernel) one_pos le_rfl

/-- It speeds up from a tenth to almost five in one step then, though it should
not accelerate by more than one. -/
theorem reversing_tooFast :
    ¬ ∀ smoothingFrequency vCurr vCmd accel decel eta : ℚ,
      0 < smoothingFrequency → 0 < accel → decel < 0 → 0 < eta → eta ≤ 1 →
      let v := applyConstraints smoothingFrequency vCurr vCmd accel decel eta
      (0 ≤ v * vCurr → |v| ≤ |vCurr| + accel / smoothingFrequency) ∧
        (v * vCurr < 0 → |v| ≤ accel / smoothingFrequency) := by
  intro always
  have bound := (always 1 (1 / 10) (-10) 1 (-5) 1 (by decide +kernel)
    (by decide +kernel) (by decide +kernel) (by decide +kernel)
    (by decide +kernel)).2 (by decide +kernel)
  exact absurd bound (by decide +kernel)

end Speed

end VelocitySmoother

end NavBim
