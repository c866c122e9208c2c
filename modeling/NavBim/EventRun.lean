import Mathlib.Data.List.Basic

namespace NavBim

/-!
# Runs of a partial step function

A system takes one event after the other.  A step without a result stands for
a step whose outcome is not defined, and the run ends there.

The rules here are about conditions on the steps of a run.  A condition sees
the event and the state in which it arrives.
-/

namespace EventRun

variable {State Event : Type*}

/-- The state after a list of events, if every step has a result. -/
def runEvents
    (step : State → Event → Option State) :
    State → List Event → Option State
  | state, [] => some state
  | state, event :: rest => (step state event).bind (runEvents step · rest)

/-- As far as the run goes, each event meets the condition when it arrives. -/
def Conforms
    (step : State → Event → Option State)
    (condition : State → Event → Prop) :
    State → List Event → Prop
  | _, [] => True
  | state, event :: rest =>
      condition state event ∧
        ∀ next ∈ step state event, Conforms step condition next rest

/-- Every step has a result, and every state of the run is good. -/
def Stays
    (step : State → Event → Option State)
    (good : State → Prop) :
    State → List Event → Prop
  | state, [] => good state
  | state, event :: rest =>
      good state ∧ ∃ next ∈ step state event, Stays step good next rest

variable
  {step : State → Event → Option State}
  {condition : State → Event → Prop}
  {good : State → Prop}

/-- A condition that can be tested can be tested along a run. -/
instance decidableConforms
    [tests : ∀ state event, Decidable (condition state event)] :
    ∀ state events, Decidable (Conforms step condition state events)
  | _, [] => isTrue trivial
  | state, event :: rest =>
      have : DecidablePred (Conforms step condition · rest) :=
        fun next => decidableConforms next rest
      inferInstanceAs (Decidable (condition state event ∧
        ∀ next ∈ step state event, Conforms step condition next rest))

variable
  {state : State}
  {events : List Event}

theorem Stays.reaches
    (stays : Stays step good state events) :
    ∃ last, runEvents step state events = some last ∧ good last := by
  induction events generalizing state with
  | nil =>
      exact ⟨state, rfl, stays⟩
  | cons event rest inductionHypothesis =>
      obtain ⟨-, next, stepped, later⟩ := stays
      obtain ⟨last, reached, isGood⟩ := inductionHypothesis later
      refine ⟨last, ?_, isGood⟩
      rw [runEvents, stepped, Option.bind_some, reached]

theorem conforms_of_always
    (always : ∀ state event, condition state event)
    {events : List Event} :
    Conforms step condition state events := by
  induction events generalizing state with
  | nil =>
      trivial
  | cons event rest inductionHypothesis =>
      exact ⟨always state event, fun _ _ => inductionHypothesis⟩

theorem Stays.weaken
    {other : State → Prop}
    (weaker : ∀ state, good state → other state)
    (stays : Stays step good state events) :
    Stays step other state events := by
  induction events generalizing state with
  | nil =>
      exact weaker state stays
  | cons event rest inductionHypothesis =>
      obtain ⟨isGood, next, stepped, later⟩ := stays
      exact ⟨weaker state isGood, next, stepped, inductionHypothesis later⟩

variable
  {invariant : State → Prop}

theorem stays_of_conforms
    (keeps : ∀ state event, invariant state → condition state event →
      ∃ next ∈ step state event, invariant next)
    {state : State}
    {events : List Event}
    (starts : invariant state)
    (conforms : Conforms step condition state events) :
    Stays step invariant state events := by
  induction events generalizing state with
  | nil =>
      exact starts
  | cons event rest inductionHypothesis =>
      obtain ⟨meets, later⟩ := conforms
      obtain ⟨next, stepped, kept⟩ := keeps state event starts meets
      exact
        ⟨starts, next, stepped, inductionHypothesis kept (later next stepped)⟩

theorem Conforms.and
    {other : State → Event → Prop}
    (conforms : Conforms step condition state events)
    (conformsOther : Conforms step other state events) :
    Conforms step (fun state event => condition state event ∧
      other state event) state events := by
  induction events generalizing state with
  | nil =>
      trivial
  | cons event rest inductionHypothesis =>
      exact ⟨⟨conforms.1, conformsOther.1⟩, fun next stepped =>
        inductionHypothesis (conforms.2 next stepped)
          (conformsOther.2 next stepped)⟩

/-- In runs of admissible events the condition is exact when a step against it
leaves the good states. -/
theorem stays_iff_conforms_of_admissible
    {admissible : State → Event → Prop}
    (isGood : ∀ state, invariant state → good state)
    (keeps : ∀ state event, invariant state → admissible state event →
      condition state event → ∃ next ∈ step state event, invariant next)
    (breaks : ∀ state event, invariant state → admissible state event →
      ¬condition state event → ∀ next ∈ step state event, ¬good next)
    {state : State}
    (starts : invariant state)
    (events : List Event)
    (admitted : Conforms step admissible state events) :
    Stays step good state events ↔ Conforms step condition state events := by
  constructor
  · intro stays
    induction events generalizing state with
    | nil =>
        trivial
    | cons event rest inductionHypothesis =>
        obtain ⟨-, next, stepped, later⟩ := stays
        have nextGood : good next := by
          cases rest with
          | nil =>
              exact later
          | cons =>
              exact later.1
        have meets : condition state event := by
          by_contra fails
          exact breaks state event starts admitted.1 fails next stepped
            nextGood
        obtain ⟨other, otherStep, kept⟩ :=
          keeps state event starts admitted.1 meets
        obtain rfl : next = other :=
          Option.some.inj (stepped.symm.trans otherStep)
        refine ⟨meets, fun reached reachedStep => ?_⟩
        obtain rfl : next = reached :=
          Option.some.inj (stepped.symm.trans reachedStep)
        exact inductionHypothesis kept (admitted.2 next stepped) later
  · intro conforms
    have kept := stays_of_conforms
      (fun state event holds meets =>
        keeps state event holds meets.1 meets.2)
      starts (admitted.and conforms)
    exact kept.weaken isGood

/-- The condition is exact when a step against it leaves the good states. -/
theorem stays_iff_conforms
    (isGood : ∀ state, invariant state → good state)
    (keeps : ∀ state event, invariant state → condition state event →
      ∃ next ∈ step state event, invariant next)
    (breaks : ∀ state event, invariant state → ¬condition state event →
      ∀ next ∈ step state event, ¬good next)
    {state : State}
    (starts : invariant state)
    (events : List Event) :
    Stays step good state events ↔ Conforms step condition state events := by
  apply stays_iff_conforms_of_admissible isGood _ _ starts events
    (conforms_of_always fun _ _ => trivial)
  · intro state event holds _
    exact keeps state event holds
  · intro state event holds _
    exact breaks state event holds

end EventRun

end NavBim
