import Mathlib
import NavBim.CostmapReplica

namespace NavBim

/-!
# A subscriber to the topics of a costmap

The publisher sends on two topics, and each topic keeps its last message for
subscribers that connect later.  Messages arrive in any order that keeps the
order of each topic.

The two topics keep too little for a subscriber that connects late, nothing
orders an update and a whole costmap, and rounding may change the origin of a
whole costmap that is sent.  In a run in which messages arrive as they were
sent, origins survive, and what a late subscriber was given makes up the costmap
of the last publish whenever only an update is due, the subscriber has the
costmap of the publisher.
-/

inductive RawTopic where
  | costmap
  | updates
  deriving DecidableEq

def RawMessage.topic {K F : Type} : RawMessage K F → RawTopic
  | .costmap _ => .costmap
  | .update _ => .updates

/-- A publisher and the last subscriber that connected.  The messages that were
not yet delivered to it, and those that the topics keep, are in the order in
which they were sent. -/
structure CostmapTopics (K F : Type) where
  publisher : Costmap2DPublisher K F
  latched : List (RawMessage K F)
  inFlight : List (RawMessage K F)
  subscriber : Option (CostmapSubscriber K F)
  /-- The costmap at the last publish. -/
  previous : Option (Costmap2D K)
  /-- The costmap at the last publish since the subscriber connected. -/
  published : Option (Costmap2D K)

inductive CostmapEvent (K : Type) where
  | change (costmap : Costmap2D K)
  | updateBounds (bounds : CellBounds)
  | publish (isEnabled otherSubscribers otherUpdateSubscribers : Bool)
  | connect
  | deliver (topic : RawTopic)
  | getCostmap

namespace CostmapTopics

variable
  {K F : Type}
  [Field K]
  [DecidableEq K]
  [DecidableEq F]

/-- A publisher without subscribers so far. -/
def initial
    (publisher : Costmap2DPublisher K F) : CostmapTopics K F where
  publisher
  latched := []
  inFlight := []
  subscriber := none
  previous := none
  published := none

/-- Send a message to the subscriber, and keep it as the last of its topic. -/
def send
    (topics : CostmapTopics K F)
    (message : RawMessage K F) : CostmapTopics K F :=
  { topics with
    latched :=
      topics.latched.filter (·.topic ≠ message.topic) ++ [message]
    inFlight :=
      if topics.subscriber.isSome then
        topics.inFlight ++ [message]
      else
        topics.inFlight }

def publish
    (floats : FloatConversion K F)
    (topics : CostmapTopics K F)
    (isEnabled otherSubscribers otherUpdateSubscribers : Bool) :
    CostmapTopics K F :=
  let (publisher, message) := topics.publisher.publishCostmap floats isEnabled
    (topics.subscriber.isSome || otherSubscribers)
    (topics.subscriber.isSome || otherUpdateSubscribers)
  let ran :=
    { topics with
      publisher
      previous := some topics.publisher.costmap
      published := some topics.publisher.costmap }
  message.elim ran ran.send

/-- The subscriber gets the first message in flight on a topic. -/
def deliver
    (floats : FloatConversion K F)
    (topics : CostmapTopics K F)
    (topic : RawTopic) : Option (CostmapTopics K F) := do
  let subscriber ← topics.subscriber
  let message ← topics.inFlight.find? (·.topic = topic)
  some
    { topics with
      inFlight := topics.inFlight.eraseP (·.topic = topic)
      subscriber := some (subscriber.receive floats message) }

/-- What an event makes of the system, if it can happen. -/
def step
    (floats : FloatConversion K F)
    (topics : CostmapTopics K F) :
    CostmapEvent K → Option (CostmapTopics K F)
  | .change costmap =>
      some { topics with publisher := { topics.publisher with costmap } }
  | .updateBounds bounds =>
      some { topics with publisher := topics.publisher.updateBounds bounds }
  | .publish isEnabled otherSubscribers otherUpdateSubscribers =>
      some (topics.publish floats isEnabled otherSubscribers
        otherUpdateSubscribers)
  | .connect =>
      some
        { topics with
          inFlight := topics.latched
          subscriber := some .initial
          published := none }
  | .deliver topic => topics.deliver floats topic
  | .getCostmap =>
      some
        { topics with
          subscriber := topics.subscriber.map (·.getCostmap floats |>.2) }

/-- With all messages delivered, the subscriber has the costmap of the last
publish since it connected. -/
def Mirrored
    (floats : FloatConversion K F)
    (topics : CostmapTopics K F) : Prop :=
  topics.inFlight = [] →
    ∀ costmap ∈ topics.published, ∀ subscriber ∈ topics.subscriber,
      (subscriber.getCostmap floats).1 = some costmap

/-- Changed cells are within the bounds when the costmap is published, and the
resolution is a number of the smaller type. -/
def Reported
    (floats : FloatConversion K F)
    (topics : CostmapTopics K F) : CostmapEvent K → Prop
  | .change costmap => Costmap2DPublisher.Representable floats costmap
  | .publish _ _ _ =>
      (∀ costmap ∈ topics.previous, topics.publisher.Covers costmap) ∧
        (topics.publisher.sendsCostmap floats = false →
          topics.publisher.Inside)
  | _ => True

/-- The messages delivered and in flight make up a costmap. -/
def MakesUp
    (floats : FloatConversion K F)
    (topics : CostmapTopics K F)
    (costmap : Option (Costmap2D K)) : Prop :=
  ∀ subscriber ∈ topics.subscriber,
    topics.inFlight.foldl (CostmapSubscriber.apply floats)
      (subscriber.current floats) = costmap

/-- A publish is not disabled, a whole costmap is sent with its origin, an update
is for the costmap that the subscriber has or will have, and messages arrive in
the order in which they were sent. -/
def KeepsUp
    (floats : FloatConversion K F)
    (topics : CostmapTopics K F) : CostmapEvent K → Prop
  | .publish isEnabled _ _ =>
      isEnabled = true ∧
        (topics.subscriber.isSome →
          topics.publisher.sendsCostmap floats = true →
            Costmap2DPublisher.KeepsOrigin floats topics.publisher.costmap) ∧
        (topics.publisher.sendsCostmap floats = false →
          topics.published = none → topics.subscriber.isSome →
            topics.previous.isSome ∧ topics.MakesUp floats topics.previous)
  | .deliver topic => topics.inFlight.head?.map (·.topic) = some topic
  | _ => True

section Tests

variable
  (floats : FloatConversion K F)
  (topics : CostmapTopics K F)

instance decidableMirrored :
    Decidable (Mirrored floats topics) :=
  have : Decidable (topics.inFlight = []) := List.instDecidableEqNil _
  inferInstanceAs (Decidable (_ → _))

instance decidableMakesUp
    (costmap : Option (Costmap2D K)) :
    Decidable (MakesUp floats topics costmap) :=
  inferInstanceAs (Decidable (∀ _ ∈ topics.subscriber, _ = _))

instance decidableReported :
    ∀ event, Decidable (Reported floats topics event)
  | .change _ => inferInstanceAs (Decidable (_ = _))
  | .publish _ _ _ => inferInstanceAs (Decidable (_ ∧ (_ → _)))
  | .updateBounds _ | .connect | .deliver _ | .getCostmap => isTrue trivial

instance decidableKeepsUp :
    ∀ event, Decidable (KeepsUp floats topics event)
  | .publish _ _ _ =>
      have : Decidable (topics.published = none) :=
        inferInstanceAs (Decidable (_ = none))
      inferInstanceAs (Decidable (_ ∧ (_ → _ → _) ∧ (_ → _ → _ → _)))
  | .deliver _ => inferInstanceAs (Decidable (_ = _))
  | .change _ | .updateBounds _ | .connect | .getCostmap => isTrue trivial

end Tests

section Run

open Costmap2DPublisher CostmapSubscriber

variable
  {floats : FloatConversion K F}
  {topics : CostmapTopics K F}

/-- The saved parameters are those of the last publish, and what the subscriber
was sent since it connected makes up the costmap of that publish. -/
structure Consistent
    (floats : FloatConversion K F)
    (topics : CostmapTopics K F) : Prop where
  representable : Representable floats topics.publisher.costmap
  saved :
    ∀ costmap ∈ topics.previous,
      Representable floats costmap ∧
        topics.publisher.saved = gridParams floats costmap
  upToDate :
    topics.published.isSome →
      topics.published = topics.previous ∧
        topics.MakesUp floats topics.published
  idle : topics.subscriber = none → topics.inFlight = []

section

omit [Field K] [DecidableEq F]

theorem Consistent.mirrored
    (consistent : Consistent floats topics) :
    Mirrored floats topics := by
  intro delivered costmap isPublished subscriber isSubscriber
  obtain ⟨-, makesUp⟩ := consistent.upToDate (by rw [isPublished]; rfl)
  have received := makesUp subscriber isSubscriber
  rw [delivered, List.foldl_nil, isPublished] at received
  rw [getCostmap_eq.1, received]

theorem makesUp_send
    {message : Option (RawMessage K F)}
    {after : Option (Costmap2D K)}
    (before : Option (Costmap2D K))
    (makesUp : topics.MakesUp floats before)
    (applied : message.elim before (CostmapSubscriber.apply floats before) =
      after) :
    (message.elim topics topics.send).MakesUp floats after := by
  cases message with
  | none =>
      obtain rfl : before = after := applied
      exact makesUp
  | some message =>
      intro subscriber connected
      have sent : (topics.send message).inFlight =
          topics.inFlight ++ [message] := by
        rw [send, show topics.subscriber = some subscriber from connected]
        rfl
      rw [Option.elim_some, sent, List.foldl_append,
        makesUp subscriber connected]
      exact applied

end

/-- What a publish leaves besides the message. -/
structure Ran
    (floats : FloatConversion K F)
    (before after : CostmapTopics K F) : Prop where
  costmap : after.publisher.costmap = before.publisher.costmap
  saved : after.publisher.saved = gridParams floats before.publisher.costmap
  subscriber : after.subscriber = before.subscriber
  inFlight : before.subscriber = none → after.inFlight = before.inFlight
  previous : after.previous = some before.publisher.costmap
  published : after.published = some before.publisher.costmap

theorem ran_publish
    (otherSubscribers otherUpdateSubscribers : Bool) :
    Ran floats topics (topics.publish floats true otherSubscribers
      otherUpdateSubscribers) := by
  have kept : _ ∧ (topics.publisher.publishCostmap floats _ _ _).1.saved = _ :=
    publishCostmap_saved (topics.subscriber.isSome || otherSubscribers)
      (topics.subscriber.isSome || otherUpdateSubscribers)
  rw [CostmapTopics.publish]
  generalize topics.publisher.publishCostmap floats true
    (topics.subscriber.isSome || otherSubscribers)
    (topics.subscriber.isSome || otherUpdateSubscribers) = sent at kept ⊢
  obtain ⟨costmap, saved⟩ := kept
  obtain ⟨publisher, message⟩ := sent
  cases message with
  | none =>
      exact ⟨costmap, saved, rfl, fun _ => rfl, rfl, rfl⟩
  | some message =>
      refine ⟨costmap, saved, rfl, fun alone => ?_, rfl, rfl⟩
      show (if topics.subscriber.isSome then _ else topics.inFlight) = _
      rw [alone]
      rfl

theorem Consistent.beforeUpdate
    {isEnabled otherSubscribers otherUpdateSubscribers : Bool}
    (consistent : Consistent floats topics)
    (keepsUp : KeepsUp floats topics
      (.publish isEnabled otherSubscribers otherUpdateSubscribers))
    (connected : topics.subscriber.isSome)
    (sendsUpdate : topics.publisher.sendsCostmap floats = false) :
    ∃ before ∈ topics.previous, topics.MakesUp floats (some before) := by
  have makesUp : topics.previous.isSome ∧
      topics.MakesUp floats topics.previous := by
    cases published : topics.published with
    | none =>
        exact keepsUp.2.2 sendsUpdate published connected
    | some costmap =>
        obtain ⟨same, makesUp⟩ :=
          consistent.upToDate (by rw [published]; rfl)
        rw [← same]
        exact ⟨by rw [published]; rfl, makesUp⟩
  obtain ⟨before, held⟩ := Option.isSome_iff_exists.mp makesUp.1
  exact ⟨before, held, held ▸ makesUp.2⟩

section

variable
  {otherSubscribers otherUpdateSubscribers : Bool}
  (consistent : Consistent floats topics)
  (reported : Reported floats topics
    (.publish true otherSubscribers otherUpdateSubscribers))
  (keepsUp : KeepsUp floats topics
    (.publish true otherSubscribers otherUpdateSubscribers))

include consistent reported keepsUp

theorem Consistent.makesUp_publish
    {subscriber : CostmapSubscriber K F}
    (connected : topics.subscriber = some subscriber) :
    (topics.publish floats true otherSubscribers
      otherUpdateSubscribers).MakesUp floats
        (some topics.publisher.costmap) := by
  have hasSubscriber : topics.subscriber.isSome = true := by
    rw [connected]
    rfl
  rw [CostmapTopics.publish, hasSubscriber]
  refine makesUp_send (topics.inFlight.foldl
    (CostmapSubscriber.apply floats) (subscriber.current floats)) ?_ ?_
  · intro other isOther
    obtain rfl : subscriber = other :=
      Option.some.inj (connected.symm.trans isOther)
    rfl
  · refine publishCostmap_applied consistent.representable
      (keepsUp.2.1 hasSubscriber) ?_
    intro sendsUpdate
    obtain ⟨before, held, makesUp⟩ :=
      consistent.beforeUpdate keepsUp hasSubscriber sendsUpdate
    obtain ⟨representable, saved⟩ := consistent.saved before held
    obtain ⟨-, unchanged⟩ := Bool.or_eq_false_iff.mp sendsUpdate
    have same : gridParams floats before =
        gridParams floats topics.publisher.costmap :=
      saved.symm.trans (not_not.mp (of_decide_eq_false unchanged))
    exact ⟨before, makesUp subscriber connected,
      toGrid_of_gridParams representable consistent.representable same,
      reported.1 before held, reported.2 sendsUpdate⟩

theorem Consistent.publish :
    Consistent floats (topics.publish floats true otherSubscribers
      otherUpdateSubscribers) := by
  have ran : Ran floats topics _ :=
    ran_publish otherSubscribers otherUpdateSubscribers
  refine ⟨?_, ?_, fun _ => ⟨ran.published.trans ran.previous.symm, ?_⟩,
    fun alone => ?_⟩
  · rw [ran.costmap]
    exact consistent.representable
  · intro costmap isPrevious
    obtain rfl : topics.publisher.costmap = costmap :=
      Option.some.inj (ran.previous.symm.trans isPrevious)
    exact ⟨consistent.representable, ran.saved⟩
  · rw [ran.published]
    cases connected : topics.subscriber with
    | some subscriber =>
        exact consistent.makesUp_publish reported keepsUp connected
    | none =>
        intro subscriber isSubscriber
        exact nomatch (ran.subscriber.trans connected).symm.trans isSubscriber
  · have before := ran.subscriber.symm.trans alone
    exact (ran.inFlight before).trans (consistent.idle before)

end

omit [Field K] [DecidableEq F] in
/-- The next message was made up already. -/
theorem Consistent.deliver
    {topic : RawTopic}
    (consistent : Consistent floats topics)
    (next : topics.inFlight.head?.map (·.topic) = some topic) :
    ∃ delivered ∈ topics.deliver floats topic,
      Consistent floats delivered := by
  obtain ⟨message, first, rfl⟩ := Option.map_eq_some_iff.mp next
  obtain ⟨rest, inFlight⟩ := List.head?_eq_some_iff.mp first
  cases connected : topics.subscriber with
  | none =>
      have delivered := consistent.idle connected
      rw [inFlight] at delivered
      exact nomatch delivered
  | some subscriber =>
      have received : topics.deliver floats message.topic =
          some { topics with
            inFlight := rest
            subscriber := some (subscriber.receive floats message) } := by
        simp only [CostmapTopics.deliver, connected, inFlight,
          Option.bind_eq_bind, Option.bind_some, List.find?_cons,
          List.eraseP_cons, decide_true]
        rfl
      refine ⟨_, received, ?_⟩
      refine
        { consistent with
          upToDate := fun published => ?_
          idle := fun alone => nomatch alone }
      obtain ⟨same, makesUp⟩ := consistent.upToDate published
      refine ⟨same, fun other isOther => ?_⟩
      obtain rfl := Option.some.inj isOther
      have before := makesUp subscriber connected
      rw [inFlight, List.foldl_cons] at before
      rw [current_receive]
      exact before

/-- What keeps up leaves the system consistent. -/
theorem Consistent.step
    (consistent : Consistent floats topics)
    (event : CostmapEvent K)
    (reported : Reported floats topics event)
    (keepsUp : KeepsUp floats topics event) :
    ∃ next ∈ step floats topics event, Consistent floats next := by
  cases event with
  | change costmap =>
      refine ⟨_, rfl, ?_⟩
      exact { consistent with representable := reported }
  | updateBounds bounds =>
      refine ⟨_, rfl, ?_⟩
      exact { consistent with }
  | publish isEnabled otherSubscribers otherUpdateSubscribers =>
      obtain ⟨rfl, -⟩ := id keepsUp
      exact ⟨_, rfl, consistent.publish reported keepsUp⟩
  | connect =>
      refine ⟨_, rfl, ?_⟩
      exact
        { consistent with
          upToDate := fun published => nomatch published
          idle := fun alone => nomatch alone }
  | deliver topic =>
      exact consistent.deliver keepsUp
  | getCostmap =>
      refine ⟨_, rfl, ?_⟩
      refine
        { consistent with
          upToDate := fun published => ?_
          idle := fun alone =>
            consistent.idle (Option.map_eq_none_iff.mp alone) }
      obtain ⟨same, makesUp⟩ := consistent.upToDate published
      refine ⟨same, fun subscriber isSubscriber => ?_⟩
      obtain ⟨before, connected, rfl⟩ := Option.map_eq_some_iff.mp isSubscriber
      rw [getCostmap_eq.2]
      exact makesUp before connected

/-- In a run that keeps up, a subscriber with all messages has the costmap of
the last publish. -/
theorem mirrored_of_keepsUp
    (publisher : Costmap2DPublisher K F)
    (representable : Representable floats publisher.costmap)
    (events : List (CostmapEvent K))
    (conforms : EventRun.Conforms (CostmapTopics.step floats)
      (fun topics event =>
        Reported floats topics event ∧ KeepsUp floats topics event)
      (initial publisher) events) :
    EventRun.Stays (CostmapTopics.step floats) (Mirrored floats)
      (initial publisher) events := by
  have starts : Consistent floats (initial publisher) :=
    { representable
      saved := fun _ isPrevious => nomatch isPrevious
      upToDate := fun published => nomatch published
      idle := fun _ => rfl }
  have stays := EventRun.stays_of_conforms
    (fun _ event consistent meets =>
      Consistent.step consistent event meets.1 meets.2)
    starts conforms
  exact stays.weaken fun _ consistent => consistent.mirrored

end Run

section Samples

/-- Numbers without a loss of precision. -/
def exactFloats : FloatConversion ℚ ℚ where
  toFloat := id
  toDouble := id
  round := id

/-- Two cells in a row. -/
def twoCells
    (left right : UInt8) : Costmap2D ℚ where
  sizeX := 2
  sizeY := 1
  resolution := 1
  originX := 0
  originY := 0
  costmap := #[left, right]
  size_costmap := rfl

def twoCellPublisher : Costmap2DPublisher ℚ ℚ where
  costmap := twoCells 0 0
  alwaysSendFullCostmap := false
  saved :=
    { gridResolution := 0
      gridWidth := 0
      gridHeight := 0
      savedOriginX := 0
      savedOriginY := 0 }
  x0 := 2
  xn := 0
  y0 := 1
  yn := 0

/-- The bounds of one cell. -/
def cellBounds
    (x : Nat) : CellBounds where
  x0 := x
  xn := x + 1
  y0 := 0
  yn := 1
  x0_le := Nat.le_succ x
  y0_le := Nat.le_succ 0

/-- Both cells change one after the other while there is another subscriber. -/
def twoChanges : List (CostmapEvent ℚ) :=
  [.publish true true true, .change (twoCells 1 0),
    .updateBounds (cellBounds 0), .publish true true true,
    .change (twoCells 1 1), .updateBounds (cellBounds 1),
    .publish true true true]

theorem mirrored_sample :
    EventRun.Stays (CostmapTopics.step exactFloats) (Mirrored exactFloats)
      (initial twoCellPublisher)
      (.connect :: twoChanges ++
        [.deliver .costmap, .deliver .updates, .deliver .updates]) := by
  apply mirrored_of_keepsUp
  · rfl
  · decide +kernel

/-- A subscriber that connects after the changes is given the first costmap and
the last update only, and it lacks the first change. -/
theorem lateSubscriber_not_mirrored :
    EventRun.Conforms (CostmapTopics.step exactFloats) (Reported exactFloats)
        (initial twoCellPublisher)
        (twoChanges ++ [.connect, .publish true true true,
          .deliver .costmap, .deliver .updates]) ∧
      ¬EventRun.Stays (CostmapTopics.step exactFloats)
        (Mirrored exactFloats) (initial twoCellPublisher)
        (twoChanges ++ [.connect, .publish true true true,
          .deliver .costmap, .deliver .updates]) := by
  refine ⟨by decide +kernel, fun stays => ?_⟩
  have lacks : ∃ last ∈ EventRun.runEvents (CostmapTopics.step exactFloats)
      (initial twoCellPublisher)
      (twoChanges ++ [.connect, .publish true true true,
        .deliver .costmap, .deliver .updates]),
      ¬Mirrored exactFloats last := by
    decide +kernel
  obtain ⟨last, reached, isMissing⟩ := lacks
  obtain ⟨other, reachedOther, mirrored⟩ := stays.reaches
  obtain rfl : last = other :=
    Option.some.inj (reached.symm.trans reachedOther)
  exact isMissing mirrored

end Samples

end CostmapTopics

end NavBim
