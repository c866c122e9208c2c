import Mathlib.Data.List.Basic
import Mathlib.Data.Rat.Defs
import Mathlib.Tactic
import NavBim.TopologicalGraph

namespace NavBim

/-!
# The room tracker and its requests in flight

On each timer tick the tracker samples the robot's position and asks the
topomap server for the room there.  It does not wait for the response: a
callback takes it whenever it arrives, and publishes the room if it is not the
one that was published last.  Several requests can be in flight, and their
responses can arrive in any order.

The node is active throughout.
-/

/-- A response of `get_room_by_coordinates`, with the fields of the floor and
of the room that the tracker reads. -/
structure RoomResponse where
  success : Bool
  message : String
  floorName : String
  roomId : String
  roomName : String
  deriving DecidableEq, Repr

/-- The message `CurrentRoom`. -/
structure CurrentRoom where
  stamp : ℚ
  frameId : String
  floorName : String
  roomId : String
  roomName : String
  robotPosition : Position ℚ
  deriving DecidableEq, Repr

structure RoomTracker where
  globalFrame : String
  serviceAvailable : Bool
  lastKnownRoom : String
  lastPublishTime : ℚ
  deriving DecidableEq, Repr

/-- The readings of the clock in one callback: for the header, for the
heartbeat, and for the time of publishing. -/
structure ClockReadings where
  stamp : ℚ
  checked : ℚ
  noted : ℚ
  deriving DecidableEq, Repr

/-- The floor, the id and the name by which a room is told. -/
abbrev RoomTriple := String × String × String

namespace RoomResponse

/-- The room that a response reports, all texts empty when there is none. -/
def room (response : RoomResponse) : RoomTriple :=
  if response.success then
    (response.floorName, response.roomId, response.roomName)
  else
    ("", "", "")

/-- The text by which the tracker tells rooms apart. -/
def currentRoomId (response : RoomResponse) : String :=
  response.floorName ++ "/" ++ response.roomId

theorem currentRoomId_ne_empty (response : RoomResponse) :
    response.currentRoomId ≠ "" := by
  intro empty
  have length := congrArg String.length empty
  simp only [currentRoomId, String.length_append] at length
  have slash : "/".length = 1 := rfl
  have none : "".length = 0 := rfl
  omega

end RoomResponse

def CurrentRoom.room (message : CurrentRoom) : RoomTriple :=
  (message.floorName, message.roomId, message.roomName)

variable
  (tracker : RoomTracker)
  {response : RoomResponse}

namespace RoomTracker

/-- Seconds. -/
def heartbeatInterval : ℚ := 30

/-- A tick of the timer: the tracker as it goes on, and the position it asks
for.  There is no request without the robot's position or without a service. -/
def updateCurrentRoom
    (robotPose : Option (Position ℚ))
    (serviceReady : Bool) : RoomTracker × Option (Position ℚ) :=
  match robotPose with
  | none => (tracker, none)
  | some position =>
      if tracker.serviceAvailable then
        (tracker, some position)
      else if serviceReady then
        ({ tracker with serviceAvailable := true }, some position)
      else
        (tracker, none)

variable
  (snapshot : Position ℚ)
  (clock : ClockReadings)

/-- The callback of a response, with the position its request was made for. -/
def onResponse
    (response : RoomResponse) : RoomTracker × Option CurrentRoom :=
  if response.success then
    let roomChanged := tracker.lastKnownRoom != response.currentRoomId
    let heartbeatNeeded :=
      decide (clock.checked - tracker.lastPublishTime > heartbeatInterval)
    if roomChanged || heartbeatNeeded || tracker.lastKnownRoom.isEmpty then
      ({ tracker with
          lastKnownRoom := response.currentRoomId
          lastPublishTime := clock.noted },
        some
          { stamp := clock.stamp
            frameId := tracker.globalFrame
            floorName := response.floorName
            roomId := response.roomId
            roomName := response.roomName
            robotPosition := snapshot })
    else
      (tracker, none)
  else
    ({ tracker with lastKnownRoom := "" },
      some
        { stamp := clock.stamp
          frameId := tracker.globalFrame
          floorName := ""
          roomId := ""
          roomName := ""
          robotPosition := snapshot })

theorem onResponse_of_failed
    (failed : response.success = false) :
    (tracker.onResponse snapshot clock response).1.lastKnownRoom = "" ∧
      ∃ message : CurrentRoom,
        (tracker.onResponse snapshot clock response).2 = some message ∧
          message.room = response.room := by
  simp only [onResponse, failed, Bool.false_eq_true, if_false,
    RoomResponse.room]
  exact ⟨trivial, _, rfl, rfl⟩

/-- A response with a room makes it the known one, and is published unless
the room was the known one already. -/
theorem onResponse_of_success
    (found : response.success = true) :
    (tracker.onResponse snapshot clock response).1.lastKnownRoom =
        response.currentRoomId ∧
      ((∃ message : CurrentRoom,
          (tracker.onResponse snapshot clock response).2 = some message ∧
            message.room = response.room) ∨
        ((tracker.onResponse snapshot clock response).2 = none ∧
          tracker.lastKnownRoom = response.currentRoomId)) := by
  simp only [onResponse, found, if_true, RoomResponse.room]
  split
  · exact ⟨rfl, .inl ⟨_, rfl, rfl⟩⟩
  · case isFalse unchanged =>
    simp only [Bool.or_eq_true, not_or, bne_iff_ne, ne_eq,
      Decidable.not_not] at unchanged
    exact ⟨unchanged.1.1, .inr ⟨rfl, unchanged.1.1⟩⟩

end RoomTracker

/-!
## The tracker with its requests

A request is known by its place in the order of sending.
-/

/-- The tracker, the positions it has asked for, the responses in the order of
their arrival, each with its request, and the published messages. -/
structure TrackerSystem where
  tracker : RoomTracker
  sent : List (Position ℚ)
  arrived : List (Nat × RoomResponse)
  published : List CurrentRoom
  deriving DecidableEq, Repr

namespace TrackerSystem

/-- The node after it has been activated. -/
def activated
    (globalFrame : String)
    (serviceAvailable : Bool)
    (now : ℚ) : TrackerSystem where
  tracker :=
    { globalFrame
      serviceAvailable
      lastKnownRoom := ""
      lastPublishTime := now }
  sent := []
  arrived := []
  published := []

def sampled
    (system : TrackerSystem)
    (robotPose : Option (Position ℚ))
    (serviceReady : Bool) : TrackerSystem :=
  let (tracker, request) :=
    system.tracker.updateCurrentRoom robotPose serviceReady
  { system with
    tracker
    sent := system.sent ++ request.toList }

def answered
    (system : TrackerSystem)
    (request : Nat)
    (snapshot : Position ℚ)
    (clock : ClockReadings)
    (response : RoomResponse) : TrackerSystem :=
  let (tracker, message) :=
    system.tracker.onResponse snapshot clock response
  { system with
    tracker
    arrived := system.arrived ++ [(request, response)]
    published := system.published ++ message.toList }

/-- The request has been sent and its response has not arrived. -/
def InFlight
    (system : TrackerSystem)
    (request : Nat)
    (snapshot : Position ℚ) : Prop :=
  system.sent[request]? = some snapshot ∧
    request ∉ system.arrived.map Prod.fst

/-- The states that the node reaches, whatever it samples and in whatever
order the responses arrive. -/
inductive Reached (globalFrame : String) : TrackerSystem → Prop where
  | activated (serviceAvailable : Bool) (now : ℚ) :
      Reached globalFrame (activated globalFrame serviceAvailable now)
  | sampled
      {system : TrackerSystem}
      (before : Reached globalFrame system)
      (robotPose : Option (Position ℚ))
      (serviceReady : Bool) :
      Reached globalFrame (system.sampled robotPose serviceReady)
  | answered
      {system : TrackerSystem}
      {request : Nat}
      {snapshot : Position ℚ}
      (before : Reached globalFrame system)
      (inFlight : system.InFlight request snapshot)
      (clock : ClockReadings)
      (response : RoomResponse) :
      Reached globalFrame (system.answered request snapshot clock response)

/-- Every request that was sent has its answer. -/
def AllArrived (system : TrackerSystem) : Prop :=
  ∀ request : Nat, request < system.sent.length →
    request ∈ system.arrived.map Prod.fst

/-- The last message tells the room that the latest request was answered
with. -/
def ShowsLatest (system : TrackerSystem) : Prop :=
  ∀ (request : Nat) (response : RoomResponse),
    request + 1 = system.sent.length →
    (request, response) ∈ system.arrived →
      system.published.getLast?.map CurrentRoom.room = some response.room

/-- The last response to arrive reports the same room as the response to the
latest request. -/
def LatestArrivesLast (system : TrackerSystem) : Prop :=
  ∀ (request : Nat) (response : RoomResponse),
    request + 1 = system.sent.length →
    (request, response) ∈ system.arrived →
      system.arrived.getLast?.map (fun arrival => arrival.2.room) =
        some response.room

/-- The text by which the tracker tells rooms apart does tell them apart among
the responses so far. -/
def IdsTellRooms (system : TrackerSystem) : Prop :=
  ∀ first ∈ system.arrived, ∀ second ∈ system.arrived,
    first.2.success = true → second.2.success = true →
    first.2.currentRoomId = second.2.currentRoomId →
      first.2.room = second.2.room

/-- The text of the room that the last response has reported. -/
def lastReported (system : TrackerSystem) : String :=
  match system.arrived.getLast? with
  | none => ""
  | some (_, response) =>
      if response.success then response.currentRoomId else ""

/-- The tracker knows the room of the last response, and the last message
tells a room of the same text. -/
structure Follows (system : TrackerSystem) : Prop where
  known : system.tracker.lastKnownRoom = system.lastReported
  shown :
    ∀ last : Nat × RoomResponse, system.arrived.getLast? = some last →
      ∃ message : CurrentRoom, system.published.getLast? = some message ∧
        ∃ origin ∈ system.arrived,
          origin.2.success = last.2.success ∧
          (origin.2.success = true →
            origin.2.currentRoomId = last.2.currentRoomId) ∧
          message.room = origin.2.room

theorem follows_activated
    (globalFrame : String)
    (serviceAvailable : Bool)
    (now : ℚ) :
    (activated globalFrame serviceAvailable now).Follows where
  known := rfl
  shown last reached := by
    cases reached

theorem updateCurrentRoom_lastKnownRoom
    (robotPose : Option (Position ℚ))
    (serviceReady : Bool) :
    (tracker.updateCurrentRoom robotPose serviceReady).1.lastKnownRoom =
      tracker.lastKnownRoom := by
  cases robotPose with
  | none => rfl
  | some position =>
      simp only [RoomTracker.updateCurrentRoom]
      split
      · rfl
      · split
        · rfl
        · rfl

variable
  {system : TrackerSystem}

theorem Follows.sampled
    (follows : system.Follows)
    (robotPose : Option (Position ℚ))
    (serviceReady : Bool) :
    (system.sampled robotPose serviceReady).Follows where
  known :=
    (updateCurrentRoom_lastKnownRoom system.tracker robotPose
      serviceReady).trans follows.known
  shown := follows.shown

theorem Follows.of_published
    {request : Nat}
    {message : CurrentRoom}
    (arrived : system.arrived.getLast? = some (request, response))
    (published : system.published.getLast? = some message)
    (told : message.room = response.room)
    (known : system.tracker.lastKnownRoom = system.lastReported) :
    system.Follows where
  known := known
  shown last reached := by
    have same : (request, response) = last :=
      Option.some.inj (arrived.symm.trans reached)
    subst same
    exact ⟨message, published, (request, response),
      List.mem_of_getLast? arrived, rfl, fun _ => rfl, told⟩

theorem Follows.answered
    (follows : system.Follows)
    (request : Nat)
    (snapshot : Position ℚ)
    (clock : ClockReadings)
    (response : RoomResponse) :
    (system.answered request snapshot clock response).Follows := by
  have arrived :
      (system.answered request snapshot clock response).arrived.getLast? =
        some (request, response) :=
    List.getLast?_concat
  have reported :
      (system.answered request snapshot clock response).lastReported =
        if response.success then response.currentRoomId else "" := by
    simp only [lastReported, arrived]
  cases found : response.success with
  | false =>
      obtain ⟨forgotten, message, sent, told⟩ :=
        system.tracker.onResponse_of_failed snapshot clock found
      refine Follows.of_published arrived ?_ told ?_
      · simp only [TrackerSystem.answered, sent, Option.toList_some,
          List.getLast?_concat]
      · rw [reported, found]
        exact forgotten
  | true =>
      obtain ⟨known, ⟨message, sent, told⟩ | ⟨silent, before⟩⟩ :=
        system.tracker.onResponse_of_success snapshot clock found
      · refine Follows.of_published arrived ?_ told ?_
        · simp only [TrackerSystem.answered, sent, Option.toList_some,
            List.getLast?_concat]
        · rw [reported, found]
          exact known
      · -- the room was known already, so the response before reported it
        refine ⟨?_, ?_⟩
        · rw [reported, found]
          exact known
        · intro last reached
          have same : (request, response) = last :=
            Option.some.inj (arrived.symm.trans reached)
          subst same
          have reportedBefore :
              system.lastReported = response.currentRoomId :=
            follows.known.symm.trans before
          have kept :
              (system.answered request snapshot clock response).published =
                system.published := by
            simp only [TrackerSystem.answered, silent, Option.toList_none,
              List.append_nil]
          rw [kept]
          simp only [lastReported] at reportedBefore
          split at reportedBefore
          · exact absurd reportedBefore.symm response.currentRoomId_ne_empty
          · case h_2 earlier previous arrivedBefore =>
            split at reportedBefore
            · case isTrue foundBefore =>
              obtain ⟨message, published, origin, present, success, sameId,
                  told⟩ :=
                follows.shown _ arrivedBefore
              have foundThere : origin.2.success = true :=
                success.trans foundBefore
              exact ⟨message, published, origin,
                List.mem_append_left _ present, foundThere.trans found.symm,
                fun _ => (sameId foundThere).trans reportedBefore, told⟩
            · exact absurd reportedBefore.symm
                response.currentRoomId_ne_empty

theorem Reached.follows
    {globalFrame : String}
    (reached : Reached globalFrame system) :
    system.Follows := by
  induction reached with
  | activated serviceAvailable now =>
      exact follows_activated globalFrame serviceAvailable now
  | sampled before robotPose serviceReady follows =>
      exact follows.sampled robotPose serviceReady
  | answered before inFlight clock response follows =>
      exact follows.answered _ _ clock response

theorem Follows.published_eq
    (follows : system.Follows)
    (telling : system.IdsTellRooms) :
    system.published.getLast?.map CurrentRoom.room =
        system.arrived.getLast?.map (fun arrival => arrival.2.room) ∨
      system.arrived = [] := by
  cases reached : system.arrived.getLast? with
  | none => exact .inr (List.getLast?_eq_none_iff.mp reached)
  | some last =>
      obtain ⟨message, published, origin, present, success, sameId, told⟩ :=
        follows.shown last reached
      have arrived := List.mem_of_getLast? reached
      have sameRoom : origin.2.room = last.2.room := by
        cases found : origin.2.success with
        | false =>
            simp only [RoomResponse.room, found, success.symm.trans found,
              Bool.false_eq_true, if_false]
        | true =>
            exact telling origin present last arrived found
              (success.symm.trans found) (sameId found)
      left
      rw [published, Option.map_some, Option.map_some, told, sameRoom]

/-- The last message tells the room of the latest request just when no older
response with another room has come after the response to that request. -/
theorem showsLatest_iff
    (globalFrame : String)
    (system : TrackerSystem)
    (reached : Reached globalFrame system)
    (telling : system.IdsTellRooms) :
    system.ShowsLatest ↔ system.LatestArrivesLast := by
  have published := reached.follows.published_eq telling
  constructor
  · intro shows request response latest arrived
    cases published with
    | inl same => exact same ▸ shows request response latest arrived
    | inr empty => exact absurd (empty ▸ arrived) List.not_mem_nil
  · intro ordered request response latest arrived
    cases published with
    | inl same => exact same ▸ ordered request response latest arrived
    | inr empty => exact absurd (empty ▸ arrived) List.not_mem_nil

/-- A hall and the lab behind it. -/
def hallResponse : RoomResponse :=
  { success := true
    message := "Found floor 'EG' and room 'Hall'"
    floorName := "EG"
    roomId := "11"
    roomName := "Hall" }

def labResponse : RoomResponse :=
  { success := true
    message := "Found floor 'EG' and room 'Lab'"
    floorName := "EG"
    roomId := "12"
    roomName := "Lab" }

def clockAt (now : ℚ) : ClockReadings :=
  { stamp := now
    checked := now
    noted := now }

/-- The robot is seen in the hall and then in the lab. -/
def walked : TrackerSystem :=
  ((activated "ifc" true 0).sampled (some ⟨2, 3, 0⟩) true).sampled
    (some ⟨2, 9, 0⟩) true

def walkedInOrder : TrackerSystem :=
  (walked.answered 0 ⟨2, 3, 0⟩ (clockAt 1) hallResponse).answered
    1 ⟨2, 9, 0⟩ (clockAt 2) labResponse

/-- The response for the hall comes after the one for the lab. -/
def walkedSwapped : TrackerSystem :=
  (walked.answered 1 ⟨2, 9, 0⟩ (clockAt 1) labResponse).answered
    0 ⟨2, 3, 0⟩ (clockAt 2) hallResponse

theorem reached_walked : Reached "ifc" walked :=
  .sampled (.sampled (.activated true 0) _ _) _ _

theorem reached_walkedSwapped : Reached "ifc" walkedSwapped :=
  .answered
    (.answered reached_walked ⟨by decide +kernel, by decide +kernel⟩ _ _)
    ⟨by decide +kernel, by decide +kernel⟩ _ _

theorem showsLatest_walkedInOrder :
    Reached "ifc" walkedInOrder ∧ walkedInOrder.IdsTellRooms ∧
      walkedInOrder.ShowsLatest := by
  have reached : Reached "ifc" walkedInOrder :=
    .answered
      (.answered reached_walked ⟨by decide +kernel, by decide +kernel⟩ _ _)
      ⟨by decide +kernel, by decide +kernel⟩ _ _
  have telling : walkedInOrder.IdsTellRooms := by
    unfold IdsTellRooms
    decide +kernel
  refine ⟨reached, telling,
    (showsLatest_iff "ifc" walkedInOrder reached telling).mpr ?_⟩
  have last : walkedInOrder.arrived.getLast? = some (1, labResponse) := by
    decide +kernel
  have twice : walkedInOrder.arrived =
      [(0, hallResponse), (1, labResponse)] := by
    decide +kernel
  intro request response latest arrived
  rw [twice] at arrived
  rw [last]
  have second : request = 1 := Nat.succ.inj latest
  subst second
  simp only [List.mem_cons, Prod.mk.injEq, List.not_mem_nil, or_false,
    Nat.one_ne_zero, false_and, true_and, false_or] at arrived
  rw [arrived]
  rfl

/-- The hall is published last although the robot was last seen in the lab. -/
theorem not_showsLatest_walkedSwapped :
    ¬ ∀ (globalFrame : String) (system : TrackerSystem),
      Reached globalFrame system → system.AllArrived →
        system.ShowsLatest := by
  intro always
  have arrived : walkedSwapped.AllArrived := by
    unfold AllArrived
    decide +kernel
  have shows := always "ifc" walkedSwapped reached_walkedSwapped arrived 1
    labResponse (by decide +kernel) (by decide +kernel)
  have hall : walkedSwapped.published.getLast?.map CurrentRoom.room =
      some hallResponse.room := by
    decide +kernel
  exact absurd (hall.symm.trans shows) (by decide +kernel)

end TrackerSystem

/-!
## The subscriber

The costmap node takes the messages in the order of publishing.
-/

/-- The callback of the multi costmap node. -/
def onCurrentRoomUpdate
    (currentRoomId : String)
    (message : CurrentRoom) : String :=
  let newRoomId := message.floorName ++ "/" ++ message.roomName
  if newRoomId ≠ currentRoomId then newRoomId else currentRoomId

/-- The costmap that is kept up to date is that of the last message. -/
theorem onCurrentRoomUpdate_published
    (messages : List CurrentRoom)
    (last : CurrentRoom)
    (currentRoomId : String) :
    (messages ++ [last]).foldl onCurrentRoomUpdate currentRoomId =
      last.floorName ++ "/" ++ last.roomName := by
  rw [List.foldl_append, List.foldl_cons, List.foldl_nil]
  simp only [onCurrentRoomUpdate]
  split
  · rfl
  · case isFalse same =>
    exact (Decidable.not_not.mp same).symm

namespace TrackerSystem

/-- In whatever order the responses arrive, the costmap that is kept up to date is
that of the room of the last one. -/
theorem currentRoom_follows
    (globalFrame : String)
    (system : TrackerSystem)
    (reached : Reached globalFrame system)
    (telling : system.IdsTellRooms)
    (last : Nat × RoomResponse)
    (isLast : system.arrived.getLast? = some last)
    (currentRoomId : String) :
    system.published.foldl onCurrentRoomUpdate currentRoomId =
      last.2.room.1 ++ "/" ++ last.2.room.2.2 := by
  cases reached.follows.published_eq telling with
  | inl same =>
      rw [isLast] at same
      obtain ⟨message, isMessage, told⟩ := Option.map_eq_some_iff.mp same
      obtain ⟨earlier, isPublished⟩ := List.getLast?_eq_some_iff.mp isMessage
      have sameRoom : message.room = last.2.room := told
      rw [isPublished, onCurrentRoomUpdate_published, ← sameRoom]
      rfl
  | inr empty =>
      rw [empty] at isLast
      cases isLast

theorem currentRoom_walkedSwapped :
    walkedSwapped.published.foldl onCurrentRoomUpdate "EG/Lab" = "EG/Hall" := by
  have telling : walkedSwapped.IdsTellRooms := by
    unfold IdsTellRooms
    decide +kernel
  exact currentRoom_follows "ifc" walkedSwapped reached_walkedSwapped telling
    (0, hallResponse) (by decide +kernel) "EG/Lab"

end TrackerSystem

end NavBim
