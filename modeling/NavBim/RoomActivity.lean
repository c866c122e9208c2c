import NavBim.FloorCostmap
import NavBim.MultimapServer

namespace NavBim

/-!
# Rooms of the last environment message

Every environment message lists the rooms there are: environments are floors,
and their maps are the rooms.  Rooms that are new are
created later, by a task of its own, and rooms that are no longer listed are
marked as inactive.  The mark is never taken back, and a room that is created
while the node is active is not marked as active at all.

A task holds the rooms that were missing when its message arrived.  Storing the
handle of a new task waits for the task before, so a message is only done with
once the tasks of all earlier messages are.
-/

def createRoomKey
    (room : String × String) : String :=
  room.1 ++ "/" ++ room.2

/-- The room ids of a message. -/
def listedIds
    (message : List Environment) : List String :=
  (listedRooms message).map createRoomKey

/-- A message whose new rooms have been handed to a task. -/
structure EnvironmentUpdate where
  waitsForTask : Bool
  roomsToRemove : List String
  deriving DecidableEq

/-- The rooms, the tasks that create rooms with their numbers, the message that
is being handled, and a log of the rooms that were created. -/
structure RoomNode (K : Type) where
  roomCostmaps : RoomCostmaps K
  tasks : List (Nat × List (String × String))
  launched : Nat
  handling : Option EnvironmentUpdate
  created : List String

section Model

variable {K : Type}

/-- Activation marks all rooms as active. -/
def onActivate
    (rooms : RoomCostmaps K) : RoomCostmaps K :=
  rooms.modify fun _ info => { info with isActive := true }

/-- The rooms of a message that do not exist. -/
def roomsToCreate
    (rooms : RoomCostmaps K)
    (message : List Environment) : List (String × String) :=
  (listedRooms message).filter fun room =>
    (rooms.find (createRoomKey room)).isNone

/-- The rooms that a message does not list. -/
def roomsToRemove
    (rooms : RoomCostmaps K)
    (message : List Environment) : List String :=
  (rooms.entries.map Prod.fst).filter fun roomId =>
    roomId ∉ listedIds message

/-- The first part of handling a message, up to launching the task. -/
def onEnvironmentUpdate
    (node : RoomNode K)
    (message : List Environment) : RoomNode K :=
  let create := roomsToCreate node.roomCostmaps message
  let remove := roomsToRemove node.roomCostmaps message
  if create.isEmpty && remove.isEmpty then
    node
  else if create.isEmpty then
    { node with handling := some ⟨false, remove⟩ }
  else
    { node with
      tasks := node.tasks ++ [(node.launched + 1, create)]
      launched := node.launched + 1
      handling := some ⟨true, remove⟩ }

/-- The second part: rooms that are not listed become inactive. -/
def markInactive
    (node : RoomNode K)
    (update : EnvironmentUpdate) : RoomNode K :=
  { node with
    roomCostmaps := node.roomCostmaps.modify fun roomId info =>
      if roomId ∈ update.roomsToRemove then
        { info with isActive := false }
      else
        info
    handling := none }

/-- What a new room starts with, given its costmap. -/
def newRoom
    (map : Costmap2D K) : RoomCostmapInfo K where
  layeredCostmap := some map
  staticLayer := some false
  isActive := false
  hasChangedSinceLastFloorUpdate := false

variable (roomData : String × String → Option (Costmap2D K))

/-- The rooms of a task that can be initialized. -/
def createdRooms
    (rooms : List (String × String)) :
    List (String × RoomCostmapInfo K) :=
  rooms.filterMap fun room =>
    (roomData room).map fun map => (createRoomKey room, newRoom map)

/-- A task creates its rooms and stores them all at once. -/
def createRoomCostmapsDeferred
    (node : RoomNode K)
    (rooms : List (String × String)) : RoomNode K :=
  let created := createdRooms roomData rooms
  { node with
    roomCostmaps := created.foldl
      (fun rooms room => rooms.insert room.1 room.2) node.roomCostmaps
    created := node.created ++ created.map Prod.fst }

/-- The runs of a node that was activated with some rooms.  The list holds the
messages, the last one first, with the states they were received in. -/
inductive ActivityRun
    (start : RoomCostmaps K) :
    List (RoomNode K × List Environment) → RoomNode K → Prop where
  | activate :
      ActivityRun start []
        ⟨onActivate start, [], 0, none, start.entries.map Prod.fst⟩
  | receive {messages} {node : RoomNode K} (message : List Environment) :
      ActivityRun start messages node →
      node.handling = none →
      ActivityRun start ((node, message) :: messages)
        (onEnvironmentUpdate node message)
  | finish {messages} {node : RoomNode K} {update : EnvironmentUpdate} :
      ActivityRun start messages node →
      node.handling = some update →
      (update.waitsForTask = true →
        ∀ task ∈ node.tasks, task.1 = node.launched) →
      ActivityRun start messages (markInactive node update)
  | complete {messages} {node : RoomNode K} {earlier later}
      {task : Nat × List (String × String)} :
      ActivityRun start messages node →
      node.tasks = earlier ++ task :: later →
      ActivityRun start messages
        (createRoomCostmapsDeferred roomData
          { node with tasks := earlier ++ later } task.2)

/-- Nothing is under way any more. -/
def Quiet
    (node : RoomNode K) : Prop :=
  node.handling = none ∧ node.tasks = []

/-- The rooms are the ones of a message. -/
structure FollowsMessage
    (node : RoomNode K)
    (message : List Environment) : Prop where
  active : ∀ roomId info, node.roomCostmaps.find roomId = some info →
    (info.isActive = true ↔ roomId ∈ listedIds message)
  exist : ∀ roomId ∈ listedIds message,
    (node.roomCostmaps.find roomId).isSome = true
  once : ∀ roomId, (node.roomCostmaps.find roomId).isSome = true →
    node.created.count roomId = 1

/-- The ids of the rooms that can be initialized. -/
def creatableIds
    (rooms : List (String × String)) : List String :=
  (createdRooms roomData rooms).map Prod.fst

/-- The rooms that the tasks under way will create. -/
def pendingIds
    (node : RoomNode K) : List String :=
  node.tasks.flatMap fun task => creatableIds roomData task.2

/-- A message lists every room that will be created for it once, and none that
is being created already. -/
def ListsNewRoomsOnce
    (node : RoomNode K)
    (message : List Environment) : Prop :=
  ∀ roomId ∈ creatableIds roomData
      (roomsToCreate node.roomCostmaps message),
    (creatableIds roomData
      (roomsToCreate node.roomCostmaps message)).count roomId = 1 ∧
    roomId ∉ pendingIds roomData node

end Model

section Invariant

variable {K : Type} {roomData : String × String → Option (Costmap2D K)}
  {start : RoomCostmaps K} {node : RoomNode K}
  {message : List Environment}
  {messages : List (RoomNode K × List Environment)}

/-- The room is active, and it is not about to be marked otherwise. -/
def KeptActive
    (node : RoomNode K)
    (roomId : String) : Prop :=
  (∃ info, node.roomCostmaps.find roomId = some info ∧
    info.isActive = true) ∧
    ∀ update, node.handling = some update → roomId ∉ update.roomsToRemove

/-- How often a room was created, or will be by the tasks under way. -/
def timesCreated
    (roomData : String × String → Option (Costmap2D K))
    (node : RoomNode K)
    (roomId : String) : Nat :=
  node.created.count roomId + (pendingIds roomData node).count roomId

/-- What holds in every state of a run. -/
structure ActivityInvariant
    (roomData : String × String → Option (Costmap2D K))
    (start : RoomCostmaps K)
    (messages : List (RoomNode K × List Environment))
    (node : RoomNode K) : Prop where
  kept : ∀ roomId, (start.find roomId).isSome = true →
    (KeptActive node roomId ↔
      ∀ received ∈ messages, roomId ∈ listedIds received.2)
  exist : ∀ roomId, (start.find roomId).isSome = true →
    (node.roomCostmaps.find roomId).isSome = true
  inactive : ∀ roomId info, start.find roomId = none →
    node.roomCostmaps.find roomId = some info → info.isActive = false
  fresh : ∀ task ∈ node.tasks, ∀ room ∈ task.2,
    start.find (createRoomKey room) = none
  created : ∀ roomId, roomId ∈ node.created ↔
    (node.roomCostmaps.find roomId).isSome = true
  once : (∀ roomId, timesCreated roomData node roomId ≤ 1) ↔
    ∀ received ∈ messages, ListsNewRoomsOnce roomData received.1 received.2

theorem mem_ids
    {rooms : RoomCostmaps K}
    {roomId : String} :
    roomId ∈ rooms.entries.map Prod.fst ↔
      (rooms.find roomId).isSome = true := by
  rw [Option.isSome_iff_exists]
  simp only [List.mem_map, Prod.exists, RoomCostmaps.find_eq_some_iff]
  constructor
  · rintro ⟨otherId, info, isMember, rfl⟩
    exact ⟨info, isMember⟩
  · rintro ⟨info, isMember⟩
    exact ⟨roomId, info, isMember, rfl⟩

theorem mem_roomsToRemove
    {rooms : RoomCostmaps K}
    {roomId : String} :
    roomId ∈ roomsToRemove rooms message ↔
      (rooms.find roomId).isSome = true ∧ roomId ∉ listedIds message := by
  rw [roomsToRemove, List.mem_filter, mem_ids, decide_eq_true_eq]

/-- Rooms are only created if they are missing. -/
theorem find_of_mem_roomsToCreate
    {rooms : RoomCostmaps K}
    {room : String × String}
    (isMember : room ∈ roomsToCreate rooms message) :
    rooms.find (createRoomKey room) = none := by
  have isMissing := (List.mem_filter.mp isMember).2
  exact Option.isNone_iff_eq_none.mp isMissing

variable
  {roomId : String}

theorem mem_creatableIds
    {rooms : List (String × String)}
    (isMember : roomId ∈ creatableIds roomData rooms) :
    ∃ room ∈ rooms, createRoomKey room = roomId := by
  simp only [creatableIds, createdRooms, List.mem_map, List.mem_filterMap,
    Option.map_eq_some_iff] at isMember
  obtain ⟨_, ⟨room, isRoom, _, -, rfl⟩, rfl⟩ := isMember
  exact ⟨room, isRoom, rfl⟩

theorem ActivityInvariant.activate
    (start : RoomCostmaps K) :
    ActivityInvariant roomData start []
      ⟨onActivate start, [], 0, none, start.entries.map Prod.fst⟩ where
  kept := by
    intro roomId isRoom
    obtain ⟨info, found⟩ := Option.isSome_iff_exists.mp isRoom
    simp [KeptActive, onActivate, found]
  exist := by
    intro roomId isRoom
    simpa [onActivate] using isRoom
  inactive := by
    intro roomId info isMissing found
    simp [onActivate, isMissing] at found
  fresh := by simp
  created := by
    intro roomId
    rw [mem_ids]
    simp [onActivate]
  once := by
    have atMostOnce : ∀ roomId,
        (start.entries.map Prod.fst).count roomId ≤ 1 :=
      List.nodup_iff_count_le_one.mp start.distinct
    simpa [timesCreated, pendingIds] using atMostOnce

section Receive

@[simp] theorem onEnvironmentUpdate_roomCostmaps :
    (onEnvironmentUpdate node message).roomCostmaps = node.roomCostmaps := by
  simp only [onEnvironmentUpdate]
  split
  · rfl
  · split <;> rfl

@[simp] theorem onEnvironmentUpdate_created :
    (onEnvironmentUpdate node message).created = node.created := by
  simp only [onEnvironmentUpdate]
  split
  · rfl
  · split <;> rfl

theorem onEnvironmentUpdate_tasks
    (node : RoomNode K)
    (message : List Environment) :
    (onEnvironmentUpdate node message).tasks = node.tasks ∧
        roomsToCreate node.roomCostmaps message = [] ∨
      (onEnvironmentUpdate node message).tasks =
        node.tasks ++
          [(node.launched + 1, roomsToCreate node.roomCostmaps message)] := by
  simp only [onEnvironmentUpdate]
  split
  · rename_i nothing
    rw [Bool.and_eq_true, List.isEmpty_iff] at nothing
    exact .inl ⟨rfl, nothing.1⟩
  · split
    · rename_i noneNew
      exact .inl ⟨rfl, List.isEmpty_iff.mp noneNew⟩
    · exact .inr rfl

theorem pendingIds_onEnvironmentUpdate :
    pendingIds roomData (onEnvironmentUpdate node message) =
      pendingIds roomData node ++
        creatableIds roomData (roomsToCreate node.roomCostmaps message) := by
  rcases onEnvironmentUpdate_tasks node message with
    ⟨same, noneNew⟩ | added
  · simp [pendingIds, same, noneNew, creatableIds, createdRooms]
  · simp [pendingIds, added]

theorem onEnvironmentUpdate_removes
    (roomId : String)
    (idle : node.handling = none) :
    (∀ update, (onEnvironmentUpdate node message).handling = some update →
      roomId ∉ update.roomsToRemove) ↔
      roomId ∉ roomsToRemove node.roomCostmaps message := by
  simp only [onEnvironmentUpdate]
  split
  · rename_i nothing
    rw [Bool.and_eq_true, List.isEmpty_iff, List.isEmpty_iff] at nothing
    simp [idle, nothing.2]
  · split <;> simp

theorem timesCreated_onEnvironmentUpdate
    (roomId : String) :
    timesCreated roomData (onEnvironmentUpdate node message) roomId =
      timesCreated roomData node roomId +
        (creatableIds roomData
          (roomsToCreate node.roomCostmaps message)).count roomId := by
  simp [timesCreated, pendingIds_onEnvironmentUpdate, Nat.add_assoc]

/-- Rooms are created at most once, before and after a message, if it lists
its new rooms once. -/
theorem timesCreated_le_one_iff
    (created : ∀ roomId, roomId ∈ node.created ↔
      (node.roomCostmaps.find roomId).isSome = true) :
    (∀ roomId,
      timesCreated roomData (onEnvironmentUpdate node message) roomId ≤ 1) ↔
      (∀ roomId, timesCreated roomData node roomId ≤ 1) ∧
        ListsNewRoomsOnce roomData node message := by
  simp only [timesCreated_onEnvironmentUpdate]
  constructor
  · intro bounds
    refine ⟨fun roomId => (Nat.le_add_right _ _).trans (bounds roomId), ?_⟩
    intro roomId isNew
    have bound := bounds roomId
    have positive := List.count_pos_iff.mpr isNew
    rw [timesCreated] at bound
    refine ⟨by omega, fun isPending => ?_⟩
    have pendingPositive := List.count_pos_iff.mpr isPending
    omega
  · rintro ⟨bounds, listsOnce⟩ roomId
    by_cases isNew : roomId ∈ creatableIds roomData
        (roomsToCreate node.roomCostmaps message)
    · obtain ⟨once, notPending⟩ := listsOnce roomId isNew
      obtain ⟨room, isMember, rfl⟩ := mem_creatableIds isNew
      have notCreated : createRoomKey room ∉ node.created := by
        rw [created, find_of_mem_roomsToCreate isMember]
        simp
      rw [timesCreated, once, List.count_eq_zero.mpr notCreated,
        List.count_eq_zero.mpr notPending]
    · rw [List.count_eq_zero.mpr isNew]
      exact bounds roomId

theorem ActivityInvariant.receive
    (invariant : ActivityInvariant roomData start messages node)
    (idle : node.handling = none) :
    ActivityInvariant roomData start ((node, message) :: messages)
      (onEnvironmentUpdate node message) where
  kept := by
    intro roomId isRoom
    have before := invariant.kept roomId isRoom
    have exists_ := invariant.exist roomId isRoom
    rw [List.forall_mem_cons, ← before, KeptActive, KeptActive,
      onEnvironmentUpdate_removes roomId idle, mem_roomsToRemove,
      onEnvironmentUpdate_roomCostmaps]
    simp [exists_, idle, and_comm]
  exist := by
    simpa using invariant.exist
  inactive := by
    simpa using invariant.inactive
  fresh := by
    intro task isTask room isMember
    have created : ∀ room ∈ roomsToCreate node.roomCostmaps message,
        start.find (createRoomKey room) = none := by
      intro room isNew
      have isMissing := find_of_mem_roomsToCreate isNew
      by_contra isRoom
      have isThere := invariant.exist (createRoomKey room)
        (Option.isSome_iff_ne_none.mpr isRoom)
      rw [isMissing] at isThere
      cases isThere
    rcases onEnvironmentUpdate_tasks node message with
      ⟨same, -⟩ | added
    · rw [same] at isTask
      exact invariant.fresh task isTask room isMember
    · rw [added, List.mem_append, List.mem_singleton] at isTask
      rcases isTask with isOld | rfl
      · exact invariant.fresh task isOld room isMember
      · exact created room isMember
  created := by
    simpa using invariant.created
  once := by
    rw [timesCreated_le_one_iff invariant.created, invariant.once,
      List.forall_mem_cons, and_comm]

end Receive

theorem ActivityInvariant.finish
    {update : EnvironmentUpdate}
    (invariant : ActivityInvariant roomData start messages node)
    (handling : node.handling = some update) :
    ActivityInvariant roomData start messages (markInactive node update) where
  kept := by
    intro roomId isRoom
    rw [← invariant.kept roomId isRoom]
    cases found : node.roomCostmaps.find roomId with
    | none => simp [KeptActive, markInactive, found]
    | some info =>
        by_cases isRemoved : roomId ∈ update.roomsToRemove
        · simp [KeptActive, markInactive, found, isRemoved, handling]
        · simp [KeptActive, markInactive, found, isRemoved, handling]
  exist := by
    intro roomId isRoom
    simpa [markInactive] using invariant.exist roomId isRoom
  inactive := by
    intro roomId info isNew found
    simp only [markInactive, RoomCostmaps.find_modify,
      Option.map_eq_some_iff] at found
    obtain ⟨before, wasFound, rfl⟩ := found
    have wasInactive := invariant.inactive roomId before isNew wasFound
    split
    · rfl
    · exact wasInactive
  fresh := invariant.fresh
  created := by
    intro roomId
    simpa [markInactive] using invariant.created roomId
  once := invariant.once

section Complete

theorem find_foldl_insert_of_not_mem
    (stored : List (String × RoomCostmapInfo K))
    (rooms : RoomCostmaps K)
    (notStored : roomId ∉ stored.map Prod.fst) :
    (stored.foldl (fun rooms room => rooms.insert room.1 room.2) rooms).find
      roomId = rooms.find roomId := by
  induction stored generalizing rooms with
  | nil => rfl
  | cons room rest inductionHypothesis =>
      rw [List.map_cons, List.mem_cons, not_or] at notStored
      rw [List.foldl_cons, inductionHypothesis _ notStored.2,
        RoomCostmaps.find_insert, if_neg notStored.1]

theorem find_foldl_insert_of_mem
    (stored : List (String × RoomCostmapInfo K))
    (rooms : RoomCostmaps K)
    (isStored : roomId ∈ stored.map Prod.fst) :
    ∃ info, (roomId, info) ∈ stored ∧
      (stored.foldl (fun rooms room => rooms.insert room.1 room.2) rooms).find
        roomId = some info := by
  induction stored generalizing rooms with
  | nil => cases isStored
  | cons room rest inductionHypothesis =>
      by_cases isLater : roomId ∈ rest.map Prod.fst
      · obtain ⟨info, isMember, found⟩ := inductionHypothesis _ isLater
        exact ⟨info, List.mem_cons_of_mem _ isMember, found⟩
      · obtain rfl : roomId = room.1 := by
          rw [List.map_cons, List.mem_cons] at isStored
          exact isStored.resolve_right isLater
        refine ⟨room.2, List.mem_cons_self, ?_⟩
        rw [List.foldl_cons, find_foldl_insert_of_not_mem rest _ isLater,
          RoomCostmaps.find_insert, if_pos rfl]

variable {earlier later : List (Nat × List (String × String))}
  {task : Nat × List (String × String)}

/-- A task only adds rooms that are inactive. -/
theorem isActive_of_mem_createdRooms
    {rooms : List (String × String)}
    {info : RoomCostmapInfo K}
    (isMember : (roomId, info) ∈ createdRooms roomData rooms) :
    info.isActive = false := by
  simp only [createdRooms, List.mem_filterMap, Option.map_eq_some_iff,
    Prod.mk.injEq] at isMember
  obtain ⟨_, -, _, -, -, rfl⟩ := isMember
  rfl

/-- Completing a task moves its rooms from the pending to the created ones. -/
theorem timesCreated_complete
    (roomId : String)
    (hasTask : node.tasks = earlier ++ task :: later) :
    timesCreated roomData
        (createRoomCostmapsDeferred roomData
          { node with tasks := earlier ++ later } task.2) roomId =
      timesCreated roomData node roomId := by
  simp only [timesCreated, createRoomCostmapsDeferred, pendingIds, hasTask,
    creatableIds, List.count_append, List.flatMap_append, List.flatMap_cons]
  omega

theorem ActivityInvariant.complete
    (invariant : ActivityInvariant roomData start messages node)
    (hasTask : node.tasks = earlier ++ task :: later) :
    ActivityInvariant roomData start messages
      (createRoomCostmapsDeferred roomData
        { node with tasks := earlier ++ later } task.2) := by
  have isTask : task ∈ node.tasks := by simp [hasTask]
  have notStored : ∀ roomId, (start.find roomId).isSome = true →
      roomId ∉ (createdRooms roomData task.2).map Prod.fst := by
    intro roomId isRoom isStored
    obtain ⟨room, isMember, rfl⟩ := mem_creatableIds isStored
    rw [invariant.fresh task isTask room isMember] at isRoom
    cases isRoom
  have unchanged : ∀ roomId,
      roomId ∉ (createdRooms roomData task.2).map Prod.fst →
      (createRoomCostmapsDeferred roomData
        { node with tasks := earlier ++ later } task.2).roomCostmaps.find
          roomId = node.roomCostmaps.find roomId :=
    fun roomId => find_foldl_insert_of_not_mem _ _
  constructor
  case kept =>
    intro roomId isRoom
    rw [← invariant.kept roomId isRoom, KeptActive, KeptActive,
      unchanged roomId (notStored roomId isRoom)]
    rfl
  case exist =>
    intro roomId isRoom
    rw [unchanged roomId (notStored roomId isRoom)]
    exact invariant.exist roomId isRoom
  case inactive =>
    intro roomId info isNew found
    by_cases isStored : roomId ∈ (createdRooms roomData task.2).map Prod.fst
    · obtain ⟨stored, isMember, found'⟩ :=
        find_foldl_insert_of_mem _ node.roomCostmaps isStored
      obtain rfl : stored = info := Option.some.inj (found'.symm.trans found)
      exact isActive_of_mem_createdRooms isMember
    · rw [unchanged roomId isStored] at found
      exact invariant.inactive roomId info isNew found
  case fresh =>
    intro other isOther
    apply invariant.fresh other
    rw [hasTask]
    rcases List.mem_append.mp isOther with isEarlier | isLater
    · exact List.mem_append_left _ isEarlier
    · exact List.mem_append_right _ (List.mem_cons_of_mem _ isLater)
  case created =>
    intro roomId
    have appended :
        roomId ∈ node.created ++
            (createdRooms roomData task.2).map Prod.fst ↔ _ :=
      List.mem_append
    refine appended.trans ?_
    by_cases isStored : roomId ∈ (createdRooms roomData task.2).map Prod.fst
    · obtain ⟨stored, -, found⟩ :=
        find_foldl_insert_of_mem _ node.roomCostmaps isStored
      simp only [isStored, or_true, true_iff]
      exact Option.isSome_iff_exists.mpr ⟨stored, found⟩
    · rw [unchanged roomId isStored]
      simpa [isStored] using invariant.created roomId
  case once =>
    simp only [timesCreated_complete _ hasTask]
    exact invariant.once

end Complete

theorem ActivityRun.invariant
    (run : ActivityRun roomData start messages node) :
    ActivityInvariant roomData start messages node := by
  induction run with
  | activate => exact .activate start
  | receive message _ idle invariant => exact invariant.receive idle
  | finish _ handling _ invariant => exact invariant.finish handling
  | complete _ hasTask invariant => exact invariant.complete hasTask

theorem ActivityInvariant.room_of_active
    {info : RoomCostmapInfo K}
    (invariant : ActivityInvariant roomData start messages node)
    (found : node.roomCostmaps.find roomId = some info)
    (isActive : info.isActive = true) :
    (start.find roomId).isSome = true := by
  rw [Option.isSome_iff_ne_none]
  intro isNew
  rw [invariant.inactive roomId info isNew found] at isActive
  cases isActive

/-- Once everything is done, the rooms are the ones of the last message exactly
if it only lists rooms that were there at activation and in all messages since,
and no message led to a room being created twice. -/
theorem rooms_follow_last_message_iff
    (roomData : String × String → Option (Costmap2D K))
    (start : RoomCostmaps K)
    (before : RoomNode K)
    (last : List Environment)
    (earlier : List (RoomNode K × List Environment))
    (node : RoomNode K)
    (run : ActivityRun roomData start ((before, last) :: earlier) node)
    (quiet : Quiet node) :
    FollowsMessage node last ↔
      (∀ roomId ∈ listedIds last, (start.find roomId).isSome = true ∧
        ∀ received ∈ earlier, roomId ∈ listedIds received.2) ∧
      ∀ received ∈ (before, last) :: earlier,
        ListsNewRoomsOnce roomData received.1 received.2 := by
  have invariant := run.invariant
  obtain ⟨idle, noTasks⟩ := quiet
  have kept : ∀ roomId, KeptActive node roomId ↔
      ∃ info, node.roomCostmaps.find roomId = some info ∧
        info.isActive = true := by
    intro roomId
    simp [KeptActive, idle]
  have times : ∀ roomId,
      timesCreated roomData node roomId = node.created.count roomId := by
    intro roomId
    simp [timesCreated, pendingIds, noTasks]
  rw [← invariant.once]
  constructor
  · intro follows
    refine ⟨?_, ?_⟩
    · intro roomId isListed
      obtain ⟨info, found⟩ :=
        Option.isSome_iff_exists.mp (follows.exist roomId isListed)
      have isActive := (follows.active roomId info found).mpr isListed
      have isRoom := invariant.room_of_active found isActive
      have inAll := (invariant.kept roomId isRoom).mp
        ((kept roomId).mpr ⟨info, found, isActive⟩)
      exact ⟨isRoom, fun received isEarlier =>
        inAll received (List.mem_cons_of_mem _ isEarlier)⟩
    · intro roomId
      rw [times]
      by_cases isCreated : roomId ∈ node.created
      · exact (follows.once roomId ((invariant.created roomId).mp isCreated)).le
      · rw [List.count_eq_zero.mpr isCreated]
        exact Nat.zero_le 1
  · rintro ⟨known, bounds⟩
    refine ⟨?_, ?_, ?_⟩
    · intro roomId info found
      constructor
      · intro isActive
        have isRoom := invariant.room_of_active found isActive
        exact (invariant.kept roomId isRoom).mp
          ((kept roomId).mpr ⟨info, found, isActive⟩)
          (before, last) List.mem_cons_self
      · intro isListed
        obtain ⟨isRoom, inEarlier⟩ := known roomId isListed
        obtain ⟨info', found', isActive⟩ := (kept roomId).mp
          ((invariant.kept roomId isRoom).mpr
            (List.forall_mem_cons.mpr ⟨isListed, inEarlier⟩))
        obtain rfl : info' = info := Option.some.inj (found'.symm.trans found)
        exact isActive
    · intro roomId isListed
      exact invariant.exist roomId (known roomId isListed).1
    · intro roomId isThere
      have isCreated := List.count_pos_iff.mpr
        ((invariant.created roomId).mpr isThere)
      have bound := bounds roomId
      rw [times] at bound
      omega

end Invariant

/-- A costmap of one cell nothing is known about. -/
def emptyCostmap : Costmap2D ℚ :=
  Costmap2D.filled ⟨1, 1, 1, 0, 0⟩ noInformation

/-- A floor with two rooms. -/
def hallRooms : RoomCostmaps ℚ where
  entries :=
    [("floor/hall", newRoom emptyCostmap),
      ("floor/store", newRoom emptyCostmap)]
  distinct := by decide

def hallActivated : RoomNode ℚ :=
  ⟨onActivate hallRooms, [], 0, none, hallRooms.entries.map Prod.fst⟩

/-- The message adds a room to the two that were there at activation. -/
def atticMessage : List Environment :=
  [⟨"floor", "map", ["hall", "store", "attic"]⟩]

/-- A room that is created while the node is active is listed, but not active. -/
theorem new_room_stays_inactive :
    ∃ node, ActivityRun (fun _ => some emptyCostmap) hallRooms
        [(hallActivated, atticMessage)] node ∧
      Quiet node ∧ ¬ FollowsMessage node atticMessage := by
  have received : ActivityRun (fun _ => some emptyCostmap) hallRooms
      [(hallActivated, atticMessage)]
      (onEnvironmentUpdate hallActivated atticMessage) :=
    .receive atticMessage .activate rfl
  have hasTask :
      (onEnvironmentUpdate hallActivated atticMessage).tasks =
        [] ++ (1, [("floor", "attic")]) :: [] := by
    decide +kernel
  have created := ActivityRun.complete received hasTask
  have handling :
      (createRoomCostmapsDeferred (fun _ => some emptyCostmap)
        { onEnvironmentUpdate hallActivated atticMessage with
          tasks := [] ++ [] } [("floor", "attic")]).handling =
        some ⟨true, []⟩ := by
    decide +kernel
  have finished := ActivityRun.finish created handling (by simp +decide)
  refine ⟨_, finished, ⟨rfl, rfl⟩, ?_⟩
  intro follows
  have isInactive := follows.active "floor/attic" (newRoom emptyCostmap)
    (by decide +kernel)
  exact absurd (isInactive.mpr (by decide +kernel)) (by decide)

/-- The message leaves out one of the two rooms. -/
def hallMessage : List Environment :=
  [⟨"floor", "map", ["hall"]⟩]

/-- A message that leaves out a room makes it inactive, and only this one. -/
theorem left_out_room_becomes_inactive :
    ∃ node, ActivityRun (fun _ => some emptyCostmap) hallRooms
        [(hallActivated, hallMessage)] node ∧
      FollowsMessage node hallMessage := by
  have received : ActivityRun (fun _ => some emptyCostmap) hallRooms
      [(hallActivated, hallMessage)]
      (onEnvironmentUpdate hallActivated hallMessage) :=
    .receive _ .activate rfl
  have handling :
      (onEnvironmentUpdate hallActivated hallMessage).handling =
        some ⟨false, ["floor/store"]⟩ := by
    decide +kernel
  have noTasks :
      (onEnvironmentUpdate hallActivated hallMessage).tasks = [] := by
    decide +kernel
  have noneNew :
      roomsToCreate hallActivated.roomCostmaps hallMessage = [] := by
    decide +kernel
  have finished := ActivityRun.finish received handling (by simp)
  refine ⟨_, finished, ?_⟩
  refine (rooms_follow_last_message_iff _ _ _ _ _ _ finished
    ⟨rfl, noTasks⟩).mpr ⟨?_, ?_⟩
  · have listed : listedIds hallMessage = ["floor/hall"] := by
      decide +kernel
    rw [listed]
    simp only [List.mem_singleton, forall_eq]
    exact ⟨by decide +kernel, by simp⟩
  · simp only [List.mem_singleton, forall_eq]
    intro roomId isNew
    rw [noneNew] at isNew
    cases isNew

end NavBim
