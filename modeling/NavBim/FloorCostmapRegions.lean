import NavBim.FloorCostmapRebuild

namespace NavBim

/-!
# Changes that reach the floor

An update clears the marks of all changed rooms before it looks at their
floors.  A mark is lost when the floor cannot be built yet, when the floor's
costmap is invalid, which is never repaired, or when a room joined the floor
after its costmap was built and so has no region.  In runs in which no update
meets such a floor, every change reaches the floor.
-/

section Statement

variable {K : Type} [Field K] [LinearOrder K] [FloorRing K]

/-- The known costs of a room are in the costmap of its floor. -/
def RoomMerged
    (node : MultiCostmap2D K)
    (roomId : String) : Prop :=
  ∃ info map held,
    node.roomCostmaps.find roomId = some info ∧
    info.layeredCostmap = some map ∧
    node.floorCostmapCache (getFloorFromRoomId roomId) = some held ∧
    held.isValid = true ∧
    ∀ x < held.costmap.sizeX, ∀ y < held.costmap.sizeY, ∀ cost,
      Shows held.costmap.toGrid map x y cost →
        cost ≤ held.costmap.getCost x y

/-- A node, and the rooms that have changed since their last change that was
merged. -/
structure TrackedNode (K : Type) where
  node : MultiCostmap2D K
  pending : Set String

/-- The rooms after one was added under an id.  Their order can be any. -/
def Inserted
    (before : RoomCostmaps K)
    (roomId : String)
    (info : RoomCostmapInfo K)
    (after : RoomCostmaps K) : Prop :=
  ∀ otherId, after.find otherId =
    if otherId = roomId then some info else before.find otherId

/-- Runs of the node, with a condition on the states updates start in. -/
inductive CostmapRun
    (condition : MultiCostmap2D K → Prop) :
    TrackedNode K → Prop where
  | start :
      CostmapRun condition
        ⟨⟨⟨[], List.nodup_nil⟩, fun _ => none⟩, ∅⟩
  | add {tracked : TrackedNode K} {roomId : String}
      {info : RoomCostmapInfo K} {rooms : RoomCostmaps K} :
      CostmapRun condition tracked →
      info.hasChangedSinceLastFloorUpdate = false →
      Inserted tracked.node.roomCostmaps roomId info rooms →
      CostmapRun condition
        ⟨{ tracked.node with roomCostmaps := rooms },
          tracked.pending \ {roomId}⟩
  | publish {tracked : TrackedNode K} (change : RoomChange K) :
      CostmapRun condition tracked →
      (tracked.node.roomCostmaps.find change.roomId).isSome = true →
      CostmapRun condition
        ⟨publishCostmap tracked.node change,
          insert change.roomId tracked.pending⟩
  | invalidate {tracked : TrackedNode K} (floor : String) :
      CostmapRun condition tracked →
      CostmapRun condition
        ⟨invalidateFloorCostmap tracked.node floor, tracked.pending⟩
  | update {tracked : TrackedNode K} :
      CostmapRun condition tracked →
      condition tracked.node →
      CostmapRun condition
        ⟨updateFloorCostmaps tracked.node,
          { roomId ∈ tracked.pending |
            ¬ RoomMerged (updateFloorCostmaps tracked.node) roomId }⟩

/-- An update brings a changed floor whose rooms are all ready up to date, and
only clears the marks of rooms it merges. -/
structure UpdateReachesFloors
    (tracked : TrackedNode K) : Prop where
  rebuilt : ∀ floor, AllReady tracked.node.roomCostmaps floor →
    (∃ room ∈ tracked.node.roomCostmaps.onFloor floor,
      room.1 ∈ tracked.pending) →
    ∃ held,
      (updateFloorCostmaps tracked.node).floorCostmapCache floor =
        some held ∧
      held.isValid = true ∧
      ∀ room ∈ tracked.node.roomCostmaps.onFloor floor,
        (held.roomRegions room.1).isSome = true
  merged : ∀ roomId before after,
    tracked.node.roomCostmaps.find roomId = some before →
    before.hasChangedSinceLastFloorUpdate = true →
    (updateFloorCostmaps tracked.node).roomCostmaps.find roomId =
      some after →
    after.hasChangedSinceLastFloorUpdate = false →
      RoomMerged (updateFloorCostmaps tracked.node) roomId

/-- A room is ready, and the region held for it is the one of its costmap. -/
def ReadyInRegion
    (rooms : RoomCostmaps K)
    (held : FloorCostmapCache K)
    (roomId : String) : Prop :=
  ∃ info map region,
    rooms.find roomId = some info ∧
    readyCostmap info = some map ∧
    held.roomRegions roomId = some region ∧
    roomRegion held.costmap.toGrid map.toGrid = some region ∧
    Placed held.costmap.toGrid map.toGrid

/-- A changed floor can be updated: without a costmap all its rooms are ready
and their regions fit; otherwise the costmap is valid, the changed rooms are
ready and in their regions, and no ready floor has a room without region. -/
def FloorUpdatable
    (rooms : RoomCostmaps K)
    (floor : String) :
    Option (FloorCostmapCache K) → Prop
  | none =>
      AllReady rooms floor ∧
        ∀ first rest, rooms.costmapsOnFloor floor = first :: rest →
          ∀ room ∈ first :: rest,
            (roomRegion (roomsGrid first rest) room.2.toGrid).isSome = true
  | some held =>
      held.isValid = true ∧
        (∀ roomId ∈ rooms.changedOn floor, ReadyInRegion rooms held roomId) ∧
        (AllReady rooms floor →
          ∀ room ∈ rooms.onFloor floor,
            (held.roomRegions room.1).isSome = true)

/-- All floors with a changed room can be updated. -/
def FloorsUpdatable
    (node : MultiCostmap2D K) : Prop :=
  ∀ floor, node.roomCostmaps.changedOn floor ≠ [] →
    FloorUpdatable node.roomCostmaps floor (node.floorCostmapCache floor)

end Statement

section Update

variable {K : Type} [Field K] [LinearOrder K] [FloorRing K]
  [IsStrictOrderedRing K]
variable {rooms : RoomCostmaps K} {held : FloorCostmapCache K}

theorem foldl_updateFloorCostmapRegion
    (changedRooms : List String)
    (valid : held.isValid = true)
    (known : held.costmap.Known)
    (inRegions : ∀ roomId ∈ changedRooms, ReadyInRegion rooms held roomId) :
    ∃ after,
      changedRooms.foldl (updateFloorCostmapRegion rooms) (some held) =
        some { held with costmap := after } ∧
      Costmap2D.Merged held.costmap after
        (fun x y cost => ∃ roomId ∈ changedRooms, ∃ info map,
          rooms.find roomId = some info ∧
          readyCostmap info = some map ∧
          Shows held.costmap.toGrid map x y cost) := by
  induction changedRooms generalizing held with
  | nil => exact ⟨held.costmap, rfl, .none known (by simp)⟩
  | cons roomId rest inductionHypothesis =>
      obtain ⟨info, map, region, found, ready, hasRegion, atRoom, placed⟩ :=
        inRegions roomId List.mem_cons_self
      have first := mergeRegion_merged placed atRoom known
      have later : ∀ otherId ∈ rest,
          ReadyInRegion rooms
            { held with costmap := mergeRegion region held.costmap map }
            otherId := by
        intro otherId isMember
        have before := inRegions otherId (List.mem_cons_of_mem _ isMember)
        simp only [ReadyInRegion, first.grid] at before ⊢
        exact before
      obtain ⟨after, isUpdated, merged⟩ :=
        @inductionHypothesis
          { held with costmap := mergeRegion region held.costmap map }
          valid first.known later
      refine ⟨after, ?_, ?_⟩
      · rw [List.foldl_cons,
          updateFloorCostmapRegion_eq found ready valid hasRegion atRoom]
        exact isUpdated
      · refine (first.trans merged).congr ?_
        intro x _ y _ cost
        simp only [first.grid, List.mem_cons]
        constructor
        · rintro (isShown | ⟨otherId, isMember, shown⟩)
          · exact ⟨roomId, .inl rfl, info, map, found, ready, isShown⟩
          · exact ⟨otherId, .inr isMember, shown⟩
        · rintro ⟨otherId, rfl | isMember, info', map', found', ready', shown⟩
          · obtain rfl : info = info' :=
              Option.some.inj (found.symm.trans found')
            obtain rfl : map = map' :=
              Option.some.inj (ready.symm.trans ready')
            exact .inl shown
          · exact .inr ⟨otherId, isMember, info', map', found', ready', shown⟩

omit [IsStrictOrderedRing K] in
theorem buildFloorCostmap_regions
    {first : String × Costmap2D K}
    {rest : List (String × Costmap2D K)}
    (regionsFit : ∀ room ∈ first :: rest,
      (roomRegion (roomsGrid first rest) room.2.toGrid).isSome = true) :
    ∀ room ∈ first :: rest,
      ((buildFloorCostmap first rest).roomRegions room.1).isSome = true := by
  intro room isMember
  show (((first :: rest).find? fun other => other.1 = room.1).bind _).isSome =
    true
  cases found : (first :: rest).find? fun other => other.1 = room.1 with
  | none => exact absurd (List.find?_eq_none.mp found room isMember) (by simp)
  | some other => exact regionsFit other (List.mem_of_find?_eq_some found)

theorem AllReady.mem_costmapsOnFloor
    {K : Type}
    {rooms : RoomCostmaps K}
    {floor roomId : String}
    {info : RoomCostmapInfo K}
    (allReady : AllReady rooms floor)
    (isMember : (roomId, info) ∈ rooms.onFloor floor) :
    ∃ map, readyCostmap info = some map ∧
      (roomId, map) ∈ rooms.costmapsOnFloor floor := by
  obtain ⟨map, ready⟩ := Option.isSome_iff_exists.mp (allReady _ isMember)
  obtain ⟨found, onFloor⟩ := RoomCostmaps.mem_onFloor.mp isMember
  exact ⟨map, ready, RoomCostmaps.mem_costmapsOnFloor.mpr
    ⟨info, found, onFloor, layeredCostmap_of_ready ready⟩⟩

/-- After an update the floor has a valid costmap with the known costs of its
changed rooms, and with a region for each room if all rooms are ready. -/
theorem FloorUpdatable.updated
    {floor : String}
    {entry : Option (FloorCostmapCache K)}
    (updatable : FloorUpdatable rooms floor entry)
    (changed : rooms.changedOn floor ≠ [])
    (known : ∀ held, entry = some held → held.costmap.Known) :
    ∃ after,
      updateFloor rooms floor (rooms.changedOn floor) entry = some after ∧
      after.isValid = true ∧
      after.costmap.Known ∧
      (AllReady rooms floor → ∀ room ∈ rooms.onFloor floor,
        (after.roomRegions room.1).isSome = true) ∧
      ∀ roomId ∈ rooms.changedOn floor, ∃ info map,
        rooms.find roomId = some info ∧
        info.layeredCostmap = some map ∧
        ∀ x < after.costmap.sizeX, ∀ y < after.costmap.sizeY, ∀ cost,
          Shows after.costmap.toGrid map x y cost →
            cost ≤ after.costmap.getCost x y := by
  cases entry with
  | none =>
      obtain ⟨allReady, regionsFit⟩ := updatable
      obtain ⟨someId, someChanged⟩ := List.exists_mem_of_ne_nil _ changed
      obtain ⟨someInfo, someFound, someOnFloor, -⟩ :=
        RoomCostmaps.mem_changedOn.mp someChanged
      obtain ⟨someMap, -, someMember⟩ := allReady.mem_costmapsOnFloor
        (RoomCostmaps.mem_onFloor.mpr ⟨someFound, someOnFloor⟩)
      obtain ⟨first, rest, costmaps⟩ :=
        List.exists_cons_of_ne_nil (List.ne_nil_of_mem someMember)
      have regions := buildFloorCostmap_regions (regionsFit first rest costmaps)
      refine ⟨buildFloorCostmap first rest, ?_, rfl,
        (buildFloorCostmap_merged first rest).known, ?_, ?_⟩
      · exact createFloorCostmap_eq_some_iff.mpr
          ⟨allReady, first, rest, costmaps, rfl⟩
      · rintro - ⟨roomId, info⟩ isMember
        obtain ⟨map, -, hasCostmap⟩ := allReady.mem_costmapsOnFloor isMember
        rw [costmaps] at hasCostmap
        exact regions _ hasCostmap
      · intro roomId isChanged
        obtain ⟨info, found, onFloor, -⟩ :=
          RoomCostmaps.mem_changedOn.mp isChanged
        obtain ⟨map, ready, hasCostmap⟩ := allReady.mem_costmapsOnFloor
          (RoomCostmaps.mem_onFloor.mpr ⟨found, onFloor⟩)
        rw [costmaps] at hasCostmap
        refine ⟨info, map, found, layeredCostmap_of_ready ready, ?_⟩
        intro x xInside y yInside cost isShown
        exact (buildFloorCostmap_highest first rest xInside yInside).upper
          _ hasCostmap cost isShown
  | some held =>
      obtain ⟨valid, inRegions, haveRegions⟩ := updatable
      obtain ⟨after, isUpdated, merged⟩ := foldl_updateFloorCostmapRegion
        (rooms.changedOn floor) valid (known held rfl) inRegions
      refine ⟨{ held with costmap := after }, ?_, valid, merged.known,
        haveRegions, ?_⟩
      · simpa [updateFloor, valid] using isUpdated
      · intro roomId isChanged
        obtain ⟨info, map, -, found, ready, -⟩ := inRegions roomId isChanged
        refine ⟨info, map, found, layeredCostmap_of_ready ready, ?_⟩
        show ∀ x < after.sizeX, ∀ y < after.sizeY, ∀ cost,
          Shows after.toGrid map x y cost → cost ≤ after.getCost x y
        rw [merged.grid]
        intro x xInside y yInside cost isShown
        obtain ⟨-, costs⟩ :=
          (merged.le_iff x xInside y yInside _).mp (UInt8.le_refl _)
        exact costs cost ⟨roomId, isChanged, info, map, found, ready, isShown⟩

end Update

section Runs

variable {K : Type} [Field K] [LinearOrder K] [FloorRing K]
  [IsStrictOrderedRing K]
variable {tracked : TrackedNode K}

/-- Rooms that wait for their change to be merged are marked, and floor
costmaps have known costs only. -/
structure MarksPending
    (tracked : TrackedNode K) : Prop where
  marked : ∀ roomId ∈ tracked.pending, ∃ info,
    tracked.node.roomCostmaps.find roomId = some info ∧
      info.hasChangedSinceLastFloorUpdate = true
  known : ∀ floor held, tracked.node.floorCostmapCache floor = some held →
    held.costmap.Known

theorem FloorsUpdatable.merged
    {roomId : String}
    {info : RoomCostmapInfo K}
    (updatable : FloorsUpdatable tracked.node)
    (invariant : MarksPending tracked)
    (found : tracked.node.roomCostmaps.find roomId = some info)
    (isMarked : info.hasChangedSinceLastFloorUpdate = true) :
    RoomMerged (updateFloorCostmaps tracked.node) roomId := by
  have isChanged : roomId ∈ tracked.node.roomCostmaps.changedOn
      (getFloorFromRoomId roomId) :=
    RoomCostmaps.mem_changedOn.mpr ⟨info, found, rfl, isMarked⟩
  have notEmpty := List.ne_nil_of_mem isChanged
  obtain ⟨after, isUpdated, valid, -, -, costs⟩ :=
    (updatable _ notEmpty).updated notEmpty (invariant.known _)
  obtain ⟨info', map, found', hasCostmap, merged⟩ := costs roomId isChanged
  refine ⟨_, map, after, (find_clearChanged _ _).trans
    (congrArg _ found'), hasCostmap, ?_, valid, merged⟩
  rw [updateFloorCostmaps_cache, if_neg notEmpty, isUpdated]

theorem MarksPending.update
    (invariant : MarksPending tracked)
    (updatable : FloorsUpdatable tracked.node) :
    MarksPending
      ⟨updateFloorCostmaps tracked.node,
        { roomId ∈ tracked.pending |
          ¬ RoomMerged (updateFloorCostmaps tracked.node) roomId }⟩ where
  marked := by
    rintro roomId ⟨isPending, notMerged⟩
    obtain ⟨info, found, isMarked⟩ := invariant.marked roomId isPending
    exact absurd (updatable.merged invariant found isMarked) notMerged
  known := by
    intro floor held isHeld
    rw [updateFloorCostmaps_cache] at isHeld
    split at isHeld
    · exact invariant.known floor held isHeld
    · rename_i notEmpty
      obtain ⟨after, isUpdated, -, known, -⟩ :=
        (updatable floor notEmpty).updated notEmpty (invariant.known floor)
      rw [isUpdated] at isHeld
      cases isHeld
      exact known

/-- The invariant holds along runs whose updates find all floors updatable. -/
theorem CostmapRun.marksPending
    (run : CostmapRun FloorsUpdatable tracked) :
    MarksPending tracked := by
  induction run with
  | start => exact ⟨by simp, by simp⟩
  | @add before roomId info rooms _ notMarked inserted invariant =>
      refine ⟨?_, invariant.known⟩
      rintro otherId ⟨isPending, isOther⟩
      obtain ⟨otherInfo, found, isMarked⟩ := invariant.marked otherId isPending
      refine ⟨otherInfo, ?_, isMarked⟩
      rw [inserted otherId,
        if_neg fun same => isOther (Set.mem_singleton_iff.mpr same)]
      exact found
  | @publish before change _ hasRoom invariant =>
      refine ⟨?_, invariant.known⟩
      intro roomId isPending
      obtain ⟨info, found⟩ := Option.isSome_iff_exists.mp hasRoom
      by_cases isChanged : roomId = change.roomId
      · subst isChanged
        exact ⟨_, find_publishCostmap_same found, rfl⟩
      · obtain ⟨otherInfo, otherFound, isMarked⟩ := invariant.marked roomId
          (Set.mem_of_mem_insert_of_ne isPending isChanged)
        refine ⟨otherInfo, ?_, isMarked⟩
        rw [find_publishCostmap_other isChanged]
        exact otherFound
  | @invalidate before floor _ invariant =>
      refine ⟨invariant.marked, ?_⟩
      intro otherFloor held isHeld
      by_cases isSame : otherFloor = floor
      · subst isSame
        simp only [invalidateFloorCostmap, Function.update_self,
          Option.map_eq_some_iff] at isHeld
        obtain ⟨valid, wasHeld, rfl⟩ := isHeld
        exact invariant.known otherFloor valid wasHeld
      · simp only [invalidateFloorCostmap,
          Function.update_of_ne isSame] at isHeld
        exact invariant.known otherFloor held isHeld
  | update _ updatable invariant => exact invariant.update updatable

/-- In every run in which updates only meet floors they can update, no change
is lost and every changed floor whose rooms are ready is brought up to date. -/
theorem updates_reach_floors
    (tracked : TrackedNode K)
    (run : CostmapRun FloorsUpdatable tracked)
    (updatable : FloorsUpdatable tracked.node) :
    UpdateReachesFloors tracked := by
  have invariant := run.marksPending
  constructor
  · rintro floor allReady ⟨⟨roomId, info⟩, isMember, isPending⟩
    obtain ⟨found, onFloor⟩ := RoomCostmaps.mem_onFloor.mp isMember
    obtain ⟨info', found', isMarked⟩ := invariant.marked roomId isPending
    have isChanged : roomId ∈ tracked.node.roomCostmaps.changedOn floor :=
      RoomCostmaps.mem_changedOn.mpr ⟨info', found', onFloor, isMarked⟩
    have notEmpty := List.ne_nil_of_mem isChanged
    obtain ⟨after, isUpdated, valid, -, regions, -⟩ :=
      (updatable floor notEmpty).updated notEmpty (invariant.known floor)
    refine ⟨after, ?_, valid, regions allReady⟩
    rw [updateFloorCostmaps_cache, if_neg notEmpty, isUpdated]
  · intro roomId before after found isMarked _ _
    exact updatable.merged invariant found isMarked

end Runs

/-- The floor of the closet has a costmap. -/
def builtNode : MultiCostmap2D ℚ :=
  updateFloorCostmaps (publishCostmap closetNode (closetChange 100))

theorem inserted_closet :
    Inserted (⟨[], List.nodup_nil⟩ : RoomCostmaps ℚ) "floor/closet"
      ⟨some (closetCostmap noInformation), none, true, false⟩
      closetNode.roomCostmaps :=
  @RoomCostmaps.find_insert ℚ ⟨[], List.nodup_nil⟩ _ _

theorem builtNode_run
    {condition : MultiCostmap2D ℚ → Prop}
    (allowed : condition (publishCostmap closetNode (closetChange 100))) :
    ∃ pending, CostmapRun condition ⟨builtNode, pending⟩ :=
  ⟨_, .update (.publish (closetChange 100)
    (.add .start rfl inserted_closet) rfl) allowed⟩

/-- A second room on the floor, added when the floor has its costmap. -/
def lateRooms : RoomCostmaps ℚ :=
  builtNode.roomCostmaps.insert "floor/store"
    ⟨some (closetCostmap noInformation), none, true, false⟩

/-- The second room is published. -/
def lateNode : MultiCostmap2D ℚ :=
  publishCostmap { builtNode with roomCostmaps := lateRooms }
    ⟨"floor/store", closetCostmap 100, some true⟩

/-- A room that joins a floor later makes the floor's costmap invalid. -/
theorem late_room_invalidates_floor :
    ∃ tracked : TrackedNode ℚ,
      CostmapRun (fun _ => True) tracked ∧ ¬ UpdateReachesFloors tracked := by
  obtain ⟨pending, built⟩ :
      ∃ pending, CostmapRun (fun _ => True) ⟨builtNode, pending⟩ :=
    builtNode_run trivial
  have hasStore : (lateRooms.find "floor/store").isSome = true := by
    decide +kernel
  refine ⟨⟨lateNode, insert "floor/store" (pending \ {"floor/store"})⟩,
    .publish ⟨"floor/store", closetCostmap 100, some true⟩
      (.add built rfl RoomCostmaps.find_insert) hasStore, ?_⟩
  intro reaches
  have allReady : AllReady lateNode.roomCostmaps "floor" :=
    List.all_eq_true.mp (by decide +kernel)
  have isMember :
      ("floor/store", (⟨some (closetCostmap 100), some true, true, true⟩ :
        RoomCostmapInfo ℚ)) ∈ lateNode.roomCostmaps.onFloor "floor" := by
    decide +kernel
  obtain ⟨held, isHeld, valid, -⟩ := reaches.rebuilt "floor" allReady
    ⟨_, isMember, Set.mem_insert _ _⟩
  have isInvalid :
      ((updateFloorCostmaps lateNode).floorCostmapCache "floor").map
        FloorCostmapCache.isValid = some false := by
    decide +kernel
  rw [isHeld, Option.map_some, valid] at isInvalid
  cases isInvalid

theorem floor_of_closet
    {rooms : RoomCostmaps ℚ}
    {floor : String}
    (only : rooms.entries.map Prod.fst = ["floor/closet"])
    (changed : rooms.changedOn floor ≠ []) :
    floor = getFloorFromRoomId "floor/closet" ∧
      ∀ roomId ∈ rooms.changedOn floor, roomId = "floor/closet" := by
  have isCloset : ∀ roomId ∈ rooms.changedOn floor,
      roomId = "floor/closet" := by
    intro roomId isChanged
    obtain ⟨info, found, -, -⟩ := RoomCostmaps.mem_changedOn.mp isChanged
    have isMember : roomId ∈ rooms.entries.map Prod.fst :=
      List.mem_map_of_mem (RoomCostmaps.find_eq_some_iff.mp found)
    rw [only] at isMember
    exact List.mem_singleton.mp isMember
  obtain ⟨roomId, isChanged⟩ := List.exists_mem_of_ne_nil _ changed
  obtain ⟨_, -, onFloor, -⟩ := RoomCostmaps.mem_changedOn.mp isChanged
  exact ⟨isCloset roomId isChanged ▸ onFloor.symm, isCloset⟩

/-- A floor is built, and a change of its room then reaches it. -/
theorem closet_change_reaches_floor :
    ∃ pending, "floor/closet" ∈ pending ∧
      UpdateReachesFloors
        ⟨publishCostmap builtNode (closetChange 120), pending⟩ := by
  have buildable :
      FloorsUpdatable (publishCostmap closetNode (closetChange 100)) := by
    intro floor changed
    obtain ⟨rfl, -⟩ := floor_of_closet (by decide +kernel) changed
    refine ⟨List.all_eq_true.mp (by decide +kernel), ?_⟩
    intro first rest costmaps room isMember
    have only :
        (publishCostmap closetNode (closetChange 100)).roomCostmaps.costmapsOnFloor
          (getFloorFromRoomId "floor/closet") =
          [("floor/closet", closetCostmap 100)] := by
      decide +kernel
    obtain ⟨rfl, rfl⟩ : first = ("floor/closet", closetCostmap 100) ∧
        rest = [] := by
      simpa using costmaps.symm.trans only
    obtain rfl := List.mem_singleton.mp isMember
    decide +kernel
  have updatable :
      FloorsUpdatable (publishCostmap builtNode (closetChange 120)) := by
    intro floor changed
    obtain ⟨rfl, isCloset⟩ := floor_of_closet (by decide +kernel) changed
    have entry :
        (builtNode.floorCostmapCache
          (getFloorFromRoomId "floor/closet")).map
            (fun held => (held.isValid, held.roomRegions "floor/closet",
              held.costmap.toGrid)) =
          some (true, some ⟨0, 0, 1, 1⟩, (closetCostmap 0).toGrid) := by
      decide +kernel
    obtain ⟨held, isHeld, same⟩ := Option.map_eq_some_iff.mp entry
    obtain ⟨valid, hasRegion, onGrid⟩ :
        held.isValid = true ∧
          held.roomRegions "floor/closet" = some ⟨0, 0, 1, 1⟩ ∧
          held.costmap.toGrid = (closetCostmap 0).toGrid := by
      simpa using same
    rw [show (publishCostmap builtNode (closetChange 120)).floorCostmapCache
      (getFloorFromRoomId "floor/closet") = some held from isHeld]
    refine ⟨valid, ?_, ?_⟩
    · intro roomId isChanged
      obtain rfl := isCloset roomId isChanged
      refine ⟨⟨some (closetCostmap 120), some true, true, true⟩,
        closetCostmap 120, ⟨0, 0, 1, 1⟩, by decide +kernel, by decide +kernel,
        hasRegion, ?_, ?_⟩
      · rw [onGrid]
        decide +kernel
      · rw [onGrid]
        exact ⟨one_pos, rfl, le_refl _, le_refl _⟩
    · rintro - ⟨roomId, info⟩ isMember
      have isCloset :
          (publishCostmap builtNode (closetChange 120)).roomCostmaps.onFloor
            (getFloorFromRoomId "floor/closet") =
            [("floor/closet",
              ⟨some (closetCostmap 120), some true, true, true⟩)] := by
        decide +kernel
      rw [isCloset] at isMember
      cases List.mem_singleton.mp isMember
      rw [hasRegion]
      rfl
  have hasCloset :
      (builtNode.roomCostmaps.find "floor/closet").isSome = true := by
    decide +kernel
  obtain ⟨pending, built⟩ := builtNode_run buildable
  exact ⟨_, Set.mem_insert _ _, updates_reach_floors _
    (.publish (closetChange 120) built hasCloset) updatable⟩

end NavBim
