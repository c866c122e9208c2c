import NavBim.FloorCostmap

namespace NavBim

/-!
# Merging instead of rebuilding

Changed rooms are merged into the old floor costmap, and merging never lowers a
cost.  So the costmap held for a floor stays the one that would be built from
the rooms as they are now, as long as no known cost gets lost and every room
stays where it is.  A cost that falls remains on the floor.
-/

section Statement

variable {K : Type} [Field K] [LinearOrder K] [FloorRing K]

/-- The highest known cost the rooms have in a cell, free if there is none. -/
structure HighestCost
    (grid : Grid K)
    (rooms : List (String × Costmap2D K))
    (x y : Nat)
    (cost : UInt8) : Prop where
  upper : ∀ room ∈ rooms, ∀ shown, Shows grid room.2 x y shown → shown ≤ cost
  attained : cost = freeSpace ∨ ∃ room ∈ rooms, Shows grid room.2 x y cost

/-- The rooms of a floor that are ready have the same resolution. -/
def CommonResolution
    (resolution : String → K)
    (rooms : RoomCostmaps K) : Prop :=
  ∀ roomId info map, rooms.find roomId = some info →
    readyCostmap info = some map →
    map.resolution = resolution (getFloorFromRoomId roomId)

/-- A room is changed, and then the floors are updated. -/
def changeRoom
    (node : MultiCostmap2D K)
    (change : RoomChange K) : MultiCostmap2D K :=
  updateFloorCostmaps (publishCostmap node change)

def changeRooms
    (node : MultiCostmap2D K)
    (changes : List (RoomChange K)) : MultiCostmap2D K :=
  changes.foldl changeRoom node

/-- The condition holds at every change, in the state it is made in. -/
def EveryChange
    (condition : MultiCostmap2D K → RoomChange K → Prop) :
    MultiCostmap2D K → List (RoomChange K) → Prop
  | _, [] => True
  | node, change :: rest =>
      condition node change ∧
        EveryChange condition (changeRoom node change) rest

/-- The change is one of a room the node has, with the floor's resolution. -/
structure ChangesRoom
    (resolution : String → K)
    (node : MultiCostmap2D K)
    (change : RoomChange K) : Prop where
  room : ∃ info, node.roomCostmaps.find change.roomId = some info
  resolution : ∀ info map, readyCostmap (change.apply info) = some map →
    map.resolution = resolution (getFloorFromRoomId change.roomId)

/-- The room stays where it is in the floor's costmap, and whatever cost it had
in a cell of the floor, some room has at least this cost there afterwards. -/
structure KeepsCosts
    (node : MultiCostmap2D K)
    (change : RoomChange K)
    (held : FloorCostmapCache K) : Prop where
  region : (held.roomRegions change.roomId).isSome = true
  grid : ∃ info old, node.roomCostmaps.find change.roomId = some info ∧
    info.layeredCostmap = some old ∧
    change.costmap.toGrid = old.toGrid ∧
    ∀ x y cost, Shows held.costmap.toGrid old x y cost → cost ≠ freeSpace →
      ∃ room ∈ (publishCostmap node change).roomCostmaps.costmapsOnFloor
          (getFloorFromRoomId change.roomId),
        ∃ shown, cost ≤ shown ∧
          Shows held.costmap.toGrid room.2 x y shown

/-- Once its floor has a costmap, a room only changes in a way that keeps the
costs. -/
def KeepsFloor
    (node : MultiCostmap2D K)
    (change : RoomChange K) : Prop :=
  ∀ held,
    node.floorCostmapCache (getFloorFromRoomId change.roomId) = some held →
      KeepsCosts node change held

end Statement

section Invariant

variable {K : Type} [Field K] [LinearOrder K] [FloorRing K]

/-- What holds of a floor costmap and the rooms of its floor.  A room that is
not ready may have costs that were not merged. -/
structure FloorHeld
    (rooms : RoomCostmaps K)
    (floor : String)
    (held : FloorCostmapCache K)
    (first : String × Costmap2D K)
    (rest : List (String × Costmap2D K)) : Prop where
  valid : held.isValid = true
  costmaps : rooms.costmapsOnFloor floor = first :: rest
  grid : held.costmap.toGrid = roomsGrid first rest
  regions : held.roomRegions = (buildFloorCostmap first rest).roomRegions
  settled : rooms.changedOn floor = []
  known : held.costmap.Known
  placed : ∀ room ∈ first :: rest,
    Placed held.costmap.toGrid room.2.toGrid
  lower : ∀ roomId info map, rooms.find roomId = some info →
    getFloorFromRoomId roomId = floor →
    readyCostmap info = some map →
    ∀ x < held.costmap.sizeX, ∀ y < held.costmap.sizeY, ∀ cost,
      Shows held.costmap.toGrid map x y cost →
        cost ≤ held.costmap.getCost x y
  upper : ∀ x < held.costmap.sizeX, ∀ y < held.costmap.sizeY,
    held.costmap.getCost x y ≠ freeSpace →
      ∃ room ∈ first :: rest, ∃ shown,
        held.costmap.getCost x y ≤ shown ∧
          Shows held.costmap.toGrid room.2 x y shown

/-- Every floor costmap fits the rooms. -/
def FloorsHeld
    (node : MultiCostmap2D K) : Prop :=
  ∀ floor held, node.floorCostmapCache floor = some held →
    ∃ first rest, FloorHeld node.roomCostmaps floor held first rest

variable {rooms : RoomCostmaps K} {floor : String}
  {held : FloorCostmapCache K}
  {first : String × Costmap2D K} {rest : List (String × Costmap2D K)}

theorem buildFloorCostmap_merged
    (first : String × Costmap2D K)
    (rest : List (String × Costmap2D K)) :
    Costmap2D.Merged (Costmap2D.filled (roomsGrid first rest) freeSpace)
      (buildFloorCostmap first rest).costmap
      (fun x y cost => ∃ room ∈ first :: rest,
        Shows (roomsGrid first rest) room.2 x y cost) := by
  have known : (Costmap2D.filled (roomsGrid first rest) freeSpace).Known := by
    intro x xInside y yInside
    rw [Costmap2D.getCost_filled xInside yInside]
    decide
  have merged := mergeRooms_merged ((first :: rest).map Prod.snd) known
  refine merged.congr ?_
  intro x _ y _ cost
  constructor
  · rintro ⟨map, isMember, isShown⟩
    obtain ⟨room, roomMember, rfl⟩ := List.mem_map.mp isMember
    exact ⟨room, roomMember, isShown⟩
  · rintro ⟨room, isMember, isShown⟩
    exact ⟨room.2, List.mem_map_of_mem isMember, isShown⟩

/-- A cell that is built has the highest known cost of the rooms there. -/
theorem buildFloorCostmap_highest
    (first : String × Costmap2D K)
    (rest : List (String × Costmap2D K))
    {x y : Nat}
    (xInside : x < (buildFloorCostmap first rest).costmap.sizeX)
    (yInside : y < (buildFloorCostmap first rest).costmap.sizeY) :
    HighestCost (buildFloorCostmap first rest).costmap.toGrid (first :: rest)
      x y ((buildFloorCostmap first rest).costmap.getCost x y) := by
  have merged := buildFloorCostmap_merged first rest
  rw [merged.grid] at xInside yInside ⊢
  obtain ⟨-, upper⟩ :=
    (merged.le_iff x xInside y yInside _).mp (UInt8.le_refl _)
  refine ⟨fun room isMember shown isShown =>
    upper shown ⟨room, isMember, isShown⟩, ?_⟩
  have attained := merged.attained xInside yInside
  rwa [Costmap2D.getCost_filled xInside yInside] at attained

end Invariant

section Publishing

variable {K : Type} {node : MultiCostmap2D K} {change : RoomChange K}
  {floor : String}

/-- What a change does to the list of a floor's costmaps. -/
def RoomChange.replace
    (change : RoomChange K)
    (room : String × Costmap2D K) : String × Costmap2D K :=
  if room.1 = change.roomId then (room.1, change.costmap) else room

theorem find_publishCostmap
    (roomId : String) :
    (publishCostmap node change).roomCostmaps.find roomId =
      (node.roomCostmaps.find roomId).map fun info =>
        if roomId = change.roomId then change.apply info else info :=
  RoomCostmaps.find_modify

theorem find_publishCostmap_same
    {info : RoomCostmapInfo K}
    (found : node.roomCostmaps.find change.roomId = some info) :
    (publishCostmap node change).roomCostmaps.find change.roomId =
      some (change.apply info) := by
  rw [find_publishCostmap, found]
  simp

theorem find_publishCostmap_other
    {roomId : String}
    (other : roomId ≠ change.roomId) :
    (publishCostmap node change).roomCostmaps.find roomId =
      node.roomCostmaps.find roomId := by
  rw [find_publishCostmap]
  simp [other]

theorem costmapsOnFloor_publishCostmap
    (hadCostmap : ∀ info, node.roomCostmaps.find change.roomId = some info →
      getFloorFromRoomId change.roomId = floor →
        info.layeredCostmap.isSome = true) :
    (publishCostmap node change).roomCostmaps.costmapsOnFloor floor =
      (node.roomCostmaps.costmapsOnFloor floor).map change.replace := by
  simp only [RoomCostmaps.costmapsOnFloor, publishCostmap,
    RoomCostmaps.onFloor_modify, List.filterMap_map, List.map_filterMap]
  apply List.filterMap_congr
  rintro ⟨roomId, info⟩ isMember
  obtain ⟨found, onFloor⟩ := RoomCostmaps.mem_onFloor.mp isMember
  by_cases isChanged : roomId = change.roomId
  · subst isChanged
    obtain ⟨old, hasCostmap⟩ :=
      Option.isSome_iff_exists.mp (hadCostmap info found onFloor)
    simp [hasCostmap, RoomChange.replace, RoomChange.apply]
  · simp [isChanged, RoomChange.replace, Function.comp_def]

theorem mem_changedOn_publishCostmap
    {roomId : String}
    (isChanged :
      roomId ∈ (publishCostmap node change).roomCostmaps.changedOn floor) :
    roomId ∈ node.roomCostmaps.changedOn floor ∨ roomId = change.roomId := by
  obtain ⟨info, found, onFloor, flag⟩ :=
    RoomCostmaps.mem_changedOn.mp isChanged
  by_cases isSame : roomId = change.roomId
  · exact .inr isSame
  · rw [find_publishCostmap_other isSame] at found
    exact .inl (RoomCostmaps.mem_changedOn.mpr ⟨info, found, onFloor, flag⟩)

theorem changedOn_publishCostmap_other
    (settled : node.roomCostmaps.changedOn floor = [])
    (otherFloor : getFloorFromRoomId change.roomId ≠ floor) :
    (publishCostmap node change).roomCostmaps.changedOn floor = [] := by
  apply List.eq_nil_iff_forall_not_mem.mpr
  intro roomId isChanged
  obtain ⟨_, -, onFloor, -⟩ := RoomCostmaps.mem_changedOn.mp isChanged
  rcases mem_changedOn_publishCostmap isChanged with before | rfl
  · simp [settled] at before
  · exact otherFloor onFloor

theorem changedOn_publishCostmap
    {info : RoomCostmapInfo K}
    (found : node.roomCostmaps.find change.roomId = some info)
    (settled : node.roomCostmaps.changedOn
      (getFloorFromRoomId change.roomId) = []) :
    (publishCostmap node change).roomCostmaps.changedOn
      (getFloorFromRoomId change.roomId) = [change.roomId] := by
  have marked : change.roomId ∈
      (publishCostmap node change).roomCostmaps.changedOn
        (getFloorFromRoomId change.roomId) :=
    RoomCostmaps.mem_changedOn.mpr
      ⟨_, find_publishCostmap_same found, rfl, rfl⟩
  apply List.perm_singleton.mp
  apply (List.perm_ext_iff_of_nodup (RoomCostmaps.changedOn_nodup _ _)
    (List.nodup_singleton _)).mpr
  intro roomId
  rw [List.mem_singleton]
  constructor
  · intro isChanged
    rcases mem_changedOn_publishCostmap isChanged with before | isSame
    · simp [settled] at before
    · exact isSame
  · rintro rfl
    exact marked

variable {resolution : String → K}

theorem CommonResolution.changed
    (common : CommonResolution resolution node.roomCostmaps)
    (changes : ChangesRoom resolution node change) :
    CommonResolution resolution
      (publishCostmap node change).roomCostmaps := by
  intro roomId info map found ready
  by_cases isChanged : roomId = change.roomId
  · subst isChanged
    obtain ⟨before, wasFound⟩ := changes.room
    obtain rfl : change.apply before = info :=
      Option.some.inj ((find_publishCostmap_same wasFound).symm.trans found)
    exact changes.resolution before map ready
  · rw [find_publishCostmap_other isChanged] at found
    exact common roomId info map found ready

end Publishing

section Steps

variable {K : Type} [Field K] [LinearOrder K] [FloorRing K]
variable {node : MultiCostmap2D K} {change : RoomChange K} {floor : String}
  {held : FloorCostmapCache K}
  {first : String × Costmap2D K} {rest : List (String × Costmap2D K)}

omit [FloorRing K] [LinearOrder K] [Field K] in
@[simp] theorem RoomChange.replace_fst
    (room : String × Costmap2D K) :
    (change.replace room).1 = room.1 := by
  unfold RoomChange.replace
  split <;> rfl

section

variable
  (grids : ∀ room ∈ first :: rest,
    (change.replace room).2.toGrid = room.2.toGrid)

include grids

theorem roomsGrid_replace :
    roomsGrid (change.replace first) (rest.map change.replace) =
      roomsGrid first rest := by
  have others :
      (rest.map change.replace).map (fun room => room.2.toGrid) =
        rest.map fun room => room.2.toGrid := by
    rw [List.map_map]
    exact List.map_congr_left fun room isMember =>
      grids room (List.mem_cons_of_mem _ isMember)
  rw [roomsGrid, grids first List.mem_cons_self, others, roomsGrid]

theorem roomRegions_replace :
    (buildFloorCostmap (change.replace first)
        (rest.map change.replace)).roomRegions =
      (buildFloorCostmap first rest).roomRegions := by
  funext roomId
  simp only [buildFloorCostmap, roomsGrid_replace grids, ← List.map_cons,
    List.find?_map, Function.comp_def, RoomChange.replace_fst]
  cases found : (first :: rest).find? fun room => room.1 = roomId with
  | none => rfl
  | some room =>
      simp [grids room (List.mem_of_find?_eq_some found)]

end

section

variable
  (keeps : KeepsCosts node change held)
  (fits : FloorHeld node.roomCostmaps (getFloorFromRoomId change.roomId)
    held first rest)

include keeps fits

theorem KeepsCosts.grids :
    ∀ room ∈ first :: rest,
      (change.replace room).2.toGrid = room.2.toGrid := by
  obtain ⟨info, old, found, hasCostmap, sameGrid, -⟩ := keeps.grid
  rintro ⟨roomId, map⟩ isMember
  by_cases isChanged : roomId = change.roomId
  · subst isChanged
    rw [← fits.costmaps] at isMember
    obtain ⟨info', found', -, hasCostmap'⟩ :=
      RoomCostmaps.mem_costmapsOnFloor.mp isMember
    obtain rfl : info' = info := Option.some.inj (found'.symm.trans found)
    obtain rfl : map = old :=
      Option.some.inj (hasCostmap'.symm.trans hasCostmap)
    simpa [RoomChange.replace] using sameGrid
  · simp [RoomChange.replace, isChanged]

theorem KeepsCosts.costmapsOnFloor :
    (publishCostmap node change).roomCostmaps.costmapsOnFloor
        (getFloorFromRoomId change.roomId) =
      change.replace first :: rest.map change.replace := by
  obtain ⟨oldInfo, old, found, hasCostmap, -, -⟩ := keeps.grid
  rw [costmapsOnFloor_publishCostmap, fits.costmaps, List.map_cons]
  intro info found' _
  obtain rfl : oldInfo = info := Option.some.inj (found.symm.trans found')
  rw [hasCostmap]
  rfl

theorem KeepsCosts.still_shown
    {room : String × Costmap2D K}
    (isMember : room ∈ first :: rest)
    {x y : Nat}
    {shown : UInt8}
    (isShown : Shows held.costmap.toGrid room.2 x y shown)
    (notFree : shown ≠ freeSpace) :
    ∃ other ∈ change.replace first :: rest.map change.replace,
      ∃ higher, shown ≤ higher ∧
        Shows held.costmap.toGrid other.2 x y higher := by
  obtain ⟨roomId, map⟩ := room
  by_cases isChanged : roomId = change.roomId
  · -- the room that showed the cost has changed, so another one shows it
    subst isChanged
    obtain ⟨oldInfo, old, found, hasCostmap, -, covered⟩ := keeps.grid
    rw [← fits.costmaps] at isMember
    obtain ⟨info, found', -, hasCostmap'⟩ :=
      RoomCostmaps.mem_costmapsOnFloor.mp isMember
    obtain rfl : info = oldInfo := Option.some.inj (found'.symm.trans found)
    obtain rfl : map = old :=
      Option.some.inj (hasCostmap'.symm.trans hasCostmap)
    obtain ⟨other, newMember, higher, bound, isShown'⟩ :=
      covered x y shown isShown notFree
    rw [keeps.costmapsOnFloor fits] at newMember
    exact ⟨other, newMember, higher, bound, isShown'⟩
  · refine ⟨(roomId, map), ?_, shown, UInt8.le_refl _, isShown⟩
    rw [← List.map_cons]
    exact List.mem_map.mpr
      ⟨(roomId, map), isMember, by simp [RoomChange.replace, isChanged]⟩

end

theorem FloorHeld.changed
    {after : Costmap2D K}
    {written : Nat → Nat → UInt8 → Prop}
    (fits : FloorHeld node.roomCostmaps (getFloorFromRoomId change.roomId)
      held first rest)
    (keeps : KeepsCosts node change held)
    (merged : Costmap2D.Merged held.costmap after written)
    (sound : ∀ x y cost, written x y cost →
      Shows held.costmap.toGrid change.costmap x y cost)
    (complete : ∀ info,
      node.roomCostmaps.find change.roomId = some info →
      (readyCostmap (change.apply info)).isSome = true →
        ∀ x y cost, Shows held.costmap.toGrid change.costmap x y cost →
          written x y cost) :
    FloorHeld (clearChanged (publishCostmap node change).roomCostmaps)
      (getFloorFromRoomId change.roomId)
      { held with costmap := after }
      (change.replace first) (rest.map change.replace) := by
  have grids := keeps.grids fits
  have costmaps := keeps.costmapsOnFloor fits
  obtain ⟨oldInfo, -, found, -, -, -⟩ := keeps.grid
  have onGrid : after.toGrid = held.costmap.toGrid := merged.grid
  have changedMember : (change.roomId, change.costmap) ∈
      change.replace first :: rest.map change.replace := by
    rw [← costmaps]
    exact RoomCostmaps.mem_costmapsOnFloor.mpr
      ⟨_, find_publishCostmap_same found, rfl, rfl⟩
  constructor
  case valid => exact fits.valid
  case costmaps => rw [costmapsOnFloor_clearChanged, costmaps]
  case grid =>
    exact onGrid.trans (fits.grid.trans (roomsGrid_replace grids).symm)
  case regions => exact fits.regions.trans (roomRegions_replace grids).symm
  case settled => exact changedOn_clearChanged _ _
  case known => exact merged.known
  case placed =>
    rw [← List.map_cons]
    intro room isMember
    obtain ⟨before, wasMember, rfl⟩ := List.mem_map.mp isMember
    rw [grids before wasMember]
    exact onGrid ▸ fits.placed before wasMember
  case lower =>
    intro roomId info map isFound onFloor ready
    show ∀ x < after.sizeX, ∀ y < after.sizeY, ∀ cost,
      Shows after.toGrid map x y cost → cost ≤ after.getCost x y
    rw [onGrid]
    intro x xInside y yInside cost isShown
    obtain ⟨old', costs⟩ :=
      (merged.le_iff x xInside y yInside _).mp (UInt8.le_refl _)
    obtain ⟨before, wasFound, rfl⟩ :=
      Option.map_eq_some_iff.mp ((find_clearChanged _ _).symm.trans isFound)
    by_cases isChanged : roomId = change.roomId
    · subst isChanged
      obtain rfl : change.apply oldInfo = before :=
        Option.some.inj ((find_publishCostmap_same found).symm.trans wasFound)
      obtain rfl : change.costmap = map :=
        Option.some.inj (layeredCostmap_of_ready ready)
      exact costs cost
        (complete oldInfo found (Option.isSome_iff_exists.mpr ⟨_, ready⟩)
          x y cost isShown)
    · rw [find_publishCostmap_other isChanged] at wasFound
      exact UInt8.le_trans
        (fits.lower roomId before map wasFound onFloor ready
          x xInside y yInside cost isShown) old'
  case upper =>
    show ∀ x < after.sizeX, ∀ y < after.sizeY, after.getCost x y ≠ freeSpace →
      ∃ room ∈ change.replace first :: rest.map change.replace, ∃ shown,
        after.getCost x y ≤ shown ∧ Shows after.toGrid room.2 x y shown
    rw [onGrid]
    intro x xInside y yInside notFree
    rcases merged.attained xInside yInside with isOld | isWritten
    · rw [isOld] at notFree ⊢
      obtain ⟨room, isMember, shown, bound, isShown⟩ :=
        fits.upper x xInside y yInside notFree
      have shownNotFree : shown ≠ freeSpace := by
        rintro rfl
        apply notFree
        apply UInt8.le_antisymm bound
        exact UInt8.le_iff_toNat_le.mpr (Nat.zero_le _)
      obtain ⟨other, newMember, higher, bound', isShown'⟩ :=
        keeps.still_shown fits isMember isShown shownNotFree
      exact ⟨other, newMember, higher, UInt8.le_trans bound bound', isShown'⟩
    · exact ⟨_, changedMember, _, UInt8.le_refl _, sound x y _ isWritten⟩

theorem FloorHeld.region_eq
    {roomId : String}
    {map : Costmap2D K}
    {region : RoomRegion}
    {rooms : RoomCostmaps K}
    (fits : FloorHeld rooms floor held first rest)
    (isMember : (roomId, map) ∈ first :: rest)
    (hasRegion : held.roomRegions roomId = some region) :
    roomRegion held.costmap.toGrid map.toGrid = some region := by
  rw [fits.regions] at hasRegion
  obtain ⟨⟨otherId, other⟩, isFirst, atRoom⟩ :=
    Option.bind_eq_some_iff.mp hasRegion
  obtain rfl : otherId = roomId := by
    simpa using List.find?_some isFirst
  have otherMember := List.mem_of_find?_eq_some isFirst
  rw [← fits.costmaps] at isMember otherMember
  obtain ⟨info, found, -, hasCostmap⟩ :=
    RoomCostmaps.mem_costmapsOnFloor.mp isMember
  obtain ⟨info', found', -, hasCostmap'⟩ :=
    RoomCostmaps.mem_costmapsOnFloor.mp otherMember
  obtain rfl : info = info' := Option.some.inj (found.symm.trans found')
  obtain rfl : map = other :=
    Option.some.inj (hasCostmap.symm.trans hasCostmap')
  rw [fits.grid]
  exact atRoom

theorem FloorHeld.otherFloor
    (fits : FloorHeld node.roomCostmaps floor held first rest)
    (otherFloor : getFloorFromRoomId change.roomId ≠ floor) :
    FloorHeld (clearChanged (publishCostmap node change).roomCostmaps) floor
      held first rest where
  valid := fits.valid
  costmaps := by
    have unchanged : ∀ room ∈ first :: rest, change.replace room = room := by
      rintro ⟨roomId, map⟩ isMember
      rw [← fits.costmaps] at isMember
      obtain ⟨_, -, onFloor, -⟩ :=
        RoomCostmaps.mem_costmapsOnFloor.mp isMember
      have isOther : roomId ≠ change.roomId := by
        rintro rfl
        exact otherFloor onFloor
      simp [RoomChange.replace, isOther]
    rw [costmapsOnFloor_clearChanged, costmapsOnFloor_publishCostmap
      (fun _ _ onFloor => absurd onFloor otherFloor), fits.costmaps]
    exact (List.map_congr_left unchanged).trans (List.map_id _)
  grid := fits.grid
  regions := fits.regions
  settled := changedOn_clearChanged _ _
  known := fits.known
  placed := fits.placed
  lower := by
    intro roomId info map isFound onFloor ready
    obtain ⟨before, wasFound, rfl⟩ :=
      Option.map_eq_some_iff.mp ((find_clearChanged _ _).symm.trans isFound)
    have isOther : roomId ≠ change.roomId := by
      rintro rfl
      exact otherFloor onFloor
    rw [find_publishCostmap_other isOther] at wasFound
    exact fits.lower roomId before map wasFound onFloor ready
  upper := fits.upper

variable [IsStrictOrderedRing K] {resolution : String → K}
  {rooms : RoomCostmaps K}

theorem FloorHeld.built
    (positive : 0 < resolution floor)
    (common : CommonResolution resolution rooms)
    (allReady : AllReady rooms floor)
    (costmaps : rooms.costmapsOnFloor floor = first :: rest) :
    FloorHeld (clearChanged rooms) floor (buildFloorCostmap first rest)
      first rest := by
  have merged := buildFloorCostmap_merged first rest
  have resolutions : ∀ room ∈ first :: rest,
      room.2.resolution = resolution floor := by
    rintro ⟨roomId, map⟩ isMember
    rw [← costmaps] at isMember
    obtain ⟨info, found, onFloor, hasCostmap⟩ :=
      RoomCostmaps.mem_costmapsOnFloor.mp isMember
    obtain ⟨readyMap, isReady⟩ := Option.isSome_iff_exists.mp
      (allReady _ (RoomCostmaps.mem_onFloor.mpr ⟨found, onFloor⟩))
    obtain rfl : readyMap = map :=
      Option.some.inj ((layeredCostmap_of_ready isReady).symm.trans hasCostmap)
    rw [← onFloor]
    exact common roomId info readyMap found isReady
  have firstResolution := resolutions first List.mem_cons_self
  have highest := fun x xInside y yInside =>
    buildFloorCostmap_highest first rest (x := x) (y := y) xInside yInside
  constructor
  case valid => rfl
  case costmaps => rw [costmapsOnFloor_clearChanged, costmaps]
  case grid => exact merged.grid
  case regions => rfl
  case settled => exact changedOn_clearChanged _ _
  case known => exact merged.known
  case placed =>
    intro room isMember
    rw [show (buildFloorCostmap first rest).costmap.toGrid = _ from merged.grid]
    refine placed_floorGrid (firstResolution ▸ positive) ?_ room.2.toGrid ?_
    · intro grid isGrid
      obtain ⟨other, otherMember, rfl⟩ := List.mem_map.mp isGrid
      exact (resolutions other (List.mem_cons_of_mem _ otherMember)).trans
        firstResolution.symm
    · rcases List.mem_cons.mp isMember with rfl | later
      · exact List.mem_cons_self
      · exact List.mem_cons_of_mem _ (List.mem_map_of_mem later)
  case lower =>
    intro roomId info map isFound onFloor ready x xInside y yInside cost isShown
    obtain ⟨before, wasFound, rfl⟩ :=
      Option.map_eq_some_iff.mp ((find_clearChanged _ _).symm.trans isFound)
    have isMember : (roomId, map) ∈ first :: rest := by
      rw [← costmaps]
      exact RoomCostmaps.mem_costmapsOnFloor.mpr
        ⟨before, wasFound, onFloor, layeredCostmap_of_ready ready⟩
    exact (highest x xInside y yInside).upper _ isMember cost isShown
  case upper =>
    intro x xInside y yInside notFree
    obtain ⟨room, isMember, isShown⟩ :=
      (highest x xInside y yInside).attained.resolve_left notFree
    exact ⟨room, isMember, _, UInt8.le_refl _, isShown⟩

theorem FloorHeld.updated
    (fits : FloorHeld node.roomCostmaps (getFloorFromRoomId change.roomId)
      held first rest)
    (keeps : KeepsCosts node change held) :
    ∃ after,
      updateFloor (publishCostmap node change).roomCostmaps
          (getFloorFromRoomId change.roomId) [change.roomId] (some held) =
        some { held with costmap := after } ∧
      FloorHeld (clearChanged (publishCostmap node change).roomCostmaps)
        (getFloorFromRoomId change.roomId)
        { held with costmap := after }
        (change.replace first) (rest.map change.replace) := by
  obtain ⟨info, old, found, hasCostmap, sameGrid, -⟩ := keeps.grid
  have foundAfter := find_publishCostmap_same found
  obtain ⟨region, hasRegion⟩ := Option.isSome_iff_exists.mp keeps.region
  have oldMember : (change.roomId, old) ∈ first :: rest := by
    rw [← fits.costmaps]
    exact RoomCostmaps.mem_costmapsOnFloor.mpr ⟨info, found, rfl, hasCostmap⟩
  have step :
      updateFloor (publishCostmap node change).roomCostmaps
          (getFloorFromRoomId change.roomId) [change.roomId] (some held) =
        updateFloorCostmapRegion (publishCostmap node change).roomCostmaps
          (some held) change.roomId := by
    simp [updateFloor, fits.valid]
  cases ready : readyCostmap (change.apply info) with
  | none =>
      refine ⟨held.costmap, ?_, ?_⟩
      · rw [step, updateFloorCostmapRegion_of_not_ready]
        rw [foundAfter]
        exact ready
      · have nothing : Costmap2D.Merged held.costmap held.costmap
            (fun _ _ _ => False) :=
          .none fits.known (by simp)
        refine fits.changed keeps nothing (by simp) ?_
        intro info' found' isReady
        obtain rfl : info = info' := Option.some.inj (found.symm.trans found')
        rw [ready] at isReady
        cases isReady
  | some map =>
      obtain rfl : change.costmap = map :=
        Option.some.inj (layeredCostmap_of_ready ready)
      have atRoom :
          roomRegion held.costmap.toGrid change.costmap.toGrid =
            some region := by
        rw [sameGrid]
        exact fits.region_eq oldMember hasRegion
      refine ⟨mergeRegion region held.costmap change.costmap, ?_, ?_⟩
      · rw [step]
        exact updateFloorCostmapRegion_eq foundAfter ready fits.valid hasRegion
          atRoom
      · refine fits.changed keeps
          (mergeRegion_merged ?_ atRoom fits.known) (fun _ _ _ shown => shown)
          (fun _ _ _ _ _ _ shown => shown)
        rw [sameGrid]
        exact fits.placed _ oldMember

/-- The floors that could be built have a costmap. -/
def Attempted
    (node : MultiCostmap2D K)
    (floor : String) : Prop :=
  (createFloorCostmap node.roomCostmaps floor none).2.isSome = true →
    (node.floorCostmapCache floor).isSome = true

omit [IsStrictOrderedRing K]

/-- An update looks at the floor of the changed room. -/
theorem attempted_changeRoom
    {info : RoomCostmapInfo K}
    (found : node.roomCostmaps.find change.roomId = some info) :
    Attempted (changeRoom node change)
      (getFloorFromRoomId change.roomId) := by
  intro buildable
  have marked : change.roomId ∈
      (publishCostmap node change).roomCostmaps.changedOn
        (getFloorFromRoomId change.roomId) :=
    RoomCostmaps.mem_changedOn.mpr
      ⟨_, find_publishCostmap_same found, rfl, rfl⟩
  rw [changeRoom, updateFloorCostmaps_cache,
    if_neg (List.ne_nil_of_mem marked)]
  apply updateFloor_isSome
  rw [← createFloorCostmap_clearChanged]
  exact buildable

/-- Changes on other floors do not matter for building a floor. -/
theorem createFloorCostmap_otherFloor
    (otherFloor : getFloorFromRoomId change.roomId ≠ floor)
    (entry : Option (FloorCostmapCache K)) :
    createFloorCostmap (publishCostmap node change).roomCostmaps floor entry =
      createFloorCostmap node.roomCostmaps floor entry := by
  have sameRooms :
      (publishCostmap node change).roomCostmaps.onFloor floor =
        node.roomCostmaps.onFloor floor := by
    rw [publishCostmap, RoomCostmaps.onFloor_modify]
    refine (List.map_congr_left ?_).trans (List.map_id _)
    rintro ⟨roomId, info⟩ isMember
    obtain ⟨-, onFloor⟩ := RoomCostmaps.mem_onFloor.mp isMember
    have isOther : roomId ≠ change.roomId := by
      rintro rfl
      exact otherFloor onFloor
    simp [isOther]
  simp only [createFloorCostmap, RoomCostmaps.costmapsOnFloor, sameRooms]

theorem Attempted.changed
    {info : RoomCostmapInfo K}
    (found : node.roomCostmaps.find change.roomId = some info)
    (attempted : Attempted node floor) :
    Attempted (changeRoom node change) floor := by
  by_cases sameFloor : getFloorFromRoomId change.roomId = floor
  · subst sameFloor
    exact attempted_changeRoom found
  · intro buildable
    have before :
        (createFloorCostmap (publishCostmap node change).roomCostmaps floor
          none).2.isSome = true := by
      rw [← createFloorCostmap_clearChanged]
      exact buildable
    rw [changeRoom, updateFloorCostmaps_cache]
    split
    · rw [createFloorCostmap_otherFloor sameFloor] at before
      exact attempted before
    · exact updateFloor_isSome _ _ before

end Steps

section Runs

variable {K : Type} [Field K] [LinearOrder K] [FloorRing K]
  [IsStrictOrderedRing K]
variable {node : MultiCostmap2D K} {resolution : String → K}

/-- A change that keeps the costs, followed by an update. -/
theorem FloorsHeld.step
    {change : RoomChange K}
    (positive : ∀ floor, 0 < resolution floor)
    (common : CommonResolution resolution node.roomCostmaps)
    (changes : ChangesRoom resolution node change)
    (keeps : KeepsFloor node change)
    (fits : FloorsHeld node) :
    FloorsHeld (changeRoom node change) := by
  intro floor held isHeld
  have commonAfter := common.changed changes
  obtain ⟨info, found⟩ := changes.room
  rw [changeRoom, updateFloorCostmaps_cache] at isHeld
  cases wasHeld : node.floorCostmapCache floor with
  | none =>
      rw [show (publishCostmap node change).floorCostmapCache floor = none
        from wasHeld] at isHeld
      split at isHeld
      · cases isHeld
      · obtain ⟨allReady, first, rest, costmaps, rfl⟩ :=
          createFloorCostmap_eq_some_iff.mp isHeld
        exact ⟨first, rest,
          .built (positive floor) commonAfter allReady costmaps⟩
  | some before =>
      obtain ⟨first, rest, floorFits⟩ := fits floor before wasHeld
      rw [show (publishCostmap node change).floorCostmapCache floor =
        some before from wasHeld] at isHeld
      by_cases sameFloor : getFloorFromRoomId change.roomId = floor
      · subst sameFloor
        rw [changedOn_publishCostmap found floorFits.settled,
          if_neg (by simp)] at isHeld
        obtain ⟨after, isUpdated, fitsAfter⟩ :=
          floorFits.updated (keeps before wasHeld)
        rw [isUpdated] at isHeld
        cases isHeld
        exact ⟨_, _, fitsAfter⟩
      · rw [changedOn_publishCostmap_other floorFits.settled sameFloor,
          if_pos rfl] at isHeld
        cases isHeld
        exact ⟨first, rest, floorFits.otherFloor sameFloor⟩

/-- The invariant of a run, `seen` being the floors with a change so far. -/
structure RebuildInvariant
    (resolution : String → K)
    (seen : String → Prop)
    (node : MultiCostmap2D K) : Prop where
  common : CommonResolution resolution node.roomCostmaps
  fits : FloorsHeld node
  attempted : ∀ floor, seen floor → Attempted node floor

theorem RebuildInvariant.step
    {change : RoomChange K}
    {seen : String → Prop}
    (positive : ∀ floor, 0 < resolution floor)
    (invariant : RebuildInvariant resolution seen node)
    (changes : ChangesRoom resolution node change)
    (keeps : KeepsFloor node change) :
    RebuildInvariant resolution
      (fun floor => seen floor ∨ floor = getFloorFromRoomId change.roomId)
      (changeRoom node change) where
  common := by
    intro roomId info map found ready
    obtain ⟨before, wasFound, rfl⟩ :=
      Option.map_eq_some_iff.mp ((find_clearChanged _ _).symm.trans found)
    exact invariant.common.changed changes roomId before map wasFound ready
  fits := invariant.fits.step positive invariant.common changes keeps
  attempted := by
    obtain ⟨info, found⟩ := changes.room
    rintro floor (wasSeen | rfl)
    · exact (invariant.attempted floor wasSeen).changed found
    · exact attempted_changeRoom found

theorem RebuildInvariant.run
    {seen : String → Prop}
    (positive : ∀ floor, 0 < resolution floor)
    (changes : List (RoomChange K))
    (invariant : RebuildInvariant resolution seen node)
    (areChanges : EveryChange (ChangesRoom resolution) node changes)
    (keep : EveryChange KeepsFloor node changes) :
    RebuildInvariant resolution
      (fun floor => seen floor ∨
        ∃ change ∈ changes, floor = getFloorFromRoomId change.roomId)
      (changeRooms node changes) := by
  induction changes generalizing node seen with
  | nil =>
      exact ⟨invariant.common, invariant.fits, fun floor isSeen =>
        invariant.attempted floor (by simpa using isSeen)⟩
  | cons change rest inductionHypothesis =>
      have after := inductionHypothesis
        (invariant.step positive areChanges.1 keep.1) areChanges.2 keep.2
      refine ⟨after.common, after.fits, ?_⟩
      intro floor isSeen
      apply after.attempted floor
      simpa [or_assoc] using isSeen

end Runs

/-- A costmap of one cell. -/
def closetCostmap
    (cost : UInt8) : Costmap2D ℚ where
  sizeX := 1
  sizeY := 1
  resolution := 1
  originX := 0
  originY := 0
  costmap := #[cost]
  size_costmap := rfl

/-- A floor with one room of one cell, and no costmap for the floor yet. -/
def closetNode : MultiCostmap2D ℚ where
  roomCostmaps :=
    { entries :=
        [("floor/closet", ⟨some (closetCostmap noInformation), none, true, false⟩)]
      distinct := by simp }
  floorCostmapCache := fun _ => none

def closetChange
    (cost : UInt8) : RoomChange ℚ :=
  ⟨"floor/closet", closetCostmap cost, some true⟩

end NavBim
