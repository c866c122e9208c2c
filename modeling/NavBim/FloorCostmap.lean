import NavBim.Costmap2D
import NavBim.Numerals

namespace NavBim

/-!
# Floor costmaps

A floor costmap is put together from the costmaps of the floor's rooms.  It is
built once, when all rooms of the floor are ready, and from then on the rooms
that were published again are merged into it.

The node handles one callback at a time here, and it is not shutting down.  The
rooms come in the order of the hash map that holds them, which can be any
order.
-/

attribute [local instance] atLeastTwo_2

/-- Where a room lies in the costmap of its floor, in cells. -/
structure RoomRegion where
  xOffset : Nat
  yOffset : Nat
  width : Nat
  height : Nat
  deriving DecidableEq

/-- The costmap held for a floor. -/
structure FloorCostmapCache (K : Type) where
  costmap : Costmap2D K
  roomRegions : String → Option RoomRegion
  isValid : Bool

/-- What the node holds for a room.  `staticLayer` says whether the layer is
current, if there is one. -/
structure RoomCostmapInfo (K : Type) where
  layeredCostmap : Option (Costmap2D K)
  staticLayer : Option Bool
  isActive : Bool
  hasChangedSinceLastFloorUpdate : Bool
  deriving DecidableEq

/-- The rooms by their id, in some order. -/
structure RoomCostmaps (K : Type) where
  entries : List (String × RoomCostmapInfo K)
  distinct : (entries.map Prod.fst).Nodup

/-- The part of a room id before the slash names the floor. -/
def getFloorFromRoomId
    (roomId : String) : String :=
  String.ofList (roomId.toList.takeWhile (· != '/'))

namespace RoomCostmaps

variable {K : Type} (rooms : RoomCostmaps K)

def find
    (roomId : String) : Option (RoomCostmapInfo K) :=
  (rooms.entries.find? fun room => room.1 = roomId).map Prod.snd

/-- Change what is held for the rooms. -/
def modify
    (change : String → RoomCostmapInfo K → RoomCostmapInfo K) :
    RoomCostmaps K where
  entries := rooms.entries.map fun room => (room.1, change room.1 room.2)
  distinct := by simpa [Function.comp_def] using rooms.distinct

/-- Put a room under an id, in place of the one that was there. -/
def insert
    (roomId : String)
    (info : RoomCostmapInfo K) : RoomCostmaps K where
  entries := (roomId, info) ::
    rooms.entries.filter fun room => room.1 ≠ roomId
  distinct := by
    have kept : ((rooms.entries.filter fun room => room.1 ≠ roomId).map
        Prod.fst).Nodup :=
      rooms.distinct.sublist ((List.filter_sublist).map Prod.fst)
    rw [List.map_cons, List.nodup_cons]
    exact ⟨by simp, kept⟩

def onFloor
    (floor : String) : List (String × RoomCostmapInfo K) :=
  rooms.entries.filter fun room => getFloorFromRoomId room.1 = floor

/-- The costmaps of the rooms of a floor. -/
def costmapsOnFloor
    (floor : String) : List (String × Costmap2D K) :=
  (rooms.onFloor floor).filterMap fun room =>
    room.2.layeredCostmap.map fun map => (room.1, map)

/-- The rooms marked as changed. -/
def changed : List String :=
  (rooms.entries.filter
    fun room => room.2.hasChangedSinceLastFloorUpdate).map Prod.fst

/-- The changed rooms of a floor. -/
def changedOn
    (floor : String) : List String :=
  rooms.changed.filter fun roomId => getFloorFromRoomId roomId = floor

variable {rooms} {roomId floor : String}
  {info : RoomCostmapInfo K}
  {change : String → RoomCostmapInfo K → RoomCostmapInfo K}

/-- A room is found exactly when it is held. -/
theorem find_eq_some_iff :
    rooms.find roomId = some info ↔ (roomId, info) ∈ rooms.entries := by
  obtain ⟨entries, distinct⟩ := rooms
  show (entries.find? fun room => room.1 = roomId).map Prod.snd = some info ↔
    (roomId, info) ∈ entries
  induction entries with
  | nil => simp
  | cons first rest inductionHypothesis =>
      obtain ⟨firstId, firstInfo⟩ := first
      simp only [List.map_cons, List.nodup_cons] at distinct
      by_cases isFirst : firstId = roomId
      · subst isFirst
        have notLater : (firstId, info) ∉ rest := fun later =>
          distinct.1 (List.mem_map_of_mem later)
        simp [notLater, eq_comm]
      · have isOther : roomId ≠ firstId := fun same => isFirst same.symm
        simpa [isFirst, isOther] using inductionHypothesis distinct.2

theorem mem_onFloor :
    (roomId, info) ∈ rooms.onFloor floor ↔
      rooms.find roomId = some info ∧ getFloorFromRoomId roomId = floor := by
  simp [onFloor, find_eq_some_iff]

theorem mem_costmapsOnFloor
    {map : Costmap2D K} :
    (roomId, map) ∈ rooms.costmapsOnFloor floor ↔
      ∃ info, rooms.find roomId = some info ∧
        getFloorFromRoomId roomId = floor ∧
        info.layeredCostmap = some map := by
  simp only [costmapsOnFloor, List.mem_filterMap, Prod.exists,
    Option.map_eq_some_iff, Prod.mk.injEq]
  constructor
  · rintro ⟨otherId, info, isMember, other, hasCostmap, rfl, rfl⟩
    obtain ⟨found, onFloor⟩ := mem_onFloor.mp isMember
    exact ⟨info, found, onFloor, hasCostmap⟩
  · rintro ⟨info, found, onFloor, hasCostmap⟩
    exact ⟨roomId, info, mem_onFloor.mpr ⟨found, onFloor⟩, map, hasCostmap,
      rfl, rfl⟩

@[simp] theorem find_modify :
    (rooms.modify change).find roomId =
      (rooms.find roomId).map (change roomId) := by
  apply Option.ext
  intro changedInfo
  simp only [find_eq_some_iff, Option.map_eq_some_iff, modify, List.mem_map,
    Prod.mk.injEq, Prod.exists]
  constructor
  · rintro ⟨otherId, info, isMember, rfl, rfl⟩
    exact ⟨info, isMember, rfl⟩
  · rintro ⟨info, isMember, rfl⟩
    exact ⟨roomId, info, isMember, rfl, rfl⟩

theorem find_insert
    (otherId : String) :
    (rooms.insert roomId info).find otherId =
      if otherId = roomId then some info else rooms.find otherId := by
  apply Option.ext
  intro otherInfo
  rw [find_eq_some_iff]
  by_cases isSame : otherId = roomId
  · simp [insert, isSame, eq_comm]
  · simp [insert, isSame, find_eq_some_iff]

theorem onFloor_modify :
    (rooms.modify change).onFloor floor =
      (rooms.onFloor floor).map
        fun room => (room.1, change room.1 room.2) := by
  simp [onFloor, modify, List.filter_map, Function.comp_def]

theorem mem_changedOn :
    roomId ∈ rooms.changedOn floor ↔
      ∃ info, rooms.find roomId = some info ∧
        getFloorFromRoomId roomId = floor ∧
        info.hasChangedSinceLastFloorUpdate = true := by
  simp only [changedOn, changed, List.mem_filter, List.mem_map, Prod.exists,
    decide_eq_true_eq, find_eq_some_iff]
  constructor
  · rintro ⟨⟨otherId, info, ⟨isMember, isChanged⟩, rfl⟩, onFloor⟩
    exact ⟨info, isMember, onFloor, isChanged⟩
  · rintro ⟨info, isMember, onFloor, isChanged⟩
    exact ⟨⟨roomId, info, ⟨isMember, isChanged⟩, rfl⟩, onFloor⟩

theorem changedOn_nodup
    (rooms : RoomCostmaps K)
    (floor : String) :
    (rooms.changedOn floor).Nodup := by
  have kept : (rooms.changed).Sublist (rooms.entries.map Prod.fst) :=
    (List.filter_sublist).map Prod.fst
  exact (rooms.distinct.sublist kept).filter _

end RoomCostmaps

section Readiness

variable {K : Type}

/-- The rows or columns looked at when a costmap is searched for data. -/
def sampled
    (size step : Nat) : List Nat :=
  (List.range size).filter fun index => index % step = 0

/-- Some sampled cell has a known cost. -/
def hasValidData
    (map : Costmap2D K) : Bool :=
  let sampleStep := max 1 (min map.sizeX map.sizeY / 10)
  (sampled map.sizeX sampleStep).any fun x =>
    (sampled map.sizeY sampleStep).any fun y =>
      map.getCost x y != noInformation

/-- The costmap of a room that is ready to be merged. -/
def readyCostmap
    (info : RoomCostmapInfo K) : Option (Costmap2D K) :=
  match info.layeredCostmap with
  | none => none
  | some map =>
      if map.sizeX = 0 ∨ map.sizeY = 0 then
        none
      else if info.staticLayer ≠ some true then
        none
      else if hasValidData map then
        some map
      else
        none

/-- All rooms of a floor are ready. -/
def AllReady
    (rooms : RoomCostmaps K)
    (floor : String) : Prop :=
  ∀ room ∈ rooms.onFloor floor, (readyCostmap room.2).isSome = true

section

variable
  {info : RoomCostmapInfo K}
  {map : Costmap2D K}
  (ready : readyCostmap info = some map)

include ready

theorem layeredCostmap_of_ready :
    info.layeredCostmap = some map := by
  cases held : info.layeredCostmap with
  | none => simp [readyCostmap, held] at ready
  | some other =>
      simp only [readyCostmap, held] at ready
      split at ready
      · cases ready
      · split at ready
        · cases ready
        · split at ready
          · exact ready
          · cases ready

theorem size_of_ready :
    0 < map.sizeX ∧ 0 < map.sizeY := by
  simp only [readyCostmap, layeredCostmap_of_ready ready] at ready
  split at ready
  · cases ready
  · omega

end

end Readiness

section Building

variable {K : Type} [Field K] [LinearOrder K] [FloorRing K]

/-- Round to the nearest integer, halves away from zero. -/
def stdRound
    (value : K) : Int :=
  if 0 ≤ value then ⌊value + 1 / 2⌋ else ⌈value - 1 / 2⌉

/-- The grid that holds all rooms of a floor. -/
def floorGrid
    (first : Grid K)
    (rest : List (Grid K)) : Grid K :=
  let resolution := first.resolution
  let minX := rest.foldl (fun least room => min least room.originX) first.originX
  let minY := rest.foldl (fun least room => min least room.originY) first.originY
  let maxX := rest.foldl
    (fun greatest room => max greatest (room.originX + room.getSizeInMetersX))
    (first.originX + first.getSizeInMetersX)
  let maxY := rest.foldl
    (fun greatest room => max greatest (room.originY + room.getSizeInMetersY))
    (first.originY + first.getSizeInMetersY)
  let originX := ⌊minX / resolution⌋ * resolution
  let originY := ⌊minY / resolution⌋ * resolution
  { sizeX := ⌈(maxX - originX) / resolution⌉.toNat
    sizeY := ⌈(maxY - originY) / resolution⌉.toNat
    resolution
    originX
    originY }

/-- The cells of a grid, row by row. -/
def cells
    (width height : Nat) : List (Nat × Nat) :=
  (List.range height).flatMap fun y => (List.range width).map fun x => (x, y)

/-- Merge one cell of a room where its centre lies on the floor. -/
def mergeRoomCell
    (room floor : Costmap2D K)
    (cell : Nat × Nat) : Costmap2D K :=
  match floor.worldToMap (room.mapToWorld cell.1 cell.2) with
  | some (x, y) => floor.mergeCost x y (room.getCost cell.1 cell.2)
  | none => floor

def mergeRoom
    (floor room : Costmap2D K) : Costmap2D K :=
  (cells room.sizeX room.sizeY).foldl (mergeRoomCell room) floor

/-- The offset of a room from the origin of its floor. -/
def regionOffset
    (resolution relative : K) : Nat :=
  (stdRound ((if relative < 0 then 0 else relative) / resolution)).toNat

/-- The region of a room, unless it does not fit on the floor. -/
def roomRegion
    (floor room : Grid K) : Option RoomRegion :=
  let region : RoomRegion :=
    { xOffset := regionOffset floor.resolution (room.originX - floor.originX)
      yOffset := regionOffset floor.resolution (room.originY - floor.originY)
      width := room.sizeX
      height := room.sizeY }
  if floor.sizeX < region.xOffset + region.width ∨
      floor.sizeY < region.yOffset + region.height then
    none
  else
    some region

/-- The grid that holds the costmaps of some rooms. -/
def roomsGrid
    (first : String × Costmap2D K)
    (rest : List (String × Costmap2D K)) : Grid K :=
  floorGrid first.2.toGrid (rest.map fun room => room.2.toGrid)

/-- The floor costmap for a list of ready rooms. -/
def buildFloorCostmap
    (first : String × Costmap2D K)
    (rest : List (String × Costmap2D K)) : FloorCostmapCache K :=
  let rooms := first :: rest
  let grid := roomsGrid first rest
  { costmap := (rooms.map Prod.snd).foldl mergeRoom
      (Costmap2D.filled grid freeSpace)
    roomRegions := fun roomId =>
      (rooms.find? fun room => room.1 = roomId).bind fun room =>
        roomRegion grid room.2.toGrid
    isValid := true }

/-- Build the costmap of a floor.  Nothing happens when there is one already,
or when the floor has no rooms, or a room that is not ready. -/
def createFloorCostmap
    (rooms : RoomCostmaps K)
    (floor : String)
    (entry : Option (FloorCostmapCache K)) :
    Bool × Option (FloorCostmapCache K) :=
  match entry with
  | some cache => (true, some cache)
  | none =>
      if (rooms.onFloor floor).all fun room => (readyCostmap room.2).isSome then
        match rooms.costmapsOnFloor floor with
        | first :: rest => (true, some (buildFloorCostmap first rest))
        | [] => (false, none)
      else
        (false, none)

/-- Merge one cell of a room at its place in the region. -/
def mergeRegionCell
    (region : RoomRegion)
    (room floor : Costmap2D K)
    (cell : Nat × Nat) : Costmap2D K :=
  let x := region.xOffset + cell.1
  let y := region.yOffset + cell.2
  if floor.sizeX ≤ x ∨ floor.sizeY ≤ y then
    floor
  else if cell.1 < room.sizeX ∧ cell.2 < room.sizeY then
    floor.mergeCost x y (room.getCost cell.1 cell.2)
  else
    floor

def mergeRegion
    (region : RoomRegion)
    (floor room : Costmap2D K) : Costmap2D K :=
  (cells region.width region.height).foldl (mergeRegionCell region room) floor

/-- Merge a changed room into the costmap of its floor.  A room without a
region, or with one that does not fit, makes the costmap invalid. -/
def updateFloorCostmapRegion
    (rooms : RoomCostmaps K)
    (entry : Option (FloorCostmapCache K))
    (roomId : String) : Option (FloorCostmapCache K) :=
  match (rooms.find roomId).bind readyCostmap, entry with
  | none, _ => entry
  | some _, none => none
  | some room, some cache =>
      if cache.isValid = false then
        some cache
      else
        match cache.roomRegions roomId with
        | none => some { cache with isValid := false }
        | some region =>
            if cache.costmap.sizeX ≤ region.xOffset ∨
                cache.costmap.sizeY ≤ region.yOffset then
              some { cache with isValid := false }
            else if cache.costmap.sizeX < region.xOffset + region.width ∨
                cache.costmap.sizeY < region.yOffset + region.height then
              some { cache with isValid := false }
            else
              some { cache with
                costmap := mergeRegion region cache.costmap room }

/-- Bring one floor up to date with its changed rooms. -/
def updateFloor
    (rooms : RoomCostmaps K)
    (floor : String)
    (changedRooms : List String)
    (entry : Option (FloorCostmapCache K)) :
    Option (FloorCostmapCache K) :=
  if entry.any FloorCostmapCache.isValid then
    changedRooms.foldl (updateFloorCostmapRegion rooms) entry
  else
    (createFloorCostmap rooms floor entry).2

end Building

section Places

theorem foldl_min_le
    {ι K : Type} [LinearOrder K]
    (value : ι → K)
    (items : List ι)
    (start : K) :
    items.foldl (fun least item => min least (value item)) start ≤ start ∧
      ∀ item ∈ items,
        items.foldl (fun least item => min least (value item)) start ≤
          value item := by
  induction items generalizing start with
  | nil => simp
  | cons first rest inductionHypothesis =>
      obtain ⟨belowStart, belowRest⟩ :=
        inductionHypothesis (min start (value first))
      refine ⟨belowStart.trans (min_le_left _ _), ?_⟩
      intro item isMember
      rcases List.mem_cons.mp isMember with rfl | later
      · exact belowStart.trans (min_le_right _ _)
      · exact belowRest item later

theorem mem_cells
    {width height x y : Nat} :
    (x, y) ∈ cells width height ↔ x < width ∧ y < height := by
  simp only [cells, List.mem_flatMap, List.mem_map, List.mem_range,
    Prod.mk.injEq]
  constructor
  · rintro ⟨row, rowInside, column, columnInside, rfl, rfl⟩
    exact ⟨columnInside, rowInside⟩
  · rintro ⟨columnInside, rowInside⟩
    exact ⟨y, rowInside, x, columnInside, rfl, rfl⟩

variable {K : Type} {floor room : Costmap2D K}

theorem mergeRegionCell_merged
    {region : RoomRegion}
    {cell : Nat × Nat}
    (known : floor.Known)
    (xInside : region.xOffset + cell.1 < floor.sizeX)
    (yInside : region.yOffset + cell.2 < floor.sizeY) :
    Costmap2D.Merged floor (mergeRegionCell region room floor cell)
      (fun x y cost =>
        (cell.1 < room.sizeX ∧ cell.2 < room.sizeY) ∧
          (x, y) = (region.xOffset + cell.1, region.yOffset + cell.2) ∧
          cost = room.getCost cell.1 cell.2 ∧
          room.getCost cell.1 cell.2 ≠ noInformation) := by
  have onFloor :
      ¬ (floor.sizeX ≤ region.xOffset + cell.1 ∨
        floor.sizeY ≤ region.yOffset + cell.2) := by
    omega
  by_cases inRoom : cell.1 < room.sizeX ∧ cell.2 < room.sizeY
  · simp only [mergeRegionCell, onFloor, inRoom, if_false, if_true, and_self,
      true_and]
    exact Costmap2D.mergeCost_merged _ known xInside yInside
  · simp only [mergeRegionCell, onFloor, inRoom, if_false, false_and]
    exact .none known (by simp)

variable [Field K] [LinearOrder K] [FloorRing K]

/-- A room has a known cost in a cell of the floor: the centre of a room cell
with this cost lies in the floor's cell. -/
def Shows
    (floor : Grid K)
    (room : Costmap2D K)
    (x y : Nat)
    (cost : UInt8) : Prop :=
  ∃ roomX < room.sizeX, ∃ roomY < room.sizeY,
    floor.worldToMap (room.mapToWorld roomX roomY) = some (x, y) ∧
      room.getCost roomX roomY = cost ∧
      cost ≠ noInformation

theorem mergeRoomCell_merged
    (known : floor.Known)
    (cell : Nat × Nat) :
    Costmap2D.Merged floor (mergeRoomCell room floor cell)
      (fun x y cost =>
        floor.worldToMap (room.mapToWorld cell.1 cell.2) = some (x, y) ∧
          room.getCost cell.1 cell.2 = cost ∧ cost ≠ noInformation) := by
  cases mapped : floor.worldToMap (room.mapToWorld cell.1 cell.2) with
  | none =>
      simp only [mergeRoomCell, mapped]
      exact .none known (by simp)
  | some target =>
      obtain ⟨x, y⟩ := target
      obtain ⟨xInside, yInside⟩ := Grid.worldToMap_lt mapped
      simp only [mergeRoomCell, mapped]
      refine (Costmap2D.mergeCost_merged _ known xInside yInside).congr ?_
      intro x' _ y' _ cost
      constructor
      · rintro ⟨sameCell, rfl, isKnown⟩
        exact ⟨congrArg some sameCell.symm, rfl, isKnown⟩
      · rintro ⟨sameCell, rfl, isKnown⟩
        exact ⟨(Option.some.inj sameCell).symm, rfl, isKnown⟩

/-- Building merges the known costs of a room where they lie in the world. -/
theorem mergeRoom_merged
    (known : floor.Known) :
    Costmap2D.Merged floor (mergeRoom floor room)
      (Shows floor.toGrid room) := by
  have merged := Costmap2D.Merged.foldl (cells room.sizeX room.sizeY)
    (fun map mapKnown onGrid cell _ => by
      have step : Costmap2D.Merged map (mergeRoomCell room map cell) _ :=
        mergeRoomCell_merged mapKnown cell
      rwa [onGrid] at step)
    known rfl
  refine merged.congr ?_
  intro x _ y _ cost
  simp only [Shows, Prod.exists, mem_cells]
  constructor
  · rintro ⟨roomX, roomY, ⟨xInside, yInside⟩, shown⟩
    exact ⟨roomX, xInside, roomY, yInside, shown⟩
  · rintro ⟨roomX, xInside, roomY, yInside, shown⟩
    exact ⟨roomX, roomY, ⟨xInside, yInside⟩, shown⟩

theorem mergeRooms_merged
    (rooms : List (Costmap2D K))
    (known : floor.Known) :
    Costmap2D.Merged floor (rooms.foldl mergeRoom floor)
      (fun x y cost => ∃ room ∈ rooms, Shows floor.toGrid room x y cost) :=
  Costmap2D.Merged.foldl rooms
    (fun map mapKnown onGrid room _ => by
      have step : Costmap2D.Merged map (mergeRoom map room) _ :=
        mergeRoom_merged mapKnown
      rwa [onGrid] at step)
    known rfl

theorem roomRegion_eq_some
    {floor room : Grid K}
    {region : RoomRegion}
    (found : roomRegion floor room = some region) :
    region.xOffset =
        regionOffset floor.resolution (room.originX - floor.originX) ∧
      region.yOffset =
        regionOffset floor.resolution (room.originY - floor.originY) ∧
      region.width = room.sizeX ∧
      region.height = room.sizeY ∧
      region.xOffset + region.width ≤ floor.sizeX ∧
      region.yOffset + region.height ≤ floor.sizeY := by
  simp only [roomRegion] at found
  split at found
  · cases found
  · rename_i fits
    rw [not_or, not_lt, not_lt] at fits
    cases found
    exact ⟨rfl, rfl, rfl, rfl, fits.1, fits.2⟩

variable [IsStrictOrderedRing K]

/-- Rounding the offset of a room agrees with looking up its cell centres. -/
theorem toNat_floor_centre
    {resolution relative : K}
    (positive : 0 < resolution)
    (ahead : 0 ≤ relative)
    (index : Nat) :
    ⌊(relative + (index + 1 / 2) * resolution) / resolution⌋.toNat =
      regionOffset resolution relative + index := by
  have split :
      (relative + (index + 1 / 2) * resolution) / resolution =
        relative / resolution + 1 / 2 + index := by
    field_simp
    ring
  have offset : 0 ≤ relative / resolution := div_nonneg ahead positive.le
  have rounded : 0 ≤ ⌊relative / resolution + 1 / 2⌋ :=
    Int.floor_nonneg.mpr (by positivity)
  simp only [split, Int.floor_add_natCast, regionOffset, stdRound,
    not_lt.mpr ahead, if_false, offset, if_true]
  omega

/-- The floor's grid starts before a room that has the same resolution. -/
structure Placed
    (floor room : Grid K) : Prop where
  positive : 0 < floor.resolution
  resolution : room.resolution = floor.resolution
  aheadX : floor.originX ≤ room.originX
  aheadY : floor.originY ≤ room.originY

/-- A room cell lies on the floor at the room's offset. -/
theorem Placed.worldToMap_eq
    {floor room : Grid K}
    (placed : Placed floor room)
    (x y : Nat) :
    floor.worldToMap (room.mapToWorld x y) =
      let floorX :=
        regionOffset floor.resolution (room.originX - floor.originX) + x
      let floorY :=
        regionOffset floor.resolution (room.originY - floor.originY) + y
      if floorX < floor.sizeX ∧ floorY < floor.sizeY then
        some (floorX, floorY)
      else
        none := by
  have halfX : 0 ≤ ((x : K) + 1 / 2) * floor.resolution :=
    mul_nonneg (by positivity) placed.positive.le
  have halfY : 0 ≤ ((y : K) + 1 / 2) * floor.resolution :=
    mul_nonneg (by positivity) placed.positive.le
  have aheadX : 0 ≤ room.originX - floor.originX :=
    sub_nonneg.mpr placed.aheadX
  have aheadY : 0 ≤ room.originY - floor.originY :=
    sub_nonneg.mpr placed.aheadY
  have inside :
      ¬ (room.originX + (x + 1 / 2) * floor.resolution < floor.originX ∨
        room.originY + (y + 1 / 2) * floor.resolution < floor.originY) := by
    rw [not_or, not_lt, not_lt]
    exact ⟨by linarith, by linarith⟩
  simp only [Grid.worldToMap, Grid.mapToWorld, placed.resolution, inside,
    if_false, add_sub_right_comm, toNat_floor_centre placed.positive aheadX,
    toNat_floor_centre placed.positive aheadY]

theorem mergeRegion_merged
    {region : RoomRegion}
    (placed : Placed floor.toGrid room.toGrid)
    (found : roomRegion floor.toGrid room.toGrid = some region)
    (known : floor.Known) :
    Costmap2D.Merged floor (mergeRegion region floor room)
      (Shows floor.toGrid room) := by
  obtain ⟨xOffset, yOffset, width, height, fitsX, fitsY⟩ :=
    roomRegion_eq_some found
  have steps := Costmap2D.Merged.foldl (cells region.width region.height)
    (fun map mapKnown (onGrid : map.toGrid = floor.toGrid) cell inCells => by
      obtain ⟨xInside, yInside⟩ := mem_cells.mp inCells
      have step : Costmap2D.Merged map (mergeRegionCell region room map cell) _ :=
        mergeRegionCell_merged mapKnown
          (by rw [onGrid]; omega) (by rw [onGrid]; omega)
      exact step)
    known rfl
  refine steps.congr ?_
  intro x _ y _ cost
  simp only [Shows, Prod.exists, mem_cells, placed.worldToMap_eq]
  rw [← xOffset, ← yOffset, width, height]
  constructor
  · rintro ⟨roomX, roomY, -, ⟨xInside, yInside⟩, sameCell, rfl, isKnown⟩
    refine ⟨roomX, xInside, roomY, yInside, ?_, rfl, isKnown⟩
    rw [if_pos ⟨by omega, by omega⟩, sameCell]
  · rintro ⟨roomX, xInside, roomY, yInside, mapped, rfl, isKnown⟩
    rw [if_pos ⟨by omega, by omega⟩] at mapped
    exact ⟨roomX, roomY, ⟨xInside, yInside⟩, ⟨xInside, yInside⟩,
      (Option.some.inj mapped).symm, rfl, isKnown⟩

theorem placed_floorGrid
    {first : Grid K}
    {rest : List (Grid K)}
    (positive : 0 < first.resolution)
    (common : ∀ room ∈ rest, room.resolution = first.resolution) :
    ∀ room ∈ first :: rest, Placed (floorGrid first rest) room := by
  have snapped : ∀ least : K,
      ⌊least / first.resolution⌋ * first.resolution ≤ least := by
    intro least
    calc ⌊least / first.resolution⌋ * first.resolution
        ≤ least / first.resolution * first.resolution :=
          mul_le_mul_of_nonneg_right (Int.floor_le _) positive.le
      _ = least := div_mul_cancel₀ least positive.ne'
  have leastX := foldl_min_le Grid.originX rest first.originX
  have leastY := foldl_min_le Grid.originY rest first.originY
  intro room isMember
  rcases List.mem_cons.mp isMember with rfl | later
  · exact ⟨positive, rfl, (snapped _).trans leastX.1,
      (snapped _).trans leastY.1⟩
  · exact ⟨positive, common room later,
      (snapped _).trans (leastX.2 room later),
      (snapped _).trans (leastY.2 room later)⟩

end Places

theorem foldl_update_apply
    {κ α : Type} [DecidableEq κ]
    {keys : List κ}
    (change : κ → α → α)
    (distinct : keys.Nodup)
    (entries : κ → α)
    (key : κ) :
    (keys.foldl
      (fun entries key =>
        Function.update entries key (change key (entries key)))
      entries) key =
      if key ∈ keys then change key (entries key) else entries key := by
  induction keys generalizing entries with
  | nil => simp
  | cons first rest inductionHypothesis =>
      obtain ⟨notLater, distinctRest⟩ := List.nodup_cons.mp distinct
      rw [List.foldl_cons, inductionHypothesis distinctRest]
      by_cases isFirst : key = first
      · subst isFirst
        simp [notLater]
      · simp [isFirst]

/-- The rooms and the floor costmaps of the node. -/
structure MultiCostmap2D (K : Type) where
  roomCostmaps : RoomCostmaps K
  floorCostmapCache : String → Option (FloorCostmapCache K)

/-- A room costmap that was updated and published. -/
structure RoomChange (K : Type) where
  roomId : String
  costmap : Costmap2D K
  staticLayer : Option Bool

section Node

variable {K : Type}

def RoomChange.apply
    (change : RoomChange K)
    (info : RoomCostmapInfo K) : RoomCostmapInfo K :=
  { info with
    layeredCostmap := some change.costmap
    staticLayer := change.staticLayer
    hasChangedSinceLastFloorUpdate := true }

/-- A room gets a new costmap, which is published. -/
def publishCostmap
    (node : MultiCostmap2D K)
    (change : RoomChange K) : MultiCostmap2D K :=
  { node with
    roomCostmaps := node.roomCostmaps.modify fun roomId info =>
      if roomId = change.roomId then change.apply info else info }

variable (rooms : RoomCostmaps K)

def clearChanged : RoomCostmaps K :=
  rooms.modify fun _ info =>
    { info with hasChangedSinceLastFloorUpdate := false }

def invalidateFloorCostmap
    (node : MultiCostmap2D K)
    (floor : String) : MultiCostmap2D K :=
  { node with
    floorCostmapCache := Function.update node.floorCostmapCache floor
      ((node.floorCostmapCache floor).map
        fun cache => { cache with isValid := false }) }

/-- Bring the floors of all changed rooms up to date. -/
def updateFloorCostmaps [Field K] [LinearOrder K] [FloorRing K]
    (node : MultiCostmap2D K) : MultiCostmap2D K :=
  let rooms := node.roomCostmaps
  let affectedFloors := (rooms.changed.map getFloorFromRoomId).dedup
  { roomCostmaps := clearChanged rooms
    floorCostmapCache := affectedFloors.foldl
      (fun cache floor => Function.update cache floor
        (updateFloor (clearChanged rooms) floor (rooms.changedOn floor)
          (cache floor)))
      node.floorCostmapCache }

theorem readyCostmap_bind_clearChanged
    (roomId : String) :
    ((clearChanged rooms).find roomId).bind readyCostmap =
      (rooms.find roomId).bind readyCostmap := by
  rw [clearChanged, RoomCostmaps.find_modify]
  cases rooms.find roomId <;> rfl

theorem allReady_clearChanged
    (floor : String) :
    ((clearChanged rooms).onFloor floor).all
        (fun room => (readyCostmap room.2).isSome) =
      (rooms.onFloor floor).all
        (fun room => (readyCostmap room.2).isSome) := by
  rw [clearChanged, RoomCostmaps.onFloor_modify, List.all_map]
  rfl

@[simp] theorem costmapsOnFloor_clearChanged
    (floor : String) :
    (clearChanged rooms).costmapsOnFloor floor =
      rooms.costmapsOnFloor floor := by
  rw [RoomCostmaps.costmapsOnFloor, clearChanged, RoomCostmaps.onFloor_modify,
    List.filterMap_map]
  rfl

@[simp] theorem find_clearChanged
    (roomId : String) :
    (clearChanged rooms).find roomId =
      (rooms.find roomId).map fun info =>
        { info with hasChangedSinceLastFloorUpdate := false } := by
  simp [clearChanged]

theorem changedOn_clearChanged
    (floor : String) :
    (clearChanged rooms).changedOn floor = [] := by
  apply List.eq_nil_iff_forall_not_mem.mpr
  intro roomId isChanged
  obtain ⟨info, found, -, flag⟩ := RoomCostmaps.mem_changedOn.mp isChanged
  obtain ⟨_, -, rfl⟩ := Option.map_eq_some_iff.mp (by simpa using found)
  cases flag

theorem mem_affectedFloors
    {rooms : RoomCostmaps K}
    {floor : String} :
    floor ∈ (rooms.changed.map getFloorFromRoomId).dedup ↔
      rooms.changedOn floor ≠ [] := by
  simp [RoomCostmaps.changedOn, List.filter_eq_nil_iff]

theorem updateFloorCostmapRegion_of_not_ready
    {rooms : RoomCostmaps K}
    {roomId : String}
    (notReady : (rooms.find roomId).bind readyCostmap = none)
    (entry : Option (FloorCostmapCache K)) :
    updateFloorCostmapRegion rooms entry roomId = entry := by
  simp [updateFloorCostmapRegion, notReady]

theorem updateFloorCostmapRegion_isSome
    (held : FloorCostmapCache K)
    (roomId : String) :
    ∃ after, updateFloorCostmapRegion rooms (some held) roomId = some after := by
  simp only [updateFloorCostmapRegion]
  split
  · exact ⟨_, rfl⟩
  · contradiction
  · rename_i isHeld
    cases isHeld
    split
    · exact ⟨_, rfl⟩
    · split
      · exact ⟨_, rfl⟩
      · split
        · exact ⟨_, rfl⟩
        · split <;> exact ⟨_, rfl⟩

theorem foldl_updateFloorCostmapRegion_isSome
    (changedRooms : List String)
    (held : FloorCostmapCache K) :
    ∃ after, changedRooms.foldl (updateFloorCostmapRegion rooms) (some held) =
      some after := by
  induction changedRooms generalizing held with
  | nil => exact ⟨held, rfl⟩
  | cons roomId rest inductionHypothesis =>
      obtain ⟨after, isUpdated⟩ :=
        updateFloorCostmapRegion_isSome rooms held roomId
      rw [List.foldl_cons, isUpdated]
      exact inductionHypothesis after

variable [Field K] [LinearOrder K] [FloorRing K]

/-- Building a floor does not look at the marks. -/
@[simp] theorem createFloorCostmap_clearChanged
    (floor : String)
    (entry : Option (FloorCostmapCache K)) :
    createFloorCostmap (clearChanged rooms) floor entry =
      createFloorCostmap rooms floor entry := by
  simp only [createFloorCostmap, allReady_clearChanged,
    costmapsOnFloor_clearChanged]

/-- Updating a floor does not look at the marks. -/
theorem updateFloor_clearChanged
    (floor : String)
    (changedRooms : List String)
    (entry : Option (FloorCostmapCache K)) :
    updateFloor (clearChanged rooms) floor changedRooms entry =
      updateFloor rooms floor changedRooms entry := by
  have regions :
      updateFloorCostmapRegion (clearChanged rooms) =
        updateFloorCostmapRegion rooms := by
    funext entry roomId
    simp only [updateFloorCostmapRegion, readyCostmap_bind_clearChanged]
  simp only [updateFloor, regions, createFloorCostmap_clearChanged]

variable {rooms}

theorem createFloorCostmap_eq_some_iff
    {floor : String}
    {built : FloorCostmapCache K} :
    (createFloorCostmap rooms floor none).2 = some built ↔
      AllReady rooms floor ∧
        ∃ first rest, rooms.costmapsOnFloor floor = first :: rest ∧
          buildFloorCostmap first rest = built := by
  by_cases allReady : AllReady rooms floor
  · have tested : ((rooms.onFloor floor).all
        fun room => (readyCostmap room.2).isSome) = true :=
      List.all_eq_true.mpr allReady
    cases costmaps : rooms.costmapsOnFloor floor with
    | nil => simp [createFloorCostmap, costmaps]
    | cons first rest =>
        simp [createFloorCostmap, tested, costmaps, allReady]
  · have tested : ((rooms.onFloor floor).all
        fun room => (readyCostmap room.2).isSome) = false := by
      rw [← Bool.not_eq_true]
      exact fun holds => allReady (List.all_eq_true.mp holds)
    simp [createFloorCostmap, tested, allReady]

theorem updateFloorCostmapRegion_eq
    {held : FloorCostmapCache K}
    {roomId : String}
    {info : RoomCostmapInfo K}
    {map : Costmap2D K}
    {region : RoomRegion}
    (found : rooms.find roomId = some info)
    (ready : readyCostmap info = some map)
    (valid : held.isValid = true)
    (hasRegion : held.roomRegions roomId = some region)
    (atRoom : roomRegion held.costmap.toGrid map.toGrid = some region) :
    updateFloorCostmapRegion rooms (some held) roomId =
      some { held with
        costmap := mergeRegion region held.costmap map } := by
  obtain ⟨-, -, width, height, fitsX, fitsY⟩ := roomRegion_eq_some atRoom
  obtain ⟨sizeX, sizeY⟩ := size_of_ready ready
  have inside :
      ¬ (held.costmap.sizeX ≤ region.xOffset ∨
        held.costmap.sizeY ≤ region.yOffset) := by
    omega
  have fits :
      ¬ (held.costmap.sizeX < region.xOffset + region.width ∨
        held.costmap.sizeY < region.yOffset + region.height) := by
    omega
  simp [updateFloorCostmapRegion, found, ready, valid, hasRegion, inside, fits]

theorem updateFloor_isSome
    {floor : String}
    (changedRooms : List String)
    (entry : Option (FloorCostmapCache K))
    (buildable : (createFloorCostmap rooms floor none).2.isSome = true) :
    (updateFloor rooms floor changedRooms entry).isSome = true := by
  cases entry with
  | none => simpa [updateFloor] using buildable
  | some held =>
      rw [updateFloor]
      split
      · obtain ⟨after, isUpdated⟩ :=
          foldl_updateFloorCostmapRegion_isSome rooms changedRooms held
        rw [isUpdated]
        rfl
      · rfl

/-- What an update does to one floor, in whatever order the floors come. -/
theorem updateFloorCostmaps_cache
    (node : MultiCostmap2D K)
    (floor : String) :
    (updateFloorCostmaps node).floorCostmapCache floor =
      if node.roomCostmaps.changedOn floor = [] then
        node.floorCostmapCache floor
      else
        updateFloor node.roomCostmaps floor
          (node.roomCostmaps.changedOn floor)
          (node.floorCostmapCache floor) := by
  have updated := foldl_update_apply
    (fun floor => updateFloor (clearChanged node.roomCostmaps) floor
      (node.roomCostmaps.changedOn floor))
    (List.nodup_dedup (node.roomCostmaps.changed.map getFloorFromRoomId))
    node.floorCostmapCache floor
  rw [show (updateFloorCostmaps node).floorCostmapCache floor = _ from updated]
  by_cases unchanged : node.roomCostmaps.changedOn floor = []
  · rw [if_neg (fun affected => mem_affectedFloors.mp affected unchanged),
      if_pos unchanged]
  · rw [if_pos (mem_affectedFloors.mpr unchanged), if_neg unchanged,
      updateFloor_clearChanged]

end Node

end NavBim
