import NavBim.FloorCostmapRegions

namespace NavBim

/-!
# The places of rooms on their floor

The size of a floor is measured to the centres of the last cells of its rooms,
and the offset of a room is rounded half up.  A room whose origin lies exactly
half a cell after a border of the floor's cells is rounded up by half a cell, so
its region ends one cell after the floor if no other room reaches further.
Every other room is in its place.
-/

section Rounding

variable
  {K : Type}
  [Field K]
  [LinearOrder K]
  [FloorRing K]
  [IsStrictOrderedRing K]

/-- Rounding half up adds half exactly to numbers half way between two
integers. -/
theorem floor_add_half_eq_iff
    (value : K) :
    (⌊value + 1 / 2⌋ : K) = value + 1 / 2 ↔ Int.fract value = 1 / 2 := by
  rw [Int.fract_eq_iff]
  constructor
  · intro isInteger
    refine ⟨by norm_num, by norm_num, ⌊value + 1 / 2⌋ - 1, ?_⟩
    push_cast
    linarith only [isInteger]
  · rintro ⟨-, -, lower, isHalf⟩
    have isInteger : value + 1 / 2 = ((lower + 1 : Int) : K) := by
      push_cast
      linarith only [isHalf]
    rw [isInteger, Int.floor_intCast]

/-- An interval that is rounded fits below a bound that is rounded up unless it
starts half way between two integers and ends at the bound. -/
theorem floor_add_half_le_ceil_iff
    (start bound : K)
    (size : Int)
    (reach : start + size - 1 / 2 ≤ bound) :
    ⌊start + 1 / 2⌋ + size ≤ ⌈bound⌉ ↔
      (Int.fract start = 1 / 2 → start + size - 1 / 2 < bound) := by
  rw [← floor_add_half_eq_iff]
  have before : ⌊start + 1 / 2⌋ + size ≤ ⌈bound⌉ ↔
      (⌊start + 1 / 2⌋ : K) + size - 1 < bound := by
    rw [← Int.sub_one_lt_iff, Int.lt_ceil]
    push_cast
    rfl
  rw [before]
  constructor
  · intro fits isHalf
    linarith only [fits, isHalf]
  · intro beyond
    rcases (Int.floor_le (start + 1 / 2)).lt_or_eq with below | isHalf
    · linarith only [below, reach]
    · linarith only [beyond isHalf, isHalf]

section

omit [Field K] [FloorRing K] [IsStrictOrderedRing K]

/-- Something is below the greatest value exactly if it is below some value. -/
theorem lt_foldl_max_iff
    {ι : Type}
    (value : ι → K)
    (items : List ι)
    (start bound : K) :
    bound < items.foldl (fun greatest item => max greatest (value item)) start ↔
      bound < start ∨ ∃ item ∈ items, bound < value item := by
  induction items generalizing start with
  | nil =>
      simp
  | cons first rest inductionHypothesis =>
      rw [List.foldl_cons, inductionHypothesis, lt_max_iff, or_assoc]
      simp only [List.mem_cons, exists_eq_or_imp]

theorem le_foldl_max
    {ι : Type}
    (value : ι → K)
    (first : ι)
    (rest : List ι) :
    ∀ item ∈ first :: rest, value item ≤
      rest.foldl (fun greatest item => max greatest (value item))
        (value first) := by
  intro item isMember
  refine not_lt.mp fun above => lt_irrefl _
    ((lt_foldl_max_iff value rest (value first) _).mpr ?_)
  cases List.mem_cons.mp isMember with
  | inl isFirst =>
      exact .inl (isFirst ▸ above)
  | inr later =>
      exact .inr ⟨item, later, above⟩

end

/-- One direction of a room: it fits on the floor unless it starts half a cell
off and reaches as far as the floor. -/
theorem offset_fits_iff
    {resolution origin bound : K}
    {first : Int}
    {size : Nat}
    (positive : 0 < resolution)
    (ahead : first * resolution ≤ origin)
    (nonempty : 0 < size)
    (reach : origin + ((size : K) - 1 + 1 / 2) * resolution ≤ bound) :
    regionOffset resolution (origin - first * resolution) + size ≤
        ⌈(bound - first * resolution) / resolution⌉.toNat ↔
      (Int.fract (origin / resolution) = 1 / 2 →
        origin + ((size : K) - 1 + 1 / 2) * resolution < bound) := by
  have start : (origin - first * resolution) / resolution =
      origin / resolution - first := by
    field_simp
  have stop : (bound - first * resolution) / resolution =
      bound / resolution - first := by
    field_simp
  have relative : 0 ≤ origin - first * resolution := sub_nonneg.mpr ahead
  have notBefore : 0 ≤ origin / resolution - first := by
    rw [← start]
    exact div_nonneg relative positive.le
  have atEnd : origin / resolution - first + (size : Int) - 1 / 2 =
      (origin + ((size : K) - 1 + 1 / 2) * resolution) / resolution - first := by
    field_simp
    push_cast
    ring
  have fits := floor_add_half_le_ceil_iff (origin / resolution - first)
    (bound / resolution - first) size (by
      rw [atEnd]
      exact sub_le_sub_right (div_le_div_of_nonneg_right reach positive.le) _)
  rw [atEnd, sub_lt_sub_iff_right, div_lt_div_iff_of_pos_right positive,
    Int.fract_sub_intCast] at fits
  rw [← fits, stop, regionOffset, if_neg (not_lt.mpr relative), start, stdRound,
    if_pos notBefore]
  have rounded : 0 ≤ ⌊origin / resolution - first + 1 / 2⌋ :=
    Int.floor_nonneg.mpr (by linarith only [notBefore])
  omega

end Rounding

section Places

variable
  {K : Type}
  [Field K]
  [LinearOrder K]
  [FloorRing K]

/-- A region is the place of a room on its floor: it is inside, and the cells of
the room are found in it. -/
structure InPlace
    (floor room : Grid K)
    (region : RoomRegion) : Prop where
  size : region.width = room.sizeX ∧ region.height = room.sizeY
  inside :
    region.xOffset + region.width ≤ floor.sizeX ∧
      region.yOffset + region.height ≤ floor.sizeY
  cells :
    ∀ x < room.sizeX, ∀ y < room.sizeY,
      floor.worldToMap (room.mapToWorld x y) =
        some (region.xOffset + x, region.yOffset + y)

/-- Every room of the floor has its place. -/
def RoomsInPlace
    (rooms : RoomCostmaps K)
    (floor : String)
    (cache : FloorCostmapCache K) : Prop :=
  ∀ room ∈ rooms.costmapsOnFloor floor,
    ∃ region ∈ cache.roomRegions room.1,
      InPlace cache.costmap.toGrid room.2.toGrid region

/-- Where the last cells of a room have their centres. -/
def reachX
    (room : Grid K) : K :=
  room.originX + room.getSizeInMetersX

def reachY
    (room : Grid K) : K :=
  room.originY + room.getSizeInMetersY

/-- If a room starts half a cell after a border of the floor's cells, some other
room reaches further. -/
structure KeepsPlace
    (rooms : List (Grid K))
    (room : Grid K) : Prop where
  x :
    Int.fract (room.originX / room.resolution) = 1 / 2 →
      ∃ other ∈ rooms, reachX room < reachX other
  y :
    Int.fract (room.originY / room.resolution) = 1 / 2 →
      ∃ other ∈ rooms, reachY room < reachY other

variable
  [IsStrictOrderedRing K]
  {first room : Grid K}
  {rest : List (Grid K)}

section

omit [IsStrictOrderedRing K]

theorem keepsPlace_iff :
    KeepsPlace (first :: rest) room ↔
      (Int.fract (room.originX / room.resolution) = 1 / 2 →
        reachX room < reachX first ∨
          ∃ other ∈ rest, reachX room < reachX other) ∧
      (Int.fract (room.originY / room.resolution) = 1 / 2 →
        reachY room < reachY first ∨
          ∃ other ∈ rest, reachY room < reachY other) := by
  rw [← List.exists_mem_cons_iff (fun other => reachX room < reachX other),
    ← List.exists_mem_cons_iff (fun other => reachY room < reachY other)]
  exact ⟨fun keeps => ⟨keeps.x, keeps.y⟩, fun keeps => ⟨keeps.1, keeps.2⟩⟩

theorem roomRegion_isSome_iff_fits
    {floor room : Grid K} :
    (roomRegion floor room).isSome ↔
      regionOffset floor.resolution (room.originX - floor.originX) +
          room.sizeX ≤ floor.sizeX ∧
        regionOffset floor.resolution (room.originY - floor.originY) +
          room.sizeY ≤ floor.sizeY := by
  rw [roomRegion]
  dsimp only
  split
  · rename_i outside
    refine iff_of_false Bool.false_ne_true fun inside => ?_
    omega
  · rename_i inside
    refine iff_of_true rfl ?_
    omega

end

theorem roomRegion_isSome_iff
    (positive : 0 < first.resolution)
    (common : ∀ room ∈ first :: rest, room.resolution = first.resolution)
    (isMember : room ∈ first :: rest)
    (nonempty : 0 < room.sizeX ∧ 0 < room.sizeY) :
    (roomRegion (floorGrid first rest) room).isSome ↔
      KeepsPlace (first :: rest) room := by
  have placed := placed_floorGrid positive
    (fun other later => common other (List.mem_cons_of_mem _ later)) room isMember
  have sameResolution := common room isMember
  have endX : room.originX + ((room.sizeX : K) - 1 + 1 / 2) * first.resolution =
      reachX room := by
    rw [reachX, Grid.getSizeInMetersX, sameResolution]
  have endY : room.originY + ((room.sizeY : K) - 1 + 1 / 2) * first.resolution =
      reachY room := by
    rw [reachY, Grid.getSizeInMetersY, sameResolution]
  have fitsX := offset_fits_iff positive placed.aheadX nonempty.1
    (endX.trans_le (le_foldl_max reachX first rest room isMember))
  have fitsY := offset_fits_iff positive placed.aheadY nonempty.2
    (endY.trans_le (le_foldl_max reachY first rest room isMember))
  rw [endX, lt_foldl_max_iff] at fitsX
  rw [endY, lt_foldl_max_iff] at fitsY
  rw [roomRegion_isSome_iff_fits, keepsPlace_iff, sameResolution]
  exact and_congr fitsX fitsY

omit [Field K] [LinearOrder K] [FloorRing K] [IsStrictOrderedRing K] in
theorem AllReady.nonempty
    {rooms : RoomCostmaps K}
    {floor : String}
    (allReady : AllReady rooms floor)
    {room : String × Costmap2D K}
    (isMember : room ∈ rooms.costmapsOnFloor floor) :
    0 < room.2.sizeX ∧ 0 < room.2.sizeY := by
  obtain ⟨info, found, onFloor, hasCostmap⟩ :=
    RoomCostmaps.mem_costmapsOnFloor.mp isMember
  obtain ⟨map, ready⟩ := Option.isSome_iff_exists.mp
    (allReady _ (RoomCostmaps.mem_onFloor.mpr ⟨found, onFloor⟩))
  obtain rfl : map = room.2 :=
    Option.some.inj ((layeredCostmap_of_ready ready).symm.trans hasCostmap)
  exact size_of_ready ready

omit [IsStrictOrderedRing K] in
theorem roomRegions_eq
    {rooms : RoomCostmaps K}
    {floor : String}
    {first room : String × Costmap2D K}
    {rest : List (String × Costmap2D K)}
    (costmaps : rooms.costmapsOnFloor floor = first :: rest)
    (isMember : room ∈ first :: rest) :
    (buildFloorCostmap first rest).roomRegions room.1 =
      roomRegion (roomsGrid first rest) room.2.toGrid := by
  show (((first :: rest).find? fun other => other.1 = room.1).bind _) = _
  cases isFirst : (first :: rest).find? fun other => other.1 = room.1 with
  | none =>
      exact absurd (List.find?_eq_none.mp isFirst room isMember) (by simp)
  | some other =>
      have sameId : other.1 = room.1 := by
        simpa using List.find?_some isFirst
      have otherMember := List.mem_of_find?_eq_some isFirst
      rw [← costmaps] at isMember otherMember
      obtain ⟨info, found, -, hasCostmap⟩ :=
        RoomCostmaps.mem_costmapsOnFloor.mp isMember
      obtain ⟨info', found', -, hasCostmap'⟩ :=
        RoomCostmaps.mem_costmapsOnFloor.mp otherMember
      rw [sameId, found, Option.some.injEq] at found'
      rw [← found', hasCostmap, Option.some.injEq] at hasCostmap'
      rw [Option.bind_some, hasCostmap']

theorem exists_inPlace_iff
    {floor room : Grid K}
    (placed : Placed floor room) :
    (∃ region ∈ roomRegion floor room, InPlace floor room region) ↔
      (roomRegion floor room).isSome := by
  constructor
  · rintro ⟨region, isRegion, -⟩
    exact Option.isSome_of_mem isRegion
  · intro isSome
    obtain ⟨region, isRegion⟩ := Option.isSome_iff_exists.mp isSome
    obtain ⟨xOffset, yOffset, width, height, insideX, insideY⟩ :=
      roomRegion_eq_some isRegion
    refine ⟨region, isRegion, ⟨width, height⟩, ⟨insideX, insideY⟩,
      fun x xInside y yInside => ?_⟩
    rw [placed.worldToMap_eq, ← xOffset, ← yOffset]
    exact if_pos ⟨by omega, by omega⟩

/-- A floor costmap has the place of every room exactly if no room that reaches
as far as the floor starts half a cell off. -/
theorem createFloorCostmap_inPlace_iff
    (rooms : RoomCostmaps K)
    (floor : String)
    (resolution : K)
    (allReady : AllReady rooms floor)
    (nonempty : rooms.costmapsOnFloor floor ≠ [])
    (positive : 0 < resolution)
    (common : ∀ room ∈ rooms.costmapsOnFloor floor,
      room.2.resolution = resolution) :
    (∃ cache, createFloorCostmap rooms floor none = (true, some cache) ∧
        RoomsInPlace rooms floor cache) ↔
      ∀ room ∈ rooms.costmapsOnFloor floor,
        KeepsPlace
          ((rooms.costmapsOnFloor floor).map fun room => room.2.toGrid)
          room.2.toGrid := by
  obtain ⟨first, rest, costmaps⟩ := List.exists_cons_of_ne_nil nonempty
  have built : createFloorCostmap rooms floor none =
      (true, some (buildFloorCostmap first rest)) := by
    have tested : ((rooms.onFloor floor).all
        fun room => (readyCostmap room.2).isSome) = true :=
      List.all_eq_true.mpr allReady
    rw [createFloorCostmap, tested, costmaps]
    rfl
  rw [costmaps] at common
  have sameResolution : ∀ grid ∈ first.2.toGrid ::
      rest.map (fun room => room.2.toGrid),
        grid.resolution = first.2.resolution := by
    intro grid isGrid
    have isMapped : grid ∈ (first :: rest).map fun room => room.2.toGrid :=
      isGrid
    obtain ⟨room, isMember, rfl⟩ := List.mem_map.mp isMapped
    exact (common room isMember).trans (common first List.mem_cons_self).symm
  have firstPositive : 0 < first.2.resolution := by
    rw [common first List.mem_cons_self]
    exact positive
  have each : ∀ room ∈ first :: rest,
      ((∃ region ∈ (buildFloorCostmap first rest).roomRegions room.1,
          InPlace (buildFloorCostmap first rest).costmap.toGrid room.2.toGrid
            region) ↔
        KeepsPlace ((first :: rest).map fun room => room.2.toGrid)
          room.2.toGrid) := by
    intro room isMember
    have isGrid : room.2.toGrid ∈
        (first :: rest).map (fun room => room.2.toGrid) :=
      List.mem_map_of_mem isMember
    have placed := placed_floorGrid firstPositive
      (fun other later => sameResolution other (List.mem_cons_of_mem _ later))
      _ isGrid
    have isRoom : room ∈ rooms.costmapsOnFloor floor := by
      rw [costmaps]
      exact isMember
    rw [roomRegions_eq costmaps isMember,
      (buildFloorCostmap_merged first rest).grid, Costmap2D.filled_toGrid,
      roomsGrid, exists_inPlace_iff placed]
    exact roomRegion_isSome_iff firstPositive sameResolution isGrid
      (allReady.nonempty isRoom)
  rw [built, costmaps]
  constructor
  · rintro ⟨cache, isCache, inPlace⟩ room isMember
    obtain rfl := Option.some.inj (Prod.mk.inj isCache).2
    exact (each room isMember).mp (inPlace room (costmaps ▸ isMember))
  · intro keeps
    refine ⟨_, rfl, fun room isMember => ?_⟩
    rw [costmaps] at isMember
    exact (each room isMember).mpr (keeps room isMember)

end Places

section Samples

/-- A closet of one cell whose costmap starts at the given place. -/
def closetEntry
    (name : String)
    (originX originY : ℚ) : String × RoomCostmapInfo ℚ :=
  (name,
    ⟨some { closetCostmap freeSpace with originX := originX, originY := originY },
      some true, true, false⟩)

/-- A floor with two closets. -/
def closetRooms : RoomCostmaps ℚ where
  entries := [closetEntry "floor/closet" 0 0, closetEntry "floor/pantry" 2 3]
  distinct := by simp [closetEntry]

/-- A floor with a closet that starts half a cell off. -/
def shiftedCloset : RoomCostmaps ℚ where
  entries := [closetEntry "floor/closet" (1 / 2) 0]
  distinct := List.nodup_singleton _

theorem closet_inPlace :
    ∃ cache, createFloorCostmap closetRooms "floor" none =
        (true, some cache) ∧
      RoomsInPlace closetRooms "floor" cache := by
  have costmaps : closetRooms.costmapsOnFloor "floor" =
      [("floor/closet", closetCostmap freeSpace),
        ("floor/pantry",
          { closetCostmap freeSpace with originX := 2, originY := 3 })] := by
    decide +kernel
  have aligned (origin : ℕ) : Int.fract ((origin : ℚ) / 1) ≠ 1 / 2 := by
    norm_num
  refine (createFloorCostmap_inPlace_iff closetRooms "floor" 1
    (by unfold AllReady; decide +kernel)
    (by rw [costmaps]; exact List.cons_ne_nil _ _) one_pos ?_).mpr ?_
  · rw [costmaps]
    intro room isRoom
    rcases List.mem_pair.mp isRoom with rfl | rfl
    · rfl
    · rfl
  · rw [costmaps]
    intro room isRoom
    rcases List.mem_pair.mp isRoom with rfl | rfl
    · exact ⟨fun half => absurd half (aligned 0),
        fun half => absurd half (aligned 0)⟩
    · exact ⟨fun half => absurd half (aligned 2),
        fun half => absurd half (aligned 3)⟩

/-- The region of a room that starts half a cell off does not fit on the
floor. -/
theorem closet_half_off :
    AllReady shiftedCloset "floor" ∧
      shiftedCloset.costmapsOnFloor "floor" ≠ [] ∧
      (∀ room ∈ shiftedCloset.costmapsOnFloor "floor",
        room.2.resolution = 1) ∧
      ¬∃ cache, createFloorCostmap shiftedCloset "floor" none =
          (true, some cache) ∧
        RoomsInPlace shiftedCloset "floor" cache := by
  refine ⟨by unfold AllReady; decide +kernel, by decide +kernel,
    by decide +kernel, ?_⟩
  rintro ⟨cache, isCache, inPlace⟩
  have isMember : ("floor/closet",
      { closetCostmap freeSpace with originX := 1 / 2 }) ∈
        shiftedCloset.costmapsOnFloor "floor" := by
    decide +kernel
  have lost : (createFloorCostmap shiftedCloset "floor" none).2.bind
      (fun cache => cache.roomRegions "floor/closet") = none := by
    decide +kernel
  obtain ⟨region, isRegion, -⟩ := inPlace _ isMember
  rw [isCache] at lost
  exact nomatch lost.symm.trans isRegion

end Samples

end NavBim
