import NavBim.EventRun
import NavBim.StaticLayer

namespace NavBim

/-!
# Maps and updates that reach the static layer

After its bounds were updated, the static layer shows the map that it received
last, with all updates since in their order, and asks for all cells that have
changed.  A map that is kept as a message overwrites the updates that were
written in the meantime, so it is an exception when these change something.
-/

namespace StaticLayer

variable {K : Type}

section Specification

/-- What a layer receives, and when its bounds are updated. -/
inductive StaticLayerEvent (K : Type) where
  | incomingMap (map : OccupancyGridMsg K)
  | incomingUpdate (update : OccupancyGridUpdate)
  | updateBounds
      (transformedFootprint : List (K × K))
      (bounds : WorldBounds K)

/-- What an update of the bounds reported, and the cells at the one before. -/
structure BoundsReport (K : Type) where
  previous : Costmap2D K
  bounds : WorldBounds K

/-- A layer with what it has received. -/
structure StaticLayerRun (K : Type) where
  layer : StaticLayer K
  lastMap : Option (OccupancyGridMsg K)
  /-- The updates since the last map. -/
  updates : List OccupancyGridUpdate
  /-- The cells at the last update of the bounds. -/
  reported : Costmap2D K
  /-- The report if the last event was an update of the bounds. -/
  report : Option (BoundsReport K)

def StaticLayerRun.initial
    (layer : StaticLayer K) : StaticLayerRun K where
  layer := layer
  lastMap := none
  updates := []
  reported := layer.costmap
  report := none

/-- The value that a map has for a cell. -/
def mapValue
    (map : OccupancyGridMsg K)
    (x y : Nat) : UInt8 :=
  (map.data.getD (y * map.width + x) 0).toUInt8

def Covers
    (update : OccupancyGridUpdate)
    (x y : Nat) : Prop :=
  (update.x ≤ x ∧ x < update.x + update.width) ∧
    update.y ≤ y ∧ y < update.y + update.height

instance
    (update : OccupancyGridUpdate)
    (x y : Nat) : Decidable (Covers update x y) :=
  inferInstanceAs (Decidable (_ ∧ _))

/-- The value that an update has for a cell that it covers. -/
def updateValue
    (update : OccupancyGridUpdate)
    (x y : Nat) : UInt8 :=
  (update.data.getD
    ((y - update.y.toNat) * update.width + (x - update.x.toNat)) 0).toUInt8

/-- The cost of a cell after one more update. -/
def updatedCost
    (parameters : StaticLayerParameters)
    (x y : Nat)
    (cost : UInt8)
    (update : OccupancyGridUpdate) : UInt8 :=
  if Covers update x y then
    parameters.interpretValue (updateValue update x y)
  else
    cost

/-- The cost of a cell of a map after updates. -/
def mapCost
    (parameters : StaticLayerParameters)
    (map : OccupancyGridMsg K)
    (updates : List OccupancyGridUpdate)
    (x y : Nat) : UInt8 :=
  updates.foldl (updatedCost parameters x y)
    (parameters.interpretValue (mapValue map x y))

/-- The cells of a costmap are those of the map after the updates. -/
structure Shows
    (parameters : StaticLayerParameters)
    (costmap : Costmap2D K)
    (map : OccupancyGridMsg K)
    (updates : List OccupancyGridUpdate) : Prop where
  sizeX : costmap.sizeX = map.width
  sizeY : costmap.sizeY = map.height
  costs :
    ∀ x < map.width, ∀ y < map.height,
      costmap.getCost x y = mapCost parameters map updates x y

/-- A cell is where it was, with the cost that it had. -/
def Unchanged
    (before after : Costmap2D K)
    (x y : Nat) : Prop :=
  after.toGrid = before.toGrid ∧ after.getCost x y = before.getCost x y

variable [Field K] [LinearOrder K]

/-- If the bounds have just been updated, the layer shows the last map with all
updates since, and the centres of changed cells are inside the bounds. -/
def Good
    (run : StaticLayerRun K) : Prop :=
  ∀ report ∈ run.report,
    (∀ map ∈ run.lastMap,
      Shows run.layer.parameters run.layer.costmap map run.updates) ∧
    ∀ x < run.layer.costmap.sizeX, ∀ y < run.layer.costmap.sizeY,
      ¬Unchanged report.previous run.layer.costmap x y →
        report.bounds.Contains (run.layer.costmap.mapToWorld x y)

/-- One event. -/
def StaticLayerRun.step
    (run : StaticLayerRun K) :
    StaticLayerEvent K → Option (StaticLayerRun K)
  | .incomingMap map =>
      some
        { run with
          layer := run.layer.incomingMap map
          lastMap := some map
          updates := []
          report := none }
  | .incomingUpdate update =>
      some
        { run with
          layer := run.layer.incomingUpdate update
          updates := run.updates ++ [update]
          report := none }
  | .updateBounds transformedFootprint bounds =>
      let updated := run.layer.updateBounds transformedFootprint bounds
      some
        { run with
          layer := updated.1
          reported := updated.1.costmap
          report := some ⟨run.reported, updated.2⟩ }

/-- Maps are valid, and updates are inside the last map and in its frame. -/
def Admissible
    (run : StaticLayerRun K) : StaticLayerEvent K → Prop
  | .incomingMap map => map.validateMsg
  | .incomingUpdate update =>
      ∃ map ∈ run.lastMap,
        update.frameId = map.frameId ∧
          (0 ≤ update.x ∧ update.x + update.width ≤ map.width) ∧
          0 ≤ update.y ∧ update.y + update.height ≤ map.height
  | .updateBounds _ _ => True

/-- Updates that arrived while a map was kept as a message do not change it. -/
def NothingOverwritten
    (run : StaticLayerRun K) : StaticLayerEvent K → Prop
  | .updateBounds _ _ =>
      ∀ map ∈ run.layer.mapBuffer, ∀ x < map.width, ∀ y < map.height,
        mapCost run.layer.parameters map run.updates x y =
          mapCost run.layer.parameters map [] x y
  | _ => True

/-- A layer that has not received anything.  It has no cells yet, or cells of a
positive size. -/
structure Initialized
    (layer : StaticLayer K) : Prop where
  mapReceived : layer.mapReceived = false
  mapBuffer : layer.mapBuffer = none
  cells : layer.costmap.sizeX = 0 ∨ 0 < layer.costmap.resolution

end Specification

section Messages

variable [Field K] [LinearOrder K]

/-- The map takes up the whole costmap, whose cells have a positive size. -/
structure Placed
    (layer : StaticLayer K) : Prop where
  x : layer.x = 0
  y : layer.y = 0
  width : layer.width = layer.costmap.sizeX
  height : layer.height = layer.costmap.sizeY
  positive : 0 < layer.costmap.resolution

/-- What a step leaves as it is. -/
structure SameHistory
    (before after : StaticLayer K) : Prop where
  parameters : after.parameters = before.parameters
  mapReceived : after.mapReceived = before.mapReceived
  mapBuffer : after.mapBuffer = before.mapBuffer

variable
  {layer : StaticLayer K}
  {map : OccupancyGridMsg K}

theorem resizeFor_spec
    (valid : map.validateMsg)
    (cells : layer.costmap.sizeX = 0 ∨ 0 < layer.costmap.resolution) :
    SameHistory layer (layer.resizeFor map) ∧
      (layer.resizeFor map).costmap.sizeX = map.width ∧
      (layer.resizeFor map).costmap.sizeY = map.height ∧
      0 < (layer.resizeFor map).costmap.resolution := by
  simp only [OccupancyGridMsg.validateMsg, Bool.decide_and,
    Bool.and_eq_true, decide_eq_true_eq] at valid
  obtain ⟨-, -, hasWidth, positive, -⟩ := valid
  rw [resizeFor]
  split
  · exact ⟨⟨rfl, rfl, rfl⟩, rfl, rfl, positive⟩
  · split
    · exact ⟨⟨rfl, rfl, rfl⟩, rfl, rfl, positive⟩
    · case isFalse fits =>
      simp only [OccupancyGridMsg.DiffersFrom, not_or, not_not] at fits
      obtain ⟨sizeX, sizeY, -⟩ := fits
      refine ⟨⟨rfl, rfl, rfl⟩, sizeX, sizeY, cells.resolve_left ?_⟩
      rw [sizeX]
      exact hasWidth

/-- The layer shows a map that it loads, and knows that it has changed. -/
structure Loads
    (map : OccupancyGridMsg K)
    (before after : StaticLayer K) : Prop where
  history : SameHistory before after
  shows : Shows before.parameters after.costmap map []
  mapFrame : after.mapFrame = map.frameId
  placed : Placed after
  hasUpdatedData : after.hasUpdatedData = true

theorem processMap_loads
    (valid : map.validateMsg)
    (cells : layer.costmap.sizeX = 0 ∨ 0 < layer.costmap.resolution) :
    Loads map layer (layer.processMap map) := by
  obtain ⟨history, sizeX, sizeY, positive⟩ := resizeFor_spec valid cells
  have grid :
      (layer.processMap map).costmap.toGrid =
        (layer.resizeFor map).costmap.toGrid :=
    Costmap2D.writeWindow_toGrid _ _ _ _ _
  constructor
  · exact ⟨history.parameters, history.mapReceived, history.mapBuffer⟩
  · refine ⟨?_, ?_, fun x xInside y yInside => ?_⟩
    · rw [grid]
      exact sizeX
    · rw [grid]
      exact sizeY
    · have inside : (0 ≤ x ∧ x < 0 + map.width) ∧ 0 ≤ y ∧
          y < 0 + map.height := by
        omega
      refine (Costmap2D.getCost_writeWindow _ ?_ ?_ ?_).trans ?_
      · rw [sizeX, Nat.zero_add]
      · rw [sizeY, Nat.zero_add]
      · rw [sizeX]
        exact xInside
      · rw [if_pos inside]
        rfl
  · rfl
  · refine ⟨rfl, rfl, rfl, rfl, ?_⟩
    rw [grid]
    exact positive
  · rfl

omit [Field K] [LinearOrder K] in
/-- An update that is ignored changes nothing, and another one no size. -/
theorem incomingUpdate_cases
    (layer : StaticLayer K)
    (update : OccupancyGridUpdate) :
    layer.incomingUpdate update = layer ∨
      SameHistory layer (layer.incomingUpdate update) ∧
        (layer.incomingUpdate update).costmap.toGrid =
          layer.costmap.toGrid ∧
        (layer.incomingUpdate update).hasUpdatedData = true ∧
        ((layer.incomingUpdate update).x, (layer.incomingUpdate update).y,
          (layer.incomingUpdate update).width,
          (layer.incomingUpdate update).height) =
          (layer.x, layer.y, layer.width, layer.height) := by
  rw [incomingUpdate]
  split
  · exact Or.inl rfl
  · split
    · exact Or.inl rfl
    · refine Or.inr ⟨⟨rfl, rfl, rfl⟩, ?_, rfl, rfl⟩
      exact Costmap2D.writeWindow_toGrid _ _ _ _ _

/-- An update that fits the map that is shown is written. -/
theorem incomingUpdate_shows
    {updates : List OccupancyGridUpdate}
    {update : OccupancyGridUpdate}
    (shows : Shows layer.parameters layer.costmap map updates)
    (placed : Placed layer)
    (frame : update.frameId = layer.mapFrame)
    (xInside : 0 ≤ update.x ∧ update.x + update.width ≤ map.width)
    (yInside : 0 ≤ update.y ∧ update.y + update.height ≤ map.height) :
    Shows layer.parameters (layer.incomingUpdate update).costmap map
        (updates ++ [update]) ∧
      (layer.incomingUpdate update).mapFrame = layer.mapFrame := by
  have sizes := And.intro shows.sizeX shows.sizeY
  have accepted :
      ¬(update.y < layer.y ∨
        layer.y + layer.height < update.y + update.height ∨
        update.x < layer.x ∨
        layer.x + layer.width < update.x + update.width) := by
    rw [placed.x, placed.y, placed.width, placed.height, sizes.1, sizes.2]
    omega
  rw [incomingUpdate, if_neg accepted, if_neg (not_not.mpr frame)]
  refine ⟨⟨?_, ?_, fun x inside y inside' => ?_⟩, rfl⟩
  · exact (congrArg Grid.sizeX
      (Costmap2D.writeWindow_toGrid _ _ _ _ _)).trans sizes.1
  · exact (congrArg Grid.sizeY
      (Costmap2D.writeWindow_toGrid _ _ _ _ _)).trans sizes.2
  · have covers_iff :
        ((update.x.toNat ≤ x ∧ x < update.x.toNat + update.width) ∧
          update.y.toNat ≤ y ∧ y < update.y.toNat + update.height) ↔
          Covers update x y := by
      simp only [Covers]
      omega
    refine (Costmap2D.getCost_writeWindow _ ?_ ?_ ?_).trans ?_
    · rw [sizes.1]
      omega
    · rw [sizes.2]
      omega
    · rw [sizes.1]
      exact inside
    · simp only [covers_iff, shows.costs x inside y inside']
      rw [mapCost, mapCost, List.foldl_append]
      rfl

/-- A map that was kept is loaded, and nothing else changes. -/
theorem loadBuffered_cases
    (valid : ∀ map ∈ layer.mapBuffer, map.validateMsg)
    (cells : layer.costmap.sizeX = 0 ∨ 0 < layer.costmap.resolution) :
    (layer.mapBuffer = none ∧ layer.loadBuffered = layer) ∨
      ∃ map,
        layer.mapBuffer = some map ∧
          layer.loadBuffered =
            { layer.processMap map with mapBuffer := none } ∧
          Loads map layer (layer.processMap map) := by
  rw [loadBuffered]
  cases buffered : layer.mapBuffer with
  | none =>
      exact Or.inl ⟨rfl, rfl⟩
  | some map =>
      exact Or.inr ⟨map, rfl, rfl,
        processMap_loads (valid map buffered) cells⟩

theorem mapBounds_contains
    [IsStrictOrderedRing K]
    (placed : Placed layer)
    {x y : Nat}
    (xInside : x < layer.costmap.sizeX)
    (yInside : y < layer.costmap.sizeY) :
    layer.mapBounds.Contains (layer.costmap.mapToWorld x y) := by
  have between
      {position size : Nat}
      (inside : position < size)
      (origin : K) :
      origin + ((0 : Nat) + 1 / 2) * layer.costmap.resolution ≤
          origin + (position + 1 / 2) * layer.costmap.resolution ∧
        origin + (position + 1 / 2) * layer.costmap.resolution ≤
          origin + ((0 + size : Nat) + 1 / 2) *
            layer.costmap.resolution := by
    have resolution := placed.positive.le
    have notAbove : position ≤ 0 + size := by
      omega
    constructor
    · gcongr
      exact Nat.zero_le position
    · gcongr
  have acrossX := between xInside layer.costmap.originX
  have acrossY := between yInside layer.costmap.originY
  simp only [mapBounds, placed.x, placed.y, placed.width, placed.height]
  exact ⟨acrossX, acrossY⟩

/-- The layer that reports is the one that has loaded what was kept, and if
this has changed the report includes all centres of cells. -/
theorem updateBounds_spec
    [IsStrictOrderedRing K]
    {layer loaded : StaticLayer K}
    (received : layer.mapReceived = true)
    (isLoaded :
      loadBuffered { layer with mapReceivedInUpdateBounds := true } = loaded)
    (placed : Placed loaded)
    (transformedFootprint : List (K × K))
    (bounds : WorldBounds K) :
    (∃ extraBounds,
      (layer.updateBounds transformedFootprint bounds).1 =
        { loaded with
          hasUpdatedData := false
          extraBounds := extraBounds }) ∧
      (loaded.hasUpdatedData = true →
        ∀ x < loaded.costmap.sizeX, ∀ y < loaded.costmap.sizeY,
          (layer.updateBounds transformedFootprint bounds).2.Contains
            (loaded.costmap.mapToWorld x y)) := by
  rw [updateBounds, if_pos received, isLoaded]
  dsimp only
  split
  · refine ⟨⟨none, rfl⟩, fun _ x xInside y yInside => ?_⟩
    have inMap := mapBounds_contains placed xInside yInside
    rw [updateFootprint]
    split
    · exact inMap.including.foldl_touch _
    · exact inMap.including
  · case isFalse quiet =>
    rw [not_or, Bool.not_eq_true] at quiet
    refine ⟨⟨loaded.extraBounds, ?_⟩, fun updated => ?_⟩
    · rw [← quiet.1]
    · rw [quiet.1] at updated
      cases updated

end Messages

section Runs

variable [Field K] [LinearOrder K] {run : StaticLayerRun K}

/-- What holds at any point of a run.  A map that is kept is the last one, and
if none is kept the layer shows the last one. -/
structure Follows
    (run : StaticLayerRun K) : Prop where
  received : run.layer.mapReceived = run.lastMap.isSome
  buffered : ∀ map ∈ run.layer.mapBuffer, run.lastMap = some map
  valid : ∀ map ∈ run.lastMap, map.validateMsg
  shown :
    run.layer.mapBuffer = none → ∀ map ∈ run.lastMap,
      Shows run.layer.parameters run.layer.costmap map run.updates ∧
        run.layer.mapFrame = map.frameId
  placed : run.layer.mapReceived = true → Placed run.layer
  cells :
    run.layer.costmap.sizeX = 0 ∨ 0 < run.layer.costmap.resolution
  unchanged :
    run.layer.hasUpdatedData = false ∨ run.layer.mapReceived = false →
      run.layer.costmap = run.reported

theorem follows_initial
    {layer : StaticLayer K}
    (initialized : Initialized layer) :
    Follows (StaticLayerRun.initial layer) where
  received := initialized.mapReceived
  buffered := by
    intro map isBuffered
    have none := initialized.mapBuffer.symm.trans isBuffered
    cases none
  valid := by
    intro map isLast
    cases isLast
  shown := by
    intro _ map isLast
    cases isLast
  placed := by
    intro received
    have never := initialized.mapReceived.symm.trans received
    cases never
  cells := initialized.cells
  unchanged := fun _ => rfl

theorem Follows.receiveMap
    (follows : Follows run)
    {map : OccupancyGridMsg K}
    (valid : map.validateMsg) :
    Follows
      { run with
        layer := run.layer.incomingMap map
        lastMap := some map
        updates := []
        report := none } := by
  rw [incomingMap, if_pos valid]
  split
  · case isTrue received =>
    constructor
    · exact received
    · exact fun other isBuffered => isBuffered
    · rintro other ⟨⟩
      exact valid
    · intro noneBuffered
      cases noneBuffered
    · intro _
      exact ⟨(follows.placed received).x, (follows.placed received).y,
        (follows.placed received).width, (follows.placed received).height,
        (follows.placed received).positive⟩
    · exact follows.cells
    · exact follows.unchanged
  · case isFalse notReceived =>
    have loads := processMap_loads valid follows.cells
    have notLast : run.lastMap = none := by
      rw [← Option.not_isSome_iff_eq_none, ← follows.received]
      exact notReceived
    constructor
    · rfl
    · intro other isBuffered
      have wasBuffered : run.layer.mapBuffer = some other :=
        loads.history.mapBuffer.symm.trans isBuffered
      have wasLast := follows.buffered other wasBuffered
      rw [notLast] at wasLast
      cases wasLast
    · rintro other ⟨⟩
      exact valid
    · rintro - other ⟨⟩
      refine ⟨?_, loads.mapFrame⟩
      rw [loads.history.parameters]
      exact loads.shows
    · intro _
      exact ⟨loads.placed.x, loads.placed.y, loads.placed.width,
        loads.placed.height, loads.placed.positive⟩
    · exact Or.inr loads.placed.positive
    · intro quiet
      rcases quiet with quiet | quiet
      · have changed := loads.hasUpdatedData.symm.trans quiet
        cases changed
      · cases quiet

theorem Follows.receiveUpdate
    (follows : Follows run)
    {map : OccupancyGridMsg K}
    {update : OccupancyGridUpdate}
    (isLast : run.lastMap = some map)
    (frame : update.frameId = map.frameId)
    (xInside : 0 ≤ update.x ∧ update.x + update.width ≤ map.width)
    (yInside : 0 ≤ update.y ∧ update.y + update.height ≤ map.height) :
    Follows
      { run with
        layer := run.layer.incomingUpdate update
        updates := run.updates ++ [update]
        report := none } := by
  have received : run.layer.mapReceived = true := by
    rw [follows.received, isLast]
    rfl
  have placed := follows.placed received
  have shows
      (noneBuffered : run.layer.mapBuffer = none) :
      Shows run.layer.parameters (run.layer.incomingUpdate update).costmap
          map (run.updates ++ [update]) ∧
        (run.layer.incomingUpdate update).mapFrame = map.frameId := by
    obtain ⟨before, sameFrame⟩ := follows.shown noneBuffered map isLast
    have after := incomingUpdate_shows before placed
      (frame.trans sameFrame.symm) xInside yInside
    exact ⟨after.1, after.2.trans sameFrame⟩
  rcases incomingUpdate_cases run.layer update with
    ignored | ⟨history, grid, changed, sizes⟩
  · rw [ignored] at shows ⊢
    constructor
    · exact follows.received
    · exact follows.buffered
    · exact follows.valid
    · intro noneBuffered other isOther
      obtain rfl : map = other := Option.some.inj (isLast.symm.trans isOther)
      exact shows noneBuffered
    · exact follows.placed
    · exact follows.cells
    · exact follows.unchanged
  · simp only [Prod.mk.injEq] at sizes
    obtain ⟨x, y, width, height⟩ := sizes
    constructor
    · exact history.mapReceived.trans follows.received
    · intro other isBuffered
      exact follows.buffered other (history.mapBuffer.symm.trans isBuffered)
    · exact follows.valid
    · intro noneBuffered other isOther
      obtain rfl : map = other := Option.some.inj (isLast.symm.trans isOther)
      rw [history.parameters]
      exact shows (history.mapBuffer.symm.trans noneBuffered)
    · intro _
      refine ⟨x.trans placed.x, y.trans placed.y, ?_, ?_, ?_⟩
      · rw [width, grid]
        exact placed.width
      · rw [height, grid]
        exact placed.height
      · rw [grid]
        exact placed.positive
    · rw [grid]
      exact follows.cells
    · intro quiet
      rcases quiet with quiet | quiet
      · have updated := changed.symm.trans quiet
        cases updated
      · have wasReceived := history.mapReceived.trans received
        have never := wasReceived.symm.trans quiet
        cases never

omit [Field K] [LinearOrder K] in
theorem Shows.iff_sameCosts
    {parameters : StaticLayerParameters}
    {costmap : Costmap2D K}
    {map : OccupancyGridMsg K}
    {earlier later : List OccupancyGridUpdate}
    (shows : Shows parameters costmap map earlier) :
    Shows parameters costmap map later ↔
      ∀ x < map.width, ∀ y < map.height,
        mapCost parameters map later x y =
          mapCost parameters map earlier x y := by
  constructor
  · intro showsLater x xInside y yInside
    exact (showsLater.costs x xInside y yInside).symm.trans
      (shows.costs x xInside y yInside)
  · intro same
    refine ⟨shows.sizeX, shows.sizeY, fun x xInside y yInside => ?_⟩
    rw [same x xInside y yInside]
    exact shows.costs x xInside y yInside

/-- What the layer is like when it comes to report. -/
structure ReadyToReport
    (run : StaticLayerRun K)
    (loaded : StaticLayer K) : Prop where
  parameters : loaded.parameters = run.layer.parameters
  mapReceived : loaded.mapReceived = true
  mapBuffer : loaded.mapBuffer = none
  placed : Placed loaded
  mapFrame : ∀ map ∈ run.lastMap, loaded.mapFrame = map.frameId
  noticed : loaded.hasUpdatedData = true ∨ loaded.costmap = run.reported
  shows_iff :
    ∀ map ∈ run.lastMap,
      Shows run.layer.parameters loaded.costmap map run.updates ↔
        ∀ kept ∈ run.layer.mapBuffer, ∀ x < kept.width, ∀ y < kept.height,
          mapCost run.layer.parameters kept run.updates x y =
            mapCost run.layer.parameters kept [] x y

theorem Follows.readyToReport
    (follows : Follows run)
    (received : run.layer.mapReceived = true) :
    ReadyToReport run
      (loadBuffered
        { run.layer with mapReceivedInUpdateBounds := true }) := by
  have placed := follows.placed received
  have valid : ∀ map ∈ run.layer.mapBuffer, map.validateMsg :=
    fun map isBuffered => follows.valid map (follows.buffered map isBuffered)
  rcases @loadBuffered_cases K _ _
      { run.layer with mapReceivedInUpdateBounds := true } valid
      follows.cells with
    ⟨noneBuffered, same⟩ | ⟨map, buffered, isLoaded, loads⟩
  · have shown := follows.shown noneBuffered
    rw [same]
    constructor
    · rfl
    · exact received
    · exact noneBuffered
    · exact ⟨placed.x, placed.y, placed.width, placed.height,
        placed.positive⟩
    · exact fun map isLast => (shown map isLast).2
    · cases updated : run.layer.hasUpdatedData with
      | true =>
          exact Or.inl rfl
      | false =>
          exact Or.inr (follows.unchanged (Or.inl updated))
    · intro map isLast
      refine iff_of_true (shown map isLast).1 fun kept isKept => ?_
      have never := noneBuffered.symm.trans isKept
      cases never
  · have isLast := follows.buffered map buffered
    rw [isLoaded]
    constructor
    · exact loads.history.parameters
    · exact loads.history.mapReceived.trans received
    · rfl
    · exact ⟨loads.placed.x, loads.placed.y, loads.placed.width,
        loads.placed.height, loads.placed.positive⟩
    · intro other isOther
      obtain rfl : map = other := Option.some.inj (isLast.symm.trans isOther)
      exact loads.mapFrame
    · exact Or.inl loads.hasUpdatedData
    · intro other isOther
      obtain rfl : map = other := Option.some.inj (isLast.symm.trans isOther)
      refine loads.shows.iff_sameCosts.trans ?_
      have isKept : run.layer.mapBuffer = some map := buffered
      rw [isKept]
      simp

variable [IsStrictOrderedRing K]

variable
  {transformedFootprint : List (K × K)}
  {bounds : WorldBounds K}
  {next : StaticLayerRun K}

omit [IsStrictOrderedRing K] in
theorem Follows.report_of_not_received
    (follows : Follows run)
    (isNext :
      run.step (.updateBounds transformedFootprint bounds) = some next)
    (received : run.layer.mapReceived = false) :
    (NothingOverwritten run (.updateBounds transformedFootprint bounds) →
      Follows next ∧ Good next) ∧
    (Good next →
      NothingOverwritten run
        (.updateBounds transformedFootprint bounds)) := by
  obtain rfl := Option.some.inj isNext
  have noMap : run.lastMap = none := by
    rw [← Option.not_isSome_iff_eq_none, ← follows.received, received]
    exact Bool.false_ne_true
  have noneBuffered : run.layer.mapBuffer = none := by
    rw [Option.eq_none_iff_forall_not_mem]
    intro map isBuffered
    have isLast := follows.buffered map isBuffered
    rw [noMap] at isLast
    cases isLast
  have same := follows.unchanged (Or.inr received)
  have result :
      run.layer.updateBounds transformedFootprint bounds =
        ({ run.layer with mapReceivedInUpdateBounds := false },
          bounds) := by
    rw [updateBounds, if_neg (by rw [received]; exact Bool.false_ne_true)]
  constructor
  · intro _
    rw [result]
    constructor
    · exact ⟨follows.received, follows.buffered, follows.valid,
        follows.shown, fun now => (by
          have never := received.symm.trans now
          cases never), follows.cells, fun _ => rfl⟩
    · rintro report ⟨⟩
      refine ⟨fun map isLast => ?_, fun x _ y _ changed => ?_⟩
      · have never := noMap.symm.trans isLast
        cases never
      · exact absurd ⟨congrArg Costmap2D.toGrid same,
          congrArg (Costmap2D.getCost · x y) same⟩ changed
  · intro _ map isBuffered
    have never := noneBuffered.symm.trans isBuffered
    cases never

section

variable
  (follows : Follows run)
  (isNext :
    run.step (.updateBounds transformedFootprint bounds) = some next)

include follows isNext

/-- After the first map a report shows the last one, unless an update was
lost. -/
theorem Follows.report_of_received
    (received : run.layer.mapReceived = true) :
    (NothingOverwritten run (.updateBounds transformedFootprint bounds) →
      Follows next ∧ Good next) ∧
    (Good next →
      NothingOverwritten run
        (.updateBounds transformedFootprint bounds)) := by
  obtain rfl := Option.some.inj isNext
  have ready := follows.readyToReport received
  obtain ⟨⟨extraBounds, result⟩, contains⟩ :=
    updateBounds_spec received rfl ready.placed transformedFootprint
      bounds
  constructor
  · intro nothing
    rw [result]
    constructor
    · constructor
      · exact ready.mapReceived.trans (received.symm.trans follows.received)
      · intro map isBuffered
        have never := ready.mapBuffer.symm.trans isBuffered
        cases never
      · exact follows.valid
      · intro _ map isLast
        refine ⟨?_, ready.mapFrame map isLast⟩
        have shows := (ready.shows_iff map isLast).mpr nothing
        rw [← ready.parameters] at shows
        exact shows
      · intro _
        exact ⟨ready.placed.x, ready.placed.y, ready.placed.width,
          ready.placed.height, ready.placed.positive⟩
      · exact Or.inr ready.placed.positive
      · exact fun _ => rfl
    · rintro report ⟨⟩
      constructor
      · intro map isLast
        have shows := (ready.shows_iff map isLast).mpr nothing
        rw [← ready.parameters] at shows
        exact shows
      · intro x xInside y yInside changed
        refine contains (ready.noticed.resolve_right fun same => ?_)
          x xInside y yInside
        exact changed ⟨congrArg Costmap2D.toGrid same,
          congrArg (Costmap2D.getCost · x y) same⟩
  · intro good
    cases isLast : run.lastMap with
    | none =>
        have never := received.symm.trans follows.received
        rw [isLast] at never
        cases never
    | some map =>
        have shows := (good _ rfl).1 map isLast
        rw [result] at shows
        refine (ready.shows_iff map isLast).mp ?_
        rw [← ready.parameters]
        exact shows

theorem Follows.report :
    (NothingOverwritten run (.updateBounds transformedFootprint bounds) →
      Follows next ∧ Good next) ∧
    (Good next →
      NothingOverwritten run
        (.updateBounds transformedFootprint bounds)) := by
  cases received : run.layer.mapReceived with
  | false => exact follows.report_of_not_received isNext received
  | true => exact follows.report_of_received isNext received

end

/--
In every run of valid maps, updates inside the last map and updates of the
bounds, the layer shows the last map with all updates since, and reports all
cells that have changed, exactly when no update that arrives while a map is
kept as a message changes this map.
-/
theorem static_layer_shows_updates_iff
    {layer : StaticLayer K}
    (initialized : Initialized layer)
    (events : List (StaticLayerEvent K))
    (admissible :
      EventRun.Conforms StaticLayerRun.step Admissible
        (StaticLayerRun.initial layer) events) :
    EventRun.Stays StaticLayerRun.step Good
        (StaticLayerRun.initial layer) events ↔
      EventRun.Conforms StaticLayerRun.step NothingOverwritten
        (StaticLayerRun.initial layer) events := by
  have starts :
      Follows (StaticLayerRun.initial layer) ∧
        Good (StaticLayerRun.initial layer) :=
    ⟨follows_initial initialized, fun report none => by cases none⟩
  have isGood
      (run : StaticLayerRun K)
      (holds : Follows run ∧ Good run) :
      Good run :=
    holds.2
  apply EventRun.stays_iff_conforms_of_admissible isGood _ _ starts events
    admissible
  · intro run event holds admitted nothing
    cases event with
    | incomingMap map =>
        exact ⟨_, rfl, holds.1.receiveMap admitted,
          fun report none => by cases none⟩
    | incomingUpdate update =>
        obtain ⟨map, isLast, frame, xInside, yInside⟩ := admitted
        exact ⟨_, rfl, holds.1.receiveUpdate isLast frame xInside yInside,
          fun report none => by cases none⟩
    | updateBounds transformedFootprint bounds =>
        exact ⟨_, rfl, (holds.1.report rfl).1 nothing⟩
  · intro run event holds _ overwritten next isNext good
    cases event with
    | incomingMap map =>
        exact overwritten trivial
    | incomingUpdate update =>
        exact overwritten trivial
    | updateBounds transformedFootprint bounds =>
        exact overwritten ((holds.1.report isNext).2 good)

end Runs

section Example

/-- A layer as it is constructed. -/
def freshLayer : StaticLayer ℚ where
  parameters :=
    { trackUnknownSpace := true
      unknownCostValue := 255
      lethalThreshold := 100
      trinaryCostmap := true
      footprintClearingEnabled := false }
  costmap := Costmap2D.filled ⟨0, 0, 0, 0, 0⟩ freeSpace
  defaultValue := freeSpace
  master := ⟨4, 4, 1, 0, 0⟩
  sizeLocked := false
  mapFrame := ""
  x := 0
  y := 0
  width := 0
  height := 0
  hasUpdatedData := false
  extraBounds := none
  mapReceived := false
  mapReceivedInUpdateBounds := false
  mapBuffer := none
  current := false

/-- A map with one free cell. -/
def freeCell : OccupancyGridMsg ℚ where
  frameId := "map"
  width := 1
  height := 1
  resolution := 1
  originX := 0
  originY := 0
  data := #[0]

/-- The cell becomes an obstacle. -/
def obstacleUpdate : OccupancyGridUpdate where
  frameId := "map"
  x := 0
  y := 0
  width := 1
  height := 1
  data := #[100]
  size_data := rfl

def noBounds : WorldBounds ℚ :=
  ⟨1000, 1000, -1000, -1000⟩

theorem freshLayer_initialized :
    Initialized freshLayer :=
  ⟨rfl, rfl, Or.inl rfl⟩

theorem freeCell_valid :
    freeCell.validateMsg = true := by
  decide +kernel

/-- Without a second map the obstacle is shown. -/
theorem obstacle_after_one_map :
    EventRun.Stays StaticLayerRun.step Good
      (StaticLayerRun.initial freshLayer)
      [.incomingMap freeCell, .incomingUpdate obstacleUpdate,
        .updateBounds [] noBounds] := by
  refine (static_layer_shows_updates_iff freshLayer_initialized _ ?_).mpr ?_
  · refine ⟨freeCell_valid, ?_⟩
    rintro _ ⟨⟩
    refine ⟨⟨freeCell, rfl, rfl, by decide, by decide⟩, ?_⟩
    rintro _ ⟨⟩
    exact ⟨trivial, fun _ _ => trivial⟩
  · refine ⟨trivial, ?_⟩
    rintro _ ⟨⟩
    refine ⟨trivial, ?_⟩
    rintro _ ⟨⟩
    refine ⟨fun map isBuffered => ?_, fun _ _ => trivial⟩
    have noneBuffered :
        ((freshLayer.incomingMap freeCell).incomingUpdate
          obstacleUpdate).mapBuffer.isNone := by
      decide +kernel
    rw [Option.isNone_iff_eq_none] at noneBuffered
    have never := noneBuffered.symm.trans isBuffered
    cases never

/-- An obstacle is lost if a second map was kept when it arrived. -/
theorem obstacle_lost_after_second_map :
    EventRun.Conforms StaticLayerRun.step Admissible
        (StaticLayerRun.initial freshLayer)
        [.incomingMap freeCell, .incomingMap freeCell,
          .incomingUpdate obstacleUpdate, .updateBounds [] noBounds] ∧
      ¬EventRun.Stays StaticLayerRun.step Good
        (StaticLayerRun.initial freshLayer)
        [.incomingMap freeCell, .incomingMap freeCell,
          .incomingUpdate obstacleUpdate, .updateBounds [] noBounds] := by
  constructor
  · refine ⟨freeCell_valid, ?_⟩
    rintro _ ⟨⟩
    refine ⟨freeCell_valid, ?_⟩
    rintro _ ⟨⟩
    refine ⟨⟨freeCell, rfl, rfl, by decide, by decide⟩, ?_⟩
    rintro _ ⟨⟩
    exact ⟨trivial, fun _ _ => trivial⟩
  · intro stays
    obtain ⟨last, reached, good⟩ := stays.reaches
    obtain rfl := Option.some.inj reached
    have shows := (good _ rfl).1 freeCell rfl
    have free := shows.costs 0 (by decide) 0 (by decide)
    exact absurd free (by decide +kernel)

end Example

end StaticLayer

end NavBim
