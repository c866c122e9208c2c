import Mathlib
import NavBim.CostmapWindow
import NavBim.SimpleSmoother

namespace NavBim

/-!
# The static layer

The static layer keeps a map as a costmap.  The first map is loaded when it is
received.  A later one is kept as a message until the bounds are updated, while
updates of the map are written at once.

The layered costmap does not roll, and the static layer is the only one that
resizes it.  Of a message's origin only the position is modelled.
-/

/-- `nav_msgs/OccupancyGrid`. -/
structure OccupancyGridMsg (K : Type) where
  frameId : String
  width : Nat
  height : Nat
  resolution : K
  originX : K
  originY : K
  data : Array Int8

/-- `map_msgs/OccupancyGridUpdate`, with a value for each cell. -/
structure OccupancyGridUpdate where
  frameId : String
  x : Int
  y : Int
  width : Nat
  height : Nat
  data : Array Int8
  size_data : data.size = width * height

structure StaticLayerParameters where
  trackUnknownSpace : Bool
  unknownCostValue : UInt8
  lethalThreshold : UInt8
  trinaryCostmap : Bool
  footprintClearingEnabled : Bool

/-- The part of the world that a layer asks to be updated. -/
structure WorldBounds (K : Type) where
  minX : K
  minY : K
  maxX : K
  maxY : K

structure StaticLayer (K : Type) where
  parameters : StaticLayerParameters
  costmap : Costmap2D K
  defaultValue : UInt8
  /-- The grid of the layered costmap. -/
  master : Grid K
  sizeLocked : Bool
  mapFrame : String
  x : Nat
  y : Nat
  width : Nat
  height : Nat
  hasUpdatedData : Bool
  extraBounds : Option (WorldBounds K)
  mapReceived : Bool
  mapReceivedInUpdateBounds : Bool
  mapBuffer : Option (OccupancyGridMsg K)
  current : Bool

/-- What a value of a map costs.  The scaled value is cut off to an integer, and
it is never so near to one that rounding matters. -/
def StaticLayerParameters.interpretValue
    (parameters : StaticLayerParameters)
    (value : UInt8) : UInt8 :=
  if parameters.trackUnknownSpace ∧
      value = parameters.unknownCostValue then
    noInformation
  else if ¬parameters.trackUnknownSpace ∧
      value = parameters.unknownCostValue then
    freeSpace
  else if parameters.lethalThreshold ≤ value then
    lethalObstacle
  else if parameters.trinaryCostmap then
    freeSpace
  else
    UInt8.ofNat (value.toNat * lethalObstacle.toNat /
      parameters.lethalThreshold.toNat)

namespace WorldBounds

variable {K : Type} [LinearOrder K]

/-- `touch`. -/
def touch
    (bounds : WorldBounds K)
    (point : K × K) : WorldBounds K where
  minX := min point.1 bounds.minX
  minY := min point.2 bounds.minY
  maxX := max point.1 bounds.maxX
  maxY := max point.2 bounds.maxY

/-- Bounds that include a rectangle as well. -/
def including
    (bounds rectangle : WorldBounds K) : WorldBounds K where
  minX := min rectangle.minX bounds.minX
  minY := min rectangle.minY bounds.minY
  maxX := max rectangle.maxX bounds.maxX
  maxY := max rectangle.maxY bounds.maxY

def Contains
    (bounds : WorldBounds K)
    (point : K × K) : Prop :=
  (bounds.minX ≤ point.1 ∧ point.1 ≤ bounds.maxX) ∧
    bounds.minY ≤ point.2 ∧ point.2 ≤ bounds.maxY

instance
    (bounds : WorldBounds K)
    (point : K × K) : Decidable (bounds.Contains point) :=
  inferInstanceAs (Decidable (_ ∧ _))

variable {bounds : WorldBounds K} {point : K × K}

theorem Contains.touch
    (contains : bounds.Contains point)
    (other : K × K) :
    (bounds.touch other).Contains point :=
  ⟨⟨min_le_of_right_le contains.1.1, le_max_of_le_right contains.1.2⟩,
    min_le_of_right_le contains.2.1, le_max_of_le_right contains.2.2⟩

theorem Contains.foldl_touch
    (others : List (K × K))
    (contains : bounds.Contains point) :
    (others.foldl WorldBounds.touch bounds).Contains point := by
  induction others generalizing bounds with
  | nil =>
      exact contains
  | cons other rest inductionHypothesis =>
      exact inductionHypothesis (contains.touch other)

theorem Contains.including
    {rectangle : WorldBounds K}
    (contains : rectangle.Contains point) :
    (bounds.including rectangle).Contains point :=
  ⟨⟨min_le_of_left_le contains.1.1, le_max_of_le_left contains.1.2⟩,
    min_le_of_left_le contains.2.1, le_max_of_le_left contains.2.2⟩

end WorldBounds

namespace OccupancyGridMsg

variable {K : Type}

def grid
    (map : OccupancyGridMsg K) : Grid K where
  sizeX := map.width
  sizeY := map.height
  resolution := map.resolution
  originX := map.originX
  originY := map.originY

/-- `validateMsg`, as far as a message is modelled. -/
def validateMsg
    [Zero K] [LinearOrder K]
    (map : OccupancyGridMsg K) : Bool :=
  map.frameId ≠ "" ∧ map.height ≠ 0 ∧ map.width ≠ 0 ∧ 0 < map.resolution ∧
    map.data.size = map.width * map.height

variable [Field K] [LinearOrder K]

/-- `isEqual` with the tolerance `EPSILON`. -/
def isEqual
    (a b : K) : Prop :=
  |a - b| < 1 / 100000

instance
    (a b : K) : Decidable (isEqual a b) :=
  inferInstanceAs (Decidable (_ < _))

/-- A grid is not the grid of the map, or not nearly. -/
def DiffersFrom
    (map : OccupancyGridMsg K)
    (grid : Grid K) : Prop :=
  grid.sizeX ≠ map.width ∨ grid.sizeY ≠ map.height ∨
    ¬isEqual grid.resolution map.resolution ∨
    ¬isEqual grid.originX map.originX ∨ ¬isEqual grid.originY map.originY

instance
    (map : OccupancyGridMsg K)
    (grid : Grid K) : Decidable (map.DiffersFrom grid) :=
  inferInstanceAs (Decidable (_ ∨ _))

end OccupancyGridMsg

namespace StaticLayer

variable {K : Type}

variable
  (layer : StaticLayer K)

/-- `resizeMap` of the layer's own costmap. -/
def resizeMap
    (grid : Grid K) : StaticLayer K :=
  { layer with costmap := Costmap2D.filled grid layer.defaultValue }

def matchSize
    (layer : StaticLayer K) : StaticLayer K :=
  layer.resizeMap layer.master

/-- `LayeredCostmap::resizeMap` with a locked size. -/
def resizeLayeredCostmap
    (grid : Grid K) : StaticLayer K :=
  matchSize { layer with master := grid, sizeLocked := true }

variable [Field K] [LinearOrder K]

/-- The layer with a grid for the map. -/
def resizeFor
    (newMap : OccupancyGridMsg K) : StaticLayer K :=
  if newMap.DiffersFrom layer.master ∨ ¬layer.sizeLocked then
    layer.resizeLayeredCostmap newMap.grid
  else if newMap.DiffersFrom layer.costmap.toGrid then
    layer.resizeMap newMap.grid
  else
    layer

def processMap
    (newMap : OccupancyGridMsg K) : StaticLayer K :=
  let resized := layer.resizeFor newMap
  let costmap :=
    resized.costmap.writeWindow 0 0 newMap.width
      (fun index =>
        layer.parameters.interpretValue (newMap.data.getD index 0).toUInt8)
      newMap.height
  { resized with
    costmap := costmap
    mapFrame := newMap.frameId
    x := 0
    y := 0
    width := costmap.sizeX
    height := costmap.sizeY
    hasUpdatedData := true
    current := true }

def incomingMap
    (newMap : OccupancyGridMsg K) : StaticLayer K :=
  if newMap.validateMsg then
    if layer.mapReceived then
      { layer with mapBuffer := some newMap }
    else
      { layer.processMap newMap with mapReceived := true }
  else
    layer

omit [Field K] [LinearOrder K] in
def incomingUpdate
    (update : OccupancyGridUpdate) : StaticLayer K :=
  if update.y < layer.y ∨
      layer.y + layer.height < update.y + update.height ∨
      update.x < layer.x ∨
      layer.x + layer.width < update.x + update.width then
    layer
  else if update.frameId ≠ layer.mapFrame then
    layer
  else
    { layer with
      costmap :=
        layer.costmap.writeWindow update.x.toNat update.y.toNat update.width
          (fun di =>
            layer.parameters.interpretValue (update.data.getD di 0).toUInt8)
          update.height
      hasUpdatedData := true }

/-- Load the map that was kept, if any. -/
def loadBuffered
    (layer : StaticLayer K) : StaticLayer K :=
  match layer.mapBuffer with
  | some newMap => { layer.processMap newMap with mapBuffer := none }
  | none => layer

omit [Field K] in
def updateFootprint
    (transformedFootprint : List (K × K))
    (bounds : WorldBounds K) : WorldBounds K :=
  if layer.parameters.footprintClearingEnabled then
    transformedFootprint.foldl WorldBounds.touch bounds
  else
    bounds

/-- The world coordinates of the cells that hold the map. -/
def mapBounds
    (layer : StaticLayer K) : WorldBounds K where
  minX := (layer.costmap.mapToWorld layer.x layer.y).1
  minY := (layer.costmap.mapToWorld layer.x layer.y).2
  maxX :=
    (layer.costmap.mapToWorld (layer.x + layer.width)
      (layer.y + layer.height)).1
  maxY :=
    (layer.costmap.mapToWorld (layer.x + layer.width)
      (layer.y + layer.height)).2

/-- `updateBounds`, with the footprint at the pose of the robot: the layer and
the bounds afterwards. -/
def updateBounds
    (transformedFootprint : List (K × K))
    (bounds : WorldBounds K) : StaticLayer K × WorldBounds K :=
  if layer.mapReceived then
    let loaded :=
      loadBuffered { layer with mapReceivedInUpdateBounds := true }
    if loaded.hasUpdatedData ∨ loaded.extraBounds.isSome then
      let withExtra :=
        match loaded.extraBounds with
        | some extra => bounds.including extra
        | none => bounds
      ({ loaded with hasUpdatedData := false, extraBounds := none },
        loaded.updateFootprint transformedFootprint
          (withExtra.including loaded.mapBounds))
    else
      (loaded, bounds)
  else
    ({ layer with mapReceivedInUpdateBounds := false }, bounds)

end StaticLayer

end NavBim
