import Mathlib
import NavBim.CostmapWindow
import NavBim.Numerals

namespace NavBim

/-!
# Publishing a costmap

The publisher sends the whole costmap when its size, its resolution or its
origin is not what it was at the last such message, and else the window of the
cells that may have changed.  A subscriber keeps a whole costmap as a message
until it is needed.

The resolution of a message is a number of a smaller type.  How numbers are
converted, and how sums and products are rounded, is a parameter.
-/

attribute [local instance] atLeastTwo_2

/-- The conversions between the two types of numbers, and the number that stands
for a result of the larger type. -/
structure FloatConversion (K F : Type) where
  toFloat : K → F
  toDouble : F → K
  round : K → K

structure CostmapMsg (K F : Type) where
  resolution : F
  sizeX : Nat
  sizeY : Nat
  originX : K
  originY : K
  data : Array UInt8
  size_data : data.size = sizeX * sizeY

structure CostmapUpdateMsg where
  x : Nat
  y : Nat
  sizeX : Nat
  sizeY : Nat
  data : Array UInt8
  size_data : data.size = sizeX * sizeY

/-- A message of the topic for whole costmaps or of the one for updates. -/
inductive RawMessage (K F : Type) where
  | costmap (msg : CostmapMsg K F)
  | update (msg : CostmapUpdateMsg)

/-- What the publisher compares to decide what to send. -/
structure GridParams (K F : Type) where
  gridResolution : F
  gridWidth : Nat
  gridHeight : Nat
  savedOriginX : K
  savedOriginY : K
  deriving DecidableEq

/-- Bounds of cells, the upper ones being excluded. -/
structure CellBounds where
  x0 : Nat
  xn : Nat
  y0 : Nat
  yn : Nat
  x0_le : x0 ≤ xn
  y0_le : y0 ≤ yn

structure Costmap2DPublisher (K F : Type) where
  costmap : Costmap2D K
  alwaysSendFullCostmap : Bool
  saved : GridParams K F
  x0 : Nat
  xn : Nat
  y0 : Nat
  yn : Nat

structure CostmapSubscriber (K F : Type) where
  costmap : Option (Costmap2D K)
  costmapMsg : Option (CostmapMsg K F)

namespace Costmap2DPublisher

variable {K F : Type}

/-- The parameters that `updateGridParams` saves. -/
def gridParams
    (floats : FloatConversion K F)
    (costmap : Costmap2D K) : GridParams K F where
  gridResolution := floats.toFloat costmap.resolution
  gridWidth := costmap.sizeX
  gridHeight := costmap.sizeY
  savedOriginX := costmap.originX
  savedOriginY := costmap.originY

def updateBounds
    (publisher : Costmap2DPublisher K F)
    (bounds : CellBounds) : Costmap2DPublisher K F :=
  { publisher with
    x0 := min bounds.x0 publisher.x0
    xn := max bounds.xn publisher.xn
    y0 := min bounds.y0 publisher.y0
    yn := max bounds.yn publisher.yn }

/-- No cell has changed since. -/
def resetBounds
    (publisher : Costmap2DPublisher K F) : Costmap2DPublisher K F :=
  { publisher with
    xn := 0
    yn := 0
    x0 := publisher.costmap.sizeX
    y0 := publisher.costmap.sizeY }

/-- The origin along one axis, from the centre of the first cell. -/
def originOfCenter
    [Field K]
    (floats : FloatConversion K F)
    (origin resolution : K) : K :=
  let center := floats.round (origin + floats.round ((0 + 1 / 2) * resolution))
  floats.round (center - floats.round (resolution / 2))

def prepareCostmap
    [Field K]
    (floats : FloatConversion K F)
    (costmap : Costmap2D K) : CostmapMsg K F where
  resolution := floats.toFloat costmap.resolution
  sizeX := costmap.sizeX
  sizeY := costmap.sizeY
  originX := originOfCenter floats costmap.originX costmap.resolution
  originY := originOfCenter floats costmap.originY costmap.resolution
  data := costmap.costmap
  size_data := costmap.size_costmap

def createCostmapUpdateMsg
    (publisher : Costmap2DPublisher K F) : CostmapUpdateMsg where
  x := publisher.x0
  y := publisher.y0
  sizeX := publisher.xn - publisher.x0
  sizeY := publisher.yn - publisher.y0
  data := publisher.costmap.window publisher.x0 publisher.y0
    (publisher.xn - publisher.x0) (publisher.yn - publisher.y0)
  size_data := Costmap2D.size_window _ _ _ _

/-- A publish is due to send the whole costmap. -/
def sendsCostmap
    [DecidableEq K]
    [DecidableEq F]
    (floats : FloatConversion K F)
    (publisher : Costmap2DPublisher K F) : Bool :=
  publisher.alwaysSendFullCostmap ||
    publisher.saved ≠ gridParams floats publisher.costmap

/-- The publisher after a publish, and the message if one was sent.  A topic
without subscribers gets no message. -/
def publishCostmap
    [Field K]
    [DecidableEq K]
    [DecidableEq F]
    (floats : FloatConversion K F)
    (publisher : Costmap2DPublisher K F)
    (isEnabled hasSubscribers hasUpdateSubscribers : Bool) :
    Costmap2DPublisher K F × Option (RawMessage K F) :=
  if !isEnabled then
    (publisher, none)
  else if publisher.sendsCostmap floats then
    ({ publisher with
        saved := gridParams floats publisher.costmap }.resetBounds,
      if hasSubscribers then
        some (.costmap (prepareCostmap floats publisher.costmap))
      else
        none)
  else
    (publisher.resetBounds,
      if publisher.x0 < publisher.xn && hasUpdateSubscribers then
        some (.update publisher.createCostmapUpdateMsg)
      else
        none)

end Costmap2DPublisher

namespace CostmapSubscriber

variable {K F : Type} [DecidableEq K]

def initial : CostmapSubscriber K F where
  costmap := none
  costmapMsg := none

variable
  (floats : FloatConversion K F)

/-- The grid that a message is about. -/
def gridOf
    (msg : CostmapMsg K F) : Grid K where
  sizeX := msg.sizeX
  sizeY := msg.sizeY
  resolution := floats.toDouble msg.resolution
  originX := msg.originX
  originY := msg.originY

variable
  (costmap : Costmap2D K)

def haveCostmapParametersChanged
    (msg : CostmapMsg K F) : Bool :=
  (costmap.sizeX ≠ msg.sizeX || costmap.sizeY ≠ msg.sizeY) ||
    costmap.resolution ≠ floats.toDouble msg.resolution ||
    (costmap.originX ≠ msg.originX || costmap.originY ≠ msg.originY)

/-- Copy costs over the first cells. -/
def copyCosts
    (costs : Array UInt8) : Costmap2D K :=
  { costmap with
    costmap := costmap.costmap.mapIdx fun index cost => costs.getD index cost
    size_costmap := Array.size_mapIdx.trans costmap.size_costmap }

/-- `processCurrentCostmapMsg` for the message that was kept. -/
def processMsg
    (msg : CostmapMsg K F) : Costmap2D K :=
  if haveCostmapParametersChanged floats costmap msg then
    copyCosts (.filled (gridOf floats msg) freeSpace) msg.data
  else
    copyCosts costmap msg.data

variable
  (subscriber : CostmapSubscriber K F)

/-- The costmap with the message that was kept, if there is one. -/
def processCurrentCostmapMsg
    (costmap : Costmap2D K) : CostmapSubscriber K F :=
  match subscriber.costmapMsg with
  | some msg =>
      { costmap := some (processMsg floats costmap msg), costmapMsg := none }
  | none => { costmap := some costmap, costmapMsg := none }

def costmapCallback
    (msg : CostmapMsg K F) : CostmapSubscriber K F :=
  let kept := { subscriber with costmapMsg := some msg }
  match subscriber.costmap with
  | some _ => kept
  | none =>
      kept.processCurrentCostmapMsg floats
        (.filled (gridOf floats msg) freeSpace)

/-- Copy the rows of an update, if they are inside of the costmap. -/
def copyUpdate
    (msg : CostmapUpdateMsg) : Costmap2D K :=
  if costmap.sizeX < msg.x + msg.sizeX ∨ costmap.sizeY < msg.y + msg.sizeY then
    costmap
  else
    costmap.writeWindow msg.x msg.y msg.sizeX
      (fun index => msg.data.getD index freeSpace) msg.sizeY

def costmapUpdateCallback
    (msg : CostmapUpdateMsg) : CostmapSubscriber K F :=
  match subscriber.costmap with
  | none => subscriber
  | some costmap =>
      let processed := subscriber.processCurrentCostmapMsg floats costmap
      { processed with
        costmap := processed.costmap.map (copyUpdate · msg) }

/-- The costmap and the subscriber after asking for it.  Without a costmap
there is an exception. -/
def getCostmap
    (subscriber : CostmapSubscriber K F) :
    Option (Costmap2D K) × CostmapSubscriber K F :=
  match subscriber.costmap with
  | none => (none, subscriber)
  | some costmap =>
      let processed := subscriber.processCurrentCostmapMsg floats costmap
      (processed.costmap, processed)

def receive
    (subscriber : CostmapSubscriber K F) :
    RawMessage K F → CostmapSubscriber K F
  | .costmap msg => subscriber.costmapCallback floats msg
  | .update msg => subscriber.costmapUpdateCallback floats msg

end CostmapSubscriber

end NavBim
