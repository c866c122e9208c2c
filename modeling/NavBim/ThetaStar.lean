import NavBim.Costmap2D
import NavBim.Numerals
import NavBim.TopomapPlanner

namespace NavBim.ThetaStar

/-!
# Theta*

The second planner searches the cells of a room costmap.  It keeps the nodes of
its search in one vector and points to them from a second vector with an entry
for each cell, from the queue and from their children.  Both vectors stay when
the planner is called again, with a costmap of another size.

A pointer is the index of a node here.  It is good as long as the vector of nodes
is not moved to other memory, which `reallocated` keeps track of.

The search takes the start into its queue and begins with it at the same time.
It ends when it comes to the goal, or when the queue is empty.
-/

attribute [local instance] atLeastTwo_10

structure CoordsM where
  x : ℤ
  y : ℤ
  deriving Repr, DecidableEq

/-- The costmap has a cell at these coordinates. -/
def CoordsM.Inside
    {K : Type}
    (cell : CoordsM)
    (map : Costmap2D K) : Prop :=
  0 ≤ cell.x ∧ cell.x < map.sizeX ∧ 0 ≤ cell.y ∧ cell.y < map.sizeY

instance {K : Type} (cell : CoordsM) (map : Costmap2D K) :
    Decidable (cell.Inside map) :=
  inferInstanceAs (Decidable (_ ∧ _ ∧ _ ∧ _))

inductive Corners where
  | four
  | eight
  deriving Repr, DecidableEq

def Corners.howMany : Corners → Nat
  | .four => 4
  | .eight => 8

def moves : List CoordsM :=
  [⟨0, 1⟩, ⟨0, -1⟩, ⟨1, 0⟩, ⟨-1, 0⟩, ⟨1, -1⟩, ⟨-1, 1⟩, ⟨1, 1⟩, ⟨-1, -1⟩]

def unknownCost : UInt8 := 255

def occupiedCost : Nat := 254

def maxNonObstacleCost : UInt8 := 252

/-- A node without a cost has an infinite one. -/
structure TreeNode (K : Type) where
  x : ℤ := 0
  y : ℤ := 0
  g : WithTop K := ⊤
  h : WithTop K := ⊤
  parentId : Option Nat := none
  isInQueue : Bool := false
  f : WithTop K := ⊤

/-- The cell of a node. -/
def TreeNode.cell
    {K : Type}
    (node : TreeNode K) : CoordsM :=
  ⟨node.x, node.y⟩

/-- A queue of nodes by key.  The keys change while a node is in the queue, so
nothing is known about which node comes first. -/
structure PriorityQueue (K : Type) where
  push : (Nat → WithTop K) → List Nat → Nat → List Nat
  top : (Nat → WithTop K) → List Nat → Nat
  pop : (Nat → WithTop K) → List Nat → List Nat
  push_perm : ∀ key queue node, (push key queue node).Perm (node :: queue)
  pop_perm : ∀ key queue, queue ≠ [] →
    (top key queue :: pop key queue).Perm queue

/-- What a call is about.  The start is a cell of the costmap.  `stray` is what a
read outside of the costmap gives. -/
structure Request (K : Type) where
  queue : PriorityQueue K
  wTraversalCost : K
  wEucCost : K
  wHeuristicCost : K
  corners : Corners
  allowUnknown : Bool
  costmap : Costmap2D K
  stray : ℤ → ℤ → UInt8
  src : CoordsM
  dst : CoordsM
  srcInside : src.Inside costmap

/-- The planner between two calls: both vectors, the second with its capacity,
and the size of the last costmap. -/
structure Planner (K : Type) where
  nodePosition : Nat → Option Nat
  positionSize : Nat
  nodesData : Nat → TreeNode K
  dataSize : Nat
  dataCapacity : Nat
  sizeX : Nat
  sizeY : Nat

/-- The planner before its first call. -/
def Planner.new {K : Type} : Planner K where
  nodePosition _ := none
  positionSize := 0
  nodesData _ := {}
  dataSize := 0
  dataCapacity := 0
  sizeX := 0
  sizeY := 0

/-- The planner during a call. -/
structure Search (K : Type) extends Planner K where
  indexGenerated : Nat
  queue : List Nat
  curr : Nat
  reallocated : Bool

variable {K : Type}

/-! ## The containers -/

/-- The positions of the last costmap are cleared, and some are added. -/
def initializePosn
    (planner : Planner K)
    (sizeInc : ℤ) : Planner K :=
  { planner with
    nodePosition := fun index =>
      if planner.positionSize ≠ 0 ∧ index < planner.sizeX * planner.sizeY then
        none
      else if planner.positionSize ≤ index ∧
          index < planner.positionSize + sizeInc.toNat then
        none
      else
        planner.nodePosition index
    positionSize := planner.positionSize + sizeInc.toNat }

def resetContainers
    (planner : Planner K)
    (currSizeX currSizeY : Nat) : Planner K :=
  let ready :=
    if (planner.sizeX ≠ currSizeX ∨ planner.sizeY ≠ currSizeY) ∧
        planner.positionSize < currSizeX * currSizeY then
      let grown := initializePosn planner
        ((currSizeY * currSizeX : ℤ) - planner.sizeY * planner.sizeX)
      { grown with
        dataCapacity := max grown.dataCapacity (currSizeX * currSizeY) }
    else
      initializePosn planner 0
  { ready with
    sizeX := currSizeX
    sizeY := currSizeY }

namespace Search

/-- A new node at the end of the vector, or in place of an old one.  A full vector
is moved. -/
def addToNodesData
    (search : Search K)
    (id : Nat) : Search K :=
  if search.dataSize ≤ id then
    { search with
      nodesData := Function.update search.nodesData search.dataSize {}
      dataSize := search.dataSize + 1
      dataCapacity :=
        if search.dataSize = search.dataCapacity then
          max 1 (2 * search.dataCapacity)
        else
          search.dataCapacity
      reallocated :=
        search.reallocated || search.dataSize = search.dataCapacity }
  else
    { search with nodesData := Function.update search.nodesData id {} }

/-- The position of a cell. -/
def index
    (search : Search K)
    (cx cy : ℤ) : Nat :=
  (search.sizeX * cy + cx).toNat

def addIndex
    (search : Search K)
    (cx cy : ℤ)
    (id : Nat) : Search K :=
  { search with
    nodePosition :=
      Function.update search.nodePosition (search.index cx cy) (some id) }

def getIndex
    (search : Search K)
    (cx cy : ℤ) : Option Nat :=
  search.nodePosition (search.index cx cy)

def setNode
    (search : Search K)
    (id : Nat)
    (node : TreeNode K) : Search K :=
  { search with nodesData := Function.update search.nodesData id node }

def currData (search : Search K) : TreeNode K :=
  search.nodesData search.curr

/-- The keys of the queue. -/
def key (search : Search K) : Nat → WithTop K :=
  fun id => (search.nodesData id).f

end Search

/-! ## Costs -/

namespace Request

def withinLimits
    (request : Request K)
    (cx cy : ℤ) : Prop :=
  CoordsM.Inside ⟨cx, cy⟩ request.costmap

instance (request : Request K) (cx cy : ℤ) :
    Decidable (request.withinLimits cx cy) :=
  inferInstanceAs (Decidable (CoordsM.Inside _ _))

/-- What the costmap returns for a cell. -/
def cellCost
    (request : Request K)
    (cx cy : ℤ) : UInt8 :=
  if request.withinLimits cx cy then
    request.costmap.getCost cx.toNat cy.toNat
  else
    request.stray cx cy

def isSafe
    (request : Request K)
    (cx cy : ℤ) : Prop :=
  (request.cellCost cx cy = unknownCost ∧ request.allowUnknown) ∨
    request.cellCost cx cy ≤ maxNonObstacleCost

instance (request : Request K) (cx cy : ℤ) :
    Decidable (request.isSafe cx cy) :=
  inferInstanceAs (Decidable (_ ∨ _))

def isGoal
    (request : Request K)
    (node : TreeNode K) : Prop :=
  node.x = request.dst.x ∧ node.y = request.dst.y

instance (request : Request K) (node : TreeNode K) :
    Decidable (request.isGoal node) :=
  inferInstanceAs (Decidable (_ ∧ _))

variable [Field K]

/-- The cost of a cell, moved away from zero. -/
def scaledCost (cost : UInt8) : K :=
  26 + 9 / 10 * cost.toNat

/-- The price of a scaled cost. -/
def price
    (request : Request K)
    (cost : K) : K :=
  request.wTraversalCost * cost * cost / maxNonObstacleCost.toNat /
    maxNonObstacleCost.toNat

def getTraversalCost
    (request : Request K)
    (cx cy : ℤ) : K :=
  request.price (scaledCost (request.cellCost cx cy))

variable [SquareRoot K]

def hypot (x y : ℤ) : K :=
  SquareRoot.sqrt ((x : K) ^ 2 + (y : K) ^ 2)

def getEuclideanCost
    (request : Request K)
    (ax ay bx bY : ℤ) : K :=
  request.wEucCost * hypot (ax - bx) (ay - bY)

def getHCost
    (request : Request K)
    (cx cy : ℤ) : K :=
  request.wHeuristicCost * hypot (cx - request.dst.x) (cy - request.dst.y)

/-! ## Line of sight -/

variable [LinearOrder K]

/-- Add the price of a cell on the line, if the line may pass it. -/
def addCellPrice
    (request : Request K)
    (cx cy : ℤ)
    (slCost : K) : Option K :=
  let cost := request.cellCost cx cy
  if (cost = unknownCost ∧ request.allowUnknown) ∨
      (scaledCost cost : K) ≤ maxNonObstacleCost.toNat then
    let currCost : K :=
      if cost = unknownCost then (occupiedCost - 1 : Nat) else scaledCost cost
    some (slCost + request.price currCost)
  else
    none

/-- A point on the line: its longer and its shorter coordinate, the rest of the
division and the cost so far. -/
structure LinePoint (K : Type) where
  major : ℤ
  minor : ℤ
  f : ℤ
  slCost : K

/-- A line by its longer and its shorter side. -/
structure Line where
  dMajor : ℤ
  dMinor : ℤ
  sMajor : ℤ
  sMinor : ℤ

/-- The cell beside a point, on the way of the line. -/
def Line.beside (direction : ℤ) : ℤ :=
  (direction - 1) / 2

section Step

-- `add` adds the price of a cell.
variable (add : ℤ → ℤ → K → Option K) (line : Line)

/-- Go on to the next row when the line crosses its edge. -/
def crossMinor (point : LinePoint K) : Option (LinePoint K) :=
  let f := point.f + line.dMinor
  if line.dMajor ≤ f then
    (add (point.major + Line.beside line.sMajor)
      (point.minor + Line.beside line.sMinor) point.slCost).map fun slCost =>
        { point with
          minor := point.minor + line.sMinor
          f := f - line.dMajor
          slCost := slCost }
  else
    some { point with f := f }

/-- The line passes a cell of the row, unless it goes through a corner. -/
def passCell (point : LinePoint K) : Option (LinePoint K) :=
  if point.f ≠ 0 then
    (add (point.major + Line.beside line.sMajor)
      (point.minor + Line.beside line.sMinor) point.slCost).map fun slCost =>
        { point with slCost := slCost }
  else
    some point

/-- A straight line passes between two rows, and one of them is enough. -/
def passBeside (point : LinePoint K) : Option (LinePoint K) :=
  if line.dMinor = 0 then
    let first := add (point.major + Line.beside line.sMajor) point.minor
      point.slCost
    let second := add (point.major + Line.beside line.sMajor)
      (point.minor - 1) point.slCost
    (first.or second).map fun slCost => { point with slCost := slCost }
  else
    some point

/-- One step along the longer side. -/
def lineStep (point : LinePoint K) : Option (LinePoint K) :=
  (crossMinor add line point).bind fun point =>
    (passCell add line point).bind fun point =>
      (passBeside add line point).map fun point =>
        { point with major := point.major + line.sMajor }

end Step

/-- So many steps. -/
def walkLine
    (add : ℤ → ℤ → K → Option K)
    (line : Line) : Nat → LinePoint K → Option K
  | 0, point => some point.slCost
  | steps + 1, point => do
      let next ← lineStep add line point
      walkLine add line steps next

/-- The cost of the straight line between two cells, if it is free. -/
def losCheck
    (request : Request K)
    (x0 y0 x1 y1 : ℤ) : Option K :=
  let dx := |x1 - x0|
  let dy := |y1 - y0|
  let sx := if x0 < x1 then 1 else -1
  let sy := if y0 < y1 then 1 else -1
  if dy ≤ dx then
    walkLine request.addCellPrice ⟨dx, dy, sx, sy⟩ dx.toNat ⟨x0, y0, 0, 0⟩
  else
    walkLine (fun cy cx => request.addCellPrice cx cy) ⟨dy, dx, sy, sx⟩
      dy.toNat ⟨y0, x0, 0, 0⟩

end Request

/-! ## The search -/

variable [Field K] [SquareRoot K] [LinearOrder K]

/-- The start is its own parent. -/
def srcNode (request : Request K) : TreeNode K :=
  let srcGCost := request.getTraversalCost request.src.x request.src.y
  let srcHCost := request.getHCost request.src.x request.src.y
  {
    x := request.src.x
    y := request.src.y
    g := srcGCost
    h := srcHCost
    parentId := some 0
    isInQueue := true
    f := (srcGCost + srcHCost : K)
  }

variable
  (request : Request K)

/-- The containers are reset, and the start is the first node.  There are no
pointers before this node. -/
def startSearch
    (planner : Planner K) : Search K :=
  let ready := resetContainers planner request.costmap.sizeX
    request.costmap.sizeY
  let search : Search K := { ready with
    indexGenerated := 0
    queue := []
    curr := 0
    reallocated := false }
  let search := (search.addToNodesData 0).setNode 0 (srcNode request)
  let search := { search with
    queue := request.queue.push search.key search.queue 0 }
  let search := search.addIndex request.src.x request.src.y 0
  { search with
    indexGenerated := 1
    reallocated := false }

/-- Take the parent's parent for the parent if it is in sight and this is cheaper.
Nodes that were in the queue have a parent. -/
def resetParent
    (search : Search K) : Search K :=
  let curr := { search.currData with isInQueue := false }
  let search := search.setNode search.curr curr
  match curr.parentId.bind fun parent => (search.nodesData parent).parentId with
  | none => search
  | some maybePar =>
      let other := search.nodesData maybePar
      match request.losCheck curr.x curr.y other.x other.y with
      | none => search
      | some losCost =>
          let gCost := other.g +
            (request.getEuclideanCost curr.x curr.y other.x other.y : K) +
              (losCost : K)
          if gCost < curr.g then
            search.setNode search.curr { curr with
              parentId := some maybePar
              g := gCost
              f := gCost + curr.h }
          else
            search

variable
  (search : Search K)

/-- The node of a cell, which is made if there is none. -/
def nodeAt
    (mx my : ℤ) : Search K × Nat :=
  match search.getIndex mx my with
  | some id => (search, id)
  | none =>
      let id := search.indexGenerated
      let search := (search.addToNodesData id).addIndex mx my id
      ({ search with indexGenerated := id + 1 }, id)

/-- A better way to a node is kept, and the node is put into the queue. -/
def improveNode
    (id : Nat)
    (mx my : ℤ)
    (gCost : WithTop K) : Search K :=
  let hCost := request.getHCost mx my
  let calCost := gCost + (hCost : K)
  let node := search.nodesData id
  if calCost < node.f then
    let better := { node with
      g := gCost
      h := hCost
      f := calCost
      parentId := some search.curr }
    if node.isInQueue then
      search.setNode id better
    else
      let search := search.setNode id { better with
        x := mx
        y := my
        isInQueue := true }
      { search with queue := request.queue.push search.key search.queue id }
  else
    search

def setNeighbor
    (move : CoordsM) : Search K :=
  let curr := search.currData
  let mx := curr.x + move.x
  let my := curr.y + move.y
  if request.withinLimits mx my ∧ request.isSafe mx my then
    let gCost := curr.g +
      (request.getEuclideanCost curr.x curr.y mx my : K) +
        (request.getTraversalCost mx my : K)
    let (search, id) := nodeAt search mx my
    improveNode request search id mx my gCost
  else
    search

def setNeighbors
    (search : Search K) : Search K :=
  (moves.take request.corners.howMany).foldl (setNeighbor request) search

/-- Look at the current node. -/
def expand
    (search : Search K) : Search K :=
  setNeighbors request (resetParent request search)

/-- Take the next node from the queue. -/
def takeNext
    (search : Search K) : Search K :=
  { search with
    curr := request.queue.top search.key search.queue
    queue := request.queue.pop search.key search.queue }

/-- How a pass of the loop ends.  Nothing is known after the nodes were moved. -/
inductive Pass (K : Type) where
  | found
  | failed
  | dangling
  | next (search : Search K)

def pass
    (search : Search K) : Pass K :=
  if request.isGoal search.currData then
    .found
  else if (expand request search).reallocated then
    .dangling
  else if (takeNext request (expand request search)).queue = [] then
    .failed
  else
    .next (takeNext request (expand request search))

/-- The nodes from one up to the start, within so many steps. -/
def parents
    (search : Search K) : Nat → Nat → Option (List Nat)
  | 0, _ => none
  | fuel + 1, id =>
      match (search.nodesData id).parentId with
      | none => none
      | some parent =>
          if parent = id then
            some [id]
          else
            (parents search fuel parent).map (id :: ·)

/-- The loop writes the first node twice. -/
def backtrace
    (fuel : Nat) : Option (List (K × K)) :=
  (parents search fuel search.curr).map fun ids =>
    ((search.curr :: ids).map fun id =>
      request.costmap.mapToWorld (search.nodesData id).x.toNat
        (search.nodesData id).y.toNat).reverse

/-- What the function returns, and the path. -/
structure Outcome (K : Type) where
  success : Bool
  rawPath : List (K × K)

def searchLoop
    (request : Request K) : Nat → Search K → Option (Outcome K)
  | 0, _ => none
  | fuel + 1, search =>
      match pass request search with
      | .found =>
          (backtrace request search fuel).map fun path =>
            { success := true, rawPath := path }
      | .failed => some { success := false, rawPath := [] }
      | .dangling => none
      | .next search => searchLoop request fuel search

/-- The call, if it is defined and ends within so many steps. -/
def generatePath
    (planner : Planner K)
    (fuel : Nat) : Option (Outcome K) :=
  searchLoop request fuel (startSearch request planner)

end NavBim.ThetaStar
