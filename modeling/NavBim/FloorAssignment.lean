import NavBim.FirstGreatest
import NavBim.FloorManager
import NavBim.TopologyGraph

namespace NavBim

/-!
# Elements on floors

Every element is assigned to the floors that it overlaps.  In a building with
several floors those without an end of a stair or ramp are removed afterwards.
A removed floor leaves its elements and its height to the nearest floor below
that stays, if there is one.
-/

structure VerticalBox (K : Type) where
  minZ : K
  maxZ : K

/-- An element before it is assigned.  Whether it is a physical part of a stair
or ramp follows from the assemblies of the IFC file. -/
structure PlacedElement (K : Type) where
  elementType : ElementType
  bbox : Option (VerticalBox K)
  physicalPartOfStairOrRamp : Bool

structure AssignedElement (K : Type) where
  element : PlacedElement K
  floor : List String
  startFloor : Option String
  endFloor : Option String

structure FloorAssignment (K Shape : Type) where
  elements : List (AssignedElement K)
  floors : OrderedDict String (Floor K Shape)

def ElementType.isStairOrRamp : ElementType → Bool
  | .ifcStair => true
  | .ifcStairFlight => true
  | .ifcRamp => true
  | .ifcRampFlight => true
  | .ifcSpace => false
  | .ifcDoor => false
  | .other _ => false

section Model

variable
  {K Shape : Type}
  [Field K]
  [LinearOrder K]

/-- The vertical overlap of an element and a floor. -/
def calculateOverlap
    (element : VerticalBox K)
    (floor : Floor K Shape) : WithBot K :=
  if element.minZ ≤ floor.minZ then
    if element.maxZ ≤ floor.minZ then
      (0 : K)
    else if floor.maxZ ≤ element.maxZ then
      floor.maxZ.map (· - floor.minZ)
    else if floor.minZ < element.maxZ then
      (element.maxZ - floor.minZ : K)
    else
      (0 : K)
  else
    if floor.maxZ ≤ element.minZ then
      (0 : K)
    else if (element.maxZ : WithBot K) ≤ floor.maxZ then
      (element.maxZ - element.minZ : K)
    else if floor.minZ < element.maxZ then
      floor.maxZ.map (· - element.minZ)
    else
      (0 : K)

/-- The first floor whose lower end is nearest to a height. -/
def findNearestFloor
    (floors : OrderedDict String (Floor K Shape))
    (height : K) : Option String :=
  (floors.entries.foldl
    (fun nearest entry =>
      let diff := |entry.2.minZ - height|
      match nearest with
      | none => some (diff, entry.1)
      | some (smallestDiff, name) =>
          if diff < smallestDiff then
            some (diff, entry.1)
          else
            some (smallestDiff, name))
    none).map Prod.snd

/-- The floors of a kind by their lower ends. -/
def floorsByHeight
    (isOfKind : FloorKind → Bool)
    (floors : OrderedDict String (Floor K Shape)) :
    List (String × Floor K Shape) :=
  (floors.entries.filter fun entry => isOfKind entry.2.kind).insertionSort
    fun first second => first.2.minZ ≤ second.2.minZ

def FloorKind.isStairSlab : FloorKind → Bool
  | .regular => false
  | .stairSlab _ => true

variable
  (verticalTolerance : K)

/-- Slabs also belong to the floor above them, and other elements only to floors
that they do not just reach from below. -/
def belongsTo
    (elementType : ElementType)
    (box : VerticalBox K)
    (floor : Floor K Shape) : Bool :=
  let overlap := calculateOverlap box floor
  if elementType = .other "IfcSlab" ∧
      (((1 / 20 : K) : WithBot K) < overlap ∨
        floor.minZ - verticalTolerance ≤ box.maxZ ∧
          (box.maxZ : WithBot K) < floor.maxZ) then
    true
  else
    ((1 / 20 : K) : WithBot K) < overlap ∧
      ¬floor.maxZ.map (· - verticalTolerance) ≤ box.minZ

/-- A part of a stair reaches the stair floor with one of its ends, or covers
it. -/
def touches
    (box : VerticalBox K)
    (floor : Floor K Shape) : Bool :=
  (floor.minZ ≤ box.minZ ∧ (box.minZ : WithBot K) < floor.maxZ) ∨
    (floor.minZ ≤ box.maxZ ∧ (box.maxZ : WithBot K) < floor.maxZ) ∨
    (box.minZ ≤ floor.minZ ∧ floor.maxZ ≤ box.maxZ)

def assignElement
    (floors : OrderedDict String (Floor K Shape))
    (element : PlacedElement K) : AssignedElement K :=
  match element.bbox with
  | none => ⟨element, [], none, none⟩
  | some box =>
      let regular :=
        ((floorsByHeight (!·.isStairSlab) floors).filter fun entry =>
          belongsTo verticalTolerance element.elementType box entry.2).map
            Prod.fst
      if element.physicalPartOfStairOrRamp then
        let stair :=
          ((floorsByHeight FloorKind.isStairSlab floors).filter fun entry =>
            touches box entry.2).map Prod.fst
        if element.elementType.isStairOrRamp then
          ⟨element, regular ++ stair, findNearestFloor floors box.minZ,
            findNearestFloor floors box.maxZ⟩
        else
          ⟨element, regular ++ stair, none, none⟩
      else
        ⟨element, regular, none, none⟩

/-- The elements on the floors of the building. -/
def assignToAllFloors
    (elements : List (PlacedElement K))
    (floors : OrderedDict String (Floor K Shape)) :
    FloorAssignment K Shape where
  elements := elements.map (assignElement verticalTolerance floors)
  floors := floors

/-- The names of the floors with an end of a stair or ramp.  An empty name
counts as no name. -/
def reachableFloors
    (elements : List (AssignedElement K)) : List String :=
  elements.flatMap fun element =>
    if element.element.elementType.isStairOrRamp then
      (element.startFloor.toList ++ element.endFloor.toList).filter (· ≠ "")
    else
      []

def floorsToRemove
    (assignment : FloorAssignment K Shape) : List (String × Floor K Shape) :=
  assignment.floors.entries.filter fun entry =>
    entry.1 ∉ reachableFloors assignment.elements

/-- The nearest floor below that is not removed. -/
def floorBelow
    (removedNames : List String)
    (floors : OrderedDict String (Floor K Shape))
    (removed : String × Floor K Shape) : Option (String × Floor K Shape) :=
  floors.entries.foldl
    (fun below candidate =>
      if candidate.1 ≠ removed.1 ∧ candidate.1 ∉ removedNames ∧
          candidate.2.minZ < removed.2.minZ then
        match below with
        | none => some candidate
        | some held =>
            if held.2.minZ < candidate.2.minZ then some candidate
            else some held
      else
        below)
    none

/-- The element leaves a floor. -/
def AssignedElement.leave
    (floorName : String)
    (element : AssignedElement K) : AssignedElement K :=
  { element with floor := element.floor.erase floorName }

/-- The element leaves a floor for another one. -/
def AssignedElement.shift
    (floorName belowName : String)
    (element : AssignedElement K) : AssignedElement K :=
  if floorName ∈ element.floor then
    let rest := element.floor.erase floorName
    { element with
      floor := if belowName ∈ rest then rest else rest ++ [belowName] }
  else
    element

/-- Remove one floor.  An empty name counts as no floor below. -/
def removeFloor
    (removedNames : List String)
    (assignment : FloorAssignment K Shape)
    (removed : String × Floor K Shape) : FloorAssignment K Shape :=
  match floorBelow removedNames assignment.floors removed with
  | some (belowName, below) =>
      if belowName ≠ "" then
        { elements := assignment.elements.map
            (AssignedElement.shift removed.1 belowName)
          floors := (assignment.floors.set belowName
            { below with maxZ := max below.maxZ removed.2.maxZ }).pop
              removed.1 }
      else
        { elements := assignment.elements.map
            (AssignedElement.leave removed.1)
          floors := assignment.floors.pop removed.1 }
  | none =>
      { elements := assignment.elements.map (AssignedElement.leave removed.1)
        floors := assignment.floors.pop removed.1 }

/-- In a building with several floors remove those that cannot be reached. -/
def removeUnreachableFloors
    (assignment : FloorAssignment K Shape) : FloorAssignment K Shape :=
  if 1 < (floorsByHeight (!·.isStairSlab) assignment.floors).length then
    let toRemove := floorsToRemove assignment
    toRemove.foldl (removeFloor (toRemove.map Prod.fst)) assignment
  else
    assignment

def assignElementsToFloors
    (elements : List (PlacedElement K))
    (floors : OrderedDict String (Floor K Shape)) :
    FloorAssignment K Shape :=
  removeUnreachableFloors (assignToAllFloors verticalTolerance elements floors)

end Model

end NavBim
