import NavBim.Numerals
import NavBim.OrderedDict

namespace NavBim

/-!
# Floors of a building

The generator takes the floors of a building from its slabs and storeys.  A
slab with a large area gives an elevation, close elevations are merged, and the
storeys add theirs.  Each elevation becomes a floor that reaches up to the next
one, the last one up to the highest point of the building.

Floors are named after storeys and are kept under their names.  So every
elevation has its floor, and the floors fill the height of the building, unless
two of them get one name.
-/

attribute [local instance] atLeastTwo_10

inductive SlabType where
  | floor
  | roof
  | landing
  | baseslab
  | other
  deriving Repr, DecidableEq

/-- `elevation` is `none` without the attribute and `some none` if the
attribute has no value. -/
structure IFCStorey (K : Type) where
  name : Option String
  elevation : Option (Option K)

inductive IFCDescription (K : Type) where
  | slab (predefinedType : Option SlabType) (partOfStairOrRamp : Bool)
  | buildingStorey (storey : IFCStorey K)
  | other

/-- An element with the upper end of its bounding box. -/
structure IFCElement (K Shape : Type) where
  description : IFCDescription K
  maxZ : Option K
  polygon : Option Shape

/-- The geometry library.  A union is taken after `buffer(0)`, and it is `none`
if the library raises. -/
structure PolygonOps (K Shape : Type) where
  isEmpty : Shape → Bool
  area : Shape → K
  union : Shape → Shape → Option Shape

inductive FloorKind where
  | regular
  | stairSlab (parentFloor : String)
  deriving Repr, DecidableEq

structure Floor (K Shape : Type) where
  floorName : String
  minZ : K
  maxZ : WithBot K
  polygon : Option Shape
  kind : FloorKind
  deriving DecidableEq

/-! ## Valid names -/

def replaceUmlaut : Char → List Char
  | 'ü' => ['u', 'e']
  | 'ö' => ['o', 'e']
  | 'ä' => ['a', 'e']
  | 'Ü' => ['U', 'e']
  | 'Ö' => ['O', 'e']
  | 'Ä' => ['A', 'e']
  | 'ß' => ['s', 's']
  | letter => [letter]

def validChar (letter : Char) : Char :=
  if letter.isAlphanum ∨ letter = '_' then letter else '_'

def validName (name : String) : String :=
  let letters := (name.toList.flatMap replaceUmlaut).map validChar
  match letters with
  | [] => String.ofList []
  | first :: rest =>
      if first.isDigit then
        String.ofList ('_' :: first :: rest)
      else
        String.ofList (first :: rest)

example : validName "1. Stück" = "_1__Stueck" := by decide

/-! ## Reading the elements -/

section Model

variable {K Shape : Type} [Field K] [LinearOrder K]

/-- A storey without the attribute is at zero.  A storey whose attribute has no
value makes the sort or the comparison with the slabs raise. -/
def IFCStorey.readElevation (storey : IFCStorey K) : Option K :=
  storey.elevation.getD (some 0)

def readStorey
    (storeys : OrderedDict K (IFCStorey K))
    (element : IFCElement K Shape) : Option (OrderedDict K (IFCStorey K)) :=
  match element.description with
  | .buildingStorey storey =>
      storey.readElevation.map fun elevation => storeys.set elevation storey
  | _ => some storeys

def ifcStoreys
    (elements : List (IFCElement K Shape)) :
    Option (OrderedDict K (IFCStorey K)) :=
  (elements.foldlM readStorey OrderedDict.empty).map OrderedDict.sorted

def highestPoint (elements : List (IFCElement K Shape)) : WithBot K :=
  elements.foldl (fun highest element =>
    match element.maxZ with
    | some maxZ => if highest < maxZ then maxZ else highest
    | none => highest) ⊥

/-! ## Slabs -/

/-- Polygons of the slabs by elevation. -/
structure SlabData (K Shape : Type) where
  floorSlabs : OrderedDict K Shape
  stairSlabs : OrderedDict K Shape

variable (verticalTolerance : K) (ops : PolygonOps K Shape)

def addPolygon
    (slabs : OrderedDict K Shape)
    (elevation : K)
    (polygon : Shape) : Option (OrderedDict K Shape) :=
  match slabs.get? elevation with
  | none => some (slabs.set elevation polygon)
  | some held =>
      (ops.union held polygon).map fun united => slabs.set elevation united

def addSlab
    (slabs : SlabData K Shape)
    (element : IFCElement K Shape) : Option (SlabData K Shape) :=
  match element.description, element.maxZ, element.polygon with
  | .slab predefinedType partOfStairOrRamp, some elevation, some polygon =>
      if predefinedType = some .roof ∨ ops.isEmpty polygon then
        some slabs
      else if partOfStairOrRamp then
        (addPolygon ops slabs.stairSlabs elevation polygon).map
          fun stairSlabs => { slabs with stairSlabs }
      else
        (addPolygon ops slabs.floorSlabs elevation polygon).map
          fun floorSlabs => { slabs with floorSlabs }
  | _, _, _ => some slabs

def readSlabs
    (elements : List (IFCElement K Shape)) : Option (SlabData K Shape) :=
  elements.foldlM (addSlab ops)
    { floorSlabs := .empty, stairSlabs := .empty }

def addFloor
    (regular : OrderedDict K Shape)
    (elevation : K)
    (polygon : Shape) : OrderedDict K Shape :=
  if ops.isEmpty polygon then regular else regular.set elevation polygon

/-- The polygon of a merged floor.  If the union raises, the new polygon is
taken alone. -/
def unitePolygons
    (old current : Shape) : Option Shape :=
  if ¬ ops.isEmpty current ∧ ¬ ops.isEmpty old then
    some ((ops.union old current).getD current)
  else if ¬ ops.isEmpty current then
    some current
  else if ¬ ops.isEmpty old then
    some old
  else
    none

/-- Move the last floor up to a close elevation if the area there is large.  An
elevation of zero counts as no elevation.  The code raises on a missing key and
on an area of zero. -/
def mergeFloor
    (floorSlabs regular : OrderedDict K Shape)
    (elevation : K)
    (polygon : Shape) : Option (OrderedDict K Shape) :=
  match regular.keys.getLast? with
  | none => some regular
  | some lastElevation =>
      if lastElevation = 0 then
        some regular
      else do
        let lastPolygon ← floorSlabs.get? lastElevation
        if ops.area lastPolygon = 0 then
          none
        else if 1 / 10 < ops.area polygon / ops.area lastPolygon then
          let old ← regular.get? lastElevation
          match unitePolygons ops old polygon with
          | some united =>
              some ((regular.pop lastElevation).set elevation united)
          | none => some (regular.pop lastElevation)
        else
          some regular

def analyzeSlab
    (floorSlabs : OrderedDict K Shape)
    (previous : Option K)
    (regular : OrderedDict K Shape)
    (elevation : K)
    (polygon : Shape) : Option (OrderedDict K Shape) :=
  match previous with
  | none => some (addFloor ops regular elevation polygon)
  | some previousElevation =>
      if elevation - previousElevation < verticalTolerance then
        mergeFloor ops floorSlabs regular elevation polygon
      else
        some (addFloor ops regular elevation polygon)

/-- The loop over the elevations.  Floors need a minimum height, so it ends
close to the highest point. -/
def analyzeSlabs
    (highest : WithBot K)
    (floorSlabs : OrderedDict K Shape) :
    List (K × Shape) → Option K → OrderedDict K Shape →
      Option (OrderedDict K Shape)
  | [], _, regular => some regular
  | (elevation, polygon) :: rest, previous, regular =>
      if highest < ((elevation + verticalTolerance : K) : WithBot K) then
        some regular
      else do
        let regular ← analyzeSlab verticalTolerance ops floorSlabs previous
          regular elevation polygon
        analyzeSlabs highest floorSlabs rest (some elevation) regular

/-- Polygons of the regular floors and of the stair slabs by elevation. -/
def analyzeSlabElevations
    (elements : List (IFCElement K Shape))
    (highest : WithBot K) :
    Option (OrderedDict K Shape × OrderedDict K Shape) := do
  let slabs ← readSlabs ops elements
  let floorSlabs := slabs.floorSlabs.sorted
  let regular ← analyzeSlabs verticalTolerance ops highest floorSlabs
    floorSlabs.entries none .empty
  some (regular, slabs.stairSlabs.sorted)

/-! ## Slabs and storeys together -/

/-- The elevations that were mapped, and the floors so far. -/
structure MappedFloors (K Shape : Type) where
  mapped : OrderedDict K K
  floors : OrderedDict K (Option Shape)

def mapElevation
    (ifcElevations : List K)
    (state : MappedFloors K Shape)
    (entry : K × Shape) : MappedFloors K Shape :=
  let (analyzed, polygon) := entry
  match ifcElevations.find? fun ifc => |analyzed - ifc| ≤ verticalTolerance with
  | none => state
  | some ifc =>
      if ifc < analyzed then
        match state.mapped.get? analyzed with
        | none =>
            { mapped := state.mapped.set analyzed analyzed
              floors := state.floors.set analyzed (some polygon) }
        | some _ => state
      else
        let closer :=
          match state.mapped.get? analyzed with
          | none => true
          | some held => decide (|analyzed - ifc| < |analyzed - held|)
        if closer then
          { mapped := state.mapped.set analyzed ifc
            floors := state.floors.set ifc (some polygon) }
        else
          state

def keepUnmapped
    (mapped : OrderedDict K K)
    (floors : OrderedDict K (Option Shape))
    (entry : K × Shape) : OrderedDict K (Option Shape) :=
  match mapped.get? entry.1 with
  | none => floors.set entry.1 (some entry.2)
  | some _ => floors

def addStoreyFloor
    (analyzedElevations : List K)
    (floors : OrderedDict K (Option Shape))
    (ifc : K) : OrderedDict K (Option Shape) :=
  if analyzedElevations.any fun analyzed =>
      |analyzed - ifc| ≤ verticalTolerance then
    floors
  else if ifc ∈ floors.keys then
    floors
  else
    floors.set ifc none

def combineFloorElevations
    (ifcElevations : List K)
    (regular : OrderedDict K Shape) : OrderedDict K (Option Shape) :=
  match ifcElevations with
  | [] => regular.mapValues some
  | _ :: _ =>
      let state := regular.entries.foldl
        (mapElevation verticalTolerance ifcElevations)
        { mapped := .empty, floors := .empty }
      let floors := regular.entries.foldl (keepUnmapped state.mapped)
        state.floors
      (ifcElevations.foldl
        (addStoreyFloor verticalTolerance regular.keys) floors).sorted

/-! ## Floors -/

/-- The name of the first storey that the elevation is just above.  The code
raises if this storey has no name. -/
def floorName
    (storeys : OrderedDict K (IFCStorey K))
    (index : Nat)
    (elevation : K) : Option String :=
  match storeys.entries.find? fun storey =>
      0 ≤ elevation - storey.1 ∧ elevation - storey.1 < verticalTolerance with
  | none => some ("Floor_" ++ toString index)
  | some storey => storey.2.name.map validName

/-- A floor ends at the next elevation. -/
def maxElevation (highest : WithBot K) : List (K × Option Shape) → WithBot K
  | [] => highest
  | next :: _ => next.1

def regularFloors
    (storeys : OrderedDict K (IFCStorey K))
    (highest : WithBot K) :
    Nat → List (K × Option Shape) → Option (List (Floor K Shape))
  | _, [] => some []
  | index, (elevation, polygon) :: rest => do
      let name ← floorName verticalTolerance storeys index elevation
      let floors ← regularFloors storeys highest (index + 1) rest
      some ({
        floorName := name
        minZ := elevation
        maxZ := maxElevation highest rest
        polygon := polygon
        kind := .regular
      } :: floors)

def floorDict (floors : List (Floor K Shape)) :
    OrderedDict String (Floor K Shape) :=
  OrderedDict.empty.setAll (floors.map fun floor => (floor.floorName, floor))

/-- The stair floors so far, with the next number for each parent floor. -/
structure StairFloors (K Shape : Type) where
  floors : OrderedDict String (Floor K Shape)
  counters : OrderedDict String Nat

def addStairFloor
    (mainFloors : OrderedDict String (Floor K Shape))
    (state : StairFloors K Shape)
    (slab : K × Shape) : StairFloors K Shape :=
  let (elevation, polygon) := slab
  if mainFloors.entries.any fun entry =>
      |elevation - entry.2.minZ| ≤ verticalTolerance then
    state
  else
    match mainFloors.entries.find? fun entry =>
        entry.2.minZ ≤ elevation ∧ (elevation : WithBot K) < entry.2.maxZ with
    | none => state
    | some (parentName, parent) =>
        let counter := (state.counters.get? parentName).getD 0
        let name := parentName ++ "_Stair_" ++ toString counter
        {
          floors := state.floors.set name {
            floorName := name
            minZ := elevation
            maxZ := parent.maxZ
            polygon := some polygon
            kind := .stairSlab parentName
          }
          counters := state.counters.set parentName (counter + 1)
        }

def createStairSlabFloors
    (stairSlabs : OrderedDict K Shape)
    (mainFloors : OrderedDict String (Floor K Shape)) :
    OrderedDict String (Floor K Shape) :=
  (stairSlabs.entries.foldl (addStairFloor verticalTolerance mainFloors)
    { floors := .empty, counters := .empty }).floors

/-- What is known of a building before its floors are made. -/
structure FloorPlan (K Shape : Type) where
  storeys : OrderedDict K (IFCStorey K)
  highest : WithBot K
  stairSlabs : OrderedDict K Shape
  finalFloors : OrderedDict K (Option Shape)

def planFloors
    (elements : List (IFCElement K Shape)) : Option (FloorPlan K Shape) := do
  let storeys ← ifcStoreys elements
  let highest := highestPoint elements
  let (regular, stairSlabs) ←
    analyzeSlabElevations verticalTolerance ops elements highest
  some {
    storeys := storeys
    highest := highest
    stairSlabs := stairSlabs
    finalFloors :=
      combineFloorElevations verticalTolerance storeys.keys regular
  }

/-- The regular floors of a plan, in the order of their elevations. -/
def FloorPlan.regularFloors
    (plan : FloorPlan K Shape) : Option (List (Floor K Shape)) :=
  NavBim.regularFloors verticalTolerance plan.storeys plan.highest 0
    plan.finalFloors.entries

def FloorPlan.stairFloors
    (plan : FloorPlan K Shape)
    (regular : List (Floor K Shape)) : OrderedDict String (Floor K Shape) :=
  createStairSlabFloors verticalTolerance plan.stairSlabs (floorDict regular)

def extractFloors
    (elements : List (IFCElement K Shape)) :
    Option (OrderedDict String (Floor K Shape)) := do
  let plan ← planFloors verticalTolerance ops elements
  let regular ← plan.regularFloors verticalTolerance
  some ((floorDict regular).update (plan.stairFloors verticalTolerance regular))

/-! ## The height of the building -/

/-- The floor is in the dictionary, and it is no stair slab floor. -/
def HasFloor
    (floors : OrderedDict String (Floor K Shape))
    (floor : Floor K Shape) : Prop :=
  (∃ name, (name, floor) ∈ floors.entries) ∧ floor.kind = .regular

/-- The height is in the interval of the floor. -/
def Floor.Contains
    (floor : Floor K Shape)
    (height : K) : Prop :=
  floor.minZ ≤ height ∧ (height : WithBot K) < floor.maxZ

structure PartitionsHeight
    (floors : OrderedDict String (Floor K Shape))
    (elevations : List K)
    (highest : WithBot K) : Prop where
  /-- One floor for each elevation. -/
  onePerElevation : ∀ elevation ∈ elevations,
    ∃! floor, HasFloor floors floor ∧ floor.minZ = elevation
  noOther : ∀ floor, HasFloor floors floor → floor.minZ ∈ elevations
  disjoint : ∀ first second height, HasFloor floors first →
    HasFloor floors second → first.Contains height → second.Contains height →
      first = second
  covers : ∀ lowest ∈ elevations, ∀ height, lowest ≤ height →
    (height : WithBot K) < highest →
      ∃ floor, HasFloor floors floor ∧ floor.Contains height

/-- The floors are made, and they are one for each final elevation and fill the
height of the building. -/
def FillsBuilding
    (elements : List (IFCElement K Shape)) : Prop :=
  ∃ plan floors, planFloors verticalTolerance ops elements = some plan ∧
    extractFloors verticalTolerance ops elements = some floors ∧
      PartitionsHeight floors plan.finalFloors.keys plan.highest

/-- Reading the building raises nothing, the final elevations get different
names, and no stair slab floor gets one of these. -/
def HasDistinctNames
    (elements : List (IFCElement K Shape)) : Prop :=
  ∃ plan regular, planFloors verticalTolerance ops elements = some plan ∧
    plan.regularFloors verticalTolerance = some regular ∧
      (regular.map Floor.floorName).Nodup ∧
        ∀ floor ∈ regular,
          floor.floorName ∉ (plan.stairFloors verticalTolerance regular).keys

/-! ## Elevations in order -/

/-- The floors found so far increase and are below what comes. -/
structure FloorsBelow
    (regular : OrderedDict K Shape)
    (bound : K) : Prop where
  increasing : regular.Increasing
  below : ∀ elevation ∈ regular.keys, elevation < bound

/-- The floors found so far increase and reach at most to an elevation. -/
structure FloorsUpTo
    (regular : OrderedDict K Shape)
    (elevation : K) : Prop where
  increasing : regular.Increasing
  upTo : ∀ other ∈ regular.keys, other ≤ elevation

variable {verticalTolerance ops} {regular floorSlabs : OrderedDict K Shape} {elevation : K}

section

omit [Field K]

theorem FloorsBelow.upTo
    (floors : FloorsBelow regular elevation) :
    FloorsUpTo regular elevation where
  increasing := floors.increasing
  upTo other held := (floors.below other held).le

theorem FloorsUpTo.below
    (floors : FloorsUpTo regular elevation)
    {next : K}
    (above : elevation < next) :
    FloorsBelow regular next where
  increasing := floors.increasing
  below other held := (floors.upTo other held).trans_lt above

section

variable
  (floors : FloorsBelow regular elevation)

include floors

theorem FloorsBelow.set
    (polygon : Shape) :
    FloorsUpTo (regular.set elevation polygon) elevation where
  increasing := floors.increasing.set floors.below polygon
  upTo other held := by
    rcases (regular.mem_keys_set elevation other polygon).mp held with
      isNew | old
    · exact isNew.le
    · exact (floors.below other old).le

theorem FloorsBelow.pop
    (last : K) :
    FloorsBelow (regular.pop last) elevation where
  increasing := floors.increasing.pop last
  below other held :=
    floors.below other ((regular.keys_pop_sublist last).subset held)

theorem FloorsBelow.addFloor
    (polygon : Shape) :
    FloorsUpTo (addFloor ops regular elevation polygon) elevation := by
  rw [NavBim.addFloor]
  split
  · exact floors.upTo
  · exact floors.set polygon

end

end

theorem FloorsBelow.mergeFloor
    (floors : FloorsBelow regular elevation)
    {polygon : Shape}
    {merged : OrderedDict K Shape}
    (isMerged :
      mergeFloor ops floorSlabs regular elevation polygon = some merged) :
    FloorsUpTo merged elevation := by
  rw [NavBim.mergeFloor] at isMerged
  split at isMerged
  · cases isMerged
    exact floors.upTo
  · case h_2 last isLast =>
    split at isMerged
    · cases isMerged
      exact floors.upTo
    · obtain ⟨lastPolygon, isLastPolygon, next⟩ :=
        Option.bind_eq_some_iff.mp isMerged
      split at next
      · cases next
      · split at next
        · obtain ⟨old, isOld, united⟩ := Option.bind_eq_some_iff.mp next
          split at united
          · cases united
            exact (floors.pop last).set _
          · cases united
            exact (floors.pop last).upTo
        · cases next
          exact floors.upTo

theorem FloorsBelow.analyzeSlab
    (floors : FloorsBelow regular elevation)
    {previous : Option K}
    {polygon : Shape}
    {next : OrderedDict K Shape}
    (isNext : analyzeSlab verticalTolerance ops floorSlabs previous regular
      elevation polygon = some next) :
    FloorsUpTo next elevation := by
  cases previous with
  | none =>
      cases isNext
      exact floors.addFloor polygon
  | some previousElevation =>
      rw [NavBim.analyzeSlab] at isNext
      split at isNext
      · exact floors.mergeFloor isNext
      · cases isNext
        exact floors.addFloor polygon

/-- The whole loop. -/
theorem analyzeSlabs_increasing
    {highest : WithBot K}
    {slabs : List (K × Shape)}
    {found : OrderedDict K Shape} :
    ∀ {regular : OrderedDict K Shape} {previous : Option K},
      regular.Increasing →
      (∀ slab ∈ slabs, ∀ elevation ∈ regular.keys, elevation < slab.1) →
      (slabs.map Prod.fst).Pairwise (· < ·) →
      analyzeSlabs verticalTolerance ops highest floorSlabs slabs previous
        regular = some found →
      found.Increasing := by
  induction slabs with
  | nil =>
      intro regular previous increasing _ _ isFound
      cases isFound
      exact increasing
  | cons slab rest inductionHypothesis =>
      intro regular previous increasing below ordered isFound
      obtain ⟨elevation, polygon⟩ := slab
      rw [List.map_cons, List.pairwise_cons] at ordered
      obtain ⟨first, later⟩ := ordered
      rw [analyzeSlabs] at isFound
      split at isFound
      · cases isFound
        exact increasing
      · obtain ⟨next, isNext, isRest⟩ := Option.bind_eq_some_iff.mp isFound
        have floors : FloorsBelow regular elevation :=
          ⟨increasing, below _ List.mem_cons_self⟩
        have reached := floors.analyzeSlab isNext
        apply inductionHypothesis reached.increasing _ later isRest
        intro slab present
        exact (reached.below (first slab.1 (List.mem_map_of_mem present))).below

variable
  {elements : List (IFCElement K Shape)}

theorem analyzeSlabElevations_increasing
    {highest : WithBot K}
    {found : OrderedDict K Shape × OrderedDict K Shape}
    (isFound : analyzeSlabElevations verticalTolerance ops elements highest =
      some found) :
    found.1.Increasing := by
  obtain ⟨slabs, -, rest⟩ := Option.bind_eq_some_iff.mp isFound
  obtain ⟨regular, isRegular, same⟩ := Option.bind_eq_some_iff.mp rest
  cases same
  apply analyzeSlabs_increasing OrderedDict.increasing_empty _
    slabs.floorSlabs.increasing_sorted isRegular
  intro slab _ elevation held
  cases held

theorem combineFloorElevations_increasing
    (ifcElevations : List K)
    (increasing : regular.Increasing) :
    (combineFloorElevations verticalTolerance ifcElevations
      regular).Increasing := by
  cases ifcElevations with
  | nil =>
      rw [combineFloorElevations, OrderedDict.Increasing,
        OrderedDict.keys_mapValues]
      exact increasing
  | cons first rest => exact OrderedDict.increasing_sorted _

/-- The final elevations increase. -/
theorem planFloors_increasing
    {plan : FloorPlan K Shape}
    (isPlan : planFloors verticalTolerance ops elements = some plan) :
    plan.finalFloors.Increasing := by
  obtain ⟨storeys, -, rest⟩ := Option.bind_eq_some_iff.mp isPlan
  obtain ⟨found, isFound, same⟩ := Option.bind_eq_some_iff.mp rest
  cases same
  exact combineFloorElevations_increasing storeys.keys
    (analyzeSlabElevations_increasing isFound)

/-! ## Floors on top of each other -/

section Regular

variable {storeys : OrderedDict K (IFCStorey K)} {highest : WithBot K}
  {final : List (K × Option Shape)} {floors : List (Floor K Shape)}
  {index : Nat}

theorem regularFloors_cons
    {polygon : Option Shape}
    (areMade : regularFloors verticalTolerance storeys highest index
      ((elevation, polygon) :: final) = some floors) :
    ∃ floor above, floors = floor :: above ∧ floor.minZ = elevation ∧
      floor.maxZ = maxElevation highest final ∧ floor.kind = .regular ∧
      regularFloors verticalTolerance storeys highest (index + 1) final =
        some above := by
  obtain ⟨name, -, rest⟩ := Option.bind_eq_some_iff.mp areMade
  obtain ⟨above, areAbove, same⟩ := Option.bind_eq_some_iff.mp rest
  cases same
  exact ⟨_, above, rfl, rfl, rfl, rfl, areAbove⟩

theorem minZ_regularFloors :
    ∀ {index : Nat} {floors : List (Floor K Shape)},
      regularFloors verticalTolerance storeys highest index final =
        some floors →
      floors.map Floor.minZ = final.map Prod.fst := by
  induction final with
  | nil =>
      intro index floors areMade
      cases areMade
      rfl
  | cons first rest inductionHypothesis =>
      intro index floors areMade
      obtain ⟨floor, above, rfl, isMin, -, -, areAbove⟩ :=
        regularFloors_cons areMade
      rw [List.map_cons, List.map_cons, isMin, inductionHypothesis areAbove]

theorem kind_regularFloors :
    ∀ {index : Nat} {floors : List (Floor K Shape)},
      regularFloors verticalTolerance storeys highest index final =
        some floors →
      ∀ floor ∈ floors, floor.kind = .regular := by
  induction final with
  | nil =>
      intro index floors areMade floor present
      cases areMade
      cases present
  | cons first rest inductionHypothesis =>
      intro index floors areMade floor present
      obtain ⟨lowest, above, rfl, -, -, isRegular, areAbove⟩ :=
        regularFloors_cons areMade
      rcases List.mem_cons.mp present with rfl | higher
      · exact isRegular
      · exact inductionHypothesis areAbove floor higher

omit [Field K] in
theorem maxElevation_le
    {first : K × Option Shape}
    (ordered : (final.map Prod.fst).Pairwise (· < ·))
    (present : first ∈ final) :
    maxElevation highest final ≤ (first.1 : WithBot K) := by
  cases final with
  | nil => cases present
  | cons next rest =>
      rw [List.map_cons, List.pairwise_cons] at ordered
      rw [maxElevation, WithBot.coe_le_coe]
      rcases List.mem_cons.mp present with rfl | later
      · exact le_rfl
      · exact (ordered.1 first.1 (List.mem_map_of_mem later)).le

/-- Every floor ends where a higher one begins, or below. -/
theorem pairwise_regularFloors :
    ∀ {index : Nat} {floors : List (Floor K Shape)},
      (final.map Prod.fst).Pairwise (· < ·) →
      regularFloors verticalTolerance storeys highest index final =
        some floors →
      floors.Pairwise fun lower upper =>
        lower.maxZ ≤ (upper.minZ : WithBot K) := by
  induction final with
  | nil =>
      intro index floors _ areMade
      cases areMade
      exact List.Pairwise.nil
  | cons first rest inductionHypothesis =>
      intro index floors ordered areMade
      obtain ⟨floor, above, rfl, -, isMax, -, areAbove⟩ :=
        regularFloors_cons areMade
      rw [List.map_cons, List.pairwise_cons] at ordered
      apply List.Pairwise.cons
      · intro upper higher
        have isFinal : upper.minZ ∈ rest.map Prod.fst := by
          rw [← minZ_regularFloors areAbove]
          exact List.mem_map_of_mem higher
        obtain ⟨entry, present, same⟩ := List.mem_map.mp isFinal
        rw [isMax, ← same]
        exact maxElevation_le ordered.2 present
      · exact inductionHypothesis ordered.2 areAbove

theorem exists_contains_regularFloors
    {lowest height : K}
    (isHigh : lowest ≤ height)
    (isLow : (height : WithBot K) < highest) :
    ∀ {index : Nat} {floors : List (Floor K Shape)},
      lowest ∈ final.map Prod.fst →
      regularFloors verticalTolerance storeys highest index final =
        some floors →
      ∃ floor ∈ floors, floor.Contains height := by
  induction final generalizing lowest with
  | nil =>
      intro index floors present
      cases present
  | cons first rest inductionHypothesis =>
      intro index floors present areMade
      obtain ⟨floor, above, rfl, isMin, isMax, -, areAbove⟩ :=
        regularFloors_cons areMade
      rcases List.mem_cons.mp present with isFirst | later
      · by_cases ends : (height : WithBot K) < floor.maxZ
        · refine ⟨floor, List.mem_cons_self, ?_, ends⟩
          rw [isMin, ← isFirst]
          exact isHigh
        · cases rest with
          | nil =>
              rw [isMax] at ends
              exact absurd isLow ends
          | cons next others =>
              -- the height is at or above the next elevation
              rw [isMax, not_lt, maxElevation, WithBot.coe_le_coe] at ends
              obtain ⟨upper, higher, contains⟩ :=
                inductionHypothesis ends List.mem_cons_self areAbove
              exact ⟨upper, List.mem_cons_of_mem _ higher, contains⟩
      · obtain ⟨upper, higher, contains⟩ :=
          inductionHypothesis isHigh later areAbove
        exact ⟨upper, List.mem_cons_of_mem _ higher, contains⟩

end Regular

/-! ## Stair slab floors -/

/-- All floors are stair slab floors. -/
def StairsOnly (floors : OrderedDict String (Floor K Shape)) : Prop :=
  ∀ entry ∈ floors.entries, entry.2.kind ≠ .regular

theorem StairsOnly.addStairFloor
    {mainFloors : OrderedDict String (Floor K Shape)}
    {state : StairFloors K Shape}
    (stairs : StairsOnly state.floors)
    (slab : K × Shape) :
    StairsOnly
      (addStairFloor verticalTolerance mainFloors state slab).floors := by
  rw [NavBim.addStairFloor]
  split
  · exact stairs
  · split
    · exact stairs
    · intro entry present
      rcases (OrderedDict.mem_set _ _ _ entry).mp present with
        isNew | ⟨old, -⟩
      · rw [isNew]
        exact nofun
      · exact stairs entry old

theorem stairsOnly_createStairSlabFloors
    (stairSlabs : OrderedDict K Shape)
    (mainFloors : OrderedDict String (Floor K Shape)) :
    StairsOnly
      (createStairSlabFloors verticalTolerance stairSlabs mainFloors) := by
  have keeps : ∀ (slabs : List (K × Shape)) (state : StairFloors K Shape),
      StairsOnly state.floors →
      StairsOnly (slabs.foldl
        (addStairFloor verticalTolerance mainFloors) state).floors := by
    intro slabs
    induction slabs with
    | nil =>
        intro state stairs
        exact stairs
    | cons slab rest inductionHypothesis =>
        intro state stairs
        exact inductionHypothesis _ (stairs.addStairFloor slab)
  apply keeps
  intro entry present
  cases present

/-! ## Floors under their names -/

section Extracted

variable {plan : FloorPlan K Shape} {floors : List (Floor K Shape)}

/-- All floors of a plan. -/
def FloorPlan.extracted
    (plan : FloorPlan K Shape)
    (verticalTolerance : K)
    (floors : List (Floor K Shape)) : OrderedDict String (Floor K Shape) :=
  (floorDict floors).update (plan.stairFloors verticalTolerance floors)

theorem extractFloors_eq_some
    {extracted : OrderedDict String (Floor K Shape)} :
    extractFloors verticalTolerance ops elements = some extracted ↔
      ∃ plan floors, planFloors verticalTolerance ops elements = some plan ∧
        plan.regularFloors verticalTolerance = some floors ∧
          plan.extracted verticalTolerance floors = extracted := by
  constructor
  · intro areExtracted
    obtain ⟨plan, isPlan, rest⟩ := Option.bind_eq_some_iff.mp areExtracted
    obtain ⟨floors, areMade, same⟩ := Option.bind_eq_some_iff.mp rest
    cases same
    exact ⟨plan, floors, isPlan, areMade, rfl⟩
  · rintro ⟨plan, floors, isPlan, areMade, rfl⟩
    exact Option.bind_eq_some_iff.mpr
      ⟨plan, isPlan, Option.bind_eq_some_iff.mpr ⟨floors, areMade, rfl⟩⟩

omit [Field K] [LinearOrder K] in
theorem mem_of_mem_floorDict
    {name : String}
    {floor : Floor K Shape}
    (present : (name, floor) ∈ (floorDict floors).entries) :
    floor ∈ floors ∧ name = floor.floorName := by
  rcases OrderedDict.mem_of_mem_setAll present with made | held
  · obtain ⟨other, isMade, same⟩ := List.mem_map.mp made
    cases same
    exact ⟨isMade, rfl⟩
  · cases held

theorem regular_of_mem_extracted
    {name : String}
    {floor : Floor K Shape}
    (isRegular : floor.kind = .regular)
    (present :
      (name, floor) ∈ (plan.extracted verticalTolerance floors).entries) :
    floor ∈ floors ∧ name = floor.floorName := by
  rcases (OrderedDict.mem_update _ _ _).mp present with stair | ⟨main, -⟩
  · exact absurd isRegular (stairsOnly_createStairSlabFloors _ _ _ stair)
  · exact mem_of_mem_floorDict main

theorem hasFloor_extracted
    (different : (floors.map Floor.floorName).Nodup)
    (apart : ∀ floor ∈ floors,
      floor.floorName ∉ (plan.stairFloors verticalTolerance floors).keys)
    (regular : ∀ floor ∈ floors, floor.kind = .regular)
    (floor : Floor K Shape) :
    HasFloor (plan.extracted verticalTolerance floors) floor ↔
      floor ∈ floors := by
  constructor
  · rintro ⟨⟨name, present⟩, isRegular⟩
    exact (regular_of_mem_extracted isRegular present).1
  · intro made
    have keys : ((floors.map fun floor => (floor.floorName, floor)).map
        Prod.fst).Nodup := by
      rw [List.map_map]
      exact different
    have main : (floor.floorName, floor) ∈ (floorDict floors).entries :=
      (OrderedDict.mem_setAll keys _ _).mpr
        (.inl (List.mem_map_of_mem made))
    refine ⟨⟨floor.floorName, ?_⟩, regular floor made⟩
    exact (OrderedDict.mem_update _ _ _).mpr
      (.inr ⟨main, apart floor made⟩)

theorem distinctNames_of_hasFloor
    (all : ∀ floor ∈ floors,
      HasFloor (plan.extracted verticalTolerance floors) floor)
    (once : floors.Nodup) :
    (floors.map Floor.floorName).Nodup ∧
      ∀ floor ∈ floors,
        floor.floorName ∉ (plan.stairFloors verticalTolerance floors).keys := by
  have named : ∀ floor ∈ floors, (floor.floorName, floor) ∈
      (plan.extracted verticalTolerance floors).entries := by
    intro floor made
    obtain ⟨⟨name, present⟩, isRegular⟩ := all floor made
    rw [← (regular_of_mem_extracted isRegular present).2]
    exact present
  constructor
  · apply List.Nodup.map_on _ once
    intro first isFirst second isSecond same
    have entry := OrderedDict.eq_of_mem (named first isFirst)
      (named second isSecond) same
    exact congrArg Prod.snd entry
  · intro floor made isStair
    obtain ⟨stair, present, same⟩ := List.mem_map.mp isStair
    have kept := (OrderedDict.mem_update (floorDict floors)
      (plan.stairFloors verticalTolerance floors) stair).mpr (.inl present)
    have entry := OrderedDict.eq_of_mem (named floor made) kept same.symm
    apply stairsOnly_createStairSlabFloors _ _ _ present
    rw [← entry]
    exact (all floor made).2

theorem partitionsHeight_of_hasFloor
    {extracted : OrderedDict String (Floor K Shape)}
    (increasing : plan.finalFloors.Increasing)
    (areMade : plan.regularFloors verticalTolerance = some floors)
    (all : ∀ floor, HasFloor extracted floor ↔ floor ∈ floors) :
    PartitionsHeight extracted plan.finalFloors.keys plan.highest := by
  have elevations : floors.map Floor.minZ = plan.finalFloors.keys :=
    minZ_regularFloors areMade
  have distinct : (floors.map Floor.minZ).Nodup := by
    rw [elevations]
    exact plan.finalFloors.distinct
  have stacked := pairwise_regularFloors increasing areMade
  have apart : ∀ first ∈ floors, ∀ second ∈ floors, first ≠ second →
      first.maxZ ≤ (second.minZ : WithBot K) ∨
        second.maxZ ≤ (first.minZ : WithBot K) := by
    intro first isFirst second isSecond different
    have ordered : floors.Pairwise fun first second =>
        first.maxZ ≤ (second.minZ : WithBot K) ∨
          second.maxZ ≤ (first.minZ : WithBot K) :=
      stacked.imp Or.inl
    have symmetric : Std.Symm fun first second : Floor K Shape =>
        first.maxZ ≤ (second.minZ : WithBot K) ∨
          second.maxZ ≤ (first.minZ : WithBot K) :=
      ⟨fun _ _ => Or.symm⟩
    exact ordered.forall isFirst isSecond different
  refine ⟨?_, ?_, ?_, ?_⟩
  · intro elevation present
    rw [← elevations] at present
    obtain ⟨floor, made, rfl⟩ := List.mem_map.mp present
    refine ⟨floor, ⟨(all floor).mpr made, rfl⟩, ?_⟩
    rintro other ⟨held, same⟩
    exact List.inj_on_of_nodup_map distinct ((all other).mp held) made same
  · intro floor held
    rw [← elevations]
    exact List.mem_map_of_mem ((all floor).mp held)
  · intro first second height isFirst isSecond inFirst inSecond
    by_contra different
    rcases apart first ((all first).mp isFirst) second
        ((all second).mp isSecond) different with below | below
    · exact absurd (inFirst.2.trans_le below)
        (not_lt.mpr (WithBot.coe_le_coe.mpr inSecond.1))
    · exact absurd (inSecond.2.trans_le below)
        (not_lt.mpr (WithBot.coe_le_coe.mpr inFirst.1))
  · intro lowest present height isHigh isLow
    obtain ⟨floor, made, contains⟩ :=
      exists_contains_regularFloors isHigh isLow present areMade
    exact ⟨floor, (all floor).mpr made, contains⟩

theorem hasFloor_of_onePerElevation
    (areMade : plan.regularFloors verticalTolerance = some floors)
    (one : ∀ elevation ∈ plan.finalFloors.keys, ∃! floor,
      HasFloor (plan.extracted verticalTolerance floors) floor ∧
        floor.minZ = elevation) :
    ∀ floor ∈ floors,
      HasFloor (plan.extracted verticalTolerance floors) floor := by
  have elevations : floors.map Floor.minZ = plan.finalFloors.keys :=
    minZ_regularFloors areMade
  have distinct : (floors.map Floor.minZ).Nodup := by
    rw [elevations]
    exact plan.finalFloors.distinct
  intro floor made
  have isFinal : floor.minZ ∈ plan.finalFloors.keys := by
    rw [← elevations]
    exact List.mem_map_of_mem made
  obtain ⟨other, ⟨held, same⟩, -⟩ := one floor.minZ isFinal
  obtain ⟨⟨name, present⟩, isRegular⟩ := held
  have otherMade := (regular_of_mem_extracted isRegular present).1
  have isOther : other = floor :=
    List.inj_on_of_nodup_map distinct otherMade made same
  rw [← isOther]
  exact ⟨⟨name, present⟩, isRegular⟩

end Extracted

/-- The floors fill the building exactly if their names are different. -/
theorem fillsBuilding_iff
    (verticalTolerance : K)
    (ops : PolygonOps K Shape)
    (elements : List (IFCElement K Shape)) :
    FillsBuilding verticalTolerance ops elements ↔
      HasDistinctNames verticalTolerance ops elements := by
  constructor
  · rintro ⟨plan, extracted, isPlan, areExtracted, partitions⟩
    obtain ⟨samePlan, floors, isSame, areMade, rfl⟩ :=
      extractFloors_eq_some.mp areExtracted
    obtain rfl : plan = samePlan :=
      Option.some.inj (isPlan.symm.trans isSame)
    have once : floors.Nodup := by
      apply List.Nodup.of_map Floor.minZ
      rw [minZ_regularFloors areMade]
      exact plan.finalFloors.distinct
    have all := hasFloor_of_onePerElevation areMade partitions.onePerElevation
    exact ⟨plan, floors, isPlan, areMade, distinctNames_of_hasFloor all once⟩
  · rintro ⟨plan, floors, isPlan, areMade, different, apart⟩
    have all := hasFloor_extracted different apart (kind_regularFloors areMade)
    exact ⟨plan, _, isPlan,
      extractFloors_eq_some.mpr ⟨plan, floors, isPlan, areMade, rfl⟩,
      partitionsHeight_of_hasFloor (planFloors_increasing isPlan) areMade all⟩

end Model

/-! ## Two storeys with one name -/

/-- Shapes that are only an area. -/
def areaOps : PolygonOps ℚ ℚ where
  isEmpty area := area = 0
  area := id
  union first second := some (first + second)

def storeyElement (name : String) (elevation : ℚ) : IFCElement ℚ ℚ where
  description := .buildingStorey
    { name := some name, elevation := some (some elevation) }
  maxZ := none
  polygon := none

def slabElement (elevation : ℚ) : IFCElement ℚ ℚ where
  description := .slab (some .floor) false
  maxZ := some elevation
  polygon := some 80

def roofElement (elevation : ℚ) : IFCElement ℚ ℚ where
  description := .slab (some .roof) false
  maxZ := some elevation
  polygon := some 80

/-- Two upper storeys whose names differ in a sign only. -/
def namesakeBuilding : List (IFCElement ℚ ℚ) :=
  [storeyElement "OG 1" 0, storeyElement "OG-1" 3, slabElement 0,
    slabElement 3, roofElement 6]

theorem not_fillsBuilding_namesakes :
    ¬ FillsBuilding (3 / 10) areaOps namesakeBuilding := by
  rintro ⟨plan, floors, isPlan, areExtracted, partitions⟩
  have planned : (planFloors (3 / 10) areaOps namesakeBuilding).map
      (fun plan => plan.finalFloors.keys) = some [0, 3] := by
    decide +kernel
  have extracted : (extractFloors (3 / 10) areaOps namesakeBuilding).map
      (fun floors => floors.entries.map fun entry => entry.2.minZ) =
        some [3] := by
    decide +kernel
  rw [isPlan] at planned
  rw [areExtracted] at extracted
  have elevations : plan.finalFloors.keys = [0, 3] :=
    Option.some.inj planned
  have kept : (floors.entries.map fun entry => entry.2.minZ) = [3] :=
    Option.some.inj extracted
  have isFinal : (0 : ℚ) ∈ plan.finalFloors.keys := by
    rw [elevations]
    exact List.mem_cons_self
  obtain ⟨floor, ⟨⟨⟨name, present⟩, -⟩, isGround⟩, -⟩ :=
    partitions.onePerElevation 0 isFinal
  have isKept : floor.minZ ∈ [(3 : ℚ)] := by
    rw [← kept]
    exact List.mem_map_of_mem present
  rw [isGround] at isKept
  exact absurd isKept (by decide +kernel)

end NavBim
