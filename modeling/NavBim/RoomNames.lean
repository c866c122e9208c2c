import NavBim.FloorManager
import NavBim.FreshNumber
import NavBim.TopologyGraph

namespace NavBim

/-!
# Names of rooms

Every IFC space becomes a room under its GUID.  The name of the room is the
long name of the space, reduced to letters, digits and underscores.  A name
that another room has already gets a number at its end.

Reducing makes different names equal, and a name can look as if it had got a
number.  The names of the rooms are different all the same, since a new name
is compared with all the others.
-/

/-- The long name is missing where the attribute has no value. -/
structure SpaceDescription where
  longName : Option String

/-- An element of the building with the floors it was assigned to. -/
structure SpaceElement (K Shape : Type) where
  elementType : ElementType
  ifcGuid : String
  ifcDescription : SpaceDescription
  floor : List String
  bbox : Option (OrderedDict String (WithBot K))
  polygon : Option Shape
  position : Option (Position K)

structure IfcRoom (K Shape : Type) where
  name : String
  floor : List String
  bbox : OrderedDict String (WithBot K)
  polygon : Option Shape
  position : Position K
  ifcDescription : SpaceDescription
  ifcGuid : String

section Model

variable {K Shape : Type}

def roomNames
    (rooms : OrderedDict String (IfcRoom K Shape)) : List String :=
  rooms.entries.map fun entry => entry.2.name

/-- A name that no room has yet. -/
def uniqueName
    (rooms : OrderedDict String (IfcRoom K Shape))
    (roomName : String) : String :=
  let names := roomNames rooms
  if roomName ∈ names then
    numbered roomName
      (firstFree (numbered roomName) names (names.length + 1) 1)
  else
    roomName

/-- The first floor of a space, if it is known. -/
def SpaceElement.firstFloor
    (floors : OrderedDict String (Floor K Shape))
    (space : SpaceElement K Shape) : Option (Floor K Shape) :=
  space.floor.head?.bind floors.get?

/-- The box of the space between the ends of its floor. -/
def SpaceElement.roomBox
    (round : K → K)
    (floors : OrderedDict String (Floor K Shape))
    (space : SpaceElement K Shape) : OrderedDict String (WithBot K) :=
  let bbox := space.bbox.getD .empty
  match space.firstFloor floors with
  | none => bbox
  | some floor =>
      if bbox.entries.isEmpty then
        bbox
      else
        (bbox.set "min_z" (round floor.minZ)).set "max_z"
          (floor.maxZ.map round)

/-- The position of the space on its floor. -/
def SpaceElement.roomPosition
    [Zero K]
    (round : K → K)
    (floors : OrderedDict String (Floor K Shape))
    (space : SpaceElement K Shape) : Position K :=
  let z :=
    match space.firstFloor floors with
    | some floor => floor.minZ
    | none => (space.position.map Position.z).getD 0
  match space.position with
  | some position =>
      { x := round position.x, y := round position.y, z := round z }
  | none => { x := 0, y := 0, z := round z }

/-- A space without a long name makes the generator raise. -/
def addIfcRoom
    [Zero K]
    (round : K → K)
    (floors : OrderedDict String (Floor K Shape))
    (rooms : OrderedDict String (IfcRoom K Shape))
    (space : SpaceElement K Shape) :
    Option (OrderedDict String (IfcRoom K Shape)) :=
  space.ifcDescription.longName.map fun longName =>
    rooms.set space.ifcGuid {
      name := uniqueName rooms (validName longName)
      floor := space.floor
      bbox := space.roomBox round floors
      polygon := space.polygon
      position := space.roomPosition round floors
      ifcDescription := space.ifcDescription
      ifcGuid := space.ifcGuid
    }

/-- The rooms of the spaces join the rooms that are there. -/
def detectIfcSpaces
    [Zero K]
    (round : K → K)
    (floors : OrderedDict String (Floor K Shape))
    (elements : List (SpaceElement K Shape))
    (rooms : OrderedDict String (IfcRoom K Shape)) :
    Option (OrderedDict String (IfcRoom K Shape)) :=
  (elements.filter fun element => element.elementType = .ifcSpace).foldlM
    (addIfcRoom round floors) rooms

end Model

section Names

variable
  {K Shape : Type}
  {round : K → K}
  {floors : OrderedDict String (Floor K Shape)}
  {rooms after : OrderedDict String (IfcRoom K Shape)}

theorem uniqueName_fresh
    (rooms : OrderedDict String (IfcRoom K Shape))
    (roomName : String) :
    uniqueName rooms roomName ∉ roomNames rooms := by
  rw [uniqueName]
  split
  · exact firstFree_not_taken (numbered_injective roomName)
      (Nat.lt_succ_self _) 1
  · case isFalse unused => exact unused

variable [Zero K]

/-- A space gets a room with a name of its own. -/
theorem nodup_addIfcRoom
    {space : SpaceElement K Shape}
    (different : (roomNames rooms).Nodup)
    (added : addIfcRoom round floors rooms space = some after) :
    (roomNames after).Nodup := by
  obtain ⟨longName, -, rfl⟩ := Option.map_eq_some_iff.mp added
  exact OrderedDict.nodup_map_set IfcRoom.name different
    (uniqueName_fresh rooms (validName longName))

theorem nodup_foldlM_addIfcRoom
    (spaces : List (SpaceElement K Shape)) :
    ∀ {rooms : OrderedDict String (IfcRoom K Shape)},
      (roomNames rooms).Nodup →
        spaces.foldlM (addIfcRoom round floors) rooms = some after →
          (roomNames after).Nodup := by
  induction spaces with
  | nil =>
      intro rooms different finished
      cases finished
      exact different
  | cons space rest inductionHypothesis =>
      intro rooms different finished
      rw [List.foldlM_cons] at finished
      obtain ⟨next, added, finished⟩ := Option.bind_eq_some_iff.mp finished
      exact inductionHypothesis (nodup_addIfcRoom different added) finished

/-- The rooms of the spaces have different names. -/
theorem detectIfcSpaces_names_distinct
    {elements : List (SpaceElement K Shape)}
    (detected :
      detectIfcSpaces round floors elements .empty = some rooms) :
    (roomNames rooms).Nodup := by
  have noRooms :
      (roomNames (.empty : OrderedDict String (IfcRoom K Shape))).Nodup :=
    List.nodup_nil
  exact nodup_foldlM_addIfcRoom _ noRooms detected

end Names

/-- A space on no floor. -/
def namedSpace
    (ifcGuid longName : String) : SpaceElement Int Unit where
  elementType := .ifcSpace
  ifcGuid := ifcGuid
  ifcDescription := { longName := some longName }
  floor := []
  bbox := none
  polygon := none
  position := none

/-- Two names become equal, and one looks like a name with a number. -/
def numberedSpaces : List (SpaceElement Int Unit) :=
  [namedSpace "a" "R.1", namedSpace "b" "R_1", namedSpace "c" "R",
    namedSpace "d" "R"]

theorem numberedSpaces_names_distinct :
    ∃ rooms,
      detectIfcSpaces id .empty numberedSpaces .empty = some rooms ∧
        roomNames rooms = ["R_1", "R_1_1", "R", "R_2"] ∧
        (roomNames rooms).Nodup := by
  have detected :
      detectIfcSpaces id .empty numberedSpaces .empty =
        some ((detectIfcSpaces id .empty numberedSpaces .empty).getD .empty) :=
    rfl
  exact ⟨_, detected, by decide +kernel,
    detectIfcSpaces_names_distinct detected⟩

end NavBim
