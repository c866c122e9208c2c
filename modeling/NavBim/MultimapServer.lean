import Mathlib.Data.List.Nodup
import Mathlib.Data.List.ReduceOption

namespace NavBim

/-!
# Loaded maps and listed environments

The server keeps the loaded maps in a table and lists their names by
environment for the other nodes.  Every request updates both.  A map is looked
up by its full name, which joins environment and map name with a slash.

The environments of a file are loaded one after the other.  A map is put into
the table as soon as it is loaded, but the environment is only listed at the
end, if all its new maps were loaded, and always as an entry of its own.
-/

/-- A named group of maps with a common frame, as it is published. -/
structure Environment where
  name : String
  globalFrame : String
  mapName : List String
  deriving DecidableEq

/-- The rooms of a message, as pairs of a floor and a room name. -/
def listedRooms
    (message : List Environment) : List (String × String) :=
  message.flatMap fun environment =>
    environment.mapName.map fun map => (environment.name, map)

/-- The name under which a map is looked up. -/
def mapFullName
    (ns mapName : String) : String :=
  ns ++ "/" ++ mapName

structure MapEntry (Map : Type) where
  ns : String
  mapName : String
  frameId : String
  map : Map
  deriving DecidableEq

structure MultimapServer (Map : Type) where
  maps : List (MapEntry Map)
  environments : List Environment
  deriving DecidableEq

structure ServiceResponse where
  success : Bool
  msg : String
  deriving DecidableEq

/-- One map of an environments file.  What is not a string is missing. -/
structure MapNode where
  name : Option String
  file : Option String
  deriving DecidableEq

structure EnvironmentNode where
  name : Option String
  globalFrame : Option String
  maps : List MapNode
  deriving DecidableEq

inductive EnvironmentsFile where
  | closed
  | malformed
  | document (nodes : List EnvironmentNode)

/-- What a request finds on the disk.  `loadMap` fails where loading the map
file or creating its topics throws an exception. -/
structure MapFiles (Map : Type) where
  environments : String → EnvironmentsFile
  loadMap : String → String → String → Except String Map

inductive MapRequest where
  | loadMap (mapUrl ns mapName globalFrame : String)
  | loadEnvironments (environmentsUrl : String)
  | dumpMap (ns mapName : String)
  | dumpEnvironments

section Model

variable {Map : Type}

/-- Environment and map name. -/
def MapEntry.room
    (entry : MapEntry Map) : String × String :=
  (entry.ns, entry.mapName)

def MapEntry.getMapFullName
    (entry : MapEntry Map) : String :=
  mapFullName entry.ns entry.mapName

variable (files : MapFiles Map) (server : MultimapServer Map)

def MultimapServer.fullNames : List String :=
  server.maps.map MapEntry.getMapFullName

def MultimapServer.environmentNames : List String :=
  server.environments.map Environment.name

def isMapAlreadyLoaded
    (ns mapName : String) : Bool :=
  mapFullName ns mapName ∈ server.fullNames

/-- The first environment of this name lists the map; if there is none, a new
one does. -/
def addToEnvironment
    (ns globalFrame mapName : String) :
    List Environment → List Environment
  | [] => [⟨ns, globalFrame, [mapName]⟩]
  | environment :: rest =>
      if environment.name = ns then
        { environment with mapName := environment.mapName ++ [mapName] } :: rest
      else
        environment :: addToEnvironment ns globalFrame mapName rest

/-- The first environment of this name no longer lists the map.  It stays, even
if it lists nothing any more. -/
def removeFromEnvironment
    (ns mapName : String) :
    List Environment → List Environment
  | [] => []
  | environment :: rest =>
      if environment.name = ns then
        { environment with mapName := environment.mapName.erase mapName } ::
          rest
      else
        environment :: removeFromEnvironment ns mapName rest

def loadMapCallback
    (mapUrl ns mapName globalFrame : String) :
    MultimapServer Map × ServiceResponse :=
  if isMapAlreadyLoaded server ns mapName then
    (server, ⟨false, "Map " ++ ns ++ "/" ++ mapName ++ " is already loaded"⟩)
  else
    match files.loadMap mapUrl ns mapName with
    | .error what => (server, ⟨false, "Failed to load map: " ++ what⟩)
    | .ok map =>
        ({ maps := server.maps ++ [⟨ns, mapName, globalFrame, map⟩]
           environments :=
            addToEnvironment ns globalFrame mapName server.environments },
          ⟨true, "Successfully loaded map: " ++ mapUrl⟩)

/-- The part of a path before the last separator. -/
def environmentsDirectory
    (filename : String) : String :=
  match filename.toList.reverse.dropWhile fun c => c ≠ '/' && c ≠ '\\' with
  | [] => "."
  | _ :: directory => String.ofList directory.reverse

section Document

variable (directory : String)

/-- The loop over the maps of an environment, with the new environment and
whether all maps were loaded so far.  An exception ends it without a result. -/
def loadMaps
    (server : MultimapServer Map)
    (environment : Environment)
    (allMapsLoaded : Bool) :
    List MapNode → MultimapServer Map × Option (Environment × Bool)
  | [] => (server, some (environment, allMapsLoaded))
  | node :: rest =>
      match node.name, node.file with
      | some mapName, some mapFile =>
          if isMapAlreadyLoaded server environment.name mapName then
            loadMaps server environment allMapsLoaded rest
          else
            match files.loadMap (directory ++ "/" ++ mapFile)
              environment.name mapName with
            | .ok map =>
                loadMaps
                  { server with
                    maps := server.maps ++
                      [⟨environment.name, mapName, environment.globalFrame,
                        map⟩] }
                  { environment with
                    mapName := environment.mapName ++ [mapName] }
                  allMapsLoaded rest
            | .error _ => loadMaps server environment false rest
      | _, _ => (server, none)

/-- One environment of a file, and whether it was read without an exception. -/
def loadEnvironment
    (server : MultimapServer Map)
    (node : EnvironmentNode) : MultimapServer Map × Bool :=
  match node.name, node.globalFrame with
  | some name, some globalFrame =>
      match loadMaps files directory server ⟨name, globalFrame, []⟩ true
        node.maps with
      | (server, none) => (server, false)
      | (server, some (environment, allMapsLoaded)) =>
          if allMapsLoaded && !environment.mapName.isEmpty then
            ({ server with
              environments := server.environments ++ [environment] }, true)
          else
            (server, true)
  | _, _ => (server, false)

/-- The loop over the environments of a file. -/
def loadEnvironments
    (server : MultimapServer Map) :
    List EnvironmentNode → MultimapServer Map × Bool
  | [] => (server, true)
  | node :: rest =>
      match loadEnvironment files directory server node with
      | (server, true) => loadEnvironments server rest
      | (server, false) => (server, false)

end Document

def loadEnvironmentsFromYAML
    (filename : String) : MultimapServer Map × Bool :=
  match files.environments filename with
  | .closed => (server, false)
  | .malformed => (server, false)
  | .document nodes =>
      loadEnvironments files (environmentsDirectory filename) server nodes

def loadEnvironmentsCallback
    (environmentsUrl : String) :
    MultimapServer Map × ServiceResponse :=
  match loadEnvironmentsFromYAML files server environmentsUrl with
  | (server, true) =>
      (server,
        ⟨true, "Successfully loaded environments from: " ++ environmentsUrl⟩)
  | (server, false) =>
      (server, ⟨false, "Failed to load environments from: " ++ environmentsUrl⟩)

def dumpMapCallback
    (ns mapName : String) : MultimapServer Map × ServiceResponse :=
  let fullName := mapFullName ns mapName
  if fullName ∈ server.fullNames then
    ({ maps := server.maps.eraseP fun map => map.getMapFullName = fullName
       environments := removeFromEnvironment ns mapName server.environments },
      ⟨true, "Successfully removed map: " ++ fullName⟩)
  else
    (server, ⟨false, "Map " ++ fullName ++ " not found"⟩)

def dumpEnvironmentsCallback : MultimapServer Map × ServiceResponse :=
  (⟨[], []⟩, ⟨true, "All environments and maps have been dumped"⟩)

def handleRequest :
    MapRequest → MultimapServer Map × ServiceResponse
  | .loadMap mapUrl ns mapName globalFrame =>
      loadMapCallback files server mapUrl ns mapName globalFrame
  | .loadEnvironments environmentsUrl =>
      loadEnvironmentsCallback files server environmentsUrl
  | .dumpMap ns mapName => dumpMapCallback server ns mapName
  | .dumpEnvironments => dumpEnvironmentsCallback

/-- The states that are reached by requests that meet a condition.  The files
can be others for every request. -/
inductive MultimapRun
    (meets : MultimapServer Map → MapFiles Map → MapRequest → Prop) :
    MultimapServer Map → Prop where
  | start : MultimapRun meets ⟨[], []⟩
  | handle {server : MultimapServer Map}
      (files : MapFiles Map) (request : MapRequest) :
      MultimapRun meets server →
      meets server files request →
      MultimapRun meets (handleRequest files server request).1

/-- Exactly one entry lists the map, and it does so once. -/
def ListedOnce
    (environments : List Environment)
    (room : String × String) : Prop :=
  ∃ earlier environment later,
    environments = earlier ++ environment :: later ∧
    environment.name = room.1 ∧
    environment.mapName.count room.2 = 1 ∧
    room ∉ listedRooms (earlier ++ later)

/-- The table and the environments describe the same maps. -/
structure MapsAgree : Prop where
  once : ∀ map ∈ server.maps, ListedOnce server.environments map.room
  distinct : server.environmentNames.Nodup
  loaded : ∀ room ∈ listedRooms server.environments,
    ∃ map ∈ server.maps, map.room = room

end Model

section Condition

variable {Map : Type}

/-- What comes of the maps of an environment that are not loaded when they are
reached, given the full names that are: the entry, or nothing if the map cannot
be loaded.  The list ends before a map that is not well formed. -/
def attemptMaps
    (files : MapFiles Map)
    (directory name globalFrame : String)
    (loaded : List String) :
    List MapNode → List (Option (MapEntry Map))
  | [] => []
  | node :: rest =>
      match node.name, node.file with
      | some mapName, some mapFile =>
          if mapFullName name mapName ∈ loaded then
            attemptMaps files directory name globalFrame loaded rest
          else
            match files.loadMap (directory ++ "/" ++ mapFile) name mapName with
            | .ok map =>
                some ⟨name, mapName, globalFrame, map⟩ ::
                  attemptMaps files directory name globalFrame
                    (loaded ++ [mapFullName name mapName]) rest
            | .error _ =>
                none :: attemptMaps files directory name globalFrame loaded rest
      | _, _ => []

def EnvironmentNode.attempts
    (files : MapFiles Map)
    (directory : String)
    (loaded : List String)
    (node : EnvironmentNode) : List (Option (MapEntry Map)) :=
  match node.name, node.globalFrame with
  | some name, some globalFrame =>
      attemptMaps files directory name globalFrame loaded node.maps
  | _, _ => []

def MapNode.isReadable
    (node : MapNode) : Bool :=
  node.name.isSome && node.file.isSome

def EnvironmentNode.isReadable
    (node : EnvironmentNode) : Bool :=
  node.name.isSome && node.globalFrame.isSome &&
    node.maps.all MapNode.isReadable

/-- Every environment of a file can be loaded as a whole or not at all, given
the full names of the loaded maps and the names of the environments.  An
environment that gets maps has a new name, and nothing malformed follows it. -/
inductive LoadsWhole
    (files : MapFiles Map)
    (directory : String) :
    List String → List String → Bool → List EnvironmentNode → Prop where
  | done {loaded names : List String} {untouched : Bool} :
      LoadsWhole files directory loaded names untouched []
  | nothing {loaded names : List String} {untouched : Bool}
      {node : EnvironmentNode} {rest : List EnvironmentNode} :
      node.isReadable = true →
      (∀ attempt ∈ node.attempts files directory loaded, attempt = none) →
      LoadsWhole files directory loaded names untouched rest →
      LoadsWhole files directory loaded names untouched (node :: rest)
  | whole {loaded names : List String} {untouched : Bool}
      {node : EnvironmentNode} {rest : List EnvironmentNode}
      {name : String} {entries : List (MapEntry Map)} :
      node.isReadable = true →
      node.name = some name →
      node.attempts files directory loaded = entries.map some →
      entries ≠ [] →
      name ∉ names →
      LoadsWhole files directory
        (loaded ++ entries.map MapEntry.getMapFullName) (names ++ [name])
        false rest →
      LoadsWhole files directory loaded names untouched (node :: rest)
  | malformed {loaded names : List String}
      {node : EnvironmentNode} {rest : List EnvironmentNode} :
      node.isReadable = false →
      (∀ attempt ∈ node.attempts files directory loaded, attempt = none) →
      LoadsWhole files directory loaded names true (node :: rest)

/-- A map is dumped under the environment it was loaded in, and a file loads its
environments as a whole. -/
def HandledWhole
    (server : MultimapServer Map)
    (files : MapFiles Map) : MapRequest → Prop
  | .loadMap _ _ _ _ => True
  | .dumpEnvironments => True
  | .dumpMap ns mapName =>
      ∀ map ∈ server.maps,
        map.getMapFullName = mapFullName ns mapName → map.ns = ns
  | .loadEnvironments environmentsUrl =>
      ∀ nodes, files.environments environmentsUrl = .document nodes →
        LoadsWhole files (environmentsDirectory environmentsUrl)
          server.fullNames server.environmentNames true nodes

end Condition

section Consistency

variable {Map : Type} {files : MapFiles Map} {server : MultimapServer Map}

/-- Full names are distinct, environment names are distinct, and the
environments list the loaded maps.  This is what the requests keep. -/
structure Consistent
    (server : MultimapServer Map) : Prop where
  fullNames : server.fullNames.Nodup
  distinct : server.environmentNames.Nodup
  listed : (listedRooms server.environments).Perm
    (server.maps.map MapEntry.room)

theorem mem_listedRooms
    {environments : List Environment}
    {room : String × String} :
    room ∈ listedRooms environments ↔
      ∃ environment ∈ environments,
        environment.name = room.1 ∧ room.2 ∈ environment.mapName := by
  obtain ⟨ns, mapName⟩ := room
  simp only [listedRooms, List.mem_flatMap, List.mem_map, Prod.mk.injEq]
  constructor
  · rintro ⟨environment, isMember, _, isListed, rfl, rfl⟩
    exact ⟨environment, isMember, rfl, isListed⟩
  · rintro ⟨environment, isMember, rfl, isListed⟩
    exact ⟨environment, isMember, mapName, isListed, rfl, rfl⟩

@[simp] theorem listedRooms_append
    (environments later : List Environment) :
    listedRooms (environments ++ later) =
      listedRooms environments ++ listedRooms later :=
  List.flatMap_append

/-- The full name is made of the room only. -/
theorem Consistent.rooms_nodup
    (consistent : Consistent server) :
    (server.maps.map MapEntry.room).Nodup := by
  have distinct := consistent.fullNames
  have fromRooms : server.fullNames =
      (server.maps.map MapEntry.room).map
        fun room => mapFullName room.1 room.2 := by
    rw [List.map_map]
    rfl
  rw [fromRooms] at distinct
  exact distinct.of_map _

theorem Consistent.listedOnce
    {room : String × String}
    (consistent : Consistent server)
    (isListed : room ∈ listedRooms server.environments) :
    ListedOnce server.environments room := by
  obtain ⟨environment, isMember, hasName, isMap⟩ := mem_listedRooms.mp isListed
  obtain ⟨earlier, later, split⟩ := List.append_of_mem isMember
  refine ⟨earlier, environment, later, split, hasName, ?_, ?_⟩
  · have distinct : (listedRooms server.environments).Nodup :=
      consistent.listed.nodup_iff.mpr consistent.rooms_nodup
    have ownDistinct :=
      (List.nodup_flatMap.mp distinct).1 environment isMember
    exact List.count_eq_one_of_mem ownDistinct.of_map isMap
  · intro isListedElsewhere
    obtain ⟨other, isOther, otherName, -⟩ :=
      mem_listedRooms.mp isListedElsewhere
    have distinct := consistent.distinct
    rw [MultimapServer.environmentNames, split, List.map_append, List.map_cons,
      List.nodup_middle, List.nodup_cons, ← List.map_append] at distinct
    apply distinct.1
    rw [hasName, ← otherName]
    exact List.mem_map_of_mem isOther

theorem Consistent.mapsAgree
    (consistent : Consistent server) :
    MapsAgree server where
  once := by
    intro map isMember
    apply consistent.listedOnce
    apply consistent.listed.mem_iff.mpr
    exact List.mem_map_of_mem isMember
  distinct := consistent.distinct
  loaded := by
    intro room isListed
    exact List.mem_map.mp (consistent.listed.mem_iff.mp isListed)

theorem Consistent.empty :
    Consistent (⟨[], []⟩ : MultimapServer Map) where
  fullNames := List.nodup_nil
  distinct := List.nodup_nil
  listed := List.Perm.nil

section Callbacks

variable {ns globalFrame mapName : String}

theorem listedRooms_addToEnvironment
    (environments : List Environment) :
    (listedRooms
      (addToEnvironment ns globalFrame mapName environments)).Perm
      (listedRooms environments ++ [(ns, mapName)]) := by
  induction environments with
  | nil => exact List.Perm.refl _
  | cons environment rest inductionHypothesis =>
      rw [addToEnvironment]
      split
      · rename_i hasName
        simp only [listedRooms, List.flatMap_cons, List.map_append,
          List.map_cons, List.map_nil, hasName, List.append_assoc]
        exact List.Perm.append_left _ List.perm_append_comm
      · simp only [listedRooms, List.flatMap_cons, List.append_assoc]
        exact List.Perm.append_left _ inductionHypothesis

theorem names_addToEnvironment
    (environments : List Environment) :
    (addToEnvironment ns globalFrame mapName environments).map
        Environment.name =
      if ns ∈ environments.map Environment.name then
        environments.map Environment.name
      else
        environments.map Environment.name ++ [ns] := by
  induction environments with
  | nil => simp [addToEnvironment]
  | cons environment rest inductionHypothesis =>
      rw [addToEnvironment]
      split
      · rename_i hasName
        simp [hasName]
      · rename_i otherName
        simp only [List.map_cons, inductionHypothesis, List.mem_cons,
          Ne.symm otherName, false_or]
        split <;> simp

theorem Consistent.loadMap
    {mapUrl : String}
    (consistent : Consistent server) :
    Consistent
      (loadMapCallback files server mapUrl ns mapName globalFrame).1 := by
  rw [loadMapCallback]
  split
  · exact consistent
  · rename_i isNew
    split
    · exact consistent
    · rw [isMapAlreadyLoaded, decide_eq_true_eq] at isNew
      constructor
      case fullNames =>
        rw [MultimapServer.fullNames, List.map_append]
        exact consistent.fullNames.append (List.nodup_singleton _)
          (List.disjoint_singleton.mpr isNew)
      case distinct =>
        rw [MultimapServer.environmentNames, names_addToEnvironment]
        split
        · exact consistent.distinct
        · rename_i newName
          exact consistent.distinct.append (List.nodup_singleton _)
            (List.disjoint_singleton.mpr newName)
      case listed =>
        rw [List.map_append]
        exact (listedRooms_addToEnvironment _).trans
          (consistent.listed.append_right _)

@[simp] theorem names_removeFromEnvironment
    (environments : List Environment) :
    (removeFromEnvironment ns mapName environments).map Environment.name =
      environments.map Environment.name := by
  induction environments with
  | nil => rfl
  | cons environment rest inductionHypothesis =>
      rw [removeFromEnvironment]
      split
      · rfl
      · rw [List.map_cons, List.map_cons, inductionHypothesis]

theorem listedRooms_removeFromEnvironment
    (environments : List Environment)
    (distinct : (environments.map Environment.name).Nodup)
    (isListed : (ns, mapName) ∈ listedRooms environments) :
    (listedRooms environments).Perm
      ((ns, mapName) ::
        listedRooms (removeFromEnvironment ns mapName environments)) := by
  induction environments with
  | nil => cases isListed
  | cons environment rest inductionHypothesis =>
      rw [List.map_cons, List.nodup_cons] at distinct
      obtain ⟨other, isMember, hasName, isMap⟩ := mem_listedRooms.mp isListed
      rw [removeFromEnvironment]
      split
      · rename_i sameName
        have isHead : other = environment := by
          rcases List.mem_cons.mp isMember with rfl | isLater
          · rfl
          · exact absurd (hasName.trans sameName.symm ▸
              List.mem_map_of_mem isLater) distinct.1
        subst isHead
        simp only [listedRooms, List.flatMap_cons, sameName]
        exact ((List.perm_cons_erase isMap).map _).append_right _
      · rename_i otherName
        have isLater : other ∈ rest := by
          rcases List.mem_cons.mp isMember with rfl | isLater
          · exact absurd hasName otherName
          · exact isLater
        have removed := inductionHypothesis distinct.2
          (mem_listedRooms.mpr ⟨other, isLater, hasName, isMap⟩)
        simp only [listedRooms, List.flatMap_cons]
        exact (removed.append_left _).trans List.perm_middle

theorem mapFullName_right_injective
    {other : String}
    (same : mapFullName ns mapName = mapFullName ns other) :
    mapName = other := by
  simpa [mapFullName] using same

theorem Consistent.dumpMap
    (consistent : Consistent server)
    (ownName : ∀ map ∈ server.maps,
      map.getMapFullName = mapFullName ns mapName → map.ns = ns) :
    Consistent (dumpMapCallback server ns mapName).1 := by
  simp only [dumpMapCallback]
  split
  · rename_i isLoaded
    obtain ⟨map, isMember, hasName⟩ := List.mem_map.mp isLoaded
    obtain ⟨dumped, earlier, later, notEarlier, dumpedName, maps_eq, erased⟩ :=
      List.exists_of_eraseP
        (p := fun map : MapEntry Map =>
          map.getMapFullName = mapFullName ns mapName)
        isMember (by simpa using hasName)
    rw [decide_eq_true_eq] at dumpedName
    have dumpedNs : dumped.ns = ns :=
      ownName dumped (by simp [maps_eq]) dumpedName
    have dumpedMap : dumped.mapName = mapName := by
      subst dumpedNs
      exact mapFullName_right_injective dumpedName
    have isRoom : dumped.room = (ns, mapName) :=
      Prod.ext dumpedNs dumpedMap
    have isListed : (ns, mapName) ∈ listedRooms server.environments := by
      rw [consistent.listed.mem_iff, ← isRoom, maps_eq]
      exact List.mem_map_of_mem (by simp)
    constructor
    case fullNames =>
      exact consistent.fullNames.sublist
        (List.eraseP_sublist.map MapEntry.getMapFullName)
    case distinct =>
      rw [MultimapServer.environmentNames, names_removeFromEnvironment]
      exact consistent.distinct
    case listed =>
      have removed := listedRooms_removeFromEnvironment _
        consistent.distinct isListed
      have middle : (server.maps.map MapEntry.room).Perm
          ((ns, mapName) :: (earlier ++ later).map MapEntry.room) := by
        rw [maps_eq, List.map_append, List.map_cons, isRoom, List.map_append]
        exact List.perm_middle
      rw [erased]
      exact (List.perm_cons _).mp
        (removed.symm.trans (consistent.listed.trans middle))
  · exact consistent

end Callbacks

section Document

variable {directory name globalFrame : String}

variable
  (maps : List MapNode)

/-- New entries belong to the environment, and their full names are new. -/
theorem attemptMaps_nodup
    {loaded : List String}
    (distinct : loaded.Nodup) :
    (loaded ++ (attemptMaps files directory name globalFrame loaded
      maps).reduceOption.map MapEntry.getMapFullName).Nodup := by
  induction maps generalizing loaded with
  | nil => simpa [attemptMaps] using distinct
  | cons node rest inductionHypothesis =>
      rw [attemptMaps]
      split
      · split
        · exact inductionHypothesis distinct
        · rename_i mapName _ _ _ isNew
          split
          · have extended : (loaded ++ [mapFullName name mapName]).Nodup :=
              distinct.append (List.nodup_singleton _)
                (List.disjoint_singleton.mpr isNew)
            simpa [List.reduceOption_cons_of_some, MapEntry.getMapFullName]
              using inductionHypothesis extended
          · exact inductionHypothesis distinct
      · simpa using distinct

theorem attemptMaps_room
    (loaded : List String) :
    (attemptMaps files directory name globalFrame loaded
        maps).reduceOption.map MapEntry.room =
      ((attemptMaps files directory name globalFrame loaded
        maps).reduceOption.map MapEntry.mapName).map fun map => (name, map) := by
  induction maps generalizing loaded with
  | nil => rfl
  | cons node rest inductionHypothesis =>
      rw [attemptMaps]
      split
      · split
        · exact inductionHypothesis loaded
        · split
          · simp only [List.reduceOption_cons_of_some, List.map_cons,
              inductionHypothesis]
            rfl
          · exact inductionHypothesis loaded
      · rfl

/-- The loop over the maps adds the entries that can be loaded. -/
theorem loadMaps_eq
    (server : MultimapServer Map)
    (environment : Environment)
    (allMapsLoaded : Bool)
    {attempts : List (Option (MapEntry Map))}
    (areAttempts : attemptMaps files directory environment.name
      environment.globalFrame server.fullNames maps = attempts) :
    loadMaps files directory server environment allMapsLoaded maps =
      ({ server with maps := server.maps ++ attempts.reduceOption },
        if maps.all MapNode.isReadable then
          some ({ environment with
              mapName := environment.mapName ++
                attempts.reduceOption.map MapEntry.mapName },
            allMapsLoaded && attempts.all Option.isSome)
        else none) := by
  subst areAttempts
  induction maps generalizing server environment allMapsLoaded with
  | nil => simp [loadMaps, attemptMaps]
  | cons node rest inductionHypothesis =>
      rw [loadMaps, attemptMaps]
      split
      · rename_i mapName mapFile hasName hasFile
        have isReadable : node.isReadable = true := by
          simp [MapNode.isReadable, hasName, hasFile]
        simp only [List.all_cons, isReadable, Bool.true_and,
          isMapAlreadyLoaded, decide_eq_true_eq]
        split
        · exact inductionHypothesis server environment allMapsLoaded
        · split
          · rw [inductionHypothesis]
            simp [List.reduceOption_cons_of_some, MultimapServer.fullNames,
              MapEntry.getMapFullName]
          · rw [inductionHypothesis]
            simp [List.reduceOption_cons_of_none]
      · rename_i notReadable
        have isNotReadable : node.isReadable = false := by
          cases hasName : node.name with
          | none => simp [MapNode.isReadable, hasName]
          | some mapName =>
              cases hasFile : node.file with
              | none => simp [MapNode.isReadable, hasFile]
              | some mapFile => exact absurd hasFile (notReadable _ _ hasName)
        simp [isNotReadable]

/-- The server with the loaded maps of a new environment. -/
def MultimapServer.addWhole
    (server : MultimapServer Map)
    (name globalFrame : String)
    (entries : List (MapEntry Map)) : MultimapServer Map where
  maps := server.maps ++ entries
  environments := server.environments ++
    [⟨name, globalFrame, entries.map MapEntry.mapName⟩]

theorem fullNames_addWhole
    (entries : List (MapEntry Map)) :
    (server.addWhole name globalFrame entries).fullNames =
      server.fullNames ++ entries.map MapEntry.getMapFullName :=
  List.map_append

theorem environmentNames_addWhole
    (entries : List (MapEntry Map)) :
    (server.addWhole name globalFrame entries).environmentNames =
      server.environmentNames ++ [name] :=
  List.map_append

variable
  {node : EnvironmentNode}

/-- If no map can be loaded, the server stays as it is. -/
theorem loadEnvironment_nothing
    (noneLoads : ∀ attempt ∈
      node.attempts files directory server.fullNames, attempt = none) :
    loadEnvironment files directory server node =
      (server, node.isReadable) := by
  rw [EnvironmentNode.attempts] at noneLoads
  rw [loadEnvironment]
  split
  · rename_i name globalFrame hasName hasFrame
    simp only [hasName, hasFrame] at noneLoads
    rw [loadMaps_eq node.maps server ⟨name, globalFrame, []⟩ true rfl,
      List.eq_replicate_of_mem noneLoads, List.reduceOption_replicate_none]
    simp only [EnvironmentNode.isReadable, hasName, hasFrame]
    cases node.maps.all MapNode.isReadable with
    | false => simp
    | true => simp
  · rename_i notReadable
    have isNotReadable : node.isReadable = false := by
      cases hasName : node.name with
      | none => simp [EnvironmentNode.isReadable, hasName]
      | some name =>
          cases hasFrame : node.globalFrame with
          | none => simp [EnvironmentNode.isReadable, hasFrame]
          | some globalFrame =>
              exact absurd hasFrame (notReadable _ _ hasName)
    rw [isNotReadable]

theorem loadEnvironment_whole
    {entries : List (MapEntry Map)}
    (isReadable : node.isReadable = true)
    (hasName : node.name = some name)
    (allLoad : node.attempts files directory server.fullNames =
      entries.map some)
    (notEmpty : entries ≠ []) :
    ∃ globalFrame,
      node.globalFrame = some globalFrame ∧
      loadEnvironment files directory server node =
        (server.addWhole name globalFrame entries, true) := by
  simp only [EnvironmentNode.isReadable, Bool.and_eq_true] at isReadable
  obtain ⟨globalFrame, hasFrame⟩ :=
    Option.isSome_iff_exists.mp isReadable.1.2
  simp only [EnvironmentNode.attempts, hasName, hasFrame] at allLoad
  refine ⟨globalFrame, hasFrame, ?_⟩
  simp only [loadEnvironment, hasName, hasFrame]
  rw [loadMaps_eq node.maps server ⟨name, globalFrame, []⟩ true allLoad]
  have reduced : (entries.map some).reduceOption = entries := by
    simp [List.reduceOption]
  simp [reduced, isReadable.2, notEmpty, MultimapServer.addWhole]

theorem Consistent.loadEnvironment
    {entries : List (MapEntry Map)}
    (consistent : Consistent server)
    (hasName : node.name = some name)
    (hasFrame : node.globalFrame = some globalFrame)
    (allLoad : node.attempts files directory server.fullNames =
      entries.map some)
    (isNew : name ∉ server.environmentNames) :
    Consistent (server.addWhole name globalFrame entries) := by
  simp only [EnvironmentNode.attempts, hasName, hasFrame] at allLoad
  have reduced : (entries.map some).reduceOption = entries := by
    simp [List.reduceOption]
  constructor
  case fullNames =>
    have distinct : (_ ++ (attemptMaps files directory name globalFrame _
        node.maps).reduceOption.map _).Nodup :=
      attemptMaps_nodup node.maps consistent.fullNames
    rw [allLoad, reduced] at distinct
    rwa [fullNames_addWhole]
  case distinct =>
    rw [environmentNames_addWhole]
    exact consistent.distinct.append (List.nodup_singleton _)
      (List.disjoint_singleton.mpr isNew)
  case listed =>
    have rooms : (attemptMaps files directory name globalFrame _
        node.maps).reduceOption.map _ = _ :=
      attemptMaps_room node.maps server.fullNames
    rw [allLoad, reduced] at rooms
    rw [MultimapServer.addWhole, listedRooms_append, List.map_append, rooms]
    simp only [listedRooms, List.flatMap_singleton]
    exact consistent.listed.append_right _

theorem Consistent.loadEnvironments
    {untouched : Bool}
    {nodes : List EnvironmentNode}
    (consistent : Consistent server)
    (whole : LoadsWhole files directory server.fullNames
      server.environmentNames untouched nodes) :
    Consistent (loadEnvironments files directory server nodes).1 ∧
      ((loadEnvironments files directory server nodes).2 = false →
        untouched = true ∧
          (loadEnvironments files directory server nodes).1 = server) := by
  induction nodes generalizing server untouched with
  | nil => exact ⟨consistent, by simp [NavBim.loadEnvironments]⟩
  | cons node rest inductionHypothesis =>
      cases whole with
      | nothing isReadable noneLoads restWhole =>
          rw [NavBim.loadEnvironments, loadEnvironment_nothing noneLoads,
            isReadable]
          exact inductionHypothesis consistent restWhole
      | @whole _ _ _ _ _ name entries isReadable hasName allLoad notEmpty
          isNew restWhole =>
          obtain ⟨globalFrame, hasFrame, result⟩ :=
            loadEnvironment_whole isReadable hasName allLoad notEmpty
          rw [NavBim.loadEnvironments, result]
          have afterwards := consistent.loadEnvironment hasName hasFrame
            allLoad isNew
          rw [← fullNames_addWhole, ← environmentNames_addWhole] at restWhole
          obtain ⟨kept, succeeds⟩ := inductionHypothesis afterwards restWhole
          refine ⟨kept, ?_⟩
          intro fails
          exact absurd (succeeds fails).1 (by decide)
      | malformed notReadable noneLoads =>
          rw [NavBim.loadEnvironments, loadEnvironment_nothing noneLoads,
            notReadable]
          exact ⟨consistent, fun _ => ⟨rfl, rfl⟩⟩

theorem Consistent.loadEnvironmentsFromYAML
    {filename : String}
    (consistent : Consistent server)
    (whole : HandledWhole server files (.loadEnvironments filename)) :
    Consistent (loadEnvironmentsFromYAML files server filename).1 ∧
      ((loadEnvironmentsFromYAML files server filename).2 = false →
        (loadEnvironmentsFromYAML files server filename).1 = server) := by
  rw [NavBim.loadEnvironmentsFromYAML]
  split
  · exact ⟨consistent, fun _ => rfl⟩
  · exact ⟨consistent, fun _ => rfl⟩
  · rename_i nodes found
    have loaded := consistent.loadEnvironments (whole nodes found)
    exact ⟨loaded.1, fun fails => (loaded.2 fails).2⟩

end Document

theorem Consistent.handleRequest
    {request : MapRequest}
    (consistent : Consistent server)
    (whole : HandledWhole server files request) :
    Consistent (handleRequest files server request).1 ∧
      ((handleRequest files server request).2.success = false →
        (handleRequest files server request).1 = server) := by
  cases request with
  | loadMap mapUrl ns mapName globalFrame =>
      refine ⟨consistent.loadMap, ?_⟩
      simp only [NavBim.handleRequest, loadMapCallback]
      split
      · simp
      · split <;> simp
  | loadEnvironments environmentsUrl =>
      have loaded := consistent.loadEnvironmentsFromYAML whole
      simp only [NavBim.handleRequest, loadEnvironmentsCallback]
      split
      · rename_i after result
        rw [result] at loaded
        exact ⟨loaded.1, by simp⟩
      · rename_i after result
        rw [result] at loaded
        exact ⟨loaded.1, fun _ => loaded.2 rfl⟩
  | dumpMap ns mapName =>
      refine ⟨consistent.dumpMap whole, ?_⟩
      simp only [NavBim.handleRequest, dumpMapCallback]
      split <;> simp
  | dumpEnvironments => exact ⟨.empty, by simp [NavBim.handleRequest,
      dumpEnvironmentsCallback]⟩

theorem MultimapRun.consistent
    (run : MultimapRun HandledWhole server) :
    Consistent server := by
  induction run with
  | start => exact .empty
  | handle files request _ whole consistent =>
      exact (consistent.handleRequest whole).1

/-- As long as files are loaded as a whole and maps are dumped under the
environment they were loaded in, the table and the environments agree, and a
request that fails changes nothing. -/
theorem maps_agree_with_environments
    (server : MultimapServer Map)
    (run : MultimapRun HandledWhole server) :
    MapsAgree server ∧
      ∀ files request, HandledWhole server files request →
        (handleRequest files server request).2.success = false →
        (handleRequest files server request).1 = server := by
  have consistent := run.consistent
  refine ⟨consistent.mapsAgree, ?_⟩
  intro files request whole
  exact (consistent.handleRequest whole).2

end Consistency

/-- A file with a floor of two rooms, some of whose maps cannot be read. -/
def hallFiles
    (unreadable : List String) : MapFiles Unit where
  environments := fun _ =>
    .document
      [⟨some "floor", some "map",
        [⟨some "hall", some "hall.yaml"⟩, ⟨some "store", some "store.yaml"⟩]⟩]
  loadMap := fun mapUrl _ _ =>
    if mapUrl ∈ unreadable then
      .error ("Failed to load map from: " ++ mapUrl)
    else
      .ok ()

/-- If the second map cannot be read, the first one stays loaded, but no
environment lists it. -/
theorem unreadable_store_orphans_hall :
    ∃ server : MultimapServer Unit,
      MultimapRun (fun _ _ _ => True) server ∧ ¬ MapsAgree server := by
  have isEmpty : MultimapRun (fun _ _ _ => True)
      (⟨[], []⟩ : MultimapServer Unit) :=
    .start
  have loaded := isEmpty.handle (hallFiles ["maps/store.yaml"])
    (.loadEnvironments "maps/floors.yaml") trivial
  have result :
      (handleRequest (hallFiles ["maps/store.yaml"]) ⟨[], []⟩
        (.loadEnvironments "maps/floors.yaml")).1 =
        ⟨[⟨"floor", "hall", "map", ()⟩], []⟩ := by
    decide +kernel
  rw [result] at loaded
  refine ⟨_, loaded, ?_⟩
  intro agree
  obtain ⟨earlier, environment, later, isSplit, -⟩ :=
    agree.once ⟨"floor", "hall", "map", ()⟩ List.mem_cons_self
  cases earlier <;> cases isSplit

/-- A floor is loaded as a whole, and then one of its maps is dumped. -/
theorem dumped_store_leaves_hall_listed :
    ∃ server : MultimapServer Unit,
      MultimapRun HandledWhole server ∧
      server.environments = [⟨"floor", "map", ["hall"]⟩] ∧
      MapsAgree server := by
  have whole : HandledWhole ⟨[], []⟩ (hallFiles [])
      (.loadEnvironments "maps/floors.yaml") := by
    intro nodes found
    cases found
    have allLoad : EnvironmentNode.attempts (hallFiles [])
        (environmentsDirectory "maps/floors.yaml") []
        ⟨some "floor", some "map",
          [⟨some "hall", some "hall.yaml"⟩,
            ⟨some "store", some "store.yaml"⟩]⟩ =
        [⟨"floor", "hall", "map", ()⟩,
          ⟨"floor", "store", "map", ()⟩].map some := by
      decide +kernel
    exact .whole rfl rfl allLoad (by simp) List.not_mem_nil .done
  have loaded := MultimapRun.handle _ _ .start whole
  have result :
      (handleRequest (hallFiles []) ⟨[], []⟩
        (.loadEnvironments "maps/floors.yaml")).1 =
        ⟨[⟨"floor", "hall", "map", ()⟩, ⟨"floor", "store", "map", ()⟩],
          [⟨"floor", "map", ["hall", "store"]⟩]⟩ := by
    decide +kernel
  rw [result] at loaded
  have dumped := MultimapRun.handle (hallFiles []) (.dumpMap "floor" "store")
    loaded (by simp [HandledWhole])
  exact ⟨_, dumped, by decide +kernel,
    (maps_agree_with_environments _ dumped).1⟩

end NavBim
