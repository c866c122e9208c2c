import Mathlib.Tactic

namespace NavBim

/-!
# Geometries in JSON data

Data with geometries are made of dictionaries, lists and scalars.  The encoder
replaces every geometry by its mapping, and the decoder makes a geometry of
every dictionary with a type and coordinates.
-/

/-- Data of Python.  A scalar is everything that is neither a dictionary nor a
list nor a geometry, also a tuple of coordinates. -/
inductive PythonData (G S : Type) where
  | scalar (value : S)
  | geometry (shape : G)
  | list (items : List (PythonData G S))
  | dict (entries : List (String × PythonData G S))

namespace PythonData

variable {G S : Type}

def HasKey
    (entries : List (String × PythonData G S))
    (key : String) : Prop :=
  key ∈ entries.map Prod.fst

instance
    (entries : List (String × PythonData G S))
    (key : String) : Decidable (HasKey entries key) :=
  inferInstanceAs (Decidable (_ ∈ _))

/-- `'type' in data and 'coordinates' in data`. -/
def LooksLikeGeometry
    (entries : List (String × PythonData G S)) : Prop :=
  HasKey entries "type" ∧ HasKey entries "coordinates"

instance
    (entries : List (String × PythonData G S)) :
    Decidable (LooksLikeGeometry entries) :=
  inferInstanceAs (Decidable (_ ∧ _))

end PythonData

/-- The geometry library.  A mapping has a type, and coordinates or, for a
collection, the mappings of the members.  The library makes the geometry of
its mapping again, and raises where a dictionary is no mapping. -/
structure Shapely (G S : Type) where
  entries : G → List (String × PythonData G S)
  shape : List (String × PythonData G S) → Option G
  IsCollection : G → Prop
  members : G → List G
  shape_entries : ∀ geometry, shape (entries geometry) = some geometry
  entries_single :
    ∀ geometry, ¬ IsCollection geometry →
      ∃ type coordinates,
        entries geometry =
          [("type", .scalar type), ("coordinates", .scalar coordinates)]
  entries_collection :
    ∀ geometry, IsCollection geometry →
      ∃ type,
        entries geometry =
          [("type", .scalar type),
            ("geometries",
              .list ((members geometry).map fun member =>
                .dict (entries member)))]

namespace PolygonUtils

open PythonData

variable {G S : Type} (shapely : Shapely G S)

def mapping
    (geometry : G) : PythonData G S :=
  .dict (shapely.entries geometry)

mutual

/-- A value inside of a dictionary or list. -/
def convertValue : PythonData G S → PythonData G S
  | .geometry shape => mapping shapely shape
  | .list items => .list (convertItems items)
  | .dict entries => .dict (convertEntries entries)
  | .scalar value => .scalar value

def convertItems : List (PythonData G S) → List (PythonData G S)
  | [] => []
  | item :: rest => convertValue item :: convertItems rest

def convertEntries :
    List (String × PythonData G S) → List (String × PythonData G S)
  | [] => []
  | (key, value) :: rest => (key, convertValue value) :: convertEntries rest

end

/-- Data that are a geometry themselves stay. -/
def convertShapelyToJson : PythonData G S → PythonData G S
  | .dict entries => .dict (convertEntries shapely entries)
  | .list items => .list (convertItems shapely items)
  | data => data

mutual

def convertJsonToShapely : PythonData G S → PythonData G S
  | .dict entries =>
      if LooksLikeGeometry entries then
        match shapely.shape entries with
        | some shape => .geometry shape
        | none => .dict (restoreEntries entries)
      else
        .dict (restoreEntries entries)
  | .list items => .list (restoreItems items)
  | data => data

def restoreItems : List (PythonData G S) → List (PythonData G S)
  | [] => []
  | item :: rest => convertJsonToShapely item :: restoreItems rest

def restoreEntries :
    List (String × PythonData G S) → List (String × PythonData G S)
  | [] => []
  | (key, value) :: rest =>
      (key, convertJsonToShapely value) :: restoreEntries rest

end

mutual

/-- No dictionary of the data looks like a geometry. -/
def Plain : PythonData G S → Prop
  | .dict entries => ¬ LooksLikeGeometry entries ∧ PlainEntries entries
  | .list items => PlainItems items
  | _ => True

def PlainItems : List (PythonData G S) → Prop
  | [] => True
  | item :: rest => Plain item ∧ PlainItems rest

def PlainEntries : List (String × PythonData G S) → Prop
  | [] => True
  | (_, value) :: rest => Plain value ∧ PlainEntries rest

end

mutual

/-- No geometry of the data is a collection. -/
def NoCollection : PythonData G S → Prop
  | .geometry shape => ¬ shapely.IsCollection shape
  | .list items => NoCollectionItems items
  | .dict entries => NoCollectionEntries entries
  | .scalar _ => True

def NoCollectionItems : List (PythonData G S) → Prop
  | [] => True
  | item :: rest => NoCollection item ∧ NoCollectionItems rest

def NoCollectionEntries : List (String × PythonData G S) → Prop
  | [] => True
  | (_, value) :: rest => NoCollection value ∧ NoCollectionEntries rest

end

variable {shapely}

theorem keys_convertEntries
    (entries : List (String × PythonData G S)) :
    (convertEntries shapely entries).map Prod.fst =
      entries.map Prod.fst := by
  induction entries with
  | nil =>
      rfl
  | cons entry rest inductionHypothesis =>
      rw [convertEntries, List.map_cons, List.map_cons, inductionHypothesis]

/-- The encoder keeps the keys, so no plain dictionary becomes a geometry. -/
theorem looksLikeGeometry_convertEntries_iff
    (entries : List (String × PythonData G S)) :
    LooksLikeGeometry (convertEntries shapely entries) ↔
      LooksLikeGeometry entries := by
  rw [LooksLikeGeometry, HasKey, HasKey, keys_convertEntries]
  rfl

theorem convertJsonToShapely_mapping_iff
    (shape : G) :
    convertJsonToShapely shapely (mapping shapely shape) = .geometry shape ↔
      ¬ shapely.IsCollection shape := by
  by_cases isCollection : shapely.IsCollection shape
  · obtain ⟨type, isEntries⟩ := shapely.entries_collection shape isCollection
    have notLike : ¬ LooksLikeGeometry (shapely.entries shape) := by
      rw [isEntries, LooksLikeGeometry, HasKey, HasKey]
      simp
    rw [mapping, convertJsonToShapely, if_neg notLike]
    exact iff_of_false nofun (not_not.mpr isCollection)
  · obtain ⟨type, coordinates, isEntries⟩ :=
      shapely.entries_single shape isCollection
    have like : LooksLikeGeometry (shapely.entries shape) := by
      rw [isEntries, LooksLikeGeometry, HasKey, HasKey]
      simp
    rw [mapping, convertJsonToShapely, if_pos like, shapely.shape_entries]
    exact iff_of_true rfl isCollection

mutual

/-- A value comes back if it holds no collection. -/
theorem restore_convertValue_iff
    (data : PythonData G S)
    (plain : Plain data) :
    convertJsonToShapely shapely (convertValue shapely data) = data ↔
      NoCollection shapely data := by
  cases data with
  | scalar value =>
      exact iff_of_true rfl trivial
  | geometry shape =>
      exact convertJsonToShapely_mapping_iff shape
  | list items =>
      rw [convertValue, convertJsonToShapely, list.injEq, NoCollection]
      exact restore_convertItems_iff items plain
  | dict entries =>
      obtain ⟨notLike, plainEntries⟩ := plain
      rw [← @looksLikeGeometry_convertEntries_iff G S shapely] at notLike
      rw [convertValue, convertJsonToShapely, if_neg notLike, dict.injEq,
        NoCollection]
      exact restore_convertEntries_iff entries plainEntries

theorem restore_convertItems_iff
    (items : List (PythonData G S))
    (plain : PlainItems items) :
    restoreItems shapely (convertItems shapely items) = items ↔
      NoCollectionItems shapely items := by
  cases items with
  | nil =>
      exact iff_of_true rfl trivial
  | cons item rest =>
      rw [convertItems, restoreItems, List.cons.injEq, NoCollectionItems]
      exact and_congr (restore_convertValue_iff item plain.1)
        (restore_convertItems_iff rest plain.2)

theorem restore_convertEntries_iff
    (entries : List (String × PythonData G S))
    (plain : PlainEntries entries) :
    restoreEntries shapely (convertEntries shapely entries) = entries ↔
      NoCollectionEntries shapely entries := by
  cases entries with
  | nil =>
      exact iff_of_true rfl trivial
  | cons entry rest =>
      obtain ⟨key, value⟩ := entry
      rw [convertEntries, restoreEntries, List.cons.injEq, Prod.mk.injEq,
        NoCollectionEntries, and_iff_right rfl]
      exact and_congr (restore_convertValue_iff value plain.1)
        (restore_convertEntries_iff rest plain.2)

end

/-- Data come back if they are one geometry or hold no collection. -/
theorem geometry_data_come_back_iff
    (shapely : Shapely G S)
    (data : PythonData G S)
    (plain : Plain data) :
    convertJsonToShapely shapely (convertShapelyToJson shapely data) = data ↔
      (∃ shape, data = .geometry shape) ∨ NoCollection shapely data := by
  cases data with
  | scalar value =>
      exact iff_of_true rfl (.inr trivial)
  | geometry shape =>
      exact iff_of_true rfl (.inl ⟨shape, rfl⟩)
  | list items =>
      rw [or_iff_right nofun]
      exact restore_convertValue_iff (.list items) plain
  | dict entries =>
      rw [or_iff_right nofun]
      exact restore_convertValue_iff (.dict entries) plain

section Points

/-- Points, and collections of points. -/
inductive PointGeometry where
  | point (x y : Int)
  | collection (points : List (Int × Int))
  deriving DecidableEq

def pointEntries
    (point : Int × Int) :
    List (String × PythonData PointGeometry (String ⊕ Int × Int)) :=
  [("type", .scalar (.inl "Point")), ("coordinates", .scalar (.inr point))]

def pointCoordinates :
    PythonData PointGeometry (String ⊕ Int × Int) → Option (Int × Int)
  | .dict [_, (_, .scalar (.inr point))] => some point
  | _ => none

def shapelyOfPoints : Shapely PointGeometry (String ⊕ Int × Int) where
  entries
    | .point x y => pointEntries (x, y)
    | .collection points =>
        [("type", .scalar (.inl "GeometryCollection")),
          ("geometries",
            .list (points.map fun point => .dict (pointEntries point)))]
  shape
    | [_, (_, .scalar (.inr (x, y)))] => some (.point x y)
    | [_, (_, .list items)] =>
        (items.mapM pointCoordinates).map .collection
    | _ => none
  IsCollection
    | .point _ _ => False
    | .collection _ => True
  members
    | .point _ _ => []
    | .collection points => points.map fun point => .point point.1 point.2
  shape_entries := by
    intro geometry
    cases geometry with
    | point x y =>
        rfl
    | collection points =>
        have read :
            (points.map fun point =>
                PythonData.dict (pointEntries point)).mapM
              pointCoordinates = some points := by
          induction points with
          | nil =>
              rfl
          | cons point rest inductionHypothesis =>
              rw [List.map_cons, List.mapM_cons, inductionHypothesis]
              rfl
        exact congrArg (Option.map PointGeometry.collection) read
  entries_single := by
    intro geometry single
    cases geometry with
    | point x y =>
        exact ⟨_, _, rfl⟩
    | collection points =>
        exact absurd trivial single
  entries_collection := by
    intro geometry isCollection
    cases geometry with
    | point x y =>
        exact isCollection.elim
    | collection points =>
        refine ⟨.inl "GeometryCollection", ?_⟩
        rw [List.map_map]
        rfl

/-- A room with a geometry. -/
def roomData
    (shape : PointGeometry) :
    PythonData PointGeometry (String ⊕ Int × Int) :=
  .dict [("type", .scalar (.inl "room")), ("polygon", .geometry shape)]

theorem plain_roomData
    (shape : PointGeometry) :
    Plain (roomData shape) :=
  ⟨by simp [LooksLikeGeometry, HasKey], trivial, trivial, trivial⟩

/-- A point comes back. -/
theorem point_comes_back :
    convertJsonToShapely shapelyOfPoints
        (convertShapelyToJson shapelyOfPoints (roomData (.point 1 2))) =
      roomData (.point 1 2) :=
  (geometry_data_come_back_iff shapelyOfPoints _ (plain_roomData _)).mpr
    (.inr ⟨trivial, id, trivial⟩)

/-- A collection comes back as a dictionary. -/
theorem collection_stays_dictionary :
    Plain (roomData (.collection [(1, 2)])) ∧
      convertJsonToShapely shapelyOfPoints
          (convertShapelyToJson shapelyOfPoints
            (roomData (.collection [(1, 2)]))) =
        .dict
          [("type", .scalar (.inl "room")),
            ("polygon",
              .dict
                [("type", .scalar (.inl "GeometryCollection")),
                  ("geometries", .list [.geometry (.point 1 2)])])] ∧
      convertJsonToShapely shapelyOfPoints
          (convertShapelyToJson shapelyOfPoints
            (roomData (.collection [(1, 2)]))) ≠
        roomData (.collection [(1, 2)]) := by
  have restored :
      convertJsonToShapely shapelyOfPoints
          (convertShapelyToJson shapelyOfPoints
            (roomData (.collection [(1, 2)]))) =
        .dict
          [("type", .scalar (.inl "room")),
            ("polygon",
              .dict
                [("type", .scalar (.inl "GeometryCollection")),
                  ("geometries", .list [.geometry (.point 1 2)])])] := by
    rfl
  refine ⟨plain_roomData _, restored, ?_⟩
  rw [restored]
  simp [roomData]

end Points

end PolygonUtils

end NavBim
