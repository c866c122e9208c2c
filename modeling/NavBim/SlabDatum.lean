import NavBim.FloorManager
import NavBim.Numerals
import NavBim.RenamedKeys

namespace NavBim

/-!
# Slabs on another height datum

Close slabs are merged unless the last floor lies at elevation zero, which the
code takes for no elevation.  So the detected floors do not depend on the datum
exactly if no such slab is skipped, on either datum.
-/

attribute [local instance] atLeastTwo_10

variable
  {K Shape : Type}
  [Field K]
  [LinearOrder K]
  {ops : PolygonOps K Shape}
  {highest : WithBot K}
  {floorSlabs regular found : OrderedDict K Shape}
  {slabs : List (K × Shape)}
  {previous : Option K}

section Scan

/-- A slab is close to the one before it, the last floor lies at an elevation,
and the slab is large beside it or the floor has no area. -/
def MovesFloor
    (lastElevation verticalTolerance : K)
    (ops : PolygonOps K Shape)
    (floorSlabs : OrderedDict K Shape)
    (previous : Option K)
    (regular : OrderedDict K Shape)
    (slab : K × Shape) : Prop :=
  (∃ previousElevation ∈ previous,
    slab.1 - previousElevation < verticalTolerance) ∧
  regular.keys.getLast? = some lastElevation ∧
  ∀ lastPolygon ∈ floorSlabs.get? lastElevation,
    ops.area lastPolygon = 0 ∨
      1 / 10 < ops.area slab.2 / ops.area lastPolygon

instance
    (lastElevation verticalTolerance : K)
    (ops : PolygonOps K Shape)
    (floorSlabs : OrderedDict K Shape)
    (previous : Option K)
    (regular : OrderedDict K Shape)
    (slab : K × Shape) :
    Decidable (MovesFloor lastElevation verticalTolerance ops floorSlabs
      previous regular slab) :=
  inferInstanceAs (Decidable (_ ∧ _ ∧ _))

/-- The loop over the slabs comes to one that would move a floor at elevation
zero. -/
def SkipsSlab
    (verticalTolerance : K)
    (ops : PolygonOps K Shape)
    (highest : WithBot K)
    (floorSlabs : OrderedDict K Shape) :
    List (K × Shape) → Option K → OrderedDict K Shape → Prop
  | [], _, _ => False
  | slab :: rest, previous, regular =>
      ¬highest < ((slab.1 + verticalTolerance : K) : WithBot K) ∧
        (MovesFloor 0 verticalTolerance ops floorSlabs previous regular slab ∨
          ∃ next ∈ analyzeSlab verticalTolerance ops floorSlabs previous
              regular slab.1 slab.2,
            SkipsSlab verticalTolerance ops highest floorSlabs rest
              (some slab.1) next)

instance decidableSkipsSlab
    (verticalTolerance : K)
    (ops : PolygonOps K Shape)
    (highest : WithBot K)
    (floorSlabs : OrderedDict K Shape) :
    (slabs : List (K × Shape)) → (previous : Option K) →
      (regular : OrderedDict K Shape) →
        Decidable (SkipsSlab verticalTolerance ops highest floorSlabs slabs
          previous regular)
  | [], _, _ => inferInstanceAs (Decidable False)
  | slab :: rest, _, _ =>
      have := fun next => decidableSkipsSlab verticalTolerance ops highest
        floorSlabs rest (some slab.1) next
      inferInstanceAs (Decidable (_ ∧ (_ ∨ ∃ next ∈ _, _)))

variable
  {verticalTolerance : K}

variable
  {polygon : Shape}
  {next : OrderedDict K Shape}

/-- A close slab leaves the floors as they are, or the last one is taken off and
may come back at the elevation of the slab. -/
theorem mergeFloor_cases
    {elevation : K}
    (isNext : mergeFloor ops floorSlabs regular elevation polygon = some next) :
    next = regular ∨
      ∃ last ≠ 0, regular.keys.getLast? = some last ∧
        (next = regular.pop last ∨
          ∃ united, next = (regular.pop last).set elevation united) := by
  rw [mergeFloor] at isNext
  split at isNext
  · cases isNext
    exact .inl rfl
  · case h_2 last isLast =>
    split at isNext
    · cases isNext
      exact .inl rfl
    · case isFalse notZero =>
      obtain ⟨lastPolygon, -, isNext⟩ := Option.bind_eq_some_iff.mp isNext
      split at isNext
      · cases isNext
      · split at isNext
        · obtain ⟨old, -, isNext⟩ := Option.bind_eq_some_iff.mp isNext
          split at isNext
          · cases isNext
            exact .inr ⟨last, notZero, isLast, .inr ⟨_, rfl⟩⟩
          · cases isNext
            exact .inr ⟨last, notZero, isLast, .inl rfl⟩
        · cases isNext
          exact .inl rfl

theorem zero_mem_mergeFloor
    {elevation : K}
    (hasZero : 0 ∈ regular.keys)
    (isNext : mergeFloor ops floorSlabs regular elevation polygon = some next) :
    0 ∈ next.keys := by
  rcases mergeFloor_cases isNext with rfl | ⟨last, notZero, -, isPopped⟩
  · exact hasZero
  · have kept : 0 ∈ (regular.pop last).keys :=
      (regular.mem_keys_pop last 0).mpr ⟨hasZero, notZero.symm⟩
    rcases isPopped with rfl | ⟨united, rfl⟩
    · exact kept
    · rw [OrderedDict.mem_keys_set]
      exact .inr kept

theorem keys_mergeFloor
    {elevation key : K}
    (isNext : mergeFloor ops floorSlabs regular elevation polygon = some next)
    (isKey : key ∈ next.keys) :
    key = elevation ∨ key ∈ regular.keys := by
  rcases mergeFloor_cases isNext with rfl | ⟨last, -, -, isPopped⟩
  · exact .inr isKey
  · rcases isPopped with rfl | ⟨united, rfl⟩
    · exact .inr ((regular.mem_keys_pop last key).mp isKey).1
    · rw [OrderedDict.mem_keys_set, OrderedDict.mem_keys_pop] at isKey
      exact isKey.imp_right And.left

omit [Field K] in
theorem mem_keys_addFloor
    {elevation key : K}
    {polygon : Shape} :
    (key ∈ regular.keys →
        key ∈ (addFloor ops regular elevation polygon).keys) ∧
      (key ∈ (addFloor ops regular elevation polygon).keys →
        key = elevation ∨ key ∈ regular.keys) := by
  rw [addFloor]
  split
  · exact ⟨id, .inr⟩
  · rw [OrderedDict.mem_keys_set]
    exact ⟨.inr, id⟩

variable
  {slab : K × Shape}

theorem keys_analyzeSlab
    (isNext : analyzeSlab verticalTolerance ops floorSlabs previous regular
      slab.1 slab.2 = some next) :
    (0 ∈ regular.keys → 0 ∈ next.keys) ∧
      ∀ key ∈ next.keys, key = slab.1 ∨ key ∈ regular.keys := by
  cases previous with
  | none =>
      cases isNext
      exact ⟨mem_keys_addFloor.1, fun _ => mem_keys_addFloor.2⟩
  | some previousElevation =>
      rw [analyzeSlab] at isNext
      split at isNext
      · exact ⟨fun hasZero => zero_mem_mergeFloor hasZero isNext,
          fun _ => keys_mergeFloor isNext⟩
      · cases isNext
        exact ⟨mem_keys_addFloor.1, fun _ => mem_keys_addFloor.2⟩

/-- The whole loop. -/
theorem keys_analyzeSlabs
    (isFound : analyzeSlabs verticalTolerance ops highest floorSlabs slabs
      previous regular = some found) :
    (0 ∈ regular.keys → 0 ∈ found.keys) ∧
      ∀ key ∈ found.keys, key ∈ slabs.map Prod.fst ∨ key ∈ regular.keys := by
  induction slabs generalizing previous regular with
  | nil =>
      cases isFound
      exact ⟨id, fun _ => .inr⟩
  | cons slab rest inductionHypothesis =>
      rw [analyzeSlabs] at isFound
      split at isFound
      · cases isFound
        exact ⟨id, fun _ => .inr⟩
      · obtain ⟨next, isNext, isRest⟩ := Option.bind_eq_some_iff.mp isFound
        obtain ⟨keepsZero, fromSlab⟩ := keys_analyzeSlab isNext
        obtain ⟨keepsLater, fromRest⟩ := inductionHypothesis isRest
        refine ⟨keepsLater ∘ keepsZero, fun key isKey => ?_⟩
        rw [List.map_cons, List.mem_cons, or_assoc, or_left_comm]
        exact (fromRest key isKey).imp_right (fromSlab key)

theorem last_not_mem_analyzeSlab
    {lastElevation : K}
    (notZero : lastElevation ≠ 0)
    (below : lastElevation < slab.1)
    (moves : MovesFloor lastElevation verticalTolerance ops floorSlabs previous
      regular slab)
    (isNext : analyzeSlab verticalTolerance ops floorSlabs previous regular
      slab.1 slab.2 = some next) :
    lastElevation ∉ next.keys := by
  obtain ⟨⟨previousElevation, isPrevious, isClose⟩, isLast, isLarge⟩ := moves
  obtain rfl : previous = some previousElevation := isPrevious
  rw [analyzeSlab, if_pos isClose, mergeFloor, isLast] at isNext
  dsimp only at isNext
  rw [if_neg notZero] at isNext
  obtain ⟨lastPolygon, isLastPolygon, isNext⟩ :=
    Option.bind_eq_some_iff.mp isNext
  have taken : lastElevation ∉ (regular.pop lastElevation).keys :=
    fun isKey => ((regular.mem_keys_pop _ _).mp isKey).2 rfl
  split at isNext
  · cases isNext
  · case isFalse hasArea =>
    have large := (isLarge lastPolygon isLastPolygon).resolve_left hasArea
    rw [if_pos large] at isNext
    obtain ⟨old, -, isNext⟩ := Option.bind_eq_some_iff.mp isNext
    split at isNext
    · cases isNext
      rw [OrderedDict.mem_keys_set, not_or]
      exact ⟨below.ne, taken⟩
    · cases isNext
      exact taken

theorem zero_mem_of_moves
    (moves : MovesFloor 0 verticalTolerance ops floorSlabs previous regular
      slab)
    (isFound : analyzeSlabs verticalTolerance ops highest floorSlabs
      (slab :: slabs) previous regular = some found) :
    0 ∈ found.keys := by
  have hasZero : 0 ∈ regular.keys := List.mem_of_getLast? moves.2.1
  exact (keys_analyzeSlabs isFound).1 hasZero

theorem last_not_mem_of_moves
    {lastElevation : K}
    (notZero : lastElevation ≠ 0)
    (below : lastElevation < slab.1)
    (ordered : ((slab :: slabs).map Prod.fst).Pairwise (· < ·))
    (isHigh : ¬highest < ((slab.1 + verticalTolerance : K) : WithBot K))
    (moves : MovesFloor lastElevation verticalTolerance ops floorSlabs previous
      regular slab)
    (isFound : analyzeSlabs verticalTolerance ops highest floorSlabs
      (slab :: slabs) previous regular = some found) :
    lastElevation ∉ found.keys := by
  rw [analyzeSlabs, if_neg isHigh] at isFound
  obtain ⟨next, isNext, isRest⟩ := Option.bind_eq_some_iff.mp isFound
  intro isKey
  rcases (keys_analyzeSlabs isRest).2 _ isKey with isLater | isEarlier
  · rw [List.map_cons, List.pairwise_cons] at ordered
    exact lt_asymm below (ordered.1 _ isLater)
  · exact last_not_mem_analyzeSlab notZero below moves isNext isEarlier

theorem skipsSlab_cons_iff
    (isHigh : ¬highest < ((slab.1 + verticalTolerance : K) : WithBot K))
    (notMoved : ¬MovesFloor 0 verticalTolerance ops floorSlabs previous regular
      slab)
    (isNext : analyzeSlab verticalTolerance ops floorSlabs previous regular
      slab.1 slab.2 = some next) :
    SkipsSlab verticalTolerance ops highest floorSlabs (slab :: slabs) previous
        regular ↔
      SkipsSlab verticalTolerance ops highest floorSlabs slabs (some slab.1)
        next := by
  rw [SkipsSlab, and_iff_right isHigh, or_iff_right notMoved, isNext]
  constructor
  · rintro ⟨other, isOther, skips⟩
    obtain rfl : next = other := Option.some.inj isOther
    exact skips
  · intro skips
    exact ⟨next, rfl, skips⟩

end Scan

section Raised

variable
  [IsStrictOrderedRing K]

/-- Elevations on a datum that is lower by a constant. -/
def raising
    (c : K) : K ↪o K :=
  (OrderIso.addRight c).toOrderEmbedding

@[simp] theorem raising_apply
    (c elevation : K) :
    raising c elevation = elevation + c :=
  rfl

def OrderedDict.raised
    (c : K)
    (floors : OrderedDict K Shape) : OrderedDict K Shape :=
  floors.mapKeys (raising c).toEmbedding

def raisedSlab
    (c : K)
    (slab : K × Shape) : K × Shape :=
  (slab.1 + c, slab.2)

variable
  {c verticalTolerance : K}

theorem get?_raised
    (elevation : K) :
    (floorSlabs.raised c).get? (elevation + c) = floorSlabs.get? elevation :=
  floorSlabs.get?_mapKeys elevation

variable
  (elevation : K)

theorem set_raised
    (polygon : Shape) :
    (regular.set elevation polygon).raised c =
      (regular.raised c).set (elevation + c) polygon :=
  regular.mapKeys_set elevation polygon

theorem pop_raised
    (elevation : K) :
    (regular.pop elevation).raised c =
      (regular.raised c).pop (elevation + c) :=
  regular.mapKeys_pop elevation

theorem getLast?_keys_raised :
    (regular.raised c).keys.getLast? =
      regular.keys.getLast?.map (· + c) := by
  rw [OrderedDict.raised, OrderedDict.keys_mapKeys, List.getLast?_map]
  rfl

theorem movesFloor_raised_iff
    {lastElevation : K}
    {slab : K × Shape} :
    MovesFloor (lastElevation + c) verticalTolerance ops (floorSlabs.raised c)
        (previous.map (· + c)) (regular.raised c) (raisedSlab c slab) ↔
      MovesFloor lastElevation verticalTolerance ops floorSlabs previous regular
        slab := by
  refine and_congr ?_ (and_congr ?_ ?_)
  · cases previous with
    | none =>
        exact iff_of_false nofun nofun
    | some previousElevation =>
        simp only [Option.map_some, Option.mem_def, Option.some.injEq,
          exists_eq_left', raisedSlab, add_sub_add_right_eq_sub]
  · rw [getLast?_keys_raised]
    exact Option.map_injective (add_left_injective c) |>.eq_iff
      (b := some lastElevation)
  · rw [get?_raised]
    rfl

theorem lt_raised_iff
    {elevation : K} :
    highest.map (· + c) <
        ((elevation + c + verticalTolerance : K) : WithBot K) ↔
      highest < ((elevation + verticalTolerance : K) : WithBot K) := by
  cases highest with
  | bot =>
      exact iff_of_true (WithBot.bot_lt_coe _) (WithBot.bot_lt_coe _)
  | coe height =>
      rw [WithBot.map_coe, WithBot.coe_lt_coe, WithBot.coe_lt_coe,
        add_right_comm, add_lt_add_iff_right]

theorem addFloor_raised
    (polygon : Shape) :
    addFloor ops (regular.raised c) (elevation + c) polygon =
      (addFloor ops regular elevation polygon).raised c := by
  rw [addFloor, addFloor]
  split
  · rfl
  · exact (set_raised elevation polygon).symm

omit [IsStrictOrderedRing K] in
theorem mergeFloor_of_small
    {lastElevation elevation : K}
    {polygon : Shape}
    (isLast : regular.keys.getLast? = some lastElevation)
    (isSmall : ¬∀ lastPolygon ∈ floorSlabs.get? lastElevation,
      ops.area lastPolygon = 0 ∨
        1 / 10 < ops.area polygon / ops.area lastPolygon) :
    mergeFloor ops floorSlabs regular elevation polygon = some regular := by
  push Not at isSmall
  obtain ⟨lastPolygon, isLastPolygon, hasArea, isSmall⟩ := isSmall
  rw [mergeFloor, isLast]
  dsimp only
  split
  · rfl
  · rw [isLastPolygon]
    exact (if_neg hasArea).trans (if_neg (not_lt.mpr isSmall))

/-- On both data a slab does the same, unless it would move a floor at zero. -/
theorem mergeFloor_raised
    {elevation : K}
    {polygon : Shape}
    (keeps : ∀ lastElevation, regular.keys.getLast? = some lastElevation →
      (∀ lastPolygon ∈ floorSlabs.get? lastElevation,
        ops.area lastPolygon = 0 ∨
          1 / 10 < ops.area polygon / ops.area lastPolygon) →
      lastElevation ≠ 0 ∧ lastElevation + c ≠ 0) :
    mergeFloor ops (floorSlabs.raised c) (regular.raised c) (elevation + c)
        polygon =
      (mergeFloor ops floorSlabs regular elevation polygon).map
        (OrderedDict.raised c) := by
  cases isLast : regular.keys.getLast? with
  | none =>
      rw [mergeFloor, mergeFloor, getLast?_keys_raised, isLast]
      rfl
  | some lastElevation =>
      have isRaisedLast : (regular.raised c).keys.getLast? =
          some (lastElevation + c) := by
        rw [getLast?_keys_raised, isLast]
        rfl
      by_cases isLarge : ∀ lastPolygon ∈ floorSlabs.get? lastElevation,
          ops.area lastPolygon = 0 ∨
            1 / 10 < ops.area polygon / ops.area lastPolygon
      · obtain ⟨notZero, notRaisedZero⟩ := keeps lastElevation isLast isLarge
        rw [mergeFloor, mergeFloor, isRaisedLast, isLast]
        dsimp only
        rw [if_neg notZero, if_neg notRaisedZero, get?_raised, get?_raised,
          ← pop_raised]
        cases floorSlabs.get? lastElevation with
        | none =>
            rfl
        | some lastPolygon =>
            simp only [Option.bind_eq_bind, Option.bind_some]
            split
            · rfl
            · split
              · cases regular.get? lastElevation with
                | none =>
                    rfl
                | some old =>
                    simp only [Option.bind_some]
                    split
                    · rw [← set_raised]
                      rfl
                    · rfl
              · rfl
      · have isSmall := isLarge
        rw [← get?_raised (c := c)] at isSmall
        rw [mergeFloor_of_small isLast isLarge,
          mergeFloor_of_small isRaisedLast isSmall]
        rfl

theorem analyzeSlab_raised
    {slab : K × Shape}
    (notMoved : ¬MovesFloor 0 verticalTolerance ops floorSlabs previous regular
      slab)
    (notRaisedMoved : ¬MovesFloor 0 verticalTolerance ops (floorSlabs.raised c)
      (previous.map (· + c)) (regular.raised c) (raisedSlab c slab)) :
    analyzeSlab verticalTolerance ops (floorSlabs.raised c)
        (previous.map (· + c)) (regular.raised c) (raisedSlab c slab).1
        (raisedSlab c slab).2 =
      (analyzeSlab verticalTolerance ops floorSlabs previous regular slab.1
        slab.2).map (OrderedDict.raised c) := by
  cases previous with
  | none =>
      exact congrArg some (addFloor_raised slab.1 slab.2)
  | some previousElevation =>
      rw [Option.map_some, analyzeSlab, analyzeSlab, raisedSlab,
        add_sub_add_right_eq_sub]
      split
      · case isTrue isClose =>
        apply mergeFloor_raised
        intro lastElevation isLast isLarge
        have moves : MovesFloor lastElevation verticalTolerance ops floorSlabs
            (some previousElevation) regular slab :=
          ⟨⟨previousElevation, rfl, isClose⟩, isLast, isLarge⟩
        constructor
        · rintro rfl
          exact notMoved moves
        · intro isZero
          rw [← movesFloor_raised_iff (c := c), isZero] at moves
          exact notRaisedMoved moves
      · exact congrArg some (addFloor_raised slab.1 slab.2)

theorem mem_keys_raised
    {key : K} :
    key + c ∈ (regular.raised c).keys ↔ key ∈ regular.keys :=
  regular.mem_keys_mapKeys key

theorem ordered_raised
    (ordered : (slabs.map Prod.fst).Pairwise (· < ·)) :
    ((slabs.map (raisedSlab c)).map Prod.fst).Pairwise (· < ·) := by
  rw [List.map_map]
  have sameKeys : Prod.fst ∘ (raisedSlab c : K × Shape → K × Shape) =
      (· + c) ∘ Prod.fst :=
    rfl
  rw [sameKeys, ← List.map_map]
  exact ordered.map _ fun _ _ less => add_lt_add_left less c

/-- The loops over the slabs and over the raised slabs find the same floors
exactly if neither skips a slab. -/
theorem analyzeSlabs_raised_iff
    (notZero : c ≠ 0)
    (ordered : (slabs.map Prod.fst).Pairwise (· < ·))
    (below : ∀ slab ∈ slabs, FloorsBelow regular slab.1)
    (isFound : analyzeSlabs verticalTolerance ops highest floorSlabs slabs
      previous regular = some found) :
    analyzeSlabs verticalTolerance ops (highest.map (· + c))
        (floorSlabs.raised c) (slabs.map (raisedSlab c)) (previous.map (· + c))
        (regular.raised c) = some (found.raised c) ↔
      ¬SkipsSlab verticalTolerance ops highest floorSlabs slabs previous
          regular ∧
        ¬SkipsSlab verticalTolerance ops (highest.map (· + c))
          (floorSlabs.raised c) (slabs.map (raisedSlab c))
          (previous.map (· + c)) (regular.raised c) := by
  induction slabs generalizing previous regular with
  | nil =>
      cases isFound
      exact iff_of_true rfl ⟨id, id⟩
  | cons slab rest inductionHypothesis =>
      rw [List.map_cons]
      by_cases isLow :
          highest < ((slab.1 + verticalTolerance : K) : WithBot K)
      · have isRaisedLow : highest.map (· + c) <
            (((raisedSlab c slab).1 + verticalTolerance : K) : WithBot K) :=
          lt_raised_iff.mpr isLow
        rw [analyzeSlabs, if_pos isLow] at isFound
        cases isFound
        rw [analyzeSlabs, if_pos isRaisedLow, SkipsSlab, SkipsSlab]
        exact iff_of_true rfl
          ⟨fun skips => skips.1 isLow, fun skips => skips.1 isRaisedLow⟩
      · have isRaisedHigh : ¬highest.map (· + c) <
            (((raisedSlab c slab).1 + verticalTolerance : K) : WithBot K) :=
          fun isRaisedLow => isLow (lt_raised_iff.mp isRaisedLow)
        have belowHere := below slab List.mem_cons_self
        by_cases moves : MovesFloor 0 verticalTolerance ops floorSlabs previous
            regular slab
        · refine iff_of_false (fun isRaised => ?_)
            (fun keeps => keeps.1 ⟨isLow, .inl moves⟩)
          have isBelow := belowHere.below 0 (List.mem_of_getLast? moves.2.1)
          have hasZero := zero_mem_of_moves moves isFound
          apply last_not_mem_of_moves (by rwa [zero_add])
            (add_lt_add_left isBelow c) (ordered_raised ordered) isRaisedHigh
            (movesFloor_raised_iff.mpr moves) isRaised
          exact mem_keys_raised.mpr hasZero
        · by_cases raisedMoves : MovesFloor 0 verticalTolerance ops
              (floorSlabs.raised c) (previous.map (· + c)) (regular.raised c)
              (raisedSlab c slab)
          · refine iff_of_false (fun isRaised => ?_)
              (fun keeps => keeps.2 ⟨isRaisedHigh, .inl raisedMoves⟩)
            have hasZero := zero_mem_of_moves raisedMoves isRaised
            rw [← neg_add_cancel c] at raisedMoves hasZero
            have movesHere := movesFloor_raised_iff.mp raisedMoves
            exact last_not_mem_of_moves (neg_ne_zero.mpr notZero)
              (belowHere.below _ (List.mem_of_getLast? movesHere.2.1)) ordered
              isLow movesHere isFound (mem_keys_raised.mp hasZero)
          · rw [analyzeSlabs, if_neg isLow] at isFound
            obtain ⟨next, isNext, isRest⟩ := Option.bind_eq_some_iff.mp isFound
            have isRaisedNext : analyzeSlab verticalTolerance ops
                (floorSlabs.raised c) (previous.map (· + c)) (regular.raised c)
                (raisedSlab c slab).1 (raisedSlab c slab).2 =
                  some (next.raised c) := by
              rw [analyzeSlab_raised moves raisedMoves, isNext]
              rfl
            rw [List.map_cons, List.pairwise_cons] at ordered
            have above : ∀ later ∈ rest, FloorsBelow next later.1 :=
              fun later isLater => (belowHere.analyzeSlab isNext).below
                (ordered.1 later.1 (List.mem_map_of_mem isLater))
            rw [skipsSlab_cons_iff isLow moves isNext,
              skipsSlab_cons_iff isRaisedHigh raisedMoves isRaisedNext,
              analyzeSlabs, if_neg isRaisedHigh, isRaisedNext]
            exact inductionHypothesis ordered.2 above isRest

/-- The element, if heights are measured from a lower point. -/
def IFCElement.raised
    (c : K)
    (element : IFCElement K Shape) : IFCElement K Shape :=
  { element with maxZ := element.maxZ.map (· + c) }

def SlabData.raised
    (c : K)
    (slabs : SlabData K Shape) : SlabData K Shape where
  floorSlabs := slabs.floorSlabs.raised c
  stairSlabs := slabs.stairSlabs.raised c

theorem addPolygon_raised
    (polygon : Shape) :
    addPolygon ops (regular.raised c) (elevation + c) polygon =
      (addPolygon ops regular elevation polygon).map
        (OrderedDict.raised c) := by
  rw [addPolygon, addPolygon, get?_raised]
  split
  · exact congrArg some (set_raised elevation polygon).symm
  · rw [Option.map_map]
    refine congrFun (congrArg Option.map (funext fun united => ?_)) _
    exact (set_raised elevation united).symm

theorem addSlab_raised
    (slabs : SlabData K Shape)
    (element : IFCElement K Shape) :
    addSlab ops (slabs.raised c) (element.raised c) =
      (addSlab ops slabs element).map (SlabData.raised c) := by
  obtain ⟨description, maxZ, polygon⟩ := element
  cases description with
  | buildingStorey storey =>
      rfl
  | other =>
      rfl
  | slab predefinedType partOfStairOrRamp =>
      cases maxZ with
      | none =>
          rfl
      | some elevation =>
          cases polygon with
          | none =>
              rfl
          | some polygon =>
              simp only [addSlab, IFCElement.raised, Option.map_some,
                SlabData.raised, addPolygon_raised, Option.map_map]
              split
              · rfl
              · split
                · rw [Option.map_map]
                  rfl
                · rw [Option.map_map]
                  rfl

theorem readSlabs_raised
    (ops : PolygonOps K Shape)
    (elements : List (IFCElement K Shape)) :
    readSlabs ops (elements.map (IFCElement.raised c)) =
      (readSlabs ops elements).map (SlabData.raised c) := by
  have fromAny : ∀ slabs : SlabData K Shape,
      (elements.map (IFCElement.raised c)).foldlM (addSlab ops)
          (slabs.raised c) =
        (elements.foldlM (addSlab ops) slabs).map (SlabData.raised c) := by
    induction elements with
    | nil =>
        exact fun slabs => rfl
    | cons element rest inductionHypothesis =>
        intro slabs
        rw [List.map_cons, List.foldlM_cons, List.foldlM_cons, addSlab_raised]
        cases addSlab ops slabs element with
        | none =>
            rfl
        | some next =>
            exact inductionHypothesis next
  exact fromAny { floorSlabs := .empty, stairSlabs := .empty }

theorem sorted_raised :
    (regular.raised c).sorted = regular.sorted.raised c :=
  (regular.mapKeys_sorted (raising c)).symm

/-- The loop over the slabs of a building skips one above a floor at elevation
zero. -/
def SkipsSlabAboveZero
    (verticalTolerance : K)
    (ops : PolygonOps K Shape)
    (elements : List (IFCElement K Shape))
    (highest : WithBot K) : Prop :=
  ∃ slabs ∈ readSlabs ops elements,
    SkipsSlab verticalTolerance ops highest slabs.floorSlabs.sorted
      slabs.floorSlabs.sorted.entries none .empty

instance
    (verticalTolerance : K)
    (ops : PolygonOps K Shape)
    (elements : List (IFCElement K Shape))
    (highest : WithBot K) :
    Decidable (SkipsSlabAboveZero verticalTolerance ops elements highest) :=
  inferInstanceAs (Decidable (∃ slabs ∈ _, _))

theorem raised_zero
    (regular : OrderedDict K Shape) :
    regular.raised 0 = regular := by
  apply OrderedDict.eq_of_entries
  refine (List.map_congr_left fun entry _ => ?_).trans (List.map_id _)
  exact Prod.ext (add_zero entry.1) rfl

section

omit [IsStrictOrderedRing K]

theorem skipsSlabAboveZero_iff
    (verticalTolerance : K)
    (highest : WithBot K)
    {elements : List (IFCElement K Shape)}
    {slabs : SlabData K Shape}
    (areRead : readSlabs ops elements = some slabs) :
    SkipsSlabAboveZero verticalTolerance ops elements highest ↔
      SkipsSlab verticalTolerance ops highest slabs.floorSlabs.sorted
        slabs.floorSlabs.sorted.entries none .empty := by
  rw [SkipsSlabAboveZero, areRead]
  constructor
  · rintro ⟨other, isOther, skips⟩
    obtain rfl : slabs = other := Option.some.inj isOther
    exact skips
  · intro skips
    exact ⟨slabs, rfl, skips⟩

theorem analyzeSlabElevations_of_readSlabs
    {elements : List (IFCElement K Shape)}
    {slabs : SlabData K Shape}
    (areRead : readSlabs ops elements = some slabs) :
    analyzeSlabElevations verticalTolerance ops elements highest =
      (analyzeSlabs verticalTolerance ops highest slabs.floorSlabs.sorted
        slabs.floorSlabs.sorted.entries none .empty).map fun regular =>
          (regular, slabs.stairSlabs.sorted) := by
  rw [analyzeSlabElevations, areRead]
  exact (Option.map_eq_bind).symm

end

/-- The detected floors are raised with the slabs and the highest point exactly
if they are not raised at all, or the loop skips no slab before and after. -/
theorem analyzeSlabElevations_raised_iff
    (verticalTolerance : K)
    (ops : PolygonOps K Shape)
    (elements : List (IFCElement K Shape))
    (highest : WithBot K)
    (regular stairSlabs : OrderedDict K Shape)
    (isAnalyzed : analyzeSlabElevations verticalTolerance ops elements highest =
      some (regular, stairSlabs))
    (c : K) :
    analyzeSlabElevations verticalTolerance ops
        (elements.map (IFCElement.raised c)) (highest.map (· + c)) =
          some (regular.raised c, stairSlabs.raised c) ↔
      c = 0 ∨
        ¬SkipsSlabAboveZero verticalTolerance ops elements highest ∧
        ¬SkipsSlabAboveZero verticalTolerance ops
          (elements.map (IFCElement.raised c)) (highest.map (· + c)) := by
  by_cases isZero : c = 0
  · refine iff_of_true ?_ (.inl isZero)
    have sameElements : elements.map (IFCElement.raised 0) = elements := by
      refine (List.map_congr_left fun element _ => ?_).trans (List.map_id _)
      simp only [IFCElement.raised, add_zero, Option.map_id_fun', id]
    have sameHighest : highest.map (· + 0) = highest := by
      cases highest with
      | bot =>
          rfl
      | coe height =>
          exact congrArg WithBot.some (add_zero height)
    rw [isZero, raised_zero, raised_zero, sameElements, sameHighest]
    exact isAnalyzed
  · rw [or_iff_right isZero]
    obtain ⟨slabs, areRead, -⟩ := Option.bind_eq_some_iff.mp isAnalyzed
    rw [analyzeSlabElevations_of_readSlabs areRead,
      Option.map_eq_some_iff] at isAnalyzed
    obtain ⟨found, isFound, same⟩ := isAnalyzed
    cases same
    have areRaisedRead := readSlabs_raised (c := c) ops elements
    rw [areRead, Option.map_some] at areRaisedRead
    have ordered : (slabs.floorSlabs.sorted.entries.map Prod.fst).Pairwise
        (· < ·) :=
      slabs.floorSlabs.increasing_sorted
    have nothingBelow : ∀ slab ∈ slabs.floorSlabs.sorted.entries,
        FloorsBelow (OrderedDict.empty : OrderedDict K Shape) slab.1 :=
      fun slab _ => ⟨OrderedDict.increasing_empty, nofun⟩
    have runs_iff := analyzeSlabs_raised_iff isZero ordered nothingBelow isFound
    rw [skipsSlabAboveZero_iff verticalTolerance highest areRead,
      skipsSlabAboveZero_iff verticalTolerance (highest.map (· + c))
        areRaisedRead,
      analyzeSlabElevations_of_readSlabs areRaisedRead, SlabData.raised,
      sorted_raised, sorted_raised]
    refine Iff.trans ?_ runs_iff
    rw [Option.map_eq_some_iff]
    constructor
    · rintro ⟨raised, isRaised, same⟩
      exact isRaised.trans (congrArg some (Prod.mk.inj same).1)
    · intro isRaised
      exact ⟨_, isRaised, rfl⟩

end Raised

section Samples

/-- Two slabs that are close to each other. -/
def closeSlabs
    (elevation : ℚ) : List (IFCElement ℚ ℚ) :=
  [slabElement elevation, slabElement (elevation + 1 / 5)]

/-- Close slabs above zero are merged on both data. -/
theorem closeSlabs_above_raised :
    ∃ regular stairSlabs,
      analyzeSlabElevations (3 / 10) areaOps (closeSlabs 3) (6 : ℚ) =
        some (regular, stairSlabs) ∧
      regular.keys = [16 / 5] ∧
      analyzeSlabElevations (3 / 10) areaOps
          ((closeSlabs 3).map (IFCElement.raised 1))
          (((6 : ℚ) : WithBot ℚ).map (· + 1)) =
        some (regular.raised 1, stairSlabs.raised 1) := by
  have keys : (analyzeSlabElevations (3 / 10) areaOps (closeSlabs 3)
      (6 : ℚ)).map (fun found => found.1.keys) = some [16 / 5] := by
    decide +kernel
  obtain ⟨⟨regular, stairSlabs⟩, isAnalyzed, isKeys⟩ :=
    Option.map_eq_some_iff.mp keys
  refine ⟨regular, stairSlabs, isAnalyzed, isKeys, ?_⟩
  rw [analyzeSlabElevations_raised_iff _ _ _ _ _ _ isAnalyzed]
  decide +kernel

/-- A slab just above zero is skipped, and merged if both are raised. -/
theorem closeSlabs_at_zero_not_raised :
    ∃ regular stairSlabs,
      analyzeSlabElevations (3 / 10) areaOps (closeSlabs 0) (6 : ℚ) =
        some (regular, stairSlabs) ∧
      analyzeSlabElevations (3 / 10) areaOps
          ((closeSlabs 0).map (IFCElement.raised 1))
          (((6 : ℚ) : WithBot ℚ).map (· + 1)) ≠
        some (regular.raised 1, stairSlabs.raised 1) := by
  have keys : (analyzeSlabElevations (3 / 10) areaOps (closeSlabs 0)
      (6 : ℚ)).map (fun found => found.1.keys) = some [0] := by
    decide +kernel
  have raisedKeys : (analyzeSlabElevations (3 / 10) areaOps
      ((closeSlabs 0).map (IFCElement.raised 1))
      (((6 : ℚ) : WithBot ℚ).map (· + 1))).map (fun found => found.1.keys) =
        some [6 / 5] := by
    decide +kernel
  obtain ⟨⟨regular, stairSlabs⟩, isAnalyzed, isKeys⟩ :=
    Option.map_eq_some_iff.mp keys
  refine ⟨regular, stairSlabs, isAnalyzed, fun isRaised => ?_⟩
  rw [isRaised, Option.map_some, OrderedDict.raised,
    OrderedDict.keys_mapKeys, isKeys] at raisedKeys
  exact absurd raisedKeys (by decide +kernel)

end Samples

end NavBim
