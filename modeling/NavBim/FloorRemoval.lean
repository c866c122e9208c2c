import NavBim.FloorAssignment

namespace NavBim

/-!
# What removing floors keeps

A floor stays in a building with one floor at most, and if an end of a stair or
ramp is on it.  Elements and heights of the floors that stay, and of those above
one that stays, are not lost.  What is only on floors below all of these is.
-/

section Removal

variable
  {K Shape : Type}
  [Field K]
  [LinearOrder K]

/-- The floor is not removed. -/
def Stays
    (assignment : FloorAssignment K Shape)
    (name : String) : Prop :=
  (floorsByHeight (!·.isStairSlab) assignment.floors).length ≤ 1 ∨
    name ∈ reachableFloors assignment.elements

/-- There is a floor below that is not removed. -/
def HasHeir
    (floors : OrderedDict String (Floor K Shape))
    (stays : String → Prop)
    (name : String) : Prop :=
  ∃ floor heir, (name, floor) ∈ floors.entries ∧
    heir ∈ floors.entries ∧ stays heir.1 ∧ heir.2.minZ < floor.minZ

/-! ## The floor below -/

omit [Field K] in
theorem floorBelow_foldl
    (candidate : String × Floor K Shape → Prop)
    [DecidablePred candidate]
    (entries : List (String × Floor K Shape)) :
    (∀ entry ∈ entries, ¬candidate entry) ∧
        entries.foldl
          (fun below entry =>
            if candidate entry then
              match below with
              | none => some entry
              | some held =>
                  if held.2.minZ < entry.2.minZ then some entry else some held
            else
              below) none = none ∨
      ∃ place below,
        FirstGreatest entries candidate (fun entry => entry.2.minZ) place
          below ∧
        entries.foldl
          (fun below entry =>
            if candidate entry then
              match below with
              | none => some entry
              | some held =>
                  if held.2.minZ < entry.2.minZ then some entry else some held
            else
              below) none = some below := by
  induction entries using List.reverseRecOn with
  | nil =>
      exact .inl ⟨nofun, rfl⟩
  | append_singleton entries last inductionHypothesis =>
      rw [List.foldl_append, List.foldl_cons, List.foldl_nil]
      rcases inductionHypothesis with
        ⟨noCandidate, isBelow⟩ | ⟨place, below, first, isBelow⟩
      · rw [isBelow]
        by_cases isCandidate : candidate last
        · rw [if_pos isCandidate]
          refine .inr ⟨entries.length, last,
            FirstGreatest.append_of_better isCandidate ?_, rfl⟩
          intro other otherEntry isOther isOtherCandidate
          exact absurd isOtherCandidate
            (noCandidate otherEntry (List.mem_of_getElem? isOther))
        · rw [if_neg isCandidate]
          refine .inl ⟨fun entry isEntry => ?_, rfl⟩
          rcases List.mem_append.mp isEntry with earlier | isLast
          · exact noCandidate entry earlier
          · rw [List.mem_singleton.mp isLast]
            exact isCandidate
      · rw [isBelow]
        by_cases isCandidate : candidate last
        · rw [if_pos isCandidate]
          dsimp only
          split
          · case isTrue higher =>
            refine .inr ⟨entries.length, last,
              FirstGreatest.append_of_better isCandidate ?_, rfl⟩
            intro other otherEntry isOther isOtherCandidate
            exact (first.key_le isOther isOtherCandidate).trans_lt higher
          · case isFalse notHigher =>
            exact .inr ⟨place, below,
              first.append_of_not_better (fun _ => not_lt.mp notHigher), rfl⟩
        · rw [if_neg isCandidate]
          exact .inr ⟨place, below,
            first.append_of_not_better (absurd · isCandidate), rfl⟩

omit [Field K] in
theorem floorBelow_cases
    (removedNames : List String)
    (floors : OrderedDict String (Floor K Shape))
    {removed : String × Floor K Shape}
    (isRemoved : removed.1 ∈ removedNames) :
    (floorBelow removedNames floors removed = none ∧
      ∀ entry ∈ floors.entries, entry.1 ∉ removedNames →
        ¬entry.2.minZ < removed.2.minZ) ∨
      ∃ below, floorBelow removedNames floors removed = some below ∧
        below ∈ floors.entries ∧ below.1 ∉ removedNames ∧
        below.2.minZ < removed.2.minZ := by
  have isCandidate (entry : String × Floor K Shape)
      (stays : entry.1 ∉ removedNames)
      (isLower : entry.2.minZ < removed.2.minZ) :
      entry.1 ≠ removed.1 ∧ entry.1 ∉ removedNames ∧
        entry.2.minZ < removed.2.minZ := by
    refine ⟨fun same => stays ?_, stays, isLower⟩
    rw [same]
    exact isRemoved
  rcases floorBelow_foldl
      (fun entry : String × Floor K Shape => entry.1 ≠ removed.1 ∧
        entry.1 ∉ removedNames ∧ entry.2.minZ < removed.2.minZ)
      floors.entries with
    ⟨noCandidate, isBelow⟩ | ⟨place, below, first, isBelow⟩
  · refine .inl ⟨isBelow, fun entry isEntry stays isLower => ?_⟩
    exact noCandidate entry isEntry (isCandidate entry stays isLower)
  · exact .inr ⟨below, isBelow, List.mem_of_getElem? first.atPlace,
      first.isCandidate.2.1, first.isCandidate.2.2⟩

/-! ## Removing one floor after the other -/

/-- The floors when some have been removed. -/
structure FloorsLeft
    (floors : OrderedDict String (Floor K Shape))
    (removedNames done : List String)
    (left : OrderedDict String (Floor K Shape)) : Prop where
  names : ∀ name, name ∈ left.keys ↔ name ∈ floors.keys ∧ name ∉ done
  stay :
    ∀ entry ∈ floors.entries, entry.1 ∉ removedNames →
      ∃ floor, (entry.1, floor) ∈ left.entries ∧
        floor.minZ = entry.2.minZ ∧ entry.2.maxZ ≤ floor.maxZ
  covered :
    ∀ entry ∈ floors.entries, entry.1 ∈ done →
      HasHeir floors (· ∉ removedNames) entry.1 →
        ∃ heir ∈ left.entries, heir.1 ∉ removedNames ∧
          heir.2.minZ < entry.2.minZ ∧ entry.2.maxZ ≤ heir.2.maxZ

/-- The floors of an element when some have been removed. -/
structure ElementLeft
    (floors : OrderedDict String (Floor K Shape))
    (removedNames done : List String)
    (old new : AssignedElement K) : Prop where
  element : new.element = old.element
  distinct : new.floor.Nodup
  known : ∀ name ∈ new.floor, name ∈ floors.keys ∧ name ∉ done
  stays : ∀ name ∈ old.floor, name ∉ done → name ∈ new.floor
  handed :
    ∀ name ∈ old.floor, name ∈ done →
      HasHeir floors (· ∉ removedNames) name →
        ∃ heir ∈ new.floor, heir ∉ removedNames
  origin :
    ∀ name ∈ new.floor, name ∈ old.floor ∨
      ∃ former ∈ old.floor, HasHeir floors (· ∉ removedNames) former

variable
  {floors left : OrderedDict String (Floor K Shape)}
  {removedNames done : List String}
  {removed below : String × Floor K Shape}

section

omit [Field K]

section

variable
  (isLeft : FloorsLeft floors removedNames done left)

include isLeft

theorem FloorsLeft.hadFloor
    (isBelow : below ∈ left.entries)
    (stays : below.1 ∉ removedNames) :
    ∃ floor, (below.1, floor) ∈ floors.entries ∧
      floor.minZ = below.2.minZ ∧ floor.maxZ ≤ below.2.maxZ := by
  have wasFloor : below.1 ∈ floors.keys :=
    ((isLeft.names below.1).mp (List.mem_map_of_mem isBelow)).1
  obtain ⟨⟨name, floor⟩, isEntry, rfl⟩ := List.mem_map.mp wasFloor
  obtain ⟨other, isOther, sameMin, grown⟩ :=
    isLeft.stay (below.1, floor) isEntry stays
  have same := OrderedDict.eq_of_mem isOther isBelow rfl
  rw [← same]
  exact ⟨floor, isEntry, sameMin.symm, grown⟩

theorem FloorsLeft.hasHeir_iff
    (isRemoved : removed ∈ floors.entries) :
    HasHeir floors (· ∉ removedNames) removed.1 ↔
      ∃ entry ∈ left.entries, entry.1 ∉ removedNames ∧
        entry.2.minZ < removed.2.minZ := by
  constructor
  · rintro ⟨floor, heir, isFloor, isHeir, stays, isLower⟩
    have same := OrderedDict.eq_of_mem isFloor isRemoved rfl
    obtain ⟨other, isOther, sameMin, -⟩ := isLeft.stay heir isHeir stays
    refine ⟨(heir.1, other), isOther, stays, ?_⟩
    rw [← same]
    exact sameMin.trans_lt isLower
  · rintro ⟨entry, isEntry, stays, isLower⟩
    obtain ⟨floor, isFloor, sameMin, -⟩ := isLeft.hadFloor isEntry stays
    exact ⟨removed.2, (entry.1, floor), isRemoved, isFloor, stays,
      sameMin.trans_lt isLower⟩

theorem FloorsLeft.pop
    (isRemoved : removed ∈ floors.entries)
    (isName : removed.1 ∈ removedNames)
    (takenOver :
      HasHeir floors (· ∉ removedNames) removed.1 →
        ∃ heir ∈ left.entries, heir.1 ∉ removedNames ∧
          heir.2.minZ < removed.2.minZ ∧ removed.2.maxZ ≤ heir.2.maxZ) :
    FloorsLeft floors removedNames (removed.1 :: done)
      (left.pop removed.1) := by
  have keeps {entry : String × Floor K Shape}
      (isEntry : entry ∈ left.entries)
      (stays : entry.1 ∉ removedNames) :
      entry ∈ (left.pop removed.1).entries := by
    refine (left.mem_pop _ _).mpr ⟨isEntry, fun same => stays ?_⟩
    rw [same]
    exact isName
  constructor
  case names =>
    intro name
    rw [OrderedDict.mem_keys_pop, isLeft.names, List.mem_cons, not_or,
      and_assoc]
    exact and_congr_right fun _ => and_comm
  case stay =>
    intro entry isEntry stays
    obtain ⟨floor, isFloor, sameMin, grown⟩ := isLeft.stay entry isEntry stays
    exact ⟨floor, keeps isFloor stays, sameMin, grown⟩
  case covered =>
    intro entry isEntry isDone hasHeir
    have isTaken :
        ∃ heir ∈ left.entries, heir.1 ∉ removedNames ∧
          heir.2.minZ < entry.2.minZ ∧ entry.2.maxZ ≤ heir.2.maxZ := by
      rcases List.mem_cons.mp isDone with isHere | isEarlier
      · have same := OrderedDict.eq_of_mem isEntry isRemoved isHere
        rw [same] at hasHeir ⊢
        exact takenOver hasHeir
      · exact isLeft.covered entry isEntry isEarlier hasHeir
    obtain ⟨heir, isHeir, stays, isCovered⟩ := isTaken
    exact ⟨heir, keeps isHeir stays, stays, isCovered⟩

theorem FloorsLeft.raise
    (isBelow : below ∈ left.entries)
    (height : WithBot K) :
    FloorsLeft floors removedNames done
      (left.set below.1 { below.2 with maxZ := max below.2.maxZ height }) := by
  have grows {entry : String × Floor K Shape}
      (isEntry : entry ∈ left.entries) :
      ∃ floor, (entry.1, floor) ∈ (left.set below.1
          { below.2 with maxZ := max below.2.maxZ height }).entries ∧
        floor.minZ = entry.2.minZ ∧ entry.2.maxZ ≤ floor.maxZ := by
    by_cases same : entry.1 = below.1
    · have sameEntry := OrderedDict.eq_of_mem isEntry isBelow same
      rw [sameEntry]
      exact ⟨_, (left.mem_set _ _ _).mpr (.inl rfl), rfl, le_max_left _ _⟩
    · exact ⟨entry.2, (left.mem_set _ _ _).mpr (.inr ⟨isEntry, same⟩), rfl,
        le_refl _⟩
  constructor
  case names =>
    intro name
    rw [OrderedDict.mem_keys_set, ← isLeft.names, or_iff_right_iff_imp]
    rintro rfl
    exact List.mem_map_of_mem isBelow
  case stay =>
    intro entry isEntry stays
    obtain ⟨floor, isFloor, sameMin, grown⟩ := isLeft.stay entry isEntry stays
    obtain ⟨raised, isRaised, raisedMin, raisedMax⟩ := grows isFloor
    exact ⟨raised, isRaised, raisedMin.trans sameMin, grown.trans raisedMax⟩
  case covered =>
    intro entry isEntry isDone hasHeir
    obtain ⟨heir, isHeir, stays, isLower, isCovered⟩ :=
      isLeft.covered entry isEntry isDone hasHeir
    obtain ⟨raised, isRaised, raisedMin, raisedMax⟩ := grows isHeir
    exact ⟨(heir.1, raised), isRaised, stays, raisedMin.trans_lt isLower,
      isCovered.trans raisedMax⟩

end

end

variable
  {old new : AssignedElement K}
  {belowName : String}

omit [Field K] in
theorem ElementLeft.leave
    (isLeft : ElementLeft floors removedNames done old new)
    (isName : removed.1 ∈ removedNames)
    (noHeir : ¬HasHeir floors (· ∉ removedNames) removed.1) :
    ElementLeft floors removedNames (removed.1 :: done) old
      (new.leave removed.1) := by
  have mem_leave (name : String) :
      name ∈ (new.leave removed.1).floor ↔
        name ≠ removed.1 ∧ name ∈ new.floor :=
    isLeft.distinct.mem_erase_iff
  constructor
  case element => exact isLeft.element
  case distinct => exact isLeft.distinct.erase _
  case known =>
    intro name isFloor
    obtain ⟨different, wasFloor⟩ := (mem_leave name).mp isFloor
    obtain ⟨isKey, notDone⟩ := isLeft.known name wasFloor
    exact ⟨isKey, List.not_mem_cons_of_ne_of_not_mem different notDone⟩
  case stays =>
    intro name isFloor notDone
    have apart := List.ne_and_not_mem_of_not_mem_cons notDone
    exact (mem_leave name).mpr ⟨apart.1, isLeft.stays name isFloor apart.2⟩
  case handed =>
    intro name isFloor isDone hasHeir
    rcases List.mem_cons.mp isDone with isHere | isEarlier
    · rw [isHere] at hasHeir
      exact absurd hasHeir noHeir
    · obtain ⟨heir, isHeir, stays⟩ :=
        isLeft.handed name isFloor isEarlier hasHeir
      refine ⟨heir, (mem_leave heir).mpr ⟨fun same => stays ?_, isHeir⟩, stays⟩
      rw [same]
      exact isName
  case origin =>
    intro name isFloor
    exact isLeft.origin name ((mem_leave name).mp isFloor).2

omit [Field K] [LinearOrder K] in
theorem AssignedElement.mem_shift
    (distinct : new.floor.Nodup)
    (wasThere : removed.1 ∈ new.floor)
    (name : String) :
    name ∈ (new.shift removed.1 belowName).floor ↔
      name ≠ removed.1 ∧ name ∈ new.floor ∨ name = belowName := by
  rw [AssignedElement.shift, if_pos wasThere, ← distinct.mem_erase_iff]
  dsimp only
  split
  · case isTrue isThere =>
    refine (or_iff_left_of_imp ?_).symm
    rintro rfl
    exact isThere
  · rw [List.mem_append, List.mem_singleton]

omit [Field K] in
theorem ElementLeft.notThere
    (isLeft : ElementLeft floors removedNames done old new)
    (isNew : removed.1 ∉ done)
    (notThere : removed.1 ∉ new.floor) :
    ElementLeft floors removedNames (removed.1 :: done) old new := by
  constructor
  case element => exact isLeft.element
  case distinct => exact isLeft.distinct
  case known =>
    intro name isFloor
    obtain ⟨isKey, notDone⟩ := isLeft.known name isFloor
    refine ⟨isKey, List.not_mem_cons_of_ne_of_not_mem ?_ notDone⟩
    rintro rfl
    exact notThere isFloor
  case stays =>
    intro name isFloor notDone
    exact isLeft.stays name isFloor
      (List.ne_and_not_mem_of_not_mem_cons notDone).2
  case handed =>
    intro name isFloor isDone nameHasHeir
    rcases List.mem_cons.mp isDone with rfl | isEarlier
    · exact absurd (isLeft.stays removed.1 isFloor isNew) notThere
    · exact isLeft.handed name isFloor isEarlier nameHasHeir
  case origin => exact isLeft.origin

omit [Field K] in
theorem ElementLeft.shift
    (isLeft : ElementLeft floors removedNames done old new)
    (isName : removed.1 ∈ removedNames)
    (isNew : removed.1 ∉ done)
    (hasHeir : HasHeir floors (· ∉ removedNames) removed.1)
    (isBelow : belowName ∈ floors.keys ∧ belowName ∉ done)
    (belowStays : belowName ∉ removedNames) :
    ElementLeft floors removedNames (removed.1 :: done) old
      (new.shift removed.1 belowName) := by
  by_cases wasThere : removed.1 ∈ new.floor
  · have mem_shift (name : String) :
        name ∈ (new.shift removed.1 belowName).floor ↔
          name ≠ removed.1 ∧ name ∈ new.floor ∨ name = belowName :=
      AssignedElement.mem_shift isLeft.distinct wasThere name
    have belowApart : belowName ≠ removed.1 := by
      rintro rfl
      exact belowStays isName
    constructor
    case element =>
      rw [AssignedElement.shift, if_pos wasThere]
      exact isLeft.element
    case distinct =>
      rw [AssignedElement.shift, if_pos wasThere]
      dsimp only
      split
      · exact isLeft.distinct.erase _
      · case isFalse absent =>
        exact (isLeft.distinct.erase _).append (List.nodup_singleton _)
          (List.disjoint_singleton.mpr absent)
    case known =>
      intro name isFloor
      rcases (mem_shift name).mp isFloor with ⟨different, wasFloor⟩ | rfl
      · obtain ⟨isKey, notDone⟩ := isLeft.known name wasFloor
        exact ⟨isKey, List.not_mem_cons_of_ne_of_not_mem different notDone⟩
      · exact ⟨isBelow.1,
          List.not_mem_cons_of_ne_of_not_mem belowApart isBelow.2⟩
    case stays =>
      intro name isFloor notDone
      have apart := List.ne_and_not_mem_of_not_mem_cons notDone
      exact (mem_shift name).mpr
        (.inl ⟨apart.1, isLeft.stays name isFloor apart.2⟩)
    case handed =>
      intro name isFloor isDone nameHasHeir
      exact ⟨belowName, (mem_shift belowName).mpr (.inr rfl), belowStays⟩
    case origin =>
      intro name isFloor
      rcases (mem_shift name).mp isFloor with ⟨-, wasFloor⟩ | rfl
      · exact isLeft.origin name wasFloor
      · rcases isLeft.origin removed.1 wasThere with wasFloor | former
        · exact .inr ⟨removed.1, wasFloor, hasHeir⟩
        · exact .inr former
  · have unchanged : new.shift removed.1 belowName = new :=
      if_neg wasThere
    rw [unchanged]
    exact isLeft.notThere isNew wasThere

/-- What is left of the floors and elements when some floors are removed. -/
structure AssignmentLeft
    (before : FloorAssignment K Shape)
    (removedNames done : List String)
    (left : FloorAssignment K Shape) : Prop where
  floorsLeft : FloorsLeft before.floors removedNames done left.floors
  elementsLeft :
    List.Forall₂ (ElementLeft before.floors removedNames done)
      before.elements left.elements

omit [Field K] [LinearOrder K] in
theorem forall₂_map
    {related result : AssignedElement K → AssignedElement K → Prop}
    {change : AssignedElement K → AssignedElement K}
    {olds news : List (AssignedElement K)}
    (pairs : List.Forall₂ related olds news)
    (step : ∀ old new, related old new → result old (change new)) :
    List.Forall₂ result olds (news.map change) := by
  rw [List.forall₂_map_right_iff]
  exact pairs.imp step

omit [Field K] in
theorem AssignmentLeft.removeFloor
    {before left : FloorAssignment K Shape}
    (isLeft : AssignmentLeft before removedNames done left)
    (isRemoved : removed ∈ before.floors.entries)
    (isName : removed.1 ∈ removedNames)
    (isNew : removed.1 ∉ done)
    (named :
      ∀ name ∈ before.floors.keys, name ∉ removedNames → name ≠ "") :
    AssignmentLeft before removedNames (removed.1 :: done)
      (NavBim.removeFloor removedNames left removed) := by
  have hasHeir_iff := isLeft.floorsLeft.hasHeir_iff isRemoved
  rw [NavBim.removeFloor]
  rcases floorBelow_cases removedNames left.floors isName with
    ⟨isNone, noneBelow⟩ | ⟨below, isBelow, isEntry, stays, isLower⟩
  · have noHeir : ¬HasHeir before.floors (· ∉ removedNames) removed.1 := by
      rw [hasHeir_iff]
      rintro ⟨entry, isEntry, stays, isLower⟩
      exact noneBelow entry isEntry stays isLower
    rw [isNone]
    exact ⟨isLeft.floorsLeft.pop isRemoved isName (absurd · noHeir),
      forall₂_map isLeft.elementsLeft fun _ _ isElementLeft =>
        isElementLeft.leave isName noHeir⟩
  · have hasHeir : HasHeir before.floors (· ∉ removedNames) removed.1 :=
      hasHeir_iff.mpr ⟨below, isEntry, stays, isLower⟩
    have isKept : below.1 ∈ before.floors.keys ∧ below.1 ∉ done :=
      (isLeft.floorsLeft.names below.1).mp (List.mem_map_of_mem isEntry)
    rw [isBelow]
    dsimp only
    rw [if_pos (named below.1 isKept.1 stays)]
    constructor
    case floorsLeft =>
      refine (isLeft.floorsLeft.raise isEntry removed.2.maxZ).pop isRemoved
        isName fun _ => ?_
      exact ⟨_, (left.floors.mem_set _ _ _).mpr (.inl rfl), stays, isLower,
        le_max_right _ _⟩
    case elementsLeft =>
      exact forall₂_map isLeft.elementsLeft fun _ _ isElementLeft =>
        isElementLeft.shift isName isNew hasHeir isKept stays

variable
  {before : FloorAssignment K Shape}

omit [Field K] in
theorem AssignmentLeft.foldl_removeFloor
    (named :
      ∀ name ∈ before.floors.keys, name ∉ removedNames → name ≠ "") :
    ∀ (toRemove : List (String × Floor K Shape)) (done : List String)
      (left : FloorAssignment K Shape),
      AssignmentLeft before removedNames done left →
      (∀ removed ∈ toRemove, removed ∈ before.floors.entries ∧
        removed.1 ∈ removedNames ∧ removed.1 ∉ done) →
      (toRemove.map Prod.fst).Nodup →
      AssignmentLeft before removedNames
        ((toRemove.map Prod.fst).reverse ++ done)
        (toRemove.foldl (NavBim.removeFloor removedNames) left) := by
  intro toRemove
  induction toRemove with
  | nil =>
      intro done left isLeft _ _
      exact isLeft
  | cons removed rest inductionHypothesis =>
      intro done left isLeft areRemoved distinct
      rw [List.map_cons, List.nodup_cons] at distinct
      obtain ⟨isRemoved, isName, isNew⟩ :=
        areRemoved removed (List.mem_cons_self ..)
      rw [List.foldl_cons, List.map_cons, List.reverse_cons, List.append_assoc]
      refine inductionHypothesis (removed.1 :: done) _
        (isLeft.removeFloor isRemoved isName isNew named) ?_ distinct.2
      intro other isOther
      obtain ⟨isOtherRemoved, isOtherName, isOtherNew⟩ :=
        areRemoved other (List.mem_cons_of_mem _ isOther)
      refine ⟨isOtherRemoved, isOtherName,
        List.not_mem_cons_of_ne_of_not_mem (fun same => distinct.1 ?_)
          isOtherNew⟩
      rw [← same]
      exact List.mem_map_of_mem isOther

/-! ## The pass as a whole -/

omit [Field K] in
theorem floorsByHeight_filter
    (isOfKind : FloorKind → Bool)
    (floors : OrderedDict String (Floor K Shape))
    (chosen : String × Floor K Shape → Bool) :
    (((floorsByHeight isOfKind floors).filter chosen).map Prod.fst).Nodup ∧
      ∀ name ∈ ((floorsByHeight isOfKind floors).filter chosen).map Prod.fst,
        ∃ floor, (name, floor) ∈ floors.entries ∧ isOfKind floor.kind := by
  have sorted :
      (floorsByHeight isOfKind floors).Perm
        (floors.entries.filter fun entry => isOfKind entry.2.kind) :=
    List.perm_insertionSort _ _
  constructor
  · have distinct : ((floorsByHeight isOfKind floors).map Prod.fst).Nodup :=
      ((sorted.map Prod.fst).nodup_iff).mpr
        (floors.distinct.sublist (List.filter_sublist.map Prod.fst))
    exact distinct.sublist (List.filter_sublist.map Prod.fst)
  · intro name isName
    obtain ⟨entry, isChosen, rfl⟩ := List.mem_map.mp isName
    have isEntry :=
      List.mem_filter.mp (sorted.mem_iff.mp (List.mem_filter.mp isChosen).1)
    exact ⟨entry.2, isEntry.1, isEntry.2⟩

theorem assignElement_floor
    (verticalTolerance : K)
    (floors : OrderedDict String (Floor K Shape))
    (element : PlacedElement K) :
    (assignElement verticalTolerance floors element).floor.Nodup ∧
      ∀ name ∈ (assignElement verticalTolerance floors element).floor,
        name ∈ floors.keys := by
  have isKey {name : String} {ofKind : Floor K Shape → Prop}
      (isFloor : ∃ floor, (name, floor) ∈ floors.entries ∧ ofKind floor) :
      name ∈ floors.keys := by
    obtain ⟨floor, isEntry, -⟩ := isFloor
    exact List.mem_map_of_mem isEntry
  rw [assignElement]
  cases element.bbox with
  | none =>
      exact ⟨List.nodup_nil, nofun⟩
  | some box =>
      have regular := floorsByHeight_filter (!·.isStairSlab) floors fun entry =>
        belongsTo verticalTolerance element.elementType box entry.2
      have stair := floorsByHeight_filter FloorKind.isStairSlab floors fun entry =>
        touches box entry.2
      have both := regular.1.append stair.1 (by
        intro name isRegular isStair
        obtain ⟨floor, isEntry, isOfKind⟩ := regular.2 name isRegular
        obtain ⟨other, isOther, isStairKind⟩ := stair.2 name isStair
        have same := OrderedDict.eq_of_mem isEntry isOther rfl
        rw [(Prod.mk.inj same).2, isStairKind] at isOfKind
        exact nomatch isOfKind)
      have bothKeys := List.forall_mem_append.mpr
        ⟨fun name isName => isKey (regular.2 name isName),
          fun name isName => isKey (stair.2 name isName)⟩
      dsimp only
      split
      · split
        · exact ⟨both, bothKeys⟩
        · exact ⟨both, bothKeys⟩
      · exact ⟨regular.1, fun name isName => isKey (regular.2 name isName)⟩

section

omit [Field K]

section

variable
  (assigned :
    ∀ element ∈ before.elements, element.floor.Nodup ∧
      ∀ name ∈ element.floor, name ∈ before.floors.keys)

include assigned

theorem AssignmentLeft.start
    (removedNames : List String) :
    AssignmentLeft before removedNames [] before := by
  constructor
  case floorsLeft =>
    constructor
    case names => exact fun name => (and_iff_left List.not_mem_nil).symm
    case stay =>
      exact fun entry isEntry _ => ⟨entry.2, isEntry, rfl, le_refl _⟩
    case covered => exact nofun
  case elementsLeft =>
    refine List.forall₂_same.mpr fun element isElement => ?_
    obtain ⟨distinct, areKeys⟩ := assigned element isElement
    constructor
    case element => rfl
    case distinct => exact distinct
    case known => exact fun name isFloor =>
      ⟨areKeys name isFloor, List.not_mem_nil⟩
    case stays => exact fun name isFloor _ => isFloor
    case handed => exact nofun
    case origin => exact fun name isFloor => .inl isFloor

/-- The assignment when all floors without an end of a stair or ramp are
removed, whatever is removed. -/
theorem removeUnreachableFloors_left :
    ∃ removedNames done,
      AssignmentLeft before removedNames done
        (removeUnreachableFloors before) ∧
      (∀ name, name ∈ done ↔ name ∈ removedNames) ∧
      ∀ name ∈ before.floors.keys,
        (name ∉ removedNames ↔ Stays before name) := by
  rw [removeUnreachableFloors]
  split
  · case isTrue several =>
    let toRemove := floorsToRemove before
    have mem_names (name : String) :
        name ∈ toRemove.map Prod.fst ↔
          name ∈ before.floors.keys ∧
            name ∉ reachableFloors before.elements := by
      simp only [toRemove, floorsToRemove, OrderedDict.keys, List.mem_map,
        List.mem_filter, decide_eq_true_eq]
      constructor
      · rintro ⟨entry, ⟨isEntry, unreachable⟩, rfl⟩
        exact ⟨⟨entry, isEntry, rfl⟩, unreachable⟩
      · rintro ⟨⟨entry, isEntry, rfl⟩, unreachable⟩
        exact ⟨entry, ⟨isEntry, unreachable⟩, rfl⟩
    have stays_iff {name : String} (isKey : name ∈ before.floors.keys) :
        name ∉ toRemove.map Prod.fst ↔
          name ∈ reachableFloors before.elements := by
      rw [mem_names, not_and, not_not]
      exact ⟨fun reachable => reachable isKey, fun reachable _ => reachable⟩
    have named :
        ∀ name ∈ before.floors.keys, name ∉ toRemove.map Prod.fst →
          name ≠ "" := by
      intro name isKey isStaying
      obtain ⟨element, -, isEnd⟩ :=
        List.mem_flatMap.mp ((stays_iff isKey).mp isStaying)
      split at isEnd
      · exact of_decide_eq_true (List.mem_filter.mp isEnd).2
      · cases isEnd
    refine ⟨toRemove.map Prod.fst, _,
      AssignmentLeft.foldl_removeFloor named toRemove [] before
        (.start assigned _) ?_
        ?_,
      ?_, ?_⟩
    · intro removed isRemoved
      exact ⟨(List.mem_filter.mp isRemoved).1, List.mem_map_of_mem isRemoved,
        List.not_mem_nil⟩
    · exact before.floors.distinct.sublist (List.filter_sublist.map Prod.fst)
    · intro name
      rw [List.append_nil, List.mem_reverse]
    · intro name isKey
      rw [stays_iff isKey, Stays, or_iff_right (not_le.mpr several)]
  · case isFalse notSeveral =>
    refine ⟨[], [], .start assigned [], fun name => Iff.rfl, fun name _ => ?_⟩
    exact iff_of_true List.not_mem_nil (.inl (not_lt.mp notSeveral))

end

theorem HasHeir.congr
    {floors : OrderedDict String (Floor K Shape)}
    {stays others : String → Prop}
    (same : ∀ name ∈ floors.keys, (stays name ↔ others name))
    (name : String) :
    HasHeir floors stays name ↔ HasHeir floors others name := by
  refine exists_congr fun floor => exists_congr fun heir =>
    and_congr_right fun _ => and_congr_right fun isHeir => ?_
  rw [same heir.1 (List.mem_map_of_mem isHeir)]

theorem ElementLeft.floor_ne_nil_iff
    (isLeft : ElementLeft floors removedNames done old new)
    (allDone : ∀ name, name ∈ done ↔ name ∈ removedNames) :
    new.floor ≠ [] ↔
      ∃ name ∈ old.floor, name ∉ removedNames ∨
        HasHeir floors (· ∉ removedNames) name := by
  constructor
  · intro hasFloor
    obtain ⟨name, isFloor⟩ := List.exists_mem_of_ne_nil _ hasFloor
    have stays : name ∉ removedNames :=
      (allDone name).not.mp (isLeft.known name isFloor).2
    rcases isLeft.origin name isFloor with wasFloor | ⟨former, wasFloor, heir⟩
    · exact ⟨name, wasFloor, .inl stays⟩
    · exact ⟨former, wasFloor, .inr heir⟩
  · rintro ⟨name, wasFloor, isLeftOver⟩
    by_cases isDone : name ∈ done
    · have hasHeir :=
        isLeftOver.resolve_left (not_not.mpr ((allDone name).mp isDone))
      obtain ⟨heir, isHeir, -⟩ := isLeft.handed name wasFloor isDone hasHeir
      exact List.ne_nil_of_mem isHeir
    · exact List.ne_nil_of_mem (isLeft.stays name wasFloor isDone)

theorem FloorsLeft.covers
    (isLeft : FloorsLeft floors removedNames done left)
    (allDone : ∀ name, name ∈ done ↔ name ∈ removedNames)
    {entry : String × Floor K Shape}
    (isEntry : entry ∈ floors.entries)
    (isLeftOver :
      entry.1 ∉ removedNames ∨ HasHeir floors (· ∉ removedNames) entry.1) :
    ∃ other ∈ left.entries,
      other.2.minZ ≤ entry.2.minZ ∧ entry.2.maxZ ≤ other.2.maxZ := by
  by_cases stays : entry.1 ∉ removedNames
  · obtain ⟨floor, isFloor, sameMin, grown⟩ := isLeft.stay entry isEntry stays
    exact ⟨(entry.1, floor), isFloor, sameMin.le, grown⟩
  · obtain ⟨heir, isHeir, -, isLower, isCovered⟩ :=
      isLeft.covered entry isEntry ((allDone entry.1).mpr (not_not.mp stays))
        (isLeftOver.resolve_left stays)
    exact ⟨heir, isHeir, isLower.le, isCovered⟩

end

/-- A floor is left exactly if one stays.  An element keeps a floor exactly if
one of its floors stays or is above one that stays, and the heights of these
floors stay in some floor. -/
theorem assignElementsToFloors_keeps
    (verticalTolerance : K)
    (elements : List (PlacedElement K))
    (floors : OrderedDict String (Floor K Shape)) :
    let before := assignToAllFloors verticalTolerance elements floors
    let after := assignElementsToFloors verticalTolerance elements floors
    (after.floors.entries ≠ [] ↔ ∃ name ∈ floors.keys, Stays before name) ∧
      (∀ element ∈ after.elements, ∀ name ∈ element.floor,
        name ∈ after.floors.keys) ∧
      List.Forall₂
        (fun old new => new.element = old.element ∧
          (new.floor ≠ [] ↔ ∃ name ∈ old.floor,
            Stays before name ∨ HasHeir floors (Stays before) name))
        before.elements after.elements ∧
      ∀ entry ∈ floors.entries,
        Stays before entry.1 ∨ HasHeir floors (Stays before) entry.1 →
          ∀ height : K, entry.2.minZ ≤ height →
            (height : WithBot K) < entry.2.maxZ →
              ∃ other ∈ after.floors.entries, other.2.minZ ≤ height ∧
                (height : WithBot K) < other.2.maxZ := by
  intro before after
  have assigned :
      ∀ element ∈ before.elements, element.floor.Nodup ∧
        ∀ name ∈ element.floor, name ∈ before.floors.keys := by
    intro element isElement
    obtain ⟨placed, -, rfl⟩ := List.mem_map.mp isElement
    exact assignElement_floor verticalTolerance floors placed
  obtain ⟨removedNames, done, ⟨floorsLeft, elementsLeft⟩, allDone, staysIff⟩ :=
    removeUnreachableFloors_left assigned
  have heirIff :
      ∀ name, HasHeir floors (· ∉ removedNames) name ↔
        HasHeir floors (Stays before) name :=
    HasHeir.congr staysIff
  have isKept (name : String) :
      name ∈ after.floors.keys ↔
        name ∈ floors.keys ∧ name ∉ removedNames := by
    rw [← allDone]
    exact floorsLeft.names name
  refine ⟨?_, ?_, ?_, ?_⟩
  · constructor
    · intro hasFloor
      obtain ⟨entry, isEntry⟩ := List.exists_mem_of_ne_nil _ hasFloor
      obtain ⟨isKey, stays⟩ := (isKept entry.1).mp (List.mem_map_of_mem isEntry)
      exact ⟨entry.1, isKey, (staysIff entry.1 isKey).mp stays⟩
    · rintro ⟨name, isKey, stays⟩
      obtain ⟨entry, isEntry, -⟩ := List.mem_map.mp
        ((isKept name).mpr ⟨isKey, (staysIff name isKey).mpr stays⟩)
      exact List.ne_nil_of_mem isEntry
  · intro element isElement name isFloor
    obtain ⟨place, isPlace⟩ := List.getElem?_of_mem isElement
    obtain ⟨old, -, isLeft⟩ :=
      FirstGreatest.getElem?_of_forall₂ elementsLeft.flip isPlace
    rw [isKept, ← allDone]
    exact isLeft.known name isFloor
  · have both := (List.forall₂_and_left _ _).mpr ⟨assigned, elementsLeft⟩
    refine both.imp fun old new ⟨⟨_, areKeys⟩, isLeft⟩ =>
      ⟨isLeft.element, (isLeft.floor_ne_nil_iff allDone).trans ?_⟩
    refine exists_congr fun name => and_congr_right fun wasFloor => ?_
    exact or_congr (staysIff name (areKeys name wasFloor)) (heirIff name)
  · intro entry isEntry isLeftOver height above isBelow
    rw [← staysIff entry.1 (List.mem_map_of_mem isEntry), ← heirIff]
      at isLeftOver
    obtain ⟨other, isOther, lower, higher⟩ :=
      floorsLeft.covers allDone isEntry isLeftOver
    exact ⟨other, isOther, lower.trans above, isBelow.trans_le higher⟩

end Removal

def groundAndUpper : OrderedDict String (Floor ℚ Unit) where
  entries :=
    [("Ground", ⟨"Ground", 0, (3 : ℚ), none, .regular⟩),
      ("Upper", ⟨"Upper", 3, (6 : ℚ), none, .regular⟩)]
  distinct := by decide

def wallOnGround : PlacedElement ℚ where
  elementType := .other "IfcWall"
  bbox := some ⟨0, 3⟩
  physicalPartOfStairOrRamp := false

/-- Without stairs a building of two floors loses both. -/
theorem groundAndUpper_lost :
    ¬∀ (verticalTolerance : ℚ)
      (elements : List (PlacedElement ℚ))
      (floors : OrderedDict String (Floor ℚ Unit)),
      floors.entries ≠ [] →
        let before := assignToAllFloors verticalTolerance elements floors
        let after := assignElementsToFloors verticalTolerance elements floors
        after.floors.entries ≠ [] ∧
          List.Forall₂
            (fun old new => old.floor ≠ [] →
              ∃ name ∈ new.floor, name ∈ after.floors.keys)
            before.elements after.elements ∧
          ∀ height : ℚ,
            (∃ entry ∈ floors.entries, entry.2.minZ ≤ height ∧
              (height : WithBot ℚ) < entry.2.maxZ) →
              ∃ entry ∈ after.floors.entries, entry.2.minZ ≤ height ∧
                (height : WithBot ℚ) < entry.2.maxZ := by
  intro claim
  have noFloors :
      (assignElementsToFloors (1 / 10) [wallOnGround]
        groundAndUpper).floors.entries = [] := by
    decide +kernel
  exact (claim (1 / 10) [wallOnGround] groundAndUpper nofun).1 noFloors

end NavBim
