import Mathlib.Order.BoundedOrder.Basic
import Mathlib.Data.List.Basic
import Mathlib.Tactic

namespace NavBim

/-!
# The first of the greatest items

A scan over a list keeps the best candidate so far and takes another one only
if it is strictly better.  It ends with the first of the greatest candidates.
-/

variable {α β κ μ : Type*}

/-- The item is a candidate with the greatest key, and the first of these. -/
structure FirstGreatest
    [LinearOrder κ]
    (items : List α)
    (candidate : α → Prop)
    (key : α → κ)
    (place : Nat)
    (item : α) : Prop where
  atPlace : items[place]? = some item
  isCandidate : candidate item
  greatest :
    ∀ other otherItem, items[other]? = some otherItem →
      candidate otherItem →
      key otherItem < key item ∨ key otherItem = key item ∧ place ≤ other

namespace FirstGreatest

variable
  [LinearOrder κ]
  {items : List α}
  {candidate : α → Prop}
  {key : α → κ}
  {place other : Nat}
  {item otherItem last : α}

section

variable
  (first : FirstGreatest items candidate key place item)

include first

theorem place_lt :
    place < items.length :=
  (List.getElem?_eq_some_iff.mp first.atPlace).1

theorem key_le
    (isOther : items[other]? = some otherItem)
    (isCandidate : candidate otherItem) :
    key otherItem ≤ key item := by
  rcases first.greatest other otherItem isOther isCandidate with
    smaller | ⟨same, -⟩
  · exact smaller.le
  · exact same.le

theorem place_unique
    (second : FirstGreatest items candidate key other otherItem) :
    place = other := by
  have sameKey : key otherItem = key item :=
    le_antisymm (first.key_le second.atPlace second.isCandidate)
      (second.key_le first.atPlace first.isCandidate)
  have before :=
    (first.greatest other otherItem second.atPlace
      second.isCandidate).resolve_left (not_lt.mpr sameKey.ge)
  have after :=
    (second.greatest place item first.atPlace
      first.isCandidate).resolve_left (not_lt.mpr sameKey.le)
  exact le_antisymm before.2 after.2

end

/-- Another item at the end, in whatever place of the longer list. -/
theorem getElem?_append_singleton
    (isOther : (items ++ [last])[other]? = some otherItem) :
    items[other]? = some otherItem ∨
      other = items.length ∧ otherItem = last := by
  rw [List.getElem?_append] at isOther
  split at isOther
  · exact .inl isOther
  · right
    obtain ⟨inside, isLast⟩ := List.getElem?_eq_some_iff.mp isOther
    rw [List.length_singleton] at inside
    rw [List.getElem_singleton] at isLast
    exact ⟨by omega, isLast.symm⟩

theorem append_of_not_better
    (first : FirstGreatest items candidate key place item)
    (notBetter : candidate last → key last ≤ key item) :
    FirstGreatest (items ++ [last]) candidate key place item where
  atPlace := by
    rw [List.getElem?_append_left first.place_lt]
    exact first.atPlace
  isCandidate := first.isCandidate
  greatest := by
    intro other otherItem isOther isCandidate
    rcases getElem?_append_singleton isOther with earlier | ⟨rfl, rfl⟩
    · exact first.greatest other otherItem earlier isCandidate
    · rcases (notBetter isCandidate).lt_or_eq with smaller | same
      · exact .inl smaller
      · exact .inr ⟨same, first.place_lt.le⟩

theorem append_of_better
    (isCandidate : candidate last)
    (better :
      ∀ (other : Nat) otherItem, items[other]? = some otherItem →
        candidate otherItem → key otherItem < key last) :
    FirstGreatest (items ++ [last]) candidate key items.length last where
  atPlace := by
    rw [List.getElem?_append_right (le_refl _), Nat.sub_self]
    rfl
  isCandidate := isCandidate
  greatest := by
    intro other otherItem isOther isOtherCandidate
    rcases getElem?_append_singleton isOther with earlier | ⟨rfl, rfl⟩
    · exact .inl (better other otherItem earlier isOtherCandidate)
    · exact .inr ⟨rfl, le_refl _⟩

theorem congr
    {other : α → Prop}
    (same : ∀ item, candidate item ↔ other item) :
    FirstGreatest items candidate key place item ↔
      FirstGreatest items other key place item := by
  rw [funext fun item => propext (same item)]

theorem zipIdx_iff
    (candidate : α → Prop)
    (key : α → κ)
    {indexed : α × Nat} :
    FirstGreatest items.zipIdx (fun indexed => candidate indexed.1)
        (fun indexed => key indexed.1) place indexed ↔
      FirstGreatest items candidate key place indexed.1 ∧
        place = indexed.2 := by
  have numbered :
      ∀ (other : Nat) (indexed : α × Nat),
        items.zipIdx[other]? = some indexed ↔
          items[other]? = some indexed.1 ∧ other = indexed.2 := by
    intro other indexed
    rw [List.getElem?_zipIdx, Option.map_eq_some_iff, Nat.zero_add]
    constructor
    · rintro ⟨item, isItem, rfl⟩
      exact ⟨isItem, rfl⟩
    · rintro ⟨isItem, isPlace⟩
      exact ⟨indexed.1, isItem, Prod.ext rfl isPlace⟩
  constructor
  · intro first
    obtain ⟨isItem, isPlace⟩ := (numbered place indexed).mp first.atPlace
    refine ⟨⟨isItem, first.isCandidate, ?_⟩, isPlace⟩
    intro other otherItem isOther isCandidate
    exact first.greatest other (otherItem, other)
      ((numbered other _).mpr ⟨isOther, rfl⟩) isCandidate
  · rintro ⟨first, isPlace⟩
    refine ⟨(numbered place indexed).mpr ⟨first.atPlace, isPlace⟩,
      first.isCandidate, ?_⟩
    intro other otherItem isOther isCandidate
    exact first.greatest other otherItem.1
      ((numbered other otherItem).mp isOther).1 isCandidate

theorem getElem?_of_forall₂
    {related : α → β → Prop}
    {others : List β}
    (pairs : List.Forall₂ related items others)
    (isItem : items[place]? = some item) :
    ∃ other, others[place]? = some other ∧ related item other := by
  induction pairs generalizing place with
  | nil =>
      simp at isItem
  | @cons first second items others isRelated _ inductionHypothesis =>
      cases place with
      | zero =>
          rw [← Option.some.inj isItem]
          exact ⟨second, rfl, isRelated⟩
      | succ place =>
          exact inductionHypothesis isItem

theorem of_forall₂
    {related : α → β → Prop}
    {others : List β}
    {otherCandidate : β → Prop}
    {otherKey : β → κ}
    (pairs : List.Forall₂ related items others)
    (sameCandidate :
      ∀ item other, related item other →
        (candidate item ↔ otherCandidate other))
    (sameKey :
      ∀ item other, related item other → key item = otherKey other)
    (first : FirstGreatest items candidate key place item) :
    ∃ other,
      related item other ∧
      FirstGreatest others otherCandidate otherKey place other := by
  obtain ⟨other, isOther, isRelated⟩ :=
    getElem?_of_forall₂ pairs first.atPlace
  refine ⟨other, isRelated, isOther,
    (sameCandidate item other isRelated).mp first.isCandidate, ?_⟩
  intro later laterOther isLater isCandidate
  obtain ⟨laterItem, isLaterItem, laterRelated⟩ :=
    getElem?_of_forall₂ pairs.flip isLater
  rw [← sameKey item other isRelated, ← sameKey laterItem laterOther laterRelated]
  exact first.greatest later laterItem isLaterItem
    ((sameCandidate laterItem laterOther laterRelated).mpr isCandidate)

/-- Candidates that are beaten by others of a kind do not matter. -/
theorem restrict_iff
    {kind : α → Prop}
    (ofKind : ∀ item, kind item → candidate item)
    (beaten :
      ∀ (place : Nat) item, items[place]? = some item →
        candidate item → ¬ kind item →
        ∃ (better : Nat) (betterItem : α), items[better]? = some betterItem ∧
          kind betterItem ∧
          (key item < key betterItem ∨
            key item = key betterItem ∧ better < place)) :
    FirstGreatest items kind key place item ↔
      FirstGreatest items candidate key place item := by
  constructor
  · intro first
    refine ⟨first.atPlace, ofKind item first.isCandidate, ?_⟩
    intro other otherItem isOther isCandidate
    by_cases isKind : kind otherItem
    · exact first.greatest other otherItem isOther isKind
    · obtain ⟨better, betterItem, isBetter, betterKind, beats⟩ :=
        beaten other otherItem isOther isCandidate isKind
      rcases first.greatest better betterItem isBetter betterKind with
        smaller | ⟨same, before⟩
      · left
        rcases beats with less | ⟨sameKey, -⟩
        · exact less.trans smaller
        · rwa [sameKey]
      · rcases beats with less | ⟨sameKey, earlier⟩
        · exact .inl (same ▸ less)
        · exact .inr ⟨sameKey.trans same, before.trans earlier.le⟩
  · intro first
    refine ⟨first.atPlace, ?_, ?_⟩
    · by_contra notKind
      obtain ⟨better, betterItem, isBetter, betterKind, beats⟩ :=
        beaten place item first.atPlace first.isCandidate notKind
      have betterCandidate := ofKind betterItem betterKind
      rcases beats with less | ⟨sameKey, earlier⟩
      · exact absurd less
          (not_lt.mpr (first.key_le isBetter betterCandidate))
      · rcases first.greatest better betterItem isBetter betterCandidate with
          smaller | ⟨-, before⟩
        · exact absurd sameKey smaller.ne'
        · exact absurd earlier (not_lt.mpr before)
    · intro other otherItem isOther isKind
      exact first.greatest other otherItem isOther (ofKind otherItem isKind)

theorem exists_of_candidate
    (key : α → κ)
    (isPlace : items[other]? = some otherItem)
    (isCandidate : candidate otherItem) :
    ∃ place item, FirstGreatest items candidate key place item := by
  induction items using List.reverseRecOn generalizing other otherItem with
  | nil =>
      simp at isPlace
  | append_singleton items last inductionHypothesis =>
      by_cases before :
        ∃ (place : Nat) (item : α),
          items[place]? = some item ∧ candidate item
      · obtain ⟨earlier, earlierItem, isEarlier, earlierCandidate⟩ := before
        obtain ⟨place, item, first⟩ :=
          inductionHypothesis isEarlier earlierCandidate
        by_cases better : candidate last ∧ key item < key last
        · refine ⟨items.length, last, append_of_better better.1 ?_⟩
          intro other otherItem isOther isCandidate
          exact (first.key_le isOther isCandidate).trans_lt better.2
        · refine ⟨place, item, first.append_of_not_better ?_⟩
          intro lastCandidate
          exact not_lt.mp fun greater => better ⟨lastCandidate, greater⟩
      · rcases getElem?_append_singleton isPlace with earlier | ⟨-, rfl⟩
        · exact absurd ⟨other, otherItem, earlier, isCandidate⟩ before
        · refine ⟨items.length, otherItem, append_of_better isCandidate ?_⟩
          intro other otherItem isOther isOtherCandidate
          exact absurd ⟨other, otherItem, isOther, isOtherCandidate⟩ before

end FirstGreatest

section Scan

variable
  [LinearOrder μ]
  [OrderTop μ]

/-- Keep the usable item with the smallest measure, and what it stands for. -/
def scanStep
    (usable : α → Prop)
    [DecidablePred usable]
    (measure : α → μ)
    (out : α → β)
    (best : μ × Option β)
    (item : α) : μ × Option β :=
  if usable item ∧ measure item < best.1 then
    (measure item, some (out item))
  else
    best

variable
  [LinearOrder κ]
  {usable : α → Prop}
  [DecidablePred usable]
  {measure : α → μ}
  {out : α → β}

section

variable
  (key : α → κ)
  (antitone :
    ∀ first second, usable first → usable second →
      (measure first < measure second ↔ key second < key first))

include key antitone

theorem foldl_scanStep
    (items : List α) :
    (∀ item ∈ items, ¬ (usable item ∧ measure item ≠ ⊤)) ∧
        items.foldl (scanStep usable measure out) (⊤, none) = (⊤, none) ∨
      ∃ place item,
        FirstGreatest items (fun item => usable item ∧ measure item ≠ ⊤) key
          place item ∧
        items.foldl (scanStep usable measure out) (⊤, none) =
          (measure item, some (out item)) := by
  induction items using List.reverseRecOn with
  | nil =>
      exact .inl ⟨by simp, rfl⟩
  | append_singleton items last inductionHypothesis =>
      rw [List.foldl_append, List.foldl_cons, List.foldl_nil]
      rcases inductionHypothesis with
        ⟨noCandidate, isBest⟩ | ⟨place, item, first, isBest⟩
      · rw [isBest, scanStep]
        by_cases better : usable last ∧ measure last < ⊤
        · rw [if_pos better]
          refine .inr ⟨items.length, last,
            FirstGreatest.append_of_better ⟨better.1, better.2.ne⟩ ?_, rfl⟩
          intro other otherItem isOther isCandidate
          exact absurd isCandidate
            (noCandidate otherItem (List.mem_of_getElem? isOther))
        · rw [if_neg better]
          refine .inl ⟨?_, rfl⟩
          intro item isItem isCandidate
          rcases List.mem_append.mp isItem with earlier | isLast
          · exact noCandidate item earlier isCandidate
          · rw [List.mem_singleton.mp isLast] at isCandidate
            exact better ⟨isCandidate.1, isCandidate.2.lt_top⟩
      · rw [isBest, scanStep]
        have firstUsable := first.isCandidate
        by_cases better : usable last ∧ measure last < measure item
        · rw [if_pos better]
          have greater : key item < key last :=
            (antitone last item better.1 firstUsable.1).mp better.2
          refine .inr ⟨items.length, last,
            FirstGreatest.append_of_better ⟨better.1, better.2.ne_top⟩ ?_,
            rfl⟩
          intro other otherItem isOther isCandidate
          exact (first.key_le isOther isCandidate).trans_lt greater
        · rw [if_neg better]
          refine .inr ⟨place, item, first.append_of_not_better ?_, rfl⟩
          intro isCandidate
          apply not_lt.mp
          intro greater
          exact better ⟨isCandidate.1,
            (antitone last item isCandidate.1 firstUsable.1).mpr greater⟩

/-- The scan gives what the first of the greatest candidates stands for. -/
theorem foldl_scanStep_eq_some_iff
    {items : List α}
    {result : β} :
    (items.foldl (scanStep usable measure out) (⊤, none)).2 = some result ↔
      ∃ place item,
        FirstGreatest items (fun item => usable item ∧ measure item ≠ ⊤) key
          place item ∧
        out item = result := by
  rcases foldl_scanStep key antitone items with
    ⟨noCandidate, isBest⟩ | ⟨place, item, first, isBest⟩
  · rw [isBest]
    refine iff_of_false nofun ?_
    rintro ⟨place, item, first, -⟩
    exact noCandidate item (List.mem_of_getElem? first.atPlace)
      first.isCandidate
  · rw [isBest, Option.some_inj]
    constructor
    · intro isResult
      exact ⟨place, item, first, isResult⟩
    · rintro ⟨other, otherItem, second, isResult⟩
      have samePlace := first.place_unique second
      have sameItem := first.atPlace
      rw [samePlace, second.atPlace] at sameItem
      rw [← Option.some.inj sameItem]
      exact isResult

end

end Scan

end NavBim
