import Mathlib.Data.List.Sort
import Mathlib.Tactic

namespace NavBim

/-!
# Ranks of sorted items

Items are sorted by a key and numbered in that order.  Items with one key get
one number, so the numbers order the items as the keys do.
-/

/-- A table of numbers, the item before and its number. -/
structure Ranking (α σ : Type) where
  table : σ
  last : α
  level : Nat

section Ranks

variable {α σ : Type} [DecidableEq α]

/-- Number one more item. -/
def rankItem
    (key : α → Nat)
    (write : σ → α → Nat → σ)
    (ranking : Ranking α σ)
    (item : α) : Ranking α σ :=
  let level :=
    if key item ≠ key ranking.last then ranking.level + 1 else ranking.level
  { table := write ranking.table item level, last := item, level := level }

/-- Items have numbers in the order of their keys. -/
structure RanksOf
    (key : α → Nat)
    (read : σ → α → Option Nat)
    (items : List α)
    (table : σ)
    (level : Nat) : Prop where
  exists_rank : ∀ item ∈ items, ∃ rank, read table item = some rank ∧
    rank ≤ level
  lt_iff : ∀ first ∈ items, ∀ second ∈ items, ∀ firstRank secondRank : Nat,
    read table first = some firstRank → read table second = some secondRank →
      (key first < key second ↔ firstRank < secondRank)
  zero : ∀ item ∈ items, key item = 0 → read table item = some 0

variable
  {key : α → Nat}
  {read : σ → α → Option Nat}
  {write : σ → α → Nat → σ}
  {fits : α → Prop}
  {sound : σ → Prop}

/-- What is known while items are numbered. -/
structure RankedUpTo
    (key : α → Nat)
    (read : σ → α → Option Nat)
    (sound : σ → Prop)
    (done : List α)
    (ranking : Ranking α σ) : Prop where
  table : sound ranking.table
  ranks : RanksOf key read done ranking.table ranking.level
  last : ∀ item ∈ done, key item ≤ key ranking.last
  lastRank : ∀ item ∈ done, key item = key ranking.last →
    read ranking.table item = some ranking.level
  belowRank : ∀ item ∈ done, key item < key ranking.last →
    ∀ rank, read ranking.table item = some rank → rank < ranking.level
  start : key ranking.last = 0 → ranking.level = 0

/-- The number that an item gets. -/
def nextLevel
    (key : α → Nat)
    (ranking : Ranking α σ)
    (item : α) : Nat :=
  if key item ≠ key ranking.last then ranking.level + 1 else ranking.level

section Steps

variable {done : List α} {ranking : Ranking α σ} {item : α}

section

omit [DecidableEq α]

theorem rankItem_eq :
    rankItem key write ranking item =
      { table := write ranking.table item (nextLevel key ranking item),
        last := item, level := nextLevel key ranking item } :=
  rfl

theorem level_le_nextLevel :
    ranking.level ≤ nextLevel key ranking item := by
  rw [nextLevel]
  split <;> omega

section

variable
  (ranked : RankedUpTo key read sound done ranking)
  (notLess : key ranking.last ≤ key item)

include ranked notLess

theorem RankedUpTo.lt_nextLevel_iff
    {other : α}
    {rank : Nat}
    (member : other ∈ done)
    (isRank : read ranking.table other = some rank) :
    key other < key item ↔ rank < nextLevel key ranking item := by
  obtain ⟨found, isFound, within⟩ := ranked.ranks.exists_rank other member
  rw [isRank, Option.some.injEq] at isFound
  have notAfter := ranked.last other member
  rw [nextLevel]
  by_cases same : key item = key ranking.last
  · rw [if_neg (not_not_intro same), same]
    constructor
    · intro below
      exact ranked.belowRank other member below rank isRank
    · intro below
      by_contra notBelow
      have atLast := ranked.lastRank other member (by omega)
      rw [isRank, Option.some.injEq] at atLast
      omega
  · rw [if_pos same]
    omega

theorem RankedUpTo.nextLevel_zero
    (isZero : key item = 0) :
    nextLevel key ranking item = 0 := by
  have lastZero : key ranking.last = 0 := by omega
  rw [nextLevel, if_neg (by omega)]
  exact ranked.start lastZero

end

end

theorem mem_concat_cases
    {other : α}
    (member : other ∈ done ++ [item]) :
    other = item ∨ other ≠ item ∧ other ∈ done := by
  by_cases isItem : other = item
  · exact .inl isItem
  · exact .inr ⟨isItem, by simpa [isItem] using member⟩

/-- A number for one more item that is not below those before keeps the order. -/
theorem RanksOf.concat
    {before after : σ}
    {level next : Nat}
    (ranks : RanksOf key read done before level)
    (atLeast : level ≤ next)
    (itemRank : read after item = some next)
    (doneRank : ∀ other ∈ done, other ≠ item →
      read after other = read before other)
    (notAfter : ∀ other ∈ done, key other ≤ key item)
    (below : ∀ other ∈ done, ∀ rank : Nat, read before other = some rank →
      (key other < key item ↔ rank < next))
    (zero : key item = 0 → next = 0) :
    RanksOf key read (done ++ [item]) after next := by
  have within {other : α}
      {rank : Nat}
      (isDone : other ∈ done)
      (isRank : read before other = some rank) :
      rank ≤ next := by
    obtain ⟨found, isFound, isWithin⟩ := ranks.exists_rank other isDone
    rw [isRank, Option.some.injEq] at isFound
    rw [isFound]
    exact isWithin.trans atLeast
  refine {
    exists_rank := ?_
    lt_iff := ?_
    zero := ?_
  }
  · intro other member
    rcases mem_concat_cases member with rfl | ⟨different, isDone⟩
    · exact ⟨next, itemRank, le_rfl⟩
    · obtain ⟨rank, isRank, -⟩ := ranks.exists_rank other isDone
      exact ⟨rank, (doneRank other isDone different).trans isRank,
        within isDone isRank⟩
  · intro first firstMember second secondMember firstRank secondRank
      isFirst isSecond
    rcases mem_concat_cases firstMember with rfl | ⟨firstDifferent, firstDone⟩
    · rw [itemRank, Option.some.injEq] at isFirst
      rcases mem_concat_cases secondMember with
        rfl | ⟨secondDifferent, secondDone⟩
      · rw [itemRank, Option.some.injEq] at isSecond
        omega
      · rw [doneRank second secondDone secondDifferent] at isSecond
        have isWithin := within secondDone isSecond
        have isNotAfter := notAfter second secondDone
        omega
    · rw [doneRank first firstDone firstDifferent] at isFirst
      rcases mem_concat_cases secondMember with
        rfl | ⟨secondDifferent, secondDone⟩
      · rw [itemRank, Option.some.injEq] at isSecond
        rw [← isSecond]
        exact below first firstDone firstRank isFirst
      · rw [doneRank second secondDone secondDifferent] at isSecond
        exact ranks.lt_iff first firstDone second secondDone _ _ isFirst
          isSecond
  · intro other member isZero
    rcases mem_concat_cases member with rfl | ⟨different, isDone⟩
    · rw [itemRank, zero isZero]
    · rw [doneRank other isDone different]
      exact ranks.zero other isDone isZero

/-- Numbering an item that is not below those before keeps the order. -/
theorem RankedUpTo.step
    (ranked : RankedUpTo key read sound done ranking)
    (reads : ∀ table first second rank, sound table → fits first →
      fits second →
      read (write table first rank) second =
        if second = first then some rank else read table second)
    (writes : ∀ table item rank, sound table → fits item →
      sound (write table item rank))
    (doneFits : ∀ other ∈ done, fits other)
    (itemFits : fits item)
    (notLess : key ranking.last ≤ key item) :
    RankedUpTo key read sound (done ++ [item])
      (rankItem key write ranking item) := by
  rw [rankItem_eq]
  have itemRank : read
      (write ranking.table item (nextLevel key ranking item)) item =
        some (nextLevel key ranking item) := by
    rw [reads _ _ _ _ ranked.table itemFits itemFits, if_pos rfl]
  have doneRank (other : α)
      (member : other ∈ done)
      (different : other ≠ item) :
      read (write ranking.table item (nextLevel key ranking item)) other =
        read ranking.table other := by
    rw [reads _ _ _ _ ranked.table itemFits (doneFits other member),
      if_neg different]
  have notAfter (other : α)
      (member : other ∈ done) :
      key other ≤ key item :=
    (ranked.last other member).trans notLess
  refine {
    table := writes _ _ _ ranked.table itemFits
    ranks := ranked.ranks.concat level_le_nextLevel itemRank doneRank notAfter
      (fun other member rank isRank => ranked.lt_nextLevel_iff notLess
        member isRank)
      (ranked.nextLevel_zero notLess)
    last := ?_
    lastRank := ?_
    belowRank := ?_
    start := ranked.nextLevel_zero notLess
  }
  · intro other member
    rcases mem_concat_cases member with rfl | ⟨-, isDone⟩
    · exact le_rfl
    · exact notAfter other isDone
  · intro other member same
    rcases mem_concat_cases member with rfl | ⟨different, isDone⟩
    · exact itemRank
    · have atMost := ranked.last other isDone
      dsimp only at same
      rw [doneRank other isDone different,
        ranked.lastRank other isDone (by omega), nextLevel, if_neg (by omega)]
  · intro other member below rank isRank
    rcases mem_concat_cases member with rfl | ⟨different, isDone⟩
    · exact absurd below (lt_irrefl _)
    · rw [doneRank other isDone different] at isRank
      exact (ranked.lt_nextLevel_iff notLess isDone isRank).mp below

end Steps

theorem ranksOf_foldl
    (reads : ∀ table first second rank, sound table → fits first →
      fits second →
      read (write table first rank) second =
        if second = first then some rank else read table second)
    (writes : ∀ table item rank, sound table → fits item →
      sound (write table item rank))
    {items : List α}
    (itemsFit : ∀ item ∈ items, fits item)
    (sorted : items.Pairwise fun first second => key first ≤ key second)
    {start : Ranking α σ}
    (startSound : sound start.table)
    (lastZero : key start.last = 0)
    (levelZero : start.level = 0) :
    RanksOf key read items
      (items.foldl (rankItem key write) start).table
      (items.foldl (rankItem key write) start).level := by
  have ranked :
      RankedUpTo key read sound items
          (items.foldl (rankItem key write) start) ∧
        ∀ bound, (∀ item ∈ items, key item ≤ bound) →
          key (items.foldl (rankItem key write) start).last ≤ bound := by
    induction items using List.reverseRecOn with
    | nil =>
        refine ⟨?_, fun bound _ => by simp [lastZero]⟩
        exact {
          table := startSound
          ranks := {
            exists_rank := fun item member => absurd member List.not_mem_nil
            lt_iff := fun item member => absurd member List.not_mem_nil
            zero := fun item member => absurd member List.not_mem_nil
          }
          last := fun item member => absurd member List.not_mem_nil
          lastRank := fun item member => absurd member List.not_mem_nil
          belowRank := fun item member => absurd member List.not_mem_nil
          start := fun _ => levelZero
        }
    | append_singleton done item inductionHypothesis =>
        rw [List.pairwise_append] at sorted
        have doneFit : ∀ other ∈ done, fits other :=
          fun other member => itemsFit other (by simp [member])
        obtain ⟨ranked, lastLe⟩ := inductionHypothesis doneFit sorted.1
        rw [List.foldl_append]
        refine ⟨ranked.step reads writes doneFit (itemsFit item (by simp))
          (lastLe _ fun other member => ?_), ?_⟩
        · exact sorted.2.2 other member item (List.mem_singleton.mpr rfl)
        · intro bound atMost
          exact atMost item (by simp)
  exact ranked.1.ranks

end Ranks

end NavBim
