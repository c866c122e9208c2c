import Mathlib.Data.List.Basic
import Mathlib.Tactic

namespace NavBim

/-!
# Scans with a clock

A list is scanned from its front until an element is found that is stale at the
time of its own reading of the clock, and the list is cut there.  What is stale
once is stale ever after.
-/

section Scan

variable
  {α : Type}
  (stale : Nat → α → Prop)
  [∀ reads item, Decidable (stale reads item)]

/-- The elements before the first stale one, and the number of readings. -/
def scanStale : Nat → List α → List α × Nat
  | reads, [] => ([], reads)
  | reads, item :: rest =>
      if stale reads item then
        ([], reads + 1)
      else
        let scanned := scanStale (reads + 1) rest
        (item :: scanned.1, scanned.2)

/-- The elements that are not stale, each at its own reading. -/
def freshItems : Nat → List α → List α
  | _, [] => []
  | reads, item :: rest =>
      if stale reads item then
        freshItems (reads + 1) rest
      else
        item :: freshItems (reads + 1) rest

/-- No fresh element is behind a stale one. -/
def FreshFirst
    (reads : Nat)
    (items : List α) : Prop :=
  ∀ (i j : Nat) (first second : α), i < j →
    items[i]? = some first → items[j]? = some second →
      stale (reads + i) first → stale (reads + j) second

variable {stale} {reads : Nat} {kept rest : List α}

theorem freshItems_eq_nil_iff
    (items : List α) :
    freshItems stale reads items = [] ↔
      ∀ (i : Nat) (item : α), items[i]? = some item →
        stale (reads + i) item := by
  induction items generalizing reads with
  | nil =>
      exact iff_of_true rfl fun i item found => by cases found
  | cons head rest inductionHypothesis =>
      rw [freshItems]
      by_cases isStale : stale reads head
      · rw [if_pos isStale, inductionHypothesis]
        constructor
        · intro restStale i item found
          cases i with
          | zero =>
              cases found
              exact isStale
          | succ i =>
              rw [← Nat.succ_add_eq_add_succ]
              exact restStale i item found
        · intro allStale i item found
          rw [Nat.succ_add_eq_add_succ]
          exact allStale (i + 1) item found
      · rw [if_neg isStale]
        exact iff_of_false (List.cons_ne_nil _ _)
          fun allStale => isStale (allStale 0 head rfl)

theorem freshFirst_cons_iff
    {item : α} :
    FreshFirst stale reads (item :: rest) ↔
      (stale reads item → freshItems stale (reads + 1) rest = []) ∧
        FreshFirst stale (reads + 1) rest := by
  constructor
  · intro freshFirst
    refine ⟨fun isStale => ?_, fun i j first second before isFirst isSecond => ?_⟩
    · rw [freshItems_eq_nil_iff]
      intro i other found
      rw [Nat.succ_add_eq_add_succ]
      exact freshFirst 0 (i + 1) item other (Nat.succ_pos i) rfl found isStale
    · rw [Nat.succ_add_eq_add_succ, Nat.succ_add_eq_add_succ]
      exact freshFirst (i + 1) (j + 1) first second (Nat.succ_lt_succ before)
        isFirst isSecond
  · rintro ⟨headFirst, restFirst⟩ i j first second before isFirst isSecond
    obtain ⟨j, rfl⟩ := Nat.exists_eq_succ_of_ne_zero (Nat.ne_zero_of_lt before)
    rw [← Nat.succ_add_eq_add_succ]
    cases i with
    | zero =>
        cases isFirst
        intro isStale
        exact (freshItems_eq_nil_iff rest).mp (headFirst isStale) j second
          isSecond
    | succ i =>
        rw [← Nat.succ_add_eq_add_succ]
        exact restFirst i j first second (Nat.lt_of_succ_lt_succ before) isFirst
          isSecond

variable
  {items : List α}

theorem scanStale_eq_nil
    (noneFresh : freshItems stale reads items = []) :
    (scanStale stale reads items).1 = [] := by
  cases items with
  | nil => rfl
  | cons item rest =>
      have isStale : stale reads item :=
        (freshItems_eq_nil_iff _).mp noneFresh 0 item rfl
      rw [scanStale, if_pos isStale]

theorem scanStale_eq_freshItems_iff
    (items : List α) :
    (scanStale stale reads items).1 = freshItems stale reads items ↔
      FreshFirst stale reads items := by
  induction items generalizing reads with
  | nil =>
      exact iff_of_true rfl fun i j first second _ found => by cases found
  | cons item rest inductionHypothesis =>
      rw [freshFirst_cons_iff, ← inductionHypothesis]
      by_cases isStale : stale reads item
      · rw [scanStale, if_pos isStale, freshItems, if_pos isStale]
        constructor
        · intro noneFresh
          refine ⟨fun _ => noneFresh.symm, ?_⟩
          rw [← noneFresh, scanStale_eq_nil noneFresh.symm]
        · intro freshFirst
          exact (freshFirst.1 isStale).symm
      · rw [scanStale, if_neg isStale, freshItems, if_neg isStale,
          List.cons.injEq, and_iff_right rfl,
          and_iff_right fun staleItem => absurd staleItem isStale]

/-- What a list lacks of another one starts with an element that is stale from a
reading on. -/
def ScanCut
    (stale : Nat → α → Prop)
    (reads : Nat)
    (kept items : List α) : Prop :=
  ∃ rest, items = kept ++ rest ∧
    ∀ head ∈ rest.head?, ∀ later, reads ≤ later → stale later head

section

omit [∀ reads item, Decidable (stale reads item)]

theorem ScanCut.refl
    (items : List α) :
    ScanCut stale reads items items :=
  ⟨[], (List.append_nil items).symm, fun _ member => by cases member⟩

theorem ScanCut.cons
    (cut : ScanCut stale reads kept items)
    (item : α) :
    ScanCut stale reads (item :: kept) (item :: items) := by
  obtain ⟨rest, rfl, isStale⟩ := cut
  exact ⟨rest, rfl, isStale⟩

theorem ScanCut.mono
    (cut : ScanCut stale reads kept items)
    {later : Nat}
    (isLater : reads ≤ later) :
    ScanCut stale later kept items := by
  obtain ⟨rest, rfl, isStale⟩ := cut
  exact ⟨rest, rfl, fun head member time after =>
    isStale head member time (isLater.trans after)⟩

end

/-- A scan of what is kept gives what a scan of all elements gives. -/
theorem ScanCut.scanStale_eq
    (cut : ScanCut stale reads kept items) :
    (scanStale stale reads kept).1 = (scanStale stale reads items).1 := by
  obtain ⟨rest, rfl, isStale⟩ := cut
  induction kept generalizing reads with
  | nil =>
      cases rest with
      | nil => rfl
      | cons head others =>
          rw [List.nil_append, scanStale, scanStale,
            if_pos (isStale head rfl reads (Nat.le_refl _))]
  | cons item kept inductionHypothesis =>
      rw [List.cons_append, scanStale, scanStale]
      split
      · rfl
      · exact congrArg (List.cons item) (inductionHypothesis
          fun head member later isLater =>
            isStale head member later ((Nat.le_succ _).trans isLater))

theorem ScanCut.scanStale
    (forever : ∀ item reads later, reads ≤ later → stale reads item →
      stale later item)
    {items : List α}
    (cut : ScanCut stale reads kept items) :
    ScanCut stale (NavBim.scanStale stale reads kept).2
      (NavBim.scanStale stale reads kept).1 items := by
  induction kept generalizing reads items with
  | nil =>
      exact cut
  | cons item kept inductionHypothesis =>
      obtain ⟨rest, rfl, isStale⟩ := cut
      rw [NavBim.scanStale]
      split
      · case isTrue itemStale =>
        refine ⟨item :: (kept ++ rest), rfl, ?_⟩
        intro head member later isLater
        cases member
        exact forever item reads later ((Nat.le_succ _).trans isLater) itemStale
      · exact (inductionHypothesis ⟨rest, rfl, fun head member later isLater =>
          isStale head member later ((Nat.le_succ _).trans isLater)⟩).cons item

end Scan

end NavBim
