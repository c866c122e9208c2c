import Mathlib.Data.List.Basic
import Mathlib.Data.List.Perm.Basic
import Mathlib.Tactic.Common

namespace NavBim

/-!
# Maximal runs

The indices below a bound are cut into runs by those that separate.  A scan that
opens a run at the first index after a separator, extends it and closes it at
the next separator finds exactly the maximal runs, in order.
-/

namespace MaximalRuns

/-- The indices from `first` to `last` do not separate, and those next to them,
if there are any, do. -/
structure MaximalRun
    (separates : Nat → Bool)
    (count first last : Nat) : Prop where
  ordered : first ≤ last
  inside : last < count
  unbroken : ∀ index, first ≤ index → index ≤ last → separates index = false
  starts : first = 0 ∨ separates (first - 1) = true
  ends : last + 1 = count ∨ separates (last + 1) = true

/-- The runs that are closed and the one that is open. -/
structure RunScan where
  done : List (Nat × Nat)
  current : Option (Nat × Nat)

namespace RunScan

def runs
    (scan : RunScan) : List (Nat × Nat) :=
  scan.done ++ scan.current.toList

def step
    (scan : RunScan)
    (index : Nat) : Bool → RunScan
  | true => { done := scan.runs, current := none }
  | false =>
      match scan.current with
      | none => { scan with current := some (index, index) }
      | some (first, _) => { scan with current := some (first, index) }

end RunScan

/-- The scan of the indices below a bound. -/
def scanRuns
    (separates : Nat → Bool) : Nat → RunScan
  | 0 => { done := [], current := none }
  | index + 1 => (scanRuns separates index).step index (separates index)

variable
  {separates : Nat → Bool}
  {count first last : Nat}

/-- A run that a separator follows does not depend on the bound. -/
theorem maximalRun_succ
    (earlier : last + 1 < count) :
    MaximalRun separates (count + 1) first last ↔
      MaximalRun separates count first last := by
  constructor
  · intro run
    exact { run with
      inside := Nat.lt_of_succ_lt earlier
      ends := .inr (run.ends.resolve_left (by omega)) }
  · intro run
    exact { run with
      inside := Nat.lt_succ_of_lt run.inside
      ends := .inr (run.ends.resolve_left (by omega)) }

/-- A run up to the bound goes on up to the next one unless the next index
separates. -/
theorem maximalRun_succ_last
    (before : last + 1 = count) :
    MaximalRun separates (count + 1) first last ↔
      MaximalRun separates count first last ∧ separates count = true := by
  constructor
  · intro run
    have separator := run.ends.resolve_left (by omega)
    rw [before] at separator
    exact ⟨{ run with inside := by omega, ends := .inl before }, separator⟩
  · rintro ⟨run, separator⟩
    exact { run with
      inside := Nat.lt_succ_of_lt run.inside
      ends := .inr (by rw [before]; exact separator) }

theorem maximalRun_succ_new :
    MaximalRun separates (count + 1) first count ↔
      separates count = false ∧
        (MaximalRun separates count first (count - 1) ∨
          first = count ∧ (count = 0 ∨ separates (count - 1) = true)) := by
  constructor
  · intro run
    refine ⟨run.unbroken count run.ordered (Nat.le_refl _), ?_⟩
    rcases Nat.eq_or_lt_of_le run.ordered with rfl | earlier
    · exact .inr ⟨rfl, run.starts⟩
    · refine .inl ⟨by omega, by omega, fun index from_ upTo => ?_, run.starts,
        .inl (by omega)⟩
      exact run.unbroken index from_ (by omega)
  · rintro ⟨kept, run | ⟨rfl, starts⟩⟩
    · refine ⟨?_, Nat.lt_succ_self _, fun index from_ upTo => ?_, run.starts,
        .inl rfl⟩
      · have := run.ordered
        omega
      · rcases Nat.eq_or_lt_of_le upTo with rfl | earlier
        · exact kept
        · exact run.unbroken index from_ (by omega)
    · refine ⟨Nat.le_refl _, Nat.lt_succ_self _, fun index from_ upTo => ?_, starts,
        .inl rfl⟩
      rw [Nat.le_antisymm upTo from_]
      exact kept

/-- The scan has found the maximal runs below the bound. -/
structure Scanned
    (separates : Nat → Bool)
    (count : Nat)
    (scan : RunScan) : Prop where
  mem_done :
    ∀ first last, (first, last) ∈ scan.done ↔
      MaximalRun separates count first last ∧ last + 1 < count
  current_eq :
    ∀ first last, scan.current = some (first, last) ↔
      MaximalRun separates count first last ∧ last + 1 = count
  closed :
    scan.current = none → count = 0 ∨ separates (count - 1) = true
  sorted : scan.runs.Pairwise (fun run next => run.2 < next.1)

variable
  {scan : RunScan}

section

variable
  (scanned : Scanned separates count scan)

include scanned

theorem Scanned.mem_runs :
    (first, last) ∈ scan.runs ↔ MaximalRun separates count first last := by
  rw [RunScan.runs, List.mem_append, scanned.mem_done, Option.mem_toList,
    scanned.current_eq, ← and_or_left]
  constructor
  · exact And.left
  · intro run
    have inside := run.inside
    exact ⟨run, by omega⟩

theorem Scanned.step_separator
    (separator : separates count = true) :
    Scanned separates (count + 1) (scan.step count true) where
  mem_done first last := by
    refine scanned.mem_runs.trans ⟨fun run => ?_, fun ⟨run, earlier⟩ => ?_⟩
    · have inside := run.inside
      refine ⟨?_, Nat.succ_lt_succ inside⟩
      rcases Nat.eq_or_lt_of_le (Nat.succ_le_of_lt inside) with before | earlier
      · exact (maximalRun_succ_last before).mpr ⟨run, separator⟩
      · exact (maximalRun_succ earlier).mpr run
    · rcases Nat.eq_or_lt_of_le (Nat.le_of_lt_succ earlier) with before | earlier
      · exact ((maximalRun_succ_last before).mp run).1
      · exact (maximalRun_succ earlier).mp run
  current_eq first last := by
    refine iff_of_false (fun isCurrent => nomatch isCurrent) ?_
    rintro ⟨run, isLast⟩
    obtain rfl := Nat.succ.inj isLast
    have kept := run.unbroken last run.ordered (Nat.le_refl _)
    exact nomatch separator.symm.trans kept
  closed _ := .inr separator
  sorted := by
    rw [RunScan.runs, RunScan.step, Option.toList_none, List.append_nil]
    exact scanned.sorted

/-- The runs that were closed before an index that does not separate. -/
theorem Scanned.mem_done_succ
    (kept : separates count = false) :
    (first, last) ∈ scan.done ↔
      MaximalRun separates (count + 1) first last ∧ last + 1 < count + 1 := by
  refine (scanned.mem_done first last).trans
    ⟨fun ⟨run, earlier⟩ => ?_, fun ⟨run, upTo⟩ => ?_⟩
  · exact ⟨(maximalRun_succ earlier).mpr run, Nat.lt_succ_of_lt earlier⟩
  · rcases Nat.eq_or_lt_of_le (Nat.le_of_lt_succ upTo) with before | earlier
    · have separator := ((maximalRun_succ_last before).mp run).2
      exact nomatch separator.symm.trans kept
    · exact ⟨(maximalRun_succ earlier).mp run, earlier⟩

theorem Scanned.step_open
    (kept : separates count = false)
    (noCurrent : scan.current = none) :
    Scanned separates (count + 1)
      { scan with current := some (count, count) } where
  mem_done _ _ := scanned.mem_done_succ kept
  current_eq first last := by
    constructor
    · intro isCurrent
      obtain ⟨rfl, rfl⟩ := Prod.mk.inj (Option.some.inj isCurrent)
      exact ⟨maximalRun_succ_new.mpr
        ⟨kept, .inr ⟨rfl, scanned.closed noCurrent⟩⟩, rfl⟩
    · rintro ⟨run, isLast⟩
      obtain rfl := Nat.succ.inj isLast
      rcases (maximalRun_succ_new.mp run).2 with before | ⟨rfl, -⟩
      · have inside := before.inside
        have isCurrent := (scanned.current_eq first (last - 1)).mpr
          ⟨before, by omega⟩
        exact nomatch noCurrent.symm.trans isCurrent
      · rfl
  closed isNone := nomatch isNone
  sorted := by
    have sorted := scanned.sorted
    rw [RunScan.runs, noCurrent, Option.toList_none, List.append_nil] at sorted
    rw [RunScan.runs, Option.toList_some, List.pairwise_append]
    refine ⟨sorted, List.pairwise_singleton _ _, fun run isDone next isNew => ?_⟩
    obtain rfl := List.mem_singleton.mp isNew
    have earlier := ((scanned.mem_done run.1 run.2).mp isDone).2
    exact Nat.lt_of_succ_lt earlier

end

theorem Scanned.step_extend
    {start before : Nat}
    (scanned : Scanned separates count scan)
    (kept : separates count = false)
    (isCurrent : scan.current = some (start, before)) :
    Scanned separates (count + 1)
      { scan with current := some (start, count) } where
  mem_done _ _ := scanned.mem_done_succ kept
  current_eq first last := by
    obtain ⟨open_, isBefore⟩ := (scanned.current_eq start before).mp isCurrent
    obtain rfl : before = count - 1 := by omega
    constructor
    · intro isNew
      obtain ⟨rfl, rfl⟩ := Prod.mk.inj (Option.some.inj isNew)
      exact ⟨maximalRun_succ_new.mpr ⟨kept, .inl open_⟩, rfl⟩
    · rintro ⟨run, isLast⟩
      obtain rfl := Nat.succ.inj isLast
      rcases (maximalRun_succ_new.mp run).2 with same | ⟨rfl, starts⟩
      · have also := (scanned.current_eq first _).mpr ⟨same, isBefore⟩
        rw [isCurrent] at also
        obtain ⟨rfl, -⟩ := Prod.mk.inj (Option.some.inj also)
        rfl
      · have unbroken := open_.unbroken _ open_.ordered (Nat.le_refl _)
        rcases starts with rfl | separator
        · exact absurd isBefore (Nat.succ_ne_zero _)
        · exact nomatch separator.symm.trans unbroken
  closed isNone := nomatch isNone
  sorted := by
    have sorted := scanned.sorted
    rw [RunScan.runs, isCurrent, Option.toList_some, List.pairwise_append]
      at sorted
    rw [RunScan.runs, Option.toList_some, List.pairwise_append]
    refine ⟨sorted.1, List.pairwise_singleton _ _, fun run isDone next isNew => ?_⟩
    obtain rfl := List.mem_singleton.mp isNew
    exact sorted.2.2 run isDone (start, before) (List.mem_singleton_self _)

theorem Scanned.step
    (scanned : Scanned separates count scan) :
    Scanned separates (count + 1) (scan.step count (separates count)) := by
  cases separator : separates count with
  | true =>
      exact scanned.step_separator separator
  | false =>
      rw [RunScan.step]
      cases isCurrent : scan.current with
      | none =>
          exact scanned.step_open separator isCurrent
      | some run =>
          exact scanned.step_extend separator isCurrent

theorem eq_of_mem_iff
    {runs others : List (Nat × Nat)}
    (ordered : ∀ run ∈ runs, run.1 ≤ run.2)
    (sorted : runs.Pairwise (fun run next => run.2 < next.1))
    (othersSorted : others.Pairwise (fun run next => run.2 < next.1))
    (same : ∀ run, run ∈ runs ↔ run ∈ others) :
    runs = others := by
  have apart : ∀ run ∈ runs, ¬run.2 < run.1 :=
    fun run isRun => Nat.not_lt.mpr (ordered run isRun)
  have nodup : runs.Nodup := by
    refine sorted.imp_of_mem fun isRun _ before equal => ?_
    rw [← equal] at before
    exact apart _ isRun before
  have othersNodup : others.Nodup := by
    refine othersSorted.imp_of_mem fun isRun _ before equal => ?_
    rw [← equal] at before
    exact apart _ ((same _).mpr isRun) before
  refine ((List.perm_ext_iff_of_nodup nodup othersNodup).mpr same).eq_of_pairwise
    (fun run other isRun isOther before after => ?_) sorted othersSorted
  have first := ordered run isRun
  have second := ordered other ((same other).mpr isOther)
  omega

theorem scanned_scanRuns
    (separates : Nat → Bool)
    (count : Nat) :
    Scanned separates count (scanRuns separates count) := by
  induction count with
  | zero =>
      refine ⟨fun first last => ?_, fun first last => ?_, fun _ => .inl rfl, .nil⟩
      · exact iff_of_false (fun isMember => nomatch isMember)
          (fun run => Nat.not_lt_zero _ run.1.inside)
      · exact iff_of_false (fun isCurrent => nomatch isCurrent)
          (fun run => Nat.not_lt_zero _ run.1.inside)
  | succ count inductionHypothesis =>
      exact inductionHypothesis.step

end MaximalRuns

end NavBim
