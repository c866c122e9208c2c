import Mathlib.Algebra.BigOperators.Group.Finset.Basic
import Mathlib.Algebra.Order.BigOperators.Group.Finset
import Mathlib.Tactic

namespace NavBim.DistanceLabels

/-!
# Distances from several starts up to a bound

A queue of labelled vertices is emptied from the front.  A vertex whose label
has become smaller meanwhile is skipped.  The others label their free
neighbours with one step more, if this is an improvement and within a bound,
and put them at the end of the queue.

Whatever the order of the queue, the labels are in the end the distances from
the nearest start, and the queue becomes empty.
-/

/-- The labels, missing where a vertex has not been reached, and the queue. -/
structure Search (V : Type*) where
  label : V → Option Nat
  queue : List (V × Nat)

variable {V : Type*}

/-- The label is missing or greater. -/
def Improves (steps : Nat) (label : Option Nat) : Prop :=
  ∀ known ∈ label, steps < known

instance : DecidableRel Improves :=
  fun steps label => inferInstanceAs (Decidable (∀ known ∈ label, steps < known))

section Run

variable
  [DecidableEq V]
  (neighbors : V → List V)
  (free : V → Prop)
  [DecidablePred free]
  (bound : ℤ)

/-- A vertex gets a label if it is free and the label is better. -/
def Better
    (steps : Nat)
    (search : Search V)
    (next : V) : Prop :=
  Improves steps (search.label next) ∧ (steps : ℤ) ≤ bound ∧ free next

instance
    (steps : Nat)
    (search : Search V) :
    DecidablePred (Better free bound steps search) :=
  fun next => inferInstanceAs (Decidable
    (Improves steps (search.label next) ∧ (steps : ℤ) ≤ bound ∧ free next))

def visit
    (steps : Nat)
    (search : Search V)
    (next : V) : Search V :=
  if Better free bound steps search next then
    { label := Function.update search.label next (some steps)
      queue := search.queue ++ [(next, steps)] }
  else
    search

/-- The first entry of the queue is taken out. -/
def pass
    (entry : V × Nat)
    (search : Search V) : Search V :=
  if ∃ known ∈ search.label entry.1, known < entry.2 then
    search
  else
    (neighbors entry.1).foldl (visit free bound (entry.2 + 1)) search

/-- The labels when the queue is empty; `none` stands for more entries than the
fuel allows. -/
def run : Nat → Search V → Option (V → Option Nat)
  | 0, search => if search.queue = [] then some search.label else none
  | fuel + 1, search =>
      match search.queue with
      | [] => some search.label
      | entry :: rest =>
          run fuel (pass neighbors free bound entry ⟨search.label, rest⟩)

/-- All starts have the label zero. -/
def start (starts : List V) : Search V where
  label vertex := if vertex ∈ starts then some 0 else none
  queue := starts.map (·, 0)

end Run

/-- `Walk neighbors free first steps last`: as many steps lead over free
neighbours from the first vertex to the last. -/
inductive Walk
    (neighbors : V → List V)
    (free : V → Prop)
    (first : V) : Nat → V → Prop
  | nil :
      Walk neighbors free first 0 first
  | step
      {steps : Nat}
      {vertex next : V} :
      Walk neighbors free first steps vertex →
      next ∈ neighbors vertex →
      free next →
      Walk neighbors free first (steps + 1) next

/-- What holds between two passes. -/
structure Invariant
    (neighbors : V → List V)
    (free : V → Prop)
    (bound : ℤ)
    (starts : List V)
    (search : Search V) : Prop where
  started : ∀ first ∈ starts, search.label first = some 0
  walked :
    ∀ vertex, ∀ steps ∈ search.label vertex,
      ∃ first ∈ starts, Walk neighbors free first steps vertex
  queued :
    ∀ entry ∈ search.queue, ∃ known ∈ search.label entry.1, known ≤ entry.2
  relaxed :
    ∀ vertex, ∀ steps ∈ search.label vertex, (vertex, steps) ∉ search.queue →
      ∀ next ∈ neighbors vertex, free next → ((steps + 1 : Nat) : ℤ) ≤ bound →
        ∃ known ∈ search.label next, known ≤ steps + 1

variable
  [DecidableEq V]
  {neighbors : V → List V}
  {free : V → Prop}
  [DecidablePred free]
  {bound : ℤ}
  {starts : List V}
  {search : Search V}
  {entry : V × Nat}
  {steps : Nat}

omit [DecidableEq V] [DecidablePred free] in
theorem not_improves
    {label : Option Nat} :
    ¬Improves steps label ↔ ∃ known ∈ label, known ≤ steps := by
  simp only [Improves, not_forall, not_lt, exists_prop]

/-! ## The neighbours of one vertex -/

theorem label_visit
    (next vertex : V) :
    (visit free bound steps search next).label vertex =
      if vertex = next ∧ Better free bound steps search next then some steps
      else search.label vertex := by
  rw [visit]
  by_cases better : Better free bound steps search next
  · simp only [better, and_true, if_true]
    exact Function.update_apply _ _ _ _
  · simp only [better, and_false, if_false]

theorem mem_queue_visit
    (next : V) :
    entry ∈ (visit free bound steps search next).queue ↔
      entry ∈ search.queue ∨
        entry.2 = steps ∧ entry.1 = next ∧
          Better free bound steps search next := by
  rw [visit]
  by_cases better : Better free bound steps search next
  · simp only [better, if_true, and_true, List.mem_append,
      List.mem_singleton, Prod.ext_iff]
    exact or_congr_right and_comm
  · simp only [better, if_false, and_false, or_false]

/-- A vertex that has got a label does not get it again. -/
theorem better_visit
    (next vertex : V) :
    Better free bound steps (visit free bound steps search next) vertex ↔
      Better free bound steps search vertex ∧ vertex ≠ next := by
  by_cases isNext : vertex = next ∧ Better free bound steps search next
  · refine iff_of_false (fun again => ?_) fun other => other.2 isNext.1
    have improves := again.1
    rw [label_visit, if_pos isNext] at improves
    exact lt_irrefl steps (improves steps rfl)
  · rw [Better, label_visit, if_neg isNext]
    refine (and_iff_left_of_imp fun better => ?_).symm
    rintro rfl
    exact isNext ⟨rfl, better⟩

theorem label_foldl_visit
    (nexts : List V)
    (vertex : V) :
    (nexts.foldl (visit free bound steps) search).label vertex =
      if vertex ∈ nexts ∧ Better free bound steps search vertex then some steps
      else search.label vertex := by
  induction nexts generalizing search with
  | nil =>
      simp
  | cons next rest inductionHypothesis =>
      simp only [List.foldl_cons, inductionHypothesis, better_visit,
        label_visit]
      by_cases isNext : vertex = next
      · subst isNext
        simp
      · simp [isNext]

theorem mem_queue_foldl_visit
    (nexts : List V) :
    entry ∈ (nexts.foldl (visit free bound steps) search).queue ↔
      entry ∈ search.queue ∨
        entry.2 = steps ∧ entry.1 ∈ nexts ∧
          Better free bound steps search entry.1 := by
  induction nexts generalizing search with
  | nil =>
      simp
  | cons next rest inductionHypothesis =>
      rw [List.foldl_cons, inductionHypothesis, mem_queue_visit, better_visit]
      by_cases isNext : entry.1 = next
      · simp [isNext]
      · simp [isNext]

/-! ## The labels are distances -/

theorem mem_label_start
    {vertex : V} :
    steps ∈ (start starts).label vertex ↔ vertex ∈ starts ∧ steps = 0 := by
  rw [start, Option.mem_def, Option.ite_none_right_eq_some, Option.some_inj,
    eq_comm (a := 0)]

omit [DecidablePred free] in
theorem Invariant.start
    (neighbors : V → List V)
    (free : V → Prop)
    (bound : ℤ)
    (starts : List V) :
    Invariant neighbors free bound starts (start starts) := by
  constructor
  case started =>
    intro first isStart
    exact if_pos isStart
  case walked =>
    intro vertex steps isLabel
    obtain ⟨isStart, rfl⟩ := mem_label_start.mp isLabel
    exact ⟨vertex, isStart, .nil⟩
  case queued =>
    intro entry isQueued
    obtain ⟨first, isStart, rfl⟩ := List.mem_map.mp isQueued
    exact ⟨0, if_pos isStart, le_refl 0⟩
  case relaxed =>
    intro vertex steps isLabel notQueued
    obtain ⟨isStart, rfl⟩ := mem_label_start.mp isLabel
    exact absurd (List.mem_map_of_mem isStart) notQueued

theorem label_foldl_visit_le
    (nexts : List V)
    {vertex : V}
    {known : Nat}
    (isLabel : known ∈ search.label vertex) :
    ∃ smaller ∈
        (nexts.foldl (visit free bound steps) search).label vertex,
      smaller ≤ known := by
  rw [label_foldl_visit]
  split
  · case isTrue better =>
    exact ⟨steps, rfl, (better.2.1 known isLabel).le⟩
  · exact ⟨known, isLabel, le_refl known⟩

variable
  {rest : List (V × Nat)}

omit [DecidableEq V] [DecidablePred free] in
theorem Invariant.skip
    (invariant :
      Invariant neighbors free bound starts ⟨search.label, entry :: rest⟩)
    (smaller : ∃ known ∈ search.label entry.1, known < entry.2) :
    Invariant neighbors free bound starts ⟨search.label, rest⟩ where
  started := invariant.started
  walked := invariant.walked
  queued := fun other isQueued =>
    invariant.queued other (List.mem_cons_of_mem _ isQueued)
  relaxed := by
    intro vertex steps isLabel notQueued
    refine invariant.relaxed vertex steps isLabel ?_
    apply List.not_mem_cons_of_ne_of_not_mem _ notQueued
    rintro rfl
    obtain ⟨known, isKnown, less⟩ := smaller
    exact less.ne (Option.mem_unique isKnown isLabel)

section

variable
  (invariant :
    Invariant neighbors free bound starts ⟨search.label, entry :: rest⟩)

include invariant

theorem Invariant.expand
    (isLabel : entry.2 ∈ search.label entry.1) :
    Invariant neighbors free bound starts
      ((neighbors entry.1).foldl (visit free bound (entry.2 + 1))
        ⟨search.label, rest⟩) := by
  have shrinks {vertex : V} {known : Nat}
      (isKnown : known ∈ search.label vertex) :
      ∃ smaller ∈
          ((neighbors entry.1).foldl (visit free bound (entry.2 + 1))
            ⟨search.label, rest⟩).label vertex,
        smaller ≤ known :=
    label_foldl_visit_le (neighbors entry.1) isKnown
  constructor
  case started =>
    intro first isStart
    rw [label_foldl_visit, if_neg]
    · exact invariant.started first isStart
    · rintro ⟨-, improves, -⟩
      exact absurd (improves 0 (invariant.started first isStart))
        (Nat.not_lt_zero _)
  case walked =>
    intro vertex steps isNew
    rw [label_foldl_visit] at isNew
    split at isNew
    · case isTrue better =>
      obtain ⟨first, isStart, walk⟩ := invariant.walked entry.1 entry.2 isLabel
      rw [← Option.mem_some.mp isNew]
      exact ⟨first, isStart, walk.step better.1 better.2.2.2⟩
    · exact invariant.walked vertex steps isNew
  case queued =>
    intro other isQueued
    rcases (mem_queue_foldl_visit _).mp isQueued with
      isOld | ⟨isSteps, isNext, better⟩
    · obtain ⟨known, isKnown, less⟩ :=
        invariant.queued other (List.mem_cons_of_mem _ isOld)
      obtain ⟨smaller, isSmaller, lessThan⟩ := shrinks isKnown
      exact ⟨smaller, isSmaller, lessThan.trans less⟩
    · refine ⟨entry.2 + 1, ?_, isSteps.ge⟩
      rw [label_foldl_visit, if_pos ⟨isNext, better⟩]
      rfl
  case relaxed =>
    intro vertex steps isNew notQueued next isNext isFree within
    by_cases better :
      vertex ∈ neighbors entry.1 ∧
        Better free bound (entry.2 + 1) ⟨search.label, rest⟩ vertex
    · -- a new label is in the queue
      rw [label_foldl_visit, if_pos better] at isNew
      refine absurd ((mem_queue_foldl_visit _).mpr (.inr ⟨?_, better⟩)) notQueued
      exact (Option.mem_some.mp isNew).symm
    · rw [label_foldl_visit, if_neg better] at isNew
      by_cases isEntry : (vertex, steps) = entry
      · subst isEntry
        rw [label_foldl_visit]
        split
        · exact ⟨steps + 1, rfl, le_refl _⟩
        · case isFalse notBetter =>
          apply not_improves.mp
          intro improves
          exact notBetter ⟨isNext, improves, within, isFree⟩
      · have notOld : (vertex, steps) ∉ entry :: rest := by
          apply List.not_mem_cons_of_ne_of_not_mem isEntry
          intro isOld
          exact notQueued ((mem_queue_foldl_visit _).mpr (.inl isOld))
        obtain ⟨known, isKnown, less⟩ :=
          invariant.relaxed vertex steps isNew notOld next isNext isFree within
        obtain ⟨smaller, isSmaller, lessThan⟩ := shrinks isKnown
        exact ⟨smaller, isSmaller, lessThan.trans less⟩

theorem Invariant.pass :
    Invariant neighbors free bound starts
      (pass neighbors free bound entry ⟨search.label, rest⟩) := by
  rw [DistanceLabels.pass]
  split
  · case isTrue smaller =>
    exact invariant.skip smaller
  · case isFalse notSmaller =>
    obtain ⟨known, isKnown, less⟩ :=
      invariant.queued entry (List.mem_cons_self ..)
    have same : known = entry.2 := by
      apply less.antisymm
      apply not_lt.mp
      intro smaller
      exact notSmaller ⟨known, isKnown, smaller⟩
    rw [same] at isKnown
    exact invariant.expand isKnown

end

variable
  {fuel : Nat}
  {label : V → Option Nat}

theorem Invariant.run
    (invariant : Invariant neighbors free bound starts search)
    (isRun : run neighbors free bound fuel search = some label) :
    Invariant neighbors free bound starts ⟨label, []⟩ := by
  induction fuel generalizing search with
  | zero =>
      rw [DistanceLabels.run] at isRun
      split at isRun
      · case isTrue isEmpty =>
        rw [← Option.some.inj isRun, ← isEmpty]
        exact invariant
      · exact nomatch isRun
  | succ fuel inductionHypothesis =>
      obtain ⟨old, queue⟩ := search
      cases queue with
      | nil =>
          rw [← Option.some.inj isRun]
          exact invariant
      | cons entry rest =>
          have ofEntry :
              Invariant neighbors free bound starts
                ⟨(Search.mk old rest).label, entry :: rest⟩ :=
            invariant
          exact inductionHypothesis ofEntry.pass isRun

omit [DecidableEq V] [DecidablePred free] in
theorem Invariant.label_le
    (invariant : Invariant neighbors free bound starts ⟨label, []⟩)
    {first vertex : V}
    (isStart : first ∈ starts)
    (walk : Walk neighbors free first steps vertex)
    (within : (steps : ℤ) ≤ bound) :
    ∃ known ∈ label vertex, known ≤ steps := by
  induction walk with
  | nil =>
      exact ⟨0, invariant.started first isStart, le_refl 0⟩
  | @step steps vertex next walk isNext isFree inductionHypothesis =>
      have before : ((steps + 1 : Nat) : ℤ) ≤ bound := within
      obtain ⟨known, isKnown, less⟩ := inductionHypothesis (by omega)
      obtain ⟨other, isOther, lessThan⟩ :=
        invariant.relaxed vertex known isKnown List.not_mem_nil next isNext
          isFree (by omega)
      exact ⟨other, isOther, lessThan.trans (Nat.succ_le_succ less)⟩

/-- The vertices with a label within the bound are those that as many steps
reach from a start. -/
theorem label_le_iff
    (isRun : run neighbors free bound fuel (start starts) = some label)
    (vertex : V) :
    (∃ known ∈ label vertex, (known : ℤ) ≤ bound) ↔
      ∃ first ∈ starts, ∃ steps : Nat, (steps : ℤ) ≤ bound ∧
        Walk neighbors free first steps vertex := by
  have invariant := (Invariant.start neighbors free bound starts).run isRun
  constructor
  · rintro ⟨known, isKnown, within⟩
    obtain ⟨first, isStart, walk⟩ := invariant.walked vertex known isKnown
    exact ⟨first, isStart, known, within, walk⟩
  · rintro ⟨first, isStart, steps, within, walk⟩
    obtain ⟨known, isKnown, less⟩ := invariant.label_le isStart walk within
    exact ⟨known, isKnown, (Int.ofNat_le.mpr less).trans within⟩

/-! ## The queue becomes empty -/

/-- A missing label counts more than any within the bound. -/
def weight
    (bound : ℤ)
    (label : Option Nat) : Nat :=
  label.getD (bound.toNat + 1)

/-- Every label that gets smaller makes up for the entry that comes with it. -/
def remaining
    (bound : ℤ)
    (cells : Finset V)
    (search : Search V) : Nat :=
  2 * ∑ vertex ∈ cells, weight bound (search.label vertex) +
    search.queue.length

variable
  {cells : Finset V}

theorem remaining_visit_le
    {next : V}
    (isCell : next ∈ cells) :
    remaining bound cells (visit free bound steps search next) ≤
      remaining bound cells search := by
  by_cases better : Better free bound steps search next
  · have lighter :
        weight bound (some steps) < weight bound (search.label next) := by
      cases isLabel : search.label next with
      | none =>
          have within := better.2.1
          simp only [weight, Option.getD_some, Option.getD_none]
          omega
      | some known =>
          exact better.1 known isLabel
    have less :
        ∑ vertex ∈ cells,
            weight bound ((visit free bound steps search next).label vertex) <
          ∑ vertex ∈ cells, weight bound (search.label vertex) := by
      apply Finset.sum_lt_sum
      · intro vertex _
        rw [label_visit]
        split
        · case isTrue isNext =>
          rw [isNext.1]
          exact lighter.le
        · exact le_refl _
      · refine ⟨next, isCell, ?_⟩
        rw [label_visit, if_pos ⟨rfl, better⟩]
        exact lighter
    have longer :
        (visit free bound steps search next).queue.length =
          search.queue.length + 1 := by
      rw [visit, if_pos better, List.length_append, List.length_singleton]
    rw [remaining, remaining, longer]
    omega
  · rw [visit, if_neg better]

theorem remaining_foldl_visit_le
    {nexts : List V}
    (inside : ∀ next ∈ nexts, next ∈ cells) :
    remaining bound cells (nexts.foldl (visit free bound steps) search) ≤
      remaining bound cells search := by
  induction nexts generalizing search with
  | nil =>
      exact le_refl _
  | cons next rest inductionHypothesis =>
      rw [List.forall_mem_cons] at inside
      exact (inductionHypothesis inside.2).trans (remaining_visit_le inside.1)

theorem remaining_pass_le
    (areCells : ∀ vertex, ∀ next ∈ neighbors vertex, next ∈ cells) :
    remaining bound cells (pass neighbors free bound entry search) ≤
      remaining bound cells search := by
  rw [pass]
  split
  · exact le_refl _
  · exact remaining_foldl_visit_le (areCells entry.1)

theorem run_eq_some
    (areCells : ∀ vertex, ∀ next ∈ neighbors vertex, next ∈ cells)
    (enough : remaining bound cells search ≤ fuel) :
    ∃ label, run neighbors free bound fuel search = some label := by
  induction fuel generalizing search with
  | zero =>
      have isEmpty : search.queue = [] := by
        apply List.eq_nil_of_length_eq_zero
        rw [remaining] at enough
        omega
      exact ⟨search.label, if_pos isEmpty⟩
  | succ fuel inductionHypothesis =>
      obtain ⟨old, queue⟩ := search
      cases queue with
      | nil =>
          exact ⟨old, rfl⟩
      | cons entry rest =>
          apply inductionHypothesis
          apply (remaining_pass_le areCells).trans
          simp only [remaining, List.length_cons] at enough ⊢
          omega

theorem run_of_le
    {fuel more : Nat}
    (isRun : run neighbors free bound fuel search = some label)
    (isMore : fuel ≤ more) :
    run neighbors free bound more search = some label := by
  induction fuel generalizing more search with
  | zero =>
      obtain ⟨old, queue⟩ := search
      rw [run] at isRun
      split at isRun
      · case isTrue isEmpty =>
        change queue = [] at isEmpty
        subst isEmpty
        cases more with
        | zero => exact isRun
        | succ more => exact isRun
      · exact nomatch isRun
  | succ fuel inductionHypothesis =>
      obtain ⟨more, rfl⟩ := Nat.exists_eq_add_of_lt isMore
      obtain ⟨old, queue⟩ := search
      cases queue with
      | nil => exact isRun
      | cons entry rest =>
          rw [run] at isRun ⊢
          exact inductionHypothesis isRun (Nat.le_add_right fuel more)

end NavBim.DistanceLabels
