import Mathlib.Order.Lattice
import Mathlib.Tactic

namespace NavBim

/-!
# Closed walks

A walk visits places one after the other, each at some height.  A step passes a
level when the level lies between the heights of its ends.  A walk between both
sides of a level passes it, so a walk that comes back to where it started passes
every level between its lowest and its highest place twice.
-/

namespace ClosedWalk

/-- The steps of a walk. -/
def steps {α : Type} : List α → List (α × α)
  | first :: second :: rest => (first, second) :: steps (second :: rest)
  | _ => []

variable
  {α β : Type}
  [LinearOrder β]
  (height : α → β)
  (level : β)

/-- The level lies between the heights of the ends. -/
def Passes
    (step : α × α) : Prop :=
  height step.1 ≤ level ∧ level ≤ height step.2 ∨
    height step.2 ≤ level ∧ level ≤ height step.1

instance : DecidablePred (Passes height level) :=
  fun step => inferInstanceAs
    (Decidable (height step.1 ≤ level ∧ level ≤ height step.2 ∨
      height step.2 ≤ level ∧ level ≤ height step.1))

theorem steps_append
    (before : List α)
    (place : α)
    (after : List α) :
    steps (before ++ place :: after) =
      steps (before ++ [place]) ++ steps (place :: after) := by
  induction before with
  | nil => rfl
  | cons first before inductionHypothesis =>
      cases before with
      | nil => rfl
      | cons second before =>
          simp only [List.cons_append, steps] at inductionHypothesis ⊢
          rw [inductionHypothesis]

theorem steps_concat
    (first : α)
    (rest : List α)
    (place : α) :
    steps (first :: rest ++ [place]) =
      steps (first :: rest) ++
        [((first :: rest).getLast (List.cons_ne_nil _ _), place)] := by
  induction rest generalizing first with
  | nil => rfl
  | cons second rest inductionHypothesis =>
      simp only [List.cons_append, steps, List.getLast_cons_cons]
        at inductionHypothesis ⊢
      rw [inductionHypothesis]

theorem mem_of_mem_steps
    {walk : List α}
    {step : α × α}
    (isStep : step ∈ steps walk) :
    step.1 ∈ walk ∧ step.2 ∈ walk := by
  induction walk with
  | nil => cases isStep
  | cons first rest inductionHypothesis =>
      cases rest with
      | nil => cases isStep
      | cons second rest =>
          cases List.mem_cons.mp isStep with
          | inl isFirst =>
              subst isFirst
              simp
          | inr later =>
              obtain ⟨start, target⟩ := inductionHypothesis later
              exact ⟨List.mem_cons_of_mem _ start,
                List.mem_cons_of_mem _ target⟩

variable {height level}

/-- A step that does not pass the level stays on its side. -/
theorem Passes.beyond
    {first last : α}
    (passes : Passes height level (first, last))
    {second : α}
    (stays : ¬Passes height level (first, second)) :
    Passes height level (second, last) := by
  unfold Passes at passes stays ⊢
  dsimp only at passes stays ⊢
  cases passes with
  | inl up =>
      cases le_total level (height second) with
      | inl above => exact absurd (Or.inl ⟨up.1, above⟩) stays
      | inr below => exact Or.inl ⟨below, up.2⟩
  | inr down =>
      cases le_total level (height second) with
      | inl above => exact Or.inr ⟨down.1, above⟩
      | inr below => exact absurd (Or.inr ⟨below, down.2⟩) stays

theorem passes_once
    (first last : α)
    (between : List α)
    (passes : Passes height level (first, last)) :
    0 < (steps (first :: (between ++ [last]))).countP
      fun step => decide (Passes height level step) := by
  induction between generalizing first with
  | nil =>
      simp only [List.nil_append, steps, List.countP_cons, List.countP_nil,
        passes, decide_true, if_true]
      omega
  | cons second between inductionHypothesis =>
      simp only [List.cons_append, steps, List.countP_cons]
      by_cases here : Passes height level (first, second)
      · rw [if_pos (decide_eq_true here)]
        omega
      · have later := inductionHypothesis second (passes.beyond here)
        omega

theorem passes_of_at
    {first : α}
    (below : height first ≤ level)
    (above : level ≤ height first)
    (place : α) :
    Passes height level (first, place) := by
  cases le_total (height place) level with
  | inl placeBelow => exact Or.inr ⟨placeBelow, above⟩
  | inr placeAbove => exact Or.inl ⟨below, placeAbove⟩

section

variable
  {first : α}
  {rest : List α}
  (further : rest ≠ [])
  {low high : α}
  (isLow : low ∈ first :: rest)
  (isHigh : high ∈ first :: rest)
  (below : height low ≤ level)
  (above : level ≤ height high)

include further isLow isHigh below above

/-- On a closed walk some place is on the other side of a level than the first
one, or at the level. -/
theorem other_side :
    ∃ place ∈ rest, Passes height level (first, place) := by
  cases le_total (height first) level with
  | inl firstBelow =>
      cases List.mem_cons.mp isHigh with
      | inr inRest => exact ⟨high, inRest, Or.inl ⟨firstBelow, above⟩⟩
      | inl isFirst =>
          subst isFirst
          obtain ⟨place, inRest⟩ := List.exists_mem_of_ne_nil rest further
          exact ⟨place, inRest, passes_of_at firstBelow above place⟩
  | inr firstAbove =>
      cases List.mem_cons.mp isLow with
      | inr inRest => exact ⟨low, inRest, Or.inr ⟨below, firstAbove⟩⟩
      | inl isFirst =>
          subst isFirst
          obtain ⟨place, inRest⟩ := List.exists_mem_of_ne_nil rest further
          exact ⟨place, inRest, passes_of_at below firstAbove place⟩

theorem passes_twice :
    2 ≤ (steps (first :: (rest ++ [first]))).countP
      fun step => decide (Passes height level step) := by
  obtain ⟨place, inRest, passes⟩ :=
    other_side further isLow isHigh below above
  obtain ⟨before, after, rfl⟩ := List.append_of_mem inRest
  have out := passes_once first place before passes
  have back := passes_once place first after passes.symm
  have split : steps (first :: (before ++ place :: after ++ [first])) =
      steps (first :: (before ++ [place])) ++
        steps (place :: (after ++ [first])) := by
    simpa using steps_append (first :: before) place (after ++ [first])
  rw [split, List.countP_append]
  omega

end

end ClosedWalk

end NavBim
