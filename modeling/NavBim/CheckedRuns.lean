import Mathlib.Data.List.Range
import Mathlib.Tactic

namespace NavBim

/-!
# Runs that may fail

What is known of a result and of an error is stated together, so that a loop
carries an invariant and the reason why it can fail at once.
-/

section Results

variable {ε α β : Type}

@[simp] theorem ok_bind
    (result : α)
    (next : α → Except ε β) :
    (Except.ok result >>= next) = next result :=
  rfl

@[simp] theorem error_bind
    (error : ε)
    (next : α → Except ε β) :
    (Except.error error >>= next) = .error error :=
  rfl

/-- A result has one property, or an error has another. -/
def Holds
    (good : α → Prop)
    (bad : ε → Prop) : Except ε α → Prop
  | .ok result => good result
  | .error error => bad error

variable
  {value : Except ε α}

theorem Holds.mono
    {good other : α → Prop}
    {bad : ε → Prop}
    (holds : Holds good bad value)
    (implies : ∀ result, good result → other result) :
    Holds other bad value := by
  cases value with
  | ok result => exact implies result holds
  | error error => exact holds

theorem Holds.bind
    {good : α → Prop}
    {other : β → Prop}
    {bad : ε → Prop}
    {next : α → Except ε β}
    (holds : Holds good bad value)
    (continues : ∀ result, good result → Holds other bad (next result)) :
    Holds other bad (value >>= next) := by
  cases value with
  | ok result => exact continues result holds
  | error error => exact holds

/-- Where no error is possible there is a result. -/
theorem Holds.exists_ok
    {good : α → Prop}
    (holds : Holds good (fun _ => False) value) :
    ∃ result, value = .ok result ∧ good result := by
  cases value with
  | ok result => exact ⟨result, rfl, holds⟩
  | error error => exact holds.elim

/-- What each step of a loop over numbers passes on holds at its end. -/
theorem holds_foldlM_range
    (motive : Nat → α → Prop)
    (bad : ε → Prop)
    (step : α → Nat → Except ε α)
    (count : Nat) :
    ∀ {first : Nat} {state : α}, motive first state →
      (∀ number state, first ≤ number → number < first + count →
        motive number state →
          Holds (motive (number + 1)) bad (step state number)) →
        Holds (motive (first + count)) bad
          ((List.range' first count).foldlM step state) := by
  induction count with
  | zero =>
      intro first state start _
      exact start
  | succ count inductionHypothesis =>
      intro first state start steps
      rw [List.range'_succ, List.foldlM_cons]
      apply (steps first state le_rfl (by omega) start).bind
      intro next nextStart
      have rest := inductionHypothesis nextStart
        fun number state atLeast below => steps number state (by omega)
          (by omega)
      rwa [Nat.add_assoc, Nat.add_comm 1 count] at rest

end Results

end NavBim
