import Mathlib.Tactic

namespace NavBim

/-!
# Digital lines

A digital line goes over `run` columns and rises `total` rows, at most one row
for each column.  Its height in a column is the exact height rounded to a row,
which a loop finds with an error term: the error grows by `total` in each
column, and when it reaches `run` the line rises and the error falls by `run`.
-/

namespace DigitalLine

/-- The rows a line has risen after some columns. -/
def rise
    (run total columns : ℕ) : ℕ :=
  (run / 2 + columns * total) / run

/-- The error term after some columns. -/
def error
    (run total columns : ℕ) : ℕ :=
  (run / 2 + columns * total) % run

variable {run total columns : ℕ}

theorem rise_add_error
    (run total columns : ℕ) :
    run * rise run total columns + error run total columns =
      run / 2 + columns * total :=
  Nat.div_add_mod _ _

theorem error_lt
    (total columns : ℕ)
    (positive : 0 < run) :
    error run total columns < run :=
  Nat.mod_lt _ positive

theorem rise_unique
    {height remainder : ℕ}
    (divides : run * height + remainder = run / 2 + columns * total)
    (small : remainder < run) :
    rise run total columns = height ∧ error run total columns = remainder :=
  (Nat.div_mod_unique (by omega)).mpr
    ⟨(Nat.add_comm _ _).trans divides, small⟩

@[simp] theorem rise_zero
    (run total : ℕ) :
    rise run total 0 = 0 := by
  unfold rise
  rw [Nat.zero_mul, Nat.add_zero]
  cases run with
  | zero => rfl
  | succ run => exact Nat.div_eq_of_lt (by omega)

theorem error_zero
    (positive : 0 < run) :
    error run total 0 = run / 2 := by
  unfold error
  rw [Nat.zero_mul, Nat.add_zero]
  exact Nat.mod_eq_of_lt (by omega)

theorem step_up
    (flat : total ≤ run)
    (positive : 0 < run)
    (reached : run ≤ error run total columns + total) :
    rise run total (columns + 1) = rise run total columns + 1 ∧
      error run total (columns + 1) =
        error run total columns + total - run := by
  have divided := rise_add_error run total columns
  have small := error_lt total columns positive
  apply rise_unique
  · rw [Nat.mul_succ, Nat.succ_mul]
    omega
  · omega

theorem step_along
    (below : error run total columns + total < run) :
    rise run total (columns + 1) = rise run total columns ∧
      error run total (columns + 1) = error run total columns + total := by
  have divided := rise_add_error run total columns
  apply rise_unique
  · rw [Nat.succ_mul]
    omega
  · exact below

/-- A column rises by one row at most. -/
theorem rise_succ
    (flat : total ≤ run)
    (positive : 0 < run)
    (columns : ℕ) :
    rise run total (columns + 1) = rise run total columns ∨
      rise run total (columns + 1) = rise run total columns + 1 := by
  by_cases reached : run ≤ error run total columns + total
  · exact Or.inr (step_up flat positive reached).1
  · exact Or.inl (step_along (by omega)).1

theorem rise_mono
    (run total : ℕ) :
    Monotone (rise run total) := by
  intro first second le
  exact Nat.div_le_div_right
    (Nat.add_le_add_left (Nat.mul_le_mul_right total le) _)

theorem rise_run
    (run total : ℕ)
    (positive : 0 < run) :
    rise run total run = total := by
  unfold rise
  rw [Nat.add_mul_div_left _ _ positive, Nat.div_eq_of_lt (by omega),
    Nat.zero_add]

theorem rise_le
    (flat : total ≤ run)
    (within : columns ≤ run) :
    rise run total columns ≤ total := by
  cases Nat.eq_zero_or_pos run with
  | inl zero =>
      subst zero
      have noColumns : columns = 0 := by omega
      subst noColumns
      rw [rise_zero]
      exact Nat.zero_le _
  | inr positive =>
      calc
        rise run total columns ≤ rise run total run := rise_mono run total within
        _ = total := rise_run run total positive

/-- A line takes every height up to the one it has risen to. -/
theorem rise_reaches
    (columns : ℕ)
    (flat : total ≤ run)
    (positive : 0 < run)
    {height : ℕ}
    (le : height ≤ rise run total columns) :
    ∃ reached ≤ columns, rise run total reached = height := by
  induction columns with
  | zero =>
      rw [rise_zero] at le
      exact ⟨0, le_refl _, (rise_zero _ _).trans (Nat.le_zero.mp le).symm⟩
  | succ columns inductionHypothesis =>
      by_cases earlier : height ≤ rise run total columns
      · obtain ⟨reached, within, isHeight⟩ := inductionHypothesis earlier
        exact ⟨reached, Nat.le_succ_of_le within, isHeight⟩
      · have step := rise_succ flat positive columns
        exact ⟨columns + 1, le_refl _, by omega⟩

/-- The height is the exact height rounded, so at most half a row above it. -/
theorem rise_near
    (run total columns : ℕ) :
    2 * (run * rise run total columns) ≤ 2 * (columns * total) + run := by
  have divided := rise_add_error run total columns
  omega

end DigitalLine

end NavBim
