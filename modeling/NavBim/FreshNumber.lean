import Mathlib.Data.Finset.Card
import Mathlib.Tactic
import Std.Data.String.ToNat

namespace NavBim

/-!
# The first number that is free

Candidates are numbered, and a search counts up until a candidate is not taken.
Different numbers give different candidates, so one of any `taken.length + 1`
of them is free.
-/

section Search

variable
  {Name : Type}
  [DecidableEq Name]
  {candidate : Nat → Name}
  {taken : List Name}

/-- Count up while the candidate is taken, `fuel` times at most. -/
def firstFree
    (candidate : Nat → Name)
    (taken : List Name) : Nat → Nat → Nat
  | 0, counter => counter
  | fuel + 1, counter =>
      if candidate counter ∈ taken then
        firstFree candidate taken fuel (counter + 1)
      else
        counter

/-- A search that ends at a taken candidate has only seen taken ones. -/
theorem taken_of_firstFree_taken
    {fuel : Nat} :
    ∀ {counter : Nat},
      candidate (firstFree candidate taken fuel counter) ∈ taken →
        ∀ offset < fuel, candidate (counter + offset) ∈ taken := by
  induction fuel with
  | zero =>
      intro counter _ offset below
      exact absurd below (Nat.not_lt_zero offset)
  | succ fuel inductionHypothesis =>
      intro counter isTaken offset below
      rw [firstFree] at isTaken
      split at isTaken
      · case isTrue current =>
        cases offset with
        | zero => exact current
        | succ offset =>
            have later := inductionHypothesis isTaken offset
              (Nat.lt_of_succ_lt_succ below)
            rwa [Nat.add_right_comm] at later
      · case isFalse current => exact absurd isTaken current

theorem firstFree_not_taken
    (different : Function.Injective candidate)
    {fuel : Nat}
    (enough : taken.length < fuel)
    (counter : Nat) :
    candidate (firstFree candidate taken fuel counter) ∉ taken := by
  intro isTaken
  have all := taken_of_firstFree_taken isTaken
  have crowded :
      (Finset.range fuel).card ≤ taken.toFinset.card := by
    apply Finset.card_le_card_of_injOn (fun offset => candidate (counter + offset))
    · intro offset below
      exact List.mem_toFinset.mpr (all offset (Finset.mem_range.mp below))
    · intro first _ second _ same
      exact Nat.add_left_cancel (different same)
  rw [Finset.card_range] at crowded
  exact absurd (crowded.trans taken.toFinset_card_le) (Nat.not_le.mpr enough)

end Search

/-- A name with a number at its end. -/
def numbered
    (name : String)
    (counter : Nat) : String :=
  name ++ "_" ++ toString counter

/-- The number can be read off the name again. -/
theorem numbered_injective
    (name : String) :
    Function.Injective (numbered name) := by
  intro first second same
  have digits : toString first = toString second :=
    String.append_right_inj (name ++ "_") |>.mp same
  exact Nat.repr_injective digits

end NavBim
