import Mathlib.Data.Nat.Init

namespace NavBim

/-!
# Numerals

A numeral over a field of coordinates comes with a proof that it is at least
two.  These are the proofs for the numerals of the model.
-/

theorem atLeastTwo_2 : Nat.AtLeastTwo 2 := ⟨by decide⟩

theorem atLeastTwo_4 : Nat.AtLeastTwo 4 := ⟨by decide⟩

theorem atLeastTwo_5 : Nat.AtLeastTwo 5 := ⟨by decide⟩

theorem atLeastTwo_10 : Nat.AtLeastTwo 10 := ⟨by decide⟩

theorem atLeastTwo_65 : Nat.AtLeastTwo 65 := ⟨by decide⟩

theorem atLeastTwo_100 : Nat.AtLeastTwo 100 := ⟨by decide⟩

theorem atLeastTwo_196 : Nat.AtLeastTwo 196 := ⟨by decide⟩

theorem atLeastTwo_255 : Nat.AtLeastTwo 255 := ⟨by decide⟩

theorem atLeastTwo_1000 : Nat.AtLeastTwo 1000 := ⟨by decide⟩

theorem atLeastTwo_10000 : Nat.AtLeastTwo 10000 := ⟨by decide⟩

end NavBim
