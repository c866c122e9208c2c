import Mathlib

namespace NavBim

/-!
# Searching in rings

The cells around a centre are searched ring by ring, where a ring is the border
of a square.  The search may stop when no cell outside of the square can have a
smaller value; then it finds the smallest value in the largest square.
-/

namespace RingSearch

/-- The offsets of a square in one direction. -/
def offsets
    (radius : Nat) : List Int :=
  (List.range (2 * radius + 1)).map fun (index : Nat) =>
    (index : Int) - (radius : Int)

/-- The border of a square. -/
def ring
    (radius : Nat) : List (Int × Int) :=
  (offsets radius).flatMap fun dx =>
    (offsets radius).filterMap fun dy =>
      if |dx| ≠ (radius : Int) ∧ |dy| ≠ (radius : Int) then
        none
      else
        some (dx, dy)

variable
  {α : Type}
  [LinearOrder α]
  [OrderTop α]

def scanRing
    (value : Int × Int → α)
    (radius : Nat)
    (best : α) : α :=
  (ring radius).foldl (fun best offset => min best (value offset)) best

/-- Search ring after ring and stop early if possible. -/
def search
    (value : Int × Int → α)
    (stop : Nat → α → Bool) :
    (remaining radius : Nat) → (best : α) → α
  | 0, _, best => best
  | remaining + 1, radius, best =>
      let best := scanRing value radius best
      if stop radius best then
        best
      else
        search value stop remaining (radius + 1) best

/-- All offsets of a square. -/
noncomputable def square
    (radius : Nat) : Finset (Int × Int) :=
  Finset.Icc (-(radius : Int)) radius ×ˢ Finset.Icc (-(radius : Int)) radius

/-- The smallest value in a square. -/
noncomputable def closest
    (value : Int × Int → α)
    (radius : Nat) : α :=
  (square radius).inf value

theorem mem_offsets
    {radius : Nat}
    {offset : Int} :
    offset ∈ offsets radius ↔ |offset| ≤ radius := by
  rw [offsets, List.mem_map, abs_le]
  constructor
  · rintro ⟨index, inRange, rfl⟩
    have := List.mem_range.mp inRange
    omega
  · intro inside
    exact ⟨(offset + radius).toNat, List.mem_range.mpr (by omega), by omega⟩

theorem mem_square
    {radius : Nat}
    {offset : Int × Int} :
    offset ∈ square radius ↔ |offset.1| ≤ radius ∧ |offset.2| ≤ radius := by
  rw [square, Finset.mem_product, Finset.mem_Icc, Finset.mem_Icc, abs_le, abs_le]

theorem mem_ring
    {radius : Nat}
    {offset : Int × Int} :
    offset ∈ ring radius ↔
      offset ∈ square radius ∧ (|offset.1| = radius ∨ |offset.2| = radius) := by
  obtain ⟨dx, dy⟩ := offset
  simp only [ring, List.mem_flatMap, List.mem_filterMap, mem_offsets, mem_square]
  constructor
  · rintro ⟨x, xInside, y, yInside, isOffset⟩
    split at isOffset
    · exact nomatch isOffset
    · rename_i onBorder
      obtain ⟨rfl, rfl⟩ := Prod.mk.inj (Option.some.inj isOffset)
      exact ⟨⟨xInside, yInside⟩, by tauto⟩
  · rintro ⟨⟨xInside, yInside⟩, onBorder⟩
    refine ⟨dx, xInside, dy, yInside, if_neg ?_⟩
    tauto

/-- A square is a smaller one and its border. -/
theorem square_succ
    (radius : Nat) :
    square (radius + 1) = square radius ∪ (ring (radius + 1)).toFinset := by
  ext offset
  rw [Finset.mem_union, List.mem_toFinset, mem_ring, mem_square, mem_square]
  omega

theorem square_zero : square 0 = {(0, 0)} := by
  rfl

variable
  {value : Int × Int → α}
  {stop : Nat → α → Bool}

/-- The smallest of some values and one more. -/
theorem foldl_min_eq
    (cells : List (Int × Int))
    (best : α) :
    cells.foldl (fun best offset => min best (value offset)) best =
      min best (cells.toFinset.inf value) := by
  induction cells generalizing best with
  | nil =>
      exact (min_top_right best).symm
  | cons cell rest inductionHypothesis =>
      rw [List.foldl_cons, inductionHypothesis, List.toFinset_cons,
        Finset.inf_insert, min_assoc]

theorem scanRing_closest
    (radius : Nat) :
    scanRing value (radius + 1) (closest value radius) =
      closest value (radius + 1) := by
  rw [scanRing, foldl_min_eq, closest, closest, square_succ, Finset.inf_union]

theorem closest_le_of_le
    {radius larger : Nat}
    (le : radius ≤ larger) :
    closest value larger ≤ closest value radius := by
  refine Finset.inf_mono fun offset inside => ?_
  rw [mem_square] at inside ⊢
  omega

/-- If all values outside of a square are larger, a larger square has the same
smallest value. -/
theorem closest_eq_of_beyond
    {radius larger : Nat}
    (le : radius ≤ larger)
    (beyond : ∀ offset, offset ∉ square radius →
      closest value radius ≤ value offset) :
    closest value larger = closest value radius := by
  refine le_antisymm (closest_le_of_le le) (Finset.le_inf fun offset _ => ?_)
  by_cases inside : offset ∈ square radius
  · exact Finset.inf_le inside
  · exact beyond offset inside

/-- A search that stops only when nothing smaller follows finds the smallest
value. -/
theorem search_eq
    (sound : ∀ radius best, stop radius best = true →
      ∀ offset, offset ∉ square radius → best ≤ value offset)
    (remaining radius : Nat) :
    search value stop remaining (radius + 1) (closest value radius) =
      closest value (radius + remaining) := by
  induction remaining generalizing radius with
  | zero =>
      rfl
  | succ remaining inductionHypothesis =>
      rw [search, scanRing_closest]
      split
      · rename_i stops
        exact (closest_eq_of_beyond (by omega) (sound _ _ stops)).symm
      · rw [inductionHypothesis]
        congr 1
        omega

end RingSearch

end NavBim
