import Mathlib.Data.Finset.Card
import Mathlib.Data.List.ProdSigma
import Mathlib.Data.List.Nodup
import Mathlib.Tactic

namespace NavBim

/-!
# Counting with a limit

Keys are counted in an array of bins, and no bin exceeds a limit.  A bin ends up
with the number of times its key was there, or with the limit.
-/

section Counting

/-- Count a key. -/
def countKey
    (limit : Nat)
    (bins : Array Nat)
    (key : Nat) : Array Nat :=
  bins.modify key fun bin => min (bin + 1) limit

theorem countKeys_getElem?
    (limit : Nat)
    (keys : List Nat)
    (key : Nat)
    {bins : Array Nat}
    (bounded : ∀ bin, bins[key]? = some bin → bin ≤ limit) :
    (keys.foldl (countKey limit) bins)[key]? =
      bins[key]?.map fun bin => min (bin + keys.count key) limit := by
  induction keys generalizing bins with
  | nil =>
      cases found : bins[key]? with
      | none => simp [found]
      | some bin => simp [found, bounded bin found]
  | cons first rest inductionHypothesis =>
      have counted : (countKey limit bins first)[key]? =
          if first = key then bins[key]?.map fun bin => min (bin + 1) limit
          else bins[key]? :=
        Array.getElem?_modify
      have stillBounded :
          ∀ bin, (countKey limit bins first)[key]? = some bin →
            bin ≤ limit := by
        intro bin found
        rw [counted] at found
        split at found
        · obtain ⟨before, -, rfl⟩ := Option.map_eq_some_iff.mp found
          exact min_le_right _ _
        · exact bounded bin found
      rw [List.foldl_cons, inductionHypothesis stillBounded, counted]
      by_cases same : first = key
      · subst same
        rw [if_pos rfl, Option.map_map, List.count_cons_self]
        congr 1
        funext bin
        simp only [Function.comp_apply]
        omega
      · rw [if_neg same, List.count_cons_of_ne same]

/-- Starting with empty bins, the bins hold the numbers. -/
theorem countKeys_replicate
    (limit size : Nat)
    (keys : List Nat)
    {key : Nat}
    (inside : key < size) :
    (keys.foldl (countKey limit) (Array.replicate size 0))[key]? =
      some (min (keys.count key) limit) := by
  have start : (Array.replicate size 0)[key]? = some 0 := by
    simp [inside]
  rw [countKeys_getElem? limit keys key, start, Option.map_some, Nat.zero_add]
  intro bin found
  rw [start] at found
  cases found
  exact Nat.zero_le limit

theorem count_grid
    (rows columns value : Nat)
    (get : Nat × Nat → Nat) :
    ((List.range rows ×ˢ List.range columns).map get).count value =
      ((Finset.range rows ×ˢ Finset.range columns).filter
        fun place => get place = value).card := by
  have places : (List.range rows ×ˢ List.range columns).Nodup :=
    List.nodup_range.product List.nodup_range
  rw [List.count, List.countP_map, List.countP_eq_length_filter,
    ← List.toFinset_card_of_nodup (places.filter _)]
  congr 1
  ext ⟨row, column⟩
  simp [List.mem_product]

end Counting

end NavBim
