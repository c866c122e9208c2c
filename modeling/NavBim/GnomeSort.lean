import Mathlib.Data.List.Sort
import Mathlib.Tactic

namespace NavBim

/-!
# Sorting by swaps of neighbours

The loop looks at one place of a list and the next.  Where the keys are in order
it goes on by one place; otherwise it swaps the two items and goes back by one
place.  The items up to its place are always in order, and every swap takes away
a pair that is out of order, so the loop ends with a sorted list.
-/

namespace GnomeSort

variable
  {α β : Type}
  [LinearOrder β]
  (key : α → β)

/-- The number of pairs that are out of order. -/
def inversions : List α → ℕ
  | [] => 0
  | first :: rest =>
      rest.countP (fun item => key item < key first) + inversions rest

theorem inversions_swap
    (front rest : List α)
    {first second : α}
    (outOfOrder : key second < key first) :
    inversions key (front ++ second :: first :: rest) <
      inversions key (front ++ first :: second :: rest) := by
  induction front with
  | nil =>
      have inOrder : ¬key first < key second := not_lt_of_gt outOfOrder
      simp only [List.nil_append, inversions, List.countP_cons, outOfOrder,
        inOrder, decide_true, decide_false, if_true, Bool.false_eq_true,
        if_false]
      omega
  | cons item front inductionHypothesis =>
      simp only [List.cons_append, inversions, List.countP_append,
        List.countP_cons]
      omega

/-- Swap the item at a place with the next one. -/
def swapNext
    (items : List α)
    (i : ℕ)
    (inRange : i + 1 < items.length) : List α :=
  (items.set i items[i + 1]).set (i + 1) items[i]

section

variable
  {items : List α}
  {i : ℕ}
  (inRange : i + 1 < items.length)

include inRange

theorem around :
    items = items.take i ++ items[i] :: items[i + 1] :: items.drop (i + 2) := by
  rw [← List.drop_eq_getElem_cons, ← List.drop_eq_getElem_cons,
    List.take_append_drop]

theorem swapNext_eq :
    swapNext items i inRange =
      items.take i ++ items[i + 1] :: items[i] :: items.drop (i + 2) := by
  have frontLength : (items.take i).length = i := by
    rw [List.length_take]
    omega
  have first : items.set i items[i + 1] =
      items.take i ++ items[i + 1] :: items[i + 1] :: items.drop (i + 2) := by
    rw [List.set_eq_take_append_cons_drop, if_pos (by omega),
      List.drop_eq_getElem_cons inRange]
  unfold swapNext
  rw [first, List.set_append_right _ _ (by omega), frontLength,
    Nat.add_sub_cancel_left, List.set_cons_succ, List.set_cons_zero]

theorem inversions_swapNext
    (outOfOrder : key items[i + 1] < key items[i]) :
    inversions key (swapNext items i inRange) < inversions key items := by
  rw [swapNext_eq inRange]
  conv_rhs => rw [around inRange]
  exact inversions_swap key _ _ outOfOrder

end

/-- The loop from a place on. -/
def sortFrom
    (items : List α)
    (i : ℕ) : List α :=
  if inRange : i + 1 < items.length then
    if key items[i + 1] < key items[i] then
      sortFrom (swapNext items i inRange) (i - 1)
    else
      sortFrom items (i + 1)
  else
    items
termination_by (inversions key items, items.length - i)
decreasing_by
  · next outOfOrder =>
      exact Prod.Lex.left _ _ (inversions_swapNext key inRange outOfOrder)
  · exact Prod.Lex.right _ (by omega)

theorem swapNext_perm
    {items : List α}
    {i : ℕ}
    (inRange : i + 1 < items.length) :
    (swapNext items i inRange).Perm items := by
  rw [swapNext_eq inRange]
  conv_rhs => rw [around inRange]
  exact (List.Perm.swap _ _ _).append_left _

theorem sortFrom_perm
    (items : List α)
    (i : ℕ) :
    (sortFrom key items i).Perm items := by
  induction items, i using sortFrom.induct key with
  | case1 items i inRange outOfOrder inductionHypothesis =>
      rw [sortFrom, dif_pos inRange, if_pos outOfOrder]
      exact inductionHypothesis.trans (swapNext_perm inRange)
  | case2 items i inRange inOrder inductionHypothesis =>
      rw [sortFrom, dif_pos inRange, if_neg inOrder]
      exact inductionHypothesis
  | case3 items i atEnd =>
      rw [sortFrom, dif_neg atEnd]

/-- The items up to a place are in order. -/
def SortedTo
    (items : List α)
    (i : ℕ) : Prop :=
  (items.take (i + 1)).Pairwise fun first second => key first ≤ key second

variable
  {key}
  {items : List α}
  {i : ℕ}

variable (key) in
theorem sortedTo_zero
    (items : List α) :
    SortedTo key items 0 := by
  cases items with
  | nil => exact List.Pairwise.nil
  | cons first rest => exact List.pairwise_singleton _ _

theorem SortedTo.forward
    (sorted : SortedTo key items i)
    (inRange : i + 1 < items.length)
    (inOrder : ¬key items[i + 1] < key items[i]) :
    SortedTo key items (i + 1) := by
  unfold SortedTo at sorted ⊢
  rw [List.take_succ_eq_append_getElem inRange, List.pairwise_append]
  refine ⟨sorted, List.pairwise_singleton _ _, ?_⟩
  intro item isItem last isLast
  cases List.mem_singleton.mp isLast
  apply le_trans _ (not_lt.mp inOrder)
  rw [List.take_succ_eq_append_getElem (Nat.lt_of_succ_lt inRange)]
    at sorted isItem
  cases List.mem_append.mp isItem with
  | inl before =>
      exact (List.pairwise_append.mp sorted).2.2 item before _
        (List.mem_singleton_self _)
  | inr isPlace =>
      cases List.mem_singleton.mp isPlace
      exact le_refl _

theorem SortedTo.back
    (sorted : SortedTo key items i)
    (inRange : i + 1 < items.length) :
    SortedTo key (swapNext items i inRange) (i - 1) := by
  cases i with
  | zero => exact sortedTo_zero key _
  | succ i =>
      unfold SortedTo at sorted ⊢
      have frontLength : (items.take (i + 1)).length = i + 1 := by
        rw [List.length_take]
        omega
      rw [swapNext_eq inRange, Nat.add_sub_cancel, List.take_append_of_le_length
        (by omega), List.take_take]
      exact sorted.sublist (List.take_sublist_take_left (by omega))

/-- From a place up to which the items are in order, the loop sorts the list. -/
theorem sortFrom_sorted
    (sorted : SortedTo key items i) :
    (sortFrom key items i).Pairwise fun first second =>
      key first ≤ key second := by
  induction items, i using sortFrom.induct key with
  | case1 items i inRange outOfOrder inductionHypothesis =>
      rw [sortFrom, dif_pos inRange, if_pos outOfOrder]
      exact inductionHypothesis (sorted.back inRange)
  | case2 items i inRange inOrder inductionHypothesis =>
      rw [sortFrom, dif_pos inRange, if_neg inOrder]
      exact inductionHypothesis (sorted.forward inRange inOrder)
  | case3 items i atEnd =>
      rw [sortFrom, dif_neg atEnd]
      unfold SortedTo at sorted
      rwa [List.take_of_length_le (by omega)] at sorted

/-! ## Groups of a sorted list -/

section Groups

variable {items : List α}

theorem least_group
    {level : β}
    (sorted : items.Pairwise fun first second => key first ≤ key second)
    (atLeast : ∀ item ∈ items, level ≤ key item) :
    items = items.filter (fun item => key item = level) ++
      items.filter (fun item => level < key item) := by
  induction items with
  | nil => rfl
  | cons first rest inductionHypothesis =>
      have firstLeast := atLeast first List.mem_cons_self
      obtain ⟨firstLe, restSorted⟩ := List.pairwise_cons.mp sorted
      have restSplit := inductionHypothesis restSorted fun item isItem =>
        atLeast item (List.mem_cons_of_mem _ isItem)
      by_cases atLevel : key first = level
      · have notAbove : ¬level < key first := not_lt_of_ge atLevel.le
        rw [List.filter_cons_of_pos (by simpa using atLevel),
          List.filter_cons_of_neg (by simpa using notAbove), List.cons_append,
          ← restSplit]
      · have above : level < key first :=
          lt_of_le_of_ne firstLeast (Ne.symm atLevel)
        have noneAtLevel : rest.filter (fun item => key item = level) = [] := by
          rw [List.filter_eq_nil_iff]
          intro item isItem
          simpa using (above.trans_le (firstLe item isItem)).ne'
        rw [noneAtLevel, List.nil_append] at restSplit
        rw [List.filter_cons_of_neg (by simpa using atLevel),
          List.filter_cons_of_pos (by simpa using above), noneAtLevel,
          List.nil_append, ← restSplit]

theorem flatten_groups
    {items : List α}
    {key : α → ℕ}
    (count level : ℕ)
    (sorted : items.Pairwise fun first second => key first ≤ key second)
    (atLeast : ∀ item ∈ items, level ≤ key item)
    (below : ∀ item ∈ items, key item < level + count) :
    (List.range' level count).flatMap
        (fun k => items.filter fun item => key item = k) = items := by
  induction count generalizing level items with
  | zero =>
      cases items with
      | nil => rfl
      | cons first rest =>
          have first := below first List.mem_cons_self
          have firstLeast := atLeast _ (List.mem_cons_self (l := rest))
          omega
  | succ count inductionHypothesis =>
      have split := least_group sorted atLeast
      have aboveGroups : (List.range' (level + 1) count).flatMap
          (fun k => (items.filter fun item => level < key item).filter
            fun item => key item = k) =
          items.filter fun item => level < key item := by
        apply inductionHypothesis
        · exact sorted.sublist List.filter_sublist
        · intro item isItem
          have above := (List.mem_filter.mp isItem).2
          simpa using above
        · intro item isItem
          have itemBelow := below item (List.mem_filter.mp isItem).1
          omega
      rw [List.range'_succ, List.flatMap_cons]
      conv_rhs => rw [split]
      congr 1
      rw [← aboveGroups]
      apply List.flatMap_congr
      intro k inRange
      have above := (List.mem_range'_1.mp inRange).1
      rw [List.filter_filter]
      apply List.filter_congr
      intro item _
      by_cases atLevel : key item = k
      · have aboveLevel : level < key item := by omega
        simp [atLevel, atLevel ▸ aboveLevel]
      · simp [atLevel]

end Groups

end GnomeSort

end NavBim
