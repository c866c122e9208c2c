import Mathlib.Data.List.Chain
import Mathlib.Data.List.Pairwise

namespace NavBim.InsertBetween

/-!
# Inserting between neighbours

Some items are inserted between any two neighbours of a list.  The list stays in
the new one, with its ends, and what relates the inserted items of each pair
relates all neighbours.
-/

variable {α : Type}

def insertBetween (between : α → α → List α) : List α → List α
  | [] => []
  | [item] => [item]
  | first :: second :: rest =>
      first :: (between first second ++ insertBetween between (second :: rest))

variable {between : α → α → List α} {R S : α → α → Prop}

theorem head?_insertBetween (items : List α) :
    (insertBetween between items).head? = items.head? := by
  cases items with
  | nil => rfl
  | cons first rest =>
      cases rest with
      | nil => rfl
      | cons second rest => rfl

/-- A list goes on with its second item. -/
theorem insertBetween_cons (first : α) (rest : List α) :
    ∃ more, insertBetween between (first :: rest) = first :: more := by
  cases rest with
  | nil => exact ⟨[], rfl⟩
  | cons second rest => exact ⟨_, rfl⟩

theorem getLast?_insertBetween (items : List α) :
    (insertBetween between items).getLast? = items.getLast? := by
  induction items with
  | nil => rfl
  | cons first rest inductionHypothesis =>
      cases rest with
      | nil => rfl
      | cons second rest =>
          obtain ⟨more, isMore⟩ := insertBetween_cons second rest
          rw [List.getLast?_cons_cons, ← inductionHypothesis, insertBetween,
            isMore, ← List.cons_append, List.getLast?_append_cons]

theorem sublist_insertBetween (items : List α) :
    items.Sublist (insertBetween between items) := by
  induction items with
  | nil => exact List.Sublist.slnil
  | cons first rest inductionHypothesis =>
      cases rest with
      | nil => exact List.Sublist.refl _
      | cons second rest =>
          apply List.Sublist.cons_cons
          exact inductionHypothesis.trans (List.sublist_append_right _ _)

/-- Neighbours are related if this holds between any two old neighbours. -/
theorem isChain_insertBetween
    {items : List α}
    (parts : ∀ first second, S first second →
      (first :: (between first second ++ [second])).IsChain R)
    (chain : items.IsChain S) :
    (insertBetween between items).IsChain R := by
  induction items with
  | nil => exact List.isChain_nil
  | cons first rest inductionHypothesis =>
      cases rest with
      | nil => exact List.isChain_singleton _
      | cons second rest =>
          obtain ⟨related, later⟩ := List.isChain_cons_cons.mp chain
          have goesOn := inductionHypothesis later
          obtain ⟨more, isMore⟩ := @insertBetween_cons _ between second rest
          rw [isMore] at goesOn
          rw [insertBetween, isMore, ← List.cons_append]
          exact List.isChain_split.mpr ⟨parts first second related, goesOn⟩

theorem between_ends
    {items : List α}
    {first last : α}
    (reflexive : ∀ item, R item item)
    (ordered : items.Pairwise R)
    (isFirst : items.head? = some first)
    (isLast : items.getLast? = some last) :
    ∀ item ∈ items, R first item ∧ R item last := by
  intro item isIn
  constructor
  · cases items with
    | nil => cases isIn
    | cons head rest =>
        cases isFirst
        cases List.mem_cons.mp isIn with
        | inl isHead => rw [isHead]; exact reflexive _
        | inr isRest => exact List.rel_of_pairwise_cons ordered isRest
  · obtain ⟨front, rfl⟩ := List.getLast?_eq_some_iff.mp isLast
    cases List.mem_append.mp isIn with
    | inl isFront =>
        exact (List.pairwise_append.mp ordered).2.2 item isFront last
          List.mem_cons_self
    | inr isEnd =>
        rw [List.mem_singleton.mp isEnd]
        exact reflexive _

end NavBim.InsertBetween
