import Mathlib

namespace NavBim

/-!
# Entries sorted by key

A map is a list of entries with increasing keys.  Assigning to a key replaces
its entry if there is one, so that entries assigned one after the other come
back in the order of their keys.
-/

namespace SortedEntries

variable {Key Value : Type*} [LinearOrder Key]

/-- Assign a value to a key. -/
def assign
    (key : Key)
    (value : Value) : List (Key × Value) → List (Key × Value)
  | [] => [(key, value)]
  | entry :: rest =>
      if key < entry.1 then
        (key, value) :: entry :: rest
      else if key = entry.1 then
        (key, value) :: rest
      else
        entry :: assign key value rest

/-- The map after assignments, one after the other. -/
def ofEntries
    (entries : List (Key × Value)) : List (Key × Value) :=
  entries.foldl (fun map entry => assign entry.1 entry.2 map) []

/-- Keys increase from each entry to the next. -/
def Increasing
    (entries : List (Key × Value)) : Prop :=
  entries.Pairwise fun first second => first.1 < second.1

variable {key : Key} {value : Value} {entries : List (Key × Value)}

theorem mem_of_mem_assign
    {entry : Key × Value}
    (member : entry ∈ assign key value entries) :
    entry = (key, value) ∨ entry ∈ entries := by
  induction entries with
  | nil =>
      exact Or.inl (List.mem_singleton.mp member)
  | cons first rest inductionHypothesis =>
      rw [assign] at member
      split at member
      · exact List.mem_cons.mp member
      · split at member
        · cases List.mem_cons.mp member with
          | inl isNew =>
              exact Or.inl isNew
          | inr inRest =>
              exact Or.inr (List.mem_cons_of_mem _ inRest)
        · cases List.mem_cons.mp member with
          | inl isFirst =>
              rw [isFirst]
              exact Or.inr List.mem_cons_self
          | inr inRest =>
              exact (inductionHypothesis inRest).imp_right
                (List.mem_cons_of_mem _)

theorem Increasing.assign
    (increasing : Increasing entries)
    (key : Key)
    (value : Value) :
    Increasing (SortedEntries.assign key value entries) := by
  induction entries with
  | nil =>
      exact List.pairwise_singleton _ _
  | cons first rest inductionHypothesis =>
      obtain ⟨above, restIncreasing⟩ := List.pairwise_cons.mp increasing
      rw [SortedEntries.assign]
      split
      · rename_i below
        refine List.pairwise_cons.mpr ⟨?_, increasing⟩
        intro entry member
        cases List.mem_cons.mp member with
        | inl isFirst =>
            rw [isFirst]
            exact below
        | inr inRest =>
            exact below.trans (above entry inRest)
      · split
        · rename_i same
          refine List.pairwise_cons.mpr ⟨?_, restIncreasing⟩
          intro entry member
          rw [same]
          exact above entry member
        · rename_i notBelow other
          refine List.pairwise_cons.mpr
            ⟨?_, inductionHypothesis restIncreasing⟩
          intro entry member
          cases mem_of_mem_assign member with
          | inl isNew =>
              rw [isNew]
              exact lt_of_le_of_ne (not_lt.mp notBelow) (Ne.symm other)
          | inr inRest =>
              exact above entry inRest

/-- A key above all others is added at the end. -/
theorem assign_of_above
    (above : ∀ entry ∈ entries, entry.1 < key) :
    assign key value entries = entries ++ [(key, value)] := by
  induction entries with
  | nil =>
      rfl
  | cons first rest inductionHypothesis =>
      have afterFirst := above first List.mem_cons_self
      rw [assign, if_neg afterFirst.not_gt, if_neg afterFirst.ne',
        inductionHypothesis fun entry member =>
          above entry (List.mem_cons_of_mem _ member)]
      rfl

theorem ofEntries_append
    (entries : List (Key × Value))
    (last : Key × Value) :
    ofEntries (entries ++ [last]) =
      assign last.1 last.2 (ofEntries entries) := by
  rw [ofEntries, List.foldl_append]
  rfl

theorem increasing_ofEntries
    (entries : List (Key × Value)) :
    Increasing (ofEntries entries) := by
  induction entries using List.reverseRecOn with
  | nil =>
      exact List.Pairwise.nil
  | append_singleton entries last inductionHypothesis =>
      rw [ofEntries_append]
      exact inductionHypothesis.assign last.1 last.2

theorem mem_of_mem_ofEntries
    {entry : Key × Value}
    (member : entry ∈ ofEntries entries) :
    entry ∈ entries := by
  induction entries using List.reverseRecOn with
  | nil =>
      exact member
  | append_singleton entries last inductionHypothesis =>
      rw [ofEntries_append] at member
      rw [List.mem_append]
      cases mem_of_mem_assign member with
      | inl isLast =>
          exact Or.inr (List.mem_singleton.mpr isLast)
      | inr earlier =>
          exact Or.inl (inductionHypothesis earlier)

/-- Entries whose keys increase already stay as they are. -/
theorem ofEntries_of_increasing
    (increasing : Increasing entries) :
    ofEntries entries = entries := by
  induction entries using List.reverseRecOn with
  | nil =>
      rfl
  | append_singleton entries last inductionHypothesis =>
      obtain ⟨earlier, -, above⟩ := List.pairwise_append.mp increasing
      rw [ofEntries_append, inductionHypothesis earlier]
      exact assign_of_above fun entry member =>
        above entry member last (List.mem_singleton_self last)

end SortedEntries

end NavBim
