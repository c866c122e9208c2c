import Mathlib.Data.Finset.Card
import Mathlib.Order.Interval.Finset.Nat
import Mathlib.Logic.Function.Basic
import Mathlib.Tactic

namespace NavBim

/-!
# Forests of labels

Labels are numbers, and each label points to a parent.  A label is a root unless
its parent is smaller, so every path to a root is finite.  Labels with one root
are in one class.

A path is compressed by pointing all its labels to a new root.  This moves a
whole class to that root and leaves the other classes alone.  At the end the
classes are numbered by their roots.
-/

/-- Follow the parents while they are smaller. -/
def rootOf
    (parent : Nat → Nat)
    (label : Nat) : Nat :=
  if parent label < label then
    rootOf parent (parent label)
  else
    label
termination_by label

def IsRoot
    (parent : Nat → Nat)
    (label : Nat) : Prop :=
  ¬ parent label < label

instance (parent : Nat → Nat) : DecidablePred (IsRoot parent) :=
  fun _ => inferInstanceAs (Decidable (¬ _))

/-- Point a label and all above it to a root. -/
def setPath
    (parent : Nat → Nat)
    (label root : Nat) : Nat → Nat :=
  if parent label < label then
    setPath (Function.update parent label root) (parent label) root
  else
    Function.update parent label root
termination_by label

section Roots

variable {parent : Nat → Nat} {label root : Nat}

theorem rootOf_of_lt
    (smaller : parent label < label) :
    rootOf parent label = rootOf parent (parent label) := by
  rw [rootOf, if_pos smaller]

theorem rootOf_of_isRoot
    (isRoot : IsRoot parent label) :
    rootOf parent label = label := by
  rw [rootOf, if_neg isRoot]

theorem rootOf_induction
    (parent : Nat → Nat)
    {property : Nat → Prop}
    (root : ∀ label, IsRoot parent label → property label)
    (step : ∀ label, parent label < label → property (parent label) →
      property label)
    (label : Nat) :
    property label := by
  induction label using Nat.strong_induction_on with
  | h label inductionHypothesis =>
      by_cases smaller : parent label < label
      · exact step label smaller (inductionHypothesis _ smaller)
      · exact root label smaller

theorem isRoot_rootOf
    (parent : Nat → Nat)
    (label : Nat) :
    IsRoot parent (rootOf parent label) := by
  induction label using rootOf_induction parent with
  | root label isRoot => rwa [rootOf_of_isRoot isRoot]
  | step label smaller inductionHypothesis => rwa [rootOf_of_lt smaller]

theorem rootOf_le
    (parent : Nat → Nat)
    (label : Nat) :
    rootOf parent label ≤ label := by
  induction label using rootOf_induction parent with
  | root label isRoot => rw [rootOf_of_isRoot isRoot]
  | step label smaller inductionHypothesis =>
      rw [rootOf_of_lt smaller]
      exact inductionHypothesis.trans smaller.le

theorem rootOf_rootOf
    (parent : Nat → Nat)
    (label : Nat) :
    rootOf parent (rootOf parent label) = rootOf parent label :=
  rootOf_of_isRoot (isRoot_rootOf parent label)

/-- Labels that never point to zero have a root above zero. -/
theorem rootOf_pos
    (positive : ∀ label, 0 < label → 0 < parent label)
    (isPositive : 0 < label) :
    0 < rootOf parent label := by
  induction label using rootOf_induction parent with
  | root label isRoot => rwa [rootOf_of_isRoot isRoot]
  | step label smaller inductionHypothesis =>
      rw [rootOf_of_lt smaller]
      exact inductionHypothesis (positive label isPositive)

theorem rootOf_congr
    {other : Nat → Nat}
    (same : ∀ below ≤ label, other below = parent below) :
    rootOf other label = rootOf parent label := by
  induction label using Nat.strong_induction_on with
  | h label inductionHypothesis =>
      have here := same label le_rfl
      by_cases smaller : parent label < label
      · rw [rootOf_of_lt smaller, rootOf_of_lt (here ▸ smaller), here]
        exact inductionHypothesis _ smaller
          fun below atMost => same below (atMost.trans smaller.le)
      · rw [rootOf_of_isRoot smaller]
        exact rootOf_of_isRoot (by rwa [IsRoot, here])

end Roots

variable
  {first second : Nat}

section Paths

variable {parent : Nat → Nat} {label root other : Nat}

theorem rootOf_update_below
    (below : other < label) :
    rootOf (Function.update parent label root) other =
      rootOf parent other := by
  apply rootOf_congr
  intro last atMost
  exact Function.update_of_ne (atMost.trans_lt below).ne _ _

theorem rootOf_update_self
    (atMost : root ≤ label)
    (isRoot : IsRoot parent root ∨ root = label) :
    rootOf (Function.update parent label root) label = root := by
  rcases atMost.lt_or_eq with smaller | rfl
  · have isOld : IsRoot parent root := isRoot.resolve_right smaller.ne
    have points : Function.update parent label root label = root :=
      Function.update_self _ _ _
    have descends : Function.update parent label root label < label := by
      rwa [points]
    rw [rootOf_of_lt descends, points, rootOf_update_below smaller,
      rootOf_of_isRoot isOld]
  · apply rootOf_of_isRoot
    rw [IsRoot, Function.update_self]
    exact lt_irrefl root

/-- Pointing a label to a root moves what is below it, and only that. -/
theorem rootOf_update
    (atMost : root ≤ label)
    (isRoot : IsRoot parent root ∨ root = label)
    (other : Nat) :
    rootOf (Function.update parent label root) other =
        rootOf parent other ∨
      rootOf (Function.update parent label root) other = root ∧
        rootOf parent other = rootOf parent label := by
  induction other using Nat.strong_induction_on with
  | h other inductionHypothesis =>
      by_cases same : other = label
      · subst same
        exact .inr ⟨rootOf_update_self atMost isRoot, rfl⟩
      · have unchanged :
            Function.update parent label root other = parent other :=
          Function.update_of_ne same _ _
        by_cases smaller : parent other < other
        · rw [rootOf_of_lt smaller, rootOf_of_lt (by rwa [unchanged]),
            unchanged]
          exact inductionHypothesis _ smaller
        · rw [rootOf_of_isRoot smaller,
            rootOf_of_isRoot]
          · exact .inl rfl
          · rwa [IsRoot, unchanged]

/-- A compressed path moves the class of its labels to the new root. -/
theorem rootOf_setPath
    (atMost : root ≤ rootOf parent label)
    (isRoot : IsRoot parent root)
    (other : Nat) :
    rootOf (setPath parent label root) other =
      if rootOf parent other = rootOf parent label then root
      else rootOf parent other := by
  induction label using Nat.strong_induction_on generalizing parent with
  | h label inductionHypothesis =>
      have below : root ≤ label := atMost.trans (rootOf_le parent label)
      have moved := rootOf_update below (.inl isRoot) other
      rw [setPath]
      split
      · case isTrue smaller =>
        have sameClass :
            rootOf (Function.update parent label root) (parent label) =
              rootOf parent label := by
          rw [rootOf_update_below smaller, rootOf_of_lt smaller]
        have rootBelow : root < label :=
          (atMost.trans (rootOf_of_lt smaller).le).trans_lt
            ((rootOf_le _ _).trans_lt smaller)
        have stillRoot : IsRoot (Function.update parent label root) root := by
          rwa [IsRoot, Function.update_of_ne rootBelow.ne]
        rw [inductionHypothesis _ smaller (by rwa [sameClass]) stillRoot,
          sameClass]
        rcases moved with same | ⟨isNew, isClass⟩
        · rw [same]
        · rw [isNew, if_pos isClass]
          exact ite_self root
      · case isFalse isTop =>
        rw [rootOf_of_isRoot isTop]
        rcases moved with same | ⟨isNew, isClass⟩
        · by_cases isClass : rootOf parent other = label
          · -- the label is still a root, so it is the new one
            have kept := isRoot_rootOf (Function.update parent label root) other
            rw [same, isClass, IsRoot, Function.update_self] at kept
            rw [if_pos isClass, same, isClass]
            exact le_antisymm (Nat.not_lt.mp kept) below
          · rw [if_neg isClass, same]
        · rw [rootOf_of_isRoot isTop] at isClass
          rw [if_pos isClass, isNew]

/-- A compressed path only points to where it did before and to the root. -/
theorem setPath_eq_or
    (parent : Nat → Nat)
    (label root other : Nat) :
    setPath parent label root other = parent other ∨
      setPath parent label root other = root := by
  induction label using Nat.strong_induction_on generalizing parent with
  | h label inductionHypothesis =>
      have updated :
          Function.update parent label root other = parent other ∨
            Function.update parent label root other = root := by
        by_cases same : other = label
        · subst same
          exact .inr (Function.update_self _ _ _)
        · exact .inl (Function.update_of_ne same _ _)
      rw [setPath]
      split
      · case isTrue smaller =>
        rcases inductionHypothesis _ smaller
            (Function.update parent label root) with same | isRoot
        · rw [same]
          exact updated
        · exact .inr isRoot
      · exact updated

theorem setPath_of_lt
    (below : other < rootOf parent label) :
    setPath parent label root other = parent other := by
  induction label using Nat.strong_induction_on generalizing parent with
  | h label inductionHypothesis =>
      have apart : other ≠ label :=
        (below.trans_le (rootOf_le parent label)).ne
      rw [setPath]
      split
      · case isTrue smaller =>
        have sameRoot :
            rootOf (Function.update parent label root) (parent label) =
              rootOf parent label := by
          rw [rootOf_update_below smaller, rootOf_of_lt smaller]
        rw [inductionHypothesis _ smaller (by rwa [sameRoot]),
          Function.update_of_ne apart]
      · exact Function.update_of_ne apart _ _

/-- Both classes move to the smaller of their roots. -/
theorem rootOf_setPath_setPath
    (isMin : root = min (rootOf parent first) (rootOf parent second))
    (other : Nat) :
    rootOf (setPath (setPath parent second root) first root) other =
      if rootOf parent other = rootOf parent first ∨
          rootOf parent other = rootOf parent second then
        root
      else
        rootOf parent other := by
  have isRoot : IsRoot parent root := by
    rcases min_choice (rootOf parent first) (rootOf parent second) with
      isFirst | isSecond
    · rw [isMin, isFirst]
      exact isRoot_rootOf parent first
    · rw [isMin, isSecond]
      exact isRoot_rootOf parent second
  have moved (other : Nat) :
      rootOf (setPath parent second root) other =
        if rootOf parent other = rootOf parent second then root
        else rootOf parent other :=
    rootOf_setPath (isMin ▸ min_le_right _ _) isRoot other
  have stillRoot : IsRoot (setPath parent second root) root := by
    have isNew := isRoot_rootOf (setPath parent second root) second
    rwa [moved, if_pos rfl] at isNew
  have atMost : root ≤ rootOf (setPath parent second root) first := by
    rw [moved]
    split
    · exact le_rfl
    · exact isMin ▸ min_le_left _ _
  rw [rootOf_setPath atMost stillRoot, moved, moved]
  by_cases inSecond : rootOf parent other = rootOf parent second
  · simp [inSecond]
  · by_cases together : rootOf parent first = rootOf parent second
    · have isSecond : root = rootOf parent second := by
        rw [isMin, together, min_self]
      simp [inSecond, together]
      intro same
      exact absurd (same.trans isSecond) inSecond
    · simp [inSecond, together]

end Paths

section Classes

variable {parent : Nat → Nat}

/-- The number of roots above zero up to a label. -/
def rootsUpTo
    (parent : Nat → Nat)
    (label : Nat) : Nat :=
  ((Finset.Icc 1 label).filter (IsRoot parent)).card

/-- Classes are numbered by their roots. -/
def classNumber
    (parent : Nat → Nat)
    (label : Nat) : Nat :=
  rootsUpTo parent (rootOf parent label)

theorem rootsUpTo_succ
    (parent : Nat → Nat)
    (label : Nat) :
    rootsUpTo parent (label + 1) =
      rootsUpTo parent label + if IsRoot parent (label + 1) then 1 else 0 := by
  rw [rootsUpTo, rootsUpTo, ← Finset.insert_Icc_right_eq_Icc_add_one (by omega),
    Finset.filter_insert]
  split
  · rw [Finset.card_insert_of_notMem]
    simp
  · rfl

theorem rootsUpTo_mono
    (atMost : first ≤ second) :
    rootsUpTo parent first ≤ rootsUpTo parent second := by
  induction atMost with
  | refl => exact le_rfl
  | step _ inductionHypothesis =>
      rw [rootsUpTo_succ]
      exact inductionHypothesis.trans (Nat.le_add_right _ _)

/-- A root above another label has a greater number. -/
theorem rootsUpTo_lt
    (smaller : first < second)
    (isRoot : IsRoot parent second) :
    rootsUpTo parent first < rootsUpTo parent second := by
  obtain ⟨before, rfl⟩ := Nat.exists_eq_succ_of_ne_zero
    (Nat.ne_zero_of_lt smaller)
  rw [rootsUpTo_succ, if_pos isRoot]
  exact Nat.lt_succ_of_le (rootsUpTo_mono (Nat.le_of_lt_succ smaller))

/-- The numbers tell the classes apart. -/
theorem classNumber_eq_iff
    {first second : Nat} :
    classNumber parent first = classNumber parent second ↔
      rootOf parent first = rootOf parent second := by
  constructor
  · intro same
    obtain smaller | equal | greater :=
      Nat.lt_trichotomy (rootOf parent first) (rootOf parent second)
    · exact absurd same (rootsUpTo_lt smaller (isRoot_rootOf _ _)).ne
    · exact equal
    · exact absurd same (rootsUpTo_lt greater (isRoot_rootOf _ _)).ne'
  · intro same
    rw [classNumber, classNumber, same]

theorem classNumber_of_lt
    {label : Nat}
    (smaller : parent label < label) :
    classNumber parent label = classNumber parent (parent label) := by
  rw [classNumber, rootOf_of_lt smaller, classNumber]

theorem classNumber_of_isRoot
    {label : Nat}
    (isRoot : IsRoot parent label) :
    classNumber parent label = rootsUpTo parent label := by
  rw [classNumber, rootOf_of_isRoot isRoot]

theorem classNumber_le
    (parent : Nat → Nat)
    (label : Nat) :
    classNumber parent label ≤ rootsUpTo parent label :=
  rootsUpTo_mono (rootOf_le parent label)

theorem rootsUpTo_eq_iff
    (parent : Nat → Nat)
    (last : Nat) :
    last ≤ rootsUpTo parent last ↔
      ∀ label, 0 < label → label ≤ last → IsRoot parent label := by
  have card : (Finset.Icc 1 last).card = last := by simp
  constructor
  · intro all label isPositive atMost
    have full : (Finset.Icc 1 last).filter (IsRoot parent) = Finset.Icc 1 last :=
      Finset.eq_of_subset_of_card_le (Finset.filter_subset _ _)
        (card.le.trans all)
    exact (Finset.mem_filter.mp
      (full.symm ▸ Finset.mem_Icc.mpr ⟨isPositive, atMost⟩)).2
  · intro all
    have full :
        (Finset.Icc 1 last).filter (IsRoot parent) = Finset.Icc 1 last := by
      apply Finset.filter_true_of_mem
      intro label member
      obtain ⟨isPositive, atMost⟩ := Finset.mem_Icc.mp member
      exact all label isPositive atMost
    rw [rootsUpTo, full, card]

end Classes

end NavBim
