import NavBim.LabelForest
import NavBim.PixelGroups

namespace NavBim

/-!
# Trees of equivalent labels

While an image is scanned its pixels get provisional labels.  Labels that turn
out to belong together are united in trees, whose roots are the smallest labels.
Label 0 stands for the background.  After the scan the trees are flattened to a
table with the final label of each provisional one.

The number of labels is limited, by the type of the labels and by an estimate
from the size of the image.
-/

/-- What ends the work on an image.  A read out of bounds has no meaning. -/
inductive ScanError where
  | labelOverflow
  | outOfBounds
  | logicError (what : String)
  deriving Repr, DecidableEq

structure EquivalenceLabelTrees where
  labels : Array Nat
  labelsSize : Nat
  nextFree : Nat

/-- The memory of a vector after it was cut to a size. -/
structure LabelsMap where
  table : Array Nat
  size : Nat

namespace LabelsMap

/-- The label at a place of the vector. -/
def lookup
    (map : LabelsMap)
    (label : Nat) : Option Nat :=
  if label < map.size then map.table[label]? else none

/-- The label at a place of the memory, cut off or not. -/
def lookupInMemory
    (map : LabelsMap)
    (label : Nat) : Option Nat :=
  map.table[label]?

end LabelsMap

namespace EquivalenceLabelTrees

variable
  (labelMax rows columns : Nat)

section Model

/-- The upper bound for the number of labels, `labelMax` being the greatest one
that the type of the labels has. -/
def maxLabels
    (connectivity : ConnectivityType) : Nat :=
  let maxLabels :=
    match connectivity with
    | .way4 => rows * columns / 2 + 1
    | .way8 => rows * columns / 3 + 1
  min (maxLabels + 1) labelMax

def reset
    (connectivity : ConnectivityType) : EquivalenceLabelTrees where
  labels := #[0]
  labelsSize := min (maxLabels labelMax rows columns connectivity) labelMax
  nextFree := 1

def makeLabel
    (trees : EquivalenceLabelTrees) :
    Except ScanError (Nat × EquivalenceLabelTrees) :=
  if trees.nextFree = trees.labelsSize then
    .error .labelOverflow
  else
    .ok (trees.nextFree, {
      trees with
      labels := trees.labels.push trees.nextFree
      nextFree := trees.nextFree + 1
    })

/-- The parent of a label. -/
def parentIn
    (labels : Array Nat)
    (label : Nat) : Nat :=
  labels.getD label label

def parent
    (trees : EquivalenceLabelTrees) : Nat → Nat :=
  parentIn trees.labels

variable
  (trees : EquivalenceLabelTrees)

def findRoot
    (i : Nat) : Nat :=
  rootOf trees.parent i

def setRootIn
    (labels : Array Nat)
    (i root : Nat) : Array Nat :=
  if parentIn labels i < i then
    setRootIn (labels.setIfInBounds i root) (parentIn labels i) root
  else
    labels.setIfInBounds i root
termination_by i

def setRoot
    (i root : Nat) : EquivalenceLabelTrees :=
  { trees with labels := setRootIn trees.labels i root }

def unionTrees
    (i j : Nat) : Nat × EquivalenceLabelTrees :=
  let root := trees.findRoot i
  if i ≠ j then
    let root := min root (trees.findRoot j)
    (root, (trees.setRoot j root).setRoot i root)
  else
    (root, trees.setRoot i root)

/-- Flatten one label.  The labels before it are flat. -/
def flattenLabel
    (state : Array Nat × Nat)
    (i : Nat) : Array Nat × Nat :=
  let (labels, k) := state
  if parentIn labels i < i then
    (labels.setIfInBounds i (parentIn labels (parentIn labels i)), k)
  else
    (labels.setIfInBounds i k, k + 1)

/-- The flattened table.  It is cut to the number of final labels. -/
def getLabels
    (trees : EquivalenceLabelTrees) : LabelsMap :=
  let (labels, k) :=
    (List.range' 1 (trees.nextFree - 1)).foldl flattenLabel (trees.labels, 1)
  { table := labels, size := k }

end Model

section Trees

/-- Labels have parents above zero, apart from zero itself. -/
structure WellFormed
    (trees : EquivalenceLabelTrees) : Prop where
  size : trees.labels.size = trees.nextFree
  started : 0 < trees.nextFree
  background : trees.parent 0 = 0
  positive : ∀ label, 0 < label → 0 < trees.parent label

theorem reset_wellFormed
    (connectivity : ConnectivityType) :
    (reset labelMax rows columns connectivity).WellFormed where
  size := rfl
  started := Nat.one_pos
  background := rfl
  positive := by
    intro label isPositive
    have absent : ¬ label < 1 := Nat.not_lt.mpr isPositive
    simp [parent, parentIn, reset, absent, isPositive]

theorem parentIn_set
    {labels : Array Nat}
    {i : Nat}
    (inside : i < labels.size)
    (value : Nat) :
    parentIn (labels.setIfInBounds i value) =
      Function.update (parentIn labels) i value := by
  funext other
  by_cases same : other = i
  · subst same
    rw [Function.update_self]
    simp [parentIn, inside]
  · rw [Function.update_of_ne same]
    have apart : i ≠ other := fun equal => same equal.symm
    simp [parentIn, Array.getD_eq_getD_getElem?, apart]

theorem parentIn_push
    {labels : Array Nat}
    (label : Nat) :
    parentIn (labels.push labels.size) label = parentIn labels label := by
  rw [parentIn, parentIn, Array.getD_eq_getD_getElem?,
    Array.getD_eq_getD_getElem?, Array.getElem?_push]
  split
  · case isTrue isNew =>
    subst isNew
    simp
  · rfl

theorem setRootIn_spec
    (root i : Nat) :
    ∀ {labels : Array Nat}, i < labels.size →
      (setRootIn labels i root).size = labels.size ∧
        parentIn (setRootIn labels i root) =
          setPath (parentIn labels) i root := by
  induction i using Nat.strong_induction_on with
  | h i inductionHypothesis =>
      intro labels inside
      rw [setRootIn, setPath]
      split
      · case isTrue smaller =>
        have nextInside :
            parentIn labels i < (labels.setIfInBounds i root).size := by
          rw [Array.size_setIfInBounds]
          exact smaller.trans inside
        obtain ⟨size, parents⟩ := inductionHypothesis _ smaller nextInside
        rw [parentIn_set inside] at parents
        exact ⟨size.trans (Array.size_setIfInBounds ..), parents⟩
      · exact ⟨Array.size_setIfInBounds .., parentIn_set inside root⟩

theorem WellFormed.setRoot
    {trees : EquivalenceLabelTrees}
    (wellFormed : trees.WellFormed)
    {i root : Nat}
    (isPositive : 0 < i)
    (inside : i < trees.nextFree)
    (rootPositive : 0 < root) :
    (trees.setRoot i root).WellFormed ∧
      (trees.setRoot i root).parent = setPath trees.parent i root := by
  obtain ⟨size, parents⟩ :=
    setRootIn_spec root i (inside.trans_eq wellFormed.size.symm)
  have isParent : (trees.setRoot i root).parent =
      setPath trees.parent i root := parents
  refine ⟨?_, isParent⟩
  refine {
    size := size.trans wellFormed.size
    started := wellFormed.started
    background := ?_
    positive := ?_
  }
  · rw [isParent, setPath_of_lt (rootOf_pos wellFormed.positive isPositive)]
    exact wellFormed.background
  · intro label labelPositive
    rw [isParent]
    rcases setPath_eq_or trees.parent i root label with same | isRoot
    · rw [same]
      exact wellFormed.positive label labelPositive
    · rw [isRoot]
      exact rootPositive

/-- What uniting two trees does. -/
structure United
    (before after : EquivalenceLabelTrees)
    (i j root : Nat) : Prop where
  wellFormed : after.WellFormed
  nextFree : after.nextFree = before.nextFree
  labelsSize : after.labelsSize = before.labelsSize
  rootPositive : 0 < root
  rootInside : root < before.nextFree
  isMin : root = min (rootOf before.parent i) (rootOf before.parent j)
  roots : ∀ label, rootOf after.parent label =
    if rootOf before.parent label = rootOf before.parent i ∨
        rootOf before.parent label = rootOf before.parent j then
      root
    else
      rootOf before.parent label

theorem United.isRoot
    {before after : EquivalenceLabelTrees}
    {i j root : Nat}
    (united : United before after i j root) :
    rootOf after.parent root = root := by
  have isRoot := rootOf_rootOf after.parent i
  rwa [united.roots i, if_pos (.inl rfl)] at isRoot

theorem United.together_iff
    {before after : EquivalenceLabelTrees}
    {i j root first second : Nat}
    (united : United before after i j root) :
    rootOf after.parent first = rootOf after.parent second ↔
      rootOf before.parent first = rootOf before.parent second ∨
        (rootOf before.parent first = rootOf before.parent i ∨
          rootOf before.parent first = rootOf before.parent j) ∧
        (rootOf before.parent second = rootOf before.parent i ∨
          rootOf before.parent second = rootOf before.parent j) := by
  have isOld : root = rootOf before.parent i ∨
      root = rootOf before.parent j := by
    rw [united.isMin]
    exact min_choice _ _
  rw [united.roots, united.roots]
  by_cases firstIn : rootOf before.parent first = rootOf before.parent i ∨
      rootOf before.parent first = rootOf before.parent j
  · by_cases secondIn : rootOf before.parent second = rootOf before.parent i ∨
        rootOf before.parent second = rootOf before.parent j
    · simp [firstIn, secondIn]
    · rw [if_pos firstIn, if_neg secondIn]
      constructor
      · intro same
        exact absurd (same ▸ isOld) secondIn
      · rintro (same | both)
        · exact absurd (same ▸ firstIn) secondIn
        · exact absurd both.2 secondIn
  · rw [if_neg firstIn]
    split
    · case isTrue secondIn =>
      constructor
      · intro same
        exact absurd (same ▸ isOld) firstIn
      · rintro (same | both)
        · exact absurd (same ▸ secondIn) firstIn
        · exact absurd both.1 firstIn
    · constructor
      · exact .inl
      · rintro (same | both)
        · exact same
        · exact absurd both.1 firstIn

/-- Uniting two trees gives both classes the smaller root. -/
theorem unionTrees_united
    {trees : EquivalenceLabelTrees}
    (wellFormed : trees.WellFormed)
    {i j : Nat}
    (iPositive : 0 < i)
    (iInside : i < trees.nextFree)
    (jPositive : 0 < j)
    (jInside : j < trees.nextFree) :
    United trees (trees.unionTrees i j).2 i j (trees.unionTrees i j).1 := by
  have iRoot := rootOf_pos wellFormed.positive iPositive
  have jRoot := rootOf_pos wellFormed.positive jPositive
  rw [unionTrees]
  by_cases same : i = j
  · subst same
    rw [if_neg (not_not_intro rfl)]
    obtain ⟨kept, parents⟩ := wellFormed.setRoot iPositive iInside iRoot
    refine ⟨kept, rfl, rfl, iRoot, (rootOf_le _ _).trans_lt iInside,
      (min_self _).symm, ?_⟩
    intro label
    show rootOf (trees.setRoot i (rootOf trees.parent i)).parent label = _
    rw [parents, rootOf_setPath le_rfl (isRoot_rootOf _ _)]
    simp only [or_self]
    rfl
  · rw [if_pos same]
    have rootPositive :
        0 < min (trees.findRoot i) (trees.findRoot j) :=
      lt_min iRoot jRoot
    obtain ⟨first, firstParents⟩ :=
      wellFormed.setRoot jPositive jInside rootPositive
    obtain ⟨second, secondParents⟩ :=
      first.setRoot iPositive iInside rootPositive
    refine ⟨second, rfl, rfl, rootPositive,
      (min_le_left _ _).trans_lt ((rootOf_le _ _).trans_lt iInside), rfl, ?_⟩
    intro label
    rw [secondParents, firstParents]
    exact rootOf_setPath_setPath rfl label

/-- Making a label adds a tree of its own. -/
theorem makeLabel_spec
    {trees after : EquivalenceLabelTrees}
    {label : Nat}
    (wellFormed : trees.WellFormed)
    (made : trees.makeLabel = .ok (label, after)) :
    after.WellFormed ∧ label = trees.nextFree ∧
      after.nextFree = trees.nextFree + 1 ∧
      after.labelsSize = trees.labelsSize ∧
      after.parent = trees.parent ∧ trees.nextFree ≠ trees.labelsSize := by
  rw [makeLabel] at made
  split at made
  · cases made
  · case isFalse room =>
    cases made
    have sameParent :
        parentIn (trees.labels.push trees.nextFree) = trees.parent := by
      funext label
      rw [← wellFormed.size]
      exact parentIn_push label
    refine ⟨?_, rfl, rfl, rfl, sameParent, room⟩
    refine {
      size := ?_
      started := Nat.succ_pos _
      background := ?_
      positive := ?_
    }
    · rw [Array.size_push, wellFormed.size]
    · exact (congrFun sameParent 0).trans wellFormed.background
    · intro label isPositive
      exact (wellFormed.positive label isPositive).trans_eq
        (congrFun sameParent label).symm

/-- While the table is flattened, the labels before `i` have the numbers of
their classes, and the others still have their parents. -/
theorem flatten_upTo
    (parent : Nat → Nat)
    (i : Nat) :
    ∀ {labels : Array Nat}, i < labels.size → parentIn labels = parent →
      parent 0 = 0 →
        ∃ flat : Array Nat,
          (List.range' 1 i).foldl flattenLabel (labels, 1) =
            (flat, rootsUpTo parent i + 1) ∧
          flat.size = labels.size ∧
          ∀ label, parentIn flat label =
            if label ≤ i then classNumber parent label else parent label := by
  induction i with
  | zero =>
      intro labels inside isParent background
      refine ⟨labels, rfl, rfl, ?_⟩
      intro label
      rw [isParent]
      split
      · case isTrue isZero =>
        obtain rfl := Nat.le_zero.mp isZero
        rw [background, classNumber, rootOf_of_isRoot (Nat.not_lt_zero _)]
        rfl
      · rfl
  | succ i inductionHypothesis =>
      intro labels inside isParent background
      obtain ⟨flat, folded, size, parents⟩ :=
        inductionHypothesis ((Nat.lt_succ_self i).trans inside) isParent
          background
      have here : parentIn flat (i + 1) = parent (i + 1) := by
        rw [parents, if_neg (by omega)]
      have flatInside : i + 1 < flat.size := inside.trans_eq size.symm
      rw [List.range'_1_concat, List.foldl_append, folded, Nat.add_comm 1 i]
      simp only [List.foldl_cons, List.foldl_nil, flattenLabel, here]
      split
      · case isTrue smaller =>
        have notRoot : ¬ IsRoot parent (i + 1) := not_not_intro smaller
        refine ⟨flat.setIfInBounds (i + 1) (parentIn flat (parent (i + 1))), ?_,
          Array.size_setIfInBounds.trans size, ?_⟩
        · rw [rootsUpTo_succ, if_neg notRoot, Nat.add_zero]
        · intro label
          rw [parentIn_set flatInside, parents, if_pos (by omega)]
          by_cases isNew : label = i + 1
          · subst isNew
            rw [Function.update_self, if_pos le_rfl,
              classNumber_of_lt smaller]
          · rw [Function.update_of_ne isNew, parents]
            simp only [Nat.le_succ_iff_eq_or_le, isNew, false_or]
      · case isFalse notSmaller =>
        have isRoot : IsRoot parent (i + 1) := notSmaller
        refine ⟨flat.setIfInBounds (i + 1) (rootsUpTo parent i + 1), ?_,
          Array.size_setIfInBounds.trans size, ?_⟩
        · rw [rootsUpTo_succ, if_pos isRoot]
        · intro label
          rw [parentIn_set flatInside]
          by_cases isNew : label = i + 1
          · subst isNew
            rw [Function.update_self, if_pos le_rfl,
              classNumber_of_isRoot isRoot, rootsUpTo_succ, if_pos isRoot]
          · rw [Function.update_of_ne isNew, parents]
            simp only [Nat.le_succ_iff_eq_or_le, isNew, false_or]

theorem getLabels_spec
    {trees : EquivalenceLabelTrees}
    (wellFormed : trees.WellFormed) :
    trees.getLabels.size = rootsUpTo trees.parent (trees.nextFree - 1) + 1 ∧
      trees.getLabels.table.size = trees.nextFree ∧
      ∀ label < trees.nextFree,
        trees.getLabels.table[label]? =
          some (classNumber trees.parent label) := by
  have started := wellFormed.started
  have inside : trees.nextFree - 1 < trees.labels.size := by
    rw [wellFormed.size]
    omega
  obtain ⟨flat, folded, size, parents⟩ :=
    flatten_upTo trees.parent (trees.nextFree - 1) inside rfl
      wellFormed.background
  rw [getLabels, folded]
  refine ⟨rfl, size.trans wellFormed.size, ?_⟩
  intro label inside
  have flatInside : label < flat.size := by
    rw [size, wellFormed.size]
    exact inside
  have number := parents label
  rw [if_pos (by omega), parentIn] at number
  rw [Array.getElem?_eq_getElem flatInside]
  simpa [flatInside] using number

end Trees

end EquivalenceLabelTrees

end NavBim
