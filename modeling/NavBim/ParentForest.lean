import Mathlib

namespace NavBim.ParentForest

/-!
# Trees given by parent pointers

A partial function `parent` describes a forest.  This module collects what a
search needs of such a tree: it has no cycle when everything hangs below a
root, subtrees of different children are disjoint, and a vertex may be moved
below any vertex that is not in its own subtree.
-/

variable {V : Type}

/-- `child` hangs directly below `vertex`. -/
def Step
    (parent : V → Option V)
    (vertex child : V) : Prop :=
  parent child = some vertex

/-- `lower` is in the subtree of `upper`, which contains `upper` itself. -/
def Below
    (parent : V → Option V)
    (upper lower : V) : Prop :=
  Relation.ReflTransGen (Step parent) upper lower

/-- `lower` is in the subtree of `upper` and different from its top. -/
def StrictlyBelow
    (parent : V → Option V)
    (upper lower : V) : Prop :=
  Relation.TransGen (Step parent) upper lower

/-- Every vertex that has a parent hangs below the root, which has none. -/
structure RootedAt
    (parent : V → Option V)
    (root : V) : Prop where
  rootFree : parent root = none
  reaches :
    ∀ {vertex above : V},
      parent vertex = some above →
      Below parent root vertex

section Order

variable {parent : V → Option V}

/-- The strict descendants of a vertex are the subtrees of its children. -/
theorem strictlyBelow_iff_child
    {upper lower : V} :
    StrictlyBelow parent upper lower ↔
      ∃ child, parent child = some upper ∧ Below parent child lower :=
  Relation.TransGen.head'_iff

/-- Two ancestors of one vertex are comparable. -/
theorem below_total
    {first second lower : V}
    (firstAbove : Below parent first lower)
    (secondAbove : Below parent second lower) :
    Below parent first second ∨ Below parent second first := by
  induction firstAbove with
  | refl =>
      exact Or.inr secondAbove
  | tail above last inductionHypothesis =>
      rename_i middle bottom
      rcases Relation.ReflTransGen.cases_tail secondAbove with
          same | ⟨other, otherAbove, otherLast⟩
      · subst same
        exact Or.inl (above.tail last)
      · have sameParent : other = middle := by
          unfold Step at last otherLast
          rw [last] at otherLast
          exact (Option.some.inj otherLast).symm
        subst sameParent
        exact inductionHypothesis otherAbove

theorem not_strictlyBelow_self
    {root vertex : V}
    (rootFree : parent root = none)
    (hangs : Below parent root vertex) :
    ¬StrictlyBelow parent vertex vertex := by
  induction hangs with
  | refl =>
      intro cycle
      obtain ⟨last, -, lastStep⟩ := Relation.TransGen.tail'_iff.mp cycle
      unfold Step at lastStep
      rw [rootFree] at lastStep
      cases lastStep
  | tail above last inductionHypothesis =>
      rename_i middle bottom
      intro cycle
      obtain ⟨other, belowOther, otherLast⟩ :=
        Relation.TransGen.tail'_iff.mp cycle
      have sameParent : other = middle := by
        unfold Step at last otherLast
        rw [last] at otherLast
        exact (Option.some.inj otherLast).symm
      subst sameParent
      exact inductionHypothesis
        (Relation.TransGen.head' last belowOther)

end Order

namespace RootedAt

variable {parent : V → Option V} {root : V}

theorem acyclic
    (rooted : RootedAt parent root)
    (vertex : V) :
    ¬StrictlyBelow parent vertex vertex := by
  intro cycle
  obtain ⟨last, -, lastStep⟩ := Relation.TransGen.tail'_iff.mp cycle
  exact not_strictlyBelow_self rooted.rootFree
    (rooted.reaches lastStep) cycle

theorem children_disjoint
    (rooted : RootedAt parent root)
    {vertex first second lower : V}
    (firstChild : parent first = some vertex)
    (secondChild : parent second = some vertex)
    (belowFirst : Below parent first lower)
    (belowSecond : Below parent second lower) :
    first = second := by
  -- If one child were above the other, the path between them would pass
  -- through their common parent and close a cycle.
  have noDescent
      {upper other : V}
      (upperChild : parent upper = some vertex)
      (otherChild : parent other = some vertex)
      (descends : Below parent upper other) :
      upper = other := by
    rcases Relation.ReflTransGen.cases_tail descends with
        same | ⟨middle, above, last⟩
    · exact same.symm
    · have atParent : middle = vertex := by
        unfold Step at last
        rw [otherChild] at last
        exact (Option.some.inj last).symm
      subst atParent
      exact (rooted.acyclic middle
        (Relation.TransGen.head' upperChild above)).elim
  rcases below_total belowFirst belowSecond with down | up
  · exact noDescent firstChild secondChild down
  · exact (noDescent secondChild firstChild up).symm

theorem reparent
    [DecidableEq V]
    (rooted : RootedAt parent root)
    {vertex above : V}
    (notRoot : vertex ≠ root)
    (aboveHangs : Below parent root above)
    (outside : ¬Below parent vertex above) :
    RootedAt (Function.update parent vertex (some above)) root := by
  have keepsOther
      {child upper : V}
      (step : Step parent upper child)
      (other : child ≠ vertex) :
      Step (Function.update parent vertex (some above)) upper child := by
    unfold Step at step ⊢
    rw [Function.update_of_ne other]
    exact step
  have outsideHangs
      {lower : V}
      (hangs : Below parent root lower)
      (notBelow : ¬Below parent vertex lower) :
      Below (Function.update parent vertex (some above)) root lower := by
    induction hangs with
    | refl =>
        exact Relation.ReflTransGen.refl
    | tail hangs last inductionHypothesis =>
        rename_i middle bottom
        have other : bottom ≠ vertex := by
          rintro rfl
          exact notBelow Relation.ReflTransGen.refl
        exact (inductionHypothesis
          (fun upper => notBelow (upper.tail last))).tail
            (keepsOther last other)
  have movedHangs :
      Below (Function.update parent vertex (some above)) root vertex :=
    (outsideHangs aboveHangs outside).tail (by simp [Step])
  have allHang
      {lower : V}
      (hangs : Below parent root lower) :
      Below (Function.update parent vertex (some above)) root lower := by
    induction hangs with
    | refl =>
        exact Relation.ReflTransGen.refl
    | tail hangs last inductionHypothesis =>
        rename_i middle bottom
        by_cases moved : bottom = vertex
        · subst moved
          exact movedHangs
        · exact inductionHypothesis.tail (keepsOther last moved)
  refine ⟨?_, ?_⟩
  · rw [Function.update_of_ne (Ne.symm notRoot)]
    exact rooted.rootFree
  · intro lower upper link
    by_cases moved : lower = vertex
    · subst moved
      exact movedHangs
    · rw [Function.update_of_ne moved] at link
      exact allHang (rooted.reaches link)

end RootedAt

/-- A rooted forest in which costs do not fall away from the root. -/
structure FallingTree
    {Cost : Type}
    [LinearOrder Cost]
    (parent : V → Option V)
    (cost : V → Cost)
    (root : V) : Prop extends RootedAt parent root where
  falls :
    ∀ {vertex above : V},
      parent vertex = some above →
      cost above ≤ cost vertex

namespace FallingTree

variable {Cost : Type} [LinearOrder Cost] {parent : V → Option V}
  {cost : V → Cost} {root : V}

theorem le_of_below
    (tree : FallingTree parent cost root)
    {upper lower : V}
    (below : Below parent upper lower) :
    cost upper ≤ cost lower := by
  induction below with
  | refl => exact le_rfl
  | tail _ last inductionHypothesis =>
      exact inductionHypothesis.trans (tree.falls last)

/-- A vertex may be moved to where it costs less.  It is not the root then. -/
theorem improve
    [DecidableEq V]
    (tree : FallingTree parent cost root)
    {vertex above : V}
    {newCost : Cost}
    (hangs : Below parent root above)
    (dearer : cost above ≤ newCost)
    (cheaper : newCost < cost vertex) :
    vertex ≠ root ∧
      FallingTree (Function.update parent vertex (some above))
        (Function.update cost vertex newCost) root := by
  have outside : ¬Below parent vertex above := by
    intro below
    exact not_lt.mpr ((tree.le_of_below below).trans dearer) cheaper
  have notRoot : vertex ≠ root := by
    rintro rfl
    exact outside hangs
  refine ⟨notRoot, tree.toRootedAt.reparent notRoot hangs outside, ?_⟩
  intro lower upper hangsBelow
  have upperCost : Function.update cost vertex newCost upper ≤ cost upper := by
    by_cases isVertex : upper = vertex
    · rw [isVertex, Function.update_self]
      exact cheaper.le
    · rw [Function.update_of_ne isVertex]
  by_cases isVertex : lower = vertex
  · subst isVertex
    rw [Function.update_self] at hangsBelow
    obtain rfl : above = upper := Option.some.inj hangsBelow
    rw [Function.update_self]
    exact upperCost.trans dearer
  · rw [Function.update_of_ne isVertex] at hangsBelow
    rw [Function.update_of_ne isVertex]
    exact upperCost.trans (tree.falls hangsBelow)

end FallingTree

end NavBim.ParentForest
