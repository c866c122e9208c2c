import Mathlib.Algebra.Order.Monoid.Defs
import Mathlib.Algebra.Order.Monoid.WithTop
import Mathlib.Data.Fintype.Card
import Mathlib.Tactic

namespace NavBim.LabelSearch

/-!
# Searching for the cheapest walk with labels

A search over a network of priced edges keeps a cost and a parent edge for each
vertex, and a collection of open entries.  A vertex may have several entries;
those whose key is not the cost of the vertex any more are skipped.

The module says what such a search maintains, step by step, and proves that
then an entry with the least key that is not skipped belongs to a cheapest
walk.  It knows nothing of how a search stores labels or entries.
-/

/-- Edges between vertices.  An edge without a price cannot be used. -/
structure Network (V E K : Type*) where
  start : V
  source : E → V
  target : E → V
  price : E → Option K

/-- What the search knows about the vertices. -/
structure Labels (V E K : Type*) where
  cost : V → WithTop K
  parent : V → Option E

variable {V E K : Type*} [AddCommMonoid K] [LinearOrder K]

/-- `Walk network vertex edges total`: the edges lead one after the other from
the start to the vertex and cost that much together. -/
inductive Walk (network : Network V E K) : V → List E → K → Prop
  | start :
      Walk network network.start [] 0
  | step
      {edges : List E}
      {edge : E}
      {total price : K} :
      Walk network (network.source edge) edges total →
      network.price edge = some price →
      Walk network (network.target edge) (edges ++ [edge]) (total + price)

/-- The walk that the parent edges describe.  Its inner vertices are
settled. -/
inductive Chain
    (network : Network V E K)
    (labels : Labels V E K)
    (Settled : V → Prop) : V → List E → K → Prop
  | start :
      Chain network labels Settled network.start [] 0
  | step
      {edges : List E}
      {edge : E}
      {total price : K} :
      Chain network labels Settled (network.source edge) edges total →
      Settled (network.source edge) →
      labels.parent (network.target edge) = some edge →
      network.price edge = some price →
      Chain network labels Settled (network.target edge) (edges ++ [edge])
        (total + price)

/-- What holds between the steps of a search.  The edges that wait belong to a
settled vertex and have not been looked at yet. -/
structure Invariant
    (network : Network V E K)
    (labels : Labels V E K)
    (Open : K → V → Prop)
    (Settled : V → Prop)
    (Waiting : E → Prop) : Prop where
  start_cost : labels.cost network.start = 0
  start_parent : labels.parent network.start = none
  cost_nonneg : ∀ vertex, 0 ≤ labels.cost vertex
  unreached : ∀ vertex, labels.cost vertex = ⊤ → labels.parent vertex = none
  held : ∀ vertex, labels.cost vertex ≠ ⊤ →
    Settled vertex ∨
      ∃ key : K, labels.cost vertex = key ∧ Open key vertex
  settled_le : ∀ settled key vertex, Settled settled → Open key vertex →
    labels.cost settled ≤ key
  relaxed : ∀ edge (price : K), Settled (network.source edge) →
    network.price edge = some price →
    Waiting edge ∨
      labels.cost (network.target edge) ≤
        labels.cost (network.source edge) + price
  chained : ∀ vertex (cost : K), labels.cost vertex = cost →
    ∃ edges, Chain network labels Settled vertex edges cost

variable
  {network : Network V E K}
  {labels : Labels V E K}
  {Open : K → V → Prop}
  {Settled : V → Prop}
  {Waiting : E → Prop}

/-- The labels of a search that has not begun. -/
def Labels.initial
    [DecidableEq V]
    (start : V) : Labels V E K where
  cost vertex := if vertex = start then 0 else ⊤
  parent _ := none

/-- The labels with another cost and parent for one vertex. -/
def Labels.relabel
    [DecidableEq V]
    (labels : Labels V E K)
    (vertex : V)
    (cost : K)
    (edge : E) : Labels V E K where
  cost := Function.update labels.cost vertex cost
  parent := Function.update labels.parent vertex (some edge)

section

omit [AddCommMonoid K] [LinearOrder K]

@[simp] theorem Labels.relabel_cost_self
    [DecidableEq V]
    (labels : Labels V E K)
    (vertex : V)
    (cost : K)
    (edge : E) :
    (labels.relabel vertex cost edge).cost vertex = cost :=
  Function.update_self _ _ _

theorem Labels.relabel_cost_of_ne
    [DecidableEq V]
    (labels : Labels V E K)
    {vertex other : V}
    (different : other ≠ vertex)
    (cost : K)
    (edge : E) :
    (labels.relabel vertex cost edge).cost other = labels.cost other :=
  Function.update_of_ne different _ _

@[simp] theorem Labels.relabel_parent_self
    [DecidableEq V]
    (labels : Labels V E K)
    (vertex : V)
    (cost : K)
    (edge : E) :
    (labels.relabel vertex cost edge).parent vertex = some edge :=
  Function.update_self _ _ _

theorem Labels.relabel_parent_of_ne
    [DecidableEq V]
    (labels : Labels V E K)
    {vertex other : V}
    (different : other ≠ vertex)
    (cost : K)
    (edge : E) :
    (labels.relabel vertex cost edge).parent other = labels.parent other :=
  Function.update_of_ne different _ _

end

omit [LinearOrder K] in
theorem Labels.initial_cost_start
    [DecidableEq V]
    (start : V) :
    (Labels.initial start : Labels V E K).cost start = 0 :=
  if_pos rfl

omit [LinearOrder K] in
theorem Labels.initial_cost_of_ne
    [DecidableEq V]
    {start vertex : V}
    (different : vertex ≠ start) :
    (Labels.initial start : Labels V E K).cost vertex = ⊤ :=
  if_neg different

theorem Invariant.initial
    [DecidableEq V]
    (network : Network V E K)
    (isOpen : Open 0 network.start) :
    Invariant network (Labels.initial network.start) Open
      (fun _ => False) (fun _ => False) where
  start_cost := Labels.initial_cost_start network.start
  start_parent := rfl
  cost_nonneg vertex := by
    by_cases isStart : vertex = network.start
    · rw [isStart, Labels.initial_cost_start]
    · rw [Labels.initial_cost_of_ne isStart]
      exact le_top
  unreached _ _ := rfl
  held vertex finite := by
    by_cases isStart : vertex = network.start
    · subst isStart
      exact .inr ⟨0, Labels.initial_cost_start _, isOpen⟩
    · exact absurd (Labels.initial_cost_of_ne isStart) finite
  settled_le _ _ _ settled := settled.elim
  relaxed _ _ settled := settled.elim
  chained vertex cost isCost := by
    by_cases isStart : vertex = network.start
    · subst isStart
      rw [Labels.initial_cost_start, ← WithTop.coe_zero] at isCost
      rw [← WithTop.coe_injective isCost]
      exact ⟨[], .start⟩
    · rw [Labels.initial_cost_of_ne isStart] at isCost
      exact absurd isCost.symm WithTop.coe_ne_top

variable
  {vertex : V}
  {edges : List E}
  {total : K}
  {edge : E}

section

omit [LinearOrder K]

theorem Walk.priced
    (walk : Walk network vertex edges total)
    (member : edge ∈ edges) :
    ∃ price, network.price edge = some price := by
  induction walk with
  | start =>
      exact absurd member List.not_mem_nil
  | step _ priced inductionHypothesis =>
      rcases List.mem_append.mp member with before | isLast
      · exact inductionHypothesis before
      · rw [List.mem_singleton.mp isLast]
        exact ⟨_, priced⟩

theorem Chain.walk
    (chain : Chain network labels Settled vertex edges total) :
    Walk network vertex edges total := by
  induction chain with
  | start =>
      exact .start
  | step _ _ _ priced inductionHypothesis =>
      exact .step inductionHypothesis priced

theorem Chain.mono
    {Other : V → Prop}
    (wider : ∀ vertex, Settled vertex → Other vertex)
    (chain : Chain network labels Settled vertex edges total) :
    Chain network labels Other vertex edges total := by
  induction chain with
  | start =>
      exact .start
  | step _ settled parent priced inductionHypothesis =>
      exact .step inductionHypothesis (wider _ settled) parent priced

theorem Chain.update
    {other : Labels V E K}
    {changed : V}
    (unsettled : ¬Settled changed)
    (same : ∀ vertex, vertex ≠ changed →
      other.parent vertex = labels.parent vertex)
    {vertex : V}
    {edges : List E}
    {total : K}
    (chain : Chain network labels Settled vertex edges total)
    (notChanged : vertex ≠ changed) :
    Chain network other Settled vertex edges total := by
  induction chain with
  | start =>
      exact .start
  | @step edges edge _ _ _ settled parent priced inductionHypothesis =>
      have sourceKept : network.source edge ≠ changed := by
        intro isChanged
        rw [isChanged] at settled
        exact unsettled settled
      exact
        .step (inductionHypothesis sourceKept) settled
          ((same _ notChanged).trans parent) priced

end

section Steps

variable
  {OpenLater : K → V → Prop}

/-- Dropping an entry that is out of date changes nothing. -/
theorem Invariant.skip
    (invariant : Invariant network labels Open Settled Waiting)
    {key : K}
    (outdated : labels.cost vertex ≠ key)
    (subset : ∀ other node, OpenLater other node → Open other node)
    (others : ∀ other node, (other, node) ≠ (key, vertex) →
      Open other node → OpenLater other node) :
    Invariant network labels OpenLater Settled Waiting where
  start_cost := invariant.start_cost
  start_parent := invariant.start_parent
  cost_nonneg := invariant.cost_nonneg
  unreached := invariant.unreached
  held node finite := by
    refine (invariant.held node finite).imp_right ?_
    rintro ⟨other, isCost, isOpen⟩
    refine ⟨other, isCost, others other node ?_ isOpen⟩
    intro same
    cases same
    exact outdated isCost
  settled_le settled other node isSettled isOpen :=
    invariant.settled_le settled other node isSettled
      (subset other node isOpen)
  relaxed := invariant.relaxed
  chained := invariant.chained

theorem Invariant.settle
    (invariant : Invariant network labels Open Settled fun _ => False)
    {key : K}
    (isCost : labels.cost vertex = key)
    (least : ∀ other node, Open other node → key ≤ other)
    (subset : ∀ other node, OpenLater other node → Open other node)
    (others : ∀ other node, (other, node) ≠ (key, vertex) →
      Open other node → OpenLater other node) :
    Invariant network labels OpenLater
      (fun node => Settled node ∨ node = vertex)
      (fun edge => network.source edge = vertex) where
  start_cost := invariant.start_cost
  start_parent := invariant.start_parent
  cost_nonneg := invariant.cost_nonneg
  unreached := invariant.unreached
  held node finite := by
    by_cases isVertex : node = vertex
    · exact .inl (.inr isVertex)
    · rcases invariant.held node finite with settled | ⟨other, same, isOpen⟩
      · exact .inl (.inl settled)
      · refine .inr ⟨other, same, others other node ?_ isOpen⟩
        intro samePair
        exact isVertex (Prod.ext_iff.mp samePair).2
  settled_le settled other node isSettled isOpen := by
    rcases isSettled with before | isVertex
    · exact invariant.settled_le settled other node before
        (subset other node isOpen)
    · rw [isVertex, isCost]
      exact WithTop.coe_le_coe.mpr (least other node (subset other node isOpen))
  relaxed edge price isSettled priced := by
    rcases isSettled with before | isVertex
    · exact .inr
        ((invariant.relaxed edge price before priced).resolve_left id)
    · exact .inl isVertex
  chained node cost same := by
    obtain ⟨edges, chain⟩ := invariant.chained node cost same
    exact ⟨edges, chain.mono fun _ => .inl⟩

variable
  {WaitingLater : E → Prop}

theorem Invariant.waits
    (invariant : Invariant network labels Open Settled Waiting)
    (still : ∀ edge (price : K), network.price edge = some price →
      Waiting edge → WaitingLater edge) :
    Invariant network labels Open Settled WaitingLater where
  start_cost := invariant.start_cost
  start_parent := invariant.start_parent
  cost_nonneg := invariant.cost_nonneg
  unreached := invariant.unreached
  held := invariant.held
  settled_le := invariant.settled_le
  relaxed edge price settled priced :=
    (invariant.relaxed edge price settled priced).imp_left
      (still edge price priced)
  chained := invariant.chained

/-- An edge that cannot be used, or leads to nothing cheaper, is done with. -/
theorem Invariant.pass
    (invariant : Invariant network labels Open Settled Waiting)
    (edge : E)
    (noGain : ∀ price : K, network.price edge = some price →
      labels.cost (network.target edge) ≤
        labels.cost (network.source edge) + price)
    (others : ∀ other, Waiting other → other = edge ∨ WaitingLater other) :
    Invariant network labels Open Settled WaitingLater where
  start_cost := invariant.start_cost
  start_parent := invariant.start_parent
  cost_nonneg := invariant.cost_nonneg
  unreached := invariant.unreached
  held := invariant.held
  settled_le := invariant.settled_le
  relaxed other price settled priced := by
    rcases invariant.relaxed other price settled priced with waits | done
    · rcases others other waits with same | stillWaits
      · subst same
        exact .inr (noGain price priced)
      · exact .inl stillWaits
    · exact .inr done
  chained := invariant.chained

theorem Invariant.relaxed_relabel
    [DecidableEq V]
    (invariant : Invariant network labels Open Settled Waiting)
    {edge other : E}
    {key price otherPrice : K}
    (unsettled : ¬Settled (network.target edge))
    (isCost : labels.cost (network.source edge) = key)
    (priced : network.price edge = some price)
    (gain : ((key + price : K) : WithTop K) <
      labels.cost (network.target edge))
    (others : ∀ other, Waiting other → other = edge ∨ WaitingLater other)
    (settled : Settled (network.source other))
    (otherPriced : network.price other = some otherPrice) :
    WaitingLater other ∨
      (labels.relabel (network.target edge) (key + price) edge).cost
          (network.target other) ≤
        (labels.relabel (network.target edge) (key + price) edge).cost
            (network.source other) + otherPrice := by
  have sourceKept : network.source other ≠ network.target edge := by
    intro isTarget
    exact unsettled (isTarget ▸ settled)
  rw [Labels.relabel_cost_of_ne labels sourceKept]
  by_cases sameTarget : network.target other = network.target edge
  · rw [sameTarget, Labels.relabel_cost_self]
    rcases invariant.relaxed other otherPrice settled otherPriced with
      waits | done
    · rcases others other waits with same | stillWaits
      · subst same
        rw [isCost]
        rw [Option.some.inj (otherPriced.symm.trans priced)]
        exact .inr le_rfl
      · exact .inl stillWaits
    · right
      rw [sameTarget] at done
      exact gain.le.trans done
  · rw [Labels.relabel_cost_of_ne labels sameTarget]
    rcases invariant.relaxed other otherPrice settled otherPriced with
      waits | done
    · rcases others other waits with same | stillWaits
      · exact absurd (congrArg network.target same) sameTarget
      · exact .inl stillWaits
    · exact .inr done

/-- The target that has become cheaper gets a chain over the edge, and all other
chains stay. -/
theorem Invariant.chained_relabel
    [DecidableEq V]
    (invariant : Invariant network labels Open Settled Waiting)
    {key price cost : K}
    (settledSource : Settled (network.source edge))
    (unsettled : ¬Settled (network.target edge))
    (isCost : labels.cost (network.source edge) = key)
    (priced : network.price edge = some price)
    (same :
      (labels.relabel (network.target edge) (key + price) edge).cost vertex =
        cost) :
    ∃ edges,
      Chain network (labels.relabel (network.target edge) (key + price) edge)
        Settled vertex edges cost := by
  have keeps : ∀ node, node ≠ network.target edge →
      (labels.relabel (network.target edge) (key + price) edge).parent
        node = labels.parent node := fun node notTarget =>
    labels.relabel_parent_of_ne notTarget _ _
  by_cases isTarget : vertex = network.target edge
  · subst isTarget
    rw [Labels.relabel_cost_self] at same
    obtain ⟨edges, chain⟩ := invariant.chained _ key isCost
    have sourceKept : network.source edge ≠ network.target edge := by
      intro isTarget
      exact unsettled (isTarget ▸ settledSource)
    rw [← WithTop.coe_injective same]
    exact
      ⟨edges ++ [edge],
        .step (chain.update unsettled keeps sourceKept) settledSource
          (labels.relabel_parent_self _ _ _) priced⟩
  · rw [Labels.relabel_cost_of_ne labels isTarget] at same
    obtain ⟨edges, chain⟩ := invariant.chained vertex cost same
    exact ⟨edges, chain.update unsettled keeps isTarget⟩

variable [IsOrderedAddMonoid K]

theorem Invariant.relax
    [DecidableEq V]
    (invariant : Invariant network labels Open Settled Waiting)
    (edge : E)
    {key price : K}
    (settledSource : Settled (network.source edge))
    (isCost : labels.cost (network.source edge) = key)
    (priced : network.price edge = some price)
    (nonneg : 0 ≤ price)
    (floor : ∀ vertex, Settled vertex → labels.cost vertex ≤ key)
    (gain : ((key + price : K) : WithTop K) <
      labels.cost (network.target edge))
    (opened : ∀ other node, OpenLater other node ↔
      (other, node) = (key + price, network.target edge) ∨ Open other node)
    (others : ∀ other, Waiting other → other = edge ∨ WaitingLater other) :
    Invariant network
      (labels.relabel (network.target edge) (key + price) edge) OpenLater
      Settled WaitingLater := by
  have keyNonneg : 0 ≤ key := by
    have nonnegCost := invariant.cost_nonneg (network.source edge)
    rw [isCost] at nonnegCost
    exact WithTop.coe_le_coe.mp nonnegCost
  have unsettled : ¬Settled (network.target edge) := by
    intro settled
    have below : labels.cost (network.target edge) ≤ (key + price : K) :=
      (floor _ settled).trans
        (WithTop.coe_le_coe.mpr (le_add_of_nonneg_right nonneg))
    exact absurd gain (not_lt.mpr below)
  have notStart : network.target edge ≠ network.start := by
    intro isStart
    rw [isStart, invariant.start_cost] at gain
    exact absurd (WithTop.coe_lt_coe.mp gain)
      (not_lt.mpr (add_nonneg keyNonneg nonneg))
  have settledKept : ∀ {vertex}, Settled vertex →
      vertex ≠ network.target edge := fun settled isTarget =>
    unsettled (isTarget ▸ settled)
  constructor
  case start_cost =>
    rw [Labels.relabel_cost_of_ne labels notStart.symm, invariant.start_cost]
  case start_parent =>
    rw [Labels.relabel_parent_of_ne labels notStart.symm,
      invariant.start_parent]
  case cost_nonneg =>
    intro vertex
    by_cases isTarget : vertex = network.target edge
    · rw [isTarget, Labels.relabel_cost_self]
      exact WithTop.coe_le_coe.mpr (add_nonneg keyNonneg nonneg)
    · rw [Labels.relabel_cost_of_ne labels isTarget]
      exact invariant.cost_nonneg vertex
  case unreached =>
    intro vertex isTop
    by_cases isTarget : vertex = network.target edge
    · rw [isTarget, Labels.relabel_cost_self] at isTop
      exact absurd isTop WithTop.coe_ne_top
    · rw [Labels.relabel_cost_of_ne labels isTarget] at isTop
      rw [Labels.relabel_parent_of_ne labels isTarget]
      exact invariant.unreached vertex isTop
  case held =>
    intro vertex finite
    by_cases isTarget : vertex = network.target edge
    · subst isTarget
      exact .inr ⟨key + price, labels.relabel_cost_self _ _ _,
        (opened _ _).mpr (.inl rfl)⟩
    · rw [Labels.relabel_cost_of_ne labels isTarget] at finite ⊢
      refine (invariant.held vertex finite).imp_right ?_
      rintro ⟨other, same, isOpen⟩
      exact ⟨other, same, (opened other vertex).mpr (.inr isOpen)⟩
  case settled_le =>
    intro settled other vertex isSettled isOpen
    rw [Labels.relabel_cost_of_ne labels (settledKept isSettled)]
    rcases (opened other vertex).mp isOpen with same | before
    · cases same
      exact (floor settled isSettled).trans
        (WithTop.coe_le_coe.mpr (le_add_of_nonneg_right nonneg))
    · exact invariant.settled_le settled other vertex isSettled before
  case relaxed =>
    intro other otherPrice settled otherPriced
    exact invariant.relaxed_relabel unsettled isCost priced gain others settled
      otherPriced
  case chained =>
    intro vertex cost same
    exact invariant.chained_relabel settledSource unsettled isCost priced same

end Steps

section Optimal

variable [IsOrderedAddMonoid K]

section

variable
  (invariant : Invariant network labels Open Settled fun _ => False)
  (nonneg : ∀ edge (price : K), network.price edge = some price →
    0 ≤ price)

include invariant nonneg

/-- A walk to a vertex is at least as dear as the vertex is labelled, or it
passes an open entry that is no dearer. -/
theorem Invariant.cost_le_or_open
    {vertex : V}
    {edges : List E}
    {total : K}
    (walk : Walk network vertex edges total) :
    labels.cost vertex ≤ total ∨
      ∃ key node, Open key node ∧ key ≤ total := by
  induction walk with
  | start =>
      exact .inl invariant.start_cost.le
  | @step edges edge total price walk priced inductionHypothesis =>
      have dearer : total ≤ total + price :=
        le_add_of_nonneg_right (nonneg edge price priced)
      rcases inductionHypothesis with below | ⟨key, node, isOpen, keyLe⟩
      · have finite : labels.cost (network.source edge) ≠ ⊤ :=
          ne_top_of_le_ne_top WithTop.coe_ne_top below
        rcases invariant.held _ finite with settled | ⟨key, same, isOpen⟩
        · left
          have done := (invariant.relaxed edge price settled
            priced).resolve_left id
          refine done.trans ?_
          rw [WithTop.coe_add]
          exact add_le_add_left below _
        · right
          rw [same] at below
          exact
            ⟨key, _, isOpen, (WithTop.coe_le_coe.mp below).trans dearer⟩
      · exact .inr ⟨key, node, isOpen, keyLe.trans dearer⟩

/-- The vertex of a least entry that is not out of date has its final cost. -/
theorem Invariant.least_le
    {key : K}
    {vertex : V}
    (isCost : labels.cost vertex = key)
    (least : ∀ other node, Open other node → key ≤ other)
    {edges : List E}
    {total : K}
    (walk : Walk network vertex edges total) :
    key ≤ total := by
  rcases invariant.cost_le_or_open nonneg walk with below | ⟨other, node, isOpen, le⟩
  · rw [isCost] at below
    exact WithTop.coe_le_coe.mp below
  · exact (least other node isOpen).trans le

/-- With nothing open, a vertex without a cost cannot be reached. -/
theorem Invariant.not_walk
    (noneOpen : ∀ key node, ¬Open key node)
    {vertex : V}
    (unreached : labels.cost vertex = ⊤)
    (edges : List E)
    (total : K) :
    ¬Walk network vertex edges total := by
  intro walk
  rcases invariant.cost_le_or_open nonneg walk with below | ⟨key, node, isOpen, -⟩
  · rw [unreached, top_le_iff] at below
    exact WithTop.coe_ne_top below
  · exact noneOpen key node isOpen

end

end Optimal

section Chains

omit [LinearOrder K]

theorem Chain.unique
    (noParent : labels.parent network.start = none)
    {first second : List E}
    {firstTotal secondTotal : K}
    (left : Chain network labels Settled vertex first firstTotal)
    (right : Chain network labels Settled vertex second secondTotal) :
    first = second := by
  induction left generalizing second secondTotal with
  | start =>
      generalize atStart : network.start = vertex at right
      cases right with
      | start =>
          rfl
      | step _ _ parent _ =>
          rw [← atStart, noParent] at parent
          exact nomatch parent
  | @step edges edge total price chain settled parent priced
      inductionHypothesis =>
      generalize atTarget : network.target edge = vertex at right
      cases right with
      | start =>
          rw [atTarget, noParent] at parent
          exact nomatch parent
      | step otherChain _ otherParent _ =>
          rw [← atTarget, parent] at otherParent
          cases otherParent
          rw [inductionHypothesis otherChain]

theorem Chain.before
    (chain : Chain network labels Settled vertex edges total)
    (member : edge ∈ edges) :
    ∃ earlier earlierTotal,
      earlier.length < edges.length ∧
        Chain network labels Settled (network.source edge) earlier
          earlierTotal := by
  induction chain with
  | start =>
      exact absurd member List.not_mem_nil
  | @step edges last total price chain _ _ _ inductionHypothesis =>
      rcases List.mem_append.mp member with inside | isLast
      · obtain ⟨earlier, earlierTotal, shorter, found⟩ :=
          inductionHypothesis inside
        refine ⟨earlier, earlierTotal, ?_, found⟩
        rw [List.length_append]
        exact Nat.lt_add_right _ shorter
      · rw [List.mem_singleton.mp isLast]
        refine ⟨edges, total, ?_, chain⟩
        rw [List.length_append]
        exact Nat.lt_succ_self _

theorem Chain.sources_nodup
    (noParent : labels.parent network.start = none)
    (chain : Chain network labels Settled vertex edges total) :
    (edges.map network.source).Nodup := by
  induction chain with
  | start =>
      exact List.nodup_nil
  | @step edges edge total price chain _ _ _ inductionHypothesis =>
      rw [List.map_append, List.nodup_append]
      refine ⟨inductionHypothesis, List.nodup_singleton _, ?_⟩
      intro source member other isLast
      rw [List.mem_singleton.mp isLast]
      intro same
      obtain ⟨earlierEdge, inside, isSource⟩ := List.mem_map.mp member
      obtain ⟨earlier, earlierTotal, shorter, found⟩ := chain.before inside
      rw [isSource, same] at found
      have sameLength := congrArg List.length (found.unique noParent chain)
      exact absurd sameLength (Nat.ne_of_lt shorter)

end Chains

end NavBim.LabelSearch
