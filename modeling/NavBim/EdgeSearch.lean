import Mathlib

namespace NavBim.EdgeSearch

/-!
# Best-first search that expands edges

A search over an undirected graph keeps a score for every vertex and a set of
open edges.  Taking an open edge reveals its true cost and closes it for good.
Before that only a guess of the cost is known, and a metric bounds the cost of
the rest of the way.

The module states what such a search has to maintain and proves that then an
edge with the least key has a settled near end, so closing it loses nothing.
It knows nothing of how a search stores scores, keys or paths.
-/

/-- A search problem: a graph with true costs, guesses and a metric. -/
structure Problem (V K : Type) where
  start : V
  goal : V
  Adjacent : V → V → Prop
  cost : V → V → WithTop K
  guess : V → V → WithTop K
  metric : V → V → K

/-- What the search has found out so far. -/
structure Snapshot (V K : Type) where
  score : V → WithTop K
  /-- The edge between the two vertices is open under the given key. -/
  Open : V → V → WithTop K → Prop
  /-- The edge between the two vertices has been expanded. -/
  Closed : V → V → Prop

variable {V K : Type} [AddCommGroup K] [LinearOrder K]

/-- `Walk problem vertex cost`: some way from the start costs that much. -/
inductive Walk (problem : Problem V K) : V → WithTop K → Prop where
  | start :
      Walk problem problem.start 0
  | step
      {first next : V}
      {cost : WithTop K} :
      Walk problem first cost →
      problem.Adjacent first next →
      Walk problem next (cost + problem.cost first next)

/-- The metric bounds every guess and the guess bounds the true cost. -/
structure Consistent (problem : Problem V K) : Prop where
  metric_self : ∀ vertex, problem.metric vertex vertex = 0
  metric_nonneg : ∀ first second, 0 ≤ problem.metric first second
  metric_triangle :
    ∀ first middle last,
      problem.metric first last ≤
        problem.metric first middle + problem.metric middle last
  metric_le_guess :
    ∀ {first second},
      problem.Adjacent first second →
      (problem.metric first second : WithTop K) ≤
        problem.guess first second
  guess_le_cost :
    ∀ {first second},
      problem.Adjacent first second →
      problem.guess first second ≤ problem.cost first second

/-- The score of the vertex is not above the cost of any way to it. -/
def Settled
    (problem : Problem V K)
    (score : V → WithTop K)
    (vertex : V) : Prop :=
  ∀ {cost : WithTop K}, Walk problem vertex cost → score vertex ≤ cost

/-- The key that an edge deserves when it is used from `near` to `far`. -/
def key
    (problem : Problem V K)
    (score : V → WithTop K)
    (near far : V) : WithTop K :=
  score near + problem.guess near far +
    (problem.metric far problem.goal : WithTop K)

/-- What the search maintains. -/
structure Invariant
    (problem : Problem V K)
    (search : Snapshot V K) : Prop where
  start_score : search.score problem.start ≤ 0
  score_walk :
    ∀ {vertex},
      search.score vertex ≠ ⊤ →
      Walk problem vertex (search.score vertex)
  explored :
    ∀ {first second},
      problem.Adjacent first second →
      search.score first ≠ ⊤ →
      (∃ k, search.Open first second k) ∨ search.Closed first second
  relaxed :
    ∀ {first second},
      search.Closed first second →
      (Settled problem search.score first ∧
          search.score second ≤
            search.score first + problem.cost first second) ∨
        (Settled problem search.score second ∧
          search.score first ≤
            search.score second + problem.cost second first)
  open_le_key :
    ∀ {near far k},
      search.Open near far k →
      search.score near < search.score far →
      k ≤ key problem search.score near far
  key_le_open :
    ∀ {first second k},
      search.Open first second k →
      key problem search.score first second ≤ k ∨
        key problem search.score second first ≤ k

theorem Settled.mono
    {problem : Problem V K}
    {score lower : V → WithTop K}
    {vertex : V}
    (settled : Settled problem score vertex)
    (le : lower vertex ≤ score vertex) :
    Settled problem lower vertex :=
  fun walk => le.trans (settled walk)

variable [IsOrderedAddMonoid K]

section Frontier

variable
  {problem : Problem V K}
  {search : Snapshot V K}

/-- Moving along an edge costs at least the metric between its ends. -/
theorem Consistent.detour
    (consistent : Consistent problem)
    {near far : V}
    (adjacent : problem.Adjacent near far)
    (cost : WithTop K) :
    cost + (problem.metric near problem.goal : WithTop K) ≤
      cost + problem.guess near far +
        (problem.metric far problem.goal : WithTop K) := by
  have triangle :
      (problem.metric near problem.goal : WithTop K) ≤
        (problem.metric near far : WithTop K) +
          (problem.metric far problem.goal : WithTop K) := by
    exact_mod_cast consistent.metric_triangle near far problem.goal
  rw [add_assoc]
  exact add_le_add_right
    (triangle.trans
      (add_le_add_left (consistent.metric_le_guess adjacent) _)) _

/--
If some way to a vertex beats its score, an open edge has a key that does not
exceed what the rest of that way promises.
-/
theorem Invariant.frontier
    (invariant : Invariant problem search)
    (consistent : Consistent problem)
    {vertex : V}
    {cost : WithTop K}
    (walk : Walk problem vertex cost)
    (better : cost < search.score vertex) :
    ∃ first second k,
      search.Open first second k ∧
        k ≤ cost + (problem.metric vertex problem.goal : WithTop K) := by
  -- Along the way, take the first vertex whose score is beaten.
  induction walk with
  | start =>
      exact absurd better (not_lt.mpr invariant.start_score)
  | step walk adjacent inductionHypothesis =>
      rename_i near far cost
      by_cases earlier : cost < search.score near
      · obtain ⟨first, second, k, opened, le⟩ :=
          inductionHypothesis earlier
        refine ⟨first, second, k, opened, le.trans ?_⟩
        refine (consistent.detour adjacent cost).trans ?_
        exact add_le_add_left
          (add_le_add_right (consistent.guess_le_cost adjacent) _) _
      · have nearLe : search.score near ≤ cost := not_lt.mp earlier
        have relaxedLe :
            search.score near + problem.cost near far ≤
              cost + problem.cost near far :=
          add_le_add_left nearLe _
        have costFinite : cost ≠ ⊤ := by
          rintro rfl
          simp at better
        have nearFinite : search.score near ≠ ⊤ :=
          ne_top_of_le_ne_top costFinite nearLe
        rcases invariant.explored adjacent nearFinite with
            ⟨k, opened⟩ | closed
        · have costNonneg : 0 ≤ problem.cost near far :=
            (WithTop.coe_nonneg.mpr
              (consistent.metric_nonneg near far)).trans
              ((consistent.metric_le_guess adjacent).trans
                (consistent.guess_le_cost adjacent))
          have nearer : search.score near < search.score far :=
            (le_add_of_nonneg_right costNonneg).trans_lt
              (relaxedLe.trans_lt better)
          refine ⟨near, far, k, opened,
            (invariant.open_le_key opened nearer).trans ?_⟩
          unfold key
          exact add_le_add_left
            (add_le_add nearLe (consistent.guess_le_cost adjacent)) _
        · rcases invariant.relaxed closed with
              ⟨-, far_le⟩ | ⟨farSettled, -⟩
          · exact absurd better
              (not_lt.mpr (far_le.trans relaxedLe))
          · exact absurd better
              (not_lt.mpr (farSettled (.step walk adjacent)))

theorem Invariant.goal_settled
    (invariant : Invariant problem search)
    (consistent : Consistent problem)
    (stopped :
      ∀ {first second k},
        search.Open first second k →
        search.score problem.goal ≤ k) :
    Settled problem search.score problem.goal := by
  intro cost walk
  by_contra beaten
  obtain ⟨first, second, k, opened, le⟩ :=
    invariant.frontier consistent walk (not_le.mp beaten)
  rw [consistent.metric_self, WithTop.coe_zero, add_zero] at le
  exact beaten ((stopped opened).trans le)

end Frontier

section LeastKey

variable
  {problem : Problem V K}
  {search : Snapshot V K}
  {first second : V}
  {k : WithTop K}

section

variable
  (invariant : Invariant problem search)
  (consistent : Consistent problem)

include invariant consistent

section

variable
  (adjacent : problem.Adjacent first second)
  (least :
    ∀ {u v other}, search.Open u v other → k ≤ other)
  (earned : key problem search.score first second ≤ k)

include adjacent least earned

theorem Invariant.settled_of_key_le :
    Settled problem search.score first := by
  intro cost walk
  by_contra beaten
  have better : cost < search.score first := not_le.mp beaten
  obtain ⟨u, v, other, opened, le⟩ :=
    invariant.frontier consistent walk better
  -- The promised rest of the way would undercut the key itself.
  have promised :
      key problem search.score first second ≤
        cost + problem.guess first second +
          (problem.metric second problem.goal : WithTop K) :=
    earned.trans ((least opened).trans
      (le.trans (consistent.detour adjacent cost)))
  have bounded :
      key problem search.score first second ≤
        cost + (problem.metric first problem.goal : WithTop K) :=
    earned.trans ((least opened).trans le)
  lift cost to K using better.ne_top
  have guessFinite : problem.guess first second ≠ ⊤ := by
    intro infinite
    unfold key at bounded
    rw [infinite, add_top, top_add, top_le_iff] at bounded
    exact WithTop.coe_ne_top bounded
  have scoreFinite : search.score first ≠ ⊤ := by
    intro infinite
    unfold key at bounded
    rw [infinite, top_add, top_add, top_le_iff] at bounded
    exact WithTop.coe_ne_top bounded
  unfold key at promised
  lift problem.guess first second to K using guessFinite with guess
  lift search.score first to K using scoreFinite with score
  norm_cast at promised better
  have cancelled : score ≤ cost := by
    have := le_of_add_le_add_right promised
    exact le_of_add_le_add_right this
  exact absurd better (not_lt.mpr cancelled)

/-- If the far end is not settled, it lies strictly behind the near end. -/
theorem Invariant.near_lt_far
    (unsettled : ¬Settled problem search.score second) :
    search.score first < search.score second := by
  unfold Settled at unsettled
  push Not at unsettled
  obtain ⟨cost, walk, better⟩ := unsettled
  obtain ⟨u, v, other, opened, le⟩ :=
    invariant.frontier consistent walk better
  have bounded := earned.trans ((least opened).trans le)
  unfold key at bounded
  have guessNonneg : 0 ≤ problem.guess first second :=
    (WithTop.coe_nonneg.mpr
      (consistent.metric_nonneg first second)).trans
      (consistent.metric_le_guess adjacent)
  have cancelled :
      search.score first + problem.guess first second ≤ cost :=
    WithTop.le_of_add_le_add_right WithTop.coe_ne_top bounded
  exact (le_add_of_nonneg_right guessNonneg).trans_lt
    (cancelled.trans_lt better)

end

/--
An open edge with the least key has a settled near end, whichever of the two
scores is called near.
-/
theorem Invariant.near_settled
    (symmetric :
      ∀ {u v}, problem.Adjacent u v → problem.Adjacent v u)
    (adjacent : problem.Adjacent first second)
    (opened : search.Open first second k)
    (least :
      ∀ {u v other}, search.Open u v other → k ≤ other)
    (nearer : search.score first ≤ search.score second) :
    Settled problem search.score first := by
  rcases invariant.key_le_open opened with forward | backward
  · exact invariant.settled_of_key_le consistent adjacent least forward
  · by_contra unsettled
    exact absurd nearer (not_le.mpr
      (invariant.near_lt_far consistent (symmetric adjacent) least
        backward unsettled))

end

end LeastKey

/--
Closing an edge whose near end is settled keeps every closed edge relaxed, as
long as scores only fall and stay realised by ways from the start.
-/
theorem relaxed_after_closing
    {problem : Problem V K}
    {search after : Snapshot V K}
    (invariant : Invariant problem search)
    (falls :
      ∀ vertex, after.score vertex ≤ search.score vertex)
    (walks :
      ∀ {vertex},
        after.score vertex ≠ ⊤ →
        Walk problem vertex (after.score vertex))
    {first second : V}
    (closed : search.Closed first second) :
    (Settled problem after.score first ∧
        after.score second ≤
          after.score first + problem.cost first second) ∨
      (Settled problem after.score second ∧
        after.score first ≤
          after.score second + problem.cost second first) := by
  -- A settled score cannot fall any more.
  have frozen
      {vertex : V}
      (settled : Settled problem search.score vertex) :
      search.score vertex ≤ after.score vertex := by
    by_cases infinite : after.score vertex = ⊤
    · rw [infinite]
      exact le_top
    · exact settled (walks infinite)
  rcases invariant.relaxed closed with
      ⟨settled, le⟩ | ⟨settled, le⟩
  · exact Or.inl ⟨settled.mono (falls first),
      (falls second).trans
        (le.trans (add_le_add_left (frozen settled) _))⟩
  · exact Or.inr ⟨settled.mono (falls second),
      (falls first).trans
        (le.trans (add_le_add_left (frozen settled) _))⟩

end NavBim.EdgeSearch
