import Mathlib

namespace NavBim.GraphReach

/-!
# Connectivity and routes inside a set of vertices

A graph is restricted to a set of vertices by hiding all others.  The module
computes reachable sets and connected components of a finite graph, and it
states how connectivity and the cost of routes behave when one vertex is
hidden together with everything that is cut off with it.
-/

section Reachable

variable {V : Type} [DecidableEq V]

/-- Add all neighbours of the vertices seen so far. -/
def expand
    (neighbors : V → List V)
    (seen : Finset V) : Finset V :=
  seen ∪ seen.biUnion fun vertex => (neighbors vertex).toFinset

/-- The vertices found within a number of rounds. -/
def reachable
    (neighbors : V → List V)
    (rounds : Nat)
    (seen : Finset V) : Finset V :=
  (expand neighbors)^[rounds] seen

variable
  {neighbors : V → List V}
  {whole seen : Finset V}

theorem reachable_succ
    (rounds : Nat) :
    reachable neighbors (rounds + 1) seen =
      expand neighbors (reachable neighbors rounds seen) :=
  Function.iterate_succ_apply' _ _ _

theorem subset_expand :
    seen ⊆ expand neighbors seen :=
  Finset.subset_union_left

theorem mem_expand
    {vertex : V} :
    vertex ∈ expand neighbors seen ↔
      vertex ∈ seen ∨ ∃ near ∈ seen, vertex ∈ neighbors near := by
  simp [expand]

theorem joined_of_mem_reachable
    {rounds : Nat}
    {vertex : V}
    (member : vertex ∈ reachable neighbors rounds seen) :
    ∃ first ∈ seen,
      Relation.ReflTransGen (fun a b => b ∈ neighbors a) first vertex := by
  induction rounds generalizing vertex with
  | zero =>
      exact ⟨vertex, member, Relation.ReflTransGen.refl⟩
  | succ rounds inductionHypothesis =>
      rw [reachable_succ, mem_expand] at member
      rcases member with before | ⟨near, inNear, adjacent⟩
      · exact inductionHypothesis before
      · obtain ⟨first, inSeen, way⟩ := inductionHypothesis inNear
        exact ⟨first, inSeen, way.tail adjacent⟩

/-- The search stays inside a set that is closed under neighbours. -/
theorem reachable_subset
    (inside : seen ⊆ whole)
    (closed : ∀ vertex ∈ whole, ∀ next ∈ neighbors vertex, next ∈ whole)
    (rounds : Nat) :
    reachable neighbors rounds seen ⊆ whole := by
  induction rounds with
  | zero =>
      exact inside
  | succ rounds inductionHypothesis =>
      intro vertex member
      rw [reachable_succ, mem_expand] at member
      rcases member with before | ⟨near, inNear, adjacent⟩
      · exact inductionHypothesis before
      · exact closed near (inductionHypothesis inNear) vertex adjacent

/-- Each round finds a new vertex until nothing is left to find. -/
theorem rounds_le_card_or_stable
    (rounds : Nat) :
    rounds ≤ (reachable neighbors rounds seen).card ∨
      expand neighbors (reachable neighbors rounds seen) =
        reachable neighbors rounds seen := by
  induction rounds with
  | zero =>
      exact Or.inl (Nat.zero_le _)
  | succ rounds inductionHypothesis =>
      rw [reachable_succ]
      by_cases stable :
          expand neighbors (reachable neighbors rounds seen) =
            reachable neighbors rounds seen
      · exact Or.inr (by rw [stable, stable])
      · have grows :=
          Finset.card_lt_card
            (subset_expand.ssubset_of_ne (Ne.symm stable))
        rcases inductionHypothesis with enough | isStable
        · exact Or.inl (by omega)
        · exact absurd isStable stable

/-- With enough rounds the search finds exactly what is joined. -/
theorem mem_reachable_iff
    (inside : seen ⊆ whole)
    (closed : ∀ vertex ∈ whole, ∀ next ∈ neighbors vertex, next ∈ whole)
    {rounds : Nat}
    (enough : whole.card ≤ rounds)
    {vertex : V} :
    vertex ∈ reachable neighbors rounds seen ↔
      ∃ first ∈ seen,
        Relation.ReflTransGen (fun a b => b ∈ neighbors a)
          first vertex := by
  refine ⟨joined_of_mem_reachable, ?_⟩
  have within := reachable_subset inside closed rounds
  have saturated :
      ∀ near ∈ reachable neighbors rounds seen,
        ∀ next ∈ neighbors near, next ∈ reachable neighbors rounds seen := by
    have progress :
        rounds ≤ (reachable neighbors rounds seen).card ∨
          expand neighbors (reachable neighbors rounds seen) =
            reachable neighbors rounds seen :=
      rounds_le_card_or_stable rounds
    rcases progress with full | stable
    · have isWhole :=
        Finset.eq_of_subset_of_card_le within (enough.trans full)
      rw [isWhole]
      exact closed
    · intro near inNear next adjacent
      rw [← stable, mem_expand]
      exact Or.inr ⟨near, inNear, adjacent⟩
  rintro ⟨first, inSeen, way⟩
  induction way with
  | refl =>
      have start : seen ⊆ reachable neighbors rounds seen := by
        clear saturated within enough
        induction rounds with
        | zero =>
            exact subset_rfl
        | succ rounds inductionHypothesis =>
            rw [reachable_succ]
            exact inductionHypothesis.trans subset_expand
      exact start inSeen
  | tail _ adjacent inductionHypothesis =>
      exact saturated _ inductionHypothesis _ adjacent

end Reachable

section Components

variable {V : Type} [DecidableEq V]

/-- Numbered components found so far. -/
structure Components (V : Type) where
  count : Nat
  found : Finset V
  component : V → Nat

/-- Number the component of a vertex that has not been found yet. -/
def discover
    (neighbors : V → List V)
    (rounds : Nat)
    (state : Components V)
    (vertex : V) : Components V :=
  if vertex ∈ state.found then
    state
  else
    let reached := reachable neighbors rounds {vertex}
    { count := state.count + 1
      found := state.found ∪ reached
      component := fun other =>
        if other ∈ reached then state.count else state.component other }

/-- Number the components in the order of their first vertices. -/
def connectedComponents
    (neighbors : V → List V)
    (rounds : Nat)
    (vertices : List V) : Components V :=
  vertices.foldl (discover neighbors rounds)
    { count := 0, found := ∅, component := fun _ => 0 }

/-- The numbers tell apart the components of the vertices looked at. -/
structure Numbered
    (Linked : V → V → Prop)
    (processed : List V)
    (state : Components V) : Prop where
  found_iff :
    ∀ {vertex},
      vertex ∈ state.found ↔ ∃ first ∈ processed, Linked first vertex
  same_iff :
    ∀ {first second},
      first ∈ state.found →
      second ∈ state.found →
      (state.component first = state.component second ↔
        Linked first second)
  bounded :
    ∀ {vertex}, vertex ∈ state.found → state.component vertex < state.count
  used :
    ∀ {label}, label < state.count →
      ∃ vertex ∈ state.found, state.component vertex = label

variable
  {Linked : V → V → Prop}
  {neighbors : V → List V}
  {rounds : Nat}
  {processed : List V}
  {state : Components V}

omit [DecidableEq V] in
/-- A vertex that was found already leads nowhere else. -/
theorem Numbered.revisit
    (numbered : Numbered Linked processed state)
    (joined : Equivalence Linked)
    {vertex : V}
    (known : vertex ∈ state.found) :
    Numbered Linked (processed ++ [vertex]) state := by
  refine { numbered with found_iff := ?_ }
  intro other
  obtain ⟨first, inProcessed, way⟩ := numbered.found_iff.mp known
  rw [numbered.found_iff]
  constructor
  · rintro ⟨near, inNear, toOther⟩
    exact ⟨near, List.mem_append_left _ inNear, toOther⟩
  · rintro ⟨near, inNear, toOther⟩
    rcases List.mem_append.mp inNear with old | new
    · exact ⟨near, old, toOther⟩
    · rw [List.mem_singleton] at new
      subst new
      exact ⟨first, inProcessed, joined.trans way toOther⟩

theorem Numbered.discover
    (numbered : Numbered Linked processed state)
    (joined : Equivalence Linked)
    {vertex : V}
    (reached_iff :
      ∀ {other},
        other ∈ reachable neighbors rounds {vertex} ↔
          Linked vertex other) :
    Numbered Linked (processed ++ [vertex])
      (discover neighbors rounds state vertex) := by
  unfold GraphReach.discover
  split
  · exact numbered.revisit joined ‹_›
  · rename_i fresh
    -- The new component is disjoint from the numbered ones.
    have apart
        {known new : V}
        (inFound : known ∈ state.found)
        (isNew : Linked vertex new) :
        ¬Linked known new := by
      intro same
      apply fresh
      obtain ⟨first, inProcessed, way⟩ := numbered.found_iff.mp inFound
      exact numbered.found_iff.mpr
        ⟨first, inProcessed,
          joined.trans way (joined.trans same (joined.symm isNew))⟩
    have unreached
        {known : V}
        (inFound : known ∈ state.found) :
        known ∉ reachable neighbors rounds {vertex} := by
      intro inReached
      exact apart inFound (reached_iff.mp inReached) (joined.refl known)
    constructor
    · intro other
      simp only [Finset.mem_union, reached_iff, numbered.found_iff,
        List.mem_append, List.mem_singleton, or_and_right, exists_or,
        exists_eq_left]
    · intro first second inFirst inSecond
      rw [Finset.mem_union] at inFirst inSecond
      rcases inFirst with oldFirst | newFirst
      · rcases inSecond with oldSecond | newSecond
        · simp only [unreached oldFirst, unreached oldSecond, ↓reduceIte]
          exact numbered.same_iff oldFirst oldSecond
        · have below := numbered.bounded oldFirst
          have notJoined := apart oldFirst (reached_iff.mp newSecond)
          simp only [unreached oldFirst, newSecond, ↓reduceIte, notJoined,
            iff_false]
          omega
      · rcases inSecond with oldSecond | newSecond
        · have below := numbered.bounded oldSecond
          have notJoined := apart oldSecond (reached_iff.mp newFirst)
          simp only [unreached oldSecond, newFirst, ↓reduceIte]
          constructor
          · intro same
            omega
          · intro way
            exact absurd (joined.symm way) notJoined
        · have way :=
            joined.trans (joined.symm (reached_iff.mp newFirst))
              (reached_iff.mp newSecond)
          simp only [newFirst, newSecond, ↓reduceIte, way]
    · intro other member
      rw [Finset.mem_union] at member
      rcases member with old | new
      · have below := numbered.bounded old
        simp only [unreached old, ↓reduceIte]
        omega
      · simp only [new, ↓reduceIte]
        omega
    · intro label below
      simp only at below
      rcases Nat.lt_succ_iff_lt_or_eq.mp below with old | new
      · obtain ⟨other, inFound, isLabel⟩ := numbered.used old
        refine ⟨other, Finset.mem_union_left _ inFound, ?_⟩
        simp only [unreached inFound, ↓reduceIte, isLabel]
      · have selfReached := reached_iff.mpr (joined.refl vertex)
        refine ⟨vertex, Finset.mem_union_right _ selfReached, ?_⟩
        simp only [selfReached, ↓reduceIte, new]

theorem Numbered.foldl
    (joined : Equivalence Linked)
    (vertices : List V)
    (reached_iff :
      ∀ vertex ∈ vertices,
        ∀ {other},
          other ∈ reachable neighbors rounds {vertex} ↔
            Linked vertex other) :
    ∀ {processed state},
      Numbered Linked processed state →
      Numbered Linked (processed ++ vertices)
        (vertices.foldl (GraphReach.discover neighbors rounds) state) := by
  induction vertices with
  | nil =>
      intro processed state numbered
      simpa using numbered
  | cons vertex rest inductionHypothesis =>
      intro processed state numbered
      have next :=
        numbered.discover joined (reached_iff vertex (by simp))
      have run :=
        inductionHypothesis
          (fun other member => reached_iff other (by simp [member])) next
      simpa using run

variable
  {vertices : List V}
  (joined : Equivalence Linked)
  (reached_iff :
    ∀ vertex ∈ vertices,
      ∀ {other},
        other ∈ reachable neighbors rounds {vertex} ↔
          Linked vertex other)

include joined reached_iff

theorem connectedComponents_numbered :
    Numbered Linked vertices
      (connectedComponents neighbors rounds vertices) := by
  have initially :
      Numbered Linked []
        { count := 0, found := ∅, component := fun _ => 0 } :=
    ⟨by simp, by simp, by simp, by simp⟩
  exact Numbered.foldl joined vertices reached_iff initially

/-- Equal numbers mean the same component. -/
theorem component_eq_iff
    {first second : V}
    (inFirst : first ∈ vertices)
    (inSecond : second ∈ vertices) :
    (connectedComponents neighbors rounds vertices).component first =
        (connectedComponents neighbors rounds vertices).component second ↔
      Linked first second := by
  have numbered := connectedComponents_numbered joined reached_iff
  exact numbered.same_iff
    (numbered.found_iff.mpr ⟨first, inFirst, joined.refl first⟩)
    (numbered.found_iff.mpr ⟨second, inSecond, joined.refl second⟩)

theorem one_lt_count_iff :
    1 < (connectedComponents neighbors rounds vertices).count ↔
      ∃ first ∈ vertices, ∃ second ∈ vertices, ¬Linked first second := by
  have numbered := connectedComponents_numbered joined reached_iff
  constructor
  · intro several
    obtain ⟨first, inFirst, isZero⟩ := numbered.used (by omega : 0 < _)
    obtain ⟨second, inSecond, isOne⟩ := numbered.used several
    obtain ⟨near, inNear, toFirst⟩ := numbered.found_iff.mp inFirst
    obtain ⟨far, inFar, toSecond⟩ := numbered.found_iff.mp inSecond
    refine ⟨near, inNear, far, inFar, ?_⟩
    intro way
    have same :=
      (numbered.same_iff inFirst inSecond).mpr
        (joined.trans (joined.symm toFirst) (joined.trans way toSecond))
    omega
  · rintro ⟨first, inFirst, second, inSecond, notJoined⟩
    have firstFound :=
      numbered.found_iff.mpr ⟨first, inFirst, joined.refl first⟩
    have secondFound :=
      numbered.found_iff.mpr ⟨second, inSecond, joined.refl second⟩
    have different := mt (numbered.same_iff firstFound secondFound).mp
      notJoined
    have firstBelow := numbered.bounded firstFound
    have secondBelow := numbered.bounded secondFound
    omega

end Components

section Restricted

variable {V : Type}

/-- An edge between two vertices of the set. -/
def Within
    (Adjacent : V → V → Prop)
    (enabled : Set V)
    (first second : V) : Prop :=
  Adjacent first second ∧ first ∈ enabled ∧ second ∈ enabled

/-- Two vertices are joined by edges inside the set. -/
def Linked
    (Adjacent : V → V → Prop)
    (enabled : Set V) : V → V → Prop :=
  Relation.ReflTransGen (Within Adjacent enabled)

/-- The vertices of the set that are joined to a vertex. -/
def componentOf
    (Adjacent : V → V → Prop)
    (enabled : Set V)
    (vertex : V) : Set V :=
  {other | other ∈ enabled ∧ Linked Adjacent enabled vertex other}

variable
  {Adjacent : V → V → Prop}
  {enabled larger : Set V}
  {first second third : V}

theorem Linked.refl
    (vertex : V) :
    Linked Adjacent enabled vertex vertex :=
  Relation.ReflTransGen.refl

theorem Linked.trans
    (toSecond : Linked Adjacent enabled first second)
    (toThird : Linked Adjacent enabled second third) :
    Linked Adjacent enabled first third :=
  Relation.ReflTransGen.trans toSecond toThird

theorem Linked.symm
    (symmetric : ∀ {near far}, Adjacent near far → Adjacent far near)
    (joined : Linked Adjacent enabled first second) :
    Linked Adjacent enabled second first := by
  induction joined with
  | refl =>
      exact Linked.refl first
  | tail _ edge inductionHypothesis =>
      exact Relation.ReflTransGen.head
        ⟨symmetric edge.1, edge.2.2, edge.2.1⟩ inductionHypothesis

theorem joined_equivalence
    (symmetric : ∀ {near far}, Adjacent near far → Adjacent far near) :
    Equivalence (Linked Adjacent enabled) where
  refl := Linked.refl
  symm := Linked.symm symmetric
  trans := Linked.trans

/-- An edge inside the set joins its ends. -/
theorem Linked.edge
    (adjacent : Adjacent first second)
    (inFirst : first ∈ enabled)
    (inSecond : second ∈ enabled) :
    Linked Adjacent enabled first second :=
  Relation.ReflTransGen.single ⟨adjacent, inFirst, inSecond⟩

theorem Linked.mono
    (subset : enabled ⊆ larger)
    (joined : Linked Adjacent enabled first second) :
    Linked Adjacent larger first second := by
  induction joined with
  | refl =>
      exact Linked.refl first
  | tail _ edge inductionHypothesis =>
      exact inductionHypothesis.trans
        (Linked.edge edge.1 (subset edge.2.1) (subset edge.2.2))

/-- Everything joined to a vertex of the set is in the set. -/
theorem Linked.mem
    (inFirst : first ∈ enabled)
    (joined : Linked Adjacent enabled first second) :
    second ∈ enabled := by
  cases joined with
  | refl =>
      exact inFirst
  | tail _ edge =>
      exact edge.2.2

theorem Linked.mem_of_ne
    (joined : Linked Adjacent enabled first second)
    (different : first ≠ second) :
    first ∈ enabled ∧ second ∈ enabled := by
  constructor
  · cases Relation.ReflTransGen.cases_head joined with
    | inl same =>
        exact absurd same different
    | inr way =>
        obtain ⟨_, edge, _⟩ := way
        exact edge.2.1
  · cases joined with
    | refl =>
        exact absurd rfl different
    | tail _ edge =>
        exact edge.2.2

theorem componentOf_subset :
    componentOf Adjacent enabled first ⊆ enabled :=
  fun _ member => member.1

/-- A component is connected without the rest of the set. -/
theorem joined_componentOf
    (joined : Linked Adjacent enabled first second) :
    Linked Adjacent (componentOf Adjacent enabled first)
      first second := by
  induction joined with
  | refl =>
      exact Linked.refl first
  | tail before edge inductionHypothesis =>
      refine inductionHypothesis.trans (Linked.edge edge.1 ?_ ?_)
      · exact ⟨edge.2.1, before⟩
      · exact ⟨edge.2.2, before.tail edge⟩

end Restricted

section Routes

variable
  {V C : Type}
  [AddCommMonoid C]

/-- `Route Step weight first last cost`: some sequence of steps costs that much. -/
inductive Route
    (Step : V → V → Prop)
    (weight : V → V → C)
    (first : V) : V → C → Prop where
  | start :
      Route Step weight first first 0
  | step
      {near next : V}
      {cost : C} :
      Route Step weight first near cost →
      Step near next →
      Route Step weight first next (cost + weight near next)

variable
  {Step Other : V → V → Prop}
  {weight : V → V → C}
  {first last : V}
  {cost : C}

theorem Route.mono
    (route : Route Step weight first last cost)
    (weaker : ∀ {near next}, Step near next → Other near next) :
    Route Other weight first last cost := by
  induction route with
  | start =>
      exact Route.start
  | step _ edge inductionHypothesis =>
      exact Route.step inductionHypothesis (weaker edge)

/-- Linked vertices have a route, whatever the weights are. -/
theorem exists_route
    (joined : Relation.ReflTransGen Step first last) :
    ∃ cost, Route Step weight first last cost := by
  induction joined with
  | refl =>
      exact ⟨0, Route.start⟩
  | tail _ edge inductionHypothesis =>
      obtain ⟨cost, route⟩ := inductionHypothesis
      exact ⟨_, Route.step route edge⟩

theorem Route.joined
    (route : Route Step weight first last cost) :
    Relation.ReflTransGen Step first last := by
  induction route with
  | start =>
      exact Relation.ReflTransGen.refl
  | step _ edge inductionHypothesis =>
      exact inductionHypothesis.tail edge

variable [PartialOrder C]

/--
A vertex is bypassed: everything but `hidden` falls into two sides that touch
each other only at `hidden`, and on the near side the neighbours of `hidden`
are joined directly, at no higher cost than through it.
-/
structure Bypassed
    (Step : V → V → Prop)
    (weight : V → V → C)
    (hidden : V)
    (Near : V → Prop) : Prop where
  nonneg : ∀ {near next}, Step near next → 0 ≤ weight near next
  sides :
    ∀ {near next},
      Step near next →
      near ≠ hidden →
      next ≠ hidden →
      (Near near ↔ Near next)
  shortcut :
    ∀ {near next},
      Step near hidden →
      Step hidden next →
      near ≠ hidden →
      next ≠ hidden →
      Near near →
      Near next →
      near = next ∨
        (Step near next ∧
          weight near next ≤ weight near hidden + weight hidden next)

/-- The vertices on the near side. -/
def NearSide
    (hidden : V)
    (Near : V → Prop)
    (vertex : V) : Prop :=
  vertex ≠ hidden ∧ Near vertex

/-- Steps on the near side. -/
def NearStep
    (Step : V → V → Prop)
    (hidden : V)
    (Near : V → Prop)
    (near next : V) : Prop :=
  Step near next ∧ NearSide hidden Near near ∧ NearSide hidden Near next

variable [IsOrderedAddMonoid C]

section

variable
  {hidden : V}
  {Near : V → Prop}
  (bypassed : Bypassed Step weight hidden Near)
  (fromNear : NearSide hidden Near first)

include bypassed fromNear

theorem Bypassed.split
    (route : Route Step weight first last cost) :
    (NearSide hidden Near last ∧
        ∃ less ≤ cost,
          Route (NearStep Step hidden Near) weight first last less) ∨
      (¬NearSide hidden Near last ∧
        ∃ exit less,
          Route (NearStep Step hidden Near) weight first exit less ∧
            NearSide hidden Near exit ∧
            Step exit hidden ∧
            less + weight exit hidden ≤ cost) := by
  induction route with
  | start =>
      exact Or.inl ⟨fromNear, 0, le_rfl, Route.start⟩
  | @step near next cost _ edge inductionHypothesis =>
      have nonneg := bypassed.nonneg edge
      rcases inductionHypothesis with
        ⟨nearHere, less, lessLe, way⟩ |
          ⟨notHere, exit, less, way, exitNear, exitStep, lessLe⟩
      · by_cases atHidden : next = hidden
        · subst atHidden
          refine Or.inr ⟨fun side => side.1 rfl, near, less, way, nearHere,
            edge, ?_⟩
          gcongr
        · have nextNear : NearSide hidden Near next :=
            ⟨atHidden,
              (bypassed.sides edge nearHere.1 atHidden).mp nearHere.2⟩
          refine Or.inl ⟨nextNear, less + weight near next, ?_,
            Route.step way ⟨edge, nearHere, nextNear⟩⟩
          gcongr
      · by_cases nextNear : NearSide hidden Near next
        · -- The near side is entered again, so the step leaves `hidden`.
          have atHidden : near = hidden := by
            by_contra different
            exact notHere
              ⟨different,
                (bypassed.sides edge different nextNear.1).mpr nextNear.2⟩
          subst atHidden
          left
          refine ⟨nextNear, ?_⟩
          rcases bypassed.shortcut exitStep edge exitNear.1 nextNear.1
              exitNear.2 nextNear.2 with same | ⟨direct, cheaper⟩
          · subst same
            have exitNonneg := bypassed.nonneg exitStep
            refine ⟨less, ?_, way⟩
            calc
              less ≤ less + weight exit near :=
                le_add_of_nonneg_right exitNonneg
              _ ≤ cost := lessLe
              _ ≤ cost + weight near exit :=
                le_add_of_nonneg_right nonneg
          · refine ⟨less + weight exit next, ?_,
              Route.step way ⟨direct, exitNear, nextNear⟩⟩
            calc
              less + weight exit next ≤
                  less + (weight exit near + weight near next) := by gcongr
              _ = (less + weight exit near) + weight near next :=
                (add_assoc _ _ _).symm
              _ ≤ cost + weight near next := by gcongr
        · refine Or.inr ⟨nextNear, exit, less, way, exitNear, exitStep, ?_⟩
          exact lessLe.trans (le_add_of_nonneg_right nonneg)

/-- A route between two vertices of the near side need not leave it. -/
theorem Bypassed.route
    (toNear : NearSide hidden Near last)
    (route : Route Step weight first last cost) :
    ∃ less ≤ cost,
      Route (NearStep Step hidden Near) weight first last less := by
  rcases bypassed.split fromNear route with
    ⟨_, found⟩ | ⟨notNear, _⟩
  · exact found
  · exact absurd toNear notNear

end

end Routes

/-- The minimum over a set and over a dominating subset agree. -/
theorem isLeast_iff_of_dominated
    {C : Type} [PartialOrder C]
    {all some : Set C}
    (subset : some ⊆ all)
    (dominated : ∀ cost ∈ all, ∃ less ∈ some, less ≤ cost)
    (least : C) :
    IsLeast all least ↔ IsLeast some least := by
  constructor
  · rintro ⟨inAll, bound⟩
    obtain ⟨less, inSome, lessLe⟩ := dominated least inAll
    have same : less = least :=
      le_antisymm lessLe (bound (subset inSome))
    subst same
    exact ⟨inSome, fun other inOther => bound (subset inOther)⟩
  · rintro ⟨inSome, bound⟩
    refine ⟨subset inSome, ?_⟩
    intro other inOther
    obtain ⟨less, lessSome, lessLe⟩ := dominated other inOther
    exact (bound lessSome).trans lessLe

end NavBim.GraphReach
