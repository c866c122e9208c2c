import Mathlib.Data.List.Forall2

namespace NavBim

/-!
# Steps that may fail

Rules for lists of steps each of which may have no result: what all of them
keep, when all of them succeed, and how the results belong to the items.
-/

section Folds

variable {α β γ : Type}

/-- What every step keeps holds after a list of steps that may fail. -/
theorem foldlM_keeps
    {motive : β → Prop}
    {step : β → α → Option β}
    (keeps :
      ∀ {state next item},
        motive state → step state item = some next → motive next)
    (items : List α) :
    ∀ {state final},
      motive state →
      items.foldlM step state = some final →
      motive final := by
  induction items with
  | nil =>
      intro state final holds run
      rw [← Option.some.inj run]
      exact holds
  | cons item rest inductionHypothesis =>
      intro state final holds run
      rw [List.foldlM_cons] at run
      obtain ⟨next, isNext, continues⟩ := Option.bind_eq_some_iff.mp run
      exact inductionHypothesis (keeps holds isNext) continues

/-- Steps whose success depends on the item only succeed for all items. -/
theorem isSome_foldlM_iff
    {step : β → α → Option β}
    {succeeds : α → Prop}
    (isSome_iff :
      ∀ state item, (step state item).isSome ↔ succeeds item)
    (items : List α)
    (state : β) :
    (items.foldlM step state).isSome ↔ ∀ item ∈ items, succeeds item := by
  induction items generalizing state with
  | nil =>
      simp
  | cons item rest inductionHypothesis =>
      rw [List.foldlM_cons, List.forall_mem_cons, ← isSome_iff state item]
      cases step state item with
      | none =>
          simp
      | some next =>
          rw [← inductionHypothesis next]
          simp

theorem foldlM_map_eq
    (read : α → Option γ)
    (apply : β → γ → β)
    (items : List α)
    (state : β) :
    items.foldlM (fun state item => (read item).map (apply state)) state =
      (items.mapM read).map (List.foldl apply state) := by
  induction items generalizing state with
  | nil =>
      rfl
  | cons item rest inductionHypothesis =>
      rw [List.foldlM_cons, List.mapM_cons]
      cases read item with
      | none =>
          rfl
      | some result =>
          refine (inductionHypothesis (apply state result)).trans ?_
          cases rest.mapM read with
          | none =>
              rfl
          | some results =>
              rfl

variable
  {read : α → Option β}
  {items : List α}

theorem mapM_eq_some_iff_forall₂
    {results : List β} :
    items.mapM read = some results ↔
      List.Forall₂ (fun item result => read item = some result)
        items results := by
  induction items generalizing results with
  | nil =>
      rw [List.forall₂_nil_left_iff]
      exact Option.some_inj.trans eq_comm
  | cons item rest inductionHypothesis =>
      rw [List.mapM_cons]
      constructor
      · intro isRead
        obtain ⟨result, isResult, isRead⟩ := Option.bind_eq_some_iff.mp isRead
        obtain ⟨others, areOthers, isRead⟩ := Option.bind_eq_some_iff.mp isRead
        obtain rfl := Option.some.inj isRead
        exact .cons isResult (inductionHypothesis.mp areOthers)
      · intro reads
        cases reads with
        | cons isResult others =>
            rw [isResult, inductionHypothesis.mpr others]
            rfl

theorem exists_of_mem_results
    {related : α → β → Prop}
    {results : List β}
    {result : β}
    (pairs : List.Forall₂ related items results)
    (member : result ∈ results) :
    ∃ item ∈ items, related item result := by
  induction pairs with
  | nil =>
      cases member
  | @cons item first items results isRelated _ inductionHypothesis =>
      cases List.mem_cons.mp member with
      | inl isFirst =>
          rw [isFirst]
          exact ⟨item, List.mem_cons_self, isRelated⟩
      | inr inRest =>
          obtain ⟨other, isItem, relatedOther⟩ := inductionHypothesis inRest
          exact ⟨other, List.mem_cons_of_mem _ isItem, relatedOther⟩

theorem map_eq_map_of_results
    {related : α → β → Prop}
    {results : List β}
    {ofResult : β → γ}
    {ofItem : α → γ}
    (pairs : List.Forall₂ related items results)
    (same :
      ∀ item ∈ items, ∀ result,
        related item result → ofResult result = ofItem item) :
    results.map ofResult = items.map ofItem := by
  induction pairs with
  | nil =>
      rfl
  | @cons item result items results isRelated _ inductionHypothesis =>
      rw [List.forall_mem_cons] at same
      rw [List.map_cons, List.map_cons, same.1 result isRelated,
        inductionHypothesis same.2]

/-- Values that are written can all be read if each of them can. -/
theorem mapM_map_eq_map_iff
    {write : γ → α}
    {result : γ → β}
    {values : List γ} :
    (values.map write).mapM read = some (values.map result) ↔
      ∀ value ∈ values, read (write value) = some (result value) := by
  rw [mapM_eq_some_iff_forall₂, List.forall₂_map_left_iff,
    List.forall₂_map_right_iff, List.forall₂_same]

/-- Values that are written and read come back if each of them does. -/
theorem mapM_map_eq_some_iff
    {write : β → α}
    {values : List β} :
    (values.map write).mapM read = some values ↔
      ∀ value ∈ values, read (write value) = some value := by
  rw [← mapM_map_eq_map_iff, List.map_id']

end Folds

end NavBim
