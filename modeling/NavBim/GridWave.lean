import NavBim.GridDistance

namespace NavBim

/-!
# Waves on a grid

A wave starts at some cells of a grid and goes from cell to cell.  Each cell
keeps the source of the entry that reached it first, and the pending entries are
taken by their distance to their own source.

When a cell is settled, the cells beside it that are nearer to its source have
been settled before, by this source or by one that is at least as near.  So the
wave only goes forward.
-/

/-- A cell and the source it was reached from. -/
structure WaveEntry where
  cell : GridCell
  source : GridCell

namespace WaveEntry

/-- The square of the distance to the own source. -/
def distance
    (entry : WaveEntry) : Nat :=
  distanceSq entry.cell entry.source

end WaveEntry

/-- A cell is settled, or about to be, within a distance. -/
def Offered
    (settled pending : Set WaveEntry)
    (cell : GridCell)
    (distance : Nat) : Prop :=
  (∃ entry ∈ settled, entry.cell = cell ∧ entry.distance ≤ distance) ∨
    ∃ entry ∈ pending, entry.cell = cell ∧ entry.distance ≤ distance

/-- The entries that a settled one adds. -/
structure IsNext
    (sizeX sizeY limit : Nat)
    (settled : Set WaveEntry)
    (entry next : WaveEntry) : Prop where
  source : next.source = entry.source
  beside : Beside entry.cell next.cell
  inGrid : InGrid sizeX sizeY next.cell
  unsettled : ∀ other ∈ settled, other.cell ≠ next.cell
  limit : next.distance ≤ limit

/-- What is known of any entry. -/
structure EntryFits
    (sizeX sizeY limit : Nat)
    (isSource : GridCell → Prop)
    (entry : WaveEntry) : Prop where
  inGrid : InGrid sizeX sizeY entry.cell
  source : isSource entry.source
  limit : entry.distance ≤ limit

/-- What is known while a wave is under way. -/
structure WaveInvariant
    (sizeX sizeY limit : Nat)
    (isSource : GridCell → Prop)
    (settled pending : Set WaveEntry) : Prop where
  settledFits : ∀ entry ∈ settled,
    EntryFits sizeX sizeY limit isSource entry
  pendingFits : ∀ entry ∈ pending,
    EntryFits sizeX sizeY limit isSource entry
  origin : ∀ entry ∈ pending, entry.cell = entry.source ∨
    ∃ before ∈ settled, before.source = entry.source ∧
      Beside before.cell entry.cell ∧ before.distance < entry.distance
  settledOrigin : ∀ entry ∈ settled, entry.cell = entry.source ∨
    ∃ before ∈ settled, before.source = entry.source ∧
      Beside before.cell entry.cell
  unique : ∀ first ∈ settled, ∀ second ∈ settled,
    first.cell = second.cell → first = second
  ordered : ∀ before ∈ settled, ∀ entry ∈ pending,
    before.distance ≤ entry.distance
  nearer : ∀ entry ∈ settled, ∀ cell, Beside entry.cell cell →
    distanceSq cell entry.source < entry.distance →
      ∃ before ∈ settled, before.cell = cell ∧
        before.distance ≤ distanceSq cell entry.source
  offered : ∀ entry ∈ settled, ∀ cell, Beside entry.cell cell →
    InGrid sizeX sizeY cell →
    distanceSq cell entry.source ≤ limit →
      Offered settled pending cell (distanceSq cell entry.source)
  sources : ∀ source, isSource source → Offered settled pending source 0

section Steps

variable
  {sizeX sizeY limit : Nat}
  {isSource : GridCell → Prop}
  {settled pending pending' : Set WaveEntry}
  {entry next : WaveEntry}
  {cell : GridCell}
  {distance : Nat}

section

variable
  (offered : Offered settled pending cell distance)

include offered

theorem Offered.settled_le
    (unique : ∀ first ∈ settled, ∀ second ∈ settled,
      first.cell = second.cell → first = second)
    (ordered : ∀ before ∈ settled, ∀ entry ∈ pending,
      before.distance ≤ entry.distance)
    (isSettled : entry ∈ settled)
    (isCell : entry.cell = cell) :
    entry.distance ≤ distance := by
  rcases offered with ⟨other, member, sameCell, near⟩ |
    ⟨other, member, sameCell, near⟩
  · rwa [unique entry isSettled other member (isCell.trans sameCell.symm)]
  · exact (ordered entry isSettled other member).trans near

theorem Offered.settled_of_lt
    (minimal : ∀ other ∈ pending, entry.distance ≤ other.distance)
    (below : distance < entry.distance) :
    ∃ before ∈ settled, before.cell = cell ∧ before.distance ≤ distance := by
  rcases offered with found | ⟨other, member, -, near⟩
  · exact found
  · exact absurd (minimal other member) (by omega)

theorem Offered.mono_settled
    (kept : ∀ other ∈ pending, other = entry ∨ other ∈ pending') :
    Offered (insert entry settled) pending' cell distance := by
  rcases offered with ⟨other, member, isCell, near⟩ |
    ⟨other, member, isCell, near⟩
  · exact .inl ⟨other, .inr member, isCell, near⟩
  · rcases kept other member with rfl | isPending
    · exact .inl ⟨other, .inl rfl, isCell, near⟩
    · exact .inr ⟨other, isPending, isCell, near⟩

end

section

variable
  (invariant : WaveInvariant sizeX sizeY limit isSource settled pending)
  (sourcesInside : ∀ source, isSource source → InGrid sizeX sizeY source)
  (isPending : entry ∈ pending)
  (minimal : ∀ other ∈ pending, entry.distance ≤ other.distance)

include invariant sourcesInside isPending minimal

theorem WaveInvariant.nearer_of_next
    (beside : Beside entry.cell cell)
    (near : distanceSq cell entry.source < entry.distance) :
    ∃ before ∈ settled, before.cell = cell ∧
      before.distance ≤ distanceSq cell entry.source := by
  have fits := invariant.pendingFits entry isPending
  have sourceInside := sourcesInside entry.source fits.source
  rcases invariant.origin entry isPending with
    isSourceCell | ⟨before, isSettled, sameSource, besideBefore, beforeNear⟩
  · rw [WaveEntry.distance, isSourceCell, distanceSq_self] at near
    exact absurd near (Nat.not_lt_zero _)
  · have beforeDistance :
        before.distance = distanceSq before.cell entry.source := by
      rw [WaveEntry.distance, sameSource]
    by_cases same : cell = before.cell
    · exact ⟨before, isSettled, same.symm, by rw [beforeDistance, same]⟩
    · rw [beforeDistance] at beforeNear
      obtain ⟨corner, besideCorner, cornerBeside, cornerNear, farSide⟩ :=
        exists_corner besideBefore.symm beside beforeNear near same
      -- the corner was settled before, by a source at least as near
      obtain ⟨first, firstSettled, rfl, firstNear⟩ :=
        invariant.nearer before isSettled corner besideCorner
          (by rw [sameSource, beforeDistance]; exact cornerNear)
      rw [sameSource] at firstNear
      have beforeInside := (invariant.settledFits before isSettled).inGrid
      have cellInside := beside.inGrid fits.inGrid sourceInside near
      have withinLimit := fits.limit
      -- and it did not reach the cell before earlier than the entry's source
      have beforeFar : distanceSq before.cell entry.source ≤
          distanceSq before.cell first.source := by
        by_cases within : distanceSq before.cell first.source ≤ limit
        · have offered := invariant.offered first firstSettled before.cell
            besideCorner.symm beforeInside within
          rw [← beforeDistance]
          exact offered.settled_le invariant.unique invariant.ordered isSettled
            rfl
        · omega
      have besideNear := farSide first.source firstNear beforeFar
      have offered := invariant.offered first firstSettled cell cornerBeside
        cellInside (by omega)
      obtain ⟨found, foundSettled, isCell, foundNear⟩ :=
        offered.settled_of_lt minimal (by omega)
      exact ⟨found, foundSettled, isCell, foundNear.trans besideNear⟩

/-- The wave only goes forward. -/
theorem WaveInvariant.next_distance
    (isNext : IsNext sizeX sizeY limit (insert entry settled) entry next) :
    entry.distance < next.distance := by
  have isDistance :
      next.distance = distanceSq next.cell entry.source := by
    rw [WaveEntry.distance, isNext.source]
  have different := isNext.beside.distanceSq_ne entry.source
  rw [isDistance]
  rcases Nat.lt_or_gt_of_ne different with forward | backward
  · exact forward
  · obtain ⟨before, isSettled, isCell, -⟩ := invariant.nearer_of_next
      sourcesInside isPending minimal isNext.beside backward
    exact absurd isCell (isNext.unsettled before (.inr isSettled))

end

/-- An entry whose cell is settled already is left out. -/
theorem WaveInvariant.skip
    (invariant : WaveInvariant sizeX sizeY limit isSource settled pending)
    (isPending : entry ∈ pending)
    (isSettled : ∃ before ∈ settled, before.cell = entry.cell)
    (kept : ∀ other ∈ pending, other = entry ∨ other ∈ pending')
    (old : ∀ other ∈ pending', other ∈ pending) :
    WaveInvariant sizeX sizeY limit isSource settled pending' := by
  obtain ⟨before, beforeSettled, sameCell⟩ := isSettled
  have stillOffered {cell : GridCell}
      {distance : Nat}
      (offered : Offered settled pending cell distance) :
      Offered settled pending' cell distance := by
    rcases offered with found | ⟨other, member, isCell, near⟩
    · exact .inl found
    · rcases kept other member with rfl | stillPending
      · exact .inl ⟨before, beforeSettled, sameCell.trans isCell,
          (invariant.ordered before beforeSettled other isPending).trans near⟩
      · exact .inr ⟨other, stillPending, isCell, near⟩
  exact {
    settledFits := invariant.settledFits
    pendingFits := fun other member =>
      invariant.pendingFits other (old other member)
    origin := fun other member => invariant.origin other (old other member)
    settledOrigin := invariant.settledOrigin
    unique := invariant.unique
    ordered := fun before isSettled other member =>
      invariant.ordered before isSettled other (old other member)
    nearer := invariant.nearer
    offered := fun entry member cell beside inside within =>
      stillOffered (invariant.offered entry member cell beside inside within)
    sources := fun source isSource =>
      stillOffered (invariant.sources source isSource)
  }

theorem WaveInvariant.settle
    (invariant : WaveInvariant sizeX sizeY limit isSource settled pending)
    (sourcesInside : ∀ source, isSource source → InGrid sizeX sizeY source)
    (isPending : entry ∈ pending)
    (minimal : ∀ other ∈ pending, entry.distance ≤ other.distance)
    (unsettled : ∀ before ∈ settled, before.cell ≠ entry.cell)
    (kept : ∀ other ∈ pending, other = entry ∨ other ∈ pending')
    (added : ∀ next,
      IsNext sizeX sizeY limit (insert entry settled) entry next →
        next ∈ pending')
    (old : ∀ other ∈ pending', other ∈ pending ∨
      IsNext sizeX sizeY limit (insert entry settled) entry other) :
    WaveInvariant sizeX sizeY limit isSource (insert entry settled)
      pending' := by
  have fits := invariant.pendingFits entry isPending
  have nearer (cell : GridCell)
      (beside : Beside entry.cell cell)
      (near : distanceSq cell entry.source < entry.distance) :
      ∃ before ∈ settled, before.cell = cell ∧
        before.distance ≤ distanceSq cell entry.source :=
    invariant.nearer_of_next sourcesInside isPending minimal beside near
  have forward (next : WaveEntry)
      (isNext : IsNext sizeX sizeY limit (insert entry settled) entry next) :
      entry.distance < next.distance :=
    invariant.next_distance sourcesInside isPending minimal isNext
  refine {
    settledFits := ?_
    pendingFits := ?_
    origin := ?_
    settledOrigin := ?_
    unique := ?_
    ordered := ?_
    nearer := ?_
    offered := ?_
    sources := fun source isSource =>
      (invariant.sources source isSource).mono_settled kept
  }
  · rintro other (rfl | member)
    · exact fits
    · exact invariant.settledFits other member
  · intro other member
    rcases old other member with isOld | isNext
    · exact invariant.pendingFits other isOld
    · exact ⟨isNext.inGrid, isNext.source ▸ fits.source, isNext.limit⟩
  · intro other member
    rcases old other member with isOld | isNext
    · rcases invariant.origin other isOld with
        isSourceCell | ⟨before, isSettled, rest⟩
      · exact .inl isSourceCell
      · exact .inr ⟨before, .inr isSettled, rest⟩
    · exact .inr ⟨entry, .inl rfl, isNext.source.symm, isNext.beside,
        forward other isNext⟩
  · rintro other (rfl | isSettled)
    · rcases invariant.origin other isPending with
        isSourceCell | ⟨before, beforeSettled, sameSource, beside, -⟩
      · exact .inl isSourceCell
      · exact .inr ⟨before, .inr beforeSettled, sameSource, beside⟩
    · rcases invariant.settledOrigin other isSettled with
        isSourceCell | ⟨before, beforeSettled, rest⟩
      · exact .inl isSourceCell
      · exact .inr ⟨before, .inr beforeSettled, rest⟩
  · rintro first (rfl | firstSettled) second (rfl | secondSettled) sameCell
    · rfl
    · exact absurd sameCell.symm (unsettled second secondSettled)
    · exact absurd sameCell (unsettled first firstSettled)
    · exact invariant.unique first firstSettled second secondSettled sameCell
  · rintro before (rfl | isSettled) other member
    · rcases old other member with isOld | isNext
      · exact minimal other isOld
      · exact (forward other isNext).le
    · rcases old other member with isOld | isNext
      · exact invariant.ordered before isSettled other isOld
      · exact (invariant.ordered before isSettled entry isPending).trans
          (forward other isNext).le
  · rintro other (rfl | isSettled) cell beside near
    · obtain ⟨before, beforeSettled, rest⟩ := nearer cell beside near
      exact ⟨before, .inr beforeSettled, rest⟩
    · obtain ⟨before, beforeSettled, rest⟩ :=
        invariant.nearer other isSettled cell beside near
      exact ⟨before, .inr beforeSettled, rest⟩
  · rintro other (rfl | isSettled) cell beside inside within
    · by_cases isOpen : ∀ before ∈ insert other settled, before.cell ≠ cell
      · exact .inr ⟨⟨cell, other.source⟩,
          added ⟨cell, other.source⟩ ⟨rfl, beside, inside, isOpen, within⟩, rfl,
          le_rfl⟩
      · push Not at isOpen
        obtain ⟨before, member, isCell⟩ := isOpen
        have different := beside.distanceSq_ne other.source
        rcases member with rfl | beforeSettled
        · rw [isCell] at different
          exact absurd rfl different
        · rcases Nat.lt_or_gt_of_ne different with farther | near
          · exact .inl ⟨before, .inr beforeSettled, isCell,
              (invariant.ordered before beforeSettled other isPending).trans
                farther.le⟩
          · obtain ⟨found, foundSettled, rest⟩ := nearer cell beside near
            exact .inl ⟨found, .inr foundSettled, rest⟩
    · exact (invariant.offered other isSettled cell beside inside
        within).mono_settled kept

end Steps

section Nearest

variable
  {sizeX sizeY limit : Nat}
  {isSource : GridCell → Prop}
  {settled : Set WaveEntry}
  {entry : WaveEntry}
  {cell : GridCell}

end Nearest

end NavBim
