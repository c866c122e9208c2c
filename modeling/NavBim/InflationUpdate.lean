import NavBim.InflationRun

namespace NavBim

namespace InflationLayer

/-!
# Updates with inflation

An update starts with the obstacles of the window and its surroundings in the
first bin, and visits the bins in order.  It never fails on a layer whose tables
fit, and leaves such a layer.
-/

section Bins

variable
  {K : Type}
  [Field K] [LinearOrder K]
  {falloff : K → K → K → Nat → UInt8}
  {layer : InflationLayer K}
  {window : Window}
  {start : Costmap2D K}
  {isSource : GridCell → Prop}
  {level i : Nat}
  {state : InflationState K}

section

variable
  (ready : Ready falloff layer)
  (sourcesInside : ∀ source, isSource source →
    InGrid start.sizeX start.sizeY source)

include ready sourcesInside

section

variable
  (spreading : Spreading layer window (layer.computeCost falloff) start
    isSource level i state)

include spreading

/-- One visit succeeds and keeps what is known. -/
theorem Spreading.visitCell
    {data : CellData}
    (found : (bin state level)[i]? = some data) :
    ∃ next, layer.visitCell window level data state = .ok next ∧
      Spreading layer window (layer.computeCost falloff) start isSource level
        (i + 1) next := by
  have fits := spreading.wave.pendingFits _ (mem_pendingEntries found)
  obtain ⟨xInside, yInside⟩ := fits.inGrid
  dsimp only [CellData.toEntry, CellData.cell] at xInside yInside
  have inside : data.y * start.sizeX + data.x < state.seen.size := by
    rw [spreading.seen]
    exact rowMajor_lt yInside xInside
  have isPlace := Array.getElem?_eq_getElem inside
  cases isSeen : state.seen[data.y * start.sizeX + data.x] with
  | true =>
      rw [isSeen] at isPlace
      refine ⟨state, ?_, spreading.skip found
        ((spreading.seenIff data.x xInside data.y yInside).mp isPlace)⟩
      have isIndex : state.costmap.getIndex data.x data.y =
          data.y * start.sizeX + data.x := by
        rw [Costmap2D.getIndex, spreading.grid]
      rw [InflationLayer.visitCell, isIndex, lookup_ok isPlace]
      rfl
  | false =>
      rw [isSeen] at isPlace
      obtain ⟨next, succeeds, visits⟩ :=
        Spreading.visits ready spreading found isPlace
      exact ⟨next, succeeds,
        spreading.settle sourcesInside found isPlace visits⟩

/-- All cells of a bin are visited, with those that are added to it. -/
theorem Spreading.processBin :
    ∃ next last, layer.processBin window level i state = .ok next ∧
      Spreading layer window (layer.computeCost falloff) start isSource level
        last next ∧
      (bin next level)[last]? = none := by
  obtain ⟨bound, isBound⟩ : ∃ bound, work state level i = bound := ⟨_, rfl⟩
  induction bound using Nat.strong_induction_on generalizing i state with
  | h bound inductionHypothesis =>
      rw [InflationLayer.processBin]
      split
      · case _ noCell => exact ⟨state, i, rfl, spreading, noCell⟩
      · case _ data found =>
        obtain ⟨next, succeeds, visited⟩ :=
          spreading.visitCell ready sourcesInside found
        have less := visitCell_work found succeeds
        split
        · case _ error fails =>
          rw [succeeds] at fails
          cases fails
        · case _ other isOther =>
          rw [succeeds] at isOther
          cases isOther
          exact inductionHypothesis _ (isBound ▸ less) visited rfl

end

/-- With a bin done the next one is begun. -/
theorem Spreading.processLevel
    (spreading : Spreading layer window (layer.computeCost falloff) start
      isSource level 0 state) :
    ∃ next, layer.processLevel window state level = .ok next ∧
      Spreading layer window (layer.computeCost falloff) start isSource
        (level + 1) 0 next := by
  obtain ⟨last, place, succeeds, done, noCell⟩ :=
    spreading.processBin ready sourcesInside
  rw [InflationLayer.processLevel, succeeds, ok_bind]
  refine ⟨_, rfl, ?_⟩
  have isBin (b : Nat) :
      bin { last with
          inflationCells := last.inflationCells.setIfInBounds level #[] } b =
        if level = b then #[] else bin last b := by
    rw [bin, bin, Array.getD_eq_getD_getElem?, Array.getD_eq_getD_getElem?,
      Array.getElem?_setIfInBounds]
    split
    · split
      · rfl
      · rfl
    · rfl
  have samePending :
      pendingEntries { last with
          inflationCells := last.inflationCells.setIfInBounds level #[] }
          (level + 1) 0 =
        pendingEntries last level place := by
    ext entry
    constructor
    · rintro ⟨b, k, data, found, isEntry, after⟩
      rw [isBin, if_neg (by omega)] at found
      exact ⟨b, k, data, found, isEntry, .inl (by omega)⟩
    · rintro ⟨b, k, data, found, isEntry, after⟩
      have notHere : level ≠ b := by
        rintro rfl
        rw [Array.getElem?_eq_none_iff] at noCell
        obtain ⟨inside, -⟩ := Array.getElem?_eq_some_iff.mp found
        omega
      refine ⟨b, k, data, ?_, isEntry, by omega⟩
      rw [isBin, if_neg notHere]
      exact found
  exact {
    grid := done.grid
    seen := done.seen
    bins := Array.size_setIfInBounds.trans done.bins
    wave := samePending ▸ done.wave
    binned := by
      intro b k data found
      rw [isBin] at found
      split at found
      · cases found
      · exact done.binned b k data found
    seenIff := done.seenIff
    done := by
      intro b before
      rw [isBin]
      split
      · rfl
      · exact done.done b (by omega)
    forward := done.forward
    assigned := done.assigned
    assignedSettled := done.assignedSettled
    costs := ⟨done.costs.settled, done.costs.unsettled⟩
  }

end

end Bins

section Seeds

variable
  {K : Type}
  {layer : InflationLayer K}
  {window : Window}
  {costmap : Costmap2D K}

/-- The cells that the layer inflates. -/
def IsObstacle
    (layer : InflationLayer K)
    (costmap : Costmap2D K)
    (cell : GridCell) : Prop :=
  costmap.getCost cell.1 cell.2 = lethalObstacle ∨
    (layer.inflateAroundUnknown ∧
      costmap.getCost cell.1 cell.2 = noInformation)

/-- The obstacles in the window and around it. -/
structure IsSeed
    (layer : InflationLayer K)
    (costmap : Costmap2D K)
    (window : Window)
    (cell : GridCell) : Prop where
  inGrid : InGrid costmap.sizeX costmap.sizeY cell
  inWindow : (layer.expand costmap window).Contains cell.1 cell.2
  isObstacle : layer.IsObstacle costmap cell

/-- A cell that was reached from itself. -/
def seedOf
    (cell : GridCell) : CellData where
  x := cell.1
  y := cell.2
  srcX := cell.1
  srcY := cell.2

theorem seedCell_ok
    {i j : Nat}
    (inGrid : InGrid costmap.sizeX costmap.sizeY (i, j))
    (obsBin : Array CellData) :
    ∃ next, layer.seedCell costmap j obsBin i = .ok next ∧
      ∀ data, data ∈ next ↔ data ∈ obsBin ∨
        data = seedOf (i, j) ∧ layer.IsObstacle costmap (i, j) := by
  obtain ⟨iInside, jInside⟩ := inGrid
  have inside := Costmap2D.getIndex_lt iInside jInside
  have isCost : costmap.costmap[costmap.getIndex i j]? =
      some (costmap.getCost i j) := by
    have isPlace : costmap.getIndex i j < costmap.costmap.size := inside
    rw [Array.getElem?_eq_getElem isPlace, Costmap2D.getCost,
      Array.getD_eq_getD_getElem?, Array.getElem?_eq_getElem isPlace,
      Option.getD_some]
  rw [seedCell, lookup_ok isCost, ok_bind]
  split
  · case isTrue isObstacle =>
    refine ⟨_, rfl, ?_⟩
    intro data
    rw [Array.mem_push]
    exact or_congr Iff.rfl ⟨fun isSeed => ⟨isSeed, isObstacle⟩, And.left⟩
  · case isFalse notObstacle =>
    refine ⟨_, rfl, ?_⟩
    intro data
    exact ⟨.inl, fun member =>
      member.resolve_right fun isSeed => notObstacle isSeed.2⟩

theorem expand_bounds
    (layer : InflationLayer K)
    (costmap : Costmap2D K)
    (window : Window) :
    0 ≤ (layer.expand costmap window).minI ∧
      0 ≤ (layer.expand costmap window).minJ ∧
      (layer.expand costmap window).maxI ≤ costmap.sizeX ∧
      (layer.expand costmap window).maxJ ≤ costmap.sizeY :=
  ⟨le_max_left _ _, le_max_left _ _, min_le_left _ _, min_le_left _ _⟩

/-- The obstacles of a row are added. -/
theorem seedRow_ok
    (window : Window)
    (fromZero : 0 ≤ window.minI)
    (toSize : window.maxI ≤ costmap.sizeX)
    {j : Nat}
    (jInside : j < costmap.sizeY)
    (obsBin : Array CellData) :
    ∃ next,
      (List.range' window.minI.toNat
        (window.maxI - window.minI).toNat).foldlM (layer.seedCell costmap j)
          obsBin = .ok next ∧
      ∀ data, data ∈ next ↔ data ∈ obsBin ∨
        ∃ i : Nat, window.minI ≤ i ∧ i < window.maxI ∧ data = seedOf (i, j) ∧
          layer.IsObstacle costmap (i, j) := by
  obtain ⟨next, succeeds, member⟩ := (@holds_foldlM_range OutOfBounds _
    (fun (last : Nat) (bin : Array CellData) => ∀ data, data ∈ bin ↔
      data ∈ obsBin ∨
        ∃ i, window.minI.toNat ≤ i ∧ i < last ∧ data = seedOf (i, j) ∧
          layer.IsObstacle costmap (i, j))
    (fun _ => False) (layer.seedCell costmap j)
    (window.maxI - window.minI).toNat window.minI.toNat obsBin
    (by
      intro data
      constructor
      · exact .inl
      · rintro (isOld | ⟨i, atLeast, below, -⟩)
        · exact isOld
        · omega)
    (by
      intro i bin atLeast below known
      obtain ⟨next, succeeds, added⟩ := @seedCell_ok K layer costmap i j
        ⟨by dsimp only; omega, jInside⟩ bin
      rw [succeeds]
      intro data
      rw [added, known]
      constructor
      · rintro ((isOld | ⟨i', bounds, before, rest⟩) | isSeed)
        · exact .inl isOld
        · exact .inr ⟨i', bounds, by omega, rest⟩
        · exact .inr ⟨i, atLeast, Nat.lt_succ_self i, isSeed⟩
      · rintro (isOld | ⟨i', bounds, before, rest⟩)
        · exact .inl (.inl isOld)
        · rcases Nat.lt_succ_iff_lt_or_eq.mp before with less | rfl
          · exact .inl (.inr ⟨i', bounds, less, rest⟩)
          · exact .inr rest)).exists_ok
  refine ⟨next, succeeds, ?_⟩
  intro data
  rw [member]
  constructor
  · rintro (isOld | ⟨i, atLeast, below, rest⟩)
    · exact .inl isOld
    · exact .inr ⟨i, by omega, by omega, rest⟩
  · rintro (isOld | ⟨i, atLeast, below, rest⟩)
    · exact .inl isOld
    · exact .inr ⟨i, by omega, by omega, rest⟩

/-- The first bin gets exactly the obstacles of the window. -/
theorem seedCells_ok
    (window : Window)
    (obsBin : Array CellData) :
    ∃ next,
      layer.seedCells costmap (layer.expand costmap window) obsBin =
        .ok next ∧
      ∀ data, data ∈ next ↔ data ∈ obsBin ∨
        ∃ cell, layer.IsSeed costmap window cell ∧ data = seedOf cell := by
  obtain ⟨fromZeroI, fromZeroJ, toSizeI, toSizeJ⟩ :=
    expand_bounds layer costmap window
  obtain ⟨expanded, isExpanded⟩ :
      ∃ expanded, layer.expand costmap window = expanded := ⟨_, rfl⟩
  rw [isExpanded] at fromZeroI fromZeroJ toSizeI toSizeJ ⊢
  obtain ⟨next, succeeds, member⟩ := (@holds_foldlM_range OutOfBounds _
    (fun (last : Nat) (bin : Array CellData) => ∀ data, data ∈ bin ↔
      data ∈ obsBin ∨ ∃ i j : Nat, expanded.minJ.toNat ≤ j ∧ j < last ∧
        expanded.minI ≤ i ∧ i < expanded.maxI ∧ data = seedOf (i, j) ∧
          layer.IsObstacle costmap (i, j))
    (fun _ => False)
    (fun obsBin j => (List.range' expanded.minI.toNat
      (expanded.maxI - expanded.minI).toNat).foldlM (layer.seedCell costmap j)
        obsBin)
    (expanded.maxJ - expanded.minJ).toNat expanded.minJ.toNat obsBin
    (by
      intro data
      constructor
      · exact .inl
      · rintro (isOld | ⟨i, j, atLeast, below, -⟩)
        · exact isOld
        · omega)
    (by
      intro j bin atLeast below known
      obtain ⟨next, succeeds, added⟩ := @seedRow_ok K layer costmap expanded
        fromZeroI toSizeI j (by omega) bin
      rw [succeeds]
      intro data
      rw [added, known]
      constructor
      · rintro ((isOld | ⟨i, j', bounds, before, rest⟩) | ⟨i, rest⟩)
        · exact .inl isOld
        · exact .inr ⟨i, j', bounds, by omega, rest⟩
        · exact .inr ⟨i, j, atLeast, Nat.lt_succ_self j, rest⟩
      · rintro (isOld | ⟨i, j', bounds, before, rest⟩)
        · exact .inl (.inl isOld)
        · rcases Nat.lt_succ_iff_lt_or_eq.mp before with less | rfl
          · exact .inl (.inr ⟨i, j', bounds, less, rest⟩)
          · exact .inr ⟨i, rest⟩)).exists_ok
  refine ⟨next, succeeds, ?_⟩
  intro data
  rw [member]
  constructor
  · rintro (isOld | ⟨i, j, atLeast, below, left, right, isSeed, isObstacle⟩)
    · exact .inl isOld
    · refine .inr ⟨(i, j), ⟨⟨?_, ?_⟩, ?_, isObstacle⟩, isSeed⟩
      · dsimp only
        omega
      · dsimp only
        omega
      · rw [isExpanded]
        refine ⟨left, ?_, right, ?_⟩
        · dsimp only
          omega
        · dsimp only
          omega
  · rintro (isOld | ⟨⟨i, j⟩, isSeed, rfl⟩)
    · exact .inl isOld
    · obtain ⟨-, contains, isObstacle⟩ := isSeed
      rw [isExpanded] at contains
      obtain ⟨left, below, right, above⟩ := contains
      exact .inr ⟨i, j, by dsimp only at below; omega,
        by dsimp only at above below; omega, left, right, rfl, isObstacle⟩

end Seeds

section Update

variable
  {K : Type}
  [Field K] [LinearOrder K]
  {falloff : K → K → K → Nat → UInt8}
  {layer : InflationLayer K}

omit [Field K] [LinearOrder K] in
theorem clearedSeen_spec
    (costmap : Costmap2D K)
    (seen : Array Bool) :
    (clearedSeen costmap seen).size = costmap.sizeX * costmap.sizeY ∧
      ∀ place : Nat, (clearedSeen costmap seen)[place]? ≠ some true := by
  constructor
  · rw [clearedSeen, Array.size_map]
    split
    · exact Array.size_replicate
    · case isFalse same => exact not_not.mp same
  · intro place
    rw [clearedSeen, Array.getElem?_map]
    intro isTrue
    obtain ⟨old, -, impossible⟩ := Option.map_eq_some_iff.mp isTrue
    cases impossible

/-- The state that an update starts with. -/
def startState
    (layer : InflationLayer K)
    (costmap : Costmap2D K)
    (obsBin : Array CellData) : InflationState K where
  costmap := costmap
  seen := clearedSeen costmap layer.seen
  inflationCells := layer.inflationCells.setIfInBounds 0 obsBin
  settled := []
  assigned := []
  enqueued := []

/-- With the obstacles in the first bin nothing is visited yet. -/
theorem startState_spreading
    (ready : Ready falloff layer)
    (empty : BinsEmpty layer.inflationCells)
    (costmap : Costmap2D K)
    (window : Window)
    {obsBin : Array CellData}
    (seeds : ∀ data, data ∈ obsBin ↔
      ∃ cell, layer.IsSeed costmap window cell ∧ data = seedOf cell) :
    Spreading layer window (layer.computeCost falloff) costmap
      (layer.IsSeed costmap window) 0 0 (startState layer costmap obsBin) := by
  obtain ⟨size, notSeen⟩ := clearedSeen_spec costmap layer.seen
  have hasBin : 0 < layer.inflationCells.size := by
    rw [ready.inflationCells]
    exact Nat.succ_pos _
  have isBin (b : Nat) : bin (startState layer costmap obsBin) b =
      if b = 0 then obsBin else #[] := by
    rw [bin, startState]
    dsimp only
    rw [Array.getD_eq_getD_getElem?]
    by_cases isFirst : b = 0
    · subst isFirst
      rw [Array.getElem?_setIfInBounds_self_of_lt hasBin, if_pos rfl]
      rfl
    · rw [Array.getElem?_setIfInBounds_ne (Ne.symm isFirst), if_neg isFirst]
      cases found : layer.inflationCells[b]? with
      | none => rfl
      | some cells => exact empty b cells found
  have seedOfFound {b k : Nat}
      {data : CellData}
      (found : (bin (startState layer costmap obsBin) b)[k]? = some data) :
      b = 0 ∧ ∃ cell, layer.IsSeed costmap window cell ∧ data = seedOf cell := by
    rw [isBin] at found
    split at found
    · case isTrue isFirst =>
      exact ⟨isFirst, (seeds data).mp (Array.mem_of_getElem? found)⟩
    · cases found
  have seedFound {cell : GridCell}
      (isSeed : layer.IsSeed costmap window cell) :
      (seedOf cell).toEntry ∈
        pendingEntries (startState layer costmap obsBin) 0 0 := by
    obtain ⟨k, found⟩ := Array.mem_iff_getElem?.mp
      ((seeds (seedOf cell)).mpr ⟨cell, isSeed, rfl⟩)
    exact ⟨0, k, seedOf cell, by rw [isBin, if_pos rfl]; exact found, rfl,
      .inr ⟨rfl, Nat.zero_le k⟩⟩
  have distance (cell : GridCell) : (seedOf cell).toEntry.distance = 0 :=
    distanceSq_self cell
  have nothing (entry : WaveEntry) :
      entry ∉ settledEntries (startState layer costmap obsBin) := by
    rintro ⟨data, member, -⟩
    cases member
  exact {
    grid := rfl
    seen := size
    bins := Array.size_setIfInBounds
    wave := {
      settledFits := fun entry member => absurd member (nothing entry)
      pendingFits := by
        rintro entry ⟨b, k, data, found, rfl, -⟩
        obtain ⟨-, cell, isSeed, rfl⟩ := seedOfFound found
        exact ⟨isSeed.inGrid, isSeed, by rw [distance]; exact Nat.zero_le _⟩
      origin := by
        rintro entry ⟨b, k, data, found, rfl, -⟩
        obtain ⟨-, cell, -, rfl⟩ := seedOfFound found
        exact .inl rfl
      settledOrigin := fun entry member => absurd member (nothing entry)
      unique := fun entry member => absurd member (nothing entry)
      ordered := fun entry member => absurd member (nothing entry)
      nearer := fun entry member => absurd member (nothing entry)
      offered := fun entry member => absurd member (nothing entry)
      sources := fun source isSeed =>
        .inr ⟨(seedOf source).toEntry, seedFound isSeed, rfl,
          (distance source).le⟩
    }
    binned := by
      intro b k data found
      obtain ⟨rfl, cell, -, rfl⟩ := seedOfFound found
      exact binOf_self _ cell
    seenIff := by
      intro x _ y _
      constructor
      · intro isSeen
        exact absurd isSeen (notSeen _)
      · rintro ⟨data, member, -⟩
        cases member
    done := fun b before => absurd before (Nat.not_lt_zero b)
    forward := fun pair member => by cases member
    assigned := List.nodup_nil
    assignedSettled := fun index member => by cases member
    costs := ⟨fun data member => (by cases member), fun _ _ _ _ _ => rfl⟩
  }

/-- An update that is not left out succeeds, and all its cells are visited. -/
theorem updateCosts_spreading
    (ready : Ready falloff layer)
    (empty : BinsEmpty layer.inflationCells)
    (enabled : layer.enabled = true)
    (notZero : layer.cellInflationRadius ≠ 0)
    (costmap : Costmap2D K)
    (window : Window) :
    ∃ state,
      layer.updateCosts costmap window =
        .ok ({ layer with
          inflationCells := state.inflationCells
          seen := state.seen
          current := true }, state) ∧
      Spreading layer window (layer.computeCost falloff) costmap
        (layer.IsSeed costmap window) layer.inflationCells.size 0 state := by
  have hasBin : 0 < layer.inflationCells.size := by
    rw [ready.inflationCells]
    exact Nat.succ_pos _
  have isFirst := Array.getElem?_eq_getElem hasBin
  have isEmpty := empty 0 _ isFirst
  obtain ⟨obsBin, isSeeded, members⟩ :=
    @seedCells_ok K layer costmap window #[]
  have seeds : ∀ data, data ∈ obsBin ↔
      ∃ cell, layer.IsSeed costmap window cell ∧ data = seedOf cell := by
    intro data
    rw [members]
    exact ⟨fun member => member.resolve_left (by simp), .inr⟩
  have start := startState_spreading ready empty costmap window seeds
  obtain ⟨state, isState, spreading⟩ := (@holds_foldlM_range OutOfBounds _
    (fun level state => Spreading layer window (layer.computeCost falloff)
      costmap (layer.IsSeed costmap window) level 0 state)
    (fun _ => False) (layer.processLevel window) layer.inflationCells.size 0
    (startState layer costmap obsBin) start
    (by
      intro level state _ _ spreading
      obtain ⟨next, succeeds, after⟩ := spreading.processLevel ready
        fun source isSeed => isSeed.inGrid
      rw [succeeds]
      exact after)).exists_ok
  rw [Nat.zero_add] at spreading
  refine ⟨state, ?_, spreading⟩
  have isOn : ¬ (!layer.enabled || decide (layer.cellInflationRadius = 0)) =
      true := by
    simp [enabled, notZero]
  rw [updateCosts, if_neg isOn]
  rw [isEmpty] at isFirst
  rw [lookup_ok isFirst, ok_bind, isSeeded, ok_bind]
  rw [startState] at isState
  rw [isState]
  rfl

omit [Field K] [LinearOrder K] in
theorem Spreading.binsEmpty
    {window : Window}
    {costOf : Nat → UInt8}
    {costmap : Costmap2D K}
    {isSource : GridCell → Prop}
    {state : InflationState K}
    (spreading : Spreading layer window costOf costmap isSource
      layer.inflationCells.size 0 state) :
    BinsEmpty state.inflationCells := by
  intro level cells found
  obtain ⟨inside, -⟩ := Array.getElem?_eq_some_iff.mp found
  have isDone := spreading.done level (inside.trans_eq spreading.bins)
  rw [bin, Array.getD_eq_getD_getElem?, found] at isDone
  exact isDone

end Update

section Runs

variable
  {K : Type}
  [Field K] [LinearOrder K] [FloorRing K]
  {falloff : K → K → K → Nat → UInt8}
  {layer after : InflationLayer K}

/-- The layers that come of any sequence of calls. -/
inductive LayerRun
    (falloff : K → K → K → Nat → UInt8) : InflationLayer K → Prop where
  | onInitialize
      (name : String)
      (grid : Grid K)
      (enabled : Bool)
      (inflationRadius costScalingFactor : K)
      (inflateUnknown inflateAroundUnknown : Bool) :
      LayerRun falloff (onInitialize falloff grid enabled inflationRadius
        costScalingFactor inflateUnknown inflateAroundUnknown (new name))
  | matchSize
      {layer : InflationLayer K}
      (run : LayerRun falloff layer)
      (grid : Grid K) :
      LayerRun falloff (matchSize falloff grid layer)
  | onFootprintChanged
      {layer : InflationLayer K}
      (run : LayerRun falloff layer)
      (grid : Grid K)
      (inscribedRadius : K) :
      LayerRun falloff (onFootprintChanged falloff grid inscribedRadius layer)
  | dynamicParametersCallback
      {layer : InflationLayer K}
      (run : LayerRun falloff layer)
      (grid : Grid K)
      (parameters : List (String × ParameterValue K)) :
      LayerRun falloff
        (dynamicParametersCallback falloff grid parameters layer)
  | reset
      {layer : InflationLayer K}
      (run : LayerRun falloff layer)
      (grid : Grid K) :
      LayerRun falloff (reset falloff grid layer)
  | updateCosts
      {layer after : InflationLayer K}
      {state : InflationState K}
      (run : LayerRun falloff layer)
      (costmap : Costmap2D K)
      (window : Window)
      (succeeds : layer.updateCosts costmap window = .ok (after, state)) :
      LayerRun falloff after

omit [FloorRing K] in
/-- An update of a layer whose tables fit succeeds, only goes forward, assigns
each cell once at most, and leaves empty bins. -/
theorem TablesFit.updateCosts
    (fit : TablesFit falloff layer)
    (costmap : Costmap2D K)
    (window : Window) :
    ∃ after state, layer.updateCosts costmap window = .ok (after, state) ∧
      (∀ pair ∈ state.enqueued, pair.1 < pair.2) ∧ state.assigned.Nodup ∧
      TablesFit falloff after := by
  by_cases isOn : layer.enabled = true ∧ layer.cellInflationRadius ≠ 0
  · obtain ⟨enabled, notZero⟩ := isOn
    have ready := fit.ready.resolve_left notZero
    obtain ⟨state, succeeds, spreading⟩ := updateCosts_spreading ready fit.empty
      enabled notZero costmap window
    exact ⟨_, state, succeeds, spreading.forward, spreading.assigned,
      fit.cached, .inr ⟨ready.cacheLength, ready.cachedDistances,
        ready.cachedCosts, ready.distanceMatrix,
        spreading.bins.trans ready.inflationCells⟩, spreading.binsEmpty⟩
  · have isOff : (!layer.enabled || decide (layer.cellInflationRadius = 0)) =
        true := by
      rw [Bool.or_eq_true, Bool.not_eq_true', decide_eq_true_eq]
      rw [not_and_or, not_not, Bool.not_eq_true] at isOn
      exact isOn
    rw [InflationLayer.updateCosts, if_pos isOff]
    exact ⟨_, _, rfl, fun pair member => (by cases member), List.nodup_nil, fit⟩

theorem LayerRun.tablesFit
    (run : LayerRun falloff layer) :
    TablesFit falloff layer := by
  induction run with
  | onInitialize name grid enabled inflationRadius costScalingFactor
      inflateUnknown inflateAroundUnknown =>
      exact onInitialize_fit name grid enabled inflationRadius costScalingFactor
        inflateUnknown inflateAroundUnknown
  | matchSize _ grid inductionHypothesis =>
      exact TablesFit.matchSize inductionHypothesis.cached
        inductionHypothesis.empty grid
  | onFootprintChanged _ grid inscribedRadius inductionHypothesis =>
      exact inductionHypothesis.onFootprintChanged grid inscribedRadius
  | dynamicParametersCallback _ grid parameters inductionHypothesis =>
      exact inductionHypothesis.dynamicParametersCallback grid parameters
  | reset _ grid inductionHypothesis => exact inductionHypothesis.reset grid
  | updateCosts _ costmap window succeeds inductionHypothesis =>
      obtain ⟨after, state, isAfter, -, -, fit⟩ :=
        inductionHypothesis.updateCosts costmap window
      rw [succeeds] at isAfter
      cases isAfter
      exact fit

/-- After any sequence of calls, an update reads no table out of bounds, adds no
cell to a bin that was processed before, assigns each cell once at most, and
leaves all bins empty. -/
theorem updateCosts_forward
    (run : LayerRun falloff layer)
    (costmap : Costmap2D K)
    (window : Window) :
    TablesFit falloff layer ∧
      ∃ after state, layer.updateCosts costmap window = .ok (after, state) ∧
        (∀ pair ∈ state.enqueued, pair.1 ≤ pair.2) ∧ state.assigned.Nodup ∧
        BinsEmpty after.inflationCells := by
  refine ⟨run.tablesFit, ?_⟩
  obtain ⟨after, state, succeeds, forward, assigned, fit⟩ :=
    run.tablesFit.updateCosts costmap window
  exact ⟨after, state, succeeds, fun pair member => (forward pair member).le,
    assigned, fit.empty⟩

/-- An initialized layer with a radius of three cells. -/
theorem initialized_updateCosts_forward :
    TablesFit (fun _ _ _ _ => 100)
        (onInitialize (fun _ _ _ _ => 100) (⟨4, 4, 1, 0, 0⟩ : Grid ℚ) true 3 1
          false false (new "inflation")) ∧
      ∃ after state,
        (onInitialize (fun _ _ _ _ => 100) (⟨4, 4, 1, 0, 0⟩ : Grid ℚ) true 3 1
          false false (new "inflation")).updateCosts
            (.filled ⟨4, 4, 1, 0, 0⟩ lethalObstacle) ⟨0, 0, 4, 4⟩ =
              .ok (after, state) ∧
        (∀ pair ∈ state.enqueued, pair.1 ≤ pair.2) ∧ state.assigned.Nodup ∧
        BinsEmpty after.inflationCells :=
  updateCosts_forward (.onInitialize "inflation" ⟨4, 4, 1, 0, 0⟩ true 3 1 false
    false) _ _

end Runs

end InflationLayer

end NavBim
