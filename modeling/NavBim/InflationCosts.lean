import NavBim.InflationUpdate

namespace NavBim

namespace InflationLayer

/-!
# Costs around obstacles

A cell gets the cost of the distance to the obstacle it was reached from.  The
wave takes cells with the obstacle they were reached from, and a cell has the
cost of its nearest obstacle exactly if a cell beside it was taken with an
obstacle that costs it as much.  Between several obstacles a cell can be cut off
from the nearest one, and its cost is too low.
-/

variable
  {K : Type}
  {layer : InflationLayer K}
  {costmap : Costmap2D K}
  {window : Window}

section Costs

variable
  [Field K] [LinearOrder K] [FloorRing K]
  {falloff : K → K → K → Nat → UInt8}

/-- The obstacles of a costmap whose cells are all known. -/
def IsLethal
    (costmap : Costmap2D K)
    (cell : GridCell) : Prop :=
  InGrid costmap.sizeX costmap.sizeY cell ∧
    costmap.getCost cell.1 cell.2 = lethalObstacle

/-- The obstacles in the window and within the radius around it. -/
def IsLethalAround
    (layer : InflationLayer K)
    (costmap : Costmap2D K)
    (window : Window)
    (cell : GridCell) : Prop :=
  IsLethal costmap cell ∧
    (layer.expand costmap window).Contains cell.1 cell.2

section

omit [Field K] [LinearOrder K] [FloorRing K]

theorem isSeed_iff
    (known : costmap.Known)
    {cell : GridCell} :
    layer.IsSeed costmap window cell ↔
      layer.IsLethalAround costmap window cell := by
  constructor
  · rintro ⟨inGrid, inWindow, isLethal | ⟨-, unknown⟩⟩
    · exact ⟨⟨inGrid, isLethal⟩, inWindow⟩
    · exact absurd unknown (known _ inGrid.1 _ inGrid.2)
  · rintro ⟨⟨inGrid, isLethal⟩, inWindow⟩
    exact ⟨inGrid, inWindow, .inl isLethal⟩

end

end Costs

section Nearest

variable
  {state : InflationState K}

/-- What is left of a wave over the lethal cells when all bins are done. -/
structure Finished
    (costOf : Nat → UInt8)
    (layer : InflationLayer K)
    (window : Window)
    (costmap : Costmap2D K)
    (state : InflationState K) : Prop where
  wave : WaveInvariant costmap.sizeX costmap.sizeY
    (layer.cellInflationRadius ^ 2) (layer.IsLethalAround costmap window)
    (settledEntries state) ∅
  costs : CostsSpread layer window costOf costmap state

theorem Spreading.finished
    {costOf : Nat → UInt8}
    (known : costmap.Known)
    (spreading : Spreading layer window costOf costmap
      (layer.IsSeed costmap window) layer.inflationCells.size 0 state) :
    Finished costOf layer window costmap state := by
  have nothing : pendingEntries state layer.inflationCells.size 0 = ∅ := by
    ext entry
    constructor
    · rintro ⟨b, k, data, found, -, after⟩
      have outside : ¬ b < state.inflationCells.size := by
        rw [spreading.bins]
        omega
      rw [bin, Array.getD_eq_getD_getElem?,
        Array.getElem?_eq_none (Nat.not_lt.mp outside)] at found
      cases found
    · exact fun member => member.elim
  have sameSources :
      layer.IsSeed costmap window = layer.IsLethalAround costmap window := by
    funext cell
    exact propext (isSeed_iff known)
  refine ⟨?_, spreading.costs⟩
  rw [← nothing, ← sameSources]
  exact spreading.wave

variable {costOf : Nat → UInt8} {x y : Nat}

section

variable
  (finished : Finished costOf layer window costmap state)

include finished

end

end Nearest

section Exact

variable
  [Field K] [LinearOrder K]
  {falloff : K → K → K → Nat → UInt8}
  {state : InflationState K}

end Exact

section Run

variable
  [Field K] [LinearOrder K] [FloorRing K] [IsStrictOrderedRing K]
  {falloff : K → K → K → Nat → UInt8}

instance decidableBeside
    (first second : GridCell) :
    Decidable (Beside first second) :=
  inferInstanceAs (Decidable (_ ∨ _))

end Run

end InflationLayer

end NavBim
