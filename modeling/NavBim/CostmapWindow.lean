import Mathlib
import NavBim.Costmap2D

namespace NavBim

/-!
# Windows of a costmap

A window of a costmap is a rectangle of cells.  Costs for the cells of a window
come row by row, and writing them changes the cells of the window only.
-/

namespace Costmap2D

variable {K : Type}

/-- Write costs into a row, from a cell on. -/
def writeRow
    (map : Costmap2D K)
    (x y : Nat)
    (costs : Nat → UInt8) : Nat → Costmap2D K
  | 0 => map
  | count + 1 =>
      (map.writeRow x y costs count).setCost (x + count) y (costs count)

/-- Write costs into the rows of a window with its first cell at `(x, y)`. -/
def writeWindow
    (map : Costmap2D K)
    (x y sizeX : Nat)
    (costs : Nat → UInt8) : Nat → Costmap2D K
  | 0 => map
  | row + 1 =>
      (map.writeWindow x y sizeX costs row).writeRow x (y + row)
        (fun column => costs (row * sizeX + column)) sizeX

/-- The costs of a window, row by row. -/
def window
    (map : Costmap2D K)
    (x y sizeX sizeY : Nat) : Array UInt8 :=
  Array.ofFn fun position : Fin (sizeX * sizeY) =>
    map.getCost (x + position % sizeX) (y + position / sizeX)

variable {map : Costmap2D K}

@[simp] theorem writeRow_toGrid
    (x y : Nat)
    (costs : Nat → UInt8)
    (count : Nat) :
    (map.writeRow x y costs count).toGrid = map.toGrid := by
  induction count with
  | zero =>
      rfl
  | succ count inductionHypothesis =>
      exact inductionHypothesis

@[simp] theorem writeWindow_toGrid
    (x y sizeX : Nat)
    (costs : Nat → UInt8)
    (rows : Nat) :
    (map.writeWindow x y sizeX costs rows).toGrid = map.toGrid := by
  induction rows with
  | zero =>
      rfl
  | succ row inductionHypothesis =>
      rw [writeWindow, writeRow_toGrid]
      exact inductionHypothesis

theorem getCost_writeRow
    {x y x' y' count : Nat}
    (costs : Nat → UInt8)
    (xInside : x + count ≤ map.sizeX)
    (yInside : y < map.sizeY)
    (xInside' : x' < map.sizeX) :
    (map.writeRow x y costs count).getCost x' y' =
      if y = y' ∧ x ≤ x' ∧ x' < x + count then costs (x' - x)
      else map.getCost x' y' := by
  induction count with
  | zero =>
      have outside : ¬(y = y' ∧ x ≤ x' ∧ x' < x + 0) := by omega
      rw [if_neg outside]
      rfl
  | succ count inductionHypothesis =>
      have grid : (map.writeRow x y costs count).toGrid = map.toGrid :=
        writeRow_toGrid x y costs count
      have sizeX := congrArg Grid.sizeX grid
      have sizeY := congrArg Grid.sizeY grid
      rw [writeRow, getCost_setCost _ (by rw [sizeX]; omega)
        (by rw [sizeY]; exact yInside) (by rw [sizeX]; exact xInside'),
        inductionHypothesis (by omega)]
      by_cases last : x + count = x' ∧ y = y'
      · obtain ⟨rfl, rfl⟩ := last
        rw [if_pos ⟨rfl, rfl⟩, if_pos (by omega), Nat.add_sub_cancel_left]
      · rw [if_neg last]
        by_cases earlier : y = y' ∧ x ≤ x' ∧ x' < x + count
        · rw [if_pos earlier, if_pos (by omega)]
        · rw [if_neg earlier, if_neg (by omega)]

/-- The cells of the window have the costs written, and the others keep
theirs. -/
theorem getCost_writeWindow
    {x y sizeX rows x' y' : Nat}
    (costs : Nat → UInt8)
    (xInside : x + sizeX ≤ map.sizeX)
    (yInside : y + rows ≤ map.sizeY)
    (xInside' : x' < map.sizeX) :
    (map.writeWindow x y sizeX costs rows).getCost x' y' =
      if (x ≤ x' ∧ x' < x + sizeX) ∧ y ≤ y' ∧ y' < y + rows then
        costs ((y' - y) * sizeX + (x' - x))
      else map.getCost x' y' := by
  induction rows with
  | zero =>
      have outside : ¬((x ≤ x' ∧ x' < x + sizeX) ∧ y ≤ y' ∧ y' < y + 0) := by
        omega
      rw [if_neg outside]
      rfl
  | succ row inductionHypothesis =>
      have grid : (map.writeWindow x y sizeX costs row).toGrid = map.toGrid :=
        writeWindow_toGrid x y sizeX costs row
      have sizes := congrArg Grid.sizeX grid
      have sizesY := congrArg Grid.sizeY grid
      rw [writeWindow, getCost_writeRow _ (by rw [sizes]; exact xInside)
        (by rw [sizesY]; omega) (by rw [sizes]; exact xInside'),
        inductionHypothesis (by omega)]
      by_cases last : y + row = y' ∧ x ≤ x' ∧ x' < x + sizeX
      · rw [if_pos last, if_pos ⟨last.2, by omega⟩, ← last.1,
          Nat.add_sub_cancel_left]
      · rw [if_neg last]
        by_cases earlier : (x ≤ x' ∧ x' < x + sizeX) ∧ y ≤ y' ∧ y' < y + row
        · rw [if_pos earlier, if_pos ⟨earlier.1, by omega⟩]
        · rw [if_neg earlier, if_neg (by omega)]

theorem size_window
    (x y sizeX sizeY : Nat) :
    (map.window x y sizeX sizeY).size = sizeX * sizeY :=
  Array.size_ofFn

theorem getD_window
    {x y sizeX sizeY column row : Nat}
    (columnInside : column < sizeX)
    (rowInside : row < sizeY)
    (default : UInt8) :
    (map.window x y sizeX sizeY).getD (row * sizeX + column) default =
      map.getCost (x + column) (y + row) := by
  have inside : row * sizeX + column < (map.window x y sizeX sizeY).size := by
    rw [size_window]
    exact rowMajor_lt rowInside columnInside
  rw [Array.getD_eq_getD_getElem?, Array.getElem?_eq_getElem inside,
    Option.getD_some]
  simp only [window, Array.getElem_ofFn]
  rw [rowMajor_mod columnInside, rowMajor_div columnInside]

end Costmap2D

end NavBim
