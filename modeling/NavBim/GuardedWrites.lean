import Mathlib.Data.List.ProdSigma
import Mathlib.Tactic

namespace NavBim

/-!
# Writes into an array

Values are written one after another into an array.  Each write has a value, if
there is one to read, and a position.  Without a value or outside the array the
writes end without a result.
-/

section Writes

variable
  {ι α : Type}
  (position : ι → Nat)
  (value : ι → Option α)

/-- One write. -/
def writeOne
    (cells : Array α)
    (item : ι) : Option (Array α) := do
  let written ← value item
  if position item < cells.size then
    some (cells.setIfInBounds (position item) written)
  else
    none

/-- All writes, in order. -/
def writeEach
    (items : List ι)
    (cells : Array α) : Option (Array α) :=
  items.foldlM (writeOne position value) cells

variable
  {position value}
  {items : List ι}
  {cells after : Array α}

theorem writeOne_eq_some
    {item : ι}
    (isAfter : writeOne position value cells item = some after) :
    ∃ written, value item = some written ∧ position item < cells.size ∧
      after = cells.setIfInBounds (position item) written := by
  obtain ⟨written, hasValue, isResult⟩ := Option.bind_eq_some_iff.mp isAfter
  split at isResult
  · case isTrue inside =>
    cases isResult
    exact ⟨written, hasValue, inside, rfl⟩
  · cases isResult

theorem writeOne_inside
    {item : ι}
    {written : α}
    (hasValue : value item = some written)
    (inside : position item < cells.size) :
    writeOne position value cells item =
      some (cells.setIfInBounds (position item) written) := by
  rw [writeOne, hasValue]
  exact if_pos inside

theorem writeEach_last
    {last : ι}
    (isAfter : writeEach position value (items ++ [last]) cells = some after) :
    position last < after.size ∧
      ∃ written, value last = some written ∧
        after[position last]? = some written := by
  rw [writeEach, List.foldlM_append] at isAfter
  obtain ⟨before, -, isLast⟩ := Option.bind_eq_some_iff.mp isAfter
  obtain ⟨result, isLast, isResult⟩ := Option.bind_eq_some_iff.mp isLast
  cases isResult
  obtain ⟨written, hasValue, inside, rfl⟩ := writeOne_eq_some isLast
  refine ⟨?_, written, hasValue, ?_⟩
  · rw [Array.size_setIfInBounds]
    exact inside
  · exact Array.getElem?_setIfInBounds_self_of_lt inside

/-- Writes inside the array, with a value for each, have a result.  Positions
without a write keep their values, and a position that one write only goes to
gets its value. -/
theorem writeEach_inside
    (inside : ∀ item ∈ items, position item < cells.size)
    (hasValue : ∀ item ∈ items, (value item).isSome)
    (apart : items.Pairwise fun first second =>
      position first ≠ position second) :
    ∃ after, writeEach position value items cells = some after ∧
      after.size = cells.size ∧
      (∀ item ∈ items, after[position item]? = value item) ∧
      ∀ i : Nat, (∀ item ∈ items, position item ≠ i) →
        after[i]? = cells[i]? := by
  induction items generalizing cells with
  | nil =>
      refine ⟨cells, rfl, rfl, ?_, fun _ _ => rfl⟩
      intro item member
      cases member
  | cons item rest inductionHypothesis =>
      obtain ⟨firstApart, restApart⟩ := List.pairwise_cons.mp apart
      obtain ⟨written, isWritten⟩ :=
        Option.isSome_iff_exists.mp (hasValue item List.mem_cons_self)
      have itemInside := inside item List.mem_cons_self
      obtain ⟨after, isAfter, size, writes, others⟩ :=
        @inductionHypothesis (cells.setIfInBounds (position item) written)
          (fun other member => by
            rw [Array.size_setIfInBounds]
            exact inside other (List.mem_cons_of_mem _ member))
          (fun other member => hasValue other (List.mem_cons_of_mem _ member))
          restApart
      refine ⟨after, ?_, size.trans Array.size_setIfInBounds, ?_, ?_⟩
      · rw [writeEach, List.foldlM_cons, Option.bind_eq_bind,
          writeOne_inside isWritten itemInside]
        exact isAfter
      · intro other member
        cases member with
        | head =>
            rw [others _ fun later isLater => (firstApart later isLater).symm,
              isWritten]
            exact Array.getElem?_setIfInBounds_self_of_lt itemInside
        | tail _ member => exact writes other member
      · intro i untouched
        rw [others i fun later isLater =>
          untouched later (List.mem_cons_of_mem _ isLater)]
        exact Array.getElem?_setIfInBounds_ne
          (untouched item List.mem_cons_self)

end Writes

section Windows

/-- The cells of a window, row by row, each as its row and column. -/
def rowMajor
    (width height : Nat) : List (Nat × Nat) :=
  List.range height ×ˢ List.range width

theorem mem_rowMajor
    {width height row column : Nat} :
    (row, column) ∈ rowMajor width height ↔
      row < height ∧ column < width := by
  rw [rowMajor, List.mem_product, List.mem_range, List.mem_range]

/-- The place of a cell in a window. -/
theorem rowMajor_lt
    {width height row column : Nat}
    (rowInside : row < height)
    (columnInside : column < width) :
    row * width + column < width * height :=
  calc row * width + column
      < row * width + width := Nat.add_lt_add_left columnInside _
    _ = (row + 1) * width := (Nat.succ_mul row width).symm
    _ ≤ height * width := Nat.mul_le_mul_right width rowInside
    _ = width * height := Nat.mul_comm _ _

theorem rowMajor_div
    {width row column : Nat}
    (columnInside : column < width) :
    (row * width + column) / width = row := by
  rw [Nat.mul_comm, Nat.mul_add_div (Nat.zero_lt_of_lt columnInside),
    Nat.div_eq_of_lt columnInside, Nat.add_zero]

theorem rowMajor_mod
    {width row column : Nat}
    (columnInside : column < width) :
    (row * width + column) % width = column := by
  rw [Nat.mul_comm, Nat.mul_add_mod, Nat.mod_eq_of_lt columnInside]

/-- Different cells have different places. -/
theorem rowMajor_inj
    {width row column row' column' : Nat}
    (columnInside : column < width)
    (columnInside' : column' < width)
    (same : row * width + column = row' * width + column') :
    row = row' ∧ column = column' := by
  have rows : (row * width + column) / width = row :=
    rowMajor_div columnInside
  have columns : (row * width + column) % width = column :=
    rowMajor_mod columnInside
  rw [same, rowMajor_div columnInside'] at rows
  rw [same, rowMajor_mod columnInside'] at columns
  exact ⟨rows.symm, columns.symm⟩

theorem rowMajor_nodup
    (width height : Nat) :
    (rowMajor width height).Nodup :=
  List.nodup_range.product List.nodup_range

/-- A window without cells. -/
theorem rowMajor_empty
    {width height : Nat}
    (isEmpty : width = 0 ∨ height = 0) :
    rowMajor width height = [] := by
  apply List.eq_nil_iff_forall_not_mem.mpr
  rintro ⟨row, column⟩ member
  have inside := mem_rowMajor.mp member
  omega

/-- A window with cells has a last one. -/
theorem rowMajor_last
    {width height : Nat}
    (notEmpty : ¬ (width = 0 ∨ height = 0)) :
    ∃ items row column, rowMajor width height = items ++ [(row, column)] := by
  obtain ⟨width, rfl⟩ := Nat.exists_eq_succ_of_ne_zero (not_or.mp notEmpty).1
  obtain ⟨height, rfl⟩ := Nat.exists_eq_succ_of_ne_zero (not_or.mp notEmpty).2
  refine ⟨(List.range height ×ˢ List.range (width + 1)) ++
    (List.range width).map (Prod.mk height), height, width, ?_⟩
  have rows : rowMajor (width + 1) (height + 1) =
      (List.range height ×ˢ List.range (width + 1)) ++
        (List.range (width + 1)).map (Prod.mk height) := by
    rw [rowMajor, List.range_succ]
    simp [SProd.sprod, List.product]
  rw [rows, List.append_assoc]
  congr 1
  rw [List.range_succ, List.map_append]
  rfl

end Windows

end NavBim
