import NavBim.ComponentScan

namespace NavBim

namespace DenoiseLayer

/-!
# Labels and groups

After any number of steps, two pixels that were scanned have labels in one class
only if they are in one group, and linked pixels always have.  Each label was
made at a pixel that none before it is linked with, and at no other.
-/

section Labelling

def labelAt
    (scan : Scan)
    (pixel : PixelPosition) : Nat :=
  scan.labels.get pixel.1 pixel.2

def rootAt
    (scan : Scan)
    (pixel : PixelPosition) : Nat :=
  rootOf scan.trees.parent (labelAt scan pixel)

/-- What is known of the labels made so far. -/
structure StartsCounted
    (connectivity : ConnectivityType)
    (isBackground : UInt8 → Bool)
    (image : Image UInt8)
    (row column : Nat)
    (scan : Scan) : Prop where
  starts : scan.trees.nextFree =
    {pixel | IsStart connectivity (Foreground image isBackground) pixel ∧
      Before row column pixel}.ncard + 1
  startLabel : ∀ label, 0 < label → label < scan.trees.nextFree →
    ∃ pixel, IsStart connectivity (Foreground image isBackground) pixel ∧
      Before row column pixel ∧ labelAt scan pixel = label
  startUnique : ∀ first second,
    IsStart connectivity (Foreground image isBackground) first →
    IsStart connectivity (Foreground image isBackground) second →
    Before row column first → Before row column second →
    labelAt scan first = labelAt scan second →
      first = second

/-- What is known while an image is scanned. -/
structure Scanned
    (connectivity : ConnectivityType)
    (isBackground : UInt8 → Bool)
    (image : Image UInt8)
    (capacity : Nat)
    (row column : Nat)
    (scan : Scan) : Prop where
  rows : scan.labels.rows = image.rows
  columns : scan.labels.columns = image.columns
  wellFormed : scan.trees.WellFormed
  labelsSize : scan.trees.labelsSize = capacity
  room : scan.trees.nextFree ≤ capacity
  background : ∀ pixel, Before row column pixel →
    image.Inside pixel.1 pixel.2 → ¬ Foreground image isBackground pixel →
      labelAt scan pixel = 0
  labelled : ∀ pixel, Before row column pixel →
    Foreground image isBackground pixel →
      0 < labelAt scan pixel ∧ labelAt scan pixel < scan.trees.nextFree
  linked : ∀ first second, Before row column first → Before row column second →
    PixelsLinked connectivity (Foreground image isBackground) first second →
      rootAt scan first = rootAt scan second
  together : ∀ first second, Before row column first →
    Before row column second → Foreground image isBackground first →
    Foreground image isBackground second →
    rootAt scan first = rootAt scan second →
      second ∈ group connectivity (Foreground image isBackground) first
  counted : StartsCounted connectivity isBackground image row column scan

/-- What one step does to a scan, by the neighbours that were scanned before. -/
inductive Labelled
    (connectivity : ConnectivityType)
    (isBackground : UInt8 → Bool)
    (image : Image UInt8)
    (row column : Nat)
    (scan : Scan) : Except ScanError Scan → Prop where
  | background :
      ¬ Foreground image isBackground (row, column) →
      Labelled connectivity isBackground image row column scan
        (.ok { scan with labels := scan.labels.set row column 0 })
  | taken (other : PixelPosition) :
      Before row column other →
      PixelsLinked connectivity (Foreground image isBackground) (row, column)
        other →
      (∀ third, Before row column third →
        PixelsLinked connectivity (Foreground image isBackground) (row, column)
          third →
        rootAt scan third = rootAt scan other) →
      Labelled connectivity isBackground image row column scan
        (.ok { scan with
          labels := scan.labels.set row column (labelAt scan other) })
  | united (first second : PixelPosition) :
      Before row column first →
      Before row column second →
      PixelsLinked connectivity (Foreground image isBackground) (row, column)
        first →
      PixelsLinked connectivity (Foreground image isBackground) (row, column)
        second →
      (∀ third, Before row column third →
        PixelsLinked connectivity (Foreground image isBackground) (row, column)
          third →
        rootAt scan third = rootAt scan first ∨
          rootAt scan third = rootAt scan second) →
      Labelled connectivity isBackground image row column scan
        (.ok {
          labels := scan.labels.set row column
            (scan.trees.unionTrees (labelAt scan first)
              (labelAt scan second)).1
          trees := (scan.trees.unionTrees (labelAt scan first)
            (labelAt scan second)).2 })
  | made :
      IsStart connectivity (Foreground image isBackground) (row, column) →
      Labelled connectivity isBackground image row column scan
        (scan.trees.makeLabel.map fun made => {
          labels := scan.labels.set row column made.1
          trees := made.2 })

end Labelling

variable
  {connectivity : ConnectivityType}
  {isBackground : UInt8 → Bool}
  {image : Image UInt8}

section Windows

variable
  {capacity row column : Nat}
  {scan : Scan}

theorem foreground_iff
    (background : isBackground 0 = true)
    {pixel : PixelPosition} :
    Foreground image isBackground pixel ↔
      isBackground (image.get pixel.1 pixel.2) = false := by
  constructor
  · exact And.right
  · intro notBackground
    refine ⟨?_, notBackground⟩
    by_contra outside
    rw [Image.get_outside outside, background] at notBackground
    exact absurd notBackground (by decide)

theorem window_foreground
    (background : isBackground 0 = true)
    (beside : Prop)
    [Decidable beside]
    (row column : Nat) :
    isBackground (if beside then 0 else image.get row column) = false ↔
      ¬ beside ∧ Foreground image isBackground (row, column) := by
  rw [foreground_iff background]
  split
  · case isTrue isBeside => simp [background, isBeside]
  · case isFalse notBeside => simp [notBeside]

/-- The pixels that were scanned before and are linked with a pixel, with four
neighbours, are found above it and on its left. -/
theorem linked_before_way4
    {third : PixelPosition}
    (linked : PixelsLinked .way4 (Foreground image isBackground) (row, column)
      third)
    (before : Before row column third) :
    (¬ row = 0 ∧ Foreground image isBackground (row - 1, column)) ∧
        third = (row - 1, column) ∨
      (¬ column = 0 ∧ Foreground image isBackground (row, column - 1)) ∧
        third = (row, column - 1) := by
  rcases adjacent_before_way4 linked.adjacent before with
    ⟨notFirst, rfl⟩ | ⟨notFirst, rfl⟩
  · exact .inl ⟨⟨notFirst.ne', linked.stop⟩, rfl⟩
  · exact .inr ⟨⟨notFirst.ne', linked.stop⟩, rfl⟩

theorem linked_above
    (isForeground : Foreground image isBackground (row, column))
    (above : ¬ row = 0 ∧ Foreground image isBackground (row - 1, column)) :
    Before row column (row - 1, column) ∧
      PixelsLinked .way4 (Foreground image isBackground) (row, column)
        (row - 1, column) := by
  obtain ⟨notFirst, isB⟩ := above
  exact ⟨.inl (Nat.sub_one_lt notFirst), isForeground, isB,
    .inr ⟨rfl, .inr (Nat.sub_one_add_one notFirst)⟩⟩

theorem linked_left
    (isForeground : Foreground image isBackground (row, column))
    (left : ¬ column = 0 ∧ Foreground image isBackground (row, column - 1)) :
    Before row column (row, column - 1) ∧
      PixelsLinked .way4 (Foreground image isBackground) (row, column)
        (row, column - 1) := by
  obtain ⟨notFirst, isD⟩ := left
  exact ⟨.inr ⟨rfl, Nat.sub_one_lt notFirst⟩, isForeground, isD,
    .inl ⟨rfl, .inr (Nat.sub_one_add_one notFirst)⟩⟩

/-- With four neighbours, a pixel takes or unites the labels above and on its
left. -/
theorem scanPixel_labelled_way4
    (background : isBackground 0 = true) :
    Labelled .way4 isBackground image row column scan
      (scanPixel .way4 isBackground image row column scan) := by
  have b := @window_foreground isBackground image background (row = 0) _
    (row - 1) column
  have d := @window_foreground isBackground image background (column = 0) _
    row (column - 1)
  have e := @foreground_iff isBackground image background (row, column)
  by_cases isForeground : Foreground image isBackground (row, column)
  · have isE : isBackground (image.get row column) = false := e.mp isForeground
    have above := @linked_above isBackground image row column isForeground
    have left := @linked_left isBackground image row column isForeground
    by_cases isB : ¬ row = 0 ∧ Foreground image isBackground (row - 1, column)
    · have foundB : isBackground (image.get (row - 1) column) = false :=
        isB.2.2
      by_cases isD :
          ¬ column = 0 ∧ Foreground image isBackground (row, column - 1)
      · have foundD : isBackground (image.get row (column - 1)) = false :=
          isD.2.2
        have result := @Labelled.united .way4 isBackground image row column scan
          (row, column - 1) (row - 1, column) (left isD).1 (above isB).1
          (left isD).2 (above isB).2 (by
            intro third before linked
            rcases linked_before_way4 linked before with ⟨-, rfl⟩ | ⟨-, rfl⟩
            · exact .inr rfl
            · exact .inl rfl)
        simp only [scanPixel, passPixel, passWay4, safeWindow, ok_bind, isE,
          foundB, foundD, Bool.not_false, if_true, isB.1, isD.1, if_false]
        exact result
      · have notD := Bool.eq_true_of_not_eq_false (mt d.mp isD)
        have result := @Labelled.taken .way4 isBackground image row column scan
          (row - 1, column) (above isB).1 (above isB).2 (by
            intro third before linked
            rcases linked_before_way4 linked before with
              ⟨-, rfl⟩ | ⟨foreground, -⟩
            · rfl
            · exact absurd foreground isD)
        simp only [scanPixel, passPixel, passWay4, safeWindow, ok_bind, isE,
          foundB, notD, Bool.not_false, Bool.not_true, if_true, isB.1, if_false,
          Bool.false_eq_true]
        exact result
    · have notB := Bool.eq_true_of_not_eq_false (mt b.mp isB)
      by_cases isD :
          ¬ column = 0 ∧ Foreground image isBackground (row, column - 1)
      · have foundD : isBackground (image.get row (column - 1)) = false :=
          isD.2.2
        have result := @Labelled.taken .way4 isBackground image row column scan
          (row, column - 1) (left isD).1 (left isD).2 (by
            intro third before linked
            rcases linked_before_way4 linked before with
              ⟨foreground, -⟩ | ⟨-, rfl⟩
            · exact absurd foreground isB
            · rfl)
        simp only [scanPixel, passPixel, passWay4, safeWindow, ok_bind, isE,
          notB, foundD, Bool.not_false, Bool.not_true, if_true, isD.1, if_false,
          Bool.false_eq_true]
        exact result
      · have notD := Bool.eq_true_of_not_eq_false (mt d.mp isD)
        have result := @Labelled.made .way4 isBackground image row column scan
          ⟨isForeground, by
            intro third before linked
            rcases linked_before_way4 linked before with
              ⟨foreground, -⟩ | ⟨foreground, -⟩
            · exact isB foreground
            · exact isD foreground⟩
        simp only [scanPixel, passPixel, passWay4, safeWindow, ok_bind, isE,
          notB, notD, Bool.not_false, Bool.not_true, if_true, if_false,
          Bool.false_eq_true]
        exact result
  · have notE := Bool.eq_true_of_not_eq_false (mt e.mpr isForeground)
    simp only [scanPixel, passPixel, passWay4, safeWindow, ok_bind, notE,
      Bool.not_true, if_false, Bool.false_eq_true]
    exact .background isForeground

/-- The decision tree, if all reads succeed. -/
theorem passWay8_ok
    {images : Window UInt8}
    {labels : Window Nat}
    {a c d e : UInt8}
    {labelA labelB labelC labelD : Nat}
    (isBackground : UInt8 → Bool)
    (trees : EquivalenceLabelTrees)
    (readA : images.a = .ok a)
    (readC : images.c = .ok c)
    (readD : images.d = .ok d)
    (readE : images.e = .ok e)
    (readLabelA : labels.a = .ok labelA)
    (readLabelB : labels.b = .ok labelB)
    (readLabelC : labels.c = .ok labelC)
    (readLabelD : labels.d = .ok labelD) :
    passWay8 isBackground images labels trees =
      if isBackground e = false then
        if labelB ≠ 0 then
          .ok (labelB, trees)
        else if isBackground c = false then
          if isBackground a = false then
            .ok (trees.unionTrees labelC labelA)
          else if isBackground d = false then
            .ok (trees.unionTrees labelC labelD)
          else
            .ok (labelC, trees)
        else if isBackground a = false then
          .ok (labelA, trees)
        else if isBackground d = false then
          .ok (labelD, trees)
        else
          trees.makeLabel
      else
        .ok (0, trees) := by
  simp only [passWay8, readA, readC, readD, readE, readLabelA, readLabelB,
    readLabelC, readLabelD, ok_bind]
  cases isBackground e <;> cases isBackground c <;> cases isBackground a <;>
    cases isBackground d <;> simp <;> rfl

/-- The label above tells whether the pixel above is in the foreground. -/
theorem windowLabel_ne_zero
    (scanned : Scanned connectivity isBackground image capacity row column scan)
    (rowInside : row < image.rows)
    (columnInside : column < image.columns) :
    (if row = 0 then 0 else scan.labels.get (row - 1) column) ≠ 0 ↔
      ¬ row = 0 ∧ Foreground image isBackground (row - 1, column) := by
  by_cases isFirst : row = 0
  · simp [isFirst]
  · have before : Before row column (row - 1, column) :=
      .inl (Nat.sub_one_lt isFirst)
    have inside : image.Inside (row - 1) column := ⟨by omega, columnInside⟩
    rw [if_neg isFirst]
    constructor
    · intro notZero
      refine ⟨isFirst, ?_⟩
      by_contra notForeground
      exact notZero (scanned.background _ before inside notForeground)
    · rintro ⟨-, isForeground⟩
      exact (scanned.labelled _ before isForeground).1.ne'

/-- With eight neighbours they are found in the row above, too. -/
theorem linked_before_way8
    {third : PixelPosition}
    (linked : PixelsLinked .way8 (Foreground image isBackground) (row, column)
      third)
    (before : Before row column third) :
    ((¬ (row = 0 ∨ column = 0) ∧
        Foreground image isBackground (row - 1, column - 1)) ∧
      third = (row - 1, column - 1)) ∨
    ((¬ row = 0 ∧ Foreground image isBackground (row - 1, column)) ∧
      third = (row - 1, column)) ∨
    ((¬ (row = 0 ∨ image.columns ≤ column + 1) ∧
        Foreground image isBackground (row - 1, column + 1)) ∧
      third = (row - 1, column + 1)) ∨
    ((¬ column = 0 ∧ Foreground image isBackground (row, column - 1)) ∧
      third = (row, column - 1)) := by
  have stop := linked.stop
  rcases adjacent_before_way8 linked.adjacent before with
    ⟨notTop, notFirst, rfl⟩ | ⟨notTop, rfl⟩ | ⟨notTop, rfl⟩ | ⟨notFirst, rfl⟩
  · exact .inl ⟨⟨by omega, stop⟩, rfl⟩
  · exact .inr (.inl ⟨⟨by omega, stop⟩, rfl⟩)
  · have inside : column + 1 < image.columns := stop.1.2
    exact .inr (.inr (.inl ⟨⟨by omega, stop⟩, rfl⟩))
  · exact .inr (.inr (.inr ⟨⟨by omega, stop⟩, rfl⟩))

/-- With eight neighbours, the labels around a pixel are in at most two classes,
since pixels beside each other have labels in one class already. -/
theorem scanPixel_labelled_way8
    (background : isBackground 0 = true)
    (rowInside : row < image.rows)
    (columnInside : column < image.columns)
    (scanned : Scanned .way8 isBackground image capacity row column scan) :
    Labelled .way8 isBackground image row column scan
      (scanPixel .way8 isBackground image row column scan) := by
  have a := @window_foreground isBackground image background
    (row = 0 ∨ column = 0) _ (row - 1) (column - 1)
  have c := @window_foreground isBackground image background
    (row = 0 ∨ image.columns ≤ column + 1) _ (row - 1) (column + 1)
  have d := @window_foreground isBackground image background (column = 0) _
    row (column - 1)
  have e := @foreground_iff isBackground image background (row, column)
  have pass := @passWay8_ok (safeWindow image row column)
    (safeWindow scan.labels row column) _ _ _ _ _ _ _ _ isBackground scan.trees
    rfl rfl rfl rfl rfl rfl rfl rfl
  simp only [scanPixel, passPixel]
  rw [pass]
  by_cases isForeground : Foreground image isBackground (row, column)
  · rw [if_pos (e.mp isForeground)]
    have near {otherRow otherColumn : Nat}
        (before : Before row column (otherRow, otherColumn))
        (otherForeground :
          Foreground image isBackground (otherRow, otherColumn))
        (adjacent : Adjacent .way8 (row, column) (otherRow, otherColumn)) :
        Before row column (otherRow, otherColumn) ∧
          PixelsLinked .way8 (Foreground image isBackground) (row, column)
            (otherRow, otherColumn) :=
      ⟨before, isForeground, otherForeground, adjacent⟩
    have same {first second : PixelPosition}
        (isFirst : Before row column first ∧
          PixelsLinked .way8 (Foreground image isBackground) (row, column) first)
        (isSecond : Before row column second ∧
          PixelsLinked .way8 (Foreground image isBackground) (row, column) second)
        (adjacent : Adjacent .way8 first second) :
        rootAt scan first = rootAt scan second :=
      scanned.linked first second isFirst.1 isSecond.1
        ⟨isFirst.2.stop, isSecond.2.stop, adjacent⟩
    have nearA (isA : ¬ (row = 0 ∨ column = 0) ∧
        Foreground image isBackground (row - 1, column - 1)) :=
      near (.inl (by omega)) isA.2 (adjacent_way8 (by omega))
    have nearB (isB : ¬ row = 0 ∧
        Foreground image isBackground (row - 1, column)) :=
      near (.inl (by omega)) isB.2 (adjacent_way8 (by omega))
    have nearC (isC : ¬ (row = 0 ∨ image.columns ≤ column + 1) ∧
        Foreground image isBackground (row - 1, column + 1)) :=
      near (.inl (by omega)) isC.2 (adjacent_way8 (by omega))
    have nearD (isD : ¬ column = 0 ∧
        Foreground image isBackground (row, column - 1)) :=
      near (.inr ⟨rfl, by omega⟩) isD.2 (adjacent_way8 (by omega))
    have b :
        (if row = 0 then 0 else scan.labels.get (row - 1) column) ≠ 0 ↔
          ¬ row = 0 ∧ Foreground image isBackground (row - 1, column) :=
      windowLabel_ne_zero scanned rowInside columnInside
    by_cases isB : ¬ row = 0 ∧ Foreground image isBackground (row - 1, column)
    · rw [if_pos (b.mpr isB), if_neg isB.1]
      refine .taken (row - 1, column) (nearB isB).1 (nearB isB).2 ?_
      intro third before linked
      rcases linked_before_way8 linked before with
        ⟨isA, rfl⟩ | ⟨-, rfl⟩ | ⟨isC, rfl⟩ | ⟨isD, rfl⟩
      · exact same (nearA isA) (nearB isB) (adjacent_way8 (by omega))
      · rfl
      · exact same (nearC isC) (nearB isB) (adjacent_way8 (by omega))
      · exact same (nearD isD) (nearB isB) (adjacent_way8 (by omega))
    · rw [if_neg (mt b.mp isB)]
      by_cases isC : ¬ (row = 0 ∨ image.columns ≤ column + 1) ∧
          Foreground image isBackground (row - 1, column + 1)
      · have sameRow : ¬ (row = 0 ∨ scan.labels.columns ≤ column + 1) := by
          rw [scanned.columns]
          exact isC.1
        rw [if_pos (c.mpr isC), if_neg sameRow]
        by_cases isA : ¬ (row = 0 ∨ column = 0) ∧
            Foreground image isBackground (row - 1, column - 1)
        · rw [if_pos (a.mpr isA), if_neg isA.1]
          refine .united (row - 1, column + 1) (row - 1, column - 1)
            (nearC isC).1 (nearA isA).1 (nearC isC).2 (nearA isA).2 ?_
          intro third before linked
          rcases linked_before_way8 linked before with
            ⟨-, rfl⟩ | ⟨isB', -⟩ | ⟨-, rfl⟩ | ⟨isD, rfl⟩
          · exact .inr rfl
          · exact absurd isB' isB
          · exact .inl rfl
          · exact .inr (same (nearD isD) (nearA isA) (adjacent_way8 (by omega)))
        · rw [if_neg (mt a.mp isA)]
          by_cases isD : ¬ column = 0 ∧
              Foreground image isBackground (row, column - 1)
          · rw [if_pos (d.mpr isD), if_neg isD.1]
            refine .united (row - 1, column + 1) (row, column - 1)
              (nearC isC).1 (nearD isD).1 (nearC isC).2 (nearD isD).2 ?_
            intro third before linked
            rcases linked_before_way8 linked before with
              ⟨isA', -⟩ | ⟨isB', -⟩ | ⟨-, rfl⟩ | ⟨-, rfl⟩
            · exact absurd isA' isA
            · exact absurd isB' isB
            · exact .inl rfl
            · exact .inr rfl
          · rw [if_neg (mt d.mp isD)]
            refine .taken (row - 1, column + 1) (nearC isC).1 (nearC isC).2 ?_
            intro third before linked
            rcases linked_before_way8 linked before with
              ⟨isA', -⟩ | ⟨isB', -⟩ | ⟨-, rfl⟩ | ⟨isD', -⟩
            · exact absurd isA' isA
            · exact absurd isB' isB
            · rfl
            · exact absurd isD' isD
      · rw [if_neg (mt c.mp isC)]
        by_cases isA : ¬ (row = 0 ∨ column = 0) ∧
            Foreground image isBackground (row - 1, column - 1)
        · rw [if_pos (a.mpr isA), if_neg isA.1]
          refine .taken (row - 1, column - 1) (nearA isA).1 (nearA isA).2 ?_
          intro third before linked
          rcases linked_before_way8 linked before with
            ⟨-, rfl⟩ | ⟨isB', -⟩ | ⟨isC', -⟩ | ⟨isD, rfl⟩
          · rfl
          · exact absurd isB' isB
          · exact absurd isC' isC
          · exact same (nearD isD) (nearA isA) (adjacent_way8 (by omega))
        · rw [if_neg (mt a.mp isA)]
          by_cases isD : ¬ column = 0 ∧
              Foreground image isBackground (row, column - 1)
          · rw [if_pos (d.mpr isD), if_neg isD.1]
            refine .taken (row, column - 1) (nearD isD).1 (nearD isD).2 ?_
            intro third before linked
            rcases linked_before_way8 linked before with
              ⟨isA', -⟩ | ⟨isB', -⟩ | ⟨isC', -⟩ | ⟨-, rfl⟩
            · exact absurd isA' isA
            · exact absurd isB' isB
            · exact absurd isC' isC
            · rfl
          · rw [if_neg (mt d.mp isD)]
            refine .made ⟨isForeground, ?_⟩
            intro third before linked
            rcases linked_before_way8 linked before with
              ⟨isA', -⟩ | ⟨isB', -⟩ | ⟨isC', -⟩ | ⟨isD', -⟩
            · exact isA isA'
            · exact isB isB'
            · exact isC isC'
            · exact isD isD'
  · rw [if_neg (mt e.mpr isForeground)]
    exact .background isForeground

end Windows

section Steps

variable
  {capacity row column label : Nat}
  {scan : Scan}
  {trees : EquivalenceLabelTrees}

theorem scanPixel_labelled
    (background : isBackground 0 = true)
    (rowInside : row < image.rows)
    (columnInside : column < image.columns)
    (scanned : Scanned connectivity isBackground image capacity row column
      scan) :
    Labelled connectivity isBackground image row column scan
      (scanPixel connectivity isBackground image row column scan) := by
  cases connectivity with
  | way4 => exact scanPixel_labelled_way4 background
  | way8 =>
      exact scanPixel_labelled_way8 background rowInside columnInside scanned

/-- The scan with another label and other trees. -/
def Scan.extended
    (scan : Scan)
    (row column label : Nat)
    (trees : EquivalenceLabelTrees) : Scan where
  labels := scan.labels.set row column label
  trees := trees

theorem labelAt_extended_self
    (inside : scan.labels.Inside row column) :
    labelAt (scan.extended row column label trees) (row, column) = label :=
  Image.get_set_self label inside

theorem labelAt_extended_before
    {pixel : PixelPosition}
    (before : Before row column pixel) :
    labelAt (scan.extended row column label trees) pixel =
      labelAt scan pixel := by
  apply Image.get_set_other
  rintro ⟨sameRow, sameColumn⟩
  have same : pixel = (row, column) := Prod.ext sameRow sameColumn
  exact not_before_self (same ▸ before)

/-- What a new label has to fulfil. -/
structure Extends
    (connectivity : ConnectivityType)
    (isBackground : UInt8 → Bool)
    (image : Image UInt8)
    (row column label : Nat)
    (scan : Scan)
    (trees : EquivalenceLabelTrees) : Prop where
  wellFormed : trees.WellFormed
  labelsSize : trees.labelsSize = scan.trees.labelsSize
  nextFree : scan.trees.nextFree ≤ trees.nextFree
  kept : ∀ first second,
    rootOf scan.trees.parent first = rootOf scan.trees.parent second →
      rootOf trees.parent first = rootOf trees.parent second
  backgroundLabel : ¬ Foreground image isBackground (row, column) → label = 0
  foregroundLabel : Foreground image isBackground (row, column) →
    0 < label ∧ label < trees.nextFree
  linkedLabel : ∀ other, Before row column other →
    PixelsLinked connectivity (Foreground image isBackground) (row, column) other →
      rootOf trees.parent (labelAt scan other) = rootOf trees.parent label
  together : ∀ first second, Before row column first →
    Before row column second → Foreground image isBackground first →
    Foreground image isBackground second →
    rootOf trees.parent (labelAt scan first) =
      rootOf trees.parent (labelAt scan second) →
      second ∈ group connectivity (Foreground image isBackground) first
  joined : Foreground image isBackground (row, column) →
    ∀ other, Before row column other → Foreground image isBackground other →
      rootOf trees.parent (labelAt scan other) = rootOf trees.parent label →
        (row, column) ∈
          group connectivity (Foreground image isBackground) other

theorem Scanned.extend
    (scanned : Scanned connectivity isBackground image capacity row column scan)
    (inside : image.Inside row column)
    (extension : Extends connectivity isBackground image row column label scan
      trees)
    (room : trees.nextFree ≤ capacity)
    (counted : StartsCounted connectivity isBackground image row (column + 1)
      (scan.extended row column label trees)) :
    Scanned connectivity isBackground image capacity row (column + 1)
      (scan.extended row column label trees) := by
  have labelsInside : scan.labels.Inside row column :=
    ⟨inside.1.trans_eq scanned.rows.symm, inside.2.trans_eq scanned.columns.symm⟩
  have here :
      labelAt (scan.extended row column label trees) (row, column) = label :=
    labelAt_extended_self labelsInside
  have there {pixel : PixelPosition} (before : Before row column pixel) :
      labelAt (scan.extended row column label trees) pixel =
        labelAt scan pixel :=
    labelAt_extended_before before
  have sameParent :
      (scan.extended row column label trees).trees.parent = trees.parent := rfl
  refine {
    rows := scanned.rows
    columns := scanned.columns
    wellFormed := extension.wellFormed
    labelsSize := extension.labelsSize.trans scanned.labelsSize
    room := room
    background := ?_
    labelled := ?_
    linked := ?_
    together := ?_
    counted := counted
  }
  · intro pixel before pixelInside isBackground
    rcases before_succ_iff.mp before with before | rfl
    · rw [there before]
      exact scanned.background pixel before pixelInside isBackground
    · rw [here]
      exact extension.backgroundLabel isBackground
  · intro pixel before isForeground
    rcases before_succ_iff.mp before with before | rfl
    · rw [there before]
      obtain ⟨positive, bound⟩ := scanned.labelled pixel before isForeground
      exact ⟨positive, bound.trans_le extension.nextFree⟩
    · rw [here]
      exact extension.foregroundLabel isForeground
  · intro first second firstBefore secondBefore linked
    simp only [rootAt, sameParent]
    rcases before_succ_iff.mp firstBefore with firstBefore | rfl
    · rcases before_succ_iff.mp secondBefore with secondBefore | rfl
      · rw [there firstBefore, there secondBefore]
        exact extension.kept _ _
          (scanned.linked first second firstBefore secondBefore linked)
      · rw [there firstBefore, here]
        exact extension.linkedLabel first firstBefore linked.symm
    · rcases before_succ_iff.mp secondBefore with secondBefore | rfl
      · rw [there secondBefore, here]
        exact (extension.linkedLabel second secondBefore linked).symm
      · rfl
  · intro first second firstBefore secondBefore firstForeground
      secondForeground same
    simp only [rootAt, sameParent] at same
    rcases before_succ_iff.mp firstBefore with firstBefore | rfl
    · rw [there firstBefore] at same
      rcases before_succ_iff.mp secondBefore with secondBefore | rfl
      · rw [there secondBefore] at same
        exact extension.together first second firstBefore secondBefore
          firstForeground secondForeground same
      · rw [here] at same
        exact extension.joined secondForeground first firstBefore
          firstForeground same
    · rw [here] at same
      rcases before_succ_iff.mp secondBefore with secondBefore | rfl
      · rw [there secondBefore] at same
        exact mem_group_symm (extension.joined firstForeground second
          secondBefore secondForeground same.symm)
      · exact mem_group_self

theorem StartsCounted.extend
    (counted : StartsCounted connectivity isBackground image row column scan)
    (nextFree : trees.nextFree = scan.trees.nextFree)
    (notStart : ¬ IsStart connectivity (Foreground image isBackground)
      (row, column)) :
    StartsCounted connectivity isBackground image row (column + 1)
      (scan.extended row column label trees) := by
  have old {pixel : PixelPosition}
      (isStart : IsStart connectivity (Foreground image isBackground) pixel)
      (before : Before row (column + 1) pixel) :
      Before row column pixel := by
    rcases before_succ_iff.mp before with before | rfl
    · exact before
    · exact absurd isStart notStart
  refine ⟨?_, ?_, ?_⟩
  · have same :
        {pixel | IsStart connectivity (Foreground image isBackground) pixel ∧
            Before row (column + 1) pixel} =
          {pixel | IsStart connectivity (Foreground image isBackground) pixel ∧
            Before row column pixel} := by
      ext pixel
      constructor
      · rintro ⟨isStart, before⟩
        exact ⟨isStart, old isStart before⟩
      · rintro ⟨isStart, before⟩
        exact ⟨isStart, before_succ_iff.mpr (.inl before)⟩
    rw [same, ← counted.starts]
    exact nextFree
  · intro number positive bound
    obtain ⟨pixel, isStart, before, isLabel⟩ :=
      counted.startLabel number positive (bound.trans_eq nextFree)
    refine ⟨pixel, isStart, before_succ_iff.mpr (.inl before), ?_⟩
    rw [labelAt_extended_before before]
    exact isLabel
  · intro first second firstStart secondStart firstBefore secondBefore same
    have firstOld := old firstStart firstBefore
    have secondOld := old secondStart secondBefore
    rw [labelAt_extended_before firstOld, labelAt_extended_before secondOld]
      at same
    exact counted.startUnique first second firstStart secondStart firstOld
      secondOld same

/-- A start adds the label that is made for it. -/
theorem StartsCounted.extendStart
    (scanned : Scanned connectivity isBackground image capacity row column scan)
    (inside : image.Inside row column)
    (isStart : IsStart connectivity (Foreground image isBackground)
      (row, column))
    (nextFree : trees.nextFree = scan.trees.nextFree + 1) :
    StartsCounted connectivity isBackground image row (column + 1)
      (scan.extended row column scan.trees.nextFree trees) := by
  have labelsInside : scan.labels.Inside row column :=
    ⟨inside.1.trans_eq scanned.rows.symm, inside.2.trans_eq scanned.columns.symm⟩
  have here := @labelAt_extended_self row column scan.trees.nextFree scan trees
    labelsInside
  have bound {pixel : PixelPosition}
      (isStart : IsStart connectivity (Foreground image isBackground) pixel)
      (before : Before row column pixel) :
      labelAt scan pixel < scan.trees.nextFree :=
    (scanned.labelled pixel before isStart.isForeground).2
  refine ⟨?_, ?_, ?_⟩
  · have added :
        {pixel | IsStart connectivity (Foreground image isBackground) pixel ∧
            Before row (column + 1) pixel} =
          insert (row, column)
            {pixel | IsStart connectivity (Foreground image isBackground)
              pixel ∧ Before row column pixel} := by
      ext pixel
      simp only [Set.mem_ofPred_eq, Set.mem_insert_iff, before_succ_iff]
      constructor
      · rintro ⟨pixelStart, before | isNew⟩
        · exact .inr ⟨pixelStart, before⟩
        · exact .inl isNew
      · rintro (rfl | ⟨pixelStart, before⟩)
        · exact ⟨isStart, .inr rfl⟩
        · exact ⟨pixelStart, .inl before⟩
    have finite :
        {pixel | IsStart connectivity (Foreground image isBackground) pixel ∧
          Before row column pixel}.Finite :=
      (foreground_finite image isBackground).subset
        fun pixel isOld => isOld.1.isForeground
    rw [added, Set.ncard_insert_of_notMem (fun isOld => not_before_self isOld.2)
      finite, ← scanned.counted.starts]
    exact nextFree
  · intro number positive numberBound
    rcases Nat.lt_succ_iff_lt_or_eq.mp (numberBound.trans_eq nextFree) with
      isOld | rfl
    · obtain ⟨pixel, pixelStart, before, isLabel⟩ :=
        scanned.counted.startLabel number positive isOld
      refine ⟨pixel, pixelStart, before_succ_iff.mpr (.inl before), ?_⟩
      rw [labelAt_extended_before before]
      exact isLabel
    · exact ⟨(row, column), isStart, before_succ_iff.mpr (.inr rfl), here⟩
  · intro first second firstStart secondStart firstBefore secondBefore same
    rcases before_succ_iff.mp firstBefore with firstBefore | rfl
    · rw [labelAt_extended_before firstBefore] at same
      rcases before_succ_iff.mp secondBefore with secondBefore | rfl
      · rw [labelAt_extended_before secondBefore] at same
        exact scanned.counted.startUnique first second firstStart secondStart
          firstBefore secondBefore same
      · rw [here] at same
        exact absurd same (bound firstStart firstBefore).ne
    · rw [here] at same
      rcases before_succ_iff.mp secondBefore with secondBefore | rfl
      · rw [labelAt_extended_before secondBefore] at same
        exact absurd same (bound secondStart secondBefore).ne'
      · rfl

/-- The scan only ends early if there are as many starts as labels. -/
structure Overflows
    (connectivity : ConnectivityType)
    (isBackground : UInt8 → Bool)
    (image : Image UInt8)
    (capacity : Nat)
    (error : ScanError) : Prop where
  isOverflow : error = .labelOverflow
  noRoom : capacity ≤
    {pixel | IsStart connectivity (Foreground image isBackground) pixel}.ncard

section

variable
  (scanned : Scanned connectivity isBackground image capacity row column scan)

include scanned

theorem Scanned.background_step
    (inside : image.Inside row column)
    (isBackground' : ¬ Foreground image isBackground (row, column)) :
    Scanned connectivity isBackground image capacity row (column + 1)
      (scan.extended row column 0 scan.trees) := by
  refine scanned.extend inside ?_ scanned.room
    (scanned.counted.extend rfl fun isStart =>
      isBackground' isStart.isForeground)
  exact {
    wellFormed := scanned.wellFormed
    labelsSize := rfl
    nextFree := le_rfl
    kept := fun _ _ same => same
    backgroundLabel := fun _ => rfl
    foregroundLabel := fun isForeground => absurd isForeground isBackground'
    linkedLabel := fun _ _ linked => absurd linked.start isBackground'
    together := scanned.together
    joined := fun isForeground => absurd isForeground isBackground'
  }

theorem Scanned.joined
    {first other : PixelPosition}
    (before : Before row column first)
    (linked : PixelsLinked connectivity (Foreground image isBackground) (row, column)
      first)
    (otherBefore : Before row column other)
    (isForeground : Foreground image isBackground other)
    (same : rootAt scan other = rootAt scan first) :
    (row, column) ∈
      group connectivity (Foreground image isBackground) other :=
  mem_group_trans
    (scanned.together other first otherBefore before isForeground linked.stop
      same)
    (mem_group_linked linked.symm)

theorem Scanned.taken_step
    (inside : image.Inside row column)
    {other : PixelPosition}
    (before : Before row column other)
    (linked : PixelsLinked connectivity (Foreground image isBackground) (row, column)
      other)
    (sameClass : ∀ third, Before row column third →
      PixelsLinked connectivity (Foreground image isBackground) (row, column)
        third →
      rootAt scan third = rootAt scan other) :
    Scanned connectivity isBackground image capacity row (column + 1)
      (scan.extended row column (labelAt scan other) scan.trees) := by
  refine scanned.extend inside ?_ scanned.room
    (scanned.counted.extend rfl fun isStart =>
      isStart.alone other before linked)
  exact {
    wellFormed := scanned.wellFormed
    labelsSize := rfl
    nextFree := le_rfl
    kept := fun _ _ same => same
    backgroundLabel := fun isBackground => absurd linked.start isBackground
    foregroundLabel := fun _ => scanned.labelled other before linked.stop
    linkedLabel := sameClass
    together := scanned.together
    joined := fun _ third thirdBefore isForeground same =>
      scanned.joined before linked thirdBefore isForeground same
  }

theorem Scanned.united_step
    (inside : image.Inside row column)
    {first second : PixelPosition}
    (firstBefore : Before row column first)
    (secondBefore : Before row column second)
    (firstLinked : PixelsLinked connectivity (Foreground image isBackground)
      (row, column) first)
    (secondLinked : PixelsLinked connectivity (Foreground image isBackground)
      (row, column) second)
    (sameClass : ∀ third, Before row column third →
      PixelsLinked connectivity (Foreground image isBackground) (row, column)
        third →
      rootAt scan third = rootAt scan first ∨
        rootAt scan third = rootAt scan second) :
    Scanned connectivity isBackground image capacity row (column + 1)
      (scan.extended row column
        (scan.trees.unionTrees (labelAt scan first) (labelAt scan second)).1
        (scan.trees.unionTrees (labelAt scan first)
          (labelAt scan second)).2) := by
  obtain ⟨firstPositive, firstBound⟩ :=
    scanned.labelled first firstBefore firstLinked.stop
  obtain ⟨secondPositive, secondBound⟩ :=
    scanned.labelled second secondBefore secondLinked.stop
  have united := EquivalenceLabelTrees.unionTrees_united scanned.wellFormed
    firstPositive firstBound secondPositive secondBound
  -- every pixel of the united classes is connected over the new one
  have reaches {other : PixelPosition}
      (before : Before row column other)
      (isForeground : Foreground image isBackground other)
      (inClasses : rootAt scan other = rootAt scan first ∨
        rootAt scan other = rootAt scan second) :
      (row, column) ∈
        group connectivity (Foreground image isBackground) other := by
    rcases inClasses with same | same
    · exact scanned.joined firstBefore firstLinked before isForeground same
    · exact scanned.joined secondBefore secondLinked before isForeground same
  refine scanned.extend inside ?_ (united.nextFree.le.trans scanned.room)
    (scanned.counted.extend united.nextFree fun isStart =>
      isStart.alone first firstBefore firstLinked)
  exact {
    wellFormed := united.wellFormed
    labelsSize := united.labelsSize
    nextFree := united.nextFree.ge
    kept := fun _ _ same => united.together_iff.mpr (.inl same)
    backgroundLabel := fun isBackground => absurd firstLinked.start isBackground
    foregroundLabel := fun _ =>
      ⟨united.rootPositive, united.rootInside.trans_eq united.nextFree.symm⟩
    linkedLabel := by
      intro other before linked
      rw [united.isRoot, united.roots]
      exact if_pos (sameClass other before linked)
    together := by
      intro third fourth thirdBefore fourthBefore thirdForeground
        fourthForeground same
      rcases united.together_iff.mp same with same | ⟨thirdIn, fourthIn⟩
      · exact scanned.together third fourth thirdBefore fourthBefore
          thirdForeground fourthForeground same
      · exact mem_group_trans (reaches thirdBefore thirdForeground thirdIn)
          (mem_group_symm (reaches fourthBefore fourthForeground fourthIn))
    joined := by
      intro isForeground other before otherForeground same
      have firstRoot := united.roots (labelAt scan first)
      rw [if_pos (.inl rfl)] at firstRoot
      rw [united.isRoot, ← firstRoot] at same
      rcases united.together_iff.mp same with same | ⟨inClasses, -⟩
      · exact reaches before otherForeground (.inl same)
      · exact reaches before otherForeground inClasses
  }

end

/-- A label that was not made yet is a root. -/
theorem rootOf_nextFree
    (wellFormed : trees.WellFormed) :
    rootOf trees.parent trees.nextFree = trees.nextFree := by
  apply rootOf_of_isRoot
  simp [IsRoot, EquivalenceLabelTrees.parent, EquivalenceLabelTrees.parentIn,
    ← wellFormed.size]

theorem Scanned.made_step
    (scanned : Scanned connectivity isBackground image capacity row column scan)
    (inside : image.Inside row column)
    (isStart : IsStart connectivity (Foreground image isBackground)
      (row, column)) :
    Holds (Scanned connectivity isBackground image capacity row (column + 1))
      (Overflows connectivity isBackground image capacity)
      (scan.trees.makeLabel.map fun made => {
        labels := scan.labels.set row column made.1
        trees := made.2 }) := by
  cases made : scan.trees.makeLabel with
  | error error =>
      have isFull : scan.trees.nextFree = capacity ∧
          error = .labelOverflow := by
        rw [EquivalenceLabelTrees.makeLabel] at made
        split at made
        · case isTrue full =>
          cases made
          exact ⟨full.trans scanned.labelsSize, rfl⟩
        · cases made
      refine ⟨isFull.2, ?_⟩
      rw [← isFull.1, scanned.counted.starts]
      have finite :
          {pixel | IsStart connectivity (Foreground image isBackground)
            pixel}.Finite :=
        (foreground_finite image isBackground).subset
          fun pixel isStart => isStart.isForeground
      apply Set.ncard_lt_ncard _ finite
      refine ⟨fun pixel isOld => isOld.1, ?_⟩
      intro all
      exact not_before_self (all isStart).2
  | ok result =>
      obtain ⟨label, after⟩ := result
      obtain ⟨wellFormed, rfl, nextFree, labelsSize, parent, notFull⟩ :=
        EquivalenceLabelTrees.makeLabel_spec scanned.wellFormed made
      have room : after.nextFree ≤ capacity := by
        have before := scanned.room
        have size := scanned.labelsSize
        omega
      refine scanned.extend inside ?_ room
        (.extendStart scanned inside isStart nextFree)
      exact {
        wellFormed := wellFormed
        labelsSize := labelsSize
        nextFree := (Nat.le_succ _).trans_eq nextFree.symm
        kept := by
          intro first second same
          rwa [parent]
        backgroundLabel := fun isBackground =>
          absurd isStart.isForeground isBackground
        foregroundLabel := fun _ =>
          ⟨scanned.wellFormed.started,
            (Nat.lt_succ_self _).trans_eq nextFree.symm⟩
        linkedLabel := fun other before linked =>
          absurd linked (isStart.alone other before)
        together := by
          rw [parent]
          exact scanned.together
        joined := by
          intro isForeground other before otherForeground same
          rw [parent, rootOf_nextFree scanned.wellFormed] at same
          have bound := (scanned.labelled other before otherForeground).2
          have atMost := rootOf_le scan.trees.parent (labelAt scan other)
          omega
      }

/-- Every step keeps what is known, or the labels run out. -/
theorem Scanned.step
    (background : isBackground 0 = true)
    (rowInside : row < image.rows)
    (columnInside : column < image.columns)
    (scanned : Scanned connectivity isBackground image capacity row column
      scan) :
    Holds (Scanned connectivity isBackground image capacity row (column + 1))
      (Overflows connectivity isBackground image capacity)
      (scanPixel connectivity isBackground image row column scan) := by
  have inside : image.Inside row column := ⟨rowInside, columnInside⟩
  have labelled :=
    scanPixel_labelled background rowInside columnInside scanned
  generalize scanPixel connectivity isBackground image row column scan = result
    at labelled
  cases labelled with
  | background isBackground' =>
      exact scanned.background_step inside isBackground'
  | taken other before linked sameClass =>
      exact scanned.taken_step inside before linked sameClass
  | united first second firstBefore secondBefore firstLinked secondLinked
      sameClass =>
      exact scanned.united_step inside firstBefore secondBefore firstLinked
        secondLinked sameClass
  | made isStart => exact scanned.made_step inside isStart

/-- A new row starts where the last one ends. -/
theorem Scanned.newRow
    (scanned : Scanned connectivity isBackground image capacity row
      image.columns scan) :
    Scanned connectivity isBackground image capacity (row + 1) 0 scan := by
  have old {pixel : PixelPosition}
      (before : Before (row + 1) 0 pixel)
      (inside : image.Inside pixel.1 pixel.2) :
      Before row image.columns pixel := by
    have column : pixel.2 < image.columns := inside.2
    simp only [Before] at *
    omega
  have new {pixel : PixelPosition}
      (before : Before row image.columns pixel) :
      Before (row + 1) 0 pixel := by
    simp only [Before] at *
    omega
  have counted := scanned.counted
  exact {
    rows := scanned.rows
    columns := scanned.columns
    wellFormed := scanned.wellFormed
    labelsSize := scanned.labelsSize
    room := scanned.room
    background := fun pixel before inside =>
      scanned.background pixel (old before inside) inside
    labelled := fun pixel before isForeground =>
      scanned.labelled pixel (old before isForeground.1) isForeground
    linked := fun first second firstBefore secondBefore linked =>
      scanned.linked first second (old firstBefore linked.start.1)
        (old secondBefore linked.stop.1) linked
    together := fun first second firstBefore secondBefore isFirst isSecond =>
      scanned.together first second (old firstBefore isFirst.1)
        (old secondBefore isSecond.1) isFirst isSecond
    counted := {
      starts := by
        rw [counted.starts]
        congr 2
        ext pixel
        constructor
        · rintro ⟨isStart, before⟩
          exact ⟨isStart, new before⟩
        · rintro ⟨isStart, before⟩
          exact ⟨isStart, old before isStart.isForeground.1⟩
      startLabel := by
        intro label positive bound
        obtain ⟨pixel, isStart, before, isLabel⟩ :=
          counted.startLabel label positive bound
        exact ⟨pixel, isStart, new before, isLabel⟩
      startUnique := fun first second isFirst isSecond firstBefore
          secondBefore =>
        counted.startUnique first second isFirst isSecond
          (old firstBefore isFirst.isForeground.1)
          (old secondBefore isSecond.isForeground.1)
    }
  }

end Steps

section Whole

/-- The number of labels there is room for, label 0 included. -/
def capacity
    (labelMax : Nat)
    (connectivity : ConnectivityType)
    (image : Image UInt8) : Nat :=
  (EquivalenceLabelTrees.reset labelMax image.rows image.columns
    connectivity).labelsSize

theorem not_before_start
    {pixel : PixelPosition} :
    ¬ Before 0 0 pixel := by
  rintro (above | ⟨-, left⟩)
  · exact Nat.not_lt_zero _ above
  · exact Nat.not_lt_zero _ left

theorem startScan_scanned
    (labelMax : Nat)
    (hasLabels : 0 < labelMax)
    (connectivity : ConnectivityType)
    (isBackground : UInt8 → Bool)
    (buffer : Nat → Nat → Nat)
    (image : Image UInt8) :
    Scanned connectivity isBackground image
      (capacity labelMax connectivity image) 0 0
      (startScan labelMax connectivity buffer image) := by
  have nothing {pixel : PixelPosition}
      (before : Before 0 0 pixel) : False :=
    not_before_start before
  refine {
    rows := rfl
    columns := rfl
    wellFormed := EquivalenceLabelTrees.reset_wellFormed _ _ _ _
    labelsSize := rfl
    room := ?_
    background := fun pixel before => (nothing before).elim
    labelled := fun pixel before => (nothing before).elim
    linked := fun first second before => (nothing before).elim
    together := fun first second before => (nothing before).elim
    counted := {
      starts := ?_
      startLabel := ?_
      startUnique := fun first second _ _ before => (nothing before).elim
    }
  }
  · show 1 ≤ min (min _ labelMax) labelMax
    cases connectivity <;> dsimp only <;> omega
  · have none :
        {pixel | IsStart connectivity (Foreground image isBackground) pixel ∧
          Before 0 0 pixel} = ∅ := by
      ext pixel
      exact ⟨fun isOld => (nothing isOld.2).elim, fun isOld => isOld.elim⟩
    rw [none, Set.ncard_empty]
    rfl
  · intro label positive bound
    exact absurd bound (Nat.not_lt.mpr positive)

/-- After the scan everything is labelled, unless the labels ran out. -/
theorem scanImage_scanned
    {labelMax : Nat}
    (hasLabels : 0 < labelMax)
    (background : isBackground 0 = true)
    (rows : 0 < image.rows)
    (columns : 0 < image.columns)
    (buffer : Nat → Nat → Nat) :
    Holds
      (Scanned connectivity isBackground image
        (capacity labelMax connectivity image) image.rows 0)
      (Overflows connectivity isBackground image
        (capacity labelMax connectivity image))
      (scanImage connectivity isBackground image
        (startScan labelMax connectivity buffer image)) := by
  have carried : Carried connectivity isBackground image
      (Scanned connectivity isBackground image
        (capacity labelMax connectivity image))
      (Overflows connectivity isBackground image
        (capacity labelMax connectivity image)) := {
    sizes := fun scanned => ⟨scanned.rows, scanned.columns⟩
    step := fun rowInside columnInside scanned =>
      scanned.step background rowInside columnInside
    newRow := fun scanned => scanned.newRow
  }
  exact carried.scanImage background rows columns
    (startScan_scanned labelMax hasLabels connectivity isBackground buffer image)

end Whole

end DenoiseLayer

end NavBim
