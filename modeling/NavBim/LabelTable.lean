import NavBim.ComponentClasses

namespace NavBim

namespace DenoiseLayer

open EquivalenceLabelTrees

/-!
# The table of final labels

After the scan a label stands for the group of its pixels.  The table has an
entry for each provisional label, but it is cut to the number of groups before
the labels of the image are looked up in it.  Entries are missing whenever a
group got more than one label.
-/

variable
  {connectivity : ConnectivityType}
  {isBackground : UInt8 → Bool}
  {image : Image UInt8}
  {capacity : Nat}
  {scan : Scan}

section Classes

variable
  {first second : PixelPosition}

/-- A scan that reached the end of the image. -/
abbrev ScannedAll
    (connectivity : ConnectivityType)
    (isBackground : UInt8 → Bool)
    (image : Image UInt8)
    (capacity : Nat)
    (scan : Scan) : Prop :=
  Scanned connectivity isBackground image capacity image.rows 0 scan

/-- Every pixel of the image is before its end. -/
theorem foreground_before
    (isForeground : Foreground image isBackground first) :
    Before image.rows 0 first :=
  .inl isForeground.1.1

section

variable
  (scanned : ScannedAll connectivity isBackground image capacity scan)

include scanned

theorem Scanned.rootAt_group
    (member :
      second ∈ group connectivity (Foreground image isBackground) first) :
    rootAt scan first = rootAt scan second := by
  induction member with
  | refl => rfl
  | tail _ linked inductionHypothesis =>
      exact inductionHypothesis.trans (scanned.linked _ _
        (foreground_before linked.start) (foreground_before linked.stop) linked)

theorem Scanned.rootAt_eq_iff
    (isFirst : Foreground image isBackground first)
    (isSecond : Foreground image isBackground second) :
    rootAt scan first = rootAt scan second ↔
      second ∈ group connectivity (Foreground image isBackground) first :=
  ⟨scanned.together first second (foreground_before isFirst)
      (foreground_before isSecond) isFirst isSecond,
    scanned.rootAt_group⟩

/-- Every stored label has been made. -/
theorem Scanned.label_lt
    {row column : Nat}
    (inside : image.Inside row column) :
    scan.labels.get row column < scan.trees.nextFree := by
  have before : Before image.rows 0 (row, column) := .inl inside.1
  by_cases isForeground : Foreground image isBackground (row, column)
  · exact (scanned.labelled _ before isForeground).2
  · have isZero := scanned.background _ before inside isForeground
    rw [labelAt] at isZero
    rw [isZero]
    exact scanned.wellFormed.started

theorem Scanned.startOf
    {label : Nat}
    (isPositive : 0 < label)
    (isMade : label < scan.trees.nextFree) :
    ∃ pixel, IsStart connectivity (Foreground image isBackground) pixel ∧
      labelAt scan pixel = label := by
  obtain ⟨pixel, isStart, -, isLabel⟩ :=
    scanned.counted.startLabel label isPositive isMade
  exact ⟨pixel, isStart, isLabel⟩

theorem Scanned.start_unique
    (isFirst : IsStart connectivity (Foreground image isBackground) first)
    (isSecond : IsStart connectivity (Foreground image isBackground) second)
    (same : labelAt scan first = labelAt scan second) :
    first = second :=
  scanned.counted.startUnique first second isFirst isSecond
    (foreground_before isFirst.isForeground)
    (foreground_before isSecond.isForeground) same

end

end Classes

section Entries

/-- Each group has a single pixel that a label is made at. -/
def SingleStarts
    (connectivity : ConnectivityType)
    (foreground : PixelPosition → Prop) : Prop :=
  ∀ first second, IsStart connectivity foreground first →
    IsStart connectivity foreground second →
    second ∈ group connectivity foreground first → first = second

/-- A label has an entry in the table, which is the number of its class. -/
structure HasEntry
    (trees : EquivalenceLabelTrees)
    (label : Nat) : Prop where
  inside : label < trees.getLabels.size
  isNumber :
    trees.getLabels.lookup label = some (classNumber trees.parent label)

theorem hasEntry_iff
    {trees : EquivalenceLabelTrees}
    (wellFormed : trees.WellFormed)
    {label : Nat}
    (isMade : label < trees.nextFree) :
    HasEntry trees label ↔ label < trees.getLabels.size := by
  constructor
  · exact HasEntry.inside
  · intro inside
    refine ⟨inside, ?_⟩
    rw [LabelsMap.lookup, if_pos inside]
    exact (getLabels_spec wellFormed).2.2 label isMade

section

variable
  (scanned : ScannedAll connectivity isBackground image capacity scan)

include scanned

/-- If all labels are roots, nothing is cut off. -/
theorem Scanned.hasEntry_of_roots
    (roots : ∀ label, 0 < label → label < scan.trees.nextFree →
      IsRoot scan.trees.parent label)
    {row column : Nat}
    (inside : image.Inside row column) :
    HasEntry scan.trees (scan.labels.get row column) := by
  have isMade := scanned.label_lt inside
  rw [hasEntry_iff scanned.wellFormed isMade,
    (getLabels_spec scanned.wellFormed).1]
  have many := (rootsUpTo_eq_iff scan.trees.parent
    (scan.trees.nextFree - 1)).mpr
    fun label isPositive atMost =>
      roots label isPositive (by have := scanned.wellFormed.started; omega)
  omega

theorem Scanned.roots_of_hasEntry
    (entries : ∀ row < image.rows, ∀ column < image.columns,
      HasEntry scan.trees (scan.labels.get row column))
    {label : Nat}
    (isPositive : 0 < label)
    (isMade : label < scan.trees.nextFree) :
    IsRoot scan.trees.parent label := by
  obtain ⟨pixel, isStart, isLast⟩ :=
    scanned.startOf (Nat.sub_pos_of_lt (by omega : 1 < scan.trees.nextFree))
      (Nat.sub_one_lt (by omega))
  have inside := isStart.isForeground.1
  have entry := (entries pixel.1 inside.1 pixel.2 inside.2).inside
  rw [labelAt] at isLast
  rw [isLast, (getLabels_spec scanned.wellFormed).1] at entry
  exact (rootsUpTo_eq_iff scan.trees.parent (scan.trees.nextFree - 1)).mp
    (by omega) label isPositive (by omega)

theorem Scanned.roots_iff :
    (∀ label, 0 < label → label < scan.trees.nextFree →
        IsRoot scan.trees.parent label) ↔
      SingleStarts connectivity (Foreground image isBackground) := by
  constructor
  · intro roots first second isFirst isSecond member
    have own {pixel : PixelPosition}
        (isStart : IsStart connectivity (Foreground image isBackground) pixel) :
        rootAt scan pixel = labelAt scan pixel := by
      obtain ⟨isPositive, isMade⟩ :=
        scanned.labelled pixel (foreground_before isStart.isForeground)
          isStart.isForeground
      exact rootOf_of_isRoot (roots _ isPositive isMade)
    have same := scanned.rootAt_group member
    rw [own isFirst, own isSecond] at same
    exact scanned.start_unique isFirst isSecond same
  · intro single label isPositive isMade
    have rootPositive : 0 < rootOf scan.trees.parent label :=
      rootOf_pos scanned.wellFormed.positive isPositive
    have rootMade : rootOf scan.trees.parent label < scan.trees.nextFree :=
      (rootOf_le _ _).trans_lt isMade
    obtain ⟨first, isFirst, isLabel⟩ := scanned.startOf isPositive isMade
    obtain ⟨second, isSecond, isRootLabel⟩ :=
      scanned.startOf rootPositive rootMade
    have sameRoot : rootAt scan first = rootAt scan second := by
      rw [rootAt, rootAt, isLabel, isRootLabel, rootOf_rootOf]
    have member := (scanned.rootAt_eq_iff isFirst.isForeground
      isSecond.isForeground).mp sameRoot
    have samePixel := single first second isFirst isSecond member
    rw [← isLabel, samePixel, isRootLabel]
    exact isRoot_rootOf _ _

end

/-- All labels of the image have entries in the cut table exactly if each group
has a single pixel that none before it is linked with. -/
theorem labels_haveEntries_iff
    {labelMax : Nat}
    (hasLabels : 0 < labelMax)
    (background : isBackground 0 = true)
    (rows : 0 < image.rows)
    (columns : 0 < image.columns)
    (buffer : Nat → Nat → Nat)
    (scanSucceeds : scanImage connectivity isBackground image
      (startScan labelMax connectivity buffer image) = .ok scan) :
    (∀ row < image.rows, ∀ column < image.columns,
        HasEntry scan.trees (scan.labels.get row column)) ↔
      SingleStarts connectivity (Foreground image isBackground) := by
  have scanned := @scanImage_scanned connectivity isBackground image labelMax
    hasLabels background rows columns buffer
  rw [scanSucceeds] at scanned
  rw [← scanned.roots_iff]
  constructor
  · intro entries label isPositive isMade
    exact scanned.roots_of_hasEntry entries isPositive isMade
  · intro roots row rowInside column columnInside
    exact scanned.hasEntry_of_roots roots ⟨rowInside, columnInside⟩

/-- Two obstacles with a free cell between them. -/
def twoPixels : Image UInt8 :=
  .ofPixels 1 3 fun _ column => if column = 1 then 0 else lethalObstacle

theorem twoPixels_haveEntries :
    ∃ scan,
      scanImage .way4 (DenoiseLayer.isBackground true) twoPixels
          (startScan LabelType.uint16.max .way4 (fun _ _ => 0) twoPixels) =
        .ok scan ∧
        ∀ row < 1, ∀ column < 3,
          HasEntry scan.trees (scan.labels.get row column) := by
  obtain ⟨scan, isScan⟩ : ∃ scan,
      scanImage .way4 (DenoiseLayer.isBackground true) twoPixels
          (startScan LabelType.uint16.max .way4 (fun _ _ => 0) twoPixels) =
        .ok scan := ⟨_, rfl⟩
  refine ⟨scan, isScan, (labels_haveEntries_iff (Nat.succ_pos _) rfl
    Nat.one_pos (Nat.succ_pos 2) _ isScan).mpr ?_⟩
  intro first second _ _ member
  rcases Relation.ReflTransGen.cases_head member with same | ⟨next, linked, -⟩
  · exact same
  · have outer : ∀ row < 1, ∀ column < 3,
        Foreground twoPixels (DenoiseLayer.isBackground true) (row, column) →
          column ≠ 1 := by
      decide +kernel
    -- so no obstacle is next to another one
    have here : first.1 < 1 ∧ first.2 < 3 := linked.start.1
    have there : next.1 < 1 ∧ next.2 < 3 := linked.stop.1
    have left := outer _ here.1 _ here.2 linked.start
    have right := outer _ there.1 _ there.2 linked.stop
    rcases linked.adjacent with ⟨-, near⟩ | ⟨-, near⟩
    · omega
    · omega

/-- Two obstacles side by side that meet in the row below. -/
def uShape : Image UInt8 :=
  .ofPixels 2 3 fun row column =>
    if row = 0 ∧ column = 1 then freeSpace else lethalObstacle

/-- The second arm keeps label 2, but the table is cut to the labels 0 and 1. -/
theorem uShape_lacksEntry :
    ¬ ∀ (connectivity : ConnectivityType) (isBackground : UInt8 → Bool)
        (image : Image UInt8) (labelType : LabelType)
        (buffer : Nat → Nat → Nat) (scan : Scan),
      isBackground 0 = true → 0 < image.rows → 0 < image.columns →
      scanImage connectivity isBackground image
          (startScan labelType.max connectivity buffer image) = .ok scan →
        ∀ row < image.rows, ∀ column < image.columns,
          HasEntry scan.trees (scan.labels.get row column) := by
  intro always
  have isCut :
      (scanImage .way4 (DenoiseLayer.isBackground true) uShape
        (startScan LabelType.uint16.max .way4 (fun _ _ => 0) uShape)).toOption.map
          (fun scan => (scan.trees.getLabels.size, scan.labels.get 0 2)) =
        some (2, 2) := by
    decide +kernel
  cases scanSucceeds : scanImage .way4 (DenoiseLayer.isBackground true) uShape
    (startScan LabelType.uint16.max .way4 (fun _ _ => 0) uShape) with
  | error error =>
      rw [scanSucceeds] at isCut
      cases isCut
  | ok scan =>
      rw [scanSucceeds] at isCut
      simp only [Except.toOption, Option.map_some, Option.some.injEq,
        Prod.mk.injEq] at isCut
      have entry := (always .way4 (DenoiseLayer.isBackground true) uShape .uint16
        (fun _ _ => 0) scan rfl (by decide) (by decide) scanSucceeds 0
        (by decide) 2 (by decide)).inside
      omega

end Entries

end DenoiseLayer

end NavBim
