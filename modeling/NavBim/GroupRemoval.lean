import NavBim.LabelOverflow
import NavBim.LabelTable
import NavBim.SaturatingCount

namespace NavBim

namespace DenoiseLayer

open EquivalenceLabelTrees

/-!
# Removing groups

With the whole table of labels, each pixel finds the number of its group.  The
pixels of each number are counted up to one more than the size that groups need,
so that small groups are told apart from large ones, and the pixels of small
groups become zero.
-/

section Histogram

theorem histogram_getElem?
    {image : Image Nat}
    {imageMax binMax : Nat}
    (notEmpty : image.isEmpty = false)
    {label : Nat}
    (atMost : label ≤ imageMax) :
    (histogram image imageMax binMax)[label]? =
      some (min ((Finset.range image.rows ×ˢ Finset.range image.columns).filter
        fun pixel => image.get pixel.1 pixel.2 = label).card binMax) := by
  have flat :
      histogram image imageMax binMax =
        ((List.range image.rows ×ˢ List.range image.columns).map
          fun pixel => image.get pixel.1 pixel.2).foldl (countKey binMax)
          (Array.replicate (imageMax + 1) 0) := by
    rw [histogram, if_neg (by simp [notEmpty]), List.foldl_map]
    show _ = (List.flatMap _ _).foldl _ _
    rw [List.foldl_flatMap, ← List.range_eq_range', ← List.range_eq_range']
    dsimp only
    congr 1
    funext bins row
    rw [List.foldl_map]
    rfl
  rw [flat, countKeys_replicate binMax _ _ (Nat.lt_succ_of_le atMost),
    count_grid _ _ _ fun pixel => image.get pixel.1 pixel.2]

theorem noiseLabelsTable_getD
    {groupsSizes : Array Nat}
    {minimalGroupSize label size : Nat}
    (isPositive : 0 < label)
    (isSize :
      groupsSizes[label]? = some (min size (minimalGroupSize + 1))) :
    (noiseLabelsTable groupsSizes minimalGroupSize).getD label false =
      decide (size < minimalGroupSize) := by
  rw [noiseLabelsTable, Array.getD_eq_getD_getElem?, Array.getElem?_map,
    Array.getElem?_setIfInBounds_ne isPositive.ne, isSize]
  simp only [Option.map_some, Option.getD_some]
  congr 1
  rw [eq_iff_iff]
  omega

end Histogram

section Groups

variable
  {connectivity : ConnectivityType}
  {isBackground : UInt8 → Bool}
  {image : Image UInt8}
  {capacity : Nat}
  {scan : Scan}

/-- The number of a pixel's group. -/
def groupNumber
    (scan : Scan)
    (pixel : PixelPosition) : Nat :=
  classNumber scan.trees.parent (labelAt scan pixel)

variable
  {pixel : PixelPosition}

section

variable
  (scanned : ScannedAll connectivity isBackground image capacity scan)

include scanned

theorem Scanned.groupNumber_pos_iff
    (inside : image.Inside pixel.1 pixel.2) :
    0 < groupNumber scan pixel ↔ Foreground image isBackground pixel := by
  have before : Before image.rows 0 pixel := .inl inside.1
  constructor
  · intro isPositive
    by_contra notForeground
    have isZero := scanned.background pixel before inside notForeground
    rw [groupNumber, isZero] at isPositive
    exact absurd (isPositive.trans_le (classNumber_le _ 0)) (Nat.lt_irrefl 0)
  · intro isForeground
    have isPositive := (scanned.labelled pixel before isForeground).1
    have rootPositive := rootOf_pos scanned.wellFormed.positive isPositive
    exact (Nat.zero_le _).trans_lt
      (rootsUpTo_lt rootPositive (isRoot_rootOf _ _))

/-- The numbers are in the range of the table. -/
theorem Scanned.groupNumber_lt
    (inside : image.Inside pixel.1 pixel.2) :
    groupNumber scan pixel ≤ scan.trees.getLabels.size - 1 := by
  have isMade : labelAt scan pixel < scan.trees.nextFree :=
    scanned.label_lt inside
  rw [(getLabels_spec scanned.wellFormed).1, Nat.add_sub_cancel]
  exact (classNumber_le _ _).trans (rootsUpTo_mono (by omega))

theorem Scanned.card_groupNumber
    (isForeground : Foreground image isBackground pixel) :
    ((Finset.range image.rows ×ˢ Finset.range image.columns).filter
        fun other => groupNumber scan other = groupNumber scan pixel).card =
      (group connectivity (Foreground image isBackground) pixel).ncard := by
  rw [← Set.ncard_coe_finset]
  congr 1
  ext other
  rw [Finset.mem_coe, Finset.mem_filter, Finset.mem_product, Finset.mem_range,
    Finset.mem_range]
  constructor
  · rintro ⟨inside, same⟩
    have isOther : Foreground image isBackground other := by
      rw [← scanned.groupNumber_pos_iff inside, same]
      exact (scanned.groupNumber_pos_iff isForeground.1).mpr isForeground
    exact (scanned.rootAt_eq_iff isForeground isOther).mp
      (classNumber_eq_iff.mp same).symm
  · intro member
    have isOther := foreground_of_mem_group isForeground member
    exact ⟨isOther.1, classNumber_eq_iff.mpr (scanned.rootAt_group member).symm⟩

end

/-- The second pass finds all numbers in the whole table. -/
theorem Scanned.relabel_inMemory
    (scanned : ScannedAll connectivity isBackground image capacity scan) :
    ∃ labels,
      relabel LabelsMap.lookupInMemory scan.trees.getLabels scan.labels =
        .ok labels ∧
      labels.rows = image.rows ∧ labels.columns = image.columns ∧
      ∀ row column, image.Inside row column →
        labels.get row column = groupNumber scan (row, column) := by
  have entry {row column : Nat}
      (inside : image.Inside row column) :
      LabelsMap.lookupInMemory scan.trees.getLabels
          (scan.labels.get row column) =
        some (groupNumber scan (row, column)) :=
    (getLabels_spec scanned.wellFormed).2.2 _ (scanned.label_lt inside)
  refine ⟨_, if_pos ?_, scanned.rows, scanned.columns, ?_⟩
  · intro row rowInside column columnInside
    rw [entry ⟨rowInside.trans_eq scanned.rows,
      columnInside.trans_eq scanned.columns⟩]
    rfl
  · intro row column inside
    have insideLabels : scan.labels.Inside row column :=
      ⟨inside.1.trans_eq scanned.rows.symm,
        inside.2.trans_eq scanned.columns.symm⟩
    rw [Image.get_mapPixels _ insideLabels, entry inside]
    rfl

end Groups

section Removal

variable
  {connectivity : ConnectivityType}
  {isBackground : UInt8 → Bool}
  {image : Image UInt8}

theorem removeGroupsImpl_removed
    {labelMax : Nat}
    (hasLabels : 0 < labelMax)
    (background : isBackground 0 = true)
    (rows : 0 < image.rows)
    (columns : 0 < image.columns)
    (minimalGroupSize : Nat)
    (buffer : Nat → Nat → Nat)
    (noOverflow : removeGroupsImpl LabelsMap.lookupInMemory labelMax connectivity
      isBackground minimalGroupSize buffer image ≠ .error .labelOverflow) :
    ∃ after,
      removeGroupsImpl LabelsMap.lookupInMemory labelMax connectivity
          isBackground minimalGroupSize buffer image = .ok after ∧
        GroupsRemoved connectivity isBackground minimalGroupSize image
          after := by
  have notEmpty : ¬ image.rows * image.columns = 0 :=
    (Nat.mul_pos rows columns).ne'
  have result := @scanImage_scanned connectivity isBackground image labelMax
    hasLabels background rows columns buffer
  rw [ne_eq, removeGroupsImpl_overflows_iff _ _ _ rows columns] at noOverflow
  cases scanSucceeds : scanImage connectivity isBackground image
    (startScan labelMax connectivity buffer image) with
  | error error =>
      rw [scanSucceeds] at result noOverflow
      exact absurd (congrArg _ result.1) noOverflow
  | ok scan =>
      rw [scanSucceeds] at result
      have scanned : ScannedAll connectivity isBackground image _ scan := result
      obtain ⟨labels, relabelled, labelRows, labelColumns, numbers⟩ :=
        scanned.relabel_inMemory
      have labelsNotEmpty : labels.isEmpty = false := by
        simp [Image.isEmpty, labelRows, labelColumns, rows.ne', columns.ne']
      have sizes {row column : Nat}
          (isForeground : Foreground image isBackground (row, column)) :
          (histogram labels (scan.trees.getLabels.size - 1)
              (minimalGroupSize + 1))[groupNumber scan (row, column)]? =
            some (min (group connectivity (Foreground image isBackground)
              (row, column)).ncard (minimalGroupSize + 1)) := by
        rw [histogram_getElem? labelsNotEmpty
          (scanned.groupNumber_lt isForeground.1), labelRows, labelColumns,
          ← scanned.card_groupNumber isForeground]
        congr 3
        apply Finset.filter_congr
        rintro ⟨otherRow, otherColumn⟩ inside
        rw [Finset.mem_product, Finset.mem_range, Finset.mem_range] at inside
        rw [numbers otherRow otherColumn inside]
      have noise {row column : Nat}
          (isForeground : Foreground image isBackground (row, column)) :=
        noiseLabelsTable_getD
          ((scanned.groupNumber_pos_iff isForeground.1).mpr isForeground)
          (sizes isForeground)
      rw [removeGroupsImpl, connectedComponents, if_neg notEmpty, scanSucceeds]
      simp only [ok_bind, relabelled, pure, Except.pure]
      rw [convert, if_neg (by simp [labelRows, labelColumns])]
      refine ⟨_, rfl, rfl, rfl, ?_, ?_⟩
      · intro row column isForeground small
        rw [Image.get_mapPixels _ isForeground.1, numbers _ _ isForeground.1,
          noise isForeground]
        simp [isForeground.2, small]
      · intro row column inside large
        rw [Image.get_mapPixels _ inside, numbers _ _ inside]
        apply if_neg
        intro isRemoved
        simp only [Bool.and_eq_true, Bool.not_eq_true'] at isRemoved
        have isForeground : Foreground image isBackground (row, column) :=
          ⟨inside, isRemoved.1⟩
        have small := isRemoved.2
        rw [noise isForeground, decide_eq_true_eq] at small
        exact absurd (large isForeground) (Nat.not_le.mpr small)

/-- The image after a call.  Nothing is written before the last loop, which
cannot throw. -/
def imageAfter
    (image : Image UInt8) : Except ScanError (Image UInt8) → Image UInt8
  | .ok after => after
  | .error _ => image

theorem removeGroupsImpl_size
    (lookup : LabelsMap → Nat → Option Nat)
    (labelMax minimalGroupSize : Nat)
    (buffer : Nat → Nat → Nat)
    {after : Image UInt8}
    (succeeds : removeGroupsImpl lookup labelMax connectivity isBackground
      minimalGroupSize buffer image = .ok after) :
    after.rows = image.rows ∧ after.columns = image.columns := by
  rw [removeGroupsImpl] at succeeds
  cases labelled : connectedComponents lookup labelMax connectivity isBackground
    buffer image with
  | error error =>
      rw [labelled] at succeeds
      cases succeeds
  | ok labels =>
      rw [labelled] at succeeds
      simp only [ok_bind, convert] at succeeds
      split at succeeds
      · case _ converted =>
        cases succeeds
        split at converted
        · cases converted
        · cases converted
          exact ⟨rfl, rfl⟩
      · cases succeeds

/-- In an image without pixels there is nothing to remove. -/
theorem groupsRemoved_empty
    {minimalGroupSize : Nat}
    {after : Image UInt8}
    (isEmpty : image.rows = 0 ∨ image.columns = 0)
    (size : after.rows = image.rows ∧ after.columns = image.columns) :
    GroupsRemoved connectivity isBackground minimalGroupSize image after := by
  have outside {row column : Nat} : ¬ image.Inside row column := by
    rintro ⟨rowInside, columnInside⟩
    omega
  exact {
    rows := size.1
    columns := size.2
    removed := fun row column isForeground =>
      absurd isForeground.1 outside
    kept := fun row column inside => absurd inside outside
  }

theorem removeGroupsImpl_imageAfter
    {labelMax : Nat}
    (hasLabels : 0 < labelMax)
    (background : isBackground 0 = true)
    (minimalGroupSize : Nat)
    (buffer : Nat → Nat → Nat)
    (noOverflow : removeGroupsImpl LabelsMap.lookupInMemory labelMax connectivity
      isBackground minimalGroupSize buffer image ≠ .error .labelOverflow) :
    GroupsRemoved connectivity isBackground minimalGroupSize image
        (imageAfter image (removeGroupsImpl LabelsMap.lookupInMemory labelMax
          connectivity isBackground minimalGroupSize buffer image)) ∧
      (image.isEmpty = false →
        ∃ after, removeGroupsImpl LabelsMap.lookupInMemory labelMax connectivity
          isBackground minimalGroupSize buffer image = .ok after) := by
  by_cases isEmpty : image.rows = 0 ∨ image.columns = 0
  · refine ⟨groupsRemoved_empty isEmpty ?_, ?_⟩
    · cases result : removeGroupsImpl LabelsMap.lookupInMemory labelMax
        connectivity isBackground minimalGroupSize buffer image with
      | error error => exact ⟨rfl, rfl⟩
      | ok after => exact removeGroupsImpl_size _ _ _ _ result
    · intro notEmpty
      simp [Image.isEmpty, isEmpty] at notEmpty
  · rw [not_or] at isEmpty
    obtain ⟨after, succeeds, removed⟩ := removeGroupsImpl_removed hasLabels
      background (Nat.pos_of_ne_zero isEmpty.1) (Nat.pos_of_ne_zero isEmpty.2)
      minimalGroupSize buffer noOverflow
    rw [succeeds]
    exact ⟨removed, fun _ => ⟨after, rfl⟩⟩

/-- Unless the labels run out, exactly the small groups are removed, if labels
are looked up in the whole table. -/
theorem removeGroups_removed
    (background : isBackground 0 = true)
    (minimalGroupSize : Nat)
    (buffer : Nat → Nat → Nat)
    (labelType : LabelType)
    (noOverflow : (removeGroups LabelsMap.lookupInMemory connectivity
      isBackground minimalGroupSize buffer image labelType).1 ≠
        .error .labelOverflow) :
    GroupsRemoved connectivity isBackground minimalGroupSize image
        (imageAfter image (removeGroups LabelsMap.lookupInMemory connectivity
          isBackground minimalGroupSize buffer image labelType).1) ∧
      (image.isEmpty = false →
        ∃ after, (removeGroups LabelsMap.lookupInMemory connectivity
          isBackground minimalGroupSize buffer image labelType).1 =
            .ok after) := by
  cases labelType with
  | uint32 =>
      exact removeGroupsImpl_imageAfter (Nat.succ_pos _) background
        minimalGroupSize buffer noOverflow
  | uint16 =>
      rw [removeGroups] at noOverflow ⊢
      dsimp only at noOverflow ⊢
      split at noOverflow
      · exact removeGroupsImpl_imageAfter (Nat.succ_pos _) background
          minimalGroupSize buffer noOverflow
      · exact removeGroupsImpl_imageAfter (Nat.succ_pos _) background
          minimalGroupSize buffer noOverflow

/-- Two obstacles that meet in the row below are removed as one group. -/
theorem uShape_removed :
    GroupsRemoved .way4 (DenoiseLayer.isBackground true) 6 uShape
      (imageAfter uShape (removeGroups LabelsMap.lookupInMemory .way4
        (DenoiseLayer.isBackground true) 6 (fun _ _ => 0) uShape .uint16).1) := by
  refine (removeGroups_removed rfl 6 (fun _ _ => 0) .uint16 ?_).1
  have succeeds :
      (removeGroups LabelsMap.lookupInMemory .way4
        (DenoiseLayer.isBackground true) 6 (fun _ _ => 0) uShape
        .uint16).1.toOption.isSome = true := by
    decide +kernel
  intro overflow
  rw [overflow] at succeeds
  cases succeeds

end Removal

end DenoiseLayer

end NavBim
