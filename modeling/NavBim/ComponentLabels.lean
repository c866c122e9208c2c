import NavBim.DenoiseLayer
import NavBim.LabelTrees

namespace NavBim

/-!
# Connected groups of an image

An image is scanned row by row, and each foreground pixel gets a label from the
pixels around it that were scanned before.  At the border of the image these
pixels are taken for background; elsewhere they are read without a check.  The
labels of one group are found to be equivalent by then, and a table of final
labels replaces them.  Groups that are too small are removed.

    a b c
    d e
-/

namespace DenoiseLayer

/-- The pixels around the current one, which is `e`. -/
structure Window (α : Type) where
  a : Except ScanError α
  b : Except ScanError α
  c : Except ScanError α
  d : Except ScanError α
  e : Except ScanError α

structure Scan where
  labels : Image Nat
  trees : EquivalenceLabelTrees

/-- The type of the labels in use. -/
inductive LabelType where
  | uint16
  | uint32
  deriving Repr, DecidableEq

def LabelType.max : LabelType → Nat
  | .uint16 => 2 ^ 16 - 1
  | .uint32 => 2 ^ 32 - 1

section Windows

variable {α : Type} [Zero α]

/-- A window that reads zeros beside the image. -/
def safeWindow
    (image : Image α)
    (row column : Nat) : Window α where
  a := .ok (if row = 0 ∨ column = 0 then 0
    else image.get (row - 1) (column - 1))
  b := .ok (if row = 0 then 0 else image.get (row - 1) column)
  c := .ok (if row = 0 ∨ image.columns ≤ column + 1 then 0
    else image.get (row - 1) (column + 1))
  d := .ok (if column = 0 then 0 else image.get row (column - 1))
  e := .ok (image.get row column)

def readPixel
    (image : Image α)
    (row column : Nat) : Except ScanError α :=
  if image.Inside row column then
    .ok (image.get row column)
  else
    .error .outOfBounds

/-- A window that does not check what it reads. -/
def unsafeWindow
    (image : Image α)
    (row column : Nat) : Window α where
  a := if row = 0 ∨ column = 0 then .error .outOfBounds
    else readPixel image (row - 1) (column - 1)
  b := if row = 0 then .error .outOfBounds else readPixel image (row - 1) column
  c := if row = 0 then .error .outOfBounds
    else readPixel image (row - 1) (column + 1)
  d := if column = 0 then .error .outOfBounds
    else readPixel image row (column - 1)
  e := readPixel image row column

end Windows

section Model

/-- The label of a pixel with eight neighbours. -/
def passWay8
    (isBackground : UInt8 → Bool)
    (image : Window UInt8)
    (label : Window Nat)
    (trees : EquivalenceLabelTrees) :
    Except ScanError (Nat × EquivalenceLabelTrees) := do
  if !isBackground (← image.e) then
    if (← label.b) ≠ 0 then
      return (← label.b, trees)
    else
      if !isBackground (← image.c) then
        if !isBackground (← image.a) then
          return trees.unionTrees (← label.c) (← label.a)
        else
          if !isBackground (← image.d) then
            return trees.unionTrees (← label.c) (← label.d)
          else
            return (← label.c, trees)
      else
        if !isBackground (← image.a) then
          return (← label.a, trees)
        else
          if !isBackground (← image.d) then
            return (← label.d, trees)
          else
            trees.makeLabel
  else
    return (0, trees)

/-- The label of a pixel with four neighbours. -/
def passWay4
    (isBackground : UInt8 → Bool)
    (image : Window UInt8)
    (label : Window Nat)
    (trees : EquivalenceLabelTrees) :
    Except ScanError (Nat × EquivalenceLabelTrees) := do
  if !isBackground (← image.e) then
    if !isBackground (← image.b) then
      if !isBackground (← image.d) then
        return trees.unionTrees (← label.d) (← label.b)
      else
        return (← label.b, trees)
    else
      if !isBackground (← image.d) then
        return (← label.d, trees)
      else
        trees.makeLabel
  else
    return (0, trees)

variable
  (connectivity : ConnectivityType)

/-- Set the label of the current pixel. -/
def passPixel
    (isBackground : UInt8 → Bool)
    (image : Window UInt8)
    (label : Window Nat)
    (row column : Nat)
    (scan : Scan) : Except ScanError Scan := do
  let (current, trees) ←
    match connectivity with
    | .way8 => passWay8 isBackground image label scan.trees
    | .way4 => passWay4 isBackground image label scan.trees
  return { labels := scan.labels.set row column current, trees := trees }

def scanFirstRow
    (isBackground : UInt8 → Bool)
    (image : Image UInt8)
    (scan : Scan) : Except ScanError Scan :=
  (List.range' 0 image.columns).foldlM (fun scan column =>
    passPixel connectivity isBackground (safeWindow image 0 column)
      (safeWindow scan.labels 0 column) 0 column scan) scan

/-- Scan another row.  Labels in the first column are not checked, since those
beside the image are not needed where the pixels are background. -/
def scanRow
    (isBackground : UInt8 → Bool)
    (image : Image UInt8)
    (scan : Scan)
    (row : Nat) : Except ScanError Scan := do
  let scan ← passPixel connectivity isBackground (safeWindow image row 0)
    (unsafeWindow scan.labels row 0) row 0 scan
  let scan ← (List.range' 1 (image.columns - 2)).foldlM (fun scan column =>
    passPixel connectivity isBackground (unsafeWindow image row column)
      (unsafeWindow scan.labels row column) row column scan) scan
  if 1 < image.columns then
    passPixel connectivity isBackground
      (safeWindow image row (image.columns - 1))
      (safeWindow scan.labels row (image.columns - 1)) row
      (image.columns - 1) scan
  else
    return scan

/-- The first pass, which leaves provisional labels. -/
def scanImage
    (isBackground : UInt8 → Bool)
    (image : Image UInt8)
    (scan : Scan) : Except ScanError Scan := do
  let scan ← scanFirstRow connectivity isBackground image scan
  (List.range' 1 (image.rows - 1)).foldlM
    (scanRow connectivity isBackground image) scan

variable
  (lookup : LabelsMap → Nat → Option Nat)

/-- The second pass, which looks up the final labels. -/
def relabel
    (labelsMap : LabelsMap)
    (labels : Image Nat) : Except ScanError (Image Nat) :=
  if ∀ row < labels.rows, ∀ column < labels.columns,
      (lookup labelsMap (labels.get row column)).isSome then
    .ok (labels.mapPixels fun _ _ label =>
      (lookup labelsMap label).getD 0)
  else
    .error .outOfBounds

variable
  (labelMax : Nat)

/-- The labels of an image before the first pass.  Their memory holds what was
there. -/
def startScan
    (connectivity : ConnectivityType)
    (buffer : Nat → Nat → Nat)
    (image : Image UInt8) : Scan where
  labels := .ofPixels image.rows image.columns buffer
  trees := .reset labelMax image.rows image.columns connectivity

/-- The labelled image and the number of labels. -/
def connectedComponents
    (connectivity : ConnectivityType)
    (isBackground : UInt8 → Bool)
    (buffer : Nat → Nat → Nat)
    (image : Image UInt8) : Except ScanError (Image Nat × Nat) :=
  if image.rows * image.columns = 0 then
    .ok (.ofPixels 0 0 buffer, 0)
  else do
    let scan ← scanImage connectivity isBackground image
      (startScan labelMax connectivity buffer image)
    let labelsMap := scan.trees.getLabels
    let labels ← relabel lookup labelsMap scan.labels
    return (labels, labelsMap.size)

/-- The number of pixels with each value, as far as `binMax`. -/
def histogram
    (image : Image Nat)
    (imageMax binMax : Nat) : Array Nat :=
  if image.isEmpty then
    #[]
  else
    let addPixelValue (histogram : Array Nat) (pixel : Nat) : Array Nat :=
      histogram.modify pixel fun bin => min (bin + 1) binMax
    (List.range' 0 image.rows).foldl (fun histogram row =>
      (List.range' 0 image.columns).foldl (fun histogram column =>
        addPixelValue histogram (image.get row column)) histogram)
      (Array.replicate (imageMax + 1) 0)

/-- Whether the group with a label is noise.  The background is not. -/
def noiseLabelsTable
    (groupsSizes : Array Nat)
    (minimalGroupSize : Nat) : Array Bool :=
  (groupsSizes.setIfInBounds 0 0).map fun bin => bin < minimalGroupSize

def removeGroupsImpl
    (connectivity : ConnectivityType)
    (isBackground : UInt8 → Bool)
    (minimalGroupSize : Nat)
    (buffer : Nat → Nat → Nat)
    (image : Image UInt8) : Except ScanError (Image UInt8) := do
  let (labels, groupsCount) ←
    connectedComponents lookup labelMax connectivity isBackground buffer image
  let groupsSizes :=
    histogram labels (groupsCount - 1) (minimalGroupSize + 1)
  let noise := noiseLabelsTable groupsSizes minimalGroupSize
  match convert labels image fun label pixel =>
      if !isBackground pixel && noise.getD label false then
        0
      else
        pixel with
  | .ok after => .ok after
  | .error what => .error (.logicError what)

/-- Remove groups with the labels in use.  Where 16 bits are not enough the
layer goes over to 32 bits, and stays with them. -/
def removeGroups
    (connectivity : ConnectivityType)
    (isBackground : UInt8 → Bool)
    (minimalGroupSize : Nat)
    (buffer : Nat → Nat → Nat)
    (image : Image UInt8)
    (labelType : LabelType) : Except ScanError (Image UInt8) × LabelType :=
  let remove (labelType : LabelType) :=
    removeGroupsImpl lookup labelType.max connectivity isBackground
      minimalGroupSize buffer image
  match labelType with
  | .uint16 =>
      match remove .uint16 with
      | .error .labelOverflow => (remove .uint32, .uint32)
      | result => (result, .uint16)
  | .uint32 => (remove .uint32, .uint32)

end Model

end DenoiseLayer

end NavBim
