import Mathlib
import NavBim.CostmapPublisher
import NavBim.EventRun

namespace NavBim

/-!
# Costmaps of a subscriber

To a subscriber a message for a whole costmap replaces what came before, and an
update changes a window of it.  That the subscriber keeps a whole costmap as a
message for a while makes no difference to this.

So the order of the messages decides, and a subscriber that connects late gets
the last message of each topic only.  The subscriber has the costmap of the
publisher when each message finds the costmap that it was made for.
-/

namespace CostmapSubscriber

variable {K F : Type} [DecidableEq K]

/-- The costmap of a message. -/
def costmapOf
    (floats : FloatConversion K F)
    (msg : CostmapMsg K F) : Costmap2D K :=
  { gridOf floats msg with
    costmap := msg.data
    size_costmap := msg.size_data }

/-- What a message means to a costmap. -/
def apply
    (floats : FloatConversion K F)
    (costmap : Option (Costmap2D K)) : RawMessage K F → Option (Costmap2D K)
  | .costmap msg => some (costmapOf floats msg)
  | .update msg => costmap.map (copyUpdate · msg)

/-- The costmap that a subscriber stands for. -/
def current
    (floats : FloatConversion K F)
    (subscriber : CostmapSubscriber K F) : Option (Costmap2D K) :=
  subscriber.costmap.map fun costmap =>
    match subscriber.costmapMsg with
    | some msg => processMsg floats costmap msg
    | none => costmap

variable
  {floats : FloatConversion K F}
  {subscriber : CostmapSubscriber K F}

omit [DecidableEq K] in
theorem copyCosts_eq
    {costmap : Costmap2D K}
    {msg : CostmapMsg K F}
    (grid : costmap.toGrid = gridOf floats msg) :
    copyCosts costmap msg.data = costmapOf floats msg := by
  obtain ⟨costmapGrid, costs, size⟩ := costmap
  obtain rfl : costmapGrid = gridOf floats msg := grid
  have same : (costs.mapIdx fun index cost => msg.data.getD index cost) =
      msg.data := by
    refine Array.ext ?_ fun index inside inside' => ?_
    · rw [Array.size_mapIdx, size, msg.size_data]
      rfl
    · rw [Array.getElem_mapIdx, Array.getD_eq_getD_getElem?,
        Array.getElem?_eq_getElem inside', Option.getD_some]
  simp only [copyCosts, costmapOf, same]

/-- Whether or not the grid has to change, the message replaces it all. -/
theorem processMsg_eq
    (costmap : Costmap2D K)
    (msg : CostmapMsg K F) :
    processMsg floats costmap msg = costmapOf floats msg := by
  rw [processMsg]
  split
  · exact copyCosts_eq rfl
  · case isFalse unchanged =>
    refine copyCosts_eq ?_
    simp only [haveCostmapParametersChanged, Bool.or_eq_true,
      decide_eq_true_eq, not_or, not_not] at unchanged
    obtain ⟨⟨⟨sizeX, sizeY⟩, resolution⟩, originX, originY⟩ := unchanged
    rw [Grid.mk.injEq]
    exact ⟨sizeX, sizeY, resolution, originX, originY⟩

/-- Processing what was kept leaves the costmap that the subscriber stands
for. -/
theorem processCurrentCostmapMsg_eq
    {costmap : Costmap2D K}
    (held : subscriber.costmap = some costmap) :
    subscriber.processCurrentCostmapMsg floats costmap =
      { costmap := subscriber.current floats, costmapMsg := none } := by
  rw [current, held, processCurrentCostmapMsg]
  cases subscriber.costmapMsg with
  | some msg =>
      rfl
  | none =>
      rfl

theorem current_without_msg
    (costmap : Option (Costmap2D K)) :
    current floats { costmap, costmapMsg := none } = costmap := by
  cases costmap with
  | some map =>
      rfl
  | none =>
      rfl

/-- Keeping a message for later makes no difference. -/
theorem current_receive
    (message : RawMessage K F) :
    (subscriber.receive floats message).current floats =
      apply floats (subscriber.current floats) message := by
  cases message with
  | costmap msg =>
      rw [receive, costmapCallback]
      cases held : subscriber.costmap with
      | some costmap =>
          simp only [current, held, Option.map_some, processMsg_eq]
          rfl
      | none =>
          simp only [processCurrentCostmapMsg, current, Option.map_some,
            processMsg_eq]
          rfl
  | update msg =>
      rw [receive, costmapUpdateCallback]
      cases held : subscriber.costmap with
      | some costmap =>
          dsimp only
          rw [processCurrentCostmapMsg_eq held, current_without_msg]
          rfl
      | none =>
          simp only [current, held]
          rfl

theorem getCostmap_eq :
    (subscriber.getCostmap floats).1 = subscriber.current floats ∧
      (subscriber.getCostmap floats).2.current floats =
        subscriber.current floats := by
  rw [getCostmap]
  cases held : subscriber.costmap with
  | some costmap =>
      dsimp only
      rw [processCurrentCostmapMsg_eq held]
      exact ⟨rfl, current_without_msg _⟩
  | none =>
      simp only [current, held, Option.map_none, and_self]

end CostmapSubscriber

namespace Costmap2DPublisher

open CostmapSubscriber

variable
  {K F : Type}
  [Field K]
  {floats : FloatConversion K F}

/-- The resolution of a costmap is a number of the smaller type. -/
def Representable
    (floats : FloatConversion K F)
    (costmap : Costmap2D K) : Prop :=
  floats.toDouble (floats.toFloat costmap.resolution) = costmap.resolution

/-- The origin is not changed by the way over the centre of the first cell. -/
def KeepsOrigin
    (floats : FloatConversion K F)
    (costmap : Costmap2D K) : Prop :=
  originOfCenter floats costmap.originX costmap.resolution =
      costmap.originX ∧
    originOfCenter floats costmap.originY costmap.resolution =
      costmap.originY

instance decidableKeepsOrigin
    [DecidableEq K]
    (costmap : Costmap2D K) :
    Decidable (KeepsOrigin floats costmap) :=
  inferInstanceAs (Decidable (_ ∧ _))

/-- A message for a whole costmap is about this costmap. -/
theorem costmapOf_prepareCostmap
    {costmap : Costmap2D K}
    (representable : Representable floats costmap)
    (keepsOrigin : KeepsOrigin floats costmap) :
    costmapOf floats (prepareCostmap floats costmap) = costmap := by
  have grid : gridOf floats (prepareCostmap floats costmap) =
      costmap.toGrid := by
    rw [gridOf, prepareCostmap, keepsOrigin.1, keepsOrigin.2, representable]
  obtain ⟨costmapGrid, costs, size⟩ := costmap
  simp only [costmapOf, grid]
  rfl

/-- The cells that differ from another costmap lie within the bounds. -/
def Covers
    (publisher : Costmap2DPublisher K F)
    (before : Costmap2D K) : Prop :=
  before.toGrid = publisher.costmap.toGrid →
    ∀ x < before.sizeX, ∀ y < before.sizeY,
      before.getCost x y ≠ publisher.costmap.getCost x y →
        (publisher.x0 ≤ x ∧ x < publisher.xn) ∧
          publisher.y0 ≤ y ∧ y < publisher.yn

/-- The bounds are inside of the costmap, if there are any. -/
def Inside
    (publisher : Costmap2DPublisher K F) : Prop :=
  publisher.x0 < publisher.xn →
    publisher.xn ≤ publisher.costmap.sizeX ∧
      publisher.y0 ≤ publisher.yn ∧ publisher.yn ≤ publisher.costmap.sizeY

instance decidableCovers
    [DecidableEq K]
    (publisher : Costmap2DPublisher K F)
    (before : Costmap2D K) :
    Decidable (publisher.Covers before) := by
  unfold Covers
  infer_instance

instance decidableInside
    (publisher : Costmap2DPublisher K F) :
    Decidable publisher.Inside := by
  unfold Inside
  infer_instance

variable
  {publisher : Costmap2DPublisher K F}
  {before : Costmap2D K}

section

omit [Field K]

theorem copyUpdate_createCostmapUpdateMsg
    (grid : before.toGrid = publisher.costmap.toGrid)
    (covers : publisher.Covers before)
    (bounds : publisher.x0 < publisher.xn)
    (inside : publisher.Inside) :
    copyUpdate before publisher.createCostmapUpdateMsg =
      publisher.costmap := by
  obtain ⟨xn_le, y0_le, yn_le⟩ := inside bounds
  have sizeX : before.sizeX = publisher.costmap.sizeX :=
    congrArg Grid.sizeX grid
  have sizeY : before.sizeY = publisher.costmap.sizeY :=
    congrArg Grid.sizeY grid
  have xEnd : publisher.x0 + (publisher.xn - publisher.x0) = publisher.xn :=
    Nat.add_sub_of_le (Nat.le_of_lt bounds)
  have yEnd : publisher.y0 + (publisher.yn - publisher.y0) = publisher.yn :=
    Nat.add_sub_of_le y0_le
  have fits : ¬(before.sizeX < publisher.x0 + (publisher.xn - publisher.x0) ∨
      before.sizeY < publisher.y0 + (publisher.yn - publisher.y0)) := by
    rw [xEnd, yEnd, sizeX, sizeY, not_or]
    exact ⟨not_lt.mpr xn_le, not_lt.mpr yn_le⟩
  rw [copyUpdate, createCostmapUpdateMsg, if_neg fits]
  refine Costmap2D.eq_of_getCost ?_ fun x xInside y yInside => ?_
  · rw [Costmap2D.writeWindow_toGrid]
    exact grid
  · rw [Costmap2D.writeWindow_toGrid] at xInside yInside
    rw [Costmap2D.getCost_writeWindow _ (by rw [xEnd, sizeX]; exact xn_le)
      (by rw [yEnd, sizeY]; exact yn_le) xInside, xEnd, yEnd]
    by_cases inWindow : (publisher.x0 ≤ x ∧ x < publisher.xn) ∧
        publisher.y0 ≤ y ∧ y < publisher.yn
    · obtain ⟨⟨xStart, xStop⟩, yStart, yStop⟩ := inWindow
      rw [if_pos ⟨⟨xStart, xStop⟩, yStart, yStop⟩, Costmap2D.getD_window
        (Nat.sub_lt_sub_right xStart xStop)
        (Nat.sub_lt_sub_right yStart yStop),
        Nat.add_sub_of_le xStart, Nat.add_sub_of_le yStart]
    · rw [if_neg inWindow]
      by_contra differs
      exact inWindow (covers grid x xInside y yInside differs)

/-- Without bounds no cell has changed. -/
theorem eq_of_covers
    (grid : before.toGrid = publisher.costmap.toGrid)
    (covers : publisher.Covers before)
    (noBounds : ¬publisher.x0 < publisher.xn) :
    before = publisher.costmap := by
  refine Costmap2D.eq_of_getCost grid fun x xInside y yInside => ?_
  by_contra differs
  obtain ⟨⟨start, stop⟩, -⟩ := covers grid x xInside y yInside differs
  exact noBounds (lt_of_le_of_lt start stop)

theorem toGrid_of_gridParams
    {left right : Costmap2D K}
    (leftRepresentable : Representable floats left)
    (rightRepresentable : Representable floats right)
    (same : gridParams floats left = gridParams floats right) :
    left.toGrid = right.toGrid := by
  simp only [gridParams, GridParams.mk.injEq] at same
  obtain ⟨resolution, sizeX, sizeY, originX, originY⟩ := same
  have exact : left.resolution = right.resolution := by
    rw [← leftRepresentable, ← rightRepresentable, resolution]
  rw [Grid.mk.injEq]
  exact ⟨sizeX, sizeY, exact, originX, originY⟩

end

section Publish

variable [DecidableEq K] [DecidableEq F]

theorem publishCostmap_saved
    (hasSubscribers hasUpdateSubscribers : Bool) :
    (publisher.publishCostmap floats true hasSubscribers
        hasUpdateSubscribers).1.costmap = publisher.costmap ∧
      (publisher.publishCostmap floats true hasSubscribers
        hasUpdateSubscribers).1.saved =
          gridParams floats publisher.costmap := by
  cases sends : publisher.sendsCostmap floats with
  | true =>
      rw [publishCostmap, sends]
      exact ⟨rfl, rfl⟩
  | false =>
      obtain ⟨-, saved⟩ := Bool.or_eq_false_iff.mp sends
      rw [publishCostmap, sends]
      exact ⟨rfl, not_not.mp (of_decide_eq_false saved)⟩

/-- What is sent makes the costmap of the publisher from an earlier one, and a
whole costmap needs no earlier one. -/
theorem publishCostmap_applied
    {earlier : Option (Costmap2D K)}
    (representable : Representable floats publisher.costmap)
    (keepsOrigin : publisher.sendsCostmap floats = true →
      KeepsOrigin floats publisher.costmap)
    (upToDate : publisher.sendsCostmap floats = false →
      ∃ before, earlier = some before ∧
        before.toGrid = publisher.costmap.toGrid ∧
          publisher.Covers before ∧ publisher.Inside) :
    (publisher.publishCostmap floats true true true).2.elim earlier
      (apply floats earlier) = some publisher.costmap := by
  cases sends : publisher.sendsCostmap floats with
  | true =>
      rw [publishCostmap, sends]
      exact congrArg some
        (costmapOf_prepareCostmap representable (keepsOrigin sends))
  | false =>
      obtain ⟨before, rfl, grid, covers, inside⟩ := upToDate sends
      rw [publishCostmap, sends]
      by_cases bounds : publisher.x0 < publisher.xn
      · simp only [bounds]
        exact congrArg some
          (copyUpdate_createCostmapUpdateMsg grid covers bounds inside)
      · simp only [bounds]
        exact congrArg some (eq_of_covers grid covers bounds)

end Publish

end Costmap2DPublisher

end NavBim
