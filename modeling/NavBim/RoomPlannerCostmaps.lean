import Mathlib
import NavBim.RoomPlannerServer

namespace NavBim

/-!
# The costmaps of the room planner's plugins

While the room planner plans, a wrapped plugin points to the costmap of the
room.  The pointer it had before is restored after the plan, but not if planning
fails with an exception, and not if it was null.
-/

/-- A planner plugin.  The wrappers have a pointer to a costmap; the one of the
Theta* wrapper belongs to the planner inside of it, if there is one. -/
inductive PlannerPlugin (Costmap : Type) where
  | navfn (costmap : Option Costmap)
  | thetaStar (planner : Option (Option Costmap))
  | ompl (costmap : Option Costmap)
  | unwrapped
  deriving DecidableEq

namespace PlannerPlugin

variable {Costmap : Type}

def getCostmap : PlannerPlugin Costmap → Option Costmap
  | .navfn costmap => costmap
  | .thetaStar (some costmap) => costmap
  | .thetaStar none => none
  | .ompl costmap => costmap
  | .unwrapped => none

def setCostmap
    (costmap : Option Costmap) : PlannerPlugin Costmap → PlannerPlugin Costmap
  | .navfn _ => .navfn costmap
  | .thetaStar (some _) => .thetaStar (some costmap)
  | .thetaStar none => .thetaStar none
  | .ompl _ => .ompl costmap
  | .unwrapped => .unwrapped

/-- The plugin has a pointer to a costmap. -/
def hasPointer : PlannerPlugin Costmap → Bool
  | .navfn _ => true
  | .thetaStar planner => planner.isSome
  | .ompl _ => true
  | .unwrapped => false

theorem getCostmap_setCostmap
    (plugin : PlannerPlugin Costmap)
    (costmap : Option Costmap) :
    (plugin.setCostmap costmap).getCostmap =
      if plugin.hasPointer then costmap else none := by
  cases plugin with
  | navfn _ => rfl
  | thetaStar planner => cases planner <;> rfl
  | ompl _ => rfl
  | unwrapped => rfl

theorem getCostmap_of_not_hasPointer
    {plugin : PlannerPlugin Costmap}
    (noPointer : ¬plugin.hasPointer) :
    plugin.getCostmap = none := by
  cases plugin with
  | navfn _ => exact absurd rfl noPointer
  | thetaStar planner =>
      cases planner with
      | none => rfl
      | some _ => exact absurd rfl noPointer
  | ompl _ => exact absurd rfl noPointer
  | unwrapped => rfl

@[simp] theorem setCostmap_setCostmap
    (plugin : PlannerPlugin Costmap)
    (first second : Option Costmap) :
    (plugin.setCostmap first).setCostmap second = plugin.setCostmap second := by
  cases plugin with
  | navfn _ => rfl
  | thetaStar planner => cases planner <;> rfl
  | ompl _ => rfl
  | unwrapped => rfl

@[simp] theorem setCostmap_getCostmap
    (plugin : PlannerPlugin Costmap) :
    plugin.setCostmap plugin.getCostmap = plugin := by
  cases plugin with
  | navfn _ => rfl
  | thetaStar planner => cases planner <;> rfl
  | ompl _ => rfl
  | unwrapped => rfl

end PlannerPlugin

/-- The plugins of the server by their names. -/
abbrev Plugins (Costmap : Type) := String → PlannerPlugin Costmap

/-- How plugins plan, which depends on the costmaps they point to. -/
abbrev CreatePlan (Pose Costmap : Type) :=
  PlannerPlugin Costmap → Pose → Pose → Except String (List Pose)

section Callback

variable {Pose Costmap : Type}

def setCostmap
    (plugins : Plugins Costmap)
    (name : String)
    (costmap : Option Costmap) : Plugins Costmap :=
  Function.update plugins name ((plugins name).setCostmap costmap)

/-- The world in which every plugin plans in the costmap it points to. -/
def PlanningWorld.withPlugins
    (world : PlanningWorld Pose Costmap)
    (createPlan : String → CreatePlan Pose Costmap)
    (plugins : Plugins Costmap) : PlanningWorld Pose Costmap :=
  { world with
    createPlan := fun name _ => createPlan name (plugins name) }

/-- The costmap of the plugin is swapped while it plans. -/
def planSwapped
    (world : PlanningWorld Pose Costmap)
    (createPlan : String → CreatePlan Pose Costmap)
    (plugins : Plugins Costmap)
    (map : Costmap)
    (goal : RoomGoal Pose) :
    Except (RoomResult Pose) (RoomResult Pose) × Plugins Costmap :=
  let name := requestedPlanner world goal
  let original := (plugins name).getCostmap
  let swapped := setCostmap plugins name (some map)
  match planInCostmap (world.withPlugins createPlan swapped) map goal with
  | .error result => (.error result, swapped)
  | .ok result =>
      match original with
      | none => (.ok result, swapped)
      | some original => (.ok result, setCostmap swapped name (some original))

/-- The callback for a robot that is localized or need not be. -/
def planInRoomCostmap
    (world : PlanningWorld Pose Costmap)
    (createPlan : String → CreatePlan Pose Costmap)
    (plugins : Plugins Costmap)
    (goal : RoomGoal Pose) :
    Except (RoomResult Pose) (RoomResult Pose) × Plugins Costmap :=
  if !world.isMultiCostmap then
    (.error
      { errorCode := 200
        errorMsg := "Internal error: costmap type mismatch" },
      plugins)
  else
    match planningCostmap world goal with
    | none =>
        (.error
          { errorCode := 202
            errorMsg :=
              if goal.roomName = goal.floorName then
                "Failed to get aggregated costmap for specified floor"
              else
                "Failed to get costmap for specified room" },
          plugins)
    | some map =>
        if requestedPlanner world goal ∈ world.planners then
          planSwapped world createPlan plugins map goal
        else
          (.error
            { errorCode := 201
              errorMsg := "Planner plugin not found: " ++
                requestedPlanner world goal },
            plugins)

/-- The callback, without the report of its result, which does not touch the
plugins.  There is no result if the server is inactive or the goal is
cancelled. -/
def computePlanInRoom
    (world : PlanningWorld Pose Costmap)
    (createPlan : String → CreatePlan Pose Costmap)
    (plugins : Plugins Costmap)
    (stopped : Bool)
    (goal : RoomGoal Pose) :
    Option (Except (RoomResult Pose) (RoomResult Pose)) × Plugins Costmap :=
  if stopped then
    (none, plugins)
  else
    match goal.useStart, world.robotPose with
    | false, .error _ =>
        (some (.error
          { errorCode := 204
            errorMsg :=
              "Failed to get robot pose - robot may not be localized" }),
          plugins)
    | false, .ok false =>
        (some (.error
          { errorCode := 204
            errorMsg := "Robot not localized - please set initial pose" }),
          plugins)
    | _, _ =>
        (planInRoomCostmap world createPlan plugins goal).map some id

/-- The name of the plugin that plans. -/
def planningPlugin
    (world : PlanningWorld Pose Costmap)
    (goal : RoomGoal Pose) : Option String :=
  if goal.plannerId ∈ world.planners then
    some goal.plannerId
  else
    match world.planners, goal.plannerId with
    | [only], "" => some only
    | _, _ => none

/-- The callback comes to the swap. -/
structure Swaps
    (world : PlanningWorld Pose Costmap)
    (stopped : Bool)
    (goal : RoomGoal Pose)
    (map : Costmap) : Prop where
  running : stopped = false
  localized : goal.useStart = true ∨ world.robotPose = .ok true
  isMultiCostmap : world.isMultiCostmap = true
  costmap : planningCostmap world goal = some map
  planner : requestedPlanner world goal ∈ world.planners

/-- The plugin that plans is there and does not throw an exception. -/
def Plans
    (world : PlanningWorld Pose Costmap)
    (createPlan : String → CreatePlan Pose Costmap)
    (plugins : Plugins Costmap)
    (goal : RoomGoal Pose) : Prop :=
  ∃ name ∈ planningPlugin world goal, ∃ path,
    createPlan name (plugins name) goal.start goal.goal = .ok path

/-- If the callback swaps a pointer, then it was not null and planning does not
fail, or it was the costmap of the room before. -/
def KeepsCostmap
    (world : PlanningWorld Pose Costmap)
    (createPlan : String → CreatePlan Pose Costmap)
    (plugins : Plugins Costmap)
    (stopped : Bool)
    (goal : RoomGoal Pose) : Prop :=
  ∀ map, Swaps world stopped goal map →
    (plugins (requestedPlanner world goal)).hasPointer →
      (plugins (requestedPlanner world goal)).getCostmap = some map ∨
        (plugins (requestedPlanner world goal)).getCostmap ≠ none ∧
          Plans world createPlan
            (setCostmap plugins (requestedPlanner world goal) (some map)) goal

variable
  {world : PlanningWorld Pose Costmap}
  {createPlan : String → CreatePlan Pose Costmap}
  {plugins : Plugins Costmap}
  {stopped : Bool}
  {goal : RoomGoal Pose}
  {map : Costmap}

theorem computePlanInRoom_of_localized
    (localized : goal.useStart = true ∨ world.robotPose = .ok true) :
    computePlanInRoom world createPlan plugins false goal =
      (planInRoomCostmap world createPlan plugins goal).map some id := by
  unfold computePlanInRoom
  cases useStart : goal.useStart with
  | true =>
      rfl
  | false =>
      rw [localized.resolve_left (by rw [useStart]; exact Bool.false_ne_true)]
      rfl

/-- Before the swap nothing changes. -/
theorem computePlanInRoom_of_not_swaps
    (noSwap : ∀ map, ¬Swaps world stopped goal map) :
    (computePlanInRoom world createPlan plugins stopped goal).2 = plugins := by
  cases isStopped : stopped with
  | true =>
      rfl
  | false =>
      have atSwap
          (localized : goal.useStart = true ∨ world.robotPose = .ok true) :
          (computePlanInRoom world createPlan plugins false goal).2 =
            plugins := by
        rw [computePlanInRoom_of_localized localized, Prod.map_snd, id,
          planInRoomCostmap]
        cases isMultiCostmap : world.isMultiCostmap with
        | false =>
            rfl
        | true =>
            cases isMap : planningCostmap world goal with
            | none =>
                rfl
            | some map =>
                have unknown : requestedPlanner world goal ∉ world.planners :=
                  fun known => noSwap map
                    ⟨isStopped, localized, isMultiCostmap, isMap, known⟩
                simp only [if_neg unknown, Bool.not_true,
                  Bool.false_eq_true, if_false]
      cases useStart : goal.useStart with
      | true =>
          exact atSwap (.inl useStart)
      | false =>
          cases isPose : world.robotPose with
          | error _ =>
              rw [computePlanInRoom, useStart, isPose]
              rfl
          | ok isLocalized =>
              cases isLocalized with
              | true =>
                  exact atSwap (.inr isPose)
              | false =>
                  rw [computePlanInRoom, useStart, isPose]
                  rfl

theorem computePlanInRoom_of_swaps
    (swaps : Swaps world stopped goal map) :
    computePlanInRoom world createPlan plugins stopped goal =
      (planSwapped world createPlan plugins map goal).map some id := by
  rw [swaps.running, computePlanInRoom_of_localized swaps.localized,
    planInRoomCostmap, swaps.isMultiCostmap, swaps.costmap]
  simp only [if_pos swaps.planner, Bool.not_true, Bool.false_eq_true, if_false]

theorem getPlan_eq :
    getPlan world map goal =
      match planningPlugin world goal with
      | some name => world.createPlan name map goal.start goal.goal
      | none => .error ("Planner id " ++ goal.plannerId ++ " is invalid") := by
  rw [getPlan, planningPlugin]
  by_cases known : goal.plannerId ∈ world.planners
  · rw [if_pos known, if_pos known]
  · rw [if_neg known, if_neg known]
    split
    · simp_all
    · split <;> simp_all

theorem planInCostmap_isOk_iff
    (map : Costmap) :
    (∃ result, planInCostmap (world.withPlugins createPlan plugins) map goal =
        .ok result) ↔
      Plans world createPlan plugins goal := by
  have samePlugin : planningPlugin (world.withPlugins createPlan plugins) goal =
      planningPlugin world goal := rfl
  rw [planInCostmap, getPlan_eq, samePlugin, Plans]
  cases planningPlugin world goal with
  | none =>
      simp
  | some name =>
      simp only [PlanningWorld.withPlugins, Option.mem_some_iff,
        exists_eq_left']
      cases createPlan name (plugins name) goal.start goal.goal with
      | error what =>
          simp
      | ok path =>
          exact iff_of_true ⟨_, (apply_ite Except.ok _ _ _).symm⟩ ⟨path, rfl⟩

theorem getCostmap_setCostmap_self
    (name : String)
    (costmap : Option Costmap) :
    (∀ other, ((setCostmap plugins name costmap) other).getCostmap =
        (plugins other).getCostmap) ↔
      ((plugins name).hasPointer →
        (plugins name).getCostmap = costmap) := by
  constructor
  · intro same hasPointer
    have atName := same name
    rw [setCostmap, Function.update_self, PlannerPlugin.getCostmap_setCostmap,
      if_pos hasPointer] at atName
    exact atName.symm
  · intro same other
    rw [setCostmap]
    by_cases isName : other = name
    · rw [isName, Function.update_self, PlannerPlugin.getCostmap_setCostmap]
      split
      · rename_i hasPointer
        exact (same hasPointer).symm
      · rename_i noPointer
        exact (PlannerPlugin.getCostmap_of_not_hasPointer noPointer).symm
    · rw [Function.update_of_ne isName]

/-- The swap is undone exactly if the pointer was not null and there is a plan,
or if there is nothing to undo. -/
theorem planSwapped_keeps_iff :
    (∀ name, ((planSwapped world createPlan plugins map goal).2
        name).getCostmap = (plugins name).getCostmap) ↔
      ((plugins (requestedPlanner world goal)).hasPointer →
        (plugins (requestedPlanner world goal)).getCostmap = some map ∨
          (plugins (requestedPlanner world goal)).getCostmap ≠ none ∧
            Plans world createPlan
              (setCostmap plugins (requestedPlanner world goal) (some map))
              goal) := by
  cases isPlan : planInCostmap (world.withPlugins createPlan
      (setCostmap plugins (requestedPlanner world goal) (some map))) map goal with
  | error result =>
      have fails : ¬Plans world createPlan
          (setCostmap plugins (requestedPlanner world goal) (some map)) goal := by
        intro plans
        obtain ⟨_, isResult⟩ := (planInCostmap_isOk_iff map).mpr plans
        rw [isPlan] at isResult
        exact nomatch isResult
      simp only [fails, and_false, or_false, planSwapped, isPlan]
      exact getCostmap_setCostmap_self _ _
  | ok result =>
      have plans := (planInCostmap_isOk_iff map).mp ⟨result, isPlan⟩
      cases original : (plugins (requestedPlanner world goal)).getCostmap with
      | none =>
          simp only [ne_eq, not_true_eq_false, false_and, or_false,
            planSwapped, isPlan, original]
          rw [← original]
          exact getCostmap_setCostmap_self _ _
      | some costmap =>
          refine iff_of_true (fun name => ?_)
            (fun _ => .inr ⟨Option.some_ne_none _, plans⟩)
          have restored : (planSwapped world createPlan plugins map goal).2 =
              plugins := by
            simp only [planSwapped, isPlan, original]
            rw [setCostmap, setCostmap, Function.update_idem,
              Function.update_self, PlannerPlugin.setCostmap_setCostmap,
              ← original, PlannerPlugin.setCostmap_getCostmap,
              Function.update_eq_self]
          rw [restored]

/-- The pointers are those from before exactly if the callback does not swap
one, or undoes the swap. -/
theorem computePlanInRoom_keeps_iff
    (world : PlanningWorld Pose Costmap)
    (createPlan : String → CreatePlan Pose Costmap)
    (plugins : Plugins Costmap)
    (stopped : Bool)
    (goal : RoomGoal Pose) :
    (∀ name, ((computePlanInRoom world createPlan plugins stopped goal).2
        name).getCostmap = (plugins name).getCostmap) ↔
      KeepsCostmap world createPlan plugins stopped goal := by
  by_cases swap : ∃ map, Swaps world stopped goal map
  · obtain ⟨map, swaps⟩ := swap
    rw [computePlanInRoom_of_swaps swaps, Prod.map_snd, id,
      planSwapped_keeps_iff]
    constructor
    · intro keeps other otherSwaps
      obtain rfl := Option.some.inj (swaps.costmap.symm.trans otherSwaps.costmap)
      exact keeps
    · intro keeps
      exact keeps map swaps
  · have noSwap := not_exists.mp swap
    rw [computePlanInRoom_of_not_swaps noSwap]
    exact iff_of_true (fun _ => rfl) (fun map swaps => absurd swaps (noSwap map))

end Callback

section Samples

/-- One planner, which does not find a way and throws an exception. -/
def blockedWorld : PlanningWorld Unit Nat where
  robotPose := .ok true
  isMultiCostmap := true
  floorCostmap _ := none
  roomCostmap _ _ := some 1
  planners := ["GridBased"]
  defaultId := "GridBased"
  createPlan _ _ _ _ := .error "no path"
  smooth _ path := (path, "")
  positionText _ := "0, 0"

/-- The plugin still points to the costmap of the room after the callback. -/
theorem blockedWorld_keeps_swap :
    ¬∀ name, ((computePlanInRoom blockedWorld
        (fun _ _ _ _ => .error "no path") (fun _ => .navfn (some 0)) false
        ⟨⟨(), (), "ground", "kitchen"⟩, "", true⟩).2 name).getCostmap = some 0 := by
  intro keeps
  have left := keeps "GridBased"
  revert left
  decide +kernel

end Samples

end NavBim
