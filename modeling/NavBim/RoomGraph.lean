import NavBim.GraphReach

namespace NavBim

/-!
# Rooms joined by doors

The map without its floors is a graph of rooms and doors.  A door is joined to
its rooms, and two doors of one room are joined directly.  The module says
what may be removed from such a graph without losing the way from a start door
to a goal door, and without making it longer.

A door is removed together with everything that is cut off from the start by
it.  This keeps the shortest way as long as only one room of the door stays on
the side of the start.
-/

namespace GraphReach

section Least

variable
  {V C : Type}
  [AddCommMonoid C]
  {Step : V → V → Prop}
  {weight : V → V → C}
  {first last : V}

theorem Route.mem_closure
    {cost : C}
    (route : Route Step weight first last cost) :
    cost ∈ AddSubmonoid.closure
      ((fun step => weight step.1 step.2) ''
        {step : V × V | Step step.1 step.2}) := by
  induction route with
  | start =>
      exact zero_mem _
  | step _ edge inductionHypothesis =>
      exact add_mem inductionHypothesis
        (AddSubmonoid.subset_closure ⟨(_, _), edge, rfl⟩)

variable [LinearOrder C] [IsOrderedAddMonoid C]

/-- Sums of finitely many non-negative weights do not descend forever. -/
theorem isPWO_closure
    {weights : Set C}
    (finite : weights.Finite)
    (nonneg : ∀ one ∈ weights, 0 ≤ one) :
    (AddSubmonoid.closure weights : Set C).IsPWO := by
  rw [AddSubmonoid.closure_eq_image_sum]
  have lists :=
    Set.PartiallyWellOrderedOn.partiallyWellOrderedOn_sublistForall₂
      (· ≤ ·) finite.isPWO
  refine lists.image_of_monotone_on ?_
  intro fewer _ more moreIn below
  exact below.sum_le_sum fun one member => nonneg one (moreIn one member)

/-- Among finitely many steps of non-negative weight there is a cheapest way. -/
theorem exists_isLeast_route
    (finite : {step : V × V | Step step.1 step.2}.Finite)
    (nonneg : ∀ {near next}, Step near next → 0 ≤ weight near next)
    {cost : C}
    (route : Route Step weight first last cost) :
    ∃ least, IsLeast {total | Route Step weight first last total} least := by
  have wellFounded :
      {total | Route Step weight first last total}.IsWF := by
    refine ((isPWO_closure (finite.image _) ?_).mono
      fun total isTotal => Route.mem_closure isTotal).isWF
    rintro _ ⟨step, isStep, rfl⟩
    exact nonneg isStep
  exact ⟨wellFounded.min ⟨cost, route⟩, wellFounded.min_mem _,
    fun other member => wellFounded.min_le _ member⟩

end Least

end GraphReach

open GraphReach

/-- A graph of rooms and doors in which the doors of a room form a clique. -/
structure RoomGraph (V : Type) where
  Adjacent : V → V → Prop
  Room : Set V
  Door : Set V
  symmetric : ∀ {near far}, Adjacent near far → Adjacent far near
  disjoint : ∀ {vertex}, vertex ∈ Door → vertex ∉ Room
  ends :
    ∀ {near far},
      Adjacent near far →
      (near ∈ Door ∧ far ∈ Room) ∨
        (near ∈ Room ∧ far ∈ Door) ∨
        (near ∈ Door ∧ far ∈ Door ∧
          ∃ room ∈ Room, Adjacent near room ∧ Adjacent far room)
  clique :
    ∀ {near far room},
      near ∈ Door →
      far ∈ Door →
      near ≠ far →
      room ∈ Room →
      Adjacent near room →
      Adjacent far room →
      Adjacent near far

namespace RoomGraph

variable
  {V : Type}
  (rooms : RoomGraph V)

/-- The vertex is the room or one of its doors. -/
def At
    (vertex room : V) : Prop :=
  vertex = room ∨ (vertex ∈ rooms.Door ∧ rooms.Adjacent vertex room)

theorem at_room_of_adjacent
    {near door : V}
    (isDoor : door ∈ rooms.Door)
    (adjacent : rooms.Adjacent near door) :
    ∃ room ∈ rooms.Room,
      rooms.Adjacent door room ∧ rooms.At near room := by
  rcases rooms.ends adjacent with
    ⟨-, isRoom⟩ | ⟨isRoom, -⟩ | ⟨nearDoor, -, room, isRoom, toNear, toDoor⟩
  · exact absurd isRoom (rooms.disjoint isDoor)
  · exact ⟨near, isRoom, rooms.symmetric adjacent, Or.inl rfl⟩
  · exact ⟨room, isRoom, toDoor, Or.inr ⟨nearDoor, toNear⟩⟩

/-- Two vertices at one room are joined directly. -/
theorem direct_of_at
    {near far room : V}
    (isRoom : room ∈ rooms.Room)
    (nearAt : rooms.At near room)
    (farAt : rooms.At far room) :
    near = far ∨ rooms.Adjacent near far := by
  by_cases same : near = far
  · exact Or.inl same
  right
  rcases nearAt with isNear | ⟨nearDoor, nearRoom⟩
  · rcases farAt with isFar | ⟨-, farRoom⟩
    · exact absurd (isNear.trans isFar.symm) same
    · rw [isNear]
      exact rooms.symmetric farRoom
  · rcases farAt with isFar | ⟨farDoor, farRoom⟩
    · rw [isFar]
      exact nearRoom
    · exact rooms.clique nearDoor farDoor same isRoom nearRoom farRoom

/--
Two doors that are joined over rooms and doors are joined over doors alone:
every room on the way is left through another of its doors.
-/
theorem joined_doors
    {enabled : Set V}
    {start goal : V}
    (startDoor : start ∈ rooms.Door)
    (goalDoor : goal ∈ rooms.Door)
    (joined : Linked rooms.Adjacent enabled start goal) :
    Linked rooms.Adjacent (enabled ∩ rooms.Door) start goal := by
  -- A room on the way is next to a door that has been reached.
  have reached :
      (goal ∈ rooms.Door →
          Linked rooms.Adjacent (enabled ∩ rooms.Door) start goal) ∧
        (goal ∈ rooms.Room →
          ∃ door ∈ enabled ∩ rooms.Door,
            rooms.Adjacent door goal ∧
              Linked rooms.Adjacent (enabled ∩ rooms.Door)
                start door) := by
    clear goalDoor
    induction joined with
    | refl =>
        exact ⟨fun _ => Linked.refl start,
          fun isRoom => absurd isRoom (rooms.disjoint startDoor)⟩
    | @tail near far _ edge inductionHypothesis =>
        obtain ⟨adjacent, nearEnabled, farEnabled⟩ := edge
        constructor
        · intro farDoor
          rcases rooms.ends adjacent with
            ⟨-, isRoom⟩ | ⟨nearRoom, -⟩ | ⟨nearDoor, -, -⟩
          · exact absurd isRoom (rooms.disjoint farDoor)
          · obtain ⟨door, ⟨doorEnabled, isDoor⟩, toNear, way⟩ :=
              inductionHypothesis.2 nearRoom
            by_cases same : door = far
            · rw [← same]
              exact way
            · have toFar :=
                rooms.clique isDoor farDoor same nearRoom toNear
                  (rooms.symmetric adjacent)
              exact way.trans
                (Linked.edge toFar ⟨doorEnabled, isDoor⟩
                  ⟨farEnabled, farDoor⟩)
          · exact (inductionHypothesis.1 nearDoor).trans
              (Linked.edge adjacent ⟨nearEnabled, nearDoor⟩
                ⟨farEnabled, farDoor⟩)
        · intro farRoom
          rcases rooms.ends adjacent with
            ⟨nearDoor, -⟩ | ⟨-, farDoor⟩ | ⟨-, farDoor, -⟩
          · exact ⟨near, ⟨nearEnabled, nearDoor⟩, adjacent,
              inductionHypothesis.1 nearDoor⟩
          · exact absurd farRoom (rooms.disjoint farDoor)
          · exact absurd farRoom (rooms.disjoint farDoor)
  exact reached.1 goalDoor

section Pruning

variable
  (start goal : V)
  (allowed : Set V)

/--
What pruning keeps true of the enabled vertices: they form one component that
contains start and goal, and no enabled door has lost an allowed room.
-/
structure Kept
    (enabled : Set V) : Prop where
  subset : enabled ⊆ allowed
  startEnabled : start ∈ enabled
  goalJoined : Linked rooms.Adjacent enabled start goal
  connected :
    ∀ vertex ∈ enabled, Linked rooms.Adjacent enabled start vertex
  roomsKept :
    ∀ {door room},
      door ∈ enabled →
      door ∈ rooms.Door →
      room ∈ rooms.Room →
      rooms.Adjacent door room →
      room ∈ allowed →
      room ∈ enabled

variable
  {rooms start goal allowed}
  {enabled : Set V}
  {door : V}

theorem kept_componentOf
    (startAllowed : start ∈ allowed)
    (joined : Linked rooms.Adjacent allowed start goal) :
    rooms.Kept start goal allowed
      (componentOf rooms.Adjacent allowed start) where
  subset := componentOf_subset
  startEnabled := ⟨startAllowed, Linked.refl start⟩
  goalJoined := joined_componentOf joined
  connected := by
    intro vertex member
    exact joined_componentOf member.2
  roomsKept := by
    intro door room doorEnabled _ _ adjacent roomAllowed
    exact ⟨roomAllowed,
      doorEnabled.2.trans
        (Linked.edge adjacent doorEnabled.1 roomAllowed)⟩

/-- A door is removed with everything that it cuts off from the start. -/
def cutDoor
    (rooms : RoomGraph V)
    (start : V)
    (enabled : Set V)
    (door : V) : Set V :=
  componentOf rooms.Adjacent (enabled \ {door}) start

/-- Removing a door that the goal does not depend on keeps the invariant. -/
theorem Kept.cutDoor
    (kept : rooms.Kept start goal allowed enabled)
    (isDoor : door ∈ rooms.Door)
    (notStart : door ≠ start)
    (joined : Linked rooms.Adjacent (enabled \ {door}) start goal) :
    rooms.Kept start goal allowed (rooms.cutDoor start enabled door) where
  subset := fun _ member => kept.subset member.1.1
  startEnabled :=
    ⟨⟨kept.startEnabled, notStart.symm⟩, Linked.refl start⟩
  goalJoined := joined_componentOf joined
  connected := by
    intro vertex member
    exact joined_componentOf member.2
  roomsKept := by
    intro other room otherEnabled otherDoor isRoom adjacent roomAllowed
    have roomEnabled :=
      kept.roomsKept otherEnabled.1.1 otherDoor isRoom adjacent roomAllowed
    have different : room ≠ door := by
      intro same
      exact rooms.disjoint isDoor (same ▸ isRoom)
    exact ⟨⟨roomEnabled, different⟩,
      otherEnabled.2.trans
        (Linked.edge adjacent otherEnabled.1 ⟨roomEnabled, different⟩)⟩

/-- All rooms of the door that satisfy a condition are the same room. -/
def AtMostOneRoom
    (rooms : RoomGraph V)
    (door : V)
    (Condition : V → Prop) : Prop :=
  ∀ first second,
    first ∈ rooms.Room →
    second ∈ rooms.Room →
    rooms.Adjacent door first →
    rooms.Adjacent door second →
    Condition first →
    Condition second →
    first = second

section

variable
  (kept : rooms.Kept start goal allowed enabled)
  (isDoor : door ∈ rooms.Door)
  (notStart : door ≠ start)
  (deadEnd : rooms.AtMostOneRoom door fun _ => True)

include kept isDoor notStart deadEnd

/-- A door of at most one room can be removed without cutting anything off. -/
theorem Kept.joined_without_deadEnd
    {vertex : V}
    (vertexEnabled : vertex ∈ enabled)
    (different : vertex ≠ door) :
    Linked rooms.Adjacent (enabled \ {door}) start vertex := by
  have bypassed :
      Bypassed (Within rooms.Adjacent enabled) (fun _ _ => (0 : Nat))
        door (fun _ => True) := by
    refine ⟨fun _ => le_rfl, fun _ _ _ => Iff.rfl, ?_⟩
    intro near next toDoor fromDoor _ _ _ _
    obtain ⟨first, firstRoom, firstAdjacent, nearAt⟩ :=
      rooms.at_room_of_adjacent isDoor toDoor.1
    obtain ⟨second, secondRoom, secondAdjacent, nextAt⟩ :=
      rooms.at_room_of_adjacent isDoor (rooms.symmetric fromDoor.1)
    have same :=
      deadEnd first second firstRoom secondRoom firstAdjacent
        secondAdjacent trivial trivial
    subst same
    rcases rooms.direct_of_at firstRoom nearAt nextAt with same | direct
    · exact Or.inl same
    · exact Or.inr
        ⟨⟨direct, toDoor.2.1, fromDoor.2.2⟩, Nat.zero_le _⟩
  obtain ⟨cost, route⟩ :
      ∃ cost,
        GraphReach.Route (Within rooms.Adjacent enabled) (fun _ _ => (0 : Nat))
          start vertex cost :=
    exists_route (kept.connected vertex vertexEnabled)
  obtain ⟨_, _, shorter⟩ :=
    bypassed.route ⟨notStart.symm, trivial⟩ ⟨different, trivial⟩ route
  refine (shorter.mono ?_).joined
  intro near next step
  exact ⟨step.1.1, ⟨step.1.2.1, step.2.1.1⟩, step.1.2.2, step.2.2.1⟩

theorem Kept.cutDoor_deadEnd :
    rooms.cutDoor start enabled door = enabled \ {door} := by
  apply Set.Subset.antisymm
  · exact componentOf_subset
  · intro vertex member
    exact ⟨member,
      kept.joined_without_deadEnd isDoor notStart deadEnd member.1
        member.2⟩

end

end Pruning

section Shortest

variable
  {rooms}
  {start goal : V}
  {allowed enabled : Set V}
  {door : V}

/-- Only one room of the door stays on the side of the start. -/
def Narrow
    (rooms : RoomGraph V)
    (start : V)
    (enabled : Set V)
    (door : V) : Prop :=
  rooms.AtMostOneRoom door
    (Linked rooms.Adjacent (enabled \ {door}) start)

/-- Every way over doors is matched by a way that costs no more. -/
def Dominated
    {C : Type} [AddCommMonoid C] [PartialOrder C]
    (rooms : RoomGraph V)
    (start goal : V)
    (weight : V → V → C)
    (allowed enabled : Set V) : Prop :=
  ∀ cost,
    GraphReach.Route (Within rooms.Adjacent (allowed ∩ rooms.Door)) weight
      start goal cost →
    ∃ less ≤ cost,
      GraphReach.Route (Within rooms.Adjacent (enabled ∩ rooms.Door)) weight
        start goal less

/-- Weights of doors that obey the triangle inequality inside each room. -/
structure RoomMetric
    {C : Type} [AddCommMonoid C] [PartialOrder C]
    (rooms : RoomGraph V)
    (weight : V → V → C) : Prop where
  nonneg :
    ∀ {near far}, rooms.Adjacent near far → 0 ≤ weight near far
  triangle :
    ∀ {near middle far room},
      near ∈ rooms.Door →
      middle ∈ rooms.Door →
      far ∈ rooms.Door →
      near ≠ middle →
      middle ≠ far →
      near ≠ far →
      room ∈ rooms.Room →
      rooms.Adjacent near room →
      rooms.Adjacent middle room →
      rooms.Adjacent far room →
      weight near far ≤ weight near middle + weight middle far

section

variable
  {C : Type} [AddCommMonoid C] [PartialOrder C]
  {weight : V → V → C}

theorem Kept.bypassed
    {visited : Set V}
    (kept : rooms.Kept start goal allowed enabled)
    (doorEnabled : door ∈ enabled)
    (isDoor : door ∈ rooms.Door)
    (roomsAllowed :
      ∀ {room}, room ∈ rooms.Room → rooms.Adjacent door room →
        room ∈ allowed)
    (narrow : rooms.Narrow start enabled door)
    (subset : visited ⊆ enabled)
    (nonneg :
      ∀ {near far}, rooms.Adjacent near far → 0 ≤ weight near far)
    (shortcut :
      ∀ {near far room},
        near ∈ visited →
        far ∈ visited →
        near ≠ door →
        far ≠ door →
        near ≠ far →
        room ∈ rooms.Room →
        rooms.Adjacent door room →
        rooms.At near room →
        rooms.At far room →
        weight near far ≤ weight near door + weight door far) :
    Bypassed (Within rooms.Adjacent visited) weight door
      (Linked rooms.Adjacent (enabled \ {door}) start) := by
  -- The room between the door and a near vertex is on the near side too.
  have nearRoom
      {near : V}
      (nearVisited : near ∈ visited)
      (different : near ≠ door)
      (isNear : Linked rooms.Adjacent (enabled \ {door}) start near)
      (adjacent : rooms.Adjacent near door) :
      ∃ room ∈ rooms.Room,
        rooms.Adjacent door room ∧ rooms.At near room ∧
          Linked rooms.Adjacent (enabled \ {door}) start room := by
    obtain ⟨room, isRoom, toRoom, nearAt⟩ :=
      rooms.at_room_of_adjacent isDoor adjacent
    refine ⟨room, isRoom, toRoom, nearAt, ?_⟩
    have roomEnabled :=
      kept.roomsKept doorEnabled isDoor isRoom toRoom
        (roomsAllowed isRoom toRoom)
    have notDoor : room ≠ door := by
      intro same
      exact rooms.disjoint isDoor (same ▸ isRoom)
    rcases nearAt with same | ⟨-, nearToRoom⟩
    · rw [← same]
      exact isNear
    · exact isNear.trans
        (Linked.edge nearToRoom ⟨subset nearVisited, different⟩
          ⟨roomEnabled, notDoor⟩)
  refine ⟨fun edge => nonneg edge.1, ?_, ?_⟩
  · intro near next edge nearDifferent nextDifferent
    have forward :
        Linked rooms.Adjacent (enabled \ {door}) near next :=
      Linked.edge edge.1 ⟨subset edge.2.1, nearDifferent⟩
        ⟨subset edge.2.2, nextDifferent⟩
    exact ⟨fun way => way.trans forward,
      fun way => way.trans (forward.symm rooms.symmetric)⟩
  · intro near next toDoor fromDoor nearDifferent nextDifferent isNear
      isNext
    obtain ⟨room, isRoom, toRoom, nearAt, roomNear⟩ :=
      nearRoom toDoor.2.1 nearDifferent isNear toDoor.1
    obtain ⟨other, isOther, toOther, nextAt, otherNear⟩ :=
      nearRoom fromDoor.2.2 nextDifferent isNext
        (rooms.symmetric fromDoor.1)
    have same : room = other :=
      narrow room other isRoom isOther toRoom toOther roomNear otherNear
    subst same
    by_cases sameEnd : near = next
    · exact Or.inl sameEnd
    · right
      have direct :=
        (rooms.direct_of_at isRoom nearAt nextAt).resolve_left sameEnd
      exact ⟨⟨direct, toDoor.2.1, fromDoor.2.2⟩,
        shortcut toDoor.2.1 fromDoor.2.2 nearDifferent nextDifferent
          sameEnd isRoom toRoom nearAt nextAt⟩

theorem Dominated.trans
    {fewer : Set V}
    (first : rooms.Dominated start goal weight allowed enabled)
    (second : rooms.Dominated start goal weight enabled fewer) :
    rooms.Dominated start goal weight allowed fewer := by
  intro cost route
  obtain ⟨less, lessLe, shorter⟩ := first cost route
  obtain ⟨least, leastLe, shortest⟩ := second less shorter
  exact ⟨least, leastLe.trans lessLe, shortest⟩

/-- Ways over doors do not leave the component of the start. -/
theorem dominated_componentOf :
    rooms.Dominated start goal weight allowed
      (componentOf rooms.Adjacent allowed start) := by
  intro cost route
  refine ⟨cost, le_rfl, ?_⟩
  induction route with
  | start =>
      exact GraphReach.Route.start
  | step before edge inductionHypothesis =>
      have nearJoined :
          Linked rooms.Adjacent allowed start _ :=
        Linked.mono Set.inter_subset_left before.joined
      refine GraphReach.Route.step inductionHypothesis ⟨edge.1, ?_, ?_⟩
      · exact ⟨⟨edge.2.1.1, nearJoined⟩, edge.2.1.2⟩
      · exact ⟨⟨edge.2.2.1,
          nearJoined.trans
            (Linked.edge edge.1 edge.2.1.1 edge.2.2.1)⟩, edge.2.2.2⟩

end

/-- Removing a narrow door makes no way longer. -/
theorem Dominated.cutDoor
    {C : Type}
    [AddCommMonoid C] [PartialOrder C] [IsOrderedAddMonoid C]
    {weight : V → V → C}
    (dominated : rooms.Dominated start goal weight allowed enabled)
    (metric : rooms.RoomMetric weight)
    (kept : rooms.Kept start goal allowed enabled)
    (doorEnabled : door ∈ enabled)
    (isDoor : door ∈ rooms.Door)
    (notStart : door ≠ start)
    (notGoal : door ≠ goal)
    (roomsAllowed :
      ∀ {room}, room ∈ rooms.Room → rooms.Adjacent door room →
        room ∈ allowed)
    (narrow : rooms.Narrow start enabled door)
    (joined : Linked rooms.Adjacent (enabled \ {door}) start goal) :
    rooms.Dominated start goal weight allowed
      (rooms.cutDoor start enabled door) := by
  intro cost route
  obtain ⟨less, lessLe, enabledRoute⟩ := dominated cost route
  have isDoorOf
      {vertex room : V}
      (vertexDoor : vertex ∈ rooms.Door)
      (isRoom : room ∈ rooms.Room)
      (vertexAt : rooms.At vertex room) :
      rooms.Adjacent vertex room := by
    rcases vertexAt with same | ⟨-, adjacent⟩
    · exact absurd (same ▸ isRoom) (rooms.disjoint vertexDoor)
    · exact adjacent
  have bypassed :
      Bypassed (Within rooms.Adjacent (enabled ∩ rooms.Door)) weight door
        (Linked rooms.Adjacent (enabled \ {door}) start) := by
    refine kept.bypassed doorEnabled isDoor roomsAllowed narrow
      Set.inter_subset_left metric.nonneg ?_
    intro near far room nearVisited farVisited nearDifferent farDifferent
      different isRoom toRoom nearAt farAt
    exact metric.triangle nearVisited.2 isDoor farVisited.2 nearDifferent
      farDifferent.symm different isRoom
      (isDoorOf nearVisited.2 isRoom nearAt) toRoom
      (isDoorOf farVisited.2 isRoom farAt)
  obtain ⟨least, leastLe, shorter⟩ :=
    bypassed.route ⟨notStart.symm, Linked.refl start⟩
      ⟨notGoal.symm, joined⟩ enabledRoute
  refine ⟨least, leastLe.trans lessLe, shorter.mono ?_⟩
  intro first second step
  obtain ⟨⟨adjacent, inFirst, inSecond⟩, firstNear, secondNear⟩ := step
  exact ⟨adjacent,
    ⟨⟨⟨inFirst.1, firstNear.1⟩, firstNear.2⟩, inFirst.2⟩,
    ⟨⟨inSecond.1, secondNear.1⟩, secondNear.2⟩, inSecond.2⟩

end Shortest

end RoomGraph

end NavBim
