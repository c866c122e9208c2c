import NavBim.ThetaStarStore

namespace NavBim.ThetaStar

/-!
# The cells that Theta* reads

The line of sight walks over the edges between cells, so it looks at cells beside
the line.  For a line with a slope these are cells between both ends.  A straight
line has a row on each side, and the second one is read when the first one is not
free.  At the border of the map this row is outside.
-/

variable {K : Type}

/-! ## What is read -/

variable
  (request : Request K)

namespace Request

section Step

variable (add : ℤ → ℤ → K → Option K) (line : Line)

/-- The cell beside a point of the line. -/
def besideCell
    (point : LinePoint K) : ℤ × ℤ :=
  (point.major + Line.beside line.sMajor, point.minor + Line.beside line.sMinor)

def crossMinorReads
    (point : LinePoint K) : List (ℤ × ℤ) :=
  if line.dMajor ≤ point.f + line.dMinor then [besideCell line point] else []

def passCellReads
    (point : LinePoint K) : List (ℤ × ℤ) :=
  if point.f ≠ 0 then [besideCell line point] else []

/-- The second cell is read when the line may not pass the first one. -/
def passBesideReads
    (point : LinePoint K) : List (ℤ × ℤ) :=
  if line.dMinor = 0 then
    (point.major + Line.beside line.sMajor, point.minor) ::
      if (add (point.major + Line.beside line.sMajor) point.minor
          point.slCost).isNone then
        [(point.major + Line.beside line.sMajor, point.minor - 1)]
      else
        []
  else
    []

/-- What `lineStep` reads, up to the first cell that ends it. -/
def lineStepReads
    (point : LinePoint K) : List (ℤ × ℤ) :=
  crossMinorReads line point ++
    match crossMinor add line point with
    | none => []
    | some point =>
        passCellReads line point ++
          match passCell add line point with
          | none => []
          | some point => passBesideReads add line point

def walkLineReads : Nat → LinePoint K → List (ℤ × ℤ)
  | 0, _ => []
  | steps + 1, point =>
      lineStepReads add line point ++
        match lineStep add line point with
        | none => []
        | some next => walkLineReads steps next

end Step

section Check

variable [Field K] [LinearOrder K]

/-- What `losCheck` reads. -/
def losReads
    (x0 y0 x1 y1 : ℤ) : List CoordsM :=
  let dx := |x1 - x0|
  let dy := |y1 - y0|
  let sx := if x0 < x1 then 1 else -1
  let sy := if y0 < y1 then 1 else -1
  if dy ≤ dx then
    (walkLineReads request.addCellPrice ⟨dx, dy, sx, sy⟩ dx.toNat
      ⟨x0, y0, 0, 0⟩).map fun read => ⟨read.1, read.2⟩
  else
    (walkLineReads (fun cy cx => request.addCellPrice cx cy) ⟨dy, dx, sy, sx⟩
      dy.toNat ⟨y0, x0, 0, 0⟩).map fun read => ⟨read.2, read.1⟩

end Check

end Request

section Passes

variable [Field K] [SquareRoot K] [LinearOrder K]

/-- What `resetParent` reads. -/
def resetParentReads
    (search : Search K) : List CoordsM :=
  let curr := { search.currData with isInQueue := false }
  let search := search.setNode search.curr curr
  match curr.parentId.bind fun parent => (search.nodesData parent).parentId with
  | none => []
  | some maybePar =>
      let other := search.nodesData maybePar
      request.losReads curr.x curr.y other.x other.y

/-- Both tests and the cost of a neighbour read its cell. -/
def setNeighborReads
    (search : Search K)
    (move : CoordsM) : List CoordsM :=
  if request.withinLimits (search.currData.x + move.x)
      (search.currData.y + move.y) then
    [⟨search.currData.x + move.x, search.currData.y + move.y⟩]
  else
    []

def setNeighborsReads
    (request : Request K) : List CoordsM → Search K → List CoordsM
  | [], _ => []
  | move :: moves, search =>
      setNeighborReads request search move ++
        setNeighborsReads request moves (setNeighbor request search move)

/-- What is read while the current node is expanded. -/
def expandReads
    (search : Search K) : List CoordsM :=
  resetParentReads request search ++
    setNeighborsReads request (moves.take request.corners.howMany)
      (resetParent request search)

end Passes

/-! ## The reads decide the walk -/

namespace Request

section Agree

variable {add other : ℤ → ℤ → K → Option K} {line : Line}

/-- Two ways to add prices agree on the cells that are read. -/
def AgreeOn
    (add other : ℤ → ℤ → K → Option K)
    (reads : List (ℤ × ℤ)) : Prop :=
  ∀ read ∈ reads, ∀ slCost, add read.1 read.2 slCost = other read.1 read.2 slCost

theorem AgreeOn.left
    {first second : List (ℤ × ℤ)}
    (agree : AgreeOn add other (first ++ second)) :
    AgreeOn add other first :=
  fun read isRead => agree read (List.mem_append_left _ isRead)

theorem AgreeOn.right
    {first second : List (ℤ × ℤ)}
    (agree : AgreeOn add other (first ++ second)) :
    AgreeOn add other second :=
  fun read isRead => agree read (List.mem_append_right _ isRead)

theorem crossMinor_congr
    {point : LinePoint K}
    (agree : AgreeOn add other (crossMinorReads line point)) :
    crossMinor add line point = crossMinor other line point := by
  unfold crossMinor
  dsimp only
  split
  · next crosses =>
      have same := agree (besideCell line point)
        (by simp [crossMinorReads, crosses]) point.slCost
      dsimp only [besideCell] at same
      rw [same]
  · rfl

theorem passCell_congr
    {point : LinePoint K}
    (agree : AgreeOn add other (passCellReads line point)) :
    passCell add line point = passCell other line point := by
  unfold passCell
  split
  · next inside =>
      have same := agree (besideCell line point)
        (by simp [passCellReads, inside]) point.slCost
      dsimp only [besideCell] at same
      rw [same]
  · rfl

theorem passBeside_congr
    {point : LinePoint K}
    (agree : AgreeOn add other (passBesideReads add line point)) :
    passBeside add line point = passBeside other line point := by
  unfold passBeside
  split
  · next straight =>
      unfold passBesideReads at agree
      rw [if_pos straight] at agree
      have first := agree _ List.mem_cons_self point.slCost
      dsimp only at first ⊢
      rw [← first]
      cases passes : add (point.major + Line.beside line.sMajor) point.minor
          point.slCost with
      | some slCost => rfl
      | none =>
          have second := agree
            (point.major + Line.beside line.sMajor, point.minor - 1)
            (by simp [passes]) point.slCost
          dsimp only at second
          rw [second]
  · rfl

theorem lineStep_congr
    {point : LinePoint K}
    (agree : AgreeOn add other (lineStepReads add line point)) :
    lineStep add line point = lineStep other line point := by
  unfold lineStepReads at agree
  unfold lineStep
  rw [← crossMinor_congr agree.left]
  have later := agree.right
  cases crossed : crossMinor add line point with
  | none => rfl
  | some crossedPoint =>
      rw [crossed] at later
      dsimp only at later
      rw [Option.bind_some, Option.bind_some, ← passCell_congr later.left]
      have last := later.right
      cases passed : passCell add line crossedPoint with
      | none => rfl
      | some passedPoint =>
          rw [passed] at last
          dsimp only at last
          rw [Option.bind_some, Option.bind_some, ← passBeside_congr last]

theorem walkLine_congr
    (steps : Nat)
    (point : LinePoint K)
    (agree : AgreeOn add other (walkLineReads add line steps point)) :
    walkLine add line steps point = walkLine other line steps point := by
  induction steps generalizing point with
  | zero => rfl
  | succ steps inductionHypothesis =>
      unfold walkLineReads at agree
      unfold walkLine
      rw [← lineStep_congr agree.left]
      have later := agree.right
      cases stepped : lineStep add line point with
      | none => rfl
      | some next =>
          rw [stepped] at later
          exact inductionHypothesis next later

end Agree

/-! ## Where a line reads -/

/-- The sides of a line, and the signs of its directions. -/
structure Proper (line : Line) : Prop where
  nonneg : 0 ≤ line.dMinor
  le : line.dMinor ≤ line.dMajor
  sMajor : line.sMajor = 1 ∨ line.sMajor = -1
  sMinor : line.sMinor = 1 ∨ line.sMinor = -1

/-- A point has made some steps from the first one, and its rest belongs to some
columns. -/
structure OnLine
    (line : Line)
    (major0 minor0 steps columns : ℤ)
    (point : LinePoint K)
    (rows : ℤ) : Prop where
  major : point.major = major0 + line.sMajor * steps
  minor : point.minor = minor0 + line.sMinor * rows
  rest : columns * line.dMinor = rows * line.dMajor + point.f
  restNonneg : 0 ≤ point.f
  restLt : point.f < line.dMajor
  rowsNonneg : 0 ≤ rows

/-- A cell beside the line in a column and a row between both ends. -/
structure BetweenEnds
    (line : Line)
    (major0 minor0 : ℤ)
    (read : ℤ × ℤ) : Prop where
  column : ∃ steps, 0 ≤ steps ∧ steps < line.dMajor ∧
    read.1 = major0 + line.sMajor * steps + Line.beside line.sMajor
  row : ∃ rows, 0 ≤ rows ∧ rows < line.dMinor ∧
    read.2 = minor0 + line.sMinor * rows + Line.beside line.sMinor

section Lines

variable
  {add : ℤ → ℤ → K → Option K}
  {line : Line}
  {major0 minor0 steps columns rows : ℤ}
  {point next : LinePoint K}

theorem rows_lt
    (proper : Proper line)
    (positive : 0 < line.dMajor)
    (within : columns ≤ line.dMajor)
    (begun : rows * line.dMajor < columns * line.dMinor) :
    rows < line.dMinor := by
  apply lt_of_mul_lt_mul_right _ positive.le
  calc
    rows * line.dMajor < columns * line.dMinor := begun
    _ ≤ line.dMajor * line.dMinor :=
      mul_le_mul_of_nonneg_right within proper.nonneg
    _ = line.dMinor * line.dMajor := mul_comm _ _

theorem OnLine.besideCell
    (onLine : OnLine line major0 minor0 steps columns point rows)
    (stepsNonneg : 0 ≤ steps)
    (stepsLt : steps < line.dMajor)
    (rowsLt : rows < line.dMinor) :
    BetweenEnds line major0 minor0 (besideCell line point) where
  column := ⟨steps, stepsNonneg, stepsLt, by
    rw [Request.besideCell, onLine.major]⟩
  row := ⟨rows, onLine.rowsNonneg, rowsLt, by
    rw [Request.besideCell, onLine.minor]⟩

variable
  {read : ℤ × ℤ}

theorem OnLine.crossMinorReads
    (proper : Proper line)
    (onLine : OnLine line major0 minor0 steps steps point rows)
    (stepsNonneg : 0 ≤ steps)
    (stepsLt : steps < line.dMajor)
    (isRead : read ∈ crossMinorReads line point) :
    BetweenEnds line major0 minor0 read := by
  unfold Request.crossMinorReads at isRead
  split at isRead
  · next crosses =>
      cases List.mem_singleton.mp isRead
      apply onLine.besideCell stepsNonneg stepsLt
      have positive : 0 < line.dMajor := by omega
      -- The row that is left is full in the next column.
      have full : (rows + 1) * line.dMajor ≤ (steps + 1) * line.dMinor := by
        linarith [onLine.rest, add_one_mul rows line.dMajor,
          add_one_mul steps line.dMinor]
      apply lt_of_mul_lt_mul_right _ positive.le
      calc
        rows * line.dMajor < (rows + 1) * line.dMajor := by
          linarith [add_one_mul rows line.dMajor]
        _ ≤ (steps + 1) * line.dMinor := full
        _ ≤ line.dMajor * line.dMinor :=
          mul_le_mul_of_nonneg_right (by omega) proper.nonneg
        _ = line.dMinor * line.dMajor := mul_comm _ _
  · cases isRead

theorem OnLine.crossMinor
    (proper : Proper line)
    (onLine : OnLine line major0 minor0 steps steps point rows)
    (crossed : crossMinor add line point = some next) :
    ∃ rows, OnLine line major0 minor0 steps (steps + 1) next rows := by
  unfold Request.crossMinor at crossed
  dsimp only at crossed
  have flat := proper.le
  have below := onLine.restLt
  split at crossed
  · next crosses =>
      obtain ⟨slCost, -, rfl⟩ := Option.map_eq_some_iff.mp crossed
      refine ⟨rows + 1, onLine.major, ?_, ?_, ?_, ?_, ?_⟩
      · dsimp only
        rw [onLine.minor]
        ring
      · dsimp only
        linarith [onLine.rest, add_one_mul rows line.dMajor,
          add_one_mul steps line.dMinor]
      · dsimp only
        omega
      · dsimp only
        omega
      · have nonneg := onLine.rowsNonneg
        omega
  · next stays =>
      cases crossed
      refine ⟨rows, onLine.major, onLine.minor, ?_, ?_, ?_, onLine.rowsNonneg⟩
      · dsimp only
        linarith [onLine.rest, add_one_mul steps line.dMinor]
      · have restNonneg := onLine.restNonneg
        have nonneg := proper.nonneg
        dsimp only
        omega
      · dsimp only
        omega

theorem OnLine.passCellReads
    (proper : Proper line)
    (onLine : OnLine line major0 minor0 steps (steps + 1) point rows)
    (stepsNonneg : 0 ≤ steps)
    (stepsLt : steps < line.dMajor)
    (isRead : read ∈ passCellReads line point) :
    BetweenEnds line major0 minor0 read := by
  unfold Request.passCellReads at isRead
  split at isRead
  · next inside =>
      cases List.mem_singleton.mp isRead
      apply onLine.besideCell stepsNonneg stepsLt
      have restNonneg := onLine.restNonneg
      have positive : 0 < point.f := by omega
      have begun : rows * line.dMajor < (steps + 1) * line.dMinor := by
        linarith [onLine.rest]
      exact rows_lt proper (by omega) (by omega) begun
  · cases isRead

theorem passCell_point
    (passed : passCell add line point = some next) :
    ∃ slCost, next = { point with slCost := slCost } := by
  unfold passCell at passed
  split at passed
  · obtain ⟨slCost, -, rfl⟩ := Option.map_eq_some_iff.mp passed
    exact ⟨slCost, rfl⟩
  · cases passed
    exact ⟨point.slCost, rfl⟩

theorem passBeside_point
    (passed : passBeside add line point = some next) :
    ∃ slCost, next = { point with slCost := slCost } := by
  unfold passBeside at passed
  split at passed
  · obtain ⟨slCost, -, rfl⟩ := Option.map_eq_some_iff.mp passed
    exact ⟨slCost, rfl⟩
  · cases passed
    exact ⟨point.slCost, rfl⟩

theorem OnLine.slCost
    (onLine : OnLine line major0 minor0 steps columns point rows)
    (slCost : K) :
    OnLine line major0 minor0 steps columns { point with slCost := slCost }
      rows :=
  ⟨onLine.major, onLine.minor, onLine.rest, onLine.restNonneg, onLine.restLt,
    onLine.rowsNonneg⟩

theorem OnLine.lineStep
    (proper : Proper line)
    (onLine : OnLine line major0 minor0 steps steps point rows)
    (stepped : lineStep add line point = some next) :
    ∃ rows, OnLine line major0 minor0 (steps + 1) (steps + 1) next rows := by
  obtain ⟨crossed, isCrossed, rest⟩ := Option.bind_eq_some_iff.mp stepped
  obtain ⟨passed, isPassed, last⟩ := Option.bind_eq_some_iff.mp rest
  obtain ⟨beside, isBeside, rfl⟩ := Option.map_eq_some_iff.mp last
  obtain ⟨newRows, onCrossed⟩ := onLine.crossMinor proper isCrossed
  obtain ⟨firstCost, rfl⟩ := passCell_point isPassed
  obtain ⟨secondCost, rfl⟩ := passBeside_point isBeside
  refine ⟨newRows, ?_, onCrossed.minor, onCrossed.rest, onCrossed.restNonneg,
    onCrossed.restLt, onCrossed.rowsNonneg⟩
  dsimp only
  rw [onCrossed.major]
  ring

/-- A cell beside a straight line, in the row of the line or the one before. -/
structure BesideStraight
    (line : Line)
    (major0 minor0 : ℤ)
    (read : ℤ × ℤ) : Prop where
  column : ∃ steps, 0 ≤ steps ∧ steps < line.dMajor ∧
    read.1 = major0 + line.sMajor * steps + Line.beside line.sMajor
  straight : line.dMinor = 0
  row : read.2 = minor0 ∨ read.2 = minor0 - 1

theorem OnLine.passBesideReads
    (onLine : OnLine line major0 minor0 steps columns point rows)
    (stepsNonneg : 0 ≤ steps)
    (stepsLt : steps < line.dMajor)
    (isRead : read ∈ passBesideReads add line point) :
    BesideStraight line major0 minor0 read := by
  unfold Request.passBesideReads at isRead
  split at isRead
  · next straight =>
      have noRows : rows = 0 := by
        have rest := onLine.rest
        rw [straight, mul_zero] at rest
        have restNonneg := onLine.restNonneg
        have product : rows * line.dMajor ≤ 0 := by omega
        have atMost := nonpos_of_mul_nonpos_left product (by omega)
        exact le_antisymm atMost onLine.rowsNonneg
      have minor : point.minor = minor0 := by
        rw [onLine.minor, noRows, mul_zero, add_zero]
      rw [minor, onLine.major] at isRead
      cases List.mem_cons.mp isRead with
      | inl isFirst =>
          cases isFirst
          exact ⟨⟨steps, stepsNonneg, stepsLt, rfl⟩, straight, Or.inl rfl⟩
      | inr isSecond =>
          split at isSecond
          · cases List.mem_singleton.mp isSecond
            exact ⟨⟨steps, stepsNonneg, stepsLt, rfl⟩, straight, Or.inr rfl⟩
          · cases isSecond
  · cases isRead

theorem OnLine.lineStepReads
    (proper : Proper line)
    (onLine : OnLine line major0 minor0 steps steps point rows)
    (stepsNonneg : 0 ≤ steps)
    (stepsLt : steps < line.dMajor)
    (isRead : read ∈ lineStepReads add line point) :
    BetweenEnds line major0 minor0 read ∨
      BesideStraight line major0 minor0 read := by
  unfold Request.lineStepReads at isRead
  cases List.mem_append.mp isRead with
  | inl crossing =>
      exact Or.inl
        (onLine.crossMinorReads proper stepsNonneg stepsLt crossing)
  | inr rest =>
      cases isCrossed : Request.crossMinor add line point with
      | none =>
          rw [isCrossed] at rest
          cases rest
      | some crossed =>
          rw [isCrossed] at rest
          obtain ⟨newRows, onCrossed⟩ := onLine.crossMinor proper isCrossed
          cases List.mem_append.mp rest with
          | inl passing =>
              exact Or.inl
                (onCrossed.passCellReads proper stepsNonneg stepsLt passing)
          | inr last =>
              cases isPassed : Request.passCell add line crossed with
              | none =>
                  rw [isPassed] at last
                  cases last
              | some passed =>
                  rw [isPassed] at last
                  obtain ⟨slCost, rfl⟩ := passCell_point isPassed
                  exact Or.inr ((onCrossed.slCost slCost).passBesideReads
                    stepsNonneg stepsLt last)

theorem OnLine.walkLineReads
    (proper : Proper line)
    (left : Nat)
    (onLine : OnLine line major0 minor0 steps steps point rows)
    (stepsNonneg : 0 ≤ steps)
    (all : steps + left = line.dMajor)
    (isRead : read ∈ walkLineReads add line left point) :
    BetweenEnds line major0 minor0 read ∨
      BesideStraight line major0 minor0 read := by
  induction left generalizing steps point rows with
  | zero => cases isRead
  | succ left inductionHypothesis =>
      unfold Request.walkLineReads at isRead
      cases List.mem_append.mp isRead with
      | inl inStep =>
          exact onLine.lineStepReads proper stepsNonneg (by omega) inStep
      | inr later =>
          cases stepped : Request.lineStep add line point with
          | none =>
              rw [stepped] at later
              cases later
          | some next =>
              rw [stepped] at later
              obtain ⟨newRows, onNext⟩ := onLine.lineStep proper stepped
              exact inductionHypothesis onNext (by omega) (by omega) later

end Lines

/-! ## Straight lines -/

section Straight

variable
  {add : ℤ → ℤ → K → Option K}
  {line : Line}
  {point : LinePoint K}

variable (add) in
theorem straight_step
    (straight : line.dMinor = 0)
    (positive : 0 < line.dMajor)
    (noRest : point.f = 0) :
    lineStepReads add line point = passBesideReads add line point ∧
      lineStep add line point = (passBeside add line point).map fun point =>
        { point with major := point.major + line.sMajor } := by
  have notFull : ¬line.dMajor ≤ point.f + line.dMinor := by omega
  have same : { point with f := point.f + line.dMinor } = point := by
    rw [straight, add_zero]
  have crossed : crossMinor add line point = some point := by
    unfold crossMinor
    dsimp only
    rw [if_neg notFull, same]
  have passed : passCell add line point = some point := by
    unfold passCell
    rw [if_neg (by simp [noRest])]
  constructor
  · unfold lineStepReads crossMinorReads passCellReads
    rw [if_neg notFull, crossed]
    dsimp only
    rw [if_neg (by simp [noRest]), passed]
    rfl
  · unfold lineStep
    rw [crossed, Option.bind_some, passed, Option.bind_some]

/-- The row before a straight line is read exactly if the line may not pass some
cell of its own row. -/
theorem straight_reads
    {free : ℤ → ℤ → Prop}
    (isFree : ∀ major minor slCost,
      (add major minor slCost).isSome ↔ free major minor)
    (straight : line.dMinor = 0)
    (positive : 0 < line.dMajor)
    (steps : Nat)
    (noRest : point.f = 0) :
    (∃ read ∈ walkLineReads add line steps point,
        read.2 = point.minor - 1) ↔
      ∃ step < steps, ¬free
        (point.major + line.sMajor * step + Line.beside line.sMajor)
        point.minor := by
  induction steps generalizing point with
  | zero => simp [walkLineReads]
  | succ steps inductionHypothesis =>
      obtain ⟨reads, stepped⟩ := straight_step add straight positive noRest
      have here := isFree (point.major + Line.beside line.sMajor) point.minor
        point.slCost
      unfold walkLineReads
      rw [reads, stepped]
      unfold passBesideReads passBeside
      rw [if_pos straight, if_pos straight]
      cases first : add (point.major + Line.beside line.sMajor) point.minor
          point.slCost with
      | none =>
          rw [first] at here
          have notFree :
              ¬free (point.major + Line.beside line.sMajor) point.minor :=
            fun isFreeHere => Bool.false_ne_true (here.mpr isFreeHere)
          constructor
          · intro _
            exact ⟨0, Nat.succ_pos _, by simpa using notFree⟩
          · intro _
            exact ⟨(point.major + Line.beside line.sMajor, point.minor - 1),
              by simp, rfl⟩
      | some slCost =>
          rw [first] at here
          have isFreeHere := here.mp rfl
          have later := @inductionHypothesis { point with
            slCost := slCost
            major := point.major + line.sMajor } noRest
          dsimp only [Option.or_some, Option.map_some] at later ⊢
          rw [if_neg (by simp)]
          constructor
          · rintro ⟨read, isRead, isBefore⟩
            cases List.mem_append.mp isRead with
            | inl isFirst =>
                cases List.mem_singleton.mp isFirst
                dsimp only at isBefore
                omega
            | inr isLater =>
                obtain ⟨step, within, notFree⟩ :=
                  later.mp ⟨read, isLater, isBefore⟩
                refine ⟨step + 1, Nat.succ_lt_succ within, ?_⟩
                have place : point.major + line.sMajor * ((step + 1 : Nat) : ℤ) =
                    point.major + line.sMajor + line.sMajor * step := by
                  push_cast
                  ring
                rwa [place]
          · rintro ⟨step, within, notFree⟩
            cases step with
            | zero => exact absurd (by simpa using isFreeHere) notFree
            | succ step =>
                have place : point.major + line.sMajor * ((step + 1 : Nat) : ℤ) =
                    point.major + line.sMajor + line.sMajor * step := by
                  push_cast
                  ring
                rw [place] at notFree
                obtain ⟨read, isRead, isBefore⟩ :=
                  later.mpr ⟨step, Nat.lt_of_succ_lt_succ within, notFree⟩
                exact ⟨read, List.mem_append_right _ isRead, isBefore⟩

end Straight

/-! ## The cells of a tested line -/

section Tested

/-- The line between two cells by its longer side. -/
def lineBetween
    (major0 minor0 major1 minor1 : ℤ) : Line where
  dMajor := |major1 - major0|
  dMinor := |minor1 - minor0|
  sMajor := if major0 < major1 then 1 else -1
  sMinor := if minor0 < minor1 then 1 else -1

variable
  {add : ℤ → ℤ → K → Option K}
  {free : ℤ → ℤ → Prop}
  {major0 minor0 major1 minor1 : ℤ}

theorem beside_iff
    (first second cell : ℤ) :
    (∃ steps, 0 ≤ steps ∧ steps < |second - first| ∧
      cell = first + (if first < second then 1 else -1) * steps +
        Line.beside (if first < second then 1 else -1)) ↔
      min first second ≤ cell ∧ cell < max first second := by
  unfold Line.beside
  split
  · next forward =>
      rw [abs_of_pos (by omega)]
      constructor
      · rintro ⟨steps, nonneg, within, rfl⟩
        omega
      · intro between
        exact ⟨cell - first, by omega, by omega, by omega⟩
  · next backward =>
      rw [abs_of_nonpos (by omega)]
      constructor
      · rintro ⟨steps, nonneg, within, rfl⟩
        omega
      · intro between
        exact ⟨first - 1 - cell, by omega, by omega, by omega⟩

theorem proper_lineBetween
    (flat : |minor1 - minor0| ≤ |major1 - major0|) :
    Proper (lineBetween major0 minor0 major1 minor1) where
  nonneg := abs_nonneg _
  le := flat
  sMajor := by
    dsimp only [lineBetween]
    split
    · exact Or.inl rfl
    · exact Or.inr rfl
  sMinor := by
    dsimp only [lineBetween]
    split
    · exact Or.inl rfl
    · exact Or.inr rfl

/-- Some cell that is not free is in a row beside the line. -/
def Blocked
    (free : ℤ → ℤ → Prop)
    (major0 major1 minor : ℤ) : Prop :=
  ∃ major, min major0 major1 ≤ major ∧ major < max major0 major1 ∧
    ¬free major minor

section

variable
  (isFree : ∀ major minor slCost,
    (add major minor slCost).isSome ↔ free major minor)

include isFree

/-- The cell lies between both ends, or it lies beside a straight line and in the
row before it only if the row of the line is blocked. -/
theorem tested_reads
    (flat : |minor1 - minor0| ≤ |major1 - major0|)
    (slCost : K)
    {read : ℤ × ℤ}
    (isRead : read ∈ walkLineReads add
      (lineBetween major0 minor0 major1 minor1) |major1 - major0|.toNat
      ⟨major0, minor0, 0, slCost⟩) :
    (min major0 major1 ≤ read.1 ∧ read.1 < max major0 major1) ∧
      (min minor0 minor1 ≤ read.2 ∧ read.2 < max minor0 minor1 ∨
        minor0 = minor1 ∧ (read.2 = minor0 ∨
          read.2 = minor0 - 1 ∧ Blocked free major0 major1 minor0)) := by
  have positive : 0 < |major1 - major0| := by
    by_contra none
    rw [Int.toNat_of_nonpos (not_lt.mp none)] at isRead
    cases isRead
  have onLine : OnLine (lineBetween major0 minor0 major1 minor1) major0 minor0
      0 0 ⟨major0, minor0, 0, slCost⟩ 0 :=
    ⟨by simp, by simp, by simp, le_refl _, positive, le_refl _⟩
  have all : (0 : ℤ) + |major1 - major0|.toNat = |major1 - major0| := by
    omega
  cases onLine.walkLineReads (proper_lineBetween flat) _ (le_refl _) all
      isRead with
  | inl between =>
      exact ⟨(beside_iff _ _ _).mp between.column,
        Or.inl ((beside_iff _ _ _).mp between.row)⟩
  | inr beside =>
      have straight : minor0 = minor1 := by
        have noSide : |minor1 - minor0| = 0 := beside.straight
        rw [abs_eq_zero] at noSide
        omega
      refine ⟨(beside_iff _ _ _).mp beside.column, Or.inr ⟨straight, ?_⟩⟩
      cases beside.row with
      | inl own => exact Or.inl own
      | inr before =>
          obtain ⟨step, within, notFree⟩ :=
            (straight_reads isFree beside.straight positive _ rfl).mp
              ⟨read, isRead, before⟩
          obtain ⟨atLeast, below⟩ := (beside_iff major0 major1 _).mp
            ⟨step, Int.natCast_nonneg _, by omega, rfl⟩
          exact Or.inr ⟨before, _, atLeast, below, notFree⟩

theorem blocked_reads
    (slCost : K)
    (blocked : Blocked free major0 major1 minor0) :
    ∃ read ∈ walkLineReads add (lineBetween major0 minor0 major1 minor0)
        |major1 - major0|.toNat ⟨major0, minor0, 0, slCost⟩,
      read.2 = minor0 - 1 := by
  obtain ⟨major, atLeast, below, notFree⟩ := blocked
  obtain ⟨steps, nonneg, within, isMajor⟩ :=
    (beside_iff major0 major1 major).mpr ⟨atLeast, below⟩
  have straight :
      (lineBetween major0 minor0 major1 minor0).dMinor = 0 := by
    simp [lineBetween]
  have positive : 0 < (lineBetween major0 minor0 major1 minor0).dMajor :=
    nonneg.trans_lt within
  apply (straight_reads isFree straight positive _ rfl).mpr
  refine ⟨steps.toNat, by omega, ?_⟩
  rw [Int.toNat_of_nonneg nonneg]
  rwa [isMajor] at notFree

end

end Tested

end Request

/-! ## Reads at the border -/

section Border

variable [Field K] [LinearOrder K]

/-- What the test of a line of sight lets the line pass. -/
def Request.passable
    (cx cy : ℤ) : Prop :=
  (request.cellCost cx cy = unknownCost ∧ request.allowUnknown) ∨
    (Request.scaledCost (request.cellCost cx cy) : K) ≤
      maxNonObstacleCost.toNat

theorem Request.addCellPrice_isSome
    (cx cy : ℤ)
    (slCost : K) :
    (request.addCellPrice cx cy slCost).isSome ↔ request.passable cx cy := by
  unfold Request.addCellPrice Request.passable
  dsimp only
  split
  · next passes => exact iff_of_true rfl passes
  · next stops => exact iff_of_false Bool.false_ne_true stops

/-- A line along the first row or the first column of the map may pass all cells
of it. -/
def Request.BorderClear
    (first second : CoordsM) : Prop :=
  (first.y = 0 → second.y = 0 → ∀ x, min first.x second.x ≤ x →
      x < max first.x second.x → request.passable x 0) ∧
    (first.x = 0 → second.x = 0 → ∀ y, min first.y second.y ≤ y →
      y < max first.y second.y → request.passable 0 y)

/-- The test of a line between two cells of the map stays in the map exactly if
the line is clear where it runs along the border. -/
theorem Request.losReads_inside_iff
    {first second : CoordsM}
    (firstInside : first.Inside request.costmap)
    (secondInside : second.Inside request.costmap) :
    (∀ cell ∈ request.losReads first.x first.y second.x second.y,
        cell.Inside request.costmap) ↔ request.BorderClear first second := by
  obtain ⟨x0, y0⟩ := first
  obtain ⟨x1, y1⟩ := second
  unfold CoordsM.Inside at firstInside secondInside
  dsimp only at firstInside secondInside
  unfold Request.losReads Request.BorderClear
  dsimp only
  split
  · next flat =>
      constructor
      · intro inside
        refine ⟨?_, fun sameX0 sameX1 y atLeast below => ?_⟩
        · rintro rfl rfl x atLeast below
          by_contra notFree
          obtain ⟨read, isRead, before⟩ :=
            Request.blocked_reads request.addCellPrice_isSome (0 : K)
              ⟨x, atLeast, below, notFree⟩
          have outside := (inside _ (List.mem_map_of_mem isRead)).2.2.1
          dsimp only at outside
          omega
        · -- a line along the first column is steep
          rw [sameX0, sameX1, sub_self, abs_zero] at flat
          have noSide := abs_nonpos_iff.mp flat
          omega
      · intro clear cell isCell
        obtain ⟨read, isRead, rfl⟩ := List.mem_map.mp isCell
        obtain ⟨⟨atLeast, below⟩, rows⟩ := Request.tested_reads
          request.addCellPrice_isSome flat (0 : K) isRead
        unfold CoordsM.Inside
        dsimp only
        rcases rows with between | ⟨sameRow, own | ⟨before, blocked⟩⟩
        · omega
        · omega
        · have notBorder : y0 ≠ 0 := by
            rintro rfl
            obtain ⟨x, xAtLeast, xBelow, notFree⟩ := blocked
            exact notFree (clear.1 rfl sameRow.symm x xAtLeast xBelow)
          omega
  · next steep =>
      have flat : |x1 - x0| ≤ |y1 - y0| := (not_le.mp steep).le
      constructor
      · intro inside
        refine ⟨fun sameY0 sameY1 x atLeast below => ?_, ?_⟩
        · -- a line along the first row is not steep
          rw [sameY0, sameY1, sub_self, abs_zero] at steep
          exact absurd (abs_nonneg _) steep
        · rintro rfl rfl y atLeast below
          by_contra notFree
          obtain ⟨read, isRead, before⟩ := Request.blocked_reads
            (fun cy cx => request.addCellPrice_isSome cx cy) (0 : K)
            ⟨y, atLeast, below, notFree⟩
          have outside := (inside _ (List.mem_map_of_mem isRead)).1
          dsimp only at outside
          omega
      · intro clear cell isCell
        obtain ⟨read, isRead, rfl⟩ := List.mem_map.mp isCell
        obtain ⟨⟨atLeast, below⟩, rows⟩ := Request.tested_reads
          (fun cy cx => request.addCellPrice_isSome cx cy) flat (0 : K) isRead
        unfold CoordsM.Inside
        dsimp only
        rcases rows with between | ⟨sameColumn, own | ⟨before, blocked⟩⟩
        · omega
        · omega
        · have notBorder : x0 ≠ 0 := by
            rintro rfl
            obtain ⟨y, yAtLeast, yBelow, notFree⟩ := blocked
            exact notFree (clear.2 rfl sameColumn.symm y yAtLeast yBelow)
          omega

end Border

/-! ## Reads of a run -/

variable
  {search : Search K}

section Runs

variable [Field K] [SquareRoot K] [LinearOrder K]

/-- All cells that are read while the current node is expanded are in the map. -/
def ReadsInside
    (search : Search K) : Prop :=
  ∀ cell ∈ expandReads request search, cell.Inside request.costmap

/-- The line from the current node to its parent's parent is clear where it runs
along the border. -/
def SightClearAtBorder
    (search : Search K) : Prop :=
  ∀ parent maybePar, search.currData.parentId = some parent →
    (search.nodesData parent).parentId = some maybePar →
    request.BorderClear search.currData.cell (search.nodesData maybePar).cell

/-- The neighbours that are read are in the map. -/
theorem setNeighborsReads_inside
    (steps : List CoordsM)
    (search : Search K)
    {cell : CoordsM}
    (isRead : cell ∈ setNeighborsReads request steps search) :
    cell.Inside request.costmap := by
  induction steps generalizing search with
  | nil => cases isRead
  | cons move steps inductionHypothesis =>
      unfold setNeighborsReads at isRead
      cases List.mem_append.mp isRead with
      | inl here =>
          unfold setNeighborReads at here
          split at here
          · next inside =>
              cases List.mem_singleton.mp here
              exact inside
          · cases here
      | inr later => exact inductionHypothesis _ later

omit [SquareRoot K] in
/-- The test of the current node is that of the line to its parent's parent. -/
theorem resetParentReads_eq
    {parent maybePar : Nat}
    (isParent : search.currData.parentId = some parent)
    (isAbove : (search.nodesData parent).parentId = some maybePar) :
    resetParentReads request search =
      request.losReads search.currData.x search.currData.y
        (search.nodesData maybePar).x (search.nodesData maybePar).y := by
  have sameParent := (leaveQueue_node search parent).2.2.2
  obtain ⟨sameX, sameY, -, -⟩ := leaveQueue_node search maybePar
  have above : (search.currData.parentId.bind fun parent =>
      ((search.setNode search.curr
        { search.currData with isInQueue := false }).nodesData
          parent).parentId) = some maybePar := by
    rw [isParent]
    exact sameParent.trans isAbove
  unfold resetParentReads
  dsimp only
  split
  · next unknown => cases unknown.symm.trans above
  · next known =>
      cases known.symm.trans above
      exact congrArg₂ (request.losReads search.currData.x search.currData.y)
        sameX sameY

theorem readsInside_iff
    {request : Request K}
    (stored : Stored request search) :
    ReadsInside request search ↔ SightClearAtBorder request search := by
  obtain ⟨parent, parentMade, isParent⟩ :=
    stored.parent search.curr stored.curr_lt
  obtain ⟨maybePar, made, isAbove⟩ := stored.parent parent parentMade
  have tested := request.losReads_inside_iff
    (stored.inside search.curr stored.curr_lt) (stored.inside maybePar made)
  have reads := resetParentReads_eq request isParent isAbove
  constructor
  · intro inside other above isOther isAboveOther
    cases isOther.symm.trans isParent
    cases isAboveOther.symm.trans isAbove
    apply tested.mp
    intro cell isRead
    apply inside cell
    apply List.mem_append_left
    rw [reads]
    exact isRead
  · intro clear cell isRead
    cases List.mem_append.mp isRead with
    | inl testing =>
        rw [reads] at testing
        exact tested.mpr (clear parent maybePar isParent isAbove) cell testing
    | inr neighbours => exact setNeighborsReads_inside request _ _ neighbours

/-- In every run of a planner, a call reads only cells of the map exactly if each
tested line is clear where it runs along the border. -/
theorem call_reads_inside_iff
    {calls : List (Planner K × Request K)}
    {planner : Planner K}
    (run : PlannerRun calls planner)
    (request : Request K) :
    (∀ search, Visited request planner search →
        ¬request.isGoal search.currData → ReadsInside request search) ↔
      ∀ search, Visited request planner search →
        ¬request.isGoal search.currData →
          SightClearAtBorder request search := by
  have clean := run.clean.1
  constructor
  · intro inside search visited notGoal
    exact (readsInside_iff (visited.stored clean).1).mp
      (inside search visited notGoal)
  · intro clear search visited notGoal
    exact (readsInside_iff (visited.stored clean).1).mpr
      (clear search visited notGoal)

end Runs

/-- All cells of a corridor are free, and those beside it are unknown. -/
theorem corridor_cellCost
    (cx cy : ℤ) :
    (corridorRequest 2 2).cellCost cx cy = freeSpace ∨
      (corridorRequest 2 2).cellCost cx cy = unknownCost := by
  unfold Request.cellCost
  split
  · next inside =>
      obtain ⟨xNonneg, xLt, yNonneg, yLt⟩ := inside
      exact .inl (Costmap2D.getCost_filled ((Int.toNat_lt xNonneg).mpr xLt)
        ((Int.toNat_lt yNonneg).mpr yLt))
  · exact .inr rfl

theorem corridor_reads_inside_iff :
    (∀ search, Visited (corridorRequest 2 2) Planner.new search →
        ¬(corridorRequest 2 2).isGoal search.currData →
          ReadsInside (corridorRequest 2 2) search) ∧
      ∀ search, Visited (corridorRequest 2 2) Planner.new search →
        ¬(corridorRequest 2 2).isGoal search.currData →
          SightClearAtBorder (corridorRequest 2 2) search := by
  have passable (cx cy : ℤ) : (corridorRequest 2 2).passable cx cy := by
    rcases corridor_cellCost cx cy with free | unknown
    · right
      rw [free]
      decide +kernel
    · exact .inl ⟨unknown, rfl⟩
  have clear : ∀ search, Visited (corridorRequest 2 2) Planner.new search →
      ¬(corridorRequest 2 2).isGoal search.currData →
        SightClearAtBorder (corridorRequest 2 2) search := by
    intro search _ _ parent maybePar _ _
    exact ⟨fun _ _ x _ _ => passable x 0, fun _ _ y _ _ => passable 0 y⟩
  exact ⟨(call_reads_inside_iff PlannerRun.start _).mpr clear, clear⟩

/-! ## Memory beside the costmap -/

section Memory

/-- The request with something else in memory beside the costmap. -/
abbrev Request.beside
    (request : Request K)
    (memory : ℤ → ℤ → UInt8) : Request K :=
  { request with stray := memory }

variable
  (memory : ℤ → ℤ → UInt8)

theorem Request.cellCost_beside
    {cx cy : ℤ}
    (inside : CoordsM.Inside ⟨cx, cy⟩ request.costmap) :
    (request.beside memory).cellCost cx cy = request.cellCost cx cy := by
  exact (if_pos inside).trans (if_pos inside).symm

variable [Field K] [LinearOrder K]

theorem Request.losCheck_beside
    {x0 y0 x1 y1 : ℤ}
    (inside : ∀ cell ∈ request.losReads x0 y0 x1 y1,
      cell.Inside request.costmap) :
    (request.beside memory).losCheck x0 y0 x1 y1 =
      request.losCheck x0 y0 x1 y1 := by
  have same : ∀ cx cy : ℤ, CoordsM.Inside ⟨cx, cy⟩ request.costmap →
      ∀ slCost : K, request.addCellPrice cx cy slCost =
        (request.beside memory).addCellPrice cx cy slCost := by
    intro cx cy isInside slCost
    unfold addCellPrice
    rw [request.cellCost_beside memory isInside]
    rfl
  unfold losReads at inside
  unfold losCheck
  dsimp only at inside ⊢
  split
  · next flat =>
      rw [if_pos flat] at inside
      exact (walkLine_congr _ _ fun read isRead =>
        same read.1 read.2 (inside _ (List.mem_map_of_mem isRead))).symm
  · next steep =>
      rw [if_neg steep] at inside
      exact (walkLine_congr _ _ fun read isRead =>
        same read.2 read.1 (inside _ (List.mem_map_of_mem isRead))).symm

variable [SquareRoot K]

/-- The neighbours are read in the map, and so is the line that is tested. -/
theorem expand_beside
    {request : Request K}
    (inside : ReadsInside request search) :
    expand (request.beside memory) search = expand request search := by
  have sameNeighbor : setNeighbor (request.beside memory) =
      setNeighbor request := by
    funext search move
    unfold setNeighbor
    dsimp only
    by_cases isInside : request.withinLimits (search.currData.x + move.x)
        (search.currData.y + move.y)
    · have sameCost := request.cellCost_beside memory isInside
      simp only [Request.isSafe, Request.getTraversalCost, sameCost]
      rfl
    · rw [if_neg fun both => isInside both.1, if_neg fun both => isInside both.1]
  have sameParent : resetParent (request.beside memory) search =
      resetParent request search := by
    have tested : ∀ cell ∈ resetParentReads request search,
        cell.Inside request.costmap :=
      fun cell isRead => inside cell (List.mem_append_left _ isRead)
    unfold resetParentReads at tested
    unfold resetParent
    dsimp only at tested ⊢
    split
    · rfl
    · next maybePar isAbove =>
        rw [isAbove] at tested
        rw [request.losCheck_beside memory tested]
        rfl
  unfold expand setNeighbors
  rw [sameNeighbor, sameParent]

/-- In every run of a planner, a call whose tested lines are clear along the
border answers the same whatever memory holds beside the costmap. -/
theorem generatePath_beside
    {calls : List (Planner K × Request K)}
    {planner : Planner K}
    (run : PlannerRun calls planner)
    (request : Request K)
    (clear : ∀ search, Visited request planner search →
      ¬request.isGoal search.currData → SightClearAtBorder request search)
    (memory : ℤ → ℤ → UInt8)
    (fuel : Nat) :
    generatePath (request.beside memory) planner fuel =
      generatePath request planner fuel := by
  have samePass : ∀ search, Visited request planner search →
      pass (request.beside memory) search = pass request search := by
    intro search visited
    unfold pass
    by_cases isGoal : request.isGoal search.currData
    · exact (if_pos isGoal).trans (if_pos isGoal).symm
    · have inside := (readsInside_iff (visited.stored run.clean.1).1).mpr
        (clear search visited isGoal)
      have notGoal : ¬(request.beside memory).isGoal search.currData := isGoal
      rw [if_neg notGoal, if_neg isGoal, expand_beside memory inside]
      rfl
  have sameLoop : ∀ search, Visited request planner search →
      searchLoop (request.beside memory) fuel search =
        searchLoop request fuel search := by
    induction fuel with
    | zero =>
        intro search visited
        rfl
    | succ fuel inductionHypothesis =>
        intro search visited
        unfold searchLoop
        rw [samePass search visited]
        cases passed : pass request search with
        | found => rfl
        | failed => rfl
        | dangling => rfl
        | next after => exact inductionHypothesis after (visited.next passed)
  have sameStart : startSearch (request.beside memory) planner =
      startSearch request planner := by
    have sameCost := request.cellCost_beside memory request.srcInside
    have sameNode : srcNode (request.beside memory) = srcNode request := by
      simp only [srcNode, Request.getTraversalCost, sameCost]
      rfl
    unfold startSearch
    rw [sameNode]
  unfold generatePath
  rw [sameStart]
  exact sameLoop _ .start

end Memory

/-- A corridor between walls or in the open. -/
theorem corridor_beside :
    generatePath ((corridorRequest 2 2).beside fun _ _ => 254) Planner.new 9 =
      generatePath (corridorRequest 2 2) Planner.new 9 := by
  have free (x y : ℤ) : (corridorRequest 2 2).passable x y := by
    unfold Request.passable Request.cellCost
    split
    · next inside =>
        obtain ⟨xNonneg, xLt, yNonneg, yLt⟩ := inside
        right
        have isFree : (corridorRequest 2 2).costmap.getCost x.toNat y.toNat =
            freeSpace := by
          apply Costmap2D.getCost_filled
          · exact (Int.toNat_lt xNonneg).mpr xLt
          · exact (Int.toNat_lt yNonneg).mpr yLt
        rw [isFree]
        decide +kernel
    · exact .inl ⟨rfl, rfl⟩
  exact generatePath_beside PlannerRun.start _
    (fun _ _ _ _ _ _ _ =>
      ⟨fun _ _ x _ _ => free x 0, fun _ _ y _ _ => free 0 y⟩) _ _

/-! ## A wall in the first row -/

/-- Three rows of four cells.  The second cell of the first row is lethal, and the
way around it leads through the second row. -/
def walledCostmap : Costmap2D ℚ where
  sizeX := 4
  sizeY := 3
  resolution := 1
  originX := 0
  originY := 0
  costmap := #[0, 254, 100, 0, 0, 0, 254, 0, 200, 200, 200, 200]
  size_costmap := by decide

/-- Along the first row.  Only the costs of the cells count. -/
def walledRequest : Request ℚ where
  queue := leastFirst
  wTraversalCost := 1
  wEucCost := 0
  wHeuristicCost := 0
  corners := .eight
  allowUnknown := true
  costmap := walledCostmap
  stray _ _ := unknownCost
  src := ⟨0, 0⟩
  dst := ⟨3, 0⟩
  srcInside := by decide

/-- The search before each pass, if it goes on. -/
def walledSearch : Nat → Search ℚ
  | 0 => startSearch walledRequest Planner.new
  | passes + 1 =>
      takeNext walledRequest (expand walledRequest (walledSearch passes))

/-- Behind the wall the line back to the start runs along the first row.  The wall
is not free, and so the row before it is read. -/
theorem walled_reads_outside :
    ¬ ∀ search, Visited walledRequest Planner.new search →
      ¬walledRequest.isGoal search.currData →
        ReadsInside walledRequest search := by
  intro inside
  have goesOn : ∀ passes ∈ [0, 1, 2, 3],
      ¬walledRequest.isGoal (walledSearch passes).currData ∧
        (expand walledRequest (walledSearch passes)).reallocated = false ∧
        (walledSearch (passes + 1)).queue ≠ [] := by
    decide +kernel
  have isNext : ∀ passes ∈ [0, 1, 2, 3],
      pass walledRequest (walledSearch passes) =
        .next (walledSearch (passes + 1)) := by
    intro passes listed
    obtain ⟨notGoal, unmoved, more⟩ := goesOn passes listed
    rw [pass, if_neg notGoal, unmoved, if_neg Bool.false_ne_true]
    exact if_neg more
  have visited : Visited walledRequest Planner.new (walledSearch 4) :=
    (((Visited.start.next (isNext 0 (by decide))).next
      (isNext 1 (by decide))).next (isNext 2 (by decide))).next
        (isNext 3 (by decide))
  have isRead : ⟨1, -1⟩ ∈ expandReads walledRequest (walledSearch 4) := by
    decide +kernel
  have outside := inside _ visited (by decide +kernel) _ isRead
  exact absurd outside (by decide)

end NavBim.ThetaStar
