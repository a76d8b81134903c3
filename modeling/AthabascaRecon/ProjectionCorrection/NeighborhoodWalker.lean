import AthabascaRecon.Bonelab.Image
import Mathlib.Tactic.IntervalCases

/-!
# The walk around a pixel

`NeighborhoodWalker` walks a square spiral around its starting point and returns those
locations of it that are inside the image. The place of a location on the spiral has a
closed form, `visitNumber`: the walker is at the location with number n after n steps
(`takeStep_onSpiral`), and no two locations have the same number
(`visitNumber_injective`). So the walk is described without the walker: `nextLocation`
skips the locations outside the image, and fails at the first of them whose number is not
less than the number of pixels.
-/

set_option autoImplicit false

namespace AthabascaRecon

/-- The ways in which the correction table can fail to be constructed. The last one is
that of the model alone. -/
inductive WalkFailure where
  | assertionFailed
  | internalError
  | outOfFuel
  deriving DecidableEq, Repr

/-- `NeighborhoodWalker`. The relative location has a signed type. -/
structure NeighborhoodWalker where
  startingPoint : Tuple2 ℤ
  imageDims : Tuple2 ℕ
  count : ℕ
  radius : ℤ
  currentRelativeLocation : Tuple2 ℤ
  currentAbsoluteLocation : Tuple2 ℤ
  deriving DecidableEq, Repr

/-- `long_product` of the dimensions of an image. -/
def longProduct (dims : Tuple2 ℕ) : ℕ := dims.v * dims.u

/-- The locations inside an image with the given dimensions. -/
def InsideImage (dims : Tuple2 ℕ) (location : Tuple2 ℤ) : Prop :=
  (0 ≤ location.v ∧ 0 ≤ location.u) ∧ (location.v < dims.v ∧ location.u < dims.u)

instance (dims : Tuple2 ℕ) (location : Tuple2 ℤ) : Decidable (InsideImage dims location) :=
  instDecidableAnd

namespace NeighborhoodWalker

/-- The constructor. It leaves the current locations uninitialised: they are written by
the first step before anything reads them. -/
def new (imageDims : Tuple2 ℕ) (startingPoint : Tuple2 ℤ) : NeighborhoodWalker where
  startingPoint := startingPoint
  imageDims := imageDims
  count := 0
  radius := 1
  currentRelativeLocation := ⟨0, 0⟩
  currentAbsoluteLocation := ⟨0, 0⟩

/-- The spiral part of `TakeStep`: the next relative location and the next radius. -/
def spiralStep (location : Tuple2 ℤ) (radius : ℤ) : Except WalkFailure (Tuple2 ℤ × ℤ) :=
  if location.v = radius then
    if location.u = radius then .ok (⟨location.v - 1, location.u⟩, radius)
    else if location.u = -radius then .ok (⟨location.v + 1, location.u⟩, radius + 1)
    else .ok (⟨location.v, location.u + 1⟩, radius)
  else if location.v = -radius then
    if location.u = -radius then .ok (⟨location.v + 1, location.u⟩, radius)
    else .ok (⟨location.v, location.u - 1⟩, radius)
  else if location.u = radius then .ok (⟨location.v - 1, location.u⟩, radius)
  else if location.u = -radius then .ok (⟨location.v + 1, location.u⟩, radius)
  else .error .internalError

/-- The relative location and the radius that `TakeStep` moves to. The first eight
locations are listed; after them comes the spiral. -/
def nextRelative (walker : NeighborhoodWalker) : Except WalkFailure (Tuple2 ℤ × ℤ) :=
  match walker.count with
  | 0 => .ok (⟨1, 0⟩, walker.radius)
  | 1 => .ok (⟨0, 1⟩, walker.radius)
  | 2 => .ok (⟨-1, 0⟩, walker.radius)
  | 3 => .ok (⟨0, -1⟩, walker.radius)
  | 4 => .ok (⟨1, 1⟩, walker.radius)
  | 5 => .ok (⟨-1, 1⟩, walker.radius)
  | 6 => .ok (⟨-1, -1⟩, walker.radius)
  | 7 => .ok (⟨1, -1⟩, walker.radius)
  | _ => spiralStep walker.currentRelativeLocation walker.radius

/-- `TakeStep`. -/
def takeStep (walker : NeighborhoodWalker) : Except WalkFailure NeighborhoodWalker :=
  match walker.nextRelative with
  | .error failure => .error failure
  | .ok (location, radius) =>
      .ok { walker with
        currentRelativeLocation := location
        radius := radius
        currentAbsoluteLocation :=
          ⟨location.v + walker.startingPoint.v, location.u + walker.startingPoint.u⟩
        count := walker.count + 1 }

/-- `LocationIsValid`. -/
def LocationIsValid (walker : NeighborhoodWalker) : Prop :=
  InsideImage walker.imageDims walker.currentAbsoluteLocation

instance (walker : NeighborhoodWalker) : Decidable walker.LocationIsValid :=
  inferInstanceAs (Decidable (InsideImage _ _))

/-- What a step does to the fields that it does not choose itself. -/
theorem takeStep_frame {walker next : NeighborhoodWalker} (stepped : walker.takeStep = .ok next) :
    next.startingPoint = walker.startingPoint ∧ next.imageDims = walker.imageDims ∧
      next.count = walker.count + 1 ∧
      next.currentAbsoluteLocation =
        ⟨next.currentRelativeLocation.v + walker.startingPoint.v,
          next.currentRelativeLocation.u + walker.startingPoint.u⟩ ∧
      walker.nextRelative = .ok (next.currentRelativeLocation, next.radius) := by
  unfold takeStep at stepped
  split at stepped
  · cases stepped
  · rename_i location radius chosen
    cases stepped
    exact ⟨rfl, rfl, rfl, rfl, chosen⟩

/-- The loop of `GetNextLocation`. Its assertion compares the number of steps with the
number of pixels, which is also why the loop ends. -/
def skipOutside (walker : NeighborhoodWalker) :
    Except WalkFailure (Tuple2 ℤ × NeighborhoodWalker) :=
  if walker.LocationIsValid then .ok (walker.currentAbsoluteLocation, walker)
  else if walker.count < longProduct walker.imageDims then
    match _stepped : walker.takeStep with
    | .ok next => next.skipOutside
    | .error failure => .error failure
  else .error .assertionFailed
termination_by longProduct walker.imageDims - walker.count
decreasing_by
  obtain ⟨_, sameDims, counted, _⟩ := takeStep_frame _stepped
  rw [sameDims, counted]
  omega

/-- `GetNextLocation`. -/
def getNextLocation (walker : NeighborhoodWalker) :
    Except WalkFailure (Tuple2 ℤ × NeighborhoodWalker) :=
  match walker.takeStep with
  | .ok next => next.skipOutside
  | .error failure => .error failure

end NeighborhoodWalker

/-! ## The place of a location on the spiral -/

/-- The ring of the square spiral that a relative location is on. -/
def ring (location : Tuple2 ℤ) : ℤ := max (location.v.natAbs : ℤ) location.u.natAbs

/-- How far along a ring a relative location of it is: up the side of the greatest v, back
along the side of the greatest u, down the side of the least v, and along the side of the
least u to the corner. -/
def ringOffset (radius : ℤ) (location : Tuple2 ℤ) : ℤ :=
  if location.v = radius ∧ location.u ≠ -radius then location.u + radius
  else if location.u = radius then 3 * radius - location.v
  else if location.v = -radius then 5 * radius - location.u
  else 7 * radius + location.v

/-- The number of steps after which the walk is at a relative location: the first eight
are nearest neighbours first, and the spiral fills one ring after another. -/
def visitNumber (location : Tuple2 ℤ) : ℤ :=
  if ring location = 0 then 0
  else if ring location = 1 then
    if location.u = 0 then 2 - location.v
    else if location.v = 0 then 3 - location.u
    else if location.u = 1 then (11 - location.v) / 2
    else (15 + location.v) / 2
  else (2 * ring location - 1) * (2 * ring location - 1) - 1 +
      ringOffset (ring location) location

/-- A location is on the boundary of the square of its ring. -/
theorem ring_square (location : Tuple2 ℤ) :
    (-ring location ≤ location.v ∧ location.v ≤ ring location) ∧
      (-ring location ≤ location.u ∧ location.u ≤ ring location) ∧
      (location.v = ring location ∨ location.u = ring location ∨
        location.v = -ring location ∨ location.u = -ring location) := by
  simp only [ring]
  omega

theorem ringOffset_bounds {location : Tuple2 ℤ} (away : 1 ≤ ring location) :
    1 ≤ ringOffset (ring location) location ∧
      ringOffset (ring location) location ≤ 8 * ring location := by
  have square := ring_square location
  unfold ringOffset
  split_ifs <;> omega

/-- The location of a ring that is so far along it. -/
def ringLocation (radius offset : ℤ) : Tuple2 ℤ :=
  if offset ≤ 2 * radius then ⟨radius, offset - radius⟩
  else if offset ≤ 4 * radius then ⟨3 * radius - offset, radius⟩
  else if offset ≤ 6 * radius then ⟨-radius, 5 * radius - offset⟩
  else ⟨offset - 7 * radius, -radius⟩

theorem ringLocation_ringOffset {location : Tuple2 ℤ} (away : 1 ≤ ring location) :
    ringLocation (ring location) (ringOffset (ring location) location) = location := by
  obtain ⟨alongV, alongU, attained⟩ := ring_square location
  generalize ring location = radius at *
  obtain ⟨v, u⟩ := location
  dsimp only at alongV alongU attained
  unfold ringOffset
  dsimp only
  by_cases up : v = radius ∧ u ≠ -radius
  · rw [if_pos up, ringLocation, if_pos (by omega), Tuple2.mk.injEq]
    omega
  rw [if_neg up]
  by_cases back : u = radius
  · rw [if_pos back, ringLocation, if_neg (by omega), if_pos (by omega), Tuple2.mk.injEq]
    omega
  rw [if_neg back]
  by_cases down : v = -radius
  · rw [if_pos down, ringLocation, if_neg (by omega), if_neg (by omega), if_pos (by omega),
      Tuple2.mk.injEq]
    omega
  · rw [if_neg down, ringLocation, if_neg (by omega), if_neg (by omega), if_neg (by omega),
      Tuple2.mk.injEq]
    omega

theorem visitNumber_bounds {location : Tuple2 ℤ} (away : 1 ≤ ring location) :
    (2 * ring location - 1) * (2 * ring location - 1) ≤ visitNumber location ∧
      visitNumber location < (2 * ring location + 1) * (2 * ring location + 1) := by
  have grow : (2 * ring location + 1) * (2 * ring location + 1) =
      (2 * ring location - 1) * (2 * ring location - 1) + 8 * ring location := by
    ring
  obtain ⟨low, high⟩ := ringOffset_bounds away
  rw [grow]
  unfold visitNumber
  rw [if_neg (by omega)]
  by_cases first : ring location = 1
  · rw [if_pos first, first]
    simp only [AthabascaRecon.ring] at first
    split_ifs <;> omega
  · rw [if_neg first]
    omega

theorem visitNumber_lt_of_ring_lt {near far : Tuple2 ℤ} (closer : ring near < ring far) :
    visitNumber near < visitNumber far := by
  have nonneg : 0 ≤ ring near := by
    simp only [ring]
    omega
  have away : 1 ≤ ring far := by omega
  obtain ⟨low, _⟩ := visitNumber_bounds away
  by_cases centre : ring near = 0
  · have zero : visitNumber near = 0 := if_pos centre
    nlinarith
  · have nearAway : 1 ≤ ring near := by omega
    obtain ⟨_, high⟩ := visitNumber_bounds nearAway
    nlinarith

/-- The number of a location tells its ring. -/
theorem ring_eq_of_visitNumber_eq {first second : Tuple2 ℤ}
    (same : visitNumber first = visitNumber second) : ring first = ring second := by
  by_contra different
  rcases lt_or_gt_of_ne different with closer | closer
  · have := visitNumber_lt_of_ring_lt closer
    omega
  · have := visitNumber_lt_of_ring_lt closer
    omega

/-- **No two locations have the same place on the spiral.** -/
theorem visitNumber_injective : Function.Injective visitNumber := by
  intro first second same
  have sameRing := ring_eq_of_visitNumber_eq same
  have onFirst := ring_square first
  have onSecond := ring_square second
  unfold visitNumber at same
  rw [← sameRing] at same onSecond
  by_cases centre : ring first = 0
  · obtain ⟨v, u⟩ := first
    obtain ⟨v', u'⟩ := second
    rw [Tuple2.mk.injEq]
    dsimp only at onFirst onSecond
    omega
  by_cases nearest : ring first = 1
  · simp only [nearest, one_ne_zero, if_false, if_true] at same onFirst onSecond
    obtain ⟨v, u⟩ := first
    obtain ⟨v', u'⟩ := second
    rw [Tuple2.mk.injEq]
    dsimp only at onFirst onSecond same
    split_ifs at same <;> omega
  · simp only [centre, nearest, if_false] at same
    have sameOffset : ringOffset (ring first) first = ringOffset (ring first) second := by
      linarith
    rw [← ringLocation_ringOffset (by omega : 1 ≤ ring first), sameOffset, sameRing,
      ringLocation_ringOffset (by omega)]

/-! ## The walker is on the spiral -/

theorem ring_eq_of_square {location : Tuple2 ℤ} {radius : ℤ}
    (alongV : -radius ≤ location.v ∧ location.v ≤ radius)
    (alongU : -radius ≤ location.u ∧ location.u ≤ radius)
    (attained : location.v = radius ∨ location.u = radius ∨
      location.v = -radius ∨ location.u = -radius) : ring location = radius := by
  simp only [ring]
  omega

theorem visitNumber_of_two_le {location : Tuple2 ℤ} (outer : 2 ≤ ring location) :
    visitNumber location =
      (2 * ring location - 1) * (2 * ring location - 1) - 1 +
      ringOffset (ring location) location := by
  unfold visitNumber
  rw [if_neg (by omega), if_neg (by omega)]

/-- From the eighth step on the locations are numbered along the rings: the last of the
nearest neighbours is where the spiral starts. -/
theorem visitNumber_of_eight_le {location : Tuple2 ℤ} (beyond : 8 ≤ visitNumber location) :
    visitNumber location =
        (2 * ring location - 1) * (2 * ring location - 1) - 1 +
      ringOffset (ring location) location ∧
      (2 ≤ ring location ∨ location = ⟨1, -1⟩) := by
  have square := ring_square location
  by_cases outer : 2 ≤ ring location
  · exact ⟨visitNumber_of_two_le outer, .inl outer⟩
  · have corner : location = ⟨1, -1⟩ := by
      unfold visitNumber at beyond
      by_cases centre : ring location = 0
      · rw [if_pos centre] at beyond
        omega
      · have nearest : ring location = 1 := by omega
        rw [if_neg centre, if_pos nearest] at beyond
        rw [nearest] at square
        obtain ⟨v, u⟩ := location
        rw [Tuple2.mk.injEq]
        dsimp only at square beyond
        split_ifs at beyond <;> omega
    subst corner
    exact ⟨by decide, .inr rfl⟩

/-- A move along the ring leads to the location with the next number. -/
theorem visitNumber_along_ring {location next : Tuple2 ℤ}
    (beyond : 8 ≤ visitNumber location) (outer : 2 ≤ ring location)
    (alongV : -ring location ≤ next.v ∧ next.v ≤ ring location)
    (alongU : -ring location ≤ next.u ∧ next.u ≤ ring location)
    (attained : next.v = ring location ∨ next.u = ring location ∨
      next.v = -ring location ∨ next.u = -ring location)
    (offset : ringOffset (ring location) next = ringOffset (ring location) location + 1) :
    ring next = ring location ∧ visitNumber next = visitNumber location + 1 := by
  have sameRing := ring_eq_of_square alongV alongU attained
  obtain ⟨formula, _⟩ := visitNumber_of_eight_le beyond
  refine ⟨sameRing, ?_⟩
  rw [formula, visitNumber_of_two_le (by omega), sameRing, offset]
  omega

/-- The last location of a ring is followed by the first one of the next ring. -/
theorem visitNumber_of_corner {location : Tuple2 ℤ} (beyond : 8 ≤ visitNumber location)
    (outer : 2 ≤ ring location) (right : location.v = ring location)
    (low : location.u = -ring location) :
    ring (⟨location.v + 1, location.u⟩ : Tuple2 ℤ) = ring location + 1 ∧
      visitNumber ⟨location.v + 1, location.u⟩ = visitNumber location + 1 := by
  have nextRing : ring (⟨location.v + 1, location.u⟩ : Tuple2 ℤ) = ring location + 1 := by
    apply ring_eq_of_square <;> dsimp only <;> omega
  refine ⟨nextRing, ?_⟩
  obtain ⟨formula, _⟩ := visitNumber_of_eight_le beyond
  have last : ringOffset (ring location) location = 8 * ring location := by
    unfold ringOffset
    split_ifs <;> omega
  have first : ringOffset (ring location + 1) ⟨location.v + 1, location.u⟩ = 1 := by
    unfold ringOffset
    rw [if_pos (by dsimp only; omega)]
    dsimp only
    omega
  rw [formula, visitNumber_of_two_le (by omega), nextRing, last, first]
  linarith

/-- A step along the spiral leads to the location with the next number. -/
theorem spiralStep_visitNumber {location : Tuple2 ℤ} (beyond : 8 ≤ visitNumber location) :
    ∃ next : Tuple2 ℤ, NeighborhoodWalker.spiralStep location (ring location) =
        .ok (next, ring next) ∧ visitNumber next = visitNumber location + 1 := by
  obtain ⟨_, outer | corner⟩ := visitNumber_of_eight_le beyond
  swap
  · rw [corner]
    exact ⟨⟨2, -1⟩, by decide, by decide⟩
  have square := ring_square location
  have along (next : Tuple2 ℤ)
      (moved : ring next = ring location ∧ visitNumber next = visitNumber location + 1) :
      ∃ next' : Tuple2 ℤ, (.ok (next, ring location) : Except WalkFailure _) =
        .ok (next', ring next') ∧ visitNumber next' = visitNumber location + 1 := by
    refine ⟨next, ?_, moved.2⟩
    rw [moved.1]
  unfold NeighborhoodWalker.spiralStep
  -- Apart from the corner where a ring ends, a step moves one place along a side.
  split_ifs with right top low left bottom top low
  · apply along
    apply visitNumber_along_ring beyond outer <;> dsimp only [ringOffset] <;> omega
  · obtain ⟨nextRing, numbered⟩ := visitNumber_of_corner beyond outer right low
    refine ⟨_, ?_, numbered⟩
    rw [nextRing]
  · apply along
    apply visitNumber_along_ring beyond outer <;> dsimp only [ringOffset] <;> omega
  · apply along
    apply visitNumber_along_ring beyond outer <;> dsimp only [ringOffset] <;> omega
  · apply along
    apply visitNumber_along_ring beyond outer <;> dsimp only [ringOffset] <;> omega
  · apply along
    apply visitNumber_along_ring beyond outer <;> dsimp only [ringOffset] <;> omega
  · apply along
    apply visitNumber_along_ring beyond outer <;> dsimp only [ringOffset] <;> omega
  · omega

theorem visitNumber_nonneg (location : Tuple2 ℤ) : 0 ≤ visitNumber location := by
  by_cases centre : ring location = 0
  · exact (if_pos centre).ge
  · have away : 1 ≤ ring location := by
      simp only [ring] at centre ⊢
      omega
    obtain ⟨low, _⟩ := visitNumber_bounds away
    nlinarith

theorem ring_pos {location : Tuple2 ℤ} (moved : visitNumber location ≠ 0) :
    1 ≤ ring location := by
  by_contra centre
  apply moved
  apply if_pos
  simp only [ring] at centre ⊢
  omega

theorem ring_le_one {location : Tuple2 ℤ} (near : visitNumber location < 9) :
    ring location ≤ 1 := by
  by_contra outer
  have away : 1 ≤ ring location := by omega
  obtain ⟨low, _⟩ := visitNumber_bounds away
  nlinarith

/-- The number of steps after which a walk is at a location of the image. -/
def visitFrom (startingPoint location : Tuple2 ℤ) : ℤ :=
  visitNumber ⟨location.v - startingPoint.v, location.u - startingPoint.u⟩

theorem visitFrom_injective (startingPoint : Tuple2 ℤ) :
    Function.Injective (visitFrom startingPoint) := by
  intro first second same
  have sameRelative := visitNumber_injective same
  obtain ⟨v, u⟩ := first
  obtain ⟨v', u'⟩ := second
  simp only [Tuple2.mk.injEq] at sameRelative ⊢
  omega

@[simp]
theorem visitFrom_self (startingPoint : Tuple2 ℤ) : visitFrom startingPoint startingPoint = 0 := by
  simp only [visitFrom, sub_self]
  decide

theorem visitFrom_pos {startingPoint location : Tuple2 ℤ} (different : location ≠ startingPoint) :
    0 < visitFrom startingPoint location := by
  have notZero : visitFrom startingPoint location ≠ 0 := by
    intro zero
    apply different
    apply visitFrom_injective startingPoint
    rw [zero, visitFrom_self]
  have := visitNumber_nonneg ⟨location.v - startingPoint.v, location.u - startingPoint.u⟩
  change 0 ≤ visitFrom startingPoint location at this
  omega

namespace NeighborhoodWalker

/-- The invariant of the walker: it is at the location whose number is the number of its
steps. -/
structure OnSpiral (imageDims : Tuple2 ℕ) (startingPoint : Tuple2 ℤ)
    (walker : NeighborhoodWalker) : Prop where
  sameDims : walker.imageDims = imageDims
  sameStart : walker.startingPoint = startingPoint
  numbered : visitNumber walker.currentRelativeLocation = walker.count
  radius_eq : walker.radius = max 1 (ring walker.currentRelativeLocation)

variable {imageDims : Tuple2 ℕ} {startingPoint : Tuple2 ℤ} {walker : NeighborhoodWalker}

theorem new_onSpiral (imageDims : Tuple2 ℕ) (startingPoint : Tuple2 ℤ) :
    (new imageDims startingPoint).OnSpiral imageDims startingPoint where
  sameDims := rfl
  sameStart := rfl
  numbered := by
    simp only [new]
    decide
  radius_eq := by
    simp only [new]
    decide

theorem nextRelative_of_eight_le (beyond : 8 ≤ walker.count) :
    walker.nextRelative = spiralStep walker.currentRelativeLocation walker.radius := by
  unfold nextRelative
  split <;> first | rfl | omega

/-- The first eight locations are numbered in the order in which they are listed. -/
theorem nextRelative_of_lt_eight (listed : walker.count < 8) (radius : walker.radius = 1) :
    ∃ next, walker.nextRelative = .ok (next, max 1 (ring next)) ∧
      visitNumber next = walker.count + 1 := by
  obtain ⟨startingPoint, imageDims, count, one, relative, absolute⟩ := walker
  dsimp only at listed radius ⊢
  subst radius
  interval_cases count <;> exact ⟨_, rfl, by decide⟩

theorem nextRelative_numbered (onSpiral : walker.OnSpiral imageDims startingPoint) :
    ∃ next, walker.nextRelative = .ok (next, max 1 (ring next)) ∧
      visitNumber next = walker.count + 1 := by
  have numbered := onSpiral.numbered
  have radius := onSpiral.radius_eq
  rcases Nat.lt_or_ge walker.count 8 with listed | beyond
  · have near : ring walker.currentRelativeLocation ≤ 1 := ring_le_one (by omega)
    rw [max_eq_left near] at radius
    exact nextRelative_of_lt_eight listed radius
  · rw [nextRelative_of_eight_le beyond]
    have numberedBeyond : 8 ≤ visitNumber walker.currentRelativeLocation := by omega
    have away : 1 ≤ ring walker.currentRelativeLocation := ring_pos (by omega)
    obtain ⟨next, stepped, nextNumbered⟩ := spiralStep_visitNumber numberedBeyond
    have nextAway : 1 ≤ ring next := ring_pos (by omega)
    refine ⟨next, ?_, by omega⟩
    rw [radius, max_eq_right away, stepped, max_eq_right nextAway]

/-- **A step is never an internal error, and leads to the next location of the spiral.** -/
theorem takeStep_onSpiral (onSpiral : walker.OnSpiral imageDims startingPoint) :
    ∃ next, walker.takeStep = .ok next ∧ next.OnSpiral imageDims startingPoint ∧
      next.count = walker.count + 1 ∧
      visitFrom startingPoint next.currentAbsoluteLocation = next.count := by
  obtain ⟨location, chosen, numbered⟩ := nextRelative_numbered onSpiral
  obtain ⟨next, stepped⟩ : ∃ next, walker.takeStep = .ok next := by
    unfold takeStep
    rw [chosen]
    exact ⟨_, rfl⟩
  obtain ⟨sameStart, sameDims, counted, moved, relative⟩ := takeStep_frame stepped
  rw [chosen, Except.ok.injEq, Prod.mk.injEq] at relative
  obtain ⟨rfl, radius⟩ := relative
  refine ⟨next, stepped, ?_, counted, ?_⟩
  · refine ⟨sameDims.trans onSpiral.sameDims, sameStart.trans onSpiral.sameStart, ?_, radius.symm⟩
    rw [numbered, counted, Nat.cast_succ]
  · rw [moved, ← onSpiral.sameStart, counted, Nat.cast_succ, ← numbered]
    simp only [visitFrom, add_sub_cancel_right]

end NeighborhoodWalker

/-! ## The locations that the walk returns -/

section Search

variable (imageDims : Tuple2 ℕ) (startingPoint : Tuple2 ℤ) (wanted : Tuple2 ℤ → Prop)

/-- The next wanted location of the walk after a number of steps. The locations outside
the image that are passed have numbers less than the number of pixels. -/
structure FoundNext (steps : ℤ) (location : Tuple2 ℤ) : Prop where
  isWanted : wanted location
  later : steps < visitFrom startingPoint location
  skipped : ∀ other, steps < visitFrom startingPoint other →
    visitFrom startingPoint other < visitFrom startingPoint location → ¬ wanted other
  allowed : ∀ other, steps < visitFrom startingPoint other →
    visitFrom startingPoint other < visitFrom startingPoint location →
    ¬ InsideImage imageDims other → visitFrom startingPoint other < longProduct imageDims

/-- The walk comes to a location outside the image whose number is not less than the
number of pixels before it comes to a wanted location. -/
def Blocked (steps : ℤ) : Prop :=
  ∃ obstacle, ¬ InsideImage imageDims obstacle ∧ steps < visitFrom startingPoint obstacle ∧
    longProduct imageDims ≤ visitFrom startingPoint obstacle ∧
    ∀ other, steps < visitFrom startingPoint other →
      visitFrom startingPoint other ≤ visitFrom startingPoint obstacle → ¬ wanted other

variable {imageDims startingPoint wanted} {steps : ℤ} {passed location : Tuple2 ℤ}

variable (imageDims startingPoint wanted) in
/-- The locations between two numbers of steps stop neither the walk nor the search. -/
def ClearBetween (steps laterSteps : ℤ) : Prop :=
  ∀ other, steps < visitFrom startingPoint other → visitFrom startingPoint other ≤ laterSteps →
    ¬ wanted other ∧
      (¬ InsideImage imageDims other → visitFrom startingPoint other < longProduct imageDims)

/-- One location that is passed by. -/
theorem clearBetween_succ (numbered : visitFrom startingPoint passed = steps + 1)
    (unwanted : ¬ wanted passed)
    (permitted : ¬ InsideImage imageDims passed → steps + 1 < longProduct imageDims) :
    ClearBetween imageDims startingPoint wanted steps (steps + 1) := by
  intro other after before
  have same : other = passed := by
    apply visitFrom_injective startingPoint
    omega
  rw [same, numbered]
  exact ⟨unwanted, permitted⟩

variable {laterSteps : ℤ}

theorem FoundNext.widen (clear : ClearBetween imageDims startingPoint wanted steps laterSteps)
    (ordered : steps ≤ laterSteps)
    (found : FoundNext imageDims startingPoint wanted laterSteps location) :
    FoundNext imageDims startingPoint wanted steps location where
  isWanted := found.isWanted
  later := ordered.trans_lt found.later
  skipped := by
    intro other after before
    rcases le_or_gt (visitFrom startingPoint other) laterSteps with early | late
    · exact (clear other after early).1
    · exact found.skipped other late before
  allowed := by
    intro other after before outside
    rcases le_or_gt (visitFrom startingPoint other) laterSteps with early | late
    · exact (clear other after early).2 outside
    · exact found.allowed other late before outside

theorem Blocked.widen (clear : ClearBetween imageDims startingPoint wanted steps laterSteps)
    (ordered : steps ≤ laterSteps) (blocked : Blocked imageDims startingPoint wanted laterSteps) :
    Blocked imageDims startingPoint wanted steps := by
  obtain ⟨obstacle, outside, later, many, unwanted⟩ := blocked
  refine ⟨obstacle, outside, ordered.trans_lt later, many, ?_⟩
  intro other after before
  rcases le_or_gt (visitFrom startingPoint other) laterSteps with early | late
  · exact (clear other after early).1
  · exact unwanted other late before

end Search

namespace NeighborhoodWalker

variable {imageDims : Tuple2 ℕ} {startingPoint : Tuple2 ℤ}

/-- What `GetNextLocation` gives after a number of steps, for the locations that a caller
waits for: the next of them, with the walker on it, or the failed assertion. -/
def Answers (imageDims : Tuple2 ℕ) (startingPoint : Tuple2 ℤ) (wanted : Tuple2 ℤ → Prop)
    (steps : ℤ) : Except WalkFailure (Tuple2 ℤ × NeighborhoodWalker) → Prop
  | .ok (location, next) => next.OnSpiral imageDims startingPoint ∧
      visitFrom startingPoint location = next.count ∧
      FoundNext imageDims startingPoint wanted steps location
  | .error failure => failure = .assertionFailed ∧
      Blocked imageDims startingPoint wanted steps

theorem Answers.widen {wanted : Tuple2 ℤ → Prop} {steps laterSteps : ℤ}
    {result : Except WalkFailure (Tuple2 ℤ × NeighborhoodWalker)}
    (clear : ClearBetween imageDims startingPoint wanted steps laterSteps)
    (ordered : steps ≤ laterSteps)
    (answers : Answers imageDims startingPoint wanted laterSteps result) :
    Answers imageDims startingPoint wanted steps result := by
  cases result with
  | ok found =>
    obtain ⟨onSpiral, arrived, next⟩ := answers
    exact ⟨onSpiral, arrived, next.widen clear ordered⟩
  | error failure =>
    obtain ⟨asserted, blocked⟩ := answers
    exact ⟨asserted, blocked.widen clear ordered⟩

theorem skipOutside_of_step {walker next : NeighborhoodWalker} (invalid : ¬ walker.LocationIsValid)
    (few : walker.count < longProduct walker.imageDims) (stepped : walker.takeStep = .ok next) :
    walker.skipOutside = next.skipOutside := by
  rw [skipOutside, if_neg invalid, if_pos few]
  split
  · rename_i next' stepped'
    rw [stepped, Except.ok.injEq] at stepped'
    rw [stepped']
  · rename_i failure stepped'
    rw [stepped] at stepped'
    cases stepped'

/-- The loop, from a walker that has just arrived at a location. -/
theorem skipOutside_answers (walker : NeighborhoodWalker)
    (onSpiral : walker.OnSpiral imageDims startingPoint)
    (arrived : visitFrom startingPoint walker.currentAbsoluteLocation = walker.count) :
    Answers imageDims startingPoint (InsideImage imageDims) (walker.count - 1)
      walker.skipOutside := by
  have here : visitFrom startingPoint walker.currentAbsoluteLocation = walker.count - 1 + 1 := by
    omega
  induction walker using skipOutside.induct with
  | case1 walker valid =>
    rw [skipOutside, if_pos valid]
    rw [LocationIsValid, onSpiral.sameDims] at valid
    exact ⟨onSpiral, arrived, valid, by omega, by omega, by omega⟩
  | case2 walker invalid few next stepped ih =>
    obtain ⟨next', stepped', nextOnSpiral, counted, nextArrived⟩ := takeStep_onSpiral onSpiral
    rw [stepped, Except.ok.injEq] at stepped'
    subst stepped'
    rw [skipOutside_of_step invalid few stepped]
    have later := ih nextOnSpiral nextArrived (by omega)
    have oneStep : (next.count : ℤ) - 1 = walker.count - 1 + 1 := by omega
    rw [oneStep] at later
    rw [LocationIsValid, onSpiral.sameDims] at invalid
    rw [onSpiral.sameDims] at few
    exact later.widen (clearBetween_succ here invalid (by omega)) (by omega)
  | case3 walker invalid few failure stepped =>
    obtain ⟨next, stepped', _⟩ := takeStep_onSpiral onSpiral
    rw [stepped'] at stepped
    cases stepped
  | case4 walker invalid many =>
    rw [skipOutside, if_neg invalid, if_neg many]
    rw [LocationIsValid, onSpiral.sameDims] at invalid
    rw [onSpiral.sameDims] at many
    refine ⟨rfl, walker.currentAbsoluteLocation, invalid, by omega, by omega, ?_⟩
    intro other after before inside
    have same : other = walker.currentAbsoluteLocation := by
      apply visitFrom_injective startingPoint
      omega
    rw [same] at inside
    exact invalid inside

/-- **`GetNextLocation` returns the next location of the spiral that is inside the image,
and its only failure is the assertion on the number of steps.** -/
theorem getNextLocation_answers {walker : NeighborhoodWalker}
    (onSpiral : walker.OnSpiral imageDims startingPoint) :
    Answers imageDims startingPoint (InsideImage imageDims) walker.count
      walker.getNextLocation := by
  obtain ⟨next, stepped, nextOnSpiral, counted, arrived⟩ := takeStep_onSpiral onSpiral
  have answers := skipOutside_answers next nextOnSpiral arrived
  have oneStep : (next.count : ℤ) - 1 = walker.count := by omega
  rw [oneStep] at answers
  unfold getNextLocation
  rw [stepped]
  exact answers

/-- The location that `GetNextLocation` returns is the next one inside the image. -/
theorem found_of_getNextLocation {walker next : NeighborhoodWalker} {location : Tuple2 ℤ}
    (onSpiral : walker.OnSpiral imageDims startingPoint)
    (returned : walker.getNextLocation = .ok (location, next)) :
    next.OnSpiral imageDims startingPoint ∧ visitFrom startingPoint location = next.count ∧
      FoundNext imageDims startingPoint (InsideImage imageDims) walker.count location := by
  have answers := getNextLocation_answers onSpiral
  rw [returned] at answers
  exact answers

/-- `GetNextLocation` fails where the walk is stopped outside the image. -/
theorem blocked_of_getNextLocation {walker : NeighborhoodWalker} {failure : WalkFailure}
    (onSpiral : walker.OnSpiral imageDims startingPoint)
    (failed : walker.getNextLocation = .error failure) :
    failure = .assertionFailed ∧
      Blocked imageDims startingPoint (InsideImage imageDims) walker.count := by
  have answers := getNextLocation_answers onSpiral
  rw [failed] at answers
  exact answers

end NeighborhoodWalker

end AthabascaRecon
