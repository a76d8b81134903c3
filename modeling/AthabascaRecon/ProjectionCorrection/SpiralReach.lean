import AthabascaRecon.ProjectionCorrection.SpiralWalk
import Mathlib.Tactic.Linarith

/-!
# Images around a location, and the spiral

An image reaches from a location in it to the rows and columns on either side. The locations
outside the image that the spiral comes to before the last pixel have numbers below the number of
pixels only if the image is a part of the spiral that lacks at most two rows or columns
(`Reach.outsideIsEarly_iff`).
-/

set_option autoImplicit false

namespace AthabascaRecon

/-! ## The sides of a ring -/

/-- How far along a ring a location is, by the side that it is on: the sides of high v, of high u,
of low v and of low u, in the order of the spiral. -/
def OnSide (radius : ℤ) (location : Tuple2 ℤ) (offset : ℤ) : Prop :=
  (location.v = radius ∧ -radius < location.u ∧ location.u ≤ radius ∧
      offset = location.u + radius) ∨
    (location.u = radius ∧ -radius ≤ location.v ∧ location.v < radius ∧
      offset = 3 * radius - location.v) ∨
    (location.v = -radius ∧ -radius ≤ location.u ∧ location.u < radius ∧
      offset = 5 * radius - location.u) ∨
    (location.u = -radius ∧ -radius < location.v ∧ location.v ≤ radius ∧
      offset = 7 * radius + location.v)

/-- The numbers along the sides of a ring. -/
theorem visitNumber_side {location : Tuple2 ℤ} {radius : ℤ} (outer : 2 ≤ radius)
    (onRing : ring location = radius) :
    ∃ offset, OnSide radius location offset ∧
      visitNumber location = 4 * (radius * radius) - 4 * radius + offset := by
  have square := ring_square location
  subst onRing
  refine ⟨ringOffset (ring location) location, ?_, ?_⟩
  · unfold OnSide ringOffset
    split_ifs <;> omega
  · rw [visitNumber_of_two_le outer]
    ring

theorem visitNumber_lt_of_inner_ring {location : Tuple2 ℤ} {radius : ℤ} (outer : 3 ≤ radius)
    (inner : ring location ≤ radius - 2) :
    visitNumber location < 4 * (radius * radius) - 6 * radius := by
  by_cases centre : ring location = 0
  · have zero : visitNumber location = 0 := if_pos centre
    nlinarith
  · have away : 1 ≤ ring location := by
      simp only [AthabascaRecon.ring] at centre ⊢
      omega
    obtain ⟨-, high⟩ := visitNumber_bounds away
    nlinarith

section Sides

variable {radius v u : ℤ} (outer : 2 ≤ radius)

include outer

theorem visitNumber_highV (after : -radius < u) (before : u ≤ radius) :
    visitNumber ⟨radius, u⟩ = 4 * (radius * radius) - 3 * radius + u := by
  have onRing : ring ⟨radius, u⟩ = radius := by
    apply ring_eq_of_square <;> dsimp only <;> omega
  obtain ⟨offset, side, numbered⟩ := visitNumber_side outer onRing
  simp only [OnSide] at side
  omega

theorem visitNumber_highU (after : v ≤ radius) (before : -radius ≤ v) :
    visitNumber ⟨v, radius⟩ = 4 * (radius * radius) - radius - v := by
  have onRing : ring ⟨v, radius⟩ = radius := by
    apply ring_eq_of_square <;> dsimp only <;> omega
  obtain ⟨offset, side, numbered⟩ := visitNumber_side outer onRing
  simp only [OnSide] at side
  omega

theorem visitNumber_lowV (after : u ≤ radius) (before : -radius ≤ u) :
    visitNumber ⟨-radius, u⟩ = 4 * (radius * radius) + radius - u := by
  have onRing : ring ⟨-radius, u⟩ = radius := by
    apply ring_eq_of_square <;> dsimp only <;> omega
  obtain ⟨offset, side, numbered⟩ := visitNumber_side outer onRing
  simp only [OnSide] at side
  omega

theorem visitNumber_lowU (after : -radius ≤ v) (before : v ≤ radius) :
    visitNumber ⟨v, -radius⟩ = 4 * (radius * radius) + 3 * radius + v := by
  have onRing : ring ⟨v, -radius⟩ = radius := by
    apply ring_eq_of_square <;> dsimp only <;> omega
  obtain ⟨offset, side, numbered⟩ := visitNumber_side outer onRing
  simp only [OnSide] at side
  omega

end Sides

/-! ## Reaches -/

/-- How far an image reaches from a location in it: to less and to greater v, and to less and to
greater u. -/
structure Reach where
  lowV : ℤ
  highV : ℤ
  lowU : ℤ
  highU : ℤ
  deriving DecidableEq, Repr

namespace Reach

/-- The relative locations of the pixels. -/
def Contains (reach : Reach) (location : Tuple2 ℤ) : Prop :=
  (-reach.lowV ≤ location.v ∧ location.v ≤ reach.highV) ∧
    (-reach.lowU ≤ location.u ∧ location.u ≤ reach.highU)

instance (reach : Reach) (location : Tuple2 ℤ) : Decidable (reach.Contains location) :=
  instDecidableAnd

/-- The number of pixels. -/
def size (reach : Reach) : ℤ :=
  (reach.lowV + reach.highV + 1) * (reach.lowU + reach.highU + 1)

/-- The locations outside the image that come before a pixel on the spiral come earlier than
there are pixels. -/
def OutsideIsEarly (reach : Reach) : Prop :=
  ∀ outside, ¬ reach.Contains outside → ∀ pixel, reach.Contains pixel →
    visitNumber outside < visitNumber pixel → visitNumber outside < reach.size

/-- The lines that are missing on the side two before the last one of the spiral, and on the side
three before it. -/
def Lacks (twoBefore threeBefore : ℤ) : Prop :=
  (twoBefore = 0 ∧ (threeBefore = 0 ∨ threeBefore = 1 ∨ threeBefore = 2)) ∨
    (twoBefore = 1 ∧ threeBefore = 0)

instance (twoBefore threeBefore : ℤ) : Decidable (Lacks twoBefore threeBefore) :=
  instDecidableOr

/-- The image is the spiral up to a side of a ring, but for a few lines. The sides of a ring are
those of high v, of high u, of low v and of low u. -/
def NearlySpiral (reach : Reach) (radius : ℤ) : Prop :=
  (reach.highV = radius ∧ reach.lowU = radius - 1 ∧
      Lacks (radius - 1 - reach.lowV) (radius - 1 - reach.highU)) ∨
    (reach.highU = radius ∧ reach.highV = radius ∧
      Lacks (radius - 1 - reach.lowU) (radius - 1 - reach.lowV)) ∨
    (reach.lowV = radius ∧ reach.highU = radius ∧
      Lacks (radius - reach.highV) (radius - 1 - reach.lowU)) ∨
    (reach.lowU = radius ∧ reach.lowV = radius ∧
      Lacks (radius - reach.highU) (radius - reach.highV))

instance (reach : Reach) (radius : ℤ) : Decidable (reach.NearlySpiral radius) :=
  instDecidableOr

/-- The images inside the first ring, whose locations are not in the order of the others. -/
def nearest : List Reach :=
  [⟨0, 0, 0, 0⟩, ⟨0, 1, 0, 0⟩, ⟨0, 0, 0, 1⟩, ⟨1, 1, 0, 0⟩, ⟨1, 1, 0, 1⟩, ⟨1, 0, 1, 1⟩,
    ⟨1, 1, 1, 1⟩]

/-- The image is a first part of the spiral, but for a few lines. -/
def FitsSpiral (reach : Reach) : Prop :=
  reach ∈ nearest ∨ ∃ radius, 2 ≤ radius ∧ reach.NearlySpiral radius

/-- The image does not reach further than a radius. -/
structure Within (reach : Reach) (radius : ℤ) : Prop where
  lowV : 0 ≤ reach.lowV ∧ reach.lowV ≤ radius
  highV : 0 ≤ reach.highV ∧ reach.highV ≤ radius
  lowU : 0 ≤ reach.lowU ∧ reach.lowU ≤ radius
  highU : 0 ≤ reach.highU ∧ reach.highU ≤ radius

variable {reach : Reach} {radius : ℤ}

theorem Within.ring_le {location : Tuple2 ℤ} (within : reach.Within radius)
    (contained : reach.Contains location) : ring location ≤ radius := by
  obtain ⟨lowV, highV, lowU, highU⟩ := within
  obtain ⟨alongV, alongU⟩ := contained
  have square := ring_square location
  omega

/-! ## Images that are nearly the spiral -/

/-- It is enough to look at the last two rings. -/
theorem outsideIsEarly_of_offsets {surplus lastOffset : ℤ} (large : 3 ≤ radius)
    (within : reach.Within radius) (count : reach.size = 4 * (radius * radius) + surplus)
    (enough : -6 * radius ≤ surplus)
    (before : ∀ outside offset, ¬ reach.Contains outside → OnSide (radius - 1) outside offset →
      offset + 8 < surplus + 12 * radius)
    (reached : ∀ pixel offset, reach.Contains pixel → OnSide radius pixel offset →
      offset ≤ lastOffset)
    (last : ∀ outside offset, ¬ reach.Contains outside → OnSide radius outside offset →
      offset < lastOffset → offset < surplus + 4 * radius) :
    reach.OutsideIsEarly := by
  intro outside notIn pixel isIn earlier
  have closer := ring_le_of_visitNumber_lt earlier
  have pixelRing := within.ring_le isIn
  rw [count]
  rcases lt_trichotomy (ring outside) (radius - 1) with inner | next | outer
  · have number := visitNumber_lt_of_inner_ring large (by omega : ring outside ≤ radius - 2)
    omega
  · obtain ⟨offset, side, numbered⟩ := visitNumber_side (by omega) next
    have early := before outside offset notIn side
    rw [numbered]
    linarith
  · have onRing : ring outside = radius := by omega
    have pixelOnRing : ring pixel = radius := by omega
    obtain ⟨offset, side, numbered⟩ := visitNumber_side (by omega) onRing
    obtain ⟨pixelOffset, pixelSide, pixelNumbered⟩ := visitNumber_side (by omega) pixelOnRing
    have within := reached pixel pixelOffset isIn pixelSide
    have early := last outside offset notIn side (by omega)
    omega

section Nearly

variable (large : 3 ≤ radius) {twoBefore threeBefore : ℤ} (lacks : Lacks twoBefore threeBefore)

include large lacks

/-- The last pixel is on the side of high v. -/
theorem outsideIsEarly_highV : OutsideIsEarly
    ⟨radius - 1 - twoBefore, radius, radius - 1, radius - 1 - threeBefore⟩ := by
  have count : size ⟨radius - 1 - twoBefore, radius, radius - 1, radius - 1 - threeBefore⟩ =
      4 * (radius * radius) + (twoBefore + twoBefore * threeBefore -
        2 * radius * (1 + twoBefore + threeBefore)) := by
    rw [size]
    ring
  have reached (pixel : Tuple2 ℤ) (offset : ℤ)
      (isIn : Contains ⟨radius - 1 - twoBefore, radius, radius - 1, radius - 1 - threeBefore⟩ pixel)
      (side : OnSide radius pixel offset) : offset ≤ 2 * radius - 1 - threeBefore := by
    simp only [Contains, OnSide, Lacks] at isIn side lacks
    omega
  rcases lacks with ⟨rfl, rfl | rfl | rfl⟩ | ⟨rfl, rfl⟩
  all_goals
    refine outsideIsEarly_of_offsets large ?_ count (by omega) ?_ reached ?_
    · constructor <;> dsimp only <;> omega
    · intro outside offset notIn side
      simp only [Contains, OnSide] at notIn side
      omega
    · intro outside offset notIn side earlier
      simp only [Contains, OnSide] at notIn side
      omega

/-- The last pixel is on the side of high u. -/
theorem outsideIsEarly_highU : OutsideIsEarly
    ⟨radius - 1 - threeBefore, radius, radius - 1 - twoBefore, radius⟩ := by
  have count : size ⟨radius - 1 - threeBefore, radius, radius - 1 - twoBefore, radius⟩ =
      4 * (radius * radius) + (twoBefore * threeBefore -
        2 * radius * (twoBefore + threeBefore)) := by
    rw [size]
    ring
  have reached (pixel : Tuple2 ℤ) (offset : ℤ)
      (isIn : Contains ⟨radius - 1 - threeBefore, radius, radius - 1 - twoBefore, radius⟩ pixel)
      (side : OnSide radius pixel offset) : offset ≤ 4 * radius - 1 - threeBefore := by
    simp only [Contains, OnSide, Lacks] at isIn side lacks
    omega
  rcases lacks with ⟨rfl, rfl | rfl | rfl⟩ | ⟨rfl, rfl⟩
  all_goals
    refine outsideIsEarly_of_offsets large ?_ count (by omega) ?_ reached ?_
    · constructor <;> dsimp only <;> omega
    · intro outside offset notIn side
      simp only [Contains, OnSide] at notIn side
      omega
    · intro outside offset notIn side earlier
      simp only [Contains, OnSide] at notIn side
      omega

/-- The last pixel is on the side of low v. -/
theorem outsideIsEarly_lowV : OutsideIsEarly
    ⟨radius, radius - twoBefore, radius - 1 - threeBefore, radius⟩ := by
  have count : size ⟨radius, radius - twoBefore, radius - 1 - threeBefore, radius⟩ =
      4 * (radius * radius) + (twoBefore * threeBefore - threeBefore +
        2 * radius * (1 - twoBefore - threeBefore)) := by
    rw [size]
    ring
  have reached (pixel : Tuple2 ℤ) (offset : ℤ)
      (isIn : Contains ⟨radius, radius - twoBefore, radius - 1 - threeBefore, radius⟩ pixel)
      (side : OnSide radius pixel offset) : offset ≤ 6 * radius - 1 - threeBefore := by
    simp only [Contains, OnSide, Lacks] at isIn side lacks
    omega
  rcases lacks with ⟨rfl, rfl | rfl | rfl⟩ | ⟨rfl, rfl⟩
  all_goals
    refine outsideIsEarly_of_offsets large ?_ count (by omega) ?_ reached ?_
    · constructor <;> dsimp only <;> omega
    · intro outside offset notIn side
      simp only [Contains, OnSide] at notIn side
      omega
    · intro outside offset notIn side earlier
      simp only [Contains, OnSide] at notIn side
      omega

/-- The last pixel is on the side of low u. -/
theorem outsideIsEarly_lowU : OutsideIsEarly
    ⟨radius, radius - threeBefore, radius, radius - twoBefore⟩ := by
  have count : size ⟨radius, radius - threeBefore, radius, radius - twoBefore⟩ =
      4 * (radius * radius) + (1 - twoBefore - threeBefore + twoBefore * threeBefore +
        2 * radius * (2 - twoBefore - threeBefore)) := by
    rw [size]
    ring
  have reached (pixel : Tuple2 ℤ) (offset : ℤ)
      (isIn : Contains ⟨radius, radius - threeBefore, radius, radius - twoBefore⟩ pixel)
      (side : OnSide radius pixel offset) : offset ≤ 8 * radius - threeBefore := by
    simp only [Contains, OnSide, Lacks] at isIn side lacks
    omega
  rcases lacks with ⟨rfl, rfl | rfl | rfl⟩ | ⟨rfl, rfl⟩
  all_goals
    refine outsideIsEarly_of_offsets large ?_ count (by omega) ?_ reached ?_
    · constructor <;> dsimp only <;> omega
    · intro outside offset notIn side
      simp only [Contains, OnSide] at notIn side
      omega
    · intro outside offset notIn side earlier
      simp only [Contains, OnSide] at notIn side
      omega

end Nearly

/-- **The locations outside an image that is nearly the spiral come early.** -/
theorem outsideIsEarly_of_nearlySpiral (large : 3 ≤ radius) (nearly : reach.NearlySpiral radius) :
    reach.OutsideIsEarly := by
  obtain ⟨lowV, highV, lowU, highU⟩ := reach
  rcases nearly with ⟨side, before, lacks⟩ | ⟨side, before, lacks⟩ | ⟨side, before, lacks⟩ |
    ⟨side, before, lacks⟩
  all_goals
    dsimp only at side before lacks
    subst side before
  · simpa only [sub_sub_cancel] using outsideIsEarly_highV large lacks
  · simpa only [sub_sub_cancel] using outsideIsEarly_highU large lacks
  · simpa only [sub_sub_cancel] using outsideIsEarly_lowV large lacks
  · simpa only [sub_sub_cancel] using outsideIsEarly_lowU large lacks

/-! ## Images whose outside is early -/

/-- An image of few rows and columns is not large. -/
theorem not_lt_of_few {rows columns rowBound columnBound bound : ℤ} (nonneg : 0 ≤ rows)
    (columnsNonneg : 0 ≤ columns) (fewRows : rows ≤ rowBound) (fewColumns : columns ≤ columnBound)
    (small : rowBound * columnBound ≤ bound) : ¬ bound < rows * columns := by
  have product : rows * columns ≤ rowBound * columnBound :=
    mul_le_mul fewRows fewColumns columnsNonneg (nonneg.trans fewRows)
  omega

section Early

variable {lowV highV lowU highU : ℤ} (large : 3 ≤ radius)

include large

/-- The last pixel is on the side of low u. -/
theorem lacks_lowU (within : Within ⟨lowV, highV, radius, highU⟩ radius)
    (early : OutsideIsEarly ⟨lowV, highV, radius, highU⟩) :
    lowV = radius ∧ Lacks (radius - highU) (radius - highV) := by
  obtain ⟨inLowV, inHighV, -, inHighU⟩ := within
  simp only [OutsideIsEarly, Contains, size] at inLowV inHighV inHighU early
  have outer : 2 ≤ radius := by omega
  have last := visitNumber_lowU outer (by omega : -radius ≤ highV) inHighV.2
  have full : lowV = radius := by
    by_contra differs
    have less : lowV + 1 ≤ radius := by omega
    have gap := visitNumber_lowU outer (by omega : -radius ≤ -lowV - 1) (by omega)
    have first := early ⟨-lowV - 1, -radius⟩ (by dsimp only; omega) ⟨highV, -radius⟩
      (by dsimp only; omega) (by omega)
    rw [gap] at first
    exact not_lt_of_few (by omega) (by omega) (by omega : _ ≤ lowV + radius + 1)
      (by omega : _ ≤ 2 * radius + 1) (by nlinarith) first
  subst full
  refine ⟨rfl, ?_⟩
  by_cases side : highU = lowV
  · subst side
    by_contra lacking
    unfold Lacks at lacking
    have gap := visitNumber_highU outer (by omega : highV + 1 ≤ highU) (by omega)
    have first := early ⟨highV + 1, highU⟩ (by dsimp only; omega) ⟨highV, -highU⟩
      (by dsimp only; omega) (by omega)
    rw [gap] at first
    exact not_lt_of_few (by omega) (by omega) (by omega : _ ≤ 2 * highU - 2)
      (by omega : _ ≤ 2 * highU + 1) (by nlinarith) first
  · have less : highU + 1 ≤ lowV := by omega
    have gap := visitNumber_lowV outer less (by omega)
    have first := early ⟨-lowV, highU + 1⟩ (by dsimp only; omega) ⟨highV, -lowV⟩
      (by dsimp only; omega) (by omega)
    rw [gap] at first
    by_contra lacking
    unfold Lacks at lacking
    rcases lt_or_eq_of_le inHighV.2 with short | whole
    · exact not_lt_of_few (by omega) (by omega) (by omega : _ ≤ 2 * lowV)
        (by omega : _ ≤ 2 * lowV) (by nlinarith) first
    · exact not_lt_of_few (by omega) (by omega) (by omega : _ ≤ 2 * lowV + 1)
        (by omega : _ ≤ 2 * lowV - 1) (by nlinarith) first

/-- The last pixel is on the side of low v. -/
theorem lacks_lowV (within : Within ⟨radius, highV, lowU, highU⟩ radius) (short : lowU < radius)
    (early : OutsideIsEarly ⟨radius, highV, lowU, highU⟩) :
    highU = radius ∧ Lacks (radius - highV) (radius - 1 - lowU) := by
  obtain ⟨-, inHighV, inLowU, inHighU⟩ := within
  simp only [OutsideIsEarly, Contains, size] at inHighV inLowU inHighU early
  have outer : 2 ≤ radius := by omega
  have last := visitNumber_lowV outer (by omega : -lowU ≤ radius) (by omega)
  have full : highU = radius := by
    by_contra differs
    have less : highU + 1 ≤ radius := by omega
    have gap := visitNumber_lowV outer less (by omega)
    have first := early ⟨-radius, highU + 1⟩ (by dsimp only; omega) ⟨-radius, -lowU⟩
      (by dsimp only; omega) (by omega)
    rw [gap] at first
    exact not_lt_of_few (by omega) (by omega) (by omega : _ ≤ 2 * radius + 1)
      (by omega : _ ≤ radius + highU) (by nlinarith) first
  subst full
  refine ⟨rfl, ?_⟩
  by_contra lacking
  unfold Lacks at lacking
  rcases lt_or_eq_of_le inHighV.2 with less | whole
  · have gap := visitNumber_highU outer (by omega : highV + 1 ≤ highU) (by omega)
    have first := early ⟨highV + 1, highU⟩ (by dsimp only; omega) ⟨-highU, -lowU⟩
      (by dsimp only; omega) (by omega)
    rw [gap] at first
    rcases lt_or_ge highV (highU - 1) with shorter | one
    · exact not_lt_of_few (by omega) (by omega) (by omega : _ ≤ highU + highV + 1)
        (by omega : _ ≤ 2 * highU) (by nlinarith) first
    · exact not_lt_of_few (by omega) (by omega) (by omega : _ ≤ 2 * highU)
        (by omega : _ ≤ 2 * highU - 1) (by nlinarith) first
  · have gap := visitNumber_highV outer (by omega : -highU < -lowU - 1) (by omega)
    have first := early ⟨highU, -lowU - 1⟩ (by dsimp only; omega) ⟨-highU, -lowU⟩
      (by dsimp only; omega) (by omega)
    rw [gap] at first
    exact not_lt_of_few (by omega) (by omega) (by omega : _ ≤ 2 * highU + 1)
      (by omega : _ ≤ 2 * highU - 3) (by nlinarith) first

/-- The last pixel is on the side of high u. -/
theorem lacks_highU (within : Within ⟨lowV, highV, lowU, radius⟩ radius)
    (short : lowV < radius ∧ lowU < radius)
    (early : OutsideIsEarly ⟨lowV, highV, lowU, radius⟩) :
    highV = radius ∧ Lacks (radius - 1 - lowU) (radius - 1 - lowV) := by
  obtain ⟨inLowV, inHighV, inLowU, -⟩ := within
  simp only [OutsideIsEarly, Contains, size] at inLowV inHighV inLowU early
  have outer : 2 ≤ radius := by omega
  have last := visitNumber_highU outer (by omega : -lowV ≤ radius) (by omega)
  have full : highV = radius := by
    by_contra differs
    have less : highV + 1 ≤ radius := by omega
    have gap := visitNumber_highU outer less (by omega)
    have first := early ⟨highV + 1, radius⟩ (by dsimp only; omega) ⟨-lowV, radius⟩
      (by dsimp only; omega) (by omega)
    rw [gap] at first
    exact not_lt_of_few (by omega) (by omega) (by omega : _ ≤ radius + highV)
      (by omega : _ ≤ 2 * radius) (by nlinarith) first
  subst full
  refine ⟨rfl, ?_⟩
  by_contra lacking
  unfold Lacks at lacking
  rcases lt_or_ge lowU (highV - 1) with less | whole
  · have gap := visitNumber_highV outer (by omega : -highV < -lowU - 1) (by omega)
    have first := early ⟨highV, -lowU - 1⟩ (by dsimp only; omega) ⟨-lowV, highV⟩
      (by dsimp only; omega) (by omega)
    rw [gap] at first
    rcases lt_or_ge lowV (highV - 1) with shorter | one
    · exact not_lt_of_few (by omega) (by omega) (by omega : _ ≤ 2 * highV - 1)
        (by omega : _ ≤ lowU + highV + 1) (by nlinarith) first
    · have two : lowU + 3 ≤ highV := by omega
      exact not_lt_of_few (by omega) (by omega) (by omega : _ ≤ 2 * highV)
        (by omega : _ ≤ lowU + highV + 1) (by nlinarith) first
  · -- The location that is missing is on the ring before.
    have gap := visitNumber_lowU (by omega : 2 ≤ highV - 1) (by omega : -(highV - 1) ≤ -lowV - 1)
      (by omega)
    have first := early ⟨-lowV - 1, -(highV - 1)⟩ (by dsimp only; omega) ⟨-lowV, highV⟩
      (by dsimp only; omega) (by nlinarith)
    rw [gap] at first
    exact not_lt_of_few (by omega) (by omega) (by omega : _ ≤ 2 * highV - 3)
      (by omega : _ ≤ 2 * highV) (by nlinarith) first

/-- The last pixel is on the side of high v. -/
theorem lacks_highV (within : Within ⟨lowV, radius, lowU, highU⟩ radius)
    (short : lowV < radius ∧ lowU < radius ∧ highU < radius)
    (early : OutsideIsEarly ⟨lowV, radius, lowU, highU⟩) :
    lowU = radius - 1 ∧ Lacks (radius - 1 - lowV) (radius - 1 - highU) := by
  obtain ⟨inLowV, -, inLowU, inHighU⟩ := within
  simp only [OutsideIsEarly, Contains, size] at inLowV inLowU inHighU early
  have outer : 2 ≤ radius := by omega
  have last := visitNumber_highV outer (by omega : -radius < highU) (by omega)
  have full : lowU = radius - 1 := by
    by_contra differs
    have less : lowU + 2 ≤ radius := by omega
    have gap := visitNumber_highV outer (by omega : -radius < -lowU - 1) (by omega)
    have first := early ⟨radius, -lowU - 1⟩ (by dsimp only; omega) ⟨radius, highU⟩
      (by dsimp only; omega) (by omega)
    rw [gap] at first
    exact not_lt_of_few (by omega) (by omega) (by omega : _ ≤ 2 * radius)
      (by omega : _ ≤ lowU + radius) (by nlinarith) first
  refine ⟨full, ?_⟩
  by_contra lacking
  unfold Lacks at lacking
  -- The location that is missing is on the ring before.
  have inner : 2 ≤ radius - 1 := by omega
  rcases lt_or_ge lowV (radius - 1) with less | whole
  · have gap := visitNumber_lowU inner (by omega : -(radius - 1) ≤ -lowV - 1) (by omega)
    have first := early ⟨-lowV - 1, -(radius - 1)⟩ (by dsimp only; omega) ⟨radius, highU⟩
      (by dsimp only; omega) (by nlinarith)
    rw [gap] at first
    rcases lt_or_ge lowV (radius - 2) with shorter | one
    · exact not_lt_of_few (by omega) (by omega) (by omega : _ ≤ lowV + radius + 1)
        (by omega : _ ≤ 2 * radius - 1) (by nlinarith) first
    · exact not_lt_of_few (by omega) (by omega) (by omega : _ ≤ 2 * radius - 1)
        (by omega : _ ≤ 2 * radius - 2) (by nlinarith) first
  · have gap := visitNumber_lowV inner (by omega : highU + 1 ≤ radius - 1) (by omega)
    have first := early ⟨-(radius - 1), highU + 1⟩ (by dsimp only; omega) ⟨radius, highU⟩
      (by dsimp only; omega) (by nlinarith)
    rw [gap] at first
    exact not_lt_of_few (by omega) (by omega) (by omega : _ ≤ 2 * radius)
      (by omega : _ ≤ 2 * radius - 4) (by nlinarith) first

end Early

/-! ## The images whose outside is early -/

/-- The lines of an image inside the second ring, on one side. -/
def fewLines : List ℤ := [0, 1, 2]

/-- The images inside the second ring. -/
def smallReaches : List Reach :=
  fewLines.flatMap fun lowV => fewLines.flatMap fun highV => fewLines.flatMap fun lowU =>
    fewLines.map fun highU => ⟨lowV, highV, lowU, highU⟩

/-- The locations of the first two rings. -/
def firstRings : List (Tuple2 ℤ) :=
  [-2, -1, 0, 1, 2].flatMap fun v => [-2, -1, 0, 1, 2].map fun u => ⟨v, u⟩

theorem mem_smallReaches (within : reach.Within 2) : reach ∈ smallReaches := by
  obtain ⟨lowV, highV, lowU, highU⟩ := within
  have few : ∀ lines : ℤ, 0 ≤ lines ∧ lines ≤ 2 → lines ∈ fewLines := by
    intro lines inside
    simp only [fewLines, List.mem_cons, List.not_mem_nil, or_false]
    omega
  simp only [smallReaches, List.mem_flatMap, List.mem_map]
  exact ⟨_, few _ lowV, _, few _ highV, _, few _ lowU, _, few _ highU, rfl⟩

theorem mem_firstRings {location : Tuple2 ℤ} (near : ring location ≤ 2) :
    location ∈ firstRings := by
  have square := ring_square location
  have some_line : ∀ line : ℤ, -2 ≤ line ∧ line ≤ 2 → line ∈ ([-2, -1, 0, 1, 2] : List ℤ) := by
    intro line inside
    simp only [List.mem_cons, List.not_mem_nil, or_false]
    omega
  simp only [firstRings, List.mem_flatMap, List.mem_map]
  exact ⟨_, some_line _ (by omega), _, some_line _ (by omega), rfl⟩

/-- The number of the last pixel of an image inside the second ring. -/
def lastNumber (reach : Reach) : ℤ :=
  ((firstRings.filter fun pixel => reach.Contains pixel).map visitNumber).foldr max 0

theorem foldr_max_le_iff {numbers : List ℤ} {bound : ℤ} (nonneg : 0 ≤ bound) :
    numbers.foldr max 0 ≤ bound ↔ ∀ number ∈ numbers, number ≤ bound := by
  induction numbers with
  | nil => simpa using nonneg
  | cons number numbers ih => rw [List.foldr_cons, max_le_iff, ih, List.forall_mem_cons]

theorem lastNumber_le_iff (within : reach.Within 2) {bound : ℤ} (nonneg : 0 ≤ bound) :
    reach.lastNumber ≤ bound ↔ ∀ pixel, reach.Contains pixel → visitNumber pixel ≤ bound := by
  rw [lastNumber, foldr_max_le_iff nonneg, List.forall_mem_map]
  constructor
  · intro listed pixel isIn
    refine listed pixel (List.mem_filter.mpr ⟨mem_firstRings (within.ring_le isIn), ?_⟩)
    exact decide_eq_true isIn
  · intro all pixel member
    exact all pixel (of_decide_eq_true (List.mem_filter.mp member).2)

set_option maxRecDepth 10000 in
theorem smallReaches_early : ∀ reach ∈ smallReaches,
    (∀ outside ∈ firstRings, reach.size ≤ visitNumber outside → ¬ reach.Contains outside →
      reach.lastNumber ≤ visitNumber outside) ↔
    (reach ∈ nearest ∨ reach.NearlySpiral 2) := by
  decide +kernel

/-- Of the images inside the second ring it is known which they are. -/
theorem outsideIsEarly_iff_of_small (within : reach.Within 2) :
    reach.OutsideIsEarly ↔ reach ∈ nearest ∨ reach.NearlySpiral 2 := by
  rw [← smallReaches_early reach (mem_smallReaches within)]
  constructor
  · intro early outside _ late notIn
    rw [lastNumber_le_iff within (visitNumber_nonneg outside)]
    intro pixel isIn
    by_contra behind
    exact (early outside notIn pixel isIn (not_le.mp behind)).not_ge late
  · intro listed outside notIn pixel isIn earlier
    have outsideNear := (ring_le_of_visitNumber_lt earlier).trans (within.ring_le isIn)
    by_contra late
    have last := listed outside (mem_firstRings outsideNear) (not_lt.mp late) notIn
    rw [lastNumber_le_iff within (visitNumber_nonneg outside)] at last
    exact earlier.not_ge (last pixel isIn)

theorem nearlySpiral_of_outsideIsEarly (large : 3 ≤ radius) (within : reach.Within radius)
    (attained : reach.lowV = radius ∨ reach.highV = radius ∨ reach.lowU = radius ∨
      reach.highU = radius) (early : reach.OutsideIsEarly) : reach.NearlySpiral radius := by
  obtain ⟨lowV, highV, lowU, highU⟩ := reach
  have bounds := within
  obtain ⟨inLowV, inHighV, inLowU, inHighU⟩ := bounds
  dsimp only at attained inLowV inHighV inLowU inHighU
  by_cases lastLowU : lowU = radius
  · subst lastLowU
    obtain ⟨full, lacks⟩ := lacks_lowU large within early
    exact Or.inr (Or.inr (Or.inr ⟨rfl, full, lacks⟩))
  by_cases lastLowV : lowV = radius
  · subst lastLowV
    obtain ⟨full, lacks⟩ := lacks_lowV large within (by omega) early
    exact Or.inr (Or.inr (Or.inl ⟨rfl, full, lacks⟩))
  by_cases lastHighU : highU = radius
  · subst lastHighU
    obtain ⟨full, lacks⟩ := lacks_highU large within (by omega) early
    exact Or.inr (Or.inl ⟨rfl, full, lacks⟩)
  · obtain rfl : highV = radius := by omega
    obtain ⟨full, lacks⟩ := lacks_highV large within (by omega) early
    exact Or.inl ⟨rfl, full, lacks⟩

/-- The radius of an image that is nearly the spiral is one of the distances it reaches. -/
theorem NearlySpiral.attained (nearly : reach.NearlySpiral radius) :
    reach.lowV = radius ∨ reach.highV = radius ∨ reach.lowU = radius ∨ reach.highU = radius := by
  rcases nearly with ⟨side, -⟩ | ⟨side, -⟩ | ⟨side, -⟩ | ⟨side, -⟩
  · exact Or.inr (Or.inl side)
  · exact Or.inr (Or.inr (Or.inr side))
  · exact Or.inl side
  · exact Or.inr (Or.inr (Or.inl side))

theorem within_two_of_mem_nearest (near : reach ∈ nearest) : reach.Within 2 := by
  have all : ∀ reach ∈ nearest, (0 ≤ reach.lowV ∧ reach.lowV ≤ 2) ∧
      (0 ≤ reach.highV ∧ reach.highV ≤ 2) ∧ (0 ≤ reach.lowU ∧ reach.lowU ≤ 2) ∧
        0 ≤ reach.highU ∧ reach.highU ≤ 2 := by
    decide
  obtain ⟨lowV, highV, lowU, highU⟩ := all reach near
  exact ⟨lowV, highV, lowU, highU⟩

/-- **The locations outside an image come early if and only if the image is a first part of the
spiral, but for a few lines.** -/
theorem outsideIsEarly_iff
    (nonneg : (0 ≤ reach.lowV ∧ 0 ≤ reach.highV) ∧ 0 ≤ reach.lowU ∧ 0 ≤ reach.highU) :
    reach.OutsideIsEarly ↔ reach.FitsSpiral := by
  obtain ⟨radius, largest⟩ : ∃ radius,
      radius = max (max reach.lowV reach.highV) (max reach.lowU reach.highU) := ⟨_, rfl⟩
  have within : reach.Within radius :=
    ⟨by omega, by omega, by omega, by omega⟩
  rcases lt_or_ge radius 3 with small | large
  · have second : reach.Within 2 := ⟨by omega, by omega, by omega, by omega⟩
    rw [outsideIsEarly_iff_of_small second]
    refine or_congr_right ⟨fun nearly => ⟨2, le_refl _, nearly⟩, ?_⟩
    rintro ⟨other, outer, nearly⟩
    have attained := nearly.attained
    obtain rfl : other = 2 := by omega
    exact nearly
  · constructor
    · intro early
      exact Or.inr ⟨radius, by omega,
        nearlySpiral_of_outsideIsEarly large within (by omega) early⟩
    · rintro (near | ⟨other, outer, nearly⟩)
      · obtain ⟨lowV, highV, lowU, highU⟩ := within_two_of_mem_nearest near
        omega
      · rcases lt_or_ge other 3 with two | more
        · -- An image that reaches further than two lines is not one of the second ring.
          obtain rfl : other = 2 := by omega
          unfold NearlySpiral Lacks at nearly
          omega
        · exact outsideIsEarly_of_nearlySpiral more nearly

end Reach

end AthabascaRecon
