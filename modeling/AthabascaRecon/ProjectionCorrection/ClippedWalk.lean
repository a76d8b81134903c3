import AthabascaRecon.ProjectionCorrection.SpiralReach
import Mathlib.Data.Int.Interval
import Mathlib.Order.Interval.Finset.Nat

/-!
# The walk through an image

`GetNextLocation` skips the locations of the spiral that are outside the image, and its assertion
compares the number of steps with the number of pixels. So it returns all pixels of an image only
if no location outside the image stands on the spiral behind as many steps as there are pixels and
before the last pixel (`visitsWholeImage_iff_outsideIsEarly`). Few images are like that: those
that are the first part of the spiral, up to a few rows or columns (`visitsWholeImage_iff`).
-/

set_option autoImplicit false

namespace AthabascaRecon

open Foundation NeighborhoodWalker

/-! ## Calls of `GetNextLocation` -/

section Calls

variable {imageDims : Tuple2 ℕ} {startingPoint : Tuple2 ℤ}

/-- The first calls of `GetNextLocation` return every other pixel of the image once. -/
def VisitsWholeImage (imageDims : Tuple2 ℕ) (startingPoint : Tuple2 ℤ) : Prop :=
  ∃ locations last,
    calls getNextLocation (longProduct imageDims - 1) (new imageDims startingPoint) =
      .ok (locations, last) ∧
    locations.Nodup ∧
    ∀ location, location ∈ locations ↔ InsideImage imageDims location ∧ location ≠ startingPoint

/-- The locations outside the image that come before a pixel on the spiral come earlier than
there are pixels. -/
def OutsideIsEarly (imageDims : Tuple2 ℕ) (startingPoint : Tuple2 ℤ) : Prop :=
  ∀ outside, ¬ InsideImage imageDims outside → ∀ pixel, InsideImage imageDims pixel →
    visitFrom startingPoint outside < visitFrom startingPoint pixel →
    visitFrom startingPoint outside < longProduct imageDims

/-- The calls return the pixels in the order of the spiral. -/
theorem getNextLocation_ordered (imageDims : Tuple2 ℕ) (startingPoint : Tuple2 ℤ) :
    OrderedCalls getNextLocation (OnSpiral imageDims startingPoint)
      (fun walker => (walker.count : ℤ)) (visitFrom startingPoint) (InsideImage imageDims) := by
  constructor
  · intro walker location next onSpiral returned
    exact (found_of_getNextLocation onSpiral returned).1
  · intro walker location next onSpiral returned
    exact (found_of_getNextLocation onSpiral returned).2.2.isWanted
  · intro walker location next onSpiral returned
    exact (found_of_getNextLocation onSpiral returned).2.2.later
  · intro walker location next onSpiral returned
    exact (found_of_getNextLocation onSpiral returned).2.1
  · intro walker location next onSpiral returned
    exact (found_of_getNextLocation onSpiral returned).2.2.skipped

/-- A location outside the image that calls pass by comes earlier than there are pixels. -/
theorem outside_lt_of_passed {walker last : NeighborhoodWalker} {count : ℕ}
    {locations : List (Tuple2 ℤ)} (onSpiral : walker.OnSpiral imageDims startingPoint)
    (found : calls getNextLocation count walker = .ok (locations, last)) {outside : Tuple2 ℤ}
    (notInside : ¬ InsideImage imageDims outside)
    (after : walker.count < visitFrom startingPoint outside)
    (before : visitFrom startingPoint outside ≤ last.count) :
    visitFrom startingPoint outside < longProduct imageDims := by
  have step {walker next : NeighborhoodWalker} {location : Tuple2 ℤ}
      (onSpiral : walker.OnSpiral imageDims startingPoint)
      (found : walker.getNextLocation = .ok (location, next)) (other : Tuple2 ℤ)
      (after : walker.count < visitFrom startingPoint other)
      (before : visitFrom startingPoint other ≤ visitFrom startingPoint location) :
      ¬ InsideImage imageDims other → visitFrom startingPoint other < longProduct imageDims := by
    intro notInside
    obtain ⟨-, -, nextInside⟩ := found_of_getNextLocation onSpiral found
    have different : other ≠ location := by
      rintro rfl
      exact notInside nextInside.isWanted
    refine nextInside.allowed other after (lt_of_le_of_ne before ?_) notInside
    exact (visitFrom_injective startingPoint).ne different
  have passed := (getNextLocation_ordered imageDims startingPoint).passed onSpiral found step
    after before
  exact passed notInside

/-- The pixels of an image. -/
def imagePixels (imageDims : Tuple2 ℕ) : Finset (Tuple2 ℤ) :=
  (Finset.range imageDims.v ×ˢ Finset.range imageDims.u).image fun index =>
    ⟨(index.1 : ℤ), (index.2 : ℤ)⟩

theorem mem_imagePixels {location : Tuple2 ℤ} :
    location ∈ imagePixels imageDims ↔ InsideImage imageDims location := by
  simp only [imagePixels, Finset.mem_image, Finset.mem_product, Finset.mem_range, InsideImage,
    Prod.exists]
  constructor
  · rintro ⟨row, column, ⟨rowInside, columnInside⟩, rfl⟩
    dsimp only
    omega
  · rintro ⟨⟨nonnegV, nonnegU⟩, belowV, belowU⟩
    refine ⟨location.v.toNat, location.u.toNat, ⟨by omega, by omega⟩, ?_⟩
    rw [Int.toNat_of_nonneg nonnegV, Int.toNat_of_nonneg nonnegU]

theorem card_imagePixels : (imagePixels imageDims).card = longProduct imageDims := by
  rw [imagePixels, Finset.card_image_of_injective, Finset.card_product, Finset.card_range,
    Finset.card_range, longProduct]
  intro first second same
  simp only [Tuple2.mk.injEq, Nat.cast_inj] at same
  exact Prod.ext same.1 same.2

theorem card_otherPixels (inside : InsideImage imageDims startingPoint) :
    ((imagePixels imageDims).erase startingPoint).card = longProduct imageDims - 1 := by
  rw [Finset.card_erase_of_mem (mem_imagePixels.mpr inside), card_imagePixels]

/-- Calls that return return all other pixels. -/
theorem mem_iff_of_calls (inside : InsideImage imageDims startingPoint)
    {locations : List (Tuple2 ℤ)} {last : NeighborhoodWalker}
    (found : calls getNextLocation (longProduct imageDims - 1) (new imageDims startingPoint) =
      .ok (locations, last)) (location : Tuple2 ℤ) :
    location ∈ locations ↔ InsideImage imageDims location ∧ location ≠ startingPoint := by
  have ordered := getNextLocation_ordered imageDims startingPoint
  have onSpiral := new_onSpiral imageDims startingPoint
  have injective := visitFrom_injective startingPoint
  have others : locations.toFinset ⊆ (imagePixels imageDims).erase startingPoint := by
    intro location member
    obtain ⟨isInside, moved, -⟩ :=
      (ordered.mem_iff onSpiral found injective).mp (List.mem_toFinset.mp member)
    refine Finset.mem_erase.mpr ⟨?_, mem_imagePixels.mpr isInside⟩
    rintro rfl
    have fresh : ((new imageDims location).count : ℤ) = 0 := rfl
    rw [fresh, visitFrom_self] at moved
    omega
  have many : locations.toFinset.card = longProduct imageDims - 1 := by
    rw [List.toFinset_card_of_nodup (ordered.nodup onSpiral found injective),
      length_of_calls found]
  have all := Finset.eq_of_subset_of_card_le others (by rw [many, card_otherPixels inside])
  rw [← List.mem_toFinset, all, Finset.mem_erase, mem_imagePixels, and_comm]

/-- No call fails when the locations outside the image come early: all pixels would have been
returned before, and there are not enough of them. -/
theorem calls_ne_error (inside : InsideImage imageDims startingPoint)
    (early : OutsideIsEarly imageDims startingPoint) (failure : WalkFailure) :
    calls getNextLocation (longProduct imageDims - 1) (new imageDims startingPoint) ≠
      .error failure := by
  intro ended
  have ordered := getNextLocation_ordered imageDims startingPoint
  have onSpiral := new_onSpiral imageDims startingPoint
  have fresh : ((new imageDims startingPoint).count : ℤ) = 0 := rfl
  obtain ⟨earlier, fewer, locations, middle, before, failed⟩ := exists_failing_call ended
  obtain ⟨-, obstacle, notInside, later, many, none⟩ :=
    blocked_of_getNextLocation (ordered.invariant_last onSpiral before) failed
  have returned : (imagePixels imageDims).erase startingPoint ⊆ locations.toFinset := by
    intro pixel member
    obtain ⟨moved, isInside⟩ := Finset.mem_erase.mp member
    rw [mem_imagePixels] at isInside
    have near : visitFrom startingPoint pixel ≤ visitFrom startingPoint obstacle := by
      by_contra far
      have := early obstacle notInside pixel isInside (not_le.mp far)
      omega
    have positive := visitFrom_pos moved
    rw [List.mem_toFinset, ordered.mem_iff onSpiral before (visitFrom_injective startingPoint)]
    refine ⟨isInside, by omega, ?_⟩
    by_contra beyond
    exact none pixel (not_le.mp beyond) near isInside
  have enough := Finset.card_le_card returned
  have few := List.toFinset_card_le locations
  rw [card_otherPixels inside] at enough
  rw [length_of_calls before] at few
  omega

/-- **The walk returns every pixel if and only if the locations outside the image that come
before a pixel come early.** -/
theorem visitsWholeImage_iff_outsideIsEarly (inside : InsideImage imageDims startingPoint) :
    VisitsWholeImage imageDims startingPoint ↔ OutsideIsEarly imageDims startingPoint := by
  have ordered := getNextLocation_ordered imageDims startingPoint
  have onSpiral := new_onSpiral imageDims startingPoint
  have injective := visitFrom_injective startingPoint
  have fresh : ((new imageDims startingPoint).count : ℤ) = 0 := rfl
  constructor
  · rintro ⟨locations, last, found, -, whole⟩ outside notInside pixel isInside earlier
    have started : outside ≠ startingPoint := by
      rintro rfl
      exact notInside inside
    have positive := visitFrom_pos started
    have moved : pixel ≠ startingPoint := by
      rintro rfl
      rw [visitFrom_self] at earlier
      omega
    have returned := (whole pixel).mpr ⟨isInside, moved⟩
    have reached := ((ordered.mem_iff onSpiral found injective).mp returned).2.2
    exact outside_lt_of_passed onSpiral found notInside (by omega) (by omega)
  · intro early
    cases found : calls getNextLocation (longProduct imageDims - 1)
        (new imageDims startingPoint) with
    | ok served =>
      obtain ⟨locations, last⟩ := served
      exact ⟨locations, last, found, ordered.nodup onSpiral found injective,
        mem_iff_of_calls inside found⟩
    | error failure => exact absurd found (calls_ne_error inside early failure)

end Calls

/-! ## The images whose pixels are all returned -/

section WholeImage

variable {imageDims : Tuple2 ℕ} {startingPoint : Tuple2 ℤ}

/-- How far an image reaches from a starting point. -/
def reachFrom (imageDims : Tuple2 ℕ) (startingPoint : Tuple2 ℤ) : Reach where
  lowV := startingPoint.v
  highV := imageDims.v - 1 - startingPoint.v
  lowU := startingPoint.u
  highU := imageDims.u - 1 - startingPoint.u

theorem reachFrom_contains_iff {location : Tuple2 ℤ} :
    (reachFrom imageDims startingPoint).Contains
        ⟨location.v - startingPoint.v, location.u - startingPoint.u⟩ ↔
      InsideImage imageDims location := by
  simp only [Reach.Contains, reachFrom, InsideImage]
  omega

theorem size_reachFrom :
    (reachFrom imageDims startingPoint).size = longProduct imageDims := by
  simp only [Reach.size, reachFrom, longProduct]
  push_cast
  ring

theorem outsideIsEarly_iff_reachFrom :
    OutsideIsEarly imageDims startingPoint ↔
      (reachFrom imageDims startingPoint).OutsideIsEarly := by
  constructor
  · intro early outside notIn pixel isIn earlier
    have absolute (location : Tuple2 ℤ) : (⟨location.v + startingPoint.v - startingPoint.v,
        location.u + startingPoint.u - startingPoint.u⟩ : Tuple2 ℤ) = location := by
      rw [add_sub_cancel_right, add_sub_cancel_right]
    have outsideThere := early ⟨outside.v + startingPoint.v, outside.u + startingPoint.u⟩
    have pixelThere := outsideThere (by rwa [← reachFrom_contains_iff, absolute])
      ⟨pixel.v + startingPoint.v, pixel.u + startingPoint.u⟩
    rw [← reachFrom_contains_iff, visitFrom, visitFrom, absolute, absolute] at pixelThere
    rw [size_reachFrom]
    exact pixelThere isIn earlier
  · intro early outside notInside pixel isInside earlier
    rw [← @size_reachFrom imageDims startingPoint]
    exact early _ (reachFrom_contains_iff.not.mpr notInside) _
      (reachFrom_contains_iff.mpr isInside) earlier

/-- **The first calls of `GetNextLocation` return every other pixel once if and only if the image
is a first part of the spiral, but for a few lines.** -/
theorem visitsWholeImage_iff (inside : InsideImage imageDims startingPoint) :
    VisitsWholeImage imageDims startingPoint ↔
      (reachFrom imageDims startingPoint).FitsSpiral := by
  rw [visitsWholeImage_iff_outsideIsEarly inside, outsideIsEarly_iff_reachFrom]
  apply Reach.outsideIsEarly_iff
  unfold InsideImage at inside
  simp only [reachFrom]
  omega

/-- Four rows of three columns are a first part of the spiral around the middle of the second. -/
theorem visitsWholeImage_fourRows :
    InsideImage ⟨4, 3⟩ ⟨1, 1⟩ ∧ VisitsWholeImage ⟨4, 3⟩ ⟨1, 1⟩ := by
  have fits : (reachFrom ⟨4, 3⟩ ⟨1, 1⟩).FitsSpiral := Or.inr ⟨2, le_rfl, by decide⟩
  exact ⟨by decide, (visitsWholeImage_iff (by decide)).mpr fits⟩

/-- In a row of three pixels the walk from the first one is stopped outside the image. -/
theorem not_visitsWholeImage_row :
    InsideImage ⟨1, 3⟩ ⟨0, 0⟩ ∧ ¬ VisitsWholeImage ⟨1, 3⟩ ⟨0, 0⟩ := by
  have inside : InsideImage ⟨1, 3⟩ ⟨0, 0⟩ := by decide
  refine ⟨inside, fun whole => ?_⟩
  have early := (visitsWholeImage_iff_outsideIsEarly inside).mp whole
  have third := early ⟨-1, 0⟩ (by decide) ⟨0, 2⟩ (by decide) (by decide)
  exact absurd third (by decide)

end WholeImage

end AthabascaRecon
