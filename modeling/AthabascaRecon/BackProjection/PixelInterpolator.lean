import AthabascaRecon.Bonelab.Image
import Mathlib.Data.Rat.Floor

/-!
# Interpolation of pixels

The three interpolators that a back projector may use. How a pixel is read is a
parameter: `interpolate` reads without a check, as the code does when it is compiled
without range checking, and `checkedInterpolate` reads with one and has no result when
an index is outside the image. For images with pixels and positive spacings, no check
fails, and an interpolated value lies between the pixels around a point
(`pixelInterpolators_correct`).
-/

set_option autoImplicit false

namespace AthabascaRecon

variable {Space : Type} [Field Space] [LinearOrder Space]

namespace NearestNeighborPixelInterpolator

/-- Whether `Interpolate` returns zero at once. -/
def Outside (image : Image2 Space) (u : Tuple2 Space) : Prop :=
  u.v ≤ image.exteriorExtents.v.lower ∨ image.exteriorExtents.v.upper ≤ u.v ∨
    u.u ≤ image.exteriorExtents.u.lower ∨ image.exteriorExtents.u.upper ≤ u.u

instance (image : Image2 Space) (u : Tuple2 Space) : Decidable (Outside image u) :=
  inferInstanceAs (Decidable (_ ∨ _ ∨ _ ∨ _))

variable [FloorRing Space]

/-- `Interpolate`, for a way to read pixels. -/
def interpolateWith {m : Type → Type} [Monad m] (read : ℤ → ℤ → m Space)
    (image : Image2 Space) (u : Tuple2 Space) : m Space :=
  if Outside image u then pure 0
  else
    let index0 := nearestIndex image.spacing.v image.origin.v u.v
    let index1 := nearestIndex image.spacing.u image.origin.u u.u
    read index0 index1

def interpolate (image : Image2 Space) (u : Tuple2 Space) : Space :=
  Id.run (interpolateWith (fun i j => pure (image.pixel i j)) image u)

def checkedInterpolate (image : Image2 Space) (u : Tuple2 Space) : Option Space :=
  interpolateWith image.checkedPixel image u

end NearestNeighborPixelInterpolator

namespace BilinearPixelInterpolator

/-- Whether `Interpolate` returns zero at once. -/
def Outside (image : Image2 Space) (u : Tuple2 Space) : Prop :=
  u.v ≤ image.interiorExtents.v.lower ∨ image.interiorExtents.v.upper ≤ u.v ∨
    u.u ≤ image.interiorExtents.u.lower ∨ image.interiorExtents.u.upper ≤ u.u

instance (image : Image2 Space) (u : Tuple2 Space) : Decidable (Outside image u) :=
  inferInstanceAs (Decidable (_ ∨ _ ∨ _ ∨ _))

variable [FloorRing Space]

/-- The weighted mean of the four pixels around a point. -/
def blendWith {m : Type → Type} [Monad m] (read : ℤ → ℤ → m Space)
    (image : Image2 Space) (u : Tuple2 Space) : m Space := do
  let index_fp0 := (u.v - image.origin.v) / image.spacing.v
  let index_fp1 := (u.u - image.origin.u) / image.spacing.u
  let index0 := ⌊index_fp0⌋
  let index1 := ⌊index_fp1⌋
  let s0 := index_fp0 - ⌊index_fp0⌋
  let s1 := index_fp1 - ⌊index_fp1⌋
  let t0 := (1 - s1) * (← read index0 index1) + s1 * (← read index0 (index1 + 1))
  let t1 := (1 - s1) * (← read (index0 + 1) index1) + s1 * (← read (index0 + 1) (index1 + 1))
  return (1 - s0) * t0 + s0 * t1

/-- `Interpolate`, for a way to read pixels. -/
def interpolateWith {m : Type → Type} [Monad m] (read : ℤ → ℤ → m Space)
    (image : Image2 Space) (u : Tuple2 Space) : m Space :=
  if Outside image u then pure 0 else blendWith read image u

def interpolate (image : Image2 Space) (u : Tuple2 Space) : Space :=
  Id.run (interpolateWith (fun i j => pure (image.pixel i j)) image u)

def checkedInterpolate (image : Image2 Space) (u : Tuple2 Space) : Option Space :=
  interpolateWith image.checkedPixel image u

end BilinearPixelInterpolator

namespace BilinearPixelInterpolatorWithFallback

variable [FloorRing Space]

/-- `Interpolate`, for a way to read pixels. The test is the one of the bilinear
interpolator, and so is the mean. -/
def interpolateWith {m : Type → Type} [Monad m] (read : ℤ → ℤ → m Space)
    (image : Image2 Space) (u : Tuple2 Space) : m Space :=
  if BilinearPixelInterpolator.Outside image u then
    NearestNeighborPixelInterpolator.interpolateWith read image u
  else BilinearPixelInterpolator.blendWith read image u

def interpolate (image : Image2 Space) (u : Tuple2 Space) : Space :=
  Id.run (interpolateWith (fun i j => pure (image.pixel i j)) image u)

def checkedInterpolate (image : Image2 Space) (u : Tuple2 Space) : Option Space :=
  interpolateWith image.checkedPixel image u

end BilinearPixelInterpolatorWithFallback

/-- An image with pixels, and with positive spacings. -/
structure Image2.WellFormed (image : Image2 Space) : Prop where
  rows : 0 < image.dims.v
  columns : 0 < image.dims.u
  spacingRows : 0 < image.spacing.v
  spacingColumns : 0 < image.spacing.u

variable [IsStrictOrderedRing Space] [FloorRing Space]
variable {image : Image2 Space} {u : Tuple2 Space}

/-! ## The nearest pixel -/

namespace NearestNeighborPixelInterpolator

/-- The index of the pixel that is read. -/
def nearest (image : Image2 Space) (u : Tuple2 Space) : ℤ × ℤ :=
  (nearestIndex image.spacing.v image.origin.v u.v,
    nearestIndex image.spacing.u image.origin.u u.u)

omit [IsStrictOrderedRing Space] in
theorem interpolate_of_outside (outside : Outside image u) : interpolate image u = 0 := by
  rw [interpolate, interpolateWith, if_pos outside]
  rfl

omit [IsStrictOrderedRing Space] in
theorem interpolate_of_inside (inside : ¬ Outside image u) :
    interpolate image u = image.pixel (nearest image u).1 (nearest image u).2 := by
  rw [interpolate, interpolateWith, if_neg inside]
  rfl

theorem nearest_mem (wellFormed : image.WellFormed) (inside : ¬ Outside image u) :
    image.Contains (nearest image u).1 (nearest image u).2 := by
  simp only [Outside, not_or, not_le] at inside
  obtain ⟨aboveV, belowV, aboveU, belowU⟩ := inside
  exact ⟨nearestIndex_mem_of_exterior wellFormed.spacingRows aboveV belowV,
    nearestIndex_mem_of_exterior wellFormed.spacingColumns aboveU belowU⟩

theorem checkedInterpolate_eq (wellFormed : image.WellFormed) :
    checkedInterpolate image u = some (interpolate image u) := by
  by_cases outside : Outside image u
  · rw [interpolate_of_outside outside, checkedInterpolate, interpolateWith, if_pos outside]
    rfl
  · rw [interpolate_of_inside outside, checkedInterpolate, interpolateWith, if_neg outside]
    exact image.checkedPixel_eq_some (nearest_mem wellFormed outside)

/-- Inside the exterior extents the value is that of a pixel not farther than half a
pixel on each axis. -/
theorem exists_pixel (wellFormed : image.WellFormed) (inside : ¬ Outside image u) :
    ∃ i j : ℤ, image.Contains i j ∧ interpolate image u = image.pixel i j ∧
      |u.v - (image.origin.v + (i : Space) * image.spacing.v)| ≤ image.spacing.v / 2 ∧
      |u.u - (image.origin.u + (j : Space) * image.spacing.u)| ≤ image.spacing.u / 2 := by
  refine ⟨_, _, nearest_mem wellFormed inside, interpolate_of_inside inside, ?_⟩
  simp only [Outside, not_or, not_le] at inside
  obtain ⟨aboveV, belowV, aboveU, belowU⟩ := inside
  exact ⟨abs_sub_nearestIndex_le wellFormed.spacingRows aboveV belowV,
    abs_sub_nearestIndex_le wellFormed.spacingColumns aboveU belowU⟩

end NearestNeighborPixelInterpolator

/-! ## The mean of four pixels -/

/-- A mean of two values. -/
def lerp (s a b : Space) : Space := (1 - s) * a + s * b

omit [FloorRing Space] in
theorem min_le_lerp {s a b : Space} (nonneg : 0 ≤ s) (le_one : s ≤ 1) :
    min a b ≤ lerp s a b := by
  have first := mul_le_mul_of_nonneg_left (min_le_left a b) (sub_nonneg.mpr le_one)
  have second := mul_le_mul_of_nonneg_left (min_le_right a b) nonneg
  calc min a b = (1 - s) * min a b + s * min a b := by ring
    _ ≤ lerp s a b := add_le_add first second

omit [FloorRing Space] in
theorem lerp_le_max {s a b : Space} (nonneg : 0 ≤ s) (le_one : s ≤ 1) :
    lerp s a b ≤ max a b := by
  have first := mul_le_mul_of_nonneg_left (le_max_left a b) (sub_nonneg.mpr le_one)
  have second := mul_le_mul_of_nonneg_left (le_max_right a b) nonneg
  calc lerp s a b ≤ (1 - s) * max a b + s * max a b := add_le_add first second
    _ = max a b := by ring

omit [FloorRing Space] in
theorem lerp_mono {s a b a' b' : Space} (nonneg : 0 ≤ s) (le_one : s ≤ 1) (left : a ≤ a')
    (right : b ≤ b') : lerp s a b ≤ lerp s a' b' :=
  add_le_add (mul_le_mul_of_nonneg_left left (sub_nonneg.mpr le_one))
    (mul_le_mul_of_nonneg_left right nonneg)

namespace BilinearPixelInterpolator

/-- The index of the first of the four pixels around a point. -/
def corner (image : Image2 Space) (u : Tuple2 Space) : ℤ × ℤ :=
  (⌊fractionalIndex image.spacing.v image.origin.v u.v⌋,
    ⌊fractionalIndex image.spacing.u image.origin.u u.u⌋)

/-- One of the four pixels around a point. -/
def neighbour (image : Image2 Space) (u : Tuple2 Space) (di dj : ℤ) : Space :=
  image.pixel ((corner image u).1 + di) ((corner image u).2 + dj)

/-- The weighted mean of the four pixels around a point. -/
def blend (image : Image2 Space) (u : Tuple2 Space) : Space :=
  lerp (Int.fract (fractionalIndex image.spacing.v image.origin.v u.v))
    (lerp (Int.fract (fractionalIndex image.spacing.u image.origin.u u.u))
      (neighbour image u 0 0) (neighbour image u 0 1))
    (lerp (Int.fract (fractionalIndex image.spacing.u image.origin.u u.u))
      (neighbour image u 1 0) (neighbour image u 1 1))

omit [IsStrictOrderedRing Space] in
theorem blendWith_eq :
    Id.run (blendWith (fun i j => pure (image.pixel i j)) image u) = blend image u := by
  simp only [blend, lerp, neighbour, corner, add_zero]
  rfl

omit [IsStrictOrderedRing Space] in
theorem interpolate_of_outside (outside : Outside image u) : interpolate image u = 0 := by
  rw [interpolate, interpolateWith, if_pos outside]
  rfl

omit [IsStrictOrderedRing Space] in
theorem interpolate_of_inside (inside : ¬ Outside image u) :
    interpolate image u = blend image u := by
  rw [interpolate, interpolateWith, if_neg inside, blendWith_eq]

/-- The four pixels around a point of the interior are pixels of the image. -/
theorem neighbour_mem (wellFormed : image.WellFormed) (inside : ¬ Outside image u) {di dj : ℤ}
    (rows : 0 ≤ di ∧ di ≤ 1) (columns : 0 ≤ dj ∧ dj ≤ 1) :
    image.Contains ((corner image u).1 + di) ((corner image u).2 + dj) := by
  simp only [Outside, not_or, not_le] at inside
  obtain ⟨aboveV, belowV, aboveU, belowU⟩ := inside
  have cornerV := floor_mem_of_interior wellFormed.spacingRows aboveV belowV
  have cornerU := floor_mem_of_interior wellFormed.spacingColumns aboveU belowU
  simp only [corner, Image2.Contains]
  omega

theorem checkedBlend_eq (wellFormed : image.WellFormed) (inside : ¬ Outside image u) :
    blendWith image.checkedPixel image u = some (blend image u) := by
  have read {di dj : ℤ} (rows : 0 ≤ di ∧ di ≤ 1) (columns : 0 ≤ dj ∧ dj ≤ 1) :
      image.checkedPixel ((corner image u).1 + di) ((corner image u).2 + dj) =
        some (neighbour image u di dj) :=
    image.checkedPixel_eq_some (neighbour_mem wellFormed inside rows columns)
  have first := @read 0 0 (by omega) (by omega)
  have second := @read 0 1 (by omega) (by omega)
  have third := @read 1 0 (by omega) (by omega)
  have fourth := @read 1 1 (by omega) (by omega)
  simp only [corner, fractionalIndex, add_zero] at first second third fourth
  simp only [blendWith, first, second, third, fourth]
  rfl

theorem checkedInterpolate_eq (wellFormed : image.WellFormed) :
    checkedInterpolate image u = some (interpolate image u) := by
  by_cases outside : Outside image u
  · rw [interpolate_of_outside outside, checkedInterpolate, interpolateWith, if_pos outside]
    rfl
  · rw [interpolate_of_inside outside, checkedInterpolate, interpolateWith, if_neg outside]
    exact checkedBlend_eq wellFormed outside

/-- The least of the four pixels around a point. -/
def least (image : Image2 Space) (u : Tuple2 Space) : Space :=
  min (min (neighbour image u 0 0) (neighbour image u 0 1))
    (min (neighbour image u 1 0) (neighbour image u 1 1))

/-- The greatest of the four pixels around a point. -/
def greatest (image : Image2 Space) (u : Tuple2 Space) : Space :=
  max (max (neighbour image u 0 0) (neighbour image u 0 1))
    (max (neighbour image u 1 0) (neighbour image u 1 1))

theorem least_le_blend : least image u ≤ blend image u := by
  have row (di : ℤ) := @min_le_lerp _ _ _ _
    (Int.fract (fractionalIndex image.spacing.u image.origin.u u.u))
    (neighbour image u di 0) (neighbour image u di 1) (Int.fract_nonneg _) (Int.fract_lt_one _).le
  exact (min_le_lerp (Int.fract_nonneg _) (Int.fract_lt_one _).le).trans
    (lerp_mono (Int.fract_nonneg _) (Int.fract_lt_one _).le (row 0) (row 1))

theorem blend_le_greatest : blend image u ≤ greatest image u := by
  have row (di : ℤ) := @lerp_le_max _ _ _ _
    (Int.fract (fractionalIndex image.spacing.u image.origin.u u.u))
    (neighbour image u di 0) (neighbour image u di 1) (Int.fract_nonneg _) (Int.fract_lt_one _).le
  exact (lerp_mono (Int.fract_nonneg _) (Int.fract_lt_one _).le (row 0) (row 1)).trans
    (lerp_le_max (Int.fract_nonneg _) (Int.fract_lt_one _).le)

/-- Where the pixels are an affine function of their indices, so is the mean. -/
theorem blend_affine (wellFormed : image.WellFormed) (inside : ¬ Outside image u) {a b c : Space}
    (affine : ∀ i j : ℤ, image.Contains i j → image.pixel i j = a + b * i + c * j) :
    blend image u = a + b * fractionalIndex image.spacing.v image.origin.v u.v +
      c * fractionalIndex image.spacing.u image.origin.u u.u := by
  have value {di dj : ℤ} (rows : 0 ≤ di ∧ di ≤ 1) (columns : 0 ≤ dj ∧ dj ≤ 1) :
      neighbour image u di dj =
        a + b * ((corner image u).1 + di : ℤ) + c * ((corner image u).2 + dj : ℤ) :=
    affine _ _ (neighbour_mem wellFormed inside rows columns)
  rw [blend, @value 0 0 (by omega) (by omega), @value 0 1 (by omega) (by omega),
    @value 1 0 (by omega) (by omega), @value 1 1 (by omega) (by omega)]
  simp only [lerp, corner, Int.fract]
  push_cast
  ring

end BilinearPixelInterpolator

/-! ## The bilinear interpolator with fallback -/

namespace BilinearPixelInterpolatorWithFallback

open BilinearPixelInterpolator (Outside)

omit [IsStrictOrderedRing Space] in
theorem interpolate_of_outside (outside : Outside image u) :
    interpolate image u = NearestNeighborPixelInterpolator.interpolate image u := by
  rw [interpolate, interpolateWith, if_pos outside]
  rfl

omit [IsStrictOrderedRing Space] in
theorem interpolate_of_inside (inside : ¬ Outside image u) :
    interpolate image u = BilinearPixelInterpolator.interpolate image u := by
  rw [BilinearPixelInterpolator.interpolate_of_inside inside, interpolate, interpolateWith,
    if_neg inside, BilinearPixelInterpolator.blendWith_eq]

theorem checkedInterpolate_eq (wellFormed : image.WellFormed) :
    checkedInterpolate image u = some (interpolate image u) := by
  by_cases outside : Outside image u
  · rw [interpolate_of_outside outside, checkedInterpolate, interpolateWith, if_pos outside]
    exact NearestNeighborPixelInterpolator.checkedInterpolate_eq wellFormed
  · rw [interpolate_of_inside outside, BilinearPixelInterpolator.interpolate_of_inside outside,
      checkedInterpolate, interpolateWith, if_neg outside]
    exact BilinearPixelInterpolator.checkedBlend_eq wellFormed outside

end BilinearPixelInterpolatorWithFallback

/-- **The interpolators read only pixels of the image, and interpolate.** -/
theorem pixelInterpolators_correct (wellFormed : image.WellFormed) (u : Tuple2 Space) :
    (NearestNeighborPixelInterpolator.checkedInterpolate image u =
        some (NearestNeighborPixelInterpolator.interpolate image u) ∧
      BilinearPixelInterpolator.checkedInterpolate image u =
        some (BilinearPixelInterpolator.interpolate image u) ∧
      BilinearPixelInterpolatorWithFallback.checkedInterpolate image u =
        some (BilinearPixelInterpolatorWithFallback.interpolate image u)) ∧
    ((NearestNeighborPixelInterpolator.Outside image u →
        NearestNeighborPixelInterpolator.interpolate image u = 0) ∧
      (¬ NearestNeighborPixelInterpolator.Outside image u →
        ∃ i j : ℤ, image.Contains i j ∧
          NearestNeighborPixelInterpolator.interpolate image u = image.pixel i j ∧
          |u.v - (image.origin.v + (i : Space) * image.spacing.v)| ≤ image.spacing.v / 2 ∧
          |u.u - (image.origin.u + (j : Space) * image.spacing.u)| ≤ image.spacing.u / 2)) ∧
    ((BilinearPixelInterpolator.Outside image u →
        BilinearPixelInterpolator.interpolate image u = 0) ∧
      (¬ BilinearPixelInterpolator.Outside image u →
        BilinearPixelInterpolator.least image u ≤ BilinearPixelInterpolator.interpolate image u ∧
          BilinearPixelInterpolator.interpolate image u ≤
            BilinearPixelInterpolator.greatest image u ∧
          ∀ a b c : Space,
            (∀ i j : ℤ, image.Contains i j → image.pixel i j = a + b * i + c * j) →
            BilinearPixelInterpolator.interpolate image u =
              a + b * fractionalIndex image.spacing.v image.origin.v u.v +
                c * fractionalIndex image.spacing.u image.origin.u u.u)) ∧
    ((BilinearPixelInterpolator.Outside image u →
        BilinearPixelInterpolatorWithFallback.interpolate image u =
          NearestNeighborPixelInterpolator.interpolate image u) ∧
      (¬ BilinearPixelInterpolator.Outside image u →
        BilinearPixelInterpolatorWithFallback.interpolate image u =
          BilinearPixelInterpolator.interpolate image u)) := by
  refine ⟨⟨?_, ?_, ?_⟩, ⟨?_, ?_⟩, ⟨?_, ?_⟩, ?_, ?_⟩
  · exact NearestNeighborPixelInterpolator.checkedInterpolate_eq wellFormed
  · exact BilinearPixelInterpolator.checkedInterpolate_eq wellFormed
  · exact BilinearPixelInterpolatorWithFallback.checkedInterpolate_eq wellFormed
  · exact NearestNeighborPixelInterpolator.interpolate_of_outside
  · exact NearestNeighborPixelInterpolator.exists_pixel wellFormed
  · exact BilinearPixelInterpolator.interpolate_of_outside
  · intro inside
    rw [BilinearPixelInterpolator.interpolate_of_inside inside]
    refine ⟨BilinearPixelInterpolator.least_le_blend,
      BilinearPixelInterpolator.blend_le_greatest, ?_⟩
    intro a b c affine
    exact BilinearPixelInterpolator.blend_affine wellFormed inside affine
  · exact BilinearPixelInterpolatorWithFallback.interpolate_of_outside
  · exact BilinearPixelInterpolatorWithFallback.interpolate_of_inside

/-- Two by two pixels that grow along both axes. -/
def twoByTwo : Image2 ℚ where
  dims := ⟨2, 2⟩
  spacing := ⟨1, 1⟩
  origin := ⟨0, 0⟩
  pixel i j := 1 + 2 * i + 4 * j

theorem twoByTwo_interpolate :
    BilinearPixelInterpolatorWithFallback.interpolate twoByTwo ⟨1 / 2, 1 / 4⟩ = 3 := by
  have wellFormed : twoByTwo.WellFormed :=
    ⟨by decide, by decide, by norm_num [twoByTwo], by norm_num [twoByTwo]⟩
  have inside : ¬ BilinearPixelInterpolator.Outside twoByTwo ⟨1 / 2, 1 / 4⟩ := by
    simp only [BilinearPixelInterpolator.Outside, Image2.interiorExtents, interiorExtent, twoByTwo]
    norm_num
  obtain ⟨-, -, ⟨-, bilinear⟩, -, fallback⟩ :=
    pixelInterpolators_correct wellFormed ⟨1 / 2, 1 / 4⟩
  obtain ⟨-, -, affine⟩ := bilinear inside
  rw [fallback inside, affine 1 2 4 fun i j _ => rfl]
  norm_num [fractionalIndex, twoByTwo]

end AthabascaRecon
