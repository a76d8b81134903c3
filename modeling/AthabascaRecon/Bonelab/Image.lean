import Mathlib.Algebra.Order.Field.Basic
import Mathlib.Algebra.Order.Floor.Ring
import Mathlib.Tactic.FieldSimp
import Mathlib.Tactic.Linarith
import Mathlib.Tactic.Ring

/-!
# Images

An image has a spacing and an origin besides its pixels. The extents are calculated from
them: the interior extents reach from the centre of the first pixel of an axis to the
centre of the last one, and the exterior extents half a pixel further. The index of a
point inside the extents is an index of the image (`floor_mem_of_interior`,
`nearestIndex_mem_of_exterior`).
-/

set_option autoImplicit false

namespace AthabascaRecon

/-- `bonelab::Tuple<2,T>`, for an image whose rows lie along v and columns along u. -/
structure Tuple2 (α : Type*) where
  v : α
  u : α
  deriving DecidableEq, Repr

/-- The minimum and the maximum of an extent. -/
structure Extent (Space : Type*) where
  lower : Space
  upper : Space

variable {Space : Type*} [Field Space]

/-- The interior extent that `calculate_extents` finds for an axis. -/
def interiorExtent (dims : ℕ) (spacing origin : Space) : Extent Space where
  lower := origin
  upper := origin + ((dims : Space) - 1) * spacing

/-- The exterior extent that `calculate_extents` finds for an axis. -/
def exteriorExtent (dims : ℕ) (spacing origin : Space) : Extent Space where
  lower := (interiorExtent dims spacing origin).lower - 1 / 2 * spacing
  upper := (interiorExtent dims spacing origin).upper + 1 / 2 * spacing

/-- The constant 0.5. -/
def oneHalf (Space : Type*) [Field Space] : Space := 1 / 2

/-- `bonelab::Image<2,TValue,TIndex,TSpace>`. Reading a pixel adds its index to the base
of the data without a check, so `pixel` also has values outside the image. -/
structure Image2 (Space : Type*) where
  dims : Tuple2 ℕ
  spacing : Tuple2 Space
  origin : Tuple2 Space
  pixel : ℤ → ℤ → Space

namespace Image2

variable (image : Image2 Space)

def interiorExtents : Tuple2 (Extent Space) where
  v := interiorExtent image.dims.v image.spacing.v image.origin.v
  u := interiorExtent image.dims.u image.spacing.u image.origin.u

def exteriorExtents : Tuple2 (Extent Space) where
  v := exteriorExtent image.dims.v image.spacing.v image.origin.v
  u := exteriorExtent image.dims.u image.spacing.u image.origin.u

/-- The indices of the pixels. -/
def Contains (i j : ℤ) : Prop :=
  (0 ≤ i ∧ i < image.dims.v) ∧ (0 ≤ j ∧ j < image.dims.u)

instance (i j : ℤ) : Decidable (image.Contains i j) := instDecidableAnd

/-- Reading a pixel with range checking. -/
def checkedPixel (i j : ℤ) : Option Space :=
  if image.Contains i j then some (image.pixel i j) else none

omit [Field Space] in
theorem checkedPixel_eq_some {i j : ℤ} (inside : image.Contains i j) :
    image.checkedPixel i j = some (image.pixel i j) :=
  if_pos inside

end Image2

/-! ## Indices of points -/

section Indices

variable [LinearOrder Space] [IsStrictOrderedRing Space]
variable {dims : ℕ} {spacing origin point : Space}

/-- The index of a point, as a fraction. -/
def fractionalIndex (spacing origin point : Space) : Space := (point - origin) / spacing

omit [IsStrictOrderedRing Space] in
theorem point_eq (positive : 0 < spacing) :
    point = origin + fractionalIndex spacing origin point * spacing := by
  rw [fractionalIndex, div_mul_cancel₀ _ positive.ne']
  ring

theorem fractionalIndex_of_interior (positive : 0 < spacing)
    (above : (interiorExtent dims spacing origin).lower < point)
    (below : point < (interiorExtent dims spacing origin).upper) :
    0 < fractionalIndex spacing origin point ∧
      fractionalIndex spacing origin point < (dims : Space) - 1 := by
  simp only [interiorExtent] at above below
  refine ⟨div_pos (by linarith) positive, ?_⟩
  rw [fractionalIndex, div_lt_iff₀ positive]
  linarith

theorem fractionalIndex_of_exterior (positive : 0 < spacing)
    (above : (exteriorExtent dims spacing origin).lower < point)
    (below : point < (exteriorExtent dims spacing origin).upper) :
    0 < fractionalIndex spacing origin point + 1 / 2 ∧
      fractionalIndex spacing origin point + 1 / 2 < (dims : Space) := by
  simp only [exteriorExtent, interiorExtent] at above below
  have low : -(1 / 2) < fractionalIndex spacing origin point := by
    rw [fractionalIndex, lt_div_iff₀ positive]
    linarith
  have high : fractionalIndex spacing origin point < (dims : Space) - 1 / 2 := by
    rw [fractionalIndex, div_lt_iff₀ positive]
    linarith
  constructor <;> linarith

variable [FloorRing Space]

/-- The conversion of a floating point number to an integer, which truncates. -/
def truncate (x : Space) : ℤ := if 0 ≤ x then ⌊x⌋ else ⌈x⌉

omit [IsStrictOrderedRing Space] in
theorem truncate_of_nonneg {x : Space} (nonneg : 0 ≤ x) : truncate x = ⌊x⌋ := if_pos nonneg

/-- The index of the pixel nearest to a point: half is added, and the sum truncated. -/
def nearestIndex (spacing origin point : Space) : ℤ :=
  truncate ((point - origin) / spacing + 1 / 2)

theorem nearestIndex_eq_floor (positive : 0 < spacing)
    (above : (exteriorExtent dims spacing origin).lower < point)
    (below : point < (exteriorExtent dims spacing origin).upper) :
    nearestIndex spacing origin point = ⌊fractionalIndex spacing origin point + 1 / 2⌋ :=
  truncate_of_nonneg (fractionalIndex_of_exterior positive above below).1.le

/-- In the interior, a point has a pixel before it and a pixel behind it. -/
theorem floor_mem_of_interior (positive : 0 < spacing)
    (above : (interiorExtent dims spacing origin).lower < point)
    (below : point < (interiorExtent dims spacing origin).upper) :
    0 ≤ ⌊fractionalIndex spacing origin point⌋ ∧
      ⌊fractionalIndex spacing origin point⌋ + 1 < dims := by
  obtain ⟨low, high⟩ := fractionalIndex_of_interior positive above below
  refine ⟨Int.floor_nonneg.mpr low.le, ?_⟩
  have last : ⌊fractionalIndex spacing origin point⌋ < (dims : ℤ) - 1 := by
    rw [Int.floor_lt]
    push_cast
    exact high
  omega

/-- In the exterior extents, a point is nearest to a pixel of the image. -/
theorem nearestIndex_mem_of_exterior (positive : 0 < spacing)
    (above : (exteriorExtent dims spacing origin).lower < point)
    (below : point < (exteriorExtent dims spacing origin).upper) :
    0 ≤ nearestIndex spacing origin point ∧ nearestIndex spacing origin point < dims := by
  obtain ⟨low, high⟩ := fractionalIndex_of_exterior positive above below
  rw [nearestIndex_eq_floor positive above below]
  refine ⟨Int.floor_nonneg.mpr low.le, ?_⟩
  rw [Int.floor_lt]
  exact_mod_cast high

/-- The centre of the nearest pixel is not farther than half a pixel. -/
theorem abs_sub_nearestIndex_le (positive : 0 < spacing)
    (above : (exteriorExtent dims spacing origin).lower < point)
    (below : point < (exteriorExtent dims spacing origin).upper) :
    |point - (origin + (nearestIndex spacing origin point : Space) * spacing)| ≤
      spacing / 2 := by
  rw [nearestIndex_eq_floor positive above below]
  have floor_le := Int.floor_le (fractionalIndex spacing origin point + 1 / 2)
  have lt_floor := Int.lt_floor_add_one (fractionalIndex spacing origin point + 1 / 2)
  have distance : point - (origin +
      (⌊fractionalIndex spacing origin point + 1 / 2⌋ : Space) * spacing) =
      (fractionalIndex spacing origin point -
        ⌊fractionalIndex spacing origin point + 1 / 2⌋) * spacing := by
    calc point - (origin + (⌊fractionalIndex spacing origin point + 1 / 2⌋ : Space) * spacing)
        = origin + fractionalIndex spacing origin point * spacing -
          (origin + (⌊fractionalIndex spacing origin point + 1 / 2⌋ : Space) * spacing) := by
          rw [← point_eq positive]
      _ = _ := by ring
  have half : |fractionalIndex spacing origin point -
      ⌊fractionalIndex spacing origin point + 1 / 2⌋| ≤ 1 / 2 := by
    rw [abs_le]
    constructor <;> linarith
  calc |point - (origin +
        (⌊fractionalIndex spacing origin point + 1 / 2⌋ : Space) * spacing)|
      = |fractionalIndex spacing origin point -
          ⌊fractionalIndex spacing origin point + 1 / 2⌋| * spacing := by
        rw [distance, abs_mul, abs_of_pos positive]
    _ ≤ 1 / 2 * spacing := mul_le_mul_of_nonneg_right half positive.le
    _ = spacing / 2 := by ring

end Indices

end AthabascaRecon
