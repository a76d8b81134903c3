import AthabascaRecon.Bonelab.Image
import Mathlib.Algebra.BigOperators.Group.List.Lemmas
import Mathlib.Algebra.Group.Action.Defs
import Mathlib.Data.List.Nodup

/-!
# The pixels of an image

The data of an image holds its rows one after another, so a loop over the data and a loop
over the rows with a loop over the columns in it come to the pixels in the same order.
-/

set_option autoImplicit false

namespace AthabascaRecon

/-- The indices of the pixels, in the order of the data. -/
def locationsOf (dims : Tuple2 ℕ) : List (Tuple2 ℤ) :=
  (List.range dims.v).flatMap fun (i : ℕ) =>
    (List.range dims.u).map fun (j : ℕ) => (⟨i, j⟩ : Tuple2 ℤ)

theorem mem_locationsOf {dims : Tuple2 ℕ} {location : Tuple2 ℤ} :
    location ∈ locationsOf dims ↔
      (0 ≤ location.v ∧ 0 ≤ location.u) ∧ location.v < dims.v ∧ location.u < dims.u := by
  simp only [locationsOf, List.mem_flatMap, List.mem_map, List.mem_range]
  constructor
  · rintro ⟨i, row, j, column, rfl⟩
    dsimp only
    omega
  · rintro ⟨⟨nonnegV, nonnegU⟩, ltV, ltU⟩
    refine ⟨location.v.toNat, by omega, location.u.toNat, by omega, ?_⟩
    rw [Int.toNat_of_nonneg nonnegV, Int.toNat_of_nonneg nonnegU]

theorem length_locationsOf (dims : Tuple2 ℕ) : (locationsOf dims).length = dims.v * dims.u := by
  rw [locationsOf, List.length_flatMap]
  simp only [List.length_map, List.length_range, List.map_const', List.sum_replicate,
    smul_eq_mul]

namespace Image2

variable {Value : Type}

/-- `operator()` with a tuple. -/
def pixelAt (image : Image2 Value) (location : Tuple2 ℤ) : Value :=
  image.pixel location.v location.u

/-- An image with other pixels. -/
def withPixels (image : Image2 Value) (pixelAt : Tuple2 ℤ → Value) : Image2 Value :=
  { image with pixel := fun i j => pixelAt ⟨i, j⟩ }

@[simp]
theorem pixelAt_withPixels (image : Image2 Value) (pixelAt : Tuple2 ℤ → Value) :
    (image.withPixels pixelAt).pixelAt = pixelAt := rfl

@[simp]
theorem dims_withPixels (image : Image2 Value) (pixelAt : Tuple2 ℤ → Value) :
    (image.withPixels pixelAt).dims = image.dims := rfl

@[simp]
theorem spacing_withPixels (image : Image2 Value) (pixelAt : Tuple2 ℤ → Value) :
    (image.withPixels pixelAt).spacing = image.spacing := rfl

/-- A loop over the data that replaces each pixel once. -/
def updatePixels (update : Tuple2 ℤ → Value → Value) (image : Image2 Value) : Image2 Value :=
  image.withPixels fun location =>
    if image.Contains location.v location.u then update location (image.pixelAt location)
    else image.pixelAt location

@[simp]
theorem dims_updatePixels (update : Tuple2 ℤ → Value → Value) (image : Image2 Value) :
    (image.updatePixels update).dims = image.dims := rfl

@[simp]
theorem spacing_updatePixels (update : Tuple2 ℤ → Value → Value) (image : Image2 Value) :
    (image.updatePixels update).spacing = image.spacing := rfl

theorem pixelAt_updatePixels (update : Tuple2 ℤ → Value → Value) {image : Image2 Value}
    {location : Tuple2 ℤ} (inside : image.Contains location.v location.u) :
    (image.updatePixels update).pixelAt location = update location (image.pixelAt location) :=
  if_pos inside

theorem pixelAt_updatePixels_of_not (update : Tuple2 ℤ → Value → Value) {image : Image2 Value}
    {location : Tuple2 ℤ} (outside : ¬ image.Contains location.v location.u) :
    (image.updatePixels update).pixelAt location = image.pixelAt location :=
  if_neg outside

/-- Two loops over the data are one. -/
theorem updatePixels_updatePixels (first second : Tuple2 ℤ → Value → Value)
    (image : Image2 Value) :
    (image.updatePixels first).updatePixels second =
      image.updatePixels fun location value => second location (first location value) := by
  have samePixel : ((image.updatePixels first).updatePixels second).pixel =
      (image.updatePixels fun location value =>
        second location (first location value)).pixel := by
    funext i j
    change ((image.updatePixels first).updatePixels second).pixelAt ⟨i, j⟩ =
      (image.updatePixels _).pixelAt ⟨i, j⟩
    by_cases inside : image.Contains i j
    · rw [pixelAt_updatePixels second inside, pixelAt_updatePixels first inside,
        pixelAt_updatePixels _ inside]
    · rw [pixelAt_updatePixels_of_not second inside, pixelAt_updatePixels_of_not first inside,
        pixelAt_updatePixels_of_not _ inside]
  exact congrArg (fun pixel => { image with pixel }) samePixel

/-- A loop that leaves every pixel what it is. -/
theorem updatePixels_id (image : Image2 Value) :
    (image.updatePixels fun _ value => value) = image := by
  have samePixel : (image.updatePixels fun _ value => value).pixel = image.pixel := by
    funext i j
    exact ite_self _
  exact congrArg (fun pixel => { image with pixel }) samePixel

/-- `size()`. -/
def size (image : Image2 Value) : ℕ := image.dims.v * image.dims.u

/-- The sum over the data. -/
def sumPixels [Zero Value] [Add Value] (image : Image2 Value) : Value :=
  (locationsOf image.dims).foldl (fun sum location => sum + image.pixelAt location) 0

end Image2

end AthabascaRecon
