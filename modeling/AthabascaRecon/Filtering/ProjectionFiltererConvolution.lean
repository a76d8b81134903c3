import AthabascaRecon.Filtering.ProjectionFilterer
import AthabascaRecon.Foundation.RealDft

/-!
# Filtering by convolution

`ProjectionFilterer_Convolution` convolves the rows of a projection with the ramp filter. A
pixel of the result is a sum over the row (`filterProjection_ready`). The same sum is an element
of a circular convolution with a ramp filter that is long enough (`circular_padded`).
-/

set_option autoImplicit false

namespace AthabascaRecon

open Finset

section Filterer

variable {Value : Type} [Field Value]

/-- A `ProjectionFilterer_Convolution`. -/
structure ProjectionFiltererConvolution (Value : Type) extends ProjectionFilterer Value where
  rampFilterRealSpace : Option (Samples Value)

namespace ProjectionFiltererConvolution

/-- `Initialize`, with what is in the memory that the ramp filter gets. -/
def initializeFilterer (pi : Value) (memory : Samples Value)
    (filterer : ProjectionFiltererConvolution Value) :
    Except FilterError (ProjectionFiltererConvolution Value) := do
  athabascaAssert (¬ filterer.rampFilterRealSpace.isSome)
  if filterer.smoothingFilter.isSome then
    .error (.message "Convolution Filterer can't accept a Smoothing Filter")
  let rampFilterGenerator : RampFilterRealSpace Value :=
    ⟨2 * filterer.dimensions.u, filterer.pixelSpacing, filterer.weight⟩
  let ramp ← rampFilterGenerator.constructRealSpaceFilter pi memory
  return { filterer with rampFilterRealSpace := some ramp }

/-- The loop over `k`, which adds to a pixel. -/
def accumulate (length : ℕ) (row ramp : Samples Value) (j : ℕ) (pixel : Value) : Value :=
  (List.range length).foldl
    (fun pixel k => pixel + row k * ramp ((k : ℤ) - j).natAbs) pixel

/-- The loops over the pixels of the output. Each one is zeroed and has its own loop. -/
def convolve (length : ℕ) (ramp : Samples Value) (input output : Image2 Value) : Image2 Value :=
  { output with
    pixel := fun i j =>
      if output.Contains i j then accumulate length (input.row i.toNat) ramp j.toNat 0
      else output.pixel i j }

/-- `FilterProjection`. -/
def filterProjection [DecidableEq Value] (filterer : ProjectionFiltererConvolution Value)
    (input output : Image2 Value) : Except FilterError (Image2 Value) :=
  match filterer.rampFilterRealSpace with
  | none => .error .assertionFailed
  | some ramp => do
    let length := filterer.dimensions.u
    athabascaAssert (input.dims.v = output.dims.v)
    athabascaAssert (input.dims.u = length)
    athabascaAssert (output.dims.u = length)
    athabascaAssert (input.spacing.u = filterer.pixelSpacing)
    return convolve length ramp input output

theorem accumulate_eq (length : ℕ) (row ramp : Samples Value) (j : ℕ)
    (pixel : Value) : accumulate length row ramp j pixel =
      pixel + ∑ k ∈ range length, row k * ramp ((k : ℤ) - j).natAbs := by
  induction length with
  | zero => simp [accumulate]
  | succ length ih =>
    rw [accumulate, List.range_succ, List.foldl_append, ← accumulate, ih, sum_range_succ,
      ← add_assoc]
    rfl

theorem convolve_pixel (length : ℕ) (ramp : Samples Value) {input output : Image2 Value} {i j : ℕ}
    (row : i < output.dims.v) (column : j < output.dims.u) :
    (convolve length ramp input output).pixel i j =
      ∑ k ∈ range length, input.row i k * ramp ((k : ℤ) - j).natAbs := by
  have inside : output.Contains i j :=
    ⟨⟨Int.natCast_nonneg i, Int.ofNat_lt.mpr row⟩, Int.natCast_nonneg j, Int.ofNat_lt.mpr column⟩
  unfold convolve
  dsimp only
  rw [if_pos inside, accumulate_eq, zero_add, Int.toNat_natCast, Int.toNat_natCast]

end ProjectionFiltererConvolution

namespace ProjectionFilterer

variable (pi : Value) (filterer : ProjectionFilterer Value)

/-- The ramp filter that goes with a length. -/
def rampFilter (length : ℕ) (weight : Value) : RampFilterRealSpace Value :=
  ⟨length, filterer.pixelSpacing, weight⟩

/-- The convolution of a row with the kernel of the ramp filter. -/
def convolved (row : Samples Value) (j : ℕ) : Value :=
  ∑ k ∈ range filterer.dimensions.u, row k *
    (filterer.rampFilter filterer.dimensions.u filterer.weight).kernel pi ((k : ℤ) - j).natAbs

end ProjectionFilterer

/-- The filterer after `Initialize`. -/
def ProjectionFiltererConvolution.ready (pi : Value) (filterer : ProjectionFilterer Value)
    (memory : Samples Value) : ProjectionFiltererConvolution Value :=
  ⟨filterer, some ((filterer.rampFilter (2 * filterer.dimensions.u)
    filterer.weight).realSpaceFilter pi memory)⟩

theorem ProjectionFiltererConvolution.initializeFilterer_eq (pi : Value)
    {filterer : ProjectionFilterer Value} (some_pixels : 0 < filterer.dimensions.u)
    (unsmoothed : filterer.smoothingFilter = none) (memory : Samples Value) :
    initializeFilterer pi memory ⟨filterer, none⟩ = .ok (ready pi filterer memory) := by
  have constructed := (filterer.rampFilter (2 * filterer.dimensions.u)
    filterer.weight).constructRealSpaceFilter_eq pi (Nat.mul_pos (by decide) some_pixels) memory
  unfold initializeFilterer
  dsimp only
  rw [athabascaAssert_of (by simp), unsmoothed]
  show (RampFilterRealSpace.constructRealSpaceFilter pi (filterer.rampFilter _ _) memory).bind _ = _
  rw [constructed]
  rfl

/-- **The convolution filterer convolves the rows.** -/
theorem ProjectionFiltererConvolution.filterProjection_ready [DecidableEq Value] (pi : Value)
    {filterer : ProjectionFilterer Value} {input output : Image2 Value}
    (accepted : filterer.Accepts input output) (memory : Samples Value) :
    ∃ filtered, (ready pi filterer memory).filterProjection input output = .ok filtered ∧
      ∀ i j : ℕ, i < input.dims.v → j < filterer.dimensions.u →
        filtered.pixel i j = filterer.convolved pi (input.row i) j := by
  refine ⟨convolve filterer.dimensions.u ((filterer.rampFilter (2 * filterer.dimensions.u)
    filterer.weight).realSpaceFilter pi memory) input output, ?_, ?_⟩
  · unfold filterProjection ready
    dsimp only
    rw [athabascaAssert_of accepted.rows, athabascaAssert_of accepted.inputColumns,
      athabascaAssert_of accepted.outputColumns, athabascaAssert_of accepted.spacing]
    rfl
  · intro i j row column
    rw [accepted.rows] at row
    rw [convolve_pixel _ _ row (by rwa [accepted.outputColumns])]
    apply sum_congr rfl
    intro k member
    rw [mem_range] at member
    have nearer : min ((k : ℤ) - j).natAbs (2 * filterer.dimensions.u - ((k : ℤ) - j).natAbs) =
        ((k : ℤ) - j).natAbs := by
      omega
    rw [RampFilterRealSpace.realSpaceFilter_apply, ProjectionFilterer.rampFilter, nearer]
    · rfl
    · show _ < 2 * filterer.dimensions.u
      omega

end Filterer

/-! ## Circular convolution -/

theorem val_sub {length j m : ℕ} [NeZero length] (first : j < length) (second : m < length) :
    ((j : ZMod length) - m).val = if m ≤ j then j - m else length - (m - j) := by
  split_ifs with before
  · rw [← Nat.cast_sub before, ZMod.val_natCast_of_lt (by omega)]
  · have wrapped : (j : ZMod length) - m = ((length - (m - j) : ℕ) : ZMod length) := by
      rw [Nat.cast_sub (by omega), Nat.cast_sub (by omega), ZMod.natCast_self]
      ring
    rw [wrapped, ZMod.val_natCast_of_lt (by omega)]

/-- **An element of the circular convolution with a long ramp filter is a sum over the row.** -/
theorem circular_padded {width length : ℕ} (long : 2 * width ≤ length) {row x f g : ℕ → ℝ}
    (copied : ∀ m, m < width → x m = row m)
    (padded : ∀ m, width ≤ m → m < length → x m = 0)
    (even : ∀ k, k < length → f k = g (min k (length - k))) {j : ℕ} (inside : j < width) :
    RealDft.circular length x f j = ∑ k ∈ range width, row k * g ((k : ℤ) - j).natAbs := by
  have nonzero : NeZero length := ⟨by omega⟩
  have shorter : range width ⊆ range length := range_subset_range.mpr (by omega)
  rw [RealDft.circular, ← sum_subset shorter]
  · apply sum_congr rfl
    intro m member
    rw [mem_range] at member
    rw [copied m member, even _ (ZMod.val_lt _), val_sub (by omega) (by omega)]
    congr 2
    split_ifs <;> omega
  · intro m member outside
    rw [mem_range] at member outside
    rw [padded m (by omega) member, zero_mul]

/-- **The circular convolution of a padded row with the ramp filter is the convolution of the
row, when the weight has been divided by the factor.** -/
theorem circular_ramp (pi : ℝ) {filterer : ProjectionFilterer ℝ} {length : ℕ}
    (long : 2 * filterer.dimensions.u ≤ length) {factor : ℝ} (nonzero : factor ≠ 0)
    {row x : Samples ℝ} (copied : ∀ m, m < filterer.dimensions.u → x m = row m)
    (padded : ∀ m, filterer.dimensions.u ≤ m → m < length → x m = 0) (memory : Samples ℝ)
    {j : ℕ} (column : j < filterer.dimensions.u) :
    factor * RealDft.circular length x
        ((filterer.rampFilter length (filterer.weight / factor)).realSpaceFilter pi memory) j =
      filterer.convolved pi row j := by
  have even : ∀ k, k < length →
      (filterer.rampFilter length (filterer.weight / factor)).realSpaceFilter pi memory k =
        (filterer.rampFilter length (filterer.weight / factor)).kernel pi (min k (length - k)) :=
    fun k inside => RampFilterRealSpace.realSpaceFilter_apply memory inside
  rw [circular_padded long copied padded even column, ProjectionFilterer.convolved, mul_sum]
  apply sum_congr rfl
  intro k _
  unfold ProjectionFilterer.rampFilter
  rw [RampFilterRealSpace.kernel_div length filterer.dimensions.u, mul_left_comm,
    mul_div_cancel₀ _ nonzero]

end AthabascaRecon
