import AthabascaRecon.Bonelab.FFTUtil
import AthabascaRecon.Filtering.ProjectionFiltererConvolution

/-!
# Filtering with FFTW

`ProjectionFilterer_fftw` pads the rows of a projection and multiplies their transforms with
that of the ramp filter. The transforms of FFTW are parameters, with the first half of a
spectrum in pairs of a real and an imaginary part. When they are exact the result is that of
the convolution (`fftw_filters_as_convolution`).
-/

set_option autoImplicit false

namespace AthabascaRecon

open Finset

/-- What the plans of FFTW do to a buffer when they are executed, for each length. -/
structure FftwTransforms (Value : Type) where
  planDftR2c1d : ℕ → Samples Value → Samples Value
  planDftC2r1d : ℕ → Samples Value → Samples Value

section Filterer

variable {Value : Type} [Field Value]

/-- The members that `Initialize` sets and `Destroy` unsets. -/
structure FftwMembers (Value : Type) where
  fftLength : ℕ
  buffer : Samples Value
  rampFilter : Samples Value

/-- A `ProjectionFilterer_fftw`. -/
structure ProjectionFiltererFftw (Value : Type) extends ProjectionFilterer Value where
  members : Option (FftwMembers Value)

namespace ProjectionFiltererFftw

/-- The number of elements of the buffers. -/
def bufferLength (fftLength : ℕ) : ℕ := 2 * (fftLength / 2 + 1)

/-- The loop that multiplies the real parts of the ramp filter with a transfer function. -/
def smooth (transferFunction : Samples Value) : ℕ → Samples Value → Samples Value
  | 0, rampFilter => rampFilter
  | count + 1, rampFilter =>
    let rampFilter := smooth transferFunction count rampFilter
    Function.update rampFilter (2 * count) (rampFilter (2 * count) * transferFunction count)

/-- `Initialize`, with what is in the memory that the buffers get. -/
def initializeFilterer (fftw : FftwTransforms Value) (pi : Value)
    (bufferMemory rampMemory : Samples Value) (filterer : ProjectionFiltererFftw Value) :
    Except FilterError (ProjectionFiltererFftw Value) := do
  athabascaAssert (¬ filterer.members.isSome)
  let fftLength := nextNumberWithFactors2And3 (2 * filterer.dimensions.u)
  let factor := filterer.weight / fftLength
  let rampFilterGenerator : RampFilterRealSpace Value :=
    ⟨fftLength, filterer.pixelSpacing, factor⟩
  let rampFilter ← rampFilterGenerator.constructRealSpaceFilter pi rampMemory
  let rampFilter := fftw.planDftR2c1d fftLength rampFilter
  let rampFilter := match filterer.smoothingFilter with
    | none => rampFilter
    | some constructTransferFunction =>
      smooth (constructTransferFunction fftLength) (bufferLength fftLength / 2) rampFilter
  return { filterer with
    members := some { fftLength := fftLength, buffer := bufferMemory, rampFilter := rampFilter } }

/-- The loop over pairs of elements. Only the real parts of the ramp filter are used. -/
def multiplyPairs (rampFilter : Samples Value) : ℕ → Samples Value → Samples Value
  | 0, buffer => buffer
  | count + 1, buffer =>
    let buffer := multiplyPairs rampFilter count buffer
    let buffer := Function.update buffer (2 * count) (buffer (2 * count) * rampFilter (2 * count))
    Function.update buffer (2 * count + 1) (buffer (2 * count + 1) * rampFilter (2 * count))

/-- The body of the loop over the rows, for a number of columns. -/
def filterRow (fftw : FftwTransforms Value) (fftLength : ℕ) (rampFilter : Samples Value)
    (inputColumns outputColumns : ℕ) (buffer inputRow outputRow : Samples Value) :
    Samples Value × Samples Value :=
  let buffer := Samples.copyFrom inputColumns inputRow buffer
  let buffer := Samples.zeroFrom inputColumns (bufferLength fftLength - inputColumns) buffer
  let buffer := fftw.planDftR2c1d fftLength buffer
  let buffer := multiplyPairs rampFilter (bufferLength fftLength / 2) buffer
  let buffer := fftw.planDftC2r1d fftLength buffer
  (buffer, Samples.copyFrom outputColumns buffer outputRow)

/-- `FilterProjection`. -/
def filterProjection [DecidableEq Value] (fftw : FftwTransforms Value)
    (filterer : ProjectionFiltererFftw Value) (input output : Image2 Value) :
    Except FilterError (ProjectionFiltererFftw Value × Image2 Value) :=
  match filterer.members with
  | none => .error .assertionFailed
  | some members => do
    athabascaAssert (input.dims.v = output.dims.v)
    athabascaAssert (output.dims.u ≤ input.dims.u)
    athabascaAssert (input.dims.u ≤ members.fftLength)
    athabascaAssert (input.spacing.u = filterer.pixelSpacing)
    let (buffer, output) := filterRows
      (filterRow fftw members.fftLength members.rampFilter input.dims.u output.dims.u) input
      input.dims.v (members.buffer, output)
    return ({ filterer with members := some { members with buffer := buffer } }, output)

/-- What `Initialize` sets without a smoothing filter, with some content of the buffer. -/
def readyMembers (fftw : FftwTransforms Value) (pi : Value) (rampMemory : Samples Value)
    (filterer : ProjectionFilterer Value) (buffer : Samples Value) : FftwMembers Value :=
  let fftLength := nextNumberWithFactors2And3 (2 * filterer.dimensions.u)
  { fftLength := fftLength
    buffer := buffer
    rampFilter := fftw.planDftR2c1d fftLength
      ((filterer.rampFilter fftLength (filterer.weight / fftLength)).realSpaceFilter pi
        rampMemory) }

/-- The filterer after `Initialize`. -/
def ready (fftw : FftwTransforms Value) (pi : Value) (rampMemory : Samples Value)
    (filterer : ProjectionFilterer Value) (buffer : Samples Value) : ProjectionFiltererFftw Value :=
  ⟨filterer, some (readyMembers fftw pi rampMemory filterer buffer)⟩

theorem initializeFilterer_eq (fftw : FftwTransforms Value) (pi : Value)
    {filterer : ProjectionFilterer Value}
    (some_pixels : 0 < filterer.dimensions.u) (unsmoothed : filterer.smoothingFilter = none)
    (bufferMemory rampMemory : Samples Value) :
    initializeFilterer fftw pi bufferMemory rampMemory ⟨filterer, none⟩ =
      .ok (ready fftw pi rampMemory filterer bufferMemory) := by
  let fftLength := nextNumberWithFactors2And3 (2 * filterer.dimensions.u)
  have some_elements : 0 < fftLength := by
    have long : 2 * filterer.dimensions.u ≤ fftLength := le_nextNumberWithFactors2And3 _
    omega
  have constructed := (filterer.rampFilter fftLength
    (filterer.weight / fftLength)).constructRealSpaceFilter_eq pi some_elements rampMemory
  unfold initializeFilterer
  dsimp only
  rw [athabascaAssert_of (by simp), unsmoothed]
  show (RampFilterRealSpace.constructRealSpaceFilter pi (filterer.rampFilter _ _)
    rampMemory).bind _ = _
  rw [constructed]
  rfl

theorem filterProjection_eq [DecidableEq Value] (fftw : FftwTransforms Value)
    {filterer : ProjectionFilterer Value} {members : FftwMembers Value}
    {input output : Image2 Value} (accepted : filterer.Accepts input output)
    (fits : input.dims.u ≤ members.fftLength) :
    (ProjectionFiltererFftw.mk filterer (some members)).filterProjection fftw input output =
      let after := filterRows (filterRow fftw members.fftLength members.rampFilter input.dims.u
        output.dims.u) input input.dims.v (members.buffer, output)
      .ok (⟨filterer, some { members with buffer := after.1 }⟩, after.2) := by
  have narrower : output.dims.u ≤ input.dims.u := by
    rw [accepted.inputColumns, accepted.outputColumns]
  unfold filterProjection
  dsimp only
  rw [athabascaAssert_of accepted.rows, athabascaAssert_of narrower, athabascaAssert_of fits,
    athabascaAssert_of accepted.spacing]
  rfl

/-- Every pair is multiplied with its real part. -/
theorem multiplyPairs_apply (rampFilter buffer : Samples Value) {count k : ℕ}
    (inside : k < count) :
    multiplyPairs rampFilter count buffer (2 * k) = buffer (2 * k) * rampFilter (2 * k) ∧
      multiplyPairs rampFilter count buffer (2 * k + 1) =
        buffer (2 * k + 1) * rampFilter (2 * k) := by
  have untouched {count position : ℕ} (later : 2 * count ≤ position) :
      multiplyPairs rampFilter count buffer position = buffer position := by
    induction count with
    | zero => rfl
    | succ count ih =>
      rw [multiplyPairs, Function.update_of_ne (by omega), Function.update_of_ne (by omega),
        ih (by omega)]
  induction count with
  | zero => omega
  | succ count ih =>
    rw [multiplyPairs]
    by_cases last : k = count
    · subst last
      rw [Function.update_self, Function.update_of_ne (by omega), Function.update_self,
        Function.update_of_ne (by omega), untouched le_rfl, untouched (by omega)]
      exact ⟨rfl, rfl⟩
    · rw [Function.update_of_ne (by omega), Function.update_of_ne (by omega),
        Function.update_of_ne (by omega), Function.update_of_ne (by omega)]
      exact ih (by omega)

end ProjectionFiltererFftw

end Filterer

/-! ## Exact transforms -/

/-- A buffer has the first half of the transform of a sequence, in pairs. -/
def HoldsHalfSpectrum (length : ℕ) (buffer x : Samples ℝ) : Prop :=
  ∀ k, k ≤ length / 2 → buffer (2 * k) = (RealDft.spectrum length x k).re ∧
    buffer (2 * k + 1) = (RealDft.spectrum length x k).im

/-- The plans compute the transform and its inverse, which is not normalised. -/
structure FftwTransforms.Exact (fftw : FftwTransforms ℝ) : Prop where
  forward : ∀ length x, 0 < length →
    HoldsHalfSpectrum length (fftw.planDftR2c1d length x) x
  backward : ∀ length x buffer, HoldsHalfSpectrum length buffer x →
    ∀ n, n < length → fftw.planDftC2r1d length buffer n = length * x n

namespace ProjectionFiltererFftw

open RampFilterRealSpace

/-- Multiplying with a real transform gives the transform of the circular convolution. -/
theorem holds_multiplyPairs {length : ℕ} (some_elements : 0 < length)
    {x f buffer rampFilter : Samples ℝ} (row : HoldsHalfSpectrum length buffer x)
    (ramp : HoldsHalfSpectrum length rampFilter f)
    (even : ∀ n, 0 < n → n < length → f (length - n) = f n) :
    HoldsHalfSpectrum length (multiplyPairs rampFilter (bufferLength length / 2) buffer)
      (RealDft.circular length x f) := by
  have nonzero : NeZero length := ⟨some_elements.ne'⟩
  intro k half
  obtain ⟨real, imaginary⟩ := multiplyPairs_apply rampFilter buffer
    (show k < bufferLength length / 2 by unfold bufferLength; omega)
  rw [real, imaginary, (row k half).1, (row k half).2, (ramp k half).1,
    RealDft.spectrum_circular, Complex.mul_re, Complex.mul_im,
    RealDft.spectrum_im_of_even even, mul_zero, mul_zero, sub_zero, zero_add]
  exact ⟨rfl, rfl⟩

/-- **A row that is filtered with exact transforms is convolved.** -/
theorem filterRow_apply {fftw : FftwTransforms ℝ} (exact : fftw.Exact) (pi : ℝ)
    {filterer : ProjectionFilterer ℝ} {fftLength : ℕ}
    (long : 2 * filterer.dimensions.u ≤ fftLength)
    (rampMemory buffer inputRow outputRow : Samples ℝ) {outputColumns j : ℕ}
    (column : j < filterer.dimensions.u) (written : j < outputColumns) :
    (filterRow fftw fftLength (fftw.planDftR2c1d fftLength
        ((filterer.rampFilter fftLength (filterer.weight / fftLength)).realSpaceFilter pi
          rampMemory))
      filterer.dimensions.u outputColumns buffer inputRow outputRow).2 j =
        filterer.convolved pi inputRow j := by
  have some_elements : 0 < fftLength := by omega
  have nonzero : (fftLength : ℝ) ≠ 0 := Nat.cast_ne_zero.mpr some_elements.ne'
  let ramp := filterer.rampFilter fftLength (filterer.weight / fftLength)
  let f := ramp.realSpaceFilter pi rampMemory
  let x := Samples.zeroFrom filterer.dimensions.u
    (bufferLength fftLength - filterer.dimensions.u)
    (Samples.copyFrom filterer.dimensions.u inputRow buffer)
  have copied : ∀ m, m < filterer.dimensions.u → x m = inputRow m := by
    intro m inside
    show Samples.zeroFrom _ _ _ m = _
    rw [Samples.zeroFrom, if_neg (by omega), Samples.copyFrom, if_pos inside]
  have padded : ∀ m, filterer.dimensions.u ≤ m → m < fftLength → x m = 0 := by
    intro m later inside
    show Samples.zeroFrom _ _ _ m = _
    rw [Samples.zeroFrom, if_pos (by unfold bufferLength; omega)]
  have product := holds_multiplyPairs some_elements (exact.forward fftLength x some_elements)
    (exact.forward fftLength f some_elements)
    (fun n positive inside => realSpaceFilter_even rampMemory positive inside)
  have back := exact.backward fftLength _ _ product j (by omega)
  unfold filterRow
  dsimp only
  rw [Samples.copyFrom, if_pos written, back]
  exact circular_ramp pi long nonzero copied padded rampMemory column

/-- `FilterProjection` convolves the rows, and only changes the buffer of the filterer. -/
theorem filterProjection_ready {fftw : FftwTransforms ℝ} (exact : fftw.Exact) (pi : ℝ)
    {filterer : ProjectionFilterer ℝ} {input output : Image2 ℝ}
    (accepted : filterer.Accepts input output) (rampMemory buffer : Samples ℝ) :
    ∃ after filtered, (ready fftw pi rampMemory filterer buffer).filterProjection fftw input
        output = .ok (ready fftw pi rampMemory filterer after, filtered) ∧
      ∀ i j : ℕ, i < input.dims.v → j < filterer.dimensions.u →
        filtered.pixel i j = filterer.convolved pi (input.row i) j := by
  have long : 2 * filterer.dimensions.u ≤
      nextNumberWithFactors2And3 (2 * filterer.dimensions.u) :=
    le_nextNumberWithFactors2And3 _
  have fits : input.dims.u ≤ nextNumberWithFactors2And3 (2 * filterer.dimensions.u) := by
    rw [accepted.inputColumns]
    omega
  let members := readyMembers fftw pi rampMemory filterer buffer
  refine ⟨_, _, filterProjection_eq fftw accepted fits, ?_⟩
  intro i j row column
  obtain ⟨scratch, filtered⟩ := filterRows_row (filterRow fftw members.fftLength
    members.rampFilter input.dims.u output.dims.u) input row (members.buffer, output)
  rw [filtered, accepted.inputColumns, accepted.outputColumns]
  exact filterRow_apply exact pi long rampMemory scratch _ _ column column

end ProjectionFiltererFftw

/-- **With exact transforms, FFTW gives the pixels that the convolution gives, for every width
of the rows and whatever the buffers hold.** -/
theorem fftw_filters_as_convolution {fftw : FftwTransforms ℝ} (exact : fftw.Exact) (pi : ℝ)
    {filterer : ProjectionFilterer ℝ} (some_pixels : 0 < filterer.dimensions.u)
    (unsmoothed : filterer.smoothingFilter = none) {input output : Image2 ℝ}
    (accepted : filterer.Accepts input output)
    (bufferMemory rampMemory kernelMemory buffer : Samples ℝ) :
    ∃ convolution after filtered convolved,
      ProjectionFiltererFftw.initializeFilterer fftw pi bufferMemory rampMemory
        ⟨filterer, none⟩ = .ok (.ready fftw pi rampMemory filterer bufferMemory) ∧
      ProjectionFiltererConvolution.initializeFilterer pi kernelMemory ⟨filterer, none⟩ =
        .ok convolution ∧
      (ProjectionFiltererFftw.ready fftw pi rampMemory filterer buffer).filterProjection fftw
        input output = .ok (.ready fftw pi rampMemory filterer after, filtered) ∧
      convolution.filterProjection input output = .ok convolved ∧
      ∀ i j : ℕ, i < input.dims.v → j < input.dims.u →
        filtered.pixel i j = convolved.pixel i j := by
  obtain ⟨after, filtered, transformed, rows⟩ :=
    ProjectionFiltererFftw.filterProjection_ready exact pi accepted rampMemory buffer
  obtain ⟨convolved, summed, sums⟩ :=
    ProjectionFiltererConvolution.filterProjection_ready pi accepted kernelMemory
  refine ⟨.ready pi filterer kernelMemory, after, filtered, convolved,
    ProjectionFiltererFftw.initializeFilterer_eq fftw pi some_pixels unsmoothed _ _,
    ProjectionFiltererConvolution.initializeFilterer_eq pi some_pixels unsmoothed _,
    transformed, summed, ?_⟩
  intro i j row column
  rw [accepted.inputColumns] at column
  rw [rows i j row column, sums i j row column]

/-- Transforms that are exact. -/
noncomputable def exactFftw : FftwTransforms ℝ where
  planDftR2c1d length x position :=
    if Even position then (RealDft.spectrum length x (position / 2)).re
    else (RealDft.spectrum length x (position / 2)).im
  planDftC2r1d length buffer :=
    RealDft.inverse length
      (RealDft.hermitian length fun k => ⟨buffer (2 * k), buffer (2 * k + 1)⟩)

theorem exactFftw_exact : exactFftw.Exact where
  forward length x _ := by
    intro k _
    have odd : (2 * k + 1) / 2 = k := by omega
    constructor
    · show (if Even (2 * k) then _ else _) = _
      rw [if_pos (even_two_mul k), Nat.mul_div_cancel_left k (by decide)]
    · show (if Even (2 * k + 1) then _ else _) = _
      rw [if_neg (by simp), odd]
  backward length x buffer holds n inside := by
    apply RealDft.inverse_hermitian _ inside
    intro k half
    exact Complex.ext (holds k half).1 (holds k half).2

/-- A filterer and a projection with rows of three pixels. -/
def threeColumns : ProjectionFilterer ℝ := ⟨⟨2, 3⟩, 1, 1, none⟩

def risingProjection : Image2 ℝ := ⟨⟨2, 3⟩, ⟨1, 1⟩, ⟨0, 0⟩, fun i j => i + j⟩

theorem accepts_risingProjection :
    threeColumns.Accepts risingProjection risingProjection :=
  ⟨rfl, rfl, rfl, rfl⟩

theorem fftw_filters_three_columns :
    (exactFftw.Exact ∧ 0 < threeColumns.dimensions.u ∧ threeColumns.smoothingFilter = none ∧
      threeColumns.Accepts risingProjection risingProjection) ∧
    ∃ convolution after filtered convolved,
      ProjectionFiltererFftw.initializeFilterer exactFftw Real.pi 1 1 ⟨threeColumns, none⟩ =
        .ok (.ready exactFftw Real.pi 1 threeColumns 1) ∧
      ProjectionFiltererConvolution.initializeFilterer Real.pi 1 ⟨threeColumns, none⟩ =
        .ok convolution ∧
      (ProjectionFiltererFftw.ready exactFftw Real.pi 1 threeColumns 2).filterProjection exactFftw
        risingProjection risingProjection =
          .ok (.ready exactFftw Real.pi 1 threeColumns after, filtered) ∧
      convolution.filterProjection risingProjection risingProjection = .ok convolved ∧
      ∀ i j : ℕ, i < 2 → j < 3 → filtered.pixel i j = convolved.pixel i j :=
  ⟨⟨exactFftw_exact, by decide, rfl, accepts_risingProjection⟩,
    fftw_filters_as_convolution exactFftw_exact Real.pi (by decide) rfl accepts_risingProjection
      1 1 1 2⟩

end AthabascaRecon
