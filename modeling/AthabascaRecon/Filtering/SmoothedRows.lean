import AthabascaRecon.Filtering.ProjectionFiltererFftw
import AthabascaRecon.Filtering.ProjectionFiltererVDsp

/-!
# Filtering with a smoothing filter

FFTW and vDSP multiply the transform of the ramp filter with the transfer function of a
smoothing filter, each for its own length and in its own form. The rows are convolved with the
even sequence that has this product as its transform. Where both have the same length it is one
sequence, for every projection that is filtered one after another
(`smoothedFilterers_convolve`).
-/

set_option autoImplicit false

namespace AthabascaRecon

/-- A sequence that has the transform of a ramp filter, times a transfer function. -/
structure SmoothedBy (length : ℕ) (transferFunction f g : Samples ℝ) : Prop where
  even : ∀ n, 0 < n → n < length → g (length - n) = g n
  spectrum : ∀ k, k ≤ length / 2 →
    RealDft.spectrum length g k = (RealDft.spectrum length f k).re * transferFunction k

theorem exists_smoothedBy {length : ℕ} (some_elements : 0 < length)
    (transferFunction f : Samples ℝ) : ∃ g, SmoothedBy length transferFunction f g := by
  have nonzero : NeZero length := ⟨some_elements.ne'⟩
  obtain ⟨g, even, spectrum⟩ := @RealDft.exists_spectrum_eq length _ fun k =>
    (RealDft.spectrum length f k).re * transferFunction k
  refine ⟨g, even, fun k half => ?_⟩
  rw [spectrum k half, Complex.ofReal_mul]

/-- A smaller weight of the ramp filter is one of the smoothed sequence. -/
theorem SmoothedBy.const_mul {length : ℕ} {transferFunction f g h : Samples ℝ}
    (smoothedBy : SmoothedBy length transferFunction f g) {c : ℝ}
    (scaled : ∀ n, n < length → h n = c * f n) :
    SmoothedBy length transferFunction h fun n => c * g n where
  even n positive inside := by rw [smoothedBy.even n positive inside]
  spectrum k half := by
    rw [RealDft.spectrum_congr scaled, RealDft.spectrum_const_mul, RealDft.spectrum_const_mul,
      smoothedBy.spectrum k half, Complex.re_ofReal_mul]
    push_cast
    ring

/-- A row with zeros behind its columns. -/
def paddedRow (columns : ℕ) (row : Samples ℝ) : Samples ℝ :=
  fun m => if m < columns then row m else 0

/-- An image has the rows of another one, padded and circularly convolved with a sequence. -/
def ConvolvedWith (columns length : ℕ) (g : Samples ℝ) (input filtered : Image2 ℝ) : Prop :=
  ∀ i j : ℕ, i < input.dims.v → j < input.dims.u → filtered.pixel i j =
    length * RealDft.circular length (paddedRow columns (input.row i)) g j

/-! ## Projections one after another -/

section Run

variable {Filterer Scratch : Type}
  (filterProjection : Filterer → Image2 ℝ → Image2 ℝ → Except FilterError (Filterer × Image2 ℝ))

/-- `FilterProjection` on one pair of images after another. -/
def filterProjections :
    Filterer → List (Image2 ℝ × Image2 ℝ) → Except FilterError (Filterer × List (Image2 ℝ))
  | filterer, [] => .ok (filterer, [])
  | filterer, (input, output) :: later => do
    let (filterer, filtered) ← filterProjection filterer input output
    let (filterer, others) ← filterProjections filterer later
    return (filterer, filtered :: others)

variable {filterProjection} {ready : Scratch → Filterer} {accepts : Image2 ℝ → Image2 ℝ → Prop}
  {filters : Image2 ℝ → Image2 ℝ → Prop}

/-- A filterer that filters a projection whatever is in its scratch buffer filters every one. -/
theorem filterProjections_of_step
    (step : ∀ scratch input output, accepts input output →
      ∃ after filtered, filterProjection (ready scratch) input output =
        .ok (ready after, filtered) ∧ filters input filtered)
    {images : List (Image2 ℝ × Image2 ℝ)}
    (accepted : ∀ input output, (input, output) ∈ images → accepts input output)
    (scratch : Scratch) :
    ∃ after outputs, filterProjections filterProjection (ready scratch) images =
        .ok (ready after, outputs) ∧
      List.Forall₂ (fun pair filtered => filters pair.1 filtered) images outputs := by
  induction images generalizing scratch with
  | nil => exact ⟨scratch, [], rfl, .nil⟩
  | cons pair later ih =>
    obtain ⟨input, output⟩ := pair
    obtain ⟨between, filtered, first, holds⟩ :=
      step scratch input output (accepted input output List.mem_cons_self)
    obtain ⟨after, others, rest, every⟩ :=
      ih (fun i o member => accepted i o (List.mem_cons_of_mem _ member)) between
    refine ⟨after, filtered :: others, ?_, .cons holds every⟩
    rw [filterProjections, first]
    show (filterProjections filterProjection (ready between) later).bind _ = _
    rw [rest]
    rfl

end Run

/-! ## FFTW -/

namespace ProjectionFiltererFftw

section Smooth

variable {Value : Type} [Field Value]

/-- The real parts are multiplied, and the imaginary parts are left as they are. -/
theorem smooth_apply (transferFunction rampFilter : Samples Value) (count : ℕ) :
    (∀ k < count, smooth transferFunction count rampFilter (2 * k) =
      rampFilter (2 * k) * transferFunction k) ∧
    (∀ k, count ≤ k → smooth transferFunction count rampFilter (2 * k) = rampFilter (2 * k)) ∧
    ∀ k, smooth transferFunction count rampFilter (2 * k + 1) = rampFilter (2 * k + 1) := by
  induction count with
  | zero => exact ⟨fun k none => absurd none (Nat.not_lt_zero k), fun _ _ => rfl, fun _ => rfl⟩
  | succ count ih =>
    obtain ⟨multiplied, later, imaginary⟩ := ih
    refine ⟨fun k below => ?_, fun k beyond => ?_, fun k => ?_⟩
    · rw [smooth]
      by_cases last : k = count
      · subst last
        rw [Function.update_self, later k le_rfl]
      · rw [Function.update_of_ne (by omega), multiplied k (by omega)]
    · rw [smooth, Function.update_of_ne (by omega), later k (by omega)]
    · rw [smooth, Function.update_of_ne (by omega), imaginary]

variable (fftw : FftwTransforms Value) (pi : Value) (rampMemory : Samples Value)
  (filterer : ProjectionFilterer Value)

/-- The ramp filter that `Initialize` makes, with the smoothing filter. -/
def smoothedRamp : Samples Value :=
  let fftLength := nextNumberWithFactors2And3 (2 * filterer.dimensions.u)
  let rampFilter := fftw.planDftR2c1d fftLength
    ((filterer.rampFilter fftLength (filterer.weight / fftLength)).realSpaceFilter pi rampMemory)
  match filterer.smoothingFilter with
  | none => rampFilter
  | some constructTransferFunction =>
    smooth (constructTransferFunction fftLength) (bufferLength fftLength / 2) rampFilter

/-- The filterer after `Initialize` and some projections, with what they left in the buffer. -/
def smoothed (buffer : Samples Value) : ProjectionFiltererFftw Value :=
  ⟨filterer, some ⟨nextNumberWithFactors2And3 (2 * filterer.dimensions.u), buffer,
    smoothedRamp fftw pi rampMemory filterer⟩⟩

theorem initializeFilterer_smoothed {filterer : ProjectionFilterer Value}
    (some_pixels : 0 < filterer.dimensions.u) (bufferMemory : Samples Value) :
    initializeFilterer fftw pi bufferMemory rampMemory ⟨filterer, none⟩ =
      .ok (smoothed fftw pi rampMemory filterer bufferMemory) := by
  let fftLength := nextNumberWithFactors2And3 (2 * filterer.dimensions.u)
  have some_elements : 0 < fftLength := by
    have long : 2 * filterer.dimensions.u ≤ fftLength := le_nextNumberWithFactors2And3 _
    omega
  have constructed := (filterer.rampFilter fftLength
    (filterer.weight / fftLength)).constructRealSpaceFilter_eq pi some_elements rampMemory
  unfold initializeFilterer
  dsimp only
  rw [athabascaAssert_of (by simp)]
  show (RampFilterRealSpace.constructRealSpaceFilter pi (filterer.rampFilter _ _)
    rampMemory).bind _ = _
  rw [constructed, smoothed, smoothedRamp]
  cases filterer.smoothingFilter <;> rfl

end Smooth

/-- A smoothed ramp filter holds the transform of the smoothed sequence. -/
theorem holds_smooth {length : ℕ} (some_elements : 0 < length)
    {transferFunction f g rampFilter : Samples ℝ}
    (ramp : HoldsHalfSpectrum length rampFilter f)
    (even : ∀ n, 0 < n → n < length → f (length - n) = f n)
    (smoothedBy : SmoothedBy length transferFunction f g) :
    HoldsHalfSpectrum length
      (smooth transferFunction (bufferLength length / 2) rampFilter) g := by
  have nonzero : NeZero length := ⟨some_elements.ne'⟩
  obtain ⟨multiplied, -, imaginary⟩ :=
    smooth_apply transferFunction rampFilter (bufferLength length / 2)
  intro k half
  rw [multiplied k (by unfold bufferLength; omega), imaginary, (ramp k half).1, (ramp k half).2,
    smoothedBy.spectrum k half, RealDft.spectrum_im_of_even even, ← Complex.ofReal_mul]
  exact ⟨(Complex.ofReal_re _).symm, (Complex.ofReal_im _).symm⟩

/-- A row becomes the circular convolution of the padded row. -/
theorem filterRow_circular {fftw : FftwTransforms ℝ} (exact : fftw.Exact) {fftLength columns : ℕ}
    (some_elements : 0 < fftLength) (fits : columns ≤ fftLength) {rampFilter f : Samples ℝ}
    (ramp : HoldsHalfSpectrum fftLength rampFilter f)
    (even : ∀ n, 0 < n → n < fftLength → f (fftLength - n) = f n)
    (buffer inputRow outputRow : Samples ℝ) {j : ℕ} (column : j < columns) :
    (filterRow fftw fftLength rampFilter columns columns buffer inputRow outputRow).2 j =
      fftLength * RealDft.circular fftLength (paddedRow columns inputRow) f j := by
  let x := Samples.zeroFrom columns (bufferLength fftLength - columns)
    (Samples.copyFrom columns inputRow buffer)
  have padded : ∀ m, m < fftLength → x m = paddedRow columns inputRow m := by
    intro m inside
    show Samples.zeroFrom _ _ _ m = _
    by_cases copied : m < columns
    · rw [Samples.zeroFrom, if_neg (by omega), Samples.copyFrom, if_pos copied, paddedRow,
        if_pos copied]
    · rw [Samples.zeroFrom, if_pos (by unfold bufferLength; omega), paddedRow, if_neg copied]
  have product := holds_multiplyPairs some_elements (exact.forward fftLength x some_elements)
    ramp even
  have back := exact.backward fftLength _ _ product j (by omega)
  unfold filterRow
  dsimp only
  rw [Samples.copyFrom, if_pos column, back, RealDft.circular_congr padded]

/-- `FilterProjection` convolves the rows with a smoothed sequence. -/
theorem filterProjection_smoothed {fftw : FftwTransforms ℝ} (exact : fftw.Exact) (pi : ℝ)
    {filterer : ProjectionFilterer ℝ} (some_pixels : 0 < filterer.dimensions.u)
    {constructTransferFunction : ℕ → Samples ℝ}
    (smoothing : filterer.smoothingFilter = some constructTransferFunction)
    (rampMemory buffer : Samples ℝ) {g : Samples ℝ}
    (smoothedBy : SmoothedBy (nextNumberWithFactors2And3 (2 * filterer.dimensions.u))
      (constructTransferFunction (nextNumberWithFactors2And3 (2 * filterer.dimensions.u)))
      ((filterer.rampFilter (nextNumberWithFactors2And3 (2 * filterer.dimensions.u))
        (filterer.weight / nextNumberWithFactors2And3
          (2 * filterer.dimensions.u))).realSpaceFilter pi rampMemory) g)
    {input output : Image2 ℝ} (accepted : filterer.Accepts input output) :
    ∃ after filtered, (smoothed fftw pi rampMemory filterer buffer).filterProjection fftw input
        output = .ok (smoothed fftw pi rampMemory filterer after, filtered) ∧
      ConvolvedWith filterer.dimensions.u
        (nextNumberWithFactors2And3 (2 * filterer.dimensions.u)) g input filtered := by
  have long : 2 * filterer.dimensions.u ≤
      nextNumberWithFactors2And3 (2 * filterer.dimensions.u) :=
    le_nextNumberWithFactors2And3 _
  have fits : input.dims.u ≤ nextNumberWithFactors2And3 (2 * filterer.dimensions.u) := by
    rw [accepted.inputColumns]
    omega
  have some_elements : 0 < nextNumberWithFactors2And3 (2 * filterer.dimensions.u) := by omega
  have ramp : HoldsHalfSpectrum (nextNumberWithFactors2And3 (2 * filterer.dimensions.u))
      (smoothedRamp fftw pi rampMemory filterer) g := by
    unfold smoothedRamp
    dsimp only
    rw [smoothing]
    exact holds_smooth some_elements (exact.forward _ _ some_elements)
      (fun n positive inside => RampFilterRealSpace.realSpaceFilter_even rampMemory positive inside)
      smoothedBy
  refine ⟨_, _, filterProjection_eq fftw accepted fits, fun i j row column => ?_⟩
  obtain ⟨scratch, filtered⟩ := filterRows_row (filterRow fftw _
    (smoothedRamp fftw pi rampMemory filterer) input.dims.u output.dims.u) input row
    (buffer, output)
  rw [accepted.inputColumns] at column
  refine (filtered j).trans ?_
  rw [accepted.inputColumns, accepted.outputColumns]
  exact filterRow_circular exact some_elements (by omega) ramp smoothedBy.even scratch _ _ column

end ProjectionFiltererFftw

/-! ## vDSP -/

namespace ProjectionFiltererVDsp

section Smooth

variable {Value : Type} [Field Value] (vdsp : VDspFunctions Value) (pi : Value)
  (rampMemory : SplitComplex Value) (kernelMemory : Samples Value)
  (filterer : ProjectionFilterer Value)

/-- The ramp filter that `Initialize` makes, with the smoothing filter. -/
def smoothedRamp : SplitComplex Value :=
  let powerOfTwo := nextPowerOfTwo filterer.dimensions.u + 1
  let fftLength := 2 ^ powerOfTwo
  let rampFilter := vdsp.fftZrip (vdsp.ctoz
    ((filterer.rampFilter fftLength
      (filterer.weight / (4 * fftLength : ℕ))).realSpaceFilter pi kernelMemory) 2
    rampMemory 1 (fftLength / 2)) 1 powerOfTwo .forward
  match filterer.smoothingFilter with
  | none => rampFilter
  | some constructTransferFunction =>
    smooth vdsp fftLength (constructTransferFunction fftLength) rampFilter

/-- The filterer after `Initialize` and some projections, with what they left in the scratch
buffer. -/
def smoothed (scratch : SplitComplex Value) : ProjectionFiltererVDsp Value :=
  ⟨filterer, some ⟨nextPowerOfTwo filterer.dimensions.u + 1,
    2 ^ (nextPowerOfTwo filterer.dimensions.u + 1), scratch,
    smoothedRamp vdsp pi rampMemory kernelMemory filterer⟩⟩

theorem initializeFilterer_smoothed [LT Value] [DecidableLT Value]
    {filterer : ProjectionFilterer Value} (positive : 0 < filterer.weight)
    (scratchMemory : SplitComplex Value) :
    initializeFilterer vdsp pi scratchMemory rampMemory kernelMemory ⟨filterer, none⟩ =
      .ok (smoothed vdsp pi rampMemory kernelMemory filterer scratchMemory) := by
  let fftLength := 2 ^ (nextPowerOfTwo filterer.dimensions.u + 1)
  have constructed := (filterer.rampFilter fftLength
    (filterer.weight / (4 * fftLength : ℕ))).constructRealSpaceFilter_eq pi
      (Nat.two_pow_pos _) kernelMemory
  unfold initializeFilterer
  dsimp only
  rw [athabascaAssert_of (by simp), athabascaAssert_of positive]
  show (RampFilterRealSpace.constructRealSpaceFilter pi (filterer.rampFilter _ _)
    kernelMemory).bind _ = _
  rw [constructed, smoothed, smoothedRamp]
  cases filterer.smoothingFilter <;> rfl

end Smooth

/-- A smoothed ramp filter holds the transform of the smoothed sequence. -/
theorem holds_smooth {vdsp : VDspFunctions ℝ} (documented : vdsp.Documented) {length : ℕ}
    (some_pairs : 0 < length / 2) {transferFunction f g : Samples ℝ}
    {rampFilter : SplitComplex ℝ} (ramp : HoldsPacked length rampFilter fun n => 2 * f n)
    (even : ∀ n, 0 < n → n < length → f (length - n) = f n)
    (smoothedBy : SmoothedBy length transferFunction f g) :
    HoldsPacked length (smooth vdsp length transferFunction rampFilter) fun n => 2 * g n := by
  have nonzero : NeZero length := ⟨by omega⟩
  have real : ∀ k, k ≤ length / 2 → (RealDft.spectrum length (fun n => 2 * g n) k).re =
      (RealDft.spectrum length (fun n => 2 * f n) k).re * transferFunction k := by
    intro k half
    rw [RealDft.spectrum_const_mul, RealDft.spectrum_const_mul, smoothedBy.spectrum k half,
      ← Complex.ofReal_mul]
    simp [mul_assoc]
  have twice : ∀ {h : Samples ℝ}, (∀ n, 0 < n → n < length → h (length - n) = h n) → ∀ k,
      (RealDft.spectrum length (fun n => 2 * h n) k).im = 0 := by
    intro h symmetric k
    apply RealDft.spectrum_im_of_even
    intro n positive inside
    rw [symmetric n positive inside]
  refine ⟨?_, ?_, fun k positive inside => ⟨?_, ?_⟩⟩
  · show vdsp.vmul _ 1 _ 1 _ 1 _ 0 = _
    rw [documented.vmul, if_pos some_pairs, ramp.zero, real 0 (Nat.zero_le _)]
  · unfold smooth
    dsimp only
    rw [Function.update_self, ramp.nyquist, real _ le_rfl]
  · show vdsp.vmul _ 1 _ 1 _ 1 _ k = _
    rw [documented.vmul, if_pos inside, (ramp.inner k positive inside).1, real k inside.le]
  · unfold smooth
    dsimp only
    rw [Function.update_of_ne positive.ne', (ramp.inner k positive inside).2, twice even,
      twice smoothedBy.even]

/-- `FilterProjection` convolves the rows with a smoothed sequence, where they are made of
pairs. -/
theorem filterProjection_smoothed {vdsp : VDspFunctions ℝ} (documented : vdsp.Documented)
    (halfZeroed : ℝ → ℝ) (pi : ℝ) {filterer : ProjectionFilterer ℝ}
    (pairs : Even filterer.dimensions.u) {constructTransferFunction : ℕ → Samples ℝ}
    (smoothing : filterer.smoothingFilter = some constructTransferFunction)
    (rampMemory scratch : SplitComplex ℝ) (kernelMemory : Samples ℝ) {g : Samples ℝ}
    (smoothedBy : SmoothedBy (2 ^ (nextPowerOfTwo filterer.dimensions.u + 1))
      (constructTransferFunction (2 ^ (nextPowerOfTwo filterer.dimensions.u + 1)))
      ((filterer.rampFilter (2 ^ (nextPowerOfTwo filterer.dimensions.u + 1))
        (filterer.weight / (4 * 2 ^ (nextPowerOfTwo filterer.dimensions.u + 1) :
          ℕ))).realSpaceFilter pi kernelMemory) g)
    {input output : Image2 ℝ} (accepted : filterer.Accepts input output) :
    ∃ after filtered, (smoothed vdsp pi rampMemory kernelMemory filterer scratch).filterProjection
        vdsp halfZeroed input output =
          .ok (smoothed vdsp pi rampMemory kernelMemory filterer after, filtered) ∧
      ConvolvedWith filterer.dimensions.u (2 ^ (nextPowerOfTwo filterer.dimensions.u + 1))
        (fun n => 4 * g n) input filtered := by
  have large := le_two_pow_nextPowerOfTwo filterer.dimensions.u
  have length_eq : 2 ^ (nextPowerOfTwo filterer.dimensions.u + 1) =
      2 * 2 ^ nextPowerOfTwo filterer.dimensions.u := pow_succ' 2 _
  have some_length := Nat.two_pow_pos (nextPowerOfTwo filterer.dimensions.u)
  have fits : input.dims.u ≤ 2 ^ (nextPowerOfTwo filterer.dimensions.u + 1) := by
    rw [accepted.inputColumns]
    omega
  have ramp : HoldsPacked (2 ^ (nextPowerOfTwo filterer.dimensions.u + 1))
      (smoothedRamp vdsp pi rampMemory kernelMemory filterer) fun n => 2 * g n := by
    unfold smoothedRamp
    dsimp only
    rw [smoothing]
    exact holds_smooth documented (by omega)
      (holdsPacked_ramp documented pi filterer rampMemory scratch kernelMemory)
      (fun n positive inside => RampFilterRealSpace.realSpaceFilter_even _ positive inside)
      smoothedBy
  refine ⟨_, _, filterProjection_eq vdsp halfZeroed accepted fits rfl, fun i j row column => ?_⟩
  obtain ⟨before, filtered⟩ := filterRows_row (filterRow vdsp halfZeroed _ _
    (smoothedRamp vdsp pi rampMemory kernelMemory filterer) input.dims.u output.dims.u) input row
    (scratch, output)
  rw [accepted.inputColumns] at column
  refine (filtered j).trans ?_
  rw [accepted.inputColumns, accepted.outputColumns, RealDft.circular_const_mul]
  refine (filterRow_circular documented halfZeroed ramp smoothedBy.even pairs (by omega) before _ _
    column).trans ?_
  unfold paddedRow
  push_cast
  ring

end ProjectionFiltererVDsp

/-! ## Both -/

/-- The ramp filter of vDSP has a quarter of the weight that the one of FFTW has. -/
theorem rampFilter_quarter (filterer : ProjectionFilterer ℝ) (pi : ℝ) (length : ℕ)
    (fftwMemory vdspMemory : Samples ℝ) {n : ℕ} (inside : n < length) :
    (filterer.rampFilter length (filterer.weight / (4 * length : ℕ))).realSpaceFilter pi
        vdspMemory n =
      4⁻¹ * (filterer.rampFilter length (filterer.weight / length)).realSpaceFilter pi
        fftwMemory n := by
  have quarter : filterer.weight / (4 * length : ℕ) = filterer.weight / length / 4 := by
    push_cast
    ring
  rw [RampFilterRealSpace.realSpaceFilter_apply _ inside,
    RampFilterRealSpace.realSpaceFilter_apply _ inside, quarter, ProjectionFilterer.rampFilter,
    RampFilterRealSpace.kernel_div length length, ProjectionFilterer.rampFilter]
  ring

/-- **FFTW and vDSP filter projections with one smoothed sequence, where their transforms have
the same length and the rows are made of pairs.** -/
theorem smoothedFilterers_convolve {fftw : FftwTransforms ℝ} (exact : fftw.Exact)
    {vdsp : VDspFunctions ℝ} (documented : vdsp.Documented) (halfZeroed : ℝ → ℝ) (pi : ℝ)
    {filterer : ProjectionFilterer ℝ} (some_pixels : 0 < filterer.dimensions.u)
    (pairs : Even filterer.dimensions.u) (positive : 0 < filterer.weight)
    {constructTransferFunction : ℕ → Samples ℝ}
    (smoothing : filterer.smoothingFilter = some constructTransferFunction) {length : ℕ}
    (fftwLength : nextNumberWithFactors2And3 (2 * filterer.dimensions.u) = length)
    (vdspLength : 2 ^ (nextPowerOfTwo filterer.dimensions.u + 1) = length)
    {images : List (Image2 ℝ × Image2 ℝ)}
    (accepted : ∀ input output, (input, output) ∈ images → filterer.Accepts input output)
    (bufferMemory fftwMemory vdspMemory : Samples ℝ) (scratchMemory rampMemory : SplitComplex ℝ) :
    ∃ g, SmoothedBy length (constructTransferFunction length)
        ((filterer.rampFilter length (filterer.weight / length)).realSpaceFilter pi fftwMemory) g ∧
      (∃ before after outputs,
        ProjectionFiltererFftw.initializeFilterer fftw pi bufferMemory fftwMemory
          ⟨filterer, none⟩ = .ok before ∧
        filterProjections (ProjectionFiltererFftw.filterProjection fftw) before images =
          .ok (after, outputs) ∧
        List.Forall₂ (fun pair filtered => ConvolvedWith filterer.dimensions.u length g pair.1
          filtered) images outputs) ∧
      ∃ before after outputs,
        ProjectionFiltererVDsp.initializeFilterer vdsp pi scratchMemory rampMemory vdspMemory
          ⟨filterer, none⟩ = .ok before ∧
        filterProjections (ProjectionFiltererVDsp.filterProjection vdsp halfZeroed) before
          images = .ok (after, outputs) ∧
        List.Forall₂ (fun pair filtered => ConvolvedWith filterer.dimensions.u length g pair.1
          filtered) images outputs := by
  have some_elements : 0 < length := vdspLength ▸ Nat.two_pow_pos _
  obtain ⟨g, smoothedBy⟩ := exists_smoothedBy some_elements (constructTransferFunction length)
    ((filterer.rampFilter length (filterer.weight / length)).realSpaceFilter pi fftwMemory)
  have quarter := smoothedBy.const_mul fun n inside =>
    rampFilter_quarter filterer pi length fftwMemory vdspMemory inside
  refine ⟨g, smoothedBy, ?_, ?_⟩
  · obtain ⟨after, outputs, filtered, every⟩ := filterProjections_of_step
      (fun buffer input output suitable =>
        ProjectionFiltererFftw.filterProjection_smoothed exact pi some_pixels smoothing fftwMemory
          buffer (fftwLength.symm ▸ smoothedBy) suitable) accepted bufferMemory
    rw [fftwLength] at every
    exact ⟨_, _, outputs, ProjectionFiltererFftw.initializeFilterer_smoothed fftw pi fftwMemory
      some_pixels bufferMemory, filtered, every⟩
  · obtain ⟨after, outputs, filtered, every⟩ := filterProjections_of_step
      (fun scratch input output suitable =>
        ProjectionFiltererVDsp.filterProjection_smoothed documented halfZeroed pi pairs smoothing
          rampMemory scratch vdspMemory (vdspLength.symm ▸ quarter) suitable) accepted scratchMemory
    have whole : (fun n => 4 * (4⁻¹ * g n)) = g := by
      funext n
      ring
    rw [vdspLength, whole] at every
    exact ⟨_, _, outputs, ProjectionFiltererVDsp.initializeFilterer_smoothed vdsp pi rampMemory
      vdspMemory positive scratchMemory, filtered, every⟩

/-- A filter that takes away the upper half of the frequencies. -/
def lowPass (length : ℕ) : Samples ℝ := fun k => if 4 * k ≤ length then 1 else 0

def twoColumns : ProjectionFilterer ℝ := ⟨⟨1, 2⟩, 1, 1, some lowPass⟩

theorem smoothedFilterers_convolve_twoColumns :
    (exactFftw.Exact ∧ exactVDsp.Documented ∧ 0 < 2 ∧ Even 2 ∧ (0 : ℝ) < 1 ∧
      nextNumberWithFactors2And3 (2 * 2) = 4 ∧ 2 ^ (nextPowerOfTwo 2 + 1) = 4) ∧
    ∃ g, SmoothedBy 4 (lowPass 4)
        ((twoColumns.rampFilter 4 (1 / (4 : ℕ))).realSpaceFilter Real.pi 1) g ∧
      (∃ before after outputs,
        ProjectionFiltererFftw.initializeFilterer exactFftw Real.pi 1 1 ⟨twoColumns, none⟩ =
          .ok before ∧
        filterProjections (ProjectionFiltererFftw.filterProjection exactFftw) before
          [(constantRow 2 1, constantRow 2 0), (constantRow 2 2, constantRow 2 1)] =
            .ok (after, outputs) ∧
        List.Forall₂ (fun pair filtered => ConvolvedWith 2 4 g pair.1 filtered)
          [(constantRow 2 1, constantRow 2 0), (constantRow 2 2, constantRow 2 1)] outputs) ∧
      ∃ before after outputs,
        ProjectionFiltererVDsp.initializeFilterer exactVDsp Real.pi ⟨1, 1⟩ ⟨2, 2⟩ 2
          ⟨twoColumns, none⟩ = .ok before ∧
        filterProjections (ProjectionFiltererVDsp.filterProjection exactVDsp id) before
          [(constantRow 2 1, constantRow 2 0), (constantRow 2 2, constantRow 2 1)] =
            .ok (after, outputs) ∧
        List.Forall₂ (fun pair filtered => ConvolvedWith 2 4 g pair.1 filtered)
          [(constantRow 2 1, constantRow 2 0), (constantRow 2 2, constantRow 2 1)] outputs := by
  have fftwLength : nextNumberWithFactors2And3 (2 * 2) = 4 := by decide +kernel
  have vdspLength : 2 ^ (nextPowerOfTwo 2 + 1) = 4 := by decide +kernel
  refine ⟨⟨exactFftw_exact, exactVDsp_documented, by decide, by decide, one_pos, fftwLength,
    vdspLength⟩, ?_⟩
  apply smoothedFilterers_convolve exactFftw_exact exactVDsp_documented id Real.pi
    (show 0 < twoColumns.dimensions.u by decide) (show Even 2 by decide) one_pos rfl fftwLength
    vdspLength
  intro input output member
  rcases List.mem_cons.mp member with first | later
  · cases first
    exact ⟨rfl, rfl, rfl, rfl⟩
  · cases List.mem_singleton.mp later
    exact ⟨rfl, rfl, rfl, rfl⟩

end AthabascaRecon
