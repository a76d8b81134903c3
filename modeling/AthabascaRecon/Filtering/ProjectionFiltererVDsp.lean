import AthabascaRecon.Bonelab.FFTUtil
import AthabascaRecon.Filtering.ProjectionFiltererConvolution

/-!
# Filtering with vDSP

`ProjectionFilterer_vDSP` filters rows in split complex form, where the even pixels are the
real parts and the odd ones the imaginary parts. The functions of vDSP are parameters. When
they do what is documented the result is that of the convolution exactly for the rows that are
made of pairs (`vdsp_matches_convolution_iff`): the last pixel of a row with an odd width is
neither read nor written.
-/

set_option autoImplicit false

namespace AthabascaRecon

open Finset

/-- `DSPSplitComplex`. -/
structure SplitComplex (Value : Type) where
  realp : Samples Value
  imagp : Samples Value

inductive FftDirection where
  | forward
  | inverse
  deriving DecidableEq, Repr

/-- The functions of vDSP that are called, with their strides. An FFT setup is left out. -/
structure VDspFunctions (Value : Type) where
  ctoz : Samples Value → ℕ → SplitComplex Value → ℕ → ℕ → SplitComplex Value
  ztoc : SplitComplex Value → ℕ → Samples Value → ℕ → ℕ → Samples Value
  vmul : Samples Value → ℕ → Samples Value → ℕ → Samples Value → ℕ → ℕ → Samples Value
  fftZrip : SplitComplex Value → ℕ → ℕ → FftDirection → SplitComplex Value

section Filterer

variable {Value : Type} [Field Value]

/-- The members that `Initialize` sets and `Destroy` unsets. -/
structure VDspMembers (Value : Type) where
  powerOfTwo : ℕ
  fftLength : ℕ
  scratch : SplitComplex Value
  rampFilter : SplitComplex Value

/-- A `ProjectionFilterer_vDSP`. -/
structure ProjectionFiltererVDsp (Value : Type) extends ProjectionFilterer Value where
  members : Option (VDspMembers Value)

namespace ProjectionFiltererVDsp

/-- Multiplying the ramp filter with a transfer function. The Nyquist component is in the
imaginary part of the first element. -/
def smooth (vdsp : VDspFunctions Value) (fftLength : ℕ) (transferFunction : Samples Value)
    (rampFilter : SplitComplex Value) : SplitComplex Value :=
  let nyquistComponent := rampFilter.imagp 0 * transferFunction (fftLength / 2)
  let realp :=
    vdsp.vmul rampFilter.realp 1 transferFunction 1 rampFilter.realp 1 (fftLength / 2)
  { realp := realp
    imagp := Function.update rampFilter.imagp 0 nyquistComponent }

/-- `Initialize`, with what is in the memory that the arrays get. -/
def initializeFilterer [LT Value] [DecidableLT Value] (vdsp : VDspFunctions Value) (pi : Value)
    (scratchMemory rampMemory : SplitComplex Value) (kernelMemory : Samples Value)
    (filterer : ProjectionFiltererVDsp Value) :
    Except FilterError (ProjectionFiltererVDsp Value) := do
  athabascaAssert (¬ filterer.members.isSome)
  athabascaAssert (0 < filterer.weight)
  let powerOfTwo := nextPowerOfTwo filterer.dimensions.u + 1
  let fftLength := 2 ^ powerOfTwo
  let factor := filterer.weight / (4 * fftLength : ℕ)
  let rampFilterGenerator : RampFilterRealSpace Value :=
    ⟨fftLength, filterer.pixelSpacing, factor⟩
  let rampFilterRealSpace ← rampFilterGenerator.constructRealSpaceFilter pi kernelMemory
  let rampFilter := vdsp.ctoz rampFilterRealSpace 2 rampMemory 1 (fftLength / 2)
  let rampFilter := vdsp.fftZrip rampFilter 1 powerOfTwo .forward
  let rampFilter := match filterer.smoothingFilter with
    | none => rampFilter
    | some constructTransferFunction =>
      smooth vdsp fftLength (constructTransferFunction fftLength) rampFilter
  return { filterer with
    members := some
      { powerOfTwo := powerOfTwo
        fftLength := fftLength
        scratch := scratchMemory
        rampFilter := rampFilter } }

/-- `memset` with zero bytes from an element on. The number of bytes is given in halves of an
element, and `halfZeroed` is the value of an element when the first half of its bytes has
been zeroed. -/
def zeroHalves (halfZeroed : Value → Value) (start halves : ℕ) (target : Samples Value) :
    Samples Value := fun position =>
  if start ≤ position ∧ position < start + halves / 2 then 0
  else if position = start + halves / 2 ∧ ¬ Even halves then halfZeroed (target position)
  else target position

/-- The body of the loop over the rows, for a number of columns. -/
def filterRow (vdsp : VDspFunctions Value) (halfZeroed : Value → Value) (powerOfTwo fftLength : ℕ)
    (rampFilter : SplitComplex Value) (inputColumns outputColumns : ℕ)
    (scratch : SplitComplex Value) (inputRow outputRow : Samples Value) :
    SplitComplex Value × Samples Value :=
  let scratch := vdsp.ctoz inputRow 2 scratch 1 (inputColumns / 2)
  -- `sizeof(TValue) * (fftLength - inputColumns) / 2` bytes
  let remaining := fftLength - inputColumns
  let scratch : SplitComplex Value :=
    { realp := zeroHalves halfZeroed (inputColumns / 2) remaining scratch.realp
      imagp := zeroHalves halfZeroed (inputColumns / 2) remaining scratch.imagp }
  let scratch := vdsp.fftZrip scratch 1 powerOfTwo .forward
  let nyquistComponent := scratch.imagp 0 * rampFilter.imagp 0
  let realp := vdsp.vmul scratch.realp 1 rampFilter.realp 1 scratch.realp 1 (fftLength / 2)
  let imagp := vdsp.vmul scratch.imagp 1 rampFilter.realp 1 scratch.imagp 1 (fftLength / 2)
  let scratch : SplitComplex Value :=
    { realp := realp
      imagp := Function.update imagp 0 nyquistComponent }
  let scratch := vdsp.fftZrip scratch 1 powerOfTwo .inverse
  (scratch, vdsp.ztoc scratch 1 outputRow 2 (outputColumns / 2))

/-- `FilterProjection`. -/
def filterProjection [DecidableEq Value] (vdsp : VDspFunctions Value) (halfZeroed : Value → Value)
    (filterer : ProjectionFiltererVDsp Value) (input output : Image2 Value) :
    Except FilterError (ProjectionFiltererVDsp Value × Image2 Value) :=
  match filterer.members with
  | none => .error .assertionFailed
  | some members => do
    athabascaAssert (input.dims.v = output.dims.v)
    athabascaAssert (output.dims.u ≤ input.dims.u)
    athabascaAssert (input.dims.u ≤ members.fftLength)
    athabascaAssert (members.fftLength = 2 ^ members.powerOfTwo)
    athabascaAssert (input.spacing.u = filterer.pixelSpacing)
    let (scratch, output) := filterRows
      (filterRow vdsp halfZeroed members.powerOfTwo members.fftLength members.rampFilter
        input.dims.u output.dims.u) input input.dims.v (members.scratch, output)
    return ({ filterer with members := some { members with scratch := scratch } }, output)

/-- What `Initialize` sets without a smoothing filter, with some content of the scratch
buffer. -/
def readyMembers (vdsp : VDspFunctions Value) (pi : Value) (rampMemory : SplitComplex Value)
    (kernelMemory : Samples Value) (filterer : ProjectionFilterer Value)
    (scratch : SplitComplex Value) : VDspMembers Value :=
  let powerOfTwo := nextPowerOfTwo filterer.dimensions.u + 1
  let fftLength := 2 ^ powerOfTwo
  { powerOfTwo := powerOfTwo
    fftLength := fftLength
    scratch := scratch
    rampFilter := vdsp.fftZrip (vdsp.ctoz
      ((filterer.rampFilter fftLength
        (filterer.weight / (4 * fftLength : ℕ))).realSpaceFilter pi kernelMemory) 2
      rampMemory 1 (fftLength / 2)) 1 powerOfTwo .forward }

/-- The filterer after `Initialize`. -/
def ready (vdsp : VDspFunctions Value) (pi : Value) (rampMemory : SplitComplex Value)
    (kernelMemory : Samples Value) (filterer : ProjectionFilterer Value)
    (scratch : SplitComplex Value) : ProjectionFiltererVDsp Value :=
  ⟨filterer, some (readyMembers vdsp pi rampMemory kernelMemory filterer scratch)⟩

theorem initializeFilterer_eq [LT Value] [DecidableLT Value] (vdsp : VDspFunctions Value)
    (pi : Value) {filterer : ProjectionFilterer Value} (positive : 0 < filterer.weight)
    (unsmoothed : filterer.smoothingFilter = none) (scratchMemory rampMemory : SplitComplex Value)
    (kernelMemory : Samples Value) :
    initializeFilterer vdsp pi scratchMemory rampMemory kernelMemory ⟨filterer, none⟩ =
      .ok (ready vdsp pi rampMemory kernelMemory filterer scratchMemory) := by
  let fftLength := 2 ^ (nextPowerOfTwo filterer.dimensions.u + 1)
  have constructed := (filterer.rampFilter fftLength
    (filterer.weight / (4 * fftLength : ℕ))).constructRealSpaceFilter_eq pi
      (Nat.two_pow_pos _) kernelMemory
  unfold initializeFilterer
  dsimp only
  rw [athabascaAssert_of (by simp), athabascaAssert_of positive, unsmoothed]
  show (RampFilterRealSpace.constructRealSpaceFilter pi (filterer.rampFilter _ _)
    kernelMemory).bind _ = _
  rw [constructed]
  rfl

/-- `FilterProjection` runs the loop over the rows and only changes the scratch buffer. -/
theorem filterProjection_eq [DecidableEq Value] (vdsp : VDspFunctions Value)
    (halfZeroed : Value → Value) {filterer : ProjectionFilterer Value}
    {members : VDspMembers Value} {input output : Image2 Value}
    (accepted : filterer.Accepts input output) (fits : input.dims.u ≤ members.fftLength)
    (power : members.fftLength = 2 ^ members.powerOfTwo) :
    (ProjectionFiltererVDsp.mk filterer (some members)).filterProjection vdsp halfZeroed input
        output =
      let after := filterRows
        (filterRow vdsp halfZeroed members.powerOfTwo members.fftLength members.rampFilter
          input.dims.u output.dims.u) input input.dims.v (members.scratch, output)
      .ok (⟨filterer, some { members with scratch := after.1 }⟩, after.2) := by
  have narrower : output.dims.u ≤ input.dims.u := by
    rw [accepted.inputColumns, accepted.outputColumns]
  unfold filterProjection
  dsimp only
  rw [athabascaAssert_of accepted.rows, athabascaAssert_of narrower, athabascaAssert_of fits,
    athabascaAssert_of power, athabascaAssert_of accepted.spacing]
  rfl

end ProjectionFiltererVDsp

end Filterer

/-! ## The documented functions -/

/-- Pairs of elements are in split complex form. -/
def HoldsPairs (pairs : ℕ) (z : SplitComplex ℝ) (x : Samples ℝ) : Prop :=
  ∀ k, k < pairs → z.realp k = x (2 * k) ∧ z.imagp k = x (2 * k + 1)

/-- The transform of a real sequence is in packed form. -/
structure HoldsPacked (length : ℕ) (z : SplitComplex ℝ) (x : Samples ℝ) : Prop where
  zero : z.realp 0 = (RealDft.spectrum length x 0).re
  nyquist : z.imagp 0 = (RealDft.spectrum length x (length / 2)).re
  inner : ∀ k, 0 < k → k < length / 2 → z.realp k = (RealDft.spectrum length x k).re ∧
    z.imagp k = (RealDft.spectrum length x k).im

/-- What is documented of the functions, with the strides that are used. A transform is scaled
by two, and there and back again by twice the length. -/
structure VDspFunctions.Documented (vdsp : VDspFunctions ℝ) : Prop where
  ctoz_pairs : ∀ c z n, HoldsPairs n (vdsp.ctoz c 2 z 1 n) c
  ctoz_rest : ∀ c z n k, n ≤ k → (vdsp.ctoz c 2 z 1 n).realp k = z.realp k ∧
    (vdsp.ctoz c 2 z 1 n).imagp k = z.imagp k
  ztoc_pairs : ∀ z c n, HoldsPairs n z (vdsp.ztoc z 1 c 2 n)
  ztoc_rest : ∀ z c n k, 2 * n ≤ k → vdsp.ztoc z 1 c 2 n k = c k
  vmul : ∀ a b c n k, vdsp.vmul a 1 b 1 c 1 n k = if k < n then a k * b k else c k
  forward : ∀ (z : SplitComplex ℝ) (x : Samples ℝ) (p : ℕ), 0 < p → HoldsPairs (2 ^ p / 2) z x →
    HoldsPacked (2 ^ p) (vdsp.fftZrip z 1 p .forward) fun n => 2 * x n
  inverse : ∀ (z : SplitComplex ℝ) (x : Samples ℝ) (p : ℕ), 0 < p →
    HoldsPacked (2 ^ p) z (fun n => 2 * x n) →
    HoldsPairs (2 ^ p / 2) (vdsp.fftZrip z 1 p .inverse) fun n => 2 ^ (p + 1) * x n

namespace ProjectionFiltererVDsp

/-- The scratch buffer has the padded row when the row is made of pairs. -/
theorem holdsPairs_padded {vdsp : VDspFunctions ℝ} (documented : vdsp.Documented)
    (halfZeroed : ℝ → ℝ) {columns length : ℕ} (even : Even columns) (evenLength : Even length)
    (fits : columns ≤ length) (scratch : SplitComplex ℝ) (row : Samples ℝ) :
    HoldsPairs (length / 2)
      ⟨zeroHalves halfZeroed (columns / 2) (length - columns)
          (vdsp.ctoz row 2 scratch 1 (columns / 2)).realp,
        zeroHalves halfZeroed (columns / 2) (length - columns)
          (vdsp.ctoz row 2 scratch 1 (columns / 2)).imagp⟩
      fun m => if m < columns then row m else 0 := by
  obtain ⟨pairs, rfl⟩ := even
  obtain ⟨half, rfl⟩ := evenLength
  have pairs_eq : (pairs + pairs) / 2 = pairs := by omega
  rw [pairs_eq]
  intro k inside
  unfold zeroHalves
  dsimp only
  by_cases copied : k < pairs
  · obtain ⟨real, imaginary⟩ := documented.ctoz_pairs row scratch pairs k copied
    rw [if_neg (by omega), if_neg (by omega), if_pos (by omega), if_neg (by omega),
      if_neg (by omega), if_pos (by omega), real, imaginary]
    exact ⟨rfl, rfl⟩
  · rw [if_pos (by omega), if_neg (by omega), if_pos (by omega), if_neg (by omega)]
    exact ⟨rfl, rfl⟩

/-- The transform of the circular convolution with an even sequence, with the scale of both. -/
theorem spectrum_product {length : ℕ} (some_elements : 0 < length) (x : Samples ℝ) {f : Samples ℝ}
    (even : ∀ n, 0 < n → n < length → f (length - n) = f n) (k : ℕ) :
    RealDft.spectrum length (fun n => 2 * (2 * RealDft.circular length x f n)) k =
      RealDft.spectrum length (fun n => 2 * x n) k *
        (RealDft.spectrum length (fun n => 2 * f n) k).re := by
  have nonzero : NeZero length := ⟨some_elements.ne'⟩
  have real : ((RealDft.spectrum length (fun n => 2 * f n) k).re : ℂ) =
      RealDft.spectrum length (fun n => 2 * f n) k := by
    have scaled : ∀ n, 0 < n → n < length → 2 * f (length - n) = 2 * f n := by
      intro n positive inside
      rw [even n positive inside]
    apply Complex.ext
    · rw [Complex.ofReal_re]
    · rw [Complex.ofReal_im, RealDft.spectrum_im_of_even scaled]
  rw [real, RealDft.spectrum_const_mul, RealDft.spectrum_const_mul, RealDft.spectrum_circular,
    RealDft.spectrum_const_mul, RealDft.spectrum_const_mul]
  ring

/-- Multiplying with a real transform gives the transform of the circular convolution. -/
theorem holdsPacked_product {vdsp : VDspFunctions ℝ} (documented : vdsp.Documented) {length : ℕ}
    (some_pairs : 0 < length / 2) {x f : Samples ℝ} {scratch rampFilter : SplitComplex ℝ}
    (row : HoldsPacked length scratch fun n => 2 * x n)
    (ramp : HoldsPacked length rampFilter fun n => 2 * f n)
    (even : ∀ n, 0 < n → n < length → f (length - n) = f n) :
    HoldsPacked length
      ⟨vdsp.vmul scratch.realp 1 rampFilter.realp 1 scratch.realp 1 (length / 2),
        Function.update
          (vdsp.vmul scratch.imagp 1 rampFilter.realp 1 scratch.imagp 1 (length / 2)) 0
          (scratch.imagp 0 * rampFilter.imagp 0)⟩
      fun n => 2 * (2 * RealDft.circular length x f n) where
  zero := by
    rw [spectrum_product (by omega) x even, Complex.re_mul_ofReal]
    dsimp only
    rw [documented.vmul, if_pos some_pairs, row.zero, ramp.zero]
  nyquist := by
    rw [spectrum_product (by omega) x even, Complex.re_mul_ofReal]
    dsimp only
    rw [Function.update_self, row.nyquist, ramp.nyquist]
  inner k positive inside := by
    rw [spectrum_product (by omega) x even, Complex.re_mul_ofReal, Complex.im_mul_ofReal]
    dsimp only
    rw [Function.update_of_ne positive.ne', documented.vmul, documented.vmul, if_pos inside,
      if_pos inside, (row.inner k positive inside).1, (row.inner k positive inside).2,
      (ramp.inner k positive inside).1]
    exact ⟨rfl, rfl⟩

/-- Pairs that are written are the elements in their order. -/
theorem ztoc_apply {vdsp : VDspFunctions ℝ} (documented : vdsp.Documented) {pairs available : ℕ}
    {z : SplitComplex ℝ} {x : Samples ℝ} (holds : HoldsPairs available z x)
    (enough : pairs ≤ available) (c : Samples ℝ) {j : ℕ} (inside : j < 2 * pairs) :
    vdsp.ztoc z 1 c 2 pairs j = x j := by
  obtain ⟨real, imaginary⟩ := documented.ztoc_pairs z c pairs (j / 2) (by omega)
  obtain ⟨first, second⟩ := holds (j / 2) (by omega)
  rcases Nat.even_or_odd' j with ⟨k, rfl | rfl⟩
  · rw [Nat.mul_div_cancel_left k (by decide)] at real first
    rw [← real, first]
  · have pair : (2 * k + 1) / 2 = k := by omega
    rw [pair] at imaginary second
    rw [← imaginary, second]

/-- A row that is made of pairs becomes the circular convolution of the padded row. -/
theorem filterRow_circular {vdsp : VDspFunctions ℝ} (documented : vdsp.Documented)
    (halfZeroed : ℝ → ℝ) {power : ℕ} {rampFilter : SplitComplex ℝ} {f : Samples ℝ}
    (ramp : HoldsPacked (2 ^ (power + 1)) rampFilter fun n => 2 * f n)
    (symmetric : ∀ n, 0 < n → n < 2 ^ (power + 1) → f (2 ^ (power + 1) - n) = f n)
    {columns : ℕ} (even : Even columns) (fits : columns ≤ 2 ^ (power + 1))
    (scratch : SplitComplex ℝ) (inputRow outputRow : Samples ℝ) {j : ℕ} (column : j < columns) :
    (filterRow vdsp halfZeroed (power + 1) (2 ^ (power + 1)) rampFilter columns columns scratch
        inputRow outputRow).2 j =
      (4 * 2 ^ (power + 1) : ℕ) * RealDft.circular (2 ^ (power + 1))
        (fun m => if m < columns then inputRow m else 0) f j := by
  have length_eq : 2 ^ (power + 1) = 2 * 2 ^ power := pow_succ' 2 power
  have half_pos : 0 < 2 ^ power := Nat.two_pow_pos power
  have padded := holdsPairs_padded documented halfZeroed even (length_eq ▸ even_two_mul _) fits
    scratch inputRow
  have transformed := documented.forward _ _ (power + 1) (Nat.succ_pos power) padded
  have product := holdsPacked_product documented (by omega) transformed ramp symmetric
  have back := documented.inverse _ _ (power + 1) (Nat.succ_pos power) product
  have scale : ((4 * 2 ^ (power + 1) : ℕ) : ℝ) = 2 ^ (power + 1 + 1) * 2 := by
    push_cast
    ring
  have twice : columns = 2 * (columns / 2) := (Nat.mul_div_cancel' even.two_dvd).symm
  unfold filterRow
  dsimp only
  rw [ztoc_apply documented back (by omega) outputRow (by omega), scale, mul_assoc]

theorem holdsPacked_ramp {vdsp : VDspFunctions ℝ} (documented : vdsp.Documented) (pi : ℝ)
    (filterer : ProjectionFilterer ℝ) (rampMemory scratch : SplitComplex ℝ)
    (kernelMemory : Samples ℝ) :
    HoldsPacked (2 ^ (nextPowerOfTwo filterer.dimensions.u + 1))
      (readyMembers vdsp pi rampMemory kernelMemory filterer scratch).rampFilter
      fun n => 2 * (filterer.rampFilter (2 ^ (nextPowerOfTwo filterer.dimensions.u + 1))
        (filterer.weight / (4 * 2 ^ (nextPowerOfTwo filterer.dimensions.u + 1) :
          ℕ))).realSpaceFilter pi kernelMemory n := by
  apply documented.forward _ _ _ (Nat.succ_pos _)
  exact documented.ctoz_pairs _ _ _

/-- **A row that is made of pairs is convolved.** -/
theorem filterRow_apply {vdsp : VDspFunctions ℝ} (documented : vdsp.Documented)
    (halfZeroed : ℝ → ℝ) (pi : ℝ) {filterer : ProjectionFilterer ℝ}
    (even : Even filterer.dimensions.u) (rampMemory scratch before : SplitComplex ℝ)
    (kernelMemory inputRow outputRow : Samples ℝ) {j : ℕ} (column : j < filterer.dimensions.u) :
    (filterRow vdsp halfZeroed (nextPowerOfTwo filterer.dimensions.u + 1)
      (2 ^ (nextPowerOfTwo filterer.dimensions.u + 1))
      (readyMembers vdsp pi rampMemory kernelMemory filterer before).rampFilter
      filterer.dimensions.u filterer.dimensions.u scratch inputRow outputRow).2 j =
        filterer.convolved pi inputRow j := by
  have large := le_two_pow_nextPowerOfTwo filterer.dimensions.u
  have length_eq : 2 ^ (nextPowerOfTwo filterer.dimensions.u + 1) =
      2 * 2 ^ nextPowerOfTwo filterer.dimensions.u := pow_succ' 2 _
  have factor_ne : ((4 * 2 ^ (nextPowerOfTwo filterer.dimensions.u + 1) : ℕ) : ℝ) ≠ 0 :=
    Nat.cast_ne_zero.mpr (by omega)
  rw [filterRow_circular documented halfZeroed
    (holdsPacked_ramp documented pi filterer rampMemory before kernelMemory)
    (fun n positive inside => RampFilterRealSpace.realSpaceFilter_even _ positive inside) even
    (by omega) scratch inputRow outputRow column]
  apply circular_ramp pi (by omega) factor_ne _ _ kernelMemory column
  · intro m inside
    exact if_pos inside
  · intro m outside _
    exact if_neg (by omega)

/-- **The last pixel of a row with an odd width is what it was before.** -/
theorem filterRow_last {vdsp : VDspFunctions ℝ} (documented : vdsp.Documented)
    (halfZeroed : ℝ → ℝ) (powerOfTwo fftLength : ℕ) (rampFilter scratch : SplitComplex ℝ)
    {columns : ℕ} (odd : ¬ Even columns) (inputRow outputRow : Samples ℝ) :
    (filterRow vdsp halfZeroed powerOfTwo fftLength rampFilter columns columns scratch inputRow
      outputRow).2 (columns - 1) = outputRow (columns - 1) := by
  rw [Nat.not_even_iff] at odd
  exact documented.ztoc_rest _ _ _ _ (by omega)

/-- `FilterProjection` runs the rows from some scratch content, and only changes it. -/
theorem filterProjection_ready (vdsp : VDspFunctions ℝ) (halfZeroed : ℝ → ℝ) (pi : ℝ)
    {filterer : ProjectionFilterer ℝ} {input output : Image2 ℝ}
    (accepted : filterer.Accepts input output) (rampMemory scratch : SplitComplex ℝ)
    (kernelMemory : Samples ℝ) :
    ∃ after filtered,
      (ready vdsp pi rampMemory kernelMemory filterer scratch).filterProjection vdsp halfZeroed
        input output = .ok (ready vdsp pi rampMemory kernelMemory filterer after, filtered) ∧
      ∀ i < input.dims.v, ∃ before, ∀ j : ℕ,
        filtered.pixel i j =
          (filterRow vdsp halfZeroed (nextPowerOfTwo filterer.dimensions.u + 1)
            (2 ^ (nextPowerOfTwo filterer.dimensions.u + 1))
            (readyMembers vdsp pi rampMemory kernelMemory filterer scratch).rampFilter
            filterer.dimensions.u filterer.dimensions.u before (input.row i)
            (output.row i)).2 j := by
  have large := le_two_pow_nextPowerOfTwo filterer.dimensions.u
  have fits : input.dims.u ≤ 2 ^ (nextPowerOfTwo filterer.dimensions.u + 1) := by
    rw [accepted.inputColumns, pow_succ]
    omega
  let members := readyMembers vdsp pi rampMemory kernelMemory filterer scratch
  refine ⟨_, _, filterProjection_eq vdsp halfZeroed accepted fits rfl, ?_⟩
  intro i row
  obtain ⟨before, filtered⟩ := filterRows_row (filterRow vdsp halfZeroed members.powerOfTwo
    members.fftLength members.rampFilter input.dims.u output.dims.u) input row
    (members.scratch, output)
  refine ⟨before, ?_⟩
  intro j
  rw [filtered, accepted.inputColumns, accepted.outputColumns]
  rfl

end ProjectionFiltererVDsp

/-- vDSP gives the pixels that the convolution gives, for the rows of some width and whatever
the arrays hold. -/
def VDspMatchesConvolution (vdsp : VDspFunctions ℝ) (halfZeroed : ℝ → ℝ) (width : ℕ) : Prop :=
  ∀ (pi : ℝ) (filterer : ProjectionFilterer ℝ), filterer.dimensions.u = width →
    filterer.smoothingFilter = none → 0 < filterer.pixelSpacing → 0 < filterer.weight →
    ∀ input output, filterer.Accepts input output →
    ∀ (scratchMemory rampMemory scratch : SplitComplex ℝ) (vdspMemory kernelMemory : Samples ℝ),
    ∃ convolution after filtered convolved,
      ProjectionFiltererVDsp.initializeFilterer vdsp pi scratchMemory rampMemory vdspMemory
        ⟨filterer, none⟩ =
          .ok (.ready vdsp pi rampMemory vdspMemory filterer scratchMemory) ∧
      ProjectionFiltererConvolution.initializeFilterer pi kernelMemory ⟨filterer, none⟩ =
        .ok convolution ∧
      (ProjectionFiltererVDsp.ready vdsp pi rampMemory vdspMemory filterer
        scratch).filterProjection vdsp halfZeroed input output =
          .ok (.ready vdsp pi rampMemory vdspMemory filterer after, filtered) ∧
      convolution.filterProjection input output = .ok convolved ∧
      ∀ i j : ℕ, i < input.dims.v → j < input.dims.u →
        filtered.pixel i j = convolved.pixel i j

/-- The rows of an even width are filtered as by the convolution. -/
theorem vdspMatchesConvolution_of_even {vdsp : VDspFunctions ℝ} (documented : vdsp.Documented)
    (halfZeroed : ℝ → ℝ) {width : ℕ} (some_pixels : 0 < width) (even : Even width) :
    VDspMatchesConvolution vdsp halfZeroed width := by
  rintro pi filterer rfl unsmoothed - positive input output accepted scratchMemory rampMemory
    scratch vdspMemory kernelMemory
  obtain ⟨after, filtered, transformed, rows⟩ := ProjectionFiltererVDsp.filterProjection_ready
    vdsp halfZeroed pi accepted rampMemory scratch vdspMemory
  obtain ⟨convolved, summed, sums⟩ :=
    ProjectionFiltererConvolution.filterProjection_ready pi accepted kernelMemory
  refine ⟨.ready pi filterer kernelMemory, after, filtered, convolved,
    ProjectionFiltererVDsp.initializeFilterer_eq vdsp pi positive unsmoothed _ _ _,
    ProjectionFiltererConvolution.initializeFilterer_eq pi some_pixels unsmoothed _,
    transformed, summed, ?_⟩
  intro i j row column
  rw [accepted.inputColumns] at column
  obtain ⟨before, pixels⟩ := rows i row
  rw [pixels, sums i j row column]
  exact ProjectionFiltererVDsp.filterRow_apply documented halfZeroed pi even _ _ _ _ _ _ column

/-- A projection with one row of zeros, and an output that holds ones. -/
def constantRow (width : ℕ) (value : ℝ) : Image2 ℝ :=
  ⟨⟨1, width⟩, ⟨1, 1⟩, ⟨0, 0⟩, fun _ _ => value⟩

def singleRow (width : ℕ) : ProjectionFilterer ℝ := ⟨⟨1, width⟩, 1, 1, none⟩

/-- The last pixel of an odd row of zeros keeps the one that the output had. -/
theorem not_vdspMatchesConvolution_of_odd {vdsp : VDspFunctions ℝ}
    (documented : vdsp.Documented) (halfZeroed : ℝ → ℝ) {width : ℕ} (odd : ¬ Even width) :
    ¬ VDspMatchesConvolution vdsp halfZeroed width := by
  intro every
  have some_pixels : 0 < width := Nat.pos_of_ne_zero fun zero => odd (zero ▸ Even.zero)
  have accepted : (singleRow width).Accepts (constantRow width 0) (constantRow width 1) :=
    ⟨rfl, rfl, rfl, rfl⟩
  let memory : SplitComplex ℝ := ⟨0, 0⟩
  obtain ⟨convolution, after, filtered, convolved, -, ready, transformed, summed, same⟩ :=
    every 1 (singleRow width) rfl rfl one_pos one_pos _ _ accepted memory memory memory 0 0
  obtain ⟨_, _, transformed_again, rows⟩ := ProjectionFiltererVDsp.filterProjection_ready
    vdsp halfZeroed 1 accepted memory memory 0
  obtain ⟨_, summed_again, sums⟩ :=
    ProjectionFiltererConvolution.filterProjection_ready 1 accepted 0
  rw [ProjectionFiltererConvolution.initializeFilterer_eq 1 some_pixels rfl] at ready
  cases ready
  rw [transformed_again] at transformed
  rw [summed_again] at summed
  cases transformed
  cases summed
  obtain ⟨before, pixels⟩ := rows 0 one_pos
  have kept : filtered.pixel (0 : ℕ) (width - 1 : ℕ) = 1 := by
    rw [pixels]
    exact ProjectionFiltererVDsp.filterRow_last documented halfZeroed _ _ _ before odd _ _
  have zero : convolved.pixel (0 : ℕ) (width - 1 : ℕ) = 0 := by
    rw [sums 0 (width - 1) one_pos (show width - 1 < width by omega)]
    apply sum_eq_zero
    intro k _
    exact zero_mul _
  rw [same 0 (width - 1) one_pos (show width - 1 < width by omega), zero] at kept
  exact zero_ne_one kept

/-- **vDSP filters as the convolution exactly for even widths.** -/
theorem vdsp_matches_convolution_iff {vdsp : VDspFunctions ℝ} (documented : vdsp.Documented)
    (halfZeroed : ℝ → ℝ) {width : ℕ} (some_pixels : 0 < width) :
    VDspMatchesConvolution vdsp halfZeroed width ↔ Even width := by
  constructor
  · intro every
    by_contra odd
    exact not_vdspMatchesConvolution_of_odd documented halfZeroed odd every
  · exact vdspMatchesConvolution_of_even documented halfZeroed some_pixels

/-- Functions that do what is documented. -/
noncomputable def exactVDsp : VDspFunctions ℝ where
  ctoz c strideC z _ n :=
    { realp := fun k => if k < n then c (strideC * k) else z.realp k
      imagp := fun k => if k < n then c (strideC * k + 1) else z.imagp k }
  ztoc z _ c strideC n := fun position =>
    if position < strideC * n then
      if Even position then z.realp (position / strideC) else z.imagp (position / strideC)
    else c position
  vmul a _ b _ c _ n := fun k => if k < n then a k * b k else c k
  fftZrip z _ powerOfTwo direction :=
    let length := 2 ^ powerOfTwo
    match direction with
    | .forward =>
      let x : Samples ℝ := fun n => if Even n then z.realp (n / 2) + z.realp (n / 2)
        else z.imagp (n / 2) + z.imagp (n / 2)
      { realp := fun k => (RealDft.spectrum length x k).re
        imagp := fun k =>
          if k = 0 then (RealDft.spectrum length x (length / 2)).re
          else (RealDft.spectrum length x k).im }
    | .inverse =>
      let x := RealDft.inverse length (RealDft.hermitian length fun k =>
        if k = 0 then ⟨z.realp 0, 0⟩
        else if k = length / 2 then ⟨z.imagp 0, 0⟩
        else ⟨z.realp k, z.imagp k⟩)
      { realp := fun k => x (2 * k)
        imagp := fun k => x (2 * k + 1) }

theorem exactVDsp_documented : exactVDsp.Documented where
  ctoz_pairs c z n := by
    intro k inside
    exact ⟨if_pos inside, if_pos inside⟩
  ctoz_rest c z n k outside := ⟨if_neg (by omega), if_neg (by omega)⟩
  ztoc_pairs z c n := by
    intro k inside
    have pair : (2 * k + 1) / 2 = k := by omega
    constructor
    · show _ = if _ then _ else _
      rw [if_pos (by omega), if_pos (even_two_mul k), Nat.mul_div_cancel_left k (by decide)]
    · show _ = if _ then _ else _
      rw [if_pos (by omega), if_neg (by simp), pair]
  ztoc_rest z c n k outside := if_neg (by omega)
  vmul a b c n k := rfl
  forward z x p positive holds := by
    have even : 2 ^ p = 2 * (2 ^ p / 2) :=
      (Nat.mul_div_cancel' (dvd_pow_self 2 positive.ne')).symm
    have same (k : ℕ) : RealDft.spectrum (2 ^ p)
        (fun n => if Even n then z.realp (n / 2) + z.realp (n / 2)
          else z.imagp (n / 2) + z.imagp (n / 2)) k =
          RealDft.spectrum (2 ^ p) (fun n => 2 * x n) k := by
      apply RealDft.spectrum_congr
      intro n inside
      obtain ⟨real, imaginary⟩ := holds (n / 2) (by omega)
      rcases Nat.even_or_odd' n with ⟨pair, rfl | rfl⟩
      · rw [Nat.mul_div_cancel_left pair (by decide)] at real ⊢
        rw [if_pos (even_two_mul pair), real, two_mul (x _)]
      · have half : (2 * pair + 1) / 2 = pair := by omega
        rw [half] at imaginary ⊢
        rw [if_neg (by simp), imaginary, two_mul (x _)]
    refine ⟨congrArg Complex.re (same 0), congrArg Complex.re (same (2 ^ p / 2)), ?_⟩
    intro k some_frequency _
    exact ⟨congrArg Complex.re (same k),
      (if_neg some_frequency.ne').trans (congrArg Complex.im (same k))⟩
  inverse z x p positive packed := by
    have even : 2 ^ p = 2 * (2 ^ p / 2) :=
      (Nat.mul_div_cancel' (dvd_pow_self 2 positive.ne')).symm
    have nonzero : NeZero (2 ^ p) := ⟨(Nat.two_pow_pos p).ne'⟩
    have half : ∀ k, k ≤ 2 ^ p / 2 →
        (if k = 0 then ⟨z.realp 0, 0⟩
          else if k = 2 ^ p / 2 then ⟨z.imagp 0, 0⟩
          else ⟨z.realp k, z.imagp k⟩ : ℂ) = RealDft.spectrum (2 ^ p) (fun n => 2 * x n) k := by
      intro k inside
      split_ifs with first last
      · subst first
        exact Complex.ext packed.zero (RealDft.spectrum_zero_im _).symm
      · subst last
        exact Complex.ext packed.nyquist (RealDft.spectrum_half_im _ even).symm
      · obtain ⟨real, imaginary⟩ := packed.inner k (Nat.pos_of_ne_zero first) (by omega)
        exact Complex.ext real imaginary
    have found {n : ℕ} (inside : n < 2 ^ p) := RealDft.inverse_hermitian half inside
    have scale (value : ℝ) : ((2 ^ p : ℕ) : ℝ) * (2 * value) = 2 ^ (p + 1) * value := by
      push_cast
      ring
    intro k inside
    exact ⟨(found (by omega)).trans (scale _), (found (by omega)).trans (scale _)⟩

theorem vdsp_matches_convolution_six :
    (exactVDsp.Documented ∧ 0 < 6) ∧ VDspMatchesConvolution exactVDsp id 6 :=
  ⟨⟨exactVDsp_documented, by decide⟩,
    (vdsp_matches_convolution_iff exactVDsp_documented id (by decide)).mpr (by decide)⟩

/-- A row of three pixels keeps the third one that the output had. -/
theorem not_vdspMatchesConvolution_three :
    exactVDsp.Documented ∧ ¬ VDspMatchesConvolution exactVDsp id 3 :=
  ⟨exactVDsp_documented,
    not_vdspMatchesConvolution_of_odd exactVDsp_documented id (by decide)⟩

end AthabascaRecon
