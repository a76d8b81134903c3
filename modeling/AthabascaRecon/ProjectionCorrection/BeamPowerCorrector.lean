import AthabascaRecon.Foundation.PartialValue
import AthabascaRecon.ProjectionCorrection.CTCalibration
import AthabascaRecon.ProjectionCorrection.CorrectBadPixels
import Mathlib.Analysis.SpecialFunctions.Log.Basic
import Mathlib.Tactic.LinearCombination

/-!
# Beam power correction with a constant and a linear term

`ManualBeamPowerCorrector` subtracts a number from all pixels that depends linearly on the
index of the projection. `BeforeAndAfterBrightFieldBeamPowerCorrector` calculates the linear
term from two bright fields: the decay between them is spread over the intervals between the
projections that are read and over those before and after the scan. When projections are left
out at the end of the file, the scan is taken to be shorter than it was, and the correction
depends on the stride (`keepsStride_iff`).
-/

set_option autoImplicit false

namespace AthabascaRecon

open Foundation

section Manual

variable {Value : Type}

/-- `BeamPowerCorrector::ShiftProjection`. -/
def shiftProjection [Add Value] (projection : Image2 Value) (shift : Value) : Image2 Value :=
  projection.updatePixels fun _ value => value + shift

theorem shiftProjection_pixelAt [Add Value] {projection : Image2 Value} (shift : Value)
    {location : Tuple2 ℤ} (inside : projection.Contains location.v location.u) :
    (shiftProjection projection shift).pixelAt location = projection.pixelAt location + shift :=
  Image2.pixelAt_updatePixels _ inside

/-- Two shifts are one. -/
theorem shiftProjection_shiftProjection [AddSemigroup Value] (projection : Image2 Value)
    (first second : Value) :
    shiftProjection (shiftProjection projection first) second =
      shiftProjection projection (first + second) := by
  rw [shiftProjection, shiftProjection, Image2.updatePixels_updatePixels]
  simp only [add_assoc]
  rfl

theorem shiftProjection_zero [AddZeroClass Value] (projection : Image2 Value) :
    shiftProjection projection 0 = projection := by
  rw [shiftProjection]
  simp only [add_zero]
  exact projection.updatePixels_id

/-- `ManualBeamPowerCorrector`. -/
structure ManualBeamPowerCorrector (Value : Type) where
  beamDecayConstantTerm : Value
  beamDecayLinearTerm : Value
  deriving DecidableEq, Repr

namespace ManualBeamPowerCorrector

variable [Add Value] [Mul Value] [NatCast Value]

/-- What is subtracted from the projection with an index. -/
def correction (corrector : ManualBeamPowerCorrector Value) (index : ℕ) : Value :=
  corrector.beamDecayConstantTerm + index * corrector.beamDecayLinearTerm

/-- `ManualBeamPowerCorrector::ProcessProjection`: the projection that it leaves, and the
correction that it returns. -/
def processProjection [Neg Value] (corrector : ManualBeamPowerCorrector Value) (index : ℕ)
    (projection : Image2 Value) : Image2 Value × Value :=
  (shiftProjection projection (-corrector.correction index), corrector.correction index)

end ManualBeamPowerCorrector

end Manual

/-! ## The correctors that `Launch` makes -/

variable {Space : Type} [Field Space]

namespace CTCalibration

variable (calibration : CTCalibration Space)

/-- `GetBrightFieldAdvanceInterval`. -/
def advanceInterval : Space := calibration.brightFieldAdvanceInterval.getD 0

/-- `GetPostScanBrightFieldInterval`. -/
def postScanInterval : Space := calibration.postScanBrightFieldInterval.getD 0

end CTCalibration

/-- The number of projections that a stride leaves. -/
def processedProjections (numberOfProjections projectionStride : ℕ) : ℕ :=
  (numberOfProjections + projectionStride - 1) / projectionStride

/-- The sum over a bright field without the bad pixels. -/
def integratedField (badPixelCorrector : Option (FullBadPixelCorrector Space))
    (field : Image2 Space) : Space :=
  match badPixelCorrector with
  | none => field.sumPixels
  | some corrector => (corrector.zeroBadPixels field).sumPixels

/-- The intervals from the first bright field to the second one, in units of the distance of
two processed projections. -/
def projectionIntervals (calibration : CTCalibration Space)
    (numberOfProjections projectionStride : ℕ) : Space :=
  (numberOfProjections : Space) - 1 +
    (calibration.advanceInterval + calibration.postScanInterval) / projectionStride

variable [LinearOrder Space]

/-- `BeforeAndAfterBrightFieldBeamPowerCorrector::Initialize`: the terms that it sets. -/
def initializeBeforeAndAfter (logarithm : Space → Space) (calibration : CTCalibration Space)
    (numberOfProjections projectionStride : ℕ)
    (badPixelCorrector : Option (FullBadPixelCorrector Space)) :
    Except CalibrationFailure (ManualBeamPowerCorrector (PartialValue Space)) :=
  match calibration.postScanFlatField with
  | none => .error .assertionFailed
  | some postScanFlatField =>
    if 0 < numberOfProjections ∧ 0 < projectionStride ∧
        calibration.flatField.dims = postScanFlatField.dims then
      let linearTerm := .log logarithm
          (.number (integratedField badPixelCorrector calibration.flatField) /
            .number (integratedField badPixelCorrector postScanFlatField)) /
        .number (projectionIntervals calibration numberOfProjections projectionStride)
      .ok {
        beamDecayLinearTerm := linearTerm
        beamDecayConstantTerm :=
          .number calibration.advanceInterval * linearTerm / (projectionStride : ℕ) }
    else .error .assertionFailed

/-- The methods of beam power correction with a constant and a linear term. -/
inductive LinearBeamPowerMethod (Space : Type) where
  | manual (beamPowerDecayLinearTerm : Space)
  | beforeAndAfterBrightField (calibration : CTCalibration Space)
      (badPixelCorrector : Option (FullBadPixelCorrector Space))

/-- What `Launch` does for `Manual`. -/
def launchManual {Value : Type} [Mul Value] [NatCast Value]
    (beamPowerDecayConstantTerm beamPowerDecayLinearTerm : Value) (projectionStride : ℕ) :
    ManualBeamPowerCorrector Value where
  beamDecayConstantTerm := beamPowerDecayConstantTerm
  beamDecayLinearTerm := beamPowerDecayLinearTerm * projectionStride

/-- What `Launch` does for the methods, for a file with a number of projections. The constant
term of the configuration, which always has a value, replaces the one that is estimated. -/
def launchLinearBeamPower (logarithm : Space → Space) (beamPowerDecayConstantTerm : Space)
    (numberOfProjections projectionStride : ℕ) :
    LinearBeamPowerMethod Space →
      Except CalibrationFailure (ManualBeamPowerCorrector (PartialValue Space))
  | .manual beamPowerDecayLinearTerm =>
      .ok (launchManual (.number beamPowerDecayConstantTerm) (.number beamPowerDecayLinearTerm)
        projectionStride)
  | .beforeAndAfterBrightField calibration badPixelCorrector => do
      let corrector ← initializeBeforeAndAfter logarithm calibration
        (processedProjections numberOfProjections projectionStride) projectionStride
        badPixelCorrector
      return { corrector with beamDecayConstantTerm := .number beamPowerDecayConstantTerm }

/-! ## When the stride does not matter -/

/-- What the beam power has decayed by between the two bright fields. -/
def beamDecay (logarithm : Space → Space) (calibration : CTCalibration Space)
    (badPixelCorrector : Option (FullBadPixelCorrector Space)) : Space :=
  match calibration.postScanFlatField with
  | none => 0
  | some postScanFlatField =>
      logarithm (integratedField badPixelCorrector calibration.flatField /
        integratedField badPixelCorrector postScanFlatField)

/-- A calibration that the decay can be calculated from: both bright fields are there, their
quotient has a logarithm, and some time has passed between them. -/
structure Decays (calibration : CTCalibration Space)
    (badPixelCorrector : Option (FullBadPixelCorrector Space)) (numberOfProjections : ℕ) :
    Prop where
  fields : ∃ postScanFlatField, calibration.postScanFlatField = some postScanFlatField ∧
    calibration.flatField.dims = postScanFlatField.dims ∧
    0 < integratedField badPixelCorrector calibration.flatField /
      integratedField badPixelCorrector postScanFlatField
  advance : 0 ≤ calibration.advanceInterval
  postScan : 0 ≤ calibration.postScanInterval
  total : 0 < (numberOfProjections : Space) - 1 +
    (calibration.advanceInterval + calibration.postScanInterval)

/-- A method with what it needs. -/
def LinearBeamPowerMethod.Valid (numberOfProjections : ℕ) : LinearBeamPowerMethod Space → Prop
  | .manual _ => True
  | .beforeAndAfterBrightField calibration badPixelCorrector =>
      Decays calibration badPixelCorrector numberOfProjections

/-- With a stride the same number is subtracted from a processed projection as is subtracted
from it when all projections of the file are processed. -/
def StrideKept (logarithm : Space → Space) (constantTerm : Space)
    (numberOfProjections projectionStride p : ℕ) (method : LinearBeamPowerMethod Space) : Prop :=
  ∃ strided whole,
    launchLinearBeamPower logarithm constantTerm numberOfProjections projectionStride method =
        .ok strided ∧
      launchLinearBeamPower logarithm constantTerm numberOfProjections 1 method = .ok whole ∧
      ∃ value : Space, ∀ projection : Image2 (PartialValue Space),
        strided.processProjection p projection =
            (shiftProjection projection (.number (-value)), .number value) ∧
          whole.processProjection (p * projectionStride) projection =
            (shiftProjection projection (.number (-value)), .number value)

/-- The condition on the method and the file: the last projection of the file is processed,
unless there is nothing to be corrected. -/
def KeepsStride (logarithm : Space → Space) (numberOfProjections projectionStride p : ℕ) :
    LinearBeamPowerMethod Space → Prop
  | .manual _ => True
  | .beforeAndAfterBrightField calibration badPixelCorrector =>
      (0 < calibration.advanceInterval + calibration.postScanInterval ∨
          projectionStride < numberOfProjections) ∧
        (p = 0 ∨ beamDecay logarithm calibration badPixelCorrector = 0 ∨
          projectionStride ∣ numberOfProjections - 1)

theorem processedProjections_eq {numberOfProjections projectionStride : ℕ}
    (projections : 1 ≤ numberOfProjections) (stride : 1 ≤ projectionStride) :
    processedProjections numberOfProjections projectionStride =
      (numberOfProjections - 1) / projectionStride + 1 := by
  rw [processedProjections, Nat.sub_add_comm projections, Nat.add_div_right _ stride]

section Correction

variable {logarithm : Space → Space} {constantTerm : Space} {calibration : CTCalibration Space}
  {badPixelCorrector : Option (FullBadPixelCorrector Space)}
  {numberOfProjections projectionStride p : ℕ}

/-- The linear term is the decay over the intervals. -/
theorem launchLinearBeamPower_beforeAndAfter [IsStrictOrderedRing Space]
    (decays : Decays calibration badPixelCorrector numberOfProjections)
    (projections : 1 ≤ numberOfProjections) (stride : 1 ≤ projectionStride) :
    launchLinearBeamPower logarithm constantTerm numberOfProjections projectionStride
        (.beforeAndAfterBrightField calibration badPixelCorrector) =
      .ok ⟨.number constantTerm, .number (beamDecay logarithm calibration badPixelCorrector) /
        .number (projectionIntervals calibration
          (processedProjections numberOfProjections projectionStride) projectionStride)⟩ := by
  obtain ⟨postScanFlatField, some_field, sameDims, positive⟩ := decays.fields
  have postScan : integratedField badPixelCorrector postScanFlatField ≠ 0 :=
    (div_ne_zero_iff.mp positive.ne').2
  have some_projections : 0 < processedProjections numberOfProjections projectionStride := by
    rw [processedProjections_eq projections stride]
    exact Nat.succ_pos _
  rw [launchLinearBeamPower, initializeBeforeAndAfter, beamDecay, some_field]
  dsimp only
  rw [if_pos ⟨some_projections, stride, sameDims⟩,
    PartialValue.number_div postScan, PartialValue.log_number positive]
  rfl

omit [LinearOrder Space] in
theorem processProjection_of_correction {corrector : ManualBeamPowerCorrector (PartialValue Space)}
    {value : Space} (corrected : corrector.correction p = .number value)
    (projection : Image2 (PartialValue Space)) :
    corrector.processProjection p projection =
      (shiftProjection projection (.number (-value)), .number value) := by
  rw [ManualBeamPowerCorrector.processProjection, corrected]
  rfl

/-- The strides keep a method exactly when two corrections are the same number. -/
theorem strideKept_iff {method : LinearBeamPowerMethod Space}
    {strided whole : ManualBeamPowerCorrector (PartialValue Space)}
    (launched : launchLinearBeamPower logarithm constantTerm numberOfProjections projectionStride
      method = .ok strided)
    (launchedWhole : launchLinearBeamPower logarithm constantTerm numberOfProjections 1 method =
      .ok whole) :
    StrideKept logarithm constantTerm numberOfProjections projectionStride p method ↔
      ∃ value, strided.correction p = .number value ∧
        whole.correction (p * projectionStride) = .number value := by
  constructor
  · rintro ⟨strided', whole', launched', launchedWhole', value, subtracted⟩
    rw [launched, Except.ok.injEq] at launched'
    rw [launchedWhole, Except.ok.injEq] at launchedWhole'
    subst launched' launchedWhole'
    obtain ⟨here, there⟩ := subtracted ⟨⟨0, 0⟩, ⟨0, 0⟩, ⟨0, 0⟩, fun _ _ => 0⟩
    exact ⟨value, congrArg Prod.snd here, congrArg Prod.snd there⟩
  · rintro ⟨value, here, there⟩
    refine ⟨strided, whole, launched, launchedWhole, value, ?_⟩
    intro projection
    exact ⟨processProjection_of_correction here projection,
      processProjection_of_correction there projection⟩

/-- The intervals between the processed projections, and those before and after the scan. -/
theorem projectionIntervals_strided [IsStrictOrderedRing Space]
    (projections : 1 ≤ numberOfProjections) (stride : 1 ≤ projectionStride) :
    projectionIntervals calibration (processedProjections numberOfProjections projectionStride)
        projectionStride =
      ((numberOfProjections - 1) / projectionStride : ℕ) +
        (calibration.advanceInterval + calibration.postScanInterval) / projectionStride := by
  rw [projectionIntervals, processedProjections_eq projections stride, Nat.cast_add_one,
    add_sub_cancel_right]

theorem projectionIntervals_ne_zero_iff [IsStrictOrderedRing Space]
    (decays : Decays calibration badPixelCorrector numberOfProjections)
    (projections : 1 ≤ numberOfProjections) (stride : 1 ≤ projectionStride) :
    projectionIntervals calibration (processedProjections numberOfProjections projectionStride)
        projectionStride ≠ 0 ↔
      0 < calibration.advanceInterval + calibration.postScanInterval ∨
        projectionStride < numberOfProjections := by
  have positive : (0 : Space) < projectionStride := Nat.cast_pos.mpr stride
  have before := add_nonneg decays.advance decays.postScan
  have between : (0 : Space) ≤ ((numberOfProjections - 1) / projectionStride : ℕ) :=
    Nat.cast_nonneg _
  rw [projectionIntervals_strided projections stride]
  constructor
  · intro nonzero
    by_contra none
    rw [not_or, not_lt, not_lt] at none
    apply nonzero
    have few : numberOfProjections - 1 < projectionStride := by omega
    rw [Nat.div_eq_of_lt few, le_antisymm none.1 before, Nat.cast_zero, zero_div, add_zero]
  · rintro (some | more)
    · exact (add_pos_of_nonneg_of_pos between (div_pos some positive)).ne'
    · have full : 0 < (numberOfProjections - 1) / projectionStride :=
        Nat.div_pos (by omega) stride
      exact (add_pos_of_pos_of_nonneg (Nat.cast_pos.mpr full)
        (div_nonneg before positive.le)).ne'

omit [LinearOrder Space] in
/-- Two linear terms, of which the second one is spread over more than the first one. -/
theorem correction_eq_iff {index stride decay intervals rest : Space}
    (some_intervals : intervals ≠ 0) (some_whole : stride * intervals + rest ≠ 0) :
    constantTerm + index * (decay / intervals) =
        constantTerm + index * stride * (decay / (stride * intervals + rest)) ↔
      index = 0 ∨ decay = 0 ∨ rest = 0 := by
  rw [add_right_inj, ← mul_div_assoc, ← mul_div_assoc,
    div_eq_div_iff some_intervals some_whole, ← mul_eq_zero, ← mul_eq_zero]
  constructor
  · intro same
    linear_combination same
  · intro zero
    linear_combination zero

/-- The intervals of the whole file are those of the processed projections and the rest behind
the last one of these. -/
theorem projectionIntervals_whole [IsStrictOrderedRing Space]
    (projections : 1 ≤ numberOfProjections) (stride : 1 ≤ projectionStride) :
    projectionIntervals calibration (processedProjections numberOfProjections 1) 1 =
      projectionStride * projectionIntervals calibration
          (processedProjections numberOfProjections projectionStride) projectionStride +
        ((numberOfProjections - 1) % projectionStride : ℕ) := by
  have nonzero : (projectionStride : Space) ≠ 0 := Nat.cast_ne_zero.mpr (by omega)
  have split := congrArg (Nat.cast (R := Space))
    (Nat.div_add_mod (numberOfProjections - 1) projectionStride)
  rw [Nat.cast_add, Nat.cast_mul] at split
  rw [projectionIntervals_strided projections le_rfl, projectionIntervals_strided projections
    stride, Nat.div_one, ← split, mul_add, mul_div_cancel₀ _ nonzero, Nat.cast_one, div_one]
  ring

/-- The correction of a launched corrector, when its intervals are not 0. -/
theorem correction_eq {decay intervals : Space} (some_intervals : intervals ≠ 0) (index : ℕ) :
    (⟨.number constantTerm, .number decay / .number intervals⟩ :
        ManualBeamPowerCorrector (PartialValue Space)).correction index =
      .number (constantTerm + index * (decay / intervals)) := by
  rw [ManualBeamPowerCorrector.correction, PartialValue.number_div some_intervals]
  rfl

/-- **The correction does not depend on the stride exactly when the method is `Manual`, or
there is nothing to be corrected, or the last projection of the file is a processed one.** -/
theorem keepsStride_iff [IsStrictOrderedRing Space] (logarithm : Space → Space)
    (constantTerm : Space) {numberOfProjections projectionStride p : ℕ}
    (projections : 1 ≤ numberOfProjections) (stride : 1 ≤ projectionStride)
    (method : LinearBeamPowerMethod Space) (valid : method.Valid numberOfProjections) :
    StrideKept logarithm constantTerm numberOfProjections projectionStride p method ↔
      KeepsStride logarithm numberOfProjections projectionStride p method := by
  cases method with
  | manual linearTerm =>
    rw [strideKept_iff rfl rfl]
    refine iff_of_true ⟨constantTerm + p * (linearTerm * projectionStride), rfl, ?_⟩ trivial
    have same : constantTerm + (p * projectionStride : ℕ) * (linearTerm * (1 : ℕ)) =
        constantTerm + p * (linearTerm * projectionStride) := by
      rw [Nat.cast_mul, Nat.cast_one, mul_one, mul_assoc, mul_comm linearTerm]
    exact congrArg PartialValue.number same
  | beforeAndAfterBrightField calibration badPixelCorrector =>
    have decays : Decays calibration badPixelCorrector numberOfProjections := valid
    rw [strideKept_iff (launchLinearBeamPower_beforeAndAfter decays projections stride)
      (launchLinearBeamPower_beforeAndAfter decays projections le_rfl), KeepsStride,
      ← projectionIntervals_ne_zero_iff decays projections stride]
    have some_whole : projectionIntervals calibration
        (processedProjections numberOfProjections 1) 1 ≠ 0 := by
      rw [projectionIntervals_ne_zero_iff decays projections le_rfl]
      by_contra none
      rw [not_or, not_lt, not_lt] at none
      have total := decays.total
      have one : numberOfProjections = 1 := by omega
      rw [one, Nat.cast_one, sub_self, zero_add] at total
      exact absurd total none.1.not_gt
    by_cases some_intervals : projectionIntervals calibration
        (processedProjections numberOfProjections projectionStride) projectionStride = 0
    · rw [some_intervals, PartialValue.number_div_zero]
      refine iff_of_false ?_ (fun both => both.1 rfl)
      rintro ⟨value, undefined, _⟩
      rw [ManualBeamPowerCorrector.correction, PartialValue.mul_undefined,
        PartialValue.add_undefined] at undefined
      cases undefined
    · rw [correction_eq some_intervals, correction_eq some_whole, and_iff_right some_intervals]
      rw [projectionIntervals_whole projections stride] at some_whole ⊢
      rw [Nat.cast_mul, Nat.dvd_iff_mod_eq_zero, ← Nat.cast_eq_zero (R := Space) (n := p),
        ← Nat.cast_eq_zero (R := Space) (n := _ % _),
        ← correction_eq_iff some_intervals some_whole]
      constructor
      · rintro ⟨value, here, there⟩
        rw [PartialValue.number.injEq] at here there
        exact here.trans there.symm
      · intro same
        exact ⟨_, rfl, congrArg PartialValue.number same.symm⟩

end Correction

/-- A detector of one pixel whose bright field is 2 before and 1 after a scan, with one interval
on either side. -/
def decayingCalibration (Space : Type) [Field Space] : CTCalibration Space where
  darkField := ⟨⟨1, 1⟩, ⟨1, 1⟩, ⟨0, 0⟩, fun _ _ => 0⟩
  flatField := ⟨⟨1, 1⟩, ⟨1, 1⟩, ⟨0, 0⟩, fun _ _ => 1 + 1⟩
  postScanFlatField := some ⟨⟨1, 1⟩, ⟨1, 1⟩, ⟨0, 0⟩, fun _ _ => 1⟩
  brightFieldAdvanceInterval := some 1
  postScanBrightFieldInterval := some 1
  sensitivityLimit := 0

theorem decayingCalibration_integrated :
    integratedField none (decayingCalibration ℝ).flatField = 2 ∧
      integratedField none
        (⟨⟨1, 1⟩, ⟨1, 1⟩, ⟨0, 0⟩, fun _ _ => 1⟩ : Image2 ℝ) = 1 := by
  constructor
  · change (0 : ℝ) + (1 + 1) = 2
    norm_num
  · change (0 : ℝ) + 1 = 1
    norm_num

theorem decayingCalibration_decays (numberOfProjections : ℕ)
    (projections : 1 ≤ numberOfProjections) :
    Decays (decayingCalibration ℝ) none numberOfProjections where
  fields := by
    refine ⟨_, rfl, rfl, ?_⟩
    rw [decayingCalibration_integrated.1, decayingCalibration_integrated.2]
    exact div_pos two_pos one_pos
  advance := zero_le_one
  postScan := zero_le_one
  total := by
    have atLeastOne : (1 : ℝ) ≤ numberOfProjections := Nat.one_le_cast.mpr projections
    change 0 < (numberOfProjections : ℝ) - 1 + (1 + 1)
    linarith

/-- Five projections, of which every other one is processed. -/
theorem keepsStride_iff_five :
    StrideKept Real.log 0 5 2 1 (.beforeAndAfterBrightField (decayingCalibration ℝ) none) := by
  apply (keepsStride_iff Real.log 0 (by decide) (by decide)
    (.beforeAndAfterBrightField (decayingCalibration ℝ) none)
    (decayingCalibration_decays 5 (by decide))).mpr
  exact ⟨.inr (by decide), .inr (.inr (by decide))⟩

/-- **Four projections, of which every other one is processed**: the second of these is
corrected by a half of the decay, and by two fifths of it when all four are processed. -/
theorem not_strideKept_four :
    ¬ StrideKept Real.log 0 4 2 1
      (.beforeAndAfterBrightField (decayingCalibration ℝ) none) := by
  have decays := decayingCalibration_decays 4 (by decide)
  have decay : beamDecay Real.log (decayingCalibration ℝ) none = Real.log 2 := by
    change Real.log (_ / _) = _
    rw [decayingCalibration_integrated.1, decayingCalibration_integrated.2, div_one]
  have strided : projectionIntervals (decayingCalibration ℝ) (processedProjections 4 2) 2 = 2 := by
    change ((2 : ℕ) : ℝ) - 1 + (1 + 1) / (2 : ℕ) = 2
    norm_num
  have whole : projectionIntervals (decayingCalibration ℝ) (processedProjections 4 1) 1 = 5 := by
    change ((4 : ℕ) : ℝ) - 1 + (1 + 1) / (1 : ℕ) = 5
    norm_num
  rw [strideKept_iff (launchLinearBeamPower_beforeAndAfter decays (by decide) (by decide))
    (launchLinearBeamPower_beforeAndAfter decays (by decide) le_rfl), decay, strided, whole,
    correction_eq two_ne_zero, correction_eq (by norm_num)]
  rintro ⟨value, here, there⟩
  have same := here.trans there.symm
  rw [PartialValue.number.injEq, zero_add, zero_add] at same
  have positive : 0 < Real.log 2 := Real.log_pos one_lt_two
  push_cast at same
  linarith

end AthabascaRecon
