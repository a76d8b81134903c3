import AthabascaRecon.Foundation.Sums
import AthabascaRecon.ProjectionCorrection.BeamPowerCorrector

/-!
# Constant total attenuation

`ConstantAttenuationBeamPowerCorrector` shifts a projection so that its integrated attenuation
becomes that of a reference projection, less the constant term. What is left of the projection
is its difference to any of its own uniform shifts (`corrected_shift`), so the result says
nothing about the background of the projection.
-/

set_option autoImplicit false

namespace AthabascaRecon

variable {Space : Type} [Field Space]

namespace Image2

/-- The sum over the data after a shift. -/
theorem sumPixels_shift (projection : Image2 Space) (shift : Space) :
    (shiftProjection projection shift).sumPixels =
      projection.sumPixels + projection.size * shift := by
  have shifted : ∀ location ∈ locationsOf projection.dims,
      (shiftProjection projection shift).pixelAt location =
        projection.pixelAt location + shift := by
    intro location member
    obtain ⟨⟨nonnegV, nonnegU⟩, ltV, ltU⟩ := mem_locationsOf.mp member
    exact shiftProjection_pixelAt shift ⟨⟨nonnegV, ltV⟩, nonnegU, ltU⟩
  have sameDims : (shiftProjection projection shift).dims = projection.dims := rfl
  rw [sumPixels, sumPixels, sameDims, Foundation.foldl_add_shift shift shifted,
    length_locationsOf, size]

/-- `product` of the spacing. -/
def pixelArea (projection : Image2 Space) : Space := projection.spacing.v * projection.spacing.u

/-- `GetIntegratedAttenuation`. -/
def integratedAttenuation (projection : Image2 Space) : Space :=
  projection.sumPixels * projection.pixelArea

theorem integratedAttenuation_shift (projection : Image2 Space) (shift : Space) :
    (shiftProjection projection shift).integratedAttenuation =
      projection.integratedAttenuation + projection.size * projection.pixelArea * shift := by
  have sameArea : (shiftProjection projection shift).pixelArea = projection.pixelArea := rfl
  rw [integratedAttenuation, sumPixels_shift, sameArea, integratedAttenuation]
  ring

end Image2

/-- `ConstantAttenuationBeamPowerCorrector`. The reference attenuation is there when the
reference projection has been set. -/
structure ConstantAttenuationBeamPowerCorrector (Space : Type) where
  referenceAttenuation : Option Space
  beamDecayConstantTerm : Space
  deriving DecidableEq, Repr

namespace ConstantAttenuationBeamPowerCorrector

/-- The constructor. -/
def new : ConstantAttenuationBeamPowerCorrector Space where
  referenceAttenuation := none
  beamDecayConstantTerm := 0

/-- `SetBeamDecayConstantTerm`. -/
def setBeamDecayConstantTerm (corrector : ConstantAttenuationBeamPowerCorrector Space)
    (arg : Space) : ConstantAttenuationBeamPowerCorrector Space :=
  { corrector with beamDecayConstantTerm := arg }

/-- `SetReferenceProjection`. -/
def setReferenceProjection (corrector : ConstantAttenuationBeamPowerCorrector Space)
    (projection : Image2 Space) : ConstantAttenuationBeamPowerCorrector Space :=
  { corrector with referenceAttenuation := some projection.integratedAttenuation }

/-- `CalculateRequiredShift`. -/
def calculateRequiredShift [LinearOrder Space]
    (corrector : ConstantAttenuationBeamPowerCorrector Space)
    (projection : Image2 Space) : Except CalibrationFailure Space :=
  match corrector.referenceAttenuation with
  | none => .error .assertionFailed
  | some reference =>
    if 0 < reference then
      .ok ((reference - projection.integratedAttenuation) /
        (projection.size * projection.pixelArea))
    else .error .assertionFailed

/-- `ConstantAttenuationBeamPowerCorrector::ProcessProjection`: the projection that it leaves,
and the correction that it returns. It does not depend on the index. -/
def processProjection [LinearOrder Space]
    (corrector : ConstantAttenuationBeamPowerCorrector Space) (_index : ℕ)
    (projection : Image2 Space) : Except CalibrationFailure (Image2 Space × Space) := do
  let requiredShift ← corrector.calculateRequiredShift projection
  let correction := -requiredShift + corrector.beamDecayConstantTerm
  return (shiftProjection projection (-correction), correction)

/-! ## What the correction does -/

variable {reference projection : Image2 Space} {constantTerm : Space} {index : ℕ}

/-- The correction of a projection. -/
def correctionOf (reference : Image2 Space) (constantTerm : Space) (projection : Image2 Space) :
    Space :=
  -((reference.integratedAttenuation - projection.integratedAttenuation) /
    (projection.size * projection.pixelArea)) + constantTerm

theorem processProjection_eq [LinearOrder Space] (positive : 0 < reference.integratedAttenuation) :
    ((new.setBeamDecayConstantTerm constantTerm).setReferenceProjection reference).processProjection
        index projection =
      .ok (shiftProjection projection (-correctionOf reference constantTerm projection),
        correctionOf reference constantTerm projection) := by
  rw [processProjection, calculateRequiredShift, setReferenceProjection]
  dsimp only
  rw [if_pos positive]
  rfl

/-- A uniform offset is part of the correction. -/
theorem correctionOf_shift (area : (projection.size : Space) * projection.pixelArea ≠ 0)
    (offset : Space) :
    correctionOf reference constantTerm (shiftProjection projection offset) =
      correctionOf reference constantTerm projection + offset := by
  have sameSize : (shiftProjection projection offset).size = projection.size := rfl
  have sameArea : (shiftProjection projection offset).pixelArea = projection.pixelArea := rfl
  rw [correctionOf, correctionOf, sameSize, sameArea, Image2.integratedAttenuation_shift]
  generalize (projection.size : Space) * projection.pixelArea = whole at area ⊢
  field_simp
  ring

/-- The corrected projection is the same for all uniform offsets. -/
theorem corrected_shift (area : (projection.size : Space) * projection.pixelArea ≠ 0)
    (offset : Space) :
    shiftProjection (shiftProjection projection offset)
        (-correctionOf reference constantTerm (shiftProjection projection offset)) =
      shiftProjection projection (-correctionOf reference constantTerm projection) := by
  rw [shiftProjection_shiftProjection, correctionOf_shift area]
  congr 1
  ring

theorem integratedAttenuation_corrected
    (area : (projection.size : Space) * projection.pixelArea ≠ 0) :
    (shiftProjection projection
        (-correctionOf reference constantTerm projection)).integratedAttenuation =
      reference.integratedAttenuation -
        constantTerm * (projection.size * projection.pixelArea) := by
  rw [Image2.integratedAttenuation_shift, correctionOf]
  generalize (projection.size : Space) * projection.pixelArea = whole at area ⊢
  field_simp
  ring

/-- A projection with the attenuation of the reference needs no correction. -/
theorem correctionOf_corrected (area : (projection.size : Space) * projection.pixelArea ≠ 0) :
    correctionOf reference 0
      (shiftProjection projection (-correctionOf reference 0 projection)) = 0 := by
  rw [correctionOf_shift area, add_neg_cancel]

/-- **The correction equalises the total attenuation**: the integrated attenuation becomes that
of the reference less the constant term times the area, a uniform offset of the projection has
no influence, the correction that is returned is what is subtracted from every pixel, and
without a constant term a second correction changes nothing. -/
theorem processProjection_equalises [LinearOrder Space] [IsStrictOrderedRing Space]
    (constantTerm : Space)
    (reference projection : Image2 Space) (positive : 0 < reference.integratedAttenuation)
    (some_pixels : 0 < projection.size) (spacingV : 0 < projection.spacing.v)
    (spacingU : 0 < projection.spacing.u) (index : ℕ) :
    let corrector := (new.setBeamDecayConstantTerm constantTerm).setReferenceProjection reference
    ∃ result correction, corrector.processProjection index projection = .ok (result, correction) ∧
      result.integratedAttenuation = reference.integratedAttenuation -
        constantTerm * (projection.size * projection.pixelArea) ∧
      (∀ offset, ∃ offsetCorrection,
        corrector.processProjection index (shiftProjection projection offset) =
          .ok (result, offsetCorrection)) ∧
      (∀ location, projection.Contains location.v location.u →
        result.pixelAt location = projection.pixelAt location - correction) ∧
      (constantTerm = 0 → ∀ again, corrector.processProjection again result = .ok (result, 0)) := by
  have area : (projection.size : Space) * projection.pixelArea ≠ 0 :=
    (mul_pos (Nat.cast_pos.mpr some_pixels) (mul_pos spacingV spacingU)).ne'
  refine ⟨_, _, processProjection_eq positive, integratedAttenuation_corrected area, ?_, ?_, ?_⟩
  · intro offset
    refine ⟨correctionOf reference constantTerm (shiftProjection projection offset), ?_⟩
    rw [processProjection_eq positive, corrected_shift area]
  · intro location inside
    rw [shiftProjection_pixelAt _ inside, sub_eq_add_neg]
  · rintro rfl again
    rw [processProjection_eq positive, correctionOf_corrected area, neg_zero,
      shiftProjection_zero]

/-- Two rows of three pixels. -/
def sixPixels (pixel : ℤ → ℤ → ℚ) : Image2 ℚ := ⟨⟨2, 3⟩, ⟨1, 2⟩, ⟨0, 0⟩, pixel⟩

/-- The pixels of the reference are in the mean 5/2, and those of the projection 13/2. -/
theorem processProjection_equalises_sixPixels :
    let reference := sixPixels fun i j => i + j + 1
    let projection := sixPixels fun i j => 3 * i - j + 6
    let corrector := (new.setBeamDecayConstantTerm (0 : ℚ)).setReferenceProjection reference
    ∃ result correction, corrector.processProjection 0 projection = .ok (result, correction) ∧
      result.integratedAttenuation = reference.integratedAttenuation ∧
      result.pixelAt ⟨1, 2⟩ = 7 - correction ∧
      corrector.processProjection 1 result = .ok (result, 0) := by
  intro reference projection corrector
  obtain ⟨result, correction, processed, attenuation, -, pixels, again⟩ :=
    processProjection_equalises (0 : ℚ) reference projection (by decide +kernel) (by decide)
      (by decide) (by decide) 0
  refine ⟨result, correction, processed, ?_, ?_, again rfl 1⟩
  · rw [attenuation, zero_mul, sub_zero]
  · rw [pixels ⟨1, 2⟩ (by decide)]
    norm_num [projection, sixPixels, Image2.pixelAt]

end ConstantAttenuationBeamPowerCorrector

end AthabascaRecon
