import AthabascaRecon.ProjectionCorrection.CTCalibration
import AthabascaRecon.ProjectionCorrection.CorrectBadPixels
import AthabascaRecon.Foundation.PartialValue

/-!
# Attenuation projections

`AttenuationCalculator` takes the logarithm of the quotient of the flat field and the signal,
which is what a raw projection has above the dark field. The signal is not let below the
sensitivity limit, but that is 0: at a good pixel that is not brighter than its dark field the
flat field is divided by 0, and bad pixel correction does not remove the result. The stage is
finite exactly when every good pixel is brighter than its dark field
(`processProjection_finite_iff`).
-/

set_option autoImplicit false

namespace AthabascaRecon

open Foundation

namespace CTCalibration

variable {Space : Type} [Field Space] [LinearOrder Space] (logarithm : Space → Space)
  (calibration : CTCalibration Space)

/-- What a raw projection has above the dark field, limited by the sensitivity. -/
def signal (input : Image2 Space) (location : Tuple2 ℤ) : Space :=
  max (input.pixelAt location - calibration.darkField.pixelAt location)
    calibration.sensitivityLimit

/-- `AttenuationCalculator::ProcessProjection`: the output that it leaves. -/
def processProjection (input : Image2 Space) (output : Image2 (PartialValue Space)) :
    Except CalibrationFailure (Image2 (PartialValue Space)) :=
  if output.dims.v = input.dims.v ∧ input.dims.u ≤ output.dims.u ∧
      input.dims = calibration.darkField.dims ∧ input.dims = calibration.flatField.dims then
    .ok (output.updatePixels fun location _ =>
      if location.u < input.dims.u then
        .log logarithm (.number (calibration.flatField.pixelAt location) /
          .number (calibration.signal input location))
      else 0)
  else .error .assertionFailed

/-- The corrector that `Launch` lets identify bad pixels: without a threshold of the dark
field the greatest value stays. -/
def launchCorrector (greatest : Space) (dims : Tuple2 ℕ) (flatFieldBadThreshold : Space)
    (darkFieldBadThreshold : Option Space) : FullBadPixelCorrector Space :=
  { FullBadPixelCorrector.new greatest dims with
    flatFieldBadThreshold
    darkFieldBadThreshold := darkFieldBadThreshold.getD greatest }

/-- What `Launch` does to the bad pixel corrector before it constructs the table. -/
def launchIdentification (greatest : Space) (dims : Tuple2 ℕ) (flatFieldBadThreshold : Space)
    (darkFieldBadThreshold : Option Space) :
    Except WalkFailure (FullBadPixelCorrector Space) :=
  (launchCorrector greatest dims flatFieldBadThreshold darkFieldBadThreshold).identifyBadPixels
    calibration.darkField calibration.flatField

variable {logarithm calibration} {dims : Tuple2 ℕ}
  {greatest flatFieldBadThreshold : Space} {darkFieldBadThreshold : Option Space}
  {identified : FullBadPixelCorrector Space}

/-- A pixel of the image that has not been identified has a flat field of at least the
threshold. -/
theorem flatField_of_not_bad
    (identifies : calibration.launchIdentification greatest dims flatFieldBadThreshold
      darkFieldBadThreshold = .ok identified) {location : Tuple2 ℤ}
    (inside : InsideImage calibration.darkField.dims location)
    (good : ¬ identified.IsBadPixel location) :
    flatFieldBadThreshold ≤ calibration.flatField.pixelAt location := by
  rw [launchIdentification, FullBadPixelCorrector.identifyBadPixels] at identifies
  split_ifs at identifies
  cases identifies
  by_contra dim
  apply good
  apply List.mem_append_right
  exact List.mem_filter.mpr ⟨mem_locationsOf.mpr inside, decide_eq_true (.inr (not_le.mp dim))⟩

theorem imageDims_of_launchIdentification
    (identifies : calibration.launchIdentification greatest dims flatFieldBadThreshold
      darkFieldBadThreshold = .ok identified) : identified.imageDims = dims := by
  rw [launchIdentification, FullBadPixelCorrector.identifyBadPixels] at identifies
  split_ifs at identifies
  cases identifies
  rfl

/-! ## Where the stage is finite -/

/-- With the sensitivity limit 0 the signal is not 0 where the raw projection is brighter than
the dark field, and only there. -/
theorem signal_ne_zero_iff [IsStrictOrderedRing Space] (loaded : calibration.Loaded)
    {input : Image2 Space} {location : Tuple2 ℤ} :
    calibration.signal input location ≠ 0 ↔
      calibration.darkField.pixelAt location < input.pixelAt location := by
  rw [signal, loaded.sensitivityLimit]
  constructor
  · intro nonzero
    by_contra dim
    apply nonzero
    exact max_eq_right (sub_nonpos.mpr (not_lt.mp dim))
  · intro bright
    rw [max_eq_left (sub_nonneg.mpr bright.le)]
    exact (sub_pos.mpr bright).ne'

theorem signal_nonneg (loaded : calibration.Loaded) (input : Image2 Space)
    (location : Tuple2 ℤ) : 0 ≤ calibration.signal input location := by
  rw [signal, loaded.sensitivityLimit]
  exact le_max_right _ _

/-- The mean of four numbers is a number. -/
theorem average_isDefined [IsStrictOrderedRing Space] {row : Tuple2 ℤ × List (Tuple2 ℤ)}
    (some_pixels : row.2.length ≠ 0) {pixelAt : Tuple2 ℤ → PartialValue Space}
    (defined : ∀ pixel ∈ row.2, (pixelAt pixel).IsDefined) :
    (FullBadPixelCorrector.average row pixelAt).IsDefined := by
  have sum_isDefined (pixels : List (Tuple2 ℤ)) (sum : PartialValue Space)
      (start : sum.IsDefined) (each : ∀ pixel ∈ pixels, (pixelAt pixel).IsDefined) :
      (pixels.foldl (fun x location => x + pixelAt location) sum).IsDefined := by
    induction pixels generalizing sum with
    | nil => exact start
    | cons pixel pixels ih =>
      rw [List.forall_mem_cons] at each
      exact ih _ (PartialValue.add_isDefined start each.1) each.2
  apply PartialValue.div_isDefined
  · exact sum_isDefined row.2 0 (PartialValue.number_isDefined 0) defined
  · exact Nat.cast_ne_zero.mpr some_pixels

/-- When the good pixels of a projection are defined, bad pixel correction leaves every pixel
defined. -/
theorem corrected_isDefined [IsStrictOrderedRing Space]
    {corrector : FullBadPixelCorrector Space} (hasTable : corrector.HasTable)
    {projection : Image2 (PartialValue Space)} {location : Tuple2 ℤ}
    (good : ∀ pixel, corrector.Good pixel → (projection.pixelAt pixel).IsDefined)
    (here : ¬ corrector.IsBadPixel location → (projection.pixelAt location).IsDefined) :
    ((corrector.corrected projection).pixelAt location).IsDefined := by
  by_cases bad : corrector.IsBadPixel location
  · obtain ⟨row, nearest, replaced⟩ := hasTable.corrected_of_bad projection bad
    rw [replaced]
    obtain ⟨four, _, all_good⟩ := nearest.fourGood
    apply average_isDefined
    · rw [four]
      exact four_ne_zero
    · intro pixel inRow
      exact good pixel (all_good pixel inRow)
  · rw [hasTable.corrected_of_not_bad projection bad]
    exact here bad

/-- At a good pixel that is brighter than its dark field nothing is undefined. -/
theorem finite_of_brighter [IsStrictOrderedRing Space] (fields : calibration.Loaded)
    {raw : Image2 Space} (sameDims : raw.dims = calibration.darkField.dims)
    (atLeastOne : 1 ≤ flatFieldBadThreshold)
    (identifies : calibration.launchIdentification greatest raw.dims flatFieldBadThreshold
      darkFieldBadThreshold = .ok identified) {location : Tuple2 ℤ}
    (inside : InsideImage raw.dims location) (good : ¬ identified.IsBadPixel location)
    (brighter : calibration.darkField.pixelAt location < raw.pixelAt location) :
    calibration.signal raw location ≠ 0 ∧
      0 < calibration.flatField.pixelAt location / calibration.signal raw location := by
  have nonzero := (signal_ne_zero_iff fields).mpr brighter
  rw [sameDims] at inside
  have illuminated : 0 < calibration.flatField.pixelAt location :=
    lt_of_lt_of_le one_pos (atLeastOne.trans (flatField_of_not_bad identifies inside good))
  have positive : 0 < calibration.signal raw location :=
    lt_of_le_of_ne (signal_nonneg fields raw location) nonzero.symm
  exact ⟨nonzero, div_pos illuminated positive⟩

theorem dims_of_processProjection {raw : Image2 Space}
    {output attenuation : Image2 (PartialValue Space)}
    (processed : calibration.processProjection logarithm raw output = .ok attenuation) :
    attenuation.dims.v = raw.dims.v ∧ raw.dims.u ≤ attenuation.dims.u := by
  rw [processProjection] at processed
  split_ifs at processed with asserted
  cases processed
  exact ⟨asserted.1, asserted.2.1⟩

/-- A pixel is an attenuation in the columns of the input and padding beyond them. -/
theorem processProjection_isDefined {raw : Image2 Space}
    {output attenuation : Image2 (PartialValue Space)}
    (processed : calibration.processProjection logarithm raw output = .ok attenuation)
    {location : Tuple2 ℤ} (inside : InsideImage attenuation.dims location)
    (finite : InsideImage raw.dims location → calibration.signal raw location ≠ 0 ∧
      0 < calibration.flatField.pixelAt location / calibration.signal raw location) :
    (attenuation.pixelAt location).IsDefined := by
  obtain ⟨rows, _⟩ := dims_of_processProjection processed
  rw [processProjection] at processed
  split_ifs at processed with asserted
  cases processed
  obtain ⟨⟨nonnegV, nonnegU⟩, ltV, ltU⟩ := inside
  have within : output.Contains location.v location.u := ⟨⟨nonnegV, ltV⟩, nonnegU, ltU⟩
  rw [Image2.pixelAt_updatePixels _ within]
  by_cases inColumns : location.u < raw.dims.u
  · rw [if_pos inColumns]
    rw [rows] at ltV
    obtain ⟨nonzero, positive⟩ := finite ⟨⟨nonnegV, nonnegU⟩, ltV, inColumns⟩
    exact PartialValue.log_div_isDefined logarithm nonzero positive
  · rw [if_neg inColumns]
    exact PartialValue.number_isDefined 0

/-- **The attenuation stage is finite on good pixels exactly when every good pixel is brighter
than its dark field.** The first part is the division by a value that is not 0 and the
logarithm of a positive number, and the second one is what comes out of bad pixel
correction. -/
theorem processProjection_finite_iff [IsStrictOrderedRing Space] (logarithm : Space → Space)
    {advance postScan : Option Space} {files : CalibrationFiles Space}
    (loaded : loadCalibrationFields advance postScan files = .ok calibration)
    (raw : Image2 Space) (sameDims : raw.dims = calibration.darkField.dims)
    (atLeastOne : 1 ≤ flatFieldBadThreshold)
    (identifies : calibration.launchIdentification greatest raw.dims flatFieldBadThreshold
      darkFieldBadThreshold = .ok identified) :
    ((∀ location, InsideImage raw.dims location → ¬ identified.IsBadPixel location →
        calibration.signal raw location ≠ 0 ∧
          0 < calibration.flatField.pixelAt location / calibration.signal raw location) ∧
      ∀ corrector output attenuation, identified.constructTable = .ok corrector →
        calibration.processProjection logarithm raw output = .ok attenuation →
        ∃ result, corrector.correctBadPixels attenuation = .ok result ∧
          ∀ location, InsideImage result.dims location → (result.pixelAt location).IsDefined) ↔
      ∀ location, InsideImage raw.dims location → ¬ identified.IsBadPixel location →
        calibration.darkField.pixelAt location < raw.pixelAt location := by
  have fields := loadCalibrationFields_loaded loaded
  constructor
  · rintro ⟨finite, _⟩ location inside good
    exact (signal_ne_zero_iff fields).mp (finite location inside good).1
  intro bright
  have finite (location : Tuple2 ℤ) (inside : InsideImage raw.dims location)
      (good : ¬ identified.IsBadPixel location) :=
    finite_of_brighter fields sameDims atLeastOne identifies inside good
      (bright location inside good)
  refine ⟨finite, ?_⟩
  intro corrector output attenuation constructed processed
  obtain ⟨unchanged, hasTable⟩ := FullBadPixelCorrector.constructTable_eq_ok constructed
  obtain ⟨rows, columns⟩ := dims_of_processProjection processed
  have sameBad (location : Tuple2 ℤ) :
      corrector.IsBadPixel location ↔ identified.IsBadPixel location := by
    rw [unchanged]
  have defined (location : Tuple2 ℤ) (inside : InsideImage attenuation.dims location)
      (good : ¬ corrector.IsBadPixel location) : (attenuation.pixelAt location).IsDefined := by
    rw [sameBad] at good
    exact processProjection_isDefined processed inside fun within => finite location within good
  refine ⟨_, hasTable.correctBadPixels_eq attenuation, ?_⟩
  intro location inside
  refine corrected_isDefined hasTable ?_ (defined location inside)
  -- The pixels that are averaged are in the raw projection, which is no larger than the output.
  rintro pixel ⟨within, good⟩
  rw [unchanged, imageDims_of_launchIdentification identifies] at within
  obtain ⟨nonneg, ltV, ltU⟩ := within
  refine defined pixel ⟨nonneg, ?_, ?_⟩ good
  · rw [rows]
    exact ltV
  · omega

/-- The calibration of a detector of four pixels with the dark field 5 and the bright field
105. -/
def evenCalibration : CTCalibration ℚ where
  darkField := ⟨⟨2, 2⟩, ⟨1, 1⟩, ⟨0, 0⟩, fun _ _ => 5⟩
  flatField := (⟨⟨2, 2⟩, ⟨1, 1⟩, ⟨0, 0⟩, fun _ _ => 105⟩ : Image2 ℚ).updatePixels
    fun _ value => value - 5
  postScanFlatField := none
  brightFieldAdvanceInterval := some 1
  postScanBrightFieldInterval := none
  sensitivityLimit := 0

theorem evenCalibration_loaded : loadCalibrationFields none none
    ⟨some (.single ⟨⟨2, 2⟩, ⟨1, 1⟩, ⟨0, 0⟩, fun _ _ => 5⟩),
      some (.single ⟨⟨2, 2⟩, ⟨1, 1⟩, ⟨0, 0⟩, fun _ _ => 105⟩), none⟩ =
      .ok evenCalibration := rfl

theorem evenCalibration_identification :
    evenCalibration.launchIdentification 1000 ⟨2, 2⟩ 10 none =
      .ok ⟨⟨⟨2, 2⟩, []⟩, 1000, 10, []⟩ := by
  decide +kernel

/-- Without an object in the beam every pixel is brighter than its dark field. -/
theorem processProjection_finite_iff_empty_beam :
    evenCalibration.signal ⟨⟨2, 2⟩, ⟨1, 1⟩, ⟨0, 0⟩, fun _ _ => 105⟩ ⟨1, 1⟩ ≠ 0 ∧
      0 < evenCalibration.flatField.pixelAt ⟨1, 1⟩ /
        evenCalibration.signal ⟨⟨2, 2⟩, ⟨1, 1⟩, ⟨0, 0⟩, fun _ _ => 105⟩ ⟨1, 1⟩ := by
  have finite := (processProjection_finite_iff (fun _ => 0) evenCalibration_loaded
    ⟨⟨2, 2⟩, ⟨1, 1⟩, ⟨0, 0⟩, fun _ _ => 105⟩ rfl (by decide)
    evenCalibration_identification).mpr fun location _ _ => by
      change (5 : ℚ) < 105
      decide
  exact finite.1 ⟨1, 1⟩ (by decide) List.not_mem_nil

/-- **A good pixel behind which the beam is extinct stays undefined**: the raw projection is 5
at the first pixel, as the dark field is, and 105 elsewhere. -/
theorem processProjection_undefined_extinct :
    let raw : Image2 ℚ :=
      ⟨⟨2, 2⟩, ⟨1, 1⟩, ⟨0, 0⟩, fun i j => if i = 0 ∧ j = 0 then 5 else 105⟩
    let output : Image2 (PartialValue ℚ) :=
      ⟨⟨2, 2⟩, ⟨.number 1, .number 1⟩, ⟨0, 0⟩, fun _ _ => 0⟩
    let corrector : FullBadPixelCorrector ℚ := ⟨⟨⟨2, 2⟩, []⟩, 1000, 10, []⟩
    evenCalibration.launchIdentification 1000 ⟨2, 2⟩ 10 none = .ok corrector ∧
      ¬ corrector.IsBadPixel ⟨0, 0⟩ ∧ evenCalibration.signal raw ⟨0, 0⟩ = 0 ∧
      corrector.constructTable = .ok corrector ∧
      ∃ attenuation result,
        evenCalibration.processProjection (fun _ => 0) raw output = .ok attenuation ∧
        corrector.correctBadPixels attenuation = .ok result ∧
        result.pixelAt ⟨0, 0⟩ = .undefined := by
  intro raw output corrector
  exact ⟨evenCalibration_identification, List.not_mem_nil, by decide +kernel, rfl, _, _, rfl, rfl,
    by decide +kernel⟩

end CTCalibration

end AthabascaRecon
