import AthabascaRecon.Configuration.LaunchParameters

/-!
# Which verified configurations the launcher can read

The verification reads integers as `int64_t` and numbers as `double`, and does not look at
every parameter. `readConfiguration_succeeds_iff` says what can still be wrong with a
configuration that it has accepted: numbers outside the range of the types that the launcher
reads, defaults that are not numbers, a threshold of more than one character for 8-bit data,
names of input files that are missing or have another extension, options that were not looked
at, a memory limit that has no value, and a smoothing filter for the convolution.
-/

set_option autoImplicit false

namespace AthabascaRecon

open Foundation TupleStream

/-! ## Numbers that fit -/

section Numbers

variable {config : PropertyTree} {key : Key}

theorem Within.mono {Value : Type} {reader : Reader StreamException Value}
    {fits weaker : Value → Prop} (within : Within reader fits config key)
    (weaken : ∀ value, fits value → weaker value) : Within reader weaker config key :=
  fun text value found read => weaken value (within text value found read)

/-- A number that was read as one type is read as another one exactly when it fits. -/
theorem Parses.number_iff {Value : Type} {conversion : Conversion Value}
    {fits fits' : Value → Bool}
    (parses : Parses (readNumber (conversion.fitting fits)) config key) :
    Parses (readNumber (conversion.fitting fits')) config key ↔
      Within (readNumber conversion) (fun value => fits' value = true) config key :=
  (parses.widen (restricts_readNumber fits conversion)).narrow_iff
    (restricts_readNumber fits' conversion)

theorem Parses.pair_iff {Value : Type} {conversion : Conversion Value}
    {fits fits' : Value → Bool}
    (parses : Parses (reversedPair (conversion.fitting fits)) config key) :
    Parses (reversedPair (conversion.fitting fits')) config key ↔
      Within (reversedPair conversion) (fun pair => fits' pair.v = true ∧ fits' pair.u = true)
        config key :=
  (parses.widen (restricts_reversedPair fits conversion)).narrow_iff
    (restricts_reversedPair fits' conversion)

theorem Parses.tuple_iff {Value : Type} {conversion : Conversion Value}
    {fits fits' : Value → Bool} {size : ℕ}
    (parses : Parses (readTuple size (conversion.fitting fits)) config key) :
    Parses (readTuple size (conversion.fitting fits')) config key ↔
      Within (readTuple size conversion) (fun values => ∀ value ∈ values, fits' value = true)
        config key :=
  (parses.widen (restricts_readTuple fits conversion size)).narrow_iff
    (restricts_readTuple fits' conversion size)

/-- An integer is read as a decimal number that has its value. -/
theorem Parses.decimal {fits : ℤ → Bool} {fits' : ℚ → Bool}
    (parses : Parses (readNumber (convertInteger.fitting fits)) config key)
    (weaken : ∀ value : ℤ, fits value = true → fits' value = true) :
    Parses (readNumber (convertDecimal.fitting fits')) config key := by
  obtain ⟨text, value, found, read⟩ := parses
  refine ⟨text, value, found, ?_⟩
  rw [(restricts_readNumber fits convertInteger).valueOfText_iff,
    valueOfText_readNumber_iff] at read
  rw [(restricts_readNumber fits' convertDecimal).valueOfText_iff, valueOfText_readNumber_iff]
  obtain ⟨⟨some_text, rest, converted, spaces⟩, inside⟩ := read
  exact ⟨⟨some_text, rest, convertDecimal_of_convertInteger converted spaces, spaces⟩,
    weaken value inside⟩

theorem fitsFloating_of_fitsSigned {number : ℤ} (fits : fitsSigned 32 number = true)
    (precision : ℕ) {exponent : ℕ} (wide : 33 ≤ exponent) :
    fitsFloating precision exponent number = true := by
  simp only [fitsSigned, decide_eq_true_eq] at fits
  simp only [fitsFloating, decide_eq_true_eq]
  have small : |(number : ℚ)| ≤ 2 ^ 31 := by
    rw [abs_le]
    exact ⟨by exact_mod_cast fits.1, by exact_mod_cast fits.2.le⟩
  have half : (2 : ℚ) ^ (exponent - precision - 1 : ℤ) ≤ 2 ^ (exponent - 1) := by
    rw [← zpow_natCast]
    apply zpow_le_zpow_right₀ (by norm_num)
    omega
  have large : (2 : ℚ) ^ 32 ≤ 2 ^ (exponent - 1) := pow_le_pow_right₀ (by norm_num) (by omega)
  have double : (2 : ℚ) ^ exponent = 2 * 2 ^ (exponent - 1) := by
    rw [← pow_succ', Nat.sub_add_cancel (by omega)]
  linarith [show (2 : ℚ) ^ 31 < 2 ^ 32 by norm_num]

/-- The quotient is positive exactly when the dividend is not less than the divisor. -/
theorem le_tdiv_iff {count dividend divisor : ℤ} (positive : 1 ≤ divisor) (some : 1 ≤ count) :
    count ≤ dividend.tdiv divisor ↔ count * divisor ≤ dividend := by
  by_cases negative : 0 ≤ dividend
  · rw [Int.tdiv_eq_ediv_of_nonneg negative, Int.le_ediv_iff_mul_le (by omega)]
  · have below : 0 ≤ (-dividend).tdiv divisor := Int.tdiv_nonneg (by omega) (by omega)
    rw [Int.neg_tdiv] at below
    have above : 0 < count * divisor := by positivity
    exact iff_of_false (by omega) (by omega)

theorem one_le_strided_iff {projections stride : ℤ} (positive : 1 ≤ stride) :
    1 ≤ (projections + stride + -1).tdiv stride ↔ 1 ≤ projections := by
  rw [le_tdiv_iff positive le_rfl]
  omega

end Numbers

def fitsFloat (number : ℚ) : Bool := fitsFloating 24 128 number

/-! ## When a parameter is read -/

section Succeeds

variable {config : PropertyTree} {dataType : DataType}

@[simp]
theorem read_succeeds_iff {Value : Type} {reader : Reader StreamException Value} {key : Key} :
    Succeeds (config.read reader key) ↔ Parses reader config key := by
  unfold PropertyTree.read Parses
  cases config.text key with
  | none =>
    refine iff_of_false (not_succeeds_error _) ?_
    rintro ⟨text, value, absent, _⟩
    cases absent
  | some text =>
    dsimp only
    cases parsed : valueOfText reader text.toList with
    | error thrown =>
      refine iff_of_false (not_succeeds_error _) ?_
      rintro ⟨text', value, found, parsed'⟩
      cases found
      rw [parsed] at parsed'
      cases parsed'
    | ok value =>
      cases value with
      | none =>
        refine iff_of_false (not_succeeds_error _) ?_
        rintro ⟨text', value, found, parsed'⟩
        cases found
        rw [parsed] at parsed'
        cases parsed'
      | some value => exact iff_of_true (succeeds_ok _) ⟨text, value, rfl, parsed⟩

theorem readText_eq_ok_iff {key : Key} {text : String} :
    config.readText key = .ok text ↔ config.text key = some text := by
  unfold PropertyTree.readText
  cases config.text key with
  | none => simp
  | some found => simp

/-- Dimensions that the launcher can read, which have been read as `int64_t`. -/
def DimensionsReadable (config : PropertyTree) : Prop :=
  Within (reversedPair convertInteger)
    (fun dims => fitsSigned 32 dims.v = true ∧ fitsSigned 32 dims.u = true) config
    ⟨"Projections", "Dimensions"⟩

theorem readProjectionParameters_succeeds_iff (verified : VerifiedProjections config) :
    Succeeds (readProjectionParameters config) ↔ DimensionsReadable config := by
  unfold readProjectionParameters
  simp only [succeeds_bind, succeeds_pure, and_true, exists_and_right, exists_eq_ok_iff,
    read_succeeds_iff]
  rw [and_iff_left verified.numberOfProjections]
  exact verified.dimensions.pair_iff

/-- The geometry of the projections. The position may be a default. -/
structure GeometryReadable (config : PropertyTree) : Prop where
  pixelSize : Within (reversedPair convertDecimal)
    (fun size => fitsFloat size.v = true ∧ fitsFloat size.u = true) config
    ⟨"Projections", "PixelSize"⟩
  centerPixelU : Parses (readNumber float) config ⟨"Projections", "CenterPixelU"⟩
  offsetV : Parses (readNumber float) config ⟨"Projections", "OffsetV"⟩

theorem readProjectionGeometry_succeeds_iff (verified : VerifiedProjections config) :
    Succeeds (readProjectionGeometry config) ↔ GeometryReadable config := by
  have pixelSize : Parses (reversedPair float) config ⟨"Projections", "PixelSize"⟩ ↔ _ :=
    verified.pixelSize.pair_iff
  unfold readProjectionGeometry
  simp only [succeeds_bind, succeeds_pure, and_true, exists_and_right, exists_eq_ok_iff,
    read_succeeds_iff]
  constructor
  · rintro ⟨size, centerPixelU, offsetV⟩
    exact ⟨pixelSize.mp size, centerPixelU, offsetV⟩
  · rintro ⟨size, centerPixelU, offsetV⟩
    exact ⟨pixelSize.mpr size, centerPixelU, offsetV⟩

/-- The geometry of the volume, which may be a default. -/
def VolumeReadable (config : PropertyTree) : Prop :=
  Parses (reversedTriple (integerOfBits 32)) config ⟨"Volume", "Dimensions"⟩ ∧
    Parses (reversedTriple float) config ⟨"Volume", "VoxelSize"⟩ ∧
    Parses (reversedTriple float) config ⟨"Volume", "Origin"⟩

theorem readVolume_succeeds_iff :
    Succeeds (readVolume config) ↔
      (Present config ⟨"Output", "VolumeFile"⟩ → VolumeReadable config) := by
  unfold readVolume VolumeReadable
  by_cases given : (config.text ⟨"Output", "VolumeFile"⟩).isSome = true
  · rw [if_pos given, present_iff_isSome, forall_prop_of_true given]
    simp only [succeeds_bind, succeeds_pure, and_true, exists_and_right, exists_eq_ok_iff,
      read_succeeds_iff]
  · rw [if_neg given, present_iff_isSome]
    exact iff_of_true (succeeds_ok _) fun given' => absurd given' given

theorem textOr_eq_iff {key : Key} {default option : String} (other : default ≠ option) :
    config.textOr key default = option ↔ config.text key = some option := by
  unfold PropertyTree.textOr
  cases config.text key with
  | none => simpa using other
  | some text => simp

def thresholdKey : Key := ⟨"Reconstruction", "FlatFieldBadThreshold"⟩

/-- The thresholds that fit the type of the raw data. An 8-bit integer is one character. -/
def ThresholdReadable (dataType : DataType) (config : PropertyTree) : Prop :=
  match dataType with
  | .int8 | .uint8 => ∀ text, config.text thresholdKey = some text → OneCharacter text.toList
  | .int16 => Within (readNumber convertInteger) (fun value => fitsSigned 16 value = true) config
      thresholdKey
  | .uint16 => Within (readNumber convertInteger) (fun value => fitsUnsigned 16 value = true)
      config thresholdKey
  | _ => True

theorem character_parses_iff {key : Key} (present : Present config key) :
    Parses readCharacter config key ↔
      ∀ text, config.text key = some text → OneCharacter text.toList := by
  obtain ⟨text, found⟩ := present
  unfold Parses
  rw [found]
  simp only [Option.some.injEq, exists_and_left, exists_eq_left', forall_eq']
  exact valueOfText_character_exists_iff

theorem integer_parses_iff {key : Key}
    (verified : Parses (readNumber (integerOfBits 32)) config key) (fits : ℤ → Bool) :
    Parses (readNumber ((convertInteger.fitting fits).map (Int.cast : ℤ → ℚ))) config key ↔
      Within (readNumber convertInteger) (fun value => fits value = true) config key :=
  (parses_maps_iff (maps_readNumber _ _)).trans verified.number_iff

theorem threshold_parses_iff
    (verified : Parses (readNumber (integerOfBits 32)) config thresholdKey) :
    Parses (readProjectionInValue dataType) config thresholdKey ↔
      ThresholdReadable dataType config := by
  have within : Within (readNumber convertInteger) (fun value => fitsSigned 32 value = true)
      config thresholdKey := verified.number_iff.mp verified
  have fitting : ∀ fits : ℤ → Bool, (∀ value, fitsSigned 32 value = true → fits value = true) →
      Parses (readNumber ((convertInteger.fitting fits).map (Int.cast : ℤ → ℚ))) config
        thresholdKey :=
    fun fits wider => (integer_parses_iff verified fits).mpr (within.mono wider)
  cases dataType with
  | int8 =>
    exact (parses_maps_iff (maps_filterMap _ _)).trans (character_parses_iff verified.present)
  | uint8 =>
    exact (parses_maps_iff (maps_filterMap _ _)).trans (character_parses_iff verified.present)
  | int16 => exact integer_parses_iff verified (fitsSigned 16)
  | uint16 => exact integer_parses_iff verified (fitsUnsigned 16)
  | int32 => exact iff_of_true (fitting (fitsSigned 32) fun value fits => fits) trivial
  | uint32 =>
    refine iff_of_true (fitting (fitsUnsigned 32) ?_) trivial
    simp only [fitsSigned, fitsUnsigned, decide_eq_true_eq]
    omega
  | int64 =>
    refine iff_of_true (fitting (fitsSigned 64) ?_) trivial
    simp only [fitsSigned, decide_eq_true_eq]
    omega
  | uint64 =>
    refine iff_of_true (fitting (fitsUnsigned 64) ?_) trivial
    simp only [fitsSigned, fitsUnsigned, decide_eq_true_eq]
    omega
  | float32 =>
    exact iff_of_true
      (verified.decimal fun value fits => fitsFloating_of_fitsSigned fits 24 (by decide)) trivial
  | float64 =>
    exact iff_of_true
      (verified.decimal fun value fits => fitsFloating_of_fitsSigned fits 53 (by decide)) trivial

theorem readBadPixelCorrection_succeeds_iff (verified : VerifiedBadPixels config) :
    Succeeds (readBadPixelCorrection dataType config) ↔
      (config.text ⟨"Reconstruction", "BadPixelCorrection"⟩ = some "Averaging" →
        ThresholdReadable dataType config) := by
  unfold readBadPixelCorrection
  split
  · rename_i averaging
    rw [textOr_eq_iff (by decide)] at averaging
    rw [forall_prop_of_true averaging]
    have parsed : Parses (readNumber (integerOfBits 32)) config thresholdKey := by
      rcases verified with off | ⟨_, parsed⟩
      · rw [averaging] at off
        exact absurd off (by decide)
      · exact parsed
    rw [← threshold_parses_iff parsed]
    simp only [succeeds_bind, succeeds_pure, and_true, exists_eq_ok_iff, read_succeeds_iff]
    rfl
  · rename_i other
    rw [textOr_eq_iff (by decide)] at other
    exact iff_of_true (succeeds_ok _) fun averaging => absurd averaging other

/-! ### Names of files -/

/-- A file name has been set, and is not empty. -/
def Named (config : PropertyTree) (key : Key) : Prop :=
  ∃ fileName, config.text key = some fileName ∧ fileName ≠ ""

theorem textOr_ne_iff {key : Key} : config.textOr key "" ≠ "" ↔ Named config key := by
  unfold PropertyTree.textOr Named
  cases config.text key with
  | none => simp
  | some fileName => simp

/-- The fields that raw projections are calibrated with have names. -/
structure CalibrationReadable (config : PropertyTree) : Prop where
  darkField : Named config ⟨"Input", "DarkFieldFile"⟩
  brightField : Named config ⟨"Input", "BrightFieldFile"⟩

theorem loadCalibrationFields_succeeds_iff :
    Succeeds config.loadCalibrationFields ↔ CalibrationReadable config := by
  unfold PropertyTree.loadCalibrationFields
  split_ifs with noDarkField noBrightField
  · refine iff_of_false (not_succeeds_error _) fun readable => ?_
    exact textOr_ne_iff.mpr readable.darkField noDarkField
  · refine iff_of_false (not_succeeds_error _) fun readable => ?_
    exact textOr_ne_iff.mpr readable.brightField noBrightField
  · exact iff_of_true (succeeds_ok _)
      ⟨textOr_ne_iff.mp noDarkField, textOr_ne_iff.mp noBrightField⟩

/-- An input file, if there is one, has one of the extensions that can be read. -/
def FileReadable (config : PropertyTree) (key : Key) : Prop :=
  ∀ fileName, config.text key = some fileName →
    toLowerCopy (pathExtension fileName.toList) ∈ projectionsExtensions

theorem initializeProjectionsReader_succeeds_iff {fileName : String} :
    Succeeds (initializeProjectionsReader fileName) ↔
      toLowerCopy (pathExtension fileName.toList) ∈ projectionsExtensions := by
  unfold initializeProjectionsReader
  split_ifs with unnamed known
  · subst unnamed
    exact iff_of_false (not_succeeds_error _) (by decide)
  · exact iff_of_true (succeeds_ok _) known
  · exact iff_of_false (not_succeeds_error _) known

theorem readAttenuationProjections_succeeds_iff :
    Succeeds (readAttenuationProjections config) ↔
      FileReadable config ⟨"Input", "AttenuationProjectionsFile"⟩ := by
  unfold readAttenuationProjections FileReadable
  cases config.text ⟨"Input", "AttenuationProjectionsFile"⟩ with
  | none => exact iff_of_true (succeeds_ok _) fun fileName absent => by cases absent
  | some fileName =>
    simp only [Option.some.injEq, forall_eq']
    exact initializeProjectionsReader_succeeds_iff

/-! ### The beam power -/

/-- What the correction from the bright fields before and after the scan asks for. -/
structure BrightFieldsReadable (projections : ProjectionParameters) (config : PropertyTree) :
    Prop where
  postScan : Named config ⟨"Input", "PostScanBrightFieldFile"⟩
  stride : 1 ≤ projections.projectionStride
  positive : 1 ≤ projections.numberOfProjections

theorem initializeBeforeAndAfterBrightField_succeeds_iff {projections : ProjectionParameters} :
    Succeeds (initializeBeforeAndAfterBrightField projections config) ↔
      BrightFieldsReadable projections config := by
  have rounded (stride : 1 ≤ projections.projectionStride) :
      0 < (projections.numberOfProjections + projections.projectionStride - 1).tdiv
        projections.projectionStride ↔ 1 ≤ projections.numberOfProjections :=
    one_le_strided_iff stride
  unfold initializeBeforeAndAfterBrightField
  dsimp only
  split_ifs with accepted
  · obtain ⟨postScan, positive, stride⟩ := accepted
    exact iff_of_true (succeeds_ok _)
      ⟨textOr_ne_iff.mp postScan, stride, (rounded stride).mp positive⟩
  · refine iff_of_false (not_succeeds_error _) fun readable => accepted ?_
    exact ⟨textOr_ne_iff.mpr readable.postScan, (rounded readable.stride).mpr readable.positive,
      readable.stride⟩

/-- The methods of the beam power correction that have a constant term. -/
def constantTermMethods : List String :=
  ["Manual", "BeforeAndAfterBrightField", "ConstantTotalAttenuation"]

/-- The parameters of the beam power correction. The constant term may be a default. -/
structure BeamPowerReadable (projections : ProjectionParameters) (config : PropertyTree) :
    Prop where
  brightFields : config.text beamPowerKey = some "BeforeAndAfterBrightField" →
    BrightFieldsReadable projections config
  constantTerm : ∀ method ∈ constantTermMethods, config.text beamPowerKey = some method →
    Parses (readNumber float) config ⟨"Reconstruction", "BeamPowerDecayConstantTerm"⟩
  linearTerm : config.text beamPowerKey = some "Manual" →
    Within (readNumber convertDecimal) (fun value => fitsFloat value = true) config
      ⟨"Reconstruction", "BeamPowerDecayLinearTerm"⟩

/-- The edge width is read with the type that it was verified with. -/
theorem readBeamPowerCorrection_succeeds_iff {projections : ProjectionParameters}
    {method : String} (verified : VerifiedBeamPower config method) :
    Succeeds (readBeamPowerCorrection projections config) ↔
      BeamPowerReadable projections config := by
  have option : config.textOr beamPowerKey "None" = method := by
    unfold PropertyTree.textOr
    rw [verified.chosen]
    rfl
  have readable : BeamPowerReadable projections config ↔
      (method = "BeforeAndAfterBrightField" → BrightFieldsReadable projections config) ∧
      (method ∈ constantTermMethods → Parses (readNumber float) config
        ⟨"Reconstruction", "BeamPowerDecayConstantTerm"⟩) ∧
      (method = "Manual" → Parses (readNumber float) config
        ⟨"Reconstruction", "BeamPowerDecayLinearTerm"⟩) := by
    constructor
    · intro readable
      refine ⟨?_, fun asked => readable.constantTerm method asked verified.chosen, ?_⟩
      · rintro rfl
        exact readable.brightFields verified.chosen
      · rintro rfl
        exact (verified.linearTerm rfl).number_iff.mpr (readable.linearTerm verified.chosen)
    · rintro ⟨brightFields, constantTerm, linearTerm⟩
      refine ⟨?_, ?_, ?_⟩
      · intro chosen
        rw [verified.chosen, Option.some.injEq] at chosen
        exact brightFields chosen
      · intro other asked chosen
        rw [verified.chosen, Option.some.injEq] at chosen
        exact constantTerm (chosen ▸ asked)
      · intro chosen
        rw [verified.chosen, Option.some.injEq] at chosen
        exact (verified.linearTerm chosen).number_iff.mp (linearTerm chosen)
  rw [readable]
  unfold readBeamPowerCorrection
  rw [option]
  have known := verified.known
  simp only [beamPowerCorrections, List.mem_cons, List.not_mem_nil, or_false] at known
  rcases known with rfl | rfl | rfl | rfl | rfl
  · simp [constantTermMethods]
  · simp [succeeds_bind, exists_eq_ok_iff, constantTermMethods]
  · simp [succeeds_bind, exists_eq_ok_iff, constantTermMethods,
      initializeBeforeAndAfterBrightField_succeeds_iff]
  · simp [constantTermMethods, verified.edgeWidth rfl]
  · simp [constantTermMethods]

/-- The parameters of raw projections that are not looked at, or read with other types than
before. -/
structure RawReadable (dataType : DataType) (projections : ProjectionParameters)
    (config : PropertyTree) : Prop where
  calibration : CalibrationReadable config
  threshold : config.text ⟨"Reconstruction", "BadPixelCorrection"⟩ = some "Averaging" →
    ThresholdReadable dataType config
  beamPower : BeamPowerReadable projections config

theorem readCorrectors_succeeds_iff {projections : ProjectionParameters}
    (verified : Present config ⟨"Input", "RawProjectionsFile"⟩ → VerifiedRaw config) :
    Succeeds (readCorrectors dataType projections config) ↔
      FileReadable config ⟨"Input", "RawProjectionsFile"⟩ ∧
      (Present config ⟨"Input", "RawProjectionsFile"⟩ →
        RawReadable dataType projections config) := by
  unfold readCorrectors FileReadable
  cases given : config.text ⟨"Input", "RawProjectionsFile"⟩ with
  | none =>
    have absent : ¬ Present config ⟨"Input", "RawProjectionsFile"⟩ := by
      rintro ⟨fileName, found⟩
      rw [given] at found
      cases found
    refine iff_of_true (succeeds_ok _) ⟨?_, fun found => absurd found absent⟩
    rintro fileName ⟨⟩
  | some fileName =>
    have present : Present config ⟨"Input", "RawProjectionsFile"⟩ := ⟨fileName, given⟩
    obtain ⟨badPixels, method, beamPower⟩ := verified present
    rw [forall_prop_of_true present]
    simp only [succeeds_bind, succeeds_pure, and_true, exists_and_right, exists_eq_ok_iff,
      Option.some.injEq, forall_eq']
    rw [loadCalibrationFields_succeeds_iff, initializeProjectionsReader_succeeds_iff,
      readBadPixelCorrection_succeeds_iff badPixels,
      readBeamPowerCorrection_succeeds_iff beamPower]
    constructor
    · rintro ⟨calibration, fileType, threshold, beamPower⟩
      exact ⟨fileType, calibration, threshold, beamPower⟩
    · rintro ⟨fileType, calibration, threshold, beamPower⟩
      exact ⟨calibration, fileType, threshold, beamPower⟩

/-- The parameter of the smoothing filter. The radius may be a default. -/
structure SmoothingReadable (config : PropertyTree) : Prop where
  radius : config.text ⟨"Reconstruction", "SmoothingFilter"⟩ = some "Gaussian" →
    Parses (readNumber float) config ⟨"Reconstruction", "SmoothingFilterRadius"⟩
  frequencies : config.text ⟨"Reconstruction", "SmoothingFilter"⟩ = some "TaperedCosineWindow" →
    Within (readTuple 2 convertDecimal) (fun values => ∀ value ∈ values, fitsFloat value = true)
      config ⟨"Reconstruction", "SmoothingFilterFrequencies"⟩

theorem readSmoothingFilter_succeeds_iff (verified : VerifiedSmoothing config) :
    Succeeds (readSmoothingFilter config) ↔
      FileReadable config ⟨"Input", "FilteredProjectionsFile"⟩ ∧
      (¬ Present config ⟨"Input", "FilteredProjectionsFile"⟩ → SmoothingReadable config) := by
  unfold readSmoothingFilter FileReadable
  cases given : config.text ⟨"Input", "FilteredProjectionsFile"⟩ with
  | some fileName =>
    have present : Present config ⟨"Input", "FilteredProjectionsFile"⟩ := ⟨fileName, given⟩
    simp only [succeeds_bind, succeeds_pure, and_true, exists_eq_ok_iff, Option.some.injEq,
      forall_eq']
    rw [initializeProjectionsReader_succeeds_iff, and_iff_left fun absent => absurd present absent]
  | none =>
    have absent : ¬ Present config ⟨"Input", "FilteredProjectionsFile"⟩ := by
      rintro ⟨fileName, found⟩
      rw [given] at found
      cases found
    have noFile : ∀ fileName, (none : Option String) = some fileName →
        toLowerCopy (pathExtension fileName.toList) ∈ projectionsExtensions := by
      rintro fileName ⟨⟩
    rw [forall_prop_of_true absent, and_iff_right noFile]
    dsimp only
    obtain ⟨option, known, chosen⟩ := verified.chosen
    have readable : SmoothingReadable config ↔
        (option = "Gaussian" → Parses (readNumber float) config
          ⟨"Reconstruction", "SmoothingFilterRadius"⟩) ∧
        (option = "TaperedCosineWindow" → Parses (readTuple 2 float) config
          ⟨"Reconstruction", "SmoothingFilterFrequencies"⟩) := by
      have same : ∀ name, config.text ⟨"Reconstruction", "SmoothingFilter"⟩ = some name ↔
          option = name := by
        intro name
        rw [chosen, Option.some.injEq]
      constructor
      · rintro ⟨radius, frequencies⟩
        refine ⟨fun gaussian => radius ((same _).mpr gaussian), fun tapered => ?_⟩
        exact (verified.frequencies ((same _).mpr tapered)).tuple_iff.mpr
          (frequencies ((same _).mpr tapered))
      · rintro ⟨radius, frequencies⟩
        refine ⟨fun gaussian => radius ((same _).mp gaussian), fun tapered => ?_⟩
        exact (verified.frequencies tapered).tuple_iff.mp (frequencies ((same _).mp tapered))
    rw [readable, PropertyTree.textOr, chosen, Option.getD_some]
    simp only [smoothingFilters, List.mem_cons, List.not_mem_nil, or_false] at known
    rcases known with rfl | rfl | rfl
    · simp
    · simp
    · simp

/-- The engine and its threads are read as they were verified. -/
theorem readEngine_succeeds (verified : VerifiedEngine config) :
    Succeeds (readEngine config) := by
  obtain ⟨engine, known, chosen⟩ := verified.chosen
  unfold readEngine
  rw [readText_eq_ok_iff.mpr chosen]
  simp only [engines, List.mem_cons, List.not_mem_nil, or_false] at known
  rcases known with rfl | rfl
  · exact succeeds_ok none
  · rcases verified.threads chosen with automatic | ⟨notAutomatic, parses⟩
    · rw [← readText_eq_ok_iff] at automatic
      simp [succeeds_bind, automatic]
    · obtain ⟨threads, found⟩ := parses.present
      rw [found, Ne, Option.some.injEq] at notAutomatic
      rw [← readText_eq_ok_iff] at found
      simp [succeeds_bind, found, notAutomatic, parses]

theorem readPixelInterpolation_succeeds_iff :
    Succeeds (readPixelInterpolation config) ↔
      ∀ option, config.text ⟨"Reconstruction", "PixelInterpolation"⟩ = some option →
        option ∈ pixelInterpolations := by
  unfold readPixelInterpolation PropertyTree.textOr
  cases config.text ⟨"Reconstruction", "PixelInterpolation"⟩ with
  | none =>
    rw [Option.getD_none, if_pos (by decide)]
    exact iff_of_true (succeeds_ok _) fun option absent => by cases absent
  | some option =>
    rw [Option.getD_some]
    split
    · rename_i known
      exact iff_of_true (succeeds_ok _) fun option' same => Option.some.inj same ▸ known
    · rename_i unknown
      exact iff_of_false (not_succeeds_error _) fun known => unknown (known option rfl)

theorem filteringModuleOfName_isSome_iff {name : String} :
    (filteringModuleOfName name).isSome = true ↔ name ∈ filteringModules := by
  unfold filteringModuleOfName filteringModules
  split_ifs <;> simp_all

theorem readFilteringModule_succeeds_iff :
    Succeeds (readFilteringModule config) ↔
      ∀ name, config.text ⟨"Software", "FilteringModule"⟩ = some name →
        name ∈ filteringModules := by
  unfold readFilteringModule
  cases config.text ⟨"Software", "FilteringModule"⟩ with
  | none => exact iff_of_true (succeeds_ok _) fun option absent => by cases absent
  | some name =>
    dsimp only
    cases known : filteringModuleOfName name with
    | none =>
      refine iff_of_false (not_succeeds_error _) fun named => ?_
      have isSome := filteringModuleOfName_isSome_iff.mpr (named name rfl)
      rw [known] at isSome
      cases isSome
    | some filteringModule =>
      refine iff_of_true (succeeds_ok _) fun name' same => ?_
      rw [← Option.some.inj same, ← filteringModuleOfName_isSome_iff, known]
      rfl

/-- The texts of a memory parameter that have a value. -/
def MemoryReadable (text : String) : Prop :=
  text = "Automatic" ∨ ∃ valueText factor value,
    memoryUnit text.toList = some (valueText, factor) ∧
      lexicalCast 64 (trim valueText) = some value ∧
      0 < value * factor ∧ fitsSigned 64 (value * factor) = true

theorem parseMemoryValue_succeeds_iff {systemTotalMemory : ℤ} {key : Key} {text : String}
    (found : config.text key = some text) :
    Succeeds (parseMemoryValue systemTotalMemory config key) ↔ MemoryReadable text := by
  unfold parseMemoryValue MemoryReadable
  rw [readText_eq_ok_iff.mpr found]
  change Succeeds (if text = "Automatic" then _ else _) ↔ _
  by_cases automatic : text = "Automatic"
  · rw [if_pos automatic]
    exact iff_of_true (succeeds_ok _) (.inl automatic)
  · rw [if_neg automatic, or_iff_right automatic]
    cases memoryUnit text.toList with
    | none => simp
    | some parts =>
      obtain ⟨valueText, factor⟩ := parts
      dsimp only
      cases number : lexicalCast 64 (trim valueText) with
      | none => simp [number]
      | some value =>
        simp only [Option.some.injEq, Prod.mk.injEq]
        split_ifs with fits positive <;> simp_all

end Succeeds

/-! ## What the parameters are -/

section Parameters

variable {config : PropertyTree} {dataType : DataType} {projections : ProjectionParameters}
  {parameters : LaunchParameters}

theorem readLaunchParameters_eq_ok_iff :
    readLaunchParameters dataType projections config = .ok parameters ↔
      readProjectionGeometry config = .ok () ∧
      readVolume config = .ok parameters.volDims ∧
      readCorrectors dataType projections config =
        .ok (parameters.badPixelCorrection, parameters.beamPowerCorrection) ∧
      readAttenuationProjections config = .ok () ∧
      readSmoothingFilter config = .ok parameters.smoothingFilter ∧
      Succeeds (readEngine config) ∧
      readPixelInterpolation config = .ok () ∧
      readFilteringModule config = .ok parameters.filteringModule ∧
      parameters.projectionsAtBothLimits =
        decide (config.textOr ⟨"Projections", "ProjectionAt180"⟩ "True" = "True") ∧
      parameters.reverseRotation =
        decide (config.textOr ⟨"Projections", "ReverseRotation"⟩ "False" = "True") := by
  unfold readLaunchParameters
  simp only [bind_eq_ok_iff]
  constructor
  · rintro ⟨⟨⟩, geometry, volDims, volume, ⟨badPixels, beamPower⟩, correctors, ⟨⟩, reader,
      smoothing, smoothingRead, engine, engineRead, ⟨⟩, interpolation, filteringModule, moduleRead,
      same⟩
    cases same
    exact ⟨geometry, volume, correctors, reader, smoothingRead, ⟨engine, engineRead⟩,
      interpolation, moduleRead, rfl, rfl⟩
  · rintro ⟨geometry, volume, correctors, reader, smoothing, ⟨engine, engineRead⟩, interpolation,
      moduleRead, limits, rotation⟩
    refine ⟨(), geometry, _, volume, _, correctors, (), reader, _, smoothing, engine, engineRead,
      (), interpolation, _, moduleRead, ?_⟩
    rw [← limits, ← rotation]
    rfl

/-- The reads that do not depend on each other. -/
theorem readLaunchParameters_succeeds_iff :
    Succeeds (readLaunchParameters dataType projections config) ↔
      Succeeds (readProjectionGeometry config) ∧ Succeeds (readVolume config) ∧
      Succeeds (readCorrectors dataType projections config) ∧
      Succeeds (readAttenuationProjections config) ∧ Succeeds (readSmoothingFilter config) ∧
      Succeeds (readEngine config) ∧ Succeeds (readPixelInterpolation config) ∧
      Succeeds (readFilteringModule config) := by
  constructor
  · rintro ⟨parameters, read⟩
    obtain ⟨geometry, volume, correctors, reader, smoothing, engine, interpolation, module, _⟩ :=
      readLaunchParameters_eq_ok_iff.mp read
    exact ⟨⟨_, geometry⟩, ⟨_, volume⟩, ⟨_, correctors⟩, ⟨_, reader⟩, ⟨_, smoothing⟩, engine,
      ⟨_, interpolation⟩, ⟨_, module⟩⟩
  · rintro ⟨⟨⟨⟩, geometry⟩, ⟨volDims, volume⟩, ⟨⟨badPixels, beamPower⟩, correctors⟩,
      ⟨⟨⟩, reader⟩, ⟨smoothing, smoothingRead⟩, engine, ⟨⟨⟩, interpolation⟩,
      ⟨module, moduleRead⟩⟩
    exact ⟨⟨volDims, badPixels, beamPower, smoothing, _, _, module⟩,
      readLaunchParameters_eq_ok_iff.mpr ⟨geometry, volume, correctors, reader, smoothingRead,
        engine, interpolation, moduleRead, rfl, rfl⟩⟩

theorem volDims_isSome_iff {volDims : Option (Tuple3 ℤ)} (read : readVolume config = .ok volDims) :
    volDims.isSome = true ↔ Present config ⟨"Output", "VolumeFile"⟩ := by
  unfold readVolume at read
  rw [present_iff_isSome]
  split at read
  · rename_i given
    simp only [bind_eq_ok_iff] at read
    obtain ⟨dims, _, _, _, _, _, same⟩ := read
    cases same
    exact iff_of_true rfl given
  · rename_i absent
    cases read
    exact iff_of_false (by decide) absent

theorem smoothingFilter_eq_true_iff {smoothing : Bool} (verified : VerifiedSmoothing config)
    (read : readSmoothingFilter config = .ok smoothing) :
    smoothing = true ↔ ¬ Present config ⟨"Input", "FilteredProjectionsFile"⟩ ∧
      config.text ⟨"Reconstruction", "SmoothingFilter"⟩ ≠ some "None" := by
  obtain ⟨option, known, chosen⟩ := verified.chosen
  unfold readSmoothingFilter at read
  rw [present_iff_isSome]
  cases filtered : config.text ⟨"Input", "FilteredProjectionsFile"⟩ with
  | some fileName =>
    rw [filtered] at read
    simp only [bind_eq_ok_iff] at read
    obtain ⟨_, _, same⟩ := read
    cases same
    simp
  | none =>
    rw [filtered] at read
    dsimp only at read
    rw [PropertyTree.textOr, chosen, Option.getD_some] at read
    rw [chosen, Ne, Option.some.injEq]
    simp only [smoothingFilters, List.mem_cons, List.not_mem_nil, or_false] at known
    rcases known with rfl | rfl | rfl
    · cases read
      simp
    · simp only [if_true, bind_eq_ok_iff] at read
      obtain ⟨_, _, same⟩ := read
      cases same
      simp
    · rw [if_neg (by decide), if_pos rfl, bind_eq_ok_iff] at read
      obtain ⟨_, _, same⟩ := read
      cases same
      simp

theorem filteringModule_eq_convolution_iff {filteringModule : FilteringModule}
    (read : readFilteringModule config = .ok filteringModule) :
    filteringModule = .convolution ↔
      config.text ⟨"Software", "FilteringModule"⟩ = some "RealSpaceConvolution" := by
  unfold readFilteringModule at read
  cases named : config.text ⟨"Software", "FilteringModule"⟩ with
  | none =>
    rw [named] at read
    cases read
    simp
  | some name =>
    rw [named] at read
    dsimp only at read
    unfold filteringModuleOfName at read
    rw [Option.some.injEq]
    split_ifs at read with convolution vDSP fftw
    · cases read
      simp [convolution]
    · cases read
      simp [convolution]
    · cases read
      simp [convolution]

/-- The filterer and the smoothing filter that are selected go together. -/
theorem initializeFilterer_succeeds_iff {runner : RunnerConfig} {smoothingFilter : Bool} :
    Succeeds (initializeFilterer runner smoothingFilter) ↔
      (runner.filters = true → runner.filteringModule = .convolution →
        ¬ smoothingFilter = true) := by
  unfold initializeFilterer
  split
  · rename_i refused
    simp only [Bool.and_eq_true, beq_iff_eq] at refused
    obtain ⟨⟨filters, convolution⟩, smoothing⟩ := refused
    exact iff_of_false (not_succeeds_error _) fun fine => fine filters convolution smoothing
  · rename_i accepted
    simp only [Bool.and_eq_true, beq_iff_eq] at accepted
    exact iff_of_true (succeeds_ok _) fun filters convolution smoothing =>
      accepted ⟨⟨filters, convolution⟩, smoothing⟩

end Parameters

/-! ## The whole configuration -/

/-- What the verification does not ensure, of a configuration that it has accepted: ranges of
numbers, numbers that may be defaults, and options and names of files that it did not look at. -/
structure ConfigurationReadable (dataType : DataType) (config : PropertyTree) : Prop where
  dimensions : DimensionsReadable config
  geometry : GeometryReadable config
  volume : Present config ⟨"Output", "VolumeFile"⟩ → VolumeReadable config
  rawProjections : FileReadable config ⟨"Input", "RawProjectionsFile"⟩
  attenuationProjections : FileReadable config ⟨"Input", "AttenuationProjectionsFile"⟩
  filteredProjections : FileReadable config ⟨"Input", "FilteredProjectionsFile"⟩
  raw : ∀ projections, readProjectionParameters config = .ok projections →
    Present config ⟨"Input", "RawProjectionsFile"⟩ → RawReadable dataType projections config
  smoothing : ¬ Present config ⟨"Input", "FilteredProjectionsFile"⟩ → SmoothingReadable config
  pixelInterpolation : ¬ Present config ⟨"Output", "VolumeFile"⟩ →
    ∀ option, config.text ⟨"Reconstruction", "PixelInterpolation"⟩ = some option →
      option ∈ pixelInterpolations
  filteringModule : Present config ⟨"Input", "FilteredProjectionsFile"⟩ →
    ∀ name, config.text ⟨"Software", "FilteringModule"⟩ = some name → name ∈ filteringModules
  maximumVolumeMemory : Present config ⟨"Output", "VolumeFile"⟩ →
    ∀ text, config.text ⟨"Software", "MaximumVolumeMemory"⟩ = some text → MemoryReadable text
  filterer : ¬ Present config ⟨"Input", "FilteredProjectionsFile"⟩ →
    Present config ⟨"Output", "FilteredProjectionsFile"⟩ ∨
      Present config ⟨"Output", "VolumeFile"⟩ →
    config.text ⟨"Software", "FilteringModule"⟩ = some "RealSpaceConvolution" →
    config.text ⟨"Reconstruction", "SmoothingFilter"⟩ = some "None"

section Whole

variable {build : Build} {systemTotalMemory : ℤ} {dataType : DataType} {config : PropertyTree}
  {projections : ProjectionParameters} {parameters : LaunchParameters}

theorem readMemoryLimit_succeeds_iff (verified : Verified build config)
    (read : readLaunchParameters dataType projections config = .ok parameters) :
    Succeeds (readMemoryLimit systemTotalMemory config parameters) ↔
      (Present config ⟨"Output", "VolumeFile"⟩ →
        ∀ text, config.text ⟨"Software", "MaximumVolumeMemory"⟩ = some text →
          MemoryReadable text) := by
  have volume := volDims_isSome_iff (readLaunchParameters_eq_ok_iff.mp read).2.1
  unfold readMemoryLimit
  split_ifs with given
  · have present := volume.mp given
    obtain ⟨text, found⟩ := verified.maximumVolumeMemory present
    rw [forall_prop_of_true present, found]
    simp only [succeeds_bind, succeeds_pure, and_true, exists_eq_ok_iff, Option.some.injEq,
      forall_eq']
    exact parseMemoryValue_succeeds_iff found
  · exact iff_of_true (succeeds_ok _) fun present => absurd (volume.mpr present) given

theorem filters_iff :
    ((launchOptions build config projections parameters).runnerConfig 0).filters = true ↔
      ¬ Present config ⟨"Input", "FilteredProjectionsFile"⟩ ∧
        (Present config ⟨"Output", "FilteredProjectionsFile"⟩ ∨
          Present config ⟨"Output", "VolumeFile"⟩) := by
  simp only [RunnerConfig.filters, LaunchOptions.runnerConfig, launchOptions, present_iff_isSome,
    Bool.and_eq_true, Bool.or_eq_true, Bool.not_eq_true', beq_self_eq_true, true_and,
    Bool.not_eq_true]

theorem initializeFilterer_launchOptions (verified : Verified build config)
    (read : readLaunchParameters dataType projections config = .ok parameters) :
    Succeeds (initializeFilterer
        ((launchOptions build config projections parameters).runnerConfig 0)
        parameters.smoothingFilter) ↔
      (¬ Present config ⟨"Input", "FilteredProjectionsFile"⟩ →
        Present config ⟨"Output", "FilteredProjectionsFile"⟩ ∨
          Present config ⟨"Output", "VolumeFile"⟩ →
        config.text ⟨"Software", "FilteringModule"⟩ = some "RealSpaceConvolution" →
        config.text ⟨"Reconstruction", "SmoothingFilter"⟩ = some "None") := by
  obtain ⟨_, _, _, _, smoothing, _, _, module, _⟩ := readLaunchParameters_eq_ok_iff.mp read
  have selected : ((launchOptions build config projections parameters).runnerConfig
      0).filteringModule = .convolution ↔
      config.text ⟨"Software", "FilteringModule"⟩ = some "RealSpaceConvolution" :=
    filteringModule_eq_convolution_iff module
  rw [initializeFilterer_succeeds_iff, filters_iff, selected,
    smoothingFilter_eq_true_iff verified.smoothing smoothing]
  constructor
  · intro fine notFiltered output convolution
    have none := fine ⟨notFiltered, output⟩ convolution
    simpa [notFiltered] using none
  · rintro fine ⟨notFiltered, output⟩ convolution ⟨_, smoothed⟩
    exact smoothed (fine notFiltered output convolution)

end Whole

/-- Arithmetic without rounding, for numbers with one decimal. -/
def exactArithmetic : DoubleArithmetic where
  Value := ℚ
  ofDecimal number := number
  ofInteger number := number
  negate number := -number
  add first second := first + second
  multiply first second := first * second
  divide first second := first / second
  equal first second := first = second
  toInteger number := number.num.tdiv number.den
  write number :=
    let tenths := (|number| * 10).floor.natAbs
    (if number < 0 then ['-'] else []) ++ Nat.toDigits 10 (tenths / 10) ++
      (if tenths % 10 = 0 then [] else '.' :: Nat.toDigits 10 (tenths % 10))

/-- A section of a configuration, or a configuration. -/
def parameters (texts : List (String × String)) : PropertyTree :=
  .node "" (texts.map fun entry => (entry.1, .node entry.2 []))

/-- A reconstruction from raw projections, with further parameters of the projections. -/
def scanConfiguration (projections : List (String × String)) : PropertyTree :=
  .node "" [("Input", parameters [("RawProjectionsFile", "projections.mhd"),
      ("DarkFieldFile", "dark.mhd"), ("BrightFieldFile", "bright.mhd")]),
    ("Output", parameters [("VolumeFile", "volume.mhd")]),
    ("Projections", parameters ([("DataType", "UINT16"), ("Dimensions", "(64,48)"),
      ("NumberOfProjections", "180"), ("PixelSize", "(1,1)")] ++ projections))]

def withoutLibraries : Build where
  useVDSP := false
  useFFTW := false

def withFFTW : Build where
  useVDSP := false
  useFFTW := true

end AthabascaRecon
