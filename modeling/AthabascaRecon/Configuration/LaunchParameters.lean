import AthabascaRecon.Configuration.Verified
import AthabascaRecon.Foundation.Files
import AthabascaRecon.Foundation.Strings

/-!
# What the launcher reads from a configuration

`Launch` reads the parameters a second time, with the types that the reconstruction uses:
`int` and `float` where the verification has read `int64_t` and `double`, and the type of
the raw data where it has read `int`. Some parameters it reads have not been looked at
before. The names of the input files also have to suit the calibration and the readers. What
the files hold is left out.
-/

set_option autoImplicit false

namespace AthabascaRecon

open Foundation TupleStream

/-- Calculations with undefined or senseless results. -/
inductive ArithmeticFault where
  | overflow
  | divisor
  | count
  deriving DecidableEq, Repr

/-- What is wrong with a configuration. -/
inductive ConfigurationError where
  | badPath (key : Key)
  | badData (key : Key)
  | threw (thrown : StreamException)
  | unrecognized (message : String)
  | died (message : String)
  | assertionFailed
  | verboseAssertionFailed (message : String)
  | overflow
  deriving DecidableEq, Repr

abbrev Reads := Except ConfigurationError

/-! ## Reading a parameter -/

/-- `get<T>(path)`. -/
def PropertyTree.read {Value : Type} (config : PropertyTree)
    (reader : Reader StreamException Value) (key : Key) : Reads Value :=
  match config.text key with
  | none => .error (.badPath key)
  | some text =>
    match valueOfText reader text.toList with
    | .error thrown => .error (.threw thrown)
    | .ok none => .error (.badData key)
    | .ok (some value) => .ok value

/-- `get<std::string>(path)`. -/
def PropertyTree.readText (config : PropertyTree) (key : Key) : Reads String :=
  match config.text key with
  | none => .error (.badPath key)
  | some text => .ok text

/-- `get<std::string>(path, default_value)`. -/
def PropertyTree.textOr (config : PropertyTree) (key : Key) (default : String) : String :=
  (config.text key).getD default

/-- `get<T>(path, default_value)` of a number: the default also replaces a text that is
not a number. -/
def PropertyTree.numberOr (config : PropertyTree) (conversion : Conversion ℤ) (key : Key)
    (default : ℤ) : ℤ :=
  match config.text key with
  | none => default
  | some text =>
    match (valueOfText (readNumber conversion) text.toList : Except StreamException _) with
    | .ok (some value) => value
    | _ => default

/-- The types of raw data that `main` has a launcher for. -/
def dispatched : List DataType :=
  [.int8, .uint8, .int16, .uint16, .int32, .uint32, .float32, .float64]

/-- The reader of a value of the raw data's type. An 8-bit integer is one character. -/
def readProjectionInValue : DataType → Reader StreamException ℚ
  | .int8 | .uint8 => Reader.filterMap (fun c => some (c.toNat : ℚ)) readCharacter
  | .int16 => readNumber ((integerOfBits 16).map Int.cast)
  | .uint16 => readNumber ((unsignedOfBits 16).map Int.cast)
  | .int32 => readNumber ((integerOfBits 32).map Int.cast)
  | .uint32 => readNumber ((unsignedOfBits 32).map Int.cast)
  | .int64 => readNumber ((integerOfBits 64).map Int.cast)
  | .uint64 => readNumber ((unsignedOfBits 64).map Int.cast)
  | .float32 => readNumber float
  | .float64 => readNumber double

/-! ## The parameters -/

/-- The parameters that the number of projections is calculated from. -/
structure ProjectionParameters where
  projDims : Tuple2 ℤ
  numberOfProjections : ℤ
  projectionStride : ℤ
  deriving DecidableEq, Repr

def readProjectionParameters (config : PropertyTree) : Reads ProjectionParameters := do
  let projDims ← config.read (reversedPair (integerOfBits 32)) ⟨"Projections", "Dimensions"⟩
  let numberOfProjections ← config.read (readNumber (integerOfBits 32))
    ⟨"Projections", "NumberOfProjections"⟩
  let projectionStride := config.numberOr (integerOfBits 32) ⟨"Projections", "ProjectionStride"⟩ 1
  return ⟨projDims, numberOfProjections, projectionStride⟩

/-- The pixel size and the position of the projections. -/
def readProjectionGeometry (config : PropertyTree) : Reads Unit := do
  let _ ← config.read (reversedPair float) ⟨"Projections", "PixelSize"⟩
  let _ ← config.read (readNumber float) ⟨"Projections", "CenterPixelU"⟩
  let _ ← config.read (readNumber float) ⟨"Projections", "OffsetV"⟩

/-- The dimensions of the volume, if one is written. -/
def readVolume (config : PropertyTree) : Reads (Option (Tuple3 ℤ)) :=
  if (config.text ⟨"Output", "VolumeFile"⟩).isSome then do
    let volDims ← config.read (reversedTriple (integerOfBits 32)) ⟨"Volume", "Dimensions"⟩
    let _ ← config.read (reversedTriple float) ⟨"Volume", "VoxelSize"⟩
    let _ ← config.read (reversedTriple float) ⟨"Volume", "Origin"⟩
    return some volDims
  else .ok none

/-- The thresholds of the bad pixels. The one of the dark field is optional. -/
def readBadPixelCorrection (dataType : DataType) (config : PropertyTree) : Reads Bool :=
  if config.textOr ⟨"Reconstruction", "BadPixelCorrection"⟩ "None" = "Averaging" then do
    let _ ← config.read (readProjectionInValue dataType)
      ⟨"Reconstruction", "FlatFieldBadThreshold"⟩
    return true
  else .ok false

/-- `BeforeAndAfterBrightFieldBeamPowerCorrector::Initialize`, as far as the configuration
decides it. There is no flat field after the scan when no file name has been set for it. -/
def initializeBeforeAndAfterBrightField (projections : ProjectionParameters)
    (config : PropertyTree) : Reads Unit :=
  let numberOfProjections :=
    (projections.numberOfProjections + projections.projectionStride - 1).tdiv
      projections.projectionStride
  if config.textOr ⟨"Input", "PostScanBrightFieldFile"⟩ "" ≠ "" ∧ 0 < numberOfProjections ∧
      0 < projections.projectionStride then .ok ()
  else .error .assertionFailed

/-- The parameters of the beam power correction, and whether there is one. -/
def readBeamPowerCorrection (projections : ProjectionParameters) (config : PropertyTree) :
    Reads Bool :=
  let option := config.textOr beamPowerKey "None"
  if option = "Manual" then do
    let _ ← config.read (readNumber float) ⟨"Reconstruction", "BeamPowerDecayConstantTerm"⟩
    let _ ← config.read (readNumber float) ⟨"Reconstruction", "BeamPowerDecayLinearTerm"⟩
    return true
  else if option = "BeforeAndAfterBrightField" then do
    initializeBeforeAndAfterBrightField projections config
    let _ ← config.read (readNumber float) ⟨"Reconstruction", "BeamPowerDecayConstantTerm"⟩
    return true
  else if option = "ConstantTotalAttenuation" then do
    let _ ← config.read (readNumber float) ⟨"Reconstruction", "BeamPowerDecayConstantTerm"⟩
    return true
  else if option = "NullProjectionEdge" then do
    let _ ← config.read (readNumber (integerOfBits 32))
      ⟨"Reconstruction", "ProjectionBackgroundEdgeWidth"⟩
    return true
  else .ok false

/-- `CTCalibration::LoadCalibrationFields`, as far as the configuration decides it. File names
that have not been set are empty. -/
def PropertyTree.loadCalibrationFields (config : PropertyTree) : Reads Unit :=
  if config.textOr ⟨"Input", "DarkFieldFile"⟩ "" = "" then
    .error (.verboseAssertionFailed "No dark field defined")
  else if config.textOr ⟨"Input", "BrightFieldFile"⟩ "" = "" then
    .error (.verboseAssertionFailed "No bright field defined")
  else .ok ()

/-- The extensions of the files with projections that can be read. -/
def projectionsExtensions : List Text := [".raw".toList, ".mhd".toList]

/-- `AnyFormatStreamingProjectionsReader::Initialize`, as far as the configuration decides it. -/
def initializeProjectionsReader (fileName : String) : Reads Unit :=
  if fileName = "" then .error .assertionFailed
  else if toLowerCopy (pathExtension fileName.toList) ∈ projectionsExtensions then .ok ()
  else .error (.unrecognized "Unsupported file type.")

/-- What is for raw projections: the calibration, their reader, and the correctors of bad pixels
and of the beam power. -/
def readCorrectors (dataType : DataType) (projections : ProjectionParameters)
    (config : PropertyTree) : Reads (Bool × Bool) :=
  match config.text ⟨"Input", "RawProjectionsFile"⟩ with
  | none => .ok (false, false)
  | some fileName => do
    config.loadCalibrationFields
    initializeProjectionsReader fileName
    let badPixelCorrection ← readBadPixelCorrection dataType config
    let beamPowerCorrection ← readBeamPowerCorrection projections config
    return (badPixelCorrection, beamPowerCorrection)

/-- The reader for attenuation projections, if there are some. -/
def readAttenuationProjections (config : PropertyTree) : Reads Unit :=
  match config.text ⟨"Input", "AttenuationProjectionsFile"⟩ with
  | none => .ok ()
  | some fileName => initializeProjectionsReader fileName

/-- Whether there is a smoothing filter, for projections that are to be filtered. -/
def readSmoothingFilter (config : PropertyTree) : Reads Bool :=
  match config.text ⟨"Input", "FilteredProjectionsFile"⟩ with
  | some fileName => do
    initializeProjectionsReader fileName
    return false
  | none =>
    let option := config.textOr ⟨"Reconstruction", "SmoothingFilter"⟩ "None"
    if option = "Gaussian" then do
      let _ ← config.read (readNumber float) ⟨"Reconstruction", "SmoothingFilterRadius"⟩
      return true
    else if option = "TaperedCosineWindow" then do
      let _ ← config.read (readTuple 2 float) ⟨"Reconstruction", "SmoothingFilterFrequencies"⟩
      return true
    else if option ≠ "None" then
      .error (.unrecognized "Unrecognized value for Reconstruction.SmoothingFilter")
    else .ok false

/-- The engine, and the number of threads that the multi-threaded one is given. -/
def readEngine (config : PropertyTree) : Reads (Option ℤ) := do
  let engine ← config.readText ⟨"Software", "Engine"⟩
  if engine = "SingleThreaded" then return none
  else if engine = "MultiThreaded" then
    let threads ← config.readText ⟨"Software", "Threads"⟩
    if threads ≠ "Automatic" then
      let number ← config.read (readNumber (integerOfBits 32)) ⟨"Software", "Threads"⟩
      return some number
    else return none
  else .error (.unrecognized "Unrecognized value for Software.Engine")

def readPixelInterpolation (config : PropertyTree) : Reads Unit :=
  if config.textOr ⟨"Reconstruction", "PixelInterpolation"⟩ "BilinearWithFallback" ∈
    pixelInterpolations then .ok ()
  else .error (.unrecognized "Unrecognized value for Reconstruction.PixelInterpolation\n")

/-- The module that a name stands for. -/
def filteringModuleOfName (name : String) : Option FilteringModule :=
  if name = "RealSpaceConvolution" then some .convolution
  else if name = "vDSP" then some .vDSP
  else if name = "FFTW" then some .fftw
  else none

/-- The filtering module, which is vDSP in a runner that is not told otherwise. -/
def readFilteringModule (config : PropertyTree) : Reads FilteringModule :=
  match config.text ⟨"Software", "FilteringModule"⟩ with
  | none => .ok .vDSP
  | some name =>
    match filteringModuleOfName name with
    | none => .error (.unrecognized "Internal Error\n")
    | some filteringModule => .ok filteringModule

/-- The parameters that decide what the runner does. -/
structure LaunchParameters where
  volDims : Option (Tuple3 ℤ)
  badPixelCorrection : Bool
  beamPowerCorrection : Bool
  smoothingFilter : Bool
  projectionsAtBothLimits : Bool
  reverseRotation : Bool
  filteringModule : FilteringModule
  deriving DecidableEq, Repr

/-- The parameters that `Launch` reads after those of the projections. -/
def readLaunchParameters (dataType : DataType) (projections : ProjectionParameters)
    (config : PropertyTree) : Reads LaunchParameters := do
  readProjectionGeometry config
  let volDims ← readVolume config
  let (badPixelCorrection, beamPowerCorrection) ← readCorrectors dataType projections config
  readAttenuationProjections config
  let smoothingFilter ← readSmoothingFilter config
  let _ ← readEngine config
  readPixelInterpolation config
  let filteringModule ← readFilteringModule config
  return {
    volDims, badPixelCorrection, beamPowerCorrection, smoothingFilter, filteringModule
    projectionsAtBothLimits :=
      config.textOr ⟨"Projections", "ProjectionAt180"⟩ "True" = "True"
    reverseRotation := config.textOr ⟨"Projections", "ReverseRotation"⟩ "False" = "True" }

/-! ## The memory of the volume -/

/-- `find` and `substr`: the text before the first place where a unit stands. -/
def textBefore (unit : Text) : Text → Option Text
  | [] => none
  | c :: rest =>
    if unit.isPrefixOf (c :: rest) then some []
    else (textBefore unit rest).map (c :: ·)

/-- The value and the unit of a memory parameter. -/
def memoryUnit (text : Text) : Option (Text × ℤ) :=
  match textBefore "MB".toList text with
  | some value => some (value, 1024 * 1024)
  | none => (textBefore "GB".toList text).map fun value => (value, 1024 * 1024 * 1024)

/-- `ParseMemoryValue`. A product that does not fit `int64_t` has no defined value. -/
def parseMemoryValue (systemTotalMemory : ℤ) (config : PropertyTree) (key : Key) : Reads ℤ := do
  let optionText ← config.readText key
  if optionText = "Automatic" then
    return max (512 * 1024 * 1024) (systemTotalMemory - 1024 * 1024 * 1024)
  else
    match memoryUnit optionText.toList with
    | none =>
      .error (.died ("Invalid units for " ++ key.dotted ++ ". Must specify MB or GB."))
    | some (valueText, factor) =>
      match lexicalCast 64 (trim valueText) with
      | none => .error (.died ("Unable to parse " ++ key.dotted ++ " numerical value."))
      | some value =>
        if fitsSigned 64 (value * factor) then
          if 0 < value * factor then return value * factor
          else .error .assertionFailed
        else .error .overflow

/-- The memory limit, if a volume is written. -/
def readMemoryLimit (systemTotalMemory : ℤ) (config : PropertyTree)
    (parameters : LaunchParameters) : Reads (Option ℤ) :=
  if parameters.volDims.isSome then do
    let limit ← parseMemoryValue systemTotalMemory config ⟨"Software", "MaximumVolumeMemory"⟩
    return some limit
  else .ok none

/-! ## The runner -/

/-- The options of the launcher, as far as they decide which readers, correctors and
writers it creates. -/
def launchOptions (build : Build) (config : PropertyTree) (projections : ProjectionParameters)
    (parameters : LaunchParameters) : LaunchOptions where
  build := build
  inputRawProjectionsFile := (config.text ⟨"Input", "RawProjectionsFile"⟩).isSome
  inputAttenuationProjectionsFile :=
    (config.text ⟨"Input", "AttenuationProjectionsFile"⟩).isSome
  inputFilteredProjectionsFile := (config.text ⟨"Input", "FilteredProjectionsFile"⟩).isSome
  outputAttenuationProjectionsFile :=
    (config.text ⟨"Output", "AttenuationProjectionsFile"⟩).isSome
  outputFilteredProjectionsFile := (config.text ⟨"Output", "FilteredProjectionsFile"⟩).isSome
  outputAttenuationCorrectionsFile :=
    (config.text ⟨"Output", "AttenuationCorrectionsFile"⟩).isSome
  outputVolumeFile := (config.text ⟨"Output", "VolumeFile"⟩).isSome
  badPixelCorrection := parameters.badPixelCorrection
  beamPowerCorrection := parameters.beamPowerCorrection
  projectionAt180 := parameters.projectionsAtBothLimits
  reverseRotation := parameters.reverseRotation
  filteringModule := parameters.filteringModule
  numberOfProjections := projections.numberOfProjections.toNat
  projectionStride := projections.projectionStride.toNat
  volumeSlices := (parameters.volDims.map fun dims => dims.z.toNat).getD 0

/-- `Initialize` of the filterer that a runner creates: the convolution cannot handle a
smoothing filter. -/
def initializeFilterer (runner : RunnerConfig) (smoothingFilter : Bool) : Reads Unit :=
  if runner.filters && runner.filteringModule == .convolution && smoothingFilter then
    .error (.unrecognized "Convolution Filterer can't accept a Smoothing Filter")
  else .ok ()

/-- Everything that the program reads from a configuration after it was verified. -/
def readConfiguration (build : Build) (systemTotalMemory : ℤ) (dataType : DataType)
    (config : PropertyTree) : Reads Unit := do
  let projections ← readProjectionParameters config
  let parameters ← readLaunchParameters dataType projections config
  let _ ← readMemoryLimit systemTotalMemory config parameters
  initializeFilterer ((launchOptions build config projections parameters).runnerConfig 0)
    parameters.smoothingFilter

end AthabascaRecon
