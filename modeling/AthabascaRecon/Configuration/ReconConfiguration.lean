import AthabascaRecon.Foundation.PropertyTree
import AthabascaRecon.Bonelab.TupleStream
import AthabascaRecon.Bonelab.Image
import AthabascaRecon.Bonelab.Types
import AthabascaRecon.Engines.ReconstructionRunner
import AthabascaRecon.Util.Subvolumer

/-!
# Verifying a configuration

`ReconConfiguration` keeps its parameters as texts in a property tree, with one level of
sections. `VerifyConfiguration` reads every required parameter as some type, puts the
default of every other parameter that it knows of, and ends the program with a message
when it finds something wrong. The arithmetic of `double` that the defaults are calculated
with is a parameter of the model.
-/

set_option autoImplicit false

namespace AthabascaRecon

open TupleStream

/-- A key such as `Input.DarkFieldFile`: a section and a parameter of it. -/
structure Key where
  sectionKey : String
  parameter : String
  deriving DecidableEq, Repr

/-- The path that a key stands for. -/
def Key.path (key : Key) : List String := [key.sectionKey, key.parameter]

/-- A key as it is written. -/
def Key.dotted (key : Key) : String := key.sectionKey ++ "." ++ key.parameter

/-! ## The types of parameters -/

def integerOfBits (bits : ℕ) : Conversion ℤ := convertInteger.fitting (fitsSigned bits)

def unsignedOfBits (bits : ℕ) : Conversion ℤ := convertInteger.fitting (fitsUnsigned bits)

def float : Conversion ℚ := convertDecimal.fitting (fitsFloating 24 128)

def double : Conversion ℚ := convertDecimal.fitting (fitsFloating 53 1024)

/-- `reverse`, of a tuple in the order (u,v). -/
def pairOfList {Value : Type} : List Value → Option (Tuple2 Value)
  | [u, v] => some ⟨v, u⟩
  | _ => none

/-- `reverse`, of a tuple in the order (x,y,z). -/
def tripleOfList {Value : Type} : List Value → Option (Tuple3 Value)
  | [x, y, z] => some ⟨z, y, x⟩
  | _ => none

def reversedPair {Value : Type} (conversion : Conversion Value) :
    Reader StreamException (Tuple2 Value) :=
  Reader.filterMap pairOfList (readTuple 2 conversion)

def reversedTriple {Value : Type} (conversion : Conversion Value) :
    Reader StreamException (Tuple3 Value) :=
  Reader.filterMap tripleOfList (readTuple 3 conversion)

/-! ## Reading and writing parameters -/

/-- The ways in which the verification ends the program. -/
inductive VerificationFailure where
  | died (message : String)
  | threw (thrown : StreamException)
  deriving DecidableEq, Repr

abbrev Verifier := StateT PropertyTree (Except VerificationFailure)

/-- `Die`. -/
def die {Value : Type} (message : String) : Verifier Value := throw (.died message)

/-- `if (condition) { this->Die(message); }`. -/
def dieIf (condition : Prop) [Decidable condition] (message : String) : Verifier Unit :=
  if condition then die message else pure ()

/-- `get_optional<std::string>`. -/
def getOptional (key : Key) : Verifier (Option String) := do
  return (← get).dataAt key.path

def present (key : Key) : Verifier Bool := do
  return ((← get).dataAt key.path).isSome

/-- `put`, of a text. -/
def putText (key : Key) (text : String) : Verifier Unit :=
  modify (PropertyTree.put text key.path)

/-- `get_optional<T>` of a parameter that is there. -/
def parse {Value : Type} (reader : Reader StreamException Value) (key : Key) (text : String) :
    Verifier Value :=
  match valueOfText reader text.toList with
  | .error thrown => throw (.threw thrown)
  | .ok none => die ("Error parsing configuration parameter " ++ key.dotted)
  | .ok (some value) => pure value

/-- `RequireParameter`. -/
def requireParameter {Value : Type} (reader : Reader StreamException Value) (key : Key) :
    Verifier Value := do
  match ← getOptional key with
  | none => die ("Missing required parameter " ++ key.dotted)
  | some text => parse reader key text

/-- `OptionalParameter`. -/
def optionalParameter {Value : Type} (reader : Reader StreamException Value)
    (showValue : Value → Text) (key : Key) (default : Value) : Verifier Value := do
  match ← getOptional key with
  | none =>
    putText key (String.ofList (showValue default))
    return default
  | some text => parse reader key text

/-- `OptionalParameter<std::string>`, which has nothing to parse. -/
def optionalText (key : Key) (default : String) : Verifier String := do
  match ← getOptional key with
  | none =>
    putText key default
    return default
  | some text => return text

/-- `CheckForUnknown`, for a section or for the sections themselves. -/
def checkForUnknown (tree : PropertyTree) (sectionKey : Option String)
    (validKeys : List String) : Verifier Unit :=
  match tree.children.find? fun child => !validKeys.contains child.1 with
  | none => pure ()
  | some child =>
    match sectionKey with
    | some sectionKey => die ("Unrecognized key in configuration: " ++ sectionKey ++ "." ++
        child.1)
    | none => die ("Unrecognized section in configuration: " ++ child.1)

/-- `CheckForUnknown` on a section, if the section is there. -/
def checkSection (sectionKey : String) (validKeys : List String) : Verifier Unit := do
  match (← get).childAt [sectionKey] with
  | none => pure ()
  | some child => checkForUnknown child (some sectionKey) validKeys

def validSectionKeys : List String :=
  ["Input", "Output", "Projections", "Volume", "Reconstruction", "Software"]

def validInputKeys : List String :=
  ["RawProjectionsFile", "AttenuationProjectionsFile", "FilteredProjectionsFile",
    "DarkFieldFile", "BrightFieldFile", "PostScanBrightFieldFile"]

def validOutputKeys : List String :=
  ["AttenuationProjectionsFile", "FilteredProjectionsFile", "VolumeFile",
    "AttenuationCorrectionsFile"]

def validProjectionsKeys : List String :=
  ["DataType", "Dimensions", "NumberOfProjections", "ProjectionAt180", "PixelSize",
    "CenterPixelU", "OffsetV", "ReverseRotation", "ProjectionStride"]

def validVolumeKeys : List String := ["Dimensions", "VoxelSize", "Origin"]

def validReconstructionKeys : List String :=
  ["BadPixelCorrection", "FlatFieldBadThreshold", "DarkFieldBadThreshold",
    "BeamPowerCorrection", "BeamPowerIndependentVariable", "BeamPowerDecayConstantTerm",
    "BeamPowerDecayLinearTerm", "ProjectionBackgroundEdgeWidth", "PixelInterpolation",
    "CalculateCenterOfRotation", "SmoothingFilter", "SmoothingFilterRadius",
    "SmoothingFilterFrequencies", "ScalingFactor"]

def validSoftwareKeys : List String :=
  ["Engine", "Threads", "MaximumVolumeMemory", "FilteringModule"]

/-! ## The arithmetic of the defaults -/

/-- What the verification uses of `double`. -/
structure DoubleArithmetic where
  Value : Type
  ofDecimal : ℚ → Value
  ofInteger : ℤ → Value
  negate : Value → Value
  add : Value → Value → Value
  multiply : Value → Value → Value
  divide : Value → Value → Value
  equal : Value → Value → Bool
  /-- The conversion to `int64_t`. -/
  toInteger : Value → ℤ
  /-- How the property tree writes a value. -/
  write : Value → Text

namespace DoubleArithmetic

variable (arithmetic : DoubleArithmetic)

/-- The conversion of a text to a `double`. -/
def read : Conversion arithmetic.Value := double.map arithmetic.ofDecimal

def one : arithmetic.Value := arithmetic.ofInteger 1

def two : arithmetic.Value := arithmetic.ofInteger 2

def half : arithmetic.Value := arithmetic.divide arithmetic.one arithmetic.two

/-- The default of the centre pixel. -/
def defaultCenterPixelU (projDims : Tuple2 ℤ) : arithmetic.Value :=
  arithmetic.divide (arithmetic.ofInteger (projDims.u - 1)) arithmetic.two

def defaultOffsetV (projDims : Tuple2 ℤ) (pixelSize : Tuple2 arithmetic.Value) :
    arithmetic.Value :=
  arithmetic.divide (arithmetic.multiply (arithmetic.negate pixelSize.v)
    (arithmetic.ofInteger (projDims.v - 1))) arithmetic.two

/-- As many voxels as cover the pixels along an axis. -/
def voxels (pixels : ℤ) (pixelSize spacing : arithmetic.Value) : ℤ :=
  arithmetic.toInteger (arithmetic.add (arithmetic.divide
    (arithmetic.multiply (arithmetic.ofInteger pixels) pixelSize) spacing) arithmetic.half)

def defaultVolDims (projDims : Tuple2 ℤ) (pixelSize : Tuple2 arithmetic.Value)
    (spacing : Tuple3 arithmetic.Value) : Tuple3 ℤ where
  z := arithmetic.voxels projDims.v pixelSize.v spacing.z
  y := arithmetic.voxels projDims.u pixelSize.u spacing.y
  x := arithmetic.voxels projDims.u pixelSize.u spacing.x

/-- The origin that puts the middle of an axis at zero. -/
def centred (voxels : ℤ) (spacing : arithmetic.Value) : arithmetic.Value :=
  arithmetic.multiply (arithmetic.multiply (arithmetic.negate arithmetic.half)
    (arithmetic.ofInteger (voxels - 1))) spacing

def defaultVolOrigin (volDims : Tuple3 ℤ) (spacing : Tuple3 arithmetic.Value) :
    Tuple3 arithmetic.Value where
  z := arithmetic.centred volDims.z spacing.z
  y := arithmetic.centred volDims.y spacing.y
  x := arithmetic.centred volDims.x spacing.x

/-- A triple as it is written, in the order (x,y,z). -/
def showTriple (triple : Tuple3 arithmetic.Value) : Text :=
  showTuple arithmetic.write [triple.x, triple.y, triple.z]

end DoubleArithmetic

/-! ## `VerifyConfiguration` -/

/-- The input section. -/
def verifyInput : Verifier Unit := do
  let raw ← present ⟨"Input", "RawProjectionsFile"⟩
  let attenuation ← present ⟨"Input", "AttenuationProjectionsFile"⟩
  let filtered ← present ⟨"Input", "FilteredProjectionsFile"⟩
  dieIf (raw.toNat + attenuation.toNat + filtered.toNat ≠ 1)
    ("Require exactly one of Input.RawProjectionsFile," ++
      " Input.AttenuationProjectionsFile and Input.FilteredProjectionsFile")
  checkSection "Input" validInputKeys

/-- Two files that cannot both be specified. -/
def notBoth (input output : Key) : Verifier Unit := do
  let both := (← present input) && (← present output)
  dieIf both ("Cannot specify both " ++ input.dotted ++ " and  " ++ output.dotted)

/-- The output section. -/
def verifyOutput : Verifier Unit := do
  notBoth ⟨"Input", "AttenuationProjectionsFile"⟩ ⟨"Output", "AttenuationProjectionsFile"⟩
  notBoth ⟨"Input", "FilteredProjectionsFile"⟩ ⟨"Output", "FilteredProjectionsFile"⟩
  notBoth ⟨"Input", "FilteredProjectionsFile"⟩ ⟨"Output", "AttenuationProjectionsFile"⟩
  checkSection "Output" validOutputKeys

variable (arithmetic : DoubleArithmetic)

/-- The projections section. It gives the dimensions and the pixel size, which later
defaults are calculated from. -/
def verifyProjections : Verifier (Tuple2 ℤ × Tuple2 arithmetic.Value) := do
  let projDims ← requireParameter (reversedPair (integerOfBits 64)) ⟨"Projections", "Dimensions"⟩
  let _ ← requireParameter (readNumber (integerOfBits 32)) ⟨"Projections", "NumberOfProjections"⟩
  let _ ← requireParameter readDataType ⟨"Projections", "DataType"⟩
  let pixelSize ← requireParameter (reversedPair arithmetic.read) ⟨"Projections", "PixelSize"⟩
  let _ ← optionalParameter (readNumber arithmetic.read) arithmetic.write
    ⟨"Projections", "CenterPixelU"⟩ (arithmetic.defaultCenterPixelU projDims)
  let _ ← optionalParameter (readNumber arithmetic.read) arithmetic.write
    ⟨"Projections", "OffsetV"⟩ (arithmetic.defaultOffsetV projDims pixelSize)
  let reverseRotation ← optionalText ⟨"Projections", "ReverseRotation"⟩ "False"
  dieIf (reverseRotation ≠ "True" ∧ reverseRotation ≠ "False")
    "Unrecognized value for Reconstruction.ReverseRotation"
  let _ ← optionalText ⟨"Projections", "ProjectionAt180"⟩ "True"
  checkSection "Projections" validProjectionsKeys
  return (projDims, pixelSize)

/-- The spacing of the volume: by default that of the pixels, if they are square. -/
def verifyVoxelSize (pixelSize : Tuple2 arithmetic.Value) :
    Verifier (Tuple3 arithmetic.Value) :=
  if arithmetic.equal pixelSize.v pixelSize.u then
    optionalParameter (reversedTriple arithmetic.read) arithmetic.showTriple ⟨"Volume", "VoxelSize"⟩
      ⟨pixelSize.v, pixelSize.v, pixelSize.v⟩
  else requireParameter (reversedTriple arithmetic.read) ⟨"Volume", "VoxelSize"⟩

/-- The geometry of the volume, which is for the output of a volume. -/
def verifyVolumeGeometry (projDims : Tuple2 ℤ) (pixelSize : Tuple2 arithmetic.Value) :
    Verifier Unit := do
  if ← present ⟨"Output", "VolumeFile"⟩ then
    let spacing ← verifyVoxelSize arithmetic pixelSize
    let volDims ← optionalParameter (reversedTriple (integerOfBits 64))
      (fun dims => showTuple showInteger [dims.x, dims.y, dims.z]) ⟨"Volume", "Dimensions"⟩
      (arithmetic.defaultVolDims projDims pixelSize spacing)
    let _ ← optionalParameter (reversedTriple arithmetic.read) arithmetic.showTriple
      ⟨"Volume", "Origin"⟩ (arithmetic.defaultVolOrigin volDims spacing)

/-- The volume section. -/
def verifyVolume (projDims : Tuple2 ℤ) (pixelSize : Tuple2 arithmetic.Value) :
    Verifier Unit := do
  verifyVolumeGeometry arithmetic projDims pixelSize
  checkSection "Volume" validVolumeKeys

/-- The options that a parameter can have. -/
def dieUnlessIn (options : List String) (option : String) (message : String) : Verifier Unit :=
  dieIf (option ∉ options) message

def badPixelCorrections : List String := ["Averaging", "None"]

/-- The correction of bad pixels. -/
def verifyBadPixelCorrection : Verifier Unit := do
  let option ← optionalText ⟨"Reconstruction", "BadPixelCorrection"⟩ "Averaging"
  dieUnlessIn badPixelCorrections option
    "Unrecognized value for Reconstruction.BadPixelCorrection"
  if option ≠ "None" then
    let _ ← optionalParameter (readNumber (integerOfBits 32)) showInteger
      ⟨"Reconstruction", "FlatFieldBadThreshold"⟩ 10

def beamPowerCorrections : List String :=
  ["ConstantTotalAttenuation", "Manual", "BeforeAndAfterBrightField", "NullProjectionEdge",
    "None"]

/-- The method of the beam power correction. One method has an old name, which is
replaced. -/
def verifyBeamPowerOption : Verifier String := do
  let option ← optionalText ⟨"Reconstruction", "BeamPowerCorrection"⟩ "None"
  if option = "ZeroProjectionEdgeAttenuation" then
    putText ⟨"Reconstruction", "BeamPowerCorrection"⟩ "NullProjectionEdge"
    return "NullProjectionEdge"
  else
    dieUnlessIn beamPowerCorrections option
      "Unrecognized value for Reconstruction.BeamPowerCorrection"
    return option

/-- The constant term of the beam power decay. -/
def verifyConstantTerm : Verifier Unit := do
  let _ ← optionalParameter (readNumber arithmetic.read) arithmetic.write
    ⟨"Reconstruction", "BeamPowerDecayConstantTerm"⟩ (arithmetic.ofInteger 0)

/-- The linear term of the beam power decay: `get_optional<double>` must give a value. -/
def verifyLinearTerm : Verifier Unit := do
  let message := "Reconstruction.BeamPowerCorrection=Manual requires that a value be set " ++
    "for Reconstruction.BeamPowerDecayLinearTerm"
  match ← getOptional ⟨"Reconstruction", "BeamPowerDecayLinearTerm"⟩ with
  | none => die message
  | some text =>
    match valueOfText (readNumber arithmetic.read) text.toList with
    | .error thrown => throw (.threw thrown)
    | .ok value => dieIf value.isNone message

/-- The parameters of the beam power correction. -/
def verifyBeamPowerTerms (option : String) : Verifier Unit :=
  if option = "Manual" then do
    verifyConstantTerm arithmetic
    verifyLinearTerm arithmetic
  else if option = "BeforeAndAfterBrightField" then do
    verifyConstantTerm arithmetic
    let postScan ← present ⟨"Input", "PostScanBrightFieldFile"⟩
    dieIf (!postScan) ("Reconstruction.BeamPowerCorrection=BeforeAndAfterBrightField " ++
      "requires that a value be set for Input.PostScanBrightFieldFile")
  else if option = "NullProjectionEdge" then do
    let _ ← optionalParameter (readNumber (integerOfBits 32)) showInteger
      ⟨"Reconstruction", "ProjectionBackgroundEdgeWidth"⟩ 10
    let constantTerm ← present ⟨"Reconstruction", "BeamPowerDecayConstantTerm"⟩
    dieIf constantTerm ("Reconstruction.BeamPowerDecayConstantTerm cannot be specified " ++
      "with Reconstruction.BeamPowerCorrection=NullProjectionEdge")
  else if option = "ConstantTotalAttenuation" then verifyConstantTerm arithmetic
  else pure ()

def pixelInterpolations : List String :=
  ["Bilinear", "NearestNeighbor", "BilinearWithFallback"]

def smoothingFilters : List String := ["None", "Gaussian", "TaperedCosineWindow"]

/-- The parameters of a smoothing filter. -/
def verifySmoothingFilter : Verifier Unit := do
  let option ← optionalText ⟨"Reconstruction", "SmoothingFilter"⟩ "Gaussian"
  dieUnlessIn smoothingFilters option "Invalid value for Reconstruction.SmoothingFilter"
  if option = "Gaussian" then
    let _ ← optionalParameter (readNumber arithmetic.read) arithmetic.write
      ⟨"Reconstruction", "SmoothingFilterRadius"⟩ arithmetic.half
    let frequencies ← present ⟨"Reconstruction", "SmoothingFilterFrequencies"⟩
    dieIf frequencies ("Reconstruction.SmoothingFilterFrequencies cannot be used with " ++
      "Gaussian.  Use Reconstruction.SmoothingFilterRadius instead.")
  else if option = "TaperedCosineWindow" then
    let _ ← requireParameter (readTuple 2 arithmetic.read)
      ⟨"Reconstruction", "SmoothingFilterFrequencies"⟩
    let radius ← present ⟨"Reconstruction", "SmoothingFilterRadius"⟩
    dieIf radius ("Reconstruction.SmoothingFilterRadius cannot be used with " ++
      "TaperedCosineWindow.  Use Reconstruction.SmoothingFilterFrequencies instead.")

/-- The part of the reconstruction section that is for raw projections. -/
def verifyRawProjections : Verifier Unit := do
  if ← present ⟨"Input", "RawProjectionsFile"⟩ then
    verifyBadPixelCorrection
    let option ← verifyBeamPowerOption
    verifyBeamPowerTerms arithmetic option

/-- The interpolation, which is for the output of a volume. -/
def verifyPixelInterpolation : Verifier Unit := do
  if ← present ⟨"Output", "VolumeFile"⟩ then
    let option ← optionalText ⟨"Reconstruction", "PixelInterpolation"⟩ "BilinearWithFallback"
    dieUnlessIn pixelInterpolations option
      "Invalid value for Reconstruction.PixelInterpolation"

/-- The reconstruction section. -/
def verifyReconstruction : Verifier Unit := do
  verifyRawProjections arithmetic
  verifyPixelInterpolation
  verifySmoothingFilter arithmetic
  checkSection "Reconstruction" validReconstructionKeys

/-- The number of threads, which the multi-threaded engine asks for. -/
def verifyThreads : Verifier Unit := do
  let threadsString ← optionalText ⟨"Software", "Threads"⟩ "Automatic"
  if threadsString ≠ "Automatic" then
    let threads ← requireParameter (readNumber (integerOfBits 32)) ⟨"Software", "Threads"⟩
    dieIf (threads < 1) "Software.Threads must be a number greate than 0."

def engines : List String := ["SingleThreaded", "MultiThreaded"]

def filteringModules : List String := ["vDSP", "RealSpaceConvolution", "FFTW"]

/-- The filtering module that is the default of a build. -/
def defaultFilteringModule (build : Build) : String :=
  if build.useVDSP then "vDSP" else if build.useFFTW then "FFTW" else "RealSpaceConvolution"

/-- The filtering module, for projections that are to be filtered. -/
def verifyFilteringModule (build : Build) : Verifier Unit := do
  if !(← present ⟨"Input", "FilteredProjectionsFile"⟩) then
    let option ← optionalText ⟨"Software", "FilteringModule"⟩ (defaultFilteringModule build)
    dieUnlessIn filteringModules option "Invalid value for Software.FilteringModule"
    dieIf (!build.useVDSP ∧ option = "vDSP") ("vDSP library use requested, but " ++
      "Athabasca Recon has not been compiled with support for that library.")
    dieIf (!build.useFFTW ∧ option = "FFTW") ("FFTW library use requested, but " ++
      "Athabasca Recon has not been compiled with support for that library.")

/-- The memory of the volume, which is not parsed here. -/
def verifyMaximumVolumeMemory : Verifier Unit := do
  if ← present ⟨"Output", "VolumeFile"⟩ then
    let _ ← optionalText ⟨"Software", "MaximumVolumeMemory"⟩ "Automatic"

/-- The engine. -/
def verifyEngine : Verifier Unit := do
  let engine ← optionalText ⟨"Software", "Engine"⟩ "MultiThreaded"
  dieUnlessIn engines engine "Unrecognized value for Software.Engine"
  if engine = "MultiThreaded" then
    verifyThreads

/-- The software section. -/
def verifySoftware (build : Build) : Verifier Unit := do
  verifyEngine
  verifyMaximumVolumeMemory
  verifyFilteringModule build
  checkSection "Software" validSoftwareKeys

/-- `VerifyConfiguration`. -/
def verify (build : Build) : Verifier Unit := do
  verifyInput
  verifyOutput
  let (projDims, pixelSize) ← verifyProjections arithmetic
  verifyVolume arithmetic projDims pixelSize
  verifyReconstruction arithmetic
  verifySoftware build
  checkForUnknown (← get) none validSectionKeys

/-- The configuration that `VerifyConfiguration` leaves, when it accepts the one it is
given. -/
def verifyConfiguration (build : Build) (tree : PropertyTree) :
    Except VerificationFailure PropertyTree :=
  match verify arithmetic build tree with
  | .error failure => .error failure
  | .ok (_, verified) => .ok verified

end AthabascaRecon
