import Mathlib.Data.List.Range
import Mathlib.Data.Nat.Notation

/-!
# What both reconstruction runners share

`ReconstructionLauncher` gives a runner its readers, correctors and writers as
pointers, and a null pointer leaves the corresponding stage out. The runner only
asks whether a pointer is null, so a configuration records for each whether the
object is there (`RunnerConfig`).

The stages themselves are the same objects in the single-threaded and in the
multi-threaded runner. They are pure functions of what they read (`Stages`); the
readers are given by the images they deliver one after another.
-/

set_option autoImplicit false

namespace AthabascaRecon

inductive FilteringModule where
  | convolution
  | fftw
  | vDSP
  deriving DecidableEq, Repr

/-- The libraries the program was compiled with: `USE_VDSP` and `USE_FFTW`. -/
structure Build where
  useVDSP : Bool
  useFFTW : Bool
  deriving DecidableEq, Repr

def Build.supports (build : Build) : FilteringModule → Bool
  | .convolution => true
  | .vDSP => build.useVDSP
  | .fftw => build.useFFTW

/-- The members of `ReconstructionRunner` that its `Execute` branches on. -/
structure RunnerConfig where
  build : Build
  rawProjectionsReader : Bool
  attenuationProjectionsReader : Bool
  filteredProjectionsReader : Bool
  badPixelCorrector : Bool
  beamPowerCorrector : Bool
  attenuationCorrectionsFile : Bool
  attenuationProjectionsWriter : Bool
  filteredProjectionsWriter : Bool
  volumeWriter : Bool
  projectionsAtBothLimits : Bool
  reverseRotation : Bool
  filteringModule : FilteringModule
  numberOfProjections : ℕ
  volumeSlices : ℕ
  deriving DecidableEq, Repr

namespace RunnerConfig

/-- Filtered projections are computed rather than read. -/
def filters (config : RunnerConfig) : Bool :=
  !config.filteredProjectionsReader && (config.filteredProjectionsWriter || config.volumeWriter)

/-- The projection at 180 degrees is left out of the back-projection. -/
def skipsBackProjection (config : RunnerConfig) (p : ℕ) : Bool :=
  config.projectionsAtBothLimits && p + 1 == config.numberOfProjections

/-- The configurations a runner is started with. The conditions on readers and
writers and on the filtering module are those of `VerifyConfiguration`; that a
corrections file comes with a beam power corrector for raw projections is how
`Launch` creates it. -/
structure Accepted (config : RunnerConfig) : Prop where
  oneReader : config.rawProjectionsReader.toNat + config.attenuationProjectionsReader.toNat +
    config.filteredProjectionsReader.toNat = 1
  attenuationOnce :
    (config.attenuationProjectionsReader && config.attenuationProjectionsWriter) = false
  filteredOnce : (config.filteredProjectionsReader && config.filteredProjectionsWriter) = false
  filteredLast : (config.filteredProjectionsReader && config.attenuationProjectionsWriter) = false
  moduleCompiled : config.filteredProjectionsReader = false →
    config.build.supports config.filteringModule = true
  corrections : config.attenuationCorrectionsFile = true →
    config.rawProjectionsReader = true ∧ config.beamPowerCorrector = true

/-- The three places where the calculation can start. -/
theorem Accepted.readers {config : RunnerConfig} (accepted : config.Accepted) :
    (config.rawProjectionsReader = true ∧ config.attenuationProjectionsReader = false ∧
        config.filteredProjectionsReader = false) ∨
      (config.rawProjectionsReader = false ∧ config.attenuationProjectionsReader = true ∧
        config.filteredProjectionsReader = false) ∨
      (config.rawProjectionsReader = false ∧ config.attenuationProjectionsReader = false ∧
        config.filteredProjectionsReader = true) := by
  have oneReader := accepted.oneReader
  cases raw : config.rawProjectionsReader <;>
    cases attenuation : config.attenuationProjectionsReader <;>
      cases filtered : config.filteredProjectionsReader <;>
        simp [raw, attenuation, filtered] at oneReader ⊢

/-- Attenuation projections are written only where they are calculated. -/
theorem Accepted.noAttenuationWriter {config : RunnerConfig} (accepted : config.Accepted)
    (notRaw : config.rawProjectionsReader = false) :
    config.attenuationProjectionsWriter = false := by
  rcases accepted.readers with ⟨raw, -⟩ | ⟨-, attenuation, -⟩ | ⟨-, -, filtered⟩
  · rw [raw] at notRaw
    cases notRaw
  · simpa [attenuation] using accepted.attenuationOnce
  · simpa [filtered] using accepted.filteredLast

theorem Accepted.noCorrectionsFile {config : RunnerConfig} (accepted : config.Accepted)
    (notRaw : config.rawProjectionsReader = false) :
    config.attenuationCorrectionsFile = false := by
  simpa [notRaw] using fun present => (accepted.corrections present).1

end RunnerConfig

/-! ## The launcher -/

/-- The parameters of a configuration file that decide which readers, correctors
and writers `Launch` creates. -/
structure LaunchOptions where
  build : Build
  inputRawProjectionsFile : Bool
  inputAttenuationProjectionsFile : Bool
  inputFilteredProjectionsFile : Bool
  outputAttenuationProjectionsFile : Bool
  outputFilteredProjectionsFile : Bool
  outputAttenuationCorrectionsFile : Bool
  outputVolumeFile : Bool
  badPixelCorrection : Bool
  beamPowerCorrection : Bool
  projectionAt180 : Bool
  reverseRotation : Bool
  filteringModule : FilteringModule
  /-- `Projections.NumberOfProjections`: all projections in the input file. -/
  numberOfProjections : ℕ
  projectionStride : ℕ
  volumeSlices : ℕ

namespace LaunchOptions

/-- The conditions of `VerifyConfiguration` on these parameters. -/
def verifyConfiguration (options : LaunchOptions) : Bool :=
  (options.inputRawProjectionsFile.toNat + options.inputAttenuationProjectionsFile.toNat +
      options.inputFilteredProjectionsFile.toNat == 1) &&
    !(options.inputAttenuationProjectionsFile && options.outputAttenuationProjectionsFile) &&
    !(options.inputFilteredProjectionsFile && options.outputFilteredProjectionsFile) &&
    !(options.inputFilteredProjectionsFile && options.outputAttenuationProjectionsFile) &&
    (options.inputFilteredProjectionsFile || options.build.supports options.filteringModule)

/-- The runner `Launch` executes on a pass over the volume. Only the first pass
writes processed projections. The readers, which tell the runner how many projections
there are, were given the number of those that the stride leaves. -/
def runnerConfig (options : LaunchOptions) (pass : ℕ) : RunnerConfig where
  build := options.build
  rawProjectionsReader := options.inputRawProjectionsFile
  attenuationProjectionsReader := options.inputAttenuationProjectionsFile
  filteredProjectionsReader := options.inputFilteredProjectionsFile
  badPixelCorrector := options.inputRawProjectionsFile && options.badPixelCorrection
  beamPowerCorrector := options.inputRawProjectionsFile && options.beamPowerCorrection
  attenuationCorrectionsFile := pass == 0 && options.inputRawProjectionsFile &&
    options.beamPowerCorrection && options.outputAttenuationCorrectionsFile
  attenuationProjectionsWriter := pass == 0 && options.outputAttenuationProjectionsFile
  filteredProjectionsWriter := pass == 0 && options.outputFilteredProjectionsFile
  volumeWriter := options.outputVolumeFile
  projectionsAtBothLimits := options.projectionAt180
  reverseRotation := options.reverseRotation
  filteringModule := options.filteringModule
  numberOfProjections := (options.numberOfProjections + options.projectionStride - 1) /
    options.projectionStride
  volumeSlices := options.volumeSlices

/-- Every pass of a verified configuration executes an accepted runner. -/
theorem runnerConfig_accepted {options : LaunchOptions}
    (verified : options.verifyConfiguration = true) (pass : ℕ) :
    (options.runnerConfig pass).Accepted := by
  simp only [verifyConfiguration, Bool.and_eq_true, Bool.not_eq_true', beq_iff_eq,
    Bool.or_eq_true, Bool.and_eq_false_iff] at verified
  obtain ⟨⟨⟨⟨oneReader, attenuationOnce⟩, filteredOnce⟩, filteredLast⟩, compiled⟩ := verified
  refine ⟨oneReader, ?_, ?_, ?_, fun absent => ?_, fun present => ?_⟩
  · rcases attenuationOnce with none | none <;> simp [runnerConfig, none]
  · rcases filteredOnce with none | none <;> simp [runnerConfig, none]
  · rcases filteredLast with none | none <;> simp [runnerConfig, none]
  · exact compiled.resolve_left (by simpa [runnerConfig] using absent)
  · simp only [runnerConfig, Bool.and_eq_true] at present ⊢
    exact ⟨present.1.1.2, present.1.1.2, present.1.2⟩

end LaunchOptions

/-! ## The stages -/

/-- The stages of the calculation, with the images the readers deliver. -/
structure Stages where
  /-- `TProjectionIn`. -/
  RawProjection : Type
  /-- `TProjectionOut`, for attenuation and for filtered projections. -/
  Projection : Type
  /-- What `SetReferenceProjection` keeps in the beam power corrector. -/
  Reference : Type
  /-- Beam power corrections. They are computed in `TProjectionOutValue`, so the
  arrays of both runners hold the same values. -/
  Correction : Type
  /-- `TSpace`, for angles. -/
  Space : Type
  readRaw : ℕ → RawProjection
  readAttenuation : ℕ → Projection
  readFiltered : ℕ → Projection
  processProjection : RawProjection → Projection
  correctBadPixels : Projection → Projection
  setReferenceProjection : Reference → Projection → Reference
  correctBeamPower : Reference → ℕ → Projection → Projection × Correction
  filterProjection : Projection → Projection
  deltaTheta : Space
  scaleAngle : ℕ → Space → Space

/-- The angle of a projection: `p*deltaTheta`. -/
def Stages.angle (stages : Stages) (p : ℕ) : stages.Space :=
  stages.scaleAngle p stages.deltaTheta

/-- A back projector, seen as the projections applied to its volume and their
angles. There is no volume when it was allocated with zero slices. -/
structure BackProjector (Projection Space : Type) where
  volume : Option (List (Projection × Space)) := none

namespace BackProjector

variable {Projection Space : Type}

/-- `AllocateVolume` asserts that there is no volume yet. -/
def canAllocateVolume (backProjector : BackProjector Projection Space) : Bool :=
  backProjector.volume.isNone

/-- `AllocateVolume`. Zero slices are allowed, and leave the volume out. -/
def allocateVolume (slices : ℕ) (backProjector : BackProjector Projection Space) :
    BackProjector Projection Space :=
  if slices = 0 then backProjector
  else { volume := some (backProjector.volume.getD []) }

/-- `ApplyProjection` returns at once when there is no volume. -/
def applyProjection (proj : Projection) (angle : Space)
    (backProjector : BackProjector Projection Space) : BackProjector Projection Space :=
  { volume := backProjector.volume.map (· ++ [(proj, angle)]) }

/-- `WriteVolumeData`: the stack handed to the writer, unless there is no volume. -/
def writeVolumeData (backProjector : BackProjector Projection Space) :
    List (List (Projection × Space)) :=
  backProjector.volume.toList

/-- What was applied to the volume. -/
def applied (backProjector : BackProjector Projection Space) : List (Projection × Space) :=
  backProjector.volume.getD []

end BackProjector

/-! ## What a run is to calculate -/

/-- What one projection becomes, and the files it goes to. These definitions do
not say in which order and by which thread the stages are executed. -/
structure Calculation (stages : Stages) where
  config : RunnerConfig
  /-- What the beam power corrector keeps before the run. -/
  initialReference : stages.Reference

namespace Calculation

variable {stages : Stages} (calculation : Calculation stages)

/-- The attenuation of a raw projection before the beam power is corrected. -/
def uncorrected (p : ℕ) : stages.Projection :=
  let attenuation := stages.processProjection (stages.readRaw p)
  if calculation.config.badPixelCorrector then stages.correctBadPixels attenuation
  else attenuation

/-- The beam power corrector refers to the first projection. -/
def reference : stages.Reference :=
  stages.setReferenceProjection calculation.initialReference (calculation.uncorrected 0)

def correction (p : ℕ) : stages.Correction :=
  (stages.correctBeamPower calculation.reference p (calculation.uncorrected p)).2

def attenuation (p : ℕ) : stages.Projection :=
  if calculation.config.rawProjectionsReader then
    if calculation.config.beamPowerCorrector then
      (stages.correctBeamPower calculation.reference p (calculation.uncorrected p)).1
    else calculation.uncorrected p
  else stages.readAttenuation p

def filtered (p : ℕ) : stages.Projection :=
  if calculation.config.filteredProjectionsReader then stages.readFiltered p
  else stages.filterProjection (calculation.attenuation p)

/-- The values the corrections file receives for the first projections. -/
def correctionsFile (count : ℕ) : List stages.Correction :=
  if calculation.config.attenuationCorrectionsFile then
    (List.range count).map calculation.correction
  else []

/-- The slices the attenuation writer receives for the first projections. -/
def attenuationSlices (count : ℕ) : List stages.Projection :=
  if calculation.config.attenuationProjectionsWriter then
    (List.range count).map calculation.attenuation
  else []

/-- The slices the filtered projections writer receives for the first projections. -/
def filteredSlices (count : ℕ) : List stages.Projection :=
  if calculation.config.filteredProjectionsWriter then
    (List.range count).map calculation.filtered
  else []

/-- The projections applied to the volume among the first ones. -/
def applied (count : ℕ) : List (stages.Projection × stages.Space) :=
  if calculation.config.volumeWriter then
    ((List.range count).filter fun p => !calculation.config.skipsBackProjection p).map
      fun p => (calculation.filtered p, stages.angle p)
  else []

@[simp] theorem correctionsFile_zero : calculation.correctionsFile 0 = [] := by
  simp [correctionsFile]

@[simp] theorem attenuationSlices_zero : calculation.attenuationSlices 0 = [] := by
  simp [attenuationSlices]

@[simp] theorem filteredSlices_zero : calculation.filteredSlices 0 = [] := by
  simp [filteredSlices]

@[simp] theorem applied_zero : calculation.applied 0 = [] := by
  simp [applied]

/-! ### One more projection, or a group of them -/

theorem correctionsFile_succ (count : ℕ) :
    calculation.correctionsFile (count + 1) =
      if calculation.config.attenuationCorrectionsFile then
        calculation.correctionsFile count ++ [calculation.correction count]
      else calculation.correctionsFile count := by
  by_cases present : calculation.config.attenuationCorrectionsFile = true <;>
    simp [correctionsFile, present, List.range_succ]

theorem attenuationSlices_succ (count : ℕ) :
    calculation.attenuationSlices (count + 1) =
      if calculation.config.attenuationProjectionsWriter then
        calculation.attenuationSlices count ++ [calculation.attenuation count]
      else calculation.attenuationSlices count := by
  by_cases present : calculation.config.attenuationProjectionsWriter = true <;>
    simp [attenuationSlices, present, List.range_succ]

theorem filteredSlices_succ (count : ℕ) :
    calculation.filteredSlices (count + 1) =
      if calculation.config.filteredProjectionsWriter then
        calculation.filteredSlices count ++ [calculation.filtered count]
      else calculation.filteredSlices count := by
  by_cases present : calculation.config.filteredProjectionsWriter = true <;>
    simp [filteredSlices, present, List.range_succ]

theorem applied_succ (count : ℕ) :
    calculation.applied (count + 1) =
      if calculation.config.volumeWriter && !calculation.config.skipsBackProjection count then
        calculation.applied count ++ [(calculation.filtered count, stages.angle count)]
      else calculation.applied count := by
  by_cases present : calculation.config.volumeWriter = true <;>
    by_cases skipped : calculation.config.skipsBackProjection count = true <;>
      simp [applied, present, skipped, List.range_succ]

theorem correctionsFile_add (count group : ℕ) :
    calculation.correctionsFile (count + group) =
      if calculation.config.attenuationCorrectionsFile then
        calculation.correctionsFile count ++
          (List.range group).map fun pp => calculation.correction (count + pp)
      else calculation.correctionsFile count := by
  by_cases present : calculation.config.attenuationCorrectionsFile = true <;>
    simp [correctionsFile, present, List.range_add]

theorem attenuationSlices_add (count group : ℕ) :
    calculation.attenuationSlices (count + group) =
      if calculation.config.attenuationProjectionsWriter then
        calculation.attenuationSlices count ++
          (List.range group).map fun pp => calculation.attenuation (count + pp)
      else calculation.attenuationSlices count := by
  by_cases present : calculation.config.attenuationProjectionsWriter = true <;>
    simp [attenuationSlices, present, List.range_add]

theorem filteredSlices_add (count group : ℕ) :
    calculation.filteredSlices (count + group) =
      if calculation.config.filteredProjectionsWriter then
        calculation.filteredSlices count ++
          (List.range group).map fun pp => calculation.filtered (count + pp)
      else calculation.filteredSlices count := by
  by_cases present : calculation.config.filteredProjectionsWriter = true <;>
    simp [filteredSlices, present, List.range_add]

end Calculation

end AthabascaRecon
