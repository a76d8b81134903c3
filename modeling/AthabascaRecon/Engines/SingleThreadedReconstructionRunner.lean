import AthabascaRecon.Engines.ReconstructionRunner

/-!
# The single-threaded runner

`SingleThreadedReconstructionRunner::Execute` takes one projection after another
through all the stages. The loop body is translated stage by stage. The loop
calculates what `Calculation` says (`execute_eq`), which is what the
multi-threaded runner is compared with.
-/

set_option autoImplicit false

namespace AthabascaRecon.SingleThreaded

/-- The local variables of `Execute` with the files it writes. -/
structure State (stages : Stages) where
  readCount : ℕ
  rawProjection : stages.RawProjection
  attenuationProjection : stages.Projection
  filteredProjection : stages.Projection
  reference : stages.Reference
  corrections : ℕ → stages.Correction
  backProjector : BackProjector stages.Projection stages.Space
  attenuationCorrectionsFile : List stages.Correction
  attenuationProjectionsWriter : List stages.Projection
  filteredProjectionsWriter : List stages.Projection
  volumeWriter : List (List (stages.Projection × stages.Space))

/-- The images and arrays when `Execute` begins. They may hold anything. -/
structure Contents (stages : Stages) where
  rawProjection : stages.RawProjection
  attenuationProjection : stages.Projection
  filteredProjection : stages.Projection
  reference : stages.Reference
  corrections : ℕ → stages.Correction

variable {stages : Stages}

/-- The state in front of the loop. -/
def prepare (config : RunnerConfig) (contents : Contents stages) : State stages where
  readCount := 0
  rawProjection := contents.rawProjection
  attenuationProjection := contents.attenuationProjection
  filteredProjection := contents.filteredProjection
  reference := contents.reference
  corrections := contents.corrections
  backProjector :=
    if config.volumeWriter then ({} : BackProjector _ _).allocateVolume config.volumeSlices else {}
  attenuationCorrectionsFile := []
  attenuationProjectionsWriter := []
  filteredProjectionsWriter := []
  volumeWriter := []

section LoopBody

variable (config : RunnerConfig)

/-- Read a raw projection and convert it to attenuation. -/
def convertToAttenuation (state : State stages) : State stages :=
  let raw := stages.readRaw state.readCount
  let attenuation := stages.processProjection raw
  { state with
    readCount := state.readCount + 1
    rawProjection := raw
    attenuationProjection :=
      if config.badPixelCorrector then stages.correctBadPixels attenuation else attenuation }

/-- Beam power correction of a projection, with the line for the corrections file. -/
def correctBeamPower (p : ℕ) (state : State stages) : State stages :=
  if config.beamPowerCorrector then
    let reference :=
      if p = 0 then stages.setReferenceProjection state.reference state.attenuationProjection
      else state.reference
    let corrected := stages.correctBeamPower reference p state.attenuationProjection
    { state with
      reference := reference
      attenuationProjection := corrected.1
      corrections := Function.update state.corrections p corrected.2
      attenuationCorrectionsFile :=
        if config.attenuationCorrectionsFile then state.attenuationCorrectionsFile ++ [corrected.2]
        else state.attenuationCorrectionsFile }
  else state

def writeAttenuation (state : State stages) : State stages :=
  if config.attenuationProjectionsWriter then
    { state with attenuationProjectionsWriter :=
        state.attenuationProjectionsWriter ++ [state.attenuationProjection] }
  else state

/-- The branch for raw projections. -/
def processRaw (p : ℕ) (state : State stages) : State stages :=
  writeAttenuation config (correctBeamPower config p (convertToAttenuation config state))

/-- The branch for attenuation projections. -/
def readAttenuation (state : State stages) : State stages :=
  { state with
    readCount := state.readCount + 1
    attenuationProjection := stages.readAttenuation state.readCount }

/-- Filtered projections are read, or else calculated and written. -/
def filterProjection (state : State stages) : State stages :=
  if config.filteredProjectionsReader then
    { state with
      readCount := state.readCount + 1
      filteredProjection := stages.readFiltered state.readCount }
  else if config.filteredProjectionsWriter || config.volumeWriter then
    let filtered := stages.filterProjection state.attenuationProjection
    { state with
      filteredProjection := filtered
      filteredProjectionsWriter :=
        if config.filteredProjectionsWriter then state.filteredProjectionsWriter ++ [filtered]
        else state.filteredProjectionsWriter }
  else state

def backProject (p : ℕ) (state : State stages) : State stages :=
  if config.volumeWriter && !config.skipsBackProjection p then
    { state with backProjector :=
        state.backProjector.applyProjection state.filteredProjection (stages.angle p) }
  else state

/-- One iteration of the loop over the projections. -/
def processProjection (state : State stages) (p : ℕ) : State stages :=
  let state := if config.rawProjectionsReader then processRaw config p state else state
  let state := if config.attenuationProjectionsReader then readAttenuation state else state
  backProject config p (filterProjection config state)

end LoopBody

/-- The state behind the loop and after the volume is written out. -/
def execute (config : RunnerConfig) (contents : Contents stages) : State stages :=
  let state :=
    (List.range config.numberOfProjections).foldl (processProjection config)
      (prepare config contents)
  if config.volumeWriter then
    { state with volumeWriter := state.volumeWriter ++ state.backProjector.writeVolumeData }
  else state

/-! ## The loop invariant -/

section Invariant

variable {config : RunnerConfig} {contents : Contents stages}

/-- The calculation of a configuration that starts with the given contents. -/
def calculation (config : RunnerConfig) (contents : Contents stages) : Calculation stages where
  config := config
  initialReference := contents.reference

@[simp] theorem calculation_config (config : RunnerConfig) (contents : Contents stages) :
    (calculation config contents).config = config := rfl

/-- The state after the first `count` projections. -/
structure Processed (config : RunnerConfig) (contents : Contents stages) (count : ℕ)
    (state : State stages) : Prop where
  readCount : state.readCount = count
  reference : config.rawProjectionsReader = true → config.beamPowerCorrector = true →
    state.reference =
      if count = 0 then contents.reference else (calculation config contents).reference
  corrections : config.rawProjectionsReader = true → config.beamPowerCorrector = true →
    ∀ p < count, state.corrections p = (calculation config contents).correction p
  correctionsFile :
    state.attenuationCorrectionsFile = (calculation config contents).correctionsFile count
  attenuationSlices :
    state.attenuationProjectionsWriter = (calculation config contents).attenuationSlices count
  filteredSlices :
    state.filteredProjectionsWriter = (calculation config contents).filteredSlices count
  volume : config.volumeWriter = true → state.backProjector.volume =
    if config.volumeSlices = 0 then none else some ((calculation config contents).applied count)
  volumeWriter : state.volumeWriter = []

theorem processed_prepare (config : RunnerConfig) (contents : Contents stages) :
    Processed config contents 0 (prepare config contents) where
  readCount := rfl
  reference _ _ := rfl
  corrections _ _ p below := absurd below (Nat.not_lt_zero p)
  correctionsFile := by simp [prepare]
  attenuationSlices := by simp [prepare]
  filteredSlices := by simp [prepare]
  volume present := by
    by_cases none : config.volumeSlices = 0 <;>
      simp [prepare, present, none, BackProjector.allocateVolume]
  volumeWriter := rfl

/-- The state within the iteration for projection `count`, when its attenuation
is known and it is not filtered yet. -/
structure Attenuated (config : RunnerConfig) (contents : Contents stages) (count : ℕ)
    (state : State stages) : Prop where
  readCount : state.readCount = if config.filteredProjectionsReader then count else count + 1
  attenuation : config.filteredProjectionsReader = false →
    state.attenuationProjection = (calculation config contents).attenuation count
  reference : config.rawProjectionsReader = true → config.beamPowerCorrector = true →
    state.reference = (calculation config contents).reference
  corrections : config.rawProjectionsReader = true → config.beamPowerCorrector = true →
    ∀ p < count + 1, state.corrections p = (calculation config contents).correction p
  correctionsFile :
    state.attenuationCorrectionsFile = (calculation config contents).correctionsFile (count + 1)
  attenuationSlices : state.attenuationProjectionsWriter =
    (calculation config contents).attenuationSlices (count + 1)
  filteredSlices :
    state.filteredProjectionsWriter = (calculation config contents).filteredSlices count
  volume : config.volumeWriter = true → state.backProjector.volume =
    if config.volumeSlices = 0 then none else some ((calculation config contents).applied count)
  volumeWriter : state.volumeWriter = []

variable {count : ℕ} {state : State stages}

/-- The reference is set by the first projection and kept for the others. -/
theorem Processed.referenceUsed (processed : Processed config contents count state)
    (raw : config.rawProjectionsReader = true) (beam : config.beamPowerCorrector = true) :
    (if count = 0 then
        stages.setReferenceProjection state.reference
          ((calculation config contents).uncorrected count)
      else state.reference) = (calculation config contents).reference := by
  have before := processed.reference raw beam
  by_cases first : count = 0
  · subst first
    rw [if_pos rfl, before, if_pos rfl]
    rfl
  · rw [if_neg first, before, if_neg first]

/-- Reading and converting a projection gives its uncorrected attenuation. -/
theorem Processed.convertToAttenuation_eq (processed : Processed config contents count state) :
    convertToAttenuation config state = { state with
      readCount := count + 1
      rawProjection := stages.readRaw count
      attenuationProjection := (calculation config contents).uncorrected count } := by
  unfold convertToAttenuation
  rw [processed.readCount]
  rfl

/-- Beam power correction completes the attenuation and the corrections file. -/
theorem Processed.correctBeamPower_eq (processed : Processed config contents count state)
    (raw : config.rawProjectionsReader = true)
    (corrected : config.attenuationCorrectionsFile = true → config.beamPowerCorrector = true) :
    correctBeamPower config count (convertToAttenuation config state) = { state with
      readCount := count + 1
      rawProjection := stages.readRaw count
      attenuationProjection := (calculation config contents).attenuation count
      reference :=
        if config.beamPowerCorrector then (calculation config contents).reference
        else state.reference
      corrections :=
        if config.beamPowerCorrector then
          Function.update state.corrections count ((calculation config contents).correction count)
        else state.corrections
      attenuationCorrectionsFile :=
        (calculation config contents).correctionsFile (count + 1) } := by
  have written := processed.correctionsFile
  rw [processed.convertToAttenuation_eq, Calculation.correctionsFile_succ, ← written]
  by_cases beam : config.beamPowerCorrector = true
  · have referred := processed.referenceUsed raw beam
    simp only [correctBeamPower, beam, if_true, referred]
    have attenuated : (calculation config contents).attenuation count =
        (stages.correctBeamPower (calculation config contents).reference count
          ((calculation config contents).uncorrected count)).1 := by
      simp [Calculation.attenuation, raw, beam]
    rw [attenuated]
    rfl
  · have unwritten : config.attenuationCorrectionsFile = false := by
      simpa using fun present => beam (corrected present)
    simp [correctBeamPower, Calculation.attenuation, raw, beam, unwritten]

/-- The branch for raw projections computes the attenuation of the next one. -/
theorem Processed.processRaw (processed : Processed config contents count state)
    (raw : config.rawProjectionsReader = true)
    (notFiltered : config.filteredProjectionsReader = false)
    (corrected : config.attenuationCorrectionsFile = true → config.beamPowerCorrector = true) :
    Attenuated config contents count (processRaw config count state) := by
  have slices := processed.attenuationSlices
  have frame : SingleThreaded.processRaw config count state =
      writeAttenuation config (correctBeamPower config count (convertToAttenuation config state)) :=
    rfl
  rw [processed.correctBeamPower_eq raw corrected] at frame
  have beamOnly : config.beamPowerCorrector = true →
      ∀ p < count + 1, Function.update state.corrections count
        ((calculation config contents).correction count) p =
          (calculation config contents).correction p := by
    intro beam p below
    rcases Nat.lt_succ_iff_lt_or_eq.mp below with earlier | rfl
    · rw [Function.update_of_ne earlier.ne, processed.corrections raw beam p earlier]
    · rw [Function.update_self]
  by_cases writes : config.attenuationProjectionsWriter = true
  · simp only [writeAttenuation, writes, if_true] at frame
    rw [frame]
    refine ⟨by simp [notFiltered], fun _ => rfl, fun _ beam => by simp [beam],
      fun _ beam => by simpa [beam] using beamOnly beam, rfl, ?_, processed.filteredSlices,
      processed.volume, processed.volumeWriter⟩
    rw [Calculation.attenuationSlices_succ, ← slices]
    simp [writes]
  · simp only [writeAttenuation, writes] at frame
    rw [frame]
    refine ⟨by simp [notFiltered], fun _ => rfl, fun _ beam => by simp [beam],
      fun _ beam => by simpa [beam] using beamOnly beam, rfl, ?_, processed.filteredSlices,
      processed.volume, processed.volumeWriter⟩
    rw [Calculation.attenuationSlices_succ, ← slices]
    simp [writes]

/-- The branch for attenuation projections. -/
theorem Processed.readAttenuation (processed : Processed config contents count state)
    (notRaw : config.rawProjectionsReader = false)
    (notFiltered : config.filteredProjectionsReader = false)
    (noFile : config.attenuationCorrectionsFile = false)
    (noWriter : config.attenuationProjectionsWriter = false) :
    Attenuated config contents count (readAttenuation state) where
  readCount := by simp [SingleThreaded.readAttenuation, notFiltered, processed.readCount]
  attenuation _ := by
    simp [SingleThreaded.readAttenuation, processed.readCount, Calculation.attenuation,
      notRaw]
  reference raw _ := by simp [notRaw] at raw
  corrections raw _ := by simp [notRaw] at raw
  correctionsFile := by
    rw [Calculation.correctionsFile_succ, ← processed.correctionsFile]
    simp [noFile, SingleThreaded.readAttenuation]
  attenuationSlices := by
    rw [Calculation.attenuationSlices_succ, ← processed.attenuationSlices]
    simp [noWriter, SingleThreaded.readAttenuation]
  filteredSlices := processed.filteredSlices
  volume := processed.volume
  volumeWriter := processed.volumeWriter

/-- With a filtered projections reader there is no attenuation to calculate. -/
theorem Processed.skipAttenuation (processed : Processed config contents count state)
    (notRaw : config.rawProjectionsReader = false)
    (filtered : config.filteredProjectionsReader = true)
    (noFile : config.attenuationCorrectionsFile = false)
    (noWriter : config.attenuationProjectionsWriter = false) :
    Attenuated config contents count state where
  readCount := by simp [filtered, processed.readCount]
  attenuation absent := by simp [filtered] at absent
  reference raw _ := by simp [notRaw] at raw
  corrections raw _ := by simp [notRaw] at raw
  correctionsFile := by
    rw [Calculation.correctionsFile_succ, ← processed.correctionsFile]
    simp [noFile]
  attenuationSlices := by
    rw [Calculation.attenuationSlices_succ, ← processed.attenuationSlices]
    simp [noWriter]
  filteredSlices := processed.filteredSlices
  volume := processed.volume
  volumeWriter := processed.volumeWriter

/-- Filtering completes the images of the iteration and the filtered slices. -/
theorem Attenuated.filterProjection_eq (attenuated : Attenuated config contents count state)
    (filteredOnce :
      (config.filteredProjectionsReader && config.filteredProjectionsWriter) = false) :
    filterProjection config state = { state with
      readCount := count + 1
      filteredProjection :=
        if config.filteredProjectionsReader || config.filteredProjectionsWriter ||
            config.volumeWriter then (calculation config contents).filtered count
        else state.filteredProjection
      filteredProjectionsWriter :=
        (calculation config contents).filteredSlices (count + 1) } := by
  have reader := attenuated.readCount
  rw [Calculation.filteredSlices_succ, ← attenuated.filteredSlices]
  by_cases reads : config.filteredProjectionsReader = true
  · have noWriter : config.filteredProjectionsWriter = false := by simpa [reads] using filteredOnce
    rw [reads, if_pos rfl] at reader
    simp [filterProjection, reads, reader, Calculation.filtered, noWriter]
  · have known := attenuated.attenuation (by simpa using reads)
    have filtered : (calculation config contents).filtered count =
        stages.filterProjection ((calculation config contents).attenuation count) := by
      simp [Calculation.filtered, reads]
    rw [if_neg reads] at reader
    by_cases writes : config.filteredProjectionsWriter = true
    · simp [filterProjection, reads, known, filtered, writes, reader]
    · by_cases volume : config.volumeWriter = true <;>
        simp [filterProjection, reads, ← known, filtered, writes, volume, ← reader]

/-- Filtering and back-projection complete the iteration. -/
theorem Attenuated.finish (attenuated : Attenuated config contents count state)
    (filteredOnce :
      (config.filteredProjectionsReader && config.filteredProjectionsWriter) = false) :
    Processed config contents (count + 1)
      (backProject config count (filterProjection config state)) := by
  rw [attenuated.filterProjection_eq filteredOnce]
  have before := attenuated.volume
  by_cases applies : (config.volumeWriter && !config.skipsBackProjection count) = true
  · have volume : config.volumeWriter = true := (Bool.and_eq_true _ _ ▸ applies).1
    simp only [backProject, applies, if_true]
    refine ⟨rfl, fun raw beam => ?_, attenuated.corrections, attenuated.correctionsFile,
      attenuated.attenuationSlices, rfl, fun _ => ?_, attenuated.volumeWriter⟩
    · simpa using attenuated.reference raw beam
    · rw [Calculation.applied_succ]
      by_cases none : config.volumeSlices = 0 <;>
        simp [BackProjector.applyProjection, before volume, none, volume, calculation,
          by simpa [volume] using applies]
  · simp only [backProject, applies]
    refine ⟨rfl, fun raw beam => ?_, attenuated.corrections, attenuated.correctionsFile,
      attenuated.attenuationSlices, rfl, fun volume => ?_, attenuated.volumeWriter⟩
    · simpa using attenuated.reference raw beam
    · rw [Calculation.applied_succ]
      simpa [applies] using before volume

/-- One iteration of the loop. -/
theorem Processed.step (accepted : config.Accepted)
    (processed : Processed config contents count state) :
    Processed config contents (count + 1) (processProjection config state count) := by
  unfold processProjection
  rcases accepted.readers with ⟨raw, attenuation, filtered⟩ | ⟨raw, attenuation, filtered⟩ |
    ⟨raw, attenuation, filtered⟩
  · simp only [raw, attenuation, if_true]
    exact (processed.processRaw raw filtered fun present =>
      (accepted.corrections present).2).finish accepted.filteredOnce
  · simp only [raw, attenuation, if_true]
    exact (processed.readAttenuation raw filtered (accepted.noCorrectionsFile raw)
      (accepted.noAttenuationWriter raw)).finish accepted.filteredOnce
  · simp only [raw, attenuation]
    exact (processed.skipAttenuation raw filtered (accepted.noCorrectionsFile raw)
      (accepted.noAttenuationWriter raw)).finish accepted.filteredOnce

/-- The loop takes any number of projections through the stages. -/
theorem processed_foldl (contents : Contents stages) (accepted : config.Accepted) (count : ℕ) :
    Processed config contents count
      ((List.range count).foldl (processProjection config) (prepare config contents)) := by
  induction count with
  | zero => exact processed_prepare config contents
  | succ count ih =>
      rw [List.range_succ, List.foldl_append]
      exact ih.step accepted

/-- **The single-threaded runner calculates every projection once and in order.** -/
theorem execute_eq (accepted : config.Accepted) :
    let final := execute config contents
    let calculation := calculation config contents
    let count := config.numberOfProjections
    final.attenuationCorrectionsFile = calculation.correctionsFile count ∧
      final.attenuationProjectionsWriter = calculation.attenuationSlices count ∧
      final.filteredProjectionsWriter = calculation.filteredSlices count ∧
      (config.volumeWriter = true → config.volumeSlices ≠ 0 →
        final.backProjector.applied = calculation.applied count ∧
          final.volumeWriter = [calculation.applied count]) := by
  have processed := processed_foldl contents accepted config.numberOfProjections
  by_cases volume : config.volumeWriter = true
  · have stored := processed.volume volume
    simp only [execute, volume, if_true]
    refine ⟨processed.correctionsFile, processed.attenuationSlices, processed.filteredSlices,
      fun _ nonempty => ?_⟩
    rw [if_neg nonempty] at stored
    simp [BackProjector.applied, BackProjector.writeVolumeData, stored, processed.volumeWriter]
  · simp only [execute, volume]
    exact ⟨processed.correctionsFile, processed.attenuationSlices, processed.filteredSlices,
      fun present => by simp at present⟩

end Invariant

end AthabascaRecon.SingleThreaded
