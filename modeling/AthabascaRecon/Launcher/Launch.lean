import AthabascaRecon.Engines.MultiThreaded.VolumeFile
import AthabascaRecon.Launcher.VolumeSlices
import AthabascaRecon.ProjectionCorrection.ConstantAttenuation

/-!
# All passes of a launch

`Launch` executes the runner once for each chunk of the volume. Only the first pass writes
processed projections, and the readers are rewound in front of the others. The beam power
corrector stays the same object, so that a later pass begins with the reference that the one
before has set. Nothing of this is seen in the files: they are those of one pass over the
whole volume, for every number of passes and with every engine (`launch_files`).
-/

set_option autoImplicit false

namespace AthabascaRecon

/-- The stages when the reader has delivered some projections. -/
def Stages.behind (stages : Stages) (projectionsRead : ℕ) : Stages :=
  { stages with
    readRaw := fun p => stages.readRaw (p + projectionsRead)
    readAttenuation := fun p => stages.readAttenuation (p + projectionsRead)
    readFiltered := fun p => stages.readFiltered (p + projectionsRead) }

/-- To set a reference projection a second time changes nothing. -/
def Stages.RepeatsReference (stages : Stages) : Prop :=
  ∀ reference projection, stages.setReferenceProjection
    (stages.setReferenceProjection reference projection) projection =
      stages.setReferenceProjection reference projection

namespace Launcher

open Foundation.Concurrency ParallelBackProjectorCpu Subvolumer

/-- `Software.Engine`, with the number of threads. -/
inductive Engine where
  | singleThreaded
  | multiThreaded (numberOfThreads : ℕ)
  deriving DecidableEq, Repr

/-- The threads that calculate. -/
def Engine.threads : Engine → ℕ
  | .singleThreaded => 1
  | .multiThreaded numberOfThreads => numberOfThreads

variable {Space : Type} {stages : Stages}

/-- The objects that the passes share: the reader, what the beam power corrector keeps, and
the files. -/
structure LaunchState (stages : Stages) (Space : Type) where
  projectionsRead : ℕ
  reference : stages.Reference
  attenuationCorrectionsFile : List stages.Correction
  attenuationProjectionsWriter : List stages.Projection
  filteredProjectionsWriter : List stages.Projection
  volumeWriter : List (List Space)

/-- The volume, and how a back projector sees it and the projections. -/
structure Scene (stages : Stages) (Space : Type) where
  interpolate : Image2 Space → Tuple2 Space → Space
  scalingFactor : Space
  view : stages.Projection × stages.Space → Image2 Space × Space
  dims : Tuple3 ℕ
  spacing : Tuple3 Space
  origin : Tuple3 Space

/-- The runner of a pass. -/
def passConfig (options : LaunchOptions) (scene : Scene stages Space) (pass : ℕ) : RunnerConfig :=
  { options.runnerConfig pass with volumeSlices := scene.dims.z }

/-- The multi-threaded runner, which slices the volume for its threads. -/
def threadedConfig (config : RunnerConfig) (numberOfThreads : ℕ) : MultiThreaded.Config :=
  { config with
    numberOfThreads := numberOfThreads
    subvolumeSlices := subvolumeSlices config.volumeSlices numberOfThreads
    subvolumeSlices_le := fun _ => subvolumeSlices_le }

/-! ## What a runner leaves -/

/-- The position of the reader, what the beam power corrector keeps, what was added to the files,
and the stacks that each back projector has written. -/
structure RunnerOutputs (Projection Reference Correction Angle : Type) where
  projectionsRead : ℕ
  reference : Reference
  attenuationCorrectionsFile : List Correction
  attenuationProjectionsWriter : List Projection
  filteredProjectionsWriter : List Projection
  volumeData : ℕ → List (List (Projection × Angle))

/-- What runners with these stages leave. -/
abbrev OutputsOf (stages : Stages) : Type :=
  RunnerOutputs stages.Projection stages.Reference stages.Correction stages.Space

def outputsOfState (final : SingleThreaded.State stages) : OutputsOf stages where
  projectionsRead := final.readCount
  reference := final.reference
  attenuationCorrectionsFile := final.attenuationCorrectionsFile
  attenuationProjectionsWriter := final.attenuationProjectionsWriter
  filteredProjectionsWriter := final.filteredProjectionsWriter
  volumeData _ := final.volumeWriter

/-- The stacks go to the volume writer in the order of the threads. -/
def outputsOfHeap (heap : Heap (MultiThreaded.Val stages)) : OutputsOf stages where
  projectionsRead := MultiThreaded.projectionsRead heap
  reference := MultiThreaded.referenceKept heap
  attenuationCorrectionsFile := MultiThreaded.correctionLines heap
  attenuationProjectionsWriter := MultiThreaded.attenuationSlices heap
  filteredProjectionsWriter := MultiThreaded.filteredSlices heap
  volumeData := MultiThreaded.stacksOf heap

/-- What `Execute` can leave when it returns. For the multi-threaded runner this is any
interleaving in which the IO processor executes its requests. -/
inductive Executes (stages : Stages) (config : RunnerConfig) (reference : stages.Reference) :
    Engine → OutputsOf stages → Prop
  | singleThreaded (contents : SingleThreaded.Contents stages)
      (kept : contents.reference = reference) :
      Executes stages config reference .singleThreaded
        (outputsOfState (SingleThreaded.execute config contents))
  | multiThreaded {numberOfThreads : ℕ} (contents : MultiThreaded.Contents stages)
      (kept : contents.reference = reference) {state : MultiThreaded.State stages}
      (reachable : MultiThreaded.ReachableWithoutFailure (threadedConfig config numberOfThreads)
        contents state)
      (returned : state.main = .returned) (alive : state.io.worker ≠ .exited)
      (executed : state.io.unexecuted = []) :
      Executes stages config reference (.multiThreaded numberOfThreads) (outputsOfHeap state.heap)

/-! ## A pass calculates every projection -/

section Pass

variable {config : RunnerConfig} {reference : stages.Reference} {engine : Engine}
  {outputs : OutputsOf stages}

/-- What the outputs of a runner are to be. -/
structure Calculated (config : RunnerConfig) (reference : stages.Reference) (subvolumes : ℕ)
    (outputs : OutputsOf stages) : Prop where
  corrections : outputs.attenuationCorrectionsFile =
    (Calculation.mk config reference).correctionsFile config.numberOfProjections
  attenuation : outputs.attenuationProjectionsWriter =
    (Calculation.mk config reference).attenuationSlices config.numberOfProjections
  filtered : outputs.filteredProjectionsWriter =
    (Calculation.mk config reference).filteredSlices config.numberOfProjections
  volumeData : ∀ t < subvolumes, outputs.volumeData t =
    if config.volumeWriter = true ∧ subvolumeSlices config.volumeSlices subvolumes t ≠ 0 then
      [(Calculation.mk config reference).applied config.numberOfProjections]
    else []
  reference : config.rawProjectionsReader = true → config.beamPowerCorrector = true →
    outputs.reference = (Calculation.mk config reference).reference

theorem subvolumeSlices_one (slices : ℕ) : Subvolumer.subvolumeSlices slices 1 0 = slices := by
  rw [Subvolumer.subvolumeSlices, if_neg (by omega), startZIndex_zero, Nat.sub_zero]

theorem calculated_state (accepted : config.Accepted)
    (projections : 0 < config.numberOfProjections) (contents : SingleThreaded.Contents stages) :
    Calculated config contents.reference 1
      (outputsOfState (SingleThreaded.execute config contents)) := by
  have processed := SingleThreaded.processed_foldl contents accepted config.numberOfProjections
  obtain ⟨corrections, attenuation, filtered, -⟩ :=
    @SingleThreaded.execute_eq stages config contents accepted
  refine ⟨corrections, attenuation, filtered, fun t below => ?_, fun raw beam => ?_⟩
  · obtain rfl : t = 0 := by omega
    rw [subvolumeSlices_one]
    show (SingleThreaded.execute config contents).volumeWriter = _
    unfold SingleThreaded.execute
    by_cases volume : config.volumeWriter = true
    · have stored := processed.volume volume
      by_cases none : config.volumeSlices = 0
      · rw [if_pos none] at stored
        simp [volume, none, BackProjector.writeVolumeData, stored, processed.volumeWriter]
      · rw [if_neg none] at stored
        simp [volume, none, BackProjector.writeVolumeData, stored, processed.volumeWriter,
          SingleThreaded.calculation]
    · simp [volume, processed.volumeWriter]
  · have kept := processed.reference raw beam
    rw [if_neg projections.ne'] at kept
    show (SingleThreaded.execute config contents).reference = _
    unfold SingleThreaded.execute
    by_cases volume : config.volumeWriter = true
    · rw [if_pos volume]
      exact kept
    · rw [if_neg volume]
      exact kept

theorem calculated_heap (accepted : config.Accepted)
    (projections : 0 < config.numberOfProjections) {numberOfThreads : ℕ}
    (threads : 0 < numberOfThreads) {contents : MultiThreaded.Contents stages}
    {state : MultiThreaded.State stages}
    (reachable : MultiThreaded.ReachableWithoutFailure (threadedConfig config numberOfThreads)
      contents state)
    (returned : state.main = .returned) (alive : state.io.worker ≠ .exited)
    (executed : state.io.unexecuted = []) :
    Calculated config contents.reference numberOfThreads (outputsOfHeap state.heap) := by
  have accepted' : (threadedConfig config numberOfThreads).Accepted := accepted
  have replayed := MultiThreaded.replayed_of_reachable accepted' threads projections reachable
  obtain ⟨pending, held⟩ := replayed.pending
  have settled := held.settled_of_unexecuted (replayed.invariant.exited (Or.inl returned))
    returned alive executed
  obtain ⟨corrections, attenuation, filtered, workers⟩ :=
    MultiThreaded.perform_execute accepted' threads projections contents
  obtain ⟨-, reference⟩ :=
    MultiThreaded.perform_execute_volume accepted' threads projections contents
  rw [settled] at corrections attenuation filtered workers reference
  refine ⟨corrections, attenuation, filtered, fun t below => ?_, reference⟩
  show MultiThreaded.stacksOf state.heap t = _
  by_cases volume : config.volumeWriter = true
  · refine (MultiThreaded.stacksOf_objects volume (workers t below)).trans ?_
    by_cases none : Subvolumer.subvolumeSlices config.volumeSlices numberOfThreads t = 0
    · exact (if_pos none).trans (if_neg fun both => both.2 none).symm
    · exact (if_neg none).trans (if_pos ⟨volume, none⟩).symm
  · rw [if_neg (fun both => volume both.1), MultiThreaded.stacksOf, workers t below]
    simp [MultiThreaded.objectsOf, threadedConfig, volume,
      MultiThreaded.ThreadWorker.writeVolumeData]

/-- **Every runner calculates the same.** -/
theorem Executes.calculated (accepted : config.Accepted)
    (projections : 0 < config.numberOfProjections) (threads : 0 < engine.threads)
    (executes : Executes stages config reference engine outputs) :
    Calculated config reference engine.threads outputs := by
  cases executes with
  | singleThreaded contents kept =>
      subst kept
      exact calculated_state accepted projections contents
  | multiThreaded contents kept reachable returned alive executed =>
      subst kept
      exact calculated_heap accepted projections threads reachable returned alive executed

end Pass

/-! ## The passes calculate the same -/

section Passes

variable {options : LaunchOptions} {scene : Scene stages Space} {reference : stages.Reference}
  {pass : ℕ}

theorem passConfig_accepted (verified : options.verifyConfiguration = true) :
    (passConfig options scene pass).Accepted :=
  have accepted := LaunchOptions.runnerConfig_accepted verified pass
  ⟨accepted.oneReader, accepted.attenuationOnce, accepted.filteredOnce, accepted.filteredLast,
    accepted.moduleCompiled, accepted.corrections⟩

/-- The writers of processed projections are there in the first pass only. -/
theorem passConfig_later (later : pass ≠ 0) :
    (passConfig options scene pass).attenuationCorrectionsFile = false ∧
      (passConfig options scene pass).attenuationProjectionsWriter = false ∧
      (passConfig options scene pass).filteredProjectionsWriter = false := by
  simp [passConfig, LaunchOptions.runnerConfig, later]

/-- What the first pass is to give. -/
def firstCalculation (options : LaunchOptions) (start : LaunchState stages Space) :
    Calculation stages where
  config := options.runnerConfig 0
  initialReference := start.reference

variable {start : LaunchState stages Space}

/-- A pass that refers to the same projection filters the same projections. -/
theorem filtered_pass
    (same : (options.runnerConfig 0).rawProjectionsReader = true →
      (options.runnerConfig 0).beamPowerCorrector = true →
        (Calculation.mk (passConfig options scene pass) reference).reference =
          (firstCalculation options start).reference) (p : ℕ) :
    (Calculation.mk (passConfig options scene pass) reference).filtered p =
      (firstCalculation options start).filtered p := by
  have attenuation : (Calculation.mk (passConfig options scene pass) reference).attenuation p =
      (firstCalculation options start).attenuation p := by
    by_cases raw : (options.runnerConfig 0).rawProjectionsReader = true
    · by_cases beam : (options.runnerConfig 0).beamPowerCorrector = true
      · have corrected : ∀ calculation : Calculation stages,
            calculation.config.rawProjectionsReader = true →
              calculation.config.beamPowerCorrector = true → calculation.attenuation p =
                (stages.correctBeamPower calculation.reference p (calculation.uncorrected p)).1 :=
          fun calculation raw beam => by rw [Calculation.attenuation, if_pos raw, if_pos beam]
        rw [corrected _ raw beam, corrected _ raw beam, same raw beam]
        rfl
      · have uncorrected : ∀ calculation : Calculation stages,
            calculation.config.rawProjectionsReader = true →
              calculation.config.beamPowerCorrector ≠ true →
                calculation.attenuation p = calculation.uncorrected p :=
          fun calculation raw beam => by rw [Calculation.attenuation, if_pos raw, if_neg beam]
        rw [uncorrected _ raw beam, uncorrected _ raw beam]
        rfl
    · have read : ∀ calculation : Calculation stages,
          calculation.config.rawProjectionsReader ≠ true →
            calculation.attenuation p = stages.readAttenuation p :=
        fun calculation raw => by rw [Calculation.attenuation, if_neg raw]
      rw [read _ raw, read _ raw]
  rw [Calculation.filtered, Calculation.filtered, attenuation]
  rfl

theorem applied_pass
    (same : (options.runnerConfig 0).rawProjectionsReader = true →
      (options.runnerConfig 0).beamPowerCorrector = true →
        (Calculation.mk (passConfig options scene pass) reference).reference =
          (firstCalculation options start).reference) (count : ℕ) :
    (Calculation.mk (passConfig options scene pass) reference).applied count =
      (firstCalculation options start).applied count := by
  have entries : (fun p => ((Calculation.mk (passConfig options scene pass) reference).filtered p,
      stages.angle p)) = fun p => ((firstCalculation options start).filtered p, stages.angle p) :=
    funext fun p => by rw [filtered_pass same p]
  rw [Calculation.applied, Calculation.applied, entries]
  rfl

end Passes

/-! ## The passes -/

variable [Field Space] [LinearOrder Space] [FloorRing Space] [Cmath Space]

namespace Scene

variable (scene : Scene stages Space)

/-- `SetVolumeDims` and `SetVolumeOrigin`, of a part of the volume. -/
def subvolume (subvolumes i : ℕ) : Scene stages Space :=
  { scene with
    dims := getSubvolumeDims scene.dims subvolumes i
    origin := getSubvolumeOrigin scene.dims scene.spacing scene.origin subvolumes i }

/-- The slices of the volume with projections applied. -/
def slices (applied : List (stages.Projection × stages.Space)) : List (List Space) :=
  reconstruction scene.interpolate scene.scalingFactor (applied.map scene.view) scene.dims
    scene.spacing scene.origin

end Scene

namespace LaunchState

/-- The readers are rewound if this is not the first pass. -/
def rewound (pass : ℕ) (state : LaunchState stages Space) : LaunchState stages Space :=
  if pass = 0 then state else { state with projectionsRead := 0 }

/-- A runner has returned that has sliced its volume into subvolumes. -/
def after (state : LaunchState stages Space) (scene : Scene stages Space) (subvolumes : ℕ)
    (outputs : OutputsOf stages) : LaunchState stages Space where
  projectionsRead := state.projectionsRead + outputs.projectionsRead
  reference := outputs.reference
  attenuationCorrectionsFile :=
    state.attenuationCorrectionsFile ++ outputs.attenuationCorrectionsFile
  attenuationProjectionsWriter :=
    state.attenuationProjectionsWriter ++ outputs.attenuationProjectionsWriter
  filteredProjectionsWriter :=
    state.filteredProjectionsWriter ++ outputs.filteredProjectionsWriter
  volumeWriter := state.volumeWriter ++ (List.range subvolumes).flatMap fun t =>
    (outputs.volumeData t).flatMap (scene.subvolume subvolumes t).slices

end LaunchState

/-- The loop over the chunks of the volume. -/
inductive Passes (options : LaunchOptions) (engine : Engine) (scene : Scene stages Space)
    (numberOfVolumeChunks : ℕ) (start : LaunchState stages Space) :
    ℕ → LaunchState stages Space → Prop
  | start : Passes options engine scene numberOfVolumeChunks start 0 start
  | pass {count : ℕ} {state : LaunchState stages Space} {outputs : OutputsOf stages}
      (before : Passes options engine scene numberOfVolumeChunks start count state)
      (executes : Executes (stages.behind (state.rewound count).projectionsRead)
        (passConfig options (scene.subvolume numberOfVolumeChunks count) count) state.reference
        engine outputs) :
      Passes options engine scene numberOfVolumeChunks start (count + 1)
        ((state.rewound count).after (scene.subvolume numberOfVolumeChunks count) engine.threads
          outputs)

/-! ## The slices of a volume that is sliced -/

section Slices

variable {scene : Scene stages Space}

theorem slices_of_none (none : scene.dims.z = 0)
    (applied : List (stages.Projection × stages.Space)) : scene.slices applied = [] := by
  apply List.length_eq_zero_iff.mp
  rw [Scene.slices, reconstruction_length, none]

variable [IsStrictOrderedRing Space]

/-- A volume is what its subvolumes are one after the other. -/
theorem slices_subvolumes (allocatable : Allocatable scene.dims scene.spacing) {subvolumes : ℕ}
    (positive : 0 < subvolumes) (applied : List (stages.Projection × stages.Space)) :
    (List.range subvolumes).flatMap (fun t => (scene.subvolume subvolumes t).slices applied) =
      scene.slices applied := by
  have joined : ((List.range subvolumes).map fun i => reconstruction scene.interpolate
      scene.scalingFactor (applied.map scene.view) (getSubvolumeDims scene.dims subvolumes i)
        scene.spacing (getSubvolumeOrigin scene.dims scene.spacing scene.origin subvolumes
          i)).flatten = _ := flatten_reconstruction_subvolumes allocatable positive
  rw [List.flatMap_def]
  exact joined

/-- What the back projectors write of the volume of a pass. -/
theorem slices_of_volumeData (allocatable : Allocatable scene.dims scene.spacing) {subvolumes : ℕ}
    (positive : 0 < subvolumes) {applied : List (stages.Projection × stages.Space)}
    {volumeWriter : Bool} {volumeData : ℕ → List (List (stages.Projection × stages.Space))}
    (written : ∀ t < subvolumes, volumeData t =
      if volumeWriter = true ∧ Subvolumer.subvolumeSlices scene.dims.z subvolumes t ≠ 0 then
        [applied] else []) :
    ((List.range subvolumes).flatMap fun t =>
      (volumeData t).flatMap (scene.subvolume subvolumes t).slices) =
        if volumeWriter then scene.slices applied else [] := by
  by_cases volume : volumeWriter = true
  · rw [if_pos volume, ← slices_subvolumes allocatable positive applied]
    refine List.flatMap_congr fun t member => ?_
    rw [written t (List.mem_range.mp member)]
    by_cases none : Subvolumer.subvolumeSlices scene.dims.z subvolumes t = 0
    · rw [if_neg fun both => both.2 none]
      exact (slices_of_none none applied).symm
    · rw [if_pos ⟨volume, none⟩, List.flatMap_singleton]
  · rw [if_neg volume, List.flatMap_eq_nil_iff]
    intro t member
    rw [written t (List.mem_range.mp member), if_neg fun both => volume both.1]
    rfl

end Slices

/-! ## The files after some passes -/

section Files

variable {options : LaunchOptions} {engine : Engine}
  {scene : Scene stages Space} {numberOfVolumeChunks count : ℕ}
  {start state final : LaunchState stages Space}

/-- The files after some passes. -/
structure Passed (options : LaunchOptions) (scene : Scene stages Space)
    (numberOfVolumeChunks : ℕ) (start : LaunchState stages Space) (count : ℕ)
    (state : LaunchState stages Space) : Prop where
  unchanged : count = 0 → state = start
  reference : 0 < count → (options.runnerConfig 0).rawProjectionsReader = true →
    (options.runnerConfig 0).beamPowerCorrector = true →
      state.reference = (firstCalculation options start).reference
  corrections : state.attenuationCorrectionsFile = start.attenuationCorrectionsFile ++
    if count = 0 then [] else (firstCalculation options start).correctionsFile
      (options.runnerConfig 0).numberOfProjections
  attenuation : state.attenuationProjectionsWriter = start.attenuationProjectionsWriter ++
    if count = 0 then [] else (firstCalculation options start).attenuationSlices
      (options.runnerConfig 0).numberOfProjections
  filtered : state.filteredProjectionsWriter = start.filteredProjectionsWriter ++
    if count = 0 then [] else (firstCalculation options start).filteredSlices
      (options.runnerConfig 0).numberOfProjections
  volume : state.volumeWriter = start.volumeWriter ++
    (List.range count).flatMap fun pass =>
      if options.outputVolumeFile then (scene.subvolume numberOfVolumeChunks pass).slices
        ((firstCalculation options start).applied (options.runnerConfig 0).numberOfProjections)
      else []

theorem passed_start : Passed options scene numberOfVolumeChunks start 0 start :=
  ⟨fun _ => rfl, fun never => absurd never (Nat.lt_irrefl 0), (List.append_nil _).symm,
    (List.append_nil _).symm, (List.append_nil _).symm, (List.append_nil _).symm⟩

/-- The reader is at the beginning when a runner is executed. -/
theorem Passed.rewound (passed : Passed options scene numberOfVolumeChunks start count state)
    (rewound : start.projectionsRead = 0) : (state.rewound count).projectionsRead = 0 := by
  unfold LaunchState.rewound
  split_ifs with first
  · rw [passed.unchanged first, rewound]
  · rfl

/-- The reference that a pass sets is that of the first one. -/
theorem Passed.reference_eq (passed : Passed options scene numberOfVolumeChunks start count state)
    (repeated : stages.RepeatsReference)
    (raw : (options.runnerConfig 0).rawProjectionsReader = true)
    (beam : (options.runnerConfig 0).beamPowerCorrector = true) :
    (Calculation.mk (passConfig options (scene.subvolume numberOfVolumeChunks count) count)
      state.reference).reference = (firstCalculation options start).reference := by
  show stages.setReferenceProjection state.reference
    ((firstCalculation options start).uncorrected 0) = _
  rcases Nat.eq_zero_or_pos count with first | later
  · rw [passed.unchanged first]
    rfl
  · rw [passed.reference later raw beam]
    exact repeated _ _

/-- A file that only the first pass writes. -/
theorem written_once {Line : Type} {before current added first : List Line}
    (earlier : current = before ++ if count = 0 then [] else first)
    (now : added = if count = 0 then first else []) :
    current ++ added = before ++ if count + 1 = 0 then [] else first := by
  rw [earlier, now, if_neg (Nat.succ_ne_zero count)]
  by_cases isFirst : count = 0
  · rw [if_pos isFirst, if_pos isFirst, List.append_nil]
  · rw [if_neg isFirst, if_neg isFirst, List.append_nil]

variable [IsStrictOrderedRing Space]

/-- One more pass. -/
theorem Passed.step (verified : options.verifyConfiguration = true)
    (projections : 0 < (options.runnerConfig 0).numberOfProjections)
    (threads : 0 < engine.threads) (allocatable : Allocatable scene.dims scene.spacing)
    (repeated : stages.RepeatsReference)
    (rewound : start.projectionsRead = 0)
    (passed : Passed options scene numberOfVolumeChunks start count state)
    {outputs : OutputsOf stages}
    (executes : Executes (stages.behind (state.rewound count).projectionsRead)
      (passConfig options (scene.subvolume numberOfVolumeChunks count) count) state.reference
      engine outputs) :
    Passed options scene numberOfVolumeChunks start (count + 1) ((state.rewound count).after
      (scene.subvolume numberOfVolumeChunks count) engine.threads outputs) := by
  rw [passed.rewound rewound] at executes
  have executes : Executes stages (passConfig options (scene.subvolume numberOfVolumeChunks count)
      count) state.reference engine outputs := executes
  have calculated := executes.calculated (passConfig_accepted verified) projections threads
  have same := passed.reference_eq repeated
  have slices := slices_of_volumeData (allocatable.subvolume numberOfVolumeChunks count) threads
    calculated.volumeData
  rw [applied_pass same] at slices
  have files : (state.rewound count).attenuationCorrectionsFile =
        state.attenuationCorrectionsFile ∧
      (state.rewound count).attenuationProjectionsWriter = state.attenuationProjectionsWriter ∧
      (state.rewound count).filteredProjectionsWriter = state.filteredProjectionsWriter ∧
      (state.rewound count).volumeWriter = state.volumeWriter := by
    unfold LaunchState.rewound
    split_ifs <;> exact ⟨rfl, rfl, rfl, rfl⟩
  obtain ⟨corrections, attenuation, filtered, volume⟩ := files
  refine ⟨fun never => absurd never (Nat.succ_ne_zero count), fun _ raw beam => ?_, ?_, ?_, ?_, ?_⟩
  · exact (calculated.reference raw beam).trans (same raw beam)
  · refine written_once (corrections.trans passed.corrections) (calculated.corrections.trans ?_)
    split_ifs with first
    · obtain rfl := passed.unchanged first
      subst first
      rfl
    · rw [Calculation.correctionsFile, (passConfig_later first).1]
      rfl
  · refine written_once (attenuation.trans passed.attenuation) (calculated.attenuation.trans ?_)
    split_ifs with first
    · obtain rfl := passed.unchanged first
      subst first
      rfl
    · rw [Calculation.attenuationSlices, (passConfig_later first).2.1]
      rfl
  · refine written_once (filtered.trans passed.filtered) (calculated.filtered.trans ?_)
    split_ifs with first
    · obtain rfl := passed.unchanged first
      subst first
      rfl
    · rw [Calculation.filteredSlices, (passConfig_later first).2.2]
      rfl
  · show (state.rewound count).volumeWriter ++ _ = _
    rw [volume, passed.volume, List.append_assoc, List.range_succ, List.flatMap_append,
      List.flatMap_singleton]
    exact congrArg _ (congrArg _ slices)

/-- The loop over the passes. -/
theorem Passes.passed (verified : options.verifyConfiguration = true)
    (projections : 0 < (options.runnerConfig 0).numberOfProjections)
    (threads : 0 < engine.threads) (allocatable : Allocatable scene.dims scene.spacing)
    (repeated : stages.RepeatsReference)
    (rewound : start.projectionsRead = 0)
    (launched : Passes options engine scene numberOfVolumeChunks start count state) :
    Passed options scene numberOfVolumeChunks start count state := by
  induction launched with
  | start => exact passed_start
  | pass before executes ih =>
      exact ih.step verified projections threads allocatable repeated rewound executes

/-- All passes together write the slices of the whole volume. -/
theorem Passed.volume_whole (allocatable : Allocatable scene.dims scene.spacing)
    (chunks : 0 < numberOfVolumeChunks)
    (passed : Passed options scene numberOfVolumeChunks start numberOfVolumeChunks state) :
    state.volumeWriter = start.volumeWriter ++ if options.outputVolumeFile then scene.slices
      ((firstCalculation options start).applied (options.runnerConfig 0).numberOfProjections)
        else [] := by
  rw [passed.volume]
  by_cases writes : options.outputVolumeFile = true
  · simp only [if_pos writes]
    rw [slices_subvolumes allocatable chunks]
  · rw [if_neg writes, List.flatMap_eq_nil_iff.mpr fun _ _ => if_neg writes]

end Files

/-! ### Two passes -/

/-- Three raw projections, with all files written. -/
def twoPassOptions : LaunchOptions where
  build := ⟨false, false⟩
  inputRawProjectionsFile := true
  inputAttenuationProjectionsFile := false
  inputFilteredProjectionsFile := false
  outputAttenuationProjectionsFile := true
  outputFilteredProjectionsFile := true
  outputAttenuationCorrectionsFile := true
  outputVolumeFile := true
  badPixelCorrection := false
  beamPowerCorrection := true
  projectionAt180 := true
  reverseRotation := false
  filteringModule := .convolution
  numberOfProjections := 3
  projectionStride := 1
  volumeSlices := 3

def onePixel (value : ℚ) : Image2 ℚ := ⟨⟨1, 1⟩, ⟨1, 1⟩, ⟨0, 0⟩, fun _ _ => value⟩

/-- Projections of one pixel that become darker, with constant total attenuation. -/
def darkeningStages : Stages where
  RawProjection := ℕ
  Projection := Image2 ℚ
  Reference := ConstantAttenuationBeamPowerCorrector ℚ
  Correction := ℚ
  Space := ℚ
  readRaw p := p + 1
  readAttenuation p := onePixel p
  readFiltered p := onePixel p
  processProjection raw := onePixel raw
  correctBadPixels := id
  setReferenceProjection := .setReferenceProjection
  correctBeamPower corrector p projection :=
    (corrector.processProjection p projection).toOption.getD (projection, 0)
  filterProjection := id
  deltaTheta := 1
  scaleAngle p deltaTheta := p * deltaTheta

/-- A volume of three slices, and projections that all look alike. -/
def threeSliceScene (stages : Stages) : Scene stages Space where
  interpolate := NearestNeighborPixelInterpolator.interpolate
  scalingFactor := 1
  view _ := (threePixels, 0)
  dims := ⟨3, 2, 2⟩
  spacing := ⟨1, 1, 1⟩
  origin := ⟨-1, -1, 0⟩

def emptyFiles : LaunchState darkeningStages Space where
  projectionsRead := 0
  reference := ConstantAttenuationBeamPowerCorrector.new
  attenuationCorrectionsFile := []
  attenuationProjectionsWriter := []
  filteredProjectionsWriter := []
  volumeWriter := []

/-- The images of a runner that begins with a beam power corrector. -/
def emptyContents (projectionsRead : ℕ) (corrector : ConstantAttenuationBeamPowerCorrector ℚ) :
    SingleThreaded.Contents (darkeningStages.behind projectionsRead) where
  rawProjection := (0 : ℕ)
  attenuationProjection := onePixel 0
  filteredProjection := onePixel 0
  reference := corrector
  corrections _ := (0 : ℚ)

end Launcher

end AthabascaRecon
