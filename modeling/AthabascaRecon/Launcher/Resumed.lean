import AthabascaRecon.Configuration.WrittenProjections
import AthabascaRecon.Launcher.Launch

/-!
# Going on from written projections

A launch can write the attenuation or the filtered projections, and a later one can read them
in place of the raw projections. The later launch writes what one launch from the raw
projections would have written (`resumed_files`), whatever the engines and the passes of the
three launches are.
-/

set_option autoImplicit false

namespace AthabascaRecon

/-- The projections that a launch writes, and that another one can begin with. -/
inductive ProcessedProjections where
  | attenuation
  | filtered
  deriving DecidableEq, Repr

/-- The stages with other processed projections from the readers. -/
def Stages.reading (stages : Stages) (read : ℕ → stages.Projection) : Stages :=
  { stages with readAttenuation := read, readFiltered := read }

namespace LaunchOptions

def reads (options : LaunchOptions) : ProcessedProjections → Bool
  | .attenuation => options.inputAttenuationProjectionsFile
  | .filtered => options.inputFilteredProjectionsFile

def writes (options : LaunchOptions) : ProcessedProjections → Bool
  | .attenuation => options.outputAttenuationProjectionsFile
  | .filtered => options.outputFilteredProjectionsFile

/-- Two launches from the same raw projections, which they correct in the same way. -/
structure SameProjections (written options : LaunchOptions) : Prop where
  writtenFromRaw : written.inputRawProjectionsFile = true
  fromRaw : options.inputRawProjectionsFile = true
  badPixelCorrection : written.badPixelCorrection = options.badPixelCorrection
  beamPowerCorrection : written.beamPowerCorrection = options.beamPowerCorrection
  numberOfProjections : (written.runnerConfig 0).numberOfProjections =
    (options.runnerConfig 0).numberOfProjections

/-- A launch that begins with processed projections in place of the raw ones. -/
structure Resumes (resumed options : LaunchOptions) (kind : ProcessedProjections) : Prop where
  reads : resumed.reads kind = true
  numberOfProjections : (resumed.runnerConfig 0).numberOfProjections =
    (options.runnerConfig 0).numberOfProjections
  projectionAt180 : resumed.projectionAt180 = options.projectionAt180
  outputVolumeFile : resumed.outputVolumeFile = options.outputVolumeFile
  outputFilteredProjectionsFile : kind = .attenuation →
    resumed.outputFilteredProjectionsFile = options.outputFilteredProjectionsFile

variable {options resumed : LaunchOptions} {kind : ProcessedProjections}

/-- A verified configuration has one input. -/
theorem oneInput (verified : options.verifyConfiguration = true) :
    options.inputRawProjectionsFile.toNat + options.inputAttenuationProjectionsFile.toNat +
      options.inputFilteredProjectionsFile.toNat = 1 :=
  (runnerConfig_accepted verified 0).oneReader

theorem noFilteredInput (verified : options.verifyConfiguration = true)
    (fromRaw : options.inputRawProjectionsFile = true) :
    options.inputFilteredProjectionsFile = false := by
  have one := oneInput verified
  rw [fromRaw] at one
  cases filtered : options.inputFilteredProjectionsFile with
  | false => rfl
  | true =>
    rw [filtered] at one
    simp at one

theorem noOtherInput (verified : options.verifyConfiguration = true)
    (reads : options.reads .attenuation = true) :
    options.inputRawProjectionsFile = false ∧ options.inputFilteredProjectionsFile = false := by
  have one := oneInput verified
  rw [show options.inputAttenuationProjectionsFile = true from reads] at one
  cases raw : options.inputRawProjectionsFile <;>
    cases filtered : options.inputFilteredProjectionsFile <;> simp [raw, filtered] at one ⊢

end LaunchOptions

/-! ## What a launch calculates from processed projections -/

namespace Calculation

variable {stages : Stages}

/-- The projections that the writer of processed projections gets. -/
def processed (calculation : Calculation stages) (p : ℕ) :
    ProcessedProjections → stages.Projection
  | .attenuation => calculation.attenuation p
  | .filtered => calculation.filtered p

end Calculation

/-! ## What a reader of a file delivers -/

/-- How the pixels of projections are stored, as bytes of the host that writes them, and what the
host that reads has in them. -/
structure PixelFormat (Projection : Type) (size : ℕ) where
  pixels : ℕ
  encode : Projection → ℕ → ValueBytes size
  decode : (ℕ → ValueBytes size) → Projection

/-- The host that reads has a projection in its pixels. -/
def PixelFormat.Restores {Projection : Type} {size : ℕ} (format : PixelFormat Projection size)
    (host here : EEndian) (projection : Projection) : Prop :=
  ∀ memory, (∀ p < format.pixels,
    memory p = inOrderOf host here (format.encode projection p)) →
      format.decode memory = projection

namespace AnyFormatReader

variable {Projection : Type} {size : ℕ} {reader : AnyFormatReader} {setup : ReaderSetup}
  {stack : SliceStack size} {host here : EEndian} {format : PixelFormat Projection size}
  {projections : List Projection} {read : ℕ → Projection}

/-- The projections that a launch gets from a reader, by the reads since the last `Rewind`. -/
def Delivers (ready : AnyFormatReader) (format : PixelFormat Projection size)
    (read : ℕ → Projection) : Prop :=
  ∀ (earlier : List (ReaderCall size)) (served : List ℕ × AnyFormatReader)
    (image : ProjectionImage size) (out : ℕ → ValueBytes size)
    (delivered : ProjectionImage size × List ℕ × AnyFormatReader),
    ready.serveAll earlier = .ok served → image.isConstructed = true →
      image.pixels = format.pixels → served.2.getNextProjection image out = .ok delivered →
        read (readsSinceRewind earlier) = format.decode delivered.1.memory

theorem serveAll_append_singleton (ready : AnyFormatReader) (calls : List (ReaderCall size))
    (call : ReaderCall size) :
    ready.serveAll (calls ++ [call]) =
      (ready.serveAll calls).bind fun state => serve state call := by
  simp only [serveAll, List.foldlM_append, List.foldlM_cons, List.foldlM_nil, bind_pure]
  rfl

/-- The reads of projections that are there succeed. -/
theorem exists_history (sound : host = here ∨ Even size) (positive : 0 < setup.projectionStride)
    (file : setup.file = stack.bytes) (pixels : setup.pixels = stack.sliceSize)
    (order : setup.fileOrder = host) (native : setup.host = here) (count : ℕ)
    (inside : ∀ p < count, p * setup.projectionStride < stack.slices.length) :
    ∃ (earlier : List (ReaderCall size)) (served : List ℕ × AnyFormatReader),
      (reader.withStream setup .rewind).serveAll earlier = .ok served ∧
        readsSinceRewind earlier = count := by
  induction count with
  | zero => exact ⟨[], _, rfl, rfl⟩
  | succ count ih =>
    obtain ⟨earlier, served, history, rfl⟩ := ih fun p below => inside p (by omega)
    let image : ProjectionImage size := ⟨true, setup.pixels, fun _ _ => 0⟩
    have due := List.getElem?_eq_getElem (inside _ (Nat.lt_succ_self _))
    obtain ⟨delivered, reached, after, read, -⟩ := (serveAll_stack sound positive file pixels order
      native history (fun _ _ => 0) (rfl : image.isConstructed = true) rfl).1 _ due
    refine ⟨earlier ++ [.getNextProjection image fun _ _ => 0], (served.1 ++ reached, after),
      ?_, ?_⟩
    · rw [serveAll_append_singleton, history]
      show (served.2.getNextProjection image _).map _ = _
      rw [read]
      rfl
    · rw [ReaderSetup.readsSinceRewind_getNextProjection]

/-- **A reader of a file with projections delivers these projections**, those that the stride
leaves. -/
theorem delivers_iff (sound : host = here ∨ Even size) (positive : 0 < setup.projectionStride)
    (file : setup.file = stack.bytes) (pixels : setup.pixels = stack.sliceSize)
    (order : setup.fileOrder = host) (native : setup.host = here)
    (dims : format.pixels = setup.pixels) (some_bytes : 0 < setup.byteCount size)
    (slices : stack.slices = projections.map format.encode)
    (restores : ∀ projection ∈ projections, format.Restores host here projection) :
    (reader.withStream setup .rewind).Delivers format read ↔
      ∀ p projection, projections[p * setup.projectionStride]? = some projection →
        read p = projection := by
  have due : ∀ {p : ℕ} {projection : Projection}, projections[p]? = some projection →
      stack.slices[p]? = some (format.encode projection) := by
    intro p projection found
    rw [slices, List.getElem?_map, found, Option.map_some]
  constructor
  · intro delivers p projection found
    have inside : ∀ q < p, q * setup.projectionStride < stack.slices.length := by
      intro q below
      have bound := (List.getElem?_eq_some_iff.mp (due found)).1
      exact (Nat.mul_le_mul_right _ below.le).trans_lt bound
    obtain ⟨earlier, served, history, rfl⟩ : ∃ (earlier : List (ReaderCall size))
        (served : List ℕ × AnyFormatReader),
        (reader.withStream setup .rewind).serveAll earlier = .ok served ∧
          readsSinceRewind earlier = p :=
      exists_history sound positive file pixels order native p inside
    let image : ProjectionImage size := ⟨true, setup.pixels, fun _ _ => 0⟩
    obtain ⟨delivered, reached, after, succeeded, values⟩ := (serveAll_stack sound positive file
      pixels order native history (fun _ _ => 0) (rfl : image.isConstructed = true) rfl).1 _
        (due found)
    rw [delivers earlier served image _ _ history rfl dims.symm succeeded]
    refine restores projection (List.mem_of_getElem? found) _ fun q below => ?_
    exact values q (by rwa [dims] at below)
  · intro reads earlier served image out delivered history constructed size succeeded
    obtain ⟨delivers, fails⟩ := serveAll_stack sound positive file pixels order native history out
      constructed (size.trans dims)
    cases found : projections[readsSinceRewind earlier * setup.projectionStride]? with
    | none =>
      have behind := List.getElem?_eq_none_iff.mp found
      rw [← List.length_map (f := format.encode), ← slices] at behind
      rw [fails behind some_bytes] at succeeded
      cases succeeded
    | some projection =>
      obtain ⟨_, _, _, read, values⟩ := delivers _ (due found)
      obtain rfl := Except.ok.inj (read.symm.trans succeeded)
      rw [reads _ _ found]
      refine (restores projection (List.mem_of_getElem? found) _ fun q below => ?_).symm
      exact values q (by rwa [size])

end AnyFormatReader

namespace Launcher

open ParallelBackProjectorCpu LaunchOptions

variable {Space : Type} [Field Space] [LinearOrder Space] [FloorRing Space] [Cmath Space]
  {stages : Stages} {written resumed options : LaunchOptions} {kind : ProcessedProjections}

namespace Scene

/-- The same scene, with projections from another reader. -/
def reading (scene : Scene stages Space) (read : ℕ → stages.Projection) :
    Scene (stages.reading read) Space :=
  ⟨scene.interpolate, scene.scalingFactor, scene.view, scene.dims, scene.spacing, scene.origin⟩

end Scene

/-- New files, and what the beam power corrector keeps. -/
def LaunchState.opened (Space : Type) (reference : stages.Reference) :
    LaunchState stages Space where
  projectionsRead := 0
  reference := reference
  attenuationCorrectionsFile := []
  attenuationProjectionsWriter := []
  filteredProjectionsWriter := []
  volumeWriter := []

/-- The file that a launch has written with processed projections. -/
def LaunchState.projectionsFile (state : LaunchState stages Space) :
    ProcessedProjections → List stages.Projection
  | .attenuation => state.attenuationProjectionsWriter
  | .filtered => state.filteredProjectionsWriter

/-- What a launch calculates. -/
abbrev calculationOf (options : LaunchOptions) (reference : stages.Reference) :
    Calculation stages :=
  ⟨options.runnerConfig 0, reference⟩

variable {reference : stages.Reference}

/-- Which files a launch writes makes no difference to its projections. -/
theorem processed_of_sameProjections (verified : written.verifyConfiguration = true)
    (verifiedOptions : options.verifyConfiguration = true)
    (same : written.SameProjections options) (p : ℕ) :
    (calculationOf written reference).processed p kind =
      (calculationOf options reference).processed p kind := by
  have raw : (written.runnerConfig 0).rawProjectionsReader =
      (options.runnerConfig 0).rawProjectionsReader :=
    same.writtenFromRaw.trans same.fromRaw.symm
  have badPixel : (written.runnerConfig 0).badPixelCorrector =
      (options.runnerConfig 0).badPixelCorrector :=
    congrArg₂ and raw same.badPixelCorrection
  have beamPower : (written.runnerConfig 0).beamPowerCorrector =
      (options.runnerConfig 0).beamPowerCorrector :=
    congrArg₂ and raw same.beamPowerCorrection
  have noneRead : (written.runnerConfig 0).filteredProjectionsReader =
      (options.runnerConfig 0).filteredProjectionsReader :=
    (noFilteredInput verified same.writtenFromRaw).trans
      (noFilteredInput verifiedOptions same.fromRaw).symm
  have attenuation : (calculationOf written reference).attenuation p =
      (calculationOf options reference).attenuation p := by
    simp only [Calculation.attenuation, Calculation.uncorrected, Calculation.reference, raw,
      badPixel, beamPower]
  cases kind with
  | attenuation => exact attenuation
  | filtered =>
    show Calculation.filtered _ p = Calculation.filtered _ p
    rw [Calculation.filtered, Calculation.filtered, attenuation, noneRead]

variable {read : ℕ → stages.Projection} {kept : (stages.reading read).Reference}

/-- A launch that gets the processed projections has the filtered ones. -/
theorem filtered_of_resumes (verified : options.verifyConfiguration = true)
    (verifiedResumed : resumed.verifyConfiguration = true)
    (fromRaw : options.inputRawProjectionsFile = true) (resumes : resumed.Resumes options kind)
    {p : ℕ} (due : read p = (calculationOf options reference).processed p kind) :
    (calculationOf resumed kept).filtered p = (calculationOf options reference).filtered p := by
  have reads := resumes.reads
  cases kind with
  | filtered =>
    have readsFiltered : (resumed.runnerConfig 0).filteredProjectionsReader = true := reads
    exact (if_pos readsFiltered).trans due
  | attenuation =>
    obtain ⟨notRaw, notFiltered⟩ := noOtherInput verifiedResumed reads
    have attenuation : (calculationOf resumed kept).attenuation p = read p :=
      if_neg (Bool.eq_false_iff.mp notRaw)
    have filters : (calculationOf resumed kept).filtered p =
        stages.filterProjection ((calculationOf resumed kept).attenuation p) :=
      if_neg (Bool.eq_false_iff.mp notFiltered)
    have filtersRaw : (calculationOf options reference).filtered p =
        stages.filterProjection ((calculationOf options reference).attenuation p) :=
      if_neg (Bool.eq_false_iff.mp (noFilteredInput verified fromRaw))
    rw [filters, attenuation, filtersRaw]
    exact congrArg stages.filterProjection due

/-- The volume is made of the same projections. -/
theorem applied_of_resumes (verified : options.verifyConfiguration = true)
    (verifiedResumed : resumed.verifyConfiguration = true)
    (fromRaw : options.inputRawProjectionsFile = true) (resumes : resumed.Resumes options kind)
    {count : ℕ}
    (due : ∀ p < count, read p = (calculationOf options reference).processed p kind)
    (kept : (stages.reading read).Reference) :
    (calculationOf resumed kept).applied count =
      (calculationOf options reference).applied count := by
  have volume : (resumed.runnerConfig 0).volumeWriter = (options.runnerConfig 0).volumeWriter :=
    resumes.outputVolumeFile
  have skips : (resumed.runnerConfig 0).skipsBackProjection =
      (options.runnerConfig 0).skipsBackProjection := by
    funext p
    rw [RunnerConfig.skipsBackProjection, RunnerConfig.skipsBackProjection,
      resumes.numberOfProjections]
    exact congrArg (· && _) resumes.projectionAt180
  have entries : ∀ p ∈ (List.range count).filter fun p =>
      !(options.runnerConfig 0).skipsBackProjection p,
      ((calculationOf resumed kept).filtered p, (stages.reading read).angle p) =
        ((calculationOf options reference).filtered p, stages.angle p) := by
    intro p member
    have below := List.mem_range.mp (List.mem_of_mem_filter member)
    rw [filtered_of_resumes verified verifiedResumed fromRaw resumes (due p below)]
    rfl
  rw [Calculation.applied, Calculation.applied, volume, skips]
  exact if_congr Iff.rfl (List.map_congr_left entries) rfl

/-! ## Launches that have returned -/

/-- A launch of a verified configuration has returned. Its files were new. -/
structure Launched (options : LaunchOptions) (scene : Scene stages Space)
    (reference : stages.Reference) (final : LaunchState stages Space) : Prop where
  verified : options.verifyConfiguration = true
  returned : ∃ (engine : Engine) (numberOfVolumeChunks : ℕ), 0 < engine.threads ∧
    0 < numberOfVolumeChunks ∧ Passes options engine scene numberOfVolumeChunks
      (.opened Space reference) numberOfVolumeChunks final

/-- A launch of one pass with one thread. -/
theorem launched_onePass (verified : options.verifyConfiguration = true)
    (scene : Scene stages Space) (contents : SingleThreaded.Contents (stages.behind 0)) :
    ∃ final, Launched options scene contents.reference final :=
  ⟨_, verified, .singleThreaded, 1, Nat.one_pos, Nat.one_pos,
    .pass .start (.singleThreaded contents rfl)⟩

theorem Launched.files [IsStrictOrderedRing Space] {scene : Scene stages Space}
    {final : LaunchState stages Space} (launched : Launched options scene reference final)
    (projections : 0 < (options.runnerConfig 0).numberOfProjections)
    (allocatable : Allocatable scene.dims scene.spacing) (repeated : stages.RepeatsReference) :
    (∀ kind, final.projectionsFile kind = if options.writes kind then
      (List.range (options.runnerConfig 0).numberOfProjections).map fun p =>
        (calculationOf options reference).processed p kind else []) ∧
    final.volumeWriter = if options.outputVolumeFile then scene.slices
      ((calculationOf options reference).applied (options.runnerConfig 0).numberOfProjections)
        else [] := by
  obtain ⟨engine, chunks, threads, positive, passes⟩ := launched.returned
  have passed := passes.passed launched.verified projections threads allocatable repeated rfl
  refine ⟨fun kind => ?_, (passed.volume_whole allocatable positive).trans (List.nil_append _)⟩
  cases kind with
  | attenuation => exact (passed.attenuation.trans (if_neg positive.ne'))
  | filtered => exact (passed.filtered.trans (if_neg positive.ne'))

/-! ## The file between two launches -/

section Handover

open Foundation WritingState

/-- A writer of projections and a reader of its file, which may be on different hosts. -/
structure Handover (Projection HeaderSpace : Type) (size : ℕ) where
  writeBits : ℕ
  readBits : ℕ
  host : EEndian
  here : EEndian
  elementType : DataType
  writeSpace : HeaderSpace → Text
  readSpace : Text → Option HeaderSpace
  files : Files
  name : Text
  dims : Tuple2 ℤ
  pixelSize : Tuple2 HeaderSpace
  origin : Tuple2 HeaderSpace
  closing : Closing
  format : PixelFormat Projection size

namespace Handover

variable {Projection HeaderSpace : Type} [Zero HeaderSpace] {size : ℕ}
  (handover : Handover Projection HeaderSpace size)

/-- The slices that the writer gets. -/
def slices (projections : List Projection) : List (WriterCall size HeaderSpace) :=
  projections.map fun projection =>
    .writeSlice ⟨true, handover.format.pixels, handover.format.encode projection⟩ .success

/-- What the writer is told. -/
def calls (projections : List Projection) : List (WriterCall size HeaderSpace) :=
  launchCalls size handover.name handover.dims handover.pixelSize handover.origin ++
    handover.slices projections

/-- The reader of the file, which a launch initialises. -/
def reader : AnyFormatReader where
  fileName := handover.name
  dimensions := handover.dims
  projectionStride := 1
  worker := none

/-- The reader when it is in front of the file. -/
def rewound (projections : List Projection) : AnyFormatReader :=
  handover.reader.withStream (handover.reader.newWorker handover.here
    (SliceStack.writtenBy (handover.calls projections)).bytes
      (decide (handover.host = .bigEndianOrder))) .rewind

/-- The projections have been written, and the writer is destroyed. -/
structure Written (projections : List Projection) (next : WritingState HeaderSpace) : Prop where
  wide : 32 ≤ handover.writeBits
  format : toLowerCopy (pathExtension handover.name) = ".mhd".toList
  named : AnyFormatReader.NamesRawFile (changeExtension handover.name ".raw".toList)
  flushed : handover.closing.flushing = .success
  destroyed : ∃ state, Runs.run (WritingState.step handover.writeBits handover.host
      handover.elementType handover.writeSpace) ⟨.new, handover.files⟩
        (handover.calls projections) = some state ∧
    state.destroy handover.host handover.elementType handover.writeSpace handover.closing =
      (.ok (), next) ∧
    (state.writer.header handover.elementType).Legible handover.readBits handover.writeSpace
      handover.readSpace

/-- The host that reads has the projections in their pixels. -/
structure Readable (projections : List Projection) : Prop where
  pixels : handover.format.pixels =
    ArrayBase.longProduct ![handover.dims.v, handover.dims.u]
  some_bytes : 0 < handover.format.pixels * size
  sound : handover.host = handover.here ∨ Even size
  restores : ∀ projection ∈ projections,
    handover.format.Restores handover.host handover.here projection

/-- A reader has been initialised with the projections that were written. -/
structure Done (projections : List Projection) (ready : AnyFormatReader) : Prop where
  readable : handover.Readable projections
  initialised : ∃ next, handover.Written projections next ∧ handover.reader.initializeReader
    handover.here handover.readBits handover.readSpace next.files 10 = some (.ok (), ready)

variable {handover} {projections : List Projection} {ready : AnyFormatReader}

omit [Zero HeaderSpace] in
theorem onlyWrites (projections : List Projection) :
    ∀ call ∈ handover.slices projections, IsWrite call := by
  intro call member
  obtain ⟨projection, -, rfl⟩ := List.mem_map.mp member
  trivial

omit [Zero HeaderSpace] in
/-- The writer is given the projections as slices. -/
theorem writtenBy_calls (projections : List Projection) :
    SliceStack.writtenBy (handover.calls projections) =
      ⟨ArrayBase.longProduct ![handover.dims.v, handover.dims.u],
        projections.map handover.format.encode⟩ := by
  induction projections using List.reverseRecOn with
  | nil => rfl
  | append_singleton projections projection ih =>
    rw [calls, slices, List.map_append, List.map_singleton, ← List.append_assoc,
      SliceStack.writtenBy_append_singleton, List.map_append, List.map_singleton]
    exact congrArg (fun stack : SliceStack size => stack.after (.writeSlice
      (⟨true, handover.format.pixels, handover.format.encode projection⟩ : ProjectionImage size)
        .success : WriterCall size HeaderSpace)) ih

theorem Written.initialised {next : WritingState HeaderSpace}
    (written : handover.Written projections next) :
    handover.reader.initializeReader handover.here handover.readBits handover.readSpace next.files
      10 = some (.ok (), handover.rewound projections) := by
  obtain ⟨state, returned, destroyed, legible⟩ := written.destroyed
  have records : WritingState.Records (SliceStack.writtenBy _) state :=
    (records_new handover.files).run written.wide
      (tidy_launchCalls handover.files (onlyWrites projections)) returned
  obtain ⟨writer, isOpen⟩ := writer_of_launchCalls written.wide (onlyWrites projections) returned
  obtain ⟨headerFile, -, data⟩ := records.destroy written.wide (.inl rfl) isOpen destroyed
  rw [written.flushed] at headerFile
  obtain ⟨-, dataFile⟩ := data (records.good isOpen)
  have metaFile : state.writer.metaFileName = handover.name := by rw [writer]; rfl
  have rawFile : state.writer.dataFileName = changeExtension handover.name ".raw".toList := by
    rw [writer]
    rfl
  have dims : state.writer.sliceDimensions = handover.dims := by rw [writer]; rfl
  have reads : handover.reader.Reads state.writer :=
    ⟨metaFile.symm, metaFile ▸ written.format, dims.symm, Nat.one_pos, rfl⟩
  exact AnyFormatReader.initializeReader_written handover.here headerFile dataFile
    (rawFile ▸ changeExtension_ne_nil _) legible (rawFile ▸ written.named) reads

omit [Zero HeaderSpace] in
/-- **The reader has the projections that were written.** -/
theorem Readable.delivers_iff (readable : handover.Readable projections)
    {read : ℕ → Projection} :
    (handover.rewound projections).Delivers handover.format read ↔
      ∀ p projection, projections[p]? = some projection → read p = projection := by
  have stack : SliceStack.writtenBy (handover.calls projections) = _ := writtenBy_calls projections
  have order : (handover.reader.newWorker handover.here (SliceStack.writtenBy
      (handover.calls projections)).bytes (decide (handover.host = .bigEndianOrder))).fileOrder =
        handover.host := by
    cases handover.host <;> rfl
  have some_bytes : 0 < ArrayBase.longProduct ![handover.dims.v, handover.dims.u] * size :=
    readable.pixels ▸ readable.some_bytes
  refine (AnyFormatReader.delivers_iff readable.sound Nat.one_pos rfl
    (congrArg SliceStack.sliceSize stack).symm order rfl readable.pixels some_bytes
    (congrArg SliceStack.slices stack) readable.restores).trans ?_
  simp only [AnyFormatReader.newWorker, reader, Nat.mul_one]

theorem Done.read_eq (done : handover.Done projections ready) {read : ℕ → Projection}
    (delivers : ready.Delivers handover.format read) {p : ℕ} {projection : Projection}
    (written : projections[p]? = some projection) : read p = projection := by
  obtain ⟨next, before, initialised⟩ := done.initialised
  obtain rfl := (Prod.mk.inj (Option.some.inj (before.initialised.symm.trans initialised))).2
  exact done.readable.delivers_iff.mp delivers p projection written

end Handover

/-- One launch for all files. -/
def wholeOptions : LaunchOptions :=
  { twoPassOptions with outputAttenuationProjectionsFile := false }

/-- A launch for the attenuation projections alone. -/
def firstOptions : LaunchOptions :=
  { twoPassOptions with outputFilteredProjectionsFile := false, outputVolumeFile := false }

/-- The other files, from the attenuation projections. -/
def resumedOptions : LaunchOptions :=
  { wholeOptions with
    inputRawProjectionsFile := false
    inputAttenuationProjectionsFile := true }

/-- Numbers in both of two pixels. The bytes are reversed between the hosts. -/
def numberFormat : PixelFormat ℕ 2 where
  pixels := 2
  encode number _ b := if b.val = 0 then UInt8.ofNat number else 0
  decode memory := (memory 0 (Fin.last 1)).toNat

theorem numberFormat_restores {number : ℕ} (small : number < 256) :
    numberFormat.Restores .littleEndianOrder .bigEndianOrder number := by
  intro memory same
  have first := congrFun (same 0 Nat.two_pos) (Fin.last 1)
  show (memory 0 (Fin.last 1)).toNat = number
  rw [first]
  show (UInt8.ofNat number).toNat = number
  rw [UInt8.toNat_ofNat', Nat.mod_eq_of_lt small]

def numberHandover : Handover ℕ ℤ 2 where
  writeBits := 32
  readBits := 32
  host := .littleEndianOrder
  here := .bigEndianOrder
  elementType := .uint16
  writeSpace := showInteger
  readSpace := lexicalCast 64
  files _ := none
  name := "scan.mhd".toList
  dims := ⟨1, 2⟩
  pixelSize := ⟨25, 25⟩
  origin := ⟨0, 0⟩
  closing := ⟨.success, .success, .success, .success⟩
  format := numberFormat

/-- The images of a runner on numbers. -/
def numberImages (read : ℕ → ℕ) :
    SingleThreaded.Contents ((MultiThreaded.numberStages.reading read).behind 0) where
  rawProjection := (0 : ℕ)
  attenuationProjection := (0 : ℕ)
  filteredProjection := (0 : ℕ)
  reference := (0 : ℕ)
  corrections _ := (0 : ℕ)

/-- The file of three projections, and a reader of it. -/
theorem numberHandover_done :
    ∃ ready, numberHandover.Done [0, 1, 2] ready ∧ ready.Delivers numberFormat id := by
  have restores : ∀ number ∈ [0, 1, 2],
      numberFormat.Restores .littleEndianOrder .bigEndianOrder number := by
    intro number member
    refine numberFormat_restores ?_
    revert number
    decide
  have readable : numberHandover.Readable [0, 1, 2] :=
    ⟨by decide, by decide, .inr (by decide), restores⟩
  have written : ∃ next, numberHandover.Written [0, 1, 2] next :=
    ⟨_, le_rfl, by decide, ⟨by decide, by decide, by decide⟩, rfl, _, rfl, rfl,
      AnyFormatReader.faithful_threeSlicesHeader.legible⟩
  obtain ⟨next, written⟩ := written
  refine ⟨_, ⟨readable, next, written, written.initialised⟩, readable.delivers_iff.mpr ?_⟩
  intro p number found
  match p, found with
  | 0, found => exact Option.some.inj found
  | 1, found => exact Option.some.inj found
  | 2, found => exact Option.some.inj found

end Handover

end Launcher

end AthabascaRecon
