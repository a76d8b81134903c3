import AthabascaRecon.Engines.ReconstructionRunner
import AthabascaRecon.Foundation.Footprint
import AthabascaRecon.IO.AsynchronousIOProcessor

/-!
# Messages and IO requests on the shared memory

The main thread sends messages to the worker threads and requests to the IO
processor. What they work on is shared: the images of the double buffers, the
array of corrections, the beam power corrector, the objects of each worker
thread, the position of the projections reader and the files written.

A message executed by a worker thread, and an IO operation, is a command on this
memory, so that its footprint is part of its definition (`performMessage`,
`performRequest`).
-/

set_option autoImplicit false

namespace AthabascaRecon.MultiThreaded

open Foundation.Concurrency

/-! ## Buffers -/

/-- The two images `m_A` and `m_B` of a double buffer. -/
inductive Side where
  | a
  | b
  deriving DecidableEq, Repr

/-- The pointers of a double buffer. -/
structure DoubleBuffer where
  loading : Side
  active : Side
  deriving DecidableEq, Repr

namespace DoubleBuffer

def initial : DoubleBuffer := ⟨.a, .b⟩

def swap (buffer : DoubleBuffer) : DoubleBuffer := ⟨buffer.active, buffer.loading⟩

end DoubleBuffer

/-- One image of the double buffer of one lane: the `pp` of the source. -/
structure ImageSlot where
  lane : ℕ
  side : Side
  deriving DecidableEq, Repr

/-- The images of `raw_projections`, `attenuation_projections` and
`filtered_projections`. -/
inductive Buffer where
  | raw (slot : ImageSlot)
  | attenuation (slot : ImageSlot)
  | filtered (slot : ImageSlot)
  deriving DecidableEq, Repr

/-- The group of double buffers an image belongs to. -/
inductive BufferKind where
  | raw
  | attenuation
  | filtered
  deriving DecidableEq, Repr

namespace Buffer

def kind : Buffer → BufferKind
  | .raw _ => .raw
  | .attenuation _ => .attenuation
  | .filtered _ => .filtered

def slot : Buffer → ImageSlot
  | .raw slot => slot
  | .attenuation slot => slot
  | .filtered slot => slot

def lane (buffer : Buffer) : ℕ := buffer.slot.lane

def side (buffer : Buffer) : Side := buffer.slot.side

end Buffer

/-! ## IO requests -/

/-- An IO object with an image to read into or to write out. -/
inductive IORequest where
  | readRaw (slot : ImageSlot)
  | readAttenuation (slot : ImageSlot)
  | readFiltered (slot : ImageSlot)
  | writeAttenuation (slot : ImageSlot)
  | writeFiltered (slot : ImageSlot)
  deriving DecidableEq, Repr

namespace IORequest

def image : IORequest → Buffer
  | .readRaw slot => .raw slot
  | .readAttenuation slot => .attenuation slot
  | .readFiltered slot => .filtered slot
  | .writeAttenuation slot => .attenuation slot
  | .writeFiltered slot => .filtered slot

/-- Requests to a projections reader change the image. -/
def isRead : IORequest → Bool
  | .readRaw _ => true
  | .readAttenuation _ => true
  | .readFiltered _ => true
  | .writeAttenuation _ => false
  | .writeFiltered _ => false

end IORequest

/-! ## Messages -/

inductive Barrier where
  | meAndAllWorkers
  | meAndOneWorker
  deriving DecidableEq, Repr

/-- The messages of `ReconstructionMessages` with what they refer to, and
`SynchronizeMessage`. -/
inductive Message where
  | createThreadWorker
  | createProjectionFilterer
  | createBackProjector
  | allocateVolume (slices : ℕ)
  | waitForBufferRelease (data : Buffer)
  | convertToAttenuation (rawProjection attenuationProjection : ImageSlot)
  | correctBadPixels (projection : ImageSlot)
  | correctBeamPower (index : ℕ) (projection : ImageSlot)
  | filterProjection (attenuationProjection filteredProjection : ImageSlot)
  | applyProjection (projection : ImageSlot) (index : ℕ)
  | writeVolumeData
  | synchronize (barrier : Barrier)
  deriving DecidableEq, Repr

namespace Message

/-- The images a message reads, those it changes included. -/
def images : Message → List Buffer
  | .convertToAttenuation raw attenuation => [.raw raw, .attenuation attenuation]
  | .correctBadPixels projection => [.attenuation projection]
  | .correctBeamPower _ projection => [.attenuation projection]
  | .filterProjection attenuation filtered => [.attenuation attenuation, .filtered filtered]
  | .applyProjection projection _ => [.filtered projection]
  | _ => []

/-- The images a message changes. -/
def changedImages : Message → List Buffer
  | .convertToAttenuation _ attenuation => [.attenuation attenuation]
  | .correctBadPixels projection => [.attenuation projection]
  | .correctBeamPower _ projection => [.attenuation projection]
  | .filterProjection _ filtered => [.filtered filtered]
  | _ => []

end Message

/-! ## The shared memory -/

/-- `ReconstructionThreadWorker`: the objects that belong to a worker thread. -/
structure ThreadWorker (stages : Stages) where
  projectionFilterer : Bool := false
  backProjector : Option (BackProjector stages.Projection stages.Space) := none

namespace ThreadWorker

variable {stages : Stages}

def allocateVolume (slices : ℕ) (worker : ThreadWorker stages) : ThreadWorker stages :=
  { worker with backProjector := worker.backProjector.map (BackProjector.allocateVolume slices) }

def applyProjection (proj : stages.Projection) (angle : stages.Space)
    (worker : ThreadWorker stages) : ThreadWorker stages :=
  { worker with
    backProjector := worker.backProjector.map (BackProjector.applyProjection proj angle) }

def writeVolumeData (worker : ThreadWorker stages) :
    List (List (stages.Projection × stages.Space)) :=
  worker.backProjector.elim [] BackProjector.writeVolumeData

/-- The projections and angles applied to the subvolume of the worker thread. -/
def applied (worker : ThreadWorker stages) : List (stages.Projection × stages.Space) :=
  worker.backProjector.elim [] BackProjector.applied

end ThreadWorker

/-- What the threads share. -/
inductive Location where
  | image (buffer : Buffer)
  | correction (index : ℕ)
  | beamPowerCorrector
  | projectionsReader
  | threadWorker (t : ℕ)
  | attenuationProjectionsWriter
  | filteredProjectionsWriter
  | attenuationCorrectionsFile
  | volumeWriter
  deriving DecidableEq

/-- The value at a location. The reader holds the number of projections read, and
a writer holds all that was written. -/
def Val (stages : Stages) : Location → Type
  | .image (.raw _) => stages.RawProjection
  | .image (.attenuation _) => stages.Projection
  | .image (.filtered _) => stages.Projection
  | .correction _ => stages.Correction
  | .beamPowerCorrector => stages.Reference
  | .projectionsReader => ℕ
  | .threadWorker _ => Option (ThreadWorker stages)
  | .attenuationProjectionsWriter => List stages.Projection
  | .filteredProjectionsWriter => List stages.Projection
  | .attenuationCorrectionsFile => List stages.Correction
  | .volumeWriter => List (List (stages.Projection × stages.Space))

/-- The images and arrays when the runner begins. They may hold anything. -/
structure Contents (stages : Stages) where
  raw : ImageSlot → stages.RawProjection
  attenuation : ImageSlot → stages.Projection
  filtered : ImageSlot → stages.Projection
  correction : ℕ → stages.Correction
  reference : stages.Reference

/-- The memory when the runner begins: readers rewound and nothing written. -/
def Contents.heap {stages : Stages} (contents : Contents stages) : Heap (Val stages)
  | .image (.raw slot) => contents.raw slot
  | .image (.attenuation slot) => contents.attenuation slot
  | .image (.filtered slot) => contents.filtered slot
  | .correction index => contents.correction index
  | .beamPowerCorrector => contents.reference
  | .projectionsReader => (0 : ℕ)
  | .threadWorker _ => none
  | .attenuationProjectionsWriter => []
  | .filteredProjectionsWriter => []
  | .attenuationCorrectionsFile => []
  | .volumeWriter => []

section Accessors

variable {stages : Stages} (heap : Heap (Val stages))

def rawImage (slot : ImageSlot) : stages.RawProjection := heap (.image (.raw slot))

def attenuationImage (slot : ImageSlot) : stages.Projection := heap (.image (.attenuation slot))

def filteredImage (slot : ImageSlot) : stages.Projection := heap (.image (.filtered slot))

def correctionAt (index : ℕ) : stages.Correction := heap (.correction index)

def referenceKept : stages.Reference := heap .beamPowerCorrector

def projectionsRead : ℕ := heap .projectionsReader

def threadWorker (t : ℕ) : Option (ThreadWorker stages) := heap (.threadWorker t)

def attenuationSlices : List stages.Projection := heap .attenuationProjectionsWriter

def filteredSlices : List stages.Projection := heap .filteredProjectionsWriter

def correctionLines : List stages.Correction := heap .attenuationCorrectionsFile

def volumeStacks : List (List (stages.Projection × stages.Space)) := heap .volumeWriter

/-- The projections and angles applied to the subvolume of a worker thread. -/
def appliedBy (t : ℕ) : List (stages.Projection × stages.Space) :=
  (threadWorker heap t).elim [] ThreadWorker.applied

end Accessors

/-! ## What messages and IO operations do -/

section Perform

variable (stages : Stages)

/-- Write one location of the shared memory. -/
def assign (target : Location) (sources : List Location)
    (value : Heap (Val stages) → Val stages target)
    (stable : ∀ heap heap' : Heap (Val stages),
      (∀ location ∈ sources, heap location = heap' location) →
        heap target = heap' target → value heap = value heap') : Command (Val stages) :=
  Command.assign target sources value stable

variable {stages} in
@[simp] theorem assign_run_self (target : Location) (sources : List Location)
    (value : Heap (Val stages) → Val stages target)
    (stable : ∀ heap heap' : Heap (Val stages),
      (∀ location ∈ sources, heap location = heap' location) →
        heap target = heap' target → value heap = value heap') (heap : Heap (Val stages)) :
    (assign stages target sources value stable).run heap target = value heap :=
  Function.update_self ..

/-- Change the objects of a worker thread, if they were created. -/
def changeThreadWorker (t : ℕ) (change : ThreadWorker stages → ThreadWorker stages) :
    Command (Val stages) :=
  assign stages (.threadWorker t) [] (fun heap => (threadWorker heap t).map change)
    fun _ _ _ same => congrArg (Option.map change) same

variable {stages} in
theorem changeThreadWorker_run_self (t : ℕ) (change : ThreadWorker stages → ThreadWorker stages)
    (heap : Heap (Val stages)) :
    threadWorker ((changeThreadWorker stages t change).run heap) t =
      (threadWorker heap t).map change :=
  assign_run_self ..

/-- `CorrectBeamPowerMessage::Execute`: the correction is calculated from the image
before the image is shifted by it. -/
def correctBeamPower (index : ℕ) (slot : ImageSlot) : Command (Val stages) :=
  (assign stages (.correction index) [.beamPowerCorrector, .image (.attenuation slot)]
    (fun heap =>
      (stages.correctBeamPower (referenceKept heap) index (attenuationImage heap slot)).2)
    fun _ _ listed _ => congrArg₂
      (fun reference image => (stages.correctBeamPower reference index image).2)
      (listed _ List.mem_cons_self)
      (listed _ (List.mem_cons_of_mem _ List.mem_cons_self))).andThen
  (assign stages (.image (.attenuation slot)) [.beamPowerCorrector]
    (fun heap =>
      (stages.correctBeamPower (referenceKept heap) index (attenuationImage heap slot)).1)
    fun _ _ listed same => congrArg₂
      (fun reference image => (stages.correctBeamPower reference index image).1)
      (listed _ List.mem_cons_self) same)

/-- The volume of a worker thread with one more projection applied. -/
def applyProjection (t : ℕ) (slot : ImageSlot) (index : ℕ) : Command (Val stages) :=
  assign stages (.threadWorker t) [.image (.filtered slot)]
    (fun heap => (threadWorker heap t).map
      (ThreadWorker.applyProjection (filteredImage heap slot) (stages.angle index)))
    fun _ _ listed same => congrArg₂
      (fun (image : stages.Projection) (object : Option (ThreadWorker stages)) =>
        object.map (ThreadWorker.applyProjection image (stages.angle index)))
      (listed _ List.mem_cons_self) same

/-- The volume of a worker thread goes to the volume writer. -/
def writeVolumeData (t : ℕ) : Command (Val stages) :=
  assign stages .volumeWriter [.threadWorker t]
    (fun heap => volumeStacks heap ++ (threadWorker heap t).elim [] ThreadWorker.writeVolumeData)
    fun _ _ listed same => congrArg₂
      (fun (written : List (List (stages.Projection × stages.Space)))
          (object : Option (ThreadWorker stages)) =>
        written ++ object.elim [] ThreadWorker.writeVolumeData)
      same (listed _ List.mem_cons_self)

/-- What the message does when a worker thread executes it. Waiting and
synchronizing change no location. -/
def performMessage (t : ℕ) : Message → Command (Val stages)
  | .createThreadWorker =>
      assign stages (.threadWorker t) [] (fun _ => some ({} : ThreadWorker stages))
        fun _ _ _ _ => rfl
  | .createProjectionFilterer =>
      changeThreadWorker stages t fun worker => { worker with projectionFilterer := true }
  | .createBackProjector =>
      changeThreadWorker stages t fun worker => { worker with backProjector := some {} }
  | .allocateVolume slices =>
      changeThreadWorker stages t (ThreadWorker.allocateVolume slices)
  | .waitForBufferRelease _ => Command.skip
  | .convertToAttenuation raw attenuation =>
      assign stages (.image (.attenuation attenuation)) [.image (.raw raw)]
        (fun heap => stages.processProjection (rawImage heap raw))
        fun _ _ listed _ => congrArg stages.processProjection (listed _ List.mem_cons_self)
  | .correctBadPixels projection =>
      assign stages (.image (.attenuation projection)) []
        (fun heap => stages.correctBadPixels (attenuationImage heap projection))
        fun _ _ _ same => congrArg stages.correctBadPixels same
  | .correctBeamPower index projection => correctBeamPower stages index projection
  | .filterProjection attenuation filtered =>
      assign stages (.image (.filtered filtered)) [.image (.attenuation attenuation)]
        (fun heap => stages.filterProjection (attenuationImage heap attenuation))
        fun _ _ listed _ => congrArg stages.filterProjection (listed _ List.mem_cons_self)
  | .applyProjection projection index => applyProjection stages t projection index
  | .writeVolumeData => writeVolumeData stages t
  | .synchronize _ => Command.skip

variable {stages} in
/-- What is left of the objects of a worker thread by the messages that change them. -/
theorem threadWorker_performMessage (t : ℕ) (heap : Heap (Val stages)) (message : Message) :
    threadWorker ((performMessage stages t message).run heap) t =
      match message with
      | .createThreadWorker => some {}
      | .createProjectionFilterer =>
          (threadWorker heap t).map fun worker => { worker with projectionFilterer := true }
      | .createBackProjector =>
          (threadWorker heap t).map fun worker => { worker with backProjector := some {} }
      | .allocateVolume slices => (threadWorker heap t).map (ThreadWorker.allocateVolume slices)
      | .applyProjection projection index =>
          (threadWorker heap t).map
            (ThreadWorker.applyProjection (filteredImage heap projection) (stages.angle index))
      | _ => threadWorker heap t := by
  have kept : Location.threadWorker t ∉ (performMessage stages t message).writes →
      threadWorker ((performMessage stages t message).run heap) t = threadWorker heap t :=
    Command.frame _ _ _
  cases message with
  | createThreadWorker => exact assign_run_self ..
  | createProjectionFilterer => exact changeThreadWorker_run_self ..
  | createBackProjector => exact changeThreadWorker_run_self ..
  | allocateVolume slices => exact changeThreadWorker_run_self ..
  | applyProjection projection index => exact Function.update_self _ _ _
  | _ =>
      refine kept ?_
      simp [performMessage, assign, Command.assign, Command.skip, correctBeamPower,
        Command.andThen, writeVolumeData]

variable {stages} in
/-- The objects a message asserts to be there. Otherwise it throws. -/
def ready (heap : Heap (Val stages)) (t : ℕ) : Message → Bool
  | .createProjectionFilterer => (threadWorker heap t).isSome
  | .createBackProjector => (threadWorker heap t).isSome
  | .allocateVolume _ =>
      ((threadWorker heap t).bind ThreadWorker.backProjector).any BackProjector.canAllocateVolume
  | .filterProjection _ _ => (threadWorker heap t).any ThreadWorker.projectionFilterer
  | .applyProjection _ _ => ((threadWorker heap t).bind ThreadWorker.backProjector).isSome
  | .writeVolumeData => ((threadWorker heap t).bind ThreadWorker.backProjector).isSome
  | _ => true

/-- `GetNextProjection` moves the reader to the next projection. -/
def nextProjection : Command (Val stages) :=
  assign stages .projectionsReader [] (fun heap => projectionsRead heap + 1)
    fun _ _ _ same => congrArg (· + 1) same

/-- The operation the IO processor executes for a request. -/
def performRequest : IORequest → Command (Val stages)
  | .readRaw slot =>
      (assign stages (.image (.raw slot)) [.projectionsReader]
        (fun heap => stages.readRaw (projectionsRead heap))
        fun _ _ listed _ => congrArg stages.readRaw (listed _ List.mem_cons_self)).andThen
      (nextProjection stages)
  | .readAttenuation slot =>
      (assign stages (.image (.attenuation slot)) [.projectionsReader]
        (fun heap => stages.readAttenuation (projectionsRead heap))
        fun _ _ listed _ => congrArg stages.readAttenuation (listed _ List.mem_cons_self)).andThen
      (nextProjection stages)
  | .readFiltered slot =>
      (assign stages (.image (.filtered slot)) [.projectionsReader]
        (fun heap => stages.readFiltered (projectionsRead heap))
        fun _ _ listed _ => congrArg stages.readFiltered (listed _ List.mem_cons_self)).andThen
      (nextProjection stages)
  | .writeAttenuation slot =>
      assign stages .attenuationProjectionsWriter [.image (.attenuation slot)]
        (fun heap => attenuationSlices heap ++ [attenuationImage heap slot])
        fun _ _ listed same => congrArg₂
          (fun (slices : List stages.Projection) image => slices ++ [image])
          same (listed _ List.mem_cons_self)
  | .writeFiltered slot =>
      assign stages .filteredProjectionsWriter [.image (.filtered slot)]
        (fun heap => filteredSlices heap ++ [filteredImage heap slot])
        fun _ _ listed same => congrArg₂
          (fun (slices : List stages.Projection) image => slices ++ [image])
          same (listed _ List.mem_cons_self)

/-- `SetReferenceProjection`, which the main thread calls itself. -/
def performSetReferenceProjection (slot : ImageSlot) : Command (Val stages) :=
  assign stages .beamPowerCorrector [.image (.attenuation slot)]
    (fun heap => stages.setReferenceProjection (referenceKept heap) (attenuationImage heap slot))
    fun _ _ listed same => congrArg₂ stages.setReferenceProjection
      same (listed _ List.mem_cons_self)

/-- The main thread sends a correction to the corrections file. -/
def performWriteCorrection (index : ℕ) : Command (Val stages) :=
  assign stages .attenuationCorrectionsFile [.correction index]
    (fun heap => correctionLines heap ++ [correctionAt heap index])
    fun _ _ listed same => congrArg₂
      (fun (lines : List stages.Correction) correction => lines ++ [correction])
      same (listed _ List.mem_cons_self)

end Perform

end AthabascaRecon.MultiThreaded
