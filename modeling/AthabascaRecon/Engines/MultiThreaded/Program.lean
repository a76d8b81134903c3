import AthabascaRecon.Engines.MultiThreaded.Messages

/-!
# What the main thread does

`ExecuteOnThreads` branches on the configuration and on loop counters only, so
the statements of the main thread that other threads can notice form a list that
the configuration determines: messages sent, IO requests, waits at barriers,
looks at parked exceptions, and what the main thread calculates itself. Where the
list is cut short, it is by an exception.

The blocks of the source are kept apart, in their order. The buffers of a block
are those after the swaps in front of it.
-/

set_option autoImplicit false

namespace AthabascaRecon.MultiThreaded

/-- A statement of the main thread. -/
inductive MainAction where
  | setMessage (t : ℕ) (message : Message)
  | requestIOOperation (request : IORequest)
  | barrierWait (barrier : Barrier)
  | checkException (t : ℕ)
  | setReferenceProjection (projection : ImageSlot)
  | writeCorrection (index : ℕ)
  | waitForCompletion
  | linearFit
  | throwInternalError
  deriving DecidableEq, Repr

/-- The configuration of `MultiThreadedReconstructionRunner`. The slices of the
subvolume of each thread are those the `Subvolumer` gives. -/
structure Config extends RunnerConfig where
  numberOfThreads : ℕ
  subvolumeSlices : ℕ → ℕ
  subvolumeSlices_le : ∀ t, subvolumeSlices t ≤ volumeSlices

/-- The double buffers of every lane. -/
structure Buffers where
  raw : ℕ → DoubleBuffer
  attenuation : ℕ → DoubleBuffer
  filtered : ℕ → DoubleBuffer

namespace Buffers

def initial : Buffers where
  raw _ := .initial
  attenuation _ := .initial
  filtered _ := .initial

def rawLoading (buffers : Buffers) (pp : ℕ) : ImageSlot := ⟨pp, (buffers.raw pp).loading⟩

def rawActive (buffers : Buffers) (pp : ℕ) : ImageSlot := ⟨pp, (buffers.raw pp).active⟩

def attenuationLoading (buffers : Buffers) (pp : ℕ) : ImageSlot :=
  ⟨pp, (buffers.attenuation pp).loading⟩

def attenuationActive (buffers : Buffers) (pp : ℕ) : ImageSlot :=
  ⟨pp, (buffers.attenuation pp).active⟩

def filteredLoading (buffers : Buffers) (pp : ℕ) : ImageSlot :=
  ⟨pp, (buffers.filtered pp).loading⟩

def filteredActive (buffers : Buffers) (pp : ℕ) : ImageSlot :=
  ⟨pp, (buffers.filtered pp).active⟩

end Buffers

/-! ## Loops over threads and lanes -/

/-- Send a message to each of the first threads. -/
def sendEach (count : ℕ) (message : ℕ → Message) : List MainAction :=
  (List.range count).map fun t => .setMessage t (message t)

/-- Request an IO operation for each of the first lanes. -/
def requestEach (count : ℕ) (request : ℕ → IORequest) : List MainAction :=
  (List.range count).map fun pp => .requestIOOperation (request pp)

def checkExceptions (count : ℕ) : List MainAction :=
  (List.range count).map .checkException

/-- `SynchronizeAllAndWait` on the barrier for the main thread and all workers. -/
def synchronizeAllAndWait (numberOfThreads : ℕ) : List MainAction :=
  sendEach numberOfThreads (fun _ => .synchronize .meAndAllWorkers) ++
    [.barrierWait .meAndAllWorkers]

/-- `SynchronizeOneAndWait` on the barrier for the main thread and one worker. -/
def synchronizeOneAndWait (t : ℕ) : List MainAction :=
  [.setMessage t (.synchronize .meAndOneWorker), .barrierWait .meAndOneWorker]

/-- Swap the double buffers of the first lanes. -/
def swapEach (count : ℕ) (group : ℕ → DoubleBuffer) : ℕ → DoubleBuffer :=
  fun pp => if pp < count then (group pp).swap else group pp

/-! ## In front of the loop -/

section Program

variable (config : Config)

/-- `Execute` creates the object of each worker thread. -/
def createThreadWorkers : List MainAction :=
  sendEach config.numberOfThreads fun _ => .createThreadWorker

def createProjectionFilterers : List MainAction :=
  if config.filters then
    if config.build.supports config.filteringModule then
      sendEach config.numberOfThreads fun _ => .createProjectionFilterer
    else [.throwInternalError]
  else []

def createBackProjectors : List MainAction :=
  if config.volumeWriter then
    sendEach config.numberOfThreads (fun _ => .createBackProjector) ++
      sendEach config.numberOfThreads (fun t => .allocateVolume (config.subvolumeSlices t))
  else []

def projectionsPerStep : ℕ :=
  min (if config.filteredProjectionsReader then 1 else config.numberOfThreads)
    config.numberOfProjections

/-- The requests for the first projections go to the images for loading. -/
def initialRequests (buffers : Buffers) : List MainAction :=
  (if config.rawProjectionsReader then
    requestEach (projectionsPerStep config) fun pp => .readRaw (buffers.rawLoading pp)
  else []) ++
  (if config.attenuationProjectionsReader then
    requestEach (projectionsPerStep config) fun pp =>
      .readAttenuation (buffers.attenuationLoading pp)
  else []) ++
  (if config.filteredProjectionsReader then
    requestEach (projectionsPerStep config) fun pp => .readFiltered (buffers.filteredLoading pp)
  else [])

/-! ## The loop body -/

def projectionsThisStep (p : ℕ) : ℕ :=
  min (projectionsPerStep config) (config.numberOfProjections - p)

def projectionsNextStep (p : ℕ) : ℕ :=
  min (projectionsPerStep config) (config.numberOfProjections - p - projectionsPerStep config)

/-- The buffers after all swaps of an iteration. -/
def swapBuffers (buffers : Buffers) : Buffers where
  raw :=
    if config.rawProjectionsReader then swapEach (projectionsPerStep config) buffers.raw
    else buffers.raw
  attenuation :=
    if config.attenuationProjectionsWriter || config.attenuationProjectionsReader then
      swapEach (projectionsPerStep config) buffers.attenuation
    else buffers.attenuation
  filtered :=
    if config.filteredProjectionsWriter || config.filteredProjectionsReader then
      swapEach (projectionsPerStep config) buffers.filtered
    else buffers.filtered

/-- Not until the third iteration is an image that was written out used again. -/
def releaseAttenuation (p : ℕ) (buffers : Buffers) : List MainAction :=
  if config.attenuationProjectionsWriter then
    if projectionsPerStep config < p then
      sendEach (projectionsThisStep config p) fun pp =>
        .waitForBufferRelease (.attenuation (buffers.attenuationActive pp))
    else []
  else []

/-- The main thread waits for the first group before it sets the reference. -/
def correctBeamPowers (p : ℕ) (buffers : Buffers) : List MainAction :=
  if config.beamPowerCorrector then
    (if p = 0 then
      synchronizeAllAndWait config.numberOfThreads ++
        [.setReferenceProjection (buffers.attenuationActive 0)]
    else []) ++
    sendEach (projectionsThisStep config p) fun pp =>
      .correctBeamPower (p + pp) (buffers.attenuationActive pp)
  else []

def processRaw (p : ℕ) (buffers : Buffers) : List MainAction :=
  if config.rawProjectionsReader then
    requestEach (projectionsNextStep config p) (fun pp => .readRaw (buffers.rawLoading pp)) ++
      sendEach (projectionsThisStep config p)
        (fun pp => .waitForBufferRelease (.raw (buffers.rawActive pp))) ++
      sendEach (projectionsThisStep config p)
        (fun pp => .convertToAttenuation (buffers.rawActive pp) (buffers.attenuationActive pp)) ++
      (if config.badPixelCorrector then
        sendEach (projectionsThisStep config p) fun pp =>
          .correctBadPixels (buffers.attenuationActive pp)
      else []) ++
      correctBeamPowers config p buffers
  else []

def readAttenuation (p : ℕ) (buffers : Buffers) : List MainAction :=
  if config.attenuationProjectionsReader then
    requestEach (projectionsNextStep config p)
        (fun pp => .readAttenuation (buffers.attenuationLoading pp)) ++
      sendEach (projectionsThisStep config p) fun pp =>
        .waitForBufferRelease (.attenuation (buffers.attenuationActive pp))
  else []

def releaseFiltered (p : ℕ) (buffers : Buffers) : List MainAction :=
  if config.filteredProjectionsWriter then
    if projectionsPerStep config < p then
      sendEach (projectionsThisStep config p) fun pp =>
        .waitForBufferRelease (.filtered (buffers.filteredActive pp))
    else []
  else []

def filterProjections (p : ℕ) (buffers : Buffers) : List MainAction :=
  if config.filteredProjectionsReader then
    requestEach (projectionsNextStep config p)
        (fun pp => .readFiltered (buffers.filteredLoading pp)) ++
      sendEach (projectionsThisStep config p) fun pp =>
        .waitForBufferRelease (.filtered (buffers.filteredActive pp))
  else if config.filteredProjectionsWriter || config.volumeWriter then
    sendEach (projectionsThisStep config p) fun pp =>
      .filterProjection (buffers.attenuationActive pp) (buffers.filteredActive pp)
  else []

/-- All filtered projections of the group are ready, or an exception is thrown. -/
def synchronizeAndCheck (p : ℕ) : List MainAction :=
  synchronizeAllAndWait config.numberOfThreads ++ checkExceptions (projectionsThisStep config p)

def writeProjections (p : ℕ) (buffers : Buffers) : List MainAction :=
  (if config.attenuationCorrectionsFile then
    (List.range (projectionsThisStep config p)).map fun pp => .writeCorrection (p + pp)
  else []) ++
  (if config.attenuationProjectionsWriter then
    requestEach (projectionsThisStep config p) fun pp =>
      .writeAttenuation (buffers.attenuationActive pp)
  else []) ++
  (if config.filteredProjectionsWriter then
    requestEach (projectionsThisStep config p) fun pp =>
      .writeFiltered (buffers.filteredActive pp)
  else [])

/-- Every projection has to be applied to the subvolume of every thread. -/
def backProject (p : ℕ) (buffers : Buffers) : List MainAction :=
  if config.volumeWriter then
    ((List.range (projectionsThisStep config p)).flatMap fun pp =>
      if config.skipsBackProjection (p + pp) then []
      else
        sendEach config.numberOfThreads fun _ =>
          .applyProjection (buffers.filteredActive pp) (p + pp)) ++
    synchronizeAndCheck config p
  else []

/-- One iteration of the loop, with the buffers swapped. -/
def projectionGroup (p : ℕ) (buffers : Buffers) : List MainAction :=
  releaseAttenuation config p buffers ++ processRaw config p buffers ++
    readAttenuation config p buffers ++ releaseFiltered config p buffers ++
    filterProjections config p buffers ++ synchronizeAndCheck config p ++
    writeProjections config p buffers ++ backProject config p buffers

/-- The loop over the projection groups. The first argument bounds the number of
iterations. -/
def executionLoop : ℕ → ℕ → Buffers → List MainAction
  | 0, _, _ => []
  | bound + 1, p, buffers =>
      if p < config.numberOfProjections then
        projectionGroup config p (swapBuffers config buffers) ++
          executionLoop bound (p + projectionsPerStep config) (swapBuffers config buffers)
      else []

/-! ## Behind the loop -/

def writeVolume : List MainAction :=
  if config.volumeWriter then
    (List.range config.numberOfThreads).flatMap fun t =>
      .setMessage t .writeVolumeData :: synchronizeOneAndWait t
  else []

def fitCorrections : List MainAction :=
  if config.attenuationCorrectionsFile then [.linearFit] else []

def executeOnThreads : List MainAction :=
  createProjectionFilterers config ++ createBackProjectors config ++
    initialRequests config .initial ++
    executionLoop config config.numberOfProjections 0 .initial ++
    [.waitForCompletion] ++ writeVolume config ++ fitCorrections config ++
    synchronizeAllAndWait config.numberOfThreads

/-- The statements of `Execute`. -/
def execute : List MainAction :=
  createThreadWorkers config ++ executeOnThreads config

end Program

end AthabascaRecon.MultiThreaded
