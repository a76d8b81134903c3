import AthabascaRecon.Engines.MultiThreaded.InOrder
import AthabascaRecon.Engines.SingleThreadedReconstructionRunner

/-!
# What a group of projections calculates

In the order of issue, an iteration of the execution loop reads the next group
while it takes the current one through the stages (`Ahead`). Behind its barrier the
active images hold what the calculation says of each projection of the group
(`Prepared`). Then the group is written out and back-projected, and the files and
the volumes are those of the single-threaded runner after the same projections
(`Computed`).
-/

set_option autoImplicit false

namespace AthabascaRecon.MultiThreaded

open Foundation.Concurrency

variable {stages : Stages} {config : Config} {contents : Contents stages} {k : ℕ}
  {buffers : Buffers} {heap : Heap (Val stages)}

/-! ## The projections of a group -/

/-- The number of projections in front of group `k`. -/
def groupStart (config : Config) (k : ℕ) : ℕ :=
  min config.numberOfProjections (k * projectionsPerStep config)

/-- The number of projections of group `k`. There are none behind the last one. -/
def groupSize (config : Config) (k : ℕ) : ℕ :=
  projectionsThisStep config (k * projectionsPerStep config)

theorem groupStart_eq (more : k * projectionsPerStep config < config.numberOfProjections) :
    groupStart config k = k * projectionsPerStep config :=
  min_eq_right more.le

@[simp] theorem groupStart_zero : groupStart config 0 = 0 := by
  simp [groupStart]

theorem groupStart_succ (k : ℕ) :
    groupStart config (k + 1) = groupStart config k + groupSize config k := by
  unfold groupStart groupSize projectionsThisStep
  rw [Nat.succ_mul]
  omega

theorem groupSize_le (k : ℕ) : groupSize config k ≤ projectionsPerStep config :=
  projectionsThisStep_le _

theorem projectionsNextStep_eq_groupSize (k : ℕ) :
    projectionsNextStep config (k * projectionsPerStep config) = groupSize config (k + 1) := by
  rw [projectionsNextStep_eq, ← Nat.succ_mul]
  rfl

/-- A projection of a group is worked on in the lane of its place in the group. -/
theorem group_mod {pp : ℕ} (below : pp < groupSize config k) :
    (k * projectionsPerStep config + pp) % projectionsPerStep config = pp := by
  rw [Nat.mul_comm, Nat.mul_add_mod, Nat.mod_eq_of_lt (below.trans_le (groupSize_le k))]

/-! ## Reading ahead -/

/-- There is a reader for images of the kind. -/
def Config.reads (config : Config) : BufferKind → Bool
  | .raw => config.rawProjectionsReader
  | .attenuation => config.attenuationProjectionsReader
  | .filtered => config.filteredProjectionsReader

/-- There is one reader. -/
theorem onlyReader (accepted : config.Accepted) {kind : BufferKind}
    (present : config.reads kind = true) (other : BufferKind)
    (read : config.reads other = true) : other = kind := by
  rcases accepted.readers with ⟨raw, attenuation, filtered⟩ | ⟨raw, attenuation, filtered⟩ |
    ⟨raw, attenuation, filtered⟩ <;>
    cases kind <;> cases other <;>
      simp [Config.reads, raw, attenuation, filtered] at present read ⊢

/-- The statement leaves the reader and the images read ahead alone. -/
def MainAction.LeavesAhead (config : Config) : MainAction → Prop
  | .setMessage _ message => ∀ buffer ∈ message.changedImages, config.reads buffer.kind = false
  | .requestIOOperation request => request.isRead = false
  | _ => True

/-- Group `k` was read. -/
structure Ahead (config : Config) (k : ℕ) (heap : Heap (Val stages)) : Prop where
  position : projectionsRead heap = groupStart config (k + 1)
  images : ∀ kind, config.reads kind = true → ∀ pp < groupSize config k,
    heap (.image (kind.buffer ⟨pp, sideOf k⟩)) =
      deliver stages (groupStart config k + pp) (kind.buffer ⟨pp, sideOf k⟩)

/-- What a statement that leaves the images read ahead alone does not write. -/
theorem MainAction.LeavesAhead.unwritten {action : MainAction} (leaves : action.LeavesAhead config)
    {location : Location} (written : location ∈ (action.command stages).writes) :
    location ≠ .projectionsReader ∧
      ∀ buffer, location = .image buffer → config.reads buffer.kind = false := by
  cases action with
  | setMessage t message =>
      rcases mem_writes_performMessage stages written with
        ⟨buffer, changed, rfl⟩ | rfl | ⟨index, projection, -, rfl⟩ | ⟨-, rfl⟩
      · refine ⟨by simp, ?_⟩
        intro other same
        obtain rfl := Location.image.inj same
        exact leaves buffer changed
      · simp
      · simp
      · simp
  | requestIOOperation request =>
      cases request with
      | writeAttenuation slot =>
          obtain rfl : location = .attenuationProjectionsWriter := by
            simpa [MainAction.command, performRequest, assign, Command.assign] using written
          simp
      | writeFiltered slot =>
          obtain rfl : location = .filteredProjectionsWriter := by
            simpa [MainAction.command, performRequest, assign, Command.assign] using written
          simp
      | _ => cases leaves
  | setReferenceProjection slot =>
      obtain rfl : location = .beamPowerCorrector := by
        simpa [MainAction.command, performSetReferenceProjection, assign, Command.assign]
          using written
      simp
  | writeCorrection index =>
      obtain rfl : location = .attenuationCorrectionsFile := by
        simpa [MainAction.command, performWriteCorrection, assign, Command.assign] using written
      simp
  | _ => exact absurd written List.not_mem_nil

/-- The images read ahead outlast other statements. -/
theorem Ahead.perform (ahead : Ahead config k heap) {actions : List MainAction}
    (leaves : ∀ action ∈ actions, action.LeavesAhead config) :
    Ahead config k (perform actions heap) where
  position := by
    refine Eq.trans (perform_frame ?_ heap) ahead.position
    intro action member written
    exact ((leaves action member).unwritten written).1 rfl
  images kind present pp below := by
    refine Eq.trans (perform_frame ?_ heap) (ahead.images kind present pp below)
    intro action member written
    have unread := ((leaves action member).unwritten written).2 _ rfl
    rw [BufferKind.buffer_kind, present] at unread
    cases unread

/-- Reading a group from the position in front of it. -/
theorem ahead_of_read (accepted : config.Accepted) (kind : BufferKind)
    (present : config.reads kind = true) (request : ℕ → IORequest)
    (isRead : ∀ pp, (request pp).isRead = true)
    (image : ∀ pp < groupSize config k, (request pp).image = kind.buffer ⟨pp, sideOf k⟩)
    (position : projectionsRead heap = groupStart config k) :
    Ahead config k (perform (requestEach (groupSize config k) request) heap) := by
  have lane : ∀ pp < groupSize config k, (request pp).image.lane = pp := by
    intro pp below
    rw [image pp below, BufferKind.buffer_lane]
  obtain ⟨images, after⟩ := perform_reads isRead lane heap
  refine ⟨?_, ?_⟩
  · rw [after, position, ← groupStart_succ]
  · intro other otherPresent pp below
    obtain rfl := onlyReader accepted present other otherPresent
    have filled := images pp below
    rw [image pp below, position] at filled
    exact filled

/-- The read requests of an iteration read the next group. They leave the images of this
one alone, and everything but the reader and images. -/
theorem Ahead.readNext (ahead : Ahead config k heap) (accepted : config.Accepted)
    (kind : BufferKind) (present : config.reads kind = true) (request : ℕ → IORequest)
    (isRead : ∀ pp, (request pp).isRead = true)
    (image : ∀ pp < groupSize config (k + 1),
      (request pp).image = kind.buffer ⟨pp, sideOf (k + 1)⟩)
    {read : Heap (Val stages)}
    (result : read = MultiThreaded.perform (requestEach (groupSize config (k + 1)) request) heap) :
    Ahead config (k + 1) read ∧
      (∀ pp < groupSize config k, read (.image (kind.buffer ⟨pp, sideOf k⟩)) =
        deliver stages (groupStart config k + pp) (kind.buffer ⟨pp, sideOf k⟩)) ∧
      ∀ location, location ≠ .projectionsReader → (∀ buffer, location ≠ .image buffer) →
        read location = heap location := by
  have kept : ∀ location, location ≠ .projectionsReader →
      (∀ pp < groupSize config (k + 1), location ≠ .image (request pp).image) →
        read location = heap location := by
    intro location notReader other
    rw [result]
    refine perform_frame (forall_mem_requestEach fun pp below => ?_) heap
    intro written
    rcases performRequest_writes_read (isRead pp) written with same | same
    · exact other pp below same
    · exact notReader same
  refine ⟨?_, ?_, ?_⟩
  · rw [result]
    exact ahead_of_read accepted kind present request isRead image ahead.position
  · intro pp below
    refine (kept (.image (kind.buffer ⟨pp, sideOf k⟩)) (by simp) fun pp' below' same => ?_).trans
      (ahead.images kind present pp below)
    have sides := congrArg Buffer.side (Location.image.inj same)
    rw [image pp' below', BufferKind.buffer_side, BufferKind.buffer_side] at sides
    exact sideOf_succ_ne k sides.symm
  · intro location notReader notImage
    exact kept location notReader fun pp _ => notImage _

/-! ## The stages of a group -/

/-- The objects of a worker thread when the first projections are back-projected. -/
def objectsOf (config : Config) (calculation : Calculation stages) (t count : ℕ) :
    ThreadWorker stages where
  projectionFilterer := config.filters
  backProjector :=
    if config.volumeWriter then
      some { volume :=
        if config.subvolumeSlices t = 0 then none else some (calculation.applied count) }
    else none

/-- What the calculation is to give for this configuration. -/
def Config.calculation (config : Config) (contents : Contents stages) : Calculation stages where
  config := config.toRunnerConfig
  initialReference := contents.reference

@[simp] theorem Config.calculation_config (config : Config) (contents : Contents stages) :
    (config.calculation contents).config = config.toRunnerConfig := rfl

/-- The memory in front of group `k`. -/
structure Computed (config : Config) (contents : Contents stages) (k : ℕ)
    (heap : Heap (Val stages)) : Prop where
  corrections : correctionLines heap =
    (config.calculation contents).correctionsFile (groupStart config k)
  attenuation : attenuationSlices heap =
    (config.calculation contents).attenuationSlices (groupStart config k)
  filtered : filteredSlices heap =
    (config.calculation contents).filteredSlices (groupStart config k)
  workers : ∀ t < config.numberOfThreads, threadWorker heap t =
    some (objectsOf config (config.calculation contents) t (groupStart config k))
  volumes : volumeStacks heap = []
  reference : config.rawProjectionsReader = true → config.beamPowerCorrector = true →
    referenceKept heap =
      if k = 0 then contents.reference else (config.calculation contents).reference
  ahead : Ahead config k heap

/-- The memory behind the barrier of group `k`. -/
structure Prepared (config : Config) (contents : Contents stages) (k : ℕ) (buffers : Buffers)
    (heap : Heap (Val stages)) : Prop where
  correction : config.rawProjectionsReader = true → config.beamPowerCorrector = true →
    ∀ pp < groupSize config k, correctionAt heap (groupStart config k + pp) =
      (config.calculation contents).correction (groupStart config k + pp)
  attenuation : config.filteredProjectionsReader = false → ∀ pp < groupSize config k,
    attenuationImage heap (buffers.attenuationActive pp) =
      (config.calculation contents).attenuation (groupStart config k + pp)
  filtered : (config.filteredProjectionsReader || config.filteredProjectionsWriter ||
      config.volumeWriter) = true → ∀ pp < groupSize config k,
    filteredImage heap (buffers.filteredActive pp) =
      (config.calculation contents).filtered (groupStart config k + pp)
  reference : config.rawProjectionsReader = true → config.beamPowerCorrector = true →
    referenceKept heap = (config.calculation contents).reference
  ahead : Ahead config (k + 1) heap

theorem Buffers.rawActive_lane (buffers : Buffers) (pp : ℕ) :
    (buffers.rawActive pp).lane = pp := rfl

theorem Buffers.attenuationActive_lane (buffers : Buffers) (pp : ℕ) :
    (buffers.attenuationActive pp).lane = pp := rfl

theorem Buffers.filteredActive_lane (buffers : Buffers) (pp : ℕ) :
    (buffers.filteredActive pp).lane = pp := rfl

/-! ### Raw projections -/

section Raw

/-- The statements that convert a group and correct its bad pixels. -/
def convertGroup (config : Config) (p : ℕ) (buffers : Buffers) : List MainAction :=
  sendEach (projectionsThisStep config p)
      (fun pp => .convertToAttenuation (buffers.rawActive pp) (buffers.attenuationActive pp)) ++
    (if config.badPixelCorrector then
      sendEach (projectionsThisStep config p) fun pp =>
        .correctBadPixels (buffers.attenuationActive pp)
    else [])

theorem perform_convertGroup
    (images : ∀ pp < groupSize config k,
      rawImage heap (buffers.rawActive pp) = stages.readRaw (groupStart config k + pp))
    {pp : ℕ} (below : pp < groupSize config k) :
    attenuationImage
        (perform (convertGroup config (k * projectionsPerStep config) buffers) heap)
        (buffers.attenuationActive pp) =
      (config.calculation contents).uncorrected (groupStart config k + pp) := by
  have converted := perform_convertToAttenuation
    (fun pp _ => buffers.attenuationActive_lane pp) below heap
    (fun pp _ => buffers.rawActive_lane pp)
  rw [images pp below] at converted
  unfold convertGroup
  rw [perform_append]
  by_cases corrects : config.badPixelCorrector = true
  · have expected : (config.calculation contents).uncorrected (groupStart config k + pp) =
        stages.correctBadPixels
          (stages.processProjection (stages.readRaw (groupStart config k + pp))) :=
      if_pos corrects
    rw [if_pos corrects, expected, ← converted]
    exact perform_correctBadPixels (fun pp _ => buffers.attenuationActive_lane pp) below _
  · have expected : (config.calculation contents).uncorrected (groupStart config k + pp) =
        stages.processProjection (stages.readRaw (groupStart config k + pp)) :=
      if_neg corrects
    rw [if_neg corrects, expected, perform_nil]
    exact converted

theorem perform_convertGroup_reference :
    referenceKept (perform (convertGroup config (k * projectionsPerStep config) buffers) heap) =
      referenceKept heap := by
  refine perform_frame (forall_mem_append (forall_mem_sendEach fun pp _ => ?_)
    (forall_mem_ite (forall_mem_sendEach fun pp _ => ?_))) heap
  · simp [MainAction.command, performMessage, assign, Command.assign]
  · simp [MainAction.command, performMessage, assign, Command.assign]

/-- The reference is known once the first group is converted: the corrections of a group start
from a memory that has it, with the same images. -/
theorem exists_perform_correctBeamPower (beam : config.beamPowerCorrector = true)
    (more : k * projectionsPerStep config < config.numberOfProjections)
    (positive : 0 < projectionsPerStep config)
    (images : ∀ pp < groupSize config k, attenuationImage heap (buffers.attenuationActive pp) =
      (config.calculation contents).uncorrected (groupStart config k + pp))
    (reference : referenceKept heap =
      if k = 0 then contents.reference else (config.calculation contents).reference) :
    ∃ middle : Heap (Val stages),
      referenceKept middle = (config.calculation contents).reference ∧
      (∀ slot, attenuationImage middle slot = attenuationImage heap slot) ∧
      perform (correctBeamPowers config (k * projectionsPerStep config) buffers) heap =
        perform (sendEach (groupSize config k) fun pp =>
          .correctBeamPower (k * projectionsPerStep config + pp)
            (buffers.attenuationActive pp)) middle := by
  rw [correctBeamPowers, if_pos beam, perform_append]
  by_cases first : k = 0
  · subst first
    have start : 0 * projectionsPerStep config = 0 := Nat.zero_mul _
    rw [if_pos start, perform_append, perform_synchronizeAllAndWait]
    refine ⟨_, ?_, ?_, rfl⟩
    · have nonempty : 0 < groupSize config 0 := by
        unfold groupSize projectionsThisStep
        omega
      refine (referenceKept_setReferenceProjection _ heap).trans ?_
      rw [reference, if_pos rfl, images 0 nonempty, groupStart_zero]
      rfl
    · intro slot
      exact Command.frame _ _ _ (by simp [MainAction.command, performSetReferenceProjection,
        assign, Command.assign])
  · have later : k * projectionsPerStep config ≠ 0 :=
      Nat.mul_ne_zero first positive.ne'
    rw [if_neg later, perform_nil]
    rw [if_neg first] at reference
    exact ⟨heap, reference, fun _ => rfl, rfl⟩

/-- The beam powers of a group whose bad pixels are corrected. -/
theorem perform_correctBeamPowers (raw : config.rawProjectionsReader = true)
    (more : k * projectionsPerStep config < config.numberOfProjections)
    (positive : 0 < projectionsPerStep config)
    (images : ∀ pp < groupSize config k, attenuationImage heap (buffers.attenuationActive pp) =
      (config.calculation contents).uncorrected (groupStart config k + pp))
    (reference : config.beamPowerCorrector = true → referenceKept heap =
      if k = 0 then contents.reference else (config.calculation contents).reference)
    {after : Heap (Val stages)}
    (result : after =
      perform (correctBeamPowers config (k * projectionsPerStep config) buffers) heap) :
    (∀ pp < groupSize config k, attenuationImage after (buffers.attenuationActive pp) =
        (config.calculation contents).attenuation (groupStart config k + pp)) ∧
      (config.beamPowerCorrector = true → ∀ pp < groupSize config k,
        correctionAt after (groupStart config k + pp) =
          (config.calculation contents).correction (groupStart config k + pp)) ∧
      (config.beamPowerCorrector = true →
        referenceKept after = (config.calculation contents).reference) := by
  by_cases beam : config.beamPowerCorrector = true
  · obtain ⟨middle, known, kept, split⟩ :=
      exists_perform_correctBeamPower beam more positive images (reference beam)
    rw [split] at result
    have corrected := fun {t : ℕ} (below : t < groupSize config k) =>
      perform_correctBeamPower (fun pp _ => buffers.attenuationActive_lane pp)
        (fun pp inGroup => group_mod inGroup) below middle
    rw [groupStart_eq more] at images ⊢
    refine ⟨?_, ?_, ?_⟩
    · intro pp below
      rw [result, (corrected below).1, known, kept, images pp below, Calculation.attenuation]
      simp [raw, beam]
    · intro _ pp below
      rw [result, (corrected below).2, known, kept, images pp below]
      rfl
    · intro _
      rw [result, ← known]
      refine perform_frame (forall_mem_sendEach fun pp _ => ?_) middle
      simp [MainAction.command, performMessage, correctBeamPower, assign, Command.assign,
        Command.andThen]
  · have unchanged : after = heap := by
      rw [result, correctBeamPowers, if_neg beam, perform_nil]
    rw [unchanged]
    refine ⟨?_, fun present => absurd present beam, fun present => absurd present beam⟩
    intro pp below
    rw [images pp below, Calculation.attenuation]
    simp [raw, beam]

theorem perform_processRaw (raw : config.rawProjectionsReader = true) :
    perform (processRaw config (k * projectionsPerStep config) buffers) heap =
      perform (correctBeamPowers config (k * projectionsPerStep config) buffers)
        (perform (convertGroup config (k * projectionsPerStep config) buffers)
          (perform (requestEach (groupSize config (k + 1)) fun pp =>
            .readRaw (buffers.rawLoading pp)) heap)) := by
  rw [processRaw, if_pos raw, convertGroup]
  simp only [perform_append, perform_waitEach, projectionsNextStep_eq_groupSize]

end Raw

/-- The memory of an iteration when the attenuation of its group is known. -/
structure Attenuated (config : Config) (contents : Contents stages) (k : ℕ) (buffers : Buffers)
    (heap : Heap (Val stages)) : Prop where
  correction : config.rawProjectionsReader = true → config.beamPowerCorrector = true →
    ∀ pp < groupSize config k, correctionAt heap (groupStart config k + pp) =
      (config.calculation contents).correction (groupStart config k + pp)
  attenuation : config.filteredProjectionsReader = false → ∀ pp < groupSize config k,
    attenuationImage heap (buffers.attenuationActive pp) =
      (config.calculation contents).attenuation (groupStart config k + pp)
  reference : config.rawProjectionsReader = true → config.beamPowerCorrector = true →
    referenceKept heap = (config.calculation contents).reference
  ahead : Ahead config (if config.filteredProjectionsReader then k else k + 1) heap

theorem leavesAhead_sendEach {count : ℕ} {message : ℕ → Message}
    (leaves : ∀ pp < count, ∀ buffer ∈ (message pp).changedImages,
      config.reads buffer.kind = false) :
    ∀ action ∈ sendEach count message, action.LeavesAhead config :=
  forall_mem_sendEach leaves

theorem leavesAhead_synchronizeAllAndWait {count : ℕ} :
    ∀ action ∈ synchronizeAllAndWait count, action.LeavesAhead config := by
  refine forall_mem_append (leavesAhead_sendEach fun _ _ _ => (absurd · List.not_mem_nil)) ?_
  intro action member
  obtain rfl := List.mem_singleton.mp member
  trivial

theorem leavesAhead_convertGroup {p : ℕ}
    (notAttenuation : config.attenuationProjectionsReader = false) :
    ∀ action ∈ convertGroup config p buffers, action.LeavesAhead config := by
  refine forall_mem_append (leavesAhead_sendEach fun pp _ buffer changed => ?_)
    (forall_mem_ite (leavesAhead_sendEach fun pp _ buffer changed => ?_))
  · obtain rfl := List.mem_singleton.mp changed
    exact notAttenuation
  · obtain rfl := List.mem_singleton.mp changed
    exact notAttenuation

theorem leavesAhead_correctBeamPowers {p : ℕ}
    (notAttenuation : config.attenuationProjectionsReader = false) :
    ∀ action ∈ correctBeamPowers config p buffers, action.LeavesAhead config := by
  refine forall_mem_ite (forall_mem_append (forall_mem_ite (forall_mem_append
    leavesAhead_synchronizeAllAndWait fun action member => ?_))
    (leavesAhead_sendEach fun pp _ buffer changed => ?_))
  · obtain rfl := List.mem_singleton.mp member
    trivial
  · obtain rfl := List.mem_singleton.mp changed
    exact notAttenuation

/-- Raw projections are converted and corrected. -/
theorem Computed.processRaw (accepted : config.Accepted)
    (computed : Computed config contents k heap) (raw : config.rawProjectionsReader = true)
    (notAttenuation : config.attenuationProjectionsReader = false)
    (notFiltered : config.filteredProjectionsReader = false)
    (more : k * projectionsPerStep config < config.numberOfProjections)
    (positive : 0 < projectionsPerStep config) (sides : Sides config (k + 1) buffers) :
    Attenuated config contents k buffers
      (perform (processRaw config (k * projectionsPerStep config) buffers) heap) := by
  have loading : ∀ pp < groupSize config (k + 1),
      buffers.rawLoading pp = ⟨pp, sideOf (k + 1)⟩ :=
    fun pp below => sides.rawLoading (below.trans_le (groupSize_le _)) raw
  rw [perform_processRaw raw]
  obtain ⟨ahead, images, kept⟩ := computed.ahead.readNext accepted .raw raw
    (fun pp => .readRaw (buffers.rawLoading pp)) (fun _ => rfl)
    (fun pp below => congrArg Buffer.raw (loading pp below)) rfl
  have active : ∀ pp < groupSize config k, buffers.rawActive pp = ⟨pp, sideOf k⟩ :=
    fun pp below => sides.rawActive (below.trans_le (groupSize_le _)) raw
  obtain ⟨attenuation, correction, referred⟩ := perform_correctBeamPowers raw more positive
    (fun pp below => perform_convertGroup
      (fun pp below => (active pp below).symm ▸ images pp below) below)
    (fun beam => perform_convertGroup_reference.trans
      ((kept .beamPowerCorrector (by simp) (by simp)).trans (computed.reference raw beam))) rfl
  refine ⟨fun _ => correction, fun _ => attenuation, fun _ => referred, ?_⟩
  rw [notFiltered]
  exact (ahead.perform (leavesAhead_convertGroup notAttenuation)).perform
    (leavesAhead_correctBeamPowers notAttenuation)

/-! ### Attenuation projections, and filtering -/

/-- Attenuation projections are read. -/
theorem Computed.readAttenuation (accepted : config.Accepted)
    (computed : Computed config contents k heap) (notRaw : config.rawProjectionsReader = false)
    (attenuation : config.attenuationProjectionsReader = true)
    (notFiltered : config.filteredProjectionsReader = false)
    (sides : Sides config (k + 1) buffers) :
    Attenuated config contents k buffers
      (perform (readAttenuation config (k * projectionsPerStep config) buffers) heap) := by
  have loading : ∀ pp < groupSize config (k + 1),
      buffers.attenuationLoading pp = ⟨pp, sideOf (k + 1)⟩ :=
    fun pp below => sides.attenuationLoading (below.trans_le (groupSize_le _)) attenuation
  have split :
      perform (MultiThreaded.readAttenuation config (k * projectionsPerStep config) buffers) heap =
        perform (requestEach (groupSize config (k + 1)) fun pp =>
          .readAttenuation (buffers.attenuationLoading pp)) heap := by
    rw [MultiThreaded.readAttenuation, if_pos attenuation, perform_append, perform_waitEach,
      projectionsNextStep_eq_groupSize]
  rw [split]
  obtain ⟨ahead, images, kept⟩ := computed.ahead.readNext accepted .attenuation attenuation
    (fun pp => .readAttenuation (buffers.attenuationLoading pp)) (fun _ => rfl)
    (fun pp below => congrArg Buffer.attenuation (loading pp below)) rfl
  refine ⟨fun raw => ?_, fun _ pp below => ?_, fun raw => ?_, ?_⟩
  · rw [notRaw] at raw
    cases raw
  · have active : buffers.attenuationActive pp = ⟨pp, sideOf k⟩ := by
      rw [sides.attenuationActive (below.trans_le (groupSize_le _)), attenuation, Bool.or_true]
      rfl
    have expected : (config.calculation contents).attenuation (groupStart config k + pp) =
        stages.readAttenuation (groupStart config k + pp) :=
      if_neg (by simp [notRaw])
    rw [active, expected]
    exact images pp below
  · rw [notRaw] at raw
    cases raw
  · rw [notFiltered]
    exact ahead

/-- With a filtered projections reader there is no attenuation to calculate. -/
theorem Computed.skipAttenuation (computed : Computed config contents k heap)
    (notRaw : config.rawProjectionsReader = false)
    (filtered : config.filteredProjectionsReader = true) :
    Attenuated config contents k buffers heap := by
  refine ⟨fun raw => ?_, fun absent => ?_, fun raw => ?_, ?_⟩
  · rw [notRaw] at raw
    cases raw
  · rw [filtered] at absent
    cases absent
  · rw [notRaw] at raw
    cases raw
  · rw [filtered]
    exact computed.ahead

/-- Filtered projections are read. -/
theorem Attenuated.readFiltered (accepted : config.Accepted)
    (attenuated : Attenuated config contents k buffers heap)
    (reads : config.filteredProjectionsReader = true) (sides : Sides config (k + 1) buffers) :
    Prepared config contents k buffers
      (perform (filterProjections config (k * projectionsPerStep config) buffers) heap) := by
  have loading : ∀ pp < groupSize config (k + 1),
      buffers.filteredLoading pp = ⟨pp, sideOf (k + 1)⟩ :=
    fun pp below => sides.filteredLoading (below.trans_le (groupSize_le _)) reads
  have split : perform (MultiThreaded.filterProjections config
        (k * projectionsPerStep config) buffers) heap =
      perform (requestEach (groupSize config (k + 1)) fun pp =>
        .readFiltered (buffers.filteredLoading pp)) heap := by
    rw [MultiThreaded.filterProjections, if_pos reads, perform_append, perform_waitEach,
      projectionsNextStep_eq_groupSize]
  have ahead := attenuated.ahead
  rw [reads, if_pos rfl] at ahead
  have noRaw : config.rawProjectionsReader = true → False := by
    intro raw
    rcases accepted.readers with ⟨-, -, absent⟩ | ⟨absent, -⟩ | ⟨absent, -⟩
    · exact Bool.false_ne_true (absent.symm.trans reads)
    · exact Bool.false_ne_true (absent.symm.trans raw)
    · exact Bool.false_ne_true (absent.symm.trans raw)
  rw [split]
  obtain ⟨next, images, kept⟩ := ahead.readNext accepted .filtered reads
    (fun pp => .readFiltered (buffers.filteredLoading pp)) (fun _ => rfl)
    (fun pp below => congrArg Buffer.filtered (loading pp below)) rfl
  refine ⟨fun raw => (noRaw raw).elim, fun absent => ?_, fun _ pp below => ?_,
    fun raw => (noRaw raw).elim, next⟩
  · exact absurd reads (Bool.eq_false_iff.mp absent)
  · have active : buffers.filteredActive pp = ⟨pp, sideOf k⟩ := by
      rw [sides.filteredActive (below.trans_le (groupSize_le _)), reads, Bool.or_true]
      rfl
    have expected : (config.calculation contents).filtered (groupStart config k + pp) =
        stages.readFiltered (groupStart config k + pp) :=
      if_pos reads
    rw [active, expected]
    exact images pp below

/-- The attenuation projections of the group are filtered. -/
theorem Attenuated.filterGroup (attenuated : Attenuated config contents k buffers heap)
    (notFiltered : config.filteredProjectionsReader = false) :
    Prepared config contents k buffers
      (perform (sendEach (groupSize config k) fun pp => .filterProjection
        (buffers.attenuationActive pp) (buffers.filteredActive pp)) heap) := by
  have ahead := attenuated.ahead
  rw [notFiltered] at ahead
  have kept : ∀ location, (∀ slot, location ≠ .image (.filtered slot)) →
      perform (sendEach (groupSize config k) fun pp => .filterProjection
        (buffers.attenuationActive pp) (buffers.filteredActive pp)) heap location =
          heap location := by
    intro location other
    refine perform_frame (forall_mem_sendEach fun pp _ => ?_) heap
    simpa [MainAction.command, performMessage, assign, Command.assign] using other _
  refine ⟨fun raw beam pp below => ?_, fun _ pp below => ?_, fun _ pp below => ?_,
    fun raw beam => ?_, ?_⟩
  · exact (kept (.correction _) (by simp)).trans (attenuated.correction raw beam pp below)
  · refine (kept _ fun slot same => ?_).trans (attenuated.attenuation notFiltered pp below)
    cases same
  · have expected : (config.calculation contents).filtered (groupStart config k + pp) =
        stages.filterProjection
          ((config.calculation contents).attenuation (groupStart config k + pp)) :=
      if_neg (Bool.eq_false_iff.mp notFiltered)
    rw [expected, ← attenuated.attenuation notFiltered pp below]
    exact perform_filterProjection (fun pp _ => buffers.filteredActive_lane pp) below heap
      fun pp _ => buffers.attenuationActive_lane pp
  · exact (kept .beamPowerCorrector (by simp)).trans (attenuated.reference raw beam)
  · refine ahead.perform (leavesAhead_sendEach fun pp _ buffer changed => ?_)
    obtain rfl := List.mem_singleton.mp changed
    exact notFiltered

/-- Filtering completes the images of the group. -/
theorem Attenuated.filterProjections (accepted : config.Accepted)
    (attenuated : Attenuated config contents k buffers heap)
    (sides : Sides config (k + 1) buffers) :
    Prepared config contents k buffers
      (perform (filterProjections config (k * projectionsPerStep config) buffers) heap) := by
  by_cases reads : config.filteredProjectionsReader = true
  · exact attenuated.readFiltered accepted reads sides
  have notFiltered : config.filteredProjectionsReader = false := by simpa using reads
  by_cases computes : (config.filteredProjectionsWriter || config.volumeWriter) = true
  · rw [MultiThreaded.filterProjections, if_neg reads, if_pos computes]
    exact attenuated.filterGroup notFiltered
  · have ahead := attenuated.ahead
    rw [notFiltered] at ahead
    rw [MultiThreaded.filterProjections, if_neg reads, if_neg computes, perform_nil]
    refine ⟨attenuated.correction, attenuated.attenuation, fun present => ?_,
      attenuated.reference, ahead⟩
    rw [Bool.or_assoc, notFiltered, Bool.false_or] at present
    exact absurd present computes

/-! ### The barrier -/

/-- The files and the objects of the worker threads. -/
def Location.isOutput : Location → Bool
  | .threadWorker _ => true
  | .attenuationProjectionsWriter => true
  | .filteredProjectionsWriter => true
  | .attenuationCorrectionsFile => true
  | .volumeWriter => true
  | _ => false

/-- In front of the barrier nothing is written out or back-projected. -/
theorem Prepares.isOutput {p : ℕ} {action : MainAction} (prepares : Prepares config p action)
    {location : Location} (written : location ∈ (action.command stages).writes) :
    location.isOutput = false := by
  cases prepares with
  | reads isRead =>
      rcases performRequest_writes_read isRead written with rfl | rfl <;> rfl
  | refers slot =>
      obtain rfl : location = .beamPowerCorrector := by
        simpa [MainAction.command, performSetReferenceProjection, assign, Command.assign]
          using written
      rfl
  | correctsPower below index slot =>
      obtain rfl | rfl : location = .correction index ∨ location = .image (.attenuation slot) := by
        simpa [MainAction.command, performMessage, correctBeamPower, assign, Command.assign,
          Command.andThen] using written
      · rfl
      · rfl
  | converts below raw attenuation =>
      obtain rfl : location = .image (.attenuation attenuation) := by
        simpa [MainAction.command, performMessage, assign, Command.assign] using written
      rfl
  | correctsPixels below slot =>
      obtain rfl : location = .image (.attenuation slot) := by
        simpa [MainAction.command, performMessage, assign, Command.assign] using written
      rfl
  | filters below attenuation filtered =>
      obtain rfl : location = .image (.filtered filtered) := by
        simpa [MainAction.command, performMessage, assign, Command.assign] using written
      rfl
  | waits below data => exact absurd written List.not_mem_nil
  | synchronizes t => exact absurd written List.not_mem_nil
  | awaits => exact absurd written List.not_mem_nil

theorem perform_prepareGroup_output {p : ℕ} {location : Location}
    (output : location.isOutput = true) (heap : Heap (Val stages)) :
    perform (prepareGroup config p buffers) heap location = heap location := by
  refine perform_frame (fun action member written => ?_) heap
  have inside := (prepares_of_mem_prepareGroup action member).isOutput written
  exact Bool.false_ne_true (inside.symm.trans output)

theorem perform_synchronizeAndCheck {p : ℕ} (heap : Heap (Val stages)) :
    perform (synchronizeAndCheck config p) heap = heap := by
  rw [synchronizeAndCheck, perform_append, perform_synchronizeAllAndWait,
    perform_checkExceptions]

/-- A group is taken through the stages up to its barrier. -/
theorem Computed.prepareGroup (accepted : config.Accepted)
    (computed : Computed config contents k heap)
    (more : k * projectionsPerStep config < config.numberOfProjections)
    (positive : 0 < projectionsPerStep config) (sides : Sides config (k + 1) buffers) :
    Prepared config contents k buffers
      (perform (prepareGroup config (k * projectionsPerStep config) buffers) heap) := by
  have releaseAttenuation : ∀ heap : Heap (Val stages), perform (releaseAttenuation config
      (k * projectionsPerStep config) buffers) heap = heap :=
    perform_idle (forall_mem_ite (forall_mem_ite (forall_mem_sendEach fun _ _ => rfl)))
  have releaseFiltered : ∀ heap : Heap (Val stages), perform (releaseFiltered config
      (k * projectionsPerStep config) buffers) heap = heap :=
    perform_idle (forall_mem_ite (forall_mem_ite (forall_mem_sendEach fun _ _ => rfl)))
  simp only [MultiThreaded.prepareGroup, perform_append, releaseAttenuation, releaseFiltered]
  refine Attenuated.filterProjections accepted ?_ sides
  rcases accepted.readers with ⟨raw, attenuation, filtered⟩ | ⟨raw, attenuation, filtered⟩ |
    ⟨raw, attenuation, filtered⟩
  · have skipped : MultiThreaded.readAttenuation config (k * projectionsPerStep config) buffers =
        [] := by
      simp [MultiThreaded.readAttenuation, attenuation]
    rw [skipped, perform_nil]
    exact computed.processRaw accepted raw attenuation filtered more positive sides
  · have skipped :
        MultiThreaded.processRaw config (k * projectionsPerStep config) buffers = [] := by
      simp [MultiThreaded.processRaw, raw]
    rw [skipped, perform_nil]
    exact computed.readAttenuation accepted raw attenuation filtered sides
  · have skipped :
        MultiThreaded.processRaw config (k * projectionsPerStep config) buffers = [] := by
      simp [MultiThreaded.processRaw, raw]
    have skipped' : MultiThreaded.readAttenuation config (k * projectionsPerStep config) buffers =
        [] := by
      simp [MultiThreaded.readAttenuation, attenuation]
    rw [skipped, skipped', perform_nil, perform_nil]
    exact computed.skipAttenuation raw filtered

end AthabascaRecon.MultiThreaded
