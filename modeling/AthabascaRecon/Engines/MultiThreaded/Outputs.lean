import AthabascaRecon.Engines.MultiThreaded.Groups

/-!
# What the loop writes

Behind the barrier of a group its projections go to the files and into the volume of
every worker thread, so that each iteration takes the outputs from one group to the
next (`Computed.step`). Executed in the order of issue, the program leaves the
outputs that the calculation says (`computed_execute`).
-/

set_option autoImplicit false

namespace AthabascaRecon.MultiThreaded

open Foundation.Concurrency

variable {stages : Stages} {config : Config} {contents : Contents stages} {k : ℕ}
  {buffers : Buffers} {heap : Heap (Val stages)}

/-! ## Writing a group -/

section Writing

variable {p : ℕ}

/-- The statements that write the corrections of a group. -/
def writeCorrections (config : Config) (p : ℕ) : List MainAction :=
  if config.attenuationCorrectionsFile then
    (List.range (projectionsThisStep config p)).map fun pp => .writeCorrection (p + pp)
  else []

def writeAttenuations (config : Config) (p : ℕ) (buffers : Buffers) : List MainAction :=
  if config.attenuationProjectionsWriter then
    requestEach (projectionsThisStep config p) fun pp =>
      .writeAttenuation (buffers.attenuationActive pp)
  else []

def writeFiltereds (config : Config) (p : ℕ) (buffers : Buffers) : List MainAction :=
  if config.filteredProjectionsWriter then
    requestEach (projectionsThisStep config p) fun pp =>
      .writeFiltered (buffers.filteredActive pp)
  else []

theorem writeProjections_eq : writeProjections config p buffers =
    writeCorrections config p ++ writeAttenuations config p buffers ++
      writeFiltereds config p buffers := rfl

theorem perform_writeCorrections_frame (location : Location)
    (other : location ≠ .attenuationCorrectionsFile) (heap : Heap (Val stages)) :
    perform (writeCorrections config p) heap location = heap location := by
  refine perform_frame (forall_mem_ite fun action member => ?_) heap
  obtain ⟨pp, -, rfl⟩ := List.mem_map.mp member
  simpa [MainAction.command, performWriteCorrection, assign, Command.assign] using other

theorem perform_writeAttenuations_frame (location : Location)
    (other : location ≠ .attenuationProjectionsWriter) (heap : Heap (Val stages)) :
    perform (writeAttenuations config p buffers) heap location = heap location := by
  refine perform_frame (forall_mem_ite (forall_mem_requestEach fun pp _ => ?_)) heap
  simpa [MainAction.command, performRequest, assign, Command.assign] using other

theorem perform_writeFiltereds_frame (location : Location)
    (other : location ≠ .filteredProjectionsWriter) (heap : Heap (Val stages)) :
    perform (writeFiltereds config p buffers) heap location = heap location := by
  refine perform_frame (forall_mem_ite (forall_mem_requestEach fun pp _ => ?_)) heap
  simpa [MainAction.command, performRequest, assign, Command.assign] using other

theorem perform_writeProjections_frame (location : Location)
    (notFile : location ≠ .attenuationCorrectionsFile)
    (notAttenuation : location ≠ .attenuationProjectionsWriter)
    (notFiltered : location ≠ .filteredProjectionsWriter) (heap : Heap (Val stages)) :
    perform (writeProjections config p buffers) heap location = heap location := by
  rw [writeProjections_eq, perform_append, perform_append,
    perform_writeFiltereds_frame location notFiltered,
    perform_writeAttenuations_frame location notAttenuation,
    perform_writeCorrections_frame location notFile]

theorem correctionLines_writeProjections :
    correctionLines (perform (writeProjections config p buffers) heap) =
      if config.attenuationCorrectionsFile then
        correctionLines heap ++ (List.range (projectionsThisStep config p)).map fun pp =>
          correctionAt heap (p + pp)
      else correctionLines heap := by
  have later : correctionLines (perform (writeProjections config p buffers) heap) =
      correctionLines (perform (writeCorrections config p) heap) := by
    rw [writeProjections_eq, perform_append, perform_append]
    exact (perform_writeFiltereds_frame .attenuationCorrectionsFile (by simp) _).trans
      (perform_writeAttenuations_frame .attenuationCorrectionsFile (by simp) _)
  rw [later, writeCorrections]
  by_cases present : config.attenuationCorrectionsFile = true
  · rw [if_pos present, if_pos present]
    exact perform_writeCorrections _ heap
  · rw [if_neg present, if_neg present, perform_nil]

theorem attenuationSlices_writeProjections :
    attenuationSlices (perform (writeProjections config p buffers) heap) =
      if config.attenuationProjectionsWriter then
        attenuationSlices heap ++ (List.range (projectionsThisStep config p)).map fun pp =>
          attenuationImage heap (buffers.attenuationActive pp)
      else attenuationSlices heap := by
  have before : ∀ location, location ≠ .attenuationCorrectionsFile →
      perform (writeCorrections config p) heap location = heap location :=
    fun location other => perform_writeCorrections_frame location other heap
  have later : attenuationSlices (perform (writeProjections config p buffers) heap) =
      attenuationSlices (perform (writeAttenuations config p buffers)
        (perform (writeCorrections config p) heap)) := by
    rw [writeProjections_eq, perform_append, perform_append]
    exact perform_writeFiltereds_frame .attenuationProjectionsWriter (by simp) _
  rw [later, writeAttenuations]
  by_cases present : config.attenuationProjectionsWriter = true
  · rw [if_pos present, if_pos present, perform_writeAttenuations]
    congr 1
    · exact before .attenuationProjectionsWriter (by simp)
    · exact List.map_congr_left fun pp _ => before (.image (.attenuation _)) (by simp)
  · rw [if_neg present, if_neg present, perform_nil]
    exact before .attenuationProjectionsWriter (by simp)

theorem filteredSlices_writeProjections :
    filteredSlices (perform (writeProjections config p buffers) heap) =
      if config.filteredProjectionsWriter then
        filteredSlices heap ++ (List.range (projectionsThisStep config p)).map fun pp =>
          filteredImage heap (buffers.filteredActive pp)
      else filteredSlices heap := by
  have before : ∀ location, location ≠ .attenuationCorrectionsFile →
      location ≠ .attenuationProjectionsWriter →
        perform (writeAttenuations config p buffers)
          (perform (writeCorrections config p) heap) location = heap location :=
    fun location notFile notAttenuation =>
      (perform_writeAttenuations_frame location notAttenuation _).trans
        (perform_writeCorrections_frame location notFile heap)
  rw [writeProjections_eq, perform_append, perform_append, writeFiltereds]
  by_cases present : config.filteredProjectionsWriter = true
  · rw [if_pos present, if_pos present, perform_writeFiltered]
    congr 1
    · exact before .filteredProjectionsWriter (by simp) (by simp)
    · exact List.map_congr_left fun pp _ => before (.image (.filtered _)) (by simp) (by simp)
  · rw [if_neg present, if_neg present, perform_nil]
    exact before .filteredProjectionsWriter (by simp) (by simp)

end Writing

/-! ## Back-projecting a group -/

theorem objectsOf_succ (t count : ℕ) :
    objectsOf config (config.calculation contents) t (count + 1) =
      if config.volumeWriter && !config.skipsBackProjection count then
        (objectsOf config (config.calculation contents) t count).applyProjection
          ((config.calculation contents).filtered count) (stages.angle count)
      else objectsOf config (config.calculation contents) t count := by
  have next : (config.calculation contents).applied (count + 1) =
      if config.volumeWriter && !config.skipsBackProjection count then
        (config.calculation contents).applied count ++
          [((config.calculation contents).filtered count, stages.angle count)]
      else (config.calculation contents).applied count :=
    (config.calculation contents).applied_succ count
  by_cases applies : (config.volumeWriter && !config.skipsBackProjection count) = true
  · have volume : config.volumeWriter = true := (Bool.and_eq_true _ _ ▸ applies).1
    rw [if_pos applies] at next ⊢
    by_cases none : config.subvolumeSlices t = 0 <;>
      simp [objectsOf, ThreadWorker.applyProjection, BackProjector.applyProjection, volume, none,
        next]
  · rw [if_neg applies] at next ⊢
    simp [objectsOf, next]

/-- A back-projection is sent to every thread. -/
theorem perform_applyProjection {slot : ImageSlot} {index t : ℕ}
    (below : t < config.numberOfThreads) :
    threadWorker (perform (sendEach config.numberOfThreads fun _ =>
        .applyProjection slot index) heap) t =
      (threadWorker heap t).map
        (ThreadWorker.applyProjection (filteredImage heap slot) (stages.angle index)) := by
  refine Eq.trans (perform_sendEach ?_ below ?_ heap)
    (threadWorker_performMessage t heap (.applyProjection slot index))
  · intro t _ t' _ different
    exact independent_of_shared stages different trivial trivial
  · simp [performMessage, applyProjection, assign, Command.assign]

theorem perform_applyProjection_frame {slot : ImageSlot} {count index : ℕ} (location : Location)
    (other : ∀ t, location ≠ .threadWorker t) (heap : Heap (Val stages)) :
    perform (sendEach count fun _ => .applyProjection slot index) heap location =
      heap location := by
  refine perform_frame (forall_mem_sendEach fun t _ => ?_) heap
  simpa [MainAction.command, performMessage, applyProjection, assign, Command.assign]
    using other t

/-- The back-projections of the first projections of a group. -/
def applyGroup (config : Config) (p count : ℕ) (buffers : Buffers) : List MainAction :=
  (List.range count).flatMap fun pp =>
    if config.skipsBackProjection (p + pp) then []
    else
      sendEach config.numberOfThreads fun _ =>
        .applyProjection (buffers.filteredActive pp) (p + pp)

theorem applyGroup_succ (p count : ℕ) : applyGroup config p (count + 1) buffers =
    applyGroup config p count buffers ++
      if config.skipsBackProjection (p + count) then []
      else
        sendEach config.numberOfThreads fun _ =>
          .applyProjection (buffers.filteredActive count) (p + count) := by
  simp [applyGroup, List.range_succ]

theorem perform_applyGroup_frame {p count : ℕ} (location : Location)
    (other : ∀ t, location ≠ .threadWorker t) (heap : Heap (Val stages)) :
    perform (applyGroup config p count buffers) heap location = heap location := by
  induction count with
  | zero => rfl
  | succ count ih =>
      rw [applyGroup_succ, perform_append]
      split_ifs
      · exact ih
      · exact (perform_applyProjection_frame location other _).trans ih

/-- Each projection of the group is applied to the volume of every thread, in the order
of the group. -/
theorem perform_applyGroup (volume : config.volumeWriter = true) {p count : ℕ}
    (workers : ∀ t < config.numberOfThreads, threadWorker heap t =
      some (objectsOf config (config.calculation contents) t p))
    (images : ∀ pp < count, filteredImage heap (buffers.filteredActive pp) =
      (config.calculation contents).filtered (p + pp)) {t : ℕ}
    (below : t < config.numberOfThreads) :
    threadWorker (perform (applyGroup config p count buffers) heap) t =
      some (objectsOf config (config.calculation contents) t (p + count)) := by
  induction count with
  | zero => exact workers t below
  | succ count ih =>
      have before := ih fun pp inside => images pp (inside.trans (Nat.lt_succ_self _))
      have image : filteredImage (perform (applyGroup config p count buffers) heap)
          (buffers.filteredActive count) = (config.calculation contents).filtered (p + count) :=
        (perform_applyGroup_frame (.image (.filtered _)) (by simp) heap).trans
          (images count (Nat.lt_succ_self _))
      rw [applyGroup_succ, perform_append, ← Nat.add_assoc, objectsOf_succ]
      by_cases skipped : config.skipsBackProjection (p + count) = true
      · simpa [skipped] using before
      · rw [if_neg skipped, perform_applyProjection below, before, image]
        simp [volume, skipped]

theorem perform_backProject (p : ℕ) : perform (backProject config p buffers) heap =
    if config.volumeWriter then
      perform (applyGroup config p (projectionsThisStep config p) buffers) heap
    else heap := by
  by_cases volume : config.volumeWriter = true
  · rw [backProject, if_pos volume, if_pos volume, perform_append, perform_synchronizeAndCheck]
    rfl
  · rw [backProject, if_neg volume, if_neg volume, perform_nil]

theorem perform_backProject_frame {p : ℕ} (location : Location)
    (other : ∀ t, location ≠ .threadWorker t) (heap : Heap (Val stages)) :
    perform (backProject config p buffers) heap location = heap location := by
  rw [perform_backProject]
  split_ifs
  · exact perform_applyGroup_frame location other heap
  · rfl

/-! ## One iteration -/

theorem leavesAhead_writeProjections {p : ℕ} :
    ∀ action ∈ writeProjections config p buffers, action.LeavesAhead config := by
  refine forall_mem_append (forall_mem_append (forall_mem_ite fun action member => ?_)
    (forall_mem_ite (forall_mem_requestEach fun _ _ => rfl)))
    (forall_mem_ite (forall_mem_requestEach fun _ _ => rfl))
  obtain ⟨pp, -, rfl⟩ := List.mem_map.mp member
  trivial

theorem leavesAhead_applyGroup {p count : ℕ} :
    ∀ action ∈ applyGroup config p count buffers, action.LeavesAhead config := by
  intro action member
  obtain ⟨pp, -, sent⟩ := List.mem_flatMap.mp member
  split_ifs at sent
  · exact absurd sent List.not_mem_nil
  · exact leavesAhead_sendEach (fun _ _ _ => (absurd · List.not_mem_nil)) action sent

/-- What the statements of a group lead to, block by block. -/
theorem perform_projectionGroup (p : ℕ) :
    perform (projectionGroup config p buffers) heap =
      perform (backProject config p buffers)
        (perform (writeProjections config p buffers)
          (perform (prepareGroup config p buffers) heap)) := by
  have split : projectionGroup config p buffers =
      prepareGroup config p buffers ++ synchronizeAndCheck config p ++
        writeProjections config p buffers ++ backProject config p buffers := rfl
  rw [split, perform_append, perform_append, perform_append, perform_synchronizeAndCheck]

/-- Nothing but the files and the volumes depends on what is behind the barrier. -/
theorem perform_projectionGroup_frame {p : ℕ} (location : Location)
    (inside : location.isOutput = false) :
    perform (projectionGroup config p buffers) heap location =
      perform (prepareGroup config p buffers) heap location := by
  rw [perform_projectionGroup]
  refine (perform_backProject_frame location ?_ _).trans 
    (perform_writeProjections_frame location ?_ ?_ ?_ _)
  all_goals
    intros
    rintro rfl
    cases inside

/-- A file that gets what a group has calculated goes from one group to the next. -/
theorem file_step {Line : Type} {present : Bool} {before after : List Line}
    {file : ℕ → List Line} {written line : ℕ → Line}
    (wrote : after =
      if present then before ++ (List.range (groupSize config k)).map written else before)
    (grows : file (groupStart config k + groupSize config k) =
      if present then
        file (groupStart config k) ++
          (List.range (groupSize config k)).map fun pp => line (groupStart config k + pp)
      else file (groupStart config k))
    (kept : before = file (groupStart config k))
    (calculated : present = true → ∀ pp < groupSize config k,
      written pp = line (groupStart config k + pp)) :
    after = file (groupStart config (k + 1)) := by
  rw [groupStart_succ, grows, wrote, kept]
  cases present with
  | false => rfl
  | true =>
    rw [if_pos rfl, if_pos rfl]
    congr 1
    exact List.map_congr_left fun pp member => calculated rfl pp (List.mem_range.mp member)

section Step

variable (accepted : config.Accepted) (computed : Computed config contents k heap)
  (prepared : Prepared config contents k buffers
    (perform (prepareGroup config (k * projectionsPerStep config) buffers) heap))

include accepted computed prepared

theorem Prepared.corrections
    (more : k * projectionsPerStep config < config.numberOfProjections) :
    correctionLines (perform (projectionGroup config (k * projectionsPerStep config) buffers)
        heap) =
      (config.calculation contents).correctionsFile (groupStart config (k + 1)) := by
  rw [perform_projectionGroup]
  refine file_step ((perform_backProject_frame .attenuationCorrectionsFile (by simp) _).trans
      correctionLines_writeProjections) (Calculation.correctionsFile_add ..)
    ((perform_prepareGroup_output rfl heap).trans computed.corrections) ?_
  intro present pp inGroup
  obtain ⟨raw, beam⟩ := accepted.corrections present
  rw [← prepared.correction raw beam pp inGroup, groupStart_eq more]

theorem Prepared.attenuationSlices :
    attenuationSlices (perform (projectionGroup config (k * projectionsPerStep config) buffers)
        heap) =
      (config.calculation contents).attenuationSlices (groupStart config (k + 1)) := by
  rw [perform_projectionGroup]
  refine file_step ((perform_backProject_frame .attenuationProjectionsWriter (by simp) _).trans
      attenuationSlices_writeProjections) (Calculation.attenuationSlices_add ..)
    ((perform_prepareGroup_output rfl heap).trans computed.attenuation) ?_
  intro present pp inGroup
  have notFiltered : config.filteredProjectionsReader = false := by
    simpa [present] using accepted.filteredLast
  exact prepared.attenuation notFiltered pp inGroup

omit accepted in
theorem Prepared.filteredSlices :
    filteredSlices (perform (projectionGroup config (k * projectionsPerStep config) buffers)
        heap) =
      (config.calculation contents).filteredSlices (groupStart config (k + 1)) := by
  rw [perform_projectionGroup]
  refine file_step ((perform_backProject_frame .filteredProjectionsWriter (by simp) _).trans
      filteredSlices_writeProjections) (Calculation.filteredSlices_add ..)
    ((perform_prepareGroup_output rfl heap).trans computed.filtered) ?_
  intro present pp inGroup
  exact prepared.filtered (by simp [present]) pp inGroup

omit accepted in
theorem Prepared.workers (more : k * projectionsPerStep config < config.numberOfProjections)
    {t : ℕ} (below : t < config.numberOfThreads) :
    threadWorker (perform (projectionGroup config (k * projectionsPerStep config) buffers)
        heap) t =
      some (objectsOf config (config.calculation contents) t (groupStart config (k + 1))) := by
  have start := groupStart_eq more
  have written : ∀ location, location ≠ .attenuationCorrectionsFile →
      location ≠ .attenuationProjectionsWriter → location ≠ .filteredProjectionsWriter →
        perform (writeProjections config (k * projectionsPerStep config) buffers)
          (perform (prepareGroup config (k * projectionsPerStep config) buffers) heap) location =
            perform (prepareGroup config (k * projectionsPerStep config) buffers) heap location :=
    fun location notFile notAttenuation notFiltered =>
      perform_writeProjections_frame location notFile notAttenuation notFiltered _
  rw [perform_projectionGroup, perform_backProject, groupStart_succ]
  generalize perform (writeProjections config (k * projectionsPerStep config) buffers)
    (perform (prepareGroup config (k * projectionsPerStep config) buffers) heap) = middle
    at written ⊢
  have workers : ∀ t < config.numberOfThreads, threadWorker middle t =
      some (objectsOf config (config.calculation contents) t (groupStart config k)) := by
    intro t below
    rw [← computed.workers t below]
    exact (written (.threadWorker t) (by simp) (by simp) (by simp)).trans
      (perform_prepareGroup_output rfl heap)
  by_cases volume : config.volumeWriter = true
  · rw [if_pos volume]
    rw [start] at workers ⊢
    refine perform_applyGroup volume workers (fun pp inside => ?_) below
    rw [← start, ← prepared.filtered (by simp [volume]) pp inside]
    exact written (.image (.filtered _)) (by simp) (by simp) (by simp)
  · rw [if_neg volume, workers t below]
    simp [objectsOf, volume]

end Step

/-- **An iteration takes the outputs from one group to the next.** -/
theorem Computed.step (accepted : config.Accepted) (computed : Computed config contents k heap)
    (more : k * projectionsPerStep config < config.numberOfProjections)
    (positive : 0 < projectionsPerStep config) (sides : Sides config (k + 1) buffers) :
    Computed config contents (k + 1)
      (perform (projectionGroup config (k * projectionsPerStep config) buffers) heap) := by
  have prepared := computed.prepareGroup accepted more positive sides
  refine ⟨prepared.corrections accepted computed more,
    prepared.attenuationSlices accepted computed, prepared.filteredSlices computed,
    fun t below => prepared.workers computed more below, ?_, ?_, ?_⟩
  · rw [← computed.volumes, perform_projectionGroup]
    exact (perform_backProject_frame .volumeWriter (by simp) _).trans
      ((perform_writeProjections_frame .volumeWriter (by simp) (by simp) (by simp) _).trans
        (perform_prepareGroup_output rfl heap))
  · intro raw beam
    rw [if_neg (Nat.succ_ne_zero k), ← prepared.reference raw beam]
    exact perform_projectionGroup_frame .beamPowerCorrector rfl
  · rw [perform_projectionGroup, perform_backProject]
    have written := prepared.ahead.perform
      (@leavesAhead_writeProjections config buffers (k * projectionsPerStep config))
    split_ifs
    · exact written.perform leavesAhead_applyGroup
    · exact written

/-! ## In front of the loop -/

theorem groupSize_zero : groupSize config 0 = projectionsPerStep config := by
  unfold groupSize projectionsThisStep projectionsPerStep
  omega

/-- Messages that have no images to work on reach the objects of their thread. -/
theorem perform_sendObjects {message : ℕ → Message}
    (isLocal : ∀ t < config.numberOfThreads, (message t).Local 0 t)
    (objects : ∀ t, Location.threadWorker t ∈ (performMessage stages t (message t)).writes)
    {t : ℕ} (below : t < config.numberOfThreads) :
    threadWorker (perform (sendEach config.numberOfThreads message) heap) t =
      threadWorker ((performMessage stages t (message t)).run heap) t :=
  perform_sendLocal 0 isLocal below (objects t) heap

/-- The objects of the worker threads in front of the loop. -/
theorem threadWorker_create (accepted : config.Accepted) {t : ℕ}
    (below : t < config.numberOfThreads) :
    threadWorker (perform (createThreadWorkers config ++ createProjectionFilterers config ++
        createBackProjectors config) heap) t =
      some (objectsOf config (config.calculation contents) t 0) := by
  rw [perform_append, perform_append]
  have workers : threadWorker (perform (createThreadWorkers config) heap) t = some {} := by
    refine (perform_sendObjects ?_ ?_ below).trans (threadWorker_performMessage ..)
    · simp [Message.Local, Message.images]
    · simp [performMessage, assign, Command.assign]
  generalize perform (createThreadWorkers config) heap = created at workers
  have filterers : threadWorker (perform (createProjectionFilterers config) created) t =
      some { projectionFilterer := config.filters } := by
    unfold createProjectionFilterers
    by_cases filters : config.filters = true
    · have compiled : config.build.supports config.filteringModule = true := by
        refine accepted.moduleCompiled ?_
        simp only [RunnerConfig.filters, Bool.and_eq_true, Bool.not_eq_true'] at filters
        exact filters.1
      rw [if_pos filters, if_pos compiled]
      refine (perform_sendObjects ?_ ?_ below).trans ((threadWorker_performMessage ..).trans ?_)
      · simp [Message.Local, Message.images]
      · simp [performMessage, changeThreadWorker, assign, Command.assign]
      · simp [workers, filters]
    · rw [if_neg filters, perform_nil, workers]
      simp [filters]
  generalize perform (createProjectionFilterers config) created = filtered at filterers
  unfold createBackProjectors
  by_cases volume : config.volumeWriter = true
  · rw [if_pos volume, perform_append]
    refine (perform_sendObjects ?_ ?_ below).trans ((threadWorker_performMessage ..).trans ?_)
    · simp [Message.Local, Message.images]
    · simp [performMessage, changeThreadWorker, assign, Command.assign]
    · have projectors : threadWorker (perform (sendEach config.numberOfThreads fun _ =>
          .createBackProjector) filtered) t =
            some { projectionFilterer := config.filters, backProjector := some {} } := by
        refine (perform_sendObjects ?_ ?_ below).trans ((threadWorker_performMessage ..).trans ?_)
        · simp [Message.Local, Message.images]
        · simp [performMessage, changeThreadWorker, assign, Command.assign]
        · simp [filterers]
      rw [projectors]
      by_cases none : config.subvolumeSlices t = 0 <;>
        simp [objectsOf, volume, none, ThreadWorker.allocateVolume, BackProjector.allocateVolume,
          Calculation.applied]
  · rw [if_neg volume, perform_nil, filterers]
    simp [objectsOf, volume]

theorem perform_create_frame (location : Location) (other : ∀ t, location ≠ .threadWorker t)
    (heap : Heap (Val stages)) :
    perform (createThreadWorkers config ++ createProjectionFilterers config ++
      createBackProjectors config) heap location = heap location := by
  have unwritten : ∀ t message, message.changedImages = [] →
      (∀ index slot, message ≠ .correctBeamPower index slot) → message ≠ .writeVolumeData →
        location ∉ (performMessage stages t message).writes := by
    intro t message noImages noCorrection noVolume written
    rcases mem_writes_performMessage stages written with
      ⟨buffer, changed, -⟩ | same | ⟨index, slot, same, -⟩ | ⟨same, -⟩
    · rw [noImages] at changed
      exact List.not_mem_nil changed
    · exact other t same
    · exact noCorrection index slot same
    · exact noVolume same
  refine perform_frame (forall_mem_append (forall_mem_append ?_ ?_) (forall_mem_ite
    (forall_mem_append ?_ ?_))) heap
  · exact forall_mem_sendEach fun t _ => unwritten t _ rfl (by simp) (by simp)
  · refine forall_mem_ite fun action member => ?_
    split_ifs at member
    · obtain ⟨t, -, rfl⟩ := List.mem_map.mp member
      exact unwritten t .createProjectionFilterer rfl (by simp) (by simp)
    · obtain rfl := List.mem_singleton.mp member
      exact List.not_mem_nil
  · exact forall_mem_sendEach fun t _ => unwritten t _ rfl (by simp) (by simp)
  · exact forall_mem_sendEach fun t _ => unwritten t _ rfl (by simp) (by simp)

/-- The first group is read before the loop begins. -/
theorem ahead_initialRequests (accepted : config.Accepted) (rewound : projectionsRead heap = 0) :
    Ahead config 0 (perform (initialRequests config .initial) heap) := by
  have position : projectionsRead heap = groupStart config 0 := by
    rw [rewound, groupStart_zero]
  unfold initialRequests
  rw [← groupSize_zero]
  rcases accepted.readers with ⟨raw, attenuation, filtered⟩ | ⟨raw, attenuation, filtered⟩ |
    ⟨raw, attenuation, filtered⟩
  · simp only [raw, attenuation, filtered, if_true, Bool.false_eq_true, if_false,
      List.append_nil]
    exact ahead_of_read accepted .raw raw _ (fun _ => rfl) (fun _ _ => rfl) position
  · simp only [raw, attenuation, filtered, if_true, Bool.false_eq_true, if_false,
      List.append_nil, List.nil_append]
    exact ahead_of_read accepted .attenuation attenuation _ (fun _ => rfl) (fun _ _ => rfl) position
  · simp only [raw, attenuation, filtered, if_true, Bool.false_eq_true, if_false,
      List.nil_append]
    exact ahead_of_read accepted .filtered filtered _ (fun _ => rfl) (fun _ _ => rfl) position

theorem perform_initialRequests_frame (location : Location)
    (notReader : location ≠ .projectionsReader) (notImage : ∀ buffer, location ≠ .image buffer)
    (heap : Heap (Val stages)) :
    perform (initialRequests config .initial) heap location = heap location := by
  have unwritten : ∀ request : IORequest, request.isRead = true →
      location ∉ (performRequest stages request).writes := by
    intro request isRead written
    rcases performRequest_writes_read isRead written with same | same
    · exact notImage _ same
    · exact notReader same
  refine perform_frame (forall_mem_append (forall_mem_append ?_ ?_) ?_) heap
  · exact forall_mem_ite (forall_mem_requestEach fun _ _ => unwritten _ rfl)
  · exact forall_mem_ite (forall_mem_requestEach fun _ _ => unwritten _ rfl)
  · exact forall_mem_ite (forall_mem_requestEach fun _ _ => unwritten _ rfl)

/-- **The loop begins with nothing computed.** -/
theorem computed_start (accepted : config.Accepted) (contents : Contents stages) :
    Computed config contents 0
      (perform (createThreadWorkers config ++ createProjectionFilterers config ++
        createBackProjectors config ++ initialRequests config .initial) contents.heap) := by
  rw [perform_append]
  have kept : ∀ location, location ≠ .projectionsReader →
      (∀ buffer, location ≠ .image buffer) → (∀ t, location ≠ .threadWorker t) →
        perform (initialRequests config .initial)
          (perform (createThreadWorkers config ++ createProjectionFilterers config ++
            createBackProjectors config) contents.heap) location = contents.heap location :=
    fun location notReader notImage notObject =>
      (perform_initialRequests_frame location notReader notImage _).trans
        (perform_create_frame location notObject _)
  refine ⟨?_, ?_, ?_, ?_, ?_, ?_, ?_⟩
  · rw [groupStart_zero, Calculation.correctionsFile_zero]
    exact kept .attenuationCorrectionsFile (by simp) (by simp) (by simp)
  · rw [groupStart_zero, Calculation.attenuationSlices_zero]
    exact kept .attenuationProjectionsWriter (by simp) (by simp) (by simp)
  · rw [groupStart_zero, Calculation.filteredSlices_zero]
    exact kept .filteredProjectionsWriter (by simp) (by simp) (by simp)
  · intro t below
    rw [groupStart_zero]
    exact (perform_initialRequests_frame (.threadWorker t) (by simp) (by simp) _).trans
      (threadWorker_create accepted below)
  · exact kept .volumeWriter (by simp) (by simp) (by simp)
  · intro raw beam
    exact kept .beamPowerCorrector (by simp) (by simp) (by simp)
  · exact ahead_initialRequests accepted (perform_create_frame .projectionsReader (by simp) _)

/-! ## The loop -/

/-- **The loop takes every projection through the stages.** -/
theorem Computed.executionLoop (accepted : config.Accepted)
    (positive : 0 < projectionsPerStep config) {bound : ℕ}
    (enough : config.numberOfProjections ≤ k * projectionsPerStep config + bound)
    (computed : Computed config contents k heap) (sides : Sides config k buffers) :
    ∃ last, config.numberOfProjections ≤ last * projectionsPerStep config ∧
      Computed config contents last
        (perform (executionLoop config bound (k * projectionsPerStep config) buffers) heap) := by
  induction bound generalizing k buffers heap with
  | zero => exact ⟨k, enough, computed⟩
  | succ bound ih =>
      unfold MultiThreaded.executionLoop
      by_cases more : k * projectionsPerStep config < config.numberOfProjections
      · rw [if_pos more, perform_append, ← Nat.succ_mul]
        refine ih ?_ (computed.step accepted more positive sides.swap) sides.swap
        rw [Nat.succ_mul]
        omega
      · rw [if_neg more, perform_nil]
        exact ⟨k, Nat.le_of_not_lt more, computed⟩

/-! ## Behind the loop -/

theorem perform_finish_frame (location : Location) (other : location ≠ .volumeWriter)
    (heap : Heap (Val stages)) :
    perform ([.waitForCompletion] ++ writeVolume config ++ fitCorrections config ++
      synchronizeAllAndWait config.numberOfThreads) heap location = heap location := by
  rw [perform_append, perform_synchronizeAllAndWait]
  refine perform_frame (forall_mem_append (forall_mem_append ?_ (forall_mem_ite ?_))
    (forall_mem_ite ?_)) heap
  · intro action member
    obtain rfl := List.mem_singleton.mp member
    exact List.not_mem_nil
  · intro action member
    obtain ⟨t, -, sent⟩ := List.mem_flatMap.mp member
    rcases List.mem_cons.mp sent with rfl | sent
    · simpa [MainAction.command, performMessage, writeVolumeData, assign, Command.assign]
        using other
    · rcases List.mem_cons.mp sent with rfl | sent
      · exact List.not_mem_nil
      · obtain rfl := List.mem_singleton.mp sent
        exact List.not_mem_nil
  · intro action member
    obtain rfl := List.mem_singleton.mp member
    exact List.not_mem_nil

/-- **Executed in the order of issue, the program calculates every projection once and
applies it to every subvolume.** -/
theorem perform_execute (accepted : config.Accepted) (threads : 0 < config.numberOfThreads)
    (projections : 0 < config.numberOfProjections) (contents : Contents stages) :
    let final := perform (execute config) contents.heap
    let calculation := config.calculation contents
    let count := config.numberOfProjections
    correctionLines final = calculation.correctionsFile count ∧
      attenuationSlices final = calculation.attenuationSlices count ∧
      filteredSlices final = calculation.filteredSlices count ∧
      ∀ t < config.numberOfThreads, threadWorker final t =
        some (objectsOf config calculation t count) := by
  have positive := projectionsPerStep_pos threads projections
  have start : 0 * projectionsPerStep config = 0 := Nat.zero_mul _
  have enough : config.numberOfProjections ≤
      0 * projectionsPerStep config + config.numberOfProjections := by
    omega
  obtain ⟨last, reached, computed⟩ := (computed_start accepted contents).executionLoop accepted
    positive enough (sides_initial config)
  have all : groupStart config last = config.numberOfProjections := min_eq_left reached
  rw [start] at computed
  obtain ⟨corrections, attenuation, filtered, workers, -⟩ := computed
  rw [all] at corrections attenuation filtered workers
  rw [execute_eq, perform_append, perform_append]
  refine ⟨?_, ?_, ?_, ?_⟩
  · exact (perform_finish_frame .attenuationCorrectionsFile (by simp) _).trans corrections
  · exact (perform_finish_frame .attenuationProjectionsWriter (by simp) _).trans attenuation
  · exact (perform_finish_frame .filteredProjectionsWriter (by simp) _).trans filtered
  · intro t below
    exact (perform_finish_frame (.threadWorker t) (by simp) _).trans (workers t below)

end AthabascaRecon.MultiThreaded
