import AthabascaRecon.Engines.MultiThreaded.Conformance

/-!
# Where the main thread looks at the worker threads

The main thread looks at parked exceptions in `synchronizeAndCheck`, for the
threads whose lane the group uses. Behind the loop it looks at no worker thread
any more. So it depends on the message and on the thread whether the main thread
will look at the thread after the message is sent (`Message.watched`).
-/

set_option autoImplicit false

namespace AthabascaRecon.MultiThreaded

section Statements

variable (config : Config)

/-- The main thread looks at the exception of the thread after it sent the message.
Objects are created in front of the first group of projections; a back-projection is
followed by the end of its group. -/
def Message.watched (t : ℕ) : Message → Bool
  | .createThreadWorker => decide (t < projectionsPerStep config)
  | .createProjectionFilterer => decide (t < projectionsPerStep config)
  | .createBackProjector => decide (t < projectionsPerStep config)
  | .allocateVolume _ => decide (t < projectionsPerStep config)
  | .waitForBufferRelease _ => true
  | .convertToAttenuation _ _ => true
  | .correctBadPixels _ => true
  | .correctBeamPower _ _ => true
  | .filterProjection _ _ => true
  | .applyProjection _ index =>
      decide (t < projectionsThisStep config
        (index / projectionsPerStep config * projectionsPerStep config))
  | .writeVolumeData => false
  | .synchronize _ => false

/-- Behind every watched message comes a look at its thread. -/
def Watched : List MainAction → Prop
  | [] => True
  | .setMessage t message :: rest =>
      (message.watched config t = true → .checkException t ∈ rest) ∧ Watched rest
  | _ :: rest => Watched rest

variable {config}

theorem Watched.tail {action : MainAction} {rest : List MainAction}
    (watched : Watched config (action :: rest)) : Watched config rest := by
  cases action with
  | setMessage t message => exact watched.2
  | _ => exact watched

/-- The look may come in a later part of the program. -/
theorem Watched.append {first second : List MainAction}
    (later : ∀ t message, .setMessage t message ∈ first → message.watched config t = true →
      .checkException t ∈ second)
    (watched : Watched config second) : Watched config (first ++ second) := by
  induction first with
  | nil => exact watched
  | cons action rest ih =>
      have watchedRest := ih fun t message member => later t message (List.mem_cons_of_mem _ member)
      cases action with
      | setMessage t message =>
          refine ⟨?_, watchedRest⟩
          intro watches
          exact List.mem_append_right _ (later t message List.mem_cons_self watches)
      | _ => exact watchedRest

theorem setMessage_mem_sendEach {count t : ℕ} {message : Message} {messages : ℕ → Message} :
    .setMessage t message ∈ sendEach count messages ↔ t < count ∧ messages t = message := by
  simp only [sendEach, List.mem_map, List.mem_range]
  constructor
  · rintro ⟨t', below, same⟩
    obtain ⟨rfl, rfl⟩ : t' = t ∧ messages t' = message := by simpa using same
    exact ⟨below, rfl⟩
  · rintro ⟨below, rfl⟩
    exact ⟨t, below, rfl⟩

theorem checkException_mem_checkExceptions {count t : ℕ} :
    .checkException t ∈ checkExceptions count ↔ t < count := by
  simp [checkExceptions]

theorem setMessage_mem_synchronizeAllAndWait {count t : ℕ} {message : Message}
    (member : .setMessage t message ∈ synchronizeAllAndWait count) :
    message = .synchronize .meAndAllWorkers := by
  rcases List.mem_append.mp member with sent | wait
  · exact (setMessage_mem_sendEach.mp sent).2.symm
  · simp at wait

/-- A message that begins with a new object. -/
def Message.creates : Message → Bool
  | .createThreadWorker => true
  | .createBackProjector => true
  | _ => false

/-- The statements of a group in front of its barrier. Messages on images go to the lanes of
the group. -/
inductive Prepares (config : Config) (p : ℕ) : MainAction → Prop where
  | waits {pp : ℕ} (below : pp < projectionsThisStep config p) (data : Buffer) :
      Prepares config p (.setMessage pp (.waitForBufferRelease data))
  | reads {request : IORequest} (isRead : request.isRead = true) :
      Prepares config p (.requestIOOperation request)
  | converts {pp : ℕ} (below : pp < projectionsThisStep config p) (raw attenuation : ImageSlot) :
      Prepares config p (.setMessage pp (.convertToAttenuation raw attenuation))
  | correctsPixels {pp : ℕ} (below : pp < projectionsThisStep config p) (slot : ImageSlot) :
      Prepares config p (.setMessage pp (.correctBadPixels slot))
  | correctsPower {pp : ℕ} (below : pp < projectionsThisStep config p) (index : ℕ)
      (slot : ImageSlot) : Prepares config p (.setMessage pp (.correctBeamPower index slot))
  | filters {pp : ℕ} (below : pp < projectionsThisStep config p)
      (attenuation filtered : ImageSlot) :
      Prepares config p (.setMessage pp (.filterProjection attenuation filtered))
  | synchronizes (t : ℕ) : Prepares config p (.setMessage t (.synchronize .meAndAllWorkers))
  | awaits : Prepares config p (.barrierWait .meAndAllWorkers)
  | refers (slot : ImageSlot) : Prepares config p (.setReferenceProjection slot)

theorem forall_mem_sendEach {count : ℕ} {messages : ℕ → Message} {property : MainAction → Prop}
    (each : ∀ t < count, property (.setMessage t (messages t))) :
    ∀ action ∈ sendEach count messages, property action := by
  intro action member
  obtain ⟨t, below, rfl⟩ := List.mem_map.mp member
  exact each t (List.mem_range.mp below)

theorem forall_mem_requestEach {count : ℕ} {request : ℕ → IORequest}
    {property : MainAction → Prop}
    (each : ∀ pp < count, property (.requestIOOperation (request pp))) :
    ∀ action ∈ requestEach count request, property action := by
  intro action member
  obtain ⟨pp, below, rfl⟩ := List.mem_map.mp member
  exact each pp (List.mem_range.mp below)

theorem forall_mem_ite {condition : Prop} [Decidable condition] {actions : List MainAction}
    {property : MainAction → Prop} (all : ∀ action ∈ actions, property action) :
    ∀ action ∈ if condition then actions else [], property action := by
  split_ifs
  · exact all
  · exact fun _ member => absurd member List.not_mem_nil

theorem forall_mem_append {first second : List MainAction} {property : MainAction → Prop}
    (before : ∀ action ∈ first, property action) (after : ∀ action ∈ second, property action) :
    ∀ action ∈ first ++ second, property action :=
  List.forall_mem_append.mpr ⟨before, after⟩

theorem prepares_synchronizeAllAndWait {p : ℕ} :
    ∀ action ∈ synchronizeAllAndWait config.numberOfThreads, Prepares config p action := by
  refine forall_mem_append (forall_mem_sendEach fun t _ => .synchronizes t) ?_
  intro action member
  obtain rfl := List.mem_singleton.mp member
  exact .awaits

theorem prepares_of_mem_prepareGroup {p : ℕ} {buffers : Buffers} :
    ∀ action ∈ prepareGroup config p buffers, Prepares config p action := by
  have waits : ∀ buffer : ℕ → Buffer, ∀ action ∈ sendEach (projectionsThisStep config p)
      (fun pp => .waitForBufferRelease (buffer pp)), Prepares config p action :=
    fun buffer => forall_mem_sendEach fun pp below => .waits below _
  have reads : ∀ request : ℕ → IORequest, (∀ pp, (request pp).isRead = true) →
      ∀ action ∈ requestEach (projectionsNextStep config p) request, Prepares config p action :=
    fun request isRead => forall_mem_requestEach fun pp _ => .reads (isRead pp)
  have refers : ∀ action ∈ [MainAction.setReferenceProjection (buffers.attenuationActive 0)],
      Prepares config p action := by
    intro action member
    obtain rfl := List.mem_singleton.mp member
    exact .refers _
  have corrects : ∀ action ∈ correctBeamPowers config p buffers, Prepares config p action :=
    forall_mem_ite (forall_mem_append
      (forall_mem_ite (forall_mem_append prepares_synchronizeAllAndWait refers))
      (forall_mem_sendEach fun pp below => .correctsPower below _ _))
  have raw : ∀ action ∈ processRaw config p buffers, Prepares config p action :=
    forall_mem_ite (forall_mem_append (forall_mem_append (forall_mem_append (forall_mem_append
      (reads _ fun _ => rfl) (waits _))
      (forall_mem_sendEach fun pp below => .converts below _ _))
      (forall_mem_ite (forall_mem_sendEach fun pp below => .correctsPixels below _))) corrects)
  have filters : ∀ action ∈ filterProjections config p buffers, Prepares config p action := by
    unfold filterProjections
    split_ifs
    · exact forall_mem_append (reads _ fun _ => rfl) (waits _)
    · exact forall_mem_sendEach fun pp below => .filters below _ _
    · exact fun _ member => absurd member List.not_mem_nil
  exact forall_mem_append (forall_mem_append (forall_mem_append (forall_mem_append
    (forall_mem_ite (forall_mem_ite (waits _))) raw)
    (forall_mem_ite (forall_mem_append (reads _ fun _ => rfl) (waits _))))
    (forall_mem_ite (forall_mem_ite (waits _)))) filters

/-- In front of the barrier of a group, messages go to the lanes of the group, or to the
barrier. -/
theorem setMessage_mem_prepareGroup {p t : ℕ} {buffers : Buffers} {message : Message}
    (member : .setMessage t message ∈ prepareGroup config p buffers) :
    (t < projectionsThisStep config p ∧ message.creates = false) ∨
      message = .synchronize .meAndAllWorkers := by
  cases prepares_of_mem_prepareGroup _ member with
  | synchronizes => exact Or.inr rfl
  | waits below => exact Or.inl ⟨below, rfl⟩
  | converts below => exact Or.inl ⟨below, rfl⟩
  | correctsPixels below => exact Or.inl ⟨below, rfl⟩
  | correctsPower below => exact Or.inl ⟨below, rfl⟩
  | filters below => exact Or.inl ⟨below, rfl⟩

theorem mem_synchronizeAndCheck {p t : ℕ} (below : t < projectionsThisStep config p) :
    .checkException t ∈ synchronizeAndCheck config p :=
  List.mem_append_right _ (checkException_mem_checkExceptions.mpr below)

theorem setMessage_mem_synchronizeAndCheck {p t : ℕ} {message : Message}
    (member : .setMessage t message ∈ synchronizeAndCheck config p) :
    message = .synchronize .meAndAllWorkers := by
  rcases List.mem_append.mp member with sent | check
  · exact setMessage_mem_synchronizeAllAndWait sent
  · simp [checkExceptions] at check

theorem setMessage_not_mem_writeProjections {p t : ℕ} {buffers : Buffers} {message : Message} :
    .setMessage t message ∉ writeProjections config p buffers := by
  unfold writeProjections
  split_ifs <;> simp [requestEach]

/-- The back-projections of a group are followed by a look at the threads of its lanes. -/
theorem watched_backProject {k : ℕ} {buffers : Buffers} {later : List MainAction}
    (watched : Watched config later) :
    Watched config (backProject config (k * projectionsPerStep config) buffers ++ later) := by
  unfold backProject
  split_ifs with volume
  · rw [List.append_assoc]
    refine Watched.append (fun t message member watches => ?_)
      (Watched.append (fun t message member watches => ?_) watched)
    · obtain ⟨pp, inGroup, sent⟩ := List.mem_flatMap.mp member
      split_ifs at sent
      · exact absurd sent List.not_mem_nil
      · obtain ⟨-, rfl⟩ := setMessage_mem_sendEach.mp sent
        have lane : pp < projectionsPerStep config :=
          (List.mem_range.mp inGroup).trans_le (projectionsThisStep_le _)
        have group : (k * projectionsPerStep config + pp) / projectionsPerStep config = k := by
          rw [Nat.mul_comm, Nat.mul_add_div (by omega), Nat.div_eq_of_lt lane, Nat.add_zero]
        simp only [Message.watched, group, decide_eq_true_eq] at watches
        exact List.mem_append_left _ (mem_synchronizeAndCheck watches)
    · obtain rfl := setMessage_mem_synchronizeAndCheck member
      cases watches
  · exact watched

theorem watched_projectionGroup {k : ℕ} {buffers : Buffers} {later : List MainAction}
    (watched : Watched config later) :
    Watched config (projectionGroup config (k * projectionsPerStep config) buffers ++ later) := by
  have split : projectionGroup config (k * projectionsPerStep config) buffers ++ later =
      prepareGroup config (k * projectionsPerStep config) buffers ++
        (synchronizeAndCheck config (k * projectionsPerStep config) ++
          (writeProjections config (k * projectionsPerStep config) buffers ++
            (backProject config (k * projectionsPerStep config) buffers ++ later))) := by
    simp only [projectionGroup, prepareGroup, List.append_assoc]
  rw [split]
  refine Watched.append ?_ (Watched.append ?_ (Watched.append ?_ (watched_backProject watched)))
  · intro t message member watches
    rcases setMessage_mem_prepareGroup member with ⟨below, -⟩ | rfl
    · exact List.mem_append_left _ (mem_synchronizeAndCheck below)
    · cases watches
  · intro t message member watches
    obtain rfl := setMessage_mem_synchronizeAndCheck member
    cases watches
  · intro t message member
    exact absurd member setMessage_not_mem_writeProjections

theorem watched_executionLoop {bound k : ℕ} {buffers : Buffers} {later : List MainAction}
    (watched : Watched config later) :
    Watched config
      (executionLoop config bound (k * projectionsPerStep config) buffers ++ later) := by
  induction bound generalizing k buffers with
  | zero => exact watched
  | succ bound ih =>
      unfold executionLoop
      split_ifs
      · rw [List.append_assoc, ← Nat.succ_mul]
        exact watched_projectionGroup ih
      · exact watched

/-- The first group looks at every thread that has a lane. -/
theorem checkException_mem_executionLoop (projections : 0 < config.numberOfProjections) {t : ℕ}
    (below : t < projectionsPerStep config) {buffers : Buffers} :
    .checkException t ∈ executionLoop config config.numberOfProjections 0 buffers := by
  have first : projectionsThisStep config 0 = projectionsPerStep config := by
    unfold projectionsThisStep projectionsPerStep
    omega
  obtain ⟨bound, succ⟩ := Nat.exists_eq_succ_of_ne_zero projections.ne'
  rw [succ]
  simp only [executionLoop, projections, if_true, projectionGroup]
  have check : .checkException t ∈ synchronizeAndCheck config 0 :=
    mem_synchronizeAndCheck (first ▸ below)
  simp [check]

/-- In front of the loop the threads create their objects. -/
theorem setMessage_mem_start {t : ℕ} {message : Message} {buffers : Buffers}
    (member : .setMessage t message ∈ createThreadWorkers config ++
      createProjectionFilterers config ++ createBackProjectors config ++
      initialRequests config buffers) :
    message = .createThreadWorker ∨ message = .createProjectionFilterer ∨
      message = .createBackProjector ∨ ∃ slices, message = .allocateVolume slices := by
  rcases List.mem_append.mp member with objects | requests
  · rcases List.mem_append.mp objects with earlier | backProjectors
    · rcases List.mem_append.mp earlier with workers | filterers
      · exact Or.inl (setMessage_mem_sendEach.mp workers).2.symm
      · unfold createProjectionFilterers at filterers
        split_ifs at filterers
        · exact Or.inr (Or.inl (setMessage_mem_sendEach.mp filterers).2.symm)
        · simp at filterers
        · exact absurd filterers List.not_mem_nil
    · unfold createBackProjectors at backProjectors
      split_ifs at backProjectors
      · rcases List.mem_append.mp backProjectors with creates | allocates
        · exact Or.inr (Or.inr (Or.inl (setMessage_mem_sendEach.mp creates).2.symm))
        · exact Or.inr (Or.inr (Or.inr ⟨_, (setMessage_mem_sendEach.mp allocates).2.symm⟩))
      · exact absurd backProjectors List.not_mem_nil
  · unfold initialRequests at requests
    split_ifs at requests <;> simp [requestEach] at requests

/-- Behind the loop only the output of the volume and the barriers remain. -/
theorem setMessage_mem_end {t : ℕ} {message : Message}
    (member : .setMessage t message ∈ [.waitForCompletion] ++ writeVolume config ++
      fitCorrections config ++ synchronizeAllAndWait config.numberOfThreads) :
    message = .writeVolumeData ∨ ∃ barrier, message = .synchronize barrier := by
  rcases List.mem_append.mp member with earlier | barrier
  · rcases List.mem_append.mp earlier with volume | fits
    · rcases List.mem_append.mp volume with completes | writes
      · simp at completes
      · unfold writeVolume at writes
        split_ifs at writes
        · obtain ⟨t', -, sent⟩ := List.mem_flatMap.mp writes
          rcases List.mem_cons.mp sent with volume | sent
          · obtain ⟨-, rfl⟩ : t = t' ∧ message = .writeVolumeData := by simpa using volume
            exact Or.inl rfl
          · rcases List.mem_cons.mp sent with synchronizes | waits
            · obtain ⟨-, rfl⟩ : t = t' ∧ message = .synchronize .meAndOneWorker := by
                simpa using synchronizes
              exact Or.inr ⟨_, rfl⟩
            · simp at waits
        · exact absurd writes List.not_mem_nil
    · unfold fitCorrections at fits
      split_ifs at fits <;> simp at fits
  · exact Or.inr ⟨_, setMessage_mem_synchronizeAllAndWait barrier⟩

/-- Behind the loop the main thread looks at no thread. -/
theorem watched_end : Watched config ([.waitForCompletion] ++ writeVolume config ++
    fitCorrections config ++ synchronizeAllAndWait config.numberOfThreads) := by
  rw [← List.append_nil (_ ++ _)]
  refine Watched.append ?_ trivial
  intro t message member watches
  rcases setMessage_mem_end member with rfl | ⟨barrier, rfl⟩
  · cases watches
  · cases watches

/-- The program falls into the creation of objects with the first requests, the loop, and
what comes behind it. -/
theorem execute_eq (config : Config) : execute config =
    (createThreadWorkers config ++ createProjectionFilterers config ++
      createBackProjectors config ++ initialRequests config .initial) ++
    (executionLoop config config.numberOfProjections 0 .initial ++
      ([.waitForCompletion] ++ writeVolume config ++ fitCorrections config ++
        synchronizeAllAndWait config.numberOfThreads)) := by
  simp only [execute, executeOnThreads, List.append_assoc]

/-! ### Objects are created first -/

theorem not_creates_of_mem_executionLoop {bound p t : ℕ} {buffers : Buffers} {message : Message}
    (member : .setMessage t message ∈ executionLoop config bound p buffers) :
    message.creates = false := by
  induction bound generalizing p buffers with
  | zero => exact absurd member List.not_mem_nil
  | succ bound ih =>
      unfold executionLoop at member
      split_ifs at member
      · rcases List.mem_append.mp member with group | later
        · rcases List.mem_append.mp group with earlier | applies
          · rcases List.mem_append.mp earlier with earlier | writes
            · rcases List.mem_append.mp earlier with prepares | checks
              · rcases setMessage_mem_prepareGroup prepares with ⟨-, noObject⟩ | rfl
                · exact noObject
                · rfl
              · rw [setMessage_mem_synchronizeAndCheck checks]
                rfl
            · exact absurd writes setMessage_not_mem_writeProjections
          · unfold backProject at applies
            split_ifs at applies
            · rcases List.mem_append.mp applies with sent | checks
              · obtain ⟨pp, -, sent⟩ := List.mem_flatMap.mp sent
                split_ifs at sent
                · exact absurd sent List.not_mem_nil
                · obtain ⟨-, rfl⟩ := setMessage_mem_sendEach.mp sent
                  rfl
              · rw [setMessage_mem_synchronizeAndCheck checks]
                rfl
            · exact absurd applies List.not_mem_nil
        · exact ih later
      · exact absurd member List.not_mem_nil

/-- The second statement creates no object that the first one applies a projection to. -/
def MainAction.KeepsObject (first second : MainAction) : Prop :=
  ∀ t projection index message, first = .setMessage t (.applyProjection projection index) →
    second = .setMessage t message → message.creates = false

theorem execute_keepsObjects : (execute config).Pairwise MainAction.KeepsObject := by
  have before : ∀ first ∈ createThreadWorkers config ++ createProjectionFilterers config ++
      createBackProjectors config ++ initialRequests config .initial,
      ∀ second, first.KeepsObject second := by
    rintro first member second t projection index message rfl -
    rcases setMessage_mem_start member with other | other | other | ⟨slices, other⟩ <;> cases other
  have after : ∀ second ∈ executionLoop config config.numberOfProjections 0 .initial ++
      ([.waitForCompletion] ++ writeVolume config ++ fitCorrections config ++
        synchronizeAllAndWait config.numberOfThreads), ∀ first : MainAction,
      first.KeepsObject second := by
    rintro second member first t projection index message - rfl
    rcases List.mem_append.mp member with loop | behind
    · exact not_creates_of_mem_executionLoop loop
    · rcases setMessage_mem_end behind with rfl | ⟨barrier, rfl⟩ <;> rfl
  rw [execute_eq]
  refine List.pairwise_append.mpr ⟨?_, ?_, fun first member second _ => before first member second⟩
  · exact List.pairwise_of_forall_mem_list fun first member second _ => before first member second
  · exact List.pairwise_of_forall_mem_list fun first _ second member => after second member first

/-- **Behind every watched message of the program comes a look at its thread.** -/
theorem watched_execute (projections : 0 < config.numberOfProjections) :
    Watched config (execute config) := by
  rw [execute_eq]
  refine Watched.append ?_ ?_
  · intro t message member watches
    refine List.mem_append_left _ (checkException_mem_executionLoop projections ?_)
    rcases setMessage_mem_start member with rfl | rfl | rfl | ⟨slices, rfl⟩ <;>
      simpa [Message.watched] using watches
  · have loop := @watched_executionLoop config config.numberOfProjections 0 .initial
    rw [Nat.zero_mul] at loop
    exact loop watched_end

end Statements

end AthabascaRecon.MultiThreaded
