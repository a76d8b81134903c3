import AthabascaRecon.Engines.MultiThreaded.Conformance
import AthabascaRecon.Engines.MultiThreaded.Invariant

/-!
# Some thread can always go on

A state in which no thread can go on would have the main thread wait at a barrier
or sleep in `WaitForCompletion`. The ledger says who has to come to that barrier,
and that nobody who has to is stuck elsewhere: a thread that sleeps waits for an
image in flight, and then the IO processor can go on.
-/

set_option autoImplicit false

namespace AthabascaRecon.MultiThreaded

open Foundation.Concurrency

variable {stages : Stages} {config : Config} {state : State stages}

/-- Some thread can go on. -/
def Enabled (config : Config) (state : State stages) : Prop :=
  ∃ label, (step config state label).isSome

/-- The IO processor can go on while a request is not registered. -/
theorem Awake.enabled_of_unregistered (awake : Awake state) (inside : ¬ state.Exited)
    (waiting : state.io.unregistered ≠ []) : Enabled config state := by
  have notStopped := awake.running inside
  have alive : state.io.worker ≠ .exited := by
    intro dead
    rw [awake.alive dead] at notStopped
    cases notStopped
  refine ⟨.io, ?_⟩
  have front := AsynchronousIOProcessor.exists_step_of_unregistered IORequest.image notStopped
    alive waiting
  cases position : state.io.worker with
  | exited => exact absurd position alive
  | idle =>
      rcases front with taken | executed | registered
      · simpa [step, State.stepIO, position] using taken
      · simp [AsynchronousIOProcessor.executeOperation, position] at executed
      · simp [AsynchronousIOProcessor.registerCompleted, position] at registered
  | fetched request =>
      simp [step, State.stepIO, position, AsynchronousIOProcessor.executeOperation]
  | performed request =>
      simp [step, State.stepIO, position, AsynchronousIOProcessor.registerCompleted]

/-- A thread that executes a message can go on, or has to throw. -/
theorem enabled_of_executing {t : ℕ} (thread : t < config.numberOfThreads) {message : Message}
    (executing : state.worker t = .executing message) : Enabled config state := by
  by_cases goes : (state.executeMessage t message).isSome
  · exact ⟨.worker t, by simpa [step, thread, State.stepWorker, executing] using goes⟩
  · have ordinary : State.canThrow message = true := by
      cases message <;> first | rfl | exact absurd rfl goes
    exact ⟨.workerThrows t "" state.heap, by
      simp [step, thread, State.workerThrows, executing, ordinary]⟩

/-- A thread with a message pending can go on unless it waits at a barrier, or the
IO processor can go on. -/
theorem Controlled.enabled_of_pending {ledger : Ledger}
    (controlled : Controlled config ledger state) (awake : Awake state)
    (inside : ¬ state.Exited) {t : ℕ} (thread : t < config.numberOfThreads)
    (pending : state.pendingMessages t ≠ []) :
    Enabled config state ∨ ∃ barrier, state.worker t = .waiting barrier := by
  cases status : state.worker t with
  | waiting barrier => exact Or.inr ⟨barrier, rfl⟩
  | executing message => exact Or.inl (enabled_of_executing thread status)
  | testing data =>
      exact Or.inl ⟨.worker t, by simp [step, thread, State.stepWorker, status]⟩
  | idle =>
      cases front : state.queue t with
      | nil => simp [State.pendingMessages, status, front] at pending
      | cons message rest =>
          exact Or.inl ⟨.worker t, by simp [step, thread, State.stepWorker, status, front]⟩
  | sleeping data notified =>
      cases notified with
      | true =>
          refine Or.inl ⟨.worker t, ?_⟩
          by_cases stopped : state.io.stopped = true <;>
            simp [step, thread, State.stepWorker, status, stopped]
      | false =>
          -- the image is not registered, so its request is still to be executed
          have inFlight : InFlight state data := controlled.awaited t data (by
            simp [State.pendingMessages, status])
          rcases inFlight with ⟨request, member, -⟩ | completed
          · exact Or.inl (awake.enabled_of_unregistered inside (List.ne_nil_of_mem member))
          · exact absurd completed (awake.worker t data status)

/-- A thread that was sent to a barrier waits at it, or somebody can go on. -/
theorem Controlled.enabled_or_waiting {ledger : Ledger}
    (controlled : Controlled config ledger state) (awake : Awake state)
    (inside : ¬ state.Exited) {t : ℕ} (thread : t < config.numberOfThreads) {barrier : Barrier}
    (sent : .synchronize barrier ∈ ledger.issued t) :
    Enabled config state ∨ state.worker t = .waiting barrier := by
  obtain ⟨front, pending⟩ := controlled.exists_pending sent rfl
  rcases controlled.enabled_of_pending awake inside thread (by simp [pending]) with
    enabled | ⟨other, waiting⟩
  · exact Or.inl enabled
  · -- the barrier it waits at is the last message it was sent
    have empty := (controlled.queue_of_waiting waiting).2
    have last : [] ++ [Message.synchronize other] = front ++ [.synchronize barrier] := by
      simpa [State.pendingMessages, waiting, empty] using pending
    obtain ⟨-, same⟩ := List.append_inj' last rfl
    obtain rfl : other = barrier := by simpa using same
    exact Or.inr waiting

/-- While the main thread waits at a barrier somebody else can go on, or the barrier
opens. -/
theorem Controlled.enabled_of_mainWaits {ledger : Ledger}
    (controlled : Controlled config ledger state) (awake : Awake state)
    (running : state.main = .running) {barrier : Barrier} {rest : List MainAction}
    (front : state.program = .barrierWait barrier :: rest) : Enabled config state := by
  by_contra stuck
  have inside := not_exited_of_running running
  have waits : state.mainWaits barrier = true := State.mainWaits_iff.mpr ⟨running, rest, front⟩
  have allowed := controlled.conforms
  rw [front] at allowed
  replace allowed := allowed.1
  refine stuck ⟨.release barrier, ?_⟩
  have full : state.waiters config barrier = barrier.count config := by
    rw [State.waiters, waits, Bool.toNat_true]
    cases barrier with
    | meAndAllWorkers =>
        have all : (List.range config.numberOfThreads).countP
            (state.worker · == .waiting .meAndAllWorkers) =
              (List.range config.numberOfThreads).length := by
          rw [List.countP_eq_length]
          intro t member
          have thread := List.mem_range.mp member
          rcases controlled.enabled_or_waiting awake inside thread (allowed t thread) with
            enabled | waiting
          · exact absurd enabled stuck
          · simp [waiting]
        rw [all, List.length_range]
        rfl
    | meAndOneWorker =>
        obtain ⟨partner, thread, sent, others⟩ := allowed
        have waiting := (controlled.enabled_or_waiting awake inside thread sent).resolve_left stuck
        have only : ∀ t, state.worker t = .waiting .meAndOneWorker → t = partner := by
          intro t waiting'
          by_contra different
          have sent' := (controlled.queue_of_waiting waiting').1
          rw [others t different] at sent'
          exact absurd sent' List.not_mem_nil
        have atMost := countP_range_le_one config.numberOfThreads
          (state.worker · == .waiting .meAndOneWorker) fun t t' first second =>
            (only t (by simpa using first)).trans (only t' (by simpa using second)).symm
        have atLeast : 0 < (List.range config.numberOfThreads).countP
            (state.worker · == .waiting .meAndOneWorker) :=
          List.countP_pos_iff.mpr ⟨partner, List.mem_range.mpr thread, by simp [waiting]⟩
        simp only [Barrier.count]
        omega
  simp [step, full]

/-- Until the main thread leaves, somebody can go on. -/
theorem Invariant.enabled (invariant : Invariant config state) (inside : ¬ state.Exited) :
    Enabled config state := by
  obtain ⟨ledger, controlled⟩ := invariant.control inside
  have awake := invariant.awake
  cases status : state.main with
  | returned => exact absurd (Or.inl status) inside
  | threw exception => exact absurd (Or.inr ⟨exception, status⟩) inside
  | counting =>
      refine ⟨.main, ?_⟩
      by_cases empty : state.io.queue = [] <;>
        simp [MultiThreaded.step, State.stepMain, status, empty]
  | sleeping notified =>
      cases notified with
      | true => exact ⟨.main, by simp [MultiThreaded.step, State.stepMain, status]⟩
      | false => exact awake.enabled_of_unregistered inside (awake.main status)
  | running =>
      cases front : state.program with
      | nil => exact ⟨.main, by simp [MultiThreaded.step, State.stepMain, status, front]⟩
      | cons action rest =>
          cases action with
          | barrierWait barrier => exact controlled.enabled_of_mainWaits awake status front
          | _ => exact ⟨.main, by
              simp [MultiThreaded.step, State.stepMain, status, front, State.stepStatement]⟩

/-- Every state of a run of an accepted configuration satisfies the invariant. -/
theorem invariant_of_reachable (accepted : config.Accepted)
    (threads : 0 < config.numberOfThreads) (projections : 0 < config.numberOfProjections)
    {contents : Contents stages} (reachable : Reachable config contents state) :
    Invariant config state := by
  obtain ⟨conforms, final⟩ := execute_conforms accepted threads projections
  obtain ⟨schedule, taken⟩ := reachable
  exact (invariant_initial conforms final).run taken

/-- **The pipeline never deadlocks**, whichever stages and IO operations throw: until
the main thread leaves some thread can go on, and every image that a thread waits for
has a request that is not executed or whose completion is not consumed. -/
theorem executeOnThreads_never_deadlocks (accepted : config.Accepted)
    (threads : 0 < config.numberOfThreads) (projections : 0 < config.numberOfProjections)
    {contents : Contents stages} (reachable : Reachable config contents state)
    (inside : ¬ state.Exited) :
    Enabled config state ∧
      ∀ t data, .waitForBufferRelease data ∈ state.pendingMessages t → InFlight state data := by
  have invariant := invariant_of_reachable accepted threads projections reachable
  obtain ⟨ledger, controlled⟩ := invariant.control inside
  exact ⟨invariant.enabled inside, controlled.awaited⟩

/-! ### A small configuration -/

/-- Stages on numbers. -/
def numberStages : Stages where
  RawProjection := ℕ
  Projection := ℕ
  Reference := ℕ
  Correction := ℕ
  Space := ℕ
  readRaw p := p
  readAttenuation p := p
  readFiltered p := p
  processProjection projection := projection
  correctBadPixels projection := projection
  setReferenceProjection _ projection := projection
  correctBeamPower reference _ projection := (projection, reference)
  filterProjection projection := projection
  deltaTheta := 1
  scaleAngle p angle := p * angle

def numberContents : Contents numberStages where
  raw _ := (0 : ℕ)
  attenuation _ := (0 : ℕ)
  filtered _ := (0 : ℕ)
  correction _ := (0 : ℕ)
  reference := (0 : ℕ)

/-- One filtered projection is read and back-projected by one thread. -/
def smallConfig : Config where
  build := ⟨false, false⟩
  rawProjectionsReader := false
  attenuationProjectionsReader := false
  filteredProjectionsReader := true
  badPixelCorrector := false
  beamPowerCorrector := false
  attenuationCorrectionsFile := false
  attenuationProjectionsWriter := false
  filteredProjectionsWriter := false
  volumeWriter := true
  projectionsAtBothLimits := false
  reverseRotation := false
  filteringModule := .convolution
  numberOfProjections := 1
  volumeSlices := 1
  numberOfThreads := 1
  subvolumeSlices _ := 1
  subvolumeSlices_le _ := le_rfl

theorem smallConfig_accepted : smallConfig.Accepted where
  oneReader := rfl
  attenuationOnce := rfl
  filteredOnce := rfl
  filteredLast := rfl
  moduleCompiled := nofun
  corrections := nofun

/-! ### Two threads -/

/-- Three attenuation projections for two threads, so the second group is not full. -/
def twoThreads : Config where
  build := ⟨false, false⟩
  rawProjectionsReader := false
  attenuationProjectionsReader := true
  filteredProjectionsReader := false
  badPixelCorrector := false
  beamPowerCorrector := false
  attenuationCorrectionsFile := false
  attenuationProjectionsWriter := false
  filteredProjectionsWriter := false
  volumeWriter := true
  projectionsAtBothLimits := false
  reverseRotation := false
  filteringModule := .convolution
  numberOfProjections := 3
  volumeSlices := 3
  numberOfThreads := 2
  subvolumeSlices t := if t = 0 then 2 else 1
  subvolumeSlices_le t := by split <;> decide

theorem twoThreads_accepted : twoThreads.Accepted where
  oneReader := rfl
  attenuationOnce := rfl
  filteredOnce := rfl
  filteredLast := rfl
  moduleCompiled _ := rfl
  corrections := nofun

/-- The worker threads sleep until their first projections are read. -/
def untilBothSleep : List (Label numberStages) :=
  List.replicate 17 .main ++ List.replicate 11 (.worker 0) ++ List.replicate 11 (.worker 1)

/-- The main thread waits at the barrier while both worker threads sleep. -/
theorem untilBothSleep_never_deadlocks :
    ∃ state, run twoThreads (State.initial twoThreads numberContents) untilBothSleep =
        some state ∧
      state.worker 0 = .sleeping (.attenuation ⟨0, .a⟩) false ∧
      state.worker 1 = .sleeping (.attenuation ⟨1, .a⟩) false ∧ Enabled twoThreads state := by
  have sleeps : (run twoThreads (State.initial twoThreads numberContents) untilBothSleep).map
      (fun state => (state.main, state.worker 0, state.worker 1)) = some (.running,
        .sleeping (.attenuation ⟨0, .a⟩) false, .sleeping (.attenuation ⟨1, .a⟩) false) := by
    decide +kernel
  obtain ⟨state, taken, statuses⟩ := Option.map_eq_some_iff.mp sleeps
  obtain ⟨running, first, second⟩ := by simpa only [Prod.mk.injEq] using statuses
  exact ⟨state, taken, first, second, (executeOnThreads_never_deadlocks twoThreads_accepted
    (by decide) (by decide) ⟨untilBothSleep, taken⟩ (not_exited_of_running running)).1⟩

end AthabascaRecon.MultiThreaded
