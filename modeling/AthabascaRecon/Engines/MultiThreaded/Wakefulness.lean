import AthabascaRecon.Engines.MultiThreaded.Effects

/-!
# Nobody sleeps for nothing

A condition wait of the IO processor ends with a notification, and a notification
reaches only those that sleep when it is sent. The tests in front of a wait are
made under the mutex that registering a completed request needs, so whoever
sleeps without a notification still has something to wait for (`Awake`).
-/

set_option autoImplicit false

namespace AthabascaRecon.MultiThreaded

open Foundation.Concurrency

variable {stages : Stages}

/-- The IO processor runs until the main thread leaves, and whoever sleeps on its
completed condition without a notification has something to wait for. -/
structure Awake (state : State stages) : Prop where
  running : ¬ state.Exited → state.io.stopped = false
  alive : state.io.worker = .exited → state.io.stopped = true
  worker : ∀ t data, state.worker t = .sleeping data false →
    data ∉ state.io.completedRequests
  main : state.main = .sleeping false → state.io.unregistered ≠ []

section Steps

variable {config : Config} {state state' : State stages}

theorem not_exited_of_running (running : state.main = .running) : ¬ state.Exited := by
  rintro (returned | ⟨exception, threw⟩)
  · rw [running] at returned
    cases returned
  · rw [running] at threw
    cases threw

/-- The main thread leaves. -/
theorem Awake.leave (awake : Awake state) {status : MainStatus}
    (exited : (state.leave status).Exited) (notAsleep : status ≠ .sleeping false) :
    Awake (state.leave status) where
  running inside := absurd exited inside
  alive _ := rfl
  worker := awake.worker
  main asleep := absurd asleep notAsleep

/-- The main thread changes its own position, the queues or the memory. -/
theorem Awake.main_step (awake : Awake state) (inside : ¬ state.Exited)
    (worker : state'.worker = state.worker) (io : state'.io = state.io)
    (main : state'.main = .sleeping false → state.io.unregistered ≠ []) : Awake state' where
  running _ := io ▸ awake.running inside
  alive dead := io ▸ awake.alive (io ▸ dead)
  worker t data asleep := io ▸ awake.worker t data (worker ▸ asleep)
  main asleep := io ▸ main asleep

theorem Awake.requestIOOperation (awake : Awake state) (inside : ¬ state.Exited)
    (request : IORequest) :
    Awake { state with io := state.io.requestIOOperation request }.proceed := by
  have notStopped := awake.running inside
  refine ⟨fun _ => ?_, fun dead => ?_, fun t data asleep => ?_, fun asleep => ?_⟩
  · simp [State.proceed, AsynchronousIOProcessor.requestIOOperation, notStopped]
  · have dead' : state.io.worker = .exited := by
      simpa [State.proceed, AsynchronousIOProcessor.requestIOOperation, notStopped] using dead
    rw [awake.alive dead'] at notStopped
    cases notStopped
  · simpa [State.proceed, AsynchronousIOProcessor.requestIOOperation, notStopped]
      using awake.worker t data asleep
  · cases asleep

theorem Awake.stepStatement (awake : Awake state) (running : state.main = .running)
    {action : MainAction} (taken : state.stepStatement action = some state') :
    Awake state' := by
  have inside := not_exited_of_running running
  have thrown : ∀ exception, Awake (state.leave (.threw exception)) := fun exception =>
    awake.leave (Or.inr ⟨exception, rfl⟩) (by simp)
  have proceeds : ∀ heap, Awake { state with heap := heap }.proceed := fun heap =>
    awake.main_step inside rfl rfl (by simp [State.proceed])
  cases action with
  | setMessage t message =>
      obtain rfl := (Option.some.inj taken).symm
      exact awake.main_step inside rfl rfl (by simp [State.proceed])
  | requestIOOperation request =>
      obtain rfl := (Option.some.inj taken).symm
      exact awake.requestIOOperation inside request
  | barrierWait barrier => cases taken
  | checkException t =>
      obtain rfl := (Option.some.inj taken).symm
      rcases state.rethrow_cases state.proceed (state.exception t) with
        ⟨-, same⟩ | ⟨exception, -, same⟩ <;> rw [same]
      · exact proceeds state.heap
      · exact thrown exception
  | setReferenceProjection slot =>
      obtain rfl := (Option.some.inj taken).symm
      exact proceeds _
  | writeCorrection index =>
      obtain rfl := (Option.some.inj taken).symm
      exact proceeds _
  | waitForCompletion =>
      obtain rfl := (Option.some.inj taken).symm
      rcases state.rethrow_cases { state with main := .counting } state.io.exception with
        ⟨-, same⟩ | ⟨exception, -, same⟩ <;> rw [same]
      · exact awake.main_step inside rfl rfl (by simp)
      · exact thrown exception
  | linearFit =>
      obtain rfl := (Option.some.inj taken).symm
      exact proceeds state.heap
  | throwInternalError =>
      obtain rfl := (Option.some.inj taken).symm
      exact thrown _

theorem Awake.stepMain (awake : Awake state) (taken : state.stepMain = some state') :
    Awake state' := by
  rcases State.stepMain_cases taken with ⟨running, -, rfl⟩ |
    ⟨action, rest, running, -, taken⟩ | ⟨counting, -, rfl⟩ | ⟨counting, queued, rfl⟩ |
    ⟨asleep, rfl⟩
  · exact awake.leave (Or.inl rfl) (by simp)
  · exact awake.stepStatement running taken
  · exact awake.main_step (by simp [State.Exited, counting]) rfl rfl (by simp [State.proceed])
  · refine awake.main_step (by simp [State.Exited, counting]) rfl rfl fun _ => ?_
    simp [AsynchronousIOProcessor.unregistered, queued]
  · rcases state.rethrow_cases { state with main := .counting } state.io.exception with
      ⟨-, same⟩ | ⟨exception, -, same⟩ <;> rw [same]
    · exact awake.main_step (by simp [State.Exited, asleep]) rfl rfl (by simp)
    · exact awake.leave (Or.inr ⟨exception, rfl⟩) (by simp)

/-- The worker threads: whoever goes to sleep did not find the image. -/
theorem Awake.worker_step (awake : Awake state) {t : ℕ}
    (same : State.SameElsewhere t state state')
    (io : state'.io = state.io ∨ ∃ data, state'.io = state.io.releaseBuffer data)
    (asleep : ∀ data, state'.worker t = .sleeping data false →
      data ∉ state.io.completedRequests) : Awake state' := by
  have exited : state'.Exited ↔ state.Exited := by simp [State.Exited, same.main]
  have stopped : state'.io.stopped = state.io.stopped := by
    rcases io with io | ⟨data, io⟩
    · rw [io]
    · rw [io]
      rfl
  have worker : state'.io.worker = state.io.worker := by
    rcases io with io | ⟨data, io⟩
    · rw [io]
    · rw [io]
      rfl
  have unregistered : state'.io.unregistered = state.io.unregistered := by
    rcases io with io | ⟨data, io⟩
    · rw [io]
    · rw [io]
      rfl
  have completed : ∀ data, data ∈ state'.io.completedRequests →
      data ∈ state.io.completedRequests := by
    intro data member
    rcases io with io | ⟨consumed, io⟩ <;> rw [io] at member
    · exact member
    · exact Finset.mem_of_mem_erase member
  refine ⟨fun inside => stopped ▸ awake.running (exited.not.mp inside),
    fun dead => stopped ▸ awake.alive (worker ▸ dead), fun t' data sleeping found => ?_,
    fun sleeping => unregistered ▸ awake.main (same.main ▸ sleeping)⟩
  by_cases here : t' = t
  · subst here
    exact asleep data sleeping (completed data found)
  · exact awake.worker t' data (same.worker t' here ▸ sleeping) (completed data found)

theorem Awake.worker_effect (awake : Awake state) {t : ℕ}
    (same : State.SameElsewhere t state state')
    (effect : State.WorkerEffect t state state') : Awake state' := by
  cases effect with
  | inside pending exception io heap asleep => exact awake.worker_step same (Or.inl io) asleep
  | finished message ordinary pending idle exception io =>
      exact awake.worker_step same (Or.inl io) fun data asleep => by simp [idle] at asleep
  | released data pending idle exception completed io =>
      exact awake.worker_step same (Or.inr ⟨data, io⟩) fun data asleep => by simp [idle] at asleep
  | failedWait data pending idle parked cause io =>
      exact awake.worker_step same (Or.inl io) fun data asleep => by simp [idle] at asleep

/-- The operation that was fetched is executed, or throws. -/
theorem Awake.executeOperation (awake : Awake state) {failure : Option String}
    {io : AsynchronousIOProcessor IORequest Buffer}
    (executed : state.io.executeOperation failure = some io) (heap : Heap (Val stages)) :
    Awake { state with io := io, heap := heap } := by
  obtain ⟨request, fetched, rfl⟩ := AsynchronousIOProcessor.executeOperation_cases executed
  exact ⟨awake.running, fun dead => by simp at dead, awake.worker, fun _ => by
    simp [AsynchronousIOProcessor.unregistered, AsynchronousIOProcessor.inHand]⟩

theorem Awake.stepIO (awake : Awake state) (taken : state.stepIO = some state') :
    Awake state' := by
  rcases State.stepIO_cases taken with ⟨io, fetched, rfl⟩ | ⟨request, io, -, executed, rfl⟩ |
    ⟨io, registered, rfl⟩
  · obtain ⟨request, rest, -, -, -, rfl⟩ := AsynchronousIOProcessor.getRequest_cases fetched
    exact ⟨awake.running, fun dead => by simp at dead, awake.worker, fun _ => by
      simp [AsynchronousIOProcessor.unregistered, AsynchronousIOProcessor.inHand]⟩
  · exact awake.executeOperation executed _
  · -- the notification wakes everybody up
    obtain ⟨request, -, rfl⟩ := AsynchronousIOProcessor.registerCompleted_cases registered
    refine ⟨fun inside => awake.running (mt (State.exited_notify _).mpr inside), fun dead => ?_,
      fun t data asleep => ?_, fun asleep => ?_⟩
    · simp [State.notify] at dead
    · cases status : state.worker t <;> simp [State.notify, status] at asleep
    · cases status : state.main <;> simp [State.notify, status] at asleep

theorem Awake.ioExit (awake : Awake state) {io : AsynchronousIOProcessor IORequest Buffer}
    (left : state.io.exitWorker = some io) : Awake { state with io := io } := by
  obtain ⟨stopped, rfl⟩ := AsynchronousIOProcessor.exitWorker_cases left
  refine ⟨awake.running, fun _ => stopped, awake.worker, fun asleep => ?_⟩
  have inside : ¬ state.Exited := by
    rintro (returned | ⟨exception, threw⟩) <;> simp_all
  rw [awake.running inside] at stopped
  cases stopped

theorem Awake.release (awake : Awake state) (barrier : Barrier)
    (waits : state.mainWaits barrier = true) : Awake (state.releaseAll barrier) := by
  obtain ⟨running, rest, front⟩ := State.mainWaits_iff.mp waits
  refine ⟨fun _ => ?_, fun dead => ?_, fun t data asleep => ?_, fun asleep => ?_⟩
  · rw [State.releaseAll_io]
    exact awake.running (not_exited_of_running running)
  · rw [State.releaseAll_io] at dead ⊢
    exact awake.alive dead
  · rw [State.releaseAll_worker] at asleep
    rw [State.releaseAll_io]
    split_ifs at asleep
    exact awake.worker t data asleep
  · rw [State.releaseAll_main waits] at asleep
    cases asleep

end Steps

end AthabascaRecon.MultiThreaded
