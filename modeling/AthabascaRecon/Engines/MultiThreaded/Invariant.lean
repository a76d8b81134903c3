import AthabascaRecon.Engines.MultiThreaded.Control
import AthabascaRecon.Engines.MultiThreaded.Wakefulness

/-!
# What holds in every state of a run

The invariant of a run has three parts: nobody sleeps for nothing, the ledger of
the main thread agrees with the other threads while the main thread is inside
`ExecuteOnThreads`, and no message is pending once it has left.
-/

set_option autoImplicit false

namespace AthabascaRecon.MultiThreaded

open Foundation.Concurrency

variable {stages : Stages}

/-- What holds of every state of a run. -/
structure Invariant (config : Config) (state : State stages) : Prop where
  awake : Awake state
  control : ¬ state.Exited → ∃ ledger, Controlled config ledger state
  exited : state.Exited → Quiescent state

section Steps

variable {config : Config} {state state' : State stages}

theorem Controlled.quiescent {ledger : Ledger} (controlled : Controlled config ledger state)
    (synchronized : ledger.Synchronized) : Quiescent state :=
  fun t => controlled.pending_of_unissued (synchronized t)

/-- The main thread is still inside, and the ledger is known. -/
theorem Controlled.invariant {ledger : Ledger} (controlled : Controlled config ledger state)
    (awake : Awake state) (inside : ¬ state.Exited) : Invariant config state :=
  ⟨awake, fun _ => ⟨ledger, controlled⟩, fun exited => absurd exited inside⟩

/-- The main thread has left, and nothing is pending. -/
theorem Quiescent.invariant {state : State stages} (quiescent : Quiescent state)
    (awake : Awake state)
    (exited : state.Exited) : Invariant config state :=
  ⟨awake, fun inside => absurd exited inside, fun _ => quiescent⟩

/-- A statement that can throw is reached only when nothing is pending. -/
theorem Controlled.quiescent_of_throwing {ledger : Ledger}
    (controlled : Controlled config ledger state) {action : MainAction}
    {rest : List MainAction} (front : state.program = action :: rest)
    (throwing : ledger.Allows config action → ledger.Synchronized) : Quiescent state := by
  have conforms := controlled.conforms
  rw [front] at conforms
  exact controlled.quiescent (throwing conforms.1)

/-- The main thread leaves with an exception while nothing is pending. -/
theorem Quiescent.threw (quiescent : Quiescent state) {exception : String}
    (awake : Awake (state.leave (.threw exception))) :
    Invariant config (state.leave (.threw exception)) :=
  Quiescent.invariant (show Quiescent (state.leave _) from quiescent) awake
    (Or.inr ⟨exception, rfl⟩)

/-- A statement that checks for a stored exception goes on, or leaves. -/
theorem Controlled.rethrow {ledger : Ledger} (controlled : Controlled config ledger state)
    {action : MainAction} {rest : List MainAction} (front : state.program = action :: rest)
    (throwing : ledger.Allows config action → ledger.Synchronized) {stored : Option String}
    {proceeding : State stages} (awake : Awake (state.rethrow stored proceeding))
    (goesOn : Awake proceeding → Invariant config proceeding) :
    Invariant config (state.rethrow stored proceeding) := by
  rcases state.rethrow_cases proceeding stored with ⟨-, same⟩ | ⟨exception, -, same⟩
  · rw [same] at awake ⊢
    exact goesOn awake
  · rw [same] at awake ⊢
    exact (controlled.quiescent_of_throwing front throwing).threw awake

/-- `WaitForCompletion` starts counting the requests. -/
theorem Controlled.counting {ledger : Ledger} (controlled : Controlled config ledger state)
    {rest : List MainAction} (front : state.program = .waitForCompletion :: rest)
    (awake : Awake { state with main := .counting }) :
    Invariant config { state with main := .counting } := by
  refine Controlled.invariant (show Controlled config ledger _ from ?_) awake
    (by simp [State.Exited])
  exact { controlled with completing := fun _ => ⟨rest, front⟩ }

theorem Invariant.stepStatement {ledger : Ledger} (controlled : Controlled config ledger state)
    (awake : Awake state) (running : state.main = .running) {action : MainAction}
    {rest : List MainAction} (front : state.program = action :: rest)
    (taken : state.stepStatement action = some state') : Invariant config state' := by
  have after := awake.stepStatement running taken
  have proceeding : ∀ proceeded : State stages, proceeded.main = .running →
      ¬ proceeded.Exited := fun _ => not_exited_of_running
  cases action with
  | setMessage t message =>
      obtain rfl := (Option.some.inj taken).symm
      exact (controlled.setMessage front).invariant after (proceeding _ rfl)
  | requestIOOperation request =>
      obtain rfl := (Option.some.inj taken).symm
      exact (controlled.requestIOOperation (awake.running (not_exited_of_running running))
        front).invariant after (proceeding _ rfl)
  | barrierWait barrier => cases taken
  | checkException t =>
      obtain rfl := (Option.some.inj taken).symm
      exact controlled.rethrow front id after fun after =>
        (controlled.proceed front rfl state.heap).invariant after (proceeding _ rfl)
  | setReferenceProjection slot =>
      obtain rfl := (Option.some.inj taken).symm
      exact (controlled.proceed front rfl _).invariant after (proceeding _ rfl)
  | writeCorrection index =>
      obtain rfl := (Option.some.inj taken).symm
      exact (controlled.proceed front rfl _).invariant after (proceeding _ rfl)
  | waitForCompletion =>
      obtain rfl := (Option.some.inj taken).symm
      exact controlled.rethrow front id after (controlled.counting front)
  | linearFit =>
      obtain rfl := (Option.some.inj taken).symm
      exact (controlled.proceed front rfl state.heap).invariant after (proceeding _ rfl)
  | throwInternalError =>
      have conforms := controlled.conforms
      rw [front] at conforms
      exact conforms.1.elim

theorem Invariant.stepMain {ledger : Ledger} (controlled : Controlled config ledger state)
    (awake : Awake state) (taken : state.stepMain = some state') : Invariant config state' := by
  have after := awake.stepMain taken
  rcases State.stepMain_cases taken with ⟨running, empty, rfl⟩ |
    ⟨action, rest, running, front, taken⟩ | ⟨counting, -, rfl⟩ | ⟨counting, -, rfl⟩ |
    ⟨asleep, rfl⟩
  · have final := controlled.final
    rw [empty] at final
    exact Quiescent.invariant
      (show Quiescent (state.leave .returned) from controlled.quiescent final) after
      (Or.inl rfl)
  · exact Invariant.stepStatement controlled awake running front taken
  · obtain ⟨rest, front⟩ := controlled.completing (Or.inl counting)
    exact (controlled.proceed front rfl state.heap).invariant after (not_exited_of_running rfl)
  · refine Controlled.invariant (show Controlled config ledger _ from ?_) after
      (by simp [State.Exited])
    exact { controlled with completing := fun _ => controlled.completing (Or.inl counting) }
  · obtain ⟨rest, front⟩ := controlled.completing (Or.inr ⟨true, asleep⟩)
    exact controlled.rethrow front id after (controlled.counting front)

theorem Invariant.mainThrows {ledger : Ledger} (controlled : Controlled config ledger state)
    (awake : Awake state) {exception : String}
    (taken : state.mainThrows exception = some state') : Invariant config state' := by
  obtain ⟨action, rest, running, front, throwing, rfl⟩ := State.mainThrows_cases taken
  have quiescent : Quiescent state := by
    refine controlled.quiescent_of_throwing front fun allowed => ?_
    rcases throwing with ⟨slot, rfl⟩ | ⟨index, rfl⟩ | rfl
    · exact allowed.1
    · exact allowed
    · exact allowed
  exact quiescent.threw (awake.leave (Or.inr ⟨exception, rfl⟩) (by simp))

/-! ### After the main thread has left -/

theorem Quiescent.idle (quiescent : Quiescent state) (t : ℕ) :
    state.worker t = .idle ∧ state.queue t = [] := by
  have nothing := quiescent t
  rw [State.pendingMessages, List.append_eq_nil_iff] at nothing
  refine ⟨?_, nothing.2⟩
  cases status : state.worker t <;> simp [status] at nothing ⊢

/-- Nobody waits at a barrier any more. -/
theorem State.Exited.not_full (exited : state.Exited) (quiescent : Quiescent state)
    (barrier : Barrier) : state.waiters config barrier ≠ barrier.count config := by
  have workers : (List.range config.numberOfThreads).countP
      (state.worker · == .waiting barrier) = 0 := by
    rw [List.countP_eq_zero]
    intro t _
    simp [(quiescent.idle t).1]
  have main : state.mainWaits barrier = false := by
    have notRunning : state.main ≠ .running :=
      fun running => not_exited_of_running running exited
    simp [State.mainWaits, notRunning]
  rw [State.waiters, workers, main]
  cases barrier <;> simp [Barrier.count]

/-- The main thread does not come back. The worker threads have nothing to do, and no
barrier opens. -/
theorem State.Exited.step (exited : state.Exited) (quiescent : Quiescent state)
    (awake : Awake state) {label : Label stages} (taken : step config state label = some state') :
    state'.Exited ∧ Quiescent state' ∧ Awake state' := by
  have notRunning : state.main ≠ .running := fun running => not_exited_of_running running exited
  cases label with
  | main =>
      rcases State.stepMain_cases taken with ⟨running, -, -⟩ | ⟨action, rest, running, -, -⟩ |
        ⟨counting, -, -⟩ | ⟨counting, -, -⟩ | ⟨asleep, -⟩
      · exact absurd running notRunning
      · exact absurd running notRunning
      · simp [State.Exited, counting] at exited
      · simp [State.Exited, counting] at exited
      · simp [State.Exited, asleep] at exited
  | mainThrows exception =>
      obtain ⟨action, rest, running, -, -, -⟩ := State.mainThrows_cases taken
      exact absurd running notRunning
  | worker t =>
      obtain ⟨idle, empty⟩ := quiescent.idle t
      simp [MultiThreaded.step, State.stepWorker, idle, empty] at taken
  | workerThrows t exception garbage =>
      obtain ⟨idle, -⟩ := quiescent.idle t
      simp [MultiThreaded.step, State.workerThrows, idle] at taken
  | io =>
      refine ⟨(State.exited_stepIO taken).mpr exited, fun t => ?_, awake.stepIO taken⟩
      rcases State.stepIO_cases taken with ⟨io, -, rfl⟩ | ⟨request, io, -, -, rfl⟩ | ⟨io, -, rfl⟩
      · exact quiescent t
      · exact quiescent t
      · rw [State.pendingMessages_notify]
        exact quiescent t
  | ioThrows exception garbage =>
      obtain ⟨request, io, -, -, executed, rfl⟩ := State.ioThrows_cases taken
      exact ⟨exited, quiescent, awake.executeOperation executed _⟩
  | ioExit =>
      obtain ⟨io, left, rfl⟩ := Option.map_eq_some_iff.mp taken
      exact ⟨exited, quiescent, awake.ioExit left⟩
  | release barrier =>
      simp only [MultiThreaded.step] at taken
      split_ifs at taken with full
      exact absurd full (exited.not_full quiescent barrier)

/-! ### Runs -/

theorem Invariant.step (invariant : Invariant config state) {label : Label stages}
    (taken : step config state label = some state') : Invariant config state' := by
  have awake := invariant.awake
  by_cases exited : state.Exited
  · obtain ⟨exited', quiescent', awake'⟩ := exited.step (invariant.exited exited) awake taken
    exact quiescent'.invariant awake' exited'
  · obtain ⟨ledger, controlled⟩ := invariant.control exited
    cases label with
    | main => exact Invariant.stepMain controlled awake taken
    | mainThrows exception => exact Invariant.mainThrows controlled awake taken
    | worker t =>
        simp only [MultiThreaded.step] at taken
        split_ifs at taken
        obtain ⟨same, effect⟩ := State.stepWorker_effect taken
        refine (controlled.worker same effect).invariant (awake.worker_effect same effect) ?_
        simpa [State.Exited, same.main] using exited
    | workerThrows t exception garbage =>
        simp only [MultiThreaded.step] at taken
        split_ifs at taken
        obtain ⟨same, message, -, -, idle, -, -, io⟩ := State.workerThrows_effect taken
        refine (controlled.workerThrows taken).invariant
          (awake.worker_step same (Or.inl io) fun data asleep => by simp [idle] at asleep) ?_
        simpa [State.Exited, same.main] using exited
    | io =>
        exact (controlled.stepIO taken).invariant (awake.stepIO taken)
          (mt (State.exited_stepIO taken).mp exited)
    | ioThrows exception garbage =>
        have kept := controlled.ioThrows taken
        obtain ⟨request, io, -, -, executed, rfl⟩ := State.ioThrows_cases taken
        exact kept.invariant (awake.executeOperation executed _) exited
    | ioExit =>
        obtain ⟨io, left, rfl⟩ := Option.map_eq_some_iff.mp taken
        have stopped := (AsynchronousIOProcessor.exitWorker_cases left).1
        rw [awake.running exited] at stopped
        cases stopped
    | release barrier =>
        simp only [MultiThreaded.step] at taken
        split_ifs at taken with full
        obtain rfl := (Option.some.inj taken).symm
        have waits := controlled.mainWaits_of_full full
        exact (controlled.release full).invariant (awake.release barrier waits)
          (not_exited_of_running (State.releaseAll_main waits))

theorem Invariant.run (invariant : Invariant config state) {schedule : List (Label stages)}
    (taken : run config state schedule = some state') : Invariant config state' := by
  induction schedule generalizing state with
  | nil => exact (Option.some.inj taken) ▸ invariant
  | cons label schedule ih =>
      obtain ⟨middle, first, rest⟩ := Option.bind_eq_some_iff.mp taken
      exact ih (invariant.step first) rest

/-- Before the first step nothing is sent and no image is in use. -/
theorem controlled_initial {contents : Contents stages}
    (conforms : Ledger.empty.Conforms config (execute config))
    (final : (Ledger.empty.advanceAll (execute config)).Synchronized) :
    Controlled config Ledger.empty (State.initial config contents) where
  wellFormed := Ledger.wellFormed_empty config
  conforms := conforms
  final := final
  pending _ := List.nil_suffix
  barrier _ _ sent := absurd sent List.not_mem_nil
  used _ inUse := by simp [Ledger.empty] at inUse
  awaited _ _ waits := absurd waits List.not_mem_nil
  completing inside := by simp [State.initial] at inside

/-- Statements that conform to the empty ledger make the invariant hold at first. -/
theorem invariant_initial {contents : Contents stages}
    (conforms : Ledger.empty.Conforms config (execute config))
    (final : (Ledger.empty.advanceAll (execute config)).Synchronized) :
    Invariant config (State.initial config contents) := by
  have awake : Awake (State.initial config contents) :=
    ⟨fun _ => rfl, nofun, fun _ _ => nofun, nofun⟩
  exact (controlled_initial conforms final).invariant awake (not_exited_of_running rfl)

end Steps

end AthabascaRecon.MultiThreaded
