import AthabascaRecon.Engines.MultiThreaded.Checks
import AthabascaRecon.Engines.MultiThreaded.Teardown

/-!
# Which failures the main thread notices

A worker thread parks the exception of a message until the main thread looks at
it. The exception of an IO operation is looked at on entering `WaitForCompletion`
and on waking up inside it, but not when the queue is found empty.

So the failure of a message is noticed when a look at the thread follows it, and
that of an IO operation when `WaitForCompletion` is still to come or asleep. In a
run with such failures only, none is swallowed. The others include every
exception of `WriteVolumeData`.
-/

set_option autoImplicit false

namespace AthabascaRecon.MultiThreaded

open Foundation.Concurrency

variable {stages : Stages} {config : Config} {state state' : State stages}

/-- The main thread will look at the exception of the IO processor. -/
def State.watchesIO (state : State stages) : Bool :=
  match state.main with
  | .running => decide (.waitForCompletion ∈ state.program)
  | .sleeping _ => true
  | .threw _ => true
  | _ => false

/-- When the step fails, the main thread will look at the exception. -/
def State.noticed (config : Config) (state : State stages) : Label stages → Bool
  | .workerThrows t _ _ =>
      match state.worker t with
      | .executing message => message.watched config t
      | _ => true
  | .ioThrows _ _ => state.watchesIO
  | _ => true

/-- The main thread will look at every failure of the run. -/
def failuresNoticed (config : Config) : State stages → List (Label stages) → Bool
  | _, [] => true
  | state, label :: schedule =>
      state.noticed config label &&
        (step config state label).all (failuresNoticed config · schedule)

/-- An exception of a message or of an IO operation was stored. -/
def State.Failed (state : State stages) : Prop :=
  (∃ t, state.exception t ≠ none) ∨ state.io.exception ≠ none

/-- Every exception stored so far will be looked at. -/
structure Watchful (config : Config) (state : State stages) : Prop where
  program : Watched config state.program
  pending : ∀ t, ∀ message ∈ state.pendingMessages t, message.watched config t = true →
    .checkException t ∈ state.program
  parked : ∀ t, state.exception t ≠ none →
    (∃ exception, state.main = .threw exception) ∨ .checkException t ∈ state.program
  stored : state.io.exception ≠ none → state.watchesIO = true
  returned : state.main = .returned → state.program = []

/-- Nobody returns while an exception is stored that will be looked at. -/
theorem Watchful.not_returned (watchful : Watchful config state) (failed : state.Failed) :
    state.main ≠ .returned := by
  intro returned
  rcases failed with ⟨t, parked⟩ | stored
  · rcases watchful.parked t parked with ⟨exception, threw⟩ | later
    · rw [returned] at threw
      cases threw
    · rw [watchful.returned returned] at later
      exact absurd later List.not_mem_nil
  · have watches := watchful.stored stored
    simp [State.watchesIO, returned] at watches

/-! ## Steps -/

/-- The main thread throws. -/
theorem Watchful.leave (watchful : Watchful config state) (exception : String) :
    Watchful config (state.leave (.threw exception)) where
  program := watchful.program
  pending := watchful.pending
  parked _ _ := Or.inl ⟨exception, rfl⟩
  stored _ := rfl
  returned never := by cases never

/-- The main thread goes on behind a statement. It goes on behind a look only when
there was nothing to see. -/
theorem Watchful.proceed (watchful : Watchful config state) (inside : ¬ state.Exited)
    {action : MainAction} {rest : List MainAction} (front : state.program = action :: rest)
    (main : state'.main = .running) (program : state'.program = rest)
    (exception : state'.exception = state.exception)
    (io : state'.io.exception = state.io.exception)
    (pending : ∀ t, ∀ message ∈ state'.pendingMessages t,
      message ∈ state.pendingMessages t ∨ action = .setMessage t message)
    (checked : ∀ t, action = .checkException t → state.exception t = none ∧ Quiescent state)
    (completed : state.main = .running ∧ action ≠ .waitForCompletion ∨
      state.io.exception = none) :
    Watchful config state' := by
  have watched := watchful.program
  rw [front] at watched
  refine ⟨program ▸ watched.tail, ?_, ?_, ?_, ?_⟩
  · intro t message member watches
    rw [program]
    rcases pending t message member with earlier | rfl
    · have later := watchful.pending t message earlier watches
      rw [front] at later
      rcases List.mem_cons.mp later with rfl | inRest
      · rw [(checked t rfl).2 t] at earlier
        exact absurd earlier List.not_mem_nil
      · exact inRest
    · exact watched.1 watches
  · intro t parked
    rw [exception] at parked
    rcases watchful.parked t parked with threw | later
    · exact absurd (Or.inr threw) inside
    · rw [front] at later
      rcases List.mem_cons.mp later with rfl | inRest
      · exact absurd (checked t rfl).1 parked
      · exact Or.inr (program ▸ inRest)
  · intro stored
    rw [io] at stored
    rcases completed with ⟨running, different⟩ | clean
    · have watches := watchful.stored stored
      simp only [State.watchesIO, running, front, decide_eq_true_eq] at watches
      rcases List.mem_cons.mp watches with same | inRest
      · exact absurd same.symm different
      · simpa [State.watchesIO, main, program] using inRest
    · exact absurd clean stored
  · intro returned
    rw [main] at returned
    cases returned

theorem Watchful.stepStatement (watchful : Watchful config state) {ledger : Ledger}
    (controlled : Controlled config ledger state) (running : state.main = .running)
    {action : MainAction} {rest : List MainAction} (front : state.program = action :: rest)
    (taken : state.stepStatement action = some state') : Watchful config state' := by
  have inside : ¬ state.Exited := not_exited_of_running running
  have tail : state.proceed.program = rest := by simp [State.proceed, front]
  cases action with
  | setMessage t message =>
      obtain rfl := (Option.some.inj taken).symm
      refine watchful.proceed inside front rfl (by simp [State.proceed, State.setMessage, front])
        rfl rfl ?_ (by simp) (Or.inl ⟨running, by simp⟩)
      intro t' other member
      rw [State.pendingMessages_setMessage] at member
      split_ifs at member with same
      · subst same
        rcases List.mem_append.mp member with earlier | new
        · exact Or.inl earlier
        · exact Or.inr (by rw [List.mem_singleton.mp new])
      · exact Or.inl member
  | requestIOOperation request =>
      obtain rfl := (Option.some.inj taken).symm
      refine watchful.proceed inside front rfl tail rfl ?_ (fun _ _ => Or.inl) (by simp)
        (Or.inl ⟨running, by simp⟩)
      exact state.io.requestIOOperation_exception request
  | barrierWait barrier => cases taken
  | checkException t =>
      obtain rfl := (Option.some.inj taken).symm
      rcases state.rethrow_cases state.proceed (state.exception t) with
        ⟨clean, same⟩ | ⟨exception, -, same⟩
      · rw [same]
        refine watchful.proceed inside front rfl tail rfl rfl (fun _ _ => Or.inl) ?_
          (Or.inl ⟨running, by simp⟩)
        intro t' looked
        obtain rfl : t = t' := by simpa using looked
        exact ⟨clean, controlled.quiescent_of_throwing front id⟩
      · rw [same]
        exact watchful.leave exception
  | setReferenceProjection slot =>
      obtain rfl := (Option.some.inj taken).symm
      exact watchful.proceed inside front rfl tail rfl rfl (fun _ _ => Or.inl) (by simp)
        (Or.inl ⟨running, by simp⟩)
  | writeCorrection index =>
      obtain rfl := (Option.some.inj taken).symm
      exact watchful.proceed inside front rfl tail rfl rfl (fun _ _ => Or.inl) (by simp)
        (Or.inl ⟨running, by simp⟩)
  | waitForCompletion =>
      obtain rfl := (Option.some.inj taken).symm
      rcases state.rethrow_cases { state with main := .counting } state.io.exception with
        ⟨clean, same⟩ | ⟨exception, -, same⟩
      · rw [same]
        exact ⟨watchful.program, watchful.pending,
          fun t parked => Or.inr ((watchful.parked t parked).resolve_left fun threw =>
            inside (Or.inr threw)),
          fun stored => absurd clean stored, by simp⟩
      · rw [same]
        exact watchful.leave exception
  | linearFit =>
      obtain rfl := (Option.some.inj taken).symm
      exact watchful.proceed inside front rfl tail rfl rfl (fun _ _ => Or.inl) (by simp)
        (Or.inl ⟨running, by simp⟩)
  | throwInternalError =>
      obtain rfl := (Option.some.inj taken).symm
      exact watchful.leave _

theorem Watchful.stepMain (watchful : Watchful config state) (invariant : Invariant config state)
    (taken : state.stepMain = some state') : Watchful config state' := by
  rcases State.stepMain_cases taken with ⟨running, empty, rfl⟩ |
    ⟨action, rest, running, front, taken⟩ | ⟨counting, -, rfl⟩ | ⟨counting, -, rfl⟩ |
    ⟨asleep, rfl⟩
  · refine ⟨watchful.program, watchful.pending, ?_, ?_, fun _ => empty⟩
    · intro t parked
      rcases watchful.parked t parked with ⟨exception, threw⟩ | later
      · rw [running] at threw
        cases threw
      · exact Or.inr later
    · intro stored
      have watches := watchful.stored stored
      simp [State.watchesIO, running, empty] at watches
  · obtain ⟨ledger, controlled⟩ := invariant.control (not_exited_of_running running)
    exact watchful.stepStatement controlled running front taken
  · have inside : ¬ state.Exited := by simp [State.Exited, counting]
    obtain ⟨ledger, controlled⟩ := invariant.control inside
    obtain ⟨rest, front⟩ := controlled.completing (Or.inl counting)
    have clean : state.io.exception = none := by
      by_contra stored
      have watches := watchful.stored stored
      simp [State.watchesIO, counting] at watches
    exact watchful.proceed inside front rfl (by simp [State.proceed, front]) rfl rfl
      (fun _ _ => Or.inl) (by simp) (Or.inr clean)
  · refine ⟨watchful.program, watchful.pending, ?_, fun _ => rfl, by simp⟩
    intro t parked
    refine Or.inr ((watchful.parked t parked).resolve_left ?_)
    rintro ⟨exception, threw⟩
    rw [counting] at threw
    cases threw
  · rcases state.rethrow_cases { state with main := .counting } state.io.exception with
      ⟨clean, same⟩ | ⟨exception, -, same⟩
    · rw [same]
      refine ⟨watchful.program, watchful.pending, ?_, fun stored => absurd clean stored, by simp⟩
      intro t parked
      refine Or.inr ((watchful.parked t parked).resolve_left ?_)
      rintro ⟨exception, threw⟩
      rw [asleep] at threw
      cases threw
    · rw [same]
      exact watchful.leave exception

/-- Another thread takes a step. An exception that is stored by it will be looked at. -/
theorem Watchful.of_step (watchful : Watchful config state)
    (program : state'.program = state.program)
    (main : state'.main = state.main ∨ ∃ notified notified',
      state.main = .sleeping notified ∧ state'.main = .sleeping notified')
    (pending : ∀ t, ∀ message ∈ state'.pendingMessages t, message ∈ state.pendingMessages t)
    (parked : ∀ t, state'.exception t ≠ none →
      state.exception t ≠ none ∨ .checkException t ∈ state.program)
    (stored : state'.io.exception ≠ none → state.io.exception ≠ none ∨ state.watchesIO = true) :
    Watchful config state' := by
  refine ⟨program ▸ watchful.program, ?_, ?_, ?_, ?_⟩
  · intro t message member watches
    rw [program]
    exact watchful.pending t message (pending t message member) watches
  · intro t parked'
    rw [program]
    rcases parked t parked' with earlier | later
    · rcases watchful.parked t earlier with ⟨exception, threw⟩ | later
      · rcases main with same | ⟨notified, notified', asleep, -⟩
        · exact Or.inl ⟨exception, same.trans threw⟩
        · rw [threw] at asleep
          cases asleep
      · exact Or.inr later
    · exact Or.inr later
  · intro stored'
    have watches : state.watchesIO = true := (stored stored').elim watchful.stored id
    rcases main with same | ⟨notified, notified', -, asleep⟩
    · simpa [State.watchesIO, same, program] using watches
    · simp [State.watchesIO, asleep]
  · intro returned
    rw [program]
    rcases main with same | ⟨notified, notified', -, asleep⟩
    · exact watchful.returned (same ▸ returned)
    · rw [asleep] at returned
      cases returned

theorem Watchful.worker (watchful : Watchful config state) {t : ℕ}
    (same : State.SameElsewhere t state state') (effect : State.WorkerEffect t state state') :
    Watchful config state' := by
  have elsewhere : (∀ message ∈ state'.pendingMessages t, message ∈ state.pendingMessages t) →
      ∀ t', ∀ message ∈ state'.pendingMessages t', message ∈ state.pendingMessages t' := by
    intro here t' message member
    by_cases own : t' = t
    · subst own
      exact here message member
    · rwa [same.pendingMessages own] at member
  have kept : (state'.exception t ≠ none → state.exception t ≠ none ∨
      .checkException t ∈ state.program) → ∀ t', state'.exception t' ≠ none →
        state.exception t' ≠ none ∨ .checkException t' ∈ state.program := by
    intro here t' parked
    by_cases own : t' = t
    · subst own
      exact here parked
    · exact Or.inl (same.exception t' own ▸ parked)
  cases effect with
  | inside pending exception io =>
      exact watchful.of_step same.program (Or.inl same.main)
        (elsewhere fun _ member => pending ▸ member)
        (kept fun parked => Or.inl (exception ▸ parked))
        fun stored => Or.inl (io ▸ stored)
  | finished message ordinary pending idle exception io =>
      exact watchful.of_step same.program (Or.inl same.main)
        (elsewhere fun _ member => pending ▸ List.mem_cons_of_mem _ member)
        (kept fun parked => Or.inl (exception ▸ parked)) fun stored => Or.inl (io ▸ stored)
  | released data pending idle exception completed io =>
      refine watchful.of_step same.program (Or.inl same.main)
        (elsewhere fun _ member => pending ▸ List.mem_cons_of_mem _ member)
        (kept fun parked => Or.inl (exception ▸ parked)) fun stored => Or.inl ?_
      rw [io] at stored
      exact stored
  | failedWait data pending idle parked cause io =>
      -- waiting for an image is a watched message
      have later := watchful.pending t (.waitForBufferRelease data)
        (pending ▸ List.mem_cons_self) rfl
      exact watchful.of_step same.program (Or.inl same.main)
        (elsewhere fun _ member => pending ▸ List.mem_cons_of_mem _ member)
        (kept fun _ => Or.inr later) fun stored => Or.inl (io ▸ stored)

theorem Watchful.workerThrows (watchful : Watchful config state) {t : ℕ} {exception : String}
    {garbage : Heap (Val stages)}
    (noticed : state.noticed config (.workerThrows t exception garbage) = true)
    (taken : state.workerThrows t exception garbage = some state') : Watchful config state' := by
  obtain ⟨same, message, -, executing, -, pending, -, io⟩ := State.workerThrows_effect taken
  simp only [State.noticed, executing] at noticed
  have later := watchful.pending t message (pending ▸ List.mem_cons_self) noticed
  refine watchful.of_step same.program (Or.inl same.main) ?_ ?_ fun stored => Or.inl (io ▸ stored)
  · intro t' other member
    by_cases own : t' = t
    · subst own
      exact pending ▸ List.mem_cons_of_mem _ member
    · rwa [same.pendingMessages own] at member
  · intro t' parked
    by_cases own : t' = t
    · subst own
      exact Or.inr later
    · exact Or.inl (same.exception t' own ▸ parked)

theorem Watchful.stepIO (watchful : Watchful config state) (taken : state.stepIO = some state') :
    Watchful config state' := by
  rcases State.stepIO_cases taken with ⟨io, fetched, rfl⟩ | ⟨request, io, -, executed, rfl⟩ |
    ⟨io, registered, rfl⟩
  · obtain ⟨request, rest, -, -, -, rfl⟩ := AsynchronousIOProcessor.getRequest_cases fetched
    exact watchful.of_step rfl (Or.inl rfl) (fun _ _ => id) (fun _ => Or.inl) Or.inl
  · obtain ⟨request, -, rfl⟩ := AsynchronousIOProcessor.executeOperation_cases executed
    exact watchful.of_step rfl (Or.inl rfl) (fun _ _ => id) (fun _ => Or.inl)
      fun stored => Or.inl (by simpa using stored)
  · obtain ⟨request, -, rfl⟩ := AsynchronousIOProcessor.registerCompleted_cases registered
    refine watchful.of_step rfl ?_ ?_ (fun _ => Or.inl) Or.inl
    · cases status : state.main with
      | sleeping notified => exact Or.inr ⟨notified, true, rfl, by simp [State.notify]⟩
      | _ => exact Or.inl (by simp [State.notify])
    · intro t message member
      rwa [State.pendingMessages_notify] at member

theorem Watchful.ioThrows (watchful : Watchful config state) {exception : String}
    {garbage : Heap (Val stages)} (noticed : state.watchesIO = true)
    (taken : state.ioThrows exception garbage = some state') : Watchful config state' := by
  obtain ⟨request, io, -, -, -, rfl⟩ := State.ioThrows_cases taken
  exact watchful.of_step rfl (Or.inl rfl) (fun _ _ => id) (fun _ => Or.inl) fun _ => Or.inr noticed

theorem Watchful.release (watchful : Watchful config state) {ledger : Ledger}
    (controlled : Controlled config ledger state) {barrier : Barrier}
    (full : state.waiters config barrier = barrier.count config) :
    Watchful config (state.releaseAll barrier) := by
  have waits := controlled.mainWaits_of_full full
  obtain ⟨running, rest, front⟩ := State.mainWaits_iff.mp waits
  refine watchful.proceed (not_exited_of_running running) front ?_ ?_ ?_ ?_ ?_ (by simp)
    (Or.inl ⟨running, by simp⟩)
  · exact State.releaseAll_main waits
  · rw [State.releaseAll_program waits, front, List.tail_cons]
  · exact state.releaseAll_exception barrier
  · rw [State.releaseAll_io]
  · intro t message member
    rw [State.pendingMessages_releaseAll] at member
    split_ifs at member
    · exact Or.inl (List.mem_append_right _ member)
    · exact Or.inl member

/-- A step that does not fail, or fails where the main thread will look, leaves nothing
unseen. -/
theorem Watchful.step (watchful : Watchful config state) (invariant : Invariant config state)
    {label : Label stages} (noticed : state.noticed config label = true)
    (taken : step config state label = some state') : Watchful config state' := by
  cases label with
  | main => exact watchful.stepMain invariant taken
  | mainThrows exception =>
      obtain ⟨-, -, -, -, -, rfl⟩ := State.mainThrows_cases taken
      exact watchful.leave exception
  | worker t =>
      simp only [MultiThreaded.step] at taken
      split_ifs at taken
      obtain ⟨same, effect⟩ := State.stepWorker_effect taken
      exact watchful.worker same effect
  | workerThrows t exception garbage =>
      simp only [MultiThreaded.step] at taken
      split_ifs at taken
      exact watchful.workerThrows noticed taken
  | io => exact watchful.stepIO taken
  | ioThrows exception garbage => exact watchful.ioThrows noticed taken
  | ioExit =>
      obtain ⟨io, left, rfl⟩ := Option.map_eq_some_iff.mp taken
      obtain ⟨-, rfl⟩ := AsynchronousIOProcessor.exitWorker_cases left
      exact watchful.of_step rfl (Or.inl rfl) (fun _ _ => id) (fun _ => Or.inl) Or.inl
  | release barrier =>
      simp only [MultiThreaded.step] at taken
      split_ifs at taken with full
      obtain rfl := (Option.some.inj taken).symm
      have inside : ¬ state.Exited := fun exited =>
        exited.not_full (invariant.exited exited) barrier full
      obtain ⟨ledger, controlled⟩ := invariant.control inside
      exact watchful.release controlled full

/-! ## Exceptions are kept -/

/-- A message or an IO operation fails in the step. -/
def Label.fails : Label stages → Bool
  | .workerThrows _ _ _ => true
  | .ioThrows _ _ => true
  | _ => false

theorem State.Failed.worker {t : ℕ} (failed : state.Failed)
    (same : State.SameElsewhere t state state') (effect : State.WorkerEffect t state state') :
    state'.Failed := by
  have io : state'.io.exception = state.io.exception := by
    cases effect with
    | inside _ _ io => rw [io]
    | finished _ _ _ _ _ io => rw [io]
    | released _ _ _ _ _ io => rw [io, AsynchronousIOProcessor.releaseBuffer]
    | failedWait _ _ _ _ _ io => rw [io]
  rcases failed with ⟨t', parked⟩ | stored
  · refine Or.inl ⟨t', ?_⟩
    by_cases own : t' = t
    · subst own
      cases effect with
      | inside _ exception => rwa [exception]
      | finished _ _ _ _ exception => rwa [exception]
      | released _ _ _ exception => rwa [exception]
      | failedWait _ _ _ parked' => obtain ⟨exception, same'⟩ := parked'; simp [same']
    · rwa [same.exception t' own]
  · exact Or.inr (io ▸ stored)

/-- The main thread looks at exceptions and leaves them where they are. -/
theorem State.rethrow_exceptions (stored : Option String) {proceeding : State stages}
    (exception : proceeding.exception = state.exception)
    (io : proceeding.io.exception = state.io.exception) :
    (state.rethrow stored proceeding).exception = state.exception ∧
      (state.rethrow stored proceeding).io.exception = state.io.exception := by
  rcases state.rethrow_cases proceeding stored with ⟨-, same⟩ | ⟨exception, -, same⟩
  · rw [same]
    exact ⟨exception, io⟩
  · rw [same]
    exact ⟨rfl, rfl⟩

theorem State.stepMain_exceptions (taken : state.stepMain = some state') :
    state'.exception = state.exception ∧ state'.io.exception = state.io.exception := by
  rcases State.stepMain_cases taken with ⟨-, -, rfl⟩ | ⟨action, rest, -, -, taken⟩ |
    ⟨-, -, rfl⟩ | ⟨-, -, rfl⟩ | ⟨-, rfl⟩
  · exact ⟨rfl, rfl⟩
  · cases action with
    | requestIOOperation request =>
        obtain rfl := (Option.some.inj taken).symm
        exact ⟨rfl, state.io.requestIOOperation_exception request⟩
    | barrierWait barrier => cases taken
    | checkException t =>
        obtain rfl := (Option.some.inj taken).symm
        exact State.rethrow_exceptions _ rfl rfl
    | waitForCompletion =>
        obtain rfl := (Option.some.inj taken).symm
        exact State.rethrow_exceptions _ rfl rfl
    | _ =>
        obtain rfl := (Option.some.inj taken).symm
        exact ⟨rfl, rfl⟩
  · exact ⟨rfl, rfl⟩
  · exact ⟨rfl, rfl⟩
  · exact State.rethrow_exceptions _ rfl rfl

/-- A failure is stored. -/
theorem State.failed_of_fails {label : Label stages} (fails : label.fails = true)
    (taken : step config state label = some state') : state'.Failed := by
  cases label with
  | workerThrows t exception garbage =>
      simp only [MultiThreaded.step] at taken
      split_ifs at taken
      obtain ⟨-, -, -, -, -, -, ⟨parked, same⟩, -⟩ := State.workerThrows_effect taken
      exact Or.inl ⟨t, by simp [same]⟩
  | ioThrows exception garbage =>
      obtain ⟨request, io, -, -, executed, rfl⟩ := State.ioThrows_cases taken
      obtain ⟨request, -, rfl⟩ := AsynchronousIOProcessor.executeOperation_cases executed
      exact Or.inr (by simp)
  | _ => cases fails

theorem State.Failed.step (failed : state.Failed) {label : Label stages}
    (taken : step config state label = some state') : state'.Failed := by
  cases label with
  | main =>
      obtain ⟨exception, io⟩ := State.stepMain_exceptions taken
      simpa only [State.Failed, exception, io] using failed
  | mainThrows exception =>
      obtain ⟨-, -, -, -, -, rfl⟩ := State.mainThrows_cases taken
      exact failed
  | worker t =>
      simp only [MultiThreaded.step] at taken
      split_ifs at taken
      obtain ⟨same, effect⟩ := State.stepWorker_effect taken
      exact failed.worker same effect
  | workerThrows t exception garbage => exact State.failed_of_fails rfl taken
  | io =>
      obtain ⟨exception, io⟩ := State.stepIO_exceptions taken
      simpa only [State.Failed, exception, io] using failed
  | ioThrows exception garbage => exact State.failed_of_fails rfl taken
  | ioExit =>
      obtain ⟨io, left, rfl⟩ := Option.map_eq_some_iff.mp taken
      obtain ⟨-, rfl⟩ := AsynchronousIOProcessor.exitWorker_cases left
      exact failed
  | release barrier =>
      simp only [MultiThreaded.step] at taken
      split_ifs at taken
      obtain rfl := (Option.some.inj taken).symm
      simpa [State.Failed] using failed

/-! ## Runs -/

theorem watchful_initial (projections : 0 < config.numberOfProjections)
    (contents : Contents stages) : Watchful config (State.initial config contents) where
  program := watched_execute projections
  pending _ _ member := absurd member List.not_mem_nil
  parked _ never := absurd rfl never
  stored never := absurd rfl never
  returned never := by cases never

/-- A run whose failures the main thread will look at, from a state where every earlier
one will be. -/
theorem Watchful.run (watchful : Watchful config state) (invariant : Invariant config state)
    {schedule : List (Label stages)} (noticed : failuresNoticed config state schedule = true)
    (taken : run config state schedule = some state') : Watchful config state' := by
  induction schedule generalizing state with
  | nil => exact (Option.some.inj taken) ▸ watchful
  | cons label schedule ih =>
      obtain ⟨middle, first, rest⟩ := Option.bind_eq_some_iff.mp taken
      simp only [failuresNoticed, first, Option.all_some, Bool.and_eq_true] at noticed
      exact ih (watchful.step invariant noticed.1 first) (invariant.step first) noticed.2 rest

theorem State.Failed.run (failed : state.Failed) {schedule : List (Label stages)}
    (taken : run config state schedule = some state') : state'.Failed := by
  induction schedule generalizing state with
  | nil => exact (Option.some.inj taken) ▸ failed
  | cons label schedule ih =>
      obtain ⟨middle, first, rest⟩ := Option.bind_eq_some_iff.mp taken
      exact ih (failed.step first) rest

/-- Whatever failed in a run is stored at its end. -/
theorem failed_of_run {schedule : List (Label stages)}
    (taken : run config state schedule = some state')
    (fails : ∃ label ∈ schedule, label.fails = true) : state'.Failed := by
  obtain ⟨label, member, fails⟩ := fails
  induction schedule generalizing state with
  | nil => exact absurd member List.not_mem_nil
  | cons head schedule ih =>
      obtain ⟨middle, first, rest⟩ := Option.bind_eq_some_iff.mp taken
      rcases List.mem_cons.mp member with rfl | later
      · exact (State.failed_of_fails fails first).run rest
      · exact ih rest later

/-- **A failure the main thread looks at is not swallowed.** In a run of an accepted
configuration in which every step that fails is followed by a look at its exception, the
main thread does not return once a message or an IO operation has failed. -/
theorem execute_keeps_noticed_failures (accepted : config.Accepted)
    (threads : 0 < config.numberOfThreads) (projections : 0 < config.numberOfProjections)
    {contents : Contents stages} {schedule : List (Label stages)}
    (taken : run config (State.initial config contents) schedule = some state)
    (noticed : failuresNoticed config (State.initial config contents) schedule = true)
    (failed : (∃ label ∈ schedule, label.fails = true) ∨ state.Failed) :
    state.main ≠ .returned := by
  obtain ⟨conforms, final⟩ := execute_conforms accepted threads projections
  have watchful := (watchful_initial projections contents).run
    (invariant_initial conforms final) noticed taken
  rcases failed with fails | stored
  · exact watchful.not_returned (failed_of_run taken fails)
  · exact watchful.not_returned stored

/-- The worker thread sleeps until the first projection is read. -/
def untilSleeping : List (Label numberStages) :=
  List.replicate 5 .main ++ List.replicate 9 (.worker 0)

/-- The worker thread is woken when the first projection is read, and reaches the barrier. -/
def untilBarrier : List (Label numberStages) :=
  untilSleeping ++ List.replicate 3 .io ++ List.replicate 2 (.worker 0) ++ [.main] ++
    List.replicate 2 (.worker 0) ++ [.release .meAndAllWorkers]

/-- The projection cannot be read, and the main thread throws behind the first barrier. -/
def readFails : List (Label numberStages) :=
  untilSleeping ++ [.io, .ioThrows "no projection" numberContents.heap, .io, .worker 0, .main,
    .worker 0, .worker 0, .release .meAndAllWorkers, .main]

theorem readFails_keeps_failure :
    ∃ state, run smallConfig (State.initial smallConfig numberContents) readFails =
        some state ∧ state.main = .threw "no projection" ∧ state.main ≠ .returned := by
  obtain ⟨state, taken, threw⟩ : ∃ state, run smallConfig
      (State.initial smallConfig numberContents) readFails = some state ∧
        state.main = .threw "no projection" := ⟨_, rfl, rfl⟩
  exact ⟨state, taken, threw, execute_keeps_noticed_failures smallConfig_accepted (by decide)
    (by decide) taken rfl (Or.inl ⟨.ioThrows "no projection" numberContents.heap,
      by simp [readFails], rfl⟩)⟩

/-- The volume cannot be written out. -/
def writeFails : List (Label numberStages) :=
  untilBarrier ++ List.replicate 3 .main ++ List.replicate 4 (.worker 0) ++
    [.release .meAndAllWorkers] ++ List.replicate 5 .main ++
    [.worker 0, .workerThrows 0 "disk full" numberContents.heap] ++
    List.replicate 2 (.worker 0) ++ [.release .meAndOneWorker, .main] ++
    List.replicate 2 (.worker 0) ++ [.release .meAndAllWorkers, .main]

/-- The main thread returns although the only thread could not write out its subvolume. -/
theorem writeFails_swallowed :
    smallConfig.Accepted ∧ 0 < smallConfig.numberOfThreads ∧
      0 < smallConfig.numberOfProjections ∧
      ∃ state, run smallConfig (State.initial smallConfig numberContents) writeFails =
          some state ∧ (∃ label ∈ writeFails, label.fails = true) ∧
        state.exception 0 = some "disk full" ∧ state.main = .returned := by
  refine ⟨smallConfig_accepted, by decide, by decide, _, rfl, ?_, rfl, rfl⟩
  exact ⟨.workerThrows 0 "disk full" numberContents.heap, by simp [writeFails], rfl⟩

end AthabascaRecon.MultiThreaded
