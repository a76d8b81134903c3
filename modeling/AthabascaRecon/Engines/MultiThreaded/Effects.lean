import AthabascaRecon.Engines.MultiThreaded.Machine
import AthabascaRecon.Engines.MultiThreaded.Ledger

/-!
# What a step can do

Every invariant of a run needs to know of a step which messages and requests are
still pending behind it. The lemmas here say this once for each thread: a worker
thread goes on inside its message or ends it in one of four ways, the IO
processor moves a request along, the main thread executes one statement, and a
barrier ends the synchronize messages of those that wait at it.
-/

set_option autoImplicit false

namespace AthabascaRecon.MultiThreaded

open Foundation.Concurrency

variable {stages : Stages}

/-- The message a worker thread is executing. -/
def WorkerStatus.current : WorkerStatus → List Message
  | .idle => []
  | .executing message => [message]
  | .testing data => [.waitForBufferRelease data]
  | .sleeping data _ => [.waitForBufferRelease data]
  | .waiting barrier => [.synchronize barrier]

@[simp] theorem WorkerStatus.current_idle : WorkerStatus.idle.current = [] := rfl

@[simp] theorem WorkerStatus.current_executing (message : Message) :
    (WorkerStatus.executing message).current = [message] := rfl

@[simp] theorem WorkerStatus.current_testing (data : Buffer) :
    (WorkerStatus.testing data).current = [.waitForBufferRelease data] := rfl

@[simp] theorem WorkerStatus.current_sleeping (data : Buffer) (notified : Bool) :
    (WorkerStatus.sleeping data notified).current = [.waitForBufferRelease data] := rfl

@[simp] theorem WorkerStatus.current_waiting (barrier : Barrier) :
    (WorkerStatus.waiting barrier).current = [.synchronize barrier] := rfl

namespace State

/-- The messages of a worker thread that are not executed to their end. -/
def pendingMessages (state : State stages) (t : ℕ) : List Message :=
  (state.worker t).current ++ state.queue t

/-- The main thread has left `ExecuteOnThreads`. -/
def Exited (state : State stages) : Prop :=
  state.main = .returned ∨ ∃ exception, state.main = .threw exception

theorem pendingMessages_setMessage (state : State stages) (t t' : ℕ) (message : Message) :
    (state.setMessage t message).proceed.pendingMessages t' =
      if t' = t then state.pendingMessages t' ++ [message] else state.pendingMessages t' := by
  by_cases same : t' = t
  · subst same
    simp [pendingMessages, setMessage, proceed]
  · simp [pendingMessages, setMessage, proceed, same]

/-! ## Worker threads -/

/-- Everything but the activity, the queue and the exception of one worker thread
is as before. -/
structure SameElsewhere (t : ℕ) (state state' : State stages) : Prop where
  main : state'.main = state.main
  program : state'.program = state.program
  worker : ∀ t' ≠ t, state'.worker t' = state.worker t'
  queue : ∀ t' ≠ t, state'.queue t' = state.queue t'
  exception : ∀ t' ≠ t, state'.exception t' = state.exception t'

theorem SameElsewhere.pendingMessages {t : ℕ} {state state' : State stages}
    (same : SameElsewhere t state state') {t' : ℕ} (different : t' ≠ t) :
    state'.pendingMessages t' = state.pendingMessages t' := by
  simp only [State.pendingMessages, same.worker t' different, same.queue t' different]

/-- How a worker thread changes the state. -/
inductive WorkerEffect (t : ℕ) (state state' : State stages) : Prop where
  /-- The thread takes a message, or goes on inside one. -/
  | inside
      (pending : state'.pendingMessages t = state.pendingMessages t)
      (exception : state'.exception t = state.exception t)
      (io : state'.io = state.io)
      (heap : state'.heap = state.heap)
      (asleep : ∀ data, state'.worker t = .sleeping data false →
        data ∉ state.io.completedRequests)
  /-- The thread executes a message to its end. -/
  | finished (message : Message)
      (ordinary : canThrow message = true)
      (pending : state.pendingMessages t = message :: state'.pendingMessages t)
      (idle : state'.worker t = .idle)
      (exception : state'.exception t = state.exception t)
      (io : state'.io = state.io)
      (isReady : ready state.heap t message = true)
      (heap : state'.heap = (performMessage stages t message).run state.heap)
  /-- The thread finds the image it waits for. -/
  | released (data : Buffer)
      (pending : state.pendingMessages t = .waitForBufferRelease data :: state'.pendingMessages t)
      (idle : state'.worker t = .idle)
      (exception : state'.exception t = state.exception t)
      (completed : data ∈ state.io.completedRequests)
      (io : state'.io = state.io.releaseBuffer data)
      (heap : state'.heap = state.heap)
  /-- The thread finds an exception while it waits for an image. -/
  | failedWait (data : Buffer)
      (pending : state.pendingMessages t = .waitForBufferRelease data :: state'.pendingMessages t)
      (idle : state'.worker t = .idle)
      (parked : ∃ exception, state'.exception t = some exception)
      (cause : state.io.exception.isSome ∨ state.io.stopped = true)
      (io : state'.io = state.io)
      (heap : state'.heap = state.heap)

theorem sameElsewhere_setWorker (state : State stages) (t : ℕ) (status : WorkerStatus) :
    SameElsewhere t state (state.setWorker t status) where
  main := rfl
  program := rfl
  worker _ different := Function.update_of_ne different _ _
  queue _ _ := rfl
  exception _ _ := rfl

theorem sameElsewhere_park (state : State stages) (t : ℕ) (exception : String) :
    SameElsewhere t state (state.park t exception) where
  main := rfl
  program := rfl
  worker _ different := Function.update_of_ne different _ _
  queue _ _ := rfl
  exception _ different := Function.update_of_ne different _ _

theorem park_failedWait {state : State stages} {t : ℕ} {data : Buffer}
    (current : (state.worker t).current = [.waitForBufferRelease data])
    (cause : state.io.exception.isSome ∨ state.io.stopped = true) (exception : String) :
    WorkerEffect t state (state.park t exception) := by
  refine .failedWait data ?_ ?_ ⟨_, Function.update_self ..⟩ cause rfl rfl
  · simp [pendingMessages, current, park, setWorker]
  · simp [park, setWorker]

theorem enterTest_effect {state : State stages} {t : ℕ} {data : Buffer}
    (current : (state.worker t).current = [.waitForBufferRelease data]) :
    SameElsewhere t state (state.enterTest t data) ∧
      WorkerEffect t state (state.enterTest t data) := by
  unfold enterTest
  split
  next exception stored =>
    exact ⟨sameElsewhere_park .., park_failedWait current (Or.inl (by simp [stored])) _⟩
  next stored =>
    refine ⟨sameElsewhere_setWorker .., .inside ?_ rfl rfl rfl fun other asleep => ?_⟩
    · simp [pendingMessages, current, setWorker]
    · simp [setWorker] at asleep

theorem testCompleted_effect {state : State stages} {t : ℕ} {data : Buffer}
    (testing : state.worker t = .testing data) :
    SameElsewhere t state (state.testCompleted t data) ∧
      WorkerEffect t state (state.testCompleted t data) := by
  have current : (state.worker t).current = [.waitForBufferRelease data] := by
    rw [testing]
    rfl
  unfold testCompleted
  split_ifs with stopped completed
  · exact ⟨sameElsewhere_park .., park_failedWait current (Or.inr stopped) _⟩
  · refine ⟨⟨rfl, rfl, fun t' different => Function.update_of_ne different _ _, fun _ _ => rfl,
      fun _ _ => rfl⟩, .released data ?_ ?_ rfl completed rfl rfl⟩
    · simp [pendingMessages, current, setWorker]
    · simp [setWorker]
  · refine ⟨sameElsewhere_setWorker .., .inside ?_ rfl rfl rfl fun other asleep => ?_⟩
    · simp [pendingMessages, current, setWorker]
    · obtain rfl : data = other := by simpa [setWorker] using asleep
      exact completed

theorem executeMessage_effect {state state' : State stages} {t : ℕ} {message : Message}
    (executing : state.worker t = .executing message)
    (taken : state.executeMessage t message = some state') :
    SameElsewhere t state state' ∧ WorkerEffect t state state' := by
  have current : (state.worker t).current = [message] := by
    rw [executing]
    rfl
  unfold executeMessage at taken
  split at taken
  next data =>
    obtain rfl := (Option.some.inj taken).symm
    exact enterTest_effect current
  next barrier =>
    obtain rfl := (Option.some.inj taken).symm
    refine ⟨sameElsewhere_setWorker .., .inside ?_ rfl rfl rfl fun other asleep => ?_⟩
    · simp [pendingMessages, current, setWorker]
    · simp [setWorker] at asleep
  next noWait noBarrier =>
    split_ifs at taken with isReady
    obtain rfl := (Option.some.inj taken).symm
    refine ⟨⟨rfl, rfl, fun t' different => Function.update_of_ne different _ _, fun _ _ => rfl,
      fun _ _ => rfl⟩, .finished message ?_ ?_ ?_ rfl rfl isReady rfl⟩
    · cases message with
      | waitForBufferRelease data => exact absurd rfl (noWait data)
      | synchronize barrier => exact absurd rfl (noBarrier barrier)
      | _ => rfl
    · simp [pendingMessages, current, setWorker]
    · simp [setWorker]

theorem stepWorker_effect {state state' : State stages} {t : ℕ}
    (taken : state.stepWorker t = some state') :
    SameElsewhere t state state' ∧ WorkerEffect t state state' := by
  unfold stepWorker at taken
  split at taken
  next message rest idle front =>
    obtain rfl := (Option.some.inj taken).symm
    refine ⟨⟨rfl, rfl, fun t' different => Function.update_of_ne different _ _,
      fun t' different => Function.update_of_ne different _ _, fun _ _ => rfl⟩,
      .inside ?_ rfl rfl rfl fun other asleep => ?_⟩
    · simp [pendingMessages, idle, front, setWorker]
    · simp [setWorker] at asleep
  next message executing => exact executeMessage_effect executing taken
  next data testing =>
    obtain rfl := (Option.some.inj taken).symm
    exact testCompleted_effect testing
  next data asleep =>
    have current : (state.worker t).current = [.waitForBufferRelease data] := by
      rw [asleep]
      rfl
    split_ifs at taken with stopped
    · obtain rfl := (Option.some.inj taken).symm
      exact ⟨sameElsewhere_park .., park_failedWait current (Or.inr stopped) _⟩
    · obtain rfl := (Option.some.inj taken).symm
      exact enterTest_effect current
  next => cases taken

theorem workerThrows_effect {state state' : State stages} {t : ℕ} {exception : String}
    {garbage : Heap (Val stages)}
    (taken : state.workerThrows t exception garbage = some state') :
    SameElsewhere t state state' ∧ ∃ message, canThrow message = true ∧
      state.worker t = .executing message ∧ state'.worker t = .idle ∧
      state.pendingMessages t = message :: state'.pendingMessages t ∧
      (∃ parked, state'.exception t = some parked) ∧ state'.io = state.io := by
  unfold workerThrows at taken
  split at taken
  next message executing =>
    split_ifs at taken with ordinary
    obtain rfl := (Option.some.inj taken).symm
    refine ⟨⟨rfl, rfl, fun t' different => Function.update_of_ne different _ _, fun _ _ => rfl,
      fun t' different => Function.update_of_ne different _ _⟩,
      message, ordinary, executing, ?_, ?_, ⟨_, Function.update_self ..⟩, rfl⟩
    · simp [park, setWorker]
    · simp [pendingMessages, executing, park, setWorker]
  next => cases taken

/-! ## The main thread -/

theorem stepMain_cases {state state' : State stages} (taken : state.stepMain = some state') :
    (state.main = .running ∧ state.program = [] ∧ state' = state.leave .returned) ∨
      (∃ action rest, state.main = .running ∧ state.program = action :: rest ∧
        state.stepStatement action = some state') ∨
      (state.main = .counting ∧ state.io.queue = [] ∧ state' = state.proceed) ∨
      (state.main = .counting ∧ state.io.queue ≠ [] ∧
        state' = { state with main := .sleeping false }) ∨
      (state.main = .sleeping true ∧
        state' = state.rethrow state.io.exception { state with main := .counting }) := by
  unfold stepMain at taken
  split at taken
  next running empty => exact Or.inl ⟨running, empty, (Option.some.inj taken).symm⟩
  next action rest running front => exact Or.inr (Or.inl ⟨action, rest, running, front, taken⟩)
  next counting =>
    split_ifs at taken with empty
    · exact Or.inr (Or.inr (Or.inl ⟨counting, empty, (Option.some.inj taken).symm⟩))
    · exact Or.inr (Or.inr (Or.inr (Or.inl ⟨counting, empty, (Option.some.inj taken).symm⟩)))
  next asleep => exact Or.inr (Or.inr (Or.inr (Or.inr ⟨asleep, (Option.some.inj taken).symm⟩)))
  next => cases taken

theorem rethrow_cases (state proceeding : State stages) (stored : Option String) :
    (stored = none ∧ state.rethrow stored proceeding = proceeding) ∨
      ∃ exception, stored = some exception ∧
        state.rethrow stored proceeding = state.leave (.threw exception) := by
  cases stored with
  | none => exact Or.inl ⟨rfl, rfl⟩
  | some exception => exact Or.inr ⟨exception, rfl, rfl⟩

theorem mainThrows_cases {state state' : State stages} {exception : String}
    (taken : state.mainThrows exception = some state') :
    ∃ action rest, state.main = .running ∧ state.program = action :: rest ∧
      ((∃ slot, action = .setReferenceProjection slot) ∨
        (∃ index, action = .writeCorrection index) ∨
        action = .linearFit) ∧
      state' = state.leave (.threw exception) := by
  unfold mainThrows at taken
  split at taken
  next slot rest running front =>
    exact ⟨_, rest, running, front, Or.inl ⟨slot, rfl⟩, (Option.some.inj taken).symm⟩
  next index rest running front =>
    exact ⟨_, rest, running, front, Or.inr (Or.inl ⟨index, rfl⟩), (Option.some.inj taken).symm⟩
  next rest running front =>
    exact ⟨_, rest, running, front, Or.inr (Or.inr rfl), (Option.some.inj taken).symm⟩
  next => cases taken

/-! ## The IO processor's thread -/

theorem pendingMessages_notify (state : State stages) (t : ℕ) :
    state.notify.pendingMessages t = state.pendingMessages t := by
  cases status : state.worker t <;> simp [pendingMessages, notify, status]

@[simp] theorem exited_notify (state : State stages) : state.notify.Exited ↔ state.Exited := by
  cases status : state.main <;> simp [Exited, notify, status]

theorem stepIO_cases {state state' : State stages} (taken : state.stepIO = some state') :
    (∃ io, state.io.getRequest = some io ∧ state' = { state with io := io }) ∨
      (∃ request io, state.io.worker = .fetched request ∧
        state.io.executeOperation none = some io ∧
        state' = { state with io := io, heap := state.performOperation request }) ∨
      (∃ io, state.io.registerCompleted IORequest.image = some io ∧
        state' = { state with io := io }.notify) := by
  unfold stepIO at taken
  split at taken
  next =>
    obtain ⟨io, fetched, rfl⟩ := Option.map_eq_some_iff.mp taken
    exact Or.inl ⟨io, fetched, rfl⟩
  next request holding =>
    obtain ⟨io, executed, rfl⟩ := Option.map_eq_some_iff.mp taken
    exact Or.inr (Or.inl ⟨request, io, holding, executed, rfl⟩)
  next =>
    obtain ⟨io, registered, rfl⟩ := Option.map_eq_some_iff.mp taken
    exact Or.inr (Or.inr ⟨io, registered, rfl⟩)
  next => cases taken

/-- An operation that does not fail stores no exception. -/
theorem stepIO_exceptions {state state' : State stages} (taken : state.stepIO = some state') :
    state'.exception = state.exception ∧ state'.io.exception = state.io.exception := by
  rcases stepIO_cases taken with ⟨io, fetched, rfl⟩ | ⟨request, io, -, executed, rfl⟩ |
    ⟨io, registered, rfl⟩
  · obtain ⟨request, rest, -, -, -, rfl⟩ := AsynchronousIOProcessor.getRequest_cases fetched
    exact ⟨rfl, rfl⟩
  · obtain ⟨request, -, rfl⟩ := AsynchronousIOProcessor.executeOperation_cases executed
    exact ⟨rfl, Option.or_none⟩
  · obtain ⟨request, -, rfl⟩ := AsynchronousIOProcessor.registerCompleted_cases registered
    exact ⟨rfl, rfl⟩

theorem exited_stepIO {state state' : State stages} (taken : state.stepIO = some state') :
    state'.Exited ↔ state.Exited := by
  rcases stepIO_cases taken with ⟨io, -, rfl⟩ | ⟨request, io, -, -, rfl⟩ | ⟨io, -, rfl⟩
  · exact Iff.rfl
  · exact Iff.rfl
  · exact exited_notify _

theorem ioThrows_cases {state state' : State stages} {exception : String}
    {garbage : Heap (Val stages)} (taken : state.ioThrows exception garbage = some state') :
    ∃ request io, state.io.worker = .fetched request ∧ state.io.exception = none ∧
      state.io.executeOperation (some exception) = some io ∧
      state' = { state with
        io := io
        heap := (performRequest stages request).damage garbage state.heap } := by
  unfold ioThrows at taken
  split at taken
  next request holding clean =>
    obtain ⟨io, executed, rfl⟩ := Option.map_eq_some_iff.mp taken
    exact ⟨request, io, holding, clean, executed, rfl⟩
  next => cases taken

/-! ## Barriers -/

theorem mainWaits_iff {state : State stages} {barrier : Barrier} :
    state.mainWaits barrier = true ↔
      state.main = .running ∧ ∃ rest, state.program = .barrierWait barrier :: rest := by
  cases front : state.program <;> simp [mainWaits, front]

@[simp] theorem releaseAll_io (state : State stages) (barrier : Barrier) :
    (state.releaseAll barrier).io = state.io := by
  unfold releaseAll
  split_ifs <;> rfl

@[simp] theorem releaseAll_heap (state : State stages) (barrier : Barrier) :
    (state.releaseAll barrier).heap = state.heap := by
  unfold releaseAll
  split_ifs <;> rfl

@[simp] theorem releaseAll_exception (state : State stages) (barrier : Barrier) :
    (state.releaseAll barrier).exception = state.exception := by
  unfold releaseAll
  split_ifs <;> rfl

@[simp] theorem releaseAll_worker (state : State stages) (barrier : Barrier) (t : ℕ) :
    (state.releaseAll barrier).worker t =
      if state.worker t = .waiting barrier then .idle else state.worker t := by
  by_cases waits : state.mainWaits barrier = true <;> simp [releaseAll, waits, proceed]

theorem releaseAll_main {state : State stages} {barrier : Barrier}
    (waits : state.mainWaits barrier = true) : (state.releaseAll barrier).main = .running := by
  simp [releaseAll, waits, proceed]

theorem releaseAll_program {state : State stages} {barrier : Barrier}
    (waits : state.mainWaits barrier = true) :
    (state.releaseAll barrier).program = state.program.tail := by
  simp [releaseAll, waits, proceed]

theorem pendingMessages_releaseAll (state : State stages) (barrier : Barrier) (t : ℕ) :
    (state.releaseAll barrier).pendingMessages t =
      if state.worker t = .waiting barrier then state.queue t else state.pendingMessages t := by
  by_cases waits : state.mainWaits barrier = true <;>
    by_cases waiting : state.worker t = .waiting barrier <;>
      simp [pendingMessages, releaseAll, proceed, waits, waiting]

end State

end AthabascaRecon.MultiThreaded
