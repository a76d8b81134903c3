import AthabascaRecon.IO.AsynchronousIOProcessor

/-!
# Waiting until no request is queued

`WaitForCompletion` sleeps until it finds the request queue empty. The worker
thread takes a request from the queue before it executes the operation, so an
empty queue does not say that every operation was executed: the last one may be
in the hands of the worker thread, or may have failed after the exception was
looked at.

The system below has any number of requesting threads, one thread that calls
`WaitForCompletion`, and the worker thread. The operations requested and those
executed are recorded in order. The return loses no operation exactly when the
worker thread holds none and no exception is stored.
-/

set_option autoImplicit false

namespace AthabascaRecon.WaitForCompletion

/-- The position of the thread that calls `WaitForCompletion`. -/
inductive Waiter where
  | outside
  | counting
  | sleeping (notified : Bool)
  | returned
  | threw (exception : String)
  deriving DecidableEq

/-- The processor with the records of the run. -/
structure State (Request Image : Type) where
  io : AsynchronousIOProcessor Request Image
  waiter : Waiter
  /-- All operations requested. -/
  requested : List Request
  /-- The operations that were executed and did not throw. -/
  executed : List Request
  /-- The operations that were executed and threw. -/
  failed : List Request
  /-- The operations requested before the last call of `WaitForCompletion`. -/
  requestedBeforeCall : List Request

inductive Label (Request : Type) where
  | request (request : Request)
  | call
  | waiter
  | fetch
  | execute (failure : Option String)
  | register

variable {Request Image : Type}

def initial : State Request Image where
  io := .initial
  waiter := .outside
  requested := []
  executed := []
  failed := []
  requestedBeforeCall := []

/-- `notify_all` on the completed condition. -/
def Waiter.notify : Waiter → Waiter
  | .sleeping _ => .sleeping true
  | waiter => waiter

/-- `CheckException` of the processor: go on with the loop, or throw. -/
def checkException (io : AsynchronousIOProcessor Request Image) : Waiter :=
  match io.exception with
  | some exception => .threw exception
  | none => .counting

/-- The next section of the waiting thread: count the requests in the queue, or
look for an exception after a notification. -/
def stepWaiter (state : State Request Image) : Option (State Request Image) :=
  match state.waiter with
  | .counting =>
      some { state with waiter := if state.io.queue.isEmpty then .returned else .sleeping false }
  | .sleeping true => some { state with waiter := checkException state.io }
  | _ => none

/-- Keep the record of the operation the worker thread is about to execute. -/
def recordOperation (state : State Request Image) (failure : Option String) :
    State Request Image :=
  match state.io.worker, state.io.exception, failure with
  | .fetched request, none, none => { state with executed := state.executed ++ [request] }
  | .fetched request, none, some _ => { state with failed := state.failed ++ [request] }
  | _, _, _ => state

theorem stepWaiter_cases {state state' : State Request Image}
    (taken : stepWaiter state = some state') :
    ∃ waiter, state' = { state with waiter := waiter } := by
  unfold stepWaiter at taken
  split at taken
  next => exact ⟨_, (Option.some.inj taken).symm⟩
  next => exact ⟨_, (Option.some.inj taken).symm⟩
  next => cases taken

variable [DecidableEq Image]

/-- One protected section of one thread. -/
def step (image : Request → Image) (state : State Request Image) :
    Label Request → Option (State Request Image)
  | .request request =>
      some { state with
        io := state.io.requestIOOperation request
        requested := state.requested ++ [request] }
  | .call =>
      match state.waiter with
      | .outside => some { state with
          waiter := checkException state.io
          requestedBeforeCall := state.requested }
      | .returned => some { state with
          waiter := checkException state.io
          requestedBeforeCall := state.requested }
      | _ => none
  | .waiter => stepWaiter state
  | .fetch => state.io.getRequest.map fun io => { state with io := io }
  | .execute failure =>
      (state.io.executeOperation failure).map fun io =>
        { recordOperation state failure with io := io }
  | .register =>
      (state.io.registerCompleted image).map fun io =>
        { state with io := io, waiter := state.waiter.notify }

/-- A run from a state under a schedule of labels. -/
def run (image : Request → Image) (state : State Request Image)
    (schedule : List (Label Request)) : Option (State Request Image) :=
  schedule.foldlM (step image) state

/-- The states that some schedule leads to. -/
def Reachable (image : Request → Image) (state : State Request Image) : Prop :=
  ∃ schedule, run image initial schedule = some state

/-! ## The records and the processor -/

/-- Until an operation fails, what was requested is what was executed followed by
what is still to be executed. -/
structure Recorded (state : State Request Image) : Prop where
  running : state.io.stopped = false
  beforeCall : state.requestedBeforeCall <+: state.requested
  unfailed : state.failed = [] ↔ state.io.exception = none
  requested : state.io.exception = none →
    state.requested = state.executed ++ state.io.unexecuted

omit [DecidableEq Image] in
theorem recorded_initial : Recorded (initial : State Request Image) where
  running := rfl
  beforeCall := List.prefix_rfl
  unfailed := Iff.intro (fun _ => rfl) (fun _ => rfl)
  requested _ := rfl

omit [DecidableEq Image] in
/-- The waiter's own steps touch neither the records nor the processor. -/
theorem Recorded.of_waiter {state : State Request Image} (recorded : Recorded state)
    (waiter : Waiter) : Recorded { state with waiter := waiter } :=
  ⟨recorded.running, recorded.beforeCall, recorded.unfailed, recorded.requested⟩

omit [DecidableEq Image] in
theorem Recorded.of_execute {state : State Request Image} (recorded : Recorded state)
    {failure : Option String} {io : AsynchronousIOProcessor Request Image}
    (executed : state.io.executeOperation failure = some io) :
    Recorded { recordOperation state failure with io := io } := by
  obtain ⟨request, holding, rfl⟩ := AsynchronousIOProcessor.executeOperation_cases executed
  have unexecuted : state.io.unexecuted = request :: state.io.queue := by
    rw [AsynchronousIOProcessor.unexecuted, holding]
  cases stored : state.io.exception with
  | some exception =>
      -- an exception is stored, so the operation is skipped
      have unrecorded : recordOperation state failure = state := by
        simp [recordOperation, holding, stored]
      rw [unrecorded]
      refine ⟨recorded.running, recorded.beforeCall, ?_, fun none => ?_⟩
      · simpa [stored] using recorded.unfailed
      · simp at none
  | none =>
      have before := recorded.requested stored
      rw [unexecuted] at before
      cases failure with
      | some exception =>
          refine ⟨by simpa [recordOperation, holding, stored] using recorded.running,
            by simpa [recordOperation, holding, stored] using recorded.beforeCall, ?_,
            fun none => ?_⟩
          · simp [recordOperation, holding, stored]
          · simp at none
      | none =>
          have clean : state.failed = [] := recorded.unfailed.mpr stored
          refine ⟨by simpa [recordOperation, holding, stored] using recorded.running,
            by simpa [recordOperation, holding, stored] using recorded.beforeCall, ?_,
            fun _ => ?_⟩
          · simp [recordOperation, holding, stored, clean]
          · simpa [recordOperation, holding, stored,
              AsynchronousIOProcessor.unexecuted] using before

theorem Recorded.step {image : Request → Image} {state state' : State Request Image}
    {label : Label Request} (recorded : Recorded state)
    (taken : step image state label = some state') : Recorded state' := by
  cases label with
  | request request =>
      obtain rfl := (Option.some.inj taken).symm
      refine ⟨?_, recorded.beforeCall.trans (List.prefix_append _ _), ?_, fun none => ?_⟩
      · rw [AsynchronousIOProcessor.requestIOOperation_of_running recorded.running]
        exact recorded.running
      · simpa using recorded.unfailed
      · have before := recorded.requested (by simpa using none)
        simp only
        rw [AsynchronousIOProcessor.unexecuted_requestIOOperation recorded.running, before,
          List.append_assoc]
  | call =>
      cases position : state.waiter <;> simp only [WaitForCompletion.step, position] at taken
      case outside | returned =>
        obtain rfl := (Option.some.inj taken).symm
        exact ⟨recorded.running, List.prefix_rfl, recorded.unfailed, recorded.requested⟩
      all_goals cases taken
  | waiter =>
      obtain ⟨waiter, rfl⟩ := stepWaiter_cases taken
      exact recorded.of_waiter waiter
  | fetch =>
      obtain ⟨io, fetched, rfl⟩ := Option.map_eq_some_iff.mp taken
      obtain ⟨request, rest, idle, running, front, rfl⟩ :=
        AsynchronousIOProcessor.getRequest_cases fetched
      refine ⟨running, recorded.beforeCall, recorded.unfailed, fun none => ?_⟩
      have before := recorded.requested none
      simpa [AsynchronousIOProcessor.unexecuted, idle, front] using before
  | execute failure =>
      obtain ⟨io, executed, rfl⟩ := Option.map_eq_some_iff.mp taken
      exact recorded.of_execute executed
  | register =>
      obtain ⟨io, registered, rfl⟩ := Option.map_eq_some_iff.mp taken
      obtain ⟨request, performed, rfl⟩ :=
        AsynchronousIOProcessor.registerCompleted_cases registered
      refine ⟨recorded.running, recorded.beforeCall, recorded.unfailed, fun none => ?_⟩
      have before := recorded.requested none
      simpa [AsynchronousIOProcessor.unexecuted, performed] using before

theorem Recorded.run {image : Request → Image} {state state' : State Request Image}
    {schedule : List (Label Request)} (recorded : Recorded state)
    (taken : run image state schedule = some state') : Recorded state' := by
  induction schedule generalizing state with
  | nil => exact (Option.some.inj taken) ▸ recorded
  | cons label schedule ih =>
      obtain ⟨middle, first, rest⟩ := Option.bind_eq_some_iff.mp taken
      exact ih (recorded.step first) rest

theorem Reachable.recorded {image : Request → Image} {state : State Request Image}
    (reachable : Reachable image state) : Recorded state := by
  obtain ⟨schedule, taken⟩ := reachable
  exact recorded_initial.run taken

/-! ## The return of `WaitForCompletion` -/

/-- What a normal return promises: every operation requested before the call was
executed once and in order, none of them failed, and a destructor run at this
point drops neither a request nor an exception. -/
structure NothingLost (state : State Request Image) : Prop where
  executedInOrder : state.requestedBeforeCall <+: state.executed
  noneFailed : state.failed = []
  noneDropped : state.io.unexecuted = []
  noException : state.io.exception = none

/-- The waiting thread is about to count the requests, and finds none. -/
def AboutToReturn (state : State Request Image) : Prop :=
  state.waiter = .counting ∧ state.io.queue = []

/-- **A return of `WaitForCompletion` loses nothing if and only if, when it found
the queue empty, the worker thread held no request that it had not executed and
no exception was stored.** -/
theorem return_nothingLost_iff (image : Request → Image) (state : State Request Image)
    (reachable : Reachable image state) (about : AboutToReturn state) :
    ∃ state', step image state .waiter = some state' ∧ state'.waiter = .returned ∧
      (NothingLost state' ↔
        (∀ request, state.io.worker ≠ .fetched request) ∧ state.io.exception = none) := by
  obtain ⟨counting, empty⟩ := about
  have recorded := reachable.recorded
  refine ⟨{ state with waiter := .returned }, ?_, rfl, fun nothingLost => ⟨?_, ?_⟩, ?_⟩
  · simp [step, stepWaiter, counting, empty]
  · intro request holding
    have dropped : state.io.unexecuted = [] := nothingLost.noneDropped
    simp [AsynchronousIOProcessor.unexecuted, holding] at dropped
  · exact nothingLost.noException
  · rintro ⟨notHolding, noException⟩
    have noneDropped : state.io.unexecuted = [] := by
      cases position : state.io.worker with
      | fetched request => exact absurd position (notHolding request)
      | idle => simpa [AsynchronousIOProcessor.unexecuted, position] using empty
      | performed request => simpa [AsynchronousIOProcessor.unexecuted, position] using empty
      | exited => simpa [AsynchronousIOProcessor.unexecuted, position] using empty
    have all : state.requested = state.executed := by
      simpa [noneDropped] using recorded.requested noException
    exact ⟨all ▸ recorded.beforeCall, recorded.unfailed.mpr noException, noneDropped, noException⟩

/-- One request, in the hands of the worker thread when the queue is counted. -/
def inFlight : List (Label ℕ) :=
  [.request 0, .fetch, .call]

/-- The same with the operation executed before the queue is counted. -/
def settled : List (Label ℕ) :=
  [.request 0, .fetch, .execute none, .call]

/-- The return that keeps its promise at a settled state. -/
theorem return_nothingLost_settled :
    ∃ state state' : State ℕ ℕ, run id initial settled = some state ∧
      step id state .waiter = some state' ∧ state'.waiter = .returned ∧ NothingLost state' := by
  obtain ⟨state', taken, returned, kept⟩ :=
    return_nothingLost_iff (id : ℕ → ℕ) _ ⟨settled, rfl⟩ ⟨rfl, rfl⟩
  exact ⟨_, state', rfl, taken, returned, kept.mpr ⟨fun request => nofun, rfl⟩⟩

/-- `WaitForCompletion` returns while the only request is still to be executed. -/
theorem return_loses_inFlight :
    ∃ state : State ℕ ℕ, run id initial (inFlight ++ [.waiter]) = some state ∧
      state.waiter = .returned ∧ state.requestedBeforeCall = [0] ∧ state.executed = [] ∧
      ¬ NothingLost state := by
  refine ⟨_, rfl, rfl, rfl, rfl, fun nothingLost => ?_⟩
  exact absurd nothingLost.noneDropped (by decide)

end AthabascaRecon.WaitForCompletion
