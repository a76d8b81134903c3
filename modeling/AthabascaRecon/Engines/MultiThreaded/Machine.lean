import AthabascaRecon.Engines.MultiThreaded.Program

/-!
# The threads of a run

The state of a run holds the statements that the main thread still has to
execute, the message queue, the activity and the parked exception of every worker
thread, the IO processor, and the shared memory. `step` executes one protected
section or one stage of one thread, chosen by a label, so a run is a list of
labels and every interleaving of the threads is one.

A label also says whether a stage or an IO operation throws, and what it leaves
in the locations it was writing. What follows from the exception is determined:
it is parked by the thread and looked at where the source looks at it.
-/

set_option autoImplicit false

namespace AthabascaRecon.MultiThreaded

open Foundation.Concurrency

/-- The main thread executes its statements, or is inside `WaitForCompletion`, or
has left `ExecuteOnThreads`. -/
inductive MainStatus where
  | running
  | counting
  | sleeping (notified : Bool)
  | returned
  | threw (exception : String)
  deriving DecidableEq, Repr

/-- The position of a worker thread. `testing` and `sleeping` are inside
`WaitForBufferRelease`. -/
inductive WorkerStatus where
  | idle
  | executing (message : Message)
  | testing (data : Buffer)
  | sleeping (data : Buffer) (notified : Bool)
  | waiting (barrier : Barrier)
  deriving DecidableEq, Repr

structure State (stages : Stages) where
  main : MainStatus
  program : List MainAction
  queue : ℕ → List Message
  worker : ℕ → WorkerStatus
  exception : ℕ → Option String
  io : AsynchronousIOProcessor IORequest Buffer
  heap : Heap (Val stages)

/-- A thread to step. With an exception comes what is left at the locations the
stage was writing. -/
inductive Label (stages : Stages) where
  | main
  | mainThrows (exception : String)
  | worker (t : ℕ)
  | workerThrows (t : ℕ) (exception : String) (garbage : Heap (Val stages))
  | io
  | ioThrows (exception : String) (garbage : Heap (Val stages))
  | ioExit
  | release (barrier : Barrier)

variable {stages : Stages}

namespace State

/-- `Execute` begins with the threads created and nothing sent. -/
def initial (config : Config) (contents : Contents stages) : State stages where
  main := .running
  program := execute config
  queue _ := []
  worker _ := .idle
  exception _ := none
  io := .initial
  heap := contents.heap

/-! ## The main thread -/

/-- The main thread goes on with its next statement. -/
def proceed (state : State stages) : State stages :=
  { state with main := .running, program := state.program.tail }

/-- The main thread leaves `ExecuteOnThreads`, and the IO processor is stopped. -/
def leave (state : State stages) (status : MainStatus) : State stages :=
  { state with main := status, io := state.io.stop }

def setMessage (state : State stages) (t : ℕ) (message : Message) : State stages :=
  { state with queue := Function.update state.queue t (state.queue t ++ [message]) }

/-- `CheckException` of a worker thread's runner, or of the IO processor. -/
def rethrow (state : State stages) (stored : Option String) (proceeding : State stages) :
    State stages :=
  match stored with
  | some exception => state.leave (.threw exception)
  | none => proceeding

def stepStatement (state : State stages) : MainAction → Option (State stages)
  | .setMessage t message => some (state.setMessage t message).proceed
  | .requestIOOperation request =>
      some { state with io := state.io.requestIOOperation request }.proceed
  | .barrierWait _ => none
  | .checkException t => some (state.rethrow (state.exception t) state.proceed)
  | .setReferenceProjection slot =>
      some { state with
        heap := (performSetReferenceProjection stages slot).run state.heap }.proceed
  | .writeCorrection index =>
      some { state with heap := (performWriteCorrection stages index).run state.heap }.proceed
  | .waitForCompletion =>
      some (state.rethrow state.io.exception { state with main := .counting })
  | .linearFit => some state.proceed
  | .throwInternalError => some (state.leave (.threw "Internal error\n"))

def stepMain (state : State stages) : Option (State stages) :=
  match state.main, state.program with
  | .running, [] => some (state.leave .returned)
  | .running, action :: _ => state.stepStatement action
  | .counting, _ =>
      if state.io.queue = [] then some state.proceed
      else some { state with main := .sleeping false }
  | .sleeping true, _ =>
      some (state.rethrow state.io.exception { state with main := .counting })
  | _, _ => none

/-- The statements that throw by themselves. -/
def mainThrows (state : State stages) (exception : String) : Option (State stages) :=
  match state.main, state.program with
  | .running, .setReferenceProjection _ :: _ => some (state.leave (.threw exception))
  | .running, .writeCorrection _ :: _ => some (state.leave (.threw exception))
  | .running, .linearFit :: _ => some (state.leave (.threw exception))
  | _, _ => none

/-! ## The worker threads -/

def setWorker (state : State stages) (t : ℕ) (status : WorkerStatus) : State stages :=
  { state with worker := Function.update state.worker t status }

/-- The message of a worker thread ended with an exception, and the first one is
kept. -/
def park (state : State stages) (t : ℕ) (exception : String) : State stages :=
  { state.setWorker t .idle with
    exception := Function.update state.exception t
      (some ((state.exception t).getD exception)) }

/-- `CheckException` of the IO processor by a worker thread in
`WaitForBufferRelease`. -/
def enterTest (state : State stages) (t : ℕ) (data : Buffer) : State stages :=
  match state.io.exception with
  | some exception => state.park t exception
  | none => state.setWorker t (.testing data)

def stoppedMessage : String := "AsynchronousIOProcessor stopped with active request"

/-- Look for the image among the completed requests. -/
def testCompleted (state : State stages) (t : ℕ) (data : Buffer) : State stages :=
  if state.io.stopped then state.park t stoppedMessage
  else if data ∈ state.io.completedRequests then
    { state.setWorker t .idle with io := state.io.releaseBuffer data }
  else state.setWorker t (.sleeping data false)

def executeMessage (state : State stages) (t : ℕ) : Message → Option (State stages)
  | .waitForBufferRelease data => some (state.enterTest t data)
  | .synchronize barrier => some (state.setWorker t (.waiting barrier))
  | message =>
      if ready state.heap t message then
        some { state.setWorker t .idle with
          heap := (performMessage stages t message).run state.heap }
      else none

def stepWorker (state : State stages) (t : ℕ) : Option (State stages) :=
  match state.worker t, state.queue t with
  | .idle, message :: rest =>
      some { state.setWorker t (.executing message) with
        queue := Function.update state.queue t rest }
  | .executing message, _ => state.executeMessage t message
  | .testing data, _ => some (state.testCompleted t data)
  | .sleeping data true, _ =>
      if state.io.stopped then some (state.park t stoppedMessage)
      else some (state.enterTest t data)
  | _, _ => none

/-- The messages whose stages can throw. Waiting for an image throws only what the
IO processor stored, and a barrier does not throw. -/
def canThrow : Message → Bool
  | .waitForBufferRelease _ => false
  | .synchronize _ => false
  | _ => true

def workerThrows (state : State stages) (t : ℕ) (exception : String)
    (garbage : Heap (Val stages)) : Option (State stages) :=
  match state.worker t with
  | .executing message =>
      if canThrow message then
        some { state.park t exception with
          heap := (performMessage stages t message).damage garbage state.heap }
      else none
  | _ => none

/-! ## The IO processor's thread -/

/-- `notify_all` on the completed condition. -/
def notify (state : State stages) : State stages :=
  { state with
    main := match state.main with
      | .sleeping _ => .sleeping true
      | status => status
    worker := fun t => match state.worker t with
      | .sleeping data _ => .sleeping data true
      | status => status }

/-- The operation is skipped when an exception is stored. -/
def performOperation (state : State stages) (request : IORequest) : Heap (Val stages) :=
  match state.io.exception with
  | some _ => state.heap
  | none => (performRequest stages request).run state.heap

def stepIO (state : State stages) : Option (State stages) :=
  match state.io.worker with
  | .idle => state.io.getRequest.map fun io => { state with io := io }
  | .fetched request =>
      (state.io.executeOperation none).map fun io =>
        { state with io := io, heap := state.performOperation request }
  | .performed _ =>
      (state.io.registerCompleted IORequest.image).map fun io =>
        { state with io := io }.notify
  | .exited => none

def ioThrows (state : State stages) (exception : String) (garbage : Heap (Val stages)) :
    Option (State stages) :=
  match state.io.worker, state.io.exception with
  | .fetched request, none =>
      (state.io.executeOperation (some exception)).map fun io =>
        { state with
          io := io
          heap := (performRequest stages request).damage garbage state.heap }
  | _, _ => none

/-! ## Barriers -/

/-- The main thread waits at the barrier. -/
def mainWaits (state : State stages) (barrier : Barrier) : Bool :=
  state.main == .running && state.program.head? == some (.barrierWait barrier)

/-- The number of threads that wait at the barrier. -/
def waiters (config : Config) (state : State stages) (barrier : Barrier) : ℕ :=
  (List.range config.numberOfThreads).countP (state.worker · == .waiting barrier) +
    (state.mainWaits barrier).toNat

/-- All threads that wait at the barrier go on. -/
def releaseAll (state : State stages) (barrier : Barrier) : State stages :=
  let released := { state with
    worker := fun t => if state.worker t = .waiting barrier then .idle else state.worker t }
  if state.mainWaits barrier then released.proceed else released

end State

/-- The counts the barriers are created with. -/
def Barrier.count (config : Config) : Barrier → ℕ
  | .meAndAllWorkers => config.numberOfThreads + 1
  | .meAndOneWorker => 2

/-! ## Steps and runs -/

def step (config : Config) (state : State stages) : Label stages → Option (State stages)
  | .main => state.stepMain
  | .mainThrows exception => state.mainThrows exception
  | .worker t => if t < config.numberOfThreads then state.stepWorker t else none
  | .workerThrows t exception garbage =>
      if t < config.numberOfThreads then state.workerThrows t exception garbage else none
  | .io => state.stepIO
  | .ioThrows exception garbage => state.ioThrows exception garbage
  | .ioExit => state.io.exitWorker.map fun io => { state with io := io }
  | .release barrier =>
      if state.waiters config barrier = barrier.count config then
        some (state.releaseAll barrier)
      else none

/-- A run from a state under a schedule. -/
def run (config : Config) (state : State stages) (schedule : List (Label stages)) :
    Option (State stages) :=
  schedule.foldlM (step config) state

/-- The label lets a stage or an IO operation throw. -/
def Label.throws : Label stages → Bool
  | .mainThrows _ => true
  | .workerThrows _ _ _ => true
  | .ioThrows _ _ => true
  | _ => false

/-- The states that some interleaving leads to. -/
def Reachable (config : Config) (contents : Contents stages) (state : State stages) : Prop :=
  ∃ schedule, run config (State.initial config contents) schedule = some state

/-- The states that some interleaving without failing operations leads to. -/
def ReachableWithoutFailure (config : Config) (contents : Contents stages)
    (state : State stages) : Prop :=
  ∃ schedule, run config (State.initial config contents) schedule = some state ∧
    ∀ label ∈ schedule, label.throws = false

end AthabascaRecon.MultiThreaded
