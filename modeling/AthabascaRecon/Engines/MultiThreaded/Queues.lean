import AthabascaRecon.Bonelab.MessageDelivery
import AthabascaRecon.Engines.MultiThreaded.Progress

/-!
# The threads of a run, with the queues they use

In the machine of a run a message is appended to a queue and taken from it in one step. Here
the main thread executes `SetMessage` and the worker threads `GetMessage` statement by
statement, with the mutex and the condition of each queue, and a waiting worker thread may
wake up for no reason.

What a queue still has to deliver is what a worker thread has got but not returned with, the
messages of the queue, and what the main thread is about to push. With these as its queues
the machine simulates the threads (`queued_simulates`), so whatever holds in every state of
its interleavings holds here.
-/

set_option autoImplicit false

namespace AthabascaRecon.MultiThreaded

open Foundation.Concurrency Runs

variable {stages : Stages}

/-- The queue of a worker thread, to which only the main thread sends. -/
abbrev WorkerQueue : Type := MessageQueue.State 1 Message

/-- The main thread, as the sender of a queue. -/
abbrev mainSender : Fin 1 := Fin.last 0

/-- The queues of the machine itself are not used. -/
structure QueuedState (stages : Stages) where
  machine : State stages
  queues : ℕ → WorkerQueue
  /-- The worker thread for which the main thread is in `SetMessage`. -/
  calling : Option ℕ

/-- A thread to step, or a worker thread that wakes up for no reason. -/
inductive QueuedLabel (stages : Stages) where
  | thread (label : Label stages)
  | wake (t : ℕ)

namespace QueuedState

def initial (config : Config) (contents : Contents stages) : QueuedState stages where
  machine := .initial config contents
  queues _ := MessageQueue.initial
  calling := none

def setQueue (state : QueuedState stages) (t : ℕ) (queue : WorkerQueue) : QueuedState stages :=
  { state with queues := Function.update state.queues t queue }

def withMachine (state : QueuedState stages) (machine : State stages) : QueuedState stages :=
  { state with machine := machine }

/-- The main thread calls `SetMessage`. -/
def beginCall (state : QueuedState stages) (t : ℕ) (message : Message) :
    Option (QueuedState stages) :=
  (MessageQueue.step (state.queues t) (.setMessage mainSender message)).map fun queue =>
    { state.setQueue t queue with machine := state.machine.proceed, calling := some t }

/-- The main thread goes on in `SetMessage`. -/
def stepCall (state : QueuedState stages) (t : ℕ) : Option (QueuedState stages) :=
  ((state.queues t).stepSender mainSender).map fun queue =>
    { state.setQueue t queue with
      calling := match queue.sender mainSender with
        | .outside => none
        | _ => some t }

def stepMain (state : QueuedState stages) : Option (QueuedState stages) :=
  match state.calling with
  | some t => state.stepCall t
  | none =>
      match state.machine.main, state.machine.program with
      | .running, .setMessage t message :: _ => state.beginCall t message
      | _, _ => state.machine.stepMain.map state.withMachine

/-- A worker thread goes on in `GetMessage`, and executes what it has got. -/
def receive (state : QueuedState stages) (t : ℕ) : Option (QueuedState stages) :=
  match (state.queues t).receiver with
  | .outside => (MessageQueue.step (state.queues t) .getMessage).map (state.setQueue t)
  | .returning none => none
  | .returning (some message) =>
      (state.queues t).stepReceiver.map fun queue =>
        { state.setQueue t queue with
          machine := state.machine.setWorker t (.executing message) }
  | _ => (state.queues t).stepReceiver.map (state.setQueue t)

def stepWorker (state : QueuedState stages) (t : ℕ) : Option (QueuedState stages) :=
  match state.machine.worker t with
  | .idle => state.receive t
  | _ => (state.machine.stepWorker t).map state.withMachine

/-- The main thread waits at the barrier, and is not in `SetMessage` any more. -/
def mainWaits (state : QueuedState stages) (barrier : Barrier) : Bool :=
  state.calling.isNone && state.machine.mainWaits barrier

def waiters (config : Config) (state : QueuedState stages) (barrier : Barrier) : ℕ :=
  (List.range config.numberOfThreads).countP (state.machine.worker · == .waiting barrier) +
    (state.mainWaits barrier).toNat

def releaseAll (state : QueuedState stages) (barrier : Barrier) : QueuedState stages :=
  let released := { state.machine with
    worker := fun t =>
      if state.machine.worker t = .waiting barrier then .idle else state.machine.worker t }
  state.withMachine (if state.mainWaits barrier then released.proceed else released)

def step (config : Config) (state : QueuedState stages) :
    QueuedLabel stages → Option (QueuedState stages)
  | .thread .main => state.stepMain
  | .thread (.mainThrows exception) =>
      if state.calling = none then
        (state.machine.mainThrows exception).map state.withMachine
      else none
  | .thread (.worker t) => if t < config.numberOfThreads then state.stepWorker t else none
  | .thread (.release barrier) =>
      if state.waiters config barrier = barrier.count config then
        some (state.releaseAll barrier)
      else none
  | .thread label => (MultiThreaded.step config state.machine label).map state.withMachine
  | .wake t => (MessageQueue.step (state.queues t) .wake).map (state.setQueue t)

end QueuedState

/-! ## What a queue has to deliver -/

/-- The message that `GetMessage` returns with. -/
def inHand : MessageQueue.Receiver Message → List Message
  | .returning message => message.toList
  | _ => []

def WorkerQueue.pending (queue : WorkerQueue) : List Message :=
  inHand queue.receiver ++ queue.messages ++ (queue.sender mainSender).unsettled

/-- The worker thread is outside the queue or in `GetMessage`. -/
@[simp] def isReceiving : MessageQueue.Receiver Message → Bool
  | .outside => true
  | .entering => true
  | .locking => true
  | .looking => true
  | .waiting => true
  | .sleeping => true
  | .woken => true
  | .retesting => true
  | .taking => true
  | .returning message => message.isSome
  | _ => false

/-- The queue is not being destroyed. -/
structure WorkerQueue.Serving (queue : WorkerQueue) : Prop where
  invariant : MessageQueue.Invariant queue
  receives : isReceiving queue.receiver = true
  sender : queue.sender mainSender ≠ .dropping

namespace WorkerQueue.Serving

variable {queue next : WorkerQueue}

theorem stopped (serving : queue.Serving) : queue.stopped = false := by
  have receives := serving.receives
  rw [serving.invariant.flag]
  cases position : queue.receiver <;> simp_all

theorem initial : Serving MessageQueue.initial where
  invariant := MessageQueue.invariant_initial
  receives := rfl
  sender := by simp [MessageQueue.initial]

/-- A call of `SetMessage` begins. -/
theorem beginCall (serving : queue.Serving) {message : Message}
    (taken : MessageQueue.step queue (.setMessage 0 message) = some next) :
    next.Serving ∧ next.pending = queue.pending ++ [message] ∧ next.receiver = queue.receiver ∧
      next.sender 0 ≠ .outside := by
  have invariant := serving.invariant.preserved taken
  obtain ⟨outside, rfl⟩ := MessageQueue.setMessage_cases taken
  refine ⟨⟨invariant, serving.receives, by simp⟩, ?_, rfl, by simp⟩
  change inHand queue.receiver ++ queue.messages ++
    ((queue.place 0 (.locking message)).sender 0).unsettled = _
  simp [pending, outside]

theorem notify (serving : queue.Serving) : inHand queue.notify.receiver = inHand queue.receiver ∧
    isReceiving queue.notify.receiver = true ∧
    (queue.receiver = .outside → queue.notify.receiver = .outside) := by
  have receives := serving.receives
  unfold MessageQueue.State.notify
  cases position : queue.receiver <;> simp_all [inHand]

/-- `SetMessage` goes on. -/
theorem stepCall (serving : queue.Serving) (taken : queue.stepSender 0 = some next) :
    next.Serving ∧ next.pending = queue.pending ∧
      (queue.receiver = .outside → next.receiver = .outside) := by
  have receives := serving.receives
  have unset := serving.stopped
  have label : MessageQueue.step queue (.sender 0) = some next := taken
  have invariant := serving.invariant.preserved label
  obtain ⟨events, moved⟩ : ∃ events, MessageQueue.SenderStep queue 0 events next :=
    ⟨_, MessageQueue.senderStep_of_step taken⟩
  cases moved with
  | lock msg position free =>
      exact ⟨⟨invariant, receives, by simp⟩, by simp [pending, position], id⟩
  | «open» msg position unset' =>
      exact ⟨⟨invariant, receives, by simp⟩, by simp [pending, position], id⟩
  | closed msg position set => simp [unset] at set
  | push msg position =>
      exact ⟨⟨invariant, receives, by simp⟩, by simp [pending, position], id⟩
  | unlock position =>
      exact ⟨⟨invariant, receives, by simp⟩, by simp [pending, position], id⟩
  | notify position =>
      obtain ⟨same, stillReceives, outside⟩ := serving.notify
      refine ⟨⟨invariant, stillReceives, by simp⟩, ?_, outside⟩
      change inHand queue.notify.receiver ++ queue.messages ++
        ((queue.place 0 .outside).sender 0).unsettled = _
      simp [pending, position, same]
  | drop position => exact absurd position serving.sender

/-- `GetMessage` begins. -/
theorem beginReceive (serving : queue.Serving)
    (taken : MessageQueue.step queue .getMessage = some next) :
    next.Serving ∧ next.pending = queue.pending := by
  have invariant := serving.invariant.preserved taken
  simp only [MessageQueue.step] at taken
  split at taken
  next outside =>
    obtain rfl := Option.some.inj taken
    exact ⟨⟨invariant, rfl, serving.sender⟩, by simp [pending, inHand, outside]⟩
  next => cases taken

/-- A wait returns for no reason. -/
theorem wake (serving : queue.Serving) (taken : MessageQueue.step queue .wake = some next) :
    queue.receiver = .sleeping ∧ next.Serving ∧ next.pending = queue.pending := by
  have invariant := serving.invariant.preserved taken
  simp only [MessageQueue.step] at taken
  split at taken
  next asleep =>
    obtain rfl := Option.some.inj taken
    exact ⟨asleep, ⟨invariant, rfl, serving.sender⟩, by simp [pending, inHand, asleep]⟩
  next => cases taken

/-- `GetMessage` goes on. -/
theorem stepReceiver (serving : queue.Serving) (taken : queue.stepReceiver = some next)
    (inside : ∀ result, queue.receiver ≠ .returning result) :
    next.Serving ∧ next.pending = queue.pending := by
  have receives := serving.receives
  have unset := serving.stopped
  have label : MessageQueue.step queue .receiver = some next := taken
  have invariant := serving.invariant.preserved label
  obtain ⟨events, moved⟩ : ∃ events, MessageQueue.ReceiverStep queue events next :=
    ⟨_, MessageQueue.receiverStep_of_step taken⟩
  cases moved with
  | begin position outside start =>
      simp [MessageQueue.State.stepReceiver, outside] at taken
  | enter position =>
      exact ⟨⟨invariant, by simp [unset], serving.sender⟩,
        by simp [pending, inHand, position, unset]⟩
  | lock old position here free moved =>
      rcases moved with ⟨rfl, rfl⟩ | ⟨rfl, rfl⟩ | ⟨rfl, rfl⟩
      · exact ⟨⟨invariant, rfl, serving.sender⟩, by simp [pending, inHand, here]⟩
      · exact ⟨⟨invariant, rfl, serving.sender⟩, by simp [pending, inHand, here]⟩
      · simp [here] at receives
  | look position =>
      refine ⟨⟨invariant, ?_, serving.sender⟩, ?_⟩
      · cases content : queue.messages <;> simp
      · cases content : queue.messages <;> simp [pending, inHand, position, content]
  | sleep position => exact ⟨⟨invariant, rfl, serving.sender⟩, by simp [pending, inHand, position]⟩
  | wake position => exact ⟨⟨invariant, rfl, serving.sender⟩, by simp [pending, inHand, position]⟩
  | retest position =>
      exact ⟨⟨invariant, by simp [unset], serving.sender⟩,
        by simp [pending, inHand, position, unset]⟩
  | take msg rest position content =>
      exact ⟨⟨invariant, rfl, serving.sender⟩, by simp [pending, inHand, position, content]⟩
  | leave result position => exact absurd position (inside result)
  | setFlag position => simp [position] at receives
  | release position => simp [position] at receives
  | alert position => simp [position] at receives
  | discard msg rest position content => simp [position] at receives
  | destroy position none => simp [position] at receives

/-- `GetMessage` returns with a message. -/
theorem returns (serving : queue.Serving) {message : Message}
    (position : queue.receiver = .returning (some message))
    (taken : queue.stepReceiver = some next) :
    next.Serving ∧ queue.pending = message :: next.pending ∧ next.receiver = .outside := by
  have label : MessageQueue.step queue .receiver = some next := taken
  have invariant := serving.invariant.preserved label
  simp only [MessageQueue.State.stepReceiver, position, Option.some.injEq] at taken
  subst taken
  exact ⟨⟨invariant, rfl, serving.sender⟩, by simp [pending, inHand, position], rfl⟩

end WorkerQueue.Serving

/-! ## The machine with other queues -/

namespace State

/-- The machine with these messages in its queues. -/
def withQueue (state : State stages) (queue : ℕ → List Message) : State stages :=
  { state with queue := queue }

variable {state : State stages} {queue : ℕ → List Message}

theorem rethrow_withQueue (state : State stages) (queue : ℕ → List Message)
    (stored : Option String) (proceeding : State stages) :
    (state.withQueue queue).rethrow stored (proceeding.withQueue queue) =
      (state.rethrow stored proceeding).withQueue queue := by
  cases stored <;> rfl

theorem stepStatement_withQueue {action : MainAction}
    (other : ∀ t message, action ≠ .setMessage t message) :
    (state.withQueue queue).stepStatement action =
      (state.stepStatement action).map (withQueue · queue) := by
  cases action with
  | setMessage t message => exact absurd rfl (other t message)
  | checkException t =>
      exact congrArg some (rethrow_withQueue state queue (state.exception t) state.proceed)
  | waitForCompletion =>
      exact congrArg some
        (rethrow_withQueue state queue state.io.exception { state with main := .counting })
  | _ => rfl

/-- A step of the main thread that sends nothing does not look at the queues. -/
theorem stepMain_withQueue
    (other : ∀ t message rest, state.main = .running →
      state.program ≠ .setMessage t message :: rest) :
    (state.withQueue queue).stepMain = state.stepMain.map (withQueue · queue) := by
  obtain ⟨main, program, old, worker, exception, io, heap⟩ := state
  cases main with
  | running =>
      cases program with
      | nil => rfl
      | cons action rest =>
          exact stepStatement_withQueue fun t message same => other t message rest rfl (same ▸ rfl)
  | counting => by_cases done : io.queue = [] <;> simp [stepMain, withQueue, proceed, done]
  | sleeping notified =>
      cases notified with
      | false => rfl
      | true =>
          exact congrArg some (rethrow_withQueue
            ⟨.sleeping true, program, old, worker, exception, io, heap⟩ queue io.exception
            ⟨.counting, program, old, worker, exception, io, heap⟩)
  | returned => rfl
  | threw exception => rfl

theorem mainThrows_withQueue (exception : String) :
    (state.withQueue queue).mainThrows exception =
      (state.mainThrows exception).map (withQueue · queue) := by
  unfold mainThrows
  simp only [withQueue]
  split <;> rfl

theorem enterTest_withQueue (t : ℕ) (data : Buffer) :
    (state.withQueue queue).enterTest t data = (state.enterTest t data).withQueue queue := by
  unfold enterTest
  simp only [withQueue]
  split <;> rfl

theorem testCompleted_withQueue (t : ℕ) (data : Buffer) :
    (state.withQueue queue).testCompleted t data =
      (state.testCompleted t data).withQueue queue := by
  by_cases stopped : state.io.stopped = true
  · simp [testCompleted, withQueue, stopped, park, setWorker]
  · by_cases completed : data ∈ state.io.completedRequests <;>
      simp [testCompleted, withQueue, stopped, completed, setWorker]

theorem executeMessage_withQueue (t : ℕ) (message : Message) :
    (state.withQueue queue).executeMessage t message =
      (state.executeMessage t message).map (withQueue · queue) := by
  cases message with
  | waitForBufferRelease data => exact congrArg some (enterTest_withQueue t data)
  | synchronize barrier => rfl
  | _ =>
      unfold executeMessage
      rw [apply_ite (Option.map _)]
      rfl

/-- A step of a worker thread inside a message does not look at the queues. -/
theorem stepWorker_withQueue {t : ℕ} (busy : state.worker t ≠ .idle) :
    (state.withQueue queue).stepWorker t = (state.stepWorker t).map (withQueue · queue) := by
  have same : (state.withQueue queue).worker t = state.worker t := rfl
  unfold stepWorker
  rw [same]
  cases status : state.worker t with
  | idle => exact absurd status busy
  | executing message => exact executeMessage_withQueue t message
  | testing data => exact congrArg some (testCompleted_withQueue t data)
  | waiting barrier => rfl
  | sleeping data notified =>
      cases notified with
      | false => rfl
      | true =>
          simp only [enterTest_withQueue]
          by_cases stopped : state.io.stopped = true
          · rw [if_pos stopped,
              if_pos (show (state.withQueue queue).io.stopped = true from stopped)]
            rfl
          · rw [if_neg stopped,
              if_neg (show ¬ (state.withQueue queue).io.stopped = true from stopped)]
            rfl

theorem workerThrows_withQueue (t : ℕ) (exception : String) (garbage : Heap (Val stages)) :
    (state.withQueue queue).workerThrows t exception garbage =
      (state.workerThrows t exception garbage).map (withQueue · queue) := by
  unfold workerThrows
  simp only [withQueue]
  split
  · split_ifs <;> rfl
  · rfl

theorem stepIO_withQueue :
    stepIO (state.withQueue queue) = state.stepIO.map (withQueue · queue) := by
  unfold stepIO
  simp only [withQueue]
  split <;> simp [Option.map_map] <;> rfl

theorem ioThrows_withQueue (exception : String) (garbage : Heap (Val stages)) :
    (state.withQueue queue).ioThrows exception garbage =
      (state.ioThrows exception garbage).map (withQueue · queue) := by
  unfold ioThrows
  simp only [withQueue]
  split
  · simp [Option.map_map]; rfl
  · rfl

end State

end AthabascaRecon.MultiThreaded
