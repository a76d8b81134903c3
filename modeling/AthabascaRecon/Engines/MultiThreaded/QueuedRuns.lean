import AthabascaRecon.Engines.MultiThreaded.Queues

/-!
# The machine simulates the threads with their queues

A step inside a call of `SetMessage` or `GetMessage` is no step of the machine, except that
a call of `SetMessage` begins with the statement that sends the message, and `GetMessage`
returns with the step that takes one. Every other step is the same step of the machine
(`queued_simulates`).

The threads do not deadlock either: the machine can go on, and a thread that is inside a
call of a queue can, or another one that holds its mutex (`queued_never_deadlocks`).
-/

set_option autoImplicit false

namespace AthabascaRecon.MultiThreaded

open Foundation.Concurrency Runs

variable {stages : Stages} {config : Config}

namespace QueuedState

/-- The machine, with what the queues have to deliver. -/
def abstract (state : QueuedState stages) : State stages :=
  state.machine.withQueue fun t => (state.queues t).pending

/-- The steps that the machine takes with a step of the threads. -/
def shows (state : QueuedState stages) : QueuedLabel stages → List (Label stages)
  | .thread .main =>
      match state.calling with
      | some _ => []
      | none => [.main]
  | .thread (.worker t) =>
      match state.machine.worker t, (state.queues t).receiver with
      | .idle, .returning _ => [.worker t]
      | .idle, _ => []
      | _, _ => [.worker t]
  | .thread label => [label]
  | .wake _ => []

end QueuedState

variable {state next : QueuedState stages}

/-- What a step of the threads can do, with the steps of the machine that it shows. -/
inductive QueuedStep (config : Config) (state : QueuedState stages) :
    List (Label stages) → QueuedState stages → Prop where
  | beginCall (t : ℕ) (message : Message) (rest : List MainAction) (queue : WorkerQueue)
      (outside : state.calling = none) (running : state.machine.main = .running)
      (front : state.machine.program = .setMessage t message :: rest)
      (taken : MessageQueue.step (state.queues t) (.setMessage mainSender message) = some queue) :
      QueuedStep config state [.main]
        { state.setQueue t queue with machine := state.machine.proceed, calling := some t }
  | call (t : ℕ) (queue : WorkerQueue) (inside : state.calling = some t)
      (taken : (state.queues t).stepSender mainSender = some queue) :
      QueuedStep config state []
        { state.setQueue t queue with
          calling := match queue.sender mainSender with
            | .outside => none
            | _ => some t }
  | inGetMessage (t : ℕ) (queue : WorkerQueue) (idle : state.machine.worker t = .idle)
      (serves : (state.queues t).Serving → queue.Serving ∧ queue.pending = (state.queues t).pending)
      (sender : queue.sender = (state.queues t).sender) :
      QueuedStep config state [] (state.setQueue t queue)
  | wake (t : ℕ) (queue : WorkerQueue)
      (taken : MessageQueue.step (state.queues t) .wake = some queue) :
      QueuedStep config state [] (state.setQueue t queue)
  | returns (t : ℕ) (message : Message) (queue : WorkerQueue) (thread : t < config.numberOfThreads)
      (idle : state.machine.worker t = .idle)
      (position : (state.queues t).receiver = .returning (some message))
      (taken : (state.queues t).stepReceiver = some queue) :
      QueuedStep config state [.worker t]
        { state.setQueue t queue with
          machine := state.machine.setWorker t (.executing message) }
  | release (barrier : Barrier) (full : state.waiters config barrier = barrier.count config) :
      QueuedStep config state [.release barrier] (state.releaseAll barrier)
  | machine (label : Label stages) (machine : State stages)
      (taken : MultiThreaded.step config state.abstract label =
        some (state.withMachine machine).abstract)
      (main : state.calling ≠ none → state.machine.main = .running → machine.main = .running)
      (workers : ∀ t, state.machine.worker t = .idle → machine.worker t = .idle) :
      QueuedStep config state [label] (state.withMachine machine)

theorem stepReceiver_sender {queue next : WorkerQueue} (taken : queue.stepReceiver = some next) :
    next.sender = queue.sender := by
  obtain ⟨events, moved⟩ : ∃ events, MessageQueue.ReceiverStep queue events next :=
    ⟨_, MessageQueue.receiverStep_of_step taken⟩
  cases moved <;> rfl

/-- A worker thread in `GetMessage`. -/
theorem queuedStep_of_receive {t : ℕ} (thread : t < config.numberOfThreads)
    (idle : state.machine.worker t = .idle) (taken : state.receive t = some next) :
    QueuedStep config state (state.shows (.thread (.worker t))) next := by
  unfold QueuedState.receive at taken
  simp only [QueuedState.shows, idle]
  split at taken
  next outside =>
    obtain ⟨queue, begun, rfl⟩ := Option.map_eq_some_iff.mp taken
    simp only [outside]
    refine .inGetMessage t queue idle (fun serving => serving.beginReceive begun) ?_
    simp only [MessageQueue.step, outside, Option.some.injEq] at begun
    exact begun ▸ rfl
  next => cases taken
  next message position =>
    obtain ⟨queue, returned, rfl⟩ := Option.map_eq_some_iff.mp taken
    simp only [position]
    exact .returns t message queue thread idle position returned
  next notOutside notNull notReturning =>
    obtain ⟨queue, moved, rfl⟩ := Option.map_eq_some_iff.mp taken
    have inside : ∀ result, (state.queues t).receiver ≠ .returning result := by
      intro result position
      cases result with
      | none => exact notNull position
      | some message => exact notReturning message position
    have step : QueuedStep config state [] (state.setQueue t queue) :=
      .inGetMessage t queue idle (fun serving => serving.stepReceiver moved inside)
        (stepReceiver_sender moved)
    cases position : (state.queues t).receiver with
    | returning result => exact absurd position (inside result)
    | _ => exact step

namespace State

variable {machine machine' : State stages}

@[simp] theorem rethrow_worker (state proceeding : State stages) (stored : Option String)
    (same : proceeding.worker = state.worker) :
    (state.rethrow stored proceeding).worker = state.worker := by
  rcases state.rethrow_cases proceeding stored with ⟨-, result⟩ | ⟨exception, -, result⟩
  · rw [result, same]
  · rw [result]
    rfl

/-- The main thread changes no worker thread. -/
theorem stepMain_worker (taken : machine.stepMain = some machine') :
    machine'.worker = machine.worker := by
  rcases stepMain_cases taken with ⟨-, -, rfl⟩ | ⟨action, rest, -, -, moved⟩ | ⟨-, -, rfl⟩ |
    ⟨-, -, rfl⟩ | ⟨-, rfl⟩
  · rfl
  · cases action with
    | barrierWait barrier => cases moved
    | checkException t =>
        obtain rfl := Option.some.inj moved
        exact rethrow_worker machine _ _ rfl
    | waitForCompletion =>
        obtain rfl := Option.some.inj moved
        exact rethrow_worker machine _ _ rfl
    | _ =>
        obtain rfl := Option.some.inj moved
        rfl
  · rfl
  · rfl
  · exact rethrow_worker machine _ _ rfl

end State

theorem queuedStep_of_main (taken : state.stepMain = some next) :
    QueuedStep config state (state.shows (.thread .main)) next := by
  unfold QueuedState.stepMain at taken
  simp only [QueuedState.shows]
  cases calling : state.calling with
  | some t =>
      simp only [calling] at taken
      obtain ⟨queue, moved, rfl⟩ := Option.map_eq_some_iff.mp taken
      exact .call t queue calling moved
  | none =>
      simp only [calling] at taken
      split at taken
      next t message rest running front =>
        obtain ⟨queue, begun, rfl⟩ := Option.map_eq_some_iff.mp taken
        exact .beginCall t message rest queue calling running front begun
      next other =>
        obtain ⟨machine, moved, rfl⟩ := Option.map_eq_some_iff.mp taken
        refine .machine .main machine ?_ (fun inside => absurd calling inside) ?_
        · exact (State.stepMain_withQueue fun t message rest running front =>
            other t message rest running front).trans (by rw [moved]; rfl)
        · intro t idle
          rw [State.stepMain_worker moved]
          exact idle

theorem queuedStep_of_worker {t : ℕ} (thread : t < config.numberOfThreads)
    (taken : state.stepWorker t = some next) :
    QueuedStep config state (state.shows (.thread (.worker t))) next := by
  unfold QueuedState.stepWorker at taken
  by_cases idle : state.machine.worker t = .idle
  · simp only [idle] at taken
    exact queuedStep_of_receive thread idle taken
  · have moved : (state.machine.stepWorker t).map state.withMachine = some next := by
      split at taken
      next here => exact absurd here idle
      next => exact taken
    have shown : state.shows (.thread (.worker t)) = [.worker t] := by
      simp only [QueuedState.shows]
      split
      next here _ => exact absurd here idle
      next here _ => exact absurd here idle
      next => rfl
    obtain ⟨machine, stepped, rfl⟩ := Option.map_eq_some_iff.mp moved
    obtain ⟨same, -⟩ := State.stepWorker_effect stepped
    rw [shown]
    refine .machine (.worker t) machine ?_ (fun _ running => same.main.trans running) ?_
    · rw [MultiThreaded.step, if_pos thread]
      exact (State.stepWorker_withQueue idle).trans (by rw [stepped]; rfl)
    · intro t' idle'
      have different : t' ≠ t := fun same => idle (same ▸ idle')
      rw [same.worker t' different]
      exact idle'

/-- The IO processor wakes up those that sleep, and nobody else. -/
theorem stepIO_keeps {machine machine' : State stages} (taken : machine.stepIO = some machine') :
    (machine.main = .running → machine'.main = .running) ∧
      ∀ t, machine.worker t = .idle → machine'.worker t = .idle := by
  rcases State.stepIO_cases taken with ⟨io, -, rfl⟩ | ⟨request, io, -, -, rfl⟩ | ⟨io, -, rfl⟩
  · exact ⟨id, fun _ => id⟩
  · exact ⟨id, fun _ => id⟩
  · refine ⟨fun running => ?_, fun t idle => ?_⟩
    · simp [State.notify, running]
    · simp [State.notify, idle]

theorem queuedStep_of_step {label : QueuedLabel stages}
    (taken : QueuedState.step config state label = some next) :
    QueuedStep config state (state.shows label) next := by
  cases label with
  | wake t =>
      obtain ⟨queue, woken, rfl⟩ := Option.map_eq_some_iff.mp taken
      exact .wake t queue woken
  | thread label =>
      cases label with
      | main => exact queuedStep_of_main taken
      | worker t =>
          simp only [QueuedState.step] at taken
          split_ifs at taken with thread
          exact queuedStep_of_worker thread taken
      | release barrier =>
          simp only [QueuedState.step] at taken
          split_ifs at taken with full
          obtain rfl := Option.some.inj taken
          exact .release barrier full
      | mainThrows exception =>
          simp only [QueuedState.step] at taken
          split_ifs at taken with outside
          obtain ⟨machine, thrown, rfl⟩ := Option.map_eq_some_iff.mp taken
          refine .machine (.mainThrows exception) machine ?_
            (fun inside => absurd outside inside) ?_
          · exact (State.mainThrows_withQueue exception).trans (by rw [thrown]; rfl)
          · obtain ⟨action, rest, -, -, -, rfl⟩ := State.mainThrows_cases thrown
            exact fun _ => id
      | workerThrows t exception garbage =>
          obtain ⟨machine, thrown, rfl⟩ := Option.map_eq_some_iff.mp taken
          simp only [MultiThreaded.step] at thrown
          split_ifs at thrown with thread
          obtain ⟨same, message, -, executing, -⟩ := State.workerThrows_effect thrown
          refine .machine (.workerThrows t exception garbage) machine ?_
            (fun _ running => same.main.trans running) ?_
          · rw [MultiThreaded.step, if_pos thread]
            exact (State.workerThrows_withQueue t exception garbage).trans (by rw [thrown]; rfl)
          · intro t' idle
            by_cases here : t' = t
            · rw [here, executing] at idle
              cases idle
            · rw [same.worker t' here]
              exact idle
      | io =>
          obtain ⟨machine, moved, rfl⟩ := Option.map_eq_some_iff.mp taken
          obtain ⟨main, workers⟩ := stepIO_keeps moved
          refine .machine .io machine ?_ (fun _ => main) workers
          exact State.stepIO_withQueue.trans (by rw [show state.machine.stepIO = _ from moved]; rfl)
      | ioThrows exception garbage =>
          obtain ⟨machine, thrown, rfl⟩ := Option.map_eq_some_iff.mp taken
          obtain ⟨request, io, -, -, -, same⟩ := State.ioThrows_cases thrown
          refine .machine (.ioThrows exception garbage) machine ?_ ?_ ?_
          · exact (State.ioThrows_withQueue exception garbage).trans
              (by rw [show state.machine.ioThrows exception garbage = _ from thrown]; rfl)
          · rw [same]
            exact fun _ => id
          · rw [same]
            exact fun _ => id
      | ioExit =>
          obtain ⟨machine, exited, rfl⟩ := Option.map_eq_some_iff.mp taken
          obtain ⟨io, done, rfl⟩ := Option.map_eq_some_iff.mp exited
          refine .machine .ioExit _ ?_ (fun _ => id) (fun _ => id)
          simp only [MultiThreaded.step, QueuedState.abstract, State.withQueue] at done ⊢
          rw [done]
          rfl

/-! ## The invariant of the threads -/

/-- The machine keeps its invariant, the queues serve, and the two sides of a queue are where
the threads are. -/
structure QueuedInvariant (config : Config) (state : QueuedState stages) : Prop where
  machine : Invariant config state.abstract
  serving : ∀ t, (state.queues t).Serving
  calling : ∀ t, state.calling = some t ↔ (state.queues t).sender mainSender ≠ .outside
  running : state.calling ≠ none → state.machine.main = .running
  thread : ∀ t, state.calling = some t → t < config.numberOfThreads
  receiving : ∀ t, (state.queues t).receiver ≠ .outside → state.machine.worker t = .idle

namespace QueuedInvariant

theorem inside (invariant : QueuedInvariant config state) (calling : state.calling ≠ none) :
    ¬ state.abstract.Exited :=
  not_exited_of_running (invariant.running calling)

/-- Without the main thread, not enough threads wait at a barrier. -/
theorem workers_lt_count {machine : State stages} {ledger : Ledger}
    (controlled : Controlled config ledger machine) (barrier : Barrier) :
    (List.range config.numberOfThreads).countP (machine.worker · == .waiting barrier) <
      barrier.count config := by
  cases barrier with
  | meAndAllWorkers =>
      have bound : (List.range config.numberOfThreads).countP
          (machine.worker · == .waiting .meAndAllWorkers) ≤ _ := List.countP_le_length
      rw [List.length_range] at bound
      simp only [Barrier.count]
      omega
  | meAndOneWorker =>
      have one := countP_range_le_one config.numberOfThreads
        (machine.worker · == .waiting .meAndOneWorker) fun t t' first second =>
          controlled.waiting_one_unique (by simpa using first) (by simpa using second)
      simp only [Barrier.count]
      omega

/-- While the main thread is in `SetMessage` no barrier opens. -/
theorem outside_of_full (invariant : QueuedInvariant config state) {barrier : Barrier}
    (full : state.waiters config barrier = barrier.count config) : state.calling = none := by
  by_contra calling
  obtain ⟨ledger, controlled⟩ := invariant.machine.control (invariant.inside calling)
  have less : (List.range config.numberOfThreads).countP
      (state.machine.worker · == .waiting barrier) < barrier.count config :=
    workers_lt_count controlled barrier
  have absent : state.calling.isNone = false := by
    cases same : state.calling with
    | none => exact absurd same calling
    | some t => rfl
  simp only [QueuedState.waiters, QueuedState.mainWaits, absent, Bool.false_and,
    Bool.toNat_false] at full
  omega

end QueuedInvariant

theorem pending_update (queues : ℕ → WorkerQueue) (t : ℕ) (queue : WorkerQueue) :
    (fun t' => WorkerQueue.pending (Function.update queues t queue t')) =
      Function.update (fun t' => (queues t').pending) t queue.pending := by
  funext t'
  by_cases here : t' = t
  · subst here
    simp
  · simp [here]

/-- A queue goes on with what it has to deliver. -/
theorem abstract_of_same {t : ℕ} {queue : WorkerQueue}
    (same : queue.pending = (state.queues t).pending) :
    state.abstract = (state.setQueue t queue).abstract := by
  refine congrArg state.machine.withQueue ?_
  rw [QueuedState.setQueue, pending_update, same, Function.update_eq_self_iff.mpr rfl]

/-- A step of the threads is these steps of the machine. -/
theorem QueuedStep.simulates {labels : List (Label stages)}
    (moved : QueuedStep config state labels next) (invariant : QueuedInvariant config state) :
    Runs.run (MultiThreaded.step config) state.abstract labels = some next.abstract := by
  cases moved with
  | machine label machine taken main workers =>
      exact run_cons_iff.mpr ⟨_, taken, rfl⟩
  | inGetMessage t queue idle serves sender =>
      exact congrArg some (abstract_of_same (serves (invariant.serving t)).2)
  | wake t queue taken =>
      exact congrArg some (abstract_of_same ((invariant.serving t).wake taken).2.2)
  | call t queue inside taken =>
      exact congrArg some (abstract_of_same ((invariant.serving t).stepCall taken).2.1)
  | beginCall t message rest queue outside running front taken =>
      obtain ⟨-, pending, -, -⟩ := (invariant.serving t).beginCall taken
      refine run_cons_iff.mpr ⟨(state.abstract.setMessage t message).proceed, ?_, ?_⟩
      · simp [MultiThreaded.step, State.stepMain, QueuedState.abstract, State.withQueue, running,
          front, State.stepStatement]
      · refine congrArg (some <| state.machine.proceed.withQueue ·) ?_
        rw [QueuedState.setQueue, pending_update, pending]
        rfl
  | returns t message queue thread idle position taken =>
      obtain ⟨-, pending, -⟩ := (invariant.serving t).returns position taken
      refine run_cons_iff.mpr ⟨_, ?_, rfl⟩
      have front : state.abstract.queue t = message :: queue.pending := pending
      have waits : state.abstract.worker t = .idle := idle
      simp only [MultiThreaded.step, if_pos thread, State.stepWorker, waits, front]
      refine congrArg (some <| (state.machine.setWorker t (.executing message)).withQueue ·) ?_
      rw [QueuedState.setQueue, pending_update]
      rfl
  | release barrier full =>
      have outside := invariant.outside_of_full full
      have waits : state.mainWaits barrier = state.machine.mainWaits barrier := by
        simp [QueuedState.mainWaits, outside]
      have opened : state.abstract.waiters config barrier = barrier.count config := by
        rw [← full, QueuedState.waiters, waits]
        rfl
      refine run_cons_iff.mpr ⟨_, ?_, rfl⟩
      rw [MultiThreaded.step, if_pos opened]
      refine congrArg some ?_
      rw [QueuedState.releaseAll, waits]
      unfold State.releaseAll
      by_cases present : state.machine.mainWaits barrier = true
      · rw [if_pos (show state.abstract.mainWaits barrier = true from present), if_pos present]
        rfl
      · rw [if_neg (show ¬ state.abstract.mainWaits barrier = true from present), if_neg present]
        rfl

/-! ### What a step preserves -/

theorem forall_update (property : ℕ → WorkerQueue → Prop) {queues : ℕ → WorkerQueue} {t : ℕ}
    {queue : WorkerQueue} (others : ∀ t' ≠ t, property t' (queues t')) (here : property t queue) :
    ∀ t', property t' (Function.update queues t queue t') := by
  intro t'
  by_cases same : t' = t
  · subst same
    simpa using here
  · simpa [same] using others t' same

/-- The receiving side of a queue goes on. -/
theorem QueuedInvariant.setQueue (invariant : QueuedInvariant config state) {t : ℕ}
    {queue : WorkerQueue} (serving : queue.Serving)
    (pending : queue.pending = (state.queues t).pending)
    (sender : queue.sender = (state.queues t).sender) (idle : state.machine.worker t = .idle) :
    QueuedInvariant config (state.setQueue t queue) where
  machine := abstract_of_same pending ▸ invariant.machine
  serving := forall_update (fun _ => WorkerQueue.Serving) (fun t' _ => invariant.serving t') serving
  calling := forall_update
    (fun t' queue => state.calling = some t' ↔ queue.sender 0 ≠ .outside)
    (fun t' _ => invariant.calling t') (by rw [sender]; exact invariant.calling t)
  running := invariant.running
  thread := invariant.thread
  receiving := forall_update
    (fun t' queue => queue.receiver ≠ .outside → state.machine.worker t' = .idle)
    (fun t' _ => invariant.receiving t') (fun _ => idle)

theorem QueuedStep.invariant {labels : List (Label stages)}
    (moved : QueuedStep config state labels next) (invariant : QueuedInvariant config state) :
    QueuedInvariant config next := by
  have machine : Invariant config next.abstract :=
    invariant.machine.run (moved.simulates invariant)
  cases moved with
  | machine label after taken main workers =>
      exact ⟨machine, invariant.serving, invariant.calling,
        fun calling => main calling (invariant.running calling), invariant.thread,
        fun t inside => workers t (invariant.receiving t inside)⟩
  | inGetMessage t queue idle serves sender =>
      obtain ⟨serving, pending⟩ := serves (invariant.serving t)
      exact invariant.setQueue serving pending sender idle
  | wake t queue taken =>
      obtain ⟨asleep, serving, pending⟩ := (invariant.serving t).wake taken
      refine invariant.setQueue serving pending ?_ (invariant.receiving t (by simp [asleep]))
      simp only [MessageQueue.step, asleep, Option.some.injEq] at taken
      exact taken ▸ rfl
  | call t queue inside taken =>
      obtain ⟨serving, -, outside⟩ := (invariant.serving t).stepCall taken
      have elsewhere : ∀ t' ≠ t, (state.queues t').sender 0 = .outside := by
        intro t' other
        by_contra there
        have both := (invariant.calling t').mpr there
        rw [inside] at both
        exact other (Option.some.inj both).symm
      have calling : ∀ t', (match queue.sender 0 with
          | .outside => none
          | _ => some t) = some t' ↔ t' = t ∧ queue.sender 0 ≠ .outside := by
        intro t'
        cases position : queue.sender 0 <;> simp [eq_comm]
      refine ⟨machine, ?_, ?_, fun _ => invariant.running (by simp [inside]), ?_, ?_⟩
      · exact forall_update (fun _ => WorkerQueue.Serving) (fun t' _ => invariant.serving t')
          serving
      · refine forall_update (fun t' queue' => _ = some t' ↔ queue'.sender 0 ≠ .outside)
          (fun t' other => ?_) ?_
        · simp [calling t', other, elsewhere t' other]
        · simp [calling t]
      · intro t' here
        obtain ⟨rfl, -⟩ := (calling t').mp here
        exact invariant.thread t' inside
      · refine forall_update (fun t' queue => queue.receiver ≠ .outside →
          state.machine.worker t' = .idle) (fun t' _ => invariant.receiving t') ?_
        exact fun inGetMessage => invariant.receiving t (mt outside inGetMessage)
  | beginCall t message rest queue outside running front taken =>
      obtain ⟨serving, -, receiver, sender⟩ := (invariant.serving t).beginCall taken
      have elsewhere : ∀ t', (state.queues t').sender 0 = .outside := by
        intro t'
        by_contra there
        have both := (invariant.calling t').mpr there
        rw [outside] at both
        cases both
      obtain ⟨ledger, controlled⟩ :=
        invariant.machine.control (not_exited_of_running running)
      have conforms : ledger.Conforms config (.setMessage t message :: rest) :=
        front ▸ controlled.conforms
      refine ⟨machine, ?_, ?_, fun _ => rfl, ?_, ?_⟩
      · exact forall_update (fun _ => WorkerQueue.Serving) (fun t' _ => invariant.serving t')
          serving
      · refine forall_update (fun t' queue' => some t = some t' ↔ queue'.sender 0 ≠ .outside)
          (fun t' other => ?_) ?_
        · simp [other.symm, elsewhere t']
        · simp [sender]
      · intro t' here
        obtain rfl := Option.some.inj here
        exact conforms.1.thread
      · refine forall_update (fun t' queue => queue.receiver ≠ .outside →
          state.machine.worker t' = .idle) (fun t' _ => invariant.receiving t') ?_
        rw [receiver]
        exact invariant.receiving t
  | returns t message queue thread idle position taken =>
      obtain ⟨serving, -, outside⟩ := (invariant.serving t).returns position taken
      have sender := stepReceiver_sender taken
      refine ⟨machine, ?_, ?_, invariant.running, invariant.thread, ?_⟩
      · exact forall_update (fun _ => WorkerQueue.Serving) (fun t' _ => invariant.serving t')
          serving
      · refine forall_update (fun t' queue' => state.calling = some t' ↔ queue'.sender 0 ≠ .outside)
          (fun t' _ => invariant.calling t') ?_
        rw [sender]
        exact invariant.calling t
      · refine forall_update (fun t' queue => queue.receiver ≠ .outside →
          (state.machine.setWorker t (.executing message)).worker t' = .idle)
          (fun t' other => ?_) ?_
        · simpa [State.setWorker, other] using invariant.receiving t'
        · exact fun inside => absurd outside inside
  | release barrier full =>
      have outside := invariant.outside_of_full full
      refine ⟨machine, invariant.serving, invariant.calling, fun inside => absurd outside inside,
        invariant.thread, fun t inside => ?_⟩
      have idle := invariant.receiving t inside
      by_cases present : state.mainWaits barrier = true <;>
        simp [QueuedState.releaseAll, QueuedState.withMachine, present, State.proceed, idle]

/-! ## Runs -/

theorem queuedInvariant_initial (accepted : config.Accepted)
    (threads : 0 < config.numberOfThreads) (projections : 0 < config.numberOfProjections)
    (contents : Contents stages) :
    QueuedInvariant config (QueuedState.initial config contents) := by
  obtain ⟨conforms, final⟩ := execute_conforms accepted threads projections
  exact ⟨invariant_initial conforms final, fun _ => WorkerQueue.Serving.initial,
    fun t => by simp [QueuedState.initial, MessageQueue.initial],
    fun inside => absurd rfl inside, nofun, fun t inside => absurd rfl inside⟩

theorem QueuedInvariant.preserved (invariant : QueuedInvariant config state)
    {label : QueuedLabel stages} (taken : QueuedState.step config state label = some next) :
    QueuedInvariant config next :=
  (queuedStep_of_step taken).invariant invariant

/-- The stage or the IO operation that a label lets throw. -/
def QueuedLabel.failures : QueuedLabel stages → List (Label stages)
  | .thread label => [label].filter Label.throws
  | .wake _ => []

theorem filter_shows (state : QueuedState stages) (label : QueuedLabel stages) :
    (state.shows label).filter Label.throws = label.failures := by
  cases label with
  | wake t => rfl
  | thread label =>
      cases label with
      | main =>
          cases inside : state.calling <;>
            simp [QueuedState.shows, inside, QueuedLabel.failures, Label.throws]
      | worker t =>
          have quiet : QueuedLabel.failures (.thread (.worker t) : QueuedLabel stages) = [] := rfl
          rw [quiet, List.filter_eq_nil_iff]
          intro shown member
          have same : shown = .worker t := by
            simp only [QueuedState.shows] at member
            split at member <;> simp_all
          rw [same]
          exact Bool.false_ne_true
      | _ => rfl

/-- **The queues implement the inboxes of the machine.** Every run of the threads, statement by
statement inside the queues, is a run of the machine, without the steps inside the queues. It
ends in the same state with the messages that the queues have to deliver, and the same
stages and operations fail, in the same order. -/
theorem queued_simulates (accepted : config.Accepted)
    (threads : 0 < config.numberOfThreads) (projections : 0 < config.numberOfProjections)
    {contents : Contents stages} {schedule : List (QueuedLabel stages)}
    (taken : Runs.run (QueuedState.step config) (.initial config contents) schedule =
      some state) :
    ∃ machineSchedule, run config (.initial config contents) machineSchedule =
        some { state.machine with queue := fun t => (state.queues t).pending } ∧
      machineSchedule.filter Label.throws = schedule.flatMap QueuedLabel.failures := by
  refine ⟨trace (QueuedState.step config) QueuedState.shows (.initial config contents) schedule,
    ?_, filter_trace filter_shows taken⟩
  exact run_trace_of_simulates (fun _ _ _ invariant moved => invariant.preserved moved)
    (fun _ _ _ invariant moved => (queuedStep_of_step moved).simulates invariant)
    (queuedInvariant_initial accepted threads projections contents) taken

/-- The worker thread falls asleep on its empty queue, is woken by the first message that the
main thread sends, and takes it. -/
def untilFirstMessage : List (QueuedLabel numberStages) :=
  List.replicate 5 (.thread (.worker 0)) ++ List.replicate 6 (.thread .main) ++
    List.replicate 5 (.thread (.worker 0))

theorem exists_untilFirstMessage :
    ∃ state, Runs.run (QueuedState.step smallConfig) (.initial smallConfig numberContents)
        untilFirstMessage = some state ∧
      (state.machine.worker 0, state.machine.main) =
        (.executing .createThreadWorker, .running) := by
  have taken : (Runs.run (QueuedState.step smallConfig) (.initial smallConfig numberContents)
      untilFirstMessage).map (fun state => (state.machine.worker 0, state.machine.main)) =
        some (.executing .createThreadWorker, .running) := by decide +kernel
  exact Option.map_eq_some_iff.mp taken

theorem untilFirstMessage_simulates :
    ∃ state, Runs.run (QueuedState.step smallConfig) (.initial smallConfig numberContents)
        untilFirstMessage = some state ∧
      state.machine.worker 0 = .executing .createThreadWorker ∧
      ∃ machineSchedule, run smallConfig (.initial smallConfig numberContents) machineSchedule =
          some { state.machine with queue := fun t => (state.queues t).pending } ∧
        machineSchedule.filter Label.throws = [] := by
  obtain ⟨state, taken, position⟩ := exists_untilFirstMessage
  obtain ⟨machineSchedule, simulated, failures⟩ :=
    queued_simulates smallConfig_accepted (by decide) (by decide) taken
  exact ⟨state, taken, congrArg Prod.fst position, machineSchedule, simulated, failures⟩

/-! ## Progress -/

/-- A statement of one of the two sides of a queue. -/
theorem exists_statement {queue : WorkerQueue} (serving : queue.Serving)
    (unsettled : ¬ MessageQueue.Settled queue) :
    (queue.stepSender 0).isSome ∨ queue.stepReceiver.isSome := by
  by_contra stuck
  obtain ⟨sender, receiver⟩ := not_or.mp stuck
  refine unsettled (serving.invariant.settled fun label statement => ?_)
  cases label with
  | sender i =>
      obtain rfl : i = 0 := Subsingleton.elim i 0
      exact Option.not_isSome_iff_eq_none.mp sender
  | receiver => exact Option.not_isSome_iff_eq_none.mp receiver
  | _ => exact statement.elim

/-- A worker thread in `GetMessage` that can go on with a statement of the queue. -/
theorem receive_isSome {t : ℕ} (serving : (state.queues t).Serving)
    (goes : (state.queues t).stepReceiver.isSome) : (state.receive t).isSome := by
  unfold QueuedState.receive
  cases position : (state.queues t).receiver with
  | outside => simp [MessageQueue.step, position]
  | returning result =>
      cases result with
      | none =>
          have receives := serving.receives
          simp [position] at receives
      | some message => simpa using goes
  | _ => simpa using goes

theorem QueuedInvariant.call_isSome (invariant : QueuedInvariant config state) {t : ℕ}
    (calling : state.calling = some t) :
    ∃ label, (QueuedState.step config state (.thread label)).isSome := by
  have inside := (invariant.calling t).mp calling
  rcases exists_statement (invariant.serving t) fun settled => inside (settled.senders 0) with
    goes | goes
  · refine ⟨.main, ?_⟩
    simpa [QueuedState.step, QueuedState.stepMain, calling, QueuedState.stepCall] using goes
  · have receiving : (state.queues t).receiver ≠ .outside := by
      intro outside
      simp [MessageQueue.State.stepReceiver, outside] at goes
    have idle := invariant.receiving t receiving
    refine ⟨.worker t, ?_⟩
    rw [QueuedState.step, if_pos (invariant.thread t calling), QueuedState.stepWorker, idle]
    exact receive_isSome (invariant.serving t) goes

theorem QueuedInvariant.receive_isSome (invariant : QueuedInvariant config state) {t : ℕ}
    (outside : (state.queues t).sender 0 = .outside) (some : (state.queues t).pending ≠ []) :
    (state.receive t).isSome := by
  by_cases begins : (state.queues t).receiver = .outside
  · simp [QueuedState.receive, begins, MessageQueue.step]
  · have unsettled : ¬ MessageQueue.Settled (state.queues t) := by
      intro settled
      rcases settled.receiver with here | ⟨position, empty⟩
      · exact begins here
      · refine some ?_
        rcases position with position | position <;>
          simp [WorkerQueue.pending, inHand, position, empty, outside]
    rcases exists_statement (invariant.serving t) unsettled with goes | goes
    · simp [MessageQueue.State.stepSender, outside] at goes
    · exact MultiThreaded.receive_isSome (invariant.serving t) goes

/-- Outside `SetMessage` the main thread can go on with its next statement. -/
theorem QueuedInvariant.main_isSome (outside : ∀ t, (state.queues t).sender 0 = .outside)
    (calling : state.calling = none) (enabled : state.abstract.stepMain.isSome) :
    state.stepMain.isSome := by
  unfold QueuedState.stepMain
  simp only [calling]
  split
  next t message rest running front =>
    simp [QueuedState.beginCall, MessageQueue.step, outside t]
  next other =>
    have moved : state.abstract.stepMain = state.machine.stepMain.map _ :=
      State.stepMain_withQueue fun t message rest running front =>
        other t message rest running front
    rw [moved, Option.isSome_map] at enabled
    simpa using enabled

/-- What the machine can do, the threads can, when the main thread is in no call. -/
theorem QueuedInvariant.label_isSome (invariant : QueuedInvariant config state)
    (calling : state.calling = none) {label : Label stages}
    (enabled : (MultiThreaded.step config state.abstract label).isSome) :
    (QueuedState.step config state (.thread label)).isSome := by
  have outside : ∀ t, (state.queues t).sender 0 = .outside := by
    intro t
    by_contra there
    have both := (invariant.calling t).mpr there
    rw [calling] at both
    cases both
  cases label with
  | main => exact QueuedInvariant.main_isSome outside calling enabled
  | mainThrows exception =>
      rw [QueuedState.step, if_pos calling, Option.isSome_map]
      have thrown : state.abstract.mainThrows exception = _ := State.mainThrows_withQueue exception
      simpa [MultiThreaded.step, thrown] using enabled
  | worker t =>
      simp only [MultiThreaded.step] at enabled
      split_ifs at enabled with thread
      · rw [QueuedState.step, if_pos thread]
        unfold QueuedState.stepWorker
        by_cases idle : state.machine.worker t = .idle
        · have waits : state.abstract.worker t = .idle := idle
          have some : (state.queues t).pending ≠ [] := by
            intro nothing
            have empty : state.abstract.queue t = [] := nothing
            simp [State.stepWorker, waits, empty] at enabled
          simp only [idle]
          exact invariant.receive_isSome (outside t) some
        · have moved : state.abstract.stepWorker t = (state.machine.stepWorker t).map _ :=
            State.stepWorker_withQueue idle
          rw [moved, Option.isSome_map] at enabled
          split
          next here => exact absurd here idle
          next => simpa using enabled
      · simp at enabled
  | workerThrows t exception garbage =>
      change ((MultiThreaded.step config state.machine
        (.workerThrows t exception garbage)).map _).isSome
      rw [Option.isSome_map]
      simp only [MultiThreaded.step] at enabled ⊢
      split_ifs at enabled ⊢ with thread
      · have thrown : state.abstract.workerThrows t exception garbage = _ :=
          State.workerThrows_withQueue t exception garbage
        simpa [thrown] using enabled
      · exact enabled
  | io =>
      change ((MultiThreaded.step config state.machine .io).map _).isSome
      rw [Option.isSome_map]
      have moved : state.abstract.stepIO = _ := State.stepIO_withQueue
      simpa [MultiThreaded.step, moved] using enabled
  | ioThrows exception garbage =>
      change ((MultiThreaded.step config state.machine (.ioThrows exception garbage)).map _).isSome
      rw [Option.isSome_map]
      have thrown : state.abstract.ioThrows exception garbage = _ :=
        State.ioThrows_withQueue exception garbage
      simpa [MultiThreaded.step, thrown] using enabled
  | ioExit =>
      change ((MultiThreaded.step config state.machine .ioExit).map _).isSome
      rw [Option.isSome_map]
      simpa [MultiThreaded.step, QueuedState.abstract, State.withQueue] using enabled
  | release barrier =>
      have waits : state.waiters config barrier = state.abstract.waiters config barrier := by
        simp [QueuedState.waiters, QueuedState.mainWaits, calling, State.waiters,
          QueuedState.abstract, State.withQueue, State.mainWaits]
      rw [QueuedState.step, waits]
      simp only [MultiThreaded.step] at enabled
      split_ifs at enabled ⊢ <;> simp_all

/-- **The threads do not deadlock in their queues**: until the main thread leaves, some thread
can go on, and no waiting thread has to wake up for no reason. -/
theorem queued_never_deadlocks (accepted : config.Accepted)
    (threads : 0 < config.numberOfThreads) (projections : 0 < config.numberOfProjections)
    {contents : Contents stages} {schedule : List (QueuedLabel stages)}
    (taken : Runs.run (QueuedState.step config) (.initial config contents) schedule =
      some state)
    (inside : ¬ state.machine.Exited) :
    ∃ label, (QueuedState.step config state (.thread label)).isSome := by
  have invariant : QueuedInvariant config state :=
    invariant_run (fun _ _ _ invariant moved => invariant.preserved moved)
      (queuedInvariant_initial accepted threads projections contents) taken
  obtain ⟨label, enabled⟩ := invariant.machine.enabled inside
  cases calling : state.calling with
  | some t => exact invariant.call_isSome calling
  | none => exact ⟨label, invariant.label_isSome calling enabled⟩

theorem untilFirstMessage_never_deadlocks :
    ∃ state, Runs.run (QueuedState.step smallConfig) (.initial smallConfig numberContents)
        untilFirstMessage = some state ∧
      ∃ label, (QueuedState.step smallConfig state (.thread label)).isSome := by
  obtain ⟨state, taken, position⟩ := exists_untilFirstMessage
  exact ⟨state, taken, queued_never_deadlocks smallConfig_accepted (by decide) (by decide) taken
    (not_exited_of_running (congrArg Prod.snd position))⟩

end AthabascaRecon.MultiThreaded
