import AthabascaRecon.Engines.MultiThreaded.Accounting
import AthabascaRecon.Engines.MultiThreaded.Checks
import AthabascaRecon.Foundation.PendingTasks

/-!
# Replaying a run in the order of issue

The main thread issues messages and IO requests, and the other threads execute
them later and in another order. Executed in the order of issue, the statements of
the program lead to one final memory. In every state of a run without failures,
the memory together with the tasks that are issued and not executed, and the
statements that are not executed, still leads there (`Pending`): each thread
executes its tasks in the order of issue, and tasks that overtake each other are
independent because the ledger allowed them.
-/

set_option autoImplicit false

namespace AthabascaRecon.MultiThreaded

open Foundation.Concurrency

variable {stages : Stages}

/-! ## Statements as tasks -/

section Tasks

/-- What a statement does to the shared memory, when messages and requests are
executed at once. -/
def MainAction.command (stages : Stages) : MainAction → Command (Val stages)
  | .setMessage t message => performMessage stages t message
  | .requestIOOperation request => performRequest stages request
  | .setReferenceProjection slot => performSetReferenceProjection stages slot
  | .writeCorrection index => performWriteCorrection stages index
  | _ => Command.skip

/-- The worker thread a message is for, or none for the IO processor. -/
def MainAction.performer : MainAction → Option ℕ
  | .setMessage t _ => some t
  | _ => none

@[simp] theorem MainAction.performer_setMessage (t : ℕ) (message : Message) :
    (MainAction.setMessage t message).performer = some t := rfl

@[simp] theorem MainAction.performer_requestIOOperation (request : IORequest) :
    (MainAction.requestIOOperation request).performer = none := rfl

/-- A message that waits for an image keeps later messages of its thread behind the
request for the image. -/
def MainAction.Guards : MainAction → MainAction → Prop
  | .setMessage _ (.waitForBufferRelease data), .requestIOOperation request =>
      request.image = data
  | _, _ => False

/-- What a statement does to what was applied to the subvolume of a thread. -/
theorem appliedBy_run_cases (action : MainAction) (heap : Heap (Val stages)) (t : ℕ) :
    (∃ projection index, action = .setMessage t (.applyProjection projection index) ∧
        appliedBy heap t <+: appliedBy ((action.command stages).run heap) t) ∨
      (∃ message, action = .setMessage t message ∧ message.creates = true ∧
        appliedBy ((action.command stages).run heap) t = []) ∨
      appliedBy ((action.command stages).run heap) t = appliedBy heap t := by
  have kept : Location.threadWorker t ∉ (action.command stages).writes →
      appliedBy ((action.command stages).run heap) t = appliedBy heap t := by
    intro unwritten
    rw [appliedBy, appliedBy, threadWorker, threadWorker, Command.frame _ _ _ unwritten]
  by_cases own : ∃ message, action = .setMessage t message
  · obtain ⟨message, rfl⟩ := own
    have after := threadWorker_performMessage t heap message
    simp only [MainAction.command, appliedBy]
    rw [after]
    cases message with
    | createThreadWorker => exact Or.inr (Or.inl ⟨_, rfl, rfl, rfl⟩)
    | createBackProjector =>
        refine Or.inr (Or.inl ⟨_, rfl, rfl, ?_⟩)
        cases threadWorker heap t <;> rfl
    | createProjectionFilterer =>
        refine Or.inr (Or.inr ?_)
        cases threadWorker heap t <;> rfl
    | allocateVolume slices =>
        refine Or.inr (Or.inr ?_)
        rcases threadWorker heap t with _ | ⟨filterer, _ | ⟨volume⟩⟩
        · rfl
        · rfl
        · by_cases none : slices = 0 <;>
            simp [ThreadWorker.allocateVolume, ThreadWorker.applied, BackProjector.allocateVolume,
              BackProjector.applied, none]
    | applyProjection projection index =>
        refine Or.inl ⟨projection, index, rfl, ?_⟩
        rcases threadWorker heap t with _ | ⟨filterer, _ | ⟨_ | volume⟩⟩ <;>
          simp [ThreadWorker.applyProjection, ThreadWorker.applied,
            BackProjector.applyProjection, BackProjector.applied]
    | _ => exact Or.inr (Or.inr rfl)
  · refine Or.inr (Or.inr (kept ?_))
    intro written
    cases action with
    | setMessage t' message =>
        rcases mem_writes_performMessage stages written with ⟨buffer, -, never⟩ | same |
          ⟨index, projection, -, never⟩ | ⟨-, never⟩
        · cases never
        · obtain rfl : t = t' := by simpa using same
          exact own ⟨message, rfl⟩
        · cases never
        · cases never
    | requestIOOperation request =>
        rcases mem_writes_performRequest stages written with ⟨-, never⟩ | never | never | never <;>
          cases never
    | setReferenceProjection slot =>
        simp [MainAction.command, performSetReferenceProjection, assign, Command.assign] at written
    | writeCorrection index =>
        simp [MainAction.command, performWriteCorrection, assign, Command.assign] at written
    | _ => exact absurd written List.not_mem_nil

theorem appliedBy_run_of_not_message {action : MainAction}
    (other : ∀ t message, action ≠ .setMessage t message) (heap : Heap (Val stages)) (t : ℕ) :
    appliedBy ((action.command stages).run heap) t = appliedBy heap t := by
  rcases appliedBy_run_cases action heap t with ⟨projection, index, same, -⟩ |
    ⟨message, same, -⟩ | kept
  · exact absurd same (other _ _)
  · exact absurd same (other _ _)
  · exact kept

/-- A request does not interfere with the reference unless it reads into the image that the
reference is taken from. -/
theorem independent_request_setReferenceProjection {request : IORequest} {slot : ImageSlot}
    (different : request.isRead = true → request.image ≠ .attenuation slot) :
    (performRequest stages request).Independent (performSetReferenceProjection stages slot) := by
  constructor
  · intro location written touched
    have target : location = .image (.attenuation slot) ∨ location = .beamPowerCorrector := by
      simpa [performSetReferenceProjection, assign, Command.assign, Command.Touches] using touched
    rcases mem_writes_performRequest stages written with ⟨isRead, rfl⟩ | rfl | rfl | rfl
    · rcases target with same | never
      · exact different isRead (by simpa using same)
      · cases never
    · rcases target with never | never <;> cases never
    · rcases target with never | never <;> cases never
    · rcases target with never | never <;> cases never
  · intro location written touched
    obtain rfl : location = .beamPowerCorrector := by
      simpa [performSetReferenceProjection, assign, Command.assign] using written
    rcases touches_performRequest stages touched with never | never | never | never <;>
      cases never

theorem independent_request_writeCorrection {request : IORequest} {index : ℕ} :
    (performRequest stages request).Independent (performWriteCorrection stages index) := by
  constructor
  · intro location written touched
    have target : location = .correction index ∨ location = .attenuationCorrectionsFile := by
      simpa [performWriteCorrection, assign, Command.assign, Command.Touches] using touched
    rcases mem_writes_performRequest stages written with ⟨-, rfl⟩ | rfl | rfl | rfl <;>
      rcases target with never | never <;> cases never
  · intro location written touched
    obtain rfl : location = .attenuationCorrectionsFile := by
      simpa [performWriteCorrection, assign, Command.assign] using written
    rcases touches_performRequest stages touched with never | never | never | never <;>
      cases never

end Tasks

/-- The statements that remain lead to the memory that the whole program leads to. No
object with projections applied is created again. -/
structure Settles (config : Config) (contents : Contents stages) (heap : Heap (Val stages))
    (remaining : List MainAction) : Prop where
  order : remaining.Sublist (execute config)
  created : ∀ t, appliedBy heap t ≠ [] → ∀ message, .setMessage t message ∈ remaining →
    message.creates = false
  result : flush (MainAction.command stages) remaining heap =
    flush (MainAction.command stages) (execute config) contents.heap

/-- The tasks that are issued and not executed, in the order of issue. -/
structure Pending (config : Config) (contents : Contents stages) (state : State stages)
    (pending : List MainAction) : Prop where
  tasks : ∀ action ∈ pending, (∃ t message, action = .setMessage t message) ∨
    ∃ request, action = .requestIOOperation request
  messages : ∀ t, tasksOf MainAction.performer (some t) pending =
    (state.pendingMessages t).map (.setMessage t)
  requests : state.io.worker ≠ .exited → tasksOf MainAction.performer none pending =
    state.io.unexecuted.map .requestIOOperation
  free : RaceFree MainAction.performer (MainAction.command stages) MainAction.Guards pending
  settles : Settles config contents state.heap (pending ++ state.program)
  returned : state.main = .returned → state.program = []

section Steps

variable {config : Config} {contents : Contents stages} {ledger : Ledger}
  {state state' : State stages} {pending : List MainAction}

theorem Pending.mem_message (held : Pending config contents state pending) {t : ℕ}
    {message : Message} :
    .setMessage t message ∈ pending ↔ message ∈ state.pendingMessages t := by
  have own : MainAction.setMessage t message ∈ tasksOf MainAction.performer (some t) pending ↔
      MainAction.setMessage t message ∈ pending := by
    rw [mem_tasksOf]
    exact and_iff_left rfl
  rw [← own, held.messages t]
  simp

theorem Pending.mem_request (held : Pending config contents state pending)
    (alive : state.io.worker ≠ .exited) {request : IORequest} :
    .requestIOOperation request ∈ pending ↔ request ∈ state.io.unexecuted := by
  have own : MainAction.requestIOOperation request ∈ tasksOf MainAction.performer none pending ↔
      MainAction.requestIOOperation request ∈ pending := by
    rw [mem_tasksOf]
    exact and_iff_left rfl
  rw [← own, held.requests alive]
  simp

/-! ### The main thread -/

/-- A statement that the main thread executes itself, independent of everything
pending. -/
theorem Pending.proceed (held : Pending config contents state pending) {action : MainAction}
    {rest : List MainAction} (front : state.program = action :: rest)
    (independent : ∀ task ∈ pending,
      (task.command stages).Independent (action.command stages))
    (applied : ∀ t, appliedBy state'.heap t = appliedBy state.heap t)
    (messages : ∀ t, state'.pendingMessages t = state.pendingMessages t)
    (io : state'.io = state.io) (program : state'.program = rest)
    (heap : state'.heap = (action.command stages).run state.heap)
    (main : state'.main ≠ .returned) : Pending config contents state' pending := by
  obtain ⟨order, created, result⟩ := held.settles
  rw [front] at order created result
  refine ⟨held.tasks, ?_, ?_, held.free, ⟨?_, ?_, ?_⟩, fun returned => absurd returned main⟩
  · intro t
    rw [messages t]
    exact held.messages t
  · rw [io]
    exact held.requests
  · rw [program]
    exact ((List.sublist_cons_self action rest).append_left pending).trans order
  · intro t nonempty message member
    rw [applied t] at nonempty
    refine created t nonempty message ?_
    rw [program] at member
    rcases List.mem_append.mp member with earlier | later
    · exact List.mem_append_left _ earlier
    · exact List.mem_append_right _ (List.mem_cons_of_mem _ later)
  · rw [program, heap, flush_append, ← run_flush _ independent, ← flush_cons, ← flush_append]
    exact result

/-- A message that the ledger allows does not interfere with anything pending, or comes
behind a wait for the image that a request is for. -/
theorem Pending.safe_setMessage (held : Pending config contents state pending)
    (controlled : Controlled config ledger state) (accounted : Accounted ledger state)
    (alive : state.io.worker ≠ .exited) {t : ℕ} {message : Message}
    (allowed : ledger.AllowsMessage config t message) :
    ∀ earlier ∈ pending, earlier.performer ≠ some t →
      (earlier.command stages).Independent (performMessage stages t message) ∨
        ∃ guard ∈ pending, guard.performer = some t ∧ guard.Guards earlier := by
  intro earlier member different
  rcases held.tasks earlier member with ⟨t', other, rfl⟩ | ⟨request, rfl⟩
  · have other_sent : other ∈ ledger.issued t' :=
      (controlled.pending t').subset (held.mem_message.mp member)
    have foreign : t' ≠ t := fun same => different (congrArg some same)
    exact Or.inl (independent_of_compatible stages foreign
      (allowed.compatible t' foreign other other_sent))
  · have unexecuted := (held.mem_request alive).mp member
    have unregistered := AsynchronousIOProcessor.mem_unregistered_of_mem_unexecuted unexecuted
    by_cases looked : request.image ∈ message.images
    · obtain ⟨notReading, lane⟩ := allowed.reads request.image looked
      rcases accounted.inFlight request.image (Or.inl ⟨request, unregistered, rfl⟩) with
        reading | writing | ⟨awaited, waits⟩
      · exact absurd reading notReading
      · -- an image that is written out may be looked at
        have unchanged : request.image ∉ message.changedImages := by
          intro changed
          rcases allowed.changes request.image changed with free | awaited
          · rw [free] at writing
            cases writing
          · rw [awaited] at writing
            cases writing
        refine Or.inl (independent_message_request stages unchanged fun isRead => ?_).symm
        rcases accounted.use request unregistered with use | awaited
        · rw [writing] at use
          simp [IORequest.use, isRead] at use
        · rw [writing] at awaited
          cases awaited
      · refine Or.inr ⟨.setMessage t (.waitForBufferRelease request.image), ?_, rfl, rfl⟩
        rw [held.mem_message, ← lane awaited]
        exact waits
    · refine Or.inl (independent_message_request stages ?_ fun _ => looked).symm
      exact fun changed => looked (changedImages_subset_images message changed)

/-- A request is issued while the messages pending look at no image. -/
theorem Pending.safe_request (held : Pending config contents state pending)
    (controlled : Controlled config ledger state) {request : IORequest}
    (unlooked : ∀ t, ∀ message ∈ ledger.issued t, message.images = []) :
    ∀ earlier ∈ pending, earlier.performer ≠ none →
      (earlier.command stages).Independent (performRequest stages request) := by
  intro earlier member different
  rcases held.tasks earlier member with ⟨t, message, rfl⟩ | ⟨other, rfl⟩
  · have sent : message ∈ ledger.issued t :=
      (controlled.pending t).subset (held.mem_message.mp member)
    have nothing := unlooked t message sent
    have unchanged : message.changedImages = [] :=
      List.subset_nil.mp (nothing ▸ changedImages_subset_images message)
    exact independent_message_request stages (by simp [unchanged]) (by simp [nothing])
  · exact absurd rfl different

/-- The main thread issues a task. -/
theorem Pending.issue (held : Pending config contents state pending) {action : MainAction}
    {rest : List MainAction} (front : state.program = action :: rest)
    (task : (∃ t message, action = .setMessage t message) ∨
      ∃ request, action = .requestIOOperation request)
    (safe : ∀ earlier ∈ pending, earlier.performer ≠ action.performer →
      (earlier.command stages).Independent (action.command stages) ∨
        ∃ guard ∈ pending, guard.performer = action.performer ∧ guard.Guards earlier)
    (messages : ∀ t, (state'.pendingMessages t).map (.setMessage t) =
      (state.pendingMessages t).map (.setMessage t) ++
        tasksOf MainAction.performer (some t) [action])
    (alive : state.io.worker ≠ .exited)
    (requests : state'.io.unexecuted.map .requestIOOperation =
      state.io.unexecuted.map .requestIOOperation ++ tasksOf MainAction.performer none [action])
    (program : state'.program = rest) (heap : state'.heap = state.heap)
    (main : state'.main ≠ .returned) :
    Pending config contents state' (pending ++ [action]) := by
  have same : pending ++ [action] ++ state'.program = pending ++ state.program := by
    rw [program, front, List.append_assoc, List.singleton_append]
  refine ⟨?_, ?_, ?_, held.free.append safe, ?_, fun returned => absurd returned main⟩
  · intro other member
    rcases List.mem_append.mp member with earlier | new
    · exact held.tasks other earlier
    · exact List.mem_singleton.mp new ▸ task
  · intro t
    rw [tasksOf_append, held.messages t, messages t]
  · intro _
    rw [tasksOf_append, held.requests alive, requests]
  · rw [same, heap]
    exact held.settles

/-! ### The other threads -/

/-- Nothing is executed. -/
theorem Pending.of_same (held : Pending config contents state pending)
    (messages : ∀ t, state'.pendingMessages t = state.pendingMessages t)
    (requests : state'.io.worker ≠ .exited →
      state.io.worker ≠ .exited ∧ state'.io.unexecuted = state.io.unexecuted)
    (program : state'.program = state.program) (heap : state'.heap = state.heap)
    (main : state'.main = .returned → state.main = .returned ∨ state.program = []) :
    Pending config contents state' pending := by
  refine ⟨held.tasks, ?_, ?_, held.free, ?_, ?_⟩
  · intro t
    rw [messages t]
    exact held.messages t
  · intro alive
    obtain ⟨alive', same⟩ := requests alive
    rw [same]
    exact held.requests alive'
  · rw [program, heap]
    exact held.settles
  · intro returned
    rw [program]
    exact (main returned).elim held.returned id

/-- A thread executes its next task. Those issued earlier are independent of it. -/
theorem Pending.takeNext (held : Pending config contents state pending) {task : MainAction}
    {rest : List MainAction}
    (next : tasksOf MainAction.performer task.performer pending = task :: rest)
    (unguarded : ∀ other ∈ pending, ¬ task.Guards other)
    (messages : ∀ t, (state'.pendingMessages t).map (.setMessage t) =
      if some t = task.performer then rest else (state.pendingMessages t).map (.setMessage t))
    (requests : state'.io.worker ≠ .exited → state.io.worker ≠ .exited ∧
      state'.io.unexecuted.map .requestIOOperation =
        if none = task.performer then rest else state.io.unexecuted.map .requestIOOperation)
    (program : state'.program = state.program) (main : state'.main = state.main)
    (heap : state'.heap = (task.command stages).run state.heap) :
    ∃ pending', Pending config contents state' pending' := by
  obtain ⟨before, after, rfl, foreign, -, own, others⟩ :=
    exists_split_of_tasksOf_eq_cons MainAction.performer next
  obtain ⟨order, created, result⟩ := held.settles
  have remains : ∀ action ∈ before ++ after, action ∈ before ++ task :: after := by
    intro action member
    rcases List.mem_append.mp member with early | late
    · exact List.mem_append_left _ early
    · exact List.mem_append_right _ (List.mem_cons_of_mem _ late)
  refine ⟨before ++ after, fun action member => held.tasks action (remains action member),
    ?_, ?_, held.free.takeNext fun other member => unguarded other (remains other member),
    ⟨?_, ?_, ?_⟩, ?_⟩
  · intro t
    rw [messages t]
    split_ifs with same
    · rw [same]
      exact own
    · rw [others _ same, held.messages t]
  · intro alive
    obtain ⟨alive', same⟩ := requests alive
    rw [same]
    split_ifs with byProcessor
    · rw [byProcessor]
      exact own
    · rw [others _ byProcessor, held.requests alive']
  · rw [program]
    refine List.Sublist.trans ?_ order
    exact (((List.sublist_cons_self task after).append_left before).append_right _)
  · intro t nonempty message member
    rw [program] at member
    have member' : .setMessage t message ∈ before ++ task :: after ++ state.program := by
      rcases List.mem_append.mp member with early | late
      · exact List.mem_append_left _ (remains _ early)
      · exact List.mem_append_right _ late
    by_cases earlier : appliedBy state.heap t = []
    · -- the task is the first projection applied, and objects are created before that
      rw [heap] at nonempty
      rcases appliedBy_run_cases task state.heap t with ⟨projection, index, rfl, -⟩ |
        ⟨other, -, -, nothing⟩ | same
      · have ordered := execute_keepsObjects.sublist order
        rw [List.append_assoc, List.cons_append] at ordered
        have behind := (List.pairwise_cons.mp (List.pairwise_append.mp ordered).2.1).1
        rw [List.append_assoc] at member
        rcases List.mem_append.mp member with early | late
        · exact absurd rfl (foreign (.setMessage t message) early)
        · exact behind _ late t projection index message rfl rfl
      · exact absurd nothing nonempty
      · exact absurd (same.trans earlier) nonempty
    · exact created t earlier message member'
  · have moved := held.free.flush_takeNext foreign state.heap
    rw [program, heap, flush_append, ← moved, ← flush_append]
    exact result
  · rw [main, program]
    exact held.returned

/-- A worker thread goes on inside its message, or ends it. -/
theorem Pending.worker (held : Pending config contents state pending)
    (accounted : Accounted ledger state) (running : state.io.stopped = false)
    (alive : state.io.worker ≠ .exited) {t : ℕ}
    (same : State.SameElsewhere t state state') (effect : State.WorkerEffect t state state') :
    ∃ pending', Pending config contents state' pending' := by
  have ends : ∀ message, state.pendingMessages t = message :: state'.pendingMessages t →
      state'.io.worker = state.io.worker → state'.io.unexecuted = state.io.unexecuted →
      (∀ other ∈ pending, ¬ (MainAction.setMessage t message).Guards other) →
      state'.heap = (performMessage stages t message).run state.heap →
      ∃ pending', Pending config contents state' pending' := by
    intro message ended worker unexecuted unguarded heap
    have next : tasksOf MainAction.performer (MainAction.setMessage t message).performer pending =
        .setMessage t message :: (state'.pendingMessages t).map (.setMessage t) := by
      rw [MainAction.performer_setMessage, held.messages t, ended, List.map_cons]
    refine held.takeNext next unguarded ?_ ?_ same.program same.main heap
    · intro t'
      by_cases own : t' = t
      · subst own
        rw [MainAction.performer_setMessage, if_pos rfl]
      · rw [same.pendingMessages own, MainAction.performer_setMessage, if_neg (by simpa using own)]
    · intro _
      exact ⟨alive, by rw [unexecuted, MainAction.performer_setMessage, if_neg (by simp)]⟩
  cases effect with
  | inside unchanged exception io heap =>
      refine ⟨pending, held.of_same ?_ ?_ same.program heap fun returned =>
        Or.inl (same.main ▸ returned)⟩
      · intro t'
        by_cases own : t' = t
        · subst own
          exact unchanged
        · exact same.pendingMessages own
      · intro _
        exact ⟨alive, by rw [io]⟩
  | finished message ordinary ended idle exception io isReady heap =>
      refine ends message ended (by rw [io]) (by rw [io]) ?_ heap
      intro other _ guards
      cases message with
      | waitForBufferRelease data => cases ordinary
      | _ => exact guards
  | released data ended idle exception completed io heap =>
      refine ends _ ended (by rw [io]; rfl) (by rw [io]; rfl) ?_ heap
      -- the registration is that of the only request for the image
      intro other member guards
      rcases held.tasks other member with ⟨t', message, rfl⟩ | ⟨request, rfl⟩
      · exact guards
      · have unexecuted := (held.mem_request alive).mp member
        have unregistered :=
          AsynchronousIOProcessor.mem_unregistered_of_mem_unexecuted unexecuted
        obtain rfl : request.image = data := guards
        exact accounted.fresh request unregistered completed
  | failedWait data ended idle parked cause io heap =>
      rw [accounted.clean, running] at cause
      simp at cause

/-- The IO processor takes, executes or registers a request. -/
theorem Pending.stepIO (held : Pending config contents state pending)
    (clean : state.io.exception = none) (taken : state.stepIO = some state') :
    ∃ pending', Pending config contents state' pending' := by
  rcases State.stepIO_cases taken with ⟨io, fetched, rfl⟩ | ⟨request, io, holding, executed, rfl⟩ |
    ⟨io, registered, rfl⟩
  · obtain ⟨request, rest, idle, -, front, rfl⟩ :=
      AsynchronousIOProcessor.getRequest_cases fetched
    refine ⟨pending, held.of_same (fun _ => rfl) (fun _ => ?_) rfl rfl Or.inl⟩
    exact ⟨by simp [idle], by simp [AsynchronousIOProcessor.unexecuted, idle, front]⟩
  · obtain ⟨request', fetched, rfl⟩ := AsynchronousIOProcessor.executeOperation_cases executed
    have alive : state.io.worker ≠ .exited := by simp [holding]
    have unexecuted : state.io.unexecuted = request :: state.io.queue := by
      simp [AsynchronousIOProcessor.unexecuted, holding]
    have next : tasksOf MainAction.performer (MainAction.requestIOOperation request).performer
        pending = .requestIOOperation request :: state.io.queue.map .requestIOOperation := by
      rw [MainAction.performer_requestIOOperation, held.requests alive, unexecuted, List.map_cons]
    refine held.takeNext next (fun _ _ => id) ?_ ?_ rfl rfl ?_
    · intro t
      rw [MainAction.performer_requestIOOperation, if_neg (by simp)]
      rfl
    · intro _
      rw [MainAction.performer_requestIOOperation, if_pos rfl]
      exact ⟨alive, rfl⟩
    · simp [State.performOperation, clean, MainAction.command]
  · obtain ⟨request, performed, rfl⟩ :=
      AsynchronousIOProcessor.registerCompleted_cases registered
    refine ⟨pending, held.of_same (State.pendingMessages_notify _) (fun _ => ?_) rfl rfl ?_⟩
    · exact ⟨by simp [performed], by
        simp [AsynchronousIOProcessor.unexecuted, performed, State.notify]⟩
    · intro returned
      refine Or.inl ?_
      cases status : state.main <;> simp_all [State.notify]

/-- A barrier opens when only the synchronize messages are left of what was sent. -/
theorem Pending.release (held : Pending config contents state pending)
    (controlled : Controlled config ledger state) {barrier : Barrier}
    (full : state.waiters config barrier = barrier.count config)
    (alive : state.io.worker ≠ .exited) :
    ∃ pending', Pending config contents (state.releaseAll barrier) pending' := by
  have waits := controlled.mainWaits_of_full full
  obtain ⟨running, rest, front⟩ := State.mainWaits_iff.mp waits
  have quiescent := controlled.quiescent_of_full full
  have heap := state.releaseAll_heap barrier
  have program : (state.releaseAll barrier).program = rest := by
    rw [State.releaseAll_program waits, front, List.tail_cons]
  obtain ⟨order, created, result⟩ := held.settles
  rw [front] at order created result
  have sublist : (tasksOf MainAction.performer none pending).Sublist pending := List.filter_sublist
  have own : ∀ action ∈ tasksOf MainAction.performer none pending, action.performer = none :=
    fun action member => (mem_tasksOf MainAction.performer).mp member |>.2
  refine ⟨tasksOf MainAction.performer none pending,
    fun action member => held.tasks action (sublist.subset member), ?_, ?_,
    RaceFree.of_component own, ⟨?_, ?_, ?_⟩, ?_⟩
  · intro t
    rw [quiescent t, List.map_nil, List.eq_nil_iff_forall_not_mem]
    intro action member
    obtain ⟨listed, byThread⟩ := (mem_tasksOf MainAction.performer).mp member
    rw [own action listed] at byThread
    cases byThread
  · intro _
    rw [State.releaseAll_io, ← held.requests alive]
    exact List.filter_eq_self.mpr fun action member => by simpa using own action member
  · rw [program]
    exact (sublist.append (List.sublist_cons_self _ rest)).trans order
  · intro t nonempty message member
    rw [heap] at nonempty
    rw [program] at member
    refine created t nonempty message ?_
    rcases List.mem_append.mp member with earlier | later
    · exact List.mem_append_left _ (sublist.subset earlier)
    · exact List.mem_append_right _ (List.mem_cons_of_mem _ later)
  · rw [program, heap, flush_append]
    have idle : flush (MainAction.command stages) (tasksOf MainAction.performer none pending)
        state.heap = flush (MainAction.command stages) pending state.heap := by
      refine flush_filter _ ?_ state.heap
      intro action member skipped heap
      rcases held.tasks action member with ⟨t, message, rfl⟩ | ⟨request, rfl⟩
      · obtain rfl := controlled.synchronize_of_full full (held.mem_message.mp member)
        rfl
      · cases skipped
    rw [idle, ← result, flush_append]
    rfl
  · rw [State.releaseAll_main waits]
    simp

end Steps

/-! ## Runs -/

/-- What holds of every state of a run without failures. -/
structure Replayed (config : Config) (contents : Contents stages) (state : State stages) :
    Prop where
  invariant : Invariant config state
  accounted : ¬ state.Exited → ∃ ledger, Controlled config ledger state ∧ Accounted ledger state
  clean : state.io.exception = none
  pending : ∃ pending, Pending config contents state pending

section Runs

variable {config : Config} {contents : Contents stages} {ledger : Ledger}
  {state state' : State stages} {pending : List MainAction}

theorem Pending.leave (held : Pending config contents state pending) {status : MainStatus}
    (ended : status = .returned → state.program = []) :
    Pending config contents (state.leave status) pending := by
  refine held.of_same (fun _ => rfl) (fun alive => ⟨alive, rfl⟩) rfl rfl ?_
  exact fun returned => Or.inr (ended returned)

/-- The main thread leaves, and nothing is executed by that. -/
theorem Replayed.leave (replayed : Replayed config contents state) {status : MainStatus}
    (after : Invariant config (state.leave status)) (exited : (state.leave status).Exited)
    (ended : status = .returned → state.program = []) :
    Replayed config contents (state.leave status) := by
  obtain ⟨pending, held⟩ := replayed.pending
  exact ⟨after, fun inside => absurd exited inside, replayed.clean, pending, held.leave ended⟩

/-- A statement that issues nothing. -/
theorem Replayed.proceed (replayed : Replayed config contents state)
    (controlled : Controlled config ledger state) (accounted : Accounted ledger state)
    {action : MainAction} {rest : List MainAction} (front : state.program = action :: rest)
    (same : ledger.advance action = ledger)
    (independent : ∀ pending, Pending config contents state pending → ∀ task ∈ pending,
      (task.command stages).Independent (action.command stages))
    (applied : ∀ t, appliedBy ((action.command stages).run state.heap) t =
      appliedBy state.heap t)
    (after : Invariant config
      { state with heap := (action.command stages).run state.heap }.proceed) :
    Replayed config contents
      { state with heap := (action.command stages).run state.heap }.proceed := by
  obtain ⟨pending, held⟩ := replayed.pending
  refine ⟨after, fun _ => ⟨ledger, controlled.proceed front same _, ?_⟩, replayed.clean, pending,
    held.proceed front (independent pending held) applied (fun _ => rfl) rfl ?_ rfl
      (by simp [State.proceed])⟩
  · exact ⟨accounted.inFlight, accounted.use, accounted.once, accounted.fresh, accounted.clean⟩
  · simp [State.proceed, front]

/-- A statement that does nothing to the memory. -/
theorem Replayed.skip (replayed : Replayed config contents state)
    (controlled : Controlled config ledger state) (accounted : Accounted ledger state)
    {action : MainAction} {rest : List MainAction} (front : state.program = action :: rest)
    (same : ledger.advance action = ledger) (skips : action.command stages = Command.skip)
    (after : Invariant config state.proceed) : Replayed config contents state.proceed := by
  have whole := replayed.proceed controlled accounted front same
    (fun _ _ task _ => skips ▸ Command.independent_skip_right _) (fun t => by rw [skips]; rfl)
  rw [skips] at whole
  exact whole after

/-- While the main thread runs, the IO thread does too. -/
theorem Replayed.ioRuns (replayed : Replayed config contents state)
    (running : state.main = .running) :
    state.io.stopped = false ∧ state.io.worker ≠ .exited := by
  have notStopped := replayed.invariant.awake.running (not_exited_of_running running)
  refine ⟨notStopped, ?_⟩
  intro dead
  rw [replayed.invariant.awake.alive dead] at notStopped
  cases notStopped

/-- A message is pending from now on. -/
theorem Replayed.setMessage (replayed : Replayed config contents state)
    (controlled : Controlled config ledger state) (accounted : Accounted ledger state)
    (running : state.main = .running) {t : ℕ} {message : Message} {rest : List MainAction}
    (front : state.program = .setMessage t message :: rest)
    (allowed : ledger.Allows config (.setMessage t message))
    (taken : state.stepStatement (.setMessage t message) = some state')
    (after : Invariant config state') : Replayed config contents state' := by
  obtain ⟨pending, held⟩ := replayed.pending
  obtain ⟨-, alive⟩ := replayed.ioRuns running
  obtain rfl := (Option.some.inj taken).symm
  refine ⟨after, fun _ => ⟨_, controlled.setMessage front, accounted.setMessage allowed⟩,
    replayed.clean, _, held.issue front (Or.inl ⟨t, message, rfl⟩)
      (held.safe_setMessage controlled accounted alive allowed) ?_ alive ?_ ?_ rfl
      (by simp [State.proceed])⟩
  · intro t'
    rw [State.pendingMessages_setMessage, tasksOf_singleton]
    by_cases own : t' = t
    · simp [own]
    · simp [own, Ne.symm own]
  · rw [tasksOf_singleton]
    simp [State.proceed, State.setMessage]
  · simp [State.proceed, State.setMessage, front]

/-- A request is pending from now on. -/
theorem Replayed.requestIOOperation (replayed : Replayed config contents state)
    (controlled : Controlled config ledger state) (accounted : Accounted ledger state)
    (running : state.main = .running) {request : IORequest} {rest : List MainAction}
    (front : state.program = .requestIOOperation request :: rest)
    (allowed : ledger.Allows config (.requestIOOperation request))
    (taken : state.stepStatement (.requestIOOperation request) = some state')
    (after : Invariant config state') : Replayed config contents state' := by
  obtain ⟨pending, held⟩ := replayed.pending
  obtain ⟨notStopped, alive⟩ := replayed.ioRuns running
  obtain rfl := (Option.some.inj taken).symm
  have unexecuted := AsynchronousIOProcessor.unexecuted_requestIOOperation notStopped request
  refine ⟨after, fun _ => ⟨_, controlled.requestIOOperation notStopped front,
    accounted.requestIOOperation notStopped allowed.1⟩, ?_, _,
    held.issue front (Or.inr ⟨request, rfl⟩)
      (fun earlier member different => Or.inl
        (held.safe_request controlled allowed.2 earlier member different)) ?_ alive ?_ ?_ rfl
      (by simp [State.proceed])⟩
  · exact (state.io.requestIOOperation_exception request).trans replayed.clean
  · intro t
    rw [tasksOf_singleton]
    simp [State.proceed, State.pendingMessages]
  · rw [tasksOf_singleton]
    simp [State.proceed, unexecuted]
  · simp [State.proceed, front]

theorem Replayed.stepStatement (replayed : Replayed config contents state)
    (controlled : Controlled config ledger state) (accounted : Accounted ledger state)
    (running : state.main = .running) {action : MainAction} {rest : List MainAction}
    (front : state.program = action :: rest)
    (taken : state.stepStatement action = some state') (after : Invariant config state') :
    Replayed config contents state' := by
  obtain ⟨pending, held⟩ := replayed.pending
  obtain ⟨-, alive⟩ := replayed.ioRuns running
  have conforms := controlled.conforms
  rw [front] at conforms
  have allowed := conforms.1
  cases action with
  | setMessage t message =>
      exact replayed.setMessage controlled accounted running front allowed taken after
  | requestIOOperation request =>
      exact replayed.requestIOOperation controlled accounted running front allowed taken after
  | barrierWait barrier => cases taken
  | checkException t =>
      obtain rfl := (Option.some.inj taken).symm
      rcases state.rethrow_cases state.proceed (state.exception t) with
        ⟨-, same⟩ | ⟨exception, -, same⟩
      · rw [same] at after ⊢
        exact replayed.skip controlled accounted front rfl rfl after
      · rw [same] at after ⊢
        exact replayed.leave after (Or.inr ⟨exception, rfl⟩) (by simp)
  | setReferenceProjection slot =>
      obtain rfl := (Option.some.inj taken).symm
      refine replayed.proceed controlled accounted front rfl ?_ ?_ after
      · intro pending held task member
        rcases held.tasks task member with ⟨t, message, rfl⟩ | ⟨request, rfl⟩
        · rw [held.mem_message, controlled.quiescent allowed.1 t] at member
          exact absurd member List.not_mem_nil
        · refine independent_request_setReferenceProjection fun isRead => ?_
          exact accounted.image_ne (controlled.quiescent allowed.1) allowed.2
            (AsynchronousIOProcessor.mem_unregistered_of_mem_unexecuted
              ((held.mem_request alive).mp member)) isRead
      · intro t
        exact appliedBy_run_of_not_message (by simp) state.heap t
  | writeCorrection index =>
      obtain rfl := (Option.some.inj taken).symm
      refine replayed.proceed controlled accounted front rfl ?_ ?_ after
      · intro pending held task member
        rcases held.tasks task member with ⟨t, message, rfl⟩ | ⟨request, rfl⟩
        · rw [held.mem_message, controlled.quiescent allowed t] at member
          exact absurd member List.not_mem_nil
        · exact independent_request_writeCorrection
      · intro t
        exact appliedBy_run_of_not_message (by simp) state.heap t
  | waitForCompletion =>
      obtain rfl := (Option.some.inj taken).symm
      rw [replayed.clean] at after ⊢
      refine ⟨after, fun _ => ⟨ledger, ?_, ?_⟩, replayed.clean, pending,
        held.of_same (fun _ => rfl) (fun _ => ⟨alive, rfl⟩) rfl rfl (by simp [State.rethrow])⟩
      · exact { controlled with completing := fun _ => ⟨rest, front⟩ }
      · exact ⟨accounted.inFlight, accounted.use, accounted.once, accounted.fresh,
          accounted.clean⟩
  | linearFit =>
      obtain rfl := (Option.some.inj taken).symm
      exact replayed.skip controlled accounted front rfl rfl after
  | throwInternalError => exact allowed.elim

theorem Replayed.stepMain (replayed : Replayed config contents state)
    (taken : state.stepMain = some state') (after : Invariant config state') :
    Replayed config contents state' := by
  obtain ⟨pending, held⟩ := replayed.pending
  rcases State.stepMain_cases taken with ⟨running, empty, rfl⟩ |
    ⟨action, rest, running, front, taken⟩ | ⟨counting, -, rfl⟩ | ⟨counting, -, rfl⟩ |
    ⟨asleep, rfl⟩
  · exact replayed.leave after (Or.inl rfl) fun _ => empty
  · obtain ⟨ledger, controlled, accounted⟩ := replayed.accounted (not_exited_of_running running)
    exact replayed.stepStatement controlled accounted running front taken after
  · obtain ⟨ledger, controlled, accounted⟩ :=
      replayed.accounted (by simp [State.Exited, counting])
    obtain ⟨rest, front⟩ := controlled.completing (Or.inl counting)
    exact replayed.skip controlled accounted front rfl rfl after
  · obtain ⟨ledger, controlled, accounted⟩ :=
      replayed.accounted (by simp [State.Exited, counting])
    refine ⟨after, fun _ => ⟨ledger, ?_, ?_⟩, replayed.clean, pending,
      held.of_same (fun _ => rfl) (fun alive => ⟨alive, rfl⟩) rfl rfl (by simp)⟩
    · exact { controlled with completing := fun _ => controlled.completing (Or.inl counting) }
    · exact ⟨accounted.inFlight, accounted.use, accounted.once, accounted.fresh, accounted.clean⟩
  · obtain ⟨ledger, controlled, accounted⟩ := replayed.accounted (by simp [State.Exited, asleep])
    obtain ⟨rest, front⟩ := controlled.completing (Or.inr ⟨true, asleep⟩)
    rw [replayed.clean] at after ⊢
    refine ⟨after, fun _ => ⟨ledger, ?_, ?_⟩, replayed.clean, pending,
      held.of_same (fun _ => rfl) (fun alive => ⟨alive, rfl⟩) rfl rfl (by simp [State.rethrow])⟩
    · exact { controlled with completing := fun _ => ⟨rest, front⟩ }
    · exact ⟨accounted.inFlight, accounted.use, accounted.once, accounted.fresh, accounted.clean⟩

/-- A step without failure. -/
theorem Replayed.step (replayed : Replayed config contents state) {label : Label stages}
    (noFailure : label.throws = false) (taken : step config state label = some state') :
    Replayed config contents state' := by
  have after := replayed.invariant.step taken
  obtain ⟨pending, held⟩ := replayed.pending
  have tracked : ¬ state.Exited → state.io.stopped = false ∧ state.io.worker ≠ .exited := by
    intro inside
    have running := replayed.invariant.awake.running inside
    refine ⟨running, fun dead => ?_⟩
    rw [replayed.invariant.awake.alive dead] at running
    cases running
  cases label with
  | mainThrows exception => cases noFailure
  | workerThrows t exception garbage => cases noFailure
  | ioThrows exception garbage => cases noFailure
  | main => exact replayed.stepMain taken after
  | worker t =>
      simp only [MultiThreaded.step] at taken
      split_ifs at taken
      have inside : ¬ state.Exited := by
        intro exited
        obtain ⟨idle, empty⟩ := (replayed.invariant.exited exited).idle t
        simp [State.stepWorker, idle, empty] at taken
      obtain ⟨ledger, controlled, accounted⟩ := replayed.accounted inside
      obtain ⟨running, alive⟩ := tracked inside
      obtain ⟨same, effect⟩ := State.stepWorker_effect taken
      have accounted' := accounted.worker running same effect
      exact ⟨after, fun _ => ⟨ledger, controlled.worker same effect, accounted'⟩,
        accounted'.clean, held.worker accounted running alive same effect⟩
  | io =>
      refine ⟨after, fun inside' => ?_, (State.stepIO_exceptions taken).2.trans replayed.clean,
        held.stepIO replayed.clean taken⟩
      have inside : ¬ state.Exited := fun exited =>
        inside' (exited.step (replayed.invariant.exited exited) replayed.invariant.awake taken).1
      obtain ⟨ledger, controlled, accounted⟩ := replayed.accounted inside
      exact ⟨ledger, controlled.stepIO taken, accounted.stepIO taken⟩
  | ioExit =>
      obtain ⟨io, left, rfl⟩ := Option.map_eq_some_iff.mp taken
      obtain ⟨stopped, rfl⟩ := AsynchronousIOProcessor.exitWorker_cases left
      have exited : state.Exited := by
        by_contra inside
        rw [(tracked inside).1] at stopped
        cases stopped
      exact ⟨after, fun inside => absurd exited inside, replayed.clean, pending,
        held.of_same (fun _ => rfl) (fun alive => absurd rfl alive) rfl rfl Or.inl⟩
  | release barrier =>
      simp only [MultiThreaded.step] at taken
      split_ifs at taken with full
      obtain rfl := (Option.some.inj taken).symm
      have inside : ¬ state.Exited := fun exited =>
        exited.not_full (replayed.invariant.exited exited) barrier full
      obtain ⟨ledger, controlled, accounted⟩ := replayed.accounted inside
      have io := state.releaseAll_io barrier
      refine ⟨after, fun _ => ⟨_, controlled.release full, accounted.synchronize ?_ io⟩,
        io ▸ replayed.clean, held.release controlled full (tracked inside).2⟩
      intro t buffer waits
      cases controlled.synchronize_of_full full waits

theorem Replayed.run (replayed : Replayed config contents state)
    {schedule : List (Label stages)} (noFailure : ∀ label ∈ schedule, label.throws = false)
    (taken : run config state schedule = some state') : Replayed config contents state' := by
  induction schedule generalizing state with
  | nil => exact (Option.some.inj taken) ▸ replayed
  | cons label schedule ih =>
      obtain ⟨middle, first, rest⟩ := Option.bind_eq_some_iff.mp taken
      exact ih (replayed.step (noFailure label List.mem_cons_self) first)
        (fun other member => noFailure other (List.mem_cons_of_mem _ member)) rest

/-- **A run without failures can be replayed in the order of issue** from each of its
states. -/
theorem replayed_of_reachable (accepted : config.Accepted)
    (threads : 0 < config.numberOfThreads) (projections : 0 < config.numberOfProjections)
    (reachable : ReachableWithoutFailure config contents state) :
    Replayed config contents state := by
  obtain ⟨conforms, final⟩ := execute_conforms accepted threads projections
  obtain ⟨schedule, taken, noFailure⟩ := reachable
  have accounted : Accounted Ledger.empty (State.initial config contents) := by
    refine ⟨?_, fun _ => (absurd · List.not_mem_nil), List.nodup_nil,
      fun _ => (absurd · List.not_mem_nil), rfl⟩
    rintro buffer (⟨request, member, -⟩ | completed)
    · exact absurd member List.not_mem_nil
    · exact absurd completed (Finset.notMem_empty _)
  have held : Pending config contents (State.initial config contents) [] :=
    ⟨fun _ => (absurd · List.not_mem_nil), fun _ => rfl, fun _ => rfl, RaceFree.nil,
      ⟨List.Sublist.refl _, fun _ nonempty => absurd rfl nonempty, rfl⟩, by simp [State.initial]⟩
  exact Replayed.run ⟨invariant_initial conforms final,
    fun _ => ⟨_, controlled_initial conforms final, accounted⟩, rfl, [], held⟩ noFailure taken

end Runs

end AthabascaRecon.MultiThreaded
