import AthabascaRecon.Engines.MultiThreaded.Effects

/-!
# The ledger agrees with the threads

While the main thread executes statements that conform to the ledger, the ledger
tells the truth about every interleaving, whatever throws: a message that is
pending was sent since the last barrier, a thread that was sent to a barrier has
not passed it, and an image that is in use or waited for is in flight
(`Controlled`). When the main thread leaves, no message is pending at all.
-/

set_option autoImplicit false

namespace AthabascaRecon.MultiThreaded

open Foundation.Concurrency

variable {stages : Stages}

abbrev InFlight (state : State stages) (buffer : Buffer) : Prop :=
  state.io.InFlight IORequest.image buffer

theorem inFlight_of_io {state' : State stages}
    {io : AsynchronousIOProcessor IORequest Buffer} (same : state'.io = io) {buffer : Buffer}
    (inFlight : io.InFlight IORequest.image buffer) : InFlight state' buffer := by
  rw [InFlight, same]
  exact inFlight

/-- What the ledger says about a state of a run. -/
structure Controlled (config : Config) (ledger : Ledger) (state : State stages) : Prop where
  wellFormed : ledger.WellFormed config
  conforms : ledger.Conforms config state.program
  final : (ledger.advanceAll state.program).Synchronized
  pending : ∀ t, state.pendingMessages t <:+ ledger.issued t
  barrier : ∀ t, ∀ message ∈ ledger.issued t, message.isSynchronize = true →
    state.pendingMessages t ≠ []
  used : ∀ buffer, ledger.use buffer = .reading ∨ ledger.use buffer = .writing →
    InFlight state buffer
  awaited : ∀ t buffer, .waitForBufferRelease buffer ∈ state.pendingMessages t →
    InFlight state buffer
  completing : state.main = .counting ∨ (∃ notified, state.main = .sleeping notified) →
    ∃ rest, state.program = .waitForCompletion :: rest

/-- No message is pending. -/
def Quiescent (state : State stages) : Prop :=
  ∀ t, state.pendingMessages t = []

section Pending

variable {config : Config} {ledger : Ledger} {state : State stages}

/-- A thread that was sent to a barrier has that message pending, and it is the
last one. -/
theorem Controlled.exists_pending (controlled : Controlled config ledger state) {t : ℕ}
    {message : Message} (sent : message ∈ ledger.issued t)
    (synchronizes : message.isSynchronize = true) :
    ∃ front, state.pendingMessages t = front ++ [message] := by
  have nonempty := controlled.barrier t message sent synchronizes
  obtain ⟨executed, split⟩ := controlled.pending t
  obtain ⟨before, after, sent'⟩ := List.append_of_mem sent
  obtain rfl := controlled.wellFormed.synchronizeLast t before message after sent' synchronizes
  rcases List.eq_nil_or_concat (state.pendingMessages t) with nothing | ⟨front, last, shape⟩
  · exact absurd nothing nonempty
  · rw [List.concat_eq_append] at shape
    rw [sent', shape, ← List.append_assoc] at split
    obtain ⟨-, same⟩ := List.append_inj' split rfl
    exact ⟨front, by rw [shape, same]⟩

/-- A thread that waits at a barrier has nothing behind it. -/
theorem Controlled.queue_of_waiting (controlled : Controlled config ledger state) {t : ℕ}
    {barrier : Barrier} (waiting : state.worker t = .waiting barrier) :
    .synchronize barrier ∈ ledger.issued t ∧ state.queue t = [] := by
  have pending : state.pendingMessages t = .synchronize barrier :: state.queue t := by
    simp [State.pendingMessages, waiting]
  obtain ⟨executed, split⟩ := controlled.pending t
  rw [pending] at split
  refine ⟨?_, controlled.wellFormed.synchronizeLast t executed _ _ split.symm rfl⟩
  rw [← split]
  simp

end Pending

/-! ## Steps of the worker threads and of the IO processor -/

section OtherThreads

variable {config : Config} {ledger : Ledger} {state state' : State stages}

/-- A step of another thread keeps the ledger true when it ends at most one
message, which is no synchronize message, and takes at most the image of a wait
that it ends out of flight. -/
theorem Controlled.of_step (controlled : Controlled config ledger state)
    (program : state'.program = state.program)
    (completing : state'.main = .counting ∨ (∃ notified, state'.main = .sleeping notified) →
      state.main = .counting ∨ ∃ notified, state.main = .sleeping notified)
    (t : ℕ)
    (elsewhere : ∀ t' ≠ t, state'.pendingMessages t' = state.pendingMessages t')
    (here : state'.pendingMessages t = state.pendingMessages t ∨
      ∃ message, message.isSynchronize = false ∧
        state.pendingMessages t = message :: state'.pendingMessages t)
    (inFlight : ∀ buffer, InFlight state buffer → InFlight state' buffer ∨
      state.pendingMessages t = .waitForBufferRelease buffer :: state'.pendingMessages t) :
    Controlled config ledger state' := by
  have subset : ∀ t', state'.pendingMessages t' <:+ state.pendingMessages t' := by
    intro t'
    by_cases same : t' = t
    · subst same
      rcases here with here | ⟨message, -, here⟩
      · rw [here]
      · rw [here]
        exact List.suffix_cons ..
    · rw [elsewhere t' same]
  -- the image of a wait that ended is neither in use nor waited for any more
  have consumed : ∀ buffer,
      state.pendingMessages t = .waitForBufferRelease buffer :: state'.pendingMessages t →
        ledger.use buffer = .awaited ∧
          ∀ t', .waitForBufferRelease buffer ∉ state'.pendingMessages t' := by
    intro buffer ended
    have sent : .waitForBufferRelease buffer ∈ ledger.issued t :=
      (controlled.pending t).subset (by simp [ended])
    obtain ⟨lane, awaited⟩ := controlled.wellFormed.awaited t buffer sent
    refine ⟨awaited, fun t' again => ?_⟩
    have sent' : .waitForBufferRelease buffer ∈ ledger.issued t' :=
      (controlled.pending t').subset ((subset t').subset again)
    obtain rfl : t = t' := lane.symm.trans (controlled.wellFormed.awaited t' buffer sent').1
    have once := controlled.wellFormed.once t buffer
    have twice := (controlled.pending t).sublist.count_le (.waitForBufferRelease buffer)
    rw [ended, List.count_cons_self] at twice
    have another := List.count_pos_iff.mpr again
    omega
  refine ⟨controlled.wellFormed, program ▸ controlled.conforms, program ▸ controlled.final,
    fun t' => (subset t').trans (controlled.pending t'), fun t' message sent synchronizes => ?_,
    fun buffer used => ?_, fun t' buffer waits => ?_, fun inside =>
      program ▸ controlled.completing (completing inside)⟩
  · by_cases same : t' = t
    · subst same
      rcases here with here | ⟨other, ordinary, here⟩
      · rw [here]
        exact controlled.barrier t' message sent synchronizes
      · intro nothing
        obtain ⟨front, pending⟩ := controlled.exists_pending sent synchronizes
        rw [here, nothing] at pending
        rw [← List.nil_append [other]] at pending
        obtain ⟨-, last⟩ := List.append_inj' pending rfl
        obtain rfl := List.singleton_inj.mp last
        rw [ordinary] at synchronizes
        cases synchronizes
    · rw [elsewhere t' same]
      exact controlled.barrier t' message sent synchronizes
  · rcases inFlight buffer (controlled.used buffer used) with kept | ended
    · exact kept
    · rw [(consumed buffer ended).1] at used
      simp at used
  · rcases inFlight buffer (controlled.awaited t' buffer ((subset t').subset waits)) with
      kept | ended
    · exact kept
    · exact absurd waits ((consumed buffer ended).2 t')

theorem Controlled.worker (controlled : Controlled config ledger state) {t : ℕ}
    (same : State.SameElsewhere t state state')
    (effect : State.WorkerEffect t state state') : Controlled config ledger state' := by
  refine controlled.of_step same.program (fun inside => same.main ▸ inside) t
    (fun t' different => same.pendingMessages different) ?_ fun buffer inFlight => ?_
  · cases effect with
    | inside pending => exact Or.inl pending
    | finished message ordinary pending =>
        refine Or.inr ⟨message, ?_, pending⟩
        cases message <;> first | rfl | cases ordinary
    | released data pending => exact Or.inr ⟨_, rfl, pending⟩
    | failedWait data pending => exact Or.inr ⟨_, rfl, pending⟩
  · cases effect with
    | inside pending exception io => exact Or.inl (inFlight_of_io io inFlight)
    | finished message ordinary pending idle exception io =>
      exact Or.inl (inFlight_of_io io inFlight)
    | released data pending idle exception completed io =>
        by_cases same : buffer = data
        · subst same
          exact Or.inr pending
        · exact Or.inl (inFlight_of_io io (inFlight.releaseBuffer same))
    | failedWait data pending idle parked cause io => exact Or.inl (inFlight_of_io io inFlight)

theorem Controlled.workerThrows (controlled : Controlled config ledger state) {t : ℕ}
    {exception : String} {garbage : Heap (Val stages)}
    (taken : state.workerThrows t exception garbage = some state') :
    Controlled config ledger state' := by
  obtain ⟨same, message, ordinary, -, -, pending, -, io⟩ := State.workerThrows_effect taken
  refine controlled.of_step same.program (fun inside => same.main ▸ inside) t
    (fun t' different => same.pendingMessages different) (Or.inr ⟨message, ?_, pending⟩)
    fun buffer inFlight => Or.inl (inFlight_of_io io inFlight)
  cases message <;> first | rfl | cases ordinary

/-- The IO processor takes no image out of flight. -/
theorem Controlled.stepIO (controlled : Controlled config ledger state)
    (taken : state.stepIO = some state') : Controlled config ledger state' := by
  rcases State.stepIO_cases taken with ⟨io, fetched, rfl⟩ | ⟨request, io, -, executed, rfl⟩ |
    ⟨io, registered, rfl⟩
  · exact controlled.of_step rfl id 0 (fun _ _ => rfl) (Or.inl rfl)
      fun buffer inFlight => Or.inl (inFlight.getRequest fetched)
  · exact controlled.of_step rfl id 0 (fun _ _ => rfl) (Or.inl rfl)
      fun buffer inFlight => Or.inl (inFlight.executeOperation executed)
  · refine controlled.of_step rfl (fun inside => ?_) 0
      (fun t _ => State.pendingMessages_notify _ t) (Or.inl (State.pendingMessages_notify _ 0))
      fun buffer inFlight => Or.inl (inFlight.registerCompleted registered)
    cases status : state.main <;> simp_all [State.notify]

theorem Controlled.ioThrows (controlled : Controlled config ledger state)
    {exception : String} {garbage : Heap (Val stages)}
    (taken : state.ioThrows exception garbage = some state') :
    Controlled config ledger state' := by
  obtain ⟨request, io, -, -, executed, rfl⟩ := State.ioThrows_cases taken
  exact controlled.of_step rfl id 0 (fun _ _ => rfl) (Or.inl rfl)
    fun buffer inFlight => Or.inl (inFlight.executeOperation executed)

end OtherThreads

/-! ## Steps of the main thread -/

section MainThread

variable {config : Config} {ledger : Ledger} {state : State stages}

/-- A statement that sends nothing and requests nothing. -/
theorem Controlled.proceed (controlled : Controlled config ledger state)
    {action : MainAction} {rest : List MainAction} (front : state.program = action :: rest)
    (same : ledger.advance action = ledger) (heap : Heap (Val stages)) :
    Controlled config ledger { state with heap := heap }.proceed := by
  have conforms := controlled.conforms
  have final := controlled.final
  rw [front] at conforms final
  have after := conforms.2
  rw [same] at after
  rw [Ledger.advanceAll_cons, same] at final
  have tail : { state with heap := heap }.proceed.program = rest := by
    simp [State.proceed, front]
  refine ⟨controlled.wellFormed, tail ▸ after, tail ▸ final, controlled.pending,
    controlled.barrier, controlled.used, controlled.awaited, fun inside => ?_⟩
  simp [State.proceed] at inside

theorem Controlled.setMessage (controlled : Controlled config ledger state) {t : ℕ}
    {message : Message} {rest : List MainAction}
    (front : state.program = .setMessage t message :: rest) :
    Controlled config (ledger.send t message) (state.setMessage t message).proceed := by
  have conforms := controlled.conforms
  have final := controlled.final
  rw [front] at conforms final
  obtain ⟨allowed, after⟩ := conforms
  have pending := state.pendingMessages_setMessage t
  have tail : (state.setMessage t message).proceed.program = rest := by
    simp [State.proceed, State.setMessage, front]
  refine ⟨controlled.wellFormed.send allowed, tail ▸ after, tail ▸ final, fun t' => ?_,
    fun t' other sent synchronizes => ?_, fun buffer used => ?_, fun t' buffer waits => ?_,
    fun inside => ?_⟩
  · rw [pending]
    by_cases same : t' = t
    · subst same
      obtain ⟨executed, split⟩ := controlled.pending t'
      refine ⟨executed, ?_⟩
      simp [Ledger.send, ← split]
    · simpa [Ledger.send, same] using controlled.pending t'
  · rw [pending]
    rcases Ledger.mem_send.mp sent with earlier | ⟨rfl, rfl⟩
    · have before := controlled.barrier t' other earlier synchronizes
      split_ifs
      · exact List.append_ne_nil_of_left_ne_nil before _
      · exact before
    · simp
  · refine controlled.used buffer ?_
    cases message with
    | waitForBufferRelease data =>
        by_cases same : buffer = data
        · subst same
          simp [Ledger.send] at used
        · simpa [Ledger.send, same] using used
    | _ => exact used
  · rw [pending] at waits
    split_ifs at waits with same
    · rcases List.mem_append.mp waits with earlier | new
      · exact controlled.awaited t' buffer earlier
      · obtain rfl := List.mem_singleton.mp new
        exact controlled.used buffer (allowed.waits buffer rfl).2
    · exact controlled.awaited t' buffer waits
  · simp [State.proceed, State.setMessage] at inside

theorem Controlled.requestIOOperation (controlled : Controlled config ledger state)
    (running : state.io.stopped = false) {request : IORequest} {rest : List MainAction}
    (front : state.program = .requestIOOperation request :: rest) :
    Controlled config (ledger.request request)
      { state with io := state.io.requestIOOperation request }.proceed := by
  have conforms := controlled.conforms
  have final := controlled.final
  rw [front] at conforms final
  obtain ⟨⟨free, -⟩, after⟩ := conforms
  have tail : { state with io := state.io.requestIOOperation request }.proceed.program = rest := by
    simp [State.proceed, front]
  refine ⟨controlled.wellFormed.request free, tail ▸ after, tail ▸ final, controlled.pending,
    controlled.barrier, fun buffer used => ?_, fun t buffer waits => ?_, fun inside => ?_⟩
  · by_cases same : buffer = request.image
    · subst same
      exact AsynchronousIOProcessor.inFlight_requestIOOperation running request
    · refine (controlled.used buffer ?_).requestIOOperation running request
      simpa [Ledger.request, same] using used
  · exact (controlled.awaited t buffer waits).requestIOOperation running request
  · simp [State.proceed] at inside

end MainThread

/-! ## Barriers -/

section Barriers

variable {config : Config} {ledger : Ledger} {state : State stages}

/-- Two threads never wait at the barrier for one worker. -/
theorem Controlled.waiting_one_unique (controlled : Controlled config ledger state) {t t' : ℕ}
    (waiting : state.worker t = .waiting .meAndOneWorker)
    (waiting' : state.worker t' = .waiting .meAndOneWorker) : t = t' := by
  by_contra different
  have compatible := controlled.wellFormed.compatible t t' different _
    (controlled.queue_of_waiting waiting).1 _ (controlled.queue_of_waiting waiting').1
  rcases compatible with ⟨isLocal, -⟩ | ⟨shared, -⟩
  · exact isLocal
  · exact shared

theorem countP_range_le_one (count : ℕ) (test : ℕ → Bool)
    (unique : ∀ t t', test t = true → test t' = true → t = t') :
    (List.range count).countP test ≤ 1 := by
  induction count with
  | zero => simp
  | succ count ih =>
      rw [List.range_succ, List.countP_append, List.countP_singleton]
      split_ifs with last
      · have before : (List.range count).countP test = 0 := by
          rw [List.countP_eq_zero]
          intro t member found
          have below := List.mem_range.mp member
          have same := unique t count found last
          omega
        omega
      · exact ih

/-- When a barrier opens, the main thread was waiting at it. -/
theorem Controlled.mainWaits_of_full (controlled : Controlled config ledger state)
    {barrier : Barrier} (full : state.waiters config barrier = barrier.count config) :
    state.mainWaits barrier = true := by
  by_contra absent
  have notWaiting : state.mainWaits barrier = false := by simpa using absent
  rw [State.waiters, notWaiting, Bool.toNat_false] at full
  cases barrier with
  | meAndAllWorkers =>
      have bound : (List.range config.numberOfThreads).countP
          (state.worker · == .waiting .meAndAllWorkers) ≤ _ := List.countP_le_length
      rw [List.length_range] at bound
      simp only [Barrier.count] at full
      omega
  | meAndOneWorker =>
      have one := countP_range_le_one config.numberOfThreads
        (state.worker · == .waiting .meAndOneWorker) fun t t' first second =>
          controlled.waiting_one_unique (by simpa using first) (by simpa using second)
      simp only [Barrier.count] at full
      omega

theorem Controlled.pending_of_unissued (controlled : Controlled config ledger state) {t : ℕ}
    (unissued : ledger.issued t = []) : state.pendingMessages t = [] := by
  have pending := controlled.pending t
  rw [unissued] at pending
  exact List.suffix_nil.mp pending

/-- When a barrier opens, only those that wait at it have a message pending. -/
theorem Controlled.pending_of_full (controlled : Controlled config ledger state)
    {barrier : Barrier} (full : state.waiters config barrier = barrier.count config) {t : ℕ}
    (elsewhere : state.worker t ≠ .waiting barrier) : state.pendingMessages t = [] := by
  have waits := controlled.mainWaits_of_full full
  obtain ⟨-, rest, front⟩ := State.mainWaits_iff.mp waits
  have allowed := controlled.conforms
  rw [front] at allowed
  replace allowed := allowed.1
  rw [State.waiters, waits, Bool.toNat_true] at full
  cases barrier with
  | meAndAllWorkers =>
      have all : (List.range config.numberOfThreads).countP
          (state.worker · == .waiting .meAndAllWorkers) =
            (List.range config.numberOfThreads).length := by
        rw [List.length_range]
        simp only [Barrier.count] at full
        omega
      rw [List.countP_eq_length] at all
      refine controlled.pending_of_unissued (List.eq_nil_iff_forall_not_mem.mpr ?_)
      intro message sent
      have thread := controlled.wellFormed.thread t message sent
      exact elsewhere (by simpa using all t (List.mem_range.mpr thread))
  | meAndOneWorker =>
      obtain ⟨partner, -, -, others⟩ := allowed
      by_cases same : t = partner
      · have positive : 0 < (List.range config.numberOfThreads).countP
            (state.worker · == .waiting .meAndOneWorker) := by
          simp only [Barrier.count] at full
          omega
        obtain ⟨t', -, waiting⟩ := List.countP_pos_iff.mp positive
        have sent := (controlled.queue_of_waiting (by simpa using waiting)).1
        by_cases same' : t' = partner
        · rw [same', ← same] at waiting
          exact absurd (by simpa using waiting) elsewhere
        · rw [others t' same'] at sent
          exact absurd sent List.not_mem_nil
      · exact controlled.pending_of_unissued (others t same)

/-- When a barrier opens, only the messages that sent the threads there are pending. -/
theorem Controlled.synchronize_of_full (controlled : Controlled config ledger state)
    {barrier : Barrier} (full : state.waiters config barrier = barrier.count config) {t : ℕ}
    {message : Message} (pending : message ∈ state.pendingMessages t) :
    message = .synchronize barrier := by
  by_cases waiting : state.worker t = .waiting barrier
  · simpa [State.pendingMessages, waiting, (controlled.queue_of_waiting waiting).2] using pending
  · rw [controlled.pending_of_full full waiting] at pending
    exact absurd pending List.not_mem_nil

/-- A barrier that opens leaves no message pending. -/
theorem Controlled.quiescent_of_full (controlled : Controlled config ledger state)
    {barrier : Barrier} (full : state.waiters config barrier = barrier.count config) :
    Quiescent (state.releaseAll barrier) := by
  intro t
  rw [State.pendingMessages_releaseAll]
  split_ifs with waiting
  · exact (controlled.queue_of_waiting waiting).2
  · exact controlled.pending_of_full full waiting

theorem Controlled.release (controlled : Controlled config ledger state)
    {barrier : Barrier} (full : state.waiters config barrier = barrier.count config) :
    Controlled config ledger.synchronize (state.releaseAll barrier) := by
  have waits := controlled.mainWaits_of_full full
  obtain ⟨running, rest, front⟩ := State.mainWaits_iff.mp waits
  have quiescent := controlled.quiescent_of_full full
  have conforms := controlled.conforms
  have final := controlled.final
  rw [front] at conforms final
  have tail : (state.releaseAll barrier).program = rest := by
    rw [State.releaseAll_program waits, front, List.tail_cons]
  refine ⟨Ledger.wellFormed_synchronize, tail ▸ conforms.2, tail ▸ final, fun t => ?_,
    fun t message sent => absurd sent List.not_mem_nil, fun buffer used => ?_,
    fun t buffer pending => ?_, fun inside => ?_⟩
  · rw [quiescent t]
    exact List.nil_suffix
  · refine inFlight_of_io (state.releaseAll_io barrier) (controlled.used buffer ?_)
    by_cases awaited : ledger.use buffer = .awaited
    · simp [Ledger.synchronize, awaited] at used
    · simpa [Ledger.synchronize, awaited] using used
  · rw [quiescent t] at pending
    exact absurd pending List.not_mem_nil
  · simp [State.releaseAll_main waits] at inside

end Barriers

end AthabascaRecon.MultiThreaded
