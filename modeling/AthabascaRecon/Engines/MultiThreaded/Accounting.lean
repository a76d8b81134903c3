import AthabascaRecon.Engines.MultiThreaded.Progress

/-!
# The ledger accounts for every image in flight

The ledger says more than that images in use are in flight. As long as no
operation fails, an image is in flight only while the ledger has it in use, or
while a message that waits for it is pending, and there is one request for it at
a time. So a registration that a thread consumes is that of the request it was
told to wait for.
-/

set_option autoImplicit false

namespace AthabascaRecon.MultiThreaded

open Foundation.Concurrency

variable {stages : Stages} {config : Config} {ledger : Ledger} {state state' : State stages}

/-- What the ledger says about the requests of a run without failures. -/
structure Accounted (ledger : Ledger) (state : State stages) : Prop where
  inFlight : ∀ buffer, InFlight state buffer →
    ledger.use buffer = .reading ∨ ledger.use buffer = .writing ∨
      ledger.use buffer = .awaited ∧
        .waitForBufferRelease buffer ∈ state.pendingMessages buffer.lane
  use : ∀ request ∈ state.io.unregistered,
    ledger.use request.image = request.use ∨ ledger.use request.image = .awaited
  once : (state.io.unregistered.map IORequest.image).Nodup
  fresh : ∀ request ∈ state.io.unregistered, request.image ∉ state.io.completedRequests
  clean : state.io.exception = none

/-- An image that is free is not in flight. -/
theorem Accounted.not_inFlight (accounted : Accounted ledger state) {buffer : Buffer}
    (free : ledger.use buffer = .free) : ¬ InFlight state buffer := by
  intro inFlight
  rcases accounted.inFlight buffer inFlight with reading | writing | ⟨awaited, -⟩
  · rw [free] at reading
    cases reading
  · rw [free] at writing
    cases writing
  · rw [free] at awaited
    cases awaited

/-- When nothing is pending, no request reads into an image that is not being read. -/
theorem Accounted.image_ne (accounted : Accounted ledger state) (quiescent : Quiescent state)
    {buffer : Buffer} (notReading : ledger.use buffer ≠ .reading) {request : IORequest}
    (unregistered : request ∈ state.io.unregistered) (isRead : request.isRead = true) :
    request.image ≠ buffer := by
  rintro rfl
  rcases accounted.use request unregistered with use | awaited
  · exact notReading (by simp [use, IORequest.use, isRead])
  · rcases accounted.inFlight request.image (Or.inl ⟨request, unregistered, rfl⟩) with
      reading | writing | ⟨-, pending⟩
    · exact notReading reading
    · rw [writing] at awaited
      cases awaited
    · rw [quiescent] at pending
      exact absurd pending List.not_mem_nil

/-! ## Steps of the main thread -/

theorem Accounted.setMessage (accounted : Accounted ledger state) {t : ℕ} {message : Message}
    (allowed : ledger.AllowsMessage config t message) :
    Accounted (ledger.send t message) (state.setMessage t message).proceed := by
  have kept : ∀ buffer, .waitForBufferRelease buffer ∈ state.pendingMessages buffer.lane →
      .waitForBufferRelease buffer ∈
        (state.setMessage t message).proceed.pendingMessages buffer.lane := by
    intro buffer waits
    rw [State.pendingMessages_setMessage]
    split_ifs
    · exact List.mem_append_left _ waits
    · exact waits
  by_cases waits : ∃ data, message = .waitForBufferRelease data
  · obtain ⟨data, rfl⟩ := waits
    obtain ⟨lane, -⟩ := allowed.waits data rfl
    refine ⟨?_, ?_, accounted.once, accounted.fresh, accounted.clean⟩
    · intro buffer inFlight
      by_cases same : buffer = data
      · subst same
        refine Or.inr (Or.inr ⟨by simp [Ledger.send], ?_⟩)
        rw [State.pendingMessages_setMessage, if_pos lane]
        exact List.mem_append_right _ List.mem_cons_self
      · have use : (ledger.send t (.waitForBufferRelease data)).use buffer = ledger.use buffer := by
          simp [Ledger.send, same]
        rw [use]
        rcases accounted.inFlight buffer inFlight with reading | writing | ⟨awaited, pending⟩
        · exact Or.inl reading
        · exact Or.inr (Or.inl writing)
        · exact Or.inr (Or.inr ⟨awaited, kept buffer pending⟩)
    · intro request member
      by_cases same : request.image = data
      · exact Or.inr (by simp [Ledger.send, same])
      · simpa [Ledger.send, same] using accounted.use request member
  · have use : (ledger.send t message).use = ledger.use :=
      Ledger.use_send fun buffer same => waits ⟨buffer, same⟩
    refine ⟨?_, ?_, accounted.once, accounted.fresh, accounted.clean⟩
    · intro buffer inFlight
      rw [use]
      rcases accounted.inFlight buffer inFlight with reading | writing | ⟨awaited, pending⟩
      · exact Or.inl reading
      · exact Or.inr (Or.inl writing)
      · exact Or.inr (Or.inr ⟨awaited, kept buffer pending⟩)
    · intro request member
      rw [use]
      exact accounted.use request member

theorem Accounted.requestIOOperation (accounted : Accounted ledger state)
    (running : state.io.stopped = false) {request : IORequest}
    (free : ledger.use request.image = .free) :
    Accounted (ledger.request request)
      { state with io := state.io.requestIOOperation request }.proceed := by
  have absent := accounted.not_inFlight free
  have unregistered := AsynchronousIOProcessor.unregistered_requestIOOperation running request
  have completed := state.io.requestIOOperation_completedRequests request
  refine ⟨?_, ?_, ?_, ?_, ?_⟩
  · intro buffer inFlight
    by_cases same : buffer = request.image
    · subst same
      cases isRead : request.isRead
      · exact Or.inr (Or.inl (by simp [Ledger.request, IORequest.use, isRead]))
      · exact Or.inl (by simp [Ledger.request, IORequest.use, isRead])
    · have before : InFlight state buffer := by
        rcases inFlight with ⟨other, member, image⟩ | registered
        · have member' : other ∈ state.io.unregistered ++ [request] := unregistered ▸ member
          rcases List.mem_append.mp member' with earlier | new
          · exact Or.inl ⟨other, earlier, image⟩
          · obtain rfl := List.mem_singleton.mp new
            exact absurd image.symm same
        · exact Or.inr (completed ▸ registered)
      have use : (ledger.request request).use buffer = ledger.use buffer := by
        simp [Ledger.request, same]
      rw [use]
      exact accounted.inFlight buffer before
  · intro other member
    have member' : other ∈ state.io.unregistered ++ [request] := unregistered ▸ member
    rcases List.mem_append.mp member' with earlier | new
    · have different : other.image ≠ request.image := fun same =>
        absent (Or.inl ⟨other, earlier, same⟩)
      simpa [Ledger.request, different] using accounted.use other earlier
    · obtain rfl := List.mem_singleton.mp new
      exact Or.inl (by simp [Ledger.request])
  · show ((state.io.requestIOOperation request).unregistered.map IORequest.image).Nodup
    rw [unregistered, List.map_append, List.nodup_append]
    refine ⟨accounted.once, List.nodup_singleton _, ?_⟩
    intro image earlier image' new same
    obtain ⟨other, member, rfl⟩ := List.mem_map.mp earlier
    obtain rfl : image' = request.image := by simpa using new
    exact absent (Or.inl ⟨other, member, same⟩)
  · intro other member
    show other.image ∉ (state.io.requestIOOperation request).completedRequests
    rw [completed]
    have member' : other ∈ state.io.unregistered ++ [request] := unregistered ▸ member
    rcases List.mem_append.mp member' with earlier | new
    · exact accounted.fresh other earlier
    · obtain rfl := List.mem_singleton.mp new
      exact fun registered => absent (Or.inr registered)
  · exact (state.io.requestIOOperation_exception request).trans accounted.clean

/-- Behind a barrier nothing is awaited. -/
theorem Accounted.synchronize (accounted : Accounted ledger state)
    (noWait : ∀ t buffer, .waitForBufferRelease buffer ∉ state.pendingMessages t)
    (io : state'.io = state.io) : Accounted ledger.synchronize state' := by
  have used : ∀ buffer, InFlight state buffer →
      ledger.use buffer = .reading ∨ ledger.use buffer = .writing := by
    intro buffer inFlight
    rcases accounted.inFlight buffer inFlight with reading | writing | ⟨-, pending⟩
    · exact Or.inl reading
    · exact Or.inr writing
    · exact absurd pending (noWait _ _)
  have kept : ∀ buffer, ledger.use buffer = .reading ∨ ledger.use buffer = .writing →
      ledger.synchronize.use buffer = ledger.use buffer := by
    intro buffer inUse
    rcases inUse with reading | writing
    · simp [Ledger.synchronize, reading]
    · simp [Ledger.synchronize, writing]
  refine ⟨?_, ?_, io ▸ accounted.once, io ▸ accounted.fresh, io ▸ accounted.clean⟩
  · intro buffer inFlight
    have inUse := used buffer (inFlight_of_io io.symm inFlight)
    rw [kept buffer inUse]
    exact inUse.imp id Or.inl
  · intro request member
    rw [io] at member
    have inUse := used request.image (Or.inl ⟨request, member, rfl⟩)
    rw [kept _ inUse]
    exact accounted.use request member

/-! ## Steps of the other threads -/

/-- Messages end, and images leave flight only with the message that waits for them. -/
theorem Accounted.of_step (accounted : Accounted ledger state)
    (unregistered : state'.io.unregistered = state.io.unregistered)
    (completed : ∀ buffer ∈ state'.io.completedRequests, buffer ∈ state.io.completedRequests)
    (exception : state'.io.exception = state.io.exception)
    (waits : ∀ buffer, InFlight state' buffer →
      .waitForBufferRelease buffer ∈ state.pendingMessages buffer.lane →
        .waitForBufferRelease buffer ∈ state'.pendingMessages buffer.lane) :
    Accounted ledger state' := by
  refine ⟨?_, ?_, unregistered ▸ accounted.once, ?_, exception.trans accounted.clean⟩
  · intro buffer inFlight
    have before : InFlight state buffer := by
      rcases inFlight with ⟨request, member, image⟩ | registered
      · exact Or.inl ⟨request, unregistered ▸ member, image⟩
      · exact Or.inr (completed buffer registered)
    rcases accounted.inFlight buffer before with reading | writing | ⟨awaited, pending⟩
    · exact Or.inl reading
    · exact Or.inr (Or.inl writing)
    · exact Or.inr (Or.inr ⟨awaited, waits buffer inFlight pending⟩)
  · intro request member
    exact accounted.use request (unregistered ▸ member)
  · intro request member registered
    exact accounted.fresh request (unregistered ▸ member) (completed _ registered)

theorem Accounted.worker (accounted : Accounted ledger state)
    (running : state.io.stopped = false) {t : ℕ}
    (same : State.SameElsewhere t state state') (effect : State.WorkerEffect t state state') :
    Accounted ledger state' := by
  have elsewhere : ∀ buffer, (.waitForBufferRelease buffer ∈ state.pendingMessages t →
      .waitForBufferRelease buffer ∈ state'.pendingMessages t) →
      .waitForBufferRelease buffer ∈ state.pendingMessages buffer.lane →
        .waitForBufferRelease buffer ∈ state'.pendingMessages buffer.lane := by
    intro buffer here pending
    by_cases own : buffer.lane = t
    · rw [own] at pending ⊢
      exact here pending
    · rwa [same.pendingMessages own]
  cases effect with
  | inside pending exception io =>
      refine accounted.of_step (by rw [io]) (by simp [io]) (by rw [io]) ?_
      exact fun buffer _ => elsewhere buffer fun waits => pending.symm ▸ waits
  | finished message ordinary pending idle exception io =>
      refine accounted.of_step (by rw [io]) (by simp [io]) (by rw [io]) ?_
      intro buffer _
      refine elsewhere buffer fun waits => ?_
      rw [pending] at waits
      rcases List.mem_cons.mp waits with rfl | later
      · cases ordinary
      · exact later
  | released data pending idle exception completed io =>
      refine accounted.of_step (by rw [io]; rfl) ?_ (by rw [io]; rfl) ?_
      · intro buffer registered
        rw [io] at registered
        exact Finset.mem_of_mem_erase registered
      · intro buffer inFlight
        refine elsewhere buffer fun waits => ?_
        rw [pending] at waits
        rcases List.mem_cons.mp waits with ended | later
        · -- the only registration of the image is consumed
          obtain rfl : buffer = data := by simpa using ended
          rcases inFlight with ⟨request, member, image⟩ | registered
          · have member' : request ∈ state.io.unregistered := by
              rw [io] at member
              exact member
            exact absurd (image ▸ completed) (accounted.fresh request member')
          · rw [io] at registered
            exact absurd registered (Finset.notMem_erase _ _)
        · exact later
  | failedWait data pending idle parked cause io =>
      rw [accounted.clean, running] at cause
      simp at cause

theorem Accounted.stepIO (accounted : Accounted ledger state)
    (taken : state.stepIO = some state') : Accounted ledger state' := by
  rcases State.stepIO_cases taken with ⟨io, fetched, rfl⟩ | ⟨request, io, -, executed, rfl⟩ |
    ⟨io, registered, rfl⟩
  · obtain ⟨request, rest, idle, -, front, rfl⟩ :=
      AsynchronousIOProcessor.getRequest_cases fetched
    refine accounted.of_step ?_ (fun _ => id) rfl fun _ _ => id
    simp [AsynchronousIOProcessor.unregistered, AsynchronousIOProcessor.inHand, idle, front]
  · obtain ⟨request, fetched, rfl⟩ := AsynchronousIOProcessor.executeOperation_cases executed
    refine accounted.of_step ?_ (fun _ => id) (by simp) fun _ _ => id
    simp [AsynchronousIOProcessor.unregistered, AsynchronousIOProcessor.inHand, fetched]
  · obtain ⟨request, performed, rfl⟩ :=
      AsynchronousIOProcessor.registerCompleted_cases registered
    have before : state.io.unregistered = request :: state.io.queue := by
      simp [AsynchronousIOProcessor.unregistered, AsynchronousIOProcessor.inHand, performed]
    have once := accounted.once
    rw [before, List.map_cons, List.nodup_cons] at once
    have member : ∀ other ∈ state.io.queue, other ∈ state.io.unregistered := by
      intro other queued
      rw [before]
      exact List.mem_cons_of_mem _ queued
    refine ⟨?_, ?_, once.2, ?_, accounted.clean⟩
    · intro buffer inFlight
      have before : InFlight state buffer := by
        rcases inFlight with ⟨other, queued, image⟩ | registered
        · exact Or.inl ⟨other, member other queued, image⟩
        · rcases Finset.mem_insert.mp registered with rfl | earlier
          · exact Or.inl ⟨request, before ▸ List.mem_cons_self, rfl⟩
          · exact Or.inr earlier
      rw [State.pendingMessages_notify]
      exact accounted.inFlight buffer before
    · intro other queued
      exact accounted.use other (member other queued)
    · intro other queued registered
      rcases Finset.mem_insert.mp registered with same | earlier
      · exact once.1 (List.mem_map.mpr ⟨other, queued, same⟩)
      · exact accounted.fresh other (member other queued) earlier

end AthabascaRecon.MultiThreaded
