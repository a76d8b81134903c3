import Mathlib.Data.Finset.Basic
import Mathlib.Data.List.Basic

/-!
# The asynchronous IO processor

`AsynchronousIOProcessor` owns a queue of requests and one worker thread. The
worker takes a request from the queue, executes its operation unless an earlier
one failed, and then registers the image of the request as completed. Other
threads wait for an image to be registered, or for the queue to run empty.

A section that the source protects by a mutex is one function here. A condition
wait is split in two: the test that goes to sleep, and the test made again after
a notification. A notification reaches every thread that sleeps on the condition
at that moment.
-/

set_option autoImplicit false

namespace AthabascaRecon

/-- What the worker thread does between two of its protected sections. -/
inductive IOWorker (Request : Type) where
  | idle
  | fetched (request : Request)
  | performed (request : Request)
  | exited
  deriving DecidableEq

/-- The members of the processor and the position of its worker thread. -/
structure AsynchronousIOProcessor (Request Image : Type) where
  queue : List Request
  completedRequests : Finset Image
  stopped : Bool
  exception : Option String
  worker : IOWorker Request

namespace AsynchronousIOProcessor

variable {Request Image : Type}

/-- The constructor: no requests, and the worker thread launched. -/
def initial : AsynchronousIOProcessor Request Image where
  queue := []
  completedRequests := ∅
  stopped := false
  exception := none
  worker := .idle

/-- `RequestIOOperation`: queue a request, unless the processor is stopped. -/
def requestIOOperation (io : AsynchronousIOProcessor Request Image) (request : Request) :
    AsynchronousIOProcessor Request Image :=
  if io.stopped then io else { io with queue := io.queue ++ [request] }

/-- `GetRequest`: take the oldest request. The worker sleeps while there is none. -/
def getRequest (io : AsynchronousIOProcessor Request Image) :
    Option (AsynchronousIOProcessor Request Image) :=
  match io.worker, io.stopped, io.queue with
  | .idle, false, request :: rest => some { io with worker := .fetched request, queue := rest }
  | _, _, _ => none

/-- `SetException`: in case of multiple exceptions the first is kept. -/
def setException (io : AsynchronousIOProcessor Request Image) (exception : String) :
    AsynchronousIOProcessor Request Image :=
  { io with exception := some (io.exception.getD exception) }

/-- The operation inside `ExecuteOperation`, which is skipped once an exception
is stored. `failure` is the exception the operation throws, if it throws. -/
def executeOperation (io : AsynchronousIOProcessor Request Image) (failure : Option String) :
    Option (AsynchronousIOProcessor Request Image) :=
  match io.worker with
  | .fetched request =>
      let attempted := match io.exception, failure with
        | none, some exception => io.setException exception
        | _, _ => io
      some { attempted with worker := .performed request }
  | _ => none

/-- The end of `ExecuteOperation`: register the image, also after an exception. -/
def registerCompleted [DecidableEq Image] (image : Request → Image)
    (io : AsynchronousIOProcessor Request Image) :
    Option (AsynchronousIOProcessor Request Image) :=
  match io.worker with
  | .performed request =>
      some { io with
        completedRequests := insert (image request) io.completedRequests
        worker := .idle }
  | _ => none

/-- The loop of `StartIOWorker` ends when the processor is stopped, and a request
taken from the queue is then dropped. -/
def exitWorker (io : AsynchronousIOProcessor Request Image) :
    Option (AsynchronousIOProcessor Request Image) :=
  match io.worker, io.stopped with
  | .idle, true => some { io with worker := .exited }
  | .fetched _, true => some { io with worker := .exited }
  | _, _ => none

/-- The end of `WaitForBufferRelease`: the registration is consumed. -/
def releaseBuffer [DecidableEq Image] (io : AsynchronousIOProcessor Request Image)
    (data : Image) : AsynchronousIOProcessor Request Image :=
  { io with completedRequests := io.completedRequests.erase data }

/-- The destructor stops the worker thread. -/
def stop (io : AsynchronousIOProcessor Request Image) : AsynchronousIOProcessor Request Image :=
  { io with stopped := true }

/-! ## Requests that are not registered yet -/

/-- The request in the hands of the worker thread. -/
def inHand (io : AsynchronousIOProcessor Request Image) : List Request :=
  match io.worker with
  | .fetched request => [request]
  | .performed request => [request]
  | _ => []

/-- The requests that are not registered as completed, the oldest first. -/
def unregistered (io : AsynchronousIOProcessor Request Image) : List Request :=
  io.inHand ++ io.queue

/-- The requests whose operations are not executed, the oldest first. -/
def unexecuted (io : AsynchronousIOProcessor Request Image) : List Request :=
  match io.worker with
  | .fetched request => request :: io.queue
  | _ => io.queue

theorem requestIOOperation_of_running {io : AsynchronousIOProcessor Request Image}
    (running : io.stopped = false) (request : Request) :
    io.requestIOOperation request = { io with queue := io.queue ++ [request] } := by
  simp [requestIOOperation, running]

@[simp] theorem requestIOOperation_exception (io : AsynchronousIOProcessor Request Image)
    (request : Request) : (io.requestIOOperation request).exception = io.exception := by
  unfold requestIOOperation
  split_ifs <;> rfl

@[simp] theorem requestIOOperation_completedRequests
    (io : AsynchronousIOProcessor Request Image) (request : Request) :
    (io.requestIOOperation request).completedRequests = io.completedRequests := by
  unfold requestIOOperation
  split_ifs <;> rfl

theorem unregistered_requestIOOperation {io : AsynchronousIOProcessor Request Image}
    (running : io.stopped = false) (request : Request) :
    (io.requestIOOperation request).unregistered = io.unregistered ++ [request] := by
  simp [unregistered, inHand, requestIOOperation, running]

theorem unexecuted_requestIOOperation {io : AsynchronousIOProcessor Request Image}
    (running : io.stopped = false) (request : Request) :
    (io.requestIOOperation request).unexecuted = io.unexecuted ++ [request] := by
  obtain ⟨queue, completed, stopped, exception, worker⟩ := io
  cases worker <;> simp_all [unexecuted, requestIOOperation]

theorem mem_unregistered_of_mem_unexecuted {io : AsynchronousIOProcessor Request Image}
    {request : Request} (member : request ∈ io.unexecuted) : request ∈ io.unregistered := by
  obtain ⟨queue, completed, stopped, exception, worker⟩ := io
  cases worker <;> simp_all [unexecuted, unregistered, inHand]

/-! ## What each section of the worker thread does -/

theorem getRequest_cases {io io' : AsynchronousIOProcessor Request Image}
    (taken : io.getRequest = some io') :
    ∃ request rest, io.worker = .idle ∧ io.stopped = false ∧ io.queue = request :: rest ∧
      io' = { io with worker := .fetched request, queue := rest } := by
  unfold getRequest at taken
  split at taken
  next request rest idle running front =>
    exact ⟨request, rest, idle, running, front, (Option.some.inj taken).symm⟩
  next => cases taken

theorem executeOperation_cases {io io' : AsynchronousIOProcessor Request Image}
    {failure : Option String} (executed : io.executeOperation failure = some io') :
    ∃ request, io.worker = .fetched request ∧
      io' = { io with
        worker := .performed request
        exception := io.exception.or failure } := by
  obtain ⟨queue, completed, stopped, exception, worker⟩ := io
  cases worker with
  | fetched request =>
      refine ⟨request, rfl, ?_⟩
      cases exception <;> cases failure <;>
        simpa [executeOperation, setException] using executed.symm
  | idle => cases executed
  | performed request => cases executed
  | exited => cases executed

theorem registerCompleted_cases [DecidableEq Image] {image : Request → Image}
    {io io' : AsynchronousIOProcessor Request Image}
    (registered : io.registerCompleted image = some io') :
    ∃ request, io.worker = .performed request ∧
      io' = { io with
        completedRequests := insert (image request) io.completedRequests
        worker := .idle } := by
  unfold registerCompleted at registered
  split at registered
  next request performed => exact ⟨request, performed, (Option.some.inj registered).symm⟩
  next => cases registered

theorem exitWorker_cases {io io' : AsynchronousIOProcessor Request Image}
    (left : io.exitWorker = some io') :
    io.stopped = true ∧ io' = { io with worker := .exited } := by
  unfold exitWorker at left
  split at left
  next idle stopped => exact ⟨stopped, (Option.some.inj left).symm⟩
  next fetched stopped => exact ⟨stopped, (Option.some.inj left).symm⟩
  next => cases left

/-! ## Images in flight -/

section InFlight

variable (image : Request → Image)

/-- A request for the image is not registered yet, or its registration was not
consumed. -/
def InFlight (io : AsynchronousIOProcessor Request Image) (data : Image) : Prop :=
  (∃ request ∈ io.unregistered, image request = data) ∨ data ∈ io.completedRequests

variable {image} {io io' : AsynchronousIOProcessor Request Image} {data : Image}

theorem inFlight_requestIOOperation (running : io.stopped = false) (request : Request) :
    (io.requestIOOperation request).InFlight image (image request) := by
  refine Or.inl ⟨request, ?_, rfl⟩
  rw [unregistered_requestIOOperation running]
  exact List.mem_append_right _ List.mem_cons_self

theorem InFlight.requestIOOperation (inFlight : io.InFlight image data)
    (running : io.stopped = false) (request : Request) :
    (io.requestIOOperation request).InFlight image data := by
  rcases inFlight with ⟨other, member, same⟩ | completed
  · refine Or.inl ⟨other, ?_, same⟩
    rw [unregistered_requestIOOperation running]
    exact List.mem_append_left _ member
  · refine Or.inr ?_
    simpa [AsynchronousIOProcessor.requestIOOperation, running] using completed

theorem InFlight.getRequest (inFlight : io.InFlight image data)
    (taken : io.getRequest = some io') : io'.InFlight image data := by
  obtain ⟨request, rest, idle, -, front, rfl⟩ := getRequest_cases taken
  simpa [InFlight, unregistered, inHand, idle, front] using inFlight

theorem InFlight.executeOperation {failure : Option String} (inFlight : io.InFlight image data)
    (executed : io.executeOperation failure = some io') : io'.InFlight image data := by
  obtain ⟨request, fetched, rfl⟩ := executeOperation_cases executed
  simpa [InFlight, unregistered, inHand, fetched] using inFlight

theorem InFlight.registerCompleted [DecidableEq Image] (inFlight : io.InFlight image data)
    (registered : io.registerCompleted image = some io') : io'.InFlight image data := by
  obtain ⟨request, performed, rfl⟩ := registerCompleted_cases registered
  simp only [InFlight, unregistered, inHand, performed, List.cons_append, List.nil_append,
    List.mem_cons, Finset.mem_insert] at inFlight ⊢
  rcases inFlight with ⟨other, rfl | queued, rfl⟩ | completed
  · exact Or.inr (Or.inl rfl)
  · exact Or.inl ⟨other, queued, rfl⟩
  · exact Or.inr (Or.inr completed)

theorem InFlight.releaseBuffer [DecidableEq Image] (inFlight : io.InFlight image data)
    {consumed : Image} (different : data ≠ consumed) :
    (io.releaseBuffer consumed).InFlight image data :=
  inFlight.imp id fun completed => Finset.mem_erase.mpr ⟨different, completed⟩

end InFlight

/-- A worker thread that is not stopped can always take its next step while a
request is not registered. -/
theorem exists_step_of_unregistered [DecidableEq Image] (image : Request → Image)
    {io : AsynchronousIOProcessor Request Image} (running : io.stopped = false)
    (alive : io.worker ≠ .exited) (waiting : io.unregistered ≠ []) :
    io.getRequest.isSome ∨ (io.executeOperation none).isSome ∨
      (io.registerCompleted image).isSome := by
  obtain ⟨queue, completed, stopped, exception, worker⟩ := io
  cases worker with
  | idle =>
      cases queue with
      | nil => exact absurd rfl waiting
      | cons request rest =>
          obtain rfl : stopped = false := running
          exact Or.inl rfl
  | fetched request => exact Or.inr (Or.inl rfl)
  | performed request => exact Or.inr (Or.inr rfl)
  | exited => exact absurd rfl alive

end AsynchronousIOProcessor

end AthabascaRecon
