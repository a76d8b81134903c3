import AthabascaRecon.Foundation.Runs
import AthabascaRecon.IO.AsynchronousIOProcessor
import Mathlib.Data.Finset.Insert
import Mathlib.Logic.Function.Basic

/-!
# Waiting for the release of a buffer

`WaitForBufferRelease` looks for an exception before it locks the mutex under which it
counts the registrations of its image, and looks again only after a notification. The
exception is stored without this mutex. An operation that fails is registered like any other.

The system below has any number of waiting threads, requests from anywhere, and the
worker thread. A failure is taken for a success exactly when an operation fails on an image
that is registered, or is registered after it failed, while a thread that waits for this image
is between a look for an exception and the count that follows it
(`waitForBufferRelease_reports_failures`).
-/

set_option autoImplicit false

namespace AthabascaRecon.WaitForBufferRelease

open Runs

/-- The position of a thread that calls `WaitForBufferRelease`. -/
inductive Waiter (Image : Type) where
  | outside
  /-- There was no exception, and the mutex is not locked yet. -/
  | checked (image : Image)
  /-- The mutex is locked, and the registrations are not counted yet. -/
  | counting (image : Image)
  | sleeping (image : Image) (notified : Bool)
  | returned (image : Image)
  | threw (exception : String)
  deriving DecidableEq

/-- The processor, the threads that wait, and the record of the failures. -/
structure State (Thread Request Image : Type) where
  io : AsynchronousIOProcessor Request Image
  waiters : Thread → Waiter Image
  /-- The waiting thread that has locked `m_CompletedMutex`. -/
  completedMutex : Option Thread
  /-- The images on which an operation threw or was skipped. -/
  failed : Finset Image
  /-- The images for which a call returned although an operation on them had failed. -/
  reportedDone : List Image

inductive Label (Thread Request Image : Type) where
  | request (request : Request)
  | call (thread : Thread) (image : Image)
  | lock (thread : Thread)
  | wake (thread : Thread)
  | count (thread : Thread)
  | fetch
  | execute (failure : Option String)
  | register

variable {Thread Request Image : Type}

def initial : State Thread Request Image where
  io := .initial
  waiters _ := .outside
  completedMutex := none
  failed := ∅
  reportedDone := []

/-- `notify_all` on the completed condition. -/
def Waiter.notify : Waiter Image → Waiter Image
  | .sleeping image _ => .sleeping image true
  | waiter => waiter

def stoppedException : String := "AsynchronousIOProcessor stopped with active request"

/-- The first `CheckException` of a call. -/
def checkException (io : AsynchronousIOProcessor Request Image) (image : Image) : Waiter Image :=
  match io.exception with
  | some exception => .threw exception
  | none => .checked image

/-- Whether the operation that the worker thread holds fails: an earlier one has thrown, or
it throws itself. -/
def Fails (io : AsynchronousIOProcessor Request Image) (failure : Option String) : Prop :=
  io.exception.isSome ∨ failure.isSome

instance (io : AsynchronousIOProcessor Request Image) (failure : Option String) :
    Decidable (Fails io failure) := inferInstanceAs (Decidable (_ ∨ _))

section Step

variable [DecidableEq Thread] [DecidableEq Image]

/-- The position of one thread changes. -/
def State.place (state : State Thread Request Image) (thread : Thread) (waiter : Waiter Image) :
    State Thread Request Image :=
  { state with waiters := Function.update state.waiters thread waiter }

/-- A thread has the mutex, and looks whether the processor is stopped. -/
def lockCompleted (state : State Thread Request Image) (thread : Thread) (image : Image) :
    State Thread Request Image :=
  if state.io.stopped then state.place thread (.threw stoppedException)
  else { state.place thread (.counting image) with completedMutex := some thread }

/-- The condition of the loop of `WaitForBufferRelease`: return when the image is counted, or
else wait. The mutex is unlocked. -/
def countRequests (state : State Thread Request Image) (thread : Thread) (image : Image) :
    State Thread Request Image :=
  if image ∈ state.io.completedRequests then
    { state.place thread (.returned image) with
      completedMutex := none
      io := state.io.releaseBuffer image
      reportedDone :=
        if image ∈ state.failed then state.reportedDone ++ [image] else state.reportedDone }
  else { state.place thread (.sleeping image false) with completedMutex := none }

/-- Keep the record of the failures. -/
def recordFailure (image : Request → Image) (state : State Thread Request Image)
    (failure : Option String) : Finset Image :=
  match state.io.worker with
  | .fetched request =>
      if Fails state.io failure then insert (image request) state.failed else state.failed
  | _ => state.failed

/-- One step of one thread. A thread that locks the mutex finds it unlocked, and keeps it until
it has counted. -/
def step (image : Request → Image) (state : State Thread Request Image) :
    Label Thread Request Image → Option (State Thread Request Image)
  | .request request => some { state with io := state.io.requestIOOperation request }
  | .call thread data =>
      match state.waiters thread with
      | .checked _ => none
      | .counting _ => none
      | .sleeping _ _ => none
      | _ => some (state.place thread (checkException state.io data))
  | .lock thread =>
      match state.waiters thread, state.completedMutex with
      | .checked data, none => some (lockCompleted state thread data)
      | _, _ => none
  | .wake thread =>
      match state.waiters thread, state.completedMutex with
      | .sleeping data true, none =>
          match state.io.stopped, state.io.exception with
          | false, some exception => some (state.place thread (.threw exception))
          | _, _ => some (lockCompleted state thread data)
      | _, _ => none
  | .count thread =>
      match state.waiters thread with
      | .counting data => some (countRequests state thread data)
      | _ => none
  | .fetch => state.io.getRequest.map fun io => { state with io := io }
  | .execute failure =>
      (state.io.executeOperation failure).map fun io =>
        { state with io := io, failed := recordFailure image state failure }
  | .register =>
      match state.completedMutex with
      | none =>
          (state.io.registerCompleted image).map fun io =>
            { state with io := io, waiters := fun thread => (state.waiters thread).notify }
      | some _ => none

/-- A step of a thread that waits. -/
def Label.Waits : Label Thread Request Image → Prop
  | .lock _ => True
  | .wake _ => True
  | .count _ => True
  | _ => False

end Step

/-! ## The condition -/

/-- A thread that waits for the image has looked for an exception, and has not counted yet. -/
def Checked (state : State Thread Request Image) (data : Image) : Prop :=
  ∃ thread, state.waiters thread = .checked data ∨ state.waiters thread = .counting data

/-- No operation fails on an image that is registered from before, and no failed operation
is registered, while a thread is between its look for an exception and its count. -/
def Meets (image : Request → Image) (state : State Thread Request Image) :
    Label Thread Request Image → Prop
  | .execute failure => ∀ request, state.io.worker = .fetched request →
      Fails state.io failure → image request ∈ state.io.completedRequests →
        ¬ Checked state (image request)
  | .register => ∀ request, state.io.worker = .performed request →
      image request ∈ state.failed → ¬ Checked state (image request)
  | _ => True

section Proofs

variable [DecidableEq Thread] [DecidableEq Image]
variable {image : Request → Image} {state next : State Thread Request Image}

/-- What holds after every run. -/
structure Kept (state : State Thread Request Image) : Prop where
  running : state.io.stopped = false
  stored : state.io.exception = none → state.failed = ∅
  locked : ∀ thread, state.completedMutex = some thread ↔
    ∃ data, state.waiters thread = .counting data

/-- What holds after the runs that meet the condition: no thread is about to count an
image on which an operation failed. -/
structure Honest (state : State Thread Request Image) : Prop where
  uncounted : ∀ data, Checked state data → data ∈ state.failed →
    data ∉ state.io.completedRequests
  nothingReported : state.reportedDone = []

/-! ## What a step does -/

/-- A call begins with a look for an exception, of a thread that does not wait. -/
theorem call_cases {thread : Thread} {data : Image}
    (taken : step image state (.call thread data) = some next) :
    (∀ other, state.waiters thread ≠ .counting other) ∧
      next = state.place thread (checkException state.io data) := by
  unfold step at taken
  simp only at taken
  split at taken
  next => cases taken
  next => cases taken
  next => cases taken
  next notChecked notCounting notSleeping =>
    exact ⟨fun other position => notCounting other position, (Option.some.inj taken).symm⟩

theorem lock_cases (running : state.io.stopped = false) {thread : Thread}
    (taken : step image state (.lock thread) = some next) :
    ∃ data, state.waiters thread = .checked data ∧ state.completedMutex = none ∧
      next = { state.place thread (.counting data) with completedMutex := some thread } := by
  unfold step at taken
  simp only [lockCompleted, running] at taken
  split at taken
  next data position unlocked =>
    exact ⟨data, position, unlocked, (Option.some.inj taken).symm⟩
  next => cases taken

/-- A thread that wakes up throws the exception that is stored, or goes on to count. -/
theorem wake_cases (running : state.io.stopped = false) {thread : Thread}
    (taken : step image state (.wake thread) = some next) :
    ∃ data, state.waiters thread = .sleeping data true ∧ state.completedMutex = none ∧
      ((∃ exception, next = state.place thread (.threw exception)) ∨
      (state.io.exception = none ∧
        next = { state.place thread (.counting data) with completedMutex := some thread })) := by
  unfold step at taken
  simp only [lockCompleted, running] at taken
  split at taken
  next data position unlocked =>
    refine ⟨data, position, unlocked, ?_⟩
    cases stored : state.io.exception with
    | some exception =>
        simp only [stored] at taken
        exact Or.inl ⟨exception, (Option.some.inj taken).symm⟩
    | none =>
        simp only [stored] at taken
        exact Or.inr ⟨rfl, (Option.some.inj taken).symm⟩
  next => cases taken

theorem count_cases {thread : Thread} (taken : step image state (.count thread) = some next) :
    ∃ data, state.waiters thread = .counting data ∧ next = countRequests state thread data := by
  unfold step at taken
  simp only at taken
  split at taken
  next data position => exact ⟨data, position, (Option.some.inj taken).symm⟩
  next => cases taken

theorem execute_cases {failure : Option String}
    (taken : step image state (.execute failure) = some next) :
    ∃ request, state.io.worker = .fetched request ∧
      next = { state with
        io := { state.io with
          worker := .performed request
          exception := state.io.exception.or failure }
        failed :=
          if Fails state.io failure then insert (image request) state.failed
          else state.failed } := by
  obtain ⟨io, executed, rfl⟩ := Option.map_eq_some_iff.mp taken
  obtain ⟨request, holding, rfl⟩ := AsynchronousIOProcessor.executeOperation_cases executed
  exact ⟨request, holding, by simp only [recordFailure, holding]⟩

theorem register_cases (taken : step image state .register = some next) :
    state.completedMutex = none ∧ ∃ request, state.io.worker = .performed request ∧
      next = { state with
        io := { state.io with
          completedRequests := insert (image request) state.io.completedRequests
          worker := .idle }
        waiters := fun thread => (state.waiters thread).notify } := by
  unfold step at taken
  simp only at taken
  split at taken
  next unlocked =>
    obtain ⟨io, registered, rfl⟩ := Option.map_eq_some_iff.mp taken
    obtain ⟨request, performed, rfl⟩ :=
      AsynchronousIOProcessor.registerCompleted_cases registered
    exact ⟨unlocked, request, performed, rfl⟩
  next => cases taken

/-! ## What every run keeps -/

omit [DecidableEq Thread] [DecidableEq Image] in
theorem kept_initial : Kept (initial : State Thread Request Image) := by
  refine ⟨rfl, fun _ => rfl, fun thread => ?_⟩
  constructor
  · rintro ⟨⟩
  · rintro ⟨data, ⟨⟩⟩

omit [DecidableEq Image] in
/-- A thread that does not have the mutex, and does not get it, changes its position. -/
theorem Kept.place (kept : Kept state) {thread : Thread} {waiter : Waiter Image}
    (notCounting : ∀ data, state.waiters thread ≠ .counting data)
    (notLocking : ∀ data, waiter ≠ .counting data) : Kept (state.place thread waiter) := by
  refine ⟨kept.running, kept.stored, fun other => ?_⟩
  by_cases same : other = thread
  · subst same
    have before : state.completedMutex ≠ some other := by
      intro locked
      obtain ⟨data, position⟩ := (kept.locked other).mp locked
      exact notCounting data position
    refine iff_of_false before ?_
    rintro ⟨data, position⟩
    exact notLocking data (by simpa [State.place] using position)
  · simpa [State.place, same] using kept.locked other

omit [DecidableEq Image] in
/-- A thread locks the mutex. -/
theorem Kept.locks (kept : Kept state) (thread : Thread) (data : Image)
    (unlocked : state.completedMutex = none) :
    Kept { state.place thread (.counting data) with completedMutex := some thread } := by
  refine ⟨kept.running, kept.stored, fun other => ?_⟩
  by_cases same : other = thread
  · subst same
    exact iff_of_true rfl ⟨data, by simp [State.place]⟩
  · have before : ¬ ∃ data, state.waiters other = .counting data := by
      rw [← kept.locked other, unlocked]
      rintro ⟨⟩
    refine iff_of_false (fun locked => same (Option.some.inj locked).symm) ?_
    simpa [State.place, same] using before

omit [DecidableEq Image] in
/-- The thread that has the mutex unlocks it. -/
theorem Kept.unlocks (kept : Kept state) {thread : Thread} {data : Image} {waiter : Waiter Image}
    (position : state.waiters thread = .counting data)
    (behind : ∀ data, waiter ≠ .counting data) (other : Thread) :
    none = some other ↔ ∃ data, (state.place thread waiter).waiters other = .counting data := by
  refine iff_of_false (by rintro ⟨⟩) ?_
  rintro ⟨later, counting⟩
  by_cases same : other = thread
  · subst same
    exact behind later (by simpa [State.place] using counting)
  · have owner := (kept.locked thread).mpr ⟨data, position⟩
    have also := (kept.locked other).mpr ⟨later, by simpa [State.place, same] using counting⟩
    rw [owner] at also
    exact same (Option.some.inj also).symm

theorem Kept.countRequests (kept : Kept state) {thread : Thread} {data : Image}
    (position : state.waiters thread = .counting data) :
    Kept (countRequests state thread data) := by
  unfold WaitForBufferRelease.countRequests
  by_cases counted : data ∈ state.io.completedRequests
  · rw [if_pos counted]
    exact ⟨kept.running, kept.stored, kept.unlocks position (by simp)⟩
  · rw [if_neg counted]
    exact ⟨kept.running, kept.stored, kept.unlocks position (by simp)⟩

omit [DecidableEq Image] in
/-- A notification lets no thread begin to wait, and gives none the mutex. -/
theorem notify_eq_iff {waiter : Waiter Image} {data : Image} :
    (waiter.notify = .checked data ↔ waiter = .checked data) ∧
      (waiter.notify = .counting data ↔ waiter = .counting data) := by
  cases waiter with
  | sleeping image notified => simp [Waiter.notify]
  | checked image => exact ⟨Iff.rfl, Iff.rfl⟩
  | counting image => exact ⟨Iff.rfl, Iff.rfl⟩
  | outside => exact ⟨Iff.rfl, Iff.rfl⟩
  | returned image => exact ⟨Iff.rfl, Iff.rfl⟩
  | threw exception => exact ⟨Iff.rfl, Iff.rfl⟩

theorem Kept.step {label : Label Thread Request Image} (kept : Kept state)
    (taken : step image state label = some next) : Kept next := by
  cases label with
  | request request =>
      obtain rfl := (Option.some.inj taken).symm
      rw [AsynchronousIOProcessor.requestIOOperation_of_running kept.running]
      exact ⟨kept.running, kept.stored, kept.locked⟩
  | call thread data =>
      obtain ⟨notCounting, rfl⟩ := call_cases taken
      refine kept.place notCounting fun other => ?_
      unfold checkException
      split <;> simp
  | lock thread =>
      obtain ⟨data, -, unlocked, rfl⟩ := lock_cases kept.running taken
      exact kept.locks thread data unlocked
  | wake thread =>
      obtain ⟨data, position, unlocked, ⟨exception, rfl⟩ | ⟨-, rfl⟩⟩ :=
        wake_cases kept.running taken
      · exact kept.place (by simp [position]) (by simp)
      · exact kept.locks thread data unlocked
  | count thread =>
      obtain ⟨data, position, rfl⟩ := count_cases taken
      exact kept.countRequests position
  | fetch =>
      obtain ⟨io, fetched, rfl⟩ := Option.map_eq_some_iff.mp taken
      obtain ⟨request, rest, -, running, -, rfl⟩ :=
        AsynchronousIOProcessor.getRequest_cases fetched
      exact ⟨running, kept.stored, kept.locked⟩
  | execute failure =>
      obtain ⟨request, -, rfl⟩ := execute_cases taken
      refine ⟨kept.running, fun none => ?_, kept.locked⟩
      obtain ⟨noException, noFailure⟩ := Option.or_eq_none_iff.mp none
      have succeeds : ¬ Fails state.io failure := by simp [Fails, noException, noFailure]
      rw [if_neg succeeds]
      exact kept.stored noException
  | register =>
      obtain ⟨-, request, -, rfl⟩ := register_cases taken
      refine ⟨kept.running, kept.stored, fun thread => ?_⟩
      simp only [notify_eq_iff]
      exact kept.locked thread

/-! ## What the condition keeps -/

omit [DecidableEq Thread] [DecidableEq Image] in
theorem honest_initial : Honest (initial : State Thread Request Image) := by
  refine ⟨?_, rfl⟩
  rintro data ⟨thread, checked | counting⟩
  · cases checked
  · cases counting

omit [DecidableEq Image] in
theorem checked_place {thread : Thread} {waiter : Waiter Image} {data : Image}
    (checked : Checked (state.place thread waiter) data) :
    waiter = .checked data ∨ waiter = .counting data ∨ Checked state data := by
  obtain ⟨other, position⟩ := checked
  by_cases same : other = thread
  · subst same
    rcases position with begun | locked
    · exact Or.inl (by simpa [State.place] using begun)
    · exact Or.inr (Or.inl (by simpa [State.place] using locked))
  · exact Or.inr (Or.inr ⟨other, by simpa [State.place, same] using position⟩)

omit [DecidableEq Image] in
/-- A thread that is placed where it waits for no failed image changes nothing. -/
theorem Honest.place (honest : Honest state) {thread : Thread} {waiter : Waiter Image}
    (mutex : Option Thread)
    (unfailed : ∀ data, waiter = .checked data ∨ waiter = .counting data →
      data ∈ state.failed → data ∉ state.io.completedRequests) :
    Honest { state.place thread waiter with completedMutex := mutex } := by
  refine ⟨?_, honest.nothingReported⟩
  intro data checked failed
  rcases checked_place checked with begun | locked | before
  · exact unfailed data (.inl begun) failed
  · exact unfailed data (.inr locked) failed
  · exact honest.uncounted data before failed

/-- Nothing is reported when no operation on a counted image failed. -/
theorem Honest.countRequests (honest : Honest state) {thread : Thread} {data : Image}
    (position : state.waiters thread = .counting data) :
    Honest (countRequests state thread data) := by
  have unfailed : data ∈ state.io.completedRequests → data ∉ state.failed := by
    intro registered failed
    exact honest.uncounted data ⟨thread, .inr position⟩ failed registered
  unfold WaitForBufferRelease.countRequests
  by_cases counted : data ∈ state.io.completedRequests
  · rw [if_pos counted, if_neg (unfailed counted)]
    refine ⟨?_, honest.nothingReported⟩
    intro other checked failed registered
    rcases checked_place checked with begun | locked | before
    · cases begun
    · cases locked
    · exact honest.uncounted other before failed (Finset.mem_of_mem_erase registered)
  · rw [if_neg counted]
    exact honest.place none (by simp)

theorem Honest.step {label : Label Thread Request Image} (kept : Kept state)
    (honest : Honest state) (meets : Meets image state label)
    (taken : step image state label = some next) : Honest next := by
  cases label with
  | request request =>
      obtain rfl := (Option.some.inj taken).symm
      rw [AsynchronousIOProcessor.requestIOOperation_of_running kept.running]
      exact ⟨honest.uncounted, honest.nothingReported⟩
  | call thread data =>
      obtain ⟨-, rfl⟩ := call_cases taken
      refine honest.place state.completedMutex fun other position failed => ?_
      unfold checkException at position
      split at position
      next => simp at position
      next none =>
        rw [kept.stored none] at failed
        exact absurd failed (Finset.notMem_empty _)
  | lock thread =>
      obtain ⟨data, position, -, rfl⟩ := lock_cases kept.running taken
      refine honest.place _ fun other locked failed => ?_
      obtain rfl : data = other := by simpa using locked
      exact honest.uncounted data ⟨thread, .inl position⟩ failed
  | wake thread =>
      obtain ⟨data, -, -, ⟨exception, rfl⟩ | ⟨none, rfl⟩⟩ := wake_cases kept.running taken
      · exact honest.place state.completedMutex (by simp)
      · refine honest.place _ fun other _ failed => ?_
        rw [kept.stored none] at failed
        exact absurd failed (Finset.notMem_empty _)
  | count thread =>
      obtain ⟨data, position, rfl⟩ := count_cases taken
      exact honest.countRequests position
  | fetch =>
      obtain ⟨io, fetched, rfl⟩ := Option.map_eq_some_iff.mp taken
      obtain ⟨request, rest, -, -, -, rfl⟩ := AsynchronousIOProcessor.getRequest_cases fetched
      exact ⟨honest.uncounted, honest.nothingReported⟩
  | execute failure =>
      obtain ⟨request, holding, rfl⟩ := execute_cases taken
      refine ⟨?_, honest.nothingReported⟩
      intro data checked failed registered
      by_cases fails : Fails state.io failure
      · simp only [if_pos fails] at failed
        rcases Finset.mem_insert.mp failed with rfl | before
        · exact meets request holding fails registered checked
        · exact honest.uncounted data checked before registered
      · simp only [if_neg fails] at failed
        exact honest.uncounted data checked failed registered
  | register =>
      obtain ⟨-, request, performed, rfl⟩ := register_cases taken
      refine ⟨?_, honest.nothingReported⟩
      rintro data ⟨thread, position⟩ failed member
      have checked : Checked state data := by
        simp only [notify_eq_iff] at position
        exact ⟨thread, position⟩
      rcases Finset.mem_insert.mp member with rfl | registered
      · exact meets request performed failed checked
      · exact honest.uncounted data checked failed registered

/-! ## A step that does not meet the condition -/

/-- Steps of waiting threads lead to a report. -/
def Reports (image : Request → Image) (state : State Thread Request Image) : Prop :=
  ∃ waiting reported, (∀ label ∈ waiting, Label.Waits label) ∧
    run (step image) state waiting = some reported ∧ reported.reportedDone ≠ []

/-- A thread that counts a failed image reports it. -/
theorem reports_of_counting {thread : Thread} {data : Image}
    (position : state.waiters thread = .counting data) (failed : data ∈ state.failed)
    (registered : data ∈ state.io.completedRequests) : Reports image state := by
  refine ⟨[.count thread], countRequests state thread data, by simp [Label.Waits], ?_, ?_⟩
  · exact run_cons_iff.mpr ⟨_, by simp [WaitForBufferRelease.step, position], rfl⟩
  · simp [WaitForBufferRelease.countRequests, registered, failed]

theorem Reports.after (label : Label Thread Request Image) (waits : label.Waits)
    (taken : step image state label = some next) (reports : Reports image next) :
    Reports image state := by
  obtain ⟨waiting, reported, only, reached, report⟩ := reports
  refine ⟨label :: waiting, reported, ?_, run_cons_iff.mpr ⟨next, taken, reached⟩, report⟩
  intro other member
  rcases List.mem_cons.mp member with rfl | later
  · exact waits
  · exact only other later

/-- A thread that gets the mutex goes on to count. -/
theorem reports_of_unlocked (kept : Kept state) {thread : Thread} {data : Image}
    (position : state.waiters thread = .checked data) (unlocked : state.completedMutex = none)
    (failed : data ∈ state.failed) (registered : data ∈ state.io.completedRequests) :
    Reports image state := by
  have locks : step image state (.lock thread) =
      some { state.place thread (.counting data) with completedMutex := some thread } := by
    simp [WaitForBufferRelease.step, lockCompleted, position, unlocked, kept.running]
  have counting : (state.place thread (.counting data)).waiters thread = .counting data := by
    simp [State.place]
  exact Reports.after (.lock thread) trivial locks
    (reports_of_counting counting failed registered)

/-- A thread waits for the mutex until the one that has it has counted. -/
theorem reports_of_checked (kept : Kept state) {data : Image} (checked : Checked state data)
    (failed : data ∈ state.failed) (registered : data ∈ state.io.completedRequests) :
    Reports image state := by
  obtain ⟨thread, position | position⟩ := checked
  · cases mutex : state.completedMutex with
    | none => exact reports_of_unlocked kept position mutex failed registered
    | some owner =>
        obtain ⟨other, counting⟩ := (kept.locked owner).mp mutex
        by_cases same : other = data
        · subst same
          exact reports_of_counting counting failed registered
        · have different : thread ≠ owner := by
            rintro rfl
            rw [position] at counting
            cases counting
          have counts : step image state (.count owner) =
              some (countRequests state owner other) := by
            simp [WaitForBufferRelease.step, counting]
          refine Reports.after (.count owner) trivial counts ?_
          have stays {waiter : Waiter Image} :
              (state.place owner waiter).waiters thread = .checked data := by
            simpa [State.place, different] using position
          have kept' := kept.countRequests counting
          unfold WaitForBufferRelease.countRequests at kept' ⊢
          by_cases counted : other ∈ state.io.completedRequests
          · rw [if_pos counted] at kept' ⊢
            exact reports_of_unlocked kept' stays rfl failed
              (Finset.mem_erase.mpr ⟨Ne.symm same, registered⟩)
          · rw [if_neg counted] at kept' ⊢
            exact reports_of_unlocked kept' stays rfl failed registered
  · exact reports_of_counting position failed registered

/-- The next steps of the threads that wait report the failure. -/
theorem reports_of_not_meets (kept : Kept state) {label : Label Thread Request Image}
    (violated : ¬ Meets image state label) (taken : step image state label = some next) :
    Reports image next := by
  have kept' := kept.step taken
  cases label with
  | execute failure =>
      obtain ⟨request, holding, rfl⟩ := execute_cases taken
      simp only [Meets, not_forall, not_not] at violated
      obtain ⟨other, same, fails, registered, checked⟩ := violated
      obtain rfl : request = other := by
        rw [holding] at same
        exact IOWorker.fetched.inj same
      refine reports_of_checked kept' checked ?_ registered
      simp only [if_pos fails]
      exact Finset.mem_insert_self _ _
  | register =>
      obtain ⟨-, request, performed, rfl⟩ := register_cases taken
      simp only [Meets, not_forall, not_not] at violated
      obtain ⟨other, same, failed, thread, position⟩ := violated
      obtain rfl : request = other := by
        rw [performed] at same
        exact IOWorker.performed.inj same
      refine reports_of_checked kept' ⟨thread, ?_⟩ failed (Finset.mem_insert_self _ _)
      simpa only [notify_eq_iff] using position
  | request request => exact absurd trivial violated
  | call thread data => exact absurd trivial violated
  | lock thread => exact absurd trivial violated
  | wake thread => exact absurd trivial violated
  | count thread => exact absurd trivial violated
  | fetch => exact absurd trivial violated

/-- **A failure is never reported as done in the runs that meet the condition, and every
other run has a first part that some steps of waiting threads continue to such a report.** -/
theorem waitForBufferRelease_reports_failures
    {schedule : List (Label Thread Request Image)} {final : State Thread Request Image}
    (taken : run (step image) initial schedule = some final) :
    (Guarded (step image) (Meets image) initial schedule → final.reportedDone = []) ∧
      (¬ Guarded (step image) (Meets image) initial schedule →
        ∃ before label after waiting reported, schedule = before ++ label :: after ∧
          (∀ later ∈ waiting, Label.Waits later) ∧
          run (step image) initial (before ++ label :: waiting) = some reported ∧
            reported.reportedDone ≠ []) := by
  constructor
  · intro guarded
    have preserved : ∀ (state : State Thread Request Image) label next,
        (Kept state ∧ Honest state) → Meets image state label →
          step image state label = some next → Kept next ∧ Honest next := by
      intro state label next holds meets moved
      exact ⟨holds.1.step moved, holds.2.step holds.1 meets moved⟩
    have holds := invariant_guardedRun preserved ⟨kept_initial, honest_initial⟩ guarded taken
    exact holds.2.nothingReported
  · intro unguarded
    obtain ⟨before, label, after, middle, next, split, reached, -, moved, violated⟩ :=
      exists_unmet_step taken unguarded
    have kept : Kept middle :=
      invariant_run (fun state label next (kept : Kept state) moved => kept.step moved)
        kept_initial reached
    obtain ⟨waiting, reported, only, counted, report⟩ := reports_of_not_meets kept violated moved
    refine ⟨before, label, after, waiting, reported, split, only, ?_, report⟩
    exact run_append_iff.mpr ⟨middle, reached, run_cons_iff.mpr ⟨next, moved, counted⟩⟩

end Proofs

/-- The operation fails between the look for an exception and the lock. -/
def failsUnseen : List (Label Unit ℕ ℕ) :=
  [.request 0, .call () 0, .fetch, .execute (some "Error"), .register, .lock (), .count ()]

/-- The call returns although the operation on its image threw. -/
theorem failsUnseen_reportedDone : ∃ state : State Unit ℕ ℕ,
    run (step id) initial failsUnseen = some state ∧
      state.waiters () = .returned 0 ∧ state.reportedDone = [0] :=
  ⟨_, rfl, rfl, rfl⟩

/-- The operation fails while the thread sleeps. -/
def failsSeen : List (Label Unit ℕ ℕ) :=
  [.request 0, .call () 0, .lock (), .count (), .fetch, .execute (some "Error"), .register,
    .wake ()]

theorem failsSeen_reportedDone : ∃ state : State Unit ℕ ℕ,
    run (step id) initial failsSeen = some state ∧ state.waiters () = .threw "Error" ∧
      state.reportedDone = [] := by
  obtain ⟨state, taken, threw⟩ : ∃ state : State Unit ℕ ℕ,
      run (step id) initial failsSeen = some state ∧ state.waiters () = .threw "Error" :=
    ⟨_, rfl, rfl⟩
  refine ⟨state, taken, threw, (waitForBufferRelease_reports_failures taken).1 ?_⟩
  refine (guarded_cons_iff rfl).mpr ⟨trivial, (guarded_cons_iff rfl).mpr ⟨trivial,
    (guarded_cons_iff rfl).mpr ⟨trivial, (guarded_cons_iff rfl).mpr ⟨trivial,
    (guarded_cons_iff rfl).mpr ⟨trivial, (guarded_cons_iff rfl).mpr ⟨?_,
    (guarded_cons_iff rfl).mpr ⟨?_, (guarded_cons_iff rfl).mpr ⟨trivial, trivial⟩⟩⟩⟩⟩⟩⟩⟩
  · intro request holding fails registered
    exact absurd registered (Finset.notMem_empty _)
  · rintro request performed failed ⟨thread, checked | counting⟩
    · cases checked
    · cases counting

end AthabascaRecon.WaitForBufferRelease
