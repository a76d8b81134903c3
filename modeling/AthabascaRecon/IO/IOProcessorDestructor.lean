import AthabascaRecon.Foundation.Runs

/-!
# The destructor of the asynchronous IO processor

The destructor sets `m_Stopped` and notifies the conditions without the mutex under which
the worker thread tests the flag and begins to wait. So it may set the flag and notify
between the test and the wait.

The system below has the worker thread, requests from anywhere, and the destructor. The
mutex keeps requests apart from the sections of the worker thread, but not the destructor.
The destructor joins a worker thread that sleeps for good exactly when it notifies while
the worker thread has seen neither the flag nor a request and does not sleep yet
(`destructor_joins_sleeping`).
-/

set_option autoImplicit false

namespace AthabascaRecon.IOProcessorDestructor

open Runs

/-- The position of the worker thread. -/
inductive Worker (Request : Type) where
  /-- Before the test of `m_Stopped` in `StartIOWorker`. -/
  | looping
  /-- In `GetRequest`, before the mutex is locked and `m_Stopped` tested. -/
  | entering
  /-- The mutex is locked, and `m_Stopped` was found not set. -/
  | unstopped
  | sleeping (notified : Bool)
  /-- Behind `GetRequest`, with a request or with the dummy value. -/
  | fetched (request : Option Request)
  | executing (request : Request)
  | exited
  deriving DecidableEq

/-- The position of the thread that runs the destructor. -/
inductive Destructor where
  | outside
  | flagged
  | requestNotified
  | joining
  | joined
  deriving DecidableEq

structure State (Request : Type) where
  queue : List Request
  stopped : Bool
  worker : Worker Request
  destructor : Destructor
  /-- The notifications of requests that were queued. -/
  pendingNotifications : ℕ

inductive Label (Request : Type) where
  | worker
  | request (request : Request)
  | notify
  | destructor

variable {Request : Type}

def initial : State Request where
  queue := []
  stopped := false
  worker := .looping
  destructor := .outside
  pendingNotifications := 0

/-- `m_RequestCondition.notify_all` wakes a worker thread that sleeps already. -/
def Worker.notify : Worker Request → Worker Request
  | .sleeping _ => .sleeping true
  | worker => worker

/-- The next step of the worker thread. Beginning to sleep unlocks the mutex. -/
def stepWorker (state : State Request) : Option (State Request) :=
  match state.worker with
  | .looping => some { state with worker := if state.stopped then .exited else .entering }
  | .entering =>
      some { state with worker := if state.stopped then .fetched none else .unstopped }
  | .unstopped =>
      match state.queue with
      | request :: rest => some { state with worker := .fetched (some request), queue := rest }
      | [] => some { state with worker := .sleeping false }
  | .sleeping true => some { state with worker := .entering }
  | .sleeping false => none
  | .fetched (some request) =>
      some { state with worker := if state.stopped then .exited else .executing request }
  -- the dummy value is returned only when the processor is stopped
  | .fetched none => some { state with worker := .exited }
  | .executing _ => some { state with worker := .looping }
  | .exited => none

/-- The next step of the destructor. -/
def stepDestructor (state : State Request) : Option (State Request) :=
  match state.destructor with
  | .outside => some { state with stopped := true, destructor := .flagged }
  | .flagged =>
      some { state with worker := state.worker.notify, destructor := .requestNotified }
  | .requestNotified => some { state with destructor := .joining }
  | .joining =>
      match state.worker with
      | .exited => some { state with destructor := .joined }
      | _ => none
  | .joined => none

/-- `RequestIOOperation` up to its notification. It waits while the worker thread has locked
the mutex. -/
def requestIOOperation (state : State Request) (request : Request) : Option (State Request) :=
  match state.worker with
  | .unstopped => none
  | _ =>
      if state.stopped then some state
      else some { state with
        queue := state.queue ++ [request]
        pendingNotifications := state.pendingNotifications + 1 }

def step (state : State Request) : Label Request → Option (State Request)
  | .worker => stepWorker state
  | .request request => requestIOOperation state request
  | .notify =>
      match state.pendingNotifications with
      | 0 => none
      | pending + 1 =>
          some { state with worker := state.worker.notify, pendingNotifications := pending }
  | .destructor => stepDestructor state

/-- The destructor is past its notifications and joins a worker thread that sleeps. -/
def Hangs (state : State Request) : Prop :=
  state.stopped = true ∧ state.destructor = .joining ∧ state.worker = .sleeping false

/-- The worker thread has found the flag not set and no request, and does not sleep yet. -/
def AboutToSleep (state : State Request) : Prop :=
  state.worker = .unstopped ∧ state.queue = []

/-- The destructor does not notify a worker thread that is about to sleep. -/
def Meets (state : State Request) : Label Request → Prop
  | .destructor => state.destructor = .flagged → ¬ AboutToSleep state
  | _ => True

/-! ## What a step does -/

variable {state next : State Request}

theorem request_cases {request : Request} (taken : step state (.request request) = some next) :
    next = state ∨ (state.stopped = false ∧ state.worker ≠ .unstopped ∧
      next = { state with
        queue := state.queue ++ [request]
        pendingNotifications := state.pendingNotifications + 1 }) := by
  simp only [step, requestIOOperation] at taken
  split at taken
  next => cases taken
  next unlocked =>
    split_ifs at taken with stopped
    · exact Or.inl (Option.some.inj taken).symm
    · exact Or.inr ⟨by simpa using stopped, fun locked => unlocked locked,
        (Option.some.inj taken).symm⟩

theorem notify_cases (taken : step state .notify = some next) :
    ∃ pending, next =
      { state with worker := state.worker.notify, pendingNotifications := pending } := by
  simp only [step] at taken
  split at taken
  next => cases taken
  next pending _ => exact ⟨pending, (Option.some.inj taken).symm⟩

theorem destructor_cases (taken : step state .destructor = some next) :
    (state.destructor = .outside ∧ next = { state with stopped := true, destructor := .flagged }) ∨
      (state.destructor = .flagged ∧
        next = { state with worker := state.worker.notify, destructor := .requestNotified }) ∨
      (state.destructor = .requestNotified ∧ next = { state with destructor := .joining }) ∨
      (state.destructor = .joining ∧ next = { state with destructor := .joined }) := by
  simp only [step, stepDestructor] at taken
  split at taken
  next position => exact Or.inl ⟨position, (Option.some.inj taken).symm⟩
  next position => exact Or.inr (Or.inl ⟨position, (Option.some.inj taken).symm⟩)
  next position => exact Or.inr (Or.inr (Or.inl ⟨position, (Option.some.inj taken).symm⟩))
  next position =>
    split at taken
    next => exact Or.inr (Or.inr (Or.inr ⟨position, (Option.some.inj taken).symm⟩))
    next => cases taken
  next => cases taken

theorem worker_frame (taken : step state .worker = some next) :
    next.stopped = state.stopped ∧ next.destructor = state.destructor := by
  simp only [step, stepWorker] at taken
  split at taken
  case h_3 =>
    split at taken <;>
      (obtain rfl := (Option.some.inj taken).symm
       exact ⟨rfl, rfl⟩)
  case h_5 | h_9 => cases taken
  all_goals
    obtain rfl := (Option.some.inj taken).symm
    exact ⟨rfl, rfl⟩

/-- The flag is set before anything else. -/
def FlagSet (state : State Request) : Prop :=
  state.destructor ≠ .outside → state.stopped = true

theorem FlagSet.step {label : Label Request} (flagSet : FlagSet state)
    (taken : step state label = some next) : FlagSet next := by
  cases label with
  | worker =>
      obtain ⟨sameFlag, samePosition⟩ := worker_frame taken
      rwa [FlagSet, sameFlag, samePosition]
  | request request =>
      rcases request_cases taken with rfl | ⟨-, -, rfl⟩
      · exact flagSet
      · exact flagSet
  | notify =>
      obtain ⟨pending, rfl⟩ := notify_cases taken
      exact flagSet
  | destructor =>
      rcases destructor_cases taken with ⟨-, rfl⟩ | ⟨position, rfl⟩ | ⟨position, rfl⟩ |
        ⟨position, rfl⟩
      · exact fun _ => rfl
      all_goals exact fun _ => flagSet (by simp [position])

/-- The destructor has notified the request condition. -/
def Notified (state : State Request) : Prop :=
  state.destructor = .requestNotified ∨ state.destructor = .joining ∨ state.destructor = .joined

theorem Notified.stopped (notified : Notified state) (flagSet : FlagSet state) :
    state.stopped = true := by
  refine flagSet ?_
  rcases notified with position | position | position <;> simp [position]

/-- Once the destructor has notified, the worker thread neither sleeps nor is about to. -/
def Awake (state : State Request) : Prop :=
  Notified state → state.worker ≠ .sleeping false ∧ ¬ AboutToSleep state

theorem notify_ne_sleeping (worker : Worker Request) : worker.notify ≠ .sleeping false := by
  cases worker <;> simp [Worker.notify]

theorem notify_eq_unstopped {worker : Worker Request} (locked : worker.notify = .unstopped) :
    worker = .unstopped := by
  cases worker <;> simp_all [Worker.notify]

theorem awake_of_position {state : State Request} (notSleeping : state.worker ≠ .sleeping false)
    (notLocked : state.worker ≠ .unstopped) : Awake state :=
  fun _ => ⟨notSleeping, fun about => notLocked about.1⟩

theorem Awake.stepWorker (flagSet : FlagSet state) (awake : Awake state)
    (taken : step state .worker = some next) : Awake next := by
  simp only [step, IOProcessorDestructor.stepWorker] at taken
  split at taken
  next =>
    obtain rfl := (Option.some.inj taken).symm
    apply awake_of_position <;> (simp only; split_ifs <;> simp)
  next =>
    -- behind the notification the flag is seen
    obtain rfl := (Option.some.inj taken).symm
    intro notified
    have before : Notified state := notified
    simp [before.stopped flagSet, AboutToSleep]
  next position =>
    split at taken
    next request rest _ =>
      obtain rfl := (Option.some.inj taken).symm
      exact awake_of_position (by simp) (by simp)
    next empty =>
      obtain rfl := (Option.some.inj taken).symm
      intro notified
      have before : Notified state := notified
      exact absurd ⟨position, empty⟩ (awake before).2
  next =>
    obtain rfl := (Option.some.inj taken).symm
    exact awake_of_position (by simp) (by simp)
  next => cases taken
  next =>
    obtain rfl := (Option.some.inj taken).symm
    apply awake_of_position <;> (simp only; split_ifs <;> simp)
  next =>
    obtain rfl := (Option.some.inj taken).symm
    exact awake_of_position (by simp) (by simp)
  next =>
    obtain rfl := (Option.some.inj taken).symm
    exact awake_of_position (by simp) (by simp)
  next => cases taken

theorem Awake.step {label : Label Request} (flagSet : FlagSet state) (awake : Awake state)
    (meets : Meets state label) (taken : step state label = some next) : Awake next := by
  cases label with
  | worker => exact awake.stepWorker flagSet taken
  | request request =>
      rcases request_cases taken with rfl | ⟨running, -, rfl⟩
      · exact awake
      · intro notified
        have before : Notified state := notified
        simp [before.stopped flagSet] at running
  | notify =>
      obtain ⟨pending, rfl⟩ := notify_cases taken
      intro notified
      have before : Notified state := notified
      refine ⟨notify_ne_sleeping _, ?_⟩
      rintro ⟨locked, empty⟩
      exact (awake before).2 ⟨notify_eq_unstopped locked, empty⟩
  | destructor =>
      rcases destructor_cases taken with ⟨-, rfl⟩ | ⟨position, rfl⟩ | ⟨position, rfl⟩ |
        ⟨position, rfl⟩
      · rintro (early | early | early) <;> cases early
      · intro _
        refine ⟨notify_ne_sleeping _, ?_⟩
        rintro ⟨locked, empty⟩
        exact meets position ⟨notify_eq_unstopped locked, empty⟩
      · exact fun _ => awake (Or.inl position)
      · exact fun _ => awake (Or.inr (Or.inl position))

/-! ## A worker thread that sleeps for good -/

/-- After a notification that the worker thread does not notice, it begins to sleep. -/
theorem hangs_of_not_meets (flagSet : FlagSet state) {label : Label Request}
    (violated : ¬ Meets state label) (taken : step state label = some next) :
    ∃ hung, run step next [.destructor, .worker] = some hung ∧ Hangs hung := by
  cases label with
  | destructor =>
      simp only [Meets, not_forall, not_not] at violated
      obtain ⟨position, locked, empty⟩ := violated
      have stopped := flagSet (by simp [position])
      have moved : next = { state with
          worker := .unstopped, destructor := .requestNotified } := by
        rcases destructor_cases taken with ⟨other, -⟩ | ⟨-, moved⟩ | ⟨other, -⟩ | ⟨other, -⟩
        · simp [position] at other
        · rw [moved, locked]
          rfl
        · simp [position] at other
        · simp [position] at other
      refine ⟨{ state with worker := .sleeping false, destructor := .joining }, ?_, ?_⟩
      · simp [moved, run, step, stepDestructor, IOProcessorDestructor.stepWorker, empty]
      · exact ⟨stopped, rfl, rfl⟩
  | worker => exact absurd trivial violated
  | request request => exact absurd trivial violated
  | notify => exact absurd trivial violated

/-- **The destructor never joins a sleeping worker thread in the runs that meet the
condition, and every other run has a first part that two steps continue to that.** -/
theorem destructor_joins_sleeping {schedule : List (Label Request)} {final : State Request}
    (taken : run step initial schedule = some final) :
    (Guarded step Meets initial schedule → ¬ Hangs final) ∧
      (¬ Guarded step Meets initial schedule →
        ∃ before label after hung, schedule = before ++ label :: after ∧
          run step initial (before ++ [label, .destructor, .worker]) = some hung ∧
            Hangs hung) := by
  have flagInitial : FlagSet (initial : State Request) := fun other => absurd rfl other
  constructor
  · rintro guarded ⟨-, joining, sleeping⟩
    have awakeInitial : Awake (initial : State Request) := by
      rintro (early | early | early) <;> cases early
    have preserved : ∀ (state : State Request) label next, FlagSet state ∧ Awake state →
        Meets state label → step state label = some next → FlagSet next ∧ Awake next := by
      intro state label next holds meets moved
      exact ⟨holds.1.step moved, holds.2.step holds.1 meets moved⟩
    have holds := invariant_guardedRun preserved ⟨flagInitial, awakeInitial⟩ guarded taken
    exact (holds.2 (Or.inr (Or.inl joining))).1 sleeping
  · intro unguarded
    obtain ⟨before, label, after, middle, next, split, reached, -, moved, violated⟩ :=
      exists_unmet_step taken unguarded
    have flagSet : FlagSet middle :=
      invariant_run (fun state label next (flagSet : FlagSet state) moved => flagSet.step moved)
        flagInitial reached
    obtain ⟨hung, continued, hangs⟩ := hangs_of_not_meets flagSet violated moved
    refine ⟨before, label, after, hung, split, ?_, hangs⟩
    exact run_append_iff.mpr ⟨middle, reached, run_cons_iff.mpr ⟨next, moved, continued⟩⟩

/-- The destructor sets the flag and notifies between the test of the worker thread and its
sleep. -/
def notifiedTooEarly : List (Label ℕ) :=
  [.worker, .worker, .destructor, .destructor, .destructor, .worker]

theorem notifiedTooEarly_hangs :
    ∃ state : State ℕ, run step initial notifiedTooEarly = some state ∧ Hangs state :=
  ⟨_, rfl, rfl, rfl, rfl⟩

/-- The destructor notifies a worker thread that sleeps. -/
def notifiedAsleep : List (Label ℕ) :=
  [.worker, .worker, .worker, .destructor, .destructor, .destructor]

theorem notifiedAsleep_not_hangs :
    ∃ state : State ℕ, run step initial notifiedAsleep = some state ∧ ¬ Hangs state := by
  obtain ⟨state, taken⟩ : ∃ state : State ℕ, run step initial notifiedAsleep = some state :=
    ⟨_, rfl⟩
  refine ⟨state, taken, (destructor_joins_sleeping taken).1 ?_⟩
  refine (guarded_cons_iff rfl).mpr ⟨trivial, (guarded_cons_iff rfl).mpr ⟨trivial,
    (guarded_cons_iff rfl).mpr ⟨trivial, (guarded_cons_iff rfl).mpr ⟨?_,
    (guarded_cons_iff rfl).mpr ⟨?_, (guarded_cons_iff rfl).mpr ⟨?_, trivial⟩⟩⟩⟩⟩⟩
  · intro early
    cases early
  · rintro - ⟨locked, -⟩
    cases locked
  · intro late
    cases late

end AthabascaRecon.IOProcessorDestructor
