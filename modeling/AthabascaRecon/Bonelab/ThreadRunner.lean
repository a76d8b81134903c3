import AthabascaRecon.Foundation.Runs

/-!
# Stopping a worker thread

`ThreadRunner` has a queue that its thread deletes when it leaves `Run`. `Stop` sets a
flag, which is enough for the thread to leave, then looks whether there is a queue, and
then pushes a blank message to wake the thread up.

The system below has the thread that executes `Run`, and the control thread that sets
messages and stops. Nothing but the mutex of the queue keeps them apart, and the notification
behind a push is outside it. The blank message goes to a queue that is there, and is executed
or disposed of once, exactly when the deletion of the queue does not begin between the look and
the push, the queue is not gone before the notification, and the look does not fall between the
beginning of the deletion and the assignment of `NULL` (`stop_wakes_run`).
-/

set_option autoImplicit false

namespace AthabascaRecon.ThreadRunner

open Runs

/-- The messages of a queue, with the blank one of `Stop`. -/
inductive Message (Msg : Type) where
  | blank
  | message (msg : Msg)
  deriving DecidableEq

structure MessageQueue (Msg : Type) where
  messages : List (Message Msg)
  stopped : Bool

/-- The position of the thread in `Run` and in the destructor of the queue. -/
inductive Runner (Msg : Type) where
  /-- Before the test of `m_Stopped`. -/
  | testing
  /-- In `GetMessage`, before the mutex is locked. -/
  | getting
  | sleeping (notified : Bool)
  | executing (msg : Message Msg)
  /-- `GetMessage` gave no message. -/
  | gotNull
  /-- The loop is left, and the queue not touched yet. -/
  | leaving
  /-- In the destructor of the queue, which does not take messages any more. -/
  | discarding
  /-- The queue is gone, and the pointer to it not `NULL` yet. -/
  | clearing
  | finished
  deriving DecidableEq

/-- The position of the control thread. -/
inductive Control (Msg : Type) where
  | outside
  /-- In `SetMessage`, before the test of the pointer. -/
  | setting (msg : Message Msg)
  /-- The pointer was found not `NULL`. -/
  | pushing (msg : Message Msg)
  /-- The message is pushed, and the mutex of the queue unlocked. -/
  | notifying (msg : Message Msg)
  /-- `Stop` has returned. -/
  | finished
  deriving DecidableEq

structure State (Msg : Type) where
  stopped : Bool
  /-- The queue, when it is there. -/
  queue : Option (MessageQueue Msg)
  /-- `m_MessageQueue` is not `NULL`. -/
  pointer : Bool
  runner : Runner Msg
  control : Control Msg
  /-- A message was pushed to a queue that was gone, or its notification sent there. -/
  addressedGone : Bool
  /-- How often a blank message was pushed, executed and deleted with the queue. -/
  blanksPushed : ℕ
  blanksExecuted : ℕ
  blanksDisposed : ℕ

inductive Label (Msg : Type) where
  | runner
  | setMessage (msg : Msg)
  | stop
  | control

variable {Msg : Type} [DecidableEq Msg]

def initial : State Msg where
  stopped := false
  queue := some ⟨[], false⟩
  pointer := true
  runner := .testing
  control := .outside
  addressedGone := false
  blanksPushed := 0
  blanksExecuted := 0
  blanksDisposed := 0

/-- Whether a message is the blank one, as a number. -/
def blankCount : Message Msg → ℕ
  | .blank => 1
  | .message _ => 0

/-- `GetMessage` under the lock: take a message, or sleep. -/
def getMessage (state : State Msg) : Option (State Msg) :=
  match state.queue with
  | none => none
  | some queue =>
      if queue.stopped then some { state with runner := .gotNull }
      else
        match queue.messages with
        | [] => some { state with runner := .sleeping false }
        | msg :: rest =>
            some { state with
              runner := .executing msg
              queue := some { queue with messages := rest } }

/-- The next step of `Run`. -/
def stepRunner (state : State Msg) : Option (State Msg) :=
  match state.runner with
  | .testing => some { state with runner := if state.stopped then .leaving else .getting }
  | .getting => getMessage state
  | .sleeping true => getMessage state
  | .sleeping false => none
  | .executing msg =>
      some { state with
        runner := .testing
        blanksExecuted := state.blanksExecuted + blankCount msg }
  | .gotNull => none
  | .leaving =>
      some { state with
        runner := .discarding
        queue := state.queue.map fun queue => { queue with stopped := true } }
  | .discarding =>
      some { state with
        runner := .clearing
        queue := none
        blanksDisposed := state.blanksDisposed +
          match state.queue with
          | none => 0
          | some queue => queue.messages.count .blank }
  | .clearing => some { state with runner := .finished, pointer := false }
  | .finished => none

/-- `notify_one` on the condition of the queue. -/
def Runner.notify : Runner Msg → Runner Msg
  | .sleeping _ => .sleeping true
  | runner => runner

/-- Where the control thread is behind `SetMessage`. -/
def returned : Message Msg → Control Msg
  | .blank => .finished
  | .message _ => .outside

/-- `MessageQueue::SetMessage` under the lock. A queue that is stopped takes no message. -/
def push (state : State Msg) (msg : Message Msg) : State Msg :=
  match state.queue with
  | none => { state with control := .finished, addressedGone := true }
  | some queue =>
      { state with
        control := if queue.stopped then returned msg else .notifying msg
        blanksPushed := state.blanksPushed + blankCount msg
        queue :=
          if queue.stopped then some queue
          else some { queue with messages := queue.messages ++ [msg] } }

/-- `MessageQueue::SetMessage` behind the lock. -/
def notifyOne (state : State Msg) (msg : Message Msg) : State Msg :=
  match state.queue with
  | none => { state with control := .finished, addressedGone := true }
  | some _ => { state with runner := state.runner.notify, control := returned msg }

/-- The next step of `SetMessage`. -/
def stepControl (state : State Msg) : Option (State Msg) :=
  match state.control with
  | .setting msg =>
      some { state with control := if state.pointer then .pushing msg else returned msg }
  | .pushing msg => some (push state msg)
  | .notifying msg => some (notifyOne state msg)
  | _ => none

def step (state : State Msg) : Label Msg → Option (State Msg)
  | .runner => stepRunner state
  | .setMessage msg =>
      match state.control with
      | .outside => some { state with control := .setting (.message msg) }
      | _ => none
  | .stop =>
      match state.control with
      | .outside => some { state with stopped := true, control := .setting .blank }
      | _ => none
  | .control => stepControl state

/-! ## What is to hold, and the condition -/

/-- The blank messages that are neither executed nor deleted. -/
def blanksPending (state : State Msg) : ℕ :=
  (match state.queue with
    | none => 0
    | some queue => queue.messages.count .blank) +
  match state.runner with
  | .executing msg => blankCount msg
  | _ => 0

/-- A push and its notification find their queue, the blank message is delivered or disposed of
once, and `Run` is not blocked on an empty queue after `Stop` has returned. -/
structure Good (state : State Msg) : Prop where
  present : state.addressedGone = false
  once : blanksPending state + state.blanksExecuted + state.blanksDisposed = state.blanksPushed
  awake : state.control = .finished → state.runner = .sleeping false →
    ∀ queue, state.queue = some queue → queue.messages ≠ []

/-- The queue is being deleted, and the pointer to it is not `NULL` yet. -/
def Deleting (state : State Msg) : Prop :=
  state.runner = .discarding ∨ state.runner = .clearing

/-- The deletion does not begin between the test of the pointer and the push, the queue does not
go before the notification, and the pointer is not tested during the deletion. -/
def Meets (state : State Msg) : Label Msg → Prop
  | .runner => (state.runner = .leaving → ∀ msg, state.control ≠ .pushing msg) ∧
      (state.runner = .discarding → ∀ msg, state.control ≠ .notifying msg)
  | .control => Deleting state → ∀ msg, state.control ≠ .setting msg
  | _ => True

instance (state : State Msg) (label : Label Msg) : Decidable (Meets state label) :=
  match label, control : state.control with
  | .runner, .pushing msg =>
      decidable_of_iff (state.runner ≠ .leaving) (by simp [Meets, control])
  | .runner, .outside => isTrue (by simp [Meets, control])
  | .runner, .setting _ => isTrue (by simp [Meets, control])
  | .runner, .notifying msg =>
      decidable_of_iff (state.runner ≠ .discarding) (by simp [Meets, control])
  | .runner, .finished => isTrue (by simp [Meets, control])
  | .control, .setting msg =>
      decidable_of_iff (¬ (state.runner = .discarding ∨ state.runner = .clearing))
        (by simp [Meets, control, Deleting])
  | .control, .outside => isTrue (by simp [Meets, control])
  | .control, .pushing _ => isTrue (by simp [Meets, control])
  | .control, .notifying _ => isTrue (by simp [Meets, control])
  | .control, .finished => isTrue (by simp [Meets, control])
  | .setMessage _, _ => isTrue trivial
  | .stop, _ => isTrue trivial

/-! ## The positions of the two threads -/

/-- The thread has left the loop of `Run`. -/
@[simp] def Left : Runner Msg → Prop
  | .leaving => True
  | .discarding => True
  | .clearing => True
  | .finished => True
  | _ => False

/-- The thread is in `GetMessage`. -/
@[simp] def Receiving : Runner Msg → Prop
  | .getting => True
  | .sleeping _ => True
  | _ => False

/-- The control thread is in `Stop`, behind the flag, or has returned from it. -/
@[simp] def Stopping : Control Msg → Prop
  | .setting .blank => True
  | .pushing .blank => True
  | .notifying .blank => True
  | .finished => True
  | _ => False

/-- The control thread has pushed the blank message, or found no queue. -/
@[simp] def Woken : Control Msg → Prop
  | .notifying .blank => True
  | .finished => True
  | _ => False

/-- The queue and the pointer, where the thread is. -/
@[simp] def QueueFits : Runner Msg → Option (MessageQueue Msg) → Bool → Prop
  | .discarding, queue, pointer => (∃ messages, queue = some ⟨messages, true⟩) ∧ pointer = true
  | .clearing, queue, pointer => queue = none ∧ pointer = true
  | .finished, queue, pointer => queue = none ∧ pointer = false
  | .gotNull, _, _ => False
  | _, queue, pointer => (∃ messages, queue = some ⟨messages, false⟩) ∧ pointer = true

structure Invariant (state : State Msg) : Prop where
  present : state.addressedGone = false
  once : blanksPending state + state.blanksExecuted + state.blanksDisposed = state.blanksPushed
  fits : QueueFits state.runner state.queue state.pointer
  left : Left state.runner → state.stopped = true
  stopping : state.stopped = true ↔ Stopping state.control
  pushing : ∀ msg, state.control = .pushing msg →
    ¬ Deleting state ∧ state.runner ≠ .finished
  notifying : ∀ msg, state.control = .notifying msg → state.queue.isSome = true
  woken : Woken state.control → Receiving state.runner →
    ∀ queue, state.queue = some queue → .blank ∈ queue.messages
  asleep : state.runner = .sleeping false → ∀ queue, state.queue = some queue →
    queue.messages = [] ∨ ∃ msg, state.control = .notifying msg

variable {state next : State Msg}

theorem invariant_initial : Invariant (initial : State Msg) where
  present := rfl
  once := rfl
  fits := ⟨⟨[], rfl⟩, rfl⟩
  left := by simp [initial]
  stopping := by simp [initial]
  pushing := by simp [initial]
  notifying := by simp [initial]
  woken := by simp [initial]
  asleep := by simp [initial]

theorem Invariant.good (invariant : Invariant state) : Good state := by
  refine ⟨invariant.present, invariant.once, ?_⟩
  intro returned asleep queue present
  have blank := invariant.woken (by simp [returned]) (by simp [asleep]) queue present
  exact List.ne_nil_of_mem blank

/-! ## What a step does -/

theorem count_blank_cons (msg : Message Msg) (messages : List (Message Msg)) :
    (msg :: messages).count .blank = messages.count .blank + blankCount msg := by
  cases msg <;> simp [blankCount]

theorem count_blank_append (msg : Message Msg) (messages : List (Message Msg)) :
    (messages ++ [msg]).count .blank = messages.count .blank + blankCount msg := by
  cases msg <;> simp [blankCount]

theorem queue_of_receiving (invariant : Invariant state) (receiving : Receiving state.runner) :
    ∃ messages, state.queue = some ⟨messages, false⟩ := by
  have fits := invariant.fits
  cases position : state.runner with
  | getting => simp only [position, QueueFits] at fits; exact fits.1
  | sleeping notified => simp only [position, QueueFits] at fits; exact fits.1
  | _ => simp [position] at receiving

theorem pointer_of_not_finished (invariant : Invariant state)
    (running : state.runner ≠ .finished) : state.pointer = true := by
  have fits := invariant.fits
  cases position : state.runner with
  | finished => exact absurd position running
  | gotNull => simp [position] at fits
  | _ => simp only [position, QueueFits] at fits; exact fits.2

/-- Taking a message, or beginning to sleep on an empty queue. -/
theorem Invariant.getMessage (invariant : Invariant state) (receiving : Receiving state.runner)
    (taken : getMessage state = some next) : Invariant next := by
  obtain ⟨messages, present⟩ := queue_of_receiving invariant receiving
  have pointer : state.pointer = true := by
    refine pointer_of_not_finished invariant ?_
    intro finished
    simp [finished] at receiving
  have once := invariant.once
  have notExecuting : blanksPending state = messages.count .blank := by
    unfold blanksPending
    rw [present]
    cases position : state.runner <;> simp_all
  rw [notExecuting] at once
  cases messages with
  | nil =>
      obtain rfl : { state with runner := .sleeping false } = next := by
        simpa [ThreadRunner.getMessage, present] using taken
      refine ⟨invariant.present, ?_, ⟨⟨[], present⟩, pointer⟩, by simp, invariant.stopping,
        by simp [Deleting], by simp [present], ?_, ?_⟩
      · simpa [blanksPending, present] using once
      · exact fun woken _ => invariant.woken woken receiving
      · intro _ queue same
        obtain rfl := Option.some.inj (present.symm.trans same)
        exact Or.inl rfl
  | cons msg rest =>
      obtain rfl : { state with
          runner := .executing msg, queue := some ⟨rest, false⟩ } = next := by
        simpa [ThreadRunner.getMessage, present] using taken
      refine ⟨invariant.present, ?_, ⟨⟨rest, rfl⟩, pointer⟩, by simp, invariant.stopping,
        by simp [Deleting], by simp, by simp, by simp⟩
      rw [count_blank_cons] at once
      exact once

theorem Invariant.stepRunner (invariant : Invariant state) (meets : Meets state .runner)
    (taken : step state .runner = some next) : Invariant next := by
  have fits := invariant.fits
  have once := invariant.once
  simp only [step, ThreadRunner.stepRunner] at taken
  split at taken
  next position =>
    simp only [position, QueueFits] at fits
    obtain ⟨⟨messages, present⟩, pointer⟩ := fits
    obtain rfl := (Option.some.inj taken).symm
    by_cases stopped : state.stopped = true
    · rw [if_pos stopped]
      refine ⟨invariant.present, ?_, ⟨⟨messages, present⟩, pointer⟩, fun _ => stopped,
        invariant.stopping, by simp [Deleting], by simp [present], by simp, by simp⟩
      simpa [blanksPending, position] using once
    · rw [if_neg stopped]
      refine ⟨invariant.present, ?_, ⟨⟨messages, present⟩, pointer⟩, by simp,
        invariant.stopping, by simp [Deleting], by simp [present], ?_, by simp⟩
      · simpa [blanksPending, position] using once
      · intro woken
        refine absurd (invariant.stopping.mpr ?_) stopped
        simp only at woken
        cases control : state.control with
        | notifying msg => cases msg <;> simp_all
        | finished => simp
        | _ => simp [control] at woken
  next position => exact invariant.getMessage (by simp [position]) taken
  next position => exact invariant.getMessage (by simp [position]) taken
  next => cases taken
  next msg position =>
    simp only [position, QueueFits] at fits
    obtain ⟨⟨messages, present⟩, pointer⟩ := fits
    obtain rfl := (Option.some.inj taken).symm
    refine ⟨invariant.present, ?_, ⟨⟨messages, present⟩, pointer⟩, by simp,
      invariant.stopping, by simp [Deleting], by simp [present], by simp, by simp⟩
    simp only [blanksPending, position, present] at once ⊢
    omega
  next => cases taken
  next position =>
    simp only [position, QueueFits] at fits
    obtain ⟨⟨messages, present⟩, pointer⟩ := fits
    obtain rfl := (Option.some.inj taken).symm
    refine ⟨invariant.present, ?_, ⟨⟨messages, by rw [present]; rfl⟩, pointer⟩,
      fun _ => invariant.left (by simp [position]), invariant.stopping, ?_, by simp [present],
      by simp, by simp⟩
    · simpa [blanksPending, position, present] using once
    · intro msg pushing
      exact absurd pushing (meets.1 position msg)
  next position =>
    simp only [position, QueueFits] at fits
    obtain ⟨⟨messages, present⟩, pointer⟩ := fits
    obtain rfl := (Option.some.inj taken).symm
    refine ⟨invariant.present, ?_, ⟨rfl, pointer⟩,
      fun _ => invariant.left (by simp [position]), invariant.stopping, ?_, ?_, by simp, by simp⟩
    · simp only [blanksPending, position, present] at once ⊢
      omega
    · intro msg pushing
      exact absurd (Or.inl position) (invariant.pushing msg pushing).1
    · intro msg notifying
      exact absurd notifying (meets.2 position msg)
  next position =>
    simp only [position, QueueFits] at fits
    obtain rfl := (Option.some.inj taken).symm
    refine ⟨invariant.present, ?_, ⟨fits.1, rfl⟩,
      fun _ => invariant.left (by simp [position]), invariant.stopping, ?_, invariant.notifying,
      by simp, by simp⟩
    · simpa [blanksPending, position] using once
    · intro msg pushing
      exact absurd (Or.inr position) (invariant.pushing msg pushing).1
  next => cases taken

theorem setMessage_cases {msg : Msg} (taken : step state (.setMessage msg) = some next) :
    state.control = .outside ∧ next = { state with control := .setting (.message msg) } := by
  simp only [step] at taken
  split at taken
  next outside => exact ⟨outside, (Option.some.inj taken).symm⟩
  next => cases taken

theorem stop_cases (taken : step state .stop = some next) :
    state.control = .outside ∧
      next = { state with stopped := true, control := .setting .blank } := by
  simp only [step] at taken
  split at taken
  next outside => exact ⟨outside, (Option.some.inj taken).symm⟩
  next => cases taken

theorem control_cases (taken : step state .control = some next) :
    ∃ msg, (state.control = .setting msg ∧ next =
        { state with control := if state.pointer then .pushing msg else returned msg }) ∨
      (state.control = .pushing msg ∧ next = push state msg) ∨
      (state.control = .notifying msg ∧ next = notifyOne state msg) := by
  simp only [step, stepControl] at taken
  split at taken
  next msg position => exact ⟨msg, Or.inl ⟨position, (Option.some.inj taken).symm⟩⟩
  next msg position => exact ⟨msg, Or.inr (Or.inl ⟨position, (Option.some.inj taken).symm⟩)⟩
  next msg position => exact ⟨msg, Or.inr (Or.inr ⟨position, (Option.some.inj taken).symm⟩)⟩
  next => cases taken

/-- A position of the control thread before the push changes nothing for the thread. -/
theorem Invariant.place (invariant : Invariant state) {control : Control Msg} {stopped : Bool}
    (left : Left state.runner → stopped = true) (stopping : stopped = true ↔ Stopping control)
    (pushing : ∀ msg, control = .pushing msg → ¬ Deleting state ∧ state.runner ≠ .finished)
    (notNotifying : ∀ msg, control ≠ .notifying msg)
    (woken : Woken control → ¬ Receiving state.runner)
    (asleep : ∀ msg, state.control ≠ .notifying msg) :
    Invariant { state with stopped := stopped, control := control } := by
  refine ⟨invariant.present, invariant.once, invariant.fits, left, stopping, pushing,
    fun msg notifying => absurd notifying (notNotifying msg), ?_, ?_⟩
  · intro waked receiving
    exact absurd receiving (woken waked)
  · intro sleeping queue present
    rcases invariant.asleep sleeping queue present with empty | ⟨msg, notifying⟩
    · exact Or.inl empty
    · exact absurd notifying (asleep msg)

theorem Invariant.push (invariant : Invariant state) {msg : Message Msg}
    (position : state.control = .pushing msg) : Invariant (push state msg) := by
  obtain ⟨notDeleting, running⟩ := invariant.pushing msg position
  obtain ⟨messages, present⟩ : ∃ messages, state.queue = some ⟨messages, false⟩ := by
    have fits := invariant.fits
    cases place : state.runner with
    | discarding => exact absurd (Or.inl place) notDeleting
    | clearing => exact absurd (Or.inr place) notDeleting
    | finished => exact absurd place running
    | gotNull => simp [place] at fits
    | _ => simp only [place, QueueFits] at fits; exact fits.1
  have pointer := pointer_of_not_finished invariant running
  have pushed : ThreadRunner.push state msg = { state with
      control := .notifying msg
      blanksPushed := state.blanksPushed + blankCount msg
      queue := some ⟨messages ++ [msg], false⟩ } := by
    simp [ThreadRunner.push, present]
  have stopping := invariant.stopping
  rw [position] at stopping
  rw [pushed]
  refine ⟨invariant.present, ?_, ?_, invariant.left, ?_, by simp, by simp, ?_, ?_⟩
  · have once := invariant.once
    simp only [blanksPending, present, count_blank_append] at once ⊢
    omega
  · have fits := invariant.fits
    cases place : state.runner with
    | discarding => exact absurd (Or.inl place) notDeleting
    | clearing => exact absurd (Or.inr place) notDeleting
    | finished => exact absurd place running
    | gotNull => simp [place] at fits
    | _ => exact ⟨⟨_, rfl⟩, pointer⟩
  · cases msg <;> simpa using stopping
  · intro woken _ queue same
    obtain rfl := Option.some.inj same
    cases msg with
    | blank => simp
    | message msg => simp at woken
  · exact fun _ _ _ => Or.inr ⟨msg, rfl⟩

theorem Invariant.notify (invariant : Invariant state) {msg : Message Msg}
    (position : state.control = .notifying msg) : Invariant (notifyOne state msg) := by
  obtain ⟨queue, present⟩ := Option.isSome_iff_exists.mp (invariant.notifying msg position)
  have notified : notifyOne state msg =
      { state with runner := state.runner.notify, control := returned msg } := by
    simp [notifyOne, present]
  rw [notified]
  have stopping := invariant.stopping
  rw [position] at stopping
  have waked : ∀ runner : Runner Msg, runner.notify ≠ .sleeping false := by
    intro runner
    cases runner <;> simp [Runner.notify]
  refine ⟨invariant.present, ?_, ?_, ?_, ?_, ?_, ?_, ?_,
    fun sleeping => absurd sleeping (waked _)⟩
  · have once := invariant.once
    simp only [blanksPending] at once ⊢
    cases place : state.runner <;> simpa [place, Runner.notify] using once
  · have fits := invariant.fits
    cases place : state.runner <;> simp_all [Runner.notify]
  · have left := invariant.left
    cases place : state.runner <;> simp_all [Runner.notify]
  · cases msg <;> simpa [returned] using stopping
  · intro other pushing
    cases msg <;> simp [returned] at pushing
  · intro other notifying
    cases msg <;> simp [returned] at notifying
  · intro woken receiving queue present
    have before : Receiving state.runner := by
      cases place : state.runner <;> simp_all [Runner.notify]
    have blank : msg = .blank := by
      cases msg with
      | blank => rfl
      | message msg => simp [returned] at woken
    exact invariant.woken (by simp [position, blank]) before queue present

theorem Invariant.step {label : Label Msg} (invariant : Invariant state)
    (meets : Meets state label) (taken : step state label = some next) : Invariant next := by
  cases label with
  | runner => exact invariant.stepRunner meets taken
  | setMessage msg =>
      obtain ⟨outside, rfl⟩ := setMessage_cases taken
      have stopping := invariant.stopping
      rw [outside] at stopping
      exact invariant.place invariant.left (by simpa using stopping) (by simp) (by simp)
        (by simp) (by simp [outside])
  | stop =>
      obtain ⟨outside, rfl⟩ := stop_cases taken
      exact invariant.place (fun _ => rfl) (by simp) (by simp) (by simp) (by simp)
        (by simp [outside])
  | control =>
      obtain ⟨msg, ⟨position, rfl⟩ | ⟨position, rfl⟩ | ⟨position, rfl⟩⟩ := control_cases taken
      · have stopping := invariant.stopping
        rw [position] at stopping
        by_cases pointer : state.pointer = true
        · rw [if_pos pointer]
          refine invariant.place invariant.left (by cases msg <;> simpa using stopping) ?_
            (by simp) (by cases msg <;> simp) (by simp [position])
          intro other _
          refine ⟨fun deleting => meets deleting msg position, ?_⟩
          intro finished
          have fits := invariant.fits
          simp [finished, pointer] at fits
        · rw [if_neg pointer]
          have finished : state.runner = .finished := by
            by_contra running
            exact pointer (pointer_of_not_finished invariant running)
          refine invariant.place invariant.left ?_ ?_ ?_ (by simp [finished]) (by simp [position])
          · cases msg <;> simpa [returned] using stopping
          · intro other pushing
            cases msg <;> simp [returned] at pushing
          · intro other
            cases msg <;> simp [returned]
      · exact invariant.push position
      · exact invariant.notify position

/-! ## A push to a queue that is being deleted -/

/-- A blank message that is pushed while the queue is deleted is lost, or addresses a queue
that is gone. -/
theorem not_good_push (fits : QueueFits state.runner state.queue state.pointer)
    (once : blanksPending state + state.blanksExecuted + state.blanksDisposed =
      state.blanksPushed) (deleting : Deleting state) : ¬ Good (push state .blank) := by
  intro good
  rcases deleting with position | position
  · simp only [position, QueueFits] at fits
    obtain ⟨⟨messages, present⟩, -⟩ := fits
    have lost := good.once
    simp only [push, present, blanksPending, blankCount, position] at lost once
    simp only [if_true] at lost
    omega
  · simp only [position, QueueFits] at fits
    have present := good.present
    simp [push, fits.1] at present

theorem not_good_of_not_meets (invariant : Invariant state) {label : Label Msg}
    (violated : ¬ Meets state label) (taken : step state label = some next) :
    ∃ bad, step next .control = some bad ∧ ¬ Good bad := by
  have stopped {msg : Message Msg} (left : Left state.runner)
      (position : state.control = .setting msg ∨ state.control = .pushing msg) :
      msg = .blank := by
    have stopping := invariant.stopping.mp (invariant.left left)
    cases msg with
    | blank => rfl
    | message msg => rcases position with same | same <;> simp [same] at stopping
  cases label with
  | runner =>
      rcases not_and_or.mp violated with begun | gone
      · simp only [not_forall, not_not] at begun
        obtain ⟨leaving, msg, pushing⟩ := begun
        obtain rfl := stopped (by simp [leaving]) (Or.inr pushing)
        have fits := invariant.fits
        simp only [leaving, QueueFits] at fits
        obtain ⟨⟨messages, present⟩, pointer⟩ := fits
        obtain rfl : { state with
            runner := .discarding, queue := some ⟨messages, true⟩ } = next := by
          simpa [step, ThreadRunner.stepRunner, leaving, present] using taken
        refine ⟨push { state with runner := .discarding, queue := some ⟨messages, true⟩ } .blank,
          by simp [step, stepControl, pushing], ?_⟩
        refine not_good_push ⟨⟨messages, rfl⟩, pointer⟩ ?_ (Or.inl rfl)
        have once := invariant.once
        simpa [blanksPending, leaving, present] using once
      · simp only [not_forall, not_not] at gone
        obtain ⟨discarding, msg, notifying⟩ := gone
        simp only [step, ThreadRunner.stepRunner, discarding, Option.some.injEq] at taken
        have queue : next.queue = none := by rw [← taken]
        have control : next.control = .notifying msg := by rw [← taken, ← notifying]
        refine ⟨notifyOne next msg, by simp [step, stepControl, control], fun good => ?_⟩
        have present := good.present
        simp [notifyOne, queue] at present
  | control =>
      simp only [Meets, not_forall, not_not] at violated
      obtain ⟨deleting, msg, setting⟩ := violated
      have left : Left state.runner := by
        rcases deleting with position | position <;> simp [position]
      obtain rfl := stopped left (Or.inl setting)
      have pointer : state.pointer = true := by
        refine pointer_of_not_finished invariant ?_
        rcases deleting with position | position <;> simp [position]
      obtain rfl : { state with control := .pushing .blank } = next := by
        simpa [step, stepControl, setting, pointer] using taken
      exact ⟨push { state with control := .pushing .blank } .blank, by simp [step, stepControl],
        not_good_push invariant.fits invariant.once deleting⟩
  | setMessage msg => exact absurd trivial violated
  | stop => exact absurd trivial violated

/-- **The wake-up of a stopped thread arrives in the runs that meet the condition, and every
other run has a first part that one step of the control thread continues to a message that
is lost or addresses a queue that is gone.** -/
theorem stop_wakes_run {schedule : List (Label Msg)} {final : State Msg}
    (taken : run step initial schedule = some final) :
    (Guarded step Meets initial schedule → Good final) ∧
      (¬ Guarded step Meets initial schedule →
        ∃ before label after bad, schedule = before ++ label :: after ∧
          run step initial (before ++ [label, .control]) = some bad ∧ ¬ Good bad) := by
  have preserved : ∀ (state : State Msg) label next, Invariant state → Meets state label →
      step state label = some next → Invariant next := by
    intro state label next invariant meets moved
    exact invariant.step meets moved
  constructor
  · intro guarded
    exact (invariant_guardedRun preserved invariant_initial guarded taken).good
  · intro unguarded
    obtain ⟨before, label, after, middle, next, split, reached, guarded, moved, violated⟩ :=
      exists_unmet_step taken unguarded
    have invariant := invariant_guardedRun preserved invariant_initial guarded reached
    obtain ⟨bad, pushed, notGood⟩ := not_good_of_not_meets invariant violated moved
    refine ⟨before, label, after, bad, split, ?_, notGood⟩
    refine run_append_iff.mpr ⟨middle, reached, run_cons_iff.mpr ⟨next, moved, ?_⟩⟩
    exact run_cons_iff.mpr ⟨bad, pushed, rfl⟩

/-- The thread sees the flag, and deletes the queue between the test of the pointer and the
push. -/
def deletedBeforePush : List (Label ℕ) :=
  [.stop, .control, .runner, .runner, .runner, .control]

theorem deletedBeforePush_addressedGone :
    ∃ state : State ℕ, run step initial deletedBeforePush = some state ∧
      state.addressedGone = true ∧ ¬ Good state := by
  refine ⟨_, rfl, rfl, fun good => ?_⟩
  exact absurd good.present (by decide)

/-- The thread is in `GetMessage` when it is stopped, after an earlier message. -/
def stoppedAsleep : List (Label ℕ) :=
  [.setMessage 7, .control, .control, .control, .runner, .runner, .runner, .runner, .runner,
    .stop, .control, .control, .control, .runner]

theorem stoppedAsleep_good :
    ∃ state : State ℕ, run step initial stoppedAsleep = some state ∧
      state.runner = .executing .blank ∧ Good state := by
  obtain ⟨state, taken, executing⟩ : ∃ state : State ℕ,
      run step initial stoppedAsleep = some state ∧ state.runner = .executing .blank :=
    ⟨_, rfl, rfl⟩
  refine ⟨state, taken, executing, (stop_wakes_run taken).1 (by decide)⟩

end AthabascaRecon.ThreadRunner
