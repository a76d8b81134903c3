import AthabascaRecon.Foundation.Traces
import Mathlib.Data.Fintype.Basic

/-!
# The queue of messages to a thread

`MessageQueue` is a queue under a mutex, with a condition that a push notifies. Any number of
threads set messages, and one thread gets them, which is also the thread that destroys the
queue. The object outlives all calls: a message that is set behind its destruction is dropped.

The system below takes one statement of one thread at a time, so a schedule is any
interleaving, and a waiting thread may also wake up for no reason. The inversion lemmas say
what a step does and which events it shows, and from them the positions of the threads fit
the mutex, the flag and the messages in every state of a run (`Invariant.preserved`).
-/

set_option autoImplicit false

namespace AthabascaRecon.MessageQueue

open Runs

/-- The thread that has locked the mutex. -/
inductive Holder (senders : ℕ) where
  | sender (i : Fin senders)
  | receiver
  deriving DecidableEq

/-- The position of a thread in `SetMessage`. -/
inductive Sender (Msg : Type) where
  | outside
  | locking (msg : Msg)
  /-- Before the test of `m_Stopped`, under the lock. -/
  | testing (msg : Msg)
  | pushing (msg : Msg)
  /-- The message is pushed, and the lock held. -/
  | unlocking
  | notifying
  /-- The queue was stopped, and the lock is held. -/
  | dropping
  deriving DecidableEq

/-- The position of the receiving thread in `GetMessage`, or in the destructor. -/
inductive Receiver (Msg : Type) where
  | outside
  /-- Before the first test of `m_Stopped`, which takes no lock. -/
  | entering
  | locking
  /-- At the condition of the loop. -/
  | looking
  /-- Before the wait, under the lock. -/
  | waiting
  | sleeping
  /-- Notified, and before the wait has locked the mutex again. -/
  | woken
  /-- Before the test of `m_Stopped` behind the wait. -/
  | retesting
  | taking
  | returning (msg : Option Msg)
  /-- In `Stop`, before the lock. -/
  | stopping
  | flagging
  | releasing
  | alerting
  /-- In `Destroy`, which takes no lock. -/
  | discarding
  | destroyed
  deriving DecidableEq

structure State (senders : ℕ) (Msg : Type) where
  holder : Option (Holder senders)
  messages : List Msg
  stopped : Bool
  sender : Fin senders → Sender Msg
  receiver : Receiver Msg

/-- A thread begins a call, or goes on with its next statement. -/
inductive Label (senders : ℕ) (Msg : Type) where
  | setMessage (i : Fin senders) (msg : Msg)
  | sender (i : Fin senders)
  | getMessage
  | destroy
  | receiver
  /-- A wait returns without a notification. -/
  | wake

variable {senders : ℕ} {Msg : Type}

def initial : State senders Msg where
  holder := none
  messages := []
  stopped := false
  sender _ := .outside
  receiver := .outside

namespace State

def place (state : State senders Msg) (i : Fin senders) (position : Sender Msg) :
    State senders Msg :=
  { state with sender := Function.update state.sender i position }

@[simp] theorem place_holder (state : State senders Msg) (i : Fin senders)
    (position : Sender Msg) : (state.place i position).holder = state.holder := rfl

@[simp] theorem place_receiver (state : State senders Msg) (i : Fin senders)
    (position : Sender Msg) : (state.place i position).receiver = state.receiver := rfl

@[simp] theorem place_sender_self (state : State senders Msg) (i : Fin senders)
    (position : Sender Msg) : (state.place i position).sender i = position :=
  Function.update_self (β := fun _ => Sender Msg) i position state.sender

@[simp] theorem place_sender_of_ne (state : State senders Msg) {i j : Fin senders} (other : j ≠ i)
    (position : Sender Msg) : (state.place i position).sender j = state.sender j :=
  Function.update_of_ne (β := fun _ => Sender Msg) other position state.sender

/-- `notify_one` on the condition. -/
def notify (state : State senders Msg) : State senders Msg :=
  { state with
    receiver := match state.receiver with
      | .sleeping => .woken
      | position => position }

@[simp] theorem notify_messages (state : State senders Msg) :
    state.notify.messages = state.messages := rfl

@[simp] theorem notify_sender (state : State senders Msg) : state.notify.sender = state.sender :=
  rfl

@[simp] theorem notify_stopped (state : State senders Msg) :
    state.notify.stopped = state.stopped := rfl

@[simp] theorem place_messages (state : State senders Msg) (i : Fin senders)
    (position : Sender Msg) : (state.place i position).messages = state.messages := rfl

/-- The next statement of `SetMessage`. -/
def stepSender (state : State senders Msg) (i : Fin senders) : Option (State senders Msg) :=
  match state.sender i with
  | .outside => none
  | .locking msg =>
      match state.holder with
      | some _ => none
      | none => some { state.place i (.testing msg) with holder := some (.sender i) }
  | .testing msg => some (state.place i (if state.stopped then .dropping else .pushing msg))
  | .pushing msg => some { state.place i .unlocking with messages := state.messages ++ [msg] }
  | .unlocking => some { state.place i .notifying with holder := none }
  | .notifying => some (state.place i .outside).notify
  | .dropping => some { state.place i .outside with holder := none }

/-- The receiving thread locks the mutex, if nobody has. -/
def lockReceiver (state : State senders Msg) (position : Receiver Msg) :
    Option (State senders Msg) :=
  match state.holder with
  | some _ => none
  | none => some { state with holder := some .receiver, receiver := position }

/-- The next statement of `GetMessage`, or of the destructor. -/
def stepReceiver (state : State senders Msg) : Option (State senders Msg) :=
  match state.receiver with
  | .outside => none
  | .entering =>
      some { state with receiver := if state.stopped then .outside else .locking }
  | .locking => state.lockReceiver .looking
  | .looking =>
      some { state with receiver := if state.messages.isEmpty then .waiting else .taking }
  | .waiting => some { state with holder := none, receiver := .sleeping }
  | .sleeping => none
  | .woken => state.lockReceiver .retesting
  | .retesting =>
      some { state with receiver := if state.stopped then .returning none else .looking }
  | .taking =>
      match state.messages with
      | [] => none
      | msg :: rest => some { state with messages := rest, receiver := .returning (some msg) }
  | .returning _ => some { state with holder := none, receiver := .outside }
  | .stopping => state.lockReceiver .flagging
  | .flagging => some { state with stopped := true, receiver := .releasing }
  | .releasing => some { state with holder := none, receiver := .alerting }
  | .alerting => some { state with receiver := .discarding }
  | .discarding =>
      match state.messages with
      | [] => some { state with receiver := .destroyed }
      | _ :: rest => some { state with messages := rest }
  | .destroyed => none

end State

def step (state : State senders Msg) : Label senders Msg → Option (State senders Msg)
  | .setMessage i msg =>
      match state.sender i with
      | .outside => some (state.place i (.locking msg))
      | _ => none
  | .sender i => state.stepSender i
  | .getMessage =>
      match state.receiver with
      | .outside => some { state with receiver := .entering }
      | _ => none
  | .destroy =>
      match state.receiver with
      | .outside => some { state with receiver := .stopping }
      | _ => none
  | .receiver => state.stepReceiver
  | .wake =>
      match state.receiver with
      | .sleeping => some { state with receiver := .woken }
      | _ => none

/-! ## What the steps show -/

/-- What becomes of the messages, and the stop of the queue. -/
inductive Event (senders : ℕ) (Msg : Type) where
  | called (i : Fin senders) (msg : Msg)
  | pushed (i : Fin senders) (msg : Msg)
  | dropped (i : Fin senders) (msg : Msg)
  | taken (msg : Msg)
  | discarded (msg : Msg)
  | stopped
  deriving DecidableEq

def shows (state : State senders Msg) : Label senders Msg → List (Event senders Msg)
  | .setMessage i msg => [.called i msg]
  | .sender i =>
      match state.sender i with
      | .testing msg => if state.stopped then [.dropped i msg] else []
      | .pushing msg => [.pushed i msg]
      | _ => []
  | .receiver =>
      match state.receiver with
      | .taking => state.messages.head?.toList.map .taken
      | .discarding => state.messages.head?.toList.map .discarded
      | .flagging => [.stopped]
      | _ => []
  | _ => []

namespace Event

def calledBy (i : Fin senders) : Event senders Msg → List Msg
  | .called i' msg => if i' = i then [msg] else []
  | _ => []

/-- The message of a call that ended its way to the queue. -/
def settledBy (i : Fin senders) : Event senders Msg → List Msg
  | .pushed i' msg => if i' = i then [msg] else []
  | .dropped i' msg => if i' = i then [msg] else []
  | _ => []

def entering : Event senders Msg → List Msg
  | .pushed _ msg => [msg]
  | _ => []

/-- The message, taken or discarded. -/
def leaving : Event senders Msg → List Msg
  | .taken msg => [msg]
  | .discarded msg => [msg]
  | _ => []

/-- The stop, or an event behind it. -/
def Late : Event senders Msg → Prop
  | .dropped _ _ => True
  | .discarded _ => True
  | .stopped => True
  | _ => False

/-- The stop, or an event before it. -/
def Early : Event senders Msg → Prop
  | .pushed _ _ => True
  | .taken _ => True
  | .stopped => True
  | _ => False

end Event

/-! ## The positions of the threads -/

/-- The thread is between the lock and the end of its scope. -/
@[simp] def Sender.holds : Sender Msg → Bool
  | .testing _ => true
  | .pushing _ => true
  | .unlocking => true
  | .dropping => true
  | _ => false

/-- The message of the call, up to the push. -/
@[simp] def Sender.unsettled : Sender Msg → List Msg
  | .locking msg => [msg]
  | .testing msg => [msg]
  | .pushing msg => [msg]
  | _ => []

/-- The thread has pushed and is going to notify. -/
@[simp] def Sender.announces : Sender Msg → Bool
  | .unlocking => true
  | .notifying => true
  | _ => false

@[simp] def Receiver.holds : Receiver Msg → Bool
  | .looking => true
  | .waiting => true
  | .retesting => true
  | .taking => true
  | .returning _ => true
  | .flagging => true
  | .releasing => true
  | _ => false

/-- The destructor has set `m_Stopped`. -/
@[simp] def Receiver.hasStopped : Receiver Msg → Bool
  | .releasing => true
  | .alerting => true
  | .discarding => true
  | .destroyed => true
  | _ => false

structure Invariant (state : State senders Msg) : Prop where
  senderHolds : ∀ i, (state.sender i).holds = true ↔ state.holder = some (.sender i)
  receiverHolds : state.receiver.holds = true ↔ state.holder = some .receiver
  pushing : ∀ i msg, state.sender i = .pushing msg → state.stopped = false
  flag : state.stopped = state.receiver.hasStopped
  waiting : state.receiver = .waiting → state.messages = []
  taking : state.receiver = .taking → state.messages ≠ []
  asleep : state.receiver = .sleeping → state.messages ≠ [] →
    ∃ i, (state.sender i).announces = true
  destroyed : state.receiver = .destroyed → state.messages = []

variable {state next final : State senders Msg} {i : Fin senders}
  {events : List (Event senders Msg)}

theorem invariant_initial : Invariant (initial : State senders Msg) where
  senderHolds := by simp [initial]
  receiverHolds := by simp [initial]
  pushing := by simp [initial]
  flag := by simp [initial]
  waiting := by simp [initial]
  taking := by simp [initial]
  asleep := by simp [initial]
  destroyed := by simp [initial]

/-! ## What a step does -/

/-- The calls begin from outside. -/
theorem setMessage_cases {msg : Msg} (taken : step state (.setMessage i msg) = some next) :
    state.sender i = .outside ∧ next = state.place i (.locking msg) := by
  simp only [step] at taken
  split at taken
  next position => exact ⟨position, (Option.some.inj taken).symm⟩
  next => cases taken

/-- The statements of `SetMessage`, with what they show. -/
inductive SenderStep (state : State senders Msg) (i : Fin senders) :
    List (Event senders Msg) → State senders Msg → Prop where
  | lock (msg : Msg) (position : state.sender i = .locking msg) (free : state.holder = none) :
      SenderStep state i [] { state.place i (.testing msg) with holder := some (.sender i) }
  | open (msg : Msg) (position : state.sender i = .testing msg) (unset : state.stopped = false) :
      SenderStep state i [] (state.place i (.pushing msg))
  | closed (msg : Msg) (position : state.sender i = .testing msg) (set : state.stopped = true) :
      SenderStep state i [.dropped i msg] (state.place i .dropping)
  | push (msg : Msg) (position : state.sender i = .pushing msg) :
      SenderStep state i [.pushed i msg]
        { state.place i .unlocking with messages := state.messages ++ [msg] }
  | unlock (position : state.sender i = .unlocking) :
      SenderStep state i [] { state.place i .notifying with holder := none }
  | notify (position : state.sender i = .notifying) :
      SenderStep state i [] (state.place i .outside).notify
  | drop (position : state.sender i = .dropping) :
      SenderStep state i [] { state.place i .outside with holder := none }

theorem senderStep_of_step (taken : state.stepSender i = some next) :
    SenderStep state i (shows state (.sender i)) next := by
  unfold State.stepSender at taken
  simp only [shows]
  cases position : state.sender i with
  | outside => simp [position] at taken
  | locking msg =>
      cases free : state.holder with
      | none =>
          simp only [position, free, Option.some.injEq] at taken
          exact taken ▸ .lock msg position free
      | some other => simp [position, free] at taken
  | testing msg =>
      simp only [position, Option.some.injEq] at taken
      subst taken
      by_cases flag : state.stopped = true
      · simpa only [flag, if_pos] using SenderStep.closed msg position flag
      · simpa [flag] using SenderStep.open msg position (by simpa using flag)
  | pushing msg =>
      simp only [position, Option.some.injEq] at taken
      exact taken ▸ .push msg position
  | unlocking =>
      simp only [position, Option.some.injEq] at taken
      exact taken ▸ .unlock position
  | notifying =>
      simp only [position, Option.some.injEq] at taken
      exact taken ▸ .notify position
  | dropping =>
      simp only [position, Option.some.injEq] at taken
      exact taken ▸ .drop position

/-- A thread goes on in `SetMessage`, and the mutex and the messages with it. -/
theorem Invariant.place (before : Invariant state) {position : Sender Msg}
    {holder : Option (Holder senders)} {messages : List Msg}
    (holds : position.holds = true ↔ holder = some (.sender i))
    (others : ∀ other, other ≠ .sender i → (holder = some other ↔ state.holder = some other))
    (pushing : ∀ msg, position = .pushing msg → state.stopped = false)
    (content : messages = state.messages ∨ state.holder = some (.sender i) ∧
      state.stopped = false ∧ messages ≠ [] ∧ position.announces = true)
    (announced : state.receiver = .sleeping → (state.sender i).announces = true →
      position.announces = true) :
    Invariant { state.place i position with holder := holder, messages := messages } where
  senderHolds j := by
    rcases eq_or_ne j i with rfl | other
    · simpa using holds
    · rw [others _ (by simpa using other), ← before.senderHolds j]
      simp [other]
  receiverHolds := (before.receiverHolds).trans (others _ (by simp)).symm
  pushing j msg here := by
    rcases eq_or_ne j i with rfl | other
    · exact pushing msg (by simpa using here)
    · exact before.pushing j msg (by simpa [other] using here)
  flag := before.flag
  waiting here := by
    rcases content with same | ⟨locked, -⟩
    · rw [same]
      exact before.waiting here
    · have both := before.receiverHolds.mp (by rw [show state.receiver = .waiting from here]; rfl)
      simp [locked] at both
  taking here := by
    rcases content with same | ⟨-, -, some, -⟩
    · rw [same]
      exact before.taking here
    · exact some
  asleep here some := by
    rcases content with same | ⟨-, -, -, announces⟩
    · obtain ⟨j, announces⟩ := before.asleep here (same ▸ some)
      refine ⟨j, ?_⟩
      rcases eq_or_ne j i with rfl | other
      · simpa using announced here announces
      · simpa [other] using announces
    · exact ⟨i, by simpa using announces⟩
  destroyed here := by
    rcases content with same | ⟨-, unset, -⟩
    · rw [same]
      exact before.destroyed here
    · have set := before.flag
      rw [show state.receiver = .destroyed from here, unset] at set
      cases set

theorem Invariant.notify (before : Invariant state) :
    Invariant state.notify ∧ state.notify.receiver ≠ .sleeping := by
  unfold State.notify
  cases position : state.receiver with
  | sleeping =>
      have holds := before.receiverHolds
      have flag := before.flag
      simp only [position] at holds flag
      exact ⟨⟨before.senderHolds, holds, before.pushing, flag, by simp, by simp, by simp, by simp⟩,
        by simp⟩
  | _ =>
      simp only [← position]
      exact ⟨before, by simp [position]⟩

theorem SenderStep.invariant (taken : SenderStep state i events next) (before : Invariant state) :
    Invariant next := by
  cases taken with
  | lock msg position free =>
      refine before.place ?_ ?_ ?_ (Or.inl rfl) ?_
      · simp
      · intro other different
        simp [free, different.symm]
      · simp
      · simp [position]
  | «open» msg position unset =>
      have locked := (before.senderHolds i).mp (by simp [position])
      refine before.place ?_ (fun _ _ => Iff.rfl) ?_ (Or.inl rfl) ?_
      · simp [locked]
      · exact fun _ _ => unset
      · simp [position]
  | closed msg position set =>
      have locked := (before.senderHolds i).mp (by simp [position])
      refine before.place ?_ (fun _ _ => Iff.rfl) ?_ (Or.inl rfl) ?_
      · simp [locked]
      · simp
      · simp [position]
  | push msg position =>
      have locked := (before.senderHolds i).mp (by simp [position])
      have unset := before.pushing i msg position
      refine before.place ?_ (fun _ _ => Iff.rfl) ?_ (Or.inr ⟨locked, unset, by simp, by simp⟩) ?_
      · simp [locked]
      · simp
      · simp
  | unlock position =>
      have locked := (before.senderHolds i).mp (by simp [position])
      refine before.place ?_ ?_ ?_ (Or.inl rfl) ?_
      · simp
      · intro other different
        simp [locked, different.symm]
      · simp
      · simp
  | notify position =>
      obtain ⟨notified, awake⟩ := before.notify
      refine notified.place ?_ (fun _ _ => Iff.rfl) ?_ (Or.inl rfl) ?_
      · have locked := before.senderHolds i
        simpa [position] using locked
      · simp
      · exact fun asleep => absurd asleep awake
  | drop position =>
      have locked := (before.senderHolds i).mp (by simp [position])
      refine before.place ?_ ?_ ?_ (Or.inl rfl) ?_
      · simp
      · intro other different
        simp [locked, different.symm]
      · simp
      · simp [position]

/-- The beginnings of `GetMessage` and of the destructor, their statements, and a wait that
returns, with what they show. -/
inductive ReceiverStep (state : State senders Msg) :
    List (Event senders Msg) → State senders Msg → Prop where
  | begin (position : Receiver Msg) (outside : state.receiver = .outside)
      (start : position = .entering ∨ position = .stopping) :
      ReceiverStep state [] { state with receiver := position }
  | enter (position : state.receiver = .entering) :
      ReceiverStep state [] { state with receiver := if state.stopped then .outside else .locking }
  | lock (before position : Receiver Msg) (here : state.receiver = before)
      (free : state.holder = none)
      (next : before = .locking ∧ position = .looking ∨ before = .woken ∧ position = .retesting ∨
        before = .stopping ∧ position = .flagging) :
      ReceiverStep state [] { state with holder := some .receiver, receiver := position }
  | look (position : state.receiver = .looking) :
      ReceiverStep state []
        { state with receiver := if state.messages.isEmpty then .waiting else .taking }
  | sleep (position : state.receiver = .waiting) :
      ReceiverStep state [] { state with holder := none, receiver := .sleeping }
  | wake (position : state.receiver = .sleeping) :
      ReceiverStep state [] { state with receiver := .woken }
  | retest (position : state.receiver = .retesting) :
      ReceiverStep state []
        { state with receiver := if state.stopped then .returning none else .looking }
  | take (msg : Msg) (rest : List Msg) (position : state.receiver = .taking)
      (content : state.messages = msg :: rest) :
      ReceiverStep state [.taken msg]
        { state with messages := rest, receiver := .returning (some msg) }
  | leave (result : Option Msg) (position : state.receiver = .returning result) :
      ReceiverStep state [] { state with holder := none, receiver := .outside }
  | setFlag (position : state.receiver = .flagging) :
      ReceiverStep state [.stopped] { state with stopped := true, receiver := .releasing }
  | release (position : state.receiver = .releasing) :
      ReceiverStep state [] { state with holder := none, receiver := .alerting }
  | alert (position : state.receiver = .alerting) :
      ReceiverStep state [] { state with receiver := .discarding }
  | discard (msg : Msg) (rest : List Msg) (position : state.receiver = .discarding)
      (content : state.messages = msg :: rest) :
      ReceiverStep state [.discarded msg] { state with messages := rest }
  | destroy (position : state.receiver = .discarding) (none : state.messages = []) :
      ReceiverStep state [] { state with receiver := .destroyed }

theorem lockReceiver_cases {position : Receiver Msg}
    (taken : state.lockReceiver position = some next) :
    state.holder = none ∧ next = { state with holder := some .receiver, receiver := position } := by
  unfold State.lockReceiver at taken
  cases free : state.holder with
  | none => exact ⟨rfl, by simpa [free] using taken.symm⟩
  | some other => simp [free] at taken

theorem receiverStep_of_step (taken : state.stepReceiver = some next) :
    ReceiverStep state (shows state .receiver) next := by
  unfold State.stepReceiver at taken
  simp only [shows]
  split at taken
  next => cases taken
  next position => simpa [position] using Option.some.inj taken ▸ .enter position
  next position =>
    obtain ⟨free, rfl⟩ := lockReceiver_cases taken
    simpa [position] using .lock _ _ position free (by simp)
  next position => simpa [position] using Option.some.inj taken ▸ .look position
  next position => simpa [position] using Option.some.inj taken ▸ .sleep position
  next => cases taken
  next position =>
    obtain ⟨free, rfl⟩ := lockReceiver_cases taken
    simpa [position] using .lock _ _ position free (by simp)
  next position => simpa [position] using Option.some.inj taken ▸ .retest position
  next position =>
    split at taken
    next => cases taken
    next msg rest content =>
      simpa [position, content] using Option.some.inj taken ▸ .take msg rest position content
  next result position =>
    simpa [position] using Option.some.inj taken ▸ .leave result position
  next position =>
    obtain ⟨free, rfl⟩ := lockReceiver_cases taken
    simpa [position] using .lock _ _ position free (by simp)
  next position => simpa [position] using Option.some.inj taken ▸ .setFlag position
  next position => simpa [position] using Option.some.inj taken ▸ .release position
  next position => simpa [position] using Option.some.inj taken ▸ .alert position
  next position =>
    split at taken
    next content =>
      simpa [position, content] using Option.some.inj taken ▸ .destroy position content
    next msg rest content =>
      simpa [position, content] using Option.some.inj taken ▸ .discard msg rest position content
  next => cases taken

/-- Every step is a call that begins, a statement of `SetMessage`, or one of the receiving
thread. -/
theorem step_cases {label : Label senders Msg} (taken : step state label = some next) :
    (∃ i msg, shows state label = [.called i msg] ∧ state.sender i = .outside ∧
      next = state.place i (.locking msg)) ∨
    (∃ i, SenderStep state i (shows state label) next) ∨
    ReceiverStep state (shows state label) next := by
  cases label with
  | setMessage i msg => exact Or.inl ⟨i, msg, rfl, setMessage_cases taken⟩
  | sender i => exact Or.inr (Or.inl ⟨i, senderStep_of_step taken⟩)
  | receiver => exact Or.inr (Or.inr (receiverStep_of_step taken))
  | getMessage =>
      simp only [step] at taken
      split at taken
      next position => exact Or.inr (Or.inr (Option.some.inj taken ▸ .begin _ position (by simp)))
      next => cases taken
  | destroy =>
      simp only [step] at taken
      split at taken
      next position => exact Or.inr (Or.inr (Option.some.inj taken ▸ .begin _ position (by simp)))
      next => cases taken
  | wake =>
      simp only [step] at taken
      split at taken
      next position => exact Or.inr (Or.inr (Option.some.inj taken ▸ .wake position))
      next => cases taken

/-- The receiving thread goes on, and the mutex and the messages with it. -/
theorem Invariant.receive (before : Invariant state) {position : Receiver Msg}
    {holder : Option (Holder senders)} {messages : List Msg} {stopped : Bool}
    (holds : position.holds = true ↔ holder = some .receiver)
    (others : ∀ i, holder = some (.sender i) ↔ state.holder = some (.sender i))
    (flag : stopped = position.hasStopped)
    (pushing : stopped = state.stopped ∨ state.holder = some .receiver)
    (waiting : position = .waiting → messages = [])
    (taking : position = .taking → messages ≠ [])
    (asleep : position = .sleeping → messages = [])
    (destroyed : position = .destroyed → messages = []) :
    Invariant { state with
      holder := holder, messages := messages, stopped := stopped, receiver := position } where
  senderHolds i := (before.senderHolds i).trans (others i).symm
  receiverHolds := holds
  pushing i msg here := by
    rcases pushing with same | locked
    · exact same.trans (before.pushing i msg here)
    · have both := (before.senderHolds i).mp (by
        rw [show state.sender i = .pushing msg from here]
        rfl)
      rw [locked] at both
      cases both
  flag := flag
  waiting := waiting
  taking := taking
  asleep here some := absurd (asleep here) some
  destroyed := destroyed

theorem ReceiverStep.invariant (taken : ReceiverStep state events next) (before : Invariant state) :
    Invariant next := by
  have flag := before.flag
  have holds := before.receiverHolds
  cases taken with
  | begin position outside start =>
      rw [outside] at flag holds
      have free : state.holder ≠ some .receiver := fun locked => by simpa using holds.mpr locked
      rcases start with rfl | rfl
      all_goals
        exact before.receive (by simpa using free) (fun _ => Iff.rfl) flag (Or.inl rfl) (by simp)
          (by simp) (by simp) (by simp)
  | enter position =>
      rw [position] at flag holds
      have free : state.holder ≠ some .receiver := fun locked => by simpa using holds.mpr locked
      have unset : state.stopped = false := flag
      rw [if_neg (by simp [unset])]
      exact before.receive (by simpa using free) (fun _ => Iff.rfl) flag (Or.inl rfl) (by simp)
        (by simp) (by simp) (by simp)
  | lock old position here free moved =>
      rw [here] at flag
      have others :
          ∀ i, some Holder.receiver = some (.sender i) ↔ state.holder = some (.sender i) := by
        simp [free]
      rcases moved with ⟨rfl, rfl⟩ | ⟨rfl, rfl⟩ | ⟨rfl, rfl⟩
      all_goals
        exact before.receive (by simp) others flag (Or.inl rfl) (by simp) (by simp) (by simp)
          (by simp)
  | look position =>
      rw [position] at flag holds
      have locked : state.holder = some .receiver := holds.mp rfl
      cases content : state.messages with
      | nil =>
          have waits : Invariant { state with receiver := .waiting } :=
            before.receive (by simpa using locked) (fun _ => Iff.rfl) flag (Or.inl rfl)
              (fun _ => content) (by simp) (by simp) (by simp)
          simpa [content] using waits
      | cons msg rest =>
          have takes : Invariant { state with receiver := .taking } :=
            before.receive (by simpa using locked) (fun _ => Iff.rfl) flag (Or.inl rfl) (by simp)
              (fun _ => by simp [content]) (by simp) (by simp)
          simpa [content] using takes
  | sleep position =>
      rw [position] at flag holds
      have locked : state.holder = some .receiver := holds.mp rfl
      exact before.receive (by simp) (by simp [locked]) flag (Or.inl rfl) (by simp) (by simp)
        (fun _ => before.waiting position) (by simp)
  | wake position =>
      rw [position] at flag holds
      have free : state.holder ≠ some .receiver := fun locked => by simpa using holds.mpr locked
      exact before.receive (by simpa using free) (fun _ => Iff.rfl) flag (Or.inl rfl) (by simp)
        (by simp) (by simp) (by simp)
  | retest position =>
      rw [position] at flag holds
      have locked : state.holder = some .receiver := holds.mp rfl
      have unset : state.stopped = false := flag
      rw [if_neg (by simp [unset])]
      exact before.receive (by simpa using locked) (fun _ => Iff.rfl) flag (Or.inl rfl) (by simp)
        (by simp) (by simp) (by simp)
  | take msg rest position content =>
      rw [position] at flag holds
      have locked : state.holder = some .receiver := holds.mp rfl
      exact before.receive (by simpa using locked) (fun _ => Iff.rfl) flag (Or.inl rfl) (by simp)
        (by simp) (by simp) (by simp)
  | leave result position =>
      rw [position] at flag holds
      have locked : state.holder = some .receiver := holds.mp rfl
      exact before.receive (by simp) (by simp [locked]) flag (Or.inl rfl) (by simp) (by simp)
        (by simp) (by simp)
  | setFlag position =>
      rw [position] at holds
      have locked : state.holder = some .receiver := holds.mp rfl
      exact before.receive (by simpa using locked) (fun _ => Iff.rfl) rfl (Or.inr locked) (by simp)
        (by simp) (by simp) (by simp)
  | release position =>
      rw [position] at flag holds
      have locked : state.holder = some .receiver := holds.mp rfl
      exact before.receive (by simp) (by simp [locked]) flag (Or.inl rfl) (by simp) (by simp)
        (by simp) (by simp)
  | alert position =>
      rw [position] at flag holds
      have free : state.holder ≠ some .receiver := fun locked => by simpa using holds.mpr locked
      exact before.receive (by simpa using free) (fun _ => Iff.rfl) flag (Or.inl rfl) (by simp)
        (by simp) (by simp) (by simp)
  | discard msg rest position content =>
      exact before.receive holds (fun _ => Iff.rfl) flag (Or.inl rfl) (by simp [position])
        (by simp [position]) (by simp [position]) (by simp [position])
  | destroy position none =>
      rw [position] at flag holds
      have free : state.holder ≠ some .receiver := fun locked => by simpa using holds.mpr locked
      exact before.receive (by simpa using free) (fun _ => Iff.rfl) flag (Or.inl rfl) (by simp)
        (by simp) (by simp) (fun _ => none)

theorem Invariant.preserved {label : Label senders Msg} (before : Invariant state)
    (taken : step state label = some next) : Invariant next := by
  rcases step_cases taken with ⟨i, msg, -, position, rfl⟩ | ⟨i, moved⟩ | moved
  · have free : state.holder ≠ some (.sender i) := fun locked => by
      simpa [position] using (before.senderHolds i).mpr locked
    exact before.place (by simpa using free) (fun _ _ => Iff.rfl) (by simp) (Or.inl rfl)
      (by simp [position])
  · exact moved.invariant before
  · exact moved.invariant before

end AthabascaRecon.MessageQueue
