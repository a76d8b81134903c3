import AthabascaRecon.Bonelab.MessageQueue
import Mathlib.Algebra.BigOperators.Group.Finset.Basic
import Mathlib.Data.Fintype.BigOperators

/-!
# What a queue of messages delivers

In every interleaving the messages leave the queue in the order in which they were pushed,
and each call of `SetMessage` pushes its message once, or drops it when the queue is stopped
already (`setMessage_delivers`).

No notification is lost. The threads execute a bounded number of statements inside their
calls, and where none can go on every call has ended, except `GetMessage` on an empty queue
(`calls_end`).
-/

set_option autoImplicit false

namespace AthabascaRecon.MessageQueue

open Runs

variable {senders : ℕ} {Msg : Type} {state next final : State senders Msg} {i : Fin senders}
  {events : List (Event senders Msg)}

/-! ## First in, first out -/

theorem step_balanced {label : Label senders Msg} (taken : step state label = some next) :
    state.messages ++ (shows state label).flatMap Event.entering =
      (shows state label).flatMap Event.leaving ++ next.messages := by
  rcases step_cases taken with ⟨i, msg, shown, -, rfl⟩ | ⟨i, moved⟩ | moved
  · simp [shown, Event.entering, Event.leaving]
  · generalize shows state label = events at moved
    cases moved <;> simp [Event.entering, Event.leaving]
  · generalize shows state label = events at moved
    cases moved <;> simp_all [Event.entering, Event.leaving]

theorem SenderStep.calls (moved : SenderStep state i events next) (j : Fin senders) :
    (state.sender j).unsettled ++ events.flatMap (Event.calledBy j) =
      events.flatMap (Event.settledBy j) ++ (next.sender j).unsettled := by
  rcases eq_or_ne j i with rfl | other
  · cases moved <;> simp [Event.calledBy, Event.settledBy, *]
  · cases moved <;> simp [Event.calledBy, Event.settledBy, other, other.symm]

theorem ReceiverStep.calls (moved : ReceiverStep state events next) (j : Fin senders) :
    (state.sender j).unsettled ++ events.flatMap (Event.calledBy j) =
      events.flatMap (Event.settledBy j) ++ (next.sender j).unsettled := by
  cases moved <;> simp [Event.calledBy, Event.settledBy]

theorem step_calls {label : Label senders Msg} (taken : step state label = some next)
    (j : Fin senders) :
    (state.sender j).unsettled ++ (shows state label).flatMap (Event.calledBy j) =
      (shows state label).flatMap (Event.settledBy j) ++ (next.sender j).unsettled := by
  rcases step_cases taken with ⟨i, msg, shown, position, rfl⟩ | ⟨i, moved⟩ | moved
  · rw [shown]
    rcases eq_or_ne j i with rfl | other
    · simp [Event.calledBy, Event.settledBy, position]
    · simp [Event.calledBy, Event.settledBy, other, other.symm]
  · exact moved.calls j
  · exact moved.calls j

theorem step_stopped {label : Label senders Msg} (taken : step state label = some next)
    (set : state.stopped = true) : next.stopped = true := by
  rcases step_cases taken with ⟨i, msg, -, -, rfl⟩ | ⟨i, moved⟩ | moved
  · exact set
  · generalize shows state label = events at moved
    cases moved <;> exact set
  · generalize shows state label = events at moved
    cases moved <;> first | exact set | rfl

theorem SenderStep.stopped (moved : SenderStep state i events next) :
    next.stopped = state.stopped := by
  cases moved <;> rfl

/-- The flag is set by one statement. -/
theorem step_sets {label : Label senders Msg} (taken : step state label = some next)
    (unset : state.stopped = false) (set : next.stopped = true) :
    shows state label = [.stopped] := by
  rcases step_cases taken with ⟨i, msg, -, -, rfl⟩ | ⟨i, moved⟩ | moved
  · exact absurd set (by simpa [State.place] using unset)
  · rw [moved.stopped, unset] at set
    cases set
  · generalize shows state label = events at moved
    cases moved <;> simp_all

theorem Invariant.not_late {label : Label senders Msg} (invariant : Invariant state)
    (taken : step state label = some next) (unset : next.stopped = false) :
    ∀ event ∈ shows state label, ¬ event.Late := by
  have flag := invariant.flag
  rcases step_cases taken with ⟨i, msg, shown, -, -⟩ | ⟨i, moved⟩ | moved
  · simp [shown, Event.Late]
  · have same := moved.stopped
    generalize shows state label = events at moved
    cases moved <;> simp_all [Event.Late]
  · generalize shows state label = events at moved
    cases moved <;> simp_all [Event.Late]

theorem Invariant.not_early {label : Label senders Msg} (invariant : Invariant state)
    (taken : step state label = some next) (set : state.stopped = true) :
    ∀ event ∈ shows state label, ¬ event.Early := by
  have flag := invariant.flag
  rcases step_cases taken with ⟨i, msg, shown, -, -⟩ | ⟨i, moved⟩ | moved
  · simp [shown, Event.Early]
  · generalize shows state label = events at moved
    cases moved with
    | push msg position => simp [invariant.pushing i msg position] at set
    | _ => simp [Event.Early]
  · generalize shows state label = events at moved
    cases moved <;> simp_all [Event.Early]

/-- The statement reads or changes the list of messages. -/
def Sender.touches : Sender Msg → Bool
  | .pushing _ => true
  | _ => false

def Receiver.touches : Receiver Msg → Bool
  | .looking => true
  | .taking => true
  | .discarding => true
  | _ => false

/-- What was pushed leaves the queue in its order, each call ends with its message pushed or
dropped, the queue takes messages up to its stop and drops them from then on, and the list of
messages is touched by one thread at a time. The object is there as long as it is called. -/
structure FirstInFirstOut (events : List (Event senders Msg)) (final : State senders Msg) :
    Prop where
  queue : events.flatMap Event.entering = events.flatMap Event.leaving ++ final.messages
  calls : ∀ i, events.flatMap (Event.calledBy i) =
    events.flatMap (Event.settledBy i) ++ (final.sender i).unsettled
  parts : (final.stopped = false ∧ ∀ event ∈ events, ¬ event.Late) ∨
    ∃ before after, events = before ++ .stopped :: after ∧ (∀ event ∈ before, ¬ event.Late) ∧
      ∀ event ∈ after, ¬ event.Early
  alone : ∀ i, (final.sender i).touches = true →
    final.receiver.touches = false ∧ ∀ j, (final.sender j).touches = true → j = i

theorem Invariant.alone (invariant : Invariant state) (touching : (state.sender i).touches = true) :
    state.receiver.touches = false ∧ ∀ j, (state.sender j).touches = true → j = i := by
  obtain ⟨msg, position⟩ : ∃ msg, state.sender i = .pushing msg := by
    cases position : state.sender i <;> simp_all [Sender.touches]
  have locked := (invariant.senderHolds i).mp (by simp [position])
  have unset := invariant.pushing i msg position
  constructor
  · have flag := invariant.flag
    have holds := invariant.receiverHolds
    cases here : state.receiver <;> simp_all [Receiver.touches]
  · intro j touchingToo
    have lockedToo := (invariant.senderHolds j).mp (by
      cases here : state.sender j <;> simp_all [Sender.touches])
    simpa [locked] using lockedToo.symm

/-- In every interleaving, with any number of senders. -/
theorem setMessage_delivers {schedule : List (Label senders Msg)}
    (taken : run step initial schedule = some final) :
    FirstInFirstOut (trace step shows initial schedule) final where
  queue := trace_balance (fun _ _ _ => Invariant.preserved) (fun _ _ _ _ => step_balanced)
    invariant_initial taken
  calls i := trace_balance (fun _ _ _ => Invariant.preserved)
    (fun _ _ _ _ taken => step_calls taken i) invariant_initial taken
  parts := trace_parts (fun _ _ _ => Invariant.preserved) (fun _ _ _ _ => step_stopped)
    (fun _ _ _ _ => step_sets) (fun _ _ _ => Invariant.not_late)
    (fun _ _ _ => Invariant.not_early) invariant_initial rfl taken
  alone _ := (invariant_run (fun _ _ _ => Invariant.preserved) invariant_initial taken).alone

/-- The second sender overtakes the first one, and pushes while the receiver sleeps. -/
def overtaken : List (Label 2 ℕ) :=
  [.getMessage, .receiver, .receiver, .setMessage 0 7, .receiver, .setMessage 1 8, .receiver,
    .sender 1, .sender 1, .sender 1, .sender 1, .sender 0, .sender 0, .sender 0, .sender 0,
    .sender 1, .receiver, .receiver, .receiver, .receiver]

theorem overtaken_delivers : ∃ final, run step initial overtaken = some final ∧
    final.messages = [7] ∧ FirstInFirstOut (trace step shows initial overtaken) final :=
  ⟨_, rfl, rfl, setMessage_delivers rfl⟩

/-! ## Every call comes to its end -/

/-- The steps that a thread is going to take in its call at most, with those of the receiver
that its notification makes. -/
def Sender.work : Sender Msg → ℕ
  | .outside => 0
  | .dropping => 1
  | .notifying => 6
  | .unlocking => 7
  | .pushing _ => 9
  | .testing _ => 10
  | .locking _ => 11

def Receiver.work : Receiver Msg → ℕ
  | .outside => 0
  | .sleeping => 0
  | .destroyed => 0
  | .returning _ => 1
  | .waiting => 1
  | .discarding => 1
  | .taking => 2
  | .alerting => 2
  | .looking => 3
  | .releasing => 3
  | .retesting => 4
  | .locking => 4
  | .flagging => 4
  | .woken => 5
  | .entering => 5
  | .stopping => 5

/-- A bound of the statements that are left to be executed. -/
def State.work (state : State senders Msg) : ℕ :=
  ∑ i, (state.sender i).work + state.receiver.work + state.messages.length

/-- A statement inside a call, and not the beginning of a call or a wait that returns for no
reason. -/
def Label.IsStatement : Label senders Msg → Prop
  | .sender _ => True
  | .receiver => True
  | _ => False

theorem sum_work_place (state : State senders Msg) (i : Fin senders) (position : Sender Msg) :
    ∑ j, ((state.place i position).sender j).work + (state.sender i).work =
      ∑ j, (state.sender j).work + position.work := by
  have others : ∑ j ∈ Finset.univ.erase i, ((state.place i position).sender j).work =
      ∑ j ∈ Finset.univ.erase i, (state.sender j).work := by
    refine Finset.sum_congr rfl fun j member => ?_
    rw [State.place_sender_of_ne state (Finset.ne_of_mem_erase member)]
  have before := Finset.add_sum_erase Finset.univ (fun j => (state.sender j).work)
    (Finset.mem_univ i)
  have after := Finset.add_sum_erase Finset.univ
    (fun j => ((state.place i position).sender j).work) (Finset.mem_univ i)
  simp only [State.place_sender_self] at after
  omega

theorem work_place_lt {position : Sender Msg} {holder : Option (Holder senders)}
    {messages : List Msg}
    (less : position.work + messages.length < (state.sender i).work + state.messages.length) :
    State.work { state.place i position with holder := holder, messages := messages } <
      state.work := by
  have placed := sum_work_place state i position
  change ∑ j, ((state.place i position).sender j).work + state.receiver.work + messages.length <
    ∑ j, (state.sender j).work + state.receiver.work + state.messages.length
  omega

theorem work_notify_le (state : State senders Msg) : state.notify.work ≤ state.work + 5 := by
  have receiver : state.notify.receiver.work ≤ state.receiver.work + 5 := by
    unfold State.notify
    cases state.receiver <;> simp [Receiver.work]
  simp only [State.work, State.notify_sender, State.notify_messages]
  omega

theorem SenderStep.work_lt (moved : SenderStep state i events next) : next.work < state.work := by
  cases moved with
  | lock msg position free => exact work_place_lt (by simp [position, Sender.work])
  | «open» msg position unset => exact work_place_lt (by simp [position, Sender.work])
  | closed msg position set => exact work_place_lt (by simp [position, Sender.work])
  | push msg position =>
      refine work_place_lt ?_
      rw [position, List.length_append]
      simp only [Sender.work, List.length_cons, List.length_nil]
      omega
  | unlock position => exact work_place_lt (by simp [position, Sender.work])
  | notify position =>
      have placed := sum_work_place state i .outside
      have notified := work_notify_le (state.place i .outside)
      rw [position] at placed
      have left : (state.place i .outside).work + 6 = state.work := by
        change ∑ j, ((state.place i .outside).sender j).work + state.receiver.work +
          state.messages.length + 6 = ∑ j, (state.sender j).work + state.receiver.work +
          state.messages.length
        simp only [show (Sender.notifying : Sender Msg).work = 6 from rfl,
          show (Sender.outside : Sender Msg).work = 0 from rfl] at placed
        omega
      omega
  | drop position => exact work_place_lt (by simp [position, Sender.work])

/-- A statement of the receiving thread. The first alternative is the beginning of a call. -/
theorem ReceiverStep.work_lt (moved : ReceiverStep state events next)
    (inside : state.receiver ≠ .outside) (awake : state.receiver ≠ .sleeping) :
    next.work < state.work := by
  have less : next.receiver.work + next.messages.length <
      state.receiver.work + state.messages.length := by
    cases moved with
    | begin position outside start => exact absurd outside inside
    | wake position => exact absurd position awake
    | enter position => by_cases set : state.stopped = true <;> simp [position, Receiver.work, set]
    | lock old position here free moved =>
        rcases moved with ⟨rfl, rfl⟩ | ⟨rfl, rfl⟩ | ⟨rfl, rfl⟩ <;> simp [here, Receiver.work]
    | look position =>
        by_cases empty : state.messages.isEmpty = true <;> simp [position, Receiver.work, empty]
    | retest position => by_cases set : state.stopped = true <;> simp [position, Receiver.work, set]
    | take msg rest position content =>
        simp only [position, content, Receiver.work, List.length_cons]
        omega
    | discard msg rest position content => simp [content]
    | sleep position => simp [position, Receiver.work]
    | leave result position => simp [position, Receiver.work]
    | setFlag position => simp [position, Receiver.work]
    | release position => simp [position, Receiver.work]
    | alert position => simp [position, Receiver.work]
    | destroy position none => simp [position, Receiver.work]
  have senders : next.sender = state.sender := by cases moved <;> rfl
  unfold State.work
  rw [senders]
  omega

theorem work_lt_of_statement {label : Label senders Msg} (statement : label.IsStatement)
    (taken : step state label = some next) : next.work < state.work := by
  cases label with
  | sender i => exact (senderStep_of_step taken).work_lt
  | receiver =>
      refine (receiverStep_of_step taken).work_lt ?_ ?_
      · intro outside
        simp [step, State.stepReceiver, outside] at taken
      · intro asleep
        simp [step, State.stepReceiver, asleep] at taken
  | setMessage => exact statement.elim
  | getMessage => exact statement.elim
  | destroy => exact statement.elim
  | wake => exact statement.elim

/-- All calls of `SetMessage` have returned, and the receiving thread has too, or waits for a
queue that is empty. -/
structure Settled (state : State senders Msg) : Prop where
  free : state.holder = none
  senders : ∀ i, state.sender i = .outside
  receiver : state.receiver = .outside ∨
    (state.receiver = .sleeping ∨ state.receiver = .destroyed) ∧ state.messages = []

theorem Invariant.settled (invariant : Invariant state)
    (stuck : ∀ label : Label senders Msg, label.IsStatement → step state label = none) :
    Settled state := by
  have sender : ∀ i, state.stepSender i = none := fun i => stuck (.sender i) trivial
  have receiver : state.stepReceiver = none := stuck .receiver trivial
  have free : state.holder = none := by
    cases locked : state.holder with
    | none => rfl
    | some holder =>
        cases holder with
        | sender i =>
            have holds := (invariant.senderHolds i).mpr locked
            have still := sender i
            unfold State.stepSender at still
            cases position : state.sender i <;> simp_all
        | receiver =>
            have holds := invariant.receiverHolds.mpr locked
            unfold State.stepReceiver at receiver
            cases position : state.receiver with
            | taking =>
                have some := invariant.taking position
                cases content : state.messages with
                | nil => exact absurd content some
                | cons msg rest => simp [position, content] at receiver
            | _ => simp_all
  have outside : ∀ i, state.sender i = .outside := by
    intro i
    have still := sender i
    unfold State.stepSender at still
    cases position : state.sender i <;> simp_all
  refine ⟨free, outside, ?_⟩
  have asleep := invariant.asleep
  have destroyed := invariant.destroyed
  unfold State.stepReceiver State.lockReceiver at receiver
  cases position : state.receiver with
  | outside => exact Or.inl rfl
  | sleeping =>
      refine Or.inr ⟨Or.inl rfl, ?_⟩
      by_contra some
      obtain ⟨i, announces⟩ := asleep position some
      simp [outside i] at announces
  | destroyed => exact Or.inr ⟨Or.inr rfl, destroyed position⟩
  | taking =>
      have holds := invariant.receiverHolds.mp (by simp [position])
      simp [free] at holds
  | discarding =>
      cases content : state.messages <;> simp [position, content] at receiver
  | _ => simp [position, free] at receiver

/-- From every reachable state, whatever the interleaving: the threads execute at most so many
statements inside their calls, and where none of them can go on, every call has ended, except
`GetMessage` on an empty queue. -/
theorem calls_end {schedule statements : List (Label senders Msg)}
    (reached : run step initial schedule = some state)
    (inside : ∀ label ∈ statements, label.IsStatement)
    (taken : run step state statements = some final) :
    statements.length + final.work ≤ state.work ∧
      ((∀ label : Label senders Msg, label.IsStatement → step final label = none) →
        Settled final) := by
  have invariant := invariant_run (fun _ _ _ => Invariant.preserved) invariant_initial reached
  have last := invariant_run (fun _ _ _ => Invariant.preserved) invariant taken
  refine ⟨?_, last.settled⟩
  clear invariant last reached
  induction statements generalizing state with
  | nil =>
      obtain rfl := run_nil_iff.mp taken
      simp
  | cons label statements ih =>
      obtain ⟨next, first, rest⟩ := run_cons_iff.mp taken
      have less := work_lt_of_statement (inside label (by simp)) first
      have later := ih (fun label member => inside label (by simp [member])) rest
      rw [List.length_cons]
      omega

/-- Two calls of `SetMessage` and one of `GetMessage` at the same time. -/
def threeCalls : List (Label 2 ℕ) := [.getMessage, .setMessage 0 7, .setMessage 1 8]

def threeCallsStatements : List (Label 2 ℕ) :=
  [.receiver, .receiver, .receiver, .receiver, .sender 1, .sender 1, .sender 1, .sender 1,
    .sender 0, .sender 0, .sender 1, .sender 0, .sender 0, .receiver, .receiver, .receiver,
    .receiver, .receiver, .sender 0]

theorem threeCalls_end : ∃ state, run step initial threeCalls = some state ∧
    ∃ final, run step state threeCallsStatements = some final ∧
      threeCallsStatements.length + final.work ≤ state.work ∧ final.messages = [7] ∧
        Settled final := by
  have inside : ∀ label ∈ threeCallsStatements, label.IsStatement := by
    simp [threeCallsStatements, Label.IsStatement]
  refine ⟨_, rfl, _, rfl, ?_⟩
  have ended := @calls_end 2 ℕ _ _ threeCalls threeCallsStatements rfl inside rfl
  refine ⟨ended.1, rfl, ended.2 fun label statement => ?_⟩
  cases label with
  | sender i =>
      match i with
      | 0 => rfl
      | 1 => rfl
  | receiver => rfl
  | _ => exact statement.elim

end AthabascaRecon.MessageQueue
