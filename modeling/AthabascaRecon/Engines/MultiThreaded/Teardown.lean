import AthabascaRecon.Engines.MultiThreaded.Progress

/-!
# The worker threads when `ExecuteOnThreads` is left

The IO processor and the images are local to `ExecuteOnThreads`, while the worker
threads outlive it. However the main thread leaves, and whatever the IO processor
still does, no worker thread has anything left to do with them.
-/

set_option autoImplicit false

namespace AthabascaRecon.MultiThreaded

variable {stages : Stages} {config : Config} {state state' : State stages}

/-- Once the main thread has left, it has left for good. -/
theorem Invariant.exited_run (invariant : Invariant config state) (exited : state.Exited)
    {schedule : List (Label stages)}
    (taken : MultiThreaded.run config state schedule = some state') :
    state'.Exited := by
  induction schedule generalizing state with
  | nil => exact (Option.some.inj taken) ▸ exited
  | cons label schedule ih =>
      obtain ⟨middle, first, rest⟩ := Option.bind_eq_some_iff.mp taken
      obtain ⟨exited', -, -⟩ := exited.step (invariant.exited exited) invariant.awake first
      exact ih (invariant.step first) exited' rest

/-- **Teardown is quiescent.** Wherever the main thread leaves `ExecuteOnThreads`, no
worker thread is executing a message and no message is queued, and however the run
goes on no worker thread takes a step. -/
theorem executeOnThreads_leaves_quiescent (accepted : config.Accepted)
    (threads : 0 < config.numberOfThreads) (projections : 0 < config.numberOfProjections)
    {contents : Contents stages} (reachable : Reachable config contents state)
    (exited : state.Exited) :
    (∀ t, state.worker t = .idle ∧ state.queue t = []) ∧
      ∀ schedule state', run config state schedule = some state' →
        ∀ t, step config state' (.worker t) = none ∧
          ∀ exception garbage, step config state' (.workerThrows t exception garbage) = none := by
  have invariant := invariant_of_reachable accepted threads projections reachable
  refine ⟨(invariant.exited exited).idle, fun schedule state' taken t => ?_⟩
  have invariant' := invariant.run taken
  obtain ⟨idle, empty⟩ := (invariant'.exited (invariant.exited_run exited taken)).idle t
  exact ⟨by simp [step, State.stepWorker, idle, empty],
    fun exception garbage => by simp [step, State.workerThrows, idle]⟩

/-- A schedule in which threads take some steps one after another. -/
def turns (labels : List (Label numberStages × ℕ)) : List (Label numberStages) :=
  labels.flatMap fun turn => List.replicate turn.2 turn.1

/-- The worker threads filter two projections that have been read. The second one is woken too
early, and sleeps again. -/
def untilFirstBarrier : List (Label numberStages) :=
  untilBothSleep ++ turns [(.io, 3), (.worker 0, 6), (.worker 1, 2), (.io, 3), (.worker 1, 6),
    (.io, 3), (.release .meAndAllWorkers, 1)]

/-- Both groups are back-projected, and the volume is written out. -/
def untilBothReturn : List (Label numberStages) :=
  untilFirstBarrier ++ turns [(.main, 8), (.worker 0, 6), (.worker 1, 6),
    (.release .meAndAllWorkers, 1), (.main, 6), (.worker 0, 7), (.worker 1, 2),
    (.release .meAndAllWorkers, 1), (.main, 5), (.worker 0, 4), (.worker 1, 4),
    (.release .meAndAllWorkers, 1), (.main, 5), (.worker 0, 4), (.release .meAndOneWorker, 1),
    (.main, 2), (.worker 1, 4), (.release .meAndOneWorker, 1), (.main, 2), (.worker 0, 2),
    (.worker 1, 2), (.release .meAndAllWorkers, 1), (.main, 1)]

theorem untilBothReturn_returns :
    ∃ state, run twoThreads (State.initial twoThreads numberContents) untilBothReturn =
      some state ∧ state.main = .returned := by
  have returns : (run twoThreads (State.initial twoThreads numberContents) untilBothReturn).map
      State.main = some .returned := by
    decide +kernel
  exact Option.map_eq_some_iff.mp returns

theorem untilBothReturn_leaves_quiescent :
    ∃ state, run twoThreads (State.initial twoThreads numberContents) untilBothReturn =
        some state ∧ state.main = .returned ∧
      (state.queue 0 = [] ∧ state.queue 1 = []) ∧
      step twoThreads state (.worker 0) = none ∧ step twoThreads state (.worker 1) = none := by
  obtain ⟨state, taken, returned⟩ := untilBothReturn_returns
  have reachable : Reachable twoThreads numberContents state := ⟨untilBothReturn, taken⟩
  obtain ⟨quiet, stays⟩ := executeOnThreads_leaves_quiescent twoThreads_accepted (by decide)
    (by decide) reachable (Or.inl returned)
  exact ⟨state, taken, returned, ⟨(quiet 0).2, (quiet 1).2⟩, (stays [] state rfl 0).1,
    (stays [] state rfl 1).1⟩

end AthabascaRecon.MultiThreaded
