import AthabascaRecon.Engines.MultiThreaded.Refinement

/-!
# The volume file of the multi-threaded runner

Behind the loop the main thread tells one thread after the other to write its subvolume, and
waits for each of them. The volume writer gets the subvolumes in the order of the threads, each
of them once and with every projection, in every interleaving
(`executeOnThreads_writes_volume`).
-/

set_option autoImplicit false

namespace AthabascaRecon.MultiThreaded

open Foundation.Concurrency

variable {stages : Stages} {config : Config} {contents : Contents stages}

/-! ## The volume writer gets more and more -/

theorem volumeStacks_frame {action : MainAction}
    (other : ∀ t, action ≠ .setMessage t .writeVolumeData) (heap : Heap (Val stages)) :
    volumeStacks ((action.command stages).run heap) = volumeStacks heap := by
  refine Command.frame _ heap .volumeWriter fun written => ?_
  cases action with
  | setMessage t message =>
      rcases mem_writes_performMessage stages written with ⟨_, -, never⟩ | never |
        ⟨_, _, -, never⟩ | ⟨same, -⟩
      · cases never
      · cases never
      · cases never
      · exact other t (congrArg _ same)
  | requestIOOperation request =>
      rcases mem_writes_performRequest stages written with ⟨-, never⟩ | never | never | never <;>
        cases never
  | setReferenceProjection slot =>
      simp [MainAction.command, performSetReferenceProjection, assign, Command.assign] at written
  | writeCorrection index =>
      simp [MainAction.command, performWriteCorrection, assign, Command.assign] at written
  | _ => exact absurd written List.not_mem_nil

/-- What a thread writes when it is told to write its subvolume. -/
def stacksOf (heap : Heap (Val stages)) (t : ℕ) : List (List (stages.Projection × stages.Space)) :=
  (threadWorker heap t).elim [] ThreadWorker.writeVolumeData

theorem volumeStacks_writeVolumeData (t : ℕ) (heap : Heap (Val stages)) :
    volumeStacks (((MainAction.setMessage t .writeVolumeData).command stages).run heap) =
      volumeStacks heap ++ stacksOf heap t := by
  simp only [MainAction.command, performMessage, writeVolumeData]
  exact assign_run_self ..

theorem volumeStacks_run (action : MainAction) (heap : Heap (Val stages)) :
    volumeStacks heap <+: volumeStacks ((action.command stages).run heap) := by
  by_cases writes : ∃ t, action = .setMessage t .writeVolumeData
  · obtain ⟨t, rfl⟩ := writes
    rw [volumeStacks_writeVolumeData]
    exact List.prefix_append _ _
  · rw [volumeStacks_frame (not_exists.mp writes)]

theorem volumeStacks_perform (actions : List MainAction) (heap : Heap (Val stages)) :
    volumeStacks heap <+: volumeStacks (perform actions heap) := by
  induction actions generalizing heap with
  | nil => exact List.prefix_rfl
  | cons action rest ih => exact (volumeStacks_run action heap).trans (ih _)

theorem Settles.volume {heap : Heap (Val stages)} {remaining : List MainAction}
    (settles : Settles config contents heap remaining) :
    volumeStacks heap <+: volumeStacks (perform (execute config) contents.heap) := by
  have result : perform remaining heap = perform (execute config) contents.heap := settles.result
  rw [← result]
  exact volumeStacks_perform remaining heap

/-! ## The subvolumes in the order of issue -/

theorem threadWorker_writeVolumeData (t t' : ℕ) (heap : Heap (Val stages)) :
    threadWorker (((MainAction.setMessage t .writeVolumeData).command stages).run heap) t' =
      threadWorker heap t' :=
  Command.frame _ heap (.threadWorker t') (by
    simp [MainAction.command, performMessage, writeVolumeData, assign, Command.assign])

theorem perform_synchronizeOneAndWait (t : ℕ) (heap : Heap (Val stages)) :
    perform (synchronizeOneAndWait t) heap = heap := by
  refine perform_idle ?_ heap
  intro action member
  rcases List.mem_cons.mp member with rfl | member
  · rfl
  · obtain rfl := List.mem_singleton.mp member
    rfl

/-- The loop over the threads. -/
theorem perform_writeVolumes (count : ℕ) (heap : Heap (Val stages)) :
    let after := perform ((List.range count).flatMap fun t =>
      .setMessage t .writeVolumeData :: synchronizeOneAndWait t) heap
    volumeStacks after = volumeStacks heap ++ (List.range count).flatMap (stacksOf heap) ∧
      ∀ t, threadWorker after t = threadWorker heap t := by
  induction count with
  | zero => exact ⟨(List.append_nil _).symm, fun _ => rfl⟩
  | succ count ih =>
      obtain ⟨written, workers⟩ := ih
      rw [List.range_succ, List.flatMap_append, List.flatMap_append, List.flatMap_singleton,
        List.flatMap_singleton, perform_append, perform_cons, perform_synchronizeOneAndWait]
      dsimp only
      refine ⟨?_, fun t => ?_⟩
      · rw [volumeStacks_writeVolumeData, written, stacksOf, workers, List.append_assoc]
        rfl
      · rw [threadWorker_writeVolumeData, workers]

/-- What is executed behind the loop. -/
theorem volumeStacks_finish (heap : Heap (Val stages)) :
    volumeStacks (perform ([.waitForCompletion] ++ writeVolume config ++ fitCorrections config ++
      synchronizeAllAndWait config.numberOfThreads) heap) = volumeStacks heap ++
        if config.volumeWriter then (List.range config.numberOfThreads).flatMap (stacksOf heap)
        else [] := by
  have fitted (heap : Heap (Val stages)) : perform (fitCorrections config) heap = heap := by
    refine perform_idle (forall_mem_ite ?_) heap
    intro action member
    obtain rfl := List.mem_singleton.mp member
    rfl
  rw [perform_append, perform_synchronizeAllAndWait, perform_append, fitted, perform_append,
    perform_cons, perform_nil]
  show volumeStacks (perform (writeVolume config) heap) = _
  by_cases volume : config.volumeWriter = true
  · rw [writeVolume, if_pos volume, if_pos volume]
    exact (perform_writeVolumes config.numberOfThreads heap).1
  · rw [writeVolume, if_neg volume, if_neg volume, List.append_nil, perform_nil]

/-- The stacks that belong to the threads with slices. -/
def Config.subvolumeStacks (config : Config)
    (applied : List (stages.Projection × stages.Space)) :
    List (List (stages.Projection × stages.Space)) :=
  if config.volumeWriter then
    (List.range config.numberOfThreads).flatMap fun t =>
      if config.subvolumeSlices t = 0 then [] else [applied]
  else []

theorem stacksOf_objects (volume : config.volumeWriter = true) {heap : Heap (Val stages)}
    {calculation : Calculation stages} {t count : ℕ}
    (worker : threadWorker heap t = some (objectsOf config calculation t count)) :
    stacksOf heap t =
      if config.subvolumeSlices t = 0 then [] else [calculation.applied count] := by
  rw [stacksOf, worker]
  by_cases none : config.subvolumeSlices t = 0 <;>
    simp [objectsOf, volume, none, ThreadWorker.writeVolumeData, BackProjector.writeVolumeData]

/-- In the order of issue, every subvolume is written once, and the beam power corrector keeps
the reference of the first projection. -/
theorem perform_execute_volume (accepted : config.Accepted) (threads : 0 < config.numberOfThreads)
    (projections : 0 < config.numberOfProjections) (contents : Contents stages) :
    let final := perform (execute config) contents.heap
    let calculation := config.calculation contents
    volumeStacks final = config.subvolumeStacks (calculation.applied config.numberOfProjections) ∧
      (config.rawProjectionsReader = true → config.beamPowerCorrector = true →
        referenceKept final = calculation.reference) := by
  have positive := projectionsPerStep_pos threads projections
  have start : 0 * projectionsPerStep config = 0 := Nat.zero_mul _
  have enough : config.numberOfProjections ≤
      0 * projectionsPerStep config + config.numberOfProjections := by
    omega
  obtain ⟨last, reached, computed⟩ := (computed_start accepted contents).executionLoop accepted
    positive enough (sides_initial config)
  have all : groupStart config last = config.numberOfProjections := min_eq_left reached
  have some_group : last ≠ 0 := by
    rintro rfl
    omega
  rw [start] at computed
  obtain ⟨-, -, -, workers, volumes, reference, -⟩ := computed
  rw [execute_eq, perform_append, perform_append]
  constructor
  · rw [volumeStacks_finish, volumes, List.nil_append, Config.subvolumeStacks]
    by_cases volume : config.volumeWriter = true
    · rw [if_pos volume, if_pos volume]
      refine List.flatMap_congr fun t member => ?_
      rw [stacksOf_objects volume (workers t (List.mem_range.mp member)), all]
    · rw [if_neg volume, if_neg volume]
  · intro raw beam
    have kept := reference raw beam
    rw [if_neg some_group] at kept
    exact (perform_finish_frame .beamPowerCorrector (by simp) _).trans kept

/-- A volume without slices has no subvolumes with slices. -/
theorem subvolumeStacks_execute (accepted : config.Accepted)
    {single : SingleThreaded.Contents stages}
    (sameReference : single.reference = contents.reference) :
    config.subvolumeStacks ((config.calculation contents).applied config.numberOfProjections) =
      config.subvolumeStacks
        (SingleThreaded.execute config.toRunnerConfig single).backProjector.applied := by
  obtain ⟨-, -, -, applied⟩ :=
    @SingleThreaded.execute_eq stages config.toRunnerConfig single accepted
  have same : SingleThreaded.calculation config.toRunnerConfig single =
      config.calculation contents := by
    rw [SingleThreaded.calculation, sameReference]
    rfl
  rw [same] at applied
  unfold Config.subvolumeStacks
  by_cases volume : config.volumeWriter = true
  · rw [if_pos volume, if_pos volume]
    refine List.flatMap_congr fun t _ => ?_
    by_cases none : config.subvolumeSlices t = 0
    · rw [if_pos none, if_pos none]
    · have bound := config.subvolumeSlices_le t
      rw [if_neg none, if_neg none, (applied volume (by omega)).1]
  · rw [if_neg volume, if_neg volume]

/-! ## Every interleaving -/

/-- **The volume writer gets the subvolumes in the order of the threads.** In every state of
every interleaving it has got the first of them, each once and with all the projections that the
single-threaded runner applies, and when the main thread returns it has got all. -/
theorem executeOnThreads_writes_volume (accepted : config.Accepted)
    (threads : 0 < config.numberOfThreads) (projections : 0 < config.numberOfProjections)
    {single : SingleThreaded.Contents stages} {state : State stages}
    (sameReference : single.reference = contents.reference)
    (reachable : ReachableWithoutFailure config contents state) :
    let final := SingleThreaded.execute config.toRunnerConfig single
    volumeStacks state.heap <+: config.subvolumeStacks final.backProjector.applied ∧
      (state.main = .returned →
        volumeStacks state.heap = config.subvolumeStacks final.backProjector.applied ∧
        volumeStacks state.heap = if config.volumeWriter then
          (List.range config.numberOfThreads).flatMap (stacksOf state.heap) else []) := by
  have replayed := replayed_of_reachable accepted threads projections reachable
  obtain ⟨pending, held⟩ := replayed.pending
  have written := (perform_execute_volume accepted threads projections contents).1
  obtain ⟨-, -, -, workers⟩ := perform_execute accepted threads projections contents
  dsimp only
  rw [← subvolumeStacks_execute accepted sameReference, ← written]
  refine ⟨held.settles.volume, fun returned => ?_⟩
  have settled := held.settled_of_returned (replayed.invariant.exited (Or.inl returned)) returned
  have stacksSettled : volumeStacks (perform (execute config) contents.heap) =
      volumeStacks state.heap :=
    settled .volumeWriter (by simp) (by simp) (by simp) (by simp)
  refine ⟨stacksSettled.symm, ?_⟩
  rw [← stacksSettled, written, Config.subvolumeStacks]
  by_cases volume : config.volumeWriter = true
  · rw [if_pos volume, if_pos volume]
    refine List.flatMap_congr fun t member => ?_
    have worker : threadWorker (perform (execute config) contents.heap) t =
        threadWorker state.heap t :=
      settled (.threadWorker t) (by simp) (by simp) (by simp) (by simp)
    rw [stacksOf_objects volume (worker.symm.trans (workers t (List.mem_range.mp member)))]
  · rw [if_neg volume, if_neg volume]

/-- The subvolumes of both threads are written, with the three projections. -/
theorem untilBothReturn_writes_volume :
    ∃ state, run twoThreads (State.initial twoThreads numberContents) untilBothReturn =
        some state ∧ state.main = .returned ∧
      volumeStacks state.heap = List.replicate 2
        [((0 : ℕ), (0 : ℕ)), ((1 : ℕ), (1 : ℕ)), ((2 : ℕ), (2 : ℕ))] := by
  obtain ⟨state, taken, returned⟩ := untilBothReturn_returns
  have noFailure : ∀ label ∈ untilBothReturn, label.throws = false := by
    decide +kernel
  have sameReference : numberSingle.reference = numberContents.reference := rfl
  obtain ⟨-, complete⟩ := executeOnThreads_writes_volume twoThreads_accepted (by decide)
    (by decide) sameReference ⟨untilBothReturn, taken, noFailure⟩
  exact ⟨state, taken, returned, (complete returned).1⟩

end AthabascaRecon.MultiThreaded
