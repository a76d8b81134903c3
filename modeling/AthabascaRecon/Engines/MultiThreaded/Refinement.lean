import AthabascaRecon.Engines.MultiThreaded.Outputs
import AthabascaRecon.Engines.MultiThreaded.Teardown

/-!
# The multi-threaded runner refines the single-threaded one

Whatever the interleaving, the memory still leads to what the program leads to in the
order of issue, and every statement only adds to what was written and back-projected
before. So at any moment the files and the volumes hold first parts of what the
single-threaded runner gives.
-/

set_option autoImplicit false

namespace AthabascaRecon.MultiThreaded

open Foundation.Concurrency

variable {stages : Stages} {config : Config} {contents : Contents stages}

/-! ## Outputs only grow -/

/-- The files of the first memory are first parts of those of the second. -/
structure LogsExtend (before after : Heap (Val stages)) : Prop where
  corrections : correctionLines before <+: correctionLines after
  attenuation : attenuationSlices before <+: attenuationSlices after
  filtered : filteredSlices before <+: filteredSlices after

theorem LogsExtend.refl (heap : Heap (Val stages)) : LogsExtend heap heap :=
  ⟨List.prefix_rfl, List.prefix_rfl, List.prefix_rfl⟩

theorem LogsExtend.trans {first second third : Heap (Val stages)}
    (before : LogsExtend first second) (after : LogsExtend second third) :
    LogsExtend first third :=
  ⟨before.corrections.trans after.corrections, before.attenuation.trans after.attenuation,
    before.filtered.trans after.filtered⟩

section Growth

variable (command : Command (Val stages)) (heap : Heap (Val stages))

theorem correctionLines_frame (other : .attenuationCorrectionsFile ∉ command.writes) :
    correctionLines heap <+: correctionLines (command.run heap) := by
  have same : correctionLines (command.run heap) = correctionLines heap :=
    command.frame heap .attenuationCorrectionsFile other
  rw [same]

theorem attenuationSlices_frame (other : .attenuationProjectionsWriter ∉ command.writes) :
    attenuationSlices heap <+: attenuationSlices (command.run heap) := by
  have same : attenuationSlices (command.run heap) = attenuationSlices heap :=
    command.frame heap .attenuationProjectionsWriter other
  rw [same]

theorem filteredSlices_frame (other : .filteredProjectionsWriter ∉ command.writes) :
    filteredSlices heap <+: filteredSlices (command.run heap) := by
  have same : filteredSlices (command.run heap) = filteredSlices heap :=
    command.frame heap .filteredProjectionsWriter other
  rw [same]

theorem logsExtend_frame (noLines : .attenuationCorrectionsFile ∉ command.writes)
    (noAttenuation : .attenuationProjectionsWriter ∉ command.writes)
    (noFiltered : .filteredProjectionsWriter ∉ command.writes) :
    LogsExtend heap (command.run heap) :=
  ⟨correctionLines_frame command heap noLines, attenuationSlices_frame command heap noAttenuation,
    filteredSlices_frame command heap noFiltered⟩

end Growth

/-- Every statement leaves the files or adds to one of them. -/
theorem logsExtend_run (action : MainAction) (heap : Heap (Val stages)) :
    LogsExtend heap ((action.command stages).run heap) := by
  cases action with
  | setMessage t message =>
      have noFile : ∀ location ∈ (performMessage stages t message).writes,
          (∃ buffer, location = .image buffer) ∨ location = .threadWorker t ∨
            (∃ index, location = .correction index) ∨ location = .volumeWriter := by
        intro location written
        rcases mem_writes_performMessage stages written with
          ⟨buffer, -, same⟩ | same | ⟨index, -, -, same⟩ | ⟨-, same⟩
        · exact Or.inl ⟨buffer, same⟩
        · exact Or.inr (Or.inl same)
        · exact Or.inr (Or.inr (Or.inl ⟨index, same⟩))
        · exact Or.inr (Or.inr (Or.inr same))
      refine logsExtend_frame _ heap ?_ ?_ ?_
      all_goals
        intro written
        simpa using noFile _ written
  | requestIOOperation request =>
      cases request with
      | writeAttenuation slot =>
          refine ⟨correctionLines_frame _ heap ?_, ?_, filteredSlices_frame _ heap ?_⟩
          · simp [MainAction.command, performRequest, assign, Command.assign]
          · have appended : attenuationSlices
                ((performRequest stages (.writeAttenuation slot)).run heap) =
                  attenuationSlices heap ++ [attenuationImage heap slot] := by
              simp only [performRequest]
              exact assign_run_self ..
            exact appended ▸ List.prefix_append _ _
          · simp [MainAction.command, performRequest, assign, Command.assign]
      | writeFiltered slot =>
          refine ⟨correctionLines_frame _ heap ?_, attenuationSlices_frame _ heap ?_, ?_⟩
          · simp [MainAction.command, performRequest, assign, Command.assign]
          · simp [MainAction.command, performRequest, assign, Command.assign]
          · have appended : filteredSlices
                ((performRequest stages (.writeFiltered slot)).run heap) =
                  filteredSlices heap ++ [filteredImage heap slot] := by
              simp only [performRequest]
              exact assign_run_self ..
            exact appended ▸ List.prefix_append _ _
      | _ =>
          refine logsExtend_frame _ heap ?_ ?_ ?_
          all_goals
            intro written
            rcases performRequest_writes_read rfl written with never | never <;> cases never
  | setReferenceProjection slot =>
      refine logsExtend_frame _ heap ?_ ?_ ?_
      all_goals
        simp [MainAction.command, performSetReferenceProjection, assign, Command.assign]
  | writeCorrection index =>
      refine ⟨?_, attenuationSlices_frame _ heap ?_, filteredSlices_frame _ heap ?_⟩
      · have appended : correctionLines ((performWriteCorrection stages index).run heap) =
            correctionLines heap ++ [correctionAt heap index] := by
          simp only [performWriteCorrection]
          exact assign_run_self ..
        exact appended ▸ List.prefix_append _ _
      · simp [MainAction.command, performWriteCorrection, assign, Command.assign]
      · simp [MainAction.command, performWriteCorrection, assign, Command.assign]
  | _ => exact LogsExtend.refl heap

theorem logsExtend_perform (actions : List MainAction) (heap : Heap (Val stages)) :
    LogsExtend heap (perform actions heap) := by
  induction actions generalizing heap with
  | nil => exact LogsExtend.refl heap
  | cons action rest ih => exact (logsExtend_run action heap).trans (ih _)

/-- As long as no objects are created, back-projections are only added. -/
theorem appliedBy_perform {actions : List MainAction} {t : ℕ}
    (noObject : ∀ message, .setMessage t message ∈ actions → message.creates = false)
    (heap : Heap (Val stages)) : appliedBy heap t <+: appliedBy (perform actions heap) t := by
  induction actions generalizing heap with
  | nil => exact List.prefix_rfl
  | cons action rest ih =>
      have later := ih (fun message member => noObject message (List.mem_cons_of_mem _ member))
        ((action.command stages).run heap)
      refine List.IsPrefix.trans ?_ later
      rcases appliedBy_run_cases action heap t with ⟨projection, index, -, grown⟩ |
        ⟨message, rfl, creates, -⟩ | same
      · exact grown
      · rw [noObject message List.mem_cons_self] at creates
        cases creates
      · rw [same]

/-- What was applied is never taken back on the way to the result. -/
theorem Settles.applied {heap : Heap (Val stages)} {remaining : List MainAction}
    (settles : Settles config contents heap remaining) (t : ℕ) :
    appliedBy heap t <+: appliedBy (perform (execute config) contents.heap) t := by
  have result : perform remaining heap = perform (execute config) contents.heap := settles.result
  rw [← result]
  by_cases nothing : appliedBy heap t = []
  · rw [nothing]
    exact List.nil_prefix
  · exact appliedBy_perform (settles.created t nothing) heap

theorem Settles.logs {heap : Heap (Val stages)} {remaining : List MainAction}
    (settles : Settles config contents heap remaining) :
    LogsExtend heap (perform (execute config) contents.heap) := by
  have result : perform remaining heap = perform (execute config) contents.heap := settles.result
  rw [← result]
  exact logsExtend_perform remaining heap

/-! ## The result -/

section Result

variable {single : SingleThreaded.Contents stages} (accepted : config.Accepted)
  (threads : 0 < config.numberOfThreads) (projections : 0 < config.numberOfProjections)
  (sameReference : single.reference = contents.reference)

include accepted threads projections sameReference

/-- In the order of issue, the program writes the files that the single-threaded runner
writes. -/
theorem perform_execute_files :
    let final := SingleThreaded.execute config.toRunnerConfig single
    let result := perform (execute config) contents.heap
    correctionLines result = final.attenuationCorrectionsFile ∧
      attenuationSlices result = final.attenuationProjectionsWriter ∧
      filteredSlices result = final.filteredProjectionsWriter := by
  obtain ⟨corrections, attenuation, filtered, -⟩ :=
    perform_execute accepted threads projections contents
  obtain ⟨corrections', attenuation', filtered', -⟩ :=
    @SingleThreaded.execute_eq stages config.toRunnerConfig single accepted
  have same : SingleThreaded.calculation config.toRunnerConfig single =
      config.calculation contents := by
    rw [SingleThreaded.calculation, sameReference]
    rfl
  rw [same] at corrections' attenuation' filtered'
  exact ⟨corrections.trans corrections'.symm, attenuation.trans attenuation'.symm,
    filtered.trans filtered'.symm⟩

/-- In the order of issue, every subvolume with slices gets the back-projections that the
single-threaded runner applies to the volume, and the others get none. -/
theorem perform_execute_applied {t : ℕ} (below : t < config.numberOfThreads) :
    appliedBy (perform (execute config) contents.heap) t =
      if config.volumeWriter = true ∧ config.subvolumeSlices t ≠ 0 then
        (SingleThreaded.execute config.toRunnerConfig single).backProjector.applied
      else [] := by
  obtain ⟨-, -, -, workers⟩ := perform_execute accepted threads projections contents
  obtain ⟨-, -, -, applied⟩ :=
    @SingleThreaded.execute_eq stages config.toRunnerConfig single accepted
  have same : SingleThreaded.calculation config.toRunnerConfig single =
      config.calculation contents := by
    rw [SingleThreaded.calculation, sameReference]
    rfl
  rw [same] at applied
  rw [appliedBy, workers t below]
  by_cases volume : config.volumeWriter = true
  · by_cases none : config.subvolumeSlices t = 0
    · simp [objectsOf, volume, none, ThreadWorker.applied, BackProjector.applied]
    · have nonempty : config.volumeSlices ≠ 0 := by
        intro empty
        have bound := config.subvolumeSlices_le t
        omega
      rw [if_pos ⟨volume, none⟩, (applied volume nonempty).1]
      simp [objectsOf, volume, none, ThreadWorker.applied, BackProjector.applied]
  · simp [objectsOf, volume, ThreadWorker.applied]

end Result

/-! ## Every interleaving -/

section Interleavings

variable {state : State stages} {pending : List MainAction}

/-- Behind the last barrier only IO requests can be left. -/
theorem Pending.requests_of_quiescent (held : Pending config contents state pending)
    (quiescent : Quiescent state) :
    ∀ action ∈ pending, ∃ request, action = .requestIOOperation request := by
  intro action member
  rcases held.tasks action member with ⟨t, message, rfl⟩ | request
  · have listed := held.mem_message.mp member
    rw [quiescent t] at listed
    exact absurd listed List.not_mem_nil
  · exact request

/-- What is left to do when the main thread has returned changes neither the corrections
file nor the volumes. -/
theorem Pending.settled_of_returned (held : Pending config contents state pending)
    (quiescent : Quiescent state) (returned : state.main = .returned) (location : Location)
    (notImage : ∀ buffer, location ≠ .image buffer) (notReader : location ≠ .projectionsReader)
    (notAttenuation : location ≠ .attenuationProjectionsWriter)
    (notFiltered : location ≠ .filteredProjectionsWriter) :
    perform (execute config) contents.heap location = state.heap location := by
  have result : perform (pending ++ state.program) state.heap =
      perform (execute config) contents.heap := held.settles.result
  rw [← result, held.returned returned, List.append_nil]
  refine perform_frame (fun action member written => ?_) state.heap
  obtain ⟨request, rfl⟩ := held.requests_of_quiescent quiescent action member
  rcases mem_writes_performRequest stages written with ⟨-, same⟩ | same | same | same
  · exact notImage _ same
  · exact notReader same
  · exact notAttenuation same
  · exact notFiltered same

/-- When the IO processor has executed every request, nothing is left to do. -/
theorem Pending.settled_of_unexecuted (held : Pending config contents state pending)
    (quiescent : Quiescent state) (returned : state.main = .returned)
    (alive : state.io.worker ≠ .exited) (executed : state.io.unexecuted = []) :
    perform (execute config) contents.heap = state.heap := by
  have result : perform (pending ++ state.program) state.heap =
      perform (execute config) contents.heap := held.settles.result
  have nothing : pending = [] := by
    rw [List.eq_nil_iff_forall_not_mem]
    intro action member
    obtain ⟨request, rfl⟩ := held.requests_of_quiescent quiescent action member
    have listed := (held.mem_request alive).mp member
    rw [executed] at listed
    exact absurd listed List.not_mem_nil
  rw [← result, nothing, held.returned returned, List.append_nil, perform_nil]

/-- **The multi-threaded runner refines the single-threaded one.** In every state of every
interleaving, what was written to the files and what was applied to each subvolume is a
first part of what the single-threaded runner writes and applies. When the main thread
returns, nothing is missing from the corrections file and from the subvolumes, nor from
the other files once the IO processor has executed its requests. -/
theorem executeOnThreads_refines_execute (accepted : config.Accepted)
    (threads : 0 < config.numberOfThreads) (projections : 0 < config.numberOfProjections)
    {single : SingleThreaded.Contents stages}
    (sameReference : single.reference = contents.reference)
    (reachable : ReachableWithoutFailure config contents state) :
    let final := SingleThreaded.execute config.toRunnerConfig single
    (attenuationSlices state.heap <+: final.attenuationProjectionsWriter ∧
        filteredSlices state.heap <+: final.filteredProjectionsWriter ∧
        correctionLines state.heap <+: final.attenuationCorrectionsFile ∧
        ∀ t < config.numberOfThreads, appliedBy state.heap t <+: final.backProjector.applied) ∧
      (state.main = .returned →
        correctionLines state.heap = final.attenuationCorrectionsFile ∧
        (∀ t < config.numberOfThreads, config.volumeWriter = true →
          config.subvolumeSlices t ≠ 0 →
            appliedBy state.heap t = final.backProjector.applied) ∧
        (state.io.worker ≠ .exited → state.io.unexecuted = [] →
          attenuationSlices state.heap = final.attenuationProjectionsWriter ∧
            filteredSlices state.heap = final.filteredProjectionsWriter)) := by
  have replayed := replayed_of_reachable accepted threads projections reachable
  obtain ⟨pending, held⟩ := replayed.pending
  obtain ⟨corrections, attenuation, filtered⟩ :=
    perform_execute_files accepted threads projections sameReference
  have applied := fun {t : ℕ} (below : t < config.numberOfThreads) =>
    perform_execute_applied accepted threads projections sameReference below
  refine ⟨⟨?_, ?_, ?_, ?_⟩, ?_⟩
  · rw [← attenuation]
    exact held.settles.logs.attenuation
  · rw [← filtered]
    exact held.settles.logs.filtered
  · rw [← corrections]
    exact held.settles.logs.corrections
  · intro t below
    have grown := held.settles.applied t
    rw [applied below] at grown
    split_ifs at grown
    · exact grown
    · rw [List.prefix_nil.mp grown]
      exact List.nil_prefix
  · intro returned
    have quiescent := replayed.invariant.exited (Or.inl returned)
    have settled := held.settled_of_returned quiescent returned
    refine ⟨?_, ?_, ?_⟩
    · rw [← corrections]
      exact (settled .attenuationCorrectionsFile (by simp) (by simp) (by simp) (by simp)).symm
    · intro t below volume nonempty
      have result := applied below
      rw [if_pos ⟨volume, nonempty⟩] at result
      rw [← result, appliedBy, appliedBy]
      exact congrArg (Option.elim · [] ThreadWorker.applied)
        (settled (.threadWorker t) (by simp) (by simp) (by simp) (by simp)).symm
    · intro alive executed
      rw [← attenuation, ← filtered,
        held.settled_of_unexecuted quiescent returned alive executed]
      exact ⟨rfl, rfl⟩

end Interleavings

/-- The single-threaded runner on the same numbers. -/
def numberSingle : SingleThreaded.Contents numberStages where
  rawProjection := (0 : ℕ)
  attenuationProjection := (0 : ℕ)
  filteredProjection := (0 : ℕ)
  reference := (0 : ℕ)
  corrections _ := (0 : ℕ)

/-- The three projections are applied to both subvolumes, with their angles. -/
theorem untilBothReturn_refines_execute :
    ∃ state, run twoThreads (State.initial twoThreads numberContents) untilBothReturn =
        some state ∧ state.main = .returned ∧
      appliedBy state.heap 0 = [((0 : ℕ), (0 : ℕ)), ((1 : ℕ), (1 : ℕ)), ((2 : ℕ), (2 : ℕ))] ∧
      appliedBy state.heap 1 =
        [((0 : ℕ), (0 : ℕ)), ((1 : ℕ), (1 : ℕ)), ((2 : ℕ), (2 : ℕ))] := by
  obtain ⟨state, taken, returned⟩ := untilBothReturn_returns
  have noFailure : ∀ label ∈ untilBothReturn, label.throws = false := by
    decide +kernel
  have sameReference : numberSingle.reference = numberContents.reference := rfl
  obtain ⟨-, complete⟩ := executeOnThreads_refines_execute twoThreads_accepted (by decide)
    (by decide) sameReference ⟨untilBothReturn, taken, noFailure⟩
  obtain ⟨-, applied, -⟩ := complete returned
  exact ⟨state, taken, returned, applied 0 (by decide) rfl (by decide),
    applied 1 (by decide) rfl (by decide)⟩

end AthabascaRecon.MultiThreaded
