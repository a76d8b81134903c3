import AthabascaRecon.Foundation.Runs

/-!
# Traces of runs

A step of a labelled system may show events. The trace of a run is what its steps show, in
order.

Three rules are about every run. A system whose events are labels of another system and
whose steps are matched by them is simulated by it (`run_trace_of_simulates`). Where each
step balances the events that put something in with what it holds and the events that take
something out, a run does (`trace_balance`). A flag that is never cleared parts a trace into
what is shown before it is set and what is shown behind it (`trace_parts`), where one event
shows that it is set.
-/

set_option autoImplicit false

namespace AthabascaRecon.Runs

variable {State Label Event : Type*} (step : State → Label → Option State)
  (shows : State → Label → List Event)

/-- What the steps of a run show. -/
def trace : State → List Label → List Event
  | _, [] => []
  | state, label :: schedule =>
      shows state label ++
        match step state label with
        | none => []
        | some next => trace next schedule

variable {step shows} {state next middle final : State} {label : Label}
  {schedule later : List Label}

@[simp] theorem trace_nil : trace step shows state [] = [] := rfl

theorem trace_cons (first : step state label = some next) :
    trace step shows state (label :: schedule) =
      shows state label ++ trace step shows next schedule := by
  rw [trace, first]

/-- Where the labels alone decide which events of one kind are shown, a schedule does. -/
theorem filter_trace {keep : Event → Bool} {kept : Label → List Event}
    (each : ∀ state label, (shows state label).filter keep = kept label)
    (taken : run step state schedule = some final) :
    (trace step shows state schedule).filter keep = schedule.flatMap kept := by
  induction schedule generalizing state with
  | nil => rfl
  | cons label schedule ih =>
      obtain ⟨next, first, rest⟩ := run_cons_iff.mp taken
      rw [trace_cons first, List.filter_append, each, ih rest, List.flatMap_cons]

/-- What a step shows moves the other system, from the image of the state before to the image
of the state behind it. -/
theorem run_trace_of_simulates {Abstract : Type*}
    {abstractStep : Abstract → Event → Option Abstract}
    {abstraction : State → Abstract} {invariant : State → Prop}
    (preserved : ∀ state label next, invariant state → step state label = some next →
      invariant next)
    (simulates : ∀ state label next, invariant state → step state label = some next →
      run abstractStep (abstraction state) (shows state label) = some (abstraction next))
    (before : invariant state) (taken : run step state schedule = some final) :
    run abstractStep (abstraction state) (trace step shows state schedule) =
      some (abstraction final) := by
  induction schedule generalizing state with
  | nil =>
      obtain rfl := run_nil_iff.mp taken
      rfl
  | cons label schedule ih =>
      obtain ⟨next, first, rest⟩ := run_cons_iff.mp taken
      rw [trace_cons first]
      exact run_append_iff.mpr ⟨abstraction next, simulates _ _ _ before first,
        ih (preserved _ _ _ before first) rest⟩

/-- First in, first out: what a system holds and what is put into it is what is taken out of
it and what it holds in the end. -/
theorem trace_balance {Item : Type*} {holds : State → List Item} {enters leaves : Event → List Item}
    {invariant : State → Prop}
    (preserved : ∀ state label next, invariant state → step state label = some next →
      invariant next)
    (balanced : ∀ state label next, invariant state → step state label = some next →
      holds state ++ (shows state label).flatMap enters =
        (shows state label).flatMap leaves ++ holds next)
    (before : invariant state) (taken : run step state schedule = some final) :
    holds state ++ (trace step shows state schedule).flatMap enters =
      (trace step shows state schedule).flatMap leaves ++ holds final := by
  induction schedule generalizing state with
  | nil =>
      obtain rfl := run_nil_iff.mp taken
      simp
  | cons label schedule ih =>
      obtain ⟨next, first, rest⟩ := run_cons_iff.mp taken
      have here := balanced _ _ _ before first
      have there := ih (preserved _ _ _ before first) rest
      rw [trace_cons first, List.flatMap_append, List.flatMap_append]
      calc holds state ++ ((shows state label).flatMap enters ++
            (trace step shows next schedule).flatMap enters)
          = ((shows state label).flatMap leaves ++ holds next) ++
              (trace step shows next schedule).flatMap enters := by
            rw [← List.append_assoc, here]
        _ = (shows state label).flatMap leaves ++
              ((trace step shows next schedule).flatMap leaves ++ holds final) := by
            rw [List.append_assoc, there]
        _ = _ := by rw [← List.append_assoc]

section Flags

variable {flag : State → Bool} {early late : Event → Prop} {invariant : State → Prop}

/-- While a flag is set, nothing is shown that belongs before it. -/
theorem trace_of_flagged
    (preserved : ∀ state label next, invariant state → step state label = some next →
      invariant next)
    (kept : ∀ state label next, invariant state → step state label = some next →
      flag state = true → flag next = true)
    (notEarly : ∀ state label next, invariant state → step state label = some next →
      flag state = true → ∀ event ∈ shows state label, ¬ early event)
    (before : invariant state) (flagged : flag state = true)
    (taken : run step state schedule = some final) :
    flag final = true ∧ ∀ event ∈ trace step shows state schedule, ¬ early event := by
  induction schedule generalizing state with
  | nil =>
      obtain rfl := run_nil_iff.mp taken
      exact ⟨flagged, by simp⟩
  | cons label schedule ih =>
      obtain ⟨next, first, rest⟩ := run_cons_iff.mp taken
      obtain ⟨flaggedLast, later⟩ :=
        ih (preserved _ _ _ before first) (kept _ _ _ before first flagged) rest
      refine ⟨flaggedLast, fun event member => ?_⟩
      rw [trace_cons first] at member
      rcases List.mem_append.mp member with here | there
      · exact notEarly _ _ _ before first flagged event here
      · exact later event there

/-- The event that shows how a flag is set parts a trace: the late events come behind it, and the
early ones before it. -/
theorem trace_parts {mark : Event}
    (preserved : ∀ state label next, invariant state → step state label = some next →
      invariant next)
    (kept : ∀ state label next, invariant state → step state label = some next →
      flag state = true → flag next = true)
    (sets : ∀ state label next, invariant state → step state label = some next →
      flag state = false → flag next = true → shows state label = [mark])
    (notLate : ∀ state label next, invariant state → step state label = some next →
      flag next = false → ∀ event ∈ shows state label, ¬ late event)
    (notEarly : ∀ state label next, invariant state → step state label = some next →
      flag state = true → ∀ event ∈ shows state label, ¬ early event)
    (before : invariant state) (unset : flag state = false)
    (taken : run step state schedule = some final) :
    (flag final = false ∧ ∀ event ∈ trace step shows state schedule, ¬ late event) ∨
      ∃ first second, trace step shows state schedule = first ++ mark :: second ∧
        (∀ event ∈ first, ¬ late event) ∧ ∀ event ∈ second, ¬ early event := by
  induction schedule generalizing state with
  | nil =>
      obtain rfl := run_nil_iff.mp taken
      exact .inl ⟨unset, by simp⟩
  | cons label schedule ih =>
      obtain ⟨next, here, rest⟩ := run_cons_iff.mp taken
      have after := preserved _ _ _ before here
      rw [trace_cons here]
      by_cases flagged : flag next = true
      · refine .inr ⟨[], _, ?_, by simp,
          (trace_of_flagged preserved kept notEarly after flagged rest).2⟩
        rw [sets _ _ _ before here unset flagged]
        rfl
      · rw [Bool.not_eq_true] at flagged
        have none := notLate _ _ _ before here flagged
        rcases ih after flagged rest with ⟨stays, never⟩ | ⟨first, second, parts, firstPart,
          secondPart⟩
        · exact .inl ⟨stays, List.forall_mem_append.mpr ⟨none, never⟩⟩
        · refine .inr ⟨shows state label ++ first, second, ?_,
            List.forall_mem_append.mpr ⟨none, firstPart⟩, secondPart⟩
          rw [parts, List.append_assoc]

end Flags

end AthabascaRecon.Runs
