import Mathlib.Data.List.Basic

/-!
# Runs of labelled systems

A system is a step function from a state and a label. A run follows a schedule of
labels. What every step preserves holds after a run (`invariant_run`). Where only the
steps that meet a condition preserve it, it holds after the runs all of whose steps meet
the condition (`invariant_guardedRun`), and any other run has a first part that ends with
a step that does not (`exists_unmet_step`).
-/

set_option autoImplicit false

namespace AthabascaRecon.Runs

variable {State Label : Type*} (step : State → Label → Option State)

/-- A run from a state under a schedule of labels. -/
def run (state : State) (schedule : List Label) : Option State := schedule.foldlM step state

/-- All steps of a run meet a condition on the state before the step and its label. -/
def Guarded (meets : State → Label → Prop) : State → List Label → Prop
  | _, [] => True
  | state, label :: schedule =>
      meets state label ∧
        ∀ next, step state label = some next → Guarded meets next schedule

variable {step} {state final : State} {label : Label} {schedule : List Label}

theorem run_nil_iff : run step state [] = some final ↔ state = final :=
  Option.some_inj

theorem run_cons_iff : run step state (label :: schedule) = some final ↔
    ∃ next, step state label = some next ∧ run step next schedule = some final :=
  Option.bind_eq_some_iff

theorem run_append_iff {later : List Label} :
    run step state (schedule ++ later) = some final ↔
      ∃ middle, run step state schedule = some middle ∧ run step middle later = some final := by
  induction schedule generalizing state with
  | nil =>
      constructor
      · intro taken
        exact ⟨state, rfl, taken⟩
      · rintro ⟨middle, here, taken⟩
        obtain rfl := run_nil_iff.mp here
        exact taken
  | cons label schedule ih =>
      rw [List.cons_append, run_cons_iff]
      constructor
      · rintro ⟨next, first, rest⟩
        obtain ⟨middle, before, after⟩ := ih.mp rest
        exact ⟨middle, run_cons_iff.mpr ⟨next, first, before⟩, after⟩
      · rintro ⟨middle, before, after⟩
        obtain ⟨next, first, rest⟩ := run_cons_iff.mp before
        exact ⟨next, first, ih.mpr ⟨middle, rest, after⟩⟩

theorem guarded_cons_iff {meets : State → Label → Prop} {next : State}
    (first : step state label = some next) :
    Guarded step meets state (label :: schedule) ↔
      meets state label ∧ Guarded step meets next schedule := by
  refine and_congr_right fun _ => ?_
  constructor
  · intro guarded
    exact guarded next first
  · intro guarded other same
    obtain rfl : next = other := Option.some.inj (first.symm.trans same)
    exact guarded

theorem guarded_cons_of_none {meets : State → Label → Prop} (stuck : step state label = none) :
    Guarded step meets state (label :: schedule) ↔ meets state label := by
  constructor
  · intro guarded
    exact guarded.1
  · intro met
    refine ⟨met, fun next taken => ?_⟩
    rw [stuck] at taken
    cases taken

instance decidableGuarded {meets : State → Label → Prop}
    [∀ state label, Decidable (meets state label)] :
    ∀ state schedule, Decidable (Guarded step meets state schedule)
  | _, [] => isTrue trivial
  | state, label :: schedule =>
      match taken : step state label with
      | none => decidable_of_iff (meets state label) (guarded_cons_of_none taken).symm
      | some next =>
          have : Decidable (Guarded step meets next schedule) := decidableGuarded next schedule
          decidable_of_iff (meets state label ∧ Guarded step meets next schedule)
            (guarded_cons_iff taken).symm

/-- What the steps that meet a condition preserve holds after the runs whose steps all
meet it. -/
theorem invariant_guardedRun {meets : State → Label → Prop} {invariant : State → Prop}
    (preserved : ∀ state label next, invariant state → meets state label →
      step state label = some next → invariant next)
    (before : invariant state) (guarded : Guarded step meets state schedule)
    (taken : run step state schedule = some final) : invariant final := by
  induction schedule generalizing state with
  | nil =>
      obtain rfl := run_nil_iff.mp taken
      exact before
  | cons label schedule ih =>
      obtain ⟨next, first, rest⟩ := run_cons_iff.mp taken
      exact ih (preserved _ _ _ before guarded.1 first) (guarded.2 next first) rest

theorem guarded_of_forall {meets : State → Label → Prop} (always : ∀ state label, meets state label)
    (state : State) (schedule : List Label) : Guarded step meets state schedule := by
  induction schedule generalizing state with
  | nil => trivial
  | cons label schedule ih => exact ⟨always state label, fun next _ => ih next⟩

/-- What every step preserves holds after every run. -/
theorem invariant_run {invariant : State → Prop}
    (preserved : ∀ state label next, invariant state → step state label = some next →
      invariant next)
    (before : invariant state) (taken : run step state schedule = some final) :
    invariant final := by
  have guarded : Guarded step (fun _ _ => True) state schedule :=
    guarded_of_forall (fun _ _ => trivial) state schedule
  exact invariant_guardedRun (fun _ _ _ holds _ => preserved _ _ _ holds) before guarded taken

/-- A run with a step that does not meet the condition has a first part up to the first
such step. -/
theorem exists_unmet_step {meets : State → Label → Prop}
    (taken : run step state schedule = some final)
    (unguarded : ¬ Guarded step meets state schedule) :
    ∃ before label after middle next, schedule = before ++ label :: after ∧
      run step state before = some middle ∧ Guarded step meets state before ∧
        step middle label = some next ∧ ¬ meets middle label := by
  induction schedule generalizing state with
  | nil => exact absurd trivial unguarded
  | cons label schedule ih =>
      obtain ⟨next, first, rest⟩ := run_cons_iff.mp taken
      by_cases met : meets state label
      · have later : ¬ Guarded step meets next schedule := by
          intro guarded
          exact unguarded ((guarded_cons_iff first).mpr ⟨met, guarded⟩)
        obtain ⟨before, unmet, after, middle, last, split, reached, guarded, moved, violated⟩ :=
          ih rest later
        refine ⟨label :: before, unmet, after, middle, last, ?_, ?_, ?_, moved, violated⟩
        · rw [split, List.cons_append]
        · exact run_cons_iff.mpr ⟨next, first, reached⟩
        · exact (guarded_cons_iff first).mpr ⟨met, guarded⟩
      · exact ⟨[], label, schedule, state, next, rfl, rfl, trivial, first, met⟩

end AthabascaRecon.Runs
