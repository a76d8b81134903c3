import AthabascaRecon.Foundation.Footprint
import Mathlib.Data.List.Basic

/-!
# Tasks issued in one order and executed in another

One party issues tasks to several components. Every component executes its own
tasks in the order of issue, but nothing fixes the order between components.
The tasks issued and not yet executed form a list in the order of issue, and
each component owns a subsequence of it (`tasksOf`).

`flush` executes the pending tasks in the order of issue. The list is race free
when a task is independent of every earlier task of another component, unless a
task of its own component that comes first guards the pair (`RaceFree`). When a
component executes its next task ahead of the earlier tasks of the others, the
result of the flush is the same (`RaceFree.flush_takeNext`), so all
interleavings lead to the heap that the order of issue gives.
-/

set_option autoImplicit false

namespace Foundation.Concurrency

universe u v

variable {Loc : Type u} {Val : Loc → Type v} {Task Component : Type*}

/-- Execute tasks one after another. -/
def flush (command : Task → Command Val) (pending : List Task) (heap : Heap Val) : Heap Val :=
  pending.foldl (fun current task => (command task).run current) heap

section Flush

variable (command : Task → Command Val)

@[simp] theorem flush_nil (heap : Heap Val) : flush command [] heap = heap := rfl

@[simp] theorem flush_cons (task : Task) (pending : List Task) (heap : Heap Val) :
    flush command (task :: pending) heap = flush command pending ((command task).run heap) := rfl

theorem flush_append (first second : List Task) (heap : Heap Val) :
    flush command (first ++ second) heap = flush command second (flush command first heap) :=
  List.foldl_append

/-- A command independent of all pending tasks may run before or after them. -/
theorem run_flush {other : Command Val} {pending : List Task}
    (independent : ∀ task ∈ pending, (command task).Independent other) (heap : Heap Val) :
    other.run (flush command pending heap) = flush command pending (other.run heap) := by
  induction pending generalizing heap with
  | nil => rfl
  | cons task pending ih =>
      rw [flush_cons, flush_cons, ih fun later member =>
        independent later (List.mem_cons_of_mem _ member)]
      rw [(independent task List.mem_cons_self).commute]

/-- A task independent of all tasks in front of it may be executed first. -/
theorem flush_middle {task : Task} {before after : List Task}
    (independent : ∀ earlier ∈ before, (command earlier).Independent (command task))
    (heap : Heap Val) :
    flush command (before ++ task :: after) heap =
      flush command (before ++ after) ((command task).run heap) := by
  rw [flush_append, flush_append, flush_cons, run_flush command independent]

/-- Locations no pending task writes keep their value. -/
theorem flush_frame {pending : List Task} {location : Loc}
    (unwritten : ∀ task ∈ pending, location ∉ (command task).writes) (heap : Heap Val) :
    flush command pending heap location = heap location := by
  induction pending generalizing heap with
  | nil => rfl
  | cons task pending ih =>
      rw [flush_cons, ih fun later member => unwritten later (List.mem_cons_of_mem _ member)]
      exact (command task).frame heap location (unwritten task List.mem_cons_self)

/-- Among pairwise independent tasks, what one of them writes is what it would
write if it ran alone. -/
theorem flush_of_mem {pending : List Task}
    (independent : pending.Pairwise fun first second =>
      (command first).Independent (command second))
    {task : Task} (member : task ∈ pending) {location : Loc}
    (written : location ∈ (command task).writes) (heap : Heap Val) :
    flush command pending heap location = (command task).run heap location := by
  induction pending generalizing heap with
  | nil => cases member
  | cons head pending ih =>
      obtain ⟨headIndependent, tailIndependent⟩ := List.pairwise_cons.mp independent
      rw [flush_cons]
      rcases List.mem_cons.mp member with rfl | later
      · refine flush_frame command (fun other listed clash => ?_) _
        exact (headIndependent other listed).1 location written (Or.inr clash)
      · rw [ih tailIndependent later]
        exact (headIndependent task later).symm.run_run_of_mem heap written

/-- Tasks that do nothing may be left out. -/
theorem flush_filter {keep : Task → Bool} {pending : List Task}
    (idle : ∀ task ∈ pending, keep task = false → ∀ heap, (command task).run heap = heap)
    (heap : Heap Val) : flush command (pending.filter keep) heap = flush command pending heap := by
  induction pending generalizing heap with
  | nil => rfl
  | cons task pending ih =>
      have rest := fun later member => idle later (List.mem_cons_of_mem task member)
      cases kept : keep task with
      | true => rw [List.filter_cons_of_pos kept, flush_cons, flush_cons, ih rest]
      | false =>
          rw [List.filter_cons_of_neg (by simp [kept]), flush_cons,
            idle task List.mem_cons_self kept, ih rest]

end Flush

/-! ## The tasks of one component -/

section Components

variable [DecidableEq Component] (component : Task → Component)

/-- The pending tasks of a component, the oldest first. -/
def tasksOf (owner : Component) (pending : List Task) : List Task :=
  pending.filter fun task => component task = owner

theorem tasksOf_append (owner : Component) (first second : List Task) :
    tasksOf component owner (first ++ second) =
      tasksOf component owner first ++ tasksOf component owner second :=
  List.filter_append ..

theorem mem_tasksOf {owner : Component} {pending : List Task} {task : Task} :
    task ∈ tasksOf component owner pending ↔ task ∈ pending ∧ component task = owner := by
  simp [tasksOf]

theorem tasksOf_singleton (owner : Component) (task : Task) :
    tasksOf component owner [task] = if component task = owner then [task] else [] := by
  by_cases own : component task = owner <;> simp [tasksOf, own]

/-- The next task of a component stands behind tasks of other components only. -/
theorem exists_split_of_tasksOf_eq_cons {owner : Component} {pending rest : List Task}
    {task : Task} (next : tasksOf component owner pending = task :: rest) :
    ∃ before after, pending = before ++ task :: after ∧
      (∀ earlier ∈ before, component earlier ≠ owner) ∧ component task = owner ∧
      tasksOf component owner (before ++ after) = rest ∧
      ∀ other, other ≠ owner →
        tasksOf component other (before ++ after) = tasksOf component other pending := by
  obtain ⟨before, after, rfl, foreign, own, remaining⟩ := List.filter_eq_cons_iff.mp next
  have foreign' : ∀ earlier ∈ before, component earlier ≠ owner := by
    intro earlier member same
    exact foreign earlier member (by simp [same])
  have own' : component task = owner := by simpa using own
  have none : tasksOf component owner before = [] :=
    List.filter_eq_nil_iff.mpr fun earlier member => by simpa using foreign' earlier member
  refine ⟨before, after, rfl, foreign', own', ?_, fun other different => ?_⟩
  · rw [tasksOf_append, none, List.nil_append]
    exact remaining
  · have skipped : component task ≠ other := fun same => different (same.symm.trans own')
    rw [tasksOf_append, tasksOf_append]
    congr 1
    exact (List.filter_cons_of_neg (by simpa using skipped)).symm

end Components

/-! ## Race freedom -/

/-- Every pending task is independent of the earlier tasks of other components,
unless an earlier task of its own component guards it against them. -/
def RaceFree (component : Task → Component) (command : Task → Command Val)
    (guards : Task → Task → Prop) (pending : List Task) : Prop :=
  ∀ before task after, pending = before ++ task :: after →
    ∀ earlier ∈ before, component earlier ≠ component task →
      (command earlier).Independent (command task) ∨
        ∃ guard ∈ before, component guard = component task ∧ guards guard earlier

namespace RaceFree

variable {component : Task → Component} {command : Task → Command Val}
  {guards : Task → Task → Prop}

theorem nil : RaceFree component command guards [] := by
  intro before task after split
  simp at split

/-- The tasks of one component do not race. -/
theorem of_component {pending : List Task} {owner : Component}
    (own : ∀ task ∈ pending, component task = owner) :
    RaceFree component command guards pending := by
  intro before task after split earlier member different
  have ownTask := own task (by simp [split])
  have ownEarlier := own earlier (by simp [split, member])
  exact absurd (ownEarlier.trans ownTask.symm) different

/-- Issuing a task that is safe against everything pending. -/
theorem append {pending : List Task} (free : RaceFree component command guards pending)
    {task : Task}
    (safe : ∀ earlier ∈ pending, component earlier ≠ component task →
      (command earlier).Independent (command task) ∨
        ∃ guard ∈ pending, component guard = component task ∧ guards guard earlier) :
    RaceFree component command guards (pending ++ [task]) := by
  intro before other after split earlier member
  rcases List.eq_nil_or_concat after with rfl | ⟨inner, last, rfl⟩
  · obtain ⟨rfl, same⟩ := List.append_inj' split rfl
    obtain rfl : task = other := by simpa using same
    exact safe earlier member
  · have split' : pending ++ [task] = (before ++ other :: inner) ++ [last] := by
      simpa using split
    obtain ⟨rfl, -⟩ := List.append_inj' split' rfl
    exact free before other inner rfl earlier member

/-- The next task of a component is independent of everything in front of it. -/
theorem independent_of_next {before after : List Task} {task : Task}
    (free : RaceFree component command guards (before ++ task :: after))
    (foreign : ∀ earlier ∈ before, component earlier ≠ component task) :
    ∀ earlier ∈ before, (command earlier).Independent (command task) := by
  intro earlier member
  rcases free before task after rfl earlier member (foreign earlier member) with
    independent | ⟨guard, listed, own, -⟩
  · exact independent
  · exact absurd own (foreign guard listed)

/-- Executing the next task of a component keeps the list race free when no
remaining task relied on it as a guard. -/
theorem takeNext {before after : List Task} {task : Task}
    (free : RaceFree component command guards (before ++ task :: after))
    (unguarded : ∀ other ∈ before ++ after, ¬ guards task other) :
    RaceFree component command guards (before ++ after) := by
  intro front other rest split earlier member different
  rcases List.append_eq_append_iff.mp split with ⟨middle, rfl, tail⟩ | ⟨middle, rfl, tail⟩
  · -- the task looked at was issued after the executed one
    have listed : earlier ∈ before ++ task :: middle := by
      rcases List.mem_append.mp member with early | late
      · exact List.mem_append_left _ early
      · exact List.mem_append_right _ (List.mem_cons_of_mem _ late)
    rcases free (before ++ task :: middle) other rest (by simp [tail]) earlier listed different with
      independent | ⟨guard, guardListed, own, protects⟩
    · exact Or.inl independent
    · refine Or.inr ⟨guard, ?_, own, protects⟩
      rcases List.mem_append.mp guardListed with early | late
      · exact List.mem_append_left _ early
      · rcases List.mem_cons.mp late with rfl | later
        · refine absurd protects (unguarded earlier ?_)
          rw [split]
          exact List.mem_append_left _ member
        · exact List.mem_append_right _ later
  · -- the task looked at was issued before the executed one
    cases middle with
    | nil =>
        have tail' : after = other :: rest := by simpa using tail.symm
        have listed : earlier ∈ front ++ task :: ([] : List Task) :=
          List.mem_append_left _ member
        rcases free (front ++ [task]) other rest (by simp [tail']) earlier listed different with
          independent | ⟨guard, guardListed, own, protects⟩
        · exact Or.inl independent
        · refine Or.inr ⟨guard, ?_, own, protects⟩
          rcases List.mem_append.mp guardListed with early | late
          · exact early
          · obtain rfl := List.mem_singleton.mp late
            refine absurd protects (unguarded earlier ?_)
            rw [split]
            exact List.mem_append_left _ member
    | cons head middle =>
        obtain ⟨rfl, rfl⟩ := List.cons.inj tail
        exact free front other (middle ++ task :: after) (by simp) earlier member different

/-- **Executing the next task of a component ahead of the others does not change
what the pending tasks lead to.** -/
theorem flush_takeNext {before after : List Task} {task : Task}
    (free : RaceFree component command guards (before ++ task :: after))
    (foreign : ∀ earlier ∈ before, component earlier ≠ component task) (heap : Heap Val) :
    flush command (before ++ task :: after) heap =
      flush command (before ++ after) ((command task).run heap) :=
  flush_middle command (free.independent_of_next foreign) heap

end RaceFree

end Foundation.Concurrency
