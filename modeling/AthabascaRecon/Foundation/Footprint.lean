import Mathlib.Data.List.Basic
import Mathlib.Logic.Function.Basic

/-!
# Commands on a shared heap

Threads that share memory read and write locations of one heap. A command
carries the locations it may read and the locations it may write: it changes
nothing else, and what it writes depends on nothing else (`Command`).

Two commands are independent when neither writes a location the other reads or
writes. Independent commands commute (`Command.Independent.commute`), which is
the only fact about interleavings the schedules of `PendingTasks` need.

Commands that write one location are built from the value written
(`Command.assign`), and larger ones by sequencing (`Command.andThen`).
-/

set_option autoImplicit false

namespace Foundation.Concurrency

universe u v

/-- The values of the shared locations. -/
abbrev Heap {Loc : Type u} (Val : Loc → Type v) : Type (max u v) :=
  (location : Loc) → Val location

/-- A state change with the locations it reads and the locations it writes. -/
structure Command {Loc : Type u} (Val : Loc → Type v) where
  run : Heap Val → Heap Val
  reads : List Loc
  writes : List Loc
  frame : ∀ (heap : Heap Val) (location : Loc), location ∉ writes →
    run heap location = heap location
  determined : ∀ heap heap' : Heap Val,
    (∀ location, location ∈ reads ∨ location ∈ writes → heap location = heap' location) →
      ∀ location ∈ writes, run heap location = run heap' location

namespace Command

variable {Loc : Type u} {Val : Loc → Type v}

/-- The locations a command reads or writes. -/
def Touches (command : Command Val) (location : Loc) : Prop :=
  location ∈ command.reads ∨ location ∈ command.writes

/-- Neither command writes a location the other one touches. -/
def Independent (first second : Command Val) : Prop :=
  (∀ location ∈ first.writes, ¬ second.Touches location) ∧
    ∀ location ∈ second.writes, ¬ first.Touches location

theorem Independent.symm {first second : Command Val} (independent : first.Independent second) :
    second.Independent first :=
  ⟨independent.2, independent.1⟩

/-- A command gives the same values when an independent one ran before it. -/
theorem Independent.run_run_of_mem {first second : Command Val}
    (independent : first.Independent second) (heap : Heap Val) {location : Loc}
    (written : location ∈ first.writes) :
    first.run (second.run heap) location = first.run heap location := by
  refine first.determined _ _ (fun other touched => ?_) location written
  exact second.frame heap other fun clash => independent.2 other clash touched

/-- **Independent commands commute.** -/
theorem Independent.commute {first second : Command Val}
    (independent : first.Independent second) (heap : Heap Val) :
    first.run (second.run heap) = second.run (first.run heap) := by
  funext location
  by_cases byFirst : location ∈ first.writes
  · have notSecond : location ∉ second.writes := fun clash =>
      independent.1 location byFirst (Or.inr clash)
    rw [independent.run_run_of_mem heap byFirst, second.frame _ _ notSecond]
  · rw [first.frame _ _ byFirst]
    by_cases bySecond : location ∈ second.writes
    · rw [independent.symm.run_run_of_mem heap bySecond]
    · rw [second.frame _ _ bySecond, second.frame _ _ bySecond, first.frame _ _ byFirst]

/-- The command that does nothing. -/
def skip : Command Val where
  run heap := heap
  reads := []
  writes := []
  frame _ _ _ := rfl
  determined _ _ _ _ member := absurd member List.not_mem_nil

@[simp] theorem run_skip (heap : Heap Val) : (skip : Command Val).run heap = heap := rfl

theorem independent_skip_left (command : Command Val) : skip.Independent command :=
  ⟨fun _ member => absurd member List.not_mem_nil,
    fun _ _ touched => touched.elim List.not_mem_nil List.not_mem_nil⟩

theorem independent_skip_right (command : Command Val) : command.Independent skip :=
  (independent_skip_left command).symm

variable [DecidableEq Loc]

/-- Write one location with a value that depends on the listed locations and
on the location itself. -/
def assign (target : Loc) (sources : List Loc) (value : Heap Val → Val target)
    (stable : ∀ heap heap' : Heap Val, (∀ location ∈ sources, heap location = heap' location) →
      heap target = heap' target → value heap = value heap') : Command Val where
  run heap := Function.update heap target (value heap)
  reads := sources
  writes := [target]
  frame heap location absent := Function.update_of_ne (by simpa using absent) _ _
  determined heap heap' agree location member := by
    obtain rfl := List.mem_singleton.mp member
    rw [Function.update_self, Function.update_self]
    exact stable heap heap' (fun source listed => agree source (Or.inl listed))
      (agree location (Or.inr member))

/-- One command after another. -/
def andThen (first second : Command Val) : Command Val where
  run heap := second.run (first.run heap)
  reads := first.reads ++ second.reads
  writes := first.writes ++ second.writes
  frame heap location absent := by
    rw [List.mem_append, not_or] at absent
    rw [second.frame _ _ absent.2, first.frame _ _ absent.1]
  determined heap heap' agree location member := by
    have agreeFirst : ∀ other, other ∈ first.reads ∨ other ∈ first.writes →
        heap other = heap' other := fun other touched =>
      agree other (touched.imp (List.mem_append_left _) (List.mem_append_left _))
    have agreeMiddle : ∀ other, heap other = heap' other →
        first.run heap other = first.run heap' other := by
      intro other same
      by_cases written : other ∈ first.writes
      · exact first.determined heap heap' agreeFirst other written
      · rw [first.frame _ _ written, first.frame _ _ written, same]
    by_cases bySecond : location ∈ second.writes
    · refine second.determined _ _ (fun other touched => agreeMiddle other ?_) location bySecond
      exact agree other (touched.imp (List.mem_append_right _) (List.mem_append_right _))
    · have byFirst : location ∈ first.writes :=
        (List.mem_append.mp member).resolve_right bySecond
      rw [second.frame _ _ bySecond, second.frame _ _ bySecond]
      exact first.determined heap heap' agreeFirst location byFirst

/-- Locations damaged by a command that failed half way: what it would have
written may hold anything. -/
def damage (command : Command Val) (garbage heap : Heap Val) : Heap Val :=
  fun location => if location ∈ command.writes then garbage location else heap location

end Command

end Foundation.Concurrency
