import Mathlib.Logic.Function.Basic
import Mathlib.Data.List.Range

/-!
# The elements of buffers

A buffer is the function from positions to its elements. Copies, ranges of zeros and lists of
writes change some of the elements and keep the others.
-/

set_option autoImplicit false

namespace AthabascaRecon

/-- The elements of a buffer. -/
abbrev Samples (Value : Type*) := ℕ → Value

namespace Samples

variable {Value : Type*}

/-- `memcpy` to the beginning of a buffer. -/
def copyFrom (count : ℕ) (source target : Samples Value) : Samples Value := fun position =>
  if position < count then source position else target position

/-- `memset` with zero bytes, from a position on. -/
def zeroFrom [Zero Value] (start count : ℕ) (target : Samples Value) : Samples Value :=
  fun position => if start ≤ position ∧ position < start + count then 0 else target position

/-- Assignments to elements, in their order. -/
def writeAll (writes : List (ℕ × Value)) (target : Samples Value) : Samples Value :=
  writes.foldl (fun target write => Function.update target write.1 write.2) target

theorem writeAll_of_not_mem {writes : List (ℕ × Value)} {position : ℕ}
    (unwritten : position ∉ writes.map Prod.fst) (target : Samples Value) :
    writeAll writes target position = target position := by
  induction writes generalizing target with
  | nil => rfl
  | cons write writes ih =>
    rw [List.map_cons, List.mem_cons, not_or] at unwritten
    rw [writeAll, List.foldl_cons, ← writeAll, ih unwritten.2,
      Function.update_of_ne unwritten.1]

/-- An element that is only ever assigned one value has it in the end. -/
theorem writeAll_of_mem {writes : List (ℕ × Value)} {position : ℕ} {value : Value}
    (written : position ∈ writes.map Prod.fst)
    (same : ∀ write ∈ writes, write.1 = position → write.2 = value) (target : Samples Value) :
    writeAll writes target position = value := by
  induction writes generalizing target with
  | nil => cases written
  | cons write writes ih =>
    rw [writeAll, List.foldl_cons, ← writeAll]
    obtain ⟨first, later⟩ := List.forall_mem_cons.mp same
    by_cases again : position ∈ writes.map Prod.fst
    · exact ih again later _
    · rw [List.map_cons, List.mem_cons] at written
      have here := written.resolve_right again
      rw [writeAll_of_not_mem again, here, Function.update_self, first here.symm]

end Samples

end AthabascaRecon
