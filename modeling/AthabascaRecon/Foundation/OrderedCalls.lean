import Mathlib.Algebra.Order.Group.Int
import Mathlib.Data.List.Nodup

/-!
# Repeated calls

A call changes an object and returns a result, or fails. Calls that each return the wanted result
with the next greater rank return, together, the wanted results up to a rank, in their order
(`OrderedCalls.mem_iff`, `OrderedCalls.pairwise`).
-/

set_option autoImplicit false

namespace Foundation

variable {State Result Failure : Type*} (call : State → Except Failure (Result × State))

/-- The results of so many calls, and the object after them. -/
def calls : ℕ → State → Except Failure (List Result × State)
  | 0, state => .ok ([], state)
  | count + 1, state =>
      match call state with
      | .error failure => .error failure
      | .ok (result, next) => (calls count next).map fun later => (result :: later.1, later.2)

variable {call} {state last : State} {count : ℕ} {results : List Result} {failure : Failure}

theorem calls_zero_iff : calls call 0 state = .ok (results, last) ↔
    results = [] ∧ last = state := by
  simp only [calls, Except.ok.injEq, Prod.mk.injEq, eq_comm]

theorem calls_succ_iff : calls call (count + 1) state = .ok (results, last) ↔
    ∃ result next later, call state = .ok (result, next) ∧
      calls call count next = .ok (later, last) ∧ results = result :: later := by
  rw [calls]
  cases called : call state with
  | error failure => simp
  | ok served =>
    obtain ⟨result, next⟩ := served
    dsimp only
    cases rest : calls call count next with
    | error failure => simp [Except.map, rest]
    | ok later =>
      simp only [Except.map, Except.ok.injEq, Prod.mk.injEq]
      constructor
      · rintro ⟨rfl, rfl⟩
        exact ⟨result, next, later.1, ⟨rfl, rfl⟩, rest, rfl⟩
      · rintro ⟨_, _, found, ⟨rfl, rfl⟩, found_eq, rfl⟩
        rw [rest, Except.ok.injEq] at found_eq
        rw [found_eq]
        exact ⟨rfl, rfl⟩

/-- Before the call that fails, the calls have results. -/
theorem exists_failing_call (failed : calls call count state = .error failure) :
    ∃ earlier < count, ∃ results middle, calls call earlier state = .ok (results, middle) ∧
      call middle = .error failure := by
  induction count generalizing state with
  | zero => cases failed
  | succ count ih =>
    rw [calls] at failed
    cases called : call state with
    | error other =>
      rw [called, Except.error.injEq] at failed
      rw [failed] at called
      exact ⟨0, Nat.succ_pos _, [], state, rfl, called⟩
    | ok served =>
      obtain ⟨result, next⟩ := served
      rw [called] at failed
      dsimp only at failed
      have later : calls call count next = .error failure := by
        cases rest : calls call count next with
        | error other =>
          rw [rest] at failed
          exact failed
        | ok found =>
          rw [rest] at failed
          cases failed
      obtain ⟨earlier, fewer, results, middle, before, stopped⟩ := ih later
      refine ⟨earlier + 1, Nat.succ_lt_succ fewer, result :: results, middle, ?_, stopped⟩
      exact calls_succ_iff.mpr ⟨result, next, results, called, before, rfl⟩

theorem length_of_calls (called : calls call count state = .ok (results, last)) :
    results.length = count := by
  induction count generalizing state results with
  | zero =>
    obtain ⟨rfl, -⟩ := calls_zero_iff.mp called
    rfl
  | succ count ih =>
    obtain ⟨result, next, later, -, rest, rfl⟩ := calls_succ_iff.mp called
    rw [List.length_cons, ih rest]

/-- Each call on an object with the invariant returns the wanted result whose rank is the next one
after the position of the object, and moves the object there. -/
structure OrderedCalls (call : State → Except Failure (Result × State)) (invariant : State → Prop)
    (position : State → ℤ) (rank : Result → ℤ) (wanted : Result → Prop) : Prop where
  preserved : ∀ {state result next}, invariant state → call state = .ok (result, next) →
    invariant next
  isWanted : ∀ {state result next}, invariant state → call state = .ok (result, next) →
    wanted result
  later : ∀ {state result next}, invariant state → call state = .ok (result, next) →
    position state < rank result
  moved : ∀ {state result next}, invariant state → call state = .ok (result, next) →
    rank result = position next
  skipped : ∀ {state result next}, invariant state → call state = .ok (result, next) →
    ∀ other, position state < rank other → rank other < rank result → ¬ wanted other

namespace OrderedCalls

variable {invariant : State → Prop} {position : State → ℤ} {rank : Result → ℤ}
  {wanted : Result → Prop}

section

variable (ordered : OrderedCalls call invariant position rank wanted) (holds : invariant state)
  (called : calls call count state = .ok (results, last))

include ordered holds called

theorem invariant_last : invariant last := by
  induction count generalizing state results with
  | zero =>
    obtain ⟨-, rfl⟩ := calls_zero_iff.mp called
    exact holds
  | succ count ih =>
    obtain ⟨result, next, later, first, rest, -⟩ := calls_succ_iff.mp called
    exact ih (ordered.preserved holds first) rest

theorem position_le : position state ≤ position last := by
  induction count generalizing state results with
  | zero =>
    obtain ⟨-, rfl⟩ := calls_zero_iff.mp called
    exact le_refl _
  | succ count ih =>
    obtain ⟨result, next, later, first, rest, -⟩ := calls_succ_iff.mp called
    have moved : position state < position next :=
      (ordered.later holds first).trans_eq (ordered.moved holds first)
    exact moved.le.trans (ih (ordered.preserved holds first) rest)

/-- What each call does to all ranks that it passes, the calls do to all that they pass. -/
theorem passed {permitted : Result → Prop}
    (step : ∀ {state result next}, invariant state → call state = .ok (result, next) →
      ∀ other, position state < rank other → rank other ≤ rank result → permitted other)
    {other : Result} (after : position state < rank other) (before : rank other ≤ position last) :
    permitted other := by
  induction count generalizing state results with
  | zero =>
    obtain ⟨-, rfl⟩ := calls_zero_iff.mp called
    omega
  | succ count ih =>
    obtain ⟨result, next, later, first, rest, -⟩ := calls_succ_iff.mp called
    have moved := ordered.moved holds first
    rcases le_or_gt (rank other) (rank result) with early | late
    · exact step holds first other after early
    · exact ih (ordered.preserved holds first) rest (by omega)

/-- **The results are the wanted ones up to the position that is reached.** -/
theorem mem_iff (injective : Function.Injective rank) {result : Result} :
    result ∈ results ↔
      wanted result ∧ position state < rank result ∧ rank result ≤ position last := by
  induction count generalizing state results with
  | zero =>
    obtain ⟨rfl, rfl⟩ := calls_zero_iff.mp called
    refine iff_of_false List.not_mem_nil ?_
    rintro ⟨-, after, before⟩
    omega
  | succ count ih =>
    obtain ⟨found, next, later, first, rest, rfl⟩ := calls_succ_iff.mp called
    have after := ordered.later holds first
    have moved := ordered.moved holds first
    have further := ordered.position_le (ordered.preserved holds first) rest
    rw [List.mem_cons, ih (ordered.preserved holds first) rest]
    constructor
    · rintro (rfl | ⟨isWanted, later, within⟩)
      · exact ⟨ordered.isWanted holds first, after, by omega⟩
      · exact ⟨isWanted, by omega, within⟩
    · rintro ⟨isWanted, beyond, within⟩
      rcases lt_trichotomy (rank result) (rank found) with before | same | behind
      · exact absurd isWanted (ordered.skipped holds first result beyond before)
      · exact Or.inl (injective same)
      · exact Or.inr ⟨isWanted, by omega, within⟩

/-- **The results have increasing ranks.** -/
theorem pairwise (injective : Function.Injective rank) :
    results.Pairwise fun earlier later => rank earlier < rank later := by
  induction count generalizing state results with
  | zero =>
    obtain ⟨rfl, -⟩ := calls_zero_iff.mp called
    exact List.Pairwise.nil
  | succ count ih =>
    obtain ⟨found, next, later, first, rest, rfl⟩ := calls_succ_iff.mp called
    have kept := ordered.preserved holds first
    refine List.pairwise_cons.mpr ⟨fun other member => ?_, ih kept rest⟩
    rw [ordered.moved holds first]
    exact ((ordered.mem_iff kept rest injective).mp member).2.1

theorem nodup (injective : Function.Injective rank) : results.Nodup :=
  (ordered.pairwise holds called injective).imp fun less same => less.ne (congrArg rank same)

end

/-- Calls that never fail on an object with the invariant have results. -/
theorem exists_eq_ok (ordered : OrderedCalls call invariant position rank wanted)
    (succeeds : ∀ {state}, invariant state → ∃ served, call state = .ok served)
    (holds : invariant state) (count : ℕ) :
    ∃ results last, calls call count state = .ok (results, last) := by
  cases called : calls call count state with
  | ok found => exact ⟨found.1, found.2, rfl⟩
  | error failure =>
    obtain ⟨earlier, -, results, middle, before, failed⟩ := exists_failing_call called
    obtain ⟨served, succeeded⟩ := succeeds (ordered.invariant_last holds before)
    rw [succeeded] at failed
    cases failed

end OrderedCalls

end Foundation
