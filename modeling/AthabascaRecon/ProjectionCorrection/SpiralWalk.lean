import AthabascaRecon.Foundation.OrderedCalls
import AthabascaRecon.ProjectionCorrection.NeighborhoodWalker

/-!
# The spiral enumerates the plane

A fresh `NeighborhoodWalker` can take any number of steps, and the steps of the first rings go to
the locations of these rings, each once (`visits_enumerate`).
-/

set_option autoImplicit false

namespace AthabascaRecon

open Foundation

/-! ## The numbers of a ring -/

theorem ring_eq_max_abs (location : Tuple2 ℤ) : ring location = max |location.v| |location.u| := by
  rw [ring, Int.natCast_natAbs, Int.natCast_natAbs]

theorem visitNumber_eq_zero_iff {location : Tuple2 ℤ} :
    visitNumber location = 0 ↔ location = ⟨0, 0⟩ := by
  rw [← visitNumber_injective.eq_iff, (by decide : visitNumber ⟨0, 0⟩ = 0)]

/-- The locations of the first rings have the first numbers. -/
theorem visitNumber_le_iff {location : Tuple2 ℤ} {radius : ℕ} :
    visitNumber location ≤ ((2 * radius + 1) ^ 2 - 1 : ℕ) ↔ ring location ≤ radius := by
  have positive : 1 ≤ (2 * radius + 1) ^ 2 := Nat.one_le_pow _ _ (by omega)
  rw [Nat.cast_sub positive]
  push_cast
  constructor
  · intro within
    by_contra beyond
    have away : 1 ≤ ring location := by omega
    obtain ⟨low, -⟩ := visitNumber_bounds away
    nlinarith
  · intro near
    by_cases centre : ring location = 0
    · have zero : visitNumber location = 0 := if_pos centre
      nlinarith
    · have away : 1 ≤ ring location := by
        simp only [ring] at centre ⊢
        omega
      obtain ⟨-, high⟩ := visitNumber_bounds away
      nlinarith

theorem ring_le_of_visitNumber_lt {near far : Tuple2 ℤ}
    (earlier : visitNumber near < visitNumber far) : ring near ≤ ring far := by
  by_contra closer
  exact earlier.not_gt (visitNumber_lt_of_ring_lt (not_le.mp closer))

namespace NeighborhoodWalker

variable {imageDims : Tuple2 ℕ} {startingPoint : Tuple2 ℤ} {walker last : NeighborhoodWalker}

/-! ## Steps -/

/-- `TakeStep`, with the relative location that it leads to. -/
def visit (walker : NeighborhoodWalker) :
    Except WalkFailure (Tuple2 ℤ × NeighborhoodWalker) :=
  walker.takeStep.map fun next => (next.currentRelativeLocation, next)

theorem visit_onSpiral (onSpiral : walker.OnSpiral imageDims startingPoint) :
    ∃ next, walker.visit = .ok (next.currentRelativeLocation, next) ∧
      next.OnSpiral imageDims startingPoint ∧ next.count = walker.count + 1 := by
  obtain ⟨next, stepped, nextOnSpiral, counted, -⟩ := takeStep_onSpiral onSpiral
  refine ⟨next, ?_, nextOnSpiral, counted⟩
  rw [visit, stepped]
  rfl

/-- The steps go to the locations in the order of their numbers. -/
theorem visit_ordered (imageDims : Tuple2 ℕ) (startingPoint : Tuple2 ℤ) :
    OrderedCalls visit (OnSpiral imageDims startingPoint) (fun walker => (walker.count : ℤ))
      visitNumber (fun _ => True) := by
  have stepped {walker next : NeighborhoodWalker} {location : Tuple2 ℤ}
      (onSpiral : walker.OnSpiral imageDims startingPoint)
      (visited : walker.visit = .ok (location, next)) :
      next.OnSpiral imageDims startingPoint ∧ visitNumber location = next.count ∧
        next.count = walker.count + 1 := by
    obtain ⟨next', visited', nextOnSpiral, counted⟩ := visit_onSpiral onSpiral
    rw [visited', Except.ok.injEq, Prod.mk.injEq] at visited
    obtain ⟨rfl, rfl⟩ := visited
    exact ⟨nextOnSpiral, nextOnSpiral.numbered, counted⟩
  constructor
  · intro walker location next onSpiral visited
    exact (stepped onSpiral visited).1
  · intro walker location next onSpiral visited
    trivial
  · intro walker location next onSpiral visited
    obtain ⟨-, numbered, counted⟩ := stepped onSpiral visited
    omega
  · intro walker location next onSpiral visited
    exact (stepped onSpiral visited).2.1
  · intro walker location next onSpiral visited other after before
    obtain ⟨-, numbered, counted⟩ := stepped onSpiral visited
    omega

theorem count_of_visits {steps : ℕ} {visited : List (Tuple2 ℤ)}
    (onSpiral : walker.OnSpiral imageDims startingPoint)
    (taken : calls visit steps walker = .ok (visited, last)) :
    last.count = walker.count + steps := by
  induction steps generalizing walker visited with
  | zero =>
    obtain ⟨-, rfl⟩ := calls_zero_iff.mp taken
    rfl
  | succ steps ih =>
    obtain ⟨location, next, later, first, rest, -⟩ := calls_succ_iff.mp taken
    obtain ⟨next', first', nextOnSpiral, counted⟩ := visit_onSpiral onSpiral
    rw [first', Except.ok.injEq, Prod.mk.injEq] at first
    obtain ⟨-, rfl⟩ := first
    rw [ih nextOnSpiral rest, counted]
    omega

/-- **The spiral enumerates the plane.** Steps never fail, and the steps of the first rings go to
the locations of these rings other than the centre, each once, from ring to ring. -/
theorem visits_enumerate (imageDims : Tuple2 ℕ) (startingPoint : Tuple2 ℤ) :
    (∀ steps, ∃ visited last,
      calls visit steps (new imageDims startingPoint) = .ok (visited, last)) ∧
    ∀ radius : ℕ, ∃ visited last,
      calls visit ((2 * radius + 1) ^ 2 - 1) (new imageDims startingPoint) =
        .ok (visited, last) ∧
      visited.Nodup ∧
      (∀ location, location ∈ visited ↔
        location ≠ ⟨0, 0⟩ ∧ max |location.v| |location.u| ≤ radius) ∧
      visited.Pairwise fun earlier later =>
        max |earlier.v| |earlier.u| ≤ max |later.v| |later.u| := by
  have ordered := visit_ordered imageDims startingPoint
  have onSpiral := new_onSpiral imageDims startingPoint
  have taken : ∀ steps, ∃ visited last,
      calls visit steps (new imageDims startingPoint) = .ok (visited, last) := by
    refine ordered.exists_eq_ok (fun onSpiral => ?_) onSpiral
    obtain ⟨next, visited, -, -⟩ := visit_onSpiral onSpiral
    exact ⟨_, visited⟩
  refine ⟨taken, fun radius => ?_⟩
  obtain ⟨visited, last, enough⟩ := taken ((2 * radius + 1) ^ 2 - 1)
  have counted := count_of_visits onSpiral enough
  refine ⟨visited, last, enough, ordered.nodup onSpiral enough visitNumber_injective,
    fun location => ?_, ?_⟩
  · have fresh : (new imageDims startingPoint).count = 0 := rfl
    rw [ordered.mem_iff onSpiral enough visitNumber_injective, counted, fresh, zero_add,
      visitNumber_le_iff, ring_eq_max_abs, true_and, ne_eq, ← visitNumber_eq_zero_iff]
    have nonneg := visitNumber_nonneg location
    exact and_congr_left' (by omega)
  · refine (ordered.pairwise onSpiral enough visitNumber_injective).imp fun earlier => ?_
    rw [← ring_eq_max_abs, ← ring_eq_max_abs]
    exact ring_le_of_visitNumber_lt earlier

end NeighborhoodWalker

end AthabascaRecon
