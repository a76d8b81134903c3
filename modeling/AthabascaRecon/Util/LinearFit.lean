import AthabascaRecon.Foundation.Sums
import Mathlib.Algebra.BigOperators.Ring.List
import Mathlib.Algebra.Order.BigOperators.Group.List
import Mathlib.Algebra.Order.Field.Basic
import Mathlib.Algebra.Order.Ring.Rat
import Mathlib.Tactic.LinearCombination
import Mathlib.Tactic.Ring
import Mathlib.Tactic.Positivity

/-!
# Linear fits

`LinearFit` solves the normal equations of a straight line. Their determinant is positive when
the values of the independent variable are not all the same (`determinant_pos`), and then the
line is the one with the least sum of squared residuals (`fit_leastSquares`).
-/

set_option autoImplicit false

namespace AthabascaRecon

/-- `LinearFit`: the two terms of the line. -/
structure LinearFit (Space : Type) where
  constantTerm : Space
  linearTerm : Space
  deriving DecidableEq, Repr

namespace LinearFit

variable {Space : Type} [Field Space]

/-- `sum`. -/
def sum (x : List Space) : Space := x.foldl (fun t value => t + value) 0

/-- `sum_sqr`. -/
def sumSqr (x : List Space) : Space := x.foldl (fun t value => t + value * value) 0

/-- `sum_prod`. -/
def sumProd (x y : List Space) : Space :=
  (x.zip y).foldl (fun t pair => t + pair.1 * pair.2) 0

/-- The determinant of the matrix X. -/
def determinant (x : List Space) : Space := x.length * sumSqr x - sum x * sum x

/-- The constructor. Without a result an assertion fails. -/
def fit (x y : List Space) : Option (LinearFit Space) :=
  if x.length = y.length ∧ 1 < x.length then
    some {
      constantTerm := (sumSqr x * sum y - sum x * sumProd x y) / determinant x
      linearTerm := (x.length * sumProd x y - sum x * sum y) / determinant x }
  else none

/-! ## The determinant -/

theorem sum_eq (x : List Space) : sum x = x.sum := by
  rw [sum, Foundation.foldl_add_eq_sum (fun value => value), List.map_id', zero_add]

theorem sumSqr_eq (x : List Space) : sumSqr x = (x.map fun value => value * value).sum := by
  rw [sumSqr, Foundation.foldl_add_eq_sum, zero_add]

/-- The determinant measures how far the values are from any one value. -/
theorem length_mul_sum_sq_sub (x : List Space) (centre : Space) :
    x.length * (x.map fun value => (value - centre) ^ 2).sum =
      determinant x + (sum x - x.length * centre) ^ 2 := by
  have expand : (x.map fun value => (value - centre) ^ 2).sum =
      sumSqr x - 2 * centre * sum x + x.length * centre ^ 2 := by
    rw [sumSqr_eq, sum_eq]
    induction x with
    | nil => simp
    | cons value x ih =>
      simp only [List.map_cons, List.sum_cons, List.length_cons, ih, Nat.cast_succ]
      ring
  rw [expand, determinant]
  ring

variable [LinearOrder Space] [IsStrictOrderedRing Space]

/-- **The determinant is positive when two values differ.** -/
theorem determinant_pos {x : List Space} {first second : Space} (firstMember : first ∈ x)
    (secondMember : second ∈ x) (different : first ≠ second) : 0 < determinant x := by
  have some_values : (0 : Space) < x.length :=
    Nat.cast_pos.mpr (List.length_pos_of_mem firstMember)
  have centred := length_mul_sum_sq_sub x (sum x / x.length)
  rw [mul_div_cancel₀ _ some_values.ne', sub_self, zero_pow two_ne_zero, add_zero] at centred
  rw [← centred]
  apply mul_pos some_values
  -- One of the two values is not the mean.
  obtain ⟨value, member, away⟩ : ∃ value ∈ x, value ≠ sum x / x.length := by
    by_cases same : first = sum x / x.length
    · exact ⟨second, secondMember, fun other => different (same.trans other.symm)⟩
    · exact ⟨first, firstMember, same⟩
  have positive : 0 < (value - sum x / x.length) ^ 2 := by
    have := sub_ne_zero.mpr away
    positivity
  refine positive.trans_le (List.single_le_sum ?_ _ (List.mem_map_of_mem member))
  intro square inSquares
  obtain ⟨other, _, rfl⟩ := List.mem_map.mp inSquares
  exact sq_nonneg _

/-! ## The line of least squares -/

section Residuals

omit [LinearOrder Space] [IsStrictOrderedRing Space]

/-- The sum of the squares of what a line leaves of the values. -/
def squaredResiduals (line : LinearFit Space) (x y : List Space) : Space :=
  ((x.zip y).map fun point => (point.2 - line.constantTerm - line.linearTerm * point.1) ^ 2).sum

theorem sumProd_eq (x y : List Space) :
    sumProd x y = ((x.zip y).map fun point => point.1 * point.2).sum := by
  rw [sumProd, Foundation.foldl_add_eq_sum, zero_add]

/-- The sum of squared residuals is a quadratic polynomial in the two terms of the line. -/
theorem squaredResiduals_eq (line : LinearFit Space) {x y : List Space}
    (sameSize : x.length = y.length) :
    squaredResiduals line x y =
      sumSqr y - 2 * line.constantTerm * sum y - 2 * line.linearTerm * sumProd x y +
        x.length * line.constantTerm ^ 2 + 2 * line.constantTerm * line.linearTerm * sum x +
        line.linearTerm ^ 2 * sumSqr x := by
  rw [sumSqr_eq, sumSqr_eq, sum_eq, sum_eq, sumProd_eq, squaredResiduals]
  induction x generalizing y with
  | nil =>
    obtain rfl := List.length_eq_zero_iff.mp sameSize.symm
    simp
  | cons value x ih =>
    cases y with
    | nil => cases sameSize
    | cons measured y =>
      have rest := ih (Nat.succ.inj sameSize)
      simp only [List.zip_cons_cons, List.map_cons, List.sum_cons, List.length_cons, rest,
        Nat.cast_succ]
      ring

/-- The sums of values on a line are those of the normal equations of the line. -/
theorem sums_of_exact {exact : LinearFit Space} {x y : List Space}
    (sameSize : x.length = y.length)
    (onLine : ∀ point ∈ x.zip y,
      point.2 = exact.constantTerm + exact.linearTerm * point.1) :
    sum y = x.length * exact.constantTerm + exact.linearTerm * sum x ∧
      sumProd x y = exact.constantTerm * sum x + exact.linearTerm * sumSqr x := by
  rw [sumSqr_eq, sum_eq, sum_eq, sumProd_eq]
  induction x generalizing y with
  | nil =>
    obtain rfl := List.length_eq_zero_iff.mp sameSize.symm
    simp
  | cons value x ih =>
    cases y with
    | nil => cases sameSize
    | cons measured y =>
      rw [List.zip_cons_cons, List.forall_mem_cons] at onLine
      obtain ⟨sums, products⟩ := ih (Nat.succ.inj sameSize) onLine.2
      have here : measured = exact.constantTerm + exact.linearTerm * value := onLine.1
      simp only [List.zip_cons_cons, List.map_cons, List.sum_cons, List.length_cons, sums,
        products, here, Nat.cast_succ]
      constructor
      · ring
      · ring

/-- The line satisfies the normal equations. -/
theorem normal_equations {x y : List Space} {line : LinearFit Space}
    (solvable : determinant x ≠ 0) (fitted : fit x y = some line) :
    x.length * line.constantTerm + sum x * line.linearTerm = sum y ∧
      sum x * line.constantTerm + sumSqr x * line.linearTerm = sumProd x y := by
  unfold fit at fitted
  split_ifs at fitted
  obtain rfl := (Option.some.inj fitted).symm
  constructor
  · rw [← mul_div_assoc, ← mul_div_assoc, ← add_div, div_eq_iff solvable]
    unfold determinant
    ring
  · rw [← mul_div_assoc, ← mul_div_assoc, ← add_div, div_eq_iff solvable]
    unfold determinant
    ring

end Residuals

/-- Away from a solution of the normal equations the sum of squared residuals is greater by the
sum of the squares of a line. -/
theorem squaredResiduals_le_of_normal_equations {line : LinearFit Space} {x y : List Space}
    (sameSize : x.length = y.length) (several : 0 < x.length) (positive : 0 < determinant x)
    (first : x.length * line.constantTerm + sum x * line.linearTerm = sum y)
    (second : sum x * line.constantTerm + sumSqr x * line.linearTerm = sumProd x y)
    (other : LinearFit Space) : squaredResiduals line x y ≤ squaredResiduals other x y := by
  have size : (0 : Space) < x.length := Nat.cast_pos.mpr several
  rw [squaredResiduals_eq line sameSize, squaredResiduals_eq other sameSize]
  unfold determinant at positive
  -- The difference of the two sums, times the number of points.
  have squares : 0 ≤ (x.length * (other.constantTerm - line.constantTerm) +
      (other.linearTerm - line.linearTerm) * sum x) ^ 2 +
      (other.linearTerm - line.linearTerm) ^ 2 * (x.length * sumSqr x - sum x * sum x) := by
    positivity
  refine le_of_mul_le_mul_left (sub_nonneg.mp ?_) size
  refine squares.trans_eq ?_
  rw [← first, ← second]
  ring

/-- **The fit is the line of least squares**, and values on a line give that line. -/
theorem fit_leastSquares {x y : List Space} (sameSize : x.length = y.length)
    (several : 2 ≤ x.length) (different : ∃ first ∈ x, ∃ second ∈ x, first ≠ second) :
    determinant x ≠ 0 ∧ ∃ line, fit x y = some line ∧
      (∀ other : LinearFit Space, squaredResiduals line x y ≤ squaredResiduals other x y) ∧
      ∀ exact : LinearFit Space,
        (∀ point ∈ x.zip y, point.2 = exact.constantTerm + exact.linearTerm * point.1) →
          line = exact := by
  obtain ⟨first, firstMember, second, secondMember, unequal⟩ := different
  have positive := determinant_pos firstMember secondMember unequal
  obtain ⟨line, fitted⟩ : ∃ line, fit x y = some line := by
    unfold fit
    rw [if_pos ⟨sameSize, several⟩]
    exact ⟨_, rfl⟩
  obtain ⟨normalFirst, normalSecond⟩ := normal_equations positive.ne' fitted
  refine ⟨positive.ne', line, fitted, ?_, fun exact onLine => ?_⟩
  · exact squaredResiduals_le_of_normal_equations sameSize (by omega) positive normalFirst
      normalSecond
  · obtain ⟨sums, products⟩ := sums_of_exact sameSize onLine
    rw [sums] at normalFirst
    rw [products] at normalSecond
    have constantTerm : line.constantTerm = exact.constantTerm := by
      apply mul_left_cancel₀ positive.ne'
      unfold determinant
      linear_combination sumSqr x * normalFirst - sum x * normalSecond
    have linearTerm : line.linearTerm = exact.linearTerm := by
      apply mul_left_cancel₀ positive.ne'
      unfold determinant
      linear_combination x.length * normalSecond - sum x * normalFirst
    obtain ⟨a, b⟩ := line
    obtain ⟨c, d⟩ := exact
    exact congrArg₂ LinearFit.mk constantTerm linearTerm

/-- Three points that are not on a line. -/
theorem fit_leastSquares_three :
    determinant [0, 1, 3] ≠ (0 : ℚ) ∧ ∃ line, fit [0, 1, 3] [1, 2, 0] = some line ∧
      (∀ other : LinearFit ℚ, squaredResiduals line [0, 1, 3] [1, 2, 0] ≤
        squaredResiduals other [0, 1, 3] [1, 2, 0]) ∧
      ∀ exact : LinearFit ℚ,
        (∀ point ∈ ([0, 1, 3] : List ℚ).zip [1, 2, 0],
          point.2 = exact.constantTerm + exact.linearTerm * point.1) → line = exact :=
  fit_leastSquares rfl (by decide)
    ⟨0, List.mem_cons_self, 1, List.mem_cons_of_mem _ List.mem_cons_self, zero_ne_one⟩

end LinearFit

end AthabascaRecon
