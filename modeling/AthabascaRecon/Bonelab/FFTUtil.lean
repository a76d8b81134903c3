import Mathlib.Algebra.Order.Ring.Nat

/-!
# Lengths for transforms

`NextPowerOfTwo` finds the exponent of a power of two that is large enough, and
`NextNumberWithFactors2And3` the smallest product of twos and threes that is large enough:
its loop goes from one power of two to the next smaller one and keeps the least sufficient
power of three for it (`FactorsInvariant`).
-/

set_option autoImplicit false

namespace AthabascaRecon

/-- The loop of `NextPowerOfTwo`. -/
def nextPowerOfTwoFrom (n exponent : ℕ) : ℕ :=
  if 2 ^ exponent < n then nextPowerOfTwoFrom n (exponent + 1) else exponent
termination_by n - 2 ^ exponent
decreasing_by
  have grows : 2 ^ exponent < 2 ^ (exponent + 1) :=
    Nat.pow_lt_pow_right (by decide) (Nat.lt_succ_self exponent)
  omega

/-- `NextPowerOfTwo`. -/
def nextPowerOfTwo (n : ℕ) : ℕ := nextPowerOfTwoFrom n 0

/-- The loop of `NextNumberWithFactors2And3`. -/
def factorsLoop (n : ℕ) : ℕ → ℕ → ℕ → ℕ
  | 0, bestResult, _ => bestResult
  | factorsOf2 + 1, bestResult, testResult =>
    let halved := testResult / 2
    let testResult := if halved < n then halved * 3 else halved
    factorsLoop n factorsOf2 (min bestResult testResult) testResult

/-- `NextNumberWithFactors2And3`. -/
def nextNumberWithFactors2And3 (n : ℕ) : ℕ :=
  let factorsOf2 := nextPowerOfTwo n
  factorsLoop n factorsOf2 (2 ^ factorsOf2) (2 ^ factorsOf2)

theorem le_two_pow_nextPowerOfTwoFrom (n exponent : ℕ) :
    n ≤ 2 ^ nextPowerOfTwoFrom n exponent := by
  induction exponent using nextPowerOfTwoFrom.induct n with
  | case1 exponent below ih =>
    rw [nextPowerOfTwoFrom, if_pos below]
    exact ih
  | case2 exponent enough =>
    rw [nextPowerOfTwoFrom, if_neg enough]
    exact Nat.le_of_not_lt enough

/-- The power of two is large enough. -/
theorem le_two_pow_nextPowerOfTwo (n : ℕ) : n ≤ 2 ^ nextPowerOfTwo n :=
  le_two_pow_nextPowerOfTwoFrom n 0

/-- The products that the loop tries are even until the last, and large enough. -/
theorem le_factorsLoop {n factorsOf2 bestResult testResult : ℕ} (best : n ≤ bestResult)
    (test : n ≤ testResult) (divides : 2 ^ factorsOf2 ∣ testResult) :
    n ≤ factorsLoop n factorsOf2 bestResult testResult := by
  induction factorsOf2 generalizing bestResult testResult with
  | zero => exact best
  | succ factorsOf2 ih =>
    obtain ⟨others, rfl⟩ := divides
    have doubled : 2 ^ (factorsOf2 + 1) * others = 2 * (2 ^ factorsOf2 * others) := by
      rw [pow_succ', mul_assoc]
    rw [doubled] at test
    rw [factorsLoop, doubled, Nat.mul_div_cancel_left _ (by decide)]
    split_ifs with below
    · exact ih (le_min best (by omega)) (by omega)
        (Dvd.dvd.mul_right (Dvd.intro _ rfl) 3)
    · exact ih (le_min best (by omega)) (by omega) (Dvd.intro _ rfl)

/-- The length that is found is large enough. -/
theorem le_nextNumberWithFactors2And3 (n : ℕ) : n ≤ nextNumberWithFactors2And3 n :=
  le_factorsLoop (le_two_pow_nextPowerOfTwo n) (le_two_pow_nextPowerOfTwo n) dvd_rfl

/-! ## The smallest product of twos and threes -/

/-- Numbers with no other prime factors than two and three. -/
def HasFactors2And3 (number : ℕ) : Prop := ∃ twos threes, number = 2 ^ twos * 3 ^ threes

/-- The product tried at a power of two has the smallest sufficient power of three, and the
best one so far is a smallest sufficient product with that power of two or a larger one. -/
structure FactorsInvariant (n factorsOf2 bestResult testResult : ℕ) : Prop where
  tested : ∃ threes, testResult = 2 ^ factorsOf2 * 3 ^ threes ∧
    ∀ others, n ≤ 2 ^ factorsOf2 * 3 ^ others → threes ≤ others
  enough : n ≤ testResult
  factors : HasFactors2And3 bestResult
  best : ∀ twos threes, factorsOf2 ≤ twos → n ≤ 2 ^ twos * 3 ^ threes →
    bestResult ≤ 2 ^ twos * 3 ^ threes

namespace FactorsInvariant

variable {n factorsOf2 bestResult testResult : ℕ}

/-- Before the loop, the best product is the power of two itself. -/
theorem start (n : ℕ) :
    FactorsInvariant n (nextPowerOfTwo n) (2 ^ nextPowerOfTwo n) (2 ^ nextPowerOfTwo n) where
  tested := ⟨0, (Nat.mul_one _).symm, fun _ _ => Nat.zero_le _⟩
  enough := le_two_pow_nextPowerOfTwo n
  factors := ⟨nextPowerOfTwo n, 0, (Nat.mul_one _).symm⟩
  best := by
    intro twos threes larger _
    calc 2 ^ nextPowerOfTwo n ≤ 2 ^ twos := Nat.pow_le_pow_right (by decide) larger
      _ ≤ 2 ^ twos * 3 ^ threes := Nat.le_mul_of_pos_right _ (Nat.pow_pos (by decide))

/-- A new product to try, with the next smaller power of two. -/
theorem advance (before : FactorsInvariant n (factorsOf2 + 1) bestResult testResult)
    {threes : ℕ} (enough : n ≤ 2 ^ factorsOf2 * 3 ^ threes)
    (least : ∀ others, n ≤ 2 ^ factorsOf2 * 3 ^ others → threes ≤ others) :
    FactorsInvariant n factorsOf2 (min bestResult (2 ^ factorsOf2 * 3 ^ threes))
      (2 ^ factorsOf2 * 3 ^ threes) where
  tested := ⟨threes, rfl, least⟩
  enough := enough
  factors := by
    rcases min_choice bestResult (2 ^ factorsOf2 * 3 ^ threes) with same | same
    · rw [same]
      exact before.factors
    · rw [same]
      exact ⟨factorsOf2, threes, rfl⟩
  best := by
    intro twos others larger sufficient
    rcases larger.eq_or_lt with rfl | above
    · have fewest : 3 ^ threes ≤ 3 ^ others :=
        Nat.pow_le_pow_right (by decide) (least others sufficient)
      exact (min_le_right _ _).trans (Nat.mul_le_mul_left _ fewest)
    · exact (min_le_left _ _).trans (before.best twos others above sufficient)

/-- One pass of the loop. -/
theorem step (before : FactorsInvariant n (factorsOf2 + 1) bestResult testResult) :
    let halved := testResult / 2
    let tripled := if halved < n then halved * 3 else halved
    FactorsInvariant n factorsOf2 (min bestResult tripled) tripled := by
  intro halved tripled
  obtain ⟨threes, product, least⟩ := before.tested
  have enough := before.enough
  have doubled : testResult = 2 * (2 ^ factorsOf2 * 3 ^ threes) := by
    rw [product, pow_succ', mul_assoc]
  have half : halved = 2 ^ factorsOf2 * 3 ^ threes := by
    change testResult / 2 = _
    rw [doubled, Nat.mul_div_cancel_left _ (by decide)]
  -- a power of three that is enough for the smaller power of two was enough before
  have before_enough : ∀ others, n ≤ 2 ^ factorsOf2 * 3 ^ others → threes ≤ others := by
    intro others sufficient
    refine least others (sufficient.trans (Nat.mul_le_mul_right _ ?_))
    exact Nat.pow_le_pow_right (by decide) (Nat.le_succ factorsOf2)
  by_cases below : halved < n
  · have tripledEq : tripled = 2 ^ factorsOf2 * 3 ^ (threes + 1) := by
      change (if halved < n then halved * 3 else halved) = _
      rw [if_pos below, half, pow_succ, mul_assoc]
    rw [tripledEq]
    rw [half] at below
    refine before.advance ?_ ?_
    · rw [pow_succ, ← mul_assoc]
      omega
    · intro others sufficient
      refine Nat.lt_of_le_of_ne (before_enough others sufficient) ?_
      rintro rfl
      omega
  · have tripledEq : tripled = 2 ^ factorsOf2 * 3 ^ threes := by
      change (if halved < n then halved * 3 else halved) = _
      rw [if_neg below, half]
    rw [tripledEq]
    rw [half] at below
    exact before.advance (Nat.le_of_not_lt below) before_enough

/-- The whole loop ends with the smallest of all products that are large enough. -/
theorem finish (invariant : FactorsInvariant n factorsOf2 bestResult testResult) :
    HasFactors2And3 (factorsLoop n factorsOf2 bestResult testResult) ∧
      ∀ number, HasFactors2And3 number → n ≤ number →
        factorsLoop n factorsOf2 bestResult testResult ≤ number := by
  induction factorsOf2 generalizing bestResult testResult with
  | zero =>
    refine ⟨invariant.factors, ?_⟩
    rintro number ⟨twos, threes, rfl⟩ sufficient
    exact invariant.best twos threes (Nat.zero_le twos) sufficient
  | succ factorsOf2 ih =>
    rw [factorsLoop]
    exact ih invariant.step

end FactorsInvariant

/-! ## Integers of a type -/

/-- The loop of `NextPowerOfTwo` with integers up to `largest`. There is no result when a
power of two is larger. -/
def nextPowerOfTwoFromWithin (largest n exponent : ℕ) : Option ℕ :=
  if 2 ^ exponent ≤ largest then
    if 2 ^ exponent < n then nextPowerOfTwoFromWithin largest n (exponent + 1)
    else some exponent
  else none
termination_by n - 2 ^ exponent
decreasing_by
  have grows : 2 ^ exponent < 2 ^ (exponent + 1) :=
    Nat.pow_lt_pow_right (by decide) (Nat.lt_succ_self exponent)
  omega

/-- The loop of `NextNumberWithFactors2And3` with integers up to `largest`. There is no
result when a product is larger. -/
def factorsLoopWithin (largest n : ℕ) : ℕ → ℕ → ℕ → Option ℕ
  | 0, bestResult, _ => some bestResult
  | factorsOf2 + 1, bestResult, testResult =>
    let halved := testResult / 2
    if halved < n then
      if halved * 3 ≤ largest then
        factorsLoopWithin largest n factorsOf2 (min bestResult (halved * 3)) (halved * 3)
      else none
    else factorsLoopWithin largest n factorsOf2 (min bestResult halved) halved

/-- `NextNumberWithFactors2And3` for a type whose largest value is `largest`. -/
def nextNumberWithFactors2And3Within (largest n : ℕ) : Option ℕ := do
  let factorsOf2 ← nextPowerOfTwoFromWithin largest n 0
  factorsLoopWithin largest n factorsOf2 (2 ^ factorsOf2) (2 ^ factorsOf2)

theorem nextPowerOfTwoFromWithin_eq_some {largest n exponent : ℕ} (room : 3 * n ≤ largest)
    (representable : 2 ^ exponent ≤ largest) :
    nextPowerOfTwoFromWithin largest n exponent = some (nextPowerOfTwoFrom n exponent) := by
  induction exponent using nextPowerOfTwoFrom.induct n with
  | case1 exponent below ih =>
    rw [nextPowerOfTwoFromWithin, nextPowerOfTwoFrom, if_pos representable, if_pos below,
      if_pos below]
    exact ih (by rw [pow_succ]; omega)
  | case2 exponent enough =>
    rw [nextPowerOfTwoFromWithin, nextPowerOfTwoFrom, if_pos representable, if_neg enough,
      if_neg enough]

theorem factorsLoopWithin_eq_some {largest n : ℕ} (room : 3 * n ≤ largest)
    (factorsOf2 bestResult testResult : ℕ) :
    factorsLoopWithin largest n factorsOf2 bestResult testResult =
      some (factorsLoop n factorsOf2 bestResult testResult) := by
  induction factorsOf2 generalizing bestResult testResult with
  | zero => rfl
  | succ factorsOf2 ih =>
    rw [factorsLoopWithin, factorsLoop]
    by_cases below : testResult / 2 < n
    · rw [if_pos below, if_pos below, if_pos (by omega), ih]
    · rw [if_neg below, if_neg below, ih]

/-- Nothing is too large as long as three times the argument is not. -/
theorem nextNumberWithFactors2And3Within_eq_some {largest n : ℕ} (positive : 1 ≤ n)
    (room : 3 * n ≤ largest) :
    nextNumberWithFactors2And3Within largest n = some (nextNumberWithFactors2And3 n) := by
  rw [nextNumberWithFactors2And3Within,
    nextPowerOfTwoFromWithin_eq_some room (by rw [pow_zero]; omega), Option.bind_eq_bind,
    Option.bind_some, factorsLoopWithin_eq_some room]
  rfl

/-- **`NextNumberWithFactors2And3` finds the smallest number that is large enough and has no
other prime factors than two and three.** -/
theorem nextNumberWithFactors2And3_least (largest n : ℕ) (positive : 1 ≤ n)
    (room : 3 * n ≤ largest) :
    ∃ found, nextNumberWithFactors2And3Within largest n = some found ∧
      HasFactors2And3 found ∧ n ≤ found ∧
      ∀ number, HasFactors2And3 number → n ≤ number → found ≤ number := by
  obtain ⟨factors, least⟩ := (FactorsInvariant.start n).finish
  exact ⟨_, nextNumberWithFactors2And3Within_eq_some positive room, factors,
    le_nextNumberWithFactors2And3 n, least⟩

/-- The length for 19 in a type of eight bits. -/
theorem nextNumberWithFactors2And3_least_nineteen :
    1 ≤ 19 ∧ 3 * 19 ≤ 127 ∧ ∃ found, nextNumberWithFactors2And3Within 127 19 = some found ∧
      HasFactors2And3 found ∧ 19 ≤ found ∧
      ∀ number, HasFactors2And3 number → 19 ≤ number → found ≤ number :=
  ⟨by decide, by decide, nextNumberWithFactors2And3_least 127 19 (by decide) (by decide)⟩

example : (List.range' 1 10).map nextNumberWithFactors2And3 =
    [1, 2, 3, 4, 6, 6, 8, 8, 9, 12] := by
  simp [nextNumberWithFactors2And3, nextPowerOfTwo, nextPowerOfTwoFrom, factorsLoop, List.range']

end AthabascaRecon
