import AthabascaRecon.Foundation.Samples
import Mathlib.Algebra.Field.Basic
import Mathlib.Algebra.Field.Rat
import Mathlib.Algebra.Group.Nat.Even
import Mathlib.Tactic.Ring

/-!
# The ramp filter in real space

`ConstructRealSpaceFilter` makes the kernel of the ramp filter, centred at the first element
and with wrap-around. An element of the array depends on its distance to the first one
(`realSpaceFilter_apply`), in the way that is documented
(`constructRealSpaceFilterFor_documented`).
-/

set_option autoImplicit false

namespace AthabascaRecon

/-- What the filters throw. -/
inductive FilterError where
  | assertionFailed
  | message (text : String)
  deriving DecidableEq, Repr

/-- `athabasca_assert`. -/
def athabascaAssert (condition : Prop) [Decidable condition] : Except FilterError Unit :=
  if condition then .ok () else .error .assertionFailed

theorem athabascaAssert_of {condition : Prop} [Decidable condition] (holds : condition) :
    athabascaAssert condition = .ok () :=
  if_pos holds

/-- The members of a `RampFilterRealSpace`. -/
structure RampFilterRealSpace (Value : Type) where
  length : ℕ
  spacing : Value
  weight : Value

namespace RampFilterRealSpace

variable {Value : Type} [Field Value] (pi : Value) (ramp : RampFilterRealSpace Value)

/-- The factor `C` of the elements away from the first one. -/
def factor : Value := -ramp.weight / (pi * pi * ramp.spacing)

/-- The values of the loop variable: the odd numbers up to half of the length. -/
def oddDistances : List ℕ := List.range' 1 ((ramp.length / 2 + 1) / 2) 2

/-- The assignments to elements, in their order. -/
def writes : List (ℕ × Value) :=
  (0, ramp.weight / (4 * ramp.spacing)) ::
    ramp.oddDistances.flatMap fun i =>
      [(i, ramp.factor pi / (i * i : ℕ)), (ramp.length - i, ramp.factor pi / (i * i : ℕ))]

/-- The array after the assignments. -/
def realSpaceFilter (f : Samples Value) : Samples Value :=
  Samples.writeAll (ramp.writes pi) (Samples.zeroFrom 0 ramp.length f)

/-- `ConstructRealSpaceFilter`, on an array of the length of the filter. -/
def constructRealSpaceFilter (f : Samples Value) : Except FilterError (Samples Value) := do
  athabascaAssert (0 < ramp.length)
  return ramp.realSpaceFilter pi f

/-- `ConstructRealSpaceFilter`, on an array that may have been constructed with a size. -/
def constructRealSpaceFilterFor (constructed : Option ℕ) (f : Samples Value) :
    Except FilterError (Samples Value) := do
  athabascaAssert (0 < ramp.length)
  match constructed with
  | some size =>
    athabascaAssert (size = ramp.length)
    return ramp.realSpaceFilter pi f
  | none => return ramp.realSpaceFilter pi 0

theorem constructRealSpaceFilter_eq (some_elements : 0 < ramp.length) (f : Samples Value) :
    ramp.constructRealSpaceFilter pi f = .ok (ramp.realSpaceFilter pi f) := by
  rw [constructRealSpaceFilter, athabascaAssert_of some_elements]
  rfl

/-- The kernel at a distance. -/
def kernel (distance : ℕ) : Value :=
  if distance = 0 then ramp.weight / (4 * ramp.spacing)
  else if Even distance then 0
  else ramp.factor pi / (distance * distance : ℕ)

variable {pi ramp}

omit [Field Value] in
theorem mem_oddDistances {i : ℕ} :
    i ∈ ramp.oddDistances ↔ ¬ Even i ∧ i ≤ ramp.length / 2 := by
  rw [oddDistances, List.mem_range', Nat.not_even_iff]
  constructor
  · rintro ⟨step, inside, rfl⟩
    omega
  · rintro ⟨odd, inside⟩
    exact ⟨i / 2, by omega, by omega⟩

/-- Every assignment is to a position in the array and has the value of the kernel there. -/
theorem kernel_of_mem_writes {write : ℕ × Value} (member : write ∈ ramp.writes pi) :
    write.2 = ramp.kernel pi (min write.1 (ramp.length - write.1)) := by
  rcases List.mem_cons.mp member with rfl | later
  · simp [kernel]
  · obtain ⟨i, distance, either⟩ := List.mem_flatMap.mp later
    obtain ⟨odd, half⟩ := mem_oddDistances.mp distance
    have positive : i ≠ 0 := by
      rintro rfl
      exact odd (by decide)
    simp only [List.mem_cons, List.not_mem_nil, or_false] at either
    rcases either with rfl | rfl
    · dsimp only
      rw [min_eq_left (by omega), kernel, if_neg positive, if_neg odd]
    · dsimp only
      rw [Nat.sub_sub_self (by omega), min_eq_right (by omega), kernel, if_neg positive,
        if_neg odd]

/-- The positions that no assignment goes to have even distances. -/
theorem kernel_of_not_written {k : ℕ} (inside : k < ramp.length)
    (unwritten : k ∉ (ramp.writes pi).map Prod.fst) :
    ramp.kernel pi (min k (ramp.length - k)) = 0 := by
  have written {i : ℕ} (distance : i ∈ ramp.oddDistances) :
      i ∈ (ramp.writes pi).map Prod.fst ∧ ramp.length - i ∈ (ramp.writes pi).map Prod.fst := by
    simp only [writes, List.map_cons, List.mem_cons, List.map_flatMap, List.mem_flatMap,
      List.map_nil, List.not_mem_nil, or_false]
    exact ⟨.inr ⟨i, distance, .inl rfl⟩, .inr ⟨i, distance, .inr rfl⟩⟩
  have nonzero : k ≠ 0 := by
    rintro rfl
    exact unwritten (by simp [writes])
  have even : Even (min k (ramp.length - k)) := by
    by_contra odd
    rcases Nat.le_total k (ramp.length - k) with first | second
    · rw [min_eq_left first] at odd
      exact unwritten (written (mem_oddDistances.mpr ⟨odd, by omega⟩)).1
    · rw [min_eq_right second] at odd
      have there := (written (mem_oddDistances.mpr ⟨odd, by omega⟩)).2
      rw [Nat.sub_sub_self inside.le] at there
      exact unwritten there
  rw [kernel, if_neg (by omega), if_pos even]

/-- **An element of the array is the kernel at its distance to the first one.** -/
theorem realSpaceFilter_apply (f : Samples Value) {k : ℕ} (inside : k < ramp.length) :
    ramp.realSpaceFilter pi f k = ramp.kernel pi (min k (ramp.length - k)) := by
  by_cases written : k ∈ (ramp.writes pi).map Prod.fst
  · apply Samples.writeAll_of_mem written
    rintro write member rfl
    exact kernel_of_mem_writes member
  · rw [realSpaceFilter, Samples.writeAll_of_not_mem written, Samples.zeroFrom,
      if_pos ⟨Nat.zero_le k, by omega⟩, kernel_of_not_written inside written]

/-- The array is even. -/
theorem realSpaceFilter_even (f : Samples Value) {k : ℕ} (positive : 0 < k)
    (inside : k < ramp.length) :
    ramp.realSpaceFilter pi f (ramp.length - k) = ramp.realSpaceFilter pi f k := by
  rw [realSpaceFilter_apply f (by omega), realSpaceFilter_apply f inside,
    Nat.sub_sub_self inside.le, min_comm]

/-! ## The documented kernel -/

/-- Every assignment is to an element of the array. -/
theorem lt_length_of_mem_writes (some_elements : 0 < ramp.length) {write : ℕ × Value}
    (member : write ∈ ramp.writes pi) : write.1 < ramp.length := by
  rcases List.mem_cons.mp member with rfl | later
  · exact some_elements
  · obtain ⟨i, distance, either⟩ := List.mem_flatMap.mp later
    obtain ⟨odd, half⟩ := mem_oddDistances.mp distance
    have positive : i ≠ 0 := by
      rintro rfl
      exact odd (by decide)
    simp only [List.mem_cons, List.not_mem_nil, or_false] at either
    rcases either with rfl | rfl
    · dsimp only
      omega
    · dsimp only
      omega

/-- What is done to an array that can be the result. -/
theorem constructRealSpaceFilterFor_eq_ok (some_elements : 0 < ramp.length)
    {constructed : Option ℕ} (suitable : constructed = none ∨ constructed = some ramp.length)
    (f : Samples Value) :
    ∃ before, ramp.constructRealSpaceFilterFor pi constructed f =
      .ok (ramp.realSpaceFilter pi before) := by
  unfold constructRealSpaceFilterFor
  rw [athabascaAssert_of some_elements]
  rcases suitable with rfl | rfl
  · exact ⟨0, rfl⟩
  · dsimp only
    rw [athabascaAssert_of rfl]
    exact ⟨f, rfl⟩

/-- The documented ramp function. -/
def rampFunction (pi spacing : Value) (m : ℕ) : Value :=
  if m = 0 then 1 / (4 * spacing)
  else if Even m then 0
  else -1 / (m ^ 2 * pi ^ 2 * spacing)

theorem kernel_eq (distance : ℕ) :
    ramp.kernel pi distance = ramp.weight * rampFunction pi ramp.spacing distance := by
  unfold kernel rampFunction factor
  split_ifs with first even
  · rw [mul_one_div]
  · rw [mul_zero]
  · rw [div_div, ← mul_div_assoc, mul_neg_one]
    push_cast
    congr 1
    ring

/-- **The array is the documented wrap-around function**, and all assignments are to its
elements. -/
theorem constructRealSpaceFilterFor_documented (some_elements : 0 < ramp.length)
    {constructed : Option ℕ} (suitable : constructed = none ∨ constructed = some ramp.length)
    (f : Samples Value) :
    (∀ write ∈ ramp.writes pi, write.1 < ramp.length) ∧
      ∃ g, ramp.constructRealSpaceFilterFor pi constructed f = .ok g ∧
        ∀ k, k < ramp.length →
          g k = ramp.weight * rampFunction pi ramp.spacing (min k (ramp.length - k)) := by
  obtain ⟨before, result⟩ := @constructRealSpaceFilterFor_eq_ok _ _ pi _ some_elements _ suitable f
  refine ⟨fun write => lt_length_of_mem_writes some_elements, _, result, fun k inside => ?_⟩
  rw [realSpaceFilter_apply before inside, kernel_eq]

/-- An odd length, on an array that is not constructed. -/
theorem constructRealSpaceFilterFor_documented_five :
    (∀ write ∈ (⟨5, 1 / 4, 3⟩ : RampFilterRealSpace ℚ).writes (22 / 7), write.1 < 5) ∧
      ∃ g, (⟨5, 1 / 4, 3⟩ : RampFilterRealSpace ℚ).constructRealSpaceFilterFor (22 / 7) none 0 =
          .ok g ∧
        ∀ k, k < 5 → g k = 3 * rampFunction (22 / 7) (1 / 4) (min k (5 - k)) :=
  constructRealSpaceFilterFor_documented (by decide) (.inl rfl) 0

/-- The kernel is proportional to the weight and does not depend on the length. -/
theorem kernel_div (length other : ℕ) (spacing weight c : Value) (distance : ℕ) :
    kernel pi ⟨length, spacing, weight / c⟩ distance =
      kernel pi ⟨other, spacing, weight⟩ distance / c := by
  unfold kernel factor
  dsimp only
  split_ifs
  · rw [div_right_comm]
  · rw [zero_div]
  · rw [← neg_div, div_right_comm (-weight), div_right_comm _ c]

end RampFilterRealSpace

end AthabascaRecon
