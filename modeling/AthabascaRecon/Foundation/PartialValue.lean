import Mathlib.Algebra.Order.Field.Basic
import Mathlib.Data.Nat.Cast.Order.Field

/-!
# Values of partial operations

A calculation in exact arithmetic may divide by 0 or take the logarithm of a number that is
not positive. It then has no number as its result, nor has any calculation that goes on with
that result.
-/

set_option autoImplicit false

namespace Foundation

/-- What a calculation with partial operations gives: a number or nothing that is one. -/
inductive PartialValue (Space : Type) where
  | number (value : Space)
  | undefined
  deriving DecidableEq, Repr

namespace PartialValue

variable {Space : Type} [Field Space]

/-- The calculation has a number as its result. -/
def IsDefined (result : PartialValue Space) : Prop := ∃ value, result = .number value

instance : Zero (PartialValue Space) := ⟨.number 0⟩

instance : NatCast (PartialValue Space) := ⟨fun n => .number n⟩

/-- An operation that is defined for numbers. -/
def lift (operation : Space → Space → Space) :
    PartialValue Space → PartialValue Space → PartialValue Space
  | .number x, .number y => .number (operation x y)
  | _, _ => .undefined

instance : Add (PartialValue Space) := ⟨lift (· + ·)⟩

instance : Mul (PartialValue Space) := ⟨lift (· * ·)⟩

instance : Neg (PartialValue Space) where
  neg
    | .number x => .number (-x)
    | .undefined => .undefined

variable [LinearOrder Space]

/-- A quotient is defined when the divisor is not 0. -/
instance : Div (PartialValue Space) where
  div
    | .number x, .number y => if y = 0 then .undefined else .number (x / y)
    | _, _ => .undefined

/-- A logarithm is defined for positive numbers. -/
def log (logarithm : Space → Space) : PartialValue Space → PartialValue Space
  | .number x => if 0 < x then .number (logarithm x) else .undefined
  | .undefined => .undefined

omit [Field Space] [LinearOrder Space] in
theorem number_isDefined (value : Space) : (PartialValue.number value).IsDefined :=
  ⟨value, rfl⟩

omit [LinearOrder Space] in
@[simp]
theorem number_add (x y : Space) :
    PartialValue.number x + .number y = .number (x + y) := rfl

omit [LinearOrder Space] in
@[simp]
theorem number_mul (x y : Space) :
    PartialValue.number x * .number y = .number (x * y) := rfl

omit [LinearOrder Space] in
@[simp]
theorem number_natCast (n : ℕ) : (n : PartialValue Space) = .number n := rfl

theorem number_div {x divisor : Space} (nonzero : divisor ≠ 0) :
    PartialValue.number x / .number divisor = .number (x / divisor) :=
  if_neg nonzero

theorem number_div_zero (x : Space) : PartialValue.number x / .number 0 = .undefined :=
  if_pos rfl

theorem log_number {logarithm : Space → Space} {x : Space} (positive : 0 < x) :
    log logarithm (.number x) = .number (logarithm x) :=
  if_pos positive

omit [LinearOrder Space] in
@[simp]
theorem mul_undefined (x : PartialValue Space) : x * .undefined = .undefined := by
  cases x <;> rfl

omit [LinearOrder Space] in
@[simp]
theorem add_undefined (x : PartialValue Space) : x + .undefined = .undefined := by
  cases x <;> rfl

omit [LinearOrder Space] in
theorem add_isDefined {x y : PartialValue Space} (first : x.IsDefined) (second : y.IsDefined) :
    (x + y).IsDefined := by
  obtain ⟨a, rfl⟩ := first
  obtain ⟨b, rfl⟩ := second
  exact ⟨a + b, rfl⟩

theorem div_isDefined {x : PartialValue Space} {divisor : Space} (defined : x.IsDefined)
    (nonzero : divisor ≠ 0) : (x / .number divisor).IsDefined := by
  obtain ⟨a, rfl⟩ := defined
  exact ⟨a / divisor, number_div nonzero⟩

/-- The logarithm of a quotient of a number and a divisor that is not 0. -/
theorem log_div_isDefined (logarithm : Space → Space) {x divisor : Space} (nonzero : divisor ≠ 0)
    (positive : 0 < x / divisor) : (log logarithm (.number x / .number divisor)).IsDefined := by
  rw [number_div nonzero, log_number positive]
  exact number_isDefined _

end PartialValue

end Foundation
