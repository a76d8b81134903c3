import Mathlib.Algebra.BigOperators.Group.List.Basic
import Mathlib.Data.Nat.Cast.Basic
import Mathlib.Tactic.Ring

/-!
# Loops that add up

A loop that adds a term for every item to a variable leaves the sum of the terms in it.
-/

set_option autoImplicit false

namespace Foundation

variable {Item Value : Type*}

theorem foldl_add_eq_sum [AddMonoid Value] (term : Item → Value) (items : List Item)
    (start : Value) :
    items.foldl (fun sum item => sum + term item) start = start + (items.map term).sum := by
  induction items generalizing start with
  | nil => rw [List.foldl_nil, List.map_nil, List.sum_nil, add_zero]
  | cons item items ih => rw [List.foldl_cons, ih, List.map_cons, List.sum_cons, add_assoc]

/-- Terms that are all greater by one number. -/
theorem foldl_add_shift [CommRing Value] {before after : Item → Value} {items : List Item}
    (shift : Value) (shifted : ∀ item ∈ items, after item = before item + shift) (start : Value) :
    items.foldl (fun sum item => sum + after item) start =
      items.foldl (fun sum item => sum + before item) start + items.length * shift := by
  rw [foldl_add_eq_sum, foldl_add_eq_sum, add_assoc, add_right_inj]
  induction items with
  | nil => rw [List.map_nil, List.map_nil, List.length_nil, Nat.cast_zero, zero_mul, add_zero]
  | cons item items ih =>
    rw [List.forall_mem_cons] at shifted
    rw [List.map_cons, List.map_cons, List.sum_cons, List.sum_cons, ih shifted.2, shifted.1,
      List.length_cons, Nat.cast_succ]
    ring

end Foundation
