import Mathlib.Data.List.Basic
import Mathlib.Logic.Function.Basic

/-!
# Assignments in place

A list of assignments is carried out one after another in one store, so that a later one may
read what an earlier one has written. When no assignment reads a location that any of them
writes, and those to one location agree, the assignments are `Separate`: each of them then
has the value that it has in the store before them all (`assignAll_of_target`). So the store
after them depends neither on their order (`assignAll_eq_of_mem_iff`) nor on what was at the
written locations (`assignAll_congr`), and carrying them out again changes nothing
(`assignAll_assignAll`).
-/

set_option autoImplicit false

namespace Foundation.InPlace

variable {Key Loc Val : Type*} [DecidableEq Loc]
variable (target : Key → Loc) (value : Key → (Loc → Val) → Val)

/-- Assignments in the order of a list. -/
def assignAll (keys : List Key) (store : Loc → Val) : Loc → Val :=
  keys.foldl (fun store key => Function.update store (target key) (value key store)) store

/-- Two stores that agree where no assignment of a list writes. -/
def AgreeOff (keys : List Key) (first second : Loc → Val) : Prop :=
  ∀ location, location ∉ keys.map target → first location = second location

/-- No assignment reads what one of them writes, and those to one location agree. -/
structure Separate (keys : List Key) : Prop where
  stable : ∀ key ∈ keys, ∀ first second, AgreeOff target keys first second →
    value key first = value key second
  agree : ∀ key ∈ keys, ∀ other ∈ keys, target key = target other → value key = value other

variable {target value} {keys others : List Key} {store : Loc → Val}

/-- A location that no assignment writes. -/
theorem assignAll_of_not_target {location : Loc} (unwritten : location ∉ keys.map target) :
    assignAll target value keys store location = store location := by
  induction keys generalizing store with
  | nil => rfl
  | cons key keys ih =>
    rw [List.map_cons, List.mem_cons, not_or] at unwritten
    rw [assignAll, List.foldl_cons, ← assignAll, ih unwritten.2,
      Function.update_of_ne unwritten.1]

theorem assignAll_agreeOff :
    AgreeOff target keys (assignAll target value keys store) store :=
  fun _ unwritten => assignAll_of_not_target unwritten

/-- A part of the assignments, from a store that the others have been at. -/
theorem assignAll_of_subset (separate : Separate target value keys) (subset : others ⊆ keys)
    {before : Loc → Val} (agree : AgreeOff target keys before store) {key : Key}
    (member : key ∈ keys) (done : target key ∈ others.map target ∨
      before (target key) = value key store) :
    assignAll target value others before (target key) = value key store := by
  induction others generalizing before with
  | nil => exact done.resolve_left List.not_mem_nil
  | cons other others ih =>
    rw [List.cons_subset] at subset
    rw [assignAll, List.foldl_cons, ← assignAll]
    have unchanged := separate.stable other subset.1 before store agree
    apply ih subset.2
    · intro location unwritten
      rw [Function.update_of_ne, agree location unwritten]
      rintro rfl
      exact unwritten (List.mem_map_of_mem subset.1)
    · by_cases same : target key = target other
      · right
        rw [same, Function.update_self, unchanged, separate.agree key member other subset.1 same]
      · rw [List.map_cons, List.mem_cons] at done
        refine done.imp (fun written => written.resolve_left same) (fun already => ?_)
        rw [Function.update_of_ne same, already]

/-- **A written location has the value of its assignment in the store before all of them.** -/
theorem assignAll_of_target (separate : Separate target value keys) {key : Key}
    (member : key ∈ keys) :
    assignAll target value keys store (target key) = value key store :=
  assignAll_of_subset separate (List.Subset.refl keys) (fun _ _ => rfl) member
    (.inl (List.mem_map_of_mem member))

/-- What was at the written locations has no influence. -/
theorem assignAll_congr (separate : Separate target value keys) {first second : Loc → Val}
    (agree : AgreeOff target keys first second) :
    assignAll target value keys first = assignAll target value keys second := by
  funext location
  by_cases written : location ∈ keys.map target
  · obtain ⟨key, member, rfl⟩ := List.mem_map.mp written
    rw [assignAll_of_target separate member, assignAll_of_target separate member,
      separate.stable key member first second agree]
  · rw [assignAll_of_not_target written, assignAll_of_not_target written, agree location written]

/-- Carrying the assignments out again changes nothing. -/
theorem assignAll_assignAll (separate : Separate target value keys) :
    assignAll target value keys (assignAll target value keys store) =
      assignAll target value keys store :=
  assignAll_congr separate assignAll_agreeOff

/-- The order of the assignments and how often one occurs have no influence. -/
theorem assignAll_eq_of_mem_iff (separate : Separate target value keys)
    (separateOthers : Separate target value others) (same : ∀ key, key ∈ keys ↔ key ∈ others) :
    assignAll target value keys store = assignAll target value others store := by
  funext location
  by_cases written : location ∈ keys.map target
  · obtain ⟨key, member, rfl⟩ := List.mem_map.mp written
    rw [assignAll_of_target separate member,
      assignAll_of_target separateOthers ((same key).mp member)]
  · have unwritten : location ∉ others.map target := by
      intro member
      obtain ⟨key, there, rfl⟩ := List.mem_map.mp member
      exact written (List.mem_map_of_mem ((same key).mpr there))
    rw [assignAll_of_not_target written, assignAll_of_not_target unwritten]

end Foundation.InPlace
