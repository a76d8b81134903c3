import Mathlib.Data.List.Forall2

/-!
# What a successful program ensures

A program that changes a state and may fail ensures a property of its value and of the
state that it leaves when the property holds whenever it succeeds. The rules below follow
the structure of a program; `succeeds_bind` is the rule for showing that a program without
a state succeeds. The last rules are about programs that go through a list.
-/

set_option autoImplicit false

namespace AthabascaRecon

variable {State Failure Value Result : Type}

/-- Whenever the program succeeds from the state, its value and the state that it leaves
have the property. -/
structure Ensures (program : StateT State (Except Failure) Value) (state : State)
    (property : Value → State → Prop) : Prop where
  of_ok : ∀ value after, program state = .ok (value, after) → property value after

namespace Ensures

variable {state : State} {property : Value → State → Prop} {result : Result → State → Prop}

theorem mono {program : StateT State (Except Failure) Value} {weaker : Value → State → Prop}
    (ensures : Ensures program state property)
    (weaken : ∀ value after, property value after → weaker value after) :
    Ensures program state weaker := by
  constructor
  intro value after succeeded
  exact weaken value after (ensures.of_ok value after succeeded)

theorem pure {value : Value} (holds : property value state) :
    Ensures (Pure.pure value : StateT State (Except Failure) Value) state property := by
  constructor
  intro value' after succeeded
  cases succeeded
  exact holds

/-- A program that fails ensures everything. -/
theorem throw {failure : Failure} :
    Ensures (MonadExcept.throw failure : StateT State (Except Failure) Value) state property := by
  constructor
  intro value after succeeded
  cases succeeded

theorem get {property : State → State → Prop} (holds : property state state) :
    Ensures (MonadState.get : StateT State (Except Failure) State) state property := by
  constructor
  intro value after succeeded
  cases succeeded
  exact holds

theorem modify {change : State → State} {property : Unit → State → Prop}
    (holds : property () (change state)) :
    Ensures (modify change : StateT State (Except Failure) Unit) state property := by
  constructor
  intro value after succeeded
  cases succeeded
  exact holds

theorem bind {program : StateT State (Except Failure) Value}
    {rest : Value → StateT State (Except Failure) Result}
    (ensures : Ensures program state fun value after => Ensures (rest value) after result) :
    Ensures (program >>= rest) state result := by
  constructor
  intro value after succeeded
  change (program state >>= fun found => rest found.1 found.2) = _ at succeeded
  cases first : program state with
  | error failure =>
    rw [first] at succeeded
    cases succeeded
  | ok found =>
    rw [first] at succeeded
    exact (ensures.of_ok found.1 found.2 first).of_ok value after succeeded

/-- The rest of a program may use what its first step ensures. -/
theorem seq {program : StateT State (Except Failure) Value}
    {rest : Value → StateT State (Except Failure) Result}
    (first : Ensures program state property)
    (second : ∀ value after, property value after → Ensures (rest value) after result) :
    Ensures (program >>= rest) state result :=
  Ensures.bind (first.mono second)

theorem ite {condition : Prop} [Decidable condition]
    {first second : StateT State (Except Failure) Value}
    (yes : condition → Ensures first state property)
    (no : ¬ condition → Ensures second state property) :
    Ensures (if condition then first else second) state property := by
  by_cases holds : condition
  · rw [if_pos holds]
    exact yes holds
  · rw [if_neg holds]
    exact no holds

end Ensures

/-! ## Programs that succeed -/

/-- The program has a value. -/
def Succeeds (program : Except Failure Value) : Prop := ∃ value, program = .ok value

/-- The program has a value with a property. -/
def SucceedsWith (program : Except Failure Value) (property : Value → Prop) : Prop :=
  ∃ value, program = .ok value ∧ property value

instance (program : Except Failure Value) : Decidable (Succeeds program) :=
  match program with
  | .ok value => .isTrue ⟨value, rfl⟩
  | .error _ => .isFalse fun ⟨_, same⟩ => by cases same

instance (program : Except Failure Value) (property : Value → Prop) [DecidablePred property] :
    Decidable (SucceedsWith program property) :=
  match program with
  | .ok value => decidable_of_iff (property value)
      ⟨fun holds => ⟨value, rfl, holds⟩, fun ⟨_, same, holds⟩ => by cases same; exact holds⟩
  | .error _ => .isFalse fun ⟨_, same, _⟩ => by cases same

@[simp]
theorem succeeds_ok (value : Value) : Succeeds (.ok value : Except Failure Value) :=
  ⟨value, rfl⟩

@[simp]
theorem not_succeeds_error (failure : Failure) :
    ¬ Succeeds (.error failure : Except Failure Value) := by
  rintro ⟨value, same⟩
  cases same

/-- A sequence succeeds when its first step does, and the rest does with the value of the
first step. -/
theorem succeeds_bind {program : Except Failure Value} {rest : Value → Except Failure Result} :
    Succeeds (program >>= rest) ↔ ∃ value, program = .ok value ∧ Succeeds (rest value) := by
  cases program with
  | error failure =>
    constructor
    · intro succeeded
      exact absurd succeeded (not_succeeds_error failure)
    · rintro ⟨value, same, _⟩
      cases same
  | ok value =>
    constructor
    · intro succeeded
      exact ⟨value, rfl, succeeded⟩
    · rintro ⟨value', same, succeeded⟩
      cases same
      exact succeeded

/-- A sequence has the value that the rest gives for the value of the first step. -/
theorem bind_eq_ok_iff {program : Except Failure Value} {rest : Value → Except Failure Result}
    {result : Result} :
    program >>= rest = .ok result ↔ ∃ value, program = .ok value ∧ rest value = .ok result := by
  cases program with
  | error failure =>
    constructor
    · rintro ⟨⟩
    · rintro ⟨value, same, _⟩
      cases same
  | ok value =>
    constructor
    · intro same
      exact ⟨value, rfl, same⟩
    · rintro ⟨value', same, rest⟩
      cases same
      exact rest

theorem bind_eq_error_iff {program : Except Failure Value}
    {rest : Value → Except Failure Result} {failure : Failure} :
    program >>= rest = .error failure ↔
      program = .error failure ∨ ∃ value, program = .ok value ∧ rest value = .error failure := by
  cases program with
  | error other =>
    constructor
    · intro same
      cases same
      exact .inl rfl
    · rintro (same | ⟨value, same, _⟩)
      · cases same
        rfl
      · cases same
  | ok value =>
    constructor
    · intro same
      exact .inr ⟨value, rfl, same⟩
    · rintro (same | ⟨value', same, rest⟩)
      · cases same
      · cases same
        exact rest

@[simp]
theorem succeeds_pure (value : Value) : Succeeds (Pure.pure value : Except Failure Value) :=
  ⟨value, rfl⟩

@[simp]
theorem succeeds_map (f : Value → Result) (program : Except Failure Value) :
    Succeeds (f <$> program) ↔ Succeeds program := by
  cases program with
  | error failure => exact iff_of_false (not_succeeds_error _) (not_succeeds_error _)
  | ok value => exact iff_of_true (succeeds_ok _) (succeeds_ok _)

theorem exists_eq_ok_iff {program : Except Failure Value} :
    (∃ value, program = .ok value) ↔ Succeeds program :=
  Iff.rfl

/-! ## Programs over lists -/

/-- What every step keeps is kept by all of them. -/
theorem foldlM_preserves {step : Value → Result → Except Failure Value} {items : List Result}
    {property : Value → Prop} {start final : Value}
    (preserved : ∀ item ∈ items, ∀ before after, property before →
      step before item = .ok after → property after)
    (holds : property start) (ran : items.foldlM step start = .ok final) : property final := by
  induction items generalizing start with
  | nil =>
    cases ran
    exact holds
  | cons item items ih =>
    rw [List.foldlM_cons, bind_eq_ok_iff] at ran
    obtain ⟨next, first, later⟩ := ran
    rw [List.forall_mem_cons] at preserved
    exact ih preserved.2 (preserved.1 start next holds first) later

variable {Key Row : Type}

/-- A table is made of the rows of its keys. -/
theorem mapM_eq_ok_iff {rowOf : Key → Except Failure Row} {keys : List Key} {rows : List Row} :
    keys.mapM rowOf = .ok rows ↔
      List.Forall₂ (fun key row => rowOf key = .ok row) keys rows := by
  induction keys generalizing rows with
  | nil =>
    rw [List.mapM_nil, List.forall₂_nil_left_iff]
    constructor
    · intro made
      cases made
      rfl
    · rintro rfl
      rfl
  | cons key keys ih =>
    rw [List.mapM_cons, List.forall₂_cons_left_iff, bind_eq_ok_iff]
    constructor
    · rintro ⟨row, first, made⟩
      rw [bind_eq_ok_iff] at made
      obtain ⟨rest, others, joined⟩ := made
      cases joined
      exact ⟨row, rest, first, ih.mp others, rfl⟩
    · rintro ⟨row, rest, first, others, rfl⟩
      refine ⟨row, first, ?_⟩
      rw [ih.mpr others]
      rfl

/-- A table has the rows of its keys next to them. -/
theorem mem_zip_iff {rowOf : Key → Except Failure Row}
    {keys : List Key} {rows : List Row}
    (made : List.Forall₂ (fun key row => rowOf key = .ok row) keys rows) {key : Key} {row : Row} :
    (key, row) ∈ keys.zip rows ↔ key ∈ keys ∧ rowOf key = .ok row := by
  induction made with
  | nil => simp only [List.zip_nil_left, List.not_mem_nil, false_and]
  | cons first later ih =>
    rw [List.zip_cons_cons, List.mem_cons, ih, List.mem_cons, Prod.mk.injEq]
    constructor
    · rintro (⟨rfl, rfl⟩ | ⟨member, found⟩)
      · exact ⟨.inl rfl, first⟩
      · exact ⟨.inr member, found⟩
    · rintro ⟨rfl | member, found⟩
      · rw [first, Except.ok.injEq] at found
        exact .inl ⟨rfl, found.symm⟩
      · exact .inr ⟨member, found⟩

/-- A table that cannot be made has a row that cannot be made. -/
theorem exists_of_mapM_eq_error {rowOf : Key → Except Failure Row} {keys : List Key}
    {failure : Failure} (failed : keys.mapM rowOf = .error failure) :
    ∃ key ∈ keys, rowOf key = .error failure := by
  induction keys with
  | nil =>
    rw [List.mapM_nil] at failed
    cases failed
  | cons key keys ih =>
    rw [List.mapM_cons, bind_eq_error_iff] at failed
    rcases failed with first | ⟨row, _, failed⟩
    · exact ⟨key, List.mem_cons_self, first⟩
    rw [bind_eq_error_iff] at failed
    rcases failed with others | ⟨rest, _, joined⟩
    · obtain ⟨later, member, same⟩ := ih others
      exact ⟨later, List.mem_cons_of_mem _ member, same⟩
    · cases joined

/-- A table can be made with rows that have a property when every row can. -/
theorem exists_mapM_iff (rowOf : Key → Except Failure Row)
    (property : Key → Row → Prop) (keys : List Key) :
    (∃ rows, keys.mapM rowOf = .ok rows ∧ List.Forall₂ property keys rows) ↔
      ∀ key ∈ keys, ∃ row, rowOf key = .ok row ∧ property key row := by
  simp only [mapM_eq_ok_iff]
  induction keys with
  | nil =>
    refine ⟨fun _ key none => absurd none List.not_mem_nil, fun _ => ⟨[], .nil, .nil⟩⟩
  | cons key keys ih =>
    rw [List.forall_mem_cons, ← ih]
    constructor
    · rintro ⟨rows, made, rowwise⟩
      obtain ⟨row, rest, first, others, rfl⟩ := List.forall₂_cons_left_iff.mp made
      obtain ⟨here, there⟩ := List.forall₂_cons.mp rowwise
      exact ⟨⟨row, first, here⟩, rest, others, there⟩
    · rintro ⟨⟨row, first, here⟩, rest, others, there⟩
      exact ⟨row :: rest, .cons first others, .cons here there⟩

end AthabascaRecon
