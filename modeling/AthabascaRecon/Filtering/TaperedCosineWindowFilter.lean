import AthabascaRecon.Bonelab.Image
import AthabascaRecon.Filtering.RampFilterRealSpace
import Mathlib.Analysis.SpecialFunctions.Trigonometric.Basic

/-!
# The tapered cosine window

`ConstructTransferFunction` assigns the elements from the first one on, together with those at
the same distance from the end, in three loops that share their index. An element is the
window at its distance divided by half of the length, which is rounded down, apart from those
in the middle, which are zero (`transferFunction_apply`). So the documented window is made when
the length is even and the window is zero at the Nyquist frequency, and for odd lengths only
when the window is flat wherever the frequencies are off (`followsDefinition_iff`).
-/

set_option autoImplicit false

namespace AthabascaRecon

/-! ## The loops -/

section Loops

variable {Value : Type} {length bound i : ℕ} {condition : ℕ → Bool} {value : ℕ → Value}

/-- `while (condition && (i < bound))`, with the assignment of a value to two elements in its
body. -/
def assignWhile (length : ℕ) (condition : ℕ → Bool) (value : ℕ → Value) (bound i : ℕ)
    (f : Samples Value) : ℕ × Samples Value :=
  if condition i = true ∧ i < bound then
    assignWhile length condition value bound (i + 1)
      (Function.update (Function.update f i (value i)) (length - i) (value i))
  else (i, f)
termination_by bound - i

/-- The two elements at a distance. -/
theorem update_update_apply {p : ℕ} (half : i ≤ length / 2) (inside : p < length)
    (f : Samples Value) (assigned : Value) :
    Function.update (Function.update f i assigned) (length - i) assigned p =
      if min p (length - p) = i then assigned else f p := by
  by_cases last : p = length - i
  · rw [last, Function.update_self, if_pos (by omega)]
  · rw [Function.update_of_ne last]
    by_cases first : p = i
    · rw [first, Function.update_self, if_pos (by omega)]
    · rw [Function.update_of_ne first, if_neg (by omega)]

/-- What is known after a loop that began with an index: where the index is, and that the
elements at the distances on the way have their values. -/
structure LoopAssigns (length : ℕ) (condition : ℕ → Bool) (value : ℕ → Value) (bound i : ℕ)
    (f : Samples Value) (after : ℕ × Samples Value) : Prop where
  later : i ≤ after.1
  passed : ∀ k, i ≤ k → k < after.1 → condition k = true ∧ k < bound
  stopped : ¬ (condition after.1 = true ∧ after.1 < bound)
  assigned : ∀ p, p < length → after.2 p =
    if i ≤ min p (length - p) ∧ min p (length - p) < after.1 then value (min p (length - p))
    else f p

theorem assignWhile_assigns (half : bound ≤ length / 2 + 1) (f : Samples Value) :
    LoopAssigns length condition value bound i f
      (assignWhile length condition value bound i f) := by
  fun_induction assignWhile length condition value bound i f with
  | case1 i f going ih =>
    refine ⟨(Nat.le_succ i).trans ih.later, fun k start before => ?_, ih.stopped,
      fun p inside => ?_⟩
    · by_cases here : k = i
      · rw [here]
        exact going
      · exact ih.passed k (by omega) before
    · have later := ih.later
      rw [ih.assigned p inside, update_update_apply (by omega) inside]
      by_cases here : min p (length - p) = i
      · rw [if_neg (by omega), if_pos here, if_pos (by omega), here]
      · rw [if_neg here]
        exact if_congr (by omega) rfl rfl
  | case2 i f stopped =>
    refine ⟨le_rfl, fun k start before => ?_, stopped, fun p inside => ?_⟩
    · exact absurd before (not_lt.mpr start)
    · rw [if_neg (by omega)]

end Loops

/-! ## `ConstructTransferFunction` -/

/-- The members of a `TaperedCosineWindowFilter`. -/
structure TaperedCosineWindowFilter (Value : Type) where
  length : ℕ
  f1 : Value
  f2 : Value

namespace TaperedCosineWindowFilter

variable {Value : Type} [Field Value] [LinearOrder Value]

/-- The array after the assignments. -/
def transferFunction (pi : Value) (cos : Value → Value)
    (filter : TaperedCosineWindowFilter Value) (f : Samples Value) : Samples Value :=
  let halfLength := filter.length / 2
  let freq : ℕ → Value := fun i => i / halfLength
  let a := pi / (filter.f2 - filter.f1)
  let f := Function.update f 0 1
  let (i, f) := assignWhile filter.length (fun i => decide (freq i ≤ filter.f1)) (fun _ => 1)
    halfLength 1 f
  let (i, f) := assignWhile filter.length (fun i => decide (freq i < filter.f2))
    (fun i => oneHalf Value + oneHalf Value * cos (a * (freq i - filter.f1))) halfLength i f
  (assignWhile filter.length (fun _ => true) (fun _ => 0) (halfLength + 1) i f).2

/-- `ConstructTransferFunction`, on an array that may have been constructed with a size. -/
def constructTransferFunction (pi : Value) (cos : Value → Value)
    (filter : TaperedCosineWindowFilter Value) (constructed : Option ℕ) (f : Samples Value) :
    Except FilterError (Samples Value) := do
  athabascaAssert (0 < filter.length)
  match constructed with
  | some size =>
    athabascaAssert (size = filter.length)
    return filter.transferFunction pi cos f
  | none => return filter.transferFunction pi cos 0

/-- The documented window, at a frequency in units of the Nyquist frequency. -/
def window (pi : Value) (cos : Value → Value) (filter : TaperedCosineWindowFilter Value)
    (frequency : Value) : Value :=
  if frequency ≤ filter.f1 then 1
  else if frequency < filter.f2 then
    oneHalf Value + oneHalf Value *
      cos (pi * (frequency - filter.f1) / (filter.f2 - filter.f1))
  else 0

/-! ## The elements -/

/-- The element at a distance. -/
def element (pi : Value) (cos : Value → Value) (filter : TaperedCosineWindowFilter Value)
    (distance : ℕ) : Value :=
  if distance = 0 then 1
  else if distance < filter.length / 2 then
    filter.window pi cos (distance / (filter.length / 2 : ℕ))
  else 0

section Elements

variable [IsStrictOrderedRing Value] {pi : Value} {cos : Value → Value}
  {filter : TaperedCosineWindowFilter Value}

/-- What the three loops assign, if each begins with the index that the one before has left. -/
theorem element_of_loops (ordered : filter.f1 < filter.f2) {f : Samples Value}
    {afterOnes afterTaper afterZeros : ℕ × Samples Value}
    (ones : LoopAssigns filter.length
      (fun i => decide ((i : Value) / (filter.length / 2 : ℕ) ≤ filter.f1)) (fun _ => 1)
      (filter.length / 2) 1 (Function.update f 0 1) afterOnes)
    (taper : LoopAssigns filter.length
      (fun i => decide ((i : Value) / (filter.length / 2 : ℕ) < filter.f2))
      (fun i => oneHalf Value + oneHalf Value * cos (pi / (filter.f2 - filter.f1) *
        ((i : Value) / (filter.length / 2 : ℕ) - filter.f1)))
      (filter.length / 2) afterOnes.1 afterOnes.2 afterTaper)
    (zeros : LoopAssigns filter.length (fun _ => true) (fun _ => 0)
      (filter.length / 2 + 1) afterTaper.1 afterTaper.2 afterZeros)
    {p : ℕ} (inside : p < filter.length) :
    afterZeros.2 p = filter.element pi cos (min p (filter.length - p)) := by
  have grows : ∀ {k l : ℕ}, k ≤ l →
      (k : Value) / (filter.length / 2 : ℕ) ≤ l / (filter.length / 2 : ℕ) := fun le =>
    div_le_div_of_nonneg_right (Nat.cast_le.mpr le) (Nat.cast_nonneg _)
  have begun := ones.later
  have begunTaper := taper.later
  have ended : filter.length / 2 < afterZeros.1 := by
    by_contra early
    exact zeros.stopped ⟨rfl, by omega⟩
  rw [zeros.assigned p inside, taper.assigned p inside, ones.assigned p inside]
  generalize distance : min p (filter.length - p) = d
  unfold element
  by_cases zero : d = 0
  · rw [if_neg (by omega), if_neg (by omega), if_neg (by omega), if_pos zero,
      (by omega : p = 0), Function.update_self]
  rw [if_neg zero]
  by_cases inOnes : d < afterOnes.1
  · obtain ⟨low, half⟩ := ones.passed d (by omega) inOnes
    rw [if_neg (by omega), if_neg (by omega), if_pos ⟨by omega, inOnes⟩, if_pos half, window,
      if_pos (of_decide_eq_true low)]
  by_cases inTaper : d < afterTaper.1
  · obtain ⟨low, half⟩ := taper.passed d (by omega) inTaper
    have high : ¬ (d : Value) / (filter.length / 2 : ℕ) ≤ filter.f1 := by
      intro low
      exact ones.stopped ⟨decide_eq_true ((grows (by omega)).trans low), by omega⟩
    rw [if_neg (by omega), if_pos ⟨by omega, inTaper⟩, if_pos half, window, if_neg high,
      if_pos (of_decide_eq_true low), div_mul_eq_mul_div pi]
  · rw [if_pos ⟨by omega, by omega⟩]
    split_ifs with half
    · have high : filter.f2 ≤ (d : Value) / (filter.length / 2 : ℕ) := by
        by_contra low
        refine taper.stopped ⟨decide_eq_true ?_, by omega⟩
        exact (grows (by omega)).trans_lt (not_le.mp low)
      rw [window, if_neg (not_le.mpr (ordered.trans_le high)), if_neg (not_lt.mpr high)]
    · rfl

/-- **An element of the array depends on its distance to the first one, and not on what was in
the array.** -/
theorem transferFunction_apply (ordered : filter.f1 < filter.f2) (f : Samples Value) {p : ℕ}
    (inside : p < filter.length) :
    filter.transferFunction pi cos f p =
      filter.element pi cos (min p (filter.length - p)) := by
  exact element_of_loops ordered (assignWhile_assigns (Nat.le_succ _) _)
    (assignWhile_assigns (Nat.le_succ _) _) (assignWhile_assigns le_rfl _) inside

end Elements

/-! ## Where the window is flat -/

section Window

variable {cos : ℝ → ℝ} {filter : TaperedCosineWindowFilter ℝ} {first second : ℝ}

theorem window_of_le_f1 {frequency : ℝ} (low : frequency ≤ filter.f1) :
    filter.window Real.pi cos frequency = 1 :=
  if_pos low

theorem window_of_f2_le (ordered : filter.f1 < filter.f2) {frequency : ℝ}
    (high : filter.f2 ≤ frequency) : filter.window Real.pi cos frequency = 0 := by
  rw [window, if_neg (not_le.mpr (ordered.trans_le high)), if_neg (not_lt.mpr high)]

/-- The phase of the cosine, which stays at its ends beyond the two frequencies. -/
noncomputable def phase (filter : TaperedCosineWindowFilter ℝ) (frequency : ℝ) : ℝ :=
  max 0 (min 1 ((frequency - filter.f1) / (filter.f2 - filter.f1)))

theorem phase_mem (frequency : ℝ) : Real.pi * filter.phase frequency ∈ Set.Icc 0 Real.pi := by
  have low : 0 ≤ filter.phase frequency := le_max_left 0 _
  have high : filter.phase frequency ≤ 1 := max_le zero_le_one (min_le_left 1 _)
  exact ⟨mul_nonneg Real.pi_nonneg low, mul_le_of_le_one_right Real.pi_nonneg high⟩

/-- The window is one cosine of the phase. -/
theorem window_eq_cos_phase (ordered : filter.f1 < filter.f2) (frequency : ℝ) :
    filter.window Real.pi Real.cos frequency =
      1 / 2 + 1 / 2 * Real.cos (Real.pi * filter.phase frequency) := by
  have wide : 0 < filter.f2 - filter.f1 := sub_pos.mpr ordered
  unfold window phase
  split_ifs with low high
  · have negative : (frequency - filter.f1) / (filter.f2 - filter.f1) ≤ 0 :=
      div_nonpos_of_nonpos_of_nonneg (sub_nonpos.mpr low) wide.le
    rw [min_eq_right (negative.trans zero_le_one), max_eq_left negative, mul_zero,
      Real.cos_zero]
    norm_num
  · have positive : 0 ≤ (frequency - filter.f1) / (filter.f2 - filter.f1) :=
      div_nonneg (sub_nonneg.mpr (not_le.mp low).le) wide.le
    have small : (frequency - filter.f1) / (filter.f2 - filter.f1) ≤ 1 :=
      (div_le_one wide).mpr (sub_le_sub_right high.le _)
    rw [min_eq_right small, max_eq_right positive, mul_div_assoc, oneHalf]
  · have large : 1 ≤ (frequency - filter.f1) / (filter.f2 - filter.f1) :=
      (one_le_div wide).mpr (sub_le_sub_right (not_lt.mp high) _)
    rw [min_eq_left large, max_eq_right zero_le_one, mul_one, Real.cos_pi]
    norm_num

/-- **Two frequencies have one value of the window only where the window is flat.** -/
theorem window_eq_window_iff (ordered : filter.f1 < filter.f2) (different : first < second) :
    filter.window Real.pi Real.cos first = filter.window Real.pi Real.cos second ↔
      second ≤ filter.f1 ∨ filter.f2 ≤ first := by
  constructor
  · intro same
    rw [window_eq_cos_phase ordered, window_eq_cos_phase ordered, add_right_inj,
      mul_right_inj' (by norm_num : (1 / 2 : ℝ) ≠ 0)] at same
    have phases := Real.injOn_cos (phase_mem first) (phase_mem second) same
    rw [mul_right_inj' Real.pi_ne_zero] at phases
    have wide : 0 < filter.f2 - filter.f1 := sub_pos.mpr ordered
    by_contra steep
    obtain ⟨low, high⟩ := not_or.mp steep
    rw [not_le] at low high
    have grows : (first - filter.f1) / (filter.f2 - filter.f1) <
        (second - filter.f1) / (filter.f2 - filter.f1) :=
      div_lt_div_of_pos_right (sub_lt_sub_right different _) wide
    have positive : 0 < (second - filter.f1) / (filter.f2 - filter.f1) :=
      div_pos (sub_pos.mpr low) wide
    have small : (first - filter.f1) / (filter.f2 - filter.f1) < 1 :=
      (div_lt_one wide).mpr (sub_lt_sub_right high _)
    refine absurd phases (ne_of_lt ?_)
    unfold phase
    rw [min_eq_right small.le]
    exact max_lt (lt_max_of_lt_right (lt_min one_pos positive))
      (lt_max_of_lt_right (lt_min small grows))
  · rintro (low | high)
    · rw [window_of_le_f1 low, window_of_le_f1 (different.le.trans low)]
    · rw [window_of_f2_le ordered high, window_of_f2_le ordered (high.trans different.le)]

/-- The window is zero only from the second frequency on. -/
theorem window_eq_zero_iff (ordered : filter.f1 < filter.f2) :
    filter.window Real.pi Real.cos first = 0 ↔ filter.f2 ≤ first := by
  constructor
  · intro zero
    by_contra below
    rw [not_le] at below
    rw [← window_of_f2_le ordered le_rfl, window_eq_window_iff ordered below] at zero
    rcases zero with low | high
    · exact absurd ordered (not_lt.mpr low)
    · exact absurd below (not_lt.mpr high)
  · exact window_of_f2_le ordered

end Window

/-! ## The documented window at every frequency -/

/-- Whatever the array was, it has the same elements afterwards. These are the documented
window at their frequencies, in exact fractions of half of the length. -/
structure FollowsDefinition (cos : ℝ → ℝ) (filter : TaperedCosineWindowFilter ℝ) : Prop where
  assigned : ∃ elements : Samples ℝ,
    (∀ constructed f, constructed = none ∨ constructed = some filter.length →
      ∃ g, filter.constructTransferFunction Real.pi cos constructed f = .ok g ∧
        ∀ p, p < filter.length → g p = elements p) ∧
    ∀ i, i ≤ filter.length / 2 →
      elements i = filter.window Real.pi cos (i / ((filter.length : ℝ) / 2)) ∧
      elements ((filter.length - i) % filter.length) =
        filter.window Real.pi cos (i / ((filter.length : ℝ) / 2))

/-- The conditions on the length and the two frequencies: the window is zero at the highest
frequency, and flat from each frequency of an odd length to the one that is taken for it. -/
structure SamplesExactly (filter : TaperedCosineWindowFilter ℝ) : Prop where
  even : Even filter.length → filter.f2 ≤ 1
  odd : ¬ Even filter.length → filter.f2 ≤ ((filter.length : ℝ) - 1) / filter.length
  between : ¬ Even filter.length → ∀ i : ℕ, 0 < i → i < filter.length / 2 →
    (i : ℝ) / (((filter.length : ℝ) - 1) / 2) ≤ filter.f1 ∨
      filter.f2 ≤ i / ((filter.length : ℝ) / 2)

section FollowsDefinition

variable {cos : ℝ → ℝ} {filter : TaperedCosineWindowFilter ℝ}

theorem constructTransferFunction_eq_ok (long : 0 < filter.length) {constructed : Option ℕ}
    (suitable : constructed = none ∨ constructed = some filter.length) (f : Samples ℝ) :
    ∃ before, filter.constructTransferFunction Real.pi cos constructed f =
      .ok (filter.transferFunction Real.pi cos before) := by
  unfold constructTransferFunction
  rw [athabascaAssert_of long]
  rcases suitable with rfl | rfl
  · exact ⟨0, rfl⟩
  · dsimp only
    rw [athabascaAssert_of rfl]
    exact ⟨f, rfl⟩

/-- The definition is about the distances. -/
theorem followsDefinition_iff_element (long : 0 < filter.length)
    (ordered : filter.f1 < filter.f2) :
    FollowsDefinition cos filter ↔ ∀ i, i ≤ filter.length / 2 →
      filter.element Real.pi cos i =
        filter.window Real.pi cos (i / ((filter.length : ℝ) / 2)) := by
  have mirrored : ∀ {i}, i ≤ filter.length / 2 →
      min ((filter.length - i) % filter.length)
        (filter.length - (filter.length - i) % filter.length) = i := by
    intro i half
    rcases Nat.eq_zero_or_pos i with rfl | positive
    · rw [Nat.sub_zero, Nat.mod_self, Nat.zero_min]
    · rw [Nat.mod_eq_of_lt (by omega)]
      omega
  constructor
  · rintro ⟨elements, made, follows⟩ i half
    obtain ⟨g, result, same⟩ := made none 0 (.inl rfl)
    obtain ⟨before, eq⟩ := constructTransferFunction_eq_ok long (.inl rfl) 0
    rw [eq] at result
    cases result
    rw [← (follows i half).1, ← same i (by omega),
      transferFunction_apply ordered before (by omega), min_eq_left (by omega)]
  · intro follows
    refine ⟨fun p => filter.element Real.pi cos (min p (filter.length - p)),
      fun constructed f suitable => ?_, fun i half => ⟨?_, ?_⟩⟩
    · obtain ⟨before, eq⟩ := constructTransferFunction_eq_ok long suitable f
      exact ⟨_, eq, fun p inside => transferFunction_apply ordered before inside⟩
    · dsimp only
      rw [min_eq_left (by omega), follows i half]
    · dsimp only
      rw [mirrored half, follows i half]

theorem cast_half_of_even (even : Even filter.length) :
    ((filter.length / 2 : ℕ) : ℝ) = (filter.length : ℝ) / 2 := by
  obtain ⟨k, double⟩ := even
  rw [double, (by omega : (k + k) / 2 = k)]
  push_cast
  ring

theorem cast_half_of_odd (odd : ¬ Even filter.length) :
    ((filter.length / 2 : ℕ) : ℝ) = ((filter.length : ℝ) - 1) / 2 := by
  obtain ⟨k, double⟩ := Nat.not_even_iff_odd.mp odd
  rw [double, (by omega : (2 * k + 1) / 2 = k)]
  push_cast
  ring

/-- The frequency that an odd length has in the place of a frequency is higher. -/
theorem frequency_lt_of_odd (long : 2 ≤ filter.length) {i : ℕ} (positive : 0 < i) :
    (i : ℝ) / ((filter.length : ℝ) / 2) < i / (((filter.length : ℝ) - 1) / 2) := by
  have wide : (2 : ℝ) ≤ filter.length := by exact_mod_cast long
  exact div_lt_div_of_pos_left (Nat.cast_pos.mpr positive) (by linarith) (by linarith)

theorem element_zero : filter.element Real.pi cos 0 = 1 :=
  if_pos rfl

theorem element_half (long : 2 ≤ filter.length) :
    filter.element Real.pi cos (filter.length / 2) = 0 := by
  rw [element, if_neg (by omega), if_neg (lt_irrefl _)]

theorem element_between {i : ℕ} (positive : 0 < i) (below : i < filter.length / 2) :
    filter.element Real.pi cos i =
      filter.window Real.pi cos (i / (filter.length / 2 : ℕ)) := by
  rw [element, if_neg positive.ne', if_pos below]

/-- The highest frequency with an element. -/
theorem highest_frequency (long : 2 ≤ filter.length) :
    ((filter.length / 2 : ℕ) : ℝ) / ((filter.length : ℝ) / 2) =
      if Even filter.length then 1 else ((filter.length : ℝ) - 1) / filter.length := by
  have nonzero : (filter.length : ℝ) ≠ 0 := by
    exact_mod_cast (by omega : filter.length ≠ 0)
  split_ifs with even
  · rw [cast_half_of_even even]
    exact div_self (div_ne_zero nonzero two_ne_zero)
  · rw [cast_half_of_odd even, div_div_div_cancel_right₀ two_ne_zero]

/-- Under the conditions, every function in the place of the cosine is met. -/
theorem SamplesExactly.followsDefinition (exact_samples : SamplesExactly filter)
    (long : 2 ≤ filter.length) (nonneg : 0 ≤ filter.f1) (ordered : filter.f1 < filter.f2) :
    FollowsDefinition cos filter := by
  rw [followsDefinition_iff_element (by omega) ordered]
  intro i half
  rcases Nat.eq_zero_or_pos i with rfl | positive
  · rw [element_zero, Nat.cast_zero, zero_div, window_of_le_f1 nonneg]
  rcases Nat.lt_or_eq_of_le half with below | rfl
  · rw [element_between positive below]
    by_cases even : Even filter.length
    · rw [cast_half_of_even even]
    · rw [cast_half_of_odd even]
      have higher := frequency_lt_of_odd long positive
      rcases exact_samples.between even i positive below with low | high
      · rw [window_of_le_f1 low, window_of_le_f1 (higher.le.trans low)]
      · rw [window_of_f2_le ordered high, window_of_f2_le ordered (high.trans higher.le)]
  · rw [element_half long, window_of_f2_le ordered]
    rw [highest_frequency long]
    split_ifs with even
    · exact exact_samples.even even
    · exact exact_samples.odd even

/-- With the cosine itself, the conditions are necessary. -/
theorem samplesExactly_of_followsDefinition (long : 2 ≤ filter.length)
    (ordered : filter.f1 < filter.f2) (follows : FollowsDefinition Real.cos filter) :
    SamplesExactly filter := by
  rw [followsDefinition_iff_element (by omega) ordered] at follows
  have highest := follows (filter.length / 2) le_rfl
  rw [element_half long, eq_comm, window_eq_zero_iff ordered, highest_frequency long] at highest
  refine ⟨fun even => ?_, fun odd => ?_, fun odd i positive below => ?_⟩
  · rwa [if_pos even] at highest
  · rwa [if_neg odd] at highest
  · have same := follows i below.le
    rw [element_between positive below, cast_half_of_odd odd, eq_comm] at same
    exact (window_eq_window_iff ordered (frequency_lt_of_odd long positive)).mp same

end FollowsDefinition

/-- **The window is the documented one exactly under the conditions**, for the cosine as well as
for every function in its place. -/
theorem followsDefinition_iff (filter : TaperedCosineWindowFilter ℝ)
    (long : 2 ≤ filter.length) (nonneg : 0 ≤ filter.f1) (ordered : filter.f1 < filter.f2) :
    (FollowsDefinition Real.cos filter ↔ SamplesExactly filter) ∧
      ((∀ cos, FollowsDefinition cos filter) ↔ SamplesExactly filter) := by
  have enough : SamplesExactly filter → ∀ cos, FollowsDefinition cos filter :=
    fun samples cos => samples.followsDefinition long nonneg ordered
  constructor
  · exact ⟨samplesExactly_of_followsDefinition long ordered, fun samples => enough samples _⟩
  · exact ⟨fun every => samplesExactly_of_followsDefinition long ordered (every Real.cos), enough⟩

/-- The filter that the program has by default, on four elements. -/
theorem followsDefinition_iff_default :
    FollowsDefinition Real.cos ⟨4, 1 / 4, 1 / 2⟩ := by
  refine (followsDefinition_iff ⟨4, 1 / 4, 1 / 2⟩ (by norm_num) (by norm_num)
    (by norm_num)).1.mpr ⟨fun _ => by norm_num, fun odd => ?_, fun odd => ?_⟩
  · exact absurd (by decide : Even 4) odd
  · exact absurd (by decide : Even 4) odd

/-- A window that is not zero at the Nyquist frequency: the element there should be one half. -/
theorem not_followsDefinition_nyquist :
    ¬ FollowsDefinition Real.cos ⟨2, 0, 2⟩ := by
  intro follows
  have highest := (samplesExactly_of_followsDefinition (by norm_num) (by norm_num)
    follows).even (by decide)
  norm_num at highest

end TaperedCosineWindowFilter

end AthabascaRecon
