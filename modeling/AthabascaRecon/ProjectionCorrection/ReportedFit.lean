import AthabascaRecon.ProjectionCorrection.BeamPowerCorrector
import AthabascaRecon.Util.LinearFit

/-!
# The reported fit to the corrections

A runner reports a linear fit to the corrections of the projections it has processed. Its
linear term is for one processed projection, and the one that `Launch` takes for `Manual` is
for one projection of the file, so it is multiplied by the stride on its way back
(`fedBack_iff`).
-/

set_option autoImplicit false

namespace AthabascaRecon

variable {Space : Type} [Field Space]

/-- The indices of the processed projections. -/
def processedIndices (numberOfProjections : ℕ) : List Space :=
  (List.range numberOfProjections).map fun (i : ℕ) => (i : Space)

/-- The fit that a runner reports. -/
def reportedFit (corrections : List Space) : Option (LinearFit Space) :=
  LinearFit.fit (processedIndices corrections.length) corrections

/-- A run with the reported terms as its configuration subtracts the fitted values. -/
def FedBack (projectionStride : ℕ) (corrections : List Space) : Prop :=
  ∃ fit, reportedFit corrections = some fit ∧
    ∀ p < corrections.length, ∀ projection : Image2 Space,
      (launchManual fit.constantTerm fit.linearTerm projectionStride).processProjection p
          projection =
        (shiftProjection projection (-(fit.constantTerm + fit.linearTerm * p)),
          fit.constantTerm + fit.linearTerm * p)

theorem length_processedIndices (numberOfProjections : ℕ) :
    (processedIndices numberOfProjections : List Space).length = numberOfProjections := by
  rw [processedIndices, List.length_map, List.length_range]

/-- The correction of a run with given terms. -/
theorem launchManual_correction (constantTerm linearTerm : Space) (projectionStride p : ℕ) :
    (launchManual constantTerm linearTerm projectionStride).correction p =
      constantTerm + linearTerm * projectionStride * p := by
  rw [ManualBeamPowerCorrector.correction, launchManual]
  exact congrArg (constantTerm + ·) (mul_comm _ _)

variable [LinearOrder Space] [IsStrictOrderedRing Space]

/-- The indices of two projections differ. -/
theorem determinant_processedIndices {numberOfProjections : ℕ} (two : 2 ≤ numberOfProjections) :
    0 < LinearFit.determinant (processedIndices numberOfProjections : List Space) := by
  have member (i : ℕ) (processed : i < numberOfProjections) :
      (i : Space) ∈ processedIndices numberOfProjections :=
    List.mem_map_of_mem (List.mem_range.mpr processed)
  apply LinearFit.determinant_pos (member 0 (by omega)) (member 1 (by omega))
  rw [Nat.cast_zero, Nat.cast_one]
  exact zero_ne_one

theorem reportedFit_eq {corrections : List Space} (two : 2 ≤ corrections.length) :
    ∃ fit, reportedFit corrections = some fit ∧
      (fit.linearTerm = 0 ↔
        corrections.length * LinearFit.sumProd (processedIndices corrections.length) corrections =
          LinearFit.sum (processedIndices corrections.length) * LinearFit.sum corrections) := by
  have nonzero : LinearFit.determinant (processedIndices corrections.length : List Space) ≠ 0 :=
    (determinant_processedIndices two).ne'
  rw [reportedFit, LinearFit.fit, length_processedIndices, if_pos ⟨rfl, by omega⟩]
  refine ⟨_, rfl, ?_⟩
  rw [div_eq_zero_iff, or_iff_left nonzero, sub_eq_zero]

/-- **The reported terms can be fed back exactly when the stride is 1, or the corrections have
no trend.** -/
theorem fedBack_iff (projectionStride : ℕ) {corrections : List Space}
    (two : 2 ≤ corrections.length) :
    FedBack projectionStride corrections ↔
      projectionStride = 1 ∨
        corrections.length * LinearFit.sumProd (processedIndices corrections.length) corrections =
          LinearFit.sum (processedIndices corrections.length) * LinearFit.sum corrections := by
  obtain ⟨fit, reported, flat⟩ := reportedFit_eq two
  rw [← flat]
  constructor
  · rintro ⟨fit', reported', subtracted⟩
    rw [reported, Option.some.injEq] at reported'
    subst reported'
    -- The second projection already tells the stride.
    have second := congrArg Prod.snd
      (subtracted 1 (by omega) ⟨⟨0, 0⟩, ⟨0, 0⟩, ⟨0, 0⟩, fun _ _ => 0⟩)
    change (launchManual fit.constantTerm fit.linearTerm projectionStride).correction 1 = _
      at second
    rw [launchManual_correction, add_right_inj, Nat.cast_one, mul_one, mul_one,
      mul_right_eq_self₀, Nat.cast_eq_one] at second
    exact second
  · intro condition
    refine ⟨fit, reported, ?_⟩
    intro p _ projection
    have same : (launchManual fit.constantTerm fit.linearTerm projectionStride).correction p =
        fit.constantTerm + fit.linearTerm * p := by
      rw [launchManual_correction]
      rcases condition with one | zero
      · rw [one, Nat.cast_one, mul_one]
      · rw [zero, zero_mul, zero_mul]
    rw [ManualBeamPowerCorrector.processProjection, same]

/-- Two processed projections of three. -/
theorem not_fedBack_two : ¬ FedBack 2 ([0, 1] : List ℚ) := by
  rintro ⟨fit, reported, subtracted⟩
  have terms : reportedFit ([0, 1] : List ℚ) = some ⟨0, 1⟩ := by
    decide +kernel
  rw [terms, Option.some.injEq] at reported
  subst reported
  have second := congrArg Prod.snd
    (subtracted 1 (by decide) ⟨⟨0, 0⟩, ⟨0, 0⟩, ⟨0, 0⟩, fun _ _ => 0⟩)
  revert second
  change ¬ (0 + ((1 : ℕ) : ℚ) * (1 * ((2 : ℕ) : ℚ)) = 0 + 1 * ((1 : ℕ) : ℚ))
  norm_num

theorem fedBack_iff_two : FedBack 1 ([0, 1] : List ℚ) :=
  (fedBack_iff 1 (by decide)).mpr (.inl rfl)

end AthabascaRecon
