import AthabascaRecon.Engines.ReconstructionRunner
import AthabascaRecon.IO.StreamingRawProjectionsReader
import Mathlib.Algebra.Order.Field.Basic
import Mathlib.Data.Rat.Cast.Order
import Mathlib.Tactic.FieldSimp
import Mathlib.Tactic.NormNum

/-!
# The angles of projections

A runner spaces the projections it processes evenly over 180 degrees. `Launch` tells
it the number of projections that the stride leaves, so the angle increment is that of
a file with so many projections, while the reader delivers every n-th projection of a
larger file.

Angles are rational multiples of pi. There is no increment when a runner has one
projection only and takes it for both limits.
-/

set_option autoImplicit false

namespace AthabascaRecon

/-- The multiple of pi that pi divided by an integer is. -/
def piOver (divisor : ℤ) : Option ℚ :=
  if divisor = 0 then none else some (1 / (divisor : ℚ))

namespace RunnerConfig

/-- The angle increment of `Execute` in both runners. -/
def deltaTheta (config : RunnerConfig) : Option ℚ :=
  let increment :=
    if config.projectionsAtBothLimits then piOver ((config.numberOfProjections : ℤ) - 1)
    else piOver config.numberOfProjections
  if config.reverseRotation then increment.map (-·) else increment

/-- The angle at which a runner uses the projection with index `p`. -/
def angle (config : RunnerConfig) (p : ℕ) : Option ℚ :=
  config.deltaTheta.map ((p : ℚ) * ·)

/-- The divisor of the angle increment. -/
def intervals (config : RunnerConfig) : ℕ :=
  if config.projectionsAtBothLimits then config.numberOfProjections - 1
  else config.numberOfProjections

/-- The direction of the rotation. -/
def direction (config : RunnerConfig) : ℚ := if config.reverseRotation then -1 else 1

theorem direction_ne_zero (config : RunnerConfig) : config.direction ≠ 0 := by
  unfold direction
  split_ifs <;> norm_num

theorem angle_eq {config : RunnerConfig} (projections : 0 < config.numberOfProjections) (p : ℕ) :
    config.angle p =
      if config.intervals = 0 then none
      else some (config.direction * p / config.intervals) := by
  have divisor : (if config.projectionsAtBothLimits then
      piOver ((config.numberOfProjections : ℤ) - 1)
      else piOver config.numberOfProjections) = piOver config.intervals := by
    unfold intervals
    split_ifs
    · rw [Nat.cast_sub (by omega), Nat.cast_one]
    · rfl
  unfold angle deltaTheta
  rw [divisor]
  by_cases none : config.intervals = 0
  · simp [piOver, none]
  · by_cases reverse : config.reverseRotation = true
    · simp [piOver, none, direction, reverse, div_eq_mul_inv]
    · simp [piOver, none, direction, reverse, div_eq_mul_inv]

end RunnerConfig

namespace LaunchOptions

variable {options : LaunchOptions} {pass : ℕ}

/-- The angle of a projection of the input file, when every projection is processed. -/
def fileAngle (options : LaunchOptions) (index : ℕ) : ℚ :=
  (if options.reverseRotation then -1 else 1) * index /
    (if options.projectionAt180 then options.numberOfProjections - 1
    else options.numberOfProjections : ℕ)

/-- Every projection is used at its angle in the file, and the one at 180 degrees, and only
that, is left out of the back-projection. -/
def AnglesKept (options : LaunchOptions) (byteCount pass : ℕ) : Prop :=
  ∀ p < (options.runnerConfig pass).numberOfProjections,
    let index := StreamingRawProjectionsReader.fileIndex options.projectionStride byteCount p
    (options.runnerConfig pass).angle p = some (options.fileAngle index) ∧
      (options.projectionAt180 = true →
        ((options.runnerConfig pass).skipsBackProjection p = true ↔
          index = options.numberOfProjections - 1))

/-! ## When the angles are kept -/

section Kept

variable (stride : 0 < options.projectionStride) (projections : 0 < options.numberOfProjections)

include stride projections

/-- The projections behind the first one are those at multiples of the stride. -/
theorem runnerConfig_numberOfProjections :
    (options.runnerConfig pass).numberOfProjections =
      (options.numberOfProjections - 1) / options.projectionStride + 1 := by
  have shift : options.numberOfProjections + options.projectionStride - 1 =
      options.numberOfProjections - 1 + options.projectionStride := by
    omega
  rw [runnerConfig, shift, Nat.add_div_right _ stride]

omit projections in
/-- What the angles and the skipped projections of a runner are, in numbers. -/
theorem anglesKept_iff {byteCount : ℕ} (bytes : 0 < byteCount) :
    options.AnglesKept byteCount pass ↔
      ∀ p < (options.runnerConfig pass).numberOfProjections,
        (options.runnerConfig pass).angle p =
            some (options.fileAngle (p * options.projectionStride)) ∧
          (options.projectionAt180 = true →
            (p + 1 = (options.runnerConfig pass).numberOfProjections ↔
              p * options.projectionStride = options.numberOfProjections - 1)) := by
  have index := fun p => @StreamingRawProjectionsReader.fileIndex_eq
    options.projectionStride byteCount stride bytes p
  have skipped : ∀ p, options.projectionAt180 = true →
      ((options.runnerConfig pass).skipsBackProjection p = true ↔
        p + 1 = (options.runnerConfig pass).numberOfProjections) := by
    intro p both
    simp [RunnerConfig.skipsBackProjection, runnerConfig, both]
  unfold AnglesKept
  simp only [index]
  constructor
  · intro kept p inside
    obtain ⟨angle, left⟩ := kept p inside
    exact ⟨angle, fun both => (skipped p both).symm.trans (left both)⟩
  · intro kept p inside
    obtain ⟨angle, left⟩ := kept p inside
    exact ⟨angle, fun both => (skipped p both).trans (left both)⟩

/-- A projection behind the first one has its angle in the file exactly when the intervals of
the runner are as long as the stride says. -/
theorem angle_eq_fileAngle_iff {fileIntervals : ℕ} (nonempty : fileIntervals ≠ 0)
    (file : fileIntervals = if options.projectionAt180 then options.numberOfProjections - 1
      else options.numberOfProjections)
    (divides : (options.runnerConfig pass).intervals ≠ 0) (p : ℕ) :
    (options.runnerConfig pass).angle p =
        some (options.fileAngle (p * options.projectionStride)) ↔
      p = 0 ∨ options.projectionStride * (options.runnerConfig pass).intervals =
        fileIntervals := by
  have count := @runnerConfig_numberOfProjections options pass stride projections
  have turns := (options.runnerConfig pass).direction_ne_zero
  have same : options.fileAngle (p * options.projectionStride) =
      (options.runnerConfig pass).direction * ((p * options.projectionStride : ℕ) : ℚ) /
        fileIntervals := by
    rw [fileAngle, ← file]
    rfl
  have nonzero : ((options.runnerConfig pass).intervals : ℚ) ≠ 0 := Nat.cast_ne_zero.mpr divides
  have nonzero' : (fileIntervals : ℚ) ≠ 0 := Nat.cast_ne_zero.mpr nonempty
  rw [RunnerConfig.angle_eq (by rw [count]; exact Nat.succ_pos _), if_neg divides, same,
    Option.some_inj, div_eq_div_iff nonzero nonzero', Nat.cast_mul]
  constructor
  · intro equal
    by_cases first : p = 0
    · exact Or.inl first
    · have later : (p : ℚ) ≠ 0 := Nat.cast_ne_zero.mpr first
      have cancelled : (options.runnerConfig pass).direction * p * (fileIntervals : ℚ) =
          (options.runnerConfig pass).direction * p *
            ((options.projectionStride * (options.runnerConfig pass).intervals : ℕ) : ℚ) := by
        rw [equal, Nat.cast_mul]
        ring
      have spaced := mul_left_cancel₀ (mul_ne_zero turns later) cancelled
      exact Or.inr (Nat.cast_injective spaced).symm
  · rintro (rfl | spaced)
    · simp
    · rw [← spaced, Nat.cast_mul]
      ring

/-- With both limits in the file, the last projection has to be among those processed. -/
theorem anglesKept_iff_of_both (both : options.projectionAt180 = true)
    (two : 2 ≤ options.numberOfProjections) {byteCount : ℕ} (bytes : 0 < byteCount) :
    options.AnglesKept byteCount pass ↔
      options.projectionStride ∣ options.numberOfProjections - 1 := by
  have count := @runnerConfig_numberOfProjections options pass stride projections
  have intervals : (options.runnerConfig pass).intervals =
      (options.numberOfProjections - 1) / options.projectionStride := by
    rw [RunnerConfig.intervals, count]
    simp [runnerConfig, both]
  rw [anglesKept_iff stride bytes]
  constructor
  · intro kept
    have last := (kept ((options.numberOfProjections - 1) / options.projectionStride)
      (by omega)).2 both
    exact Dvd.intro_left _ (last.mp count.symm)
  · intro divides p inside
    have multiple := Nat.mul_div_cancel' divides
    have some : (options.numberOfProjections - 1) / options.projectionStride ≠ 0 := by
      intro none
      rw [none, Nat.mul_zero] at multiple
      omega
    refine ⟨?_, fun _ => ?_⟩
    · refine (angle_eq_fileAngle_iff stride projections (by omega) (if_pos both).symm
        (intervals ▸ some) p).mpr (Or.inr ?_)
      rw [intervals, multiple]
    · rw [count, Nat.add_right_cancel_iff]
      constructor
      · rintro rfl
        rw [Nat.mul_comm, multiple]
      · intro same
        rw [← same, Nat.mul_div_cancel _ stride]

/-- Without the projection at 180 degrees, the file has to end where a further projection would
be processed, unless only the first one is. -/
theorem anglesKept_iff_of_one (one : options.projectionAt180 = false) {byteCount : ℕ}
    (bytes : 0 < byteCount) :
    options.AnglesKept byteCount pass ↔
      options.projectionStride ∣ options.numberOfProjections ∨
        options.numberOfProjections ≤ options.projectionStride := by
  have count := @runnerConfig_numberOfProjections options pass stride projections
  have intervals : (options.runnerConfig pass).intervals =
      (options.numberOfProjections - 1) / options.projectionStride + 1 := by
    rw [RunnerConfig.intervals, count]
    simp [runnerConfig, one]
  have angle := fun p => @angle_eq_fileAngle_iff options pass stride projections
    options.numberOfProjections projections.ne' (by simp [one])
    (by rw [intervals]; exact Nat.succ_ne_zero _) p
  have notBoth : options.projectionAt180 ≠ true := by simp [one]
  rw [anglesKept_iff stride bytes]
  simp only [angle, intervals, count]
  constructor
  · intro kept
    by_cases few : options.numberOfProjections ≤ options.projectionStride
    · exact Or.inr few
    · have more : 1 ≤ (options.numberOfProjections - 1) / options.projectionStride :=
        Nat.div_pos (by omega) stride
      rcases (kept 1 (by omega)).1 with never | spaced
      · omega
      · exact Or.inl (Dvd.intro _ spaced)
  · rintro (⟨_ | groups, whole⟩ | few) p inside
    · rw [Nat.mul_zero] at whole
      omega
    · have rest : options.numberOfProjections - 1 =
          options.projectionStride - 1 + options.projectionStride * groups := by
        rw [whole, Nat.mul_succ]
        omega
      have quotient : (options.numberOfProjections - 1) / options.projectionStride = groups := by
        rw [rest, Nat.add_mul_div_left _ _ stride, Nat.div_eq_of_lt (by omega), Nat.zero_add]
      exact ⟨Or.inr (by rw [quotient, whole]), fun both => absurd both notBoth⟩
    · have first : (options.numberOfProjections - 1) / options.projectionStride = 0 :=
        Nat.div_eq_of_lt (by omega)
      exact ⟨Or.inl (by omega), fun both => absurd both notBoth⟩

end Kept

/-- **A stride keeps the angles exactly when it divides what the angles divide.** -/
theorem anglesKept_iff_dvd (options : LaunchOptions) (pass : ℕ)
    (stride : 0 < options.projectionStride) (projections : 0 < options.numberOfProjections)
    (limits : options.projectionAt180 = true → 2 ≤ options.numberOfProjections)
    {byteCount : ℕ} (bytes : 0 < byteCount) :
    options.AnglesKept byteCount pass ↔
      if options.projectionAt180 then options.projectionStride ∣ options.numberOfProjections - 1
      else options.projectionStride ∣ options.numberOfProjections ∨
        options.numberOfProjections ≤ options.projectionStride := by
  by_cases both : options.projectionAt180 = true
  · rw [if_pos both]
    exact anglesKept_iff_of_both stride projections both (limits both) bytes
  · rw [if_neg both]
    exact anglesKept_iff_of_one stride projections (by simpa using both) bytes

/-- A file of five attenuation projections with the one at 180 degrees. -/
def fiveProjections (projectionStride : ℕ) : LaunchOptions where
  build := ⟨false, false⟩
  inputRawProjectionsFile := false
  inputAttenuationProjectionsFile := true
  inputFilteredProjectionsFile := false
  outputAttenuationProjectionsFile := false
  outputFilteredProjectionsFile := false
  outputAttenuationCorrectionsFile := false
  outputVolumeFile := true
  badPixelCorrection := false
  beamPowerCorrection := false
  projectionAt180 := true
  reverseRotation := false
  filteringModule := .convolution
  numberOfProjections := 5
  projectionStride := projectionStride
  volumeSlices := 1

/-- Every second of the projections 0 to 4 is used at its angle. -/
theorem anglesKept_stride_two : (fiveProjections 2).AnglesKept 4 0 :=
  (anglesKept_iff_dvd (fiveProjections 2) 0 (by decide) (by decide) (by decide)
    (by decide)).mpr (by decide)

/-- With stride 3 the projections 0 and 3 are processed. Projection 3, acquired at 135
degrees, is taken for the one at 180 degrees. -/
theorem not_anglesKept_stride_three : ¬ (fiveProjections 3).AnglesKept 4 0 := by
  intro kept
  have second := (kept 1 (by decide)).2 rfl
  rw [StreamingRawProjectionsReader.fileIndex_eq (by decide) (by decide)] at second
  revert second
  decide

end LaunchOptions

end AthabascaRecon
