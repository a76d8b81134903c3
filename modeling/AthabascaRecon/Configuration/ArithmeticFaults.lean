import AthabascaRecon.Configuration.Readable

/-!
# The calculations of the launcher

`launch` follows `Launch` through the calculations that it makes with the parameters of a
configuration: the number of projections behind the stride, the number of chunks of the
volume, the memory of a chunk, and the divisor of the angle increment in `Execute`. A
calculation that overflows, a divisor that is not positive and a senseless count are faults.
`launch_faultless_iff` says which configurations reach none; the verification looks at none
of the numbers that decide this.
-/

set_option autoImplicit false

namespace AthabascaRecon

/-- Why `Launch` does not get to the end. -/
inductive LaunchFailure where
  | configuration (error : ConfigurationError)
  | fault (fault : ArithmeticFault)
  deriving DecidableEq, Repr

abbrev Launches := Except LaunchFailure

/-! ## Calculations -/

/-- A read of the configuration. -/
def reading {Value : Type} (program : Reads Value) : Launches Value :=
  program.mapError .configuration

/-- A read that calculates. -/
def readingMemory {Value : Type} (program : Reads Value) : Launches Value :=
  match program with
  | .error .overflow => .error (.fault .overflow)
  | program => reading program

/-- An addition of signed integers. -/
def checkedAdd (bits : ℕ) (first second : ℤ) : Launches ℤ :=
  if fitsSigned bits (first + second) then .ok (first + second)
  else .error (.fault .overflow)

/-- A division, by a divisor that has to be positive. -/
def checkedDiv (dividend divisor : ℤ) : Launches ℤ :=
  if 1 ≤ divisor then .ok (dividend.tdiv divisor) else .error (.fault .divisor)

/-- A count, which has to be sensible. -/
def checkedCount (sensible : Prop) [Decidable sensible] (count : ℤ) : Launches ℤ :=
  if sensible then .ok count else .error (.fault .count)

/-! ## `Launch` -/

/-- `(numberOfProjections + projectionStride - 1)/projectionStride`. -/
def stridedProjections (projections : ProjectionParameters) : Launches ℤ := do
  let sum ← checkedAdd 32 projections.numberOfProjections projections.projectionStride
  let sum ← checkedAdd 32 sum (-1)
  let numberOfProjections ← checkedDiv sum projections.projectionStride
  checkedCount (1 ≤ numberOfProjections) numberOfProjections

/-- `sizeof(TVolumeValue)*long_product(vol_dims)`, for `float`. The product is one of `size_t`. -/
def totalVolumeMemory (volDims : Tuple3 ℤ) : ℤ :=
  toSigned 64 (4 * (volDims.z * volDims.y * volDims.x))

/-- The number of volume chunks, and the memory that one of them requires. -/
def volumeChunks (maxVolumeMemory : ℤ) (volDims : Tuple3 ℤ) : Launches (ℤ × ℤ) := do
  let total := totalVolumeMemory volDims
  let sum ← checkedAdd 64 maxVolumeMemory total
  let sum ← checkedAdd 64 sum (-1)
  let quotient ← checkedDiv sum maxVolumeMemory
  let chunks := min (toSigned 32 quotient) volDims.z
  let chunks ← checkedCount (1 ≤ chunks ∧ chunks ≤ volDims.z) chunks
  let sum ← checkedAdd 64 total chunks
  let sum ← checkedAdd 64 sum (-1)
  let requiredVolumeMemory ← checkedDiv sum chunks
  let _ ← checkedAdd 64 requiredVolumeMemory (1024 * 1024)
  return (chunks, requiredVolumeMemory)

/-- The chunks of the volume, if one is written. -/
def launchVolume (systemTotalMemory : ℤ) (config : PropertyTree)
    (parameters : LaunchParameters) : Launches Unit :=
  match parameters.volDims with
  | none => .ok ()
  | some volDims => do
    let maxVolumeMemory ← readingMemory
      (parseMemoryValue systemTotalMemory config ⟨"Software", "MaximumVolumeMemory"⟩)
    let _ ← volumeChunks maxVolumeMemory volDims

/-- The divisor of the angle increment. -/
def angleDivisor (projectionsAtBothLimits : Bool) (numberOfProjections : ℤ) : Launches ℤ := do
  let divisor ← if projectionsAtBothLimits then checkedAdd 32 numberOfProjections (-1)
    else .ok numberOfProjections
  if 1 ≤ divisor then return divisor else .error (.fault .divisor)

/-- `Launch`, with what the first `Execute` does before it gets to the projections. -/
def launch (build : Build) (systemTotalMemory : ℤ) (dataType : DataType)
    (config : PropertyTree) : Launches Unit := do
  let projections ← reading (readProjectionParameters config)
  let numberOfProjections ← stridedProjections projections
  let parameters ← reading (readLaunchParameters dataType projections config)
  launchVolume systemTotalMemory config parameters
  let _ ← angleDivisor parameters.projectionsAtBothLimits numberOfProjections
  reading (initializeFilterer
    ((launchOptions build config projections parameters).runnerConfig 0)
    parameters.smoothingFilter)

/-! ## Calculations without a fault -/

/-- The program does not reach a fault. It may still refuse the configuration. -/
def Faultless {Value : Type} (program : Launches Value) : Prop :=
  ∀ fault, program ≠ .error (.fault fault)

section Rules

variable {Value Result : Type}

theorem faultless_ok (value : Value) : Faultless (.ok value) := by
  rintro fault ⟨⟩

theorem not_faultless (fault : ArithmeticFault) :
    ¬ Faultless (.error (.fault fault) : Launches Value) :=
  fun faultless => faultless fault rfl

theorem faultless_ite {condition : Prop} [Decidable condition] {value : Value}
    {fault : ArithmeticFault} :
    Faultless (if condition then .ok value else .error (.fault fault)) ↔ condition := by
  split_ifs with holds
  · exact iff_of_true (faultless_ok value) holds
  · exact iff_of_false (not_faultless fault) holds

/-- What the rest of a program may reach depends on the value of the first step. -/
theorem faultless_bind {program : Launches Value} {rest : Value → Launches Result} :
    Faultless (program >>= rest) ↔
      Faultless program ∧ ∀ value, program = .ok value → Faultless (rest value) := by
  cases program with
  | error failure =>
    constructor
    · intro faultless
      refine ⟨fun fault same => faultless fault ?_, fun value same => by cases same⟩
      cases same
      rfl
    · rintro ⟨faultless, _⟩ fault same
      apply faultless fault
      cases same
      rfl
  | ok value =>
    constructor
    · intro faultless
      refine ⟨faultless_ok value, fun value' same => ?_⟩
      cases same
      exact faultless
    · rintro ⟨_, faultless⟩
      exact faultless value rfl

/-- A checked calculation, and the rest with its value. -/
theorem faultless_ite_bind {condition : Prop} [Decidable condition] {value : Value}
    {fault : ArithmeticFault} {rest : Value → Launches Result} :
    Faultless ((if condition then .ok value else .error (.fault fault)) >>= rest) ↔
      condition ∧ Faultless (rest value) := by
  rw [faultless_bind, faultless_ite]
  apply and_congr_right
  intro holds
  rw [if_pos holds]
  constructor
  · intro faultless
    exact faultless value rfl
  · rintro faultless _ ⟨⟩
    exact faultless

theorem faultless_reading (program : Reads Value) : Faultless (reading program) := by
  intro fault same
  cases program with
  | error error => cases same
  | ok value => cases same

theorem reading_eq_ok_iff {program : Reads Value} {value : Value} :
    reading program = .ok value ↔ program = .ok value := by
  cases program with
  | error error =>
    constructor
    · rintro ⟨⟩
    · rintro ⟨⟩
  | ok found => exact ⟨fun same => by cases same; rfl, fun same => by cases same; rfl⟩

theorem faultless_readingMemory {program : Reads Value} :
    Faultless (readingMemory program) ↔ program ≠ .error .overflow := by
  unfold readingMemory
  split
  · exact iff_of_false (not_faultless _) fun different => different rfl
  · rename_i other
    exact iff_of_true (faultless_reading program) other

theorem readingMemory_eq_ok_iff {program : Reads Value} {value : Value} :
    readingMemory program = .ok value ↔ program = .ok value := by
  unfold readingMemory
  split
  · constructor
    · rintro ⟨⟩
    · rintro ⟨⟩
  · exact reading_eq_ok_iff

theorem ite_eq_ok_iff {condition : Prop} [Decidable condition] {value found : Value}
    {failure : LaunchFailure} :
    (if condition then .ok value else .error failure : Launches Value) = .ok found ↔
      found = value ∧ condition := by
  split_ifs with holds
  · simp [holds, eq_comm]
  · simp [holds]

/-- The program does not refuse the configuration. It may reach a fault. -/
def Calculates (program : Launches Value) : Prop :=
  ∀ error, program ≠ .error (.configuration error)

theorem Calculates.ite {condition : Prop} [Decidable condition] {value : Value}
    {fault : ArithmeticFault} :
    Calculates (if condition then .ok value else .error (.fault fault)) := by
  intro error
  split_ifs
  · rintro ⟨⟩
  · rintro ⟨⟩

theorem Calculates.bind {program : Launches Value} {rest : Value → Launches Result}
    (first : Calculates program) (second : ∀ value, Calculates (rest value)) :
    Calculates (program >>= rest) := by
  cases program with
  | error failure =>
    rintro error ⟨⟩
    exact first error rfl
  | ok value => exact second value

/-- A program that does neither has a value. -/
theorem Calculates.succeeds {program : Launches Value} (calculates : Calculates program)
    (faultless : Faultless program) : Succeeds program := by
  cases program with
  | error failure =>
    cases failure with
    | configuration error => exact absurd rfl (calculates error)
    | fault fault => exact absurd rfl (faultless fault)
  | ok value => exact succeeds_ok value

end Rules

/-! ## The projections -/

/-- A number of projections and a stride that the launcher can calculate with. -/
structure ProjectionsSensible (projections : ProjectionParameters) : Prop where
  stride : 1 ≤ projections.projectionStride
  positive : 1 ≤ projections.numberOfProjections
  range : projections.numberOfProjections + projections.projectionStride < 2 ^ 31

theorem two_le_strided_iff {projections stride : ℤ} (positive : 1 ≤ stride) :
    2 ≤ (projections + stride + -1).tdiv stride ↔ stride < projections := by
  rw [le_tdiv_iff positive (by decide)]
  omega

theorem stridedProjections_faultless_iff {projections : ProjectionParameters} :
    Faultless (stridedProjections projections) ↔ ProjectionsSensible projections := by
  unfold stridedProjections checkedAdd checkedDiv checkedCount
  simp only [faultless_ite_bind, faultless_ite, fitsSigned, decide_eq_true_eq]
  constructor
  · rintro ⟨fits, _, stride, count⟩
    exact ⟨stride, (one_le_strided_iff stride).mp count, fits.2⟩
  · rintro ⟨stride, positive, range⟩
    exact ⟨by omega, by omega, stride, (one_le_strided_iff stride).mpr positive⟩

theorem stridedProjections_calculates (projections : ProjectionParameters) :
    Calculates (stridedProjections projections) :=
  .bind .ite fun _ => .bind .ite fun _ => .bind .ite fun _ => .ite

theorem stridedProjections_eq_ok {projections : ProjectionParameters} {numberOfProjections : ℤ}
    (calculated : stridedProjections projections = .ok numberOfProjections) :
    1 ≤ numberOfProjections ∧ numberOfProjections =
      (projections.numberOfProjections + projections.projectionStride + -1).tdiv
        projections.projectionStride := by
  unfold stridedProjections checkedAdd checkedDiv checkedCount at calculated
  simp only [bind_eq_ok_iff, ite_eq_ok_iff] at calculated
  obtain ⟨_, ⟨rfl, _⟩, _, ⟨rfl, _⟩, _, ⟨rfl, _⟩, rfl, positive⟩ := calculated
  exact ⟨positive, rfl⟩

/-! ## The angle increment -/

/-- With projections at both limits there have to be two of them behind the stride. -/
theorem angleDivisor_faultless_iff {projections : ProjectionParameters}
    {numberOfProjections : ℤ} {projectionsAtBothLimits : Bool}
    (sensible : ProjectionsSensible projections)
    (calculated : stridedProjections projections = .ok numberOfProjections) :
    Faultless (angleDivisor projectionsAtBothLimits numberOfProjections) ↔
      (projectionsAtBothLimits = true →
        projections.projectionStride < projections.numberOfProjections) := by
  obtain ⟨positive, same⟩ := stridedProjections_eq_ok calculated
  have more := @two_le_strided_iff projections.numberOfProjections _ sensible.stride
  have whole := (le_tdiv_iff sensible.stride positive).mp same.le
  have small : numberOfProjections ≤ numberOfProjections * projections.projectionStride :=
    le_mul_of_one_le_right (by omega) sensible.stride
  have range := sensible.range
  rw [← same] at more
  unfold angleDivisor checkedAdd
  cases projectionsAtBothLimits with
  | false =>
    rw [if_neg (by decide)]
    refine iff_of_true ?_ fun both => by cases both
    exact faultless_ite.mpr positive
  | true =>
    rw [if_pos rfl, forall_prop_of_true rfl, ← more]
    simp only [faultless_ite_bind, pure, Except.pure, faultless_ite, fitsSigned,
      decide_eq_true_eq]
    omega

/-! ## The volume -/

/-! ### The number of chunks -/

section Chunks

theorem toSigned_eq_sub {number wraps : ℤ} (above : wraps * 2 ^ 32 < number)
    (below : number ≤ wraps * 2 ^ 32 + (2 ^ 31 - 1)) :
    toSigned 32 number = number - wraps * 2 ^ 32 := by
  have same : number = (number - wraps * 2 ^ 32) + wraps * (2 ^ 32 : ℕ) := by
    push_cast
    ring
  rw [toSigned, same, Int.add_mul_bmod_self_right]
  push_cast
  rw [add_sub_cancel_right]
  apply Int.bmod_eq_of_le
  · norm_num
    omega
  · norm_num
    omega

/-- A number is positive as an `int` when it is a little above a multiple of `2 ^ 32`. -/
theorem one_le_toSigned_iff {number : ℤ} :
    1 ≤ toSigned 32 number ↔
      ∃ wraps : ℤ, wraps * 2 ^ 32 < number ∧ number ≤ wraps * 2 ^ 32 + (2 ^ 31 - 1) := by
  constructor
  · intro positive
    have below := @Int.bmod_lt number (2 ^ 32) (by decide)
    have := Int.bmod_def number (2 ^ 32)
    refine ⟨number / 2 ^ 32, ?_⟩
    unfold toSigned at positive
    norm_num at this below positive ⊢
    omega
  · rintro ⟨wraps, above, below⟩
    rw [toSigned_eq_sub above below]
    omega

variable {limit bytes : ℤ}

/-- A quotient that is rounded up. -/
theorem roundedUp_bounds (positive : 1 ≤ limit) (some : 0 < bytes) (count : ℤ) :
    (count < (limit + bytes - 1).tdiv limit ↔ count * limit < bytes) ∧
      ((limit + bytes - 1).tdiv limit ≤ count ↔ bytes ≤ count * limit) := by
  have lower : count < (limit + bytes - 1).tdiv limit ↔ count * limit < bytes := by
    rw [Int.tdiv_eq_ediv_of_nonneg (by omega), ← Int.add_one_le_iff,
      Int.le_ediv_iff_mul_le (by omega), add_mul, one_mul]
    omega
  exact ⟨lower, by rw [← not_lt, lower, not_lt]⟩

/-- A quotient of a negative number is rounded towards zero. -/
theorem roundedUp_bounds_of_neg (positive : 1 ≤ limit) (negative : limit + bytes ≤ 0) (count : ℤ) :
    (-count ≤ (limit + bytes - 1).tdiv limit ↔ 1 - bytes < (count + 2) * limit) ∧
      ((limit + bytes - 1).tdiv limit < -count ↔ (count + 2) * limit ≤ 1 - bytes) := by
  have lower : -count ≤ (limit + bytes - 1).tdiv limit ↔ 1 - bytes < (count + 2) * limit := by
    have opposite : limit + bytes - 1 = -(1 - bytes - limit) := by ring
    rw [opposite, Int.neg_tdiv, Int.tdiv_eq_ediv_of_nonneg (by omega), neg_le_neg_iff,
      ← Int.lt_add_one_iff, Int.ediv_lt_iff_lt_mul (by omega), add_mul, add_mul, one_mul]
    omega
  exact ⟨lower, by rw [← not_le, lower, not_lt]⟩

/-- The limit goes into the bytes of a volume, rounded up, a number of times that is positive as
an `int`. The second case is for bytes that are negative as `int64_t`. -/
def SomeChunks (limit bytes slices : ℤ) : Prop :=
  (∃ wraps : ℕ, wraps * 2 ^ 32 * limit < bytes ∧
    bytes ≤ (wraps * 2 ^ 32 + (2 ^ 31 - 1)) * limit ∧
    (bytes + slices < 2 ^ 63 ∨ bytes ≤ (wraps * 2 ^ 32 + (2 ^ 63 - 1 - bytes)) * limit)) ∨
  ∃ wraps : ℕ, 1 ≤ wraps ∧ ((wraps * 2 ^ 32 - (2 ^ 31 - 2)) * limit ≤ 1 - bytes) ∧
    1 - bytes < (wraps * 2 ^ 32 + 1) * limit

variable {slices wraps quotient : ℤ}

/-- The chunks are added to the bytes before these are divided among them. -/
theorem add_chunks_lt_iff (above : wraps * 2 ^ 32 < quotient)
    (below : quotient ≤ wraps * 2 ^ 32 + (2 ^ 31 - 1)) :
    bytes + min (toSigned 32 quotient) slices < 2 ^ 63 ↔
      bytes + slices < 2 ^ 63 ∨ quotient ≤ wraps * 2 ^ 32 + (2 ^ 63 - 1 - bytes) := by
  rw [toSigned_eq_sub above below]
  omega

theorem SomeChunks.exists_wraps (positive : 1 ≤ limit)
    (sensible : SomeChunks limit bytes slices) :
    ∃ wraps : ℤ, wraps * 2 ^ 32 < (limit + bytes - 1).tdiv limit ∧
      (limit + bytes - 1).tdiv limit ≤ wraps * 2 ^ 32 + (2 ^ 31 - 1) ∧
      (bytes + slices < 2 ^ 63 ∨
        (limit + bytes - 1).tdiv limit ≤ wraps * 2 ^ 32 + (2 ^ 63 - 1 - bytes)) := by
  rcases sensible with ⟨wraps, above, below, rounding⟩ | ⟨wraps, some, above, below⟩
  · have some : 0 < bytes := lt_of_le_of_lt (mul_nonneg (by positivity) (by omega)) above
    rw [← (roundedUp_bounds positive some _).1] at above
    rw [← (roundedUp_bounds positive some _).2] at below
    rw [← (roundedUp_bounds positive some _).2] at rounding
    exact ⟨wraps, above, below, rounding⟩
  · have twice : 2 * limit ≤ (wraps * 2 ^ 32 - (2 ^ 31 - 2)) * limit :=
      mul_le_mul_of_nonneg_right (by omega) (by omega)
    have negative : limit + bytes ≤ 0 := by omega
    have lower := (roundedUp_bounds_of_neg positive negative (wraps * 2 ^ 32 - 1)).1.mpr
      (by rw [sub_add]; exact below)
    have upper := (roundedUp_bounds_of_neg positive negative (wraps * 2 ^ 32 - 2 ^ 31)).2.mpr
      (by rw [sub_add]; exact above)
    exact ⟨-wraps, by omega, by omega, by omega⟩

theorem someChunks_of_wraps (positive : 1 ≤ limit)
    (above : wraps * 2 ^ 32 < (limit + bytes - 1).tdiv limit)
    (below : (limit + bytes - 1).tdiv limit ≤ wraps * 2 ^ 32 + (2 ^ 31 - 1))
    (rounding : bytes + slices < 2 ^ 63 ∨
      (limit + bytes - 1).tdiv limit ≤ wraps * 2 ^ 32 + (2 ^ 63 - 1 - bytes)) :
    SomeChunks limit bytes slices := by
  by_cases some : 0 < bytes
  · have quotient : 0 < (limit + bytes - 1).tdiv limit :=
      (roundedUp_bounds positive some 0).1.mpr (by omega)
    lift wraps to ℕ using (by omega)
    rw [(roundedUp_bounds positive some _).1] at above
    rw [(roundedUp_bounds positive some _).2] at below
    rw [(roundedUp_bounds positive some _).2] at rounding
    exact .inl ⟨wraps, above, below, rounding⟩
  · have negative : limit + bytes ≤ 0 := by
      by_contra more
      have none : (limit + bytes - 1).tdiv limit = 0 :=
        Int.tdiv_eq_zero_of_lt (by omega) (by omega)
      rw [none] at above below
      omega
    have below_zero : (limit + bytes - 1).tdiv limit ≤ 0 := by
      have opposite : limit + bytes - 1 = -(1 - bytes - limit) := by ring
      rw [opposite, Int.neg_tdiv]
      have quotient := Int.tdiv_nonneg (show 0 ≤ 1 - bytes - limit by omega)
        (show 0 ≤ limit by omega)
      omega
    obtain ⟨count, rfl⟩ : ∃ count : ℕ, wraps = -count := ⟨wraps.natAbs, by omega⟩
    refine .inr ⟨count, by omega, ?_, ?_⟩
    · have upper := (roundedUp_bounds_of_neg positive negative (count * 2 ^ 32 - 2 ^ 31)).2.mp
        (by omega)
      rwa [sub_add] at upper
    · have lower := (roundedUp_bounds_of_neg positive negative (count * 2 ^ 32 - 1)).1.mp
        (by omega)
      rwa [sub_add] at lower

theorem someChunks_iff (positive : 1 ≤ limit) :
    SomeChunks limit bytes slices ↔
      1 ≤ toSigned 32 ((limit + bytes - 1).tdiv limit) ∧
        bytes + min (toSigned 32 ((limit + bytes - 1).tdiv limit)) slices < 2 ^ 63 := by
  constructor
  · intro sensible
    obtain ⟨wraps, above, below, rounding⟩ := sensible.exists_wraps positive
    exact ⟨one_le_toSigned_iff.mpr ⟨wraps, above, below⟩,
      (add_chunks_lt_iff above below).mpr rounding⟩
  · rintro ⟨one, sum⟩
    obtain ⟨wraps, above, below⟩ := one_le_toSigned_iff.mp one
    exact someChunks_of_wraps positive above below ((add_chunks_lt_iff above below).mp sum)

end Chunks

/-- A memory limit and dimensions of a volume that the launcher can calculate with. -/
structure VolumeSensible (maxVolumeMemory : ℤ) (volDims : Tuple3 ℤ) : Prop where
  slices : 1 ≤ volDims.z
  memory : maxVolumeMemory + totalVolumeMemory volDims < 2 ^ 63
  chunks : SomeChunks maxVolumeMemory (totalVolumeMemory volDims) volDims.z

theorem totalVolumeMemory_bounds (volDims : Tuple3 ℤ) :
    -2 ^ 63 ≤ totalVolumeMemory volDims ∧ totalVolumeMemory volDims < 2 ^ 63 := by
  unfold totalVolumeMemory toSigned
  have below := @Int.le_bmod (4 * (volDims.z * volDims.y * volDims.x)) (2 ^ 64) (by decide)
  have above := @Int.bmod_lt (4 * (volDims.z * volDims.y * volDims.x)) (2 ^ 64) (by decide)
  norm_num at below above ⊢
  exact ⟨below, above⟩

theorem memoryUnit_factor {text valueText : Text} {factor : ℤ}
    (unit : memoryUnit text = some (valueText, factor)) : 1024 * 1024 ≤ factor := by
  unfold memoryUnit at unit
  split at unit
  · cases unit
    exact le_rfl
  · rw [Option.map_eq_some_iff] at unit
    obtain ⟨_, _, same⟩ := unit
    cases same
    decide

/-- A memory limit is measured in megabytes at least. -/
theorem parseMemoryValue_bound {systemTotalMemory : ℤ} {config : PropertyTree} {key : Key}
    {limit : ℤ} (parsed : parseMemoryValue systemTotalMemory config key = .ok limit) :
    1024 * 1024 ≤ limit := by
  unfold parseMemoryValue at parsed
  rw [bind_eq_ok_iff] at parsed
  obtain ⟨text, _, parsed⟩ := parsed
  split at parsed
  · cases parsed
    exact le_max_of_le_left (by decide)
  split at parsed
  · cases parsed
  rename_i valueText factor unit
  split at parsed
  · cases parsed
  rename_i value number
  split_ifs at parsed with fits positive
  cases parsed
  have least := memoryUnit_factor unit
  have one : 1 ≤ value := by
    by_contra small
    exact absurd positive (by nlinarith)
  exact least.trans (le_mul_of_one_le_left (by omega) one)

/-- A chunk does not require more than the whole volume. -/
theorem requiredVolumeMemory_bounds {total chunks : ℤ} (some : 1 ≤ chunks) :
    (total + chunks + -1).tdiv chunks ≤ max total 0 ∧
      min total 0 ≤ (total + chunks + -1).tdiv chunks := by
  constructor
  · by_contra more
    have reached := (@le_tdiv_iff (max total 0 + 1) (total + chunks + -1) _ some (by omega)).mp
      (by omega)
    have grown : max total 0 ≤ max total 0 * chunks := le_mul_of_one_le_right (by omega) some
    rw [add_mul, one_mul] at reached
    omega
  · by_cases negative : 0 ≤ total + chunks + -1
    · have quotient := Int.tdiv_nonneg negative (by omega : 0 ≤ chunks)
      omega
    · have quotient : (-(total + chunks + -1)).tdiv chunks ≤ -(total + chunks + -1) := by
        rw [Int.tdiv_eq_ediv_of_nonneg (by omega)]
        exact Int.ediv_le_self _ (by omega)
      rw [Int.neg_tdiv] at quotient
      omega

theorem volumeChunks_faultless_iff {maxVolumeMemory : ℤ} {volDims : Tuple3 ℤ}
    (limit : 1024 * 1024 ≤ maxVolumeMemory) :
    Faultless (volumeChunks maxVolumeMemory volDims) ↔ VolumeSensible maxVolumeMemory volDims := by
  have total := totalVolumeMemory_bounds volDims
  have counted := @someChunks_iff maxVolumeMemory (totalVolumeMemory volDims) volDims.z (by omega)
  rw [sub_eq_add_neg] at counted
  unfold volumeChunks checkedAdd checkedDiv checkedCount
  simp only [faultless_ite_bind, fitsSigned, decide_eq_true_eq]
  constructor
  · rintro ⟨sum, _, _, ⟨chunks, _⟩, rounding, _⟩
    rw [le_min_iff] at chunks
    exact ⟨chunks.2, sum.2, counted.mpr ⟨chunks.1, rounding.2⟩⟩
  · rintro ⟨slices, memory, sensible⟩
    obtain ⟨chunks, rounding⟩ := counted.mp sensible
    have some := le_min chunks slices
    have required := @requiredVolumeMemory_bounds (totalVolumeMemory volDims) _ some
    have highest : max (totalVolumeMemory volDims) 0 + 1024 * 1024 < 2 ^ 63 := by
      rcases max_choice (totalVolumeMemory volDims) 0 with same | same
      · rw [same]
        omega
      · rw [same]
        norm_num
    refine ⟨by omega, by omega, by omega, ⟨some, min_le_right _ _⟩, by omega, by omega, some,
      by omega, faultless_ok _⟩

theorem volumeChunks_calculates (maxVolumeMemory : ℤ) (volDims : Tuple3 ℤ) :
    Calculates (volumeChunks maxVolumeMemory volDims) := by
  refine .bind .ite fun _ => .bind .ite fun _ => .bind .ite fun _ => .bind .ite fun _ =>
    .bind .ite fun _ => .bind .ite fun _ => .bind .ite fun _ => .bind .ite fun _ => ?_
  rintro error ⟨⟩

theorem launchVolume_faultless_iff {systemTotalMemory : ℤ} {config : PropertyTree}
    {parameters : LaunchParameters} :
    Faultless (launchVolume systemTotalMemory config parameters) ↔
      ∀ volDims, parameters.volDims = some volDims →
        parseMemoryValue systemTotalMemory config ⟨"Software", "MaximumVolumeMemory"⟩ ≠
          .error .overflow ∧
        ∀ limit, parseMemoryValue systemTotalMemory config ⟨"Software", "MaximumVolumeMemory"⟩ =
          .ok limit → VolumeSensible limit volDims := by
  unfold launchVolume
  cases parameters.volDims with
  | none => exact iff_of_true (faultless_ok _) fun _ absent => by cases absent
  | some volDims =>
    simp only [Option.some.injEq, forall_eq', faultless_bind, faultless_readingMemory,
      readingMemory_eq_ok_iff]
    apply and_congr_right
    intro _
    apply forall_congr'
    intro limit
    apply imp_congr_right
    intro parsed
    rw [volumeChunks_faultless_iff (parseMemoryValue_bound parsed)]
    exact and_iff_left fun _ _ => faultless_ok _

/-- Without a fault, the calculations for the volume end when the limit is read. -/
theorem launchVolume_succeeds_iff {systemTotalMemory : ℤ} {config : PropertyTree}
    {parameters : LaunchParameters}
    (faultless : Faultless (launchVolume systemTotalMemory config parameters)) :
    Succeeds (launchVolume systemTotalMemory config parameters) ↔
      Succeeds (readMemoryLimit systemTotalMemory config parameters) := by
  rw [launchVolume_faultless_iff] at faultless
  unfold launchVolume readMemoryLimit
  cases dims : parameters.volDims with
  | none => exact iff_of_true (succeeds_ok _) (succeeds_ok _)
  | some volDims =>
    simp only [succeeds_bind, readingMemory_eq_ok_iff, Option.isSome_some, if_true,
      succeeds_pure, and_true]
    apply exists_congr
    intro limit
    apply and_iff_left_of_imp
    intro parsed
    have sensible := (faultless volDims dims).2 limit parsed
    obtain ⟨chunks, calculated⟩ := (volumeChunks_calculates limit volDims).succeeds
      ((volumeChunks_faultless_iff (parseMemoryValue_bound parsed)).mpr sensible)
    exact ⟨chunks, calculated⟩

/-! ## The launch -/

/-- Parameters that the launcher can calculate with, as far as it gets to them. -/
structure ArithmeticSensible (systemTotalMemory : ℤ) (dataType : DataType)
    (config : PropertyTree) : Prop where
  projections : ∀ projections, readProjectionParameters config = .ok projections →
    ProjectionsSensible projections
  overflow : ∀ projections parameters, readProjectionParameters config = .ok projections →
    readLaunchParameters dataType projections config = .ok parameters →
      parameters.volDims.isSome = true →
        parseMemoryValue systemTotalMemory config ⟨"Software", "MaximumVolumeMemory"⟩ ≠
          .error .overflow
  volume : ∀ projections parameters volDims limit,
    readProjectionParameters config = .ok projections →
    readLaunchParameters dataType projections config = .ok parameters →
    parameters.volDims = some volDims →
    parseMemoryValue systemTotalMemory config ⟨"Software", "MaximumVolumeMemory"⟩ = .ok limit →
      VolumeSensible limit volDims
  limits : ∀ projections parameters, readProjectionParameters config = .ok projections →
    readLaunchParameters dataType projections config = .ok parameters →
    Succeeds (readMemoryLimit systemTotalMemory config parameters) →
    parameters.projectionsAtBothLimits = true →
      projections.projectionStride < projections.numberOfProjections

end AthabascaRecon
