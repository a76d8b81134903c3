import AthabascaRecon.Foundation.Sums
import AthabascaRecon.ProjectionCorrection.BeamPowerCorrector

/-!
# Nulling the edges of projections

`NullProjectionEdgeBeamPowerCorrector` shifts a projection so that the mean over a strip of
columns at either edge becomes 0. The configuration sets the width of the strips, with 10 as its
default and no check against the width of the projection. The edge is nulled, from pixels of
the projection alone, exactly when the width is not 0 and not greater than the number of
columns (`edgeNulled_iff`).
-/

set_option autoImplicit false

namespace AthabascaRecon

variable {Space : Type} [Field Space]

/-- The values of an index from `start` on that are below `stop`. -/
def indicesFrom (start stop : ℤ) : List ℤ :=
  (List.range (stop - start).toNat).map fun (k : ℕ) => start + k

/-- The pixels that `IntegrateEdgeStrips` reads, in their order. -/
def edgeStripLocations (edgeWidth : ℤ) (dims : Tuple2 ℕ) : List (Tuple2 ℤ) :=
  (indicesFrom 0 dims.v).flatMap fun i =>
    ((indicesFrom 0 edgeWidth).map fun j => ⟨i, j⟩) ++
      (indicesFrom (dims.u - edgeWidth) dims.u).map fun j => ⟨i, j⟩

/-- What the sum over the strips is divided by. -/
def edgeStripDivisor (edgeWidth : ℤ) (dims : Tuple2 ℕ) : ℤ := 2 * edgeWidth * dims.v

/-- `IntegrateEdgeStrips`. -/
def integrateEdgeStrips (edgeWidth : ℤ) (projection : Image2 Space) : Space :=
  (edgeStripLocations edgeWidth projection.dims).foldl
      (fun sum location => sum + projection.pixelAt location) 0 /
    edgeStripDivisor edgeWidth projection.dims

/-- `NullProjectionEdgeBeamPowerCorrector::ProcessProjection`. -/
def nullProjectionEdge (edgeWidth : ℤ) (projection : Image2 Space) : Image2 Space × Space :=
  let correction := integrateEdgeStrips edgeWidth projection
  (shiftProjection projection (-correction), correction)

/-- The pixels that are read are in the projection, the divisor is not 0, and the mean over the
strips is 0 afterwards. -/
structure EdgeNulled (edgeWidth : ℤ) (projection : Image2 Space) : Prop where
  inside : ∀ location ∈ edgeStripLocations edgeWidth projection.dims,
    projection.Contains location.v location.u
  divisor : edgeStripDivisor edgeWidth projection.dims ≠ 0
  nulled : integrateEdgeStrips edgeWidth (nullProjectionEdge edgeWidth projection).1 = 0

/-! ## The strips -/

theorem mem_indicesFrom {start stop k : ℤ} : k ∈ indicesFrom start stop ↔ start ≤ k ∧ k < stop := by
  rw [indicesFrom, List.mem_map]
  constructor
  · rintro ⟨step, inRange, rfl⟩
    rw [List.mem_range] at inRange
    omega
  · rintro ⟨above, below⟩
    exact ⟨(k - start).toNat, List.mem_range.mpr (by omega), by omega⟩

theorem length_indicesFrom (start stop : ℤ) :
    (indicesFrom start stop).length = (stop - start).toNat := by
  rw [indicesFrom, List.length_map, List.length_range]

theorem mem_edgeStripLocations {edgeWidth : ℤ} {dims : Tuple2 ℕ} {location : Tuple2 ℤ} :
    location ∈ edgeStripLocations edgeWidth dims ↔
      (0 ≤ location.v ∧ location.v < dims.v) ∧
        ((0 ≤ location.u ∧ location.u < edgeWidth) ∨
          (dims.u - edgeWidth ≤ location.u ∧ location.u < dims.u)) := by
  obtain ⟨v, u⟩ := location
  simp only [edgeStripLocations, List.mem_flatMap, List.mem_append, List.mem_map,
    mem_indicesFrom, Tuple2.mk.injEq]
  constructor
  · rintro ⟨i, row, ⟨j, strip, rfl, rfl⟩ | ⟨j, strip, rfl, rfl⟩⟩
    · exact ⟨row, .inl strip⟩
    · exact ⟨row, .inr strip⟩
  · rintro ⟨row, strip | strip⟩
    · exact ⟨v, row, .inl ⟨u, strip, rfl, rfl⟩⟩
    · exact ⟨v, row, .inr ⟨u, strip, rfl, rfl⟩⟩

/-- The strips have as many pixels as the divisor says, when the width is not negative. -/
theorem length_edgeStripLocations (edgeWidth : ℤ) (dims : Tuple2 ℕ) :
    (edgeStripLocations edgeWidth dims).length = 2 * edgeWidth.toNat * dims.v := by
  simp only [edgeStripLocations, List.length_flatMap, List.length_append, List.length_map,
    length_indicesFrom, List.map_const', List.sum_replicate, smul_eq_mul]
  have row : ((dims.v : ℤ) - 0).toNat = dims.v := by omega
  have first : (edgeWidth - 0).toNat = edgeWidth.toNat := by omega
  have last : ((dims.u : ℤ) - (dims.u - edgeWidth)).toNat = edgeWidth.toNat := by omega
  rw [row, first, last]
  ring

omit [Field Space] in
/-- The pixels of the strips are those of the projection when the strips are not wider than it
is. -/
theorem edgeStrips_inside_iff {edgeWidth : ℤ} {projection : Image2 Space}
    (rows : 1 ≤ projection.dims.v) (columns : 1 ≤ projection.dims.u) :
    (∀ location ∈ edgeStripLocations edgeWidth projection.dims,
        projection.Contains location.v location.u) ↔ edgeWidth ≤ projection.dims.u := by
  constructor
  · intro inside
    by_contra wide
    have beyond := inside ⟨0, edgeWidth - 1⟩
      (mem_edgeStripLocations.mpr ⟨⟨le_rfl, by dsimp only; omega⟩, .inl (by dsimp only; omega)⟩)
    have columnsEnd := beyond.2.2
    dsimp only at columnsEnd
    omega
  · intro narrow location member
    obtain ⟨row, strip⟩ := mem_edgeStripLocations.mp member
    refine ⟨row, ?_⟩
    omega

/-! ## The mean over the strips -/

/-- **The edge is nulled exactly when the width is not 0 and not greater than the number of
columns.** A negative width makes the strips empty. -/
theorem edgeNulled_iff [CharZero Space] (edgeWidth : ℤ) (projection : Image2 Space)
    (rows : 1 ≤ projection.dims.v) (columns : 1 ≤ projection.dims.u) :
    EdgeNulled edgeWidth projection ↔ edgeWidth ≠ 0 ∧ edgeWidth ≤ projection.dims.u := by
  have divisor_ne_zero_iff : edgeStripDivisor edgeWidth projection.dims ≠ 0 ↔ edgeWidth ≠ 0 := by
    rw [edgeStripDivisor, mul_ne_zero_iff, mul_ne_zero_iff]
    omega
  constructor
  · intro nulled
    exact ⟨divisor_ne_zero_iff.mp nulled.divisor,
      (edgeStrips_inside_iff rows columns).mp nulled.inside⟩
  · rintro ⟨some_width, narrow⟩
    have inside := (edgeStrips_inside_iff rows columns).mpr narrow
    have divisor := divisor_ne_zero_iff.mpr some_width
    refine ⟨inside, divisor, ?_⟩
    have nonzero : (edgeStripDivisor edgeWidth projection.dims : Space) ≠ 0 :=
      Int.cast_ne_zero.mpr divisor
    have shifted : ∀ location ∈ edgeStripLocations edgeWidth projection.dims,
        (nullProjectionEdge edgeWidth projection).1.pixelAt location =
          projection.pixelAt location + -integrateEdgeStrips edgeWidth projection := by
      intro location member
      exact shiftProjection_pixelAt _ (inside location member)
    have sameDims : (nullProjectionEdge edgeWidth projection).1.dims = projection.dims := rfl
    have counted := length_edgeStripLocations edgeWidth projection.dims
    rw [integrateEdgeStrips, sameDims, Foundation.foldl_add_shift _ shifted, div_eq_zero_iff]
    left
    rcases lt_or_gt_of_ne some_width with negative | positive
    · have none : edgeStripLocations edgeWidth projection.dims = [] := by
        rw [← List.length_eq_zero_iff, counted, Int.toNat_of_nonpos negative.le, mul_zero,
          zero_mul]
      rw [none, List.foldl_nil, List.length_nil, Nat.cast_zero, zero_mul, add_zero]
    · -- What is subtracted from each pixel is the sum over the number of pixels.
      have sameCount : ((edgeStripLocations edgeWidth projection.dims).length : Space) =
          (edgeStripDivisor edgeWidth projection.dims : Space) := by
        rw [counted, edgeStripDivisor, ← Int.cast_natCast, Nat.cast_mul, Nat.cast_mul,
          Int.toNat_of_nonneg positive.le, Nat.cast_ofNat]
      rw [sameCount, integrateEdgeStrips, mul_neg, mul_div_cancel₀ _ nonzero, add_neg_cancel]

/-- A row of four pixels. -/
def fourColumns : Image2 ℚ := ⟨⟨1, 4⟩, ⟨1, 1⟩, ⟨0, 0⟩, fun _ j => j⟩

theorem edgeNulled_iff_four : EdgeNulled 1 fourColumns :=
  (edgeNulled_iff 1 fourColumns (by decide) (by decide)).mpr ⟨by decide, by decide⟩

/-- **Strips of the default width on a row of four pixels**: the fifth column is read. -/
theorem not_edgeNulled_default : ¬ EdgeNulled 10 fourColumns := by
  intro nulled
  have beyond := nulled.inside ⟨0, 4⟩ (by decide)
  exact absurd beyond.2.2 (by decide)

end AthabascaRecon
