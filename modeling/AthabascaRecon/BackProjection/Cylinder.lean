import AthabascaRecon.BackProjection.ParallelBackProjector
import AthabascaRecon.BackProjection.PixelInterpolator
import Mathlib.Analysis.SpecialFunctions.Sqrt
import Mathlib.Analysis.SpecialFunctions.Trigonometric.Basic

/-!
# The cylinder of a projection

The loops of `ApplyProjection` replace a call of the ray tracer for each voxel inside a
cylinder. They pass every voxel of the cylinder once and add what the ray tracer finds
(`applyProjection_rayTraced`). They begin a row with a voxel that is not behind the
circle, and they square a radius that may be negative. So voxels outside the cylinder
keep their values, whatever the pixels are, exactly when none of the voxels that are passed
too early is projected to where pixels are read (`leavesOutside_iff`).
-/

set_option autoImplicit false

namespace AthabascaRecon

/-- What exact arithmetic knows of the square root. -/
class LawfulSqrt (Space : Type*) [Field Space] [LinearOrder Space] [Cmath Space] : Prop where
  sqrt_nonneg : ∀ x : Space, 0 ≤ Cmath.sqrt x
  sq_sqrt : ∀ x : Space, 0 ≤ x → Cmath.sqrt x ^ 2 = x

noncomputable instance : Cmath ℝ where
  sqrt := Real.sqrt
  sin := Real.sin
  cos := Real.cos

instance : LawfulSqrt ℝ where
  sqrt_nonneg := Real.sqrt_nonneg
  sq_sqrt _ := Real.sq_sqrt

namespace ParallelBackProjectorCpu

variable {Space : Type*} [Field Space] [LinearOrder Space] [IsStrictOrderedRing Space]
variable [FloorRing Space] [Cmath Space]

/-- The radius of the cylinder. It is not positive when the rotation axis is not projected
into the projection. -/
def radius (proj : Image2 Space) : Space :=
  min (-proj.interiorExtents.u.lower) proj.interiorExtents.u.upper

/-- Half the length of the chord along which a row cuts the circle. -/
def halfChord (volume : Volume Space) (proj : Image2 Space) (j : ℕ) : Space :=
  Cmath.sqrt (radius proj ^ 2 - volume.positionY j ^ 2)

/-- The indices of the voxels. -/
def InVolume (volume : Volume Space) (i j k : ℕ) : Prop :=
  i < volume.dims.z ∧ j < volume.dims.y ∧ k < volume.dims.x

def InCylinder (volume : Volume Space) (proj : Image2 Space) (j k : ℕ) : Prop :=
  volume.positionX k ^ 2 + volume.positionY j ^ 2 < radius proj ^ 2

variable {volume : Volume Space} {proj : Image2 Space} {i j k : ℕ}

/-! ## The voxels of a row -/

omit [Cmath Space] in
theorem startIndex_le_iff (spacing : 0 < volume.spacing.x) (chord : Space) :
    startIndex volume chord ≤ k ↔ -chord - volume.spacing.x < volume.positionX k := by
  have nonneg : (0 : ℤ) ≤ k := Int.natCast_nonneg k
  rw [startIndex, max_le_iff, and_iff_right nonneg, Int.floor_le_iff, div_lt_iff₀ spacing,
    Volume.positionX, Int.cast_natCast, add_mul, one_mul]
  constructor <;> intro below <;> linarith

omit [Cmath Space] in
theorem lt_stopIndex_iff (spacing : 0 < volume.spacing.x) (chord : Space) :
    (k : ℤ) < stopIndex volume chord ↔ k < volume.dims.x ∧ volume.positionX k < chord := by
  rw [stopIndex, lt_min_iff, Int.lt_ceil, lt_div_iff₀ spacing, Volume.positionX,
    Int.cast_natCast, Nat.cast_lt]
  refine and_congr_right fun _ => ?_
  constructor <;> intro below <;> linarith

/-- A row is passed from less than a voxel before its chord to the end of the chord. -/
theorem rowVisits_iff (spacing : 0 < volume.spacing.x) :
    RowVisits volume proj j k ↔
      k < volume.dims.x ∧ volume.positionY j ^ 2 < radius proj ^ 2 ∧
        -halfChord volume proj j - volume.spacing.x < volume.positionX k ∧
        volume.positionX k < halfChord volume proj j := by
  have meets : 0 < circleRadius2 proj - volume.positionY j ^ 2 ↔
      volume.positionY j ^ 2 < radius proj ^ 2 := sub_pos
  rw [RowVisits, meets]
  change _ ∧ startIndex volume (halfChord volume proj j) ≤ k ∧
    (k : ℤ) < stopIndex volume (halfChord volume proj j) ↔ _
  rw [startIndex_le_iff spacing, lt_stopIndex_iff spacing]
  tauto

section Chord

variable [LawfulSqrt Space]

omit [IsStrictOrderedRing Space] [FloorRing Space] in
theorem halfChord_nonneg : 0 ≤ halfChord volume proj j := LawfulSqrt.sqrt_nonneg _

omit [FloorRing Space] in
theorem sq_halfChord (meets : volume.positionY j ^ 2 ≤ radius proj ^ 2) :
    halfChord volume proj j ^ 2 = radius proj ^ 2 - volume.positionY j ^ 2 :=
  LawfulSqrt.sq_sqrt _ (sub_nonneg.mpr meets)

omit [FloorRing Space] in
/-- The voxels of the cylinder are those on the chords. -/
theorem inCylinder_iff : InCylinder volume proj j k ↔
    volume.positionY j ^ 2 < radius proj ^ 2 ∧
      -halfChord volume proj j < volume.positionX k ∧
        volume.positionX k < halfChord volume proj j := by
  constructor
  · intro inside
    have meets : volume.positionY j ^ 2 < radius proj ^ 2 :=
      lt_of_le_of_lt (le_add_of_nonneg_left (sq_nonneg _)) inside
    have smaller : volume.positionX k ^ 2 < halfChord volume proj j ^ 2 := by
      rw [sq_halfChord meets.le]
      exact lt_sub_iff_add_lt.mpr inside
    exact ⟨meets, abs_lt.mp (abs_lt_of_sq_lt_sq smaller halfChord_nonneg)⟩
  · rintro ⟨meets, above, below⟩
    have smaller : volume.positionX k ^ 2 < halfChord volume proj j ^ 2 := sq_lt_sq' above below
    rw [sq_halfChord meets.le] at smaller
    exact lt_sub_iff_add_lt.mp smaller

theorem rowVisits_of_inCylinder (spacing : 0 < volume.spacing.x) (column : k < volume.dims.x)
    (inside : InCylinder volume proj j k) : RowVisits volume proj j k := by
  obtain ⟨meets, above, below⟩ := inCylinder_iff.mp inside
  exact (rowVisits_iff spacing).mpr ⟨column, meets, by linarith, below⟩

/-- The voxels outside the cylinder that a row passes: the one at which it begins, when it
does not lie behind the beginning of the chord, and all of them when the radius is
negative. -/
def StartsEarly (volume : Volume Space) (proj : Image2 Space) (j k : ℕ) : Prop :=
  volume.positionY j ^ 2 < radius proj ^ 2 ∧
    -halfChord volume proj j - volume.spacing.x < volume.positionX k ∧
      volume.positionX k < halfChord volume proj j ∧
        (volume.positionX k ≤ -halfChord volume proj j ∨ radius proj ≤ 0)

/-- The voxels whose values `ApplyProjection` is to leave. -/
def OutsideCylinder (volume : Volume Space) (proj : Image2 Space) (j k : ℕ) : Prop :=
  radius proj ≤ 0 ∨ radius proj ^ 2 ≤ volume.positionX k ^ 2 + volume.positionY j ^ 2

theorem rowVisits_and_outside_iff (spacing : 0 < volume.spacing.x)
    (column : k < volume.dims.x) :
    RowVisits volume proj j k ∧ OutsideCylinder volume proj j k ↔
      StartsEarly volume proj j k := by
  have outside : OutsideCylinder volume proj j k ↔
      radius proj ≤ 0 ∨ ¬ InCylinder volume proj j k := by
    rw [OutsideCylinder, InCylinder, not_lt]
  have start : volume.positionX k ≤ -halfChord volume proj j ↔
      ¬ -halfChord volume proj j < volume.positionX k := not_lt.symm
  rw [outside, rowVisits_iff spacing, inCylinder_iff, StartsEarly, start]
  tauto

end Chord

/-! ## The loops and the ray tracer -/

/-- **The loops make the calls of the ray tracer.** They make one addition for each voxel
they pass, of what the ray through its centre meets, they pass only voxels of the volume,
and every voxel of the cylinder between the exterior extents. -/
theorem applyProjection_rayTraced [LawfulSqrt Space]
    (interpolate : Image2 Space → Tuple2 Space → Space)
    (projector : ParallelBackProjectorCpu Space) (constructed : projector.volume = some volume)
    (spacingZ : 0 < volume.spacing.z) (spacingX : 0 < volume.spacing.x)
    (proj : Image2 Space) (angle : Space) :
    let made := increments interpolate projector.scalingFactor volume proj angle
    let traced := fun i j k => projector.scalingFactor *
      interpolate proj (ParallelRayTracer.intersect (volume.position i j k)
        (-Cmath.sin angle, Cmath.cos angle))
    (∀ addition ∈ made, ∃ i j k, InVolume volume i j k ∧
        addition = (volume.flatIndex i j k, traced i j k)) ∧
      (made.map Prod.fst).Nodup ∧
      (∀ i j k, InVolume volume i j k → InCylinder volume proj j k →
        proj.exteriorExtents.v.lower < volume.positionZ i →
        volume.positionZ i < proj.exteriorExtents.v.upper →
          volume.flatIndex i j k ∈ made.map Prod.fst) ∧
      ∃ after, (projector.applyProjection interpolate proj angle).volume = some after ∧
        ∀ i j k, InVolume volume i j k →
          after.voxel i j k = volume.voxel i j k +
            if volume.flatIndex i j k ∈ made.map Prod.fst then traced i j k else 0 := by
  intro made traced
  have list : made = (visited volume proj).map
      (increment interpolate projector.scalingFactor volume proj angle) :=
    increments_eq _ _ _ _ _ spacingZ
  have passed {i j k : ℕ} (inside : InVolume volume i j k) :
      volume.flatIndex i j k ∈ made.map Prod.fst ↔ (i, j, k) ∈ visited volume proj := by
    rw [list, List.map_map, List.mem_map]
    constructor
    · rintro ⟨⟨i', j', k'⟩, member, same⟩
      have bounds := (mem_visited volume proj).mp member
      rw [← flatIndex_inj bounds.1.2 inside.2.1 (lt_of_rowVisits _ _ bounds.2.2) inside.2.2 same]
      exact member
    · intro member
      exact ⟨(i, j, k), member, rfl⟩
  refine ⟨?_, increments_nodup _ _ spacingZ _ _, ?_, ?_⟩
  · intro addition member
    rw [list] at member
    obtain ⟨⟨i, j, k⟩, visits, rfl⟩ := List.mem_map.mp member
    obtain ⟨⟨slice, line⟩, -, column⟩ := (mem_visited volume proj).mp visits
    exact ⟨i, j, k, ⟨slice, line, lt_of_rowVisits _ _ column⟩, rfl⟩
  · intro i j k inside inCylinder above below
    rw [passed inside, mem_visited]
    exact ⟨⟨inside.1, inside.2.1⟩, ⟨above, below⟩,
      rowVisits_of_inCylinder spacingX inside.2.2 inCylinder⟩
  · refine ⟨volume.accumulate made, ?_, ?_⟩
    · rw [applyProjection, constructed]
      rfl
    · intro i j k inside
      rw [accumulate_increments_voxel _ _ spacingZ _ _ inside.2.1 inside.2.2, share]
      exact congrArg (volume.voxel i j k + ·) (if_congr (passed inside).symm rfl rfl)

/-! ## Voxels outside the cylinder -/

section Outside

variable (interpolate : Image2 Space → Tuple2 Space → Space) (scalingFactor : Space)

/-- Voxels outside the cylinder of a projection keep their values when it is applied, and
voxels outside the cylinders of all projections stay zero. -/
structure LeavesOutside (volume : Volume Space) (projections : List (Image2 Space × Space)) :
    Prop where
  unchanged : ∀ before proj angle after, projections = before ++ (proj, angle) :: after →
    ∀ i j k, InVolume volume i j k → OutsideCylinder volume proj j k →
      (volumeAfter interpolate scalingFactor volume (before ++ [(proj, angle)])).voxel i j k =
        (volumeAfter interpolate scalingFactor volume before).voxel i j k
  zero : (∀ i j k, volume.voxel i j k = 0) → ∀ i j k, InVolume volume i j k →
    (∀ projection ∈ projections, OutsideCylinder volume projection.1 j k) →
      (volumeAfter interpolate scalingFactor volume projections).voxel i j k = 0

/-- Nothing is found of a projection where a row starts early. -/
def NothingFoundEarly (volume : Volume Space) (proj : Image2 Space) (angle : Space) : Prop :=
  ∀ i j k, InVolume volume i j k → SliceInside volume proj i → StartsEarly volume proj j k →
    contribution interpolate scalingFactor proj angle (volume.position i j k) = 0

variable {interpolate scalingFactor} [LawfulSqrt Space]

/-- Nothing is added outside the cylinder exactly when nothing is found there. -/
theorem share_eq_zero_iff (spacing : 0 < volume.spacing.x) {angle : Space} :
    (∀ i j k, InVolume volume i j k → OutsideCylinder volume proj j k →
      share interpolate scalingFactor volume proj angle i j k = 0) ↔
      NothingFoundEarly interpolate scalingFactor volume proj angle := by
  constructor
  · intro nothing i j k inside slice early
    obtain ⟨visits, outside⟩ := (rowVisits_and_outside_iff spacing inside.2.2).mpr early
    have zero := nothing i j k inside outside
    rwa [share, if_pos] at zero
    exact (mem_visited volume proj).mpr ⟨⟨inside.1, inside.2.1⟩, slice, visits⟩
  · intro nothing i j k inside outside
    unfold share
    split_ifs with passed
    · obtain ⟨-, slice, visits⟩ := (mem_visited volume proj).mp passed
      exact nothing i j k inside slice
        ((rowVisits_and_outside_iff spacing inside.2.2).mp ⟨visits, outside⟩)
    · rfl

omit [LawfulSqrt Space] in
/-- What one more projection adds. -/
theorem volumeAfter_append_voxel (spacing : 0 < volume.spacing.z)
    {before : List (Image2 Space × Space)} {angle : Space} (inside : InVolume volume i j k) :
    (volumeAfter interpolate scalingFactor volume (before ++ [(proj, angle)])).voxel i j k =
      (volumeAfter interpolate scalingFactor volume before).voxel i j k +
        share interpolate scalingFactor volume proj angle i j k := by
  rw [volumeAfter_voxel _ _ _ _ spacing inside.2.1 inside.2.2,
    volumeAfter_voxel _ _ _ _ spacing inside.2.1 inside.2.2, List.map_append, List.sum_append,
    List.map_singleton, List.sum_singleton, add_assoc]

/-- Voxels outside the cylinder keep their values when nothing is found of any projection where
a row starts early, and not otherwise. -/
theorem leavesOutside_iff_nothingFoundEarly (spacingZ : 0 < volume.spacing.z)
    (spacingX : 0 < volume.spacing.x) (projections : List (Image2 Space × Space)) :
    LeavesOutside interpolate scalingFactor volume projections ↔
      ∀ projection ∈ projections,
        NothingFoundEarly interpolate scalingFactor volume projection.1 projection.2 := by
  constructor
  · intro leaves projection member
    obtain ⟨before, after, split⟩ := List.append_of_mem member
    rw [← share_eq_zero_iff spacingX]
    intro i j k inside outside
    have unchanged := leaves.unchanged before _ _ after split i j k inside outside
    rw [volumeAfter_append_voxel spacingZ inside] at unchanged
    exact left_eq_add.mp unchanged.symm
  · intro nothing
    refine ⟨?_, ?_⟩
    · intro before proj angle after split i j k inside outside
      have member : (proj, angle) ∈ projections := by
        rw [split]
        exact List.mem_append_right _ List.mem_cons_self
      rw [volumeAfter_append_voxel spacingZ inside,
        (share_eq_zero_iff spacingX).mpr (nothing _ member) i j k inside outside, add_zero]
    · intro empty i j k inside outside
      rw [volumeAfter_voxel _ _ _ _ spacingZ inside.2.1 inside.2.2, empty, zero_add]
      refine List.sum_eq_zero fun added member => ?_
      obtain ⟨projection, mem, rfl⟩ := List.mem_map.mp member
      exact (share_eq_zero_iff spacingX).mpr (nothing _ mem) i j k inside (outside _ mem)

end Outside

end ParallelBackProjectorCpu

/-! ## Where pixels are read -/

/-- The interpolators, by the names that the runner has for them. -/
inductive PixelInterpolation where
  | nearest
  | bilinear
  | bilinearWithFallback
  deriving DecidableEq, Repr

namespace PixelInterpolation

variable {Space : Type} [Field Space] [LinearOrder Space]

/-- A point between the extents of a projection that an interpolator uses. -/
def Reads : PixelInterpolation → Image2 Space → Tuple2 Space → Prop
  | .nearest, proj, u => ¬ NearestNeighborPixelInterpolator.Outside proj u
  | .bilinear, proj, u => ¬ BilinearPixelInterpolator.Outside proj u
  | .bilinearWithFallback, proj, u =>
      ¬ BilinearPixelInterpolator.Outside proj u ∨
        ¬ NearestNeighborPixelInterpolator.Outside proj u

/-- The pixels themselves do not matter for this. -/
theorem reads_setPixels (method : PixelInterpolation) (proj : Image2 Space)
    (pixel : ℤ → ℤ → Space) (u : Tuple2 Space) :
    method.Reads { proj with pixel := pixel } u ↔ method.Reads proj u := by
  cases method with
  | nearest => exact Iff.rfl
  | bilinear => exact Iff.rfl
  | bilinearWithFallback => exact Iff.rfl

variable [FloorRing Space]

def interpolate : PixelInterpolation → Image2 Space → Tuple2 Space → Space
  | .nearest => NearestNeighborPixelInterpolator.interpolate
  | .bilinear => BilinearPixelInterpolator.interpolate
  | .bilinearWithFallback => BilinearPixelInterpolatorWithFallback.interpolate

variable {method : PixelInterpolation} {proj : Image2 Space} {u : Tuple2 Space}

/-- Where no pixels are read there is nothing. -/
theorem interpolate_of_not_reads (unread : ¬ method.Reads proj u) :
    method.interpolate proj u = 0 := by
  cases method with
  | nearest => exact NearestNeighborPixelInterpolator.interpolate_of_outside (not_not.mp unread)
  | bilinear => exact BilinearPixelInterpolator.interpolate_of_outside (not_not.mp unread)
  | bilinearWithFallback =>
      obtain ⟨bilinear, nearest⟩ := not_or.mp unread
      exact (BilinearPixelInterpolatorWithFallback.interpolate_of_outside
        (not_not.mp bilinear)).trans
          (NearestNeighborPixelInterpolator.interpolate_of_outside (not_not.mp nearest))

/-- A mean of ones is one. -/
theorem blend_of_ones (ones : ∀ i j, proj.pixel i j = 1) :
    BilinearPixelInterpolator.blend proj u = 1 := by
  simp only [BilinearPixelInterpolator.blend, BilinearPixelInterpolator.neighbour, ones, lerp]
  ring

/-- Where pixels are read, a projection of ones is one. -/
theorem interpolate_of_reads (ones : ∀ i j, proj.pixel i j = 1) (reads : method.Reads proj u) :
    method.interpolate proj u = 1 := by
  have nearest (inside : ¬ NearestNeighborPixelInterpolator.Outside proj u) :
      NearestNeighborPixelInterpolator.interpolate proj u = 1 := by
    rw [NearestNeighborPixelInterpolator.interpolate_of_inside inside, ones]
  have bilinear (inside : ¬ BilinearPixelInterpolator.Outside proj u) :
      BilinearPixelInterpolator.interpolate proj u = 1 := by
    rw [BilinearPixelInterpolator.interpolate_of_inside inside, blend_of_ones ones]
  cases method with
  | nearest => exact nearest reads
  | bilinear => exact bilinear reads
  | bilinearWithFallback =>
      by_cases outside : BilinearPixelInterpolator.Outside proj u
      · refine (BilinearPixelInterpolatorWithFallback.interpolate_of_outside outside).trans ?_
        exact nearest (reads.resolve_left (not_not.mpr outside))
      · refine (BilinearPixelInterpolatorWithFallback.interpolate_of_inside outside).trans ?_
        exact bilinear outside

end PixelInterpolation

namespace ParallelBackProjectorCpu

section Frames

variable {Space : Type} [Field Space] [LinearOrder Space] [IsStrictOrderedRing Space]
variable [FloorRing Space] [Cmath Space] [LawfulSqrt Space]

/-- The size, the position and the angle of a projection, without its pixels. -/
def frame (projection : Image2 Space × Space) :
    Tuple2 ℕ × Tuple2 Space × Tuple2 Space × Space :=
  (projection.1.dims, projection.1.spacing, projection.1.origin, projection.2)

/-- No voxel where a row starts early is projected to where pixels are read. -/
def NothingReadEarly (method : PixelInterpolation) (volume : Volume Space) (proj : Image2 Space)
    (angle : Space) : Prop :=
  ∀ i j k, InVolume volume i j k → SliceInside volume proj i → StartsEarly volume proj j k →
    ¬ method.Reads proj
      (ParallelRayTracer.intersect (volume.position i j k) (reverseNormal angle))

omit [IsStrictOrderedRing Space] [FloorRing Space] [LawfulSqrt Space] in
theorem nothingReadEarly_congr {method : PixelInterpolation} {volume : Volume Space}
    {projection exposure : Image2 Space × Space} (same : frame exposure = frame projection)
    (nothing : NothingReadEarly method volume projection.1 projection.2) :
    NothingReadEarly method volume exposure.1 exposure.2 := by
  obtain ⟨⟨dims, spacing, origin, pixel⟩, angle⟩ := projection
  obtain ⟨⟨dims', spacing', origin', pixel'⟩, angle'⟩ := exposure
  obtain ⟨rfl, rfl, rfl, rfl⟩ : dims' = dims ∧ spacing' = spacing ∧ origin' = origin ∧
      angle' = angle := by
    simpa only [frame, Prod.mk.injEq] using same
  intro i j k inside slice early reads
  exact nothing i j k inside slice early
    ((method.reads_setPixels ⟨dims', spacing', origin', pixel⟩ pixel' _).mp reads)

/-- **Voxels outside the cylinder keep their values, whatever the pixels are, exactly when no
voxel where a row starts early is projected to where pixels are read.** -/
theorem leavesOutside_iff (method : PixelInterpolation) {volume : Volume Space}
    (spacingZ : 0 < volume.spacing.z) (spacingX : 0 < volume.spacing.x) (scalingFactor : Space)
    (projections : List (Image2 Space × Space)) :
    (∀ exposures, exposures.map frame = projections.map frame →
        LeavesOutside method.interpolate scalingFactor volume exposures) ↔
      scalingFactor = 0 ∨ ∀ projection ∈ projections,
        NothingReadEarly method volume projection.1 projection.2 := by
  constructor
  · intro leaves
    rw [or_iff_not_imp_left]
    intro nonzero projection member i j k inside slice early reads
    let white : Image2 Space × Space → Image2 Space × Space := fun exposure =>
      ({ exposure.1 with pixel := fun _ _ => 1 }, exposure.2)
    have framed : (projections.map white).map frame = projections.map frame := by
      rw [List.map_map]
      rfl
    have found := (leavesOutside_iff_nothingFoundEarly spacingZ spacingX _).mp
      (leaves _ framed) (white projection) (List.mem_map_of_mem member) i j k inside slice early
    have one : method.interpolate (white projection).1
        (ParallelRayTracer.intersect (volume.position i j k) (reverseNormal projection.2)) = 1 :=
      PixelInterpolation.interpolate_of_reads (fun _ _ => rfl)
        ((method.reads_setPixels projection.1 _ _).mpr reads)
    rw [contribution, one, mul_one] at found
    exact nonzero found
  · intro unread exposures framed
    rw [leavesOutside_iff_nothingFoundEarly spacingZ spacingX]
    intro exposure member i j k inside slice early
    rw [contribution]
    rcases unread with zero | nothing
    · rw [zero, zero_mul]
    · have among : frame exposure ∈ projections.map frame :=
        framed ▸ List.mem_map_of_mem member
      obtain ⟨projection, mem, same⟩ := List.mem_map.mp among
      have unread := nothingReadEarly_congr same.symm (nothing projection mem) i j k inside slice
        early
      rw [PixelInterpolation.interpolate_of_not_reads unread, mul_zero]

end Frames

/-! ## A volume of one voxel -/

/-- A voxel on the x axis. -/
def oneVoxel {Space : Type*} [Field Space] (x : Space) : Volume Space :=
  Volume.construct ⟨1, 1, 1⟩ ⟨1, 1, 1⟩ ⟨0, 0, x⟩

/-- A projection of three pixels, whose cylinder has radius one. -/
def threePixels {Space : Type*} [Field Space] : Image2 Space where
  dims := ⟨1, 3⟩
  spacing := ⟨1, 1⟩
  origin := ⟨0, -1⟩
  pixel _ _ := 1

theorem radius_threePixels : radius (threePixels : Image2 ℝ) = 1 := by
  norm_num [radius, threePixels, Image2.interiorExtents, interiorExtent]

theorem halfChord_oneVoxel (x : ℝ) : halfChord (oneVoxel x) threePixels 0 = 1 := by
  rw [halfChord, radius_threePixels]
  norm_num [oneVoxel, Volume.construct, Volume.positionY, Cmath.sqrt]

theorem interpolate_threePixels :
    NearestNeighborPixelInterpolator.interpolate threePixels (⟨0, 0⟩ : Tuple2 ℝ) = 1 := by
  have inside : ¬ NearestNeighborPixelInterpolator.Outside threePixels (⟨0, 0⟩ : Tuple2 ℝ) := by
    simp only [NearestNeighborPixelInterpolator.Outside, Image2.exteriorExtents, exteriorExtent,
      interiorExtent, threePixels]
    norm_num
  rw [NearestNeighborPixelInterpolator.interpolate_of_inside inside]
  rfl

/-- A voxel half a spacing outside the circle is not left alone. -/
theorem not_leavesOutside_early :
    ¬ LeavesOutside NearestNeighborPixelInterpolator.interpolate 1 (oneVoxel (-3 / 2 : ℝ))
      [(threePixels, 0)] := by
  intro leaves
  have inside : InVolume (oneVoxel (-3 / 2 : ℝ)) 0 0 0 := ⟨one_pos, one_pos, one_pos⟩
  have outside : OutsideCylinder (oneVoxel (-3 / 2 : ℝ)) threePixels 0 0 := by
    right
    rw [radius_threePixels]
    norm_num [oneVoxel, Volume.construct, Volume.positionX, Volume.positionY]
  have visits : RowVisits (oneVoxel (-3 / 2 : ℝ)) threePixels 0 0 := by
    rw [rowVisits_iff one_pos, halfChord_oneVoxel, radius_threePixels]
    norm_num [oneVoxel, Volume.construct, Volume.positionX, Volume.positionY]
  have slice : SliceInside (oneVoxel (-3 / 2 : ℝ)) threePixels 0 := by
    norm_num [SliceInside, oneVoxel, Volume.construct, Volume.positionZ, threePixels,
      Image2.exteriorExtents, exteriorExtent, interiorExtent]
  have passed : (0, 0, 0) ∈ visited (oneVoxel (-3 / 2 : ℝ)) threePixels :=
    (mem_visited _ _).mpr ⟨⟨one_pos, one_pos⟩, slice, visits⟩
  have unchanged := leaves.unchanged [] threePixels 0 [] rfl 0 0 0 inside outside
  rw [volumeAfter_append_voxel one_pos inside] at unchanged
  have zero := left_eq_add.mp unchanged.symm
  rw [share, if_pos passed, contribution] at zero
  have centre : ParallelRayTracer.intersect ((oneVoxel (-3 / 2 : ℝ)).position 0 0 0)
      (reverseNormal 0) = ⟨0, 0⟩ := by
    simp [ParallelRayTracer.intersect, reverseNormal, oneVoxel, Volume.construct, Volume.position,
      Volume.positionX, Volume.positionY, Volume.positionZ, Cmath.sin, Cmath.cos]
  rw [centre, interpolate_threePixels] at zero
  norm_num at zero

/-- Two rows of four voxels. The first voxel is inside the circle, and the second row outside. -/
def twoRows {Space : Type*} [Field Space] : Volume Space :=
  Volume.construct ⟨1, 2, 4⟩ ⟨1, 1 + 1, 1⟩ ⟨0, 0, -oneHalf Space⟩

/-- The rows of the circle begin inside it. -/
theorem not_startsEarly_twoRows (j k : ℕ) : ¬ StartsEarly (twoRows : Volume ℝ) threePixels j k := by
  rintro ⟨meets, -, -, behind | negative⟩
  · rw [radius_threePixels] at meets
    have row : j = 0 := by
      by_contra other
      have far : (1 : ℝ) ≤ j := by exact_mod_cast Nat.one_le_iff_ne_zero.mpr other
      norm_num [twoRows, oneHalf, Volume.construct, Volume.positionY] at meets
      nlinarith
    have chord : halfChord (twoRows : Volume ℝ) threePixels 0 = 1 := by
      rw [halfChord, radius_threePixels]
      norm_num [twoRows, oneHalf, Volume.construct, Volume.positionY, Cmath.sqrt]
    have column : (0 : ℝ) ≤ k := Nat.cast_nonneg k
    rw [row, chord] at behind
    norm_num [twoRows, oneHalf, Volume.construct, Volume.positionX] at behind
    linarith
  · rw [radius_threePixels] at negative
    norm_num at negative

/-- The voxels behind the end of the circle and those of the second row are left alone. -/
theorem leavesOutside_twoRows :
    ((InVolume (twoRows : Volume ℝ) 0 0 2 ∧
        OutsideCylinder (twoRows : Volume ℝ) threePixels 0 2) ∧
      InVolume (twoRows : Volume ℝ) 0 1 0 ∧
        OutsideCylinder (twoRows : Volume ℝ) threePixels 1 0) ∧
    ∀ exposures : List (Image2 ℝ × ℝ),
      exposures.map frame = [(threePixels, 0), (threePixels, 1)].map frame →
        LeavesOutside NearestNeighborPixelInterpolator.interpolate 1 twoRows exposures := by
  refine ⟨⟨⟨⟨one_pos, two_pos, by decide⟩, Or.inr ?_⟩, ⟨one_pos, by decide, by decide⟩,
    Or.inr ?_⟩, ?_⟩
  · rw [radius_threePixels]
    norm_num [twoRows, oneHalf, Volume.construct, Volume.positionX, Volume.positionY]
  · rw [radius_threePixels]
    norm_num [twoRows, oneHalf, Volume.construct, Volume.positionX, Volume.positionY]
  · refine (leavesOutside_iff .nearest one_pos one_pos 1 _).mpr (Or.inr ?_)
    intro projection member i j k inside slice early
    rcases List.mem_cons.mp member with rfl | later
    · exact absurd early (not_startsEarly_twoRows j k)
    · obtain rfl := List.mem_singleton.mp later
      exact absurd early (not_startsEarly_twoRows j k)

/-- The two voxels inside the circle get what their rays meet. -/
theorem twoRows_rayTraced : ∃ after,
    ((⟨1, some twoRows⟩ : ParallelBackProjectorCpu ℝ).applyProjection
      NearestNeighborPixelInterpolator.interpolate threePixels 0).volume = some after ∧
      after.voxel 0 0 0 = 1 ∧ after.voxel 0 0 1 = 1 := by
  obtain ⟨-, -, passed, after, applied, values⟩ := applyProjection_rayTraced
    NearestNeighborPixelInterpolator.interpolate (⟨1, some twoRows⟩ : ParallelBackProjectorCpu ℝ)
    rfl one_pos one_pos threePixels 0
  have lower : threePixels.exteriorExtents.v.lower < (twoRows : Volume ℝ).positionZ 0 := by
    norm_num [twoRows, oneHalf, Volume.construct, Volume.positionZ, threePixels,
      Image2.exteriorExtents, exteriorExtent, interiorExtent]
  have upper : (twoRows : Volume ℝ).positionZ 0 < threePixels.exteriorExtents.v.upper := by
    norm_num [twoRows, oneHalf, Volume.construct, Volume.positionZ, threePixels,
      Image2.exteriorExtents, exteriorExtent, interiorExtent]
  have value {k : ℕ} (column : k < 4) (inside : InCylinder (twoRows : Volume ℝ) threePixels 0 k) :
      after.voxel 0 0 k = 1 := by
    have inVolume : InVolume (twoRows : Volume ℝ) 0 0 k := ⟨one_pos, two_pos, column⟩
    have centre : ParallelRayTracer.intersect ((twoRows : Volume ℝ).position 0 0 k)
        (-Cmath.sin (0 : ℝ), Cmath.cos 0) = ⟨0, 0⟩ := by
      simp [ParallelRayTracer.intersect, twoRows, oneHalf, Volume.construct, Volume.position,
        Volume.positionX, Volume.positionY, Volume.positionZ, Cmath.sin, Cmath.cos]
    have empty : (twoRows : Volume ℝ).voxel 0 0 k = 0 := rfl
    rw [values 0 0 k inVolume, if_pos (passed 0 0 k inVolume inside lower upper)]
    dsimp only
    rw [centre, interpolate_threePixels, empty]
    norm_num
  refine ⟨after, applied, value (by decide) ?_, value (by decide) ?_⟩
  · rw [InCylinder, radius_threePixels]
    norm_num [twoRows, oneHalf, Volume.construct, Volume.positionX, Volume.positionY]
  · rw [InCylinder, radius_threePixels]
    norm_num [twoRows, oneHalf, Volume.construct, Volume.positionX, Volume.positionY]

end ParallelBackProjectorCpu

end AthabascaRecon
