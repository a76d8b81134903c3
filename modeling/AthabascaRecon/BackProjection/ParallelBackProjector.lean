import AthabascaRecon.Bonelab.Image
import AthabascaRecon.Util.Subvolumer
import Mathlib.Algebra.BigOperators.Group.List.Basic
import Mathlib.Data.List.Nodup

/-!
# The back projector

`ParallelBackProjectorCpu` holds a volume, which does not exist when it was allocated
with zero slices. `ApplyProjection` walks through the slices between the exterior extents
of the projection, through the rows that meet the circle, and with a pointer through the
voxels of a row. A run of its loops is the list of the additions they make
(`increments`). The loops visit every voxel at most once and add to it what a ray
through its centre meets (`increments_eq`), so that a volume is known voxel by voxel
(`volumeAfter_voxel`).
-/

set_option autoImplicit false

namespace AthabascaRecon

/-- The functions that the code takes from `<cmath>`. -/
class Cmath (Space : Type*) where
  sqrt : Space → Space
  sin : Space → Space
  cos : Space → Space

/-- `bonelab::Image<3,TValue,TIndex,TSpace>`, with its data as one array. -/
structure Volume (Space : Type*) where
  dims : Tuple3 ℕ
  spacing : Tuple3 Space
  origin : Tuple3 Space
  data : ℕ → Space

namespace Volume

variable {Space : Type*}

/-- `construct` sets all data to zero. -/
def construct [Zero Space] (dims : Tuple3 ℕ) (spacing origin : Tuple3 Space) : Volume Space where
  dims := dims
  spacing := spacing
  origin := origin
  data _ := 0

def flatIndex (volume : Volume Space) (i j k : ℕ) : ℕ :=
  (i * volume.dims.y + j) * volume.dims.x + k

def voxel (volume : Volume Space) (i j k : ℕ) : Space :=
  volume.data (volume.flatIndex i j k)

/-- The additions `*vol += value`, in their order. -/
def accumulate [Add Space] (volume : Volume Space) (increments : List (ℕ × Space)) :
    Volume Space :=
  { volume with
    data := increments.foldl
      (fun data increment =>
        Function.update data increment.1 (data increment.1 + increment.2)) volume.data }

/-- The slices that a writer finds in the data. -/
def slices (volume : Volume Space) : List (List Space) :=
  (List.range volume.dims.z).map fun i =>
    (List.range (volume.dims.y * volume.dims.x)).map fun offset =>
      volume.data (i * (volume.dims.y * volume.dims.x) + offset)

section Position

variable [Add Space] [Mul Space] [NatCast Space]

def positionZ (volume : Volume Space) (i : ℕ) : Space :=
  volume.origin.z + (i : Space) * volume.spacing.z

def positionY (volume : Volume Space) (j : ℕ) : Space :=
  volume.origin.y + (j : Space) * volume.spacing.y

def positionX (volume : Volume Space) (k : ℕ) : Space :=
  volume.origin.x + (k : Space) * volume.spacing.x

/-- The centre of a voxel. -/
def position (volume : Volume Space) (i j k : ℕ) : Tuple3 Space where
  z := volume.positionZ i
  y := volume.positionY j
  x := volume.positionX k

end Position

end Volume

namespace ParallelRayTracer

/-- The intersection of a ray with the projection. -/
def intersect {Space : Type*} [Add Space] [Mul Space] (position : Tuple3 Space)
    (reverseNormal : Space × Space) : Tuple2 Space where
  v := position.z
  u := reverseNormal.1 * position.x + reverseNormal.2 * position.y

end ParallelRayTracer

structure ParallelBackProjectorCpu (Space : Type*) where
  scalingFactor : Space
  /-- `m_Volume`, when it is constructed. -/
  volume : Option (Volume Space)

namespace ParallelBackProjectorCpu

variable {Space : Type*} [Field Space] [LinearOrder Space] [FloorRing Space] [Cmath Space]

/-- A back projector whose scaling factor was set. -/
def create (scalingFactor : Space) : ParallelBackProjectorCpu Space where
  scalingFactor := scalingFactor
  volume := none

/-- `AllocateVolume`. There is no result when an assertion fails. Zero slices is
allowed. -/
def allocateVolume (projector : ParallelBackProjectorCpu Space) (volumeDims : Tuple3 ℕ)
    (voxelSize volumeOrigin : Tuple3 Space) : Option (ParallelBackProjectorCpu Space) :=
  if projector.volume.isSome then none
  else if ¬ (0 < volumeDims.y ∧ 0 < volumeDims.x) then none
  else if ¬ (0 < voxelSize.z ∧ 0 < voxelSize.y ∧ 0 < voxelSize.x) then none
  else if volumeDims.z = 0 then some projector
  else some { projector with volume := some (Volume.construct volumeDims voxelSize volumeOrigin) }

/-! ## The loops of `ApplyProjection` -/

/-- The square of the radius that the projection covers. -/
def circleRadius2 (proj : Image2 Space) : Space :=
  min (-proj.interiorExtents.u.lower) proj.interiorExtents.u.upper ^ 2

/-- The negated sine and the cosine of the angle. -/
def reverseNormal (angle : Space) : Space × Space := (-Cmath.sin angle, Cmath.cos angle)

/-- The index of the voxel where the walk through a row begins. -/
def startIndex (volume : Volume Space) (circleRadiusX : Space) : ℤ :=
  max 0 ⌊(-circleRadiusX - volume.origin.x) / volume.spacing.x⌋

/-- The index of the voxel before which the walk through a row ends. -/
def stopIndex (volume : Volume Space) (circleRadiusX : Space) : ℤ :=
  min (volume.dims.x : ℤ) ⌈(circleRadiusX - volume.origin.x) / volume.spacing.x⌉

section Loops

variable (interpolate : Image2 Space → Tuple2 Space → Space)
variable (scalingFactor : Space) (volume : Volume Space) (proj : Image2 Space) (angle : Space)

/-- The walk of the pointer `vol` through the voxels of a row. -/
def voxelLoop (intersectionDu : Space) : ℕ → ℕ → Tuple2 Space → List (ℕ × Space)
  | 0, _, _ => []
  | count + 1, vol, intersection =>
      (vol, scalingFactor * interpolate proj intersection) ::
        voxelLoop intersectionDu count (vol + 1)
          { intersection with u := intersection.u + intersectionDu }

/-- The body of the loop over the rows of a slice. -/
def row (i j : ℕ) : List (ℕ × Space) :=
  let normal := reverseNormal angle
  let y := volume.positionY j
  let circleRadiusX2 := circleRadius2 proj - y ^ 2
  if 0 < circleRadiusX2 then
    let circleRadiusX := Cmath.sqrt circleRadiusX2
    let k := startIndex volume circleRadiusX
    let kStop := stopIndex volume circleRadiusX
    let x := volume.origin.x + (k : Space) * volume.spacing.x
    let intersection : Tuple2 Space := ⟨volume.positionZ i, normal.1 * x + normal.2 * y⟩
    voxelLoop interpolate scalingFactor proj (normal.1 * volume.spacing.x) (kStop - k).toNat
      (volume.flatIndex i j k.toNat) intersection
  else []

/-- The loop over the slices, for so many that are left and the index of the first one. -/
def sliceLoop : ℕ → ℕ → List (ℕ × Space)
  | 0, _ => []
  | left + 1, i =>
      if volume.positionZ i ≤ proj.exteriorExtents.v.lower then
        -- `continue`
        sliceLoop left (i + 1)
      else if proj.exteriorExtents.v.upper ≤ volume.positionZ i then
        -- `break`
        []
      else
        (List.range volume.dims.y).flatMap
            (row interpolate scalingFactor volume proj angle i) ++
          sliceLoop left (i + 1)

/-- All additions of `ApplyProjection`. -/
def increments : List (ℕ × Space) :=
  sliceLoop interpolate scalingFactor volume proj angle volume.dims.z 0

end Loops

/-- `ApplyProjection` does nothing when zero slices were requested. -/
def applyProjection (interpolate : Image2 Space → Tuple2 Space → Space)
    (projector : ParallelBackProjectorCpu Space) (proj : Image2 Space) (angle : Space) :
    ParallelBackProjectorCpu Space :=
  { projector with
    volume := projector.volume.map fun volume =>
      volume.accumulate (increments interpolate projector.scalingFactor volume proj angle) }

/-- `ApplyProjection` on projections with their angles. -/
def applyProjections (interpolate : Image2 Space → Tuple2 Space → Space)
    (projector : ParallelBackProjectorCpu Space) (projections : List (Image2 Space × Space)) :
    ParallelBackProjectorCpu Space :=
  projections.foldl
    (fun projector projection =>
      projector.applyProjection interpolate projection.1 projection.2) projector

/-- `WriteVolumeData`: the slices handed to the writer, none when zero were requested. -/
def writeVolumeData (projector : ParallelBackProjectorCpu Space) : List (List Space) :=
  match projector.volume with
  | none => []
  | some volume => volume.slices

/-! ## The voxels of a run -/

section Voxels

variable (interpolate : Image2 Space → Tuple2 Space → Space)
variable (scalingFactor : Space) (volume : Volume Space) (proj : Image2 Space) (angle : Space)

/-- What `ApplyProjection` is to add to a voxel: what the ray through its centre meets. -/
def contribution (position : Tuple3 Space) : Space :=
  scalingFactor *
    interpolate proj (ParallelRayTracer.intersect position (reverseNormal angle))

/-- The slice lies between the exterior extents. -/
def SliceInside (i : ℕ) : Prop :=
  proj.exteriorExtents.v.lower < volume.positionZ i ∧
    volume.positionZ i < proj.exteriorExtents.v.upper

instance (i : ℕ) : Decidable (SliceInside volume proj i) := instDecidableAnd

/-- The indices of the voxels that the pointer passes in a row. -/
def rowVoxels (j : ℕ) : List ℕ :=
  let circleRadiusX2 := circleRadius2 proj - volume.positionY j ^ 2
  if 0 < circleRadiusX2 then
    let circleRadiusX := Cmath.sqrt circleRadiusX2
    List.range' (startIndex volume circleRadiusX).toNat
      (stopIndex volume circleRadiusX - startIndex volume circleRadiusX).toNat
  else []

/-- The voxels that the loops pass, in their order. -/
def visited : List (ℕ × ℕ × ℕ) :=
  (List.range volume.dims.z).flatMap fun i =>
    if SliceInside volume proj i then
      (List.range volume.dims.y).flatMap fun j =>
        (rowVoxels volume proj j).map fun k => (i, j, k)
    else []

/-- The addition to a voxel. -/
def increment (index : ℕ × ℕ × ℕ) : ℕ × Space :=
  (volume.flatIndex index.1 index.2.1 index.2.2,
    contribution interpolate scalingFactor proj angle
      (volume.position index.1 index.2.1 index.2.2))

/-! ### The loops -/

omit [Cmath Space] in
theorem startIndex_nonneg (circleRadiusX : Space) : 0 ≤ startIndex volume circleRadiusX :=
  le_max_left _ _

omit [LinearOrder Space] [FloorRing Space] [Cmath Space] in
theorem voxelLoop_eq (intersectionDu : Space) (count vol : ℕ) (intersection : Tuple2 Space) :
    voxelLoop interpolate scalingFactor proj intersectionDu count vol intersection =
      (List.range count).map fun n =>
        (vol + n, scalingFactor * interpolate proj
          ⟨intersection.v, intersection.u + (n : Space) * intersectionDu⟩) := by
  induction count generalizing vol intersection with
  | zero => rfl
  | succ count ih =>
      rw [voxelLoop, ih, List.range_succ_eq_map, List.map_cons, List.map_map]
      congr 1
      · simp
      · apply List.map_congr_left
        intro n _
        have pointer : vol + 1 + n = vol + (n + 1) := by omega
        have moved : intersection.u + intersectionDu + (n : Space) * intersectionDu =
            intersection.u + ((n + 1 : ℕ) : Space) * intersectionDu := by
          push_cast
          ring
        simp only [Function.comp_apply, Nat.succ_eq_add_one, pointer, moved]

/-- The intersection that is moved along with the pointer stays the one of the ray. -/
theorem row_eq (i j : ℕ) : row interpolate scalingFactor volume proj angle i j =
    (rowVoxels volume proj j).map fun k =>
      increment interpolate scalingFactor volume proj angle (i, j, k) := by
  unfold row rowVoxels
  dsimp only
  split_ifs with meets
  · rw [voxelLoop_eq, List.range'_eq_map_range, List.map_map]
    apply List.map_congr_left
    intro n _
    obtain ⟨start, startEq⟩ := Int.eq_ofNat_of_zero_le
      (startIndex_nonneg volume (Cmath.sqrt (circleRadius2 proj - volume.positionY j ^ 2)))
    rw [startEq]
    have pointer : volume.flatIndex i j start + n = volume.flatIndex i j (start + n) := by
      simp only [Volume.flatIndex]
      omega
    simp only [Function.comp_apply, increment, contribution, ParallelRayTracer.intersect,
      Volume.position, Volume.positionX, Int.toNat_natCast, Int.cast_natCast, pointer]
    push_cast
    ring_nf
  · rfl

/-- Behind the slice at which the loop breaks there is none between the extents. -/
theorem sliceLoop_eq (spacing : 0 < volume.spacing.z) [IsStrictOrderedRing Space] (left i : ℕ) :
    sliceLoop interpolate scalingFactor volume proj angle left i =
      (List.range' i left).flatMap fun i =>
        if SliceInside volume proj i then
          (List.range volume.dims.y).flatMap (row interpolate scalingFactor volume proj angle i)
        else [] := by
  induction left generalizing i with
  | zero => rfl
  | succ left ih =>
      rw [sliceLoop, List.range'_succ, List.flatMap_cons]
      by_cases before : volume.positionZ i ≤ proj.exteriorExtents.v.lower
      · have outside : ¬ SliceInside volume proj i := fun inside => inside.1.not_ge before
        rw [if_pos before, if_neg outside, List.nil_append, ih]
      · rw [if_neg before]
        by_cases behind : proj.exteriorExtents.v.upper ≤ volume.positionZ i
        · have outside : ¬ SliceInside volume proj i := fun inside => inside.2.not_ge behind
          rw [if_pos behind, if_neg outside, List.nil_append]
          symm
          rw [List.flatMap_eq_nil_iff]
          intro later member
          rw [List.mem_range'_1] at member
          refine if_neg fun inside => inside.2.not_ge (behind.trans ?_)
          have order : (i : Space) ≤ (later : Space) := Nat.cast_le.mpr (by omega)
          exact add_le_add_right (mul_le_mul_of_nonneg_right order spacing.le) _
        · have inside : SliceInside volume proj i := ⟨not_le.mp before, not_le.mp behind⟩
          rw [if_neg behind, if_pos inside, ih]

/-- **The loops make one addition for each voxel they pass**, and add what the ray
through its centre meets. -/
theorem increments_eq [IsStrictOrderedRing Space] (spacing : 0 < volume.spacing.z) :
    increments interpolate scalingFactor volume proj angle =
      (visited volume proj).map (increment interpolate scalingFactor volume proj angle) := by
  rw [increments, sliceLoop_eq _ _ _ _ _ spacing, visited, List.map_flatMap,
    ← List.range_eq_range']
  congr 1
  funext i
  split_ifs with inside
  · rw [List.map_flatMap]
    congr 1
    funext j
    rw [row_eq, List.map_map]
    rfl
  · rfl

/-! ### Which voxels are passed -/

/-- A voxel of a row that the loops pass, when the slice and the row are passed. -/
def RowVisits (j k : ℕ) : Prop :=
  0 < circleRadius2 proj - volume.positionY j ^ 2 ∧
    startIndex volume (Cmath.sqrt (circleRadius2 proj - volume.positionY j ^ 2)) ≤ k ∧
    (k : ℤ) < stopIndex volume (Cmath.sqrt (circleRadius2 proj - volume.positionY j ^ 2))

instance (j k : ℕ) : Decidable (RowVisits volume proj j k) := instDecidableAnd

theorem mem_rowVoxels {j k : ℕ} :
    k ∈ rowVoxels volume proj j ↔ RowVisits volume proj j k := by
  have nonneg := startIndex_nonneg volume
    (Cmath.sqrt (circleRadius2 proj - volume.positionY j ^ 2))
  unfold rowVoxels RowVisits
  dsimp only
  split_ifs with meets
  · rw [List.mem_range'_1]
    constructor
    · intro member
      refine ⟨meets, ?_, ?_⟩ <;> omega
    · rintro ⟨-, start, stop⟩
      omega
  · simp [meets]

theorem mem_visited {i j k : ℕ} :
    (i, j, k) ∈ visited volume proj ↔
      (i < volume.dims.z ∧ j < volume.dims.y) ∧
        SliceInside volume proj i ∧ RowVisits volume proj j k := by
  rw [visited, List.mem_flatMap]
  constructor
  · rintro ⟨slice, sliceMem, member⟩
    split_ifs at member with inside
    · obtain ⟨line, lineMem, voxel⟩ := List.mem_flatMap.mp member
      obtain ⟨index, visits, same⟩ := List.mem_map.mp voxel
      obtain ⟨rfl, rfl, rfl⟩ : slice = i ∧ line = j ∧ index = k := by simpa using same
      exact ⟨⟨List.mem_range.mp sliceMem, List.mem_range.mp lineMem⟩, inside,
        (mem_rowVoxels volume proj).mp visits⟩
    · simp at member
  · rintro ⟨⟨slice, line⟩, inside, visits⟩
    refine ⟨i, List.mem_range.mpr slice, ?_⟩
    rw [if_pos inside]
    exact List.mem_flatMap.mpr ⟨j, List.mem_range.mpr line,
      List.mem_map.mpr ⟨k, (mem_rowVoxels volume proj).mpr visits, rfl⟩⟩

theorem lt_of_rowVisits {j k : ℕ} (visits : RowVisits volume proj j k) : k < volume.dims.x := by
  have stop := visits.2.2.trans_le (min_le_left _ _)
  exact_mod_cast stop

/-- Lists of elements that tell which list they come from can be joined. -/
theorem nodup_flatMap_of_key {α β : Type*} {indices : List α} {lists : α → List β}
    (key : β → α) (distinct : indices.Nodup) (each : ∀ a ∈ indices, (lists a).Nodup)
    (origin : ∀ a, ∀ b ∈ lists a, key b = a) : (indices.flatMap lists).Nodup := by
  refine List.nodup_flatMap.mpr ⟨each, distinct.imp fun {a a'} differ => ?_⟩
  change List.Disjoint _ _
  rw [List.disjoint_left]
  intro b first second
  exact differ ((origin a b first).symm.trans (origin a' b second))

theorem rowVoxels_nodup (j : ℕ) : (rowVoxels volume proj j).Nodup := by
  unfold rowVoxels
  dsimp only
  split_ifs
  · exact List.nodup_range'
  · exact List.nodup_nil

/-- No voxel is passed twice. -/
theorem visited_nodup : (visited volume proj).Nodup := by
  refine nodup_flatMap_of_key Prod.fst List.nodup_range (fun i _ => ?_) fun i index member => ?_
  · split_ifs
    · refine nodup_flatMap_of_key (fun index => index.2.1) List.nodup_range (fun j _ => ?_) ?_
      · exact (rowVoxels_nodup volume proj j).map fun k k' same => by simpa using same
      · intro j index member
        obtain ⟨k, -, rfl⟩ := List.mem_map.mp member
        rfl
    · exact List.nodup_nil
  · split_ifs at member
    · obtain ⟨j, -, inner⟩ := List.mem_flatMap.mp member
      obtain ⟨k, -, rfl⟩ := List.mem_map.mp inner
      rfl
    · simp at member

end Voxels

/-! ## The voxels of a volume -/

omit [Field Space] [LinearOrder Space] [FloorRing Space] [Cmath Space] in
theorem flatIndex_inj {volume : Volume Space} {i j k i' j' k' : ℕ} (row : j < volume.dims.y)
    (row' : j' < volume.dims.y) (column : k < volume.dims.x) (column' : k' < volume.dims.x)
    (same : volume.flatIndex i j k = volume.flatIndex i' j' k') : (i, j, k) = (i', j', k') := by
  simp only [Volume.flatIndex] at same
  have columns : k = k' := by
    have rest := congrArg (· % volume.dims.x) same
    simpa [Nat.mul_add_mod', Nat.mod_eq_of_lt column, Nat.mod_eq_of_lt column'] using rest
  subst columns
  have lines : i * volume.dims.y + j = i' * volume.dims.y + j' :=
    Nat.eq_of_mul_eq_mul_right (Nat.zero_lt_of_lt column) (Nat.add_right_cancel same)
  have rows : j = j' := by
    have rest := congrArg (· % volume.dims.y) lines
    simpa [Nat.mul_add_mod', Nat.mod_eq_of_lt row, Nat.mod_eq_of_lt row'] using rest
  subst rows
  have slices : i = i' :=
    Nat.eq_of_mul_eq_mul_right (Nat.zero_lt_of_lt row) (Nat.add_right_cancel lines)
  rw [slices]

omit [LinearOrder Space] [FloorRing Space] [Cmath Space] in
theorem accumulate_cons (volume : Volume Space) (increment : ℕ × Space)
    (increments : List (ℕ × Space)) : volume.accumulate (increment :: increments) =
      (volume.accumulate [increment]).accumulate increments := rfl

omit [LinearOrder Space] [FloorRing Space] [Cmath Space] in
theorem accumulate_of_not_mem {increments : List (ℕ × Space)} {index : ℕ}
    (absent : index ∉ increments.map Prod.fst) (volume : Volume Space) :
    (volume.accumulate increments).data index = volume.data index := by
  induction increments generalizing volume with
  | nil => rfl
  | cons increment increments ih =>
      rw [List.map_cons, List.mem_cons, not_or] at absent
      rw [accumulate_cons, ih absent.2]
      exact Function.update_of_ne absent.1 _ _

omit [LinearOrder Space] [FloorRing Space] [Cmath Space] in
/-- An addition made once is made. -/
theorem accumulate_of_mem {increments : List (ℕ × Space)} {index : ℕ} {value : Space}
    (once : (increments.map Prod.fst).Nodup) (made : (index, value) ∈ increments)
    (volume : Volume Space) :
    (volume.accumulate increments).data index = volume.data index + value := by
  induction increments generalizing volume with
  | nil => simp at made
  | cons increment increments ih =>
      rw [List.map_cons, List.nodup_cons] at once
      rw [accumulate_cons]
      rcases List.mem_cons.mp made with rfl | later
      · rw [accumulate_of_not_mem once.1]
        exact Function.update_self _ _ _
      · have differ : index ≠ increment.1 := by
          rintro rfl
          exact once.1 (List.mem_map.mpr ⟨_, later, rfl⟩)
        rw [ih once.2 later]
        exact congrArg (· + value) (Function.update_of_ne differ _ _)

section Voxel

variable (interpolate : Image2 Space → Tuple2 Space → Space)
variable (scalingFactor : Space)

/-- What `ApplyProjection` adds to a voxel. -/
def share (volume : Volume Space) (proj : Image2 Space) (angle : Space) (i j k : ℕ) : Space :=
  if (i, j, k) ∈ visited volume proj then
    contribution interpolate scalingFactor proj angle (volume.position i j k)
  else 0

variable [IsStrictOrderedRing Space] {volume : Volume Space}

theorem increments_nodup (spacing : 0 < volume.spacing.z) (proj : Image2 Space) (angle : Space) :
    ((increments interpolate scalingFactor volume proj angle).map Prod.fst).Nodup := by
  rw [increments_eq _ _ _ _ _ spacing, List.map_map]
  refine List.Nodup.map_on ?_ (visited_nodup volume proj)
  rintro ⟨i, j, k⟩ first ⟨i', j', k'⟩ second same
  rw [mem_visited] at first second
  exact flatIndex_inj first.1.2 second.1.2 (lt_of_rowVisits _ _ first.2.2)
    (lt_of_rowVisits _ _ second.2.2) same

/-- **`ApplyProjection`, voxel by voxel.** -/
theorem accumulate_increments_voxel (spacing : 0 < volume.spacing.z) (proj : Image2 Space)
    (angle : Space) {i j k : ℕ} (row : j < volume.dims.y) (column : k < volume.dims.x) :
    (volume.accumulate (increments interpolate scalingFactor volume proj angle)).voxel i j k =
      volume.voxel i j k + share interpolate scalingFactor volume proj angle i j k := by
  have once := increments_nodup interpolate scalingFactor spacing proj angle
  have made := increments_eq interpolate scalingFactor volume proj angle spacing
  by_cases passed : (i, j, k) ∈ visited volume proj
  · rw [share, if_pos passed]
    refine accumulate_of_mem once ?_ volume
    rw [made]
    exact List.mem_map.mpr ⟨(i, j, k), passed, rfl⟩
  · rw [share, if_neg passed, add_zero]
    refine accumulate_of_not_mem ?_ volume
    rw [made, List.map_map, List.mem_map]
    rintro ⟨⟨i', j', k'⟩, member, same⟩
    have bounds := (mem_visited volume proj).mp member
    refine passed ?_
    rw [← flatIndex_inj bounds.1.2 row (lt_of_rowVisits _ _ bounds.2.2) column same]
    exact member

/-- A volume after projections with their angles were applied. -/
def volumeAfter (volume : Volume Space) (projections : List (Image2 Space × Space)) :
    Volume Space :=
  projections.foldl
    (fun volume projection => volume.accumulate
      (increments interpolate scalingFactor volume projection.1 projection.2)) volume

omit [IsStrictOrderedRing Space] in
theorem applyProjections_eq (projections : List (Image2 Space × Space))
    (projector : ParallelBackProjectorCpu Space) :
    applyProjections interpolate projector projections =
      { projector with
        volume := projector.volume.map fun volume =>
          volumeAfter interpolate projector.scalingFactor volume projections } := by
  induction projections generalizing projector with
  | nil =>
      cases projector with
      | mk scale volume => cases volume <;> rfl
  | cons projection projections ih =>
      rw [applyProjections, List.foldl_cons, ← applyProjections, ih]
      cases projector with
      | mk scale volume => cases volume <;> rfl

omit [IsStrictOrderedRing Space] in
theorem volumeAfter_cons (volume : Volume Space) (projection : Image2 Space × Space)
    (projections : List (Image2 Space × Space)) :
    volumeAfter interpolate scalingFactor volume (projection :: projections) =
      volumeAfter interpolate scalingFactor
        (volume.accumulate
          (increments interpolate scalingFactor volume projection.1 projection.2)) projections :=
  rfl

omit [IsStrictOrderedRing Space] in
@[simp] theorem volumeAfter_dims (projections : List (Image2 Space × Space))
    (volume : Volume Space) :
    (volumeAfter interpolate scalingFactor volume projections).dims = volume.dims := by
  induction projections generalizing volume with
  | nil => rfl
  | cons projection projections ih => exact ih _

/-- **A run of `ApplyProjection`, voxel by voxel.** -/
theorem volumeAfter_voxel (projections : List (Image2 Space × Space)) (volume : Volume Space)
    (spacing : 0 < volume.spacing.z) {i j k : ℕ} (row : j < volume.dims.y)
    (column : k < volume.dims.x) :
    (volumeAfter interpolate scalingFactor volume projections).voxel i j k =
      volume.voxel i j k + (projections.map fun projection =>
        share interpolate scalingFactor volume projection.1 projection.2 i j k).sum := by
  induction projections generalizing volume with
  | nil => simp [volumeAfter]
  | cons projection projections ih =>
      rw [volumeAfter_cons, ih (volume.accumulate _) spacing row column,
        accumulate_increments_voxel _ _ spacing _ _ row column, List.map_cons, List.sum_cons,
        add_assoc]
      rfl

end Voxel

end ParallelBackProjectorCpu

end AthabascaRecon
