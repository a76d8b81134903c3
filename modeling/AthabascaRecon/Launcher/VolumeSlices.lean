import AthabascaRecon.BackProjection.Cylinder
import AthabascaRecon.Engines.ReconstructionRunner

/-!
# The slices of the volume over all passes and threads

`Launch` slices the volume into passes, and the multi-threaded runner slices the volume
of a pass once more, one subvolume for a back projector of each thread. Every back
projector is given the same projections and writes what it holds. The slices that are
written are those of one back projector for the whole volume (`launchSlices_eq`).
-/

set_option autoImplicit false

namespace AthabascaRecon

/-- Subvolumes put one after the other are the volume. -/
theorem Subvolumer.flatten_subvolumes {α : Type*} (slices : List α) {subvolumes : ℕ}
    (positive : 0 < subvolumes) :
    ((List.range subvolumes).map fun i =>
      (slices.drop (startZIndex slices.length subvolumes i)).take
        (subvolumeSlices slices.length subvolumes i)).flatten = slices := by
  have taken : ∀ count ≤ subvolumes, ((List.range count).map fun i =>
      (slices.drop (startZIndex slices.length subvolumes i)).take
        (subvolumeSlices slices.length subvolumes i)).flatten =
          slices.take (startZIndex slices.length subvolumes count) := by
    intro count inside
    induction count with
    | zero => simp
    | succ count ih =>
        rw [List.range_succ, List.map_append, List.flatten_append, ih (by omega),
          startZIndex_succ inside, List.take_add, List.map_singleton, List.flatten_singleton]
  rw [taken subvolumes le_rfl, startZIndex_last positive, List.take_length]

namespace Launcher

open ParallelBackProjectorCpu Subvolumer

variable {Space : Type*} [Field Space] [LinearOrder Space] [FloorRing Space] [Cmath Space]

section Slices

variable (interpolate : Image2 Space → Tuple2 Space → Space) (scalingFactor : Space)
variable (projections : List (Image2 Space × Space))

/-- What one back projector writes of the volume it allocates. -/
def backProjectorSlices (dims : Tuple3 ℕ) (spacing origin : Tuple3 Space) :
    Option (List (List Space)) :=
  ((create scalingFactor).allocateVolume dims spacing origin).map fun projector =>
    (projector.applyProjections interpolate projections).writeVolumeData

/-- What the multi-threaded runner writes. -/
def runnerSlices (numberOfThreads : ℕ) (dims : Tuple3 ℕ) (spacing origin : Tuple3 Space) :
    Option (List (List Space)) :=
  ((List.range numberOfThreads).mapM fun t =>
    backProjectorSlices interpolate scalingFactor projections
      (getSubvolumeDims dims numberOfThreads t) spacing
      (getSubvolumeOrigin dims spacing origin numberOfThreads t)).map List.flatten

/-- What `Launch` writes in all passes. -/
def launchSlices (numberOfVolumeChunks numberOfThreads : ℕ) (dims : Tuple3 ℕ)
    (spacing origin : Tuple3 Space) : Option (List (List Space)) :=
  ((List.range numberOfVolumeChunks).mapM fun pass =>
    runnerSlices interpolate scalingFactor projections numberOfThreads
      (getSubvolumeDims dims numberOfVolumeChunks pass) spacing
      (getSubvolumeOrigin dims spacing origin numberOfVolumeChunks pass)).map List.flatten

/-- The slices of a volume to which the projections were applied. -/
def reconstruction (dims : Tuple3 ℕ) (spacing origin : Tuple3 Space) : List (List Space) :=
  (volumeAfter interpolate scalingFactor (Volume.construct dims spacing origin)
    projections).slices

end Slices

section Subvolume

variable {interpolate : Image2 Space → Tuple2 Space → Space} {scalingFactor : Space}
variable {projections : List (Image2 Space × Space)}
variable {dims : Tuple3 ℕ} {spacing origin : Tuple3 Space}

@[simp] theorem reconstruction_length :
    (reconstruction interpolate scalingFactor projections dims spacing origin).length =
      dims.z := by
  rw [reconstruction, Volume.slices, List.length_map, List.length_range, volumeAfter_dims]
  rfl

/-- The sizes that `AllocateVolume` does not refuse. -/
structure Allocatable (dims : Tuple3 ℕ) (spacing : Tuple3 Space) : Prop where
  rows : 0 < dims.y
  columns : 0 < dims.x
  spacingZ : 0 < spacing.z
  spacingY : 0 < spacing.y
  spacingX : 0 < spacing.x

omit [FloorRing Space] [Cmath Space] in
theorem Allocatable.subvolume (allocatable : Allocatable dims spacing) (subvolumes i : ℕ) :
    Allocatable (getSubvolumeDims dims subvolumes i) spacing :=
  ⟨allocatable.rows, allocatable.columns, allocatable.spacingZ, allocatable.spacingY,
    allocatable.spacingX⟩

/-- No slices are written both when there are none and when there is no volume. -/
theorem backProjectorSlices_eq (allocatable : Allocatable dims spacing) :
    backProjectorSlices interpolate scalingFactor projections dims spacing origin =
      some (reconstruction interpolate scalingFactor projections dims spacing origin) := by
  have sizes : 0 < dims.y ∧ 0 < dims.x := ⟨allocatable.rows, allocatable.columns⟩
  have spacings : 0 < spacing.z ∧ 0 < spacing.y ∧ 0 < spacing.x :=
    ⟨allocatable.spacingZ, allocatable.spacingY, allocatable.spacingX⟩
  by_cases none : dims.z = 0
  · have empty : reconstruction interpolate scalingFactor projections dims spacing origin = [] :=
      List.length_eq_zero_iff.mp (by rw [reconstruction_length, none])
    rw [empty, backProjectorSlices]
    simp [allocateVolume, create, sizes, spacings, none, applyProjections_eq, writeVolumeData]
  · rw [backProjectorSlices]
    simp [allocateVolume, create, sizes, spacings, none, applyProjections_eq, writeVolumeData,
      reconstruction]

omit [LinearOrder Space] [FloorRing Space] [Cmath Space] in
/-- A voxel of a subvolume lies where it lies in the volume. -/
theorem position_subvolume (start slices i j k : ℕ) :
    (Volume.construct ⟨slices, dims.y, dims.x⟩ spacing
        ⟨origin.z + spacing.z * start, origin.y, origin.x⟩).position i j k =
      (Volume.construct dims spacing origin).position (start + i) j k := by
  simp only [Volume.position, Volume.positionZ, Volume.positionY, Volume.positionX,
    Volume.construct, Tuple3.mk.injEq, and_true]
  push_cast
  ring

/-- The walk through a subvolume adds to a voxel what the walk through the volume adds. -/
theorem share_subvolume {start slices : ℕ} (inside : start + slices ≤ dims.z) {i j k : ℕ}
    (slice : i < slices) (projection : Image2 Space × Space) :
    share interpolate scalingFactor (Volume.construct ⟨slices, dims.y, dims.x⟩ spacing
        ⟨origin.z + spacing.z * start, origin.y, origin.x⟩) projection.1 projection.2 i j k =
      share interpolate scalingFactor (Volume.construct dims spacing origin)
        projection.1 projection.2 (start + i) j k := by
  have centre := @position_subvolume Space _ dims spacing origin start slices i j k
  have depth := congrArg Tuple3.z centre
  have passed : (i, j, k) ∈ visited (Volume.construct ⟨slices, dims.y, dims.x⟩ spacing
        ⟨origin.z + spacing.z * start, origin.y, origin.x⟩) projection.1 ↔
      (start + i, j, k) ∈ visited (Volume.construct dims spacing origin) projection.1 := by
    rw [mem_visited, mem_visited]
    refine and_congr (and_congr_left fun _ => ?_) (and_congr ?_ Iff.rfl)
    · have whole : start + i < dims.z := by omega
      exact iff_of_true slice whole
    · simp only [Volume.position] at depth
      rw [SliceInside, SliceInside, depth]
  unfold share
  rw [centre]
  exact if_congr passed rfl rfl

omit [Field Space] [LinearOrder Space] [FloorRing Space] [Cmath Space] in
theorem flatIndex_row (volume : Volume Space) (i offset : ℕ) :
    i * (volume.dims.y * volume.dims.x) + offset =
      volume.flatIndex i (offset / volume.dims.x) (offset % volume.dims.x) := by
  have split := Nat.div_add_mod' offset volume.dims.x
  rw [Volume.flatIndex, Nat.add_mul, Nat.mul_assoc]
  omega

variable [IsStrictOrderedRing Space]

/-- A slice consists of the sums of what the projections add. -/
theorem reconstruction_eq (allocatable : Allocatable dims spacing) :
    reconstruction interpolate scalingFactor projections dims spacing origin =
      (List.range dims.z).map fun i => (List.range (dims.y * dims.x)).map fun offset =>
        (projections.map fun projection =>
          share interpolate scalingFactor (Volume.construct dims spacing origin)
            projection.1 projection.2 i (offset / dims.x) (offset % dims.x)).sum := by
  rw [reconstruction, Volume.slices, volumeAfter_dims]
  apply List.map_congr_left
  intro i _
  apply List.map_congr_left
  intro offset member
  have bound : offset < dims.y * dims.x := List.mem_range.mp member
  have row : offset / dims.x < dims.y := Nat.div_lt_of_lt_mul (by rwa [Nat.mul_comm])
  have column : offset % dims.x < dims.x := Nat.mod_lt _ allocatable.columns
  have voxel := @volumeAfter_voxel _ _ _ _ _ interpolate scalingFactor _ projections
    (Volume.construct dims spacing origin) allocatable.spacingZ i _ _ row column
  have empty : (Volume.construct dims spacing origin).voxel i (offset / dims.x)
      (offset % dims.x) = 0 := rfl
  have place := flatIndex_row (volumeAfter interpolate scalingFactor
    (Volume.construct dims spacing origin) projections) i offset
  rw [empty, zero_add] at voxel
  rw [volumeAfter_dims] at place
  rw [← voxel]
  exact congrArg _ place

/-- **The slices of a subvolume are slices of the volume.** -/
theorem reconstruction_subvolume (allocatable : Allocatable dims spacing) {start slices : ℕ}
    (inside : start + slices ≤ dims.z) :
    reconstruction interpolate scalingFactor projections ⟨slices, dims.y, dims.x⟩ spacing
        ⟨origin.z + spacing.z * start, origin.y, origin.x⟩ =
      ((reconstruction interpolate scalingFactor projections dims spacing origin).drop
        start).take slices := by
  have part : Allocatable ⟨slices, dims.y, dims.x⟩ spacing :=
    ⟨allocatable.rows, allocatable.columns, allocatable.spacingZ, allocatable.spacingY,
      allocatable.spacingX⟩
  refine List.ext_getElem ?_ ?_
  · rw [reconstruction_length, List.length_take, List.length_drop, reconstruction_length]
    have left : slices ≤ dims.z - start := by omega
    exact (Nat.min_eq_left left).symm
  · intro i below _
    rw [reconstruction_length] at below
    rw [List.getElem_take, List.getElem_drop]
    simp only [reconstruction_eq part, reconstruction_eq allocatable, List.getElem_map,
      List.getElem_range, share_subvolume inside below]

/-- The slices of all subvolumes are the slices of the volume. -/
theorem flatten_reconstruction_subvolumes (allocatable : Allocatable dims spacing)
    {subvolumes : ℕ} (positive : 0 < subvolumes) :
    ((List.range subvolumes).map fun i =>
      reconstruction interpolate scalingFactor projections (getSubvolumeDims dims subvolumes i)
        spacing (getSubvolumeOrigin dims spacing origin subvolumes i)).flatten =
      reconstruction interpolate scalingFactor projections dims spacing origin := by
  conv_rhs => rw [← flatten_subvolumes (reconstruction interpolate scalingFactor projections
    dims spacing origin) positive]
  congr 1
  apply List.map_congr_left
  intro i member
  have last := @startZIndex_le dims.z subvolumes (i + 1) positive (List.mem_range.mp member)
  rw [startZIndex_succ (List.mem_range.mp member)] at last
  rw [reconstruction_length]
  exact reconstruction_subvolume allocatable last

theorem mapM_some {α β : Type*} (f : α → β) (list : List α) :
    (list.mapM fun a => some (f a)) = some (list.map f) := by
  induction list with
  | nil => rfl
  | cons a list ih => simp [ih]

/-- **The multi-threaded runner writes the slices of its volume.** -/
theorem runnerSlices_eq (allocatable : Allocatable dims spacing) {numberOfThreads : ℕ}
    (threads : 0 < numberOfThreads) :
    runnerSlices interpolate scalingFactor projections numberOfThreads dims spacing origin =
      some (reconstruction interpolate scalingFactor projections dims spacing origin) := by
  simp only [runnerSlices, backProjectorSlices_eq (allocatable.subvolume _ _), mapM_some,
    Option.map_some]
  rw [flatten_reconstruction_subvolumes allocatable threads]

end Subvolume

/-- **The slices that are written do not depend on how the volume is split.** -/
theorem launchSlices_eq [IsStrictOrderedRing Space]
    (interpolate : Image2 Space → Tuple2 Space → Space) (scalingFactor : Space)
    (projections : List (Image2 Space × Space)) {dims : Tuple3 ℕ} {spacing : Tuple3 Space}
    (origin : Tuple3 Space) (allocatable : Allocatable dims spacing)
    {numberOfVolumeChunks numberOfThreads : ℕ} (chunks : 0 < numberOfVolumeChunks)
    (threads : 0 < numberOfThreads) :
    ∃ slices : List (List Space),
      launchSlices interpolate scalingFactor projections numberOfVolumeChunks numberOfThreads
          dims spacing origin = some slices ∧
        slices.length = dims.z ∧
        backProjectorSlices interpolate scalingFactor projections dims spacing origin =
          some slices := by
  refine ⟨reconstruction interpolate scalingFactor projections dims spacing origin, ?_,
    reconstruction_length, backProjectorSlices_eq allocatable⟩
  simp only [launchSlices, runnerSlices_eq (allocatable.subvolume _ _) threads, mapM_some,
    Option.map_some]
  rw [flatten_reconstruction_subvolumes allocatable chunks]

/-- Three slices in two passes with four threads, some of which have no slice. -/
theorem launchSlices_three :
    ∃ slices : List (List ℝ),
      launchSlices NearestNeighborPixelInterpolator.interpolate 1 [(threePixels, 0)] 2 4
          ⟨3, 2, 2⟩ ⟨1, 1, 1⟩ ⟨-1, -1 / 2, -1 / 2⟩ = some slices ∧
        slices.length = 3 ∧
        backProjectorSlices NearestNeighborPixelInterpolator.interpolate 1 [(threePixels, 0)]
          ⟨3, 2, 2⟩ ⟨1, 1, 1⟩ ⟨-1, -1 / 2, -1 / 2⟩ = some slices :=
  launchSlices_eq _ _ _ _
    ⟨Nat.two_pos, Nat.two_pos, one_pos, one_pos, one_pos⟩ Nat.two_pos (Nat.succ_pos 3)

/-! ## The back projectors of the runners -/

section Records

variable {Scalar : Type} [Field Scalar] [LinearOrder Scalar] [FloorRing Scalar] [Cmath Scalar]
variable (interpolate : Image2 Scalar → Tuple2 Scalar → Scalar) (dims : Tuple3 ℕ)
variable (spacing origin : Tuple3 Scalar)

/-- The volume is the one to which the recorded projections were applied. -/
def Records (projector : ParallelBackProjectorCpu Scalar)
    (recorded : BackProjector (Image2 Scalar) Scalar) : Prop :=
  projector.volume = recorded.volume.map
    (volumeAfter interpolate projector.scalingFactor (Volume.construct dims spacing origin))

variable {interpolate dims spacing origin}

theorem records_allocateVolume (allocatable : Allocatable dims spacing) (scalingFactor : Scalar) :
    ∃ projector, (create scalingFactor).allocateVolume dims spacing origin = some projector ∧
      projector.scalingFactor = scalingFactor ∧
      Records interpolate dims spacing origin projector
        (({} : BackProjector (Image2 Scalar) Scalar).allocateVolume dims.z) := by
  have sizes : 0 < dims.y ∧ 0 < dims.x := ⟨allocatable.rows, allocatable.columns⟩
  have spacings : 0 < spacing.z ∧ 0 < spacing.y ∧ 0 < spacing.x :=
    ⟨allocatable.spacingZ, allocatable.spacingY, allocatable.spacingX⟩
  by_cases none : dims.z = 0
  · refine ⟨create scalingFactor, ?_, rfl, ?_⟩
    · simp [ParallelBackProjectorCpu.allocateVolume, create, sizes, spacings, none]
    · simp [Records, BackProjector.allocateVolume, create, none]
  · refine ⟨⟨scalingFactor, some (Volume.construct dims spacing origin)⟩, ?_, rfl, ?_⟩
    · simp [ParallelBackProjectorCpu.allocateVolume, create, sizes, spacings, none]
    · simp [Records, BackProjector.allocateVolume, none, volumeAfter]

theorem Records.applyProjection {projector : ParallelBackProjectorCpu Scalar}
    {recorded : BackProjector (Image2 Scalar) Scalar}
    (records : Records interpolate dims spacing origin projector recorded)
    (proj : Image2 Scalar) (angle : Scalar) :
    Records interpolate dims spacing origin (projector.applyProjection interpolate proj angle)
      (recorded.applyProjection proj angle) := by
  unfold Records at records ⊢
  rw [ParallelBackProjectorCpu.applyProjection, records]
  rcases recorded with ⟨_ | applied⟩
  · rfl
  · simp [BackProjector.applyProjection, volumeAfter, List.foldl_append]

theorem Records.applyProjections {projector : ParallelBackProjectorCpu Scalar}
    {recorded : BackProjector (Image2 Scalar) Scalar}
    (records : Records interpolate dims spacing origin projector recorded)
    (projections : List (Image2 Scalar × Scalar)) :
    Records interpolate dims spacing origin (projector.applyProjections interpolate projections)
      (projections.foldl (fun recorded projection =>
        recorded.applyProjection projection.1 projection.2) recorded) := by
  induction projections generalizing projector recorded with
  | nil => exact records
  | cons projection projections ih => exact ih (records.applyProjection projection.1 projection.2)

/-- What is written is the reconstruction of the recorded projections. -/
theorem Records.writeVolumeData {projector : ParallelBackProjectorCpu Scalar}
    {recorded : BackProjector (Image2 Scalar) Scalar}
    (records : Records interpolate dims spacing origin projector recorded) :
    projector.writeVolumeData = recorded.writeVolumeData.flatMap fun applied =>
      reconstruction interpolate projector.scalingFactor applied dims spacing origin := by
  rw [Records] at records
  rw [ParallelBackProjectorCpu.writeVolumeData, records, BackProjector.writeVolumeData]
  rcases recorded with ⟨_ | applied⟩
  · rfl
  · exact (List.flatMap_singleton _ _).symm

/-- **What a runner records of a back projector stands for the slices that it writes.** -/
theorem backProjectorSlices_recorded (allocatable : Allocatable dims spacing)
    (scalingFactor : Scalar) (projections : List (Image2 Scalar × Scalar)) :
    backProjectorSlices interpolate scalingFactor projections dims spacing origin =
      some ((projections.foldl (fun recorded projection =>
          recorded.applyProjection projection.1 projection.2)
        (({} : BackProjector (Image2 Scalar) Scalar).allocateVolume dims.z)).writeVolumeData.flatMap
          fun applied =>
            reconstruction interpolate scalingFactor applied dims spacing origin) := by
  obtain ⟨projector, allocated, scale, records⟩ :=
    @records_allocateVolume _ _ _ _ _ interpolate _ _ origin allocatable scalingFactor
  have applied := records.applyProjections projections
  have kept : (projector.applyProjections interpolate projections).scalingFactor =
      scalingFactor := by
    rw [applyProjections_eq]
    exact scale
  rw [backProjectorSlices, allocated, Option.map_some, applied.writeVolumeData, kept]

end Records

end Launcher

end AthabascaRecon
