import AthabascaRecon.Util.Subvolumer
import Mathlib.Algebra.Order.Floor.Div

/-!
# The passes over the volume

`Launch` derives the number of passes from `Software.MaximumVolumeMemory` and the
bytes of the whole volume, and then slices the volume into as many subvolumes. The
limit is kept exactly when slicing needs no more passes than the bytes do
(`passMemory_le_iff`).
-/

set_option autoImplicit false

namespace AthabascaRecon.Launcher

open Subvolumer

/-- `sizeof(TVolumeValue)*long_product(vol_dims)`. -/
def volumeMemory (valueSize : ℕ) (dims : Tuple3 ℕ) : ℕ :=
  valueSize * (dims.z * dims.y * dims.x)

/-- The number of chunks, which is not more than the number of volume slices. -/
def numberOfVolumeChunks (valueSize : ℕ) (dims : Tuple3 ℕ) (maxVolumeMemory : ℕ) : ℕ :=
  min ((maxVolumeMemory + volumeMemory valueSize dims - 1) / maxVolumeMemory) dims.z

/-- The memory of the volume that the runner allocates in a pass. -/
def passMemory (valueSize : ℕ) (dims : Tuple3 ℕ) (chunks pass : ℕ) : ℕ :=
  volumeMemory valueSize (getSubvolumeDims dims chunks pass)

/-- The memory of one slice of the volume. -/
def sliceMemory (valueSize : ℕ) (dims : Tuple3 ℕ) : ℕ := valueSize * (dims.y * dims.x)

variable {valueSize maxVolumeMemory : ℕ} {dims : Tuple3 ℕ}

theorem volumeMemory_eq : volumeMemory valueSize dims = dims.z * sliceMemory valueSize dims := by
  unfold volumeMemory sliceMemory
  ring

theorem passMemory_eq (chunks pass : ℕ) : passMemory valueSize dims chunks pass =
    subvolumeSlices dims.z chunks pass * sliceMemory valueSize dims := by
  rw [passMemory, volumeMemory_eq]
  rfl

/-- When one slice fits, the number of slices does not limit the number of chunks. -/
theorem numberOfVolumeChunks_eq (slice : 0 < sliceMemory valueSize dims)
    (fits : sliceMemory valueSize dims ≤ maxVolumeMemory) :
    numberOfVolumeChunks valueSize dims maxVolumeMemory =
      volumeMemory valueSize dims ⌈/⌉ maxVolumeMemory := by
  have enough : volumeMemory valueSize dims ⌈/⌉ maxVolumeMemory ≤ dims.z := by
    rw [ceilDiv_le_iff_le_mul (slice.trans_le fits), volumeMemory_eq, Nat.mul_comm]
    exact Nat.mul_le_mul_right _ fits
  rw [numberOfVolumeChunks, Nat.add_comm, ← Nat.ceilDiv_eq_add_pred_div]
  exact min_eq_left enough

theorem numberOfVolumeChunks_pos (slices : 0 < dims.z) (slice : 0 < sliceMemory valueSize dims)
    (fits : sliceMemory valueSize dims ≤ maxVolumeMemory) :
    0 < numberOfVolumeChunks valueSize dims maxVolumeMemory := by
  rw [numberOfVolumeChunks_eq slice fits]
  refine Nat.pos_of_ne_zero fun none => ?_
  have all := (ceilDiv_le_iff_le_mul (slice.trans_le fits)).mp none.le
  rw [volumeMemory_eq, Nat.mul_zero] at all
  have some := Nat.mul_pos slices slice
  omega

/-- **The memory limit is kept in every pass exactly when the passes that whole slices
need are not more than the passes that the bytes need.** -/
theorem passMemory_le_iff (slices : 0 < dims.z) (slice : 0 < sliceMemory valueSize dims)
    (fits : sliceMemory valueSize dims ≤ maxVolumeMemory) :
    (∀ pass < numberOfVolumeChunks valueSize dims maxVolumeMemory,
      passMemory valueSize dims (numberOfVolumeChunks valueSize dims maxVolumeMemory) pass ≤
        maxVolumeMemory) ↔
      dims.z ⌈/⌉ (maxVolumeMemory / sliceMemory valueSize dims) ≤
        volumeMemory valueSize dims ⌈/⌉ maxVolumeMemory := by
  have positive := numberOfVolumeChunks_pos slices slice fits
  have capacity : 0 < maxVolumeMemory / sliceMemory valueSize dims :=
    Nat.div_pos fits slice
  rw [← numberOfVolumeChunks_eq slice fits, ceilDiv_le_iff_le_mul capacity,
    ← maxSlices_le_iff positive]
  constructor
  · intro kept
    have last := kept (numberOfVolumeChunks valueSize dims maxVolumeMemory - 1) (by omega)
    rw [passMemory_eq, subvolumeSlices_last positive] at last
    exact (Nat.le_div_iff_mul_le slice).mpr last
  · intro bound pass inside
    rw [passMemory_eq, ← Nat.le_div_iff_mul_le slice]
    exact (subvolumeSlices_le_maxSlices inside).trans bound

/-- Three slices of 2 MB with a limit of 3 MB: two passes, and the second one takes two
slices. -/
theorem passMemory_exceeds_limit :
    let dims : Tuple3 ℕ := ⟨3, 1024, 512⟩
    let maxVolumeMemory := 3 * 1024 * 1024
    sliceMemory 4 dims ≤ maxVolumeMemory ∧
      ¬ ∀ pass < numberOfVolumeChunks 4 dims maxVolumeMemory,
        passMemory 4 dims (numberOfVolumeChunks 4 dims maxVolumeMemory) pass ≤
          maxVolumeMemory := by
  intro dims maxVolumeMemory
  have chunks : numberOfVolumeChunks 4 dims maxVolumeMemory = 2 := by decide
  refine ⟨by decide, ?_⟩
  intro kept
  rw [chunks] at kept
  have second := kept 1 (by decide)
  rw [passMemory_eq, subvolumeSlices_last (by decide)] at second
  revert second
  decide

/-- Four slices of 2 MB with a limit of 4 MB are divided evenly. -/
theorem passMemory_le_even :
    passMemory 4 ⟨4, 1024, 512⟩ (numberOfVolumeChunks 4 ⟨4, 1024, 512⟩ (4 * 1024 * 1024)) 1 ≤
      4 * 1024 * 1024 :=
  (passMemory_le_iff (by decide) (by decide) (by decide)).mpr (by decide) 1 (by decide)

end AthabascaRecon.Launcher
