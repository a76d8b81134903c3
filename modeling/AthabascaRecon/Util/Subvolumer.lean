import AthabascaRecon.Bonelab.Image
import Mathlib.Algebra.BigOperators.Group.List.Basic
import Mathlib.Algebra.BigOperators.Ring.Finset
import Mathlib.Algebra.Order.Floor.Semifield
import Mathlib.Data.Nat.ModEq
import Mathlib.Data.Rat.Floor
import Mathlib.Tactic.Linarith

/-!
# Dividing a volume into subvolumes

`Subvolumer` slices a volume along the z axis. Subvolume `i` begins at
`i*fractional_count`, truncated, and the last one ends where the volume ends. The
fraction is read as an exact rational number. The subvolumes then follow each other
without gaps (`startZIndex_eq_sum`), and none has more slices than the fraction rounded up
(`subvolumeSlices_le_maxSlices`), which the last one has (`subvolumeSlices_last`). The
constructor calculates with signed integers and checks the sum of the slices;
`construct_balanced` says what it makes of a volume that has no negative dimension along z.
-/

set_option autoImplicit false

namespace AthabascaRecon

/-- `bonelab::Tuple<3,T>` in the order z, y, x. -/
structure Tuple3 (α : Type*) where
  z : α
  y : α
  x : α
  deriving DecidableEq, Repr

namespace Subvolumer

/-- `m_SubvolumeStartZIndex`: the first slice of a subvolume. -/
def startZIndex (dimsZ subvolumes i : ℕ) : ℕ :=
  ⌊(i : ℚ) * ((dimsZ : ℚ) / (subvolumes : ℚ))⌋₊

/-- The number of slices of a subvolume. The last one takes all that is left. -/
def subvolumeSlices (dimsZ subvolumes i : ℕ) : ℕ :=
  if i + 1 < subvolumes then
    startZIndex dimsZ subvolumes (i + 1) - startZIndex dimsZ subvolumes i
  else dimsZ - startZIndex dimsZ subvolumes i

def getSubvolumeDims (dims : Tuple3 ℕ) (subvolumes i : ℕ) : Tuple3 ℕ where
  z := subvolumeSlices dims.z subvolumes i
  y := dims.y
  x := dims.x

/-- The origin of a subvolume. Only its z coordinate depends on the subvolume. -/
def getSubvolumeOrigin {Space : Type*} [Add Space] [Mul Space] [NatCast Space]
    (dims : Tuple3 ℕ) (spacing origin : Tuple3 Space) (subvolumes i : ℕ) : Tuple3 Space where
  z := origin.z + spacing.z * (startZIndex dims.z subvolumes i : Space)
  y := origin.y
  x := origin.x

variable {dimsZ subvolumes : ℕ}

/-- Truncating the fraction is a division of natural numbers. -/
theorem startZIndex_eq (dimsZ subvolumes i : ℕ) :
    startZIndex dimsZ subvolumes i = i * dimsZ / subvolumes := by
  have fraction : (i : ℚ) * ((dimsZ : ℚ) / (subvolumes : ℚ)) =
      ((i * dimsZ : ℕ) : ℚ) / ((subvolumes : ℕ) : ℚ) := by
    rw [Nat.cast_mul, mul_div_assoc]
  rw [startZIndex, fraction, Nat.floor_div_eq_div]

@[simp] theorem startZIndex_zero (dimsZ subvolumes : ℕ) : startZIndex dimsZ subvolumes 0 = 0 := by
  simp [startZIndex]

theorem startZIndex_mono {i j : ℕ} (le : i ≤ j) :
    startZIndex dimsZ subvolumes i ≤ startZIndex dimsZ subvolumes j := by
  rw [startZIndex_eq, startZIndex_eq]
  exact Nat.div_le_div_right (Nat.mul_le_mul_right dimsZ le)

theorem startZIndex_last (positive : 0 < subvolumes) :
    startZIndex dimsZ subvolumes subvolumes = dimsZ := by
  rw [startZIndex_eq, Nat.mul_div_cancel_left dimsZ positive]

theorem startZIndex_le {i : ℕ} (positive : 0 < subvolumes) (inside : i ≤ subvolumes) :
    startZIndex dimsZ subvolumes i ≤ dimsZ :=
  (startZIndex_mono inside).trans (startZIndex_last positive).le

/-- The last subvolume ends where a further one would begin. -/
theorem subvolumeSlices_eq {i : ℕ} (inside : i < subvolumes) :
    subvolumeSlices dimsZ subvolumes i =
      startZIndex dimsZ subvolumes (i + 1) - startZIndex dimsZ subvolumes i := by
  unfold subvolumeSlices
  split_ifs with notLast
  · rfl
  · obtain rfl : subvolumes = i + 1 := by omega
    rw [startZIndex_last (Nat.succ_pos i)]

theorem startZIndex_succ {i : ℕ} (inside : i < subvolumes) :
    startZIndex dimsZ subvolumes (i + 1) =
      startZIndex dimsZ subvolumes i + subvolumeSlices dimsZ subvolumes i := by
  have before := @startZIndex_mono dimsZ subvolumes i (i + 1) (Nat.le_succ i)
  rw [subvolumeSlices_eq inside]
  omega

theorem subvolumeSlices_le {i : ℕ} : subvolumeSlices dimsZ subvolumes i ≤ dimsZ := by
  by_cases inside : i < subvolumes
  · have last := @startZIndex_le dimsZ subvolumes (i + 1) (by omega) inside
    rw [startZIndex_succ inside] at last
    omega
  · unfold subvolumeSlices
    rw [if_neg (by omega)]
    exact Nat.sub_le ..

/-- **Subvolumes follow each other.** Each begins behind the slices of those before it. -/
theorem startZIndex_eq_sum {count : ℕ} (inside : count ≤ subvolumes) :
    startZIndex dimsZ subvolumes count =
      ((List.range count).map (subvolumeSlices dimsZ subvolumes)).sum := by
  induction count with
  | zero => simp
  | succ count ih =>
      rw [startZIndex_succ inside, ih (by omega), List.range_succ, List.map_append,
        List.sum_append, List.map_singleton, List.sum_singleton]

/-- The check at the end of the constructor never fails. -/
theorem dims_z_sum (positive : 0 < subvolumes) :
    ((List.range subvolumes).map (subvolumeSlices dimsZ subvolumes)).sum = dimsZ := by
  rw [← startZIndex_eq_sum le_rfl, startZIndex_last positive]

/-! ## The size of the largest subvolume -/

/-- The number of slices of the largest subvolume. -/
def maxSlices (dimsZ subvolumes : ℕ) : ℕ := (dimsZ + subvolumes - 1) / subvolumes

theorem maxSlices_le_iff (positive : 0 < subvolumes) (count : ℕ) :
    maxSlices dimsZ subvolumes ≤ count ↔ dimsZ ≤ count * subvolumes := by
  rw [maxSlices, Nat.div_le_iff_le_mul positive]
  omega

theorem le_maxSlices_mul (positive : 0 < subvolumes) :
    dimsZ ≤ maxSlices dimsZ subvolumes * subvolumes :=
  (maxSlices_le_iff positive _).mp le_rfl

theorem subvolumeSlices_le_maxSlices {i : ℕ} (inside : i < subvolumes) :
    subvolumeSlices dimsZ subvolumes i ≤ maxSlices dimsZ subvolumes := by
  have positive : 0 < subvolumes := by omega
  have step : (i + 1) * dimsZ / subvolumes ≤
      i * dimsZ / subvolumes + maxSlices dimsZ subvolumes := by
    have before := @Nat.lt_div_mul_add (i * dimsZ) subvolumes positive
    have slices := @le_maxSlices_mul dimsZ subvolumes positive
    rw [Nat.le_iff_lt_add_one, Nat.div_lt_iff_lt_mul positive, Nat.succ_mul, Nat.add_mul,
      Nat.add_mul, Nat.one_mul]
    omega
  rw [subvolumeSlices_eq inside, startZIndex_eq, startZIndex_eq]
  omega

/-- The last subvolume is as large as any. -/
theorem subvolumeSlices_last (positive : 0 < subvolumes) :
    subvolumeSlices dimsZ subvolumes (subvolumes - 1) = maxSlices dimsZ subvolumes := by
  have inside : subvolumes - 1 < subvolumes := by omega
  refine Nat.le_antisymm (subvolumeSlices_le_maxSlices inside) ?_
  obtain ⟨before, rfl⟩ : ∃ before, subvolumes = before + 1 := ⟨subvolumes - 1, by omega⟩
  have total := @startZIndex_succ dimsZ (before + 1) before (Nat.lt_succ_self _)
  rw [startZIndex_last positive, startZIndex_eq] at total
  have truncated : before * dimsZ / (before + 1) * (before + 1) ≤ before * dimsZ :=
    Nat.div_mul_le_self _ _
  rw [maxSlices_le_iff positive, Nat.add_sub_cancel]
  have scaled : dimsZ * (before + 1) = before * dimsZ / (before + 1) * (before + 1) +
      subvolumeSlices dimsZ (before + 1) before * (before + 1) := by
    rw [← Nat.add_mul, ← total]
  have unfolded : dimsZ * (before + 1) = before * dimsZ + dimsZ := by ring
  omega

/-- The slices are those of the fraction, truncated or rounded up. -/
theorem subvolumeSlices_between {i : ℕ} (inside : i < subvolumes) :
    dimsZ / subvolumes ≤ subvolumeSlices dimsZ subvolumes i ∧
      subvolumeSlices dimsZ subvolumes i ≤ dimsZ / subvolumes + 1 := by
  have positive : 0 < subvolumes := by omega
  constructor
  · have parts : i * dimsZ / subvolumes + dimsZ / subvolumes ≤
        (i * dimsZ + dimsZ) / subvolumes := Nat.div_add_div_le_add_div
    rw [subvolumeSlices_eq inside, startZIndex_eq, startZIndex_eq, Nat.succ_mul]
    omega
  · refine (subvolumeSlices_le_maxSlices inside).trans ((maxSlices_le_iff positive _).mpr ?_)
    rw [Nat.succ_mul]
    exact (Nat.lt_div_mul_add positive).le

end Subvolumer

/-! ## The constructor -/

/-- The vectors that the constructor of `Subvolumer` fills. -/
structure Subvolumer (Space : Type*) (subvolumes : ℕ) where
  subvolumeStartZIndex : Fin subvolumes → ℤ
  subvolumeDims : Fin subvolumes → Tuple3 ℤ
  subvolumeOrigins : Fin subvolumes → Tuple3 Space

/-- What the constructor throws. -/
inductive SubvolumerFault where
  | assertionFailed
  deriving DecidableEq, Repr

namespace Subvolumer

section Constructor

variable {Space : Type*} [Add Space] [Mul Space] [IntCast Space]

/-- `i*fractional_count`, converted to an index. -/
def truncatedStart (dimsZ : ℤ) (subvolumes i : ℕ) : ℤ :=
  truncate ((i : ℚ) * ((dimsZ : ℚ) / (subvolumes : ℚ)))

/-- The entries of the vectors that belong to a subvolume. The last subvolume takes all
slices that are left. -/
def fillVectors (dims : Tuple3 ℤ) (spacing origin : Tuple3 Space) (subvolumes : ℕ) :
    Subvolumer Space subvolumes where
  subvolumeStartZIndex i := truncatedStart dims.z subvolumes i
  subvolumeDims i :=
    { z :=
        if i.val + 1 < subvolumes then
          truncatedStart dims.z subvolumes (i + 1) - truncatedStart dims.z subvolumes i
        else dims.z - truncatedStart dims.z subvolumes i
      y := dims.y
      x := dims.x }
  subvolumeOrigins i :=
    { z := origin.z + spacing.z * (truncatedStart dims.z subvolumes i : Space)
      y := origin.y
      x := origin.x }

/-- The constructor, which checks that the slices of the subvolumes are all slices. -/
def construct (dims : Tuple3 ℤ) (spacing origin : Tuple3 Space) (subvolumes : ℕ) :
    Except SubvolumerFault (Subvolumer Space subvolumes) :=
  let subvolumer := fillVectors dims spacing origin subvolumes
  let dims_z_sum := (List.finRange subvolumes).foldl
    (fun sum i => sum + (subvolumer.subvolumeDims i).z) 0
  if dims_z_sum = dims.z then .ok subvolumer else .error .assertionFailed

/-- A division of a volume into subvolumes of nearly the same size that follow each other
along z. -/
structure Balanced (dims : Tuple3 ℤ) (spacing origin : Tuple3 Space) {subvolumes : ℕ}
    (subvolumer : Subvolumer Space subvolumes) : Prop where
  first : ∀ i, i.val = 0 → subvolumer.subvolumeStartZIndex i = 0
  ordered : ∀ i j, i ≤ j →
    subvolumer.subvolumeStartZIndex i ≤ subvolumer.subvolumeStartZIndex j
  inside : ∀ i, subvolumer.subvolumeStartZIndex i ≤ dims.z
  nonneg : ∀ i, 0 ≤ (subvolumer.subvolumeDims i).z
  total : ((List.finRange subvolumes).map fun i => (subvolumer.subvolumeDims i).z).sum = dims.z
  balanced : ∀ i j, |(subvolumer.subvolumeDims i).z - (subvolumer.subvolumeDims j).z| ≤ 1
  nonempty : (subvolumes : ℤ) ≤ dims.z → ∀ i, 1 ≤ (subvolumer.subvolumeDims i).z
  others : ∀ i, (subvolumer.subvolumeDims i).y = dims.y ∧
    (subvolumer.subvolumeDims i).x = dims.x
  origins : ∀ i, subvolumer.subvolumeOrigins i =
    { z := origin.z + spacing.z * (subvolumer.subvolumeStartZIndex i : Space)
      y := origin.y
      x := origin.x }

variable {dims : Tuple3 ℤ} {spacing origin : Tuple3 Space} {subvolumes : ℕ}

/-- Without a negative dimension, the signed calculation is that of natural numbers. -/
theorem truncatedStart_natCast (dimsZ subvolumes i : ℕ) :
    truncatedStart dimsZ subvolumes i = startZIndex dimsZ subvolumes i := by
  rw [truncatedStart, startZIndex, Int.cast_natCast, truncate_of_nonneg (by positivity),
    Int.natCast_floor_eq_floor (by positivity)]

theorem fillVectors_slices (dimsZ : ℕ) (y x : ℤ) (i : Fin subvolumes) :
    ((fillVectors ⟨dimsZ, y, x⟩ spacing origin subvolumes).subvolumeDims i).z =
      subvolumeSlices dimsZ subvolumes i := by
  have before := @startZIndex_mono dimsZ subvolumes i (i + 1) (Nat.le_succ i)
  have last := @startZIndex_le dimsZ subvolumes i i.pos i.isLt.le
  simp only [fillVectors, truncatedStart_natCast, subvolumeSlices]
  split_ifs
  · rw [Nat.cast_sub before]
  · rw [Nat.cast_sub last]

/-- The sum that the constructor checks. -/
theorem fillVectors_total (dimsZ : ℕ) (y x : ℤ) (positive : 0 < subvolumes) :
    ((List.finRange subvolumes).map fun i =>
      ((fillVectors ⟨dimsZ, y, x⟩ spacing origin subvolumes).subvolumeDims i).z).sum =
      (dimsZ : ℤ) := by
  have slices := @dims_z_sum dimsZ subvolumes positive
  rw [← List.map_coe_finRange_eq_range, List.map_map] at slices
  calc _ = ((List.finRange subvolumes).map fun i =>
        ((subvolumeSlices dimsZ subvolumes i.val : ℕ) : ℤ)).sum := by
        simp only [fillVectors_slices]
    _ = ((((List.finRange subvolumes).map fun i =>
        subvolumeSlices dimsZ subvolumes i.val).sum : ℕ) : ℤ) := by
        rw [Nat.cast_list_sum, List.map_map]
        rfl
    _ = dimsZ := congrArg Nat.cast slices

theorem fillVectors_balanced (positive : 0 < subvolumes) (nonneg : 0 ≤ dims.z) :
    Balanced dims spacing origin (fillVectors dims spacing origin subvolumes) := by
  obtain ⟨z, y, x⟩ := dims
  obtain ⟨dimsZ, rfl⟩ := Int.eq_ofNat_of_zero_le nonneg
  have between := fun i : Fin subvolumes => @subvolumeSlices_between dimsZ subvolumes i i.isLt
  refine {
    first := ?first, ordered := ?ordered, inside := ?inside, nonneg := ?nonneg
    total := fillVectors_total dimsZ y x positive
    balanced := ?balanced, nonempty := ?nonempty
    others := fun i => ⟨rfl, rfl⟩
    origins := fun i => rfl }
  case first =>
    intro i zero
    change truncatedStart dimsZ subvolumes i = 0
    rw [truncatedStart_natCast, zero, startZIndex_zero, Nat.cast_zero]
  case ordered =>
    intro i j le
    change truncatedStart dimsZ subvolumes i ≤ truncatedStart dimsZ subvolumes j
    rw [truncatedStart_natCast, truncatedStart_natCast]
    exact_mod_cast startZIndex_mono le
  case inside =>
    intro i
    change truncatedStart dimsZ subvolumes i ≤ dimsZ
    rw [truncatedStart_natCast]
    exact_mod_cast startZIndex_le positive i.isLt.le
  case nonneg =>
    intro i
    rw [fillVectors_slices]
    exact Nat.cast_nonneg _
  case balanced =>
    intro i j
    rw [fillVectors_slices, fillVectors_slices, abs_le]
    have ofI := between i
    have ofJ := between j
    omega
  case nonempty =>
    intro enough i
    rw [fillVectors_slices]
    have one : 1 ≤ dimsZ / subvolumes :=
      (Nat.one_le_div_iff positive).mpr (Nat.cast_le.mp enough)
    have ofI := between i
    omega

end Constructor

end Subvolumer

end AthabascaRecon
