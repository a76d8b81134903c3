import Mathlib.Analysis.Fourier.ZMod

/-!
# The discrete Fourier transform of real sequences

The transform of a sequence of some length, as a sum over its elements. The transform of a
circular convolution is the product of the transforms (`spectrum_circular`), the transform of
a real sequence is conjugated by reflection (`spectrum_reflect`), and that of an even real
sequence is real (`spectrum_im_of_even`). A sequence can be found again from one half of its
transform (`inverse_hermitian`), and every real half of a transform is that of an even sequence
(`exists_spectrum_eq`).
-/

set_option autoImplicit false

open scoped ZMod ComplexConjugate

namespace AthabascaRecon.RealDft

open Finset Complex

/-- The discrete Fourier transform of the first elements of a real sequence. The character of
a real number is the root of unity for that part of a turn. -/
noncomputable def spectrum (length : ℕ) (x : ℕ → ℝ) (k : ℕ) : ℂ :=
  ∑ n ∈ range length, (x n : ℂ) * Real.fourierChar (-(n * k / length : ℝ))

section Periodic

variable {length : ℕ} [NeZero length]

theorem sum_zmod {Sum : Type*} [AddCommMonoid Sum] (g : ℕ → Sum) :
    ∑ j : ZMod length, g j.val = ∑ n ∈ range length, g n := by
  obtain ⟨count, rfl⟩ := Nat.exists_eq_succ_of_ne_zero (NeZero.ne length)
  exact Fin.sum_univ_eq_sum_range g (count + 1)

/-- Parts of a turn are residues. -/
theorem stdAddChar_eq (m : ℤ) :
    ZMod.stdAddChar (m : ZMod length) = (Real.fourierChar (m / length : ℝ) : ℂ) := by
  rw [ZMod.stdAddChar_coe, Real.fourierChar_apply]
  congr 1
  push_cast
  ring

/-- The transform is that of the sequence on the residues. -/
theorem spectrum_eq_dft (x : ℕ → ℝ) (k : ℕ) :
    spectrum length x k = 𝓕 (fun j : ZMod length => (x j.val : ℂ)) (k : ZMod length) := by
  rw [ZMod.dft_apply, spectrum, ← sum_zmod]
  apply Finset.sum_congr rfl
  intro j _
  have residue : (-(j * (k : ZMod length))) = ((-(j.val * k : ℤ) : ℤ) : ZMod length) := by
    push_cast
    rw [ZMod.natCast_zmod_val]
  have part : ((-(j.val * k : ℤ) : ℤ) / length : ℝ) = -(j.val * k / length : ℝ) := by
    push_cast
    ring
  rw [residue, stdAddChar_eq, part, smul_eq_mul, mul_comm]

/-- The circular convolution of the first elements of two sequences. -/
def circular (length : ℕ) (x f : ℕ → ℝ) (n : ℕ) : ℝ :=
  ∑ m ∈ range length, x m * f ((n : ZMod length) - m).val

/-- The transform on the residues takes a convolution to a product. -/
theorem dft_convolution (Φ Ψ : ZMod length → ℂ) (k : ZMod length) :
    𝓕 (fun n => ∑ m, Φ m * Ψ (n - m)) k = 𝓕 Φ k * 𝓕 Ψ k := by
  simp only [ZMod.dft_apply, smul_eq_mul]
  have shifted (m : ZMod length) :
      ∑ n, ZMod.stdAddChar (-(n * k)) * (Φ m * Ψ (n - m)) =
        ∑ n, ZMod.stdAddChar (-(m * k)) * Φ m * (ZMod.stdAddChar (-(n * k)) * Ψ n) := by
    rw [← Equiv.sum_comp (Equiv.addRight m)]
    apply Finset.sum_congr rfl
    intro n _
    have split : -((n + m) * k) = -(m * k) + -(n * k) := by ring
    rw [Equiv.coe_addRight, add_sub_cancel_right, split, AddChar.map_add_eq_mul]
    ring
  calc ∑ n, ZMod.stdAddChar (-(n * k)) * ∑ m, Φ m * Ψ (n - m)
      = ∑ n, ∑ m, ZMod.stdAddChar (-(n * k)) * (Φ m * Ψ (n - m)) := by
        simp only [Finset.mul_sum]
    _ = ∑ m, ∑ n, ZMod.stdAddChar (-(n * k)) * (Φ m * Ψ (n - m)) := Finset.sum_comm
    _ = _ := by
        simp only [shifted]
        rw [Finset.sum_mul_sum]

/-- **The transform of a circular convolution is the product of the transforms.** -/
theorem spectrum_circular (x f : ℕ → ℝ) (k : ℕ) :
    spectrum length (circular length x f) k = spectrum length x k * spectrum length f k := by
  rw [spectrum_eq_dft, spectrum_eq_dft, spectrum_eq_dft, ← dft_convolution]
  apply congrArg (fun Φ => 𝓕 Φ (k : ZMod length))
  funext j
  rw [circular, ← sum_zmod fun m => x m * f ((j.val : ZMod length) - m).val]
  push_cast
  simp only [ZMod.natCast_zmod_val]

/-- Reflection conjugates the transform. -/
theorem dft_neg (x : ZMod length → ℝ) (k : ZMod length) :
    𝓕 (fun j => (x j : ℂ)) (-k) = conj (𝓕 (fun j => (x j : ℂ)) k) := by
  simp only [ZMod.dft_apply, smul_eq_mul, map_sum, map_mul, conj_ofReal]
  apply Finset.sum_congr rfl
  intro j _
  rw [← AddChar.map_neg_eq_conj, mul_neg]

/-- **The transform of an even sequence is real.** -/
theorem spectrum_im_of_even {f : ℕ → ℝ}
    (even : ∀ n, 0 < n → n < length → f (length - n) = f n) (k : ℕ) :
    (spectrum length f k).im = 0 := by
  have reflected : (fun j : ZMod length => ((f (-j).val : ℝ) : ℂ)) =
      fun j : ZMod length => ((f j.val : ℝ) : ℂ) := by
    funext j
    by_cases zero : j = 0
    · rw [zero, neg_zero]
    · have nonzero : NeZero j := ⟨zero⟩
      rw [ZMod.val_neg_of_ne_zero, even j.val (Nat.pos_of_ne_zero (by simpa using zero)) j.val_lt]
  have real := congrFun (ZMod.dft_comp_neg fun j : ZMod length => ((f j.val : ℝ) : ℂ)) k
  rw [reflected, dft_neg fun j => f j.val] at real
  rw [spectrum_eq_dft, ← conj_eq_iff_im]
  exact real.symm

/-- The second half of the transform is the first one, conjugated. -/
theorem spectrum_reflect (x : ℕ → ℝ) {k : ℕ} (inside : k ≤ length) :
    spectrum length x (length - k) = conj (spectrum length x k) := by
  rw [spectrum_eq_dft, spectrum_eq_dft, ← dft_neg fun j => x j.val, Nat.cast_sub inside,
    ZMod.natCast_self, zero_sub]

/-- The transform is real at the beginning. -/
theorem spectrum_zero_im (x : ℕ → ℝ) : (spectrum length x 0).im = 0 := by
  have reflected := dft_neg (fun j : ZMod length => x j.val) 0
  rw [neg_zero] at reflected
  rw [spectrum_eq_dft, Nat.cast_zero, ← conj_eq_iff_im]
  exact reflected.symm

/-- The transform of an even number of elements is real in the middle. -/
theorem spectrum_half_im (x : ℕ → ℝ) {half : ℕ} (even : length = 2 * half) :
    (spectrum length x half).im = 0 := by
  have reflected := spectrum_reflect x (show half ≤ length by omega)
  have middle : length - half = half := by omega
  rw [middle] at reflected
  rw [← conj_eq_iff_im]
  exact reflected.symm

/-- The elements are found from the transform. -/
theorem sum_spectrum (x : ℕ → ℝ) {n : ℕ} (inside : n < length) :
    ∑ k ∈ range length, spectrum length x k * Real.fourierChar (k * n / length : ℝ) =
      length * x n := by
  have nonzero : (length : ℂ) ≠ 0 := Nat.cast_ne_zero.mpr (NeZero.ne length)
  have terms (j : ZMod length) :
      spectrum length x j.val * Real.fourierChar (j.val * n / length : ℝ) =
        ZMod.stdAddChar (j * (n : ZMod length)) •
          𝓕 (fun j : ZMod length => ((x j.val : ℝ) : ℂ)) j := by
    have residue : j * (n : ZMod length) = ((j.val * n : ℤ) : ZMod length) := by
      push_cast
      rw [ZMod.natCast_zmod_val]
    rw [residue, stdAddChar_eq, spectrum_eq_dft, ZMod.natCast_zmod_val, smul_eq_mul, mul_comm]
    push_cast
    rfl
  have inverted := congrFun
    (ZMod.dft.symm_apply_apply fun j : ZMod length => ((x j.val : ℝ) : ℂ)) (n : ZMod length)
  rw [ZMod.invDFT_apply, ZMod.val_natCast_of_lt inside] at inverted
  rw [← sum_zmod fun k => spectrum length x k * Real.fourierChar (k * n / length : ℝ),
    Finset.sum_congr rfl fun j _ => terms j, ← inverted, smul_eq_mul, mul_inv_cancel_left₀ nonzero]

/-! ### Sequences with a given transform -/

/-- The transform of an even sequence of real numbers is one too. -/
theorem dft_of_even {x : ZMod length → ℝ} (even : ∀ k, x (-k) = x k) (k : ZMod length) :
    𝓕 (fun j => (x j : ℂ)) (-k) = 𝓕 (fun j => (x j : ℂ)) k ∧
      conj (𝓕 (fun j => (x j : ℂ)) k) = 𝓕 (fun j => (x j : ℂ)) k := by
  have reflected : 𝓕 (fun j => (x j : ℂ)) (-k) = 𝓕 (fun j => (x j : ℂ)) k := by
    have same : (fun j => ((x (-j) : ℝ) : ℂ)) = fun j => (x j : ℂ) := by
      funext j
      rw [even]
    have whole := congrFun (ZMod.dft_comp_neg fun j => (x j : ℂ)) k
    rw [same] at whole
    exact whole.symm
  exact ⟨reflected, by rw [← dft_neg, reflected]⟩

/-- **Every real half of a spectrum is that of an even sequence.** -/
theorem exists_spectrum_eq (half : ℕ → ℝ) :
    ∃ g : ℕ → ℝ, (∀ n, 0 < n → n < length → g (length - n) = g n) ∧
      ∀ k, k ≤ length / 2 → spectrum length g k = half k := by
  have some_elements : 0 < length := NeZero.pos length
  let x : ZMod length → ℝ := fun k => half (min k.val (length - k.val))
  have even : ∀ k, x (-k) = x k := by
    intro k
    by_cases zero : k = 0
    · rw [zero, neg_zero]
    · have nonzero : NeZero k := ⟨zero⟩
      show half _ = half _
      rw [ZMod.val_neg_of_ne_zero, Nat.sub_sub_self k.val_lt.le, min_comm]
  let G : ZMod length → ℂ := 𝓕⁻ fun k => (x k : ℂ)
  have inverse_eq : ∀ k, G k = (length : ℂ)⁻¹ • 𝓕 (fun j => (x j : ℂ)) k := by
    intro k
    show 𝓕⁻ _ k = _
    rw [ZMod.invDFT_apply', (dft_of_even even k).1]
  have real : ∀ k, ((G k).re : ℂ) = G k := by
    intro k
    apply conj_eq_iff_re.mp
    rw [inverse_eq, smul_eq_mul, map_mul, (dft_of_even even k).2, map_inv₀, conj_natCast]
  refine ⟨fun n => (G (n : ZMod length)).re, ?_, ?_⟩
  · intro n positive inside
    dsimp only
    rw [Nat.cast_sub inside.le, ZMod.natCast_self, zero_sub, inverse_eq, inverse_eq,
      (dft_of_even even _).1]
  · intro k below
    have within : k < length := by omega
    have same : (fun j : ZMod length => (((G ((j.val : ℕ) : ZMod length)).re : ℝ) : ℂ)) = G := by
      funext j
      rw [real, ZMod.natCast_zmod_val]
    rw [spectrum_eq_dft, same]
    show 𝓕 (𝓕⁻ fun k => (x k : ℂ)) _ = _
    rw [LinearEquiv.apply_symm_apply]
    show ((half _ : ℝ) : ℂ) = _
    rw [ZMod.val_natCast_of_lt within, min_eq_left (by omega)]

omit [NeZero length] in
/-- A circular convolution only depends on the first elements. -/
theorem circular_congr {x y : ℕ → ℝ} (same : ∀ m, m < length → x m = y m) (f : ℕ → ℝ) (n : ℕ) :
    circular length x f n = circular length y f n := by
  apply Finset.sum_congr rfl
  intro m member
  rw [same m (Finset.mem_range.mp member)]

omit [NeZero length] in
theorem circular_const_mul (c : ℝ) (x f : ℕ → ℝ) (n : ℕ) :
    circular length x (fun m => c * f m) n = c * circular length x f n := by
  rw [circular, circular, Finset.mul_sum]
  apply Finset.sum_congr rfl
  intro m _
  ring

end Periodic

/-- The transform only depends on the first elements. -/
theorem spectrum_congr {length : ℕ} {x y : ℕ → ℝ} (same : ∀ n, n < length → x n = y n) (k : ℕ) :
    spectrum length x k = spectrum length y k := by
  apply Finset.sum_congr rfl
  intro n member
  rw [same n (Finset.mem_range.mp member)]

theorem spectrum_const_mul (length : ℕ) (c : ℝ) (x : ℕ → ℝ) (k : ℕ) :
    spectrum length (fun n => c * x n) k = c * spectrum length x k := by
  rw [spectrum, spectrum, Finset.mul_sum]
  apply Finset.sum_congr rfl
  intro n _
  push_cast
  ring

/-! ## The inverse -/

/-- The whole transform of a real sequence from its first half. -/
noncomputable def hermitian (length : ℕ) (half : ℕ → ℂ) (k : ℕ) : ℂ :=
  if k ≤ length / 2 then half k else conj (half (length - k))

/-- The inverse transform, which is not divided by the length. -/
noncomputable def inverse (length : ℕ) (X : ℕ → ℂ) (n : ℕ) : ℝ :=
  (∑ k ∈ range length, X k * Real.fourierChar (k * n / length : ℝ)).re

/-- **A sequence is found from the first half of its transform.** -/
theorem inverse_hermitian {length : ℕ} {half : ℕ → ℂ} {x : ℕ → ℝ}
    (holds : ∀ k, k ≤ length / 2 → half k = spectrum length x k) {n : ℕ} (inside : n < length) :
    inverse length (hermitian length half) n = length * x n := by
  have nonzero : NeZero length := ⟨by omega⟩
  have whole : ∀ k, k < length → hermitian length half k = spectrum length x k := by
    intro k below
    unfold hermitian
    split_ifs with first
    · exact holds k first
    · rw [holds _ (by omega), ← spectrum_reflect x (Nat.sub_le _ _), Nat.sub_sub_self below.le]
  have sums : ∑ k ∈ range length,
      hermitian length half k * Real.fourierChar (k * n / length : ℝ) = length * x n := by
    rw [← sum_spectrum x inside]
    apply Finset.sum_congr rfl
    intro k member
    rw [whole k (Finset.mem_range.mp member)]
  rw [inverse, sums, ← ofReal_natCast, ← ofReal_mul, ofReal_re]

end AthabascaRecon.RealDft
