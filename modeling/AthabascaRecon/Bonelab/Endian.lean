import Mathlib.Algebra.Ring.Parity
import Mathlib.Data.Fin.Rev
import Mathlib.Data.List.FinRange
import Mathlib.Logic.Function.Basic

/-!
# Byte order

`SwapBytes` writes the bytes of a value in the reverse order into a local union, two of them
in each pass of a loop over half of the positions. Nothing is known of what the union
contains before, and the byte in the middle of an odd number of bytes is never written
(`swapBytes_apply`). `EndianConversion` goes through an array and swaps the bytes of each
element, unless both orders are the same.
-/

set_option autoImplicit false

namespace AthabascaRecon

/-- `EEndian`. Which of the two orders is `HOST_ENDIAN_ORDER` is a parameter of what
follows. -/
inductive EEndian where
  | littleEndianOrder
  | bigEndianOrder
  deriving DecidableEq, Repr

/-- The bytes of a value of a type that has `size` of them. -/
abbrev ValueBytes (size : ℕ) := Fin size → UInt8

variable {size : ℕ}

/-! ## One value -/

/-- The position that the loop of `SwapBytes` has reached. -/
def lowerPosition (i : Fin (size / 2)) : Fin size := i.castLE (Nat.div_le_self size 2)

/-- The body of the loop of `SwapBytes`. -/
def swapPair (value out : ValueBytes size) (i : Fin (size / 2)) : ValueBytes size :=
  let out := Function.update out (lowerPosition i) (value (lowerPosition i).rev)
  Function.update out (lowerPosition i).rev (value (lowerPosition i))

/-- `SwapBytes`, with what its local union `out` contains before. -/
def swapBytes (out value : ValueBytes size) : ValueBytes size :=
  (List.finRange (size / 2)).foldl (swapPair value) out

/-- One pass writes a position and its mirror image. -/
theorem swapPair_apply (value out : ValueBytes size) (i : Fin (size / 2)) (b : Fin size) :
    swapPair value out i b =
      if b = lowerPosition i ∨ b = (lowerPosition i).rev then value b.rev else out b := by
  unfold swapPair
  by_cases upper : b = (lowerPosition i).rev
  · subst upper
    rw [Function.update_self, if_pos (.inr rfl), Fin.rev_rev]
  · rw [Function.update_of_ne upper]
    by_cases lower : b = lowerPosition i
    · subst lower
      rw [Function.update_self, if_pos (.inl rfl)]
    · rw [Function.update_of_ne lower, if_neg (not_or.mpr ⟨lower, upper⟩)]

/-- Some passes write the positions they come to and their mirror images. -/
theorem foldl_swapPair_apply (value out : ValueBytes size) (passes : List (Fin (size / 2)))
    (b : Fin size) :
    passes.foldl (swapPair value) out b =
      if ∃ i ∈ passes, b = lowerPosition i ∨ b = (lowerPosition i).rev then value b.rev
      else out b := by
  induction passes generalizing out with
  | nil => simp
  | cons pass passes ih =>
      rw [List.foldl_cons, ih, swapPair_apply]
      by_cases later : ∃ i ∈ passes, b = lowerPosition i ∨ b = (lowerPosition i).rev
      · rw [if_pos later, if_pos]
        obtain ⟨i, member, reached⟩ := later
        exact ⟨i, List.mem_cons_of_mem pass member, reached⟩
      · rw [if_neg later]
        congr 1
        simp only [List.mem_cons, exists_eq_or_imp, later, or_false]

/-- The loop comes to every position but the middle of an odd number. -/
theorem exists_pass_iff (b : Fin size) :
    (∃ i ∈ List.finRange (size / 2), b = lowerPosition i ∨ b = (lowerPosition i).rev) ↔
      2 * b.val + 1 ≠ size := by
  simp only [List.mem_finRange, true_and, Fin.ext_iff, Fin.val_rev, lowerPosition,
    Fin.val_castLE]
  constructor
  · rintro ⟨i, reached⟩
    omega
  · intro notMiddle
    by_cases lower : b.val < size / 2
    · exact ⟨⟨b.val, lower⟩, .inl rfl⟩
    · exact ⟨⟨size - 1 - b.val, by omega⟩, .inr (by dsimp only; omega)⟩

/-- **`SwapBytes` reverses the bytes, but the middle one stays what the union contained.** -/
theorem swapBytes_apply (out value : ValueBytes size) (b : Fin size) :
    swapBytes out value b = if 2 * b.val + 1 = size then out b else value b.rev := by
  rw [swapBytes, foldl_swapPair_apply]
  simp only [exists_pass_iff, ne_eq, ite_not]

theorem swapBytes_of_even (even : Even size) (out value : ValueBytes size) :
    swapBytes out value = fun b => value b.rev := by
  funext b
  obtain ⟨half, rfl⟩ := even
  rw [swapBytes_apply, if_neg (by omega)]

/-! ## An array -/

/-- The loop of `EndianConversion` with `p` at an element and a number of elements up to
`end`: the memory after it and the elements it assigned. A call of `SwapBytes` for element
`p` finds `out p` in its union. -/
def conversionLoop (out : ℕ → ValueBytes size) :
    ℕ → ℕ → (ℕ → ValueBytes size) → (ℕ → ValueBytes size) × List ℕ
  | 0, _, memory => (memory, [])
  | left + 1, p, memory =>
    let memory := Function.update memory p (swapBytes (out p) (memory p))
    let rest := conversionLoop out left (p + 1) memory
    (rest.1, p :: rest.2)

/-- `EndianConversion` for `count` elements, with the elements it assigned. -/
def endianConversion (source target : EEndian) (out : ℕ → ValueBytes size) (count : ℕ)
    (memory : ℕ → ValueBytes size) : (ℕ → ValueBytes size) × List ℕ :=
  if source = target then (memory, []) else conversionLoop out count 0 memory

theorem conversionLoop_apply (out : ℕ → ValueBytes size) (left p : ℕ)
    (memory : ℕ → ValueBytes size) (q : ℕ) :
    (conversionLoop out left p memory).1 q =
      if p ≤ q ∧ q < p + left then swapBytes (out q) (memory q) else memory q := by
  induction left generalizing p memory with
  | zero => rw [conversionLoop, if_neg (by omega)]
  | succ left ih =>
      rw [conversionLoop, ih]
      by_cases here : q = p
      · subst here
        rw [if_neg (by omega), if_pos (by omega), Function.update_self]
      · rw [Function.update_of_ne here]
        congr 1
        simp only [eq_iff_iff]
        omega

theorem conversionLoop_assigned (out : ℕ → ValueBytes size) (left p : ℕ)
    (memory : ℕ → ValueBytes size) :
    (conversionLoop out left p memory).2 = List.range' p left := by
  induction left generalizing p memory with
  | zero => rfl
  | succ left ih => rw [conversionLoop, ih, List.range'_succ]

/-- Each element of the array becomes what `SwapBytes` makes of it, and no other changes. -/
theorem endianConversion_apply {source target : EEndian} (foreign : source ≠ target)
    (out : ℕ → ValueBytes size) (count : ℕ) (memory : ℕ → ValueBytes size) (p : ℕ) :
    (endianConversion source target out count memory).1 p =
      if p < count then swapBytes (out p) (memory p) else memory p := by
  rw [endianConversion, if_neg foreign, conversionLoop_apply]
  congr 1
  simp only [eq_iff_iff]
  omega

theorem endianConversion_assigned {source target : EEndian} (foreign : source ≠ target)
    (out : ℕ → ValueBytes size) (count : ℕ) (memory : ℕ → ValueBytes size) :
    (endianConversion source target out count memory).2 = List.range count := by
  rw [endianConversion, if_neg foreign, conversionLoop_assigned, List.range_eq_range']

/-! ## Conversions that reverse the bytes -/

/-- What a conversion of an array is for: from the order that is not the host's, the bytes
of each element are reversed, each element is assigned once, and a second conversion
restores the array; from the host's order, nothing is assigned. -/
structure ReversesBytes (count : ℕ) (memory : ℕ → ValueBytes size) : Prop where
  reversed : ∀ source host : EEndian, source ≠ host → ∀ out p, p < count →
    (endianConversion source host out count memory).1 p = fun b => memory p b.rev
  outside : ∀ source host : EEndian, ∀ out p, count ≤ p →
    (endianConversion source host out count memory).1 p = memory p
  once : ∀ source host : EEndian, source ≠ host → ∀ out,
    (endianConversion source host out count memory).2 = List.range count
  restored : ∀ source host : EEndian, ∀ out again,
    (endianConversion source host again count
      (endianConversion source host out count memory).1).1 = memory
  unchanged : ∀ host : EEndian, ∀ out,
    endianConversion host host out count memory = (memory, [])

theorem endianConversion_self (host : EEndian) (out : ℕ → ValueBytes size) (count : ℕ)
    (memory : ℕ → ValueBytes size) :
    endianConversion host host out count memory = (memory, []) :=
  if_pos rfl

/-- An element past the array keeps its bytes. -/
theorem endianConversion_outside (source host : EEndian) (out : ℕ → ValueBytes size)
    {count : ℕ} (memory : ℕ → ValueBytes size) {p : ℕ} (past : count ≤ p) :
    (endianConversion source host out count memory).1 p = memory p := by
  by_cases same : source = host
  · rw [same, endianConversion_self]
  · rw [endianConversion_apply same, if_neg past.not_gt]

/-- An even number of bytes, or an array without elements. -/
theorem endianConversion_inside {count : ℕ} (sound : Even size ∨ count = 0)
    {source host : EEndian} (foreign : source ≠ host) (out : ℕ → ValueBytes size)
    (memory : ℕ → ValueBytes size) {p : ℕ} (inside : p < count) :
    (endianConversion source host out count memory).1 p = fun b => memory p b.rev := by
  have even : Even size := sound.resolve_right (by omega)
  rw [endianConversion_apply foreign, if_pos inside, swapBytes_of_even even]

/-- A value in the byte order of another host. -/
def inOrderOf (there here : EEndian) (value : ValueBytes size) : ValueBytes size :=
  if there = here then value else fun b => value b.rev

/-- Conversion puts elements in the byte order of the host. A foreign order needs an even number
of bytes. -/
theorem endianConversion_inOrderOf {there here : EEndian} (sound : there = here ∨ Even size)
    (out : ℕ → ValueBytes size) {count p : ℕ} (memory : ℕ → ValueBytes size) (inside : p < count) :
    (endianConversion there here out count memory).1 p = inOrderOf there here (memory p) := by
  by_cases same : there = here
  · rw [inOrderOf, if_pos same, same, endianConversion_self]
  · rw [inOrderOf, if_neg same,
      endianConversion_inside (.inl (sound.resolve_left same)) same out memory inside]

theorem endianConversion_endianConversion {count : ℕ} (sound : Even size ∨ count = 0)
    (source host : EEndian) (out again : ℕ → ValueBytes size) (memory : ℕ → ValueBytes size) :
    (endianConversion source host again count
      (endianConversion source host out count memory).1).1 = memory := by
  funext p
  by_cases inside : p < count
  · by_cases same : source = host
    · rw [same, endianConversion_self, endianConversion_self]
    · rw [endianConversion_inside sound same again _ inside,
        endianConversion_inside sound same out _ inside]
      funext b
      exact congrArg (memory p) (Fin.rev_rev b)
  · have past : count ≤ p := by omega
    rw [endianConversion_outside source host again _ past,
      endianConversion_outside source host out _ past]

theorem byte_add_one_ne (byte : UInt8) : byte + 1 ≠ byte := by
  intro same
  have number := congrArg UInt8.toNat same
  rw [UInt8.toNat_add] at number
  simp only [UInt8.reduceToNat] at number
  omega

/-- **The bytes of an array are reversed exactly when its elements have an even number of
them, or there are no elements.** -/
theorem reversesBytes_iff (count : ℕ) (memory : ℕ → ValueBytes size) :
    ReversesBytes count memory ↔ Even size ∨ count = 0 := by
  constructor
  · intro reverses
    by_contra unsound
    obtain ⟨odd, nonempty⟩ := not_or.mp unsound
    obtain ⟨half, middle⟩ := Nat.not_even_iff_odd.mp odd
    have first : 0 < count := Nat.pos_of_ne_zero nonempty
    -- the union contains another byte at the middle position than the first element
    have reversed := reverses.reversed .littleEndianOrder .bigEndianOrder (by decide)
      (fun _ b => memory 0 b + 1) 0 first
    rw [endianConversion_apply (by decide), if_pos first] at reversed
    have byte := congrFun reversed ⟨half, by omega⟩
    rw [swapBytes_apply, if_pos (by dsimp only; omega)] at byte
    have mirrored : (⟨half, by omega⟩ : Fin size).rev = ⟨half, by omega⟩ := by
      rw [Fin.ext_iff, Fin.val_rev]
      dsimp only
      omega
    rw [mirrored] at byte
    exact byte_add_one_ne _ byte
  · intro sound
    exact {
      reversed := fun _ _ foreign out _ inside =>
        endianConversion_inside sound foreign out memory inside
      outside := fun source host out _ past =>
        endianConversion_outside source host out memory past
      once := fun _ _ foreign out => endianConversion_assigned foreign out count memory
      restored := fun source host out again =>
        endianConversion_endianConversion sound source host out again memory
      unchanged := fun host out => endianConversion_self host out count memory }

/-- An array with one element of one byte. -/
theorem not_reversesBytes_oneByte :
    ¬ ReversesBytes 1 (fun _ => (fun _ => 7 : ValueBytes 1)) := by
  intro reverses
  have byte := congrFun (reverses.reversed .bigEndianOrder .littleEndianOrder (by decide)
    (fun _ _ => 0) 0 Nat.one_pos) 0
  exact absurd byte (by decide)

end AthabascaRecon
