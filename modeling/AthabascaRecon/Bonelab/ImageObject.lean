import AthabascaRecon.Bonelab.Image
import Mathlib.Algebra.BigOperators.Group.List.Basic
import Mathlib.Data.Fintype.Basic
import Mathlib.Data.Int.ModEq
import Mathlib.Data.Fin.VecNotation
import Mathlib.Data.List.Induction
import Mathlib.Data.List.OfFn
import Mathlib.Data.PNat.Defs

/-!
# Images as objects

An `Image` is a `bonelab::Array` with a spacing, an origin and extents. The member functions
assign its fields one after another, and each of them may throw in between: the object then
stays as it is at that point. `construct` marks the array as constructed and sets its size
and its dimensions before it allocates, so a failed allocation leaves an object that is
constructed without a storage area. All other steps keep an image consistent
(`Operation.keeps_iff`), and so the runs that stay consistent are those without such steps
(`staysConsistent_iff`).
-/

set_option autoImplicit false

namespace AthabascaRecon

variable {n : ℕ} {Value Space : Type}

/-! ## Arrays -/

/-- `long_product`, which is calculated in `size_t`. -/
def ArrayBase.longProduct (dims : Fin n → ℤ) : ℕ :=
  ((List.ofFn dims).foldl (fun product dim => product * dim % (2 : ℤ) ^ 64) 1).toNat

/-- What the member functions of an array or an image throw. -/
inductive ArrayException where
  | alreadyConstructed
  | unableToAllocateMemory
  | cannotCopyDifferentSizedArrays
  | cannotCopyDifferentSizedImages
  deriving DecidableEq, Repr

/-- A call that returns or throws, and the object that it leaves. -/
abbrev Attempt (Object : Type) := Except ArrayException Unit × Object

/-- `ArrayBase`. Pointers are addresses, counted in elements, and `NULL` is 0. What is
found from `base` on is the `content`. -/
structure ArrayBase (n : ℕ) (Value : Type) where
  isConstructed : Bool
  size : ℕ
  dims : Fin n → ℤ
  buffer : ℕ
  base : ℕ
  stop : ℕ
  content : ℕ → Value

namespace ArrayBase

variable [Zero Value]

/-- The empty constructor. -/
def empty : ArrayBase n Value where
  isConstructed := false
  size := 0
  dims := 0
  buffer := 0
  base := 0
  stop := 0
  content := 0

/-- `construct`, with the address that `new` returns unless it throws. -/
def construct (allocation : Option ℕ+) (dims : Fin n → ℤ) (array : ArrayBase n Value) :
    Attempt (ArrayBase n Value) :=
  if array.isConstructed then (.error .alreadyConstructed, array)
  else
    let array := { array with isConstructed := true, size := longProduct dims, dims := dims }
    match allocation with
    | none => (.error .unableToAllocateMemory, array)
    | some address =>
      let array := { array with buffer := address, content := 0 }
      (.ok (), { array with base := array.buffer, stop := array.buffer + array.size })

/-- `construct_reference` to the data at an address. -/
def constructReference (data : ℕ) (content : ℕ → Value) (dims : Fin n → ℤ)
    (array : ArrayBase n Value) : Attempt (ArrayBase n Value) :=
  if array.isConstructed then (.error .alreadyConstructed, array)
  else
    let array := { array with isConstructed := true, size := longProduct dims, dims := dims }
    let array := { array with buffer := 0, base := data, content := content }
    (.ok (), { array with stop := array.base + array.size })

/-- `destruct`. -/
def destruct (_array : ArrayBase n Value) : ArrayBase n Value where
  isConstructed := false
  size := 0
  dims := 0
  buffer := 0
  base := 0
  stop := 0
  content := 0

/-- `memcpy` of the data of another array. -/
def copyContent (array source : ArrayBase n Value) : ArrayBase n Value :=
  { array with content := fun p => if p < array.size then source.content p else array.content p }

/-- `copy`. -/
def copy (array : ArrayBase n Value) (allocation : Option ℕ+) (source : ArrayBase n Value) :
    Attempt (ArrayBase n Value) :=
  if array.isConstructed then
    if array.dims ≠ source.dims then (.error .cannotCopyDifferentSizedArrays, array)
    else (.ok (), array.copyContent source)
  else
    match array.construct allocation source.dims with
    | (.error failure, array) => (.error failure, array)
    | (.ok _, array) => (.ok (), array.copyContent source)

end ArrayBase

/-! ## Images -/

/-- `Image`. -/
structure Image (n : ℕ) (Value Space : Type) extends ArrayBase n Value where
  spacing : Fin n → Space
  origin : Fin n → Space
  interiorExtents : Fin n → Extent Space
  exteriorExtents : Fin n → Extent Space

/-- The interior extents of some dimensions, a spacing and an origin. -/
def interiorExtentsOf [Field Space] (dims : Fin n → ℤ) (spacing origin : Fin n → Space) :
    Fin n → Extent Space := fun i =>
  { lower := origin i
    upper := origin i + ((dims i - 1 : ℤ) : Space) * spacing i }

/-- The exterior extents, which reach half a pixel farther. -/
def exteriorExtentsOf [Field Space] (dims : Fin n → ℤ) (spacing origin : Fin n → Space) :
    Fin n → Extent Space := fun i =>
  { lower := (interiorExtentsOf dims spacing origin i).lower - oneHalf Space * spacing i
    upper := (interiorExtentsOf dims spacing origin i).upper + oneHalf Space * spacing i }

namespace Image

variable [Zero Value] [Field Space]

/-- `calculate_extents`. -/
def calculateExtents (image : Image n Value Space) : Image n Value Space :=
  { image with
    interiorExtents := interiorExtentsOf image.dims image.spacing image.origin
    exteriorExtents := exteriorExtentsOf image.dims image.spacing image.origin }

/-- What a member function does after the one of the array has returned. -/
def afterArray (attempt : Attempt (ArrayBase n Value))
    (rest : Image n Value Space → Image n Value Space) (image : Image n Value Space) :
    Attempt (Image n Value Space) :=
  match attempt with
  | (.error failure, array) => (.error failure, { image with toArrayBase := array })
  | (.ok _, array) => (.ok (), rest { image with toArrayBase := array })

/-- The assignments at the end of `construct` and of `construct_reference`. -/
def place (image : Image n Value Space) (spacing origin : Fin n → Space) :
    Image n Value Space :=
  calculateExtents { image with spacing := spacing, origin := origin }

/-- The empty constructor. -/
def empty : Image n Value Space :=
  calculateExtents
    { toArrayBase := ArrayBase.empty
      spacing := 0
      origin := 0
      interiorExtents := fun _ => ⟨0, 0⟩
      exteriorExtents := fun _ => ⟨0, 0⟩ }

/-- `construct`. -/
def construct (allocation : Option ℕ+) (dims : Fin n → ℤ) (spacing origin : Fin n → Space)
    (image : Image n Value Space) : Attempt (Image n Value Space) :=
  image.afterArray (image.toArrayBase.construct allocation dims) fun image =>
    image.place spacing origin

/-- `construct_reference` to the data at an address. -/
def constructReference (data : ℕ) (content : ℕ → Value) (dims : Fin n → ℤ)
    (spacing origin : Fin n → Space) (image : Image n Value Space) :
    Attempt (Image n Value Space) :=
  image.afterArray (image.toArrayBase.constructReference data content dims) fun image =>
    image.place spacing origin

/-- `construct_reference` to the data of an array. -/
def constructReferenceToArray (image : Image n Value Space) (source : ArrayBase n Value)
    (spacing origin : Fin n → Space) : Attempt (Image n Value Space) :=
  image.constructReference source.base source.content source.dims spacing origin

/-- `construct_reference` to the data of an image. -/
def constructReferenceToImage (image source : Image n Value Space) :
    Attempt (Image n Value Space) :=
  image.constructReference source.base source.content source.dims source.spacing source.origin

/-- `destruct`. -/
def destruct (image : Image n Value Space) : Image n Value Space :=
  calculateExtents
    { image with
      toArrayBase := image.toArrayBase.destruct
      spacing := 0
      origin := 0 }

/-- The `copy` of the array. -/
def copyArray (image : Image n Value Space) (allocation : Option ℕ+)
    (source : Image n Value Space) : Attempt (Image n Value Space) :=
  image.afterArray (image.toArrayBase.copy allocation source.toArrayBase) id

/-- `copy`. -/
def copy (image : Image n Value Space) (allocation : Option ℕ+)
    (source : Image n Value Space) : Attempt (Image n Value Space) :=
  if image.isConstructed then
    if image.dims ≠ source.dims then (.error .cannotCopyDifferentSizedImages, image)
    else (image.place source.spacing source.origin).copyArray allocation source
  else
    match image.construct allocation source.dims source.spacing source.origin with
    | (.error failure, image) => (.error failure, image)
    | (.ok _, image) => image.copyArray allocation source

end Image

/-! ## Operations -/

/-- A call of a member function, with what `new` returns when it is called. -/
inductive Operation (n : ℕ) (Value Space : Type) where
  | construct (allocation : Option ℕ+) (dims : Fin n → ℤ) (spacing origin : Fin n → Space)
  | constructReference (data : ℕ) (content : ℕ → Value) (dims : Fin n → ℤ)
      (spacing origin : Fin n → Space)
  | constructReferenceToArray (source : ArrayBase n Value) (spacing origin : Fin n → Space)
  | constructReferenceToImage (source : Image n Value Space)
  | copy (allocation : Option ℕ+) (source : Image n Value Space)
  | destruct

/-- The product of the dimensions. -/
def dimsProduct (dims : Fin n → ℤ) : ℤ := (List.ofFn dims).prod

/-- An image that is constructed has a storage area of as many elements as its dimensions
have, one that is not has none, and the extents are those of the image. -/
structure Consistent [Field Space] (image : Image n Value Space) : Prop where
  attached : image.isConstructed = true →
    image.base ≠ 0 ∧ (image.size : ℤ) = dimsProduct image.dims ∧
      image.stop = image.base + image.size
  detached : image.isConstructed = false →
    image.size = 0 ∧ image.dims = 0 ∧ image.base = 0 ∧ image.stop = 0
  interior : image.interiorExtents =
    interiorExtentsOf image.dims image.spacing image.origin
  exterior : image.exteriorExtents =
    exteriorExtentsOf image.dims image.spacing image.origin

/-- A call that throws leaves the object as it was. -/
def LeavesUnchanged {Object : Type} (attempt : Attempt Object) (before : Object) : Prop :=
  ∀ failure, attempt.1 = .error failure → attempt.2 = before

/-- The number of elements is a value of `size_t`. -/
def CountFits (dims : Fin n → ℤ) : Prop := 0 ≤ dimsProduct dims ∧ dimsProduct dims < 2 ^ 64

namespace Operation

/-- What the call does to an image. -/
def run [Zero Value] [Field Space] (operation : Operation n Value Space)
    (image : Image n Value Space) : Attempt (Image n Value Space) :=
  match operation with
  | construct allocation dims spacing origin => image.construct allocation dims spacing origin
  | constructReference data content dims spacing origin =>
    image.constructReference data content dims spacing origin
  | constructReferenceToArray source spacing origin =>
    image.constructReferenceToArray source spacing origin
  | constructReferenceToImage source => image.constructReferenceToImage source
  | copy allocation source => image.copy allocation source
  | destruct => (.ok (), image.destruct)

/-- The storage that an image without any is to get exists, and its number of elements is
a value of `size_t`. -/
def Provided : Operation n Value Space → Prop
  | construct allocation dims _ _ => allocation.isSome = true ∧ CountFits dims
  | constructReference data _ dims _ _ => data ≠ 0 ∧ CountFits dims
  | constructReferenceToArray source _ _ => source.base ≠ 0 ∧ CountFits source.dims
  | constructReferenceToImage source => source.base ≠ 0 ∧ CountFits source.dims
  | copy allocation source => allocation.isSome = true ∧ CountFits source.dims
  | destruct => True

/-- The condition on a call: when the image is not constructed, its storage is provided. -/
def Meets (operation : Operation n Value Space) (image : Image n Value Space) : Prop :=
  image.isConstructed = false → operation.Provided

end Operation

/-! ## The number of elements -/

theorem foldl_product_mod (dims : List ℤ) (product : ℤ) :
    dims.foldl (fun product dim => product * dim % (2 : ℤ) ^ 64) (product % 2 ^ 64) =
      product * dims.prod % 2 ^ 64 := by
  induction dims generalizing product with
  | nil => rw [List.foldl_nil, List.prod_nil, mul_one]
  | cons dim dims ih =>
      have reduced : product % 2 ^ 64 * dim % 2 ^ 64 = product * dim % 2 ^ 64 :=
        (Int.mod_modEq product (2 ^ 64)).mul_right dim
      rw [List.foldl_cons, List.prod_cons, reduced, ih, mul_assoc]

/-- `long_product` is the product, reduced to `size_t`. -/
theorem ArrayBase.longProduct_eq (dims : Fin n → ℤ) :
    (longProduct dims : ℤ) = dimsProduct dims % 2 ^ 64 := by
  have product := foldl_product_mod (List.ofFn dims) 1
  rw [one_mul] at product
  rw [longProduct, dimsProduct, show (1 : ℤ) = 1 % 2 ^ 64 by decide, product,
    Int.toNat_of_nonneg (Int.emod_nonneg _ (by decide))]

theorem ArrayBase.longProduct_eq_iff (dims : Fin n → ℤ) :
    (longProduct dims : ℤ) = dimsProduct dims ↔ CountFits dims := by
  rw [longProduct_eq, CountFits]
  omega

/-! ## One call -/

section OneCall

variable [Zero Value] [Field Space] {image : Image n Value Space}

omit [Zero Value] in
/-- What makes an image that has just got its storage consistent. -/
theorem consistent_iff_of_constructed (constructed : image.isConstructed = true)
    (size : image.size = ArrayBase.longProduct image.dims)
    (stop : image.stop = image.base + image.size)
    (interior : image.interiorExtents =
      interiorExtentsOf image.dims image.spacing image.origin)
    (exterior : image.exteriorExtents =
      exteriorExtentsOf image.dims image.spacing image.origin) :
    Consistent image ↔ image.base ≠ 0 ∧ CountFits image.dims := by
  rw [← ArrayBase.longProduct_eq_iff]
  constructor
  · intro consistent
    obtain ⟨attached, count, -⟩ := consistent.attached constructed
    exact ⟨attached, by rw [← size, count]⟩
  · rintro ⟨attached, count⟩
    exact {
      attached := fun _ => ⟨attached, by rw [size, count], stop⟩
      detached := fun other => by
        rw [constructed] at other
        cases other
      interior := interior
      exterior := exterior }

theorem leavesUnchanged_of_ok {Object : Type} (after before : Object) :
    LeavesUnchanged (.ok (), after) before := by
  intro failure thrown
  cases thrown

theorem leavesUnchanged_of_error {Object : Type} (failure : ArrayException) (before : Object) :
    LeavesUnchanged (.error failure, before) before :=
  fun _ _ => rfl

theorem consistent_empty : Consistent (Image.empty : Image n Value Space) where
  attached := nofun
  detached := fun _ => ⟨rfl, rfl, rfl, rfl⟩
  interior := rfl
  exterior := rfl

theorem consistent_destruct (image : Image n Value Space) : Consistent image.destruct where
  attached := nofun
  detached := fun _ => ⟨rfl, rfl, rfl, rfl⟩
  interior := rfl
  exterior := rfl

/-! ### Images that are constructed -/

theorem construct_of_constructed (constructed : image.isConstructed = true)
    (allocation : Option ℕ+) (dims : Fin n → ℤ) (spacing origin : Fin n → Space) :
    image.construct allocation dims spacing origin = (.error .alreadyConstructed, image) := by
  rw [Image.construct, ArrayBase.construct, if_pos constructed]
  rfl

omit [Zero Value] in
theorem constructReference_of_constructed (constructed : image.isConstructed = true) (data : ℕ)
    (content : ℕ → Value) (dims : Fin n → ℤ) (spacing origin : Fin n → Space) :
    image.constructReference data content dims spacing origin =
      (.error .alreadyConstructed, image) := by
  rw [Image.constructReference, ArrayBase.constructReference, if_pos constructed]
  rfl

/-- An image with another content. -/
def Image.withContent (content : ℕ → Value) (image : Image n Value Space) :
    Image n Value Space :=
  { image with content := content }

omit [Field Space] in
theorem copyArray_of_constructed (image : Image n Value Space) {source : Image n Value Space}
    (constructed : image.isConstructed = true) (same : image.dims = source.dims)
    (allocation : Option ℕ+) :
    ∃ content, image.copyArray allocation source = (.ok (), image.withContent content) := by
  have copied : image.toArrayBase.copy allocation source.toArrayBase =
      (.ok (), image.toArrayBase.copyContent source.toArrayBase) := by
    rw [ArrayBase.copy.eq_def, if_pos constructed, if_neg (not_not.mpr same)]
  rw [Image.copyArray, copied]
  exact ⟨_, rfl⟩

theorem copy_of_constructed (constructed : image.isConstructed = true)
    (allocation : Option ℕ+) (source : Image n Value Space) :
    (image.copy allocation source = (.error .cannotCopyDifferentSizedImages, image)) ∨
      image.dims = source.dims ∧ ∃ content, image.copy allocation source =
        (.ok (), (image.place source.spacing source.origin).withContent content) := by
  rw [Image.copy, if_pos constructed]
  by_cases same : image.dims = source.dims
  · right
    rw [if_neg (not_not.mpr same)]
    exact ⟨same, copyArray_of_constructed (image.place _ _) constructed same allocation⟩
  · left
    rw [if_pos same]

omit [Zero Value] in
theorem consistent_place_withContent (consistent : Consistent image)
    (constructed : image.isConstructed = true) (spacing origin : Fin n → Space)
    (content : ℕ → Value) :
    Consistent ((image.place spacing origin).withContent content) where
  attached := consistent.attached
  detached := fun other => by
    have same : (image.place spacing origin).isConstructed = true := constructed
    rw [Image.withContent, same] at other
    cases other
  interior := rfl
  exterior := rfl

/-! ### Images that are not constructed -/

/-- An image that has just got a storage area. -/
def Image.attach (image : Image n Value Space) (buffer base : ℕ) (content : ℕ → Value)
    (dims : Fin n → ℤ) (spacing origin : Fin n → Space) : Image n Value Space :=
  Image.place
    { image with
      isConstructed := true
      size := ArrayBase.longProduct dims
      dims := dims
      buffer := buffer
      base := base
      stop := base + ArrayBase.longProduct dims
      content := content } spacing origin

omit [Zero Value] in
theorem consistent_attach_iff (buffer base : ℕ) (content : ℕ → Value) (dims : Fin n → ℤ)
    (spacing origin : Fin n → Space) :
    Consistent (image.attach buffer base content dims spacing origin) ↔
      base ≠ 0 ∧ CountFits dims :=
  consistent_iff_of_constructed rfl rfl rfl rfl rfl

theorem construct_some (notConstructed : image.isConstructed = false) (address : ℕ+)
    (dims : Fin n → ℤ) (spacing origin : Fin n → Space) :
    image.construct (some address) dims spacing origin =
      (.ok (), image.attach address address 0 dims spacing origin) := by
  rw [Image.construct, ArrayBase.construct, if_neg (by simp [notConstructed])]
  rfl

theorem construct_none (notConstructed : image.isConstructed = false)
    (dims : Fin n → ℤ) (spacing origin : Fin n → Space) :
    image.construct none dims spacing origin = (.error .unableToAllocateMemory,
      { image with isConstructed := true, size := ArrayBase.longProduct dims, dims := dims }) := by
  rw [Image.construct, ArrayBase.construct, if_neg (by simp [notConstructed])]
  rfl

omit [Zero Value] in
theorem constructReference_of_not (notConstructed : image.isConstructed = false) (data : ℕ)
    (content : ℕ → Value) (dims : Fin n → ℤ) (spacing origin : Fin n → Space) :
    image.constructReference data content dims spacing origin =
      (.ok (), image.attach 0 data content dims spacing origin) := by
  rw [Image.constructReference, ArrayBase.constructReference, if_neg (by simp [notConstructed])]
  rfl

/-- **A failed allocation changes an image that is not constructed.** -/
theorem construct_none_changes (notConstructed : image.isConstructed = false)
    (dims : Fin n → ℤ) (spacing origin : Fin n → Space) :
    ¬ LeavesUnchanged (image.construct none dims spacing origin) image := by
  intro unchanged
  rw [construct_none notConstructed] at unchanged
  have same := congrArg (fun image => image.isConstructed)
    (unchanged .unableToAllocateMemory rfl)
  dsimp only at same
  rw [notConstructed] at same
  cases same

theorem copy_none (notConstructed : image.isConstructed = false) (source : Image n Value Space) :
    image.copy none source = image.construct none source.dims source.spacing source.origin := by
  rw [Image.copy, if_neg (by simp [notConstructed]), construct_none notConstructed]

theorem copy_some (notConstructed : image.isConstructed = false) (address : ℕ+)
    (source : Image n Value Space) :
    ∃ content, image.copy (some address) source =
      (.ok (), image.attach address address content source.dims source.spacing source.origin) := by
  have sameDims : (image.attach address address 0 source.dims source.spacing
      source.origin).dims = source.dims := rfl
  obtain ⟨content, copied⟩ := copyArray_of_constructed _ rfl sameDims (some address)
  rw [Image.copy, if_neg (by simp [notConstructed]), construct_some notConstructed]
  exact ⟨content, copied⟩

/-! ### Both -/

/-- What is asked of a call on a consistent image. -/
def KeepsConsistent (attempt : Attempt (Image n Value Space)) (image : Image n Value Space) :
    Prop :=
  Consistent attempt.2 ∧ LeavesUnchanged attempt image

omit [Zero Value] in
theorem keepsConsistent_of_error (consistent : Consistent image) (failure : ArrayException) :
    KeepsConsistent (.error failure, image) image :=
  ⟨consistent, leavesUnchanged_of_error failure image⟩

omit [Zero Value] in
theorem keepsConsistent_ok_iff {after : Image n Value Space} :
    KeepsConsistent (.ok (), after) image ↔ Consistent after :=
  and_iff_left (leavesUnchanged_of_ok after image)

/-- An image that is constructed stays consistent whatever is called. -/
theorem keeps_of_constructed (consistent : Consistent image)
    (constructed : image.isConstructed = true) (operation : Operation n Value Space) :
    KeepsConsistent (operation.run image) image := by
  cases operation with
  | construct allocation dims spacing origin =>
    rw [Operation.run, construct_of_constructed constructed]
    exact keepsConsistent_of_error consistent _
  | constructReference data content dims spacing origin =>
    rw [Operation.run, constructReference_of_constructed constructed]
    exact keepsConsistent_of_error consistent _
  | constructReferenceToArray source spacing origin =>
    rw [Operation.run, Image.constructReferenceToArray,
      constructReference_of_constructed constructed]
    exact keepsConsistent_of_error consistent _
  | constructReferenceToImage source =>
    rw [Operation.run, Image.constructReferenceToImage,
      constructReference_of_constructed constructed]
    exact keepsConsistent_of_error consistent _
  | copy allocation source =>
    rw [Operation.run]
    rcases copy_of_constructed constructed allocation source with thrown | ⟨-, content, copied⟩
    · rw [thrown]
      exact keepsConsistent_of_error consistent _
    · rw [copied]
      exact keepsConsistent_ok_iff.mpr
        (consistent_place_withContent consistent constructed _ _ _)
  | destruct => exact keepsConsistent_ok_iff.mpr (consistent_destruct image)

theorem keeps_construct_iff (notConstructed : image.isConstructed = false)
    (allocation : Option ℕ+) (dims : Fin n → ℤ) (spacing origin : Fin n → Space) :
    KeepsConsistent (image.construct allocation dims spacing origin) image ↔
      allocation.isSome = true ∧ CountFits dims := by
  cases allocation with
  | none =>
    refine iff_of_false (fun keeps => ?_) (by simp)
    exact construct_none_changes notConstructed dims spacing origin keeps.2
  | some address =>
    rw [construct_some notConstructed, keepsConsistent_ok_iff, consistent_attach_iff]
    simp

omit [Zero Value] in
theorem keeps_constructReference_iff (notConstructed : image.isConstructed = false) (data : ℕ)
    (content : ℕ → Value) (dims : Fin n → ℤ) (spacing origin : Fin n → Space) :
    KeepsConsistent (image.constructReference data content dims spacing origin) image ↔
      data ≠ 0 ∧ CountFits dims := by
  rw [constructReference_of_not notConstructed, keepsConsistent_ok_iff, consistent_attach_iff]

theorem keeps_copy_iff (notConstructed : image.isConstructed = false)
    (allocation : Option ℕ+) (source : Image n Value Space) :
    KeepsConsistent (image.copy allocation source) image ↔
      allocation.isSome = true ∧ CountFits source.dims := by
  cases allocation with
  | none => rw [copy_none notConstructed, keeps_construct_iff notConstructed]
  | some address =>
    obtain ⟨content, copied⟩ := copy_some notConstructed address source
    rw [copied, keepsConsistent_ok_iff, consistent_attach_iff]
    simp

/-- **A call keeps an image consistent, and unchanged when it throws, exactly when the
storage that the image is to get is provided.** -/
theorem Operation.keeps_iff (consistent : Consistent image) (operation : Operation n Value Space) :
    KeepsConsistent (operation.run image) image ↔ operation.Meets image := by
  rcases constructed : image.isConstructed with _ | _
  · have meets : operation.Meets image ↔ operation.Provided :=
      ⟨fun met => met constructed, fun provided _ => provided⟩
    rw [meets]
    cases operation with
    | construct allocation dims spacing origin =>
      exact keeps_construct_iff constructed allocation dims spacing origin
    | constructReference data content dims spacing origin =>
      exact keeps_constructReference_iff constructed data content dims spacing origin
    | constructReferenceToArray source spacing origin =>
      exact keeps_constructReference_iff constructed _ _ _ _ _
    | constructReferenceToImage source =>
      exact keeps_constructReference_iff constructed _ _ _ _ _
    | copy allocation source => exact keeps_copy_iff constructed allocation source
    | destruct =>
      exact iff_of_true (keepsConsistent_ok_iff.mpr (consistent_destruct image)) trivial
  · refine iff_of_true (keeps_of_constructed consistent constructed operation) ?_
    intro other
    rw [constructed] at other
    cases other

end OneCall

/-! ## Runs -/

section Runs

variable [Zero Value] [Field Space]

/-- The image after some calls, of which each may have thrown. -/
def imageAfter (operations : List (Operation n Value Space)) : Image n Value Space :=
  operations.foldl (fun image operation => (operation.run image).2) Image.empty

/-- An image is consistent before and after each call, and a call that throws leaves it as it
was. -/
structure StaysConsistent (operations : List (Operation n Value Space)) : Prop where
  states : ∀ earlier, earlier <+: operations → Consistent (imageAfter earlier)
  throws : ∀ earlier operation, earlier ++ [operation] <+: operations →
    LeavesUnchanged (operation.run (imageAfter earlier)) (imageAfter earlier)

theorem imageAfter_append_singleton (earlier : List (Operation n Value Space))
    (operation : Operation n Value Space) :
    imageAfter (earlier ++ [operation]) = (operation.run (imageAfter earlier)).2 := by
  rw [imageAfter, List.foldl_append]
  rfl

/-- What holds after every run whose calls all meet the condition. -/
theorem consistent_imageAfter {operations : List (Operation n Value Space)}
    (met : ∀ earlier operation, earlier ++ [operation] <+: operations →
      operation.Meets (imageAfter earlier)) : Consistent (imageAfter operations) := by
  induction operations using List.reverseRecOn with
  | nil => exact consistent_empty
  | append_singleton operations operation ih =>
    have before : Consistent (imageAfter operations) := by
      refine ih fun earlier other start => met earlier other ?_
      exact start.trans (List.prefix_append operations [operation])
    rw [imageAfter_append_singleton]
    exact ((operation.keeps_iff before).mpr (met operations operation List.prefix_rfl)).1

/-- **The runs in which an image stays consistent are those in which the storage of each
image that is to be constructed is provided.** -/
theorem staysConsistent_iff (operations : List (Operation n Value Space)) :
    StaysConsistent operations ↔
      ∀ earlier operation, earlier ++ [operation] <+: operations →
        operation.Meets (imageAfter earlier) := by
  constructor
  · intro stays earlier operation start
    have before : Consistent (imageAfter earlier) :=
      stays.states earlier ((List.prefix_append earlier [operation]).trans start)
    have after := stays.states (earlier ++ [operation]) start
    rw [imageAfter_append_singleton] at after
    exact (operation.keeps_iff before).mp ⟨after, stays.throws earlier operation start⟩
  · intro met
    have reached : ∀ earlier, earlier <+: operations → Consistent (imageAfter earlier) := by
      intro earlier start
      exact consistent_imageAfter fun first operation part =>
        met first operation (part.trans start)
    refine ⟨reached, fun earlier operation start => ?_⟩
    have before := reached earlier ((List.prefix_append earlier [operation]).trans start)
    exact ((operation.keeps_iff before).mpr (met earlier operation start)).2

end Runs

/-- An image of four pixels for which there is no memory. -/
theorem not_staysConsistent_allocation :
    ¬ StaysConsistent
      [(.construct none ![4] ![1] ![0] : Operation 1 ℤ ℚ)] := by
  intro stays
  have unchanged := stays.throws [] (.construct none ![4] ![1] ![0]) List.prefix_rfl
  exact construct_none_changes rfl ![4] ![1] ![0] unchanged

end AthabascaRecon
