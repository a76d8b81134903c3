import AthabascaRecon.Bonelab.Endian
import Mathlib.Data.List.Infix
import Mathlib.Tactic.Ring

/-!
# Reading every n-th projection

`StreamingRawProjectionsReader` reads one projection after another from its file. With
a stride it moves over the projections in between before every read but the first, and
`Rewind` goes back to the first projection. Where a read begins depends only on the number
of reads since then (`getNextProjection_afterReads`), which is what carries the invariant
over a history of calls (`serveAll_reader`).
-/

set_option autoImplicit false

namespace AthabascaRecon

/-- The position in the file, in bytes, and the number of projections read. -/
structure StreamingRawProjectionsReader where
  position : ℕ
  readCount : ℕ
  deriving DecidableEq, Repr

namespace StreamingRawProjectionsReader

variable (projectionStride byteCount : ℕ)

/-- The state after `Initialize`, and after `Rewind`. -/
def rewind : StreamingRawProjectionsReader where
  position := 0
  readCount := 0

/-- `GetNextProjection`, with the position at which the bytes of the projection begin. -/
def getNextProjection (reader : StreamingRawProjectionsReader) :
    ℕ × StreamingRawProjectionsReader :=
  let start :=
    if 1 < projectionStride ∧ 0 < reader.readCount then
      reader.position + (projectionStride - 1) * byteCount
    else reader.position
  (start, { position := start + byteCount, readCount := reader.readCount + 1 })

/-- The reader after a number of projections was read. -/
def afterReads : ℕ → StreamingRawProjectionsReader
  | 0 => rewind
  | count + 1 => (getNextProjection projectionStride byteCount (afterReads count)).2

/-- Which projection of the file the reader delivers next after `p` reads. -/
def fileIndex (p : ℕ) : ℕ :=
  (getNextProjection projectionStride byteCount (afterReads projectionStride byteCount p)).1 /
    byteCount

variable {projectionStride byteCount}

/-- The reader stands behind the last projection it delivered. -/
theorem afterReads_succ (positive : 0 < projectionStride) (p : ℕ) :
    afterReads projectionStride byteCount (p + 1) =
      ⟨(p * projectionStride + 1) * byteCount, p + 1⟩ := by
  induction p with
  | zero =>
      simp [afterReads, getNextProjection, rewind]
  | succ p ih =>
      rw [afterReads, ih, getNextProjection]
      obtain ⟨between, rfl⟩ : ∃ between, projectionStride = between + 1 :=
        ⟨projectionStride - 1, by omega⟩
      by_cases strides : 1 < between + 1
      · simp only [strides, Nat.succ_pos, and_self, if_true, Nat.add_sub_cancel]
        congr 1
        ring
      · obtain rfl : between = 0 := by omega
        simp [Nat.add_mul]

/-- The read after `p` others begins at projection `p*projectionStride`. -/
theorem getNextProjection_afterReads (positive : 0 < projectionStride) (p : ℕ) :
    getNextProjection projectionStride byteCount (afterReads projectionStride byteCount p) =
      (p * projectionStride * byteCount, afterReads projectionStride byteCount (p + 1)) := by
  refine Prod.ext ?_ rfl
  cases p with
  | zero => simp [afterReads, getNextProjection, rewind]
  | succ p =>
      rw [afterReads_succ positive, getNextProjection]
      obtain ⟨between, rfl⟩ : ∃ between, projectionStride = between + 1 :=
        ⟨projectionStride - 1, by omega⟩
      by_cases strides : 1 < between + 1
      · simp only [strides, Nat.succ_pos, and_self, if_true, Nat.add_sub_cancel]
        ring
      · obtain rfl : between = 0 := by omega
        simp

/-- **The p-th projection delivered is projection `p*projectionStride` of the file.** -/
theorem fileIndex_eq (positive : 0 < projectionStride) (bytes : 0 < byteCount) (p : ℕ) :
    fileIndex projectionStride byteCount p = p * projectionStride := by
  rw [fileIndex, getNextProjection_afterReads positive, Nat.mul_div_cancel _ bytes]

end StreamingRawProjectionsReader

/-! ## Histories of calls -/

/-- What the member functions of an initialised reader throw. -/
inductive ReaderFault where
  | assertionFailed
  | errorReadingFile
  deriving DecidableEq, Repr

/-- The image that is to be filled with a projection: whether it is constructed, its
number of pixels and its memory. -/
structure ProjectionImage (size : ℕ) where
  isConstructed : Bool
  pixels : ℕ
  memory : ℕ → ValueBytes size

/-- A call of a member function. Each call of `SwapBytes` for a pixel finds `out` in its
local union. -/
inductive ReaderCall (size : ℕ) where
  | getNextProjection (image : ProjectionImage size) (out : ℕ → ValueBytes size)
  | rewind

/-- What does not change while the file is read: its bytes, the product of the dimensions,
the stride and the byte orders. -/
structure ReaderSetup where
  file : List UInt8
  pixels : ℕ
  projectionStride : ℕ
  bigEndian : Bool
  host : EEndian

namespace ReaderSetup

variable {size : ℕ} (setup : ReaderSetup)

/-- `byte_count`, for pixels with `size` bytes. -/
def byteCount (size : ℕ) : ℕ := setup.pixels * size

/-- The byte order of the file. -/
def fileOrder : EEndian :=
  if setup.bigEndian then .bigEndianOrder else .littleEndianOrder

/-- `read`, from a position of the file that is followed by enough bytes. -/
def readFrom (start : ℕ) (memory : ℕ → ValueBytes size) : ℕ → ValueBytes size := fun p =>
  if p < setup.pixels then fun b => setup.file.getD (start + (p * size + b.val)) 0
  else memory p

/-- An image with the pixels of a projection of the file, in the byte order of the host. -/
def withProjection (index : ℕ) (image : ProjectionImage size) (out : ℕ → ValueBytes size) :
    ProjectionImage size :=
  { image with
    memory := (endianConversion setup.fileOrder setup.host out setup.pixels
      (setup.readFrom (index * setup.byteCount size) image.memory)).1 }

/-- `GetNextProjection`, with the image it leaves, the positions it moves to and reads up
to, and the reader afterwards. -/
def getNextProjection (image : ProjectionImage size) (out : ℕ → ValueBytes size)
    (reader : StreamingRawProjectionsReader) :
    Except ReaderFault (ProjectionImage size × List ℕ × StreamingRawProjectionsReader) :=
  if ¬ image.isConstructed then .error .assertionFailed
  else if image.pixels ≠ setup.pixels then .error .assertionFailed
  else
    let (start, after) := StreamingRawProjectionsReader.getNextProjection
      setup.projectionStride (setup.byteCount size) reader
    if start + setup.byteCount size ≤ setup.file.length then
      let memory := setup.readFrom start image.memory
      let converted := (endianConversion setup.fileOrder setup.host out image.pixels memory).1
      .ok ({ image with memory := converted }, [start, start + setup.byteCount size], after)
    else .error .errorReadingFile

/-- One call, with the positions that were reached so far. -/
def serve (state : List ℕ × StreamingRawProjectionsReader) (call : ReaderCall size) :
    Except ReaderFault (List ℕ × StreamingRawProjectionsReader) :=
  match call with
  | .rewind => .ok (state.1 ++ [0], StreamingRawProjectionsReader.rewind)
  | .getNextProjection image out =>
    (setup.getNextProjection image out state.2).map fun delivered =>
      (state.1 ++ delivered.2.1, delivered.2.2)

/-- The calls after `Initialize`, up to the first one that throws. -/
def serveAll (calls : List (ReaderCall size)) :
    Except ReaderFault (List ℕ × StreamingRawProjectionsReader) :=
  calls.foldlM setup.serve ([], StreamingRawProjectionsReader.rewind)

end ReaderSetup

/-- The number of reads since the last `Rewind`. -/
def readsSinceRewind {size : ℕ} (calls : List (ReaderCall size)) : ℕ :=
  calls.foldl (fun count call =>
    match call with
    | .rewind => 0
    | .getNextProjection _ _ => count + 1) 0

/-- The image is constructed with the dimensions of the projections. -/
def ReaderCall.Suitable {size : ℕ} (pixels : ℕ) : ReaderCall size → Prop
  | .rewind => True
  | .getNextProjection image _ => image.isConstructed = true ∧ image.pixels = pixels

namespace ReaderSetup

variable {size : ℕ} {setup : ReaderSetup}

@[simp]
theorem readsSinceRewind_rewind (calls : List (ReaderCall size)) :
    readsSinceRewind (calls ++ [.rewind]) = 0 := by
  rw [readsSinceRewind, List.foldl_append]
  rfl

@[simp]
theorem readsSinceRewind_getNextProjection (calls : List (ReaderCall size))
    (image : ProjectionImage size) (out : ℕ → ValueBytes size) :
    readsSinceRewind (calls ++ [.getNextProjection image out]) = readsSinceRewind calls + 1 := by
  rw [readsSinceRewind, List.foldl_append]
  rfl

theorem serveAll_append_singleton (calls : List (ReaderCall size)) (call : ReaderCall size) :
    setup.serveAll (calls ++ [call]) =
      (setup.serveAll calls).bind fun state => setup.serve state call := by
  simp only [serveAll, List.foldlM_append, List.foldlM_cons, List.foldlM_nil, bind_pure]
  rfl

/-- A read within the file delivers the projection that is due, and moves no farther than
its end. -/
theorem getNextProjection_eq_ok (positive : 0 < setup.projectionStride) (count : ℕ)
    {image : ProjectionImage size} (out : ℕ → ValueBytes size)
    (constructed : image.isConstructed = true) (dims : image.pixels = setup.pixels)
    (within : (count * setup.projectionStride + 1) * setup.byteCount size ≤
      setup.file.length) :
    setup.getNextProjection image out (StreamingRawProjectionsReader.afterReads
      setup.projectionStride (setup.byteCount size) count) =
      .ok (setup.withProjection (count * setup.projectionStride) image out,
        [count * setup.projectionStride * setup.byteCount size,
          (count * setup.projectionStride + 1) * setup.byteCount size],
        StreamingRawProjectionsReader.afterReads setup.projectionStride
          (setup.byteCount size) (count + 1)) := by
  rw [Nat.succ_mul] at within ⊢
  rw [getNextProjection, if_neg (not_not.mpr constructed), if_neg (not_not.mpr dims),
    StreamingRawProjectionsReader.getNextProjection_afterReads positive]
  dsimp only
  rw [if_pos within, withProjection, dims]

/-- A read that succeeds leaves the reader behind the projection. -/
theorem getNextProjection_reader {image : ProjectionImage size} {out : ℕ → ValueBytes size}
    {reader : StreamingRawProjectionsReader}
    {delivered : ProjectionImage size × List ℕ × StreamingRawProjectionsReader}
    (succeeded : setup.getNextProjection image out reader = .ok delivered) :
    delivered.2.2 = (StreamingRawProjectionsReader.getNextProjection setup.projectionStride
      (setup.byteCount size) reader).2 := by
  unfold getNextProjection at succeeded
  split_ifs at succeeded
  dsimp only at succeeded
  split_ifs at succeeded
  cases succeeded
  rfl

/-- After any history the reader is where its reads since the last `Rewind` have left it. -/
theorem serveAll_reader {calls : List (ReaderCall size)}
    {state : List ℕ × StreamingRawProjectionsReader} (served : setup.serveAll calls = .ok state) :
    state.2 = StreamingRawProjectionsReader.afterReads setup.projectionStride
      (setup.byteCount size) (readsSinceRewind calls) := by
  induction calls using List.reverseRecOn generalizing state with
  | nil =>
    cases served
    rfl
  | append_singleton calls call ih =>
    rw [serveAll_append_singleton] at served
    cases before : setup.serveAll calls with
    | error fault =>
      rw [before] at served
      cases served
    | ok earlier =>
      rw [before, Except.bind] at served
      cases call with
      | rewind =>
        cases served
        rw [readsSinceRewind_rewind]
        rfl
      | getNextProjection image out =>
        rw [readsSinceRewind_getNextProjection,
          StreamingRawProjectionsReader.afterReads, ← ih before]
        change (setup.getNextProjection image out earlier.2).map _ = _ at served
        cases read : setup.getNextProjection image out earlier.2 with
        | error fault =>
          rw [read] at served
          cases served
        | ok delivered =>
          rw [read] at served
          cases served
          exact getNextProjection_reader read

/-- **A history whose reads are all within the file never fails**, and reaches no position
past a bound that holds for them. -/
theorem serveAll_succeeds (positive : 0 < setup.projectionStride) {bound : ℕ}
    (bounded : bound ≤ setup.file.length) {calls : List (ReaderCall size)}
    (suitable : ∀ call ∈ calls, call.Suitable setup.pixels)
    (within : ∀ earlier image out, earlier ++ [.getNextProjection image out] <+: calls →
      (readsSinceRewind earlier * setup.projectionStride + 1) * setup.byteCount size ≤ bound) :
    ∃ state, setup.serveAll calls = .ok state ∧ ∀ position ∈ state.1, position ≤ bound := by
  induction calls using List.reverseRecOn with
  | nil => exact ⟨_, rfl, fun position none => absurd none List.not_mem_nil⟩
  | append_singleton calls call ih =>
    obtain ⟨state, served, reached⟩ := ih
      (fun earlier member => suitable earlier (List.mem_append_left _ member))
      (fun earlier image out start => within earlier image out
        (start.trans (List.prefix_append calls [call])))
    rw [serveAll_append_singleton, served, Except.bind]
    cases call with
    | rewind =>
      refine ⟨_, rfl, fun position member => ?_⟩
      rcases List.mem_append.mp member with before | here
      · exact reached position before
      · rw [List.mem_singleton.mp here]
        exact Nat.zero_le bound
    | getNextProjection image out =>
      obtain ⟨constructed, dims⟩ :=
        suitable (.getNextProjection image out) (List.mem_append_right _ List.mem_cons_self)
      have inside := within calls image out List.prefix_rfl
      rw [serve, serveAll_reader served,
        getNextProjection_eq_ok positive _ out constructed dims (inside.trans bounded)]
      refine ⟨_, rfl, fun position member => ?_⟩
      rw [Nat.succ_mul] at inside
      rcases List.mem_append.mp member with before | here
      · exact reached position before
      · rw [List.mem_pair, Nat.succ_mul] at here
        rcases here with rfl | rfl
        · exact (Nat.le_add_right _ _).trans inside
        · exact inside

/-- **In every history the next read delivers the projection that is due, in the byte order
of the host.** When no more projections are read between calls of `Rewind` than the launcher
counts, nothing fails and no position past the last projection is reached. -/
theorem serveAll_delivers (setup : ReaderSetup) (positive : 0 < setup.projectionStride) (n : ℕ)
    (whole : n * setup.byteCount size ≤ setup.file.length) :
    (∀ (earlier : List (ReaderCall size)) (state : List ℕ × StreamingRawProjectionsReader),
      setup.serveAll earlier = .ok state →
      ∀ (image : ProjectionImage size) (out : ℕ → ValueBytes size),
        image.isConstructed = true → image.pixels = setup.pixels →
        readsSinceRewind earlier * setup.projectionStride < n →
        ∃ reached after, setup.getNextProjection image out state.2 =
          .ok (setup.withProjection (readsSinceRewind earlier * setup.projectionStride)
            image out, reached, after)) ∧
    ∀ calls : List (ReaderCall size), (∀ call ∈ calls, call.Suitable setup.pixels) →
      (∀ earlier, earlier <+: calls → readsSinceRewind earlier ≤
        (n + setup.projectionStride - 1) / setup.projectionStride) →
      ∃ state, setup.serveAll calls = .ok state ∧
        ∀ position ∈ state.1, position ≤ n * setup.byteCount size := by
  have fits : ∀ {count : ℕ}, count * setup.projectionStride < n →
      (count * setup.projectionStride + 1) * setup.byteCount size ≤
        n * setup.byteCount size := fun inside => Nat.mul_le_mul_right _ inside
  constructor
  · intro earlier state served image out constructed dims inside
    rw [serveAll_reader served]
    exact ⟨_, _, getNextProjection_eq_ok positive _ out constructed dims
      ((fits inside).trans whole)⟩
  · intro calls suitable counted
    refine serveAll_succeeds positive whole suitable fun earlier image out start => fits ?_
    have count := counted _ start
    rw [readsSinceRewind_getNextProjection, Nat.le_div_iff_mul_le positive, Nat.succ_mul] at count
    omega

/-- The bytes of pixel `p` of the projection that is due, in the byte order of the host. -/
theorem getNextProjection_bytes (positive : 0 < setup.projectionStride) {n : ℕ}
    (whole : n * setup.byteCount size ≤ setup.file.length)
    (sound : setup.fileOrder = setup.host ∨ Even size) {earlier : List (ReaderCall size)}
    {state : List ℕ × StreamingRawProjectionsReader} (served : setup.serveAll earlier = .ok state)
    {image : ProjectionImage size} (out : ℕ → ValueBytes size)
    (constructed : image.isConstructed = true) (dims : image.pixels = setup.pixels)
    (inside : readsSinceRewind earlier * setup.projectionStride < n) :
    ∃ delivered reached after, setup.getNextProjection image out state.2 =
        .ok (delivered, reached, after) ∧
      ∀ p < setup.pixels, delivered.memory p = inOrderOf setup.fileOrder setup.host fun b =>
        setup.file.getD ((readsSinceRewind earlier * setup.projectionStride * setup.pixels + p) *
          size + b.val) 0 := by
  have within := (Nat.mul_le_mul_right (setup.byteCount size) inside).trans whole
  rw [serveAll_reader served]
  refine ⟨_, _, _, getNextProjection_eq_ok positive _ out constructed dims within, ?_⟩
  intro p pixel
  rw [withProjection]
  dsimp only
  rw [endianConversion_inOrderOf sound out _ pixel, readFrom, if_pos pixel]
  congr 1
  funext b
  congr 1
  rw [byteCount]
  ring

/-- Three projections of one pixel with two bytes each, of which every second is read. -/
theorem serveAll_delivers_second :
    let setup : ReaderSetup := ⟨[1, 2, 3, 4, 5, 6], 1, 2, true, .littleEndianOrder⟩
    let image : ProjectionImage 2 := ⟨true, 1, fun _ _ => 0⟩
    let read : ReaderCall 2 := .getNextProjection image fun _ _ => 0
    (∃ state, setup.serveAll [read, .rewind, read, read] = .ok state ∧
      ∀ position ∈ state.1, position ≤ 6) ∧
    ∃ reached after, setup.getNextProjection image (fun _ _ => 0) ⟨2, 1⟩ =
      .ok (setup.withProjection 2 image (fun _ _ => 0), reached, after) := by
  intro setup image read
  have delivers := @serveAll_delivers 2 setup (by decide) 3 (by decide)
  refine ⟨delivers.2 [read, .rewind, read, read] ?_ ?_, ?_⟩
  · intro call member
    simp only [List.mem_cons, List.not_mem_nil, or_false] at member
    rcases member with rfl | rfl | rfl | rfl
    · exact ⟨rfl, rfl⟩
    · trivial
    · exact ⟨rfl, rfl⟩
    · exact ⟨rfl, rfl⟩
  · intro earlier start
    have counted : ∀ earlier ∈ [read, .rewind, read, read].inits,
        readsSinceRewind earlier ≤ 2 := by decide
    exact (counted earlier ((List.mem_inits _ _).mpr start)).trans (by decide)
  · exact delivers.1 [read] ([0, 2], ⟨2, 1⟩) rfl image (fun _ _ => 0) rfl rfl (by decide)

end ReaderSetup

end AthabascaRecon
