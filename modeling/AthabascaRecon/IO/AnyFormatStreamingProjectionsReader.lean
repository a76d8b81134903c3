import AthabascaRecon.Configuration.ReadProjectionsInfo
import AthabascaRecon.IO.MetaImageRoundTrip
import AthabascaRecon.IO.StreamingMetaImageWriter
import Mathlib.Data.List.GetD

/-!
# Reading slices of a file with any format

`AnyFormatStreamingProjectionsReader` chooses a reader by the extension of the file name, and
leaves the rest to it. The chosen reader is kept when it cannot be initialised, but has no
open stream then.

What a `StreamingMetaImageWriter` has written is read back: after any history of reads the
next one delivers the slice that is due, with the bytes in the order of the host that reads
them (`written_delivered`).
-/

set_option autoImplicit false

namespace AthabascaRecon

open Foundation

/-! ## The reader -/

/-- What the member functions of a reader throw. -/
inductive AnyFormatFault where
  | assertionFailed
  | unsupportedFileType
  | ofHeader (failure : HeaderFailure)
  | ofReader (fault : ReaderFault)
  deriving DecidableEq, Repr

/-- A reader of one of the formats, which may have an open stream. -/
structure FormatReader where
  setup : ReaderSetup
  stream : Option StreamingRawProjectionsReader

/-- `AnyFormatStreamingProjectionsReader`, with what it hands on to the chosen reader. -/
structure AnyFormatReader where
  fileName : Text
  dimensions : Tuple2 ℤ
  projectionStride : ℕ
  worker : Option FormatReader

namespace AnyFormatReader

variable (reader : AnyFormatReader) (host : EEndian)

/-- A new reader of one of the formats. The byte order of a raw file is not handed on. -/
def newWorker (file : List UInt8) (bigEndian : Bool) : ReaderSetup where
  file := file
  pixels := ArrayBase.longProduct ![reader.dimensions.v, reader.dimensions.u]
  projectionStride := reader.projectionStride
  bigEndian := bigEndian
  host := host

/-- The reader with a chosen one that was initialised, or that failed to be. -/
def choose (files : Files)
    (initialised : Except HeaderFailure (Text × Bool × StreamingRawProjectionsReader)) :
    Except AnyFormatFault Unit × AnyFormatReader :=
  match initialised with
  | .error failure =>
    (.error (.ofHeader failure),
      { reader with worker := some ⟨reader.newWorker host [] false, none⟩ })
  | .ok (name, bigEndian, stream) =>
    (.ok (), { reader with
      worker := some ⟨reader.newWorker host (textBytes ((files name).getD [])) bigEndian,
        some stream⟩ })

/-- `Initialize`. -/
def initializeReader {Space : Type} (bits : ℕ) (readSpace : Text → Option Space)
    (files : Files) (fuel : ℕ) : Option (Except AnyFormatFault Unit × AnyFormatReader) :=
  if reader.fileName = [] then some (.error .assertionFailed, reader)
  else if reader.worker.isSome then some (.error .assertionFailed, reader)
  else if toLowerCopy (pathExtension reader.fileName) = ".raw".toList then
    some (reader.choose host files
      ((StreamingRawProjectionsReader.initializeFrom files reader.fileName).map fun stream =>
        (reader.fileName, false, stream)))
  else if toLowerCopy (pathExtension reader.fileName) = ".mhd".toList then
    (streamingMetaImageInitialize bits readSpace files fuel reader.fileName).map
      (reader.choose host files)
  else some (.error .unsupportedFileType, reader)

/-- The chosen reader goes on with its stream at another place. -/
def withStream (setup : ReaderSetup) (stream : StreamingRawProjectionsReader) : AnyFormatReader :=
  { reader with worker := some ⟨setup, some stream⟩ }

variable {size : ℕ}

/-- `GetNextProjection`, with the image it leaves and the positions it moves to and reads up
to. -/
def getNextProjection (image : ProjectionImage size) (out : ℕ → ValueBytes size) :
    Except AnyFormatFault (ProjectionImage size × List ℕ × AnyFormatReader) :=
  match reader.worker with
  | none => .error .assertionFailed
  | some ⟨_, none⟩ => .error .assertionFailed
  | some ⟨setup, some stream⟩ =>
    ((setup.getNextProjection image out stream).mapError .ofReader).map fun delivered =>
      (delivered.1, delivered.2.1, reader.withStream setup delivered.2.2)

/-- `Rewind`. -/
def rewind : Except AnyFormatFault AnyFormatReader :=
  match reader.worker with
  | none => .error .assertionFailed
  | some ⟨_, none⟩ => .error .assertionFailed
  | some ⟨setup, some _⟩ => .ok (reader.withStream setup .rewind)

/-- One call, with the positions that were reached so far. -/
def serve (state : List ℕ × AnyFormatReader) (call : ReaderCall size) :
    Except AnyFormatFault (List ℕ × AnyFormatReader) :=
  match call with
  | .rewind => (state.2.rewind).map fun reader => (state.1 ++ [0], reader)
  | .getNextProjection image out =>
    (state.2.getNextProjection image out).map fun delivered =>
      (state.1 ++ delivered.2.1, delivered.2.2)

/-- The calls after `Initialize`, up to the first one that throws. -/
def serveAll (calls : List (ReaderCall size)) : Except AnyFormatFault (List ℕ × AnyFormatReader) :=
  calls.foldlM serve ([], reader)

/-! ## What the chosen reader does -/

variable {reader} {setup : ReaderSetup} {stream : StreamingRawProjectionsReader}

theorem serve_withStream (reached : List ℕ) (call : ReaderCall size) :
    serve (reached, reader.withStream setup stream) call =
      ((setup.serve (reached, stream) call).mapError .ofReader).map fun state =>
        (state.1, reader.withStream setup state.2) := by
  cases call with
  | rewind => rfl
  | getNextProjection image out =>
    show Except.map _ (Except.map _ (Except.mapError _ (setup.getNextProjection image out stream)))
      = Except.map _ (Except.mapError _ (Except.map _ (setup.getNextProjection image out stream)))
    cases setup.getNextProjection image out stream with
    | error fault => rfl
    | ok delivered => rfl

/-- A history of calls is one of the chosen reader. -/
theorem serveAll_withStream (calls : List (ReaderCall size)) (reached : List ℕ) :
    calls.foldlM serve (reached, reader.withStream setup stream) =
      ((calls.foldlM setup.serve (reached, stream)).mapError .ofReader).map fun state =>
        (state.1, reader.withStream setup state.2) := by
  induction calls generalizing reached stream with
  | nil => rfl
  | cons call calls ih =>
    rw [List.foldlM_cons, List.foldlM_cons, serve_withStream]
    cases setup.serve (reached, stream) call with
    | error fault => rfl
    | ok state => exact ih state.1

/-! ## Elements of files -/

section Blocks

variable {Element Value : Type} {blockOf : Element → List Value} {length : ℕ}

/-- Where a list is made of blocks with one length, an element of a block is found by the
number of the block. -/
theorem getD_flatMap_of_blocks (even : ∀ element, (blockOf element).length = length)
    (elements : List Element) (otherwise : Value) {index offset : ℕ} (inside : offset < length)
    {element : Element} (found : elements[index]? = some element) :
    (elements.flatMap blockOf).getD (index * length + offset) otherwise =
      (blockOf element).getD offset otherwise := by
  induction elements generalizing index with
  | nil => simp at found
  | cons first elements ih =>
    rw [List.flatMap_cons]
    cases index with
    | zero =>
      obtain rfl : first = element := by simpa using found
      rw [Nat.zero_mul, Nat.zero_add, List.getD_append _ _ _ _ (by rwa [even])]
    | succ index =>
      rw [List.getElem?_cons_succ] at found
      rw [List.getD_append_right _ _ _ _ (by rw [even, Nat.succ_mul]; omega), even,
        show (index + 1) * length + offset - length = index * length + offset by
          rw [Nat.succ_mul]; omega]
      exact ih found

end Blocks

theorem getD_memoryBytes (memory : ℕ → ValueBytes size) {count p : ℕ} (inside : p < count)
    (b : Fin size) : (memoryBytes memory count).getD (p * size + b.val) 0 = memory p b := by
  rw [memoryBytes, getD_flatMap_of_blocks (fun p => List.length_ofFn) _ _ b.isLt
    (List.getElem?_range inside)]
  simp

/-- What is read at the place of a slice is the slice. -/
theorem readFrom_slice {stack : SliceStack size} {index : ℕ} {slice : ℕ → ValueBytes size}
    (found : stack.slices[index]? = some slice) (file : setup.file = stack.bytes)
    (pixels : setup.pixels = stack.sliceSize) (memory : ℕ → ValueBytes size) {p : ℕ}
    (inside : p < setup.pixels) :
    setup.readFrom (index * setup.byteCount size) memory p = slice p := by
  funext b
  have offset : p * size + b.val < stack.sliceSize * size := by
    have bound := b.isLt
    have next : (p + 1) * size ≤ stack.sliceSize * size :=
      Nat.mul_le_mul_right _ (by rw [← pixels]; exact inside)
    rw [Nat.succ_mul] at next
    omega
  rw [ReaderSetup.readFrom, if_pos inside, file, ReaderSetup.byteCount, pixels, SliceStack.bytes,
    getD_flatMap_of_blocks (fun slice => length_memoryBytes slice _) _ _ offset found,
    getD_memoryBytes slice (by rw [← pixels]; exact inside)]

theorem length_bytes (stack : SliceStack size) :
    stack.bytes.length = stack.slices.length * (stack.sliceSize * size) := by
  have blocks : ∀ slices : List (ℕ → ValueBytes size),
      (slices.flatMap fun slice => memoryBytes slice stack.sliceSize).length =
        slices.length * (stack.sliceSize * size) := by
    intro slices
    induction slices with
    | nil => simp
    | cons slice slices ih =>
      rw [List.flatMap_cons, List.length_append, ih, length_memoryBytes, List.length_cons,
        Nat.succ_mul, Nat.add_comm]
  exact blocks stack.slices

/-! ## Delivered slices -/

/-- A read that is due within a stack of slices delivers a slice, and one behind it fails. -/
theorem getNextProjection_stack {stack : SliceStack size} {host here : EEndian}
    (sound : host = here ∨ Even size) (positive : 0 < setup.projectionStride)
    (file : setup.file = stack.bytes) (pixels : setup.pixels = stack.sliceSize)
    (order : setup.fileOrder = host) (native : setup.host = here) (count : ℕ)
    {image : ProjectionImage size} (out : ℕ → ValueBytes size)
    (constructed : image.isConstructed = true) (dims : image.pixels = setup.pixels) :
    (∀ slice, stack.slices[count * setup.projectionStride]? = some slice →
      ∃ delivered reached after,
        setup.getNextProjection image out (StreamingRawProjectionsReader.afterReads
          setup.projectionStride (setup.byteCount size) count) = .ok (delivered, reached, after) ∧
        ∀ p < image.pixels, delivered.memory p = inOrderOf host here (slice p)) ∧
    (stack.slices.length ≤ count * setup.projectionStride → 0 < setup.byteCount size →
      setup.getNextProjection image out (StreamingRawProjectionsReader.afterReads
        setup.projectionStride (setup.byteCount size) count) = .error .errorReadingFile) := by
  have length : setup.file.length = stack.slices.length * setup.byteCount size := by
    rw [file, length_bytes, ReaderSetup.byteCount, pixels]
  constructor
  · intro slice found
    have inside : count * setup.projectionStride < stack.slices.length :=
      (List.getElem?_eq_some_iff.mp found).1
    have within : (count * setup.projectionStride + 1) * setup.byteCount size ≤
        setup.file.length := by
      rw [length]
      exact Nat.mul_le_mul_right _ inside
    refine ⟨_, _, _, ReaderSetup.getNextProjection_eq_ok positive count out constructed dims
      within, fun p bound => ?_⟩
    rw [dims] at bound
    rw [ReaderSetup.withProjection, order, native]
    dsimp only
    rw [endianConversion_inOrderOf sound out _ bound, readFrom_slice found file pixels _ bound]
  · intro behind some_bytes
    have tooFar : ¬ count * setup.projectionStride * setup.byteCount size +
        setup.byteCount size ≤ setup.file.length := by
      rw [length, not_le]
      have start := Nat.mul_le_mul_right (setup.byteCount size) behind
      omega
    rw [ReaderSetup.getNextProjection, if_neg (not_not.mpr constructed), if_neg (not_not.mpr dims),
      StreamingRawProjectionsReader.getNextProjection_afterReads positive]
    dsimp only
    rw [if_neg tooFar]

/-! ## Reading what was written -/

/-- After any history the next read delivers the slice that is due, and fails behind the last
one. -/
theorem serveAll_stack {stack : SliceStack size} {host here : EEndian}
    (sound : host = here ∨ Even size) (positive : 0 < setup.projectionStride)
    (file : setup.file = stack.bytes) (pixels : setup.pixels = stack.sliceSize)
    (order : setup.fileOrder = host) (native : setup.host = here)
    {earlier : List (ReaderCall size)} {served : List ℕ × AnyFormatReader}
    (history : (reader.withStream setup .rewind).serveAll earlier = .ok served)
    {image : ProjectionImage size} (out : ℕ → ValueBytes size)
    (constructed : image.isConstructed = true) (dims : image.pixels = setup.pixels) :
    (∀ slice, stack.slices[readsSinceRewind earlier * setup.projectionStride]? = some slice →
      ∃ delivered reached after,
        served.2.getNextProjection image out = .ok (delivered, reached, after) ∧
        ∀ p < image.pixels, delivered.memory p = inOrderOf host here (slice p)) ∧
    (stack.slices.length ≤ readsSinceRewind earlier * setup.projectionStride →
      0 < setup.byteCount size →
      served.2.getNextProjection image out = .error (.ofReader .errorReadingFile)) := by
  obtain ⟨state, before, rfl⟩ : ∃ state, setup.serveAll earlier = .ok state ∧
      (state.1, reader.withStream setup state.2) = served := by
    rw [serveAll, serveAll_withStream] at history
    change ((setup.serveAll earlier).mapError _).map _ = _ at history
    cases run : setup.serveAll earlier with
    | error fault =>
      rw [run] at history
      cases history
    | ok state =>
      rw [run] at history
      cases history
      exact ⟨state, rfl, rfl⟩
  have delegated : (reader.withStream setup state.2).getNextProjection image out =
      ((setup.getNextProjection image out state.2).mapError .ofReader).map fun delivered =>
        (delivered.1, delivered.2.1, reader.withStream setup delivered.2.2) := rfl
  obtain ⟨delivers, fails⟩ := getNextProjection_stack sound positive file pixels order native
    (readsSinceRewind earlier) out constructed dims
  rw [← ReaderSetup.serveAll_reader before] at delivers fails
  constructor
  · intro slice due
    obtain ⟨delivered, reached, after, read, values⟩ := delivers slice due
    rw [delegated, read]
    exact ⟨_, _, _, rfl, values⟩
  · intro behind some_bytes
    rw [delegated, fails behind some_bytes]
    rfl

/-- The name of a raw file that a header can hold. -/
structure NamesRawFile (name : Text) : Prop where
  oneLine : '\n' ∉ name
  unbroken : '=' ∉ name
  trimmed : trim name = name

section Header

variable {Space : Type} {N bits : ℕ} {bigEndian : Bool} {writeSpace : Space → Text}
  {readSpace : Text → Option Space} {header : MetaImageHeader Space N}

/-- The numbers may have been rounded. -/
theorem getInformation_rounded (some_axis : 0 < N)
    (legible : header.Legible bits writeSpace readSpace)
    (named : NamesRawFile header.rawFileName) :
    getInformation bits readSpace 10 (formatMetaInfo bigEndian writeSpace header) =
      some (.ok ((header.reread writeSpace readSpace).information bigEndian)) := by
  obtain ⟨piece, split, trimmed⟩ := trim_piece_eq_iff.mpr ⟨named.unbroken, named.trimmed⟩
  rw [getInformation_of_legible some_axis legible named.oneLine, split]
  dsimp only
  rw [trimmed]
  rfl

theorem getInformation_written (some_axis : 0 < N)
    (faithful : header.Faithful bits writeSpace readSpace)
    (named : NamesRawFile header.rawFileName) :
    getInformation bits readSpace 10 (formatMetaInfo bigEndian writeSpace header) =
      some (.ok (header.information bigEndian)) := by
  rw [getInformation_rounded some_axis faithful.legible named, faithful.reread]

/-- `Initialize` opens the raw file that the header names. -/
theorem streamingMetaImageInitialize_written {files : Files} {name data : Text}
    (some_axis : 0 < N) (legible : header.Legible bits writeSpace readSpace)
    (named : NamesRawFile header.rawFileName) (some_name : name ≠ [])
    (some_raw : header.rawFileName ≠ [])
    (headerFile : files name = some (formatMetaInfo bigEndian writeSpace header))
    (dataFile : files header.rawFileName = some data) :
    streamingMetaImageInitialize bits readSpace files 10 name =
      some (.ok (header.rawFileName, bigEndian, .rewind)) := by
  have read : informationOfFile bits readSpace files 10 name =
      some (.ok ((header.reread writeSpace readSpace).information bigEndian)) :=
    informationOfFile_eq_ok_iff.mpr
      ⟨some_name, _, headerFile, getInformation_rounded some_axis legible named⟩
  have opened : StreamingRawProjectionsReader.initializeFrom files
      ((header.reread writeSpace readSpace).information bigEndian).rawFileName = .ok .rewind := by
    show StreamingRawProjectionsReader.initializeFrom files header.rawFileName = _
    rw [StreamingRawProjectionsReader.initializeFrom, if_neg some_raw, openFile, dataFile]
    rfl
  have initialised :
      initializeWith files ((header.reread writeSpace readSpace).information bigEndian) =
        .ok (header.rawFileName, bigEndian, .rewind) := by
    rw [initializeWith, opened]
    rfl
  rw [streamingMetaImageInitialize, read]
  exact congrArg some initialised

end Header

section RoundTrip

open Runs WritingState

variable {Space : Type} {writeBits readBits : ℕ} {host : EEndian}
  {elementType : DataType} {writeSpace : Space → Text} {readSpace : Text → Option Space}
  {state next : WritingState Space}

/-- The reader of a header in which the writer has the same dimensions. -/
structure Reads (reader : AnyFormatReader) (writer : StreamingMetaImageWriter Space) : Prop where
  fileName : reader.fileName = writer.metaFileName
  format : toLowerCopy (pathExtension writer.metaFileName) = ".mhd".toList
  dimensions : reader.dimensions = writer.sliceDimensions
  stride : 0 < reader.projectionStride
  unused : reader.worker = none

theorem ne_nil_of_pathExtension {path extension : Text} (some_extension : extension ≠ [])
    (same : toLowerCopy (pathExtension path) = extension) : path ≠ [] := by
  rintro rfl
  exact some_extension same.symm

/-- The header and the data file of a writer lead to a reader of its data file. -/
theorem initializeReader_written (here : EEndian) {bytes : List UInt8}
    (headerFile : next.files state.writer.metaFileName =
      some (formatMetaInfo (decide (host = .bigEndianOrder)) writeSpace
        (state.writer.header elementType)))
    (dataFile : next.files state.writer.dataFileName = some (bytesText bytes))
    (some_raw : state.writer.dataFileName ≠ [])
    (legible : (state.writer.header elementType).Legible readBits writeSpace readSpace)
    (named : NamesRawFile state.writer.dataFileName) (reads : reader.Reads state.writer) :
    reader.initializeReader here readBits readSpace next.files 10 =
      some (.ok (), reader.withStream
        (reader.newWorker here bytes (decide (host = .bigEndianOrder))) .rewind) := by
  have format := reads.format
  rw [← reads.fileName] at format headerFile
  have some_name : reader.fileName ≠ [] := ne_nil_of_pathExtension (by decide) format
  have initialised := streamingMetaImageInitialize_written (by decide) legible named some_name
    some_raw headerFile dataFile
  rw [initializeReader, if_neg some_name, reads.unused, format, if_neg (by simp),
    if_neg (by decide), if_pos rfl, initialised, Option.map_some, choose]
  show some (_, reader.withStream (reader.newWorker here (textBytes ((next.files
    state.writer.dataFileName).getD [])) _) _) = _
  rw [dataFile, Option.getD_some, textBytes_bytesText]

/-- **What was written is read back.** After any history of reads the next one delivers the slice
that is due, in the byte order of the host, and throws behind the last slice. -/
theorem written_delivered [Zero Space] (here : EEndian) (reader : AnyFormatReader)
    (wide : 32 ≤ writeBits) (files : Files) (calls : List (WriterCall size Space))
    (tidy : Guarded (WritingState.step writeBits host elementType writeSpace) Tidy
      ⟨.new, files⟩ calls)
    (returned : Runs.run (WritingState.step writeBits host elementType writeSpace)
      ⟨.new, files⟩ calls = some state)
    (isOpen : state.writer.isOpen = true) (closing : Closing)
    (destroyed : state.destroy host elementType writeSpace closing = (.ok (), next))
    (flushed : closing.flushing = .success)
    (legible : (state.writer.header elementType).Legible readBits writeSpace readSpace)
    (named : NamesRawFile state.writer.dataFileName) (reads : reader.Reads state.writer)
    (sound : host = here ∨ Even size) :
    ∃ ready, reader.initializeReader here readBits readSpace next.files 10 =
        some (.ok (), ready) ∧
      ∀ (earlier : List (ReaderCall size)) (served : List ℕ × AnyFormatReader),
        ready.serveAll earlier = .ok served →
        ∀ (image : ProjectionImage size) (out : ℕ → ValueBytes size),
          image.isConstructed = true → image.pixels = state.writer.sliceSize →
          (∀ slice, (SliceStack.writtenBy calls).slices[readsSinceRewind earlier *
              reader.projectionStride]? = some slice →
            ∃ delivered reached after,
              served.2.getNextProjection image out = .ok (delivered, reached, after) ∧
              ∀ p < image.pixels, delivered.memory p = inOrderOf host here (slice p)) ∧
          ((SliceStack.writtenBy calls).slices.length ≤ readsSinceRewind earlier *
              reader.projectionStride →
            0 < state.writer.sliceSize * size →
            served.2.getNextProjection image out = .error (.ofReader .errorReadingFile)) := by
  have records : Records (SliceStack.writtenBy calls) state :=
    (records_new files).run wide tidy returned
  obtain ⟨headerFile, -, data⟩ := records.destroy wide (.inl rfl) isOpen destroyed
  rw [flushed] at headerFile
  obtain ⟨-, dataFile⟩ := data (records.good isOpen)
  have some_raw : state.writer.dataFileName ≠ [] := by
    have some_meta := ne_nil_of_pathExtension (by decide) reads.format
    rw [records.named.resolve_left some_meta]
    exact List.append_ne_nil_of_right_ne_nil _ (by decide)
  have initialised := initializeReader_written here headerFile dataFile some_raw
    legible named reads
  refine ⟨_, initialised, fun earlier served history image out constructed dims => ?_⟩
  have pixels : (reader.newWorker here (SliceStack.writtenBy calls).bytes
      (decide (host = .bigEndianOrder))).pixels = state.writer.sliceSize := by
    rw [newWorker, reads.dimensions]
    rfl
  have order : (reader.newWorker here (SliceStack.writtenBy calls).bytes
      (decide (host = .bigEndianOrder))).fileOrder = host := by
    cases host <;> rfl
  have delivers := serveAll_stack sound reads.stride rfl (pixels.trans records.sliceSize.symm)
    order rfl history out constructed (dims.trans pixels.symm)
  rw [ReaderSetup.byteCount, pixels] at delivers
  exact delivers

/-- The header of three slices, with spaces that are whole numbers. -/
def threeSlicesHeader : MetaImageHeader ℤ 3 where
  offset := #v[0, 0, 0]
  elementSpacing := #v[0, 25, 25]
  dimSize := #v[3, 1, 2]
  elementType := .uint16
  rawFileName := "scan.raw".toList

theorem faithful_threeSlicesHeader :
    threeSlicesHeader.Faithful 32 showInteger (lexicalCast 64) where
  nDims := by decide
  dimSize := by
    show ∀ size ∈ [3, 1, 2], fitsSigned 32 size = true
    decide
  tokens space _ := isToken_showInteger space
  spaces space member := by
    apply lexicalCast_showInteger
    revert space
    show ∀ space ∈ [0, 0, 0, 0, 25, 25], fitsSigned 64 space = true
    decide

/-- Every second of three slices is read on a host with the other byte order. -/
theorem written_delivered_threeSlices :
    let reader : AnyFormatReader := ⟨"scan.mhd".toList, ⟨1, 2⟩, 2, none⟩
    let read : ReaderCall 2 := .getNextProjection ⟨true, 2, fun _ _ => 0⟩ fun _ _ => 0
    ∃ (next : WritingState ℤ) (ready : AnyFormatReader) (served : List ℕ × AnyFormatReader),
      reader.initializeReader .bigEndianOrder 32 (lexicalCast 64) next.files 10 =
        some (.ok (), ready) ∧
      ready.serveAll [read] = .ok served ∧
      ∃ delivered reached after,
        served.2.getNextProjection (⟨true, 2, fun _ _ => 0⟩ : ProjectionImage 2) (fun _ _ => 0) =
          .ok (delivered, reached, after) ∧
        ∀ p < 2, delivered.memory p =
          inOrderOf .littleEndianOrder .bigEndianOrder (fun _ => UInt8.ofNat (2 + p + 10)) := by
  intro reader read
  have tidy : Guarded (WritingState.step 32 .littleEndianOrder .uint16 showInteger) Tidy
      ⟨.new, fun _ => none⟩ threeSlices := by decide
  obtain ⟨ready, initialised, delivers⟩ := written_delivered .bigEndianOrder reader
    le_rfl (fun _ => none) threeSlices tidy rfl rfl
    ⟨.success, .success, .success, .success⟩ rfl rfl faithful_threeSlicesHeader.legible
    ⟨by decide, by decide, by decide⟩ ⟨rfl, by decide, rfl, by decide, rfl⟩ (.inr (by decide))
  obtain ⟨_, reached, after, first, -⟩ := (delivers ([] : List (ReaderCall 2)) _ rfl
    ⟨true, 2, fun _ _ => 0⟩ (fun _ _ => 0) rfl (by decide)).1 _ rfl
  have history : ready.serveAll [read] = .ok (reached, after) := by
    rw [serveAll, List.foldlM_cons, serve, first]
    rfl
  obtain ⟨delivered, _, _, second, values⟩ := (delivers _ _ history ⟨true, 2, fun _ _ => 0⟩
    (fun _ _ => 0) rfl (by decide)).1 _ rfl
  exact ⟨_, ready, _, initialised, history, delivered, _, _, second, values⟩

end RoundTrip

end AnyFormatReader

end AthabascaRecon
