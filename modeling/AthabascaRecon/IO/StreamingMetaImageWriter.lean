import AthabascaRecon.Foundation.Files
import AthabascaRecon.Foundation.Runs
import AthabascaRecon.IO.MetaImageData
import AthabascaRecon.IO.MetaImageWriter
import AthabascaRecon.IO.StreamingRawProjectionsReader

/-!
# Writing slices

A `StreamingMetaImageWriter` writes slices to a data file as it gets them, and the header when
it is closed, or destroyed while the data file is open. The header has the number of slices
that the writer has counted, and a slice is counted when it has been written.

So whichever call throws, the header that is written afterwards is about the slices of the
calls that returned, and unless the stream itself failed the data file contains these
slices and nothing else (`destroy_describes`). The file name and the dimensions may not be
set while the data file is open. Nor may it be opened again, which fails, but leaves a header
about no slices (`destroy_of_reopened`).

The header is written to a stream of its own, which is never closed. What it still has in its
buffer is written when it is destroyed, and a failure is not noticed then.
-/

set_option autoImplicit false

namespace AthabascaRecon

open Foundation Runs

/-! ## The writer -/

/-- What the member functions of a writer throw. An `assert` of the language aborts. -/
inductive WriterFault where
  | assertionFailed
  | aborted
  | divisionByZero
  | standard
  | errorOpeningFile (name : Text)
  | errorWritingFile (name : Text)
  | errorOccurredWritingFile (name : Text)
  deriving DecidableEq, Repr

/-- A `StreamingMetaImageWriter`. The data file stream throws once it was told to, may be open,
and is good until something fails. -/
structure StreamingMetaImageWriter (Space : Type) where
  sliceDimensions : Tuple2 ℤ
  origin : Vector Space 3
  elementSize : Vector Space 3
  numberOfSlices : ℤ
  metaFileName : Text
  dataFileName : Text
  throws : Bool
  isOpen : Bool
  good : Bool

/-- A writer and the files. -/
structure WritingState (Space : Type) where
  writer : StreamingMetaImageWriter Space
  files : Files

/-- A call that returns or throws, and what it leaves. -/
abbrev WriterAttempt (Space : Type) := Except WriterFault Unit × WritingState Space

namespace StreamingMetaImageWriter

variable {Space : Type}

/-- The constructor. -/
def new [Zero Space] : StreamingMetaImageWriter Space where
  sliceDimensions := ⟨0, 0⟩
  origin := Vector.replicate 3 0
  elementSize := Vector.replicate 3 0
  numberOfSlices := 0
  metaFileName := []
  dataFileName := []
  throws := false
  isOpen := false
  good := true

/-- `SetFileName`. -/
def setFileName (writer : StreamingMetaImageWriter Space) (name : Text) :
    StreamingMetaImageWriter Space :=
  { writer with metaFileName := name, dataFileName := changeExtension name ".raw".toList }

/-- `SetSliceOrigin`. -/
def setSliceOrigin [Zero Space] (writer : StreamingMetaImageWriter Space) (origin : Tuple2 Space) :
    StreamingMetaImageWriter Space :=
  { writer with origin := #v[0, origin.v, origin.u] }

/-- `SetPixelSize`. -/
def setPixelSize [Zero Space] (writer : StreamingMetaImageWriter Space)
    (pixelSize : Tuple2 Space) : StreamingMetaImageWriter Space :=
  { writer with elementSize := #v[0, pixelSize.v, pixelSize.u] }

/-- `long_product(m_SliceDimensions)`. -/
def sliceSize (writer : StreamingMetaImageWriter Space) : ℕ :=
  ArrayBase.longProduct ![writer.sliceDimensions.v, writer.sliceDimensions.u]

/-- What `WriteMetaFile` writes. -/
def header (writer : StreamingMetaImageWriter Space) (elementType : DataType) :
    MetaImageHeader Space 3 where
  offset := writer.origin
  elementSpacing := writer.elementSize
  dimSize := #v[writer.numberOfSlices, writer.sliceDimensions.v, writer.sliceDimensions.u]
  elementType := elementType
  rawFileName := writer.dataFileName

end StreamingMetaImageWriter

/-- The bytes of some elements in memory. -/
def memoryBytes {size : ℕ} (memory : ℕ → ValueBytes size) (count : ℕ) : List UInt8 :=
  (List.range count).flatMap fun p => List.ofFn (memory p)

namespace WritingState

variable {Space : Type} {size : ℕ} (state : WritingState Space)

/-- The stream fails, and leaves the data file with some content. -/
def streamFails (content : Option Text) : WritingState Space where
  writer := { state.writer with good := false }
  files := Function.update state.files state.writer.dataFileName content

/-- A slice count is an `int`. -/
def countSlices (count : ℤ) : WritingState Space :=
  { state with
    writer := { state.writer with
      numberOfSlices := toSigned 32 (state.writer.numberOfSlices + count) } }

/-- `StreamingRawWriter::Initialize`. A stream that is not good throws when its exceptions
are set. -/
def initializeWriter (opening : Outcome) : WriterAttempt Space :=
  if state.writer.dataFileName = [] then (.error .assertionFailed, state)
  else
    let state := { state with
      writer := { state.writer with numberOfSlices := 0, throws := true } }
    if ¬ state.writer.good then (.error .standard, state)
    else if state.writer.isOpen then
      (.error (.errorOpeningFile state.writer.dataFileName),
        { state with writer := { state.writer with good := false } })
    else match opening with
      | .failure content =>
        (.error (.errorOpeningFile state.writer.dataFileName), state.streamFails content)
      | .success => (.ok (), {
          writer := { state.writer with isOpen := true }
          files := Function.update state.files state.writer.dataFileName (some []) })

/-- `safe_stream_write`. A stream that is not good writes nothing, and may throw or not. -/
def safeStreamWrite (writing : Outcome) (bytes : List UInt8) : WriterAttempt Space :=
  match writing with
  | .failure content =>
    (.error (.errorWritingFile state.writer.dataFileName),
      if state.writer.good then state.streamFails content else state)
  | .success =>
    (.ok (),
      if state.writer.good then
        { state with
          files := Function.update state.files state.writer.dataFileName
            ((state.files state.writer.dataFileName).map (· ++ bytesText bytes)) }
      else state)

/-- The slices are counted when they have been written. -/
def countWritten (count : ℤ) (attempt : WriterAttempt Space) : WriterAttempt Space :=
  match attempt with
  | (.ok _, state) => (.ok (), state.countSlices count)
  | failed => failed

/-- `WriteSlice`. -/
def writeSlice (image : ProjectionImage size) (writing : Outcome) : WriterAttempt Space :=
  if ¬ image.isConstructed then (.error .assertionFailed, state)
  else if ¬ state.writer.isOpen then (.error .assertionFailed, state)
  else if image.pixels ≠ state.writer.sliceSize then (.error .assertionFailed, state)
  else countWritten 1 (state.safeStreamWrite writing (memoryBytes image.memory image.pixels))

/-- `WriteStack`. The number of slices is calculated in an index type with a number of
bits. -/
def writeStack (bits : ℕ) (stack : ProjectionImage size) (writing : Outcome) :
    WriterAttempt Space :=
  if ¬ stack.isConstructed then (.error .assertionFailed, state)
  else if ¬ state.writer.isOpen then (.error .assertionFailed, state)
  else if state.writer.sliceSize = 0 then (.error .divisionByZero, state)
  else if stack.pixels % state.writer.sliceSize ≠ 0 then (.error .assertionFailed, state)
  else countWritten (toSigned bits (stack.pixels / state.writer.sliceSize : ℕ))
    (state.safeStreamWrite writing (memoryBytes stack.memory stack.pixels))

/-- What the file system does while a writer is closed. The header is flushed when its stream is
destroyed. -/
structure Closing where
  data : Outcome
  opening : Outcome
  writing : Outcome
  flushing : Outcome
  deriving DecidableEq, Repr

variable (host : EEndian) (elementType : DataType) (writeSpace : Space → Text)

/-- `WriteMetaFile`. The destructor of the stream swallows a failure. -/
def writeMetaFile (closing : Closing) : WriterAttempt Space :=
  let name := state.writer.metaFileName
  let leave := fun content => { state with files := Function.update state.files name content }
  if toLowerCopy (pathExtension name) = ".raw".toList then (.error .aborted, state)
  else if name = [] then (.error .aborted, state)
  else match closing.opening with
    | .failure content => (.error (.errorOpeningFile name), leave content)
    | .success => match closing.writing with
      | .failure content => (.error (.errorOccurredWritingFile name), leave content)
      | .success => (.ok (), leave (closing.flushing.leaves (formatMetaInfo
          (decide (host = .bigEndianOrder)) writeSpace (state.writer.header elementType))))

/-- `Close`. -/
def close (closing : Closing) : WriterAttempt Space :=
  if ¬ state.writer.isOpen then
    let failed := { state with writer := { state.writer with good := false } }
    if state.writer.throws then (.error .standard, failed)
    else failed.writeMetaFile host elementType writeSpace closing
  else
    let closed := { state with writer := { state.writer with isOpen := false } }
    match closing.data with
    | .failure content => (.error .standard, closed.streamFails content)
    | .success => closed.writeMetaFile host elementType writeSpace closing

/-- The destructor. -/
def destroy (closing : Closing) : WriterAttempt Space :=
  if state.writer.isOpen then state.close host elementType writeSpace closing
  else (.ok (), state)

end WritingState

theorem isExtension_raw : IsExtension ".raw".toList where
  dotted := ⟨"raw".toList, rfl, by decide, by decide⟩
  inName := by decide

/-! ## Histories of calls -/

/-- A call of a member function, with what the file system does during the call. -/
inductive WriterCall (size : ℕ) (Space : Type) where
  | setFileName (name : Text)
  | setSliceDimensions (dims : Tuple2 ℤ)
  | setOrigin (origin : Vector Space 3)
  | setSliceOrigin (origin : Tuple2 Space)
  | setElementSize (elementSize : Vector Space 3)
  | setPixelSize (pixelSize : Tuple2 Space)
  | initializeWriter (opening : Outcome)
  | writeSlice (image : ProjectionImage size) (writing : Outcome)
  | writeStack (stack : ProjectionImage size) (writing : Outcome)
  | close (closing : WritingState.Closing)

namespace WritingState

variable {Space : Type} {size : ℕ} [Zero Space]

section Steps

variable (bits : ℕ) (host : EEndian) (elementType : DataType) (writeSpace : Space → Text)

/-- One call. -/
def attempt (state : WritingState Space) : WriterCall size Space → WriterAttempt Space
  | .setFileName name => (.ok (), { state with writer := state.writer.setFileName name })
  | .setSliceDimensions dims =>
    (.ok (), { state with writer := { state.writer with sliceDimensions := dims } })
  | .setOrigin origin => (.ok (), { state with writer := { state.writer with origin := origin } })
  | .setSliceOrigin origin =>
    (.ok (), { state with writer := state.writer.setSliceOrigin origin })
  | .setElementSize elementSize =>
    (.ok (), { state with writer := { state.writer with elementSize := elementSize } })
  | .setPixelSize pixelSize =>
    (.ok (), { state with writer := state.writer.setPixelSize pixelSize })
  | .initializeWriter opening => state.initializeWriter opening
  | .writeSlice image writing => state.writeSlice image writing
  | .writeStack stack writing => state.writeStack bits stack writing
  | .close closing => state.close host elementType writeSpace closing

/-- A call that returns. -/
def step (state : WritingState Space) (call : WriterCall size Space) :
    Option (WritingState Space) :=
  match state.attempt bits host elementType writeSpace call with
  | (.ok _, next) => some next
  | (.error _, _) => none

end Steps

/-- The file and the dimensions do not change while the data file is open. -/
def Tidy (state : WritingState Space) : WriterCall size Space → Prop
  | .setFileName _ => state.writer.isOpen = false
  | .setSliceDimensions _ => state.writer.isOpen = false
  | .initializeWriter _ => state.writer.isOpen = false
  | _ => True

instance decidableTidy (state : WritingState Space) :
    ∀ call : WriterCall size Space, Decidable (Tidy state call)
  | .setFileName _ => inferInstanceAs (Decidable (state.writer.isOpen = false))
  | .setSliceDimensions _ => inferInstanceAs (Decidable (state.writer.isOpen = false))
  | .initializeWriter _ => inferInstanceAs (Decidable (state.writer.isOpen = false))
  | .setOrigin _ => isTrue trivial
  | .setSliceOrigin _ => isTrue trivial
  | .setElementSize _ => isTrue trivial
  | .setPixelSize _ => isTrue trivial
  | .writeSlice _ _ => isTrue trivial
  | .writeStack _ _ => isTrue trivial
  | .close _ => isTrue trivial

end WritingState

/-! ## What a history writes -/

/-- A stack of slices of one size. -/
structure SliceStack (size : ℕ) where
  sliceSize : ℕ
  slices : List (ℕ → ValueBytes size)

namespace SliceStack

variable {size : ℕ} {Space : Type}

/-- The slices that lie one after another in memory. -/
def cut (sliceSize pixels : ℕ) (memory : ℕ → ValueBytes size) : List (ℕ → ValueBytes size) :=
  (List.range (pixels / sliceSize)).map fun k p => memory (k * sliceSize + p)

/-- What a call is for. -/
def after (stack : SliceStack size) : WriterCall size Space → SliceStack size
  | .setSliceDimensions dims => { stack with sliceSize := ArrayBase.longProduct ![dims.v, dims.u] }
  | .initializeWriter _ => { stack with slices := [] }
  | .writeSlice image _ => { stack with slices := stack.slices ++ [image.memory] }
  | .writeStack image _ =>
    { stack with slices := stack.slices ++ cut stack.sliceSize image.pixels image.memory }
  | _ => stack

/-- The stack that a history of calls writes. -/
def writtenBy (calls : List (WriterCall size Space)) : SliceStack size :=
  calls.foldl after ⟨ArrayBase.longProduct ![0, 0], []⟩

/-- The slices one after another. -/
def bytes (stack : SliceStack size) : List UInt8 :=
  stack.slices.flatMap fun slice => memoryBytes slice stack.sliceSize

end SliceStack

/-! ## Slices in memory -/

section Memory

variable {size : ℕ} (memory : ℕ → ValueBytes size)

theorem memoryBytes_add (first second : ℕ) :
    memoryBytes memory (first + second) =
      memoryBytes memory first ++ memoryBytes (fun p => memory (first + p)) second := by
  rw [memoryBytes, List.range_add, List.flatMap_append, List.flatMap_map]
  rfl

/-- A stack in memory is its slices one after another. -/
theorem memoryBytes_mul (sliceSize count : ℕ) :
    memoryBytes memory (count * sliceSize) =
      ((List.range count).map fun k p => memory (k * sliceSize + p)).flatMap fun slice =>
        memoryBytes slice sliceSize := by
  induction count with
  | zero => rw [Nat.zero_mul]; rfl
  | succ count ih =>
    rw [Nat.succ_mul, memoryBytes_add, ih, List.range_succ, List.map_append, List.flatMap_append,
      List.map_singleton, List.flatMap_singleton]

theorem length_memoryBytes (count : ℕ) : (memoryBytes memory count).length = count * size := by
  induction count with
  | zero => rw [Nat.zero_mul]; rfl
  | succ count ih =>
    rw [memoryBytes_add, List.length_append, ih, Nat.succ_mul]
    simp [memoryBytes]

end Memory

namespace SliceStack

variable {size : ℕ} {Space : Type} {stack : SliceStack size}

theorem length_cut (sliceSize pixels : ℕ) (memory : ℕ → ValueBytes size) :
    (cut sliceSize pixels memory).length = pixels / sliceSize := by
  rw [cut, List.length_map, List.length_range]

theorem bytes_cut {sliceSize pixels : ℕ} (memory : ℕ → ValueBytes size)
    (whole : pixels % sliceSize = 0) :
    (cut sliceSize pixels memory).flatMap (fun slice => memoryBytes slice sliceSize) =
      memoryBytes memory pixels := by
  have split : pixels / sliceSize * sliceSize = pixels :=
    Nat.div_mul_cancel (Nat.dvd_of_mod_eq_zero whole)
  conv_rhs => rw [← split, memoryBytes_mul]
  rfl

theorem bytes_append (slices : List (ℕ → ValueBytes size)) :
    bytes { stack with slices := stack.slices ++ slices } =
      stack.bytes ++ slices.flatMap fun slice => memoryBytes slice stack.sliceSize :=
  List.flatMap_append

theorem writtenBy_append_singleton (calls : List (WriterCall size Space))
    (call : WriterCall size Space) :
    writtenBy (calls ++ [call]) = (writtenBy calls).after call := by
  rw [writtenBy, List.foldl_append]
  rfl

end SliceStack

/-! ## What the calls do -/

namespace WritingState

variable {Space : Type} {size : ℕ} {state next left : WritingState Space} {fault : WriterFault}
  {bits : ℕ} {host : EEndian} {elementType : DataType} {writeSpace : Space → Text}

/-- Some slices are behind those of the data file, and have been counted. -/
def withSlices (state : WritingState Space) (slices : List (ℕ → ValueBytes size)) :
    WritingState Space where
  writer := { state.writer with
    numberOfSlices := toSigned 32 (state.writer.numberOfSlices + slices.length) }
  files := Function.update state.files state.writer.dataFileName
    ((state.files state.writer.dataFileName).map
      (· ++ bytesText (slices.flatMap fun slice => memoryBytes slice state.writer.sliceSize)))

/-- What an attempt to write slices can do: it is refused, the stream fails, or the slices are
written and counted. -/
inductive Writes (state : WritingState Space) (slices : List (ℕ → ValueBytes size)) :
    WriterAttempt Space → Prop
  | refused (fault : WriterFault) : Writes state slices (.error fault, state)
  | failed (isOpen : state.writer.isOpen = true) (content : Option Text) :
      Writes state slices
        (.error (.errorWritingFile state.writer.dataFileName), state.streamFails content)
  | written (isOpen : state.writer.isOpen = true) :
      Writes state slices (.ok (), state.withSlices slices)

theorem countWritten_writes (isOpen : state.writer.isOpen = true)
    (good : state.writer.good = true) {slices : List (ℕ → ValueBytes size)} {count : ℤ}
    (counted : toSigned 32 (state.writer.numberOfSlices + count) =
      toSigned 32 (state.writer.numberOfSlices + slices.length)) (writing : Outcome) :
    Writes state slices (countWritten count (state.safeStreamWrite writing
      (slices.flatMap fun slice => memoryBytes slice state.writer.sliceSize))) := by
  cases writing with
  | failure content =>
    rw [safeStreamWrite, if_pos good]
    exact .failed isOpen content
  | success =>
    rw [safeStreamWrite, if_pos good, countWritten, countSlices]
    dsimp only
    rw [counted]
    exact .written isOpen

theorem writeSlice_writes (good : state.writer.isOpen = true → state.writer.good = true)
    (image : ProjectionImage size) (writing : Outcome) :
    Writes state [image.memory] (state.writeSlice image writing) := by
  rw [writeSlice]
  by_cases constructed : image.isConstructed = true
  · rw [if_neg (not_not.mpr constructed)]
    split
    · exact .refused _
    next isOpen =>
    split
    · exact .refused _
    next pixels =>
    rw [not_not] at isOpen pixels
    rw [pixels, ← List.flatMap_singleton (fun slice => memoryBytes slice state.writer.sliceSize)]
    exact countWritten_writes isOpen (good isOpen) rfl writing
  · rw [if_pos constructed]
    exact .refused _

/-- The number of slices of a stack may not be wider than a pointer. -/
theorem writeStack_writes (wide : 32 ≤ bits)
    (good : state.writer.isOpen = true → state.writer.good = true)
    (stack : ProjectionImage size) (writing : Outcome) :
    Writes state (SliceStack.cut state.writer.sliceSize stack.pixels stack.memory)
      (state.writeStack bits stack writing) := by
  rw [writeStack]
  by_cases constructed : stack.isConstructed = true
  · rw [if_neg (not_not.mpr constructed)]
    split
    · exact .refused _
    next isOpen =>
    split
    · exact .refused _
    split
    · exact .refused _
    next whole =>
    rw [not_not] at isOpen whole
    rw [← SliceStack.bytes_cut stack.memory whole]
    refine countWritten_writes isOpen (good isOpen) ?_ writing
    have divides : 2 ^ 32 ∣ 2 ^ bits := Nat.pow_dvd_pow 2 wide
    rw [SliceStack.length_cut, toSigned, toSigned, toSigned, ← Int.add_bmod_bmod,
      Int.bmod_bmod_of_dvd divides, Int.add_bmod_bmod]
  · rw [if_pos constructed]
    exact .refused _

/-- Writing slices changes nothing of the writer but their number. -/
theorem Writes.writer {slices : List (ℕ → ValueBytes size)} {attempt : WriterAttempt Space}
    (writes : Writes state slices attempt) (returned : attempt = (.ok (), next)) :
    next.writer = { state.writer with numberOfSlices := next.writer.numberOfSlices } := by
  cases writes with
  | refused fault => cases returned
  | failed isOpen content => cases returned
  | written isOpen =>
    cases returned
    rfl

/-- Writing the header does not change the writer. -/
theorem writeMetaFile_writer (state : WritingState Space) (closing : Closing) :
    (state.writeMetaFile host elementType writeSpace closing).2.writer = state.writer := by
  unfold writeMetaFile
  dsimp only
  split
  · rfl
  split
  · rfl
  cases closing.opening with
  | failure content => rfl
  | success =>
    cases closing.writing with
    | failure content => rfl
    | success => rfl

/-- A header that was written is in the file with the name of the header, as far as it was
flushed. The file has another extension than the data file. -/
theorem writeMetaFile_eq_ok {closing : Closing}
    (written : state.writeMetaFile host elementType writeSpace closing = (.ok (), next)) :
    state.writer.metaFileName ≠ [] ∧
      pathExtension state.writer.metaFileName ≠ ".raw".toList ∧
      next.files = Function.update state.files state.writer.metaFileName
        (closing.flushing.leaves (formatMetaInfo (decide (host = .bigEndianOrder)) writeSpace
          (state.writer.header elementType))) := by
  unfold writeMetaFile at written
  dsimp only at written
  split at written
  · cases written
  next raw =>
  split at written
  · cases written
  next named =>
  cases opened : closing.opening with
  | failure content =>
    rw [opened] at written
    cases written
  | success =>
    rw [opened] at written
    cases wrote : closing.writing with
    | failure content =>
      rw [wrote] at written
      cases written
    | success =>
      rw [wrote] at written
      cases written
      refine ⟨named, ?_, rfl⟩
      intro same
      rw [same] at raw
      exact raw (by decide)

/-- A writer that was closed has its file name and its dimensions. -/
theorem close_writer (host : EEndian) (elementType : DataType) (writeSpace : Space → Text)
    (state : WritingState Space) (closing : Closing) :
    ∃ good, (state.close host elementType writeSpace closing).2.writer =
      { state.writer with isOpen := false, good := good } := by
  unfold close
  split
  · next closed =>
    rw [Bool.not_eq_true] at closed
    refine ⟨false, ?_⟩
    dsimp only
    split
    · rw [← closed]
    · rw [writeMetaFile_writer, ← closed]
  · cases closing.data with
    | failure content => exact ⟨false, rfl⟩
    | success =>
      refine ⟨state.writer.good, ?_⟩
      dsimp only
      rw [writeMetaFile_writer]

theorem destroy_of_open (isOpen : state.writer.isOpen = true) {closing : Closing}
    (destroyed : state.destroy host elementType writeSpace closing = (.ok (), next)) :
    WritingState.writeMetaFile { state with writer := { state.writer with isOpen := false } }
      host elementType writeSpace closing = (.ok (), next) := by
  rw [destroy, if_pos isOpen, close, if_neg (not_not.mpr isOpen)] at destroyed
  cases flushed : closing.data with
  | failure content =>
    rw [flushed] at destroyed
    cases destroyed
  | success =>
    rw [flushed] at destroyed
    exact destroyed

/-! ## What the writer keeps -/

/-- The data file of an open writer has the slices of a stack, and they have been counted. -/
structure Records (stack : SliceStack size) (state : WritingState Space) : Prop where
  sliceSize : stack.sliceSize = state.writer.sliceSize
  named : state.writer.metaFileName = [] ∨
    state.writer.dataFileName = changeExtension state.writer.metaFileName ".raw".toList
  good : state.writer.isOpen = true → state.writer.good = true
  counted : state.writer.isOpen = true →
    state.writer.numberOfSlices = toSigned 32 stack.slices.length
  data : state.writer.isOpen = true →
    state.files state.writer.dataFileName = some (bytesText stack.bytes)

/-- The data file is another one than the header. -/
theorem Records.dataFileName_ne {stack : SliceStack size} (records : Records stack state)
    (named : state.writer.metaFileName ≠ [])
    (notRaw : pathExtension state.writer.metaFileName ≠ ".raw".toList) :
    state.writer.dataFileName ≠ state.writer.metaFileName := by
  intro same
  rw [← same, records.named.resolve_left named,
    pathExtension_changeExtension isExtension_raw] at notRaw
  exact notRaw rfl

theorem records_new [Zero Space] (files : Files) :
    Records (SliceStack.writtenBy ([] : List (WriterCall size Space)))
      (⟨.new, files⟩ : WritingState Space) where
  sliceSize := rfl
  named := .inl rfl
  good := nofun
  counted := nofun
  data := nofun

variable {stack : SliceStack size}

/-- Nothing has to be kept while the data file is closed. -/
theorem Records.of_closed (sliceSize : stack.sliceSize = next.writer.sliceSize)
    (named : next.writer.metaFileName = [] ∨
      next.writer.dataFileName = changeExtension next.writer.metaFileName ".raw".toList)
    (closed : next.writer.isOpen = false) : Records stack next where
  sliceSize := sliceSize
  named := named
  good isOpen := by simp [closed] at isOpen
  counted isOpen := by simp [closed] at isOpen
  data isOpen := by simp [closed] at isOpen

theorem Records.withSlices (records : Records stack state) (isOpen : state.writer.isOpen = true)
    (slices : List (ℕ → ValueBytes size)) :
    Records { stack with slices := stack.slices ++ slices } (state.withSlices slices) where
  sliceSize := records.sliceSize
  named := records.named
  good := records.good
  counted _ := by
    show toSigned 32 (state.writer.numberOfSlices + slices.length) = _
    rw [records.counted isOpen, toSigned, toSigned, toSigned, Int.bmod_add_bmod,
      List.length_append, Nat.cast_add]
  data _ := by
    show Function.update _ _ _ state.writer.dataFileName = _
    rw [Function.update_self, records.data isOpen, SliceStack.bytes_append, bytesText_append,
      records.sliceSize]

/-- A data file that was opened is empty, and was not open before. -/
theorem initializeWriter_eq_ok {opening : Outcome}
    (opened : state.initializeWriter opening = (.ok (), next)) :
    state.writer.good = true ∧ state.writer.isOpen = false ∧
      next.writer = { state.writer with numberOfSlices := 0, throws := true, isOpen := true } ∧
      next.files state.writer.dataFileName = some [] := by
  unfold initializeWriter at opened
  split at opened
  · cases opened
  dsimp only at opened
  split at opened
  · cases opened
  next good =>
  split at opened
  · cases opened
  next closed =>
  rw [not_not] at good
  cases opening with
  | failure content => cases opened
  | success =>
    cases opened
    exact ⟨good, Bool.eq_false_of_not_eq_true closed, rfl, Function.update_self ..⟩

/-- The count is reset before the file is found to be open. -/
theorem initializeWriter_of_open {opening : Outcome} (isOpen : state.writer.isOpen = true)
    (good : state.writer.good = true) (named : state.writer.dataFileName ≠ [])
    (thrown : state.initializeWriter opening = (.error fault, left)) :
    left.writer = { state.writer with numberOfSlices := 0, throws := true, good := false } ∧
      left.files = state.files := by
  rw [initializeWriter, if_neg named] at thrown
  dsimp only at thrown
  rw [if_neg (not_not.mpr good), if_pos isOpen] at thrown
  cases thrown
  exact ⟨rfl, rfl⟩

theorem Records.initializeWriter {opening : Outcome} (records : Records stack state)
    (opened : state.initializeWriter opening = (.ok (), next)) :
    Records (⟨stack.sliceSize, []⟩ : SliceStack size) next := by
  obtain ⟨good, -, writer, data⟩ := initializeWriter_eq_ok opened
  exact {
    sliceSize := by
      rw [records.sliceSize]
      exact (congrArg StreamingMetaImageWriter.sliceSize writer).symm
    named := by rw [writer]; exact records.named
    good := fun _ => by rw [writer]; exact good
    counted := fun _ => by
      rw [writer]
      exact Int.zero_bmod.symm
    data := fun _ => by rw [writer]; exact data }

theorem Records.of_writes {slices : List (ℕ → ValueBytes size)} {attempt : WriterAttempt Space}
    (records : Records stack state) (writes : Writes state slices attempt)
    (returned : attempt = (.ok (), next)) :
    Records { stack with slices := stack.slices ++ slices } next := by
  cases writes with
  | refused fault => cases returned
  | failed isOpen content => cases returned
  | written isOpen =>
    cases returned
    exact records.withSlices isOpen slices

/-- A data file that could not be opened is not open. -/
theorem initializeWriter_thrown {opening : Outcome} (closed : state.writer.isOpen = false)
    (thrown : state.initializeWriter opening = (.error fault, left)) :
    left.writer.isOpen = false := by
  unfold initializeWriter at thrown
  split at thrown
  · cases thrown
    exact closed
  dsimp only at thrown
  split at thrown
  · cases thrown
    exact closed
  split at thrown
  · cases thrown
    exact closed
  cases opening with
  | failure content =>
    cases thrown
    exact closed
  | success => cases thrown

variable [Zero Space] {call : WriterCall size Space}

theorem step_eq_some_iff : state.step bits host elementType writeSpace call = some next ↔
    state.attempt bits host elementType writeSpace call = (.ok (), next) := by
  unfold step
  rcases state.attempt bits host elementType writeSpace call with ⟨fault | _, left⟩
  · exact iff_of_false nofun nofun
  · simp

/-- A call that returns does to the files what it is for. -/
theorem Records.step (records : Records stack state) (wide : 32 ≤ bits) (tidy : Tidy state call)
    (returned : state.step bits host elementType writeSpace call = some next) :
    Records (stack.after call) next := by
  rw [step_eq_some_iff] at returned
  cases call with
  | setFileName name =>
    cases returned
    exact .of_closed records.sliceSize (.inr rfl) tidy
  | setSliceDimensions dims =>
    cases returned
    exact .of_closed rfl records.named tidy
  | setOrigin origin =>
    cases returned
    exact ⟨records.sliceSize, records.named, records.good, records.counted, records.data⟩
  | setSliceOrigin origin =>
    cases returned
    exact ⟨records.sliceSize, records.named, records.good, records.counted, records.data⟩
  | setElementSize elementSize =>
    cases returned
    exact ⟨records.sliceSize, records.named, records.good, records.counted, records.data⟩
  | setPixelSize pixelSize =>
    cases returned
    exact ⟨records.sliceSize, records.named, records.good, records.counted, records.data⟩
  | initializeWriter opening => exact records.initializeWriter returned
  | writeSlice image writing =>
    exact records.of_writes (writeSlice_writes records.good image writing) returned
  | writeStack image writing =>
    have writes := writeStack_writes wide records.good image writing
    rw [← records.sliceSize] at writes
    exact records.of_writes writes returned
  | close closing =>
    obtain ⟨good, writer⟩ := close_writer host elementType writeSpace state closing
    rw [show state.close host elementType writeSpace closing = _ from returned] at writer
    refine .of_closed ?_ ?_ (congrArg StreamingMetaImageWriter.isOpen writer)
    · rw [StreamingMetaImageWriter.sliceSize, writer]
      exact records.sliceSize
    · rw [writer]
      exact records.named

theorem Records.run {calls : List (WriterCall size Space)} (records : Records stack state)
    (wide : 32 ≤ bits)
    (tidy : Guarded (WritingState.step bits host elementType writeSpace) Tidy state calls)
    (returned : Runs.run (WritingState.step bits host elementType writeSpace) state calls =
      some next) : Records (calls.foldl SliceStack.after stack) next := by
  induction calls generalizing stack state with
  | nil =>
    obtain rfl := run_nil_iff.mp returned
    exact records
  | cons call calls ih =>
    obtain ⟨middle, first, rest⟩ := run_cons_iff.mp returned
    exact ih (records.step wide tidy.1 first) (tidy.2 middle first) rest

/-- A call that throws while the data file stays open leaves the count as it was, and a good
stream only where it has written nothing. -/
theorem Records.of_thrown (records : Records stack state) (wide : 32 ≤ bits)
    (tidy : Tidy state call)
    (thrown : state.attempt bits host elementType writeSpace call = (.error fault, left))
    (isOpen : left.writer.isOpen = true) :
    left.writer.numberOfSlices = state.writer.numberOfSlices ∧
      state.writer.isOpen = true ∧ (left.writer.good = true → left = state) := by
  have of_writes {slices : List (ℕ → ValueBytes size)} {attempt : WriterAttempt Space}
      (writes : Writes state slices attempt) (same : attempt = (.error fault, left)) :
      left.writer.numberOfSlices = state.writer.numberOfSlices ∧
        state.writer.isOpen = true ∧ (left.writer.good = true → left = state) := by
    cases writes with
    | refused fault =>
      cases same
      exact ⟨rfl, isOpen, fun _ => rfl⟩
    | failed wasOpen content =>
      cases same
      exact ⟨rfl, wasOpen, nofun⟩
    | written wasOpen => cases same
  cases call with
  | setFileName name => cases thrown
  | setSliceDimensions dims => cases thrown
  | setOrigin origin => cases thrown
  | setSliceOrigin origin => cases thrown
  | setElementSize elementSize => cases thrown
  | setPixelSize pixelSize => cases thrown
  | initializeWriter opening =>
    have closed : left.writer.isOpen = false := initializeWriter_thrown tidy thrown
    rw [closed] at isOpen
    cases isOpen
  | writeSlice image writing =>
    exact of_writes (writeSlice_writes records.good image writing) thrown
  | writeStack image writing =>
    exact of_writes (writeStack_writes wide records.good image writing) thrown
  | close closing =>
    obtain ⟨good, writer⟩ := close_writer host elementType writeSpace state closing
    rw [show state.close host elementType writeSpace closing = _ from thrown] at writer
    rw [show left.writer = _ from writer] at isOpen
    cases isOpen

/-- What is in the files when a writer is destroyed behind a call that returned or threw. -/
theorem Records.destroy (records : Records stack state) (wide : 32 ≤ bits)
    (leaves : left = state ∨ ∃ call fault, Tidy state call ∧
      state.attempt bits host elementType writeSpace (call : WriterCall size Space) =
        (.error fault, left))
    (isOpen : left.writer.isOpen = true) {closing : Closing}
    (destroyed : left.destroy host elementType writeSpace closing = (.ok (), next)) :
    next.files left.writer.metaFileName =
      closing.flushing.leaves (formatMetaInfo (decide (host = .bigEndianOrder)) writeSpace
        (left.writer.header elementType)) ∧
    left.writer.numberOfSlices = toSigned 32 stack.slices.length ∧
    (left.writer.good = true → left = state ∧
      next.files left.writer.dataFileName = some (bytesText stack.bytes)) := by
  obtain ⟨count, wasOpen, unharmed⟩ : left.writer.numberOfSlices = state.writer.numberOfSlices ∧
      state.writer.isOpen = true ∧ (left.writer.good = true → left = state) := by
    rcases leaves with rfl | ⟨call, fault, tidy, thrown⟩
    · exact ⟨rfl, isOpen, fun _ => rfl⟩
    · exact records.of_thrown wide tidy thrown isOpen
  obtain ⟨named, notRaw, written⟩ := writeMetaFile_eq_ok (destroy_of_open isOpen destroyed)
  dsimp only at named notRaw written
  rw [written]
  refine ⟨Function.update_self .., count.trans (records.counted wasOpen), fun good => ?_⟩
  obtain rfl := unharmed good
  rw [Function.update_of_ne (records.dataFileName_ne named notRaw)]
  exact ⟨rfl, records.data wasOpen⟩

/-- **A writer that is initialised while its data file is open leaves a header about no slices**,
and the slices in the data file. -/
theorem destroy_of_reopened (wide : 32 ≤ bits) (files : Files)
    (calls : List (WriterCall size Space))
    (tidy : Guarded (WritingState.step bits host elementType writeSpace) Tidy ⟨.new, files⟩ calls)
    (returned : Runs.run (WritingState.step bits host elementType writeSpace) ⟨.new, files⟩ calls =
      some state)
    (isOpen : state.writer.isOpen = true) {opening : Outcome}
    (thrown : state.initializeWriter opening = (.error fault, left)) (closing : Closing)
    (destroyed : left.destroy host elementType writeSpace closing = (.ok (), next)) :
    (closing.flushing = .success → next.files left.writer.metaFileName =
      some (formatMetaInfo (decide (host = .bigEndianOrder)) writeSpace
        { left.writer.header elementType with
          dimSize := #v[0, left.writer.sliceDimensions.v, left.writer.sliceDimensions.u] })) ∧
    next.files left.writer.dataFileName = some (bytesText (SliceStack.writtenBy calls).bytes) := by
  have records : Records (SliceStack.writtenBy calls) state :=
    (records_new files).run wide tidy returned
  have named : state.writer.dataFileName ≠ [] := by
    intro unnamed
    rw [initializeWriter, if_pos unnamed] at thrown
    cases thrown
    have named := (writeMetaFile_eq_ok (destroy_of_open isOpen destroyed)).1
    rw [records.named.resolve_left named] at unnamed
    exact List.append_ne_nil_of_right_ne_nil _ (by decide) unnamed
  obtain ⟨writer, kept⟩ := initializeWriter_of_open isOpen (records.good isOpen) named thrown
  have stillOpen : left.writer.isOpen = true := by
    rw [writer]
    exact isOpen
  have count : left.writer.numberOfSlices = 0 := by rw [writer]
  have metaFile : left.writer.metaFileName = state.writer.metaFileName := by rw [writer]
  have dataFile : left.writer.dataFileName = state.writer.dataFileName := by rw [writer]
  obtain ⟨headed, notRaw, written⟩ := writeMetaFile_eq_ok (destroy_of_open stillOpen destroyed)
  dsimp only at headed notRaw written
  rw [written]
  refine ⟨fun flushed => ?_, ?_⟩
  · rw [flushed, Function.update_self, ← count]
    rfl
  · rw [metaFile] at headed notRaw
    rw [metaFile, dataFile, Function.update_of_ne (records.dataFileName_ne headed notRaw), kept]
    exact records.data isOpen

/-- A slice of two pixels is written, then a stack of two such slices. -/
def threeSlices : List (WriterCall 2 ℤ) :=
  [.setFileName "scan.mhd".toList, .setSliceDimensions ⟨1, 2⟩, .setPixelSize ⟨25, 25⟩,
    .initializeWriter .success, .writeSlice ⟨true, 2, fun p _ => UInt8.ofNat p⟩ .success,
    .writeStack ⟨true, 4, fun p _ => UInt8.ofNat (p + 10)⟩ .success]

end WritingState

end AthabascaRecon
