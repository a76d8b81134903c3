import AthabascaRecon.Bonelab.TupleForms
import AthabascaRecon.IO.AnyFormatStreamingProjectionsReader

/-!
# Reconstructing from projections that were written

A run can write the attenuation or the filtered projections, and a later run can begin with
them. The later run takes the parameters of the projections from the header that the writer
has left, and calculates where the projections lie. Without rounding these are the parameters
of the run that has written them (`nextRun_reads`), so both use the projections alike.
-/

set_option autoImplicit false

namespace AthabascaRecon

open Foundation Runs TupleStream WritingState AnyFormatReader

/-! ## Tuples of values that can be read back -/

section Tuples

variable {Value : Type} {conversion : Conversion Value} {text : Text} {value : Value}
  {write : Value → Text}

/-- A text that is read as a value when a comma, a bracket or nothing is behind it. -/
structure ReadsBack (conversion : Conversion Value) (text : Text) (value : Value) : Prop where
  begins : ∃ c rest, text = c :: rest ∧ isSpace c = false
  followed : ∀ rest : Text, (∀ c ∈ rest.head?, c = ',' ∨ c = ')') →
    conversion (text ++ rest) = (some value, rest)

theorem ReadsBack.dropWhile_isSpace (reads : ReadsBack conversion text value) (rest : Text) :
    (text ++ rest).dropWhile isSpace = text ++ rest := by
  obtain ⟨c, others, written, noSpace⟩ := reads.begins
  rw [written, List.cons_append, List.dropWhile_cons_of_neg (by simp [noSpace])]

theorem ReadsBack.dropWhile_isBlank (reads : ReadsBack conversion text value) (rest : Text) :
    (text ++ rest).dropWhile isBlank = text ++ rest := by
  obtain ⟨c, others, written, noSpace⟩ := reads.begins
  have noBlank : isBlank c ≠ true := fun blank => by
    rw [isSpace_of_isBlank blank] at noSpace
    cases noSpace
  rw [written, List.cons_append, List.dropWhile_cons_of_neg noBlank]

theorem noDigit_of_separator {rest : Text} (behind : ∀ c ∈ rest.head?, c = ',' ∨ c = ')') :
    NoDigit rest := by
  intro c first
  rcases behind c first with rfl | rfl
  · decide
  · decide

theorem readsBack_integer {fits : ℤ → Bool} {number : ℤ} (inside : fits number = true) :
    ReadsBack (convertInteger.fitting fits) (showInteger number) number := by
  have spelled := numeral_showInteger number
  constructor
  · obtain ⟨c, rest, written, sign⟩ := spelled.begins
    exact ⟨c, rest, written, not_isSpace_of_numeral sign⟩
  · intro rest behind
    rw [Conversion.fitting, convertInteger_numeral spelled (noDigit_of_separator behind),
      Option.filter_some, if_pos inside]

/-- An integer in front of a comma or a bracket is read as a decimal number, too. -/
theorem convertDecimal_of_separator {text rest : Text} {number : ℤ}
    (read : convertInteger text = (some number, rest))
    (behind : ∀ c ∈ rest.head?, c = ',' ∨ c = ')') :
    convertDecimal text = (some (number : ℚ), rest) := by
  rw [convertInteger] at read
  rw [convertDecimal]
  rcases signed : convertSign text with ⟨negative, unsigned⟩
  rw [signed] at read
  dsimp only at read ⊢
  by_cases noDigits : (unsigned.takeWhile Char.isDigit).isEmpty = true
  · rw [if_pos noDigits] at read
    cases read
  rw [if_neg noDigits, Prod.mk.injEq, Option.some.injEq] at read
  obtain ⟨rfl, left⟩ := read
  rw [left]
  have fraction : convertFraction rest = ([], rest) := by
    cases rest with
    | nil => rfl
    | cons c more => rcases behind c rfl with rfl | rfl <;> rfl
  have exponent : convertExponent rest = (some 0, rest) := by
    cases rest with
    | nil => rfl
    | cons c more => rcases behind c rfl with rfl | rfl <;> rfl
  rw [fraction]
  simp only [List.append_nil, noDigits, exponent]
  cases negative with
  | true => simp
  | false => simp

theorem readsBack_decimal {fits : ℚ → Bool} {number : ℤ} (convert : ℚ → Value)
    (inside : fits number = true) :
    ReadsBack ((convertDecimal.fitting fits).map convert) (showInteger number)
      (convert number) := by
  have spelled := numeral_showInteger number
  constructor
  · obtain ⟨c, rest, written, sign⟩ := spelled.begins
    exact ⟨c, rest, written, not_isSpace_of_numeral sign⟩
  · intro rest behind
    have read := convertDecimal_of_separator
      (convertInteger_numeral spelled (noDigit_of_separator behind)) behind
    rw [Conversion.map, Conversion.fitting, read, Option.filter_some, if_pos inside]
    rfl

theorem intersperse_begins (write : Value → Text) (value : Value) (values : List Value) :
    ∃ rest, (((value :: values).map write).intersperse [',']).flatten ++ [')'] =
      write value ++ rest := by
  cases values with
  | nil => exact ⟨[')'], by simp⟩
  | cons next values =>
    rw [List.map_cons, List.map_cons, List.intersperse_cons_cons, List.flatten_cons,
      List.append_assoc]
    exact ⟨_, rfl⟩

/-- The elements of a tuple, up to its closing bracket. -/
theorem elementsOutcome_written {values : List Value} (nonempty : values ≠ [])
    (reads : ∀ value ∈ values, ReadsBack conversion (write value) value) :
    elementsOutcome conversion (some ')') values.length
      (((values.map write).intersperse [',']).flatten ++ [')']) = .ended values [] := by
  induction values with
  | nil => exact absurd rfl nonempty
  | cons value values ih =>
    rw [List.forall_mem_cons] at reads
    cases values with
    | nil =>
      rw [List.map_singleton, List.intersperse_singleton, List.flatten_singleton,
        List.length_singleton, elementsOutcome, reads.1.dropWhile_isSpace,
        reads.1.followed [')'] (by simp)]
      rfl
    | cons next values =>
      have later := ih (by simp) reads.2
      rw [List.map_cons, List.map_cons, List.intersperse_cons_cons, List.flatten_cons,
        List.flatten_cons, List.append_assoc, List.append_assoc, List.length_cons,
        elementsOutcome, reads.1.dropWhile_isSpace, List.singleton_append,
        reads.1.followed (',' :: _) (by simp)]
      obtain ⟨rest, begins⟩ := intersperse_begins write next values
      rw [List.map_cons] at begins later
      have separated : afterSeparator (next :: values).length
          (',' :: (((write next :: values.map write).intersperse [',']).flatten ++ [')'])) =
          ((write next :: values.map write).intersperse [',']).flatten ++ [')'] := by
        rw [afterSeparator, List.dropWhile_cons_of_neg (by decide), if_pos ⟨rfl, by simp⟩,
          List.tail_cons, begins, (reads.2 next List.mem_cons_self).dropWhile_isBlank]
      dsimp only
      rw [separated, later]
      simp [TupleOutcome.cons]

/-- What the output operator writes is read again by the input operator. -/
theorem valueOfText_written {values : List Value} (nonempty : values ≠ [])
    (spaces : conversion [] = (none, []))
    (reads : ∀ value ∈ values, ReadsBack conversion (write value) value) :
    valueOfText (readTuple values.length conversion) (showTuple write values) =
      .ok (some values) := by
  obtain ⟨first, others, rfl⟩ := List.exists_cons_of_ne_nil nonempty
  obtain ⟨rest, begins⟩ := intersperse_begins write first others
  have outcome : tupleOutcome (first :: others).length conversion
      (showTuple write (first :: others)) = .ended (first :: others) [] := by
    have firstReads := reads first List.mem_cons_self
    obtain ⟨c, letters, written, -⟩ := firstReads.begins
    rw [tupleOutcome, showTuple, List.cons_append, List.dropWhile_cons_of_neg (by decide), begins]
    dsimp only
    rw [if_pos (by decide), firstReads.dropWhile_isBlank, if_neg (by simp [written]), ← begins]
    exact elementsOutcome_written (by simp) reads
  have ends := readTuple_ends spaces (first :: others).length (showTuple write (first :: others))
  rw [outcome] at ends
  obtain ⟨before, read⟩ := ends
  refine valueOfText_eq_some_iff.mpr ⟨_, read, ?_⟩
  exact (InputStream.ended_iff rfl fun _ => rfl).mpr fun c none => absurd none List.not_mem_nil

end Tuples

/-! ## Reading parameters -/

section Parameters

variable {Value : Type} {conversion : Conversion Value} {write : Value → Text} {tree : PropertyTree}
  {key : Key} {text : Text}

theorem read_eq_ok {reader : Reader StreamException Value} {value : Value}
    (given : tree.dataAt key.path = some (String.ofList text))
    (holds : valueOfText reader text = .ok (some value)) : tree.read reader key = .ok value := by
  rw [PropertyTree.read, PropertyTree.text, given]
  dsimp only
  rw [String.toList_ofList, holds]

/-- A pair is written in the order (u,v). -/
theorem read_written_pair {u v : Value} (spaces : conversion [] = (none, []))
    (reads : ∀ value ∈ [u, v], ReadsBack conversion (write value) value)
    (given : tree.dataAt key.path = some (String.ofList (showTuple write [u, v]))) :
    tree.read (reversedPair conversion) key = .ok ⟨v, u⟩ := by
  apply read_eq_ok given
  obtain ⟨after, read, ended⟩ :=
    valueOfText_eq_some_iff.mp (valueOfText_written (by simp) spaces reads)
  refine valueOfText_eq_some_iff.mpr ⟨after, ?_, ended⟩
  rw [reversedPair, Reader.filterMap, show readTuple 2 conversion _ = _ from read]
  rfl

theorem read_written_number {value : Value} (reads : ReadsBack conversion text value)
    (given : tree.dataAt key.path = some (String.ofList text)) :
    tree.read (readNumber conversion) key = .ok value := by
  apply read_eq_ok given
  obtain ⟨c, rest, written, -⟩ := reads.begins
  have whole := reads.dropWhile_isSpace []
  have found := reads.followed [] nofun
  rw [List.append_nil] at whole found
  rw [valueOfText_readNumber_iff, whole]
  exact ⟨by simp [written], [], found, nofun⟩

end Parameters

/-! ## The numbers of the launcher -/

/-- What `Launch` uses of `TSpace`. -/
structure SpaceArithmetic (arithmetic : DoubleArithmetic) where
  Space : Type
  ofDecimal : ℚ → Space
  negate : Space → Space
  multiply : Space → Space → Space
  /-- The conversion to `double`, in which a stream writes the number. -/
  widen : Space → arithmetic.Value

/-- The conversion of a text to a `TSpace`. -/
def SpaceArithmetic.read {arithmetic : DoubleArithmetic} (space : SpaceArithmetic arithmetic) :
    Conversion space.Space :=
  float.map space.ofDecimal

/-- The pixel size and the origin that `Launch` calculates. -/
def launchGeometry {arithmetic : DoubleArithmetic} (space : SpaceArithmetic arithmetic)
    (config : PropertyTree) : Reads (Tuple2 space.Space × Tuple2 space.Space) := do
  let pixelSize ← config.read (reversedPair space.read) ⟨"Projections", "PixelSize"⟩
  let centerPixelU ← config.read (readNumber space.read) ⟨"Projections", "CenterPixelU"⟩
  let originU := space.multiply (space.negate pixelSize.u) centerPixelU
  let originV ← config.read (readNumber space.read) ⟨"Projections", "OffsetV"⟩
  return (pixelSize, ⟨originV, originU⟩)

/-! ## What the header of written projections adds -/

section Header

variable {arithmetic : DoubleArithmetic} {tree : PropertyTree}

/-- The header of projections that `Launch` has told a writer about. -/
def projectionsHeader {Space : Type} (zero : Space) (elementType : DataType) (dims : Tuple2 ℤ)
    (pixelSize origin : Tuple2 Space) (count : ℤ) (rawFileName : Text) :
    MetaImageHeader Space 3 where
  offset := #v[zero, origin.v, origin.u]
  elementSpacing := #v[zero, pixelSize.v, pixelSize.u]
  dimSize := #v[count, dims.v, dims.u]
  elementType := elementType
  rawFileName := rawFileName

/-- The texts that the header of projections adds. -/
def projectionsTexts (arithmetic : DoubleArithmetic) (elementType : DataType) (dims : Tuple2 ℤ)
    (pixelSize origin : Tuple2 arithmetic.Value) (count : ℤ) : List (String × String) :=
  [("DataType", dataTypeAsString elementType),
    ("Dimensions", String.ofList (showTuple showInteger [dims.u, dims.v])),
    ("NumberOfProjections", String.ofList (showInteger (toSigned 32 count))),
    ("PixelSize", String.ofList (showTuple arithmetic.write [pixelSize.u, pixelSize.v])),
    ("CenterPixelU", String.ofList (arithmetic.write
      (arithmetic.divide (arithmetic.negate origin.u) pixelSize.u))),
    ("OffsetV", String.ofList (arithmetic.write origin.v))]

variable {zero : arithmetic.Value} {elementType : DataType} {dims : Tuple2 ℤ}
  {pixelSize origin : Tuple2 arithmetic.Value} {count : ℤ} {rawFileName : Text} {bigEndian : Bool}

theorem projectionsConfig_written
    (unset : tree.dataAt ["Projections", "PixelSize"] = none) :
    projectionsConfig arithmetic tree ((projectionsHeader zero elementType dims pixelSize origin
      count rawFileName).information bigEndian) =
      .ok (.node "" [("Projections", parameters (projectionsTexts arithmetic elementType dims
        pixelSize origin count))]) := by
  have override : pixelSizeOverride arithmetic tree = .ok none := by
    rw [pixelSizeOverride, unset]
  have label : String.ofList (dataTypeAsString elementType).toList =
      dataTypeAsString elementType := String.ofList_toList
  unfold projectionsConfig putPixelSize
  rw [override, projectionsTexts, ← label]
  rfl

theorem plain_projectionsTexts (unset : tree.dataAt ["Projections", "PixelSize"] = none) :
    PropertyTree.Plain (.node "" [("Projections", parameters (projectionsTexts arithmetic
      elementType dims pixelSize origin count))]) := by
  have written : projectionsConfig arithmetic tree ((projectionsHeader pixelSize.u elementType dims
      pixelSize origin count []).information false) = _ := projectionsConfig_written unset
  exact plain_projectionsConfig written

/-- **What the header says about the projections is merged into the configuration.** -/
theorem readProjectionsInfo_written {writeSpace : arithmetic.Value → Text}
    {readSpace : Text → Option arithmetic.Value} {files : Files} {name : String}
    (chosen : projectionsFile tree = .ok name) (some_name : name.toList ≠ [])
    (faithful : (projectionsHeader zero elementType dims pixelSize origin count
      rawFileName).Faithful 64 writeSpace readSpace)
    (named : NamesRawFile rawFileName)
    (headerFile : files name.toList = some (formatMetaInfo bigEndian writeSpace
      (projectionsHeader zero elementType dims pixelSize origin count rawFileName)))
    (unset : tree.dataAt ["Projections", "PixelSize"] = none) :
    readProjectionsInfo arithmetic readSpace files 10 tree =
      some (.ok (tree.merge (.node "" [("Projections", parameters (projectionsTexts arithmetic
        elementType dims pixelSize origin count))]) false)) := by
  have read : informationOfFile 64 readSpace files 10 name.toList =
      some (.ok ((projectionsHeader zero elementType dims pixelSize origin count
        rawFileName).information bigEndian)) :=
    informationOfFile_eq_ok_iff.mpr ⟨some_name, _, headerFile,
      getInformation_written (by decide) faithful named⟩
  rw [readProjectionsInfo, chosen]
  dsimp only
  rw [read, Option.map_some]
  show some ((projectionsConfig arithmetic tree _).bind _) = _
  rw [projectionsConfig_written unset]
  rfl

theorem leaves_parameters (texts : List (String × String)) (parents : List String) :
    PropertyTree.leaves parents (parameters texts).children =
      texts.map fun entry => (parents ++ [entry.1], entry.2) := by
  induction texts with
  | nil =>
    show PropertyTree.leaves parents [] = []
    rw [PropertyTree.leaves]
  | cons entry texts ih =>
    show PropertyTree.leaves parents ((entry.1, .node entry.2 []) ::
      (parameters texts).children) = _
    rw [PropertyTree.leaves, ih]
    rfl

variable {texts : List (String × String)} {parameter : String}

theorem leaves_section (some_text : texts ≠ []) :
    PropertyTree.leaves [] [("Projections", parameters texts)] =
      texts.map fun entry => (["Projections", entry.1], entry.2) := by
  have below := leaves_parameters texts ["Projections"]
  rw [parameters, PropertyTree.leaves, if_neg (by simpa using some_text), PropertyTree.leaves,
    List.append_nil]
  exact below

/-- A section is merged by setting its texts. -/
theorem merge_section (some_text : texts ≠ [])
    (plain : PropertyTree.Plain (.node "" [("Projections", parameters texts)])) :
    tree.merge (.node "" [("Projections", parameters texts)]) false = tree.setTexts false
      (texts.map fun entry => (["Projections", entry.1], entry.2)) := by
  rw [PropertyTree.merge_eq_setTexts plain]
  exact congrArg (tree.setTexts false ·) (leaves_section some_text)

theorem apart_section (some_text : texts ≠ [])
    (plain : PropertyTree.Plain (.node "" [("Projections", parameters texts)])) :
    PropertyTree.Apart (texts.map fun entry => (["Projections", entry.1], entry.2)) :=
  leaves_section some_text ▸ plain.apart_leaves

/-- The texts of a section are those of the configuration where it has none itself. -/
theorem dataAt_merge_section {text : String}
    (plain : PropertyTree.Plain (.node "" [("Projections", parameters texts)]))
    (member : (parameter, text) ∈ texts)
    (unset : tree.dataAt ["Projections", parameter] = none) :
    (tree.merge (.node "" [("Projections", parameters texts)]) false).dataAt
      ["Projections", parameter] = some text := by
  have some_text : texts ≠ [] := List.ne_nil_of_mem member
  rw [merge_section some_text plain, PropertyTree.dataAt_setTexts (apart_section some_text plain)
    (List.mem_map_of_mem member), unset, PropertyTree.prevailing, if_pos (.inr rfl)]

theorem dataAt_merge_section_of_ne (some_text : texts ≠ [])
    (plain : PropertyTree.Plain (.node "" [("Projections", parameters texts)]))
    (elsewhere : ∀ entry ∈ texts, entry.1 ≠ parameter) :
    (tree.merge (.node "" [("Projections", parameters texts)]) false).dataAt
      ["Projections", parameter] = tree.dataAt ["Projections", parameter] := by
  rw [merge_section some_text plain, PropertyTree.dataAt_setTexts_of_elsewhere]
  intro write member below
  obtain ⟨entry, among, rfl⟩ := List.mem_map.mp member
  have same := below.eq_of_length rfl
  exact elsewhere entry among (by simpa using same.symm)

end Header

/-! ## A writer of projections -/

section Writer

variable {Space : Type} [Zero Space] {size bits : ℕ} {host : EEndian} {elementType : DataType}
  {writeSpace : Space → Text} {state next : WritingState Space} {stack : SliceStack size}
  {name : Text} {dims : Tuple2 ℤ} {pixelSize origin : Tuple2 Space}

/-- What `Launch` tells a writer of projections before the reconstruction. -/
def launchCalls (size : ℕ) (name : Text) (dims : Tuple2 ℤ) (pixelSize origin : Tuple2 Space) :
    List (WriterCall size Space) :=
  [.setFileName name, .setSliceDimensions dims, .setPixelSize pixelSize, .setSliceOrigin origin,
    .initializeWriter .success]

/-- The calls that the reconstruction makes. -/
def IsWrite : WriterCall size Space → Prop
  | .writeSlice _ _ => True
  | .writeStack _ _ => True
  | _ => False

/-- A writer that is ready to write projections to an empty file. -/
def launched (files : Files) (name : Text) (dims : Tuple2 ℤ) (pixelSize origin : Tuple2 Space) :
    WritingState Space where
  writer := { ((StreamingMetaImageWriter.new.setFileName name).setPixelSize
    pixelSize).setSliceOrigin origin with
      sliceDimensions := dims, throws := true, isOpen := true }
  files := Function.update files (changeExtension name ".raw".toList) (some [])

theorem changeExtension_ne_nil (path : Text) : changeExtension path ".raw".toList ≠ [] :=
  List.append_ne_nil_of_right_ne_nil _ (by decide)

theorem run_launchCalls (files : Files) :
    Runs.run (WritingState.step bits host elementType writeSpace) ⟨.new, files⟩
      (launchCalls size name dims pixelSize origin) =
        some (launched files name dims pixelSize origin) := by
  let told : WritingState Space :=
    { launched files name dims pixelSize origin with
      writer := { (launched files name dims pixelSize origin).writer with
        throws := false, isOpen := false }
      files := files }
  have opened : told.attempt bits host elementType writeSpace
      (.initializeWriter .success : WriterCall size Space) =
        (.ok (), launched files name dims pixelSize origin) := by
    show told.initializeWriter .success = _
    rw [WritingState.initializeWriter]
    exact (if_neg (changeExtension_ne_nil name)).trans rfl
  refine run_cons_iff.mpr ⟨_, rfl, run_cons_iff.mpr ⟨_, rfl, run_cons_iff.mpr ⟨_, rfl, ?_⟩⟩⟩
  exact run_cons_iff.mpr ⟨told, rfl, run_cons_iff.mpr ⟨_, step_eq_some_iff.mpr opened, rfl⟩⟩

theorem guarded_writes {writes : List (WriterCall size Space)} (state : WritingState Space)
    (onlyWrites : ∀ call ∈ writes, IsWrite call) :
    Guarded (WritingState.step bits host elementType writeSpace) Tidy state writes := by
  induction writes generalizing state with
  | nil => trivial
  | cons call writes ih =>
    obtain ⟨isWrite, later⟩ := List.forall_mem_cons.mp onlyWrites
    refine ⟨?_, fun next _ => ih next later⟩
    cases call with
    | writeSlice image writing => trivial
    | writeStack image writing => trivial
    | _ => exact isWrite.elim

theorem tidy_launchCalls (files : Files) {writes : List (WriterCall size Space)}
    (onlyWrites : ∀ call ∈ writes, IsWrite call) :
    Guarded (WritingState.step bits host elementType writeSpace) Tidy ⟨.new, files⟩
      (launchCalls size name dims pixelSize origin ++ writes) := by
  refine (guarded_cons_iff rfl).mpr ⟨rfl, ?_⟩
  refine (guarded_cons_iff rfl).mpr ⟨rfl, ?_⟩
  refine (guarded_cons_iff rfl).mpr ⟨trivial, ?_⟩
  refine (guarded_cons_iff rfl).mpr ⟨trivial, ?_⟩
  exact ⟨rfl, fun next _ => guarded_writes next onlyWrites⟩

/-- Writing changes nothing of a writer but the number of slices. -/
theorem run_writes {writes : List (WriterCall size Space)} (records : Records stack state)
    (wide : 32 ≤ bits) (onlyWrites : ∀ call ∈ writes, IsWrite call)
    (returned : Runs.run (WritingState.step bits host elementType writeSpace) state writes =
      some next) :
    next.writer = { state.writer with numberOfSlices := next.writer.numberOfSlices } := by
  induction writes generalizing state stack with
  | nil =>
    obtain rfl := run_nil_iff.mp returned
    rfl
  | cons call writes ih =>
    obtain ⟨isWrite, later⟩ := List.forall_mem_cons.mp onlyWrites
    obtain ⟨middle, first, rest⟩ := run_cons_iff.mp returned
    have tidy : Guarded (WritingState.step bits host elementType writeSpace) Tidy state
        (call :: writes) := guarded_writes state onlyWrites
    have writer : middle.writer =
        { state.writer with numberOfSlices := middle.writer.numberOfSlices } := by
      have attempt := step_eq_some_iff.mp first
      cases call with
      | writeSlice image writing =>
        exact (writeSlice_writes records.good image writing).writer attempt
      | writeStack image writing =>
        exact (writeStack_writes wide records.good image writing).writer attempt
      | _ => exact isWrite.elim
    rw [ih (records.step wide tidy.1 first) later rest, writer]

/-- The writer that the reconstruction has written to. -/
theorem writer_of_launchCalls {files : Files} {writes : List (WriterCall size Space)}
    (wide : 32 ≤ bits) (onlyWrites : ∀ call ∈ writes, IsWrite call)
    (returned : Runs.run (WritingState.step bits host elementType writeSpace) ⟨.new, files⟩
      (launchCalls size name dims pixelSize origin ++ writes) = some state) :
    state.writer = { (launched files name dims pixelSize origin).writer with
      numberOfSlices := state.writer.numberOfSlices } ∧ state.writer.isOpen = true := by
  obtain ⟨middle, told, wrote⟩ := run_append_iff.mp returned
  obtain rfl : launched files name dims pixelSize origin = middle :=
    Option.some.inj ((run_launchCalls files).symm.trans told)
  have tidy : Guarded (WritingState.step bits host elementType writeSpace) Tidy ⟨.new, files⟩
      (launchCalls size name dims pixelSize origin ++ []) := tidy_launchCalls files (by simp)
  rw [List.append_nil] at tidy
  have records := (records_new files).run wide tidy told
  have writer := run_writes records wide onlyWrites wrote
  exact ⟨writer, by rw [writer]; rfl⟩

end Writer

/-! ## The next run -/

section NextRun

variable {arithmetic : DoubleArithmetic} {space : SpaceArithmetic arithmetic} [Zero space.Space]
  {writeSpace : arithmetic.Value → Text} {readSpace : Text → Option arithmetic.Value}
  {pixelSize origin : Tuple2 space.Space} {size bits : ℕ} {host : EEndian}
  {elementType : DataType} {dims : Tuple2 ℤ} {name : Text} {state next : WritingState space.Space}
  {tree : PropertyTree}

/-- A pair that is converted to `double`. -/
def SpaceArithmetic.widenPair (space : SpaceArithmetic arithmetic) (pair : Tuple2 space.Space) :
    Tuple2 arithmetic.Value :=
  ⟨space.widen pair.v, space.widen pair.u⟩

/-- The centre that the header stands for. -/
def headerCenterPixelU (arithmetic : DoubleArithmetic)
    (pixelSize origin : Tuple2 arithmetic.Value) : arithmetic.Value :=
  arithmetic.divide (arithmetic.negate origin.u) pixelSize.u

/-- The numbers that describe the projections are written, read and calculated without loss. -/
structure Lossless (space : SpaceArithmetic arithmetic) [Zero space.Space]
    (writeSpace : arithmetic.Value → Text) (readSpace : Text → Option arithmetic.Value)
    (pixelSize origin : Tuple2 space.Space) : Prop where
  spaces : ∀ number ∈ [0, origin.v, origin.u, 0, pixelSize.v, pixelSize.u],
    IsToken (writeSpace (space.widen number)) ∧
      readSpace (writeSpace (space.widen number)) = some (space.widen number)
  numbers : ∀ number ∈ [pixelSize.u, pixelSize.v, origin.v],
    ReadsBack space.read (arithmetic.write (space.widen number)) number
  center : ∃ centerPixelU, ReadsBack space.read (arithmetic.write (headerCenterPixelU arithmetic
      (space.widenPair pixelSize) (space.widenPair origin))) centerPixelU ∧
    space.multiply (space.negate pixelSize.u) centerPixelU = origin.u

theorem Lossless.faithful (lossless : Lossless space writeSpace readSpace pixelSize origin)
    {count : ℤ} {rawFileName : Text}
    (fits : ∀ dim ∈ [count, dims.v, dims.u], fitsSigned 32 dim = true) :
    (projectionsHeader (space.widen 0) elementType dims (space.widenPair pixelSize)
      (space.widenPair origin) count rawFileName).Faithful 64 writeSpace readSpace where
  nDims := by decide
  dimSize dim member := by
    have narrow := fits dim member
    simp only [fitsSigned, decide_eq_true_eq] at narrow ⊢
    omega
  tokens number member := by
    obtain ⟨narrow, among, rfl⟩ := List.mem_map.mp (show number ∈
      [0, origin.v, origin.u, 0, pixelSize.v, pixelSize.u].map space.widen from member)
    exact (lossless.spaces narrow among).1
  spaces number member := by
    obtain ⟨narrow, among, rfl⟩ := List.mem_map.mp (show number ∈
      [0, origin.v, origin.u, 0, pixelSize.v, pixelSize.u].map space.widen from member)
    exact (lossless.spaces narrow among).2

/-- The launcher of the next run finds the parameters that were written. -/
theorem Lossless.launch (lossless : Lossless space writeSpace readSpace pixelSize origin)
    {count : ℕ} (fits : ∀ dim ∈ [(count : ℤ), dims.v, dims.u], fitsSigned 32 dim = true)
    {config : PropertyTree}
    (texts : ∀ entry ∈ projectionsTexts arithmetic elementType dims (space.widenPair pixelSize)
      (space.widenPair origin) count, config.dataAt ["Projections", entry.1] = some entry.2)
    (stride : config.dataAt ["Projections", "ProjectionStride"] =
      tree.dataAt ["Projections", "ProjectionStride"]) :
    readProjectionParameters config = .ok ⟨dims, count,
      tree.numberOr (integerOfBits 32) ⟨"Projections", "ProjectionStride"⟩ 1⟩ ∧
    launchGeometry space config = .ok (pixelSize, origin) := by
  simp only [projectionsTexts, List.forall_mem_cons] at texts
  obtain ⟨-, dimensions, projections, pixels, center, offset, -⟩ := texts
  obtain ⟨inside, fitsV, fitsU, -⟩ : fitsSigned 32 count = true ∧ fitsSigned 32 dims.v = true ∧
      fitsSigned 32 dims.u = true ∧ _ := by simpa only [List.forall_mem_cons] using fits
  obtain ⟨readsU, readsV, readsOffset, -⟩ := by
    simpa only [List.forall_mem_cons] using lossless.numbers
  obtain ⟨centerPixelU, readsCenter, exact_origin⟩ := lossless.center
  have readDims : config.read (reversedPair (integerOfBits 32)) ⟨"Projections", "Dimensions"⟩ =
      .ok dims := by
    refine read_written_pair rfl ?_ dimensions
    rw [List.forall_mem_cons, List.forall_mem_singleton]
    exact ⟨readsBack_integer fitsU, readsBack_integer fitsV⟩
  have readCount : config.read (readNumber (integerOfBits 32))
      ⟨"Projections", "NumberOfProjections"⟩ = .ok (count : ℤ) := by
    rw [toSigned_of_fitsSigned inside] at projections
    exact read_written_number (readsBack_integer inside) projections
  have readStride : config.numberOr (integerOfBits 32) ⟨"Projections", "ProjectionStride"⟩ 1 =
      tree.numberOr (integerOfBits 32) ⟨"Projections", "ProjectionStride"⟩ 1 := by
    rw [PropertyTree.numberOr, PropertyTree.numberOr, PropertyTree.text, PropertyTree.text,
      Key.path, stride]
  have readSize : config.read (reversedPair space.read) ⟨"Projections", "PixelSize"⟩ =
      .ok pixelSize := by
    have written : config.dataAt ["Projections", "PixelSize"] = some (String.ofList (showTuple
      (fun number => arithmetic.write (space.widen number)) [pixelSize.u, pixelSize.v])) := pixels
    refine read_written_pair rfl ?_ written
    rw [List.forall_mem_cons, List.forall_mem_singleton]
    exact ⟨readsU, readsV⟩
  have readCenter : config.read (readNumber space.read) ⟨"Projections", "CenterPixelU"⟩ =
      .ok centerPixelU :=
    read_written_number readsCenter center
  have readOffset : config.read (readNumber space.read) ⟨"Projections", "OffsetV"⟩ =
      .ok origin.v :=
    read_written_number readsOffset offset
  constructor
  · rw [readProjectionParameters, readDims, readCount, readStride]
    rfl
  · rw [launchGeometry, readSize, readCenter, readOffset]
    show Except.ok (pixelSize, (⟨origin.v, space.multiply (space.negate pixelSize.u)
      centerPixelU⟩ : Tuple2 space.Space)) = _
    rw [exact_origin]

/-- The parameters that the next run reads from a header of projections. -/
theorem Lossless.reads (lossless : Lossless space writeSpace readSpace pixelSize origin)
    {count : ℕ} (fits : ∀ dim ∈ [(count : ℤ), dims.v, dims.u], fitsSigned 32 dim = true)
    {files : Files} {bigEndian : Bool} {rawFileName : Text} (named : NamesRawFile rawFileName)
    (some_name : name ≠ []) (chosen : projectionsFile tree = .ok (String.ofList name))
    (headerFile : files name = some (formatMetaInfo bigEndian writeSpace (projectionsHeader
      (space.widen 0) elementType dims (space.widenPair pixelSize) (space.widenPair origin) count
      rawFileName)))
    (unset : ∀ parameter ∈ ["DataType", "Dimensions", "NumberOfProjections", "PixelSize",
      "CenterPixelU", "OffsetV"], tree.dataAt ["Projections", parameter] = none) :
    ∃ config, readProjectionsInfo arithmetic readSpace files 10 tree = some (.ok config) ∧
      config.dataAt ["Projections", "DataType"] = some (dataTypeAsString elementType) ∧
      readProjectionParameters config = .ok ⟨dims, count,
        tree.numberOr (integerOfBits 32) ⟨"Projections", "ProjectionStride"⟩ 1⟩ ∧
      launchGeometry space config = .ok (pixelSize, origin) := by
  have unsetSize := unset "PixelSize" (by decide)
  rw [← String.toList_ofList (l := name)] at some_name headerFile
  have read := readProjectionsInfo_written chosen some_name (lossless.faithful fits) named
    headerFile unsetSize
  refine ⟨_, read, ?_⟩
  have plain : PropertyTree.Plain (.node "" [("Projections", parameters (projectionsTexts arithmetic
      elementType dims (space.widenPair pixelSize) (space.widenPair origin) count))]) :=
    plain_projectionsTexts unsetSize
  have texts : ∀ entry ∈ projectionsTexts arithmetic elementType dims (space.widenPair pixelSize)
      (space.widenPair origin) count, (tree.merge (.node "" [("Projections", parameters
        (projectionsTexts arithmetic elementType dims (space.widenPair pixelSize)
          (space.widenPair origin) count))]) false).dataAt ["Projections", entry.1] =
            some entry.2 := by
    intro entry member
    exact dataAt_merge_section plain member (unset entry.1 (List.mem_map_of_mem member))
  refine ⟨texts _ List.mem_cons_self, lossless.launch fits texts ?_⟩
  refine dataAt_merge_section_of_ne (List.cons_ne_nil _ _) plain ?_
  simp [projectionsTexts]

/-- **A later run finds the projections where the run that has written them had them**, and as
many of them as were written. -/
theorem nextRun_reads (lossless : Lossless space writeSpace readSpace pixelSize origin)
    (wide : 32 ≤ bits) (files : Files)
    (fits : fitsSigned 32 dims.v = true ∧ fitsSigned 32 dims.u = true)
    (named : NamesRawFile (changeExtension name ".raw".toList))
    (writes : List (WriterCall size space.Space)) (onlyWrites : ∀ call ∈ writes, IsWrite call)
    (returned : Runs.run (WritingState.step bits host elementType fun number =>
      writeSpace (space.widen number)) ⟨.new, files⟩
        (launchCalls size name dims pixelSize origin ++ writes) = some state)
    (few : (SliceStack.writtenBy
      (launchCalls size name dims pixelSize origin ++ writes)).slices.length < 2 ^ 31)
    (closing : Closing)
    (destroyed : (state.destroy host elementType (fun number => writeSpace (space.widen number))
      closing) = (.ok (), next))
    (flushed : closing.flushing = .success)
    (chosen : projectionsFile tree = .ok (String.ofList name))
    (unset : ∀ parameter ∈ ["DataType", "Dimensions", "NumberOfProjections", "PixelSize",
      "CenterPixelU", "OffsetV"], tree.dataAt ["Projections", parameter] = none) :
    ∃ config, readProjectionsInfo arithmetic readSpace next.files 10 tree = some (.ok config) ∧
      config.dataAt ["Projections", "DataType"] = some (dataTypeAsString elementType) ∧
      readProjectionParameters config = .ok ⟨dims,
        (SliceStack.writtenBy
          (launchCalls size name dims pixelSize origin ++ writes)).slices.length,
        tree.numberOr (integerOfBits 32) ⟨"Projections", "ProjectionStride"⟩ 1⟩ ∧
      launchGeometry space config = .ok (pixelSize, origin) := by
  have records : Records (SliceStack.writtenBy _) state :=
    (records_new files).run wide (tidy_launchCalls files onlyWrites) returned
  obtain ⟨writer, isOpen⟩ := writer_of_launchCalls wide onlyWrites returned
  obtain ⟨headerFile, counted, -⟩ := records.destroy wide (.inl rfl) isOpen destroyed
  have some_name : name ≠ [] := by
    have named := (writeMetaFile_eq_ok (destroy_of_open isOpen destroyed)).1
    rwa [writer] at named
  have inside : fitsSigned 32 ((SliceStack.writtenBy
      (launchCalls size name dims pixelSize origin ++ writes)).slices.length : ℤ) = true := by
    simp only [fitsSigned, decide_eq_true_eq]
    omega
  have exact_count : toSigned 32 (SliceStack.writtenBy
      (launchCalls size name dims pixelSize origin ++ writes)).slices.length = _ :=
    toSigned_of_fitsSigned inside
  rw [exact_count] at counted
  have header : state.writer.header elementType = projectionsHeader 0 elementType dims pixelSize
      origin (SliceStack.writtenBy
        (launchCalls size name dims pixelSize origin ++ writes)).slices.length
      (changeExtension name ".raw".toList) := by
    rw [← counted, StreamingMetaImageWriter.header, writer]
    rfl
  have allFit : ∀ dim ∈ [((SliceStack.writtenBy
      (launchCalls size name dims pixelSize origin ++ writes)).slices.length : ℤ), dims.v,
      dims.u], fitsSigned 32 dim = true := by
    rw [List.forall_mem_cons, List.forall_mem_cons, List.forall_mem_singleton]
    exact ⟨inside, fits⟩
  rw [header, writer, flushed] at headerFile
  exact lossless.reads allFit named some_name chosen headerFile unset

end NextRun

/-! ## Whole numbers -/

/-- Numbers of the launcher that are not rounded. -/
def exactSpaces : SpaceArithmetic exactArithmetic where
  Space := ℚ
  ofDecimal number := number
  negate number := -number
  multiply first second := first * second
  widen number := number

instance : Zero exactSpaces.Space := ⟨(0 : ℚ)⟩

def wholePair (pair : Tuple2 ℤ) : Tuple2 exactSpaces.Space := ⟨(pair.v : ℚ), (pair.u : ℚ)⟩

/-- How a stream writes a number of the launcher. -/
def writeExact (number : exactSpaces.Space) : Text :=
  exactArithmetic.write (exactSpaces.widen number)

theorem write_integer (number : ℤ) : exactArithmetic.write (number : ℚ) = showInteger number := by
  have tenths : (|(number : ℚ)| * 10).floor.natAbs = number.natAbs * 10 := by
    have whole : |(number : ℚ)| * 10 = ((|number| * 10 : ℤ) : ℚ) := by push_cast; rfl
    rw [whole, Rat.floor_intCast, Int.natAbs_mul, Int.natAbs_abs]
    rfl
  show (if (number : ℚ) < 0 then ['-'] else []) ++ Nat.toDigits 10 _ ++ _ = _
  rw [tenths, Nat.mul_div_cancel _ (by decide), if_pos (Nat.mul_mod_left ..), List.append_nil,
    showInteger]
  by_cases negative : number < 0
  · rw [if_pos negative, if_pos (by exact_mod_cast negative)]
    rfl
  · rw [if_neg negative, if_neg (by exact_mod_cast negative)]
    rfl

theorem readsBack_exact {number : ℤ} (fits : fitsSigned 32 number = true) :
    ReadsBack exactSpaces.read (exactArithmetic.write (number : ℚ)) (number : ℚ) := by
  rw [write_integer]
  exact readsBack_decimal id (fitsFloating_of_fitsSigned fits 24 (by decide))

theorem double_exact {number : ℤ} (fits : fitsSigned 32 number = true) :
    (double (exactArithmetic.write (number : ℚ))).1 = some (number : ℚ) := by
  have inside : fitsFloating 53 1024 (number : ℚ) = true :=
    fitsFloating_of_fitsSigned fits 53 (by decide)
  have read := (readsBack_decimal id inside).followed [] nofun
  rw [List.append_nil, Conversion.map, Option.map_id] at read
  rw [write_integer]
  exact congrArg Prod.fst read

/-- Whole numbers are not lost. -/
theorem lossless_whole {pixelSize origin : Tuple2 ℤ} (centerPixelU : ℤ)
    (some_size : pixelSize.u ≠ 0) (centered : origin.u = -pixelSize.u * centerPixelU)
    (fits : ∀ number ∈ [0, origin.v, origin.u, 0, pixelSize.v, pixelSize.u, centerPixelU],
      fitsSigned 32 number = true) :
    Lossless exactSpaces exactArithmetic.write (fun text => (double text).1)
      (wholePair pixelSize) (wholePair origin) where
  spaces number member := by
    have isWhole : number ∈ [0, origin.v, origin.u, 0, pixelSize.v, pixelSize.u].map
        fun whole : ℤ => (whole : ℚ) := member
    obtain ⟨whole, among, rfl⟩ := List.mem_map.mp isWhole
    refine ⟨?_, double_exact (fits whole (by grind))⟩
    show IsToken (exactArithmetic.write (whole : ℚ))
    rw [write_integer]
    exact isToken_showInteger whole
  numbers number member := by
    obtain ⟨whole, among, rfl⟩ := List.mem_map.mp (show number ∈
      [pixelSize.u, pixelSize.v, origin.v].map (fun whole : ℤ => (whole : ℚ)) from member)
    exact readsBack_exact (fits whole (by grind))
  center := by
    refine ⟨(centerPixelU : ℚ), ?_, ?_⟩
    · have center : headerCenterPixelU exactArithmetic (exactSpaces.widenPair (wholePair pixelSize))
          (exactSpaces.widenPair (wholePair origin)) = (centerPixelU : ℚ) := by
        show -(origin.u : ℚ) / pixelSize.u = centerPixelU
        rw [centered, div_eq_iff (by exact_mod_cast some_size)]
        push_cast
        ring
      rw [center]
      exact readsBack_exact (fits centerPixelU (by simp))
    · show -(pixelSize.u : ℚ) * centerPixelU = (origin.u : ℚ)
      rw [centered]
      push_cast
      rfl

/-- Three projections of two pixels. -/
def threeProjections : List (WriterCall 4 exactSpaces.Space) :=
  [.writeSlice ⟨true, 2, fun p _ => UInt8.ofNat p⟩ .success,
    .writeStack ⟨true, 4, fun p _ => UInt8.ofNat (p + 10)⟩ .success]

/-- What the launcher and the reconstruction tell the writer, with pixels of 25 units. -/
def attenuationCalls : List (WriterCall 4 exactSpaces.Space) :=
  launchCalls 4 "attenuation.mhd".toList ⟨1, 2⟩ (wholePair ⟨25, 25⟩) (wholePair ⟨-4, -50⟩) ++
    threeProjections

def fromAttenuation : PropertyTree :=
  .node "" [("Input", parameters [("AttenuationProjectionsFile", "attenuation.mhd")])]

theorem nextRun_reads_threeProjections :
    ∃ state next : WritingState exactSpaces.Space,
      Runs.run (WritingState.step 32 .littleEndianOrder .float32 writeExact) ⟨.new, fun _ => none⟩
        attenuationCalls = some state ∧
      (state.destroy .littleEndianOrder .float32 writeExact
        ⟨.success, .success, .success, .success⟩) = (.ok (), next) ∧
      ∃ config, readProjectionsInfo exactArithmetic (fun text => (double text).1) next.files 10
          fromAttenuation = some (.ok config) ∧
        config.dataAt ["Projections", "DataType"] = some "FLOAT32" ∧
        readProjectionParameters config = .ok ⟨⟨1, 2⟩, 3, 1⟩ ∧
        launchGeometry exactSpaces config = .ok (wholePair ⟨25, 25⟩, wholePair ⟨-4, -50⟩) := by
  have lossless : Lossless exactSpaces exactArithmetic.write (fun text => (double text).1)
      (wholePair ⟨25, 25⟩) (wholePair ⟨-4, -50⟩) :=
    lossless_whole 2 (by decide) (by decide) (by decide)
  have fits : fitsSigned 32 1 = true ∧ fitsSigned 32 2 = true := by decide
  have named : NamesRawFile (changeExtension "attenuation.mhd".toList ".raw".toList) :=
    ⟨by decide, by decide, by decide⟩
  have onlyWrites : ∀ call ∈ threeProjections, IsWrite call := by
    simp [threeProjections, IsWrite]
  have few : (SliceStack.writtenBy attenuationCalls).slices.length < 2 ^ 31 := by decide
  have chosen : projectionsFile fromAttenuation =
      .ok (String.ofList "attenuation.mhd".toList) := by
    rw [String.ofList_toList]
    decide
  have unset : ∀ parameter ∈ ["DataType", "Dimensions", "NumberOfProjections", "PixelSize",
      "CenterPixelU", "OffsetV"], fromAttenuation.dataAt ["Projections", parameter] = none := by
    decide
  refine ⟨_, _, rfl, rfl, ?_⟩
  exact nextRun_reads lossless le_rfl (fun _ => none) fits named threeProjections onlyWrites rfl
    few ⟨.success, .success, .success, .success⟩ rfl rfl chosen unset

end AthabascaRecon
