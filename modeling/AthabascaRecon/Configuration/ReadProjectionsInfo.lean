import AthabascaRecon.Bonelab.PropertyTreeMerge
import AthabascaRecon.Configuration.Readable
import AthabascaRecon.IO.ParseMeta
import AthabascaRecon.IO.StreamingRawProjectionsReader

/-!
# What is read from the header of the projections

`ReadProjectionsInfo` adds to a configuration what the header of the projections says, and
`StreamingMetaImageProjectionsReader::Initialize` takes the file and the byte order of the
projections from it. Both use three axes, or the byte order, without asking whether the header
has them. What is absent then is a failure of its own here: the behaviour of the program
is undefined. The headers with which this does not happen are those with three axes and a byte
order (`usesOnlyPresentData_iff`).
-/

set_option autoImplicit false

namespace AthabascaRecon

open TupleStream

/-! ## Failures -/

/-- How the use of a header can end. The last failure is a use of an element or of a flag that
is not there. -/
inductive HeaderFailure where
  | died (message : String)
  | threw (thrown : StreamException)
  | assertionFailed
  | errorOpeningFile (name : Text)
  | errorProcessingFile (name : Text) (error : MetaImageError)
  | absentData
  deriving DecidableEq, Repr

/-- `*value`, of a `boost::optional`. -/
def dereference {Value : Type} (value : Option Value) : Except HeaderFailure Value :=
  match value with
  | none => .error .absentData
  | some value => .ok value

/-- `values[index]`. -/
def elementAt {Value : Type} (values : List Value) (index : ℕ) : Except HeaderFailure Value :=
  dereference values[index]?

/-- Opening a file. -/
def openFile (files : Text → Option Text) (name : Text) : Except HeaderFailure Text :=
  match files name with
  | none => .error (.errorOpeningFile name)
  | some content => .ok content

/-- `GetInformation`, on the file with a name. -/
def informationOfFile {Space : Type} (bits : ℕ) (readSpace : Text → Option Space)
    (files : Text → Option Text) (fuel : ℕ) (name : Text) :
    Option (Except HeaderFailure (MetaImageInformation Space)) :=
  if name = [] then some (.error .assertionFailed)
  else match openFile files name with
    | .error failure => some (.error failure)
    | .ok text => (getInformation bits readSpace fuel text).map
      (Except.mapError (.errorProcessingFile name))

/-! ## `ReadProjectionsInfo` -/

/-- The name of the only file with projections. -/
def projectionsFile (tree : PropertyTree) : Except HeaderFailure String :=
  match ["RawProjectionsFile", "AttenuationProjectionsFile", "FilteredProjectionsFile"].filterMap
      fun parameter => tree.dataAt ["Input", parameter] with
  | [name] => .ok name
  | _ => .error (.died ("Require exactly one of Input.RawProjectionsFile," ++
      " Input.AttenuationProjectionsFile and Input.FilteredProjectionsFile"))

/-- `DataTypeAsString`. -/
def dataTypeAsString : DataType → String
  | .int8 => "INT8"
  | .uint8 => "UINT8"
  | .int16 => "INT16"
  | .uint16 => "UINT16"
  | .int32 => "INT32"
  | .uint32 => "UINT32"
  | .int64 => "INT64"
  | .uint64 => "UINT64"
  | .float32 => "FLOAT32"
  | .float64 => "FLOAT64"

/-- `proj_file_config.put`. -/
def putProjections (parameter : String) (text : Text) (config : PropertyTree) : PropertyTree :=
  config.put (String.ofList text) ["Projections", parameter]

variable (arithmetic : DoubleArithmetic)

/-- The pixel size that the configuration has already. A text that is no pair counts as
absent. -/
def pixelSizeOverride (tree : PropertyTree) :
    Except HeaderFailure (Option (Tuple2 arithmetic.Value)) :=
  match tree.dataAt ["Projections", "PixelSize"] with
  | none => .ok none
  | some text => (valueOfText (reversedPair arithmetic.read) text.toList).mapError .threw

/-- The pixel size of the header. -/
def headerPixelSize (information : MetaImageInformation arithmetic.Value) :
    Except HeaderFailure (Tuple2 arithmetic.Value) :=
  match information.elementSpacing with
  | none => .ok ⟨arithmetic.one, arithmetic.one⟩
  | some spacing => do
    let v ← elementAt spacing 1
    let u ← elementAt spacing 2
    return ⟨v, u⟩

/-- The pixel size that is used. It is put when it is not from the configuration. -/
def putPixelSize (tree : PropertyTree) (information : MetaImageInformation arithmetic.Value)
    (config : PropertyTree) : Except HeaderFailure (Tuple2 arithmetic.Value × PropertyTree) := do
  match ← pixelSizeOverride arithmetic tree with
  | some pixelSize => return (pixelSize, config)
  | none =>
    let pixelSize ← headerPixelSize arithmetic information
    return (pixelSize, putProjections "PixelSize"
      (showTuple arithmetic.write [pixelSize.u, pixelSize.v]) config)

/-- What the offset of the header says about the centre pixel. -/
def putOffset (information : MetaImageInformation arithmetic.Value)
    (pixelSize : Tuple2 arithmetic.Value) (config : PropertyTree) :
    Except HeaderFailure PropertyTree :=
  match information.offset with
  | none => .ok config
  | some offset => do
    let offsetU ← elementAt offset 2
    let config := putProjections "CenterPixelU"
      (arithmetic.write (arithmetic.divide (arithmetic.negate offsetU) pixelSize.u)) config
    let offsetV ← elementAt offset 1
    return putProjections "OffsetV" (arithmetic.write offsetV) config

/-- `proj_file_config`, which is made from what the header says. -/
def projectionsConfig (tree : PropertyTree)
    (information : MetaImageInformation arithmetic.Value) :
    Except HeaderFailure PropertyTree := do
  let config := putProjections "DataType" (dataTypeAsString information.dataType).toList .empty
  let dimsV ← elementAt information.dimSize 1
  let dimsU ← elementAt information.dimSize 2
  let config := putProjections "Dimensions" (showTuple showInteger [dimsU, dimsV]) config
  let projections ← elementAt information.dimSize 0
  let config := putProjections "NumberOfProjections"
    (showInteger (toSigned 32 projections)) config
  let (pixelSize, config) ← putPixelSize arithmetic tree information config
  putOffset arithmetic information pixelSize config

/-- `ReadProjectionsInfo`, with the configuration that it leaves. Its index type has 64 bits. -/
def readProjectionsInfo (readSpace : Text → Option arithmetic.Value)
    (files : Text → Option Text) (fuel : ℕ) (tree : PropertyTree) :
    Option (Except HeaderFailure PropertyTree) :=
  match projectionsFile tree with
  | .error failure => some (.error failure)
  | .ok name =>
    (informationOfFile 64 readSpace files fuel name.toList).map fun information => do
      let config ← projectionsConfig arithmetic tree (← information)
      return tree.merge config false

/-! ## `Initialize` -/

/-- `StreamingRawProjectionsReader::Initialize`. -/
def StreamingRawProjectionsReader.initializeFrom (files : Text → Option Text)
    (projectionsFileName : Text) : Except HeaderFailure StreamingRawProjectionsReader :=
  if projectionsFileName = [] then .error .assertionFailed
  else (openFile files projectionsFileName).map fun _ => rewind

/-- What `Initialize` does with the header: the name and the byte order of the raw file, and a
reader of it. -/
def initializeWith {Space : Type} (files : Text → Option Text)
    (information : MetaImageInformation Space) :
    Except HeaderFailure (Text × Bool × StreamingRawProjectionsReader) := do
  let bigEndian ← dereference information.bigEndian
  let reader ← StreamingRawProjectionsReader.initializeFrom files information.rawFileName
  return (information.rawFileName, bigEndian, reader)

/-- `StreamingMetaImageProjectionsReader::Initialize`. -/
def streamingMetaImageInitialize {Space : Type} (bits : ℕ) (readSpace : Text → Option Space)
    (files : Text → Option Text) (fuel : ℕ) (fileName : Text) :
    Option (Except HeaderFailure (Text × Bool × StreamingRawProjectionsReader)) :=
  (informationOfFile bits readSpace files fuel fileName).map fun information =>
    information.bind (initializeWith files)

/-! ## Uses of absent data -/

section Absent

variable {Value : Type}

theorem dereference_eq_error_iff {value : Option Value} {failure : HeaderFailure} :
    dereference value = .error failure ↔ failure = .absentData ∧ value = none := by
  cases value with
  | none =>
    rw [dereference, Except.error.injEq, eq_comm]
    exact (and_iff_left rfl).symm
  | some value => exact iff_of_false nofun nofun

theorem elementAt_eq_error_iff {values : List Value} {index : ℕ} {failure : HeaderFailure} :
    elementAt values index = .error failure ↔
      failure = .absentData ∧ values.length ≤ index := by
  rw [elementAt, dereference_eq_error_iff, List.getElem?_eq_none_iff]

/-- An element that is there is found. -/
theorem elementAt_ne_absent {values : List Value} {index : ℕ} (inside : index < values.length) :
    elementAt values index ≠ .error .absentData := by
  intro absent
  exact absurd (elementAt_eq_error_iff.mp absent).2 (not_le.mpr inside)

theorem openFile_ne_absent (files : Text → Option Text) (name : Text) :
    openFile files name ≠ .error .absentData := by
  intro absent
  unfold openFile at absent
  split at absent
  · cases absent
  · cases absent

end Absent

section Information

variable {Space : Type} {bits fuel : ℕ} {readSpace : Text → Option Space}
  {files : Text → Option Text} {name text : Text} {information : MetaImageInformation Space}

/-- Another kind of failure does not change what succeeds. -/
theorem map_mapError_eq_ok_iff {Failure Other Value : Type} {wrap : Failure → Other}
    {run : Option (Except Failure Value)} {value : Value} :
    run.map (Except.mapError wrap) = some (.ok value) ↔ run = some (.ok value) := by
  rcases run with _ | failure | found
  · exact iff_of_false nofun nofun
  · exact iff_of_false nofun nofun
  · simp [Except.mapError]

theorem informationOfFile_eq_ok_iff :
    informationOfFile bits readSpace files fuel name = some (.ok information) ↔
      name ≠ [] ∧ ∃ text, files name = some text ∧
        getInformation bits readSpace fuel text = some (.ok information) := by
  unfold informationOfFile openFile
  by_cases empty : name = []
  · rw [if_pos empty]
    exact iff_of_false nofun fun found => found.1 empty
  · rw [if_neg empty]
    cases files name with
    | none => exact iff_of_false nofun nofun
    | some text =>
      dsimp only
      rw [map_mapError_eq_ok_iff]
      constructor
      · intro read
        exact ⟨empty, text, rfl, read⟩
      · rintro ⟨-, _, ⟨rfl⟩, read⟩
        exact read

/-- `GetInformation` does not use absent data. -/
theorem informationOfFile_ne_absent :
    informationOfFile bits readSpace files fuel name ≠ some (.error .absentData) := by
  intro absent
  unfold informationOfFile openFile at absent
  split_ifs at absent
  · cases absent
  · cases opened : files name with
    | none =>
      rw [opened] at absent
      cases absent
    | some text =>
      rw [opened] at absent
      dsimp only at absent
      rcases read : getInformation bits readSpace fuel text with _ | error | found
      · rw [read] at absent
        cases absent
      · rw [read] at absent
        cases absent
      · rw [read] at absent
        cases absent

/-- What is done with an accepted header uses absent data, if anything does. -/
theorem map_informationOfFile_eq_absent_iff {Result : Type}
    {use : MetaImageInformation Space → Except HeaderFailure Result} :
    (informationOfFile bits readSpace files fuel name).map
        (fun information => information.bind use) = some (.error .absentData) ↔
      ∃ information, informationOfFile bits readSpace files fuel name = some (.ok information) ∧
        use information = .error .absentData := by
  rcases found : informationOfFile bits readSpace files fuel name with _ | failure | information
  · exact iff_of_false nofun nofun
  · refine iff_of_false ?_ (by simp)
    intro absent
    cases absent
    exact informationOfFile_ne_absent found
  · simp [Except.bind]

end Information

section Consumers

variable {Space : Type} {bits fuel : ℕ} {readSpace : Text → Option Space}
  {arithmetic : DoubleArithmetic} {readValue : Text → Option arithmetic.Value}
  {files : Text → Option Text} {tree config : PropertyTree} {name text : Text}

theorem pixelSizeOverride_ne_absent :
    pixelSizeOverride arithmetic tree ≠ .error .absentData := by
  intro absent
  unfold pixelSizeOverride at absent
  split at absent
  · cases absent
  · next text _ =>
    rcases read : valueOfText (reversedPair arithmetic.read) text.toList with thrown | value
    · rw [read] at absent
      cases absent
    · rw [read] at absent
      cases absent

section ThreeAxes

variable {information : MetaImageInformation arithmetic.Value}

theorem headerPixelSize_ne_absent
    (enough : ∀ spacing, information.elementSpacing = some spacing → 2 < spacing.length) :
    headerPixelSize arithmetic information ≠ .error .absentData := by
  unfold headerPixelSize
  split
  · nofun
  · next spacing given =>
    have inside := enough spacing given
    intro absent
    simp only [bind_eq_error_iff] at absent
    rcases absent with first | ⟨v, -, second | ⟨u, -, last⟩⟩
    · exact elementAt_ne_absent (by omega) first
    · exact elementAt_ne_absent inside second
    · cases last

theorem putPixelSize_ne_absent
    (enough : ∀ spacing, information.elementSpacing = some spacing → 2 < spacing.length) :
    putPixelSize arithmetic tree information config ≠ .error .absentData := by
  unfold putPixelSize
  intro absent
  rw [bind_eq_error_iff] at absent
  rcases absent with first | ⟨_ | pixelSize, -, later⟩
  · exact pixelSizeOverride_ne_absent first
  · dsimp only at later
    rw [bind_eq_error_iff] at later
    rcases later with second | ⟨pixelSize, -, last⟩
    · exact headerPixelSize_ne_absent enough second
    · cases last
  · cases later

theorem putOffset_ne_absent {pixelSize : Tuple2 arithmetic.Value}
    (enough : ∀ offset, information.offset = some offset → 2 < offset.length) :
    putOffset arithmetic information pixelSize config ≠ .error .absentData := by
  unfold putOffset
  split
  · nofun
  · next offset given =>
    have inside := enough offset given
    intro absent
    simp only [bind_eq_error_iff] at absent
    rcases absent with first | ⟨u, -, second | ⟨v, -, last⟩⟩
    · exact elementAt_ne_absent inside first
    · exact elementAt_ne_absent (by omega) second
    · cases last

/-- **`ReadProjectionsInfo` uses absent data when there are less than three axes**, and only
then. -/
theorem projectionsConfig_eq_absent_iff {entries : Meta} (shaped : information.Shaped entries) :
    projectionsConfig arithmetic tree information = .error .absentData ↔
      information.dimSize.length ≤ 2 := by
  have dims := shaped.dimSize
  unfold projectionsConfig
  simp only [bind_eq_error_iff, elementAt_eq_error_iff, true_and]
  constructor
  · rintro (first | ⟨dimsV, -, second | ⟨dimsU, -, third | ⟨projections, -, later⟩⟩⟩)
    · omega
    · exact second
    · omega
    · rcases later with pixelSize | ⟨⟨pixelSize, config⟩, -, offset⟩
      · by_contra enough
        refine putPixelSize_ne_absent (fun spacing given => ?_) pixelSize
        have axes := shaped.elementSpacing spacing given
        omega
      · by_contra enough
        refine putOffset_ne_absent (fun offset given => ?_) offset
        have axes := shaped.offset offset given
        omega
  · intro few
    by_cases one : information.dimSize.length ≤ 1
    · exact .inl one
    · refine .inr ⟨information.dimSize[1], ?_, .inl few⟩
      rw [elementAt, List.getElem?_eq_getElem (by omega)]
      rfl

end ThreeAxes

theorem readProjectionsInfo_eq_absent_iff :
    readProjectionsInfo arithmetic readValue files fuel tree = some (.error .absentData) ↔
      ∃ name information, projectionsFile tree = .ok name ∧
        informationOfFile 64 readValue files fuel name.toList = some (.ok information) ∧
        projectionsConfig arithmetic tree information = .error .absentData := by
  unfold readProjectionsInfo
  cases named : projectionsFile tree with
  | error failure =>
    refine iff_of_false ?_ (by simp)
    intro absent
    cases absent
    unfold projectionsFile at named
    split at named
    · cases named
    · cases named
  | ok name =>
    have used : ∀ information, (projectionsConfig arithmetic tree information >>= fun config =>
        pure (tree.merge config false)) =
          (.error .absentData : Except HeaderFailure PropertyTree) ↔
            projectionsConfig arithmetic tree information = .error .absentData := by
      intro information
      rw [bind_eq_error_iff]
      exact or_iff_left fun ⟨config, _, merged⟩ => by cases merged
    refine map_informationOfFile_eq_absent_iff.trans ⟨?_, ?_⟩
    · rintro ⟨information, read, failed⟩
      exact ⟨name, information, rfl, read, (used information).mp failed⟩
    · rintro ⟨_, information, ⟨rfl⟩, read, failed⟩
      exact ⟨information, read, (used information).mpr failed⟩

/-! ### What the header adds -/

theorem plain_putProjections {parameter : String} (key : PropertyTree.PlainKey parameter)
    (text : Text) (plain : config.Plain) : (putProjections parameter text config).Plain := by
  refine plain.put ?_ _
  exact List.forall_mem_cons.mpr ⟨by decide, List.forall_mem_singleton.mpr key⟩

theorem plain_putPixelSize {information : MetaImageInformation arithmetic.Value}
    {after : Tuple2 arithmetic.Value × PropertyTree} (plain : config.Plain)
    (put : putPixelSize arithmetic tree information config = .ok after) : after.2.Plain := by
  unfold putPixelSize at put
  obtain ⟨override, -, later⟩ := bind_eq_ok_iff.mp put
  cases override with
  | none =>
    obtain ⟨pixelSize, -, last⟩ := bind_eq_ok_iff.mp later
    cases last
    exact plain_putProjections (by decide) _ plain
  | some pixelSize =>
    cases later
    exact plain

theorem plain_putOffset {information : MetaImageInformation arithmetic.Value}
    {pixelSize : Tuple2 arithmetic.Value} {after : PropertyTree} (plain : config.Plain)
    (put : putOffset arithmetic information pixelSize config = .ok after) : after.Plain := by
  unfold putOffset at put
  split at put
  · cases put
    exact plain
  · obtain ⟨offsetU, -, later⟩ := bind_eq_ok_iff.mp put
    obtain ⟨offsetV, -, last⟩ := bind_eq_ok_iff.mp later
    cases last
    exact plain_putProjections (by decide) _ (plain_putProjections (by decide) _ plain)

theorem plain_projectionsConfig {information : MetaImageInformation arithmetic.Value}
    {after : PropertyTree}
    (made : projectionsConfig arithmetic tree information = .ok after) : after.Plain := by
  obtain ⟨dimsV, -, second⟩ := bind_eq_ok_iff.mp made
  obtain ⟨dimsU, -, third⟩ := bind_eq_ok_iff.mp second
  obtain ⟨projections, -, fourth⟩ := bind_eq_ok_iff.mp third
  obtain ⟨⟨pixelSize, config⟩, sized, last⟩ := bind_eq_ok_iff.mp fourth
  refine plain_putOffset (plain_putPixelSize ?_ sized) last
  refine plain_putProjections (by decide) _ (plain_putProjections (by decide) _ ?_)
  exact plain_putProjections (by decide) _ PropertyTree.plain_empty

theorem initializeWith_eq_absent_iff {information : MetaImageInformation Space} :
    initializeWith files information = .error .absentData ↔ information.bigEndian = none := by
  unfold initializeWith
  rw [bind_eq_error_iff, dereference_eq_error_iff]
  constructor
  · rintro (⟨-, absent⟩ | ⟨bigEndian, -, later⟩)
    · exact absent
    · rw [bind_eq_error_iff] at later
      rcases later with opened | ⟨reader, -, last⟩
      · unfold StreamingRawProjectionsReader.initializeFrom at opened
        split_ifs at opened
        · cases opened
        · cases found : openFile files information.rawFileName with
          | error failure =>
            rw [found] at opened
            cases opened
            exact absurd found (openFile_ne_absent files information.rawFileName)
          | ok content =>
            rw [found] at opened
            cases opened
      · cases last
  · intro absent
    exact .inl ⟨rfl, absent⟩

end Consumers

/-! ## Accepted headers -/

/-- `GetInformation` returns normally. -/
def Accepted {Space : Type} (bits : ℕ) (readSpace : Text → Option Space) (text : Text) : Prop :=
  ∃ fuel information, getInformation bits readSpace fuel text = some (.ok information)

/-- The lines of a header give the sizes of at least three axes. -/
def HasThreeAxes (text : Text) : Prop :=
  ∃ value, LastValue (endedLines text) "DimSize" value ∧
    2 < (splitArguments [' ', '\t', ','] value.toList).length

/-- The lines of a header give one of the two flags for the byte order. -/
def GivesByteOrder (text : Text) : Prop :=
  ∃ tag ∈ ["BinaryDataByteOrderMSB", "ElementByteOrderMSB"], ∃ value,
    LastValue (endedLines text) tag value

/-- On files of which the one that is named has the text as its header, neither
`ReadProjectionsInfo` nor `Initialize` uses absent data. -/
structure UsesOnlyPresentData (arithmetic : DoubleArithmetic)
    (readValue : Text → Option arithmetic.Value) {Space : Type} (bits : ℕ)
    (readSpace : Text → Option Space) (text : Text) : Prop where
  readProjectionsInfo : ∀ files fuel tree,
    (∀ name, projectionsFile tree = .ok name → files name.toList = some text) →
    readProjectionsInfo arithmetic readValue files fuel tree ≠ some (.error .absentData)
  streamingMetaImageInitialize : ∀ files fuel name, files name = some text →
    streamingMetaImageInitialize bits readSpace files fuel name ≠ some (.error .absentData)

section Accepted

variable {Space : Type} {bits fuel : ℕ} {readSpace : Text → Option Space} {text : Text}
  {information : MetaImageInformation Space}

theorem hasThreeAxes_iff
    (accepted : getInformation bits readSpace fuel text = some (.ok information)) :
    HasThreeAxes text ↔ 2 < information.dimSize.length := by
  obtain ⟨entries, parsed, shaped⟩ := exists_shaped_of_getInformation accepted
  obtain ⟨value, given, pieces⟩ := shaped.axes
  rw [← pieces]
  constructor
  · rintro ⟨other, last, enough⟩
    rw [← parsed.entries_iff, given] at last
    cases last
    exact enough
  · intro enough
    exact ⟨value, parsed.entries_iff.mp given, enough⟩

theorem givesByteOrder_iff
    (accepted : getInformation bits readSpace fuel text = some (.ok information)) :
    GivesByteOrder text ↔ information.bigEndian.isSome = true := by
  obtain ⟨entries, parsed, shaped⟩ := exists_shaped_of_getInformation accepted
  have given : ∀ tag, (∃ value, LastValue (endedLines text) tag value) ↔
      (entries tag).isSome = true := by
    intro tag
    rw [Option.isSome_iff_exists]
    exact exists_congr fun value => parsed.entries_iff.symm
  rw [shaped.byteOrder, ← given, ← given]
  simp [GivesByteOrder]

end Accepted

variable {arithmetic}

/-- A configuration with one file with projections. -/
def configurationWithProjections : PropertyTree :=
  PropertyTree.empty.put "projections.mhd" ["Input", "RawProjectionsFile"]

/-- **An accepted header never leads to a use of absent data if and only if it has at least
three axes and says what the byte order is.** -/
theorem usesOnlyPresentData_iff (readValue : Text → Option arithmetic.Value) {Space : Type}
    (bits : ℕ) (readSpace : Text → Option Space) (text : Text) :
    UsesOnlyPresentData arithmetic readValue bits readSpace text ↔
      (Accepted 64 readValue text → HasThreeAxes text) ∧
        (Accepted bits readSpace text → GivesByteOrder text) := by
  constructor
  · intro present
    constructor
    · rintro ⟨fuel, information, accepted⟩
      obtain ⟨entries, -, shaped⟩ := exists_shaped_of_getInformation accepted
      rw [hasThreeAxes_iff accepted]
      by_contra few
      refine present.readProjectionsInfo (fun _ => some text) fuel configurationWithProjections
        (fun _ _ => rfl) (readProjectionsInfo_eq_absent_iff.mpr ?_)
      refine ⟨"projections.mhd", information, rfl, ?_, ?_⟩
      · exact informationOfFile_eq_ok_iff.mpr ⟨by decide, text, rfl, accepted⟩
      · exact (projectionsConfig_eq_absent_iff shaped).mpr (not_lt.mp few)
    · rintro ⟨fuel, information, accepted⟩
      rw [givesByteOrder_iff accepted]
      by_contra absent
      refine present.streamingMetaImageInitialize (fun _ => some text) fuel ['a'] rfl
        (map_informationOfFile_eq_absent_iff.mpr ⟨information, ?_, ?_⟩)
      · exact informationOfFile_eq_ok_iff.mpr ⟨by decide, text, rfl, accepted⟩
      · exact initializeWith_eq_absent_iff.mpr (by simpa using absent)
  · rintro ⟨axes, order⟩
    constructor
    · intro files fuel tree named absent
      obtain ⟨name, information, chosen, read, failed⟩ :=
        readProjectionsInfo_eq_absent_iff.mp absent
      obtain ⟨-, found, content, accepted⟩ := informationOfFile_eq_ok_iff.mp read
      obtain rfl : text = found := Option.some.inj ((named name chosen).symm.trans content)
      obtain ⟨entries, -, shaped⟩ := exists_shaped_of_getInformation accepted
      have enough := (hasThreeAxes_iff accepted).mp (axes ⟨fuel, information, accepted⟩)
      exact absurd ((projectionsConfig_eq_absent_iff shaped).mp failed) (not_le.mpr enough)
    · intro files fuel name header absent
      obtain ⟨information, read, failed⟩ := map_informationOfFile_eq_absent_iff.mp absent
      obtain ⟨-, found, content, accepted⟩ := informationOfFile_eq_ok_iff.mp read
      obtain rfl : text = found := Option.some.inj (header.symm.trans content)
      have known := (givesByteOrder_iff accepted).mp (order ⟨fuel, information, accepted⟩)
      rw [initializeWith_eq_absent_iff.mp failed] at known
      cases known

/-- The header of an image with two axes, and without a byte order. -/
def planarHeader : Text :=
  "NDims = 2\nDimSize = 4 4\nElementType = MET_UCHAR\nElementDataFile = a.raw\n".toList

/-- A header with two axes is accepted, and then the third one is used. -/
theorem not_usesOnlyPresentData_planar :
    ¬ UsesOnlyPresentData exactArithmetic (fun _ => none) 64
      (fun _ => (none : Option ℤ)) planarHeader := by
  intro present
  refine present.readProjectionsInfo (fun _ => some planarHeader) 4
    configurationWithProjections (fun _ _ => rfl) ?_
  rfl

end AthabascaRecon
