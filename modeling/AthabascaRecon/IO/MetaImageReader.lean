import AthabascaRecon.Foundation.Ensures
import AthabascaRecon.Foundation.Strings
import AthabascaRecon.Bonelab.Types
import Mathlib.Logic.Function.Basic

/-!
# Reading MetaImage headers

`ParseMeta` reads a header line by line into a map from tags to values, and `GetInformation`
takes the values that the reader knows from the map. The loop over the lines runs with fuel,
as it does not get past an empty line.
-/

set_option autoImplicit false

namespace AthabascaRecon

/-- What a reader of headers throws: an `AthabascaException` with a message, or an exception
of the standard library. -/
inductive MetaImageError where
  | message (text : String)
  | standard
  deriving DecidableEq, Repr

/-- The map from tags to values. -/
abbrev Meta := String → Option String

/-! ## `ParseMeta` -/

/-- The body of the loop. A line has to have exactly two pieces. -/
def parseLine (entries : Meta) (line : Text) : Except MetaImageError Meta :=
  match splitArguments ['='] line with
  | [tag, value] => .ok (Function.update entries (String.ofList (trim tag))
      (some (String.ofList (trim value))))
  | _ => .error (.message "Error parsing meta data.")

/-- The loop over the lines, which ends when a line was not ended by a newline. An empty line
is read again and again. -/
def parseLines : ℕ → Text × Bool × Text → Meta → Option (Except MetaImageError Meta)
  | _, (_, true, _), entries => some (.ok entries)
  | 0, (_, false, _), _ => none
  | fuel + 1, (line, false, rest), entries =>
    if line.isEmpty then parseLines fuel (line, false, rest) entries
    else match parseLine entries line with
      | .error error => some (.error error)
      | .ok entries => parseLines fuel (getLine rest) entries

/-- `ParseMeta`. -/
def parseMeta (fuel : ℕ) (text : Text) : Option (Except MetaImageError Meta) :=
  parseLines fuel (getLine text) fun _ => none

/-! ## `GetInformation` -/

/-- The members of a `MetaImageReader` that `GetInformation` sets. -/
structure MetaImageInformation (Space : Type) where
  nDims : ℤ
  bigEndian : Option Bool
  offset : Option (List Space)
  elementSpacing : Option (List Space)
  dimSize : List ℤ
  dataType : DataType
  rawFileName : Text
  deriving DecidableEq, Repr

def metaImageError {Value : Type} (text : String) : Except MetaImageError Value :=
  .error (.message text)

/-- A tag that has to have one value, if it is there. -/
def requireValue (entries : Meta) (tag value message : String) : Except MetaImageError Unit :=
  match entries tag with
  | none => .ok ()
  | some found => if found = value then .ok () else metaImageError message

/-- A tag that has to be there. -/
def requireTag (entries : Meta) (tag : String) : Except MetaImageError String :=
  match entries tag with
  | none => metaImageError ("Missing meta field: " ++ tag ++ ".")
  | some found => .ok found

/-- A flag, which replaces an earlier one. -/
def readFlag (entries : Meta) (tag : String) (earlier : Option Bool) :
    Except MetaImageError (Option Bool) :=
  match entries tag with
  | none => .ok earlier
  | some found =>
    if found = "True" then .ok (some true)
    else if found = "False" then .ok (some false)
    else metaImageError ("Unrecognized value for " ++ tag ++ ".")

/-- The number of dimensions. It is read as an index and stored as an `int`. -/
def readNDims (bits : ℕ) (text : String) : Except MetaImageError ℤ :=
  match lexicalCast bits text.toList with
  | none => metaImageError "Error: Unable to parse NDims field.\n"
  | some nDims => .ok (toSigned 32 nDims)

/-- The values of the axes, which are in the opposite order in the text. -/
def readAxes {Value : Type} (read : Text → Option Value) (nDims : ℤ) (tag text : String) :
    Except MetaImageError (List Value) :=
  let tokens := splitArguments [' ', '\t', ','] text.toList
  if (tokens.length : ℤ) ≠ nDims then metaImageError ("Error parsing " ++ tag ++ " field.")
  else match tokens.reverse.mapM read with
    | none => metaImageError ("Error: Unable to parse " ++ tag ++ " field.\n")
    | some values => .ok values

/-- The values of the axes, if the tag is there. A vector with a negative size cannot be made. -/
def readOptionalAxes {Value : Type} (entries : Meta) (read : Text → Option Value) (nDims : ℤ)
    (tag : String) : Except MetaImageError (Option (List Value)) :=
  match entries tag with
  | none => .ok none
  | some text =>
    if nDims < 0 then .error .standard
    else (readAxes read nDims tag text).map some

/-- The labels of the element types. -/
def elementTypes : List (String × DataType) :=
  [("MET_CHAR", .int8), ("MET_UCHAR", .uint8), ("MET_SHORT", .int16), ("MET_USHORT", .uint16),
    ("MET_INT", .int32), ("MET_UINT", .uint32), ("MET_LONG", .int64), ("MET_ULONG", .uint64),
    ("MET_FLOAT", .float32), ("MET_DOUBLE", .float64)]

def readElementType (label : String) : Except MetaImageError DataType :=
  match elementTypes.lookup label with
  | none => metaImageError "Unrecognized value for ElementType."
  | some dataType => .ok dataType

variable {Space : Type}

/-- What `GetInformation` takes from the map, for an index type with a number of bits. -/
def readInformation (bits : ℕ) (readSpace : Text → Option Space) (entries : Meta) :
    Except MetaImageError (MetaImageInformation Space) := do
  requireValue entries "ObjectType" "Image" "ObjectType is not Image."
  let nDimsText ← requireTag entries "NDims"
  let nDims ← readNDims bits nDimsText
  requireValue entries "BinaryData" "True" "No support yet for BinaryData = False."
  let bigEndian ← readFlag entries "BinaryDataByteOrderMSB" none
  let bigEndian ← readFlag entries "ElementByteOrderMSB" bigEndian
  requireValue entries "CompressedData" "False" "No support yet for CompressedData = True"
  let offset ← readOptionalAxes entries readSpace nDims "Offset"
  let elementSpacing ← readOptionalAxes entries readSpace nDims "ElementSpacing"
  let dimSizeText ← requireTag entries "DimSize"
  let dimSize ← readAxes (lexicalCast bits) nDims "DimSize" dimSizeText
  let label ← requireTag entries "ElementType"
  let dataType ← readElementType label
  let rawFileName ← requireTag entries "ElementDataFile"
  return { nDims, bigEndian, offset, elementSpacing, dimSize, dataType
           rawFileName := rawFileName.toList }

/-- `GetInformation` of a new reader, on the text of a header. -/
def getInformation (bits : ℕ) (readSpace : Text → Option Space) (fuel : ℕ) (text : Text) :
    Option (Except MetaImageError (MetaImageInformation Space)) :=
  (parseMeta fuel text).map fun parsed => parsed.bind (readInformation bits readSpace)

/-! ## What an accepted header gives -/

/-- There is a value for every axis wherever there are values for the axes. The byte order is
known if one of the two flags is there. -/
structure MetaImageInformation.Shaped (entries : Meta)
    (information : MetaImageInformation Space) : Prop where
  dimSize : (information.dimSize.length : ℤ) = information.nDims
  offset : ∀ offset, information.offset = some offset →
    (offset.length : ℤ) = information.nDims
  elementSpacing : ∀ spacing, information.elementSpacing = some spacing →
    (spacing.length : ℤ) = information.nDims
  axes : ∃ value, entries "DimSize" = some value ∧
    (splitArguments [' ', '\t', ','] value.toList).length = information.dimSize.length
  byteOrder : information.bigEndian.isSome = true ↔
    (entries "BinaryDataByteOrderMSB").isSome = true ∨
      (entries "ElementByteOrderMSB").isSome = true

section Shaped

variable {entries : Meta} {tag : String}

theorem length_of_mapM_eq_some {Token Value : Type} {read : Token → Option Value}
    {tokens : List Token} {values : List Value} (found : tokens.mapM read = some values) :
    values.length = tokens.length := by
  induction tokens generalizing values with
  | nil =>
    cases found
    rfl
  | cons token tokens ih =>
    rw [List.mapM_cons] at found
    obtain ⟨value, -, later⟩ := Option.bind_eq_some_iff.mp found
    obtain ⟨others, read, joined⟩ := Option.bind_eq_some_iff.mp later
    cases joined
    rw [List.length_cons, List.length_cons, ih read]

/-- There are as many values as pieces, and as many as axes. -/
theorem length_of_readAxes {Value : Type} {read : Text → Option Value} {nDims : ℤ}
    {text : String} {values : List Value} (found : readAxes read nDims tag text = .ok values) :
    (values.length : ℤ) = nDims ∧
      (splitArguments [' ', '\t', ','] text.toList).length = values.length := by
  unfold readAxes at found
  dsimp only at found
  split_ifs at found with count
  · cases found
  · rw [not_not] at count
    cases read_all : (splitArguments [' ', '\t', ','] text.toList).reverse.mapM read with
    | none =>
      rw [read_all] at found
      cases found
    | some others =>
      rw [read_all] at found
      cases found
      have same := length_of_mapM_eq_some read_all
      rw [List.length_reverse] at same
      exact ⟨by rw [same, count], same.symm⟩

theorem length_of_readOptionalAxes {Value : Type} {read : Text → Option Value} {nDims : ℤ}
    {axes : Option (List Value)} (found : readOptionalAxes entries read nDims tag = .ok axes) :
    ∀ values, axes = some values → (values.length : ℤ) = nDims := by
  rintro values rfl
  unfold readOptionalAxes at found
  split at found
  · cases found
  · next text given =>
    split_ifs at found
    cases read_axes : readAxes read nDims tag text with
    | error error =>
      rw [read_axes] at found
      cases found
    | ok others =>
      rw [read_axes] at found
      cases found
      exact (length_of_readAxes read_axes).1

/-- A flag is known afterwards if it was known before or its tag is there. -/
theorem isSome_of_readFlag {earlier flag : Option Bool}
    (found : readFlag entries tag earlier = .ok flag) :
    flag.isSome = true ↔ earlier.isSome = true ∨ (entries tag).isSome = true := by
  unfold readFlag at found
  split at found
  · next missing =>
    cases found
    rw [missing]
    simp
  · next value given =>
    rw [given]
    split_ifs at found
    · cases found
      simp
    · cases found
      simp
    · cases found

theorem entry_of_requireTag {value : String} (found : requireTag entries tag = .ok value) :
    entries tag = some value := by
  unfold requireTag at found
  split at found
  · cases found
  · next given =>
    cases found
    exact given

/-- **What `GetInformation` accepts has a value for every axis.** -/
theorem shaped_of_readInformation {bits : ℕ} {readSpace : Text → Option Space}
    {information : MetaImageInformation Space}
    (accepted : readInformation bits readSpace entries = .ok information) :
    information.Shaped entries := by
  unfold readInformation at accepted
  simp only [bind_eq_ok_iff] at accepted
  obtain ⟨-, -, nDimsText, -, nDims, -, -, -, firstFlag, first, flag, second, -, -, offset,
    readOffset, spacing, readSpacing, dimSizeText, given, dimSize, readDimSize, label, -, dataType,
    -, rawFileName, -, made⟩ := accepted
  cases made
  obtain ⟨axes, pieces⟩ := length_of_readAxes readDimSize
  exact {
    dimSize := axes
    offset := length_of_readOptionalAxes readOffset
    elementSpacing := length_of_readOptionalAxes readSpacing
    axes := ⟨dimSizeText, entry_of_requireTag given, pieces⟩
    byteOrder := by
      rw [isSome_of_readFlag second, isSome_of_readFlag first]
      simp }

end Shaped

end AthabascaRecon
