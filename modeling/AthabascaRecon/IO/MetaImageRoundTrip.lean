import AthabascaRecon.IO.ParseMeta
import AthabascaRecon.IO.MetaImageWriter

/-!
# Reading a header that was written

`GetInformation` gives back what `FormatMetaInfo` has written when the name of the raw file
survives the splitting at equals signs and the trimming
(`getInformation_formatMetaInfo_iff`). The lines in front of the name do.
-/

set_option autoImplicit false

namespace AthabascaRecon

/-! ## One line -/

/-- The tags that are written. -/
def writtenTags : List String :=
  ["ObjectType", "NDims", "BinaryData", "BinaryDataByteOrderMSB", "CompressedData", "Offset",
    "ElementSpacing", "DimSize", "ElementType", "ElementDataFile"]

theorem plain_of_mem_writtenTags {tag : String} (written : tag ∈ writtenTags) :
    tag.toList ≠ [] ∧ ∀ c ∈ tag.toList, isSpace c = false ∧ c ≠ '=' := by
  have every : ∀ tag ∈ writtenTags, tag.toList ≠ [] ∧
      (tag.toList.all fun c => !isSpace c && c != '=') = true := by
    decide
  obtain ⟨some_text, plain⟩ := every tag written
  refine ⟨some_text, ?_⟩
  intro c inside
  simpa using List.all_eq_true.mp plain c inside

/-- The pieces of a line are the tag and those of the value. -/
theorem splitArguments_metaLine {tag : String} (written : tag ∈ writtenTags) (value : Text) :
    splitArguments ['='] (metaLine tag value) =
      (tag.toList ++ [' ']) :: splitArguments ['='] value := by
  obtain ⟨some_text, plain⟩ := plain_of_mem_writtenTags written
  have whole : metaLine tag value = (tag.toList ++ [' ']) ++ '=' :: value := by
    simp [metaLine]
  rw [whole]
  apply splitArguments_append_cons (by simp)
  · intro c inside
    rw [List.mem_append, List.mem_singleton] at inside
    rw [List.mem_singleton]
    rcases inside with inside | rfl
    · exact (plain c inside).2
    · decide
  · exact List.mem_singleton_self _

theorem trim_tag {tag : String} (written : tag ∈ writtenTags) :
    String.ofList (trim (tag.toList ++ [' '])) = tag := by
  obtain ⟨-, plain⟩ := plain_of_mem_writtenTags written
  rw [trim_append_singleton (fun c inside => (plain c inside).1) (by decide),
    String.ofList_toList]

/-- An entry of the map. -/
def record (entries : Meta) (entry : String × Text) : Meta :=
  Function.update entries entry.1 (some (String.ofList (trim entry.2)))

/-- A line is recorded when its value is one piece. -/
theorem parseLine_metaLine {tag : String} (written : tag ∈ writtenTags) (value : Text)
    (entries : Meta) :
    parseLine entries (metaLine tag value) =
      match splitArguments ['='] value with
      | [piece] => .ok (record entries (tag, piece))
      | _ => .error (.message "Error parsing meta data.") := by
  unfold parseLine
  rw [splitArguments_metaLine written]
  cases splitArguments ['='] value with
  | nil => rfl
  | cons piece pieces =>
    cases pieces with
    | nil =>
      dsimp only
      rw [trim_tag written]
      rfl
    | cons second pieces => rfl

theorem splitArguments_equals {value : Text} (some_text : value ≠ []) (plain : '=' ∉ value) :
    splitArguments ['='] value = [value] := by
  apply splitArguments_eq_singleton some_text
  intro c inside equals
  rw [List.mem_singleton] at equals
  subst equals
  exact plain inside

/-! ## The axes -/

/-- A text that a number can be written as. -/
structure IsToken (text : Text) : Prop where
  ne_nil : text ≠ []
  not_space : ∀ c ∈ text, isSpace c = false
  not_separator : ∀ c ∈ text, c ≠ ',' ∧ c ≠ '='

theorem IsToken.equals_not_mem {text : Text} (token : IsToken text) : '=' ∉ text :=
  fun inside => (token.not_separator _ inside).2 rfl

theorem IsToken.newline_not_mem {text : Text} (token : IsToken text) : '\n' ∉ text := by
  intro inside
  cases token.not_space _ inside

theorem isToken_showInteger (number : ℤ) : IsToken (showInteger number) where
  ne_nil := showInteger_ne_nil number
  not_space c inside := by
    rcases isDigit_of_mem_showInteger inside with rfl | digit
    · decide
    · exact not_isSpace_of_isDigit digit
  not_separator c inside := by
    rcases isDigit_of_mem_showInteger inside with rfl | digit
    · decide
    · constructor
      · rintro rfl
        cases digit
      · rintro rfl
        cases digit

/-- A text of tokens with blanks in front of all but the first. -/
def spaced (token : Text) (tokens : List Text) : Text :=
  token ++ tokens.flatMap fun token => ' ' :: token

theorem getLast?_spaced {token : Text} {tokens : List Text}
    (plain : ∀ part ∈ token :: tokens, IsToken part) :
    ∀ c ∈ (spaced token tokens).getLast?, isSpace c = false := by
  induction tokens generalizing token with
  | nil =>
    intro c last
    rw [spaced, List.flatMap_nil, List.append_nil] at last
    exact (plain token List.mem_cons_self).not_space c (List.mem_of_mem_getLast? last)
  | cons next tokens ih =>
    intro c last
    have later : ∀ part ∈ next :: tokens, IsToken part :=
      fun part member => plain part (List.mem_cons_of_mem _ member)
    have rest : spaced token (next :: tokens) = token ++ ' ' :: spaced next tokens := by
      simp [spaced]
    have some_text : spaced next tokens ≠ [] := by
      simp [spaced, (later next List.mem_cons_self).ne_nil]
    rw [rest, List.getLast?_append, List.getLast?_cons_of_ne_nil some_text,
      List.getLast?_eq_some_getLast some_text, Option.some_or,
      ← List.getLast?_eq_some_getLast some_text] at last
    exact ih later c last

theorem trim_spaced {token : Text} {tokens : List Text}
    (plain : ∀ part ∈ token :: tokens, IsToken part) :
    trim (' ' :: spaced token tokens) = spaced token tokens := by
  rw [trim_cons_of_isSpace (by decide)]
  apply trim_eq_self
  · intro c head
    have first := plain token List.mem_cons_self
    rw [spaced, List.head?_append, List.head?_eq_some_head first.ne_nil, Option.some_or] at head
    cases head
    exact first.not_space _ (List.head_mem first.ne_nil)
  · exact getLast?_spaced plain

theorem splitArguments_spaced {token : Text} {tokens : List Text}
    (plain : ∀ part ∈ token :: tokens, IsToken part) :
    splitArguments [' ', '\t', ','] (spaced token tokens) = token :: tokens := by
  apply splitArguments_separated (by decide) (fun part member => (plain part member).ne_nil)
  intro part member c inside separator
  have space := (plain part member).not_space c inside
  simp only [List.mem_cons, List.not_mem_nil, or_false] at separator
  rcases separator with rfl | rfl | rfl
  · cases space
  · cases space
  · exact ((plain part member).not_separator _ inside).1 rfl

/-- Values that are read one by one, as some other values perhaps. -/
theorem mapM_map {Value : Type} {write : Value → Text} {read : Text → Option Value}
    {rounded : Value → Value} {values : List Value}
    (legible : ∀ value ∈ values, read (write value) = some (rounded value)) :
    (values.map write).mapM read = some (values.map rounded) := by
  induction values with
  | nil => rfl
  | cons value values ih =>
    rw [List.map_cons, List.mapM_cons, legible value List.mem_cons_self,
      ih fun value member => legible value (List.mem_cons_of_mem _ member)]
    rfl

section Axes

variable {Value : Type} {N : ℕ} {write : Value → Text}

/-- The text of the axes has the last one in front. -/
theorem formatAxes_eq (some_axis : 0 < N) (write : Value → Text) (axes : Vector Value N) :
    ∃ token tokens, axes.toList.reverse.map write = token :: tokens ∧
      formatAxes write axes = ' ' :: spaced token tokens := by
  cases written : axes.toList.reverse.map write with
  | nil =>
    have size := congrArg List.length written
    rw [List.length_map, List.length_reverse, Vector.length_toList, List.length_nil] at size
    omega
  | cons token tokens =>
    refine ⟨token, tokens, rfl, ?_⟩
    have joined : formatAxes write axes =
        (axes.toList.reverse.map write).flatMap fun token => ' ' :: token := by
      rw [List.flatMap_map]
      rfl
    rw [joined, written]
    rfl

/-- The axes are read in the order that they had. -/
theorem readAxes_formatAxes {read : Text → Option Value} {rounded : Value → Value}
    {axes : Vector Value N} (some_axis : 0 < N)
    (tokens : ∀ value ∈ axes.toList, IsToken (write value))
    (legible : ∀ value ∈ axes.toList, read (write value) = some (rounded value)) (tag : String) :
    readAxes read N tag (String.ofList (trim (formatAxes write axes))) =
      .ok (axes.toList.map rounded) := by
  obtain ⟨token, rest, parts, formatted⟩ := formatAxes_eq some_axis write axes
  have plain : ∀ part ∈ token :: rest, IsToken part := by
    rw [← parts]
    intro part member
    obtain ⟨value, inside, rfl⟩ := List.mem_map.mp member
    exact tokens value (List.mem_reverse.mp inside)
  unfold readAxes
  dsimp only
  rw [String.toList_ofList, formatted, trim_spaced plain, splitArguments_spaced plain, ← parts,
    List.length_map, List.length_reverse, Vector.length_toList, if_neg (by simp),
    ← List.map_reverse, List.reverse_reverse, mapM_map legible]

/-- There are only blanks and the characters of the numbers in the text of the axes. -/
theorem mem_formatAxes {axes : Vector Value N} {c : Char} (inside : c ∈ formatAxes write axes) :
    c = ' ' ∨ ∃ value ∈ axes.toList, c ∈ write value := by
  obtain ⟨value, member, inside⟩ := List.mem_flatMap.mp inside
  rcases List.mem_cons.mp inside with blank | inside
  · exact .inl blank
  · exact .inr ⟨value, List.mem_reverse.mp member, inside⟩

theorem formatAxes_plain {axes : Vector Value N}
    (tokens : ∀ value ∈ axes.toList, IsToken (write value)) :
    '=' ∉ formatAxes write axes ∧ '\n' ∉ formatAxes write axes := by
  constructor
  · intro inside
    rcases mem_formatAxes inside with blank | ⟨value, member, inside⟩
    · cases blank
    · exact (tokens value member).equals_not_mem inside
  · intro inside
    rcases mem_formatAxes inside with blank | ⟨value, member, inside⟩
    · cases blank
    · exact (tokens value member).newline_not_mem inside

theorem formatAxes_ne_nil (some_axis : 0 < N) (axes : Vector Value N) :
    formatAxes write axes ≠ [] := by
  obtain ⟨token, rest, -, formatted⟩ := formatAxes_eq some_axis write axes
  rw [formatted]
  exact List.cons_ne_nil _ _

end Axes

/-! ## Whole headers -/

variable {Space : Type} {N : ℕ}

/-- What the reader should know after reading a header. -/
def MetaImageHeader.information (bigEndian : Bool) (header : MetaImageHeader Space N) :
    MetaImageInformation Space where
  nDims := N
  bigEndian := some bigEndian
  offset := some header.offset.toList
  elementSpacing := some header.elementSpacing.toList
  dimSize := header.dimSize.toList
  dataType := header.elementType
  rawFileName := header.rawFileName

/-- The numbers of a header can be written and read again. The number of dimensions is an
`int`. -/
structure MetaImageHeader.Faithful (bits : ℕ) (writeSpace : Space → Text)
    (readSpace : Text → Option Space) (header : MetaImageHeader Space N) : Prop where
  nDims : fitsSigned bits N = true ∧ fitsSigned 32 N = true
  dimSize : ∀ size ∈ header.dimSize.toList, fitsSigned bits size = true
  tokens : ∀ space ∈ header.offset.toList ++ header.elementSpacing.toList,
    IsToken (writeSpace space)
  spaces : ∀ space ∈ header.offset.toList ++ header.elementSpacing.toList,
    readSpace (writeSpace space) = some space

/-- The numbers of a header can be written and read, some of them as other numbers perhaps. -/
structure MetaImageHeader.Legible (bits : ℕ) (writeSpace : Space → Text)
    (readSpace : Text → Option Space) (header : MetaImageHeader Space N) : Prop where
  nDims : fitsSigned bits N = true ∧ fitsSigned 32 N = true
  dimSize : ∀ size ∈ header.dimSize.toList, fitsSigned bits size = true
  tokens : ∀ space ∈ header.offset.toList ++ header.elementSpacing.toList,
    IsToken (writeSpace space)
  spaces : ∀ space ∈ header.offset.toList ++ header.elementSpacing.toList,
    (readSpace (writeSpace space)).isSome = true

/-- The number that is read where a number was written. -/
def rereadSpace (writeSpace : Space → Text) (readSpace : Text → Option Space) (space : Space) :
    Space :=
  (readSpace (writeSpace space)).getD space

/-- A header with the numbers that are read. -/
def MetaImageHeader.reread (writeSpace : Space → Text) (readSpace : Text → Option Space)
    (header : MetaImageHeader Space N) : MetaImageHeader Space N :=
  { header with
    offset := header.offset.map (rereadSpace writeSpace readSpace)
    elementSpacing := header.elementSpacing.map (rereadSpace writeSpace readSpace) }

section Reread

variable {bits : ℕ} {writeSpace : Space → Text} {readSpace : Text → Option Space}
  {header : MetaImageHeader Space N}

theorem MetaImageHeader.Legible.reads (legible : header.Legible bits writeSpace readSpace)
    {space : Space} (member : space ∈ header.offset.toList ++ header.elementSpacing.toList) :
    readSpace (writeSpace space) = some (rereadSpace writeSpace readSpace space) := by
  obtain ⟨found, read⟩ := Option.isSome_iff_exists.mp (legible.spaces space member)
  rw [rereadSpace, read, Option.getD_some]

theorem MetaImageHeader.Faithful.legible (faithful : header.Faithful bits writeSpace readSpace) :
    header.Legible bits writeSpace readSpace where
  nDims := faithful.nDims
  dimSize := faithful.dimSize
  tokens := faithful.tokens
  spaces space member := by rw [faithful.spaces space member, Option.isSome_some]

/-- Numbers that are read as they were written stay what they are. -/
theorem map_rereadSpace {axes : Vector Space N}
    (reads : ∀ space ∈ axes.toList, readSpace (writeSpace space) = some space) :
    axes.map (rereadSpace writeSpace readSpace) = axes := by
  apply Vector.toList_inj.mp
  rw [Vector.toList_map]
  conv_rhs => rw [← List.map_id axes.toList]
  apply List.map_congr_left
  intro space member
  rw [rereadSpace, reads space member, Option.getD_some, id]

theorem MetaImageHeader.Faithful.reread (faithful : header.Faithful bits writeSpace readSpace) :
    header.reread writeSpace readSpace = header := by
  rw [MetaImageHeader.reread,
    map_rereadSpace fun space member => faithful.spaces space (List.mem_append_left _ member),
    map_rereadSpace fun space member => faithful.spaces space (List.mem_append_right _ member)]

end Reread

/-- The tags and values in front of the name of the raw file. -/
def MetaImageHeader.front (bigEndian : Bool) (writeSpace : Space → Text)
    (header : MetaImageHeader Space N) : List (String × Text) :=
  [("ObjectType", ' ' :: "Image".toList),
    ("NDims", ' ' :: showInteger N),
    ("BinaryData", ' ' :: "True".toList),
    ("BinaryDataByteOrderMSB", ' ' :: (trueOrFalse bigEndian).toList),
    ("CompressedData", ' ' :: "False".toList),
    ("Offset", formatAxes writeSpace header.offset),
    ("ElementSpacing", formatAxes writeSpace header.elementSpacing),
    ("DimSize", formatAxes showInteger header.dimSize),
    ("ElementType", ' ' :: (metaImageDataTypeLabel header.elementType).toList)]

theorem metaLines_eq (bigEndian : Bool) (writeSpace : Space → Text)
    (header : MetaImageHeader Space N) :
    metaLines bigEndian writeSpace header =
      (header.front bigEndian writeSpace).map (fun entry => metaLine entry.1 entry.2) ++
        [metaLine "ElementDataFile" (' ' :: header.rawFileName)] :=
  rfl

/-- Tags that are not recorded keep their entries. -/
theorem foldl_record_of_not_mem {lines : List (String × Text)} {tag : String}
    (other : tag ∉ lines.map Prod.fst) (entries : Meta) :
    lines.foldl record entries tag = entries tag := by
  induction lines generalizing entries with
  | nil => rfl
  | cons line lines ih =>
    rw [List.map_cons, List.mem_cons, not_or] at other
    rw [List.foldl_cons, ih other.2, record, Function.update_of_ne other.1]

/-- The entry of a tag that is recorded once. -/
theorem foldl_record_of_mem {lines : List (String × Text)} {entry : String × Text}
    (once : (lines.map Prod.fst).Nodup) (member : entry ∈ lines) (entries : Meta) :
    lines.foldl record entries entry.1 = some (String.ofList (trim entry.2)) := by
  induction lines generalizing entries with
  | nil => cases member
  | cons line lines ih =>
    rw [List.map_cons, List.nodup_cons] at once
    rw [List.foldl_cons]
    rcases List.mem_cons.mp member with rfl | later
    · rw [foldl_record_of_not_mem once.1, record, Function.update_self]
    · exact ih once.2 later _

/-- A value that a line can hold. -/
def Plain (value : Text) : Prop :=
  value ≠ [] ∧ '=' ∉ value ∧ '\n' ∉ value

theorem foldlM_parseLine {lines : List (String × Text)}
    (plain : ∀ line ∈ lines, line.1 ∈ writtenTags ∧ Plain line.2) (entries : Meta) :
    (lines.map fun line => metaLine line.1 line.2).foldlM parseLine entries =
      .ok (lines.foldl record entries) := by
  induction lines generalizing entries with
  | nil => rfl
  | cons line lines ih =>
    obtain ⟨⟨written, some_text, unbroken, -⟩, later⟩ := List.forall_mem_cons.mp plain
    rw [List.map_cons, List.foldlM_cons, parseLine_metaLine written,
      splitArguments_equals some_text unbroken, List.foldl_cons]
    exact ih later _

theorem plain_label (label : String) (unbroken : '=' ∉ label.toList ∧ '\n' ∉ label.toList) :
    Plain (' ' :: label.toList) := by
  refine ⟨List.cons_ne_nil _ _, ?_, ?_⟩
  · simpa using unbroken.1
  · simpa using unbroken.2

theorem plain_formatAxes {Value : Type} {write : Value → Text} {axes : Vector Value N}
    (some_axis : 0 < N) (tokens : ∀ value ∈ axes.toList, IsToken (write value)) :
    Plain (formatAxes write axes) :=
  ⟨formatAxes_ne_nil some_axis axes, formatAxes_plain tokens⟩

/-- The values in front of the name of the raw file can be held by lines. -/
theorem front_plain {bits : ℕ} {bigEndian : Bool} {writeSpace : Space → Text}
    {readSpace : Text → Option Space} {header : MetaImageHeader Space N} (some_axis : 0 < N)
    (legible : header.Legible bits writeSpace readSpace) :
    ∀ entry ∈ header.front bigEndian writeSpace, entry.1 ∈ writtenTags ∧ Plain entry.2 := by
  have nDims : Plain (' ' :: showInteger N) := by
    have token := isToken_showInteger N
    refine ⟨List.cons_ne_nil _ _, ?_, ?_⟩
    · simpa using token.equals_not_mem
    · simpa using token.newline_not_mem
  have byteOrder : Plain (' ' :: (trueOrFalse bigEndian).toList) := by
    apply plain_label
    cases bigEndian <;> decide
  have elementType : Plain (' ' :: (metaImageDataTypeLabel header.elementType).toList) := by
    apply plain_label
    cases header.elementType <;> decide
  have offset : Plain (formatAxes writeSpace header.offset) :=
    plain_formatAxes some_axis fun space member =>
      legible.tokens space (List.mem_append_left _ member)
  have elementSpacing : Plain (formatAxes writeSpace header.elementSpacing) :=
    plain_formatAxes some_axis fun space member =>
      legible.tokens space (List.mem_append_right _ member)
  have dimSize : Plain (formatAxes showInteger header.dimSize) :=
    plain_formatAxes some_axis fun size _ => isToken_showInteger size
  unfold MetaImageHeader.front
  simp only [List.forall_mem_cons]
  refine ⟨⟨by decide, plain_label _ (by decide)⟩, ⟨by decide, nDims⟩,
    ⟨by decide, plain_label _ (by decide)⟩, ⟨by decide, byteOrder⟩,
    ⟨by decide, plain_label _ (by decide)⟩, ⟨by decide, offset⟩, ⟨by decide, elementSpacing⟩,
    ⟨by decide, dimSize⟩, ⟨by decide, elementType⟩, List.forall_mem_nil _⟩

theorem readElementType_label (dataType : DataType) :
    readElementType (metaImageDataTypeLabel dataType) = .ok dataType := by
  cases dataType <;> rfl

theorem trim_showInteger (number : ℤ) :
    trim (' ' :: showInteger number) = showInteger number := by
  have token := isToken_showInteger number
  have trimmed : trim (' ' :: spaced (showInteger number) []) = spaced (showInteger number) [] :=
    trim_spaced (by simpa using token)
  rwa [spaced, List.flatMap_nil, List.append_nil] at trimmed

/-- The blank in front of a label is trimmed. -/
theorem trim_label {label : String} (plain : (label.toList.all fun c => !isSpace c) = true) :
    String.ofList (trim (' ' :: label.toList)) = label := by
  have not_space : ∀ c ∈ label.toList, isSpace c = false := by
    intro c inside
    simpa using List.all_eq_true.mp plain c inside
  rw [trim_cons_of_isSpace (by decide),
    trim_eq_self (fun c head => not_space c (List.mem_of_mem_head? head))
      (fun c last => not_space c (List.mem_of_mem_getLast? last)), String.ofList_toList]

theorem readNDims_showInteger {bits : ℕ} {nDims : ℤ} (fits : fitsSigned bits nDims = true)
    (fitsInt : fitsSigned 32 nDims = true) :
    readNDims bits (String.ofList (showInteger nDims)) = .ok nDims := by
  rw [readNDims, String.toList_ofList, lexicalCast_showInteger fits]
  exact congrArg Except.ok (toSigned_of_fitsSigned fitsInt)

/-- What the reader takes from the map that the lines give. -/
theorem readInformation_of_lookup {bits : ℕ} {bigEndian : Bool} {writeSpace : Space → Text}
    {readSpace : Text → Option Space} {header : MetaImageHeader Space N} (some_axis : 0 < N)
    (legible : header.Legible bits writeSpace readSpace) {name : Text} {entries : Meta}
    (lookup : ∀ entry ∈ header.front bigEndian writeSpace ++ [("ElementDataFile", name)],
      entries entry.1 = some (String.ofList (trim entry.2)))
    (missing : entries "ElementByteOrderMSB" = none) :
    readInformation bits readSpace entries =
      .ok { (header.reread writeSpace readSpace).information bigEndian with
        rawFileName := trim name } := by
  have byteOrder : ((trueOrFalse bigEndian).toList.all fun c => !isSpace c) = true := by
    cases bigEndian <;> decide
  have elementType :
      ((metaImageDataTypeLabel header.elementType).toList.all fun c => !isSpace c) = true := by
    cases header.elementType <;> decide
  have flag (tag : String) (found : entries tag = some (trueOrFalse bigEndian)) :
      readFlag entries tag none = .ok (some bigEndian) := by
    rw [readFlag, found]
    cases bigEndian <;> rfl
  have no_flag (earlier : Option Bool) :
      readFlag entries "ElementByteOrderMSB" earlier = .ok earlier := by
    rw [readFlag, missing]
  have axes_nonneg : ¬(N : ℤ) < 0 := by omega
  simp only [MetaImageHeader.front, List.cons_append, List.nil_append, List.forall_mem_cons,
    List.not_mem_nil, false_implies, implies_true, and_true] at lookup
  obtain ⟨objectType, nDims, binaryData, byteOrderEntry, compressedData, offset, elementSpacing,
    dimSize, elementTypeEntry, elementDataFile⟩ := lookup
  rw [trim_label (by decide)] at objectType binaryData compressedData
  rw [trim_label byteOrder] at byteOrderEntry
  rw [trim_label elementType] at elementTypeEntry
  rw [trim_showInteger] at nDims
  have offset_read := readAxes_formatAxes some_axis (fun space member =>
      legible.tokens space (List.mem_append_left _ member)) (fun space member =>
      legible.reads (List.mem_append_left _ member)) "Offset"
  have elementSpacing_read := readAxes_formatAxes some_axis (fun space member =>
      legible.tokens space (List.mem_append_right _ member)) (fun space member =>
      legible.reads (List.mem_append_right _ member)) "ElementSpacing"
  have dimSize_read : readAxes (lexicalCast bits) N "DimSize"
      (String.ofList (trim (formatAxes showInteger header.dimSize))) =
        .ok (header.dimSize.toList.map id) :=
    readAxes_formatAxes some_axis (fun size _ => isToken_showInteger size)
      (fun size member => lexicalCast_showInteger (legible.dimSize size member)) "DimSize"
  rw [List.map_id] at dimSize_read
  rw [MetaImageHeader.reread, MetaImageHeader.information, Vector.toList_map, Vector.toList_map]
  unfold readInformation
  simp only [requireValue, requireTag, readOptionalAxes, objectType, nDims, binaryData,
    flag _ byteOrderEntry, no_flag, compressedData, offset, elementSpacing, dimSize,
    elementTypeEntry, elementDataFile, readElementType_label, String.toList_ofList,
    readNDims_showInteger legible.nDims.1 legible.nDims.2, axes_nonneg, if_true, if_false,
    offset_read,
    elementSpacing_read, dimSize_read, bind, Except.bind, Except.map, pure, Except.pure]

/-- The lines of a header are lines of a text. -/
theorem metaLines_whole {bigEndian : Bool} {writeSpace : Space → Text}
    {header : MetaImageHeader Space N}
    (plain : ∀ line ∈ header.front bigEndian writeSpace, line.1 ∈ writtenTags ∧ Plain line.2)
    (one_line : '\n' ∉ header.rawFileName) :
    ∀ line ∈ metaLines bigEndian writeSpace header, line ≠ [] ∧ '\n' ∉ line := by
  have whole : ∀ tag ∈ writtenTags, ∀ value : Text, '\n' ∉ value →
      metaLine tag value ≠ [] ∧ '\n' ∉ metaLine tag value := by
    intro tag written value one_line
    obtain ⟨some_text, plain⟩ := plain_of_mem_writtenTags written
    constructor
    · simp [metaLine]
    · intro inside
      rw [metaLine, List.mem_append] at inside
      rcases inside with inside | inside
      · cases (plain _ inside).1
      · exact one_line (by simpa using inside)
  rw [metaLines_eq, List.forall_mem_append]
  constructor
  · intro text member
    obtain ⟨line, inside, rfl⟩ := List.mem_map.mp member
    exact whole line.1 (plain line inside).1 line.2 (plain line inside).2.2.2
  · intro text member
    rw [List.mem_singleton] at member
    subst member
    exact whole _ (by decide) _ (by simpa using one_line)

/-- What the reader makes of a header depends on the pieces of the name of the raw file. -/
theorem getInformation_of_legible {bits : ℕ} {bigEndian : Bool} {writeSpace : Space → Text}
    {readSpace : Text → Option Space} {header : MetaImageHeader Space N} (some_axis : 0 < N)
    (legible : header.Legible bits writeSpace readSpace)
    (one_line : '\n' ∉ header.rawFileName) :
    getInformation bits readSpace 10 (formatMetaInfo bigEndian writeSpace header) =
      some (match splitArguments ['='] (' ' :: header.rawFileName) with
        | [piece] => .ok { (header.reread writeSpace readSpace).information bigEndian with
            rawFileName := trim piece }
        | _ => .error (.message "Error parsing meta data.")) := by
  have plain : ∀ line ∈ header.front bigEndian writeSpace, line.1 ∈ writtenTags ∧ Plain line.2 :=
    front_plain some_axis legible
  have parsed : parseMeta 10 (formatMetaInfo bigEndian writeSpace header) =
      some ((metaLines bigEndian writeSpace header).foldlM parseLine fun _ => none) :=
    parseLines_lines (metaLines_whole plain one_line) _
  have last (entries : Meta) : [metaLine "ElementDataFile" (' ' :: header.rawFileName)].foldlM
      parseLine entries = parseLine entries (metaLine "ElementDataFile" _) :=
    bind_pure _
  rw [getInformation, parsed, metaLines_eq, List.foldlM_append, foldlM_parseLine plain]
  show some (Except.bind ([metaLine _ _].foldlM parseLine _) _) = _
  rw [last, parseLine_metaLine (by decide)]
  congr 1
  cases splitArguments ['='] (' ' :: header.rawFileName) with
  | nil => rfl
  | cons piece pieces =>
    cases pieces with
    | cons second pieces => rfl
    | nil =>
      have once : ((header.front bigEndian writeSpace ++ [("ElementDataFile", piece)]).map
          Prod.fst).Nodup := by
        show writtenTags.Nodup
        decide
      have recorded := readInformation_of_lookup some_axis legible
        (fun entry member => foldl_record_of_mem once member fun _ => none)
        (foldl_record_of_not_mem (by show "ElementByteOrderMSB" ∉ writtenTags; decide) _)
      rw [List.foldl_append, List.foldl_cons, List.foldl_nil] at recorded
      dsimp only [Except.bind]
      rw [recorded]

theorem getInformation_formatMetaInfo {bits : ℕ} {bigEndian : Bool} {writeSpace : Space → Text}
    {readSpace : Text → Option Space} {header : MetaImageHeader Space N} (some_axis : 0 < N)
    (faithful : header.Faithful bits writeSpace readSpace)
    (one_line : '\n' ∉ header.rawFileName) :
    getInformation bits readSpace 10 (formatMetaInfo bigEndian writeSpace header) =
      some (match splitArguments ['='] (' ' :: header.rawFileName) with
        | [piece] => .ok { header.information bigEndian with rawFileName := trim piece }
        | _ => .error (.message "Error parsing meta data.")) := by
  rw [getInformation_of_legible some_axis faithful.legible one_line, faithful.reread]

theorem getInformation_unique {bits : ℕ} {readSpace : Text → Option Space} {fuel other : ℕ}
    {text : Text} {outcome found : Except MetaImageError (MetaImageInformation Space)}
    (read : getInformation bits readSpace fuel text = some outcome)
    (again : getInformation bits readSpace other text = some found) : outcome = found := by
  obtain ⟨entries, parsed, rfl⟩ := Option.map_eq_some_iff.mp read
  obtain ⟨others, reparsed, rfl⟩ := Option.map_eq_some_iff.mp again
  rw [parseLines_unique parsed reparsed]

/-- The name of the raw file is one piece only without equals signs. -/
theorem trim_piece_eq_iff {name : Text} :
    (∃ piece, splitArguments ['='] (' ' :: name) = [piece] ∧ trim piece = name) ↔
      '=' ∉ name ∧ trim name = name := by
  constructor
  · rintro ⟨piece, split, trimmed⟩
    have unbroken : '=' ∉ name := by
      intro inside
      rw [← trimmed] at inside
      have member : piece ∈ splitArguments ['='] (' ' :: name) := by simp [split]
      exact not_mem_of_mem_splitArguments member _ (mem_of_mem_trim inside)
        (List.mem_singleton_self _)
    rw [splitArguments_equals (List.cons_ne_nil _ _) (by simpa using unbroken)] at split
    cases split
    rw [trim_cons_of_isSpace (by decide)] at trimmed
    exact ⟨unbroken, trimmed⟩
  · rintro ⟨unbroken, trimmed⟩
    refine ⟨' ' :: name, splitArguments_equals (List.cons_ne_nil _ _) (by simpa using unbroken), ?_⟩
    rw [trim_cons_of_isSpace (by decide), trimmed]

/-- **A header is read back as it was written if and only if the name of the raw file has no
equals sign and no white space at either end.** -/
theorem getInformation_formatMetaInfo_iff {bits : ℕ} {bigEndian : Bool}
    {writeSpace : Space → Text} {readSpace : Text → Option Space}
    {header : MetaImageHeader Space N} (some_axis : 0 < N)
    (faithful : header.Faithful bits writeSpace readSpace)
    (one_line : '\n' ∉ header.rawFileName) :
    (∃ fuel, getInformation bits readSpace fuel (formatMetaInfo bigEndian writeSpace header) =
        some (.ok (header.information bigEndian))) ↔
      '=' ∉ header.rawFileName ∧ trim header.rawFileName = header.rawFileName := by
  have read : getInformation bits readSpace 10 (formatMetaInfo bigEndian writeSpace header) = _ :=
    getInformation_formatMetaInfo some_axis faithful one_line
  rw [← trim_piece_eq_iff]
  constructor
  · rintro ⟨fuel, again⟩
    have same := getInformation_unique again read
    cases split : splitArguments ['='] (' ' :: header.rawFileName) with
    | nil =>
      rw [split] at same
      cases same
    | cons piece pieces =>
      rw [split] at same
      cases pieces with
      | cons second pieces => cases same
      | nil =>
        have names := congrArg MetaImageInformation.rawFileName (Except.ok.inj same)
        exact ⟨piece, rfl, names.symm⟩
  · rintro ⟨piece, split, trimmed⟩
    refine ⟨10, ?_⟩
    rw [read, split]
    dsimp only
    rw [trimmed]
    rfl

/-- The header of a stack of slices, with spaces that are whole numbers. -/
def stackHeader (rawFileName : String) : MetaImageHeader ℤ 3 where
  offset := #v[-4, 0, 25]
  elementSpacing := #v[1, 2, 2]
  dimSize := #v[100, 640, 480]
  elementType := .float32
  rawFileName := rawFileName.toList

theorem faithful_stackHeader (rawFileName : String) :
    (stackHeader rawFileName).Faithful 32 showInteger (lexicalCast 64) where
  nDims := by decide
  dimSize := by
    show ∀ size ∈ [100, 640, 480], fitsSigned 32 size = true
    decide
  tokens space _ := isToken_showInteger space
  spaces space member := by
    apply lexicalCast_showInteger
    revert space
    show ∀ space ∈ [-4, 0, 25, 1, 2, 2], fitsSigned 64 space = true
    decide

theorem getInformation_formatMetaInfo_volume :
    (0 < 3 ∧ (stackHeader "volume.raw").Faithful 32 showInteger (lexicalCast 64) ∧
      '\n' ∉ (stackHeader "volume.raw").rawFileName) ∧
    ∃ fuel, getInformation 32 (lexicalCast 64) fuel
        (formatMetaInfo false showInteger (stackHeader "volume.raw")) =
      some (.ok ((stackHeader "volume.raw").information false)) := by
  refine ⟨⟨by decide, faithful_stackHeader _, by decide⟩, ?_⟩
  apply (getInformation_formatMetaInfo_iff (by decide) (faithful_stackHeader _) (by decide)).mpr
  decide

/-- The name of a volume can have an equals sign, and then the header is not read at all. -/
theorem getInformation_equals_sign :
    getInformation 32 (lexicalCast 64) 10
        (formatMetaInfo false showInteger (stackHeader "a=b.raw")) =
      some (.error (.message "Error parsing meta data.")) ∧
    ¬ ∃ fuel, getInformation 32 (lexicalCast 64) fuel
        (formatMetaInfo false showInteger (stackHeader "a=b.raw")) =
      some (.ok ((stackHeader "a=b.raw").information false)) := by
  have read : getInformation 32 (lexicalCast 64) 10
      (formatMetaInfo false showInteger (stackHeader "a=b.raw")) =
        some (.error (.message "Error parsing meta data.")) :=
    getInformation_formatMetaInfo (by decide) (faithful_stackHeader _) (by decide)
  refine ⟨read, ?_⟩
  rintro ⟨fuel, again⟩
  cases getInformation_unique again read

end AthabascaRecon
