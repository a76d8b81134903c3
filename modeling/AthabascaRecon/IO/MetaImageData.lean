import AthabascaRecon.Bonelab.Endian
import AthabascaRecon.Bonelab.ImageObject
import AthabascaRecon.IO.ParseMeta
import Mathlib.Data.UInt

/-!
# Reading the pixels of a MetaImage

`GetData` reads the raw file that a header names into an image. It constructs the image when
that has not been done, and otherwise assigns the spacing and the origin of the header to
copies that the accessors return, which leaves those of the image as they were. Without an
offset, the origin is a local variable that was never set. So an image that was constructed
before becomes the same as one that was not only when it had the geometry of the header
already, and only when the header has an offset (`readsTheSame_iff`).
-/

set_option autoImplicit false

namespace AthabascaRecon

/-- The number of bytes of the values of a type. -/
def DataType.bytes : DataType → ℕ
  | .int8 => 1
  | .uint8 => 1
  | .int16 => 2
  | .uint16 => 2
  | .int32 => 4
  | .uint32 => 4
  | .int64 => 8
  | .uint64 => 8
  | .float32 => 4
  | .float64 => 8

/-- What `GetData` throws. -/
inductive GetDataFailure where
  | message (text : String)
  | assertionFailed
  | notConstructed (failure : ArrayException)
  | errorOpeningFile (name : Text)
  | errorReadingFile (name : Text)
  deriving DecidableEq, Repr

/-! ## `GetData` -/

section GetData

variable {n : ℕ} {Value Space : Type}

/-- `athabasca_verbose_assert`. -/
def verboseAssert (condition : Prop) [Decidable condition] (text : String) :
    Except GetDataFailure Unit :=
  if condition then .ok () else .error (.message text)

/-- The constructor of a `Tuple` from a vector. -/
def tupleOfVector (n : ℕ) (values : List Value) : Except GetDataFailure (Fin n → Value) :=
  if same : values.length = n then .ok fun i => values.get (i.cast same.symm)
  else .error .assertionFailed

/-- A vector as a `Tuple`, or what is there instead of it. -/
def tupleOr (values : Option (List Value)) (other : Fin n → Value) :
    Except GetDataFailure (Fin n → Value) :=
  match values with
  | none => .ok other
  | some values => tupleOfVector n values

/-- The byte order that a flag stands for. -/
def fileOrder (bigEndian : Bool) : EEndian :=
  if bigEndian then .bigEndianOrder else .littleEndianOrder

/-- What a call of `GetData` finds: the byte order of the host, the files, the address that
`new` returns if it is called, and the content of its variable `origin` and of the unions of
`SwapBytes` before they are set. -/
structure Surroundings (n size : ℕ) (Space : Type) where
  host : EEndian
  files : Text → Option (List UInt8)
  allocation : Option ℕ+
  origin : Fin n → Space
  out : ℕ → ValueBytes size

variable {size : ℕ}

/-- The image that the file is read into. The accessors `spacing` and `origin` return by value,
so that the assignments to what they return do not change the image. -/
def preparedImage [Field Space] (allocation : Option ℕ+) (dims : Fin n → ℤ)
    (pixelSize origin : Fin n → Space) (image : Image n (ValueBytes size) Space) :
    Except GetDataFailure (Image n (ValueBytes size) Space) :=
  if image.isConstructed then
    if image.dims = dims then .ok image else .error .assertionFailed
  else match image.construct allocation dims pixelSize origin with
    | (.error failure, _) => .error (.notConstructed failure)
    | (.ok _, image) => .ok image

/-- The memory after `read` of the bytes of some elements. -/
def readElementBytes (file : List UInt8) (count : ℕ) (content : ℕ → ValueBytes size) :
    ℕ → ValueBytes size := fun p =>
  if p < count then fun b => file.getD (p * size + b.val) 0 else content p

/-- `EndianConversion`, if the flag exists. -/
def convertFrom (host : EEndian) (bigEndian : Option Bool) (out : ℕ → ValueBytes size)
    (count : ℕ) (content : ℕ → ValueBytes size) : ℕ → ValueBytes size :=
  match bigEndian with
  | none => content
  | some bigEndian => (endianConversion (fileOrder bigEndian) host out count content).1

/-- The file is read into the image, and converted. -/
def readImage (surroundings : Surroundings n size Space)
    (information : MetaImageInformation Space) (image : Image n (ValueBytes size) Space) :
    Except GetDataFailure (Image n (ValueBytes size) Space) :=
  if information.rawFileName = [] then .error .assertionFailed
  else match surroundings.files information.rawFileName with
    | none => .error (.errorOpeningFile information.rawFileName)
    | some file =>
      if image.size * size ≤ file.length then
        .ok (image.withContent (convertFrom surroundings.host information.bigEndian
          surroundings.out image.size (readElementBytes file image.size image.content)))
      else .error (.errorReadingFile information.rawFileName)

/-- `GetData`, into an image with `n` axes and elements of a type. -/
def getData [Field Space] (dataType : DataType)
    (surroundings : Surroundings n dataType.bytes Space)
    (information : MetaImageInformation Space)
    (image : Image n (ValueBytes dataType.bytes) Space) :
    Except GetDataFailure (Image n (ValueBytes dataType.bytes) Space) := do
  verboseAssert (information.nDims = n) ("Number of dimensions in MetaData file doesn't " ++
    "match number of requested dimensions.")
  verboseAssert (information.dataType = dataType)
    "Data types in MetaData file doesn't match requested data type."
  let dims ← tupleOfVector n information.dimSize
  let pixelSize ← tupleOr information.elementSpacing 1
  let origin ← tupleOr information.offset surroundings.origin
  let image ← preparedImage surroundings.allocation dims pixelSize origin image
  readImage surroundings information image

end GetData

/-! ## Images of a file -/

section Views

variable {n size : ℕ} {Space : Type}

/-- What can be seen of an image. -/
structure ImageView (n size : ℕ) (Space : Type) where
  dims : Fin n → ℤ
  spacing : Fin n → Space
  origin : Fin n → Space
  interiorExtents : Fin n → Extent Space
  exteriorExtents : Fin n → Extent Space
  pixels : List (ValueBytes size)

def Image.view (image : Image n (ValueBytes size) Space) : ImageView n size Space where
  dims := image.dims
  spacing := image.spacing
  origin := image.origin
  interiorExtents := image.interiorExtents
  exteriorExtents := image.exteriorExtents
  pixels := (List.range image.size).map image.content

/-- A flag gives a byte order that is not the one of the host. -/
def foreign (host : EEndian) (bigEndian : Option Bool) : Bool :=
  match bigEndian with
  | none => false
  | some bigEndian => decide (fileOrder bigEndian ≠ host)

/-- A pixel of a file, in the byte order of the host. -/
def filePixel (host : EEndian) (bigEndian : Option Bool) (file : List UInt8) (p : ℕ) :
    ValueBytes size := fun b =>
  file.getD (p * size + (if foreign host bigEndian then b.rev else b).val) 0

/-- The image is the one that the header and the data describe. The spacing is one and the
origin is zero where the header does not say what they are. -/
structure ShowsFile [Field Space] (host : EEndian) (information : MetaImageInformation Space)
    (file : List UInt8) (image : Image n (ValueBytes size) Space) : Prop where
  dims : List.ofFn image.dims = information.dimSize
  spacing : List.ofFn image.spacing = information.elementSpacing.getD (List.replicate n 1)
  origin : List.ofFn image.origin = information.offset.getD (List.replicate n 0)
  interior : image.interiorExtents =
    interiorExtentsOf image.dims image.spacing image.origin
  exterior : image.exteriorExtents =
    exteriorExtentsOf image.dims image.spacing image.origin
  size : image.size = ArrayBase.longProduct image.dims
  pixels : ∀ p, p < image.size →
    image.content p = filePixel host information.bigEndian file p

/-- Header and data determine what can be seen of the image. -/
theorem ShowsFile.view_eq [Field Space] {host : EEndian}
    {information : MetaImageInformation Space} {file : List UInt8}
    {first second : Image n (ValueBytes size) Space}
    (one : ShowsFile host information file first)
    (other : ShowsFile host information file second) : first.view = second.view := by
  have dims : first.dims = second.dims := List.ofFn_injective (one.dims.trans other.dims.symm)
  have spacing : first.spacing = second.spacing :=
    List.ofFn_injective (one.spacing.trans other.spacing.symm)
  have origin : first.origin = second.origin :=
    List.ofFn_injective (one.origin.trans other.origin.symm)
  have count : first.size = second.size := by rw [one.size, other.size, dims]
  have pixels : (List.range first.size).map first.content =
      (List.range second.size).map second.content := by
    rw [count]
    refine List.map_congr_left fun p member => ?_
    rw [List.mem_range] at member
    rw [one.pixels p (count ▸ member), other.pixels p member]
  unfold Image.view
  rw [one.interior, one.exterior, other.interior, other.exterior, dims, spacing, origin, pixels]

/-- The content after `read` and `EndianConversion`. The middle one of an odd number of bytes
is what a union contained. -/
theorem convertFrom_readElementBytes {host : EEndian} {bigEndian : Option Bool}
    {out : ℕ → ValueBytes size} {file : List UInt8} {count p : ℕ} (inside : p < count)
    (content : ℕ → ValueBytes size) (b : Fin size) :
    convertFrom host bigEndian out count (readElementBytes file count content) p b =
      if foreign host bigEndian = true ∧ 2 * b.val + 1 = size then out p b
      else filePixel host bigEndian file p b := by
  have read : readElementBytes file count content p =
      fun b => file.getD (p * size + b.val) 0 := if_pos inside
  unfold filePixel
  rcases native : foreign host bigEndian with _ | _
  · have kept : convertFrom host bigEndian out count (readElementBytes file count content) =
        readElementBytes file count content := by
      cases bigEndian with
      | none => rfl
      | some flag =>
        have same : fileOrder flag = host := by simpa [foreign] using native
        rw [convertFrom, same, endianConversion_self]
    rw [kept, read]
    simp
  · cases bigEndian with
    | none => cases native
    | some flag =>
      have different : fileOrder flag ≠ host := by simpa [foreign] using native
      rw [convertFrom, endianConversion_apply different, if_pos inside, swapBytes_apply, read]
      simp

/-- With an even number of bytes, the elements are those of the file. -/
theorem convertFrom_of_sound {host : EEndian} {bigEndian : Option Bool}
    {out : ℕ → ValueBytes size} {file : List UInt8} {count p : ℕ} (inside : p < count)
    (sound : foreign host bigEndian = true → Even size) (content : ℕ → ValueBytes size) :
    convertFrom host bigEndian out count (readElementBytes file count content) p =
      filePixel host bigEndian file p := by
  funext b
  rw [convertFrom_readElementBytes inside, if_neg]
  rintro ⟨other, middle⟩
  obtain ⟨half, double⟩ := sound other
  omega

/-- With an odd number of bytes, what the unions contain may not fit. -/
theorem even_of_converted {host : EEndian} {bigEndian : Option Bool} {file : List UInt8}
    {count : ℕ} {content : ℕ → ValueBytes size} (some_elements : 0 < count)
    (different : foreign host bigEndian = true)
    (converted : convertFrom host bigEndian (fun p b => filePixel host bigEndian file p b + 1)
      count (readElementBytes file count content) 0 = filePixel host bigEndian file 0) :
    Even size := by
  by_contra odd
  obtain ⟨half, middle⟩ := Nat.not_even_iff_odd.mp odd
  have byte := congrFun converted ⟨half, by omega⟩
  rw [convertFrom_readElementBytes some_elements, if_pos ⟨different, by dsimp only; omega⟩]
    at byte
  exact byte_add_one_ne _ byte

end Views

/-! ## The two ways through `GetData` -/

section Runs

variable {n : ℕ} {Space : Type} [Field Space] {dataType : DataType}
  {information : MetaImageInformation Space} {file : List UInt8}
  {surroundings : Surroundings n dataType.bytes Space}
  {image : Image n (ValueBytes dataType.bytes) Space}

theorem tupleOfVector_eq_ok {Value : Type} {values : List Value} (same : values.length = n) :
    ∃ tuple, tupleOfVector n values = .ok tuple ∧ List.ofFn tuple = values := by
  subst same
  exact ⟨values.get, dif_pos rfl, List.ofFn_get values⟩

theorem tupleOr_eq_ok {Value : Type} {values : Option (List Value)}
    (same : ∀ found, values = some found → found.length = n) (other : Fin n → Value) :
    ∃ tuple, tupleOr values other = .ok tuple ∧
      List.ofFn tuple = values.getD (List.ofFn other) := by
  cases values with
  | none => exact ⟨other, rfl, rfl⟩
  | some found => exact tupleOfVector_eq_ok (same found rfl)

/-- The header is for images with `n` axes and elements of the type, and its raw file has
enough bytes for an image. -/
structure ReadableInto (type : DataType) (information : MetaImageInformation Space)
    (file : List UInt8) (image : Image n (ValueBytes type.bytes) Space) : Prop where
  nDims : information.nDims = n
  dataType : information.dataType = type
  named : information.rawFileName ≠ []
  dims : List.ofFn image.dims = information.dimSize
  enough : image.size * type.bytes ≤ file.length

/-- The image with the content that is read. -/
def loadedImage (surroundings : Surroundings n dataType.bytes Space)
    (information : MetaImageInformation Space) (file : List UInt8)
    (image : Image n (ValueBytes dataType.bytes) Space) :
    Image n (ValueBytes dataType.bytes) Space :=
  image.withContent (convertFrom surroundings.host information.bigEndian surroundings.out
    image.size (readElementBytes file image.size image.content))

omit [Field Space] in
theorem readImage_eq_ok (named : information.rawFileName ≠ [])
    (found : surroundings.files information.rawFileName = some file)
    (enough : image.size * dataType.bytes ≤ file.length) :
    readImage surroundings information image =
      .ok (loadedImage surroundings information file image) := by
  unfold readImage
  rw [if_neg named, found]
  exact if_pos enough

/-- For a header that is accepted, `GetData` goes on with the tuples of the header. -/
theorem getData_of_shaped {entries : Meta} (shaped : information.Shaped entries)
    (nDims : information.nDims = n) (same : information.dataType = dataType)
    (surroundings : Surroundings n dataType.bytes Space)
    (image : Image n (ValueBytes dataType.bytes) Space) :
    ∃ dims pixelSize origin, List.ofFn dims = information.dimSize ∧
      List.ofFn pixelSize = information.elementSpacing.getD (List.replicate n 1) ∧
      List.ofFn origin = information.offset.getD (List.ofFn surroundings.origin) ∧
      getData dataType surroundings information image =
        (preparedImage surroundings.allocation dims pixelSize origin image).bind
          (readImage surroundings information) := by
  have axes : ∀ {count : ℕ}, (count : ℤ) = information.nDims → count = n := by
    intro count count_eq
    rw [nDims] at count_eq
    exact Int.ofNat_inj.mp count_eq
  obtain ⟨dims, madeDims, dims_eq⟩ := tupleOfVector_eq_ok (axes shaped.dimSize)
  obtain ⟨pixelSize, madePixelSize, pixelSize_eq⟩ := tupleOr_eq_ok
    (fun found given => axes (shaped.elementSpacing found given)) (1 : Fin n → Space)
  obtain ⟨origin, madeOrigin, origin_eq⟩ := tupleOr_eq_ok
    (fun found given => axes (shaped.offset found given)) surroundings.origin
  have ones : List.ofFn (1 : Fin n → Space) = List.replicate n 1 := List.ofFn_const n 1
  refine ⟨dims, pixelSize, origin, dims_eq, ones ▸ pixelSize_eq, origin_eq, ?_⟩
  unfold getData verboseAssert
  rw [if_pos nDims, if_pos same, madeDims, madePixelSize, madeOrigin]
  rfl

/-- An image that was constructed, with some spacing, origin and content. -/
structure Constructed {size : ℕ} (image : Image n (ValueBytes size) Space) : Prop where
  isConstructed : image.isConstructed = true
  size : image.size = ArrayBase.longProduct image.dims
  interior : image.interiorExtents =
    interiorExtentsOf image.dims image.spacing image.origin
  exterior : image.exteriorExtents =
    exteriorExtentsOf image.dims image.spacing image.origin

theorem constructed_attach {size : ℕ} (image : Image n (ValueBytes size) Space)
    (buffer base : ℕ) (content : ℕ → ValueBytes size) (dims : Fin n → ℤ)
    (spacing origin : Fin n → Space) :
    Constructed (image.attach buffer base content dims spacing origin) :=
  ⟨rfl, rfl, rfl, rfl⟩

/-- The byte order of the host, the raw file with its content, and memory for an image. -/
structure Surroundings.Provide {size : ℕ} (surroundings : Surroundings n size Space)
    (host : EEndian) (information : MetaImageInformation Space) (file : List UInt8) : Prop where
  host : surroundings.host = host
  file : surroundings.files information.rawFileName = some file
  allocation : surroundings.allocation.isSome = true

section Provided

variable {host : EEndian} {entries : Meta}

/-- An image that was constructed keeps its geometry. -/
theorem getData_of_constructed (shaped : information.Shaped entries)
    (readable : ReadableInto dataType information file image)
    (constructed : image.isConstructed = true)
    (provided : surroundings.Provide host information file) :
    getData dataType surroundings information image =
      .ok (loadedImage surroundings information file image) := by
  obtain ⟨dims, pixelSize, origin, dims_eq, -, -, run⟩ :=
    getData_of_shaped shaped readable.nDims readable.dataType surroundings image
  have same : image.dims = dims := List.ofFn_injective (readable.dims.trans dims_eq.symm)
  rw [run, preparedImage, if_pos constructed, if_pos same]
  exact readImage_eq_ok readable.named provided.file readable.enough

/-- An image that was not is constructed with the geometry of the header. Without an offset,
its origin is what the variable contained. -/
theorem getData_of_notConstructed (shaped : information.Shaped entries)
    {second : Image n (ValueBytes dataType.bytes) Space}
    (readable : ReadableInto dataType information file second) (built : Constructed second)
    (notConstructed : image.isConstructed = false)
    (provided : surroundings.Provide host information file) :
    ∃ made, Constructed made ∧ List.ofFn made.dims = information.dimSize ∧
      List.ofFn made.spacing = information.elementSpacing.getD (List.replicate n 1) ∧
      List.ofFn made.origin = information.offset.getD (List.ofFn surroundings.origin) ∧
      getData dataType surroundings information image =
        .ok (loadedImage surroundings information file made) := by
  obtain ⟨dims, pixelSize, origin, dims_eq, pixelSize_eq, origin_eq, run⟩ :=
    getData_of_shaped shaped readable.nDims readable.dataType surroundings image
  obtain ⟨address, allocated⟩ := Option.isSome_iff_exists.mp provided.allocation
  have same : second.dims = dims := List.ofFn_injective (readable.dims.trans dims_eq.symm)
  refine ⟨image.attach address address 0 dims pixelSize origin, constructed_attach _ _ _ _ _ _ _,
    dims_eq, pixelSize_eq, origin_eq, ?_⟩
  rw [run, preparedImage, if_neg (by simp [notConstructed]), allocated,
    construct_some notConstructed]
  refine readImage_eq_ok readable.named provided.file ?_
  have enough := readable.enough
  rw [built.size, same] at enough
  exact enough

/-- With the geometry of the header, the image shows the file. -/
theorem showsFile_loadedImage (built : Constructed image)
    (dims : List.ofFn image.dims = information.dimSize)
    (spacing : List.ofFn image.spacing = information.elementSpacing.getD (List.replicate n 1))
    (origin : List.ofFn image.origin = information.offset.getD (List.replicate n 0))
    (bytes : foreign surroundings.host information.bigEndian = true →
      Even dataType.bytes ∨ image.size = 0) :
    ShowsFile surroundings.host information file
      (loadedImage surroundings information file image) where
  dims := dims
  spacing := spacing
  origin := origin
  interior := built.interior
  exterior := built.exterior
  size := built.size
  pixels := fun p inside => by
    refine convertFrom_of_sound inside (fun other => (bytes other).resolve_right ?_) _
    exact (Nat.zero_le p |>.trans_lt inside).ne'

end Provided

/-! ## Both ways together -/

/-- `GetData` makes the same of an image that is not constructed and of one that is, and both
show the file, whatever each of the two calls finds in its variables. -/
def ReadsTheSame (dataType : DataType) (host : EEndian)
    (information : MetaImageInformation Space) (file : List UInt8)
    (first second : Image n (ValueBytes dataType.bytes) Space) : Prop :=
  ∀ here there : Surroundings n dataType.bytes Space,
    here.Provide host information file → there.Provide host information file →
    ∃ one other, getData dataType here information first = .ok one ∧
      getData dataType there information second = .ok other ∧ one.view = other.view ∧
      ShowsFile host information file one ∧ ShowsFile host information file other

/-- The constructed image has the geometry of the header already, the header has an offset, and
elements of one byte are not converted. -/
structure HeaderDecides (host : EEndian) (information : MetaImageInformation Space)
    {size : ℕ} (second : Image n (ValueBytes size) Space) : Prop where
  spacing : List.ofFn second.spacing = information.elementSpacing.getD (List.replicate n 1)
  origin : List.ofFn second.origin = information.offset.getD (List.replicate n 0)
  offset : information.offset.isSome = true ∨ n = 0
  bytes : foreign host information.bigEndian = true → Even size ∨ second.size = 0

variable {host : EEndian} {entries : Meta}
  {first second : Image n (ValueBytes dataType.bytes) Space}

theorem HeaderDecides.readsTheSame (decides : HeaderDecides host information second)
    (shaped : information.Shaped entries)
    (readable : ReadableInto dataType information file second) (built : Constructed second)
    (notConstructed : first.isConstructed = false) :
    ReadsTheSame dataType host information file first second := by
  intro here there provided again
  obtain ⟨made, madeBuilt, dims, spacing, origin, run⟩ :=
    getData_of_notConstructed shaped readable built notConstructed provided
  have same : made.dims = second.dims := List.ofFn_injective (dims.trans readable.dims.symm)
  have known : List.ofFn made.origin = information.offset.getD (List.replicate n 0) := by
    rcases decides.offset with given | rfl
    · obtain ⟨offset, given⟩ := Option.isSome_iff_exists.mp given
      rw [origin, given]
      rfl
    · rw [origin, List.ofFn_zero]
      rfl
  have one : ShowsFile here.host information file
      (loadedImage here information file made) := by
    refine showsFile_loadedImage madeBuilt dims spacing known ?_
    rw [madeBuilt.size, same, ← built.size, provided.host]
    exact decides.bytes
  have other : ShowsFile there.host information file
      (loadedImage there information file second) := by
    refine showsFile_loadedImage built readable.dims decides.spacing decides.origin ?_
    rw [again.host]
    exact decides.bytes
  rw [provided.host] at one
  rw [again.host] at other
  exact ⟨_, _, run, getData_of_constructed shaped readable built.isConstructed again,
    one.view_eq other, one, other⟩

/-- The surroundings in which the variables contain what does not fit the file. -/
def spoiled (host : EEndian) (bigEndian : Option Bool) (file : List UInt8) (size : ℕ) :
    Surroundings n size Space where
  host := host
  files := fun _ => some file
  allocation := some 1
  origin := 1
  out := fun p b => filePixel host bigEndian file p b + 1

theorem ReadsTheSame.headerDecides
    (same : ReadsTheSame dataType host information file first second)
    (shaped : information.Shaped entries)
    (readable : ReadableInto dataType information file second) (built : Constructed second)
    (notConstructed : first.isConstructed = false) :
    HeaderDecides host information second := by
  have provided : (spoiled host information.bigEndian file dataType.bytes :
      Surroundings n dataType.bytes Space).Provide host information file := ⟨rfl, rfl, rfl⟩
  obtain ⟨one, other, made, read, -, shows, showsOther⟩ := same _ _ provided provided
  obtain ⟨image, -, -, -, origin, run⟩ :=
    getData_of_notConstructed shaped readable built notConstructed provided
  rw [getData_of_constructed shaped readable built.isConstructed provided] at read
  rw [run] at made
  cases read
  cases made
  refine ⟨showsOther.spacing, showsOther.origin, ?_, fun different => ?_⟩
  · by_contra missing
    obtain ⟨absent, axis⟩ := not_or.mp missing
    have none : information.offset = none := by simpa using absent
    have shown := shows.origin
    have ones : List.ofFn (1 : Fin n → Space) = List.replicate n 1 := List.ofFn_const n 1
    rw [none] at origin shown
    have contents : List.replicate n (1 : Space) = List.replicate n 0 :=
      ones.symm.trans (origin.symm.trans shown)
    rcases (List.replicate_right_inj'.mp contents) with zero | equal
    · exact axis zero
    · exact one_ne_zero equal
  · by_contra unsound
    obtain ⟨odd, nonempty⟩ := not_or.mp unsound
    have some_elements := Nat.pos_of_ne_zero nonempty
    exact odd (even_of_converted some_elements different (showsOther.pixels 0 some_elements))

/-- **For an accepted header, `GetData` makes the same of both images exactly when the
constructed one has the geometry of the header already**, the header has an offset, and no
elements of one byte are converted. -/
theorem readsTheSame_iff {bits fuel : ℕ} {readSpace : Text → Option Space} {text : Text}
    (accepted : getInformation bits readSpace fuel text = some (.ok information))
    (readable : ReadableInto dataType information file second) (built : Constructed second)
    (notConstructed : first.isConstructed = false) (host : EEndian) :
    ReadsTheSame dataType host information file first second ↔
      HeaderDecides host information second := by
  obtain ⟨entries, -, shaped⟩ := exists_shaped_of_getInformation accepted
  constructor
  · intro same
    exact same.headerDecides shaped readable built notConstructed
  · intro decides
    exact decides.readsTheSame shaped readable built notConstructed

end Runs

/-! ## Two pixels -/

/-- A header of an image with two pixels. -/
def lineHeader : Text :=
  "NDims = 1\nElementByteOrderMSB = False\nOffset = 0\nElementSpacing = 1\n".toList ++
    "DimSize = 2\nElementType = MET_UCHAR\nElementDataFile = a.raw\n".toList

/-- What `GetInformation` takes from the header. -/
def lineInformation : MetaImageInformation ℚ where
  nDims := 1
  bigEndian := some false
  offset := some [0]
  elementSpacing := some [1]
  dimSize := [2]
  dataType := .uint8
  rawFileName := "a.raw".toList

/-- An image with two pixels and some spacing. -/
def lineImage (spacing : ℚ) : Image 1 (ValueBytes DataType.uint8.bytes) ℚ :=
  Image.empty.attach 1 1 0 ![2] ![spacing] ![0]

def readInteger (text : Text) : Option ℚ := (lexicalCast 64 text).map fun number => number

theorem getInformation_lineHeader :
    getInformation 64 readInteger 8 lineHeader = some (.ok lineInformation) := by
  decide +kernel

theorem readableInto_lineImage (spacing : ℚ) :
    ReadableInto .uint8 lineInformation [3, 4] (lineImage spacing) :=
  ⟨rfl, rfl, by decide, rfl, le_rfl⟩

theorem readsTheSame_iff_line :
    ReadsTheSame .uint8 .littleEndianOrder lineInformation [3, 4] Image.empty (lineImage 1) := by
  refine (readsTheSame_iff getInformation_lineHeader (readableInto_lineImage 1)
    (constructed_attach _ _ _ _ _ _ _) rfl .littleEndianOrder).mpr ?_
  exact ⟨rfl, rfl, .inl rfl, fun different => absurd different (by decide)⟩

/-- An image that was constructed with another spacing keeps it. -/
theorem not_readsTheSame_spacing :
    getInformation 64 readInteger 8 lineHeader = some (.ok lineInformation) ∧
      ReadableInto .uint8 lineInformation [3, 4] (lineImage 2) ∧
      ¬ ReadsTheSame .uint8 .littleEndianOrder lineInformation [3, 4] Image.empty
        (lineImage 2) := by
  refine ⟨getInformation_lineHeader, readableInto_lineImage 2, fun same => ?_⟩
  obtain ⟨entries, -, shaped⟩ := exists_shaped_of_getInformation getInformation_lineHeader
  have spacing := (same.headerDecides shaped (readableInto_lineImage 2)
    (constructed_attach _ _ _ _ _ _ _) rfl).spacing
  exact absurd spacing (by decide)

end AthabascaRecon
