import AthabascaRecon.Foundation.Strings
import AthabascaRecon.Bonelab.Types

/-!
# Writing MetaImage headers

`FormatMetaInfo` writes a header of ten lines. Each line is a tag and a value, with an equals
sign between them. The axes of a tuple are written in the opposite order.
-/

set_option autoImplicit false

namespace AthabascaRecon

/-- The members of a `MetaImageWriterBase` with `N` dimensions that are written. -/
structure MetaImageHeader (Space : Type) (N : ℕ) where
  offset : Vector Space N
  elementSpacing : Vector Space N
  dimSize : Vector ℤ N
  elementType : DataType
  rawFileName : Text

/-- `MetaImageDataTypeLabel`. -/
def metaImageDataTypeLabel : DataType → String
  | .int8 => "MET_CHAR"
  | .uint8 => "MET_UCHAR"
  | .int16 => "MET_SHORT"
  | .uint16 => "MET_USHORT"
  | .int32 => "MET_INT"
  | .uint32 => "MET_UINT"
  | .int64 => "MET_LONG"
  | .uint64 => "MET_ULONG"
  | .float32 => "MET_FLOAT"
  | .float64 => "MET_DOUBLE"

/-- A line of a header. The value begins with its blank. -/
def metaLine (tag : String) (value : Text) : Text :=
  tag.toList ++ ' ' :: '=' :: value

/-- The loop over the axes, from the last one to the first. -/
def formatAxes {Value : Type} (write : Value → Text) {N : ℕ} (axes : Vector Value N) : Text :=
  axes.toList.reverse.flatMap fun value => ' ' :: write value

def trueOrFalse (flag : Bool) : String := if flag then "True" else "False"

variable {Space : Type} {N : ℕ}

/-- The lines that `FormatMetaInfo` writes on a host with one of the byte orders. -/
def metaLines (bigEndian : Bool) (writeSpace : Space → Text) (header : MetaImageHeader Space N) :
    List Text :=
  [metaLine "ObjectType" (' ' :: "Image".toList),
    metaLine "NDims" (' ' :: showInteger N),
    metaLine "BinaryData" (' ' :: "True".toList),
    metaLine "BinaryDataByteOrderMSB" (' ' :: (trueOrFalse bigEndian).toList),
    metaLine "CompressedData" (' ' :: "False".toList),
    metaLine "Offset" (formatAxes writeSpace header.offset),
    metaLine "ElementSpacing" (formatAxes writeSpace header.elementSpacing),
    metaLine "DimSize" (formatAxes showInteger header.dimSize),
    metaLine "ElementType" (' ' :: (metaImageDataTypeLabel header.elementType).toList),
    metaLine "ElementDataFile" (' ' :: header.rawFileName)]

/-- `FormatMetaInfo`. -/
def formatMetaInfo (bigEndian : Bool) (writeSpace : Space → Text)
    (header : MetaImageHeader Space N) : Text :=
  (metaLines bigEndian writeSpace header).flatMap fun line => line ++ ['\n']

end AthabascaRecon
