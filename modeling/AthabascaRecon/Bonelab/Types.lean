import AthabascaRecon.Foundation.InputStream

/-!
# Data types

The types that projections and volumes are stored as, and how they are read from a
configuration.
-/

set_option autoImplicit false

namespace AthabascaRecon

/-- `bonelab::DataType_t`. -/
inductive DataType where
  | int8
  | uint8
  | int16
  | uint16
  | int32
  | uint32
  | int64
  | uint64
  | float32
  | float64
  deriving DecidableEq, Repr

/-- `DataTypeFromString`. -/
def dataTypeFromString (token : Text) : Option DataType :=
  [("INT8", DataType.int8), ("UINT8", .uint8), ("INT16", .int16), ("UINT16", .uint16),
    ("INT32", .int32), ("UINT32", .uint32), ("INT64", .int64), ("UINT64", .uint64),
    ("FLOAT32", .float32), ("FLOAT64", .float64)].findSome? fun entry =>
      if entry.1.toList = token then some entry.2 else none

/-- `operator>>` for `DataType_t`. -/
def readDataType {Failure : Type} : Reader Failure DataType := fun stream =>
  match stream.extract InputStream.convertWord with
  | (none, stream) => .ok (none, stream)
  | (some token, stream) =>
    match dataTypeFromString token with
    | none => .ok (none, stream.setFail)
    | some dataType => .ok (some dataType, stream)

end AthabascaRecon
