import GraphServe.Bytes
import GraphServe.Numeric.Binary
import GraphServe.Tensor.DataType

/-!
# Element values

Device bytes are read as little-endian elements (`Element.decode`) and values are written back the
same way. Floating-point values are kept as bit patterns, so that no payload is lost; half
precision is widened when it is read and has no form of its own.
-/

namespace GraphServe

open Numeric (Format)

/-- One output value: a 32-bit floating-point pattern, or a signed integer. -/
inductive Element where
  | f32 (bits : UInt32)
  | i32 (value : Int32)
  | i64 (value : Int64)
deriving DecidableEq, Repr

namespace Element

/-- The floating-point pattern, if the value is one. -/
def f32? : Element → Option UInt32
  | .f32 bits => some bits
  | _ => none

/-- The 32-bit integer, if the value is one. -/
def i32? : Element → Option Int32
  | .i32 value => some value
  | _ => none

/-- The 64-bit integer, if the value is one. -/
def i64? : Element → Option Int64
  | .i64 value => some value
  | _ => none

/-- The nearest 64-bit floating-point pattern, for comparisons. -/
def toBinary64 : Element → UInt64
  | .f32 bits => UInt64.ofNat (Format.binary32.convert .binary64 bits.toNat)
  | .i32 value => UInt64.ofNat (Format.binary64.ofInt value.toInt)
  | .i64 value => UInt64.ofNat (Format.binary64.ofInt value.toInt)

/-- The value of one element's bytes. -/
def ofBytes (type : ElementType) (bytes : Bytes) : Element :=
  let n := ofLittleEndian bytes
  match type with
  | .f32 => .f32 (UInt32.ofNat n)
  | .f16 => .f32 (UInt32.ofNat (Format.binary16.convert .binary32 n))
  | .i32 => .i32 (UInt32.ofNat n).toInt32
  | .i64 => .i64 (UInt64.ofNat n).toInt64

/-- The values of a byte string that holds whole elements. -/
def decode (type : ElementType) (bytes : Bytes) : Except TensorError (List Element) :=
  if bytes.length % type.size = 0 then
    .ok ((groupsOf type.size (bytes.length / type.size) bytes).map (ofBytes type))
  else .error (.byteLength bytes.length type.size type.name)

end Element

/-- The bytes of 32-bit floating-point patterns. -/
def encodeF32 (values : List UInt32) : Bytes :=
  values.flatMap fun v => littleEndian 4 v.toNat

/-- The bytes of 32-bit floating-point patterns in half precision, rounded to nearest. -/
def encodeF16 (values : List UInt32) : Bytes :=
  values.flatMap fun v => littleEndian 2 (Format.binary32.convert .binary16 v.toNat)

/-- The bytes of 32-bit integers. -/
def encodeI32 (values : List Int32) : Bytes :=
  values.flatMap fun v => littleEndian 4 v.toUInt32.toNat

/-- The bytes of 64-bit integers. -/
def encodeI64 (values : List Int64) : Bytes :=
  values.flatMap fun v => littleEndian 8 v.toUInt64.toNat

/-- The 32-bit floating-point patterns of a byte string; a last partial element is left out. -/
def f32Values (bytes : Bytes) : List UInt32 :=
  (groupsOf 4 (bytes.length / 4) bytes).map fun group => UInt32.ofNat (ofLittleEndian group)

end GraphServe
