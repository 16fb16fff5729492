import GraphServe.Tensor.Error

/-!
# Element types

`DataType` is what an engine file may declare for a tensor; `ElementType` is the subset that
buffers are allocated for and values are exchanged in. A declared type has an identifier in engine
files, and reading an identifier inverts writing it (`DataType.ofId_id`).
-/

namespace GraphServe

/-- The types an engine file may declare. -/
inductive DataType where
  | f32
  | f16
  | i8
  | i32
  | bool
  | u8
  | i64
deriving DecidableEq, Repr

/-- The types that can be served. -/
inductive ElementType where
  | f32
  | f16
  | i32
  | i64
deriving DecidableEq, Repr

/-! ## Served types -/

namespace ElementType

/-- Bytes of one element. -/
def size : ElementType → Nat
  | .f32 => 4
  | .f16 => 2
  | .i32 => 4
  | .i64 => 8

/-- The declared type that is served as this element type. -/
def dataType : ElementType → DataType
  | .f32 => .f32
  | .f16 => .f16
  | .i32 => .i32
  | .i64 => .i64

theorem size_pos (e : ElementType) : 0 < e.size := by cases e <;> decide

end ElementType

/-! ## Declared types -/

namespace DataType

/-- The name of a declared type. -/
def name : DataType → String
  | .f32 => "f32"
  | .f16 => "f16"
  | .i8 => "i8"
  | .i32 => "i32"
  | .bool => "bool"
  | .u8 => "u8"
  | .i64 => "i64"

/-- Bytes of one element. -/
def size : DataType → Nat
  | .f32 => 4
  | .f16 => 2
  | .i8 => 1
  | .i32 => 4
  | .bool => 1
  | .u8 => 1
  | .i64 => 8

/-- The identifier of a declared type in engine files. -/
def id : DataType → Nat
  | .f32 => 0
  | .f16 => 1
  | .i8 => 2
  | .i32 => 3
  | .bool => 4
  | .u8 => 5
  | .i64 => 6

/-- The declared type with an identifier. -/
def ofId? : Nat → Option DataType
  | 0 => some .f32
  | 1 => some .f16
  | 2 => some .i8
  | 3 => some .i32
  | 4 => some .bool
  | 5 => some .u8
  | 6 => some .i64
  | _ => none

@[simp] theorem ofId_id (t : DataType) : ofId? t.id = some t := by cases t <;> rfl

/-- An identifier that is read is the one that would be written. -/
theorem id_eq_of_ofId {n : Nat} {t : DataType} (h : ofId? n = some t) : t.id = n := by
  unfold ofId? at h
  split at h <;> cases h <;> rfl

/-- The element type that serves a declared type. -/
def elementType? : DataType → Option ElementType
  | .f32 => some .f32
  | .f16 => some .f16
  | .i32 => some .i32
  | .i64 => some .i64
  | .i8 => none
  | .bool => none
  | .u8 => none

/-- The element type that serves a declared type, or why there is none. -/
def elementType (t : DataType) : Except TensorError ElementType :=
  match t.elementType? with
  | some e => .ok e
  | none => .error (.unsupportedDType s!"{t.name} tensors cannot be marshalled")

/-- Whether buffers of this type can be allocated and their values exchanged. -/
def isSupported (t : DataType) : Bool := t.elementType?.isSome

@[simp] theorem elementType?_dataType (e : ElementType) :
    e.dataType.elementType? = some e := by cases e <;> rfl

/-- A served type keeps its size. -/
theorem size_of_elementType? {t : DataType} {e : ElementType} (h : t.elementType? = some e) :
    e.size = t.size := by
  cases t <;> cases h <;> rfl

end DataType

/-- The name of an element type is that of the declared type it serves. -/
def ElementType.name (e : ElementType) : String := e.dataType.name

end GraphServe
