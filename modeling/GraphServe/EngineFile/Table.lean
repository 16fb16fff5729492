import GraphServe.EngineFile.Field
import GraphServe.Tensor.Descriptor

/-!
# Tensor table

The table has one entry per tensor: its name, whether it is an input or an output, the identifier
of its type, its rank and its axes. A fixed axis is its positive size; a named axis is the size
`-1` followed by its symbol.
-/

namespace GraphServe.EngineFile

/-- The largest rank a file may declare. -/
def maxRank : Nat := 8

/-- The size that marks a named axis. -/
def dynamicMark : Int64 := -1

/-- The byte for a direction. -/
def directionByte : Direction → UInt8
  | .input => 0
  | .output => 1

/-- Takes the direction of the named tensor. -/
def readDirection (name : String) : Reader Direction := do
  match ← readNat 1 with
  | 0 => return .input
  | 1 => return .output
  | mode => throw (.graphLoad s!"tensor '{name}' has invalid I/O mode {mode}")

/-- Takes the type of the named tensor. -/
def readDataType (name : String) : Reader DataType := do
  let id ← readNat 4
  match DataType.ofId? id with
  | some dtype => return dtype
  | none => throw (.graphLoad s!"tensor '{name}' has unknown type ID {id}")

/-- Takes one axis of the named tensor. -/
def readAxis (name : String) (axis : Nat) : Reader Axis := do
  let size ← readSigned
  if size = dynamicMark then
    let symbol ← readText
    if symbol.isEmpty then
      throw (.graphLoad s!"tensor '{name}' axis {axis} is dynamic but unnamed")
    return .dynamic symbol
  else if 0 < size then return .fixed size.toUInt64
  else throw (.graphLoad s!"tensor '{name}' axis {axis} has invalid size {size}")

/-- Takes `count` axes of the named tensor, the first of which has the given number. -/
def readAxes (name : String) (axis : Nat) : (count : Nat) → Reader (List Axis)
  | 0 => return []
  | count + 1 => do
    let first ← readAxis name axis
    return first :: (← readAxes name (axis + 1) count)

/-- Takes one entry. -/
def readEntry : Reader Descriptor := do
  let name ← readText
  if name.isEmpty then throw (.graphLoad "tensor with empty name")
  let direction ← readDirection name
  let dtype ← readDataType name
  let rank ← readNat 4
  if maxRank < rank then
    throw (.graphLoad s!"tensor '{name}' has rank {rank} (max {maxRank})")
  let axes ← readAxes name 0 rank
  match DeclaredShape.ofAxes axes with
  | .ok shape => return { name, direction, dtype, shape }
  | .error fault => throw (.graphLoad s!"tensor '{name}': {fault.message}")

/-- Takes a table of `count` entries. -/
def readTable : (count : Nat) → Reader (List Descriptor)
  | 0 => return []
  | count + 1 => do
    let first ← readEntry
    return first :: (← readTable count)

/-- The bytes of an axis. -/
def axisBytes : Axis → Bytes
  | .fixed size => writeSigned size.toInt64
  | .dynamic symbol => writeSigned dynamicMark ++ writeText symbol

/-- The bytes of an entry. -/
def entryBytes (d : Descriptor) : Bytes :=
  writeText d.name ++ [directionByte d.direction] ++ littleEndian 4 d.dtype.id ++
    littleEndian 4 d.shape.rank ++ d.shape.axes.flatMap axisBytes

end GraphServe.EngineFile
