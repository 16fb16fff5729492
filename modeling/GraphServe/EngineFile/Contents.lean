import GraphServe.EngineFile.Header
import GraphServe.EngineFile.Table

/-!
# Engine files

A file is a header, a tensor table, the length of an opaque payload, zero bytes up to the next
multiple of the alignment, and the payload. `Contents.toBytes` writes this form. `openBytes` reads
any byte string: it checks every field and that the payload lies inside the data, and reports data
that end too early as a graph that cannot be loaded.
-/

namespace GraphServe.EngineFile

/-- The payload begins at a multiple of this number. -/
def payloadAlignment : Nat := 32

/-- The next multiple of the alignment. -/
def alignUp (position : Nat) : Nat :=
  (position + (payloadAlignment - 1)) / payloadAlignment * payloadAlignment

/-- What an engine file says: the kernel, the tensors in file order and the payload. -/
structure Contents where
  kernel : String
  tensors : List Descriptor
  payload : Bytes
deriving DecidableEq

/-- The bytes up to and including the payload's length. -/
def Contents.tableBytes (c : Contents) : Bytes :=
  Header.toBytes ⟨version, UInt32.ofNat c.tensors.length, c.kernel⟩ ++
    c.tensors.flatMap entryBytes ++ littleEndian 8 c.payload.length

/-- The bytes of a file. -/
def Contents.toBytes (c : Contents) : Bytes :=
  let table := c.tableBytes
  table ++ List.replicate (alignUp table.length - table.length) 0 ++ c.payload

/-- A file that was read: its header, its tensors in file order, its payload with the place where
it begins, and the length of the data. -/
structure Opened where
  header : Header
  tensors : List Descriptor
  payloadOffset : Nat
  payload : Bytes
  length : Nat
deriving DecidableEq

/-- What the file says. -/
def Opened.contents (o : Opened) : Contents := ⟨o.header.kernel, o.tensors, o.payload⟩

/-- Takes the header, the table and the length of the payload. -/
def readLayout : Reader (Header × List Descriptor × Nat) := do
  let header ← readHeader
  let tensors ← readTable header.tensorCount.toNat
  return (header, tensors, ← readNat 8)

/-- Data that end inside a field are a truncated file. -/
def ofTruncation : EngineError → EngineError
  | .io .endOfData => .graphLoad s!"truncated engine file: {ReadFault.endOfData.message}"
  | e => e

/-- Reads a file from its bytes. -/
def openBytes (bytes : Bytes) : Except EngineError Opened :=
  if bytes.length < 4 then
    .error (.graphLoad s!"truncated engine file: {bytes.length} bytes")
  else
    match readLayout (Cursor.start bytes) with
    | (.error e, _) => .error (ofTruncation e)
    | (.ok (header, tensors, length), cursor) =>
      -- the padding is passed over unread, and bytes behind the payload do not count
      let offset := alignUp cursor.position
      if offset + length ≤ bytes.length then
        .ok ⟨header, tensors, offset, (bytes.drop offset).take length, bytes.length⟩
      else
        .error (.graphLoad
          s!"payload of {length} bytes at offset {offset} extends past end of file ({bytes.length} bytes)")

end GraphServe.EngineFile
