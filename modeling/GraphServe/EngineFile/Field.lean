import GraphServe.Error
import GraphServe.Text.Utf8

/-!
# Fields of an engine file

An engine file is a sequence of little-endian numbers and length-prefixed texts. A reader takes
fields off a cursor; taking more than is left fails and leaves the cursor at the end of the data.
-/

namespace GraphServe.EngineFile

/-- A place in stored data: what is left to read, and how much was read. -/
structure Cursor where
  rest : Bytes
  position : Nat
deriving DecidableEq, Repr

/-- The start of a byte string. -/
def Cursor.start (bytes : Bytes) : Cursor := ⟨bytes, 0⟩

/-- A computation that takes fields off a cursor. The cursor survives a failure. -/
abbrev Reader (α : Type) : Type := ExceptT EngineError (StateM Cursor) α

/-- Texts in a file are at most this many bytes long. -/
def maxTextLength : Nat := 65536

/-! ## Taking fields -/

/-- Splits off exactly `count` bytes. -/
def splitExactly : (count : Nat) → Bytes → Option (Bytes × Bytes)
  | 0, bytes => some ([], bytes)
  | _ + 1, [] => none
  | count + 1, b :: rest =>
    match splitExactly count rest with
    | some (taken, rest) => some (b :: taken, rest)
    | none => none

/-- Splitting succeeds exactly if enough bytes are there, and cuts after `count` of them. -/
theorem splitExactly_eq (count : Nat) (bytes : Bytes) :
    splitExactly count bytes =
      if count ≤ bytes.length then some (bytes.take count, bytes.drop count) else none := by
  induction count generalizing bytes with
  | zero => simp [splitExactly]
  | succ count ih =>
    cases bytes with
    | nil => simp [splitExactly]
    | cons b rest =>
      simp only [splitExactly, ih, List.length_cons, Nat.add_le_add_iff_right,
        List.take_succ_cons, List.drop_succ_cons]
      by_cases h : count ≤ rest.length <;> simp [h]

/-- Takes the next `count` bytes. -/
def readBytes (count : Nat) : Reader Bytes := fun cursor =>
  match splitExactly count cursor.rest with
  | some (taken, rest) => (.ok taken, ⟨rest, cursor.position + count⟩)
  | none => (.error (.io .endOfData), ⟨[], cursor.position + cursor.rest.length⟩)

/-- Taking exactly the bytes in front leaves what follows them. -/
theorem readBytes_append (front rest : Bytes) (position : Nat) :
    readBytes front.length ⟨front ++ rest, position⟩ =
      (.ok front, ⟨rest, position + front.length⟩) := by
  simp [readBytes, splitExactly_eq]

/-- Takes an unsigned number of `width` bytes. -/
def readNat (width : Nat) : Reader Nat := do return ofLittleEndian (← readBytes width)

/-- A number that was written is taken back modulo its width. -/
theorem readNat_littleEndian (width n : Nat) (rest : Bytes) (position : Nat) :
    readNat width ⟨littleEndian width n ++ rest, position⟩ =
      (.ok (n % Nat.pow 256 width), ⟨rest, position + width⟩) := by
  have taken := readBytes_append (littleEndian width n) rest position
  rw [length_littleEndian] at taken
  rw [← ofLittleEndian_littleEndian]
  simp only [readNat, bind, ExceptT.bind, ExceptT.mk, StateT.bind, taken]
  rfl

/-- Takes a signed number of eight bytes. -/
def readSigned : Reader Int64 := do return (UInt64.ofNat (← readNat 8)).toInt64

/-- Takes a text: its length in bytes, then its bytes. -/
def readText : Reader String := do
  let length ← readNat 8
  if maxTextLength < length then
    throw (.graphLoad s!"string length {length} exceeds limit {maxTextLength}")
  match Text.Utf8.decode (← readBytes length) with
  | .ok text => return text
  | .error fault => throw (.graphLoad s!"invalid UTF-8 in string: {fault.message}")

/-! ## Writing fields -/

/-- The bytes of a signed number. -/
def writeSigned (value : Int64) : Bytes := littleEndian 8 value.toUInt64.toNat

/-- The bytes of a text. -/
def writeText (text : String) : Bytes :=
  let bytes := Text.Utf8.encode text
  littleEndian 8 bytes.length ++ bytes

end GraphServe.EngineFile
