import GraphServe.EngineFile.Field

/-!
# Engine file header

A file begins with the magic bytes `IBEN`, the format version, the number of tensors and the name
of the kernel that executes the graph.
-/

namespace GraphServe.EngineFile

/-- The four bytes every engine file begins with. -/
def magic : Bytes := [0x49, 0x42, 0x45, 0x4E]

/-- The one version of the format that is read. -/
def version : UInt32 := 1

/-- The header of an engine file. -/
structure Header where
  version : UInt32
  tensorCount : UInt32
  kernel : String
deriving DecidableEq, Repr

/-- Takes a header and checks the magic bytes, the version and the kernel's name, in this order. -/
def readHeader : Reader Header := do
  let found ← readBytes 4
  if found ≠ magic then throw (.invalidMagic found)
  let fileVersion := UInt32.ofNat (← readNat 4)
  if fileVersion ≠ version then throw (.unsupportedVersion fileVersion.toNat)
  let tensorCount := UInt32.ofNat (← readNat 4)
  let kernel ← readText
  if kernel.isEmpty then throw (.graphLoad "empty kernel entry point")
  return { version := fileVersion, tensorCount, kernel }

/-- The bytes of a header. -/
def Header.toBytes (h : Header) : Bytes :=
  magic ++ littleEndian 4 h.version.toNat ++ littleEndian 4 h.tensorCount.toNat ++
    writeText h.kernel

end GraphServe.EngineFile
