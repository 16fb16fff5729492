import GraphServe.EngineFile.Contents
import GraphServe.Registry

/-!
# Compiled graphs

A graph is loaded from an engine file and never changes: the kernel that executes it, the payload
handed to that kernel, and the registry of its tensors.
-/

namespace GraphServe

/-- The files of a process: the content at a path, or why it cannot be read. -/
structure Files where
  content : String → Except ReadFault Bytes

/-- No files. -/
def Files.empty : Files := ⟨fun _ => .error .notFound⟩

/-- The content at a path. -/
def Files.read (files : Files) (path : String) : Except EngineError Bytes :=
  (files.content path).mapError .io

/-- A compiled graph, with the path it was loaded from. -/
structure Graph where
  path : String
  kernel : String
  payload : Bytes
  registry : Registry

namespace Graph

/-- The graph in an engine file that was read. -/
def ofOpened (path : String) (file : EngineFile.Opened) : Except EngineError Graph := do
  return ⟨path, file.header.kernel, file.payload, ← Registry.ofTensors file.tensors⟩

/-- The graph in an engine file's bytes. -/
def ofBytes (path : String) (bytes : Bytes) : Except EngineError Graph := do
  ofOpened path (← EngineFile.openBytes bytes)

/-- Loads the graph at a path. -/
def load (files : Files) (path : String) : Except EngineError Graph := do
  ofBytes path (← files.read path)

end Graph

end GraphServe
