import GraphServe.Device.Arena
import GraphServe.Registry
import GraphServe.Tensor.ByteSize

/-!
# Device buffers

A buffer is a device region that holds one tensor and has one owner, who gives it back. The buffers
of a graph are allocated in binding order, all or none: if one cannot be allocated, those before it
are given back.
-/

namespace GraphServe

/-- A device region that holds a tensor. -/
structure Buffer where
  name : String
  dtype : ElementType
  address : Address
  capacity : Nat
deriving DecidableEq, Repr

/-- How far a loop over tensors came: what it made, and the failure that stopped it, if any. -/
structure Progress (Item : Type) where
  made : List Item
  failure : Option EngineError

namespace Progress

variable {Item : Type}

/-- A loop at its end. -/
def finished : Progress Item := ⟨[], none⟩

/-- A loop that made nothing more because of a failure. -/
def stopped (e : EngineError) : Progress Item := ⟨[], some e⟩

/-- The progress of a loop that made an item first. -/
def after (item : Item) (p : Progress Item) : Progress Item := ⟨item :: p.made, p.failure⟩

end Progress

namespace Buffer

/-- Allocates a buffer for a tensor at a shape. -/
def allocate (d : Device) (t : Descriptor) (s : Shape) : Outcome Device Buffer :=
  match t.elementType with
  | .error e => (.error e, d)
  | .ok dtype =>
    match t.requiredBytes s with
    | .error e => (.error e, d)
    | .ok bytes =>
      match d.malloc bytes with
      | (.error e, d) => (.error e, d)
      | (.ok address, d) => (.ok ⟨t.name, dtype, address, bytes⟩, d)

/-- Ends a buffer. Unless it was released, its region is given back, whatever the device says. -/
def drop (released : Bool) (d : Device) (b : Buffer) : Device :=
  if released then d else (d.free b.address).2

/-- Gives a buffer back and tells what the device says. The buffer ends there. -/
def release (d : Device) (b : Buffer) : Outcome Device Unit :=
  let (answer, d) := d.free b.address
  (answer, b.drop true d)

/-- Ends buffers that were not released, in order. -/
def discardAll (d : Device) (buffers : List Buffer) : Device := buffers.foldl (drop false) d

/-- Gives buffers back in order and tells the first failure. A failure does not stop it. -/
def releaseAll (d : Device) : List Buffer → Outcome Device Unit
  | [] => (.ok (), d)
  | b :: rest =>
    match release d b with
    | (.ok (), d) => releaseAll d rest
    | (.error e, d) => (.error e, (releaseAll d rest).2)

/-- Allocates a buffer for each tensor at its shape, up to the first failure. -/
def allocateEach (d : Device) : List Descriptor → List Shape → Progress Buffer × Device
  | t :: tensors, s :: shapes =>
    match allocate d t s with
    | (.error e, d) => (.stopped e, d)
    | (.ok buffer, d) =>
      let (rest, d) := allocateEach d tensors shapes
      (rest.after buffer, d)
  | _, _ => (.finished, d)

/-- Allocates the buffers of a graph at the shapes of its tensors, or none. -/
def allocateAll (d : Device) (r : Registry) (shapes : List Shape) : Outcome Device (List Buffer) :=
  if shapes.length ≠ r.size then
    (.error (.invalidState s!"{shapes.length} resolved shapes for {r.size} tensors"), d)
  else
    match allocateEach d r.all shapes with
    | (⟨buffers, none⟩, d) => (.ok buffers, d)
    | (⟨buffers, some e⟩, d) => (.error e, discardAll d buffers)

/-- The bytes that buffers hold together. -/
def totalCapacity : List Buffer → Nat
  | [] => 0
  | buffer :: rest => buffer.capacity + totalCapacity rest

end Buffer

end GraphServe
