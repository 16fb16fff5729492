import GraphServe.Device.Kernel

/-!
# The device arena

A device owns memory regions at addresses, execution streams and kernels. Regions are handed out
at increasing addresses on a fixed boundary and are zero at first. A memory limit bounds the bytes
in use, and the host that the device lives on may refuse to back any request. The next launch or
the next transfer can be made to fail once. The device records which regions it was asked to take
back. Every operation returns its result together with the device it leaves.
-/

namespace GraphServe

/-- A place in device memory, meaningful only to the device that gave it out. -/
structure Address where
  value : Nat
deriving DecidableEq, Repr

/-- The hexadecimal form of an address. -/
def Address.render (a : Address) : String :=
  "0x" ++ String.ofList (Nat.toDigits 16 a.value)

/-- An execution stream. -/
structure Stream where
  handle : Nat
deriving DecidableEq, Repr

/-- A region of device memory. -/
structure Region where
  address : Address
  data : Bytes
deriving DecidableEq, Repr

/-- An operation's result together with the state that it leaves. -/
abbrev Outcome (State Result : Type) : Type := Except EngineError Result × State

/-- Which requests for memory the host backs. It is asked with the next address as well, which every
request that is met moves on, so that it may refuse what it backed a moment before. -/
structure Host where
  backs : (next bytes : Nat) → Bool

/-- A host that backs exactly the requests below a bound. -/
def Host.upTo (bound : Nat) : Host := ⟨fun _ bytes => bytes < bound⟩

/-- A request to take a region back, and whether a live region lay at the address. -/
structure FreeRecord where
  address : Address
  granted : Bool
deriving DecidableEq, Repr

/-- A device: its limit, its host, its kernels, its live regions in the order of their addresses,
the bytes in use, the next address, the live streams, the next stream, the armed faults, and the
requests to take a region back, in order. No operation reads the last. -/
structure Device where
  limit : Option Nat
  host : Host
  kernels : KernelTable
  regions : List Region
  inUse : Nat
  nextAddress : Nat
  streams : List Stream
  nextStream : Nat
  launchFault : Bool
  transferFault : Bool
  frees : List FreeRecord

namespace Device

/-- The name of the device. -/
def name : String := "host"

/-- The device is no discrete accelerator. -/
def isAccelerator : Bool := false

/-- Address of the first region. -/
def baseAddress : Nat := 0x10000000

/-- Regions begin at multiples of this number. -/
def alignment : Nat := 256

/-- A fresh device. -/
def new (kernels : KernelTable) (limit : Option Nat) (host : Host) : Device where
  limit := limit
  host := host
  kernels := kernels
  regions := []
  inUse := 0
  nextAddress := baseAddress
  streams := []
  nextStream := 1
  launchFault := false
  transferFault := false
  frees := []

/-- The number of live regions. -/
def liveRegions (d : Device) : Nat := d.regions.length

/-- The live region at an address. -/
def region? (d : Device) (a : Address) : Option Region := d.regions.find? (·.address == a)

/-! ## Faults and kernels -/

/-- Makes the next launch fail. -/
def armLaunchFault (d : Device) : Device := { d with launchFault := true }

/-- Makes the next transfer fail. -/
def armTransferFault (d : Device) : Device := { d with transferFault := true }

/-- Whether a kernel can be launched. -/
def hasKernel (d : Device) (kernel : String) : Bool := d.kernels.contains kernel

/-- Adds or replaces a kernel. -/
def registerKernel (d : Device) (kernel : String) (body : Kernel) : Device :=
  { d with kernels := d.kernels.insert kernel body }

/-- From now on the host backs other requests. -/
def rehost (d : Device) (host : Host) : Device := { d with host := host }

/-! ## Regions

A request that cannot be met leaves the device as it was. Addresses are never given out twice. -/

/-- The bytes that the limit leaves, if there is a limit. -/
def available? (d : Device) : Option Nat := d.limit.map (· - d.inUse)

/-- The addresses a region of the given length takes up. -/
def span (bytes : Nat) : Nat := (max bytes 1 + (alignment - 1)) / alignment * alignment

/-- Whether the host backs a request that is made now. -/
def backs (d : Device) (bytes : Nat) : Bool := d.host.backs d.nextAddress bytes

/-- Why a request cannot be met: the limit leaves too little, or the host does not back it. -/
def refusal? (d : Device) (bytes : Nat) : Option EngineError :=
  match d.available? with
  | some available =>
    if available < bytes ∨ d.backs bytes = false then some (.outOfMemory bytes available) else none
  | none => if d.backs bytes = false then some (.outOfMemory bytes 0) else none

/-- Allocates a region of zero bytes. -/
def malloc (d : Device) (bytes : Nat) : Outcome Device Address :=
  match d.refusal? bytes with
  | some e => (.error e, d)
  | none =>
    let address : Address := ⟨d.nextAddress⟩
    (.ok address,
      { d with
        regions := d.regions ++ [⟨address, List.replicate bytes 0⟩]
        inUse := d.inUse + bytes
        nextAddress := d.nextAddress + span bytes })

/-- Enters a request to take a region back into the record. -/
def recordFree (d : Device) (a : Address) (granted : Bool) : Device :=
  { d with frees := d.frees ++ [⟨a, granted⟩] }

/-- Gives a region back. -/
def free (d : Device) (a : Address) : Outcome Device Unit :=
  match d.region? a with
  | some region =>
    let left :=
      { d with
        regions := d.regions.eraseP (·.address == a)
        inUse := d.inUse - region.data.length }
    (.ok (), left.recordFree a true)
  | none =>
    (.error (.transfer s!"free of unknown address {a.render}"), d.recordFree a false)

/-! ## Copies

An armed fault is used up by the next copy, whatever its address. -/

/-- Changes the bytes of the region at an address. -/
def updateRegion (d : Device) (a : Address) (f : Bytes → Bytes) : Device :=
  { d with
    regions := d.regions.map fun r => if r.address = a then { r with data := f r.data } else r }

/-- Uses up an armed transfer fault. -/
def disarmTransfer (d : Device) : Device := { d with transferFault := false }

/-- Copies host bytes to the start of a region. -/
def copyIn (d : Device) (a : Address) (bytes : Bytes) : Outcome Device Unit :=
  if d.transferFault then
    (.error (.transfer "memcpy_htod: injected fault"), d.disarmTransfer)
  else
    match d.region? a with
    | none => (.error (.transfer s!"copy to unknown address {a.render}"), d)
    | some region =>
      if region.data.length < bytes.length then
        (.error (.transfer
          s!"copy of {bytes.length} bytes overflows region {a.render} of {region.data.length} bytes"),
          d)
      else (.ok (), d.updateRegion a (overlay bytes))

/-- Copies the first `count` bytes of a region to the host. -/
def copyOut (d : Device) (a : Address) (count : Nat) : Outcome Device Bytes :=
  if d.transferFault then
    (.error (.transfer "memcpy_dtoh: injected fault"), d.disarmTransfer)
  else
    match d.region? a with
    | none => (.error (.transfer s!"copy from unknown address {a.render}"), d)
    | some region =>
      if region.data.length < count then
        (.error (.transfer
          s!"copy of {count} bytes overruns region {a.render} of {region.data.length} bytes"), d)
      else (.ok (region.data.take count), d)

/-- Sets the first `count` bytes of a region, or all of them if it is shorter. -/
def fill (d : Device) (a : Address) (value : UInt8) (count : Nat) : Outcome Device Unit :=
  if d.transferFault then
    (.error (.transfer "memset: injected fault"), d.disarmTransfer)
  else
    match d.region? a with
    | none => (.error (.transfer s!"memset of unknown address {a.render}"), d)
    | some region =>
      (.ok (),
        d.updateRegion a (overlay (List.replicate (min count region.data.length) value)))

/-! ## Streams -/

/-- Creates a stream. -/
def createStream (d : Device) : Stream × Device :=
  let stream : Stream := ⟨d.nextStream⟩
  (stream, { d with streams := d.streams ++ [stream], nextStream := d.nextStream + 1 })

/-- Destroys a stream. -/
def destroyStream (d : Device) (s : Stream) : Outcome Device Unit :=
  if s ∈ d.streams then (.ok (), { d with streams := d.streams.erase s })
  else (.error (.execution s!"destroy of unknown stream {s.handle}"), d)

/-- Waits for a stream, whose work is always done by then. -/
def synchronize (d : Device) (s : Stream) : Except EngineError Unit :=
  if s ∈ d.streams then .ok ()
  else .error (.execution s!"synchronize on unknown stream {s.handle}")

end Device

end GraphServe
