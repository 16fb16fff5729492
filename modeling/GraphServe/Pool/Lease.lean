import GraphServe.Pool.Basic

/-!
# Leases

Clients of a pool hold backends in numbered slots. A slot is filled once and emptied once; giving
an empty slot back does nothing.
-/

namespace GraphServe

/-- A pool with the shared device and the slots of its clients. -/
structure PoolSession where
  pool : Pool
  device : Device
  slots : List (Option Backend)

namespace PoolSession

/-- The backend in a slot. -/
def held? (s : PoolSession) (slot : Nat) : Option Backend := (s.slots[slot]?).join

/-- Puts a backend that was taken into a new slot. -/
def lease (s : PoolSession) (b : Backend) (pool : Pool) : Nat × PoolSession :=
  (s.slots.length, { s with pool, slots := s.slots ++ [some b] })

/-- Takes an idle backend into a new slot. -/
def tryAcquire (s : PoolSession) : Option Nat × PoolSession :=
  match s.pool.take? with
  | none => (none, s)
  | some (b, pool) =>
    let (slot, s) := s.lease b pool
    (some slot, s)

/-- Takes a backend into a new slot. With nothing idle the client waits (`none`), unless no instance
is live. -/
def acquire (s : PoolSession) : Outcome PoolSession (Option Nat) :=
  match s.pool.acquire with
  | .error e => (.error e, s)
  | .ok none => (.ok none, s)
  | .ok (some (b, pool)) =>
    let (slot, s) := s.lease b pool
    (.ok (some slot), s)

/-- Gives the backend in a slot back. -/
def release (s : PoolSession) (slot : Nat) : PoolSession :=
  match s.held? slot with
  | none => s
  | some b =>
    let (pool, device) := s.pool.giveBack s.device b
    { pool, device, slots := s.slots.set slot none }

/-- Another client acquires while a slot is given back: it takes an idle backend if there is one,
else what the return leaves. -/
def handover (s : PoolSession) (slot : Nat) : Outcome PoolSession (Option Nat) :=
  match s.acquire with
  | (.ok (some new), s) => (.ok (some new), s.release slot)
  | _ => (s.release slot).acquire

/-- Runs one call on the backend in a slot. -/
def infer (s : PoolSession) (slot : Nat) (inputs : List Bytes) (elapsed : Duration) :
    Option (Outcome PoolSession InferenceOutput) :=
  (s.held? slot).map fun b =>
    let (result, b, device) := b.infer s.device inputs elapsed
    (result, { s with device, slots := s.slots.set slot (some b) })

/-- Gives every slot back in order. -/
def releaseAll (s : PoolSession) : PoolSession :=
  (List.range s.slots.length).foldl release s

end PoolSession

end GraphServe
