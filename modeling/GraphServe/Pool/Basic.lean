import GraphServe.Setup

/-!
# Backend pools

A pool hands out one backend at a time, the one given back last first. A backend that comes back
unusable is retired: it is closed, and then either a fresh one takes its place or the number of
live instances shrinks. With no live instance left the pool is exhausted. Retiring happens in two
steps, `Pool.rebuild` and `Pool.settle`, between which other clients may act.
-/

namespace GraphServe

/-- Builds instances on the shared device; calls are numbered from zero. -/
structure BackendFactory where
  build : (call : Nat) → Device → Outcome Device Backend

/-- A pool: its idle backends, the next to be handed out first, the instances idle or handed out,
the size it was built with, and the factory with the number of its calls so far. -/
structure Pool where
  idle : List Backend
  live : Nat
  size : Nat
  factory : Option BackendFactory
  calls : Nat

namespace Pool

/-! ## Building -/

/-- Gives back what backends hold on the shared device. -/
def closeAll (d : Device) (backends : List Backend) : Device :=
  backends.foldl Backend.close d

/-- A pool over backends, with the factory that built them if there is one. -/
def assemble (backends : List Backend) (factory : Option BackendFactory) :
    Except EngineError Pool :=
  if backends.isEmpty then .error (.config "backend pool needs at least one instance")
  else .ok ⟨backends.reverse, backends.length, backends.length, factory, backends.length⟩

/-- A pool over existing backends, which are not replaced. -/
def new (backends : List Backend) : Except EngineError Pool := assemble backends none

/-- The backends of `count` calls of a factory, the first of which has the given number. On failure
those before it are closed. -/
def buildEach (factory : BackendFactory) (d : Device) (call : Nat) :
    (count : Nat) → Outcome Device (List Backend)
  | 0 => (.ok [], d)
  | count + 1 =>
    match factory.build call d with
    | (.error e, d) => (.error e, d)
    | (.ok first, d) =>
      match buildEach factory d (call + 1) count with
      | (.error e, d) => (.error e, first.close d)
      | (.ok rest, d) => (.ok (first :: rest), d)

/-- A pool of `size` backends of a factory, which also replaces retired ones. -/
def withFactory (d : Device) (size : Nat) (factory : BackendFactory) : Outcome Device Pool :=
  match buildEach factory d 0 size with
  | (.error e, d) => (.error e, d)
  | (.ok backends, d) => (assemble backends (some factory), d)

/-- The factory that sets up a configuration, each backend on a device of its own. `hosts` gives the
host that meets each call. -/
def configFactory (files : Files) (hosts : (call : Nat) → Host) (config : BackendConfig) :
    BackendFactory where
  build call d := (Backend.setup files (hosts call) config, d)

/-- The pool of a configuration. -/
def ofConfig (files : Files) (hosts : (call : Nat) → Host) (config : BackendConfig) (d : Device) :
    Outcome Device Pool :=
  match config.validate with
  | .error e => (.error e, d)
  | .ok () => withFactory d config.poolSize.toNat (configFactory files hosts config)

/-! ## Handing out -/

/-- The number of idle backends. -/
def idleCount (p : Pool) : Nat := p.idle.length

/-- Takes the backend that is next to be handed out, if one is idle. -/
def take? (p : Pool) : Option (Backend × Pool) :=
  match p.idle with
  | [] => none
  | b :: rest => some (b, { p with idle := rest })

/-- The error of a pool without live instances. -/
def exhausted (size : Nat) : EngineError :=
  .unusable s!"all {size} pooled backends have been retired"

/-- Takes a backend. With nothing idle the caller waits (`none`), unless no instance is live. -/
def acquire (p : Pool) : Except EngineError (Option (Backend × Pool)) :=
  match p.take? with
  | some taken => .ok (some taken)
  | none => if p.live = 0 then .error (exhausted p.size) else .ok none

/-! ## Giving back -/

/-- Makes a usable backend idle. -/
def put (p : Pool) (b : Backend) : Pool := { p with idle := b :: p.idle }

/-- Closes an unusable backend and builds another if there is a factory. -/
def rebuild (p : Pool) (d : Device) (b : Backend) : Option Backend × Pool × Device :=
  let d := b.close d
  match p.factory with
  | none => (none, p, d)
  | some factory =>
    let p' := { p with calls := p.calls + 1 }
    match factory.build p.calls d with
    | (.ok fresh, d) => (some fresh, p', d)
    | (.error _, d) => (none, p', d)

/-- Ends a retirement: the replacement becomes idle, or one instance fewer is live. -/
def settle (p : Pool) : Option Backend → Pool
  | some fresh => p.put fresh
  | none => { p with live := p.live - 1 }

/-- Gives a backend back. -/
def giveBack (p : Pool) (d : Device) (b : Backend) : Pool × Device :=
  if b.isUsable then (p.put b, d)
  else
    let (replacement, p, d) := p.rebuild d b
    (p.settle replacement, d)

/-- Closes the idle backends. -/
def close (d : Device) (p : Pool) : Device := closeAll d p.idle

/-- A pool as it appears in messages. -/
def render (p : Pool) : String :=
  s!"BackendPool \x7b size: {p.size}, live: {p.live}, idle: {p.idleCount} \x7d"

end Pool

end GraphServe
