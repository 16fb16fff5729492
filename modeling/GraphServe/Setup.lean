import GraphServe.Backend.Basic

/-!
# Setting up backends

Builds the backend that a configuration selects, on a shared device or on a device of its own with
the builtin kernels and the configured memory limit.
-/

namespace GraphServe

namespace Backend

/-- An engine backend on the shared device. -/
def buildShared (files : Files) (config : BackendConfig) (d : Device) : Outcome Device Backend :=
  match EngineBackend.build files config d with
  | (.ok e, d) => (.ok (.shared e), d)
  | (.error e, d) => (.error e, d)

/-- The device of a backend that shares none. -/
def ownDevice (host : Host) (config : BackendConfig) : Device :=
  Device.new .builtin (config.memoryLimit.map UInt64.toNat) host

/-- An engine backend on a device of its own. -/
def buildAlone (files : Files) (host : Host) (config : BackendConfig) :
    Except EngineError Backend :=
  match EngineBackend.build files config (ownDevice host config) with
  | (.ok e, own) => .ok (.alone e own)
  | (.error e, _) => .error e

/-- The backend of a configuration, where an engine backend runs on the shared device. -/
def setupOn (files : Files) (config : BackendConfig) (d : Device) : Outcome Device Backend :=
  match config.validate with
  | .error e => (.error e, d)
  | .ok () =>
    match config.kind with
    | .engine => buildShared files config d
    | .mock => (.ok (.mock (.new config.batchSize)), d)

/-- The backend of a configuration, where an engine backend runs on a device of its own. -/
def setup (files : Files) (host : Host) (config : BackendConfig) : Except EngineError Backend := do
  config.validate
  match config.kind with
  | .engine => buildAlone files host config
  | .mock => return .mock (.new config.batchSize)

end Backend

end GraphServe
