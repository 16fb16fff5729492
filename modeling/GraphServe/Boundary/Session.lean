import GraphServe.Boundary.Arguments
import GraphServe.Boundary.ModelText
import GraphServe.Boundary.Output
import GraphServe.Config.Load
import GraphServe.Logging.Install
import GraphServe.Setup

/-!
# Sessions

A session is what calls from outside act on: backends and results behind handles, the log, and at
most one pending message. A call ends with a status. One that fails leaves its message pending and
writes no memory of the caller, apart from the rank of a shape that does not fit
(`memory_conclude_of_ne_ok`).
-/

namespace GraphServe.Boundary

/-- Names a backend of a session. -/
structure BackendHandle where
  index : Nat
deriving DecidableEq, Repr

/-- Names a result of a session. -/
structure ResultHandle where
  index : Nat
deriving DecidableEq, Repr

/-- The backends and results of a session in the order of their handles, the device that adopted
backends share, the log, and the complaint whose text is pending. -/
structure Session where
  device : Device
  backends : List (Option Backend)
  results : List (Option InferenceOutput)
  log : LogState
  pending : Option Complaint

/-- The end of a call: its status, the caller's memory and the session. -/
structure Reply (Memory : Type) where
  status : Status
  memory : Memory
  session : Session

/-- What callers are told about the calls of a backend. -/
structure StatsView where
  total : Nat
  failed : Nat
  lastMilliseconds : UInt64
  averageMilliseconds : UInt64
  memoryUsage : Nat
deriving DecidableEq, Repr

/-- No calls and no memory. -/
def StatsView.zero : StatsView := ⟨0, 0, 0, 0, 0⟩

namespace Session

/-- A session without backends, with the device that adopted ones share. -/
def start (device : Device) : Session := ⟨device, [], [], .initial, none⟩

/-- The backend behind a handle. -/
def backend? (s : Session) (h : Option BackendHandle) : Option Backend :=
  h.bind fun h => (s.backends[h.index]?).join

/-- The result behind a handle. -/
def result? (s : Session) (h : Option ResultHandle) : Option InferenceOutput :=
  h.bind fun h => (s.results[h.index]?).join

/-- Leaves the message of a complaint pending, in place of an earlier one. -/
def complain (s : Session) (c : Complaint) : Session := { s with pending := c.pending? }

/-- Ends a call with what it leaves in the caller's memory, or with a complaint. -/
def conclude (s : Session) (memory : Memory) : Except Complaint Memory → Reply Memory
  | .ok written => ⟨.ok, written, s⟩
  | .error c => ⟨c.status, memory, s.complain c⟩

theorem memory_conclude_of_ne_ok {s : Session} {memory : Memory}
    {outcome : Except Complaint Memory} (h : (s.conclude memory outcome).status ≠ .ok) :
    (s.conclude memory outcome).memory = memory := by
  cases outcome with
  | ok written => exact absurd rfl h
  | error c => rfl

/-- Takes the pending message; a second attempt finds none. -/
def takeMessage (s : Session) : Option Complaint × Session :=
  (s.pending, { s with pending := none })

/-- Refuses a call in which something needed is absent. -/
def requirePresent (present : Bool) (text : String) : Except Complaint Unit :=
  if present then .ok () else .error (.argument text)

/-! ## Backends -/

/-- Puts a backend behind a new handle. -/
def adopt (s : Session) (b : Backend) : BackendHandle × Session :=
  (⟨s.backends.length⟩, { s with backends := s.backends ++ [some b] })

/-- Changes the backend behind a handle. -/
def setBackend (s : Session) (h : Option BackendHandle) (b : Option Backend) : Session :=
  match h with
  | none => s
  | some h => { s with backends := s.backends.set h.index b }

/-- Ends a call that creates a backend. -/
def concludeCreation (s : Session) (out : Slot (Option BackendHandle)) :
    Except Complaint Backend → Reply (Slot (Option BackendHandle))
  | .error c => s.conclude out (.error c)
  | .ok b =>
    let (handle, s) := s.adopt b
    s.conclude out (.ok (out.map fun _ => some handle))

/-- The backend of a configuration, on a device of its own if it needs one. -/
def setup (files : Files) (host : Host) (config : BackendConfig) : Except Complaint Backend :=
  (Backend.setup files host config).mapError .engine

/-- Creates a backend for a model path with parameters. -/
def create (s : Session) (files : Files) (host : Host) (path : Option Bytes)
    (params : Option Params) (out : Slot (Option BackendHandle)) :
    Reply (Slot (Option BackendHandle)) :=
  s.concludeCreation out do
    requirePresent out.isSome "backend_out is null"
    let config ← (params.getD .default).config path
    setup files host config

/-- Creates a backend from a configuration file with the environment over it, which a library
gathers. -/
def createFromConfig (s : Session) (library : SettingLibrary) (files : Files) (host : Host)
    (environment : Environment) (path : Option Bytes) (out : Slot (Option BackendHandle)) :
    Reply (Slot (Option BackendHandle)) :=
  s.concludeCreation out <|
    match path with
    | none => .error (.argument "null argument")
    | some bytes => do
      requirePresent out.isSome "null argument"
      let path ← readText "config path" bytes
      let config ← (BackendConfig.load library files environment path).mapError .engine
      setup files host config

/-- Destroys a backend, if there is one. -/
def destroy (s : Session) (h : Option BackendHandle) : Reply Unit :=
  match s.backend? h with
  | none => s.conclude () (.ok ())
  | some b => ({ s.setBackend h none with device := b.close s.device }).conclude () (.ok ())

/-- Whether there is a backend that accepts calls. -/
def isUsable (s : Session) (h : Option BackendHandle) : Bool := (s.backend? h).any Backend.isUsable

/-- Gives the caches of a backend back. -/
def clearCache (s : Session) (h : Option BackendHandle) : Reply Unit :=
  match s.backend? h with
  | none => s.conclude () (.error (.argument "backend is null"))
  | some b => (s.setBackend h (some b.clearCache)).conclude () (.ok ())

/-- Writes what a question about a backend is answered with. -/
def ask (s : Session) (h : Option BackendHandle) (out : Slot α) (question : Backend → α) :
    Reply (Slot α) :=
  s.conclude out <|
    match s.backend? h, out with
    | some b, some _ => .ok (some (question b))
    | _, _ => .error (.argument "null argument")

/-- The number of a model's inputs. -/
def inputCount (s : Session) (h : Option BackendHandle) (out : Slot Nat) : Reply (Slot Nat) :=
  s.ask h out fun b => b.modelInfo.inputs.length

/-- The number of a model's outputs. -/
def outputCount (s : Session) (h : Option BackendHandle) (out : Slot Nat) : Reply (Slot Nat) :=
  s.ask h out fun b => b.modelInfo.outputs.length

/-- The description of a model as a text. -/
def modelText (s : Session) (h : Option BackendHandle) (out : Slot (Option String)) :
    Reply (Slot (Option String)) :=
  s.ask h out fun b => some b.modelInfo.toJson

/-- The counters of a backend. -/
def stats (s : Session) (h : Option BackendHandle) (out : Slot StatsView) :
    Reply (Slot StatsView) :=
  s.ask h out fun b =>
    ⟨b.stats.total, b.stats.failed, b.stats.lastMilliseconds, b.stats.averageMilliseconds,
      b.memoryUsage⟩

/-! ## Calls and results -/

/-- The data of the inputs of a call. -/
def callInputs (inputs : Option (List InputBuffer)) (count : Nat) :
    Except Complaint (List Bytes) :=
  if count = 0 then .ok []
  else
    match inputs with
    | none => .error (.argument "inputs is null")
    | some buffers => readInputs 0 (buffers.take count)

/-- Runs one call on a backend. The caller's memory receives the handle of the result. -/
def infer (s : Session) (h : Option BackendHandle) (inputs : Option (List InputBuffer))
    (count : Nat) (elapsed : Duration) (out : Slot (Option ResultHandle)) :
    Reply (Slot (Option ResultHandle)) :=
  match s.backend? h, out with
  | some b, some _ =>
    match callInputs inputs count with
    | .error c => s.conclude out (.error c)
    | .ok data =>
      let (result, b, device) := b.infer s.device data elapsed
      let s := { s.setBackend h (some b) with device }
      match result with
      | .error e => s.conclude out (.error (.engine e))
      | .ok output =>
        ({ s with results := s.results ++ [some output] }).conclude out
          (.ok (some (some ⟨s.results.length⟩)))
  | _, _ => s.conclude out (.error (.argument "null argument"))

/-- Destroys a result, if there is one. -/
def destroyResult (s : Session) (h : Option ResultHandle) : Session :=
  match h with
  | none => s
  | some h => { s with results := s.results.set h.index none }

/-- The number of outputs of a result, none for a result that is not there. -/
def resultSize (s : Session) (h : Option ResultHandle) : Nat :=
  ((s.result? h).map fun output => output.outputs.length).getD 0

/-- The number of values and the type of an output. -/
def outputInfo (s : Session) (h : Option ResultHandle) (index : Nat)
    (out : Slot Nat × Slot HostType) : Reply (Slot Nat × Slot HostType) :=
  s.conclude out <|
    match s.result? h, out with
    | some output, (some _, some _) =>
      match output.outputs[index]? with
      | some values => .ok (some values.length, some (hostType values))
      | none => .error (outOfRange index)
    | _, _ => .error (.argument "null argument")

/-- The shape of an output. The rank is written before the sizes are copied, so that a caller with
too little room learns how much is needed. -/
def outputShape (s : Session) (h : Option ResultHandle) (index : Nat)
    (dims : Slot (List Int64)) (capacity : Nat) (rank : Slot Nat) :
    Reply (Slot (List Int64) × Slot Nat) :=
  match s.result? h, rank with
  | some output, some _ =>
    match output.shapes[index]? with
    | none => s.conclude (dims, rank) (.error (outOfRange index))
    | some shape =>
      -- the rank is written even if the copy is refused
      let rank := some shape.length
      s.conclude (dims, rank) ((copyOut shape dims capacity).map fun dims => (dims, rank))
  | _, _ => s.conclude (dims, rank) (.error (.argument "null argument"))

/-- Copies the values of an output in one type. -/
def copy (view : Element → Option α) (s : Session) (h : Option ResultHandle) (index : Nat)
    (memory : Slot (List α)) (capacity : Nat) : Reply (Slot (List α)) :=
  s.conclude memory <|
    match s.result? h with
    | none => .error (.argument "result is null")
    | some output => copyValues view output index memory capacity

/-! ## The log -/

/-- Installs the log, with the level `info` unless another is given. -/
def initLog (s : Session) (level : Option Bytes) (json : Bool) : Reply Unit :=
  let start := LoggingConfig.default
  let format := if json then .json else start.format
  let config : Except Complaint LoggingConfig :=
    match level with
    | none => .ok { start with format }
    | some bytes => (readText "log level" bytes).map fun level => { level, format }
  match config with
  | .error c => s.conclude () (.error c)
  | .ok config =>
    let (result, log) := s.log.install config
    ({ s with log }).conclude () (result.mapError .engine)

end Session

end GraphServe.Boundary
