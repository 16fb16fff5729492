import GraphServe.Bytes
import GraphServe.Tensor.Error

/-!
# Engine errors

The causes of failures in loading, configuring and running a graph. Device errors leave an
instance's buffers in doubt; configuration errors are found while a backend is built. No error is
both (`EngineError.not_device_and_configuration`).
-/

namespace GraphServe

/-- How reading stored data fails. -/
inductive ReadFault where
  | endOfData
  | notFound
  | other (text : String)
deriving DecidableEq, Repr

/-- The wording of a read fault. -/
def ReadFault.message : ReadFault → String
  | .endOfData => "failed to fill whole buffer"
  | .notFound => "No such file or directory (os error 2)"
  | .other text => text

/-- The causes of failures of the runtime. -/
inductive EngineError where
  | io (fault : ReadFault)
  | invalidMagic (found : Bytes)
  | unsupportedVersion (version : Nat)
  | graphLoad (reason : String)
  | unsupportedDType (tensor dtype : String)
  | shapeUnresolved (tensor reason : String)
  | invalidShape (tensor reason : String)
  | inputCount (expected got : Nat)
  | inputSize (tensor : String) (expected got : Nat)
  | outOfMemory (requested available : Nat)
  | transfer (reason : String)
  | execution (reason : String)
  | kernelNotFound (reason : String)
  | invalidState (reason : String)
  | unusable (reason : String)
  | config (reason : String)
  /-- A configuration that cannot be read at all, as opposed to one that breaks a rule. -/
  | unreadableConfig (reason : String)
  | tensor (cause : TensorError)
  | other (text : String)
deriving DecidableEq, Repr

namespace EngineError

/-- The wording of an engine error. -/
def message : EngineError → String
  | .io fault => s!"IO error: {fault.message}"
  | .invalidMagic found =>
    s!"invalid engine magic: expected 'IBEN', got {Text.bracketed (found.map toString)}"
  | .unsupportedVersion version => s!"unsupported engine version: {version}"
  | .graphLoad reason => s!"failed to load compiled graph: {reason}"
  | .unsupportedDType name dtype => s!"unsupported dtype for tensor '{name}': {dtype}"
  | .shapeUnresolved name reason =>
    s!"dynamic shape of tensor '{name}' cannot be resolved: {reason}"
  | .invalidShape name reason => s!"invalid shape for tensor '{name}': {reason}"
  | .inputCount expected got => s!"input tensor count mismatch: expected {expected}, got {got}"
  | .inputSize name expected got =>
    s!"input tensor '{name}' size mismatch: expected {expected} bytes, got {got} bytes"
  | .outOfMemory requested available =>
    s!"device out of memory: requested {requested} bytes, {available} available"
  | .transfer reason => s!"device transfer failed: {reason}"
  | .execution reason => s!"inference execution failed: {reason}"
  | .kernelNotFound reason => s!"kernel not found: {reason}"
  | .invalidState reason => s!"invalid execution context state: {reason}"
  | .unusable reason => s!"backend is unusable after an earlier device failure: {reason}"
  | .config reason => s!"configuration error: {reason}"
  | .unreadableConfig reason => s!"configuration error: {reason}"
  | .tensor cause => s!"tensor error: {cause.message}"
  | .other text => text

/-- The name of an engine error's cause. -/
def label : EngineError → String
  | .io _ => "Io"
  | .invalidMagic _ => "InvalidMagic"
  | .unsupportedVersion _ => "UnsupportedVersion"
  | .graphLoad _ => "GraphLoad"
  | .unsupportedDType _ _ => "UnsupportedDType"
  | .shapeUnresolved _ _ => "DynamicShapeUnresolved"
  | .invalidShape _ _ => "InvalidShape"
  | .inputCount _ _ => "InputCountMismatch"
  | .inputSize _ _ _ => "InputSizeMismatch"
  | .outOfMemory _ _ => "OutOfMemory"
  | .transfer _ => "Transfer"
  | .execution _ => "ExecutionFailed"
  | .kernelNotFound _ => "KernelNotFound"
  | .invalidState _ => "InvalidState"
  | .unusable _ => "BackendUnusable"
  | .config _ => "Config"
  | .unreadableConfig _ => "Config"
  | .tensor _ => "Tensor"
  | .other _ => "Other"

/-- Failures of the device, after which buffers and bindings cannot be trusted. -/
def isDeviceError : EngineError → Bool
  | .outOfMemory _ _ | .transfer _ | .execution _ => true
  | _ => false

/-- Failures found while a backend is loaded and configured. -/
def isConfigurationError : EngineError → Bool
  | .io _ | .invalidMagic _ | .unsupportedVersion _ | .graphLoad _ | .unsupportedDType _ _
  | .shapeUnresolved _ _ | .invalidShape _ _ | .kernelNotFound _ | .config _
  | .unreadableConfig _ => true
  | _ => false

theorem not_device_and_configuration (e : EngineError) :
    (e.isDeviceError && e.isConfigurationError) = false := by cases e <;> rfl

end EngineError

end GraphServe
