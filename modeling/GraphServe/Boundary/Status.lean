import GraphServe.Error

/-!
# Statuses and complaints

Calls from outside end with a status. A call that fails complains: about an argument, about itself,
or about an engine error. Every complaint has a status, which is never that of success
(`Complaint.status_ne_ok`), and a text. The text is handed out where it can be, which it cannot if
it holds the character that ends texts outside.
-/

namespace GraphServe.Boundary

/-- How a call ended. -/
inductive Status where
  | ok
  | invalidArgument
  | modelLoad
  | inference
  | outOfMemory
  | unusable
  | internal
deriving DecidableEq, Repr

/-- The name of a status. -/
def Status.name : Status → String
  | .ok => "Ok"
  | .invalidArgument => "ErrorInvalidArgument"
  | .modelLoad => "ErrorModelLoad"
  | .inference => "ErrorInference"
  | .outOfMemory => "ErrorOutOfMemory"
  | .unusable => "ErrorUnusable"
  | .internal => "ErrorInternal"

/-- The status that an engine error is told by. -/
def Status.ofError (e : EngineError) : Status :=
  match e with
  | .outOfMemory _ _ => .outOfMemory
  | .unusable _ => .unusable
  | .inputCount _ _ => .invalidArgument
  | .inputSize _ _ _ => .invalidArgument
  | e =>
    if e.isConfigurationError then .modelLoad
    else if e.isDeviceError then .inference
    else .internal

/-- Why a call failed. -/
inductive Complaint where
  | argument (text : String)
  /-- The call could not be carried out at all. -/
  | internal
  | engine (cause : EngineError)
deriving DecidableEq, Repr

namespace Complaint

/-- The status of a call that failed. -/
def status : Complaint → Status
  | .argument _ => .invalidArgument
  | .internal => .internal
  | .engine cause => .ofError cause

/-- The text of a complaint. -/
def text : Complaint → String
  | .argument text => text
  | .internal => "internal panic"
  | .engine cause => cause.message

/-- The character that ends texts outside. -/
def terminator : Char := '\x00'

/-- The complaint if its text can be handed out. -/
def pending? (c : Complaint) : Option Complaint :=
  if terminator ∈ c.text.toList then none else some c

theorem status_ne_ok (c : Complaint) : c.status ≠ .ok := by
  cases c with
  | argument => simp [status]
  | internal => simp [status]
  | engine cause => cases cause <;> simp [status, Status.ofError, EngineError.isConfigurationError,
      EngineError.isDeviceError]

end Complaint

end GraphServe.Boundary
