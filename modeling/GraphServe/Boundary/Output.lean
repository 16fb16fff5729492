import GraphServe.Boundary.Status
import GraphServe.Transfer

/-!
# Outputs as callers see them

A caller copies the values and the shape of an output into memory of its own. Copying never writes
more than the capacity it was given, and what lies behind the copied values stays
(`length_copyInto`).
-/

namespace GraphServe.Boundary

/-- Memory of the caller that a call may write: absent, or with what it holds. -/
abbrev Slot (α : Type) := Option α

/-- The types in which callers see values. -/
inductive HostType where
  | f32
  | i32
  | i64
deriving DecidableEq, Repr

/-- The name of a type. -/
def HostType.name : HostType → String
  | .f32 => "F32"
  | .i32 => "I32"
  | .i64 => "I64"

/-- The type of an output, which its first value tells. An output without values counts as
floating-point. -/
def hostType (values : List Element) : HostType :=
  match values with
  | .i32 _ :: _ => .i32
  | .i64 _ :: _ => .i64
  | _ => .f32

/-- The complaint about an index that no output has. -/
def outOfRange (index : Nat) : Complaint := .argument s!"output index {index} out of range"

/-- What a caller's memory holds after values were copied to its start. -/
def copyInto (values : List α) (memory : List α) : List α := values ++ memory.drop values.length

theorem length_copyInto {values memory : List α} (h : values.length ≤ memory.length) :
    (copyInto values memory).length = memory.length := by
  simp [copyInto]
  omega

/-- Copies values to a caller's memory of the given capacity. -/
def copyOut (values : List α) (memory : Slot (List α)) (capacity : Nat) :
    Except Complaint (Slot (List α)) :=
  if capacity < values.length then
    .error (.argument s!"buffer holds {capacity} elements, {values.length} needed")
  else if values.isEmpty then .ok memory
  else
    match memory with
    | none => .error (.argument "destination is null")
    | some cells => .ok (some (copyInto values cells))

/-- Copies the values of an output that are all of one type. -/
def copyValues (view : Element → Option α) (output : InferenceOutput) (index : Nat)
    (memory : Slot (List α)) (capacity : Nat) : Except Complaint (Slot (List α)) :=
  match output.outputs[index]? with
  | none => .error (outOfRange index)
  | some values =>
    match values.mapM view with
    | some viewed => copyOut viewed memory capacity
    | none =>
      .error (.argument s!"output {index} has element type Some({(hostType values).name})")

end GraphServe.Boundary
