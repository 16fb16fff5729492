import GraphServe.Tensor.Shape

/-!
# Declared shapes

A graph declares each axis of a tensor as a fixed size or as a named axis whose size is settled
later; axes of one name have one size. A declared shape has no fixed axis of size zero, which its
type records. `DeclaredShape.check` accepts the concrete shapes that agree with the declaration.
-/

namespace GraphServe

/-- One declared axis. -/
inductive Axis where
  | fixed (size : UInt64)
  | dynamic (symbol : String)
deriving DecidableEq, Repr

namespace Axis

/-- The size of a fixed axis. -/
def fixed? : Axis → Option UInt64
  | .fixed size => some size
  | .dynamic _ => none

/-- Whether the size is settled later. -/
def isDynamic (a : Axis) : Bool := a.fixed?.isNone

/-- The size as a signed number, with `-1` for a named axis. -/
def size : Axis → Int64
  | .fixed size => size.toInt64
  | .dynamic _ => -1

/-- An axis as it appears in messages. -/
def render : Axis → String
  | .fixed size => toString size
  | .dynamic symbol => symbol

/-- Whether a concrete size agrees with the axis. -/
def admits : Axis → UInt64 → Bool
  | .fixed size, got => size == got
  | .dynamic _, _ => true

end Axis

/-- The shape a graph declares for a tensor. -/
structure DeclaredShape where
  axes : List Axis
  fixed_ne_zero : Axis.fixed 0 ∉ axes
deriving DecidableEq

namespace DeclaredShape

/-- The first fixed axis of size zero. -/
def zeroAxis? (axes : List Axis) : Option Nat := axes.findIdx? (· == .fixed 0)

theorem zeroAxis?_eq_none {axes : List Axis} (h : zeroAxis? axes = none) :
    Axis.fixed 0 ∉ axes := by
  intro member
  have := List.findIdx?_eq_none_iff.1 h _ member
  simp at this

/-- The declared shape with the given axes, unless a fixed one has size zero. -/
def ofAxes (axes : List Axis) : Except TensorError DeclaredShape :=
  match h : zeroAxis? axes with
  | some axis => .error (.invalidDimension axis 0)
  | none => .ok ⟨axes, zeroAxis?_eq_none h⟩

/-- The declared shape with fixed axes only. -/
def ofDims (dims : List UInt64) : Except TensorError DeclaredShape := ofAxes (dims.map .fixed)

/-- The number of axes. -/
def rank (d : DeclaredShape) : Nat := d.axes.length

/-- Whether some axis is named. -/
def isDynamic (d : DeclaredShape) : Bool := d.axes.any Axis.isDynamic

/-- The sizes as signed numbers, with `-1` for named axes. -/
def sizes (d : DeclaredShape) : List Int64 := d.axes.map Axis.size

/-- The concrete shape, if every axis is fixed. -/
def static? (d : DeclaredShape) : Option Shape := (d.axes.mapM Axis.fixed?).map Shape.mk

/-- A declared shape as it appears in messages. -/
def render (d : DeclaredShape) : String := Text.bracketed (d.axes.map Axis.render)

/-- Whether a concrete shape has the declared rank and agrees on every fixed axis. -/
def admits (d : DeclaredShape) (s : Shape) : Bool :=
  s.rank == d.rank && (d.axes.zip s.dims).all fun (a, size) => a.admits size

/-- Accepts the concrete shapes that agree with the declaration. -/
def check (d : DeclaredShape) (s : Shape) : Except TensorError Unit :=
  if d.admits s then .ok () else .error (.shapeMismatch d.sizes s.sizes)

theorem check_eq_ok_iff (d : DeclaredShape) (s : Shape) :
    d.check s = .ok () ↔ d.admits s = true := by
  unfold check
  split <;> simp_all

end DeclaredShape

end GraphServe
