import GraphServe.Boundary.Status
import GraphServe.Config.Basic
import GraphServe.Text.Utf8

/-!
# Arguments of calls

Arguments come as plain memory: texts end at the first zero byte, anything may be absent, and the
sizes of all inputs stand back to back with their counts beside them. `splitSizes_flatten` says that
sizes laid out in this way are read back as they were.
-/

namespace GraphServe.Boundary

/-- The text that an argument holds. `what` names the argument in complaints. -/
def readText (what : String) (bytes : Bytes) : Except Complaint String :=
  match Text.Utf8.decode (bytes.takeWhile (· != 0)) with
  | .ok text => .ok text
  | .error fault => .error (.argument s!"invalid {what}: {fault.message}")

/-! ## Parameters -/

/-- The parameters of a backend. -/
structure Params where
  kind : BackendKind
  useGpu : Bool
  batchSize : UInt64
  /-- The sizes of all inputs, back to back. -/
  dims : Option (List Int64)
  /-- How many of the sizes belong to each input. -/
  ranks : Option (List UInt64)
  inputCount : Nat
  lenient : Bool
deriving DecidableEq, Repr

/-- The parameters of a call that gives none. -/
def Params.default : Params where
  kind := .engine
  useGpu := true
  batchSize := 1
  dims := none
  ranks := none
  inputCount := 0
  lenient := false

/-- Splits sizes by their counts. -/
def splitSizes : (ranks : List UInt64) → List Int64 → List (List Int64)
  | [], _ => []
  | rank :: ranks, dims => dims.take rank.toNat :: splitSizes ranks (dims.drop rank.toNat)

/-- Sizes that were laid out back to back are read back as they were, whatever lies behind them. -/
theorem splitSizes_flatten {ranks : List UInt64} {sizes : List (List Int64)}
    (h : ranks.map UInt64.toNat = sizes.map List.length) (beyond : List Int64) :
    splitSizes ranks (sizes.flatten ++ beyond) = sizes := by
  induction sizes generalizing ranks with
  | nil => simp_all [splitSizes]
  | cons first rest ih =>
    cases ranks with
    | nil => simp at h
    | cons rank ranks =>
      obtain ⟨same, h⟩ := List.cons_eq_cons.1 h
      simp [splitSizes, same, ih h]

/-- The sizes that parameters hold, one list per input. -/
def Params.inputSizes (p : Params) : Except Complaint (List (List Int64)) :=
  if p.inputCount = 0 then .ok []
  else
    match p.ranks with
    | none => .error (.argument "input_ranks is null")
    | some ranks =>
      let ranks := ranks.take p.inputCount
      let total := ranks.foldl (fun total rank => total + rank.toNat) 0
      -- the counts are added up in 64 bits
      if wordBound ≤ total then .error .internal
      else
        match p.dims with
        | some dims => .ok (splitSizes ranks dims)
        | none =>
          if total = 0 then .ok (splitSizes ranks [])
          else .error (.argument "input_dims is null")

/-- The path of the model, which only a stand-in can do without. -/
def Params.modelPath (p : Params) (path : Option Bytes) : Except Complaint String :=
  match path with
  | some bytes => readText "model path" bytes
  | none => if p.kind = .engine then .error (.argument "model_path is null") else .ok ""

/-- The configuration that a path and parameters stand for. -/
def Params.config (p : Params) (path : Option Bytes) : Except Complaint BackendConfig := do
  let modelPath ← p.modelPath path
  let inputSizes ← p.inputSizes
  return { BackendConfig.new modelPath with
    kind := p.kind
    useGpu := p.useGpu
    batchSize := p.batchSize
    inputSizes := inputSizes
    policy := if p.lenient then .lenient else .strict }

/-! ## Inputs -/

/-- An input of a call. -/
inductive InputBuffer where
  | bytes (data : Bytes)
  /-- No data although a length is given. -/
  | absent (length : Nat)
deriving DecidableEq, Repr

/-- The data of inputs, the first of which has the given index. An absent input of length zero is
empty. -/
def readInputs (index : Nat) : List InputBuffer → Except Complaint (List Bytes)
  | [] => .ok []
  | .bytes data :: rest => do return data :: (← readInputs (index + 1) rest)
  | .absent 0 :: rest => do return [] :: (← readInputs (index + 1) rest)
  | .absent (_ + 1) :: _ => .error (.argument s!"input {index} data is null")

/-- Inputs that are all there are read as they are. -/
theorem readInputs_bytes (index : Nat) (inputs : List Bytes) :
    readInputs index (inputs.map .bytes) = .ok inputs := by
  induction inputs generalizing index with
  | nil => rfl
  | cons data rest ih =>
    rw [List.map_cons, readInputs, ih]
    rfl

end GraphServe.Boundary
