import GraphServe.Tensor.Descriptor

/-!
# Tensor registry

A registry holds a graph's tensors in binding order: the inputs in file order, then the outputs in
file order. The position of a tensor is its ordinal, which also indexes buffers and shapes. The
inputs are read and the outputs written, names are unique, and there is an output, which the type
records.
-/

namespace GraphServe

/-- The first item that is equal to an earlier one. -/
def firstRepeated? [DecidableEq α] (seen : List α) : List α → Option α
  | [] => none
  | a :: rest => if a ∈ seen then some a else firstRepeated? (a :: seen) rest

theorem nodup_of_firstRepeated? [DecidableEq α] {seen items : List α}
    (h : firstRepeated? seen items = none) : items.Nodup ∧ ∀ a ∈ items, a ∉ seen := by
  induction items generalizing seen with
  | nil => simp
  | cons a rest ih =>
    rw [firstRepeated?] at h
    split at h
    · cases h
    · obtain ⟨nodup, fresh⟩ := ih h
      refine ⟨List.nodup_cons.2 ⟨fun member => ?_, nodup⟩, fun b member => ?_⟩
      · exact fresh a member (List.mem_cons_self ..)
      · rcases List.mem_cons.1 member with rfl | member
        · assumption
        · exact fun earlier => fresh b member (List.mem_cons_of_mem _ earlier)

/-- The tensors of a graph, inputs first. -/
structure Registry where
  inputs : List Descriptor
  outputs : List Descriptor
  read_of_mem_inputs : ∀ t ∈ inputs, t.direction = .input
  written_of_mem_outputs : ∀ t ∈ outputs, t.direction = .output
  names_nodup : ((inputs ++ outputs).map Descriptor.name).Nodup
  outputs_ne_nil : outputs ≠ []

namespace Registry

/-- Every tensor, in binding order. -/
def all (r : Registry) : List Descriptor := r.inputs ++ r.outputs

/-- The number of inputs. -/
def inputCount (r : Registry) : Nat := r.inputs.length

/-- The number of outputs. -/
def outputCount (r : Registry) : Nat := r.outputs.length

/-- The number of tensors. -/
def size (r : Registry) : Nat := r.all.length

/-- The tensor with an ordinal. -/
def get? (r : Registry) (ordinal : Nat) : Option Descriptor := r.all[ordinal]?

/-- The ordinal of the tensor with a name. -/
def ordinal? (r : Registry) (name : String) : Option Nat := r.all.findIdx? (·.name == name)

/-- Whether some input has a named axis. -/
def hasDynamicInputs (r : Registry) : Bool := r.inputs.any (·.shape.isDynamic)

theorem names_nodup_partition {tensors : List Descriptor}
    (h : (tensors.map Descriptor.name).Nodup) :
    ((tensors.filter Descriptor.isInput ++ tensors.filter (!·.isInput)).map
      Descriptor.name).Nodup :=
  ((List.filter_append_perm Descriptor.isInput tensors).map Descriptor.name).nodup_iff.2 h

theorem read_of_mem_filter {tensors : List Descriptor} :
    ∀ t ∈ tensors.filter Descriptor.isInput, t.direction = .input := by
  intro t member
  simpa [Descriptor.isInput] using (List.mem_filter.1 member).2

theorem written_of_mem_filter {tensors : List Descriptor} :
    ∀ t ∈ tensors.filter (!·.isInput), t.direction = .output := by
  intro t member
  have other := (List.mem_filter.1 member).2
  cases direction : t.direction with
  | input => simp [Descriptor.isInput, direction] at other
  | output => rfl

/-- Classifies tensors given in file order. A repeated name is reported before a missing output. -/
def ofTensors (tensors : List Descriptor) : Except EngineError Registry :=
  match h : firstRepeated? [] (tensors.map Descriptor.name) with
  | some name => .error (.graphLoad s!"duplicate tensor name '{name}'")
  | none =>
    if outputs_ne_nil : tensors.filter (!·.isInput) = [] then
      .error (.graphLoad "graph declares no output tensors")
    else
      .ok ⟨tensors.filter Descriptor.isInput, tensors.filter (!·.isInput), read_of_mem_filter,
        written_of_mem_filter, names_nodup_partition (nodup_of_firstRepeated? h).1, outputs_ne_nil⟩

end Registry

end GraphServe
