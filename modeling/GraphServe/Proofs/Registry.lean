import GraphServe.Registry
import Mathlib.Data.List.Basic

/-!
# Classified tensors

A registry is refused for the first name that comes up again, or else for the want of an output.
Otherwise it holds every tensor of the file once, the inputs before the outputs and each of the two
in file order, and finds a tensor by its name exactly where it stands (`ofTensors_classifies`).
-/

namespace GraphServe

/-- The first item that repeats an earlier one stands behind items that all differ. -/
theorem split_of_firstRepeated? {α : Type} [DecidableEq α] {seen items : List α} {a : α}
    (h : firstRepeated? seen items = some a) :
    ∃ before after, items = before ++ a :: after ∧ before.Nodup ∧ (∀ b ∈ before, b ∉ seen) ∧
      (a ∈ seen ∨ a ∈ before) := by
  -- on the items; what was passed moves from the items to what was seen
  induction items generalizing seen with
  | nil => cases h
  | cons first rest ih =>
    rw [firstRepeated?] at h
    split at h
    · next hseen =>
      cases h
      exact ⟨[], rest, rfl, List.nodup_nil, by simp, Or.inl hseen⟩
    · next hfresh =>
      obtain ⟨before, after, rfl, hnodup, hunseen, hrepeats⟩ := ih h
      refine ⟨first :: before, after, rfl, ?_, ?_, ?_⟩
      · rw [List.nodup_cons]
        refine ⟨?_, hnodup⟩
        intro hmem
        exact hunseen first hmem List.mem_cons_self
      · intro b hb
        rcases List.mem_cons.1 hb with rfl | hb
        · exact hfresh
        · intro hseen
          exact hunseen b hb (List.mem_cons_of_mem _ hseen)
      · rcases hrepeats with hseen | hmem
        · rcases List.mem_cons.1 hseen with rfl | hseen
          · exact Or.inr List.mem_cons_self
          · exact Or.inl hseen
        · exact Or.inr (List.mem_cons_of_mem _ hmem)

/-- Nothing repeats exactly if all items differ. -/
theorem firstRepeated?_eq_none_iff {α : Type} [DecidableEq α] {items : List α} :
    firstRepeated? [] items = none ↔ items.Nodup := by
  constructor
  · intro h
    exact (nodup_of_firstRepeated? h).1
  · intro hnodup
    cases h : firstRepeated? [] items with
    | none => rfl
    | some a =>
      obtain ⟨before, after, rfl, -, -, hrepeats⟩ := split_of_firstRepeated? h
      rcases hrepeats with hseen | hmem
      · cases hseen
      · have hfresh := (List.nodup_cons.1 (List.perm_middle.nodup_iff.1 hnodup)).1
        exact absurd (List.mem_append_left after hmem) hfresh

namespace Registry

variable {r : Registry}

/-! ## Binding order -/

theorem size_eq (r : Registry) : r.size = r.inputCount + r.outputs.length := List.length_append

theorem inputCount_le_size (r : Registry) : r.inputCount ≤ r.size := by
  rw [size_eq]
  exact Nat.le_add_right _ _

/-- The inputs come first in binding order. -/
theorem get?_of_inputs {ordinal : Nat} {t : Descriptor} (h : r.inputs[ordinal]? = some t) :
    r.get? ordinal = some t := by
  have hlt : ordinal < r.inputs.length := (List.getElem?_eq_some_iff.1 h).1
  rw [get?, all, List.getElem?_append_left hlt, h]

/-- The tensor with a name is the one that has it. -/
theorem ordinal?_of_get? {ordinal : Nat} {t : Descriptor}
    (h : r.get? ordinal = some t) : r.ordinal? t.name = some ordinal := by
  obtain ⟨hlt, ht⟩ := List.getElem?_eq_some_iff.1 h
  rw [ordinal?, List.findIdx?_eq_some_iff_getElem]
  refine ⟨hlt, by rw [ht, beq_self_eq_true], ?_⟩
  intro earlier hearlier hsame
  have hnames : r.all.Pairwise fun a b => a.name ≠ b.name := List.pairwise_map.1 r.names_nodup
  apply List.pairwise_iff_getElem.1 hnames earlier ordinal (Nat.lt_trans hearlier hlt) hlt hearlier
  rw [eq_of_beq hsame, ht]

/-- A name that is found is that of the tensor it is found at. -/
theorem exists_get?_of_ordinal? {name : String} {ordinal : Nat}
    (h : r.ordinal? name = some ordinal) : ∃ t, r.get? ordinal = some t ∧ t.name = name := by
  obtain ⟨hlt, hname, -⟩ := List.findIdx?_eq_some_iff_getElem.1 h
  exact ⟨r.all[ordinal], List.getElem?_eq_getElem hlt, eq_of_beq hname⟩

/-- A name is not found exactly if no tensor has it. -/
theorem ordinal?_eq_none_iff {name : String} :
    r.ordinal? name = none ↔ ∀ t ∈ r.all, t.name ≠ name := by
  rw [ordinal?, List.findIdx?_eq_none_iff]
  simp

/-! ## Tensors in file order -/

/-- A registry that holds the tensors of a file, inputs first, and knows each by its name. -/
structure Classifies (tensors : List Descriptor) (r : Registry) : Prop where
  perm : r.all.Perm tensors
  inputs_eq : r.inputs = tensors.filter (·.direction = .input)
  outputs_eq : r.outputs = tensors.filter (·.direction = .output)
  take_all : r.all.take r.inputCount = r.inputs
  drop_all : r.all.drop r.inputCount = r.outputs
  count_add : r.inputCount + r.outputCount = r.size
  size_eq : r.size = tensors.length
  /-- What stands at an ordinal and which ordinal a name has are inverse to each other. -/
  ordinal_iff : ∀ t ∈ tensors, ∀ ordinal, r.ordinal? t.name = some ordinal ↔ r.get? ordinal = some t
  named : ∀ name ordinal, r.ordinal? name = some ordinal ↔
    ∃ t, r.get? ordinal = some t ∧ t.name = name
  absent : ∀ name, r.ordinal? name = none ↔ ∀ t ∈ tensors, t.name ≠ name

/-- A registry with the tensors of a file, each kind in file order, classifies them. -/
theorem classifies_of_filter {tensors : List Descriptor}
    (hinputs : r.inputs = tensors.filter Descriptor.isInput)
    (houtputs : r.outputs = tensors.filter (!·.isInput)) : Classifies tensors r := by
  have hperm : r.all.Perm tensors := by
    rw [all, hinputs, houtputs]
    exact List.filter_append_perm Descriptor.isInput tensors
  have hnamed : ∀ name ordinal, r.ordinal? name = some ordinal ↔
      ∃ t, r.get? ordinal = some t ∧ t.name = name := by
    intro name ordinal
    constructor
    · exact exists_get?_of_ordinal?
    · rintro ⟨t, ht, rfl⟩
      exact ordinal?_of_get? ht
  refine ⟨hperm, hinputs, ?_, List.take_left' rfl, List.drop_left' rfl, ?_, hperm.length_eq, ?_,
    hnamed, ?_⟩
  · rw [houtputs]
    apply List.filter_congr
    intro t _
    cases hdirection : t.direction with
    | input => simp [Descriptor.isInput, hdirection]
    | output => simp [Descriptor.isInput, hdirection]
  · rw [Registry.size_eq]
    rfl
  · intro t ht ordinal
    constructor
    · intro hfound
      obtain ⟨i, hi⟩ := List.getElem?_of_mem (hperm.mem_iff.2 ht)
      -- the tensor itself stands somewhere, and its name is found there and nowhere else
      obtain rfl : i = ordinal :=
        Option.some.inj ((ordinal?_of_get? (r := r) hi).symm.trans hfound)
      exact hi
    · exact ordinal?_of_get?
  · intro name
    rw [ordinal?_eq_none_iff]
    constructor
    · intro h t ht
      exact h t (hperm.mem_iff.2 ht)
    · intro h t ht
      exact h t (hperm.mem_iff.1 ht)

/-- Tensors of which one is written leave something when the inputs are taken away. -/
theorem filter_eq_nil_iff_forall_input {tensors : List Descriptor} :
    tensors.filter (!·.isInput) = [] ↔ ∀ t ∈ tensors, t.direction = .input := by
  simp [List.filter_eq_nil_iff, Descriptor.isInput]

/-- What becomes of the tensors of a file: if a name comes up again, the first that does is told,
outputs or none; else, if no tensor is an output, that is told; else there is a registry, which
classifies the tensors. -/
theorem ofTensors_classifies (tensors : List Descriptor) :
    (¬ (tensors.map Descriptor.name).Nodup → ∃ before t after, tensors = before ++ t :: after ∧
      (before.map Descriptor.name).Nodup ∧ t.name ∈ before.map Descriptor.name ∧
      ofTensors tensors = .error (.graphLoad s!"duplicate tensor name '{t.name}'")) ∧
    ((tensors.map Descriptor.name).Nodup → (∀ t ∈ tensors, t.direction = .input) →
      ofTensors tensors = .error (.graphLoad "graph declares no output tensors")) ∧
    ((tensors.map Descriptor.name).Nodup → (∃ t ∈ tensors, t.direction = .output) →
      ∃ r, ofTensors tensors = .ok r ∧ Classifies tensors r) := by
  refine ⟨?_, ?_, ?_⟩
  · intro hrepeats
    rw [ofTensors]
    split
    · next name hfirst =>
      obtain ⟨before, after, hsplit, hnodup, -, hmem⟩ := split_of_firstRepeated? hfirst
      obtain ⟨earlier, later, rfl, rfl, hlater⟩ := List.map_eq_append_iff.1 hsplit
      obtain ⟨t, rest, rfl, rfl, rfl⟩ := List.map_eq_cons_iff.1 hlater
      exact ⟨earlier, t, rest, rfl, hnodup, hmem.resolve_left (by simp), rfl⟩
    · next hnone => exact absurd (firstRepeated?_eq_none_iff.1 hnone) hrepeats
  · intro hnodup hread
    rw [ofTensors]
    split
    · next name hfirst =>
      rw [firstRepeated?_eq_none_iff.2 hnodup] at hfirst
      cases hfirst
    · rw [dif_pos (filter_eq_nil_iff_forall_input.2 hread)]
  · rintro hnodup ⟨t, ht, hwritten⟩
    have hsome : ¬ tensors.filter (!·.isInput) = [] := by
      intro hnil
      have hread := filter_eq_nil_iff_forall_input.1 hnil t ht
      rw [hwritten] at hread
      cases hread
    rw [ofTensors]
    split
    · next name hfirst =>
      rw [firstRepeated?_eq_none_iff.2 hnodup] at hfirst
      cases hfirst
    · rw [dif_neg hsome]
      exact ⟨_, rfl, classifies_of_filter rfl rfl⟩

/-- Outputs and inputs that alternate in the file: the inputs are bound first, and each tensor is
found by its name. -/
theorem ofTensors_classifies_alternating :
    let scalar : DeclaredShape := ⟨[], by decide⟩
    let tensors : List Descriptor := [⟨"p", .output, .f32, scalar⟩, ⟨"a", .input, .f32, scalar⟩,
      ⟨"q", .output, .i64, scalar⟩, ⟨"b", .input, .bool, scalar⟩]
    (tensors.map Descriptor.name).Nodup ∧ (∃ t ∈ tensors, t.direction = .output) ∧
      ∃ r, ofTensors tensors = .ok r ∧ Classifies tensors r ∧
        r.all.map Descriptor.name = ["a", "b", "p", "q"] ∧ r.ordinal? "q" = some 3 := by
  intro scalar tensors
  have hnodup : (tensors.map Descriptor.name).Nodup := by decide
  have hwritten : ∃ t ∈ tensors, t.direction = .output := by decide
  obtain ⟨r, hr, hclassifies⟩ := (ofTensors_classifies tensors).2.2 hnodup hwritten
  have hall : r.all =
      tensors.filter (·.direction = .input) ++ tensors.filter (·.direction = .output) := by
    rw [all, hclassifies.inputs_eq, hclassifies.outputs_eq]
  refine ⟨hnodup, hwritten, r, hr, hclassifies, ?_, ?_⟩
  · rw [hall]
    decide
  · rw [ordinal?, hall]
    decide

end Registry

end GraphServe
