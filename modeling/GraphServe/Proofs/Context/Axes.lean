import GraphServe.Context.AxisSizes
import GraphServe.Proofs.Except

/-!
# What the inputs settle

Once a name has a size it keeps it, and every named axis of an input gets the size that the input
has there (`settled_of_unifyAxes`). So the shapes that the inputs were given are those that their
declarations have under the sizes of the names (`take_eq_of_unifyInputs`), and the outputs' shapes
are made under the same sizes (`eq_under_of_evaluate`).
-/

namespace GraphServe

/-! ## Declarations under an assignment -/

/-- The size of an axis, when every name has a size. -/
def Axis.sizeUnder (assigned : String → UInt64) : Axis → UInt64
  | .fixed size => size
  | .dynamic symbol => assigned symbol

/-- The shape that a declaration evaluates to, when every name has a size. -/
def DeclaredShape.under (d : DeclaredShape) (assigned : String → UInt64) : Shape :=
  ⟨d.axes.map (Axis.sizeUnder assigned)⟩

/-- A shape has the declared rank, no axis of size zero, and the declared size on each fixed
axis. -/
structure Descriptor.Accepts (t : Descriptor) (s : Shape) : Prop where
  rank_eq : s.rank = t.shape.rank
  zero_not_mem : (0 : UInt64) ∉ s.dims
  fixed_eq : ∀ (axis : Nat) (size : UInt64), t.shape.axes[axis]? = some (.fixed size) →
    s.dim? axis = some size

namespace Descriptor.Accepts

variable {t : Descriptor} {s : Shape}

theorem of_check (hcheck : t.shape.check s = .ok ()) (hzero : (0 : UInt64) ∉ s.dims) :
    t.Accepts s := by
  have hadmits := (t.shape.check_eq_ok_iff s).1 hcheck
  rw [DeclaredShape.admits, Bool.and_eq_true, beq_iff_eq, List.all_eq_true] at hadmits
  obtain ⟨hrank, hall⟩ := hadmits
  refine ⟨hrank, hzero, ?_⟩
  intro axis size haxis
  -- the concrete shape has an axis at this place, as the ranks agree
  have hlt : axis < s.dims.length := by
    have hdeclared : axis < t.shape.rank := (List.getElem?_eq_some_iff.1 haxis).1
    rw [← hrank] at hdeclared
    exact hdeclared
  have hpair : (Axis.fixed size, s.dims[axis]) ∈ t.shape.axes.zip s.dims := by
    apply List.mem_of_getElem? (i := axis)
    rw [List.getElem?_zip_eq_some]
    exact ⟨haxis, List.getElem?_eq_getElem hlt⟩
  have hsame := beq_iff_eq.1 (hall _ hpair)
  rw [Shape.dim?, List.getElem?_eq_getElem hlt, hsame]

/-- A shape that is accepted is the declared one under any assignment that agrees with its named
axes. -/
theorem eq_under (h : t.Accepts s) {assigned : String → UInt64}
    (hassigned : ∀ symbol size, (Axis.dynamic symbol, size) ∈ t.shape.axes.zip s.dims →
      assigned symbol = size) : s = t.shape.under assigned := by
  have hdims : s.dims = t.shape.axes.map (Axis.sizeUnder assigned) := by
    apply List.ext_getElem
    · rw [List.length_map]
      exact h.rank_eq
    intro axis hlt hlt'
    rw [List.length_map] at hlt'
    rw [List.getElem_map]
    cases haxis : t.shape.axes[axis] with
    | fixed size =>
      have hfixed := h.fixed_eq axis size (by rw [List.getElem?_eq_getElem hlt', haxis])
      rw [Shape.dim?, List.getElem?_eq_getElem hlt] at hfixed
      exact Option.some.inj hfixed
    | dynamic symbol =>
      refine (hassigned symbol _ ?_).symm
      apply List.mem_of_getElem? (i := axis)
      rw [List.getElem?_zip_eq_some, List.getElem?_eq_getElem hlt', haxis]
      exact ⟨rfl, List.getElem?_eq_getElem hlt⟩
  cases s
  exact congrArg Shape.mk hdims

end Descriptor.Accepts

namespace AxisSizes

/-! ## Names that are settled -/

/-- A name has a size. -/
def Settled (sizes : AxisSizes) (symbol : String) (size : UInt64) : Prop :=
  ∃ known, get? sizes symbol = some known ∧ known.size = size

/-- The sizes of all names, where a name that is not settled has size zero. -/
def assignment (sizes : AxisSizes) (symbol : String) : UInt64 :=
  ((get? sizes symbol).map AxisSize.size).getD 0

variable {sizes sizes' : AxisSizes} {symbol : String} {size : UInt64}

theorem Settled.assignment_eq (h : Settled sizes symbol size) : assignment sizes symbol = size := by
  obtain ⟨known, hknown, rfl⟩ := h
  rw [assignment, hknown]
  rfl

theorem Settled.append (h : Settled sizes symbol size) (more : AxisSizes) :
    Settled (sizes ++ more) symbol size := by
  obtain ⟨known, hknown, hsize⟩ := h
  refine ⟨known, ?_, hsize⟩
  rw [get?] at hknown
  rw [get?, List.find?_append, hknown]
  rfl

/-- A name without a size gets one at the end. -/
theorem settled_append_self (h : get? sizes symbol = none) (size : UInt64) (source : String) :
    Settled (sizes ++ [⟨symbol, size, source⟩]) symbol size := by
  refine ⟨⟨symbol, size, source⟩, ?_, rfl⟩
  rw [get?] at h
  rw [get?, List.find?_append, h]
  simp

/-- Settling the axes of a tensor keeps the sizes there are, and settles each named axis. -/
theorem settled_of_unifyAxes {tensor : String} {axes : List (Axis × UInt64)}
    (h : unifyAxes tensor sizes axes = .ok sizes')
    (hsettled : Settled sizes symbol size ∨ (Axis.dynamic symbol, size) ∈ axes) :
    Settled sizes' symbol size := by
  induction axes generalizing sizes with
  | nil =>
    cases h
    exact hsettled.resolve_right List.not_mem_nil
  | cons axis rest ih =>
    rcases axis with ⟨a, n⟩
    cases a with
    | fixed declared =>
      apply ih h
      rcases hsettled with hsettled | hmem
      · exact Or.inl hsettled
      · exact Or.inr (List.mem_of_ne_of_mem (by simp) hmem)
    | dynamic name =>
      rw [unifyAxes] at h
      cases hknown : get? sizes name with
      | none =>
        simp only [hknown] at h
        apply ih h
        rcases hsettled with hsettled | hmem
        · exact Or.inl (hsettled.append _)
        · rcases List.mem_cons.1 hmem with heq | hmem
          · cases heq
            exact Or.inl (settled_append_self hknown size tensor)
          · exact Or.inr hmem
      | some known =>
        simp only [hknown] at h
        -- a name that is known already must have the size that the axis has
        by_cases hsame : known.size = n
        · rw [if_pos hsame] at h
          apply ih h
          rcases hsettled with hsettled | hmem
          · exact Or.inl hsettled
          · rcases List.mem_cons.1 hmem with heq | hmem
            · cases heq
              exact Or.inl ⟨known, hknown, hsame⟩
            · exact Or.inr hmem
        · rw [if_neg hsame] at h
          cases h

/-- Settling the inputs keeps the sizes there are. -/
theorem settled_of_unifyInputs {inputs : List Descriptor} {slots : List (Option Shape)}
    (h : unifyInputs sizes inputs slots = .ok sizes') (hsettled : Settled sizes symbol size) :
    Settled sizes' symbol size := by
  induction inputs generalizing sizes slots with
  | nil =>
    cases h
    exact hsettled
  | cons t rest ih =>
    cases slots with
    | nil =>
      cases h
      exact hsettled
    | cons slot slots =>
      cases slot with
      | none => cases h
      | some s =>
        obtain ⟨known, hfirst, h⟩ := bind_eq_ok_iff.1 h
        exact ih h (settled_of_unifyAxes hfirst (Or.inl hsettled))

/-- Inputs with shapes that they accept have the declared shapes under the sizes that were
settled. -/
theorem take_eq_of_unifyInputs {inputs : List Descriptor} {slots : List (Option Shape)}
    (h : unifyInputs sizes inputs slots = .ok sizes') (hroom : inputs.length ≤ slots.length)
    (haccepts : ∀ (ordinal : Nat) (t : Descriptor) (s : Shape), inputs[ordinal]? = some t →
      slots[ordinal]? = some (some s) → t.Accepts s) :
    slots.take inputs.length =
      inputs.map fun t => some (t.shape.under (assignment sizes')) := by
  induction inputs generalizing sizes slots with
  | nil => rfl
  | cons t rest ih =>
    cases slots with
    | nil => simp at hroom
    | cons slot slots =>
      cases slot with
      | none => cases h
      | some s =>
        obtain ⟨known, hfirst, h⟩ := bind_eq_ok_iff.1 h
        have hs : s = t.shape.under (assignment sizes') := by
          apply (haccepts 0 t s rfl rfl).eq_under
          intro symbol size hmem
          -- what this input settles stays settled while the later ones are looked at
          have hsettled := settled_of_unifyAxes hfirst (Or.inr hmem)
          exact (settled_of_unifyInputs h hsettled).assignment_eq
        have hrest := ih h (by simpa using hroom) fun ordinal => haccepts (ordinal + 1)
        rw [List.length_cons, List.take_succ_cons, hrest, List.map_cons, ← hs]

theorem eq_sizeUnder_of_axisSize {tensor : String} {axis : Axis}
    (h : axisSize sizes tensor axis = .ok size) : size = axis.sizeUnder (assignment sizes) := by
  cases axis with
  | fixed declared =>
    cases h
    rfl
  | dynamic symbol =>
    rw [axisSize] at h
    split at h
    · next known hknown =>
      cases h
      exact (Settled.assignment_eq ⟨known, hknown, rfl⟩).symm
    · cases h

/-- A shape that is made of the sizes of names is the declared one under those sizes. -/
theorem eq_under_of_evaluate {t : Descriptor} {s : Shape} (h : evaluate sizes t = .ok s) :
    s = t.shape.under (assignment sizes) := by
  obtain ⟨dims, hdims, h⟩ := bind_eq_ok_iff.1 h
  cases h
  have heach : ∀ a size, axisSize sizes t.name a = .ok size →
      size = a.sizeUnder (assignment sizes) := fun a size => eq_sizeUnder_of_axisSize
  rw [eq_map_of_mapM_eq_ok heach hdims, DeclaredShape.under]

end AxisSizes

end GraphServe
