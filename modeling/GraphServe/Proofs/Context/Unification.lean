import GraphServe.Proofs.Context.Shapes
import GraphServe.Proofs.Lists

/-!
# Unification of named axes

While the inputs are gone through in order, the table of sizes says of every name what the first
axis of that name said, and all axes met so far agree (`unifyAxes_cases`, `unifyInputs_cases`). So
the outputs of a context can be derived exactly if all inputs are set, all axes of one name agree,
and every name in an output occurs in an input, none of which speaks of an order
(`resolveOutputs_unifies`). A refusal names what was met first (`Fault`).
-/

namespace GraphServe

namespace AxisSizes

variable {sizes met : List AxisSize} {symbol tensor : String} {a known : AxisSize}

/-! ## Named axes -/

/-- The named axes among axes with sizes, in order, each with the tensor that carries it. -/
def named (tensor : String) (axes : List (Axis × UInt64)) : List AxisSize :=
  axes.filterMap fun
    | (.fixed _, _) => none
    | (.dynamic symbol, size) => some ⟨symbol, size, tensor⟩

/-- The named axes of tensors that have shapes, in order. -/
def namedOf (shaped : List (Descriptor × Shape)) : List AxisSize :=
  shaped.flatMap fun p => named p.1.name (p.1.shape.axes.zip p.2.dims)

theorem mem_named_iff {axes : List (Axis × UInt64)} :
    a ∈ named tensor axes ↔ (Axis.dynamic a.symbol, a.size) ∈ axes ∧ a.source = tensor := by
  rw [named, List.mem_filterMap]
  constructor
  · rintro ⟨⟨axis, size⟩, hmem, hsome⟩
    cases axis with
    | fixed n => cases hsome
    | dynamic symbol =>
      cases hsome
      exact ⟨hmem, rfl⟩
  · rintro ⟨hmem, rfl⟩
    exact ⟨_, hmem, rfl⟩

/-- All axes of one name have one size. -/
def Consistent (met : List AxisSize) : Prop :=
  ∀ a ∈ met, ∀ b ∈ met, a.symbol = b.symbol → a.size = b.size

/-- The table says of every name what the first axis of that name said. -/
def Recorded (sizes : AxisSizes) (met : List AxisSize) : Prop :=
  ∀ symbol, get? sizes symbol = get? met symbol

theorem mem_of_get? (h : get? met symbol = some known) : known ∈ met :=
  List.mem_of_find?_eq_some h

theorem symbol_of_get? (h : get? met symbol = some known) : known.symbol = symbol := by
  simpa using List.find?_some h

theorem get?_eq_none_iff : get? met symbol = none ↔ ∀ a ∈ met, a.symbol ≠ symbol := by
  rw [get?, List.find?_eq_none]
  simp only [beq_iff_eq, ne_eq]

theorem get?_append (more : List AxisSize) :
    get? (met ++ more) symbol = (get? met symbol).or (get? more symbol) :=
  List.find?_append

/-! ## One more axis -/

/-- One more axis agrees with all if it agrees with those of its name. -/
theorem Consistent.snoc (hagree : Consistent met)
    (hsizes : ∀ b ∈ met, b.symbol = a.symbol → b.size = a.size) : Consistent (met ++ [a]) := by
  intro b hb b' hb' hsame
  rw [List.mem_append, List.mem_singleton] at hb hb'
  rcases hb with hb | rfl
  · rcases hb' with hb' | rfl
    · exact hagree b hb b' hb' hsame
    · exact hsizes b hb hsame
  · rcases hb' with hb' | rfl
    · exact (hsizes b' hb' hsame.symm).symm
    · rfl

/-- A name that is new is recorded and agrees with all that was met. -/
theorem recorded_of_new (hrecorded : Recorded sizes met) (hagree : Consistent met)
    (hnew : get? sizes a.symbol = none) :
    Recorded (sizes ++ [a]) (met ++ [a]) ∧ Consistent (met ++ [a]) := by
  constructor
  · intro symbol
    rw [get?_append, get?_append, hrecorded symbol]
  · rw [hrecorded, get?_eq_none_iff] at hnew
    exact hagree.snoc fun b hb hsame => absurd hsame (hnew b hb)

/-- A name that is known with the same size changes nothing. -/
theorem recorded_of_known (hrecorded : Recorded sizes met) (hagree : Consistent met)
    (hknown : get? sizes a.symbol = some known) (hsize : known.size = a.size) :
    Recorded sizes (met ++ [a]) ∧ Consistent (met ++ [a]) := by
  rw [hrecorded] at hknown
  constructor
  · intro symbol
    rw [get?_append, hrecorded symbol]
    by_cases hsame : a.symbol = symbol
    · rw [← hsame, hknown]
      rfl
    · have hnone : get? [a] symbol = none := by
        rw [get?_eq_none_iff]
        simpa using hsame
      rw [hnone, Option.or_none]
  · -- every axis of this name has the size that the first one had
    apply hagree.snoc
    intro b hb hsame
    have hsymbol := symbol_of_get? hknown
    rw [hagree b hb known (mem_of_get? hknown) (hsame.trans hsymbol.symm), hsize]

/-! ## Tensors and inputs -/

/-- An axis has another size than the first axis of its name. -/
def clash (tensor : String) (a known : AxisSize) : EngineError :=
  .invalidShape tensor
    s!"axis '{a.symbol}' is {a.size} here but {known.size} in '{known.source}'"

/-- The axes of a tensor are all taken in, or one is refused that has another size than the first
axis of its name. -/
theorem unifyAxes_cases (axes : List (Axis × UInt64)) (hrecorded : Recorded sizes met)
    (hagree : Consistent met) :
    (∃ sizes', unifyAxes tensor sizes axes = .ok sizes' ∧
        Recorded sizes' (met ++ named tensor axes) ∧ Consistent (met ++ named tensor axes)) ∨
      ∃ before a after known, named tensor axes = before ++ a :: after ∧
        Consistent (met ++ before) ∧ get? (met ++ before) a.symbol = some known ∧
        known.size ≠ a.size ∧ unifyAxes tensor sizes axes = .error (clash tensor a known) := by
  induction axes generalizing sizes met with
  | nil =>
    left
    refine ⟨sizes, rfl, ?_⟩
    rw [named, List.filterMap_nil, List.append_nil]
    exact ⟨hrecorded, hagree⟩
  | cons axis rest ih =>
    rcases axis with ⟨⟨n⟩ | ⟨symbol⟩, size⟩
    · exact ih hrecorded hagree
    · have hcons : named tensor ((Axis.dynamic symbol, size) :: rest) =
          [⟨symbol, size, tensor⟩] ++ named tensor rest := rfl
      rw [hcons, unifyAxes]
      cases hget : get? sizes symbol with
      | none =>
        obtain ⟨hrecorded', hagree'⟩ :=
          recorded_of_new (a := ⟨symbol, size, tensor⟩) hrecorded hagree hget
        rcases ih hrecorded' hagree' with hdone | ⟨before, a, after, known, hsplit, hrefused⟩
        · left
          rwa [List.append_assoc] at hdone
        · right
          refine ⟨[⟨symbol, size, tensor⟩] ++ before, a, after, known, ?_, ?_⟩
          · rw [hsplit, List.append_assoc]
          · rwa [← List.append_assoc]
      | some known =>
        by_cases hsize : known.size = size
        · obtain ⟨hrecorded', hagree'⟩ :=
            recorded_of_known (a := ⟨symbol, size, tensor⟩) hrecorded hagree hget hsize
          simp only [if_pos hsize]
          rcases ih hrecorded' hagree' with hdone | ⟨before, a, after, known', hsplit, hrefused⟩
          · left
            rwa [List.append_assoc] at hdone
          · right
            refine ⟨[⟨symbol, size, tensor⟩] ++ before, a, after, known', ?_, ?_⟩
            · rw [hsplit, List.append_assoc]
            · rwa [← List.append_assoc]
        · right
          refine ⟨[], ⟨symbol, size, tensor⟩, named tensor rest, known, rfl, ?_, ?_, hsize, ?_⟩
          · rwa [List.append_nil]
          · rw [List.append_nil, ← hrecorded, hget]
          · exact if_neg hsize

/-- What the first refusal among inputs can be, when the axes `met` were met before: an input that
was not set, with no clash before it, or an axis that clashes, with all inputs before it set and no
clash before it. -/
inductive Refused (met : List AxisSize) :
    List Descriptor → List (Option Shape) → EngineError → Prop
  | unset (earlier : List (Descriptor × Shape)) (t : Descriptor) (later : List Descriptor)
    (slots : List (Option Shape)) (hagree : Consistent (met ++ namedOf earlier)) :
    Refused met (earlier.map Prod.fst ++ t :: later)
      (earlier.map (fun p => some p.2) ++ none :: slots)
      (.shapeUnresolved t.name "input shape was never set")
  | clash (earlier : List (Descriptor × Shape)) (t : Descriptor) (s : Shape)
    (later : List Descriptor) (slots : List (Option Shape)) (before after : List AxisSize)
    (a known : AxisSize)
    (haxes : named t.name (t.shape.axes.zip s.dims) = before ++ a :: after)
    (hagree : Consistent (met ++ namedOf earlier ++ before))
    (hknown : get? (met ++ namedOf earlier ++ before) a.symbol = some known)
    (hsize : known.size ≠ a.size) :
    Refused met (earlier.map Prod.fst ++ t :: later)
      (earlier.map (fun p => some p.2) ++ some s :: slots) (AxisSizes.clash t.name a known)

/-- An input that is taken in stands before whatever is refused. -/
theorem Refused.cons {t : Descriptor} {s : Shape} {inputs : List Descriptor}
    {slots : List (Option Shape)} {e : EngineError}
    (h : Refused (met ++ named t.name (t.shape.axes.zip s.dims)) inputs slots e) :
    Refused met (t :: inputs) (some s :: slots) e := by
  have hnamed : ∀ earlier, met ++ named t.name (t.shape.axes.zip s.dims) ++ namedOf earlier =
      met ++ namedOf ((t, s) :: earlier) := by
    intro earlier
    rw [List.append_assoc]
    rfl
  cases h with
  | unset earlier u later slots hagree =>
    rw [hnamed] at hagree
    exact .unset ((t, s) :: earlier) u later slots hagree
  | clash earlier u s' later slots before after a known haxes hagree hknown hsize =>
    rw [hnamed] at hagree hknown
    exact .clash ((t, s) :: earlier) u s' later slots before after a known haxes hagree hknown hsize

/-- All inputs are set and taken in, or what was met first is refused. -/
theorem unifyInputs_cases {inputs : List Descriptor} {slots : List (Option Shape)}
    (hroom : inputs.length ≤ slots.length) (hrecorded : Recorded sizes met)
    (hagree : Consistent met) :
    (∃ sizes' given, unifyInputs sizes inputs slots = .ok sizes' ∧
        slots.take inputs.length = given.map some ∧
        Recorded sizes' (met ++ namedOf (inputs.zip given)) ∧
        Consistent (met ++ namedOf (inputs.zip given))) ∨
      ∃ e, unifyInputs sizes inputs slots = .error e ∧ Refused met inputs slots e := by
  induction inputs generalizing sizes met slots with
  | nil =>
    left
    refine ⟨sizes, [], rfl, rfl, ?_⟩
    rw [List.zip_nil_left, namedOf, List.flatMap_nil, List.append_nil]
    exact ⟨hrecorded, hagree⟩
  | cons t rest ih =>
    cases slots with
    | nil => simp at hroom
    | cons slot slots =>
      have hroom' : rest.length ≤ slots.length := Nat.le_of_succ_le_succ hroom
      cases slot with
      | none =>
        right
        refine ⟨_, rfl, .unset [] t rest slots ?_⟩
        rwa [namedOf, List.flatMap_nil, List.append_nil]
      | some s =>
        rw [unifyInputs]
        rcases unifyAxes_cases (t.shape.axes.zip s.dims) hrecorded hagree with
          ⟨sizes', hfirst, hrecorded', hagree'⟩ |
          ⟨before, a, after, known, hsplit, hbefore, hknown, hsize, hfirst⟩
        · rw [hfirst, ok_bind]
          rcases ih hroom' hrecorded' hagree' with
            ⟨sizes'', given, hrest, hslots, hmet⟩ | ⟨e, hrest, hrefused⟩
          · left
            refine ⟨sizes'', s :: given, hrest, ?_, ?_⟩
            · rw [List.length_cons, List.take_succ_cons, hslots, List.map_cons]
            · rwa [List.append_assoc] at hmet
          · exact Or.inr ⟨e, hrest, hrefused.cons⟩
        · right
          refine ⟨_, by rw [hfirst]; rfl, .clash [] t s rest slots before after a known hsplit ?_ ?_
            hsize⟩
          · rwa [namedOf, List.flatMap_nil, List.append_nil]
          · rwa [namedOf, List.flatMap_nil, List.append_nil]

/-! ## Outputs -/

/-- A name in an output has no size. -/
def undetermined (tensor symbol : String) : EngineError :=
  .shapeUnresolved tensor s!"axis '{symbol}' is not determined by any input"

/-- Only a name without a size has no size to tell. -/
theorem axisSize_cases (sizes : AxisSizes) (tensor : String) (axis : Axis) :
    ((∃ size, axisSize sizes tensor axis = .ok size) ∧
        ∀ symbol, axis = .dynamic symbol → get? sizes symbol ≠ none) ∨
      ∃ symbol, axis = .dynamic symbol ∧ get? sizes symbol = none ∧
        axisSize sizes tensor axis = .error (undetermined tensor symbol) := by
  cases axis with
  | fixed size =>
    left
    refine ⟨⟨size, rfl⟩, ?_⟩
    intro symbol haxis
    cases haxis
  | dynamic symbol =>
    rw [axisSize]
    cases hget : get? sizes symbol with
    | none => exact Or.inr ⟨symbol, rfl, hget, rfl⟩
    | some known =>
      left
      refine ⟨⟨known.size, rfl⟩, ?_⟩
      intro name haxis
      cases haxis
      rw [hget]
      exact Option.some_ne_none known

theorem get?_ne_none_of_axisSize {axis : Axis} {size : UInt64}
    (h : axisSize sizes tensor axis = .ok size) (haxis : axis = .dynamic symbol) :
    get? sizes symbol ≠ none := by
  rcases axisSize_cases sizes tensor axis with
    ⟨-, hknown⟩ | ⟨name, -, -, hrefused⟩
  · exact hknown symbol haxis
  · rw [hrefused] at h
    cases h

/-- A shape can be told if every name in it has a size. -/
theorem get?_ne_none_of_evaluate {t : Descriptor} {s : Shape} (h : evaluate sizes t = .ok s)
    (haxis : Axis.dynamic symbol ∈ t.shape.axes) : get? sizes symbol ≠ none := by
  obtain ⟨dims, hdims, -⟩ := bind_eq_ok_iff.1 h
  obtain ⟨size, hsize⟩ := exists_of_mem_of_mapM_eq_ok hdims haxis
  exact get?_ne_none_of_axisSize hsize rfl

/-- A shape that cannot be told is refused for its first name without a size. -/
theorem split_of_evaluate_eq_error {t : Descriptor} {e : EngineError}
    (h : evaluate sizes t = .error e) : ∃ before symbol after,
      t.shape.axes = before ++ .dynamic symbol :: after ∧
      (∀ name, Axis.dynamic name ∈ before → get? sizes name ≠ none) ∧
      get? sizes symbol = none ∧ e = undetermined t.name symbol := by
  rcases bind_eq_error_iff.1 h with hrow | ⟨dims, -, h⟩
  · obtain ⟨before, axis, after, hsplit, hbefore, hrefused⟩ := split_of_mapM_eq_error hrow
    rcases axisSize_cases sizes t.name axis with
      ⟨⟨size, hsize⟩, -⟩ | ⟨symbol, rfl, hnone, herror⟩
    · rw [hsize] at hrefused
      cases hrefused
    · rw [herror] at hrefused
      cases hrefused
      refine ⟨before, symbol, after, hsplit, ?_, hnone, rfl⟩
      intro name hname
      obtain ⟨size, hsize⟩ := hbefore _ hname
      exact get?_ne_none_of_axisSize hsize rfl
  · cases h

end AxisSizes

/-- No axis has size zero under sizes that are not zero. -/
theorem DeclaredShape.zero_not_mem_under {d : DeclaredShape} {assigned : String → UInt64}
    (h : ∀ symbol, Axis.dynamic symbol ∈ d.axes → assigned symbol ≠ 0) :
    (0 : UInt64) ∉ (d.under assigned).dims := by
  intro hmem
  obtain ⟨axis, haxis, hzero⟩ := List.mem_map.1 hmem
  cases axis with
  | fixed size =>
    rw [Axis.sizeUnder] at hzero
    exact d.fixed_ne_zero (hzero ▸ haxis)
  | dynamic symbol => exact h symbol haxis hzero

namespace Context

open AxisSizes

variable {c : Context} {symbol : String} {size : UInt64}

/-! ## What is asked of a context -/

/-- Some input that is set has an axis of this name, and this size there. -/
def Carries (c : Context) (symbol : String) (size : UInt64) : Prop :=
  ∃ t s, (t, some s) ∈ c.graph.registry.inputs.zip c.shapes ∧
    (Axis.dynamic symbol, size) ∈ t.shape.axes.zip s.dims

/-- Some input declares an axis of this name. -/
def Determines (c : Context) (symbol : String) : Prop :=
  ∃ t ∈ c.graph.registry.inputs, Axis.dynamic symbol ∈ t.shape.axes

/-- Every input is set, axes of one name have one size, and every name in an output occurs in an
input. -/
structure Unifiable (c : Context) : Prop where
  set : none ∉ c.shapes.take c.graph.registry.inputCount
  agree : ∀ symbol size size', c.Carries symbol size → c.Carries symbol size' → size = size'
  determined : ∀ t ∈ c.graph.registry.outputs, ∀ symbol, Axis.dynamic symbol ∈ t.shape.axes →
    c.Determines symbol

/-- Why outputs cannot be derived: the first trouble that is met when the inputs are gone through
in order, or, if they make none, the first name in the outputs that occurs in no input. -/
inductive Fault (c : Context) : EngineError → Prop
  | ofInputs {e : EngineError} (h : Refused [] c.graph.registry.inputs c.shapes e) : Fault c e
  | ofOutput (earlier : List Descriptor) (t : Descriptor) (later : List Descriptor)
    (before : List Axis) (symbol : String) (after : List Axis)
    (houtputs : c.graph.registry.outputs = earlier ++ t :: later)
    (haxes : t.shape.axes = before ++ .dynamic symbol :: after)
    (hset : none ∉ c.shapes.take c.graph.registry.inputCount)
    (hagree : ∀ symbol size size', c.Carries symbol size → c.Carries symbol size' → size = size')
    (hearlier : ∀ u ∈ earlier, ∀ name, Axis.dynamic name ∈ u.shape.axes → c.Determines name)
    (hbefore : ∀ name, Axis.dynamic name ∈ before → c.Determines name)
    (hunknown : ¬ c.Determines symbol) : Fault c (undetermined t.name symbol)

/-! ## Axes of the inputs -/

theorem mem_namedOf_iff {shaped : List (Descriptor × Shape)} {a : AxisSize} :
    a ∈ namedOf shaped ↔ ∃ t s, (t, s) ∈ shaped ∧
      (Axis.dynamic a.symbol, a.size) ∈ t.shape.axes.zip s.dims ∧ a.source = t.name := by
  rw [namedOf, List.mem_flatMap]
  simp only [mem_named_iff, Prod.exists]

section Given

variable {given : List Shape}

theorem zip_shapes_eq (hslots : c.shapes.take c.graph.registry.inputCount = given.map some) :
    c.graph.registry.inputs.zip c.shapes =
      (c.graph.registry.inputs.zip given).map fun p => (p.1, some p.2) := by
  have hzip : (c.graph.registry.inputs.zip c.shapes).take c.graph.registry.inputCount =
      c.graph.registry.inputs.zip c.shapes := by
    apply List.take_of_length_le
    rw [List.length_zip]
    exact Nat.min_le_left _ _
  rw [← hzip, List.zip, List.take_zipWith, hslots, Registry.inputCount, List.take_length,
    ← List.zip, List.zip_map_right]
  rfl

/-- What the inputs carry is what is met when they are gone through in order. -/
theorem carries_iff (hslots : c.shapes.take c.graph.registry.inputCount = given.map some) :
    c.Carries symbol size ↔
      ∃ a ∈ namedOf (c.graph.registry.inputs.zip given), a.symbol = symbol ∧ a.size = size := by
  rw [Carries, zip_shapes_eq hslots]
  constructor
  · rintro ⟨t, s, hmem, haxis⟩
    obtain ⟨⟨t, s⟩, hpair, hsame⟩ := List.mem_map.1 hmem
    cases hsame
    exact ⟨⟨symbol, size, t.name⟩, mem_namedOf_iff.2 ⟨t, s, hpair, haxis, rfl⟩, rfl, rfl⟩
  · rintro ⟨a, ha, rfl, rfl⟩
    obtain ⟨t, s, hmem, haxis, -⟩ := mem_namedOf_iff.1 ha
    exact ⟨t, s, List.mem_map.2 ⟨(t, s), hmem, rfl⟩, haxis⟩

theorem agree_of_consistent
    (hslots : c.shapes.take c.graph.registry.inputCount = given.map some)
    (hagree : Consistent (namedOf (c.graph.registry.inputs.zip given))) (size' : UInt64)
    (h : c.Carries symbol size) (h' : c.Carries symbol size') : size = size' := by
  obtain ⟨a, ha, hsymbol, rfl⟩ := (carries_iff hslots).1 h
  obtain ⟨b, hb, hsymbol', rfl⟩ := (carries_iff hslots).1 h'
  exact hagree a ha b hb (hsymbol.trans hsymbol'.symm)

theorem accepts_of_mem_zip (hpartly : PartlyShaped c.graph c.shapes) {t : Descriptor} {s : Shape}
    (h : (t, some s) ∈ c.graph.registry.inputs.zip c.shapes) : t.Accepts s := by
  obtain ⟨ordinal, hpair⟩ := List.mem_iff_getElem?.1 h
  rw [List.getElem?_zip_eq_some] at hpair
  exact hpartly.inputs_accept ordinal t s (Registry.get?_of_inputs hpair.1) hpair.2

/-- There is a given shape for every input. -/
theorem length_given (hlength : c.shapes.length = c.graph.registry.size)
    (hslots : c.shapes.take c.graph.registry.inputCount = given.map some) :
    given.length = c.graph.registry.inputCount := by
  have hcount := congrArg List.length hslots
  rw [List.length_take, List.length_map, hlength,
    Nat.min_eq_left (Registry.inputCount_le_size _)] at hcount
  exact hcount.symm

/-- A name that an input declares has a size there, once all inputs are set. -/
theorem exists_carries_of_determines (hpartly : PartlyShaped c.graph c.shapes)
    (hlength : c.shapes.length = c.graph.registry.size)
    (hslots : c.shapes.take c.graph.registry.inputCount = given.map some)
    (h : c.Determines symbol) : ∃ size, c.Carries symbol size := by
  obtain ⟨t, ht, haxis⟩ := h
  obtain ⟨s, hmem⟩ := exists_mem_zip ht (Nat.le_of_eq (length_given hlength hslots).symm)
  have hset : (t, some s) ∈ c.graph.registry.inputs.zip c.shapes := by
    rw [zip_shapes_eq hslots]
    exact List.mem_map.2 ⟨(t, s), hmem, rfl⟩
  -- the shape has an axis for each declared one
  have hrank := (accepts_of_mem_zip hpartly hset).rank_eq
  obtain ⟨size, hsize⟩ := exists_mem_zip haxis (Nat.le_of_eq hrank.symm)
  exact ⟨size, t, s, hset, hsize⟩

theorem determines_of_carries (h : c.Carries symbol size) : c.Determines symbol := by
  obtain ⟨t, s, hmem, haxis⟩ := h
  exact ⟨t, (List.of_mem_zip hmem).1, (List.of_mem_zip haxis).1⟩

theorem ne_zero_of_carries (hpartly : PartlyShaped c.graph c.shapes) (h : c.Carries symbol size) :
    size ≠ 0 := by
  obtain ⟨t, s, hmem, haxis⟩ := h
  rintro rfl
  exact (accepts_of_mem_zip hpartly hmem).zero_not_mem (List.of_mem_zip haxis).2

/-- Once all inputs are taken in, the names that have sizes are those that the inputs declare. -/
theorem get?_ne_none_iff_determines {sizes : AxisSizes} (hpartly : PartlyShaped c.graph c.shapes)
    (hlength : c.shapes.length = c.graph.registry.size)
    (hslots : c.shapes.take c.graph.registry.inputCount = given.map some)
    (hrecorded : Recorded sizes (namedOf (c.graph.registry.inputs.zip given))) :
    get? sizes symbol ≠ none ↔ c.Determines symbol := by
  rw [hrecorded, ne_eq, get?_eq_none_iff]
  constructor
  · intro hknown
    push Not at hknown
    obtain ⟨a, ha, hsymbol⟩ := hknown
    exact determines_of_carries ((carries_iff hslots).2 ⟨a, ha, hsymbol, rfl⟩)
  · intro hdetermines hnone
    obtain ⟨size, hcarries⟩ := exists_carries_of_determines hpartly hlength hslots hdetermines
    obtain ⟨a, ha, hsymbol, -⟩ := (carries_iff hslots).1 hcarries
    exact hnone a ha hsymbol

/-- Every name then has the size that the inputs carry. -/
theorem assignment_eq_of_carries {sizes : AxisSizes}
    (hslots : c.shapes.take c.graph.registry.inputCount = given.map some)
    (hrecorded : Recorded sizes (namedOf (c.graph.registry.inputs.zip given)))
    (hagree : Consistent (namedOf (c.graph.registry.inputs.zip given)))
    (h : c.Carries symbol size) : assignment sizes symbol = size := by
  obtain ⟨a, ha, hsymbol, rfl⟩ := (carries_iff hslots).1 h
  cases hget : get? sizes symbol with
  | none =>
    rw [hrecorded, get?_eq_none_iff] at hget
    exact absurd hsymbol (hget a ha)
  | some known =>
    rw [hrecorded] at hget
    have hsame := (symbol_of_get? hget).trans hsymbol.symm
    apply Settled.assignment_eq
    exact ⟨known, by rw [hrecorded, hget], hagree known (mem_of_get? hget) a ha hsame⟩

end Given

/-! ## What refusals mean -/

/-- A context whose inputs are refused is not unifiable. -/
theorem not_unifiable_of_refused {e : EngineError}
    (h : Refused [] c.graph.registry.inputs c.shapes e) : ¬ c.Unifiable := by
  intro hc
  have hset := hc.set
  have hagree := hc.agree
  simp only [Carries] at hagree
  rw [Registry.inputCount] at hset
  generalize c.graph.registry.inputs = inputs at h hset hagree
  generalize c.shapes = slots at h hset hagree
  cases h with
  | unset earlier t later slots _ =>
    -- the slot that is not set is one of an input
    apply hset
    have hcount : (earlier.map Prod.fst ++ t :: later).length =
        (earlier.map fun p => some p.2).length + (later.length + 1) := by
      simp
    rw [hcount, List.take_length_add_append, List.take_succ_cons]
    exact List.mem_append_right _ List.mem_cons_self
  | clash earlier t s later slots before after a known haxes _ hknown hsize =>
    -- both axes that clash lie in inputs that are set
    have hpair : ∀ p ∈ earlier ++ [(t, s)],
        (p.1, some p.2) ∈ (earlier.map Prod.fst ++ t :: later).zip
          (earlier.map (fun p => some p.2) ++ some s :: slots) := by
      intro p hp
      rw [List.zip_append (by simp), List.zip_map', List.zip_cons_cons]
      rcases List.mem_append.1 hp with hp | hp
      · exact List.mem_append_left _ (List.mem_map.2 ⟨p, hp, rfl⟩)
      · rw [List.mem_singleton.1 hp]
        exact List.mem_append_right _ List.mem_cons_self
    have hmet : ∀ b ∈ namedOf (earlier ++ [(t, s)]), ∃ u r,
        (u, some r) ∈ (earlier.map Prod.fst ++ t :: later).zip
          (earlier.map (fun p => some p.2) ++ some s :: slots) ∧
        (Axis.dynamic b.symbol, b.size) ∈ u.shape.axes.zip r.dims := by
      intro b hb
      obtain ⟨u, r, hmem, haxis, -⟩ := mem_namedOf_iff.1 hb
      exact ⟨u, r, hpair _ hmem, haxis⟩
    have hall : namedOf (earlier ++ [(t, s)]) = namedOf earlier ++ (before ++ a :: after) := by
      rw [← haxes, namedOf, List.flatMap_append, List.flatMap_singleton]
      rfl
    rw [hall] at hmet
    have hsymbol := symbol_of_get? hknown
    have hfirst := mem_of_get? hknown
    apply hsize
    refine hagree a.symbol known.size a.size ?_ (hmet a (by simp))
    rw [← hsymbol]
    apply hmet
    rw [← List.append_assoc]
    exact List.mem_append_left _ hfirst

/-! ## Deriving the outputs -/

/-- What the outputs' shapes are made of: the shapes that the inputs were given, and for every name
the size that the inputs carry. -/
structure Unifier (c : Context) (given : List Shape) (assigned : String → UInt64) : Prop where
  slots_eq : c.shapes.take c.graph.registry.inputCount = given.map some
  assigned_eq : ∀ symbol size, c.Carries symbol size → assigned symbol = size

/-- The shapes of all tensors, those of the inputs as they were given. -/
def derived (c : Context) (given : List Shape) (assigned : String → UInt64) : List Shape :=
  given ++ c.graph.registry.outputs.map fun t => t.shape.under assigned

/-- The outputs of a unifiable context are derived, and those of any other are refused for its
fault. -/
theorem deriveOutputs_unifies (hphase : c.phase = .configuring)
    (hlength : c.shapes.length = c.graph.registry.size)
    (hpartly : PartlyShaped c.graph c.shapes) :
    (c.Unifiable ∧ ∃ given assigned, c.Unifier given assigned ∧
        c.deriveOutputs = .ok { c with
          phase := .shapesResolved
          shapes := (c.derived given assigned).map some }) ∨
      ¬ c.Unifiable ∧ ∃ e, c.Fault e ∧ c.deriveOutputs = .error e := by
  have hroom : c.graph.registry.inputs.length ≤ c.shapes.length := by
    rw [hlength]
    exact Registry.inputCount_le_size _
  have hexpect : c.expect [.configuring] "resolve output shapes" = .ok () :=
    expect_eq_ok (by simp [hphase]) _
  have hnothing : Recorded [] [] := fun _ => rfl
  have hempty : Consistent [] := fun _ ha => absurd ha List.not_mem_nil
  rw [deriveOutputs, hexpect, ok_bind]
  rcases unifyInputs_cases hroom hnothing hempty with
    ⟨sizes, given, hunify, hslots, hrecorded, hagree⟩ | ⟨e, hunify, hrefused⟩
  · rw [List.nil_append] at hrecorded hagree
    have hset : none ∉ c.shapes.take c.graph.registry.inputCount := by
      rw [Registry.inputCount, hslots]
      simp
    have hknown : ∀ symbol, get? sizes symbol ≠ none ↔ c.Determines symbol := fun _ =>
      get?_ne_none_iff_determines hpartly hlength hslots hrecorded
    have hagree' : ∀ symbol size size', c.Carries symbol size → c.Carries symbol size' →
        size = size' := fun _ _ size' => agree_of_consistent hslots hagree size'
    dsimp only
    rw [hunify, ok_bind]
    cases hrow : c.graph.registry.outputs.mapM (evaluate sizes) with
    | ok outputs =>
      left
      refine ⟨⟨hset, hagree', ?_⟩, given, assignment sizes, ⟨hslots, ?_⟩, ?_⟩
      · intro t ht symbol haxis
        obtain ⟨s, hs⟩ := exists_of_mem_of_mapM_eq_ok hrow ht
        exact (hknown symbol).1 (get?_ne_none_of_evaluate hs haxis)
      · intro symbol size hcarries
        exact assignment_eq_of_carries hslots hrecorded hagree hcarries
      · have heach : ∀ t s, evaluate sizes t = .ok s → s = t.shape.under (assignment sizes) :=
          fun _ _ => eq_under_of_evaluate
        have hshapes : (c.derived given (assignment sizes)).map some =
            c.shapes.take c.graph.registry.inputCount ++ outputs.map some := by
          rw [eq_map_of_mapM_eq_ok heach hrow, Registry.inputCount, hslots, derived,
            List.map_append]
        rw [hshapes]
        rfl
    | error e =>
      right
      obtain ⟨earlier, t, later, houtputs, hearlier, hrefused⟩ := split_of_mapM_eq_error hrow
      obtain ⟨before, symbol, after, haxes, hbefore, hnone, rfl⟩ :=
        split_of_evaluate_eq_error hrefused
      have hunknown : ¬ c.Determines symbol := fun hdetermines =>
        (hknown symbol).2 hdetermines hnone
      constructor
      · intro hc
        apply hunknown
        apply hc.determined t
        · rw [houtputs]
          exact List.mem_append_right _ List.mem_cons_self
        · rw [haxes]
          exact List.mem_append_right _ List.mem_cons_self
      · refine ⟨_, .ofOutput earlier t later before symbol after houtputs haxes hset hagree' ?_ ?_
          hunknown, rfl⟩
        · intro u hu name haxis
          obtain ⟨s, hs⟩ := hearlier u hu
          exact (hknown name).1 (get?_ne_none_of_evaluate hs haxis)
        · intro name haxis
          exact (hknown name).1 (hbefore name haxis)
  · right
    refine ⟨not_unifiable_of_refused hrefused, e, .ofInputs hrefused, ?_⟩
    dsimp only
    rw [hunify, error_bind]

/-- There is a derived shape for every tensor. -/
theorem Unifier.length_derived {given : List Shape} {assigned : String → UInt64}
    (h : c.Unifier given assigned) (hlength : c.shapes.length = c.graph.registry.size) :
    (c.derived given assigned).length = c.graph.registry.size := by
  rw [derived, List.length_append, List.length_map, length_given hlength h.slots_eq,
    Registry.size_eq]

/-- No shape that is derived has an axis of size zero. -/
theorem Unifier.zero_not_mem {given : List Shape} {assigned : String → UInt64}
    (h : c.Unifier given assigned) (hc : c.Unifiable)
    (hpartly : PartlyShaped c.graph c.shapes) (hlength : c.shapes.length = c.graph.registry.size)
    {s : Shape} (hs : s ∈ c.derived given assigned) : (0 : UInt64) ∉ s.dims := by
  rcases List.mem_append.1 hs with hgiven | houtput
  · -- an input's shape was accepted
    have hslot : some s ∈ c.shapes.take c.graph.registry.inputCount := by
      rw [h.slots_eq]
      exact List.mem_map_of_mem hgiven
    obtain ⟨ordinal, hordinal⟩ := List.mem_iff_getElem?.1 hslot
    rw [List.getElem?_take] at hordinal
    split at hordinal
    · next hlt =>
      have ht := List.getElem?_eq_getElem (l := c.graph.registry.inputs) hlt
      exact (hpartly.inputs_accept ordinal _ s (Registry.get?_of_inputs ht) hordinal).zero_not_mem
    · cases hordinal
  · -- an output's names all have sizes that some input carries
    obtain ⟨t, ht, rfl⟩ := List.mem_map.1 houtput
    apply DeclaredShape.zero_not_mem_under
    intro symbol haxis
    have hdetermines := hc.determined t ht symbol haxis
    obtain ⟨size, hcarries⟩ :=
      exists_carries_of_determines hpartly hlength h.slots_eq hdetermines
    rw [h.assigned_eq symbol size hcarries]
    exact ne_zero_of_carries hpartly hcarries

/-- In whatever way a context came to be configuring, its outputs are derived exactly if all inputs
are set, all axes of one name agree and every name in an output occurs in an input. Then the shapes
are those of the inputs and, for each output, the declared one with every name replaced by the size
that the inputs carry, and none has an axis of size zero. Otherwise the context stays as it is, and
the refusal names what was met first. -/
theorem resolveOutputs_unifies {d d' : Device} {graph : Graph}
    (hcreate : create d graph = (.ok c, d')) (operations : List Operation) :
    let last := ((History.start c).run operations).context
    last.phase = .configuring →
      ((∃ shapes, last.resolveOutputs.1 = .ok shapes) ↔ last.Unifiable) ∧
      (∀ shapes after, last.resolveOutputs = (.ok shapes, after) →
        (∀ s ∈ shapes, (0 : UInt64) ∉ s.dims) ∧
          ∃ given assigned, last.Unifier given assigned ∧ shapes = last.derived given assigned) ∧
      ∀ e after, last.resolveOutputs = (.error e, after) → after = last ∧ last.Fault e := by
  intro last hphase
  have hsound := (History.sound_start hcreate).run operations
  have hlength := hsound.regular.length_shapes
  have hpartly := hsound.partlyShaped hphase
  rcases deriveOutputs_unifies hphase hlength hpartly with
    ⟨hc, given, assigned, hunifier, hderive⟩ | ⟨hc, e, hfault, hderive⟩
  · have hresolve := resolveOutputs_of_deriveOutputs (hunifier.length_derived hlength) hderive
    refine ⟨⟨fun _ => hc, fun _ => ⟨_, by rw [hresolve]⟩⟩, ?_, ?_⟩
    · intro shapes after h
      rw [hresolve] at h
      cases h
      exact ⟨fun s => hunifier.zero_not_mem hc hpartly hlength, given, assigned, hunifier, rfl⟩
    · intro e after h
      rw [hresolve] at h
      cases h
  · have hresolve : last.resolveOutputs = (.error e, last) := by rw [resolveOutputs, hderive]
    refine ⟨⟨?_, fun h => absurd h hc⟩, ?_, ?_⟩
    · rintro ⟨shapes, h⟩
      rw [hresolve] at h
      cases h
    · intro shapes after h
      rw [hresolve] at h
      cases h
    · intro e' after h
      rw [hresolve] at h
      cases h
      exact ⟨rfl, hfault⟩

/-- A graph with a name that two inputs share. -/
def pairGraph : Graph where
  path := "pair.engine"
  kernel := "zeros"
  payload := []
  registry := ⟨[⟨"a", .input, .f32, ⟨[.dynamic "k", .dynamic "m"], by decide⟩⟩,
      ⟨"b", .input, .f32, ⟨[.dynamic "m"], by decide⟩⟩],
    [⟨"y", .output, .f32, ⟨[.dynamic "k"], by decide⟩⟩], by decide, by decide, by decide, by decide⟩

/-- A context of `pairGraph` that no operation has met. -/
def pairContext : Context := ⟨pairGraph, ⟨1⟩, .configuring, [none, none, none], []⟩

/-- Two inputs that disagree on a name: the refusal names the later one. -/
theorem resolveOutputs_unifies_pair :
    let operations : List Operation := [.setInputShape 1 ⟨[4]⟩, .setInputShape 0 ⟨[2, 3]⟩]
    let last := ((History.start pairContext).run operations).context
    let e : EngineError := .invalidShape "b" "axis 'm' is 4 here but 3 in 'a'"
    (∃ d, create (Device.new .builtin none (.upTo 4096)) pairGraph = (.ok pairContext, d)) ∧
      last.phase = .configuring ∧ last.Fault e ∧ ¬ last.Unifiable := by
  intro operations last e
  have hcreate : create (Device.new .builtin none (.upTo 4096)) pairGraph =
      (.ok pairContext, ((Device.new .builtin none (.upTo 4096)).createStream).2) := rfl
  have hphase : last.phase = .configuring := by decide +kernel
  have hresult : last.resolveOutputs.1 = .error e := by decide +kernel
  obtain ⟨hiff, -, hfault⟩ := resolveOutputs_unifies hcreate operations hphase
  refine ⟨⟨_, hcreate⟩, hphase, (hfault e _ (Prod.ext hresult rfl)).2, ?_⟩
  intro hunifiable
  obtain ⟨shapes, hshapes⟩ := hiff.2 hunifiable
  rw [hresult] at hshapes
  cases hshapes

end Context

end GraphServe
