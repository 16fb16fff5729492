import GraphServe.Proofs.Context.Shapes
import GraphServe.Proofs.Tensor.Size

/-!
# Sizes that a caller gives

A shape is made of caller sizes only if all of them are positive, and then it has these very sizes
(`lengths_of_ofSizes`). When a context is resolved, every input takes the shape that its own vector
stands for and that its declaration accepts (`inputShape_of_resolve`). So a vector has the declared
rank, or is one short of it and has the batch size in front, unless it was cut off
(`fits_of_fitInput`); and what is cut off is refused, as long as the declared rank is not the very
rank at which vectors are cut (`sizes_taken_whole`, `resolve_cut_off`).
-/

namespace GraphServe

/-! ## Caller sizes -/

/-- The sizes of a shape as integers. -/
def Shape.lengths (s : Shape) : List Int := s.dims.map fun size => (size.toNat : Int)

theorem Shape.length_lengths (s : Shape) : s.lengths.length = s.rank := List.length_map _

theorem Shape.nonneg_of_mem_lengths {s : Shape} {size : Int} (h : size ∈ s.lengths) : 0 ≤ size := by
  obtain ⟨word, -, rfl⟩ := List.mem_map.1 h
  exact Int.natCast_nonneg _

/-- A positive signed number is taken over as it is. -/
theorem toNat_toUInt64_of_pos {value : Int64} (h : 0 < value) :
    (value.toUInt64.toNat : Int) = value.toInt := by
  have hpositive : 0 < value.toInt := Int64.lt_iff_toInt_lt.1 h
  have hsigned := toInt_toInt64 value.toUInt64
  have hbound := value.toUInt64.toNat_lt
  rw [Int64.toInt64_toUInt64] at hsigned
  split at hsigned <;> omega

theorem lengths_of_dimsOfSizes {axis : Nat} {sizes : List Int64} {dims : List UInt64}
    (h : Shape.dimsOfSizes axis sizes = .ok dims) :
    (Shape.mk dims).lengths = sizes.map Int64.toInt := by
  induction sizes generalizing axis dims with
  | nil =>
    cases h
    rfl
  | cons value rest ih =>
    rw [Shape.dimsOfSizes] at h
    by_cases hvalue : value ≤ 0
    · rw [if_pos hvalue] at h
      cases h
    · rw [if_neg hvalue] at h
      obtain ⟨others, hothers, h⟩ := bind_eq_ok_iff.1 h
      cases h
      have hpositive : 0 < value := Int64.not_le.1 hvalue
      rw [List.map_cons, ← ih hothers, ← toNat_toUInt64_of_pos hpositive]
      rfl

/-- A shape that is made of caller sizes has these very sizes. -/
theorem lengths_of_ofSizes {sizes : List Int64} {s : Shape} (h : Shape.ofSizes sizes = .ok s) :
    s.lengths = sizes.map Int64.toInt := by
  obtain ⟨dims, hdims, h⟩ := bind_eq_ok_iff.1 h
  cases h
  exact lengths_of_dimsOfSizes hdims

/-! ## Fitting vectors to ranks -/

/-- A shape has the sizes of a vector of the declared rank, or those of a vector that is one short
with the batch size in front. -/
inductive Fits (batchSize : UInt64) (rank : Nat) (vector : List Int64) (s : Shape) : Prop
  | whole (hlength : vector.length = rank) (hsizes : s.lengths = vector.map Int64.toInt)
  | batched (hlength : vector.length + 1 = rank)
    (hsizes : s.lengths = (batchSize.toNat : Int) :: vector.map Int64.toInt)

variable {batchSize : UInt64} {t : Descriptor} {vector : List Int64} {s : Shape}

/-- A vector fits, or it has another length and is cut off at the largest rank. -/
theorem fits_of_fitInput {fit : RankFit} (h : fitInput batchSize t vector = .ok (s, fit)) :
    Fits batchSize t.shape.rank vector s ∨
      (vector.length ≠ t.shape.rank ∧ vector.length + 1 ≠ t.shape.rank ∧
        s.rank = min EngineFile.maxRank vector.length) := by
  rw [fitInput] at h
  split at h
  · next shape hshape =>
    cases h
    have hlengths := lengths_of_ofSizes hshape
    by_cases hwhole : vector.length = t.shape.rank
    · left
      rw [RankFit.ofLength, if_pos hwhole] at hlengths
      exact .whole hwhole hlengths
    · by_cases hshort : vector.length + 1 = t.shape.rank
      · left
        rw [RankFit.ofLength, if_neg hwhole, if_pos hshort] at hlengths
        apply Fits.batched hshort
        rw [hlengths, RankFit.apply, List.map_cons]
        congr 1
        -- a batch size beyond the signed numbers would be refused as a negative one
        have hnonneg : 0 ≤ batchSize.toInt64.toInt := by
          apply Shape.nonneg_of_mem_lengths
          rw [hlengths]
          exact List.mem_cons_self
        have hsigned := toInt_toInt64 batchSize
        have hbound := batchSize.toNat_lt
        split at hsigned <;> omega
      · right
        rw [RankFit.ofLength, if_neg hwhole, if_neg hshort] at hlengths
        refine ⟨hwhole, hshort, ?_⟩
        rw [← Shape.length_lengths, hlengths, List.length_map, RankFit.apply, List.length_take]
  · cases h

namespace Context

variable {c c' : Context} {inputs : List Descriptor} {ordinal : Nat} {sizes : List (List Int64)}

/-! ## The shapes that inputs take -/

theorem acceptShape_of_setInputShape (h : c.setInputShape ordinal s = (.ok (), c')) :
    c.acceptShape ordinal s = .ok c' := by
  rw [setInputShape] at h
  cases haccept : c.acceptShape ordinal s with
  | error e =>
    rw [haccept] at h
    cases h
  | ok after =>
    rw [haccept] at h
    cases h
    rfl

/-- The first of some inputs takes the shape that its vector stands for, and then the others are
set. -/
theorem setInputs_cons_eq_ok
    (h : setInputs batchSize c ordinal (t :: inputs) sizes = (.ok (), c')) :
    ∃ s, inputShape batchSize t sizes.head? = .ok s ∧
      c.acceptShape ordinal s = .ok { c with shapes := c.shapes.set ordinal (some s) } ∧
      setInputs batchSize { c with shapes := c.shapes.set ordinal (some s) } (ordinal + 1) inputs
        sizes.tail = (.ok (), c') := by
  rw [setInputs] at h
  cases hshape : inputShape batchSize t sizes.head? with
  | error e =>
    rw [hshape] at h
    cases h
  | ok s =>
    simp only [hshape] at h
    rcases hset : c.setInputShape ordinal s with ⟨_ | ⟨⟩, middle⟩
    · rw [hset] at h
      cases h
    · rw [hset] at h
      have haccept := acceptShape_of_setInputShape hset
      obtain ⟨-, rfl⟩ := acceptShape_eq_ok haccept
      exact ⟨s, rfl, haccept, h⟩

/-- Once inputs were set in order, each has the shape that its own vector stands for and that it
accepts, and those before them are as they were. -/
theorem setInputs_eq_ok (h : setInputs batchSize c ordinal inputs sizes = (.ok (), c'))
    (hinputs : c.graph.registry.inputs.drop ordinal = inputs)
    (hlength : c.shapes.length = c.graph.registry.size) :
    c'.graph = c.graph ∧ c'.shapes.length = c.shapes.length ∧
      (∀ earlier < ordinal, c'.shapes[earlier]? = c.shapes[earlier]?) ∧
      ∀ (place : Nat) (t : Descriptor), inputs[place]? = some t →
        ∃ s, c'.shapes[ordinal + place]? = some (some s) ∧
          inputShape batchSize t sizes[place]? = .ok s ∧ t.Accepts s := by
  -- the ordinal counts the inputs that are already set
  induction inputs generalizing ordinal c sizes with
  | nil =>
    cases h
    refine ⟨rfl, rfl, fun _ _ => rfl, ?_⟩
    intro place t ht
    cases ht
  | cons t rest ih =>
    obtain ⟨s, hshape, haccept, hrest⟩ := setInputs_cons_eq_ok h
    obtain ⟨t', ht', -, haccepts⟩ := accepts_of_acceptShape haccept
    have hfirst : c.graph.registry.inputs[ordinal]? = some t := by
      rw [← List.head?_drop, hinputs]
      rfl
    have hsame : t' = t := Option.some.inj (ht'.symm.trans (Registry.get?_of_inputs hfirst))
    subst hsame
    have hdrop : c.graph.registry.inputs.drop (ordinal + 1) = rest := by
      rw [← List.drop_drop, hinputs]
      rfl
    have hroom : ordinal < c.shapes.length := by
      rw [hlength]
      exact (List.getElem?_eq_some_iff.1 ht').1
    obtain ⟨hgraph, hcount, hearlier, hlater⟩ := ih hrest hdrop (List.length_set.trans hlength)
    refine ⟨hgraph, hcount.trans List.length_set, ?_, ?_⟩
    · intro earlier hlt
      rw [hearlier earlier (Nat.lt_succ_of_lt hlt), List.getElem?_set_ne (Nat.ne_of_gt hlt)]
    · intro place t ht
      cases place with
      | zero =>
        cases ht
        refine ⟨s, ?_, ?_, haccepts⟩
        · rw [Nat.add_zero, hearlier ordinal (Nat.lt_succ_self _), List.getElem?_set_self hroom]
        · rw [← List.head?_eq_getElem?, hshape]
      | succ place =>
        obtain ⟨s', hslot, hinput, haccepts'⟩ := hlater place t ht
        refine ⟨s', ?_, ?_, haccepts'⟩
        · rw [← hslot, Nat.succ_add_eq_add_succ]
        · rw [← hinput, List.getElem?_tail]

/-- The shapes that are told are those in the slots once the outputs were derived. -/
theorem shapes_of_resolveOutputs {shapes : List Shape} (h : c.resolveOutputs = (.ok shapes, c'))
    (hlength : c.shapes.length = c.graph.registry.size) :
    c.deriveOutputs = .ok c' ∧ c'.shapes = shapes.map some := by
  rw [resolveOutputs] at h
  cases hderive : c.deriveOutputs with
  | error e =>
    rw [hderive] at h
    cases h
  | ok after =>
    rw [hderive] at h
    obtain ⟨hread, rfl⟩ := Prod.mk.inj h
    refine ⟨rfl, ?_⟩
    obtain ⟨-, outputs, houtputs, rfl⟩ := deriveOutputs_eq_ok hderive
    obtain ⟨⟨⟩, -, hread⟩ := bind_eq_ok_iff.1 hread
    apply (requireShapes_eq_ok_iff ?_).1 hread
    -- there is a slot for every tensor, as there was before
    rw [List.length_append, List.length_take, List.length_map, houtputs, hlength,
      Nat.min_eq_left (Registry.inputCount_le_size _)]
    exact (Registry.size_eq _).symm

/-- When a context is resolved, each input takes the shape that its own vector stands for, or the
declared one if it has no vector. -/
theorem inputShape_of_resolve {shapes : List Shape}
    (h : c.resolve batchSize sizes = (.ok shapes, c'))
    (hlength : c.shapes.length = c.graph.registry.size)
    (ht : c.graph.registry.inputs[ordinal]? = some t) :
    ∃ s, shapes[ordinal]? = some s ∧ inputShape batchSize t sizes[ordinal]? = .ok s ∧
      t.Accepts s := by
  rw [resolve] at h
  rcases hset : setInputs batchSize c 0 c.graph.registry.inputs sizes with ⟨_ | ⟨⟩, middle⟩
  · rw [hset] at h
    cases h
  · rw [hset] at h
    obtain ⟨hgraph, hcount, -, hinputs⟩ := setInputs_eq_ok hset List.drop_zero hlength
    obtain ⟨s, hslot, hshape, haccepts⟩ := hinputs ordinal t ht
    rw [← hgraph] at hlength ht
    obtain ⟨hderive, hshapes⟩ := shapes_of_resolveOutputs h (hcount.trans hlength)
    obtain ⟨-, outputs, -, rfl⟩ := deriveOutputs_eq_ok hderive
    have hlt : ordinal < middle.graph.registry.inputCount := (List.getElem?_eq_some_iff.1 ht).1
    have htold : (shapes.map some)[ordinal]? = some (some s) := by
      rw [Nat.zero_add] at hslot
      rw [← hshapes, List.getElem?_append_left, List.getElem?_take_of_lt hlt, hslot]
      rw [List.length_take, hcount, hlength, Nat.min_eq_left (Registry.inputCount_le_size _)]
      exact hlt
    rw [List.getElem?_map, Option.map_eq_some_iff] at htold
    obtain ⟨s', hs', hsame⟩ := htold
    cases hsame
    exact ⟨s, hs', hshape, haccepts⟩

/-- Setting inputs leaves a table in which no output has a shape. -/
theorem partlyShaped_of_setInputs (h : setInputs batchSize c ordinal inputs sizes = (.ok (), c'))
    (hpartly : PartlyShaped c.graph c.shapes) : PartlyShaped c'.graph c'.shapes := by
  induction inputs generalizing ordinal c sizes with
  | nil =>
    cases h
    exact hpartly
  | cons t rest ih =>
    obtain ⟨s, -, haccept, hrest⟩ := setInputs_cons_eq_ok h
    obtain ⟨t', ht', hinput, haccepts⟩ := accepts_of_acceptShape haccept
    exact ih hrest (hpartly.set ht' hinput haccepts)

/-- A context that was resolved has all its shapes under one assignment of sizes to names. -/
theorem fullyShaped_of_resolve {shapes : List Shape}
    (h : c.resolve batchSize sizes = (.ok shapes, c'))
    (hlength : c.shapes.length = c.graph.registry.size)
    (hpartly : PartlyShaped c.graph c.shapes) : FullyShaped c.graph (shapes.map some) := by
  rw [resolve] at h
  rcases hset : setInputs batchSize c 0 c.graph.registry.inputs sizes with ⟨_ | ⟨⟩, middle⟩
  · rw [hset] at h
    cases h
  · rw [hset] at h
    obtain ⟨hgraph, hcount, -⟩ := setInputs_eq_ok hset List.drop_zero hlength
    have hmiddle := partlyShaped_of_setInputs hset hpartly
    have hroom : middle.shapes.length = middle.graph.registry.size := by
      rw [hcount, hgraph, hlength]
    obtain ⟨hderive, hshapes⟩ := shapes_of_resolveOutputs h hroom
    have hfull := fullyShaped_of_deriveOutputs hroom hmiddle hderive
    rwa [hshapes, hgraph] at hfull

/-- A vector that is not cut off fits the input that takes its shape. -/
theorem fits_of_inputShape (h : inputShape batchSize t (some vector) = .ok s)
    (haccepts : t.Accepts s)
    (huncut : t.shape.rank ≠ EngineFile.maxRank ∨ vector.length ≤ EngineFile.maxRank) :
    Fits batchSize t.shape.rank vector s := by
  obtain ⟨⟨shape, fit⟩, hfit, hs⟩ := map_eq_ok_iff.1 h
  cases hs
  rcases fits_of_fitInput hfit with hfits | ⟨hwhole, -, hcut⟩
  · exact hfits
  · -- the context has compared the rank of what was left with the declared one
    have hrank := haccepts.rank_eq
    rw [hcut] at hrank
    omega

/-- No size that a caller gives is dropped, in whatever state the context is. Where the declared
rank is not the largest one, or the vector is no longer than that, the shape of an input has the
sizes of its vector, which has the declared rank, or those of a vector that is one short behind the
batch size; and a vector of any other length is refused. -/
theorem sizes_taken_whole {d d' : Device} {graph : Graph} (hcreate : create d graph = (.ok c, d'))
    (operations : List Operation) (batchSize : UInt64) (sizes : List (List Int64)) :
    let last := ((History.start c).run operations).context
    ∀ (ordinal : Nat) (t : Descriptor) (vector : List Int64),
      graph.registry.inputs[ordinal]? = some t → sizes[ordinal]? = some vector →
      t.shape.rank ≠ EngineFile.maxRank ∨ vector.length ≤ EngineFile.maxRank →
      (∀ shapes, (last.resolve batchSize sizes).1 = .ok shapes →
        ∃ s, shapes[ordinal]? = some s ∧ Fits batchSize t.shape.rank vector s) ∧
      (vector.length ≠ t.shape.rank → vector.length + 1 ≠ t.shape.rank →
        ∃ e, (last.resolve batchSize sizes).1 = .error e) := by
  intro last ordinal t vector ht hvector huncut
  obtain ⟨hregular, -⟩ := History.regular_start hcreate
  have hlength := (hregular.run operations).length_shapes
  have hgraph : last.graph = graph := by
    rw [← History.graph_of_create hcreate]
    exact hregular.graph_run operations
  rw [← hgraph] at ht
  have hfits : ∀ shapes, (last.resolve batchSize sizes).1 = .ok shapes →
      ∃ s, shapes[ordinal]? = some s ∧ Fits batchSize t.shape.rank vector s := by
    intro shapes hshapes
    obtain ⟨s, hs, hinput, haccepts⟩ := inputShape_of_resolve (Prod.ext hshapes rfl) hlength ht
    rw [hvector] at hinput
    exact ⟨s, hs, fits_of_inputShape hinput haccepts huncut⟩
  refine ⟨hfits, ?_⟩
  intro hwhole hshort
  cases hresult : (last.resolve batchSize sizes).1 with
  | error e => exact ⟨e, rfl⟩
  | ok shapes =>
    obtain ⟨s, -, hfit⟩ := hfits shapes hresult
    cases hfit with
    | whole hlength => exact absurd hlength hwhole
    | batched hlength => exact absurd hlength hshort

/-- A graph whose input has the largest rank. -/
def deepGraph : Graph where
  path := "deep.engine"
  kernel := "zeros"
  payload := []
  registry := ⟨[⟨"x", .input, .f32, ⟨.dynamic "n" :: List.replicate 7 (.fixed 1), by decide⟩⟩],
    [⟨"y", .output, .f32, ⟨[.fixed 1], by decide⟩⟩], by decide, by decide, by decide, by decide⟩

/-- A context of `deepGraph` that no operation has met. -/
def deepContext : Context := ⟨deepGraph, ⟨1⟩, .configuring, [none, none], []⟩

/-- A vector that is one short gets the batch size in front, whatever was set before. -/
theorem sizes_taken_whole_deep :
    let operations : List Operation := [.setInputShape 0 ⟨[2, 1, 1, 1, 1, 1, 1, 1]⟩]
    let last := ((History.start deepContext).run operations).context
    let vector : List Int64 := [1, 1, 1, 1, 1, 1, 1]
    (∃ d, create (Device.new .builtin none (.upTo 4096)) deepGraph = (.ok deepContext, d)) ∧
      ∃ shapes s, (last.resolve 3 [vector]).1 = .ok shapes ∧ shapes[0]? = some s ∧
        Fits 3 8 vector s := by
  intro operations last vector
  have hcreate : create (Device.new .builtin none (.upTo 4096)) deepGraph =
      (.ok deepContext, ((Device.new .builtin none (.upTo 4096)).createStream).2) := rfl
  have hresolved : (last.resolve 3 [vector]).1 = .ok [⟨[3, 1, 1, 1, 1, 1, 1, 1]⟩, ⟨[1]⟩] := by
    decide +kernel
  have hwhole := sizes_taken_whole hcreate operations 3 [vector] 0 _ vector rfl rfl
    (Or.inr (by decide))
  obtain ⟨s, hs, hfits⟩ := hwhole.1 _ hresolved
  exact ⟨⟨_, hcreate⟩, _, s, hresolved, hs, hfits⟩

/-- A vector that is longer than the largest rank is cut off there, and fits an input of that rank:
the last size is dropped and nothing refused. The graph is that of an engine file. -/
theorem resolve_cut_off :
    let contents : EngineFile.Contents := ⟨"zeros", deepGraph.registry.all, []⟩
    let vector : List Int64 := [2, 1, 1, 1, 1, 1, 1, 1, 5]
    Graph.ofBytes "deep.engine" contents.toBytes = .ok deepGraph ∧
      (∃ d, create (Device.new .builtin none (.upTo 4096)) deepGraph = (.ok deepContext, d)) ∧
      deepGraph.registry.inputs.map (·.shape.rank) = [8] ∧ vector.length = 9 ∧
      (deepContext.resolve 1 [vector]).1 = .ok [⟨[2, 1, 1, 1, 1, 1, 1, 1]⟩, ⟨[1]⟩] := by
  intro contents vector
  have hcreate : create (Device.new .builtin none (.upTo 4096)) deepGraph =
      (.ok deepContext, ((Device.new .builtin none (.upTo 4096)).createStream).2) := rfl
  have hopen : EngineFile.openBytes contents.toBytes =
      .ok ⟨⟨1, 2, "zeros"⟩, deepGraph.registry.all, 160, [], 160⟩ := by
    decide +kernel
  refine ⟨?_, ⟨_, hcreate⟩, by decide, by decide, by decide +kernel⟩
  rw [Graph.ofBytes, hopen]
  rfl

end Context

end GraphServe
