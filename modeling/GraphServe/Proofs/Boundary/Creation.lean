import GraphServe.Proofs.Boundary.Calls
import GraphServe.Proofs.Text.Utf8

/-!
# Backends created from outside

Sizes that a caller lays out back to back, with their counts beside them, are read back vector by
vector, whatever the caller's memory holds behind them. A call that creates a backend therefore ends
as setting up the configuration does that the caller means: with a handle on that very backend, or
with the status of that very error. No call that fails writes memory of the caller, but for the rank
of a shape (`creation_faithful`).
-/

namespace GraphServe.Boundary

/-- A text with the byte that ends it, and whatever lies behind, is read as it is. -/
theorem readText_encode (what : String) {text : String} (h : Tellable text) (beyond : Bytes) :
    readText what (Text.Utf8.encode text ++ 0 :: beyond) = .ok text := by
  have hbytes : (Text.Utf8.encode text ++ 0 :: beyond).takeWhile (· != 0) =
      Text.Utf8.encode text := by
    have hzero := Text.Utf8.zero_not_mem_encode h
    rw [List.takeWhile_append_of_pos]
    · simp
    · intro b hb
      rw [bne_iff_ne]
      rintro rfl
      exact hzero hb
  rw [readText, hbytes, Text.Utf8.decode_eq_ok_iff.2 rfl]

/-! ## Sizes -/

namespace Params

/-- Parameters that hold the sizes of inputs: the sizes back to back, their counts, and the number of
inputs. More may lie behind the sizes and the counts, and either may be absent if it would hold
nothing. -/
structure Holds (p : Params) (sizes : List (List Int64)) : Prop where
  inputCount_eq : p.inputCount = sizes.length
  ranks_eq : sizes = [] ∨
    ∃ beyond, p.ranks = some (sizes.map (fun v => UInt64.ofNat v.length) ++ beyond)
  dims_eq : sizes.flatten = [] ∨ ∃ beyond, p.dims = some (sizes.flatten ++ beyond)
  total_lt : sizes.flatten.length < wordBound

variable {p : Params} {sizes : List (List Int64)}

/-- Each vector is short enough for its count. -/
theorem Holds.map_toNat (h : p.Holds sizes) :
    (sizes.map fun v => UInt64.ofNat v.length).map UInt64.toNat = sizes.map List.length := by
  rw [List.map_map]
  apply List.map_congr_left
  intro v hv
  have hle : v.length ≤ sizes.flatten.length := (List.sublist_flatten_of_mem hv).length_le
  exact UInt64.toNat_ofNat_of_lt' (Nat.lt_of_le_of_lt hle h.total_lt)

/-- The counts add up to the number of sizes. -/
theorem total_eq {ranks : List UInt64} (h : ranks.map UInt64.toNat = sizes.map List.length) :
    ranks.foldl (fun total rank => total + rank.toNat) 0 = sizes.flatten.length := by
  rw [List.length_flatten, ← h, List.sum_eq_foldl, List.foldl_map]

/-- The sizes are read back vector by vector, and nothing behind them is. -/
theorem Holds.inputSizes_eq (h : p.Holds sizes) : p.inputSizes = .ok sizes := by
  rw [inputSizes, h.inputCount_eq]
  cases sizes with
  | nil => rfl
  | cons first rest =>
    obtain ⟨beyond, hranks⟩ := h.ranks_eq.resolve_left (List.cons_ne_nil first rest)
    have htake : ((first :: rest).map (fun v => UInt64.ofNat v.length) ++ beyond).take
        (first :: rest).length = (first :: rest).map fun v => UInt64.ofNat v.length :=
      List.take_left' (List.length_map _)
    have htotal := total_eq h.map_toNat
    have hfits : ¬ wordBound ≤ (first :: rest).flatten.length := Nat.not_le.2 h.total_lt
    rw [if_neg (by simp), hranks]
    simp only [htake, htotal, if_neg hfits]
    rcases h.dims_eq with hnil | ⟨behind, hdims⟩
    · -- with no sizes at all the memory for them may be absent
      have hsplit : ∀ dims, splitSizes ((first :: rest).map fun v => UInt64.ofNat v.length) dims =
          first :: rest := by
        intro dims
        have hread := splitSizes_flatten h.map_toNat dims
        rwa [hnil, List.nil_append] at hread
      cases p.dims with
      | some dims => simp only [hsplit]
      | none => simp only [hsplit, hnil, List.length_nil, if_true]
    · simp only [hdims, splitSizes_flatten h.map_toNat]

/-- The configuration of a model path, sizes, and what else the parameters say. -/
def configuration (p : Params) (path : String) (sizes : List (List Int64)) : BackendConfig :=
  { BackendConfig.new path with
    kind := p.kind
    useGpu := p.useGpu
    batchSize := p.batchSize
    inputSizes := sizes
    policy := if p.lenient then .lenient else .strict }

theorem Holds.config_eq (h : p.Holds sizes) {path : String} (hpath : Tellable path)
    (beyond : Bytes) :
    p.config (some (Text.Utf8.encode path ++ 0 :: beyond)) = .ok (p.configuration path sizes) := by
  rw [config, modelPath, readText_encode "model path" hpath, ok_bind, h.inputSizes_eq, ok_bind]
  rfl

end Params

/-! ## Created backends -/

/-- A call that creates a backend ended as setting it up did: well exactly if there is a backend,
which is then behind the handle that the caller received, and else with the status of the error. -/
structure Mirrors (reply : Reply (Slot (Option BackendHandle)))
    (outcome : Except EngineError Backend) : Prop where
  ok_iff : reply.status = .ok ↔ ∃ b, outcome = .ok b
  handle : ∀ b, outcome = .ok b →
    ∃ h, reply.memory = some (some h) ∧ reply.session.backend? (some h) = some b
  status : ∀ e, outcome = .error e → reply.status = .ofError e

namespace Session

variable {s : Session}

theorem mirrors_concludeCreation (seen : Option BackendHandle)
    (outcome : Except EngineError Backend) :
    Mirrors (s.concludeCreation (some seen) (outcome.mapError .engine)) outcome := by
  cases outcome with
  | error e =>
    refine ⟨?_, ?_, ?_⟩
    · constructor
      · intro hok
        exact absurd hok (Complaint.engine e).status_ne_ok
      · rintro ⟨b, hb⟩
        cases hb
    · intro b hb
      cases hb
    · intro e' he
      cases he
      rfl
  | ok b =>
    refine ⟨?_, ?_, ?_⟩
    · exact ⟨fun _ => ⟨b, rfl⟩, fun _ => rfl⟩
    · intro b' hb
      cases hb
      refine ⟨⟨s.backends.length⟩, rfl, ?_⟩
      -- the new backend comes last
      simp [concludeCreation, adopt, conclude, Except.mapError, backend?]
    · intro e he
      cases he

theorem create_of_holds {p : Params} {sizes : List (List Int64)} (h : p.Holds sizes)
    {path : String} (hpath : Tellable path) (files : Files) (host : Host) (beyond : Bytes)
    (seen : Option BackendHandle) :
    s.create files host (some (Text.Utf8.encode path ++ 0 :: beyond)) (some p) (some seen) =
      s.concludeCreation (some seen)
        ((Backend.setup files host (p.configuration path sizes)).mapError .engine) := by
  rw [create, Option.getD_some, h.config_eq hpath]
  rfl

/-- A call that fails leaves the caller's memory as it was, or told the rank of a shape. -/
theorem memory_perform_of_failed {Memory : Type} {call : Call Memory} {memory : Memory}
    (h : (s.perform call memory).status ≠ .ok) : (s.perform call memory).memory = memory ∨
      RankTold s call memory (s.perform call memory).memory := by
  obtain ⟨c, left, after, -, hleft, hreply⟩ := exists_of_failed h
  rw [hreply]
  exact hleft

/-- A copy without the room or the destination for it is refused. -/
theorem exists_of_copyOut_fault {α : Type} {values : List α} {memory : Slot (List α)}
    {capacity : Nat} (h : capacity < values.length ∨ memory = none ∧ values ≠ []) :
    ∃ text, copyOut values memory capacity = .error (.argument text) := by
  unfold copyOut
  by_cases hroom : capacity < values.length
  · exact ⟨_, if_pos hroom⟩
  · obtain ⟨rfl, hsome⟩ := h.resolve_left hroom
    rw [if_neg hroom]
    cases values with
    | nil => exact absurd rfl hsome
    | cons v values => exact ⟨_, rfl⟩

/-- A rank is told where only the room or the destination is at fault. -/
theorem perform_of_rankTold {Memory : Type} {call : Call Memory} {memory left : Memory}
    (h : RankTold s call memory left) : (s.perform call memory).status = .invalidArgument ∧
      (s.perform call memory).memory = left := by
  cases call with
  | outputShape r index capacity =>
    obtain ⟨dims, rank⟩ := memory
    cases rank with
    | none => exact h.elim
    | some rank =>
      obtain ⟨output, shape, hr, hshape, hfault, rfl⟩ := h
      obtain ⟨text, htext⟩ := exists_of_copyOut_fault hfault
      simp only [perform, outputShape, hr, hshape, htext]
      exact ⟨rfl, rfl⟩
  | _ => exact h.elim

/-- A caller who gives a model path, what else the parameters say and the sizes of the inputs gets
what setting up that configuration gives: a handle on the backend, or the status of the error. Any
call that fails leaves the caller's memory as it was; only the rank of a shape is told where nothing
but the room for its sizes or their destination is at fault. -/
theorem creation_faithful :
    (∀ (s : Session) (files : Files) (host : Host) (path : String) (beyond : Bytes) (p : Params)
      (sizes : List (List Int64)) (seen : Option BackendHandle), Tellable path → p.Holds sizes →
      p.inputSizes = .ok sizes ∧
        Mirrors (s.create files host (some (Text.Utf8.encode path ++ 0 :: beyond)) (some p)
            (some seen))
          (Backend.setup files host (p.configuration path sizes))) ∧
    ∀ (s : Session) (Memory : Type) (call : Call Memory) (memory : Memory),
      ((s.perform call memory).status ≠ .ok → (s.perform call memory).memory = memory ∨
        RankTold s call memory (s.perform call memory).memory) ∧
      ∀ left, RankTold s call memory left →
        (s.perform call memory).status = .invalidArgument ∧
          (s.perform call memory).memory = left := by
  refine ⟨?_, ?_⟩
  · intro s files host path beyond p sizes seen hpath hsizes
    refine ⟨hsizes.inputSizes_eq, ?_⟩
    rw [create_of_holds hsizes hpath]
    exact mirrors_concludeCreation seen _
  · intro s Memory call memory
    refine ⟨memory_perform_of_failed, ?_⟩
    intro left htold
    exact perform_of_rankTold htold

/-- A path and one size, each with more behind it, make the backend that copies vectors of two
values. A question about no backend writes nothing, and a shape for which there is no room has its
rank told. -/
theorem creation_faithful_copy :
    let p := { Params.default with dims := some [2, 7], ranks := some [1, 9], inputCount := 1 }
    let host : Host := .upTo 4096
    let d := Device.new .builtin none host
    let created := (start d).create Fleet.copyFiles host (some [99, 0, 5]) (some p) (some none)
    let s : Session := { start d with results := [some ⟨[[.f32 1]], [[1]]⟩] }
    let shown := s.perform (.outputShape (some ⟨0⟩) 0 0) (some [5], some 7)
    p.inputSizes = .ok [[2]] ∧ created.status = .ok ∧
      (s.perform (.inputCount none) (some 3)).memory = some 3 ∧
      shown.status = .invalidArgument ∧ shown.memory = (some [5], some 1) := by
  intro p host d created s shown
  have hpath : Tellable "c" := tellable_ofList rfl
  have hsizes : p.Holds [[2]] :=
    ⟨rfl, Or.inr ⟨[9], rfl⟩, Or.inr ⟨[7], rfl⟩, by decide⟩
  have hsetup :
      (Backend.setup Fleet.copyFiles host (p.configuration "c" [[2]])).toOption.isSome := by
    decide +kernel
  obtain ⟨hread, hmirrors⟩ :=
    creation_faithful.1 (start d) Fleet.copyFiles host "c" [5] p [[2]] none hpath hsizes
  have hbytes : Text.Utf8.encode "c" ++ 0 :: [5] = [99, 0, 5] := by decide
  rw [hbytes] at hmirrors
  refine ⟨hread, hmirrors.ok_iff.2 ?_, ?_, ?_⟩
  · cases hb : Backend.setup Fleet.copyFiles host (p.configuration "c" [[2]]) with
    | ok b => exact ⟨b, rfl⟩
    | error e =>
      rw [hb] at hsetup
      cases hsetup
  · have hfailed : (s.perform (.inputCount none) (some 3)).status ≠ .ok := by decide
    rcases (creation_faithful.2 s _ (.inputCount none) (some 3)).1 hfailed with hkept | htold
    · exact hkept
    · exact htold.elim
  · apply (creation_faithful.2 s _ (.outputShape (some ⟨0⟩) 0 0) (some [5], some 7)).2
    exact ⟨⟨[[.f32 1]], [[1]]⟩, [1], rfl, rfl, Or.inl (by decide), rfl⟩

end Session

end GraphServe.Boundary
