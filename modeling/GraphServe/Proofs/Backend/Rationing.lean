import GraphServe.Proofs.Backend.Afresh
import GraphServe.Proofs.Device.Layout
import GraphServe.Proofs.Tensor.Size

/-!
# Memory under a limit

A device with a limit meets requests for memory one after the other as long as the limit leaves room
(`shortage?`). So all of a row are met exactly if they fit beside what is in use together, and else
the first one that passes the limit is refused, with what those before it left (`Rationed`). The
buffers of a graph are such a row, and so are the replacements for the buffers that have become too
small, which are made while the old ones are still there. What was made before a refusal is given
back (`memory_rationed`).
-/

namespace GraphServe

/-! ## Requests in a row -/

/-- Why not all requests are met, if they are made one after the other. -/
def shortage? (limit used : Nat) : List Nat → Option EngineError
  | [] => none
  | n :: rest =>
    if limit < used + n then some (.outOfMemory n (limit - used))
    else shortage? limit (used + n) rest

theorem shortage?_cons_of_lt {limit used n : Nat} (h : limit < used + n) (rest : List Nat) :
    shortage? limit used (n :: rest) = some (.outOfMemory n (limit - used)) := by
  rw [shortage?, if_pos h]

theorem shortage?_cons_of_le {limit used n : Nat} (h : used + n ≤ limit) (rest : List Nat) :
    shortage? limit used (n :: rest) = shortage? limit (used + n) rest := by
  rw [shortage?, if_neg (Nat.not_lt_of_le h)]

/-- All requests are met if and only if they fit together. -/
theorem shortage?_eq_none_iff {limit used : Nat} (huse : used ≤ limit) (requests : List Nat) :
    shortage? limit used requests = none ↔ used + requests.sum ≤ limit := by
  induction requests generalizing used with
  | nil => simpa [shortage?] using huse
  | cons n rest ih =>
    rw [List.sum_cons]
    rcases Nat.lt_or_ge limit (used + n) with hshort | hroom
    · rw [shortage?_cons_of_lt hshort]
      constructor
      · intro h
        cases h
      · omega
    · rw [shortage?_cons_of_le hroom, ih hroom, Nat.add_assoc]

/-- The request that is refused is the first one with which the requests pass the limit. -/
theorem exists_of_shortage?_eq_some {limit used : Nat} {requests : List Nat} {e : EngineError}
    (huse : used ≤ limit) (h : shortage? limit used requests = some e) :
    ∃ k n, requests[k]? = some n ∧ (∀ j ≤ k, used + (requests.take j).sum ≤ limit) ∧
      limit < used + (requests.take (k + 1)).sum ∧
      e = .outOfMemory n (limit - used - (requests.take k).sum) := by
  induction requests generalizing used with
  | nil => cases h
  | cons n rest ih =>
    rcases Nat.lt_or_ge limit (used + n) with hshort | hroom
    · rw [shortage?_cons_of_lt hshort] at h
      cases h
      refine ⟨0, n, rfl, ?_, by simpa using hshort, by simp⟩
      intro j hj
      obtain rfl := Nat.le_zero.1 hj
      simpa using huse
    · rw [shortage?_cons_of_le hroom] at h
      obtain ⟨k, m, hm, hfits, hpasses, rfl⟩ := ih hroom h
      refine ⟨k + 1, m, by simpa using hm, ?_, ?_, ?_⟩
      · intro j hj
        cases j with
        | zero => simpa using huse
        | succ j =>
          have hrest := hfits j (by omega)
          rw [List.take_succ_cons, List.sum_cons]
          omega
      · rw [List.take_succ_cons, List.sum_cons]
        omega
      · rw [List.take_succ_cons, List.sum_cons, Nat.sub_sub, Nat.sub_sub, Nat.add_assoc]

/-- Memory is rationed exactly: with so much in use under a limit, the whole of a row of requests is
granted if and only if the limit leaves room for their sum. Else the answer names the first request
whose sum with those before it passes the limit, and how much those before it left. -/
structure Rationed {Result : Type} (limit used : Nat) (requests : List Nat)
    (result : Except EngineError Result) : Prop where
  granted_iff : (∃ a, result = .ok a) ↔ used + requests.sum ≤ limit
  refused : limit < used + requests.sum → ∃ k n, requests[k]? = some n ∧
    (∀ j ≤ k, used + (requests.take j).sum ≤ limit) ∧
    limit < used + (requests.take (k + 1)).sum ∧
    result = .error (.outOfMemory n (limit - used - (requests.take k).sum))

/-- What is granted when there is no shortage is rationed. -/
theorem rationed_of_no_shortage {Result : Type} {limit used : Nat} {requests : List Nat}
    (huse : used ≤ limit) (h : shortage? limit used requests = none) (a : Result) :
    Rationed limit used requests (.ok a : Except EngineError Result) := by
  have hfits := (shortage?_eq_none_iff huse requests).1 h
  refine ⟨⟨fun _ => hfits, fun _ => ⟨a, rfl⟩⟩, fun hpasses => ?_⟩
  exact absurd hpasses (Nat.not_lt_of_le hfits)

/-- What is refused for the first shortage is rationed. -/
theorem rationed_of_shortage {Result : Type} {limit used : Nat} {requests : List Nat}
    {e : EngineError} (huse : used ≤ limit) (h : shortage? limit used requests = some e) :
    Rationed limit used requests (.error e : Except EngineError Result) := by
  obtain ⟨k, n, hn, hfits, hpasses, rfl⟩ := exists_of_shortage?_eq_some huse h
  refine ⟨⟨?_, fun hall => ?_⟩, fun _ => ⟨k, n, hn, hfits, hpasses, rfl⟩⟩
  · rintro ⟨a, ha⟩
    cases ha
  · -- requests that fit together leave no shortage
    rw [(shortage?_eq_none_iff huse requests).2 hall] at h
    cases h

theorem not_le_of_shortage {limit used : Nat} {requests : List Nat} {e : EngineError}
    (huse : used ≤ limit) (h : shortage? limit used requests = some e) :
    ¬ used + requests.sum ≤ limit := by
  rw [← shortage?_eq_none_iff huse, h]
  exact Option.some_ne_none e

/-! ## Byte sizes in a row -/

/-- Tensors at shapes, one for each, have these byte sizes. -/
inductive Sized : List Descriptor → List Shape → List Nat → Prop
  | nil : Sized [] [] []
  | cons {t : Descriptor} {s : Shape} {n : Nat} {tensors : List Descriptor} {shapes : List Shape}
    {sizes : List Nat} (first : t.requiredBytes s = .ok n) (rest : Sized tensors shapes sizes) :
    Sized (t :: tensors) (s :: shapes) (n :: sizes)

theorem Sized.length_shapes {tensors : List Descriptor} {shapes : List Shape} {sizes : List Nat}
    (h : Sized tensors shapes sizes) : shapes.length = tensors.length := by
  induction h with
  | nil => rfl
  | cons first rest ih => rw [List.length_cons, List.length_cons, ih]

/-- Slots have the sizes that they say. -/
theorem Sized.eq_bytes {slots : List Slot} {sizes : List Nat}
    (h : Sized (slots.map Slot.tensor) (slots.map Slot.shape) sizes) :
    sizes = slots.map Slot.bytes := by
  induction slots generalizing sizes with
  | nil =>
    cases h
    rfl
  | cons p slots ih =>
    cases h with
    | cons first rest =>
      rw [ih rest, List.map_cons]
      rw [p.bytes_eq] at first
      cases first
      rfl

/-- The host backs every request that the limit allows, whenever it comes. -/
def Backable (host : Host) (limit : Nat) (sizes : List Nat) : Prop :=
  ∀ n ∈ sizes, n ≤ limit → ∀ next, host.backs next n = true

/-! ## Allocating under a limit -/

variable {d d' : Device} {limit n : Nat}

/-- Under a limit a request is met if and only if there is room for it. -/
theorem Device.malloc_of_limit (hlimit : d.limit = some limit) (huse : d.inUse ≤ limit)
    (hbacked : n ≤ limit → ∀ next, d.host.backs next n = true) :
    d.malloc n =
      if limit < d.inUse + n then (.error (.outOfMemory n (limit - d.inUse)), d)
      else (.ok ⟨d.nextAddress⟩, d.withRegion n) := by
  split_ifs with hshort
  · have hunmet : limit - d.inUse < n ∨ d.backs n = false := Or.inl (by omega)
    simp only [malloc, refusal?, available?, hlimit, Option.map_some, if_pos hunmet]
  · apply malloc_of_room
    · intro limit' hlimit'
      obtain rfl : limit = limit' := Option.some.inj (hlimit.symm.trans hlimit')
      omega
    · exact hbacked (by omega) d.nextAddress

namespace Buffer

/-- A buffer for a tensor is refused for want of room, or takes as many bytes as the tensor needs. -/
theorem allocate_of_limit {t : Descriptor} {s : Shape} (hlimit : d.limit = some limit)
    (huse : d.inUse ≤ limit) (hbytes : t.requiredBytes s = .ok n)
    (hbacked : n ≤ limit → ∀ next, d.host.backs next n = true) :
    (limit < d.inUse + n ∧ allocate d t s = (.error (.outOfMemory n (limit - d.inUse)), d)) ∨
      (d.inUse + n ≤ limit ∧ ∃ u, allocate d t s = (.ok u, d.withRegion n)) := by
  obtain ⟨dtype, hdtype, -⟩ := Descriptor.requiredBytes_spec hbytes
  rw [allocate, hdtype]
  dsimp only
  rw [hbytes]
  dsimp only
  rw [Device.malloc_of_limit hlimit huse hbacked]
  split_ifs with hshort
  · exact Or.inl ⟨hshort, rfl⟩
  · exact Or.inr ⟨Nat.le_of_not_lt hshort, _, rfl⟩

/-- Buffers are allocated as if their sizes were requested in a row. -/
theorem allocateEach_of_limit {tensors : List Descriptor} {shapes : List Shape} {sizes : List Nat}
    (h : Sized tensors shapes sizes) (hlimit : d.limit = some limit) (huse : d.inUse ≤ limit)
    (hbacked : Backable d.host limit sizes) :
    (allocateEach d tensors shapes).1.failure = shortage? limit d.inUse sizes ∧
      ((allocateEach d tensors shapes).1.failure = none →
        (allocateEach d tensors shapes).2.inUse = d.inUse + sizes.sum) := by
  induction h generalizing d with
  | nil => exact ⟨rfl, fun _ => rfl⟩
  | @cons t s n tensors shapes sizes first rest ih =>
    obtain ⟨hfirst, hrest⟩ := List.forall_mem_cons.1 hbacked
    rw [allocateEach]
    rcases allocate_of_limit hlimit huse first hfirst with ⟨hshort, hrefused⟩ | ⟨hroom, u, hmade⟩
    · simp only [hrefused, shortage?_cons_of_lt hshort]
      refine ⟨rfl, fun hdone => ?_⟩
      cases hdone
    · -- the others meet a device on which as many bytes more are in use
      have hnext : (d.withRegion n).limit = some limit := hlimit
      obtain ⟨hfailure, hsum⟩ := ih hnext hroom hrest
      simp only [hmade, shortage?_cons_of_le hroom, Progress.after]
      refine ⟨hfailure, fun hdone => ?_⟩
      rw [hsum hdone, List.sum_cons, ← Nat.add_assoc]
      rfl

/-- All buffers of a graph are there, with so many more bytes in use, or none is and as many bytes
are in use as before. -/
theorem allocateAll_of_limit {r : Registry} {shapes : List Shape} {sizes : List Nat}
    (hd : d.Orderly) (h : Sized r.all shapes sizes) (hlimit : d.limit = some limit)
    (huse : d.inUse ≤ limit) (hbacked : Backable d.host limit sizes) :
    Rationed limit d.inUse sizes (allocateAll d r shapes).1 ∧
      (allocateAll d r shapes).2.inUse =
        if d.inUse + sizes.sum ≤ limit then d.inUse + sizes.sum else d.inUse := by
  have hcount : shapes.length = r.size := h.length_shapes
  obtain ⟨hfailure, hsum⟩ := allocateEach_of_limit h hlimit huse hbacked
  obtain ⟨hgrowth, -⟩ := allocateEach_spec d h.length_shapes
  rw [allocateAll, if_neg (not_not_intro hcount)]
  rcases hrun : allocateEach d r.all shapes with ⟨⟨made, _ | e⟩, d'⟩
  · rw [hrun] at hfailure hsum
    refine ⟨rationed_of_no_shortage huse hfailure.symm made, ?_⟩
    rw [if_pos ((shortage?_eq_none_iff huse sizes).1 hfailure.symm)]
    exact hsum rfl
  · rw [hrun] at hfailure hgrowth
    refine ⟨rationed_of_shortage huse hfailure.symm, ?_⟩
    -- what was allocated before the shortage is given back
    rw [if_neg (not_le_of_shortage huse hfailure.symm)]
    dsimp only
    rw [hgrowth.discardAll_eq hd]

end Buffer

/-! ## Replacements under a limit -/

/-- Giving back buffers that a device holds frees as many bytes. -/
theorem Buffer.Held.inUse_discardAll {buffers : List Buffer} (h : Buffer.Held buffers d)
    (hd : d.Orderly) :
    (Buffer.discardAll d buffers).inUse + (buffers.map Buffer.capacity).sum = d.inUse := by
  obtain ⟨others, hothers⟩ := h.exists_others
  have hreturned := Buffer.discardAll_spec hd hothers
  rw [hreturned.orderly.inUse_eq, hd.inUse_eq, (hothers.map Prod.snd).sum_eq,
    (hreturned.extents_perm.map Prod.snd).sum_eq, List.map_append, List.sum_append,
    Buffer.map_snd_map_extent, Nat.add_comm]

namespace EngineBackend

variable {files : Files} {config : BackendConfig} {b : EngineBackend} {slots filled : List Slot}

/-- The bytes that are asked for a tensor of so many bytes whose buffer has a capacity: none if it
fits there. -/
def replacementSize (bytes capacity : Nat) : Nat := if capacity < bytes then bytes else 0

/-- Replacements are made as if the sizes of those that are needed were requested in a row. -/
theorem failure_replacements {tensors : List Descriptor} {shapes : List Shape} {sizes : List Nat}
    {buffers : List Buffer} (h : Sized tensors shapes sizes) (hlength : buffers.length = tensors.length)
    (hlimit : d.limit = some limit) (huse : d.inUse ≤ limit)
    (hbacked : Backable d.host limit sizes) :
    (replacements d tensors shapes buffers).1.failure =
      shortage? limit d.inUse
        (List.zipWith replacementSize sizes (buffers.map Buffer.capacity)) := by
  induction h generalizing d buffers with
  | nil =>
    rw [List.length_nil, List.length_eq_zero_iff] at hlength
    subst hlength
    rfl
  | @cons t s n tensors shapes sizes first rest ih =>
    obtain ⟨u, buffers, rfl⟩ := List.exists_cons_of_length_eq_add_one hlength
    replace hlength : buffers.length = tensors.length := by simpa using hlength
    obtain ⟨hfirst, hrest⟩ := List.forall_mem_cons.1 hbacked
    rw [replacements, replacement, first, List.map_cons, List.zipWith_cons_cons]
    dsimp only
    by_cases hfits : n ≤ u.capacity
    · -- the buffer stays, and nothing is asked for
      have hnothing : replacementSize n u.capacity = 0 := if_neg (Nat.not_lt_of_le hfits)
      rw [if_pos hfits, hnothing, shortage?_cons_of_le huse]
      exact ih hlength hlimit huse hrest
    · have hwhole : replacementSize n u.capacity = n := if_pos (Nat.lt_of_not_le hfits)
      rw [if_neg hfits, hwhole]
      rcases Buffer.allocate_of_limit hlimit huse first hfirst with
        ⟨hshort, hrefused⟩ | ⟨hroom, v, hmade⟩
      · simp only [hrefused, shortage?_cons_of_lt hshort]
        rfl
      · have hnext : (d.withRegion n).limit = some limit := hlimit
        simp only [hmade, shortage?_cons_of_le hroom]
        exact ih hlength hnext hroom hrest

/-- Buffers that are renewed grow by what their tensors need beyond the old capacities. -/
theorem sum_capacity_of_renewed (h : List.Forall₂ Slot.Renewed slots filled) :
    ((filled.map Slot.buffer).map Buffer.capacity).sum =
      ((slots.map Slot.buffer).map Buffer.capacity).sum +
        (List.zipWith (· - ·) (filled.map Slot.bytes)
          ((slots.map Slot.buffer).map Buffer.capacity)).sum := by
  induction h with
  | nil => rfl
  | @cons p q slots filled first rest ih =>
    have hfirst := first.capacity_eq
    simp only [List.map_cons, List.zipWith_cons_cons, List.sum_cons, ih, hfirst]
    omega

/-- Once new sizes are taken, the bytes in use have grown by what the tensors need beyond the old
capacities: the displaced buffers are given back. -/
theorem inUse_of_replaced (hb : b.Serves slots) (hr : b.Resides d) (hd : d.Orderly)
    {vectors : List (List Int64)} {shapes : List Shape} {sizes : List Nat}
    {new : List (Option Buffer)} (hasked : b.asked vectors = .ok shapes)
    (hsized : Sized b.graph.registry.all shapes sizes)
    (hrun : replacements d b.graph.registry.all shapes b.buffers = (⟨new, none⟩, d')) :
    (Buffer.discardAll d' (displaced new b.buffers)).inUse =
      d.inUse + (List.zipWith (· - ·) sizes (b.buffers.map Buffer.capacity)).sum := by
  have hlength := length_of_asked hb hasked
  obtain ⟨hgrowth, hmade, -, -⟩ := replacements_spec d hlength
  rw [hb.tensors_eq, hb.buffers_eq] at hrun
  rw [hrun] at hgrowth hmade
  dsimp only at hgrowth hmade
  obtain ⟨filled, hrenewed, rfl, hbuffers⟩ := exists_renewed_of_replacements hlength hrun
  have htensors := (serves_resized hb (usable_of_asked hasked) hrenewed vectors).tensors_eq
  obtain rfl : sizes = filled.map Slot.bytes := by
    apply Sized.eq_bytes
    rwa [← htensors]
  have hcount : new.length ≤ (slots.map Slot.buffer).length := by rwa [List.length_map]
  -- the buffers in place and the displaced ones are the new ones and those from before
  have hperm := install_append_displaced_perm hcount
  have hheld : Buffer.Held
      (install new (slots.map Slot.buffer) ++ displaced new (slots.map Slot.buffer)) d' := by
    have hbefore := hr.held.grow hd hgrowth
    rw [hb.buffers_eq] at hbefore
    exact hbefore.perm hperm.symm
  have hfreed := hheld.right.inUse_discardAll (hgrowth.orderly hd)
  have hgrown := hgrowth.inUse_eq
  have hmoved := (hperm.map Buffer.capacity).sum_eq
  rw [List.map_append, List.map_append, List.sum_append, List.sum_append, ← hbuffers,
    sum_capacity_of_renewed hrenewed] at hmoved
  rw [hb.buffers_eq]
  omega

/-- A usable backend whose new shapes are resolved gets all the buffers that it needs beside the old
ones, or keeps those that it has. -/
theorem reconfigure_of_limit (hb : b.Serves slots) (hr : b.Resides d) (hd : d.Orderly)
    (hlimit : d.limit = some limit) (huse : d.inUse ≤ limit) {vectors : List (List Int64)}
    {shapes : List Shape} {sizes : List Nat} (hasked : b.asked vectors = .ok shapes)
    (hsized : Sized b.graph.registry.all shapes sizes) (hbacked : Backable d.host limit sizes) :
    let capacities := b.buffers.map Buffer.capacity
    let requests := List.zipWith replacementSize sizes capacities
    Rationed limit d.inUse requests (b.reconfigure d vectors).1 ∧
      (b.reconfigure d vectors).2.2.inUse =
        if d.inUse + requests.sum ≤ limit then d.inUse + (List.zipWith (· - ·) sizes capacities).sum
        else d.inUse := by
  intro capacities requests
  have hlength : b.buffers.length = b.graph.registry.all.length := by
    rw [hb.buffers_eq, hb.tensors_eq, List.length_map, List.length_map]
  have hfailure := failure_replacements hsized hlength hlimit huse hbacked
  have hgrowth := (replacements_spec d (length_of_asked hb hasked)).1
  rw [← hb.tensors_eq, ← hb.buffers_eq] at hgrowth
  rw [reconfigure_eq hb, hasked]
  dsimp only
  rcases hrun : replacements d b.graph.registry.all shapes b.buffers with ⟨⟨new, _ | e⟩, d'⟩
  · rw [hrun] at hfailure
    refine ⟨rationed_of_no_shortage huse hfailure.symm (), ?_⟩
    rw [if_pos ((shortage?_eq_none_iff huse requests).1 hfailure.symm)]
    exact inUse_of_replaced hb hr hd hasked hsized hrun
  · rw [hrun] at hfailure hgrowth
    refine ⟨rationed_of_shortage huse hfailure.symm, ?_⟩
    -- the old buffers are untouched, and the new ones are given back
    rw [if_neg (not_le_of_shortage huse hfailure.symm)]
    dsimp only
    rw [hgrowth.discardAll_eq hd]

/-- Whatever was done with a device under a limit, the buffers of a graph are allocated on it if and
only if they fit beside what is in use, which then grows by their sizes. However a backend came to
be where it is, once its new shapes are resolved it takes them if and only if new buffers for the
tensors that have outgrown theirs fit beside all that is in use, which then grows by what these
tensors need beyond the old capacities. Otherwise either one is refused with the first request that
passes the limit, and as much is in use as before. -/
theorem memory_rationed (limit : Nat) :
    (∀ (kernels : KernelTable) (host : Host) (operations : List Device.Operation) (r : Registry)
      (shapes : List Shape) (sizes : List Nat),
      let d := (Device.new kernels (some limit) host).run operations
      Sized r.all shapes sizes → Backable d.host limit sizes →
        d.inUse ≤ limit ∧ Rationed limit d.inUse sizes (Buffer.allocateAll d r shapes).1 ∧
        (Buffer.allocateAll d r shapes).2.inUse =
          if d.inUse + sizes.sum ≤ limit then d.inUse + sizes.sum else d.inUse) ∧
    ∀ (files : Files) (config : BackendConfig) (b : EngineBackend) (d : Device)
      (vectors : List (List Int64)) (shapes : List Shape) (sizes : List Nat),
      Aged files config b d → d.limit = some limit → d.inUse ≤ limit →
      b.asked vectors = .ok shapes → Sized b.graph.registry.all shapes sizes →
      Backable d.host limit sizes →
        let capacities := b.buffers.map Buffer.capacity
        let requests := List.zipWith replacementSize sizes capacities
        Rationed limit d.inUse requests (b.reconfigure d vectors).1 ∧
        (b.reconfigure d vectors).2.2.inUse =
          if d.inUse + requests.sum ≤ limit then
            d.inUse + (List.zipWith (· - ·) sizes capacities).sum
          else d.inUse := by
  constructor
  · intro kernels host operations r shapes sizes d hsized hbacked
    have hnew : (Device.new kernels (some limit) host).Reached := .new kernels (some limit) host
    have hlaid : d.LaidOut (some limit) :=
      (Device.LaidOut.new kernels (some limit) host).run hnew operations
    have huse : d.inUse ≤ limit := hlaid.within limit rfl
    have horderly : d.Orderly := (hnew.run operations).orderly
    exact ⟨huse, Buffer.allocateAll_of_limit horderly hsized hlaid.limit_eq huse hbacked⟩
  · intro files config b d vectors shapes sizes haged hlimit huse hasked hsized hbacked
    obtain ⟨hheritage, hr, hd⟩ := haged.spec
    obtain ⟨slots, hb⟩ := hheritage.serves
    exact reconfigure_of_limit hb hr hd hlimit huse hasked hsized hbacked

/-- On forty bytes, vectors of four values fit twice, but not beside vectors of two values: of two
requests for sixteen bytes beside sixteen bytes in use the second finds eight bytes left. -/
theorem memory_rationed_copy :
    ∃ b d,
      build Fleet.copyFiles Fleet.copyConfig (Device.new .builtin (some 40) (.upTo 4096)) =
        (.ok b, d) ∧
      (Buffer.allocateAll ((Device.new .builtin (some 40) (.upTo 4096)).run []) b.graph.registry
        [⟨[4]⟩, ⟨[4]⟩]).2.inUse = 32 ∧
      (b.reconfigure d [[4]]).1 = .error (.outOfMemory 16 8) ∧
      (b.reconfigure d [[4]]).2.2.inUse = 16 := by
  let start := build Fleet.copyFiles Fleet.copyConfig (Device.new .builtin (some 40) (.upTo 4096))
  let tensor : String → Direction → Descriptor := fun name direction =>
    ⟨name, direction, .f32, ⟨[.dynamic "N"], by decide⟩⟩
  have hstart : (start.1.map fun b => (b.graph.registry.all, b.asked [[4]],
      b.buffers.map Buffer.capacity)) =
      .ok ([tensor "x" .input, tensor "y" .output], .ok [⟨[4]⟩, ⟨[4]⟩], [8, 8]) := by
    decide +kernel
  have hdevice : start.2.limit = some 40 ∧ start.2.inUse = 16 := by decide +kernel
  rcases hbuild : start with ⟨e | b, d⟩
  · rw [hbuild] at hstart
    cases hstart
  rw [hbuild] at hstart hdevice
  obtain ⟨hall, hasked, hcapacities⟩ : b.graph.registry.all = _ ∧ b.asked [[4]] = _ ∧
      b.buffers.map Buffer.capacity = _ := by
    simpa only [Prod.mk.injEq] using Except.ok.inj hstart
  obtain ⟨hlimit, hinUse⟩ : d.limit = some 40 ∧ d.inUse = 16 := hdevice
  have hhost : d.host = .upTo 4096 := host_of_build hbuild
  have hsized : Sized b.graph.registry.all [⟨[4]⟩, ⟨[4]⟩] [16, 16] := by
    rw [hall]
    exact .cons rfl (.cons rfl .nil)
  have hbacked : Backable (.upTo 4096) 40 [16, 16] := by
    intro n hn hle next
    exact decide_eq_true (by omega)
  obtain ⟨hallocate, hreconfigure⟩ := memory_rationed 40
  have hfresh := hallocate .builtin (.upTo 4096) [] _ _ _ hsized hbacked
  have haged : Aged Fleet.copyFiles Fleet.copyConfig b d :=
    .built (Device.orderly_new .builtin (some 40) (.upTo 4096)) hbuild
  have hsecond := hreconfigure _ _ _ _ [[4]] _ _ haged hlimit (by rw [hinUse]; decide) hasked
    hsized (hhost.symm ▸ hbacked)
  simp only [hcapacities, hinUse] at hsecond
  refine ⟨b, d, hbuild, hfresh.2.2, ?_, hsecond.2⟩
  obtain ⟨k, n, hn, hfits, hpasses, hrefused⟩ := hsecond.1.refused (by decide)
  -- the first request still fits, and there is no third
  match k, hn, hpasses with
  | 0, _, hpasses => exact absurd hpasses (by decide)
  | 1, hn, _ =>
    cases hn
    exact hrefused
  | k + 2, hn, _ => cases hn

end EngineBackend

end GraphServe
