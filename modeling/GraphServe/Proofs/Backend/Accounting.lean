import GraphServe.Proofs.Backend.HighWater

/-!
# Refused calls and counted calls

A call passes its checks exactly if the backend is usable, there is one buffer for each input, and
under a strict policy each is as long as its tensor needs (`EngineBackend.Accepts`). Any other call
is refused for the first of these that fails (`EngineBackend.Refusal`), and leaves no trace but one
more failed call. Each call adds one to one of the two counters and nothing else does, so that after
any row of uses they are the numbers of calls that were answered and of calls that failed
(`EngineBackend.every_call_counted`).
-/

namespace GraphServe

/-! ## The first buffer of a wrong size -/

/-- If a check of lengths fails then it is strict, and it fails at the first input whose length is
not that of its slot. -/
theorem Transfer.exists_mismatch {policy : SizePolicy} {slots : List Slot} {more : List Shape}
    {inputs : List Bytes} {e : EngineError} (hcount : inputs.length = slots.length)
    (h : expectedSizes policy (slots.map Slot.tensor) (slots.map Slot.shape ++ more) inputs =
      .error e) :
    policy = .strict ∧ ∃ (ordinal : Nat) (p : Slot) (data : Bytes), slots[ordinal]? = some p ∧
      inputs[ordinal]? = some data ∧ data.length ≠ p.bytes ∧
      (∀ i < ordinal, inputs[i]?.map List.length = slots[i]?.map Slot.bytes) ∧
      e = .inputSize p.tensor.name p.bytes data.length := by
  induction slots generalizing inputs with
  | nil =>
    rw [List.length_nil, List.length_eq_zero_iff] at hcount
    subst hcount
    cases h
  | cons p slots ih =>
    obtain ⟨data, inputs, rfl⟩ := List.exists_cons_of_length_eq_add_one hcount
    replace hcount : inputs.length = slots.length := by simpa using hcount
    simp only [List.map_cons, List.cons_append, expectedSizes, p.bytes_eq, ok_bind] at h
    by_cases hrefused : data.length ≠ p.bytes ∧ policy = .strict
    · rw [if_pos hrefused] at h
      cases h
      exact ⟨hrefused.2, 0, p, data, rfl, rfl, hrefused.1, by simp, rfl⟩
    · rw [if_neg hrefused] at h
      rcases bind_eq_error_iff.1 h with hrest | ⟨others, -, h⟩
      · obtain ⟨hstrict, ordinal, q, data', hq, hdata', hwrong, hearlier, rfl⟩ := ih hcount hrest
        refine ⟨hstrict, ordinal + 1, q, data', by simpa using hq, by simpa using hdata', hwrong,
          ?_, rfl⟩
        intro i hi
        cases i with
        | zero =>
          -- under a strict policy this input was passed for its length
          have hlength : data.length = p.bytes := by
            by_contra hne
            exact hrefused ⟨hne, hstrict⟩
          simp [hlength]
        | succ i => simpa using hearlier i (by omega)
      · cases h

namespace EngineBackend

variable {b : EngineBackend} {slots ins outs : List Slot} {inputs : List Bytes}

/-! ## Calls that are accepted, and calls that are refused -/

/-- A buffer is as long as the tensor with an ordinal needs at its resolved shape. -/
def Fits (b : EngineBackend) (ordinal : Nat) (data : Bytes) : Prop :=
  b.graph.registry.needed? ordinal b.context.shapes = some data.length

/-- The backend accepts a call with these inputs. -/
structure Accepts (b : EngineBackend) (inputs : List Bytes) : Prop where
  usable : b.failure = none
  count_eq : inputs.length = b.graph.registry.inputCount
  fits : b.policy = .strict → ∀ ordinal data, inputs[ordinal]? = some data → b.Fits ordinal data

/-- Why the backend refuses a call with these inputs: it is unusable, or else there are too few
inputs or too many, or else the first of them that does not fit is not as long as it should be. -/
inductive Refusal (b : EngineBackend) (inputs : List Bytes) : EngineError → Prop
  | unusable (reason : String) (spoiled : b.failure = some reason) :
    Refusal b inputs (.unusable reason)
  | inputCount (usable : b.failure = none)
    (miscounted : inputs.length ≠ b.graph.registry.inputCount) :
    Refusal b inputs (.inputCount b.graph.registry.inputCount inputs.length)
  | inputSize (usable : b.failure = none) (count_eq : inputs.length = b.graph.registry.inputCount)
    (strict : b.policy = .strict) (ordinal : Nat) (t : Descriptor) (data : Bytes) (expected : Nat)
    (tensor_eq : b.graph.registry.get? ordinal = some t) (data_eq : inputs[ordinal]? = some data)
    (needed_eq : b.graph.registry.needed? ordinal b.context.shapes = some expected)
    (wrong : data.length ≠ expected)
    (earlier : ∀ i < ordinal, ∀ data, inputs[i]? = some data → b.Fits i data) :
    Refusal b inputs (.inputSize t.name expected data.length)

/-- A call is not both accepted and refused. -/
theorem Refusal.not_accepts {e : EngineError} (h : b.Refusal inputs e) : ¬ b.Accepts inputs := by
  intro haccepts
  cases h with
  | unusable reason spoiled =>
    rw [haccepts.usable] at spoiled
    cases spoiled
  | inputCount usable miscounted => exact miscounted haccepts.count_eq
  | inputSize usable count_eq strict ordinal t data expected tensor_eq data_eq needed_eq wrong =>
    have hfits : b.Fits ordinal data := haccepts.fits strict ordinal data data_eq
    rw [Fits, needed_eq] at hfits
    exact wrong (Option.some.inj hfits).symm

/-- A buffer fits an input if it is as long as the slot says. -/
theorem fits_iff (hb : b.Serves (ins ++ outs)) {ordinal : Nat} (hlt : ordinal < ins.length)
    (data : Bytes) : b.Fits ordinal data ↔ ins[ordinal]?.map Slot.bytes = some data.length := by
  rw [Fits, hb.shapes_eq, Registry.needed?_of_slots hb.tensors_eq, List.getElem?_append_left hlt]

/-- The checks in front of the device accept a call or refuse it. -/
theorem screen_accepts_or_refuses (hb : b.Serves slots) (inputs : List Bytes) :
    (b.Accepts inputs ∧ ∃ passed, b.screen inputs = .ok passed) ∨
      ∃ e, b.Refusal inputs e ∧ b.screen inputs = .error e := by
  obtain ⟨ins, outs, rfl, hins, -⟩ := hb.split
  cases hfailure : b.failure with
  | some reason =>
    refine Or.inr ⟨.unusable reason, .unusable reason hfailure, ?_⟩
    simp only [screen, ensureUsable, hfailure, error_bind]
  | none =>
    have hinputs : b.graph.registry.inputCount = ins.length := by
      rw [Registry.inputCount, hins, List.length_map]
    have hshapes := hb.resolvedShapes_eq hfailure
    simp only [screen, ensureUsable, hfailure, hshapes, ok_bind, Transfer.validate]
    by_cases hcount : inputs.length = b.graph.registry.inputCount
    · rw [if_neg (not_not_intro hcount), hins, List.map_append]
      have hlength : inputs.length = ins.length := hcount.trans hinputs
      have hinside : ∀ {i data}, inputs[i]? = some data → i < ins.length := by
        intro i data hdata
        exact hlength ▸ (List.getElem?_eq_some_iff.1 hdata).1
      cases hsizes : Transfer.expectedSizes b.policy (ins.map Slot.tensor)
        (ins.map Slot.shape ++ outs.map Slot.shape) inputs with
      | ok expected =>
        refine Or.inl ⟨⟨hfailure, hcount, fun hstrict i data hdata => ?_⟩, _, rfl⟩
        rcases Transfer.expectedSizes_cases b.policy (outs.map Slot.shape) hlength with
          ⟨-, hlengths⟩ | ⟨-, tensor, a, c, herror⟩
        · -- the lengths are those of the slots, one by one
          have hplace := congrArg (fun lengths => lengths[i]?) (hlengths hstrict)
          rw [fits_iff hb (hinside hdata)]
          simp only [List.getElem?_map, hdata, Option.map_some] at hplace
          exact hplace.symm
        · rw [hsizes] at herror
          cases herror
      | error e =>
        obtain ⟨hstrict, ordinal, p, data, hp, hdata, hwrong, hearlier, rfl⟩ :=
          Transfer.exists_mismatch hlength hsizes
        have hslot : (ins ++ outs)[ordinal]? = some p := by
          rw [List.getElem?_append_left (hinside hdata), hp]
        refine Or.inr ⟨_, .inputSize hfailure hcount hstrict ordinal p.tensor data p.bytes ?_ hdata ?_
          hwrong ?_, rfl⟩
        · rw [Registry.get?, hb.tensors_eq, List.getElem?_map, hslot, Option.map_some]
        · rw [hb.shapes_eq, Registry.needed?_of_slots hb.tensors_eq, hslot, Option.map_some]
        · intro i hi data' hdata'
          rw [fits_iff hb (hinside hdata'), ← hearlier i hi, hdata', Option.map_some]
    · rw [if_pos hcount]
      exact Or.inr ⟨_, .inputCount hfailure hcount, rfl⟩

/-- A call passes its checks if and only if the backend accepts it. -/
theorem screen_iff_accepts (hb : b.Serves slots) (inputs : List Bytes) :
    (∃ passed, b.screen inputs = .ok passed) ↔ b.Accepts inputs := by
  rcases screen_accepts_or_refuses hb inputs with ⟨haccepts, hpassed⟩ | ⟨e, hrefusal, hscreen⟩
  · exact ⟨fun _ => haccepts, fun _ => hpassed⟩
  · refine ⟨?_, fun haccepts => (hrefusal.not_accepts haccepts).elim⟩
    rintro ⟨passed, hpassed⟩
    rw [hscreen] at hpassed
    cases hpassed

/-- A call that is not accepted fails for its refusal, and but for the count of failed calls nothing
of the backend or of the device has changed. -/
theorem infer_of_not_accepts (hb : b.Serves slots) (h : ¬ b.Accepts inputs) (d : Device)
    (elapsed : Duration) :
    ∃ e, b.Refusal inputs e ∧ b.infer d inputs elapsed =
      (.error e, { b with stats := { b.stats with failed := b.stats.failed + 1 } }, d) := by
  rcases screen_accepts_or_refuses hb inputs with ⟨haccepts, -⟩ | ⟨e, hrefusal, hscreen⟩
  · exact (h haccepts).elim
  · refine ⟨e, hrefusal, ?_⟩
    rw [infer, hscreen]
    rfl

/-! ## The counters -/

/-- A call is counted by the way it ended. -/
theorem stats_infer (b : EngineBackend) (d : Device) (inputs : List Bytes) (elapsed : Duration) :
    (b.infer d inputs elapsed).2.1.stats =
      if (b.infer d inputs elapsed).1.isOk then b.stats.recordSuccess elapsed
      else b.stats.recordFailure := by
  rw [infer]
  cases b.screen inputs with
  | error e => rfl
  | ok passed =>
    rcases hrun : b.execute d inputs passed.2 passed.1 with ⟨e | output, context, d'⟩
    · simp only [hrun]
      show (b.afterFailure context e).stats = b.stats.recordFailure
      rw [afterFailure]
      split
      · rfl
      · rfl
    · simp only [hrun]
      rfl

/-- New sizes are not counted. -/
theorem stats_reconfigure (hb : b.Serves slots) (d : Device) (sizes : List (List Int64)) :
    (b.reconfigure d sizes).2.1.stats = b.stats := by
  have hcases := reconfigure_cases hb d sizes
  generalize b.reconfigure d sizes = run at hcases
  cases hcases with
  | undone => rfl
  | done => rfl

/-- What the calls of a row of uses gave, in order. -/
def answers (b : EngineBackend) : List Use → List (Except EngineError InferenceOutput)
  | [] => []
  | .infer d inputs elapsed :: rest =>
    (b.infer d inputs elapsed).1 :: (b.use (.infer d inputs elapsed)).answers rest
  | .reconfigure d sizes :: rest => (b.use (.reconfigure d sizes)).answers rest

/-- Over a row of uses one counter grows by the number of answered calls and the other by the number
of failed ones. -/
theorem stats_useEach (hb : b.Serves slots) (uses : List Use) :
    (b.useEach uses).stats.total = b.stats.total + (b.answers uses).countP (·.isOk) ∧
      (b.useEach uses).stats.failed = b.stats.failed + (b.answers uses).countP (!·.isOk) := by
  -- on the row, with the backend as each use finds it
  induction uses generalizing b slots with
  | nil => exact ⟨rfl, rfl⟩
  | cons u rest ih =>
    obtain ⟨slots', hb', -⟩ := exists_serves_useEach hb [u]
    obtain ⟨htotal, hfailed⟩ := ih (b := b.use u) hb'
    rw [useEach, List.foldl_cons, ← useEach, htotal, hfailed]
    cases u with
    | reconfigure d sizes =>
      rw [answers, show (b.use (.reconfigure d sizes)).stats = b.stats from
        stats_reconfigure hb d sizes]
      exact ⟨rfl, rfl⟩
    | infer d inputs elapsed =>
      rw [answers, List.countP_cons, List.countP_cons,
        show (b.use (.infer d inputs elapsed)).stats = _ from stats_infer b d inputs elapsed]
      cases (b.infer d inputs elapsed).1.isOk with
      | true =>
        simp only [if_true, Stats.recordSuccess, Bool.not_true, Bool.false_eq_true, if_false]
        omega
      | false =>
        simp only [Bool.false_eq_true, if_false, Stats.recordFailure, Bool.not_false, if_true]
        omega

/-- A backend is built and used in any way, on devices in any state. Its checks pass the calls that
it accepts and no others; a call that they do not pass fails for the first thing that is wrong and
changes one counter, and nothing on the device; and its counters are the numbers of calls that were
answered and that failed. -/
theorem every_call_counted {files : Files} {config : BackendConfig} {d₀ d₁ : Device}
    {b₀ : EngineBackend} (h : build files config d₀ = (.ok b₀, d₁)) (uses : List Use) :
    let b := b₀.useEach uses
    (∀ inputs, (∃ passed, b.screen inputs = .ok passed) ↔ b.Accepts inputs) ∧
    (∀ inputs, ¬ b.Accepts inputs → ∀ d elapsed, ∃ e, b.Refusal inputs e ∧
      b.infer d inputs elapsed =
        (.error e, { b with stats := { b.stats with failed := b.stats.failed + 1 } }, d)) ∧
    b.stats.total = (b₀.answers uses).countP (·.isOk) ∧
    b.stats.failed = (b₀.answers uses).countP (!·.isOk) := by
  intro b
  obtain ⟨slots₀, hb₀⟩ := (Reached.built h).exists_serves
  obtain ⟨slots, hb, -⟩ := exists_serves_useEach hb₀ uses
  have hzero : b₀.stats = .zero := by
    obtain ⟨graph, shapes, -, -, -, -, hassembled⟩ := exists_of_build_eq_ok h
    rw [hassembled]
    rfl
  obtain ⟨htotal, hfailed⟩ := stats_useEach hb₀ uses
  rw [hzero] at htotal hfailed
  refine ⟨screen_iff_accepts hb, ?_, ?_, ?_⟩
  · intro inputs hnot d elapsed
    exact infer_of_not_accepts hb hnot d elapsed
  · exact htotal.trans (Nat.zero_add _)
  · exact hfailed.trans (Nat.zero_add _)

/-- A call is answered; then the sizes are doubled, so that a buffer of the old length is refused,
and so is a call without any, whatever the device is like. -/
theorem every_call_counted_copy :
    ∃ b d, build Fleet.copyFiles { Fleet.copyConfig with policy := .strict }
        (Device.new .builtin none (.upTo 4096)) = (.ok b, d) ∧
      let data : Bytes := [1, 2, 3, 4, 5, 6, 7, 8]
      let b' := b.useEach [.infer d [data] ⟨0⟩, .reconfigure d [[4]], .infer d [data] ⟨0⟩]
      b'.stats.total = 1 ∧ b'.stats.failed = 1 ∧
      ∀ d' elapsed, b'.infer d' [] elapsed =
        (.error (.inputCount 1 0), { b' with stats := { b'.stats with failed := 2 } }, d') := by
  let start := build Fleet.copyFiles { Fleet.copyConfig with policy := .strict }
    (Device.new .builtin none (.upTo 4096))
  let data : Bytes := [1, 2, 3, 4, 5, 6, 7, 8]
  let row : Device → List Use := fun d =>
    [.infer d [data] ⟨0⟩, .reconfigure d [[4]], .infer d [data] ⟨0⟩]
  have hrow : (start.1.map fun b => ((b.answers (row start.2)).countP (·.isOk),
      (b.answers (row start.2)).countP (!·.isOk),
      (b.useEach (row start.2)).graph.registry.inputCount, (b.useEach (row start.2)).failure)) =
      .ok (1, 1, 1, none) := by
    decide +kernel
  rcases hbuild : start with ⟨e | b, d⟩
  · rw [hbuild] at hrow
    cases hrow
  rw [hbuild] at hrow
  obtain ⟨hanswered, hothers, hcount, husable⟩ : (b.answers (row d)).countP (·.isOk) = 1 ∧
      (b.answers (row d)).countP (!·.isOk) = 1 ∧
      (b.useEach (row d)).graph.registry.inputCount = 1 ∧ (b.useEach (row d)).failure = none := by
    simpa only [Prod.mk.injEq] using Except.ok.inj hrow
  obtain ⟨-, hrefused, htotal, hfailed⟩ := every_call_counted hbuild (row d)
  rw [hanswered] at htotal
  rw [hothers] at hfailed
  refine ⟨b, d, hbuild, htotal, hfailed, fun d' elapsed => ?_⟩
  have hnot : ¬ (b.useEach (row d)).Accepts [] := by
    intro haccepts
    have hempty := haccepts.count_eq
    rw [hcount] at hempty
    cases hempty
  obtain ⟨e, hrefusal, hinfer⟩ := hrefused [] hnot d' elapsed
  rw [hfailed] at hinfer
  -- the backend is usable, and no buffer is there that could be too long
  cases hrefusal with
  | unusable reason spoiled =>
    rw [husable] at spoiled
    cases spoiled
  | inputCount usable miscounted =>
    rw [hcount] at hinfer
    exact hinfer
  | inputSize usable count_eq strict ordinal t data expected tensor_eq data_eq => cases data_eq

end EngineBackend

end GraphServe
