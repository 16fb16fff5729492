import GraphServe.Proofs.Fleet.Basic

/-!
# New sizes as a whole

Whatever happened to a fleet before, a member takes new sizes as a whole or not at all
(`reconfigure_atomic`): if they are refused, at whatever point, then the member is what it was and
so is the device, but for the next address, which may have advanced, and the record of what it took
back. A replacement may be refused by the limit or by the host, whatever its size.
-/

namespace GraphServe.Fleet

/-- A member takes new sizes as a whole or not at all. -/
theorem reconfigure_atomic (kernels : KernelTable) (limit : Option Nat) (host : Host)
    (calls : List Call) {b : EngineBackend}
    (hb : b ∈ ((start kernels limit host).run calls).members) (sizes : List (List Int64)) :
    let d := ((start kernels limit host).run calls).device
    (∀ e b' d', b.reconfigure d sizes = (.error e, b', d') →
      b' = b ∧ ∃ next frees, d.nextAddress ≤ next ∧
        d' = { d with nextAddress := next, frees }) ∧
    (∀ b' d', b.reconfigure d sizes = (.ok (), b', d') →
      b'.inputSizes = sizes ∧ ∃ shapes, b.newShapes? sizes = some shapes ∧
        b'.context.shapes = shapes.map some ∧
        b'.modelInfo = ModelInfo.ofRegistry b.graph.registry shapes b.batchSize) := by
  intro d
  have hf := consistent_run_start kernels limit host calls
  obtain ⟨slots, hserves⟩ := hf.serves b hb
  have hcases := EngineBackend.reconfigure_cases hserves d sizes
  constructor
  · intro e b' d' hrun
    rw [hrun] at hcases
    exact hcases.unchanged hf.orderly
  · intro b' d' hrun
    rw [hrun] at hcases
    exact hcases.taken

/-- The input has its larger buffer when the limit leaves no memory for that of the output; without
a limit, the host has none for that of the input. -/
theorem reconfigure_atomic_out_of_memory :
    let calls : List Call := [.build copyFiles copyConfig]
    (∃ f : Fleet, f = (start .builtin (some 40) (.upTo 4096)).run calls ∧
      ∃ b ∈ f.members, ∃ d', b.reconfigure f.device [[4]] = (.error (.outOfMemory 16 8), b, d') ∧
        ∃ next frees, d' = { f.device with nextAddress := next, frees }) ∧
    (∃ f : Fleet, f = (start .builtin none (.upTo 16)).run calls ∧
      ∃ b ∈ f.members, ∃ d', b.reconfigure f.device [[4]] = (.error (.outOfMemory 16 0), b, d') ∧
        ∃ next frees, d' = { f.device with nextAddress := next, frees }) := by
  intro calls
  have hrefused : ∀ limit host e,
      (∃ b, ((start .builtin limit host).run calls).members = [b] ∧
        (b.reconfigure ((start .builtin limit host).run calls).device [[4]]).1 = .error e) →
      ∃ f : Fleet, f = (start .builtin limit host).run calls ∧
        ∃ b ∈ f.members, ∃ d', b.reconfigure f.device [[4]] = (.error e, b, d') ∧
          ∃ next frees, d' = { f.device with nextAddress := next, frees } := by
    rintro limit host e ⟨b, hmembers, he⟩
    have hb : b ∈ ((start .builtin limit host).run calls).members := hmembers ▸ List.mem_cons_self
    rcases hrun : b.reconfigure ((start .builtin limit host).run calls).device [[4]] with
      ⟨result, b', d'⟩
    have hatomic := reconfigure_atomic .builtin limit host calls hb [[4]]
    rw [hrun] at he
    cases he
    obtain ⟨rfl, next, frees, -, hdevice⟩ := hatomic.1 e b' d' hrun
    exact ⟨_, rfl, b', hb, d', hrun, next, frees, hdevice⟩
  have hone : ∀ f : Fleet, f.members.length = 1 → ∀ e,
      (∀ b ∈ f.members, (b.reconfigure f.device [[4]]).1 = .error e) →
      ∃ b, f.members = [b] ∧ (b.reconfigure f.device [[4]]).1 = .error e := by
    intro f hlength e he
    obtain ⟨b, hmembers⟩ := List.length_eq_one_iff.1 hlength
    exact ⟨b, hmembers, he b (hmembers ▸ List.mem_cons_self)⟩
  constructor
  · exact hrefused (some 40) (.upTo 4096) _ (hone _ (by decide +kernel) _ (by decide +kernel))
  · exact hrefused none (.upTo 16) _ (hone _ (by decide +kernel) _ (by decide +kernel))

end GraphServe.Fleet
