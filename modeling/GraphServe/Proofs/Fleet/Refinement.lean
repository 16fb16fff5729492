import GraphServe.Proofs.Backend.Reference
import GraphServe.Proofs.Fleet.Basic

/-!
# Calls of members and the reference

Whatever happened to a fleet before, a call of a member gives what the reference gives for the
graph, the shapes, the policy and the inputs (`call_refines_reference`): neither what earlier calls
left in the buffers nor how the buffers came to be plays a part.
-/

namespace GraphServe.Fleet

/-- Without faults, a call that passes its checks gives what the reference gives, which fails only
as the kernel does; the kernel must not look at what its outputs held, and the builtin ones do
not. -/
theorem call_refines_reference (kernels : KernelTable) (limit : Option Nat) (host : Host)
    (calls : List Call) {b : EngineBackend}
    (hb : b ∈ ((start kernels limit host).run calls).members) {body : Kernel}
    (hblind : body.IgnoresOutputs)
    (hkernel :
      ((start kernels limit host).run calls).device.kernels.get? b.graph.kernel = some body)
    (hlaunch : ((start kernels limit host).run calls).device.launchFault = false)
    {inputs : List Bytes}
    (hunarmed : ¬ b.Armed ((start kernels limit host).run calls).device inputs)
    {shapes : List Shape} {expected : List Nat}
    (hscreen : b.screen inputs = .ok (shapes, expected)) (elapsed : Duration) :
    b.context.shapes = shapes.map some ∧
    (b.infer ((start kernels limit host).run calls).device inputs elapsed).1 =
      Reference.infer b.graph body b.policy shapes inputs ∧
    (∃ given cleared,
      Reference.inputViews b.policy b.graph.registry.inputs shapes inputs = .ok given ∧
      Reference.outputViews b.graph.registry.outputs (shapes.drop b.graph.registry.inputCount) =
        .ok cleared ∧
      ((body.run b.graph.payload given cleared).result = .ok () →
        ∃ output, Reference.infer b.graph body b.policy shapes inputs = .ok output)) ∧
    Kernel.identity.IgnoresOutputs ∧ Kernel.zeros.IgnoresOutputs := by
  have hf := consistent_run_start kernels limit host calls
  obtain ⟨slots, hserves⟩ := hf.serves b hb
  obtain ⟨ins, outs, hscreened⟩ := EngineBackend.exists_screened hserves hscreen
  refine ⟨?_, ?_, ⟨_, _, hscreened.given_eq, hscreened.cleared_eq, ?_⟩,
    Kernel.identity_ignoresOutputs, Kernel.zeros_ignoresOutputs⟩
  · rw [hscreened.serves.shapes_eq, hscreened.shapes_eq]
  · exact EngineBackend.infer_eq_reference hserves (hf.resides hb) hf.orderly hkernel hblind hlaunch
      hunarmed hscreen elapsed
  · exact hscreened.exists_reference_eq_ok

/-- A short input to the graph that copies, after a longer call and new sizes: the buffer is larger
than the shape and holds old bytes, of which nothing is seen. -/
theorem call_refines_reference_copy :
    let f := (start .builtin none (.upTo 4096)).run [.build copyFiles copyConfig,
      .infer 0 [[1, 2, 3, 4, 5, 6, 7, 8]] ⟨0⟩, .reconfigure 0 [[1]],
      .registerKernel "identity" .identity]
    ∃ b ∈ f.members, b.screen [[9]] = .ok ([⟨[1]⟩, ⟨[1]⟩], [4]) ∧
      (b.infer f.device [[9]] ⟨0⟩).1 = .ok ⟨[[.f32 9]], [[1]]⟩ := by
  intro f
  have hone : f.members.length = 1 := by decide +kernel
  obtain ⟨b, hmembers⟩ := List.length_eq_one_iff.1 hone
  have hb : b ∈ f.members := hmembers ▸ List.mem_cons_self
  have hname : ∀ b ∈ f.members, b.graph.kernel = "identity" := by decide +kernel
  have hscreen : ∀ b ∈ f.members, b.screen [[9]] = .ok ([⟨[1]⟩, ⟨[1]⟩], [4]) := by decide +kernel
  have hkernel : f.device.kernels.get? "identity" = some .identity := by
    show (KernelTable.insert _ "identity" .identity).get? "identity" = some .identity
    simp [KernelTable.get?, KernelTable.insert]
  have hreference : ∀ b ∈ f.members,
      Reference.infer b.graph .identity b.policy [⟨[1]⟩, ⟨[1]⟩] [[9]] =
        .ok ⟨[[.f32 9]], [[1]]⟩ := by decide +kernel
  rw [← hname b hb] at hkernel
  have hunarmed : ¬ b.Armed f.device [[9]] := by
    rintro (hfault | ⟨run, ⟨shapes, expected, d', body, -, -, hbody, rfl⟩, harms⟩)
    · have hquiet : f.device.transferFault = false := by decide +kernel
      rw [hquiet] at hfault
      cases hfault
    · rw [hkernel] at hbody
      cases hbody
      cases harms
  refine ⟨b, hb, hscreen b hb, ?_⟩
  rw [← hreference b hb]
  exact (call_refines_reference .builtin none (.upTo 4096) _ hb Kernel.identity_ignoresOutputs
    hkernel (by decide +kernel) hunarmed (hscreen b hb) ⟨0⟩).2.1

end GraphServe.Fleet
