import GraphServe.Proofs.Backend.Serving

/-!
# New sizes for a backend

Taking new sizes ends in one of two ways (`reconfigure_cases`). Either it is undone: the backend is
what it was, and the device made no buffers but such as it gave back again. Or it is done: the
device grew by replacements, the buffers they displaced were given back, and the backend serves the
same tensors at new shapes.
-/

namespace GraphServe.EngineBackend

open Buffer (Growth)

variable {b : EngineBackend} {slots : List Slot} {d : Device}

/-- The shapes that new sizes ask for, if they are accepted. -/
def newShapes? (b : EngineBackend) (sizes : List (List Int64)) : Option (List Shape) :=
  match b.ensureUsable, b.context.resetShapes with
  | .ok (), (.ok (), context) => (context.resolve b.batchSize sizes).1.toOption
  | _, _ => none

/-- The ways new sizes are refused: the backend is unusable, a shape does not do, or there is no
memory for a replacement. -/
inductive ReconfigureFailure (b : EngineBackend) : EngineError → Prop
  | unusable (reason : String) (spoiled : b.failure = some reason) :
    ReconfigureFailure b (.unusable reason)
  | shape {e : EngineError} (cause : e.IsShapeError) : ReconfigureFailure b e
  | outOfMemory (requested available : Nat) :
    ReconfigureFailure b (.outOfMemory requested available)

/-- What taking new sizes gives and leaves. -/
inductive Reconfiguring (b : EngineBackend) (d : Device) (sizes : List (List Int64)) :
    Outcome (EngineBackend × Device) Unit → Prop
  | undone {e : EngineError} {fresh : List Buffer} {d' : Device}
    (cause : b.ReconfigureFailure e) (growth : Growth d fresh d') :
    Reconfiguring b d sizes (.error e, b, Buffer.discardAll d' fresh)
  | done {filled : List Slot} {fresh old : List Buffer} {d' : Device} (usable : b.failure = none)
    (accepted : b.newShapes? sizes = some (filled.map Slot.shape))
    (tensors_eq : b.graph.registry.all = filled.map Slot.tensor) (growth : Growth d fresh d')
    (perm : (filled.map Slot.buffer ++ old).Perm (fresh ++ b.buffers)) :
    Reconfiguring b d sizes
      (.ok (),
        { b with
          context := { b.context with
            phase := .ready, shapes := (filled.map Slot.shape).map some, bindings := [] }
          buffers := filled.map Slot.buffer
          modelInfo := ModelInfo.ofRegistry b.graph.registry (filled.map Slot.shape) b.batchSize
          inputSizes := sizes },
        Buffer.discardAll d' old)

/-- Resetting a ready context leaves it blank. -/
theorem resetShapes_eq (hb : b.Serves slots) (husable : b.failure = none) :
    b.context.resetShapes = (.ok (), b.context.cleared) := by
  rw [Context.resetShapes, Context.expect_eq_ok (by simp [hb.phase_of_usable husable])]
  rfl

theorem blank_cleared (hb : b.Serves slots) : b.context.cleared.Blank := by
  refine ⟨rfl, ?_, rfl⟩
  rw [Context.cleared, List.length_map]
  exact hb.length_shapes

/-- A snapshot undoes what was tried on the context. -/
theorem restore_cleared (hb : b.Serves slots) {phase : Phase} (hphase : phase ≠ .poisoned)
    {shapes : List (Option Shape)} :
    { b with
      context := Context.restore { b.context.cleared with phase, shapes } b.context.snapshot } =
        b := by
  have hback := @Context.restore_snapshot b.context { b.context.cleared with phase, shapes }
  rw [hback rfl rfl hphase hb.bindings_eq]

/-- Whatever the sizes are, they are taken as a whole or not at all. -/
theorem reconfigure_cases (hb : b.Serves slots) (d : Device) (sizes : List (List Int64)) :
    Reconfiguring b d sizes (b.reconfigure d sizes) := by
  cases hfailure : b.failure with
  | some reason =>
    simp only [reconfigure, ensureUsable, hfailure]
    exact .undone (.unusable reason hfailure) (.refl d)
  | none =>
    have husable : b.ensureUsable = .ok () := by rw [ensureUsable, hfailure]
    simp only [reconfigure, husable, resetShapes_eq hb hfailure]
    rcases Context.resolve_cases (blank_cleared hb) b.batchSize sizes with
      ⟨e, slots', he, hresolve⟩ | ⟨shapes, hlength, hresolve⟩
    · simp only [hresolve]
      rw [restore_cleared hb Phase.noConfusion]
      exact .undone (.shape he) (.refl d)
    · simp only [hresolve]
      -- there is one shape for each slot, so that the replacements run over all of them
      have hcount : shapes.length = slots.length := hlength.trans hb.length_slots.symm
      obtain ⟨hgrowth, hmade, hcause, hfilled⟩ := replacements_spec d hcount
      rw [← hb.tensors_eq, ← hb.buffers_eq] at hgrowth hcause hfilled hmade
      rcases hrun : replacements d b.graph.registry.all shapes b.buffers with ⟨⟨new, _ | e⟩, d'⟩
      · rw [hrun] at hgrowth hfilled hmade
        obtain ⟨filled, htensors, rfl, hbuffers⟩ := hfilled rfl
        have hkept : new.length ≤ b.buffers.length := by
          rw [hb.buffers_eq, List.length_map]
          exact hmade
        have hperm := install_append_displaced_perm hkept
        have haccepted : b.newShapes? sizes = some (filled.map Slot.shape) := by
          simp only [newShapes?, husable, resetShapes_eq hb hfailure, hresolve, Except.toOption]
        simp only [Buffer.releaseAll_snd] at hbuffers ⊢
        rw [← hbuffers] at hperm ⊢
        exact .done hfailure haccepted htensors.symm hgrowth hperm
      · rw [hrun] at hgrowth hcause
        simp only
        rw [restore_cleared hb Phase.noConfusion]
        refine .undone ?_ hgrowth
        rcases hcause e rfl with ⟨tensor, reason, rfl⟩ | ⟨requested, available, rfl⟩
        · exact .shape (Or.inr ⟨tensor, reason, rfl⟩)
        · exact .outOfMemory requested available

namespace Reconfiguring

variable {b' : EngineBackend} {d' : Device} {sizes : List (List Int64)} {e : EngineError}
  {run : Outcome (EngineBackend × Device) Unit}

/-- After taking new sizes, or failing to, the backend serves slots. -/
theorem exists_serves (h : Reconfiguring b d sizes run) (hb : b.Serves slots) :
    ∃ slots', run.2.1.Serves slots' := by
  cases h with
  | undone cause growth => exact ⟨slots, hb⟩
  | @done filled fresh old d' usable accepted tensors_eq growth perm =>
    exact ⟨filled, tensors_eq, rfl, rfl, rfl, rfl, by rw [usable]; rfl⟩

theorem cause (h : Reconfiguring b d sizes run) (he : run.1 = .error e) :
    b.ReconfigureFailure e := by
  cases h with
  | undone cause growth =>
    cases he
    exact cause
  | done => cases he

/-- New sizes that are refused leave the backend as it was, and of the device all but the next
address and the record. -/
theorem unchanged (h : Reconfiguring b d sizes (.error e, b', d')) (hd : d.Orderly) :
    b' = b ∧ ∃ next frees, d.nextAddress ≤ next ∧ d' = { d with nextAddress := next, frees } := by
  cases h with
  | @undone _ fresh grown cause growth =>
    exact ⟨rfl, grown.nextAddress, _, growth.nextAddress_le, growth.discardAll_eq hd⟩

/-- New sizes that are taken are told as such, and settle the shapes. -/
theorem taken (h : Reconfiguring b d sizes (.ok (), b', d')) :
    b'.inputSizes = sizes ∧ ∃ shapes, b.newShapes? sizes = some shapes ∧
      b'.context.shapes = shapes.map some ∧
      b'.modelInfo = ModelInfo.ofRegistry b.graph.registry shapes b.batchSize := by
  cases h with
  | @done filled fresh old d' usable accepted tensors_eq growth perm =>
    exact ⟨rfl, filled.map Slot.shape, accepted, rfl, rfl⟩

end Reconfiguring

end GraphServe.EngineBackend
