import GraphServe.Proofs.Pool.Traffic
import GraphServe.Proofs.Tenancy.Making
import Mathlib.Logic.Relation

/-!
# Retirements by stages

`Pool.rebuild` replaces an instance in one go. On the shared device that is a row of requests: each
buffer is given back, then the stream; another stream is created, and each buffer is allocated.
Between any two of them other clients may act. So a retirement is described by the stage that it has
come to, and `Stage.advance` takes it one request further. Left to itself it always comes to an
answer (`Stage.exists_reaches_answered`), which is the one that `Pool.rebuild` gives
(`Stage.reaches_rebuild`).
-/

namespace GraphServe.Pool

/-- How far the retirement of an instance has come. -/
inductive Stage where
  /-- Some buffers, and then the stream, are still to be given back. -/
  | closing (context : Context) (left : List Buffer)
  /-- Everything was given back, and no other instance is asked for yet. -/
  | closed
  /-- Another instance has its shapes and some of its buffers. The rest is still to be allocated. -/
  | making (context : Context) (shapes : List Shape) (made : List Buffer)
    (left : List (Descriptor × Shape))
  /-- There is another instance, or there will be none. -/
  | answered (replacement : Option Backend)

namespace Stage

/-! ## Single steps -/

/-- How the retirement of an instance begins. Of the shared device only a shared engine backend holds
anything. -/
def ofBackend : Backend → Stage
  | .shared e => .closing e.context e.buffers
  | .alone _ _ => .closed
  | .mock _ => .closed

/-- Asks for an instance of a configuration, up to its first buffer. -/
def ordered (files : Files) (config : BackendConfig) (d : Device) : Stage × Device :=
  match config.validate with
  | .error _ => (.answered none, d)
  | .ok () =>
    match config.kind with
    | .mock => (.answered (some (.mock (.new config.batchSize))), d)
    | .engine =>
      match EngineBackend.loadGraph files config with
      | .error _ => (.answered none, d)
      | .ok graph =>
        match Context.create d graph with
        | (.error _, d) => (.answered none, d)
        | (.ok context, d) =>
          match context.resolve config.batchSize config.inputSizes with
          | (.error _, context) => (.answered none, context.close d)
          | (.ok shapes, context) =>
            (.making context shapes [] (graph.registry.all.zip shapes), d)

/-- Completes an instance that has all its buffers. -/
def completed (config : BackendConfig) (context : Context) (shapes : List Shape)
    (made : List Buffer) (d : Device) : Stage × Device :=
  match context.markAllocated with
  | (.error _, context) => (.answered none, context.close (Buffer.discardAll d made))
  | (.ok (), context) => (.answered (some (.shared (.assemble config context made shapes))), d)

/-- Takes a retirement one request further. What was answered stays as it is. -/
def advance (files : Files) (config : BackendConfig) :
    Stage × Pool × Device → Stage × Pool × Device
  | (.closing context [], p, d) => (.closed, p, context.close d)
  | (.closing context (u :: left), p, d) => (.closing context left, p, (Buffer.release d u).2)
  | (.closed, p, d) =>
    let (stage, d) := ordered files config d
    (stage, { p with calls := p.calls + 1 }, d)
  | (.making context shapes made [], p, d) =>
    let (stage, d) := completed config context shapes made d
    (stage, p, d)
  | (.making context shapes made ((t, s) :: left), p, d) =>
    match Buffer.allocate d t s with
    | (.error _, d) => (.answered none, p, context.close (Buffer.discardAll d made))
    | (.ok u, d) => (.making context shapes (made ++ [u]) left, p, d)
  | (.answered replacement, p, d) => (.answered replacement, p, d)

/-- What a retirement comes to if nothing else happens in between. -/
abbrev Reaches (files : Files) (config : BackendConfig) :
    Stage × Pool × Device → Stage × Pool × Device → Prop :=
  Relation.ReflTransGen fun s t => advance files config s = t

variable {files : Files} {config : BackendConfig}

/-- A request counts a call of the factory, if it is one, and changes nothing else of the pool. -/
theorem exists_calls_advance (s : Stage) (p : Pool) (d : Device) :
    ∃ calls, (advance files config (s, p, d)).2.1 = { p with calls } := by
  cases s with
  | closing context left => cases left <;> exact ⟨p.calls, rfl⟩
  | closed => exact ⟨p.calls + 1, rfl⟩
  | making context shapes made left =>
    cases left with
    | nil => exact ⟨p.calls, rfl⟩
    | cons request left =>
      obtain ⟨t, s⟩ := request
      rw [advance]
      split
      · exact ⟨p.calls, rfl⟩
      · exact ⟨p.calls, rfl⟩
  | answered replacement => exact ⟨p.calls, rfl⟩

theorem usable_of_ordered {d : Device} {b : Backend}
    (h : (ordered files config d).1 = .answered (some b)) : b.isUsable = true := by
  rw [ordered] at h
  split at h
  · cases h
  · split at h
    · cases h
      rfl
    · -- an engine backend is not answered before its buffers are allocated
      split at h
      · cases h
      · split at h
        · cases h
        · split at h <;> cases h

/-- An instance is usable when it is answered. -/
theorem usable_of_advance {s : Stage} {p : Pool} {d : Device} {b : Backend}
    (h : (advance files config (s, p, d)).1 = .answered (some b)) :
    s = .answered (some b) ∨ b.isUsable = true := by
  cases s with
  | closing context left => cases left <;> cases h
  | closed => exact Or.inr (usable_of_ordered h)
  | making context shapes made left =>
    right
    cases left with
    | nil =>
      simp only [advance, completed] at h
      split at h
      · cases h
      · cases h
        rfl
    | cons request left =>
      obtain ⟨t, s⟩ := request
      rw [advance] at h
      split at h <;> cases h
  | answered replacement => exact Or.inl h

/-! ## Rows of steps -/

/-- Buffers are given back one by one, and then the stream. -/
theorem reaches_closed (context : Context) (left : List Buffer) (p : Pool) (d : Device) :
    Reaches files config (.closing context left, p, d)
      (.closed, p, context.close (Buffer.releaseAll d left).2) := by
  rw [Buffer.releaseAll_snd]
  induction left generalizing d with
  | nil => exact .single rfl
  | cons u left ih => exact .head rfl (ih (Buffer.release d u).2)

/-- A retirement begins with closing the instance. -/
theorem reaches_close (b : Backend) (p : Pool) (d : Device) :
    Reaches files config (ofBackend b, p, d) (.closed, p, b.close d) := by
  cases b with
  | shared e => exact reaches_closed e.context e.buffers p d
  | alone e own => exact .refl
  | mock m => exact .refl

/-- The end of a row of allocations that came on top of some buffers. -/
def allocated (config : BackendConfig) (context : Context) (shapes : List Shape)
    (made : List Buffer) : Progress Buffer × Device → Stage × Device
  | (⟨more, none⟩, d) => completed config context shapes (made ++ more) d
  | (⟨more, some _⟩, d) => (.answered none, context.close (Buffer.discardAll d (made ++ more)))

/-- A buffer that is allocated first counts among those that were there before. -/
theorem allocated_after (context : Context) (shapes : List Shape) (made : List Buffer) (u : Buffer)
    (run : Progress Buffer × Device) :
    allocated config context shapes made (run.1.after u, run.2) =
      allocated config context shapes (made ++ [u]) run := by
  rcases run with ⟨⟨more, _ | e⟩, d⟩
  · simp only [Progress.after, allocated, List.append_assoc, List.singleton_append]
  · simp only [Progress.after, allocated, List.append_assoc, List.singleton_append]

/-- Buffers are allocated one by one, and then the instance is completed. -/
theorem reaches_allocated (files : Files) (config : BackendConfig) (context : Context)
    (shapes : List Shape) (made : List Buffer) (left : List (Descriptor × Shape)) (p : Pool)
    (d : Device) :
    let ending := allocated config context shapes made
      (Buffer.allocateEach d (left.map Prod.fst) (left.map Prod.snd))
    Reaches files config (.making context shapes made left, p, d) (ending.1, p, ending.2) := by
  -- on the tensors without a buffer, as those with one are carried along
  induction left generalizing made d with
  | nil =>
    simp only [List.map_nil, Buffer.allocateEach, Progress.finished, allocated, List.append_nil]
    exact .single rfl
  | cons request left ih =>
    obtain ⟨t, s⟩ := request
    simp only [List.map_cons, Buffer.allocateEach]
    rcases hfirst : Buffer.allocate d t s with ⟨e | u, d₁⟩
    · -- the step that fails gives back what was made
      simp only [Progress.stopped, allocated, List.append_nil]
      refine .single ?_
      simp only [advance, hfirst]
    · simp only [allocated_after]
      refine .head ?_ (ih (made ++ [u]) d₁)
      simp only [advance, hfirst]

/-! ## Agreement with the pool -/

/-- Preparing a backend is allocating its buffers one by one. -/
theorem allocated_eq_prepare (config : BackendConfig) (context : Context) {shapes : List Shape}
    (hlength : shapes.length = context.graph.registry.size) (d : Device) :
    allocated config context shapes []
        (Buffer.allocateEach d context.graph.registry.all shapes) =
      (.answered ((EngineBackend.prepare d config context shapes).1.toOption.map .shared),
        (EngineBackend.prepare d config context shapes).2) := by
  rw [EngineBackend.prepare, Buffer.allocateAll, if_neg (not_not_intro hlength)]
  rcases Buffer.allocateEach d context.graph.registry.all shapes with ⟨⟨more, _ | e⟩, d₁⟩
  · simp only [allocated, List.nil_append, completed]
    rcases context.markAllocated with ⟨e | u, context'⟩
    · rfl
    · rfl
  · rfl

/-- What is ordered comes to what setting up the configuration gives. -/
theorem reaches_setupOn (files : Files) (config : BackendConfig) (p : Pool) (d : Device) :
    Reaches files config ((ordered files config d).1, p, (ordered files config d).2)
      (.answered (Backend.setupOn files config d).1.toOption, p,
        (Backend.setupOn files config d).2) := by
  rw [ordered, Backend.setupOn]
  cases config.validate with
  | error e => exact .refl
  | ok u =>
    dsimp only
    cases config.kind with
    | mock => exact .refl
    | engine =>
      dsimp only
      rw [Backend.buildShared, EngineBackend.build]
      cases EngineBackend.loadGraph files config with
      | error e => exact .refl
      | ok graph =>
        dsimp only
        rw [EngineBackend.ofGraph, Context.create]
        by_cases hkernel : d.hasKernel graph.kernel
        · simp only [if_pos hkernel]
          have hblank := EngineBackend.blank_blankContext graph d.createStream.1
          rw [EngineBackend.blankContext] at hblank
          rcases Context.resolve_cases hblank config.batchSize config.inputSizes with
            ⟨e, slots, -, hresolve⟩ | ⟨shapes, hlength, hresolve⟩
          · simp only [hresolve]
            exact .refl
          · -- from here on the buffers are allocated one by one
            simp only [hresolve]
            have hcount : graph.registry.all.length ≤ shapes.length := Nat.le_of_eq hlength.symm
            have hcount' : shapes.length ≤ graph.registry.all.length := Nat.le_of_eq hlength
            have hrow := reaches_allocated files config
              ⟨graph, d.createStream.1, .shapesResolved, shapes.map some, []⟩ shapes []
              (graph.registry.all.zip shapes) p d.createStream.2
            rw [List.map_fst_zip hcount, List.map_snd_zip hcount'] at hrow
            have hagree := allocated_eq_prepare config
              ⟨graph, d.createStream.1, .shapesResolved, shapes.map some, []⟩ hlength
              d.createStream.2
            dsimp only at hrow hagree
            rw [hagree] at hrow
            rcases hprepare : EngineBackend.prepare d.createStream.2 config
              ⟨graph, d.createStream.1, .shapesResolved, shapes.map some, []⟩ shapes with
              ⟨e | b, d₁⟩
            · rw [hprepare] at hrow
              exact hrow
            · rw [hprepare] at hrow
              exact hrow
        · simp only [if_neg hkernel]
          exact .refl

variable {p : Pool}

/-- Once an instance is closed its retirement comes to what the factory of the pool builds. -/
theorem reaches_order (hfactory : p.factory = some (sharedFactory files config)) (d : Device) :
    Reaches files config (.closed, p, d) (.answered (p.order d).1, (p.order d).2) := by
  have hanswer : p.order d = ((Backend.setupOn files config d).1.toOption,
      { p with calls := p.calls + 1 }, (Backend.setupOn files config d).2) := by
    rw [order, hfactory]
    dsimp only [sharedFactory]
    rcases Backend.setupOn files config d with ⟨e | b, d₁⟩
    · rfl
    · rfl
  rw [hanswer]
  exact .head rfl (reaches_setupOn files config { p with calls := p.calls + 1 } d)

/-- Left to itself the retirement of an instance comes to what rebuilding it gives. -/
theorem reaches_rebuild (hfactory : p.factory = some (sharedFactory files config)) (b : Backend)
    (d : Device) :
    Reaches files config (ofBackend b, p, d)
      (.answered (p.rebuild d b).1, (p.rebuild d b).2) := by
  rw [rebuild_eq_order]
  exact (reaches_close b p d).trans (reaches_order hfactory (b.close d))

/-- Left to itself a retirement comes to an answer, whatever its stage. -/
theorem exists_reaches_answered (s : Stage) (p : Pool) (d : Device) :
    ∃ replacement p' d', Reaches files config (s, p, d) (.answered replacement, p', d') := by
  -- once its instance is closed, a retirement orders another one
  have hclosed : ∀ d, ∃ replacement p' d',
      Reaches files config (.closed, p, d) (.answered replacement, p', d') := by
    intro d
    exact ⟨_, _, _, .head rfl (reaches_setupOn files config { p with calls := p.calls + 1 } d)⟩
  cases s with
  | closing context left =>
    obtain ⟨replacement, p', d', hrest⟩ := hclosed (context.close (Buffer.releaseAll d left).2)
    exact ⟨replacement, p', d', (reaches_closed context left p d).trans hrest⟩
  | closed => exact hclosed d
  | making context shapes made left =>
    have hrow := reaches_allocated files config context shapes made left p d
    rcases hrun : Buffer.allocateEach d (left.map Prod.fst) (left.map Prod.snd) with
      ⟨⟨more, _ | e⟩, d₁⟩
    · rw [hrun] at hrow
      simp only [allocated, completed] at hrow
      rcases hmark : context.markAllocated with ⟨e | u, context'⟩
      · rw [hmark] at hrow
        exact ⟨_, _, _, hrow⟩
      · rw [hmark] at hrow
        exact ⟨_, _, _, hrow⟩
    · rw [hrun] at hrow
      exact ⟨_, _, _, hrow⟩
  | answered replacement => exact ⟨replacement, p, d, .refl⟩

end Stage

end GraphServe.Pool
