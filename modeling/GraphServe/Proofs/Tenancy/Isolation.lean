import GraphServe.Proofs.Fleet.Basic
import GraphServe.Proofs.Tenancy.Making
import Mathlib.Logic.Function.Basic

/-!
# Backends that share a device

Any number of backends live on one device, and each is built, called, given new sizes and closed in
any order among the others. What a backend answers and shows is what it would answer and show if it
had the device for itself (`other_backends_unseen`), as long as nothing is armed, memory has no
limit and the host answers equal requests alike. Two runs are compared: in one all operations are
made, in the other those on the one backend only. The backend has twins in the two (`Match`). An
operation on it goes alike for both, and one on another backend leaves it and what it holds as they
are.
-/

namespace GraphServe

open Device (Quiet Footprint)

/-! ## Tenants -/

/-- What can be done to a backend. -/
inductive Act where
  | build (files : Files) (config : BackendConfig)
  | infer (inputs : List Bytes) (elapsed : Duration)
  | reconfigure (sizes : List (List Int64))
  | close

/-- What the caller is told. -/
inductive Answer where
  | built (result : Except EngineError Unit)
  | inferred (result : Except EngineError InferenceOutput)
  | reconfigured (result : Except EngineError Unit)
  | closed
  /-- There is no backend to use, or there is one already. -/
  | nothing
deriving DecidableEq

/-- Does something to the backend of a name, if there is one, and tells the answer, what backend
there is then, and the device. -/
def Act.perform (act : Act) (b? : Option EngineBackend) (d : Device) :
    Answer × Option EngineBackend × Device :=
  match act, b? with
  | .build files config, none =>
    match EngineBackend.build files config d with
    | (.ok b, d) => (.built (.ok ()), some b, d)
    | (.error e, d) => (.built (.error e), none, d)
  | .infer inputs elapsed, some b =>
    let (result, b, d) := b.infer d inputs elapsed
    (.inferred result, some b, d)
  | .reconfigure sizes, some b =>
    let (result, b, d) := b.reconfigure d sizes
    (.reconfigured result, some b, d)
  | .close, some b => (.closed, none, b.close d)
  | _, b? => (.nothing, b?, d)

/-- A device and the backends that live on it, by name. -/
structure Site where
  device : Device
  tenant? : Nat → Option EngineBackend

namespace Site

/-- A device without backends. -/
def vacant (d : Device) : Site := ⟨d, fun _ => none⟩

/-- Does something to the backend of a name. -/
def step (s : Site) (op : Nat × Act) : Answer × Site :=
  let (answer, b?, d) := op.2.perform (s.tenant? op.1) s.device
  (answer, ⟨d, Function.update s.tenant? op.1 b?⟩)

/-- The answers of a row of operations, each with the name it was made on, and the site after
them. -/
def run (s : Site) : List (Nat × Act) → List (Nat × Answer) × Site
  | [] => ([], s)
  | op :: ops =>
    let (answer, s) := s.step op
    let (answers, s) := s.run ops
    ((op.1, answer) :: answers, s)

end Site

/-- What a backend shows of itself. -/
structure Observation where
  modelPath : String
  batchSize : UInt64
  inputSizes : List (List Int64)
  modelInfo : ModelInfo
  shape? : String → Option Shape
  memoryUsage : Nat
  isUsable : Bool
  stats : Stats

namespace EngineBackend

/-- What the backend shows of itself. -/
def observe (b : EngineBackend) : Observation where
  modelPath := b.modelPath
  batchSize := b.batchSize
  inputSizes := b.inputSizes
  modelInfo := b.modelInfo
  shape? := b.resolvedShape?
  memoryUsage := b.memoryUsage
  isUsable := b.isUsable
  stats := b.stats

/-- A backend shows nothing of where it lies. -/
theorem observe_face (b : EngineBackend) : b.face.observe = b.observe := by
  have hmemory : b.face.memoryUsage = b.memoryUsage := by
    rw [memoryUsage, memoryUsage, Buffer.totalCapacity_eq_sum, Buffer.totalCapacity_eq_sum, face,
      List.map_map]
    rfl
  rw [observe, observe, hmemory]
  rfl

end EngineBackend

/-! ## Operations on one device -/

variable {kernels : KernelTable} {host : Host} {d d' : Device} {b? b'? : Option EngineBackend}

/-- The addresses of the backend, if there is one. -/
def ownAddresses (b? : Option EngineBackend) : List Address :=
  b?.elim [] EngineBackend.addresses

/-- The stream of the backend, if there is one. -/
def ownStreams (b? : Option EngineBackend) : List Stream :=
  b?.elim [] fun b => [b.context.stream]

/-- The backend, if there is one, serves slots and lives on the device. -/
def Settled (b? : Option EngineBackend) (d : Device) : Prop :=
  ∀ b, b? = some b → (∃ slots, b.Serves slots) ∧ b.Resides d

theorem settled_none (d : Device) : Settled none d := by
  intro b hb
  cases hb

/-- After an operation the backend is settled on a quiet device, at addresses it had or at such as
were never issued, and nothing but what it owned was touched. -/
structure Performed (kernels : KernelTable) (host : Host) (b? : Option EngineBackend) (d : Device)
    (b'? : Option EngineBackend) (d' : Device) : Prop where
  settled : Settled b'? d'
  quiet : d'.Quiet kernels host
  footprint : Footprint (ownAddresses b?) (ownStreams b?) d d'
  addresses : ∀ a ∈ ownAddresses b'?, a ∈ ownAddresses b? ∨ d.nextAddress ≤ a.value
  streams : ∀ s ∈ ownStreams b'?, s ∈ ownStreams b? ∨ d.nextStream ≤ s.handle

theorem Performed.refl (hsettled : Settled b? d) (hd : d.Quiet kernels host) :
    Performed kernels host b? d b? d :=
  ⟨hsettled, hd, .refl _ _ d, fun _ ha => Or.inl ha, fun _ hs => Or.inl hs⟩

theorem EngineBackend.Acted.performed {b b' : EngineBackend} (h : Acted kernels host b d b' d') :
    Performed kernels host (some b) d (some b') d' := by
  refine ⟨?_, h.quiet, h.footprint.mono (List.Subset.refl _) (List.nil_subset _), h.addresses, ?_⟩
  · rintro c ⟨⟩
    exact ⟨h.serves, h.resides⟩
  · intro s hs
    rw [ownStreams, Option.elim_some, h.stream_eq] at hs
    exact Or.inl hs

/-- Whatever is done to a backend leaves its mark on what it owned only. -/
theorem performed_perform (act : Act) (hsettled : Settled b? d) (hd : d.Quiet kernels host)
    (hunarmed : kernels.Unarmed) :
    Performed kernels host b? d (act.perform b? d).2.1 (act.perform b? d).2.2 := by
  cases b? with
  | none =>
    cases act with
    | build files config =>
      obtain ⟨hquiet, hfootprint, hbuilt⟩ := EngineBackend.build_footprint files config hd
      rw [Act.perform]
      rcases hrun : EngineBackend.build files config d with ⟨e | b, d₁⟩
      · rw [hrun] at hquiet hfootprint
        exact ⟨settled_none d₁, hquiet, hfootprint, fun _ ha => (nomatch ha),
          fun _ hs => (nomatch hs)⟩
      · rw [hrun] at hquiet hfootprint hbuilt
        obtain ⟨hserves, hresides, haddresses, hstream⟩ := hbuilt b rfl
        refine ⟨?_, hquiet, hfootprint, fun a ha => Or.inr (haddresses a ha), ?_⟩
        · rintro c ⟨⟩
          exact ⟨hserves, hresides⟩
        · intro s hs
          rw [ownStreams, Option.elim_some, List.mem_singleton] at hs
          rw [hs]
          exact Or.inr hstream
    | infer inputs elapsed => exact .refl hsettled hd
    | reconfigure sizes => exact .refl hsettled hd
    | close => exact .refl hsettled hd
  | some b =>
    obtain ⟨⟨slots, hb⟩, hr⟩ := hsettled b rfl
    cases act with
    | build files config => exact .refl hsettled hd
    | infer inputs elapsed =>
      exact (EngineBackend.acted_infer hb hr hd hunarmed inputs elapsed).performed
    | reconfigure sizes => exact (EngineBackend.acted_reconfigure hb hr hd sizes).performed
    | close =>
      obtain ⟨hquiet, hfootprint⟩ := EngineBackend.close_footprint hr hd
      exact ⟨settled_none _, hquiet, hfootprint, fun _ ha => (nomatch ha),
        fun _ hs => (nomatch hs)⟩

/-! ## Operations on two devices -/

/-- On either device there is no backend, or the two are twins. -/
inductive Match : Option EngineBackend → Option EngineBackend → Device → Device → Prop
  | absent (d d' : Device) : Match none none d d'
  | twins {b b' : EngineBackend} {d d' : Device} (h : EngineBackend.Twins b b' d d') :
    Match (some b) (some b') d d'

/-- Backends that match show the same of themselves. -/
theorem Match.observe_eq (h : Match b? b'? d d') :
    b'?.map EngineBackend.observe = b?.map EngineBackend.observe := by
  cases h with
  | absent => rfl
  | twins h =>
    rw [Option.map_some, Option.map_some, ← EngineBackend.observe_face, h.face_eq,
      EngineBackend.observe_face]

/-- The same done to backends that match gives the same answer, and they match afterwards. -/
theorem Match.perform (h : Match b? b'? d d') (act : Act) (hsettled : Settled b? d)
    (hsettled' : Settled b'? d') (hd : d.Quiet kernels host) (hd' : d'.Quiet kernels host)
    (hunarmed : kernels.Unarmed) (hhost : host.Uniform) :
    (act.perform b'? d').1 = (act.perform b? d).1 ∧
      Match (act.perform b? d).2.1 (act.perform b'? d').2.1 (act.perform b? d).2.2
        (act.perform b'? d').2.2 := by
  cases h with
  | absent =>
    cases act with
    | build files config =>
      rw [Act.perform, Act.perform]
      have halike := EngineBackend.build_alike hhost files config hd hd'
      rcases hrun : EngineBackend.build files config d with ⟨result, d₁⟩
      rcases hrun' : EngineBackend.build files config d' with ⟨result', d₁'⟩
      rw [hrun, hrun'] at halike
      rcases halike with ⟨e, herror, herror'⟩ | ⟨b, b', hok, hok', htwins⟩
      · cases herror
        cases herror'
        exact ⟨rfl, .absent _ _⟩
      · cases hok
        cases hok'
        exact ⟨rfl, .twins htwins⟩
    | infer inputs elapsed => exact ⟨rfl, .absent _ _⟩
    | reconfigure sizes => exact ⟨rfl, .absent _ _⟩
    | close => exact ⟨rfl, .absent _ _⟩
  | @twins b b' _ _ h =>
    obtain ⟨⟨slots, hb⟩, hr⟩ := hsettled b rfl
    obtain ⟨⟨slots', hb'⟩, hr'⟩ := hsettled' b' rfl
    cases act with
    | build files config => exact ⟨rfl, .twins h⟩
    | infer inputs elapsed =>
      have hconcur := h.infer hb hb' hr hr' hd hd' hunarmed inputs elapsed
      exact ⟨congrArg Answer.inferred hconcur.result_eq, .twins hconcur.twins⟩
    | reconfigure sizes =>
      have hconcur := EngineBackend.Twins.reconfigure hhost h hb hb' hr hr' hd hd' sizes
      exact ⟨congrArg Answer.reconfigured hconcur.result_eq, .twins hconcur.twins⟩
    | close => exact ⟨rfl, .absent _ _⟩

/-! ## Sites -/

/-- No two backends own the same. -/
def Apart {Item : Type} (own : Option EngineBackend → List Item)
    (tenant? : Nat → Option EngineBackend) : Prop :=
  ∀ m n, m ≠ n → ∀ a ∈ own (tenant? m), a ∉ own (tenant? n)

/-- A backend may come to own what no backend owned. -/
theorem Apart.update {Item : Type} {own : Option EngineBackend → List Item}
    {tenant? : Nat → Option EngineBackend} (h : Apart own tenant?) {fresh : Item → Prop}
    (hissued : ∀ n, ∀ a ∈ own (tenant? n), ¬ fresh a) {m : Nat}
    (hnew : ∀ a ∈ own b?, a ∈ own (tenant? m) ∨ fresh a) :
    Apart own (Function.update tenant? m b?) := by
  have hsame : Function.update tenant? m b? m = b? := Function.update_self m b? tenant?
  have hother : ∀ n, n ≠ m → Function.update tenant? m b? n = tenant? n :=
    fun n hne => Function.update_of_ne hne b? tenant?
  intro n₁ n₂ hne a ha hmem
  -- what one of the two newly owns was issued to nobody, so the other does not own it
  by_cases h₁ : n₁ = m
  · subst h₁
    rw [hother n₂ (Ne.symm hne)] at hmem
    rw [hsame] at ha
    rcases hnew a ha with hold | hfresh
    · exact h n₁ n₂ hne a hold hmem
    · exact hissued n₂ a hmem hfresh
  · rw [hother n₁ h₁] at ha
    by_cases h₂ : n₂ = m
    · subst h₂
      rw [hsame] at hmem
      rcases hnew a hmem with hold | hfresh
      · exact h n₁ n₂ hne a ha hold
      · exact hissued n₁ a ha hfresh
    · rw [hother n₂ h₂] at hmem
      exact h n₁ n₂ hne a ha hmem

namespace Site

/-- The backends of a site live on a quiet device, and no two share a buffer or a stream. -/
structure Sound (kernels : KernelTable) (host : Host) (s : Site) : Prop where
  quiet : s.device.Quiet kernels host
  settled : ∀ n, Settled (s.tenant? n) s.device
  apart : Apart ownAddresses s.tenant?
  streams : Apart ownStreams s.tenant?

theorem sound_vacant (hd : d.Quiet kernels host) : (vacant d).Sound kernels host :=
  ⟨hd, fun _ => settled_none d, fun _ _ _ _ ha => (nomatch ha), fun _ _ _ _ ht => (nomatch ht)⟩

variable {s s' : Site} {n : Nat}

namespace Sound

/-- The addresses of the backends were issued. -/
theorem issued (h : s.Sound kernels host) (n : Nat) :
    ∀ a ∈ ownAddresses (s.tenant? n), ¬ s.device.nextAddress ≤ a.value := by
  intro a ha
  cases hb : s.tenant? n with
  | none =>
    rw [hb] at ha
    cases ha
  | some b =>
    rw [hb] at ha
    exact Nat.not_le_of_lt ((h.settled n b hb).2.held.issued h.quiet.orderly ha)

/-- The streams of the backends were issued. -/
theorem streams_issued (h : s.Sound kernels host) (n : Nat) :
    ∀ t ∈ ownStreams (s.tenant? n), ¬ s.device.nextStream ≤ t.handle := by
  intro t ht
  cases hb : s.tenant? n with
  | none =>
    rw [hb] at ht
    cases ht
  | some b =>
    rw [hb, ownStreams, Option.elim_some, List.mem_singleton] at ht
    rw [ht]
    exact Nat.not_le_of_lt
      (h.quiet.orderly.streams_issued _ (h.settled n b hb).2.stream_mem)

/-- An operation on another backend leaves a backend where it is, with what it holds. -/
theorem spared (h : s.Sound kernels host) (hunarmed : kernels.Unarmed) {m : Nat} (hne : n ≠ m)
    (act : Act) {b : EngineBackend} (hb : s.tenant? n = some b) :
    b.Resides (s.step (m, act)).2.device ∧
      b.contents (s.step (m, act)).2.device = b.contents s.device := by
  have hperformed := performed_perform act (h.settled m) h.quiet hunarmed
  have hkernels := hperformed.quiet.kernels_eq.trans h.quiet.kernels_eq.symm
  refine (h.settled n b hb).2.spared hperformed.footprint h.quiet.orderly hkernels ?_ ?_
  · intro a ha
    have hapart := h.apart n m hne a
    rw [hb] at hapart
    exact hapart ha
  · have hstreams := h.streams n m hne b.context.stream
    rw [hb] at hstreams
    exact hstreams List.mem_cons_self

/-- An operation keeps a site sound. -/
theorem step (h : s.Sound kernels host) (hunarmed : kernels.Unarmed) (op : Nat × Act) :
    (s.step op).2.Sound kernels host := by
  obtain ⟨m, act⟩ := op
  have hperformed := performed_perform act (h.settled m) h.quiet hunarmed
  refine ⟨hperformed.quiet, ?_, ?_, ?_⟩
  · intro n b hb
    by_cases hn : n = m
    · subst hn
      have hsame : (s.step (n, act)).2.tenant? n = (act.perform (s.tenant? n) s.device).2.1 :=
        Function.update_self _ _ _
      rw [hsame] at hb
      exact hperformed.settled b hb
    · have hother : (s.step (m, act)).2.tenant? n = s.tenant? n := Function.update_of_ne hn _ _
      rw [hother] at hb
      exact ⟨(h.settled n b hb).1, (h.spared hunarmed hn act hb).1⟩
  · exact h.apart.update h.issued hperformed.addresses
  · exact h.streams.update h.streams_issued hperformed.streams

end Sound

/-- The backends of one name on two sites match. -/
def Agree (n : Nat) (s s' : Site) : Prop :=
  Match (s.tenant? n) (s'.tenant? n) s.device s'.device

/-- The same done to the backends of one name gives the same answer, and they match afterwards. -/
theorem Agree.step (h : Agree n s s') (hs : s.Sound kernels host) (hs' : s'.Sound kernels host)
    (hunarmed : kernels.Unarmed) (hhost : host.Uniform) (act : Act) :
    (s'.step (n, act)).1 = (s.step (n, act)).1 ∧
      Agree n (s.step (n, act)).2 (s'.step (n, act)).2 := by
  have hperform :=
    Match.perform h act (hs.settled n) (hs'.settled n) hs.quiet hs'.quiet hunarmed hhost
  refine ⟨hperform.1, ?_⟩
  have hsame : (s.step (n, act)).2.tenant? n = (act.perform (s.tenant? n) s.device).2.1 :=
    Function.update_self _ _ _
  have hsame' : (s'.step (n, act)).2.tenant? n = (act.perform (s'.tenant? n) s'.device).2.1 :=
    Function.update_self _ _ _
  rw [Agree, hsame, hsame']
  exact hperform.2

/-- What is done to another backend on one of the sites makes no difference. -/
theorem Agree.skip (h : Agree n s s') (hs : s.Sound kernels host) (hunarmed : kernels.Unarmed)
    {m : Nat} (hne : n ≠ m) (act : Act) : Agree n (s.step (m, act)).2 s' := by
  have hother : (s.step (m, act)).2.tenant? n = s.tenant? n := Function.update_of_ne hne _ _
  rw [Agree, hother]
  rw [Agree] at h
  cases hb : s.tenant? n with
  | none =>
    rw [hb] at h
    generalize s'.tenant? n = b'? at h
    cases h
    exact .absent _ _
  | some b =>
    rw [hb] at h
    generalize s'.tenant? n = b'? at h
    cases h with
    | twins htwins =>
      have hcontents := (hs.spared hunarmed hne act hb).2
      exact .twins ⟨htwins.face_eq, htwins.contents_eq.trans hcontents.symm⟩

/-- Without the operations on others, the answers to the operations on one backend are the same, and
so is the backend. -/
theorem Agree.run (h : Agree n s s') (hs : s.Sound kernels host) (hs' : s'.Sound kernels host)
    (hunarmed : kernels.Unarmed) (hhost : host.Uniform) (ops : List (Nat × Act)) :
    (s.run ops).1.filter (fun answer => answer.1 = n) =
        (s'.run (ops.filter fun op => op.1 = n)).1 ∧
      Agree n (s.run ops).2 (s'.run (ops.filter fun op => op.1 = n)).2 := by
  -- on the operations, for all sound sites on which the two backends match
  induction ops generalizing s s' with
  | nil => exact ⟨rfl, h⟩
  | cons op ops ih =>
    obtain ⟨m, act⟩ := op
    by_cases hm : n = m
    · -- both sites make the step
      subst hm
      obtain ⟨hanswer, hagree⟩ := h.step hs hs' hunarmed hhost act
      obtain ⟨hanswers, hend⟩ := ih hagree (hs.step hunarmed _) (hs'.step hunarmed _)
      rw [List.filter_cons_of_pos (by simp), Site.run, Site.run]
      refine ⟨?_, hend⟩
      dsimp only
      rw [List.filter_cons_of_pos (by simp), hanswers, hanswer]
    · -- only the first site makes it
      obtain ⟨hanswers, hend⟩ := ih (h.skip hs hunarmed hm act) (hs.step hunarmed _) hs'
      have hne : ¬ m = n := fun hsame => hm hsame.symm
      rw [List.filter_cons_of_neg (by simpa using hne), Site.run]
      refine ⟨?_, hend⟩
      dsimp only
      rw [List.filter_cons_of_neg (by simpa using hne), hanswers]

/-- Backends that share a device do not interfere. On a device without a limit, whose host answers
equal requests alike, on which no fault is armed and whose kernels arm none, take any operations on
any number of backends, and one of the backends. Without the operations on the others it gives the
same answers, and shows the same of itself. -/
theorem other_backends_unseen (hreached : d.Reached) (hlimit : d.limit = none)
    (hhost : d.host.Uniform) (hlaunch : d.launchFault = false) (htransfer : d.transferFault = false)
    (hunarmed : d.kernels.Unarmed) (ops : List (Nat × Act)) (n : Nat) :
    let together := (vacant d).run ops
    let alone := (vacant d).run (ops.filter fun op => op.1 = n)
    together.1.filter (fun answer => answer.1 = n) = alone.1 ∧
      (together.2.tenant? n).map EngineBackend.observe =
        (alone.2.tenant? n).map EngineBackend.observe := by
  intro together alone
  have hd : d.Quiet d.kernels d.host :=
    ⟨hreached.orderly, rfl, ⟨hlimit, rfl⟩, hlaunch, htransfer⟩
  have hvacant : Agree n (vacant d) (vacant d) := .absent d d
  obtain ⟨hanswers, hend⟩ :=
    hvacant.run (sound_vacant hd) (sound_vacant hd) hunarmed hhost ops
  exact ⟨hanswers, hend.observe_eq.symm⟩

/-- One backend is built, given new sizes, called and closed while another is at work, which copies
what it would copy without it. -/
theorem other_backends_unseen_copy :
    let ops : List (Nat × Act) := [(0, .build Fleet.copyFiles Fleet.copyConfig),
      (1, .build Fleet.copyFiles Fleet.copyConfig), (1, .reconfigure [[1]]),
      (0, .infer [[1, 0, 0, 0, 2, 0, 0, 0]] ⟨0⟩), (1, .infer [[9, 0, 0, 0]] ⟨0⟩), (1, .close),
      (0, .reconfigure [[1]]), (0, .infer [[5, 0, 0, 0]] ⟨0⟩)]
    let s := (vacant (Device.new .builtin none (.upTo 4096))).run ops
    s.1.filter (fun answer => answer.1 = 0) = [(0, .built (.ok ())),
      (0, .inferred (.ok ⟨[[.f32 1, .f32 2]], [[2]]⟩)), (0, .reconfigured (.ok ())),
      (0, .inferred (.ok ⟨[[.f32 5]], [[1]]⟩))] ∧
      ((s.2.tenant? 0).map EngineBackend.observe).map Observation.memoryUsage = some 16 := by
  intro ops s
  obtain ⟨hanswers, hobserve⟩ :=
    other_backends_unseen (.new .builtin none (.upTo 4096)) rfl (Host.uniform_upTo 4096) rfl rfl
      KernelTable.unarmed_builtin ops 0
  rw [hanswers, hobserve]
  decide +kernel

end Site

end GraphServe
