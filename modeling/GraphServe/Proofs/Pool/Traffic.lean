import GraphServe.Pool.Lease
import GraphServe.Proofs.Backend.Lifetime
import GraphServe.Proofs.Fleet.Basic
import GraphServe.Proofs.Lists

/-!
# Traffic of a pool

Any number of clients act on one pool, each in steps that the lock of the pool makes atomic: taking
a backend, running a call on a backend that is held, and giving it back. A backend that comes back
unusable is retired in three steps, between which other clients act: it is closed, the factory is
asked for another, and the answer is settled.

Instances are numbered in the order in which the pool got them. The numbers are kept beside the pool
and decide nothing; they tell where each instance is. `Sound` is what every interleaving keeps
(`Sound.run`): each instance is idle, held or retired, and only one of them.
-/

namespace GraphServe

namespace PoolSession

variable {s s' : PoolSession} {slot : Nat}

theorem held?_eq_some_iff {b : Backend} : s.held? slot = some b ↔ s.slots[slot]? = some (some b) := by
  simp [held?, Option.join_eq_some_iff]

/-- Whether a client would wait or not makes no difference to the pool. -/
theorem acquire_snd_eq (s : PoolSession) : s.acquire.2 = s.tryAcquire.2 := by
  rw [acquire, tryAcquire, Pool.acquire]
  cases s.pool.take? with
  | none =>
    dsimp only
    split_ifs <;> rfl
  | some taken => rfl

/-- A call on a slot changes the backend in it and the device. -/
theorem eq_of_infer {inputs : List Bytes} {elapsed : Duration}
    {result : Except EngineError InferenceOutput}
    (h : s.infer slot inputs elapsed = some (result, s')) :
    ∃ b b', s.slots[slot]? = some (some b) ∧ s'.pool = s.pool ∧
      s'.slots = s.slots.set slot (some b') := by
  rw [infer, Option.map_eq_some_iff] at h
  obtain ⟨b, hb, h⟩ := h
  cases h
  exact ⟨b, _, held?_eq_some_iff.1 hb, rfl, rfl⟩

end PoolSession

/-- What a factory builds is usable. -/
def BackendFactory.Reliable (factory : BackendFactory) : Prop :=
  ∀ call d b d', factory.build call d = (.ok b, d') → b.isUsable = true

/-- A backend that was set up is usable. -/
theorem Backend.usable_of_setup {files : Files} {host : Host} {config : BackendConfig}
    {b : Backend} (h : setup files host config = .ok b) : b.isUsable = true := by
  rcases setup_eq_ok h with ⟨-, e, own, rfl, hbuild⟩ | ⟨-, rfl⟩
  · obtain ⟨context, buffers, shapes, rfl⟩ := EngineBackend.exists_eq_assemble hbuild
    rfl
  · rfl

/-- A backend that was set up on the shared device is usable. -/
theorem Backend.usable_of_setupOn {files : Files} {config : BackendConfig} {d d' : Device}
    {b : Backend} (h : setupOn files config d = (.ok b, d')) : b.isUsable = true := by
  rcases setupOn_eq_ok h with ⟨-, e, rfl, hbuild⟩ | ⟨-, rfl⟩
  · obtain ⟨context, buffers, shapes, rfl⟩ := EngineBackend.exists_eq_assemble hbuild
    rfl
  · rfl

namespace Pool

/-- The factory that sets up a configuration on the shared device. -/
def sharedFactory (files : Files) (config : BackendConfig) : BackendFactory where
  build _ d := Backend.setupOn files config d

/-- On the shared device a configuration yields usable backends. -/
theorem reliable_sharedFactory (files : Files) (config : BackendConfig) :
    (sharedFactory files config).Reliable := by
  intro call d b d' h
  exact Backend.usable_of_setupOn h

/-- The factory of a configuration builds usable backends. -/
theorem reliable_configFactory (files : Files) (hosts : Nat → Host) (config : BackendConfig) :
    (configFactory files hosts config).Reliable := by
  intro call d b d' h
  exact Backend.usable_of_setup (congrArg Prod.fst h)

/-! ## Retirements in steps -/

/-- Asks the factory, if there is one, for another instance. -/
def order (p : Pool) (d : Device) : Option Backend × Pool × Device :=
  match p.factory with
  | none => (none, p, d)
  | some factory =>
    let p' := { p with calls := p.calls + 1 }
    match factory.build p.calls d with
    | (.ok fresh, d) => (some fresh, p', d)
    | (.error _, d) => (none, p', d)

/-- Rebuilding is closing and then asking for another. -/
theorem rebuild_eq_order (p : Pool) (d : Device) (b : Backend) :
    p.rebuild d b = p.order (b.close d) := rfl

/-- Asking for another instance is counted, and changes nothing else of the pool. -/
theorem exists_order_eq (p : Pool) (d : Device) :
    ∃ replacement calls d', p.order d = (replacement, { p with calls }, d') := by
  rw [order]
  split
  · exact ⟨none, p.calls, d, rfl⟩
  · next factory _ =>
    dsimp only
    rcases factory.build p.calls d with ⟨e | fresh, d'⟩
    · exact ⟨none, p.calls + 1, d', rfl⟩
    · exact ⟨some fresh, p.calls + 1, d', rfl⟩

theorem usable_of_order {p p' : Pool} {d d' : Device} {fresh : Backend}
    (hreliable : ∀ factory, p.factory = some factory → factory.Reliable)
    (h : p.order d = (some fresh, p', d')) : fresh.isUsable = true := by
  rw [order] at h
  split at h
  · cases h
  · next factory hfactory =>
    dsimp only at h
    rcases hbuild : factory.build p.calls d with ⟨e | b, d₁⟩
    · rw [hbuild] at h
      cases h
    · rw [hbuild] at h
      cases h
      exact hreliable factory hfactory _ _ _ _ hbuild

/-- A pool as it was built: from usable instances, or by a factory of such. -/
inductive BuiltUsable : Pool → Prop
  | new {backends : List Backend} {p : Pool} (built : Pool.new backends = .ok p)
    (usable : ∀ b ∈ backends, b.isUsable = true) : BuiltUsable p
  | withFactory {d d' : Device} {size : Nat} {factory : BackendFactory} {p : Pool}
    (built : Pool.withFactory d size factory = (.ok p, d')) (reliable : factory.Reliable) :
    BuiltUsable p

/-- The pool of a configuration is one of usable backends, and so are its replacements. -/
theorem BuiltUsable.ofConfig {files : Files} {hosts : Nat → Host} {config : BackendConfig}
    {d d' : Device} {p : Pool}
    (h : Pool.ofConfig files hosts config d = (.ok p, d')) : p.BuiltUsable := by
  rw [Pool.ofConfig] at h
  split at h
  · cases h
  · exact .withFactory h (reliable_configFactory files hosts config)

theorem usable_of_buildEach {factory : BackendFactory} (hreliable : factory.Reliable)
    {d d' : Device} {call count : Nat} {backends : List Backend}
    (h : buildEach factory d call count = (.ok backends, d')) :
    ∀ b ∈ backends, b.isUsable = true := by
  induction count generalizing d call d' backends with
  | zero =>
    cases h
    simp
  | succ count ih =>
    rw [buildEach] at h
    rcases hfirst : factory.build call d with ⟨e | first, d₁⟩
    · rw [hfirst] at h
      cases h
    · rw [hfirst] at h
      dsimp only at h
      rcases hrest : buildEach factory d₁ (call + 1) count with ⟨e | rest, d₂⟩
      · rw [hrest] at h
        cases h
      · rw [hrest] at h
        cases h
        intro b hb
        rcases List.mem_cons.1 hb with rfl | hb
        · exact hreliable _ _ _ _ hfirst
        · exact ih hrest b hb

theorem assemble_cases {backends : List Backend} {factory : Option BackendFactory} {p : Pool}
    (h : assemble backends factory = .ok p) :
    p.idle = backends.reverse ∧ p.live = p.idle.length ∧ p.size = p.live ∧ p.factory = factory := by
  rw [assemble] at h
  split_ifs at h
  cases h
  simp

/-- All instances of a new pool are idle and usable, and so are those its factory would build. -/
theorem BuiltUsable.cases {p : Pool} (h : p.BuiltUsable) :
    p.live = p.idle.length ∧ p.size = p.live ∧ (∀ b ∈ p.idle, b.isUsable = true) ∧
      ∀ factory, p.factory = some factory → factory.Reliable := by
  cases h with
  | new built usable =>
    obtain ⟨hidle, hlive, hsize, hfactory⟩ := assemble_cases built
    refine ⟨hlive, hsize, ?_, ?_⟩
    · intro b hb
      rw [hidle, List.mem_reverse] at hb
      exact usable b hb
    · intro factory hsome
      rw [hfactory] at hsome
      cases hsome
  | @withFactory d d' size factory p built reliable =>
    rw [Pool.withFactory] at built
    rcases hbackends : buildEach factory d 0 size with ⟨e | backends, d₁⟩
    · rw [hbackends] at built
      cases built
    · rw [hbackends] at built
      obtain ⟨hidle, hlive, hsize, hfactory⟩ := assemble_cases (congrArg Prod.fst built)
      refine ⟨hlive, hsize, ?_, ?_⟩
      · intro b hb
        rw [hidle, List.mem_reverse] at hb
        exact usable_of_buildEach reliable hbackends b hb
      · intro factory' hsome
        rw [hfactory] at hsome
        cases hsome
        exact reliable

/-! ## Traffic -/

/-- A retirement that is not settled yet. -/
inductive Retirement where
  /-- The instance is closed, and no other is asked for yet. -/
  | closed
  /-- The factory has built another instance, or there is no other. -/
  | answered (replacement : Option Backend)

/-- A pool with its clients and the retirements that are under way. -/
structure Traffic where
  session : PoolSession
  retiring : List Retirement
  /-- The instances that the pool ever had, each as it is or as it was when it was retired. -/
  instances : List Backend
  /-- The numbers of the idle instances. -/
  idle : List Nat
  /-- The numbers of the instances in the slots of the clients. -/
  held : List (Option Nat)
  /-- The numbers of the instances that came back unusable. -/
  retired : List Nat

/-- What can happen next. A wait that ends in time is an `acquire`, at the latest when the client
is woken, and one that does not is no step of the pool. -/
inductive Event where
  | acquire
  | tryAcquire
  | infer (slot : Nat) (inputs : List Bytes) (elapsed : Duration)
  | giveBack (slot : Nat)
  /-- The factory is asked for the replacement of the instance that was closed. -/
  | order (place : Nat)
  | settle (place : Nat)
  /-- Something else happens to the shared device. -/
  | device (change : Device → Device)

namespace Traffic

/-- The pool without clients. -/
def start (p : Pool) (d : Device) : Traffic :=
  ⟨⟨p, d, []⟩, [], p.idle, List.range p.idle.length, [], []⟩

/-- The pool. -/
def pool (t : Traffic) : Pool := t.session.pool

/-- The number of instances that clients hold. -/
def checkedOut (t : Traffic) : Nat := t.session.slots.reduceOption.length

/-- The number of the instance in a slot. -/
def number? (t : Traffic) (slot : Nat) : Option Nat := (t.held[slot]?).join

/-- The numbers after a client took an instance if one was idle. -/
def taken (t : Traffic) (session : PoolSession) : Traffic :=
  match t.idle with
  | [] => { t with session }
  | number :: rest => { t with session, idle := rest, held := t.held ++ [some number] }

/-- The instances after a call on the one in a slot. -/
def called (t : Traffic) (slot : Nat) (session : PoolSession) : List Backend :=
  match t.number? slot, session.held? slot with
  | some number, some b => t.instances.set number b
  | _, _ => t.instances

/-- A client gives the backend in a slot back. A usable one becomes idle. An unusable one is closed,
and its retirement begins. -/
def giveBack (t : Traffic) (slot : Nat) : Traffic :=
  match t.session.held? slot with
  | none => t
  | some b =>
    let slots := t.session.slots.set slot none
    let held := t.held.set slot none
    let numbers := (t.number? slot).toList
    if b.isUsable then
      { t with
        session := { t.session with pool := t.pool.put b, slots }
        idle := numbers ++ t.idle
        held }
    else
      { t with
        session := { t.session with device := b.close t.session.device, slots }
        retiring := t.retiring ++ [.closed]
        held
        retired := numbers ++ t.retired }

/-- The client that retires an instance asks for another. -/
def order (t : Traffic) (place : Nat) : Traffic :=
  match t.retiring[place]? with
  | some .closed =>
    let (replacement, pool, device) := t.pool.order t.session.device
    { t with
      session := { t.session with pool, device }
      retiring := t.retiring.set place (.answered replacement) }
  | _ => t

/-- The client that retires an instance tells the pool what came of it. -/
def settle (t : Traffic) (place : Nat) : Traffic :=
  match t.retiring[place]? with
  | some (.answered replacement) =>
    { t with
      session := { t.session with pool := t.pool.settle replacement }
      retiring := t.retiring.eraseIdx place
      instances := t.instances ++ replacement.toList
      idle := (replacement.map fun _ => t.instances.length).toList ++ t.idle }
  | _ => t

/-- One atomic step. -/
def step (t : Traffic) : Event → Traffic
  | .acquire => t.taken t.session.acquire.2
  | .tryAcquire => t.taken t.session.tryAcquire.2
  | .infer slot inputs elapsed =>
    match t.session.infer slot inputs elapsed with
    | none => t
    | some (_, session) => { t with session, instances := t.called slot session }
  | .giveBack slot => t.giveBack slot
  | .order place => t.order place
  | .settle place => t.settle place
  | .device change =>
    { t with session := { t.session with device := change t.session.device } }

/-- What a row of steps makes of the traffic. -/
def run (t : Traffic) (events : List Event) : Traffic := events.foldl step t

/-- Giving a usable backend back is one step. -/
theorem session_giveBack (t : Traffic) {slot : Nat} {b : Backend}
    (hheld : t.session.held? slot = some b) (husable : b.isUsable = true) :
    (t.giveBack slot).session = t.session.release slot := by
  rw [giveBack, PoolSession.release, hheld]
  dsimp only
  rw [Pool.giveBack, if_pos husable, if_pos husable]
  rfl

/-- Giving an unusable backend back, undisturbed by other clients, is the three steps in a row. -/
theorem session_retire (t : Traffic) {slot : Nat} {b : Backend}
    (hheld : t.session.held? slot = some b) (husable : b.isUsable = false) :
    (((t.giveBack slot).order t.retiring.length).settle t.retiring.length).session =
      t.session.release slot := by
  rw [giveBack, PoolSession.release, hheld]
  dsimp only
  rw [Pool.giveBack, if_neg (by simp [husable]), if_neg (by simp [husable]), order]
  simp [settle, rebuild_eq_order, pool]

/-! ## What every interleaving keeps -/

/-- The books of a pool are in order. -/
structure Sound (t : Traffic) : Prop where
  live_eq : t.pool.live = t.pool.idleCount + t.checkedOut + t.retiring.length
  live_le : t.pool.live ≤ t.pool.size
  /-- The idle backends are the instances with the idle numbers. -/
  idle_eq : t.pool.idle.map some = t.idle.map (t.instances[·]?)
  /-- The backends in the slots are the instances with the numbers there. -/
  slots_eq : t.session.slots = t.held.map (·.bind (t.instances[·]?))
  /-- Each instance is idle, held or retired, and that once. -/
  perm : (t.idle ++ t.held.reduceOption ++ t.retired).Perm (List.range t.instances.length)
  idle_usable : ∀ b ∈ t.pool.idle, b.isUsable = true
  retired_unusable :
    ∀ number ∈ t.retired, ∀ b, t.instances[number]? = some b → b.isUsable = false
  fresh_usable : ∀ b, .answered (some b) ∈ t.retiring → b.isUsable = true
  reliable : ∀ factory, t.pool.factory = some factory → factory.Reliable

variable {t : Traffic} {slot : Nat}

namespace Sound

theorem nodup (h : t.Sound) : (t.idle ++ t.held.reduceOption ++ t.retired).Nodup :=
  h.perm.nodup_iff.2 List.nodup_range

theorem lt_of_mem (h : t.Sound) {number : Nat}
    (hmem : number ∈ t.idle ++ t.held.reduceOption ++ t.retired) :
    number < t.instances.length :=
  List.mem_range.1 (h.perm.mem_iff.1 hmem)

theorem held_nodup (h : t.Sound) : t.held.reduceOption.Nodup :=
  (List.nodup_append.1 (List.nodup_append.1 h.nodup).1).2.1

/-- An instance in a slot is not idle. -/
theorem not_mem_idle (h : t.Sound) {number : Nat} (hheld : number ∈ t.held.reduceOption) :
    number ∉ t.idle := by
  intro hidle
  exact (List.nodup_append.1 (List.nodup_append.1 h.nodup).1).2.2 number hidle number hheld rfl

/-- An instance that is retired is neither idle nor held. -/
theorem not_mem_of_retired (h : t.Sound) {number : Nat} (hretired : number ∈ t.retired) :
    number ∉ t.idle ++ t.held.reduceOption := by
  intro hmem
  exact (List.nodup_append.1 h.nodup).2.2 number hmem number hretired rfl

/-- A slot with a backend has the number of an instance, which is that backend. -/
theorem exists_number (h : t.Sound) {b : Backend} (hslot : t.session.slots[slot]? = some (some b)) :
    ∃ number, t.held[slot]? = some (some number) ∧ t.instances[number]? = some b := by
  rw [h.slots_eq, List.getElem?_map, Option.map_eq_some_iff] at hslot
  obtain ⟨content, hcontent, hbind⟩ := hslot
  obtain ⟨number, rfl, hnumber⟩ := Option.bind_eq_some_iff.1 hbind
  exact ⟨number, hcontent, hnumber⟩

end Sound

theorem number?_eq {number : Nat} (h : t.held[slot]? = some (some number)) :
    t.number? slot = some number := by
  rw [number?, h]
  rfl

/-- The pool as it was built is sound. -/
theorem sound_start {p : Pool} (hp : p.BuiltUsable) (d : Device) : (start p d).Sound := by
  obtain ⟨hlive, hsize, husable, hreliable⟩ := hp.cases
  refine ⟨?_, ?_, ?_, rfl, ?_, husable, ?_, ?_, hreliable⟩
  · exact hlive
  · exact Nat.le_of_eq hsize.symm
  · refine List.ext_getElem? ?_
    intro i
    by_cases hi : i < p.idle.length
    · simp [pool, start, hi]
    · simp [pool, start, hi]
  · simp [start]
  · simp [start]
  · simp [start]

/-- Taking an instance moves its number into the new slot. -/
theorem Sound.tryAcquire (h : t.Sound) : (t.taken t.session.tryAcquire.2).Sound := by
  have hidle := h.idle_eq
  rw [PoolSession.tryAcquire, Pool.take?]
  change t.session.pool.idle.map some = _ at hidle
  rcases hbackends : t.session.pool.idle with _ | ⟨b, backends⟩
  · -- the idle numbers are as many as the idle backends
    rw [hbackends] at hidle
    have hnone : t.idle = [] := by simpa using hidle.symm
    rw [taken, hnone]
    dsimp only
    rw [← hnone]
    exact h
  · rw [hbackends] at hidle
    rcases hnumbers : t.idle with _ | ⟨number, numbers⟩
    · rw [hnumbers] at hidle
      cases hidle
    · rw [hnumbers, List.map_cons, List.map_cons, List.cons.injEq] at hidle
      obtain ⟨hfirst, hrest⟩ := hidle
      rw [taken, hnumbers]
      refine ⟨?_, h.live_le, hrest, ?_, ?_, ?_, h.retired_unusable, h.fresh_usable, h.reliable⟩
      · have hlive := h.live_eq
        simp only [pool, idleCount, checkedOut, PoolSession.lease, hbackends, List.length_cons,
          reduceOption_append_some, List.length_append, List.length_nil] at hlive ⊢
        omega
      · simp only [PoolSession.lease, List.map_append, List.map_cons, List.map_nil, h.slots_eq]
        rw [Option.bind_some, hfirst]
      · -- the number moves from the idle ones to the held ones
        refine List.Perm.trans ?_ h.perm
        rw [hnumbers, List.perm_iff_count]
        intro a
        simp only [reduceOption_append_some, List.count_append, List.count_cons,
          List.count_nil]
        omega
      · intro b' hb'
        exact h.idle_usable b' (by rw [pool, hbackends]; exact List.mem_cons_of_mem b hb')

/-- Emptying a slot keeps the numbers in line with the backends. -/
theorem Sound.slots_set_none (h : t.Sound) (slot : Nat) :
    t.session.slots.set slot none = (t.held.set slot none).map (·.bind (t.instances[·]?)) := by
  rw [List.map_set, h.slots_eq]
  rfl

/-- Giving an instance back makes it idle if it is usable, else it is retired. -/
theorem Sound.giveBack (h : t.Sound) (slot : Nat) : (t.giveBack slot).Sound := by
  rw [Traffic.giveBack]
  cases hheld : t.session.held? slot with
  | none => exact h
  | some b =>
    have hslot := PoolSession.held?_eq_some_iff.1 hheld
    obtain ⟨number, hnumber, hinstance⟩ := h.exists_number hslot
    have hlive := h.live_eq
    have hfewer := length_reduceOption_set hslot
    have hperm := perm_reduceOption_set hnumber
    simp only [number?_eq hnumber, Option.toList_some]
    by_cases husable : b.isUsable = true
    · rw [if_pos husable]
      refine ⟨?_, h.live_le, ?_, h.slots_set_none slot, ?_, ?_, h.retired_unusable, h.fresh_usable,
        h.reliable⟩
      · simp only [pool, idleCount, checkedOut, put, List.length_cons] at hlive ⊢
        omega
      · simp only [pool, put, List.map_cons, List.map_append, List.map_nil]
        rw [hinstance]
        exact congrArg _ h.idle_eq
      · -- the number moves from the held ones to the idle ones
        refine List.Perm.trans ?_ h.perm
        rw [List.perm_iff_count]
        intro a
        have hcount := hperm.count_eq a
        simp only [List.count_append, List.count_cons, List.count_nil] at hcount ⊢
        omega
      · intro b' hb'
        rcases List.mem_cons.1 hb' with rfl | hb'
        · exact husable
        · exact h.idle_usable b' hb'
    · rw [if_neg husable]
      refine ⟨?_, h.live_le, h.idle_eq, h.slots_set_none slot, ?_, h.idle_usable, ?_, ?_,
        h.reliable⟩
      · -- until it is settled, the retirement counts as live in place of the slot
        simp only [pool, idleCount, checkedOut, List.length_append, List.length_cons,
          List.length_nil] at hlive ⊢
        omega
      · refine List.Perm.trans ?_ h.perm
        rw [List.perm_iff_count]
        intro a
        have hcount := hperm.count_eq a
        simp only [List.count_append, List.count_cons, List.count_nil] at hcount ⊢
        omega
      · intro n hn b' hb'
        rcases List.mem_cons.1 hn with rfl | hn
        · cases hinstance.symm.trans hb'
          simpa using husable
        · exact h.retired_unusable n hn b' hb'
      · intro fresh hfresh
        rcases List.mem_append.1 hfresh with hold | hnew
        · exact h.fresh_usable fresh hold
        · simp at hnew

/-- A call changes the one instance it is made on. -/
theorem Sound.called (h : t.Sound) {session : PoolSession} {b b' : Backend}
    (hslot : t.session.slots[slot]? = some (some b)) (hpool : session.pool = t.session.pool)
    (hslots : session.slots = t.session.slots.set slot (some b')) :
    ({ t with session, instances := t.called slot session } : Traffic).Sound := by
  obtain ⟨number, hnumber, -⟩ := h.exists_number hslot
  have hmem := mem_reduceOption_of_getElem? hnumber
  have hlt : number < t.instances.length := h.lt_of_mem (by simp [hmem])
  have hnew : session.held? slot = some b' := by
    obtain ⟨hi, -⟩ := List.getElem?_eq_some_iff.1 hslot
    rw [PoolSession.held?_eq_some_iff, hslots]
    simp [hi]
  have hcalled : t.called slot session = t.instances.set number b' := by
    rw [Traffic.called, number?_eq hnumber, hnew]
  rw [hcalled]
  refine ⟨?_, ?_, ?_, ?_, ?_, ?_, ?_, h.fresh_usable, ?_⟩
  · have hlive := h.live_eq
    have hsame := length_reduceOption_set_some hslot b'
    simp only [pool, checkedOut, hpool, hslots, hsame] at hlive ⊢
    exact hlive
  · rw [pool, hpool]
    exact h.live_le
  · rw [pool, hpool]
    refine h.idle_eq.trans (List.map_congr_left ?_)
    intro n hn
    -- the instance that is called is held, so it is none of the idle ones
    rw [List.getElem?_set_ne]
    rintro rfl
    exact h.not_mem_idle hmem hn
  · rw [hslots, h.slots_eq]
    refine List.ext_getElem? ?_
    intro i
    -- the number is in the slot of the call only, so the other slots keep their instances
    by_cases hi : slot = i
    · subst hi
      obtain ⟨hi, hcontent⟩ := List.getElem?_eq_some_iff.1 hnumber
      simp [hi, hlt, hcontent]
    · rw [List.getElem?_set_ne hi, List.getElem?_map, List.getElem?_map]
      rcases hcontent : t.held[i]? with _ | _ | n
      · rfl
      · rfl
      · have hne : number ≠ n := by
          rintro rfl
          exact hi (slot_unique h.held_nodup hnumber hcontent)
        simp [List.getElem?_set_ne hne]
  · rw [List.length_set]
    exact h.perm
  · rw [pool, hpool]
    exact h.idle_usable
  · intro n hn b'' hb''
    have hne : number ≠ n := by
      rintro rfl
      exact h.not_mem_of_retired hn (by simp [hmem])
    rw [List.getElem?_set_ne hne] at hb''
    exact h.retired_unusable n hn b'' hb''
  · rw [pool, hpool]
    exact h.reliable

/-- Asking for another instance moves none. -/
theorem Sound.order (h : t.Sound) (place : Nat) : (t.order place).Sound := by
  rw [Traffic.order]
  split
  · next hplace =>
    obtain ⟨replacement, calls, d', horder⟩ := t.pool.exists_order_eq t.session.device
    rw [horder]
    refine ⟨?_, h.live_le, h.idle_eq, h.slots_eq, h.perm, h.idle_usable, h.retired_unusable, ?_,
      h.reliable⟩
    · simp only [List.length_set]
      exact h.live_eq
    · intro fresh hfresh
      rcases List.mem_or_eq_of_mem_set hfresh with hold | hnew
      · exact h.fresh_usable fresh hold
      · cases hnew
        exact usable_of_order h.reliable horder
  · exact h

/-- Settling a retirement brings a new instance, or ends the life of the one that was closed. -/
theorem Sound.settle (h : t.Sound) (place : Nat) : (t.settle place).Sound := by
  rw [Traffic.settle]
  split
  · next replacement hplace =>
    have hlive := h.live_eq
    have hle := h.live_le
    obtain ⟨hi, -⟩ := List.getElem?_eq_some_iff.1 hplace
    have hfewer := List.length_eraseIdx_add_one hi
    have hfresh : ∀ b, .answered (some b) ∈ t.retiring.eraseIdx place → b.isUsable = true := by
      intro b hb
      exact h.fresh_usable b (List.mem_of_mem_eraseIdx hb)
    cases replacement with
    | none =>
      simp only [Option.toList_none, Option.map_none, List.append_nil, List.nil_append]
      refine ⟨?_, ?_, h.idle_eq, h.slots_eq, h.perm, h.idle_usable, h.retired_unusable, hfresh,
        h.reliable⟩
      · simp only [pool, idleCount, checkedOut, Pool.settle] at hlive ⊢
        omega
      · simp only [pool, Pool.settle] at hle ⊢
        omega
    | some fresh =>
      simp only [Option.toList_some, Option.map_some]
      -- the numbers given so far mean the same instances as before
      have hkept : ∀ n ∈ t.idle ++ t.held.reduceOption ++ t.retired,
          (t.instances ++ [fresh])[n]? = t.instances[n]? := by
        intro n hn
        exact List.getElem?_append_left (h.lt_of_mem hn)
      refine ⟨?_, hle, ?_, ?_, ?_, ?_, ?_, hfresh, h.reliable⟩
      · simp only [pool, idleCount, checkedOut, Pool.settle, put, List.length_cons] at hlive ⊢
        omega
      · simp only [pool, Pool.settle, put, List.map_cons, List.singleton_append,
          List.getElem?_concat_length]
        refine congrArg _ (h.idle_eq.trans (List.map_congr_left ?_))
        intro n hn
        exact (hkept n (by simp [hn])).symm
      · refine h.slots_eq.trans (List.map_congr_left ?_)
        rintro (_ | n) hn
        · rfl
        · exact (hkept n (by simp [List.reduceOption_mem_iff.2 hn])).symm
      · -- the new instance has the next number, and is idle
        rw [List.length_append, List.length_singleton, List.range_succ]
        refine ((h.perm.cons t.instances.length).trans ?_)
        exact (List.perm_append_singleton _ _).symm
      · intro b hb
        rcases List.mem_cons.1 hb with rfl | hb
        · exact h.fresh_usable b (List.mem_of_getElem? hplace)
        · exact h.idle_usable b hb
      · intro n hn b hb
        rw [hkept n (by simp [hn])] at hb
        exact h.retired_unusable n hn b hb
  · exact h

/-- Every step keeps the books in order. -/
theorem Sound.step (h : t.Sound) (event : Event) : (t.step event).Sound := by
  cases event with
  | acquire =>
    rw [Traffic.step, PoolSession.acquire_snd_eq]
    exact h.tryAcquire
  | tryAcquire => exact h.tryAcquire
  | infer slot inputs elapsed =>
    rw [Traffic.step]
    split
    · exact h
    · next result session hinfer =>
      obtain ⟨b, b', hslot, hpool, hslots⟩ := PoolSession.eq_of_infer hinfer
      exact h.called hslot hpool hslots
  | giveBack slot => exact h.giveBack slot
  | order place => exact h.order place
  | settle place => exact h.settle place
  | device change =>
    exact ⟨h.live_eq, h.live_le, h.idle_eq, h.slots_eq, h.perm, h.idle_usable, h.retired_unusable,
      h.fresh_usable, h.reliable⟩

/-- Every interleaving keeps the books in order. -/
theorem Sound.run (h : t.Sound) (events : List Event) : (t.run events).Sound := by
  -- on the row of events, for all states that are sound
  induction events generalizing t with
  | nil => exact h
  | cons event rest ih => exact ih (h.step event)

/-! ## What does not come back -/

/-- Between two states of the traffic no instance came back to life. -/
structure Before (t t' : Traffic) : Prop where
  size_eq : t'.pool.size = t.pool.size
  live_le : t'.pool.live ≤ t.pool.live
  retired_subset : t.retired ⊆ t'.retired

theorem Before.refl (t : Traffic) : t.Before t := ⟨rfl, Nat.le_refl _, List.Subset.refl _⟩

theorem Before.trans {t₁ t₂ t₃ : Traffic} (h : t₁.Before t₂) (h' : t₂.Before t₃) : t₁.Before t₃ :=
  ⟨h'.size_eq.trans h.size_eq, Nat.le_trans h'.live_le h.live_le,
    List.Subset.trans h.retired_subset h'.retired_subset⟩

theorem before_tryAcquire (t : Traffic) : t.Before (t.taken t.session.tryAcquire.2) := by
  have hpool : t.session.tryAcquire.2.pool.size = t.pool.size ∧
      t.session.tryAcquire.2.pool.live = t.pool.live := by
    rw [PoolSession.tryAcquire, take?, pool]
    cases t.session.pool.idle with
    | nil => exact ⟨rfl, rfl⟩
    | cons b rest => exact ⟨rfl, rfl⟩
  rw [taken]
  cases t.idle with
  | nil => exact ⟨hpool.1, Nat.le_of_eq hpool.2, List.Subset.refl _⟩
  | cons number rest => exact ⟨hpool.1, Nat.le_of_eq hpool.2, List.Subset.refl _⟩

theorem before_giveBack (t : Traffic) (slot : Nat) : t.Before (t.giveBack slot) := by
  rw [giveBack]
  cases t.session.held? slot with
  | none => exact .refl t
  | some b =>
    dsimp only
    split_ifs
    · exact ⟨rfl, Nat.le_refl _, List.Subset.refl _⟩
    · exact ⟨rfl, Nat.le_refl _, List.subset_append_right _ _⟩

theorem before_order (t : Traffic) (place : Nat) : t.Before (t.order place) := by
  rw [order]
  split
  · obtain ⟨replacement, calls, d', horder⟩ := t.pool.exists_order_eq t.session.device
    rw [horder]
    exact ⟨rfl, Nat.le_refl _, List.Subset.refl _⟩
  · exact .refl t

theorem before_settle (t : Traffic) (place : Nat) : t.Before (t.settle place) := by
  rw [settle]
  split
  · next replacement _ =>
    cases replacement with
    | none => exact ⟨rfl, Nat.sub_le _ _, List.Subset.refl _⟩
    | some fresh => exact ⟨rfl, Nat.le_refl _, List.Subset.refl _⟩
  · exact .refl t

theorem before_step (t : Traffic) (event : Event) : t.Before (t.step event) := by
  cases event with
  | acquire =>
    rw [step, PoolSession.acquire_snd_eq]
    exact t.before_tryAcquire
  | tryAcquire => exact t.before_tryAcquire
  | infer slot inputs elapsed =>
    rw [step]
    split
    · exact .refl t
    · next result session hinfer =>
      obtain ⟨b, b', -, hpool, -⟩ := PoolSession.eq_of_infer hinfer
      exact ⟨congrArg Pool.size hpool, Nat.le_of_eq (congrArg Pool.live hpool),
        List.Subset.refl _⟩
  | giveBack slot => exact t.before_giveBack slot
  | order place => exact t.before_order place
  | settle place => exact t.before_settle place
  | device change => exact ⟨rfl, Nat.le_refl _, List.Subset.refl _⟩

theorem before_run (t : Traffic) (events : List Event) : t.Before (t.run events) := by
  induction events generalizing t with
  | nil => exact .refl t
  | cons event rest ih => exact (t.before_step event).trans (ih (t.step event))

/-- Giving an unusable instance back retires it. -/
theorem Sound.mem_retired (h : t.Sound) {number : Nat} {b : Backend}
    (hnumber : t.held[slot]? = some (some number)) (hinstance : t.instances[number]? = some b)
    (husable : b.isUsable = false) : number ∈ (t.giveBack slot).retired := by
  have hheld : t.session.held? slot = some b := by
    rw [PoolSession.held?_eq_some_iff, h.slots_eq, List.getElem?_map, hnumber]
    exact congrArg some hinstance
  rw [Traffic.giveBack, hheld]
  simp [husable, number?_eq hnumber]

/-- A retirement that brings no other instance ends the life of one. -/
theorem Sound.live_of_settle_none (h : t.Sound) {place : Nat}
    (hplace : t.retiring[place]? = some (.answered none)) :
    (t.settle place).pool.live + 1 = t.pool.live := by
  obtain ⟨hi, -⟩ := List.getElem?_eq_some_iff.1 hplace
  have hlive := h.live_eq
  rw [Traffic.settle, hplace]
  simp only [pool, Pool.settle] at hlive ⊢
  omega

/-- With no live instance nothing is idle, held or under way. -/
theorem Sound.empty_of_live (h : t.Sound) (hlive : t.pool.live = 0) :
    t.pool.idle = [] ∧ t.checkedOut = 0 ∧ t.retiring = [] := by
  have hcounts := h.live_eq
  rw [hlive, idleCount] at hcounts
  -- the three numbers add up to none
  refine ⟨List.eq_nil_of_length_eq_zero ?_, ?_, List.eq_nil_of_length_eq_zero ?_⟩
  · omega
  · omega
  · omega

/-- Taking an instance fails exactly if none is live. -/
theorem Sound.acquire_eq_error_iff (h : t.Sound) (e : EngineError) :
    t.session.acquire.1 = .error e ↔ t.pool.live = 0 ∧ e = exhausted t.pool.size := by
  rw [PoolSession.acquire, Pool.acquire, take?]
  constructor
  · intro herror
    cases hidle : t.session.pool.idle with
    | nil =>
      simp only [hidle] at herror
      by_cases hlive : t.session.pool.live = 0
      · simp only [if_pos hlive] at herror
        cases herror
        exact ⟨hlive, rfl⟩
      · simp only [if_neg hlive] at herror
        cases herror
    | cons b rest =>
      simp only [hidle] at herror
      cases herror
  · rintro ⟨hlive, rfl⟩
    have hidle := (h.empty_of_live hlive).1
    rw [pool] at hlive hidle
    simp only [hidle, if_pos hlive]
    rfl

/-- Whatever happened to a pool of usable instances, its books are in order: of the live instances,
never more than there were at first, each is idle, held, or about to be replaced; each instance
there ever was is idle, held or retired, and that once; and the idle ones are usable. One instance
fewer is live when a retirement brings no other. An instance that comes back unusable is never again
idle or held. Taking an instance fails exactly when none is live, and then there is nothing idle,
held or under way for good. -/
theorem instances_accounted {p : Pool} (hp : p.BuiltUsable) (d : Device) (events : List Event) :
    let t := (start p d).run events
    t.Sound ∧ t.pool.size = p.size ∧
    (∀ place, t.retiring[place]? = some (.answered none) →
      (t.step (.settle place)).pool.live + 1 = t.pool.live) ∧
    (∀ slot number b, t.held[slot]? = some (some number) → t.instances[number]? = some b →
      b.isUsable = false → ∀ later,
        let t' := (t.step (.giveBack slot)).run later
        number ∉ t'.idle ∧ some number ∉ t'.held) ∧
    (∀ e, t.session.acquire.1 = .error e ↔ t.pool.live = 0 ∧ e = exhausted p.size) ∧
    (t.pool.live = 0 → ∀ later,
      let t' := t.run later
      t'.pool.live = 0 ∧ t'.pool.idle = [] ∧ t'.checkedOut = 0 ∧ t'.retiring = []) := by
  intro t
  have hsound : t.Sound := (sound_start hp d).run events
  have hsize : t.pool.size = p.size := ((start p d).before_run events).size_eq
  refine ⟨hsound, hsize, ?_, ?_, ?_, ?_⟩
  · intro place hplace
    exact hsound.live_of_settle_none hplace
  · intro slot number b hnumber hinstance husable later t'
    have hretired : number ∈ t'.retired :=
      (before_run _ later).retired_subset (hsound.mem_retired hnumber hinstance husable)
    have hnot := ((hsound.giveBack slot).run later).not_mem_of_retired hretired
    rw [List.mem_append, not_or] at hnot
    exact ⟨hnot.1, fun hheld => hnot.2 (List.reduceOption_mem_iff.2 hheld)⟩
  · intro e
    rw [← hsize]
    exact hsound.acquire_eq_error_iff e
  · intro hlive later t'
    have hlater : t'.pool.live = 0 := by
      have hle := (t.before_run later).live_le
      rw [hlive] at hle
      exact Nat.le_zero.1 hle
    exact ⟨hlater, (hsound.run later).empty_of_live hlater⟩

/-- The only instance of a pool meets an armed fault, is given back, and is not idle again. -/
theorem instances_accounted_copy :
    ∃ p d, withFactory (Device.new .builtin none (.upTo 4096)) 1
        (sharedFactory Fleet.copyFiles Fleet.copyConfig) = (.ok p, d) ∧
      let events : List Event := [.acquire, .device Device.armLaunchFault,
        .infer 0 [[1, 2, 3, 4]] ⟨0⟩, .giveBack 0, .order 0, .settle 0]
      let t := (start p d).run events
      t.idle = [1] ∧ t.retired = [0] ∧ t.pool.live = 1 ∧
      ∀ later, (t.run later).pool.live =
        (t.run later).pool.idleCount + (t.run later).checkedOut + (t.run later).retiring.length := by
  let built := withFactory (Device.new .builtin none (.upTo 4096)) 1
    (sharedFactory Fleet.copyFiles Fleet.copyConfig)
  let events : List Event := [.acquire, .device Device.armLaunchFault,
    .infer 0 [[1, 2, 3, 4]] ⟨0⟩, .giveBack 0, .order 0, .settle 0]
  have hwhere : (built.1.map fun p =>
      let t := (start p built.2).run events
      (t.idle, t.retired, t.pool.live)) = .ok ([1], [0], 1) := by decide +kernel
  rcases hbuilt : built with ⟨e | p, d⟩
  · rw [hbuilt] at hwhere
    cases hwhere
  · rw [hbuilt] at hwhere
    simp only [Except.map, Except.ok.injEq, Prod.mk.injEq] at hwhere
    obtain ⟨hidle, hretired, hlive⟩ := hwhere
    refine ⟨p, d, hbuilt, hidle, hretired, hlive, ?_⟩
    intro later
    have hp : p.BuiltUsable := .withFactory hbuilt (reliable_sharedFactory _ _)
    have hall := (instances_accounted hp d (events ++ later)).1.live_eq
    rw [run, List.foldl_append] at hall
    exact hall

end Traffic

end Pool

end GraphServe
