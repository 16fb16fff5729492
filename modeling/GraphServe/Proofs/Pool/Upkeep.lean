import GraphServe.Proofs.Pool.Stock
import Mathlib.Algebra.Order.BigOperators.Group.List
import Mathlib.Algebra.Order.Ring.Nat

/-!
# Upkeep of a pool

A pool of one engine configuration lives on a device that nothing else uses. Any number of clients
take instances, call them and give them back, and any number of retirements are under way, each in
the stage it has come to. One step is what the lock of the pool or of the device makes atomic, so
that a retirement meets the steps of others between any two of its requests, where in `Traffic` the
factory builds an instance at a stroke. A call that others come in between is a row of requests that
keep the books of the device (`Interference`), and in the end a change of the instance that keeps
its buffers (`Revision`).

Every step keeps the stock of the device in order (`Kept.step`). If the limit leaves room for as
many instances as the pool was built with, and the host backs what one demands, the pool therefore
never shrinks (`never_shrinks`).
-/

namespace GraphServe.Pool

/-- What may happen to the device between two steps of the pool: a fault is armed, a kernel is added
or replaced, or a call that is under way makes a request. -/
inductive Interference where
  | armLaunchFault
  | armTransferFault
  | registerKernel (name : String) (body : Kernel)
  | copyIn (a : Address) (bytes : Bytes)
  | copyOut (a : Address) (count : Nat)
  | fill (a : Address) (value : UInt8) (count : Nat)
  | launch (s : Stream) (kernel : String) (payload : Bytes) (bindings : List Binding)

namespace Interference

/-- The device after it. -/
def apply (d : Device) : Interference → Device
  | .armLaunchFault => d.armLaunchFault
  | .armTransferFault => d.armTransferFault
  | .registerKernel name body => d.registerKernel name body
  | .copyIn a bytes => (d.copyIn a bytes).2
  | .copyOut a count => (d.copyOut a count).2
  | .fill a value count => (d.fill a value count).2
  | .launch s kernel payload bindings => (d.launch s kernel payload bindings).2

/-- Whatever it is, it keeps the books of the device. -/
theorem touched_apply (i : Interference) (d : Device) : d.Touched (i.apply d) := by
  cases i with
  | armLaunchFault => exact d.touched_armLaunchFault
  | armTransferFault => exact d.touched_armTransferFault
  | registerKernel name body => exact d.touched_registerKernel name body
  | copyIn a bytes => exact (d.keeps_copyIn a bytes).touched
  | copyOut a count => exact (d.keeps_copyOut [] a count).touched
  | fill a value count => exact (d.keeps_fill a value count).touched
  | launch s kernel payload bindings => exact (d.keeps_launch s kernel payload bindings).touched

end Interference

/-- A change of an instance that keeps its buffers. Counting a call and recording a failure are such
changes, and so is whatever a call does to the context. -/
structure Revision where
  change : EngineBackend → EngineBackend
  buffers_eq : ∀ e, (change e).buffers = e.buffers

/-- A pool with its clients, and the stages of the retirements that are under way. -/
structure Upkeep where
  session : PoolSession
  stages : List Stage

namespace Upkeep

/-- What can happen next. A wait that ends in time is an `acquire`, at the latest when the client is
woken, and one that does not is no step of the pool. -/
inductive Event where
  | acquire
  | tryAcquire
  | infer (slot : Nat) (inputs : List Bytes) (elapsed : Duration)
  /-- A call that others came in between ends. -/
  | revise (slot : Nat) (revision : Revision)
  | giveBack (slot : Nat)
  /-- The client that retires an instance makes one more request. -/
  | proceed (place : Nat)
  /-- The client that retires an instance tells the pool what came of it. -/
  | settle (place : Nat)
  | interfere (i : Interference)

/-- The pool without clients. -/
def start (p : Pool) (d : Device) : Upkeep := ⟨⟨p, d, []⟩, []⟩

/-- A client gives the backend in a slot back. A usable one becomes idle, and of an unusable one the
retirement begins. -/
def giveBack (u : Upkeep) (slot : Nat) : Upkeep :=
  match u.session.held? slot with
  | none => u
  | some b =>
    let slots := u.session.slots.set slot none
    if b.isUsable then { u with session := { u.session with pool := u.session.pool.put b, slots } }
    else { session := { u.session with slots }, stages := u.stages ++ [.ofBackend b] }

/-- The state once a retirement has come to a stage, and the pool and the device with it. -/
def moved (u : Upkeep) (place : Nat) (t : Stage × Pool × Device) : Upkeep where
  session := { u.session with pool := t.2.1, device := t.2.2 }
  stages := u.stages.set place t.1

/-- A retirement goes one request further. -/
def proceed (files : Files) (config : BackendConfig) (u : Upkeep) (place : Nat) : Upkeep :=
  match u.stages[place]? with
  | some s => u.moved place (Stage.advance files config (s, u.session.pool, u.session.device))
  | none => u

/-- The instance in a slot is changed. -/
def revise (u : Upkeep) (slot : Nat) (revision : Revision) : Upkeep :=
  match u.session.held? slot with
  | some (.shared e) =>
    let slots := u.session.slots.set slot (some (.shared (revision.change e)))
    { u with session := { u.session with slots } }
  | _ => u

/-- A retirement that was answered ends. -/
def settle (u : Upkeep) (place : Nat) : Upkeep :=
  match u.stages[place]? with
  | some (.answered replacement) =>
    { session := { u.session with pool := u.session.pool.settle replacement }
      stages := u.stages.eraseIdx place }
  | _ => u

/-- One atomic step. -/
def step (files : Files) (config : BackendConfig) (u : Upkeep) : Event → Upkeep
  | .acquire => { u with session := u.session.acquire.2 }
  | .tryAcquire => { u with session := u.session.tryAcquire.2 }
  | .infer slot inputs elapsed =>
    match u.session.infer slot inputs elapsed with
    | none => u
    | some (_, session) => { u with session }
  | .revise slot revision => u.revise slot revision
  | .giveBack slot => u.giveBack slot
  | .proceed place => u.proceed files config place
  | .settle place => u.settle place
  | .interfere i => { u with session := { u.session with device := i.apply u.session.device } }

/-- What a row of steps makes of the state. -/
def run (files : Files) (config : BackendConfig) (u : Upkeep) (events : List Event) : Upkeep :=
  events.foldl (step files config) u

variable {files : Files} {config : BackendConfig} {u : Upkeep} {slot place : Nat}

/-! ## Agreement with sessions -/

theorem run_append (u : Upkeep) (events more : List Event) :
    u.run files config (events ++ more) = (u.run files config events).run files config more :=
  List.foldl_append

/-- A retirement that nothing comes in between goes through its stages. -/
theorem run_replicate_of_reaches {s : Stage} (hplace : u.stages[place]? = some s)
    {t : Stage × Pool × Device}
    (h : Stage.Reaches files config (s, u.session.pool, u.session.device) t) :
    ∃ count, u.run files config (List.replicate count (.proceed place)) = u.moved place t := by
  obtain ⟨hlt, hs⟩ := List.getElem?_eq_some_iff.1 hplace
  induction h with
  | refl =>
    refine ⟨0, ?_⟩
    rw [moved, ← hs, List.set_getElem_self]
    rfl
  | @tail t t' _ hstep ih =>
    obtain ⟨count, hcount⟩ := ih
    refine ⟨count + 1, ?_⟩
    have hat : (u.moved place t).stages[place]? = some t.1 := by simp [moved, hlt]
    rw [List.replicate_succ', run_append, hcount]
    change (u.moved place t).proceed files config place = u.moved place t'
    rw [proceed, hat, ← hstep]
    simp only [moved, List.set_set]

/-- Giving a usable backend back is one step. -/
theorem session_giveBack {b : Backend} (hheld : u.session.held? slot = some b)
    (husable : b.isUsable = true) : (u.giveBack slot).session = u.session.release slot := by
  rw [giveBack, PoolSession.release, hheld]
  dsimp only
  rw [Pool.giveBack, if_pos husable, if_pos husable]

/-- Giving an unusable backend back, undisturbed by other clients, is a row of requests and an
ending. -/
theorem session_retire {b : Backend} (hheld : u.session.held? slot = some b)
    (husable : b.isUsable = false)
    (hfactory : u.session.pool.factory = some (sharedFactory files config)) :
    ∃ count, ((u.giveBack slot).run files config
        (List.replicate count (.proceed u.stages.length))).settle u.stages.length =
      { session := u.session.release slot, stages := u.stages } := by
  have hbegun : u.giveBack slot =
      { session := { u.session with slots := u.session.slots.set slot none }
        stages := u.stages ++ [.ofBackend b] } := by
    rw [giveBack, hheld]
    dsimp only
    rw [if_neg (by simp [husable])]
  rw [hbegun]
  -- the new retirement is the last one, and goes on undisturbed until it is answered
  have hplace : (u.stages ++ [.ofBackend b])[u.stages.length]? = some (.ofBackend b) :=
    List.getElem?_concat_length
  obtain ⟨count, hcount⟩ := run_replicate_of_reaches (u := { session :=
    { u.session with slots := u.session.slots.set slot none }, stages := u.stages ++ [.ofBackend b] })
    hplace (Stage.reaches_rebuild hfactory b u.session.device)
  refine ⟨count, ?_⟩
  rw [hcount, PoolSession.release, hheld]
  dsimp only
  rw [Pool.giveBack, if_neg (by simp [husable])]
  simp [settle, moved, List.eraseIdx_append_of_length_le]

/-! ## What every step keeps -/

/-- The instances of the pool: idle, in a slot, or being replaced. -/
def holders (u : Upkeep) : List Stage :=
  (u.session.pool.idle ++ u.session.slots.reduceOption).map (fun b => .answered (some b)) ++ u.stages

/-- The state with a slot emptied. -/
def emptied (u : Upkeep) (slot : Nat) : Upkeep :=
  { u with session := { u.session with slots := u.session.slots.set slot none } }

/-- The state without the retirement in a place. -/
def without (u : Upkeep) (place : Nat) : Upkeep := { u with stages := u.stages.eraseIdx place }

/-- The instance in a slot, and the others. -/
theorem perm_of_slot {b : Backend} (hslot : u.session.slots[slot]? = some (some b)) :
    u.holders.Perm (.answered (some b) :: (u.emptied slot).holders) := by
  have hslots : (u.session.pool.idle ++ u.session.slots.reduceOption).Perm
      (b :: (u.session.pool.idle ++ (u.session.slots.set slot none).reduceOption)) :=
    ((perm_reduceOption_set hslot).append_left _).trans List.perm_middle
  exact (hslots.map _).append_right _

/-- The instance whose retirement is in a place, and the others. -/
theorem perm_of_place {s : Stage} (hplace : u.stages[place]? = some s) :
    u.holders.Perm (s :: (u.without place).holders) := by
  obtain ⟨hlt, rfl⟩ := List.getElem?_eq_some_iff.1 hplace
  exact ((List.getElem_cons_eraseIdx_perm hlt).symm.append_left _).trans List.perm_middle

/-- The pool has its full number of instances, and they are what the device has in stock. -/
structure Kept (plan : Blueprint files config) (limit : Option Nat) (size : Nat) (u : Upkeep) :
    Prop where
  stocked : Stocked plan limit u.holders u.session.device
  length_eq : u.holders.length = size
  live_eq : u.session.pool.live = size
  size_eq : u.session.pool.size = size
  idle_usable : ∀ b ∈ u.session.pool.idle, b.isUsable = true
  fresh_usable : ∀ b, .answered (some b) ∈ u.stages → b.isUsable = true

namespace Kept

variable {plan : Blueprint files config} {limit : Option Nat} {size : Nat} {u' : Upkeep}

/-- A step that only moves an instance elsewhere keeps the stock. -/
theorem rearranged (h : u.Kept plan limit size) (hperm : u.holders.Perm u'.holders)
    (hdevice : u'.session.device = u.session.device) :
    Stocked plan limit u'.holders u'.session.device ∧ u'.holders.length = size := by
  refine ⟨?_, hperm.length_eq.symm.trans h.length_eq⟩
  rw [hdevice]
  exact h.stocked.perm hperm

/-- A step that changes one instance keeps the stock if it keeps it for that one and the others. -/
theorem exchanged (h : u.Kept plan limit size) {s s' : Stage} {others : List Stage}
    (hperm : u.holders.Perm (s :: others)) (hperm' : u'.holders.Perm (s' :: others))
    (hstocked : Stocked plan limit (s' :: others) u'.session.device) :
    Stocked plan limit u'.holders u'.session.device ∧ u'.holders.length = size := by
  refine ⟨hstocked.perm hperm'.symm, ?_⟩
  rw [hperm'.length_eq, ← h.length_eq, hperm.length_eq]
  rfl

/-- Taking an instance moves it into a new slot. -/
theorem tryAcquire (h : u.Kept plan limit size) :
    Kept plan limit size { u with session := u.session.tryAcquire.2 } := by
  rw [PoolSession.tryAcquire, Pool.take?]
  rcases hidle : u.session.pool.idle with _ | ⟨b, rest⟩
  · exact h
  · dsimp only [PoolSession.lease]
    have hperm : u.holders.Perm (holders { u with session := { u.session with
        pool := { u.session.pool with idle := rest }
        slots := u.session.slots ++ [some b] } }) := by
      simp only [holders, hidle, reduceOption_append_some]
      refine (List.Perm.map _ ?_).append_right _
      rw [← List.append_assoc]
      exact (List.perm_append_singleton b _).symm
    obtain ⟨hstocked, hlength⟩ := h.rearranged hperm rfl
    refine ⟨hstocked, hlength, h.live_eq, h.size_eq, ?_, h.fresh_usable⟩
    intro b' hb'
    exact h.idle_usable b' (by rw [hidle]; exact List.mem_cons_of_mem b hb')

/-- Only whole instances are in slots. -/
theorem exists_shared (h : u.Kept plan limit size) {b : Backend}
    (hslot : u.session.slots[slot]? = some (some b)) :
    ∃ e, b = .shared e ∧ Buffer.totalCapacity e.buffers = plan.need := by
  have hmem := (perm_of_slot hslot).mem_iff.2 List.mem_cons_self
  cases h.stocked.fit _ hmem with
  | answered e whole => exact ⟨e, rfl, whole⟩

/-- The instance in a slot may change, but for its buffers, and the device, but for its books. -/
theorem refilled (h : u.Kept plan limit size) {e e' : EngineBackend} {d' : Device}
    (hslot : u.session.slots[slot]? = some (some (.shared e))) (hbuffers : e'.buffers = e.buffers)
    (htouched : u.session.device.Touched d') :
    Kept plan limit size { u with session := { u.session with
      device := d', slots := u.session.slots.set slot (some (.shared e')) } } := by
  have hperm := perm_of_slot hslot
  have hchanged : Stocked plan limit (.answered (some (.shared e')) :: (u.emptied slot).holders)
      u.session.device := by
    obtain ⟨_, ⟨⟩, hwhole⟩ := h.exists_shared hslot
    refine (h.stocked.perm hperm).exchange hbuffers (.answered e' ?_)
    rw [hbuffers]
    exact hwhole
  -- the slot is filled again, and nothing else was moved
  obtain ⟨hlt, -⟩ := List.getElem?_eq_some_iff.1 hslot
  have hfilled : (u.session.slots.set slot (some (.shared e')))[slot]? =
      some (some (.shared e')) := by simp [hlt]
  have hperm' := perm_of_slot (u := { u with session := { u.session with
    device := d', slots := u.session.slots.set slot (some (.shared e')) } }) hfilled
  simp only [emptied, List.set_set] at hperm'
  obtain ⟨hstocked, hlength⟩ := h.exchanged hperm hperm' (hchanged.touched htouched)
  exact ⟨hstocked, hlength, h.live_eq, h.size_eq, h.idle_usable, h.fresh_usable⟩

/-- A call changes the instance in its slot, but nothing of what that holds. -/
theorem infer (h : u.Kept plan limit size) {inputs : List Bytes} {elapsed : Duration}
    {result : Except EngineError InferenceOutput} {session : PoolSession}
    (hinfer : u.session.infer slot inputs elapsed = some (result, session)) :
    Kept plan limit size { u with session } := by
  rw [PoolSession.infer, Option.map_eq_some_iff] at hinfer
  obtain ⟨b, hheld, hcall⟩ := hinfer
  have hslot := PoolSession.held?_eq_some_iff.1 hheld
  obtain ⟨e, rfl, -⟩ := h.exists_shared hslot
  obtain ⟨hbuffers, htouched⟩ := e.infer_touches u.session.device inputs elapsed
  cases hcall
  exact h.refilled hslot hbuffers htouched

/-- So does whatever keeps the buffers of the instance. -/
theorem revise (h : u.Kept plan limit size) (slot : Nat) (revision : Revision) :
    (u.revise slot revision).Kept plan limit size := by
  rw [Upkeep.revise]
  split
  · next e hheld =>
    exact h.refilled (PoolSession.held?_eq_some_iff.1 hheld) (revision.buffers_eq e) (.refl _)
  · exact h

/-- A usable instance that is given back becomes idle, and an unusable one goes into retirement with
all that it holds. -/
theorem giveBack (h : u.Kept plan limit size) (slot : Nat) :
    (u.giveBack slot).Kept plan limit size := by
  rw [Upkeep.giveBack]
  cases hheld : u.session.held? slot with
  | none => exact h
  | some b =>
    have hperm := perm_of_slot (PoolSession.held?_eq_some_iff.1 hheld)
    dsimp only
    by_cases husable : b.isUsable = true
    · rw [if_pos husable]
      have hidle : u.holders.Perm (holders { u with session := { u.session with
          pool := u.session.pool.put b, slots := u.session.slots.set slot none } }) := hperm
      obtain ⟨hstocked, hlength⟩ := h.rearranged hidle rfl
      refine ⟨hstocked, hlength, h.live_eq, h.size_eq, ?_, h.fresh_usable⟩
      intro b' hb'
      rcases List.mem_cons.1 hb' with rfl | hb'
      · exact husable
      · exact h.idle_usable b' hb'
    · rw [if_neg husable]
      have hsplit := h.stocked.perm hperm
      have hbegun : Stocked plan limit (.ofBackend b :: (u.emptied slot).holders)
          u.session.device := by
        obtain ⟨e, rfl, hwhole⟩ := h.exists_shared (PoolSession.held?_eq_some_iff.1 hheld)
        exact hsplit.exchange rfl (.closing e.context e.buffers (Nat.le_of_eq hwhole))
      have hperm' : (holders { session := { u.session with slots := u.session.slots.set slot none }
                               stages := u.stages ++ [.ofBackend b] }).Perm
          (.ofBackend b :: (u.emptied slot).holders) := by
        rw [holders, ← List.append_assoc]
        exact List.perm_append_singleton _ _
      obtain ⟨hstocked, hlength⟩ := h.exchanged hperm hperm' hbegun
      refine ⟨hstocked, hlength, h.live_eq, h.size_eq, h.idle_usable, ?_⟩
      intro fresh hfresh
      rcases List.mem_append.1 hfresh with hold | hnew
      · exact h.fresh_usable fresh hold
      · -- what goes into retirement is not answered yet
        cases b <;> simp [Stage.ofBackend] at hnew

/-- With room for all instances, a retirement goes one request further. -/
theorem proceed (h : u.Kept plan limit size)
    (hroom : ∀ bytes, limit = some bytes → size * plan.need ≤ bytes) (place : Nat) :
    (u.proceed files config place).Kept plan limit size := by
  rw [Upkeep.proceed]
  cases hplace : u.stages[place]? with
  | none => exact h
  | some s =>
    obtain ⟨hlt, -⟩ := List.getElem?_eq_some_iff.1 hplace
    have hperm := perm_of_place hplace
    -- this instance and the others are as many as there is room for
    have hcount : (u.without place).holders.length + 1 = size := by
      rw [← h.length_eq, hperm.length_eq]
      rfl
    have hadvanced := (h.stocked.perm hperm).advance (hcount ▸ hroom) u.session.pool
    obtain ⟨calls, hpool⟩ := Stage.exists_calls_advance s u.session.pool u.session.device
    have husable : ∀ b, (Stage.advance files config
        (s, u.session.pool, u.session.device)).1 = .answered (some b) →
        s = .answered (some b) ∨ b.isUsable = true := fun b => Stage.usable_of_advance
    dsimp only
    generalize Stage.advance files config (s, u.session.pool, u.session.device) = t
      at hadvanced hpool husable
    obtain ⟨s', p', d'⟩ := t
    obtain rfl : p' = { u.session.pool with calls } := hpool
    have hperm' : (u.moved place (s', { u.session.pool with calls }, d')).holders.Perm
        (s' :: (u.without place).holders) :=
      ((List.set_perm_cons_eraseIdx hlt s').append_left _).trans List.perm_middle
    obtain ⟨hstocked, hlength⟩ := h.exchanged hperm hperm' hadvanced
    refine ⟨hstocked, hlength, h.live_eq, h.size_eq, h.idle_usable, ?_⟩
    intro b hb
    rcases List.mem_or_eq_of_mem_set hb with hold | hnew
    · exact h.fresh_usable b hold
    · rcases husable b hnew.symm with hsame | husable
      · exact h.fresh_usable b (hsame ▸ List.mem_of_getElem? hplace)
      · exact husable

/-- A retirement brings another instance, which becomes idle. -/
theorem settle (h : u.Kept plan limit size) (place : Nat) :
    (u.settle place).Kept plan limit size := by
  rw [Upkeep.settle]
  split
  · next replacement hplace =>
    have hperm := perm_of_place hplace
    have hfit := h.stocked.fit _ (hperm.mem_iff.2 List.mem_cons_self)
    -- the pool would lose an instance only here, if a retirement had been given up
    cases replacement with
    | none => exact absurd rfl hfit.ne_answered_none
    | some fresh =>
      have hidle : u.holders.Perm (holders {
          session := { u.session with pool := u.session.pool.put fresh }
          stages := u.stages.eraseIdx place }) := hperm
      obtain ⟨hstocked, hlength⟩ := h.rearranged hidle rfl
      refine ⟨hstocked, hlength, h.live_eq, h.size_eq, ?_, ?_⟩
      · intro b hb
        rcases List.mem_cons.1 hb with rfl | hb
        · exact h.fresh_usable b (List.mem_of_getElem? hplace)
        · exact h.idle_usable b hb
      · intro b hb
        exact h.fresh_usable b (List.mem_of_mem_eraseIdx hb)
  · exact h

/-- With room for all instances, every step keeps their number and the stock. -/
theorem step (h : u.Kept plan limit size)
    (hroom : ∀ bytes, limit = some bytes → size * plan.need ≤ bytes) (event : Event) :
    (u.step files config event).Kept plan limit size := by
  cases event with
  | acquire =>
    rw [Upkeep.step, PoolSession.acquire_snd_eq]
    exact h.tryAcquire
  | tryAcquire => exact h.tryAcquire
  | infer slot inputs elapsed =>
    rw [Upkeep.step]
    split
    · exact h
    · next result session hinfer => exact h.infer hinfer
  | revise slot revision => exact h.revise slot revision
  | giveBack slot => exact h.giveBack slot
  | proceed place => exact h.proceed hroom place
  | settle place => exact h.settle place
  | interfere i =>
    exact ⟨h.stocked.touched (i.touched_apply u.session.device), h.length_eq, h.live_eq, h.size_eq,
      h.idle_usable, h.fresh_usable⟩

/-- With room for all instances, every interleaving keeps their number and the stock. -/
theorem run (h : u.Kept plan limit size)
    (hroom : ∀ bytes, limit = some bytes → size * plan.need ≤ bytes) (events : List Event) :
    (u.run files config events).Kept plan limit size := by
  -- on the row of events, for all states that are kept
  induction events generalizing u with
  | nil => exact h
  | cons event rest ih => exact ih (h.step hroom event)

/-- The memory in use never exceeds what the instances need together. -/
theorem inUse_le (h : u.Kept plan limit size) : u.session.device.inUse ≤ size * plan.need := by
  rw [← h.length_eq]
  exact h.stocked.inUse_le

/-- With an instance left, taking one succeeds or waits. -/
theorem acquire_ne_error (h : u.Kept plan limit size) (hsize : size ≠ 0) (e : EngineError) :
    u.session.acquire.1 ≠ .error e := by
  rw [PoolSession.acquire, Pool.acquire]
  have hlive : u.session.pool.live ≠ 0 := by
    rw [h.live_eq]
    exact hsize
  intro herror
  cases htake : u.session.pool.take? with
  | none =>
    simp only [htake, if_neg hlive] at herror
    cases herror
  | some taken =>
    simp only [htake] at herror
    cases herror

/-- No retirement was given up. -/
theorem answered_none_not_mem (h : u.Kept plan limit size) : .answered none ∉ u.stages := by
  intro hmem
  exact (h.stocked.fit _ (List.mem_append_right _ hmem)).ne_answered_none rfl

/-- Left to itself, a retirement brings a usable instance. -/
theorem exists_fresh (h : u.Kept plan limit size)
    (hroom : ∀ bytes, limit = some bytes → size * plan.need ≤ bytes) {s : Stage}
    (hplace : u.stages[place]? = some s) :
    ∃ count fresh, (u.run files config (List.replicate count (.proceed place))).stages[place]? =
      some (.answered (some fresh)) ∧ fresh.isUsable = true := by
  obtain ⟨replacement, p, d, hrow⟩ :=
    Stage.exists_reaches_answered s u.session.pool u.session.device
  obtain ⟨count, hcount⟩ := run_replicate_of_reaches hplace hrow
  have hkept := h.run hroom (List.replicate count (.proceed place))
  rw [hcount] at hkept
  obtain ⟨hlt, -⟩ := List.getElem?_eq_some_iff.1 hplace
  have hanswer : (u.moved place (.answered replacement, p, d)).stages[place]? =
      some (.answered replacement) := by simp [moved, hlt]
  have hmem := List.mem_of_getElem? hanswer
  cases replacement with
  | none => exact absurd hmem hkept.answered_none_not_mem
  | some fresh => exact ⟨count, fresh, hcount ▸ hanswer, hkept.fresh_usable fresh hmem⟩

end Kept

/-- A pool that was built on a device that held nothing is kept. -/
theorem exists_kept_start {d₀ d : Device} {size : Nat} {p : Pool} (hkind : config.kind = .engine)
    (hd : d₀.Orderly) (hempty : d₀.regions = [])
    (hbuilt : withFactory d₀ size (sharedFactory files config) = (.ok p, d))
    (hbacked : ∀ e, .shared e ∈ p.idle → ∀ u ∈ e.buffers, ∀ next,
      d₀.host.backs next u.capacity = true) :
    ∃ plan : Blueprint files config, (start p d).Kept plan d₀.limit size ∧ size ≠ 0 := by
  obtain ⟨hlive, hsize, husable, -⟩ :=
    (BuiltUsable.withFactory hbuilt (reliable_sharedFactory files config)).cases
  rw [withFactory] at hbuilt
  rcases hbackends : buildEach (sharedFactory files config) d₀ 0 size with ⟨e | backends, d₁⟩
  · rw [hbackends] at hbuilt
    cases hbuilt
  · rw [hbackends] at hbuilt
    obtain ⟨hassemble, rfl⟩ := Prod.mk.inj hbuilt
    obtain ⟨hidle, -⟩ := assemble_cases hassemble
    cases size with
    | zero =>
      -- a pool of no instances is refused
      cases hbackends
      cases hassemble
    | succ size =>
      obtain ⟨plan, hkernel, e, hmem, hcapacities⟩ :=
        Blueprint.exists_of_buildEach hkind hbackends
      have hnothing : Stocked plan d₀.limit [] d₀ := by
        refine ⟨hd, rfl, ?_, hkernel, ?_, by simp⟩
        · -- a buffer of the first instance is as large as the demand
          intro q hq
          have hcapacity : q.bytes ∈ e.buffers.map Buffer.capacity :=
            hcapacities ▸ List.mem_map_of_mem hq
          obtain ⟨u, hu, heq⟩ := List.mem_map.1 hcapacity
          rw [← heq]
          exact hbacked e (hidle ▸ List.mem_reverse.2 hmem) u hu
        · rw [Device.extents, hempty]
          exact .refl _
      obtain ⟨hstocked, hlength⟩ := hnothing.joinEach hbackends
      have hperm : (start p d₁).holders.Perm (backends.map (fun b => .answered (some b)) ++ []) := by
        simp only [holders, start, List.reduceOption_nil, List.append_nil, hidle]
        exact (List.reverse_perm backends).map _
      have hcount : p.idle.length = size + 1 := by
        rw [hidle, List.length_reverse, hlength]
      refine ⟨plan, ⟨hstocked.perm hperm.symm, ?_, ?_, ?_, husable, ?_⟩, Nat.succ_ne_zero size⟩
      · rw [hperm.length_eq, List.append_nil, List.length_map, hlength]
      · exact hlive.trans hcount
      · exact hsize.trans (hlive.trans hcount)
      · simp [start]

/-- Idle instances hold what one needs. -/
theorem Kept.memoryUsage_eq {plan : Blueprint files config} {limit : Option Nat} {size : Nat}
    (h : u.Kept plan limit size) {b : Backend} (hb : b ∈ u.session.pool.idle) :
    b.memoryUsage = plan.need := by
  have hmem : .answered (some b) ∈ u.holders :=
    List.mem_append_left _ (List.mem_map_of_mem (List.mem_append_left _ hb))
  cases h.stocked.fit _ hmem with
  | answered e whole => exact whole

/-- A pool of one engine configuration on a device that nothing else uses never shrinks, if the
limit leaves room for as many instances as it was built with and the host backs buffers like theirs.
Whatever its clients do, and however calls fail and retirements overlap, it has its full number of
live instances; taking one never fails; no retirement is given up, and each brings a usable
instance; and the memory in use never exceeds what so many instances need. -/
theorem never_shrinks {d₀ d : Device} {size : Nat} {p : Pool} (hkind : config.kind = .engine)
    (hd : d₀.Orderly) (hempty : d₀.regions = [])
    (hbuilt : withFactory d₀ size (sharedFactory files config) = (.ok p, d))
    (hbacked : ∀ e, .shared e ∈ p.idle → ∀ u ∈ e.buffers, ∀ next,
      d₀.host.backs next u.capacity = true)
    (hroom : ∀ b ∈ p.idle, ∀ limit, d₀.limit = some limit → size * b.memoryUsage ≤ limit)
    (events : List Event) :
    let u := (start p d).run files config events
    u.session.pool.live = size ∧ u.session.pool.size = size ∧
    (∀ e, u.session.acquire.1 ≠ .error e) ∧
    .answered none ∉ u.stages ∧
    (∀ place s, u.stages[place]? = some s → ∃ count fresh,
      (u.run files config (List.replicate count (.proceed place))).stages[place]? =
        some (.answered (some fresh)) ∧ fresh.isUsable = true) ∧
    ∀ b ∈ p.idle, u.session.device.inUse ≤ size * b.memoryUsage := by
  intro u
  obtain ⟨plan, hstart, hsize⟩ := exists_kept_start hkind hd hempty hbuilt hbacked
  -- all instances are idle at first, so that there is one to tell what one needs
  have hneed : ∀ bytes, d₀.limit = some bytes → size * plan.need ≤ bytes := by
    intro bytes hbytes
    have hidle : (start p d).session.pool.idle.length = size := by
      rw [← hstart.length_eq]
      simp [holders, start]
    obtain ⟨b, hb⟩ := List.exists_mem_of_length_pos (hidle ▸ Nat.pos_of_ne_zero hsize)
    rw [← hstart.memoryUsage_eq hb]
    exact hroom b hb bytes hbytes
  have hkept : u.Kept plan d₀.limit size := hstart.run hneed events
  refine ⟨hkept.live_eq, hkept.size_eq, hkept.acquire_ne_error hsize,
    hkept.answered_none_not_mem, ?_, ?_⟩
  · intro place s hplace
    exact hkept.exists_fresh hneed hplace
  · intro b hb
    rw [hstart.memoryUsage_eq hb]
    exact hkept.inUse_le

/-- Two clients meet armed faults, and both instances are replaced at the same time: the first is
already being made again while the second is still being closed. -/
def overlapping : List Event :=
  [.acquire, .acquire,
    .interfere .armLaunchFault, .infer 0 [[1, 2, 3, 4]] ⟨0⟩,
    .interfere .armLaunchFault, .infer 1 [[1, 2, 3, 4]] ⟨0⟩,
    .giveBack 0, .giveBack 1,
    .proceed 0, .proceed 1, .proceed 0, .proceed 0, .proceed 0, .proceed 0]

/-- A limit of 32 bytes is enough for two instances of 16 bytes, though half the memory belongs to
instances that are on their way out or in. -/
theorem never_shrinks_copy :
    ∃ p d, withFactory (Device.new .builtin (some 32) (.upTo 4096)) 2
        (sharedFactory Fleet.copyFiles Fleet.copyConfig) = (.ok p, d) ∧
      let u := (start p d).run Fleet.copyFiles Fleet.copyConfig overlapping
      u.stages.length = 2 ∧ u.session.device.inUse = 16 ∧
      ∀ later, let u' := u.run Fleet.copyFiles Fleet.copyConfig later
        u'.session.pool.live = 2 ∧ (∀ e, u'.session.acquire.1 ≠ .error e) ∧
          u'.session.device.inUse ≤ 32 := by
  let built := withFactory (Device.new .builtin (some 32) (.upTo 4096)) 2
    (sharedFactory Fleet.copyFiles Fleet.copyConfig)
  have hfacts : (built.1.map fun p =>
      let u := (start p built.2).run Fleet.copyFiles Fleet.copyConfig overlapping
      (p.idle.map Backend.memoryUsage, u.stages.length, u.session.device.inUse)) =
      .ok ([16, 16], 2, 16) := by decide +kernel
  rcases hbuilt : built with ⟨e | p, d⟩
  · rw [hbuilt] at hfacts
    cases hfacts
  · rw [hbuilt] at hfacts
    simp only [Except.map, Except.ok.injEq, Prod.mk.injEq] at hfacts
    obtain ⟨hneeds, hstages, hinUse⟩ := hfacts
    have hneed : ∀ b ∈ p.idle, b.memoryUsage = 16 := by
      intro b hb
      have hmem : b.memoryUsage ∈ p.idle.map Backend.memoryUsage := List.mem_map_of_mem hb
      rw [hneeds] at hmem
      simpa using hmem
    have hroom : ∀ b ∈ p.idle, ∀ limit,
        (Device.new .builtin (some 32) (.upTo 4096)).limit = some limit →
          2 * b.memoryUsage ≤ limit := by
      intro b hb limit hlimit
      cases hlimit
      exact Nat.mul_le_mul_left 2 (Nat.le_of_eq (hneed b hb))
    have hbacked : ∀ e, .shared e ∈ p.idle → ∀ u ∈ e.buffers, ∀ next,
        (Host.upTo 4096).backs next u.capacity = true := by
      intro e he u hu next
      -- no buffer is larger than the instance that holds it
      have hsmall : u.capacity ≤ 16 := by
        rw [← hneed _ he, Backend.memoryUsage, EngineBackend.memoryUsage,
          Buffer.totalCapacity_eq_sum]
        exact List.le_sum_of_mem (List.mem_map_of_mem hu)
      exact decide_eq_true (by omega)
    refine ⟨p, d, hbuilt, hstages, hinUse, ?_⟩
    intro later
    have hall := never_shrinks rfl (Device.orderly_new .builtin (some 32) (.upTo 4096)) rfl hbuilt
      hbacked hroom (overlapping ++ later)
    rw [run_append] at hall
    obtain ⟨hlive, -, hacquire, -, -, hbound⟩ := hall
    obtain ⟨b, hb⟩ : ∃ b, b ∈ p.idle := by
      refine List.exists_mem_of_length_pos ?_
      have hlength := congrArg List.length hneeds
      rw [List.length_map] at hlength
      rw [hlength]
      decide
    have hinUse' := hbound b hb
    rw [hneed b hb] at hinUse'
    exact ⟨hlive, hacquire, hinUse'⟩

end Upkeep

end GraphServe.Pool
