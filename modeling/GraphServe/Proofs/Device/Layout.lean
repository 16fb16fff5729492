import GraphServe.Proofs.Device.Quiet
import Mathlib.Order.CompletePartialOrder
import Mathlib.Order.Interval.Set.Disjoint

/-!
# The layout of device memory

A device is driven by its operations, in any order and with any arguments (`Operation`, `run`). As
far as the regions go an operation adds one region at the next address, gives one live region back,
or is steady: it keeps every extent and every counter (`perform_cases`). So the regions lie one
after the other on the boundary (`LaidOut.run`), an address that was given back is never live again
(`Retired.run`), and all of this holds of every device whatever was done with it
(`arena_in_order`).
-/

namespace GraphServe

/-- The byte addresses of a region. -/
def Region.places (r : Region) : Set Nat :=
  Set.Ico r.address.value (r.address.value + r.data.length)

namespace Device

variable {d d' : Device} {a : Address} {n bytes : Nat}

/-! ## Operations -/

/-- An operation of a device with its arguments. -/
inductive Operation
  | malloc (bytes : Nat)
  | free (a : Address)
  | copyIn (a : Address) (bytes : Bytes)
  | copyOut (a : Address) (count : Nat)
  | fill (a : Address) (value : UInt8) (count : Nat)
  | createStream
  | destroyStream (s : Stream)
  | launch (s : Stream) (kernel : String) (payload : Bytes) (bindings : List Binding)
  | synchronize (s : Stream)
  | armLaunchFault
  | armTransferFault
  | registerKernel (name : String) (body : Kernel)
  /-- The host comes to back other requests. -/
  | rehost (host : Host)

/-- An outcome of which only success or failure counts. -/
def verdict {Result : Type} (outcome : Outcome Device Result) : Outcome Device Unit :=
  (outcome.1.map fun _ => (), outcome.2)

/-- Makes an operation. -/
def perform (d : Device) : Operation → Outcome Device Unit
  | .malloc bytes => verdict (d.malloc bytes)
  | .free a => d.free a
  | .copyIn a bytes => d.copyIn a bytes
  | .copyOut a count => verdict (d.copyOut a count)
  | .fill a value count => d.fill a value count
  | .createStream => (.ok (), d.createStream.2)
  | .destroyStream s => d.destroyStream s
  | .launch s kernel payload bindings => d.launch s kernel payload bindings
  | .synchronize s => (d.synchronize s, d)
  | .armLaunchFault => (.ok (), d.armLaunchFault)
  | .armTransferFault => (.ok (), d.armTransferFault)
  | .registerKernel name body => (.ok (), d.registerKernel name body)
  | .rehost host => (.ok (), d.rehost host)

/-- Makes operations one after the other, whatever each ends in. -/
def run (d : Device) (operations : List Operation) : Device :=
  operations.foldl (fun d operation => (d.perform operation).2) d

theorem Reached.perform (h : d.Reached) (operation : Operation) :
    (d.perform operation).2.Reached := by
  cases operation with
  | malloc bytes => exact h.malloc bytes
  | free a => exact h.free a
  | copyIn a bytes => exact h.copyIn a bytes
  | copyOut a count => exact h.copyOut a count
  | fill a value count => exact h.fill a value count
  | createStream => exact h.createStream
  | destroyStream s => exact h.destroyStream s
  | launch s kernel payload bindings => exact h.launch s kernel payload bindings
  | synchronize s => exact h
  | armLaunchFault => exact h.armLaunchFault
  | armTransferFault => exact h.armTransferFault
  | registerKernel name body => exact h.registerKernel name body
  | rehost host => exact h.rehost host

theorem Reached.run (h : d.Reached) (operations : List Operation) : (d.run operations).Reached := by
  induction operations generalizing d with
  | nil => exact h
  | cons operation rest ih => exact ih (h.perform operation)

/-! ## What an operation does to the regions -/

/-- A step that keeps every extent, the counters of regions and the limit. -/
structure Steady (d d' : Device) : Prop where
  extents_eq : d'.extents = d.extents
  inUse_eq : d'.inUse = d.inUse
  nextAddress_eq : d'.nextAddress = d.nextAddress
  limit_eq : d'.limit = d.limit

theorem Steady.refl (d : Device) : Steady d d := ⟨rfl, rfl, rfl, rfl⟩

theorem Keeps.steady {own : List Address} (h : Keeps own d d') : Steady d d' :=
  ⟨h.extents_eq, h.inUse_eq, h.nextAddress_eq, h.limit_eq⟩

/-- What is granted fits into what the limit leaves. -/
theorem bytes_le_of_malloc {limit : Nat} (hlimit : d.limit = some limit)
    (h : d.malloc bytes = (.ok a, d')) : bytes ≤ limit - d.inUse := by
  by_contra hroom
  have hunmet : limit - d.inUse < bytes ∨ d.backs bytes = false := Or.inl (Nat.lt_of_not_le hroom)
  simp only [malloc, refusal?, available?, hlimit, Option.map_some, if_pos hunmet] at h
  cases h

/-- An operation adds one region that the limit has room for, gives a live region back, or is
steady. -/
theorem perform_cases (hd : d.Orderly) (operation : Operation) :
    (∃ bytes, operation = .malloc bytes ∧ (∀ limit, d.limit = some limit →
        bytes ≤ limit - d.inUse) ∧ (d.perform operation).2 = d.withRegion bytes) ∨
      (∃ a n, operation = .free a ∧ (a, n) ∈ d.extents ∧
        (d.perform operation).2 = d.withoutRegion a n) ∨
      Steady d (d.perform operation).2 := by
  cases operation with
  | malloc bytes =>
    rcases d.malloc_cases bytes with ⟨available, hrefused⟩ | hmade
    · right; right
      rw [perform, hrefused]
      exact .refl d
    · left
      refine ⟨bytes, rfl, ?_, by rw [perform, hmade]; rfl⟩
      intro limit hlimit
      exact bytes_le_of_malloc hlimit hmade
  | free a =>
    right
    cases hr : d.region? a with
    | none =>
      right
      rw [perform, free, hr]
      exact ⟨rfl, rfl, rfl, rfl⟩
    | some r =>
      left
      have hmem := mem_extents_of_region? hr
      exact ⟨a, _, rfl, hmem, by rw [perform, free_of_mem hd hmem]⟩
  | copyIn a bytes => exact Or.inr (Or.inr (keeps_copyIn d a bytes).steady)
  | copyOut a count => exact Or.inr (Or.inr (keeps_copyOut [] d a count).steady)
  | fill a value count => exact Or.inr (Or.inr (keeps_fill d a value count).steady)
  | createStream => exact Or.inr (Or.inr ⟨rfl, rfl, rfl, rfl⟩)
  | destroyStream s =>
    right; right
    rw [perform, destroyStream]
    split
    · exact ⟨rfl, rfl, rfl, rfl⟩
    · exact .refl d
  | launch s kernel payload bindings =>
    exact Or.inr (Or.inr (keeps_launch d s kernel payload bindings).steady)
  | synchronize s => exact Or.inr (Or.inr (.refl d))
  | armLaunchFault => exact Or.inr (Or.inr ⟨rfl, rfl, rfl, rfl⟩)
  | armTransferFault => exact Or.inr (Or.inr ⟨rfl, rfl, rfl, rfl⟩)
  | registerKernel name body => exact Or.inr (Or.inr ⟨rfl, rfl, rfl, rfl⟩)
  | rehost host => exact Or.inr (Or.inr ⟨rfl, rfl, rfl, rfl⟩)

/-! ## What a refused operation leaves -/

/-- What an operation that was refused leaves: the device as it was, or without the transfer fault
that it used up, or with one more request in the record. -/
inductive Spared (d : Device) : Operation → Device → Prop
  | untouched (operation : Operation) : Spared d operation d
  | disarmed (operation : Operation) (armed : d.transferFault = true) :
    Spared d operation d.disarmTransfer
  | recorded (a : Address) (dead : d.region? a = none) : Spared d (.free a) (d.recordFree a false)

/-- A copy uses up an armed fault and fails; if none is armed it does as it would. -/
theorem spared_of_guarded {Result : Type} {guarded outcome : Outcome Device Result}
    {fault e : EngineError} {operation : Operation}
    (hguarded : guarded = if d.transferFault then (.error fault, d.disarmTransfer) else outcome)
    (h : guarded.1 = .error e) (hunarmed : outcome.1 = .error e → outcome.2 = d) :
    Spared d operation guarded.2 := by
  by_cases hfault : d.transferFault = true
  · rw [hguarded, if_pos hfault]
    exact .disarmed operation hfault
  · rw [if_neg hfault] at hguarded
    rw [hguarded] at h ⊢
    rw [hunarmed h]
    exact .untouched operation

theorem error_of_verdict {Result : Type} {outcome : Outcome Device Result} {e : EngineError}
    (h : (verdict outcome).1 = .error e) : outcome.1 = .error e := by
  obtain ⟨result, after⟩ := outcome
  cases result with
  | ok r => cases h
  | error e' =>
    cases h
    rfl

/-- An operation other than a launch that is refused spares the device. -/
theorem perform_refused {operation : Operation} {e : EngineError}
    (hother : ∀ s kernel payload bindings, operation ≠ .launch s kernel payload bindings)
    (h : (d.perform operation).1 = .error e) : Spared d operation (d.perform operation).2 := by
  cases operation with
  | malloc bytes =>
    rcases d.malloc_cases bytes with ⟨available, hrefused⟩ | hmade
    · rw [perform, hrefused]
      exact .untouched _
    · rw [perform, hmade] at h
      cases h
  | free a =>
    cases hr : d.region? a with
    | none =>
      rw [perform, free, hr]
      exact .recorded a hr
    | some r =>
      rw [perform, free, hr] at h
      cases h
  | copyIn a bytes =>
    apply spared_of_guarded rfl h
    cases d.region? a with
    | none => exact fun _ => rfl
    | some r =>
      intro hrefused
      dsimp only at hrefused ⊢
      split_ifs at hrefused ⊢
      rfl
  | copyOut a count =>
    apply spared_of_guarded rfl (error_of_verdict h)
    cases d.region? a with
    | none => exact fun _ => rfl
    | some r =>
      intro hrefused
      dsimp only at hrefused ⊢
      split_ifs at hrefused ⊢
      rfl
  | fill a value count =>
    apply spared_of_guarded rfl h
    cases d.region? a with
    | none => exact fun _ => rfl
    | some r =>
      intro hrefused
      cases hrefused
  | destroyStream s =>
    rw [perform, destroyStream] at h ⊢
    split_ifs at h ⊢
    exact .untouched _
  | launch s kernel payload bindings => exact absurd rfl (hother s kernel payload bindings)
  | synchronize s => exact .untouched _
  | createStream => cases h
  | armLaunchFault => cases h
  | armTransferFault => cases h
  | registerKernel name body => cases h
  | rehost host => cases h

/-! ## Regions one after the other -/

theorem alignment_dvd_span (bytes : Nat) : alignment ∣ span bytes := Nat.dvd_mul_left _ _

/-- A region takes up room for all of its bytes. -/
theorem le_span (bytes : Nat) : bytes ≤ span bytes := by
  have hbytes : bytes ≤ max bytes 1 := Nat.le_max_left ..
  simp only [span, alignment]
  omega

/-- The regions lie one after the other, each on the boundary, from the base address on and before
the next address; the bytes in use keep to the limit and to the room below the next address. -/
structure LaidOut (limit : Option Nat) (d : Device) : Prop where
  limit_eq : d.limit = limit
  aligned : ∀ e ∈ d.extents, alignment ∣ e.1.value
  above : ∀ e ∈ d.extents, baseAddress ≤ e.1.value
  below : ∀ e ∈ d.extents, e.1.value + span e.2 ≤ d.nextAddress
  apart : d.extents.Pairwise fun e f => e.1.value + span e.2 ≤ f.1.value
  next_aligned : alignment ∣ d.nextAddress
  within : ∀ bound, limit = some bound → d.inUse ≤ bound
  counted : baseAddress + d.inUse ≤ d.nextAddress

namespace LaidOut

variable {limit : Option Nat}

theorem new (kernels : KernelTable) (limit : Option Nat) (host : Host) :
    (Device.new kernels limit host).LaidOut limit where
  limit_eq := rfl
  aligned e he := by cases he
  above e he := by cases he
  below e he := by cases he
  apart := List.Pairwise.nil
  next_aligned := by
    show alignment ∣ baseAddress
    decide
  within _ _ := Nat.zero_le _
  counted := Nat.le_refl _

theorem withRegion (h : d.LaidOut limit)
    (hroom : ∀ bound, d.limit = some bound → bytes ≤ bound - d.inUse) :
    (d.withRegion bytes).LaidOut limit := by
  have hnext : (d.withRegion bytes).nextAddress = d.nextAddress + span bytes := rfl
  have hinUse : (d.withRegion bytes).inUse = d.inUse + bytes := rfl
  have hbytes := le_span bytes
  have hcounted := h.counted
  constructor
  case limit_eq => exact h.limit_eq
  case aligned =>
    intro e he
    rw [extents_withRegion, List.mem_append, List.mem_singleton] at he
    rcases he with he | rfl
    · exact h.aligned e he
    · exact h.next_aligned
  case above =>
    intro e he
    rw [extents_withRegion, List.mem_append, List.mem_singleton] at he
    rcases he with he | rfl
    · exact h.above e he
    · show baseAddress ≤ d.nextAddress
      omega
  case below =>
    intro e he
    rw [extents_withRegion, List.mem_append, List.mem_singleton] at he
    rw [hnext]
    rcases he with he | rfl
    · exact Nat.le_trans (h.below e he) (Nat.le_add_right _ _)
    · exact Nat.le_refl _
  case apart =>
    rw [extents_withRegion, List.pairwise_append]
    refine ⟨h.apart, List.pairwise_singleton _ _, ?_⟩
    -- every region ends before the next address, which is where the new one begins
    intro e he f hf
    rw [List.mem_singleton] at hf
    rw [hf]
    exact h.below e he
  case next_aligned =>
    rw [hnext]
    exact Nat.dvd_add h.next_aligned (alignment_dvd_span bytes)
  case within =>
    intro bound hlimit
    have hbefore := h.within bound hlimit
    have hfits := hroom bound (h.limit_eq.trans hlimit)
    rw [hinUse]
    omega
  case counted =>
    rw [hnext, hinUse]
    omega

theorem withoutRegion (h : d.LaidOut limit) (a : Address) (n : Nat) :
    (d.withoutRegion a n).LaidOut limit := by
  have hsublist : (d.withoutRegion a n).extents.Sublist d.extents := by
    rw [extents_withoutRegion]
    exact List.eraseP_sublist
  have hinUse : (d.withoutRegion a n).inUse ≤ d.inUse := Nat.sub_le _ _
  constructor
  case limit_eq => exact h.limit_eq
  case aligned => exact fun e he => h.aligned e (hsublist.subset he)
  case above => exact fun e he => h.above e (hsublist.subset he)
  case below => exact fun e he => h.below e (hsublist.subset he)
  case apart => exact h.apart.sublist hsublist
  case next_aligned => exact h.next_aligned
  case within => exact fun bound hlimit => Nat.le_trans hinUse (h.within bound hlimit)
  case counted => exact Nat.le_trans (Nat.add_le_add_left hinUse _) h.counted

theorem steady (h : d.LaidOut limit) (hsteady : Steady d d') : d'.LaidOut limit := by
  constructor
  case limit_eq => exact hsteady.limit_eq.trans h.limit_eq
  case aligned => exact hsteady.extents_eq ▸ h.aligned
  case above => exact hsteady.extents_eq ▸ h.above
  case below => rw [hsteady.extents_eq, hsteady.nextAddress_eq]; exact h.below
  case apart => exact hsteady.extents_eq ▸ h.apart
  case next_aligned => exact hsteady.nextAddress_eq ▸ h.next_aligned
  case within => exact hsteady.inUse_eq ▸ h.within
  case counted => rw [hsteady.inUse_eq, hsteady.nextAddress_eq]; exact h.counted

/-- Every operation keeps the layout. -/
theorem perform (h : d.LaidOut limit) (hd : d.Orderly) (operation : Operation) :
    (d.perform operation).2.LaidOut limit := by
  rcases perform_cases hd operation with ⟨bytes, -, hroom, hafter⟩ | ⟨a, n, -, -, hafter⟩ | hsteady
  · rw [hafter]
    exact h.withRegion hroom
  · rw [hafter]
    exact h.withoutRegion a n
  · exact h.steady hsteady

/-- Operations in any order keep the layout. -/
theorem run (h : d.LaidOut limit) (hd : d.Reached) (operations : List Operation) :
    (d.run operations).LaidOut limit := by
  induction operations generalizing d with
  | nil => exact h
  | cons operation rest ih => exact ih (h.perform hd.orderly operation) (hd.perform operation)

end LaidOut

/-! ## Addresses that are given back -/

/-- Nothing is live at an address exactly if no extent has it. -/
theorem region?_eq_none_iff : d.region? a = none ↔ a ∉ d.extents.map Prod.fst := by
  rw [map_fst_extents, region?, List.find?_eq_none, List.mem_map, not_exists]
  simp only [beq_iff_eq, not_and]

/-- The address was issued before and nothing is live at it. -/
structure Retired (a : Address) (d : Device) : Prop where
  issued : a.value < d.nextAddress
  dead : d.region? a = none

/-- What is given back is retired. -/
theorem retired_of_free (hd : d.Orderly) (h : (d.free a).1 = .ok ()) : Retired a (d.free a).2 := by
  cases hr : d.region? a with
  | none =>
    rw [free, hr] at h
    cases h
  | some r =>
    have hmem := mem_extents_of_region? hr
    have hperm := (perm_extents_withoutRegion hd hmem).map Prod.fst
    -- the address was there once, so that it is not among the others
    have hothers := (List.nodup_cons.1 (hperm.nodup_iff.1 hd.distinct)).1
    rw [free_of_mem hd hmem]
    exact ⟨hd.issued _ hmem, region?_eq_none_iff.2 hothers⟩

namespace Retired

/-- No operation brings a retired address back. -/
theorem perform (h : Retired a d) (hd : d.Orderly) (operation : Operation) :
    Retired a (d.perform operation).2 := by
  rcases perform_cases hd operation with ⟨bytes, -, -, hafter⟩ | ⟨b, n, -, hb, hafter⟩ | hsteady
  · rw [hafter]
    refine ⟨Nat.lt_of_lt_of_le h.issued (Nat.le_add_right _ _), ?_⟩
    rw [region?_withRegion d bytes h.issued]
    exact h.dead
  · have hne : a ≠ b := by
      rintro rfl
      exact region?_eq_none_iff.1 h.dead (List.mem_map_of_mem hb)
    rw [hafter]
    refine ⟨h.issued, ?_⟩
    rw [region?_withoutRegion d n hne]
    exact h.dead
  · refine ⟨hsteady.nextAddress_eq ▸ h.issued, ?_⟩
    rw [region?_eq_none_iff, hsteady.extents_eq]
    exact region?_eq_none_iff.1 h.dead

/-- No operations ever bring a retired address back. -/
theorem run (h : Retired a d) (hd : d.Reached) (operations : List Operation) :
    Retired a (d.run operations) := by
  induction operations generalizing d with
  | nil => exact h
  | cons operation rest ih => exact ih (h.perform hd.orderly operation) (hd.perform operation)

end Retired

/-! ## The arena -/

/-- A new region lies at an address where nothing was live, and all of its bytes are zero. -/
theorem region?_of_malloc (hd : d.Orderly) (h : (d.malloc bytes).1 = .ok a) :
    d.region? a = none ∧ (d.malloc bytes).2.region? a = some ⟨a, List.replicate bytes 0⟩ := by
  rcases d.malloc_cases bytes with ⟨available, hrefused⟩ | hmade
  · rw [hrefused] at h
    cases h
  · rw [hmade] at h ⊢
    cases h
    have hnone : d.region? ⟨d.nextAddress⟩ = none := by
      rw [region?_eq_none_iff, List.mem_map]
      rintro ⟨e, he, hnext⟩
      have hissued := hd.issued e he
      rw [hnext] at hissued
      exact Nat.lt_irrefl _ hissued
    refine ⟨hnone, ?_⟩
    rw [region?] at hnone
    simp [withRegion, region?, List.find?_append, hnone]

/-- Whatever is done with a device, with whatever arguments, and whatever its host backs at any
time: the bytes in use are those of the live regions and keep to the limit; the regions lie on the
boundary, from the base address on, below the next address and apart from each other; an address
that is given back is never live again; a new region is clear; and an operation other than a launch
that is refused leaves all as it was, but for a transfer fault that it uses up, and the record of
the request if it was one to take a region back. The base address and the bytes in use together
never pass the next address, so that no counter wraps before that one does. -/
theorem arena_in_order (kernels : KernelTable) (limit : Option Nat) (host : Host)
    (operations : List Operation) :
    let d := (Device.new kernels limit host).run operations
    d.inUse = (d.regions.map fun r => r.data.length).sum ∧
      (∀ bound, limit = some bound → d.inUse ≤ bound) ∧
      baseAddress + d.inUse ≤ d.nextAddress ∧
      (∀ r ∈ d.regions, alignment ∣ r.address.value ∧ baseAddress ≤ r.address.value ∧
        r.address.value < d.nextAddress ∧ r.places ⊆ Set.Iio d.nextAddress) ∧
      (d.regions.Pairwise fun r s => r.address ≠ s.address ∧ Disjoint r.places s.places) ∧
      (∀ a, (d.free a).1 = .ok () → ∀ later, ((d.free a).2.run later).region? a = none) ∧
      (∀ bytes a, (d.malloc bytes).1 = .ok a → d.region? a = none ∧
        (d.malloc bytes).2.region? a = some ⟨a, List.replicate bytes 0⟩) ∧
      ∀ operation e,
        (∀ s kernel payload bindings, operation ≠ .launch s kernel payload bindings) →
        (d.perform operation).1 = .error e →
        Spared d operation (d.perform operation).2 := by
  intro d
  have hnew : (Device.new kernels limit host).Reached := .new kernels limit host
  have hreached : d.Reached := hnew.run operations
  have hlaid : d.LaidOut limit := (LaidOut.new kernels limit host).run hnew operations
  have horderly := hreached.orderly
  refine ⟨?_, hlaid.within, hlaid.counted, ?_, ?_, ?_, ?_, ?_⟩
  · have hsum := horderly.inUse_eq
    rwa [extents, List.map_map] at hsum
  · intro r hr
    have hextent : (r.address, r.data.length) ∈ d.extents := List.mem_map_of_mem hr
    have hbelow := hlaid.below _ hextent
    refine ⟨hlaid.aligned _ hextent, hlaid.above _ hextent, horderly.issued _ hextent, ?_⟩
    rintro place ⟨-, hplace⟩
    exact Nat.lt_of_lt_of_le hplace
      (Nat.le_trans (Nat.add_le_add_left (le_span _) _) hbelow)
  · have hapart := hlaid.apart
    rw [extents, List.pairwise_map] at hapart
    refine hapart.imp ?_
    intro r s hbefore
    -- the room that the first one takes up ends before the second one
    change r.address.value + span r.data.length ≤ s.address.value at hbefore
    have hspan := span_pos r.data.length
    have hends : r.address.value + r.data.length ≤ s.address.value :=
      Nat.le_trans (Nat.add_le_add_left (le_span _) _) hbefore
    constructor
    · intro hsame
      rw [hsame] at hbefore
      omega
    · apply Set.Ico_disjoint_Ico.2
      exact (min_le_left _ _).trans (hends.trans (le_max_right _ _))
  · intro a hfree later
    exact ((retired_of_free horderly hfree).run (hreached.free a) later).dead
  · intro bytes a hmade
    exact region?_of_malloc horderly hmade
  · intro operation e hother hrefused
    exact perform_refused hother hrefused

/-- The first of two regions is given back; the next one of its size lies elsewhere. A request that
the host does not back is refused in between and leaves the device as it was, although there is no
limit. -/
theorem arena_in_order_freed :
    let d := (Device.new .empty none (.upTo (2 ^ 46))).run [.malloc 3, .malloc 0, .malloc (2 ^ 46)]
    (d.free ⟨baseAddress⟩).1 = .ok () ∧
      ((d.free ⟨baseAddress⟩).2.run [.malloc 3]).region? ⟨baseAddress⟩ = none ∧
      (d.perform (.malloc (2 ^ 46))).1 = .error (.outOfMemory (2 ^ 46) 0) ∧
      Spared d (.malloc (2 ^ 46)) (d.perform (.malloc (2 ^ 46))).2 := by
  intro d
  have hfree : (d.free ⟨baseAddress⟩).1 = .ok () := by rfl
  have hrefused : (d.perform (.malloc (2 ^ 46))).1 = .error (.outOfMemory (2 ^ 46) 0) := by rfl
  have hinOrder := arena_in_order .empty none (.upTo (2 ^ 46))
    [.malloc 3, .malloc 0, .malloc (2 ^ 46)]
  obtain ⟨-, -, -, -, -, hretired, -, hspared⟩ := hinOrder
  exact ⟨hfree, hretired ⟨baseAddress⟩ hfree [.malloc 3], hrefused,
    hspared (.malloc (2 ^ 46)) _ (fun _ _ _ _ => Operation.noConfusion) hrefused⟩

end Device

end GraphServe
