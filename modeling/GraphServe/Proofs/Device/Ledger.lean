import GraphServe.Proofs.Buffer
import Mathlib.Data.List.Count

/-!
# The ledger of a device

What a device recorded between two moments, set against its regions: every request to take a region
back was granted, and what is live and what was taken back is together what was live before and what
was given out since (`Ledger`). So no address is live and taken back, or taken back twice
(`Ledger.nodup`), and a region that is not live any more was taken back exactly once
(`Ledger.count_eq`).
-/

namespace GraphServe

/-- The record of a request that was granted. -/
def FreeRecord.grant (a : Address) : FreeRecord := ⟨a, true⟩

theorem FreeRecord.grant_injective : Function.Injective grant := by
  intro a b h
  exact congrArg FreeRecord.address h

namespace Device

/-- The addresses of the live regions. -/
abbrev addresses (d : Device) : List Address := d.extents.map Prod.fst

/-- Between two moments the device recorded that it took the given addresses back, and nothing else.
What is live and what was taken back is together what was live before and what was given out, at
addresses that were never issued before. -/
structure Ledger (d : Device) (freed : List Address) (d' : Device) : Prop where
  frees_eq : d'.frees = d.frees ++ freed.map .grant
  balance : ∃ fresh : List Address, (d'.addresses ++ freed).Perm (d.addresses ++ fresh) ∧
    fresh.Nodup ∧ ∀ a ∈ fresh, d.nextAddress ≤ a.value ∧ a.value < d'.nextAddress
  nextAddress_le : d.nextAddress ≤ d'.nextAddress

namespace Ledger

variable {d d' d'' : Device} {freed freed' : List Address}

/-- Nothing is given out and nothing taken back. -/
theorem idle (hfrees : d'.frees = d.frees) (hextents : d'.extents = d.extents)
    (hnext : d.nextAddress ≤ d'.nextAddress) : Ledger d [] d' where
  frees_eq := by rw [hfrees, List.map_nil, List.append_nil]
  balance := ⟨[], by rw [addresses, hextents], .nil, by simp⟩
  nextAddress_le := hnext

theorem refl (d : Device) : Ledger d [] d := idle rfl rfl (Nat.le_refl _)

theorem trans (h : Ledger d freed d') (h' : Ledger d' freed' d'') :
    Ledger d (freed ++ freed') d'' := by
  obtain ⟨fresh, hbalance, hnodup, hissued⟩ := h.balance
  obtain ⟨fresh', hbalance', hnodup', hissued'⟩ := h'.balance
  have hle := h.nextAddress_le
  have hle' := h'.nextAddress_le
  refine ⟨?_, ⟨fresh ++ fresh', ?_, ?_, ?_⟩, Nat.le_trans hle hle'⟩
  · rw [h'.frees_eq, h.frees_eq, List.map_append, List.append_assoc]
  -- what was given back first stays given back while the second step is entered
  · calc (d''.addresses ++ (freed ++ freed')).Perm ((d''.addresses ++ freed') ++ freed) := by
          rw [List.append_assoc]
          exact List.perm_append_comm.append_left _
      List.Perm _ ((d'.addresses ++ fresh') ++ freed) := hbalance'.append_right _
      List.Perm _ ((d'.addresses ++ freed) ++ fresh') := by
          rw [List.append_assoc, List.append_assoc]
          exact List.perm_append_comm.append_left _
      List.Perm _ ((d.addresses ++ fresh) ++ fresh') := hbalance.append_right _
      _ = d.addresses ++ (fresh ++ fresh') := List.append_assoc _ _ _
  · rw [List.nodup_append]
    refine ⟨hnodup, hnodup', ?_⟩
    rintro a ha b hb rfl
    have hearly := (hissued a ha).2
    have hlate := (hissued' a hb).1
    omega
  · intro a ha
    rcases List.mem_append.1 ha with ha | ha
    · have hbounds := hissued a ha
      omega
    · have hbounds := hissued' a ha
      omega

/-- A device that grew by fresh buffers and took some of its buffers back. -/
theorem of_growth {fresh old : List Buffer} {others : List (Address × Nat)}
    (hd : d.Orderly) (growth : Buffer.Growth d fresh d')
    (hreturned : Buffer.Returned d' old others d'')
    (hperm : (d.extents ++ fresh.map Buffer.extent).Perm (old.map Buffer.extent ++ others)) :
    Ledger d (old.map Buffer.address) d'' := by
  have hnext : d''.nextAddress = d'.nextAddress := hreturned.nextAddress_eq
  have hdistinct := (growth.orderly hd).distinct
  rw [growth.extents_eq, List.map_append, Buffer.map_fst_map_extent] at hdistinct
  refine ⟨?_, ⟨fresh.map Buffer.address, ?_, (List.nodup_append.1 hdistinct).2.1, ?_⟩,
    hnext ▸ growth.nextAddress_le⟩
  · rw [hreturned.frees_eq, growth.frees_eq, Buffer.grants, List.map_map]
    rfl
  · have hleft : d''.addresses.Perm (others.map Prod.fst) := hreturned.extents_perm.map Prod.fst
    have hall := hperm.map Prod.fst
    rw [List.map_append, List.map_append, Buffer.map_fst_map_extent, Buffer.map_fst_map_extent]
      at hall
    exact ((hleft.append_right _).trans List.perm_append_comm).trans hall.symm
  · intro a ha
    obtain ⟨u, hu, rfl⟩ := List.mem_map.1 ha
    have hmem : u.extent ∈ d'.extents := by
      rw [growth.extents_eq]
      exact List.mem_append_right _ (List.mem_map_of_mem hu)
    exact ⟨growth.unissued u hu, hnext ▸ (growth.orderly hd).issued _ hmem⟩

/-- No address is live and taken back, or taken back twice. -/
theorem nodup (h : Ledger d freed d') (hd : d.Orderly) : (d'.addresses ++ freed).Nodup := by
  obtain ⟨fresh, hbalance, hnodup, hissued⟩ := h.balance
  rw [hbalance.nodup_iff, List.nodup_append]
  refine ⟨hd.distinct, hnodup, ?_⟩
  rintro a ha b hb rfl
  obtain ⟨extent, hextent, rfl⟩ := List.mem_map.1 ha
  have hearly := hd.issued extent hextent
  have hlate := (hissued _ hb).1
  omega

/-- A region that was live and is not any more was taken back exactly once. -/
theorem count_eq (h : Ledger d freed d') (hd : d.Orderly) {a : Address} (ha : a ∈ d.addresses) :
    (freed.map FreeRecord.grant).count (.grant a) = if a ∈ d'.addresses then 0 else 1 := by
  have hnodup := h.nodup hd
  obtain ⟨fresh, hbalance, -, -⟩ := h.balance
  -- the address is on the left of the balance, and there only once
  have hmem : a ∈ d'.addresses ++ freed := hbalance.mem_iff.2 (List.mem_append_left _ ha)
  have hcount := List.count_eq_one_of_mem hnodup hmem
  rw [List.count_append] at hcount
  rw [List.count_map_of_injective _ _ FreeRecord.grant_injective]
  split
  · rename_i hlive
    have honce := List.count_pos_iff.2 hlive
    omega
  · rename_i hgone
    rw [List.count_eq_zero_of_not_mem hgone] at hcount
    omega

end Ledger

end Device

/-- A device that grew can take back what it can do without, and enters it into its ledger. -/
theorem Buffer.Growth.returned {d d' : Device} {fresh old : List Buffer}
    {others : List (Address × Nat)} (h : Buffer.Growth d fresh d') (hd : d.Orderly)
    (hperm : (d.extents ++ fresh.map Buffer.extent).Perm (old.map Buffer.extent ++ others)) :
    Buffer.Returned d' old others (Buffer.discardAll d' old) ∧
      d.Ledger (old.map Buffer.address) (Buffer.discardAll d' old) := by
  have hgrown := hperm
  rw [← h.extents_eq] at hgrown
  have hreturned := Buffer.discardAll_spec (h.orderly hd) hgrown
  exact ⟨hreturned, .of_growth hd h hreturned hperm⟩

end GraphServe
