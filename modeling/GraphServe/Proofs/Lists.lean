import Mathlib.Data.List.Nodup
import Mathlib.Data.List.Perm.Basic
import Mathlib.Data.List.ReduceOption

/-!
# Lists of slots and rows in pairs

A list of slots holds the elements of the slots that are filled (`List.reduceOption`). Emptying a
slot takes one element away (`perm_reduceOption_set`), and elements that differ from each other are
each in one slot only (`slot_unique`). Two rows are paired item by item: every member of a row has a
partner in one that is as long (`exists_mem_zip`).
-/

namespace GraphServe

variable {α β : Type}

/-! ## Slots -/

/-- A filled slot holds one of the elements, and the others are those of the list without it. -/
theorem perm_reduceOption_set {slots : List (Option α)} {i : Nat} {a : α}
    (h : slots[i]? = some (some a)) :
    slots.reduceOption.Perm (a :: (slots.set i none).reduceOption) := by
  induction slots generalizing i with
  | nil => simp at h
  | cons first rest ih =>
    cases i with
    | zero =>
      simp only [List.getElem?_cons_zero, Option.some.injEq] at h
      subst h
      simp
    | succ i =>
      have hrest := ih (i := i) (by simpa using h)
      cases first with
      | none => simpa using hrest
      | some b =>
        simp only [List.set_cons_succ, List.reduceOption_cons_of_some]
        exact (hrest.cons b).trans (List.Perm.swap a b _)

theorem mem_reduceOption_of_getElem? {slots : List (Option α)} {i : Nat} {a : α}
    (h : slots[i]? = some (some a)) : a ∈ slots.reduceOption :=
  List.reduceOption_mem_iff.2 (List.mem_of_getElem? h)

/-- If no element is in two slots, then an element is in no other slot than the one it is in. -/
theorem slot_unique {slots : List (Option α)} (hnodup : slots.reduceOption.Nodup)
    {i j : Nat} {a : α} (hi : slots[i]? = some (some a)) (hj : slots[j]? = some (some a)) :
    i = j := by
  by_contra hne
  have hothers := (perm_reduceOption_set hi).nodup_iff.1 hnodup
  refine (List.nodup_cons.1 hothers).1 (mem_reduceOption_of_getElem? (i := j) ?_)
  rw [List.getElem?_set_ne hne]
  exact hj

theorem reduceOption_append_some (slots : List (Option α)) (a : α) :
    (slots ++ [some a]).reduceOption = slots.reduceOption ++ [a] := by
  simp [List.reduceOption_append]

/-- Emptying a slot leaves one element fewer. -/
theorem length_reduceOption_set {slots : List (Option α)} {i : Nat} {a : α}
    (h : slots[i]? = some (some a)) :
    slots.reduceOption.length = (slots.set i none).reduceOption.length + 1 :=
  (perm_reduceOption_set h).length_eq

/-- Changing the content of a filled slot leaves as many elements. -/
theorem length_reduceOption_set_some {slots : List (Option α)} {i : Nat} {a : α}
    (h : slots[i]? = some (some a)) (b : α) :
    (slots.set i (some b)).reduceOption.length = slots.reduceOption.length := by
  obtain ⟨hi, -⟩ := List.getElem?_eq_some_iff.1 h
  have hnew : (slots.set i (some b))[i]? = some (some b) := by simp [hi]
  rw [length_reduceOption_set hnew, length_reduceOption_set h, List.set_set]

/-! ## Rows in pairs -/

/-- A member of a row is paired with a member of one that is as long. -/
theorem exists_mem_zip {a : α} {row : List α} {other : List β} (ha : a ∈ row)
    (hlength : row.length ≤ other.length) : ∃ b, (a, b) ∈ row.zip other := by
  rw [← List.map_fst_zip hlength] at ha
  obtain ⟨⟨a', b⟩, hmem, rfl⟩ := List.mem_map.1 ha
  exact ⟨b, hmem⟩

/-- Rows that agree item by item agree on every pair. -/
theorem eq_of_mem_zip {f g : α → β} {items items' : List α}
    (h : items.map f = items'.map g) {q : α × α} (hq : q ∈ items.zip items') : f q.1 = g q.2 := by
  induction items generalizing items' with
  | nil => simp at hq
  | cons a rest ih =>
    cases items' with
    | nil => simp at hq
    | cons a' rest' =>
      rw [List.map_cons, List.map_cons, List.cons.injEq] at h
      rw [List.zip_cons_cons, List.mem_cons] at hq
      rcases hq with rfl | hq
      · exact h.1
      · exact ih h.2 hq

end GraphServe
