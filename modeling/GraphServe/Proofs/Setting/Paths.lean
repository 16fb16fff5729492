import GraphServe.Setting.KeyPath

/-!
# Paths of names

Paths as the steps they take, and how a path lies to a row of names: it goes by just these names, in
any case of their letters (`KeyPath.LeadsTo`), it goes below the first of them (`KeyPath.Below`), or
it turns to another name somewhere (`KeyPath.Apart`).
-/

namespace GraphServe.KeyPath

variable {names : List String}

/-- The steps of a path in a row. -/
def walk (p : KeyPath) : List KeyStep := p.first :: p.rest

/-- The path that goes by the given names. -/
def ofNames : List String → KeyPath
  | [] => ⟨.entry "", []⟩
  | name :: names => ⟨.entry name, names.map .entry⟩

/-- The path goes by names only, which are the given ones in any case. -/
def LeadsTo (p : KeyPath) (names : List String) : Prop :=
  ∃ written : List String, p.walk = written.map .entry ∧ names = written.map Text.lower

theorem leadsTo_ofNames (hne : names ≠ []) (hlower : ∀ name ∈ names, Text.lower name = name) :
    (ofNames names).LeadsTo names := by
  refine ⟨names, ?_, (List.map_congr_left hlower).trans (List.map_id _) |>.symm⟩
  cases names with
  | nil => exact absurd rfl hne
  | cons name names => rfl

/-- The path goes by the given name, in any case, to an entry below it. -/
def Below (name : String) (p : KeyPath) : Prop :=
  ∃ written entry rest, p = ⟨.entry written, .entry entry :: rest⟩ ∧ Text.lower written = name

/-- The steps leave the way that the names go: somewhere they turn to another name. -/
def Apart : List String → List KeyStep → Prop
  | name :: names, .entry other :: steps => Text.lower other ≠ name ∨ Apart names steps
  | _, _ => False

instance decidableApart : ∀ (names : List String) (steps : List KeyStep),
    Decidable (Apart names steps)
  | name :: names, .entry other :: steps =>
    have := decidableApart names steps
    inferInstanceAs (Decidable (Text.lower other ≠ name ∨ Apart names steps))
  | [], _ => inferInstanceAs (Decidable False)
  | _ :: _, [] => inferInstanceAs (Decidable False)
  | _ :: _, .item _ :: _ => inferInstanceAs (Decidable False)

/-- What goes apart from a longer row of names goes apart from the first name already, or below it.
-/
theorem apart_or_below {p : KeyPath} {name other : String}
    (h : Apart (name :: other :: names) p.walk) : Apart [name] p.walk ∨ p.Below name := by
  obtain ⟨first, rest⟩ := p
  cases first with
  | item index => cases h
  | entry written =>
    by_cases hname : Text.lower written = name
    · have hdown : Apart (other :: names) rest := h.resolve_left (not_not_intro hname)
      cases rest with
      | nil => cases hdown
      | cons next rest =>
        cases next with
        | item index => cases hdown
        | entry entry => exact Or.inr ⟨written, entry, rest, rfl, hname⟩
    · exact Or.inl (Or.inl hname)

end GraphServe.KeyPath
