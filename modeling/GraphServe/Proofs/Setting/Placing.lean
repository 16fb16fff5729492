import GraphServe.Proofs.Setting.Paths

/-!
# Placed values

What a setting holds under a path of names after values were placed in it. A value is found under
the names of its own path (`at?_placeAt_self`), and placing it changes nothing under names whose path
goes apart from its own (`at?_placeAt_of_apart`). So under a path that no other value of a source
crosses, the last value that the source has for it is found, and else what was there before
(`at?_overlay`).
-/

namespace GraphServe

open KeyPath (Apart)

namespace Setting

variable {α : Type} {s root value : Setting} {names : List String}

/-! ## Tables -/

theorem lookup_cons_entry (entry : String × α) (entries : List (String × α)) (key : String) :
    (entry :: entries).lookup key = if key = entry.1 then some entry.2 else entries.lookup key := by
  obtain ⟨name, old⟩ := entry
  rw [List.lookup_cons]
  by_cases h : key = name
  · rw [if_pos h, beq_iff_eq.2 h]
  · rw [if_neg h, beq_eq_false_iff_ne.2 h]

theorem lookup_upsert (entries : List (String × α)) (name key : String) (change : Option α → α) :
    (upsert entries name change).lookup key =
      if key = name then some (change (entries.lookup name)) else entries.lookup key := by
  induction entries with
  | nil => rw [upsert, lookup_cons_entry, List.lookup_nil, List.lookup_nil]
  | cons entry rest ih =>
    obtain ⟨n, old⟩ := entry
    by_cases hn : n = name
    · rw [upsert, if_pos hn, hn]
      simp only [lookup_cons_entry, if_true]
      split <;> rfl
    · have hname : ¬name = n := Ne.symm hn
      rw [upsert, if_neg hn]
      simp only [lookup_cons_entry, ih, if_neg hname]
      grind

/-! ## Values under names -/

/-- What a setting holds under a path of names. -/
def at? (s : Setting) : List String → Option Setting
  | [] => some s
  | name :: names => (s.entries.lookup name).bind fun inner => inner.at? names

theorem at?_cons (s : Setting) (name : String) (names : List String) :
    s.at? (name :: names) = (s.entries.lookup name).bind fun inner => inner.at? names := rfl

theorem at?_nothing_cons (name : String) (names : List String) :
    nothing.at? (name :: names) = none := rfl

theorem at?_single (root : Setting) (name : String) :
    root.at? [name] = root.entries.lookup name := by
  rw [at?_cons]
  cases root.entries.lookup name <;> rfl

/-- An entry is found in a table only. -/
theorem exists_table {s value : Setting} {name : String}
    (h : s.at? [name] = some value) : ∃ entries, s = .table entries := by
  cases s with
  | table entries => exact ⟨entries, rfl⟩
  | nothing => cases h
  | flag b => cases h
  | integer i => cases h
  | real bits => cases h
  | text t => cases h
  | list items => cases h

/-- What takes the place of an entry when a value is placed below it. -/
def filled (value : Setting) : List KeyStep → Option Setting → Setting
  | [], old => merge (old.getD (.table [])) value
  | next :: rest, old => placeAt value next rest (old.getD .nothing)

theorem lookup_placeAt (value s : Setting) (name key : String) (rest : List KeyStep) :
    (placeAt value (.entry name) rest s).entries.lookup key =
      if key = Text.lower name then some (filled value rest (s.entries.lookup (Text.lower name)))
      else s.entries.lookup key := by
  cases rest with
  | nil =>
    rw [placeAt, entries, upsertNamed, lookup_upsert]
    rfl
  | cons next rest =>
    rw [placeAt, entries, upsertNamed, lookup_upsert]
    rfl

/-- Placing a value changes nothing under names that its path goes apart from. -/
theorem at?_placeAt_of_apart {first : KeyStep} {rest : List KeyStep}
    (h : Apart names (first :: rest)) : (placeAt value first rest s).at? names = s.at? names := by
  induction names generalizing s first rest with
  | nil => cases h
  | cons name names ih =>
    cases first with
    | item index => cases h
    | entry other =>
      by_cases hname : name = Text.lower other
      · -- the paths go on together, so the names are told apart further down
        have hdown : Apart names rest := h.resolve_left (not_not_intro hname.symm)
        cases rest with
        | nil => cases names <;> cases hdown
        | cons next rest =>
          rw [at?_cons, lookup_placeAt, if_pos hname, at?_cons, hname]
          simp only [Option.bind_some, filled]
          rw [ih hdown]
          cases s.entries.lookup (Text.lower other) with
          | some old => rfl
          | none =>
            cases names with
            | nil => cases hdown
            | cons n names => exact at?_nothing_cons n names
      · rw [at?_cons, lookup_placeAt, if_neg hname, at?_cons]

/-- A value that replaces whatever it is merged into. -/
def Replaces (value : Setting) : Prop := ∀ target, merge target value = value

/-- A value is found under the names of the path at which it was placed. -/
theorem at?_placeAt_self (h : value.Replaces) (name : String) (written : List String) :
    (placeAt value (.entry name) (written.map .entry) s).at?
      ((name :: written).map Text.lower) = some value := by
  induction written generalizing s name with
  | nil =>
    rw [List.map_cons, at?_cons, List.map_nil, lookup_placeAt, if_pos rfl, List.map_nil]
    exact congrArg some (h _)
  | cons next written ih =>
    rw [List.map_cons, List.map_cons, at?_cons, lookup_placeAt, if_pos rfl]
    exact ih next

theorem at?_place_of_apart {p : KeyPath} (h : Apart names p.walk) :
    (root.place p value).at? names = root.at? names :=
  at?_placeAt_of_apart h

theorem at?_place_self {p : KeyPath} (hp : p.LeadsTo names) (h : value.Replaces) :
    (root.place p value).at? names = some value := by
  obtain ⟨written, hwalk, rfl⟩ := hp
  obtain ⟨first, rest⟩ := p
  cases written with
  | nil => cases hwalk
  | cons name written =>
    obtain ⟨rfl, rfl⟩ := List.cons.inj hwalk
    exact at?_placeAt_self h name written

theorem exists_table_placeAt (value s : Setting) (name : String) (rest : List KeyStep) :
    ∃ entries, placeAt value (.entry name) rest s = .table entries := by
  have hfound := lookup_placeAt value s name (Text.lower name) rest
  rw [if_pos rfl, ← at?_single] at hfound
  exact exists_table hfound

/-- A value below a name is placed in a table. -/
theorem exists_table_place_of_below {p : KeyPath} {name : String} (h : p.Below name)
    (root value : Setting) : ∃ entries, (root.place p value).at? [name] = some (.table entries) := by
  obtain ⟨written, entry, rest, rfl, rfl⟩ := h
  obtain ⟨entries, htable⟩ := exists_table_placeAt value
    ((root.entries.lookup (Text.lower written)).getD .nothing) entry rest
  refine ⟨entries, ?_⟩
  rw [at?_single, place, lookup_placeAt, if_pos rfl, filled, htable]

/-! ## Sources -/

theorem overlay_cons (root : Setting) (entry : KeyPath × Setting)
    (source : List (KeyPath × Setting)) :
    root.overlay (entry :: source) =
      (root.place entry.1 entry.2).overlay source := rfl

/-- A source with a value below a name leaves a table there, if its other paths go apart from the
name. -/
theorem exists_table_overlay {name : String} {source : List (KeyPath × Setting)}
    (hall : ∀ entry ∈ source, Apart [name] entry.1.walk ∨
      entry.1.Below name)
    (h : (∃ entries, root.at? [name] = some (.table entries)) ∨
      ∃ entry ∈ source, entry.1.Below name) :
    ∃ entries, (root.overlay source).at? [name] = some (.table entries) := by
  induction source generalizing root with
  | nil => exact h.resolve_right fun ⟨_, hmem, _⟩ => List.not_mem_nil hmem
  | cons entry source ih =>
    rw [overlay_cons]
    -- once there is a table it stays: the other values go apart from the name or below it
    apply ih fun other hother => hall other (List.mem_cons_of_mem _ hother)
    by_cases hbelow : entry.1.Below name
    · exact Or.inl (exists_table_place_of_below hbelow root entry.2)
    · have hapart := (hall entry List.mem_cons_self).resolve_right hbelow
      rw [at?_place_of_apart hapart]
      refine h.imp_right ?_
      rintro ⟨other, hmem, hother⟩
      rcases List.mem_cons.1 hmem with rfl | hmem
      · exact absurd hother hbelow
      · exact ⟨other, hmem, hother⟩

/-- The value that an entry of a source has for a path, if it is about that path. -/
def valueFor? (p : KeyPath) (entry : KeyPath × Setting) : Option Setting :=
  if entry.1 = p then some entry.2 else none

/-- Under the names of a path that the other paths of a source go apart from, the last value that the
source has for it is found, and else what was there before. -/
theorem at?_overlay {p : KeyPath} (hp : p.LeadsTo names) {source : List (KeyPath × Setting)}
    (hreplaces : ∀ entry ∈ source, entry.2.Replaces)
    (hother : ∀ entry ∈ source,
      entry.1 = p ∨ Apart names entry.1.walk) :
    (root.overlay source).at? names =
      (source.filterMap (valueFor? p)).getLast?.or (root.at? names) := by
  induction source generalizing root with
  | nil => rfl
  | cons entry source ih =>
    rw [overlay_cons, ih (fun other hmem => hreplaces other (List.mem_cons_of_mem _ hmem))
      fun other hmem => hother other (List.mem_cons_of_mem _ hmem)]
    -- what comes later is laid over this entry, which counts only if nothing later is about the path
    by_cases hkey : entry.1 = p
    · have hfound : (root.place p entry.2).at? names = some entry.2 :=
        at?_place_self hp (hreplaces entry List.mem_cons_self)
      have hvalue : valueFor? p entry = some entry.2 := if_pos hkey
      rw [hkey, hfound, List.filterMap_cons_some hvalue, List.getLast?_cons]
      cases (source.filterMap (valueFor? p)).getLast? <;> rfl
    · have hapart := (hother entry List.mem_cons_self).resolve_left hkey
      have hvalue : valueFor? p entry = none := if_neg hkey
      rw [at?_place_of_apart hapart, List.filterMap_cons_none hvalue]

end Setting

end GraphServe
