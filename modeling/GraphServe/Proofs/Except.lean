/-!
# Steps that can be refused

How a row of steps that can be refused ends: it ends well exactly if each step does, and it is
refused exactly by the first step that is.
-/

namespace GraphServe

variable {ε α β : Type}

@[simp] theorem ok_bind (a : α) (next : α → Except ε β) : (Except.ok a >>= next) = next a := rfl

@[simp] theorem error_bind (e : ε) (next : α → Except ε β) :
    (Except.error e >>= next) = .error e := rfl

theorem bind_eq_ok_iff {step : Except ε α} {next : α → Except ε β} {b : β} :
    (step >>= next) = .ok b ↔ ∃ a, step = .ok a ∧ next a = .ok b := by
  cases step with
  | ok a => simp
  | error e => simp

theorem bind_eq_error_iff {step : Except ε α} {next : α → Except ε β} {e : ε} :
    (step >>= next) = .error e ↔ step = .error e ∨ ∃ a, step = .ok a ∧ next a = .error e := by
  cases step with
  | ok a => simp
  | error e' => simp

theorem map_eq_ok_iff {f : α → β} {step : Except ε α} {b : β} :
    f <$> step = .ok b ↔ ∃ a, step = .ok a ∧ f a = b := by
  cases step with
  | ok a => simp [Functor.map, Except.map]
  | error e => simp [Functor.map, Except.map]

/-- A row of steps over a list makes one result for each item. -/
theorem length_of_mapM_eq_ok {f : α → Except ε β} {items : List α} {results : List β}
    (h : items.mapM f = .ok results) : results.length = items.length := by
  induction items generalizing results with
  | nil =>
    cases h
    rfl
  | cons a rest ih =>
    rw [List.mapM_cons] at h
    obtain ⟨b, -, h⟩ := bind_eq_ok_iff.1 h
    obtain ⟨others, hothers, h⟩ := bind_eq_ok_iff.1 h
    cases h
    simp [ih hothers]

/-- A row of steps over a list makes the results that a function tells, if each step does. -/
theorem eq_map_of_mapM_eq_ok {f : α → Except ε β} {g : α → β} {items : List α} {results : List β}
    (hg : ∀ a b, f a = .ok b → b = g a) (h : items.mapM f = .ok results) :
    results = items.map g := by
  induction items generalizing results with
  | nil =>
    cases h
    rfl
  | cons a rest ih =>
    rw [List.mapM_cons] at h
    obtain ⟨b, hfirst, h⟩ := bind_eq_ok_iff.1 h
    obtain ⟨others, hothers, h⟩ := bind_eq_ok_iff.1 h
    cases h
    rw [List.map_cons, ← hg a b hfirst, ← ih hothers]

/-- In a row of steps that ends well each step does. -/
theorem exists_of_mem_of_mapM_eq_ok {f : α → Except ε β} {items : List α} {results : List β}
    (h : items.mapM f = .ok results) {a : α} (ha : a ∈ items) : ∃ b, f a = .ok b := by
  induction items generalizing results with
  | nil => cases ha
  | cons first rest ih =>
    rw [List.mapM_cons] at h
    obtain ⟨b, hfirst, h⟩ := bind_eq_ok_iff.1 h
    obtain ⟨others, hothers, -⟩ := bind_eq_ok_iff.1 h
    rcases List.mem_cons.1 ha with rfl | ha
    · exact ⟨b, hfirst⟩
    · exact ih hothers ha

/-- A row of steps over a list is refused by the first step that is. -/
theorem split_of_mapM_eq_error {f : α → Except ε β} {items : List α} {e : ε}
    (h : items.mapM f = .error e) : ∃ before a after, items = before ++ a :: after ∧
      (∀ b ∈ before, ∃ result, f b = .ok result) ∧ f a = .error e := by
  induction items with
  | nil => cases h
  | cons first rest ih =>
    rw [List.mapM_cons] at h
    rcases bind_eq_error_iff.1 h with hfirst | ⟨result, hfirst, h⟩
    · exact ⟨[], first, rest, rfl, by simp, hfirst⟩
    · rcases bind_eq_error_iff.1 h with hrest | ⟨others, -, h⟩
      · obtain ⟨before, a, after, rfl, hbefore, ha⟩ := ih hrest
        refine ⟨first :: before, a, after, rfl, ?_, ha⟩
        intro b hb
        rcases List.mem_cons.1 hb with rfl | hb
        · exact ⟨result, hfirst⟩
        · exact hbefore b hb
      · cases h

/-- A row of steps over a list is refused by the step for one of its items. -/
theorem exists_of_mapM_eq_error {f : α → Except ε β} {items : List α} {e : ε}
    (h : items.mapM f = .error e) : ∃ a ∈ items, f a = .error e := by
  obtain ⟨before, a, after, rfl, -, ha⟩ := split_of_mapM_eq_error h
  exact ⟨a, by simp, ha⟩

end GraphServe
