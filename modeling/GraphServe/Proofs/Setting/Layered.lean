import GraphServe.Proofs.Setting.Variables
import GraphServe.Setting.Layered

/-!
# Layered settings and the laws of variables

The library of layered settings reads the variables of every source that tries flags and numbers by
the laws (`Setting.variableLaws`). What a name says of a path is found by reading the path that its
pieces make up (`KeyPath.ofText_intercalate`); what is placed at a path is told by
`Setting.at?_overlay`.
-/

namespace GraphServe

open Text (IsPlainName lower pieces)

/-! ## Pieces of names -/

theorem Text.pieces_ne_nil (mark : List Char) (passed : Nat) (text : List Char) :
    pieces mark passed text ≠ [] := by
  induction text generalizing passed with
  | nil => cases passed <;> exact List.cons_ne_nil _ _
  | cons c text ih =>
    cases passed with
    | succ passed => exact ih passed
    | zero =>
      rw [pieces]
      split
      · exact List.cons_ne_nil _ _
      · intro hnil
        have hlength := congrArg List.length hnil
        rw [List.length_modifyHead] at hlength
        exact ih 0 (List.eq_nil_of_length_eq_zero hlength)

namespace KeyPath

open Text (Scan)

theorem isNameChar_of_isPlainName {name : List Char} (h : IsPlainName name) :
    ∀ c ∈ name, isNameChar c = true := by
  intro c hc
  have hplain := List.all_eq_true.1 h.2 c hc
  have halphanum : c.isAlphanum = (c.isUpper || c.isLower || c.isDigit) := rfl
  rw [isNameChar, halphanum]
  simp only [Bool.or_eq_true] at hplain ⊢
  tauto

/-- A name is read up to the next point, or up to the end. -/
theorem name_append {text rest : List Char} (h : IsPlainName text)
    (hrest : ∀ c ∈ rest.head?, c = '.') :
    name (text ++ rest) = some (String.ofList text, rest) := by
  have hchars := isNameChar_of_isPlainName h
  have hstop : rest.takeWhile isNameChar = [] ∧ rest.dropWhile isNameChar = rest := by
    cases rest with
    | nil => exact ⟨rfl, rfl⟩
    | cons c rest =>
      obtain rfl : c = '.' := hrest c rfl
      exact ⟨List.takeWhile_cons_of_neg (by decide), List.dropWhile_cons_of_neg (by decide)⟩
  have htake : (text ++ rest).takeWhile isNameChar = text := by
    rw [List.takeWhile_append_of_pos hchars, hstop.1, List.append_nil]
  have hdrop : (text ++ rest).dropWhile isNameChar = rest := by
    rw [List.dropWhile_append_of_pos hchars, hstop.2]
  simp [name, Scan.takeSome, Scan.takeWhile, htake, hdrop, h.1, Scan.bind_apply, Scan.pure_apply]

/-- The names of a path, with a point before each. -/
def tail (names : List (List Char)) : List Char := names.flatMap ('.' :: ·)

theorem head?_tail (names : List (List Char)) : ∀ c ∈ (tail names).head?, c = '.' := by
  intro c hc
  cases names with
  | nil => cases hc
  | cons name names => exact (Option.some.inj hc).symm

theorem length_le_length_tail (names : List (List Char)) : names.length ≤ (tail names).length := by
  induction names with
  | nil => exact Nat.le_refl 0
  | cons name names ih =>
    rw [tail, List.flatMap_cons, List.length_append, List.length_cons, List.length_cons]
    rw [tail] at ih
    omega

theorem steps_tail {names : List (List Char)} (h : ∀ name ∈ names, IsPlainName name) {bound : Nat}
    (hbound : names.length < bound) :
    steps bound (tail names) = some (names.map fun name => .entry (String.ofList name), []) := by
  induction names generalizing bound with
  | nil =>
    obtain ⟨bound, rfl⟩ := Nat.exists_eq_succ_of_ne_zero (Nat.ne_of_gt hbound)
    rfl
  | cons first names ih =>
    obtain ⟨bound, rfl⟩ := Nat.exists_eq_succ_of_ne_zero (Nat.ne_of_gt (Nat.zero_lt_of_lt hbound))
    have hfirst := name_append (h first List.mem_cons_self) (head?_tail names)
    have hrest := ih (fun name hname => h name (List.mem_cons_of_mem _ hname))
      (Nat.lt_of_succ_lt_succ hbound)
    have htail : tail (first :: names) = '.' :: (first ++ tail names) := rfl
    rw [htail]
    simp [steps, step, Scan.peek?, Scan.accept, hfirst, hrest, Scan.bind_apply, Scan.map_apply]

theorem toList_intercalate (first : List Char) (names : List (List Char)) :
    (".".intercalate ((first :: names).map String.ofList)).toList = first ++ tail names := by
  induction names generalizing first with
  | nil => simp [tail, String.intercalate_singleton]
  | cons next names ih =>
    rw [List.map_cons, List.map_cons, String.intercalate_cons_cons, ← List.map_cons,
      String.toList_append, String.toList_append, ih]
    simp [tail]

/-- A path is read from its names with points between them. -/
theorem ofText_intercalate {names : List (List Char)} (hne : names ≠ [])
    (h : ∀ name ∈ names, IsPlainName name) :
    ofText (".".intercalate (names.map String.ofList)) = ofNames (names.map String.ofList) := by
  cases names with
  | nil => exact absurd rfl hne
  | cons first names =>
    have hfirst := name_append (h first List.mem_cons_self) (head?_tail names)
    have hbound := Nat.lt_succ_of_le (length_le_length_tail names)
    have hsteps := steps_tail (fun name hname => h name (List.mem_cons_of_mem _ hname)) hbound
    rw [ofText, toList_intercalate]
    simp [Scan.all, path, hfirst, hsteps, Scan.rest, Scan.bind_apply, Scan.map_apply, ofNames]

end KeyPath

/-! ## Variables of a source -/

namespace Setting

variable {source : EnvironmentSource} {start separator : String} {env : Environment}
  {table : Setting}

theorem opening_eq (hstart : source.start = some start) (hnone : source.startSeparator = none)
    (hseparator : source.separator = some separator) :
    source.opening = lower (start ++ separator) := by
  rw [EnvironmentSource.opening, hstart, hnone, hseparator]
  rfl

theorem isPrefix_of_variablePath? {name : String} {p : KeyPath}
    (h : variablePath? source name = some p) : source.opening.toList <+: (lower name).toList := by
  rw [variablePath?] at h
  split at h
  · next hopening => exact List.isPrefixOf_iff_prefix.1 hopening
  · cases h

/-- The rest of a name goes by the pieces between the separators. -/
theorem variablePath?_eq {name : String} {rest : List Char}
    (hseparator : source.separator = some separator)
    (hname : (lower name).toList = source.opening.toList ++ rest)
    (hplain : ∀ piece ∈ pieces separator.toList 0 rest, IsPlainName piece) :
    variablePath? source name =
      some (.ofNames ((pieces separator.toList 0 rest).map String.ofList)) := by
  have hopening : source.opening.toList.isPrefixOf (lower name).toList = true :=
    List.isPrefixOf_iff_prefix.2 ⟨rest, hname.symm⟩
  rw [variablePath?, if_pos hopening, hname, List.drop_left, restPath, hseparator,
    Option.getD_some, KeyPath.ofText_intercalate (Text.pieces_ne_nil _ _ _) hplain]

theorem exists_of_mem_ofEnvironment {entry : KeyPath × Setting} (htry : source.tryParsing = true)
    (h : entry ∈ ofEnvironment source env) :
    ∃ v ∈ env, variablePath? source v.1 = some entry.1 ∧ entry.2 = ofVariable v.2 := by
  obtain ⟨v, hv, hentry⟩ := List.mem_filterMap.1 h
  obtain ⟨path, hpath, rfl⟩ := Option.map_eq_some_iff.1 hentry
  exact ⟨v, hv, hpath, if_pos htry⟩

theorem filterMap_valueFor? (htry : source.tryParsing = true) (env : Environment) (p : KeyPath) :
    (ofEnvironment source env).filterMap (valueFor? p) =
      (env.texts (variablePath? source) p).map ofVariable := by
  rw [ofEnvironment, Environment.texts, List.filterMap_filterMap, List.map_filterMap]
  apply List.filterMap_congr
  rintro ⟨name, text⟩ -
  dsimp only
  cases variablePath? source name with
  | none => rfl
  | some path =>
    simp only [Option.map_some, Option.bind_some, valueFor?, htry, if_true, Option.some.injEq]
    split <;> rfl

theorem at?_overlay_ofEnvironment (htry : source.tryParsing = true) {names : List String}
    (hne : names ≠ []) (hlower : ∀ name ∈ names, lower name = name)
    (hother : ∀ v ∈ env, ∀ q, variablePath? source v.1 = some q →
      q = .ofNames names ∨ KeyPath.Apart names q.walk) :
    (table.overlay (ofEnvironment source env)).at? names =
      ((env.texts (variablePath? source) (.ofNames names)).getLast?.map ofVariable).or
        (table.at? names) := by
  rw [at?_overlay (KeyPath.leadsTo_ofNames hne hlower), filterMap_valueFor? htry, List.getLast?_map]
  · intro entry hentry
    obtain ⟨v, -, -, hvalue⟩ := exists_of_mem_ofEnvironment htry hentry
    exact hvalue ▸ replaces_ofVariable v.2
  · intro entry hentry
    obtain ⟨v, hv, hpath, -⟩ := exists_of_mem_ofEnvironment htry hentry
    exact hother v hv _ hpath

theorem exists_layered_table {name : String} (htry : source.tryParsing = true)
    (hall : ∀ v ∈ env, ∀ q, variablePath? source v.1 = some q →
      KeyPath.Apart [name] q.walk ∨ q.Below name)
    (hbelow : ∃ v ∈ env, ∃ q, variablePath? source v.1 = some q ∧ q.Below name) :
    ∃ inner, ((table.overlay (ofEnvironment source env)).entries.lookup name).bind
      SettingLibrary.layered.table? = some inner := by
  obtain ⟨entries, htable⟩ : ∃ entries,
      (table.overlay (ofEnvironment source env)).at? [name] = some (.table entries) := by
    apply exists_table_overlay
    · intro entry hentry
      obtain ⟨v, hv, hpath, -⟩ := exists_of_mem_ofEnvironment htry hentry
      exact hall v hv _ hpath
    · obtain ⟨v, hv, q, hpath, hq⟩ := hbelow
      exact Or.inr ⟨_, List.mem_filterMap.2 ⟨v, hv, Option.map_eq_some_iff.2 ⟨q, hpath, rfl⟩⟩, hq⟩
  rw [at?_single] at htable
  exact ⟨.table entries, by rw [htable]; rfl⟩

/-- The library finds under names what a setting holds there. -/
theorem layered_at? (s : Setting) {names : List String} (hne : names ≠ []) :
    SettingLibrary.layered.at? s names = s.at? names := by
  induction names generalizing s with
  | nil => exact absurd rfl hne
  | cons name names ih =>
    cases names with
    | nil => exact (at?_single s name).symm
    | cons next names =>
      change (((s.entries.lookup name).bind SettingLibrary.layered.table?).bind fun inner =>
        SettingLibrary.layered.at? inner (next :: names)) = _
      rw [at?_cons]
      cases s.entries.lookup name with
      | none => rfl
      | some inner =>
        simp only [Option.bind_some]
        cases inner with
        | table entries => exact ih _ (List.cons_ne_nil _ _)
        | _ => rfl

theorem layered_overrides (htry : source.tryParsing = true) {names : List String}
    (hne : names ≠ []) (hlower : ∀ name ∈ names, lower name = name)
    (hother : ∀ v ∈ env, ∀ q, variablePath? source v.1 = some q →
      q = .ofNames names ∨ KeyPath.Apart names q.walk) :
    SettingLibrary.layered.at? (table.overlay (ofEnvironment source env)) names =
      ((env.texts (variablePath? source) (.ofNames names)).getLast?.map ofVariable).or
        (SettingLibrary.layered.at? table names) := by
  rw [layered_at? _ hne, layered_at? _ hne]
  exact at?_overlay_ofEnvironment htry hne hlower hother

/-- Layered settings read the variables of a source by the laws. -/
def variableLaws (htry : source.tryParsing = true) :
    SettingLibrary.layered.VariableLaws source where
  path? := variablePath? source
  value := ofVariable
  considers hstart hnone hseparator hpath :=
    opening_eq hstart hnone hseparator ▸ isPrefix_of_variablePath? hpath
  nests hstart hnone hseparator hname hplain :=
    variablePath?_eq hseparator (opening_eq hstart hnone hseparator ▸ hname) hplain
  collects _ _ := ⟨_, rfl⟩
  ignores {name} hpath text env table := by
    have hsame : ofEnvironment source ((name, text) :: env) = ofEnvironment source env :=
      List.filterMap_cons_none (Option.map_eq_none_iff.2 hpath)
    exact congrArg (fun settings => Except.ok (table.overlay settings)) hsame
  keeps _ := rfl
  overrides hcollect hne hlower hother := by
    cases hcollect
    exact layered_overrides htry hne hlower hother
  tables hcollect hall hbelow := by
    cases hcollect
    exact exists_layered_table htry hall hbelow
  text hverbatim := toText?_of_verbatim hverbatim
  word hwrites := ⟨toWord?_of_writesWord hwrites, by rw [ofVariable_of_writesWord hwrites]; rfl⟩
  flag hwrites := toFlag?_of_writesFlag hwrites
  variant hlower hmem hplain := toVariant?_of_lower hlower hmem hplain

end Setting

end GraphServe
