import GraphServe.EngineFile.Contents
import GraphServe.Proofs.Text.Utf8

/-!
# What readers take

A reader is told by its language: the byte strings it takes, each with the value it makes of it
(`Recognizes`). It takes them whatever follows, takes nothing else, and fails only in the ways of
`ReadFailure`. Languages are put together as readers are: one after another (`Recognizes.bind`),
behind a check (`Recognizes.guard`), and row by row (`Recognizes.cons`).
-/

namespace GraphServe.EngineFile

variable {α β : Type}

/-- The ways in which readers fail. -/
inductive ReadFailure : EngineError → Prop
  | endOfData : ReadFailure (.io .endOfData)
  | magic (found : Bytes) : ReadFailure (.invalidMagic found)
  | version (found : Nat) : ReadFailure (.unsupportedVersion found)
  | content (reason : String) : ReadFailure (.graphLoad reason)

/-- A reader takes exactly the byte strings of a language, whatever follows them. -/
structure Recognizes (read : Reader α) (language : Bytes → α → Prop) : Prop where
  takes : ∀ {bytes a}, language bytes a → ∀ rest position,
    read ⟨bytes ++ rest, position⟩ = (.ok a, ⟨rest, position + bytes.length⟩)
  taken : ∀ {start a stop}, read start = (.ok a, stop) → ∃ bytes, language bytes a ∧
    start.rest = bytes ++ stop.rest ∧ stop.position = start.position + bytes.length
  fails : ∀ {start e stop}, read start = (.error e, stop) → ReadFailure e

theorem Recognizes.congr {read : Reader α} {language language' : Bytes → α → Prop}
    (h : Recognizes read language) (hiff : ∀ bytes a, language bytes a ↔ language' bytes a) :
    Recognizes read language' := by
  have heq : language = language' := by
    funext bytes a
    exact propext (hiff bytes a)
  exact heq ▸ h

/-! ## Putting readers together -/

theorem bind_apply (read : Reader α) (next : α → Reader β) (start : Cursor) :
    (read >>= next) start =
      match read start with
      | (.ok a, stop) => next a stop
      | (.error e, stop) => (.error e, stop) := by
  simp only [bind, ExceptT.bind, ExceptT.mk, StateT.bind]
  rcases read start with ⟨_ | _, stop⟩ <;> rfl

theorem bind_eq_ok_cases {read : Reader α} {next : α → Reader β} {start stop : Cursor} {b : β}
    (h : (read >>= next) start = (.ok b, stop)) :
    ∃ a middle, read start = (.ok a, middle) ∧ next a middle = (.ok b, stop) := by
  rw [bind_apply] at h
  split at h
  · next a middle hread => exact ⟨a, middle, hread, h⟩
  · cases h

theorem bind_eq_error_cases {read : Reader α} {next : α → Reader β} {start stop : Cursor}
    {e : EngineError} (h : (read >>= next) start = (.error e, stop)) :
    read start = (.error e, stop) ∨
      ∃ a middle, read start = (.ok a, middle) ∧ next a middle = (.error e, stop) := by
  rw [bind_apply] at h
  split at h
  · next a middle hread => exact Or.inr ⟨a, middle, hread, h⟩
  · next e' stop' hread =>
    cases h
    exact Or.inl hread

/-- Making a value of nothing takes nothing. -/
theorem recognizes_pure (a : α) :
    Recognizes (pure a : Reader α) fun bytes b => bytes = [] ∧ b = a where
  takes := by
    rintro bytes b ⟨rfl, rfl⟩ rest position
    rfl
  taken := by
    rintro start b stop h
    cases h
    exact ⟨[], ⟨rfl, rfl⟩, rfl, rfl⟩
  fails := by
    rintro start e stop h
    cases h

/-- A failure takes nothing at all. -/
theorem recognizes_throw {e : EngineError} (he : ReadFailure e) :
    Recognizes (throw e : Reader α) fun _ _ => False where
  takes h := h.elim
  taken := by
    rintro start b stop h
    cases h
  fails := by
    rintro start e' stop h
    cases h
    exact he

/-- One reader after another takes one string after another. -/
theorem Recognizes.bind {read : Reader α} {next : α → Reader β} {language : Bytes → α → Prop}
    {languageOf : α → Bytes → β → Prop} (hread : Recognizes read language)
    (hnext : ∀ a bytes, language bytes a → Recognizes (next a) (languageOf a)) :
    Recognizes (read >>= next) fun bytes b =>
      ∃ a first second, language first a ∧ languageOf a second b ∧ bytes = first ++ second where
  takes := by
    rintro _ b ⟨a, first, second, hfirst, hsecond, rfl⟩ rest position
    rw [bind_apply, List.append_assoc, hread.takes hfirst]
    simp only
    rw [(hnext a first hfirst).takes hsecond, List.length_append, Nat.add_assoc]
  taken := by
    intro start b stop h
    obtain ⟨a, middle, hstart, hmiddle⟩ := bind_eq_ok_cases h
    obtain ⟨first, hfirst, hrest, hposition⟩ := hread.taken hstart
    obtain ⟨second, hsecond, hrest', hposition'⟩ := (hnext a first hfirst).taken hmiddle
    refine ⟨first ++ second, ⟨a, first, second, hfirst, hsecond, rfl⟩, ?_, ?_⟩
    · rw [hrest, hrest', List.append_assoc]
    · rw [hposition', hposition, List.length_append, Nat.add_assoc]
  fails := by
    intro start e stop h
    rcases bind_eq_error_cases h with hstart | ⟨a, middle, hstart, hmiddle⟩
    · exact hread.fails hstart
    · obtain ⟨first, hfirst, -, -⟩ := hread.taken hstart
      exact (hnext a first hfirst).fails hmiddle

/-- A check in front of a reader narrows its language. -/
theorem Recognizes.guard {c : Prop} [Decidable c] {e : EngineError} {rest : Unit → Reader β}
    {language : Bytes → β → Prop} (he : ReadFailure e) (hrest : Recognizes (rest ()) language) :
    Recognizes (if c then throw e >>= rest else rest ()) fun bytes b => ¬ c ∧ language bytes b := by
  by_cases hc : c
  · rw [if_pos hc]
    have hnever (u : Unit) (bytes : Bytes) : False → Recognizes (rest u) fun _ _ => False := False.elim
    -- behind a failure nothing is read, so that the rest may be taken to read nothing
    refine ((recognizes_throw he).bind hnever).congr fun bytes b => ?_
    constructor
    · rintro ⟨-, -, -, h, -, -⟩
      exact h.elim
    · rintro ⟨h, -⟩
      exact (h hc).elim
  · rw [if_neg hc]
    exact hrest.congr fun bytes b => ⟨fun h => ⟨hc, h⟩, And.right⟩

/-- A reader that only uses a result takes nothing, and makes a value of it if it is no fault. -/
theorem recognizes_of_result {γ ε : Type} (result : Except ε γ) (use : γ → α) {read : Reader α}
    (hok : ∀ c, result = .ok c → read = pure (use c))
    (herror : ∀ fault, result = .error fault → ∃ reason, read = throw (.graphLoad reason)) :
    Recognizes read fun bytes a => bytes = [] ∧ ∃ c, result = .ok c ∧ a = use c := by
  cases hresult : result with
  | ok c =>
    rw [hok c hresult]
    exact (recognizes_pure (use c)).congr fun bytes a => by simp
  | error fault =>
    obtain ⟨reason, hread⟩ := herror fault hresult
    rw [hread]
    exact (recognizes_throw (.content reason)).congr fun bytes a => by simp

/-! ## Rows -/

/-- The language of one encoding for each value that may be written. -/
def Written (write : α → Bytes) (valid : α → Prop) (bytes : Bytes) (a : α) : Prop :=
  bytes = write a ∧ valid a

/-- The language of rows of a given length. -/
def WrittenRow (write : α → Bytes) (valid : α → Prop) (count : Nat) (bytes : Bytes) (row : List α) :
    Prop :=
  row.length = count ∧ bytes = row.flatMap write ∧ ∀ a ∈ row, valid a

theorem recognizes_nil (write : α → Bytes) (valid : α → Prop) :
    Recognizes (pure [] : Reader (List α)) (WrittenRow write valid 0) := by
  refine (recognizes_pure []).congr fun bytes row => ?_
  rw [WrittenRow, List.length_eq_zero_iff]
  constructor
  · rintro ⟨rfl, rfl⟩
    simp
  · rintro ⟨rfl, rfl, -⟩
    simp

/-- A value and then a row make a row. -/
theorem Recognizes.cons {read : Reader α} {rest : Reader (List α)} {write : α → Bytes}
    {valid : α → Prop} {count : Nat} (hread : Recognizes read (Written write valid))
    (hrest : Recognizes rest (WrittenRow write valid count)) :
    Recognizes (do return (← read) :: (← rest)) (WrittenRow write valid (count + 1)) := by
  refine (hread.bind fun _ _ _ => hrest.bind fun _ _ _ => recognizes_pure _).congr ?_
  intro bytes row
  constructor
  · rintro ⟨a, _, _, ⟨rfl, ha⟩, ⟨others, _, _, ⟨hlength, rfl, hothers⟩, ⟨rfl, rfl⟩, rfl⟩, rfl⟩
    refine ⟨by rw [List.length_cons, hlength], by simp, ?_⟩
    exact List.forall_mem_cons.2 ⟨ha, hothers⟩
  · rintro ⟨hlength, rfl, hvalid⟩
    obtain ⟨a, others, rfl⟩ := List.exists_cons_of_length_eq_add_one hlength
    obtain ⟨ha, hothers⟩ := List.forall_mem_cons.1 hvalid
    exact ⟨a, write a, others.flatMap write, ⟨rfl, ha⟩,
      ⟨others, _, [], ⟨by simpa using hlength, rfl, hothers⟩, ⟨rfl, rfl⟩, by simp⟩, by simp⟩

/-! ## Numbers and texts -/

theorem recognizes_readBytes (count : Nat) :
    Recognizes (readBytes count) fun bytes found => bytes.length = count ∧ found = bytes where
  takes := by
    rintro bytes found ⟨rfl, hfound⟩ rest position
    rw [hfound]
    exact readBytes_append bytes rest position
  taken := by
    intro start found stop h
    rw [readBytes, splitExactly_eq] at h
    -- without room the cursor runs to the end and the reader fails
    by_cases hroom : count ≤ start.rest.length
    · simp only [hroom, if_true] at h
      cases h
      have hlength : (start.rest.take count).length = count := by
        rw [List.length_take, Nat.min_eq_left hroom]
      exact ⟨start.rest.take count, ⟨hlength, rfl⟩, by simp, by simp [hlength]⟩
    · simp only [hroom, if_false] at h
      cases h
  fails := by
    intro start e stop h
    rw [readBytes] at h
    split at h <;> cases h
    exact .endOfData

theorem recognizes_readNat (width : Nat) :
    Recognizes (readNat width) (Written (littleEndian width) (· < Nat.pow 256 width)) := by
  refine ((recognizes_readBytes width).bind fun _ _ _ => recognizes_pure _).congr fun bytes n => ?_
  constructor
  · rintro ⟨found, _, _, ⟨rfl, rfl⟩, ⟨rfl, rfl⟩, rfl⟩
    rw [List.append_nil]
    exact ⟨(littleEndian_ofLittleEndian found).symm, ofLittleEndian_lt found⟩
  · rintro ⟨rfl, hn⟩
    refine ⟨_, _, [], ⟨length_littleEndian width n, rfl⟩, ⟨rfl, ?_⟩, by simp⟩
    rw [ofLittleEndian_littleEndian, Nat.mod_eq_of_lt hn]

theorem recognizes_readSigned :
    Recognizes readSigned (Written writeSigned fun _ => True) := by
  refine ((recognizes_readNat 8).bind fun _ _ _ => recognizes_pure _).congr fun bytes value => ?_
  constructor
  · rintro ⟨n, _, _, ⟨rfl, hn⟩, ⟨rfl, rfl⟩, rfl⟩
    refine ⟨?_, trivial⟩
    have hvalue : (UInt64.ofNat n).toNat = n := by
      rw [UInt64.toNat_ofNat', Nat.mod_eq_of_lt hn]
    rw [List.append_nil, writeSigned, UInt64.toUInt64_toInt64, hvalue]
  · rintro ⟨rfl, -⟩
    refine ⟨_, _, [], ⟨rfl, value.toUInt64.toNat_lt⟩, ⟨rfl, ?_⟩, by simp [writeSigned]⟩
    simp

theorem recognizes_readText :
    Recognizes readText
      (Written writeText fun text => (Text.Utf8.encode text).length ≤ maxTextLength) := by
  refine ((recognizes_readNat 8).bind fun length _ _ => .guard (.content _)
    ((recognizes_readBytes length).bind fun found _ _ =>
      recognizes_of_result (Text.Utf8.decode found) id (fun text h => by rw [h]; rfl)
        fun fault h => ⟨_, by rw [h]⟩)).congr fun bytes text => ?_
  constructor
  · rintro ⟨length, _, _, ⟨rfl, -⟩, ⟨hlimit, found, _, _, ⟨rfl, rfl⟩, ⟨rfl, text, htext, rfl⟩, rfl⟩,
      rfl⟩
    obtain rfl := Text.Utf8.decode_eq_ok_iff.1 htext
    exact ⟨by simp [writeText], by simpa using hlimit⟩
  · rintro ⟨rfl, hlimit⟩
    have hroom : maxTextLength < Nat.pow 256 8 := by decide
    have hdecode : Text.Utf8.decode (Text.Utf8.encode text) = .ok text :=
      Text.Utf8.decode_eq_ok_iff.2 rfl
    exact ⟨_, _, _, ⟨rfl, by omega⟩, ⟨by omega, _, _, [], ⟨rfl, rfl⟩, ⟨rfl, text, hdecode, rfl⟩, rfl⟩,
      by simp [writeText]⟩

end GraphServe.EngineFile
