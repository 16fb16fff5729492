import GraphServe.Proofs.Setting.Laws
import GraphServe.Proofs.Setting.Placing
import GraphServe.Proofs.Tensor.Size
import GraphServe.Setting.Environment
import Mathlib.Data.List.TakeWhile

/-!
# Texts of variables

What the text of a variable is worth. It is a flag if it names one, a number if it reads as one, and
else itself (`ofVariable_eq_text`); in no case is it a table, so it takes the place of whatever it is
merged into (`replaces_ofVariable`). Digits stand for their number as long as this has 63 bits, and
the names of flags and choices for what they name, in any case of their letters.
-/

namespace GraphServe

open Text (IsPlainWord Verbatim WritesFlag WritesWord flagWords isDigit lower lowerChar numberOf)
open Numeric (readReal? readUnsigned? splitSign)

/-! ## Letters and digits -/

theorem Text.isDigit_iff {c : Char} : isDigit c = true ↔ 48 ≤ c.toNat ∧ c.toNat ≤ 57 := by
  rw [isDigit, Bool.and_eq_true, decide_eq_true_eq, decide_eq_true_eq, Char.le_def, Char.le_def,
    UInt32.le_iff_toNat_le, UInt32.le_iff_toNat_le]
  exact Iff.rfl

theorem Text.toList_lower (s : String) : (lower s).toList = s.toList.map lowerChar := by
  rw [lower, String.toList_ofList]

/-- Characters below the capital letters have no other case. -/
theorem Text.lowerChar_of_lt {c : Char} (h : c.toNat < 65) : lowerChar c = c := by
  have hkelvin : (c == '\u212A') = false := by
    rw [beq_eq_false_iff_ne]
    rintro rfl
    exact absurd h (by decide)
  have hsmall : ¬(65 : UInt32) ≤ c.val := fun hle => Nat.not_lt.2 (UInt32.le_iff_toNat_le.1 hle) h
  have hkept : c.toLower = c := dif_neg fun hcapital => hsmall hcapital.1
  rw [lowerChar, hkelvin, hkept]
  rfl

/-- A text that is a word but for the case of its letters begins with no digit, sign or point. -/
theorem Text.head_of_lower {text word : String} (hlower : lower text = word)
    (hletter : beginsWithLetter word = true) :
    ∃ c rest, text.toList = c :: rest ∧ isDigit c = false ∧ c ≠ '+' ∧ c ≠ '-' ∧ c ≠ '.' := by
  obtain ⟨l, hhead, hl⟩ := (Option.any_eq_true _ _).1 hletter
  obtain ⟨others, hword⟩ := List.head?_eq_some_iff.1 hhead
  rw [decide_eq_true_eq] at hl
  rw [← hlower, toList_lower] at hword
  obtain ⟨c, rest, htext, rfl, -⟩ := List.map_eq_cons_iff.1 hword
  have hc : 65 ≤ c.toNat := by
    apply Nat.le_of_not_lt
    intro hlow
    rw [lowerChar_of_lt hlow] at hl
    omega
  refine ⟨c, rest, htext, ?_, ?_, ?_, ?_⟩
  · rw [Bool.eq_false_iff, Ne, isDigit_iff]
    omega
  all_goals
    rintro rfl
    exact absurd hc (by decide)

theorem Text.lower_ne_of_isDigit {text word : String} {c : Char} {rest : List Char}
    (htext : text.toList = c :: rest) (hc : isDigit c = true)
    (hletter : beginsWithLetter word = true) : lower text ≠ word := by
  intro hlower
  obtain ⟨d, others, htext', hd, -⟩ := head_of_lower hlower hletter
  obtain ⟨rfl, -⟩ := List.cons.inj (htext.symm.trans htext')
  exact Bool.false_ne_true (hd.symm.trans hc)

/-! ## Numbers -/

namespace Numeric

theorem splitSign_of_head {c : Char} (rest : List Char) (hplus : c ≠ '+') (hminus : c ≠ '-') :
    splitSign (c :: rest) = (false, c :: rest) := by
  rw [splitSign]
  · exact fun _ h => hminus (List.cons.inj h).1
  · exact fun _ h => hplus (List.cons.inj h).1

/-- Digits alone are a number. -/
theorem isSome_readUnsigned? {digits : List Char} (negative : Bool) (hne : digits ≠ [])
    (hdigits : ∀ c ∈ digits, isDigit c = true) : (readUnsigned? negative digits).isSome := by
  have htake : digits.takeWhile isDigit = digits := List.takeWhile_eq_self_iff.2 hdigits
  have hdrop : digits.dropWhile isDigit = [] := List.dropWhile_eq_nil_iff.2 hdigits
  simp [readUnsigned?, htake, hdrop, hne]

/-- What begins with no digit and no point is no number. -/
theorem readUnsigned?_eq_none {c : Char} (negative : Bool) (rest : List Char)
    (hdigit : isDigit c = false) (hpoint : c ≠ '.') : readUnsigned? negative (c :: rest) = none := by
  have htake : (c :: rest).takeWhile isDigit = [] := List.takeWhile_cons_of_neg (by simp [hdigit])
  have hdrop : (c :: rest).dropWhile isDigit = c :: rest :=
    List.dropWhile_cons_of_neg (by simp [hdigit])
  simp [readUnsigned?, htake, hdrop, hpoint]

end Numeric

namespace Setting

/-- An integer is a number. -/
theorem readInteger?_eq_none {text : List Char} (h : readReal? text = none) :
    readInteger? text = none := by
  rw [readInteger?]
  generalize hsplit : splitSign text = signed
  obtain ⟨negative, digits⟩ := signed
  dsimp only
  split
  · rfl
  · next hdigits =>
    -- the digits of an integer would be a number without a fraction
    exfalso
    simp only [Bool.or_eq_true, List.isEmpty_iff, Bool.not_eq_true', List.all_eq_false,
      not_or, not_exists, not_and, Bool.not_eq_true, Bool.not_eq_false] at hdigits
    have hsome := Numeric.isSome_readUnsigned? negative hdigits.1 (by simpa using hdigits.2)
    rw [readReal?, hsplit] at h
    dsimp only at h
    split at h
    · cases h
    · split at h
      · cases h
      · rw [h] at hsome
        cases hsome

/-! ## Settings of variables -/

theorem ofVariable_of_ne {text : String} (htrue : lower text ≠ "true")
    (hfalse : lower text ≠ "false") :
    ofVariable text =
      match (readInteger? text.toList).bind ofInt? with
      | some setting => setting
      | none => ((readReal? text.toList).map .real).getD (.text text) := by
  rw [ofVariable]
  split
  · next h => exact absurd h htrue
  · next h => exact absurd h hfalse
  · rfl

/-- A text that is neither a flag nor a number is itself. -/
theorem ofVariable_eq_text {text : String} (h : Verbatim text) : ofVariable text = .text text := by
  obtain ⟨htrue, hfalse, hreal⟩ := h
  rw [ofVariable_of_ne htrue hfalse, readInteger?_eq_none hreal, hreal]
  rfl

/-- The text of a variable takes the place of whatever it is merged into. -/
theorem replaces_ofVariable (text : String) : (ofVariable text).Replaces := by
  intro target
  rw [ofVariable]
  split
  · rfl
  · rfl
  · split
    · next setting hsetting =>
      obtain ⟨i, -, hi⟩ := Option.bind_eq_some_iff.1 hsetting
      obtain ⟨j, -, rfl⟩ := Option.map_eq_some_iff.1 hi
      rfl
    · cases readReal? text.toList <;> rfl

/-- Plain words are neither flags nor numbers in any case of their letters. -/
theorem verbatim_of_lower {text word : String} (hlower : lower text = word)
    (hplain : IsPlainWord word) : Verbatim text := by
  obtain ⟨hletter, -, hword⟩ := hplain
  simp only [List.mem_cons, List.not_mem_nil, or_false, not_or] at hword
  obtain ⟨htrue, hfalse, hinf, hinfinity, hnan⟩ := hword
  refine ⟨hlower ▸ htrue, hlower ▸ hfalse, ?_⟩
  obtain ⟨c, rest, htext, hdigit, hplus, hminus, hpoint⟩ := Text.head_of_lower hlower hletter
  have hname : lower (String.ofList (c :: rest)) = word := by
    rw [← htext, String.ofList_toList, hlower]
  rw [htext, readReal?, Numeric.splitSign_of_head rest hplus hminus]
  simp only [hname, Bool.or_eq_true, beq_iff_eq, hinf, hinfinity, hnan, or_self, if_false]
  exact Numeric.readUnsigned?_eq_none false rest hdigit hpoint

/-! ## Values of texts -/

theorem head_of_writesWord {text : String} {n : UInt64} (h : WritesWord text n) :
    ∃ c rest, text.toList = c :: rest ∧ isDigit c = true := by
  obtain ⟨c, rest, htext⟩ := List.exists_cons_of_ne_nil h.1
  exact ⟨c, rest, htext, List.all_eq_true.1 h.2.1 c (htext ▸ List.mem_cons_self)⟩

theorem toInt_of_writesWord {text : String} {n : UInt64} (h : WritesWord text n) :
    n.toInt64.toInt = n.toNat := by
  have hhalf : wordBound / 2 = 9223372036854775808 := by decide
  rw [toInt_toInt64, if_pos (hhalf ▸ h.2.2.2)]

theorem readInteger?_of_writesWord {text : String} {n : UInt64} (h : WritesWord text n) :
    readInteger? text.toList = some (n.toNat : Int) := by
  obtain ⟨c, rest, htext, hc⟩ := head_of_writesWord h
  obtain ⟨hne, hdigits, hnumber, -⟩ := h
  have hsign : splitSign text.toList = (false, text.toList) := by
    rw [htext]
    apply Numeric.splitSign_of_head
    all_goals
      rintro rfl
      exact absurd hc (by decide)
  have hempty : text.toList.isEmpty = false := List.isEmpty_eq_false_iff.2 hne
  rw [readInteger?, hsign]
  simp [hempty, hdigits, hnumber]

/-- Digits stand for their number. -/
theorem ofVariable_of_writesWord {text : String} {n : UInt64} (h : WritesWord text n) :
    ofVariable text = .integer n.toInt64 := by
  have hsigned := toInt_of_writesWord h
  have hwithin : ofInt? n.toNat = some (.integer n.toInt64) := by
    have hmin : Int64.minValue.toInt ≤ n.toInt64.toInt := n.toInt64.minValue_le_toInt
    have hmax : n.toInt64.toInt ≤ Int64.maxValue.toInt := n.toInt64.toInt_le
    rw [← hsigned, ofInt?, within, if_pos ⟨hmin, hmax⟩, Option.map_some, Int64.ofInt_toInt]
  obtain ⟨c, rest, htext, hc⟩ := head_of_writesWord h
  have htrue : lower text ≠ "true" := Text.lower_ne_of_isDigit htext hc (by decide)
  have hfalse : lower text ≠ "false" := Text.lower_ne_of_isDigit htext hc (by decide)
  rw [ofVariable_of_ne htrue hfalse, readInteger?_of_writesWord h, Option.bind_some, hwithin]

theorem toWord?_of_writesWord {text : String} {n : UInt64} (h : WritesWord text n) :
    (ofVariable text).toWord? = some n := by
  have hbelow : n.toNat < UInt64.size := n.toNat_lt_size
  rw [ofVariable_of_writesWord h, toWord?, toNumber?, toInt_of_writesWord h, within,
    if_pos (by omega), Option.map_some, Int.toNat_natCast, UInt64.ofNat_toNat]

theorem toFlag?_of_lower {text word : String} (hlower : lower text = word)
    (hplain : IsPlainWord word) : (ofVariable text).toFlag? = flagWord? word := by
  rw [ofVariable_eq_text (verbatim_of_lower hlower hplain), toFlag?, hlower]
  split
  · exact absurd hplain (by decide)
  · exact absurd hplain (by decide)
  · rfl

theorem toFlag?_of_writesFlag {text : String} {b : Bool} (h : WritesFlag text b) :
    (ofVariable text).toFlag? = some b := by
  rcases h with h | rfl
  · cases b with
    | true =>
      simp only [flagWords, List.mem_cons, List.not_mem_nil, or_false] at h
      rcases h with h | h | h
      · rw [ofVariable, h]
        rfl
      · exact toFlag?_of_lower h (by decide)
      · exact toFlag?_of_lower h (by decide)
    | false =>
      simp only [flagWords, List.mem_cons, List.not_mem_nil, or_false] at h
      rcases h with h | h | h
      · rw [ofVariable, h]
        rfl
      · exact toFlag?_of_lower h (by decide)
      · exact toFlag?_of_lower h (by decide)
  · cases b <;> decide

theorem toText?_of_verbatim {text : String} (h : Verbatim text) :
    (ofVariable text).toText? = some text := by
  rw [ofVariable_eq_text h]
  rfl

/-- A plain word stands for itself among plain words. -/
theorem toVariant?_of_lower {text word : String} {words : List String} (hlower : lower text = word)
    (hmem : word ∈ words) (hplain : ∀ known ∈ words, IsPlainWord known) :
    (ofVariable text).toVariant? words = some word := by
  have hverbatim : Verbatim text := verbatim_of_lower hlower (hplain word hmem)
  rw [ofVariable_eq_text hverbatim, toVariant?, hlower]
  cases hfound : words.find? fun known => lower known == word with
  | none =>
    have hother := List.find?_eq_none.1 hfound word hmem
    rw [(hplain word hmem).2.1, beq_self_eq_true] at hother
    exact absurd rfl hother
  | some known =>
    -- plain words are in lower case already
    have hsame := List.find?_some hfound
    rw [beq_iff_eq, (hplain known (List.mem_of_find?_eq_some hfound)).2.1] at hsame
    rw [hsame]

end Setting

end GraphServe
