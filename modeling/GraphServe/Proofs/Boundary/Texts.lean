import GraphServe.Boundary.ModelText
import GraphServe.Boundary.Arguments
import GraphServe.Boundary.Output

/-!
# Texts that can be handed out

Texts end outside at a certain character, so only one without that character can be handed out
(`Tellable`). Numbers and the names of types can be. In JSON the character is escaped, and so the
description of a model can always be handed out, whatever its tensors are called
(`ModelInfo.tellable_toJson`).
-/

namespace GraphServe.Boundary

/-- A text without the character that ends texts outside. -/
def Tellable (text : String) : Prop := Complaint.terminator ∉ text.toList

instance (text : String) : Decidable (Tellable text) :=
  inferInstanceAs (Decidable (Complaint.terminator ∉ text.toList))

/-- A text that is spelled out can be told if no character of it ends texts. -/
theorem tellable_ofList {cs : List Char} (h : cs.all (· != Complaint.terminator) = true) :
    Tellable (String.ofList cs) := by
  intro hmem
  rw [String.toList_ofList] at hmem
  have hother := List.all_eq_true.1 h _ hmem
  exact bne_iff_ne.1 hother rfl

theorem Tellable.append {a b : String} (ha : Tellable a) (hb : Tellable b) :
    Tellable (a ++ b) := by
  intro hmem
  rw [String.toList_append] at hmem
  rcases List.mem_append.1 hmem with hmem | hmem
  · exact ha hmem
  · exact hb hmem

theorem tellable_toString (n : Nat) : Tellable (toString n) := by
  intro hmem
  rw [Nat.toString_eq_ofList_toDigits, String.toList_ofList] at hmem
  have hdigit := Nat.isDigit_of_mem_toDigits (by decide) (by decide) hmem
  revert hdigit
  decide

theorem tellable_utf8Fault (fault : Text.Utf8Fault) : Tellable fault.message := by
  cases fault with
  | invalid index length =>
    exact .append (.append (.append (tellable_ofList rfl) (tellable_toString length))
      (tellable_ofList rfl)) (tellable_toString index)
  | incomplete index => exact .append (tellable_ofList rfl) (tellable_toString index)

theorem tellable_hostType (type : HostType) : Tellable type.name := by
  cases type with
  | f32 => exact tellable_ofList rfl
  | i32 => exact tellable_ofList rfl
  | i64 => exact tellable_ofList rfl

/-! ## Documents -/

theorem tellable_toString_int (n : Int) : Tellable (toString n) := by
  cases n with
  | ofNat n => exact tellable_toString n
  | negSucc n => exact .append (tellable_ofList rfl) (tellable_toString (n + 1))

theorem tellable_intercalate {sep : String} (hsep : Tellable sep) {items : List String}
    (h : ∀ item ∈ items, Tellable item) : Tellable (sep.intercalate items) := by
  induction items with
  | nil => exact tellable_ofList rfl
  | cons first rest ih =>
    have hfirst := h first List.mem_cons_self
    have hrest := ih fun item hitem => h item (List.mem_cons_of_mem first hitem)
    cases rest with
    | nil =>
      rw [String.intercalate_singleton]
      exact hfirst
    | cons second rest =>
      rw [String.intercalate_cons_cons]
      exact .append (.append hfirst hsep) hrest

/-- What a character becomes in a JSON string holds no character that ends texts. -/
theorem terminator_notMem_escapeJson (c : Char) :
    Complaint.terminator ∉ Text.escapeJson c := by
  have hdigits : ∀ n < 0x20, Complaint.terminator ∉ Text.hexDigits 4 n := by decide
  unfold Text.escapeJson
  -- seven characters have an escape of their own
  iterate 7
    split
    · decide
  split
  · next hcontrol =>
    rw [List.mem_append]
    rintro (hmem | hmem)
    · revert hmem
      decide
    · exact hdigits _ hcontrol hmem
  · next hplain =>
    rw [List.mem_singleton]
    rintro rfl
    exact hplain (by decide)

theorem tellable_jsonString (s : String) : Tellable (Text.jsonString s) := by
  have hescaped : Tellable (String.ofList (s.toList.flatMap Text.escapeJson)) := by
    intro hmem
    rw [String.toList_ofList, List.mem_flatMap] at hmem
    obtain ⟨c, -, hc⟩ := hmem
    exact terminator_notMem_escapeJson c hc
  exact .append (.append (tellable_ofList rfl) hescaped) (tellable_ofList rfl)

theorem tellable_jsonList {items : List String} (h : ∀ item ∈ items, Tellable item) :
    Tellable (jsonList items) :=
  .append (.append (tellable_ofList rfl) (tellable_intercalate (tellable_ofList rfl) h))
    (tellable_ofList rfl)

theorem tellable_jsonRecord {members : List (String × String)}
    (h : ∀ member ∈ members, Tellable member.2) : Tellable (jsonRecord members) := by
  refine .append (.append (tellable_ofList rfl) ?_) (tellable_ofList rfl)
  apply tellable_intercalate (tellable_ofList rfl)
  intro text htext
  obtain ⟨member, hmem, rfl⟩ := List.mem_map.1 htext
  exact .append (.append (tellable_jsonString member.1) (tellable_ofList rfl)) (h member hmem)

end GraphServe.Boundary

namespace GraphServe

open Boundary

theorem LayerInfo.tellable_toJson (l : LayerInfo) : Tellable l.toJson := by
  apply tellable_jsonRecord
  simp only [List.forall_mem_cons, List.not_mem_nil, false_implies, implies_true, and_true]
  refine ⟨tellable_jsonString l.name, ?_, tellable_toString l.batchSize.toNat,
    tellable_jsonString l.dtype.name⟩
  apply tellable_jsonList
  intro size hsize
  obtain ⟨n, -, rfl⟩ := List.mem_map.1 hsize
  exact tellable_toString_int n.toInt

/-- The description of a model can be handed out. -/
theorem ModelInfo.tellable_toJson (m : ModelInfo) : Tellable m.toJson := by
  have hlayers : ∀ layers : List LayerInfo, Tellable (jsonList (layers.map LayerInfo.toJson)) := by
    intro layers
    apply tellable_jsonList
    intro text htext
    obtain ⟨l, -, rfl⟩ := List.mem_map.1 htext
    exact l.tellable_toJson
  apply tellable_jsonRecord
  simp only [List.forall_mem_cons, List.not_mem_nil, false_implies, implies_true, and_true]
  exact ⟨hlayers m.inputs, hlayers m.outputs⟩

end GraphServe
