import GraphServe.Proofs.EngineFile.Reading
import GraphServe.Proofs.Tensor.Size

/-!
# What the tensor table takes

The reader of a table takes the rows that are written of as many tensors as it is asked for, if
these are within the limits of the format, and no other bytes (`recognizes_readTable`). A size is
read back as it was written if it is positive as a signed number (`toInt64_pos_iff`), and one size
is written as the mark of a named axis (`toInt64_eq_dynamicMark_iff`).
-/

namespace GraphServe

/-! ## Limits of the format -/

/-- A text that a file can hold as a name. -/
structure EngineFile.Nameable (text : String) : Prop where
  ne_empty : text ≠ ""
  length_le : (Text.Utf8.encode text).length ≤ EngineFile.maxTextLength

instance (text : String) : Decidable (EngineFile.Nameable text) :=
  decidable_of_iff (text ≠ "" ∧ (Text.Utf8.encode text).length ≤ EngineFile.maxTextLength)
    ⟨fun h => ⟨h.1, h.2⟩, fun h => ⟨h.1, h.2⟩⟩

/-- An axis that a file can hold: a positive size below the sign bit, or a name. -/
def Axis.WithinLimits : Axis → Prop
  | .fixed size => 0 < size.toNat ∧ size.toNat < 9223372036854775808
  | .dynamic symbol => EngineFile.Nameable symbol

instance : (a : Axis) → Decidable a.WithinLimits
  | .fixed size => inferInstanceAs (Decidable (0 < size.toNat ∧ size.toNat < 9223372036854775808))
  | .dynamic symbol => inferInstanceAs (Decidable (EngineFile.Nameable symbol))

/-- A tensor that a file can hold. -/
structure Descriptor.WithinLimits (d : Descriptor) : Prop where
  name : EngineFile.Nameable d.name
  rank_le : d.shape.rank ≤ EngineFile.maxRank
  axes : ∀ a ∈ d.shape.axes, a.WithinLimits

instance (d : Descriptor) : Decidable d.WithinLimits :=
  decidable_of_iff (EngineFile.Nameable d.name ∧ d.shape.rank ≤ EngineFile.maxRank ∧
    ∀ a ∈ d.shape.axes, a.WithinLimits)
    ⟨fun h => ⟨h.1, h.2.1, h.2.2⟩, fun h => ⟨h.1, h.2, h.3⟩⟩

namespace EngineFile

/-! ## Signed sizes -/

theorem toInt64_pos_iff (size : UInt64) : 0 < size.toInt64 ↔ (Axis.fixed size).WithinLimits := by
  have hzero : (0 : Int64).toInt = 0 := rfl
  have hbound := size.toNat_lt
  rw [Int64.lt_iff_toInt_lt, toInt_toInt64, hzero, Axis.WithinLimits]
  grind

theorem toInt64_eq_dynamicMark_iff (size : UInt64) :
    size.toInt64 = dynamicMark ↔ size.toNat = 18446744073709551615 := by
  have hmark : dynamicMark.toInt = -1 := rfl
  have hbound := size.toNat_lt
  rw [← Int64.toInt_inj, toInt_toInt64, hmark]
  grind

/-! ## Entries -/

theorem isEmpty_ne_true_iff {text : String} : ¬ text.isEmpty = true ↔ text ≠ "" := by
  rw [String.isEmpty_iff]

theorem recognizes_readDirection (name : String) :
    Recognizes (readDirection name) (Written (fun d => [directionByte d]) fun _ => True) := by
  refine ((recognizes_readNat 1).bind fun mode _ _ => (?_ : Recognizes _ fun bytes d =>
    bytes = [] ∧ mode = (directionByte d).toNat)).congr fun bytes d => ?_
  · match mode with
    | 0 =>
      refine (recognizes_pure Direction.input).congr fun bytes d => ?_
      cases d <;> simp [directionByte]
    | 1 =>
      refine (recognizes_pure Direction.output).congr fun bytes d => ?_
      cases d <;> simp [directionByte]
    | mode + 2 =>
      refine (recognizes_throw (.content _)).congr fun bytes d => ?_
      cases d <;> simp [directionByte]
  · constructor
    · rintro ⟨_, _, _, ⟨rfl, -⟩, ⟨rfl, rfl⟩, rfl⟩
      cases d <;> exact ⟨rfl, trivial⟩
    · rintro ⟨rfl, -⟩
      refine ⟨_, _, [], ⟨rfl, (directionByte d).toNat_lt⟩, ⟨rfl, rfl⟩, ?_⟩
      cases d <;> rfl

theorem recognizes_readDataType (name : String) :
    Recognizes (readDataType name) (Written (fun t => littleEndian 4 t.id) fun _ => True) := by
  refine ((recognizes_readNat 4).bind fun id _ _ => (?_ : Recognizes _ fun bytes t =>
    bytes = [] ∧ DataType.ofId? id = some t)).congr fun bytes t => ?_
  · cases hid : DataType.ofId? id with
    | some t => exact (recognizes_pure t).congr fun bytes t' => by simp [eq_comm]
    | none => exact (recognizes_throw (.content _)).congr fun bytes t => by simp
  · constructor
    · rintro ⟨id, _, _, ⟨rfl, -⟩, ⟨rfl, hid⟩, rfl⟩
      rw [← DataType.id_eq_of_ofId hid, List.append_nil]
      exact ⟨rfl, trivial⟩
    · rintro ⟨rfl, -⟩
      have hid : t.id < Nat.pow 256 4 := by cases t <;> decide
      exact ⟨t.id, _, [], ⟨rfl, hid⟩, ⟨rfl, DataType.ofId_id t⟩, by simp⟩

/-- What may follow the size of an axis: a name behind the mark, and nothing behind a positive
size. -/
def AxisTail (size : Int64) (bytes : Bytes) (axis : Axis) : Prop :=
  (size = dynamicMark ∧ ∃ symbol, axis = .dynamic symbol ∧ bytes = writeText symbol ∧
      Nameable symbol) ∨
    (0 < size ∧ axis = .fixed size.toUInt64 ∧ bytes = [])

theorem written_axisBytes_iff (bytes : Bytes) (a : Axis) :
    Written axisBytes Axis.WithinLimits bytes a ↔
      ∃ size tail, bytes = writeSigned size ++ tail ∧ AxisTail size tail a := by
  constructor
  · rintro ⟨rfl, ha⟩
    cases a with
    | fixed size =>
      refine ⟨size.toInt64, [], (List.append_nil _).symm, Or.inr ⟨?_, ?_, rfl⟩⟩
      · exact (toInt64_pos_iff size).2 ha
      · rw [UInt64.toUInt64_toInt64]
    | dynamic symbol => exact ⟨dynamicMark, _, rfl, Or.inl ⟨rfl, symbol, rfl, rfl, ha⟩⟩
  · rintro ⟨size, tail, rfl, ⟨rfl, symbol, rfl, rfl, hsymbol⟩ | ⟨hpos, rfl, rfl⟩⟩
    · exact ⟨rfl, hsymbol⟩
    · have hback : size.toUInt64.toInt64 = size := Int64.toInt64_toUInt64 size
      refine ⟨?_, ?_⟩
      · rw [axisBytes, hback, List.append_nil]
      · rwa [← toInt64_pos_iff, hback]

theorem recognizes_readAxis (name : String) (axis : Nat) :
    Recognizes (readAxis name axis) (Written axisBytes Axis.WithinLimits) := by
  -- the size decides what is read behind it
  refine (recognizes_readSigned.bind fun size _ _ => (?_ : Recognizes _ (AxisTail size))).congr
    fun bytes a => ?_
  · by_cases hmark : size = dynamicMark
    · have hpos : ¬ 0 < size := by
        rw [hmark]
        decide
      rw [if_pos hmark]
      refine (recognizes_readText.bind fun symbol _ _ =>
        .guard (.content _) (recognizes_pure (Axis.dynamic symbol))).congr fun bytes a => ?_
      rw [AxisTail]
      constructor
      · rintro ⟨symbol, _, _, ⟨rfl, hlength⟩, ⟨hempty, rfl, rfl⟩, rfl⟩
        exact Or.inl ⟨hmark, symbol, rfl, by simp, isEmpty_ne_true_iff.1 hempty, hlength⟩
      · rintro (⟨-, symbol, rfl, rfl, hsymbol⟩ | ⟨h, -, -⟩)
        · exact ⟨symbol, _, [], ⟨rfl, hsymbol.length_le⟩,
            ⟨isEmpty_ne_true_iff.2 hsymbol.ne_empty, rfl, rfl⟩, by simp⟩
        · exact (hpos h).elim
    · rw [if_neg hmark]
      by_cases hpos : 0 < size
      · rw [if_pos hpos]
        refine (recognizes_pure _).congr fun bytes a => ?_
        simp [AxisTail, hmark, hpos, and_comm]
      · rw [if_neg hpos]
        refine (recognizes_throw (.content _)).congr fun bytes a => ?_
        simp [AxisTail, hmark, hpos]
  · rw [written_axisBytes_iff]
    constructor
    · rintro ⟨size, _, tail, ⟨rfl, -⟩, htail, rfl⟩
      exact ⟨size, tail, rfl, htail⟩
    · rintro ⟨size, tail, rfl, htail⟩
      exact ⟨size, _, tail, ⟨rfl, trivial⟩, htail, rfl⟩

theorem recognizes_readAxes (name : String) (axis count : Nat) :
    Recognizes (readAxes name axis count) (WrittenRow axisBytes Axis.WithinLimits count) := by
  induction count generalizing axis with
  | zero => exact recognizes_nil _ _
  | succ count ih => exact (recognizes_readAxis name axis).cons (ih (axis + 1))

/-- Axes that make a declared shape are its axes. -/
theorem ofAxes_eq_ok_iff {axes : List Axis} {shape : DeclaredShape} :
    DeclaredShape.ofAxes axes = .ok shape ↔ shape.axes = axes := by
  constructor
  · intro h
    rw [DeclaredShape.ofAxes] at h
    split at h <;> cases h
    rfl
  · rintro rfl
    rw [DeclaredShape.ofAxes]
    split
    · next i hzero =>
      obtain ⟨hlt, hi, -⟩ := List.findIdx?_eq_some_iff_getElem.1 hzero
      have hfixed : shape.axes[i] = .fixed 0 := by simpa using hi
      exact (shape.fixed_ne_zero (hfixed ▸ List.getElem_mem hlt)).elim
    · rfl

theorem recognizes_readEntry :
    Recognizes readEntry (Written entryBytes Descriptor.WithinLimits) := by
  refine (recognizes_readText.bind fun name _ _ => .guard (.content _)
    ((recognizes_readDirection name).bind fun direction _ _ =>
      (recognizes_readDataType name).bind fun dtype _ _ =>
        (recognizes_readNat 4).bind fun rank _ _ => .guard (.content _)
          ((recognizes_readAxes name 0 rank).bind fun axes _ _ =>
            recognizes_of_result (DeclaredShape.ofAxes axes) (Descriptor.mk name direction dtype)
              (fun shape h => by rw [h]) fun fault h => ⟨_, by rw [h]⟩))).congr fun bytes d => ?_
  constructor
  · rintro ⟨name, _, _, ⟨rfl, hlength⟩, ⟨hempty, direction, _, _, ⟨rfl, -⟩, ⟨dtype, _, _, ⟨rfl, -⟩,
      ⟨rank, _, _, ⟨rfl, -⟩, ⟨hrank, axes, _, _, ⟨rfl, rfl, haxes⟩, ⟨rfl, shape, hshape, rfl⟩, rfl⟩,
        rfl⟩, rfl⟩, rfl⟩, rfl⟩
    obtain rfl := ofAxes_eq_ok_iff.1 hshape
    exact ⟨by simp [entryBytes, DeclaredShape.rank], ⟨isEmpty_ne_true_iff.1 hempty, hlength⟩,
      Nat.le_of_not_lt hrank, haxes⟩
  · rintro ⟨rfl, ⟨hempty, hlength⟩, hrank, haxes⟩
    -- a rank within the limit fits its field
    have hlimit : maxRank < Nat.pow 256 4 := by decide
    exact ⟨d.name, _, _, ⟨rfl, hlength⟩, ⟨isEmpty_ne_true_iff.2 hempty, d.direction, _, _,
      ⟨rfl, trivial⟩, ⟨d.dtype, _, _, ⟨rfl, trivial⟩, ⟨d.shape.rank, _, _, ⟨rfl, by omega⟩,
        ⟨by omega, d.shape.axes, _, [], ⟨rfl, rfl, haxes⟩,
          ⟨rfl, d.shape, ofAxes_eq_ok_iff.2 rfl, rfl⟩, rfl⟩, rfl⟩, rfl⟩, rfl⟩, by simp [entryBytes]⟩

theorem recognizes_readTable (count : Nat) :
    Recognizes (readTable count) (WrittenRow entryBytes Descriptor.WithinLimits count) := by
  induction count with
  | zero => exact recognizes_nil _ _
  | succ count ih => exact recognizes_readEntry.cons ih

end EngineFile
end GraphServe
