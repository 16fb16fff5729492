import GraphServe.Proofs.EngineFile.Canonical

/-!
# Files that end too early

A reader that fails fails in the same way however the data go on, unless it came to their end
(`Persistent`): more bytes can turn that one failure into another result, and no other. So a proper
part from the start of a written file is read as the whole file is until it runs dry, and is refused
as a graph that cannot be loaded, with a reason that tells where it was cut (`openBytes_truncated`).
-/

namespace GraphServe.EngineFile

variable {α β : Type}

/-! ## Failures that further data do not mend -/

/-- A reader that fails before the end of the data fails in the same way if more data follow. -/
def Persistent (read : Reader α) : Prop :=
  ∀ ⦃start e stop⦄, read start = (.error e, stop) → e = .io .endOfData ∨
    ∀ more, ∃ stop', read ⟨start.rest ++ more, start.position⟩ = (.error e, stop')

/-- What was taken is taken again if more data follow, and these are left. -/
theorem Recognizes.resumes {read : Reader α} {language : Bytes → α → Prop}
    (h : Recognizes read language) {start stop : Cursor} {a : α} (hread : read start = (.ok a, stop))
    (more : Bytes) :
    read ⟨start.rest ++ more, start.position⟩ = (.ok a, ⟨stop.rest ++ more, stop.position⟩) := by
  obtain ⟨bytes, hbytes, hrest, hposition⟩ := h.taken hread
  rw [hrest, hposition, List.append_assoc]
  exact h.takes hbytes _ _

theorem persistent_pure (a : α) : Persistent (pure a : Reader α) := by
  intro start e stop h
  cases h

theorem persistent_throw (e : EngineError) : Persistent (throw e : Reader α) := by
  intro start e' stop h
  cases h
  exact Or.inr fun more => ⟨_, rfl⟩

/-- One reader after another: a failure of the first is its own, and the second begins at the same
place whatever follows. -/
theorem Persistent.bind {read : Reader α} {next : α → Reader β} {language : Bytes → α → Prop}
    (hread : Persistent read) (hlanguage : Recognizes read language)
    (hnext : ∀ a, Persistent (next a)) : Persistent (read >>= next) := by
  intro start e stop h
  rcases bind_eq_error_cases h with hfirst | ⟨a, middle, hfirst, hsecond⟩
  · refine (hread hfirst).imp_right fun hagain more => ?_
    obtain ⟨stop', hstop'⟩ := hagain more
    exact ⟨stop', by rw [bind_apply, hstop']⟩
  · refine (hnext a hsecond).imp_right fun hagain more => ?_
    obtain ⟨stop', hstop'⟩ := hagain more
    exact ⟨stop', by rw [bind_apply, hlanguage.resumes hfirst more]; exact hstop'⟩

/-- A check does not look at the data. -/
theorem Persistent.guard {c : Prop} [Decidable c] {e : EngineError} {rest : Unit → Reader β}
    (hrest : Persistent (rest ())) : Persistent (if c then throw e >>= rest else rest ()) := by
  by_cases hc : c
  · rw [if_pos hc]
    exact persistent_throw e
  · rw [if_neg hc]
    exact hrest

/-! ## Fields -/

theorem persistent_readBytes (count : Nat) : Persistent (readBytes count) := by
  intro start e stop h
  rw [readBytes] at h
  split at h <;> cases h
  exact Or.inl rfl

theorem persistent_readNat (width : Nat) : Persistent (readNat width) :=
  (persistent_readBytes width).bind (recognizes_readBytes width) fun _ => persistent_pure _

theorem persistent_readSigned : Persistent readSigned :=
  (persistent_readNat 8).bind (recognizes_readNat 8) fun _ => persistent_pure _

theorem persistent_readText : Persistent readText := by
  refine (persistent_readNat 8).bind (recognizes_readNat 8) fun length => .guard ?_
  refine (persistent_readBytes length).bind (recognizes_readBytes length) fun found => ?_
  cases Text.Utf8.decode found with
  | ok text => exact persistent_pure text
  | error fault => exact persistent_throw _

theorem persistent_readHeader : Persistent readHeader := by
  refine (persistent_readBytes 4).bind (recognizes_readBytes 4) fun found => .guard ?_
  refine (persistent_readNat 4).bind (recognizes_readNat 4) fun fileVersion => .guard ?_
  refine (persistent_readNat 4).bind (recognizes_readNat 4) fun count => ?_
  exact persistent_readText.bind recognizes_readText fun kernel => .guard (persistent_pure _)

/-! ## The table -/

theorem persistent_readDirection (name : String) : Persistent (readDirection name) := by
  refine (persistent_readNat 1).bind (recognizes_readNat 1) fun mode => ?_
  match mode with
  | 0 => exact persistent_pure _
  | 1 => exact persistent_pure _
  | mode + 2 => exact persistent_throw _

theorem persistent_readDataType (name : String) : Persistent (readDataType name) := by
  refine (persistent_readNat 4).bind (recognizes_readNat 4) fun id => ?_
  cases DataType.ofId? id with
  | some dtype => exact persistent_pure dtype
  | none => exact persistent_throw _

theorem persistent_readAxis (name : String) (axis : Nat) : Persistent (readAxis name axis) := by
  refine persistent_readSigned.bind recognizes_readSigned fun size => ?_
  by_cases hmark : size = dynamicMark
  · rw [if_pos hmark]
    exact persistent_readText.bind recognizes_readText fun symbol => .guard (persistent_pure _)
  · rw [if_neg hmark]
    by_cases hpos : 0 < size
    · rw [if_pos hpos]
      exact persistent_pure _
    · rw [if_neg hpos]
      exact persistent_throw _

theorem persistent_readAxes (name : String) (axis count : Nat) :
    Persistent (readAxes name axis count) := by
  induction count generalizing axis with
  | zero => exact persistent_pure _
  | succ count ih =>
    refine (persistent_readAxis name axis).bind (recognizes_readAxis name axis) fun first => ?_
    exact (ih (axis + 1)).bind (recognizes_readAxes name (axis + 1) count) fun _ => persistent_pure _

theorem persistent_readEntry : Persistent readEntry := by
  refine persistent_readText.bind recognizes_readText fun name => .guard ?_
  refine (persistent_readDirection name).bind (recognizes_readDirection name) fun direction => ?_
  refine (persistent_readDataType name).bind (recognizes_readDataType name) fun dtype => ?_
  refine (persistent_readNat 4).bind (recognizes_readNat 4) fun rank => .guard ?_
  refine (persistent_readAxes name 0 rank).bind (recognizes_readAxes name 0 rank) fun axes => ?_
  cases DeclaredShape.ofAxes axes with
  | ok shape => exact persistent_pure _
  | error fault => exact persistent_throw _

theorem persistent_readTable (count : Nat) : Persistent (readTable count) := by
  induction count with
  | zero => exact persistent_pure _
  | succ count ih =>
    refine persistent_readEntry.bind recognizes_readEntry fun first => ?_
    exact ih.bind (recognizes_readTable count) fun _ => persistent_pure _

theorem persistent_readLayout : Persistent readLayout := by
  refine persistent_readHeader.bind recognizes_readHeader fun header => ?_
  refine (persistent_readTable _).bind (recognizes_readTable _) fun tensors => ?_
  exact (persistent_readNat 8).bind (recognizes_readNat 8) fun length => persistent_pure _

/-! ## Files that were cut off -/

/-- Why the first `length` bytes of a file do not load, if they are not the whole file: they are too
few to look at, they end inside a field, or they end before the payload does. -/
def Contents.truncation (c : Contents) (length : Nat) : String :=
  if length < 4 then s!"truncated engine file: {length} bytes"
  else if length < c.tableBytes.length then s!"truncated engine file: {ReadFault.endOfData.message}"
  else s!"payload of {c.payload.length} bytes at offset {alignUp c.tableBytes.length} extends past end of file ({length} bytes)"

/-- The fields in front of the payload take the table and nothing else, whatever follows it. -/
theorem Contents.WithinLimits.readLayout_tableBytes {c : Contents} (hc : c.WithinLimits)
    (rest : Bytes) :
    readLayout (Cursor.start (c.tableBytes ++ rest)) =
      (.ok (⟨version, UInt32.ofNat c.tensors.length, c.kernel⟩, c.tensors, c.payload.length),
        ⟨rest, c.tableBytes.length⟩) := by
  have hread := recognizes_readLayout.takes hc.layout rest 0
  rwa [Nat.zero_add] at hread

/-- A table that is not there in full is read up to the end of the data. -/
theorem readLayout_of_cut_table {c : Contents} (hc : c.WithinLimits) {front more rest : Bytes}
    (hfront : front ++ more = c.tableBytes ++ rest) (hcut : front.length < c.tableBytes.length) :
    ∃ stop, readLayout (Cursor.start front) = (.error (.io .endOfData), stop) := by
  have hwhole := hc.readLayout_tableBytes rest
  rw [← hfront] at hwhole
  cases hread : readLayout (Cursor.start front) with
  | mk result stop =>
    cases result with
    | ok layout =>
      -- the same fields would be taken of the whole, and they end behind the cut
      have hagain := recognizes_readLayout.resumes hread more
      obtain ⟨bytes, -, hrest, hposition⟩ := recognizes_readLayout.taken hread
      have hfits := congrArg List.length hrest
      have hend := congrArg (·.2.position) (hwhole.symm.trans hagain)
      simp only [Cursor.start, List.length_append] at hfits hposition hend
      omega
    | error e =>
      rcases persistent_readLayout hread with rfl | hagain
      · exact ⟨stop, rfl⟩
      · obtain ⟨stop', hstop'⟩ := hagain more
        have hfails : readLayout (Cursor.start (front ++ more)) = (.error e, stop') := hstop'
        rw [hwhole] at hfails
        cases hfails

/-- No proper part from the start of a written file loads, wherever it is cut: inside the magic bytes
or a number, a text or its length, the length of the payload, the padding or the payload. It is
refused as a graph that cannot be loaded, and the reason tells which part was missing. -/
theorem openBytes_truncated {c : Contents} {front : Bytes} (hc : c.WithinLimits)
    (hfront : front <+: c.toBytes) (hne : front ≠ c.toBytes) :
    openBytes front = .error (.graphLoad (c.truncation front.length)) := by
  obtain ⟨more, hmore⟩ := hfront
  have hlt : front.length < c.toBytes.length := by
    have hmore_pos : 0 < more.length := by
      rw [List.length_pos_iff]
      rintro rfl
      exact hne (by rw [← hmore, List.append_nil])
    rw [← hmore, List.length_append]
    omega
  have hheld := c.heldBy_toBytes
  rw [openBytes, Contents.truncation]
  by_cases hfour : front.length < 4
  · rw [if_pos hfour, if_pos hfour]
  rw [if_neg hfour, if_neg hfour]
  by_cases hcut : front.length < c.tableBytes.length
  · rw [if_pos hcut]
    have hwhole := hmore
    rw [Contents.toBytes, List.append_assoc] at hwhole
    obtain ⟨stop, hread⟩ := readLayout_of_cut_table hc hwhole hcut
    rw [hread]
    rfl
  · rw [if_neg hcut]
    -- the table is whole, so that the length of the payload is known and too large
    have htable : front = c.tableBytes ++ front.drop c.tableBytes.length := by
      have htake : front.take c.tableBytes.length = c.tableBytes := by
        rw [← List.take_append_of_le_length (Nat.le_of_not_lt hcut), hmore, hheld.take_table]
      calc front = front.take c.tableBytes.length ++ front.drop c.tableBytes.length :=
            (List.take_append_drop ..).symm
        _ = _ := by rw [htake]
    have hshort : ¬ alignUp c.tableBytes.length + c.payload.length ≤ front.length := by
      have hlength := hheld.length_eq
      rw [List.length_nil] at hlength
      omega
    have hread := hc.readLayout_tableBytes (front.drop c.tableBytes.length)
    rw [← htable] at hread
    rw [hread]
    simp only
    rw [if_neg hshort]

/-- The classifier's file, cut one byte short of where the payload begins. -/
theorem openBytes_truncated_classifier :
    classifier.WithinLimits ∧ classifier.toBytes.take 159 <+: classifier.toBytes ∧
      classifier.toBytes.take 159 ≠ classifier.toBytes ∧
      openBytes (classifier.toBytes.take 159) = .error (.graphLoad
        "payload of 4 bytes at offset 160 extends past end of file (159 bytes)") := by
  have hfront : classifier.toBytes.take 159 <+: classifier.toBytes := List.take_prefix ..
  have hne : classifier.toBytes.take 159 ≠ classifier.toBytes := by decide +kernel
  have hreason : classifier.truncation (classifier.toBytes.take 159).length =
      "payload of 4 bytes at offset 160 extends past end of file (159 bytes)" := by decide +kernel
  have hopen := openBytes_truncated classifier_withinLimits hfront hne
  rw [hreason] at hopen
  exact ⟨classifier_withinLimits, hfront, hne, hopen⟩

end GraphServe.EngineFile
