/-!
# Cuts at byte places

A text is cut at a place that is counted in the bytes of its stored form. The two parts of a cut
make up the text (`takeBytes_append_dropBytes`). A character that the place falls into belongs to
the first part.
-/

namespace GraphServe.Text

/-- The number of bytes that characters take. -/
def byteCount : List Char → Nat
  | [] => 0
  | c :: chars => c.utf8Size + byteCount chars

/-- The characters in front of a place. -/
def takeBytes : Nat → List Char → List Char
  | 0, _ => []
  | _ + 1, [] => []
  | n + 1, c :: chars => c :: takeBytes (n + 1 - c.utf8Size) chars

/-- The characters behind a place. -/
def dropBytes : Nat → List Char → List Char
  | 0, chars => chars
  | _ + 1, [] => []
  | n + 1, c :: chars => dropBytes (n + 1 - c.utf8Size) chars

theorem takeBytes_append_dropBytes (n : Nat) (chars : List Char) :
    takeBytes n chars ++ dropBytes n chars = chars := by
  induction chars generalizing n with
  | nil => cases n <;> rfl
  | cons c chars ih =>
    cases n with
    | zero => rfl
    | succ n => simp [takeBytes, dropBytes, ih]

/-- Cutting behind a run of characters takes that run. -/
theorem takeBytes_byteCount (taken left : List Char) :
    takeBytes (byteCount taken) (taken ++ left) = taken := by
  induction taken with
  | nil => simp [byteCount, takeBytes]
  | cons c taken ih =>
    have size : 0 < c.utf8Size := c.utf8Size_pos
    obtain ⟨k, found⟩ : ∃ k, c.utf8Size + byteCount taken = k + 1 :=
      ⟨c.utf8Size + byteCount taken - 1, by omega⟩
    have more : k + 1 - c.utf8Size = byteCount taken := by omega
    simp only [byteCount, found, List.cons_append, takeBytes, more, ih]

end GraphServe.Text
