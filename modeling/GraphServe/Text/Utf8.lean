import GraphServe.Bytes

/-!
# UTF-8

Text is stored as UTF-8. `Utf8.decode` accepts exactly the shortest encodings of scalar values and
reports the first place where a byte string leaves them: how many bytes of a bad sequence could
still have started a character, or that the data end inside one.
-/

namespace GraphServe.Text

/-- How a byte string fails to be UTF-8. -/
inductive Utf8Fault where
  /-- The `length` bytes at `index` cannot begin any character. -/
  | invalid (index length : Nat)
  /-- The data end inside the character that begins at `index`. -/
  | incomplete (index : Nat)
deriving DecidableEq, Repr

/-- The wording of a fault. -/
def Utf8Fault.message : Utf8Fault → String
  | .invalid index length => s!"invalid utf-8 sequence of {length} bytes from index {index}"
  | .incomplete index => s!"incomplete utf-8 byte sequence from index {index}"

namespace Utf8

/-- The bytes of one character. -/
def encodeChar (c : Char) : Bytes :=
  let n := c.toNat
  if n < 0x80 then [UInt8.ofNat n]
  else if n < 0x800 then [UInt8.ofNat (0xC0 + n / 64), UInt8.ofNat (0x80 + n % 64)]
  else if n < 0x10000 then
    [UInt8.ofNat (0xE0 + n / 4096), UInt8.ofNat (0x80 + n / 64 % 64), UInt8.ofNat (0x80 + n % 64)]
  else
    [UInt8.ofNat (0xF0 + n / 262144), UInt8.ofNat (0x80 + n / 4096 % 64),
      UInt8.ofNat (0x80 + n / 64 % 64), UInt8.ofNat (0x80 + n % 64)]

/-- The bytes of a text. -/
def encode (s : String) : Bytes := s.toList.flatMap encodeChar

/-- What the first byte of a longer character says: how many bytes follow, and the range the first
of them must lie in, which excludes overlong forms, surrogates and numbers past the last plane. -/
def following (lead : UInt8) : Option (Nat × UInt8 × UInt8) :=
  if lead < 0xC2 then none
  else if lead < 0xE0 then some (1, 0x80, 0xBF)
  else if lead = 0xE0 then some (2, 0xA0, 0xBF)
  else if lead = 0xED then some (2, 0x80, 0x9F)
  else if lead < 0xF0 then some (2, 0x80, 0xBF)
  else if lead = 0xF0 then some (3, 0x90, 0xBF)
  else if lead < 0xF4 then some (3, 0x80, 0xBF)
  else if lead = 0xF4 then some (3, 0x80, 0x8F)
  else none

/-- A byte that continues a character. -/
def isContinuation (b : UInt8) : Bool := 0x80 ≤ b && b ≤ 0xBF

/-- The six payload bits of a continuation byte. -/
def payload (b : UInt8) : Nat := b.toNat % 64

/-- The characters of a byte string that starts at `index` of the whole. -/
def decodeFrom (index : Nat) : Bytes → Except Utf8Fault (List Char)
  | [] => .ok []
  | a :: rest =>
    if a < 0x80 then (Char.ofNat a.toNat :: ·) <$> decodeFrom (index + 1) rest
    else
      match following a with
      | none => .error (.invalid index 1)
      | some (count, low, high) =>
        match rest with
        | [] => .error (.incomplete index)
        | b :: rest =>
          if b < low || high < b then .error (.invalid index 1)
          else if count = 1 then
            (Char.ofNat (a.toNat % 32 * 64 + payload b) :: ·) <$> decodeFrom (index + 2) rest
          else
            match rest with
            | [] => .error (.incomplete index)
            | c :: rest =>
              if !isContinuation c then .error (.invalid index 2)
              else if count = 2 then
                (Char.ofNat (a.toNat % 16 * 4096 + payload b * 64 + payload c) :: ·) <$>
                  decodeFrom (index + 3) rest
              else
                match rest with
                | [] => .error (.incomplete index)
                | d :: rest =>
                  if !isContinuation d then .error (.invalid index 3)
                  else
                    (Char.ofNat
                      (a.toNat % 8 * 262144 + payload b * 4096 + payload c * 64 + payload d) :: ·)
                      <$> decodeFrom (index + 4) rest

/-- The text a byte string encodes. -/
def decode (bytes : Bytes) : Except Utf8Fault String :=
  String.ofList <$> decodeFrom 0 bytes

end Utf8

end GraphServe.Text
