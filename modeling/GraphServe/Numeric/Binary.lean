/-!
# Binary floating-point formats

Bit patterns of the binary interchange formats, handled as natural numbers. A pattern decodes to a
datum whose finite case is an exact integer significand times a power of two, and every operation
computes exactly and rounds once, to nearest with ties to even (`Format.ofRatio`). Not-a-number
patterns keep their sign and the top of their payload and become quiet.
-/

namespace GraphServe.Numeric

/-- A binary interchange format, given by the widths of its fraction and exponent fields. -/
structure Format where
  fractionBits : Nat
  exponentBits : Nat
deriving DecidableEq, Repr

/-- The datum a bit pattern stands for. A finite datum is `significand * 2 ^ exponent` with a sign. -/
inductive Datum where
  | nan (negative : Bool) (payload : Nat)
  | infinite (negative : Bool)
  | finite (negative : Bool) (significand : Nat) (exponent : Int)
deriving DecidableEq, Repr

/-! ## Rounding -/

/-- The quotient `num / den`, rounded to the nearest integer with ties to even. -/
def roundHalfEven (num den : Nat) : Nat :=
  let quotient := num / den
  let remainder := num % den
  if 2 * remainder < den then quotient
  else if den < 2 * remainder then quotient + 1
  else quotient + quotient % 2

/-- The greatest integer `k` with `2 ^ k ≤ num / den`, for positive `num` and `den`. -/
def floorLog2 (num den : Nat) : Int :=
  let guess : Int := (num.log2 : Int) - den.log2
  if den <<< guess.toNat ≤ num <<< (-guess).toNat then guess else guess - 1

/-! ## Formats

The patterns of a format: the fields of a pattern, the datum it stands for, and the pattern nearest to
a rational number. -/

namespace Format

/-- The 16-bit format. -/
def binary16 : Format := ⟨10, 5⟩

/-- The 32-bit format. -/
def binary32 : Format := ⟨23, 8⟩

/-- The 64-bit format. -/
def binary64 : Format := ⟨52, 11⟩

/-- Weight of the sign bit. -/
def signWeight (f : Format) : Nat := 1 <<< (f.fractionBits + f.exponentBits)

/-- The positive infinity. -/
def infinity (f : Format) : Nat := ((1 <<< f.exponentBits) - 1) <<< f.fractionBits

/-- The fraction bit that marks a quiet not-a-number. -/
def quietBit (f : Format) : Nat := 1 <<< (f.fractionBits - 1)

/-- Exponent of the last place of the smallest numbers. -/
def minExponent (f : Format) : Int :=
  2 - (1 <<< (f.exponentBits - 1) : Nat) - f.fractionBits

/-- Puts the sign bit on a magnitude. -/
def withSign (f : Format) (negative : Bool) (magnitude : Nat) : Nat :=
  if negative then f.signWeight + magnitude else magnitude

/-- The quiet not-a-number with the given sign and payload. -/
def quietNaN (f : Format) (negative : Bool) (payload : Nat) : Nat :=
  f.withSign negative (f.infinity + (payload ||| f.quietBit))

/-- The not-a-number produced by an invalid operation. -/
def invalid (f : Format) : Nat := f.quietNaN true 0

/-- The datum a bit pattern stands for. -/
def decode (f : Format) (bits : Nat) : Datum :=
  let negative := bits / f.signWeight % 2 == 1
  let field := (bits >>> f.fractionBits) % (1 <<< f.exponentBits)
  let fraction := bits % (1 <<< f.fractionBits)
  if field = (1 <<< f.exponentBits) - 1 then
    if fraction = 0 then .infinite negative else .nan negative fraction
  else if field = 0 then .finite negative fraction f.minExponent
  else .finite negative (fraction + (1 <<< f.fractionBits)) (f.minExponent + (field - 1 : Nat))

/-- The pattern nearest to `num / den`, ties to even, with the given sign; `den` is positive.
Adding the hidden bit of the significand to the exponent field carries a significand that rounds
up to the next power of two, and a magnitude past the largest number becomes the infinity. -/
def ofRatio (f : Format) (negative : Bool) (num den : Nat) : Nat :=
  if num = 0 then f.withSign negative 0
  else
    let exponent := max (floorLog2 num den - f.fractionBits) f.minExponent
    let significand := roundHalfEven (num <<< (-exponent).toNat) (den <<< exponent.toNat)
    let magnitude := ((exponent - f.minExponent).toNat <<< f.fractionBits) + significand
    f.withSign negative (min magnitude f.infinity)

/-- The pattern nearest to `significand * 2 ^ exponent`. -/
def ofScaled (f : Format) (negative : Bool) (significand : Nat) (exponent : Int) : Nat :=
  f.ofRatio negative (significand <<< exponent.toNat) (1 <<< (-exponent).toNat)

/-- The pattern nearest to an integer. -/
def ofInt (f : Format) (i : Int) : Nat := f.ofRatio (i < 0) i.natAbs 1

/-- The pattern of the target format nearest to a pattern of the source format. A payload keeps
its leading bits. -/
def convert (source target : Format) (bits : Nat) : Nat :=
  match source.decode bits with
  | .nan negative payload =>
    target.quietNaN negative
      ((payload <<< (target.fractionBits - source.fractionBits)) >>>
        (source.fractionBits - target.fractionBits))
  | .infinite negative => target.withSign negative target.infinity
  | .finite negative significand exponent => target.ofScaled negative significand exponent

/-! ## Arithmetic

Every operation works on the exact values and rounds the result once. -/

/-- The signed integer value of a significand. -/
def signed (negative : Bool) (significand : Nat) : Int :=
  if negative then -(significand : Int) else significand

/-- The rounded sum. The first operand that is not a number wins; a sum that vanishes is negative
only if both operands are. -/
def add (f : Format) (x y : Nat) : Nat :=
  match f.decode x, f.decode y with
  | .nan s p, _ => f.quietNaN s p
  | _, .nan s p => f.quietNaN s p
  | .infinite s, .infinite t => if s = t then f.withSign s f.infinity else f.invalid
  | .infinite s, _ => f.withSign s f.infinity
  | _, .infinite t => f.withSign t f.infinity
  | .finite s m d, .finite t n e =>
    let exponent := min d e
    let sum := signed s (m <<< (d - exponent).toNat) + signed t (n <<< (e - exponent).toNat)
    f.ofScaled (if sum = 0 then s && t else sum < 0) sum.natAbs exponent

/-- The rounded product. -/
def mul (f : Format) (x y : Nat) : Nat :=
  match f.decode x, f.decode y with
  | .nan s p, _ => f.quietNaN s p
  | _, .nan s p => f.quietNaN s p
  | .infinite s, .infinite t => f.withSign (s != t) f.infinity
  | .infinite s, .finite t n _ => if n = 0 then f.invalid else f.withSign (s != t) f.infinity
  | .finite s m _, .infinite t => if m = 0 then f.invalid else f.withSign (s != t) f.infinity
  | .finite s m d, .finite t n e => f.ofScaled (s != t) (m * n) (d + e)

/-- The rounded quotient. -/
def div (f : Format) (x y : Nat) : Nat :=
  match f.decode x, f.decode y with
  | .nan s p, _ => f.quietNaN s p
  | _, .nan s p => f.quietNaN s p
  | .infinite _, .infinite _ => f.invalid
  | .infinite s, .finite t _ _ => f.withSign (s != t) f.infinity
  | .finite s _ _, .infinite t => f.withSign (s != t) 0
  | .finite s m d, .finite t n e =>
    if n = 0 then
      if m = 0 then f.invalid else f.withSign (s != t) f.infinity
    else f.ofRatio (s != t) (m <<< (d - e).toNat) (n <<< (e - d).toNat)

/-- A pattern's place in the order of signs and magnitudes; both zeros have place zero. -/
def orderKey (f : Format) (bits : Nat) : Int :=
  if f.signWeight ≤ bits then -((bits - f.signWeight : Nat) : Int) else bits

/-- The order of numbers. Nothing is ordered with a not-a-number. -/
def lt (f : Format) (x y : Nat) : Bool :=
  match f.decode x, f.decode y with
  | .nan _ _, _ => false
  | _, .nan _ _ => false
  | _, _ => f.orderKey x < f.orderKey y

end Format

end GraphServe.Numeric
