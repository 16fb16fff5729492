import GraphServe.Numeric.Binary

/-!
# Call statistics

A backend counts successful and failed calls and adds up the time of the successful ones, in
milliseconds as 64-bit floating-point patterns. Each step rounds once, so equal histories give
equal patterns.
-/

namespace GraphServe

open Numeric (Format)

/-- A span of time in nanoseconds. -/
structure Duration where
  nanoseconds : Nat
deriving DecidableEq, Repr

namespace Duration

/-- A number of milliseconds. -/
def ofMilliseconds (n : Nat) : Duration := ⟨n * 1000000⟩

/-- Whole seconds plus the rest over `10 ^ 9`, each rounded, as a floating-point pattern. -/
def seconds (d : Duration) : Nat :=
  -- whole seconds and the rest are rounded apart and then added
  let fraction :=
    Format.binary64.div (Format.binary64.ofInt (d.nanoseconds % 1000000000 : Nat))
      (Format.binary64.ofInt 1000000000)
  Format.binary64.add (Format.binary64.ofInt (d.nanoseconds / 1000000000 : Nat)) fraction

/-- The rounded product of the seconds and one thousand. -/
def milliseconds (d : Duration) : UInt64 :=
  UInt64.ofNat (Format.binary64.mul d.seconds (Format.binary64.ofInt 1000))

end Duration

/-- Running counters of a backend. -/
structure Stats where
  total : Nat
  failed : Nat
  lastMilliseconds : UInt64
  sumMilliseconds : UInt64
deriving DecidableEq, Repr

namespace Stats

/-- No calls yet. -/
def zero : Stats := ⟨0, 0, 0, 0⟩

/-- Counts a successful call that took the given time. -/
def recordSuccess (s : Stats) (elapsed : Duration) : Stats :=
  { s with
    total := s.total + 1
    lastMilliseconds := elapsed.milliseconds
    sumMilliseconds :=
      UInt64.ofNat
        (Format.binary64.add s.sumMilliseconds.toNat elapsed.milliseconds.toNat) }

/-- Counts a failed call. -/
def recordFailure (s : Stats) : Stats := { s with failed := s.failed + 1 }

/-- The mean time of the successful calls, zero if there was none. -/
def averageMilliseconds (s : Stats) : UInt64 :=
  if s.total = 0 then 0
  else
    UInt64.ofNat
      (Format.binary64.div s.sumMilliseconds.toNat (Format.binary64.ofInt s.total))

end Stats

end GraphServe
