/-!
# Durations

Durations and points in time are natural numbers of nanoseconds.  A duration is
scaled by a binary floating-point factor: the duration in seconds is rounded to
such a number, multiplied, and the product is rounded to the nearest
nanosecond, a half going to the even neighbour.
-/

namespace Blockwise

namespace Duration

/-- Nanoseconds in a second. -/
def perSecond : Nat := 1000000000

/-- So many seconds. -/
def seconds (count : Nat) : Nat := count * perSecond

/-- So many milliseconds. -/
def milliseconds (count : Nat) : Nat := count * 1000000

/-- The whole seconds of a duration. -/
def wholeSeconds (duration : Nat) : Nat := duration / perSecond

/-- The nanoseconds beyond the whole seconds. -/
def subsecond (duration : Nat) : Nat := duration % perSecond

/-- A duration has fewer seconds than this. -/
def secondLimit : Nat := UInt64.size

/-! ## Rounding -/

/-- A quotient rounded to the nearest number, a half to the even neighbour. -/
def roundQuotient (numerator denominator : Nat) : Nat :=
  let quotient := numerator / denominator
  let double := 2 * (numerator % denominator)
  if double < denominator then quotient
  else if denominator < double then quotient + 1
  else quotient + quotient % 2

/-- The size of a finite floating-point number, its sign left out, as a whole
number times a power of two: `(m, up, down)` stands for `m * 2^up / 2^down`. -/
def parts (value : Float) : Nat × Nat × Nat :=
  let bits := value.toBits.toNat % (1 <<< 63)
  let exponent := bits / (1 <<< 52)
  let fraction := bits % (1 <<< 52)
  if exponent = 0 then (fraction, 0, 1074)
  else (fraction + (1 <<< 52), exponent - 1075, 1075 - exponent)

/-- The duration of so many seconds to the nearest nanosecond, or nothing if
that is too long. -/
def ofSeconds? (seconds : Float) : Option Nat :=
  let (whole, up, down) := parts seconds
  let duration := roundQuotient ((whole <<< up) * perSecond) (1 <<< down)
  if duration / perSecond < secondLimit then some duration else none

/-! ## Scaling -/

/-- A duration in seconds, as a floating-point number. -/
def toSeconds (duration : Nat) : Float :=
  (UInt64.ofNat (wholeSeconds duration)).toFloat
    + (UInt64.ofNat (subsecond duration)).toFloat / 1000000000.0

/-- The largest factor that a duration is scaled by. -/
def maxFactor : Float := 1000.0

/-- A factor brought between zero and the largest one; what is not a number
counts as one. -/
def clampFactor (factor : Float) : Float :=
  if factor.isNaN then 1.0
  else if factor < 0.0 then 0.0
  else if maxFactor < factor then maxFactor
  else factor

/-- A duration scaled by a factor from zero to the largest one, or nothing if
the result is too long. -/
def scale? (factor : Float) (duration : Nat) : Option Nat :=
  ofSeconds? (clampFactor factor * toSeconds duration)

end Duration
end Blockwise
