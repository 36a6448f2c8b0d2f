/-!
# 64-bit floats as exact numbers

A float is read off its bits, as a sign and a magnitude for the order and as `± m * 2 ^ e` for
everything that has to be exact. The order below is the order of the reals on finite floats:
`rank` maps a float to an integer, so each comparison is one between integers.
-/

namespace DiagnosticReport.Binary64

/-! ## Sign, magnitude and order -/

/-- The bits of a float below its sign bit. -/
def magnitude (x : Float) : Nat :=
  x.toBits.toNat % Nat.pow 2 63

/-- The sign bit. -/
def isNegative (x : Float) : Bool :=
  Nat.pow 2 63 ≤ x.toBits.toNat

/-- The magnitude of the infinities; NaNs lie above it. -/
def infinite : Nat :=
  0x7FF0000000000000

/-- Neither an infinity nor a NaN. -/
def isFinite (x : Float) : Bool :=
  magnitude x < infinite

/-- Not a number. -/
def isNaN (x : Float) : Bool :=
  infinite < magnitude x

/-- The place of a float among all floats; both zeros have place 0. -/
def rank (x : Float) : Int :=
  if isNegative x then -(magnitude x : Int) else (magnitude x : Int)

/-- `x < y`; false if either is a NaN. -/
def less (x y : Float) : Bool :=
  !isNaN x && !isNaN y && decide (rank x < rank y)

/-- `x ≤ y`; false if either is a NaN. -/
def lessEq (x y : Float) : Bool :=
  !isNaN x && !isNaN y && decide (rank x ≤ rank y)

/-! ## Exact value -/

/-- The finite value `± mantissa * 2 ^ exponent`. -/
structure Exact where
  negative : Bool
  mantissa : Nat
  exponent : Int
  /-- The gap to the next smaller magnitude is half the gap to the next larger one. -/
  narrowBelow : Bool

/-- The exact value of a finite float. -/
def exact (x : Float) : Exact :=
  let m := magnitude x
  let biased : Nat := m / Nat.pow 2 52
  let fraction : Nat := m % Nat.pow 2 52
  if biased = 0 then ⟨isNegative x, fraction, -1074, false⟩
  else ⟨isNegative x, Nat.pow 2 52 + fraction, (biased : Int) - 1075, fraction == 0 && biased > 1⟩

/-- Numerator and denominator of the magnitude. -/
def Exact.ratio (x : Exact) : Nat × Nat :=
  (x.mantissa * Nat.pow 2 x.exponent.toNat, Nat.pow 2 (-x.exponent).toNat)

/-- No fractional part. -/
def isIntegral (x : Float) : Bool :=
  let (num, den) := (exact x).ratio
  num % den == 0

/-- The integer part of the magnitude. -/
def wholeMagnitude (x : Float) : Nat :=
  let (num, den) := (exact x).ratio
  num / den

/-- The nearest integer, halves away from zero; the sign of zero is kept. -/
def round (x : Float) : Float :=
  if !isFinite x || 0 ≤ (exact x).exponent then x
  else
    let (num, den) := (exact x).ratio
    let rounded := Float.ofNat ((2 * num + den) / (2 * den))
    if isNegative x then -rounded else rounded

end DiagnosticReport.Binary64
