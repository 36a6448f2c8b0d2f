import DiagnosticReport.Binary64

/-!
# Numbers on a scale

The geometry of the charts is written once, over any type with arithmetic and an order, and runs
on floats. `Scalar.sanitize` brings a number of any origin onto a scale from 0 to a maximum, before
any geometry is computed from it.
-/

namespace DiagnosticReport

/-- Numbers with arithmetic, decimal literals and an order; some may be no finite number. -/
class Scalar (α : Type) extends Add α, Sub α, Mul α, Div α, Neg α, OfScientific α where
  ofNat : Nat → α
  less : α → α → Bool
  isFinite : α → Bool
  isNaN : α → Bool

/-- Scalars with the functions of the circle. -/
class Circular (α : Type) extends Scalar α where
  cos : α → α
  sin : α → α
  pi : α

instance : Scalar Float where
  ofNat := Float.ofNat
  less := Binary64.less
  isFinite := Binary64.isFinite
  isNaN := Binary64.isNaN

instance : Circular Float where
  cos := Float.cos
  sin := Float.sin
  pi := 3.141592653589793

namespace Scalar

variable {α : Type} [Scalar α]

/-- The larger of two numbers; one that is no number yields to the other. -/
@[specialize] def larger (x y : α) : α :=
  if isNaN x || less x y then y else x

/-- The smaller of two numbers; one that is no number yields to the other. -/
@[specialize] def smaller (x y : α) : α :=
  if isNaN x || less y x then y else x

/-- The nearest number in `[low, high]`. -/
@[specialize] def clamp (x low high : α) : α :=
  let x := if less x low then low else x
  if less high x then high else x

/-- The number on the scale from 0 to `max` that `x` stands for; a number that is not finite counts
as 0. -/
@[specialize] def sanitize (x max : α) : α :=
  if isFinite x then clamp x 0.0 max else 0.0

/-- A score on the scale from 0 to 100. -/
@[specialize] def clampScore (x : α) : α :=
  sanitize x 100.0

/-- The sum of a list. -/
@[specialize] def sum (xs : List α) : α :=
  xs.foldl (· + ·) 0.0

end Scalar

/-- The largest float. -/
def largestFloat : Float :=
  1.7976931348623157e308

/-- A finite float that is not negative; others count as 0. -/
def nonNegative (x : Float) : Float :=
  Scalar.sanitize x largestFloat

end DiagnosticReport
