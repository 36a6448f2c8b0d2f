import DiagnosticReport.Binary64

/-!
# Decimal digits of a float

`Decimal` is a magnitude `digits * 10 ^ exponent`. `shortest` gives the fewest digits that read
back as the same float, by exact arithmetic: it tries grids of growing fineness and takes the
first one on which a neighbour of the value lies in the interval of reals that round to it.
`roundedAt` gives the nearest multiple of a power of ten.
-/

namespace DiagnosticReport

/-- The magnitude `digits * 10 ^ exponent`. -/
structure Decimal where
  digits : Nat
  exponent : Int
deriving Repr, DecidableEq

namespace Decimal

/-- Which of two equally near neighbours is taken. -/
inductive Tie where
  | toEven
  | upward
deriving DecidableEq

/-- The order of `a * 10 ^ i` and `b * 2 ^ j`. -/
def compareBinary (a : Nat) (i : Int) (b : Nat) (j : Int) : Ordering :=
  compare (a * Nat.pow 10 i.toNat * Nat.pow 2 (-j).toNat)
    (b * Nat.pow 2 j.toNat * Nat.pow 10 (-i).toNat)

/-- The decimal lies among the reals that round to the float: between the halfway points to its
two neighbours, which belong to it exactly when its mantissa is even. -/
def readsBack (x : Binary64.Exact) (d : Decimal) : Bool :=
  let low := if x.narrowBelow then 4 * x.mantissa - 1 else 4 * x.mantissa - 2
  let high := 4 * x.mantissa + 2
  let closed := x.mantissa % 2 == 0
  let atLow := compareBinary d.digits d.exponent low (x.exponent - 2)
  let atHigh := compareBinary d.digits d.exponent high (x.exponent - 2)
  (atLow == .gt || (closed && atLow == .eq)) && (atHigh == .lt || (closed && atHigh == .eq))

/-- The least `k` with `num / den < 10 ^ k`, for a positive quotient. -/
def scale (num den : Nat) : Int :=
  if den ≤ num then ((Nat.toDigits 10 (num / den)).length : Int)
  else
    let zeros := (Nat.toDigits 10 (den / num)).length
    if num * Nat.pow 10 (zeros - 1) = den then 2 - (zeros : Int) else 1 - (zeros : Int)

/-- The best decimal of `n` digits that reads back, if one does. -/
def nearest? (tie : Tie) (x : Binary64.Exact) (k : Int) (n : Nat) : Option Decimal :=
  let grid := k - n
  let num := x.ratio.1 * Nat.pow 10 (-grid).toNat
  let den := x.ratio.2 * Nat.pow 10 grid.toNat
  let below := num / den
  let under : Decimal := ⟨below, grid⟩
  let above : Decimal := ⟨below + 1, grid⟩
  match readsBack x under, readsBack x above with
  | false, false => none
  | true, false => some under
  | false, true => some above
  | true, true =>
    match compare (2 * num) ((2 * below + 1) * den), tie with
    | .lt, _ => some under
    | .gt, _ => some above
    | .eq, .upward => some above
    | .eq, .toEven => some (if below % 2 = 0 then under else above)

/-- Move trailing zeros of the digits into the exponent. -/
def trimZeros (fuel : Nat) (d : Decimal) : Decimal :=
  match fuel with
  | 0 => d
  | fuel + 1 =>
    if d.digits ≠ 0 ∧ d.digits % 10 = 0 then trimZeros fuel ⟨d.digits / 10, d.exponent + 1⟩ else d

/-- The exact value as a decimal. -/
def ofExact (x : Binary64.Exact) : Decimal :=
  ⟨x.ratio.1 * Nat.pow 5 (-x.exponent).toNat, -((-x.exponent).toNat : Int)⟩

/-- The fewest digits that read back as the finite float `x`, and of those the nearest. -/
def shortest (tie : Tie) (x : Float) : Decimal :=
  let e := Binary64.exact x
  if e.mantissa = 0 then ⟨0, 0⟩
  else
    let k := scale e.ratio.1 e.ratio.2
    let found := ((List.range 17).findSome? fun n => nearest? tie e k (n + 1)).getD (ofExact e)
    trimZeros 400 found

/-- `num / den` rounded to an integer, halves to even. -/
def roundDiv (num den : Nat) : Nat :=
  let below := num / den
  match compare (2 * (num % den)) den with
  | .lt => below
  | .gt => below + 1
  | .eq => if below % 2 = 0 then below else below + 1

/-- The magnitude of a finite float in units of `10 ^ -places`, halves to even. -/
def roundedAt (places : Nat) (x : Float) : Nat :=
  let (num, den) := (Binary64.exact x).ratio
  roundDiv (num * Nat.pow 10 places) den

end Decimal

end DiagnosticReport
