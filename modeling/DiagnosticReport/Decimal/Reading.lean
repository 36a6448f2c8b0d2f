import DiagnosticReport.Binary64

/-!
# Reading a float from text

The grammar is an optional sign followed by `inf`, `infinity` or `nan` in any letter case, or by
decimal digits with at most one point and at least one digit, and an optional exponent. Every
character counts: blanks are refused. The value is the float nearest to the decimal.
-/

namespace DiagnosticReport.Decimal

/-- The value of a decimal digit. -/
def digitValue (c : Char) : Nat :=
  c.toNat - '0'.toNat

/-- The number that a list of decimal digits writes. -/
def digitsValue (cs : List Char) : Nat :=
  cs.foldl (fun n c => 10 * n + digitValue c) 0

/-- Split off a leading sign; true means minus. -/
def takeSign : List Char → Bool × List Char
  | '-' :: cs => (true, cs)
  | '+' :: cs => (false, cs)
  | cs => (false, cs)

/-- The exponent part: nothing, or `e` with an optional sign and at least one digit. -/
def readExponent? : List Char → Option Int
  | [] => some 0
  | c :: cs =>
    if c = 'e' ∨ c = 'E' then
      let (negative, digits) := takeSign cs
      if digits.isEmpty || !digits.all Char.isDigit then none
      else
        let n : Int := digitsValue digits
        some (if negative then -n else n)
    else none

/-- The float nearest to `digits * 10 ^ exponent`. Exponents far outside the range of floats are
settled without computing the power. -/
def nearestFloat (digits : List Char) (exponent : Int) : Float :=
  let n := digitsValue digits
  let lead := exponent + digits.length
  if n = 0 ∨ lead < -400 then 0.0
  else if 400 < exponent then 1.0 / 0.0
  else if 0 ≤ exponent then Float.ofScientific n false exponent.toNat
  else Float.ofScientific n true (-exponent).toNat

/-- Digits with at most one point, then an exponent. -/
def readNumber? (cs : List Char) : Option Float :=
  let whole := cs.takeWhile Char.isDigit
  let rest := cs.dropWhile Char.isDigit
  let (fraction, rest) := match rest with
    | '.' :: r => (r.takeWhile Char.isDigit, r.dropWhile Char.isDigit)
    | r => ([], r)
  if whole.isEmpty && fraction.isEmpty then none
  else (readExponent? rest).map fun e => nearestFloat (whole ++ fraction) (e - fraction.length)

/-- The float that a text writes, if it follows the grammar. -/
def read? (text : String) : Option Float :=
  let (negative, cs) := takeSign text.toList
  let magnitude :=
    match String.ofList (cs.map Char.toLower) with
    | "inf" | "infinity" => some (1.0 / 0.0)
    | "nan" => some (0.0 / 0.0)
    | _ => readNumber? cs
  magnitude.map fun x => if negative then -x else x

end DiagnosticReport.Decimal
