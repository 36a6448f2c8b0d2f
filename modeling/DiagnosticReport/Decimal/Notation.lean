import DiagnosticReport.Decimal.Digits

/-!
# How numbers are written

Three notations occur in reports and documents: positional text with the fewest digits
(`positional`), text with a fixed number of places (`fixed`), and the notation of JSON documents
(`scientific` outside a window of exponents, always with a point or an exponent).
-/

namespace DiagnosticReport.Decimal

/-- Decimal digits of a natural number. -/
def natText (n : Nat) : String :=
  String.ofList (Nat.toDigits 10 n)

/-- Decimal digits of an integer, with a minus sign if it is negative. -/
def intText : Int → String
  | .ofNat n => natText n
  | .negSucc n => "-" ++ natText (n + 1)

/-- A sign for floats with the sign bit set. -/
def signText (x : Float) : String :=
  if Binary64.isNegative x then "-" else ""

/-- The text `NaN`, `inf` or `-inf` of a float that is not finite. -/
def nonFiniteText (x : Float) : String :=
  if Binary64.isNaN x then "NaN" else signText x ++ "inf"

/-- `n` zeros. -/
def zeros (n : Nat) : List Char :=
  List.replicate n '0'

/-- A magnitude in positional form, with a point only if it has a fractional part. -/
def plain (d : Decimal) : String :=
  let digits := Nat.toDigits 10 d.digits
  if 0 ≤ d.exponent then String.ofList (digits ++ zeros d.exponent.toNat)
  else
    let places := (-d.exponent).toNat
    let padded := zeros (places + 1 - digits.length) ++ digits
    let cut := padded.length - places
    String.ofList (padded.take cut ++ '.' :: padded.drop cut)

/-- The fewest digits that identify the float, positionally and without an exponent. -/
def positional (x : Float) : String :=
  if Binary64.isFinite x then signText x ++ plain (shortest .upward x) else nonFiniteText x

/-- Exactly `places` digits after the point (at least one), rounded from the exact value. -/
def fixed (places : Nat) (x : Float) : String :=
  if Binary64.isFinite x then
    signText x ++ plain ⟨roundedAt places x, -(places : Int)⟩
  else nonFiniteText x

/-- `fixed`, without the sign of a value that rounds to zero. -/
def fixedUnsignedZero (places : Nat) (x : Float) : String :=
  if Binary64.isFinite x && roundedAt places x == 0 then plain ⟨0, -(places : Int)⟩
  else fixed places x

/-- Digits with a point after the first one, if more follow. -/
def pointAfterFirst : List Char → List Char
  | [] => []
  | [d] => [d]
  | d :: rest => d :: '.' :: rest

/-- The notation of JSON documents: positional for decimal exponents -5 to 15 and always with a
point, otherwise one digit before the point and a signed exponent. -/
def scientific (x : Float) : String :=
  let d := shortest .toEven x
  let digits := Nat.toDigits 10 d.digits
  let lead := d.exponent + digits.length - 1
  let body :=
    if lead < -5 ∨ 15 < lead then
      String.ofList (pointAfterFirst digits) ++ (if lead < 0 then "e-" else "e+") ++
        natText lead.natAbs
    else if 0 ≤ d.exponent then plain d ++ ".0"
    else plain d
  signText x ++ body

end DiagnosticReport.Decimal
