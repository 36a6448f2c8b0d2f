import DiagnosticReport.Json.Printer
import DiagnosticReport.Decimal.Reading
import DiagnosticReport.Text.Blank
import DiagnosticReport.Text.Case

/-!
# Loose views of JSON values

Recipes compare and display values without asking for their types. `text` is the text of any
value, `number?` its number, `sameAs` the equality of the operators `eq` and `in`, and
`compareText` the alphabetic order of texts.
-/

namespace DiagnosticReport

/-! ## Text -/

/-- A number for display: `0` if it is not finite, without a fractional part if it has none and
fewer than sixteen digits, else with the fewest digits that identify it. -/
def formatNumber (x : Float) : String :=
  if !Binary64.isFinite x then "0"
  else if Binary64.isIntegral x && Binary64.less x.abs 1e15 then
    let whole := Binary64.wholeMagnitude x
    Decimal.intText (if Binary64.isNegative x then -(whole : Int) else whole)
  else Decimal.positional x

namespace Json

/-- The text of a number. -/
def numberAsText : Number → String
  | .int n => Decimal.intText n
  | .float x => formatNumber x

mutual

/-- The text of a value: a string is its own text, the elements of an array are joined by commas,
an object is its JSON text. -/
def text : Json → String
  | null => "null"
  | bool true => "true"
  | bool false => "false"
  | number n => numberAsText n
  | string s => s
  | array items => String.intercalate "," (itemTexts items)
  | object fields => compact (object fields)

/-- The texts of the elements of an array; `null` is empty there. -/
def itemTexts : List Json → List String
  | [] => []
  | null :: rest => "" :: itemTexts rest
  | item :: rest => text item :: itemTexts rest

end

/-- The text of a value that may be missing. -/
def textOf : Option Json → String
  | none => "undefined"
  | some value => text value

/-! ## Number -/

/-- The number of a value: a number itself, or the number that a string writes; never an infinity
or a NaN. -/
def number? : Json → Option Float
  | number n => if Binary64.isFinite n.toFloat then some n.toFloat else none
  | string s => (Decimal.read? (Text.trim s)).filter Binary64.isFinite
  | _ => none

/-- The number under a key. -/
def numberAt? (key : String) (value : Json) : Option Float :=
  (value.get? key).bind number?

/-! ## Equality -/

/-- Equality of floats as numbers. -/
def sameFloat (x y : Float) : Bool :=
  Binary64.rank x == Binary64.rank y

mutual

/-- Equality of structure: an integer differs from every float, and objects are equal if they have
the same keys with equal values, in any order. -/
def identical : Json → Json → Bool
  | null, null => true
  | bool a, bool b => a == b
  | number (.int a), number (.int b) => a == b
  | number (.float a), number (.float b) => sameFloat a b
  | string a, string b => a == b
  | array xs, array ys => identicalItems xs ys
  | object xs, object ys => xs.length == ys.length && containedIn ys xs
  | _, _ => false

/-- Equality of arrays, element by element. -/
def identicalItems : List Json → List Json → Bool
  | [], [] => true
  | x :: xs, y :: ys => identical x y && identicalItems xs ys
  | _, _ => false

/-- Each field of the second object has an equal one in the first. -/
def containedIn (fields : List (String × Json)) : List (String × Json) → Bool
  | [] => true
  | (key, x) :: rest =>
    (match lookup key fields with
      | some y => identical x y
      | none => false) && containedIn fields rest

end

/-- Equality for filters: two numbers are equal if their floats are, other values if they are
identical. -/
def sameAs : Json → Json → Bool
  | number a, number b => sameFloat a.toFloat b.toFloat
  | a, b => identical a b

/-- A missing value equals nothing. -/
def optionSameAs : Option Json → Json → Bool
  | none, _ => false
  | some a, b => sameAs a b

end Json

/-! ## Alphabetic order -/

/-- Order of texts by code points. -/
def compareCodePoints : List Char → List Char → Ordering
  | [], [] => .eq
  | [], _ :: _ => .lt
  | _ :: _, [] => .gt
  | a :: as, b :: bs => (compare a.toNat b.toNat).then (compareCodePoints as bs)

/-- Order of texts by their lower-case forms, ties broken against the order of code points, so
that a small letter stands before its capital. -/
def compareTextBy (lower : String → String) (a b : String) : Ordering :=
  (compareCodePoints (lower a).toList (lower b).toList).then (compareCodePoints b.toList a.toList)

/-- The alphabetic order of texts. -/
def compareText (a b : String) : Ordering :=
  compareTextBy Text.lower a b

end DiagnosticReport
