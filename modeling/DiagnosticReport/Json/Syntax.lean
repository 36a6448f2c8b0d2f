import DiagnosticReport.Decimal.Reading
import DiagnosticReport.Json.Basic

/-!
# Reading JSON text

Text is read in two steps. `Syntax.parse?` checks the grammar and keeps what was written: numerals
digit by digit, repeated keys, strings whose escapes form no character. `Syntax.toJson?` turns
that into a value and refuses what a value cannot hold: a number beyond the range of floats, a
broken escape, more than 127 nested containers. A key that is repeated keeps its first place and
its last value.
-/

namespace DiagnosticReport

/-- A number as written. -/
structure Numeral where
  negative : Bool
  /-- Digits before the point. -/
  whole : List Char
  /-- Digits after the point; none if there is no point. -/
  fraction : List Char
  exponent : Option Int

namespace Numeral

/-! ## The value of a numeral -/

/-- The digits that fit an unsigned 64-bit integer after `start`, as a number, and how many digits
are left over. -/
def absorb (start : Nat) : List Char → Nat × Nat
  | [] => (start, 0)
  | c :: cs =>
    let next := 10 * start + Decimal.digitValue c
    if next < Nat.pow 2 64 then absorb next cs else (start, cs.length + 1)

/-- A power of ten as a float. -/
def powerOfTen (n : Nat) : Float :=
  Float.ofScientific 1 false n

/-- `x / 10 ^ n`, by steps of at most 308 powers of ten. -/
def scaleDown (x : Float) (n : Nat) : Float :=
  if n ≤ 308 then x / powerOfTen n
  else if x == 0.0 then x
  else scaleDown (x / powerOfTen 308) (n - 308)
termination_by n

/-- `x * 10 ^ e` with one rounding per step; none beyond the range of floats. -/
def scale? (x : Float) (e : Int) : Option Float :=
  if e < 0 then some (scaleDown x e.natAbs)
  else if 308 < e then if x == 0.0 then some x else none
  else
    let y := x * powerOfTen e.natAbs
    if Binary64.isFinite y then some y else none

/-- The number that a numeral writes. Without point and exponent it is an integer if it fits 64
bits; minus zero is a float. Any other numeral is a float: the leading digits that fit 64 bits,
rounded, and then scaled by the power of ten that its point and exponent call for. -/
def toNumber? (n : Numeral) : Option Number :=
  let (significand, dropped) := absorb 0 n.whole
  let signed (x : Float) : Number := .float (if n.negative then -x else x)
  if n.fraction.isEmpty && n.exponent.isNone && dropped == 0 then
    if !n.negative then some (.int significand)
    else if significand = 0 ∨ Nat.pow 2 63 < significand then
      some (signed (Float.ofNat significand))
    else some (.int (-(significand : Int)))
  else
    let (significand, left) := absorb significand n.fraction
    let places : Int := (dropped : Int) - ((n.fraction.length - left : Nat) : Int)
    (scale? (Float.ofNat significand) (places + n.exponent.getD 0)).map signed

end Numeral

/-- JSON text as a tree. A string is `none` if one of its escapes stands for no character. -/
inductive Syntax where
  | null
  | bool (b : Bool)
  | number (n : Numeral)
  | string (s : Option String)
  | array (items : List Syntax)
  | object (fields : List (Option String × Syntax))

namespace Syntax

/-! ## Grammar -/

/-- Drop blanks. -/
def skipBlanks : List Char → List Char
  | c :: cs => if c = ' ' ∨ c = '\n' ∨ c = '\t' ∨ c = '\r' then skipBlanks cs else c :: cs
  | [] => []

/-- The value of a hexadecimal digit. -/
def hexValue? (c : Char) : Option Nat :=
  if c.isDigit then some (c.toNat - '0'.toNat)
  else if 'a' ≤ c ∧ c ≤ 'f' then some (c.toNat - 'a'.toNat + 10)
  else if 'A' ≤ c ∧ c ≤ 'F' then some (c.toNat - 'A'.toNat + 10)
  else none

/-- The value of four hexadecimal digits. -/
def hexUnit? (a b c d : Char) : Option Nat := do
  let a ← hexValue? a
  let b ← hexValue? b
  let c ← hexValue? c
  let d ← hexValue? d
  return ((a * 16 + b) * 16 + c) * 16 + d

/-- The first unit of a surrogate pair. -/
def isLeading (unit : Nat) : Bool :=
  0xD800 ≤ unit && unit < 0xDC00

/-- The second unit of a surrogate pair. -/
def isTrailing (unit : Nat) : Bool :=
  0xDC00 ≤ unit && unit < 0xE000

/-- The character of a surrogate pair. -/
def pairChar (leading trailing : Nat) : Char :=
  Char.ofNat (0x10000 + (leading - 0xD800) * 0x400 + (trailing - 0xDC00))

/-- A piece of a string: a character, or an escape that stands for none. -/
abbrev Piece := Option Char

/-- The character of a one-letter escape. -/
def shortEscape? : Char → Option Char
  | '"' => some '"'
  | '\\' => some '\\'
  | '/' => some '/'
  | 'b' => some '\x08'
  | 'f' => some '\x0c'
  | 'n' => some '\n'
  | 'r' => some '\r'
  | 't' => some '\t'
  | _ => none

/-- The pieces of a string up to its closing quote, last piece first, and the text after it. -/
def stringPieces? (pieces : List Piece) : List Char → Option (List Piece × List Char)
  | [] => none
  | '"' :: cs => some (pieces, cs)
  | '\\' :: 'u' :: a :: b :: c :: d :: '\\' :: 'u' :: e :: f :: g :: h :: cs =>
    match hexUnit? a b c d, hexUnit? e f g h with
    | some x, some y =>
      if isLeading x && isTrailing y then stringPieces? (some (pairChar x y) :: pieces) cs
      else
        let piece := if isLeading x || isTrailing x then none else some (Char.ofNat x)
        stringPieces? (piece :: pieces) ('\\' :: 'u' :: e :: f :: g :: h :: cs)
    | _, _ => none
  | '\\' :: 'u' :: a :: b :: c :: d :: cs =>
    match hexUnit? a b c d with
    | some x =>
      let piece := if isLeading x || isTrailing x then none else some (Char.ofNat x)
      stringPieces? (piece :: pieces) cs
    | none => none
  | '\\' :: e :: cs =>
    match shortEscape? e with
    | some c => stringPieces? (some c :: pieces) cs
    | none => none
  | c :: cs => if c.toNat < 0x20 ∨ c = '\\' then none else stringPieces? (some c :: pieces) cs

/-- The text of a string whose opening quote has been read. -/
def string? (cs : List Char) : Option (Option String × List Char) :=
  (stringPieces? [] cs).map fun (pieces, rest) =>
    ((pieces.reverse.mapM id).map String.ofList, rest)

/-- The exponent of a numeral, if one follows. -/
def exponent? : List Char → Option (Option Int × List Char)
  | c :: cs =>
    if c = 'e' ∨ c = 'E' then
      let (negative, rest) := Decimal.takeSign cs
      let digits := rest.takeWhile Char.isDigit
      if digits.isEmpty then none
      else
        let n : Int := Decimal.digitsValue digits
        some (some (if negative then -n else n), rest.dropWhile Char.isDigit)
    else some (none, c :: cs)
  | [] => some (none, [])

/-- A numeral whose sign has been read: no leading zero, a digit on each side of a point. -/
def numeral? (negative : Bool) (cs : List Char) : Option (Numeral × List Char) :=
  let whole := cs.takeWhile Char.isDigit
  let rest := cs.dropWhile Char.isDigit
  if whole.isEmpty || (whole.length > 1 && whole.head? == some '0') then none
  else
    match rest with
    | '.' :: r =>
      let fraction := r.takeWhile Char.isDigit
      if fraction.isEmpty then none
      else (exponent? (r.dropWhile Char.isDigit)).map fun (e, rest) =>
        (⟨negative, whole, fraction, e⟩, rest)
    | r => (exponent? r).map fun (e, rest) => (⟨negative, whole, [], e⟩, rest)

mutual

/-- A value at the head of the text. Each step takes from `fuel`. -/
def value? (fuel : Nat) (cs : List Char) : Option (Syntax × List Char) :=
  match fuel with
  | 0 => none
  | fuel + 1 =>
    match skipBlanks cs with
    | '\x7b' :: cs =>
      match skipBlanks cs with
      | '\x7d' :: cs => some (object [], cs)
      | cs => (fields? fuel cs).map fun (fields, rest) => (object fields, rest)
    | '[' :: cs =>
      match skipBlanks cs with
      | ']' :: cs => some (array [], cs)
      | cs => (items? fuel cs).map fun (items, rest) => (array items, rest)
    | '"' :: cs => (string? cs).map fun (s, rest) => (string s, rest)
    | '-' :: cs => (numeral? true cs).map fun (n, rest) => (number n, rest)
    | 'n' :: 'u' :: 'l' :: 'l' :: cs => some (null, cs)
    | 't' :: 'r' :: 'u' :: 'e' :: cs => some (bool true, cs)
    | 'f' :: 'a' :: 'l' :: 's' :: 'e' :: cs => some (bool false, cs)
    | cs => (numeral? false cs).map fun (n, rest) => (number n, rest)

/-- The elements of an array up to its closing bracket, at least one. -/
def items? (fuel : Nat) (cs : List Char) : Option (List Syntax × List Char) :=
  match fuel with
  | 0 => none
  | fuel + 1 => do
    let (item, cs) ← value? fuel cs
    match skipBlanks cs with
    | ',' :: cs =>
      let (rest, cs) ← items? fuel cs
      return (item :: rest, cs)
    | ']' :: cs => return ([item], cs)
    | _ => none

/-- The fields of an object up to its closing brace, at least one. -/
def fields? (fuel : Nat) (cs : List Char) : Option (List (Option String × Syntax) × List Char) :=
  match fuel with
  | 0 => none
  | fuel + 1 =>
    match skipBlanks cs with
    | '"' :: cs => do
      let (key, cs) ← string? cs
      match skipBlanks cs with
      | ':' :: cs =>
        let (item, cs) ← value? fuel cs
        match skipBlanks cs with
        | ',' :: cs =>
          let (rest, cs) ← fields? fuel cs
          return ((key, item) :: rest, cs)
        | '\x7d' :: cs => return ([(key, item)], cs)
        | _ => none
      | _ => none
    | _ => none

end

/-- The tree of a text that is one value with nothing but blanks around it. -/
def parse? (text : String) : Option Syntax :=
  let cs := text.toList
  match value? (2 * cs.length + 2) cs with
  | some (tree, rest) => if (skipBlanks rest).isEmpty then some tree else none
  | none => none

/-! ## Values -/

mutual

/-- The value of a tree with at most `depth` nested containers. -/
def toJsonWithin? (depth : Nat) : Syntax → Option Json
  | null => some .null
  | bool b => some (.bool b)
  | number n => n.toNumber?.map .number
  | string s => s.map .string
  | array items =>
    match depth with
    | 0 => none
    | depth + 1 => (itemsWithin? depth items).map .array
  | object fields =>
    match depth with
    | 0 => none
    | depth + 1 => (fieldsWithin? depth [] fields).map .object

/-- The values of the elements of an array. -/
def itemsWithin? (depth : Nat) : List Syntax → Option (List Json)
  | [] => some []
  | item :: rest => do
    let value ← toJsonWithin? depth item
    let values ← itemsWithin? depth rest
    return value :: values

/-- The values of the fields of an object, put one after the other into `done`. -/
def fieldsWithin? (depth : Nat) (done : List (String × Json)) :
    List (Option String × Syntax) → Option (List (String × Json))
  | [] => some done
  | (key, item) :: rest => do
    let key ← key
    let value ← toJsonWithin? depth item
    fieldsWithin? depth (Json.put key value done) rest

end

/-- The value of a tree. -/
def toJson? (tree : Syntax) : Option Json :=
  tree.toJsonWithin? 127

end Syntax

namespace Json

/-- The value that a text writes. -/
def parse? (text : String) : Option Json :=
  (Syntax.parse? text).bind Syntax.toJson?

end Json

end DiagnosticReport
