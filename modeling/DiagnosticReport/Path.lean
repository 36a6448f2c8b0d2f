import DiagnosticReport.Json.Coercion

/-!
# Path expressions

A path names a place in a document: keys and indices joined by dots, of which one may carry a
filter in brackets, as in `items[code=A].score`. The filter selects the first element of an array
whose field has the given text. Reading a path never fails; a path that names nothing resolves to
nothing. Only the first bracket group is a filter, and only if text stands before it and in it.
-/

namespace DiagnosticReport

/-- A step from a value into one of its parts. -/
inductive Segment where
  | key (name : String)
  | index (n : Nat)

/-- The filter `[key=value]`. -/
structure Selector where
  key : String
  value : String

/-- What a path has between its first brackets. -/
inductive Bracket where
  | absent
  | selector (s : Selector)
  /-- A bracket group without an equals sign; it selects nothing. -/
  | malformed

/-- A path expression. -/
structure Path where
  base : List Segment
  bracket : Bracket
  remainder : List Segment

namespace Segment

/-- The decimal of a number below 2^64, without sign and leading zeros. -/
def index? (s : String) : Option Nat :=
  let digits := s.toList
  if digits.isEmpty || !digits.all Char.isDigit then none
  else
    let n := Decimal.digitsValue digits
    if n < Nat.pow 2 64 && s == Decimal.natText n then some n else none

/-- An index if the text is one, else a key. -/
def ofString (s : String) : Segment :=
  match index? s with
  | some n => index n
  | none => key s

/-- The text of a segment. -/
def toString : Segment → String
  | key name => name
  | index n => Decimal.natText n

/-- Step into a value: a key into an object, an index into an array or, as a key, into an object. -/
def step? : Segment → Json → Option Json
  | key name, .object fields => Json.lookup name fields
  | index n, .array items => items[n]?
  | index n, .object fields => Json.lookup (Decimal.natText n) fields
  | _, _ => none

end Segment

/-- The first element whose field under the selector's key has the selector's text. -/
def Selector.select? (s : Selector) : Json → Option Json
  | .array items => items.find? fun item => Json.textOf (item.get? s.key) == s.value
  | _ => none

namespace Path

/-- The pieces of a text between dots, the empty ones left out. -/
def pieces (cs : List Char) : List String :=
  ((cs.splitOn '.').filter fun piece => !piece.isEmpty).map String.ofList

/-- The segments of a text. -/
def segments (cs : List Char) : List Segment :=
  (pieces cs).map Segment.ofString

/-- Cut at the first occurrence of a character, which belongs to neither part. -/
def cutAt? (c : Char) (cs : List Char) : Option (List Char × List Char) :=
  match cs.dropWhile (· != c) with
  | [] => none
  | _ :: after => some (cs.takeWhile (· != c), after)

/-- The texts before, in and after the first bracket group: the first two are not empty, and no
line break follows the group. -/
def bracketParts? (cs : List Char) : Option (List Char × List Char × List Char) := do
  let (before, rest) ← cutAt? '[' cs
  let (inside, after) ← cutAt? ']' rest
  if before.isEmpty || inside.isEmpty || after.contains '\n' then none
  else return (before, inside, after)

/-- Read a path. -/
def parse (text : String) : Path :=
  let cs := Text.trimChars text.toList
  match bracketParts? cs with
  | none => ⟨segments cs, .absent, []⟩
  | some (before, inside, after) =>
    let bracket : Bracket :=
      match cutAt? '=' inside with
      | some (key, value) => .selector ⟨String.ofList key, String.ofList value⟩
      | none => .malformed
    ⟨segments before, bracket, segments after⟩

/-- Follow segments from a value. -/
def walk? (start : Json) (segments : List Segment) : Option Json :=
  segments.foldlM (fun value segment => segment.step? value) start

/-- The value that a path names in a document. A path without a base names nothing. -/
def resolve? (path : Path) (document : Json) : Option Json :=
  if path.base.isEmpty then none
  else
    match path.bracket with
    | .absent => (walk? document path.base).bind (walk? · path.remainder)
    | .malformed => none
    | .selector s => do
      let value ← walk? document path.base
      let selected ← s.select? value
      walk? selected path.remainder

end Path

/-- The value that the text of a path names in a document. -/
def resolvePath? (document : Json) (path : String) : Option Json :=
  (Path.parse path).resolve? document

end DiagnosticReport
