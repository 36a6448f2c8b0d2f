import DiagnosticReport.Text.CaseTable

/-!
# Letter case

Full lower- and upper-casing by the Unicode mappings, independent of any locale. The capital sigma
lowers to its final form at the end of a word: after a cased character and not before one, where
case-ignorable characters in between do not count.
-/

namespace DiagnosticReport.Text

/-- Membership in a set given by its ascending boundaries. -/
def inBoundaries (boundaries : List Nat) (n : Nat) : Bool :=
  (boundaries.takeWhile (· ≤ n)).length % 2 == 1

/-- The code point that a row maps `n` to. -/
def shifted? (rows : ShiftRows) (n : Nat) : Option Nat :=
  (rows.find? fun (first, last, step, _) => first ≤ n && n ≤ last && (n - first) % step == 0).map
    fun (_, _, _, shift) => ((n : Int) + shift).toNat

/-- The characters that `c` maps to: a sequence, a single character, or itself. -/
def mapChar (rows : ShiftRows) (sequences : List (Nat × List Nat)) (c : Char) : List Char :=
  match sequences.lookup c.toNat with
  | some ns => ns.map Char.ofNat
  | none =>
    match shifted? rows c.toNat with
    | some n => [Char.ofNat n]
    | none => [c]

/-- The lower-case characters of `c`, out of context. -/
def lowerChar (c : Char) : List Char :=
  if c.toNat < 0x80 then [c.toLower] else mapChar lowerRows lowerSequences c

/-- The upper-case characters of `c`. -/
def upperChar (c : Char) : List Char :=
  if c.toNat < 0x80 then [c.toUpper] else mapChar upperRows upperSequences c

/-- The first character that is not case-ignorable has case. -/
def startsCased (cs : List Char) : Bool :=
  match cs.dropWhile fun c => inBoundaries caseIgnorableBoundaries c.toNat with
  | c :: _ => inBoundaries casedBoundaries c.toNat
  | [] => false

/-- Lower case of the characters after `before`, which is in reverse order. -/
def lowerAfter (before : List Char) : List Char → List Char
  | [] => []
  | c :: rest =>
    let lowered :=
      if c = 'Σ' then [if startsCased before && !startsCased rest then 'ς' else 'σ']
      else lowerChar c
    lowered ++ lowerAfter (c :: before) rest

/-- A text in lower case. -/
def lower (s : String) : String :=
  String.ofList (lowerAfter [] s.toList)

/-- A text with its ASCII letters in lower case. -/
def lowerAscii (s : String) : String :=
  String.ofList (s.toList.map Char.toLower)

end DiagnosticReport.Text
