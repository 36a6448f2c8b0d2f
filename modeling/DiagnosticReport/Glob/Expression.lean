import DiagnosticReport.Decimal.Notation
import DiagnosticReport.Glob.Basic

/-!
# Patterns as regular expressions

A set of patterns is compiled before it is used. A pattern of a plain form is text to be compared;
any other one is written as a regular expression on bytes. Parts of an expression lie in each
other, and a set with an expression that goes too deep is refused.
-/

namespace DiagnosticReport.Glob

/-! ## The expression of a pattern -/

/-- The characters with a meaning in expressions. -/
def operators : List Char :=
  "\\.+*?()|[]\x7b\x7d^$#&-~".toList

/-- A byte that stands for itself. -/
def byteText (b : UInt8) : String :=
  if b < 0x80 then
    let c := Char.ofNat b.toNat
    if operators.contains c then "\\" ++ String.singleton c else String.singleton c
  else "\\x" ++ String.ofList (Nat.toDigits 16 b.toNat)

/-- A character by its bytes. -/
def charText (c : Char) : String :=
  String.join ((charBytes c).map byteText)

/-- A range of characters in a class. -/
def rangeText (range : Char × Char) : String :=
  if range.1 = range.2 then charText range.1 else charText range.1 ++ "-" ++ charText range.2

/-- A group of alternatives; without any it is left out. -/
def groupText : List String → String
  | [] => ""
  | branches => "(?:" ++ String.intercalate "|" branches ++ ")"

mutual

/-- The expression of a piece. -/
def Piece.expression : Piece → String
  | .char c => charText c
  | .anyByte => "."
  | .anyRun => ".*"
  | .leadingFolders => "(?:/?|.*/)"
  | .trailingFolders => "/.*"
  | .innerFolders => "(?:/|/.*/)"
  | .byteClass negated ranges =>
    "[" ++ (if negated then "^" else "") ++ String.join (ranges.map rangeText) ++ "]"
  | .oneOf branches => groupText (branchExpressions branches)

/-- The expression of a sequence. -/
def sequenceExpression : List Piece → String
  | [] => ""
  | piece :: pieces => piece.expression ++ sequenceExpression pieces

/-- The expressions of several sequences. -/
def branchExpressions : List (List Piece) → List String
  | [] => []
  | branch :: branches => sequenceExpression branch :: branchExpressions branches

end

/-- The expression of a pattern, which stands for whole paths. -/
def expression (glob : Glob) : String :=
  match glob.pieces with
  | [.leadingFolders] => "(?-u)^.*$"
  | pieces => "(?-u)^" ++ sequenceExpression pieces ++ "$"

/-! ## Depth -/

/-- The number of parts that the expression of a piece adds to a sequence. -/
def Piece.width : Piece → Nat
  | .char c => (charBytes c).length
  | .trailingFolders => 2
  | .oneOf [] => 0
  | _ => 1

/-- A list of parts is one more level if it has several. -/
def listDepth (count : Nat) : Nat :=
  if count ≤ 1 then 0 else 1

mutual

/-- The depth of the expression of a piece: a repetition, a class and a group are a level each, and
so is what puts several parts one after the other or beside each other. -/
def Piece.depth : Piece → Nat
  | .char _ => 0
  | .anyByte => 0
  | .anyRun => 1
  | .leadingFolders => 4
  | .trailingFolders => 1
  | .innerFolders => 4
  | .byteClass _ ranges => 1 + listDepth (ranges.flatMap byteRanges).length
  | .oneOf [] => 0
  | .oneOf (branch :: branches) =>
    1 + listDepth (branch :: branches).length + branchesDepth (branch :: branches)

/-- The depth of the deepest of several pieces. -/
def piecesDepth : List Piece → Nat
  | [] => 0
  | piece :: pieces => max piece.depth (piecesDepth pieces)

/-- The depth of the deepest of several sequences. -/
def branchesDepth : List (List Piece) → Nat
  | [] => 0
  | branch :: branches =>
    max (listDepth (branch.map Piece.width).sum + piecesDepth branch) (branchesDepth branches)

end

/-- The most levels of an expression. -/
def maxDepth : Nat := 250

/-- The expression of the pattern has too many levels; the pattern itself is one. -/
def isTooDeep (glob : Glob) : Bool :=
  maxDepth < 1 + piecesDepth glob.pieces

/-! ## Sets -/

/-- The pattern is text anywhere in the path or at its end, by one of the forms `text`, `*text`,
`**/text` and `**/*text`; but a lone slash after a run of bytes is no such text. -/
def isTail (pieces : List Piece) : Bool :=
  let pieces := match pieces with
    | .leadingFolders :: rest => rest
    | _ => pieces
  let (run, text) := match pieces with
    | .anyRun :: rest => (true, rest)
    | _ => (false, pieces)
  match text with
  | [] => false
  | [piece] => isChar piece && !(run && isTheChar '/' piece)
  | _ => text.all isChar

/-- The pattern is text at the start of the path, by one of the forms `text*` and `text/**`; only
the text of the second one may be empty. -/
def isHead (pieces : List Piece) : Bool :=
  let text := pieces.dropLast
  match pieces.getLast? with
  | some .anyRun => !text.isEmpty && text.all isChar
  | some .trailingFolders => text.all isChar
  | _ => false

/-- The pattern is compared without an expression. -/
def isPlain (glob : Glob) : Bool :=
  isTail glob.pieces || isHead glob.pieces

/-- The pattern ends in a dot and further text of a file name, so that only paths with this
extension are compared with it. -/
def hasExtension (glob : Glob) : Bool :=
  let isNameChar (piece : Piece) : Bool :=
    isChar piece && !isTheChar '.' piece && !isTheChar '/' piece
  ((glob.pieces.reverse.dropWhile isNameChar).head?.map (isTheChar '.')).getD false

/-- Why a set of patterns is refused. -/
inductive SetFault where
  /-- A pattern with an extension is too deep. -/
  | extended (glob : Glob)
  /-- Another pattern is too deep, given by its place among those with an expression. -/
  | placed (index : Nat)

/-- The wording of a fault. -/
def SetFault.message : SetFault → String
  | extended glob => "error parsing glob '" ++ glob.expression ++ "': error parsing pattern 0"
  | placed index => "error parsing pattern " ++ Decimal.natText index

/-- No expression of a set is too deep; those of patterns with an extension come first. -/
def checkSet (globs : List Glob) : Except SetFault Unit :=
  let (extended, others) := (globs.filter fun glob => !glob.isPlain).partition hasExtension
  match extended.find? isTooDeep, others.findIdx? isTooDeep with
  | some glob, _ => .error (.extended glob)
  | none, some index => .error (.placed index)
  | none, none => .ok ()

end DiagnosticReport.Glob
