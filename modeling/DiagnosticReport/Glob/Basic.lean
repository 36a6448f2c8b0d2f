/-!
# Glob patterns

A pattern describes paths: `?` stands for one byte and `*` for any run of bytes, slashes included,
`**` between slashes for any number of folders, `[a-z]` and `[!a-z]` for one byte of a class,
`{a,b}` for one of several patterns, and a backslash takes the next character literally. Matching
is on the bytes of the path. `Glob.Piece.ends` takes the places of a path where a piece of a
pattern may start to those where it can end, so a path matches if the whole pattern leads from its
start to its end.
-/

namespace DiagnosticReport

namespace Glob

/-- A piece of a pattern. -/
inductive Piece where
  | char (c : Char)
  | anyByte
  | anyRun
  /-- `**` and a slash at the start: nothing, a slash, or anything up to a slash. -/
  | leadingFolders
  /-- A slash and `**` at the end: a slash and anything after it. -/
  | trailingFolders
  /-- `**` between two slashes: a slash, or anything between two slashes. -/
  | innerFolders
  | byteClass (negated : Bool) (ranges : List (Char × Char))
  /-- One of several sequences; without any it stands for nothing. -/
  | oneOf (branches : List (List Piece))

/-- Why a pattern is rejected. -/
inductive Fault where
  | unclosedClass
  | invalidRange (first last : Char)
  | unopenedGroup
  | unclosedGroup
  | danglingEscape

/-- The wording of a fault. -/
def Fault.message : Fault → String
  | unclosedClass => "unclosed character class; missing ']'"
  | invalidRange first last =>
    "invalid range; '" ++ String.singleton first ++ "' > '" ++ String.singleton last ++ "'"
  | unopenedGroup =>
    "unopened alternate group; missing '\x7b' (maybe escape '\x7d' with '[\x7d]'?)"
  | unclosedGroup =>
    "unclosed alternate group; missing '\x7d' (maybe escape '\x7b' with '[\x7b]'?)"
  | danglingEscape => "dangling '\\'"

/-! ## Matching -/

/-- The bytes of a text. -/
def bytesOf (s : String) : List UInt8 :=
  s.toUTF8.toList

/-- The bytes of a character. -/
def charBytes (c : Char) : List UInt8 :=
  bytesOf (String.singleton c)

/-- The byte of a slash. -/
def slash : UInt8 := 0x2F

/-- The ranges of bytes of a range of characters. Within a longer character each byte counts for
itself. -/
def byteRanges (range : Char × Char) : List (UInt8 × UInt8) :=
  let single (b : UInt8) := (b, b)
  let first := charBytes range.1
  let last := charBytes range.2
  if range.1 = range.2 then first.map single
  else
    first.dropLast.map single ++
      (match first.getLast?, last.head? with
        | some lo, some hi => [(lo, hi)]
        | _, _ => []) ++
      last.tail.map single

/-- A byte belongs to one of the ranges. -/
def inRanges (ranges : List (Char × Char)) (b : UInt8) : Bool :=
  (ranges.flatMap byteRanges).any fun (lo, hi) => lo ≤ b && b ≤ hi

/-- Marked places in a path: a mark before each byte and one at the end. -/
abbrev Marks := List Bool

namespace Marks

/-- Nothing but the start of a path is marked. -/
def start (bytes : List UInt8) : Marks :=
  true :: bytes.map fun _ => false

/-- The places behind one byte that satisfies a condition and has a mark before it. -/
def behind (holds : UInt8 → Bool) (bytes : List UInt8) (marks : Marks) : Marks :=
  false :: List.zipWith (fun b marked => marked && holds b) bytes marks

/-- The marked places and all places after them; `seen` tells of a mark further in front. -/
def onwardFrom (seen : Bool) : Marks → Marks
  | [] => []
  | marked :: marks => (seen || marked) :: onwardFrom (seen || marked) marks

/-- The marked places and all places after them. -/
def onward (marks : Marks) : Marks :=
  onwardFrom false marks

/-- The places behind a slash that has a mark before it. -/
def behindSlash (bytes : List UInt8) (marks : Marks) : Marks :=
  marks.behind (· == slash) bytes

/-- The places that are marked in either way. -/
def union (marks others : Marks) : Marks :=
  List.zipWith (· || ·) marks others

/-- No place is marked. -/
def erase (marks : Marks) : Marks :=
  marks.map fun _ => false

/-- The end of the path is marked. -/
def atEnd (marks : Marks) : Bool :=
  marks.getLast? == some true

end Marks

mutual

/-- The places where a piece can end that starts at a marked place. -/
def Piece.ends (bytes : List UInt8) (marks : Marks) : Piece → Marks
  | .char c => (charBytes c).foldl (fun marks b => marks.behind (· == b) bytes) marks
  | .anyByte => marks.behind (fun _ => true) bytes
  | .anyRun => marks.onward
  | .leadingFolders => marks.union (marks.onward.behindSlash bytes)
  | .trailingFolders => (marks.behindSlash bytes).onward
  | .innerFolders =>
    let entered := marks.behindSlash bytes
    entered.union (entered.onward.behindSlash bytes)
  | .byteClass negated ranges => marks.behind (fun b => inRanges ranges b != negated) bytes
  | .oneOf [] => marks
  | .oneOf (branch :: branches) => branchEnds bytes marks (branch :: branches)

/-- The places where a sequence of pieces can end. -/
def sequenceEnds (bytes : List UInt8) (marks : Marks) : List Piece → Marks
  | [] => marks
  | piece :: pieces => sequenceEnds bytes (piece.ends bytes marks) pieces

/-- The places where one of several sequences can end. -/
def branchEnds (bytes : List UInt8) (marks : Marks) : List (List Piece) → Marks
  | [] => marks.erase
  | branch :: branches => (sequenceEnds bytes marks branch).union (branchEnds bytes marks branches)

end

end Glob

/-- A pattern with its text. -/
structure Glob where
  text : String
  pieces : List Glob.Piece

namespace Glob

/-- The piece is a character. -/
def isChar : Piece → Bool
  | .char _ => true
  | _ => false

/-- The piece is the given character. -/
def isTheChar (c : Char) : Piece → Bool
  | .char d => c == d
  | _ => false

/-- The pattern is nothing but text at the end of the path, by one of the forms `text`,
`*text` and `**/folder/text`; `*.` and a single name after `**/` are left to the file name. -/
def isSuffixForm (pieces : List Piece) : Bool :=
  let (folders, pieces) := match pieces with
    | .leadingFolders :: rest => (true, rest)
    | _ => (false, pieces)
  let (run, pieces) := match pieces with
    | .anyRun :: rest => (true, rest)
    | _ => (false, pieces)
  pieces.all isChar &&
    (if run then pieces.length ≠ 1 else !folders || pieces.any (isTheChar '/'))

/-- The last character of the pattern is a dot that is compared with the file name. -/
def needsFileName (pieces : List Piece) : Bool :=
  (pieces.getLast?.map (isTheChar '.')).getD false && !isSuffixForm pieces

/-- The path leads to the folder above another one, so that its last step is no file name. -/
def endsAbove (path : String) : Bool :=
  path == ".." || path.endsWith "/.."

/-- The pattern stands for a path. -/
def isMatch (glob : Glob) (path : String) : Bool :=
  match glob.pieces with
  | [.leadingFolders] => true
  | pieces =>
    let bytes := bytesOf path
    !(needsFileName pieces && endsAbove path) &&
      (sequenceEnds bytes (.start bytes) pieces).atEnd

end Glob

end DiagnosticReport
