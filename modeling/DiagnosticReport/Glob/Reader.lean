import DiagnosticReport.Glob.Basic

/-!
# Reading glob patterns

A pattern is read from left to right. The groups that are open at a point form a stack; each holds
its finished branches and the branch that is being read, in reverse order. The first fault from the
left is the error, a group that is never closed counts last.
-/

namespace DiagnosticReport.Glob

/-- A group that is being read, or the whole pattern. -/
structure Group where
  finished : List (List Piece) := []
  current : List Piece := []

/-- What has been read. -/
structure Progress where
  /-- The innermost group. -/
  group : Group := {}
  /-- The groups around it; none for the pattern itself. -/
  outer : List Group := []
  /-- The last character that was read. -/
  previous : Option Char := none

namespace Progress

/-- A group is open. -/
def inGroup (p : Progress) : Bool :=
  !p.outer.isEmpty

/-- Add pieces to the branch that is being read. -/
def push (p : Progress) (pieces : List Piece) : Progress :=
  { p with group := { p.group with current := pieces.reverse ++ p.group.current } }

/-- Note the last character that was read. -/
def after (p : Progress) (c : Char) : Progress :=
  { p with previous := some c }

/-- Open a group. -/
def openGroup (p : Progress) : Progress :=
  { p with group := {}, outer := p.group :: p.outer }

/-- Start the next branch of a group. -/
def nextBranch (p : Progress) : Progress :=
  { p with group := ⟨p.group.current.reverse :: p.group.finished, []⟩ }

/-- The pieces that stand for nothing but the empty text. -/
def isVoid : List Piece → Bool
  | [] => true
  | .oneOf [] :: rest => isVoid rest
  | _ => false

/-- Close the innermost group; its empty branches do not count. -/
def closeGroup (p : Progress) : Except Fault Progress :=
  match p.outer with
  | [] => .error .unopenedGroup
  | around :: outer =>
    let branches := (p.group.current.reverse :: p.group.finished).reverse
    let piece := Piece.oneOf (branches.filter fun branch => !isVoid branch)
    .ok { p with group := { around with current := piece :: around.current }, outer := outer }

/-- Replace the slash before `**` by the folders that both stand for. -/
def pushFolders (p : Progress) (atEnd : Bool) : Progress :=
  let piece (last : Piece) : Piece :=
    match last with
    | .leadingFolders => .leadingFolders
    | .trailingFolders => .trailingFolders
    | _ => if atEnd then .trailingFolders else .innerFolders
  match p.group.current with
  | last :: rest => { p with group := { p.group with current := piece last :: rest } }
  | [] => p

end Progress

/-- Read the rest of `**` after its second star. -/
def readStars (p : Progress) (cs : List Char) : Progress × List Char :=
  let runs := ((p.push [.anyRun, .anyRun]).after '*', cs)
  let atStart := p.group.current.isEmpty
  let afterSlash := p.previous == some '/' ||
    (p.inGroup && (p.previous == some ',' || p.previous == some '\x7b'))
  if atStart then
    match cs with
    | [] => (p.push [.leadingFolders], [])
    | '/' :: cs => ((p.push [.leadingFolders]).after '/', cs)
    | _ => runs
  else if !afterSlash then runs
  else
    match cs with
    | [] => (p.pushFolders true, [])
    | '/' :: cs => ((p.pushFolders false).after '/', cs)
    | c :: _ =>
      if p.inGroup && (c == ',' || c == '\x7d') then ((p.pushFolders true).after '*', cs)
      else runs

/-- Extend the last range of a class, which is first in the list, to a character. -/
def extendRange (c : Char) : List (Char × Char) → Except Fault (List (Char × Char))
  | (first, _) :: rest =>
    if c < first then .error (.invalidRange first c) else .ok ((first, c) :: rest)
  | [] => .ok [(c, c)]

/-- Read a class up to its closing bracket, with the ranges so far in reverse order. In front, a
bracket or a hyphen stands for itself, and so does a hyphen at the end. -/
def readClass (ranges : List (Char × Char)) (inRange : Bool) :
    List Char → Except Fault (List (Char × Char) × List Char)
  | [] => .error .unclosedClass
  | c :: cs =>
    if c = ']' ∧ !ranges.isEmpty then
      .ok ((if inRange then ('-', '-') :: ranges else ranges).reverse, cs)
    else if inRange then do
      let ranges ← extendRange c ranges
      readClass ranges false cs
    else if c = '-' ∧ !ranges.isEmpty then readClass ranges true cs
    else readClass ((c, c) :: ranges) false cs

/-- Read a pattern; each step takes from `fuel`. -/
def readFrom (fuel : Nat) (p : Progress) (cs : List Char) : Except Fault Progress :=
  match fuel, cs with
  | _, [] => .ok p
  | 0, _ => .ok p
  | fuel + 1, c :: cs =>
    match c with
    | '?' => readFrom fuel ((p.push [.anyByte]).after c) cs
    | '*' =>
      match cs with
      | '*' :: cs =>
        let (p, cs) := readStars p cs
        readFrom fuel p cs
      | cs => readFrom fuel ((p.push [.anyRun]).after c) cs
    | '[' => do
      let (negated, cs) := match cs with
        | '!' :: cs => (true, cs)
        | '^' :: cs => (true, cs)
        | cs => (false, cs)
      let (ranges, cs) ← readClass [] false cs
      readFrom fuel ((p.push [.byteClass negated ranges]).after ']') cs
    | '\x7b' => readFrom fuel (p.openGroup.after c) cs
    | '\x7d' => do
      let p ← p.closeGroup
      readFrom fuel (p.after c) cs
    | ',' =>
      let p := if p.inGroup then p.nextBranch else p.push [.char c]
      readFrom fuel (p.after c) cs
    | '\\' =>
      match cs with
      | [] => .error .danglingEscape
      | c :: cs => readFrom fuel ((p.push [.char c]).after c) cs
    | c => readFrom fuel ((p.push [.char c]).after c) cs

/-- Read a pattern. -/
def parse (text : String) : Except Fault Glob := do
  let cs := text.toList
  let p ← readFrom cs.length {} cs
  if p.inGroup then .error .unclosedGroup else .ok ⟨text, p.group.current.reverse⟩

end DiagnosticReport.Glob
