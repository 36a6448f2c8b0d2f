import DiagnosticReport.Query.Sort

/-!
# Sorting long lists

Up to twenty items are sorted by insertion, more of them by merging runs. A run is a stretch that
is in order already, or a short piece that is sorted at once. In a long list pieces stay as they
are as long as their neighbours do, and what has grown together is sorted by partition.

If the order is transitive, all of this comes to the stable sort. If it is not, the result may be in
any order; and since a short piece is merged from both ends at once, the two ends may then meet in
the wrong place. The sort breaks down in that case, and gives no result.
-/

namespace DiagnosticReport

variable {α : Type} (order : α → α → Ordering)

/-- The first item may stand before the second one. -/
def inOrder (a b : α) : Bool :=
  order b a != .lt

/-! ## Merging -/

/-- The first `n` items of the merge of two lists, and how many of them are from the first list. -/
def mergeStart : Nat → List α → List α → List α × Nat
  | n + 1, a :: as, b :: bs =>
    if inOrder order a b then
      let (merged, count) := mergeStart n as (b :: bs)
      (a :: merged, count + 1)
    else
      let (merged, count) := mergeStart n (a :: as) bs
      (b :: merged, count)
  | _, _, _ => ([], 0)

/-- The merge of two lists from both ends at once, each end taking as many items as there are in
the first list. It breaks down if an item is taken by both ends. -/
def mergeBothEnds? (left right : List α) : Option (List α) :=
  let n := left.length
  let (front, i) := mergeStart order n left right
  let (back, j) := mergeStart (flip order) n right.reverse left.reverse
  let rest := right.length - j
  if i ≤ j ∧ n - i ≤ rest then
    some (front ++ ((left.take j).drop i ++ (right.take rest).drop (n - i)) ++ back.reverse)
  else none

/-- The merge of two lists from the end. -/
def mergeBackward (left right : List α) : List α :=
  (List.merge right.reverse left.reverse (inOrder (flip order))).reverse

/-- The merge of two runs, from the side of the shorter one. -/
def mergeRuns (left right : List α) : List α :=
  if left.length ≤ right.length then List.merge left right (inOrder order)
  else mergeBackward order left right

/-! ## Short pieces -/

/-- Two items in order. -/
def sortTwo (a b : α) : α × α :=
  if inOrder order a b then (a, b) else (b, a)

/-- Four items in order: both pairs first, then the first and the last of all, then the rest. -/
def sortFour (a b c d : α) : List α :=
  let (p, q) := sortTwo order a b
  let (r, s) := sortTwo order c d
  match inOrder order p r, inOrder order q s with
  | true, true =>
    let (x, y) := sortTwo order q r
    [p, x, y, s]
  | true, false =>
    let (x, y) := sortTwo order r s
    [p, x, y, q]
  | false, true =>
    let (x, y) := sortTwo order p q
    [r, x, y, s]
  | false, false =>
    let (x, y) := sortTwo order p s
    [r, x, y, q]

/-- Insert items one after the other into a sorted list. -/
def insertAll (sorted items : List α) : List α :=
  (items.foldl (fun done item => insertReversed order item done) sorted.reverse).reverse

/-- One half of a short piece, sorted; the first four items are sorted at once in longer pieces. -/
def sortHalf (isLong : Bool) (items : List α) : List α :=
  match isLong, items with
  | true, a :: b :: c :: d :: rest => insertAll order (sortFour order a b c d) rest
  | _, items => stableSort order items

/-- A short piece, sorted. -/
def sortPiece? (items : List α) : Option (List α) :=
  let middle := items.length / 2
  let isLong := decide (8 ≤ items.length)
  mergeBothEnds? order (sortHalf order isLong (items.take middle))
    (sortHalf order isLong (items.drop middle))

/-- The length of a short piece. -/
def pieceLength : Nat :=
  32

/-! ## Runs -/

/-- A stretch of a list, sorted or still as it stood. -/
structure Run (α : Type) where
  items : List α
  isSorted : Bool

/-- The number of items from the first one on that stand in a relation, each to the next. -/
def chainLength (related : α → α → Bool) : List α → Nat
  | a :: b :: rest => if related a b then chainLength related (b :: rest) + 1 else 1
  | items => items.length

/-- The items from the first one on that are in order or in strictly reverse order, in order. -/
def naturalRun (items : List α) : List α :=
  match items with
  | a :: b :: _ =>
    if inOrder order a b then items.take (chainLength (inOrder order) items)
    else (items.take (chainLength (fun a b => !inOrder order a b) items)).reverse
  | _ => items

/-- The first run of a list. If the items are in order for less than `enough` of them, it is a short
piece, sorted at once by an eager sort. -/
def firstRun? (isEager : Bool) (enough : Nat) (items : List α) : Option (Run α) :=
  let natural := naturalRun order items
  if enough ≤ natural.length then some ⟨natural, true⟩
  else if isEager then (sortPiece? order (items.take pieceLength)).map fun sorted => ⟨sorted, true⟩
  else some ⟨items.take enough, false⟩

/-- A list cut into runs. -/
def runs? (isEager : Bool) (enough : Nat) : List α → Option (List (Run α))
  | [] => some []
  | item :: rest => do
    let run ← firstRun? order isEager enough (item :: rest)
    let others ← runs? isEager enough (rest.drop (run.items.length - 1))
    return run :: others
termination_by items => items.length
decreasing_by
  simp only [List.length_drop, List.length_cons]
  omega

/-- The square root of a number, roughly. -/
def roughRoot (n : Nat) : Nat :=
  let shift := (1 + n.log2) / 2
  (Nat.pow 2 shift + n / Nat.pow 2 shift) / 2

/-- How many items in order are enough for a run. -/
def enoughFor (length : Nat) : Nat :=
  if length ≤ 4096 then min (length - length / 2) 64 else roughRoot length

/-! ## The tree of merges -/

/-- The depth of the node between two stretches in a balanced tree over a list. -/
def nodeDepth (length start middle stop : Nat) : Nat :=
  let scale := (Nat.pow 2 62 + length - 1) / length
  63 - (Nat.xor (scale * (start + middle)) (scale * (middle + stop))).log2

section

variable (sort? : List α → Option (List α)) (capacity : Nat)

/-- The items of a run in order; `sort?` is for the runs that are not sorted. -/
def Run.sorted? (run : Run α) : Option (List α) :=
  if run.isSorted then some run.items else sort? run.items

/-- Two neighbouring runs as one. Two that are not sorted stay so, up to the capacity. -/
def joinRuns? (left right : Run α) : Option (Run α) :=
  if left.isSorted || right.isSorted || capacity < left.items.length + right.items.length then do
    let first ← left.sorted? sort?
    let second ← right.sorted? sort?
    return ⟨mergeRuns order first second, true⟩
  else some ⟨left.items ++ right.items, false⟩

/-- Join the last run to the runs that wait before it, as long as their nodes are no less deep. -/
def collapse? (depth : Nat) : List (Run α × Nat) → Run α → Option (List (Run α × Nat) × Run α)
  | [], last => some ([], last)
  | (left, leftDepth) :: waiting, last =>
    if depth ≤ leftDepth then do
      let joined ← joinRuns? order sort? capacity left last
      collapse? depth waiting joined
    else some ((left, leftDepth) :: waiting, last)

/-- Join all runs to one. The runs that wait, the latest first, have the depth of the node behind
them; `last` is the run after them and ends at `stop`. -/
def joinAll? (length : Nat) :
    List (Run α × Nat) → Run α → Nat → List (Run α) → Option (Run α)
  | waiting, last, _, [] => (collapse? order sort? capacity 0 waiting last).map Prod.snd
  | waiting, last, stop, next :: others => do
    let later := stop + next.items.length
    let depth := nodeDepth length (stop - last.items.length) stop later
    let (waiting, joined) ← collapse? order sort? capacity depth waiting last
    joinAll? length ((joined, depth) :: waiting) next later others

/-- Sort by merging runs. -/
def sortRuns? (isEager : Bool) (items : List α) : Option (List α) := do
  match ← runs? order isEager (enoughFor items.length) items with
  | [] => some []
  | first :: others =>
    let run ← joinAll? order sort? capacity items.length [] first first.items.length others
    run.sorted? sort?

end

/-- Sort by merging runs that are all sorted at once. -/
def sortEagerly? (items : List α) : Option (List α) :=
  sortRuns? order (sortPiece? order) items.length true items

/-! ## Partition -/

/-- The place of the middle one of the items at three places. -/
def medianPlace (isBefore : Nat → Nat → Bool) (a b c : Nat) : Nat :=
  if isBefore a b = isBefore a c then (if isBefore b c = isBefore a b then b else c) else a

/-- The place of an item near the middle, from three stretches of `n` items. -/
def pseudoMedian (isBefore : Nat → Nat → Bool) (a b c n : Nat) : Nat :=
  if 8 ≤ n then
    let part := n / 8
    let median (start : Nat) :=
      pseudoMedian isBefore start (start + part * 4) (start + part * 7) part
    medianPlace isBefore (median a) (median b) (median c)
  else medianPlace isBefore a b c
termination_by n

/-- The item by which a list is parted. -/
def pivot? (items : List α) : Option α :=
  let part := items.length / 8
  let isBefore (i j : Nat) : Bool :=
    match items[i]?, items[j]? with
    | some a, some b => !inOrder order b a
    | _, _ => false
  items[pseudoMedian isBefore 0 (part * 4) (part * 7) part]?

/-- Sort by partition, at most `limit` times in each other. No item precedes `ancestor`, if there is
one; a pivot that is tied with it is parted from the larger items only. -/
def sortParts? : Nat → Option α → List α → Option (List α)
  | 0, _, items =>
    if items.length ≤ pieceLength then sortPiece? order items else sortEagerly? order items
  | limit + 1, ancestor, items =>
    if items.length ≤ pieceLength then sortPiece? order items
    else do
      let pivot ← pivot? order items
      let smaller := items.filter fun item => !inOrder order pivot item
      if smaller.isEmpty || ancestor.any (inOrder order pivot) then
        let larger ← sortParts? limit none (items.filter fun item => !inOrder order item pivot)
        return (items.filter fun item => inOrder order item pivot) ++ larger
      else
        let others ← sortParts? limit (some pivot) (items.filter (inOrder order pivot))
        let smaller ← sortParts? limit ancestor smaller
        return smaller ++ others

/-! ## Sorting -/

/-- The number of items up to which a sort takes as much space as there are items. -/
def spaceLimit : Nat :=
  111111

/-- Sort a list; none if the sort breaks down. -/
def sort? (items : List α) : Option (List α) :=
  let n := items.length
  if n ≤ 20 then some (stableSort order items)
  else
    let sortLong? (items : List α) := sortParts? order (2 * items.length.log2) none items
    sortRuns? order sortLong? (max (n - n / 2) (min n spaceLimit)) (n ≤ 2 * pieceLength) items

end DiagnosticReport
