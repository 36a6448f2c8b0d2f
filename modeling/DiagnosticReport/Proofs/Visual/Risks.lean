import DiagnosticReport.Proofs.Markup.Attributes
import DiagnosticReport.Proofs.Markup.Rendering
import DiagnosticReport.Proofs.Path.Printing
import DiagnosticReport.Proofs.Text.Escaped
import DiagnosticReport.Proofs.Visual.Labels
import DiagnosticReport.Visual.RiskMatrix
import Mathlib.Algebra.GroupWithZero.Nat

/-!
# Risks on the grid

Sorting in one more risk makes the grid larger by one, whether the risk has a place or not, and
leaves all other cells as they are. So a grid holds each risk once, and what its table shows adds up
to the number of risks (`Visual.risks_kept`).
-/

namespace DiagnosticReport.Visual

open Markup

/-! ## Places -/

/-- Levels are numbered from 1 to 3. -/
theorem Level.number_mem (level : Level) : 1 ≤ level.number ∧ level.number ≤ 3 := by
  cases level <;> decide

theorem Level.index_inj {l m : Level} : l.index = m.index ↔ l = m := by
  cases l <;> cases m <;> decide

section

variable {item : Json} {likelihood severity : Level}

/-- An item has a place if both its ratings are recognized, and these are its place. -/
theorem place?_eq_some_iff :
    place? item = some (likelihood, severity) ↔
      Level.ofRating? (item.get? "likelihood") = some likelihood ∧
        Level.ofRating? (item.get? "severity") = some severity := by
  unfold place?
  cases Level.ofRating? (item.get? "severity") <;>
    cases Level.ofRating? (item.get? "likelihood") <;> simp

/-- An item has no place if one of its ratings is not recognized. -/
theorem place?_eq_none_iff :
    place? item = .none ↔
      Level.ofRating? (item.get? "likelihood") = .none ∨
        Level.ofRating? (item.get? "severity") = .none := by
  unfold place?
  cases Level.ofRating? (item.get? "severity") <;>
    cases Level.ofRating? (item.get? "likelihood") <;> simp

end

/-- The cells of the table, row by row: likelihood and severity. -/
def places : List (Level × Level) :=
  Level.all.reverse.flatMap fun likelihood => Level.all.map fun severity => (likelihood, severity)

/-! ## The grid -/

namespace RiskGrid

/-- The number of risks of a grid. -/
def total (grid : RiskGrid) : Nat :=
  (places.map fun p => (grid.cell p.1 p.2).size).sum + grid.unplaced

section

variable (s : Section) (grid : RiskGrid) (likelihood severity l t : Level)

/-- The cell of two levels stands at their numbers less one. -/
theorem getElem?_rows_eq_cell :
    (grid.rows[likelihood.number - 1]?.bind fun row => row[severity.number - 1]?) =
      some (grid.cell likelihood severity) := by
  cases likelihood <;> cases severity <;> rfl

/-- A label is put into one cell and leaves the others as they are. -/
@[simp] theorem cell_put (label : String) :
    (grid.put likelihood severity label).cell l t =
      if likelihood = l ∧ severity = t then (grid.cell likelihood severity).push label
      else grid.cell l t := by
  simp only [cell, put, Fin.getElem_fin, Vector.getElem_set, Fin.val_inj, Level.index_inj]
  by_cases hl : likelihood = l
  · subst hl
    simp [Vector.getElem_set, Fin.val_inj, Level.index_inj]
  · simp [hl]

@[simp] theorem unplaced_put (label : String) :
    (grid.put likelihood severity label).unplaced = grid.unplaced := rfl

/-- **One more risk** makes the grid larger by one. -/
theorem total_add (item : Json) : (grid.add s item).total = grid.total + 1 := by
  unfold add
  cases place? item with
  | none => rfl
  | some place =>
    obtain ⟨l, t⟩ := place
    cases l <;> cases t <;> simp [total, places, Level.all] <;> omega

/-- A cell grows by the label of an item just if the item has its place there. -/
theorem toList_cell_add (item : Json) :
    ((grid.add s item).cell l t).toList =
      (grid.cell l t).toList ++ if place? item = some (l, t) then [riskLabel s item] else [] := by
  unfold add
  cases place? item with
  | none => simp [cell]
  | some place =>
    obtain ⟨likelihood, severity⟩ := place
    by_cases h : likelihood = l ∧ severity = t
    · obtain ⟨rfl, rfl⟩ := h
      simp
    · simp [h]

/-- The unplaced items are one more just if the item has no place. -/
theorem unplaced_add (item : Json) :
    (grid.add s item).unplaced = grid.unplaced + if place? item = .none then 1 else 0 := by
  unfold add
  cases place? item <;> rfl

end

section

variable (s : Section) (items : List Json) (grid : RiskGrid)

/-- Every item makes the grid larger by one. -/
theorem total_foldl : (items.foldl (add s) grid).total = grid.total + items.length := by
  induction items generalizing grid with
  | nil => rfl
  | cons item items ih => rw [List.foldl_cons, ih, total_add, List.length_cons]; omega

/-- A cell grows by the labels of the items with a place there, in their order. -/
theorem toList_cell_foldl (l t : Level) :
    ((items.foldl (add s) grid).cell l t).toList = (grid.cell l t).toList ++
      (items.filter fun item => place? item = some (l, t)).map (riskLabel s) := by
  induction items generalizing grid with
  | nil => simp
  | cons item items ih =>
    rw [List.foldl_cons, ih, toList_cell_add, List.append_assoc, List.filter_cons]
    by_cases h : place? item = some (l, t) <;> simp [h]

/-- The unplaced items grow by those without a place. -/
theorem unplaced_foldl :
    (items.foldl (add s) grid).unplaced = grid.unplaced +
      items.countP fun item => place? item = .none := by
  induction items generalizing grid with
  | nil => rfl
  | cons item items ih =>
    rw [List.foldl_cons, ih, unplaced_add, List.countP_cons]
    by_cases h : place? item = .none
    · simp [h]
      omega
    · simp [h]

/-- A grid holds each risk once. -/
theorem total_ofItems : (ofItems s items).total = items.length := by
  have hempty : total {} = 0 := rfl
  rw [ofItems, total_foldl, hempty, Nat.zero_add]

/-- A cell holds the risks whose ratings lead to it, in their order. -/
theorem toList_cell_ofItems (l t : Level) :
    ((ofItems s items).cell l t).toList =
      (items.filter fun item => place? item = some (l, t)).map (riskLabel s) := by
  have hempty : (cell {} l t).toList = [] := by
    cases l <;> cases t <;> rfl
  rw [ofItems, toList_cell_foldl, hempty, List.nil_append]

/-- The unplaced items are those without a place. -/
theorem unplaced_ofItems :
    (ofItems s items).unplaced = items.countP fun item => place? item = .none := by
  rw [ofItems, unplaced_foldl, Nat.zero_add]

end

end RiskGrid

/-! ## The table -/

/-- The tag of a cell with a number of risks. -/
def cellTag (likelihood severity : Level) (count : Nat) : String :=
  "td class=\"risk-cell risk-" ++ (exposure likelihood severity).name ++ "\" data-count=\"" ++
    Decimal.natText count ++ "\""

/-- The style class of a cell has nothing to escape. -/
theorem escape_cellClass (level : Level) :
    Text.escape ("risk-cell risk-" ++ level.name) = "risk-cell risk-" ++ level.name := by
  cases level <;> decide +kernel

/-- The tag of a cell is written with its style class and its number. -/
theorem cellTag_eq (likelihood severity : Level) (count : Nat) :
    cellTag likelihood severity count = Tag.td.name ++ renderAttributes
      [(.styleClass, "risk-cell risk-" ++ (exposure likelihood severity).name),
        (.dataCount, Decimal.natText count)] := by
  have hclass : "td class=\"risk-cell risk-" =
      Tag.td.name ++ (" " ++ Attribute.styleClass.name ++ "=\"" ++ "risk-cell risk-") := by
    decide +kernel
  have hcount : "\" data-count=\"" = "\"" ++ (" " ++ Attribute.dataCount.name ++ "=\"") := by
    decide +kernel
  have hstyle := escape_cellClass (exposure likelihood severity)
  have hnumber := (Decimal.isPlain_natText count).escape_eq
  unfold cellTag
  -- the texts must not be evaluated
  generalize Decimal.natText count = digits at *
  generalize (exposure likelihood severity).name = style at *
  rw [hclass, hcount]
  simp only [renderAttributes_cons, renderAttributes_nil, renderAttribute, hstyle, hnumber,
    String.append_assoc, String.append_empty]

/-- What is read piece by piece off a table, and not off what stands around its cells. -/
structure ReadsCells {β : Type} (read : Markup → List β) : Prop where
  empty : read .empty = []
  text (text : String) : read (.text text) = []
  append (m n : Markup) : read (m ++ n) = read m ++ read n
  element {tag : Tag} (h : tag ∈ [.table, .thead, .tbody, .tr, .th])
    (attributes : List (Attribute × String)) (body : Markup) :
    read (.element tag attributes body) = read body

namespace ReadsCells

variable {β : Type} {read : Markup → List β} (h : ReadsCells read)

include h

theorem concat (pieces : List Markup) : read (.concat pieces) = pieces.flatMap read := by
  induction pieces with
  | nil => exact h.empty
  | cons piece pieces ih =>
    rw [List.flatMap_cons, ← ih]
    exact h.append ..

theorem plain {tag : Tag} (htag : tag ∈ [.table, .thead, .tbody, .tr, .th]) (body : Markup) :
    read (.plain tag body) = read body :=
  h.element htag ..

/-- A table is read cell by cell, and then its note. -/
theorem riskTable (grid : RiskGrid) :
    read (riskTable grid) =
      (places.flatMap fun p => read (riskCell grid p.1 p.2)) ++
        read (unplacedNote grid.unplaced) := by
  have hheader (text : String) : read (.plain .th (.text text)) = [] := by
    rw [h.plain (by decide), h.text]
  have hheaders :
      read (.concat (Level.all.map fun level => .plain .th (.text level.label))) = [] := by
    rw [h.concat]
    exact List.flatMap_eq_nil_iff.2 (List.forall_mem_map.2 fun _ _ => hheader _)
  have hrow (likelihood : Level) : read (riskRow grid likelihood) =
      Level.all.flatMap fun severity => read (riskCell grid likelihood severity) := by
    rw [riskRow, h.plain (by decide), h.append, hheader, h.concat, List.flatMap_map,
      List.nil_append]
  rw [Visual.riskTable, h.append, styled, h.element (by decide), h.append, h.plain (by decide),
    h.plain (by decide), h.plain (by decide), h.append, hheader, hheaders, h.concat,
    List.nil_append, List.nil_append, List.flatMap_map, places, List.flatMap_assoc]
  simp only [hrow, List.flatMap_map]

end ReadsCells

/-! ### Counts -/

/-- The tags of cells among the tags of markup. -/
def cellTags (m : Markup) : List (List Char) :=
  m.tags.filter "td ".toList.isPrefixOf

theorem readsCells_cellTags : ReadsCells cellTags where
  empty := rfl
  text _ := rfl
  append _ _ := List.filter_append ..
  element {tag} h attributes body := by
    have hcell : IsOpening "td " := by decide
    have hclosing := isPrefixOf_closing hcell tag
    have hopening : "td ".toList.isPrefixOf (tag.name ++ renderAttributes attributes).toList =
        false := by
      rw [toList_name_attributes]
      cases tag <;> first | rfl | exact absurd h (by decide)
    rw [cellTags, tags, List.cons_append, List.filter_cons, hopening, List.filter_append,
      List.filter_cons, hclosing]
    exact List.append_nil _

section

variable (grid : RiskGrid)

/-- Among the tags in a cell, its own is the only one of a cell. -/
theorem cellTags_riskCell (likelihood severity : Level) :
    cellTags (riskCell grid likelihood severity) =
      [(cellTag likelihood severity (grid.cell likelihood severity).size).toList] := by
  have hlabels (labels : List String) :
      cellTags (concat (labels.map fun label => styled .span "risk-item" (.text label))) = [] := by
    rw [readsCells_cellTags.concat]
    exact List.flatMap_eq_nil_iff.2 (List.forall_mem_map.2 fun _ _ => rfl)
  have hopens (style count : String) :
      opens "td " .td [(.styleClass, style), (.dataCount, count)] = true := rfl
  rw [riskCell, cellTags, tags, List.cons_append, List.filter_cons, List.filter_append,
    ← cellTags, hlabels, toList_name_attributes, ← opens, hopens, cellTag_eq,
    toList_name_attributes]
  rfl

/-- The tags of cells in the table are those of the nine cells, in their order. -/
theorem cellTags_riskTable :
    cellTags (riskTable grid) =
      places.map fun p => (cellTag p.1 p.2 (grid.cell p.1 p.2).size).toList := by
  have hnote : cellTags (unplacedNote grid.unplaced) = [] := by
    unfold unplacedNote
    split <;> rfl
  rw [readsCells_cellTags.riskTable, hnote, List.append_nil, List.map_eq_flatMap]
  exact List.flatMap_congr fun p _ => cellTags_riskCell grid p.1 p.2

/-! ### Labels and note -/

theorem readsCells_opened {opening : String}
    (h : ∀ tag ∈ [.table, .thead, .tbody, .tr, .th], ∀ attributes,
      opens opening tag attributes = false) : ReadsCells (Markup.opened opening) where
  empty := rfl
  text _ := rfl
  append _ _ := rfl
  element htag _ _ := opened_element_of_not_opens (h _ htag _)

theorem labelsWithin_riskCell (likelihood severity : Level) :
    labelsWithin "td class=\"risk-cell " "span class=\"risk-item\""
      (riskCell grid likelihood severity) =
      [(grid.cell likelihood severity).toList.map Text.escape] := by
  have hopens (level : Level) (count : String) : opens "td class=\"risk-cell " .td
      [(.styleClass, "risk-cell risk-" ++ level.name), (.dataCount, count)] = true := by
    cases level <;> rfl
  have hcells (labels : List String) :
      (concat (labels.map fun label => styled .span "risk-item" (.text label))).opened
        "td class=\"risk-cell " = [] :=
    opened_concat_eq_nil (List.forall_mem_map.2 fun _ _ => rfl)
  rw [labelsWithin, riskCell, opened_element_of_opens (hopens ..), hcells, List.map_singleton]
  exact congrArg ([·]) (map_opened_concat_map (fun label => rfl) _)

/-- The labels in the cells of the table are those in the cells of the grid. -/
theorem labelsWithin_riskTable :
    labelsWithin "td class=\"risk-cell " "span class=\"risk-item\"" (riskTable grid) =
      places.map fun p => (grid.cell p.1 p.2).toList.map Text.escape := by
  have hread : ReadsCells (Markup.opened "td class=\"risk-cell ") :=
    readsCells_opened fun tag htag _ => by
      cases tag <;> first | rfl | exact absurd htag (by decide)
  have hnote : (unplacedNote grid.unplaced).opened "td class=\"risk-cell " = [] := by
    unfold unplacedNote
    split <;> rfl
  rw [labelsWithin, hread.riskTable, hnote, List.append_nil, List.map_flatMap,
    List.map_eq_flatMap]
  exact List.flatMap_congr fun p _ => labelsWithin_riskCell grid p.1 p.2

/-- There is a note just if an item is unplaced, and it says how many are. -/
theorem opened_note_riskTable :
    ((riskTable grid).opened "p class=\"risk-unplaced\"").map render =
      if grid.unplaced = 0 then []
      else [countOf grid.unplaced "risk" ++ " without a recognizable severity or likelihood"] := by
  have hread : ReadsCells (Markup.opened "p class=\"risk-unplaced\"") :=
    readsCells_opened fun tag htag _ => by
      cases tag <;> first | rfl | exact absurd htag (by decide)
  have hcell (likelihood severity : Level) :
      (riskCell grid likelihood severity).opened "p class=\"risk-unplaced\"" = [] := by
    rw [riskCell, opened_element_of_not_opens rfl]
    exact opened_concat_eq_nil (List.forall_mem_map.2 fun _ _ => rfl)
  have hplain (n : Nat) (ending : String) (h : Text.IsPlain ending) :
      Text.escape (countOf n "risk" ++ ending) = countOf n "risk" ++ ending := by
    have hplural : Text.IsPlain (if n = 1 then "" else "s") := by
      split <;> decide
    have hword : Text.IsPlain " " ∧ Text.IsPlain "risk" := by decide
    rw [countOf, Text.escape_append, Text.escape_append, Text.escape_append, Text.escape_append,
      (Decimal.isPlain_natText n).escape_eq, hplural.escape_eq, hword.1.escape_eq,
      hword.2.escape_eq, h.escape_eq]
  rw [hread.riskTable, List.flatMap_eq_nil_iff.2 fun p _ => hcell p.1 p.2, List.nil_append,
    unplacedNote]
  split
  · rfl
  · exact congrArg ([·]) (hplain _ _ (by decide +kernel))

end

/-! ### Numbers -/

/-- The first number that stands in a text. -/
def firstNumber (cs : List Char) : Nat :=
  Decimal.digitsValue ((cs.dropWhile fun c => !c.isDigit).takeWhile Char.isDigit)

/-- A number is read back between characters that are no digits. -/
theorem firstNumber_natText {front : List Char} (hfront : ∀ c ∈ front, c.isDigit = false) (n : Nat)
    {c : Char} (hc : c.isDigit = false) (rest : List Char) :
    firstNumber (front ++ (Decimal.natText n).toList ++ c :: rest) = n := by
  have hdigits : ∀ d ∈ (Decimal.natText n).toList, d.isDigit = true :=
    fun d => Segment.isDigit_of_mem_natText
  have hchars : (Decimal.natText n).toList = Nat.toDigits 10 n := String.toList_ofList
  have hdrop : (front ++ (Decimal.natText n).toList ++ c :: rest).dropWhile (fun c => !c.isDigit) =
      (Decimal.natText n).toList ++ c :: rest := by
    rw [List.append_assoc, List.dropWhile_append_of_pos fun d hd => by rw [hfront d hd]; rfl]
    cases hdigits' : (Decimal.natText n).toList with
    | nil => exact absurd (hchars.symm.trans hdigits') Nat.toDigits_ne_nil
    | cons d ds =>
      rw [List.cons_append, List.dropWhile_cons_of_neg]
      simp [hdigits d (hdigits' ▸ List.mem_cons_self ..)]
  rw [firstNumber, hdrop, List.takeWhile_append_of_pos hdigits,
    List.takeWhile_cons_of_neg (by simp [hc]), List.append_nil, hchars]
  exact Segment.digitsValue_toDigits n

/-- The first number in the tag of a cell is that of its items. -/
theorem firstNumber_cellTag (likelihood severity : Level) (count : Nat) :
    firstNumber (cellTag likelihood severity count).toList = count := by
  have hnone (level : Level) : ("td class=\"risk-cell risk-" ++ level.name ++
      "\" data-count=\"").toList.all (fun c => !c.isDigit) = true := by
    cases level <;> decide +kernel
  have hfront := hnone (exposure likelihood severity)
  unfold cellTag
  generalize "td class=\"risk-cell risk-" ++ (exposure likelihood severity).name ++
    "\" data-count=\"" = front at *
  rw [String.toList_append, String.toList_append]
  refine firstNumber_natText (fun c hc => ?_) count rfl []
  exact (Bool.not_eq_true' _).mp (List.all_eq_true.1 hfront c hc)

/-- The first number of a phrase that counts is the count. -/
theorem firstNumber_countOf (n : Nat) (noun ending : String) :
    firstNumber (countOf n noun ++ ending).toList = n := by
  have hblank : " ".toList = ' ' :: [] := rfl
  simp only [countOf, String.toList_append, hblank, List.append_assoc, List.cons_append,
    List.nil_append]
  exact firstNumber_natText (List.forall_mem_nil _) n rfl _

/-- The numbers of risks in the tags of the cells of a rendered table. -/
def shownCounts (text : String) : List Nat :=
  ((readTags text.toList).filter "td ".toList.isPrefixOf).map firstNumber

/-- The number of risks in the note below a table, 0 without a note. -/
def shownUnplaced (m : Markup) : Nat :=
  ((m.opened "p class=\"risk-unplaced\"").map fun body => firstNumber body.render.toList).sum

/-- The note is read back as the number of unplaced items, and no note as zero. -/
theorem shownUnplaced_riskTable (grid : RiskGrid) :
    shownUnplaced (riskTable grid) = grid.unplaced := by
  have hnote := congrArg (List.map fun text => firstNumber text.toList) (opened_note_riskTable grid)
  rw [List.map_map] at hnote
  refine (congrArg List.sum hnote).trans ?_
  by_cases h : grid.unplaced = 0
  · rw [if_pos h, h]
    rfl
  · rw [if_neg h, List.map_singleton, List.sum_singleton, firstNumber_countOf]

/-! ## The matrix -/

section

variable (bindings : Bindings) (s : Section) (options : RenderOptions)

/-- If there are items, the matrix is the table of the grid. -/
theorem drawRiskMatrix_eq_riskTable (h : Item.all s bindings.primary? ≠ []) :
    drawRiskMatrix bindings s options = riskTable (.ofItems s (Item.all s bindings.primary?)) := by
  rw [drawRiskMatrix, orEmptyState, List.isEmpty_eq_false_iff.2 h, if_neg Bool.false_ne_true]

/-- The numbers in the text of the matrix are those of the grid. -/
theorem shownCounts_drawRiskMatrix (h : Item.all s bindings.primary? ≠ []) :
    shownCounts (drawRiskMatrix bindings s options).render =
      places.map fun p =>
        ((RiskGrid.ofItems s (Item.all s bindings.primary?)).cell p.1 p.2).size := by
  rw [shownCounts, (uses_drawRiskMatrix bindings s options).readTags_render, ← cellTags,
    drawRiskMatrix_eq_riskTable bindings s options h, cellTags_riskTable, List.map_map]
  exact List.map_congr_left fun p _ => firstNumber_cellTag ..

end

/-- **No risk is lost.** The items are those that the bound value holds. The numbers in the tags of
the cells and the number in the note add up to the number of items. Each rating that is recognized
is from 1 to 3, and one less is its place in the grid. The cell of a likelihood and a severity holds
the items rated with them, in their order; the rest is counted as unplaced. The text of the matrix
shows the grid: its nine cells with their numbers and labels, and the note if there is a need for
it. -/
theorem risks_kept (bindings : Bindings) (s : Section) (options : RenderOptions) :
    let items := Item.all s bindings.primary?
    let placed (likelihood severity : Level) := items.filter fun item =>
      Level.ofRating? (item.get? "likelihood") = some likelihood ∧
        Level.ofRating? (item.get? "severity") = some severity
    let unplaced := items.countP fun item =>
      Level.ofRating? (item.get? "likelihood") = .none ∨
        Level.ofRating? (item.get? "severity") = .none
    let grid := RiskGrid.ofItems s items
    let matrix := drawRiskMatrix bindings s options
    Item.Holds s bindings.primary? items ∧
    (shownCounts matrix.render).sum + shownUnplaced matrix = items.length ∧
    (∀ rating level, Level.ofRating? rating = some level → 1 ≤ level.number ∧ level.number ≤ 3) ∧
    (∀ likelihood severity, (grid.rows[likelihood.number - 1]?.bind fun row =>
      row[severity.number - 1]?) = some (grid.cell likelihood severity)) ∧
    (∀ likelihood severity, (grid.cell likelihood severity).toList =
      (placed likelihood severity).map (riskLabel s)) ∧
    grid.unplaced = unplaced ∧
    (items = [] → matrix = emptyState "No risks identified") ∧
    (items ≠ [] →
      shownCounts matrix.render = (places.map fun p => (placed p.1 p.2).length) ∧
      labelsWithin "td class=\"risk-cell " "span class=\"risk-item\"" matrix =
        (places.map fun p => (placed p.1 p.2).map fun item => Text.escape (riskLabel s item)) ∧
      (matrix.opened "p class=\"risk-unplaced\"").map render =
        if unplaced = 0 then []
        else [countOf unplaced "risk" ++ " without a recognizable severity or likelihood"]) := by
  intro items placed unplaced grid matrix
  have hcell (likelihood severity : Level) : (grid.cell likelihood severity).toList =
      (placed likelihood severity).map (riskLabel s) := by
    rw [RiskGrid.toList_cell_ofItems]
    simp only [place?_eq_some_iff, placed]
  have hsize (likelihood severity : Level) : (grid.cell likelihood severity).size =
      (placed likelihood severity).length := by
    rw [← Array.length_toList, hcell, List.length_map]
  have hunplaced : grid.unplaced = unplaced := by
    rw [RiskGrid.unplaced_ofItems]
    simp only [place?_eq_none_iff, unplaced]
  have htotal : (places.map fun p => (grid.cell p.1 p.2).size).sum + grid.unplaced =
      items.length := RiskGrid.total_ofItems s items
  have hitems : Item.Holds s bindings.primary? items := Item.holds_all s _
  have hlevels : ∀ rating level, Level.ofRating? rating = some level →
      1 ≤ level.number ∧ level.number ≤ 3 := fun _ level _ => level.number_mem
  have hplace (likelihood severity : Level) :
      (grid.rows[likelihood.number - 1]?.bind fun row => row[severity.number - 1]?) =
        some (grid.cell likelihood severity) := grid.getElem?_rows_eq_cell ..
  by_cases hnone : items = []
  · have hempty : matrix = emptyState "No risks identified" := by
      show orEmptyState _ items _ = _
      rw [hnone]
      rfl
    refine ⟨hitems, ?_, hlevels, hplace, hcell, hunplaced, fun _ => hempty,
      fun hsome => absurd hnone hsome⟩
    rw [hempty, hnone]
    decide +kernel
  · have htable : matrix = riskTable grid := drawRiskMatrix_eq_riskTable bindings s options hnone
    have hcounts : shownCounts matrix.render =
        places.map fun p => (grid.cell p.1 p.2).size :=
      shownCounts_drawRiskMatrix bindings s options hnone
    refine ⟨hitems, ?_, hlevels, hplace, hcell, hunplaced, fun hempty => absurd hempty hnone,
      fun _ => ⟨?_, ?_, ?_⟩⟩
    · rw [hcounts, htable, shownUnplaced_riskTable, htotal]
    · simp only [hcounts, hsize]
    · simp only [htable, labelsWithin_riskTable, hcell, List.map_map, Function.comp_def]
    · rw [htable, opened_note_riskTable, hunplaced]

/-- Two risks of one place, one of another and one whose severity is not recognized. -/
theorem risks_kept_of_four_risks :
    let risk (name : String) (likelihood severity : Json) : Json :=
      .object [("name", .string name), ("likelihood", likelihood), ("severity", severity)]
    let risks : List Json := [risk "Leak" (.string "likely") (.string " Severe "),
      risk "Fire" (.string "rare") (.string "high"),
      risk "Flood" (.string "high") (.string "major"),
      risk "Frost" (.string "possible") (.string "unknown")]
    let bindings : Bindings := ⟨[("risks", some (.object [("risks", .array risks)]))]⟩
    let s : Section := { id := "s" }
    let grid := RiskGrid.ofItems s risks
    shownCounts (drawRiskMatrix bindings s {}).render = [0, 0, 2, 0, 0, 0, 0, 0, 1] ∧
      (shownCounts (drawRiskMatrix bindings s {}).render).sum +
        shownUnplaced (drawRiskMatrix bindings s {}) = 4 ∧
      (grid.cell .high .high).toList = ["Leak", "Flood"] ∧ grid.unplaced = 1 := by
  intro risk risks bindings s grid
  obtain ⟨-, htotal, -, -, hcell, hunplaced, -, hshown⟩ := risks_kept bindings s {}
  have hrisks : Item.all s bindings.primary? = risks := rfl
  rw [hrisks] at htotal hcell hunplaced hshown
  obtain ⟨hcounts, -⟩ := hshown (by simp [risks])
  refine ⟨?_, htotal, ?_, ?_⟩
  · rw [hcounts]
    decide +kernel
  · rw [hcell]
    decide +kernel
  · rw [hunplaced]
    decide +kernel

end DiagnosticReport.Visual
