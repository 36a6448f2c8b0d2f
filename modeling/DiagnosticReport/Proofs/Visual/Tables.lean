import DiagnosticReport.Proofs.Markup.Bodies
import DiagnosticReport.Proofs.Visual.Bookkeeping
import DiagnosticReport.Proofs.Visual.Risks

/-!
# The shape of tables

The rows and cells of a table are read back from its text. A table has a row for each item that is
shown and as many cells in each row as titles, whatever the items are and wherever its columns come
from (`tables_rectangular`). In the comparison of two lists, the shorter one leaves cells empty.
-/

namespace DiagnosticReport

open Markup

/-- The rows of a text, each with its header cells and its other cells. -/
def readRows (html : String) : List (List String × List String) :=
  (readElements "tr" html).map fun row => (readElements "th" row, readElements "td" row)

/-- A text without rows or cells within each other. -/
theorem readRows_render {m : Markup} (h : m.Separate .tr)
    (hrows : ∀ row ∈ m.bodies .tr, row.Separate .th ∧ row.Separate .td) :
    readRows m.render = (m.bodies .tr).map fun row =>
      ((row.bodies .th).map render, (row.bodies .td).map render) := by
  have hread : readElements "tr" m.render = (m.bodies .tr).map render := h.readElements_render
  rw [readRows, hread, List.map_map]
  refine List.map_congr_left fun row hrow => ?_
  obtain ⟨hth, htd⟩ := hrows row hrow
  exact Prod.ext hth.readElements_render htd.readElements_render

/-- The fields of a record. -/
def Json.keys : Json → List String
  | .object fields => fields.map Prod.fst
  | _ => []

namespace Visual

/-- A message in place of a table has no rows. -/
theorem readRows_emptyState (message : String) : readRows (emptyState message).render = [] := by
  have huses : (emptyState message).Uses fun tag => tag == .p := by simp
  obtain ⟨hseparate, hbodies⟩ :
      (emptyState message).Separate .tr ∧ (emptyState message).bodies .tr = [] := huses.separate rfl
  rw [readRows_render hseparate (by simp [hbodies]), hbodies]
  rfl

/-! ## Rows -/

/-- The cells of a row. -/
def cells (tag : Tag) (texts : List String) : Markup :=
  .concat (texts.map fun text => .plain tag (.text text))

theorem bodies_cells (tag other : Tag) (texts : List String) :
    (cells tag texts).bodies other = if tag = other then texts.map .text else [] := by
  rw [cells, bodies_concat, List.flatMap_map]
  split
  · next h => simp [h, List.map_eq_flatMap]
  · next h => simp [h]

/-- The texts of a row of cells are read back from cells of their own kind, and from no others. -/
theorem read_cells (tag other : Tag) (texts : List String) :
    ((cells tag texts).bodies other).map render =
      if tag = other then texts.map Text.escape else [] := by
  rw [bodies_cells]
  split
  · rw [List.map_map]
    rfl
  · rfl

/-- Cells do not stand inside each other. -/
theorem separate_cells (tag other : Tag) (texts : List String) :
    (cells tag texts).Separate other := by
  simp [cells]

theorem rowOf_eq (tag : Tag) (texts : List String) :
    rowOf tag texts = .plain .tr (cells tag texts) :=
  rfl

theorem bodies_rowOf {tag : Tag} (htag : tag ≠ .tr) (texts : List String) :
    (rowOf tag texts).bodies .tr = [cells tag texts] := by
  rw [rowOf_eq, bodies_plain, if_pos rfl, bodies_cells, if_neg htag]
  rfl

theorem separate_rowOf {tag : Tag} (htag : tag ≠ .tr) (texts : List String) :
    (rowOf tag texts).Separate .tr := by
  rw [rowOf_eq, separate_plain]
  refine ⟨fun _ => ?_, separate_cells tag .tr texts⟩
  simp [cells, htag]

/-! ## Data -/

section

variable (columns : List String) (items : List Json)

/-- A table of items has one row for the titles and one for each item. -/
theorem bodies_dataTable :
    (dataTable columns items).bodies .tr =
      cells .th (headerTexts columns) ::
        items.map fun item => cells .td (rowTexts columns item) := by
  have hrows : (items.map fun item => rowOf .td (rowTexts columns item)).flatMap (bodies .tr) =
      items.map fun item => cells .td (rowTexts columns item) := by
    rw [List.flatMap_map, List.map_eq_flatMap]
    exact List.flatMap_congr fun item _ => bodies_rowOf (by decide) _
  simp [dataTable, bodies_rowOf, hrows]

/-- From the text of a table, the titles and a row for each item are read back. -/
theorem readRows_dataTable :
    readRows (dataTable columns items).render =
      ((headerTexts columns).map Text.escape, []) ::
        items.map fun item => ([], (rowTexts columns item).map Text.escape) := by
  have hseparate : (dataTable columns items).Separate .tr := by
    simp [dataTable, separate_rowOf]
  have hrows : ∀ row ∈ (dataTable columns items).bodies .tr,
      row.Separate .th ∧ row.Separate .td := by
    rw [bodies_dataTable]
    intro row hrow
    rcases List.mem_cons.1 hrow with rfl | hrow
    · exact ⟨separate_cells .., separate_cells ..⟩
    · obtain ⟨item, -, rfl⟩ := List.mem_map.1 hrow
      exact ⟨separate_cells .., separate_cells ..⟩
  rw [readRows_render hseparate hrows, bodies_dataTable]
  simp [read_cells]

/-- A table has a title even if there are no columns. -/
theorem headerTexts_length_pos : 1 ≤ (headerTexts columns).length := by
  cases columns with
  | nil => exact le_rfl
  | cons column columns => simp [headerTexts]

/-- Every row is as wide as the row of titles. -/
theorem rowTexts_length (item : Json) :
    (rowTexts columns item).length = (headerTexts columns).length := by
  cases columns with
  | nil => rfl
  | cons column columns => simp [rowTexts, headerTexts]

end

/-- The inferred columns are the first fields that are no bookkeeping. -/
theorem inferColumns_eq (item : Json) (most : Nat) :
    inferColumns item most = (item.keys.filter fun key => !isBookkeeping key).take most := by
  cases item with
  | object fields => rfl
  | _ => exact List.take_nil.symm

/-! ## Comparison -/

/-- The text of a score behind a label. -/
def rankScoreText (score : Float) : String :=
  " <span class=\"rank-score\">" ++ Text.escape (roundedText score) ++ "</span>"

section

variable (s : Section) (item : Option Json)

/-- What the cell of an item holds; without an item it is empty. -/
def rankedText : String :=
  (item.map fun item =>
    Text.escape (Item.label s item) ++ ((Item.score? s item).map rankScoreText).getD "").getD ""

def rankScore (score : Float) : Markup :=
  .text " " ++ .styled .span "rank-score" (.text (roundedText score))

def rankedBody : Markup :=
  .optional (item.map fun item =>
    .text (Item.label s item) ++ .optional ((Item.score? s item).map rankScore))

theorem rankedCell_eq : rankedCell s item = .plain .td (rankedBody s item) :=
  rfl

/-- A cell of a comparison holds no table parts. -/
theorem uses_rankedBody : (rankedBody s item).Uses fun tag => tag == .span := by
  simp [rankedBody, rankScore]

theorem render_rankScore (score : Float) : (rankScore score).render = rankScoreText score := by
  have hopen : Text.escape " " ++ ("<" ++ Tag.span.name ++ " class=\"" ++
      Text.escape "rank-score" ++ "\">") = " <span class=\"rank-score\">" := by decide
  have hclose : "</" ++ Tag.span.name ++ ">" = "</span>" := by decide
  unfold rankScore rankScoreText
  rw [render_append, render_text, render_styled, hclose, ← String.append_assoc,
    ← String.append_assoc, hopen, render_text]

theorem render_optional_rankScore (score? : Option Float) :
    (Markup.optional (score?.map rankScore)).render = (score?.map rankScoreText).getD "" := by
  cases score? with
  | none => rfl
  | some score => exact render_rankScore score

/-- A cell of a comparison shows the label and the score of its item, and nothing where there is
none. -/
theorem render_rankedBody : (rankedBody s item).render = rankedText s item := by
  cases item with
  | none => rfl
  | some item =>
    rw [rankedBody, rankedText, Option.map_some, Option.map_some, Option.getD_some, Markup.optional,
      render_append, render_text, render_optional_rankScore]

end

section

variable (s : Section) (left right : List Json)

/-- The cells of a rank. -/
def rankedCells (rank : Nat) : Markup :=
  .styled .td "rank" (.text (Decimal.natText (rank + 1))) ++ rankedCell s left[rank]? ++
    rankedCell s right[rank]?

theorem rankedRow_eq (rank : Nat) :
    rankedRow s left right rank = .plain .tr (rankedCells s left right rank) :=
  rfl

theorem uses_rankedCells (rank : Nat) :
    (rankedCells s left right rank).Uses fun tag => tag == .td || tag == .span := by
  have hbody (item : Option Json) :
      (rankedBody s item).Uses fun tag => tag == .td || tag == .span :=
    (uses_rankedBody s item).mono (by simp)
  simp [rankedCells, rankedCell_eq, hbody]

theorem separate_rankedCells (rank : Nat) : (rankedCells s left right rank).Separate .td := by
  have hbody (item : Option Json) :
      ((rankedBody s item).Uses fun tag => tag != .td) ∧ (rankedBody s item).Separate .td :=
    ⟨(uses_rankedBody s item).mono (by simp), ((uses_rankedBody s item).separate rfl).1⟩
  simp [rankedCells, rankedCell_eq, hbody]

/-- A row of a comparison has three cells: the rank and what both lists have there. -/
theorem bodies_rankedCells (rank : Nat) :
    (rankedCells s left right rank).bodies .td =
      [.text (Decimal.natText (rank + 1)), rankedBody s left[rank]?,
        rankedBody s right[rank]?] := by
  have hbody (item : Option Json) : (rankedBody s item).bodies .td = [] :=
    ((uses_rankedBody s item).separate rfl).2
  simp [rankedCells, rankedCell_eq, hbody]

variable (leftTitle rightTitle : String)

/-- A comparison has one row for the titles and one for each rank up to the longer list. -/
theorem bodies_comparison :
    (comparison s leftTitle rightTitle left right).bodies .tr =
      cells .th ["#", leftTitle, rightTitle] ::
        (List.range (max left.length right.length)).map (rankedCells s left right) := by
  have hcells (rank : Nat) : (rankedCells s left right rank).bodies .tr = [] :=
    ((uses_rankedCells s left right rank).separate rfl).2
  have hrows (ranks : List Nat) : (ranks.map (rankedRow s left right)).flatMap (bodies .tr) =
      ranks.map (rankedCells s left right) := by
    rw [List.flatMap_map, List.map_eq_flatMap]
    refine List.flatMap_congr fun rank _ => ?_
    rw [rankedRow_eq, bodies_plain, if_pos rfl, hcells]
    rfl
  simp [comparison, bodies_rowOf, hrows]

theorem separate_comparison : (comparison s leftTitle rightTitle left right).Separate .tr := by
  have hrow (rank : Nat) : (rankedRow s left right rank).Separate .tr := by
    have huses := uses_rankedCells s left right rank
    rw [rankedRow_eq, separate_plain]
    exact ⟨fun _ => huses.mono (by simp), (huses.separate rfl).1⟩
  simp [comparison, separate_rowOf, hrow]

/-- From the text of a comparison, the titles and a row for each rank are read back. -/
theorem readRows_comparison :
    readRows (comparison s leftTitle rightTitle left right).render =
      (["#", leftTitle, rightTitle].map Text.escape, []) ::
        (List.range (max left.length right.length)).map fun i =>
          ([], [Decimal.natText (i + 1), rankedText s left[i]?, rankedText s right[i]?]) := by
  have hth (rank : Nat) : (rankedCells s left right rank).Separate .th ∧
      (rankedCells s left right rank).bodies .th = [] :=
    (uses_rankedCells s left right rank).separate rfl
  have hrows : ∀ row ∈ (comparison s leftTitle rightTitle left right).bodies .tr,
      row.Separate .th ∧ row.Separate .td := by
    rw [bodies_comparison]
    intro row hrow
    rcases List.mem_cons.1 hrow with rfl | hrow
    · exact ⟨separate_cells .., separate_cells ..⟩
    · obtain ⟨rank, -, rfl⟩ := List.mem_map.1 hrow
      exact ⟨(hth rank).1, separate_rankedCells ..⟩
  rw [readRows_render (separate_comparison ..) hrows, bodies_comparison]
  simp [read_cells, hth, bodies_rankedCells, render_rankedBody, render_text,
    (Decimal.isPlain_natText _).escape_eq]

end

/-! ## Tables -/

/-- What has a row is not the text of a message. -/
theorem render_ne_emptyState {m : Markup} (h : readRows m.render ≠ []) (message : String) :
    m.render ≠ (emptyState message).render := by
  intro heq
  rw [heq, readRows_emptyState] at h
  exact h rfl

section

variable (bindings : Bindings) (s : Section) (options : RenderOptions)

theorem drawTable_of_nil (h : Item.shown s bindings.primary? = []) :
    drawTable bindings s options = emptyState "No data available" := by
  rw [drawTable, h]

/-- The columns of a table are settled by its first item. -/
theorem drawTable_of_head? {first : Json}
    (h : (Item.shown s bindings.primary?).head? = some first) :
    drawTable bindings s options =
      dataTable (tableColumns s options first) (Item.shown s bindings.primary?) := by
  obtain ⟨rest, hitems⟩ := List.head?_eq_some_iff.1 h
  rw [drawTable, hitems]

/-- A table is a message just if there is no item to show. -/
theorem drawTable_eq_emptyState_iff :
    (drawTable bindings s options).render = (emptyState "No data available").render ↔
      Item.shown s bindings.primary? = [] := by
  constructor
  · intro heq
    by_contra hne
    rw [drawTable_of_head? bindings s options (List.head?_eq_some_head hne)] at heq
    refine render_ne_emptyState ?_ _ heq
    rw [readRows_dataTable]
    exact List.cons_ne_nil _ _
  · intro h
    rw [drawTable_of_nil bindings s options h]

/-- Columns that nobody named are the first fields of the first item, as many as are asked for. -/
theorem tableColumns_prefix (hs : NamesNoColumn s) (first : Json) :
    let columns := tableColumns s options first
    let fields := first.keys.filter fun key => !isBookkeeping key
    let most := max ((s.countOption? "max_columns").getD options.maxColumns) 1
    columns <+: fields ∧ columns.length = min most fields.length := by
  intro columns fields most
  have hcolumns : columns = fields.take most := by
    show tableColumns s options first = _
    rw [tableColumns, hs.namedColumns?_eq, Option.getD_none, inferColumns_eq]
  rw [hcolumns]
  exact ⟨List.take_prefix most fields, List.length_take⟩

end

section

variable (bindings : Bindings) (s : Section)

/-- A comparison takes two bindings. -/
theorem exists_drawComparisonTable_iff :
    (∃ m, drawComparisonTable bindings s = .ok m) ↔ 2 ≤ bindings.entries.length := by
  unfold drawComparisonTable
  split
  · next hentries => exact iff_of_true ⟨_, rfl⟩ (by simp [hentries])
  · next hentries =>
    refine iff_of_false (fun ⟨m, hm⟩ => nomatch hm) fun hlength => ?_
    rcases h : bindings.entries with _ | ⟨⟨leftId, leftValue⟩, _ | ⟨⟨rightId, rightValue⟩, rest⟩⟩
    · simp [h] at hlength
    · simp [h] at hlength
    · exact hentries _ _ _ _ _ h

/-- The comparison of two lists, or a message if they are empty. -/
def comparisonOrEmpty (left right : List Json) (leftTitle rightTitle : String) : Markup :=
  if left = [] ∧ right = [] then emptyState "No data available"
  else comparison s leftTitle rightTitle left right

/-- A comparison is about the first two bindings, whatever comes after them. -/
theorem exists_of_drawComparisonTable {m : Markup} (h : drawComparisonTable bindings s = .ok m) :
    ∃ leftId leftValue rightId rightValue rest,
      bindings.entries = (leftId, leftValue) :: (rightId, rightValue) :: rest ∧
      m = comparisonOrEmpty s (Item.shown s leftValue) (Item.shown s rightValue)
        ((s.textOption? "left_title").getD (Item.titleCase leftId))
        ((s.textOption? "right_title").getD (Item.titleCase rightId)) := by
  unfold drawComparisonTable at h
  split at h
  · next leftId leftValue rightId rightValue rest hentries =>
    refine ⟨leftId, leftValue, rightId, rightValue, rest, hentries, ?_⟩
    rw [comparisonOrEmpty, ← Except.ok.inj h]
    simp only [Bool.and_eq_true, List.isEmpty_iff]
  · cases h

/-- A comparison is a message just if there is no item on either side. -/
theorem comparisonOrEmpty_eq_emptyState_iff (left right : List Json)
    (leftTitle rightTitle : String) :
    (comparisonOrEmpty s left right leftTitle rightTitle).render =
      (emptyState "No data available").render ↔ left = [] ∧ right = [] := by
  rw [comparisonOrEmpty]
  split
  · next h => exact iff_of_true rfl h
  · next h =>
    refine iff_of_false (render_ne_emptyState ?_ _) h
    rw [readRows_comparison]
    exact List.cons_ne_nil _ _

end

/-- **Tables are rectangular and complete.** Tables are about the items that a section shows, the
first ones that a value holds, as many as the section allows. A table shows a message just if there
is no such item. Otherwise it has a row of titles, at least one, and a row for each item in the
order of the items, with a cell for each title. If the section names no column, the columns are the
first fields of the first item that are no bookkeeping, as many of them as the section or else the
options allow. A comparison of two lists shows a message just if neither has an item. Otherwise it
has three titles and as many rows as the longer list has items, each with its number and what both
lists have at its place. -/
theorem tables_rectangular :
    (∀ bindings s options,
      let items := Item.shown s bindings.primary?
      let html := (drawTable bindings s options).render
      Item.Shows s bindings.primary? items ∧
      (html = (emptyState "No data available").render ↔ items = []) ∧
      ∀ first, items.head? = some first →
        let columns := tableColumns s options first
        let titles := headerTexts columns
        let fields := first.keys.filter fun key => !isBookkeeping key
        let most := max ((s.countOption? "max_columns").getD options.maxColumns) 1
        readRows html = (titles.map Text.escape, []) ::
          (items.map fun item => ([], (rowTexts columns item).map Text.escape)) ∧
        1 ≤ titles.length ∧ (∀ item, (rowTexts columns item).length = titles.length) ∧
        (NamesNoColumn s → columns <+: fields ∧ columns.length = min most fields.length)) ∧
    ∀ bindings s, ((∃ m, drawComparisonTable bindings s = .ok m) ↔ 2 ≤ bindings.entries.length) ∧
      ∀ m, drawComparisonTable bindings s = .ok m → ∃ leftId leftValue rightId rightValue rest,
        bindings.entries = (leftId, leftValue) :: (rightId, rightValue) :: rest ∧
        let left := Item.shown s leftValue
        let right := Item.shown s rightValue
        let leftTitle := (s.textOption? "left_title").getD (Item.titleCase leftId)
        let rightTitle := (s.textOption? "right_title").getD (Item.titleCase rightId)
        Item.Shows s leftValue left ∧ Item.Shows s rightValue right ∧
        (m.render = (emptyState "No data available").render ↔ left = [] ∧ right = []) ∧
        (m.render ≠ (emptyState "No data available").render →
          readRows m.render = (["#", leftTitle, rightTitle].map Text.escape, []) ::
            (List.range (max left.length right.length)).map fun i =>
              ([], [Decimal.natText (i + 1), rankedText s left[i]?, rankedText s right[i]?])) := by
  refine ⟨fun bindings s options => ?_, fun bindings s =>
    ⟨exists_drawComparisonTable_iff bindings s, fun m hm => ?_⟩⟩
  · refine ⟨Item.shows_shown s _, drawTable_eq_emptyState_iff bindings s options,
      fun first hfirst => ?_⟩
    refine ⟨?_, headerTexts_length_pos _, rowTexts_length _,
      fun hs => tableColumns_prefix s options hs first⟩
    rw [drawTable_of_head? bindings s options hfirst]
    exact readRows_dataTable ..
  · obtain ⟨leftId, leftValue, rightId, rightValue, rest, hentries, rfl⟩ :=
      exists_of_drawComparisonTable bindings s hm
    have hempty := comparisonOrEmpty_eq_emptyState_iff s (Item.shown s leftValue)
      (Item.shown s rightValue) ((s.textOption? "left_title").getD (Item.titleCase leftId))
      ((s.textOption? "right_title").getD (Item.titleCase rightId))
    refine ⟨leftId, leftValue, rightId, rightValue, rest, hentries, Item.shows_shown s _,
      Item.shows_shown s _, hempty, fun hne => ?_⟩
    rw [comparisonOrEmpty, if_neg (mt hempty.2 hne)]
    exact readRows_comparison ..

/-- Two items at most are shown: a field that is null and a second item that is no record leave no
gap, and in a comparison the shorter list leaves one. -/
theorem tables_rectangular_of_ragged_items :
    let first : Json := .object [("id", .string "F1"), ("name", .string "Leak"), ("owner", .null)]
    let s : Section := { id := "s", options := .object [("max_items", .number (.int 2))] }
    let causes : Json := .array [first, .string "None", .string "Late"]
    let bindings : Bindings := ⟨[("causes", some causes), ("effects", some (.string "Damage"))]⟩
    NamesNoColumn s ∧ tableColumns s {} first <+: ["name", "owner"] ∧
      readRows (drawTable bindings s {}).render =
        [(["Name", "Owner"], []), ([], ["Leak", "-"]), ([], ["-", "-"])] ∧
      ∃ m, drawComparisonTable bindings s = .ok m ∧ readRows m.render =
        [(["#", "Causes", "Effects"], []), ([], ["1", "Leak", "Damage"]),
          ([], ["2", "None", ""])] := by
  intro first s causes bindings
  have hs : NamesNoColumn s := fun _ h => nomatch h
  have hfields : first.keys.filter (fun key => !isBookkeeping key) = ["name", "owner"] := by
    decide +kernel
  obtain ⟨-, -, htable⟩ := tables_rectangular.1 bindings s {}
  obtain ⟨hread, -, -, hcolumns⟩ := htable first rfl
  refine ⟨hs, hfields ▸ (hcolumns hs).1, ?_, ?_⟩
  · rw [hread]
    decide +kernel
  · obtain ⟨hiff, hcomparison⟩ := tables_rectangular.2 bindings s
    obtain ⟨m, hm⟩ := hiff.2 (by decide)
    obtain ⟨leftId, leftValue, rightId, rightValue, rest, hentries, -, -, hempty, hrows⟩ :=
      hcomparison m hm
    cases hentries
    refine ⟨m, hm, ?_⟩
    rw [hrows fun h => absurd (hempty.1 h).1 (by decide)]
    decide +kernel

end Visual

end DiagnosticReport
