import DiagnosticReport.Proofs.Markup.Rendering
import DiagnosticReport.Proofs.Text.Escaped
import DiagnosticReport.Visual.Table
import Mathlib.Data.List.Forall2

/-!
# What a table shows of bookkeeping

A table whose columns are inferred has no column for a field of bookkeeping. If its first record has
another field, there are columns, and the values of bookkeeping fields are nowhere in the table. If
it has none, there is no column, and the table shows the JSON text of each record, with all of its
fields. So a table hides bookkeeping exactly if its first record has a field to show, or no record
has any bookkeeping (`drawTable_hides_bookkeeping_iff`).
-/

namespace DiagnosticReport

/-! ## JSON text -/

namespace Json

/-- The fields of a record are written one by one. -/
theorem compactFields_eq_map (fields : List (String × Json)) :
    compactFields fields = fields.map fun field => quote field.1 ++ ":" ++ compact field.2 := by
  induction fields with
  | nil => rfl
  | cons field fields ih => rw [compactFields, ih, List.map_cons]

/-- The text of a record holds the text of the value of each of its fields. -/
theorem frames_compact (before after : List (String × Json)) (key : String) :
    Frames compact fun value => compact (.object (before ++ (key, value) :: after)) := by
  simp only [compact, compactFields_eq_map, List.map_append, List.map_cons]
  exact ((((Frames.refl compact).append_left _).intercalate "," _ _).append_left _).append_right _

/-- A list of one value is written longer than the value. -/
theorem compact_ne_compact_array (value : Json) : compact value ≠ compact (.array [value]) := by
  intro h
  have hlength := congrArg String.length h
  have hopen : "[".length = 1 := rfl
  have hclose : "]".length = 1 := rfl
  simp only [compact, compactItems, String.intercalate_singleton, String.length_append] at hlength
  omega

end Json

namespace Visual

/-! ## Records -/

/-- The fields have one name, and one value unless the name is one of bookkeeping. -/
def AgreeBesideBookkeeping (field other : String × Json) : Prop :=
  field.1 = other.1 ∧ (¬ isBookkeeping field.1 → field.2 = other.2)

/-- The records have the same fields, and the same values under those that are no bookkeeping. -/
inductive SameBesideBookkeeping : Json → Json → Prop
  | object {fields others : List (String × Json)}
      (h : List.Forall₂ AgreeBesideBookkeeping fields others) :
      SameBesideBookkeeping (.object fields) (.object others)

/-- The record has a field of bookkeeping. -/
def HasBookkeeping (item : Json) : Prop :=
  ∃ field, (item.get? field).isSome ∧ isBookkeeping field

/-- The record has a field that is no bookkeeping. -/
def HasShownField (item : Json) : Prop :=
  ∃ field, (item.get? field).isSome ∧ ¬ isBookkeeping field

/-- A record has a field if there is an entry for it. -/
theorem isSome_get?_object {field : String} {fields : List (String × Json)} :
    ((Json.object fields).get? field).isSome ↔ ∃ value, (field, value) ∈ fields := by
  simp [Json.get?, Json.lookup]

theorem forall₂_agreeBesideBookkeeping_self (fields : List (String × Json)) :
    List.Forall₂ AgreeBesideBookkeeping fields fields :=
  List.forall₂_same.2 fun _ _ => ⟨rfl, fun _ => rfl⟩

/-- Records that agree beside bookkeeping have the same keys. -/
theorem map_fst_of_agree {fields others : List (String × Json)}
    (h : List.Forall₂ AgreeBesideBookkeeping fields others) :
    fields.map Prod.fst = others.map Prod.fst := by
  induction h with
  | nil => rfl
  | cons hfirst _ ih => rw [List.map_cons, List.map_cons, hfirst.1, ih]

namespace SameBesideBookkeeping

theorem refl {item : Json} (h : item.isObject) : SameBesideBookkeeping item item := by
  cases item with
  | object fields => exact .object (forall₂_agreeBesideBookkeeping_self fields)
  | _ => cases h

/-- Another value under a field of bookkeeping. -/
theorem of_value (before after : List (String × Json)) {key : String} (hkey : isBookkeeping key)
    (value other : Json) :
    SameBesideBookkeeping (.object (before ++ (key, value) :: after))
      (.object (before ++ (key, other) :: after)) :=
  .object (List.rel_append (forall₂_agreeBesideBookkeeping_self before)
    (.cons ⟨rfl, fun h => absurd hkey h⟩ (forall₂_agreeBesideBookkeeping_self after)))

section

variable {item other : Json} (h : SameBesideBookkeeping item other)
include h

/-- A field that is no bookkeeping is the same in both records. -/
theorem get?_eq {field : String} (hfield : ¬ isBookkeeping field) :
    item.get? field = other.get? field := by
  obtain ⟨h⟩ := h
  simp only [Json.get?]
  induction h with
  | nil => rfl
  | @cons f g _ _ hfirst _ ih =>
    obtain ⟨hname, hvalue⟩ := hfirst
    simp only [Json.lookup, List.find?_cons, ← hname] at ih ⊢
    by_cases hf : f.1 = field
    · simp [hf, hvalue (hf ▸ hfield)]
    · simp only [beq_eq_false_iff_ne.2 hf]
      exact ih

/-- If one record has a field to show, so has the other. -/
theorem hasShownField_iff : HasShownField item ↔ HasShownField other := by
  refine exists_congr fun field => and_congr_left fun hfield => ?_
  rw [h.get?_eq hfield]

theorem inferColumns_eq (most : Nat) : inferColumns item most = inferColumns other most := by
  obtain ⟨h⟩ := h
  rw [inferColumns, inferColumns, map_fst_of_agree h]

/-- Without bookkeeping, there is nothing that the records could differ in. -/
theorem eq_of_not_hasBookkeeping (hitem : ¬ HasBookkeeping item) : item = other := by
  obtain ⟨h⟩ := h
  simp only [HasBookkeeping, isSome_get?_object] at hitem
  congr 1
  induction h with
  | nil => rfl
  | @cons f g _ _ hfirst _ ih =>
    have hf : ¬ isBookkeeping f.1 := fun hf => hitem ⟨f.1, ⟨f.2, List.mem_cons_self ..⟩, hf⟩
    rw [Prod.ext hfirst.1 (hfirst.2 hf), ih fun ⟨field, ⟨value, hmem⟩, hbook⟩ =>
      hitem ⟨field, ⟨value, List.mem_cons_of_mem _ hmem⟩, hbook⟩]

end

end SameBesideBookkeeping

/-- Records differ in bookkeeping only after one is replaced by another of that kind. -/
theorem forall₂_set {items : List Json} (hitems : ∀ item ∈ items, item.isObject) {i : Nat}
    {item other : Json} (hi : items[i]? = some item) (h : SameBesideBookkeeping item other) :
    List.Forall₂ SameBesideBookkeeping items (items.set i other) := by
  refine List.forall₂_iff_get.2 ⟨(List.length_set ..).symm, fun j hj _ => ?_⟩
  simp only [List.get_eq_getElem, List.getElem_set]
  split
  · next hij =>
    subst hij
    rw [List.getElem?_eq_getElem hj, Option.some_inj] at hi
    exact hi ▸ h
  · exact .refl (hitems _ (List.getElem_mem hj))

theorem exists_head?_of_forall₂ {items others : List Json}
    (h : List.Forall₂ SameBesideBookkeeping items others) {first : Json}
    (hfirst : items.head? = some first) :
    ∃ other, others.head? = some other ∧ SameBesideBookkeeping first other := by
  cases h with
  | nil => cases hfirst
  | cons hsame _ =>
    obtain rfl := Option.some_inj.1 hfirst
    exact ⟨_, rfl, hsame⟩

/-! ## Columns -/

/-- No inferred column is bookkeeping. -/
theorem not_isBookkeeping_of_mem_inferColumns {item : Json} {most : Nat} {column : String}
    (h : column ∈ inferColumns item most) : ¬ isBookkeeping column := by
  cases item with
  | object fields =>
    have hmem := List.mem_of_mem_take h
    simpa using (List.mem_filter.1 hmem).2
  | _ => cases h

/-- No column is inferred just if the record has nothing but bookkeeping. -/
theorem inferColumns_eq_nil_iff {item : Json} {most : Nat} (hmost : 1 ≤ most) :
    inferColumns item most = [] ↔ ¬ HasShownField item := by
  cases item with
  | object fields =>
    have hpositive : most ≠ 0 := Nat.ne_of_gt hmost
    simp only [HasShownField, isSome_get?_object]
    simp [inferColumns, List.take_eq_nil_iff, hpositive]
  | _ => simp [inferColumns, HasShownField, Json.get?]

/-- The section names no column: there is no list of columns, or no string in it. -/
def NamesNoColumn (s : Section) : Prop :=
  ∀ columns, s.listOption? "columns" = some columns →
    ∀ column ∈ columns, column.asString? = .none

theorem NamesNoColumn.namedColumns?_eq {s : Section} (hs : NamesNoColumn s) :
    namedColumns? s = .none := by
  rw [namedColumns?]
  cases hcolumns : s.listOption? "columns" with
  | none => rfl
  | some columns =>
    have hnone : columns.filterMap Json.asString? = [] :=
      List.filterMap_eq_nil_iff.2 (hs _ hcolumns)
    simp [hnone]

/-! ## Rows -/

/-- A row with a column shows no bookkeeping. -/
theorem rowTexts_eq {item other : Json} (h : SameBesideBookkeeping item other)
    {columns : List String} (hne : columns ≠ [])
    (hcolumns : ∀ column ∈ columns, ¬ isBookkeeping column) :
    rowTexts columns item = rowTexts columns other := by
  have hempty : columns.isEmpty = false := by simpa using hne
  rw [rowTexts, rowTexts, hempty]
  exact List.map_congr_left fun column hcolumn => by rw [h.get?_eq (hcolumns column hcolumn)]

/-- A table with a column shows no bookkeeping. -/
theorem dataTable_eq {columns : List String} (hne : columns ≠ [])
    (hcolumns : ∀ column ∈ columns, ¬ isBookkeeping column) {shown others : List Json}
    (h : List.Forall₂ SameBesideBookkeeping shown others) :
    dataTable columns shown = dataTable columns others := by
  have hrows : (shown.map fun item => rowOf .td (rowTexts columns item)) =
      others.map fun item => rowOf .td (rowTexts columns item) := by
    induction h with
    | nil => rfl
    | cons hfirst _ ih =>
      rw [List.map_cons, List.map_cons, rowTexts_eq hfirst hne hcolumns, ih]
  rw [dataTable, dataTable, hrows]

/-- A table without columns holds the text of each of its records. -/
theorem frames_dataTable (shown : List Json) {i : Nat} (hi : i < shown.length)
    (record : Json → Json) :
    Frames (fun value => Text.escape (cellText (some (record value))))
      fun value => (dataTable [] (shown.set i (record value))).render := by
  have htext : Frames (fun value => Text.escape (cellText (some (record value))))
      fun value => (Markup.text (cellText (some (record value)))).render := .refl _
  have hrow : Frames (fun value => Text.escape (cellText (some (record value))))
      fun value => (rowOf .td (rowTexts [] (record value))).render :=
    ((htext.element .td []).concat [] []).element .tr []
  simp only [List.set_eq_take_append_cons_drop, if_pos hi, dataTable, List.map_append,
    List.map_cons]
  exact (((hrow.concat _ _).element _ _).append_left _).element _ _

/-- A table without columns tells a value under some field from the list of only this value. -/
theorem render_dataTable_nil_ne {shown : List Json} {i : Nat} (hi : i < shown.length)
    {before after : List (String × Json)} {key : String} {value : Json}
    (hitem : shown[i] = .object (before ++ (key, value) :: after)) :
    (dataTable [] shown).render ≠
      (dataTable [] (shown.set i (.object (before ++ (key, .array [value]) :: after)))).render := by
  intro h
  let record (value : Json) : Json := .object (before ++ (key, value) :: after)
  have hrecord : record value = shown[i] := hitem.symm
  have htable : (dataTable [] (shown.set i (record value))).render =
      (dataTable [] (shown.set i (record (.array [value])))).render := by
    rw [hrecord, List.set_getElem_self, h]
  have hcell := Text.escape_injective ((frames_dataTable shown hi record).inner_eq htable)
  exact Json.compact_ne_compact_array value ((Json.frames_compact before after key).inner_eq hcell)

/-! ## Tables -/

section

variable {s : Section} {items others : List Json}

/-- Items related one by one are so among the first ones. -/
theorem limit_forall₂ {R : Json → Json → Prop} (h : List.Forall₂ R items others) :
    List.Forall₂ R (Item.limit s items) (Item.limit s others) := by
  unfold Item.limit
  split
  · exact List.forall₂_take _ h
  · exact h

theorem limit_set (items : List Json) (i : Nat) (item : Json) :
    Item.limit s (items.set i item) = (Item.limit s items).set i item := by
  unfold Item.limit
  split
  · exact List.take_set
  · rfl

theorem getElem?_of_limit {i : Nat} {item : Json} (h : (Item.limit s items)[i]? = some item) :
    items[i]? = some item := by
  unfold Item.limit at h
  split at h
  · rw [List.getElem?_take] at h
    exact Option.ite_none_right_eq_some.1 h |>.2
  · exact h

variable (options : RenderOptions)

/-- A table over an array is settled by its first items. -/
theorem drawTable_array (id : String) (rest : List (String × Option Json)) :
    drawTable ⟨(id, some (.array items)) :: rest⟩ s options =
      match Item.limit s items with
      | [] => emptyState "No data available"
      | first :: more => dataTable (tableColumns s options first) (first :: more) :=
  rfl

/-- Columns that nobody named are inferred from the first item. -/
theorem NamesNoColumn.exists_tableColumns_eq (hs : NamesNoColumn s) :
    ∃ most, 1 ≤ most ∧ ∀ first, tableColumns s options first = inferColumns first most :=
  ⟨_, Nat.le_max_right _ _, fun first => by rw [tableColumns, hs.namedColumns?_eq]; rfl⟩

variable (hs : NamesNoColumn s) (id : String) (rest : List (String × Option Json))
include hs

/-- A table whose first record has a field to show, or none of whose records has any bookkeeping, is
the same whatever the values of bookkeeping fields are. -/
theorem drawTable_eq_of_sameBesideBookkeeping
    (h : List.Forall₂ SameBesideBookkeeping items others)
    (hshown : (∃ first, (Item.limit s items).head? = some first ∧ HasShownField first) ∨
      ∀ item ∈ Item.limit s items, ¬ HasBookkeeping item) :
    drawTable ⟨(id, some (.array items)) :: rest⟩ s options =
      drawTable ⟨(id, some (.array others)) :: rest⟩ s options := by
  obtain ⟨most, hmost, hcolumns⟩ := hs.exists_tableColumns_eq options
  have hlimit := limit_forall₂ (s := s) h
  simp only [drawTable_array]
  rcases hshown with ⟨first, hfirst, hfield⟩ | hnone
  · generalize Item.limit s items = shown at *
    generalize Item.limit s others = others at *
    cases hlimit with
    | nil => rfl
    | @cons item other _ _ hsame hmore =>
      obtain rfl : item = first := by simpa using hfirst
      have hne : inferColumns item most ≠ [] := fun h =>
        (inferColumns_eq_nil_iff hmost).1 h hfield
      simp only [hcolumns, ← hsame.inferColumns_eq most]
      exact dataTable_eq hne (fun _ => not_isBookkeeping_of_mem_inferColumns) (.cons hsame hmore)
  · have heq : Item.limit s items = Item.limit s others := by
      rw [← List.forall₂_eq_eq_eq]
      exact ((List.forall₂_and_left _ _).2 ⟨hnone, hlimit⟩).imp fun _ _ ⟨hitem, hsame⟩ =>
        hsame.eq_of_not_hasBookkeeping hitem
    rw [heq]

/-- If the first item has nothing but bookkeeping, the table has no column. -/
theorem drawTable_eq_dataTable_nil {first : Json}
    (hfirst : (Item.limit s items).head? = some first) (hfield : ¬ HasShownField first) :
    drawTable ⟨(id, some (.array items)) :: rest⟩ s options =
      dataTable [] (Item.limit s items) := by
  obtain ⟨most, hmost, hcolumns⟩ := hs.exists_tableColumns_eq options
  obtain ⟨more, hlimit⟩ := List.head?_eq_some_iff.1 hfirst
  rw [drawTable_array, hlimit]
  show dataTable (tableColumns s options first) (first :: more) = _
  rw [hcolumns, (inferColumns_eq_nil_iff hmost).2 hfield]

/-- A table whose first record has no field to show tells some change of a value of a bookkeeping
field. -/
theorem exists_drawTable_ne (hitems : ∀ item ∈ items, item.isObject) {first item : Json}
    (hfirst : (Item.limit s items).head? = some first) (hfield : ¬ HasShownField first)
    (hitem : item ∈ Item.limit s items) (hbook : HasBookkeeping item) :
    ∃ others, List.Forall₂ SameBesideBookkeeping items others ∧
      (drawTable ⟨(id, some (.array items)) :: rest⟩ s options).render ≠
        (drawTable ⟨(id, some (.array others)) :: rest⟩ s options).render := by
  -- put a list of the value in the place of the value, which makes its text longer
  obtain ⟨key, hkey, hbook⟩ := hbook
  cases item with
  | object fields =>
    obtain ⟨value, hvalue⟩ := isSome_get?_object.1 hkey
    obtain ⟨before, after, rfl⟩ := List.append_of_mem hvalue
    obtain ⟨i, hi⟩ := List.getElem?_of_mem hitem
    have hothers := forall₂_set hitems (getElem?_of_limit hi)
      (.of_value before after hbook value (.array [value]))
    obtain ⟨other, hother, hsame⟩ :=
      exists_head?_of_forall₂ (limit_forall₂ (s := s) hothers) hfirst
    obtain ⟨hlength, hget⟩ := List.getElem?_eq_some_iff.1 hi
    refine ⟨_, hothers, ?_⟩
    rw [drawTable_eq_dataTable_nil options hs id rest hfirst hfield,
      drawTable_eq_dataTable_nil options hs id rest hother (mt hsame.hasShownField_iff.2 hfield),
      limit_set]
    exact render_dataTable_nil_ne hlength hget
  | _ => cases hkey

end

/-- **Tables hide bookkeeping** exactly if there is something else to show. Let the section name no
column. The text of the table of records stays the same under all changes of values of bookkeeping
fields exactly if the first record shown has a field that is no bookkeeping, or no record shown has
any bookkeeping. -/
theorem drawTable_hides_bookkeeping_iff {s : Section} {items : List Json}
    (options : RenderOptions) (hs : NamesNoColumn s) (id : String)
    (rest : List (String × Option Json)) (hitems : ∀ item ∈ items, item.isObject) :
    (∀ others, List.Forall₂ SameBesideBookkeeping items others →
      (drawTable ⟨(id, some (.array items)) :: rest⟩ s options).render =
        (drawTable ⟨(id, some (.array others)) :: rest⟩ s options).render) ↔
    (∃ first, (Item.limit s items).head? = some first ∧ HasShownField first) ∨
      ∀ item ∈ Item.limit s items, ¬ HasBookkeeping item := by
  constructor
  · intro h
    by_contra hnot
    rw [not_or, not_forall] at hnot
    obtain ⟨hfield, item, hitem⟩ := hnot
    obtain ⟨hitem, hbook⟩ := Classical.not_imp.1 hitem
    cases hlimit : Item.limit s items with
    | nil => simp [hlimit] at hitem
    | cons first more =>
      have hfirst : (Item.limit s items).head? = some first := by rw [hlimit]; rfl
      obtain ⟨others, hothers, hne⟩ := exists_drawTable_ne options hs id rest hitems
        hfirst (fun hshown => hfield ⟨first, hfirst, hshown⟩) hitem (not_not.1 hbook)
      exact hne (h others hothers)
  · intro h others hothers
    rw [drawTable_eq_of_sameBesideBookkeeping options hs id rest hothers h]

/-- Beside a field to show, an id is hidden, also in a second record that has only an id. -/
theorem drawTable_hides_bookkeeping_of_names :
    let s : Section := { id := "s" }
    let items (first second : String) : List Json :=
      [.object [("id", .string first), ("name", .string "Leak")], .object [("id", .string second)]]
    let text (items : List Json) := (drawTable ⟨[("d", some (.array items))]⟩ s {}).render
    (∀ others, List.Forall₂ SameBesideBookkeeping (items "F1" "F2") others →
      text (items "F1" "F2") = text others) ∧
    text (items "F1" "F2") = text (items "F3" "F4") := by
  intro s items text
  have hs : NamesNoColumn s := fun _ h => nomatch h
  have hname : HasShownField (.object [("id", .string "F1"), ("name", .string "Leak")]) :=
    ⟨"name", by decide, by decide +kernel⟩
  have hhides : ∀ others, List.Forall₂ SameBesideBookkeeping (items "F1" "F2") others →
      text (items "F1" "F2") = text others :=
    (drawTable_hides_bookkeeping_iff {} hs "d" [] (by decide)).2 (.inl ⟨_, rfl, hname⟩)
  refine ⟨hhides, hhides _ (.cons ?_ (.cons ?_ .nil))⟩
  · exact .of_value [] [("name", .string "Leak")] (by decide) _ _
  · exact .of_value [] [] (by decide) _ _

/-- A record that has only an id is shown with it. -/
theorem drawTable_shows_id_of_no_other_field :
    let s : Section := { id := "s" }
    let item (id : String) : Json := .object [("id", .string id)]
    let text (item : Json) := (drawTable ⟨[("d", some (.array [item]))]⟩ s {}).render
    List.Forall₂ SameBesideBookkeeping [item "F1"] [item "F2"] ∧
    text (item "F1") = "<table class=\"data-table\"><thead><tr><th>Value</th></tr></thead>" ++
      "<tbody><tr><td>\x7b&quot;id&quot;:&quot;F1&quot;\x7d</td></tr></tbody></table>" ∧
    text (item "F1") ≠ text (item "F2") :=
  ⟨.cons (.of_value [] [] (by decide) _ _) .nil, by decide +kernel, by decide +kernel⟩

end Visual

end DiagnosticReport
