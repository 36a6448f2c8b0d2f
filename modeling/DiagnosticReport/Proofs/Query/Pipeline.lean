import DiagnosticReport.Proofs.Query.MergeSort
import DiagnosticReport.Proofs.Text.Alphabetic
import DiagnosticReport.Query.Pipeline
import Mathlib.Data.List.Perm.Subperm

/-!
# What a pipeline keeps

A pipeline over an array answers with one page of the stable sort of the kept items
(`Pipeline.apply_eq_page`). The order of items compares numbers with numbers and texts with texts,
two orders that do not fit together: it is transitive if the field of the sort is a number on all
kept items or on none (`SortKey.IsUniform`), and then the stable sort is the only list that the
rules of the sort allow.
-/

namespace DiagnosticReport

open Std

/-! ## Directions -/

/-- An order turned in a direction is an order. -/
theorem Direction.orient_trans (direction : Direction) {α : Type} (cmp : α → α → Ordering)
    [TransCmp cmp] : TransCmp fun a b => direction.orient (cmp a b) := by
  cases direction with
  | ascending => exact inferInstanceAs (TransCmp cmp)
  | descending =>
    have h : (fun a b => Direction.orient .descending (cmp a b)) = fun a b => cmp b a := by
      funext a b
      exact (inferInstance : OrientedCmp cmp).eq_swap.symm
    rw [h]
    infer_instance

theorem Direction.orient_swap (direction : Direction) (order : Ordering) :
    direction.orient order.swap = (direction.orient order).swap := by
  cases direction <;> rfl

/-! ## The order of items -/

namespace SortKey

theorem compareValues_number (m n : Number) :
    compareValues (some (.number m)) (some (.number n)) =
      compare (Binary64.rank m.toFloat) (Binary64.rank n.toFloat) :=
  rfl

/-- Values are compared as texts unless both are numbers. -/
theorem compareValues_of_not_number {a b : Option Json}
    (h : ¬ (a.any Json.isNumber ∧ b.any Json.isNumber)) :
    compareValues a b = compareText (sortText a) (sortText b) := by
  unfold compareValues
  split
  · exact absurd ⟨rfl, rfl⟩ h
  · rfl

theorem exists_number_of_any {value : Option Json} (h : value.any Json.isNumber) :
    ∃ n, value = some (.number n) := by
  cases value with
  | none => cases h
  | some value =>
    cases value with
    | number n => exact ⟨n, rfl⟩
    | _ => cases h

/-- The order of values is the same from both sides. -/
theorem compareValues_swap (a b : Option Json) : compareValues a b = (compareValues b a).swap := by
  by_cases h : a.any Json.isNumber ∧ b.any Json.isNumber
  · obtain ⟨m, rfl⟩ := exists_number_of_any h.1
    obtain ⟨n, rfl⟩ := exists_number_of_any h.2
    rw [compareValues_number, compareValues_number]
    exact OrientedOrd.eq_swap
  · rw [compareValues_of_not_number h, compareValues_of_not_number fun h' => h h'.symm]
    exact (inferInstance : OrientedCmp compareText).eq_swap

/-- The order of items is oriented, even where it is not transitive. -/
instance compareItems_oriented (key : SortKey) : OrientedCmp key.compareItems where
  eq_swap {a b} := by
    rw [compareItems, compareValues_swap, Direction.orient_swap]
    rfl

/-- The value that an item is sorted by is a number. -/
def isNumeric (key : SortKey) (item : Json) : Bool :=
  (item.get? key.field).any Json.isNumber

/-- All of the items are sorted by a number, or none is. -/
def IsUniform (key : SortKey) (items : List Json) : Prop :=
  (∀ item ∈ items, key.isNumeric item) ∨ ∀ item ∈ items, ¬ key.isNumeric item

instance (key : SortKey) (items : List Json) : Decidable (key.IsUniform items) :=
  inferInstanceAs (Decidable (_ ∨ _))

/-- The rank of the number that an item is sorted by; 0 without one. -/
def rankOf (key : SortKey) (item : Json) : Int :=
  (((item.get? key.field).bind Json.asFloat?).map Binary64.rank).getD 0

/-- The text that an item is sorted by. -/
def textOf (key : SortKey) (item : Json) : String :=
  sortText (item.get? key.field)

theorem compareItems_eq_compare_rankOf {key : SortKey} {a b : Json} (ha : key.isNumeric a)
    (hb : key.isNumeric b) :
    key.compareItems a b = key.direction.orient (compareOn key.rankOf a b) := by
  obtain ⟨m, hm⟩ := exists_number_of_any ha
  obtain ⟨n, hn⟩ := exists_number_of_any hb
  simp [compareItems, compareOn, rankOf, hm, hn, compareValues_number, Json.asFloat?]

theorem compareItems_eq_compareText_textOf {key : SortKey} {a : Json} (b : Json)
    (ha : ¬ key.isNumeric a) :
    key.compareItems a b = key.direction.orient (compareText (key.textOf a) (key.textOf b)) := by
  rw [compareItems, compareValues_of_not_number fun h => ha h.1]
  rfl

/-- The order of items is transitive on items that are all sorted by a number, or none of which
is. -/
theorem IsUniform.transitiveOn {key : SortKey} {items : List Json} (h : key.IsUniform items) :
    TransitiveOn key.compareItems items := by
  rcases h with h | h
  · have := key.direction.orient_trans (compareOn key.rankOf)
    exact .of_agree fun a ha b hb => compareItems_eq_compare_rankOf (h a ha) (h b hb)
  · have htext : TransCmp fun a b => compareText (key.textOf a) (key.textOf b) :=
      { eq_swap := (inferInstance : OrientedCmp compareText).eq_swap
        isLE_trans := (inferInstance : TransCmp compareText).isLE_trans }
    have := key.direction.orient_trans fun a b => compareText (key.textOf a) (key.textOf b)
    exact .of_agree fun a ha b _ => compareItems_eq_compareText_textOf b (h a ha)

end SortKey

/-! ## Pipelines -/

namespace Pipeline

/-- The item satisfies every condition of every filter. -/
def Keeps (pipeline : Pipeline) (item : Json) : Prop :=
  ∀ filter ∈ pipeline.filters, ∀ predicate ∈ filter.predicates, predicate.holds item

instance (pipeline : Pipeline) : DecidablePred pipeline.Keeps := fun _ =>
  inferInstanceAs (Decidable (∀ _ ∈ _, _))

/-- The items that a pipeline keeps, in their order. -/
def kept (pipeline : Pipeline) (items : List Json) : List Json :=
  items.filter fun item => pipeline.Keeps item

/-- The list holds the items in the order that the sort of a pipeline asks for. -/
def IsArrangement (pipeline : Pipeline) (items arranged : List Json) : Prop :=
  match pipeline.sort with
  | some key => IsStableSort key.compareItems items arranged
  | none => arranged = items

theorem select_eq_kept (pipeline : Pipeline) (items : List Json) :
    pipeline.select items = pipeline.kept items := by
  unfold select kept
  congr 1
  funext item
  rw [Bool.eq_iff_iff, decide_eq_true_iff]
  simp [Filter.passes, Keeps]

/-- A pipeline breaks down where the sort of the kept items does. -/
theorem breaks_array_iff {pipeline : Pipeline} {items : List Json} :
    pipeline.breaks (.array items) ↔
      ∃ key, pipeline.sort = some key ∧ sort? key.compareItems (pipeline.kept items) = none := by
  rw [breaks, select_eq_kept, arrange?]
  cases pipeline.sort <;> simp

/-- A pipeline does not break down if its sort is uniform on the kept items. -/
theorem breaks_array_eq_false {pipeline : Pipeline} {items : List Json}
    (h : ∀ key, pipeline.sort = some key → key.IsUniform (pipeline.kept items)) :
    pipeline.breaks (.array items) = false := by
  rw [Bool.eq_false_iff]
  intro hbreaks
  obtain ⟨key, hkey, hnone⟩ := breaks_array_iff.1 hbreaks
  rw [sort?_eq_stableSort (h key hkey).transitiveOn] at hnone
  cases hnone

/-- The sort of a pipeline gives the one arrangement of items that it is uniform on. -/
theorem isArrangement_iff {pipeline : Pipeline} {items : List Json}
    (h : ∀ key, pipeline.sort = some key → key.IsUniform items) (arranged : List Json) :
    pipeline.IsArrangement items arranged ↔ arranged = pipeline.arrange items := by
  unfold IsArrangement arrange arrange?
  cases hsort : pipeline.sort with
  | none => exact Iff.rfl
  | some key =>
    have htrans := (h key hsort).transitiveOn
    have hstable := isStableSort_stableSort htrans
    simp only [sort?_eq_stableSort htrans, Option.getD_some]
    exact ⟨fun h => hstable.unique h, fun h => h ▸ hstable⟩

/-- Arranging uniform items neither adds nor loses any. -/
theorem perm_arrange {pipeline : Pipeline} {items : List Json}
    (h : ∀ key, pipeline.sort = some key → key.IsUniform items) :
    (pipeline.arrange items).Perm items := by
  unfold arrange arrange?
  cases hsort : pipeline.sort with
  | none => exact .refl _
  | some key =>
    simp only [sort?_eq_stableSort (h key hsort).transitiveOn, Option.getD_some]
    exact perm_stableSort _ _

/-! ### Pages -/

/-- A page shows the items from its offset on, below its limit. -/
theorem getElem?_page (pipeline : Pipeline) (items : List Json) (i : Nat) :
    (pipeline.page items)[i]? =
      if pipeline.limit.all (i < ·) then items[pipeline.offset.getD 0 + i]? else none := by
  unfold page
  cases pipeline.limit with
  | none => simp
  | some limit => simp [List.getElem?_take]

/-- A page has as many items as there are behind its offset and its limit allows. -/
theorem length_page (pipeline : Pipeline) (items : List Json) :
    (pipeline.page items).length =
      pipeline.limit.elim id min (items.length - pipeline.offset.getD 0) := by
  unfold page
  cases pipeline.limit <;> simp

theorem sublist_page (pipeline : Pipeline) (items : List Json) :
    (pipeline.page items).Sublist items := by
  unfold page
  split
  · exact (List.take_sublist _ _).trans (List.drop_sublist _ _)
  · exact List.drop_sublist _ _

/-- **The result of a pipeline.** Over an array a pipeline does not break down, and its result is a
page of the kept items in their only arrangement: the items from the offset on, up to the limit,
none of them invented or doubled. Any other value stays as it is. -/
theorem apply_eq_page (pipeline : Pipeline) :
    (∀ items, (∀ key, pipeline.sort = some key → key.IsUniform (pipeline.kept items)) →
      pipeline.breaks (.array items) = false ∧ ∃ arranged page : List Json,
        (∀ other, pipeline.IsArrangement (pipeline.kept items) other ↔ other = arranged) ∧
        (∀ i, page[i]? =
          if pipeline.limit.all (i < ·) then arranged[pipeline.offset.getD 0 + i]? else none) ∧
        pipeline.apply (.array items) = .array page ∧
        page.length =
          pipeline.limit.elim id min ((pipeline.kept items).length - pipeline.offset.getD 0) ∧
        page.Subperm items) ∧
    ∀ value : Json, ¬ value.isArray →
      pipeline.breaks value = false ∧ pipeline.apply value = value := by
  refine ⟨fun items h => ?_, fun value hvalue => ?_⟩
  · let arranged := pipeline.arrange (pipeline.kept items)
    have hperm : arranged.Perm (pipeline.kept items) := perm_arrange h
    refine ⟨breaks_array_eq_false h, arranged, pipeline.page arranged, isArrangement_iff h,
      pipeline.getElem?_page arranged, ?_, ?_, ?_⟩
    · rw [apply, select_eq_kept]
    · rw [length_page, hperm.length_eq]
    · have hpage := (pipeline.sublist_page arranged).subperm
      have hkept : (pipeline.kept items).Sublist items := List.filter_sublist
      exact hpage.trans (hperm.subperm.trans hkept.subperm)
  · cases value with
    | array items => exact absurd rfl hvalue
    | _ => exact ⟨rfl, rfl⟩

/-- Three scores, two of them tied and one under another type, leave one item behind an offset. -/
theorem apply_eq_page_of_scores :
    let pipeline : Pipeline :=
      { filters := [{ kind := some "gap" }], sort := some ⟨"score", .descending⟩,
        limit := some 5, offset := some 1 }
    let item (kind : String) (score : Int) : Json :=
      .object [("type", .string kind), ("score", .number (.int score))]
    let items := [item "gap" 7, item "strength" 9, item "gap" 7]
    (∀ key, pipeline.sort = some key → key.IsUniform (pipeline.kept items)) ∧
      pipeline.breaks (.array items) = false ∧
      ∃ page, pipeline.apply (.array items) = .array page ∧ page.length = 1 := by
  intro pipeline item items
  have h : ∀ key, pipeline.sort = some key → key.IsUniform (pipeline.kept items) := by
    intro key hkey
    obtain rfl : ⟨"score", .descending⟩ = key := Option.some.inj hkey
    decide
  obtain ⟨hbreaks, arranged, page, -, -, happly, hlength, -⟩ := pipeline.apply_eq_page.1 items h
  exact ⟨h, hbreaks, page, happly, hlength.trans (by decide)⟩

end Pipeline

end DiagnosticReport
